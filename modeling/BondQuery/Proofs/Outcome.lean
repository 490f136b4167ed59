/- Steps that may fail, taken apart: a chain or a list of them succeeds exactly when each of its
   steps does. -/
namespace BondQuery
variable {ε α β : Type}

theorem bind_eq_ok_iff {x : Except ε α} {f : α → Except ε β} {b : β} :
    x >>= f = .ok b ↔ ∃ a, x = .ok a ∧ f a = .ok b := by
  cases x <;> simp [bind, Except.bind]

theorem map_eq_ok_iff {x : Except ε α} {f : α → β} {b : β} :
    x.map f = .ok b ↔ ∃ a, x = .ok a ∧ f a = b := by
  cases x <;> simp [Except.map]

theorem map_eq_error_iff {x : Except ε α} {f : α → β} {e : ε} :
    x.map f = .error e ↔ x = .error e := by
  cases x <;> simp [Except.map]

theorem exists_ok_of_toBool {x : Except ε α} (succeeds : x.toBool = true) : ∃ a, x = .ok a := by
  cases x with
  | ok a => exact ⟨a, rfl⟩
  | error fault => cases succeeds

theorem bind_eq_error_iff {x : Except ε α} {f : α → Except ε β} {e : ε} :
    x >>= f = .error e ↔ x = .error e ∨ ∃ a, x = .ok a ∧ f a = .error e := by
  cases x <;> simp [bind, Except.bind]

theorem exists_ok_bind_iff {x : Except ε α} {f : α → Except ε β} :
    (∃ b, x >>= f = .ok b) ↔ ∃ a, x = .ok a ∧ ∃ b, f a = .ok b := by
  cases x <;> simp [bind, Except.bind]

theorem mapM_cons_eq_ok_iff {f : α → Except ε β} {x : α} {rest : List α} {ys : List β} :
    (x :: rest).mapM f = .ok ys ↔
      ∃ y later, f x = .ok y ∧ rest.mapM f = .ok later ∧ y :: later = ys := by
  rw [List.mapM_cons]
  simp [bind_eq_ok_iff, pure, Except.pure]

theorem exists_ok_mapM_iff {f : α → Except ε β} {xs : List α} :
    (∃ ys, xs.mapM f = .ok ys) ↔ ∀ x ∈ xs, ∃ y, f x = .ok y := by
  induction xs with
  | nil => simp [pure, Except.pure]
  | cons x rest ih =>
    simp only [mapM_cons_eq_ok_iff, List.forall_mem_cons, ← ih]
    constructor
    · rintro ⟨_, y, later, first, others, _⟩
      exact ⟨⟨y, first⟩, later, others⟩
    · rintro ⟨⟨y, first⟩, later, others⟩
      exact ⟨_, y, later, first, others, rfl⟩

theorem mem_of_mapM_iff {f : α → Except ε β} {xs : List α} {ys : List β}
    (built : xs.mapM f = .ok ys) (y : β) : y ∈ ys ↔ ∃ x ∈ xs, f x = .ok y := by
  induction xs generalizing ys with
  | nil =>
    cases built
    simp
  | cons x rest ih =>
    obtain ⟨first, later, head, others, whole⟩ := mapM_cons_eq_ok_iff.mp built
    subst whole
    rw [List.mem_cons, ih others]
    simp [head, eq_comm]

theorem exists_error_of_mapM {f : α → Except ε β} {xs : List α} {e : ε}
    (failed : xs.mapM f = .error e) : ∃ x ∈ xs, f x = .error e := by
  induction xs with
  | nil => cases failed
  | cons x rest ih =>
    rw [List.mapM_cons] at failed
    rcases bind_eq_error_iff.mp failed with first | ⟨y, _, later⟩
    · exact ⟨x, List.mem_cons_self, first⟩
    · rcases bind_eq_error_iff.mp later with others | ⟨ys, _, none⟩
      · obtain ⟨x', member, same⟩ := ih others
        exact ⟨x', List.mem_cons_of_mem x member, same⟩
      · cases none

theorem mapM_eq_nil_iff {f : α → Except ε β} {xs : List α} {ys : List β}
    (built : xs.mapM f = .ok ys) : ys = [] ↔ xs = [] := by
  cases xs with
  | nil =>
    cases built
    simp
  | cons x rest =>
    obtain ⟨first, later, _, _, whole⟩ := mapM_cons_eq_ok_iff.mp built
    simp [← whole]

theorem map_eq_of_mapM {γ : Type} {f : α → Except ε β} {xs : List α} {ys : List β} {g : β → γ}
    {h : α → γ} (built : xs.mapM f = .ok ys) (same : ∀ x ∈ xs, ∀ y, f x = .ok y → g y = h x) :
    ys.map g = xs.map h := by
  induction xs generalizing ys with
  | nil =>
    cases built
    rfl
  | cons x rest ih =>
    obtain ⟨first, later, head, others, whole⟩ := mapM_cons_eq_ok_iff.mp built
    obtain ⟨here, there⟩ := List.forall_mem_cons.mp same
    rw [← whole, List.map_cons, List.map_cons, here first head, ih others there]

theorem forM_flatMap (g : α → List β) (check : β → Except ε Unit) (xs : List α) :
    forM (xs.flatMap g) check = forM xs fun x => forM (g x) check := by
  induction xs with
  | nil => rfl
  | cons x rest ih => rw [List.flatMap_cons, List.forM_append, List.forM_cons, ih]

theorem forM_congr {check check' : α → Except ε Unit} {xs : List α}
    (same : ∀ x ∈ xs, check x = check' x) : forM xs check = forM xs check' := by
  induction xs with
  | nil => rfl
  | cons x rest ih =>
    obtain ⟨here, there⟩ := List.forall_mem_cons.mp same
    rw [List.forM_cons, List.forM_cons, here, ih there]

theorem forM_eq_ok_iff {check : α → Except ε Unit} {xs : List α} :
    forM xs check = .ok () ↔ ∀ x ∈ xs, check x = .ok () := by
  induction xs with
  | nil => exact iff_of_true rfl nofun
  | cons x rest ih =>
    rw [List.forM_cons, bind_eq_ok_iff, List.forall_mem_cons, ih]
    constructor
    · rintro ⟨_, passed, others⟩
      exact ⟨passed, others⟩
    · rintro ⟨passed, others⟩
      exact ⟨(), passed, others⟩

theorem forM_eq_error_iff {check : α → Except ε Unit} {xs : List α} {e : ε} :
    forM xs check = .error e ↔
      ∃ before x after, xs = before ++ x :: after ∧ (∀ y ∈ before, check y = .ok ()) ∧
        check x = .error e := by
  induction xs with
  | nil => simp [pure, Except.pure]
  | cons x rest ih =>
    rw [List.forM_cons, bind_eq_error_iff]
    constructor
    · rintro (first | ⟨_, passed, later⟩)
      · exact ⟨[], x, rest, rfl, nofun, first⟩
      · obtain ⟨before, y, after, rfl, passing, failed⟩ := ih.mp later
        exact ⟨x :: before, y, after, rfl, List.forall_mem_cons.mpr ⟨passed, passing⟩, failed⟩
    · rintro ⟨before, y, after, split, passing, failed⟩
      cases before with
      | nil =>
        cases split
        exact .inl failed
      | cons z before =>
        cases split
        obtain ⟨passed, others⟩ := List.forall_mem_cons.mp passing
        exact .inr ⟨(), passed, ih.mpr ⟨before, y, after, rfl, others, failed⟩⟩

end BondQuery
