import BondQuery.Proofs.AssemblySteps

/- What a failing operation leaves behind. Most operations look before they change anything, and
   a failure of theirs can be left out of a run. Closing takes the innermost group off before it
   looks at the separators, and building ends the assembly before the baseline is known: these
   two failures lose a group with its clauses, or the chance to build again. -/
namespace BondQuery

/-- The operation changes the assembly before its last check. -/
def Operation.ActsEarly (a : Assembly) : Operation → Prop
  | .close _ => a.built = false ∧ a.groups ≠ []
  | .build _ => a.built = false ∧ a.groups = [] ∧ a.roots.length ≤ 1
  | _ => False

def Operation.remains (a : Assembly) : Operation → Assembly
  | .close _ => { a with groups := a.groups.tail }
  | .build _ => { a with built := true }
  | _ => a

namespace Assembly
variable {a b : Assembly} {fault : Error}

theorem kept_of_openGroup_error {kind : GroupKind} (failed : a.openGroup kind = (.error fault, b)) :
    b = a := by
  unfold openGroup refuse at failed
  split at failed <;> simp_all

theorem kept_of_add_error {q : Query} (failed : a.add q = (.error fault, b)) : b = a := by
  unfold add refuse at failed
  split at failed
  · simp at failed
  · split at failed <;> simp_all

theorem kept_of_append_error {q : Query} (failed : a.append q = (.error fault, b)) : b = a := by
  unfold append refuse at failed
  split at failed
  · simp_all
  · exact kept_of_add_error failed

theorem kept_of_separate_error (failed : a.separate = (.error fault, b)) : b = a := by
  unfold separate refuse at failed
  split at failed
  · simp_all
  · split at failed
    · simp_all
    · split at failed <;> simp_all

theorem groups_of_close_error {atLeastOne : Bool} (failed : a.close atLeastOne = (.error fault, b)) :
    if a.built = false ∧ a.groups ≠ [] then b = { a with groups := a.groups.tail } else b = a := by
  unfold close refuse at failed
  split at failed
  · simp_all
  · split at failed
    · simp_all
    · split at failed
      · simp_all
      · have outside := kept_of_add_error failed
        simp_all

theorem built_of_build_error {settings : Settings} {count : Bool}
    (failed : a.build settings count = (.error fault, b)) :
    if a.built = false ∧ a.groups = [] ∧ a.roots.length ≤ 1 then b = { a with built := true }
    else b = a := by
  unfold build refuse at failed
  split at failed
  · simp_all
  · split at failed
    · simp_all
    · split at failed
      · have several : ¬ a.roots.length ≤ 1 := by omega
        rw [if_neg fun early => several early.2.2]
        exact (Prod.mk.inj failed).2.symm
      · have single : a.roots.length ≤ 1 := by omega
        simp_all

theorem remains_ne {op : Operation} (early : op.ActsEarly a) : op.remains a ≠ a := by
  intro same
  cases op with
  | close atLeastOne =>
    have shorter := congrArg (·.groups.length) same
    have filled := List.length_pos_iff.mpr early.2
    simp only [Operation.remains, List.length_tail] at shorter
    omega
  | build count =>
    have ended := congrArg (·.built) same
    rw [early.1] at ended
    cases ended
  | _ => cases early

end Assembly

namespace Session
open Assembly

variable {engine : Engine} {s t next : Session} {ops : List Operation} {op : Operation}
  {fault : Error}

theorem ofOutcome_eq_error {α : Type} {answer : α → Answer} {outcome : Assembly.Outcome α}
    (failed : s.ofOutcome answer outcome = (.error fault, next)) :
    outcome = (.error fault, next.assembly) := by
  obtain ⟨result, b⟩ := outcome
  cases result with
  | error cause =>
    cases failed
    rfl
  | ok value => cases failed

theorem assembly_of_failure (failed : s.step engine op = (.error fault, next)) :
    (¬ op.ActsEarly s.assembly ∧ next.assembly = s.assembly) ∨
      (op.ActsEarly s.assembly ∧ next.assembly = op.remains s.assembly) := by
  cases op with
  | openGroup kind => exact .inl ⟨id, kept_of_openGroup_error (ofOutcome_eq_error failed)⟩
  | append q => exact .inl ⟨id, kept_of_append_error (ofOutcome_eq_error failed)⟩
  | separate => exact .inl ⟨id, kept_of_separate_error (ofOutcome_eq_error failed)⟩
  | close atLeastOne =>
    have left := groups_of_close_error (ofOutcome_eq_error failed)
    split at left
    · rename_i early
      exact .inr ⟨early, left⟩
    · rename_i late
      exact .inl ⟨late, left⟩
  | build count =>
    have left := built_of_build_error (ofOutcome_eq_error failed)
    split at left
    · rename_i early
      exact .inr ⟨early, left⟩
    · rename_i late
      exact .inl ⟨late, left⟩
  | _ =>
    have left := congrArg (·.2.assembly) failed
    exact .inl ⟨id, left.symm⟩

theorem step_of_same_assembly (same : t.assembly = s.assembly) :
    (t.step engine op).2.assembly = (s.step engine op).2.assembly := by
  cases op <;> simp [step, ofOutcome, ofQuery, ofFound, same]

/-- No operation of the run fails after it has changed the assembly. -/
def Harmless (engine : Engine) : Session → List Operation → Prop
  | _, [] => True
  | s, op :: rest =>
    ((s.step engine op).1.toBool = true ∨ ¬ op.ActsEarly s.assembly) ∧
      Harmless engine (s.step engine op).2 rest

/-- The operations of a run that did not fail. -/
def kept (engine : Engine) : Session → List Operation → List Operation
  | _, [] => []
  | s, op :: rest =>
    if (s.step engine op).1.toBool then op :: kept engine (s.step engine op).2 rest
    else kept engine (s.step engine op).2 rest

theorem assembly_of_kept (harmless : Harmless engine s ops) (same : t.assembly = s.assembly) :
    (run engine t (kept engine s ops)).2.assembly = (run engine s ops).2.assembly := by
  -- the two runs go side by side and share the assembly, though not the lookups
  induction ops generalizing s t with
  | nil => exact same
  | cons op rest ih =>
    obtain ⟨first, later⟩ := harmless
    rw [kept]
    split
    · exact ih later (step_of_same_assembly same)
    · rename_i failed
      refine ih later ?_
      cases answer : s.step engine op with
      | mk result next =>
        cases result with
        | ok given => simp [answer, Except.toBool] at failed
        | error fault =>
          have late : ¬ op.ActsEarly s.assembly := first.resolve_left failed
          rcases assembly_of_failure answer with ⟨_, left⟩ | ⟨early, _⟩
          · exact same.trans left.symm
          · exact absurd early late

/-- A failing operation is atomic unless it acts before its last check, and then it leaves
    exactly what that act leaves. Where all failures of a run are atomic, the run assembles and
    builds what its successful operations alone would. -/
theorem failure_atomic_iff (engine : Engine) (ops : List Operation) :
    (∀ op fault next, (run engine .start ops).2.step engine op = (.error fault, next) →
      (next.assembly = (run engine .start ops).2.assembly ↔
        ¬ op.ActsEarly (run engine .start ops).2.assembly) ∧
      (op.ActsEarly (run engine .start ops).2.assembly →
        next.assembly = op.remains (run engine .start ops).2.assembly)) ∧
    (Harmless engine .start ops →
      (run engine .start (kept engine .start ops)).2.assembly =
        (run engine .start ops).2.assembly ∧
      ∀ count, ((run engine .start (kept engine .start ops)).2.step engine (.build count)).1 =
        ((run engine .start ops).2.step engine (.build count)).1) := by
  constructor
  · intro op fault next failed
    rcases assembly_of_failure failed with ⟨late, left⟩ | ⟨early, left⟩
    · exact ⟨iff_of_true left late, fun early => absurd early late⟩
    · refine ⟨iff_of_false ?_ (not_not_intro early), fun _ => left⟩
      rw [left]
      exact remains_ne early
  · intro harmless
    have same := assembly_of_kept harmless rfl
    refine ⟨same, fun count => ?_⟩
    simp only [step, ofOutcome, same]

/-- A closing tag behind a separator is refused, and the group with its clause is gone: the
    query built next asks for every record. -/
theorem refused_close_drops_clause :
    ¬ ∀ (engine : Engine) (ops : List Operation) (op : Operation) (fault : Error) (next : Session),
      (run engine .start ops).2.step engine op = (.error fault, next) →
      next.assembly = (run engine .start ops).2.assembly := by
  intro atomic
  have left := atomic ⟨.standard, none⟩
    [.openGroup .must, .append (.phrase "title" "Ocean"), .separate] (.close false)
    (.assembly .trailingSeparator) .start rfl
  have groups := congrArg (·.groups.length) left
  revert groups
  decide

theorem refused_sibling_left_out :
    kept ⟨.standard, none⟩ .start
        [.openGroup .must, .append (.phrase "title" "Ocean"), .append (.phrase "keyword" "sea"),
          .close false] =
      [.openGroup .must, .append (.phrase "title" "Ocean"), .close false] ∧
    (run ⟨.standard, none⟩ .start
        [.openGroup .must, .append (.phrase "title" "Ocean"), .close false]).2.assembly =
      (run ⟨.standard, none⟩ .start
        [.openGroup .must, .append (.phrase "title" "Ocean"), .append (.phrase "keyword" "sea"),
          .close false]).2.assembly := by
  refine ⟨rfl, ((failure_atomic_iff ⟨.standard, none⟩ [.openGroup .must,
    .append (.phrase "title" "Ocean"), .append (.phrase "keyword" "sea"), .close false]).2 ?_).1⟩
  exact ⟨.inl rfl, .inl rfl, .inr id, .inl rfl, trivial⟩

end Session

end BondQuery
