import BondQuery.Proofs.FailedOperations

/- What holds of an assembly after any run, with failures in it or not. The changes that an
   operation can make are listed once. That separators stand behind clauses, that a step reaches
   two groups at most, and that an assembly is built once, is read off that list. -/
namespace BondQuery

def Operation.Assembles : Operation → Prop
  | .openGroup _ | .append _ | .separate | .close _ | .build _ => True
  | _ => False

/-- The operations that need an extremum from the engine. -/
def Operation.LooksUp : Operation → Prop
  | .extremum .. | .timeStamp .. => True
  | _ => False

def Operation.isBuild : Operation → Bool
  | .build _ => true
  | _ => false

namespace Assembly
variable {a b : Assembly} {q : Query}

/-- What one operation can make of an assembly, whether it succeeds or fails. -/
inductive Change (a : Assembly) : Assembly → Prop
  | kept : Change a a
  | opened (unbuilt : a.built = false) (kind : GroupKind) :
      Change a { a with groups := ⟨kind, [], false⟩ :: a.groups }
  | added {b : Assembly} {query : Query} (unbuilt : a.built = false)
      (taken : a.add query = (.ok (), b)) : Change a b
  | separated {group : Group} {outer : List Group} (unbuilt : a.built = false)
      (inside : a.groups = group :: outer) (filled : group.children ≠ []) :
      Change a { a with groups := { group with separated := true } :: outer }
  | dropped (unbuilt : a.built = false) : Change a { a with groups := a.groups.tail }
  | closed {b : Assembly} {query : Query} (unbuilt : a.built = false)
      (taken : { a with groups := a.groups.tail }.add query = (.ok (), b)) : Change a b
  | ended (unbuilt : a.built = false) (shut : a.groups = []) (single : a.roots.length ≤ 1) :
      Change a { a with built := true }

structure Sound (a : Assembly) : Prop where
  separators : ∀ group ∈ a.groups, group.separated = true → group.children ≠ []
  shut : a.built = true → a.groups = []
  single : a.built = true → a.roots.length ≤ 1

theorem sound_of_unbuilt {groups : List Group} {roots : List Query} {built : Bool}
    (unbuilt : built = false)
    (separators : ∀ group ∈ groups, group.separated = true → group.children ≠ []) :
    Sound ⟨groups, roots, built⟩ := by
  constructor
  · exact separators
  · intro ended
    exact absurd (unbuilt.symm.trans ended) Bool.false_ne_true
  · intro ended
    exact absurd (unbuilt.symm.trans ended) Bool.false_ne_true

theorem sound_empty : empty.Sound := by
  apply sound_of_unbuilt rfl
  intro group inside
  cases inside

theorem Sound.tail (sound : a.Sound) (unbuilt : a.built = false) :
    Sound { a with groups := a.groups.tail } := by
  apply sound_of_unbuilt unbuilt
  intro group inside
  exact sound.separators group (List.mem_of_mem_tail inside)

theorem Sound.add (sound : a.Sound) (unbuilt : a.built = false)
    (taken : a.add q = (.ok (), b)) : b.Sound := by
  rcases add_eq_ok_iff.mp taken with ⟨_, left⟩ | ⟨group, outer, inside, _, left⟩
  · subst left
    exact sound_of_unbuilt unbuilt sound.separators
  · subst left
    apply sound_of_unbuilt unbuilt
    intro other member
    rcases List.mem_cons.mp member with first | later
    · intro separated
      rw [first] at separated
      cases separated
    · apply sound.separators
      rw [inside]
      exact List.mem_cons_of_mem group later

theorem Change.sound (change : Change a b) (sound : a.Sound) : b.Sound := by
  cases change with
  | kept => exact sound
  | opened unbuilt kind =>
    apply sound_of_unbuilt unbuilt
    intro group inside separated
    rcases List.mem_cons.mp inside with first | later
    · rw [first] at separated
      cases separated
    · exact sound.separators group later separated
  | added unbuilt taken => exact sound.add unbuilt taken
  | separated unbuilt inside filled =>
    apply sound_of_unbuilt unbuilt
    intro group member separated
    rcases List.mem_cons.mp member with first | later
    · rw [first]
      exact filled
    · apply sound.separators group _ separated
      rw [inside]
      exact List.mem_cons_of_mem _ later
  | dropped unbuilt => exact sound.tail unbuilt
  | closed unbuilt taken => exact (sound.tail unbuilt).add unbuilt taken
  | ended unbuilt shut single => exact ⟨sound.separators, fun _ => shut, fun _ => single⟩

theorem tail_suffix_of_add (taken : a.add q = (.ok (), b)) : a.groups.tail <:+ b.groups := by
  rcases add_eq_ok_iff.mp taken with ⟨outside, left⟩ | ⟨group, outer, inside, _, left⟩
  · subst left
    exact List.tail_suffix a.groups
  · subst left
    rw [inside]
    exact List.suffix_cons _ outer

/-- The groups below the two innermost ones stay where they are and as they are. -/
theorem Change.outer_groups (change : Change a b) : a.groups.drop 2 <:+ b.groups := by
  have below : a.groups.drop 2 = a.groups.tail.tail := by
    rw [← List.drop_one, ← List.drop_one, List.drop_drop]
  cases change with
  | kept => exact List.drop_suffix 2 a.groups
  | opened unbuilt kind => exact (List.drop_suffix 2 a.groups).trans (List.suffix_cons _ _)
  | added unbuilt taken =>
    rw [below]
    exact (List.tail_suffix _).trans (tail_suffix_of_add taken)
  | separated unbuilt inside filled =>
    rw [inside]
    exact (List.drop_suffix 1 _).trans (List.suffix_cons _ _)
  | dropped unbuilt =>
    rw [below]
    exact List.tail_suffix _
  | closed unbuilt taken =>
    rw [below]
    exact tail_suffix_of_add taken
  | ended unbuilt shut single => exact List.drop_suffix 2 a.groups

theorem Change.eq_of_built (change : Change a b) (built : a.built = true) : b = a := by
  cases change with
  | kept => rfl
  | opened unbuilt | added unbuilt | separated unbuilt | dropped unbuilt | closed unbuilt
  | ended unbuilt =>
    rw [unbuilt] at built
    cases built

end Assembly

namespace Session
open Assembly

variable {engine : Engine} {s t next : Session} {ops : List Operation} {op : Operation}
  {given : Answer} {fault : Error}

theorem change_of_success (stepped : s.step engine op = (.ok given, next)) :
    Change s.assembly next.assembly := by
  cases op with
  | openGroup kind =>
    obtain ⟨_, b, taken, _, left⟩ := ofOutcome_eq_ok_iff.mp stepped
    obtain ⟨unbuilt, opened⟩ := openGroup_eq_ok_iff.mp taken
    subst left opened
    exact .opened unbuilt kind
  | append query =>
    obtain ⟨_, b, taken, _, left⟩ := ofOutcome_eq_ok_iff.mp stepped
    obtain ⟨unbuilt, added⟩ := append_eq_ok_iff.mp taken
    subst left
    exact .added unbuilt added
  | separate =>
    obtain ⟨_, b, taken, _, left⟩ := ofOutcome_eq_ok_iff.mp stepped
    obtain ⟨unbuilt, group, outer, inside, filled, _, separated⟩ := separate_eq_ok_iff.mp taken
    subst left separated
    exact .separated unbuilt inside filled
  | close atLeastOne =>
    obtain ⟨_, b, taken, _, left⟩ := ofOutcome_eq_ok_iff.mp stepped
    obtain ⟨unbuilt, group, outer, inside, _, added⟩ := close_eq_ok_iff.mp taken
    have around : outer = s.assembly.groups.tail := by rw [inside, List.tail_cons]
    subst left around
    exact .closed unbuilt added
  | build count =>
    obtain ⟨_, b, taken, _, left⟩ := ofOutcome_eq_ok_iff.mp stepped
    obtain ⟨unbuilt, shut, single, _, ended⟩ := build_eq_ok_iff.mp taken
    subst left ended
    exact .ended unbuilt shut single
  | _ =>
    have same := congrArg (·.2.assembly) stepped
    exact same ▸ .kept

theorem change_of_failure (failed : s.step engine op = (.error fault, next)) :
    Change s.assembly next.assembly := by
  rcases assembly_of_failure failed with ⟨_, left⟩ | ⟨early, left⟩
  · rw [left]
    exact .kept
  · rw [left]
    cases op with
    | close atLeastOne => exact .dropped early.1
    | build count => exact .ended early.1 early.2.1 early.2.2
    | _ => cases early

theorem change_of_step (engine : Engine) (s : Session) (op : Operation) :
    Change s.assembly (s.step engine op).2.assembly := by
  cases stepped : s.step engine op with
  | mk result next =>
    cases result with
    | ok given => exact change_of_success stepped
    | error fault => exact change_of_failure stepped

theorem sound_of_run (sound : s.assembly.Sound) (ops : List Operation) :
    (run engine s ops).2.assembly.Sound := by
  induction ops generalizing s with
  | nil => exact sound
  | cons op rest ih => exact ih ((change_of_step engine s op).sound sound)

theorem assembly_of_built_run (built : s.assembly.built = true) (ops : List Operation) :
    (run engine s ops).2.assembly = s.assembly := by
  induction ops generalizing s with
  | nil => rfl
  | cons op rest ih =>
    have same := (change_of_step engine s op).eq_of_built built
    have still : (s.step engine op).2.assembly.built = true := by rw [same, built]
    exact (ih still).trans same

theorem step_of_built (built : s.assembly.built = true) (assembles : op.Assembles) :
    s.step engine op = (.error (.assembly .finalized), s) := by
  cases op with
  | openGroup kind => simp [step, ofOutcome, openGroup, refuse, built, Except.map]
  | append query => simp [step, ofOutcome, append, refuse, built, Except.map]
  | separate => simp [step, ofOutcome, separate, refuse, built, Except.map]
  | close atLeastOne => simp [step, ofOutcome, close, refuse, built, Except.map]
  | build count => simp [step, ofOutcome, build, refuse, built, Except.map]
  | _ => cases assembles

theorem assembly_of_question (question : ¬ op.Assembles) :
    (s.step engine op).2.assembly = s.assembly := by
  cases op with
  | openGroup | append | separate | close | build => exact absurd trivial question
  | _ => rfl

theorem answer_of_question (question : ¬ op.Assembles) (quiet : ¬ op.LooksUp) :
    (s.step engine op).1 = (t.step engine op).1 := by
  cases op with
  | openGroup | append | separate | close | build => exact absurd trivial question
  | extremum | timeStamp => exact absurd trivial quiet
  | _ => rfl

/-- The builds of a run that return a query, with their answers. -/
def builds (engine : Engine) (s : Session) (ops : List Operation) :
    List (Operation × Except Error Answer) :=
  (ops.zip (run engine s ops).1).filter fun (op, answer) => op.isBuild && answer.toBool

theorem builds_cons : builds engine s (op :: ops) =
    if op.isBuild && (s.step engine op).1.toBool then
      (op, (s.step engine op).1) :: builds engine (s.step engine op).2 ops
    else builds engine (s.step engine op).2 ops := by
  simp only [builds, run, List.zip_cons_cons, List.filter_cons]

theorem builds_of_built (built : s.assembly.built = true) : builds engine s ops = [] := by
  induction ops generalizing s with
  | nil => rfl
  | cons op rest ih =>
    have same := (change_of_step engine s op).eq_of_built built
    have still : (s.step engine op).2.assembly.built = true := by rw [same, built]
    rw [builds_cons, ih still]
    cases op with
    | build count =>
      have assembles : (Operation.build count).Assembles := trivial
      have refused : (s.step engine (.build count)).1.toBool = false := by
        rw [step_of_built built assembles]
        rfl
      rw [refused, Bool.and_false]
      rfl
    | _ => rfl

theorem built_of_build {count : Bool} (returned : (s.step engine (.build count)).1.toBool = true) :
    (s.step engine (.build count)).2.assembly.built = true := by
  obtain ⟨given, answered⟩ := exists_ok_of_toBool returned
  have stepped : s.step engine (.build count) = (.ok given, (s.step engine (.build count)).2) :=
    Prod.ext answered rfl
  obtain ⟨_, b, taken, _, left⟩ := ofOutcome_eq_ok_iff.mp stepped
  obtain ⟨_, _, _, _, ended⟩ := build_eq_ok_iff.mp taken
  rw [← left, ← ended]

theorem length_builds_le (s : Session) (ops : List Operation) :
    (builds engine s ops).length ≤ 1 := by
  induction ops generalizing s with
  | nil => exact Nat.zero_le 1
  | cons op rest ih =>
    rw [builds_cons]
    by_cases returned : (op.isBuild && (s.step engine op).1.toBool) = true
    · rw [if_pos returned]
      cases op with
      | build count =>
        have ended := built_of_build (Bool.and_eq_true_iff.mp returned).2
        rw [builds_of_built ended]
        exact Nat.le_refl 1
      | _ => cases returned
    · rw [if_neg returned]
      exact ih _

/-- In every state that a run reaches the assembly is sound, and a step leaves the groups below
    the two innermost ones alone. A run builds once at most; from then on the assembly refuses
    every operation and stays, while all other questions are answered as in a fresh session. -/
theorem assembly_is_built_once (engine : Engine) (ops : List Operation) :
    let s := (run engine .start ops).2
    s.assembly.Sound ∧
    (∀ op, s.assembly.groups.drop 2 <:+ (s.step engine op).2.assembly.groups) ∧
    (builds engine .start ops).length ≤ 1 ∧
    (s.assembly.built = true → ∀ later,
      let t := (run engine .start (ops ++ later)).2
      t.assembly = s.assembly ∧
      ∀ op, op.Assembles → t.step engine op = (.error (.assembly .finalized), t)) ∧
    ∀ op, ¬ op.Assembles →
      (s.step engine op).2.assembly = s.assembly ∧
      (¬ op.LooksUp → (s.step engine op).1 = (start.step engine op).1) := by
  intro s
  constructor
  · exact sound_of_run sound_empty ops
  constructor
  · intro op
    exact (change_of_step engine s op).outer_groups
  constructor
  · exact length_builds_le start ops
  constructor
  · intro built later t
    have same : t.assembly = s.assembly := by
      have kept : (run engine s later).2.assembly = s.assembly := assembly_of_built_run built later
      rw [← kept]
      simp only [t, run_append]
      rfl
    constructor
    · exact same
    · intro op assembles
      apply step_of_built _ assembles
      rw [same, built]
  · intro op question
    constructor
    · exact assembly_of_question question
    · intro quiet
      exact answer_of_question question quiet

theorem late_clause_refused :
    let s := (run ⟨.standard, none⟩ .start [.append (.phrase "title" "Ocean"), .build true]).2
    s.assembly.built = true ∧
    s.step ⟨.standard, none⟩ (.append (.phrase "keyword" "sea")) =
      (.error (.assembly .finalized), s) ∧
    (s.step ⟨.standard, none⟩ (.lower (.bond ⟨"title", .text⟩ .equal "sea"))).1 =
      (start.step ⟨.standard, none⟩ (.lower (.bond ⟨"title", .text⟩ .equal "sea"))).1 := by
  intro s
  obtain ⟨_, _, _, once, questions⟩ := assembly_is_built_once ⟨.standard, none⟩
    [.append (.phrase "title" "Ocean"), .build true]
  refine ⟨rfl, (once rfl []).2 _ trivial, (questions _ id).2 id⟩

end Session

end BondQuery
