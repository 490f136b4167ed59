import BondQuery.Proofs.Outcome
import BondQuery.Session

/- What each operation of an assembly asks for and leaves behind when it succeeds, and runs of a
   session in which every operation succeeds. -/
namespace BondQuery

namespace Assembly
variable {a b : Assembly}

theorem openGroup_eq_ok_iff {kind : GroupKind} :
    a.openGroup kind = (.ok (), b) ↔
      a.built = false ∧ { a with groups := ⟨kind, [], false⟩ :: a.groups } = b := by
  unfold openGroup refuse
  cases a.built <;> simp

theorem add_eq_ok_iff {query : Query} :
    a.add query = (.ok (), b) ↔
      (a.groups = [] ∧ { a with roots := a.roots ++ [query] } = b) ∨
      ∃ group outer, a.groups = group :: outer ∧ (group.children = [] ∨ group.separated = true) ∧
        { a with groups := ⟨group.kind, group.children ++ [query], false⟩ :: outer } = b := by
  unfold add refuse
  cases found : a.groups with
  | nil => simp
  | cons group outer =>
    cases empty : group.children <;> cases separated : group.separated <;>
      simp [and_assoc, empty, separated]

theorem append_eq_ok_iff {query : Query} :
    a.append query = (.ok (), b) ↔ a.built = false ∧ a.add query = (.ok (), b) := by
  unfold append refuse
  cases a.built <;> simp

theorem separate_eq_ok_iff :
    a.separate = (.ok (), b) ↔
      a.built = false ∧ ∃ group outer, a.groups = group :: outer ∧ group.children ≠ [] ∧
        group.separated = false ∧
        { a with groups := { group with separated := true } :: outer } = b := by
  unfold separate refuse
  cases a.built with
  | true => simp
  | false =>
    cases found : a.groups with
    | nil => simp
    | cons group outer =>
      cases empty : group.children <;> cases separated : group.separated <;>
        simp [and_assoc, empty, separated]

theorem close_eq_ok_iff {atLeastOne : Bool} :
    a.close atLeastOne = (.ok (), b) ↔
      a.built = false ∧ ∃ group outer, a.groups = group :: outer ∧ group.separated = false ∧
        { a with groups := outer }.add (group.clause atLeastOne) = (.ok (), b) := by
  unfold close refuse
  cases a.built with
  | true => simp
  | false =>
    cases found : a.groups with
    | nil => simp
    | cons group outer => cases separated : group.separated <;> simp [and_assoc, separated]

theorem build_eq_ok_iff {settings : Settings} {count : Bool} {compiled : Compiled} :
    a.build settings count = (.ok compiled, b) ↔
      a.built = false ∧ a.groups = [] ∧ a.roots.length ≤ 1 ∧
        (∃ baseline, Baseline.query count settings.deletedIncluded settings.countHonorsDeleted
            settings.ranking = .ok baseline ∧
          .ofParts (a.roots.headD .matchAll) baseline count = compiled) ∧
        { a with built := true } = b := by
  unfold build refuse
  cases a.built with
  | true => simp
  | false =>
    by_cases leftOpen : a.groups = []
    · by_cases several : 1 < a.roots.length
      · have many : ¬ a.roots.length ≤ 1 := by omega
        simp [leftOpen, several, many]
      · have one : a.roots.length ≤ 1 := by omega
        simp [leftOpen, several, one, map_eq_ok_iff]
    · simp [leftOpen]

end Assembly

def Operation.Fills : Operation → Prop
  | .openGroup _ | .append _ | .separate | .close _ => True
  | _ => False

namespace Session
variable {engine : Engine} {s next last : Session} {ops more : List Operation}

/-- No answer of the run is a failure. -/
def Answered (engine : Engine) (s : Session) (ops : List Operation) : Prop :=
  ∀ answer ∈ (run engine s ops).1, ∃ given, answer = .ok given

/-- Every operation of the run is done, and none answers with a query. -/
def Completes (engine : Engine) (s : Session) (ops : List Operation) (last : Session) : Prop :=
  run engine s ops = (List.replicate ops.length (.ok .done), last)

theorem ofOutcome_eq_ok_iff {α : Type} {answer : α → Answer} {outcome : Assembly.Outcome α}
    {given : Answer} :
    s.ofOutcome answer outcome = (.ok given, next) ↔
      ∃ value b, outcome = (.ok value, b) ∧ answer value = given ∧ ⟨b, s.lookups⟩ = next := by
  obtain ⟨result, b⟩ := outcome
  cases result <;> simp [ofOutcome, Except.map, and_assoc]

theorem run_append (s : Session) (ops more : List Operation) :
    run engine s (ops ++ more) =
      ((run engine s ops).1 ++ (run engine (run engine s ops).2 more).1,
        (run engine (run engine s ops).2 more).2) := by
  induction ops generalizing s with
  | nil => rfl
  | cons op rest ih => simp [run, ih]

theorem answered_append_iff :
    Answered engine s (ops ++ more) ↔
      Answered engine s ops ∧ Answered engine (run engine s ops).2 more := by
  simp only [Answered, run_append, List.forall_mem_append]

theorem answered_cons_iff {op : Operation} :
    Answered engine s (op :: ops) ↔
      ∃ given next, s.step engine op = (.ok given, next) ∧ Answered engine next ops := by
  simp only [Answered, run, List.forall_mem_cons]
  constructor
  · rintro ⟨⟨given, first⟩, rest⟩
    exact ⟨given, (s.step engine op).2, Prod.ext first rfl, rest⟩
  · rintro ⟨given, next, stepped, rest⟩
    rw [stepped]
    exact ⟨⟨given, rfl⟩, rest⟩

theorem completes_nil : Completes engine s [] s := rfl

theorem completes_of_taken {op : Operation} {outcome : Assembly.Outcome Unit} {b : Assembly}
    (passed : s.step engine op = s.ofOutcome (fun _ => .done) outcome)
    (taken : outcome = (.ok (), b)) : Completes engine s [op] ⟨b, s.lookups⟩ := by
  simp [Completes, run, passed, taken, ofOutcome, Except.map]

theorem completes_append (first : Completes engine s ops next)
    (second : Completes engine next more last) : Completes engine s (ops ++ more) last := by
  unfold Completes at first second ⊢
  rw [run_append, first, second, List.length_append, List.replicate_append_replicate]

end Session

end BondQuery
