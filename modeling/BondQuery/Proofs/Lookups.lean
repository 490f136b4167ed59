import BondQuery.Proofs.AssemblySteps

/- Which lookups a run asks the engine for. What a step wants to discover is read off the operation
   alone, and the lookups of a run are those of its steps in their order, each made once. -/
namespace BondQuery

/-- An extremum to find: of which field, in which direction, written as a moment or as a number,
    and among which records. -/
structure Discovery where
  field : String
  isMax : Bool
  isDate : Bool
  scope : Option Query

namespace Discovery

def lookup (d : Discovery) : Lookup :=
  ⟨d.scope.getD .matchAll, d.field, d.isMax⟩

def query (d : Discovery) (holders : Query) : Query :=
  match d.scope with
  | some scope => .allOf [scope, holders]
  | none => holders

/-- The query asks for the text of the value in the field. -/
def Pins (d : Discovery) (value : Number) (q : Query) : Prop :=
  ∃ text holders, Extremum.text value d.isDate = .ok text ∧
    Query.matchPhrase d.field text (.int 1) = .ok holders ∧ d.query holders = q

def ofTimeStamp (sourceId : Option String) (isMax : Bool) : Discovery where
  field := Property.resourceTimeStamp.name
  isMax := isMax
  isDate := true
  scope := some ((sourceId.map (Query.phrase Property.sourceId.name)).getD .matchAll)

end Discovery

def Operation.discovery? : Operation → Option Discovery
  | .extremum field isMax isDate scope => some ⟨field, isMax, isDate, scope⟩
  | .timeStamp sourceId .min => some (.ofTimeStamp sourceId false)
  | .timeStamp sourceId .max => some (.ofTimeStamp sourceId true)
  | _ => none

theorem Operation.timeStamp_quiet_iff {sourceId : Option String} {operator : Operator} :
    (timeStamp sourceId operator).discovery? = none ↔ operator ≠ .min ∧ operator ≠ .max := by
  cases operator <;> simp [discovery?]

def Number.whole? : Number → Option Int
  | .int n => some n
  | .double x => x.truncate?

def lookupsOf (ops : List Operation) : List Lookup :=
  (ops.filterMap Operation.discovery?).map Discovery.lookup

theorem lookupsOf_cons_none {op : Operation} {ops : List Operation} (quiet : op.discovery? = none) :
    lookupsOf (op :: ops) = lookupsOf ops := by
  rw [lookupsOf, List.filterMap_cons_none quiet, lookupsOf]

theorem lookupsOf_cons_some {op : Operation} {ops : List Operation} {d : Discovery}
    (wanted : op.discovery? = some d) : lookupsOf (op :: ops) = d.lookup :: lookupsOf ops := by
  rw [lookupsOf, List.filterMap_cons_some wanted, List.map_cons, lookupsOf]

namespace Extremum
variable {finder : Finder} {past : List Lookup} {field : String} {isMax isDate : Bool}
  {scope : Option Query}

theorem text_date_eq_ok_iff {value : Number} {t : String} :
    text value true = .ok t ↔ ∃ n, value.whole? = some n ∧ isWritable n = true ∧ intText n = t := by
  unfold text
  rw [if_pos rfl, bind_eq_ok_iff]
  apply exists_congr
  intro n
  apply and_congr
  · cases value with
    | int m => simp [Number.whole?]
    | double x => cases x <;> simp [Number.whole?, Double.truncate?]
  · by_cases short : isWritable n = true
    · rw [if_pos short]
      constructor
      · intro written
        cases written
        exact ⟨short, rfl⟩
      · rintro ⟨_, rfl⟩
        rfl
    · rw [if_neg short]
      constructor
      · intro written
        cases written
      · rintro ⟨writable, _⟩
        exact absurd writable short

theorem text_number_eq_ok_iff {value : Number} {t : String} :
    text value false = .ok t ↔ ∃ x, value.toDouble? = some x ∧ x.text = t := by
  unfold text
  rw [if_neg Bool.false_ne_true]
  cases value.toDouble? <;> simp

theorem find_of_error {detail : String}
    (failed : finder past (Discovery.mk field isMax isDate scope).lookup = .error detail) :
    (find finder past field isMax isDate scope).1 = .error (.discovery field detail) := by
  simp only [find, Discovery.lookup] at failed ⊢
  rw [failed]

theorem find_eq_ok_iff {value : Number} {q : Query}
    (found : finder past (Discovery.mk field isMax isDate scope).lookup = .ok value) :
    (find finder past field isMax isDate scope).1 = .ok q ↔
      (Discovery.mk field isMax isDate scope).Pins value q := by
  simp only [find, Discovery.lookup] at found ⊢
  rw [found]
  simp only [pinned, bind_eq_ok_iff, Discovery.Pins]
  constructor
  · rintro ⟨text, written, holders, phrase, whole⟩
    cases whole
    refine ⟨text, holders, written, phrase, ?_⟩
    cases scope <;> rfl
  · rintro ⟨text, holders, written, phrase, whole⟩
    refine ⟨text, written, holders, phrase, ?_⟩
    rw [← whole]
    cases scope <;> rfl

theorem find_congr {other : Finder}
    (agree : finder past (Discovery.mk field isMax isDate scope).lookup =
      other past (Discovery.mk field isMax isDate scope).lookup) :
    find finder past field isMax isDate scope = find other past field isMax isDate scope := by
  simp only [find, Discovery.lookup] at agree ⊢
  rw [agree]

end Extremum

namespace Session
open Extremum

variable {settings : Settings} {finder : Finder} {engine : Engine} {s : Session}
  {ops : List Operation} {op : Operation} {d : Discovery}

theorem step_of_discovery (asks : engine.finder = some finder) (wanted : op.discovery? = some d) :
    s.step engine op =
      s.ofFound (find finder s.lookups d.field d.isMax d.isDate d.scope) := by
  cases op with
  | extremum field isMax isDate scope =>
    cases wanted
    simp only [step, withFinder, asks]
  | timeStamp sourceId operator =>
    cases operator with
    | min | max =>
      cases wanted
      simp only [step, withFinder, asks]
      cases sourceId <;> rfl
    | _ => cases wanted
  | _ => cases wanted

theorem step_timeStamp_unsupported {sourceId : Option String} {operator : Operator}
    (asks : engine.finder = some finder) (notMin : operator ≠ .min) (notMax : operator ≠ .max) :
    s.step engine (.timeStamp sourceId operator) =
      (.error (.unsupportedOperator operator Property.resourceTimeStamp.name), s) := by
  have neither : ¬ (operator = .min ∨ operator = .max) := by
    rintro (least | greatest)
    · exact notMin least
    · exact notMax greatest
  simp only [step, withFinder, asks, findTimeStamp, if_neg neither]
  rfl

theorem step_extremum_unfound {field : String} {isMax isDate : Bool} {scope : Option Query}
    (none : engine.finder = none) :
    s.step engine (.extremum field isMax isDate scope) =
      (.error (.discovery field "no extremum finder configured"), s) := by
  simp only [step, withFinder, none]
  rfl

theorem step_timeStamp_unfound {sourceId : Option String} {operator : Operator}
    (none : engine.finder = none) :
    s.step engine (.timeStamp sourceId operator) =
      (.error (.discovery Property.resourceTimeStamp.name "no extremum finder configured"), s) := by
  simp only [step, withFinder, none]
  rfl

theorem step_of_quiet (other : Finder) (quiet : op.discovery? = none) :
    s.step ⟨settings, some finder⟩ op = s.step ⟨settings, some other⟩ op := by
  cases op with
  | extremum => cases quiet
  | timeStamp sourceId operator =>
    obtain ⟨notMin, notMax⟩ := Operation.timeStamp_quiet_iff.mp quiet
    rw [step_timeStamp_unsupported rfl notMin notMax, step_timeStamp_unsupported rfl notMin notMax]
  | _ => rfl

theorem lookups_of_quiet (quiet : op.discovery? = none) :
    (s.step engine op).2.lookups = s.lookups := by
  cases op with
  | extremum => cases quiet
  | timeStamp sourceId operator =>
    cases asks : engine.finder with
    | none => rw [step_timeStamp_unfound asks]
    | some finder =>
      obtain ⟨notMin, notMax⟩ := Operation.timeStamp_quiet_iff.mp quiet
      rw [step_timeStamp_unsupported asks notMin notMax]
  | _ => rfl

theorem lookups_of_discovery (asks : engine.finder = some finder)
    (wanted : op.discovery? = some d) :
    (s.step engine op).2.lookups = s.lookups ++ [d.lookup] := by
  rw [step_of_discovery asks wanted]
  rfl

theorem lookups_without_engine (none : engine.finder = none) (op : Operation) :
    (s.step engine op).2.lookups = s.lookups := by
  cases op with
  | extremum => rw [step_extremum_unfound none]
  | timeStamp => rw [step_timeStamp_unfound none]
  | _ => rfl

theorem lookups_of_run (asks : engine.finder = some finder) (s : Session) (ops : List Operation) :
    (run engine s ops).2.lookups = s.lookups ++ lookupsOf ops := by
  induction ops generalizing s with
  | nil => exact (List.append_nil s.lookups).symm
  | cons op rest ih =>
    have later := ih (s.step engine op).2
    cases wanted : op.discovery? with
    | none =>
      rw [lookups_of_quiet wanted] at later
      rw [lookupsOf_cons_none wanted]
      exact later
    | some d =>
      rw [lookups_of_discovery asks wanted, List.append_assoc] at later
      rw [lookupsOf_cons_some wanted]
      exact later

theorem lookups_of_run_without_engine (none : engine.finder = none) (s : Session)
    (ops : List Operation) : (run engine s ops).2.lookups = s.lookups := by
  induction ops generalizing s with
  | nil => rfl
  | cons op rest ih => exact (ih _).trans (lookups_without_engine none op)

/-- A run reads the engine at its own lookups alone, each after the ones before it. -/
theorem run_congr {other : Finder} (s : Session) (ops : List Operation)
    (agree : ∀ before d after, ops.filterMap Operation.discovery? = before ++ d :: after →
      finder (s.lookups ++ before.map Discovery.lookup) d.lookup =
        other (s.lookups ++ before.map Discovery.lookup) d.lookup) :
    run ⟨settings, some finder⟩ s ops = run ⟨settings, some other⟩ s ops := by
  induction ops generalizing s with
  | nil => rfl
  | cons op rest ih =>
    have same : s.step ⟨settings, some finder⟩ op = s.step ⟨settings, some other⟩ op := by
      cases wanted : op.discovery? with
      | none => exact step_of_quiet other wanted
      | some d =>
        have first := agree [] d _ (List.filterMap_cons_some wanted)
        rw [List.map_nil, List.append_nil] at first
        rw [step_of_discovery rfl wanted, step_of_discovery rfl wanted, find_congr first]
    have later : run ⟨settings, some finder⟩ (s.step ⟨settings, some finder⟩ op).2 rest =
        run ⟨settings, some other⟩ (s.step ⟨settings, some finder⟩ op).2 rest := by
      apply ih
      intro before e after split
      cases wanted : op.discovery? with
      | none =>
        rw [lookups_of_quiet wanted]
        apply agree before e after
        rw [List.filterMap_cons_none wanted, split]
      | some d =>
        rw [lookups_of_discovery rfl wanted, List.append_assoc]
        apply agree (d :: before) e after
        rw [List.filterMap_cons_some wanted, split, List.cons_append]
    rw [same] at later
    simp only [run, same, later]

/-- What a session with an engine makes of a discovery. -/
structure Discovers (engine : Engine) (finder : Finder) (s : Session) (op : Operation)
    (d : Discovery) : Prop where
  asked : (s.step engine op).2.lookups = s.lookups ++ [d.lookup]
  failed : ∀ detail, finder s.lookups d.lookup = .error detail →
    (s.step engine op).1 = .error (.discovery d.field detail)
  pinned : ∀ value, finder s.lookups d.lookup = .ok value →
    ∀ q, (s.step engine op).1 = .ok (.query q) ↔ d.Pins value q

theorem discovers (asks : engine.finder = some finder) (wanted : op.discovery? = some d) :
    Discovers engine finder s op d := by
  constructor
  · exact lookups_of_discovery asks wanted
  · intro detail failed
    rw [step_of_discovery asks wanted, ofFound, find_of_error failed]
    rfl
  · intro value found q
    rw [step_of_discovery asks wanted, ofFound, ← find_eq_ok_iff found, map_eq_ok_iff]
    constructor
    · rintro ⟨_, answered, same⟩
      cases same
      exact answered
    · intro answered
      exact ⟨q, answered, rfl⟩

/-- With an engine, the lookups of a run are those that its operations want, in their order; each
    is made once, and the step answers by it. Without one nothing is looked up, and every
    discovery fails before its operator is read. -/
theorem lookups_follow_operations (engine : Engine) (ops : List Operation) :
    let s := (run engine .start ops).2
    (∀ finder, engine.finder = some finder →
      s.lookups = lookupsOf ops ∧
      (∀ op d, op.discovery? = some d → Discovers engine finder s op d) ∧
      (∀ op, op.discovery? = none → (s.step engine op).2.lookups = s.lookups) ∧
      (∀ sourceId operator, operator ≠ .min → operator ≠ .max →
        s.step engine (.timeStamp sourceId operator) =
          (.error (.unsupportedOperator operator "resourceTimeStamp"), s)) ∧
      ∀ other : Finder,
        (∀ before d after, ops.filterMap Operation.discovery? = before ++ d :: after →
          finder (before.map Discovery.lookup) d.lookup =
            other (before.map Discovery.lookup) d.lookup) →
        run engine .start ops = run { engine with finder := some other } .start ops) ∧
    (engine.finder = none →
      s.lookups = [] ∧
      (∀ field isMax isDate scope, s.step engine (.extremum field isMax isDate scope) =
        (.error (.discovery field "no extremum finder configured"), s)) ∧
      ∀ sourceId operator, s.step engine (.timeStamp sourceId operator) =
        (.error (.discovery "resourceTimeStamp" "no extremum finder configured"), s)) := by
  intro s
  constructor
  · intro finder asks
    refine ⟨lookups_of_run asks start ops, fun op d wanted => discovers asks wanted,
      fun op quiet => lookups_of_quiet quiet, fun sourceId operator notMin notMax =>
        step_timeStamp_unsupported asks notMin notMax, ?_⟩
    intro other agree
    obtain ⟨settings, found⟩ := engine
    cases asks
    exact run_congr start ops agree
  · intro none
    refine ⟨lookups_of_run_without_engine none start ops, fun field isMax isDate scope =>
      step_extremum_unfound none, fun sourceId operator => step_timeStamp_unfound none⟩

/-- The engine counts its calls and fails the second time. A rejected operator is no call, a failed
    one is not made again, and the third is answered. -/
theorem failed_lookup_not_repeated :
    let engine : Engine := ⟨.standard, some fun past _ =>
      if past.length = 1 then .error "engine down" else .ok (.int past.length)⟩
    let ops : List Operation := [.extremum "cloudCover" false false none,
      .timeStamp none .equal, .timeStamp (some "src1") .max]
    let s := (run engine .start ops).2
    s.lookups = [⟨.matchAll, "cloudCover", false⟩,
      ⟨.phrase "sourceId" "src1", "resourceTimeStamp", true⟩] ∧
    (s.step engine (.timeStamp none .min)).1 =
      .ok (.query (.allOf [.matchAll, .phrase "resourceTimeStamp" "2"])) := by
  intro engine ops s
  obtain ⟨made, discovers, _⟩ := (lookups_follow_operations engine ops).1 _ rfl
  constructor
  · exact made
  · have written : Extremum.text (.int 2) true = .ok "2" := by
      exact Extremum.text_date_eq_ok_iff.mpr ⟨2, rfl, by decide +kernel, rfl⟩
    have discovered := discovers (.timeStamp none .min) _ rfl
    exact (discovered.pinned (.int 2) rfl _).mpr ⟨"2", _, written, rfl, rfl⟩

end Session

end BondQuery
