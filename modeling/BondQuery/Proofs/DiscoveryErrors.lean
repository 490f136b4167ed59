import BondQuery.Proofs.EmptyLists
import BondQuery.Proofs.JsonPrinting
import BondQuery.Proofs.Lookups
import BondQuery.Proofs.Range
import BondQuery.Proofs.WrittenNumbers

/- How a discovery fails. Only the call of the engine is guarded: what goes wrong with its answer
   afterwards is no error of the package. -/
namespace BondQuery

def Error.isOwn : Error → Bool
  | .syntaxError _ => true
  | .value .. => true
  | .unsupportedOperator .. => true
  | .unsupportedRelation _ => true
  | .assembly _ => true
  | .discovery .. => true
  | .configText .. => true
  | .setting .. => true
  | _ => false

/-- The number can be written as an extremum: as a moment if it is finite and has not too many
    digits, and otherwise unless it is a whole number out of range. -/
def Number.Fits (isDate : Bool) : Number → Prop
  | .int n =>
    if isDate then (Nat.toDigits 10 n.natAbs).length ≤ maxDigits
    else n.natAbs + 2 ^ 970 < 2 ^ 1024
  | .double x => isDate = true → x.isFinite = true

namespace Extremum

inductive Unwritten : Number → Bool → Error → Prop where
  | infinite (negative : Bool) :
      Unwritten (.double (.infinite negative)) true .infiniteToInteger
  | nan : Unwritten (.double .nan) true .nanToInteger
  | long {n : Int} (many : maxDigits < (Nat.toDigits 10 n.natAbs).length) :
      Unwritten (.int n) true .integerTooLong
  | large {n : Int} (beyond : 2 ^ 1024 ≤ n.natAbs + 2 ^ 970) :
      Unwritten (.int n) false .integerTooLarge

end Extremum

namespace Discovery
variable (d : Discovery)

/-- The errors of others that an answer of the engine leads to. -/
inductive Escapes (value : Number) : Error → Prop where
  | unwritten {e : Error} (why : Extremum.Unwritten value d.isDate e) : Escapes value e
  | reserved (fits : value.Fits d.isDate) (name : d.field = "self") : Escapes value .reservedField

/-- A discovery is to end with the query that pins the field to what the engine answers, or with
    an error of the package. -/
def EndsWell (answer : Except String Number) (outcome : Except Error Query) : Prop :=
  (∃ value q, answer = .ok value ∧ outcome = .ok q ∧ d.Pins value q) ∨
    ∃ e, outcome = .error e ∧ e.isOwn = true

end Discovery

theorem Double.isWritable_of_truncate? {x : Double} {n : Int} (whole : x.truncate? = some n) :
    isWritable n = true := by
  cases x with
  | finite negative m =>
    obtain ⟨digits, short, below⟩ :
        ∃ digits ≤ maxDigits, m.units / Magnitude.unitsPerOne < 10 ^ digits := by
      refine ⟨309, by decide, (Nat.div_lt_iff_lt_mul Magnitude.unitsPerOne_pos).mpr ?_⟩
      apply Nat.lt_of_lt_of_le _ m.step_small
      rw [Magnitude.units, Nat.shiftLeft_eq]
      exact Nat.mul_lt_mul_of_pos_right m.significand_lt (Nat.two_pow_pos _)
    have size : n.natAbs = m.units / Magnitude.unitsPerOne := by
      rw [truncate?, Option.some.injEq] at whole
      rw [← whole]
      split
      · exact Int.natAbs_neg _
      · rfl
    unfold isWritable
    generalize maxDigits = limit at short
    rw [size]
    exact decide_eq_true (Nat.lt_of_lt_of_le below (Nat.pow_le_pow_right (by decide) short))
  | _ => cases whole

theorem Query.unweighed_eq_error_iff {field value : String} {e : Error} :
    matchPhrase field value (.int 1) = .error e ↔ field = "self" ∧ e = .reservedField := by
  by_cases reserved : field = "self"
  · subst reserved
    constructor
    · intro refused
      cases refused
      exact ⟨rfl, rfl⟩
    · rintro ⟨_, rfl⟩
      rfl
  · obtain ⟨q, built⟩ := (exists_unweighed_iff field value).mpr reserved
    rw [built]
    constructor
    · intro refused
      cases refused
    · rintro ⟨same, _⟩
      exact absurd same reserved

namespace Extremum
variable {finder : Finder} {past : List Lookup} {value : Number} {isDate : Bool} {e : Error}

theorem text_too_long {n : Int} (long : ¬ isWritable n = true) :
    text (.int n) true = .error .integerTooLong := by
  unfold text
  rw [if_pos rfl]
  apply bind_eq_error_iff.mpr
  right
  refine ⟨n, rfl, ?_⟩
  rw [if_neg long]
  rfl

theorem text_too_large (large : value.toDouble? = none) :
    text value false = .error .integerTooLarge := by
  unfold text
  rw [if_neg Bool.false_ne_true, large]

theorem text_of_unwritten (why : Unwritten value isDate e) : text value isDate = .error e := by
  cases why with
  | infinite negative => rfl
  | nan => rfl
  | long many =>
    apply text_too_long
    rw [isWritable_iff]
    exact Nat.not_le_of_lt many
  | @large n beyond =>
    apply text_too_large
    rw [← Option.not_isSome_iff_eq_none]
    intro rounded
    exact Nat.not_lt_of_le beyond ((Double.ofInt?_isSome_iff n).mp rounded)

theorem written_or_unwritten (value : Number) (isDate : Bool) :
    (value.Fits isDate ∧ ∃ t, text value isDate = .ok t) ∨
      (¬ value.Fits isDate ∧ ∃ e, Unwritten value isDate e) := by
  cases isDate with
  | true =>
    cases value with
    | int n =>
      by_cases few : (Nat.toDigits 10 n.natAbs).length ≤ maxDigits
      · exact .inl ⟨few, _, text_date_eq_ok_iff.mpr ⟨n, rfl, isWritable_iff.mpr few, rfl⟩⟩
      · exact .inr ⟨few, _, .long (Nat.lt_of_not_le few)⟩
    | double x =>
      cases whole : x with
      | nan => exact .inr ⟨fun fits => (nomatch fits rfl), _, .nan⟩
      | infinite negative => exact .inr ⟨fun fits => (nomatch fits rfl), _, .infinite negative⟩
      | finite negative m =>
        have short := Double.isWritable_of_truncate? (x := .finite negative m) rfl
        exact .inl ⟨fun _ => rfl, _, text_date_eq_ok_iff.mpr ⟨_, rfl, short, rfl⟩⟩
  | false =>
    cases value with
    | int n =>
      by_cases within : n.natAbs + 2 ^ 970 < 2 ^ 1024
      · obtain ⟨x, rounded⟩ := Option.isSome_iff_exists.mp ((Double.ofInt?_isSome_iff n).mpr within)
        exact .inl ⟨within, x.text, text_number_eq_ok_iff.mpr ⟨x, rounded, rfl⟩⟩
      · exact .inr ⟨within, _, .large (Nat.le_of_not_lt within)⟩
    | double x =>
      exact .inl ⟨fun date => absurd date Bool.false_ne_true, x.text,
        text_number_eq_ok_iff.mpr ⟨x, rfl, rfl⟩⟩

theorem exists_text_iff : (∃ t, text value isDate = .ok t) ↔ value.Fits isDate := by
  rcases written_or_unwritten value isDate with ⟨fits, written⟩ | ⟨unfit, e, why⟩
  · exact iff_of_true written fits
  · apply iff_of_false _ unfit
    rintro ⟨t, written⟩
    rw [text_of_unwritten why] at written
    cases written

theorem text_eq_error_iff : text value isDate = .error e ↔ Unwritten value isDate e := by
  constructor
  · intro failed
    rcases written_or_unwritten value isDate with ⟨_, t, written⟩ | ⟨_, e', why⟩
    · rw [written] at failed
      cases failed
    · rw [text_of_unwritten why] at failed
      cases failed
      exact why
  · exact text_of_unwritten

theorem not_unwritten_of_fits (fits : value.Fits isDate) : ¬ Unwritten value isDate e := by
  intro why
  obtain ⟨t, written⟩ := exists_text_iff.mpr fits
  rw [text_of_unwritten why] at written
  cases written

theorem not_own_of_unwritten (why : Unwritten value isDate e) : e.isOwn = false := by
  cases why <;> rfl

theorem not_own_of_escapes {d : Discovery} (escapes : d.Escapes value e) : e.isOwn = false := by
  cases escapes with
  | unwritten why => exact not_own_of_unwritten why
  | reserved => rfl

theorem find_eq_error_iff {d : Discovery} (found : finder past d.lookup = .ok value) :
    (find finder past d.field d.isMax d.isDate d.scope).1 = .error e ↔ d.Escapes value e := by
  have answered : (find finder past d.field d.isMax d.isDate d.scope).1 =
      pinned d.field d.isDate d.scope value := by
    simp only [find, Discovery.lookup] at found ⊢
    rw [found]
  rw [answered]
  unfold pinned
  constructor
  · intro failed
    rcases bind_eq_error_iff.mp failed with unwritten | ⟨t, written, later⟩
    · exact .unwritten (text_eq_error_iff.mp unwritten)
    · rcases bind_eq_error_iff.mp later with refused | ⟨holders, _, none⟩
      · obtain ⟨name, rfl⟩ := Query.unweighed_eq_error_iff.mp refused
        exact .reserved (exists_text_iff.mp ⟨t, written⟩) name
      · cases none
  · intro escapes
    apply bind_eq_error_iff.mpr
    cases escapes with
    | unwritten why => exact .inl (text_of_unwritten why)
    | reserved fits name =>
      obtain ⟨t, written⟩ := exists_text_iff.mpr fits
      right
      refine ⟨t, written, bind_eq_error_iff.mpr (.inl ?_)⟩
      exact Query.unweighed_eq_error_iff.mpr ⟨name, rfl⟩

theorem not_escapes_iff {d : Discovery} :
    (∀ e, ¬ d.Escapes value e) ↔ value.Fits d.isDate ∧ d.field ≠ "self" := by
  rcases written_or_unwritten value d.isDate with ⟨fits, _⟩ | ⟨unfit, e, why⟩
  · constructor
    · intro none
      exact ⟨fits, fun name => none _ (.reserved fits name)⟩
    · rintro ⟨_, free⟩ e escapes
      cases escapes with
      | unwritten why => exact not_unwritten_of_fits fits why
      | reserved _ name => exact free name
  · apply iff_of_false
    · intro none
      exact none e (.unwritten why)
    · intro both
      exact unfit both.1

theorem endsWell_find_iff (d : Discovery) :
    d.EndsWell (finder past d.lookup) (find finder past d.field d.isMax d.isDate d.scope).1 ↔
      ∀ value, finder past d.lookup = .ok value → value.Fits d.isDate ∧ d.field ≠ "self" := by
  cases answer : finder past d.lookup with
  | error detail =>
    rw [find_of_error answer]
    exact iff_of_true (.inr ⟨_, rfl, rfl⟩) fun _ found => nomatch found
  | ok value =>
    constructor
    · rintro (⟨_, q, _, built, _⟩ | ⟨e, failed, own⟩) value' same
      · cases same
        rw [← not_escapes_iff]
        intro e escapes
        rw [(find_eq_error_iff answer).mpr escapes] at built
        cases built
      · have escapes := not_own_of_escapes ((find_eq_error_iff answer).mp failed)
        rw [own] at escapes
        cases escapes
    · intro fits
      have none := not_escapes_iff.mpr (fits value rfl)
      cases outcome : (find finder past d.field d.isMax d.isDate d.scope).1 with
      | error e => exact absurd ((find_eq_error_iff answer).mp outcome) (none e)
      | ok q => exact .inl ⟨value, q, rfl, rfl, (find_eq_ok_iff answer).mp outcome⟩

theorem findTimeStamp_of_pinning {operator : Operator} (pins : operator = .min ∨ operator = .max)
    (sourceId : Option String) :
    findTimeStamp finder past sourceId operator =
      let d := Discovery.ofTimeStamp sourceId (operator = .max)
      find finder past d.field d.isMax d.isDate d.scope := by
  unfold findTimeStamp
  rw [if_pos pins]
  cases sourceId <;> rfl

theorem endsWell_findTimeStamp_iff (sourceId : Option String) (operator : Operator) :
    let d := Discovery.ofTimeStamp sourceId (operator = .max)
    d.EndsWell (finder past d.lookup) (findTimeStamp finder past sourceId operator).1 ↔
      (operator = .min ∨ operator = .max →
        ∀ value, finder past d.lookup = .ok value → value.Fits true) := by
  intro d
  by_cases pins : operator = .min ∨ operator = .max
  · rw [findTimeStamp_of_pinning pins, endsWell_find_iff]
    constructor
    · intro fits _ value found
      exact (fits value found).1
    · intro fits value found
      exact ⟨fits pins value found, (by decide : Property.resourceTimeStamp.name ≠ "self")⟩
  · unfold findTimeStamp
    rw [if_neg pins]
    exact iff_of_true (.inr ⟨_, rfl, rfl⟩) fun pins' => absurd pins' pins

/-- A discovery ends with the pinned query or an error of the package exactly if every number that
    the engine may answer it with fits and the field can be a key; otherwise the error that escapes
    is told by the answer. -/
theorem discovery_fails_by_own_errors_iff (finder : Finder) (past : List Lookup) :
    (∀ d : Discovery,
      (d.EndsWell (finder past d.lookup) (find finder past d.field d.isMax d.isDate d.scope).1 ↔
        ∀ value, finder past d.lookup = .ok value → value.Fits d.isDate ∧ d.field ≠ "self") ∧
      ∀ value e, finder past d.lookup = .ok value →
        ((find finder past d.field d.isMax d.isDate d.scope).1 = .error e ↔ d.Escapes value e)) ∧
    ∀ sourceId operator, let d := Discovery.ofTimeStamp sourceId (operator = .max)
      d.EndsWell (finder past d.lookup) (findTimeStamp finder past sourceId operator).1 ↔
        (operator = .min ∨ operator = .max →
          ∀ value, finder past d.lookup = .ok value → value.Fits true) := by
  constructor
  · intro d
    exact ⟨endsWell_find_iff d, fun value e found => find_eq_error_iff found⟩
  · exact endsWell_findTimeStamp_iff

/-- An engine that finds nothing answers with an infinity, and no handler of the package's errors
    sees what becomes of it. -/
theorem infinite_moment_escapes :
    let d : Discovery := ⟨"resourceTimeStamp", true, true, none⟩
    let finder : Finder := fun _ _ => .ok (.double (.infinite false))
    (find finder [] d.field d.isMax d.isDate d.scope).1 = .error .infiniteToInteger ∧
      ¬ d.EndsWell (finder [] d.lookup) (find finder [] d.field d.isMax d.isDate d.scope).1 := by
  intro d finder
  constructor
  · rfl
  · rintro (⟨_, q, _, built, _⟩ | ⟨e, failed, own⟩)
    · cases built
    · cases failed
      cases own

theorem known_moment_ends_well :
    let d := Discovery.ofTimeStamp (some "src1") true
    d.EndsWell (.ok (.int 2)) (findTimeStamp (fun _ _ => .ok (.int 2)) [] (some "src1") .max).1 := by
  intro d
  apply ((discovery_fails_by_own_errors_iff (fun _ _ => .ok (.int 2)) []).2 (some "src1") .max).mpr
  intro _ value found
  cases found
  exact (by decide : (Nat.toDigits 10 2).length ≤ maxDigits)

end Extremum

end BondQuery
