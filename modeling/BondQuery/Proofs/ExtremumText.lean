import Mathlib.Data.Rat.Floor
import BondQuery.Proofs.ClauseFields
import BondQuery.Proofs.Lookups
import BondQuery.Proofs.ShortestDigits
import BondQuery.Proofs.WrittenNumbers

/- What the text of an extremum denotes. A moment is written as the whole number that it is cut off
   to, with all of its digits; any other extremum makes a detour by the nearest 64-bit number, on
   which large whole numbers lose digits. -/
namespace BondQuery

/-- The next whole number on the way to zero. -/
def towardZero (q : ℚ) : Int :=
  if q < 0 then ⌈q⌉ else ⌊q⌋

/-- The number that a text denotes as a decimal. -/
def denoted? (cs : List Char) : Option ℚ :=
  let (negative, body) := takeSign cs
  (readDecimal? body).map fun d => (if negative then -1 else 1) * d.value

theorem Magnitude.floor_value (m : Magnitude) :
    ⌊m.value⌋ = ((m.units / unitsPerOne : Nat) : Int) := by
  rw [value, Rat.floor_natCast_div_natCast]
  exact (Int.natCast_div _ _).symm

namespace Number

/-- The text, read as the kind of number that the given one is, is that number. -/
def ReadsAs (t : String) : Number → Prop
  | int n => denoted? t.toList = some (n : ℚ)
  | double x => readDouble? t.toList = some x

/-- The nearest 64-bit number is written with the digits of the number itself. -/
def Kept : Number → Prop
  | int n => ∃ m, Magnitude.nearest n.natAbs 1 = some m ∧ m.shortest.value = n.natAbs
  | double _ => True

theorem eq_towardZero_of_whole? {value : Number} {n : Int} (whole : value.whole? = some n) :
    n = towardZero value.value := by
  cases value with
  | int k =>
    cases whole
    simp [towardZero, Number.value]
  | double x =>
    cases x with
    | finite negative m =>
      have least : 0 ≤ m.value := by
        rw [Magnitude.value_eq]
        exact mul_nonneg (Nat.cast_nonneg _) (le_of_lt m.step_pos)
      have floor := m.floor_value
      change some _ = some n at whole
      rw [Option.some.injEq] at whole
      change n = towardZero ((if negative then -1 else 1) * m.value)
      rw [← whole, ← floor, towardZero]
      cases negative with
      | false =>
        rw [if_neg Bool.false_ne_true, if_neg Bool.false_ne_true, one_mul, if_neg (not_lt.mpr least)]
      | true =>
        rw [if_pos rfl, if_pos rfl, neg_one_mul]
        rcases lt_or_eq_of_le least with positive | zero
        · rw [if_pos (neg_lt_zero.mpr positive), Int.ceil_neg]
        · rw [← zero]
          simp
    | _ => cases whole

end Number

theorem denoted?_chars (negative : Bool) (m : Magnitude) :
    denoted? (Double.finite negative m).chars =
      some ((if negative then -1 else 1) * m.shortest.value) := by
  obtain ⟨n, signed, written, _, same⟩ := exists_numeral_of_shortest negative m
  have negates : decide (n.sign = .minus) = negative := by
    rw [signed]
    cases negative <;> rfl
  rw [← written, denoted?, Syntax.takeSign_lexeme, negates]
  simp only
  rw [Syntax.readDecimal?_body, Option.map_some, ← same]
  rfl

namespace Extremum
variable {value : Number} {t : String} {n : Int}

theorem date_text (written : text value true = .ok t) :
    t = intText (towardZero value.value) ∧ readInt t.toList = .ok (towardZero value.value) := by
  obtain ⟨n, whole, writable, same⟩ := text_date_eq_ok_iff.mp written
  rw [← Number.eq_towardZero_of_whole? whole, ← same]
  refine ⟨rfl, ?_⟩
  rw [intText, String.toList_ofList]
  exact readInt_intChars writable

theorem number_text (written : text value false = .ok t) :
    readDouble? t.toList = value.toDouble? := by
  obtain ⟨x, rounded, same⟩ := text_number_eq_ok_iff.mp written
  rw [rounded, ← same, Double.text, String.toList_ofList]
  exact readDouble?_chars x

theorem magnitude_of_text (written : text (.int n) false = .ok t) :
    ∃ m, Magnitude.nearest n.natAbs 1 = some m ∧ t.toList = (Double.finite (n < 0) m).chars := by
  obtain ⟨x, rounded, same⟩ := text_number_eq_ok_iff.mp written
  obtain ⟨m, near, whole⟩ := Option.map_eq_some_iff.mp rounded
  refine ⟨m, near, ?_⟩
  rw [← same, ← whole, Double.text, String.toList_ofList]

theorem readsAs_iff_kept (written : text value false = .ok t) :
    value.ReadsAs t ↔ value.Kept := by
  cases value with
  | double x => exact iff_of_true (number_text written) trivial
  | int n =>
    obtain ⟨m, near, chars⟩ := magnitude_of_text written
    have denotes : (Number.int n).ReadsAs t ↔ m.shortest.value = n.natAbs := by
      have size : ((n.natAbs : Nat) : ℚ) = |(n : ℚ)| := by
        rw [Nat.cast_natAbs, Int.cast_abs]
      rw [Number.ReadsAs, chars, denoted?_chars, Option.some.injEq, size]
      by_cases negative : n < 0
      · have below : (n : ℚ) < 0 := by exact_mod_cast negative
        rw [decide_eq_true negative, if_pos rfl, abs_of_neg below, neg_one_mul]
        exact neg_eq_iff_eq_neg
      · have above : (0 : ℚ) ≤ n := by exact_mod_cast Int.not_lt.mp negative
        rw [decide_eq_false negative, if_neg Bool.false_ne_true, abs_of_nonneg above, one_mul]
    rw [denotes, Number.Kept]
    constructor
    · intro same
      exact ⟨m, near, same⟩
    · rintro ⟨m', near', same⟩
      rw [near, Option.some.injEq] at near'
      rw [near', same]

theorem kept_of_text (written : text (.int n) false = .ok t)
    (few : n.natAbs ≤ 2 ^ 53 ∨ ∃ k < 10 ^ 15, ∃ zeros, n.natAbs = k * 10 ^ zeros) :
    (Number.int n).Kept := by
  obtain ⟨m, near, _⟩ := magnitude_of_text written
  exact ⟨m, near, Magnitude.value_shortest_of_kept near few⟩

theorem digits_of_kept (kept : (Number.int n).Kept) :
    ∃ k ≤ 10 ^ 17, ∃ zeros, n.natAbs = k * 10 ^ zeros := by
  obtain ⟨m, _, same⟩ := kept
  exact Magnitude.exists_digits_of_value_shortest same

end Extremum

namespace Discovery
variable {Document : Type} (decides : Condition → Document → Prop) (record : Document)

def Holds (d : Discovery) (reads : String → Prop) : Prop :=
  ∀ t, decides (.matchPhrase d.field t) record ↔ reads t

def Covers (d : Discovery) : Prop :=
  ∀ scope, d.scope = some scope → scope.Matches decides record

variable {decides record} {d : Discovery} {value : Number} {q : Query}

theorem condition_of_spared (spared : Spared d.field) (t : String) :
    Condition.keyed .matchPhrase d.field (.matchPhrase · t) = .matchPhrase d.field t := by
  have ordinary : d.field ≠ "_expand__to_dot" := by
    intro expand
    rw [expand] at spared
    exact expand_not_spared spared
  unfold Condition.keyed
  rw [if_neg ordinary, dotted_eq_self_iff.mpr spared, String.ofList_toList]

theorem matches_of_pins {reads : String → Prop} (pins : d.Pins value q) (spared : Spared d.field)
    (holds : d.Holds decides record reads) :
    ∃ t, Extremum.text value d.isDate = .ok t ∧
      (q.Matches decides record ↔ d.Covers decides record ∧ reads t) := by
  obtain ⟨t, holders, written, phrase, whole⟩ := pins
  refine ⟨t, written, ?_⟩
  have found : holders.Matches decides record ↔ reads t := by
    rw [Query.matches_of_matchPhrase phrase, condition_of_spared spared]
    exact holds t
  rw [← whole, Discovery.query, Covers]
  cases d.scope with
  | none => simp [found]
  | some scope => simp [found]

end Discovery

namespace Extremum

/-- The text of a moment is the whole number that it is cut off to, and every 64-bit number is read
    back from its text. A whole number that is no moment is denoted by its text exactly if its
    64-bit neighbour is written with its digits: so it is up to `2 ^ 53` and for fifteen digits
    before the zeros at the end, and never for more than seventeen. The pinned query finds a record
    of its scope with the extremum under the same proviso. -/
theorem extremum_denoted_iff (value : Number) :
    (∀ t, text value true = .ok t →
      t = intText (towardZero value.value) ∧ readInt t.toList = .ok (towardZero value.value)) ∧
    (∀ t, text value false = .ok t →
      readDouble? t.toList = value.toDouble? ∧ (value.ReadsAs t ↔ value.Kept)) ∧
    (∀ n, value = .int n →
      (∀ t, text value false = .ok t →
        (n.natAbs ≤ 2 ^ 53 ∨ ∃ k < 10 ^ 15, ∃ zeros, n.natAbs = k * 10 ^ zeros) → value.Kept) ∧
      (value.Kept → ∃ k ≤ 10 ^ 17, ∃ zeros, n.natAbs = k * 10 ^ zeros)) ∧
    ∀ (finder : Finder) past (d : Discovery) q, finder past d.lookup = .ok value →
      Spared d.field → (find finder past d.field d.isMax d.isDate d.scope).1 = .ok q →
      ∀ {Document : Type} (decides : Condition → Document → Prop) (record : Document),
        (d.isDate = true → ∀ moment, d.Holds decides record (readInt ·.toList = .ok moment) →
          (q.Matches decides record ↔
            d.Covers decides record ∧ moment = towardZero value.value)) ∧
        (d.isDate = false → d.Holds decides record value.ReadsAs →
          (q.Matches decides record ↔ d.Covers decides record ∧ value.Kept)) := by
  refine ⟨fun t => date_text, fun t written => ⟨number_text written, readsAs_iff_kept written⟩, ?_, ?_⟩
  · intro n same
    subst same
    exact ⟨fun t => kept_of_text, digits_of_kept⟩
  · intro finder past d q found spared answered Document decides record
    have pins := (find_eq_ok_iff found).mp answered
    constructor
    · intro date moment holds
      obtain ⟨t, written, finds⟩ := Discovery.matches_of_pins pins spared holds
      rw [date] at written
      rw [finds, (date_text written).2, Except.ok.injEq, eq_comm]
    · intro number holds
      obtain ⟨t, written, finds⟩ := Discovery.matches_of_pins pins spared holds
      rw [number] at written
      rw [finds, readsAs_iff_kept written]

theorem odd_extremum_lost :
    text (.int 9007199254740993) false = .ok "9007199254740992.0" ∧
      ¬ (Number.int 9007199254740993).ReadsAs "9007199254740992.0" := by
  have lost : (Magnitude.nearest (Int.natAbs 9007199254740993) 1).map Magnitude.shortest =
      some ⟨9007199254740992, 0⟩ := by decide +kernel
  have shown : (Double.ofInt? 9007199254740993).map Double.text = some "9007199254740992.0" := by
    decide +kernel
  have written : text (.int 9007199254740993) false = .ok "9007199254740992.0" :=
    text_number_eq_ok_iff.mpr (Option.map_eq_some_iff.mp shown)
  constructor
  · exact written
  · rw [readsAs_iff_kept written]
    rintro ⟨m, near, same⟩
    rw [near, Option.map_some, Option.some.injEq] at lost
    rw [lost, Magnitude.value_whole] at same
    norm_num at same

theorem last_year_found :
    let record : Condition → Unit → Prop :=
      fun c _ => ∃ t, c = .matchPhrase "year" t ∧ (Number.int 2025).ReadsAs t
    (Query.phrase "year" "2025.0").Matches record () := by
  intro record
  have shown : (Double.ofInt? 2025).map Double.text = some "2025.0" := by decide +kernel
  have written : text (.int 2025) false = .ok "2025.0" :=
    text_number_eq_ok_iff.mpr (Option.map_eq_some_iff.mp shown)
  obtain ⟨_, _, whole, pinned⟩ := extremum_denoted_iff (.int 2025)
  have kept := (whole 2025 rfl).1 "2025.0" written (.inl (by decide))
  let d : Discovery := ⟨"year", true, false, none⟩
  let finder : Finder := fun _ _ => .ok (.int 2025)
  have answered : (find finder [] "year" true false none).1 = .ok (.phrase "year" "2025.0") :=
    find_eq_ok_iff rfl |>.mpr ⟨"2025.0", _, written, rfl, rfl⟩
  have holds : d.Holds record () (Number.int 2025).ReadsAs := by
    intro t
    constructor
    · rintro ⟨t', same, reads⟩
      cases same
      exact reads
    · intro reads
      exact ⟨t, rfl, reads⟩
  apply ((pinned finder [] d _ rfl (by decide) answered record ()).2 rfl holds).mpr
  constructor
  · intro scope none
    cases none
  · exact kept

end Extremum

end BondQuery
