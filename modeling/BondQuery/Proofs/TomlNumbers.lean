import BondQuery.Proofs.WrittenNumbers
import BondQuery.Toml.Reader

/- Numbers of a TOML document. A canonical numeral in front of the end of a line or of an item is
   read as the number that it denotes: no date, no time and no other base begins like it. -/
namespace BondQuery.Toml
open Syntax
open Text (Stops stops_cons)
variable {rest : List Char}

def Begins (allowed rest : List Char) : Prop :=
  ∀ c ∈ rest.head?, c ∈ allowed

theorem begins_cons {allowed : List Char} {c : Char} : Begins allowed (c :: rest) ↔ c ∈ allowed := by
  simp [Begins]

theorem Begins.stops {p : Char → Bool} {allowed : List Char} (begins : Begins allowed rest)
    (none : ∀ c ∈ allowed, p c = false) : Stops p rest :=
  fun c first => none c (begins c first)

theorem Begins.mono {small large : List Char} (begins : Begins small rest) (subset : small ⊆ large) :
    Begins large rest :=
  fun c first => subset (begins c first)

abbrev Ends : List Char → Prop :=
  Begins ['\n', ',']

abbrev EndsMantissa : List Char → Prop :=
  Begins ['e', 'E', '\n', ',']

abbrev EndsWhole : List Char → Prop :=
  Begins ['.', 'e', 'E', '\n', ',']

def isRunChar (c : Char) : Bool :=
  c.isDigit || c == '_'

/- Runs of digits. -/

theorem moreDigits_of_stops (stops : Stops isRunChar rest) :
    moreDigits Char.isDigit rest = ([], rest) := by
  cases rest with
  | nil => rfl
  | cons c rest =>
    have outside := stops_cons.mp stops
    simp only [isRunChar, Bool.or_eq_false_iff, beq_eq_false_iff_ne] at outside
    simp [moreDigits, outside]

theorem moreDigits_cons {d : Char} (digit : d.isDigit = true) (rest : List Char) :
    moreDigits Char.isDigit (d :: rest) =
      (d :: (moreDigits Char.isDigit rest).1, (moreDigits Char.isDigit rest).2) := by
  have single : d ≠ '_' := by
    rintro rfl
    cases digit
  simp [moreDigits, digit, single]

theorem moreDigits_run {ds : List Char} (digits : Digits ds) (stops : Stops isRunChar rest) :
    moreDigits Char.isDigit (ds ++ rest) = (ds, rest) := by
  induction ds with
  | nil => exact moreDigits_of_stops stops
  | cons d ds ih =>
    obtain ⟨digit, others⟩ := List.forall_mem_cons.mp digits
    rw [List.cons_append, moreDigits_cons digit, ih others]

theorem digitRun?_run {ds : List Char} (digits : Digits ds) (filled : ds ≠ [])
    (stops : Stops isRunChar rest) : digitRun? Char.isDigit (ds ++ rest) = some (ds, rest) := by
  cases ds with
  | nil => exact absurd rfl filled
  | cons d ds =>
    obtain ⟨digit, others⟩ := List.forall_mem_cons.mp digits
    simp [digitRun?, digit, moreDigits_run others stops]

/- The parts of a decimal. -/

theorem wholePart?_whole {m : Mantissa} (canonical : m.Canonical) (ends : EndsWhole rest) :
    wholePart? (m.whole ++ rest) = some (m.whole, rest) := by
  obtain ⟨c, ds, whole, leading⟩ := canonical.whole
  have run := digitRun?_run m.whole_digits (by simp [whole]) (ends.stops (p := isRunChar) (by decide))
  rw [whole] at run ⊢
  unfold wholePart?
  split
  · rename_i same
    obtain ⟨zero, behind⟩ := List.cons.inj same
    have single := leading zero
    subst single
    rw [zero, ← behind]
    rfl
  · exact run

theorem fractionPart_fraction {m : Mantissa} (canonical : m.Canonical) (ends : EndsMantissa rest) :
    fractionPart ((m.fraction.map ('.' :: ·)).getD [] ++ rest) = (m.places, rest) := by
  cases pointed : m.fraction with
  | none =>
    cases rest with
    | nil => simp [fractionPart, Mantissa.places, pointed]
    | cons c rest =>
      have other : c ≠ '.' := by
        rintro rfl
        exact absurd (begins_cons.mp ends) (by decide)
      simp [fractionPart, Mantissa.places, pointed, other]
  | some ds =>
    have run := digitRun?_run (m.fraction_digits ds pointed) (canonical.fraction ds pointed)
      (ends.stops (p := isRunChar) (by decide))
    simp [fractionPart, Mantissa.places, pointed, run]

theorem takeSign_sign (sign : Sign) {body : List Char}
    (unsigned : Stops (fun c => c == '-' || c == '+') body) :
    takeSign (sign.lexeme ++ body) = (decide (sign = .minus), body) := by
  cases sign with
  | plus | minus => rfl
  | none =>
    cases body with
    | nil => rfl
    | cons c rest =>
      have other := stops_cons.mp unsigned
      simp only [Bool.or_eq_false_iff, beq_eq_false_iff_ne] at other
      simp [Sign.lexeme, takeSign, other]

theorem takeSign_digits (sign : Sign) {ds : List Char} (digits : Digits ds) (filled : ds ≠ [])
    (rest : List Char) :
    takeSign (sign.lexeme ++ (ds ++ rest)) = (decide (sign = .minus), ds ++ rest) := by
  refine takeSign_sign sign ?_
  cases ds with
  | nil => exact absurd rfl filled
  | cons d ds =>
    refine stops_cons.mpr ?_
    have digit := digits d List.mem_cons_self
    simp only [Bool.or_eq_false_iff, beq_eq_false_iff_ne]
    constructor <;> rintro rfl <;> cases digit

theorem exponentPart_exponent (exponent : Option Exponent) (ends : Ends rest) :
    exponentPart ((exponent.map Exponent.lexeme).getD [] ++ rest) =
      (exponent.map Exponent.value, rest) := by
  cases exponent with
  | none =>
    cases rest with
    | nil => rfl
    | cons c rest =>
      have other : ¬ (c = 'e' ∨ c = 'E') := by
        rintro (rfl | rfl) <;> exact absurd (begins_cons.mp ends) (by decide)
      simp [exponentPart, other]
  | some x =>
    have marked : x.mark = 'e' ∨ x.mark = 'E' := x.mark_eq
    have signed := takeSign_digits x.sign x.all_digits x.digits_ne rest
    have run := digitRun?_run x.all_digits x.digits_ne (ends.stops (p := isRunChar) (by decide))
    simp [exponentPart, Exponent.lexeme, marked, signed, run, Exponent.value]

theorem exponent_ends (exponent : Option Exponent) (ends : Ends rest) :
    EndsMantissa ((exponent.map Exponent.lexeme).getD [] ++ rest) := by
  cases exponent with
  | none => exact ends.mono (by decide)
  | some x =>
    refine begins_cons.mpr ?_
    rcases x.mark_eq with lower | upper
    · simp [lower]
    · simp [upper]

def tailChars (n : Numeral) : List Char :=
  (n.mantissa.fraction.map ('.' :: ·)).getD [] ++ (n.exponent.map Exponent.lexeme).getD []

theorem lexeme_eq (n : Numeral) : n.lexeme = n.sign.lexeme ++ (n.mantissa.whole ++ tailChars n) := by
  simp [Numeral.lexeme, Numeral.body, Mantissa.lexeme, tailChars]

theorem tailChars_ends (n : Numeral) (ends : Ends rest) : EndsWhole (tailChars n ++ rest) := by
  have power := exponent_ends n.exponent ends
  unfold tailChars
  rw [List.append_assoc]
  cases n.mantissa.fraction with
  | none => exact power.mono (by decide)
  | some ds => exact begins_cons.mpr (by decide)

theorem readDecimal?_numeral {n : Numeral} (canonical : n.mantissa.Canonical) (ends : Ends rest) :
    readDecimal? (n.lexeme ++ rest) =
      some (if n.mantissa.places = [] ∧ n.exponent = none then
          if maxDigits < n.mantissa.whole.length then
            fail (n.lexeme ++ rest) (.tooManyDigits n.mantissa.whole.length)
          else .ok (int (applySign (n.sign = .minus) (Nat.ofDigitChars 10 n.mantissa.whole 0)), rest)
        else .ok (double n.value, rest)) := by
  obtain ⟨c, ds, spelled, _⟩ := canonical.whole
  have signed : takeSign (n.lexeme ++ rest) =
      (decide (n.sign = .minus), n.mantissa.whole ++ (tailChars n ++ rest)) := by
    rw [lexeme_eq, List.append_assoc, List.append_assoc]
    exact takeSign_digits n.sign n.mantissa.whole_digits (by simp [spelled]) _
  have whole := wholePart?_whole canonical (tailChars_ends n ends)
  have fraction := fractionPart_fraction canonical (exponent_ends n.exponent ends)
  rw [← List.append_assoc, ← tailChars] at fraction
  have exponent := exponentPart_exponent n.exponent ends
  simp only [readDecimal?, signed, whole, fraction, exponent, Option.map_some, Option.map_eq_none_iff]
  rfl

/- Dates, times and other bases. -/

theorem boundedField?_eq_none {width : Nat} (some : width ≠ 0) (stops : Stops Char.isDigit rest)
    (low high : Nat) : boundedField? width low high rest = none := by
  unfold boundedField?
  simp only
  refine if_neg ?_
  rintro ⟨wide, digits, _⟩
  cases rest with
  | nil => exact some (by simpa using wide.symm)
  | cons c rest =>
    obtain ⟨more, rfl⟩ := Nat.exists_eq_succ_of_ne_zero some
    have outside := stops_cons.mp stops
    simp [outside] at digits

/-- A field of digits ends within a run of digits, so what follows it is a digit or what follows
    the run. -/
theorem boundedField?_run {ds : List Char} (digits : Digits ds) (stops : Stops Char.isDigit rest)
    {width low high n : Nat} {behind : List Char}
    (field : boundedField? width low high (ds ++ rest) = some (n, behind)) :
    ∃ more, Digits more ∧ behind = more ++ rest := by
  unfold boundedField? at field
  simp only at field
  split at field
  · rename_i holds
    obtain ⟨wide, all, _⟩ := holds
    have inside : width ≤ ds.length := by
      have split : (ds ++ rest).take width ++ (ds ++ rest).drop width = ds ++ rest :=
        List.take_append_drop width (ds ++ rest)
      have bound := Text.length_le_of_stops split (fun c => List.all_eq_true.mp all c) stops
      omega
    have same : (ds ++ rest).drop width = behind := (Prod.mk.inj (Option.some.inj field)).2
    refine ⟨ds.drop width, fun c member => digits c (List.mem_of_mem_drop member), ?_⟩
    rw [← same, List.drop_append_of_le_length inside]
  · cases field

theorem mark?_run {mark : Char} {more : List Char} (digits : Digits more)
    (undigit : mark.isDigit = false) (other : rest.head? ≠ some mark) :
    mark? mark (more ++ rest) = none := by
  cases more with
  | nil =>
    cases rest with
    | nil => rfl
    | cons c rest =>
      have different : c ≠ mark := by simpa using other
      simp [mark?, different]
  | cons d more =>
    have different : d ≠ mark := by
      rintro rfl
      have digit := digits d List.mem_cons_self
      rw [undigit] at digit
      cases digit
    simp [mark?, different]

theorem readMoment?_of_stops (stops : Stops Char.isDigit rest) : readMoment? rest = none := by
  have year := boundedField?_eq_none (show 4 ≠ 0 by decide) stops 0 9999
  have hour := boundedField?_eq_none (show 2 ≠ 0 by decide) stops 0 23
  simp [readMoment?, skipDate?, skipTime?, year, hour]

theorem readMoment?_run {ds : List Char} (digits : Digits ds) (ends : EndsWhole rest) :
    readMoment? (ds ++ rest) = none := by
  have stops : Stops Char.isDigit rest := ends.stops (by decide)
  have hyphen : rest.head? ≠ some '-' := fun first => absurd (ends '-' first) (by decide)
  have colon : rest.head? ≠ some ':' := fun first => absurd (ends ':' first) (by decide)
  have date : skipDate? (ds ++ rest) = none := by
    cases field : boundedField? 4 0 9999 (ds ++ rest) with
    | none => simp [skipDate?, field]
    | some read =>
      obtain ⟨year, behind⟩ := read
      obtain ⟨more, within, rfl⟩ := boundedField?_run digits stops field
      simp [skipDate?, field, mark?_run within (by decide) hyphen]
  have time : skipTime? (ds ++ rest) = none := by
    cases field : boundedField? 2 0 23 (ds ++ rest) with
    | none => simp [skipTime?, field]
    | some read =>
      obtain ⟨hour, behind⟩ := read
      obtain ⟨more, within, rfl⟩ := boundedField?_run digits stops field
      simp [skipTime?, field, mark?_run within (by decide) colon]
  simp [readMoment?, date, time]

theorem readRadix?_of_head {c : Char} (nonzero : c ≠ '0') (rest : List Char) :
    readRadix? (c :: rest) = none := by
  unfold readRadix?
  split
  · rename_i same
    exact absurd (List.cons.inj same).1 nonzero
  · rfl

theorem readRadix?_zero (ends : EndsWhole rest) : readRadix? ('0' :: rest) = none := by
  cases rest with
  | nil => rfl
  | cons c rest =>
    have other : c ≠ 'x' ∧ c ≠ 'o' ∧ c ≠ 'b' := by
      have allowed := begins_cons.mp ends
      refine ⟨?_, ?_, ?_⟩ <;> rintro rfl <;> exact absurd allowed (by decide)
    simp [readRadix?, other]

theorem readScalar_of_decimal {cs : List Char} {read : Except Fault (Toml × List Char)}
    (head : ∀ c ∈ cs.head?, c ≠ 't' ∧ c ≠ 'f') (moment : readMoment? cs = none)
    (radix : readRadix? cs = none) (decimal : readDecimal? cs = some read) :
    readScalar cs = read := by
  unfold readScalar
  split
  · exact absurd rfl (head 't' rfl).1
  · exact absurd rfl (head 'f' rfl).2
  · simp [moment, radix, decimal]

theorem readScalar_numeral {n : Numeral} (unsigned : n.sign ≠ .plus)
    (canonical : n.mantissa.Canonical) (ends : Ends rest)
    {read : Except Fault (Toml × List Char)}
    (decimal : readDecimal? (n.lexeme ++ rest) = some read) :
    readScalar (n.lexeme ++ rest) = read := by
  obtain ⟨c, ds, spelled, leading⟩ := canonical.whole
  have tail := tailChars_ends n ends
  have digit : c.isDigit = true := n.mantissa.whole_digits c (by simp [spelled])
  rw [lexeme_eq, List.append_assoc, List.append_assoc] at decimal ⊢
  cases signed : n.sign with
  | plus => exact absurd signed unsigned
  | minus =>
    rw [signed] at decimal
    refine readScalar_of_decimal ?_ (readMoment?_of_stops (stops_cons.mpr rfl))
      (readRadix?_of_head (by decide) _) decimal
    intro d first
    obtain rfl : '-' = d := by simpa [Sign.lexeme] using first
    decide
  | none =>
    rw [signed] at decimal
    simp only [Sign.lexeme, List.nil_append] at decimal ⊢
    refine readScalar_of_decimal ?_ (readMoment?_run n.mantissa.whole_digits tail) ?_ decimal
    · intro d first
      obtain rfl : c = d := by simpa [spelled] using first
      constructor <;> rintro rfl <;> cases digit
    · rw [spelled]
      by_cases zero : c = '0'
      · subst zero
        rw [leading rfl]
        exact readRadix?_zero tail
      · exact readRadix?_of_head zero _

/- Numbers as they are written. -/

theorem signOf_ne_plus (negative : Bool) : signOf negative ≠ .plus := by
  cases negative <;> decide

theorem readScalar_int {n : Int} (writable : isWritable n = true) (ends : Ends rest) :
    readScalar (intChars n ++ rest) = .ok (int n, rest) := by
  obtain ⟨m, whole, canonical, spelled, value, short⟩ := exists_mantissa_of_int n
  have lexeme : (Numeral.mk (signOf (n < 0)) m none).lexeme = intChars n := by
    rw [← spelled]
    simp [Numeral.lexeme, Numeral.body]
  have places : m.places = [] := by simp [Mantissa.places, whole]
  have negates : decide (signOf (n < 0) = .minus) = decide (n < 0) := by
    cases decide (n < 0) <;> rfl
  have decimal := readDecimal?_numeral (n := ⟨signOf (n < 0), m, none⟩) canonical ends
  rw [if_pos ⟨places, rfl⟩, if_neg (Nat.not_lt_of_le (short writable)), negates, value] at decimal
  have read := readScalar_numeral (n := ⟨signOf (n < 0), m, none⟩) (signOf_ne_plus _) canonical
    ends decimal
  rwa [lexeme] at read

theorem readScalar_finite (negative : Bool) (m : Magnitude) (ends : Ends rest) :
    readScalar ((Double.finite negative m).chars ++ rest) =
      .ok (double (.finite negative m), rest) := by
  obtain ⟨n, signed, spelled, canonical, value⟩ := exists_numeral_of_finite negative m
  have fractional : ¬ (n.mantissa.places = [] ∧ n.exponent = none) := by
    rintro ⟨places, none⟩
    rcases canonical.fractional with pointed | raised
    · obtain ⟨ds, some⟩ := Option.ne_none_iff_exists'.mp pointed
      rw [Mantissa.places, some] at places
      exact canonical.mantissa.fraction ds some places
    · exact raised none
  have decimal := readDecimal?_numeral canonical.mantissa ends
  rw [if_neg fractional, value] at decimal
  have unsigned : n.sign ≠ .plus := by
    rw [signed]
    exact signOf_ne_plus negative
  rw [← spelled]
  exact readScalar_numeral unsigned canonical.mantissa ends decimal

theorem readScalar_of_special {cs : List Char} {read : Toml × List Char}
    (head : ∀ c ∈ cs.head?, c ≠ 't' ∧ c ≠ 'f') (moment : readMoment? cs = none)
    (radix : readRadix? cs = none) (decimal : readDecimal? cs = none)
    (special : readSpecial? cs = some read) : readScalar cs = .ok read := by
  unfold readScalar
  split
  · exact absurd rfl (head 't' rfl).1
  · exact absurd rfl (head 'f' rfl).2
  · simp [moment, radix, decimal, special]

theorem readScalar_double (x : Double) (ends : Ends rest) :
    readScalar (x.chars ++ rest) = .ok (double x, rest) := by
  cases x with
  | finite negative m => exact readScalar_finite negative m ends
  | nan =>
    exact readScalar_of_special (by simp [Double.chars]) (readMoment?_of_stops (stops_cons.mpr rfl))
      (readRadix?_of_head (by decide) _) rfl rfl
  | infinite negative =>
    cases negative with
    | false =>
      exact readScalar_of_special (by simp [Double.chars]) (readMoment?_of_stops (stops_cons.mpr rfl))
        (readRadix?_of_head (by decide) _) rfl rfl
    | true =>
      exact readScalar_of_special (by simp [Double.chars]) (readMoment?_of_stops (stops_cons.mpr rfl))
        (readRadix?_of_head (by decide) _) rfl rfl

end BondQuery.Toml
