import BondQuery.Proofs.Numerals
import BondQuery.Proofs.ShortestDecimal

/- Numbers as they are written out. A finite number is written as a numeral that stands for its
   shortest decimal, so it is rounded to it: moving the point, padding with zeros and splitting off
   an exponent all keep the number. -/
namespace BondQuery
open Syntax

theorem digits_toDigits (n : Nat) : Digits (Nat.toDigits 10 n) :=
  fun _ inside => Nat.isDigit_of_mem_toDigits (by decide) (by decide) inside

theorem digits_replicate_zero (count : Nat) : Digits (List.replicate count '0') := by
  intro c inside
  rw [List.eq_of_mem_replicate inside]
  rfl

theorem Syntax.Digits.append {xs ys : List Char} (left : Digits xs) (right : Digits ys) :
    Digits (xs ++ ys) := by
  intro c inside
  rcases List.mem_append.mp inside with first | second
  · exact left c first
  · exact right c second

theorem head_toDigits {n : Nat} (positive : n ≠ 0) :
    ∃ d rest, Nat.toDigits 10 n = d :: rest ∧ d ≠ '0' := by
  induction n using Nat.strongRecOn with
  | ind n ih =>
    by_cases small : n < 10
    · rw [Nat.toDigits_of_lt_base small]
      have digits : ∀ k, k < 10 → k ≠ 0 → k.digitChar ≠ '0' := by decide
      exact ⟨n.digitChar, [], rfl, digits n small positive⟩
    · have smaller : n / 10 < n := by omega
      have more : n / 10 ≠ 0 := by omega
      obtain ⟨d, rest, same, first⟩ := ih (n / 10) smaller more
      rw [Nat.toDigits_of_base_le (by decide) (by omega), same]
      exact ⟨d, rest ++ [(n % 10).digitChar], rfl, first⟩

theorem dropTrailingZeros_append (cs : List Char) :
    ∃ zeros, cs = dropTrailingZeros cs ++ List.replicate zeros '0' := by
  have split := List.takeWhile_append_dropWhile (p := (· == '0')) (l := cs.reverse)
  have zeros : cs.reverse.takeWhile (· == '0') =
      List.replicate (cs.reverse.takeWhile (· == '0')).length '0' := by
    refine List.eq_replicate_of_mem fun c inside => ?_
    simpa using List.mem_takeWhile_imp inside
  refine ⟨(cs.reverse.takeWhile (· == '0')).length, ?_⟩
  have back := congrArg List.reverse split
  rw [List.reverse_append, List.reverse_reverse, zeros, List.reverse_replicate] at back
  exact back.symm

theorem exists_significant {d : Decimal} (filled : d.digits ≠ 0) :
    ∃ c ds zeros, dropTrailingZeros (Nat.toDigits 10 d.digits) = c :: ds ∧ c ≠ '0' ∧
      Digits (c :: ds) ∧ d.digits = Nat.ofDigitChars 10 (c :: ds) 0 * 10 ^ zeros ∧
      (Nat.toDigits 10 d.digits).length = (c :: ds).length + zeros := by
  obtain ⟨c, rest, same, first⟩ := head_toDigits filled
  obtain ⟨zeros, split⟩ := dropTrailingZeros_append (Nat.toDigits 10 d.digits)
  cases kept : dropTrailingZeros (Nat.toDigits 10 d.digits) with
  | nil =>
    rw [kept, same] at split
    cases zeros with
    | zero => cases split
    | succ zeros =>
      rw [List.nil_append, List.replicate_succ] at split
      exact absurd (List.cons.inj split).1 first
  | cons e ds =>
    rw [kept] at split
    have head : e = c := by
      rw [same] at split
      exact (List.cons.inj split).1.symm
    subst head
    have digits : Digits (e :: ds) := by
      intro x inside
      refine digits_toDigits d.digits x ?_
      rw [split]
      exact List.mem_append_left _ inside
    have value := congrArg (Nat.ofDigitChars 10 · 0) split
    simp only [Nat.ofDigitChars_ten_toDigits, Nat.ofDigitChars_append,
      Nat.ofDigitChars_replicate_zero] at value
    have length := congrArg List.length split
    rw [List.length_append, List.length_replicate] at length
    exact ⟨e, ds, zeros, rfl, first, digits, by rw [value, Nat.mul_comm], length⟩

namespace Syntax

structure Mantissa.Canonical (m : Mantissa) : Prop where
  whole : ∃ c ds, m.whole = c :: ds ∧ (c = '0' → ds = [])
  fraction : ∀ ds ∈ m.fraction, ds ≠ []

def Mantissa.decimal (m : Mantissa) : Decimal :=
  ⟨Nat.ofDigitChars 10 (m.whole ++ m.places) 0, -(m.places.length : Int)⟩

end Syntax

/-- The mantissa is written like this and stands for the same number as the decimal. -/
structure Writes (m : Mantissa) (chars : List Char) (d : Decimal) : Prop where
  lexeme : m.lexeme = chars
  canonical : m.Canonical
  value : m.decimal.value = d.value

section
variable {c : Char} {ds : List Char} {point : Int}

theorem exists_point_before (digits : Digits (c :: ds)) (before : point ≤ 0) :
    ∃ m : Mantissa, m.fraction ≠ none ∧
      Writes m ('0' :: '.' :: List.replicate (-point).toNat '0' ++ c :: ds)
        ⟨Nat.ofDigitChars 10 (c :: ds) 0, point - (c :: ds).length⟩ := by
  have places : Digits (List.replicate (-point).toNat '0' ++ c :: ds) :=
    (digits_replicate_zero _).append digits
  have value : Nat.ofDigitChars 10 (['0'] ++ (List.replicate (-point).toNat '0' ++ c :: ds)) 0 =
      Nat.ofDigitChars 10 (c :: ds) 0 := by
    rw [Nat.ofDigitChars_append, Nat.ofDigitChars_append, Nat.ofDigitChars_replicate_zero]
    simp [Nat.ofDigitChars_cons]
  have exponent : -((List.replicate (-point).toNat '0' ++ c :: ds).length : Int) =
      point - (c :: ds).length := by
    rw [List.length_append, List.length_replicate]
    omega
  refine ⟨⟨['0'], some (List.replicate (-point).toNat '0' ++ c :: ds), by decide, ?_,
    .inl (by simp)⟩, by simp, by simp [Mantissa.lexeme], ⟨⟨'0', [], rfl, fun _ => rfl⟩, by simp⟩, ?_⟩
  · intro written pointed
    cases pointed
    exact places
  · simp only [Mantissa.decimal, Mantissa.places, Option.getD_some, value, exponent]

theorem exists_point_behind (digits : Digits (c :: ds)) (first : c ≠ '0')
    (behind : (c :: ds).length ≤ point.toNat) :
    ∃ m : Mantissa, m.fraction ≠ none ∧
      Writes m (c :: ds ++ List.replicate (point.toNat - (c :: ds).length) '0' ++ ['.', '0'])
        ⟨Nat.ofDigitChars 10 (c :: ds) 0, point - (c :: ds).length⟩ := by
  have padded : Digits (c :: ds ++ List.replicate (point.toNat - (c :: ds).length) '0') :=
    digits.append (digits_replicate_zero _)
  have value : Nat.ofDigitChars 10
      (c :: ds ++ List.replicate (point.toNat - (c :: ds).length) '0' ++ ['0']) 0 =
      Nat.ofDigitChars 10 (c :: ds) 0 * 10 ^ (point.toNat - (c :: ds).length + 1) := by
    rw [Nat.ofDigitChars_append, Nat.ofDigitChars_append, Nat.ofDigitChars_replicate_zero]
    simp only [Nat.ofDigitChars_cons, Nat.ofDigitChars_nil, Nat.pow_succ, Char.reduceToNat,
      Nat.sub_self, Nat.add_zero]
    ring
  have exponent : -((['0'] : List Char).length : Int) +
      ((point.toNat - (c :: ds).length + 1 : Nat) : Int) = point - (c :: ds).length := by
    simp only [List.length_cons, List.length_nil] at behind ⊢
    omega
  refine ⟨⟨c :: ds ++ List.replicate (point.toNat - (c :: ds).length) '0', some ['0'], padded,
    by simp [Digits], .inl (by simp)⟩, by simp, by simp [Mantissa.lexeme],
    ⟨⟨c, _, rfl, fun zero => absurd zero first⟩, by simp⟩, ?_⟩
  simp only [Mantissa.decimal, Mantissa.places, Option.getD_some, value]
  rw [Decimal.value_shift, exponent]

theorem exists_point_between (digits : Digits (c :: ds)) (first : c ≠ '0') (count : Nat)
    (between : count < ds.length) :
    ∃ m : Mantissa, m.fraction ≠ none ∧
      Writes m (c :: ds.take count ++ '.' :: ds.drop count)
        ⟨Nat.ofDigitChars 10 (c :: ds) 0, (count + 1 : Nat) - ((c :: ds).length : Int)⟩ := by
  have behind : ds.drop count ≠ [] := by
    intro none
    have short := List.drop_eq_nil_iff.mp none
    omega
  have split : c :: ds = (c :: ds.take count) ++ ds.drop count := by
    rw [List.cons_append, List.take_append_drop]
  have whole : Digits (c :: ds.take count) := by
    intro x inside
    refine digits x ?_
    rw [split]
    exact List.mem_append_left _ inside
  have places : Digits (ds.drop count) := by
    intro x inside
    exact digits x (List.mem_cons_of_mem _ (List.mem_of_mem_drop inside))
  refine ⟨⟨c :: ds.take count, some (ds.drop count), whole, ?_, .inl (by simp)⟩, by simp,
    by simp [Mantissa.lexeme], ⟨⟨c, _, rfl, fun zero => absurd zero first⟩, ?_⟩, ?_⟩
  · intro written pointed
    cases pointed
    exact places
  · intro written pointed
    cases pointed
    exact behind
  · have exponent : -((ds.drop count).length : Int) =
        (count + 1 : Nat) - ((c :: ds).length : Int) := by
      rw [List.length_drop, List.length_cons]
      omega
    simp only [Mantissa.decimal, Mantissa.places, Option.getD_some, ← split, exponent]

theorem exists_positional (digits : Digits (c :: ds)) (first : c ≠ '0') (point : Int) :
    ∃ m : Mantissa, m.fraction ≠ none ∧ Writes m (positionalChars (c :: ds) point)
      ⟨Nat.ofDigitChars 10 (c :: ds) 0, point - (c :: ds).length⟩ := by
  unfold positionalChars
  by_cases before : point ≤ 0
  · rw [if_pos before]
    exact exists_point_before digits before
  · rw [if_neg before]
    by_cases behind : (c :: ds).length ≤ point.toNat
    · rw [if_pos behind]
      exact exists_point_behind digits first behind
    · rw [if_neg behind]
      obtain ⟨count, counted⟩ : ∃ count : Nat, point = (count + 1 : Nat) :=
        ⟨point.toNat - 1, by omega⟩
      subst counted
      have between : count < ds.length := by
        rw [List.length_cons, Int.toNat_natCast] at behind
        omega
      exact exists_point_between digits first count between

/-- A point behind the first digit, none if that is the only one. -/
def pointed : List Char → List Char
  | [] => []
  | [d] => [d]
  | d :: rest => d :: '.' :: rest

theorem exists_pointed (digits : Digits (c :: ds)) (first : c ≠ '0') :
    ∃ m : Mantissa, Writes m (pointed (c :: ds))
      ⟨Nat.ofDigitChars 10 (c :: ds) 0, 1 - ((c :: ds).length : Int)⟩ := by
  cases ds with
  | nil =>
    refine ⟨⟨[c], none, digits, by simp, .inl (by simp)⟩, by simp [Mantissa.lexeme, pointed],
      ⟨⟨c, [], rfl, fun _ => rfl⟩, by simp⟩, ?_⟩
    simp [Mantissa.decimal, Mantissa.places]
  | cons d rest =>
    obtain ⟨m, _, writes⟩ := exists_point_between digits first 0 (by simp)
    exact ⟨m, writes⟩

end

theorem exists_exponent (layout : DecimalLayout) (point : Int) :
    ∃ x : Exponent, x.lexeme = 'e' :: (if point < 1 then '-' else '+') ::
        List.replicate (layout.exponentWidth - (Nat.toDigits 10 (point - 1).natAbs).length) '0' ++
          Nat.toDigits 10 (point - 1).natAbs ∧
      x.value = point - 1 := by
  have digits : Digits (List.replicate
      (layout.exponentWidth - (Nat.toDigits 10 (point - 1).natAbs).length) '0' ++
        Nat.toDigits 10 (point - 1).natAbs) :=
    (digits_replicate_zero _).append (digits_toDigits _)
  refine ⟨⟨'e', if point < 1 then .minus else .plus, _, .inl rfl, digits, by simp⟩, ?_, ?_⟩
  · split <;> simp [Exponent.lexeme, Sign.lexeme]
  · simp only [Exponent.value, Nat.ofDigitChars_append, Nat.ofDigitChars_replicate_zero,
      Nat.mul_zero, Nat.ofDigitChars_ten_toDigits, applySign]
    by_cases small : point < 1
    · rw [if_pos small, if_pos (by rfl)]
      omega
    · rw [if_neg small, if_neg (by simp)]
      omega

namespace Syntax

/-- The parts are in their shortest form, and a fraction or an exponent tells it from an integer. -/
structure Numeral.Canonical (n : Numeral) : Prop where
  mantissa : n.mantissa.Canonical
  fractional : n.mantissa.fraction ≠ none ∨ n.exponent ≠ none

def Numeral.decimal (n : Numeral) : Decimal :=
  ⟨Nat.ofDigitChars 10 (n.mantissa.whole ++ n.mantissa.places) 0,
    (n.exponent.map Exponent.value).getD 0 - n.mantissa.places.length⟩

theorem Numeral.value_decimal (n : Numeral) : n.decimal.value =
    n.mantissa.decimal.value * 10 ^ (n.exponent.map Exponent.value).getD 0 := by
  have ten : (10 : ℚ) ≠ 0 := by norm_num
  simp only [decimal, Mantissa.decimal, Decimal.value]
  rw [sub_eq_neg_add, zpow_add₀ ten, mul_assoc]

theorem Numeral.value_of_contains {magnitude : Magnitude} {n : Numeral}
    (filled : magnitude.significand ≠ 0) (inside : magnitude.contains n.decimal = true) :
    n.value = .finite (n.sign = .minus) magnitude :=
  Double.ofDecimal_of_contains _ inside filled

theorem Numeral.value_of_zero {n : Numeral} (none : n.decimal.digits = 0) :
    n.value = .finite (n.sign = .minus) .zero := by
  change Double.ofDecimal _ n.decimal.digits n.decimal.exponent = _
  unfold Double.ofDecimal
  rw [if_pos (.inl none)]

end Syntax

def signOf (negative : Bool) : Sign :=
  if negative then .minus else .none

theorem exists_numeral_of_decimal (layout : DecimalLayout) (sign : Sign) {d : Decimal}
    (digits : d.digits ≠ 0) :
    ∃ n : Numeral, n.sign = sign ∧ n.body = decimalChars layout d ∧ n.Canonical ∧
      n.decimal.value = d.value := by
  obtain ⟨c, ds, zeros, kept, first, all, value, length⟩ := exists_significant digits
  obtain ⟨point, named⟩ : ∃ point, d.exponent + ((Nat.toDigits 10 d.digits).length : Int) = point :=
    ⟨_, rfl⟩
  -- the digits that were dropped go into the exponent
  have shifted : d.value = (⟨Nat.ofDigitChars 10 (c :: ds) 0, point - (c :: ds).length⟩ :
      Decimal).value := by
    have exponent : point - ((c :: ds).length : Int) = d.exponent + zeros := by
      rw [← named, length]
      omega
    rw [exponent, ← Decimal.value_shift, ← value]
  unfold decimalChars
  simp only [kept, named]
  rw [shifted]
  by_cases positional : layout.leastExponent < point ∧ point ≤ layout.endExponent
  · rw [if_pos positional]
    obtain ⟨mantissa, fraction, writes⟩ := exists_positional all first point
    refine ⟨⟨sign, mantissa, none⟩, rfl, ?_, ⟨writes.canonical, .inl fraction⟩, ?_⟩
    · simp [Numeral.body, writes.lexeme]
    · rw [Numeral.value_decimal, writes.value]
      exact mul_one _
  · rw [if_neg positional]
    obtain ⟨mantissa, writes⟩ := exists_pointed all first
    obtain ⟨x, spelled, raised⟩ := exists_exponent layout point
    refine ⟨⟨sign, mantissa, some x⟩, rfl, ?_, ⟨writes.canonical, .inr (by simp)⟩, ?_⟩
    · simp only [Numeral.body, writes.lexeme, Option.map_some, Option.getD_some, spelled]
      cases ds <;> simp [exponentChars, pointed]
    · have exponent : point - ((c :: ds).length : Int) = 1 - ((c :: ds).length : Int) + (point - 1) := by
        omega
      have ten : (10 : ℚ) ≠ 0 := by norm_num
      rw [Numeral.value_decimal, writes.value, exponent]
      simp only [Decimal.value, Option.map_some, Option.getD_some, raised]
      rw [zpow_add₀ ten, mul_assoc]

theorem exists_numeral_of_shortest (negative : Bool) (m : Magnitude) :
    ∃ n : Numeral, n.sign = signOf negative ∧ n.lexeme = (Double.finite negative m).chars ∧
      n.Canonical ∧ n.decimal.value = m.shortest.value := by
  have sign : (signOf negative).lexeme = if negative then ['-'] else [] := by
    cases negative <;> rfl
  by_cases empty : m.significand = 0
  · obtain rfl := Magnitude.eq_zero empty
    refine ⟨⟨signOf negative, ⟨['0'], some ['0'], by decide, by simp [Digits], .inl (by simp)⟩, none⟩,
      rfl, ?_, ⟨⟨⟨'0', [], rfl, fun _ => rfl⟩, by simp⟩, .inl (by simp)⟩, ?_⟩
    · simp [Numeral.lexeme, Numeral.body, Mantissa.lexeme, sign, Double.chars, Magnitude.chars,
        Magnitude.zero]
    · rw [Magnitude.value_shortest_zero]
      exact zero_mul _
  · obtain ⟨n, signed, body, canonical, same⟩ := exists_numeral_of_decimal decimalLayout
      (signOf negative) (Magnitude.digits_shortest empty)
    refine ⟨n, signed, ?_, canonical, same⟩
    rw [Numeral.lexeme, signed, sign, body, Double.chars, Magnitude.chars, if_neg empty]

theorem exists_numeral_of_finite (negative : Bool) (m : Magnitude) :
    ∃ n : Numeral, n.sign = signOf negative ∧ n.lexeme = (Double.finite negative m).chars ∧
      n.Canonical ∧ n.value = .finite negative m := by
  obtain ⟨n, signed, written, canonical, same⟩ := exists_numeral_of_shortest negative m
  have negates : decide (n.sign = .minus) = negative := by
    rw [signed]
    cases negative <;> rfl
  refine ⟨n, signed, written, canonical, ?_⟩
  by_cases empty : m.significand = 0
  · obtain rfl := Magnitude.eq_zero empty
    have none : n.decimal.digits = 0 := by
      have ten : (10 : ℚ) ^ n.decimal.exponent ≠ 0 := zpow_ne_zero _ (by norm_num)
      rw [Magnitude.value_shortest_zero, Decimal.value, mul_eq_zero_iff_right ten] at same
      exact_mod_cast same
    rw [Numeral.value_of_zero none, negates]
  · have inside := Magnitude.contains_congr same.symm (m.contains_shortest empty)
    rw [Numeral.value_of_contains empty inside, negates]

/-- A number of 64 bits is read back from its written form. -/
theorem readDouble?_chars (x : Double) : readDouble? x.chars = some x := by
  cases x with
  | nan => decide
  | infinite negative => cases negative <;> decide
  | finite negative m =>
    obtain ⟨n, _, written, _, value⟩ := exists_numeral_of_finite negative m
    rw [← written, readDouble?_lexeme, value]

theorem isWritable_iff {n : Int} :
    isWritable n = true ↔ (Nat.toDigits 10 n.natAbs).length ≤ maxDigits := by
  have some : 0 < maxDigits := by decide
  unfold isWritable
  generalize maxDigits = limit at *
  rw [Nat.length_toDigits_le_iff (by decide) some]
  exact decide_eq_true_iff

theorem exists_mantissa_of_int (n : Int) :
    ∃ m : Mantissa, m.fraction = none ∧ m.Canonical ∧
      (signOf (n < 0)).lexeme ++ m.lexeme = intChars n ∧
      applySign (n < 0) (Nat.ofDigitChars 10 m.whole 0) = n ∧
      (isWritable n = true → m.whole.length ≤ maxDigits) := by
  have leading : ∃ c ds, Nat.toDigits 10 n.natAbs = c :: ds ∧ (c = '0' → ds = []) := by
    by_cases none : n.natAbs = 0
    · rw [none]
      exact ⟨'0', [], rfl, fun _ => rfl⟩
    · obtain ⟨c, ds, same, first⟩ := head_toDigits none
      exact ⟨c, ds, same, fun zero => absurd zero first⟩
  refine ⟨⟨Nat.toDigits 10 n.natAbs, none, digits_toDigits _, by simp, .inl (by simp)⟩, rfl,
    ⟨leading, by simp⟩, ?_, ?_, ?_⟩
  · by_cases negative : n < 0
    · simp [negative, signOf, Sign.lexeme, Mantissa.lexeme, intChars]
    · simp [negative, signOf, Sign.lexeme, Mantissa.lexeme, intChars]
  · rw [Nat.ofDigitChars_ten_toDigits, applySign]
    by_cases negative : n < 0
    · rw [decide_eq_true negative, if_pos rfl]
      omega
    · rw [decide_eq_false negative, if_neg Bool.false_ne_true]
      omega
  · exact isWritable_iff.mp

theorem readInt_intChars {n : Int} (writable : isWritable n = true) :
    readInt (intChars n) = .ok n := by
  obtain ⟨m, pointless, _, written, value, short⟩ := exists_mantissa_of_int n
  have read := readInt_lexeme (n := ⟨signOf (n < 0), m, none⟩) pointless rfl (short writable)
  have lexeme : (Numeral.mk (signOf (n < 0)) m none).lexeme = intChars n := by
    rw [← written]
    simp [Numeral.lexeme, Numeral.body]
  have negates : decide (signOf (n < 0) = .minus) = decide (n < 0) := by
    by_cases negative : n < 0
    · simp [negative, signOf]
    · simp [negative, signOf]
  rw [lexeme, negates, value] at read
  exact read

end BondQuery
