import Mathlib.Algebra.Order.Field.Rat
import Mathlib.Tactic.Linarith
import Mathlib.Tactic.Ring
import BondQuery.Number.Shortest

/- Rounding to the nearest magnitude. Around each magnitude lies an interval of the numbers that are
   rounded to it; whatever decimal stands for a number in the interval is read as that magnitude. -/
namespace BondQuery

theorem roundDiv_eq_of_close {a b s : Nat} (low : 2 * (s * b) ≤ 2 * a + b)
    (high : 2 * a ≤ 2 * (s * b) + b)
    (inside : s % 2 = 1 → 2 * (s * b) < 2 * a + b ∧ 2 * a < 2 * (s * b) + b) (positive : 0 < b) :
    roundDiv a b = s := by
  have whole : a = a / b * b + a % b := (Nat.div_add_mod' a b).symm
  have part : a % b < b := Nat.mod_lt a positive
  have least : a / b ≤ s := by
    by_contra above
    have gap : (s + 1) * b ≤ a / b * b := Nat.mul_le_mul_right b (by omega)
    rw [Nat.succ_mul] at gap
    omega
  have most : s ≤ a / b + 1 := by
    by_contra below
    have gap : (a / b + 2) * b ≤ s * b := Nat.mul_le_mul_right b (by omega)
    rw [Nat.add_mul] at gap
    omega
  unfold roundDiv
  obtain same | next : s = a / b ∨ s = a / b + 1 := by omega
  · rw [← same] at whole ⊢
    split
    · rfl
    · split
      · omega
      · split <;> omega
  · have product : s * b = a / b * b + b := by rw [next, Nat.succ_mul]
    split
    · omega
    · split
      · exact next.symm
      · split <;> omega

theorem shiftLeft_pos {d : Nat} (positive : 0 < d) (shift : Nat) : 0 < d <<< shift := by
  rw [Nat.shiftLeft_eq]
  exact Nat.mul_pos positive (Nat.two_pow_pos shift)

namespace Magnitude

theorem shiftOf_eq {units shift : Nat} (least : 0 < shift → 2 ^ (52 + shift) ≤ units)
    (most : units < 2 ^ (53 + shift)) : shiftOf units = shift := by
  unfold shiftOf
  by_cases none : units = 0
  · subst none
    rcases Nat.eq_zero_or_pos shift with zero | positive
    · simp [zero]
    · exact absurd (least positive) (by simp)
  · have above : units.log2 < 53 + shift := (Nat.log2_lt none).mpr most
    rcases Nat.eq_zero_or_pos shift with zero | positive
    · omega
    · have below : 52 + shift ≤ units.log2 := (Nat.le_log2 none).mpr (least positive)
      omega

theorem shiftOf_div_eq {a d shift : Nat} (positive : 0 < d)
    (least : 0 < shift → 2 ^ 52 * (d <<< shift) ≤ a) (most : a < 2 ^ 53 * (d <<< shift)) :
    shiftOf (a / d) = shift := by
  have scaled (k : Nat) : 2 ^ k * (d <<< shift) = 2 ^ (k + shift) * d := by
    rw [Nat.shiftLeft_eq]
    ring
  rw [scaled] at least most
  refine shiftOf_eq (fun shifted => ?_) ?_
  · exact (Nat.le_div_iff_mul_le positive).mpr (least shifted)
  · exact (Nat.div_lt_iff_lt_mul positive).mpr most

theorem nearest_eq_of_rounded {numerator denominator : Nat} (m : Magnitude)
    (shift : shiftOf (numerator * unitsPerOne / denominator) = m.shift)
    (rounded : roundDiv (numerator * unitsPerOne) (denominator <<< m.shift) = m.significand) :
    nearest numerator denominator = some m := by
  simp only [nearest, shift, rounded, m.significand_lt, m.shift_le, dite_true]

theorem nearest_eq_of_carried {numerator denominator shift : Nat} (m : Magnitude)
    (top : m.significand = 0x10000000000000) (next : m.shift = shift + 1)
    (found : shiftOf (numerator * unitsPerOne / denominator) = shift)
    (rounded : roundDiv (numerator * unitsPerOne) (denominator <<< shift) = 0x20000000000000) :
    nearest numerator denominator = some m := by
  have small : shift + 1 ≤ 2045 := next ▸ m.shift_le
  simp only [nearest, found, rounded, Nat.lt_irrefl, dite_false, small, dite_true, Option.some.injEq]
  rw [mk.injEq]
  exact ⟨top.symm, next.symm⟩

/-- The lower half step of a magnitude, in quarters of its step. -/
def lowerQuarters (m : Magnitude) : Nat :=
  if m.significand = 0x10000000000000 ∧ 0 < m.shift then 1 else 2

/-- The rounding interval around a magnitude, counted in steps of its own shift: `a / d` units lie
    within half a step of it, or within a quarter below the least significand. -/
structure Near (m : Magnitude) (a d : Nat) : Prop where
  low : 4 * (m.significand * (d <<< m.shift)) ≤ 4 * a + m.lowerQuarters * (d <<< m.shift)
  high : 4 * a ≤ 4 * (m.significand * (d <<< m.shift)) + 2 * (d <<< m.shift)
  inside : m.significand % 2 = 1 →
    4 * (m.significand * (d <<< m.shift)) < 4 * a + m.lowerQuarters * (d <<< m.shift) ∧
      4 * a < 4 * (m.significand * (d <<< m.shift)) + 2 * (d <<< m.shift)

theorem lowerQuarters_cases (m : Magnitude) :
    (m.lowerQuarters = 1 ∧ m.significand = 0x10000000000000 ∧ 0 < m.shift) ∨
      (m.lowerQuarters = 2 ∧ (0 < m.shift → 0x10000000000000 < m.significand)) := by
  unfold lowerQuarters
  split
  · rename_i bottom
    exact .inl ⟨rfl, bottom⟩
  · rename_i other
    have normal := m.normal
    exact .inr ⟨rfl, fun shifted => by omega⟩

theorem lowerQuarters_bounds (m : Magnitude) : 0 < m.lowerQuarters ∧ m.lowerQuarters ≤ 2 := by
  unfold lowerQuarters
  split <;> decide

/-- Whatever lies near a magnitude is rounded to it. -/
theorem nearest_eq_of_near {m : Magnitude} {numerator denominator : Nat} (positive : 0 < denominator)
    (near : m.Near (numerator * unitsPerOne) denominator) :
    nearest numerator denominator = some m := by
  obtain ⟨low, high, inside⟩ := near
  have stepped := shiftLeft_pos positive m.shift
  have lt := Nat.mul_le_mul_right (denominator <<< m.shift) m.significand_lt
  rw [Nat.succ_mul] at lt
  by_cases below : m.lowerQuarters = 1 ∧
      numerator * unitsPerOne < m.significand * (denominator <<< m.shift)
  · -- below a power of two the steps are half as long, and the number rounds up to it
    obtain ⟨quarter, under⟩ := below
    obtain ⟨_, top, shifted⟩ | ⟨half, _⟩ := m.lowerQuarters_cases
    · obtain ⟨shift, next⟩ : ∃ shift, m.shift = shift + 1 := ⟨m.shift - 1, by omega⟩
      have doubled : denominator <<< m.shift = 2 * (denominator <<< shift) := by
        rw [next, Nat.shiftLeft_succ]
      rw [doubled] at low high inside under stepped
      rw [top] at low under
      rw [quarter] at low
      have found : shiftOf (numerator * unitsPerOne / denominator) = shift :=
        shiftOf_div_eq positive (fun _ => by omega) (by omega)
      refine nearest_eq_of_carried m top next found ?_
      exact roundDiv_eq_of_close (by omega) (by omega) (fun odd => absurd odd (by decide)) (by omega)
    · omega
  · have found : shiftOf (numerator * unitsPerOne / denominator) = m.shift := by
      refine shiftOf_div_eq positive (fun shifted => ?_) (by omega)
      obtain ⟨quarter, top, _⟩ | ⟨half, above⟩ := m.lowerQuarters_cases
      · have reached : m.significand * (denominator <<< m.shift) ≤ numerator * unitsPerOne := by omega
        rw [top] at reached
        exact reached
      · have more := Nat.mul_le_mul_right (denominator <<< m.shift) (above shifted)
        rw [half] at low
        omega
    refine nearest_eq_of_rounded m found (roundDiv_eq_of_close ?_ (by omega) ?_ stepped)
    · obtain ⟨quarter, _⟩ | ⟨half, _⟩ := m.lowerQuarters_cases
      · omega
      · rw [half] at low
        omega
    · intro odd
      obtain ⟨above, under⟩ := inside odd
      obtain ⟨_, top, _⟩ | ⟨half, _⟩ := m.lowerQuarters_cases
      · rw [top] at odd
        exact absurd odd (by decide)
      · rw [half] at above
        omega

theorem Near.congr {m : Magnitude} {a d a' d' : Nat} (near : m.Near a d) (positive : 0 < d)
    (positive' : 0 < d') (same : a * d' = a' * d) : m.Near a' d' := by
  have scaled (k : Nat) : k * (d <<< m.shift) * d' = k * (d' <<< m.shift) * d := by
    simp only [Nat.shiftLeft_eq]
    ring
  have center := scaled m.significand
  have lower := scaled m.lowerQuarters
  have upper := scaled 2
  obtain ⟨low, high, inside⟩ := near
  refine ⟨Nat.le_of_mul_le_mul_right ?_ positive, Nat.le_of_mul_le_mul_right ?_ positive, fun odd =>
    ⟨Nat.lt_of_mul_lt_mul_right (a := d) ?_, Nat.lt_of_mul_lt_mul_right (a := d) ?_⟩⟩
  · linarith [Nat.mul_le_mul_right d' low]
  · linarith [Nat.mul_le_mul_right d' high]
  · linarith [Nat.mul_lt_mul_of_pos_right (inside odd).1 positive']
  · linarith [Nat.mul_lt_mul_of_pos_right (inside odd).2 positive']

end Magnitude

def Decimal.numerator (d : Decimal) : Nat :=
  d.digits * Nat.pow 10 d.exponent.toNat

theorem Decimal.denominator_pos (d : Decimal) : 0 < d.denominator :=
  Nat.pow_pos (by decide)

def Decimal.value (d : Decimal) : ℚ :=
  d.digits * 10 ^ d.exponent

theorem Decimal.value_eq_div (d : Decimal) : d.value = d.numerator / d.denominator := by
  obtain ⟨digits, exponent⟩ := d
  obtain ⟨k, same | same⟩ := exponent.eq_nat_or_neg
  · have raised : exponent.toNat = k := by omega
    have lowered : (-exponent).toNat = 0 := by omega
    simp only [value, numerator, denominator, Nat.pow_eq, raised, lowered]
    rw [same, zpow_natCast]
    push_cast
    ring
  · have raised : exponent.toNat = 0 := by omega
    have lowered : (-exponent).toNat = k := by omega
    simp only [value, numerator, denominator, Nat.pow_eq, raised, lowered]
    rw [same, zpow_neg, zpow_natCast, div_eq_mul_inv]
    push_cast
    ring

theorem Decimal.value_shift (n places : Nat) (exponent : Int) :
    (⟨n * 10 ^ places, exponent⟩ : Decimal).value = (⟨n, exponent + places⟩ : Decimal).value := by
  have ten : (10 : ℚ) ≠ 0 := by norm_num
  simp only [value]
  rw [zpow_add₀ ten, zpow_natCast]
  push_cast
  ring

namespace Magnitude

theorem lowerEnd_eq (m : Magnitude) : m.lowerEnd = 4 * m.units - m.lowerQuarters <<< m.shift := rfl

theorem contains_iff_near {m : Magnitude} {d : Decimal} :
    m.contains d = true ↔ m.Near (d.numerator * unitsPerOne) d.denominator := by
  have quarters : d.quarterUnits = 4 * (d.numerator * unitsPerOne) := by
    simp only [Decimal.quarterUnits, Decimal.numerator]
    ring
  have center : 4 * m.units * d.denominator = 4 * (m.significand * (d.denominator <<< m.shift)) := by
    simp only [units, Nat.shiftLeft_eq]
    ring
  have spread (k : Nat) : k <<< m.shift * d.denominator = k * (d.denominator <<< m.shift) := by
    simp only [Nat.shiftLeft_eq]
    ring
  have lower : m.lowerEnd * d.denominator =
      4 * (m.significand * (d.denominator <<< m.shift)) -
        m.lowerQuarters * (d.denominator <<< m.shift) := by
    rw [lowerEnd_eq, Nat.sub_mul, center, spread]
  have upper : m.upperEnd * d.denominator =
      4 * (m.significand * (d.denominator <<< m.shift)) + 2 * (d.denominator <<< m.shift) := by
    rw [upperEnd, Nat.add_mul, center, spread]
  have few := Nat.mul_le_mul_right (d.denominator <<< m.shift) m.lowerQuarters_bounds.2
  unfold contains
  simp only [lower, upper, quarters]
  by_cases odd : m.significand % 2 = 1
  · -- an odd significand is positive, so nothing is cut off below it
    have one := Nat.mul_le_mul_right (d.denominator <<< m.shift)
      (show 1 ≤ m.significand by omega)
    have parity : ¬ m.significand % 2 = 0 := by omega
    simp only [parity, if_false, Bool.and_eq_true, decide_eq_true_eq]
    constructor
    · rintro ⟨above, under⟩
      exact ⟨by omega, by omega, fun _ => ⟨by omega, under⟩⟩
    · intro near
      have := near.inside odd
      omega
  · have parity : m.significand % 2 = 0 := by omega
    simp only [parity, if_true, Bool.and_eq_true, decide_eq_true_eq]
    constructor
    · rintro ⟨above, under⟩
      exact ⟨by omega, under, fun other => absurd other odd⟩
    · rintro ⟨above, under, _⟩
      omega

theorem contains_congr {m : Magnitude} {d d' : Decimal} (same : d.value = d'.value)
    (inside : m.contains d = true) : m.contains d' = true := by
  rw [contains_iff_near] at inside ⊢
  apply inside.congr d.denominator_pos d'.denominator_pos
  have positive : (d.denominator : ℚ) ≠ 0 := Nat.cast_ne_zero.mpr (Nat.ne_of_gt d.denominator_pos)
  have positive' : (d'.denominator : ℚ) ≠ 0 :=
    Nat.cast_ne_zero.mpr (Nat.ne_of_gt d'.denominator_pos)
  rw [Decimal.value_eq_div, Decimal.value_eq_div, div_eq_div_iff positive positive'] at same
  have cross : d.numerator * d'.denominator = d'.numerator * d.denominator := by exact_mod_cast same
  rw [Nat.mul_right_comm, cross, Nat.mul_right_comm]

theorem unitsPerOne_pos : 0 < unitsPerOne := by decide +kernel

theorem unitsPerOne_small : 2 * unitsPerOne ≤ 10 ^ 324 := by decide +kernel

theorem step_small (m : Magnitude) : 2 ^ 53 * 2 ^ m.shift ≤ 10 ^ 309 * unitsPerOne := by
  have widest : ∀ shift, shift = 2045 → 2 ^ 53 * 2 ^ shift ≤ 10 ^ 309 * unitsPerOne := by
    rintro _ rfl
    decide +kernel
  obtain ⟨shift, last⟩ : ∃ shift, shift = 2045 := ⟨_, rfl⟩
  have below : m.shift ≤ shift := last ▸ m.shift_le
  exact (Nat.mul_le_mul_left _ (Nat.pow_le_pow_right (by decide) below)).trans (widest shift last)

theorem Near.half_le {m : Magnitude} {a d : Nat} (near : m.Near a d) (filled : m.significand ≠ 0) :
    d ≤ 2 * a := by
  obtain ⟨low, -, -⟩ := near
  have step : d ≤ d <<< m.shift := by
    rw [Nat.shiftLeft_eq]
    exact Nat.le_mul_of_pos_right d (Nat.two_pow_pos _)
  have one := Nat.mul_le_mul_right (d <<< m.shift) (show 1 ≤ m.significand by omega)
  have cut := Nat.mul_le_mul_right (d <<< m.shift) m.lowerQuarters_bounds.2
  omega

theorem Near.lt_step {m : Magnitude} {a d : Nat} (near : m.Near a d) (positive : 0 < d) :
    a < 2 ^ 53 * (d <<< m.shift) := by
  obtain ⟨-, high, -⟩ := near
  have stepped := shiftLeft_pos positive m.shift
  have top := Nat.mul_le_mul_right (d <<< m.shift) m.significand_lt
  rw [Nat.succ_mul] at top
  omega

theorem Near.places {m : Magnitude} {n places : Nat} (low high : Nat)
    (near : m.Near (n * unitsPerOne) (10 ^ places)) (filled : m.significand ≠ 0)
    (above : 10 ^ low ≤ n) (below : n < 10 ^ high) : low < 309 + places ∧ places < 324 + high := by
  have positive : 0 < 10 ^ places := Nat.pow_pos (by decide)
  have least := near.half_le filled
  have most := near.lt_step positive
  constructor
  · refine (Nat.pow_lt_pow_iff_right (a := 10) (by decide)).mp ?_
    rw [Nat.pow_add]
    refine Nat.lt_of_mul_lt_mul_right (a := unitsPerOne) ?_
    calc 10 ^ low * unitsPerOne ≤ n * unitsPerOne := Nat.mul_le_mul_right _ above
      _ < 2 ^ 53 * (10 ^ places * 2 ^ m.shift) := by rwa [Nat.shiftLeft_eq] at most
      _ = 10 ^ places * (2 ^ 53 * 2 ^ m.shift) := Nat.mul_left_comm _ _ _
      _ ≤ 10 ^ places * (10 ^ 309 * unitsPerOne) := Nat.mul_le_mul_left _ m.step_small
      _ = 10 ^ 309 * 10 ^ places * unitsPerOne := by rw [Nat.mul_left_comm, Nat.mul_assoc]
  · refine (Nat.pow_lt_pow_iff_right (a := 10) (by decide)).mp ?_
    rw [Nat.pow_add]
    calc 10 ^ places ≤ 2 * (n * unitsPerOne) := least
      _ = 2 * unitsPerOne * n := by rw [Nat.mul_comm n, Nat.mul_assoc]
      _ ≤ 10 ^ 324 * n := Nat.mul_le_mul_right n unitsPerOne_small
      _ < 10 ^ 324 * 10 ^ high := by gcongr

end Magnitude

theorem pow_length_toDigits {n : Nat} (positive : 0 < n) :
    10 ^ ((Nat.toDigits 10 n).length - 1) ≤ n ∧ n < 10 ^ (Nat.toDigits 10 n).length := by
  have length := @Nat.length_toDigits_pos 10 n
  refine ⟨?_, (Nat.length_toDigits_le_iff (by decide) length).mp (Nat.le_refl _)⟩
  by_contra fewer
  by_cases single : (Nat.toDigits 10 n).length = 1
  · rw [single] at fewer
    omega
  · have short : (Nat.toDigits 10 n).length ≤ (Nat.toDigits 10 n).length - 1 :=
      (Nat.length_toDigits_le_iff (by decide) (by omega)).mpr (Nat.lt_of_not_le fewer)
    omega

theorem Double.ofDecimal_eq_ofRatio {n : Nat} {exponent : Int} (negative : Bool) (digits : n ≠ 0)
    (notSmall : ¬ exponent + (Nat.toDigits 10 n).length < -330)
    (notLarge : ¬ 310 < exponent + (Nat.toDigits 10 n).length) :
    Double.ofDecimal negative n exponent =
      .ofRatio negative (n * 10 ^ exponent.toNat) (10 ^ (-exponent).toNat) := by
  unfold Double.ofDecimal
  rw [if_neg (not_or.mpr ⟨digits, notSmall⟩), if_neg notLarge, Nat.pow_eq, Nat.pow_eq]

theorem Double.ofRatio_of_nearest {m : Magnitude} {a d : Nat} (negative : Bool)
    (rounded : Magnitude.nearest a d = some m) : Double.ofRatio negative a d = .finite negative m := by
  -- opened as a function: an application would be unfolded down to the product with the units of
  -- one, digit by digit
  generalize same : Double.ofRatio = ratio
  delta Double.ofRatio at same
  rw [← same]
  simp only [rounded]

/-- The guards against huge powers of ten do not touch what is near a positive magnitude. -/
theorem Double.ofDecimal_of_contains {m : Magnitude} {n : Nat} {exponent : Int} (negative : Bool)
    (found : m.contains ⟨n, exponent⟩ = true) (filled : m.significand ≠ 0) :
    Double.ofDecimal negative n exponent = .finite negative m := by
  have near := Magnitude.contains_iff_near.mp found
  simp only [Decimal.numerator, Decimal.denominator, Nat.pow_eq] at near
  have digits : n ≠ 0 := by
    rintro rfl
    have half := near.half_le filled
    rw [Nat.zero_mul, Nat.zero_mul] at half
    exact absurd half (Nat.not_le_of_lt (Nat.pow_pos (by decide)))
  obtain ⟨lower, upper⟩ := pow_length_toDigits (Nat.pos_of_ne_zero digits)
  obtain ⟨small, large⟩ := near.places ((Nat.toDigits 10 n).length - 1 + exponent.toNat)
    ((Nat.toDigits 10 n).length + exponent.toNat) filled
    (by rw [Nat.pow_add]; exact Nat.mul_le_mul_right _ lower)
    (by rw [Nat.pow_add]; exact Nat.mul_lt_mul_of_pos_right upper (Nat.pow_pos (by decide)))
  have length := @Nat.length_toDigits_pos 10 n
  rw [Double.ofDecimal_eq_ofRatio negative digits (by omega) (by omega)]
  exact Double.ofRatio_of_nearest negative (Magnitude.nearest_eq_of_near (Nat.pow_pos (by decide)) near)

end BondQuery
