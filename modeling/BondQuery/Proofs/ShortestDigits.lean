import Mathlib.Tactic.FieldSimp
import BondQuery.Proofs.Range
import BondQuery.Proofs.ShortestDecimal
import BondQuery.Proofs.WholeBoosts

/- Which numbers the shortest decimal keeps. Decimals with the same rounding are at most one step of
   the magnitudes apart, so a grid with wider places has only one of them. -/
namespace BondQuery
namespace Magnitude
variable {m : Magnitude} {d : Decimal} {exponent : Int}

def value (m : Magnitude) : ℚ :=
  m.units / unitsPerOne

def step (m : Magnitude) : ℚ :=
  2 ^ m.shift / unitsPerOne

theorem unitsPerOne_cast_pos : (0 : ℚ) < unitsPerOne :=
  Nat.cast_pos.mpr unitsPerOne_pos

theorem step_pos (m : Magnitude) : 0 < m.step :=
  div_pos (by positivity) unitsPerOne_cast_pos

theorem value_eq (m : Magnitude) : m.value = m.significand * m.step := by
  rw [value, step, units, Nat.shiftLeft_eq]
  push_cast
  ring

theorem counts_le_iff {p q : Nat} {x y k : ℚ} (scale : 0 < k) (left : (p : ℚ) = x * k)
    (right : (q : ℚ) = y * k) : p ≤ q ↔ x ≤ y := by
  rw [← Nat.cast_le (α := ℚ), left, right]
  exact mul_le_mul_iff_left₀ scale

theorem contains_iff_value : m.contains d = true ↔
    4 * m.value ≤ 4 * d.value + m.lowerQuarters * m.step ∧
      4 * d.value ≤ 4 * m.value + 2 * m.step ∧
      (m.significand % 2 = 1 → 4 * m.value < 4 * d.value + m.lowerQuarters * m.step ∧
        4 * d.value < 4 * m.value + 2 * m.step) := by
  have one := unitsPerOne_cast_pos
  have whole : (0 : ℚ) < d.denominator := Nat.cast_pos.mpr d.denominator_pos
  have scale : (0 : ℚ) < d.denominator * unitsPerOne := mul_pos whole one
  have center : ((4 * (m.significand * (d.denominator <<< m.shift)) : Nat) : ℚ) =
      4 * m.value * (d.denominator * unitsPerOne) := by
    rw [value, units, Nat.shiftLeft_eq, Nat.shiftLeft_eq]
    push_cast
    field_simp
  have wide : ((d.denominator <<< m.shift : Nat) : ℚ) =
      m.step * (d.denominator * unitsPerOne) := by
    rw [step, Nat.shiftLeft_eq]
    push_cast
    field_simp
  have place : ((4 * (d.numerator * unitsPerOne) : Nat) : ℚ) =
      4 * d.value * (d.denominator * unitsPerOne) := by
    rw [Decimal.value_eq_div]
    push_cast
    field_simp
  have low : ((4 * (d.numerator * unitsPerOne) +
      m.lowerQuarters * (d.denominator <<< m.shift) : Nat) : ℚ) =
        (4 * d.value + m.lowerQuarters * m.step) * (d.denominator * unitsPerOne) := by
    rw [Nat.cast_add, place, Nat.cast_mul, wide]
    ring
  have high : ((4 * (m.significand * (d.denominator <<< m.shift)) +
      2 * (d.denominator <<< m.shift) : Nat) : ℚ) =
        (4 * m.value + 2 * m.step) * (d.denominator * unitsPerOne) := by
    rw [Nat.cast_add, center, Nat.cast_mul, wide]
    push_cast
    ring
  rw [contains_iff_near, ← counts_le_iff scale center low, ← counts_le_iff scale place high,
    ← not_le, ← not_le, ← counts_le_iff scale low center, ← counts_le_iff scale high place,
    Nat.not_le, Nat.not_le]
  constructor
  · rintro ⟨above, under, inside⟩
    exact ⟨above, under, inside⟩
  · rintro ⟨above, under, inside⟩
    exact ⟨above, under, inside⟩

theorem close_of_contains (inside : m.contains d = true) :
    m.value - m.step / 2 ≤ d.value ∧ d.value ≤ m.value + m.step / 2 := by
  obtain ⟨low, high, _⟩ := contains_iff_value.mp inside
  have positive := m.step_pos
  have quarters : (m.lowerQuarters : ℚ) * m.step ≤ 2 * m.step := by
    apply mul_le_mul_of_nonneg_right _ (le_of_lt positive)
    exact_mod_cast m.lowerQuarters_bounds.2
  constructor
  · linarith
  · linarith

theorem contains_of_between {other : Decimal} (inside : m.contains d = true)
    (between : d.value ≤ other.value ∧ other.value ≤ m.value ∨
      m.value ≤ other.value ∧ other.value ≤ d.value) : m.contains other = true := by
  have positive := m.step_pos
  have quarters : 0 < (m.lowerQuarters : ℚ) * m.step :=
    mul_pos (Nat.cast_pos.mpr m.lowerQuarters_bounds.1) positive
  obtain ⟨low, high, strict⟩ := contains_iff_value.mp inside
  rw [contains_iff_value]
  rcases between with ⟨above, under⟩ | ⟨above, under⟩
  · refine ⟨by linarith, by linarith, fun odd => ?_⟩
    obtain ⟨low', _⟩ := strict odd
    exact ⟨by linarith, by linarith⟩
  · refine ⟨by linarith, by linarith, fun odd => ?_⟩
    obtain ⟨_, high'⟩ := strict odd
    exact ⟨by linarith, by linarith⟩

theorem ten_zpow_pos (exponent : Int) : (0 : ℚ) < 10 ^ exponent :=
  zpow_pos (by norm_num) exponent

theorem pointOf_bounds (filled : m.significand ≠ 0) :
    10 ^ (m.pointOf - 1) ≤ m.value ∧ m.value < 10 ^ m.pointOf := by
  obtain ⟨length, places, point, long, least, most⟩ := m.pointOf_spec filled
  have one := unitsPerOne_cast_pos
  have positive : (0 : ℚ) < 10 ^ places := by positivity
  have ten : (10 : ℚ) ≠ 0 := by norm_num
  have before : m.pointOf - 1 = ((length - 1 : Nat) : Int) - (places : Int) := by omega
  rw [value]
  constructor
  · rw [before, zpow_sub₀ ten, zpow_natCast, zpow_natCast, div_le_div_iff₀ positive one]
    exact_mod_cast least
  · rw [point, zpow_sub₀ ten, zpow_natCast, zpow_natCast, div_lt_div_iff₀ one positive]
    exact_mod_cast most

theorem ten_zpow_eq_div (exponent : Int) :
    (10 : ℚ) ^ exponent = (10 ^ exponent.toNat : Nat) / (10 ^ (-exponent).toNat : Nat) := by
  have one := (Decimal.mk 1 exponent).value_eq_div
  simpa [Decimal.value, Decimal.numerator, Decimal.denominator] using one

theorem below_bounds (m : Magnitude) (exponent : Int) :
    ∃ n : Nat, (m.below exponent).1 = ⟨n, exponent⟩ ∧ (⟨n, exponent⟩ : Decimal).value ≤ m.value ∧
      m.value < (⟨n + 1, exponent⟩ : Decimal).value := by
  have one := unitsPerOne_cast_pos
  refine ⟨_, rfl, ?_⟩
  simp only [Decimal.value, ten_zpow_eq_div, value, Nat.pow_eq]
  have raised : 0 < 10 ^ exponent.toNat := Nat.pow_pos (by decide)
  have lowered : 0 < 10 ^ (-exponent).toNat := Nat.pow_pos (by decide)
  generalize 10 ^ exponent.toNat = up at *
  generalize 10 ^ (-exponent).toNat = down at *
  have place : 0 < unitsPerOne * up := Nat.mul_pos unitsPerOne_pos raised
  have least := Nat.div_mul_le_self (m.units * down) (unitsPerOne * up)
  have most := (Nat.div_lt_iff_lt_mul place).mp (Nat.lt_succ_self (m.units * down / (unitsPerOne * up)))
  generalize m.units * down / (unitsPerOne * up) = n at *
  have whole : (0 : ℚ) < down := Nat.cast_pos.mpr lowered
  have least' : (n : ℚ) * (unitsPerOne * up) ≤ m.units * down := by exact_mod_cast least
  have most' : (m.units : ℚ) * down < (n + 1 : Nat) * (unitsPerOne * up) := by exact_mod_cast most
  constructor
  · rw [mul_div_assoc', div_le_div_iff₀ whole one]
    linarith
  · rw [mul_div_assoc', div_lt_div_iff₀ one whole]
    linarith

theorem onGrid?_isSome_of_contains {n : Nat} (inside : m.contains ⟨n, exponent⟩ = true) :
    (m.onGrid? exponent).isSome = true := by
  obtain ⟨floor, below, least, most⟩ := m.below_bounds exponent
  have positive := ten_zpow_pos exponent
  apply onGrid?_isSome
  rw [below]
  rcases Nat.lt_or_ge floor n with above | under
  · right
    apply contains_of_between inside
    right
    have next : ((floor + 1 : Nat) : ℚ) ≤ n := Nat.cast_le.mpr above
    exact ⟨le_of_lt most, mul_le_mul_of_nonneg_right next (le_of_lt positive)⟩
  · left
    apply contains_of_between inside
    left
    exact ⟨mul_le_mul_of_nonneg_right (Nat.cast_le.mpr under) (le_of_lt positive), least⟩

theorem onGrid?_cases (found : m.onGrid? exponent = some d) :
    d.exponent = exponent ∧ d.digits ≤ (m.below exponent).1.digits + 1 := by
  have place : (m.below exponent).1.exponent = exponent := rfl
  unfold onGrid? at found
  generalize m.below exponent = pair at found place ⊢
  obtain ⟨low, side⟩ := pair
  dsimp only at found place ⊢
  split at found
  · cases found
    exact ⟨place, Nat.le_succ _⟩
  · cases found
    exact ⟨rfl, Nat.le_refl _⟩
  · cases found
  · split at found
    · cases found
      exact ⟨place, Nat.le_succ _⟩
    · cases found
      exact ⟨rfl, Nat.le_refl _⟩
    · split at found
      · cases found
        exact ⟨place, Nat.le_succ _⟩
      · cases found
        exact ⟨rfl, Nat.le_refl _⟩

/-- A decimal that is alone in the rounding interval on its grid is the shortest one, or that one
    with zeros at its end. -/
theorem value_shortest_of_alone (filled : m.significand ≠ 0) {n k : Nat}
    (place : exponent = m.pointOf - (k + 1 : Nat)) (inside : m.contains ⟨n, exponent⟩ = true)
    (alone : ∀ other, m.contains ⟨other, exponent⟩ = true → other = n) :
    m.shortest.value = (⟨n, exponent⟩ : Decimal).value := by
  obtain ⟨first, _, found, missed⟩ := m.shortest_spec filled
  have reached : first ≤ k := by
    by_contra later
    have hit := onGrid?_isSome_of_contains inside
    rw [place, missed k (Nat.lt_of_not_le later)] at hit
    cases hit
  have coarse : m.shortest.exponent = exponent + (k - first : Nat) := by
    rw [(onGrid?_cases found).1]
    omega
  have spread : m.shortest.value =
      (⟨m.shortest.digits * 10 ^ (k - first), exponent⟩ : Decimal).value := by
    rw [Decimal.value_shift, ← coarse]
  rw [spread, alone _ (contains_congr spread (contains_of_onGrid? found))]

theorem digits_shortest_le (filled : m.significand ≠ 0) : m.shortest.digits ≤ 10 ^ 17 := by
  obtain ⟨k, few, found, _⟩ := m.shortest_spec filled
  obtain ⟨place, next⟩ := onGrid?_cases found
  obtain ⟨n, below, least, _⟩ := m.below_bounds (m.pointOf - (k + 1 : Nat))
  rw [below] at next
  have small : (n : ℚ) < 10 ^ (k + 1) := by
    have ten : (10 : ℚ) ≠ 0 := by norm_num
    have under := least.trans_lt (pointOf_bounds filled).2
    rw [Decimal.value, zpow_sub₀ ten, mul_div_assoc', zpow_natCast,
      div_lt_iff₀ (by positivity), mul_comm] at under
    exact lt_of_mul_lt_mul_left under (le_of_lt (ten_zpow_pos _))
  have bounded : n < 10 ^ (k + 1) := by exact_mod_cast small
  exact (next.trans bounded).trans (Nat.pow_le_pow_right (by decide) few)

theorem eq_of_close {n k : Nat} (exponent : Int)
    (below : (⟨n, exponent⟩ : Decimal).value < (⟨k, exponent⟩ : Decimal).value + 10 ^ exponent)
    (above : (⟨k, exponent⟩ : Decimal).value < (⟨n, exponent⟩ : Decimal).value + 10 ^ exponent) :
    n = k := by
  have positive := ten_zpow_pos exponent
  simp only [Decimal.value, ← add_one_mul] at below above
  have least := lt_of_mul_lt_mul_right below (le_of_lt positive)
  have most := lt_of_mul_lt_mul_right above (le_of_lt positive)
  have least' : n < k + 1 := by exact_mod_cast least
  have most' : k < n + 1 := by exact_mod_cast most
  omega

theorem step_le (normal : 2 ^ 52 ≤ m.significand) : 2 ^ 52 * m.step ≤ m.value := by
  rw [value_eq]
  apply mul_le_mul_of_nonneg_right _ (le_of_lt m.step_pos)
  exact_mod_cast normal

theorem place_of_few_digits (normal : 2 ^ 52 ≤ m.significand) (few : d.digits < 10 ^ 15)
    (inside : m.contains d = true) : m.pointOf - 15 ≤ d.exponent := by
  have filled : m.significand ≠ 0 := by omega
  have fine := step_le normal
  obtain ⟨low, _⟩ := close_of_contains inside
  by_contra behind
  have raised : (10 : ℚ) ^ (d.exponent + 15) ≤ m.value := by
    apply le_trans _ (pointOf_bounds filled).1
    exact zpow_le_zpow_right₀ (by norm_num) (by omega)
  have place := ten_zpow_pos d.exponent
  rw [zpow_add₀ (by norm_num : (10 : ℚ) ≠ 0)] at raised
  have short : (d.digits : ℚ) ≤ 10 ^ 15 - 1 := by
    have below : (d.digits : ℚ) + 1 ≤ 10 ^ 15 := by exact_mod_cast few
    linarith
  have small : d.value ≤ (10 ^ 15 - 1) * 10 ^ d.exponent :=
    mul_le_mul_of_nonneg_right short (le_of_lt place)
  norm_num at raised small fine
  linarith

/-- Fifteen digits are never lost: a decimal of that many is the shortest of what it is rounded to,
    where the significands are full. -/
theorem value_shortest_of_few_digits (normal : 2 ^ 52 ≤ m.significand) (few : d.digits < 10 ^ 15)
    (inside : m.contains d = true) : m.shortest.value = d.value := by
  have filled : m.significand ≠ 0 := by omega
  have place := place_of_few_digits normal few inside
  obtain ⟨places, finer⟩ : ∃ places : Nat, d.exponent = m.pointOf - (14 + 1 : Nat) + places :=
    ⟨(d.exponent - (m.pointOf - 15)).toNat, by omega⟩
  have spread : d.value = (⟨d.digits * 10 ^ places, m.pointOf - (14 + 1 : Nat)⟩ : Decimal).value := by
    rw [Decimal.value_shift, ← finer]
  have wide : m.step < 10 ^ (m.pointOf - (14 + 1 : Nat)) := by
    have fine := step_le normal
    have most := (pointOf_bounds filled).2
    have positive := ten_zpow_pos m.pointOf
    rw [zpow_sub₀ (by norm_num : (10 : ℚ) ≠ 0)]
    norm_num at fine ⊢
    linarith
  rw [spread]
  apply value_shortest_of_alone filled rfl (contains_congr spread inside)
  intro other inside'
  obtain ⟨low, high⟩ := close_of_contains (contains_congr spread inside)
  obtain ⟨low', high'⟩ := close_of_contains inside'
  generalize m.pointOf - ((14 + 1 : Nat) : Int) = grid at *
  apply eq_of_close grid
  · linarith
  · linarith

theorem step_le_one (small : m.value < 2 ^ 53) : m.step ≤ 1 := by
  have one := unitsPerOne_cast_pos
  rw [step, div_le_one one]
  rcases m.normal with least | normal
  · rw [least, pow_zero]
    exact_mod_cast unitsPerOne_pos
  · have fine := step_le normal
    have below : (2 : ℚ) ^ m.shift < 2 * unitsPerOne := by
      rw [← div_lt_iff₀ one]
      change m.step < 2
      linarith
    -- for any exponent first, so that the power is never evaluated
    have halved : ∀ k, unitsPerOne = 1 <<< k → (2 : ℚ) ^ m.shift ≤ unitsPerOne := by
      intro k same
      rw [same, Nat.one_shiftLeft] at below ⊢
      have below' : 2 ^ m.shift < 2 ^ (k + 1) := by
        rw [Nat.pow_succ']
        exact_mod_cast below
      have low := Nat.lt_succ_iff.mp ((Nat.pow_lt_pow_iff_right (by decide)).mp below')
      exact_mod_cast Nat.pow_le_pow_right (by decide : 0 < 2) low
    exact halved 1074 rfl

theorem value_pos (filled : m.significand ≠ 0) : 0 < m.value := by
  rw [value_eq]
  exact mul_pos (Nat.cast_pos.mpr (Nat.pos_of_ne_zero filled)) m.step_pos

theorem one_le_pointOf (filled : m.significand ≠ 0) (least : 1 ≤ m.value) : 1 ≤ m.pointOf := by
  by_contra before
  have most := (pointOf_bounds filled).2
  have one : (10 : ℚ) ^ m.pointOf ≤ 1 := zpow_le_one_of_nonpos₀ (by norm_num) (by omega)
  linarith

theorem value_whole (n : Nat) : (⟨n, 0⟩ : Decimal).value = n := by
  simp [Decimal.value]

theorem shortest_top : (nearest (2 ^ 53) 1).map shortest = some ⟨2 ^ 53, 0⟩ := by decide +kernel

section
variable {n : Nat} (rounded : nearest n 1 = some m)
include rounded

theorem contains_whole : m.contains ⟨n, 0⟩ = true := by
  have near := near_of_nearest Nat.one_pos rounded
  rw [contains_iff_near]
  simpa [Decimal.numerator, Decimal.denominator] using near

theorem value_of_small (small : n ≤ 2 ^ 53) : m.value = n := by
  obtain ⟨m', same⟩ := exists_whole small
  have found := nearest_whole same
  rw [rounded, Option.some.injEq] at found
  rw [value, found, same, Nat.cast_mul, mul_div_cancel_right₀ _ (ne_of_gt unitsPerOne_cast_pos)]

theorem value_shortest_of_small (small : n ≤ 2 ^ 53) : m.shortest.value = n := by
  have exact := value_of_small rounded small
  by_cases none : m.significand = 0
  · rw [← exact, value_eq, none, eq_zero none, value_shortest_zero, Nat.cast_zero, zero_mul]
  rcases Nat.lt_or_eq_of_le small with below | top
  · have positive := value_pos none
    rw [exact] at positive
    have some : 1 ≤ n := by exact_mod_cast positive
    have placed := one_le_pointOf none (by rw [exact]; exact_mod_cast some)
    have fine : m.step ≤ 1 := step_le_one (by rw [exact]; exact_mod_cast below)
    obtain ⟨k, place⟩ : ∃ k : Nat, (0 : Int) = m.pointOf - (k + 1 : Nat) :=
      ⟨(m.pointOf - 1).toNat, by omega⟩
    rw [← value_whole, value_shortest_of_alone none place (contains_whole rounded)]
    intro other inside
    obtain ⟨low, high⟩ := close_of_contains inside
    rw [exact, ← value_whole n] at low high
    apply eq_of_close 0
    · rw [zpow_zero]
      linarith
    · rw [zpow_zero]
      linarith
  · subst top
    have found := shortest_top
    rw [rounded, Option.map_some, Option.some.injEq] at found
    rw [found, value_whole]

theorem normal_of_large (large : 2 ^ 53 < n) : 2 ^ 52 ≤ m.significand := by
  apply m.normal.resolve_left
  intro least
  have fine : m.step ≤ 1 := by
    rw [step, div_le_one unitsPerOne_cast_pos, least, pow_zero]
    exact_mod_cast unitsPerOne_pos
  have most : (m.significand : ℚ) + 1 ≤ 2 ^ 53 := by exact_mod_cast m.significand_lt
  have value : m.value ≤ m.significand := by
    rw [value_eq]
    exact mul_le_of_le_one_right (Nat.cast_nonneg _) fine
  have above : (2 : ℚ) ^ 53 + 1 ≤ n := by exact_mod_cast large
  have high := (close_of_contains (contains_whole rounded)).2
  rw [value_whole] at high
  linarith

/-- A whole number keeps all of its digits if it has at most 53 binary ones, or at most fifteen
    decimal ones before the zeros at its end. -/
theorem value_shortest_of_kept (kept : n ≤ 2 ^ 53 ∨ ∃ k < 10 ^ 15, ∃ zeros, n = k * 10 ^ zeros) :
    m.shortest.value = n := by
  rcases Nat.lt_or_ge (2 ^ 53) n with large | small
  · obtain ⟨k, few, zeros, same⟩ := kept.resolve_left (Nat.not_le_of_lt large)
    have spread : (⟨n, 0⟩ : Decimal).value = (⟨k, zeros⟩ : Decimal).value := by
      rw [same, Decimal.value_shift, Int.zero_add]
    rw [← value_whole, spread]
    apply value_shortest_of_few_digits (normal_of_large rounded large) few
    exact contains_congr spread (contains_whole rounded)
  · exact value_shortest_of_small rounded small

end

theorem exists_digits_of_value_shortest {n : Nat} (same : m.shortest.value = n) :
    ∃ k ≤ 10 ^ 17, ∃ zeros, n = k * 10 ^ zeros := by
  by_cases none : m.significand = 0
  · rw [eq_zero none, value_shortest_zero] at same
    have zero : n = 0 := by exact_mod_cast same.symm
    exact ⟨0, Nat.zero_le _, 0, by rw [zero]; rfl⟩
  · have few := digits_shortest_le none
    rw [Decimal.value] at same
    rcases Int.le_total 0 m.shortest.exponent with whole | fraction
    · obtain ⟨zeros, place⟩ := Int.eq_ofNat_of_zero_le whole
      rw [place, zpow_natCast] at same
      exact ⟨_, few, zeros, by exact_mod_cast same.symm⟩
    · have less : (n : ℚ) ≤ m.shortest.digits := by
        rw [← same]
        apply mul_le_of_le_one_right (Nat.cast_nonneg _)
        exact zpow_le_one_of_nonpos₀ (by norm_num) fraction
      have small : n ≤ 10 ^ 17 := le_trans (by exact_mod_cast less) few
      exact ⟨n, small, 0, (Nat.mul_one n).symm⟩

end Magnitude

end BondQuery
