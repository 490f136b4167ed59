import Mathlib.Algebra.Field.Rat
import Mathlib.Algebra.Order.Field.Rat
import Mathlib.Tactic.Positivity
import BondQuery.Proofs.Boosts
import BondQuery.Proofs.Rounding

/- Weights that are whole numbers. Up to `2 ^ 53` each is a number of 64 bits itself, so the boost
   that it gives has its value. -/
namespace BondQuery

namespace Magnitude

theorem units_mk (significand shift : Nat) (small low normal) :
    (Magnitude.mk significand shift small low normal).units = significand * 2 ^ shift := by
  rw [units, Nat.shiftLeft_eq]

theorem exists_aligned {n : Nat} (positive : 0 < n) (small : n < 2 ^ 53) :
    ∃ j ≤ 52, 2 ^ 52 ≤ n * 2 ^ j ∧ n * 2 ^ j < 2 ^ 53 := by
  have filled : n ≠ 0 := Nat.ne_of_gt positive
  have top : n.log2 < 53 := (Nat.log2_lt filled).mpr small
  have least : 2 ^ n.log2 ≤ n := Nat.log2_self_le filled
  have most : n < 2 ^ (n.log2 + 1) := Nat.lt_log2_self
  refine ⟨52 - n.log2, Nat.sub_le _ _, ?_, ?_⟩
  · calc 2 ^ 52 = 2 ^ n.log2 * 2 ^ (52 - n.log2) := by
          rw [← Nat.pow_add]
          congr 1
          omega
      _ ≤ n * 2 ^ (52 - n.log2) := Nat.mul_le_mul_right _ least
  · calc n * 2 ^ (52 - n.log2) < 2 ^ (n.log2 + 1) * 2 ^ (52 - n.log2) :=
          Nat.mul_lt_mul_of_pos_right most (Nat.two_pow_pos _)
      _ = 2 ^ 53 := by
          rw [← Nat.pow_add]
          congr 1
          omega

theorem exists_units {n : Nat} (small : n ≤ 2 ^ 53) {k : Nat} (low : 52 ≤ k) (high : k + 1 ≤ 2045) :
    ∃ m : Magnitude, m.units = n * 2 ^ k := by
  rcases Nat.eq_zero_or_pos n with none | positive
  · refine ⟨zero, ?_⟩
    rw [none, Nat.zero_mul, zero, units_mk, Nat.zero_mul]
  · rcases Nat.lt_or_eq_of_le small with below | top
    · obtain ⟨j, far, least, most⟩ := exists_aligned positive below
      have split : j + (k - j) = k := Nat.add_sub_cancel' (Nat.le_trans far low)
      refine ⟨⟨n * 2 ^ j, k - j, most, ?_, .inr least⟩, ?_⟩
      · exact Nat.le_trans (Nat.sub_le k j) (Nat.le_of_succ_le high)
      · rw [units_mk, Nat.mul_assoc, ← Nat.pow_add, split]
    · refine ⟨⟨2 ^ 52, k + 1, by decide, high, .inr (Nat.le_refl _)⟩, ?_⟩
      rw [units_mk, top, ← Nat.pow_add, ← Nat.pow_add, Nat.add_comm k 1, ← Nat.add_assoc]

theorem exists_whole {n : Nat} (small : n ≤ 2 ^ 53) :
    ∃ m : Magnitude, m.units = n * unitsPerOne := by
  obtain ⟨m, same⟩ := exists_units small (k := 1074) (by decide) (by decide)
  exact ⟨m, by rw [same, unitsPerOne, Nat.one_shiftLeft]⟩

theorem nearest_whole {n : Nat} {m : Magnitude} (same : m.units = n * unitsPerOne) :
    nearest n 1 = some m := by
  have counted : m.significand * (1 <<< m.shift) = n * unitsPerOne := by
    rw [← same, units, Nat.shiftLeft_eq, Nat.shiftLeft_eq, Nat.one_mul]
  have step := shiftLeft_pos Nat.one_pos m.shift
  have below := Nat.mul_pos m.lowerQuarters_bounds.1 step
  apply nearest_eq_of_near Nat.one_pos
  rw [← counted]
  refine ⟨Nat.le_add_right _ _, Nat.le_add_right _ _, fun _ => ⟨?_, ?_⟩⟩
  · exact Nat.lt_add_of_pos_right below
  · exact Nat.lt_add_of_pos_right (Nat.mul_pos Nat.two_pos step)

end Magnitude

/-- The value of a finite number; what is infinite or no number has none and counts nothing. -/
def Double.value : Double → ℚ
  | finite negative m => (if negative then -1 else 1) * ((m.units : ℚ) / (Magnitude.unitsPerOne : ℚ))
  | _ => 0

def Number.value : Number → ℚ
  | int n => n
  | double x => x.value

theorem Double.value_of_whole {n : Nat} (small : n ≤ 2 ^ 53) :
    ∃ x, ofInt? n = some x ∧ x.value = n := by
  obtain ⟨m, same⟩ := Magnitude.exists_whole small
  have rounded : ofInt? n = some (.finite (decide ((n : Int) < 0)) m) := by
    rw [ofInt?, Int.natAbs_natCast, Magnitude.nearest_whole same]
    rfl
  have positive : decide ((n : Int) < 0) = false := decide_eq_false (by omega)
  have one : (Magnitude.unitsPerOne : ℚ) ≠ 0 :=
    Nat.cast_ne_zero.mpr (Nat.ne_of_gt Magnitude.unitsPerOne_pos)
  refine ⟨_, rounded, ?_⟩
  rw [value, positive, same, Nat.cast_mul, mul_div_cancel_right₀ _ one]
  simp

def boostValue (boost : Option Double) : ℚ :=
  (boost.map Double.value).getD 1

/-- A whole weight from one on gives a boost of its value, none for one itself. -/
theorem boostOf_whole {w : Nat} (least : 1 ≤ w) (small : w ≤ 2 ^ 53) :
    ∃ boost, Query.boostOf (.int w) = .ok boost ∧ boostValue boost = w := by
  unfold Query.boostOf
  by_cases one : w = 1
  · subst one
    exact ⟨none, rfl, by simp [boostValue]⟩
  · have above : (Number.int w).isAboveOne = true := decide_eq_true (by omega)
    obtain ⟨x, converted, value⟩ := Double.value_of_whole small
    refine ⟨some x, ?_, value⟩
    rw [if_pos above, Number.toDouble?, converted]

end BondQuery
