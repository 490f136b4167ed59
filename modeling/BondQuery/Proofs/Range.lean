import BondQuery.Proofs.Rounding

/- What rounding to the nearest gives. What is rounded to a magnitude is near it, and rounding fails
   from the middle between the largest magnitude and the next power of two on. -/
namespace BondQuery

theorem roundDiv_close (a : Nat) {b : Nat} (positive : 0 < b) :
    2 * (roundDiv a b * b) ≤ 2 * a + b ∧ 2 * a ≤ 2 * (roundDiv a b * b) + b ∧
      (roundDiv a b % 2 = 1 →
        2 * (roundDiv a b * b) < 2 * a + b ∧ 2 * a < 2 * (roundDiv a b * b) + b) := by
  have whole : a = a / b * b + a % b := (Nat.div_add_mod' a b).symm
  have part : a % b < b := Nat.mod_lt a positive
  have next : (a / b + 1) * b = a / b * b + b := Nat.succ_mul ..
  unfold roundDiv
  split
  · omega
  · split
    · rw [next]
      omega
    · split
      · omega
      · rw [next]
        omega

theorem roundDiv_lt_iff {a b s : Nat} (positive : 0 < b) (even : s % 2 = 0) :
    roundDiv a b < s ↔ 2 * a + b < 2 * (s * b) := by
  obtain ⟨low, high, inside⟩ := roundDiv_close a positive
  constructor
  · intro below
    obtain last | far : s = roundDiv a b + 1 ∨ roundDiv a b + 2 ≤ s := by omega
    · -- the last number below an even one is odd
      have odd : roundDiv a b % 2 = 1 := by omega
      have under := (inside odd).2
      have product : s * b = roundDiv a b * b + b := by rw [last, Nat.succ_mul]
      omega
    · have gap := Nat.mul_le_mul_right b far
      rw [Nat.add_mul] at gap
      omega
  · intro below
    by_contra reached
    have least := Nat.mul_le_mul_right b (Nat.le_of_not_lt reached)
    omega

namespace Magnitude

theorem two_pow_mul_shiftLeft (k d shift : Nat) : 2 ^ k * (d <<< shift) = 2 ^ (k + shift) * d := by
  rw [Nat.shiftLeft_eq]
  ring

theorem lt_of_shiftOf {a d shift : Nat} (positive : 0 < d) (below : shiftOf (a / d) ≤ shift) :
    a < 2 ^ 53 * (d <<< shift) := by
  rw [two_pow_mul_shiftLeft]
  have small : a / d < 2 ^ (53 + shift) := by
    apply Nat.lt_log2_self.trans_le
    apply Nat.pow_le_pow_right (by decide)
    unfold shiftOf at below
    omega
  exact (Nat.div_lt_iff_lt_mul positive).mp small

theorem le_of_shiftOf {a d shift : Nat} (positive : 0 < d) (above : shift < shiftOf (a / d)) :
    2 ^ 53 * (d <<< shift) ≤ a := by
  rw [two_pow_mul_shiftLeft]
  have large : 2 ^ (53 + shift) ≤ a / d := by
    unfold shiftOf at above
    have filled : a / d ≠ 0 := by
      intro none
      rw [none] at above
      exact absurd above (Nat.not_lt_zero shift)
    apply le_trans (Nat.pow_le_pow_right (by decide) _) (Nat.log2_self_le filled)
    omega
  exact (Nat.le_div_iff_mul_le positive).mp large

theorem parts_of_nearest {m : Magnitude} {numerator denominator a shift : Nat}
    (units : numerator * unitsPerOne = a) (given : shiftOf (a / denominator) = shift)
    (rounded : nearest numerator denominator = some m) :
    (m.significand = roundDiv a (denominator <<< shift) ∧ m.shift = shift) ∨
      (0x20000000000000 ≤ roundDiv a (denominator <<< shift) ∧ m.significand = 0x10000000000000 ∧
        m.shift = shift + 1) := by
  subst units given
  simp only [nearest] at rounded
  split at rounded
  · split at rounded
    · cases rounded
      exact .inl ⟨rfl, rfl⟩
    · cases rounded
  · rename_i large
    split at rounded
    · cases rounded
      exact .inr ⟨Nat.le_of_not_lt large, rfl, rfl⟩
    · cases rounded

theorem near_of_nearest {m : Magnitude} {numerator denominator : Nat} (positive : 0 < denominator)
    (rounded : nearest numerator denominator = some m) :
    m.Near (numerator * unitsPerOne) denominator := by
  generalize units : numerator * unitsPerOne = a
  generalize given : shiftOf (a / denominator) = shift
  have stepped := shiftLeft_pos positive shift
  obtain ⟨low, high, inside⟩ := roundDiv_close a stepped
  rcases parts_of_nearest units given rounded with ⟨digits, same⟩ | ⟨large, top, next⟩
  · rw [← digits] at low high inside
    obtain ⟨quarter, top, shifted⟩ | ⟨half, _⟩ := m.lowerQuarters_cases
    · -- what is below a power of two is rounded to it by a carry only
      obtain ⟨last, before⟩ : ∃ last, shift = last + 1 := ⟨shift - 1, by omega⟩
      have reached : 2 ^ 53 * (denominator <<< last) ≤ a := le_of_shiftOf positive (by omega)
      have doubled : denominator <<< shift = 2 * (denominator <<< last) := by
        rw [before, Nat.shiftLeft_succ]
      rw [top] at low high
      refine ⟨?_, ?_, fun odd => ?_⟩
      · rw [same, top]
        omega
      · rw [same, top]
        omega
      · rw [top] at odd
        exact absurd odd (by decide)
    · refine ⟨?_, ?_, fun odd => ?_⟩
      · rw [same, half]
        omega
      · rw [same]
        omega
      · have strict := inside odd
        rw [same, half]
        omega
  · have small : a < 2 ^ 53 * (denominator <<< shift) := lt_of_shiftOf positive (Nat.le_of_eq given)
    have carried := Nat.mul_le_mul_right (denominator <<< shift) large
    obtain ⟨quarter, _⟩ | ⟨_, above⟩ := m.lowerQuarters_cases
    · refine ⟨?_, ?_, fun odd => ?_⟩
      · rw [next, top, quarter, Nat.shiftLeft_succ]
        omega
      · rw [next, top, Nat.shiftLeft_succ]
        omega
      · rw [top] at odd
        exact absurd odd (by decide)
    · have more := above (by omega)
      omega

/-- The significand is rounded up to a power of two only at the shift that it has been given, and
    then needs the next. -/
theorem fits_iff {a d shift top : Nat} (positive : 0 < d) (given : shiftOf (a / d) = shift) :
    (if roundDiv a (d <<< shift) < 0x20000000000000 then shift ≤ top else shift + 1 ≤ top) ↔
      2 * a + d <<< top < 2 * (2 ^ 53 * (d <<< top)) := by
  rcases Nat.lt_trichotomy shift top with below | same | above
  · obtain ⟨last, next⟩ : ∃ last, top = last + 1 := ⟨top - 1, by omega⟩
    have doubled : d <<< top = 2 * (d <<< last) := by rw [next, Nat.shiftLeft_succ]
    have small : a < 2 ^ 53 * (d <<< last) := lt_of_shiftOf positive (by omega)
    have one := shiftLeft_pos positive last
    rw [doubled]
    apply iff_of_true
    · split <;> omega
    · omega
  · subst same
    rw [← roundDiv_lt_iff (shiftLeft_pos positive shift) (by decide)]
    split
    · rename_i small
      exact iff_of_true (Nat.le_refl shift) small
    · rename_i large
      exact iff_of_false (Nat.not_succ_le_self shift) large
  · have large := le_of_shiftOf positive (given ▸ above)
    have one := shiftLeft_pos positive top
    apply iff_of_false
    · split <;> omega
    · omega

theorem nearest_isSome_iff {numerator denominator top : Nat} (positive : 0 < denominator)
    (last : top = 2045) :
    (nearest numerator denominator).isSome = true ↔
      2 * (numerator * unitsPerOne) + denominator <<< top <
        2 * (2 ^ 53 * (denominator <<< top)) := by
  rw [← fits_iff positive rfl, last]
  unfold nearest
  dsimp only
  by_cases small : roundDiv (numerator * unitsPerOne)
      (denominator <<< shiftOf (numerator * unitsPerOne / denominator)) < 0x20000000000000
  · rw [dif_pos small, if_pos small]
    by_cases fits : shiftOf (numerator * unitsPerOne / denominator) ≤ 2045
    · rw [dif_pos fits]
      exact iff_of_true rfl fits
    · rw [dif_neg fits]
      exact iff_of_false Bool.false_ne_true fits
  · rw [dif_neg small, if_neg small]
    by_cases fits : shiftOf (numerator * unitsPerOne / denominator) + 1 ≤ 2045
    · rw [dif_pos fits]
      exact iff_of_true rfl fits
    · rw [dif_neg fits]
      exact iff_of_false Bool.false_ne_true fits

/-- The first whole number out of range is `2 ^ 1024 - 2 ^ 970`. -/
theorem nearest_whole_isSome_iff (n : Nat) :
    (nearest n 1).isSome = true ↔ n + 2 ^ 970 < 2 ^ 1024 := by
  -- for any exponents first, so that the powers are never evaluated
  have scaled : ∀ one gap top wide, unitsPerOne = 1 <<< one → top = 2045 → top = gap + (one + 1) →
      wide = gap + 54 → ((nearest n 1).isSome = true ↔ n + 2 ^ gap < 2 ^ wide) := by
    intro one gap top wide units last sum sum'
    have left : 2 * (n * 2 ^ one) + 2 ^ top = (n + 2 ^ gap) * 2 ^ (one + 1) := by
      rw [sum]
      ring
    have right : 2 * (2 ^ 53 * 2 ^ top) = 2 ^ wide * 2 ^ (one + 1) := by
      rw [sum, sum']
      ring
    rw [nearest_isSome_iff Nat.one_pos last, units, Nat.one_shiftLeft, Nat.one_shiftLeft, left, right]
    exact Nat.mul_lt_mul_right (Nat.two_pow_pos (one + 1))
  exact scaled 1074 970 2045 1024 rfl rfl rfl rfl

end Magnitude

theorem Double.ofInt?_isSome_iff (n : Int) :
    (ofInt? n).isSome = true ↔ n.natAbs + 2 ^ 970 < 2 ^ 1024 := by
  rw [ofInt?, Option.isSome_map]
  exact Magnitude.nearest_whole_isSome_iff n.natAbs

end BondQuery
