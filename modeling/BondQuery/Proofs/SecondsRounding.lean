import BondQuery.Calendar.Moment
import BondQuery.Proofs.Range

/- Milliseconds that go through seconds of 64 bits. The seconds are rounded, and so is their
   product with a thousand, before the fraction is dropped. -/
namespace BondQuery

theorem roundDiv_mul_right (a b : Nat) {c : Nat} (positive : 0 < c) :
    roundDiv (a * c) (b * c) = roundDiv a b := by
  have doubled : 2 * (a * c % (b * c)) = 2 * (a % b) * c := by
    rw [Nat.mul_mod_mul_right, Nat.mul_assoc]
  unfold roundDiv
  simp only [doubled, Nat.mul_div_mul_right _ _ positive, Nat.mul_lt_mul_right positive]

theorem roundDiv_congr {a b a' b' : Nat} (positive : 0 < b) (positive' : 0 < b')
    (same : a * b' = a' * b) : roundDiv a b = roundDiv a' b' := by
  rw [← roundDiv_mul_right a b positive', same, Nat.mul_comm b b',
    roundDiv_mul_right a' b' positive]

theorem roundDiv_le {a b s : Nat} (positive : 0 < b) (most : a ≤ s * b) : roundDiv a b ≤ s := by
  obtain ⟨low, _, _⟩ := roundDiv_close a positive
  by_contra above
  have gap : (s + 1) * b ≤ roundDiv a b * b := Nat.mul_le_mul_right b (by omega)
  rw [Nat.succ_mul] at gap
  omega

theorem le_roundDiv {a b s : Nat} (positive : 0 < b) (least : s * b ≤ a) : s ≤ roundDiv a b :=
  Nat.le_trans ((Nat.le_div_iff_mul_le positive).mpr least) (div_le_roundDiv a b)

namespace Magnitude

theorem unitsPerOne_eq {t : Nat} (early : t ≤ 1000) :
    unitsPerOne = 2 ^ t * 2 ^ (1074 - t) := by
  have whole : t + (1074 - t) = 1074 := by omega
  rw [unitsPerOne, Nat.one_shiftLeft, ← Nat.pow_add, whole]

theorem shiftOf_eq_of_digits {numerator denominator t : Nat} (positive : 0 < denominator)
    (early : t ≤ 1000) (low : 2 ^ 52 * denominator ≤ numerator * 2 ^ t)
    (high : numerator * 2 ^ t < 2 ^ 53 * denominator) :
    shiftOf (numerator * unitsPerOne / denominator) = 1074 - t := by
  apply shiftOf_div_eq positive
  · intro _
    rw [unitsPerOne_eq early, Nat.shiftLeft_eq, ← Nat.mul_assoc, ← Nat.mul_assoc]
    exact Nat.mul_le_mul_right _ low
  · rw [unitsPerOne_eq early, Nat.shiftLeft_eq, ← Nat.mul_assoc, ← Nat.mul_assoc]
    exact Nat.mul_lt_mul_of_pos_right high (Nat.two_pow_pos _)

theorem exists_of_rounded {numerator denominator k r : Nat} (small : k < 2045)
    (found : shiftOf (numerator * unitsPerOne / denominator) = k)
    (rounded : roundDiv (numerator * unitsPerOne) (denominator <<< k) = r)
    (full : 2 ^ 52 ≤ r) (narrow : r ≤ 2 ^ 53) :
    ∃ m, nearest numerator denominator = some m ∧ m.units = r * 2 ^ k := by
  rcases Nat.lt_or_eq_of_le narrow with below | top
  · refine ⟨⟨r, k, below, Nat.le_of_lt small, .inr full⟩,
      nearest_eq_of_rounded _ found rounded, ?_⟩
    rw [Magnitude.units, Nat.shiftLeft_eq]
  · refine ⟨⟨2 ^ 52, k + 1, by decide, small, .inr (Nat.le_refl _)⟩,
      nearest_eq_of_carried _ rfl rfl found (rounded.trans top), ?_⟩
    rw [Magnitude.units, Nat.shiftLeft_eq, top]
    ring

/-- A quotient of `n / (d * 2 ^ t)`, where `n / d` has 53 binary digits, is rounded to as many
    steps as `n / d` is. -/
theorem exists_nearest {numerator denominator n d t : Nat} (positive : 0 < denominator)
    (positive' : 0 < d) (early : t ≤ 1000) (same : numerator * 2 ^ t * d = n * denominator)
    (low : 2 ^ 52 * d ≤ n) (high : n < 2 ^ 53 * d) :
    ∃ m, nearest numerator denominator = some m ∧ m.units = roundDiv n d * 2 ^ (1074 - t) := by
  have least : 2 ^ 52 * denominator ≤ numerator * 2 ^ t := by
    apply Nat.le_of_mul_le_mul_right _ positive'
    rw [same, Nat.mul_right_comm]
    exact Nat.mul_le_mul_right denominator low
  have most : numerator * 2 ^ t < 2 ^ 53 * denominator := by
    apply Nat.lt_of_mul_lt_mul_right (a := d)
    rw [same, Nat.mul_right_comm]
    exact Nat.mul_lt_mul_of_pos_right high positive
  have rounded : roundDiv (numerator * unitsPerOne) (denominator <<< (1074 - t)) =
      roundDiv n d := by
    apply roundDiv_congr (shiftLeft_pos positive _) positive'
    rw [unitsPerOne_eq early, Nat.shiftLeft_eq, ← Nat.mul_assoc, Nat.mul_right_comm, same,
      Nat.mul_assoc]
  exact exists_of_rounded (by omega) (shiftOf_eq_of_digits positive early least most) rounded
    (le_roundDiv positive' low) (roundDiv_le positive' (Nat.le_of_lt high))

theorem floor_units {m : Magnitude} {r t : Nat} (early : t ≤ 1000)
    (counted : m.units = r * 2 ^ (1074 - t)) : m.units / unitsPerOne = r / 2 ^ t := by
  rw [counted, unitsPerOne_eq early, Nat.mul_div_mul_right _ _ (Nat.two_pow_pos _)]

theorem exists_product {m : Magnitude} {q t g : Nat} (early : t ≤ 1000) (long : g ≤ t)
    (counted : m.units = q * 2 ^ (1074 - t)) (low : 2 ^ 52 * 2 ^ g ≤ 1000 * q)
    (high : 1000 * q < 2 ^ 53 * 2 ^ g) :
    ∃ p, nearest (m.units * 1000) unitsPerOne = some p ∧
      p.units / unitsPerOne = roundDiv (1000 * q) (2 ^ g) / 2 ^ (t - g) := by
  have split : 2 ^ t = 2 ^ (t - g) * 2 ^ g := by rw [← Nat.pow_add, Nat.sub_add_cancel long]
  have same : m.units * 1000 * 2 ^ (t - g) * 2 ^ g = 1000 * q * unitsPerOne := by
    rw [counted, unitsPerOne_eq early, split]
    ring
  obtain ⟨p, rounded, units⟩ := exists_nearest unitsPerOne_pos (Nat.two_pow_pos g)
    (by omega : t - g ≤ 1000) same low high
  exact ⟨p, rounded, floor_units (by omega) units⟩

end Magnitude

theorem thousandfold_bounds {c q : Nat} (rounded : roundDiv (1024 * c) 1000 = q) :
    (1024 * c % 1000 < 500 ∧ 1000 * q + 1024 * c % 1000 = 1024 * c) ∨
      (500 < 1024 * c % 1000 ∧ 1000 * q + 1024 * c % 1000 = 1024 * c + 1000) := by
  obtain ⟨low, high, _⟩ := roundDiv_close (1024 * c) (b := 1000) (by decide)
  rw [rounded] at low high
  omega

theorem div_eq_of_near {n w x : Nat} (low : n * w ≤ x) (high : x < n * w + w) : x / w = n :=
  Nat.div_eq_of_lt_le low (by rwa [Nat.succ_mul])

theorem round_coarse {c q : Nat} (rounded : roundDiv (1024 * c) 1000 = q) :
    roundDiv (1000 * q) 1024 = c := by
  have bounds := thousandfold_bounds rounded
  apply roundDiv_eq_of_close <;> omega

theorem round_fine {c q : Nat} (rounded : roundDiv (1024 * c) 1000 = q) :
    if 256 < 1024 * c % 1000 ∧ 1024 * c % 1000 < 500 then roundDiv (1000 * q) 512 + 1 = 2 * c
    else roundDiv (1000 * q) 512 = 2 * c ∨ roundDiv (1000 * q) 512 = 2 * c + 1 := by
  have bounds := thousandfold_bounds rounded
  obtain ⟨low, high, odd⟩ := roundDiv_close (1000 * q) (b := 512) (by decide)
  split <;> omega

theorem floor_fine {n w c q : Nat} (positive : 0 < n) (wide : 2 ≤ w) (steps : 2 * c = n * w)
    (rounded : roundDiv (1024 * c) 1000 = q) :
    roundDiv (1000 * q) 512 / w =
      if 256 < 1024 * c % 1000 ∧ 1024 * c % 1000 < 500 then n - 1 else n := by
  have fine := round_fine rounded
  by_cases lost : 256 < 1024 * c % 1000 ∧ 1024 * c % 1000 < 500
  · rw [if_pos lost] at fine ⊢
    obtain ⟨before, rfl⟩ : ∃ before, n = before + 1 := ⟨n - 1, by omega⟩
    rw [Nat.succ_mul before w] at steps
    rw [Nat.add_sub_cancel]
    exact div_eq_of_near (by omega) (by omega)
  · rw [if_neg lost] at fine ⊢
    exact div_eq_of_near (by omega) (by omega)

/-- How a number of milliseconds loses one: times a power of two that gives its seconds 53 binary
    digits, it exceeds a multiple of a thousand by so much that the product is rounded down. -/
def LosesAt (n t : Nat) : Prop :=
  n * 2 ^ t < 2 ^ 62 ∧ 256 < n * 2 ^ t % 1000 ∧ n * 2 ^ t % 1000 < 500

instance decidableLosesAt (n t : Nat) : Decidable (LosesAt n t) :=
  inferInstanceAs (Decidable (_ ∧ _))

namespace Magnitude

section
variable {s : Magnitude} {n c q j : Nat} (early : j + 10 ≤ 1000) (steps : n * 2 ^ j = c)
variable (rounded : roundDiv (1024 * c) 1000 = q) (counted : s.units = q * 2 ^ (1074 - (j + 10)))
include early steps rounded counted

theorem floor_product_fine (positive : 0 < n) (low : 2 ^ 61 ≤ 1000 * q)
    (high : 1000 * q < 2 ^ 62) :
    ∃ p, nearest (s.units * 1000) unitsPerOne = some p ∧ p.units / unitsPerOne =
      if 256 < 1024 * c % 1000 ∧ 1024 * c % 1000 < 500 then n - 1 else n := by
  obtain ⟨p, product, floor⟩ := exists_product (g := 9) early (by omega) counted low high
  have wide : 2 ≤ 2 ^ (j + 1) := by
    rw [Nat.pow_succ]
    have one := Nat.two_pow_pos j
    omega
  have doubled : 2 * c = n * 2 ^ (j + 1) := by
    rw [Nat.pow_succ, ← Nat.mul_assoc, steps, Nat.mul_comm]
  exact ⟨p, product, floor.trans (floor_fine positive wide doubled rounded)⟩

theorem floor_product_coarse (low : 2 ^ 62 ≤ 1000 * q) (high : 1000 * q < 2 ^ 63) :
    ∃ p, nearest (s.units * 1000) unitsPerOne = some p ∧ p.units / unitsPerOne = n := by
  obtain ⟨p, product, floor⟩ := exists_product (g := 10) early (by omega) counted low high
  have coarse : roundDiv (1000 * q) (2 ^ 10) = c := round_coarse rounded
  rw [coarse, Nat.add_sub_cancel, ← steps, Nat.mul_div_cancel _ (Nat.two_pow_pos j)] at floor
  exact ⟨p, product, floor⟩

end

theorem floor_of_scaled {n t : Nat} (positive : 0 < n) (low : 1000 * 2 ^ 52 ≤ n * 2 ^ t)
    (high : n * 2 ^ t < 1000 * 2 ^ 53) (least : 10 ≤ t) (early : t ≤ 1000) :
    ∃ s p, nearest (1000 * n) 1000000 = some s ∧
      nearest (s.units * 1000) unitsPerOne = some p ∧
      p.units / unitsPerOne = if LosesAt n t then n - 1 else n := by
  obtain ⟨j, rfl⟩ : ∃ j, t = j + 10 := ⟨t - 10, by omega⟩
  obtain ⟨c, steps⟩ : ∃ c, n * 2 ^ j = c := ⟨_, rfl⟩
  have whole : n * 2 ^ (j + 10) = 1024 * c := by
    rw [Nat.pow_add, ← steps]
    ring
  have first : ∃ s, nearest (1000 * n) 1000000 = some s ∧
      s.units = roundDiv (1024 * c) 1000 * 2 ^ (1074 - (j + 10)) :=
    exists_nearest (by decide) (by decide) early (by rw [← whole]; ring) (by omega) (by omega)
  obtain ⟨s, seconds, counted⟩ := first
  generalize rounded : roundDiv (1024 * c) 1000 = q at counted
  have bounds := thousandfold_bounds rounded
  have loses : LosesAt n (j + 10) ↔
      1024 * c < 2 ^ 62 ∧ 256 < 1024 * c % 1000 ∧ 1024 * c % 1000 < 500 := by
    rw [LosesAt, whole]
  rw [whole] at low high
  by_cases below : 1000 * q < 2 ^ 62
  · obtain ⟨p, product, floor⟩ :=
      floor_product_fine early steps rounded counted positive (by omega) below
    refine ⟨s, p, seconds, product, ?_⟩
    rw [floor]
    refine if_congr ?_ rfl rfl
    rw [loses]
    exact ⟨fun lost => ⟨by omega, lost⟩, And.right⟩
  · obtain ⟨p, product, floor⟩ :=
      floor_product_coarse early steps rounded counted (by omega) (by omega)
    refine ⟨s, p, seconds, product, ?_⟩
    rw [floor, if_neg (by rw [loses]; omega)]

end Magnitude

theorem Double.scale_of_nearest {s p : Magnitude} {factor : Nat} (negative : Bool)
    (rounded : Magnitude.nearest (s.units * factor) Magnitude.unitsPerOne = some p) :
    (finite negative s).scale factor = finite negative p :=
  Double.ofRatio_of_nearest negative rounded

theorem Double.truncate?_finite (negative : Bool) {m : Magnitude} {n : Nat}
    (floor : m.units / Magnitude.unitsPerOne = n) :
    (finite negative m).truncate? = some (if negative then -(n : Int) else n) := by
  subst floor
  rfl

namespace Calendar

def LosesMilli (n : Nat) : Prop :=
  ∃ t < 62, 1000 * 2 ^ 52 ≤ n * 2 ^ t ∧ LosesAt n t

instance decidableLosesMilli (n : Nat) : Decidable (LosesMilli n) :=
  inferInstanceAs (Decidable (∃ t < 62, _ ∧ _))

/-- A number of milliseconds, or the one next to it on the way to the epoch. -/
def keptMillis (millis : Int) : Int :=
  if LosesMilli millis.natAbs then millis - millis.sign else millis

theorem lt_of_scaled {a n k t : Nat} (least : a ≤ n) (less : n * 2 ^ t < a * 2 ^ k) : t < k := by
  by_contra many
  have power : 2 ^ k ≤ 2 ^ t := Nat.pow_le_pow_right (by decide) (Nat.le_of_not_lt many)
  have product := Nat.mul_le_mul least power
  omega

theorem exists_doublings {n m : Nat} (positive : 0 < n) (less : n ≤ m) :
    ∃ t, n * 2 ^ t ≤ m ∧ m < n * 2 ^ t * 2 := by
  have filled : m / n ≠ 0 := Nat.ne_of_gt (Nat.div_pos less positive)
  refine ⟨(m / n).log2, ?_, ?_⟩
  · calc n * 2 ^ (m / n).log2 ≤ n * (m / n) := Nat.mul_le_mul_left n (Nat.log2_self_le filled)
      _ ≤ m := Nat.mul_div_le m n
  · calc m < n * (m / n + 1) := Nat.lt_mul_div_succ m positive
      _ ≤ n * 2 ^ ((m / n).log2 + 1) := Nat.mul_le_mul_left n Nat.lt_log2_self
      _ = n * 2 ^ (m / n).log2 * 2 := by rw [Nat.pow_succ, Nat.mul_assoc]

theorem exists_scale {n : Nat} (positive : 0 < n) (small : n < 2 ^ 50) :
    ∃ t, 10 ≤ t ∧ t ≤ 1000 ∧ 1000 * 2 ^ 52 ≤ n * 2 ^ t ∧ n * 2 ^ t < 1000 * 2 ^ 53 := by
  obtain ⟨t, most, next⟩ := exists_doublings positive (by omega : n ≤ 1000 * 2 ^ 53 - 1)
  have many : 9 < t := lt_of_scaled (Nat.le_of_lt small) (by omega)
  have few : t < 63 := lt_of_scaled positive (by omega)
  exact ⟨t, many, by omega, by omega, by omega⟩

theorem losesMilli_iff {n t : Nat} (positive : 0 < n) (low : 1000 * 2 ^ 52 ≤ n * 2 ^ t)
    (high : n * 2 ^ t < 1000 * 2 ^ 53) : LosesMilli n ↔ LosesAt n t := by
  have doubles {k j : Nat} (less : k < j) : 2 * (n * 2 ^ k) ≤ n * 2 ^ j := by
    have power : 2 ^ (k + 1) ≤ 2 ^ j := Nat.pow_le_pow_right (by decide) less
    have product := Nat.mul_le_mul_left n power
    rw [Nat.pow_succ] at product
    linarith
  constructor
  · intro ⟨k, _, least, loses⟩
    have below := loses.1
    rcases Nat.lt_trichotomy k t with less | rfl | more
    · have twice := doubles less
      omega
    · exact loses
    · have twice := doubles more
      omega
  · intro loses
    have below := loses.1
    have few : t < 62 := lt_of_scaled positive (by omega)
    exact ⟨t, few, low, loses⟩

/-- Seconds and back: what is kept of a number of milliseconds. -/
theorem toMillis_eq {millis : Int} (small : millis.natAbs < 2 ^ 50) :
    toMillis (1000 * millis) = keptMillis millis := by
  by_cases none : millis = 0
  · subst none
    have kept : keptMillis 0 = 0 := by simp [keptMillis]
    rw [kept]
    decide +kernel
  · have positive : 0 < millis.natAbs := Int.natAbs_pos.mpr none
    obtain ⟨t, least, early, low, high⟩ := exists_scale positive small
    obtain ⟨s, p, rounded, product, floor⟩ :=
      Magnitude.floor_of_scaled positive low high least early
    have size : (1000 * millis).natAbs = 1000 * millis.natAbs := Int.natAbs_mul 1000 millis
    have negative : decide (1000 * millis < 0) = decide (millis < 0) := by
      congr 1
      exact propext (by omega)
    have signed (k : Nat) : (if decide (millis < 0) then -(k : Int) else k) = millis.sign * k := by
      rcases Int.lt_or_gt_of_ne none with below | above
      · rw [if_pos (decide_eq_true below), Int.sign_eq_neg_one_of_neg below, Int.neg_one_mul]
      · rw [if_neg (by simpa using Int.le_of_lt above), Int.sign_eq_one_of_pos above, Int.one_mul]
    rw [toMillis, size, negative, Double.ofRatio_of_nearest _ rounded,
      Double.scale_of_nearest _ product, Double.truncate?_finite _ floor, Option.getD_some, signed]
    unfold keptMillis
    by_cases loses : LosesAt millis.natAbs t
    · rw [if_pos loses, if_pos ((losesMilli_iff positive low high).mpr loses),
        Nat.cast_pred positive, mul_sub, Int.sign_mul_natAbs, mul_one]
    · rw [if_neg loses, if_neg (mt (losesMilli_iff positive low high).mp loses),
        Int.sign_mul_natAbs]

/- Which numbers lose a millisecond, and what that does to their order. -/

theorem not_losesMilli_of_le_one {n : Nat} (few : n ≤ 1) : ¬ LosesMilli n := by
  intro ⟨t, early, low, _⟩
  have many : 61 < t := lt_of_scaled few (by omega)
  omega

theorem not_losesMilli_of_dvd {n : Nat} (small : n < 2 ^ 50) (eighths : 125 ∣ n) :
    ¬ LosesMilli n := by
  intro ⟨t, _, low, _, rest, _⟩
  have high : 2 < t := lt_of_scaled (Nat.le_of_lt small) (by omega)
  have thousands : 125 * 8 ∣ n * 2 ^ t := Nat.mul_dvd_mul eighths (Nat.pow_dvd_pow 2 high)
  omega

theorem keptMillis_eq_self_iff {a : Int} : keptMillis a = a ↔ ¬ LosesMilli a.natAbs := by
  unfold keptMillis
  by_cases loses : LosesMilli a.natAbs
  · have far : a ≠ 0 := by
      intro none
      rw [none] at loses
      exact not_losesMilli_of_le_one (by decide) loses
    have moved : a.sign ≠ 0 := mt Int.sign_eq_zero_iff_zero.mp far
    rw [if_pos loses]
    exact iff_of_false (by omega) (not_not.mpr loses)
  · rw [if_neg loses]
    exact iff_of_true rfl loses

theorem keptMillis_cases (a : Int) :
    keptMillis a = a ∨ 0 < a ∧ keptMillis a = a - 1 ∨ a < 0 ∧ keptMillis a = a + 1 := by
  unfold keptMillis
  split
  · rcases Int.lt_trichotomy a 0 with below | rfl | above
    · rw [Int.sign_eq_neg_one_of_neg below]
      omega
    · exact .inl rfl
    · rw [Int.sign_eq_one_of_pos above]
      omega
  · exact .inl rfl

/-- Order is never reversed. Two numbers fall together if they are next to each other and only
    the one that is further from the epoch moves. -/
theorem keptMillis_order {a b : Int} (less : a < b) : keptMillis a ≤ keptMillis b ∧
    (keptMillis a = keptMillis b ↔ b = a + 1 ∧
      (0 ≤ a ∧ keptMillis a = a ∧ keptMillis b ≠ b ∨
        b ≤ 0 ∧ keptMillis a ≠ a ∧ keptMillis b = b)) := by
  have one : b = 1 → keptMillis b = b := by
    intro same
    rw [same, keptMillis_eq_self_iff]
    exact not_losesMilli_of_le_one (by decide)
  rcases keptMillis_cases a with first | first | first <;>
    rcases keptMillis_cases b with second | second | second <;> omega

end Calendar

end BondQuery
