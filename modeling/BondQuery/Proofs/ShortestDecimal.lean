import BondQuery.Proofs.Rounding

/- The shortest decimal of a magnitude. Seventeen digits reach some decimal in the rounding interval
   of any positive magnitude, so the search for fewer ends with one. -/
namespace BondQuery

namespace Magnitude

theorem contains_of_onGrid? {m : Magnitude} {exponent : Int} {d : Decimal}
    (found : m.onGrid? exponent = some d) : m.contains d = true := by
  unfold onGrid? at found
  obtain ⟨low, side⟩ := m.below exponent
  dsimp only at found
  split at found
  · rename_i hit _
    cases found
    exact hit
  · rename_i _ hit
    cases found
    exact hit
  · cases found
  · rename_i hitLow hitHigh
    split at found
    · cases found
      exact hitLow
    · cases found
      exact hitHigh
    · split at found
      · cases found
        exact hitLow
      · cases found
        exact hitHigh

theorem onGrid?_isSome {m : Magnitude} {exponent : Int}
    (hit : m.contains (m.below exponent).1 = true ∨
      m.contains ⟨(m.below exponent).1.digits + 1, exponent⟩ = true) :
    (m.onGrid? exponent).isSome = true := by
  unfold onGrid?
  generalize m.below exponent = pair at hit ⊢
  obtain ⟨low, side⟩ := pair
  dsimp only at hit ⊢
  split
  · rfl
  · rfl
  · rename_i missLow missHigh
    rw [missLow, missHigh] at hit
    simp at hit
  · split
    · rfl
    · rfl
    · split <;> rfl

theorem unitsPerOne_le : 10 ^ 16 * unitsPerOne ≤ 10 ^ 350 := by decide +kernel

theorem pointOf_spec (m : Magnitude) (filled : m.significand ≠ 0) :
    ∃ length places : Nat, m.pointOf = length - places ∧ 16 < length ∧
      10 ^ (length - 1) * unitsPerOne ≤ m.units * 10 ^ places ∧
      m.units * 10 ^ places < 10 ^ length * unitsPerOne := by
  have one : 0 < m.units := by
    rw [units, Nat.shiftLeft_eq]
    exact Nat.mul_pos (Nat.pos_of_ne_zero filled) (Nat.two_pow_pos _)
  have many : ∀ places, 350 = places → 10 ^ 16 * unitsPerOne ≤ 10 ^ places :=
    fun places named => named ▸ unitsPerOne_le
  have point : ∀ places : Nat, 350 = places →
      m.pointOf = (Nat.toDigits 10 (m.units * 10 ^ places / unitsPerOne)).length - (places : Int) := by
    intro places named
    have whole : (350 : Int) = places := by omega
    rw [pointOf, whole, named, Nat.pow_eq]
  obtain ⟨places, named⟩ : ∃ places, 350 = places := ⟨_, rfl⟩
  have filling : 10 ^ 16 ≤ m.units * 10 ^ places / unitsPerOne := by
    rw [Nat.le_div_iff_mul_le unitsPerOne_pos]
    exact (many places named).trans (Nat.le_mul_of_pos_left _ one)
  obtain ⟨least, most⟩ := pow_length_toDigits (Nat.lt_of_lt_of_le (by decide) filling)
  have long := (Nat.pow_lt_pow_iff_right (by decide)).mp (filling.trans_lt most)
  rw [Nat.le_div_iff_mul_le unitsPerOne_pos] at least
  rw [Nat.div_lt_iff_lt_mul unitsPerOne_pos] at most
  exact ⟨_, places, point places named, long, least, most⟩

theorem seventeenth_place_le (m : Magnitude) (filled : m.significand ≠ 0) :
    unitsPerOne * 10 ^ (m.pointOf - 17).toNat * 10 ^ 16 ≤
      m.units * 10 ^ (-(m.pointOf - 17)).toNat := by
  obtain ⟨length, places, point, long, least, _⟩ := m.pointOf_spec filled
  generalize raised : (m.pointOf - 17).toNat = up
  generalize lowered : (-(m.pointOf - 17)).toNat = down
  have powers : up + 16 + places = length - 1 + down := by omega
  have positive : 0 < 10 ^ places := Nat.pow_pos (by decide)
  refine Nat.le_of_mul_le_mul_right ?_ positive
  calc unitsPerOne * 10 ^ up * 10 ^ 16 * 10 ^ places
      = 10 ^ (up + 16 + places) * unitsPerOne := by rw [Nat.pow_add, Nat.pow_add]; ring
    _ = 10 ^ (length - 1) * unitsPerOne * 10 ^ down := by rw [powers, Nat.pow_add]; ring
    _ ≤ m.units * 10 ^ places * 10 ^ down := Nat.mul_le_mul_right _ least
    _ = m.units * 10 ^ down * 10 ^ places := by ring

/-- A unit in the seventeenth place is shorter than the rounding interval. -/
theorem seventeenth_place_lt (m : Magnitude) {unit wide : Nat} (positive : 0 < wide)
    (place : unit * 10 ^ 16 ≤ m.significand * wide) :
    4 * unit < 2 * wide + m.lowerQuarters * wide := by
  obtain ⟨quarter, top, _⟩ | ⟨half, _⟩ := m.lowerQuarters_cases
  · rw [quarter]
    rw [top] at place
    omega
  · have most := Nat.mul_le_mul_right wide m.significand_lt
    rw [Nat.succ_mul] at most
    rw [half]
    omega

theorem onGrid?_seventeenth (m : Magnitude) (filled : m.significand ≠ 0) :
    (m.onGrid? (m.pointOf - 17)).isSome = true := by
  have step := m.seventeenth_place_le filled
  generalize m.pointOf - 17 = exponent at step ⊢
  have value : m.units * 10 ^ (-exponent).toNat =
      m.significand * (10 ^ (-exponent).toNat <<< m.shift) := by
    simp only [units, Nat.shiftLeft_eq]
    ring
  have wide : 0 < 10 ^ (-exponent).toNat <<< m.shift :=
    shiftLeft_pos (Nat.pow_pos (Nat.succ_pos 9)) m.shift
  have unit : 0 < unitsPerOne * 10 ^ exponent.toNat :=
    Nat.mul_pos unitsPerOne_pos (Nat.pow_pos (Nat.succ_pos 9))
  have ordered (q : Nat) :
      q * 10 ^ exponent.toNat * unitsPerOne = q * (unitsPerOne * 10 ^ exponent.toNat) := by ring
  have low : (m.below exponent).1 = ⟨m.significand * (10 ^ (-exponent).toNat <<< m.shift) /
      (unitsPerOne * 10 ^ exponent.toNat), exponent⟩ := by
    rw [← value, below, Nat.pow_eq, Nat.pow_eq]
  refine onGrid?_isSome ?_
  rw [low, contains_iff_near, contains_iff_near]
  simp only [Decimal.numerator, Decimal.denominator, Nat.pow_eq, ordered]
  rw [value] at step
  have narrow := m.seventeenth_place_lt wide step
  have whole := Nat.div_add_mod' (m.significand * (10 ^ (-exponent).toNat <<< m.shift))
    (unitsPerOne * 10 ^ exponent.toNat)
  have part := Nat.mod_lt (m.significand * (10 ^ (-exponent).toNat <<< m.shift)) unit
  have quarter := Nat.mul_pos m.lowerQuarters_bounds.1 wide
  generalize unitsPerOne * 10 ^ exponent.toNat = place at *
  generalize m.significand * (10 ^ (-exponent).toNat <<< m.shift) / place = q at *
  by_cases close : 4 * (m.significand * (10 ^ (-exponent).toNat <<< m.shift)) <
      4 * (q * place) + m.lowerQuarters * (10 ^ (-exponent).toNat <<< m.shift)
  · exact .inl ⟨by omega, by omega, fun _ => ⟨by omega, by omega⟩⟩
  · rw [Nat.succ_mul]
    exact .inr ⟨by omega, by omega, fun _ => ⟨by omega, by omega⟩⟩

theorem shortest_spec (m : Magnitude) (filled : m.significand ≠ 0) :
    ∃ k < 17, m.onGrid? (m.pointOf - (k + 1 : Nat)) = some m.shortest ∧
      ∀ j < k, m.onGrid? (m.pointOf - (j + 1 : Nat)) = none := by
  have hit := m.onGrid?_seventeenth filled
  have found : ((List.range 17).findSome? fun (k : Nat) =>
      m.onGrid? (m.pointOf - (k + 1))).isSome = true := by
    rw [List.findSome?_isSome_iff]
    exact ⟨16, by decide, hit⟩
  obtain ⟨d, first⟩ := Option.isSome_iff_exists.mp found
  have chosen : m.shortest = d := by
    unfold shortest
    simp only [first, Option.getD_some]
  obtain ⟨before, k, after, split, tried, missed⟩ := List.findSome?_eq_some_iff.mp first
  have placed : (List.range 17)[before.length]? = some k := by
    rw [split, List.getElem?_append_right (Nat.le_refl _), Nat.sub_self]
    rfl
  obtain ⟨few, same⟩ := List.getElem?_eq_some_iff.mp placed
  rw [List.length_range] at few
  rw [List.getElem_range] at same
  refine ⟨k, same ▸ few, chosen ▸ tried, fun j sooner => ?_⟩
  apply missed
  have sooner' : j < before.length := same ▸ sooner
  have seen : before[j]? = (List.range 17)[j]? := by
    rw [split, List.getElem?_append_left sooner']
  rw [List.getElem?_range (sooner'.trans few)] at seen
  exact List.mem_of_getElem? seen

theorem contains_shortest (m : Magnitude) (filled : m.significand ≠ 0) :
    m.contains m.shortest = true := by
  obtain ⟨k, _, found, _⟩ := m.shortest_spec filled
  exact contains_of_onGrid? found

theorem eq_zero {m : Magnitude} (empty : m.significand = 0) : m = .zero := by
  obtain ⟨significand, shift, small, low, normal⟩ := m
  subst empty
  have least : shift = 0 := normal.resolve_right (by decide)
  subst least
  rfl

theorem digits_shortest {m : Magnitude} (filled : m.significand ≠ 0) :
    m.shortest.digits ≠ 0 := by
  intro none
  have near := contains_iff_near.mp (m.contains_shortest filled)
  have half := near.half_le filled
  rw [Decimal.numerator, none, Nat.zero_mul, Nat.zero_mul] at half
  exact absurd half (Nat.not_le_of_lt (Decimal.denominator_pos _))

theorem value_shortest_zero : zero.shortest.value = 0 := by
  have none : zero.shortest.digits = 0 := by decide +kernel
  rw [Decimal.value, none, Nat.cast_zero, zero_mul]

end Magnitude
end BondQuery
