import BondQuery.Proofs.AcceptedWeights
import BondQuery.Proofs.ClauseFields

/- What an accepted table of weights is good for. A weight is turned into a boost where it is used,
   and whole numbers that no 64-bit number comes near cannot be; a quality level multiplies the
   weight first. -/
namespace BondQuery
open Query

/-- A whole number that some 64-bit number comes near. -/
def Roundable (n : Nat) : Prop :=
  n + 2 ^ 970 < 2 ^ 1024

/-- The weight can be rounded to 64 bits when it is multiplied by a factor. Only whole numbers may
    be too large for that. -/
def Number.InRange (weight : Number) (factor : Nat) : Prop :=
  ∀ n, weight = .int n → Roundable (n.natAbs * factor)

/-- What is expected of a table of weights: they are numbers from one on, each can be a boost, at
    every quality level too, and no search and no clause fails that does not fail without them. -/
structure Ranking.Usable (ranking : Ranking) : Prop where
  numbers : ∀ entry ∈ ranking.weights, entry.2.AtLeastOne
  properties : ∀ name, (ranking.weight name).Boosts
  levels : ∀ dimension (level : Int), 1 ≤ level → level ≤ 5 →
    ∃ weight, ranking.levelWeight? dimension level = .ok weight ∧ weight.Boosts
  baseline : ∀ count deletedIncluded countHonorsDeleted,
    ∃ q, Baseline.query count deletedIncluded countHonorsDeleted ranking = .ok q
  clauses : ∀ property operator value, operator ∈ [.equal, .notEqual, .like] →
    (∃ q, Translate.property .neutral property operator value = .ok q) →
    ∃ q, Translate.property ranking property operator value = .ok q

theorem roundable_of_small {n : Nat} (small : n < 2 ^ 53) : Roundable n := by
  -- for any exponents first, so that the powers are never evaluated
  have grows (k j : Nat) (least : 53 ≤ k) (far : k + 1 ≤ j) : n + 2 ^ k < 2 ^ j :=
    calc n + 2 ^ k < 2 ^ k + 2 ^ k :=
          Nat.add_lt_add_right (small.trans_le (Nat.pow_le_pow_right (by decide) least)) _
      _ = 2 ^ (k + 1) := by rw [Nat.pow_succ, Nat.mul_two]
      _ ≤ 2 ^ j := Nat.pow_le_pow_right (by decide) far
  exact grows 970 1024 (by decide) (by decide)

theorem Roundable.mono {m n : Nat} (range : Roundable n) (less : m ≤ n) : Roundable m :=
  Nat.lt_of_le_of_lt (Nat.add_le_add_right less _) range

namespace Number
variable {weight : Number}

theorem boosts_iff_of_above (above : weight.isAboveOne = true) :
    weight.Boosts ↔ weight.toDouble?.isSome = true := by
  unfold Boosts boostOf
  rw [if_pos above]
  cases weight.toDouble? <;> simp

theorem boosts_of_not_above (below : weight.isAboveOne = false) : weight.Boosts := by
  unfold Boosts boostOf
  rw [below]
  exact ⟨none, rfl⟩

theorem boosts_int_iff {n : Int} (positive : 1 ≤ n) : (int n).Boosts ↔ Roundable n.natAbs := by
  rcases Int.lt_or_eq_of_le positive with above | rfl
  · have more : (int n).isAboveOne = true := decide_eq_true above
    rw [boosts_iff_of_above more]
    exact Double.ofInt?_isSome_iff n
  · exact iff_of_true (boosts_of_not_above rfl) (roundable_of_small (by decide))

theorem boosts_double (x : Double) : (double x).Boosts := by
  cases above : (double x).isAboveOne with
  | true => exact (boosts_iff_of_above above).mpr rfl
  | false => exact boosts_of_not_above above

theorem boosts_scale_iff {level : Nat} (least : weight.isBelowOne = false) (positive : 1 ≤ level) :
    (weight.scale level).Boosts ↔ weight.InRange level := by
  cases weight with
  | double x => exact iff_of_true (boosts_double _) nofun
  | int n =>
    have one : 1 ≤ n := by simpa [isBelowOne] using least
    have product : 1 ≤ n * (level : Int) := by nlinarith
    rw [scale, boosts_int_iff product, Int.natAbs_mul, Int.natAbs_natCast]
    simp [InRange]

theorem boosts_iff_inRange (least : weight.isBelowOne = false) :
    weight.Boosts ↔ weight.InRange 1 := by
  cases weight with
  | double x => exact iff_of_true (boosts_double _) nofun
  | int n =>
    have one : 1 ≤ n := by simpa [isBelowOne] using least
    simp [boosts_int_iff one, InRange]

theorem InRange.mono {factor factor' : Nat} (range : weight.InRange factor)
    (less : factor' ≤ factor) : weight.InRange factor' := by
  intro n same
  exact (range n same).mono (Nat.mul_le_mul_left n.natAbs less)

theorem atLeastOne_iff_of_accepted (accepted : weight = .double .nan ∨ weight.AtLeastOne) :
    weight.AtLeastOne ↔ weight ≠ .double .nan := by
  constructor
  · intro least none
    rw [none] at least
    exact least
  · exact accepted.resolve_left

end Number

namespace Ranking
variable {ranking : Ranking}

theorem weight_cases (ranking : Ranking) (name : String) :
    (name, ranking.weight name) ∈ ranking.weights ∨ ranking.weight name = .int 1 := by
  unfold weight
  cases found : ranking.weights.lookup name with
  | none => exact .inr rfl
  | some given =>
    obtain ⟨before, after, split, _⟩ := List.lookup_eq_some_iff.mp found
    exact .inl (by simp [split])

theorem weight_of_entry (distinct : (ranking.weights.map (·.1)).Nodup) {entry : String × Number}
    (member : entry ∈ ranking.weights) : ranking.weight entry.1 = entry.2 := by
  obtain ⟨before, after, split⟩ := List.append_of_mem member
  rw [split, List.map_append, List.map_cons] at distinct
  have fresh := (List.nodup_append'.mp distinct).2.2
  have found : ranking.weights.lookup entry.1 = some entry.2 := by
    refine List.lookup_eq_some_iff.mpr ⟨before, after, split, ?_⟩
    intro other earlier
    have apart : entry.1 ≠ other.1 := by
      intro same
      exact fresh (List.mem_map_of_mem earlier) (same ▸ List.mem_cons_self)
    simpa using apart
  rw [weight, found]
  rfl

theorem inRange_weights_iff (distinct : (ranking.weights.map (·.1)).Nodup) {factor : Nat}
    (small : factor < 2 ^ 53) :
    (∀ name, (ranking.weight name).InRange factor) ↔
      ∀ entry ∈ ranking.weights, entry.2.InRange factor := by
  constructor
  · intro each entry member
    rw [← weight_of_entry distinct member]
    exact each entry.1
  · intro each name
    rcases ranking.weight_cases name with member | one
    · exact each _ member
    · intro n same
      rw [one] at same
      cases same
      simpa using roundable_of_small small

theorem levelWeight?_eq {dimension : String} {level : Int} (least : 1 ≤ level)
    (most : level ≤ 5) :
    ranking.levelWeight? dimension level = .ok ((ranking.weight dimension).scale level.toNat) :=
  if_pos ⟨least, most⟩

section
variable (accepted : Accepted ranking.weights)
include accepted

theorem least_weight (name : String) : (ranking.weight name).isBelowOne = false := by
  rcases ranking.weight_cases name with member | one
  · exact Number.isBelowOne_eq_false_iff.mpr (accepted _ member)
  · rw [one]
    rfl

theorem weight_boosts_iff (name : String) :
    (ranking.weight name).Boosts ↔ (ranking.weight name).InRange 1 :=
  Number.boosts_iff_inRange (least_weight accepted name)

theorem rates_iff : ranking.Rates ↔ (ranking.weight "isGDC").InRange 1 ∧
    ∀ dimension ∈ ratedDimensions, (ranking.weight dimension).InRange 5 := by
  rw [Rates, weight_boosts_iff accepted]
  refine and_congr_right fun _ => forall₂_congr fun dimension _ => ?_
  constructor
  · intro each
    exact (Number.boosts_scale_iff (least_weight accepted dimension) (by decide)).mp
      (each 5 (by decide) (Nat.le_refl _))
  · intro range level least most
    exact (Number.boosts_scale_iff (least_weight accepted dimension) least).mpr (range.mono most)

theorem exists_weighed_iff {property : Property} {operator : Operator} {value : String}
    (weighed : operator ∈ [.equal, .notEqual, .like])
    (plain : ∃ q, Translate.property .neutral property operator value = .ok q) :
    (∃ q, Translate.property ranking property operator value = .ok q) ↔
      (ranking.weight property.name).InRange 1 := by
  have accepts : Accepts ranking property operator value ↔
      (ranking.weight property.name).Boosts := by
    simp only [List.mem_cons, List.not_mem_nil, or_false] at weighed
    rcases weighed with rfl | rfl | rfl <;> rfl
  obtain ⟨_, named⟩ := exists_property_iff.mp plain
  rw [exists_property_iff, accepts, weight_boosts_iff accepted]
  exact and_iff_left named

theorem exists_baseline_iff {count deletedIncluded countHonorsDeleted : Bool} :
    (∃ q, Baseline.query count deletedIncluded countHonorsDeleted ranking = .ok q) ↔
      count = true ∨ (ranking.weight "isGDC").InRange 1 ∧
        ∀ dimension ∈ ratedDimensions, (ranking.weight dimension).InRange 5 := by
  cases count with
  | true => exact iff_of_true (exists_count_baseline ..) (.inl rfl)
  | false => simp [exists_search_baseline_iff, rates_iff accepted]

theorem exists_level_iff {dimension : String} {level : Int} (least : 1 ≤ level)
    (most : level ≤ 5) :
    (∃ weight, ranking.levelWeight? dimension level = .ok weight ∧ weight.Boosts) ↔
      (ranking.weight dimension).InRange level.toNat := by
  rw [levelWeight?_eq least most,
    ← Number.boosts_scale_iff (least_weight accepted dimension) (by omega : 1 ≤ level.toNat)]
  simp

theorem usable_iff (distinct : (ranking.weights.map (·.1)).Nodup) :
    ranking.Usable ↔
      ∀ entry ∈ ranking.weights, entry.2 ≠ .double .nan ∧ entry.2.InRange 5 := by
  have numbers : (∀ entry ∈ ranking.weights, entry.2.AtLeastOne) ↔
      ∀ entry ∈ ranking.weights, entry.2 ≠ .double .nan :=
    forall₂_congr fun entry member => Number.atLeastOne_iff_of_accepted (accepted entry member)
  rw [forall₂_and, ← numbers, ← inRange_weights_iff distinct (by decide)]
  constructor
  · intro usable
    refine ⟨usable.numbers, fun name => ?_⟩
    exact (exists_level_iff accepted (by decide) (Int.le_refl _)).mp
      (usable.levels name 5 (by decide) (Int.le_refl _))
  · intro ⟨least, range⟩
    have single (name : String) : (ranking.weight name).InRange 1 := (range name).mono (by decide)
    constructor
    · exact least
    · exact fun name => (weight_boosts_iff accepted name).mpr (single name)
    · intro dimension level first last
      exact (exists_level_iff accepted first last).mpr ((range dimension).mono (by omega))
    · intro count deletedIncluded countHonorsDeleted
      exact (exists_baseline_iff accepted).mpr (.inr ⟨single _, fun dimension _ => range dimension⟩)
    · intro property operator value weighed plain
      exact (exists_weighed_iff accepted weighed plain).mpr (single property.name)

end

end Ranking

/-- A table of weights that both checks accept is usable exactly when every entry of it is a number
    and no whole number is too large at the highest level; each single use needs its own weight
    only, and a count needs none. -/
theorem accepted_weights_usable_iff {config : Config} {warnings : List String}
    (distinct : (config.weights.map (·.1)).Nodup) (validated : config.validate = .ok warnings) :
    ∃ ranking, Ranking.ofWeights config.weights = .ok ranking ∧
    (ranking.Usable ↔
      ∀ entry ∈ config.weights, entry.2 ≠ .double .nan ∧ entry.2.InRange 5) ∧
    (∀ entry ∈ config.weights, entry.2.AtLeastOne ↔ entry.2 ≠ .double .nan) ∧
    (∀ name, (ranking.weight name).Boosts ↔ (ranking.weight name).InRange 1) ∧
    (∀ dimension (level : Int), 1 ≤ level → level ≤ 5 →
      ((∃ weight, ranking.levelWeight? dimension level = .ok weight ∧ weight.Boosts) ↔
        (ranking.weight dimension).InRange level.toNat)) ∧
    (∀ count deletedIncluded countHonorsDeleted,
      (∃ q, Baseline.query count deletedIncluded countHonorsDeleted ranking = .ok q) ↔
        count = true ∨ (ranking.weight "isGDC").InRange 1 ∧
          ∀ dimension ∈ ratedDimensions, (ranking.weight dimension).InRange 5) ∧
    (∀ property operator value, operator ∈ [.equal, .notEqual, .like] →
      (∃ q, Translate.property .neutral property operator value = .ok q) →
      ((∃ q, Translate.property ranking property operator value = .ok q) ↔
        (ranking.weight property.name).InRange 1)) := by
  obtain ⟨accepted, -⟩ := Config.validate_eq_ok_iff.mp validated
  refine ⟨⟨config.weights⟩, Ranking.ofWeights_eq_ok_iff.mpr ⟨accepted, rfl⟩,
    Ranking.usable_iff accepted distinct, ?_, ?_, ?_, ?_, ?_⟩
  · intro entry member
    exact Number.atLeastOne_iff_of_accepted (accepted entry member)
  · exact Ranking.weight_boosts_iff accepted
  · intro dimension level least most
    exact Ranking.exists_level_iff accepted least most
  · intro count deletedIncluded countHonorsDeleted
    exact Ranking.exists_baseline_iff accepted
  · intro property operator value weighed plain
    exact Ranking.exists_weighed_iff accepted weighed plain

theorem title_and_quality_usable :
    Ranking.Usable ⟨[("title", .int 3), ("metadataQuality", .int 2)]⟩ := by
  obtain ⟨ranking, built, usable, -⟩ := @accepted_weights_usable_iff
    { Config.standard with weights := [("title", .int 3), ("metadataQuality", .int 2)] } []
    (by decide) rfl
  obtain rfl := (Ranking.ofWeights_eq_ok_iff.mp built).2
  refine usable.mpr ?_
  intro entry member
  simp only [List.mem_cons, List.not_mem_nil, or_false] at member
  rcases member with rfl | rfl
  · exact ⟨nofun, fun n same => by cases same; exact roundable_of_small (by decide)⟩
  · exact ⟨nofun, fun n same => by cases same; exact roundable_of_small (by decide)⟩

/-- A weight that is no number is accepted, and so is one that no boost comes near. -/
theorem unusable_weights_accepted :
    ({ Config.standard with weights := [("title", .double .nan)] }.validate = .ok [] ∧
      Ranking.ofWeights [("title", .double .nan)] = .ok ⟨[("title", .double .nan)]⟩ ∧
      ¬ Ranking.Usable ⟨[("title", .double .nan)]⟩) ∧
    { Config.standard with weights := [("isGDC", .int (2 ^ 1024))] }.validate = .ok [] ∧
      Ranking.ofWeights [("isGDC", .int (2 ^ 1024))] = .ok ⟨[("isGDC", .int (2 ^ 1024))]⟩ ∧
      ¬ Ranking.Usable ⟨[("isGDC", .int (2 ^ 1024))]⟩ := by
  refine ⟨⟨rfl, rfl, ?_⟩, ?_⟩
  · intro usable
    exact usable.numbers _ List.mem_cons_self
  · -- for any exponent first, so that the power is never evaluated
    obtain ⟨k, same⟩ : ∃ k, k = 1024 := ⟨_, rfl⟩
    rw [← same]
    have positive : (1 : Int) ≤ 2 ^ k := Int.pow_pos (by decide)
    have range : ¬ Roundable (2 ^ k : Int).natAbs := by
      have reached (least : Nat) : ¬ (2 ^ k : Int).natAbs + least < 2 ^ k := by
        rw [Int.natAbs_pow]
        exact Nat.not_lt_of_le (Nat.le_add_right _ least)
      rw [Roundable, ← same]
      exact reached _
    have accepted : Accepted [("isGDC", .int (2 ^ k))] := by
      intro entry member
      rw [List.mem_singleton.mp member, ← Number.isBelowOne_eq_false_iff]
      exact decide_eq_false (Int.not_lt.mpr positive)
    refine ⟨Config.validate_eq_ok_iff.mpr ⟨accepted, rfl⟩,
      Ranking.ofWeights_eq_ok_iff.mpr ⟨accepted, rfl⟩, ?_⟩
    intro usable
    exact range ((Number.boosts_int_iff positive).mp (usable.properties "isGDC"))

end BondQuery
