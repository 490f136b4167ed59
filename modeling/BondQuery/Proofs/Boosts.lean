import BondQuery.Proofs.Outcome
import BondQuery.Proofs.Range
import BondQuery.Query.Clause

/- Boosts in a query. A weight gives a boost above one or none, and only phrases and patterns have
   a place for it. -/
namespace BondQuery

namespace Magnitude

theorem unitsPerOne_lt_units {m : Magnitude} (far : 1023 ≤ m.shift) : unitsPerOne < m.units := by
  have normal : 2 ^ 52 ≤ m.significand := m.normal.resolve_left (by omega)
  rw [unitsPerOne, Nat.one_shiftLeft, units, Nat.shiftLeft_eq]
  calc 2 ^ 1074 < 2 ^ 1075 := Nat.pow_lt_pow_right (by decide) (by decide)
    _ ≤ 2 ^ (52 + m.shift) := Nat.pow_le_pow_right (by decide) (by omega)
    _ = 2 ^ 52 * 2 ^ m.shift := Nat.pow_add ..
    _ ≤ m.significand * 2 ^ m.shift := Nat.mul_le_mul_right _ normal

theorem shiftOf_le_of_nearest {numerator denominator : Nat} {m : Magnitude}
    (rounded : nearest numerator denominator = some m) :
    shiftOf (numerator * unitsPerOne / denominator) ≤ m.shift := by
  rcases parts_of_nearest rfl rfl rounded with ⟨_, same⟩ | ⟨_, _, next⟩
  · omega
  · omega

theorem shiftOf_of_two_le {n : Nat} (two : 2 ≤ n) : 1023 ≤ shiftOf (n * unitsPerOne / 1) := by
  -- for any exponent first, so that the power is never evaluated
  have reached : ∀ k, unitsPerOne = 1 <<< k → k + 1 ≤ (n * unitsPerOne).log2 := by
    intro k one
    have large : 2 ^ (k + 1) ≤ n * unitsPerOne := by
      rw [one, Nat.one_shiftLeft, Nat.pow_succ, Nat.mul_comm]
      exact Nat.mul_le_mul_right _ two
    have filled : n * unitsPerOne ≠ 0 := Nat.ne_of_gt (Nat.lt_of_lt_of_le (Nat.two_pow_pos _) large)
    exact (Nat.le_log2 filled).mpr large
  have high := reached 1074 rfl
  rw [Nat.div_one, shiftOf]
  omega

end Magnitude

theorem Double.isAboveOne_of_ofInt? {n : Int} {x : Double} (above : 1 < n)
    (rounded : ofInt? n = some x) : x.isAboveOne = true := by
  obtain ⟨m, near, rfl⟩ := Option.map_eq_some_iff.mp rounded
  have two : 2 ≤ n.natAbs := by omega
  have shift := Magnitude.shiftOf_le_of_nearest near
  have far := Nat.le_trans (Magnitude.shiftOf_of_two_le two) shift
  have negative : decide (n < 0) = false := decide_eq_false (by omega)
  simp only [isAboveOne, negative, Bool.not_false, Bool.true_and, decide_eq_true_eq]
  exact Magnitude.unitsPerOne_lt_units far

theorem Query.isAboveOne_of_boostOf {weight : Number} {boost : Double}
    (given : boostOf weight = .ok (some boost)) : boost.isAboveOne = true := by
  unfold boostOf at given
  split at given
  · rename_i above
    split at given
    · rename_i x rounded
      cases given
      cases weight with
      | int n => exact Double.isAboveOne_of_ofInt? (of_decide_eq_true above) rounded
      | double y =>
        cases rounded
        exact above
    · cases given
  · cases given

def Leaf.boost? : Leaf → Option Double
  | matchPhrase _ _ boost => boost
  | wildcard _ _ boost => boost
  | _ => none

def Leaf.unboosted : Leaf → Leaf
  | matchPhrase field value _ => matchPhrase field value none
  | wildcard field pattern _ => wildcard field pattern none
  | other => other

def Json.boost? : Json → Option Json
  | object [(_, object [(_, options)])] => options.get? "boost"
  | _ => none

theorem Leaf.boost?_toJson (clause : Leaf) : clause.toJson.boost? = clause.boost?.map .double := by
  cases clause with
  | matchPhrase field value boost => cases boost <;> rfl
  | wildcard field pattern boost => cases boost <;> rfl
  | range field bound value => cases bound <;> rfl
  | _ => rfl

namespace Query

mutual

def unboosted : Query → Query
  | matchAll => matchAll
  | matchNone => matchNone
  | leaf clause => leaf clause.unboosted
  | bool filter must mustNot should atLeastOne =>
    bool (unboostedAll filter) (unboostedAll must) (unboostedAll mustNot) (unboostedAll should)
      atLeastOne

def unboostedAll : List Query → List Query
  | [] => []
  | q :: rest => q.unboosted :: unboostedAll rest

end

mutual

def leaves : Query → List Leaf
  | matchAll | matchNone => []
  | leaf clause => [clause]
  | bool filter must mustNot should _ =>
    leavesOfAll filter ++ leavesOfAll must ++ leavesOfAll mustNot ++ leavesOfAll should

def leavesOfAll : List Query → List Leaf
  | [] => []
  | q :: rest => q.leaves ++ leavesOfAll rest

end

def Each (p : Leaf → Prop) (q : Query) : Prop :=
  ∀ clause ∈ q.leaves, p clause

theorem unboostedAll_eq_map (qs : List Query) : unboostedAll qs = qs.map unboosted := by
  induction qs with
  | nil => rfl
  | cons q rest ih => rw [unboostedAll, ih, List.map_cons]

theorem leavesOfAll_eq_flatMap (qs : List Query) : leavesOfAll qs = qs.flatMap leaves := by
  induction qs with
  | nil => rfl
  | cons q rest ih => rw [leavesOfAll, ih, List.flatMap_cons]

@[simp] theorem unboosted_matchAll : matchAll.unboosted = matchAll := rfl

@[simp] theorem unboosted_leaf (clause : Leaf) : (leaf clause).unboosted = leaf clause.unboosted := rfl

@[simp] theorem unboosted_bool (filter must mustNot should : List Query) (atLeastOne : Bool) :
    (bool filter must mustNot should atLeastOne).unboosted =
      bool (filter.map unboosted) (must.map unboosted) (mustNot.map unboosted)
        (should.map unboosted) atLeastOne := by
  simp only [unboosted, unboostedAll_eq_map]

@[simp] theorem leaves_bool (filter must mustNot should : List Query) (atLeastOne : Bool) :
    (bool filter must mustNot should atLeastOne).leaves =
      filter.flatMap leaves ++ must.flatMap leaves ++ mustNot.flatMap leaves ++
        should.flatMap leaves := by
  simp only [leaves, leavesOfAll_eq_flatMap]

@[simp] theorem unboosted_allOf (qs : List Query) :
    (allOf qs).unboosted = allOf (qs.map unboosted) := by simp [allOf]

@[simp] theorem unboosted_filter (qs : List Query) :
    (filter qs).unboosted = filter (qs.map unboosted) := by simp [filter]

@[simp] theorem unboosted_noneOf (qs : List Query) :
    (noneOf qs).unboosted = noneOf (qs.map unboosted) := by simp [noneOf]

@[simp] theorem unboosted_anyOf (qs : List Query) (atLeastOne : Bool) :
    (anyOf qs atLeastOne).unboosted = anyOf (qs.map unboosted) atLeastOne := by simp [anyOf]

@[simp] theorem unboosted_negate (q : Query) : q.negate.unboosted = q.unboosted.negate := by
  simp [negate]

@[simp] theorem unboosted_phrase (field value : String) :
    (phrase field value).unboosted = phrase field value := rfl

@[simp] theorem unboosted_hasField (field : String) :
    (hasField field).unboosted = hasField field := rfl

section
variable {p : Leaf → Prop}

@[simp] theorem each_matchAll : matchAll.Each p := by simp [Each, leaves]

@[simp] theorem each_leaf (clause : Leaf) : (leaf clause).Each p ↔ p clause := by
  simp [Each, leaves]

@[simp] theorem each_bool (filter must mustNot should : List Query) (atLeastOne : Bool) :
    (bool filter must mustNot should atLeastOne).Each p ↔
      (∀ q ∈ filter, q.Each p) ∧ (∀ q ∈ must, q.Each p) ∧ (∀ q ∈ mustNot, q.Each p) ∧
        ∀ q ∈ should, q.Each p := by
  simp only [Each, leaves_bool, List.mem_append, List.mem_flatMap]
  constructor
  · intro each
    exact ⟨fun q member clause inside => each clause (.inl (.inl (.inl ⟨q, member, inside⟩))),
      fun q member clause inside => each clause (.inl (.inl (.inr ⟨q, member, inside⟩))),
      fun q member clause inside => each clause (.inl (.inr ⟨q, member, inside⟩)),
      fun q member clause inside => each clause (.inr ⟨q, member, inside⟩)⟩
  · rintro ⟨filters, musts, mustNots, shoulds⟩ clause
      (((⟨q, member, inside⟩ | ⟨q, member, inside⟩) | ⟨q, member, inside⟩) | ⟨q, member, inside⟩)
    · exact filters q member clause inside
    · exact musts q member clause inside
    · exact mustNots q member clause inside
    · exact shoulds q member clause inside

@[simp] theorem each_allOf (qs : List Query) : (allOf qs).Each p ↔ ∀ q ∈ qs, q.Each p := by
  simp [allOf]

@[simp] theorem each_filter (qs : List Query) : (filter qs).Each p ↔ ∀ q ∈ qs, q.Each p := by
  simp [filter]

@[simp] theorem each_noneOf (qs : List Query) : (noneOf qs).Each p ↔ ∀ q ∈ qs, q.Each p := by
  simp [noneOf]

@[simp] theorem each_anyOf (qs : List Query) (atLeastOne : Bool) :
    (anyOf qs atLeastOne).Each p ↔ ∀ q ∈ qs, q.Each p := by simp [anyOf]

@[simp] theorem each_phrase (field value : String) :
    (phrase field value).Each p ↔ p (.matchPhrase field value none) := each_leaf _

@[simp] theorem each_hasField (field : String) :
    (hasField field).Each p ↔ p (.exists field) := each_leaf _

end

def Raised (q : Query) : Prop :=
  q.Each fun clause => ∀ boost, clause.boost? = some boost → boost.isAboveOne = true

def Unrated (q : Query) : Prop :=
  q.Each fun clause => clause.boost? = none

theorem Unrated.raised {q : Query} (unrated : q.Unrated) : q.Raised := by
  intro clause inside boost given
  rw [unrated clause inside] at given
  cases given

theorem unrated_of_keyed {kind : KeyedKind} {field : String} {clause : String → Leaf} {q : Query}
    (unrated : ∀ name, (clause name).boost? = none) (built : keyed kind field clause = .ok q) :
    q.Unrated := by
  unfold keyed at built
  obtain ⟨key, -, built⟩ := bind_eq_ok_iff.mp built
  cases key with
  | field name =>
    cases built
    exact (each_leaf _).mpr (unrated name)
  | absent =>
    cases built
    exact (each_leaf _).mpr rfl

end Query

end BondQuery
