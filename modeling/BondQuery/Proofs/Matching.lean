import BondQuery.Proofs.Outcome
import BondQuery.Query.Clause

/- Which documents a query matches. What a leaf asks for is decided from outside, by any
   predicate, and only the boolean structure above the leaves is read here. Boosts scale a score,
   so they are no part of what a leaf asks for. -/
namespace BondQuery

inductive Condition where
  | matchPhrase (field value : String)
  | wildcard (field pattern : String)
  | range (field : String) (bound : Bound) (value : RangeValue)
  | exists (field : String)
  | term (field value : String)
  | terms (field : String) (values : List String)
  | geoShape (field : String) (extent : Extent) (relation : Relation)
  | bodyless (kind : KeyedKind)
  deriving DecidableEq, Repr

def Condition.keyed (kind : KeyedKind) (field : String) (about : String → Condition) : Condition :=
  if field = "_expand__to_dot" then .bodyless kind
  else about (String.ofList (dotted field.toList))

def Leaf.condition : Leaf → Condition
  | matchPhrase field value _ => .matchPhrase field value
  | wildcard field pattern _ => .wildcard field pattern
  | range field bound value => .range field bound value
  | .exists field => .exists field
  | term field value => .term field value
  | terms field values => .terms field values
  | geoShape field extent relation => .geoShape field extent relation
  | bodyless kind => .bodyless kind

def Listed (c : Condition) (d : List Condition) : Prop :=
  c ∈ d

instance (c : Condition) (d : List Condition) : Decidable (Listed c d) :=
  inferInstanceAs (Decidable (c ∈ d))

namespace Query
variable {Document : Type} (decides : Condition → Document → Prop) (d : Document)

mutual

/-- A boolean clause wants all of `filter` and `must`, none of `mustNot` and, when flagged, at
    least one of `should`. -/
def Matches : Query → Prop
  | matchAll => True
  | matchNone => False
  | leaf clause => decides clause.condition d
  | bool filter must mustNot should atLeastOne =>
    MatchesAll filter ∧ MatchesAll must ∧ MatchesNone mustNot ∧
      (atLeastOne = true → MatchesAny should)

def MatchesAll : List Query → Prop
  | [] => True
  | q :: rest => q.Matches ∧ MatchesAll rest

def MatchesNone : List Query → Prop
  | [] => True
  | q :: rest => ¬ q.Matches ∧ MatchesNone rest

def MatchesAny : List Query → Prop
  | [] => False
  | q :: rest => q.Matches ∨ MatchesAny rest

end

variable {decides d}

section
variable [∀ c d, Decidable (decides c d)]

mutual

def decideMatches : (q : Query) → Decidable (q.Matches decides d)
  | matchAll => .isTrue trivial
  | matchNone => .isFalse id
  | leaf clause => inferInstanceAs (Decidable (decides clause.condition d))
  | bool filter must mustNot should atLeastOne =>
    have := decideMatchesAll filter
    have := decideMatchesAll must
    have := decideMatchesNone mustNot
    have := decideMatchesAny should
    inferInstanceAs (Decidable (MatchesAll decides d filter ∧ MatchesAll decides d must ∧
      MatchesNone decides d mustNot ∧ (atLeastOne = true → MatchesAny decides d should)))

def decideMatchesAll : (qs : List Query) → Decidable (MatchesAll decides d qs)
  | [] => .isTrue trivial
  | q :: rest =>
    have := decideMatches q
    have := decideMatchesAll rest
    inferInstanceAs (Decidable (q.Matches decides d ∧ MatchesAll decides d rest))

def decideMatchesNone : (qs : List Query) → Decidable (MatchesNone decides d qs)
  | [] => .isTrue trivial
  | q :: rest =>
    have := decideMatches q
    have := decideMatchesNone rest
    inferInstanceAs (Decidable (¬ q.Matches decides d ∧ MatchesNone decides d rest))

def decideMatchesAny : (qs : List Query) → Decidable (MatchesAny decides d qs)
  | [] => .isFalse id
  | q :: rest =>
    have := decideMatches q
    have := decideMatchesAny rest
    inferInstanceAs (Decidable (q.Matches decides d ∨ MatchesAny decides d rest))

end

instance (q : Query) : Decidable (q.Matches decides d) :=
  decideMatches q

end

theorem matchesAll_iff (qs : List Query) :
    MatchesAll decides d qs ↔ ∀ q ∈ qs, q.Matches decides d := by
  induction qs with
  | nil => simp [MatchesAll]
  | cons q rest ih => simp [MatchesAll, ih]

theorem matchesNone_iff (qs : List Query) :
    MatchesNone decides d qs ↔ ∀ q ∈ qs, ¬ q.Matches decides d := by
  induction qs with
  | nil => simp [MatchesNone]
  | cons q rest ih => simp [MatchesNone, ih]

theorem matchesAny_iff (qs : List Query) :
    MatchesAny decides d qs ↔ ∃ q ∈ qs, q.Matches decides d := by
  induction qs with
  | nil => simp [MatchesAny]
  | cons q rest ih => simp [MatchesAny, ih]

@[simp] theorem matches_matchAll : matchAll.Matches decides d := trivial

@[simp] theorem not_matches_matchNone : ¬ matchNone.Matches decides d := id

@[simp] theorem matches_leaf (clause : Leaf) :
    (leaf clause).Matches decides d ↔ decides clause.condition d := Iff.rfl

@[simp] theorem matches_bool (filter must mustNot should : List Query) (atLeastOne : Bool) :
    (bool filter must mustNot should atLeastOne).Matches decides d ↔
      (∀ q ∈ filter, q.Matches decides d) ∧ (∀ q ∈ must, q.Matches decides d) ∧
      (∀ q ∈ mustNot, ¬ q.Matches decides d) ∧
      (atLeastOne = true → ∃ q ∈ should, q.Matches decides d) := by
  rw [Matches, matchesAll_iff, matchesAll_iff, matchesNone_iff, matchesAny_iff]

@[simp] theorem matches_allOf (qs : List Query) :
    (allOf qs).Matches decides d ↔ ∀ q ∈ qs, q.Matches decides d := by simp [allOf]

@[simp] theorem matches_filter (qs : List Query) :
    (filter qs).Matches decides d ↔ ∀ q ∈ qs, q.Matches decides d := by simp [filter]

@[simp] theorem matches_noneOf (qs : List Query) :
    (noneOf qs).Matches decides d ↔ ∀ q ∈ qs, ¬ q.Matches decides d := by simp [noneOf]

@[simp] theorem matches_anyOf (qs : List Query) (atLeastOne : Bool) :
    (anyOf qs atLeastOne).Matches decides d ↔
      (atLeastOne = true → ∃ q ∈ qs, q.Matches decides d) := by simp [anyOf]

@[simp] theorem matches_negate (q : Query) :
    q.negate.Matches decides d ↔ ¬ q.Matches decides d := by simp [negate]

@[simp] theorem matches_phrase (field value : String) :
    (phrase field value).Matches decides d ↔ decides (.matchPhrase field value) d := Iff.rfl

@[simp] theorem matches_hasField (field : String) :
    (hasField field).Matches decides d ↔ decides (.exists field) d := Iff.rfl

@[simp] theorem matches_lacksField (field : String) :
    (lacksField field).Matches decides d ↔ ¬ decides (.exists field) d := by simp [lacksField]

theorem matches_of_keyed {kind : KeyedKind} {field : String} {clause : String → Leaf} {q : Query}
    (built : keyed kind field clause = .ok q) :
    q.Matches decides d ↔
      decides (.keyed kind field fun name => (clause name).condition) d := by
  unfold keyed FieldKey.ofName at built
  unfold Condition.keyed
  split at built
  · cases built
  · split at built
    · rename_i absent
      cases built
      simp [absent, Leaf.condition]
    · rename_i present
      cases built
      simp [present]

theorem matches_of_matchPhrase {field value : String} {weight : Number} {q : Query}
    (built : matchPhrase field value weight = .ok q) :
    q.Matches decides d ↔ decides (.keyed .matchPhrase field (.matchPhrase · value)) d := by
  obtain ⟨boost, _, built⟩ := bind_eq_ok_iff.mp built
  exact matches_of_keyed built

theorem matches_of_wildcard {field pattern : String} {weight : Number} {q : Query}
    (built : wildcard field pattern weight = .ok q) :
    q.Matches decides d ↔ decides (.keyed .wildcard field (.wildcard · pattern)) d := by
  obtain ⟨boost, _, built⟩ := bind_eq_ok_iff.mp built
  exact matches_of_keyed built

theorem matches_of_range {field : String} {bound : Bound} {value : RangeValue} {q : Query}
    (built : range field bound value = .ok q) :
    q.Matches decides d ↔ decides (.keyed .range field (.range · bound value)) d :=
  matches_of_keyed built

theorem matches_of_geoShape {field : String} {extent : Extent} {relation : Relation} {q : Query}
    (built : geoShape field extent relation = .ok q) :
    q.Matches decides d ↔ decides (.keyed .geoShape field (.geoShape · extent relation)) d :=
  matches_of_keyed built

end Query

end BondQuery
