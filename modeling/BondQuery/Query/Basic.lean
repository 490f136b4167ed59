import BondQuery.Bond.Expression
import BondQuery.Json.Basic

/- Queries of the search engine: leaf clauses over one field, joined by boolean clauses. -/
namespace BondQuery

inductive Bound where
  | gt
  | gte
  | lt
  | lte
  deriving DecidableEq, Repr

def Bound.name : Bound → String
  | gt => "gt"
  | gte => "gte"
  | lt => "lt"
  | lte => "lte"

inductive Relation where
  | intersects
  | contains
  | within
  | disjoint
  deriving DecidableEq, Repr

def Relation.name : Relation → String
  | intersects => "intersects"
  | contains => "contains"
  | within => "within"
  | disjoint => "disjoint"

/-- What a range compares with; properties without a numeric type compare texts. -/
inductive RangeValue where
  | number (value : Number)
  | text (value : String)
  deriving DecidableEq, Repr

inductive KeyedKind where
  | matchPhrase
  | wildcard
  | range
  | term
  | terms
  | geoShape
  deriving DecidableEq, Repr

def KeyedKind.name : KeyedKind → String
  | matchPhrase => "match_phrase"
  | wildcard => "wildcard"
  | range => "range"
  | term => "term"
  | terms => "terms"
  | geoShape => "geo_shape"

/-- Clauses over one field. A boost scales the score and never decides a match. -/
inductive Leaf where
  | matchPhrase (field value : String) (boost : Option Double)
  | wildcard (field pattern : String) (boost : Option Double)
  | range (field : String) (bound : Bound) (value : RangeValue)
  | exists (field : String)
  | term (field value : String)
  | terms (field : String) (values : List String)
  | geoShape (field : String) (extent : Extent) (relation : Relation)
  | bodyless (kind : KeyedKind)
  deriving DecidableEq, Repr

/-- A boolean clause asks for all of `filter` and `must`, none of `mustNot`, and, when flagged,
    one of `should`. -/
inductive Query where
  | matchAll
  | matchNone
  | leaf (clause : Leaf)
  | bool (filter must mustNot should : List Query) (atLeastOne : Bool)
  deriving Repr, Inhabited

@[elab_as_elim, induction_eliminator]
theorem Query.clause_induction {motive : Query → Prop} (matchAll : motive .matchAll)
    (matchNone : motive .matchNone) (leaf : ∀ clause, motive (.leaf clause))
    (bool : ∀ filter must mustNot should atLeastOne, (∀ q ∈ filter, motive q) →
      (∀ q ∈ must, motive q) → (∀ q ∈ mustNot, motive q) → (∀ q ∈ should, motive q) →
      motive (.bool filter must mustNot should atLeastOne)) :
    ∀ q, motive q
  | .matchAll => matchAll
  | .matchNone => matchNone
  | .leaf clause => leaf clause
  | .bool filter must mustNot should atLeastOne =>
    bool filter must mustNot should atLeastOne
      (fun q _ => clause_induction matchAll matchNone leaf bool q)
      (fun q _ => clause_induction matchAll matchNone leaf bool q)
      (fun q _ => clause_induction matchAll matchNone leaf bool q)
      (fun q _ => clause_induction matchAll matchNone leaf bool q)
termination_by q => sizeOf q
decreasing_by
  all_goals
    rename_i member
    have smaller := List.sizeOf_lt_of_mem member
    rw [Query.bool.sizeOf_spec]
    omega

def Number.toJson : Number → Json
  | int n => .int n
  | double x => .double x

def RangeValue.toJson : RangeValue → Json
  | number n => n.toJson
  | text s => .string s

def Extent.toJson (e : Extent) : Json :=
  .object [("type", .string "envelope"), ("coordinates", .array [
    .array [e.west.toJson, e.north.toJson], .array [e.east.toJson, e.south.toJson]])]

def boostFields : Option Double → List (String × Json)
  | some boost => [("boost", .double boost)]
  | none => []

def KeyedKind.body (kind : KeyedKind) (field : String) (options : Json) : Json :=
  .field kind.name (.field field options)

def Leaf.toJson : Leaf → Json
  | matchPhrase field value boost =>
    KeyedKind.matchPhrase.body field (.object (("query", .string value) :: boostFields boost))
  | wildcard field pattern boost =>
    KeyedKind.wildcard.body field (.object (("value", .string pattern) :: boostFields boost))
  | range field bound value => KeyedKind.range.body field (.field bound.name value.toJson)
  | .exists field => .field "exists" (.field "field" (.string field))
  | term field value => KeyedKind.term.body field (.string value)
  | terms field values => KeyedKind.terms.body field (.ofStrings values)
  | geoShape field extent relation =>
    KeyedKind.geoShape.body field
      (.object [("shape", extent.toJson), ("relation", .string relation.name)])
  | bodyless kind => .field kind.name (.object [])

def clauseFields (name : String) : List Json → List (String × Json)
  | [] => []
  | items => [(name, .array items)]

mutual

def Query.toJson : Query → Json
  | matchAll => .field "match_all" (.object [])
  | matchNone => .field "match_none" (.object [])
  | leaf clause => clause.toJson
  | bool filter must mustNot should atLeastOne =>
    .field "bool" (.object (
      clauseFields "filter" (Query.listToJson filter) ++
      clauseFields "must" (Query.listToJson must) ++
      clauseFields "must_not" (Query.listToJson mustNot) ++
      clauseFields "should" (Query.listToJson should) ++
      if atLeastOne then [("minimum_should_match", .string "1")] else []))

def Query.listToJson : List Query → List Json
  | [] => []
  | q :: rest => q.toJson :: Query.listToJson rest

end

end BondQuery
