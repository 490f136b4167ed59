import BondQuery.Error
import BondQuery.Query.Basic

/- Building clauses. A clause that maps its field to options takes the field as a key: two
   underscores in a key stand for a point, one key is reserved, and one is an option of the
   clause itself and names no field. -/
namespace BondQuery

/-- Each pair of underscores, from the left, becomes a point. -/
def dotted : List Char → List Char
  | '_' :: '_' :: rest => '.' :: dotted rest
  | c :: rest => c :: dotted rest
  | [] => []

inductive FieldKey where
  | field (name : String)
  | absent
  deriving DecidableEq, Repr

def FieldKey.ofName (name : String) : Except Error FieldKey :=
  if name = "self" then .error .reservedField
  else if name = "_expand__to_dot" then .ok .absent
  else .ok (.field (String.ofList (dotted name.toList)))

namespace Query

def keyed (kind : KeyedKind) (field : String) (clause : String → Leaf) : Except Error Query := do
  match ← FieldKey.ofName field with
  | .field name => return leaf (clause name)
  | .absent => return leaf (.bodyless kind)

/-- The boost that a weight gives: none unless it is above one. -/
def boostOf (weight : Number) : Except Error (Option Double) :=
  if weight.isAboveOne then
    match weight.toDouble? with
    | some boost => .ok (some boost)
    | none => .error .integerTooLarge
  else .ok none

/-- A phrase on one of the fields that the library names itself; such a name is its own key. -/
def phrase (field value : String) : Query :=
  leaf (.matchPhrase field value none)

def matchPhrase (field value : String) (weight : Number) : Except Error Query := do
  let boost ← boostOf weight
  keyed .matchPhrase field (.matchPhrase · value boost)

def wildcard (field pattern : String) (weight : Number) : Except Error Query := do
  let boost ← boostOf weight
  keyed .wildcard field (.wildcard · pattern boost)

def range (field : String) (bound : Bound) (value : RangeValue) : Except Error Query :=
  keyed .range field (.range · bound value)

def term (field value : String) : Except Error Query :=
  keyed .term field (.term · value)

def terms (field : String) (values : List String) : Except Error Query :=
  keyed .terms field (.terms · values)

def geoShape (field : String) (extent : Extent) (relation : Relation) : Except Error Query :=
  keyed .geoShape field (.geoShape · extent relation)

/-- The field is a value here, not a key, and stays as it is. -/
def hasField (field : String) : Query :=
  leaf (.exists field)

def noneOf (queries : List Query) : Query :=
  bool [] [] queries [] false

def negate (query : Query) : Query :=
  noneOf [query]

def lacksField (field : String) : Query :=
  negate (hasField field)

def allOf (queries : List Query) : Query :=
  bool [] queries [] [] false

def filter (queries : List Query) : Query :=
  bool queries [] [] [] false

def anyOf (queries : List Query) (atLeastOne : Bool) : Query :=
  bool [] [] [] queries atLeastOne

def filteredAny (filters alternatives : List Query) : Query :=
  bool filters [] [] alternatives true

end Query

end BondQuery
