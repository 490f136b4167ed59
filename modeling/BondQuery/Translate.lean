import BondQuery.Calendar.Moment
import BondQuery.Number.Read
import BondQuery.Query.Clause
import BondQuery.Ranking

/- The clause of a single predicate: of a property by its operator, and of the bounding box by
   a spatial relation. -/
namespace BondQuery.Translate

/-- Hyphens before digits of any kind, and nothing else: a count of milliseconds. -/
def isCount (cs : List Char) : Bool :=
  let digits := cs.dropWhile (· == '-')
  digits ≠ [] && digits.all Text.isDigit

def valueOfInt (cs : List Char) : Except ValueFault RangeValue :=
  match readInt cs with
  | .ok n => .ok (.number (.int n))
  | .error .malformed => .error (.noInteger (String.ofList cs))
  | .error (.tooManyDigits count) => .error (.tooManyDigits count)

def valueOfDate (cs : List Char) : Except ValueFault RangeValue :=
  let trimmed := Text.trim cs
  if isCount trimmed then valueOfInt trimmed
  else
    match Calendar.readMillis (trimmed.flatMap fun c => if c == 'Z' then "+00:00".toList else [c]) with
    | .ok millis => .ok (.number (.int millis))
    | .error fault => .error (.calendar fault)

def valueOf (type : ContentType) (value : String) : Except ValueFault RangeValue :=
  let cs := value.toList
  match type with
  | .integer | .long => valueOfInt cs
  | .double =>
    match readDouble? cs with
    | some x => .ok (.number (.double x))
    | none => .error (.noNumber value)
  | .date | .dateTime => valueOfDate cs
  | .text | .boolean => .ok (.text value)

def rangeValue (property : Property) (value : String) : Except Error RangeValue :=
  (valueOf property.contentType value).mapError (.value property.name value)

def boundOf? : Operator → Option Bound
  | .greater => some .gt
  | .greaterOrEqual => some .gte
  | .less => some .lt
  | .lessOrEqual => some .lte
  | _ => none

/-- The clause of a predicate over a property. Only equality and likeness are weighed. -/
def property (ranking : Ranking) (property : Property) (operator : Operator) (value : String) :
    Except Error Query :=
  let field := property.name
  match operator with
  | .exists => .ok (.hasField field)
  | .notExists => .ok (.lacksField field)
  | .equal => Query.matchPhrase field value (ranking.weight field)
  | .notEqual => (Query.matchPhrase field value (ranking.weight field)).map .negate
  | .like => Query.wildcard field value (ranking.weight field)
  | other =>
    match boundOf? other with
    | some bound => do Query.range field bound (← rangeValue property value)
    | none => .error (.unsupportedOperator operator field)

/-- A relation is said of the extent: it contains the records contained in it, and lies within
    those that contain it. -/
def relationOf? : Operator → Option Relation
  | .bbox => some .intersects
  | .intersects => some .intersects
  | .contained => some .contains
  | .contains => some .within
  | .disjoint => some .disjoint
  | _ => none

def spatial (property : Property) (operator : Operator) (extent : Extent) : Except Error Query :=
  match relationOf? operator with
  | some relation => Query.geoShape property.name extent relation
  | none => .error (.unsupportedRelation operator)

def subject (ranking : Ranking) (operator : Operator) (value : String) : Except Error Query := do
  let keyword ← property ranking .keyword operator value
  let topic ← property ranking .topicCategory operator value
  return .anyOf [keyword, topic] true

end BondQuery.Translate
