import BondQuery.Bond.Property
import BondQuery.Number.Basic

/- Bond expressions: predicates over properties and extents, joined by AND, OR and NOT. -/
namespace BondQuery

/-- What a bond asks of its property. The last two select an extremum and the six before them
    relate extents, so neither kind has a value to compare with. -/
inductive Operator where
  | equal
  | notEqual
  | greater
  | greaterOrEqual
  | less
  | lessOrEqual
  | like
  | exists
  | notExists
  | bbox
  | intersects
  | contained
  | contains
  | disjoint
  | intersectsAnyPointNotContains
  | min
  | max
  deriving DecidableEq, Repr

def Operator.name : Operator → String
  | equal => "EQUAL"
  | notEqual => "NOT_EQUAL"
  | greater => "GREATER"
  | greaterOrEqual => "GREATER_OR_EQUAL"
  | less => "LESS"
  | lessOrEqual => "LESS_OR_EQUAL"
  | like => "LIKE"
  | .exists => "EXISTS"
  | notExists => "NOT_EXISTS"
  | bbox => "BBOX"
  | intersects => "INTERSECTS"
  | contained => "CONTAINED"
  | contains => "CONTAINS"
  | disjoint => "DISJOINT"
  | intersectsAnyPointNotContains => "INTERSECTS_ANY_POINT_NOT_CONTAINS"
  | min => "MIN"
  | max => "MAX"

inductive Connective where
  | and
  | or
  | not
  deriving DecidableEq, Repr

def Connective.name : Connective → String
  | and => "AND"
  | or => "OR"
  | not => "NOT"

structure Extent where
  west : Number
  south : Number
  east : Number
  north : Number
  deriving DecidableEq, Repr

inductive Expression where
  | bond (property : Property) (operator : Operator) (value : String)
  | spatial (property : Property) (operator : Operator) (extent : Extent)
  | logical (connective : Connective) (operands : List Expression)
  deriving Repr

@[elab_as_elim, induction_eliminator]
theorem Expression.operand_induction {motive : Expression → Prop}
    (bond : ∀ property operator value, motive (.bond property operator value))
    (spatial : ∀ property operator extent, motive (.spatial property operator extent))
    (logical : ∀ connective operands, (∀ e ∈ operands, motive e) →
      motive (.logical connective operands)) :
    ∀ e, motive e
  | .bond property operator value => bond property operator value
  | .spatial property operator extent => spatial property operator extent
  | .logical connective operands =>
    logical connective operands fun e _ => operand_induction bond spatial logical e

inductive ArityFault where
  | notExactlyOne
  | noOperand (connective : Connective)
  deriving DecidableEq, Repr

def Expression.join (connective : Connective) (operands : List Expression) :
    Except ArityFault Expression :=
  if connective = .not ∧ operands.length ≠ 1 then .error .notExactlyOne
  else if operands = [] then .error (.noOperand connective)
  else .ok (.logical connective operands)

end BondQuery
