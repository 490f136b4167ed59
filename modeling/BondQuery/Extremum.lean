import BondQuery.Error
import BondQuery.Query.Clause

/- Pinning a field to its least or greatest value, which only the engine knows. -/
namespace BondQuery

structure Lookup where
  query : Query
  field : String
  isMax : Bool
  deriving Repr

/-- How the engine answers a lookup, given the lookups before it. -/
abbrev Finder := List Lookup → Lookup → Except String Number

abbrev Found := Except Error Query × List Lookup

namespace Extremum

/-- A moment is a whole number of milliseconds; any other extremum is a 64-bit number. -/
def text (value : Number) (isDate : Bool) : Except Error String :=
  if isDate then
    let whole : Except Error Int := match value with
      | .int n => .ok n
      | .double .nan => .error .nanToInteger
      | .double (.infinite _) => .error .infiniteToInteger
      | .double x => .ok (x.truncate?.getD 0)
    do
      let n ← whole
      if isWritable n then return intText n else throw .integerTooLong
  else
    match value.toDouble? with
    | some x => .ok x.text
    | none => .error .integerTooLarge

/-- Records that hold the extremum of a field, within a scope if one is given. -/
def pinned (field : String) (isDate : Bool) (scope : Option Query) (value : Number) :
    Except Error Query := do
  let holders ← Query.matchPhrase field (← text value isDate) (.int 1)
  return match scope with
    | some s => .allOf [s, holders]
    | none => holders

def find (finder : Finder) (past : List Lookup) (field : String) (isMax isDate : Bool)
    (scope : Option Query) : Found :=
  let lookup : Lookup := ⟨scope.getD .matchAll, field, isMax⟩
  let answer : Except Error Query :=
    match finder past lookup with
    | .ok value => pinned field isDate scope value
    | .error detail => .error (.discovery field detail)
  -- recorded whether or not it was answered, and never made again
  (answer, past ++ [lookup])

def findTimeStamp (finder : Finder) (past : List Lookup) (sourceId : Option String)
    (operator : Operator) : Found :=
  let field := Property.resourceTimeStamp.name
  if operator = .min ∨ operator = .max then
    let scope := match sourceId with
      | some id => Query.phrase Property.sourceId.name id
      | none => .matchAll
    find finder past field (operator = .max) true (some scope)
  else (.error (.unsupportedOperator operator field), past)

def withFinder (finder : Option Finder) (past : List Lookup) (field : String)
    (run : Finder → Found) : Found :=
  match finder with
  | some f => run f
  | none => (.error (.discovery field "no extremum finder configured"), past)

end Extremum

end BondQuery
