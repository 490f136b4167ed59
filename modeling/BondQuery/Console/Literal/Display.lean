import BondQuery.Console.Literal.Clause

/- What stands in parentheses and braces. -/
namespace BondQuery.Console.Literal

def tuple (call : Grammar) : Read Value := do
  mark "("
  let found ← attempt do
    let first ← item call
    mark ","
    let others ← attempt (items call)
    return first :: others.getD []
  mark ")"
  return .tuple (found.getD [])

def yielding (call : Grammar) : Read Value := do
  word "yield"
  firstOf [
    do
      word "from"
      let _ ← call .expression,
    do let _ ← attempt (spreadExpressions call)]
  return .computed .yielding

def group (call : Grammar) : Read Value :=
  firstOf [
    do
      mark "("
      let a ← firstOf [yielding call, named call]
      mark ")"
      return a,
    whenLooking (seek [
      do
        mark "("
        let _ ← spreadArgument call
        mark ")"
        blame .starredGroup,
      do
        mark "("
        mark "**"
        let _ ← call .expression
        mark ")"
        blame .doubleStarredGroup])]

def seekComprehension {α : Type} (call : Grammar) : Read α :=
  seek [
    do
      marks ["(", "\x7b"]
      let _ ← spreadArgument call
      clauses call
      blame .starredComprehension,
    do
      mark "\x7b"
      let _ ← item call
      mark ","
      let _ ← items call
      clauses call
      blame .bareComprehension,
    do
      mark "\x7b"
      let _ ← item call
      mark ","
      clauses call
      blame .bareComprehension]

def generator (call : Grammar) : Read Value :=
  firstOf [
    do
      mark "("
      let _ ← assignedOrUnnamed call
      clauses call
      mark ")"
      return .computed .generator,
    whenLooking (seekComprehension call)]

def pair (call : Grammar) : Read Entry := do
  let key ← call .expression
  mark ":"
  return ⟨some key, ← call .expression⟩

def entry (call : Grammar) : Read Entry :=
  firstOf [
    do
      mark "**"
      return ⟨none, ← call .bitOr⟩,
    pair call]

def keysWithoutValue (call : Grammar) : List (Read Unit) := [
  do
    let _ ← call .expression
    mark ":"
    mark "*"
    let _ ← call .bitOr
    blame .starredValue,
  do
    let _ ← call .expression
    mark ":"
    follows (marks ["\x7d", ","])
    blame .missingValue]

def keyWithoutColon (call : Grammar) : Read Unit := do
  let _ ← call .expression
  refuse (mark ":")
  blame .missingColon

/-- A table. Its entries are looked at even on a first reading. -/
def table (call : Grammar) : Read Value :=
  firstOf [
    do
      mark "\x7b"
      let entries ← attempt do
        let found ← separated (entry call)
        let _ ← optionalComma
        return found
      mark "\x7d"
      return .table (entries.getD []),
    do
      mark "\x7b"
      let behindEntries := do
        let _ ← separated (entry call)
        mark ","
        seek (keyWithoutColon call :: keysWithoutValue call)
      seek (behindEntries :: keysWithoutValue call)]

def set (call : Grammar) : Read Value := do
  mark "\x7b"
  let found ← items call
  mark "\x7d"
  return .set found

def tableComprehension (call : Grammar) : Read Value :=
  firstOf [
    do
      mark "\x7b"
      let _ ← pair call
      clauses call
      mark "\x7d"
      return .computed .tableComprehension,
    whenLooking (seek [do
      mark "\x7b"
      mark "**"
      let _ ← call .bitOr
      clauses call
      mark "\x7d"
      blame .doubleStarredComprehension])]

def setComprehension (call : Grammar) : Read Value :=
  firstOf [
    do
      mark "\x7b"
      let _ ← named call
      clauses call
      mark "\x7d"
      return .computed .setComprehension,
    whenLooking (seekComprehension call)]

def parenthesized (call : Grammar) : Read Value :=
  firstOf [tuple call, group call, generator call]

def braced (call : Grammar) : Read Value :=
  firstOf [table call, set call, tableComprehension call, setComprehension call]

end BondQuery.Console.Literal
