import BondQuery.Console.Literal.Reading

/- Expressions with more around them than operators: names that are given, stars, expressions side
   by side, and the clauses that go through other values. -/
namespace BondQuery.Console.Literal

def assignment (call : Grammar) : Read Value := do
  let _ ← name
  mark ":="
  let _ ← call .expression
  return .computed .assignment

def unnamed (call : Grammar) : Read Value := do
  let a ← call .expression
  refuse (mark ":=")
  return a

def named (call : Grammar) : Read Value :=
  firstOf [assignment call, whenLooking (call .misnaming), unnamed call]

def assignedOrUnnamed (call : Grammar) : Read Value :=
  firstOf [assignment call, unnamed call]

def spreadOperation (call : Grammar) : Read Value := do
  mark "*"
  return (← call .bitOr).spread

def item (call : Grammar) : Read Value :=
  firstOf [spreadOperation call, named call]

def items (call : Grammar) : Read (List Value) := do
  let found ← separated (item call)
  let _ ← optionalComma
  return found

/-- What a star spreads in a call. Elsewhere it is read to find it at fault. A star with nothing to
    spread is blamed at once. -/
def spreadArgument (call : Grammar) : Read Value := do
  mark "*"
  match ← attempt (call .expression) with
  | some a => return a.spread
  | none => blame .invalidStar

def spreadExpression (call : Grammar) : Read Value :=
  firstOf [spreadOperation call, call .expression]

def sideBySide (one : Read Value) : Read Value := do
  let a ← one
  let others ← many do
    mark ","
    one
  let comma ← optionalComma
  return if others.isEmpty && !comma then a else .tuple (a :: others)

def spreadExpressions (call : Grammar) : Read Value :=
  sideBySide (call .spreadExpression)

def targets (call : Grammar) : Read Unit := do
  let _ ← separated (call .target)
  let _ ← optionalComma

def clause (call : Grammar) : Read Unit := do
  let begun ← attempt do
    let _ ← attempt (word "async")
    word "for"
    targets call
    word "in"
  match begun with
  | some _ =>
    let _ ← call .disjunction
    let _ ← many do
      word "if"
      call .disjunction
  | none =>
    whenLooking (seek [do
      let _ ← attempt (word "async")
      word "for"
      if let some form := (← spreadExpressions call).badTarget then
        blame (.unassignable form.describe)])

def clauses (call : Grammar) : Read Unit := do
  let _ ← many1 (clause call)

end BondQuery.Console.Literal
