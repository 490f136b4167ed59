import BondQuery.Console.Literal.Reading

/- Operators, the loosest first. A rule reads its operators with the tighter rules as what they
   join; each is made of the readings of all rules. -/
namespace BondQuery.Console.Literal

def joinedBy (join : Token → Value → Value → Value) (operators : List Token)
    (operand : Read Value) : Nat → Value → Read Value
  | 0, a => return a
  | n + 1, a => do
    let joined ← attempt do
      let t ← peek
      if !operators.contains t then mismatch
      skip
      return join t a (← operand)
    match joined with
    | some b => joinedBy join operators operand n b
    | none => return a

def joined (join : Token → Value → Value → Value) (operators : List Token) (operand : Read Value) :
    Read Value := do
  let a ← operand
  joinedBy join operators operand (← here).rest.length a

def asOperation (_ : Token) (_ _ : Value) : Value :=
  .computed .operation

def joinedSum (operator : Token) (a b : Value) : Value :=
  if operator == .mark "+" || operator == .mark "-" then a.sum b else .computed .operation

def inversion (call : Grammar) : Read Value :=
  firstOf [
    do
      word "not"
      let _ ← call .inversion
      return .computed .operation,
    comparison]
where
  comparison : Read Value := do
    let a ← call .bitOr
    match ← many comparedWith with
    | [] => return a
    | within :: _ => return a.compared within
  comparedWith : Read Bool :=
    firstOf ((["==", "!=", "<=", "<", ">=", ">"].map fun m => compared (mark m) false) ++ [
      compared (do word "not"; word "in") false,
      compared (word "in") true,
      compared (do word "is"; word "not") false,
      compared (word "is") false])
  compared (operator : Read Unit) (within : Bool) : Read Bool := do
    operator
    let _ ← call .bitOr
    return within

def factor (call : Grammar) : Read Value :=
  firstOf [
    do
      marks ["+", "-"]
      return (← call .factor).signed,
    do
      mark "~"
      let _ ← call .factor
      return .computed .operation,
    do
      let a ← call .awaited
      let exponent ← attempt do
        mark "**"
        call .factor
      return if exponent.isSome then .computed .operation else a]

def awaited (call : Grammar) : Read Value :=
  firstOf [
    do
      word "await"
      let _ ← call .primary
      return .computed .awaiting,
    call .primary]

end BondQuery.Console.Literal
