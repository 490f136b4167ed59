import BondQuery.Console.Literal.Call
import BondQuery.Console.Literal.Display
import BondQuery.Console.Literal.Field
import BondQuery.Console.Literal.Function
import BondQuery.Console.Literal.Operation

/- The rules by which expressions are read, each made of the readings of all of them. -/
namespace BondQuery.Console.Literal

def constantNames : List String := ["True", "False", "None"]

def constant : Read Value :=
  firstOf (constantNames.map fun c => do
    word c
    return .constant (.constant c))

def number : Read Value := do
  match ← peek with
  | .number imaginary excess =>
    skip
    match excess with
    | some digits => blame (.tooManyDigits digits)
    | none => return .ofNumber imaginary false
  | _ => mismatch

def atom (call : Grammar) : Read Value :=
  firstOf [
    do return .place (.name (← name)),
    constant,
    do
      follows quotedText
      call .texts,
    number,
    do
      follows (mark "(")
      parenthesized call,
    do
      follows (mark "\x7b")
      braced call,
    do
      mark "..."
      return .constant .ellipsis]

def texts (check : List Quoted → Except LiteralFault Unit) : Read Value := do
  let found ← many1 quotedText
  match check found with
  | .error fault => blame fault
  | .ok _ =>
    return if found.any (·.filled) then .computed .filledText else .constant .literal

def callArguments (call : Grammar) : Read Bool := do
  mark "("
  let found ← attempt (call .arguments)
  mark ")"
  return found.isSome

def selection (call : Grammar) (a : Value) : Read Value :=
  firstOf [
    do
      mark "."
      let _ ← name
      return .place .member,
    do
      let _ ← generator call
      return .computed .call,
    do return a.called (← callArguments call)]

def selections (call : Grammar) : Nat → Value → Read Value
  | 0, a => return a
  | n + 1, a => do
    match ← attempt (selection call a) with
    | some b => selections call n b
    | none => return a

def primary (call : Grammar) : Read Value := do
  let a ← atom call
  selections call (← here).rest.length a

def targetHead (call : Grammar) : Read Value := do
  let more := follows (marks ["(", "."])
  let a ← atom call
  more
  let _ ← many do
    let _ ← selection call a
    more
  return .computed .call

def plainTarget (call : Grammar) : Read Value :=
  firstOf [
    do
      let _ ← call .targetHead
      mark "."
      let _ ← name
      refuse (marks ["(", "."])
      return .place .member,
    do return .place (.name (← name)),
    do
      mark "("
      let a ← call .plainTarget
      mark ")"
      return a,
    do
      mark "("
      let _ ← attempt several
      mark ")"
      return .tuple []]
where
  several : Read Unit :=
    firstOf [
      do
        let _ ← call .target
        let _ ← many1 do
          mark ","
          call .target
        let _ ← optionalComma,
      do
        let _ ← call .target
        mark ","]

def target (call : Grammar) : Read Value :=
  firstOf [
    do
      mark "*"
      refuse (mark "*")
      return (← call .target).spread,
    call .plainTarget]

def misnaming (call : Grammar) : Read Value :=
  let assigned := marks ["=", ":="]
  seek [
    do
      let a ← call .expression
      mark ":="
      let _ ← call .expression
      blame (.renamed a.form.describe),
    do
      let _ ← name
      mark "="
      let _ ← call .bitOr
      refuse assigned
      blame .equalsSign,
    do
      refuse (firstOf [tuple call, generator call, constant])
      let a ← call .bitOr
      mark "="
      let _ ← call .bitOr
      refuse assigned
      blame (.assigned a.form.describe)]

def bareCalls : List String := ["print", "exec"]

def Value.isBareCall (v : Value) : Bool :=
  bareCalls.any fun n => v.form = .name n

/-- Words that may begin a statement; another value may follow them and any beginning of them. -/
def statementWords : List String := ["_", "case", "match"]

def statementWord : Read Unit := do
  let found ← name
  if !statementWords.any fun w => found.toList.isPrefixOf w.toList then mismatch

def seekComma (call : Grammar) (plain : Read Value) : Read Value :=
  seek [
    do
      refuse do
        let _ ← name
        let _ ← quotedText
      refuse statementWord
      let a ← call .disjunction
      let _ ← withoutLooking plain
      if !a.isBareCall && (← here).depth ≠ 0 then blame .missingComma,
    do
      let _ ← call .disjunction
      word "if"
      let _ ← call .disjunction
      refuse (firstOf [word "else", mark ":"])
      blame .missingElse]

def seekBareCall (call : Grammar) : Read Value :=
  seek [do
    let found ← name
    refuse (mark "(")
    let _ ← spreadExpressions call
    if bareCalls.contains found then blame (.bareCall found)]

def expressions (call : Grammar) : List (Read Value) := [
  do
    let _ ← call .disjunction
    word "if"
    let _ ← call .disjunction
    word "else"
    let _ ← call .expression
    return .computed .conditional,
  call .disjunction,
  function call]

def expression (call : Grammar) : Read Value :=
  firstOf (whenLooking (seekComma call (firstOf (expressions call))) ::
    whenLooking (seekBareCall call) :: expressions call)

/-- The reading of each rule from the readings of all. -/
def rule (check : List Quoted → Except LiteralFault Unit) (call : Grammar) : Grammar
  | .expression => expression call
  | .spreadExpression => spreadExpression call
  | .misnaming => misnaming call
  | .disjunction => joined asOperation [.name "or"] (call .conjunction)
  | .conjunction => joined asOperation [.name "and"] (call .inversion)
  | .inversion => inversion call
  | .bitOr => joined asOperation [.mark "|"] (call .bitXor)
  | .bitXor => joined asOperation [.mark "^"] (call .bitAnd)
  | .bitAnd => joined asOperation [.mark "&"] (call .shift)
  | .shift => joined asOperation [.mark "<<", .mark ">>"] (call .sum)
  | .sum => joined joinedSum [.mark "+", .mark "-"] (call .term)
  | .term =>
    joined asOperation (["*", "/", "//", "%", "@"].map .mark) (call .factor)
  | .factor => factor call
  | .awaited => awaited call
  | .primary => primary call
  | .texts => texts check
  | .arguments => arguments call
  | .target => target call
  | .plainTarget => plainTarget call
  | .targetHead => targetHead call

/-- Readings by the rules, which are within each other up to a depth. -/
def grammar (check : List Quoted → Except LiteralFault Unit) : Nat → Grammar
  | 0, _ => mismatch
  | depth + 1, r => remembering r (rule check (grammar check depth) r)

end BondQuery.Console.Literal
