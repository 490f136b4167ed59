import BondQuery.Console.Literal.Clause

/- The arguments of a call: first those by position, then those by name. -/
namespace BondQuery.Console.Literal

structure Arguments where
  positional : Nat
  spreadsTable : Bool

inductive LateArgument where
  | named
  | spread
  | spreadTable
  deriving DecidableEq

def Arguments.of (positional : Nat) (late : List LateArgument) : Arguments :=
  ⟨positional + late.count .spread, late.contains .spreadTable⟩

def argument (call : Grammar) : Read Unit :=
  firstOf [
    do let _ ← spreadArgument call,
    do
      let _ ← assignedOrUnnamed call
      refuse (mark "=")]

def seekKeyword {α : Type} (call : Grammar) : Read α :=
  seek [
    do
      let constant ← firstOf (["True", "False", "None"].map fun c => do
        word c
        return c)
      mark "="
      blame (.unassignable constant),
    do
      let _ ← name
      mark "="
      let _ ← call .expression
      clauses call
      blame .equalsSign,
    do
      refuse do
        let _ ← name
        mark "="
      let _ ← call .expression
      mark "="
      blame .assignedArgument]

def namedArgument (call : Grammar) : Read LateArgument :=
  firstOf [
    whenLooking (seekKeyword call),
    do
      let _ ← name
      mark "="
      let _ ← call .expression
      return .named]

def namedOrSpread (call : Grammar) : Read LateArgument :=
  firstOf [
    namedArgument call,
    do
      let _ ← spreadArgument call
      return .spread]

def namedOrTable (call : Grammar) : Read LateArgument :=
  firstOf [
    namedArgument call,
    do
      mark "**"
      let _ ← call .expression
      return .spreadTable]

def lateArguments (call : Grammar) : Read (List LateArgument) :=
  firstOf [
    do
      let before ← separated (namedOrSpread call)
      mark ","
      return before ++ (← separated (namedOrTable call)),
    separated (namedOrSpread call),
    separated (namedOrTable call)]

def argumentList (call : Grammar) : Read Arguments :=
  firstOf [
    do
      let positional ← separated (argument call)
      let late ← attempt do
        mark ","
        lateArguments call
      return .of positional.length (late.getD []),
    do return .of 0 (← lateArguments call)]

def seekArguments {α : Type} (call : Grammar) : Read α :=
  let bare := do
    let _ ← call .expression
    clauses call
  seek [
    do
      let _ ← firstOf [
        do
          let _ ← separated (argument call)
          mark ","
          lateArguments call,
        lateArguments call]
      mark ","
      let _ ← separated do
        let _ ← spreadArgument call
        refuse (mark "=")
      blame .lateStar,
    do
      bare
      mark ","
      let _ ← attempt (firstOf [do let _ ← argumentList call, bare])
      blame .bareGenerator,
    do
      let _ ← name
      mark "="
      bare
      blame .equalsSign,
    do
      let found ← argumentList call
      clauses call
      if 1 < found.positional then blame .bareGenerator,
    do
      let _ ← argumentList call
      mark ","
      bare
      blame .bareGenerator,
    do
      let found ← argumentList call
      mark ","
      let _ ← argumentList call
      blame (if found.spreadsTable then .lateAfterTable else .latePositional)]

def arguments (call : Grammar) : Read Value :=
  firstOf [
    do
      let _ ← argumentList call
      let _ ← optionalComma
      follows (mark ")")
      return .computed .call,
    whenLooking (seekArguments call)]

end BondQuery.Console.Literal
