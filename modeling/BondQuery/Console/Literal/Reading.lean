import BondQuery.Console.Literal.Token
import BondQuery.Console.Literal.Value
import Std.Data.HashMap

/- Reading tokens from the left. A reading either reads something, or finds that it is not there,
   or blames the text. Some readings are remembered: the second time at the same place they are
   not done again, even if they would now find a fault. -/
namespace BondQuery.Console.Literal

inductive Rule where
  | expression
  | spreadExpression
  | misnaming
  | disjunction
  | conjunction
  | inversion
  | bitOr
  | bitXor
  | bitAnd
  | shift
  | sum
  | term
  | factor
  | awaited
  | primary
  | texts
  | arguments
  | target
  | plainTarget
  | targetHead
  deriving DecidableEq, Repr, Hashable

structure Mark where
  rest : List Placed
  index : Nat
  depth : Nat

/-- Where a reading stands: its place, the farthest token looked at and its index, whether likely
    faults are looked for, and what is remembered. -/
structure Progress where
  mark : Mark
  farthest : Option Placed
  seen : Nat
  looking : Bool
  remembered : Std.HashMap (Rule × Nat) (Option Value × Mark)

def Progress.start (placed : List Placed) : Progress :=
  ⟨⟨placed, 0, 0⟩, none, 0, false, ∅⟩

def Progress.again (placed : List Placed) (first : Progress) : Progress :=
  { Progress.start placed with farthest := first.farthest, seen := first.seen, looking := true }

abbrev Read := OptionT (ExceptT LiteralFault (StateM Progress))

abbrev Grammar := Rule → Read Value

def mismatch {α : Type} : Read α :=
  failure

def blame {α : Type} (fault : LiteralFault) : Read α :=
  throwThe LiteralFault fault

def here : Read Mark :=
  return (← get).mark

def back (mark : Mark) : Read Unit :=
  modify fun p => { p with mark := mark }

def peek : Read Token := do
  let mark ← here
  match mark.rest with
  | [] => mismatch
  | placed :: _ =>
    modify fun p =>
      if mark.index < p.seen then p
      else { p with seen := mark.index + 1, farthest := some placed }
    match placed.token with
    | .halt fault .. => blame fault
    | token => return token

def skip : Read Unit :=
  modify fun p => match p.mark.rest with
    | [] => p
    | placed :: rest => { p with mark := ⟨rest, p.mark.index + 1, placed.depth⟩ }

def attempt {α : Type} (read : Read α) : Read (Option α) := do
  let start ← here
  let found ← (OptionT.lift read.run : Read (Option α))
  if found.isNone then back start
  return found

def firstOf {α : Type} : List (Read α) → Read α
  | [] => mismatch
  | read :: others => do
    match ← attempt read with
    | some a => return a
    | none => firstOf others

def ahead {α : Type} (read : Read α) : Read Bool := do
  let start ← here
  let found ← attempt read
  back start
  return found.isSome

def follows {α : Type} (read : Read α) : Read Unit := do
  if !(← ahead read) then mismatch

def refuse {α : Type} (read : Read α) : Read Unit := do
  if ← ahead read then mismatch

def manyUpTo {α : Type} (read : Read α) : Nat → Read (List α)
  | 0 => return []
  | n + 1 => do
    match ← attempt read with
    | none => return []
    | some a => return a :: (← manyUpTo read n)

def many {α : Type} (read : Read α) : Read (List α) := do
  manyUpTo read (← here).rest.length

def many1 {α : Type} (read : Read α) : Read (List α) := do
  let a ← read
  return a :: (← many read)

def need (token : Token) : Read Unit := do
  if (← peek) == token then skip else mismatch

def mark (text : String) : Read Unit :=
  need (.mark text)

def word (text : String) : Read Unit :=
  need (.name text)

def marks (texts : List String) : Read Unit :=
  firstOf (texts.map mark)

def separated {α : Type} (read : Read α) : Read (List α) := do
  let a ← read
  return a :: (← many (do mark ","; read))

def optionalComma : Read Bool :=
  return (← attempt (mark ",")).isSome

/-- Looks for faults: the first way to read on decides, which may be to find none. -/
def seek {α : Type} (ways : List (Read Unit)) : Read α := do
  firstOf ways
  mismatch

def whenLooking {α : Type} (read : Read α) : Read α := do
  if (← get).looking then read else mismatch

def withoutLooking {α : Type} (read : Read α) : Read α := do
  let looking := (← get).looking
  modify fun p => { p with looking := false }
  let found ← (OptionT.lift read.run : Read (Option α))
  modify fun p => { p with looking := looking }
  match found with
  | some a => return a
  | none => mismatch

/-- Reads by a rule unless it has been read at this place before. -/
def remembering (rule : Rule) (read : Read Value) : Read Value := do
  let _ ← peek
  let start ← here
  let found ← match (← get).remembered[(rule, start.index)]? with
    | some (found, behind) => do
      back behind
      pure found
    | none => do
      let found ← (OptionT.lift read.run : Read (Option Value))
      let behind ← here
      modify fun p =>
        { p with remembered := p.remembered.insert (rule, start.index) (found, behind) }
      pure found
  match found with
  | some a => return a
  | none => mismatch

def reserved : List String := [
  "False", "None", "True", "and", "as", "assert", "async", "await", "break", "class", "continue",
  "def", "del", "elif", "else", "except", "finally", "for", "from", "global", "if", "import", "in",
  "is", "lambda", "nonlocal", "not", "or", "pass", "raise", "return", "try", "while", "with",
  "yield"]

def name : Read String := do
  match ← peek with
  | .name text =>
    if reserved.contains text then mismatch
    skip
    return text
  | _ => mismatch

def quotedText : Read Quoted := do
  match ← peek with
  | .text quoted =>
    skip
    return quoted
  | _ => mismatch

end BondQuery.Console.Literal
