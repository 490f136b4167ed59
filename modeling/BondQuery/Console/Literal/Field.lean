import BondQuery.Console.Literal.Escape
import BondQuery.Console.Literal.Token

/- Texts with fields that are filled in. A field is an expression in braces, with a conversion or
   a form behind it; the form is such a text again, but only once. A brace that is doubled stands
   for itself. How the expression of a field is read is left open. -/
namespace BondQuery.Console.Literal

def fieldFault {α : Type} (fault : FieldFault) : Except LiteralFault α :=
  throw (.field fault)

/-- Fields within each other, at most. -/
def maxFields : Nat := 2

def isBrace (c : Char) : Bool :=
  c == '\x7b' || c == '\x7d'

/-- What ends a piece of text at a brace: nothing but the brace, or within no form also a doubled
    brace, of which one belongs to the piece. -/
def endPiece (within : Bool) (c : Char) (rest : List Char) :
    Except LiteralFault (List Char × Bool × List Char) :=
  if within then .ok ([], false, c :: rest)
  else if rest.head? == some c then .ok ([c], true, rest.drop 1)
  else if c == '\x7d' then fieldFault .straySingle
  else .ok ([], false, c :: rest)

def escapeLength (cs : List Char) : Nat :=
  match cs with
  | 'N' :: '\x7b' :: rest => 2 + min rest.length ((rest.takeWhile (· != '\x7d')).length + 1)
  | 'N' :: rest => 1 + min rest.length 1
  | c :: _ => if isBrace c then 0 else 1
  | [] => 0

def takePiece (raw within : Bool) (fuel : Nat) (cs : List Char) :
    Except LiteralFault (List Char × Bool × List Char) :=
  match fuel, cs with
  | 0, _ | _, [] => .ok ([], false, cs)
  | fuel + 1, c :: rest =>
    if isBrace c then endPiece within c rest
    else do
      let n := if c == '\\' && !raw then escapeLength rest else 0
      let (piece, doubled, behind) ← takePiece raw within fuel (rest.drop n)
      return (c :: rest.take n ++ piece, doubled, behind)

def fieldEnds : List Char := ['!', ':', '\x7d', '=', '>', '<']

def comparedWith : List Char := ['!', '=', '<', '>']

structure Surroundings where
  quote : Option (Bool × Char)
  brackets : List Char

/-- Steps over characters of an expression within given surroundings, and says how many they are.
    None if the expression ends before them. -/
def Surroundings.step (s : Surroundings) (c : Char) (rest : List Char) :
    Except LiteralFault (Option (Nat × Surroundings)) :=
  if c == '\\' then fieldFault .backslash
  else match s.quote with
    | some (long, q) =>
      .ok (if c != q then some (1, s)
        else if !long then some (1, { s with quote := none })
        else if [q, q].isPrefixOf rest then some (3, { s with quote := none })
        else some (1, s))
    | none =>
      if c == '\'' || c == '"' then
        .ok (if [c, c].isPrefixOf rest then some (3, { s with quote := some (true, c) })
          else some (1, { s with quote := some (false, c) }))
      else if bracketPairs.any (·.2 == c) then
        if maxBrackets ≤ s.brackets.length then fieldFault .tooManyBrackets
        else .ok (some (1, { s with brackets := c :: s.brackets }))
      else if c == '#' then fieldFault .comment
      else if s.brackets.isEmpty && fieldEnds.contains c then
        .ok (if comparedWith.contains c && rest.head? == some '=' then some (2, s)
          else if c == '<' || c == '>' then some (1, s)
          else none)
      else match bracketPairs.lookup c, s.brackets with
        | none, _ => .ok (some (1, s))
        | some _, [] => fieldFault (.unmatched c)
        | some wanted, latest :: before =>
          if latest == wanted then .ok (some (1, { s with brackets := before }))
          else fieldFault (.mismatched c latest)

def Surroundings.finish (s : Surroundings) : Except LiteralFault Unit :=
  if s.quote.isSome then fieldFault .openText
  else match s.brackets with
    | latest :: _ => fieldFault (.unmatched latest)
    | [] => .ok ()

def takeExpression (fuel : Nat) (s : Surroundings) (cs : List Char) :
    Except LiteralFault (List Char × List Char) :=
  match fuel, cs with
  | 0, _ | _, [] => s.finish.map fun _ => ([], cs)
  | fuel + 1, c :: rest => do
    match ← s.step c rest with
    | none => return ([], c :: rest)
    | some (n, inner) =>
      let (inside, behind) ← takeExpression fuel inner ((c :: rest).drop n)
      return ((c :: rest).take n ++ inside, behind)

def isFieldBlank (c : Char) : Bool :=
  c == ' ' || c == '\t' || c == '\n' || c == '\x0c'

def isEqualsBlank (c : Char) : Bool :=
  isFieldBlank c || c == '\x0b' || c == '\x0d'

def checkExpression (read : List Char → Except LiteralFault Unit) (inside : List Char)
    (ending : Char) : Except LiteralFault Unit :=
  if inside.all isFieldBlank then
    fieldFault (if ending == '\x7d' then .empty else .emptyBefore ending)
  else read (['('] ++ inside ++ [')'])

def skipConversion (cs : List Char) : Except LiteralFault (List Char) :=
  match cs with
  | ['!'] => fieldFault .noEnd
  | '!' :: c :: rest =>
    if c == 's' || c == 'r' || c == 'a' then .ok rest else fieldFault .conversion
  | _ => .ok cs

mutual

/-- Checks a text with fields up to its end, or in a form to a closing brace. Gives what follows. -/
def checkFilled (read : List Char → Except LiteralFault Unit) (raw : Bool) (level fuel : Nat)
    (cs : List Char) : Except LiteralFault (List Char) :=
  match fuel with
  | 0 => .ok cs
  | fuel + 1 => do
    let (piece, doubled, behind) ← takePiece raw (level ≠ 0) (cs.length + 1) cs
    if !raw then
      if let some fault := escapeFault? piece then throw fault
    if doubled then checkFilled read raw level fuel behind
    else match behind with
      | '\x7b' :: rest => do checkFilled read raw level fuel (← checkField read raw level fuel rest)
      | rest =>
        if level ≠ 0 && rest.isEmpty then fieldFault .noEnd
        return rest

def checkField (read : List Char → Except LiteralFault Unit) (raw : Bool) (level fuel : Nat)
    (cs : List Char) : Except LiteralFault (List Char) :=
  match fuel with
  | 0 => .ok cs
  | fuel + 1 => do
    if maxFields ≤ level then fieldFault .tooDeep
    let (inside, behind) ← takeExpression (cs.length + 1) ⟨none, []⟩ cs
    match behind with
    | [] => fieldFault .noEnd
    | ending :: more =>
      checkExpression read inside ending
      let shown := if ending == '=' then more.dropWhile isEqualsBlank else behind
      if shown.isEmpty then fieldFault .noEnd
      match ← skipConversion shown with
      | ':' :: form =>
        if form.isEmpty then fieldFault .noEnd
        match ← checkFilled read raw (level + 1) fuel form with
        | '\x7d' :: rest => return rest
        | _ => fieldFault .noEnd
      | '\x7d' :: rest => return rest
      | _ => fieldFault .noEnd

end

def checkEscapes (q : Quoted) : Except LiteralFault Unit := do
  if q.bytes && q.body.any isWide then throw .wideBytes
  if !q.raw then
    if let some fault := if q.bytes then byteEscapeFault? 0 q.body else escapeFault? q.body then
      throw fault

/-- Checks texts side by side from the left; all of them or none are bytes, which is looked at
    before the fields of a text but after its escapes. -/
def checkTexts (read : List Char → Except LiteralFault Unit) (texts : List Quoted) :
    Except LiteralFault Unit :=
  texts.forM fun q => do
    if !q.filled then checkEscapes q
    if texts.head?.any (·.bytes != q.bytes) then throw .mixedTexts
    if q.filled then
      let _ ← checkFilled read q.raw 0 (2 * q.body.length + 2) q.body

end BondQuery.Console.Literal
