import BondQuery.Toml.Document
import BondQuery.Toml.Quoted
import BondQuery.Toml.Scalar

/- Reading a TOML document, statement by statement. Faults keep the text from their place on,
   from which line and column follow. -/
namespace BondQuery.Toml

def isBareKeyChar (c : Char) : Bool :=
  c.isAlphanum || c == '-' || c == '_'

def atPlace {α : Type} (behind : List Char) (r : Except Reason α) : Except Fault α :=
  r.mapError (⟨behind, ·⟩)

def readKeyPart (cs : List Char) : Except Fault (String × List Char) :=
  match cs with
  | [] => fail [] .keyStart
  | c :: rest =>
    if isBareKeyChar c then
      .ok (String.ofList (cs.takeWhile isBareKeyChar), cs.dropWhile isBareKeyChar)
    else if c == '"' || c == '\'' then readOneLine c rest
    else fail cs .keyStart

def readKey (fuel : Nat) (cs : List Char) : Except Fault (Path × List Char) :=
  match fuel with
  | 0 => fail cs .keyStart
  | fuel + 1 => do
    let (name, rest) ← readKeyPart cs
    match skipBlank rest with
    | '.' :: more => do
      let (names, behind) ← readKey fuel (skipBlank more)
      return (name :: names, behind)
    | behind => return ([name], behind)

def skipComment (cs : List Char) : Except Fault (List Char) :=
  match cs with
  | '#' :: rest =>
    let comment := rest.takeWhile (· != '\n')
    match comment.find? isControl with
    | some c => fail (rest.dropWhile (!isControl ·)) (.invalid c)
    | none => .ok (rest.dropWhile (· != '\n'))
  | _ => .ok cs

def skipLines (fuel : Nat) (cs : List Char) : Except Fault (List Char) :=
  match fuel with
  | 0 => .ok cs
  | fuel + 1 =>
    match skipBlankLines cs with
    | '#' :: rest => do skipLines fuel (← skipComment ('#' :: rest))
    | behind => .ok behind

def readScalar (cs : List Char) : Except Fault (Toml × List Char) :=
  match cs with
  | 't' :: 'r' :: 'u' :: 'e' :: rest => .ok (bool true, rest)
  | 'f' :: 'a' :: 'l' :: 's' :: 'e' :: rest => .ok (bool false, rest)
  | _ =>
    -- moments begin like numbers, so they go first
    match readMoment? cs with
    | some r => r
    | none =>
      match readRadix? cs with
      | some (n, rest) => .ok (int n, rest)
      | none =>
        match readDecimal? cs with
        | some r => r
        | none =>
          match readSpecial? cs with
          | some r => .ok r
          | none => fail cs .value

mutual

/-- Reads a value and gives the text behind it. A step is taken for each nested value and each
    item or key, so at most two for a character. -/
def readValue (fuel : Nat) (cs : List Char) : Except Fault (Toml × List Char) :=
  match fuel with
  | 0 => fail cs .value
  | fuel + 1 =>
    match cs with
    | '"' :: rest => do
      let (s, behind) ← readString '"' rest
      return (string s, behind)
    | '\'' :: rest => do
      let (s, behind) ← readString '\'' rest
      return (string s, behind)
    | '[' :: rest => do
      let (items, behind) ← readItems fuel (← skipLines (rest.length + 1) rest)
      return (array items, behind)
    | '\x7b' :: rest =>
      match skipBlank rest with
      | '\x7d' :: behind => .ok (table [], behind)
      | keys => do
        let (entries, behind) ← readInline fuel .start keys
        return (table entries, behind)
    | _ => readScalar cs

def readItems (fuel : Nat) (cs : List Char) : Except Fault (List Toml × List Char) :=
  match fuel with
  | 0 => fail cs .unclosedArray
  | fuel + 1 =>
    match cs with
    | ']' :: behind => .ok ([], behind)
    | _ => do
      let (item, rest) ← readValue fuel cs
      match ← skipLines (rest.length + 1) rest with
      | ']' :: behind => return ([item], behind)
      | ',' :: more => do
        let (items, behind) ← readItems fuel (← skipLines (more.length + 1) more)
        return (item :: items, behind)
      | other => fail other .unclosedArray

def readInline (fuel : Nat) (done : Inline) (cs : List Char) :
    Except Fault (Table × List Char) :=
  match fuel with
  | 0 => fail cs .unclosedInline
  | fuel + 1 => do
    let (names, value, rest) ← readPair fuel cs
    let next ← atPlace rest (done.assign names value)
    match skipBlank rest with
    | '\x7d' :: behind => return (next.entries, behind)
    | ',' :: more => readInline fuel next (skipBlank more)
    | other => fail other .unclosedInline

def readPair (fuel : Nat) (cs : List Char) : Except Fault (Path × Toml × List Char) :=
  match fuel with
  | 0 => fail cs .value
  | fuel + 1 => do
    let (names, rest) ← readKey (cs.length + 1) cs
    match rest with
    | '=' :: more => do
      let (value, behind) ← readValue fuel (skipBlank more)
      return (names, value, behind)
    | other => fail other .assignment

end

def readStatement (doc : Document) (cs : List Char) : Except Fault (Document × List Char) :=
  match cs with
  | [] => .ok (doc, [])
  | '[' :: '[' :: rest => do
    let (path, behind) ← readKey (rest.length + 1) (skipBlank rest)
    let next ← atPlace behind (doc.openArrayItem path)
    match behind with
    | ']' :: ']' :: more => return (next, skipBlank more)
    | other => fail other .arrayEnd
  | '[' :: rest => do
    let (path, behind) ← readKey (rest.length + 1) (skipBlank rest)
    let next ← atPlace behind (doc.openTable path)
    match behind with
    | ']' :: more => return (next, skipBlank more)
    | other => fail other .tableEnd
  | c :: _ =>
    if isBareKeyChar c || c == '"' || c == '\'' then do
      let (names, value, behind) ← readPair (2 * cs.length + 2) cs
      let next ← atPlace behind (doc.assign names value)
      return (next, skipBlank behind)
    else if c == '#' || c == '\n' then .ok (doc, cs)
    else fail cs .statement

def readLines (fuel : Nat) (doc : Document) (cs : List Char) : Except Fault Table :=
  match fuel with
  | 0 => .ok doc.root
  | fuel + 1 => do
    let (next, rest) ← readStatement doc (skipBlank cs)
    match ← skipComment rest with
    | [] => return next.root
    | '\n' :: more => readLines fuel next more
    | other => fail other .statementEnd

def unifyLineEnds : List Char → List Char
  | '\r' :: '\n' :: rest => '\n' :: unifyLineEnds rest
  | c :: rest => c :: unifyLineEnds rest
  | [] => []

def read (cs : List Char) : Except Fault Table :=
  readLines (cs.length + 1) .start cs

end BondQuery.Toml
