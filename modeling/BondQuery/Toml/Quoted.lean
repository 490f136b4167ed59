import BondQuery.Text.Hex
import BondQuery.Toml.Fault

/- Strings of TOML: between double quotes with escapes, or between single quotes without; on
   one line, or on several between triple quotes. -/
namespace BondQuery.Toml

def isControl (c : Char) : Bool :=
  (c.toNat < 0x20 && c != '\t') || c.toNat == 0x7f

def isIllegal (multiline : Bool) (c : Char) : Bool :=
  isControl c && !(multiline && c == '\n')

def isBlankChar (c : Char) : Bool :=
  c == ' ' || c == '\t'

def skipBlank (cs : List Char) : List Char :=
  cs.dropWhile isBlankChar

def skipBlankLines (cs : List Char) : List Char :=
  cs.dropWhile fun c => isBlankChar c || c == '\n'

def shortEscape? (c : Char) : Option Char :=
  match c with
  | 'b' => some '\x08'
  | 't' => some '\t'
  | 'n' => some '\n'
  | 'f' => some '\x0c'
  | 'r' => some '\r'
  | '"' => some '"'
  | '\\' => some '\\'
  | _ => none

def readCodePoint (width : Nat) (cs : List Char) : Except Fault (List Char × List Char) :=
  let digits := cs.take width
  match (if digits.length = width then Text.ofHexDigits? digits else none) with
  | none => fail cs .hexadecimal
  | some n =>
    let behind := cs.drop width
    if n < 0xd800 ∨ (0xe000 ≤ n ∧ n < 0x110000) then .ok ([Char.ofNat n], behind)
    else fail behind .scalar

def readLineEnd (cs : List Char) : Except Fault (List Char × List Char) :=
  match skipBlank cs with
  | [] => .ok ([], [])
  | '\n' :: rest => .ok ([], skipBlankLines rest)
  | rest => fail rest .escape

def readEscape (multiline : Bool) (cs : List Char) : Except Fault (List Char × List Char) :=
  match cs with
  | [] => fail [] .escape
  | c :: rest =>
    if multiline && (isBlankChar c || c == '\n') then readLineEnd cs
    else if c == 'u' then readCodePoint 4 rest
    else if c == 'U' then readCodePoint 8 rest
    else
      match shortEscape? c with
      | some char => .ok ([char], rest)
      | none => fail rest .escape

def readBasic (multiline : Bool) (fuel : Nat) (cs : List Char) : Except Fault (List Char × List Char) :=
  match fuel with
  | 0 => fail cs .unterminated
  | fuel + 1 =>
    match cs with
    | [] => fail [] .unterminated
    | '"' :: rest =>
      if multiline then
        match rest with
        | '"' :: '"' :: behind => .ok ([], behind)
        -- fewer than three quotes are a part of the text
        | _ => do
          let (more, behind) ← readBasic multiline fuel rest
          return ('"' :: more, behind)
      else .ok ([], rest)
    | '\\' :: rest => do
      let (chars, rest) ← readEscape multiline rest
      let (more, behind) ← readBasic multiline fuel rest
      return (chars ++ more, behind)
    | c :: rest =>
      if isIllegal multiline c then fail cs (.illegal c)
      else do
        let (more, behind) ← readBasic multiline fuel rest
        return (c :: more, behind)

def before? (mark : List Char) : List Char → Option (List Char × List Char)
  | [] => if mark.isEmpty then some ([], []) else none
  | c :: rest =>
    if mark.isPrefixOf (c :: rest) then some ([], c :: rest)
    else (before? mark rest).map fun (inner, found) => (c :: inner, found)

/-- Reads up to a mark without any escapes. That the mark occurs is checked first. -/
def readUntil (mark : List Char) (multiline : Bool) (cs : List Char) : Except Fault (List Char × List Char) :=
  match before? mark cs with
  | none => fail [] (.expected (String.ofList mark))
  | some (inner, found) =>
    match inner.find? (isIllegal multiline) with
    | some c => fail (cs.dropWhile (!isIllegal multiline ·)) (.invalid c)
    | none => .ok (inner, found.drop mark.length)

/-- Up to two quotes directly before the three closing ones belong to the text. -/
def extraQuotes (quote : Char) (inner behind : List Char) : List Char × List Char :=
  match behind with
  | a :: b :: rest =>
    if a == quote then
      if b == quote then (inner ++ [quote, quote], rest) else (inner ++ [quote], b :: rest)
    else (inner, behind)
  | [a] => if a == quote then (inner ++ [quote], []) else (inner, behind)
  | [] => (inner, behind)

def skipFirstLineEnd : List Char → List Char
  | '\n' :: rest => rest
  | cs => cs

def readOneLine (quote : Char) (cs : List Char) : Except Fault (String × List Char) := do
  let (inner, behind) ←
    if quote == '"' then readBasic false (cs.length + 1) cs else readUntil [quote] false cs
  return (String.ofList inner, behind)

def readMultiline (quote : Char) (cs : List Char) : Except Fault (String × List Char) := do
  let text := skipFirstLineEnd cs
  let (inner, behind) ←
    if quote == '"' then readBasic true (text.length + 1) text
    else readUntil [quote, quote, quote] true text
  let (whole, rest) := extraQuotes quote inner behind
  return (String.ofList whole, rest)

def readString (quote : Char) (cs : List Char) : Except Fault (String × List Char) :=
  match cs with
  | a :: b :: rest =>
    if a == quote && b == quote then readMultiline quote rest else readOneLine quote cs
  | _ => readOneLine quote cs

end BondQuery.Toml
