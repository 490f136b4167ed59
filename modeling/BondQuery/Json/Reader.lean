import BondQuery.Json.Basic
import BondQuery.Number.Read
import BondQuery.Text.Hex

/- Reading JSON as its standard defines it. The order of fields is kept; escapes of surrogates
   have to come in pairs. -/
namespace BondQuery.Json

def isJsonSpace (c : Char) : Bool :=
  c == ' ' || c == '\t' || c == '\n' || c == '\r'

def skipSpace (cs : List Char) : List Char :=
  cs.dropWhile isJsonSpace

def takeString? : List Char → Option (List Char × List Char)
  | [] => none
  | '"' :: rest => some ([], rest)
  | '\\' :: c :: rest => (takeString? rest).map fun (inner, after) => ('\\' :: c :: inner, after)
  | c :: rest => (takeString? rest).map fun (inner, after) => (c :: inner, after)

def shortEscape? (c : Char) : Option Nat :=
  match c with
  | '"' => some 0x22
  | '\\' => some 0x5c
  | '/' => some 0x2f
  | 'b' => some 0x08
  | 'f' => some 0x0c
  | 'n' => some 0x0a
  | 'r' => some 0x0d
  | 't' => some 0x09
  | _ => none

def codes? : List Char → Option (List Nat)
  | [] => some []
  | '\\' :: 'u' :: a :: b :: c :: d :: rest => do
    let n ← Text.ofHexDigits? [a, b, c, d]
    return n :: (← codes? rest)
  | '\\' :: c :: rest => do
    let n ← shortEscape? c
    return n :: (← codes? rest)
  | c :: rest =>
    if c == '\\' || c.toNat < 0x20 then none else (codes? rest).map (c.toNat :: ·)

def isHighSurrogate (n : Nat) : Bool := 0xd800 ≤ n && n < 0xdc00

def isLowSurrogate (n : Nat) : Bool := 0xdc00 ≤ n && n < 0xe000

def joinPairs? : List Nat → Option (List Char)
  | [] => some []
  -- half of a pair is no character
  | [n] => if isHighSurrogate n || isLowSurrogate n then none else some [Char.ofNat n]
  | n :: m :: rest =>
    if isHighSurrogate n then
      if isLowSurrogate m then
        (joinPairs? rest).map (Char.ofNat (0x10000 + (n - 0xd800) * 0x400 + (m - 0xdc00)) :: ·)
      else none
    else if isLowSurrogate n then none
    else (joinPairs? (m :: rest)).map (Char.ofNat n :: ·)

def readString? (cs : List Char) : Option (String × List Char) := do
  let (inner, rest) ← takeString? cs
  return (String.ofList (← joinPairs? (← codes? inner)), rest)

def isNumberChar (c : Char) : Bool :=
  c.isDigit || c == '+' || c == '-' || c == '.' || c == 'e' || c == 'E'

/-- A whole part has no leading zero, and digits stand on both sides of a point. -/
def isNumberForm (unsigned : List Char) : Bool :=
  let whole := unsigned.takeWhile Char.isDigit
  let wholeOk := whole == ['0'] || (whole ≠ [] && whole.head? ≠ some '0')
  wholeOk && match unsigned.dropWhile Char.isDigit with
    | '.' :: c :: _ => c.isDigit
    | ['.'] => false
    | _ => true

def readNumber? (cs : List Char) : Option (Json × List Char) :=
  let text := cs.takeWhile isNumberChar
  let rest := cs.dropWhile isNumberChar
  let (negative, unsigned) := match text with
    | '-' :: r => (true, r)
    | r => (false, r)
  if !isNumberForm unsigned then none
  else if unsigned.all Char.isDigit then
    some (int (applySign negative (Nat.ofDigitChars 10 unsigned 0)), rest)
  else (readDecimal? unsigned).map fun d => (double (.ofDecimal negative d.digits d.exponent), rest)

mutual

/-- Reads a value and gives the text behind it. The depth of nesting is bounded. -/
def readValue? (fuel : Nat) (cs : List Char) : Option (Json × List Char) :=
  match fuel with
  | 0 => none
  | fuel + 1 =>
    match skipSpace cs with
    | 'n' :: 'u' :: 'l' :: 'l' :: rest => some (null, rest)
    | 't' :: 'r' :: 'u' :: 'e' :: rest => some (bool true, rest)
    | 'f' :: 'a' :: 'l' :: 's' :: 'e' :: rest => some (bool false, rest)
    | '"' :: rest => (readString? rest).map fun (s, after) => (string s, after)
    | '[' :: rest =>
      match skipSpace rest with
      | ']' :: after => some (array [], after)
      | items => (readItems? fuel items).map fun (xs, after) => (array xs, after)
    | '\x7b' :: rest =>
      match skipSpace rest with
      | '\x7d' :: after => some (object [], after)
      | fields => (readFields? fuel fields).map fun (xs, after) => (object xs, after)
    | other => readNumber? other

def readItems? (fuel : Nat) (cs : List Char) : Option (List Json × List Char) :=
  match fuel with
  | 0 => none
  | fuel + 1 => do
    let (item, rest) ← readValue? fuel cs
    match skipSpace rest with
    | ',' :: more => (readItems? fuel more).map fun (xs, after) => (item :: xs, after)
    | ']' :: after => some ([item], after)
    | _ => none

def readFields? (fuel : Nat) (cs : List Char) : Option (List (String × Json) × List Char) :=
  match fuel with
  | 0 => none
  | fuel + 1 =>
    match skipSpace cs with
    | '"' :: text => do
      let (name, rest) ← readString? text
      match skipSpace rest with
      | ':' :: behind =>
        let (value, rest) ← readValue? fuel behind
        match skipSpace rest with
        | ',' :: more => (readFields? fuel more).map fun (xs, after) => ((name, value) :: xs, after)
        | '\x7d' :: after => some ([(name, value)], after)
        | _ => none
      | _ => none
    | _ => none

end

def parse? (s : String) : Option Json :=
  match readValue? (s.length + 1) s.toList with
  | some (json, rest) => if skipSpace rest = [] then some json else none
  | none => none

end BondQuery.Json
