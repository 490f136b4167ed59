import BondQuery.Console.Literal.Fault
import BondQuery.Text.CharacterName

/- Escapes in quoted texts that are no raw texts. Most letters behind a backslash stand for
   themselves, with the backslash; some want digits or a name. -/
namespace BondQuery.Console.Literal

def isWide (c : Char) : Bool :=
  0x80 ≤ c.toNat

def escapeOf (c : Char) : List Char :=
  ['\\', 'U'] ++ Text.hexDigits 8 c.toNat

/-- A text in ASCII only; positions of faults are counted in it. A backslash before a character
    that is not in ASCII, or at the end, stands for itself. -/
def inAscii : List Char → List Char
  | ['\\'] => '\\' :: "u005c".toList
  | '\\' :: c :: rest =>
    '\\' :: (if isWide c then "u005c".toList ++ escapeOf c else [c]) ++ inAscii rest
  | c :: rest => (if isWide c then escapeOf c else [c]) ++ inAscii rest
  | [] => []

def digitsFault? (start wanted : Nat) (letter : Char) (cs : List Char) : Option LiteralFault :=
  let digits := (cs.take wanted).takeWhile fun c => (Text.hexValue? c).isSome
  if digits.length < wanted then
    some (.escape start (start + 1 + digits.length) (.truncated letter wanted))
  else if (Text.ofHexDigits? digits).any (0x10ffff < ·) then
    some (.escape start (start + 1 + wanted) .tooLarge)
  else none

def nameFault? (start : Nat) (cs : List Char) : Option LiteralFault :=
  match cs with
  | '\x7b' :: inside =>
    let name := inside.takeWhile (· != '\x7d')
    let last := start + 2 + name.length
    if name.length = inside.length || name.isEmpty then some (.escape start last .malformedName)
    else if Text.isCharacterName name then none
    else some (.escape start (last + 1) .unknownName)
  | _ => some (.escape start (start + 1) .malformedName)

def wantedDigits? : Char → Option Nat
  | 'x' => some 2
  | 'u' => some 4
  | 'U' => some 8
  | _ => none

def asciiFault? (position : Nat) : List Char → Option LiteralFault
  | '\\' :: c :: rest =>
    (match wantedDigits? c with
      | some wanted => digitsFault? position wanted c rest
      | none => if c == 'N' then nameFault? position rest else none) <|>
      asciiFault? (position + 2) rest
  | _ :: rest => asciiFault? (position + 1) rest
  | [] => none

def escapeFault? (cs : List Char) : Option LiteralFault :=
  asciiFault? 0 (inAscii cs)

def byteEscapeFault? (position : Nat) : List Char → Option LiteralFault
  | '\\' :: 'x' :: rest =>
    if ((rest.take 2).filter fun c => (Text.hexValue? c).isSome).length < 2 then
      some (.byteEscape position)
    else byteEscapeFault? (position + 2) rest
  | '\\' :: _ :: rest => byteEscapeFault? (position + 2) rest
  | _ :: rest => byteEscapeFault? (position + 1) rest
  | [] => none

end BondQuery.Console.Literal
