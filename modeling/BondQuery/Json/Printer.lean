import BondQuery.Json.Basic
import BondQuery.Text.Hex

/- Writing JSON in ASCII, on one line or indented by two blanks. Numbers that are not finite
   have names, which the standard does not know. -/
namespace BondQuery.Json

def unitEscape (n : Nat) : List Char :=
  '\\' :: 'u' :: Text.hexDigits 4 n

def escapeChar (c : Char) : List Char :=
  if c == '"' || c == '\\' then ['\\', c]
  else if c == '\n' then ['\\', 'n']
  else if c == '\r' then ['\\', 'r']
  else if c == '\t' then ['\\', 't']
  else if c == '\x0c' then ['\\', 'f']
  else if c == '\x08' then ['\\', 'b']
  else if 0x20 ≤ c.toNat ∧ c.toNat < 0x7f then [c]
  else if c.toNat < 0x10000 then unitEscape c.toNat
  else
    let n := c.toNat - 0x10000
    unitEscape (0xd800 + n / 0x400) ++ unitEscape (0xdc00 + n % 0x400)

def stringChars (s : String) : List Char :=
  '"' :: s.toList.flatMap escapeChar ++ ['"']

def doubleChars : Double → List Char
  | .nan => ['N', 'a', 'N']
  | .infinite negative => (if negative then ['-'] else []) ++ "Infinity".toList
  | x => x.chars

mutual

def chars : Json → List Char
  | null => ['n', 'u', 'l', 'l']
  | bool true => ['t', 'r', 'u', 'e']
  | bool false => ['f', 'a', 'l', 's', 'e']
  | int n => intChars n
  | double x => doubleChars x
  | string s => stringChars s
  | array items => '[' :: itemChars items ++ [']']
  | object fields => '\x7b' :: fieldChars fields ++ ['\x7d']

def itemChars : List Json → List Char
  | [] => []
  | [item] => chars item
  | item :: rest => chars item ++ ',' :: itemChars rest

def fieldChars : List (String × Json) → List Char
  | [] => []
  | [(name, value)] => stringChars name ++ ':' :: chars value
  | (name, value) :: rest => stringChars name ++ ':' :: chars value ++ ',' :: fieldChars rest

end

def newLine (depth : Nat) : List Char :=
  '\n' :: List.replicate (2 * depth) ' '

mutual

/-- The text with each item on a line of its own; an empty array or object stays closed. -/
def indentedChars (depth : Nat) : Json → List Char
  | array [] => ['[', ']']
  | array items => '[' :: newLine (depth + 1) ++ indentedItems (depth + 1) items ++ newLine depth ++ [']']
  | object [] => ['\x7b', '\x7d']
  | object fields =>
    '\x7b' :: newLine (depth + 1) ++ indentedFields (depth + 1) fields ++ newLine depth ++ ['\x7d']
  | null => ['n', 'u', 'l', 'l']
  | bool true => ['t', 'r', 'u', 'e']
  | bool false => ['f', 'a', 'l', 's', 'e']
  | int n => intChars n
  | double x => doubleChars x
  | string s => stringChars s

def indentedItems (depth : Nat) : List Json → List Char
  | [] => []
  | [item] => indentedChars depth item
  | item :: rest => indentedChars depth item ++ ',' :: newLine depth ++ indentedItems depth rest

def indentedFields (depth : Nat) : List (String × Json) → List Char
  | [] => []
  | [(name, value)] => stringChars name ++ ':' :: ' ' :: indentedChars depth value
  | (name, value) :: rest =>
    stringChars name ++ ':' :: ' ' :: indentedChars depth value ++ ',' :: newLine depth ++
      indentedFields depth rest

end

def compactText (json : Json) : String :=
  String.ofList json.chars

end BondQuery.Json
