import BondQuery.Number.Written
import BondQuery.Text.Hex
import BondQuery.Toml.Value

/- Writing a TOML document. A table lists its plain entries first and then its subtables, each
   under a header of its own; an array has one item on each line. -/
namespace BondQuery.Toml

def escapeChar (c : Char) : List Char :=
  if c == '"' || c == '\\' then ['\\', c]
  else if c == '\x08' then ['\\', 'b']
  else if c == '\n' then ['\\', 'n']
  else if c == '\x0c' then ['\\', 'f']
  else if c == '\r' then ['\\', 'r']
  else if (c.toNat < 0x20 && c != '\t') || c.toNat == 0x7f then '\\' :: 'u' :: Text.hexDigits 4 c.toNat
  else [c]

def stringChars (s : String) : List Char :=
  '"' :: s.toList.flatMap escapeChar ++ ['"']

def keyChars (key : String) : List Char :=
  let cs := key.toList
  if cs ≠ [] && cs.all fun c => c.isAlphanum || c == '-' || c == '_' then cs
  else stringChars key

def indent (depth : Nat) : List Char :=
  List.replicate (4 * depth) ' '

mutual

def valueChars (depth : Nat) : Toml → List Char
  | string s => stringChars s
  | int n => intChars n
  | double x => x.chars
  | bool true => ['t', 'r', 'u', 'e']
  | bool false => ['f', 'a', 'l', 's', 'e']
  | moment text => text.toList
  | array [] => ['[', ']']
  | array items => '[' :: '\n' :: itemChars (depth + 1) items ++ indent depth ++ [']']
  | table [] => ['\x7b', '\x7d']
  | table entries => '\x7b' :: ' ' :: inlineChars depth entries ++ [' ', '\x7d']

def itemChars (depth : Nat) : List Toml → List Char
  | [] => []
  | item :: rest => indent depth ++ valueChars depth item ++ ',' :: '\n' :: itemChars depth rest

def inlineChars (depth : Nat) : Table → List Char
  | [] => []
  | [(key, value)] => keyChars key ++ ' ' :: '=' :: ' ' :: valueChars depth value
  | (key, value) :: rest =>
    keyChars key ++ ' ' :: '=' :: ' ' :: valueChars depth value ++ ',' :: ' ' :: inlineChars depth rest

end

def entryLines : Table → List Char
  | [] => []
  | (_, .table _) :: rest => entryLines rest
  | (key, value) :: rest =>
    keyChars key ++ ' ' :: '=' :: ' ' :: valueChars 0 value ++ '\n' :: entryLines rest

def isTable : Toml → Bool
  | .table _ => true
  | _ => false

def headerChars (name : List Char) : List Char :=
  '[' :: name ++ [']', '\n']

mutual

/-- A table under its name. A table of nothing but subtables needs no header of its own. -/
def tableChars (name : List Char) : Toml → List Char
  | .table entries =>
    let lines := entryLines entries
    let header :=
      if name ≠ [] && (lines ≠ [] || !entries.any (isTable ·.2)) then headerChars name else []
    let top := header ++ lines
    top ++ subtableChars name (top ≠ []) entries
  | _ => []

def subtableChars (name : List Char) (apart : Bool) : Table → List Char
  | [] => []
  | (key, value) :: rest =>
    match value with
    | .table entries =>
      let full := if name = [] then keyChars key else name ++ '.' :: keyChars key
      (if apart then ['\n'] else []) ++ tableChars full (.table entries) ++ subtableChars name true rest
    | _ => subtableChars name apart rest

end

def write (entries : Table) : List Char :=
  tableChars [] (.table entries)

end BondQuery.Toml
