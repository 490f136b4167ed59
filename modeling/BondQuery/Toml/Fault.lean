import BondQuery.Number.Written
import BondQuery.Text.Quoted

/- Why a text is no TOML document, and where. -/
namespace BondQuery.Toml

abbrev Path := List String

inductive Reason where
  | statement
  | statementEnd
  | assignment
  | tableEnd
  | arrayEnd
  | declaredTwice (path : Path)
  | immutable (path : Path)
  | redefined (path : Path)
  | overwritten
  | duplicate (key : String)
  | unclosedArray
  | unclosedInline
  | keyStart
  | value
  | moment
  | escape
  | hexadecimal
  | scalar
  | unterminated
  | illegal (char : Char)
  | invalid (char : Char)
  | expected (mark : String)
  | tooManyDigits (count : Nat)
  deriving DecidableEq, Repr

structure Fault where
  behind : List Char
  reason : Reason
  deriving DecidableEq, Repr

def fail {α : Type} (behind : List Char) (reason : Reason) : Except Fault α :=
  .error ⟨behind, reason⟩

def pathText (path : Path) : String :=
  match path with
  | [name] => "(" ++ Text.quoted name ++ ",)"
  | names => "(" ++ ", ".intercalate (names.map Text.quoted) ++ ")"

def Reason.message : Reason → String
  | statement => "Invalid statement"
  | statementEnd => "Expected newline or end of document after a statement"
  | assignment => "Expected '=' after a key in a key/value pair"
  | tableEnd => "Expected ']' at the end of a table declaration"
  | arrayEnd => "Expected ']]' at the end of an array declaration"
  | declaredTwice path => "Cannot declare " ++ pathText path ++ " twice"
  | immutable path => "Cannot mutate immutable namespace " ++ pathText path
  | redefined path => "Cannot redefine namespace " ++ pathText path
  | overwritten => "Cannot overwrite a value"
  | duplicate key => "Duplicate inline table key " ++ Text.quoted key
  | unclosedArray => "Unclosed array"
  | unclosedInline => "Unclosed inline table"
  | keyStart => "Invalid initial character for a key part"
  | value => "Invalid value"
  | moment => "Invalid date or datetime"
  | escape => "Unescaped '\\' in a string"
  | hexadecimal => "Invalid hex value"
  | scalar => "Escaped character is not a Unicode scalar value"
  | unterminated => "Unterminated string"
  | illegal char => "Illegal character " ++ Text.quoted (String.ofList [char])
  | invalid char => "Found invalid character " ++ Text.quoted (String.ofList [char])
  | expected mark => "Expected " ++ Text.quoted mark
  | tooManyDigits _ => "Invalid value"

def placeText (text behind : List Char) : String :=
  match behind with
  | [] => "end of document"
  | _ =>
    let before := text.take (text.length - behind.length)
    "line " ++ intText (before.count '\n' + 1) ++ ", column " ++
      intText ((before.reverse.takeWhile (· != '\n')).length + 1)

def Fault.message (text : List Char) (fault : Fault) : String :=
  fault.reason.message ++ " (at " ++ placeText text fault.behind ++ ")"

end BondQuery.Toml
