import BondQuery.Bond.Token
import BondQuery.Number.Written
import BondQuery.Text.Quoted

/- Why a text is no bond expression, and where. -/
namespace BondQuery.Syntax

/-- Line and column, both counted from one; only a line feed begins a line. -/
structure Position where
  line : Nat
  column : Nat
  deriving DecidableEq, Repr

def Position.after (before : List Char) : Position :=
  ⟨before.count '\n' + 1, (before.reverse.takeWhile (· != '\n')).length + 1⟩

def Position.ofEnding (text ending : List Char) : Position :=
  .after (text.take (text.length - ending.length))

inductive SyntaxFault where
  | empty
  | unexpectedToken (terminal : Terminal) (lexeme : List Char) (position : Position)
      (expected : List Terminal)
  | unexpectedCharacter (char : Char) (position : Position)
  deriving DecidableEq, Repr

structure SyntaxError where
  text : String
  fault : SyntaxFault
  deriving DecidableEq, Repr

def SyntaxFault.message : SyntaxFault → String
  | empty => "empty expression"
  | unexpectedToken terminal lexeme position _ =>
    "Unexpected token Token('" ++ terminal.name ++ "', " ++ Text.quoted (String.ofList lexeme) ++
      ") at line " ++ intText position.line ++ ", column " ++ intText position.column ++ "."
  | unexpectedCharacter char position =>
    "No terminal matches '" ++ String.ofList [char] ++
      "' in the current parser context, at line " ++ intText position.line ++
      " col " ++ intText position.column

def SyntaxError.message (e : SyntaxError) : String :=
  "Failed to parse bond expression '" ++ e.text ++ "': " ++ e.fault.message

end BondQuery.Syntax
