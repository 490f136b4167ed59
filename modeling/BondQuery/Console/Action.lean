import BondQuery.Console.Literal.Check
import BondQuery.Error
import BondQuery.Text.Blank

/- Tags that attach an action to a text. The parameters of such a tag are a literal value, or the
   name of the action with its arguments in parentheses; they are looked at when the tag is
   closed. -/
namespace BondQuery.Console.Action

def isAction (name : String) : Bool :=
  name.toList.head? == some '@'

def isNameChar (c : Char) : Bool :=
  Text.isWord c || c == '.'

/-- What parameters have as their value: the arguments behind the name of an action, which may
    be missing, or else the whole. -/
def literal (parameters : List Char) : List Char :=
  let whole := Text.trim parameters
  match whole.dropWhile isNameChar with
  | [] => ['(', ')']
  | '(' :: inside =>
    if inside.getLast? == some ')' && !inside.contains '\n' then '(' :: inside else whole
  | _ => whole

def check (parameters : List Char) : Except MarkupFault Unit :=
  let value := literal parameters
  (Literal.check value).mapError
    (.badParameters (String.ofList value) (String.ofList parameters))

end BondQuery.Console.Action
