import BondQuery.Console.Emoji.Names
import BondQuery.Text.Blank
import BondQuery.Text.Lower

/- Emoji written by name between colons. A suffix asks for the form of a plain character or of an
   emoji. A name that is not known stays as it is written. -/
namespace BondQuery.Console.Emoji

def pairs {α : Type} : List α → List (α × α)
  | a :: b :: rest => (a, b) :: pairs rest
  | _ => []

def names : List (List Char × List Char) :=
  pairs (Text.splitBlanks namesText.toList)

def forms : List (List Char × Char) :=
  [("-emoji".toList, '\ufe0f'), ("-text".toList, '\ufe0e')]

def splitForm (code : List Char) : List Char × List Char :=
  match forms.find? fun form => form.1.isSuffixOf code with
  | some (suffix, selector) => (code.take (code.length - suffix.length), [selector])
  | none => (code, [])

def ofCode? (code : List Char) : Option (List Char) :=
  let (name, selector) := splitForm code
  (names.lookup (Text.lower name)).map (· ++ selector)

def takeCode? (cs : List Char) : Option (List Char) :=
  let code := cs.takeWhile fun c => c != ':' && !Text.isBlank c
  match cs.drop code.length with
  | ':' :: _ => some code
  | _ => none

/-- Replaces names by their emoji; the two colons of a name belong to no other. The first number
    counts characters that have been replaced. -/
def replaceFrom (skipped : Nat) : List Char → List Char
  | [] => []
  | c :: rest =>
    match skipped with
    | skipped + 1 => replaceFrom skipped rest
    | 0 =>
      match if c == ':' then takeCode? rest else none with
      | some code =>
        (ofCode? code).getD (':' :: code ++ [':']) ++ replaceFrom (code.length + 1) rest
      | none => c :: replaceFrom 0 rest

def replace (cs : List Char) : List Char :=
  replaceFrom 0 cs

end BondQuery.Console.Emoji
