import BondQuery.Console.Action
import BondQuery.Console.Emoji
import BondQuery.Console.Style

/- Style tags in console messages. A tag in brackets opens a style, one with a slash closes it;
   neither is printed. A backslash before a tag makes it plain text. -/
namespace BondQuery.Console

/-- A piece of a message: text, or a tag by what stands between its brackets and where it
    begins. -/
inductive Piece where
  | text (chars : List Char)
  | tag (inner : List Char) (position : Nat)
  deriving DecidableEq, Repr

def isTagStart (c : Char) : Bool :=
  ('a' ≤ c && c ≤ 'z') || c == '#' || c == '/' || c == '@'

/-- The inside of a tag behind its opening bracket, up to the first closing bracket, and the
    text behind it. A tag has no other opening bracket inside. -/
def takeTag? (cs : List Char) : Option (List Char × List Char) :=
  let inner := cs.takeWhile fun d => d != '[' && d != ']'
  match cs.drop inner.length with
  | ']' :: behind => if (inner.head?.map isTagStart).getD false then some (inner, behind) else none
  | _ => none

def unescape : List Char → List Char
  | [] => []
  | '\\' :: '[' :: rest => '[' :: unescape rest
  | c :: rest => c :: unescape rest

def plainPiece (before : List Char) : List Piece :=
  if before.isEmpty then [] else [.text (unescape before.reverse)]

/-- Splits a message from a position on, behind plain text given backwards. Backslashes before a
    tag are halved, and an odd one makes the tag text. There is at most one step for each
    character. -/
def pieces (fuel position : Nat) (before cs : List Char) : List Piece :=
  match fuel, cs with
  | 0, _ => plainPiece before
  | _, [] => plainPiece before
  | fuel + 1, c :: rest =>
    let slashes := cs.takeWhile (· == '\\')
    match cs.drop slashes.length with
    | '[' :: behindBracket =>
      match takeTag? behindBracket with
      | some (inner, behind) =>
        let halved := Piece.text (List.replicate (slashes.length / 2) '\\')
        let next := position + (cs.length - behind.length)
        plainPiece before ++ halved ::
          (if slashes.length % 2 = 1 then .text ('[' :: inner ++ [']'])
            else .tag inner (position + slashes.length)) :: pieces fuel next [] behind
      | none => pieces fuel (position + 1) (c :: before) rest
    | _ => pieces fuel (position + 1) (c :: before) rest

/-- A tag that opens a style: its name in normal form, and the parameters behind an equals
    sign. -/
structure OpenTag where
  name : String
  parameters : Option (List Char)
  deriving DecidableEq, Repr

def splitTag (inner : List Char) : List Char × Option (List Char) :=
  let name := inner.takeWhile (· != '=')
  match inner.drop name.length with
  | _ :: parameters => (name, some parameters)
  | [] => (name, none)

def OpenTag.style (tag : OpenTag) : List Char :=
  tag.name.toList ++ (tag.parameters.map (' ' :: ·)).getD []

def OpenTag.close (tag : OpenTag) : Except Error Unit :=
  match tag.parameters with
  | some (c :: more) =>
    if Action.isAction tag.name then (Action.check (c :: more)).mapError .markup else .ok ()
  | _ => .ok ()

abbrev OpenTags := List OpenTag

/-- The tags left open behind a closing tag with this name; without a name the latest closes. -/
def closeTag (opened : OpenTags) (name inner : List Char) (position : Nat) :
    Except Error OpenTags := do
  if Text.trim name = [] then
    match opened with
    | [] => throw (.markup (.nothingToClose position))
    | latest :: outer =>
      latest.close
      return outer
  else
    let normal ← Style.normal (Text.trim name)
    match opened.find? (·.name == normal) with
    | some tag =>
      tag.close
      return opened.eraseP (·.name == normal)
    | none => throw (.markup (.unopened (String.ofList ('[' :: inner ++ [']'])) position))

def isControl (c : Char) : Bool :=
  c == '\x07' || c == '\x08' || c == '\x0b' || c == '\x0c' || c == '\r'

/-- The text of a message without its tags, given the tags that are open. Every style that a tag
    gives has to be one that can be looked up. -/
def printed (opened : OpenTags) : List Piece → Except Error (List Char)
  | [] => .ok []
  | .text chars :: rest => do
    let more ← printed opened rest
    return (Emoji.replace chars).filter (!isControl ·) ++ more
  | .tag inner position :: rest =>
    match splitTag inner with
    | ('/' :: name, _) => do
      printed (← closeTag opened name inner position) rest
    | (name, parameters) => do
      let tag : OpenTag := ⟨← Style.normal name, parameters⟩
      let text ← printed (tag :: opened) rest
      let _ ← Style.read tag.style
      return text

def render (message : String) : Except Error (List Char) :=
  let cs := message.toList
  printed [] (pieces cs.length 0 [] cs)

end BondQuery.Console
