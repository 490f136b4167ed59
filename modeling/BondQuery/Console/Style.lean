import BondQuery.Console.Colour

/- Styles of text: attributes that are on or off, colours, and a link. Several definitions can name
   the same style, and its normal form tells whether they do. -/
namespace BondQuery.Console

inductive Attribute where
  | bold
  | dim
  | italic
  | underline
  | blink
  | blink2
  | reverse
  | conceal
  | strike
  | underline2
  | frame
  | encircle
  | overline
  deriving DecidableEq, Repr

def Attribute.all : List Attribute :=
  [.bold, .dim, .italic, .underline, .blink, .blink2, .reverse, .conceal, .strike, .underline2,
    .frame, .encircle, .overline]

def Attribute.name : Attribute → String
  | bold => "bold"
  | dim => "dim"
  | italic => "italic"
  | underline => "underline"
  | blink => "blink"
  | blink2 => "blink2"
  | reverse => "reverse"
  | conceal => "conceal"
  | strike => "strike"
  | underline2 => "underline2"
  | frame => "frame"
  | encircle => "encircle"
  | overline => "overline"

def Attribute.short? : Attribute → Option String
  | bold => some "b"
  | dim => some "d"
  | italic => some "i"
  | underline => some "u"
  | reverse => some "r"
  | conceal => some "c"
  | strike => some "s"
  | underline2 => some "uu"
  | overline => some "o"
  | _ => none

def Attribute.ofName? (name : String) : Option Attribute :=
  Attribute.all.find? fun a => a.name == name || a.short? == some name

structure Style where
  attributes : List (Attribute × Bool)
  colour : Option String
  background : Option String
  link : Option String
  deriving DecidableEq, Repr

def Style.plain : Style :=
  ⟨[], none, none, none⟩

def Style.setAttribute (s : Style) (name : String) (on : Bool) : Option Style :=
  (Attribute.ofName? name).map fun a => { s with attributes := (a, on) :: s.attributes }

def Style.addWord (s : Style) (word : List Char) : Except Error (Option Style) :=
  match s.setAttribute (String.ofList (Text.lower word)) true with
  | some t => .ok (some t)
  | none => return (← Colour.read word).map fun colour => { s with colour := some colour }

/-- Adds a word that says something about the next one; `none` if it does not. -/
def Style.addPair (s : Style) (word next : List Char) : Option (Except Error (Option Style)) :=
  match String.ofList (Text.lower word) with
  | "on" => some do
    return (← Colour.read next).map fun colour => { s with background := some colour }
  | "not" => some (.ok (s.setAttribute (String.ofList next) false))
  | "link" => some (.ok (some { s with link := some (String.ofList next) }))
  | _ => none

def Style.ofWords (s : Style) : List (List Char) → Except Error (Option Style)
  | [] => .ok (some s)
  | [word] => if (s.addPair word []).isSome then .ok none else s.addWord word
  | word :: next :: rest =>
    match s.addPair word next with
    | some pair => do
      match ← pair with
      | some t => Style.ofWords t rest
      | none => return none
    | none => do
      match ← s.addWord word with
      | some t => Style.ofWords t (next :: rest)
      | none => return none

def Style.text (s : Style) : String :=
  let attributes := Attribute.all.filterMap fun a => (s.attributes.lookup a).map fun
    | true => a.name
    | false => "not " ++ a.name
  let parts := attributes ++ s.colour.toList ++ (s.background.map ("on " ++ ·)).toList ++
    (s.link.map ("link " ++ ·)).toList
  if parts.isEmpty then "none" else " ".intercalate parts

def Style.read (definition : List Char) : Except Error (Option Style) :=
  if Text.trim definition = "none".toList then .ok (some .plain)
  else Style.ofWords .plain (Text.splitBlanks definition)

/-- The normal form of a definition: that of its style, or without one its text in lower case. -/
def Style.normal (definition : List Char) : Except Error String :=
  return match ← Style.read definition with
  | some s => s.text
  | none => String.ofList (Text.lower (Text.trim definition))

end BondQuery.Console
