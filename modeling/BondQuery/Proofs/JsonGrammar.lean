import BondQuery.Json.Reader
import BondQuery.Proofs.WrittenNumbers

/- JSON as its standard defines it: which texts are values, and of what. Surrogates have to come in
   pairs, since one alone stands for no character. -/
namespace BondQuery.Json
open Syntax (Numeral)

def Gap (cs : List Char) : Prop :=
  ∀ c ∈ cs, isJsonSpace c = true

/-- Characters that a letter behind a backslash stands for. -/
def letters : List (Char × Char) :=
  [('"', '"'), ('\\', '\\'), ('/', '/'), ('b', '\x08'), ('f', '\x0c'), ('n', '\n'), ('r', '\r'), ('t', '\t')]

/-- How a character can be written in a string; one above the first plane takes two code units. -/
inductive Spells : List Char → Char → Prop
  | plain {c : Char} (printable : 0x20 ≤ c.toNat) (unquoted : c ≠ '"') (unescaped : c ≠ '\\') :
      Spells [c] c
  | letter {l c : Char} (named : (l, c) ∈ letters) : Spells ['\\', l] c
  | unit {p q r s c : Char} (value : Text.ofHexDigits? [p, q, r, s] = some c.toNat) :
      Spells ['\\', 'u', p, q, r, s] c
  | pair {p q r s p' q' r' s' c : Char} {high low : Nat}
      (first : Text.ofHexDigits? [p, q, r, s] = some high) (leads : 0xd800 ≤ high ∧ high < 0xdc00)
      (second : Text.ofHexDigits? [p', q', r', s'] = some low) (trails : 0xdc00 ≤ low ∧ low < 0xe000)
      (joined : c.toNat = 0x10000 + (high - 0xd800) * 0x400 + (low - 0xdc00)) :
      Spells ['\\', 'u', p, q, r, s, '\\', 'u', p', q', r', s'] c

inductive Quotes : List Char → List Char → Prop
  | nil : Quotes [] []
  | cons {piece rest : List Char} {c : Char} {cs : List Char} (first : Spells piece c)
      (others : Quotes rest cs) : Quotes (piece ++ rest) (c :: cs)

structure IsNumber (n : Numeral) : Prop where
  unsigned : n.sign ≠ .plus
  canonical : n.mantissa.Canonical

/-- A whole number without a fraction and an exponent, a number of 64 bits with one. -/
def ofNumeral (n : Numeral) : Json :=
  if n.mantissa.fraction = none ∧ n.exponent = none then
    int (applySign (n.sign = .minus) (Nat.ofDigitChars 10 n.mantissa.whole 0))
  else double n.value

structure Element where
  before : List Char
  text : List Char
  after : List Char
  value : Json

structure Member where
  before : List Char
  quoted : List Char
  after : List Char
  name : List Char
  element : Element

def Element.chars (e : Element) : List Char :=
  e.before ++ e.text ++ e.after

def Member.chars (m : Member) : List Char :=
  m.before ++ '"' :: m.quoted ++ '"' :: m.after ++ ':' :: m.element.chars

def Member.field (m : Member) : String × Json :=
  (String.ofList m.name, m.element.value)

def separated : List (List Char) → List Char
  | [] => []
  | [cs] => cs
  | cs :: rest => cs ++ ',' :: separated rest

structure Element.Spaced (e : Element) : Prop where
  before : Gap e.before
  after : Gap e.after

structure Member.Named (m : Member) : Prop where
  before : Gap m.before
  quoted : Quotes m.quoted m.name
  after : Gap m.after
  spaced : m.element.Spaced

/-- The texts of values, without white space around them. -/
inductive Denotes : List Char → Json → Prop
  | null : Denotes ['n', 'u', 'l', 'l'] null
  | isTrue : Denotes ['t', 'r', 'u', 'e'] (bool true)
  | isFalse : Denotes ['f', 'a', 'l', 's', 'e'] (bool false)
  | number {n : Numeral} (number : IsNumber n) : Denotes n.lexeme (ofNumeral n)
  | string {inner cs : List Char} (quotes : Quotes inner cs) :
      Denotes ('"' :: inner ++ ['"']) (string (String.ofList cs))
  | emptyArray {gap : List Char} (blank : Gap gap) : Denotes ('[' :: gap ++ [']']) (array [])
  | array {items : List Element} (filled : items ≠ []) (spaced : ∀ e ∈ items, e.Spaced)
      (values : ∀ e ∈ items, Denotes e.text e.value) :
      Denotes ('[' :: separated (items.map Element.chars) ++ [']']) (array (items.map Element.value))
  | emptyObject {gap : List Char} (blank : Gap gap) : Denotes ('\x7b' :: gap ++ ['\x7d']) (object [])
  | object {members : List Member} (filled : members ≠ []) (named : ∀ m ∈ members, m.Named)
      (values : ∀ m ∈ members, Denotes m.element.text m.element.value) :
      Denotes ('\x7b' :: separated (members.map Member.chars) ++ ['\x7d'])
        (object (members.map Member.field))

def IsText (cs : List Char) (json : Json) : Prop :=
  ∃ e : Element, e.Spaced ∧ Denotes e.text e.value ∧ e.chars = cs ∧ e.value = json

end BondQuery.Json
