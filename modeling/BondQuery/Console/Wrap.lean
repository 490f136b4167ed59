import BondQuery.Text.Blank
import BondQuery.Text.Width

/- Laying a text out on lines of a given width. A line breaks between words; a word too long for
   any line is cut over several, or cut short with an ellipsis. -/
namespace BondQuery.Console

inductive Overflow where
  | fold
  | ellipsis
  deriving DecidableEq, Repr

inductive Alignment where
  | natural
  | left
  | centre
  deriving DecidableEq, Repr

structure Flow where
  overflow : Overflow
  alignment : Alignment

def tabStop : Nat := 8

/-- Lays the parts of a line between tabulators out from a column on. A tabulator takes a blank
    and leads to the next stop. -/
def layTabs (column : Nat) : List (List Char) → List Char
  | [] => []
  | [last] => last
  | part :: rest =>
    let reached := column + Text.width (part ++ [' '])
    let next := (reached + (tabStop - 1)) / tabStop * tabStop
    part ++ List.replicate (next - reached + 1) ' ' ++ layTabs next rest

def expandTabs (line : List Char) : List Char :=
  layTabs 0 (line.splitOn '\t')

def words (cs : List Char) : List (List Char) :=
  let lead := cs.takeWhile Text.isBlank
  let chunks := (cs.drop lead.length).foldl (fun (done : List (List Char)) c =>
    match done with
    | [] => [[c]]
    | word :: rest =>
      if (word.head?.map Text.isBlank).getD false && !Text.isBlank c then [c] :: word :: rest
      else (c :: word) :: rest) []
  match (chunks.map List.reverse).reverse with
  | [] => []
  | first :: rest => (lead ++ first) :: rest

def dropTrailingBlanks (cs : List Char) : List Char :=
  (cs.reverse.dropWhile Text.isBlank).reverse

/-- The lines so far, the current one first, and the columns used of it. -/
structure Filling where
  lines : List (List Char)
  used : Nat

def beginLine (piece : List Char) : List (List Char) → List (List Char)
  | [] => [piece]
  | [[]] => [piece]
  | lines => piece :: lines

def Filling.begin (f : Filling) (piece : List Char) : Filling :=
  ⟨beginLine piece f.lines, Text.width piece⟩

def Filling.continue (f : Filling) (word : List Char) : Filling :=
  match f.lines with
  | [] => ⟨[word], Text.width word⟩
  | line :: before => ⟨(line ++ word) :: before, f.used + Text.width word⟩

/-- Adds a word where it fits: without the blanks behind it, which may stand over the edge. -/
def Filling.add (overflow : Overflow) (limit : Nat) (f : Filling) (word : List Char) : Filling :=
  let size := Text.width (dropTrailingBlanks word)
  if f.used + size ≤ limit then f.continue word
  else if limit < size && overflow == .fold then (Text.chop limit word).foldl Filling.begin f
  else f.begin word

def breakLine (overflow : Overflow) (limit : Nat) (line : List Char) : List (List Char) :=
  match ((words line).foldl (Filling.add overflow limit) ⟨[], 0⟩).lines with
  | [] => [line]
  | lines => lines.reverse

def trimExcess (limit : Nat) (line : List Char) : List Char :=
  let blanks := line.length - (dropTrailingBlanks line).length
  line.take (line.length - min blanks (line.length - limit))

def shorten (overflow : Overflow) (limit : Nat) (line : List Char) : List Char :=
  if Text.width line ≤ limit then line
  else match overflow with
    | .fold => Text.crop limit line
    | .ellipsis => Text.crop (limit - 1) line ++ ['…']

/-- Moves a line to its place within the width. A line cut short is not filled up again. -/
def align (flow : Flow) (limit : Nat) (line : List Char) : List Char :=
  match flow.alignment with
  | .natural => shorten flow.overflow limit line
  | .left => if Text.width line ≤ limit then Text.padTo limit line
    else shorten flow.overflow limit line
  | .centre =>
    let bare := shorten flow.overflow limit (dropTrailingBlanks line)
    Text.padTo limit (List.replicate ((limit - Text.width bare) / 2) ' ' ++ bare)

def wrap (flow : Flow) (limit : Nat) (cs : List Char) : List (List Char) :=
  (cs.splitOn '\n').flatMap fun line =>
    (breakLine flow.overflow limit (expandTabs line)).map fun part =>
      align flow limit (trimExcess limit part)

end BondQuery.Console
