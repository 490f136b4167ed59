import BondQuery.Text.WidthClass

/- Columns that a text takes on a screen, and the pieces that may not be parted. A joiner draws the
   next character into the one before it; a selector turns a narrow symbol into a wide emoji. -/
namespace BondQuery.Text

def joiner : Char := '\u200d'

def emojiSelector : Char := '\ufe0f'

def selectorWidth (last : Option Char) : Nat :=
  if last.any (inRanges narrowEmojiRanges) then 1 else 0

/-- The width of a text behind a character; characters of width zero are passed over. A joiner
    takes the next character with it. -/
def widthAfter (last : Option Char) : List Char → Nat
  | [] => 0
  | '\u200d' :: _ :: rest => widthAfter last rest
  | c :: rest =>
    if c == emojiSelector then selectorWidth last + widthAfter none rest
    else match charWidth c with
      | 0 => widthAfter last rest
      | size => size + widthAfter (some c) rest

def width (cs : List Char) : Nat :=
  widthAfter none cs

structure Cluster where
  chars : List Char
  size : Nat
  deriving DecidableEq, Repr

def joinLatest (added : Cluster) : List Cluster → List Cluster
  | [] => [added]
  | latest :: before => ⟨latest.chars ++ added.chars, latest.size + added.size⟩ :: before

def clustersAfter (last : Option Char) (before : List Cluster) : List Char → List Cluster
  | [] => before
  | '\u200d' :: d :: rest =>
    if before.isEmpty then clustersAfter last [⟨[joiner], 0⟩] (d :: rest)
    else clustersAfter last (joinLatest ⟨[joiner, d], 0⟩ before) rest
  | c :: rest =>
    if c == emojiSelector then
      clustersAfter none (joinLatest ⟨[c], selectorWidth last⟩ before) rest
    else match charWidth c with
      | 0 => clustersAfter last (joinLatest ⟨[c], 0⟩ before) rest
      | size => clustersAfter (some c) (⟨[c], size⟩ :: before) rest

def clusters (cs : List Char) : List Cluster :=
  (clustersAfter none [] cs).reverse

/-- The clusters that fit into a width. A blank stands for the half of one that fits by half. -/
def cropClusters (limit : Nat) : List Cluster → List Char
  | [] => []
  | cluster :: rest =>
    if limit = 0 then []
    else if cluster.size ≤ limit then cluster.chars ++ cropClusters (limit - cluster.size) rest
    else [' ']

def crop (limit : Nat) (cs : List Char) : List Char :=
  if width cs ≤ limit then cs else cropClusters limit (clusters cs)

def chopClusters (limit : Nat) (piece : List Char) (size : Nat) : List Cluster → List (List Char)
  -- what is left without any width is dropped
  | [] => if size = 0 then [] else [piece]
  | cluster :: rest =>
    if limit < size + cluster.size then
      piece :: chopClusters limit cluster.chars cluster.size rest
    else chopClusters limit (piece ++ cluster.chars) (size + cluster.size) rest

def chop (limit : Nat) (cs : List Char) : List (List Char) :=
  chopClusters limit [] 0 (clusters cs)

def padTo (limit : Nat) (cs : List Char) : List Char :=
  cs ++ List.replicate (limit - width cs) ' '

end BondQuery.Text
