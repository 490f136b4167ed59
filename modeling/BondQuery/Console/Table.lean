import BondQuery.Console.Columns
import BondQuery.Console.Markup
import BondQuery.Console.Wrap

/- Tables with a frame, a heading row and a title. Columns are as wide as their widest line, as far
   as the screen allows, and the title is centred over the table, on several lines if need be. -/
namespace BondQuery.Console

structure Table where
  title : String
  heading : List String
  rows : List (List String)

structure Strokes where
  left : Char
  fill : Char
  between : Char
  right : Char

def topStrokes : Strokes := ⟨'┏', '━', '┳', '┓'⟩
def headingStrokes : Strokes := ⟨'┃', ' ', '┃', '┃'⟩
def dividerStrokes : Strokes := ⟨'┡', '━', '╇', '┩'⟩
def rowStrokes : Strokes := ⟨'│', ' ', '│', '│'⟩
def bottomStrokes : Strokes := ⟨'└', '─', '┴', '┘'⟩

def frameLine (strokes : Strokes) (cells : List (List Char)) : List Char :=
  strokes.left :: [strokes.between].intercalate cells ++ [strokes.right]

def ruleLine (strokes : Strokes) (widths : List Nat) : List Char :=
  frameLine strokes (widths.map fun w => List.replicate (w + 2) strokes.fill)

def rowLines (strokes : Strokes) (widths : List Nat) (cells : List (List (List Char))) :
    List (List Char) :=
  let height := (cells.map List.length).foldl max 1
  (List.range height).map fun i =>
    frameLine strokes ((widths.zip cells).map fun (w, lines) =>
      ' ' :: Text.padTo w (lines.getD i []) ++ [' '])

def endsLine (c : Char) : Bool :=
  c == '\n' || c == '\x1c' || c == '\x1d' || c == '\x1e' || c == '\u0085' || c == '\u2028' ||
    c == '\u2029'

/-- The width of the widest line of a cell. A tabulator counts for nothing. -/
def cellWidth (cell : List Char) : Nat :=
  ((cell.splitOnP endsLine).map Text.width).foldl max 0

def frameWidth (columns : Nat) : Nat :=
  3 * columns + 1

def cellFlow : Flow := ⟨.ellipsis, .left⟩
def titleFlow : Flow := ⟨.fold, .centre⟩

def Table.lines (screen : Nat) (t : Table) : Except Error (List (List Char)) := do
  let heading ← t.heading.mapM render
  let rows ← t.rows.mapM (·.mapM render)
  let title ← render t.title
  let padding := 2 * heading.length
  let frame := frameWidth heading.length
  let limit := screen + padding - frame
  let measured := (List.range heading.length).map fun i =>
    min limit (((heading :: rows).map fun row => cellWidth (row.getD i [])).foldl max 0 + 2)
  let widths := (fitColumns limit measured).map (· - 2)
  let laid (row : List (List Char)) := (widths.zip row).map fun (w, cell) => wrap cellFlow w cell
  return wrap titleFlow (total widths + frame) title ++
    [ruleLine topStrokes widths] ++ rowLines headingStrokes widths (laid heading) ++
    [ruleLine dividerStrokes widths] ++
    rows.flatMap (fun row => rowLines rowStrokes widths (laid row)) ++
    [ruleLine bottomStrokes widths]

end BondQuery.Console
