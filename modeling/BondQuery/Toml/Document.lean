import BondQuery.Toml.Fault
import BondQuery.Toml.Value

/- The tables of a document while it is read, and which of their names are closed to later
   statements. -/
namespace BondQuery.Toml

/-- Applies a change to the table at a path, creating tables on the way. Inside an array of
    tables the path goes on in the last one. -/
def changeAt (throughArrays : Bool) (path : Path) (change : Table → Except Reason Table)
    (table : Table) : Except Reason Table :=
  match path with
  | [] => change table
  | name :: rest =>
    match table.lookup name with
    | none => do
      let inner ← changeAt throughArrays rest change []
      return table ++ [(name, .table inner)]
    | some (.table inner) => do
      let changed ← changeAt throughArrays rest change inner
      return replace name (.table changed) table
    | some (.array items) =>
      match throughArrays, items.getLast? with
      | true, some (.table inner) => do
        let changed ← changeAt throughArrays rest change inner
        return replace name (.array (items.dropLast ++ [.table changed])) table
      | _, _ => throw .overwritten
    | some _ => throw .overwritten

def insertNew (fault : Reason) (key : String) (value : Toml) (table : Table) :
    Except Reason Table :=
  if (table.lookup key).isSome then throw fault else return table ++ [(key, value)]

def appendTable (name : String) (table : Table) : Except Reason Table :=
  match table.lookup name with
  | none => return table ++ [(name, .array [.table []])]
  | some (.array items) => return replace name (.array (items ++ [.table []])) table
  | some _ => throw .overwritten

/-- Paths closed to later statements. Whatever lies below a frozen path is frozen as well; a
    nest may get new keys but no header. Paths of dotted keys become nests at the next header. -/
structure Marks where
  frozen : List Path
  nests : List Path
  pending : List Path

namespace Marks

def start : Marks :=
  ⟨[], [], []⟩

def isFrozen (m : Marks) (path : Path) : Bool :=
  path ≠ [] && m.frozen.any fun p => p.isPrefixOf path

def isNest (m : Marks) (path : Path) : Bool :=
  m.nests.contains path

def freeze (m : Marks) (path : Path) : Marks :=
  { m with frozen := path :: m.frozen }

def addNest (m : Marks) (path : Path) : Marks :=
  { m with nests := path :: m.nests }

def settle (m : Marks) : Marks :=
  ⟨m.frozen, m.pending ++ m.nests, []⟩

def release (m : Marks) (path : Path) : Marks :=
  { m with
    frozen := m.frozen.filter fun p => !path.isPrefixOf p
    nests := m.nests.filter fun p => !path.isPrefixOf p }

end Marks

structure Document where
  root : Table
  header : Path
  marks : Marks

namespace Document

def start : Document :=
  ⟨[], [], .start⟩

def openTable (doc : Document) (path : Path) : Except Reason Document := do
  let marks := doc.marks.settle
  -- the table has a header or is passed through by a dotted key, or it is closed for good
  if marks.isNest path || marks.isFrozen path then throw (.declaredTwice path)
  let root ← changeAt true path pure doc.root
  return ⟨root, path, marks.addNest path⟩

def openArrayItem (doc : Document) (path : Path) : Except Reason Document := do
  let marks := doc.marks.settle
  if marks.isFrozen path then throw (.immutable path)
  let root ← changeAt true path.dropLast (appendTable (path.getLastD "")) doc.root
  return ⟨root, path, (marks.release path).addNest path⟩

/-- Marks the tables that a dotted key passes through, none of which may have a header. -/
def markDotted (marks : Marks) (header : Path) (names : Path) : Except Reason Marks :=
  (List.range' 1 (names.length - 1)).foldlM (fun m n =>
    let path := header ++ names.take n
    if m.isNest path then throw (.redefined path)
    else return { m with pending := path :: m.pending }) marks

def assign (doc : Document) (names : Path) (value : Toml) : Except Reason Document := do
  let parent := doc.header ++ names.dropLast
  let marks ← markDotted doc.marks doc.header names
  if marks.isFrozen parent then throw (.immutable parent)
  let root ← changeAt true parent (insertNew .overwritten (names.getLastD "") value) doc.root
  let closed := if value.isContainer then marks.freeze (doc.header ++ names) else marks
  return ⟨root, doc.header, closed⟩

end Document

/-- An inline table while it is read. Its values are frozen once another key follows. -/
structure Inline where
  entries : Table
  frozen : List Path

namespace Inline

def start : Inline :=
  ⟨[], []⟩

def assign (t : Inline) (names : Path) (value : Toml) : Except Reason Inline := do
  if t.frozen.any fun p => p.isPrefixOf names then throw (.immutable names)
  let key := names.getLastD ""
  let entries ← changeAt false names.dropLast (insertNew (.duplicate key) key value) t.entries
  return ⟨entries, if value.isContainer then names :: t.frozen else t.frozen⟩

end Inline

end BondQuery.Toml
