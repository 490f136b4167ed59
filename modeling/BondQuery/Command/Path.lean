import BondQuery.Error

/- Absolute paths. Empty and single-dot segments are dropped, and a double dot goes up. -/
namespace BondQuery.Command

/-- The segments of an absolute path, the root having none. -/
abbrev Segments := List String

def pathParts (path : String) : List (List Char) :=
  (path.toList.splitOn '/').filter fun part => part ≠ [] ∧ part ≠ ['.']

def addPart (done : Segments) (part : List Char) : Segments :=
  if part = ['.', '.'] then done.dropLast else done ++ [String.ofList part]

def resolve (directory : Segments) (path : String) : Segments :=
  (pathParts path).foldl addPart (if path.toList.head? = some '/' then [] else directory)

def pathText (segments : Segments) : String :=
  match segments with
  | [] => "/"
  | _ => String.join (segments.map ("/" ++ ·))

/-- Where paths begin: the directory of relative ones, the home of each user (that of the nameless
    user is the own), and the configuration that is read when none is named. -/
structure Base where
  directory : Segments
  home : String → Option Segments
  standardConfig : Segments

def Base.resolve (base : Base) (path : String) : Except Error Segments :=
  match path.toList.head?, pathParts path with
  | some '/', _ => .ok (Command.resolve [] path)
  -- without a user behind it, a tilde stands for the own home
  | _, ('~' :: user) :: parts =>
    match base.home (String.ofList user) with
    | some home => .ok (parts.foldl addPart home)
    | none => .error .noHome
  | _, _ => .ok (Command.resolve base.directory path)

def Base.path (base : Base) (named : Option String) : Except Error Segments :=
  match named with
  | some path => base.resolve path
  | none => .ok base.standardConfig

inductive Entry where
  | missing
  | directory
  | file (text : String)
  deriving DecidableEq, Repr

abbrev Files := Segments → Entry

def underFile (files : Files) (segments : Segments) : Bool :=
  (List.range segments.length).any fun n => match files (segments.take n) with
    | .file _ => true
    | _ => false

def segmentLimit : Nat := 255
def pathLimit : Nat := 4095

def isLongSegment (segment : String) : Bool :=
  segmentLimit < segment.utf8ByteSize

/-- Whether a path cannot even be looked for: because of its own length, or because it asks a
    directory for too long a name. -/
def isTooLong (files : Files) (segments : Segments) : Bool :=
  pathLimit < (pathText segments).utf8ByteSize ||
    (List.range segments.length).any fun n =>
      files (segments.take n) == .directory && (segments[n]?).any isLongSegment

def look (files : Files) (segments : Segments) : Except Error Entry :=
  if isTooLong files segments then .error (.nameTooLong (pathText segments))
  else .ok (files segments)

def longDirectory? (segments : Segments) : Option Segments :=
  ((List.range segments.length).find? fun n => (segments[n]?).any isLongSegment).map fun n =>
    segments.take (n + 1)

end BondQuery.Command
