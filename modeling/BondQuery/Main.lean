import BondQuery.Command.Run

/- The program: reads the files that a command line may look at, runs it, and then prints and
   writes what the report says. -/
namespace BondQuery.Main

open Command

def isDirectoryCode : UInt32 := 21

def readEntry (segments : Segments) : IO Entry := do
  try
    return .file (← IO.FS.readFile (pathText segments))
  catch e =>
    match e with
    | .inappropriateType _ code _ => return if code == isDirectoryCode then .directory else .missing
    | _ => return .missing

def directoryAbove (segments : Segments) : String :=
  pathText segments.dropLast

def writeEntry (segments : Segments) (text : String) : IO Unit := do
  IO.FS.createDirAll (directoryAbove segments)
  IO.FS.writeFile (pathText segments) text

def listedHome? (users user : String) : Option Segments :=
  (users.toList.splitOn '\n').findSome? fun entry =>
    match entry.splitOn ':' with
    | name :: _ :: _ :: _ :: _ :: home :: _ =>
      if name = user.toList then some (resolve [] (String.ofList home)) else none
    | _ => none

def readUsers : IO String := do
  try IO.FS.readFile "/etc/passwd" catch _ => return ""

def usualColumns : Nat := 80

end BondQuery.Main

open BondQuery Command in
def main (arguments : List String) : IO UInt32 := do
  let directory := resolve [] (toString (← IO.currentDir))
  let own := resolve [] ((← IO.getEnv "HOME").getD "/")
  let users ← Main.readUsers
  let base : Base :=
    { directory := directory
      home := fun user => if user.isEmpty then some own else Main.listedHome? users user
      standardConfig := own ++ [".config", "bond-compiler", "config.toml"] }
  let columns := ((← IO.getEnv "COLUMNS").bind String.toNat?).getD Main.usualColumns
  let entries ← (consulted base arguments).mapM fun path => do
    return (path, ← Main.readEntry path)
  let report := run ⟨base, fun path => (entries.lookup path).getD .missing, columns⟩ arguments
  report.written.forM fun (path, text) => Main.writeEntry path text
  IO.print report.output
  IO.eprint report.messages
  report.failure.forM fun e => IO.eprintln e.message
  return report.code.toUInt32
