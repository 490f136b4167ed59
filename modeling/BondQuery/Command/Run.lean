import BondQuery.Bond.Parser
import BondQuery.Command.Line
import BondQuery.Command.Path
import BondQuery.Config.Document
import BondQuery.Config.Example
import BondQuery.Console.Table
import BondQuery.Json.Printer
import BondQuery.Probe
import BondQuery.Session

/- Running a command: what it prints, the file that it writes and the code with which it ends.
   Nothing here touches a file or a console; the answer says what is to be done. -/
namespace BondQuery.Command

/-- Where a command runs: what the paths there lead to, and how many columns its screen has. -/
structure Place extends Base where
  files : Files
  columns : Nat

structure Screen where
  columns : Nat
  output : List Char
  messages : List Char
  written : List (Segments × String)

/-- How a command ends before its last step: with a code, or with an error that it does not
    handle. -/
inductive Stop where
  | code (n : Nat)
  | failure (error : Error)

abbrev Run := ExceptT Stop (StateM Screen)

structure Report where
  code : Nat
  output : String
  messages : String
  written : List (Segments × String)
  failure : Option Error

def line (text : List Char) : List Char :=
  text ++ ['\n']

def printLine (text : List Char) : Run Unit :=
  modify fun s => { s with output := s.output ++ line text }

def noteLine (text : List Char) : Run Unit :=
  modify fun s => { s with messages := s.messages ++ line text }

def orFail {α : Type} (r : Except Error α) : Run α :=
  match r with
  | .ok a => pure a
  | .error e => throw (.failure e)

def messageFlow : Console.Flow := ⟨.fold, .natural⟩

def messageLines (message : String) : Run (List (List Char)) := do
  let text ← orFail (Console.render message)
  return Console.wrap messageFlow (← get).columns text

def say (message : String) : Run Unit := do
  (← messageLines message).forM printLine

def note (message : String) : Run Unit := do
  (← messageLines message).forM noteLine

def styled (style message : String) : String :=
  "[" ++ style ++ "]" ++ message ++ "[/" ++ style ++ "]"

def warn (message : String) : Run Unit :=
  note (styled "warning" "Warning:" ++ " " ++ message)

def complain (message : String) : Run Unit :=
  note (styled "error" "Error:" ++ " " ++ message)

def refuse {α : Type} (code : Nat) (message : String) : Run α := do
  complain message
  throw (.code code)

/-- A document on one line, or indented with its lines cut at the edge of the screen. -/
def printJson (compact : Bool) (json : Json) : Run Unit := do
  if compact then printLine json.chars
  else
    let columns := (← get).columns
    ((json.indentedChars 0).splitOn '\n').forM fun text => printLine (Text.crop columns text)

def misuse {α : Type} (verb : Option Verb) (misuse : Misuse) : Run α := do
  match misuse with
  | .unknown => noteLine (usage verb).toList
  | .takesNoValue name => noteLine ("Error: Option '" ++ name ++ "' does not take a value.").toList
  | .needsValue name => noteLine ("Error: Option '" ++ name ++ "' requires an argument.").toList
  | .nullCharacter => throw (.failure .nullCharacter)
  throw (.code 2)

def readConfig (place : Place) (shared : Shared) : Except Error (Config × List String) := do
  let segments ← place.path shared.config
  let path := pathText segments
  match ← look place.files segments with
  | .missing => Config.load path none
  | .file text => Config.load path (some text)
  | .directory => throw (.isDirectory path)

def loadConfig (place : Place) (shared : Shared) : Run Config := do
  match readConfig place shared with
  | .error e => refuse 1 e.message
  | .ok (config, warnings) =>
    if !shared.quiet then warnings.forM warn
    return config

def isLoweringError : Error → Bool
  | .value .. => true
  | .unsupportedOperator .. => true
  | .unsupportedRelation _ => true
  | _ => false

def runCompile (shared : Shared) (config : Config) (options : CompileOptions)
    (words : List String) : Run Unit := do
  let text := " ".intercalate words
  if shared.verbose || shared.debug then say (styled "info" ("Compiling: " ++ text))
  let expression ← match Syntax.parse text with
    | .ok e => pure e
    | .error e => refuse 1 e.message
  let settings ← orFail (config.settings options.includeDeleted)
  let query ← match lower settings expression with
    | .ok q => pure q
    | .error e => if isLoweringError e then refuse 2 e.message else throw (.failure e)
  let (appended, assembly) := Assembly.empty.append query
  orFail appended
  let compiled ← orFail (assembly.build settings options.count).1
  printJson options.compact (.field "query" compiled.query.toJson)

def runProbe (config : Config) (options : ProbeOptions) (field : String) (values : List String) :
    Run Unit := do
  let probes ← orFail (Probe.ofValues config.layout field values)
  if options.table then
    let table : Console.Table :=
      ⟨"Probes for " ++ field, ["Index", "Value"], probes.map fun p => [p.index, p.value]⟩
    (← orFail (table.lines (← get).columns)).forM printLine
  else printJson options.compact (Probe.request probes)

def refuseWriting {α : Type} (error : Error) : Run α :=
  refuse 1 ("Failed to write config file: " ++ error.message)

def runInit (place : Place) (options : InitOptions) : Run Unit := do
  let segments ← orFail (place.path options.output)
  let path := pathText segments
  let entry ← orFail (look place.files segments)
  if entry ≠ .missing && !options.force then
    refuse 1 ("Config file already exists: " ++ path)
  let parent := segments.dropLast
  if underFile place.files parent then throw (.failure (.notDirectory (pathText parent)))
  if underFile place.files segments then throw (.failure (.fileExists (pathText parent)))
  if let some directory := longDirectory? parent then
    throw (.failure (.nameTooLong (pathText directory)))
  if entry = .directory then refuseWriting (.isDirectory path)
  if (segments.getLast?).any isLongSegment then refuseWriting (.nameTooLong path)
  modify fun s => { s with written := s.written ++ [(segments, Config.exampleText)] }
  say (styled "success" ("Created config file: " ++ path))
  say (styled "info" "Edit [data_folders] and [data_core] to describe your sources.")

def runLine (place : Place) : Line → Run Unit
  | .misused why => misuse none why
  | .notice .version => printLine "bond-compiler, version 0.1.0".toList
  | .notice .help => printLine (usage none).toList
  | .command shared verb arguments => do
    let config ← loadConfig place shared
    match readRequest verb arguments with
    | .error why => misuse (some verb) why
    | .ok (.help verb) => printLine (usage (some verb)).toList
    | .ok (.compile options words) => runCompile shared config options words
    | .ok (.probe options field values) => runProbe config options field values
    | .ok (.initConfig options) => runInit place options

def run (place : Place) (arguments : List String) : Report :=
  let (result, screen) := (runLine place (readLine arguments)).run.run ⟨place.columns, [], [], []⟩
  let report (code : Nat) (failure : Option Error) : Report :=
    ⟨code, String.ofList screen.output, String.ofList screen.messages, screen.written, failure⟩
  match result with
  | .ok () => report 0 none
  | .error (.code n) => report n none
  | .error (.failure e) => report 1 (some e)

def withParents (path : Except Error Segments) : List Segments :=
  match path with
  | .ok segments => (List.range (segments.length + 1)).map segments.take
  | .error _ => []

/-- The paths that a command line may look at: the configuration and the file to be written, with
    every directory above them. -/
def consulted (base : Base) (arguments : List String) : List Segments :=
  match readLine arguments with
  | .command shared verb own =>
    withParents (base.path shared.config) ++ match readRequest verb own with
      | .ok (.initConfig options) => withParents (base.path options.output)
      | _ => []
  | _ => []

end BondQuery.Command
