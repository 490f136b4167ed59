import BondQuery.Command.Options

/- The command line: options for all commands, then a command with its own options and
   arguments. -/
namespace BondQuery.Command

inductive Notice where
  | version
  | help
  deriving DecidableEq, Repr

structure Shared where
  config : Option String
  verbose : Bool
  debug : Bool
  quiet : Bool
  notice : Option Notice

def Shared.start : Shared :=
  ⟨none, false, false, false, none⟩

def Shared.ask (notice : Notice) (o : Shared) : Shared :=
  { o with notice := o.notice <|> some notice }

def sharedSwitches : List (Switch Shared) := [
  ⟨["--config", "-c"], .value fun path o => { o with config := some path }⟩,
  ⟨["--no-color"], .flag id⟩,
  ⟨["--verbose", "-v"], .flag fun o => { o with verbose := true }⟩,
  ⟨["--debug"], .flag fun o => { o with debug := true }⟩,
  ⟨["--quiet", "-q"], .flag fun o => { o with quiet := true }⟩,
  ⟨["--version"], .flag (.ask .version)⟩,
  ⟨["--help"], .flag (.ask .help)⟩]

inductive Verb where
  | compile
  | probe
  | initConfig
  deriving DecidableEq, Repr

def Verb.all : List Verb :=
  [.compile, .probe, .initConfig]

def Verb.name : Verb → String
  | compile => "compile"
  | probe => "probe"
  | initConfig => "init-config"

def usage : Option Verb → String
  | none => "Usage: bond-compiler [OPTIONS] COMMAND [ARGS]..."
  | some .compile => "Usage: bond-compiler compile [OPTIONS] EXPRESSION..."
  | some .probe => "Usage: bond-compiler probe [OPTIONS] FIELD VALUES..."
  | some .initConfig => "Usage: bond-compiler init-config [OPTIONS]"

structure CompileOptions where
  count : Bool
  includeDeleted : Option Bool
  compact : Bool
  help : Bool

def compileSwitches : List (Switch CompileOptions) := [
  ⟨["--count"], .flag fun o => { o with count := true }⟩,
  ⟨["--include-deleted"], .flag fun o => { o with includeDeleted := some true }⟩,
  ⟨["--exclude-deleted"], .flag fun o => { o with includeDeleted := some false }⟩,
  ⟨["--compact"], .flag fun o => { o with compact := true }⟩,
  ⟨["--help"], .flag fun o => { o with help := true }⟩]

structure ProbeOptions where
  table : Bool
  compact : Bool
  help : Bool

def probeSwitches : List (Switch ProbeOptions) := [
  ⟨["--table"], .flag fun o => { o with table := true }⟩,
  ⟨["--compact"], .flag fun o => { o with compact := true }⟩,
  ⟨["--help"], .flag fun o => { o with help := true }⟩]

structure InitOptions where
  force : Bool
  output : Option String
  help : Bool

def initSwitches : List (Switch InitOptions) := [
  ⟨["--force", "-f"], .flag fun o => { o with force := true }⟩,
  ⟨["--output", "-o"], .value fun path o => { o with output := some path }⟩,
  ⟨["--help"], .flag fun o => { o with help := true }⟩]

inductive Request where
  | help (verb : Verb)
  | compile (options : CompileOptions) (words : List String)
  | probe (options : ProbeOptions) (field : String) (values : List String)
  | initConfig (options : InitOptions)

/-- Reads the arguments of a command. A request for help goes before all but unreadable options. -/
def readRequest (verb : Verb) (arguments : List String) : Except Misuse Request :=
  let fuel := arguments.length
  match verb with
  | .compile => do
    let (o, words) ← readArguments compileSwitches true fuel ⟨false, none, false, false⟩ arguments
    if o.help then return .help verb
    if words.isEmpty then throw .unknown
    return .compile o words
  | .probe => do
    let (o, words) ← readArguments probeSwitches true fuel ⟨false, false, false⟩ arguments
    if o.help then return .help verb
    match words with
    | field :: value :: more => return .probe o field (value :: more)
    | _ => throw .unknown
  | .initConfig => do
    let (o, words) ← readArguments initSwitches true fuel ⟨false, none, false⟩ arguments
    if o.help then return .help verb
    checkPath o.output
    if words.isEmpty then return .initConfig o else throw .unknown

inductive Line where
  | misused (misuse : Misuse)
  | notice (notice : Notice)
  | command (shared : Shared) (verb : Verb) (arguments : List String)

def readShared (arguments : List String) : Except Line (Shared × List String) := do
  let (shared, rest) ← (readArguments sharedSwitches false arguments.length .start arguments).mapError
    .misused
  match shared.notice with
  | some notice => throw (.notice notice)
  | none =>
    (checkPath shared.config).mapError .misused
    return (shared, rest)

/-- Reads a line. If there is no such command, what stands in its place may still be shared
    options with a notice to give. -/
def readLine (arguments : List String) : Line :=
  match readShared arguments with
  | .error line => line
  | .ok (_, []) => .misused .unknown
  | .ok (shared, name :: own) =>
    match Verb.all.find? (·.name == name) with
    | some verb => .command shared verb own
    | none =>
      match readShared (name :: own) with
      | .error line => line
      | .ok _ => .misused .unknown

end BondQuery.Command
