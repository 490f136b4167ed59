import BondQuery.Config.Basic
import BondQuery.Toml.Reader
import BondQuery.Toml.Writer

/- The configuration as a TOML document. Every section and key may be missing; keys that are
   not known are passed over. -/
namespace BondQuery.Config

open Toml (Table)

def readSection (document : Table) (name : String) : Except Error Table :=
  match document.lookup name with
  | none => .ok []
  | some (.table entries) => .ok entries
  | some _ => .error (.setting name .noTable)

def asString (key : String) : Toml → Except Error String
  | .string s => .ok s
  | _ => .error (.setting key .noString)

def asStrings (key : String) : Toml → Except Error (List String)
  | .array items =>
    match items.mapM Toml.string? with
    | some values => .ok values
    | none => .error (.setting key .noStringList)
  | _ => .error (.setting key .noStringList)

def asBool (key : String) : Toml → Except Error Bool
  | .bool b => .ok b
  | _ => .error (.setting key .noBoolean)

def asNumber (key : String) : Toml → Except Error Number
  | .int n => .ok (.int n)
  | .double x => .ok (.double x)
  | _ => .error (.setting key .noNumber)

def asTable (key : String) : Toml → Except Error Table
  | .table entries => .ok entries
  | _ => .error (.setting key .noTable)

def readKey {α : Type} (entries : Table) (title key : String)
    (read : String → Toml → Except Error α) (default : α) : Except Error α :=
  match entries.lookup key with
  | some value => read (title ++ "." ++ key) value
  | none => .ok default

def readEntries {α : Type} (title : String) (read : String → Toml → Except Error α)
    (entries : Table) : Except Error (List (String × α)) :=
  entries.mapM fun (name, value) => do return (name, ← read (title ++ "." ++ name) value)

def readLayout (indexes : Table) : Except Error Layout := do
  let d := Layout.standard
  let dataFolder ← readKey indexes "indexes" "data_folder" asString d.dataFolder
  let metaFolder ← readKey indexes "indexes" "meta_folder" asString d.metaFolder
  let folderRegistry ← readKey indexes "indexes" "folder_registry" asString d.folderRegistry
  let views ← readKey indexes "indexes" "views" asString d.views
  let known ← readKey indexes "indexes" "known" asStrings d.known
  return ⟨dataFolder, metaFolder, folderRegistry, views, known⟩

/-- Reads the sections in a fixed order, so the first fault in that order is reported. -/
def ofDocument (path : Option String) (document : Table) : Except Error Config := do
  let layout ← readLayout (← readSection document "indexes")
  let weightTable ← readKey (← readSection document "ranking") "ranking" "weights" asTable []
  let weights ← readEntries "ranking.weights" asNumber weightTable
  let dataCoreSources ←
    readKey (← readSection document "data_core") "data_core" "source_ids" asStrings []
  let dataFolders ← readEntries "data_folders" asString (← readSection document "data_folders")
  let query ← readSection document "query"
  let includeDeleted ← readKey query "query" "include_deleted" asBool false
  let countHonorsDeleted ← readKey query "query" "count_honors_deleted_flag" asBool false
  let display ← readSection document "display"
  let coloredOutput ← readKey display "display" "colored_output" asBool true
  return ⟨layout, weights, dataCoreSources, dataFolders, includeDeleted, countHonorsDeleted,
    coloredOutput, path⟩

def ofText (path : String) (text : String) : Except Error (Config × List String) := do
  let cs := Toml.unifyLineEnds text.toList
  match Toml.read cs with
  | .ok document =>
    let config ← ofDocument (some path) document
    return (config, ← config.validate)
  | .error ⟨_, .tooManyDigits count⟩ => throw (.digitsTooMany count)
  | .error fault => throw (.configText path (fault.message cs))

def load (path : String) (contents : Option String) : Except Error (Config × List String) :=
  match contents with
  | some text => ofText path text
  | none => do
    let found ← standard.validate
    return (standard, ("No config file found at " ++ path ++
      ". Using defaults. Create config with: bond-compiler init-config") :: found)

def ofStrings (values : List String) : Toml :=
  .array (values.map .string)

def ofNumber : Number → Toml
  | .int n => .int n
  | .double x => .double x

/-- Sections without any entry are left out, the first three excepted. -/
def toDocument (config : Config) : Table :=
  let layout := config.layout
  [("indexes", .table [
      ("data_folder", .string layout.dataFolder),
      ("meta_folder", .string layout.metaFolder),
      ("folder_registry", .string layout.folderRegistry),
      ("views", .string layout.views),
      ("known", ofStrings layout.known)]),
    ("query", .table [
      ("include_deleted", .bool config.includeDeleted),
      ("count_honors_deleted_flag", .bool config.countHonorsDeleted)]),
    ("display", .table [("colored_output", .bool config.coloredOutput)])] ++
  (if config.weights.isEmpty then []
    else [("ranking", .table [("weights", .table (config.weights.map fun (k, w) => (k, ofNumber w)))])]) ++
  (if config.dataCoreSources.isEmpty then []
    else [("data_core", .table [("source_ids", ofStrings config.dataCoreSources)])]) ++
  (if config.dataFolders.isEmpty then []
    else [("data_folders", .table (config.dataFolders.map fun (k, f) => (k, .string f)))])

def toText (config : Config) : Except Error String :=
  if config.weights.all fun (_, w) => w.text?.isSome then
    .ok (String.ofList (Toml.write config.toDocument))
  else .error .integerTooLong

end BondQuery.Config
