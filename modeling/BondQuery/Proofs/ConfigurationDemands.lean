import BondQuery.Config.Document
import BondQuery.Proofs.AcceptedWeights

/- What is demanded of a configuration document. The demands stand in one row, in the order in which
   they are checked, and reading checks them in turn before it gives what stands at each path. -/
namespace BondQuery

namespace Toml

def table? : Toml → Option Table
  | table entries => some entries
  | _ => none

def entriesOf (found : Option Toml) : Table :=
  (found.bind table?).getD []

def at? : List String → Toml → Option Toml
  | [], value => some value
  | name :: rest, value => ((entriesOf (some value)).lookup name).bind (at? rest)

def strings? : Toml → Option (List String)
  | array items => items.mapM string?
  | _ => none

def bool? : Toml → Option Bool
  | bool b => some b
  | _ => none

def number? : Toml → Option Number
  | int n => some (.int n)
  | double x => some (.double x)
  | _ => none

def readable {α : Type} (read : Toml → Option α) (entries : Table) : List (String × α) :=
  entries.filterMap fun entry => (read entry.2).map (entry.1, ·)

section
variable {α : Type} {read : Toml → Option α} {entry : String × Toml} {entries : Table}

theorem readable_cons_of_none (none : read entry.2 = none) :
    readable read (entry :: entries) = readable read entries := by
  simp [readable, none]

theorem readable_cons_of_some {x : α} (given : read entry.2 = some x) :
    readable read (entry :: entries) = (entry.1, x) :: readable read entries := by
  simp [readable, given]

end

end Toml

namespace Config
open Toml (Table)

/-- What a value of the document has to be. -/
inductive Demand where
  | table
  | string
  | strings
  | bool
  | number
  | notBelowOne
  deriving DecidableEq

def Demand.fault : Demand → SettingFault
  | table => .noTable
  | string => .noString
  | strings => .noStringList
  | bool => .noBoolean
  | number => .noNumber
  | notBelowOne => .belowOne

/-- What is no number is not below one either. -/
def Demand.Met : Demand → Toml → Prop
  | table, value => ∃ entries, value = .table entries
  | string, value => ∃ s, value = .string s
  | strings, value => ∃ values, value = ofStrings values
  | bool, value => ∃ b, value = .bool b
  | number, value => ∃ w, value = ofNumber w
  | notBelowOne, value => ∀ w, value = ofNumber w → w = .double .nan ∨ w.AtLeastOne

def Demand.isMet : Demand → Toml → Bool
  | table, value => value.table?.isSome
  | string, value => value.string?.isSome
  | strings, value => value.strings?.isSome
  | bool, value => value.bool?.isSome
  | number, value => value.number?.isSome
  | notBelowOne, value => value.number?.all (!·.isBelowOne)

structure Setting where
  key : String
  demand : Demand
  value : Toml

def Setting.check (s : Setting) : Except Error Unit :=
  if s.demand.isMet s.value then .ok () else .error (.setting s.key s.demand.fault)

inductive Place where
  | single (path : List String)
  | each (path : List String)
  deriving DecidableEq

/-- What the document has at a place. -/
def Place.found (document : Table) : Place → List (String × Toml)
  | single path =>
    ((Toml.table document).at? path).toList.map (".".intercalate path, ·)
  | each path =>
    (Toml.entriesOf ((Toml.table document).at? path)).map fun entry =>
      (".".intercalate path ++ "." ++ entry.1, entry.2)

def types : List (Place × Demand) := [
  (.single ["indexes"], .table),
  (.single ["indexes", "data_folder"], .string),
  (.single ["indexes", "meta_folder"], .string),
  (.single ["indexes", "folder_registry"], .string),
  (.single ["indexes", "views"], .string),
  (.single ["indexes", "known"], .strings),
  (.single ["ranking"], .table),
  (.single ["ranking", "weights"], .table),
  (.each ["ranking", "weights"], .number),
  (.single ["data_core"], .table),
  (.single ["data_core", "source_ids"], .strings),
  (.single ["data_folders"], .table),
  (.each ["data_folders"], .string),
  (.single ["query"], .table),
  (.single ["query", "include_deleted"], .bool),
  (.single ["query", "count_honors_deleted_flag"], .bool),
  (.single ["display"], .table),
  (.single ["display", "colored_output"], .bool)]

/-- All that is demanded. Weights are compared with one after everything has its type. -/
def demands : List (Place × Demand) :=
  types ++ [(.each ["ranking", "weights"], .notBelowOne)]

def demandedAt (document : Table) (demand : Place × Demand) : List Setting :=
  (demand.1.found document).map fun found => ⟨found.1, demand.2, found.2⟩

def demanded (document : Table) : List Setting :=
  demands.flatMap (demandedAt document)

def readAt {α : Type} (document : Table) (path : List String) (taken : Toml → Option α)
    (default : α) : α :=
  (((Toml.table document).at? path).bind taken).getD default

def described (path : Option String) (document : Table) : Config where
  layout := {
    dataFolder := readAt document ["indexes", "data_folder"] Toml.string? Layout.standard.dataFolder
    metaFolder := readAt document ["indexes", "meta_folder"] Toml.string? Layout.standard.metaFolder
    folderRegistry :=
      readAt document ["indexes", "folder_registry"] Toml.string? Layout.standard.folderRegistry
    views := readAt document ["indexes", "views"] Toml.string? Layout.standard.views
    known := readAt document ["indexes", "known"] Toml.strings? Layout.standard.known }
  weights :=
    readAt document ["ranking", "weights"] (·.table?.map (Toml.readable Toml.number?)) []
  dataCoreSources := readAt document ["data_core", "source_ids"] Toml.strings? []
  dataFolders := readAt document ["data_folders"] (·.table?.map (Toml.readable Toml.string?)) []
  includeDeleted := readAt document ["query", "include_deleted"] Toml.bool? false
  countHonorsDeleted := readAt document ["query", "count_honors_deleted_flag"] Toml.bool? false
  coloredOutput := readAt document ["display", "colored_output"] Toml.bool? true
  path := path

def checked (path : Option String) (document : Table) : Except Error (Config × List String) := do
  let config ← ofDocument path document
  return (config, ← config.validate)

/- Single values. -/

theorem string?_eq_some_iff {value : Toml} {s : String} :
    value.string? = some s ↔ value = .string s := by
  cases value <;> simp [Toml.string?]

theorem mapM_string?_eq_some_iff {items : List Toml} {values : List String} :
    items.mapM Toml.string? = some values ↔ items = values.map Toml.string := by
  induction items generalizing values with
  | nil => cases values <;> simp
  | cons item items ih =>
    cases values <;> simp [Option.bind_eq_some_iff, string?_eq_some_iff, ih]

theorem strings?_eq_some_iff {value : Toml} {values : List String} :
    value.strings? = some values ↔ value = ofStrings values := by
  cases value <;> simp [Toml.strings?, ofStrings, mapM_string?_eq_some_iff]

theorem number?_eq_some_iff {value : Toml} {w : Number} :
    value.number? = some w ↔ value = ofNumber w := by
  cases value <;> cases w <;> simp [Toml.number?, ofNumber]

theorem Demand.isMet_iff {demand : Demand} {value : Toml} :
    demand.isMet value = true ↔ demand.Met value := by
  cases demand with
  | table => cases value <;> simp [isMet, Met, Toml.table?]
  | string => cases value <;> simp [isMet, Met, Toml.string?]
  | bool => cases value <;> simp [isMet, Met, Toml.bool?]
  | strings => simp [isMet, Met, Option.isSome_iff_exists, strings?_eq_some_iff]
  | number => simp [isMet, Met, Option.isSome_iff_exists, number?_eq_some_iff]
  | notBelowOne =>
    simp [isMet, Met, Option.all_eq_true, number?_eq_some_iff, Number.isBelowOne_eq_false_iff]

theorem Setting.check_eq_ok_iff {s : Setting} : s.check = .ok () ↔ s.demand.Met s.value := by
  rw [check, ← Demand.isMet_iff]
  cases s.demand.isMet s.value <;> simp

theorem Setting.check_eq_error_iff {s : Setting} {error : Error} :
    s.check = .error error ↔ ¬ s.demand.Met s.value ∧ error = .setting s.key s.demand.fault := by
  rw [check, ← Demand.isMet_iff]
  cases s.demand.isMet s.value <;> simp [eq_comm]

/- One step after the other. -/

section
variable {α β : Type}

/-- The step checks the settings in turn and then gives the value. -/
def Yields (step : Except Error α) (settings : List Setting) (value : α) : Prop :=
  step = do
    forM settings Setting.check
    return value

theorem Yields.of_eq {step : Except Error α} {settings settings' : List Setting}
    {value value' : α} (yields : Yields step settings value) (row : settings = settings')
    (answer : value = value') : Yields step settings' value' :=
  row ▸ answer ▸ yields

theorem Yields.bind {step : Except Error α} {next : α → Except Error β}
    {settings later : List Setting} {value : α} {result : β} (first : Yields step settings value)
    (second : Yields (next value) later result) :
    Yields (step >>= next) (settings ++ later) result := by
  unfold Yields at first second ⊢
  rw [first, List.forM_append, bind_assoc, bind_assoc]
  simp only [pure_bind, second]

theorem yields_pure (value : α) : Yields (pure value) [] value :=
  rfl

theorem yields_readSection (document : Table) (title : String) :
    Yields (readSection document title) ((document.lookup title).toList.map (⟨title, .table, ·⟩))
      (Toml.entriesOf (document.lookup title)) := by
  unfold readSection Yields
  cases document.lookup title with
  | none => rfl
  | some value => cases value <;> rfl

structure Reads (read : String → Toml → Except Error α) (demand : Demand)
    (taken : Toml → Option α) (write : α → Toml) : Prop where
  met : ∀ value, demand.isMet value = (taken value).isSome
  answer : ∀ key value,
    read key value = (taken value).elim (.error (.setting key demand.fault)) .ok
  back : ∀ value x, taken value = some x → value = write x

theorem reads_table : Reads asTable .table Toml.table? .table where
  met _ := rfl
  answer key value := by cases value <;> rfl
  back value entries taken := by
    cases value <;> cases taken
    rfl

theorem reads_string : Reads asString .string Toml.string? .string where
  met _ := rfl
  answer key value := by cases value <;> rfl
  back _ _ := string?_eq_some_iff.mp

theorem reads_strings : Reads asStrings .strings Toml.strings? ofStrings where
  met _ := rfl
  answer key value := by
    cases value with
    | array items =>
      rw [asStrings, Toml.strings?]
      cases items.mapM Toml.string? <;> rfl
    | _ => rfl
  back _ _ := strings?_eq_some_iff.mp

theorem reads_bool : Reads asBool .bool Toml.bool? .bool where
  met _ := rfl
  answer key value := by cases value <;> rfl
  back value b taken := by
    cases value <;> cases taken
    rfl

theorem reads_number : Reads asNumber .number Toml.number? ofNumber where
  met _ := rfl
  answer key value := by cases value <;> rfl
  back _ _ := number?_eq_some_iff.mp

section
variable {read : String → Toml → Except Error α} {demand : Demand} {taken : Toml → Option α}
variable {write : α → Toml} (reads : Reads read demand taken write)
include reads

theorem check_eq (key : String) (value : Toml) :
    Setting.check ⟨key, demand, value⟩ =
      (taken value).elim (.error (.setting key demand.fault)) fun _ => .ok () := by
  rw [Setting.check, reads.met]
  cases taken value <;> rfl

theorem yields_readKey (entries : Table) (title key : String) (default : α) :
    Yields (readKey entries title key read default)
      ((entries.lookup key).toList.map (⟨title ++ "." ++ key, demand, ·⟩))
      (((entries.lookup key).bind taken).getD default) := by
  unfold readKey Yields
  cases entries.lookup key with
  | none => rfl
  | some value =>
    simp only [Option.toList_some, List.map_cons, List.map_nil, List.forM_cons, List.forM_nil,
      Option.bind_some, reads.answer, check_eq reads]
    cases taken value <;> rfl

theorem yields_readEntries (title : String) (entries : Table) :
    Yields (readEntries title read entries)
      (entries.map fun entry => ⟨title ++ "." ++ entry.1, demand, entry.2⟩)
      (Toml.readable taken entries) := by
  unfold readEntries Yields
  induction entries with
  | nil => rfl
  | cons entry entries ih =>
    rw [List.mapM_cons, ih, List.map_cons, List.forM_cons, check_eq reads]
    simp only [reads.answer]
    cases given : taken entry.2 with
    | none => rfl
    | some x =>
      rw [Toml.readable_cons_of_some given, Option.elim_some, Option.elim_some]
      cases forM (entries.map fun entry => ⟨title ++ "." ++ entry.1, demand, entry.2⟩)
        Setting.check <;> rfl

end

theorem yields_readTable (entries : Table) (title key : String) :
    Yields (readKey entries title key asTable [])
      ((entries.lookup key).toList.map (⟨title ++ "." ++ key, .table, ·⟩))
      (Toml.entriesOf (entries.lookup key)) :=
  yields_readKey reads_table ..

theorem yields_validate {config : Config} {entries : Table}
    (same : config.weights = Toml.readable Toml.number? entries) :
    Yields config.validate
      (entries.map fun entry => ⟨"ranking.weights." ++ entry.1, .notBelowOne, entry.2⟩)
      config.warnings := by
  have single (key : String) (value : Toml) : Setting.check ⟨key, .notBelowOne, value⟩ =
      if value.number?.all (!·.isBelowOne) then .ok () else .error (.setting key .belowOne) := rfl
  unfold validate Yields
  rw [same]
  generalize config.warnings = warnings
  clear same
  induction entries with
  | nil => rfl
  | cons entry entries ih =>
    rw [List.map_cons, List.forM_cons, single]
    cases given : entry.2.number? with
    | none =>
      rw [Toml.readable_cons_of_none given]
      exact ih
    | some w =>
      rw [Toml.readable_cons_of_some given, List.find?_cons, Option.all_some]
      cases w.isBelowOne with
      | true => rfl
      | false => exact ih

theorem at?_section (document : Table) (title : String) :
    (Toml.table document).at? [title] = document.lookup title :=
  Option.bind_fun_some _

theorem at?_key (document : Table) (title key : String) :
    (Toml.table document).at? [title, key] =
      (Toml.entriesOf (document.lookup title)).lookup key := by
  have first : (Toml.table document).at? [title, key] =
      (document.lookup title).bind (Toml.at? [key]) := rfl
  rw [first]
  cases document.lookup title with
  | none => rfl
  | some value => exact Option.bind_fun_some _

theorem readable_entriesOf {taken : Toml → Option α} (found : Option Toml) :
    Toml.readable taken (Toml.entriesOf found) =
      (found.bind (·.table?.map (Toml.readable taken))).getD [] := by
  cases found with
  | none => rfl
  | some value => cases value <;> rfl

section
variable (document : Table) (title key : String) (demand : Demand)

theorem demandedAt_section : demandedAt document (.single [title], demand) =
    (document.lookup title).toList.map (⟨title, demand, ·⟩) := by
  simp [demandedAt, Place.found, at?_section]

theorem demandedAt_key : demandedAt document (.single [title, key], demand) =
    ((Toml.entriesOf (document.lookup title)).lookup key).toList.map
      (⟨title ++ "." ++ key, demand, ·⟩) := by
  simp [demandedAt, Place.found, at?_key]

theorem demandedAt_sectionEntries : demandedAt document (.each [title], demand) =
    (Toml.entriesOf (document.lookup title)).map fun entry =>
      ⟨title ++ "." ++ entry.1, demand, entry.2⟩ := by
  simp [demandedAt, Place.found, at?_section]

theorem demandedAt_keyEntries : demandedAt document (.each [title, key], demand) =
    (Toml.entriesOf ((Toml.entriesOf (document.lookup title)).lookup key)).map fun entry =>
      ⟨title ++ "." ++ key ++ "." ++ entry.1, demand, entry.2⟩ := by
  simp [demandedAt, Place.found, at?_key]

end

theorem yields_ofDocument (path : Option String) (document : Table) :
    Yields (ofDocument path document) (types.flatMap (demandedAt document))
      (described path document) := by
  apply Yields.of_eq
  case yields =>
    unfold ofDocument
    apply Yields.bind (yields_readSection ..)
    apply Yields.bind
    case first =>
      unfold readLayout
      apply Yields.bind (yields_readKey reads_string ..)
      apply Yields.bind (yields_readKey reads_string ..)
      apply Yields.bind (yields_readKey reads_string ..)
      apply Yields.bind (yields_readKey reads_string ..)
      apply Yields.bind (yields_readKey reads_strings ..)
      exact yields_pure _
    case second =>
      apply Yields.bind (yields_readSection ..)
      apply Yields.bind (yields_readTable ..)
      apply Yields.bind (yields_readEntries reads_number ..)
      apply Yields.bind (yields_readSection ..)
      apply Yields.bind (yields_readKey reads_strings ..)
      apply Yields.bind (yields_readSection ..)
      apply Yields.bind (yields_readEntries reads_string ..)
      apply Yields.bind (yields_readSection ..)
      apply Yields.bind (yields_readKey reads_bool ..)
      apply Yields.bind (yields_readKey reads_bool ..)
      apply Yields.bind (yields_readSection ..)
      apply Yields.bind (yields_readKey reads_bool ..)
      exact yields_pure _
  case row =>
    simp only [types, List.flatMap_cons, List.flatMap_nil, demandedAt_section, demandedAt_key,
      demandedAt_sectionEntries, demandedAt_keyEntries, List.append_assoc, List.append_nil]
    rfl
  case answer =>
    simp only [described, readAt, at?_section, at?_key, readable_entriesOf]

theorem yields_checked (path : Option String) (document : Table) :
    Yields (checked path document) (demanded document)
      (described path document, (described path document).warnings) := by
  have weights : (described path document).weights = Toml.readable Toml.number?
      (Toml.entriesOf ((Toml.entriesOf (document.lookup "ranking")).lookup "weights")) := by
    simp only [described, readAt, at?_key, readable_entriesOf]
  apply Yields.of_eq
  case yields =>
    apply Yields.bind (yields_ofDocument path document)
    exact .bind (yields_validate weights) (yields_pure _)
  case row =>
    rw [demanded, demands, List.flatMap_append, List.flatMap_singleton, demandedAt_keyEntries,
      List.append_nil]
    rfl
  case answer => rfl

end

end Config

end BondQuery
