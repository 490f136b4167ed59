import BondQuery.Proofs.ConfigurationDemands

/- What a configuration document says. It is read if every demand on it is met and refused for the
   first that is not; each field is what stands at its path, whatever else the document holds. -/
namespace BondQuery

def Toml.keep (kept : String → Bool) : Toml → Toml
  | table entries => table (entries.filter (kept ·.1))
  | other => other

namespace Config
open Toml (Table)

/- The values that are read. -/

section
variable {α : Type}

def Given (found : Option Toml) (write : α → Toml) (default value : α) : Prop :=
  found = some (write value) ∨ found = none ∧ value = default

theorem given_of_found {found : Option Toml} {taken : Toml → Option α} {write : α → Toml}
    (back : ∀ value, found = some value → ∃ x, taken value = some x ∧ value = write x)
    (default : α) : Given found write default ((found.bind taken).getD default) := by
  cases found with
  | none => exact .inr ⟨rfl, rfl⟩
  | some value =>
    obtain ⟨x, read, written⟩ := back value rfl
    rw [Option.bind_some, read]
    exact .inl (congrArg some written)

theorem map_readable {taken : Toml → Option α} {write : α → Toml}
    (back : ∀ value x, taken value = some x → value = write x) {entries : Table}
    (all : ∀ entry ∈ entries, (taken entry.2).isSome = true) :
    (Toml.readable taken entries).map (fun entry => (entry.1, write entry.2)) = entries := by
  induction entries with
  | nil => rfl
  | cons entry entries ih =>
    obtain ⟨here, there⟩ := List.forall_mem_cons.mp all
    obtain ⟨x, read⟩ := Option.isSome_iff_exists.mp here
    rw [Toml.readable_cons_of_some read, List.map_cons, ih there, ← back entry.2 x read]

def ofEntries (write : α → Toml) (entries : List (String × α)) : Toml :=
  .table (entries.map fun entry => (entry.1, write entry.2))

end

/-- The configuration says what the document says: each field stands at one path, and has its
    default if there is nothing at that path. -/
structure Describes (document : Toml) (config : Config) : Prop where
  dataFolder : Given (document.at? ["indexes", "data_folder"]) .string
    Layout.standard.dataFolder config.layout.dataFolder
  metaFolder : Given (document.at? ["indexes", "meta_folder"]) .string
    Layout.standard.metaFolder config.layout.metaFolder
  folderRegistry : Given (document.at? ["indexes", "folder_registry"]) .string
    Layout.standard.folderRegistry config.layout.folderRegistry
  views : Given (document.at? ["indexes", "views"]) .string
    Layout.standard.views config.layout.views
  known : Given (document.at? ["indexes", "known"]) ofStrings
    Layout.standard.known config.layout.known
  weights : Given (document.at? ["ranking", "weights"]) (ofEntries ofNumber) [] config.weights
  dataCoreSources : Given (document.at? ["data_core", "source_ids"]) ofStrings []
    config.dataCoreSources
  dataFolders : Given (document.at? ["data_folders"]) (ofEntries .string) [] config.dataFolders
  includeDeleted : Given (document.at? ["query", "include_deleted"]) .bool false
    config.includeDeleted
  countHonorsDeleted : Given (document.at? ["query", "count_honors_deleted_flag"]) .bool false
    config.countHonorsDeleted
  coloredOutput : Given (document.at? ["display", "colored_output"]) .bool true
    config.coloredOutput

section
variable {document : Table} {path : List String} {demand : Demand}
variable (all : ∀ s ∈ demanded document, s.demand.Met s.value)
include all

theorem met_single (member : (Place.single path, demand) ∈ demands) (value : Toml)
    (found : (Toml.table document).at? path = some value) : demand.Met value := by
  refine all ⟨".".intercalate path, demand, value⟩ (List.mem_flatMap.mpr ⟨_, member, ?_⟩)
  simp [demandedAt, Place.found, found]

theorem met_each (member : (Place.each path, demand) ∈ demands) {entries : Table}
    (found : (Toml.table document).at? path = some (.table entries)) (entry : String × Toml)
    (inside : entry ∈ entries) : demand.Met entry.2 := by
  refine all ⟨".".intercalate path ++ "." ++ entry.1, demand, entry.2⟩
    (List.mem_flatMap.mpr ⟨_, member, ?_⟩)
  simp only [demandedAt, Place.found, found, Toml.entriesOf, Toml.table?, Option.bind_some,
    Option.getD_some, List.map_map]
  exact List.mem_map_of_mem (f := _) inside

theorem given_single {α : Type} {read : String → Toml → Except Error α}
    {taken : Toml → Option α} {write : α → Toml} (reads : Reads read demand taken write)
    (member : (Place.single path, demand) ∈ demands) (default : α) :
    Given ((Toml.table document).at? path) write default (readAt document path taken default) := by
  refine given_of_found (fun value found => ?_) default
  have met := Demand.isMet_iff.mpr (met_single all member value found)
  rw [reads.met] at met
  obtain ⟨x, read⟩ := Option.isSome_iff_exists.mp met
  exact ⟨x, read, reads.back value x read⟩

theorem given_entries {α : Type} {read : String → Toml → Except Error α}
    {taken : Toml → Option α} {write : α → Toml} (reads : Reads read demand taken write)
    (table : (Place.single path, .table) ∈ demands)
    (member : (Place.each path, demand) ∈ demands) :
    Given ((Toml.table document).at? path) (ofEntries write) []
      (readAt document path (·.table?.map (Toml.readable taken)) []) := by
  refine given_of_found (fun value found => ?_) []
  obtain ⟨entries, rfl⟩ := met_single all table value found
  refine ⟨Toml.readable taken entries, rfl, congrArg Toml.table (map_readable reads.back ?_).symm⟩
  intro entry inside
  rw [← reads.met]
  exact Demand.isMet_iff.mpr (met_each all member found entry inside)

theorem describes_described (origin : Option String) :
    Describes (.table document) (described origin document) where
  dataFolder := given_single all reads_string (by decide) _
  metaFolder := given_single all reads_string (by decide) _
  folderRegistry := given_single all reads_string (by decide) _
  views := given_single all reads_string (by decide) _
  known := given_single all reads_strings (by decide) _
  weights := given_entries all reads_number (by decide) (by decide)
  dataCoreSources := given_single all reads_strings (by decide) _
  dataFolders := given_entries all reads_string (by decide) (by decide)
  includeDeleted := given_single all reads_bool (by decide) _
  countHonorsDeleted := given_single all reads_bool (by decide) _
  coloredOutput := given_single all reads_bool (by decide) _

end

/- Unknown keys. -/

def Place.covers : Place → List String → Bool
  | single known, path => path.isPrefixOf known
  | each known, path => path.isPrefixOf known || known.isPrefixOf path

def isKnown (path : List String) : Bool :=
  demands.any (·.1.covers path)

def pruned (document : Table) : Table :=
  (document.filter (isKnown [·.1])).map fun entry =>
    (entry.1, entry.2.keep fun key => isKnown [entry.1, key])

theorem lookup_filter {β : Type} (kept : String → Bool) (key : String)
    (entries : List (String × β)) :
    (entries.filter (kept ·.1)).lookup key = if kept key then entries.lookup key else none := by
  induction entries with
  | nil => simp
  | cons entry entries ih =>
    obtain ⟨name, value⟩ := entry
    rw [List.filter_cons, List.lookup_cons]
    cases same : key == name with
    | true =>
      obtain rfl := eq_of_beq same
      cases known : kept key <;> simp [known, ih]
    | false =>
      cases known : kept name with
      | true => simp [List.lookup_cons, same, ih]
      | false => simpa using ih

theorem lookup_pruned {document : Table} {title : String} (known : isKnown [title] = true) :
    (pruned document).lookup title =
      (document.lookup title).map (Toml.keep fun key => isKnown [title, key]) := by
  have each (entries : Table) : (entries.map fun entry =>
      (entry.1, entry.2.keep fun key => isKnown [entry.1, key])).lookup title =
        (entries.lookup title).map (Toml.keep fun key => isKnown [title, key]) := by
    induction entries with
    | nil => rfl
    | cons entry entries ih =>
      obtain ⟨name, value⟩ := entry
      rw [List.map_cons, List.lookup_cons, List.lookup_cons, ih]
      cases same : title == name with
      | true =>
        obtain rfl := eq_of_beq same
        rfl
      | false => rfl
  rw [pruned, each, lookup_filter (fun title => isKnown [title]), if_pos known]

theorem entriesOf_keep (kept : String → Bool) (found : Option Toml) :
    Toml.entriesOf (found.map (Toml.keep kept)) = (Toml.entriesOf found).filter (kept ·.1) := by
  cases found with
  | none => rfl
  | some value => cases value <;> rfl

theorem at?_key_pruned {document : Table} {title key : String} (titled : isKnown [title] = true)
    (known : isKnown [title, key] = true) : (Toml.table (pruned document)).at? [title, key] =
      (Toml.table document).at? [title, key] := by
  rw [at?_key, at?_key, lookup_pruned titled, entriesOf_keep,
    lookup_filter (fun key => isKnown [title, key]), if_pos known]

theorem at?_section_pruned {document : Table} {title : String} (titled : isKnown [title] = true)
    (known : ∀ key, isKnown [title, key] = true) :
    (Toml.table (pruned document)).at? [title] = (Toml.table document).at? [title] := by
  rw [at?_section, at?_section, lookup_pruned titled]
  simp only [known]
  cases document.lookup title with
  | none => rfl
  | some value => cases value <;> simp [Toml.keep]

theorem demand_cases : ∀ demand ∈ demands, (∃ title, demand = (.single [title], .table)) ∨
    (∃ title key, demand.1 = .single [title, key]) ∨ (∃ title, demand.1 = .each [title]) ∨
      ∃ title key, demand.1 = .each [title, key] := by
  simp [demands, types]

theorem forM_demandedAt_pruned (document : Table) {demand : Place × Demand}
    (member : demand ∈ demands) :
    forM (demandedAt (pruned document) demand) Setting.check =
      forM (demandedAt document demand) Setting.check := by
  have known (path : List String) (covered : demand.1.covers path = true) : isKnown path = true :=
    List.any_eq_true.mpr ⟨demand, member, covered⟩
  obtain ⟨place, demanded⟩ := demand
  rcases demand_cases _ member with
    ⟨title, same⟩ | ⟨title, key, rfl⟩ | ⟨title, rfl⟩ | ⟨title, key, rfl⟩
  · cases same
    have titled := known [title] (by simp [Place.covers])
    rw [demandedAt_section, demandedAt_section, lookup_pruned titled]
    cases document.lookup title with
    | none => rfl
    | some value => cases value <;> rfl
  · have titled := known [title] (by simp [Place.covers])
    have keyed := known [title, key] (by simp [Place.covers])
    simp only [demandedAt, Place.found, at?_key_pruned titled keyed]
  · have titled := known [title] (by simp [Place.covers])
    have keyed (key : String) := known [title, key] (by simp [Place.covers])
    simp only [demandedAt, Place.found, at?_section_pruned titled keyed]
  · have titled := known [title] (by simp [Place.covers])
    have keyed := known [title, key] (by simp [Place.covers])
    simp only [demandedAt, Place.found, at?_key_pruned titled keyed]

theorem described_pruned (origin : Option String) (document : Table) :
    described origin (pruned document) = described origin document := by
  have folders (key : String) : isKnown ["data_folders", key] = true := by
    simp [isKnown, demands, types, Place.covers]
  have whole : (Toml.table (pruned document)).at? ["data_folders"] =
      (Toml.table document).at? ["data_folders"] := at?_section_pruned (by decide) folders
  simp (disch := decide) only [described, readAt, at?_key_pruned, whole]

/-- What is not known changes nothing. -/
theorem checked_pruned (origin : Option String) (document : Table) :
    checked origin (pruned document) = checked origin document := by
  have row : forM (demanded (pruned document)) Setting.check =
      forM (demanded document) Setting.check := by
    rw [demanded, demanded, forM_flatMap, forM_flatMap]
    exact forM_congr fun _ member => forM_demandedAt_pruned document member
  have before := yields_checked origin document
  have after := yields_checked origin (pruned document)
  unfold Yields at before after
  rw [before, after, row, described_pruned]

theorem ofText_of_read {path text : String} {document : Table}
    (parsed : Toml.read (Toml.unifyLineEnds text.toList) = .ok document) :
    ofText path text = checked (some path) document := by
  unfold ofText
  dsimp only
  rw [parsed]
  rfl

/-- A document is read exactly if every demand on it is met. Then the configuration says what the
    document says; else the error names the first setting that is not what it has to be. What is
    not known changes nothing of that. -/
theorem configuration_read_exactly (origin : Option String) (document : Table) :
    ((∃ result, checked origin document = .ok result) ↔
      ∀ s ∈ demanded document, s.demand.Met s.value) ∧
    (∀ config warnings, checked origin document = .ok (config, warnings) →
      Describes (.table document) config ∧ config.path = origin ∧ warnings = config.warnings) ∧
    (∀ error, checked origin document = .error error ↔
      ∃ before s after, demanded document = before ++ s :: after ∧
        (∀ earlier ∈ before, earlier.demand.Met earlier.value) ∧ ¬ s.demand.Met s.value ∧
        error = .setting s.key s.demand.fault) ∧
    checked origin (pruned document) = checked origin document := by
  have steps := yields_checked origin document
  unfold Yields at steps
  have passes : forM (demanded document) Setting.check = .ok () ↔
      ∀ s ∈ demanded document, s.demand.Met s.value := by
    simp only [forM_eq_ok_iff, Setting.check_eq_ok_iff]
  refine ⟨?_, ?_, ?_, checked_pruned origin document⟩
  · rw [steps, ← passes]
    cases forM (demanded document) Setting.check <;> simp [bind, Except.bind, pure, Except.pure]
  · intro config warnings answered
    rw [steps] at answered
    obtain ⟨_, passed, same⟩ := bind_eq_ok_iff.mp answered
    cases same
    exact ⟨describes_described (passes.mp passed) origin, rfl, rfl⟩
  · intro error
    have fails : checked origin document = .error error ↔
        forM (demanded document) Setting.check = .error error := by
      rw [steps, bind_eq_error_iff]
      simp [pure, Except.pure]
    rw [fails, forM_eq_error_iff]
    simp only [Setting.check_eq_ok_iff, Setting.check_eq_error_iff]

/-- A boolean is no number, and types come before bounds. -/
example : checked none
    [("ranking", .table [("weights", .table [("title", .int 0), ("isGDC", .bool true)])])] =
      .error (.setting "ranking.weights.isGDC" .noNumber) := rfl

end Config

end BondQuery
