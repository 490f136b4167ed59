import BondQuery.Proofs.ConfigurationDemands
import BondQuery.Proofs.TomlDocuments

/- A configuration that is saved and loaded again. Each section of the document is read back on
   its own; sections that are left out are read as their defaults, which is what they held. -/
namespace BondQuery.Config
open Toml (Table Section)

/- Values. -/

theorem asStrings_ofStrings (key : String) (values : List String) :
    asStrings key (ofStrings values) = .ok values := by
  rw [reads_strings.answer, strings?_eq_some_iff.mpr rfl]
  rfl

theorem readEntries_map {α : Type} {read : String → Toml → Except Error α} {write : α → Toml}
    (back : ∀ key value, read key (write value) = .ok value) (title : String)
    (entries : List (String × α)) :
    readEntries title read (entries.map fun (key, value) => (key, write value)) = .ok entries := by
  unfold readEntries
  induction entries with
  | nil => rfl
  | cons entry entries ih =>
    rw [List.map_cons]
    refine mapM_cons_eq_ok_iff.mpr ⟨entry, entries, ?_, ih, rfl⟩
    simp [back, bind, Except.bind, pure, Except.pure]

theorem asNumber_ofNumber (key : String) (w : Number) : asNumber key (ofNumber w) = .ok w := by
  cases w <;> rfl

/- Sections. -/

theorem string_flat (s : String) : (Toml.string s).IsFlat :=
  trivial

theorem bool_flat (b : Bool) : (Toml.bool b).IsFlat :=
  trivial

theorem number_flat {w : Number} (short : ∀ n, w = .int n → isWritable n = true) :
    (ofNumber w).IsFlat := by
  cases w with
  | int n => exact short n rfl
  | double x => trivial

theorem ofStrings_flat (values : List String) : (ofStrings values).IsFlat := by
  intro item inside
  obtain ⟨value, _, rfl⟩ := List.mem_map.mp inside
  trivial

def indexSection (layout : Layout) : Section where
  name := "indexes"
  below := []
  entries := [
    ("data_folder", .string layout.dataFolder),
    ("meta_folder", .string layout.metaFolder),
    ("folder_registry", .string layout.folderRegistry),
    ("views", .string layout.views),
    ("known", ofStrings layout.known)]
  flat := by simp [string_flat, ofStrings_flat]
  distinct := by simp

def querySection (includeDeleted countHonorsDeleted : Bool) : Section where
  name := "query"
  below := []
  entries := [
    ("include_deleted", .bool includeDeleted),
    ("count_honors_deleted_flag", .bool countHonorsDeleted)]
  flat := by simp [bool_flat]
  distinct := by simp

def displaySection (coloredOutput : Bool) : Section where
  name := "display"
  below := []
  entries := [("colored_output", .bool coloredOutput)]
  flat := by simp [bool_flat]
  distinct := by simp

/-- Weights whose whole numbers can be written out, each under a name of its own. -/
structure Writable (weights : List (String × Number)) : Prop where
  short : ∀ entry ∈ weights, ∀ n, entry.2 = .int n → isWritable n = true
  distinct : (weights.map (·.1)).Nodup

def rankingSection (weights : List (String × Number)) (writable : Writable weights) : Section where
  name := "ranking"
  below := ["weights"]
  entries := weights.map fun (k, w) => (k, ofNumber w)
  flat := by
    intro entry inside
    obtain ⟨weight, weighted, rfl⟩ := List.mem_map.mp inside
    exact number_flat (writable.short weight weighted)
  distinct := by simpa [Function.comp_def] using writable.distinct

def sourceSection (sources : List String) : Section where
  name := "data_core"
  below := []
  entries := [("source_ids", ofStrings sources)]
  flat := by simp [ofStrings_flat]
  distinct := by simp

def folderSection (folders : List (String × String)) (distinct : (folders.map (·.1)).Nodup) :
    Section where
  name := "data_folders"
  below := []
  entries := folders.map fun (k, f) => (k, .string f)
  flat := by
    intro entry inside
    obtain ⟨folder, _, rfl⟩ := List.mem_map.mp inside
    exact string_flat folder.2
  distinct := by simpa [Function.comp_def] using distinct

def sections (config : Config) (weights : Writable config.weights)
    (folders : (config.dataFolders.map (·.1)).Nodup) : List Section :=
  [indexSection config.layout, querySection config.includeDeleted config.countHonorsDeleted,
    displaySection config.coloredOutput] ++
  (if config.weights.isEmpty then [] else [rankingSection config.weights weights]) ++
  (if config.dataCoreSources.isEmpty then [] else [sourceSection config.dataCoreSources]) ++
  (if config.dataFolders.isEmpty then [] else [folderSection config.dataFolders folders])

section
variable {config : Config} (weights : Writable config.weights)
  (folders : (config.dataFolders.map (·.1)).Nodup)

theorem toDocument_eq : config.toDocument = (config.sections weights folders).map Section.entry := by
  unfold toDocument sections
  simp only [List.map_append, apply_ite (List.map Section.entry)]
  rfl

theorem sections_distinct : ((config.sections weights folders).map Section.name).Nodup := by
  unfold sections
  cases config.weights.isEmpty <;> cases config.dataCoreSources.isEmpty <;>
    cases config.dataFolders.isEmpty <;>
      simp [indexSection, querySection, displaySection, rankingSection, sourceSection, folderSection]

end

/- Loading. -/

theorem readSection_indexes (config : Config) :
    readSection config.toDocument "indexes" = .ok (indexSection config.layout).entries := by
  simp [readSection, toDocument, indexSection]

theorem readSection_query (config : Config) : readSection config.toDocument "query" =
    .ok (querySection config.includeDeleted config.countHonorsDeleted).entries := by
  simp [readSection, toDocument, querySection, List.lookup_cons]

theorem readSection_display (config : Config) :
    readSection config.toDocument "display" = .ok (displaySection config.coloredOutput).entries := by
  simp [readSection, toDocument, displaySection, List.lookup_cons]

theorem readSection_ranking (config : Config) :
    readSection config.toDocument "ranking" = .ok (if config.weights = [] then [] else
      [("weights", .table (config.weights.map fun (k, w) => (k, ofNumber w)))]) := by
  by_cases unweighted : config.weights = [] <;>
    simp [readSection, toDocument, List.lookup_append, apply_ite (List.lookup _), List.lookup_cons,
      unweighted]

theorem readSection_sources (config : Config) :
    readSection config.toDocument "data_core" = .ok (if config.dataCoreSources = [] then [] else
      [("source_ids", ofStrings config.dataCoreSources)]) := by
  by_cases unsourced : config.dataCoreSources = [] <;>
    simp [readSection, toDocument, List.lookup_append, apply_ite (List.lookup _), List.lookup_cons,
      unsourced]

theorem readSection_folders (config : Config) :
    readSection config.toDocument "data_folders" =
      .ok (config.dataFolders.map fun (k, f) => (k, .string f)) := by
  by_cases unmapped : config.dataFolders = [] <;>
    simp [readSection, toDocument, List.lookup_append, apply_ite (List.lookup _), List.lookup_cons,
      unmapped]

theorem readLayout_entries (layout : Layout) :
    readLayout (indexSection layout).entries = .ok layout := by
  have known := asStrings_ofStrings "indexes.known" layout.known
  simp [readLayout, indexSection, readKey, asString, List.lookup_cons, bind, Except.bind, known, pure,
    Except.pure]

theorem readKey_optional {α : Type} {read : String → Toml → Except Error (List α)} {written : Toml}
    {values : List α} {title key : String} {absent : Prop} [Decidable absent]
    (back : read (title ++ "." ++ key) written = .ok values) (empty : absent → values = []) :
    readKey (if absent then [] else [(key, written)]) title key read [] = .ok values := by
  by_cases none : absent
  · rw [if_pos none, empty none]
    rfl
  · rw [if_neg none]
    simpa [readKey] using back

theorem ofDocument_toDocument (path : Option String) (config : Config) :
    ofDocument path config.toDocument = .ok { config with path := path } := by
  have weights : readKey (if config.weights = [] then [] else
      [("weights", .table (config.weights.map fun (k, w) => (k, ofNumber w)))])
      "ranking" "weights" asTable [] = .ok (config.weights.map fun (k, w) => (k, ofNumber w)) :=
    readKey_optional rfl fun unweighted => by rw [unweighted, List.map_nil]
  have numbers := readEntries_map asNumber_ofNumber "ranking.weights" config.weights
  have sources : readKey (if config.dataCoreSources = [] then [] else
      [("source_ids", ofStrings config.dataCoreSources)])
      "data_core" "source_ids" asStrings [] = .ok config.dataCoreSources :=
    readKey_optional (asStrings_ofStrings _ config.dataCoreSources) id
  have string : ∀ key value, asString key (.string value) = .ok value := fun _ _ => rfl
  have folders := readEntries_map string "data_folders" config.dataFolders
  simp only [ofDocument, readSection_indexes, readLayout_entries, readSection_ranking, weights,
    numbers, readSection_sources, sources, readSection_folders, folders, readSection_query,
    readSection_display, bind, Except.bind]
  rfl

/- Saving. -/

theorem text?_isSome_iff {w : Number} :
    w.text?.isSome = true ↔ ∀ n, w = .int n → isWritable n = true := by
  cases w with
  | int n => by_cases writable : isWritable n = true <;> simp [Number.text?, writable]
  | double x => simp [Number.text?]

theorem toText_eq_ok_iff {config : Config} {text : String} :
    config.toText = .ok text ↔
      (∀ entry ∈ config.weights, ∀ n, entry.2 = .int n → isWritable n = true) ∧
        String.ofList (Toml.write config.toDocument) = text := by
  have all : (config.weights.all fun (_, w) => w.text?.isSome) = true ↔
      ∀ entry ∈ config.weights, ∀ n, entry.2 = .int n → isWritable n = true := by
    rw [List.all_eq_true]
    exact forall₂_congr fun entry _ => text?_isSome_iff
  unfold toText
  rw [← all]
  cases config.weights.all fun (_, w) => w.text?.isSome <;> simp

/-- A valid configuration is the same after it has been saved and loaded, but for the file it is
    from. -/
theorem saved_configuration_loads_back (config : Config) (path : String) (warnings : List String)
    (valid : config.validate = .ok warnings)
    (short : ∀ entry ∈ config.weights, ∀ n, entry.2 = .int n →
      (Nat.toDigits 10 n.natAbs).length ≤ maxDigits)
    (weightNames : (config.weights.map (·.1)).Nodup)
    (folderNames : (config.dataFolders.map (·.1)).Nodup) :
    ∃ text, config.toText = .ok text ∧
      load path (some text) = .ok ({ config with path := some path }, warnings) ∧
      ({ config with path := some path } : Config).toText = .ok text := by
  have writable : ∀ entry ∈ config.weights, ∀ n, entry.2 = .int n → isWritable n = true :=
    fun entry inside n same => isWritable_iff.mpr (short entry inside n same)
  have saved : config.toText = .ok _ := toText_eq_ok_iff.mpr ⟨writable, rfl⟩
  have unbroken := Toml.write_unbroken (config.sections ⟨writable, weightNames⟩ folderNames)
  have read := Toml.read_write (sections_distinct ⟨writable, weightNames⟩ folderNames)
  rw [← toDocument_eq] at unbroken read
  have again : ({ config with path := some path } : Config).validate = .ok warnings := valid
  refine ⟨_, saved, ?_, saved⟩
  simp only [load, ofText, String.toList_ofList, Toml.unifyLineEnds_eq_self unbroken, read,
    ofDocument_toDocument, bind, Except.bind, again]
  rfl

def unusual : Config where
  layout := ⟨"", "a.b", "\"data\"", "c:\\views", ["", "a.b", "one\ntwo", "\x00\r\x7f"]⟩
  weights := [
    ("", .int 3),
    ("a.b", .int 12345678901234567890123),
    ("'\"", .double (.finite false ⟨0x18000000000000, 1022, by decide, by decide, .inr (by decide)⟩)),
    ("tab\tend", .double (.infinite false))]
  dataCoreSources := ["", "#1"]
  dataFolders := [("", "[x]"), ("naïve = 1", "\n")]
  includeDeleted := true
  countHonorsDeleted := false
  coloredOutput := false
  path := some "elsewhere.toml"

theorem unusual_loads_back :
    ∃ text, unusual.toText = .ok text ∧
      load "bond.toml" (some text) = .ok ({ unusual with path := some "bond.toml" },
        ["Index '\"data\"' is not listed in indexes.known",
          "Index 'c:\\views' is not listed in indexes.known",
          "Data-core sources without a local data folder: #1"]) ∧
      ({ unusual with path := some "bond.toml" } : Config).toText = .ok text := by
  refine saved_configuration_loads_back unusual "bond.toml" _ ?_ ?_ (by decide) (by decide)
  · rfl
  · intro entry inside n same
    simp only [unusual, List.mem_cons, List.not_mem_nil, or_false] at inside
    rcases inside with rfl | rfl | rfl | rfl
    · cases same
      decide
    · cases same
      decide
    · cases same
    · cases same

end BondQuery.Config
