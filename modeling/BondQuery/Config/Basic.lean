import BondQuery.Settings

/- The configuration of the compiler, and what makes one valid. -/
namespace BondQuery

/-- `path` is the file it was read from, if any. -/
structure Config where
  layout : Layout
  weights : List (String × Number)
  dataCoreSources : List String
  dataFolders : List (String × String)
  includeDeleted : Bool
  countHonorsDeleted : Bool
  coloredOutput : Bool
  path : Option String
  deriving DecidableEq, Repr

namespace Config

def standard : Config :=
  ⟨.standard, [], [], [], false, false, true, none⟩

def unknownIndexes (layout : Layout) : List String :=
  layout.roles.filter (!layout.known.contains ·)

/-- Data-core sources that have no folder here, unless no source has one. -/
def unmappedSources (config : Config) : List String :=
  if config.dataFolders.isEmpty then []
  else config.dataCoreSources.filter fun id => (config.dataFolders.lookup id).isNone

def warnings (config : Config) : List String :=
  let unmapped := config.unmappedSources
  (unknownIndexes config.layout).map (fun i => "Index '" ++ i ++ "' is not listed in indexes.known") ++
    if unmapped.isEmpty then []
    else ["Data-core sources without a local data folder: " ++ ", ".intercalate unmapped]

/-- The warnings of a valid configuration: one in which no weight is below one. -/
def validate (config : Config) : Except Error (List String) :=
  match config.weights.find? (·.2.isBelowOne) with
  | some (name, _) => .error (.setting ("ranking.weights." ++ name) .belowOne)
  | none => .ok config.warnings

def settings (config : Config) (deletedIncluded : Option Bool) : Except Error Settings := do
  let ranking ← Ranking.ofWeights config.weights
  return ⟨ranking, config.dataFolders, deletedIncluded.getD config.includeDeleted, config.layout,
    config.dataCoreSources, config.countHonorsDeleted⟩

end Config

end BondQuery
