/- Names of the indexes that scoped queries refer to. -/
namespace BondQuery

/-- `known` lists every index that a folder may span. -/
structure Layout where
  dataFolder : String
  metaFolder : String
  folderRegistry : String
  views : String
  known : List String
  deriving DecidableEq, Repr

namespace Layout

def standard : Layout where
  dataFolder := "data-folder-index"
  metaFolder := "meta-folder-index"
  folderRegistry := "folder-registry-index"
  views := "views-index"
  known := [
    "data-folder-index", "meta-folder-index", "folder-registry-index", "views-index",
    "users-index", "augmenters-index", "cache-index", "configuration-index"]

def roles (layout : Layout) : List String :=
  [layout.dataFolder, layout.metaFolder, layout.folderRegistry, layout.views]

end Layout

end BondQuery
