import BondQuery.Layout
import BondQuery.Ranking

/- What a compilation depends on besides the expression. -/
namespace BondQuery

/-- `dataFolders` maps the sources held here to their folders; a source that it lacks is held
    elsewhere. Deleted records show in a count only if `countHonorsDeleted` is set as well. -/
structure Settings where
  ranking : Ranking
  dataFolders : List (String × String)
  deletedIncluded : Bool
  layout : Layout
  dataCoreSources : List String
  countHonorsDeleted : Bool
  deriving DecidableEq, Repr

def Settings.standard : Settings :=
  ⟨.neutral, [], false, .standard, [], false⟩

end BondQuery
