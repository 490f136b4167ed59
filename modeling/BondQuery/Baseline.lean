import BondQuery.Query.Clause
import BondQuery.Ranking

/- The clause joined to every query: it hides deleted records and rates the others. The engine
   rates by boosts alone, so each quality dimension is a set of phrases, one for each level. -/
namespace BondQuery.Baseline

open Query

def dimensions : List String :=
  [Property.metadataQuality.name, Property.essentialVarsQuality.name, Property.accessQuality.name]

def levels (ranking : Ranking) (dimension : String) : Except Error Query := do
  let phrases ← (List.range' 1 topLevel).mapM fun (level : Nat) =>
    matchPhrase dimension (intText level) (ranking.levelWeight dimension level)
  return anyOf phrases false

def dataCore (ranking : Ranking) : Except Error Query := do
  let field := Property.isDataCore.name
  let flagged ← matchPhrase field "true" (ranking.weight field)
  return anyOf [phrase field "false", flagged] true

def visible : Query :=
  let field := Property.isDeleted.name
  anyOf [lacksField field, phrase field "false"] true

/-- A count rates nothing, and shows deleted records only if both flags ask for it. Otherwise
    the first alternative matches every record, and the others add to its score. -/
def query (count deletedIncluded countHonorsDeleted : Bool) (ranking : Ranking) :
    Except Error Query := do
  if count then
    return if deletedIncluded && countHonorsDeleted then .matchAll else visible
  else
    let core ← dataCore ranking
    let rated ← dimensions.mapM (levels ranking)
    return anyOf (.matchAll :: core :: rated ++ if deletedIncluded then [] else [visible]) true

end BondQuery.Baseline
