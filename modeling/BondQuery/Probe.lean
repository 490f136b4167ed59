import BondQuery.Layout
import BondQuery.Query.Clause

/- Probes: for each value of a property, a search that finds at most one record holding it. All
   of them go to the engine in one request. -/
namespace BondQuery

def aggregateField (name : String) : String :=
  name ++ "_agg"

structure Probe where
  index : String
  value : String
  query : Query
  deriving Repr

namespace Probe

def ofValue (layout : Layout) (property value : String) : Except Error Probe := do
  return ⟨layout.dataFolder, value, ← Query.matchPhrase (aggregateField property) value (.int 1)⟩

def ofValues (layout : Layout) (property : String) (values : List String) :
    Except Error (List Probe) :=
  values.mapM (ofValue layout property)

def header (p : Probe) : Json :=
  .field "index" (.string p.index)

def body (p : Probe) : Json :=
  .object [("query", p.query.toJson), ("size", .int 1)]

def request (probes : List Probe) : Json :=
  .array (probes.flatMap fun p => [p.header, p.body])

end Probe

end BondQuery
