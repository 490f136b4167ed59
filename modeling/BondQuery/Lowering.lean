import BondQuery.Settings
import BondQuery.Template
import BondQuery.Translate

/- Lowering a bond expression to a query. Leaves go by their property; AND, OR
   and NOT become boolean clauses over the lowered operands. -/
namespace BondQuery

/-- Sources and the data core are asked for by their settings, and a subject in two places. -/
def lowerBond (settings : Settings) (property : Property) (operator : Operator) (value : String) :
    Except Error Query :=
  if property = .sourceId ∧ operator = .equal then
    .ok (Template.source value settings.dataFolders)
  else if property = .subject then Translate.subject settings.ranking operator value
  else if property = .isDataCore ∧ operator = .equal then
    .ok (Template.dataCore value settings.dataCoreSources)
  else Translate.property settings.ranking property operator value

def Connective.clause : Connective → List Query → Query
  | and, queries => .allOf queries
  | or, queries => .anyOf queries true
  | not, queries => .noneOf queries

mutual

def lower (settings : Settings) : Expression → Except Error Query
  | .bond property operator value => lowerBond settings property operator value
  | .spatial property operator extent => Translate.spatial property operator extent
  | .logical connective operands => (lowerAll settings operands).map connective.clause

def lowerAll (settings : Settings) : List Expression → Except Error (List Query)
  | [] => .ok []
  | e :: rest => do
    let query ← lower settings e
    return query :: (← lowerAll settings rest)

end

end BondQuery
