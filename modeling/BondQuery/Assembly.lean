import BondQuery.Baseline
import BondQuery.Settings

/- Assembling a query clause by clause. Groups are opened, filled and closed; siblings inside a
   group have a separator between them. Building joins the one finished query with the baseline
   and ends the assembly. -/
namespace BondQuery

inductive GroupKind where
  | must
  | should
  | mustNot
  deriving DecidableEq, Repr

/-- An open group. It is separated when a separator stands behind its last child. -/
structure Group where
  kind : GroupKind
  children : List Query
  separated : Bool
  deriving Repr

def Group.clause (group : Group) (atLeastOne : Bool) : Query :=
  match group.kind with
  | .must => .bool [] group.children [] [] atLeastOne
  | .should => .bool [] [] [] group.children atLeastOne
  | .mustNot => .bool [] [] group.children [] atLeastOne

structure Assembly where
  groups : List Group
  roots : List Query
  built : Bool
  deriving Repr

structure Compiled where
  query : Query
  count : Bool
  deriving Repr

def Compiled.ofParts (search baseline : Query) (count : Bool) : Compiled :=
  ⟨.allOf [search, baseline], count⟩

namespace Assembly

def empty : Assembly :=
  ⟨[], [], false⟩

abbrev Outcome (α : Type) := Except Error α × Assembly

def refuse {α : Type} (a : Assembly) (fault : AssemblyFault) : Outcome α :=
  (.error (.assembly fault), a)

def openGroup (a : Assembly) (kind : GroupKind) : Outcome Unit :=
  if a.built then a.refuse .finalized
  else (.ok (), { a with groups := ⟨kind, [], false⟩ :: a.groups })

def add (a : Assembly) (query : Query) : Outcome Unit :=
  match a.groups with
  | [] => (.ok (), { a with roots := a.roots ++ [query] })
  | group :: outer =>
    if group.children ≠ [] ∧ group.separated = false then a.refuse .missingSeparator
    else (.ok (), { a with groups := ⟨group.kind, group.children ++ [query], false⟩ :: outer })

def append (a : Assembly) (query : Query) : Outcome Unit :=
  if a.built then a.refuse .finalized else a.add query

def separate (a : Assembly) : Outcome Unit :=
  if a.built then a.refuse .finalized
  else
    match a.groups with
    | [] => a.refuse .separatorOutside
    | group :: outer =>
      if group.children = [] ∨ group.separated then a.refuse .separatorWithoutClause
      else (.ok (), { a with groups := { group with separated := true } :: outer })

/-- Closes the innermost group and adds its clause to the next. The group is gone even when it
    ends with a separator or the next one does not take the clause. -/
def close (a : Assembly) (atLeastOne : Bool) : Outcome Unit :=
  if a.built then a.refuse .finalized
  else
    match a.groups with
    | [] => a.refuse .nothingToClose
    | group :: outer =>
      let left := { a with groups := outer }
      if group.separated then left.refuse .trailingSeparator
      else left.add (group.clause atLeastOne)

/-- Builds the query and ends the assembly, which stays ended when the baseline fails. An empty
    assembly asks for every record. -/
def build (a : Assembly) (settings : Settings) (count : Bool) : Outcome Compiled :=
  if a.built then a.refuse .finalized
  else if a.groups ≠ [] then a.refuse (.leftOpen a.groups.length)
  else if 1 < a.roots.length then a.refuse (.severalRoots a.roots.length)
  else
    let baseline := Baseline.query count settings.deletedIncluded settings.countHonorsDeleted
      settings.ranking
    (baseline.map fun b => .ofParts (a.roots.headD .matchAll) b count, { a with built := true })

end Assembly

end BondQuery
