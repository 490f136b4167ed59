import BondQuery.Layout
import BondQuery.Query.Clause

/- Ready-made queries for folders, registries, views and sources. All of them only filter. -/
namespace BondQuery.Template

open Query

def inDatabase (databaseId : String) : Query :=
  phrase "databaseId" databaseId

def inIndex (index : String) : Query :=
  phrase "_index" index

def ofSource (sourceId : String) : Query :=
  phrase Property.sourceId.name sourceId

def inKnownIndexes (layout : Layout) : List Query :=
  layout.known.map inIndex

def optional (field : String) (value : Option String) : List Query :=
  value.toList.map (phrase field)

def entries (databaseId folderName : String) (layout : Layout) : Query :=
  filteredAny [inDatabase databaseId, phrase "folderName" folderName] (inKnownIndexes layout)

def registry (databaseId : String) (layout : Layout) : Query :=
  filter [inDatabase databaseId, inIndex layout.folderRegistry]

def views (databaseId : String) (creator owner visibility : Option String) (layout : Layout) :
    Query :=
  filteredAny
    (inDatabase databaseId :: optional "creator" creator ++ optional "owner" owner ++
      optional "visibility" visibility)
    (inKnownIndexes layout)

/-- The records of a source. A source without a folder of its own is held elsewhere, and then
    only its id can be asked for. -/
def source (sourceId : String) (dataFolders : List (String × String)) : Query :=
  match dataFolders.lookup sourceId with
  | some folder => filter [ofSource sourceId, phrase "dataFolder" folder]
  | none => ofSource sourceId

/-- Entries of a database, of an index if one is given. When a field is given, it must have one
    of the values. -/
def search (databaseId : String) (index field : Option String) (values : Option (List String)) :
    Except Error Query := do
  let filters := inDatabase databaseId :: index.toList.map inIndex
  match field, values with
  | none, _ => return filter filters
  | some _, none => throw .valuesMissing
  | some name, some given =>
    return filteredAny filters (← given.mapM fun value => matchPhrase name value (.int 1))

def dataFolder (databaseId : String) (sourceIds : List String) (layout : Layout) : Query :=
  filter [
    inDatabase databaseId, hasField "dataFolder", inIndex layout.metaFolder,
    anyOf (sourceIds.map ofSource) true]

def extremumScope (sourceId : String) (layout : Layout) : Query :=
  filter [ofSource sourceId, inIndex layout.dataFolder]

def dataCore (flag : String) (sourceIds : List String) : Query :=
  let flagged := phrase Property.isDataCore.name flag
  match sourceIds with
  | [] => filter [flagged]
  | ids => filter [anyOf (ids.map ofSource) true, flagged]

end BondQuery.Template
