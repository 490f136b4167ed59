/- Properties that bonds constrain, and the well-known ones with their declared types. -/
namespace BondQuery

inductive ContentType where
  | text
  | integer
  | long
  | double
  | boolean
  | date
  | dateTime
  deriving DecidableEq, Repr

def ContentType.isDate (t : ContentType) : Bool :=
  t = .date ∨ t = .dateTime

structure Property where
  name : String
  contentType : ContentType
  deriving DecidableEq, Repr

namespace Property

def sourceId : Property := ⟨"sourceId", .text⟩
def resourceTimeStamp : Property := ⟨"resourceTimeStamp", .dateTime⟩
def isDeleted : Property := ⟨"isDeleted", .boolean⟩
def isDataCore : Property := ⟨"isGDC", .boolean⟩
def metadataQuality : Property := ⟨"metadataQuality", .integer⟩
def essentialVarsQuality : Property := ⟨"essentialVarsQuality", .integer⟩
def accessQuality : Property := ⟨"accessQuality", .integer⟩
def keyword : Property := ⟨"keyword", .text⟩
def topicCategory : Property := ⟨"topicCategory", .text⟩
def subject : Property := ⟨"subject", .text⟩
def boundingBox : Property := ⟨"bbox", .text⟩

def wellKnown : List Property := [
  sourceId, resourceTimeStamp, isDeleted, isDataCore,
  metadataQuality, essentialVarsQuality, accessQuality,
  ⟨"title", .text⟩, ⟨"abstract", .text⟩, keyword, topicCategory, subject,
  ⟨"identifier", .text⟩, ⟨"parentIdentifier", .text⟩, ⟨"orgName", .text⟩,
  ⟨"tmpExtentBegin", .dateTime⟩, ⟨"tmpExtentEnd", .dateTime⟩, ⟨"creationDate", .date⟩,
  ⟨"cloudCoverPercentage", .double⟩, boundingBox]

def ofName (name : String) : Property :=
  (wellKnown.find? (·.name == name)).getD ⟨name, .text⟩

end Property

end BondQuery
