import BondQuery.Assembly
import BondQuery.Extremum
import BondQuery.Lowering

/- A session of one assembly: the operations that callers may use, in any order, and what each
   leaves behind. -/
namespace BondQuery

structure Engine where
  settings : Settings
  finder : Option Finder

structure Session where
  assembly : Assembly
  lookups : List Lookup

inductive Operation where
  | openGroup (kind : GroupKind)
  | append (query : Query)
  | separate
  | close (atLeastOne : Bool)
  | build (count : Bool)
  | baseline (count : Bool)
  | lower (expression : Expression)
  | source (sourceId : String)
  | element (property : Property) (operator : Operator) (value : String)
  | subject (value : String) (operator : Operator)
  | dataCore (flag : String)
  | extremumScope (sourceId : String)
  | extremum (field : String) (isMax isDate : Bool) (scope : Option Query)
  | timeStamp (sourceId : Option String) (operator : Operator)

inductive Answer where
  | done
  | query (query : Query)
  | compiled (compiled : Compiled)

namespace Session

def start : Session :=
  ⟨.empty, []⟩

def ofOutcome {α : Type} (s : Session) (answer : α → Answer) (outcome : Assembly.Outcome α) :
    Except Error Answer × Session :=
  (outcome.1.map answer, { s with assembly := outcome.2 })

def ofQuery (s : Session) (query : Except Error Query) : Except Error Answer × Session :=
  (query.map .query, s)

def ofFound (s : Session) (found : Found) : Except Error Answer × Session :=
  (found.1.map .query, { s with lookups := found.2 })

def step (engine : Engine) (s : Session) : Operation → Except Error Answer × Session
  | .openGroup kind => s.ofOutcome (fun _ => .done) (s.assembly.openGroup kind)
  | .append query => s.ofOutcome (fun _ => .done) (s.assembly.append query)
  | .separate => s.ofOutcome (fun _ => .done) s.assembly.separate
  | .close atLeastOne => s.ofOutcome (fun _ => .done) (s.assembly.close atLeastOne)
  | .build count => s.ofOutcome .compiled (s.assembly.build engine.settings count)
  | .baseline count =>
    s.ofQuery (Baseline.query count engine.settings.deletedIncluded
      engine.settings.countHonorsDeleted engine.settings.ranking)
  | .lower expression => s.ofQuery (BondQuery.lower engine.settings expression)
  | .source sourceId => s.ofQuery (.ok (Template.source sourceId engine.settings.dataFolders))
  | .element property operator value =>
    s.ofQuery (Translate.property engine.settings.ranking property operator value)
  | .subject value operator => s.ofQuery (Translate.subject engine.settings.ranking operator value)
  | .dataCore flag => s.ofQuery (.ok (Template.dataCore flag engine.settings.dataCoreSources))
  | .extremumScope sourceId => s.ofQuery (.ok (Template.extremumScope sourceId engine.settings.layout))
  | .extremum field isMax isDate scope =>
    s.ofFound (Extremum.withFinder engine.finder s.lookups field fun finder =>
      Extremum.find finder s.lookups field isMax isDate scope)
  | .timeStamp sourceId operator =>
    s.ofFound (Extremum.withFinder engine.finder s.lookups Property.resourceTimeStamp.name
      fun finder => Extremum.findTimeStamp finder s.lookups sourceId operator)

def run (engine : Engine) : Session → List Operation → List (Except Error Answer) × Session
  | s, [] => ([], s)
  | s, op :: rest =>
    let (answer, next) := s.step engine op
    let (answers, last) := run engine next rest
    (answer :: answers, last)

end Session

/-- Lowers an expression, makes it the only query of an assembly and builds it. -/
def compile (settings : Settings) (expression : Expression) (count : Bool) :
    Except Error Compiled := do
  let query ← lower settings expression
  let (appended, assembly) := Assembly.empty.append query
  appended
  (assembly.build settings count).1

end BondQuery
