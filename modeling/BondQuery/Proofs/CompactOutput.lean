import BondQuery.Proofs.CompileCommand
import BondQuery.Proofs.JsonRefusals

/- The line that a compact compilation prints. It is JSON exactly where every number of the query
   is finite, and then it denotes the query itself. -/
namespace BondQuery

/- Numbers of a query. -/

def Number.isFinite : Number → Bool
  | int _ => true
  | double x => x.isFinite

def RangeValue.isFinite : RangeValue → Bool
  | number value => value.isFinite
  | text _ => true

def Extent.isFinite (e : Extent) : Bool :=
  e.west.isFinite && e.north.isFinite && e.east.isFinite && e.south.isFinite

/-- No boost, bound or edge of the clause is infinite or no number. -/
def Leaf.isFinite : Leaf → Bool
  | matchPhrase _ _ boost => boost.all Double.isFinite
  | wildcard _ _ boost => boost.all Double.isFinite
  | range _ _ value => value.isFinite
  | geoShape _ extent _ => extent.isFinite
  | _ => true

/-- No number of the query is infinite or none at all. -/
def Query.Finite (q : Query) : Prop :=
  q.Each fun clause => clause.isFinite = true

theorem Number.isFinite_toJson (value : Number) : value.toJson.isFinite = value.isFinite := by
  cases value <;> rfl

theorem RangeValue.isFinite_toJson (value : RangeValue) :
    value.toJson.isFinite = true ↔ value.isFinite = true := by
  cases value with
  | number value => rw [toJson, isFinite, Number.isFinite_toJson]
  | text s => exact Iff.rfl

theorem Extent.isFinite_toJson (e : Extent) : e.toJson.isFinite = true ↔ e.isFinite = true := by
  simp [toJson, isFinite, Number.isFinite_toJson, and_assoc]

theorem Leaf.isFinite_toJson (clause : Leaf) :
    clause.toJson.isFinite = true ↔ clause.isFinite = true := by
  cases clause with
  | matchPhrase field value boost | wildcard field value boost =>
    cases boost <;> simp [toJson, isFinite, KeyedKind.body, boostFields]
  | range field bound value => simp [toJson, isFinite, KeyedKind.body, RangeValue.isFinite_toJson]
  | geoShape field extent relation =>
    simp [toJson, isFinite, KeyedKind.body, Extent.isFinite_toJson]
  | terms field values => simp [toJson, isFinite, KeyedKind.body, Json.ofStrings]
  | _ => simp [toJson, isFinite, KeyedKind.body]

namespace Query

theorem listToJson_eq_map (qs : List Query) : listToJson qs = qs.map toJson := by
  induction qs with
  | nil => rfl
  | cons q rest ih => rw [listToJson, ih, List.map_cons]

theorem isFinite_clauseFields {name : String} {qs : List Query} :
    (∀ field ∈ clauseFields name (listToJson qs), field.2.isFinite = true) ↔
      ∀ q ∈ qs, q.toJson.isFinite = true := by
  cases qs with
  | nil => simp [listToJson, clauseFields]
  | cons q rest => simp [listToJson_eq_map, clauseFields]

theorem isFinite_toJson_iff (q : Query) : q.toJson.isFinite = true ↔ q.Finite := by
  induction q with
  | matchAll | matchNone => simp [toJson, Finite, Each, leaves]
  | leaf clause =>
    rw [Finite, each_leaf]
    exact clause.isFinite_toJson
  | bool filter must mustNot should atLeastOne filters musts mustNots shoulds =>
    have wanted : ∀ field ∈ (if atLeastOne then [("minimum_should_match", Json.string "1")] else []),
        field.2.isFinite = true := by
      cases atLeastOne <;> simp
    unfold Finite at filters musts mustNots shoulds ⊢
    rw [each_bool, toJson, Json.isFinite_field, Json.isFinite_object]
    simp only [List.forall_mem_append, isFinite_clauseFields]
    rw [forall₂_congr filters, forall₂_congr musts, forall₂_congr mustNots, forall₂_congr shoulds]
    constructor
    · rintro ⟨⟨⟨⟨inFilter, inMust⟩, inMustNot⟩, inShould⟩, _⟩
      exact ⟨inFilter, inMust, inMustNot, inShould⟩
    · rintro ⟨inFilter, inMust, inMustNot, inShould⟩
      exact ⟨⟨⟨⟨inFilter, inMust⟩, inMustNot⟩, inShould⟩, wanted⟩

end Query

namespace Command

def PrintsLine (report : Report) (text : List Char) : Prop :=
  report.output = String.ofList (text ++ ['\n']) ∧ ∀ c ∈ text, Json.Printable c

section
variable {place : Place} {shared : Shared} {config : Config} {options : CompileOptions}
  {settings : Settings} {words warnings : List String}

theorem output_reportOf (ended : Except Stop Unit × Screen) :
    (reportOf ended).output = String.ofList ended.2.output := by
  obtain ⟨result, s⟩ := ended
  cases result with
  | ok => rfl
  | error stop => cases stop <;> rfl

theorem not_escapes_of_code {report : Report} (succeeds : report.code = 0) : ¬ Escapes report := by
  rintro ⟨e, _, code⟩
  rw [succeeds] at code
  cases code

theorem ends_of_success (loaded : readConfig place shared = .ok (config, warnings))
    (settled : config.settings options.includeDeleted = .ok settings)
    (succeeds : (reportOf ((loadConfig place shared >>= fun config =>
      runCompile shared config options words).on ⟨place.columns, [], [], []⟩)).code = 0) :
    EndsByExpression place.columns shared options settings (" ".intercalate words)
      (reportOf ((loadConfig place shared >>= fun config =>
        runCompile shared config options words).on ⟨place.columns, [], [], []⟩)) := by
  rcases loads_or_escapes loaded ⟨place.columns, [], [], []⟩ with
    ⟨_, chars, ended⟩ | ⟨_, e, later, ended⟩
  · rw [Run.on_bind_ok ended] at succeeds ⊢
    rcases announces_or_escapes (s := Screen.noting ⟨place.columns, [], [], []⟩ chars) settled rfl with
      ⟨_, ends⟩ | ⟨_, escapes⟩
    · exact ends
    · exact absurd escapes (not_escapes_of_code succeeds)
  · rw [Run.on_bind_error ended] at succeeds
    cases succeeds

theorem compiled_of_success {text : String} {report : Report}
    (ends : EndsByExpression place.columns shared options settings text report)
    (succeeds : report.code = 0) :
    ∃ expression compiled, Syntax.parse text = .ok expression ∧
      compile settings expression options.count = .ok compiled ∧
      Prints place.columns shared options.compact report compiled := by
  obtain ⟨_, ends⟩ := ends
  cases parsed : Syntax.parse text with
  | error unread =>
    simp only [parsed] at ends
    rw [succeeds] at ends
    cases ends.1
  | ok expression =>
    simp only [parsed] at ends
    cases lowered : lower settings expression with
    | error e =>
      simp only [lowered] at ends
      rw [succeeds] at ends
      cases ends.1
    | ok q =>
      simp only [lowered] at ends
      obtain ⟨_, compiled, built, prints⟩ := ends
      exact ⟨expression, compiled, rfl, built, prints⟩

theorem printsLine_of_prints {report : Report} {compiled : Compiled}
    (silent : (shared.verbose || shared.debug) = false)
    (prints : Prints place.columns shared true report compiled) :
    PrintsLine report (Json.field "query" compiled.query.toJson).chars := by
  obtain ⟨announcement, quiet, output⟩ := prints
  rw [quiet silent, List.nil_append] at output
  exact ⟨output, Json.printable_chars _⟩

end

/-- A compact compilation that succeeds prints one line. The line is JSON exactly where every
    number of the compiled query is finite, and then it denotes the query and nothing else. -/
theorem compact_line_is_json_iff_finite (place : Place) (arguments own : List String)
    (shared : Shared) (options : CompileOptions) (words : List String) (config : Config)
    (warnings : List String) (line : readLine arguments = .command shared .compile own)
    (request : readRequest .compile own = .ok (.compile options words))
    (loaded : readConfig place shared = .ok (config, warnings))
    (compact : options.compact = true) (silent : (shared.verbose || shared.debug) = false)
    (succeeds : (run place arguments).code = 0) :
    ∃ settings expression compiled text,
      config.settings options.includeDeleted = .ok settings ∧
      Syntax.parse (" ".intercalate words) = .ok expression ∧
      compile settings expression options.count = .ok compiled ∧
      PrintsLine (run place arguments) text ∧
      ∀ value, Json.IsText text value ↔
        compiled.query.Finite ∧ value = .field "query" compiled.query.toJson := by
  obtain ⟨found, valid⟩ := valid_of_readConfig loaded
  obtain ⟨settings, settled⟩ := exists_settings valid options.includeDeleted
  rw [run_eq_reportOf, line, runLine_compile request] at succeeds ⊢
  obtain ⟨expression, compiled, parsed, built, prints⟩ :=
    compiled_of_success (ends_of_success loaded settled succeeds) succeeds
  rw [compact] at prints
  refine ⟨settings, expression, compiled, _, settled, parsed, built,
    printsLine_of_prints silent prints, ?_⟩
  intro value
  rw [Json.isText_chars_iff, Json.isFinite_field, Query.isFinite_toJson_iff]

/-- An edge that is read as infinite is written by a name that JSON does not know. -/
theorem infinite_edge_is_no_json :
    ¬ ∀ (place : Place) (arguments own : List String) (shared : Shared) (options : CompileOptions)
      (words : List String) (config : Config) (warnings : List String),
      readLine arguments = .command shared .compile own →
      readRequest .compile own = .ok (.compile options words) →
      readConfig place shared = .ok (config, warnings) →
      options.compact = true → (shared.verbose || shared.debug) = false →
      (run place arguments).code = 0 →
      ∃ settings expression compiled text,
        config.settings options.includeDeleted = .ok settings ∧
        Syntax.parse (" ".intercalate words) = .ok expression ∧
        compile settings expression options.count = .ok compiled ∧
        PrintsLine (run place arguments) text ∧
        Json.IsText text (.field "query" compiled.query.toJson) := by
  intro law
  obtain ⟨_, _, compiled, text, _, _, _, ⟨output, _⟩, isText⟩ := law emptyPlace
    ["-q", "compile", "--compact", "--count", "BBOX(1e999, 0, 1, 2)"]
    ["--compact", "--count", "BBOX(1e999, 0, 1, 2)"] ⟨none, false, false, true, none⟩
    ⟨true, none, true, false⟩ ["BBOX(1e999, 0, 1, 2)"] .standard _ rfl rfl rfl rfl rfl
    (by decide +kernel)
  -- the characters of the screen are compared, since texts take long to evaluate
  have unread : ∃ out : List Char, out = ((runLine emptyPlace (readLine
      ["-q", "compile", "--compact", "--count", "BBOX(1e999, 0, 1, 2)"])).on
        ⟨80, [], [], []⟩).2.output ∧
      out.length < 400 ∧ Json.readValue? 400 out.dropLast = none :=
    ⟨_, rfl, by decide +kernel⟩
  obtain ⟨out, screen, short, unread⟩ := unread
  rw [run_eq_reportOf, output_reportOf] at output
  have line : out = text ++ ['\n'] := screen.trans (String.ofList_injective output)
  rw [line, List.length_append] at short
  rw [line, List.dropLast_concat] at unread
  obtain ⟨rest, read, _⟩ := Json.readValue?_of_isText isText (Nat.lt_of_succ_lt short)
  rw [unread] at read
  cases read

theorem finite_of_compiled {settings : Settings} {text : String} {expression : Expression}
    {count : Bool} {compiled : Compiled} (parsed : Syntax.parse text = .ok expression)
    (built : compile settings expression count = .ok compiled)
    (finite : ((Syntax.parse text).toOption.bind fun e => (compile settings e count).toOption).all
      (·.query.toJson.isFinite) = true) : compiled.query.Finite := by
  rw [parsed] at finite
  simp only [Except.toOption, Option.bind_some, built, Option.all_some] at finite
  exact (Query.isFinite_toJson_iff _).mp finite

theorem ocean_line_is_json : ∃ text value,
    PrintsLine (run emptyPlace ["-q", "compile", "--compact", "title = Ocean"]) text ∧
      Json.IsText text value := by
  obtain ⟨settings, expression, compiled, text, settled, parsed, built, prints, law⟩ :=
    compact_line_is_json_iff_finite emptyPlace ["-q", "compile", "--compact", "title = Ocean"]
      ["--compact", "title = Ocean"] ⟨none, false, false, true, none⟩ ⟨false, none, true, false⟩
      ["title = Ocean"] .standard _ rfl rfl rfl rfl rfl (by decide +kernel)
  have standard : Config.standard.settings none = .ok .standard := rfl
  cases settled.symm.trans standard
  have joined : " ".intercalate ["title = Ocean"] = "title = Ocean" := rfl
  rw [joined] at parsed
  have finite : compiled.query.Finite := finite_of_compiled parsed built (by decide +kernel)
  exact ⟨text, _, prints, (law _).mpr ⟨finite, rfl⟩⟩

end Command

end BondQuery
