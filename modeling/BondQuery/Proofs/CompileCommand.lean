import BondQuery.Proofs.AcceptedWeights
import BondQuery.Proofs.CommandRuns
import BondQuery.Proofs.Filtering
import BondQuery.Proofs.LoweringErrors

/- How the command that compiles ends: as its expression says, as long as the tags in what it
   prints fit together, no clause is asked of the reserved field and every weight can be a boost.
   Where one of these fails, an error escapes that no part of the command handles. -/
namespace BondQuery.Command
variable {shared : Shared} {config : Config} {options : CompileOptions} {settings : Settings}
  {words : List String} {s : Screen}

def reportOf (ended : Except Stop Unit × Screen) : Report :=
  let report (code : Nat) (failure : Option Error) : Report :=
    ⟨code, String.ofList ended.2.output, String.ofList ended.2.messages, ended.2.written, failure⟩
  match ended.1 with
  | .ok () => report 0 none
  | .error (.code n) => report n none
  | .error (.failure e) => report 1 (some e)

theorem run_eq_reportOf (place : Place) (arguments : List String) :
    run place arguments =
      reportOf ((runLine place (readLine arguments)).on ⟨place.columns, [], [], []⟩) :=
  rfl

/-- The messages end with what went wrong. -/
def Complains (columns : Nat) (report : Report) (message : String) : Prop :=
  ∃ before chars, shown columns (complaint message) = .ok chars ∧
    report.messages = String.ofList (before ++ chars)

def Prints (columns : Nat) (shared : Shared) (compact : Bool) (report : Report)
    (compiled : Compiled) : Prop :=
  ∃ announcement, ((shared.verbose || shared.debug) = false → announcement = []) ∧
    report.output = String.ofList
      (announcement ++ jsonText columns compact (.field "query" compiled.query.toJson))

/-- No error escapes, and the expression decides the code: one when it cannot be read, two when it
    cannot be lowered, and otherwise zero. -/
def EndsByExpression (columns : Nat) (shared : Shared) (options : CompileOptions)
    (settings : Settings) (text : String) (report : Report) : Prop :=
  report.failure = none ∧
    match Syntax.parse text with
    | .error e => report.code = 1 ∧ Complains columns report e.message
    | .ok expression =>
      match lower settings expression with
      | .error e => report.code = 2 ∧ Complains columns report e.message
      | .ok _ => report.code = 0 ∧ ∃ compiled,
          compile settings expression options.count = .ok compiled ∧
          Prints columns shared options.compact report compiled

def Renders (message : String) : Prop :=
  ∃ text, Console.render message = .ok text

/-- The expression can be answered: its error, if it has one, is handled and can be shown, and its
    query can be rated. Elaboration does not read the text to see what is asked. -/
@[irreducible] def Answerable (options : CompileOptions) (settings : Settings) (text : String) : Prop :=
  match Syntax.parse text with
  | .error e => Renders (complaint e.message)
  | .ok expression =>
    match lower settings expression with
    | .error e => ¬ e.Unhandled ∧ Renders (complaint e.message)
    | .ok _ => options.count = false → settings.ranking.Rates

/-- What the command takes for granted. -/
structure Handled (shared : Shared) (warnings : List String) (options : CompileOptions)
    (settings : Settings) (text : String) : Prop where
  warned : shared.quiet = false → ∀ warning ∈ warnings,
    Renders (styled "warning" "Warning:" ++ " " ++ warning)
  announced : (shared.verbose || shared.debug) = true →
    Renders (styled "info" ("Compiling: " ++ text))
  answered : Answerable options settings text

def Escapes (report : Report) : Prop :=
  ∃ e, report.failure = some e ∧ report.code = 1

theorem exists_shown_iff {columns : Nat} {message : String} :
    (∃ chars, shown columns message = .ok chars) ↔ Renders message := by
  unfold shown Renders
  simp only [map_eq_ok_iff]
  constructor
  · rintro ⟨_, text, rendered, _⟩
    exact ⟨text, rendered⟩
  · rintro ⟨text, rendered⟩
    exact ⟨_, text, rendered, rfl⟩

def Shared.silent (shared : Shared) : Shared :=
  { shared with verbose := false, debug := false }

theorem on_announced {chars : List Char} (loud : (shared.verbose || shared.debug) = true)
    (fits : shown s.columns (styled "info" ("Compiling: " ++ " ".intercalate words)) = .ok chars) :
    (runCompile shared config options words).on s =
      (runCompile shared.silent config options words).on (s.printing chars) := by
  unfold runCompile
  simp only [loud, if_true, Shared.silent, Bool.or_self, Bool.false_eq_true, if_false]
  rw [Run.on_bind_ok (on_say fits)]

theorem on_unannounced (quiet : (shared.verbose || shared.debug) = false) :
    (runCompile shared config options words).on s =
      (runCompile shared.silent config options words).on s := by
  unfold runCompile
  simp only [quiet, Shared.silent, Bool.or_self, Bool.false_eq_true, if_false]

section
variable {e : Error} {unread : Syntax.SyntaxError} {expression : Expression} {q : Query}

theorem on_unreadable {chars : List Char}
    (parsed : Syntax.parse (" ".intercalate words) = .error unread)
    (fits : shown s.columns (complaint unread.message) = .ok chars) :
    (runCompile shared.silent config options words).on s = (.error (.code 1), s.noting chars) := by
  unfold runCompile
  simp only [Shared.silent, Bool.or_self, Bool.false_eq_true, if_false, parsed]
  exact Run.on_bind_error (on_refuse fits)

theorem on_unreadable_misfit {misfit : Error}
    (parsed : Syntax.parse (" ".intercalate words) = .error unread)
    (misfits : shown s.columns (complaint unread.message) = .error misfit) :
    (runCompile shared.silent config options words).on s = (.error (.failure misfit), s) := by
  unfold runCompile
  simp only [Shared.silent, Bool.or_self, Bool.false_eq_true, if_false, parsed]
  exact Run.on_bind_error (on_refuse_error misfits)

theorem on_untranslated {chars : List Char}
    (parsed : Syntax.parse (" ".intercalate words) = .ok expression)
    (settled : config.settings options.includeDeleted = .ok settings)
    (failed : lower settings expression = .error e) (own : isLoweringError e = true)
    (fits : shown s.columns (complaint e.message) = .ok chars) :
    (runCompile shared.silent config options words).on s = (.error (.code 2), s.noting chars) := by
  unfold runCompile
  simp only [Shared.silent, Bool.or_self, Bool.false_eq_true, if_false, parsed, pure_bind]
  rw [Run.on_bind_ok (on_orFail settled)]
  simp only [failed, own, if_true]
  exact Run.on_bind_error (on_refuse fits)

theorem on_untranslated_misfit {misfit : Error}
    (parsed : Syntax.parse (" ".intercalate words) = .ok expression)
    (settled : config.settings options.includeDeleted = .ok settings)
    (failed : lower settings expression = .error e) (own : isLoweringError e = true)
    (misfits : shown s.columns (complaint e.message) = .error misfit) :
    (runCompile shared.silent config options words).on s = (.error (.failure misfit), s) := by
  unfold runCompile
  simp only [Shared.silent, Bool.or_self, Bool.false_eq_true, if_false, parsed, pure_bind]
  rw [Run.on_bind_ok (on_orFail settled)]
  simp only [failed, own, if_true]
  exact Run.on_bind_error (on_refuse_error misfits)

theorem on_unhandled
    (parsed : Syntax.parse (" ".intercalate words) = .ok expression)
    (settled : config.settings options.includeDeleted = .ok settings)
    (failed : lower settings expression = .error e) (foreign : isLoweringError e = false) :
    (runCompile shared.silent config options words).on s = (.error (.failure e), s) := by
  unfold runCompile
  simp only [Shared.silent, Bool.or_self, Bool.false_eq_true, if_false, parsed, pure_bind]
  rw [Run.on_bind_ok (on_orFail settled)]
  simp only [failed, foreign, Bool.false_eq_true, if_false]
  exact Run.on_bind_error (Run.on_throw _)

theorem on_lowered
    (parsed : Syntax.parse (" ".intercalate words) = .ok expression)
    (settled : config.settings options.includeDeleted = .ok settings)
    (lowered : lower settings expression = .ok q) :
    (runCompile shared.silent config options words).on s =
      (orFail (compile settings expression options.count) >>= fun compiled =>
        printJson options.compact (.field "query" compiled.query.toJson)).on s := by
  have compiles : compile settings expression options.count =
      ((Assembly.mk [] [q] false).build settings options.count).1 := by
    unfold compile
    rw [lowered]
    rfl
  unfold runCompile
  simp only [Shared.silent, Bool.or_self, Bool.false_eq_true, if_false, parsed, pure_bind]
  rw [Run.on_bind_ok (on_orFail settled)]
  simp only [lowered]
  rw [compiles]
  rfl

theorem not_renders {columns : Nat} {message : String} {misfit : Error}
    (misfits : shown columns message = .error misfit) : ¬ Renders message := by
  intro rendered
  obtain ⟨chars, fits⟩ := exists_shown_iff.mpr rendered
  rw [misfits] at fits
  cases fits

theorem exists_compile_iff {count : Bool} (lowered : lower settings expression = .ok q) :
    (∃ compiled, compile settings expression count = .ok compiled) ↔
      (count = false → settings.ranking.Rates) := by
  constructor
  · rintro ⟨compiled, built⟩ rfl
    obtain ⟨_, baseline, _, restricted, _⟩ := compile_eq_ok_iff.mp built
    exact exists_search_baseline_iff.mp ⟨baseline, restricted⟩
  · intro rates
    have restricted : ∃ baseline, Baseline.query count settings.deletedIncluded
        settings.countHonorsDeleted settings.ranking = .ok baseline := by
      cases count with
      | true => exact exists_count_baseline _ _ _
      | false => exact exists_search_baseline_iff.mpr (rates rfl)
    obtain ⟨baseline, restricted⟩ := restricted
    exact ⟨_, compile_eq_ok_iff.mpr ⟨q, baseline, lowered, restricted, rfl⟩⟩

theorem not_unhandled_of_lowering (own : isLoweringError e = true) : ¬ e.Unhandled := by
  rintro (rfl | rfl) <;> cases own

/-- The steps behind the announcement end by the expression exactly where it can be answered. -/
theorem ends_or_escapes (settled : config.settings options.includeDeleted = .ok settings)
    (start : (shared.verbose || shared.debug) = false → s.output = []) :
    (Answerable options settings (" ".intercalate words) ∧
      EndsByExpression s.columns shared options settings (" ".intercalate words)
        (reportOf ((runCompile shared.silent config options words).on s))) ∨
    (¬ Answerable options settings (" ".intercalate words) ∧
      Escapes (reportOf ((runCompile shared.silent config options words).on s))) := by
  unfold Answerable EndsByExpression
  cases parsed : Syntax.parse (" ".intercalate words) with
  | error unread =>
    cases fits : shown s.columns (complaint unread.message) with
    | ok chars =>
      rw [on_unreadable parsed fits]
      have complained : Complains s.columns (reportOf (.error (.code 1), s.noting chars))
          unread.message := ⟨s.messages, chars, fits, rfl⟩
      exact .inl ⟨exists_shown_iff.mp ⟨chars, fits⟩, rfl, rfl, complained⟩
    | error misfit =>
      rw [on_unreadable_misfit parsed fits]
      exact .inr ⟨not_renders fits, misfit, rfl, rfl⟩
  | ok expression =>
    cases lowered : lower settings expression with
    | error e =>
      simp only [lowered]
      cases own : isLoweringError e with
      | true =>
        cases fits : shown s.columns (complaint e.message) with
        | ok chars =>
          rw [on_untranslated parsed settled lowered own fits]
          have renders := exists_shown_iff.mp ⟨chars, fits⟩
          have complained : Complains s.columns (reportOf (.error (.code 2), s.noting chars))
              e.message := ⟨s.messages, chars, fits, rfl⟩
          exact .inl ⟨⟨not_unhandled_of_lowering own, renders⟩, rfl, rfl, complained⟩
        | error misfit =>
          rw [on_untranslated_misfit parsed settled lowered own fits]
          exact .inr ⟨fun answerable => not_renders fits answerable.2, misfit, rfl, rfl⟩
      | false =>
        have unhandled : e.Unhandled := (ofLowering_lower lowered).resolve_left (by simp [own])
        rw [on_unhandled parsed settled lowered own]
        exact .inr ⟨fun answerable => answerable.1 unhandled, e, rfl, rfl⟩
    | ok q =>
      simp only [lowered]
      rw [on_lowered parsed settled lowered]
      have compiles : (∃ compiled, compile settings expression options.count = .ok compiled) ↔
          (options.count = false → settings.ranking.Rates) := exists_compile_iff lowered
      cases built : compile settings expression options.count with
      | ok compiled =>
        rw [Run.on_bind_ok (on_orFail rfl), on_printJson]
        exact .inl ⟨compiles.mp ⟨compiled, built⟩, rfl, rfl, compiled, rfl, s.output, start, rfl⟩
      | error e =>
        rw [Run.on_bind_error (on_orFail_error rfl)]
        refine .inr ⟨fun rates => ?_, e, rfl, rfl⟩
        obtain ⟨compiled, answered⟩ := compiles.mpr rates
        rw [built] at answered
        cases answered

end

theorem on_warn {warning : String} {chars : List Char}
    (fits : shown s.columns (styled "warning" "Warning:" ++ " " ++ warning) = .ok chars) :
    (warn warning).on s = (.ok (), s.noting chars) :=
  on_note fits

theorem on_warnings (warnings : List String) (s : Screen) :
    ((∀ warning ∈ warnings, Renders (styled "warning" "Warning:" ++ " " ++ warning)) ∧
      ∃ chars, (warnings.forM warn).on s = (.ok (), s.noting chars)) ∨
    ((¬ ∀ warning ∈ warnings, Renders (styled "warning" "Warning:" ++ " " ++ warning)) ∧
      ∃ e later, (warnings.forM warn).on s = (.error (.failure e), later)) := by
  induction warnings generalizing s with
  | nil => exact .inl ⟨nofun, [], by simp [Screen.noting]⟩
  | cons warning rest ih =>
    have chained : (warning :: rest).forM warn = (warn warning >>= fun _ => rest.forM warn) := rfl
    simp only [List.forall_mem_cons, chained]
    cases fits : shown s.columns (styled "warning" "Warning:" ++ " " ++ warning) with
    | error misfit =>
      have stopped : (warn warning).on s = (.error (.failure misfit), s) := on_note_error fits
      exact .inr ⟨fun all => not_renders fits all.1, misfit, s, Run.on_bind_error stopped⟩
    | ok chars =>
      rw [Run.on_bind_ok (on_warn fits)]
      rcases ih (s.noting chars) with ⟨all, more, ended⟩ | ⟨some, e, later, ended⟩
      · refine .inl ⟨⟨exists_shown_iff.mp ⟨chars, fits⟩, all⟩, chars ++ more, ?_⟩
        rw [ended, Screen.noting_noting]
      · exact .inr ⟨fun all => some all.2, e, later, ended⟩

theorem valid_of_load {path : String} {contents : Option String} {warnings : List String}
    (loaded : Config.load path contents = .ok (config, warnings)) :
    ∃ found, config.validate = .ok found := by
  unfold Config.load at loaded
  cases contents with
  | none =>
    obtain ⟨found, valid, same⟩ := bind_eq_ok_iff.mp loaded
    cases same
    exact ⟨found, valid⟩
  | some text =>
    simp only [Config.ofText] at loaded
    split at loaded
    · obtain ⟨read, _, loaded⟩ := bind_eq_ok_iff.mp loaded
      obtain ⟨found, valid, same⟩ := bind_eq_ok_iff.mp loaded
      cases same
      exact ⟨_, valid⟩
    · cases loaded
    · cases loaded

theorem valid_of_readConfig {place : Place} {warnings : List String}
    (loaded : readConfig place shared = .ok (config, warnings)) :
    ∃ found, config.validate = .ok found := by
  obtain ⟨segments, _, loaded⟩ := bind_eq_ok_iff.mp loaded
  obtain ⟨entry, _, loaded⟩ := bind_eq_ok_iff.mp loaded
  cases entry with
  | missing => exact valid_of_load loaded
  | file text => exact valid_of_load loaded
  | directory => cases loaded

theorem exists_settings {found : List String} (valid : config.validate = .ok found)
    (deletedIncluded : Option Bool) : ∃ settings, config.settings deletedIncluded = .ok settings := by
  obtain ⟨accepted, _⟩ := Config.validate_eq_ok_iff.mp valid
  have ranked := Ranking.ofWeights_eq_ok_iff.mpr ⟨accepted, rfl⟩
  unfold Config.settings
  rw [ranked]
  exact ⟨_, rfl⟩

section
variable {place : Place} {warnings : List String}

theorem on_loadConfig_quiet (loaded : readConfig place shared = .ok (config, warnings))
    (quiet : shared.quiet = true) : (loadConfig place shared).on s = (.ok config, s) := by
  unfold loadConfig
  rw [loaded]
  simp [quiet]

theorem on_loadConfig (loaded : readConfig place shared = .ok (config, warnings))
    (unquiet : shared.quiet = false) :
    (loadConfig place shared).on s = (warnings.forM warn >>= fun _ => pure config).on s := by
  unfold loadConfig
  rw [loaded]
  simp [unquiet]

theorem loads_or_escapes (loaded : readConfig place shared = .ok (config, warnings)) (s : Screen) :
    ((shared.quiet = false → ∀ warning ∈ warnings,
        Renders (styled "warning" "Warning:" ++ " " ++ warning)) ∧
      ∃ chars, (loadConfig place shared).on s = (.ok config, s.noting chars)) ∨
    ((¬ (shared.quiet = false → ∀ warning ∈ warnings,
        Renders (styled "warning" "Warning:" ++ " " ++ warning))) ∧
      ∃ e later, (loadConfig place shared).on s = (.error (.failure e), later)) := by
  cases quiet : shared.quiet with
  | true =>
    refine .inl ⟨nofun, [], ?_⟩
    rw [on_loadConfig_quiet loaded quiet]
    simp [Screen.noting]
  | false =>
    rw [on_loadConfig loaded quiet]
    rcases on_warnings warnings s with ⟨all, chars, ended⟩ | ⟨some, e, later, ended⟩
    · exact .inl ⟨fun _ => all, chars, Run.on_bind_ok ended⟩
    · exact .inr ⟨fun all => some (all rfl), e, later, Run.on_bind_error ended⟩

theorem runLine_compile {own : List String}
    (request : readRequest .compile own = .ok (.compile options words)) :
    runLine place (.command shared .compile own) =
      (loadConfig place shared >>= fun config => runCompile shared config options words) := by
  unfold runLine
  simp only [request]

theorem announces_or_escapes (settled : config.settings options.includeDeleted = .ok settings)
    (start : s.output = []) :
    ((((shared.verbose || shared.debug) = true →
        Renders (styled "info" ("Compiling: " ++ " ".intercalate words))) ∧
        Answerable options settings (" ".intercalate words)) ∧
      EndsByExpression s.columns shared options settings (" ".intercalate words)
        (reportOf ((runCompile shared config options words).on s))) ∨
    ((¬ (((shared.verbose || shared.debug) = true →
        Renders (styled "info" ("Compiling: " ++ " ".intercalate words))) ∧
        Answerable options settings (" ".intercalate words))) ∧
      Escapes (reportOf ((runCompile shared config options words).on s))) := by
  cases loud : shared.verbose || shared.debug with
  | false =>
    rw [on_unannounced loud]
    rcases ends_or_escapes settled (fun _ => start) with ⟨answerable, ends⟩ | ⟨unanswerable, escapes⟩
    · exact .inl ⟨⟨nofun, answerable⟩, ends⟩
    · exact .inr ⟨fun both => unanswerable both.2, escapes⟩
  | true =>
    cases fits : shown s.columns (styled "info" ("Compiling: " ++ " ".intercalate words)) with
    | error misfit =>
      have stopped : (runCompile shared config options words).on s =
          (.error (.failure misfit), s) := by
        unfold runCompile
        simp only [loud, if_true]
        exact Run.on_bind_error (on_say_error fits)
      rw [stopped]
      exact .inr ⟨fun both => not_renders fits (both.1 rfl), misfit, rfl, rfl⟩
    | ok chars =>
      rw [on_announced loud fits]
      have silent : (shared.verbose || shared.debug) = false → (s.printing chars).output = [] := by
        intro quiet
        rw [loud] at quiet
        cases quiet
      rcases ends_or_escapes settled silent with ⟨answerable, ends⟩ | ⟨unanswerable, escapes⟩
      · exact .inl ⟨⟨fun _ => exists_shown_iff.mp ⟨chars, fits⟩, answerable⟩, ends⟩
      · exact .inr ⟨fun both => unanswerable both.2, escapes⟩

end

/-- With a configuration that loads, the command ends by its expression exactly where all that it
    takes for granted holds; otherwise an error escapes. -/
theorem compile_command_ends_by_its_expression (place : Place) (arguments own : List String)
    (shared : Shared) (options : CompileOptions) (words : List String) (config : Config)
    (warnings : List String) (line : readLine arguments = .command shared .compile own)
    (request : readRequest .compile own = .ok (.compile options words))
    (loaded : readConfig place shared = .ok (config, warnings)) :
    ∃ settings, config.settings options.includeDeleted = .ok settings ∧
      (Handled shared warnings options settings (" ".intercalate words) →
        EndsByExpression place.columns shared options settings (" ".intercalate words)
          (run place arguments)) ∧
      (¬ Handled shared warnings options settings (" ".intercalate words) →
        Escapes (run place arguments)) := by
  obtain ⟨found, valid⟩ := valid_of_readConfig loaded
  obtain ⟨settings, settled⟩ := exists_settings valid options.includeDeleted
  refine ⟨settings, settled, ?_⟩
  rw [run_eq_reportOf, line, runLine_compile request]
  rcases loads_or_escapes loaded ⟨place.columns, [], [], []⟩ with
    ⟨warned, chars, ended⟩ | ⟨misfit, e, later, ended⟩
  · rw [Run.on_bind_ok ended]
    rcases announces_or_escapes (s := Screen.noting ⟨place.columns, [], [], []⟩ chars)
      settled rfl with ⟨⟨announced, answered⟩, ends⟩ | ⟨unanswered, escapes⟩
    · exact ⟨fun _ => ends, fun unhandled => absurd ⟨warned, announced, answered⟩ unhandled⟩
    · exact ⟨fun handled => absurd ⟨handled.announced, handled.answered⟩ unanswered,
        fun _ => escapes⟩
  · rw [Run.on_bind_error ended]
    exact ⟨fun handled => absurd handled.warned misfit, fun _ => ⟨e, rfl, rfl⟩⟩

theorem answerable_of_lowers {text : String} (rates : settings.ranking.Rates)
    (lowers : ((Syntax.parse text).toOption.bind fun e => (lower settings e).toOption).isSome = true) :
    Answerable options settings text := by
  unfold Answerable
  cases parsed : Syntax.parse text with
  | error unread =>
    rw [parsed] at lowers
    cases lowers
  | ok expression =>
    cases lowered : lower settings expression with
    | error e => simp [parsed, lowered, Except.toOption] at lowers
    | ok q => simpa only [lowered] using fun _ => rates

/- A place without any file. -/
def emptyPlace : Place :=
  ⟨⟨["home"], fun _ => some ["home"], ["home", "config.toml"]⟩, fun _ => .missing, 80⟩

/-- Tags in the expression are taken for tags of the message about it. -/
theorem bracketed_expression_escapes :
    ¬ ∀ (place : Place) (arguments own : List String) (shared : Shared) (options : CompileOptions)
      (words : List String) (config : Config) (warnings : List String) (settings : Settings),
      readLine arguments = .command shared .compile own →
      readRequest .compile own = .ok (.compile options words) →
      readConfig place shared = .ok (config, warnings) →
      config.settings options.includeDeleted = .ok settings →
      EndsByExpression place.columns shared options settings (" ".intercalate words)
        (run place arguments) := by
  intro law
  have ends := law emptyPlace ["-q", "compile", "title = [/x] )"] ["title = [/x] )"]
    ⟨none, false, false, true, none⟩ ⟨false, none, false, false⟩ ["title = [/x] )"] .standard _
    .standard rfl rfl rfl rfl
  have escaped : (run emptyPlace ["-q", "compile", "title = [/x] )"]).failure.isSome = true := by
    decide +kernel
  rw [ends.1] at escaped
  cases escaped

theorem ocean_compiled :
    ∃ settings, Config.standard.settings none = .ok settings ∧
      EndsByExpression 80 ⟨none, false, false, true, none⟩ ⟨false, none, true, false⟩ settings
        "title = Ocean" (run emptyPlace ["-q", "compile", "--compact", "title = Ocean"]) := by
  obtain ⟨settings, settled, ends, -⟩ := compile_command_ends_by_its_expression emptyPlace
    ["-q", "compile", "--compact", "title = Ocean"] ["--compact", "title = Ocean"]
    ⟨none, false, false, true, none⟩ ⟨false, none, true, false⟩ ["title = Ocean"] .standard _
    rfl rfl rfl
  have standard : Config.standard.settings none = .ok .standard := rfl
  cases settled.symm.trans standard
  have joined : " ".intercalate ["title = Ocean"] = "title = Ocean" := rfl
  rw [joined] at ends
  have searches : (Baseline.query false false false .neutral).toBool = true := by decide +kernel
  have rates : Ranking.neutral.Rates := exists_search_baseline_iff.mp (exists_ok_of_toBool searches)
  have lowers : ((Syntax.parse "title = Ocean").toOption.bind fun e =>
      (lower .standard e).toOption).isSome = true := by decide +kernel
  exact ⟨.standard, standard, ends ⟨nofun, nofun, answerable_of_lowers rates lowers⟩⟩

end BondQuery.Command
