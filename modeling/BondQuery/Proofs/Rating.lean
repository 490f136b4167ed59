import BondQuery.Proofs.Boosts
import BondQuery.Proofs.Meaning
import BondQuery.Session

/- What a ranking changes. Each step of a compilation answers under a ranking what it answers under
   the empty one but for the boosts: weights rate records and choose none. -/
namespace BondQuery

/-- Whatever the ranked step answers, the plain one answers but for the boosts, and boosts are
    above one. -/
def Rates (ranked plain : Except Error Query) : Prop :=
  ∀ q, ranked = .ok q → q.Raised ∧ ∃ p, plain = .ok p ∧ p.unboosted = q.unboosted

section
open Query

theorem rates_of_unrated {step : Except Error Query} (unrated : ∀ q, step = .ok q → q.Unrated) :
    Rates step step :=
  fun q answered => ⟨(unrated q answered).raised, q, answered, rfl⟩

theorem rates_keyed {kind : KeyedKind} {field : String} {ranked plain : String → Leaf}
    (raised : ∀ name boost, (ranked name).boost? = some boost → boost.isAboveOne = true)
    (same : ∀ name, (plain name).unboosted = (ranked name).unboosted) :
    Rates (keyed kind field ranked) (keyed kind field plain) := by
  intro q built
  unfold keyed at built ⊢
  obtain ⟨key, named, built⟩ := bind_eq_ok_iff.mp built
  rw [named]
  cases key with
  | field name =>
    cases built
    exact ⟨(each_leaf _).mpr (raised name), _, rfl, congrArg leaf (same name)⟩
  | absent =>
    cases built
    exact ⟨(each_leaf _).mpr (fun boost none => nomatch none), _, rfl, rfl⟩

theorem rates_matchPhrase {field value : String} {weight plain : Number} {least : Option Double}
    (given : boostOf plain = .ok least) :
    Rates (matchPhrase field value weight) (matchPhrase field value plain) := by
  intro q built
  obtain ⟨boost, weighed, built⟩ := bind_eq_ok_iff.mp built
  have keys : Rates (keyed .matchPhrase field (.matchPhrase · value boost))
      (keyed .matchPhrase field (.matchPhrase · value least)) := by
    refine rates_keyed (fun _ x found => ?_) (fun _ => rfl)
    exact isAboveOne_of_boostOf (weighed.trans (congrArg Except.ok found))
  obtain ⟨raised, p, asked, same⟩ := keys q built
  exact ⟨raised, p, bind_eq_ok_iff.mpr ⟨least, given, asked⟩, same⟩

theorem rates_unweighed {field value : String} {weight : Number} :
    Rates (matchPhrase field value weight) (matchPhrase field value (.int 1)) :=
  rates_matchPhrase rfl

theorem rates_wildcard {field pattern : String} {weight plain : Number} {least : Option Double}
    (given : boostOf plain = .ok least) :
    Rates (wildcard field pattern weight) (wildcard field pattern plain) := by
  intro q built
  obtain ⟨boost, weighed, built⟩ := bind_eq_ok_iff.mp built
  have keys : Rates (keyed .wildcard field (.wildcard · pattern boost))
      (keyed .wildcard field (.wildcard · pattern least)) := by
    refine rates_keyed (fun _ x found => ?_) (fun _ => rfl)
    exact isAboveOne_of_boostOf (weighed.trans (congrArg Except.ok found))
  obtain ⟨raised, p, asked, same⟩ := keys q built
  exact ⟨raised, p, bind_eq_ok_iff.mpr ⟨least, given, asked⟩, same⟩

theorem rates_property (ranking : Ranking) (property : Property) (operator : Operator)
    (value : String) :
    Rates (Translate.property ranking property operator value)
      (Translate.property .neutral property operator value) := by
  cases operator with
  | equal => exact rates_unweighed
  | notEqual =>
    intro q built
    obtain ⟨equal, found, rfl⟩ := map_eq_ok_iff.mp built
    obtain ⟨raised, p, asked, same⟩ := rates_unweighed equal found
    refine ⟨?_, p.negate, map_eq_ok_iff.mpr ⟨p, asked, rfl⟩, ?_⟩
    · simpa [Raised, negate] using raised
    · simp [same]
  | like => exact rates_wildcard rfl
  | «exists» =>
    refine rates_of_unrated fun q built => ?_
    cases built
    simp [Unrated, Leaf.boost?]
  | notExists =>
    refine rates_of_unrated fun q built => ?_
    cases built
    simp [Unrated, Leaf.boost?, lacksField, negate]
  | greater | greaterOrEqual | less | lessOrEqual =>
    refine rates_of_unrated fun q built => ?_
    obtain ⟨stored, -, built⟩ := bind_eq_ok_iff.mp built
    exact unrated_of_keyed (fun name => rfl) built
  | _ =>
    intro q built
    cases built

theorem rates_spatial (property : Property) (operator : Operator) (extent : Extent) :
    Rates (Translate.spatial property operator extent)
      (Translate.spatial property operator extent) := by
  refine rates_of_unrated fun q built => ?_
  unfold Translate.spatial at built
  split at built
  · exact unrated_of_keyed (fun name => rfl) built
  · cases built

theorem rates_subject (ranking : Ranking) (operator : Operator) (value : String) :
    Rates (Translate.subject ranking operator value) (Translate.subject .neutral operator value) := by
  intro q built
  obtain ⟨keyword, first, built⟩ := bind_eq_ok_iff.mp built
  obtain ⟨topic, second, built⟩ := bind_eq_ok_iff.mp built
  cases built
  obtain ⟨keywordRaised, k, keywordAsked, keywordSame⟩ := rates_property _ _ _ _ keyword first
  obtain ⟨topicRaised, t, topicAsked, topicSame⟩ := rates_property _ _ _ _ topic second
  refine ⟨?_, anyOf [k, t] true, ?_, ?_⟩
  · simpa [Raised] using And.intro keywordRaised topicRaised
  · exact bind_eq_ok_iff.mpr ⟨k, keywordAsked, bind_eq_ok_iff.mpr ⟨t, topicAsked, rfl⟩⟩
  · simp [keywordSame, topicSame]

theorem unrated_source (sourceId : String) (dataFolders : List (String × String)) :
    (Template.source sourceId dataFolders).Unrated := by
  unfold Template.source Template.ofSource
  split <;> simp [Unrated, Leaf.boost?]

theorem unrated_dataCore (flag : String) (sourceIds : List String) :
    (Template.dataCore flag sourceIds).Unrated := by
  have sources : (anyOf (sourceIds.map Template.ofSource) true).Unrated := by
    simp [Unrated, Template.ofSource, Leaf.boost?]
  unfold Template.dataCore
  split
  · simp [Unrated, Leaf.boost?]
  · simpa [Unrated, Leaf.boost?] using sources

theorem unrated_visible : Baseline.visible.Unrated := by
  simp [Baseline.visible, Unrated, lacksField, negate, Leaf.boost?]

theorem rates_bond (settings : Settings) (property : Property) (operator : Operator)
    (value : String) :
    Rates (lowerBond settings property operator value)
      (lowerBond { settings with ranking := .neutral } property operator value) := by
  unfold lowerBond
  split
  · refine rates_of_unrated fun q built => ?_
    cases built
    exact unrated_source value settings.dataFolders
  · split
    · exact rates_subject settings.ranking operator value
    · split
      · refine rates_of_unrated fun q built => ?_
        cases built
        exact unrated_dataCore value settings.dataCoreSources
      · exact rates_property settings.ranking property operator value

theorem lowerAll_eq_mapM (settings : Settings) (es : List Expression) :
    lowerAll settings es = es.mapM (lower settings) := by
  induction es with
  | nil => rfl
  | cons e rest ih => rw [lowerAll, ih, List.mapM_cons]

theorem rates_mapM {α : Type} {ranked plain : α → Except Error Query} {xs : List α}
    (each : ∀ x ∈ xs, Rates (ranked x) (plain x)) {qs : List Query}
    (answered : xs.mapM ranked = .ok qs) :
    (∀ q ∈ qs, q.Raised) ∧
      ∃ ps, xs.mapM plain = .ok ps ∧ ps.map unboosted = qs.map unboosted := by
  induction xs generalizing qs with
  | nil =>
    cases answered
    exact ⟨nofun, [], rfl, rfl⟩
  | cons x rest ih =>
    obtain ⟨q, later, first, others, rfl⟩ := mapM_cons_eq_ok_iff.mp answered
    obtain ⟨raised, p, asked, same⟩ := each x (by simp) q first
    obtain ⟨allRaised, ps, allAsked, allSame⟩ :=
      ih (fun y member => each y (List.mem_cons_of_mem _ member)) others
    refine ⟨List.forall_mem_cons.mpr ⟨raised, allRaised⟩, p :: ps, ?_, ?_⟩
    · exact mapM_cons_eq_ok_iff.mpr ⟨p, ps, asked, allAsked, rfl⟩
    · rw [List.map_cons, List.map_cons, same, allSame]

theorem raised_clause {connective : Connective} {qs : List Query} (raised : ∀ q ∈ qs, q.Raised) :
    (connective.clause qs).Raised := by
  cases connective <;> simpa [Connective.clause, Raised] using raised

theorem unboosted_clause (connective : Connective) (qs : List Query) :
    (connective.clause qs).unboosted = connective.clause (qs.map unboosted) := by
  cases connective <;> simp [Connective.clause]

theorem rates_lower (settings : Settings) (e : Expression) :
    Rates (lower settings e) (lower { settings with ranking := .neutral } e) := by
  induction e with
  | bond property operator value =>
    rw [lower, lower]
    exact rates_bond settings property operator value
  | spatial property operator extent =>
    rw [lower, lower]
    exact rates_spatial property operator extent
  | logical connective operands each =>
    intro q built
    rw [lower, lowerAll_eq_mapM] at built
    obtain ⟨qs, answered, rfl⟩ := map_eq_ok_iff.mp built
    obtain ⟨raised, ps, asked, same⟩ := rates_mapM each answered
    refine ⟨raised_clause raised, connective.clause ps, ?_, ?_⟩
    · rw [lower, lowerAll_eq_mapM, asked]
      rfl
    · rw [unboosted_clause, unboosted_clause, same]

theorem neutral_levels_boost (dimension : String) :
    ∀ level ∈ List.range' 1 topLevel,
      ∃ least, boostOf (Ranking.neutral.levelWeight dimension level) = .ok least := by
  have weights : ∀ level ∈ List.range' 1 topLevel,
      (boostOf (.int (1 * (level : Nat)))).toBool = true := by decide +kernel
  exact fun level member => exists_ok_of_toBool (weights level member)

theorem rates_levels (ranking : Ranking) (dimension : String) :
    Rates (Baseline.levels ranking dimension) (Baseline.levels .neutral dimension) := by
  intro q built
  obtain ⟨phrases, answered, built⟩ := bind_eq_ok_iff.mp built
  cases built
  obtain ⟨raised, ps, asked, same⟩ := rates_mapM (fun level member q phrased => by
    obtain ⟨least, given⟩ := neutral_levels_boost dimension level member
    exact rates_matchPhrase given q phrased) answered
  refine ⟨by simpa [Raised] using raised, anyOf ps false, ?_, by simp [same]⟩
  exact bind_eq_ok_iff.mpr ⟨ps, asked, rfl⟩

theorem rates_dataCore (ranking : Ranking) :
    Rates (Baseline.dataCore ranking) (Baseline.dataCore .neutral) := by
  intro q built
  obtain ⟨flagged, phrased, built⟩ := bind_eq_ok_iff.mp built
  cases built
  obtain ⟨raised, p, asked, same⟩ := rates_unweighed flagged phrased
  refine ⟨?_, anyOf [phrase Property.isDataCore.name "false", p] true, ?_, by simp [same]⟩
  · simpa [Raised, Leaf.boost?] using raised
  · exact bind_eq_ok_iff.mpr ⟨p, asked, rfl⟩

theorem count_baseline (deletedIncluded countHonorsDeleted : Bool) (ranking : Ranking) :
    Baseline.query true deletedIncluded countHonorsDeleted ranking =
      .ok (if deletedIncluded && countHonorsDeleted then .matchAll else Baseline.visible) :=
  rfl

theorem unrated_count_baseline {deletedIncluded countHonorsDeleted : Bool} {ranking : Ranking}
    {q : Query}
    (built : Baseline.query true deletedIncluded countHonorsDeleted ranking = .ok q) :
    q.Unrated := by
  rw [count_baseline] at built
  cases built
  split
  · exact each_matchAll
  · exact unrated_visible

theorem rates_baseline (count deletedIncluded countHonorsDeleted : Bool) (ranking : Ranking) :
    Rates (Baseline.query count deletedIncluded countHonorsDeleted ranking)
      (Baseline.query count deletedIncluded countHonorsDeleted .neutral) := by
  cases count with
  | true =>
    rw [count_baseline _ _ ranking, ← count_baseline _ _ .neutral]
    exact rates_of_unrated fun q built => unrated_count_baseline built
  | false =>
    intro q built
    obtain ⟨core, first, built⟩ := bind_eq_ok_iff.mp built
    obtain ⟨rated, second, built⟩ := bind_eq_ok_iff.mp built
    cases built
    obtain ⟨coreRaised, c, coreAsked, coreSame⟩ := rates_dataCore ranking core first
    obtain ⟨raised, ps, asked, same⟩ :=
      rates_mapM (fun dimension _ => rates_levels ranking dimension) second
    have hidden : ∀ q ∈ (if deletedIncluded then [] else [Baseline.visible]), q.Raised := by
      cases deletedIncluded
      · simpa using unrated_visible.raised
      · simp
    refine ⟨?_, anyOf (.matchAll :: c :: ps ++ if deletedIncluded then [] else [Baseline.visible])
      true, ?_, by simp [coreSame, same]⟩
    · refine (each_anyOf _ _).mpr fun q member => ?_
      simp only [List.cons_append, List.mem_cons, List.mem_append] at member
      rcases member with rfl | rfl | rater | marker
      · exact each_matchAll
      · exact coreRaised
      · exact raised q rater
      · exact hidden q marker
    · exact bind_eq_ok_iff.mpr ⟨c, coreAsked, bind_eq_ok_iff.mpr ⟨ps, asked, rfl⟩⟩

def Compiled.unboosted (compiled : Compiled) : Compiled :=
  { compiled with query := compiled.query.unboosted }

theorem compile_eq_ok_iff {settings : Settings} {e : Expression} {count : Bool}
    {compiled : Compiled} :
    compile settings e count = .ok compiled ↔
      ∃ search baseline, lower settings e = .ok search ∧
        Baseline.query count settings.deletedIncluded settings.countHonorsDeleted
          settings.ranking = .ok baseline ∧
        .ofParts search baseline count = compiled := by
  unfold compile
  simp only [bind_eq_ok_iff]
  constructor
  · rintro ⟨search, lowered, _, -, built⟩
    obtain ⟨baseline, restricted, joined⟩ := map_eq_ok_iff.mp built
    exact ⟨search, baseline, lowered, restricted, joined⟩
  · rintro ⟨search, baseline, lowered, restricted, joined⟩
    exact ⟨search, lowered, (), rfl, map_eq_ok_iff.mpr ⟨baseline, restricted, joined⟩⟩

/-- Where boosts stand: on phrases and patterns, each above one, but in no clause of a source or of
    the data core that is asked for, and not in the baseline of a count. -/
structure BoostsOnlyRate (settings : Settings) (e : Expression) (count : Bool)
    (compiled : Compiled) : Prop where
  above : ∀ clause ∈ compiled.query.leaves, ∀ boost, clause.toJson.boost? = some boost →
    ∃ x, boost = .double x ∧ x.isAboveOne = true
  carriers : ∀ clause ∈ compiled.query.leaves, clause.toJson.boost? ≠ none →
    (∃ field value boost, clause = .matchPhrase field value boost) ∨
      ∃ field pattern boost, clause = .wildcard field pattern boost
  selected : ∀ property value q, property = .sourceId ∨ property = .isDataCore →
    lower settings (.bond property .equal value) = .ok q →
    ∀ clause ∈ q.leaves, clause.toJson.boost? = none
  counted : count = true → ∃ search baseline, lower settings e = .ok search ∧
    compiled = .ofParts search baseline count ∧
    ∀ clause ∈ baseline.leaves, clause.toJson.boost? = none

theorem Query.Unrated.toJson {q : Query} (unrated : q.Unrated) :
    ∀ clause ∈ q.leaves, clause.toJson.boost? = none := by
  intro clause inside
  rw [Leaf.boost?_toJson, unrated clause inside, Option.map_none]

theorem unrated_of_selected {settings : Settings} {property : Property} {value : String}
    {q : Query} (selects : property = .sourceId ∨ property = .isDataCore)
    (built : lower settings (.bond property .equal value) = .ok q) : q.Unrated := by
  rw [lower] at built
  rcases selects with rfl | rfl
  · have source : lowerBond settings .sourceId .equal value =
        .ok (Template.source value settings.dataFolders) := rfl
    rw [source] at built
    cases built
    exact unrated_source value settings.dataFolders
  · have flagged : lowerBond settings .isDataCore .equal value =
        .ok (Template.dataCore value settings.dataCoreSources) := rfl
    rw [flagged] at built
    cases built
    exact unrated_dataCore value settings.dataCoreSources

theorem boosts_only_rate {settings : Settings} {e : Expression} {count : Bool}
    {compiled : Compiled} (built : compile settings e count = .ok compiled) :
    BoostsOnlyRate settings e count compiled := by
  obtain ⟨search, baseline, lowered, restricted, rfl⟩ := compile_eq_ok_iff.mp built
  have searchRaised := (rates_lower settings e search lowered).1
  have baselineRaised := (rates_baseline count settings.deletedIncluded
    settings.countHonorsDeleted settings.ranking baseline restricted).1
  have raised : (Compiled.ofParts search baseline count).query.Raised := by
    refine (each_allOf _).mpr fun q member => ?_
    simp only [List.mem_cons, List.not_mem_nil, or_false] at member
    rcases member with rfl | rfl
    · exact searchRaised
    · exact baselineRaised
  refine ⟨?_, ?_, ?_, ?_⟩
  · intro clause inside boost written
    rw [Leaf.boost?_toJson] at written
    obtain ⟨x, given, rfl⟩ := Option.map_eq_some_iff.mp written
    exact ⟨x, rfl, raised clause inside x given⟩
  · intro clause _ written
    rw [Leaf.boost?_toJson] at written
    cases clause with
    | matchPhrase field value boost => exact .inl ⟨field, value, boost, rfl⟩
    | wildcard field pattern boost => exact .inr ⟨field, pattern, boost, rfl⟩
    | _ => exact absurd rfl written
  · intro property value q selects asked
    exact (unrated_of_selected selects asked).toJson
  · rintro rfl
    exact ⟨search, baseline, lowered, rfl, (unrated_count_baseline restricted).toJson⟩

theorem unboosted_of_compile {settings : Settings} {e : Expression} {count : Bool}
    {compiled : Compiled} (built : compile settings e count = .ok compiled) :
    ∃ plain, compile { settings with ranking := .neutral } e count = .ok plain ∧
      compiled.unboosted = plain.unboosted := by
  obtain ⟨search, baseline, lowered, restricted, rfl⟩ := compile_eq_ok_iff.mp built
  obtain ⟨-, s, searched, sameSearch⟩ := rates_lower settings e search lowered
  obtain ⟨-, b, joined, sameBaseline⟩ := rates_baseline count settings.deletedIncluded
    settings.countHonorsDeleted settings.ranking baseline restricted
  refine ⟨.ofParts s b count, compile_eq_ok_iff.mpr ⟨s, b, searched, joined, rfl⟩, ?_⟩
  simp [Compiled.unboosted, Compiled.ofParts, sameSearch, sameBaseline]

/-- Two rankings under which an expression compiles ask the same query but for the boosts. -/
theorem ranking_never_changes_the_query (settings : Settings) (e : Expression) (count : Bool)
    (first second : Ranking) (one two : Compiled)
    (builtOne : compile { settings with ranking := first } e count = .ok one)
    (builtTwo : compile { settings with ranking := second } e count = .ok two) :
    one.unboosted = two.unboosted ∧
    (∃ plain, compile { settings with ranking := .neutral } e count = .ok plain ∧
      one.unboosted = plain.unboosted ∧ two.unboosted = plain.unboosted) ∧
    BoostsOnlyRate { settings with ranking := first } e count one ∧
    BoostsOnlyRate { settings with ranking := second } e count two := by
  obtain ⟨plain, builtPlain, sameOne⟩ := unboosted_of_compile builtOne
  obtain ⟨other, builtOther, sameTwo⟩ := unboosted_of_compile builtTwo
  have same : plain = other := Except.ok.inj (builtPlain.symm.trans builtOther)
  subst same
  exact ⟨sameOne.trans sameTwo.symm, ⟨plain, builtPlain, sameOne, sameTwo⟩,
    boosts_only_rate builtOne, boosts_only_rate builtTwo⟩

theorem two_rankings_ask_the_same :
    ∃ one two,
      compile { localSettings with ranking := ⟨[("keyword", .int 7), ("metadataQuality", .int 2)]⟩ }
        everyRoute false = .ok one ∧
      compile { localSettings with ranking := ⟨[("topicCategory", .int 3)]⟩ } everyRoute false =
        .ok two ∧
      one.unboosted = two.unboosted := by
  obtain ⟨one, builtOne⟩ := exists_ok_of_toBool (x := compile { localSettings with
    ranking := ⟨[("keyword", .int 7), ("metadataQuality", .int 2)]⟩ } everyRoute false)
    (by decide +kernel)
  obtain ⟨two, builtTwo⟩ := exists_ok_of_toBool (x := compile { localSettings with
    ranking := ⟨[("topicCategory", .int 3)]⟩ } everyRoute false) (by decide +kernel)
  exact ⟨one, two, builtOne, builtTwo, (ranking_never_changes_the_query localSettings everyRoute
    false _ _ one two builtOne builtTwo).1⟩

end

end BondQuery
