import BondQuery.Proofs.Visibility

/- What the baseline filters. Its ratings only score, so a search finds what was assembled, and a
   count the visible part of it. A rating fails when its weight is too large to be a boost. -/
namespace BondQuery
open Query

section
variable {Document : Type} (decides : Condition → Document → Prop) (d : Document)

/-- The record has no delete marker, or one that says false. -/
def Visible : Prop :=
  ¬ decides (.exists "isDeleted") d ∨ decides (.matchPhrase "isDeleted" "false") d

end

theorem visible_iff_not_deleted {Document : Type} {decides : Condition → Document → Prop}
    {d : Document} : Visible decides d ↔ ¬ Deleted decides d := by
  unfold Visible Deleted
  rw [Classical.not_and_iff_not_or_not, Classical.not_not]

/-- The weight is a boost, or small enough to need none. -/
def Number.Boosts (weight : Number) : Prop :=
  ∃ boost, boostOf weight = .ok boost

def ratedDimensions : List String :=
  ["metadataQuality", "essentialVarsQuality", "accessQuality"]

/-- Every weight that a search rates its records by boosts. -/
def Ranking.Rates (ranking : Ranking) : Prop :=
  (ranking.weight "isGDC").Boosts ∧
    ∀ dimension ∈ ratedDimensions, ∀ level, 1 ≤ level → level ≤ 5 →
      (ranking.levelWeight dimension level).Boosts

theorem exists_matchPhrase_iff {field : String} (free : field ≠ "self") (value : String)
    (weight : Number) :
    (∃ q, matchPhrase field value weight = .ok q) ↔ weight.Boosts := by
  have key : ∀ boost, ∃ q, keyed .matchPhrase field (.matchPhrase · value boost) = .ok q := by
    intro boost
    unfold keyed FieldKey.ofName
    rw [if_neg free]
    split <;> exact ⟨_, rfl⟩
  unfold matchPhrase Number.Boosts
  rw [exists_ok_bind_iff]
  simp only [key, and_true]

theorem exists_dataCore_iff {ranking : Ranking} :
    (∃ q, Baseline.dataCore ranking = .ok q) ↔ (ranking.weight "isGDC").Boosts := by
  have free : Property.isDataCore.name ≠ "self" := by decide
  unfold Baseline.dataCore
  rw [exists_ok_bind_iff, show "isGDC" = Property.isDataCore.name from rfl,
    ← exists_matchPhrase_iff free "true"]
  simp [pure, Except.pure]

theorem exists_levels_iff {ranking : Ranking} {dimension : String} (free : dimension ≠ "self") :
    (∃ q, Baseline.levels ranking dimension = .ok q) ↔
      ∀ level, 1 ≤ level → level ≤ 5 → (ranking.levelWeight dimension level).Boosts := by
  unfold Baseline.levels topLevel
  rw [exists_ok_bind_iff]
  have joined : ∀ phrases, ∃ q, (return anyOf phrases false : Except Error Query) = .ok q :=
    fun phrases => ⟨_, rfl⟩
  simp only [joined, and_true, exists_ok_mapM_iff, exists_matchPhrase_iff free, List.mem_range'_1]
  constructor
  · intro each level first last
    exact each level ⟨first, by omega⟩
  · intro each level within
    exact each level within.1 (by omega)

theorem exists_count_baseline (deletedIncluded countHonorsDeleted : Bool) (ranking : Ranking) :
    ∃ q, Baseline.query true deletedIncluded countHonorsDeleted ranking = .ok q :=
  ⟨_, rfl⟩

theorem exists_search_baseline_iff {deletedIncluded countHonorsDeleted : Bool}
    {ranking : Ranking} :
    (∃ q, Baseline.query false deletedIncluded countHonorsDeleted ranking = .ok q) ↔
      ranking.Rates := by
  have free : ∀ dimension ∈ ratedDimensions, dimension ≠ "self" := by decide
  have search : Baseline.query false deletedIncluded countHonorsDeleted ranking = (do
      let core ← Baseline.dataCore ranking
      let rated ← ratedDimensions.mapM (Baseline.levels ranking)
      return anyOf (.matchAll :: core :: rated ++
        if deletedIncluded then [] else [Baseline.visible]) true) := rfl
  have joined : ∀ core rated, ∃ q, (return anyOf (.matchAll :: core :: rated ++
      if deletedIncluded then [] else [Baseline.visible]) true : Except Error Query) = .ok q :=
    fun core rated => ⟨_, rfl⟩
  rw [search, exists_ok_bind_iff]
  simp only [exists_ok_bind_iff, joined, and_true, exists_ok_mapM_iff, exists_and_right,
    exists_dataCore_iff, Ranking.Rates]
  refine and_congr_right fun _ => forall₂_congr fun dimension member => ?_
  exact exists_levels_iff (free dimension member)

structure Assembly.Buildable (a : Assembly) : Prop where
  unbuilt : a.built = false
  closed : a.groups = []
  single : a.roots.length ≤ 1

def Assembly.search (a : Assembly) : Query :=
  a.roots.headD .matchAll

theorem Assembly.exists_build_iff {a : Assembly} {settings : Settings} {count : Bool}
    (ready : a.Buildable) :
    (∃ compiled, (a.build settings count).1 = .ok compiled) ↔
      ∃ q, Baseline.query count settings.deletedIncluded settings.countHonorsDeleted
        settings.ranking = .ok q := by
  obtain ⟨unbuilt, closed, single⟩ := ready
  have one : ¬ 1 < a.roots.length := by omega
  unfold build
  simp only [unbuilt, closed, one, map_eq_ok_iff, Bool.false_eq_true, ne_eq, not_true, if_false]
  rw [exists_comm]
  simp

/-- The baseline filters by visibility and by nothing else, whatever the rankings say: a count
    shows the visible records among those that the assembled query matches, a search all of them. -/
theorem baseline_filters_by_visibility_alone (settings : Settings) (a : Assembly)
    (ready : a.Buildable) :
    (∃ counted, (a.build settings true).1 = .ok counted ∧
      ∀ (Document : Type) (decides : Condition → Document → Prop) (d : Document),
        counted.query.Matches decides d ↔ a.search.Matches decides d ∧
          (Visible decides d ∨
            settings.deletedIncluded = true ∧ settings.countHonorsDeleted = true)) ∧
    ((∃ found, (a.build settings false).1 = .ok found) ↔ settings.ranking.Rates) ∧
    ∀ found, (a.build settings false).1 = .ok found →
      ∀ (Document : Type) (decides : Condition → Document → Prop) (d : Document),
        (found.query.Matches decides d → a.search.Matches decides d) ∧
        (a.search.Matches decides d → Visible decides d → found.query.Matches decides d) ∧
        (settings.deletedIncluded = true →
          (found.query.Matches decides d ↔ a.search.Matches decides d)) := by
  refine ⟨?_, ?_, ?_⟩
  · obtain ⟨counted, built⟩ := (Assembly.exists_build_iff ready).mpr
      (exists_count_baseline settings.deletedIncluded settings.countHonorsDeleted settings.ranking)
    refine ⟨counted, built, fun Document decides d => ?_⟩
    rw [matches_of_build built, visible_iff_not_deleted]
    refine and_congr_right fun _ => ?_
    by_cases shown : settings.deletedIncluded = true ∧ settings.countHonorsDeleted = true
    · simp [shown]
    · simp [shown]
  · exact (Assembly.exists_build_iff ready).trans exists_search_baseline_iff
  · intro found built Document decides d
    have whole : found.query.Matches decides d ↔ a.search.Matches decides d := by
      rw [matches_of_build built]
      simp [Assembly.search]
    exact ⟨whole.mp, fun searched _ => whole.mpr searched, fun _ => whole⟩

/- Deleted records are included, but not in counts. -/
def ratedSettings : Settings :=
  ⟨⟨[("isGDC", .int 5), ("metadataQuality", .int 2)]⟩, [], true, .standard, [], false⟩

/-- A deleted record with the title asked for is found, but not counted. -/
theorem deleted_title_found_not_counted :
    ∃ counted found,
      (Assembly.build ⟨[], [phrase "title" "Ocean"], false⟩ ratedSettings true).1 = .ok counted ∧
      (Assembly.build ⟨[], [phrase "title" "Ocean"], false⟩ ratedSettings false).1 = .ok found ∧
      ¬ counted.query.Matches Listed [.exists "isDeleted", .matchPhrase "title" "Ocean"] ∧
      found.query.Matches Listed [.exists "isDeleted", .matchPhrase "title" "Ocean"] := by
  have ready : Assembly.Buildable ⟨[], [phrase "title" "Ocean"], false⟩ := ⟨rfl, rfl, by decide⟩
  obtain ⟨⟨counted, counts, shown⟩, -, searches⟩ :=
    baseline_filters_by_visibility_alone ratedSettings _ ready
  obtain ⟨found, finds⟩ : ∃ found,
      (Assembly.build ⟨[], [phrase "title" "Ocean"], false⟩ ratedSettings false).1 = .ok found :=
    exists_ok_of_toBool (by decide +kernel)
  have deleted : ¬ (Visible Listed [.exists "isDeleted", .matchPhrase "title" "Ocean"] ∨
      ratedSettings.deletedIncluded = true ∧ ratedSettings.countHonorsDeleted = true) := by
    unfold Visible
    decide
  refine ⟨counted, found, counts, finds, ?_, ?_⟩
  · intro matched
    exact deleted ((shown _ Listed _).mp matched).2
  · exact ((searches found finds _ Listed _).2.2 rfl).mpr (by unfold Assembly.search; decide)

end BondQuery
