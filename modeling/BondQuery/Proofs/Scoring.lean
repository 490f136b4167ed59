import Mathlib.Algebra.BigOperators.Group.List.Basic
import Mathlib.Tactic.Linarith
import Mathlib.Tactic.NormNum
import Mathlib.Tactic.Push
import Mathlib.Tactic.Ring
import BondQuery.Proofs.Filtering
import BondQuery.Proofs.WholeBoosts

/- Scores of documents. A clause adds its boost, and a boolean clause what its scoring clauses add.
   The levels of a quality dimension are phrases with boosts in proportion, so a record scores in
   proportion to its level. -/
namespace BondQuery

namespace Query

section
variable {Document : Type} (decides : Condition → Document → Prop) [∀ c d, Decidable (decides c d)]
  (d : Document)

mutual

/-- A document that does not match scores nothing; filters and refusals never score. -/
def score : Query → ℚ
  | matchAll => 1
  | matchNone => 0
  | leaf clause => if decides clause.condition d then boostValue clause.boost? else 0
  | bool filter must mustNot should atLeastOne =>
    if (bool filter must mustNot should atLeastOne).Matches decides d then
      scoreOfAll must + scoreOfAll should
    else 0

def scoreOfAll : List Query → ℚ
  | [] => 0
  | q :: rest => q.score + scoreOfAll rest

end

end

section
variable {Document : Type} {decides : Condition → Document → Prop} [∀ c d, Decidable (decides c d)]
  {d : Document}

theorem scoreOfAll_eq_sum (qs : List Query) :
    scoreOfAll decides d qs = (qs.map (score decides d)).sum := by
  induction qs with
  | nil => rfl
  | cons q rest ih => rw [scoreOfAll, ih, List.map_cons, List.sum_cons]

theorem score_of_not_matches {q : Query} (unmatched : ¬ q.Matches decides d) :
    q.score decides d = 0 := by
  cases q with
  | matchAll => exact absurd trivial unmatched
  | matchNone => rfl
  | leaf clause => exact if_neg unmatched
  | bool filter must mustNot should atLeastOne => exact if_neg unmatched

@[simp] theorem score_matchAll : matchAll.score decides d = 1 := rfl

@[simp] theorem score_leaf (clause : Leaf) : (leaf clause).score decides d =
    if decides clause.condition d then boostValue clause.boost? else 0 := rfl

@[simp] theorem score_phrase (field value : String) : (phrase field value).score decides d =
    if decides (.matchPhrase field value) d then 1 else 0 := rfl

@[simp] theorem score_noneOf (qs : List Query) : (noneOf qs).score decides d = 0 := by
  simp [noneOf, score, scoreOfAll]

@[simp] theorem score_lacksField (field : String) : (lacksField field).score decides d = 0 :=
  score_noneOf _

@[simp] theorem score_anyOf (qs : List Query) (atLeastOne : Bool) :
    (anyOf qs atLeastOne).score decides d = (qs.map (score decides d)).sum := by
  by_cases matched : (anyOf qs atLeastOne).Matches decides d
  · calc (anyOf qs atLeastOne).score decides d
        = scoreOfAll decides d [] + scoreOfAll decides d qs := if_pos matched
      _ = (qs.map (score decides d)).sum := by rw [scoreOfAll, zero_add, scoreOfAll_eq_sum]
  · have none : ∀ q ∈ qs, q.score decides d = 0 := by
      rw [matches_anyOf] at matched
      push Not at matched
      intro q member
      exact score_of_not_matches (matched.2 q member)
    rw [score_of_not_matches matched, List.sum_eq_zero]
    simpa using none

theorem score_of_matchPhrase {field value : String} {w : Nat} {q : Query}
    (plain : FieldKey.ofName field = .ok (.field field)) (least : 1 ≤ w) (small : w ≤ 2 ^ 53)
    (built : matchPhrase field value (.int w) = .ok q) :
    q.score decides d = if decides (.matchPhrase field value) d then (w : ℚ) else 0 := by
  obtain ⟨boost, given, whole⟩ := boostOf_whole least small
  unfold matchPhrase keyed at built
  rw [given, plain] at built
  cases built
  rw [score_leaf]
  exact if_congr Iff.rfl whole rfl

end

end Query

def Ranking.Whole (ranking : Ranking) : Prop :=
  ∀ entry ∈ ranking.weights, ∃ w : Nat, entry.2 = .int w ∧ 1 ≤ w ∧ 5 * w ≤ 2 ^ 53

/-- What a record says about its quality: a level for each dimension, where zero is none, and the
    data-core flag. -/
structure Quality where
  level : String → Fin 6
  flag : Option Bool

def writtenLevels : List (Fin 6 × String) :=
  [(1, "1"), (2, "2"), (3, "3"), (4, "4"), (5, "5")]

def flagPoints (weight : ℚ) : Option Bool → ℚ
  | none => 0
  | some false => 1
  | some true => weight

def Ranking.points (ranking : Ranking) (quality : Quality) : ℚ :=
  (ranking.weight "metadataQuality").value * quality.level "metadataQuality" +
    (ranking.weight "essentialVarsQuality").value * quality.level "essentialVarsQuality" +
    (ranking.weight "accessQuality").value * quality.level "accessQuality" +
    flagPoints (ranking.weight "isGDC").value quality.flag

section
variable {Document : Type} (decides : Condition → Document → Prop)

/-- The record has the phrases of its quality and of no other. -/
structure Shows (d : Document) (quality : Quality) : Prop where
  level : ∀ dimension ∈ ratedDimensions, ∀ entry ∈ writtenLevels,
    (decides (.matchPhrase dimension entry.2) d ↔ quality.level dimension = entry.1)
  unflagged : decides (.matchPhrase "isGDC" "false") d ↔ quality.flag = some false
  flagged : decides (.matchPhrase "isGDC" "true") d ↔ quality.flag = some true

/-- Both records have a delete marker or none has, and it says false in both or in none. -/
def SameMarker (d₁ d₂ : Document) : Prop :=
  (decides (.exists "isDeleted") d₁ ↔ decides (.exists "isDeleted") d₂) ∧
    (decides (.matchPhrase "isDeleted" "false") d₁ ↔ decides (.matchPhrase "isDeleted" "false") d₂)

end

theorem Ranking.Whole.weight {ranking : Ranking} (whole : ranking.Whole) (name : String) :
    ∃ w : Nat, ranking.weight name = .int w ∧ 1 ≤ w ∧ 5 * w ≤ 2 ^ 53 := by
  unfold Ranking.weight
  cases found : ranking.weights.lookup name with
  | none => exact ⟨1, rfl, le_refl 1, by decide⟩
  | some weight =>
    obtain ⟨before, after, split, _⟩ := List.lookup_eq_some_iff.mp found
    exact whole (name, weight) (by simp [split])

theorem Ranking.levelWeight_of_whole {ranking : Ranking} {dimension : String} {w : Nat}
    (weighed : ranking.weight dimension = .int w) (level : Nat) :
    ranking.levelWeight dimension level = .int (w * level : Nat) := by
  rw [levelWeight, weighed, Number.scale, Nat.cast_mul]

theorem mul_level_le {w level : Nat} (small : 5 * w ≤ 2 ^ 53) (last : level ≤ 5) :
    w * level ≤ 2 ^ 53 :=
  calc w * level ≤ w * 5 := Nat.mul_le_mul_left w last
    _ = 5 * w := Nat.mul_comm ..
    _ ≤ 2 ^ 53 := small

theorem le_of_mul_level_le {w : Nat} (small : 5 * w ≤ 2 ^ 53) : w ≤ 2 ^ 53 :=
  le_trans (Nat.le_mul_of_pos_left w (by decide)) small

theorem Ranking.Whole.rates {ranking : Ranking} (whole : ranking.Whole) : ranking.Rates := by
  constructor
  · obtain ⟨w, weighed, least, small⟩ := whole.weight "isGDC"
    obtain ⟨boost, given, _⟩ := boostOf_whole least (le_of_mul_level_le small)
    rw [weighed]
    exact ⟨boost, given⟩
  · intro dimension _ level first last
    obtain ⟨w, weighed, least, small⟩ := whole.weight dimension
    obtain ⟨boost, given, _⟩ := boostOf_whole (Nat.mul_pos least first) (mul_level_le small last)
    rw [levelWeight_of_whole weighed]
    exact ⟨boost, given⟩

section
variable {Document : Type} {decides : Condition → Document → Prop} [∀ c d, Decidable (decides c d)]
  {d d₁ d₂ : Document} {quality quality₁ quality₂ : Quality} {ranking : Ranking}
open Query

theorem sum_at_level (w : ℚ) (level : Fin 6) :
    ((List.range' 1 5).map fun n => if n = (level : Nat) then w * n else 0).sum = w * level := by
  rw [List.sum_map_ite_eq, List.count_range_1']
  by_cases shown : 1 ≤ (level : Nat)
  · have within : 1 ≤ (level : Nat) ∧ (level : Nat) < 1 + 5 := ⟨shown, by omega⟩
    simp [within]
  · have absent : (level : Nat) = 0 := by omega
    simp [absent]

theorem score_of_levels {dimension : String} {q : Query} (whole : ranking.Whole)
    (shows : Shows decides d quality) (member : dimension ∈ ratedDimensions)
    (built : Baseline.levels ranking dimension = .ok q) :
    q.score decides d = (ranking.weight dimension).value * quality.level dimension := by
  have keys : ∀ dimension ∈ ratedDimensions,
      FieldKey.ofName dimension = .ok (.field dimension) := by decide
  have texts : ∀ n ∈ List.range' 1 5, ∃ entry ∈ writtenLevels,
      (entry.1 : Nat) = n ∧ entry.2 = intText n := by decide
  obtain ⟨w, weighed, least, small⟩ := whole.weight dimension
  obtain ⟨phrases, each, built⟩ := bind_eq_ok_iff.mp built
  cases built
  have scores : phrases.map (score decides d) = (List.range' 1 5).map fun n =>
      if n = (quality.level dimension : Nat) then (w : ℚ) * n else 0 := by
    refine map_eq_of_mapM each fun n within phrase asked => ?_
    obtain ⟨first, below⟩ := List.mem_range'_1.mp within
    have last : n ≤ 5 := Nat.le_of_lt_succ below
    obtain ⟨entry, listed, same, text⟩ := texts n within
    have shown := shows.level dimension member entry listed
    rw [text, Fin.ext_iff, same] at shown
    rw [Ranking.levelWeight_of_whole weighed] at asked
    rw [score_of_matchPhrase (keys dimension member) (Nat.mul_pos least first)
      (mul_level_le small last) asked, Nat.cast_mul]
    exact if_congr (shown.trans eq_comm) rfl rfl
  rw [score_anyOf, scores, sum_at_level, weighed]
  simp [Number.value]

theorem score_of_dataCore {q : Query} (whole : ranking.Whole) (shows : Shows decides d quality)
    (built : Baseline.dataCore ranking = .ok q) :
    q.score decides d = flagPoints (ranking.weight "isGDC").value quality.flag := by
  obtain ⟨w, weighed, least, small⟩ := whole.weight "isGDC"
  obtain ⟨flagged, asked, built⟩ := bind_eq_ok_iff.mp built
  cases built
  have name : Property.isDataCore.name = "isGDC" := rfl
  rw [name, weighed] at asked
  have scored : flagged.score decides d = _ :=
    score_of_matchPhrase (by decide) least (le_of_mul_level_le small) asked
  rw [name, score_anyOf, List.map_cons, List.map_singleton, scored, score_phrase, weighed,
    if_congr shows.unflagged rfl rfl, if_congr shows.flagged rfl rfl]
  cases quality.flag with
  | none => simp [flagPoints]
  | some said => cases said <;> simp [flagPoints, Number.value]

theorem score_of_search {deletedIncluded countHonorsDeleted : Bool} {q : Query}
    (whole : ranking.Whole) (shows : Shows decides d quality)
    (built : Baseline.query false deletedIncluded countHonorsDeleted ranking = .ok q) :
    q.score decides d = 1 + ranking.points quality +
      if deletedIncluded then 0 else Baseline.visible.score decides d := by
  unfold Baseline.query at built
  obtain ⟨core, flagged, built⟩ := bind_eq_ok_iff.mp built
  obtain ⟨rated, each, built⟩ := bind_eq_ok_iff.mp built
  cases built
  have scores : rated.map (score decides d) = ratedDimensions.map fun dimension =>
      (ranking.weight dimension).value * quality.level dimension :=
    map_eq_of_mapM each fun dimension member q levels => score_of_levels whole shows member levels
  rw [score_anyOf, List.map_append, List.map_cons, List.map_cons, scores, List.sum_append,
    List.sum_cons, List.sum_cons, score_matchAll, score_of_dataCore whole shows flagged, Ranking.points]
  cases deletedIncluded with
  | true =>
    simp [ratedDimensions]
    ring
  | false =>
    simp [ratedDimensions]
    ring

theorem score_visible_congr (same : SameMarker decides d₁ d₂) :
    Baseline.visible.score decides d₁ = Baseline.visible.score decides d₂ := by
  obtain ⟨_, unmarked⟩ := same
  unfold Baseline.visible
  simp only [score_anyOf, List.map_cons, List.map_nil, score_lacksField, score_phrase]
  exact congrArg (fun x : ℚ => [0, x].sum) (if_congr unmarked rfl rfl)

theorem score_of_count {deletedIncluded countHonorsDeleted : Bool} {q : Query}
    (same : SameMarker decides d₁ d₂)
    (built : Baseline.query true deletedIncluded countHonorsDeleted ranking = .ok q) :
    q.score decides d₁ = q.score decides d₂ := by
  cases built
  split
  · rfl
  · exact score_visible_congr same

end

section
variable {ranking : Ranking} {quality₁ quality₂ : Quality}

theorem Ranking.points_sub : ranking.points quality₁ - ranking.points quality₂ =
    (ranking.weight "metadataQuality").value *
        (quality₁.level "metadataQuality" - quality₂.level "metadataQuality" : ℚ) +
      (ranking.weight "essentialVarsQuality").value *
        (quality₁.level "essentialVarsQuality" - quality₂.level "essentialVarsQuality" : ℚ) +
      (ranking.weight "accessQuality").value *
        (quality₁.level "accessQuality" - quality₂.level "accessQuality" : ℚ) +
      (flagPoints (ranking.weight "isGDC").value quality₁.flag -
        flagPoints (ranking.weight "isGDC").value quality₂.flag) := by
  unfold points
  ring

theorem Ranking.Whole.points_lt (whole : ranking.Whole) (flags : quality₁.flag = quality₂.flag)
    (atLeast : ∀ dimension ∈ ratedDimensions, quality₁.level dimension ≤ quality₂.level dimension)
    (above : ∃ dimension ∈ ratedDimensions, quality₁.level dimension < quality₂.level dimension) :
    ranking.points quality₁ < ranking.points quality₂ := by
  have positive : ∀ dimension, 0 < (ranking.weight dimension).value := by
    intro dimension
    obtain ⟨w, weighed, least, _⟩ := whole.weight dimension
    rw [weighed, Number.value]
    exact_mod_cast least
  have each : ∀ dimension ∈ ratedDimensions, (ranking.weight dimension).value *
      quality₁.level dimension ≤ (ranking.weight dimension).value * quality₂.level dimension := by
    intro dimension member
    apply mul_le_mul_of_nonneg_left _ (positive dimension).le
    exact_mod_cast atLeast dimension member
  obtain ⟨dimension, member, higher⟩ := above
  have more : (ranking.weight dimension).value * quality₁.level dimension <
      (ranking.weight dimension).value * quality₂.level dimension := by
    apply mul_lt_mul_of_pos_left _ (positive dimension)
    exact_mod_cast higher
  unfold points
  rw [flags]
  simp only [ratedDimensions, List.forall_mem_cons] at each
  obtain ⟨metadata, essential, access, _⟩ := each
  simp only [ratedDimensions, List.mem_cons, List.not_mem_nil, or_false] at member
  rcases member with rfl | rfl | rfl <;> linarith

/-- With whole weights the scores of two records differ by their qualities, level by level and
    weight by weight, so a higher level always scores higher. A count scores them the same. -/
theorem quality_scores_linearly (whole : ranking.Whole) (deletedIncluded countHonorsDeleted : Bool) :
    ∃ found counted,
      Baseline.query false deletedIncluded countHonorsDeleted ranking = .ok found ∧
      Baseline.query true deletedIncluded countHonorsDeleted ranking = .ok counted ∧
      ∀ (Document : Type) (decides : Condition → Document → Prop) [∀ c d, Decidable (decides c d)]
        (d₁ d₂ : Document) (quality₁ quality₂ : Quality), SameMarker decides d₁ d₂ →
        Shows decides d₁ quality₁ → Shows decides d₂ quality₂ →
        found.score decides d₁ - found.score decides d₂ =
          (ranking.weight "metadataQuality").value *
              (quality₁.level "metadataQuality" - quality₂.level "metadataQuality" : ℚ) +
            (ranking.weight "essentialVarsQuality").value *
              (quality₁.level "essentialVarsQuality" - quality₂.level "essentialVarsQuality" : ℚ) +
            (ranking.weight "accessQuality").value *
              (quality₁.level "accessQuality" - quality₂.level "accessQuality" : ℚ) +
            (flagPoints (ranking.weight "isGDC").value quality₁.flag -
              flagPoints (ranking.weight "isGDC").value quality₂.flag) ∧
        (quality₁.flag = quality₂.flag →
          (∀ dimension ∈ ratedDimensions, quality₁.level dimension ≤ quality₂.level dimension) →
          (∃ dimension ∈ ratedDimensions, quality₁.level dimension < quality₂.level dimension) →
          found.score decides d₁ < found.score decides d₂) ∧
        counted.score decides d₁ = counted.score decides d₂ := by
  obtain ⟨found, finds⟩ := exists_search_baseline_iff.mpr whole.rates
  obtain ⟨counted, counts⟩ := exists_count_baseline deletedIncluded countHonorsDeleted ranking
  refine ⟨found, counted, finds, counts, ?_⟩
  intro Document decides _ d₁ d₂ quality₁ quality₂ same shows₁ shows₂
  refine ⟨?_, ?_, score_of_count same counts⟩
  · rw [← Ranking.points_sub, score_of_search whole shows₁ finds, score_of_search whole shows₂ finds,
      score_visible_congr same]
    ring
  · intro flags atLeast above
    have fewer := whole.points_lt flags atLeast above
    rw [score_of_search whole shows₁ finds, score_of_search whole shows₂ finds, score_visible_congr same]
    linarith

end

/- Two dimensions and the flag are weighed, access counts once. The first record is at the highest
   level of metadata, the second has a dimension less and is not of the data core, and the third
   is at the highest level of access besides. -/
def mixedRanking : Ranking :=
  ⟨[("metadataQuality", .int 4), ("essentialVarsQuality", .int 7), ("isGDC", .int 3)]⟩

def qualityOf (metadata essential access : Fin 6) (flag : Bool) : Quality :=
  ⟨fun dimension => if dimension = "metadataQuality" then metadata
    else if dimension = "essentialVarsQuality" then essential else access, some flag⟩

def firstRecord : List Condition := [.matchPhrase "metadataQuality" "5",
  .matchPhrase "essentialVarsQuality" "2", .matchPhrase "accessQuality" "4", .matchPhrase "isGDC" "true"]

def secondRecord : List Condition := [.matchPhrase "metadataQuality" "1",
  .matchPhrase "accessQuality" "5", .matchPhrase "isGDC" "false"]

def thirdRecord : List Condition := [.matchPhrase "metadataQuality" "5",
  .matchPhrase "essentialVarsQuality" "2", .matchPhrase "accessQuality" "5", .matchPhrase "isGDC" "true"]

theorem whole_mixedRanking : mixedRanking.Whole := by
  unfold Ranking.Whole mixedRanking
  simp only [List.forall_mem_cons]
  exact ⟨⟨4, rfl, by decide, by decide⟩, ⟨7, rfl, by decide, by decide⟩,
    ⟨3, rfl, by decide, by decide⟩, by simp⟩

theorem records_apart_by_thirty_one : ∃ found counted,
    Baseline.query false false false mixedRanking = .ok found ∧
    Baseline.query true false false mixedRanking = .ok counted ∧
    found.score Listed firstRecord - found.score Listed secondRecord = 31 ∧
    found.score Listed firstRecord < found.score Listed thirdRecord ∧
    counted.score Listed firstRecord = counted.score Listed secondRecord := by
  obtain ⟨found, counted, finds, counts, law⟩ :=
    quality_scores_linearly whole_mixedRanking false false
  have shows₁ : Shows Listed firstRecord (qualityOf 5 2 4 true) := ⟨by decide, by decide, by decide⟩
  have shows₂ : Shows Listed secondRecord (qualityOf 1 0 5 false) :=
    ⟨by decide, by decide, by decide⟩
  have shows₃ : Shows Listed thirdRecord (qualityOf 5 2 5 true) := ⟨by decide, by decide, by decide⟩
  have same₂ : SameMarker Listed firstRecord secondRecord := by
    unfold SameMarker
    decide
  have same₃ : SameMarker Listed firstRecord thirdRecord := by
    unfold SameMarker
    decide
  obtain ⟨apart, _, together⟩ := law _ Listed _ _ _ _ same₂ shows₁ shows₂
  obtain ⟨_, above, _⟩ := law _ Listed _ _ _ _ same₃ shows₁ shows₃
  refine ⟨found, counted, finds, counts, ?_, above rfl (by decide) (by decide), together⟩
  have metadata : mixedRanking.weight "metadataQuality" = .int 4 := rfl
  have essential : mixedRanking.weight "essentialVarsQuality" = .int 7 := rfl
  have access : mixedRanking.weight "accessQuality" = .int 1 := rfl
  have flag : mixedRanking.weight "isGDC" = .int 3 := rfl
  rw [apart, metadata, essential, access, flag]
  simp [qualityOf, Number.value, flagPoints]
  norm_num

end BondQuery
