import BondQuery.Proofs.Filtering
import BondQuery.Proofs.ScopedTemplates

/- Lists of wanted members, on an engine that wants no more alternatives than it was sent. One member
   of a list has to match as long as the list has any; an empty list restricts nothing. -/
namespace BondQuery
open Query

section
variable {Document : Type} {decides : Condition → Document → Prop} {d : Document}

/-- The rule is a threshold of one, lowered to the number of alternatives. -/
theorem oneOf_capped_iff_countP {α : Type} {alone : Bool} {values : List α} {p : α → Prop}
    [DecidablePred p] :
    OneOf (capped Document) alone d values p ↔ min 1 values.length ≤ values.countP p := by
  rw [oneOf_capped]
  by_cases empty : values = []
  · simp [empty]
  · have filled : 1 ≤ values.length := List.length_pos_iff.mpr empty
    rw [Nat.min_eq_left filled]
    constructor
    · intro found
      have some := found.resolve_left empty
      exact List.countP_pos_iff.mpr (by simpa using some)
    · intro counted
      exact .inr (by simpa using List.countP_pos_iff.mp counted)

theorem hasOneOf_given {rule : VacantRule Document} {name : String} {given : List String} :
    HasOneOf decides d rule (some name) (some given) ↔
      OneOf rule false d given fun v => decides (.keyed .matchPhrase name (.matchPhrase · v)) d := by
  constructor
  · intro has
    exact has name rfl given rfl
  · intro one name' sameName given' sameValues
    cases sameName
    cases sameValues
    exact one

theorem exists_unweighed_iff (field value : String) :
    (∃ q, matchPhrase field value (.int 1) = .ok q) ↔ field ≠ "self" := by
  constructor
  · rintro ⟨q, built⟩ reserved
    subst reserved
    cases built
  · intro free
    exact (exists_matchPhrase_iff free value (.int 1)).mpr ⟨none, rfl⟩

theorem exists_search_iff {databaseId : String} {index : Option String} {name : String}
    {given : List String} :
    (∃ q, Template.search databaseId index (some name) (some given) = .ok q) ↔
      given = [] ∨ name ≠ "self" := by
  have phrases : (∃ q, Template.search databaseId index (some name) (some given) = .ok q) ↔
      ∃ alternatives, given.mapM (fun v => matchPhrase name v (.int 1)) = .ok alternatives := by
    constructor
    · rintro ⟨q, built⟩
      obtain ⟨alternatives, each, _⟩ := bind_eq_ok_iff.mp built
      exact ⟨alternatives, each⟩
    · rintro ⟨alternatives, each⟩
      exact ⟨_, bind_eq_ok_iff.mpr ⟨alternatives, each, rfl⟩⟩
  rw [phrases, exists_ok_mapM_iff]
  simp only [exists_unweighed_iff]
  cases given with
  | nil => simp
  | cons v rest =>
    constructor
    · intro each
      exact .inr (each v List.mem_cons_self)
    · rintro (none | free) u member
      · cases none
      · exact free

end

section
variable {Document : Type} (decides : Condition → Document → Prop) (d : Document)

/-- At least one member of a list has to match, unless the list is empty: then whatever the other
    restrictions let through is found. -/
theorem one_member_wanted_unless_there_are_none (databaseId : String) :
    (∀ folderName layout,
      (Template.entries databaseId folderName layout).MatchesUnder (capped Document) decides d ↔
        InDatabase decides d databaseId ∧ decides (.matchPhrase "folderName" folderName) d ∧
          (layout.known = [] ∨ ∃ index ∈ layout.known, InIndex decides d index)) ∧
    (∀ creator owner visibility layout,
      (Template.views databaseId creator owner visibility layout).MatchesUnder (capped Document)
          decides d ↔
        (InDatabase decides d databaseId ∧ Meets decides d "creator" creator ∧
          Meets decides d "owner" owner ∧ Meets decides d "visibility" visibility) ∧
          (layout.known = [] ∨ ∃ index ∈ layout.known, InIndex decides d index)) ∧
    (∀ index name given,
      ((∃ q, Template.search databaseId index (some name) (some given) = .ok q) ↔
        given = [] ∨ name ≠ "self") ∧
      ∀ q, Template.search databaseId index (some name) (some given) = .ok q →
        (q.MatchesUnder (capped Document) decides d ↔
          (InDatabase decides d databaseId ∧ Meets decides d "_index" index) ∧
            (given = [] ∨
              ∃ v ∈ given, decides (.keyed .matchPhrase name (.matchPhrase · v)) d))) ∧
    (∀ sourceIds layout,
      (Template.dataFolder databaseId sourceIds layout).MatchesUnder (capped Document) decides d ↔
        (InDatabase decides d databaseId ∧ decides (.exists "dataFolder") d ∧
          InIndex decides d layout.metaFolder) ∧
          (sourceIds = [] ∨ ∃ id ∈ sourceIds, decides (.matchPhrase "sourceId" id) d)) := by
  refine ⟨?_, ?_, ?_, ?_⟩
  · intro folderName layout
    rw [matchesUnder_entries, oneOf_capped]
  · intro creator owner visibility layout
    rw [matchesUnder_views, oneOf_capped]
  · intro index name given
    refine ⟨exists_search_iff, ?_⟩
    intro q built
    rw [matchesUnder_of_search built, hasOneOf_given, oneOf_capped]
  · intro sourceIds layout
    rw [matchesUnder_dataFolder, oneOf_capped]

end

/-- A search for one of no titles finds a record of the database that has no title at all. -/
theorem search_for_no_value_finds_the_database :
    ¬ ∀ (databaseId name : String) (given : List String) (q : Query) (d : List Condition),
      Template.search databaseId none (some name) (some given) = .ok q →
      (q.MatchesUnder (capped _) Listed d ↔
        InDatabase Listed d databaseId ∧
          ∃ v ∈ given, Listed (.keyed .matchPhrase name (.matchPhrase · v)) d) := by
  intro law
  have asked : Template.search "db1" none (some "title") (some []) =
      .ok (filteredAny [phrase "databaseId" "db1"] []) := rfl
  have inside : InDatabase Listed [.matchPhrase "databaseId" "db1"] "db1" := by
    unfold InDatabase
    decide
  have found := (matchesUnder_of_search asked).mpr
    ⟨⟨inside, meets_none _⟩, hasOneOf_nil_capped⟩
  obtain ⟨_, v, member, _⟩ := (law _ _ _ _ _ asked).mp found
  cases member

theorem keyword_search_needs_a_keyword :
    Template.search "db1" none (some "keyword") (some ["sea", "lake"]) =
        .ok (filteredAny [phrase "databaseId" "db1"] [phrase "keyword" "sea", phrase "keyword" "lake"]) ∧
      ¬ (filteredAny [phrase "databaseId" "db1"]
        [phrase "keyword" "sea", phrase "keyword" "lake"]).MatchesUnder (capped _) Listed
          [.matchPhrase "databaseId" "db1", .matchPhrase "keyword" "ice"] := by
  have asked : Template.search "db1" none (some "keyword") (some ["sea", "lake"]) =
      .ok (filteredAny [phrase "databaseId" "db1"]
        [phrase "keyword" "sea", phrase "keyword" "lake"]) := rfl
  obtain ⟨_, _, search, _⟩ := one_member_wanted_unless_there_are_none Listed
    [.matchPhrase "databaseId" "db1", .matchPhrase "keyword" "ice"] "db1"
  refine ⟨asked, fun found => ?_⟩
  obtain ⟨_, none | one⟩ := ((search none "keyword" ["sea", "lake"]).2 _ asked).mp found
  · cases none
  · revert one
    decide

end BondQuery
