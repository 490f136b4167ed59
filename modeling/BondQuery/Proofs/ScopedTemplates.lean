import BondQuery.Proofs.VacantClauses
import BondQuery.Template

/- Templates for the records of one database. Each restriction is a filter, so it holds of whatever
   is found, under any rule for clauses that want one of no alternatives, and one more finds no more.
   An engine that wants no more alternatives than it was sent ignores an empty list. -/
namespace BondQuery
open Query

section
variable {Document : Type} (decides : Condition → Document → Prop) (d : Document)

def InDatabase (databaseId : String) : Prop :=
  decides (.matchPhrase "databaseId" databaseId) d

def InIndex (index : String) : Prop :=
  decides (.matchPhrase "_index" index) d

def Meets (field : String) (value : Option String) : Prop :=
  ∀ given, value = some given → decides (.matchPhrase field given) d

/-- The field has one of the values, if both are given. -/
def HasOneOf (rule : VacantRule Document) (field : Option String) (values : Option (List String)) :
    Prop :=
  ∀ name, field = some name → ∀ given, values = some given →
    OneOf rule false d given fun v => decides (.keyed .matchPhrase name (.matchPhrase · v)) d

end

section
variable {Document : Type} {rule : VacantRule Document} {decides : Condition → Document → Prop}
  {d : Document}

/- One of a list. -/

theorem oneOf_map {α β : Type} {alone : Bool} {xs : List α} {f : α → β} {p : β → Prop} :
    OneOf rule alone d (xs.map f) p ↔ OneOf rule alone d xs fun x => p (f x) := by
  unfold OneOf
  rw [List.map_eq_nil_iff]
  refine or_congr ?_ Iff.rfl
  constructor
  · rintro ⟨y, member, matched⟩
    obtain ⟨x, given, rfl⟩ := List.mem_map.mp member
    exact ⟨x, given, matched⟩
  · rintro ⟨x, given, matched⟩
    exact ⟨f x, List.mem_map_of_mem given, matched⟩

theorem oneOf_of_mapM {α β : Type} {alone : Bool} {xs : List α} {ys : List β}
    {step : α → Except Error β} {p : α → Prop} {q : β → Prop}
    (same : ∀ x y, step x = .ok y → (q y ↔ p x)) (built : xs.mapM step = .ok ys) :
    OneOf rule alone d ys q ↔ OneOf rule alone d xs p := by
  unfold OneOf
  rw [mapM_eq_nil_iff built]
  refine or_congr ?_ Iff.rfl
  constructor
  · rintro ⟨y, member, matched⟩
    obtain ⟨x, given, answered⟩ := (mem_of_mapM_iff built y).mp member
    exact ⟨x, given, (same x y answered).mp matched⟩
  · rintro ⟨x, given, matched⟩
    obtain ⟨y, answered⟩ := exists_ok_mapM_iff.mp ⟨ys, built⟩ x given
    exact ⟨y, (mem_of_mapM_iff built y).mpr ⟨x, given, answered⟩, (same x y answered).mpr matched⟩

theorem oneOf_capped {α : Type} {alone : Bool} {values : List α} {p : α → Prop} :
    OneOf (capped Document) alone d values p ↔ values = [] ∨ ∃ v ∈ values, p v := by
  simp [OneOf, capped, or_comm]

/- What each template finds. -/

theorem matchesUnder_of_matchPhrase {field value : String} {weight : Number} {q : Query}
    (built : matchPhrase field value weight = .ok q) :
    q.MatchesUnder rule decides d ↔
      decides (.keyed .matchPhrase field (.matchPhrase · value)) d := by
  have usual : q.Matches decides d ↔ _ := matches_of_matchPhrase built
  rw [← usual]
  obtain ⟨boost, _, built⟩ := bind_eq_ok_iff.mp built
  obtain ⟨key, _, built⟩ := bind_eq_ok_iff.mp built
  -- a leaf asks the same under every rule
  cases key with
  | field name =>
    cases built
    rfl
  | absent =>
    cases built
    rfl

theorem all_optional {field : String} {value : Option String} :
    (∀ q ∈ Template.optional field value, q.MatchesUnder rule decides d) ↔
      Meets decides d field value := by
  cases value with
  | none => simp [Template.optional, Meets]
  | some given => simp [Template.optional, Meets]

theorem oneOf_knownIndexes (layout : Layout) :
    (OneOf rule false d (Template.inKnownIndexes layout) fun q => q.MatchesUnder rule decides d) ↔
      OneOf rule false d layout.known (InIndex decides d) := by
  unfold Template.inKnownIndexes
  rw [oneOf_map]
  rfl

theorem matchesUnder_entries (databaseId folderName : String) (layout : Layout) :
    (Template.entries databaseId folderName layout).MatchesUnder rule decides d ↔
      InDatabase decides d databaseId ∧ decides (.matchPhrase "folderName" folderName) d ∧
        OneOf rule false d layout.known (InIndex decides d) := by
  unfold Template.entries
  rw [matchesUnder_filteredAny (by simp), oneOf_knownIndexes]
  simp [Template.inDatabase, InDatabase, and_assoc]

theorem matchesUnder_registry (databaseId : String) (layout : Layout) :
    (Template.registry databaseId layout).MatchesUnder rule decides d ↔
      InDatabase decides d databaseId ∧ InIndex decides d layout.folderRegistry := by
  simp [Template.registry, Template.inDatabase, Template.inIndex, InDatabase, InIndex]

theorem matchesUnder_views (databaseId : String) (creator owner visibility : Option String)
    (layout : Layout) :
    (Template.views databaseId creator owner visibility layout).MatchesUnder rule decides d ↔
      (InDatabase decides d databaseId ∧ Meets decides d "creator" creator ∧
        Meets decides d "owner" owner ∧ Meets decides d "visibility" visibility) ∧
        OneOf rule false d layout.known (InIndex decides d) := by
  unfold Template.views
  rw [matchesUnder_filteredAny (by simp), oneOf_knownIndexes]
  simp only [List.forall_mem_cons, List.forall_mem_append, all_optional]
  simp [Template.inDatabase, InDatabase, and_assoc]

theorem matchesUnder_of_search {databaseId : String} {index field : Option String}
    {values : Option (List String)} {q : Query}
    (built : Template.search databaseId index field values = .ok q) :
    q.MatchesUnder rule decides d ↔
      (InDatabase decides d databaseId ∧ Meets decides d "_index" index) ∧
        HasOneOf decides d rule field values := by
  have filters : (∀ q ∈ Template.inDatabase databaseId :: index.toList.map Template.inIndex,
      q.MatchesUnder rule decides d) ↔
        InDatabase decides d databaseId ∧ Meets decides d "_index" index := by
    rw [List.forall_mem_cons]
    exact and_congr Iff.rfl all_optional
  cases field with
  | none =>
    cases built
    rw [matchesUnder_filter, filters]
    simp [HasOneOf]
  | some name =>
    cases values with
    | none => cases built
    | some given =>
      obtain ⟨alternatives, phrases, built⟩ := bind_eq_ok_iff.mp built
      cases built
      rw [matchesUnder_filteredAny (by simp), filters,
        oneOf_of_mapM (fun v q => matchesUnder_of_matchPhrase) phrases]
      simp [HasOneOf]

theorem matchesUnder_dataFolder (databaseId : String) (sourceIds : List String) (layout : Layout) :
    (Template.dataFolder databaseId sourceIds layout).MatchesUnder rule decides d ↔
      (InDatabase decides d databaseId ∧ decides (.exists "dataFolder") d ∧
        InIndex decides d layout.metaFolder) ∧
        OneOf rule true d sourceIds fun id => decides (.matchPhrase "sourceId" id) d := by
  unfold Template.dataFolder
  rw [matchesUnder_filter]
  simp only [List.forall_mem_cons, matchesUnder_anyOf, oneOf_map]
  simp [Template.inDatabase, Template.inIndex, Template.ofSource, InDatabase, InIndex,
    Property.sourceId, and_assoc]

theorem hasOneOf_nil_capped {field : Option String} :
    HasOneOf decides d (capped Document) field (some []) := by
  intro name _ given same
  cases same
  exact .inr ⟨rfl, trivial⟩

/- More restrictions. -/

def Narrows (more less : Option String) : Prop :=
  less = none ∨ more = less

theorem meets_none (field : String) : Meets decides d field none := by
  intro given restricts
  cases restricts

theorem Meets.widen {field : String} {more less : Option String} (meets : Meets decides d field more)
    (narrows : Narrows more less) : Meets decides d field less := by
  intro given restricts
  rcases narrows with unrestricted | same
  · rw [unrestricted] at restricts
    cases restricts
  · exact meets given (same.trans restricts)

theorem views_widen {databaseId : String} {creator creator' owner owner' visibility visibility' :
    Option String} {layout : Layout} (creators : Narrows creator creator')
    (owners : Narrows owner owner') (visibilities : Narrows visibility visibility')
    (found : (Template.views databaseId creator owner visibility layout).MatchesUnder rule decides d) :
    (Template.views databaseId creator' owner' visibility' layout).MatchesUnder rule decides d := by
  obtain ⟨⟨inside, byCreator, byOwner, byVisibility⟩, known⟩ := (matchesUnder_views ..).mp found
  apply (matchesUnder_views ..).mpr
  exact ⟨⟨inside, byCreator.widen creators, byOwner.widen owners, byVisibility.widen visibilities⟩,
    known⟩

theorem exists_search_of_index {databaseId : String} {index field : Option String}
    {values : Option (List String)} {q : Query}
    (built : Template.search databaseId index field values = .ok q) (index' : Option String) :
    ∃ wider, Template.search databaseId index' field values = .ok wider := by
  cases field with
  | none => exact ⟨_, rfl⟩
  | some name =>
    cases values with
    | none => cases built
    | some given =>
      obtain ⟨alternatives, phrases, _⟩ := bind_eq_ok_iff.mp built
      exact ⟨_, bind_eq_ok_iff.mpr ⟨alternatives, phrases, rfl⟩⟩

theorem search_widens {databaseId : String} {index index' field : Option String}
    {values : Option (List String)} {q wider : Query} (indexes : Narrows index index')
    (built : Template.search databaseId index field values = .ok q)
    (widened : Template.search databaseId index' field values = .ok wider)
    (found : q.MatchesUnder rule decides d) : wider.MatchesUnder rule decides d := by
  obtain ⟨⟨inside, byIndex⟩, byField⟩ := (matchesUnder_of_search built).mp found
  apply (matchesUnder_of_search widened).mpr
  exact ⟨⟨inside, byIndex.widen indexes⟩, byField⟩

end

section
variable {Document : Type} (rule : VacantRule Document) (decides : Condition → Document → Prop)
  (d : Document)

/-- Whatever a template finds lies in its database and meets each restriction that was given, and
    with a restriction more it finds nothing new. -/
theorem scoped_templates_never_leave_their_database (databaseId : String) :
    (∀ folderName layout,
      (Template.entries databaseId folderName layout).MatchesUnder rule decides d →
        InDatabase decides d databaseId ∧ decides (.matchPhrase "folderName" folderName) d) ∧
    (∀ layout, (Template.registry databaseId layout).MatchesUnder rule decides d →
        InDatabase decides d databaseId ∧ InIndex decides d layout.folderRegistry) ∧
    (∀ creator owner visibility layout,
      (Template.views databaseId creator owner visibility layout).MatchesUnder rule decides d →
        InDatabase decides d databaseId ∧ Meets decides d "creator" creator ∧
          Meets decides d "owner" owner ∧ Meets decides d "visibility" visibility) ∧
    (∀ index field values q, Template.search databaseId index field values = .ok q →
      q.MatchesUnder rule decides d →
        InDatabase decides d databaseId ∧ Meets decides d "_index" index) ∧
    (∀ sourceIds layout,
      (Template.dataFolder databaseId sourceIds layout).MatchesUnder rule decides d →
        InDatabase decides d databaseId ∧ InIndex decides d layout.metaFolder) ∧
    (∀ creator creator' owner owner' visibility visibility' layout, Narrows creator creator' →
      Narrows owner owner' → Narrows visibility visibility' →
      (Template.views databaseId creator owner visibility layout).MatchesUnder rule decides d →
      (Template.views databaseId creator' owner' visibility' layout).MatchesUnder rule decides d) ∧
    (∀ index index' field values q, Narrows index index' →
      Template.search databaseId index field values = .ok q →
      ∃ wider, Template.search databaseId index' field values = .ok wider ∧
        (q.MatchesUnder rule decides d → wider.MatchesUnder rule decides d)) := by
  refine ⟨?_, ?_, ?_, ?_, ?_, ?_, ?_⟩
  · intro folderName layout found
    obtain ⟨inside, byFolder, _⟩ := (matchesUnder_entries ..).mp found
    exact ⟨inside, byFolder⟩
  · intro layout found
    exact (matchesUnder_registry ..).mp found
  · intro creator owner visibility layout found
    exact ((matchesUnder_views ..).mp found).1
  · intro index field values q built found
    exact ((matchesUnder_of_search built).mp found).1
  · intro sourceIds layout found
    obtain ⟨⟨inside, _, byIndex⟩, _⟩ := (matchesUnder_dataFolder ..).mp found
    exact ⟨inside, byIndex⟩
  · intro creator creator' owner owner' visibility visibility' layout creators owners visibilities
    exact views_widen creators owners visibilities
  · intro index index' field values q indexes built
    obtain ⟨wider, widened⟩ := exists_search_of_index built index'
    exact ⟨wider, widened, search_widens indexes built widened⟩

end

/- One index for all roles, and a record that every template finds there. -/
def sharedLayout : Layout :=
  ⟨"shared", "shared", "shared", "shared", ["shared"]⟩

def sharedRecord : List Condition :=
  [.matchPhrase "databaseId" "db1", .matchPhrase "_index" "shared", .matchPhrase "folderName" "maps",
    .matchPhrase "creator" "ann", .exists "dataFolder", .matchPhrase "sourceId" "src1"]

theorem inDatabase_sharedRecord : InDatabase Listed sharedRecord "db1" := by
  unfold InDatabase
  decide

theorem inIndex_sharedRecord : InIndex Listed sharedRecord "shared" := by
  unfold InIndex
  decide

theorem meets_sharedRecord {field value : String}
    (listed : Listed (.matchPhrase field value) sharedRecord) :
    Meets Listed sharedRecord field (some value) := by
  intro given same
  cases same
  exact listed

theorem shared_record_found_in_its_database :
    InDatabase Listed sharedRecord "db1" ∧ Listed (.matchPhrase "folderName" "maps") sharedRecord ∧
    InIndex Listed sharedRecord "shared" ∧ Meets Listed sharedRecord "creator" (some "ann") ∧
    Meets Listed sharedRecord "_index" (some "shared") ∧
    (Template.views "db1" none none none sharedLayout).MatchesUnder (capped _) Listed sharedRecord ∧
    ∃ wider, Template.search "db1" none (some "title") (some []) = .ok wider ∧
      wider.MatchesUnder (capped _) Listed sharedRecord := by
  obtain ⟨entries, registry, views, search, dataFolder, viewsWiden, searchWidens⟩ :=
    scoped_templates_never_leave_their_database (capped _) Listed sharedRecord "db1"
  have known : OneOf (capped _) false sharedRecord sharedLayout.known (InIndex Listed sharedRecord) :=
    .inl ⟨"shared", by decide, inIndex_sharedRecord⟩
  obtain ⟨inside, inFolder⟩ := entries "maps" sharedLayout ((matchesUnder_entries ..).mpr
    ⟨inDatabase_sharedRecord, by decide, known⟩)
  obtain ⟨_, inRegistry⟩ := registry sharedLayout ((matchesUnder_registry ..).mpr
    ⟨inDatabase_sharedRecord, inIndex_sharedRecord⟩)
  have seen : (Template.views "db1" (some "ann") none none sharedLayout).MatchesUnder (capped _) Listed
      sharedRecord := (matchesUnder_views ..).mpr
    ⟨⟨inDatabase_sharedRecord, meets_sharedRecord (by decide), meets_none _, meets_none _⟩, known⟩
  obtain ⟨_, byCreator, _⟩ := views _ none none _ seen
  have unrestricted := viewsWiden _ none _ none _ none _ (.inl rfl) (.inl rfl) (.inl rfl) seen
  have asked : Template.search "db1" (some "shared") (some "title") (some []) =
      .ok (filteredAny [phrase "databaseId" "db1", phrase "_index" "shared"] []) := rfl
  have listed := (matchesUnder_of_search asked).mpr
    ⟨⟨inDatabase_sharedRecord, meets_sharedRecord (by decide)⟩, hasOneOf_nil_capped⟩
  obtain ⟨_, byIndex⟩ := search _ _ _ _ asked listed
  obtain ⟨_, inMeta⟩ := dataFolder ["src1"] sharedLayout ((matchesUnder_dataFolder ..).mpr
    ⟨⟨inDatabase_sharedRecord, by decide, inIndex_sharedRecord⟩, .inl ⟨"src1", by decide, by decide⟩⟩)
  obtain ⟨wider, widened, widens⟩ := searchWidens _ none _ _ _ (.inl rfl) asked
  exact ⟨inside, inFolder, inRegistry, byCreator, byIndex, unrestricted, wider, widened, widens listed⟩

end BondQuery
