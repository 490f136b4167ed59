import BondQuery.Lowering
import BondQuery.Proofs.Matching

/- What a bond expression says of a document, read off the expression and the settings alone, and
   that lowering keeps it. -/
namespace BondQuery

section
variable {Document : Type} (decides : Condition → Document → Prop) (d : Document)

/-- A text that is no value of its property lies on no side of any bound. -/
def Bounded (property : Property) (bound : Bound) (value : String) : Prop :=
  ∃ stored, Translate.rangeValue property value = .ok stored ∧
    decides (.keyed .range property.name (.range · bound stored)) d

def PropertyHolds (property : Property) (operator : Operator) (value : String) : Prop :=
  match operator with
  | .equal => decides (.keyed .matchPhrase property.name (.matchPhrase · value)) d
  | .notEqual => ¬ decides (.keyed .matchPhrase property.name (.matchPhrase · value)) d
  | .like => decides (.keyed .wildcard property.name (.wildcard · value)) d
  | .exists => decides (.exists property.name) d
  | .notExists => ¬ decides (.exists property.name) d
  | .greater => Bounded decides d property .gt value
  | .greaterOrEqual => Bounded decides d property .gte value
  | .less => Bounded decides d property .lt value
  | .lessOrEqual => Bounded decides d property .lte value
  | _ => False

/-- A relation is asked of the extent of the query, so what a record contains lies within it. -/
def SpatialHolds (property : Property) (operator : Operator) (extent : Extent) : Prop :=
  match operator with
  | .bbox | .intersects =>
    decides (.keyed .geoShape property.name (.geoShape · extent .intersects)) d
  | .contained => decides (.keyed .geoShape property.name (.geoShape · extent .contains)) d
  | .contains => decides (.keyed .geoShape property.name (.geoShape · extent .within)) d
  | .disjoint => decides (.keyed .geoShape property.name (.geoShape · extent .disjoint)) d
  | _ => False

/-- Records of a source lie in its data folder if it has one, and the data core may be limited to
    selected sources. A subject is a keyword or a topic category. -/
def BondHolds (settings : Settings) (property : Property) (operator : Operator) (value : String) :
    Prop :=
  if property = .sourceId ∧ operator = .equal then
    decides (.matchPhrase "sourceId" value) d ∧
      ∀ folder, settings.dataFolders.lookup value = some folder →
        decides (.matchPhrase "dataFolder" folder) d
  else if property = .isDataCore ∧ operator = .equal then
    decides (.matchPhrase "isGDC" value) d ∧
      (settings.dataCoreSources ≠ [] →
        ∃ id ∈ settings.dataCoreSources, decides (.matchPhrase "sourceId" id) d)
  else if property = .subject then
    PropertyHolds decides d .keyword operator value ∨
      PropertyHolds decides d .topicCategory operator value
  else PropertyHolds decides d property operator value

mutual

def Expression.Holds (settings : Settings) : Expression → Prop
  | .bond property operator value => BondHolds decides d settings property operator value
  | .spatial property operator extent => SpatialHolds decides d property operator extent
  | .logical .and operands => Expression.HoldsAll settings operands
  | .logical .or operands => Expression.HoldsAny settings operands
  | .logical .not operands => Expression.HoldsNone settings operands

def Expression.HoldsAll (settings : Settings) : List Expression → Prop
  | [] => True
  | e :: rest => e.Holds settings ∧ Expression.HoldsAll settings rest

def Expression.HoldsAny (settings : Settings) : List Expression → Prop
  | [] => False
  | e :: rest => e.Holds settings ∨ Expression.HoldsAny settings rest

def Expression.HoldsNone (settings : Settings) : List Expression → Prop
  | [] => True
  | e :: rest => ¬ e.Holds settings ∧ Expression.HoldsNone settings rest

end

end

section
variable {Document : Type} {decides : Condition → Document → Prop} {d : Document}
open Query

theorem matches_of_bounded {property : Property} {bound : Bound} {value : String} {q : Query}
    (built : (do Query.range property.name bound (← Translate.rangeValue property value)) = .ok q) :
    q.Matches decides d ↔ Bounded decides d property bound value := by
  obtain ⟨stored, read, built⟩ := bind_eq_ok_iff.mp built
  rw [matches_of_range built]
  simp [Bounded, read]

theorem matches_of_property {ranking : Ranking} {property : Property} {operator : Operator}
    {value : String} {q : Query}
    (built : Translate.property ranking property operator value = .ok q) :
    q.Matches decides d ↔ PropertyHolds decides d property operator value := by
  cases operator with
  | equal => exact matches_of_matchPhrase built
  | notEqual =>
    obtain ⟨equal, found, rfl⟩ := map_eq_ok_iff.mp built
    rw [matches_negate, matches_of_matchPhrase found]
    rfl
  | like => exact matches_of_wildcard built
  | «exists» =>
    cases built
    rfl
  | notExists =>
    cases built
    exact matches_lacksField property.name
  | greater => exact matches_of_bounded built
  | greaterOrEqual => exact matches_of_bounded built
  | less => exact matches_of_bounded built
  | lessOrEqual => exact matches_of_bounded built
  | _ => cases built

theorem matches_of_spatial {property : Property} {operator : Operator} {extent : Extent}
    {q : Query} (built : Translate.spatial property operator extent = .ok q) :
    q.Matches decides d ↔ SpatialHolds decides d property operator extent := by
  cases operator with
  | bbox => exact matches_of_geoShape built
  | intersects => exact matches_of_geoShape built
  | contained => exact matches_of_geoShape built
  | contains => exact matches_of_geoShape built
  | disjoint => exact matches_of_geoShape built
  | _ => cases built

theorem matches_of_subject {ranking : Ranking} {operator : Operator} {value : String} {q : Query}
    (built : Translate.subject ranking operator value = .ok q) :
    q.Matches decides d ↔ PropertyHolds decides d .keyword operator value ∨
      PropertyHolds decides d .topicCategory operator value := by
  obtain ⟨keyword, first, built⟩ := bind_eq_ok_iff.mp built
  obtain ⟨topic, second, built⟩ := bind_eq_ok_iff.mp built
  cases built
  simp [matches_of_property first, matches_of_property second]

theorem matches_anyOf_sources (sourceIds : List String) :
    (anyOf (sourceIds.map Template.ofSource) true).Matches decides d ↔
      ∃ id ∈ sourceIds, decides (.matchPhrase "sourceId" id) d := by
  rw [matches_anyOf]
  constructor
  · intro found
    obtain ⟨q, member, matched⟩ := found rfl
    obtain ⟨id, given, rfl⟩ := List.mem_map.mp member
    exact ⟨id, given, matched⟩
  · rintro ⟨id, given, matched⟩ _
    exact ⟨_, List.mem_map_of_mem given, matched⟩

theorem matches_source (sourceId : String) (dataFolders : List (String × String)) :
    (Template.source sourceId dataFolders).Matches decides d ↔
      decides (.matchPhrase "sourceId" sourceId) d ∧
        ∀ folder, dataFolders.lookup sourceId = some folder →
          decides (.matchPhrase "dataFolder" folder) d := by
  unfold Template.source Template.ofSource
  cases dataFolders.lookup sourceId with
  | none => simp [Property.sourceId]
  | some folder => simp [Property.sourceId]

theorem matches_dataCore (flag : String) (sourceIds : List String) :
    (Template.dataCore flag sourceIds).Matches decides d ↔
      decides (.matchPhrase "isGDC" flag) d ∧
        (sourceIds ≠ [] → ∃ id ∈ sourceIds, decides (.matchPhrase "sourceId" id) d) := by
  cases sourceIds with
  | nil => simp [Template.dataCore, Property.isDataCore]
  | cons id rest =>
    have sources : (anyOf ((id :: rest).map Template.ofSource) true).Matches decides d ↔ _ :=
      matches_anyOf_sources (id :: rest)
    simp only [Template.dataCore, matches_filter, List.forall_mem_cons, sources]
    simp [Property.isDataCore, and_comm]

theorem matches_of_bond {settings : Settings} {property : Property} {operator : Operator}
    {value : String} {q : Query} (built : lowerBond settings property operator value = .ok q) :
    q.Matches decides d ↔ BondHolds decides d settings property operator value := by
  unfold lowerBond at built
  unfold BondHolds
  split at built
  · rename_i source
    cases built
    simp only [source, and_self, if_true]
    exact matches_source value settings.dataFolders
  · rename_i noSource
    rw [if_neg noSource]
    split at built
    · rename_i subject
      rw [subject, if_neg fun core => absurd core.1 (by decide), if_pos rfl]
      exact matches_of_subject built
    · rename_i noSubject
      split at built
      · rename_i core
        cases built
        rw [if_pos core]
        exact matches_dataCore value settings.dataCoreSources
      · rename_i noCore
        rw [if_neg noCore, if_neg noSubject]
        exact matches_of_property built

theorem matches_of_lowerAll {settings : Settings} {es : List Expression} {qs : List Query}
    (each : ∀ e ∈ es, ∀ q, lower settings e = .ok q →
      (q.Matches decides d ↔ e.Holds decides d settings))
    (lowered : lowerAll settings es = .ok qs) :
    (MatchesAll decides d qs ↔ Expression.HoldsAll decides d settings es) ∧
    (MatchesAny decides d qs ↔ Expression.HoldsAny decides d settings es) ∧
    (MatchesNone decides d qs ↔ Expression.HoldsNone decides d settings es) := by
  induction es generalizing qs with
  | nil =>
    cases lowered
    simp [MatchesAll, MatchesAny, MatchesNone, Expression.HoldsAll, Expression.HoldsAny,
      Expression.HoldsNone]
  | cons e rest ih =>
    rw [lowerAll] at lowered
    obtain ⟨q, first, lowered⟩ := bind_eq_ok_iff.mp lowered
    obtain ⟨others, later, lowered⟩ := bind_eq_ok_iff.mp lowered
    cases lowered
    have head := each e (by simp) q first
    obtain ⟨all, any, none⟩ := ih (fun e member => each e (List.mem_cons_of_mem _ member)) later
    simp only [MatchesAll, MatchesAny, MatchesNone, Expression.HoldsAll, Expression.HoldsAny,
      Expression.HoldsNone, head, all, any, none, and_self]

theorem matches_clause (connective : Connective) (qs : List Query) :
    (connective.clause qs).Matches decides d ↔
      match connective with
      | .and => MatchesAll decides d qs
      | .or => MatchesAny decides d qs
      | .not => MatchesNone decides d qs := by
  cases connective with
  | and => rw [Connective.clause, matches_allOf, matchesAll_iff]
  | or => simp [Connective.clause, matchesAny_iff]
  | not => rw [Connective.clause, matches_noneOf, matchesNone_iff]

/-- A lowered expression matches exactly the documents of which the expression holds. -/
theorem lowering_keeps_meaning (settings : Settings) (e : Expression) (q : Query)
    (lowered : lower settings e = .ok q) : q.Matches decides d ↔ e.Holds decides d settings := by
  induction e generalizing q with
  | bond property operator value =>
    rw [lower] at lowered
    rw [Expression.Holds]
    exact matches_of_bond lowered
  | spatial property operator extent =>
    rw [lower] at lowered
    rw [Expression.Holds]
    exact matches_of_spatial lowered
  | logical connective operands each =>
    rw [lower] at lowered
    obtain ⟨queries, children, rfl⟩ := map_eq_ok_iff.mp lowered
    obtain ⟨all, any, none⟩ := matches_of_lowerAll each children
    rw [matches_clause]
    cases connective with
    | and => rw [Expression.Holds, all]
    | or => rw [Expression.Holds, any]
    | not => rw [Expression.Holds, none]

/- A fixture that takes every route of a leaf: a source with a folder, a subject, the data core,
   an order and a relation of extents. -/
def localSettings : Settings :=
  ⟨.neutral, [("src1", "data-A")], false, .standard, ["src1", "src2"], false⟩

def everyRoute : Expression :=
  .logical .and [
    .logical .or [.bond .sourceId .equal "src1", .bond .subject .notEqual "ocean"],
    .logical .not [.bond .isDataCore .equal "true"],
    .bond .metadataQuality .greaterOrEqual "3",
    .spatial .boundingBox .contains ⟨.int 0, .int 0, .int 1, .int 1⟩]

def everyRouteQuery : Query :=
  allOf [
    anyOf [
      filter [phrase "sourceId" "src1", phrase "dataFolder" "data-A"],
      anyOf [negate (phrase "keyword" "ocean"), negate (phrase "topicCategory" "ocean")] true] true,
    noneOf [
      filter [anyOf [phrase "sourceId" "src1", phrase "sourceId" "src2"] true,
        phrase "isGDC" "true"]],
    leaf (.range "metadataQuality" .gte (.number (.int 3))),
    leaf (.geoShape "bbox" ⟨.int 0, .int 0, .int 1, .int 1⟩ .within)]

theorem meaning_kept_on_every_route :
    lower localSettings everyRoute = .ok everyRouteQuery ∧
      (everyRouteQuery.Matches Listed [.matchPhrase "keyword" "ocean"] ↔
        everyRoute.Holds Listed [.matchPhrase "keyword" "ocean"] localSettings) :=
  ⟨rfl, lowering_keeps_meaning localSettings everyRoute everyRouteQuery rfl⟩

end

end BondQuery
