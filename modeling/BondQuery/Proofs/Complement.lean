import BondQuery.Proofs.Meaning

/- Negative operators beside the negation of the positive ones. The two agree on a plain property.
   They part where an equality asks for more than its property, which its negation does not, and
   on a subject, whose two fields are negated one by one. -/
namespace BondQuery

section
variable {Document : Type} (decides : Condition → Document → Prop) (d : Document)

/-- The document has the value, yet the settings keep it from the equality: it lies outside the
    data folder of its source, or comes from no selected source of the data core. -/
def KeptOut (settings : Settings) (property : Property) (value : String) : Prop :=
  (property = .sourceId ∧ decides (.matchPhrase "sourceId" value) d ∧
    ∃ folder, settings.dataFolders.lookup value = some folder ∧
      ¬ decides (.matchPhrase "dataFolder" folder) d) ∨
  (property = .isDataCore ∧ decides (.matchPhrase "isGDC" value) d ∧
    settings.dataCoreSources ≠ [] ∧
      ∀ id ∈ settings.dataCoreSources, ¬ decides (.matchPhrase "sourceId" id) d)

/-- The predicate is true of one field of a subject and false of the other. -/
def SubjectSplit (property : Property) (operator : Operator) (value : String) : Prop :=
  property = .subject ∧ ¬ (PropertyHolds decides d .keyword operator value ↔
    PropertyHolds decides d .topicCategory operator value)

end

section
variable {Document : Type} {decides : Condition → Document → Prop} {d : Document}
open Query

theorem holds_of_subject {settings : Settings} {operator : Operator} {value : String} :
    BondHolds decides d settings .subject operator value ↔
      PropertyHolds decides d .keyword operator value ∨
        PropertyHolds decides d .topicCategory operator value := by
  unfold BondHolds
  rw [if_neg fun source => absurd source.1 (by decide),
    if_neg fun core => absurd core.1 (by decide), if_pos rfl]

theorem holds_of_other_operator {settings : Settings} {property : Property} {operator : Operator}
    {value : String} (noSubject : property ≠ .subject) (other : operator ≠ .equal) :
    BondHolds decides d settings property operator value ↔
      PropertyHolds decides d property operator value := by
  unfold BondHolds
  rw [if_neg fun source => other source.2, if_neg fun core => other core.2, if_neg noSubject]

theorem has_value_of_keptOut {settings : Settings} {property : Property} {value : String}
    (out : KeptOut decides d settings property value) :
    PropertyHolds decides d property .equal value := by
  rcases out with ⟨source, found, _⟩ | ⟨core, flagged, _⟩
  · subst source
    exact found
  · subst core
    exact flagged

theorem holds_of_equal {settings : Settings} {property : Property} {value : String}
    (noSubject : property ≠ .subject) :
    BondHolds decides d settings property .equal value ↔
      PropertyHolds decides d property .equal value ∧
        ¬ KeptOut decides d settings property value := by
  unfold BondHolds KeptOut
  by_cases source : property = .sourceId
  · subst source
    have noCore : Property.sourceId ≠ .isDataCore := by decide
    have value_iff : PropertyHolds decides d .sourceId .equal value ↔
        decides (.matchPhrase "sourceId" value) d := Iff.rfl
    simp only [and_self, if_true, value_iff, noCore, false_and, or_false, true_and]
    constructor
    · rintro ⟨found, inside⟩
      exact ⟨found, fun ⟨_, folder, mapped, outside⟩ => outside (inside folder mapped)⟩
    · rintro ⟨found, kept⟩
      refine ⟨found, fun folder mapped => ?_⟩
      exact Classical.byContradiction fun outside => kept ⟨found, folder, mapped, outside⟩
  · by_cases core : property = .isDataCore
    · subst core
      have value_iff : PropertyHolds decides d .isDataCore .equal value ↔
          decides (.matchPhrase "isGDC" value) d := Iff.rfl
      simp only [source, and_self, if_true, false_and, if_false, value_iff, false_or, true_and]
      constructor
      · rintro ⟨flagged, from_source⟩
        refine ⟨flagged, fun ⟨_, selected, strange⟩ => ?_⟩
        obtain ⟨id, member, found⟩ := from_source selected
        exact strange id member found
      · rintro ⟨flagged, kept⟩
        refine ⟨flagged, fun selected => ?_⟩
        refine Classical.byContradiction fun strange => kept ⟨flagged, selected, ?_⟩
        exact fun id member found => strange ⟨id, member, found⟩
    · simp [source, core, noSubject]

/-- The law holds of a document unless the settings keep it out or its subject is split. -/
theorem notEqual_complements_iff {settings : Settings} {property : Property} {value : String} :
    (BondHolds decides d settings property .notEqual value ↔
        ¬ BondHolds decides d settings property .equal value) ↔
      ¬ KeptOut decides d settings property value ∧
        ¬ SubjectSplit decides d property .equal value := by
  by_cases subject : property = .subject
  · subst subject
    have inside : ¬ KeptOut decides d settings .subject value := by
      rintro (⟨source, _⟩ | ⟨core, _⟩)
      · exact absurd source (by decide)
      · exact absurd core (by decide)
    rw [holds_of_subject, holds_of_subject]
    simp only [SubjectSplit, inside, PropertyHolds]
    grind
  · have whole : ¬ SubjectSplit decides d property .equal value := fun split => subject split.1
    have implied : KeptOut decides d settings property value →
        PropertyHolds decides d property .equal value := has_value_of_keptOut
    rw [holds_of_other_operator subject (by decide), holds_of_equal subject]
    change (¬ PropertyHolds decides d property .equal value ↔ _) ↔ _
    grind

theorem notExists_complements_iff {settings : Settings} {property : Property} {value : String} :
    (BondHolds decides d settings property .notExists value ↔
        ¬ BondHolds decides d settings property .exists value) ↔
      ¬ SubjectSplit decides d property .exists value := by
  by_cases subject : property = .subject
  · subst subject
    rw [holds_of_subject, holds_of_subject]
    simp only [SubjectSplit, PropertyHolds]
    grind
  · have whole : ¬ SubjectSplit decides d property .exists value := fun split => subject split.1
    rw [holds_of_other_operator subject (by decide), holds_of_other_operator subject (by decide)]
    simp only [PropertyHolds, whole]
    grind

theorem equal_built_with_notEqual {ranking : Ranking} {property : Property} {value : String}
    {q : Query} (built : Translate.property ranking property .notEqual value = .ok q) :
    ∃ equal, Translate.property ranking property .equal value = .ok equal := by
  obtain ⟨equal, built, _⟩ := map_eq_ok_iff.mp built
  exact ⟨equal, built⟩

theorem equal_lowered_with_notEqual {settings : Settings} {property : Property} {value : String}
    {q : Query} (lowered : lowerBond settings property .notEqual value = .ok q) :
    ∃ equal, lowerBond settings property .equal value = .ok equal := by
  unfold lowerBond at lowered ⊢
  rw [if_neg fun source => absurd source.2 (by decide)] at lowered
  split
  · exact ⟨_, rfl⟩
  · split at lowered
    · rename_i subject
      rw [if_pos subject]
      obtain ⟨keyword, first, lowered⟩ := bind_eq_ok_iff.mp lowered
      obtain ⟨topic, second, _⟩ := bind_eq_ok_iff.mp lowered
      obtain ⟨keyword, first⟩ := equal_built_with_notEqual first
      obtain ⟨topic, second⟩ := equal_built_with_notEqual second
      exact ⟨_, bind_eq_ok_iff.mpr ⟨keyword, first, bind_eq_ok_iff.mpr ⟨topic, second, rfl⟩⟩⟩
    · rename_i noSubject
      rw [if_neg fun core => absurd core.2 (by decide)] at lowered
      rw [if_neg noSubject]
      split
      · exact ⟨_, rfl⟩
      · exact equal_built_with_notEqual lowered

theorem existence_lowered (settings : Settings) (property : Property) (value : String) :
    ∃ present absent, lowerBond settings property .exists value = .ok present ∧
      lowerBond settings property .notExists value = .ok absent := by
  by_cases subject : property = .subject
  · subst subject
    exact ⟨_, _, rfl, rfl⟩
  · refine ⟨hasField property.name, lacksField property.name, ?_, ?_⟩
    · simp [lowerBond, subject, Translate.property]
    · simp [lowerBond, subject, Translate.property]

/-- Where a negative operator lowers at all, so does its positive one, and it selects what the
    negation of that selects, except for documents kept out and split subjects. -/
theorem negative_operators_complement (settings : Settings) (property : Property)
    (value : String) :
    (∀ notEqual, lower settings (.bond property .notEqual value) = .ok notEqual →
      ∃ equal negated, lower settings (.bond property .equal value) = .ok equal ∧
        lower settings (.logical .not [.bond property .equal value]) = .ok negated ∧
        (negated.Matches decides d ↔ ¬ equal.Matches decides d) ∧
        ((notEqual.Matches decides d ↔ ¬ equal.Matches decides d) ↔
          ¬ KeptOut decides d settings property value ∧
            ¬ SubjectSplit decides d property .equal value)) ∧
    ∃ present absent, lower settings (.bond property .exists value) = .ok present ∧
      lower settings (.bond property .notExists value) = .ok absent ∧
      ((absent.Matches decides d ↔ ¬ present.Matches decides d) ↔
        ¬ SubjectSplit decides d property .exists value) := by
  simp only [lower, lowerAll]
  constructor
  · intro notEqual lowered
    obtain ⟨equal, positive⟩ := equal_lowered_with_notEqual lowered
    refine ⟨equal, noneOf [equal], positive, ?_, ?_, ?_⟩
    · rw [positive]
      rfl
    · simp
    · rw [matches_of_bond lowered, matches_of_bond positive]
      exact notEqual_complements_iff
  · obtain ⟨present, absent, first, second⟩ := existence_lowered settings property value
    refine ⟨present, absent, first, second, ?_⟩
    rw [matches_of_bond first, matches_of_bond second]
    exact notExists_complements_iff

/-- A record of a local source that lies outside its folder passes neither `sourceId = src1` nor
    `sourceId != src1`. -/
theorem complement_law_fails_outside_the_folder :
    ¬ ∀ (settings : Settings) (property : Property) (value : String) (equal notEqual : Query)
      (d : List Condition),
      lower settings (.bond property .equal value) = .ok equal →
      lower settings (.bond property .notEqual value) = .ok notEqual →
      (notEqual.Matches Listed d ↔ ¬ equal.Matches Listed d) := by
  intro law
  have outside := law localSettings .sourceId "src1"
    (filter [phrase "sourceId" "src1", phrase "dataFolder" "data-A"])
    (negate (phrase "sourceId" "src1")) [.matchPhrase "sourceId" "src1"] rfl rfl
  revert outside
  decide

/-- The law at work on a title, which no setting touches. -/
theorem titles_negated :
    lower localSettings (.bond ⟨"title", .text⟩ .notEqual "Ocean") =
        .ok (negate (phrase "title" "Ocean")) ∧
      ∃ equal negated, lower localSettings (.bond ⟨"title", .text⟩ .equal "Ocean") = .ok equal ∧
        lower localSettings (.logical .not [.bond ⟨"title", .text⟩ .equal "Ocean"]) = .ok negated ∧
        (negated.Matches Listed [] ↔ ¬ equal.Matches Listed []) ∧
        (((negate (phrase "title" "Ocean")).Matches Listed [] ↔ ¬ equal.Matches Listed []) ↔
          ¬ KeptOut Listed [] localSettings ⟨"title", .text⟩ "Ocean" ∧
            ¬ SubjectSplit Listed [] ⟨"title", .text⟩ .equal "Ocean") :=
  ⟨rfl, (negative_operators_complement localSettings ⟨"title", .text⟩ "Ocean").1 _ rfl⟩

end

end BondQuery
