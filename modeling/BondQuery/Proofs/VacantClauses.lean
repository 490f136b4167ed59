import BondQuery.Proofs.Matching

/- Engines differ about a clause that wants one of no alternatives. Here queries are read under any
   rule for such clauses. The strict rule, under which no document meets one, gives the matches of
   the other modules. -/
namespace BondQuery

/-- Whether a document meets a clause that wants one of no alternatives. A rule may tell a clause
    with nothing else in it from one that restricts documents in other ways. -/
abbrev VacantRule (Document : Type) := (alone : Bool) → Document → Prop

def strict (Document : Type) : VacantRule Document :=
  fun _ _ => False

/-- As many alternatives must match as are wanted, but never more than were sent. -/
def capped (Document : Type) : VacantRule Document :=
  fun _ _ => True

/-- One of the values is such, or there are none and the rule lets the document pass. -/
def OneOf {Document α : Type} (rule : VacantRule Document) (alone : Bool) (d : Document)
    (values : List α) (p : α → Prop) : Prop :=
  (∃ v ∈ values, p v) ∨ values = [] ∧ rule alone d

namespace Query

section
variable {Document : Type} (rule : VacantRule Document) (decides : Condition → Document → Prop)
  (d : Document)

mutual

def MatchesUnder : Query → Prop
  | matchAll => True
  | matchNone => False
  | leaf clause => decides clause.condition d
  | bool filter must mustNot should atLeastOne =>
    AllUnder filter ∧ AllUnder must ∧ NoneUnder mustNot ∧
      (atLeastOne = true → AnyUnder should ∨
        should = [] ∧ rule (filter.isEmpty && must.isEmpty && mustNot.isEmpty) d)

def AllUnder : List Query → Prop
  | [] => True
  | q :: rest => q.MatchesUnder ∧ AllUnder rest

def NoneUnder : List Query → Prop
  | [] => True
  | q :: rest => ¬ q.MatchesUnder ∧ NoneUnder rest

def AnyUnder : List Query → Prop
  | [] => False
  | q :: rest => q.MatchesUnder ∨ AnyUnder rest

end

end

section
variable {Document : Type} {rule : VacantRule Document} {decides : Condition → Document → Prop}
  {d : Document}

theorem allUnder_iff (qs : List Query) :
    AllUnder rule decides d qs ↔ ∀ q ∈ qs, q.MatchesUnder rule decides d := by
  induction qs with
  | nil => simp [AllUnder]
  | cons q rest ih => simp [AllUnder, ih]

theorem noneUnder_iff (qs : List Query) :
    NoneUnder rule decides d qs ↔ ∀ q ∈ qs, ¬ q.MatchesUnder rule decides d := by
  induction qs with
  | nil => simp [NoneUnder]
  | cons q rest ih => simp [NoneUnder, ih]

theorem anyUnder_iff (qs : List Query) :
    AnyUnder rule decides d qs ↔ ∃ q ∈ qs, q.MatchesUnder rule decides d := by
  induction qs with
  | nil => simp [AnyUnder]
  | cons q rest ih => simp [AnyUnder, ih]

@[simp] theorem matchesUnder_bool (filter must mustNot should : List Query) (atLeastOne : Bool) :
    (bool filter must mustNot should atLeastOne).MatchesUnder rule decides d ↔
      (∀ q ∈ filter, q.MatchesUnder rule decides d) ∧
      (∀ q ∈ must, q.MatchesUnder rule decides d) ∧
      (∀ q ∈ mustNot, ¬ q.MatchesUnder rule decides d) ∧
      (atLeastOne = true → OneOf rule (filter.isEmpty && must.isEmpty && mustNot.isEmpty) d should
        fun q => q.MatchesUnder rule decides d) := by
  rw [MatchesUnder, allUnder_iff, allUnder_iff, noneUnder_iff, anyUnder_iff]
  rfl

@[simp] theorem matchesUnder_phrase (field value : String) :
    (phrase field value).MatchesUnder rule decides d ↔ decides (.matchPhrase field value) d :=
  Iff.rfl

@[simp] theorem matchesUnder_hasField (field : String) :
    (hasField field).MatchesUnder rule decides d ↔ decides (.exists field) d := Iff.rfl

@[simp] theorem matchesUnder_filter (qs : List Query) :
    (filter qs).MatchesUnder rule decides d ↔ ∀ q ∈ qs, q.MatchesUnder rule decides d := by
  simp [filter]

theorem matchesUnder_anyOf (qs : List Query) :
    (anyOf qs true).MatchesUnder rule decides d ↔
      OneOf rule true d qs fun q => q.MatchesUnder rule decides d := by
  simp [anyOf]

theorem matchesUnder_filteredAny {filters alternatives : List Query} (restricts : filters ≠ []) :
    (filteredAny filters alternatives).MatchesUnder rule decides d ↔
      (∀ q ∈ filters, q.MatchesUnder rule decides d) ∧
        OneOf rule false d alternatives fun q => q.MatchesUnder rule decides d := by
  have accompanied : filters.isEmpty = false := by simpa using restricts
  simp [filteredAny, accompanied]

theorem matchesUnder_strict (q : Query) :
    q.MatchesUnder (strict Document) decides d ↔ q.Matches decides d := by
  induction q with
  | matchAll | matchNone | leaf => rfl
  | bool filter must mustNot should atLeastOne filters musts mustNots shoulds =>
    rw [matchesUnder_bool, matches_bool]
    have one : (∃ q ∈ should, q.MatchesUnder (strict Document) decides d) ↔
        ∃ q ∈ should, q.Matches decides d :=
      exists_congr fun q => and_congr_right fun member => shoulds q member
    refine and_congr ?_ (and_congr ?_ (and_congr ?_ (imp_congr Iff.rfl ?_)))
    · exact forall₂_congr filters
    · exact forall₂_congr musts
    · exact forall₂_congr fun q member => not_congr (mustNots q member)
    · simp [OneOf, strict, one]

end

end Query

end BondQuery
