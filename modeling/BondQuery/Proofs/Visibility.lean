import BondQuery.Proofs.AssemblySteps
import BondQuery.Proofs.Meaning

/- What the baseline asks of a record. A count hides deleted records. A search has the visibility
   clause as one alternative beside a clause that every record matches, so it hides none. -/
namespace BondQuery

section
variable {Document : Type} (decides : Condition → Document → Prop) (d : Document)

def Deleted : Prop :=
  decides (.exists "isDeleted") d ∧ ¬ decides (.matchPhrase "isDeleted" "false") d

end

section
variable {Document : Type} {decides : Condition → Document → Prop} {d : Document}
open Query

theorem matches_visible : Baseline.visible.Matches decides d ↔ ¬ Deleted decides d := by
  have alternatives : Baseline.visible =
      anyOf [lacksField "isDeleted", phrase "isDeleted" "false"] true := rfl
  rw [alternatives, Deleted, Classical.not_and_iff_not_or_not, Classical.not_not]
  simp

theorem matches_of_baseline {count deletedIncluded countHonorsDeleted : Bool} {ranking : Ranking}
    {q : Query}
    (built : Baseline.query count deletedIncluded countHonorsDeleted ranking = .ok q) :
    q.Matches decides d ↔
      (count = true → ¬ (deletedIncluded = true ∧ countHonorsDeleted = true) →
        ¬ Deleted decides d) := by
  unfold Baseline.query at built
  cases count with
  | true =>
    cases built
    cases deletedIncluded <;> cases countHonorsDeleted <;> simp [matches_visible]
  | false =>
    obtain ⟨core, _, built⟩ := bind_eq_ok_iff.mp built
    obtain ⟨rated, _, built⟩ := bind_eq_ok_iff.mp built
    cases built
    -- the first alternative matches every record, so none of the others restricts anything
    simp

theorem matches_of_build {a : Assembly} {settings : Settings} {count : Bool} {compiled : Compiled}
    (built : (a.build settings count).1 = .ok compiled) :
    compiled.query.Matches decides d ↔
      (a.roots.headD .matchAll).Matches decides d ∧
        (count = true → ¬ (settings.deletedIncluded = true ∧ settings.countHonorsDeleted = true) →
          ¬ Deleted decides d) := by
  have whole : a.build settings count = (.ok compiled, (a.build settings count).2) :=
    Prod.ext built rfl
  obtain ⟨_, _, _, ⟨baseline, restricted, joined⟩, _⟩ := Assembly.build_eq_ok_iff.mp whole
  subst joined
  rw [← matches_of_baseline restricted]
  simp [Compiled.ofParts]

/-- Where deleted records are not asked for, one is hidden exactly by a count or by a search query
    that does not match it. -/
theorem deleted_record_hidden_iff {settings : Settings} {a : Assembly} {count : Bool}
    {compiled : Compiled} (excluded : settings.deletedIncluded = false)
    (built : (a.build settings count).1 = .ok compiled) (deleted : Deleted decides d) :
    ¬ compiled.query.Matches decides d ↔
      count = true ∨ ¬ (a.roots.headD .matchAll).Matches decides d := by
  have restricts : ¬ (settings.deletedIncluded = true ∧ settings.countHonorsDeleted = true) := by
    simp [excluded]
  rw [matches_of_build built]
  constructor
  · intro hidden
    cases count with
    | true => exact Or.inl rfl
    | false => exact Or.inr fun found => hidden ⟨found, fun counts => absurd counts (by decide)⟩
  · rintro (counts | missed) ⟨found, visible⟩
    · exact visible counts restricts deleted
    · exact missed found

theorem deleted_record_found :
    ¬ ∀ (settings : Settings) (a : Assembly) (count : Bool) (compiled : Compiled)
      (d : List Condition), settings.deletedIncluded = false →
      (a.build settings count).1 = .ok compiled → Deleted Listed d →
      ¬ compiled.query.Matches Listed d := by
  intro law
  obtain ⟨compiled, built⟩ : ∃ compiled,
      (Assembly.empty.build localSettings false).1 = .ok compiled :=
    exists_ok_of_toBool (by decide +kernel)
  have deleted : Deleted Listed [.exists "isDeleted", .matchPhrase "isDeleted" "true"] := by
    unfold Deleted
    decide
  refine law localSettings .empty false compiled _ rfl built deleted ?_
  rw [matches_of_build built]
  simp [Assembly.empty]

theorem deleted_title_not_counted :
    ∃ compiled, (Assembly.build ⟨[], [phrase "title" "Ocean"], false⟩ localSettings true).1 =
        .ok compiled ∧
      Deleted Listed [.exists "isDeleted", .matchPhrase "title" "Ocean"] ∧
      ¬ compiled.query.Matches Listed [.exists "isDeleted", .matchPhrase "title" "Ocean"] := by
  have deleted : Deleted Listed [.exists "isDeleted", .matchPhrase "title" "Ocean"] := by
    unfold Deleted
    decide
  obtain ⟨compiled, built⟩ : ∃ compiled,
      (Assembly.build ⟨[], [phrase "title" "Ocean"], false⟩ localSettings true).1 =
        .ok compiled := ⟨_, rfl⟩
  exact ⟨compiled, built, deleted, (deleted_record_hidden_iff rfl built deleted).mpr (Or.inl rfl)⟩

end

end BondQuery
