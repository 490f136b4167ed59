import BondQuery.Proofs.SecondsRounding
import BondQuery.Proofs.WrittenMoments

/- Bounds on dates. A date-time is stored as its milliseconds from the epoch, but for those that
   lose one on the way through seconds. -/
namespace BondQuery.Calendar
open Translate (rangeValue)

theorem millis_small (t : DateTime) : t.millis.natAbs < 2 ^ 50 := by
  have day := daysBefore_lt t.year_least t.year_most t.month_least t.month_most t.day_most
  have epoch : daysBefore 1970 1 1 < 3652200 :=
    daysBefore_lt (by decide) (by decide) (by decide) (by decide) (by decide)
  have zone := ahead_lt t.zone
  unfold DateTime.millis
  omega

theorem rangeValue_kept {property : Property} (dated : property.contentType.isDate = true)
    (t : DateTime) : rangeValue property t.text = .ok (.number (.int (keptMillis t.millis))) := by
  rw [rangeValue_text dated, toMillis_eq (millis_small t)]

/-- A date-time is stored exactly if its milliseconds are kept, which those of every eighth of a
    second are; the others are off by one, towards the epoch. Bounds are in the order of the
    moments, and two moments have one bound if they are next to each other and only the one that
    is further from the epoch is off. -/
theorem date_bound_exact_iff {property : Property} (dated : property.contentType.isDate = true)
    (t : DateTime) :
    (rangeValue property t.text = .ok (.number (.int t.millis)) ↔ ¬ LosesMilli t.millis.natAbs) ∧
    (LosesMilli t.millis.natAbs →
      rangeValue property t.text = .ok (.number (.int (t.millis - t.millis.sign)))) ∧
    (125 ∣ t.millis → ¬ LosesMilli t.millis.natAbs) ∧
    ∀ later : DateTime, t.millis < later.millis →
      ∃ bound bound', rangeValue property t.text = .ok (.number (.int bound)) ∧
        rangeValue property later.text = .ok (.number (.int bound')) ∧ bound ≤ bound' ∧
        (bound = bound' ↔ later.millis = t.millis + 1 ∧
          (0 ≤ t.millis ∧ bound = t.millis ∧ bound' ≠ later.millis ∨
            later.millis ≤ 0 ∧ bound ≠ t.millis ∧ bound' = later.millis)) := by
  refine ⟨?_, ?_, ?_, ?_⟩
  · rw [rangeValue_kept dated, ← keptMillis_eq_self_iff]
    simp
  · intro loses
    rw [rangeValue_kept dated, keptMillis, if_pos loses]
  · intro eighths
    exact not_losesMilli_of_dvd (millis_small t) (Int.natAbs_dvd_natAbs.mpr eighths)
  · intro later less
    obtain ⟨order, together⟩ := keptMillis_order less
    exact ⟨_, _, rangeValue_kept dated t, rangeValue_kept dated later, order, together⟩

def noon (milli : Fin 1000) (zone : Zone) : DateTime where
  year := 2004
  month := 6
  day := 1
  hour := ⟨12, by decide⟩
  minute := ⟨0, by decide⟩
  second := ⟨0, by decide⟩
  milli := milli
  zone := zone
  year_least := by decide
  year_most := by decide
  month_least := by decide
  month_most := by decide
  day_least := by decide
  day_most := by decide

theorem millis_noon (milli : Fin 1000) (zone : Zone) :
    (noon milli zone).millis = 1086091200000 + milli - zone.ahead * 60000 := by
  have day : daysBefore 2004 6 1 = 731732 := by
    rw [daysBefore_eq (by decide) (by decide)]
    rfl
  have epoch : daysBefore 1970 1 1 = 719162 := by
    rw [daysBefore_eq (by decide) (by decide)]
    rfl
  simp only [DateTime.millis, noon, day, epoch]
  omega

theorem half_second_kept :
    rangeValue ⟨"creationDate", .date⟩ "2004-06-01T12:00:00.500+02:00" =
      .ok (.number (.int 1086084000500)) := by
  have text : (noon 500 (.offset false 2 0)).text = "2004-06-01T12:00:00.500+02:00" := rfl
  have millis : (noon 500 (.offset false 2 0)).millis = 1086084000500 := by
    rw [millis_noon]
    decide
  obtain ⟨stored, _, eighths, _⟩ := @date_bound_exact_iff ⟨"creationDate", .date⟩ rfl
    (noon 500 (.offset false 2 0))
  rw [text, millis] at stored
  rw [millis] at eighths
  exact stored.mpr (eighths (by decide))

theorem first_millisecond_lost :
    (noon 1 .universal).text = "2004-06-01T12:00:00.001Z" ∧
    (noon 1 .universal).millis = 1086091200001 ∧
    rangeValue ⟨"tmpExtentBegin", .dateTime⟩ "2004-06-01T12:00:00.001Z" =
      .ok (.number (.int 1086091200000)) ∧
    rangeValue ⟨"tmpExtentBegin", .dateTime⟩ "2004-06-01T12:00:00.000Z" =
      .ok (.number (.int 1086091200000)) := by
  have later : (noon 1 .universal).text = "2004-06-01T12:00:00.001Z" := rfl
  have sooner : (noon 0 .universal).text = "2004-06-01T12:00:00.000Z" := rfl
  have one : (noon 1 .universal).millis = 1086091200001 := millis_noon ..
  have none : (noon 0 .universal).millis = 1086091200000 := millis_noon ..
  have loses : LosesMilli (Int.natAbs 1086091200001) := ⟨22, by decide, by decide, by decide⟩
  have keeps : ¬ LosesMilli (Int.natAbs 1086091200000) :=
    not_losesMilli_of_dvd (by decide) (by decide)
  refine ⟨later, one, ?_, ?_⟩
  · rw [← later, rangeValue_kept rfl, one, keptMillis, if_pos loses]
    rfl
  · rw [← sooner, rangeValue_kept rfl, none, keptMillis, if_neg keeps]

end BondQuery.Calendar
