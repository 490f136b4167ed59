import Mathlib.Algebra.BigOperators.Intervals
import Mathlib.Algebra.Group.Action.Defs
import Mathlib.Algebra.Order.BigOperators.Group.Finset
import BondQuery.Calendar.Moment

/- The calendar by the lengths of its months and years. A day is counted by the days before it, and
   the closed form for the days before a year counts the same. -/
namespace BondQuery.Calendar
open Finset

/-- Every fourth year is a leap year, but of the full centuries only every fourth. -/
def IsLeap (year : Nat) : Prop :=
  4 ∣ year ∧ (100 ∣ year → 400 ∣ year)

instance decidableIsLeap (year : Nat) : Decidable (IsLeap year) :=
  inferInstanceAs (Decidable (_ ∧ _))

def monthDays (year month : Nat) : Nat :=
  if month = 2 then if IsLeap year then 29 else 28
  else if month ∈ [4, 6, 9, 11] then 30
  else 31

def yearDays (year : Nat) : Nat :=
  ∑ month ∈ Ico 1 13, monthDays year month

def daysBefore (year month day : Nat) : Nat :=
  ∑ y ∈ Ico 1 year, yearDays y + ∑ m ∈ Ico 1 month, monthDays year m + (day - 1)

theorem isLeap_iff {year : Nat} : isLeap year = true ↔ IsLeap year := by
  simp only [isLeap, IsLeap, Bool.and_eq_true, Bool.or_eq_true, decide_eq_true_eq]
  omega

theorem monthLength_eq (year month : Nat) : monthLength year month = monthDays year month := by
  simp [monthLength, monthDays, isLeap_iff]

theorem monthDays_le (year month : Nat) : monthDays year month ≤ 31 := by
  unfold monthDays
  split
  · split <;> decide
  · split <;> decide

theorem yearDays_eq (year : Nat) : yearDays year = if IsLeap year then 366 else 365 := by
  unfold yearDays
  by_cases leap : IsLeap year <;> simp [sum_Ico_succ_top, monthDays, leap]

theorem daysBeforeYear_succ {year : Nat} (positive : 1 ≤ year) :
    daysBeforeYear (year + 1) = daysBeforeYear year + yearDays year := by
  obtain ⟨past, rfl⟩ : ∃ past, year = past + 1 := ⟨year - 1, by omega⟩
  have centuries : 100 ∣ past + 1 → 4 ∣ past + 1 := Nat.dvd_trans (by decide)
  have fourth : 400 ∣ past + 1 → 100 ∣ past + 1 := Nat.dvd_trans (by decide)
  have fewer : past / 100 ≤ past / 4 := Nat.div_le_div_left (by decide) (by decide)
  have step (d : Nat) : (past + 1) / d = past / d + if d ∣ past + 1 then 1 else 0 := by
    split
    · rename_i divides
      exact Nat.succ_div_of_dvd divides
    · rename_i other
      exact Nat.succ_div_of_not_dvd other
  rw [yearDays_eq]
  unfold daysBeforeYear
  simp only [Nat.add_sub_cancel, step]
  by_cases four : 4 ∣ past + 1
  · by_cases hundred : 100 ∣ past + 1
    · by_cases fourHundred : 400 ∣ past + 1
      · have leap : IsLeap (past + 1) := ⟨four, fun _ => fourHundred⟩
        rw [if_pos four, if_pos hundred, if_pos fourHundred, if_pos leap]
        omega
      · have common : ¬ IsLeap (past + 1) := fun leap => fourHundred (leap.2 hundred)
        rw [if_pos four, if_pos hundred, if_neg fourHundred, if_neg common]
        omega
    · have leap : IsLeap (past + 1) := ⟨four, fun divides => absurd divides hundred⟩
      rw [if_pos four, if_neg hundred, if_neg (mt fourth hundred), if_pos leap]
      omega
  · have hundred := mt centuries four
    have common : ¬ IsLeap (past + 1) := fun leap => four leap.1
    rw [if_neg four, if_neg hundred, if_neg (mt fourth hundred), if_neg common]
    omega

theorem daysBeforeYear_eq {year : Nat} (positive : 1 ≤ year) :
    daysBeforeYear year = ∑ y ∈ Ico 1 year, yearDays y := by
  induction year, positive using Nat.le_induction with
  | base => rfl
  | succ year positive ih => rw [daysBeforeYear_succ positive, ih, sum_Ico_succ_top positive]

theorem daysBeforeMonth_succ {month : Nat} (positive : 1 ≤ month) (year : Nat) :
    daysBeforeMonth year (month + 1) = daysBeforeMonth year month + monthDays year month := by
  obtain ⟨past, rfl⟩ : ∃ past, month = past + 1 := ⟨month - 1, by omega⟩
  unfold daysBeforeMonth
  rw [Nat.add_sub_cancel, Nat.add_sub_cancel, List.range'_concat, List.foldl_append]
  simp [monthLength_eq, Nat.add_comm]

theorem daysBeforeMonth_eq {month : Nat} (positive : 1 ≤ month) (year : Nat) :
    daysBeforeMonth year month = ∑ m ∈ Ico 1 month, monthDays year m := by
  induction month, positive using Nat.le_induction with
  | base => rfl
  | succ month positive ih =>
    rw [daysBeforeMonth_succ positive, ih, sum_Ico_succ_top positive]

theorem daysBefore_eq {year month : Nat} (year_least : 1 ≤ year) (month_least : 1 ≤ month)
    (day : Nat) :
    daysBefore year month day = daysBeforeYear year + daysBeforeMonth year month + (day - 1) := by
  rw [daysBefore, daysBeforeYear_eq year_least, daysBeforeMonth_eq month_least]

theorem ordinal_eq {year month day : Nat} (year_least : 1 ≤ year) (month_least : 1 ≤ month)
    (month_most : month ≤ 12) (day_least : 1 ≤ day) (day_most : day ≤ monthDays year month) :
    DayName.ordinal (.ofMonth year month day) = .ok (daysBefore year month day + 1) := by
  unfold DayName.ordinal
  dsimp only
  rw [if_neg (by omega), if_neg (by omega), monthLength_eq, if_neg (by omega),
    daysBefore_eq year_least month_least]
  congr 1
  omega

theorem epochDay_eq : epochDay = daysBefore 1970 1 1 + 1 := by
  rw [epochDay, daysBefore_eq (by decide) (by decide)]
  rfl

theorem daysBefore_lt {year month day : Nat} (year_least : 1 ≤ year) (year_most : year ≤ 9999)
    (month_least : 1 ≤ month) (month_most : month ≤ 12) (day_most : day ≤ monthDays year month) :
    daysBefore year month day < 3652200 := by
  have months : ∑ m ∈ Ico 1 month, monthDays year m ≤ (month - 1) * 31 := by
    have sum := sum_le_card_nsmul (Ico 1 month) (monthDays year) 31 fun m _ => monthDays_le year m
    rwa [Nat.card_Ico, smul_eq_mul] at sum
  have years : daysBeforeYear year ≤ 3651694 := by
    unfold daysBeforeYear
    dsimp only
    omega
  have last := monthDays_le year month
  rw [daysBefore_eq year_least month_least, daysBeforeMonth_eq month_least]
  omega

end BondQuery.Calendar
