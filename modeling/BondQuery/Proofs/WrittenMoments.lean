import BondQuery.Proofs.GregorianDays
import BondQuery.Proofs.Outcome
import BondQuery.Proofs.Runs
import BondQuery.Translate

/- Dates with times of day as they are written, and the milliseconds from the epoch that each
   denotes. What is written is read back field by field. -/
namespace BondQuery.Calendar
open Text (Stops stops_cons stops_of_all)

def padded : Nat → Nat → List Char
  | 0, _ => []
  | width + 1, n => padded width (n / 10) ++ [Nat.digitChar (n % 10)]

inductive Zone where
  | unspecified
  | universal
  | offset (behind : Bool) (hours : Fin 24) (minutes : Fin 60)

def Zone.chars : Zone → List Char
  | unspecified => []
  | universal => ['Z']
  | offset behind hours minutes =>
    (if behind then '-' else '+') :: (padded 2 hours ++ ':' :: padded 2 minutes)

def Zone.ahead : Zone → Int
  | offset behind hours minutes =>
    let size : Int := hours * 60 + minutes
    if behind then -size else size
  | _ => 0

structure DateTime where
  year : Nat
  month : Nat
  day : Nat
  hour : Fin 24
  minute : Fin 60
  second : Fin 60
  milli : Fin 1000
  zone : Zone
  year_least : 1 ≤ year
  year_most : year ≤ 9999
  month_least : 1 ≤ month
  month_most : month ≤ 12
  day_least : 1 ≤ day
  day_most : day ≤ monthDays year month

namespace DateTime
variable (t : DateTime)

def dayChars : List Char :=
  padded 4 t.year ++ '-' :: (padded 2 t.month ++ '-' :: padded 2 t.day)

def clockChars : List Char :=
  padded 2 t.hour ++ ':' :: (padded 2 t.minute ++ ':' :: (padded 2 t.second ++ '.' ::
    padded 3 t.milli))

def text : String :=
  String.ofList (t.dayChars ++ 'T' :: (t.clockChars ++ t.zone.chars))

def millis : Int :=
  ((daysBefore t.year t.month t.day : Int) - daysBefore 1970 1 1) * 86400000 +
    ((t.hour * 60 + t.minute) * 60 + t.second) * 1000 + t.milli - t.zone.ahead * 60000

end DateTime

/- Digits. -/

theorem length_padded (width n : Nat) : (padded width n).length = width := by
  induction width generalizing n with
  | zero => rfl
  | succ width ih => simp [padded, ih]

theorem padded_subset (width n : Nat) : padded width n ⊆ "0123456789".toList := by
  induction width generalizing n with
  | zero => exact List.nil_subset _
  | succ width ih =>
    have last : ∀ d < 10, Nat.digitChar d ∈ "0123456789".toList := by decide
    rw [padded, List.append_subset]
    exact ⟨ih (n / 10), List.cons_subset.mpr ⟨last _ (Nat.mod_lt n (by decide)), List.nil_subset _⟩⟩

theorem padded_subset_of {cs : List Char} (digits : "0123456789".toList ⊆ cs) (width n : Nat) :
    padded width n ⊆ cs :=
  List.Subset.trans (padded_subset width n) digits

theorem ofDigitChars_padded {width n : Nat} (small : n < 10 ^ width) :
    Nat.ofDigitChars 10 (padded width n) 0 = n := by
  induction width generalizing n with
  | zero =>
    obtain rfl : n = 0 := by simpa using small
    rfl
  | succ width ih =>
    have front : n / 10 < 10 ^ width := by
      rw [Nat.pow_succ] at small
      omega
    rw [padded, Nat.ofDigitChars_append, ih front,
      Nat.ofDigitChars_cons_digitChar_of_lt_ten (Nat.mod_lt n (by decide)), Nat.ofDigitChars_nil]
    omega

theorem number?_padded {width n : Nat} (small : n < 10 ^ width) :
    number? (padded width n) = some n := by
  have plain : ∀ c ∈ "0123456789".toList, c.isDigit = true := by decide
  have digits : (padded width n).all Char.isDigit = true :=
    List.all_eq_true.mpr fun c member => plain c (padded_subset width n member)
  rw [number?, if_pos digits, ofDigitChars_padded small]

theorem field?_padded {width n : Nat} (small : n < 10 ^ width) (rest : List Char) :
    field? width (padded width n ++ rest) = some (n, rest) := by
  have long : width ≤ (padded width n ++ rest).length := by
    rw [List.length_append, length_padded]
    exact Nat.le_add_right width _
  rw [field?, if_pos long, List.take_left' (length_padded width n),
    List.drop_left' (length_padded width n), number?_padded small]
  rfl

/- Times of day. -/

namespace Clock
variable {due n : Nat} {units : List Nat} {colons : Bool} {behind : List Char}

theorem readUnits?_colon (small : n < 100) (separated : units = [] ∨ colons = true)
    (more : behind ≠ []) :
    readUnits? (due + 1) colons units (padded 2 n ++ ':' :: behind) =
      readUnits? due true (units ++ [n]) behind := by
  have field : field? 2 (padded 2 n ++ ':' :: behind) = some (n, ':' :: behind) :=
    field?_padded small _
  have long : ¬ (':' :: behind).length ≤ 1 := by
    have nonempty := List.length_pos_iff.mpr more
    rw [List.length_cons]
    omega
  have known : if (units ++ [n]).length = 1 then (':' :: behind).head? = some ':'
      else colons = true := by
    split
    · rfl
    · rename_i later
      rcases separated with none | given
      · exact absurd (by simp [none]) later
      · exact given
  rw [readUnits?, field]
  simp only [Option.bind_eq_bind, Option.bind_some, decide_eq_false long, decide_eq_true known,
    Bool.false_and, Bool.false_eq_true, if_false, beq_self_eq_true, Bool.and_self, if_true]

theorem readUnits?_point (small : n < 100) (more : behind ≠ []) :
    readUnits? (due + 1) true units (padded 2 n ++ '.' :: behind) =
      readFraction? (units ++ [n]) behind := by
  have field : field? 2 (padded 2 n ++ '.' :: behind) = some (n, '.' :: behind) :=
    field?_padded small _
  have long : ¬ ('.' :: behind).length ≤ 1 := by
    have nonempty := List.length_pos_iff.mpr more
    rw [List.length_cons]
    omega
  have point : ('.' == ':') = false := rfl
  rw [readUnits?, field]
  simp only [Option.bind_eq_bind, Option.bind_some, decide_eq_false long, point,
    Bool.false_and, Bool.and_false, Bool.false_eq_true, if_false, beq_self_eq_true, Bool.true_or,
    if_true]

theorem readUnits?_last (small : n < 100) :
    readUnits? (due + 1) colons units (padded 2 n) = some (ofUnits (units ++ [n]) 0 false) := by
  have field : field? 2 (padded 2 n) = some (n, []) := by
    simpa using @field?_padded 2 n small []
  rw [readUnits?, field]
  rfl

theorem readFraction?_milli {milli : Nat} (small : milli < 1000) :
    readFraction? units (padded 3 milli) = some (ofUnits units (milli * 1000) false) := by
  have short : (padded 3 milli).take 6 = padded 3 milli :=
    List.take_of_length_le (by rw [length_padded]; decide)
  have none : (padded 3 milli).drop 6 = [] :=
    List.drop_eq_nil_of_le (by rw [length_padded]; decide)
  rw [readFraction?, short, none, number?_padded small, length_padded]
  rfl

theorem read?_clockChars (t : DateTime) :
    read? t.clockChars = some ⟨t.hour, t.minute, t.second, t.milli * 1000, false⟩ := by
  rw [read?, DateTime.clockChars, readUnits?_colon (by omega) (.inl rfl) (by simp),
    readUnits?_colon (by omega) (.inr rfl) (by simp),
    readUnits?_point (by omega) (by simp [padded]), readFraction?_milli t.milli.isLt]
  rfl

theorem read?_offset (hours : Fin 24) (minutes : Fin 60) :
    read? (padded 2 hours ++ ':' :: padded 2 minutes) = some ⟨hours, minutes, 0, 0, false⟩ := by
  rw [read?, readUnits?_colon (by omega) (.inl rfl) (by simp [padded]),
    readUnits?_last (by omega)]
  rfl

end Clock

/- Zones. -/

def Zone.expanded : Zone → List Char
  | unspecified => []
  | universal => (offset false 0 0).chars
  | offset behind hours minutes => (offset behind hours minutes).chars

theorem clockChars_subset (t : DateTime) : t.clockChars ⊆ "0123456789:.".toList := by
  have digits (width n : Nat) : padded width n ⊆ "0123456789:.".toList :=
    padded_subset_of (by decide) width n
  simp only [DateTime.clockChars, List.append_subset, List.cons_subset]
  exact ⟨digits .., by decide, digits .., by decide, digits .., by decide, digits ..⟩

theorem clock_unsigned (t : DateTime) : ∀ c ∈ t.clockChars, (!(c == '+' || c == '-')) = true := by
  have plain : ∀ c ∈ "0123456789:.".toList, (!(c == '+' || c == '-')) = true := by decide
  exact fun c member => plain c (clockChars_subset t member)

theorem readTime?_of_offset (t : DateTime) (behind : Bool) (hours : Fin 24) (minutes : Fin 60) :
    readTime? (t.clockChars ++ (Zone.offset behind hours minutes).chars) =
      some (⟨t.hour, t.minute, t.second, t.milli * 1000, false⟩,
        (Zone.offset behind hours minutes).ahead * 60000000) := by
  have stops : Stops (fun c => !(c == '+' || c == '-')) (Zone.offset behind hours minutes).chars :=
    stops_cons.mpr (by cases behind <;> rfl)
  -- an offset of nothing is a case of its own
  have size : (if (Clock.mk hours minutes 0 0 false).seconds = 0 then (0 : Int)
      else (Clock.mk hours minutes 0 0 false).seconds * 1000000 + (0 : Nat)) =
        ((hours : Nat) * 60 + (minutes : Nat) : Int) * 60000000 := by
    by_cases none : (Clock.mk hours minutes 0 0 false).seconds = 0
    · rw [if_pos none]
      simp only [Clock.seconds] at none
      omega
    · rw [if_neg none]
      simp only [Clock.seconds]
      omega
  have signed : (if (if behind = true then '-' else '+') == '-' then
      -(((hours : Nat) * 60 + (minutes : Nat) : Int) * 60000000)
      else ((hours : Nat) * 60 + (minutes : Nat) : Int) * 60000000) =
        (Zone.offset behind hours minutes).ahead * 60000000 := by
    rw [Zone.ahead]
    cases behind with
    | true => simp only [beq_self_eq_true, if_true, Int.neg_mul]
    | false => simp
  rw [readTime?, Text.takeWhile_run (clock_unsigned t) stops,
    Text.dropWhile_run (clock_unsigned t) stops, Clock.read?_clockChars]
  simp only [Option.bind_eq_bind, Option.bind_some, Zone.chars, Clock.read?_offset, size, signed,
    Bool.false_eq_true, if_false, pure]

theorem readTime?_of_none (t : DateTime) :
    readTime? t.clockChars = some (⟨t.hour, t.minute, t.second, t.milli * 1000, false⟩, 0) := by
  have taken := Text.takeWhile_run (clock_unsigned t) Stops.nil
  have left := Text.dropWhile_run (clock_unsigned t) Stops.nil
  rw [List.append_nil] at taken left
  rw [readTime?, taken, left, Clock.read?_clockChars]
  rfl

theorem readTime?_chars (t : DateTime) : readTime? (t.clockChars ++ t.zone.expanded) =
    some (⟨t.hour, t.minute, t.second, t.milli * 1000, false⟩, t.zone.ahead * 60000000) := by
  cases t.zone with
  | unspecified =>
    rw [Zone.expanded, List.append_nil]
    exact readTime?_of_none t
  | universal => exact readTime?_of_offset t false 0 0
  | offset behind hours minutes => exact readTime?_of_offset t behind hours minutes

/- Days. -/

theorem readDay?_dayChars (t : DateTime) :
    readDay? t.dayChars = some (.ofMonth t.year t.month t.day) := by
  have month_small : t.month < 100 := t.month_most.trans_lt (by decide)
  have day_small : t.day < 100 :=
    t.day_most.trans_lt ((monthDays_le t.year t.month).trans_lt (by decide))
  have year_field : field? 4 t.dayChars =
      some (t.year, '-' :: (padded 2 t.month ++ '-' :: padded 2 t.day)) :=
    field?_padded (t.year_most.trans_lt (by decide)) _
  have month_field : field? 2 (padded 2 t.month ++ '-' :: padded 2 t.day) =
      some (t.month, '-' :: padded 2 t.day) := field?_padded month_small _
  have day_field : field? 2 (padded 2 t.day) = some (t.day, []) := by
    simpa using @field?_padded 2 t.day day_small []
  rw [readDay?, year_field]
  simp only [Option.bind_eq_bind, Option.bind_some, List.head?_cons, decide_true, hyphen?, if_true]
  split
  · -- no digit is the letter of a week
    rename_i rest week
    simp [padded] at week
  · rw [month_field]
    simp only [Option.bind_some, day_field]
    rfl

/- Moments. -/

def DateTime.expanded (t : DateTime) : List Char :=
  t.dayChars ++ 'T' :: (t.clockChars ++ t.zone.expanded)

theorem length_dayChars (t : DateTime) : t.dayChars.length = 10 := by
  simp [DateTime.dayChars, length_padded]

theorem dateLength_expanded (t : DateTime) : dateLength t.expanded = 10 := by
  have hyphen : t.expanded[4]? = some '-' := by
    simp [DateTime.expanded, DateTime.dayChars, length_padded]
  have digit : t.expanded[5]? ≠ some 'W' := by
    simp [DateTime.expanded, DateTime.dayChars, padded]
  have long : t.expanded.length ≠ 7 := by
    rw [DateTime.expanded, List.length_append, length_dayChars]
    omega
  simp only [dateLength, if_neg long, if_pos hyphen, if_neg digit]

theorem readParts?_expanded (t : DateTime) : readParts? t.expanded =
    some (.ofMonth t.year t.month t.day,
      ⟨t.hour, t.minute, t.second, t.milli * 1000, false⟩, t.zone.ahead * 60000000) := by
  have long : ¬ t.expanded.length < 7 := by
    rw [DateTime.expanded, List.length_append, length_dayChars]
    omega
  rw [readParts?, if_neg long, dateLength_expanded]
  dsimp only
  rw [DateTime.expanded, List.take_left' (length_dayChars t), List.drop_left' (length_dayChars t),
    readDay?_dayChars]
  simp only [Option.bind_eq_bind, Option.bind_some, readTime?_chars, pure]

theorem ahead_lt (zone : Zone) : zone.ahead.natAbs < 1440 := by
  cases zone with
  | offset behind hours minutes =>
    simp only [Zone.ahead]
    split <;> omega
  | _ => decide

theorem microseconds_eq (t : DateTime) :
    microseconds (daysBefore t.year t.month t.day + 1)
      ⟨t.hour, t.minute, t.second, t.milli * 1000, false⟩ (t.zone.ahead * 60000000) =
        1000 * t.millis := by
  simp only [microseconds, epochDay_eq, microsecondsPerDay, Clock.seconds, DateTime.millis]
  omega

theorem readMillis_expanded (t : DateTime) :
    readMillis t.expanded = .ok (toMillis (1000 * t.millis)) := by
  have near : ¬ microsecondsPerDay ≤ (t.zone.ahead * 60000000).natAbs := by
    have small := ahead_lt t.zone
    unfold microsecondsPerDay
    omega
  have checked : Clock.check ⟨t.hour, t.minute, t.second, t.milli * 1000, false⟩ = .ok () := by
    unfold Clock.check
    dsimp only
    rw [if_neg (by omega), if_neg (by omega), if_neg (by omega)]
  rw [readMillis, readParts?_expanded]
  dsimp only
  rw [if_neg near, ordinal_eq t.year_least t.month_least t.month_most t.day_least t.day_most,
    checked, ← microseconds_eq]
  rfl

/- Texts. -/

def unzoned (cs : List Char) : List Char :=
  cs.flatMap fun c => if c == 'Z' then "+00:00".toList else [c]

theorem unzoned_of_subset {cs : List Char} (plain : cs ⊆ "0123456789-T:.+".toList) :
    unzoned cs = cs := by
  have single : ∀ c ∈ "0123456789-T:.+".toList,
      (if c == 'Z' then "+00:00".toList else [c]) = [c] := by decide
  unfold unzoned
  induction cs with
  | nil => rfl
  | cons c cs ih =>
    obtain ⟨here, there⟩ := List.cons_subset.mp plain
    rw [List.flatMap_cons, single c here, ih there]
    rfl

theorem dayChars_subset (t : DateTime) : t.dayChars ⊆ "0123456789-T:.+".toList := by
  have digits (width n : Nat) : padded width n ⊆ "0123456789-T:.+".toList :=
    padded_subset_of (by decide) width n
  simp only [DateTime.dayChars, List.append_subset, List.cons_subset]
  exact ⟨digits .., by decide, digits .., by decide, digits ..⟩

theorem offset_subset (behind : Bool) (hours : Fin 24) (minutes : Fin 60) :
    (Zone.offset behind hours minutes).chars ⊆ "0123456789-T:.+".toList := by
  have digits (width n : Nat) : padded width n ⊆ "0123456789-T:.+".toList :=
    padded_subset_of (by decide) width n
  simp only [Zone.chars, List.append_subset, List.cons_subset]
  exact ⟨by cases behind <;> decide, digits .., by decide, digits ..⟩

theorem unzoned_zone (zone : Zone) : unzoned zone.chars = zone.expanded := by
  cases zone with
  | unspecified => rfl
  | universal => rfl
  | offset behind hours minutes => exact unzoned_of_subset (offset_subset behind hours minutes)

theorem toList_text (t : DateTime) :
    t.text.toList = t.dayChars ++ 'T' :: (t.clockChars ++ t.zone.chars) :=
  String.toList_ofList

theorem unzoned_text (t : DateTime) : unzoned t.text.toList = t.expanded := by
  have split (front back : List Char) : unzoned (front ++ back) = unzoned front ++ unzoned back :=
    List.flatMap_append
  have clock : t.clockChars ⊆ "0123456789-T:.+".toList :=
    List.Subset.trans (clockChars_subset t) (by decide)
  have letter : unzoned ['T'] = ['T'] := rfl
  rw [toList_text, ← List.singleton_append, split, split, split, letter,
    unzoned_of_subset (dayChars_subset t), unzoned_of_subset clock, unzoned_zone]
  rfl

theorem text_subset (t : DateTime) : t.text.toList ⊆ "0123456789-T:.Z+".toList := by
  have widen {cs : List Char} (plain : cs ⊆ "0123456789-T:.+".toList) :
      cs ⊆ "0123456789-T:.Z+".toList := List.Subset.trans plain (by decide)
  have clock : t.clockChars ⊆ "0123456789-T:.Z+".toList :=
    List.Subset.trans (clockChars_subset t) (by decide)
  have zone : t.zone.chars ⊆ "0123456789-T:.Z+".toList := by
    cases t.zone with
    | unspecified => exact List.nil_subset _
    | universal => decide
    | offset behind hours minutes => exact widen (offset_subset behind hours minutes)
  rw [toList_text, List.append_subset, List.cons_subset, List.append_subset]
  exact ⟨widen (dayChars_subset t), by decide, clock, zone⟩

theorem trim_text (t : DateTime) : Text.trim t.text.toList = t.text.toList := by
  have plain : ∀ c ∈ "0123456789-T:.Z+".toList, Text.isBlank c = false := by decide
  apply Text.trimBy_of_stops
  · exact stops_of_all fun c member => plain c (text_subset t member)
  · exact stops_of_all fun c member => plain c (text_subset t (List.mem_reverse.mp member))

theorem isCount_text (t : DateTime) : Translate.isCount t.text.toList = false := by
  have letter : 'T' ∈ t.text.toList.dropWhile (· == '-') := by
    have inside : 'T' ∈ t.text.toList := by simp [toList_text]
    rw [← List.takeWhile_append_dropWhile (p := (· == '-')) (l := t.text.toList)] at inside
    rcases List.mem_append.mp inside with front | behind
    · exact absurd (List.mem_takeWhile_imp front) (by decide)
    · exact behind
  have other : (t.text.toList.dropWhile (· == '-')).all Text.isDigit = false := by
    rw [List.all_eq_false]
    exact ⟨'T', letter, by decide⟩
  simp only [Translate.isCount, other, Bool.and_false]

theorem valueOfDate_text (t : DateTime) : Translate.valueOfDate t.text.toList =
    .ok (.number (.int (toMillis (1000 * t.millis)))) := by
  have read : readMillis (unzoned t.text.toList) = .ok (toMillis (1000 * t.millis)) := by
    rw [unzoned_text, readMillis_expanded]
  unfold unzoned at read
  simp only [Translate.valueOfDate, trim_text, isCount_text, Bool.false_eq_true, if_false, read]

theorem rangeValue_text {property : Property} (dated : property.contentType.isDate = true)
    (t : DateTime) : Translate.rangeValue property t.text =
      .ok (.number (.int (toMillis (1000 * t.millis)))) := by
  have typed : Translate.valueOf property.contentType t.text =
      Translate.valueOfDate t.text.toList := by
    cases type : property.contentType <;> simp [ContentType.isDate, type] at dated <;> rfl
  rw [Translate.rangeValue, typed, valueOfDate_text]
  rfl

end BondQuery.Calendar
