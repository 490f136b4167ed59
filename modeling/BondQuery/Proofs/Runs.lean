import Mathlib.Data.List.TakeWhile
import BondQuery.Text.Blank

/- Runs of characters of one class. A scanner takes a run as far as it goes, so a run with
   something behind it is read back exactly where nothing of its class comes next. -/
namespace BondQuery.Text
variable {p : Char → Bool} {run rest cs : List Char}

/-- A statement about the characters of a text is decided one by one, not over all characters. -/
instance decidableForallChar {q : Char → Prop} [DecidablePred q] (cs : List Char) : Decidable (∀ c ∈ cs, q c) :=
  List.decidableBAll q cs

/-- What comes next, if anything, is not of the class. -/
def Stops (p : Char → Bool) (rest : List Char) : Prop :=
  ∀ c ∈ rest.head?, p c = false

theorem Stops.nil : Stops p [] := by
  simp [Stops]

theorem stops_cons {c : Char} : Stops p (c :: rest) ↔ p c = false := by
  simp [Stops]

theorem Stops.takeWhile_eq_nil (stops : Stops p rest) : rest.takeWhile p = [] := by
  cases rest with
  | nil => rfl
  | cons c rest => simp [stops_cons.mp stops]

theorem Stops.dropWhile_eq_self (stops : Stops p rest) : rest.dropWhile p = rest := by
  cases rest with
  | nil => rfl
  | cons c rest => simp [stops_cons.mp stops]

theorem stops_dropWhile (p : Char → Bool) (cs : List Char) : Stops p (cs.dropWhile p) := by
  induction cs with
  | nil => exact .nil
  | cons c cs ih =>
    rw [List.dropWhile_cons]
    split
    · exact ih
    · rename_i outside
      exact stops_cons.mpr (by simpa using outside)

theorem takeWhile_run (all : ∀ c ∈ run, p c = true) (stops : Stops p rest) :
    (run ++ rest).takeWhile p = run := by
  rw [List.takeWhile_append_of_pos all, stops.takeWhile_eq_nil, List.append_nil]

theorem dropWhile_run (all : ∀ c ∈ run, p c = true) (stops : Stops p rest) :
    (run ++ rest).dropWhile p = rest := by
  rw [List.dropWhile_append_of_pos all, stops.dropWhile_eq_self]

theorem length_le_takeWhile (all : ∀ c ∈ run, p c = true) (rest : List Char) :
    run.length ≤ ((run ++ rest).takeWhile p).length := by
  rw [List.takeWhile_append_of_pos all, List.length_append]
  omega

theorem drop_takeWhile (p : Char → Bool) (cs : List Char) :
    cs.drop (cs.takeWhile p).length = cs.dropWhile p := by
  conv => lhs; rw [← List.takeWhile_append_dropWhile (p := p) (l := cs)]
  rw [List.takeWhile_append_of_pos fun _ => List.mem_takeWhile_imp,
    (stops_dropWhile p cs).takeWhile_eq_nil, List.append_nil, List.drop_left]

theorem stops_of_all (none : ∀ c ∈ cs, p c = false) : Stops p cs := by
  cases cs with
  | nil => exact .nil
  | cons c cs => exact stops_cons.mpr (none c List.mem_cons_self)

theorem Stops.append (stops : Stops p cs) (nonempty : cs ≠ []) (rest : List Char) :
    Stops p (cs ++ rest) := by
  cases cs with
  | nil => exact absurd rfl nonempty
  | cons c cs => exact stops_cons.mpr (stops_cons.mp stops)

theorem length_le_of_stops {longer after : List Char} (same : longer ++ after = run ++ rest)
    (all : ∀ c ∈ longer, p c = true) (stops : Stops p rest) : longer.length ≤ run.length := by
  rcases List.append_eq_append_iff.mp same with ⟨more, rfl, _⟩ | ⟨more, rfl, rfl⟩
  · simp
  · cases more with
    | nil => simp
    | cons c more =>
      have outside : p c = false := stops_cons.mp stops
      rw [all c (by simp)] at outside
      cases outside

theorem trimBy_of_stops {test : Char → Bool} (front : Stops test cs) (back : Stops test cs.reverse) :
    trimBy test cs = cs := by
  rw [trimBy, front.dropWhile_eq_self, back.dropWhile_eq_self, List.reverse_reverse]

theorem stops_trimBy (test : Char → Bool) (cs : List Char) : Stops test (trimBy test cs) := by
  have front := stops_dropWhile test cs
  unfold trimBy
  cases trimmed : cs.dropWhile test with
  | nil => exact .nil
  | cons c more =>
    rw [trimmed] at front
    have first : test c = false := stops_cons.mp front
    rw [List.reverse_cons, List.dropWhile_append]
    split
    · simp [first, stops_cons]
    · simpa using stops_cons.mpr first

end BondQuery.Text
