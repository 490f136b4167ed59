import BondQuery.Proofs.Reading

/- The tokens a text opens with. A token is judged with all that stands behind it, so an opening
   keeps the rest of the text, and a whole text is an opening and the tokens of its rest. -/
namespace BondQuery.Syntax

variable {place : Place} {cs left : List Char} {s next : State} {t : Token} {ts us : List Token}
  {e : Expression}

def Place.after (place : Place) (ts : List Token) : Place :=
  ts.foldl Place.next place

/-- The first tokens of a text, each in the place the ones before it leave, and the text behind
    the last of them. -/
inductive Opens : Place → List Char → List Token → List Char → Prop
  | none {place : Place} {cs : List Char} : Opens place cs [] cs
  | token {place : Place} {gap rest left : List Char} {t : Token} {ts : List Token}
      (blank : ∀ c ∈ gap, Text.isGap c = true) (fits : Fits place.context t rest)
      (behind : Opens (place.next t) rest ts left) :
      Opens place (gap ++ (t.lexeme ++ rest)) (t :: ts) left

theorem opens_of_scan {rest : List Char}
    (scanned : scan place.context (skipGaps cs) = some (t, rest))
    (behind : Opens (place.next t) rest ts left) : Opens place cs (t :: ts) left := by
  obtain ⟨split, fits⟩ := scan_eq_some_iff.mp scanned
  rw [← List.takeWhile_append_dropWhile (p := Text.isGap) (l := cs),
    show cs.dropWhile Text.isGap = _ from split]
  exact .token (fun c => List.mem_takeWhile_imp) fits behind

theorem Opens.finish (opens : Opens place cs ts left) (behind : Lexes (place.after ts) left us) :
    Lexes place cs (ts ++ us) := by
  induction opens with
  | none => exact behind
  | token blank fits _ ih => exact .token blank fits (ih behind)

theorem Opens.rest (opens : Opens place cs ts left) (lexes : Lexes place cs us) :
    ∃ vs, us = ts ++ vs ∧ Lexes (place.after ts) left vs := by
  induction opens generalizing us with
  | none => exact ⟨us, rfl, lexes⟩
  | @token place gap rest left t ts blank fits _ ih =>
    have scanned : scan place.context (skipGaps (gap ++ (t.lexeme ++ rest))) = some (t, rest) :=
      scan_eq_some_iff.mpr ⟨dropWhile_gap blank fits, fits⟩
    obtain ⟨others, rfl, behind⟩ := (lexes_of_scanned scanned).mp lexes
    obtain ⟨vs, rfl, later⟩ := ih behind
    exact ⟨vs, rfl, later⟩

theorem Lexes.gap {gap : List Char} (blank : ∀ c ∈ gap, Text.isGap c = true)
    (lexes : Lexes place cs ts) : Lexes place (gap ++ cs) ts := by
  have skipped : skipGaps (gap ++ cs) = skipGaps cs := by
    rw [skipGaps, List.dropWhile_append_of_pos blank, skipGaps]
  cases ts with
  | nil =>
    rw [lexes_nil_iff, skipped]
    exact lexes_nil_iff.mp lexes
  | cons t ts =>
    rw [lexes_cons_iff, skipped]
    exact lexes_cons_iff.mp lexes

theorem lexes_end (place : Place) : Lexes place [] [] :=
  .done (by simp)

theorem Lexes.first {rest : List Char} (fits : Fits place.context t rest)
    (behind : Lexes (place.next t) rest ts) : Lexes place (t.lexeme ++ rest) (t :: ts) := by
  have none : ∀ c ∈ [], Text.isGap c = true := by simp
  exact .token none fits behind

theorem Lexes.behind_blank (lexes : Lexes place cs ts) : Lexes place (' ' :: cs) ts := by
  have blank : ∀ c ∈ [' '], Text.isGap c = true := by decide
  exact lexes.gap blank

theorem State.place_of_run (taken : s.run ts = some next) :
    next.due.place = s.due.place.after ts := by
  induction ts generalizing s with
  | nil =>
    cases taken
    rfl
  | cons t ts ih =>
    obtain ⟨between, first, later⟩ := Option.bind_eq_some_iff.mp taken
    rw [ih later, place_of_step first]
    rfl

theorem Derives.place_after (derived : Derives ts e) : Place.operand.after ts = .connective := by
  obtain ⟨s, taken, ended⟩ := Option.bind_eq_some_iff.mp (State.result_of_derives derived)
  have behind := State.place_of_run taken
  rw [show State.start.due.place = .operand from rfl] at behind
  rw [← behind]
  unfold State.result? at ended
  split at ended
  · rename_i due _
    rw [due]
    rfl
  · cases ended

theorem parse_of_derives {text : String} (lexes : Lexes .operand (Text.trim text.toList) ts)
    (derived : Derives ts e) : parse text = .ok e :=
  (parse_eq_ok_iff text).mpr ⟨ts, lexes, State.result_of_derives derived⟩

theorem derives_of_parse {text : String} (parsed : parse text = .ok e) :
    ∃ ts, Lexes .operand (Text.trim text.toList) ts ∧ Derives ts e := by
  obtain ⟨ts, lexes, read⟩ := (parse_eq_ok_iff text).mp parsed
  exact ⟨ts, lexes, (State.result_eq_some_iff lexes.numeric).mp read⟩

end BondQuery.Syntax
