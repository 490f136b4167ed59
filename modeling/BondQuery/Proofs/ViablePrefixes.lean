import BondQuery.Proofs.Spacing

/- Beginnings of expressions. Every state that the reader comes to can be led to the end of an
   expression, so the tokens it has taken are a viable prefix of the grammar. Where no token of
   the text is taken, no pattern of a token that the grammar allows there matches the text. -/
namespace BondQuery.Syntax
open Text

variable {context : Context} {cs rest : List Char} {s next : State} {t u : Token}
  {ts : List Token} {e : Expression} {terminal : Terminal}

/-- Some more tokens complete them to those of an expression. -/
def Viable (ts : List Token) : Prop :=
  ∃ us e, (∀ u ∈ us, u.Sound) ∧ Derives (ts ++ us) e

/-- A token of the kind may come next. -/
def Continues (ts : List Token) (terminal : Terminal) : Prop :=
  ∃ t us e, t.terminal = terminal ∧ Derives (ts ++ t :: us) e

def Token.Pattern : Token → List Char → Prop
  | field name, _ => IsFieldName name
  | existence _, rest => atBoundary rest = true
  | spatial _, rest => atBoundary rest = true
  | t, _ => t.Sound

/-- The pattern of a kind matches at the beginning of the text, whatever else does. -/
def Terminal.Matches (terminal : Terminal) (cs : List Char) : Prop :=
  ∃ (t : Token) (rest : List Char), t.terminal = terminal ∧ cs = t.lexeme ++ rest ∧ t.Pattern rest

/- Completing what is begun. -/

def Numeral.zero : Numeral :=
  .integer .none ['0'] (by decide) (by decide)

/-- The end of an extent in which so many degrees are missing. -/
def extentEnd : Nat → List Token
  | 0 => [.rightParen]
  | missing + 1 => .comma :: .number Numeral.zero.lexeme :: extentEnd missing

def Due.ending : Due → List Token
  | operand => [.field ['a'], .existence .present]
  | relation _ => [.existence .present]
  | value _ _ => [.bareValue ['a']]
  | connective _ => []
  | extent _ => .leftParen :: .number Numeral.zero.lexeme :: extentEnd 3
  | degree _ read => .number Numeral.zero.lexeme :: extentEnd (3 - read.length)
  | separator _ read => extentEnd (4 - read.length)

def State.ending (s : State) : List Token :=
  s.due.ending ++ List.replicate s.outer.length .rightParen

def Due.Bounded : Due → Prop
  | degree _ read => read.length < 4
  | separator _ read => read.length ≤ 4
  | _ => True

namespace State

theorem bounded_of_step (bounded : s.due.Bounded) (taken : s.step t = some next) :
    next.due.Bounded := by
  cases moves_of_step taken with
  | extent => exact Nat.zero_lt_succ 3
  | number word read =>
    have fewer : read.length < 4 := bounded
    show (read ++ [_]).length ≤ 4
    rw [List.length_append, List.length_singleton]
    omega
  | comma word fewer => exact fewer
  | _ => trivial

theorem bounded_of_run (bounded : s.due.Bounded) (taken : s.run ts = some next) :
    next.due.Bounded := by
  induction ts generalizing s with
  | nil =>
    cases taken
    exact bounded
  | cons t ts ih =>
    obtain ⟨between, first, later⟩ := Option.bind_eq_some_iff.mp taken
    exact ih (bounded_of_step bounded first) later

theorem exists_four {read : List Double} (four : read.length = 4) :
    ∃ west south east north, read = [west, south, east, north] := by
  obtain ⟨west, more, rfl⟩ := List.exists_cons_of_length_eq_add_one four
  obtain ⟨south, east, north, rfl⟩ := List.length_eq_three.mp (Nat.succ.inj four)
  exact ⟨west, south, east, north, rfl⟩

theorem run_extentEnd (word : SpatialWord) (level : Level) (outer : List Level) {read : List Double}
    {missing : Nat} (four : read.length + missing = 4) :
    ∃ e, run ⟨.separator word read, level, outer⟩ (extentEnd missing) =
      some (complete ⟨.operand, level, outer⟩ e) := by
  induction missing generalizing read with
  | zero =>
    obtain ⟨west, south, east, north, rfl⟩ := exists_four four
    exact ⟨_, rfl⟩
  | succ missing ih =>
    have fewer : read.length < 4 := by omega
    have longer : (read ++ [Numeral.zero.value]).length + missing = 4 := by
      rw [List.length_append, List.length_singleton]
      omega
    obtain ⟨e, ended⟩ := ih longer
    refine ⟨e, ?_⟩
    simpa [extentEnd, step, fewer, readDouble?_lexeme] using ended

theorem run_degrees (word : SpatialWord) (level : Level) (outer : List Level) {read : List Double}
    (fewer : read.length < 4) :
    ∃ e, run ⟨.degree word read, level, outer⟩ (Due.degree word read).ending =
      some (complete ⟨.operand, level, outer⟩ e) := by
  have four : (read ++ [Numeral.zero.value]).length + (3 - read.length) = 4 := by
    rw [List.length_append, List.length_singleton]
    omega
  obtain ⟨e, ended⟩ := run_extentEnd word level outer four
  refine ⟨e, ?_⟩
  simpa [Due.ending, step, readDouble?_lexeme] using ended

theorem run_ending (bounded : s.due.Bounded) :
    ∃ e level, s.run s.due.ending = some ⟨.connective e, level, s.outer⟩ := by
  obtain ⟨due, level, outer⟩ := s
  cases due with
  | operand | relation | value | connective => exact ⟨_, _, rfl⟩
  | extent word =>
    have none : ([] : List Double).length < 4 := by decide
    obtain ⟨e, ended⟩ := run_degrees word level outer none
    exact ⟨_, _, ended⟩
  | degree word read =>
    obtain ⟨e, ended⟩ := run_degrees word level outer bounded
    exact ⟨_, _, ended⟩
  | separator word read =>
    have four : read.length + (4 - read.length) = 4 := Nat.add_sub_of_le bounded
    obtain ⟨e, ended⟩ := run_extentEnd word level outer four
    exact ⟨_, _, ended⟩

theorem run_closings (e : Expression) (level : Level) (outer : List Level) :
    ∃ f, (run ⟨.connective e, level, outer⟩ (List.replicate outer.length .rightParen)).bind
      result? = some f := by
  induction outer generalizing e level with
  | nil => exact ⟨_, rfl⟩
  | cons enclosing outer ih => exact ih _ _

theorem run_end (bounded : s.due.Bounded) : ∃ e, (s.run s.ending).bind result? = some e := by
  obtain ⟨e, level, ended⟩ := run_ending bounded
  obtain ⟨f, closed⟩ := run_closings e level s.outer
  refine ⟨f, ?_⟩
  rw [ending, run_append, ended]
  exact closed

theorem sound_zero : (Token.number Numeral.zero.lexeme).Sound :=
  ⟨.zero, rfl⟩

theorem sound_extentEnd (missing : Nat) : ∀ t ∈ extentEnd missing, t.Sound := by
  induction missing with
  | zero => exact List.forall_mem_singleton.mpr trivial
  | succ missing ih =>
    exact List.forall_mem_cons.mpr ⟨trivial, List.forall_mem_cons.mpr ⟨sound_zero, ih⟩⟩

theorem sound_ending (s : State) : ∀ t ∈ s.ending, t.Sound := by
  have free : FreeName ['a'] := by
    refine ⟨⟨'a', [], rfl, by decide, by decide⟩, by decide, not_beginsSpatial fun word => ?_⟩
    cases word <;> decide
  have due : ∀ t ∈ s.due.ending, t.Sound := by
    cases s.due with
    | operand => exact List.forall_mem_cons.mpr ⟨free, List.forall_mem_singleton.mpr trivial⟩
    | relation => exact List.forall_mem_singleton.mpr trivial
    | value => exact List.forall_mem_singleton.mpr ⟨by decide, by decide⟩
    | connective => exact fun t none => absurd none List.not_mem_nil
    | extent =>
      exact List.forall_mem_cons.mpr ⟨trivial, List.forall_mem_cons.mpr ⟨sound_zero, sound_extentEnd 3⟩⟩
    | degree => exact List.forall_mem_cons.mpr ⟨sound_zero, sound_extentEnd _⟩
    | separator => exact sound_extentEnd _
  intro t member
  rcases List.mem_append.mp member with inside | closing
  · exact due t inside
  · rw [List.eq_of_mem_replicate closing]
    trivial

theorem viable_of_run (numeric : ∀ t ∈ ts, Numeric t) (taken : start.run ts = some s) : Viable ts := by
  have atStart : start.due.Bounded := trivial
  obtain ⟨e, ended⟩ := run_end (bounded_of_run atStart taken)
  have all : ∀ t ∈ ts ++ s.ending, Numeric t := by
    intro t member
    rcases List.mem_append.mp member with inside | ending
    · exact numeric t inside
    · intro text same
      have sound := sound_ending s t ending
      rw [same] at sound
      exact sound
  refine ⟨s.ending, e, sound_ending s, (result_eq_some_iff all).mp ?_⟩
  rw [run_append, taken]
  exact ended

/- What may come next. -/

theorem exists_step_of_continues (taken : start.run ts = some s) (continues : Continues ts terminal) :
    ∃ t next, t.terminal = terminal ∧ s.step t = some next := by
  obtain ⟨t, us, e, kind, derived⟩ := continues
  have read := result_of_derives derived
  rw [run_append, taken, Option.bind_some, run_cons] at read
  obtain ⟨_, later, _⟩ := Option.bind_eq_some_iff.mp read
  obtain ⟨next, first, _⟩ := Option.bind_eq_some_iff.mp later
  exact ⟨t, next, kind, first⟩

theorem closing_of_refused (bounded : s.due.Bounded) (fits : Fits s.due.context t rest)
    (refused : s.step t = none) : t = .rightParen ∧ s.outer = [] ∧ ∃ e, s.due = .connective e := by
  obtain ⟨due, level, outer⟩ := s
  cases due with
  | operand =>
    cases t with
    | spatial | field | not | leftParen => cases refused
    | _ => cases fits
  | relation =>
    cases t with
    | comparison | existence => cases refused
    | _ => cases fits
  | value =>
    cases t with
    | quotedValue | bareValue => cases refused
    | _ => cases fits
  | extent =>
    cases t with
    | leftParen => cases refused
    | _ => cases fits
  | connective e =>
    cases t with
    | rightParen =>
      cases outer with
      | nil => exact ⟨rfl, rfl, e, rfl⟩
      | cons => cases refused
    | and | or => cases refused
    | _ => cases fits
  | degree word read =>
    cases t with
    | number text =>
      obtain ⟨n, rfl, _⟩ := fits
      simp [step, readDouble?_lexeme] at refused
    | _ => cases fits
  | separator word read =>
    by_cases fewer : read.length < 4
    · simp only [Due.context, fewer, if_true] at fits
      cases t with
      | comma => simp [step, fewer] at refused
      | _ => cases fits
    · simp only [Due.context, fewer, if_false] at fits
      have atMost : read.length ≤ 4 := bounded
      have four : read.length = 4 := by omega
      cases t with
      | rightParen =>
        obtain ⟨west, south, east, north, rfl⟩ := exists_four four
        cases refused
      | _ => cases fits

end State

def Context.Seeks : Context → Terminal → Prop
  | .operand, .spatial | .operand, .field | .operand, .not | .operand, .leftParen => True
  | .relation, .comparison | .relation, .existence => True
  | .value, .quotedValue | .value, .bareValue => True
  | .connective, .and | .connective, .or | .connective, .rightParen => True
  | .leftParen, .leftParen | .number, .number | .comma, .comma | .rightParen, .rightParen => True
  | _, _ => False

theorem seeks_of_moves (moves : Moves s t next) : s.due.context.Seeks t.terminal := by
  cases moves with
  | value _ _ written => cases written <;> trivial
  | comma _ fewer => simp [Due.context, fewer, Context.Seeks, Token.terminal]
  | _ => trivial

theorem scan_operand_ne_none (seeks : Context.operand.Seeks t.terminal) (pattern : t.Pattern rest) :
    scan .operand (t.lexeme ++ rest) ≠ none := by
  intro unscanned
  simp only [scan, orElse_eq_none_iff, scanSpatial_eq_none_iff] at unscanned
  obtain ⟨noSpatial, noName, noParenthesis⟩ := unscanned
  cases t with
  | spatial word => exact noSpatial ⟨word, rest, rfl, pattern⟩
  | field name =>
    obtain ⟨c, more, rfl, start, _⟩ := pattern
    simp [Token.lexeme, scanFieldOrNot, scanField, start] at noName
  | not => simp [Token.lexeme, scanFieldOrNot, scanField, isFieldStart] at noName
  | leftParen => cases noParenthesis
  | _ => cases seeks

theorem scan_relation_ne_none (seeks : Context.relation.Seeks t.terminal) (pattern : t.Pattern rest) :
    scan .relation (t.lexeme ++ rest) ≠ none := by
  intro unscanned
  simp only [scan, orElse_eq_none_iff] at unscanned
  obtain ⟨noComparison, noWord⟩ := unscanned
  cases t with
  | comparison c =>
    have found : scanFixed (.comparison c) (c.symbol ++ rest) = some (.comparison c, rest) :=
      scanFixed_eq_some_iff.mpr ⟨rfl, rfl⟩
    rw [scanComparison, List.findSome?_eq_none_iff] at noComparison
    have none := noComparison c (by cases c <;> decide)
    rw [show (Token.comparison c).lexeme = c.symbol from rfl, found] at none
    cases none
  | existence x =>
    have found : scanExistence (x.word ++ rest) = some (.existence x, rest) :=
      scanExistence_eq_some_iff.mpr ⟨x, rfl, rfl, pattern⟩
    rw [show (Token.existence x).lexeme = x.word from rfl, found] at noWord
    cases noWord
  | _ => cases seeks

theorem scan_value_ne_none (seeks : Context.value.Seeks t.terminal) (pattern : t.Pattern rest) :
    scan .value (t.lexeme ++ rest) ≠ none := by
  intro unscanned
  simp only [scan, orElse_eq_none_iff] at unscanned
  obtain ⟨noQuotes, noText⟩ := unscanned
  cases t with
  | quotedValue inner =>
    rw [scanQuoted_eq_some_iff.mpr ⟨inner, rfl, rfl, pattern⟩] at noQuotes
    cases noQuotes
  | bareValue text =>
    obtain ⟨nonempty, all⟩ := pattern
    obtain ⟨c, more, rfl⟩ := List.exists_cons_of_ne_nil nonempty
    simp [Token.lexeme, scanBare, all c List.mem_cons_self] at noText
  | _ => cases seeks

theorem scan_ne_none (seeks : context.Seeks t.terminal) (pattern : t.Pattern rest) :
    scan context (t.lexeme ++ rest) ≠ none := by
  cases context with
  | operand => exact scan_operand_ne_none seeks pattern
  | relation => exact scan_relation_ne_none seeks pattern
  | value => exact scan_value_ne_none seeks pattern
  | number =>
    cases t with
    | number text =>
      obtain ⟨n, rfl⟩ := pattern
      obtain ⟨_, _, found, _⟩ := scanNumber_of_numeral n rest
      rw [scan, show (Token.number n.lexeme).lexeme = n.lexeme from rfl, found]
      exact Option.some_ne_none _
    | _ => cases seeks
  | connective =>
    cases t with
    | and | or | rightParen => exact Option.some_ne_none _
    | _ => cases seeks
  | leftParen | comma | rightParen =>
    cases t with
    | leftParen | comma | rightParen => first | exact Option.some_ne_none _ | cases seeks
    | _ => cases seeks

/-- No token of the text is taken: none is found in its place, or the one found is refused. -/
def State.Stuck (s : State) (cs : List Char) : Prop :=
  ∀ t rest, scan s.due.context cs = some (t, rest) → s.step t = none

theorem State.stuck_of_unscanned (unscanned : scan s.due.context cs = none) : s.Stuck cs := by
  intro t rest found
  rw [unscanned] at found
  cases found

theorem State.stuck_of_refused (scanned : scan s.due.context cs = some (t, rest))
    (refused : s.step t = none) : s.Stuck cs := by
  intro u behind found
  rw [scanned] at found
  cases found
  exact refused

/-- Where no token is taken, no kind that could be taken matches. -/
theorem State.not_matches_of_stuck (bounded : s.due.Bounded) (stuck : s.Stuck cs)
    (taken : s.step t = some next) : ¬ t.terminal.Matches cs := by
  intro found
  obtain ⟨u, rest, kind, rfl, pattern⟩ := found
  have moves := moves_of_step taken
  have seeks := seeks_of_moves moves
  rw [← kind] at seeks
  obtain ⟨⟨v, behind⟩, scanned⟩ := Option.ne_none_iff_exists'.mp (scan_ne_none seeks pattern)
  obtain ⟨split, fits⟩ := scan_eq_some_iff.mp scanned
  obtain ⟨rfl, closed, e, due⟩ := closing_of_refused bounded fits (stuck v behind scanned)
  obtain ⟨_, level, outer⟩ := s
  cases due
  cases closed
  -- With no parenthesis open only a connective may come, and neither is written as one.
  cases moves with
  | and | or =>
    cases u with
    | and | or => cases split
    | _ => cases kind

end BondQuery.Syntax
