import BondQuery.Proofs.Openings
import BondQuery.Proofs.ViablePrefixes

/- Where a text is found to be no expression. Reading stops at the first place where no token that
   may follow the ones before it matches, and the error names that place. A text that only stops
   too early is reported at its last token, as the end of the text. -/
namespace BondQuery.Syntax
open Text

variable {text cs rest left a b : List Char} {place : Place} {position : Position} {s next : State}
  {t : Token} {ts us before : List Token} {e : Expression} {fault : SyntaxFault}

/- Lines and columns. -/

theorem eq_nil_of_after (same : Position.after (a ++ b) = Position.after a) : b = [] := by
  rw [Position.after, Position.after, Position.mk.injEq] at same
  obtain ⟨lines, columns⟩ := same
  -- The same line, so `b` has no line break and would add its length to the column.
  rw [List.count_append] at lines
  have unbroken : '\n' ∉ b := List.count_eq_zero.mp (by omega)
  have oneLine : ∀ c ∈ b.reverse, (c != '\n') = true := by
    intro c member
    simpa using fun same : c = '\n' => unbroken (same ▸ List.mem_reverse.mp member)
  rw [List.reverse_append, List.takeWhile_append_of_pos oneLine, List.length_append,
    List.length_reverse] at columns
  exact List.length_eq_zero_iff.mp (by omega)

theorem ofEnding_append (a b : List Char) : Position.ofEnding (a ++ b) b = .after a := by
  simp [Position.ofEnding]

theorem ofEnding_inj (first : a <:+ text) (second : b <:+ text)
    (same : Position.ofEnding text a = Position.ofEnding text b) : a = b := by
  obtain ⟨x, rfl⟩ := first
  obtain ⟨y, split⟩ := second
  rw [ofEnding_append, ← split, ofEnding_append] at same
  rcases List.append_eq_append_iff.mp split with ⟨more, rfl, rfl⟩ | ⟨more, rfl, rfl⟩
  · rw [eq_nil_of_after same, List.nil_append]
  · rw [eq_nil_of_after same.symm, List.nil_append]

/- The tokens in front of a place. -/

theorem opens_cons_iff : Opens place cs (t :: ts) left ↔
    ∃ rest, scan place.context (skipGaps cs) = some (t, rest) ∧ Opens (place.next t) rest ts left := by
  constructor
  · intro opens
    obtain _ | ⟨blank, fits, behind⟩ := opens
    exact ⟨_, scan_eq_some_iff.mpr ⟨dropWhile_gap blank fits, fits⟩, behind⟩
  · intro found
    obtain ⟨rest, scanned, behind⟩ := found
    exact opens_of_scan scanned behind

theorem Opens.suffix (opens : Opens place cs ts left) : left <:+ cs := by
  induction opens with
  | none => exact List.suffix_rfl
  | token _ _ _ ih => exact (ih.trans (List.suffix_append _ _)).trans (List.suffix_append _ _)

theorem Opens.length_lt (opens : Opens place cs (t :: ts) left) :
    (skipGaps left).length < (skipGaps cs).length := by
  obtain ⟨rest, scanned, behind⟩ := opens_cons_iff.mp opens
  have shorter := length_lt_of_scan scanned
  have within := behind.suffix.length_le
  have skipped := length_skipGaps_le left
  omega

theorem Opens.unique (first : Opens place cs ts a) (second : Opens place cs us b)
    (same : skipGaps a = skipGaps b) : ts = us := by
  -- Each token takes some characters, so sequences up to one place are equally long.
  induction ts generalizing place cs us with
  | nil =>
    obtain ⟨⟩ := first
    cases us with
    | nil => rfl
    | cons u us =>
      have shorter := second.length_lt
      rw [same] at shorter
      omega
  | cons t ts ih =>
    cases us with
    | nil =>
      obtain ⟨⟩ := second
      have shorter := first.length_lt
      rw [same] at shorter
      omega
    | cons u us =>
      obtain ⟨rest, scanned, behind⟩ := opens_cons_iff.mp first
      obtain ⟨other, again, later⟩ := opens_cons_iff.mp second
      rw [scanned] at again
      cases again
      rw [ih behind later]

theorem Opens.numeric (opens : Opens place cs ts left) : ∀ t ∈ ts, State.Numeric t := by
  induction opens with
  | none => simp
  | token _ fits _ ih =>
    refine List.forall_mem_cons.mpr ⟨?_, ih⟩
    rintro text rfl
    exact fits.numeral

/-- The tokens of a text in front of a line and column, and what the text goes on with there. -/
def Precede (text : List Char) (position : Position) (before : List Token) (left : List Char) : Prop :=
  ∃ rest, Opens .operand text before rest ∧ left = skipGaps rest ∧ position = .ofEnding text left

theorem Precede.unique {other : List Token} (first : Precede text position before a)
    (second : Precede text position other b) : before = other ∧ a = b := by
  obtain ⟨rest, opens, rfl, rfl⟩ := first
  obtain ⟨behind, again, rfl, same⟩ := second
  have equal := ofEnding_inj ((List.dropWhile_suffix _).trans opens.suffix)
    ((List.dropWhile_suffix _).trans again.suffix) same
  exact ⟨opens.unique again equal, equal⟩

/- Reading up to an error. -/

def SyntaxFault.place? : SyntaxFault → Option Position
  | empty => none
  | unexpectedToken _ _ position _ => some position
  | unexpectedCharacter _ position => some position

def SyntaxFault.AtEnd : SyntaxFault → Prop
  | unexpectedToken .endOfText _ _ _ => True
  | _ => False

theorem not_atEnd_of_token (t : Token) (lexeme : List Char) (position : Position)
    (expected : List Terminal) : ¬ (SyntaxFault.unexpectedToken t.terminal lexeme position expected).AtEnd := by
  cases t <;> exact id

theorem stuck_of_error {last : List Char} (failed : readFrom text s last cs = .error fault)
    (within : ¬ fault.AtEnd) :
    ∃ ts rest halt, Opens s.due.place cs ts rest ∧ s.run ts = some halt ∧
      halt.Stuck (skipGaps rest) ∧ skipGaps rest ≠ [] ∧
      fault.place? = some (.ofEnding text (skipGaps rest)) := by
  fun_induction readFrom text s last cs with
  | case1 => cases failed
  | case2 =>
    cases failed
    exact absurd trivial within
  | case3 s last cs c more atToken t after scanned next taken ih =>
    obtain ⟨ts, rest, halt, opens, run, stuck⟩ := ih failed
    rw [State.place_of_step taken] at opens
    rw [← s.due.context_place, ← atToken] at scanned
    exact ⟨t :: ts, rest, halt, opens_of_scan scanned opens, by simpa [taken] using run, stuck⟩
  | case4 s last cs c more atToken t after scanned refused =>
    cases failed
    rw [← atToken] at scanned
    exact ⟨[], cs, s, .none, rfl, State.stuck_of_refused scanned refused, by simp [atToken],
      by rw [atToken]; rfl⟩
  | case5 s last cs c more atToken unscanned | case6 s last cs c more atToken unscanned =>
    cases failed
    rw [← atToken] at unscanned
    exact ⟨[], cs, s, .none, rfl, State.stuck_of_unscanned unscanned, by simp [atToken],
      by rw [atToken]; rfl⟩

/-- An error at the end of the text comes behind tokens that are all taken, and is reported where
    the last of them begins. -/
theorem end_of_error {last : List Char} (failed : readFrom text s last cs = .error fault)
    (ended : fault.AtEnd) :
    ∃ ts halt, Lexes s.due.place cs ts ∧ s.run ts = some halt ∧ halt.result? = none ∧
      (ts ≠ [] → ∃ before t rest, ts = before ++ [t] ∧ Opens s.due.place cs before rest ∧
        fault.place? = some (.ofEnding text (skipGaps rest))) ∧
      (ts = [] → fault.place? = some (.ofEnding text last)) := by
  fun_induction readFrom text s last cs with
  | case1 => cases failed
  | case2 s last cs onlyGap unfinished =>
    cases failed
    exact ⟨[], s, lexes_nil_iff.mpr onlyGap, rfl, unfinished, fun some => absurd rfl some,
      fun _ => rfl⟩
  | case3 s last cs c more atToken t after scanned next taken ih =>
    obtain ⟨ts, halt, lexes, run, unfinished, later, first⟩ := ih failed
    rw [State.place_of_step taken] at lexes later
    rw [← s.due.context_place, ← atToken] at scanned
    refine ⟨t :: ts, halt, lexes_cons_iff.mpr ⟨after, scanned, lexes⟩, by simpa [taken] using run,
      unfinished, fun _ => ?_, fun none => absurd none (List.cons_ne_nil t ts)⟩
    by_cases none : ts = []
    · refine ⟨[], t, cs, by rw [none]; rfl, .none, ?_⟩
      rw [first none, atToken]
    · obtain ⟨before, u, rest, rfl, opens, reported⟩ := later none
      exact ⟨t :: before, u, rest, rfl, opens_of_scan scanned opens, reported⟩
  | case4 s last cs c more atToken t =>
    cases failed
    exact absurd ended (not_atEnd_of_token t _ _ _)
  | case5 s last cs c more atToken unscanned t =>
    cases failed
    exact absurd ended (not_atEnd_of_token t _ _ _)
  | case6 =>
    cases failed
    exact ended.elim

/- Whole texts. -/

theorem readFrom_of_parse_error {text : String} {error : SyntaxError} (filled : trim text.toList ≠ [])
    (failed : parse text = .error error) :
    readFrom (trim text.toList) .start (trim text.toList) (trim text.toList) = .error error.fault := by
  unfold parse at failed
  split at failed
  · rename_i empty
    exact absurd empty filled
  · cases read : readFrom (trim text.toList) .start (trim text.toList) (trim text.toList) with
    | ok e =>
      rw [read] at failed
      cases failed
    | error fault =>
      rw [read] at failed
      cases failed
      rfl

theorem skipGaps_trim (cs : List Char) : skipGaps (trim cs) = trim cs := by
  have gaps : ∀ c ∈ gapChars, (!isBlank c) = false := by decide
  refine Stops.dropWhile_eq_self fun c first => isGap_eq_false (p := (!isBlank ·)) gaps ?_
  have plain : isBlank c = false := stops_trimBy isBlank cs c first
  simp [plain]

theorem earliest_within (failed : readFrom cs .start cs cs = .error fault)
    (within : ¬ fault.AtEnd) :
    ∃ position before left, fault.place? = some position ∧ Precede cs position before left ∧
      Viable before ∧ left ≠ [] ∧ ∀ terminal, Continues before terminal → ¬ terminal.Matches left := by
  obtain ⟨before, rest, halt, opens, run, stuck, filled, reported⟩ := stuck_of_error failed within
  have atStart : State.start.due.Bounded := trivial
  refine ⟨_, before, _, reported, ⟨rest, opens, rfl, rfl⟩, State.viable_of_run opens.numeric run,
    filled, ?_⟩
  intro terminal continues
  obtain ⟨t, next, rfl, taken⟩ := State.exists_step_of_continues run continues
  exact State.not_matches_of_stuck (State.bounded_of_run atStart run) stuck taken

theorem unfinished_at_end (filled : skipGaps cs ≠ []) (failed : readFrom cs .start cs cs = .error fault)
    (ended : fault.AtEnd) :
    ∃ position before left t, fault.place? = some position ∧ Precede cs position before left ∧
      Viable before ∧ Lexes .operand cs (before ++ [t]) ∧ Viable (before ++ [t]) ∧
      ¬ ∃ e, Derives (before ++ [t]) e := by
  obtain ⟨ts, halt, lexes, run, unfinished, later, _⟩ := end_of_error failed ended
  have some : ts ≠ [] := by
    rintro rfl
    exact filled (lexes_nil_iff.mp lexes)
  obtain ⟨before, t, rest, rfl, opens, reported⟩ := later some
  have viable := State.viable_of_run lexes.numeric run
  rw [State.run_append] at run
  obtain ⟨between, first, last⟩ := Option.bind_eq_some_iff.mp run
  refine ⟨_, before, _, t, reported, ⟨rest, opens, rfl, rfl⟩,
    State.viable_of_run opens.numeric first, lexes, viable, ?_⟩
  intro derived
  obtain ⟨e, derived⟩ := derived
  have read := State.result_of_derives derived
  rw [State.run_append, first, Option.bind_some, last, Option.bind_some, unfinished] at read
  cases read

theorem Fits.pattern {context : Context} (fits : Fits context t rest) : t.Pattern rest := by
  cases t with
  | field =>
    cases context with
    | operand => exact fits.1
    | _ => cases fits
  | spatial =>
    cases context with
    | operand => exact fits
    | _ => cases fits
  | existence =>
    cases context with
    | relation => exact fits
    | _ => cases fits
  | quotedValue =>
    cases context with
    | value => exact fits
    | _ => cases fits
  | bareValue =>
    cases context with
    | value => exact ⟨fits.1, fits.2.1⟩
    | _ => cases fits
  | number => exact fits.numeral
  | _ => trivial

theorem continues_of_viable (viable : Viable (before ++ t :: ts)) : Continues before t.terminal := by
  obtain ⟨us, e, _, derived⟩ := viable
  exact ⟨t, ts ++ us, e, rfl, by simpa using derived⟩

theorem exists_continuation (lexes : Lexes .operand cs ts) (viable : Viable ts)
    (precede : Precede cs position before left) (filled : left ≠ []) :
    ∃ terminal, Continues before terminal ∧ terminal.Matches left := by
  obtain ⟨rest, opens, rfl, _⟩ := precede
  obtain ⟨behind, rfl, others⟩ := opens.rest lexes
  cases behind with
  | nil => exact absurd (lexes_nil_iff.mp others) filled
  | cons t more =>
    obtain ⟨after, scanned, _⟩ := lexes_cons_iff.mp others
    obtain ⟨split, fits⟩ := scan_eq_some_iff.mp scanned
    exact ⟨t.terminal, continues_of_viable viable, t, after, rfl, split, fits.pattern⟩

/-- A text that is not blank and no expression is refused at the earliest place. The tokens before
    the line and column reported are a viable prefix. Within the text no kind of token that could
    follow them matches there. The end of the text is reported, at its last token, exactly if the
    text is all tokens of a viable prefix; they are no expression then. -/
theorem errors_stand_at_the_earliest_place {text : String} {error : SyntaxError}
    (filled : trim text.toList ≠ []) (failed : parse text = .error error) :
    ∃ position, error.fault.place? = some position ∧
      (∃ before left, Precede (trim text.toList) position before left) ∧
      (∀ before left, Precede (trim text.toList) position before left →
        Viable before ∧
        (¬ error.fault.AtEnd →
          left ≠ [] ∧ ∀ terminal, Continues before terminal → ¬ terminal.Matches left) ∧
        (error.fault.AtEnd → ∃ t, Lexes .operand (trim text.toList) (before ++ [t]) ∧
          Viable (before ++ [t]) ∧ ¬ ∃ e, Derives (before ++ [t]) e)) ∧
      (error.fault.AtEnd ↔ ∃ ts, Lexes .operand (trim text.toList) ts ∧ Viable ts) := by
  have read := readFrom_of_parse_error filled failed
  by_cases ended : error.fault.AtEnd
  · rw [← skipGaps_trim] at filled
    obtain ⟨position, before, left, t, reported, precede, viable, lexes, unfinished⟩ :=
      unfinished_at_end filled read ended
    refine ⟨position, reported, ⟨before, left, precede⟩, ?_, iff_of_true ended ⟨_, lexes, unfinished.1⟩⟩
    intro other more again
    obtain ⟨rfl, rfl⟩ := precede.unique again
    exact ⟨viable, fun within => absurd ended within, fun _ => ⟨t, lexes, unfinished⟩⟩
  · obtain ⟨position, before, left, reported, precede, viable, nonempty, none⟩ :=
      earliest_within read ended
    refine ⟨position, reported, ⟨before, left, precede⟩, ?_, iff_of_false ended ?_⟩
    · intro other more again
      obtain ⟨rfl, rfl⟩ := precede.unique again
      exact ⟨viable, fun _ => ⟨nonempty, none⟩, fun atEnd => absurd atEnd ended⟩
    · intro all
      obtain ⟨ts, lexes, completed⟩ := all
      obtain ⟨terminal, continues, found⟩ := exists_continuation lexes completed precede nonempty
      exact none terminal continues found

example : parse "title =" = .error ⟨"title =",
    .unexpectedToken .endOfText [] ⟨1, 7⟩ [.bareValue, .quotedValue]⟩ := by
  with_unfolding_all rfl

/- Two predicates without a connective between them. -/

def unjoinedText : String :=
  "(title = Ocean\n  keyword = sea)"

def unjoinedTokens : List Token :=
  [.leftParen, .field ['t', 'i', 't', 'l', 'e'], .comparison .equal,
    .bareValue ['O', 'c', 'e', 'a', 'n']]

def unjoinedRest : List Char :=
  ['k', 'e', 'y', 'w', 'o', 'r', 'd', ' ', '=', ' ', 's', 'e', 'a', ')']

theorem parse_unjoined : parse unjoinedText = .error ⟨unjoinedText,
    .unexpectedToken .field ['k', 'e', 'y', 'w', 'o', 'r', 'd'] ⟨2, 3⟩ [.and, .or, .rightParen]⟩ := by
  with_unfolding_all rfl

theorem precede_unjoined : Precede (trim unjoinedText.toList) ⟨2, 3⟩ unjoinedTokens unjoinedRest := by
  have text : trim unjoinedText.toList = "(title = Ocean\n  keyword = sea)".toList := by
    decide +kernel
  rw [text]
  refine ⟨'\n' :: ' ' :: ' ' :: unjoinedRest, ?_, by decide, by decide⟩
  exact opens_of_scan rfl (opens_of_scan rfl (opens_of_scan rfl (opens_of_scan rfl .none)))

theorem second_predicate_refused :
    trim unjoinedText.toList ≠ [] ∧
      parse unjoinedText = .error ⟨unjoinedText,
        .unexpectedToken .field ['k', 'e', 'y', 'w', 'o', 'r', 'd'] ⟨2, 3⟩ [.and, .or, .rightParen]⟩ ∧
      Precede (trim unjoinedText.toList) ⟨2, 3⟩ unjoinedTokens unjoinedRest ∧
      Viable unjoinedTokens ∧
      ∀ terminal, Continues unjoinedTokens terminal → ¬ terminal.Matches unjoinedRest := by
  have filled : trim unjoinedText.toList ≠ [] := by decide +kernel
  obtain ⟨position, reported, _, places, _⟩ :=
    errors_stand_at_the_earliest_place filled parse_unjoined
  cases reported
  obtain ⟨viable, within, _⟩ := places _ _ precede_unjoined
  exact ⟨filled, parse_unjoined, precede_unjoined, viable, (within id).2⟩

end BondQuery.Syntax
