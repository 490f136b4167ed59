import BondQuery.Proofs.ExpressionGrammar
import BondQuery.Proofs.Lexing

/- Reading a whole text. The reader finds in its states exactly the tokens that the places of the
   text ask for, so it accepts a text exactly if these are the tokens of an expression. -/
namespace BondQuery.Syntax
open Text

def Due.place : Due → Place
  | operand => .operand
  | relation _ => .relation
  | value _ _ => .value
  | connective _ => .connective
  | extent _ => .extent
  | degree _ read => .degree read.length
  | separator _ read => .separator read.length

variable {place : Place} {cs rest : List Char} {s next : State} {t : Token} {ts : List Token}
  {e : Expression}

/- The tokens of a text are those the scanner finds one behind the other. -/

theorem lexes_nil_iff : Lexes place cs [] ↔ skipGaps cs = [] := by
  constructor
  · rintro ⟨blank⟩
    exact List.dropWhile_eq_nil_iff.mpr blank
  · intro onlyGap
    exact .done (List.dropWhile_eq_nil_iff.mp onlyGap)

theorem lexes_cons_iff : Lexes place cs (t :: ts) ↔
    ∃ rest, scan place.context (skipGaps cs) = some (t, rest) ∧ Lexes (place.next t) rest ts := by
  constructor
  · rintro (_ | ⟨blank, fits, behind⟩)
    refine ⟨_, scan_eq_some_iff.mpr ⟨dropWhile_gap blank fits, fits⟩, behind⟩
  · rintro ⟨rest, scanned, behind⟩
    obtain ⟨split, fits⟩ := scan_eq_some_iff.mp scanned
    rw [← List.takeWhile_append_dropWhile (p := isGap) (l := cs), show cs.dropWhile isGap = _ from split]
    exact .token (fun c => List.mem_takeWhile_imp) fits behind

theorem scan_nil (context : Context) : scan context [] = none := by
  rw [Option.eq_none_iff_forall_ne_some]
  rintro ⟨t, rest⟩ scanned
  have shorter := length_lt_of_scan scanned
  simp at shorter

theorem lexes_of_onlyGap (onlyGap : skipGaps cs = []) : Lexes place cs ts ↔ ts = [] := by
  cases ts with
  | nil => exact iff_of_true (lexes_nil_iff.mpr onlyGap) rfl
  | cons t ts =>
    rw [lexes_cons_iff, onlyGap, scan_nil]
    simp

theorem lexes_of_scanned (scanned : scan place.context (skipGaps cs) = some (t, rest)) :
    Lexes place cs ts ↔ ∃ us, ts = t :: us ∧ Lexes (place.next t) rest us := by
  cases ts with
  | nil =>
    have nonempty : skipGaps cs ≠ [] := by
      intro onlyGap
      rw [onlyGap, scan_nil] at scanned
      cases scanned
    simp [lexes_nil_iff, nonempty]
  | cons u us =>
    rw [lexes_cons_iff, scanned]
    constructor
    · rintro ⟨_, same, behind⟩
      cases same
      exact ⟨us, rfl, behind⟩
    · rintro ⟨_, same, behind⟩
      cases same
      exact ⟨rest, rfl, behind⟩

theorem not_lexes_of_unscanned (nonempty : skipGaps cs ≠ [])
    (unscanned : scan place.context (skipGaps cs) = none) : ¬ Lexes place cs ts := by
  cases ts with
  | nil => exact fun lexes => nonempty (lexes_nil_iff.mp lexes)
  | cons t ts => simp [lexes_cons_iff, unscanned]

theorem Lexes.unique {us : List Token} (first : Lexes place cs ts) (second : Lexes place cs us) :
    ts = us := by
  induction ts generalizing place cs us with
  | nil => exact ((lexes_of_onlyGap (lexes_nil_iff.mp first)).mp second).symm
  | cons t ts ih =>
    obtain ⟨rest, scanned, behind⟩ := lexes_cons_iff.mp first
    obtain ⟨others, rfl, other⟩ := (lexes_of_scanned scanned).mp second
    rw [ih behind other]

/- The reader takes them in its states. -/

theorem Due.context_place (due : Due) : due.place.context = due.context := by
  cases due <;> rfl

theorem State.place_of_step (taken : s.step t = some next) : next.due.place = s.due.place.next t := by
  cases moves_of_step taken with
  | number => simp [Due.place, Place.next]
  | value _ _ written => cases written <;> rfl
  | _ => rfl

/-- A text is read from a state exactly if its tokens are taken one behind the other and it may
    end behind the last. -/
theorem readFrom_eq_ok_iff (text : List Char) (s : State) (last cs : List Char) :
    readFrom text s last cs = .ok e ↔
      ∃ ts, Lexes s.due.place cs ts ∧ (s.run ts).bind State.result? = some e := by
  fun_induction readFrom text s last cs with
  | case1 s last cs onlyGap expression ended =>
    simp [lexes_of_onlyGap onlyGap, ended]
  | case2 s last cs onlyGap unfinished =>
    simp [lexes_of_onlyGap onlyGap, unfinished]
  | case3 s last cs c rest atToken t after scanned next taken ih =>
    rw [← atToken, ← s.due.context_place] at scanned
    simp only [ih, lexes_of_scanned scanned, State.place_of_step taken]
    constructor
    · rintro ⟨us, behind, read⟩
      exact ⟨t :: us, ⟨us, rfl, behind⟩, by simpa [taken] using read⟩
    · rintro ⟨_, ⟨us, rfl, behind⟩, read⟩
      exact ⟨us, behind, by simpa [taken] using read⟩
  | case4 s last cs c rest atToken t after scanned refused =>
    rw [← atToken, ← s.due.context_place] at scanned
    refine iff_of_false (by simp) ?_
    rintro ⟨ts, lexes, read⟩
    obtain ⟨us, rfl, _⟩ := (lexes_of_scanned scanned).mp lexes
    simp [refused] at read
  | case5 s last cs c rest atToken unscanned | case6 s last cs c rest atToken unscanned =>
    rw [← atToken, ← s.due.context_place] at unscanned
    simp [not_lexes_of_unscanned (by simp [atToken]) unscanned]

theorem Lexes.numeric (lexes : Lexes place cs ts) : ∀ t ∈ ts, State.Numeric t := by
  induction lexes with
  | done => simp
  | token _ fits _ ih =>
    rintro u (_ | ⟨_, member⟩)
    · rintro text rfl
      exact fits.numeral
    · exact ih u member

theorem parse_eq_ok_iff (text : String) :
    parse text = .ok e ↔
      ∃ ts, Lexes .operand (trim text.toList) ts ∧ (State.start.run ts).bind State.result? = some e := by
  have read := readFrom_eq_ok_iff (e := e) (trim text.toList) .start (trim text.toList)
    (trim text.toList)
  rw [show State.start.due.place = .operand from rfl] at read
  rw [← read]
  unfold parse
  split
  · rename_i empty
    rw [empty]
    simp [readFrom, skipGaps, State.result?, State.start]
  · cases readFrom (trim text.toList) .start (trim text.toList) (trim text.toList) <;>
      simp [Except.mapError]

theorem text_of_parse_error {text : String} {error : SyntaxError} (failed : parse text = .error error) :
    error.text = String.ofList (trim text.toList) := by
  unfold parse at failed
  split at failed
  · rename_i empty
    cases failed
    rw [empty]
  · cases read : readFrom (trim text.toList) .start (trim text.toList) (trim text.toList) with
    | ok e =>
      rw [read] at failed
      cases failed
    | error fault =>
      rw [read] at failed
      cases failed
      rfl

/-- A text is read as an expression exactly if the trimmed text is all tokens of a derivation with
    that tree. Every other text is refused, with an error that names it. -/
theorem parse_accepts_exactly_its_grammar (text : String) :
    (∀ e, parse text = .ok e ↔ ∃ ts, Lexes .operand (trim text.toList) ts ∧ Derives ts e) ∧
    ((∃ fault, parse text = .error ⟨String.ofList (trim text.toList), fault⟩) ↔
      ¬ ∃ e ts, Lexes .operand (trim text.toList) ts ∧ Derives ts e) := by
  have accepts (e : Expression) :
      parse text = .ok e ↔ ∃ ts, Lexes .operand (trim text.toList) ts ∧ Derives ts e := by
    rw [parse_eq_ok_iff]
    refine exists_congr fun ts => and_congr_right fun lexes => ?_
    exact State.result_eq_some_iff lexes.numeric
  refine ⟨accepts, ?_⟩
  simp only [← accepts]
  cases parsed : parse text with
  | ok e => simp
  | error error =>
    have named := text_of_parse_error parsed
    refine iff_of_true ⟨error.fault, ?_⟩ (by simp)
    rw [← named]

/- Operands at three levels, and a text in which the operator is missing. -/

def surveyWest : Numeral := .integer .minus ['1', '0'] (by decide) (by decide)
def surveySouth : Numeral := .integer .none ['3', '0'] (by decide) (by decide)
def surveyEast : Numeral := .integer .plus ['2', '0'] (by decide) (by decide)
def surveyNorth : Numeral := .integer .none ['5', '0'] (by decide) (by decide)

def surveyExtent : Extent :=
  ⟨.double surveyWest.value, .double surveySouth.value, .double surveyEast.value,
    .double surveyNorth.value⟩

def survey : String :=
  "NOT _a.b2 = x,y!\tOR subject != \"a \\\"b\\\" \\\\\" AND (creationDate >= 2001
    OR BBOXES MISSING) AND CONTAINS(-10, 30, +20, 50)"

def surveyExpression : Expression :=
  .logical .or [
    .logical .not [.bond ⟨"_a.b2", .text⟩ .equal "x,y!"],
    .logical .and [
      .bond ⟨"subject", .text⟩ .notEqual "a \"b\" \\",
      .logical .or [
        .bond ⟨"creationDate", .date⟩ .greaterOrEqual "2001",
        .bond ⟨"BBOXES", .text⟩ .notExists ""],
      .spatial ⟨"bbox", .text⟩ .contains surveyExtent]]

def unrelated : String :=
  " title Ocean"

set_option maxRecDepth 2000 in
theorem parse_survey : parse survey = .ok surveyExpression := by with_unfolding_all rfl

theorem parse_unrelated : parse unrelated = .error ⟨"title Ocean",
    .unexpectedToken .field ['O', 'c', 'e', 'a', 'n'] ⟨1, 7⟩ [.comparison, .existence]⟩ := by
  with_unfolding_all rfl

theorem survey_derived_and_unrelated_refused :
    (parse survey = .ok surveyExpression ∧
      ∃ ts, Lexes .operand (trim survey.toList) ts ∧ Derives ts surveyExpression) ∧
    (∃ fault, parse unrelated = .error ⟨"title Ocean", fault⟩) ∧
      ¬ ∃ e ts, Lexes .operand (trim unrelated.toList) ts ∧ Derives ts e := by
  have accepted := (parse_accepts_exactly_its_grammar survey).1 surveyExpression
  have refused := (parse_accepts_exactly_its_grammar unrelated).2
  exact ⟨⟨parse_survey, accepted.mp parse_survey⟩, ⟨_, parse_unrelated⟩,
    refused.mp ⟨_, parse_unrelated⟩⟩

end BondQuery.Syntax
