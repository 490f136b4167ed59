import BondQuery.Proofs.Openings
import BondQuery.Proofs.Spacing

/- Connectives as words. NOT is compared with a whole identifier, but AND and OR are looked for
   behind an operand as plain characters, so an identifier there may lose its beginning to one. -/
namespace BondQuery.Syntax
open Text

variable {place : Place} {cs rest : List Char} {k t : Token} {ts before : List Token}
  {e : Expression}

/-- The word in front ends here: no letter, digit, underscore or point comes next. -/
def EndsWord (rest : List Char) : Prop :=
  Stops isFieldChar rest

def Token.IsConnective (t : Token) : Prop :=
  t = .and ∨ t = .or ∨ t = .not

def Token.IsWord : Token → Prop
  | field _ => True
  | spatial _ => True
  | not => True
  | _ => False

theorem Opens.last (opens : Opens place cs (ts ++ [t]) rest) :
    Fits (place.after ts).context t rest := by
  induction ts generalizing place cs with
  | nil =>
    obtain _ | ⟨_, fits, behind⟩ := opens
    cases behind
    exact fits
  | cons u ts ih =>
    obtain _ | ⟨_, _, behind⟩ := opens
    exact ih behind

theorem Opens.append_token {after : List Char} (opens : Opens place cs ts (t.lexeme ++ after))
    (fits : Fits (place.after ts).context t after) : Opens place cs (ts ++ [t]) after := by
  generalize same : t.lexeme ++ after = left at opens
  induction opens with
  | none =>
    have blank : ∀ c ∈ [], isGap c = true := by simp
    rw [← same]
    exact .token blank fits .none
  | token clear here _ ih => exact .token clear here (ih fits same)

theorem next_of_connective (connective : k.IsConnective) (fits : Fits place.context k rest) :
    place.next k = .operand ∧ (k = .not → EndsWord rest) := by
  cases place with
  | operand =>
    rcases connective with rfl | rfl | rfl
    · cases fits
    · cases fits
    · exact ⟨rfl, fun _ => fits⟩
  | connective =>
    rcases connective with rfl | rfl | rfl
    · exact ⟨rfl, nofun⟩
    · exact ⟨rfl, nofun⟩
    · cases fits
  | separator read =>
    simp only [Place.context] at fits
    split at fits <;> rcases connective with rfl | rfl | rfl <;> cases fits
  | _ => rcases connective with rfl | rfl | rfl <;> cases fits

theorem place_behind_connective (connective : k.IsConnective)
    (opens : Opens place cs (ts ++ [k]) rest) : place.after (ts ++ [k]) = .operand := by
  rw [Place.after, List.foldl_append]
  exact (next_of_connective connective opens.last).1

theorem exists_token_behind (lexes : Lexes .operand cs ts) (derived : Derives ts e)
    (opens : Opens .operand cs before rest) (due : Place.operand.after before ≠ .connective) :
    ∃ t us, Lexes (Place.operand.after before) rest (t :: us) := by
  obtain ⟨us, rfl, behind⟩ := opens.rest lexes
  cases us with
  | nil =>
    rw [List.append_nil] at derived
    exact absurd derived.place_after due
  | cons t us => exact ⟨t, us, behind⟩

theorem endsWord_at {c : Char} (plain : isGap c = true ∨ c = '(') (rest : List Char) :
    EndsWord (c :: rest) := by
  apply stops_cons.mpr
  rw [Bool.eq_false_iff]
  intro member
  rcases plain with gap | rfl
  · rw [isGap_eq_false (p := isFieldChar) (by decide) member] at gap
    cases gap
  · exact absurd member (by decide)

theorem endsWord_gap {gap : List Char} (blank : ∀ c ∈ gap, isGap c = true)
    (ends : EndsWord rest) : EndsWord (gap ++ rest) := by
  cases gap with
  | nil => exact ends
  | cons c gap => exact endsWord_at (.inl (blank c List.mem_cons_self)) _

theorem Token.IsConnective.chars (connective : k.IsConnective) :
    ∀ c ∈ k.lexeme, isFieldChar c = true := by
  rcases connective with rfl | rfl | rfl <;> decide

theorem Fits.leftParen_or_word (fits : Fits .operand t rest) :
    t = .leftParen ∨ t.IsWord ∧ ∀ c ∈ t.lexeme, isFieldChar c = true := by
  cases t with
  | leftParen => exact .inl rfl
  | spatial word => exact .inr ⟨trivial, by cases word <;> decide⟩
  | not => exact .inr ⟨trivial, by decide⟩
  | field name =>
    obtain ⟨⟨c, more, rfl, start, all⟩, _⟩ := fits
    exact .inr ⟨trivial, List.forall_mem_cons.mpr ⟨isFieldChar_of_isFieldStart start, all⟩⟩
  | _ => cases fits

theorem endsWord_behind_word (lexes : Lexes .operand cs ts) (derived : Derives ts e)
    (due : Place.operand.after before = .operand) (word : t.IsWord)
    (opens : Opens .operand cs (before ++ [t]) rest) : EndsWord rest := by
  have fits := opens.last
  rw [due] at fits
  cases t with
  | field => exact fits.2.1
  | not => exact fits
  | spatial s =>
    have next : Place.operand.after (before ++ [.spatial s]) = .extent := by
      rw [Place.after, List.foldl_append, show before.foldl Place.next .operand = _ from due]
      rfl
    obtain ⟨u, us, behind⟩ := exists_token_behind lexes derived opens (by rw [next]; decide)
    rw [next] at behind
    obtain _ | ⟨blank, here, _⟩ := behind
    cases u with
    | leftParen => exact endsWord_gap blank (endsWord_at (.inr rfl) _)
    | _ => cases here
  | _ => cases word

theorem endsWord_iff_of_operand (lexes : Lexes .operand rest (t :: ts)) :
    EndsWord rest ↔ ∃ c more, rest = c :: more ∧ (isGap c = true ∨ c = '(') := by
  obtain _ | @⟨_, gap, after, _, _, blank, fits, _⟩ := lexes
  constructor
  · intro ends
    cases gap with
    | cons c gap => exact ⟨c, _, rfl, .inl (blank c List.mem_cons_self)⟩
    | nil =>
      rcases fits.leftParen_or_word with rfl | ⟨_, chars⟩
      · exact ⟨'(', after, rfl, .inr rfl⟩
      · obtain ⟨c, more, same, _⟩ := fits.head
        have outside : isFieldChar c = false := by
          rw [same] at ends
          exact stops_cons.mp ends
        rw [chars c (by simp [same])] at outside
        cases outside
  · intro apart
    obtain ⟨c, more, same, plain⟩ := apart
    rw [same]
    exact endsWord_at plain more

theorem word_of_joined (lexes : Lexes .operand rest (t :: ts)) (joined : ¬ EndsWord rest) :
    ∃ after, rest = t.lexeme ++ after ∧ Fits .operand t after ∧ t.IsWord ∧
      ∀ c ∈ t.lexeme, isFieldChar c = true := by
  obtain _ | @⟨_, gap, after, _, _, blank, fits, _⟩ := lexes
  cases gap with
  | cons c gap => exact absurd (endsWord_at (.inl (blank c List.mem_cons_self)) _) joined
  | nil =>
    rcases fits.leftParen_or_word with rfl | ⟨word, chars⟩
    · exact absurd (endsWord_at (.inr rfl) _) joined
    · exact ⟨after, rfl, fits, word, chars⟩

/-- In an accepted text NOT is always a whole word. AND and OR are whole words exactly where white
    space or a parenthesis comes next; elsewhere the identifier that they begin is split, and its
    end is a word of the operand behind. -/
theorem connective_whole_word_iff {text : String} (parsed : parse text = .ok e)
    (connective : k.IsConnective) (opens : Opens .operand (trim text.toList) (before ++ [k]) rest) :
    (k = .not → EndsWord rest) ∧
    (EndsWord rest ↔ ∃ c more, rest = c :: more ∧ (isGap c = true ∨ c = '(')) ∧
    (¬ EndsWord rest → ∃ t after,
      Opens .operand (trim text.toList) (before ++ [k, t]) after ∧ t.IsWord ∧
      rest = t.lexeme ++ after ∧
      (k.lexeme ++ rest).takeWhile isFieldChar = k.lexeme ++ t.lexeme) := by
  obtain ⟨ts, lexes, derived⟩ := derives_of_parse parsed
  have due := place_behind_connective connective opens
  obtain ⟨t, us, behind⟩ := exists_token_behind lexes derived opens (by rw [due]; decide)
  rw [due] at behind
  refine ⟨(next_of_connective connective opens.last).2, endsWord_iff_of_operand behind, ?_⟩
  intro joined
  obtain ⟨after, rfl, fits, word, chars⟩ := word_of_joined behind joined
  have longer : Opens .operand (trim text.toList) (before ++ [k] ++ [t]) after :=
    opens.append_token (by rw [due]; exact fits)
  have ends := endsWord_behind_word lexes derived due word longer
  have all : ∀ c ∈ k.lexeme ++ t.lexeme, isFieldChar c = true :=
    List.forall_mem_append.mpr ⟨connective.chars, chars⟩
  refine ⟨t, after, by simpa using longer, word, rfl, ?_⟩
  rw [← List.append_assoc, takeWhile_run all ends]

/- One identifier where a connective is due. -/

def gluedText : String :=
  "title = 1 ANDkeyword = 2"

def gluedTokens : List Token :=
  [.field ['t', 'i', 't', 'l', 'e'], .comparison .equal, .bareValue ['1']]

def gluedRest : List Char :=
  ['k', 'e', 'y', 'w', 'o', 'r', 'd', ' ', '=', ' ', '2']

theorem parse_glued : parse gluedText =
    .ok (.logical .and [.bond ⟨"title", .text⟩ .equal "1", .bond .keyword .equal "2"]) := by
  with_unfolding_all rfl

theorem opens_glued :
    Opens .operand (trim gluedText.toList) (gluedTokens ++ [.and]) gluedRest := by
  have text : trim gluedText.toList =
      "title = 1 ANDkeyword = 2".toList := by decide +kernel
  rw [text]
  exact opens_of_scan rfl (opens_of_scan rfl (opens_of_scan rfl (opens_of_scan rfl .none)))

theorem and_splits_an_identifier :
    ¬ ∀ (text : String) (e : Expression) (before : List Token) (k : Token) (rest : List Char),
      parse text = .ok e → k.IsConnective →
      Opens .operand (trim text.toList) (before ++ [k]) rest → EndsWord rest := by
  intro law
  have ends := law gluedText _ gluedTokens .and gluedRest parse_glued (.inl rfl) opens_glued
  exact absurd (stops_cons.mp ends) (by decide)

theorem andKeyword_split :
    parse gluedText =
        .ok (.logical .and [.bond ⟨"title", .text⟩ .equal "1", .bond .keyword .equal "2"]) ∧
      Opens .operand (trim gluedText.toList) (gluedTokens ++ [.and]) gluedRest ∧
      ¬ EndsWord gluedRest ∧
      ∃ t after, Opens .operand (trim gluedText.toList) (gluedTokens ++ [.and, t]) after ∧
        t.IsWord ∧ gluedRest = t.lexeme ++ after ∧
        (Token.and.lexeme ++ gluedRest).takeWhile isFieldChar = Token.and.lexeme ++ t.lexeme := by
  have joined : ¬ EndsWord gluedRest := by
    intro ends
    exact absurd (stops_cons.mp ends) (by decide)
  exact ⟨parse_glued, opens_glued, joined,
    (connective_whole_word_iff parse_glued (.inl rfl) opens_glued).2.2 joined⟩

end BondQuery.Syntax
