import BondQuery.Proofs.Numerals

/- Which tokens a text is read as. What may come next depends on the tokens before it, so the
   same word is a field, a value or a connective by its place. The rules are stated here apart
   from the scanner: what a token in its place is written with, and what may not come behind
   it. -/
namespace BondQuery.Syntax
open Text

def IsFieldName (name : List Char) : Prop :=
  ∃ c more, name = c :: more ∧ isFieldStart c = true ∧ ∀ d ∈ more, isFieldChar d = true

/-- A spatial word stands at the beginning and ends at a word boundary. -/
def BeginsSpatial (cs : List Char) : Prop :=
  ∃ (s : SpatialWord) (rest : List Char), cs = s.word ++ rest ∧ atBoundary rest = true

/-- The characters between the quotes of a value. A backslash takes the next one with it, so only
    a quote without one ends the value; a line break cannot occur. -/
inductive Quotable : List Char → Prop
  | nil : Quotable []
  | plain {c : Char} {inner : List Char} (noQuote : c ≠ '"') (noBackslash : c ≠ '\\')
      (noBreak : c ≠ '\n') (behind : Quotable inner) : Quotable (c :: inner)
  | escaped {c : Char} {inner : List Char} (noBreak : c ≠ '\n') (behind : Quotable inner) :
      Quotable ('\\' :: c :: inner)

def Comparison.Longest (c : Comparison) (rest : List Char) : Prop :=
  ∀ (d : Comparison) (after : List Char), d.symbol ++ after = c.symbol ++ rest →
    d.symbol.length ≤ c.symbol.length

/-- The tokens that are tried in a context, with the text behind them. -/
def Fits : Context → Token → List Char → Prop
  | .operand, .spatial _, rest => atBoundary rest = true
  | .operand, .field name, rest =>
    IsFieldName name ∧ Stops isFieldChar rest ∧ name ≠ Token.not.lexeme ∧
      ¬ BeginsSpatial (name ++ rest)
  | .operand, .not, rest => Stops isFieldChar rest
  | .operand, .leftParen, _ => True
  | .relation, .comparison c, rest => c.Longest rest
  | .relation, .existence _, rest => atBoundary rest = true
  | .value, .quotedValue inner, _ => Quotable inner
  | .value, .bareValue text, rest =>
    text ≠ [] ∧ (∀ c ∈ text, isBareChar c = true) ∧ Stops isBareChar rest
  | .connective, .and, _ => True
  | .connective, .or, _ => True
  | .connective, .rightParen, _ => True
  | .leftParen, .leftParen, _ => True
  | .number, .number text, rest => ∃ n : Numeral, text = n.lexeme ∧ n.Longest rest
  | .comma, .comma, _ => True
  | .rightParen, .rightParen, _ => True
  | _, _, _ => False

variable {cs rest : List Char} {t : Token}

/- Each scanner finds exactly the tokens that fit. -/

theorem strip?_eq_some_iff {word : List Char} : strip? word cs = some rest ↔ cs = word ++ rest := by
  constructor
  · exact eq_of_strip?
  · rintro rfl
    induction word with
    | nil => rfl
    | cons w word ih => simpa [strip?] using ih

theorem scanFixed_eq_some_iff {u : Token} :
    scanFixed u cs = some (t, rest) ↔ t = u ∧ cs = u.lexeme ++ rest := by
  simp only [scanFixed, Option.map_eq_some_iff, Prod.mk.injEq, strip?_eq_some_iff]
  constructor
  · rintro ⟨r, split, rfl, rfl⟩
    exact ⟨rfl, split⟩
  · rintro ⟨rfl, split⟩
    exact ⟨rest, split, rfl, rfl⟩

theorem stripWord?_eq_some_iff {word : List Char} :
    stripWord? word cs = some rest ↔ cs = word ++ rest ∧ atBoundary rest = true := by
  simp only [stripWord?, Option.filter_eq_some_iff, strip?_eq_some_iff]

theorem scanSpatial_eq_some_iff :
    scanSpatial cs = some (t, rest) ↔
      ∃ s, t = .spatial s ∧ cs = s.word ++ rest ∧ atBoundary rest = true := by
  constructor
  · intro scanned
    obtain ⟨s, _, found⟩ := List.exists_of_findSome?_eq_some scanned
    simp only [Option.map_eq_some_iff, Prod.mk.injEq, stripWord?_eq_some_iff] at found
    obtain ⟨r, ⟨split, boundary⟩, rfl, rfl⟩ := found
    exact ⟨s, rfl, split, boundary⟩
  · rintro ⟨s, rfl, rfl, boundary⟩
    -- no other spatial word begins like this one
    cases s <;> simp [scanSpatial, SpatialWord.all, SpatialWord.word, stripWord?, strip?, boundary]

theorem scanSpatial_eq_none_iff : scanSpatial cs = none ↔ ¬ BeginsSpatial cs := by
  rw [Option.eq_none_iff_forall_ne_some]
  constructor
  · rintro none ⟨s, rest, split, boundary⟩
    exact none (.spatial s, rest) (scanSpatial_eq_some_iff.mpr ⟨s, rfl, split, boundary⟩)
  · rintro none ⟨t, rest⟩ scanned
    obtain ⟨s, _, split, boundary⟩ := scanSpatial_eq_some_iff.mp scanned
    exact none ⟨s, rest, split, boundary⟩

theorem scanField_eq_some_iff :
    scanField cs = some (t, rest) ↔
      ∃ name, t = .field name ∧ cs = name ++ rest ∧ IsFieldName name ∧ Stops isFieldChar rest := by
  constructor
  · intro scanned
    unfold scanField at scanned
    split at scanned
    · cases scanned
    · rename_i c more
      split at scanned
      · rename_i start
        cases scanned
        refine ⟨_, rfl, ?_, ⟨c, _, rfl, start, fun _ => List.mem_takeWhile_imp⟩,
          stops_dropWhile isFieldChar more⟩
        rw [List.cons_append, List.takeWhile_append_dropWhile]
      · cases scanned
  · rintro ⟨_, rfl, rfl, ⟨c, more, rfl, start, all⟩, stops⟩
    simp [scanField, start, takeWhile_run all stops, dropWhile_run all stops]

theorem scanFieldOrNot_eq_some_iff :
    scanFieldOrNot cs = some (t, rest) ↔
      (t = .not ∧ cs = Token.not.lexeme ++ rest ∧ Stops isFieldChar rest) ∨
      ∃ name, t = .field name ∧ name ≠ Token.not.lexeme ∧ cs = name ++ rest ∧ IsFieldName name ∧
        Stops isFieldChar rest := by
  simp only [scanFieldOrNot, Option.map_eq_some_iff, Prod.mk.injEq, Prod.exists]
  constructor
  · rintro ⟨u, r, scanned, rfl, rfl⟩
    obtain ⟨name, rfl, split, isName, stops⟩ := scanField_eq_some_iff.mp scanned
    by_cases word : name = Token.not.lexeme
    · subst word
      exact .inl ⟨if_pos rfl, split, stops⟩
    · refine .inr ⟨name, if_neg fun same => word ?_, word, split, isName, stops⟩
      exact Token.field.inj same
  · rintro (⟨rfl, split, stops⟩ | ⟨name, rfl, word, split, isName, stops⟩)
    · refine ⟨.field Token.not.lexeme, rest, ?_, if_pos rfl, rfl⟩
      exact scanField_eq_some_iff.mpr ⟨_, rfl, split, ⟨'N', ['O', 'T'], rfl, by decide, by decide⟩,
        stops⟩
    · refine ⟨.field name, rest, scanField_eq_some_iff.mpr ⟨name, rfl, split, isName, stops⟩, ?_, rfl⟩
      exact if_neg fun same => word (Token.field.inj same)

theorem strip?_of_longest {c d : Comparison} {e : Char} (longest : c.Longest rest)
    (longer : d.symbol = c.symbol ++ [e]) : strip? [e] rest = none := by
  rw [Option.eq_none_iff_forall_ne_some]
  intro after found
  have shorter := longest d after (by simp [longer, eq_of_strip? found])
  simp only [longer, List.length_append, List.length_singleton] at shorter
  omega

theorem scanComparison_of_longest {c : Comparison} (longest : c.Longest rest) :
    scanComparison (c.symbol ++ rest) = some (.comparison c, rest) := by
  cases c with
  | greater =>
    have stop : strip? ['='] rest = none := strip?_of_longest (d := .greaterOrEqual) longest rfl
    simp [scanComparison, Comparison.all, scanFixed, Token.lexeme, Comparison.symbol, strip?, stop]
  | less =>
    have stop : strip? ['='] rest = none := strip?_of_longest (d := .lessOrEqual) longest rfl
    simp [scanComparison, Comparison.all, scanFixed, Token.lexeme, Comparison.symbol, strip?, stop]
  | _ => simp [scanComparison, Comparison.all, scanFixed, Token.lexeme, Comparison.symbol, strip?]

theorem scanComparison_eq_some_iff :
    scanComparison cs = some (t, rest) ↔
      ∃ c, t = .comparison c ∧ cs = c.symbol ++ rest ∧ c.Longest rest := by
  constructor
  · intro scanned
    obtain ⟨c, _, found⟩ := List.exists_of_findSome?_eq_some scanned
    obtain ⟨rfl, split⟩ := scanFixed_eq_some_iff.mp found
    refine ⟨c, rfl, split, fun d after same => ?_⟩
    by_contra longer
    -- a longer symbol has two characters, so there is none beyond it and it is found instead
    have longest : d.Longest after := by
      intro e behind _
      cases d <;> cases e <;> simp_all [Comparison.symbol] <;> cases c <;> simp at longer
    have other := scanComparison_of_longest longest
    rw [same, ← show cs = c.symbol ++ rest from split, scanned] at other
    cases other
    exact longer (Nat.le_refl _)
  · rintro ⟨c, rfl, rfl, longest⟩
    exact scanComparison_of_longest longest

theorem scanExistence_eq_some_iff :
    scanExistence cs = some (t, rest) ↔
      ∃ e, t = .existence e ∧ cs = e.word ++ rest ∧ atBoundary rest = true := by
  constructor
  · intro scanned
    obtain ⟨e, _, found⟩ := List.exists_of_findSome?_eq_some scanned
    simp only [Option.map_eq_some_iff, Prod.mk.injEq, stripWord?_eq_some_iff] at found
    obtain ⟨r, ⟨split, boundary⟩, rfl, rfl⟩ := found
    exact ⟨e, rfl, split, boundary⟩
  · rintro ⟨e, rfl, rfl, boundary⟩
    cases e <;> simp [scanExistence, Existence.all, Existence.word, stripWord?, strip?, boundary]

theorem takeQuoted?_eq_some_iff {inner : List Char} :
    takeQuoted? cs = some (inner, rest) ↔ cs = inner ++ '"' :: rest ∧ Quotable inner := by
  constructor
  · intro taken
    refine ⟨eq_of_takeQuoted? taken, ?_⟩
    fun_induction takeQuoted? cs generalizing inner with
    | case1 | case3 | case5 => cases taken
    | case2 =>
      cases taken
      exact .nil
    | case4 c cs noBreak ih =>
      obtain ⟨⟨i, a⟩, found, same⟩ := Option.map_eq_some_iff.mp taken
      cases same
      exact .escaped (by simpa using noBreak) (ih found)
    | case6 c cs noQuote noBackslash noBreak ih =>
      obtain ⟨⟨i, a⟩, found, same⟩ := Option.map_eq_some_iff.mp taken
      cases same
      refine .plain (by simpa using noQuote) ?_ (by simpa using noBreak) (ih found)
      rintro rfl
      cases cs with
      | nil => cases found
      | cons d cs => exact noBackslash d cs rfl rfl
  · rintro ⟨rfl, quotable⟩
    induction quotable with
    | nil => simp [takeQuoted?]
    | plain noQuote noBackslash noBreak _ ih =>
      simp [takeQuoted?, noBackslash, noBreak, ih]
    | escaped noBreak _ ih => simp [takeQuoted?, noBreak, ih]

theorem scanQuoted_eq_some_iff :
    scanQuoted cs = some (t, rest) ↔
      ∃ inner, t = .quotedValue inner ∧ cs = t.lexeme ++ rest ∧ Quotable inner := by
  constructor
  · intro scanned
    unfold scanQuoted at scanned
    split at scanned
    · simp only [Option.map_eq_some_iff, Prod.mk.injEq, Prod.exists,
        takeQuoted?_eq_some_iff] at scanned
      obtain ⟨inner, r, ⟨rfl, quotable⟩, rfl, rfl⟩ := scanned
      exact ⟨inner, rfl, by simp [Token.lexeme], quotable⟩
    · cases scanned
  · rintro ⟨inner, rfl, rfl, quotable⟩
    have taken : takeQuoted? (inner ++ '"' :: rest) = some (inner, rest) :=
      takeQuoted?_eq_some_iff.mpr ⟨rfl, quotable⟩
    simp [Token.lexeme, scanQuoted, taken]

theorem scanBare_eq_some_iff :
    scanBare cs = some (t, rest) ↔
      ∃ text, t = .bareValue text ∧ cs = text ++ rest ∧ text ≠ [] ∧
        (∀ c ∈ text, isBareChar c = true) ∧ Stops isBareChar rest := by
  constructor
  · intro scanned
    unfold scanBare at scanned
    split at scanned
    · cases scanned
    · rename_i nonempty
      cases scanned
      exact ⟨_, rfl, List.takeWhile_append_dropWhile.symm, nonempty,
        fun _ => List.mem_takeWhile_imp, stops_dropWhile isBareChar cs⟩
  · rintro ⟨text, rfl, rfl, nonempty, all, stops⟩
    unfold scanBare
    rw [takeWhile_run all stops, dropWhile_run all stops]
    split
    · exact absurd rfl nonempty
    · rfl

theorem orElse_eq_some_iff {α : Type} {a b : Option α} {x : α} :
    (a <|> b) = some x ↔ a = some x ∨ a = none ∧ b = some x := by
  cases a <;> simp

theorem orElse_eq_none_iff {α : Type} {a b : Option α} : (a <|> b) = none ↔ a = none ∧ b = none := by
  cases a <;> simp

theorem scanQuoted_of_bare {text : List Char} (nonempty : text ≠ [])
    (all : ∀ c ∈ text, isBareChar c = true) : scanQuoted (text ++ rest) = none := by
  obtain ⟨c, more, rfl⟩ := List.exists_cons_of_ne_nil nonempty
  have noQuote : c ≠ '"' := by
    rintro rfl
    exact absurd (all '"' (by simp)) (by decide)
  unfold scanQuoted
  split
  · rename_i same
    cases same
    exact absurd rfl noQuote
  · rfl

theorem not_beginsSpatial {c : Char} (other : ∀ s : SpatialWord, s.word.head? ≠ some c) :
    ¬ BeginsSpatial (c :: rest) := by
  rintro ⟨s, after, split, _⟩
  apply other s
  rw [← List.head?_cons (a := c) (l := rest), split]
  cases s <;> rfl

theorem scan_operand_eq_some_iff :
    scan .operand cs = some (t, rest) ↔ cs = t.lexeme ++ rest ∧ Fits .operand t rest := by
  simp only [scan, orElse_eq_some_iff, scanSpatial_eq_some_iff,
    scanSpatial_eq_none_iff, scanFieldOrNot_eq_some_iff, scanFixed_eq_some_iff]
  constructor
  · rintro (⟨s, rfl, split, boundary⟩ | ⟨plain, (⟨rfl, split, stops⟩ |
      ⟨name, rfl, word, rfl, isName, stops⟩) | ⟨_, rfl, split⟩⟩)
    · exact ⟨split, boundary⟩
    · exact ⟨split, stops⟩
    · exact ⟨rfl, isName, stops, word, plain⟩
    · exact ⟨split, trivial⟩
  · rintro ⟨rfl, fits⟩
    cases t with
    | spatial s => exact .inl ⟨s, rfl, rfl, fits⟩
    | field name =>
      obtain ⟨isName, stops, word, plain⟩ := fits
      exact .inr ⟨plain, .inl (.inr ⟨name, rfl, word, rfl, isName, stops⟩)⟩
    | not =>
      have plain : ¬ BeginsSpatial (Token.not.lexeme ++ rest) :=
        not_beginsSpatial fun s => by cases s <;> decide
      exact .inr ⟨plain, .inl (.inl ⟨rfl, rfl, fits⟩)⟩
    | leftParen =>
      have plain : ¬ BeginsSpatial (Token.leftParen.lexeme ++ rest) :=
        not_beginsSpatial fun s => by cases s <;> decide
      have noName : scanFieldOrNot (Token.leftParen.lexeme ++ rest) = none := rfl
      exact .inr ⟨plain, .inr ⟨noName, rfl, rfl⟩⟩
    | _ => cases fits

theorem scan_eq_some_iff {context : Context} :
    scan context cs = some (t, rest) ↔ cs = t.lexeme ++ rest ∧ Fits context t rest := by
  cases context with
  | operand => exact scan_operand_eq_some_iff
  | relation =>
    simp only [scan, orElse_eq_some_iff, scanComparison_eq_some_iff,
      scanExistence_eq_some_iff]
    constructor
    · rintro (⟨c, rfl, split, longest⟩ | ⟨_, e, rfl, split, boundary⟩)
      · exact ⟨split, longest⟩
      · exact ⟨split, boundary⟩
    · rintro ⟨rfl, fits⟩
      cases t with
      | comparison c => exact .inl ⟨c, rfl, rfl, fits⟩
      | existence e => exact .inr ⟨by cases e <;> rfl, e, rfl, rfl, fits⟩
      | _ => cases fits
  | value =>
    simp only [scan, orElse_eq_some_iff, scanQuoted_eq_some_iff,
      scanBare_eq_some_iff]
    constructor
    · rintro (⟨inner, rfl, split, quotable⟩ | ⟨_, text, rfl, split, fits⟩)
      · exact ⟨split, quotable⟩
      · exact ⟨split, fits⟩
    · rintro ⟨rfl, fits⟩
      cases t with
      | quotedValue inner => exact .inl ⟨inner, rfl, rfl, fits⟩
      | bareValue text =>
        refine .inr ⟨scanQuoted_of_bare fits.1 fits.2.1, text, rfl, rfl, fits⟩
      | _ => cases fits
  | connective =>
    simp only [scan, orElse_eq_some_iff, scanFixed_eq_some_iff]
    constructor
    · rintro (⟨rfl, split⟩ | ⟨_, ⟨rfl, split⟩ | ⟨_, rfl, split⟩⟩) <;> exact ⟨split, trivial⟩
    · rintro ⟨rfl, fits⟩
      cases t with
      | and => exact .inl ⟨rfl, rfl⟩
      | or => exact .inr ⟨rfl, .inl ⟨rfl, rfl⟩⟩
      | rightParen => exact .inr ⟨rfl, .inr ⟨rfl, rfl, rfl⟩⟩
      | _ => cases fits
  | number =>
    rw [scan, scanNumber_eq_some_iff]
    constructor
    · rintro ⟨n, rfl, split, longest⟩
      exact ⟨split, n, rfl, longest⟩
    · rintro ⟨rfl, fits⟩
      cases t with
      | number text =>
        obtain ⟨n, rfl, longest⟩ := fits
        exact ⟨n, rfl, rfl, longest⟩
      | _ => cases fits
  | leftParen | comma | rightParen =>
    rw [scan, scanFixed_eq_some_iff]
    constructor
    · rintro ⟨rfl, split⟩
      exact ⟨split, trivial⟩
    · rintro ⟨split, fits⟩
      cases t with
      | leftParen | comma | rightParen => first | exact ⟨rfl, split⟩ | cases fits
      | _ => cases fits

/- Whole texts. -/

/-- What the tokens before leave to come next; inside a spatial call, with the number of its
    degrees read so far. -/
inductive Place where
  | operand
  | relation
  | value
  | connective
  | extent
  | degree (read : Nat)
  | separator (read : Nat)
  deriving DecidableEq, Repr

def Place.context : Place → Context
  | operand => .operand
  | relation => .relation
  | value => .value
  | connective => .connective
  | extent => .leftParen
  | degree _ => .number
  | separator read => if read < 4 then .comma else .rightParen

def Place.next : Place → Token → Place
  | operand, .spatial _ => extent
  | operand, .field _ => relation
  | relation, .comparison _ => value
  | relation, .existence _ => connective
  | value, _ => connective
  | connective, .rightParen => connective
  | extent, _ => degree 0
  | degree read, _ => separator (read + 1)
  | separator read, .comma => degree read
  | separator _, _ => connective
  | _, _ => operand

/-- The tokens of a whole text, each in the place the ones before it leave; gaps may stand
    before each and at the end. -/
inductive Lexes : Place → List Char → List Token → Prop
  | done {place : Place} {gap : List Char} (blank : ∀ c ∈ gap, isGap c = true) : Lexes place gap []
  | token {place : Place} {gap rest : List Char} {t : Token} {ts : List Token}
      (blank : ∀ c ∈ gap, isGap c = true) (fits : Fits place.context t rest)
      (behind : Lexes (place.next t) rest ts) : Lexes place (gap ++ (t.lexeme ++ rest)) (t :: ts)

def gapChars : List Char :=
  [' ', '\t', '\x0c', '\r', '\n']

theorem isGap_eq_false {p : Char → Bool} (none : ∀ d ∈ gapChars, p d = false) {c : Char}
    (member : p c = true) : isGap c = false := by
  rw [Bool.eq_false_iff]
  intro gap
  have listed : c ∈ gapChars := by simpa [isGap, gapChars, or_assoc] using gap
  rw [none c listed] at member
  cases member

theorem Fits.head {context : Context} (fits : Fits context t rest) :
    ∃ c more, t.lexeme = c :: more ∧ isGap c = false := by
  cases t with
  | field name =>
    cases context with
    | operand =>
      obtain ⟨⟨c, more, rfl, start, _⟩, _⟩ := fits
      exact ⟨c, more, rfl, isGap_eq_false (p := isFieldStart) (by decide) start⟩
    | _ => cases fits
  | bareValue text =>
    cases context with
    | value =>
      obtain ⟨nonempty, all, _⟩ := fits
      obtain ⟨c, more, rfl⟩ := List.exists_cons_of_ne_nil nonempty
      exact ⟨c, more, rfl, isGap_eq_false (p := isBareChar) (by decide) (all c (by simp))⟩
    | _ => cases fits
  | number text =>
    cases context with
    | number =>
      obtain ⟨n, rfl, _⟩ := fits
      obtain ⟨c, more, same⟩ := List.exists_cons_of_ne_nil n.lexeme_ne_nil
      refine ⟨c, more, same, isGap_eq_false (p := (· ∈ numeralChars)) (by decide) ?_⟩
      simpa using mem_numeralChars (n := n) (c := c) (by simp [same])
    | _ => cases fits
  | comparison c => cases c <;> exact ⟨_, _, rfl, rfl⟩
  | existence e => cases e <;> exact ⟨_, _, rfl, rfl⟩
  | spatial s => cases s <;> exact ⟨_, _, rfl, rfl⟩
  | _ => exact ⟨_, _, rfl, rfl⟩

theorem Fits.numeral {context : Context} {text : List Char} (fits : Fits context (.number text) rest) :
    ∃ n : Numeral, text = n.lexeme := by
  cases context with
  | number =>
    obtain ⟨n, same, _⟩ := fits
    exact ⟨n, same⟩
  | _ => cases fits

theorem dropWhile_gap {context : Context} {gap : List Char} (blank : ∀ c ∈ gap, isGap c = true)
    (fits : Fits context t rest) : (gap ++ (t.lexeme ++ rest)).dropWhile isGap = t.lexeme ++ rest := by
  obtain ⟨c, more, same, plain⟩ := fits.head
  exact dropWhile_run blank (by rw [same, List.cons_append]; exact stops_cons.mpr plain)

end BondQuery.Syntax
