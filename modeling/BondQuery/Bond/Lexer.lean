import BondQuery.Bond.Token
import BondQuery.Bond.Quotation
import BondQuery.Text.Blank
import BondQuery.Text.Word

/- Scanning one token. Which tokens are tried depends on what may come next, so a word such as
   AND is a connective, a field or a value by its place. Every scan splits the text: the lexeme
   of the token is what was removed. -/
namespace BondQuery.Syntax

abbrev Scan := Option (Token × List Char)

def isFieldStart (c : Char) : Bool :=
  c.isAlpha || c == '_'

def isFieldChar (c : Char) : Bool :=
  c.isAlphanum || c == '_' || c == '.'

def isBareChar (c : Char) : Bool :=
  !(Text.isBlank c || c == '(' || c == ')' || c == '"')

def strip? : List Char → List Char → Option (List Char)
  | [], cs => some cs
  | w :: word, c :: cs => if w == c then strip? word cs else none
  | _ :: _, [] => none

def stripWord? (word cs : List Char) : Option (List Char) :=
  (strip? word cs).filter Text.atBoundary

def scanFixed (t : Token) (cs : List Char) : Scan :=
  (strip? t.lexeme cs).map (t, ·)

def scanComparison (cs : List Char) : Scan :=
  Comparison.all.findSome? fun c => scanFixed (.comparison c) cs

def scanExistence (cs : List Char) : Scan :=
  Existence.all.findSome? fun e => (stripWord? e.word cs).map (.existence e, ·)

def scanSpatial (cs : List Char) : Scan :=
  SpatialWord.all.findSome? fun s => (stripWord? s.word cs).map (.spatial s, ·)

def scanField (cs : List Char) : Scan :=
  match cs with
  | [] => none
  | c :: rest =>
    if isFieldStart c then some (.field (c :: rest.takeWhile isFieldChar), rest.dropWhile isFieldChar)
    else none

/-- A field name that is exactly NOT is the connective. -/
def scanFieldOrNot (cs : List Char) : Scan :=
  (scanField cs).map fun (t, rest) => (if t = .field Token.not.lexeme then .not else t, rest)

def scanQuoted : List Char → Scan
  | '"' :: cs => (takeQuoted? cs).map fun (inner, rest) => (.quotedValue inner, rest)
  | _ => none

def scanBare (cs : List Char) : Scan :=
  match cs.takeWhile isBareChar with
  | [] => none
  | text => some (.bareValue text, cs.dropWhile isBareChar)

def exponentLength (cs : List Char) : Nat :=
  let digitCount (lead : Nat) (r : List Char) :=
    match r.takeWhile Char.isDigit with
    | [] => 0
    | digits => lead + digits.length
  match cs with
  | mark :: sign :: rest =>
    if mark == 'e' || mark == 'E' then
      if sign == '+' || sign == '-' then digitCount 2 rest else digitCount 1 (sign :: rest)
    else 0
  | _ => 0

def numberLength (cs : List Char) : Nat :=
  let whole := (cs.takeWhile Char.isDigit).length
  let mantissa := match cs.drop whole with
    | '.' :: r =>
      let fraction := (r.takeWhile Char.isDigit).length
      -- a point by itself is no number
      if whole = 0 && fraction = 0 then 0 else whole + 1 + fraction
    | _ => whole
  if mantissa = 0 then 0 else mantissa + exponentLength (cs.drop mantissa)

def signLength : List Char → Nat
  | c :: _ => if c == '+' || c == '-' then 1 else 0
  | [] => 0

def scanNumber (cs : List Char) : Scan :=
  let sign := signLength cs
  match numberLength (cs.drop sign) with
  | 0 => none
  | n => some (.number (cs.take (sign + n)), cs.drop (sign + n))

inductive Context where
  | operand
  | relation
  | value
  | connective
  | leftParen
  | number
  | comma
  | rightParen
  deriving DecidableEq, Repr

def scan : Context → List Char → Scan
  | .operand, cs => scanSpatial cs <|> scanFieldOrNot cs <|> scanFixed .leftParen cs
  | .relation, cs => scanComparison cs <|> scanExistence cs
  | .value, cs => scanQuoted cs <|> scanBare cs
  | .connective, cs => scanFixed .and cs <|> scanFixed .or cs <|> scanFixed .rightParen cs
  | .leftParen, cs => scanFixed .leftParen cs
  | .number, cs => scanNumber cs
  | .comma, cs => scanFixed .comma cs
  | .rightParen, cs => scanFixed .rightParen cs

def keywordOf (t : Token) : Token :=
  ([.and, .or, .not, .comma].find? fun k => k.lexeme = t.lexeme).getD t

/-- The token at the beginning of a text where any token is tried; it names what was found in
    a place where it may not stand. -/
def scanAny (cs : List Char) : Scan :=
  scanSpatial cs <|> scanNumber cs <|>
    (scanField cs <|> scanQuoted cs <|> scanBare cs).map (fun (t, rest) => (keywordOf t, rest)) <|>
    scanFixed .leftParen cs <|> scanFixed .rightParen cs

def Splits (cs : List Char) (s : Scan) : Prop :=
  ∀ t rest, s = some (t, rest) → cs = t.lexeme ++ rest ∧ t.lexeme ≠ []

theorem eq_of_strip? {word cs rest : List Char} (h : strip? word cs = some rest) :
    cs = word ++ rest := by
  fun_induction strip? word cs with
  | case1 => simpa using h
  | case2 w word c cs same ih => simp_all
  | case3 => simp at h
  | case4 => simp at h

theorem Splits.none (cs : List Char) : Splits cs none := by
  intro t rest h
  simp at h

theorem Splits.orElse {cs : List Char} {a b : Scan} (first : Splits cs a) (second : Splits cs b) :
    Splits cs (a <|> b) := by
  cases a with
  | none => simpa using second
  | some r => simpa using first

theorem Splits.findSome? {α : Type} {cs : List Char} (f : α → Scan) (xs : List α)
    (each : ∀ x ∈ xs, Splits cs (f x)) : Splits cs (xs.findSome? f) := by
  intro t rest h
  obtain ⟨x, member, found⟩ := List.exists_of_findSome?_eq_some h
  exact each x member t rest found

theorem splits_fixed (t : Token) (cs : List Char) (nonempty : t.lexeme ≠ []) :
    Splits cs (scanFixed t cs) := by
  intro u rest h
  simp only [scanFixed, Option.map_eq_some_iff, Prod.mk.injEq] at h
  obtain ⟨r, found, rfl, rfl⟩ := h
  exact ⟨eq_of_strip? found, nonempty⟩

theorem splits_word {word cs : List Char} (t : Token) (same : t.lexeme = word) (nonempty : word ≠ []) :
    Splits cs ((stripWord? word cs).map (t, ·)) := by
  intro u rest h
  simp only [stripWord?, Option.map_eq_some_iff, Prod.mk.injEq, Option.filter_eq_some_iff] at h
  obtain ⟨r, ⟨found, _⟩, rfl, rfl⟩ := h
  exact ⟨same ▸ eq_of_strip? found, same ▸ nonempty⟩

theorem splits_comparison (cs : List Char) : Splits cs (scanComparison cs) :=
  Splits.findSome? _ _ fun c _ => splits_fixed _ _ (by cases c <;> simp [Token.lexeme, Comparison.symbol])

theorem splits_existence (cs : List Char) : Splits cs (scanExistence cs) :=
  Splits.findSome? _ _ fun e _ => splits_word _ rfl (by cases e <;> simp [Existence.word])

theorem splits_spatial (cs : List Char) : Splits cs (scanSpatial cs) :=
  Splits.findSome? _ _ fun s _ => splits_word _ rfl (by cases s <;> simp [SpatialWord.word])

theorem splits_field (cs : List Char) : Splits cs (scanField cs) := by
  intro t rest h
  unfold scanField at h
  split at h
  · simp at h
  · split at h
    · simp only [Option.some.injEq, Prod.mk.injEq] at h
      obtain ⟨rfl, rfl⟩ := h
      simp [Token.lexeme]
    · simp at h

theorem splits_fieldOrNot (cs : List Char) : Splits cs (scanFieldOrNot cs) := by
  intro t rest h
  simp only [scanFieldOrNot, Option.map_eq_some_iff, Prod.mk.injEq] at h
  obtain ⟨⟨u, r⟩, found, same, rfl⟩ := h
  have split := splits_field cs u r found
  by_cases word : u = .field Token.not.lexeme
  · subst word
    simp only [if_true] at same
    subst same
    exact split
  · simp only [word, if_false] at same
    exact same ▸ split

theorem splits_quoted (cs : List Char) : Splits cs (scanQuoted cs) := by
  intro t rest h
  unfold scanQuoted at h
  split at h
  · simp only [Option.map_eq_some_iff, Prod.mk.injEq] at h
    obtain ⟨⟨inner, after⟩, found, rfl, rfl⟩ := h
    simp [Token.lexeme, eq_of_takeQuoted? found]
  · simp at h

theorem splits_bare (cs : List Char) : Splits cs (scanBare cs) := by
  intro t rest h
  unfold scanBare at h
  split at h
  · simp at h
  · rename_i nonempty
    simp only [Option.some.injEq, Prod.mk.injEq] at h
    obtain ⟨rfl, rfl⟩ := h
    exact ⟨(List.takeWhile_append_dropWhile).symm, nonempty⟩

theorem splits_number (cs : List Char) : Splits cs (scanNumber cs) := by
  intro t rest h
  unfold scanNumber at h
  simp only at h
  split at h
  · simp at h
  · rename_i n positive
    simp only [Option.some.injEq, Prod.mk.injEq] at h
    obtain ⟨rfl, rfl⟩ := h
    refine ⟨(List.take_append_drop _ _).symm, ?_⟩
    cases cs with
    | nil => simp [numberLength] at positive
    | cons c cs => simp [Token.lexeme]; exact fun _ => positive

theorem splits_scan (context : Context) (cs : List Char) : Splits cs (scan context cs) := by
  cases context with
  | operand =>
    exact (splits_spatial cs).orElse ((splits_fieldOrNot cs).orElse
      (splits_fixed _ _ (by simp [Token.lexeme])))
  | relation => exact (splits_comparison cs).orElse (splits_existence cs)
  | value => exact (splits_quoted cs).orElse (splits_bare cs)
  | connective =>
    exact (splits_fixed _ _ (by simp [Token.lexeme])).orElse
      ((splits_fixed _ _ (by simp [Token.lexeme])).orElse (splits_fixed _ _ (by simp [Token.lexeme])))
  | number => exact splits_number cs
  | leftParen | comma | rightParen => exact splits_fixed _ _ (by simp [Token.lexeme])

theorem length_lt_of_scan {context : Context} {cs rest : List Char} {t : Token}
    (h : scan context cs = some (t, rest)) : rest.length < cs.length := by
  obtain ⟨same, nonempty⟩ := splits_scan context cs t rest h
  rw [same, List.length_append]
  have := List.length_pos_iff.2 nonempty
  omega

end BondQuery.Syntax
