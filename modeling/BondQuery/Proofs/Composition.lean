import Mathlib.Data.List.Forall2
import BondQuery.Proofs.Openings
import BondQuery.Proofs.Printing

/- Accepted texts inside a larger one. A closing parenthesis ends every token in front of it and is
   part of none but a quoted value, so a text between parentheses is read as it is read alone. -/
namespace BondQuery.Syntax
open Text

variable {place : Place} {cs rest more word : List Char} {t joint : Token} {ts us : List Token}
  {e : Expression}

theorem stops_closed {p : Char → Bool} (outside : p ')' = false) (stops : Stops p rest) :
    Stops p (rest ++ ')' :: more) := by
  cases rest with
  | nil => exact stops_cons.mpr outside
  | cons c rest => exact stops_cons.mpr (stops_cons.mp stops)

theorem boundary_closed (boundary : atBoundary rest = true) :
    atBoundary (rest ++ ')' :: more) = true := by
  cases rest with
  | nil =>
    show (!isWord ')') = true
    decide
  | cons c rest => exact boundary

theorem prefix_of_closed {after : List Char} (same : word ++ after = cs ++ ')' :: more)
    (plain : ')' ∉ word) : ∃ between, cs = word ++ between ∧ after = between ++ ')' :: more := by
  rcases List.append_eq_append_iff.mp same with ⟨between, split, behind⟩ | ⟨between, split, behind⟩
  · exact ⟨between, split, behind⟩
  · cases between with
    | nil => exact ⟨[], by simpa using split.symm, by simpa using behind.symm⟩
    | cons c between =>
      rw [List.cons_append, List.cons.injEq] at behind
      rw [split, ← behind.1] at plain
      simp at plain

theorem Comparison.Longest.closed {c : Comparison} (longest : c.Longest rest) :
    c.Longest (rest ++ ')' :: more) := by
  intro d after same
  rw [← List.append_assoc] at same
  obtain ⟨between, split, _⟩ := prefix_of_closed same (by cases d <;> decide)
  exact longest d between split.symm

theorem Numeral.Longest.closed {n : Numeral} (longest : n.Longest rest) :
    n.Longest (rest ++ ')' :: more) := by
  intro m after same
  rw [← List.append_assoc] at same
  have plain : ')' ∉ m.lexeme := by
    intro member
    exact absurd (mem_numeralChars member) (by decide)
  obtain ⟨between, split, _⟩ := prefix_of_closed same plain
  exact longest m between split.symm

theorem not_beginsSpatial_closed (none : ¬ BeginsSpatial cs) :
    ¬ BeginsSpatial (cs ++ ')' :: more) := by
  intro begins
  obtain ⟨s, after, same, boundary⟩ := begins
  obtain ⟨between, split, rfl⟩ := prefix_of_closed same.symm (by cases s <;> decide)
  refine none ⟨s, between, split, ?_⟩
  cases between with
  | nil => rfl
  | cons c between => exact boundary

theorem Fits.closed {context : Context} (fits : Fits context t rest) :
    Fits context t (rest ++ ')' :: more) := by
  cases context with
  | operand =>
    cases t with
    | spatial => exact boundary_closed fits
    | field name =>
      obtain ⟨isName, stops, word, plain⟩ := fits
      refine ⟨isName, stops_closed (by decide) stops, word, ?_⟩
      rw [← List.append_assoc]
      exact not_beginsSpatial_closed plain
    | not => exact stops_closed (p := isFieldChar) (by decide) fits
    | leftParen => trivial
    | _ => cases fits
  | relation =>
    cases t with
    | comparison => exact Comparison.Longest.closed fits
    | existence => exact boundary_closed fits
    | _ => cases fits
  | value =>
    cases t with
    | quotedValue => exact fits
    | bareValue =>
      obtain ⟨nonempty, all, stops⟩ := fits
      exact ⟨nonempty, all, stops_closed (by decide) stops⟩
    | _ => cases fits
  | number =>
    cases t with
    | number =>
      obtain ⟨n, same, longest⟩ := fits
      exact ⟨n, same, longest.closed⟩
    | _ => cases fits
  | connective | leftParen | comma | rightParen => cases t <;> trivial

theorem Lexes.closed (lexes : Lexes place cs ts) (more : List Char) :
    ∃ gap, (∀ c ∈ gap, isGap c = true) ∧
      Opens place (cs ++ ')' :: more) ts (gap ++ ')' :: more) := by
  induction lexes with
  | @done place gap blank => exact ⟨gap, blank, .none⟩
  | @token place gap rest t ts blank fits _ ih =>
    obtain ⟨ending, clear, opens⟩ := ih
    refine ⟨ending, clear, ?_⟩
    rw [List.append_assoc, List.append_assoc]
    exact .token blank fits.closed opens

theorem lexes_parenthesized (lexes : Lexes .operand cs ts) (derived : Derives ts e)
    (behind : Lexes .connective more us) :
    Lexes .operand ('(' :: (cs ++ ')' :: more)) (.leftParen :: (ts ++ .rightParen :: us)) := by
  obtain ⟨gap, blank, opens⟩ := lexes.closed more
  have inside : Lexes .operand (cs ++ ')' :: more) (ts ++ .rightParen :: us) := by
    apply opens.finish
    rw [derived.place_after]
    exact .token (t := .rightParen) blank trivial behind
  exact .first (t := .leftParen) trivial inside

/- Several texts, joined. -/

def enclose (cs : List Char) : List Char :=
  '(' :: (cs ++ [')'])

def encloseTokens (ts : List Token) : List Token :=
  .leftParen :: (ts ++ [.rightParen])

def ReadsAs (cs : List Char) (e : Expression) : Prop :=
  ∃ ts, Lexes .operand cs ts ∧ Derives ts e

def spacedJoint (joint : Token) : List Char :=
  ' ' :: (joint.lexeme ++ [' '])

theorem joined_operands {tss : List (List Token)} {es : List Expression}
    (operands : List.Forall₂ Operand tss es) (nonempty : tss ≠ []) :
    Conjuncts ([Token.and].intercalate tss) es ∧ Alternatives ([Token.or].intercalate tss) es := by
  induction operands with
  | nil => exact absurd rfl nonempty
  | @cons ts e tss es operand others ih =>
    cases others with
    | nil =>
      rw [List.intercalate_singleton, List.intercalate_singleton]
      exact ⟨.one operand, .one (.one operand)⟩
    | cons =>
      obtain ⟨conjuncts, alternatives⟩ := ih (by simp)
      rw [List.intercalate_cons_cons, List.intercalate_cons_cons, List.append_assoc,
        List.append_assoc]
      have first : Alternatives ts [e] := .one (.one operand)
      exact ⟨(Conjuncts.one operand).append conjuncts, first.append alternatives⟩

theorem lexes_joined (joins : joint = .and ∨ joint = .or) {css : List (List Char)}
    {es : List Expression} (read : List.Forall₂ ReadsAs css es) (nonempty : css ≠ []) :
    ∃ tss, List.Forall₂ Operand tss es ∧
      Lexes .operand ((spacedJoint joint).intercalate (css.map enclose))
        ([joint].intercalate tss) := by
  induction read with
  | nil => exact absurd rfl nonempty
  | @cons cs e css es first others ih =>
    obtain ⟨ts, lexes, derived⟩ := first
    cases others with
    | nil =>
      refine ⟨[encloseTokens ts], .cons derived.parentheses .nil, ?_⟩
      rw [List.map_singleton, List.intercalate_singleton, List.intercalate_singleton]
      exact lexes_parenthesized lexes derived (lexes_end _)
    | @cons other f css es second others =>
      obtain ⟨tss, operands, behind⟩ := ih (by simp)
      refine ⟨encloseTokens ts :: tss, .cons derived.parentheses operands, ?_⟩
      obtain ⟨us, tss, rfl⟩ : ∃ us rest, tss = us :: rest := by
        cases operands
        exact ⟨_, _, rfl⟩
      rw [List.map_cons, List.map_cons, List.intercalate_cons_cons, List.intercalate_cons_cons]
      have next : Lexes .connective
          (spacedJoint joint ++ (spacedJoint joint).intercalate (enclose other :: css.map enclose))
          (joint :: [joint].intercalate (us :: tss)) := by
        apply Lexes.behind_blank
        rcases joins with rfl | rfl
        · exact .first (t := .and) trivial behind.behind_blank
        · exact .first (t := .or) trivial behind.behind_blank
      have whole := lexes_parenthesized lexes derived next
      simpa [enclose, encloseTokens] using whole

theorem tight_enclose (cs : List Char) : Tight (enclose cs) := by
  have left : Tight ['('] := tight_of_all (by decide) (by decide)
  have right : Tight [')'] := tight_of_all (by decide) (by decide)
  exact left.append right

theorem tight_joined (joint : Token) {css : List (List Char)} (nonempty : css ≠ []) :
    Tight ((spacedJoint joint).intercalate (css.map enclose)) := by
  induction css with
  | nil => exact absurd rfl nonempty
  | cons cs css ih =>
    cases css with
    | nil =>
      rw [List.map_singleton, List.intercalate_singleton]
      exact tight_enclose cs
    | cons other css =>
      rw [List.map_cons, List.map_cons, List.intercalate_cons_cons, List.append_assoc]
      exact (tight_enclose cs).append (ih (by simp))

/-- A text without blanks around it that is read as an expression. -/
structure Accepted (text : String) (e : Expression) : Prop where
  stripped : trim text.toList = text.toList
  parsed : parse text = .ok e

theorem Accepted.readsAs {text : String} (accepted : Accepted text e) : ReadsAs text.toList e := by
  have read := derives_of_parse accepted.parsed
  rw [accepted.stripped] at read
  exact read

theorem toList_enclosed (text : String) : ("(" ++ text ++ ")").toList = enclose text.toList := by
  simp [enclose]

theorem Accepted.enclosed {text : String} (accepted : Accepted text e) :
    ∃ ts, Lexes .operand (enclose text.toList) ts ∧ Operand ts e := by
  obtain ⟨ts, lexes, derived⟩ := accepted.readsAs
  exact ⟨_, lexes_parenthesized lexes derived (lexes_end _), derived.parentheses⟩

theorem Accepted.parse_enclosed {text : String} (accepted : Accepted text e) :
    parse ("(" ++ text ++ ")") = .ok e := by
  obtain ⟨ts, lexes, operand⟩ := accepted.enclosed
  refine parse_of_derives ?_ operand.derives
  rw [toList_enclosed, (tight_enclose _).trim_eq]
  exact lexes

theorem Accepted.parse_negated {text : String} (accepted : Accepted text e) :
    parse ("NOT (" ++ text ++ ")") = .ok (.logical .not [e]) := by
  obtain ⟨ts, lexes, operand⟩ := accepted.enclosed
  refine parse_of_derives ?_ (Operand.negation operand).derives
  have written : ("NOT (" ++ text ++ ")").toList =
      Token.not.lexeme ++ ([' '] ++ enclose text.toList) := by
    simp [Token.lexeme, enclose]
  have word : Tight Token.not.lexeme := tight_of_all (by decide) (by decide)
  have stops : Stops isFieldChar (' ' :: enclose text.toList) := stops_cons.mpr (by decide)
  rw [written, (word.append (tight_enclose _)).trim_eq]
  exact .first (t := .not) stops lexes.behind_blank

/-- Enclosed texts in a row are read as one operand each. -/
theorem parse_joined (joins : joint = .and ∨ joint = .or) {texts : List String}
    {es : List Expression} (accepted : List.Forall₂ Accepted texts es) (nonempty : texts ≠ []) :
    ∃ tss, List.Forall₂ Operand tss es ∧ ∀ e, Derives ([joint].intercalate tss) e →
      parse ((String.ofList (spacedJoint joint)).intercalate
        (texts.map fun text => "(" ++ text ++ ")")) = .ok e := by
  have read : List.Forall₂ ReadsAs (texts.map String.toList) es := by
    rw [List.forall₂_map_left_iff]
    exact accepted.imp fun _ _ => Accepted.readsAs
  obtain ⟨tss, operands, lexes⟩ := lexes_joined joins read (by simpa using nonempty)
  refine ⟨tss, operands, fun e derived => parse_of_derives ?_ derived⟩
  have written : ((String.ofList (spacedJoint joint)).intercalate
      (texts.map fun text => "(" ++ text ++ ")")).toList =
      (spacedJoint joint).intercalate ((texts.map String.toList).map enclose) := by
    simp [String.toList_intercalate, enclose, Function.comp_def]
  rw [written, (tight_joined joint (by simpa using nonempty)).trim_eq]
  exact lexes

/-- Accepted texts in parentheses are read as their own trees: alone, negated, and as the operands
    of a chain, each one operand whatever connective it has itself. -/
theorem accepted_texts_compose :
    (∀ text e, Accepted text e →
      parse ("(" ++ text ++ ")") = .ok e ∧
      parse ("NOT (" ++ text ++ ")") = .ok (.logical .not [e])) ∧
    ∀ texts es, List.Forall₂ Accepted texts es → 2 ≤ texts.length →
      parse (" AND ".intercalate (texts.map fun text => "(" ++ text ++ ")")) =
        .ok (.logical .and es) ∧
      parse (" OR ".intercalate (texts.map fun text => "(" ++ text ++ ")")) =
        .ok (.logical .or es) := by
  constructor
  · intro text e accepted
    exact ⟨accepted.parse_enclosed, accepted.parse_negated⟩
  · intro texts es accepted several
    have nonempty : texts ≠ [] := List.ne_nil_of_length_pos (by omega)
    have length : 2 ≤ es.length := by rw [← accepted.length_eq]; exact several
    constructor
    · obtain ⟨tss, operands, reads⟩ := parse_joined (.inl rfl) accepted nonempty
      have filled : tss ≠ [] := List.ne_nil_of_length_pos (by rw [operands.length_eq]; omega)
      refine reads _ ⟨_, .one (joined_operands operands filled).1, ?_⟩
      rw [chain_of_several .and length]
      rfl
    · obtain ⟨tss, operands, reads⟩ := parse_joined (.inr rfl) accepted nonempty
      have filled : tss ≠ [] := List.ne_nil_of_length_pos (by rw [operands.length_eq]; omega)
      refine reads _ ⟨_, (joined_operands operands filled).2, ?_⟩
      rw [chain_of_several .or length]

/- A chain, a value that holds a parenthesis, a connective as a value, and a second level. -/

def eitherOcean : Expression :=
  .logical .or [.bond ⟨"title", .text⟩ .equal "Ocean)", .bond ⟨"a", .text⟩ .like "AND"]

def bothMissing : Expression :=
  .logical .and [.bond ⟨"b", .text⟩ .notExists "", .bond ⟨"c", .text⟩ .exists ""]

theorem accepted_eitherOcean : Accepted "title = \"Ocean)\" OR a ~ AND" eitherOcean :=
  ⟨by decide +kernel, by with_unfolding_all rfl⟩

theorem accepted_bothMissing : Accepted "b MISSING AND (c EXISTS)" bothMissing :=
  ⟨by decide +kernel, by with_unfolding_all rfl⟩

theorem chains_composed :
    Accepted "title = \"Ocean)\" OR a ~ AND" eitherOcean ∧
      Accepted "b MISSING AND (c EXISTS)" bothMissing ∧
      parse "(b MISSING AND (c EXISTS))" = .ok bothMissing ∧
      parse "NOT (title = \"Ocean)\" OR a ~ AND)" = .ok (.logical .not [eitherOcean]) ∧
      parse "(title = \"Ocean)\" OR a ~ AND) AND (b MISSING AND (c EXISTS))" =
        .ok (.logical .and [eitherOcean, bothMissing]) :=
  ⟨accepted_eitherOcean, accepted_bothMissing,
    (accepted_texts_compose.1 _ _ accepted_bothMissing).1,
    (accepted_texts_compose.1 _ _ accepted_eitherOcean).2,
    (accepted_texts_compose.2 _ _ (.cons accepted_eitherOcean (.cons accepted_bothMissing .nil))
      (by decide)).1⟩

end BondQuery.Syntax
