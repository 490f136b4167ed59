import BondQuery.Proofs.Reading

/- Texts with white space between all tokens. There each token ends where it was written, whatever
   comes next, so the tokens of a derivation are read back one by one. -/
namespace BondQuery.Syntax
open Text

/- Tokens in front of a gap. -/

def Parted (rest : List Char) : Prop :=
  ∀ c ∈ rest.head?, isGap c = true

/-- A field name that reads as one wherever an operand may begin. -/
structure FreeName (name : List Char) : Prop where
  pattern : IsFieldName name
  no_connective : name ≠ Token.not.lexeme
  no_spatial : ¬ BeginsSpatial name

def Token.Sound : Token → Prop
  | field name => FreeName name
  | quotedValue inner => Quotable inner
  | bareValue text => text ≠ [] ∧ ∀ c ∈ text, isBareChar c = true
  | number text => ∃ n : Numeral, text = n.lexeme
  | _ => True

variable {rest : List Char} {s next : State} {t : Token} {ts : List Token} {cs : List Char}

theorem Parted.stops {p : Char → Bool}
    (none : ∀ d ∈ gapChars, p d = false) (parted : Parted rest) :
    Stops p rest := by
  intro c head
  rw [Bool.eq_false_iff]
  intro member
  have gap := parted c head
  rw [isGap_eq_false none member] at gap
  cases gap

theorem parted_append {gap : List Char} (nonempty : gap ≠ []) (blank : ∀ c ∈ gap, isGap c = true) :
    Parted (gap ++ rest) := by
  obtain ⟨c, more, rfl⟩ := List.exists_cons_of_ne_nil nonempty
  simpa [Parted] using blank c List.mem_cons_self

theorem atBoundary_of_stops (stops : Stops isWord rest) : atBoundary rest = true := by
  cases rest with
  | nil => rfl
  | cons c rest => simp [atBoundary, stops_cons.mp stops]

theorem Parted.boundary (parted : Parted rest) : atBoundary rest = true :=
  atBoundary_of_stops (parted.stops (by decide))

theorem Comparison.longest_of_parted (c : Comparison) (parted : Parted rest) : c.Longest rest := by
  intro d after same
  have symbols : Stops (· ∈ ['!', '=', '<', '>', '~']) rest := parted.stops (by decide)
  refine length_le_of_stops same ?_ symbols
  cases d <;> decide

theorem Numeral.longest_of_parted (n : Numeral) (parted : Parted rest) : n.Longest rest := by
  intro m after same
  have chars : Stops (· ∈ numeralChars) rest := parted.stops (by decide)
  exact length_le_of_stops same (fun c member => by simpa using mem_numeralChars member) chars

theorem FreeName.not_beginsSpatial {name : List Char} (free : FreeName name) (parted : Parted rest) :
    ¬ BeginsSpatial (name ++ rest) := by
  rintro ⟨word, after, same, boundary⟩
  have letters : Stops Char.isUpper rest := parted.stops (by decide)
  have inside := length_le_of_stops same.symm (by cases word <;> decide) letters
  obtain ⟨more, rfl⟩ := List.prefix_of_prefix_length_le ⟨after, same.symm⟩ ⟨rest, rfl⟩ inside
  rw [List.append_assoc, List.append_cancel_left_eq] at same
  refine free.no_spatial ⟨word, more, rfl, ?_⟩
  cases more with
  | nil => rfl
  | cons c more =>
    rw [← same] at boundary
    exact boundary

theorem fits_of_step (taken : s.step t = some next) (sound : t.Sound) (parted : Parted rest) :
    Fits s.due.context t rest := by
  cases State.moves_of_step taken with
  | spatial | existence => exact parted.boundary
  | field name =>
    exact ⟨sound.pattern, parted.stops (by decide), sound.no_connective,
      sound.not_beginsSpatial parted⟩
  | not => exact parted.stops (p := isFieldChar) (by decide)
  | comparison _ c => exact c.longest_of_parted parted
  | value _ _ written =>
    cases written with
    | quoted inner => exact sound
    | bare text => exact ⟨sound.1, sound.2, parted.stops (by decide)⟩
  | number =>
    obtain ⟨n, rfl⟩ := sound
    exact ⟨n, rfl, n.longest_of_parted parted⟩
  | comma word fewer => simp [Due.context, fewer, Fits]
  | _ => trivial

inductive Spaced : List Token → List Char → Prop
  | last (t : Token) : Spaced [t] t.lexeme
  | more (t : Token) {gap : List Char} {ts : List Token} {cs : List Char} (nonempty : gap ≠ [])
      (blank : ∀ c ∈ gap, isGap c = true) (behind : Spaced ts cs) :
      Spaced (t :: ts) (t.lexeme ++ (gap ++ cs))

theorem lexes_of_spaced (spaced : Spaced ts cs) (sound : ∀ t ∈ ts, t.Sound) {gap : List Char}
    (blank : ∀ c ∈ gap, isGap c = true) (taken : s.run ts = some next) :
    Lexes s.due.place (gap ++ cs) ts := by
  induction spaced generalizing s gap with
  | last t =>
    obtain ⟨after, step, _⟩ := Option.bind_eq_some_iff.mp taken
    have fits : Fits s.due.place.context t [] := by
      rw [s.due.context_place]
      exact fits_of_step step (sound t List.mem_cons_self) (by simp [Parted])
    rw [← List.append_nil t.lexeme]
    exact .token blank fits (.done (by simp))
  | more t nonempty between behind ih =>
    obtain ⟨after, step, later⟩ := Option.bind_eq_some_iff.mp taken
    refine .token blank ?_ ?_
    · rw [s.due.context_place]
      exact fits_of_step step (sound t List.mem_cons_self) (parted_append nonempty between)
    rw [← State.place_of_step step]
    exact ih (fun u member => sound u (List.mem_cons_of_mem t member)) between later

/- Nothing to trim. -/

theorem isBlank_eq_false_of_isFieldChar {c : Char} (member : isFieldChar c = true) :
    isBlank c = false := by
  have range : 46 ≤ c.toNat ∧ c.toNat ≤ 122 := by
    simp only [isFieldChar, Bool.or_eq_true, beq_iff_eq] at member
    rcases member with (word | rfl) | rfl
    · delta Char.isAlphanum Char.isAlpha Char.isUpper Char.isLower Char.isDigit at word
      simp only [Bool.or_eq_true, Bool.and_eq_true, decide_eq_true_eq, ge_iff_le,
        UInt32.le_iff_toNat_le] at word
      rcases word with (upper | lower) | digit
      · exact ⟨Nat.le_trans (by decide) upper.1, Nat.le_trans upper.2 (by decide)⟩
      · exact ⟨Nat.le_trans (by decide) lower.1, Nat.le_trans lower.2 (by decide)⟩
      · exact ⟨Nat.le_trans (by decide) digit.1, Nat.le_trans digit.2 (by decide)⟩
    · decide
    · decide
  simp only [isBlank, isSpace, Bool.or_eq_false_iff, Bool.and_eq_false_iff, decide_eq_false_iff_not,
    beq_eq_false_iff_ne]
  omega

theorem isFieldChar_of_isFieldStart {c : Char} (start : isFieldStart c = true) :
    isFieldChar c = true := by
  simp only [isFieldStart, Bool.or_eq_true] at start
  rcases start with letter | line
  · simp [isFieldChar, Char.isAlphanum, letter]
  · simp [isFieldChar, line]

theorem isBlank_eq_false_of_isBareChar {c : Char} (member : isBareChar c = true) :
    isBlank c = false := by
  simp only [isBareChar, Bool.not_eq_true', Bool.or_eq_false_iff] at member
  exact member.1.1.1

def Tight (cs : List Char) : Prop :=
  cs ≠ [] ∧ Stops isBlank cs ∧ Stops isBlank cs.reverse

theorem tight_of_all (nonempty : cs ≠ []) (none : ∀ c ∈ cs, isBlank c = false) : Tight cs :=
  ⟨nonempty, stops_of_all none, stops_of_all fun c member => none c (List.mem_reverse.mp member)⟩

theorem Tight.append {middle last : List Char} (front : Tight cs) (back : Tight last) :
    Tight (cs ++ (middle ++ last)) := by
  obtain ⟨nonempty, head, _⟩ := front
  obtain ⟨filled, _, tail⟩ := back
  refine ⟨by simp [nonempty], head.append nonempty _, ?_⟩
  have reversed := tail.append (by simpa using filled) (middle.reverse ++ cs.reverse)
  simpa using reversed

theorem Tight.trim_eq (tight : Tight cs) : trim cs = cs :=
  trimBy_of_stops tight.2.1 tight.2.2

theorem Token.Sound.tight (sound : t.Sound) : Tight t.lexeme := by
  cases t with
  | field name =>
    obtain ⟨c, more, rfl, start, all⟩ := sound.pattern
    refine tight_of_all (by simp [lexeme]) fun d member => isBlank_eq_false_of_isFieldChar ?_
    rcases List.mem_cons.mp member with rfl | inside
    · exact isFieldChar_of_isFieldStart start
    · exact all d inside
  | quotedValue inner =>
    have quote : Tight ['"'] := tight_of_all (by decide) (by decide)
    exact quote.append quote
  | bareValue text => exact tight_of_all sound.1 fun c member =>
      isBlank_eq_false_of_isBareChar (sound.2 c member)
  | number text =>
    obtain ⟨n, rfl⟩ := sound
    have plain : ∀ c ∈ numeralChars, isBlank c = false := by decide
    exact tight_of_all n.lexeme_ne_nil fun c member => plain c (mem_numeralChars member)
  | comparison c => cases c <;> exact tight_of_all (by decide) (by decide)
  | existence x => cases x <;> exact tight_of_all (by decide) (by decide)
  | spatial word => cases word <;> exact tight_of_all (by decide) (by decide)
  | _ => exact tight_of_all (by decide) (by decide)

theorem Spaced.tight (spaced : Spaced ts cs) (sound : ∀ t ∈ ts, t.Sound) : Tight cs := by
  induction spaced with
  | last t => exact (sound t List.mem_cons_self).tight
  | more t _ _ _ ih =>
    exact (sound t List.mem_cons_self).tight.append
      (ih fun u member => sound u (List.mem_cons_of_mem t member))

/-- Sound tokens of a derivation are read from any text that spaces them. -/
theorem parse_of_spaced {text : String} {e : Expression} (derived : Derives ts e)
    (sound : ∀ t ∈ ts, t.Sound) (spaced : Spaced ts text.toList) : parse text = .ok e := by
  have read := State.result_of_derives derived
  obtain ⟨last, taken, _⟩ := Option.bind_eq_some_iff.mp read
  have noGap : ∀ c ∈ [], isGap c = true := by simp
  have lexes := lexes_of_spaced spaced sound noGap taken
  refine (parse_eq_ok_iff text).mpr ⟨ts, ?_, read⟩
  rw [(spaced.tight sound).trim_eq]
  exact lexes

end BondQuery.Syntax
