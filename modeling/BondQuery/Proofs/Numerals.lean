import BondQuery.Bond.Lexer
import BondQuery.Number.Read
import BondQuery.Proofs.Runs

/- Numbers as an expression writes them: a sign, digits around an optional point, an exponent.
   The scanner takes the longest numeral at the beginning of a text, and every numeral has a
   value. -/
namespace BondQuery.Syntax
open Text

inductive Sign where
  | none
  | plus
  | minus
  deriving DecidableEq, Repr

def Sign.lexeme : Sign → List Char
  | none => []
  | plus => ['+']
  | minus => ['-']

def Digits (cs : List Char) : Prop :=
  ∀ c ∈ cs, c.isDigit = true

instance (cs : List Char) : Decidable (Digits cs) :=
  inferInstanceAs (Decidable (∀ c ∈ cs, c.isDigit = true))

structure Exponent where
  mark : Char
  sign : Sign
  digits : List Char
  mark_eq : mark = 'e' ∨ mark = 'E'
  all_digits : Digits digits
  digits_ne : digits ≠ []

structure Mantissa where
  whole : List Char
  fraction : Option (List Char)
  whole_digits : Digits whole
  fraction_digits : ∀ ds ∈ fraction, Digits ds
  some_digit : whole ≠ [] ∨ ∃ ds ∈ fraction, ds ≠ []

structure Numeral where
  sign : Sign
  mantissa : Mantissa
  exponent : Option Exponent

def Numeral.integer (sign : Sign) (digits : List Char) (all : Digits digits) (filled : digits ≠ []) :
    Numeral :=
  ⟨sign, ⟨digits, none, all, by simp, .inl filled⟩, none⟩

def Exponent.lexeme (x : Exponent) : List Char :=
  x.mark :: (x.sign.lexeme ++ x.digits)

def Mantissa.lexeme (m : Mantissa) : List Char :=
  m.whole ++ (m.fraction.map ('.' :: ·)).getD []

def Numeral.body (n : Numeral) : List Char :=
  n.mantissa.lexeme ++ (n.exponent.map Exponent.lexeme).getD []

def Numeral.lexeme (n : Numeral) : List Char :=
  n.sign.lexeme ++ n.body

def Exponent.value (x : Exponent) : Int :=
  applySign (x.sign = .minus) (Nat.ofDigitChars 10 x.digits 0)

def Mantissa.places (m : Mantissa) : List Char :=
  m.fraction.getD []

/-- The number of 64 bits nearest to the decimal number. -/
def Numeral.value (n : Numeral) : Double :=
  .ofDecimal (n.sign = .minus) (Nat.ofDigitChars 10 (n.mantissa.whole ++ n.mantissa.places) 0)
    ((n.exponent.map Exponent.value).getD 0 - n.mantissa.places.length)

variable {cs rest : List Char}

/- Exponents. -/

theorem Exponent.mark_no_digit (x : Exponent) : x.mark.isDigit = false := by
  rcases x.mark_eq with lower | upper
  · rw [lower]; rfl
  · rw [upper]; rfl

theorem exponentLength_marked (mark sign : Char) (rest : List Char) (marked : mark = 'e' ∨ mark = 'E') :
    exponentLength (mark :: sign :: rest) =
      if sign = '+' ∨ sign = '-' then
        if rest.takeWhile Char.isDigit = [] then 0 else 2 + (rest.takeWhile Char.isDigit).length
      else if (sign :: rest).takeWhile Char.isDigit = [] then 0
      else 1 + ((sign :: rest).takeWhile Char.isDigit).length := by
  have isMark : (mark == 'e' || mark == 'E') = true := by simpa using marked
  simp only [exponentLength, isMark, if_true, Bool.or_eq_true, beq_iff_eq]
  split <;> split <;> simp_all

theorem exponentLength_unmarked (mark : Char) (rest : List Char)
    (unmarked : ¬ (mark = 'e' ∨ mark = 'E')) : exponentLength (mark :: rest) = 0 := by
  cases rest with
  | nil => rfl
  | cons sign rest => simp_all [exponentLength]

theorem length_le_exponentLength (x : Exponent) (rest : List Char) :
    x.lexeme.length ≤ exponentLength (x.lexeme ++ rest) := by
  have taken := length_le_takeWhile x.all_digits rest
  have filled := List.length_pos_iff.mpr x.digits_ne
  have some : (x.digits ++ rest).takeWhile Char.isDigit ≠ [] := by
    intro none
    rw [none] at taken
    simp only [List.length_nil] at taken
    omega
  cases signed : x.sign with
  | plus | minus =>
    simp only [Exponent.lexeme, signed, Sign.lexeme, List.cons_append, List.nil_append, List.length_cons]
    rw [exponentLength_marked _ _ _ x.mark_eq]
    simp [some]
    omega
  | none =>
    cases digits : x.digits with
    | nil => exact absurd digits x.digits_ne
    | cons d ds =>
      have digit : d.isDigit = true := x.all_digits d (by simp [digits])
      have unsigned : ¬ (d = '+' ∨ d = '-') := by
        rintro (rfl | rfl) <;> cases digit
      rw [digits] at taken some
      simp only [Exponent.lexeme, signed, Sign.lexeme, digits, List.cons_append, List.nil_append,
        List.length_cons] at taken some ⊢
      rw [exponentLength_marked _ _ _ x.mark_eq, if_neg unsigned, if_neg some]
      omega

theorem exponent_of_exponentLength (found : exponentLength cs ≠ 0) :
    ∃ (x : Exponent) (rest : List Char), cs = x.lexeme ++ rest ∧
      x.lexeme.length = exponentLength cs := by
  match cs with
  | [] | [_] => exact absurd rfl found
  | mark :: sign :: rest =>
    by_cases marked : mark = 'e' ∨ mark = 'E'
    · rw [exponentLength_marked mark sign rest marked] at found ⊢
      split at found
      · rename_i signed
        by_cases none : rest.takeWhile Char.isDigit = []
        · simp [none] at found
        · refine ⟨⟨mark, if sign = '+' then .plus else .minus, rest.takeWhile Char.isDigit, marked,
            fun _ => List.mem_takeWhile_imp, none⟩, rest.dropWhile Char.isDigit, ?_, ?_⟩
          · rcases signed with rfl | rfl <;>
              simp [Exponent.lexeme, Sign.lexeme, List.takeWhile_append_dropWhile]
          · rcases signed with rfl | rfl <;> simp [Exponent.lexeme, Sign.lexeme, none] <;> omega
      · rename_i unsigned
        by_cases none : (sign :: rest).takeWhile Char.isDigit = []
        · simp [none] at found
        · refine ⟨⟨mark, .none, (sign :: rest).takeWhile Char.isDigit, marked,
            fun _ => List.mem_takeWhile_imp, none⟩, (sign :: rest).dropWhile Char.isDigit, ?_, ?_⟩
          · simp [Exponent.lexeme, Sign.lexeme, List.takeWhile_append_dropWhile]
          · rw [if_neg unsigned, if_neg none]
            simp [Exponent.lexeme, Sign.lexeme]
            omega
    · exact absurd (exponentLength_unmarked mark _ marked) found

/- Mantissas. -/

def mantissaLength (cs : List Char) : Nat :=
  let whole := (cs.takeWhile Char.isDigit).length
  match cs.dropWhile Char.isDigit with
  | '.' :: r =>
    let fraction := (r.takeWhile Char.isDigit).length
    if whole = 0 && fraction = 0 then 0 else whole + 1 + fraction
  | _ => whole

theorem numberLength_eq (cs : List Char) :
    numberLength cs = if mantissaLength cs = 0 then 0
      else mantissaLength cs + exponentLength (cs.drop (mantissaLength cs)) := by
  simp only [numberLength, mantissaLength, drop_takeWhile]
  rfl

theorem mantissaLength_pointed {r : List Char} (pointed : cs.dropWhile Char.isDigit = '.' :: r) :
    mantissaLength cs =
      if cs.takeWhile Char.isDigit = [] ∧ r.takeWhile Char.isDigit = [] then 0
      else (cs.takeWhile Char.isDigit).length + 1 + (r.takeWhile Char.isDigit).length := by
  simp [mantissaLength, pointed]

theorem mantissaLength_unpointed (unpointed : ∀ r, cs.dropWhile Char.isDigit ≠ '.' :: r) :
    mantissaLength cs = (cs.takeWhile Char.isDigit).length := by
  unfold mantissaLength
  split
  · rename_i r pointed
    exact absurd pointed (unpointed r)
  · rfl

theorem stops_point (r : List Char) : Stops Char.isDigit ('.' :: r) :=
  stops_cons.mpr rfl

theorem mantissaLength_of_fraction (m : Mantissa) {ds : List Char} (pointed : m.fraction = some ds)
    (rest : List Char) :
    mantissaLength (m.lexeme ++ rest) =
      m.whole.length + 1 + ((ds ++ rest).takeWhile Char.isDigit).length := by
  have split : m.lexeme ++ rest = m.whole ++ '.' :: (ds ++ rest) := by
    simp [Mantissa.lexeme, pointed]
  have whole := takeWhile_run m.whole_digits (stops_point (ds ++ rest))
  rw [split, mantissaLength_pointed (dropWhile_run m.whole_digits (stops_point (ds ++ rest))), whole]
  refine if_neg fun ⟨noWhole, noFraction⟩ => ?_
  rcases m.some_digit with digit | ⟨es, same, digit⟩
  · exact digit noWhole
  · rw [pointed, Option.mem_some_iff] at same
    subst same
    have taken := length_le_takeWhile (m.fraction_digits ds (by simp [pointed])) rest
    rw [noFraction, List.length_nil] at taken
    exact digit (List.eq_nil_of_length_eq_zero (by omega))

theorem length_le_mantissaLength (m : Mantissa) (rest : List Char) :
    m.lexeme.length ≤ mantissaLength (m.lexeme ++ rest) := by
  cases pointed : m.fraction with
  | some ds =>
    have taken := length_le_takeWhile (m.fraction_digits ds (by simp [pointed])) rest
    rw [mantissaLength_of_fraction m pointed]
    simp only [Mantissa.lexeme, pointed, Option.map_some, Option.getD_some, List.length_append,
      List.length_cons]
    omega
  | none =>
    have bare : m.lexeme = m.whole := by simp [Mantissa.lexeme, pointed]
    have taken := length_le_takeWhile m.whole_digits rest
    rw [bare]
    cases next : (m.whole ++ rest).dropWhile Char.isDigit with
    | nil =>
      rw [mantissaLength_unpointed (by simp [next])]
      exact taken
    | cons c r =>
      by_cases point : c = '.'
      · subst point
        rw [mantissaLength_pointed next]
        split
        · rename_i empty
          rw [empty.1] at taken
          exact taken
        · omega
      · rw [mantissaLength_unpointed (by simp [next, point])]
        exact taken

theorem mantissaLength_of_stops (m : Mantissa) (stops : Stops Char.isDigit rest)
    (unpointed : ∀ r, rest ≠ '.' :: r) : mantissaLength (m.lexeme ++ rest) = m.lexeme.length := by
  cases pointed : m.fraction with
  | some ds =>
    rw [mantissaLength_of_fraction m pointed,
      takeWhile_run (m.fraction_digits ds (by simp [pointed])) stops]
    simp [Mantissa.lexeme, pointed]
    omega
  | none =>
    have bare : m.lexeme = m.whole := by simp [Mantissa.lexeme, pointed]
    rw [bare, mantissaLength_unpointed, takeWhile_run m.whole_digits stops]
    rw [dropWhile_run m.whole_digits stops]
    exact unpointed

theorem mantissa_of_mantissaLength (found : mantissaLength cs ≠ 0) :
    ∃ (m : Mantissa) (rest : List Char), cs = m.lexeme ++ rest ∧
      m.lexeme.length = mantissaLength cs := by
  have split : cs = cs.takeWhile Char.isDigit ++ cs.dropWhile Char.isDigit :=
    List.takeWhile_append_dropWhile.symm
  by_cases pointed : ∃ r, cs.dropWhile Char.isDigit = '.' :: r
  · obtain ⟨r, next⟩ := pointed
    rw [mantissaLength_pointed next] at found ⊢
    have digits : cs.takeWhile Char.isDigit ≠ [] ∨ r.takeWhile Char.isDigit ≠ [] := by
      by_contra none
      exact found (if_pos (by simpa [not_or] using none))
    refine ⟨⟨cs.takeWhile Char.isDigit, some (r.takeWhile Char.isDigit),
      fun _ => List.mem_takeWhile_imp, ?_, ?_⟩, r.dropWhile Char.isDigit, ?_, ?_⟩
    · intro ds same
      cases same
      exact fun _ => List.mem_takeWhile_imp
    · exact digits.imp id fun digit => ⟨_, rfl, digit⟩
    · conv => lhs; rw [split, next]
      simp [Mantissa.lexeme, List.takeWhile_append_dropWhile]
    · rw [if_neg fun none => digits.elim (· none.1) (· none.2)]
      simp [Mantissa.lexeme]
      omega
  · rw [mantissaLength_unpointed (by simpa using pointed)] at found ⊢
    have digits : cs.takeWhile Char.isDigit ≠ [] := by
      intro none
      simp [none] at found
    refine ⟨⟨cs.takeWhile Char.isDigit, none, fun _ => List.mem_takeWhile_imp, ?_, .inl digits⟩,
      cs.dropWhile Char.isDigit, ?_, ?_⟩
    · intro ds same
      cases same
    · simp [Mantissa.lexeme]
    · simp [Mantissa.lexeme]

theorem Mantissa.lexeme_ne_nil (m : Mantissa) : m.lexeme ≠ [] := by
  intro empty
  simp only [lexeme, List.append_eq_nil_iff] at empty
  rcases m.some_digit with digit | ⟨ds, same, _⟩
  · exact digit empty.1
  · rw [Option.mem_def] at same
    simp [same] at empty

/- Whole numerals. -/

theorem length_le_numberLength (n : Numeral) (rest : List Char) :
    n.body.length ≤ numberLength (n.body ++ rest) := by
  have filled := List.length_pos_iff.mpr n.mantissa.lexeme_ne_nil
  cases raised : n.exponent with
  | none =>
    have bare : n.body = n.mantissa.lexeme := by simp [Numeral.body, raised]
    have taken := length_le_mantissaLength n.mantissa rest
    rw [bare, numberLength_eq, if_neg (by omega)]
    omega
  | some x =>
    have split : n.body = n.mantissa.lexeme ++ x.lexeme := by simp [Numeral.body, raised]
    have unpointed : ∀ r, x.lexeme ++ rest ≠ '.' :: r := by
      intro r same
      have point : x.mark = '.' := (List.cons.inj same).1
      rcases x.mark_eq with mark | mark <;> exact absurd (mark.symm.trans point) (by decide)
    have unmarked : Stops Char.isDigit (x.lexeme ++ rest) := stops_cons.mpr x.mark_no_digit
    have taken := mantissaLength_of_stops n.mantissa unmarked unpointed
    have power := length_le_exponentLength x rest
    rw [split, List.append_assoc, numberLength_eq, taken, if_neg (by omega), List.drop_left,
      List.length_append]
    omega

theorem body_of_numberLength (found : numberLength cs ≠ 0) (sign : Sign) :
    ∃ (n : Numeral) (rest : List Char), n.sign = sign ∧ cs = n.body ++ rest ∧
      n.body.length = numberLength cs := by
  rw [numberLength_eq] at found ⊢
  split at found
  · exact absurd rfl found
  · rename_i digits
    rw [if_neg digits]
    obtain ⟨m, after, split, length⟩ := mantissa_of_mantissaLength digits
    have dropped : cs.drop (mantissaLength cs) = after := by
      rw [← length]
      conv => lhs; rw [split]
      exact List.drop_left
    rw [dropped]
    by_cases power : exponentLength after = 0
    · refine ⟨⟨sign, m, none⟩, after, rfl, ?_, ?_⟩
      · simpa [Numeral.body] using split
      · simp [Numeral.body, length, power]
    · obtain ⟨x, rest, tail, width⟩ := exponent_of_exponentLength power
      refine ⟨⟨sign, m, some x⟩, rest, rfl, ?_, ?_⟩
      · simp [Numeral.body, ← tail, ← split]
      · simp [Numeral.body, length, width]

theorem Numeral.body_head (n : Numeral) :
    ∃ c r, n.body = c :: r ∧ (c.isDigit = true ∨ c = '.') := by
  cases whole : n.mantissa.whole with
  | cons c r =>
    refine ⟨c, _, by simp [body, Mantissa.lexeme, whole]; rfl, .inl ?_⟩
    exact n.mantissa.whole_digits c (by simp [whole])
  | nil =>
    rcases n.mantissa.some_digit with digit | ⟨ds, pointed, _⟩
    · exact absurd whole digit
    · rw [Option.mem_def] at pointed
      exact ⟨'.', _, by simp [body, Mantissa.lexeme, whole, pointed]; rfl, .inr rfl⟩

theorem Numeral.lexeme_ne_nil (n : Numeral) : n.lexeme ≠ [] := by
  obtain ⟨c, r, same, _⟩ := n.body_head
  simp [lexeme, same]

theorem signLength_lexeme (n : Numeral) (rest : List Char) :
    signLength (n.lexeme ++ rest) = n.sign.lexeme.length := by
  cases signed : n.sign with
  | plus | minus => simp [Numeral.lexeme, signed, Sign.lexeme, signLength]
  | none =>
    obtain ⟨c, r, same, head⟩ := n.body_head
    have unsigned : ¬ (c = '+' ∨ c = '-') := by
      rcases head with digit | rfl
      · rintro (rfl | rfl) <;> cases digit
      · decide
    simpa [Numeral.lexeme, signed, Sign.lexeme, signLength, same] using unsigned

theorem sign_of_signLength (cs : List Char) :
    ∃ sign : Sign, cs.take (signLength cs) = sign.lexeme := by
  cases cs with
  | nil => exact ⟨.none, rfl⟩
  | cons c r =>
    by_cases plus : c = '+'
    · exact ⟨.plus, by simp [signLength, plus, Sign.lexeme]⟩
    · by_cases minus : c = '-'
      · exact ⟨.minus, by simp [signLength, minus, Sign.lexeme]⟩
      · exact ⟨.none, by simp [signLength, plus, minus, Sign.lexeme]⟩

theorem numeral_of_scanNumber {t : Token} (scanned : scanNumber cs = some (t, rest)) :
    ∃ n : Numeral, t = .number n.lexeme ∧ cs = n.lexeme ++ rest := by
  unfold scanNumber at scanned
  simp only at scanned
  split at scanned
  · cases scanned
  · rename_i found
    cases scanned
    obtain ⟨sign, taken⟩ := sign_of_signLength cs
    obtain ⟨n, after, rfl, split, length⟩ := body_of_numberLength found sign
    have whole : cs = n.lexeme ++ after := by
      rw [Numeral.lexeme, ← taken, List.append_assoc, ← split, List.take_append_drop]
    have width : signLength cs + numberLength (cs.drop (signLength cs)) = n.lexeme.length := by
      rw [← length, Numeral.lexeme, List.length_append]
      conv => lhs; lhs; rw [whole, signLength_lexeme]
    rw [width]
    refine ⟨n, ?_, ?_⟩
    · conv => lhs; rw [whole]
      rw [List.take_left]
    · conv => lhs; rw [whole]
      conv => rhs; rw [whole]
      rw [List.drop_left]

theorem scanNumber_of_numeral (n : Numeral) (rest : List Char) :
    ∃ t after, scanNumber (n.lexeme ++ rest) = some (t, after) ∧
      n.lexeme.length ≤ t.lexeme.length := by
  have taken := length_le_numberLength n rest
  have dropped : (n.lexeme ++ rest).drop n.sign.lexeme.length = n.body ++ rest := by
    rw [Numeral.lexeme, List.append_assoc, List.drop_left]
  obtain ⟨_, _, head, _⟩ := n.body_head
  have filled : n.body ≠ [] := by simp [head]
  have positive := List.length_pos_iff.mpr filled
  unfold scanNumber
  simp only [signLength_lexeme, dropped]
  split
  · rename_i empty
    omega
  · rename_i found
    refine ⟨_, _, rfl, ?_⟩
    simp only [Token.lexeme, List.length_take, List.length_append, Numeral.lexeme] at taken ⊢
    omega

def Numeral.Longest (n : Numeral) (rest : List Char) : Prop :=
  ∀ (m : Numeral) (after : List Char), m.lexeme ++ after = n.lexeme ++ rest →
    m.lexeme.length ≤ n.lexeme.length

theorem scanNumber_eq_some_iff {t : Token} :
    scanNumber cs = some (t, rest) ↔
      ∃ n : Numeral, t = .number n.lexeme ∧ cs = n.lexeme ++ rest ∧ n.Longest rest := by
  constructor
  · intro scanned
    obtain ⟨n, rfl, split⟩ := numeral_of_scanNumber scanned
    refine ⟨n, rfl, split, fun m after same => ?_⟩
    obtain ⟨t, rest', again, longer⟩ := scanNumber_of_numeral m after
    rw [same, ← split, scanned] at again
    cases again
    exact longer
  · rintro ⟨n, rfl, rfl, longest⟩
    obtain ⟨t, after, scanned, longer⟩ := scanNumber_of_numeral n rest
    obtain ⟨m, rfl, split⟩ := numeral_of_scanNumber scanned
    have shorter := longest m after split.symm
    have same : n.lexeme.length = m.lexeme.length := Nat.le_antisymm longer shorter
    obtain ⟨lexeme, behind⟩ := List.append_inj split same
    rw [scanned, lexeme, behind]

/- Values. -/

theorem digit_mem {c : Char} (digit : c.isDigit = true) :
    c ∈ ['0', '1', '2', '3', '4', '5', '6', '7', '8', '9'] := by
  have bounds : 48 ≤ c.toNat ∧ c.toNat ≤ 57 := by
    simp only [Char.isDigit, Bool.and_eq_true, decide_eq_true_eq] at digit
    exact ⟨UInt32.le_iff_toNat_le.mp digit.1, UInt32.le_iff_toNat_le.mp digit.2⟩
  have same : c = Char.ofNat c.toNat := (Char.ofNat_toNat c).symm
  obtain ⟨low, high⟩ := bounds
  generalize c.toNat = k at same low high
  subst same
  have small : k = 48 ∨ k = 49 ∨ k = 50 ∨ k = 51 ∨ k = 52 ∨ k = 53 ∨ k = 54 ∨ k = 55 ∨ k = 56 ∨
      k = 57 := by omega
  rcases small with rfl | rfl | rfl | rfl | rfl | rfl | rfl | rfl | rfl | rfl <;> decide

def numeralChars : List Char :=
  ['0', '1', '2', '3', '4', '5', '6', '7', '8', '9', '+', '-', '.', 'e', 'E']

theorem numeralChars_plain : ∀ c ∈ numeralChars,
    isSpace c = false ∧ plainDigit c = c ∧ c ≠ '_' := by
  decide

theorem mem_numeralChars {n : Numeral} {c : Char} (member : c ∈ n.lexeme) : c ∈ numeralChars := by
  have digit : ∀ ds : List Char, Digits ds → c ∈ ds → c ∈ numeralChars := by
    intro ds digits inside
    exact List.mem_append_left ['+', '-', '.', 'e', 'E'] (digit_mem (digits c inside))
  have sign : ∀ sign : Sign, c ∈ sign.lexeme → c ∈ numeralChars := by
    intro sign inside
    cases sign <;> simp_all [Sign.lexeme, numeralChars]
  simp only [Numeral.lexeme, Numeral.body, Mantissa.lexeme, List.mem_append] at member
  rcases member with signed | (whole | fraction) | power
  · exact sign _ signed
  · exact digit _ n.mantissa.whole_digits whole
  · cases pointed : n.mantissa.fraction with
    | none => simp [pointed] at fraction
    | some ds =>
      simp only [pointed, Option.map_some, Option.getD_some, List.mem_cons] at fraction
      rcases fraction with rfl | inside
      · decide
      · exact digit _ (n.mantissa.fraction_digits ds (by simp [pointed])) inside
  · cases raised : n.exponent with
    | none => simp [raised] at power
    | some x =>
      simp only [raised, Option.map_some, Option.getD_some, Exponent.lexeme, List.mem_cons,
        List.mem_append] at power
      rcases power with rfl | signed | inside
      · rcases x.mark_eq with mark | mark <;> rw [mark] <;> decide
      · exact sign _ signed
      · exact digit _ x.all_digits inside

theorem joinDigits?_of_plain (plain : ∀ c ∈ cs, c ≠ '_') (afterDigit : Bool) :
    joinDigits? afterDigit cs = some cs := by
  fun_induction joinDigits? afterDigit cs with
  | case1 => rfl
  | case2 | case3 => exact absurd rfl (plain '_' List.mem_cons_self)
  | case4 _ c _ _ same => exact absurd (by simpa using same) (plain c List.mem_cons_self)
  | case5 _ c _ _ _ ih => simp [ih fun d member => plain d (List.mem_cons_of_mem c member)]

theorem takeSign_lexeme (n : Numeral) : takeSign n.lexeme = (decide (n.sign = .minus), n.body) := by
  cases signed : n.sign with
  | plus | minus => simp [Numeral.lexeme, signed, Sign.lexeme, takeSign]
  | none =>
    obtain ⟨c, r, same, head⟩ := n.body_head
    have unsigned : c ≠ '-' ∧ c ≠ '+' := by
      rcases head with digit | rfl
      · constructor <;> rintro rfl <;> cases digit
      · decide
    simp [Numeral.lexeme, signed, Sign.lexeme, same, takeSign, unsigned]

theorem readExponent?_digits (x : Exponent) :
    readExponent? (x.sign.lexeme ++ x.digits) = some x.value := by
  have all : x.digits.all Char.isDigit = true := List.all_eq_true.mpr x.all_digits
  have split : takeSign (x.sign.lexeme ++ x.digits) = (decide (x.sign = .minus), x.digits) := by
    cases signed : x.sign with
    | plus | minus => simp [Sign.lexeme, takeSign]
    | none =>
      cases digits : x.digits with
      | nil => exact absurd digits x.digits_ne
      | cons d ds =>
        have digit : d.isDigit = true := x.all_digits d (by simp [digits])
        have unsigned : d ≠ '-' ∧ d ≠ '+' := by
          constructor <;> rintro rfl <;> cases digit
        simp [Sign.lexeme, takeSign, unsigned]
  simp [readExponent?, split, x.digits_ne, all, Exponent.value]

def readPower? : List Char → Option Int
  | [] => some 0
  | mark :: r => if mark == 'e' || mark == 'E' then readExponent? r else none

theorem readPower?_lexeme (n : Numeral) : readPower? ((n.exponent.map Exponent.lexeme).getD []) =
    some ((n.exponent.map Exponent.value).getD 0) := by
  cases n.exponent with
  | none => rfl
  | some x =>
    have marked : (x.mark == 'e' || x.mark == 'E') = true := by simpa using x.mark_eq
    simp [Exponent.lexeme, readPower?, marked, readExponent?_digits]

theorem readDecimal?_body (n : Numeral) :
    readDecimal? n.body = some ⟨Nat.ofDigitChars 10 (n.mantissa.whole ++ n.mantissa.places) 0,
      (n.exponent.map Exponent.value).getD 0 - n.mantissa.places.length⟩ := by
  have power : Stops Char.isDigit ((n.exponent.map Exponent.lexeme).getD []) := by
    cases n.exponent with
    | none => exact .nil
    | some x => exact stops_cons.mpr x.mark_no_digit
  have exponent := readPower?_lexeme n
  have unpointed : ∀ r, (n.exponent.map Exponent.lexeme).getD [] ≠ '.' :: r := by
    intro r
    cases n.exponent with
    | none => simp
    | some x => rcases x.mark_eq with mark | mark <;> simp [Exponent.lexeme, mark]
  have digits : ¬ (n.mantissa.whole = [] ∧ n.mantissa.places = []) := by
    rintro ⟨noWhole, noPlace⟩
    rcases n.mantissa.some_digit with digit | ⟨ds, pointed, digit⟩
    · exact digit noWhole
    · rw [Option.mem_def] at pointed
      simp [Mantissa.places, pointed, digit] at noPlace
  have split : n.body = n.mantissa.lexeme ++ (n.exponent.map Exponent.lexeme).getD [] := rfl
  generalize (n.exponent.map Exponent.lexeme).getD [] = tail at power exponent unpointed split
  cases pointed : n.mantissa.fraction with
  | some ds =>
    have places : n.mantissa.places = ds := by simp [Mantissa.places, pointed]
    have all : Digits ds := n.mantissa.fraction_digits ds (by simp [pointed])
    have parts : n.body = n.mantissa.whole ++ '.' :: (ds ++ tail) := by
      simp [split, Mantissa.lexeme, pointed]
    rw [places] at digits ⊢
    simp only [readDecimal?, parts, takeWhile_run n.mantissa.whole_digits (stops_point _),
      dropWhile_run n.mantissa.whole_digits (stops_point _), takeWhile_run all power,
      dropWhile_run all power, if_neg digits]
    exact congrArg (Option.map _) exponent
  | none =>
    have places : n.mantissa.places = [] := by simp [Mantissa.places, pointed]
    have parts : n.body = n.mantissa.whole ++ tail := by simp [split, Mantissa.lexeme, pointed]
    rw [places] at digits ⊢
    simp only [readDecimal?, parts, takeWhile_run n.mantissa.whole_digits power,
      dropWhile_run n.mantissa.whole_digits power]
    rw [if_neg (by simpa using digits)]
    exact congrArg (Option.map _) exponent

theorem plain_lexeme (n : Numeral) : (trimBy isSpace n.lexeme).map plainDigit = n.lexeme := by
  have plain : ∀ c ∈ n.lexeme, isSpace c = false ∧ plainDigit c = c ∧ c ≠ '_' :=
    fun c member => numeralChars_plain c (mem_numeralChars member)
  have trimmed : trimBy isSpace n.lexeme = n.lexeme :=
    trimBy_of_stops (stops_of_all fun c member => (plain c member).1)
      (stops_of_all fun c member => (plain c (List.mem_reverse.mp member)).1)
  rw [trimmed]
  exact List.map_congr_left (fun c member => (plain c member).2.1) |>.trans (List.map_id _)

theorem joinDigits?_body (n : Numeral) : joinDigits? false n.body = some n.body :=
  joinDigits?_of_plain (fun c member =>
    (numeralChars_plain c (mem_numeralChars (List.mem_append_right n.sign.lexeme member))).2.2) false

theorem readDouble?_lexeme (n : Numeral) : readDouble? n.lexeme = some n.value := by
  obtain ⟨c, r, split, head⟩ := n.body_head
  have unnamed : c.toLower ≠ 'i' ∧ c.toLower ≠ 'n' := by
    rcases head with digit | rfl
    · have lower : ∀ d ∈ ['0', '1', '2', '3', '4', '5', '6', '7', '8', '9'],
          d.toLower ≠ 'i' ∧ d.toLower ≠ 'n' := by decide
      exact lower c (digit_mem digit)
    · decide
  have noName : n.body.map Char.toLower ≠ ['i', 'n', 'f'] ∧
      n.body.map Char.toLower ≠ ['i', 'n', 'f', 'i', 'n', 'i', 't', 'y'] ∧
      n.body.map Char.toLower ≠ ['n', 'a', 'n'] := by
    simp [split, unnamed]
  simp only [readDouble?, plain_lexeme, takeSign_lexeme, joinDigits?_body, noName, or_self, if_false]
  rw [Option.bind_eq_bind, Option.bind_some, readDecimal?_body]
  rfl

theorem readInt_lexeme {n : Numeral} (pointless : n.mantissa.fraction = none)
    (plain : n.exponent = none) (short : n.mantissa.whole.length ≤ maxDigits) :
    readInt n.lexeme =
      .ok (applySign (n.sign = .minus) (Nat.ofDigitChars 10 n.mantissa.whole 0)) := by
  have body : n.body = n.mantissa.whole := by
    simp [Numeral.body, Mantissa.lexeme, pointless, plain]
  have filled : n.mantissa.whole ≠ [] := by
    rcases n.mantissa.some_digit with digit | ⟨ds, fraction, _⟩
    · exact digit
    · rw [pointless] at fraction
      cases fraction
  have digits : ∀ c ∈ n.mantissa.whole, (c.isDigit || c == '_') = true := by
    intro c member
    rw [n.mantissa.whole_digits c member]
    rfl
  have joined : joinDigits? false n.mantissa.whole = some n.mantissa.whole := by
    rw [← body]
    exact joinDigits?_body n
  have all : n.mantissa.whole.takeWhile (fun c => c.isDigit || c == '_') = n.mantissa.whole := by
    rw [List.takeWhile_eq_self_iff]
    exact digits
  have rest : n.mantissa.whole.dropWhile (fun c => c.isDigit || c == '_') = [] := by
    rw [List.dropWhile_eq_nil_iff]
    exact digits
  simp only [readInt, plain_lexeme, takeSign_lexeme, body, all, rest, joined]
  rw [if_neg (Nat.not_lt_of_le short), if_pos trivial]

end BondQuery.Syntax
