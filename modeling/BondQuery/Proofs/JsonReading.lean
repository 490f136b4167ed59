import BondQuery.Proofs.JsonGrammar

/- The reader reads every text of the grammar as the value that the text denotes, so no text has two
   values. One character, one item and one field are one step of it, whatever follows them. -/
namespace BondQuery.Json
open Syntax (Numeral Sign)
open Text (Stops stops_cons takeWhile_run dropWhile_run)
variable {cs rest : List Char}

/- Strings. -/

theorem takeString?_plain {c : Char} (unquoted : c ≠ '"') (unescaped : c ≠ '\\') (rest : List Char) :
    takeString? (c :: rest) = (takeString? rest).map fun (inner, after) => (c :: inner, after) := by
  rw [takeString?]
  · exact fun same => unquoted same
  · intro d more same
    exact absurd (by cases same; rfl) unescaped

theorem isSome_of_foldlM {n m : Nat} {digits : List Char}
    (value : digits.foldlM (fun n c => (Text.hexValue? c).map (16 * n + ·)) n = some m) :
    ∀ c ∈ digits, (Text.hexValue? c).isSome = true := by
  induction digits generalizing n with
  | nil => nofun
  | cons d rest ih =>
    rw [List.foldlM_cons] at value
    obtain ⟨k, first, others⟩ := Option.bind_eq_some_iff.mp value
    intro c member
    rcases List.mem_cons.mp member with rfl | later
    · cases digit : Text.hexValue? c with
      | none => simp [digit] at first
      | some v => rfl
    · exact ih others c later

theorem takeString?_digits {n : Nat} {digits : List Char}
    (value : Text.ofHexDigits? digits = some n) (rest : List Char) :
    takeString? (digits ++ rest) =
      (takeString? rest).map fun (inner, after) => (digits ++ inner, after) := by
  have each := isSome_of_foldlM value
  clear value
  induction digits with
  | nil => simp
  | cons c digits ih =>
    have digit := each c List.mem_cons_self
    have unquoted : c ≠ '"' := by
      rintro rfl
      cases digit
    have unescaped : c ≠ '\\' := by
      rintro rfl
      cases digit
    rw [List.cons_append, takeString?_plain unquoted unescaped,
      ih fun d member => each d (List.mem_cons_of_mem c member), Option.map_map]
    rfl

theorem takeString?_backslash (c : Char) (rest : List Char) :
    takeString? ('\\' :: c :: rest) =
      (takeString? rest).map fun (inner, after) => ('\\' :: c :: inner, after) := by
  rw [takeString?]

theorem takeString?_unit {n : Nat} {p q r s : Char}
    (value : Text.ofHexDigits? [p, q, r, s] = some n) (rest : List Char) :
    takeString? ('\\' :: 'u' :: p :: q :: r :: s :: rest) =
      (takeString? rest).map fun (inner, after) => ('\\' :: 'u' :: p :: q :: r :: s :: inner, after) := by
  have digits := takeString?_digits value rest
  simp only [List.cons_append, List.nil_append] at digits
  rw [takeString?_backslash, digits, Option.map_map]
  rfl

theorem Spells.takeString? {piece : List Char} {c : Char} (spells : Spells piece c)
    (rest : List Char) :
    takeString? (piece ++ rest) =
      (takeString? rest).map fun (inner, after) => (piece ++ inner, after) := by
  cases spells with
  | plain _ unquoted unescaped => exact takeString?_plain unquoted unescaped rest
  | letter _ => exact takeString?_backslash _ rest
  | unit value => exact takeString?_unit value rest
  | pair first _ second _ _ =>
    simp only [List.cons_append, List.nil_append]
    rw [takeString?_unit first, takeString?_unit second, Option.map_map]
    rfl

theorem codes?_letter {l c : Char} (named : (l, c) ∈ letters) (rest : List Char) :
    codes? ('\\' :: l :: rest) = (codes? rest).map (c.toNat :: ·) := by
  have known : ∀ entry ∈ letters, entry.1 ≠ 'u' ∧ shortEscape? entry.1 = some entry.2.toNat := by
    decide
  obtain ⟨other, short⟩ := known (l, c) named
  rw [codes?]
  · rw [short]
    cases codes? rest <;> rfl
  · intro a b c d more same
    exact absurd same other

theorem codes?_unit {n : Nat} {p q r s : Char} (value : Text.ofHexDigits? [p, q, r, s] = some n)
    (rest : List Char) :
    codes? ('\\' :: 'u' :: p :: q :: r :: s :: rest) = (codes? rest).map (n :: ·) := by
  rw [codes?, value]
  cases codes? rest <;> rfl

theorem codes?_plain {c : Char} (printable : 0x20 ≤ c.toNat) (unescaped : c ≠ '\\')
    (rest : List Char) : codes? (c :: rest) = (codes? rest).map (c.toNat :: ·) := by
  have legal : ¬ ((c == '\\' || decide (c.toNat < 0x20)) = true) := by
    simp [unescaped, printable]
  rw [codes?, if_neg legal]
  · intro a b c d more same
    exact absurd same unescaped
  · intro d more same
    exact absurd same unescaped

theorem surrogate_eq_false (c : Char) :
    isHighSurrogate c.toNat = false ∧ isLowSurrogate c.toNat = false := by
  have valid : c.toNat < 0xd800 ∨ 0xdfff < c.toNat ∧ c.toNat < 0x110000 := c.valid
  simp only [isHighSurrogate, isLowSurrogate, Bool.and_eq_false_iff, decide_eq_false_iff_not]
  omega

theorem joinPairs?_char (c : Char) (codes : List Nat) :
    joinPairs? (c.toNat :: codes) = (joinPairs? codes).map (c :: ·) := by
  obtain ⟨notHigh, notLow⟩ := surrogate_eq_false c
  cases codes with
  | nil => simp [joinPairs?, notHigh, notLow]
  | cons n codes => simp [joinPairs?, notHigh, notLow]

theorem joinPairs?_pair {high low : Nat} {c : Char} (leads : 0xd800 ≤ high ∧ high < 0xdc00)
    (trails : 0xdc00 ≤ low ∧ low < 0xe000)
    (joined : c.toNat = 0x10000 + (high - 0xd800) * 0x400 + (low - 0xdc00)) (codes : List Nat) :
    joinPairs? (high :: low :: codes) = (joinPairs? codes).map (c :: ·) := by
  have first : isHighSurrogate high = true := by simp [isHighSurrogate, leads]
  have second : isLowSurrogate low = true := by simp [isLowSurrogate, trails]
  rw [joinPairs?, if_pos first, if_pos second, ← joined, Char.ofNat_toNat]

theorem Spells.read {piece : List Char} {c : Char} (spells : Spells piece c) {inner cs : List Char}
    (others : (codes? inner).bind joinPairs? = some cs) :
    (codes? (piece ++ inner)).bind joinPairs? = some (c :: cs) := by
  obtain ⟨codes, units, joined⟩ := Option.bind_eq_some_iff.mp others
  cases spells with
  | plain printable _ unescaped =>
    rw [List.singleton_append, codes?_plain printable unescaped, units]
    simp [joinPairs?_char, joined]
  | letter named =>
    simp only [List.cons_append, List.nil_append]
    rw [codes?_letter named, units]
    simp [joinPairs?_char, joined]
  | unit value =>
    simp only [List.cons_append, List.nil_append]
    rw [codes?_unit value, units]
    simp [joinPairs?_char, joined]
  | pair first leads second trails pair =>
    simp only [List.cons_append, List.nil_append]
    rw [codes?_unit first, codes?_unit second, units]
    simp [joinPairs?_pair leads trails pair, joined]

theorem Quotes.read {inner cs : List Char} (quotes : Quotes inner cs) (rest : List Char) :
    takeString? (inner ++ '"' :: rest) = some (inner, rest) ∧
      (codes? inner).bind joinPairs? = some cs := by
  induction quotes with
  | nil => exact ⟨rfl, rfl⟩
  | cons first others ih =>
    obtain ⟨taken, read⟩ := ih
    rw [List.append_assoc, first.takeString?, taken]
    exact ⟨rfl, first.read read⟩

theorem readString?_quotes {inner : List Char} (quotes : Quotes inner cs) (rest : List Char) :
    readString? (inner ++ '"' :: rest) = some (String.ofList cs, rest) := by
  obtain ⟨taken, read⟩ := quotes.read rest
  obtain ⟨codes, units, joined⟩ := Option.bind_eq_some_iff.mp read
  simp [readString?, taken, units, joined]

/- Numbers. -/

def behindWhole (n : Numeral) : List Char :=
  (n.mantissa.fraction.map ('.' :: ·)).getD [] ++ (n.exponent.map Syntax.Exponent.lexeme).getD []

theorem body_eq (n : Numeral) : n.body = n.mantissa.whole ++ behindWhole n := by
  simp [Numeral.body, Syntax.Mantissa.lexeme, behindWhole]

theorem behindWhole_stops (n : Numeral) : Stops Char.isDigit (behindWhole n) := by
  unfold behindWhole
  cases n.mantissa.fraction with
  | some ds => exact stops_cons.mpr rfl
  | none =>
    cases n.exponent with
    | some x => exact stops_cons.mpr x.mark_no_digit
    | none => exact .nil

theorem isNumberForm_body {n : Numeral} (canonical : n.mantissa.Canonical) :
    isNumberForm n.body = true := by
  obtain ⟨c, ds, spelled, leading⟩ := canonical.whole
  have whole : n.body.takeWhile Char.isDigit = c :: ds := by
    rw [body_eq, takeWhile_run n.mantissa.whole_digits (behindWhole_stops n), spelled]
  have behind : n.body.dropWhile Char.isDigit = behindWhole n := by
    rw [body_eq, dropWhile_run n.mantissa.whole_digits (behindWhole_stops n)]
  have front : (c :: ds == ['0'] || (c :: ds ≠ [] && (c :: ds).head? ≠ some '0')) = true := by
    by_cases zero : c = '0'
    · simp [zero, leading zero]
    · simp [zero]
  simp only [isNumberForm, whole, behind, front, Bool.true_and]
  cases pointed : n.mantissa.fraction with
  | some places =>
    have filled := canonical.fraction places pointed
    have digits := n.mantissa.fraction_digits places pointed
    cases places with
    | nil => exact absurd rfl filled
    | cons d more => simpa [behindWhole, pointed] using digits d List.mem_cons_self
  | none =>
    cases raised : n.exponent with
    | none => simp [behindWhole, pointed, raised]
    | some x =>
      rcases x.mark_eq with mark | mark <;> simp [behindWhole, pointed, raised, Syntax.Exponent.lexeme, mark]

theorem body_all_digits_iff {n : Numeral} :
    n.body.all Char.isDigit = true ↔ n.mantissa.fraction = none ∧ n.exponent = none := by
  rw [body_eq, List.all_append, Bool.and_eq_true]
  have whole : n.mantissa.whole.all Char.isDigit = true := List.all_eq_true.mpr n.mantissa.whole_digits
  constructor
  · rintro ⟨_, digits⟩
    have none : behindWhole n = [] := by
      cases behind : behindWhole n with
      | nil => rfl
      | cons c more =>
        have outside : c.isDigit = false := stops_cons.mp (behind ▸ behindWhole_stops n)
        simp [behind, outside] at digits
    unfold behindWhole at none
    cases pointed : n.mantissa.fraction with
    | some places => simp [pointed] at none
    | none =>
      cases raised : n.exponent with
      | some x => simp [pointed, raised, Syntax.Exponent.lexeme] at none
      | none => exact ⟨rfl, rfl⟩
  · rintro ⟨unpointed, unraised⟩
    exact ⟨whole, by simp [behindWhole, unpointed, unraised]⟩

def ofBody? (negative : Bool) (body rest : List Char) : Option (Json × List Char) :=
  if !isNumberForm body then none
  else if body.all Char.isDigit then
    some (int (applySign negative (Nat.ofDigitChars 10 body 0)), rest)
  else (readDecimal? body).map fun d => (double (.ofDecimal negative d.digits d.exponent), rest)

theorem readNumber?_minus {body : List Char} (taken : cs.takeWhile isNumberChar = '-' :: body) :
    readNumber? cs = ofBody? true body (cs.dropWhile isNumberChar) := by
  simp only [readNumber?, taken]
  rfl

theorem readNumber?_unsigned {body : List Char} (taken : cs.takeWhile isNumberChar = body)
    (unsigned : body.head? ≠ some '-') :
    readNumber? cs = ofBody? false body (cs.dropWhile isNumberChar) := by
  simp only [readNumber?, taken]
  split
  · simp at unsigned
  · rfl

theorem ofBody?_body {n : Numeral} (canonical : n.mantissa.Canonical) (rest : List Char) :
    ofBody? (n.sign = .minus) n.body rest = some (ofNumeral n, rest) := by
  unfold ofBody? ofNumeral
  rw [isNumberForm_body canonical]
  by_cases whole : n.mantissa.fraction = none ∧ n.exponent = none
  · have unpointed : n.body = n.mantissa.whole := by simp [body_eq, behindWhole, whole]
    rw [if_pos whole, if_neg (by decide), if_pos (body_all_digits_iff.mpr whole), unpointed]
  · rw [if_neg whole, if_neg (by decide), if_neg (mt body_all_digits_iff.mp whole),
      Syntax.readDecimal?_body]
    rfl

theorem readNumber?_lexeme {n : Numeral} (number : IsNumber n) (stops : Stops isNumberChar rest) :
    readNumber? (n.lexeme ++ rest) = some (ofNumeral n, rest) := by
  have plain : ∀ c ∈ Syntax.numeralChars, isNumberChar c = true := by decide
  have all : ∀ c ∈ n.lexeme, isNumberChar c = true :=
    fun c member => plain c (Syntax.mem_numeralChars member)
  have taken := takeWhile_run all stops
  have behind := dropWhile_run all stops
  have value := ofBody?_body number.canonical rest
  cases signed : n.sign with
  | plus => exact absurd signed number.unsigned
  | minus =>
    have spelled : n.lexeme = '-' :: n.body := by simp [Numeral.lexeme, signed, Sign.lexeme]
    rw [readNumber?_minus (taken.trans spelled), behind, ← value, signed]
    rfl
  | none =>
    have spelled : n.lexeme = n.body := by simp [Numeral.lexeme, signed, Sign.lexeme]
    have unsigned : n.body.head? ≠ some '-' := by
      obtain ⟨c, r, same, head⟩ := n.body_head
      rw [same]
      rintro ⟨rfl⟩
      rcases head with digit | point
      · cases digit
      · cases point
    rw [readNumber?_unsigned (taken.trans spelled) unsigned, behind, ← value, signed]
    rfl

/- White space. -/

theorem skipSpace_gap {gap : List Char} (blank : Gap gap) (stops : Stops isJsonSpace rest) :
    skipSpace (gap ++ rest) = rest :=
  dropWhile_run blank stops

theorem skipSpace_idem (cs : List Char) : skipSpace (skipSpace cs) = skipSpace cs :=
  (Text.stops_dropWhile isJsonSpace cs).dropWhile_eq_self

/-- No number goes on behind white space. -/
theorem gap_stops {gap : List Char} (blank : Gap gap) (stops : Stops isNumberChar rest) :
    Stops isNumberChar (gap ++ rest) := by
  cases gap with
  | nil => exact stops
  | cons c gap =>
    have space := blank c List.mem_cons_self
    simp only [isJsonSpace, Bool.or_eq_true, beq_iff_eq] at space
    rcases space with ((rfl | rfl) | rfl) | rfl <;> exact stops_cons.mpr rfl

/- Values. -/

section
variable {fuel : Nat} {more : List Char}

theorem readValue?_skipSpace (cs : List Char) : readValue? fuel (skipSpace cs) = readValue? fuel cs := by
  cases fuel with
  | zero => simp only [readValue?]
  | succ fuel => simp only [readValue?, skipSpace_idem]

theorem readItems?_skipSpace (cs : List Char) : readItems? fuel (skipSpace cs) = readItems? fuel cs := by
  cases fuel with
  | zero => simp only [readItems?]
  | succ fuel => simp only [readItems?, readValue?_skipSpace]

theorem readFields?_skipSpace (cs : List Char) :
    readFields? fuel (skipSpace cs) = readFields? fuel cs := by
  cases fuel with
  | zero => simp only [readFields?]
  | succ fuel => simp only [readFields?, skipSpace_idem]

theorem readValue?_string (opened : skipSpace cs = '"' :: more) :
    readValue? (fuel + 1) cs = (readString? more).map fun (s, after) => (string s, after) := by
  simp only [readValue?, opened]

theorem readValue?_array (opened : skipSpace cs = '[' :: more)
    (filled : (skipSpace more).head? ≠ some ']') :
    readValue? (fuel + 1) cs = (readItems? fuel more).map fun (xs, after) => (array xs, after) := by
  simp only [readValue?, opened]
  split
  · rename_i closed
    exact absurd (by rw [closed]; rfl) filled
  · rw [readItems?_skipSpace]

theorem readValue?_object (opened : skipSpace cs = '\x7b' :: more)
    (filled : (skipSpace more).head? ≠ some '\x7d') :
    readValue? (fuel + 1) cs = (readFields? fuel more).map fun (xs, after) => (object xs, after) := by
  simp only [readValue?, opened]
  split
  · rename_i closed
    exact absurd (by rw [closed]; rfl) filled
  · rw [readFields?_skipSpace]

theorem readValue?_number {c : Char} (opened : skipSpace cs = c :: more)
    (other : c ∉ ['n', 't', 'f', '"', '[', '\x7b']) :
    readValue? (fuel + 1) cs = readNumber? (c :: more) := by
  simp only [readValue?, opened]
  split <;> simp_all

end

/-- The text is read as the value, wherever it stands and whatever stops a number behind it. -/
def Reads (text : List Char) (value : Json) : Prop :=
  ∀ (gap rest : List Char) (fuel : Nat), Gap gap → Stops isNumberChar rest → text.length < fuel →
    readValue? fuel (gap ++ (text ++ rest)) = some (value, rest)

theorem Reads.element {e : Element} (reads : Reads e.text e.value) (spaced : e.Spaced) {fuel : Nat}
    (enough : e.chars.length < fuel) (stops : Stops isNumberChar rest) :
    readValue? fuel (e.chars ++ rest) = some (e.value, e.after ++ rest) := by
  have shorter : e.text.length < fuel := by
    simp only [Element.chars, List.length_append] at enough
    omega
  have read := reads e.before (e.after ++ rest) fuel spaced.before (gap_stops spaced.after stops) shorter
  simpa [Element.chars] using read

theorem Element.skipSpace_after {e : Element} (spaced : e.Spaced) {c : Char}
    (printed : isJsonSpace c = false) (rest : List Char) :
    skipSpace (e.after ++ c :: rest) = c :: rest :=
  skipSpace_gap spaced.after (stops_cons.mpr printed)

theorem readItems?_last {fuel : Nat} {value : Json} {behind : List Char}
    (read : readValue? fuel cs = some (value, behind)) (closed : skipSpace behind = ']' :: rest) :
    readItems? (fuel + 1) cs = some ([value], rest) := by
  simp [readItems?, read, closed]

theorem readItems?_more {fuel : Nat} {value : Json} {values : List Json} {behind more : List Char}
    (read : readValue? fuel cs = some (value, behind)) (comma : skipSpace behind = ',' :: more)
    (others : readItems? fuel more = some (values, rest)) :
    readItems? (fuel + 1) cs = some (value :: values, rest) := by
  simp [readItems?, read, comma, others]

theorem readItems?_separated {items : List Element} (filled : items ≠ [])
    (spaced : ∀ e ∈ items, e.Spaced) (values : ∀ e ∈ items, Reads e.text e.value) {fuel : Nat}
    (enough : (separated (items.map Element.chars)).length + 1 < fuel) (rest : List Char) :
    readItems? fuel (separated (items.map Element.chars) ++ ']' :: rest) =
      some (items.map Element.value, rest) := by
  induction items generalizing fuel with
  | nil => exact absurd rfl filled
  | cons e items ih =>
    obtain ⟨here, there⟩ := List.forall_mem_cons.mp spaced
    obtain ⟨value, others⟩ := List.forall_mem_cons.mp values
    cases fuel with
    | zero => omega
    | succ fuel =>
      cases items with
      | nil =>
        have read := value.element here (Nat.lt_of_succ_lt_succ enough)
          (stops_cons.mpr rfl : Stops isNumberChar (']' :: rest))
        exact readItems?_last read (Element.skipSpace_after here rfl rest)
      | cons next items =>
        have split : separated ((e :: next :: items).map Element.chars) =
            e.chars ++ ',' :: separated ((next :: items).map Element.chars) := rfl
        rw [split, List.length_append, List.length_cons] at enough
        rw [split, List.append_assoc, List.cons_append]
        have short : e.chars.length < fuel := by omega
        have less : (separated ((next :: items).map Element.chars)).length + 1 < fuel := by omega
        have read := value.element here short (stops_cons.mpr rfl : Stops isNumberChar
          (',' :: (separated ((next :: items).map Element.chars) ++ ']' :: rest)))
        have later := ih (List.cons_ne_nil _ _) there others less
        exact readItems?_more read (Element.skipSpace_after here rfl _) later

def Opens (cs : List Char) (name : String) (behind : List Char) : Prop :=
  ∃ text after, skipSpace cs = '"' :: text ∧ readString? text = some (name, after) ∧
    skipSpace after = ':' :: behind

theorem Member.opens {m : Member} (named : m.Named) (rest : List Char) :
    Opens (m.chars ++ rest) (String.ofList m.name) (m.element.chars ++ rest) := by
  have quote : skipSpace (m.chars ++ rest) =
      '"' :: (m.quoted ++ '"' :: (m.after ++ ':' :: (m.element.chars ++ rest))) := by
    have split : m.chars ++ rest =
        m.before ++ '"' :: (m.quoted ++ '"' :: (m.after ++ ':' :: (m.element.chars ++ rest))) := by
      simp [Member.chars]
    rw [split]
    exact skipSpace_gap named.before (stops_cons.mpr rfl)
  exact ⟨_, _, quote, readString?_quotes named.quoted _, skipSpace_gap named.after (stops_cons.mpr rfl)⟩

theorem readFields?_last {fuel : Nat} {name : String} {value : Json} {behind after : List Char}
    (opens : Opens cs name behind) (read : readValue? fuel behind = some (value, after))
    (closed : skipSpace after = '\x7d' :: rest) :
    readFields? (fuel + 1) cs = some ([(name, value)], rest) := by
  obtain ⟨text, colon, quote, named, follows⟩ := opens
  simp [readFields?, quote, named, follows, read, closed]

theorem readFields?_more {fuel : Nat} {name : String} {value : Json} {fields : List (String × Json)}
    {behind after more : List Char} (opens : Opens cs name behind)
    (read : readValue? fuel behind = some (value, after)) (comma : skipSpace after = ',' :: more)
    (others : readFields? fuel more = some (fields, rest)) :
    readFields? (fuel + 1) cs = some ((name, value) :: fields, rest) := by
  obtain ⟨text, colon, quote, named, follows⟩ := opens
  simp [readFields?, quote, named, follows, read, comma, others]

theorem Member.length_element_le (m : Member) : m.element.chars.length ≤ m.chars.length := by
  simp only [Member.chars, List.length_append, List.length_cons]
  omega

theorem readFields?_separated {members : List Member} (filled : members ≠ [])
    (named : ∀ m ∈ members, m.Named) (values : ∀ m ∈ members, Reads m.element.text m.element.value)
    {fuel : Nat} (enough : (separated (members.map Member.chars)).length + 1 < fuel)
    (rest : List Char) :
    readFields? fuel (separated (members.map Member.chars) ++ '\x7d' :: rest) =
      some (members.map Member.field, rest) := by
  induction members generalizing fuel with
  | nil => exact absurd rfl filled
  | cons m members ih =>
    obtain ⟨here, there⟩ := List.forall_mem_cons.mp named
    obtain ⟨value, others⟩ := List.forall_mem_cons.mp values
    have within := m.length_element_le
    cases fuel with
    | zero => omega
    | succ fuel =>
      cases members with
      | nil =>
        have short : m.element.chars.length < fuel :=
          Nat.lt_of_le_of_lt within (Nat.lt_of_succ_lt_succ enough)
        have read := value.element here.spaced short
          (stops_cons.mpr rfl : Stops isNumberChar ('\x7d' :: rest))
        exact readFields?_last (Member.opens here _) read (Element.skipSpace_after here.spaced rfl rest)
      | cons next members =>
        have split : separated ((m :: next :: members).map Member.chars) =
            m.chars ++ ',' :: separated ((next :: members).map Member.chars) := rfl
        rw [split, List.length_append, List.length_cons] at enough
        rw [split, List.append_assoc, List.cons_append]
        have short : m.element.chars.length < fuel := by omega
        have less : (separated ((next :: members).map Member.chars)).length + 1 < fuel := by omega
        have read := value.element here.spaced short (stops_cons.mpr rfl : Stops isNumberChar
          (',' :: (separated ((next :: members).map Member.chars) ++ '\x7d' :: rest)))
        have later := ih (List.cons_ne_nil _ _) there others less
        exact readFields?_more (Member.opens here _) read (Element.skipSpace_after here.spaced rfl _) later

theorem IsNumber.head {n : Numeral} (number : IsNumber n) :
    ∃ c more, n.lexeme = c :: more ∧
      c ∈ ['-', '0', '1', '2', '3', '4', '5', '6', '7', '8', '9'] := by
  obtain ⟨c, ds, spelled, _⟩ := number.canonical.whole
  have digit : c ∈ ['0', '1', '2', '3', '4', '5', '6', '7', '8', '9'] :=
    Syntax.digit_mem (n.mantissa.whole_digits c (by simp [spelled]))
  have body : n.body = c :: (ds ++ behindWhole n) := by rw [body_eq, spelled, List.cons_append]
  cases signed : n.sign with
  | plus => exact absurd signed number.unsigned
  | minus => exact ⟨'-', n.body, by simp [Numeral.lexeme, signed, Sign.lexeme], List.mem_cons_self⟩
  | none =>
    refine ⟨c, ds ++ behindWhole n, ?_, List.mem_cons_of_mem '-' digit⟩
    rw [Numeral.lexeme, signed, Sign.lexeme, List.nil_append, body]

def Begun (cs : List Char) : Prop :=
  ∃ c more, cs = c :: more ∧ isJsonSpace c = false ∧ c ≠ ']'

theorem Denotes.begun {json : Json} (denotes : Denotes cs json) : Begun cs := by
  cases denotes with
  | number number =>
    have first : ∀ c ∈ ['-', '0', '1', '2', '3', '4', '5', '6', '7', '8', '9'],
        isJsonSpace c = false ∧ c ≠ ']' := by decide
    obtain ⟨c, more, same, listed⟩ := number.head
    exact ⟨c, more, same, first c listed⟩
  | _ => exact ⟨_, _, rfl, rfl, by decide⟩

theorem separated_begins (first : List Char) (others : List (List Char)) :
    ∃ behind, separated (first :: others) = first ++ behind := by
  cases others with
  | nil => exact ⟨[], (List.append_nil first).symm⟩
  | cons next others => exact ⟨',' :: separated (next :: others), rfl⟩

theorem items_unclosed {items : List Element} (filled : items ≠ []) (spaced : ∀ e ∈ items, e.Spaced)
    (begun : ∀ e ∈ items, Begun e.text) (rest : List Char) :
    (skipSpace (separated (items.map Element.chars) ++ rest)).head? ≠ some ']' := by
  obtain ⟨e, items, rfl⟩ := List.exists_cons_of_ne_nil filled
  obtain ⟨c, more, same, printed, unclosed⟩ := begun e List.mem_cons_self
  obtain ⟨behind, split⟩ := separated_begins e.chars (items.map Element.chars)
  have whole : separated ((e :: items).map Element.chars) ++ rest =
      e.before ++ c :: (more ++ e.after ++ behind ++ rest) := by
    rw [List.map_cons, split]
    simp [Element.chars, same]
  rw [whole, skipSpace_gap (spaced e List.mem_cons_self).before (stops_cons.mpr printed)]
  simpa using unclosed

theorem fields_unclosed {members : List Member} (filled : members ≠ [])
    (named : ∀ m ∈ members, m.Named) (rest : List Char) :
    (skipSpace (separated (members.map Member.chars) ++ rest)).head? ≠ some '\x7d' := by
  obtain ⟨m, members, rfl⟩ := List.exists_cons_of_ne_nil filled
  obtain ⟨behind, split⟩ := separated_begins m.chars (members.map Member.chars)
  obtain ⟨text, after, quote, _⟩ := Member.opens (named m List.mem_cons_self) (behind ++ rest)
  have whole : separated ((m :: members).map Member.chars) ++ rest = m.chars ++ (behind ++ rest) := by
    rw [List.map_cons, split, List.append_assoc]
  rw [whole, quote]
  simp

theorem reads_of_opened {json : Json} {c : Char} {more : List Char}
    (printed : isJsonSpace c = false)
    (read : ∀ (cs rest : List Char) (fuel : Nat), skipSpace cs = c :: (more ++ rest) →
      Stops isNumberChar rest → more.length < fuel →
      readValue? (fuel + 1) cs = some (json, rest)) : Reads (c :: more) json := by
  intro gap rest fuel blank stops enough
  cases fuel with
  | zero => exact absurd enough (Nat.not_lt_zero _)
  | succ fuel =>
    have opened : skipSpace (gap ++ (c :: more ++ rest)) = c :: (more ++ rest) :=
      skipSpace_gap blank (stops_cons.mpr printed)
    exact read _ rest fuel opened stops (Nat.lt_of_succ_lt_succ enough)

theorem Denotes.reads {json : Json} (denotes : Denotes cs json) : Reads cs json := by
  induction denotes with
  | null | isTrue | isFalse =>
    refine reads_of_opened rfl fun cs rest fuel opened _ _ => ?_
    simp only [readValue?, opened, List.cons_append, List.nil_append]
  | @number n number =>
    obtain ⟨c, more, same, listed⟩ := number.head
    have first : ∀ c ∈ ['-', '0', '1', '2', '3', '4', '5', '6', '7', '8', '9'],
        isJsonSpace c = false ∧ c ∉ ['n', 't', 'f', '"', '[', '\x7b'] := by decide
    obtain ⟨printed, other⟩ := first c listed
    rw [same]
    refine reads_of_opened printed fun cs rest fuel opened stops _ => ?_
    rw [readValue?_number opened other, ← List.cons_append, ← same]
    exact readNumber?_lexeme number stops
  | string quotes =>
    rw [List.cons_append]
    refine reads_of_opened rfl fun cs rest fuel opened _ _ => ?_
    rw [List.append_assoc] at opened
    rw [readValue?_string opened]
    simp [readString?_quotes quotes rest]
  | emptyArray blank =>
    rw [List.cons_append]
    refine reads_of_opened rfl fun cs rest fuel opened _ _ => ?_
    rw [List.append_assoc] at opened
    have closed := skipSpace_gap blank (stops_cons.mpr rfl : Stops isJsonSpace (']' :: rest))
    simp only [readValue?, opened, List.singleton_append, closed]
  | array filled spaced values each =>
    rw [List.cons_append]
    refine reads_of_opened rfl fun cs rest fuel opened _ enough => ?_
    rw [List.append_assoc] at opened
    rw [List.length_append, List.length_singleton] at enough
    have begun := fun e member => (values e member).begun
    rw [readValue?_array opened (items_unclosed filled spaced begun _), List.singleton_append,
      readItems?_separated filled spaced each enough rest]
    rfl
  | emptyObject blank =>
    rw [List.cons_append]
    refine reads_of_opened rfl fun cs rest fuel opened _ _ => ?_
    rw [List.append_assoc] at opened
    have closed := skipSpace_gap blank (stops_cons.mpr rfl : Stops isJsonSpace ('\x7d' :: rest))
    simp only [readValue?, opened, List.singleton_append, closed]
  | object filled named values each =>
    rw [List.cons_append]
    refine reads_of_opened rfl fun cs rest fuel opened _ enough => ?_
    rw [List.append_assoc] at opened
    rw [List.length_append, List.length_singleton] at enough
    rw [readValue?_object opened (fields_unclosed filled named _), List.singleton_append,
      readFields?_separated filled named each enough rest]
    rfl

/-- Every text of the grammar is read as the value that it denotes, up to the white space behind it. -/
theorem readValue?_of_isText {json : Json} (text : IsText cs json) {fuel : Nat}
    (enough : cs.length < fuel) :
    ∃ rest, readValue? fuel cs = some (json, rest) ∧ skipSpace rest = [] := by
  obtain ⟨e, spaced, denotes, rfl, rfl⟩ := text
  have shorter : e.text.length < fuel := by
    simp only [Element.chars, List.length_append] at enough
    omega
  have stops : Stops isNumberChar e.after := by simpa using gap_stops spaced.after Stops.nil
  refine ⟨e.after, ?_, by simpa using skipSpace_gap spaced.after Stops.nil⟩
  rw [Element.chars, List.append_assoc]
  exact denotes.reads e.before e.after fuel spaced.before stops shorter

theorem parse?_of_isText {json : Json} (text : IsText cs json) :
    parse? (String.ofList cs) = some json := by
  obtain ⟨rest, read, blank⟩ := readValue?_of_isText text (Nat.lt_succ_self cs.length)
  simp [parse?, read, blank]

theorem IsText.unique {json other : Json} (text : IsText cs json) (again : IsText cs other) :
    json = other := by
  have read := parse?_of_isText text
  rw [parse?_of_isText again] at read
  exact (Option.some.inj read).symm

end BondQuery.Json
