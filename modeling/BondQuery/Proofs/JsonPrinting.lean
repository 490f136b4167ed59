import BondQuery.Json.Printer
import BondQuery.Proofs.JsonReading

/- Printed JSON. A value whose numbers are finite is printed as a text that denotes it, and every
   value in printable characters of ASCII. -/
namespace BondQuery

def Double.isFinite : Double → Bool
  | finite _ _ => true
  | _ => false

namespace Json
def Printable (c : Char) : Prop :=
  0x20 ≤ c.toNat ∧ c.toNat < 0x7f

instance (c : Char) : Decidable (Printable c) :=
  inferInstanceAs (Decidable (_ ∧ _))

/- Escapes. -/

theorem hexDigits_succ {width : Nat} (some : 0 < width) (n : Nat) :
    Text.hexDigits (width + 1) n = Text.hexDigits width (n / 16) ++ [(n % 16).digitChar] := by
  simp only [Text.hexDigits]
  by_cases single : n < 16
  · have none : n / 16 = 0 := Nat.div_eq_of_lt single
    have zeros : List.replicate width '0' = List.replicate (width - 1) '0' ++ ['0'] := by
      rw [← List.replicate_succ', Nat.sub_add_cancel some]
    have zero : Nat.toDigits 16 0 = ['0'] := rfl
    rw [Nat.toDigits_of_lt_base single, none, Nat.mod_eq_of_lt single, zero, List.length_singleton,
      List.length_singleton, Nat.add_sub_cancel, zeros]
  · rw [Nat.toDigits_of_base_le (by decide) (Nat.le_of_not_lt single)]
    simp

theorem hexValue?_digitChar : ∀ d < 16, Text.hexValue? (Nat.digitChar d) = some d := by
  decide

theorem ofHexDigits?_hexDigits {width n : Nat} (some : 0 < width) (small : n < 16 ^ width) :
    Text.ofHexDigits? (Text.hexDigits width n) = .some n := by
  induction width generalizing n with
  | zero => exact absurd some (Nat.lt_irrefl 0)
  | succ width ih =>
    by_cases single : width = 0
    · subst single
      have digit : n < 16 := small
      have spelled : Text.hexDigits 1 n = [n.digitChar] := by
        simp [Text.hexDigits, Nat.toDigits_of_lt_base digit]
      rw [spelled]
      simp [Text.ofHexDigits?, hexValue?_digitChar n digit]
    · have others : 0 < width := Nat.pos_of_ne_zero single
      have quotient : n / 16 < 16 ^ width := Nat.div_lt_of_lt_mul (by rwa [← Nat.pow_succ'])
      have read := ih others quotient
      unfold Text.ofHexDigits? at read ⊢
      rw [hexDigits_succ others, List.foldlM_append, read]
      simp [hexValue?_digitChar (n % 16) (Nat.mod_lt n (by decide)), Nat.div_add_mod]

theorem exists_hexDigits {n : Nat} (small : n < 0x10000) :
    ∃ p q r s, Text.hexDigits 4 n = [p, q, r, s] ∧ Text.ofHexDigits? [p, q, r, s] = some n := by
  have spelled : Text.hexDigits 4 n = Text.hexDigits 1 (n / 16 / 16 / 16) ++
      [(n / 16 / 16 % 16).digitChar] ++ [(n / 16 % 16).digitChar] ++ [(n % 16).digitChar] := by
    rw [hexDigits_succ (by decide), hexDigits_succ (by decide), hexDigits_succ (by decide)]
  have first : Text.hexDigits 1 (n / 16 / 16 / 16) = [(n / 16 / 16 / 16).digitChar] := by
    have digit : n / 16 / 16 / 16 < 16 := by omega
    simp [Text.hexDigits, Nat.toDigits_of_lt_base digit]
  have read := ofHexDigits?_hexDigits (by decide : 0 < 4) small
  rw [spelled, first] at read
  exact ⟨_, _, _, _, by rw [spelled, first]; rfl, read⟩

theorem escapeChar_cases (c : Char) :
    (∃ l, (l, c) ∈ letters ∧ escapeChar c = ['\\', l]) ∨
    (Printable c ∧ c ≠ '"' ∧ c ≠ '\\' ∧ escapeChar c = [c]) ∨
    (c.toNat < 0x10000 ∧ escapeChar c = unitEscape c.toNat) ∨
    (0x10000 ≤ c.toNat ∧ escapeChar c =
      unitEscape (0xd800 + (c.toNat - 0x10000) / 0x400) ++
        unitEscape (0xdc00 + (c.toNat - 0x10000) % 0x400)) := by
  unfold escapeChar
  split
  · rename_i quote
    rcases (by simpa using quote : c = '"' ∨ c = '\\') with rfl | rfl
    · exact .inl ⟨_, by decide, rfl⟩
    · exact .inl ⟨_, by decide, rfl⟩
  split
  · rename_i newline
    obtain rfl := eq_of_beq newline
    exact .inl ⟨_, by decide, rfl⟩
  split
  · rename_i carriage
    obtain rfl := eq_of_beq carriage
    exact .inl ⟨_, by decide, rfl⟩
  split
  · rename_i tab
    obtain rfl := eq_of_beq tab
    exact .inl ⟨_, by decide, rfl⟩
  split
  · rename_i feed
    obtain rfl := eq_of_beq feed
    exact .inl ⟨_, by decide, rfl⟩
  split
  · rename_i backspace
    obtain rfl := eq_of_beq backspace
    exact .inl ⟨_, by decide, rfl⟩
  split
  · rename_i unquoted _ _ _ _ _ printable
    simp only [Bool.or_eq_true, beq_iff_eq, not_or] at unquoted
    exact .inr (.inl ⟨printable, unquoted.1, unquoted.2, rfl⟩)
  split
  · rename_i small
    exact .inr (.inr (.inl ⟨small, rfl⟩))
  · rename_i large
    exact .inr (.inr (.inr ⟨Nat.le_of_not_lt large, rfl⟩))

theorem surrogates_of_large {c : Char} (large : 0x10000 ≤ c.toNat) :
    0xd800 + (c.toNat - 0x10000) / 0x400 < 0xdc00 ∧
      0xdc00 + (c.toNat - 0x10000) % 0x400 < 0xe000 := by
  have valid : c.toNat < 0xd800 ∨ 0xdfff < c.toNat ∧ c.toNat < 0x110000 := c.valid
  omega

theorem escapeChar_spells (c : Char) : Spells (escapeChar c) c := by
  rcases escapeChar_cases c with ⟨l, named, written⟩ | ⟨printable, unquoted, unescaped, written⟩ |
    ⟨small, written⟩ | ⟨large, written⟩
  · rw [written]
    exact .letter named
  · rw [written]
    exact .plain printable.1 unquoted unescaped
  · obtain ⟨p, q, r, s, digits, value⟩ := exists_hexDigits small
    rw [written, unitEscape, digits]
    exact .unit value
  · obtain ⟨high, low⟩ := surrogates_of_large large
    obtain ⟨p, q, r, s, digits, value⟩ := exists_hexDigits (Nat.lt_trans high (by decide))
    obtain ⟨p', q', r', s', digits', value'⟩ := exists_hexDigits (Nat.lt_trans low (by decide))
    rw [written, unitEscape, unitEscape, digits, digits']
    exact .pair value ⟨Nat.le_add_right _ _, high⟩ value' ⟨Nat.le_add_right _ _, low⟩ (by omega)

theorem quotes_escaped (cs : List Char) : Quotes (cs.flatMap escapeChar) cs := by
  induction cs with
  | nil => exact .nil
  | cons c cs ih =>
    rw [List.flatMap_cons]
    exact .cons (escapeChar_spells c) ih

/- Numbers. -/

theorem exists_number_of_int (n : Int) :
    ∃ number : Syntax.Numeral, IsNumber number ∧ number.lexeme = intChars n ∧
      ofNumeral number = int n := by
  obtain ⟨m, whole, canonical, lexeme, value, _⟩ := exists_mantissa_of_int n
  have unsigned : signOf (n < 0) ≠ .plus := by
    unfold signOf
    split <;> decide
  have negates : decide (signOf (n < 0) = .minus) = decide (n < 0) := by
    cases decide (n < 0) <;> rfl
  refine ⟨⟨signOf (n < 0), m, none⟩, ⟨unsigned, canonical⟩, ?_, ?_⟩
  · simpa [Syntax.Numeral.lexeme, Syntax.Numeral.body] using lexeme
  · rw [ofNumeral, if_pos ⟨whole, rfl⟩, negates, value]

theorem exists_number_of_finite (negative : Bool) (m : Magnitude) :
    ∃ number : Syntax.Numeral, IsNumber number ∧
      number.lexeme = (Double.finite negative m).chars ∧
      ofNumeral number = double (.finite negative m) := by
  obtain ⟨n, signed, lexeme, canonical, value⟩ := exists_numeral_of_finite negative m
  have unsigned : n.sign ≠ .plus := by
    rw [signed]
    cases negative <;> decide
  have fractional : ¬ (n.mantissa.fraction = none ∧ n.exponent = none) := by
    rintro ⟨unpointed, unraised⟩
    rcases canonical.fractional with pointed | raised
    · exact pointed unpointed
    · exact raised unraised
  refine ⟨n, ⟨unsigned, canonical.mantissa⟩, lexeme, ?_⟩
  rw [ofNumeral, if_neg fractional, value]

theorem denotes_int (n : Int) : Denotes (intChars n) (int n) := by
  obtain ⟨number, isNumber, lexeme, value⟩ := exists_number_of_int n
  rw [← lexeme, ← value]
  exact .number isNumber

theorem denotes_finite (negative : Bool) (m : Magnitude) :
    Denotes (Double.finite negative m).chars (double (.finite negative m)) := by
  obtain ⟨number, isNumber, lexeme, value⟩ := exists_number_of_finite negative m
  rw [← lexeme, ← value]
  exact .number isNumber

/- Values. -/

mutual

def isFinite : Json → Bool
  | double x => x.isFinite
  | array items => itemsFinite items
  | object fields => fieldsFinite fields
  | _ => true

def itemsFinite : List Json → Bool
  | [] => true
  | item :: rest => item.isFinite && itemsFinite rest

def fieldsFinite : List (String × Json) → Bool
  | [] => true
  | (_, value) :: rest => value.isFinite && fieldsFinite rest

end

theorem itemsFinite_iff {items : List Json} :
    itemsFinite items = true ↔ ∀ item ∈ items, item.isFinite = true := by
  induction items with
  | nil => simp [itemsFinite]
  | cons item rest ih => simp [itemsFinite, ih]

theorem fieldsFinite_iff {fields : List (String × Json)} :
    fieldsFinite fields = true ↔ ∀ field ∈ fields, field.2.isFinite = true := by
  induction fields with
  | nil => simp [fieldsFinite]
  | cons field rest ih => simp [fieldsFinite, ih]

@[simp] theorem isFinite_string (s : String) : (string s).isFinite = true := rfl

@[simp] theorem isFinite_double (x : Double) : (double x).isFinite = x.isFinite := rfl

@[simp] theorem isFinite_array (items : List Json) :
    (array items).isFinite = true ↔ ∀ item ∈ items, item.isFinite = true := itemsFinite_iff

@[simp] theorem isFinite_object (fields : List (String × Json)) :
    (object fields).isFinite = true ↔ ∀ field ∈ fields, field.2.isFinite = true := fieldsFinite_iff

@[simp] theorem isFinite_field (name : String) (value : Json) :
    (field name value).isFinite = true ↔ value.isFinite = true := by
  simp [field]

def printed (item : Json) : Element :=
  ⟨[], item.chars, [], item⟩

def printedField (field : String × Json) : Member :=
  ⟨[], field.1.toList.flatMap escapeChar, [], field.1.toList, printed field.2⟩

theorem itemChars_cons (item next : Json) (rest : List Json) :
    itemChars (item :: next :: rest) = item.chars ++ ',' :: itemChars (next :: rest) := rfl

theorem fieldChars_cons (field next : String × Json) (rest : List (String × Json)) :
    fieldChars (field :: next :: rest) =
      fieldChars [field] ++ ',' :: fieldChars (next :: rest) := by
  simp [fieldChars]

theorem fieldChars_singleton (field : String × Json) :
    fieldChars [field] = (printedField field).chars := by
  simp [fieldChars, printedField, printed, Member.chars, Element.chars, stringChars]

theorem itemChars_eq (items : List Json) :
    itemChars items = separated ((items.map printed).map Element.chars) := by
  induction items with
  | nil => rfl
  | cons item rest ih =>
    cases rest with
    | nil => simp [itemChars, separated, printed, Element.chars]
    | cons next rest =>
      rw [itemChars_cons, ih]
      simp [separated, printed, Element.chars]

theorem fieldChars_eq (fields : List (String × Json)) :
    fieldChars fields = separated ((fields.map printedField).map Member.chars) := by
  induction fields with
  | nil => rfl
  | cons field rest ih =>
    cases rest with
    | nil => exact fieldChars_singleton field
    | cons next rest =>
      rw [fieldChars_cons, fieldChars_singleton, ih]
      rfl

theorem gap_nil : Gap [] :=
  nofun

theorem spaced_printed (item : Json) : (printed item).Spaced :=
  ⟨gap_nil, gap_nil⟩

theorem spaced_items (items : List Json) : ∀ e ∈ items.map printed, e.Spaced := by
  intro e member
  obtain ⟨item, _, rfl⟩ := List.mem_map.mp member
  exact spaced_printed item

theorem named_printedField (field : String × Json) : (printedField field).Named :=
  ⟨gap_nil, quotes_escaped _, gap_nil, spaced_printed _⟩

theorem named_fields (fields : List (String × Json)) : ∀ m ∈ fields.map printedField, m.Named := by
  intro m member
  obtain ⟨field, _, rfl⟩ := List.mem_map.mp member
  exact named_printedField field

theorem denotes_chars {json : Json} (finite : json.isFinite = true) : Denotes json.chars json := by
  induction json with
  | null => exact .null
  | bool value =>
    cases value with
    | true => exact .isTrue
    | false => exact .isFalse
  | int n => exact denotes_int n
  | double x =>
    cases x with
    | nan | infinite negative => cases finite
    | finite negative m => exact denotes_finite negative m
  | string s =>
    have written := Denotes.string (quotes_escaped s.toList)
    rwa [String.ofList_toList] at written
  | array items ih =>
    have each := itemsFinite_iff.mp finite
    by_cases empty : items = []
    · subst empty
      exact .emptyArray gap_nil
    · have values : ∀ e ∈ items.map printed, Denotes e.text e.value := by
        intro e member
        obtain ⟨item, inside, rfl⟩ := List.mem_map.mp member
        exact ih item inside (each item inside)
      have written := Denotes.array (by simpa using empty) (spaced_items items) values
      rw [← itemChars_eq, List.map_map] at written
      simpa [chars, printed, Function.comp_def] using written
  | object fields ih =>
    have each := fieldsFinite_iff.mp finite
    by_cases empty : fields = []
    · subst empty
      exact .emptyObject gap_nil
    · have values : ∀ m ∈ fields.map printedField, Denotes m.element.text m.element.value := by
        intro m member
        obtain ⟨field, inside, rfl⟩ := List.mem_map.mp member
        exact ih field inside (each field inside)
      have written := Denotes.object (by simpa using empty) (named_fields fields) values
      rw [← fieldChars_eq, List.map_map] at written
      simpa [chars, printedField, printed, Member.field, Function.comp_def] using written

/- The characters of a printed value. -/

theorem printable_lexeme {number : Syntax.Numeral} {c : Char} (member : c ∈ number.lexeme) :
    Printable c := by
  have all : ∀ c ∈ Syntax.numeralChars, Printable c := by decide
  exact all c (Syntax.mem_numeralChars member)

theorem printable_hexDigit {c : Char} (digit : (Text.hexValue? c).isSome = true) : Printable c := by
  unfold Printable
  unfold Text.hexValue? at digit
  split at digit
  · rename_i decimal
    have all : ∀ c ∈ ['0', '1', '2', '3', '4', '5', '6', '7', '8', '9'], Printable c := by decide
    exact all c (Syntax.digit_mem decimal)
  split at digit
  · rename_i lower
    simp only [Bool.and_eq_true, decide_eq_true_eq, Char.le_def, UInt32.le_iff_toNat_le] at lower
    exact ⟨Nat.le_trans (by decide) lower.1, Nat.lt_of_le_of_lt lower.2 (by decide)⟩
  split at digit
  · rename_i upper
    simp only [Bool.and_eq_true, decide_eq_true_eq, Char.le_def, UInt32.le_iff_toNat_le] at upper
    exact ⟨Nat.le_trans (by decide) upper.1, Nat.lt_of_le_of_lt upper.2 (by decide)⟩
  · cases digit

theorem printable_unitEscape {n : Nat} (small : n < 0x10000) : ∀ c ∈ unitEscape n, Printable c := by
  obtain ⟨p, q, r, s, digits, value⟩ := exists_hexDigits small
  have each : ∀ c ∈ [p, q, r, s], Printable c :=
    fun c member => printable_hexDigit (isSome_of_foldlM value c member)
  have front : Printable '\\' ∧ Printable 'u' := by decide
  rw [unitEscape, digits]
  simpa only [List.forall_mem_cons] using And.intro front.1 (And.intro front.2 each)

theorem printable_escapeChar (d : Char) : ∀ c ∈ escapeChar d, Printable c := by
  have named : ∀ entry ∈ letters, ∀ c ∈ ['\\', entry.1], Printable c := by decide
  rcases escapeChar_cases d with ⟨l, letter, written⟩ | ⟨printable, _, _, written⟩ |
    ⟨small, written⟩ | ⟨large, written⟩
  · rw [written]
    exact named (l, d) letter
  · rw [written]
    intro c member
    rw [List.mem_singleton.mp member]
    exact printable
  · rw [written]
    exact printable_unitEscape small
  · obtain ⟨high, low⟩ := surrogates_of_large large
    rw [written]
    intro c member
    rcases List.mem_append.mp member with first | second
    · exact printable_unitEscape (Nat.lt_trans high (by decide)) c first
    · exact printable_unitEscape (Nat.lt_trans low (by decide)) c second

theorem printable_enclosed {left right : Char} {inner : List Char} (opens : Printable left)
    (closes : Printable right) (each : ∀ c ∈ inner, Printable c) :
    ∀ c ∈ left :: inner ++ [right], Printable c := by
  intro c member
  rcases List.mem_append.mp member with front | last
  · rcases List.mem_cons.mp front with rfl | inside
    · exact opens
    · exact each c inside
  · rw [List.mem_singleton.mp last]
    exact closes

theorem printable_stringChars (s : String) : ∀ c ∈ stringChars s, Printable c := by
  refine printable_enclosed (by decide) (by decide) ?_
  intro c member
  obtain ⟨d, _, inside⟩ := List.mem_flatMap.mp member
  exact printable_escapeChar d c inside

theorem printable_separated {texts : List (List Char)} (each : ∀ cs ∈ texts, ∀ c ∈ cs, Printable c) :
    ∀ c ∈ separated texts, Printable c := by
  have comma : Printable ',' := by decide
  induction texts with
  | nil => nofun
  | cons cs rest ih =>
    obtain ⟨here, there⟩ := List.forall_mem_cons.mp each
    cases rest with
    | nil => exact here
    | cons next rest =>
      rw [separated]
      · simp only [List.forall_mem_append, List.forall_mem_cons]
        exact ⟨here, comma, ih there⟩
      · simp

theorem printable_printedField {field : String × Json} (value : ∀ c ∈ field.2.chars, Printable c) :
    ∀ c ∈ (printedField field).chars, Printable c := by
  have colon : Printable ':' := by decide
  have spelled : (printedField field).chars = stringChars field.1 ++ ':' :: field.2.chars :=
    (fieldChars_singleton field).symm
  rw [spelled]
  intro c member
  rcases List.mem_append.mp member with name | behind
  · exact printable_stringChars field.1 c name
  · rcases List.mem_cons.mp behind with rfl | inside
    · exact colon
    · exact value c inside

theorem printable_chars (json : Json) : ∀ c ∈ json.chars, Printable c := by
  induction json with
  | null => decide
  | bool value => cases value <;> decide
  | int n =>
    obtain ⟨number, _, lexeme, _⟩ := exists_number_of_int n
    intro c member
    rw [chars, ← lexeme] at member
    exact printable_lexeme member
  | double x =>
    cases x with
    | nan => decide
    | infinite negative => cases negative <;> decide
    | finite negative m =>
      obtain ⟨number, _, lexeme, _⟩ := exists_number_of_finite negative m
      intro c member
      rw [chars, doubleChars, ← lexeme] at member
      · exact printable_lexeme member
      · simp
      · simp
  | string s => exact printable_stringChars s
  | array items ih =>
    refine printable_enclosed (by decide) (by decide) ?_
    rw [itemChars_eq]
    refine printable_separated ?_
    simpa [printed, Element.chars] using ih
  | object fields ih =>
    refine printable_enclosed (by decide) (by decide) ?_
    rw [fieldChars_eq]
    refine printable_separated ?_
    intro cs member
    obtain ⟨m, among, rfl⟩ := List.mem_map.mp member
    obtain ⟨field, inside, rfl⟩ := List.mem_map.mp among
    exact printable_printedField (ih field inside)

end Json

end BondQuery
