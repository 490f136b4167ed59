import BondQuery.Proofs.JsonPrinting

/- Numbers that are not finite are printed by names, which no value begins with. A value that has one
   anywhere is therefore printed as no JSON at all. -/
namespace BondQuery.Json
open Text (Stops stops_cons)

def Refused (text : List Char) : Prop :=
  ∀ (rest : List Char) (fuel : Nat), text.length < fuel → readValue? fuel (text ++ rest) = none

theorem ofBody?_nil (negative : Bool) (rest : List Char) : ofBody? negative [] rest = none := rfl

theorem readNumber?_name {c : Char} (name : isNumberChar c = false) (rest : List Char) :
    readNumber? (c :: rest) = none := by
  have taken : (c :: rest).takeWhile isNumberChar = [] := by simp [name]
  rw [readNumber?_unsigned taken (by simp), ofBody?_nil]

theorem readNumber?_minus_name {c : Char} (name : isNumberChar c = false) (rest : List Char) :
    readNumber? ('-' :: c :: rest) = none := by
  have taken : ('-' :: c :: rest).takeWhile isNumberChar = ['-'] := by
    rw [List.takeWhile_cons_of_pos rfl]
    simp [name]
  rw [readNumber?_minus taken, ofBody?_nil]

theorem refused_name {c : Char} {more : List Char} (name : isNumberChar c = false)
    (printed : isJsonSpace c = false) (other : c ∉ ['n', 't', 'f', '"', '[', '\x7b']) :
    Refused (c :: more) := by
  intro rest fuel enough
  cases fuel with
  | zero => exact absurd enough (Nat.not_lt_zero _)
  | succ fuel =>
    have opened : skipSpace (c :: more ++ rest) = c :: (more ++ rest) :=
      (stops_cons.mpr printed : Stops isJsonSpace (c :: (more ++ rest))).dropWhile_eq_self
    rw [readValue?_number opened other, readNumber?_name name]

theorem refused_double {x : Double} (endless : (double x).isFinite = false) :
    Refused (double x).chars := by
  cases x with
  | finite negative m => cases endless
  | nan => exact refused_name rfl rfl (by decide)
  | infinite negative =>
    cases negative with
    | false => exact refused_name rfl rfl (by decide)
    | true =>
      intro rest fuel enough
      cases fuel with
      | zero => exact absurd enough (Nat.not_lt_zero _)
      | succ fuel =>
        have opened : skipSpace ((double (.infinite true)).chars ++ rest) =
            '-' :: 'I' :: ("nfinity".toList ++ rest) := rfl
        rw [readValue?_number opened (by decide), readNumber?_minus_name rfl]

section
variable {cs more rest : List Char} {fuel : Nat} {value : Json} {name : String} {behind : List Char}

theorem readItems?_refused (refused : readValue? fuel cs = none) : readItems? (fuel + 1) cs = none := by
  simp [readItems?, refused]

theorem readItems?_later (read : readValue? fuel cs = some (value, behind))
    (comma : skipSpace behind = ',' :: more) (refused : readItems? fuel more = none) :
    readItems? (fuel + 1) cs = none := by
  simp [readItems?, read, comma, refused]

theorem readFields?_refused (opens : Opens cs name behind) (refused : readValue? fuel behind = none) :
    readFields? (fuel + 1) cs = none := by
  obtain ⟨text, colon, quote, named, follows⟩ := opens
  simp [readFields?, quote, named, follows, refused]

theorem readFields?_later {after : List Char} (opens : Opens cs name behind)
    (read : readValue? fuel behind = some (value, after)) (comma : skipSpace after = ',' :: more)
    (refused : readFields? fuel more = none) : readFields? (fuel + 1) cs = none := by
  obtain ⟨text, colon, quote, named, follows⟩ := opens
  simp [readFields?, quote, named, follows, read, comma, refused]

end

theorem readItems?_of_refused {items : List Json} (endless : itemsFinite items = false)
    (each : ∀ item ∈ items, item.isFinite = false → Refused item.chars) {fuel : Nat}
    (enough : (itemChars items).length + 1 < fuel) (rest : List Char) :
    readItems? fuel (itemChars items ++ rest) = none := by
  induction items generalizing fuel with
  | nil => cases endless
  | cons item items ih =>
    obtain ⟨here, there⟩ := List.forall_mem_cons.mp each
    cases fuel with
    | zero => omega
    | succ fuel =>
      cases items with
      | nil =>
        have first : item.isFinite = false := by simpa [itemsFinite] using endless
        have short : item.chars.length < fuel := by
          rw [itemChars] at enough
          omega
        exact readItems?_refused (here first rest fuel short)
      | cons next items =>
        rw [itemChars_cons, List.length_append, List.length_cons] at enough
        rw [itemChars_cons, List.append_assoc, List.cons_append]
        have short : item.chars.length < fuel := by omega
        have less : (itemChars (next :: items)).length + 1 < fuel := by omega
        cases finite : item.isFinite with
        | false => exact readItems?_refused (here finite _ fuel short)
        | true =>
          have others : itemsFinite (next :: items) = false := by
            simpa [itemsFinite, finite] using endless
          have read := (denotes_chars finite).reads [] (',' :: (itemChars (next :: items) ++ rest)) fuel
            gap_nil (stops_cons.mpr rfl) short
          exact readItems?_later read rfl (ih others there less)

theorem readFields?_of_refused {fields : List (String × Json)} (endless : fieldsFinite fields = false)
    (each : ∀ field ∈ fields, field.2.isFinite = false → Refused field.2.chars) {fuel : Nat}
    (enough : (fieldChars fields).length + 1 < fuel) (rest : List Char) :
    readFields? fuel (fieldChars fields ++ rest) = none := by
  induction fields generalizing fuel with
  | nil => cases endless
  | cons field fields ih =>
    obtain ⟨here, there⟩ := List.forall_mem_cons.mp each
    have within : field.2.chars.length ≤ (fieldChars [field]).length := by
      rw [fieldChars_singleton]
      simpa [printedField, printed, Element.chars] using (printedField field).length_element_le
    have opens : ∀ behind, Opens (fieldChars [field] ++ behind) field.1 (field.2.chars ++ behind) := by
      intro behind
      have opened := Member.opens (named_printedField field) behind
      rw [← fieldChars_singleton] at opened
      simpa [printedField, printed, Element.chars] using opened
    cases fuel with
    | zero => omega
    | succ fuel =>
      cases fields with
      | nil =>
        have first : field.2.isFinite = false := by simpa [fieldsFinite] using endless
        have short : field.2.chars.length < fuel := by omega
        exact readFields?_refused (opens rest) (here first rest fuel short)
      | cons next fields =>
        rw [fieldChars_cons, List.length_append, List.length_cons] at enough
        rw [fieldChars_cons, List.append_assoc, List.cons_append]
        have short : field.2.chars.length < fuel := by omega
        have less : (fieldChars (next :: fields)).length + 1 < fuel := by omega
        cases finite : field.2.isFinite with
        | false => exact readFields?_refused (opens _) (here finite _ fuel short)
        | true =>
          have others : fieldsFinite (next :: fields) = false := by
            simpa [fieldsFinite, finite] using endless
          have read := (denotes_chars finite).reads [] (',' :: (fieldChars (next :: fields) ++ rest)) fuel
            gap_nil (stops_cons.mpr rfl) short
          exact readFields?_later (opens _) read rfl (ih others there less)

theorem chars_begun (json : Json) : Begun json.chars := by
  cases json with
  | int n => exact (denotes_int n).begun
  | double x =>
    cases x with
    | finite negative m => exact (denotes_finite negative m).begun
    | nan => exact ⟨_, _, rfl, rfl, by decide⟩
    | infinite negative => cases negative <;> exact ⟨_, _, rfl, rfl, by decide⟩
  | bool value => cases value <;> exact ⟨_, _, rfl, rfl, by decide⟩
  | _ => exact ⟨_, _, rfl, rfl, by decide⟩

theorem refused_chars {json : Json} (endless : json.isFinite = false) : Refused json.chars := by
  induction json with
  | null | bool value | int n | string s => cases endless
  | double x => exact refused_double endless
  | array items ih =>
    intro rest fuel enough
    have split : (array items).chars ++ rest = '[' :: (itemChars items ++ ']' :: rest) := by
      simp [chars]
    have filled : items.map printed ≠ [] := by
      intro empty
      rw [List.map_eq_nil_iff.mp empty] at endless
      cases endless
    have begun : ∀ e ∈ items.map printed, Begun e.text := by
      intro e member
      obtain ⟨item, _, rfl⟩ := List.mem_map.mp member
      exact chars_begun item
    have unclosed := items_unclosed filled (spaced_items items) begun (']' :: rest)
    rw [← itemChars_eq] at unclosed
    rw [split]
    simp only [chars, List.length_append, List.length_cons, List.length_nil] at enough
    cases fuel with
    | zero => omega
    | succ fuel =>
      rw [readValue?_array rfl unclosed, readItems?_of_refused endless ih (by omega)]
      rfl
  | object fields ih =>
    intro rest fuel enough
    have split : (object fields).chars ++ rest = '\x7b' :: (fieldChars fields ++ '\x7d' :: rest) := by
      simp [chars]
    have filled : fields.map printedField ≠ [] := by
      intro empty
      rw [List.map_eq_nil_iff.mp empty] at endless
      cases endless
    have unclosed := fields_unclosed filled (named_fields fields) ('\x7d' :: rest)
    rw [← fieldChars_eq] at unclosed
    rw [split]
    simp only [chars, List.length_append, List.length_cons, List.length_nil] at enough
    cases fuel with
    | zero => omega
    | succ fuel =>
      rw [readValue?_object rfl unclosed, readFields?_of_refused endless ih (by omega)]
      rfl

theorem isText_of_denotes {cs : List Char} {json : Json} (denotes : Denotes cs json) :
    IsText cs json :=
  ⟨⟨[], cs, [], json⟩, ⟨gap_nil, gap_nil⟩, denotes, by simp [Element.chars], rfl⟩

/-- What is printed is a text of the grammar exactly where every number is finite. It then denotes
    the value itself and nothing else. -/
theorem isText_chars_iff {json value : Json} :
    IsText json.chars value ↔ json.isFinite = true ∧ value = json := by
  constructor
  · intro text
    have finite : json.isFinite = true := by
      by_contra endless
      have refused := refused_chars (Bool.eq_false_of_not_eq_true endless) [] (json.chars.length + 1)
        (Nat.lt_succ_self _)
      have read := parse?_of_isText text
      rw [List.append_nil] at refused
      simp [parse?, refused] at read
    exact ⟨finite, text.unique (isText_of_denotes (denotes_chars finite))⟩
  · rintro ⟨finite, rfl⟩
    exact isText_of_denotes (denotes_chars finite)

end BondQuery.Json
