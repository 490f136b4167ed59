import BondQuery.Proofs.TomlNumbers
import BondQuery.Proofs.TomlStrings

/- Values of a TOML document are read back as they were written: strings, numbers, truth values,
   and arrays of them with one item on each line. -/
namespace BondQuery.Toml
open Syntax
open Text (Stops stops_cons)
variable {rest : List Char}

/-- A value without parts that can be written out. -/
def IsScalar : Toml → Prop
  | string _ | double _ | bool _ => True
  | int n => isWritable n = true
  | moment _ | array _ | table _ => False

def IsFlat : Toml → Prop
  | array items => ∀ item ∈ items, item.IsScalar
  | value => value.IsScalar

theorem IsFlat.cases {value : Toml} (flat : value.IsFlat) :
    value.IsScalar ∨ ∃ items, value = array items ∧ ∀ item ∈ items, item.IsScalar := by
  cases value with
  | array items => exact .inr ⟨items, rfl, flat⟩
  | _ => exact .inl flat

/- Beginnings. -/

def scalarHeads : List Char :=
  ['"', 't', 'f', 'n', 'i'] ++ numeralChars

theorem exists_numeral_of_int (n : Int) : ∃ m : Numeral, m.lexeme = intChars n := by
  obtain ⟨m, _, _, spelled, _⟩ := exists_mantissa_of_int n
  exact ⟨⟨signOf (n < 0), m, none⟩, by rw [← spelled]; simp [Numeral.lexeme, Numeral.body]⟩

theorem lexeme_head (n : Numeral) : ∃ c cs, n.lexeme = c :: cs ∧ c ∈ numeralChars := by
  cases spelled : n.lexeme with
  | nil => exact absurd spelled n.lexeme_ne_nil
  | cons c cs => exact ⟨c, cs, rfl, mem_numeralChars (n := n) (by simp [spelled])⟩

theorem double_head (x : Double) : ∃ c cs, x.chars = c :: cs ∧ c ∈ 'n' :: 'i' :: numeralChars := by
  cases x with
  | nan => exact ⟨'n', ['a', 'n'], rfl, by decide⟩
  | infinite negative =>
    cases negative with
    | false => exact ⟨'i', ['n', 'f'], rfl, by decide⟩
    | true => exact ⟨'-', ['i', 'n', 'f'], rfl, by decide⟩
  | finite negative m =>
    obtain ⟨n, _, spelled, _⟩ := exists_numeral_of_finite negative m
    obtain ⟨c, cs, same, head⟩ := lexeme_head n
    exact ⟨c, cs, spelled ▸ same, by simp [head]⟩

theorem scalar_head {value : Toml} (scalar : value.IsScalar) (depth : Nat) :
    ∃ c cs, valueChars depth value = c :: cs ∧ c ∈ scalarHeads := by
  cases value with
  | string s => exact ⟨'"', _, by rw [valueChars]; rfl, by decide⟩
  | int n =>
    obtain ⟨m, spelled⟩ := exists_numeral_of_int n
    obtain ⟨c, cs, same, head⟩ := lexeme_head m
    exact ⟨c, cs, by rw [valueChars, ← spelled, same], List.mem_append_right _ head⟩
  | double x =>
    obtain ⟨c, cs, same, head⟩ := double_head x
    refine ⟨c, cs, by rw [valueChars, same], ?_⟩
    exact List.mem_append_right ['"', 't', 'f'] head
  | bool b =>
    cases b with
    | false => exact ⟨'f', _, by rw [valueChars], by decide⟩
    | true => exact ⟨'t', _, by rw [valueChars], by decide⟩
  | moment _ | array _ | table _ => exact scalar.elim

theorem scalar_stops {value : Toml} (scalar : value.IsScalar) (depth : Nat) (rest : List Char)
    {p : Char → Bool} (none : ∀ c ∈ scalarHeads, p c = false) :
    Stops p (valueChars depth value ++ rest) := by
  obtain ⟨c, cs, spelled, head⟩ := scalar_head scalar depth
  rw [spelled]
  exact stops_cons.mpr (none c head)

/- Scalars. -/

def isOpening (c : Char) : Bool :=
  c == '"' || c == '\'' || c == '[' || c == '\x7b'

theorem readValue_of_scalar {cs : List Char}
    (unopened : Stops isOpening cs) (fuel : Nat) :
    readValue (fuel + 1) cs = readScalar cs := by
  rw [readValue.eq_def]
  simp only
  split
  · exact absurd (stops_cons.mp unopened) (by decide)
  · exact absurd (stops_cons.mp unopened) (by decide)
  · exact absurd (stops_cons.mp unopened) (by decide)
  · exact absurd (stops_cons.mp unopened) (by decide)
  · rfl

theorem number_unopened {c : Char} (head : c ∈ 'n' :: 'i' :: numeralChars) (rest : List Char) :
    Stops isOpening (c :: rest) := by
  have all : ∀ c ∈ 'n' :: 'i' :: numeralChars, isOpening c = false := by decide
  exact stops_cons.mpr (all c head)

theorem readValue_scalar {value : Toml} (scalar : value.IsScalar) (ends : Ends rest)
    (depth fuel : Nat) :
    readValue (fuel + 1) (valueChars depth value ++ rest) = .ok (value, rest) := by
  cases value with
  | string s =>
    have unquoted : rest.head? ≠ some '"' := fun first => absurd (ends '"' first) (by decide)
    have read := readString_escaped s unquoted
    simp [valueChars, stringChars, readValue, read, bind, Except.bind, pure, Except.pure]
  | int n =>
    obtain ⟨m, spelled⟩ := exists_numeral_of_int n
    obtain ⟨c, cs, same, head⟩ := lexeme_head m
    have read := readScalar_int scalar ends
    rw [← spelled, same] at read
    rw [valueChars, ← spelled, same]
    exact (readValue_of_scalar (number_unopened (by simp [head]) _) fuel).trans read
  | double x =>
    obtain ⟨c, cs, same, head⟩ := double_head x
    have read := readScalar_double x ends
    rw [same] at read
    rw [valueChars, same]
    exact (readValue_of_scalar (number_unopened head _) fuel).trans read
  | bool b =>
    cases b with
    | false => exact readValue_of_scalar (stops_cons.mpr rfl) fuel
    | true => exact readValue_of_scalar (stops_cons.mpr rfl) fuel
  | moment _ | array _ | table _ => exact scalar.elim

/- Arrays. -/

theorem skipLines_of_uncommented {cs : List Char} (uncommented : (skipBlankLines cs).head? ≠ some '#')
    (fuel : Nat) : skipLines (fuel + 1) cs = .ok (skipBlankLines cs) := by
  unfold skipLines
  split
  · rename_i comment
    simp [comment] at uncommented
  · rfl

def openItems (rest : List Char) : List Toml → List Char
  | [] => ']' :: rest
  | item :: more => valueChars 1 item ++ ',' :: '\n' :: (itemChars 1 more ++ ']' :: rest)

def isGap (c : Char) : Bool :=
  isBlankChar c || c == '\n'

theorem skipBlankLines_items (rest : List Char) {items : List Toml}
    (scalars : ∀ item ∈ items, item.IsScalar) :
    skipBlankLines ('\n' :: (itemChars 1 items ++ ']' :: rest)) = openItems rest items := by
  cases items with
  | nil => rfl
  | cons item more =>
    have gap : ∀ c ∈ '\n' :: indent 1, isGap c = true := by decide
    have scalar := (List.forall_mem_cons.mp scalars).1
    have stops := scalar_stops scalar 1 (',' :: '\n' :: (itemChars 1 more ++ ']' :: rest))
      (p := isGap) (by decide)
    have skipped := Text.dropWhile_run gap stops
    rw [itemChars, openItems, List.append_assoc, List.append_assoc]
    exact skipped

theorem openItems_uncommented (rest : List Char) {items : List Toml}
    (scalars : ∀ item ∈ items, item.IsScalar) : (openItems rest items).head? ≠ some '#' := by
  cases items with
  | nil => simp [openItems]
  | cons item more =>
    obtain ⟨c, cs, spelled, head⟩ := scalar_head (List.forall_mem_cons.mp scalars).1 1
    have other : c ≠ '#' := by
      rintro rfl
      exact absurd head (by decide)
    simp [openItems, spelled, other]

theorem skipLines_items (rest : List Char) {items : List Toml}
    (scalars : ∀ item ∈ items, item.IsScalar) (fuel : Nat) :
    skipLines (fuel + 1) ('\n' :: (itemChars 1 items ++ ']' :: rest)) =
      .ok (openItems rest items) := by
  have skipped := skipBlankLines_items rest scalars
  rw [skipLines_of_uncommented (skipped ▸ openItems_uncommented rest scalars), skipped]

theorem skipLines_comma (cs : List Char) (fuel : Nat) :
    skipLines (fuel + 1) (',' :: cs) = .ok (',' :: cs) :=
  rfl

theorem readItems_cons {cs : List Char} (unclosed : cs.head? ≠ some ']') (fuel : Nat) :
    readItems (fuel + 1) cs = (do
      let (item, rest) ← readValue fuel cs
      match ← skipLines (rest.length + 1) rest with
      | ']' :: behind => return ([item], behind)
      | ',' :: more => do
        let (items, behind) ← readItems fuel (← skipLines (more.length + 1) more)
        return (item :: items, behind)
      | other => fail other .unclosedArray) := by
  rw [readItems.eq_def]
  simp only
  split
  · exact absurd rfl unclosed
  · rfl

theorem readItems_openItems (rest : List Char) {items : List Toml}
    (scalars : ∀ item ∈ items, item.IsScalar) {fuel : Nat} (enough : items.length < fuel) :
    readItems fuel (openItems rest items) = .ok (items, rest) := by
  induction items generalizing fuel with
  | nil =>
    obtain ⟨fuel, rfl⟩ := Nat.exists_eq_add_of_lt enough
    rw [openItems, readItems.eq_def]
    rfl
  | cons item more ih =>
    obtain ⟨fuel, rfl⟩ := Nat.exists_eq_add_of_lt enough
    obtain ⟨scalar, others⟩ := List.forall_mem_cons.mp scalars
    have unclosed : (openItems rest (item :: more)).head? ≠ some ']' := by
      obtain ⟨c, cs, spelled, head⟩ := scalar_head scalar 1
      have other : c ≠ ']' := by
        rintro rfl
        exact absurd head (by decide)
      simp [openItems, spelled, other]
    have ends : Ends (',' :: '\n' :: (itemChars 1 more ++ ']' :: rest)) :=
      begins_cons.mpr (by decide)
    have first := readValue_scalar scalar ends 1 (more.length + fuel)
    have less : more.length < more.length + fuel + 1 := by omega
    have later := ih others less
    -- one step for this item, and the fuel of the step is left for those behind it
    rw [List.length_cons, Nat.add_right_comm more.length 1 fuel]
    rw [readItems_cons unclosed, openItems, first]
    simp only [bind, Except.bind, skipLines_comma, skipLines_items rest others, later]
    rfl

theorem length_le_itemChars (depth : Nat) (items : List Toml) :
    items.length ≤ (itemChars depth items).length := by
  induction items with
  | nil => simp
  | cons item more ih =>
    simp only [itemChars, List.length_append, List.length_cons]
    omega

theorem readValue_array (rest : List Char) {items : List Toml}
    (scalars : ∀ item ∈ items, item.IsScalar) {fuel : Nat} (enough : items.length < fuel) :
    readValue (fuel + 1) (valueChars 0 (array items) ++ rest) = .ok (array items, rest) := by
  have read := readItems_openItems rest scalars enough
  cases items with
  | nil =>
    have opened : readValue (fuel + 1) ('[' :: ']' :: rest) =
        (do
          let (items, behind) ← readItems fuel (openItems rest [])
          return (array items, behind)) :=
      rfl
    rw [valueChars]
    exact opened.trans (by rw [read]; rfl)
  | cons item more =>
    have spelled : valueChars 0 (array (item :: more)) ++ rest =
        '[' :: '\n' :: (itemChars 1 (item :: more) ++ ']' :: rest) := by
      simp [valueChars, indent]
    rw [spelled, readValue.eq_def]
    simp only [skipLines_items rest scalars, bind, Except.bind, read]
    rfl

/-- The length of a written value is fuel enough to read it. -/
theorem readValue_flat {value : Toml} (flat : value.IsFlat) (ends : Ends rest) {fuel : Nat}
    (enough : (valueChars 0 value).length < fuel) :
    readValue fuel (valueChars 0 value ++ rest) = .ok (value, rest) := by
  obtain ⟨fuel, rfl⟩ := Nat.exists_eq_succ_of_ne_zero (Nat.ne_zero_of_lt enough)
  rcases flat.cases with scalar | ⟨items, rfl, scalars⟩
  · exact readValue_scalar scalar ends 0 fuel
  · have short : items.length < fuel := by
      have long := length_le_itemChars 1 items
      cases items with
      | nil =>
        rw [valueChars] at enough
        simp only [List.length_cons, List.length_nil] at enough ⊢
        omega
      | cons item more =>
        simp only [valueChars, List.length_append, List.length_cons, Nat.zero_add] at enough long ⊢
        omega
    exact readValue_array rest scalars short

/- Carriage returns occur only as escapes. -/

theorem lexeme_unbroken (n : Numeral) : '\r' ∉ n.lexeme :=
  fun inside => absurd (mem_numeralChars inside) (by decide)

theorem scalar_unbroken {value : Toml} (scalar : value.IsScalar) (depth : Nat) :
    '\r' ∉ valueChars depth value := by
  cases value with
  | string s =>
    rw [valueChars]
    exact stringChars_unbroken s
  | int n =>
    obtain ⟨m, spelled⟩ := exists_numeral_of_int n
    rw [valueChars, ← spelled]
    exact lexeme_unbroken m
  | double x =>
    rw [valueChars]
    cases x with
    | nan => decide
    | infinite negative => cases negative <;> decide
    | finite negative m =>
      obtain ⟨n, _, spelled, _⟩ := exists_numeral_of_finite negative m
      rw [← spelled]
      exact lexeme_unbroken n
  | bool b => cases b <;> rw [valueChars] <;> decide
  | moment _ | array _ | table _ => exact scalar.elim

theorem itemChars_unbroken {items : List Toml} (scalars : ∀ item ∈ items, item.IsScalar)
    (depth : Nat) : '\r' ∉ itemChars depth items := by
  induction items with
  | nil => simp [itemChars]
  | cons item more ih =>
    obtain ⟨scalar, others⟩ := List.forall_mem_cons.mp scalars
    simp [itemChars, indent, scalar_unbroken scalar depth, ih others]

theorem flat_unbroken {value : Toml} (flat : value.IsFlat) : '\r' ∉ valueChars 0 value := by
  rcases flat.cases with scalar | ⟨items, rfl, scalars⟩
  · exact scalar_unbroken scalar 0
  · cases items with
    | nil => simp [valueChars]
    | cons item more => simp [valueChars, indent, itemChars_unbroken scalars]

end BondQuery.Toml
