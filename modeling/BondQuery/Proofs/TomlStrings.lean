import BondQuery.Proofs.Outcome
import BondQuery.Proofs.Runs
import BondQuery.Toml.Reader
import BondQuery.Toml.Writer

/- Strings and keys of a TOML document are read back as they were written. One character, escaped
   or not, is one step of the reader, whatever follows it. -/
namespace BondQuery.Toml
open Text (Stops stops_cons takeWhile_run dropWhile_run)
variable {rest : List Char}

/- Strings. -/

theorem codePoint_hexDigits : ∀ n < 0x80,
    (Text.hexDigits 4 n).length = 4 ∧ Text.ofHexDigits? (Text.hexDigits 4 n) = some n := by
  decide

theorem readCodePoint_hexDigits {n : Nat} (low : n < 0x80) (rest : List Char) :
    readCodePoint 4 (Text.hexDigits 4 n ++ rest) = .ok ([Char.ofNat n], rest) := by
  obtain ⟨width, value⟩ := codePoint_hexDigits n low
  have digits : (Text.hexDigits 4 n ++ rest).take 4 = Text.hexDigits 4 n := List.take_left' width
  have behind : (Text.hexDigits 4 n ++ rest).drop 4 = rest := List.drop_left' width
  have scalar : n < 0xd800 ∨ (0xe000 ≤ n ∧ n < 0x110000) := .inl (by omega)
  simp only [readCodePoint, digits, width, if_pos, value, behind]
  rw [if_pos scalar]

def prepend (c : Char) (read : List Char × List Char) : List Char × List Char :=
  (c :: read.1, read.2)

theorem readBasic_plain {c : Char} (unquoted : c ≠ '"') (unescaped : c ≠ '\\')
    (legal : isIllegal false c = false) (fuel : Nat) (rest : List Char) :
    readBasic false (fuel + 1) (c :: rest) = (readBasic false fuel rest).map (prepend c) := by
  rw [readBasic.eq_def]
  simp [legal]
  cases readBasic false fuel rest <;> rfl

theorem readBasic_backslash {c : Char} {cs : List Char}
    (escape : readEscape false cs = .ok ([c], rest)) (fuel : Nat) :
    readBasic false (fuel + 1) ('\\' :: cs) = (readBasic false fuel rest).map (prepend c) := by
  rw [readBasic.eq_def]
  simp [escape, bind, Except.bind, pure, Except.pure]
  cases readBasic false fuel rest <;> rfl

theorem readEscape_codePoint {n : Nat} (low : n < 0x80) (rest : List Char) :
    readEscape false ('u' :: (Text.hexDigits 4 n ++ rest)) = .ok ([Char.ofNat n], rest) := by
  have code := readCodePoint_hexDigits low rest
  simpa [readEscape] using code

theorem readEscape_short {c char : Char} (letter : c ≠ 'u' ∧ c ≠ 'U')
    (short : shortEscape? c = some char) (rest : List Char) :
    readEscape false (c :: rest) = .ok ([char], rest) := by
  simp [readEscape, letter, short]

inductive Escaped (c : Char) : List Char → Prop
  | plain (unquoted : c ≠ '"') (unescaped : c ≠ '\\') (legal : isIllegal false c = false) :
      Escaped c [c]
  | short (letter : Char) (other : letter ≠ 'u' ∧ letter ≠ 'U')
      (short : shortEscape? letter = some c) : Escaped c ['\\', letter]
  | codePoint (low : c.toNat < 0x80) : Escaped c ('\\' :: 'u' :: Text.hexDigits 4 c.toNat)

theorem escaped_escapeChar (c : Char) : Escaped c (escapeChar c) := by
  unfold escapeChar
  split
  · rename_i quote
    rcases (by simpa using quote : c = '"' ∨ c = '\\') with rfl | rfl
    · exact .short _ (by decide) rfl
    · exact .short _ (by decide) rfl
  split
  · rename_i backspace
    obtain rfl := eq_of_beq backspace
    exact .short _ (by decide) rfl
  split
  · rename_i newline
    obtain rfl := eq_of_beq newline
    exact .short _ (by decide) rfl
  split
  · rename_i feed
    obtain rfl := eq_of_beq feed
    exact .short _ (by decide) rfl
  split
  · rename_i carriage
    obtain rfl := eq_of_beq carriage
    exact .short _ (by decide) rfl
  split
  · rename_i control
    refine .codePoint ?_
    simp only [Bool.or_eq_true, Bool.and_eq_true, decide_eq_true_eq, beq_iff_eq] at control
    omega
  · rename_i unquoted _ _ _ _ uncontrolled
    simp only [Bool.or_eq_true, beq_iff_eq, not_or] at unquoted
    exact .plain unquoted.1 unquoted.2 (by simpa [isIllegal, isControl] using uncontrolled)

namespace Escaped
variable {c : Char} {cs : List Char}

theorem readBasic (escaped : Escaped c cs) (fuel : Nat) (rest : List Char) :
    readBasic false (fuel + 1) (cs ++ rest) = (readBasic false fuel rest).map (prepend c) := by
  cases escaped with
  | plain unquoted unescaped legal => exact readBasic_plain unquoted unescaped legal fuel rest
  | short letter other short => exact readBasic_backslash (readEscape_short other short rest) fuel
  | codePoint low =>
    have code := readEscape_codePoint low rest
    rw [Char.ofNat_toNat] at code
    exact readBasic_backslash code fuel

theorem length_pos (escaped : Escaped c cs) : 0 < cs.length := by
  cases escaped <;> simp

theorem unquoted (escaped : Escaped c cs) (rest : List Char) : (cs ++ rest).head? ≠ some '"' := by
  cases escaped with
  | plain unquoted _ _ => simpa using unquoted
  | short _ _ _ | codePoint _ => simp

theorem unbroken (escaped : Escaped c cs) : '\r' ∉ cs := by
  have digits : ∀ n < 0x80, '\r' ∉ '\\' :: 'u' :: Text.hexDigits 4 n := by decide
  cases escaped with
  | plain _ _ legal =>
    intro inside
    obtain rfl := List.mem_singleton.mp inside
    cases legal
  | short letter _ short =>
    have other : letter ≠ '\r' := by
      rintro rfl
      cases short
    simpa using other.symm
  | codePoint low => exact digits c.toNat low

end Escaped

theorem readBasic_escaped (cs rest : List Char) {fuel : Nat} (enough : cs.length < fuel) :
    readBasic false fuel (cs.flatMap escapeChar ++ '"' :: rest) = .ok (cs, rest) := by
  induction cs generalizing fuel with
  | nil =>
    obtain ⟨fuel, rfl⟩ := Nat.exists_eq_add_of_lt enough
    simp [readBasic]
  | cons c cs ih =>
    obtain ⟨fuel, rfl⟩ := Nat.exists_eq_add_of_lt enough
    have less : cs.length < (c :: cs).length + fuel := by
      rw [List.length_cons]
      omega
    rw [List.flatMap_cons, List.append_assoc, (escaped_escapeChar c).readBasic, ih less]
    rfl

theorem length_le_escaped (cs : List Char) : cs.length ≤ (cs.flatMap escapeChar).length := by
  induction cs with
  | nil => simp
  | cons c cs ih =>
    have some := (escaped_escapeChar c).length_pos
    rw [List.flatMap_cons, List.length_append, List.length_cons]
    omega

theorem readOneLine_escaped (s : String) (rest : List Char) :
    readOneLine '"' (s.toList.flatMap escapeChar ++ '"' :: rest) = .ok (s, rest) := by
  have enough : s.toList.length < (s.toList.flatMap escapeChar ++ '"' :: rest).length + 1 := by
    have escaped := length_le_escaped s.toList
    rw [List.length_append]
    omega
  have read := readBasic_escaped s.toList rest enough
  simp only [readOneLine, beq_self_eq_true, if_true, read, bind, Except.bind, pure, Except.pure,
    String.ofList_toList]

theorem readString_unquoted {cs : List Char} (unquoted : cs.head? ≠ some '"') :
    readString '"' cs = readOneLine '"' cs := by
  unfold readString
  split
  · rename_i c d _
    have other : c ≠ '"' := by simpa using unquoted
    simp [other]
  · rfl

/-- Two quotes open a string on several lines only if a third follows. -/
theorem readString_escaped (s : String) (unquoted : rest.head? ≠ some '"') :
    readString '"' (s.toList.flatMap escapeChar ++ '"' :: rest) = .ok (s, rest) := by
  rw [← readOneLine_escaped]
  cases s.toList with
  | nil =>
    cases rest with
    | nil => rfl
    | cons c rest =>
      have other : c ≠ '"' := by simpa using unquoted
      simp [readString, other]
  | cons c cs =>
    rw [List.flatMap_cons, List.append_assoc]
    exact readString_unquoted ((escaped_escapeChar c).unquoted _)

theorem stringChars_unbroken (s : String) : '\r' ∉ stringChars s := by
  have each : ∀ c ∈ s.toList, '\r' ∉ escapeChar c := fun c _ => (escaped_escapeChar c).unbroken
  simpa [stringChars] using each

/- Keys. -/

theorem keyChars_cases (key : String) :
    (keyChars key = key.toList ∧ key.toList ≠ [] ∧ ∀ c ∈ key.toList, isBareKeyChar c = true) ∨
      keyChars key = stringChars key := by
  simp only [keyChars]
  split
  · rename_i bare
    simp only [Bool.and_eq_true, decide_eq_true_eq, List.all_eq_true] at bare
    exact .inl ⟨rfl, bare⟩
  · exact .inr rfl

theorem readKeyPart_keyChars (key : String) (stops : Stops isBareKeyChar rest) :
    readKeyPart (keyChars key ++ rest) = .ok (key, rest) := by
  rcases keyChars_cases key with ⟨bare, some, all⟩ | quoted
  · rw [bare]
    have taken := takeWhile_run all stops
    have left := dropWhile_run all stops
    cases spelled : key.toList with
    | nil => exact absurd spelled some
    | cons c cs =>
      have first : isBareKeyChar c = true := all c (by simp [spelled])
      rw [spelled, List.cons_append] at taken left
      simp only [List.cons_append, readKeyPart, first, if_true, taken, left]
      rw [← spelled, String.ofList_toList]
  · have opened : readKeyPart (stringChars key ++ rest) =
        readOneLine '"' (key.toList.flatMap escapeChar ++ '"' :: rest) := by
      simp [stringChars, readKeyPart, isBareKeyChar]
    rw [quoted, opened, readOneLine_escaped]

theorem keyChars_head (key : String) : ∃ c cs, keyChars key = c :: cs ∧
    (isBareKeyChar c = true ∨ c = '"') := by
  rcases keyChars_cases key with ⟨bare, some, all⟩ | quoted
  · cases spelled : key.toList with
    | nil => exact absurd spelled some
    | cons c cs =>
      exact ⟨c, cs, by rw [bare, spelled], .inl (all c (by simp [spelled]))⟩
  · exact ⟨'"', _, by rw [quoted]; rfl, .inr rfl⟩

theorem keyChars_unbroken (key : String) : '\r' ∉ keyChars key := by
  rcases keyChars_cases key with ⟨bare, _, all⟩ | quoted
  · rw [bare]
    intro inside
    exact absurd (all '\r' inside) (by decide)
  · rw [quoted]
    exact stringChars_unbroken key

def dottedChars (path : Path) : List Char :=
  path.flatMap fun name => '.' :: keyChars name

theorem skipBlank_of_stops (stops : Stops isBlankChar rest) : skipBlank rest = rest :=
  stops.dropWhile_eq_self

theorem keyChars_unblank (key : String) (rest : List Char) :
    Stops isBlankChar (keyChars key ++ rest) := by
  obtain ⟨c, cs, spelled, head⟩ := keyChars_head key
  rw [spelled]
  refine stops_cons.mpr ?_
  rcases head with bare | rfl
  · cases blank : isBlankChar c with
    | false => rfl
    | true =>
      rcases (by simpa [isBlankChar] using blank : c = ' ' ∨ c = '\t') with rfl | rfl <;> cases bare
  · rfl

theorem readKey_dot {cs more behind : List Char} {name : String} {names : Path} {fuel : Nat}
    (part : readKeyPart cs = .ok (name, '.' :: more)) (unblank : Stops isBlankChar more)
    (others : readKey fuel more = .ok (names, behind)) :
    readKey (fuel + 1) cs = .ok (name :: names, behind) := by
  have point : skipBlank ('.' :: more) = '.' :: more := rfl
  simp only [readKey, part, bind, Except.bind, point, skipBlank_of_stops unblank, others]
  rfl

/-- A dotted key is read up to what can neither continue a name nor begin another. -/
theorem readKey_dotted (name : String) (path : Path) {fuel : Nat} (enough : path.length < fuel)
    (stops : Stops isBareKeyChar rest) (last : (skipBlank rest).head? ≠ some '.') :
    readKey fuel (keyChars name ++ (dottedChars path ++ rest)) =
      .ok (name :: path, skipBlank rest) := by
  induction path generalizing name fuel with
  | nil =>
    obtain ⟨fuel, rfl⟩ := Nat.exists_eq_add_of_lt enough
    have part := readKeyPart_keyChars name stops
    simp only [dottedChars, List.flatMap_nil, List.nil_append, readKey, part, bind, Except.bind]
    split
    · rename_i dotted
      simp [dotted] at last
    · rfl
  | cons next path ih =>
    obtain ⟨fuel, rfl⟩ := Nat.exists_eq_add_of_lt enough
    have less : path.length < (next :: path).length + fuel := by
      rw [List.length_cons]
      omega
    have dot : Stops isBareKeyChar ('.' :: (keyChars next ++ (dottedChars path ++ rest))) :=
      stops_cons.mpr rfl
    have part := readKeyPart_keyChars name dot
    have spelled : dottedChars (next :: path) ++ rest =
        '.' :: (keyChars next ++ (dottedChars path ++ rest)) := by
      simp [dottedChars]
    rw [spelled]
    exact readKey_dot part (keyChars_unblank next _) (ih next less)

end BondQuery.Toml
