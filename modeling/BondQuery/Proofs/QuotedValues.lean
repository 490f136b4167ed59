import BondQuery.Proofs.Lexing

/- Where a value between quotes ends, and what its escapes stand for. A run of backslashes decides
   both: whether it is even says if a quote behind it ends the value, and replacing pairs in one
   pass or in two gives the same characters whatever its length. -/
namespace BondQuery.Syntax
open Text

variable {cs front inner rest : List Char} {c : Char} {t : Token} {pairs : Nat}

/- Escapes. -/

/-- Replaces two characters by one wherever they come one behind the other, from left to right;
    what was replaced is a part of no other pair. -/
def replacePair (first second new : Char) : List Char → List Char
  | c :: d :: rest =>
    if c = first ∧ d = second then new :: replacePair first second new rest
    else c :: replacePair first second new (d :: rest)
  | cs => cs

theorem replacePair_found (first second new : Char) (rest : List Char) :
    replacePair first second new (first :: second :: rest) =
      new :: replacePair first second new rest := by
  simp [replacePair]

theorem replacePair_other {first second : Char} (new : Char)
    (other : ∀ d more, rest = d :: more → ¬ (c = first ∧ d = second)) :
    replacePair first second new (c :: rest) = c :: replacePair first second new rest := by
  cases rest with
  | nil => rfl
  | cons d more => rw [replacePair, if_neg (other d more rfl)]

def replaceQuotes : List Char → List Char :=
  replacePair '\\' '"' '"'

def replaceBackslashes : List Char → List Char :=
  replacePair '\\' '\\' '\\'

theorem replaceQuotes_quote (rest : List Char) :
    replaceQuotes ('\\' :: '"' :: rest) = '"' :: replaceQuotes rest :=
  replacePair_found _ _ _ _

theorem replaceQuotes_other (other : ∀ more, c = '\\' → rest ≠ '"' :: more) :
    replaceQuotes (c :: rest) = c :: replaceQuotes rest :=
  replacePair_other _ fun _ more same found => other more found.1 (found.2 ▸ same)

theorem replaceBackslashes_backslash (rest : List Char) :
    replaceBackslashes ('\\' :: '\\' :: rest) = '\\' :: replaceBackslashes rest :=
  replacePair_found _ _ _ _

theorem replaceBackslashes_other (other : ∀ more, c = '\\' → rest ≠ '\\' :: more) :
    replaceBackslashes (c :: rest) = c :: replaceBackslashes rest :=
  replacePair_other _ fun _ more same found => other more found.1 (found.2 ▸ same)

/-- The first pass may take the second of two backslashes to a quote; the other one then stands
    alone, so the second pass gives the same two characters. -/
theorem replaced_backslashes (rest : List Char) :
    replaceBackslashes (replaceQuotes ('\\' :: '\\' :: rest)) =
      '\\' :: replaceBackslashes (replaceQuotes rest) := by
  rw [replaceQuotes_other (by simp)]
  by_cases quote : ∃ more, rest = '"' :: more
  · obtain ⟨more, rfl⟩ := quote
    rw [replaceQuotes_quote, replaceBackslashes_other (by simp), replaceQuotes_other (by simp)]
  · rw [replaceQuotes_other (fun more _ same => quote ⟨more, same⟩), replaceBackslashes_backslash]

theorem replaced_other (noQuote : ∀ more, c = '\\' → rest ≠ '"' :: more)
    (noBackslash : ∀ more, c = '\\' → rest ≠ '\\' :: more) :
    replaceBackslashes (replaceQuotes (c :: rest)) =
      c :: replaceBackslashes (replaceQuotes rest) := by
  rw [replaceQuotes_other noQuote]
  apply replaceBackslashes_other
  intro more backslash same
  cases rest with
  | nil => cases same
  | cons d rest =>
    have copied : replaceQuotes (d :: rest) = d :: replaceQuotes rest := by
      apply replaceQuotes_other
      intro _ again
      exact absurd (again ▸ rfl) (noBackslash rest backslash)
    rw [copied, List.cons.injEq] at same
    exact noBackslash rest backslash (by rw [same.1])

theorem replaced_eq_unescape (inner : List Char) :
    replaceBackslashes (replaceQuotes inner) = unescape inner := by
  fun_induction unescape inner with
  | case1 => rfl
  | case2 rest ih => rw [replaceQuotes_quote, replaceBackslashes_other (by simp), ih]
  | case3 rest ih => rw [replaced_backslashes, ih]
  | case4 c rest noQuote noBackslash ih =>
    rw [replaced_other (fun more same => noQuote more same) (fun more same => noBackslash more same), ih]

theorem mem_of_unescape {c : Char} (member : c ∈ unescape cs) : c ∈ cs := by
  fun_induction unescape cs with
  | case1 => exact member
  | case2 rest ih | case3 rest ih =>
    rcases List.mem_cons.mp member with rfl | inside
    · simp
    · simp [ih inside]
  | case4 d rest _ _ ih =>
    rcases List.mem_cons.mp member with rfl | inside
    · simp
    · simp [ih inside]

/- Ends. -/

def backslashes (before : List Char) : Nat :=
  (before.reverse.takeWhile (· = '\\')).length

def EvenRun (before : List Char) : Prop :=
  backslashes before % 2 = 0

instance (before : List Char) : Decidable (EvenRun before) :=
  inferInstanceAs (Decidable (_ = _))

theorem backslashes_run (n : Nat) (stops : front.getLast? ≠ some '\\') :
    backslashes (front ++ List.replicate n '\\') = n := by
  have none : Stops (· = '\\') front.reverse := by
    intro c last
    rw [List.head?_reverse] at last
    simpa using fun same : c = '\\' => stops (same ▸ last)
  have run : ∀ c ∈ List.replicate n '\\', decide (c = '\\') = true := by simp
  rw [backslashes, List.reverse_append, List.reverse_replicate, takeWhile_run run none,
    List.length_replicate]

theorem exists_run (cs : List Char) :
    ∃ front, cs = front ++ List.replicate (backslashes cs) '\\' ∧ front.getLast? ≠ some '\\' := by
  have run : cs.reverse.takeWhile (· = '\\') = List.replicate (backslashes cs) '\\' := by
    refine List.eq_replicate_of_mem fun c member => ?_
    simpa using List.mem_takeWhile_imp member
  refine ⟨(cs.reverse.dropWhile (· = '\\')).reverse, ?_, ?_⟩
  · rw [← List.reverse_inj, List.reverse_append, List.reverse_replicate, List.reverse_reverse, ← run,
      List.takeWhile_append_dropWhile]
  · intro last
    rw [List.getLast?_reverse] at last
    have outside := stops_dropWhile (· = '\\') cs.reverse '\\' last
    simp at outside

theorem evenRun_cons (plain : c ≠ '\\') : EvenRun (c :: cs) ↔ EvenRun cs := by
  obtain ⟨front, split, stops⟩ := exists_run cs
  have same : backslashes (c :: cs) = backslashes cs := by
    rw [split, ← List.cons_append, backslashes_run _ stops]
    apply backslashes_run
    cases front with
    | nil => simpa using plain
    | cons d front => simpa using stops
  rw [EvenRun, same, EvenRun]

theorem evenRun_escaped (c : Char) (cs : List Char) : EvenRun ('\\' :: c :: cs) ↔ EvenRun cs := by
  obtain ⟨front, split, stops⟩ := exists_run cs
  by_cases longer : front = [] ∧ c = '\\'
  · obtain ⟨rfl, rfl⟩ := longer
    have run : '\\' :: '\\' :: cs = [] ++ List.replicate (backslashes cs + 2) '\\' := by
      conv => lhs; rw [split]
      rfl
    have two : backslashes ('\\' :: '\\' :: cs) = backslashes cs + 2 := by
      rw [run]
      exact backslashes_run _ (by simp)
    rw [EvenRun, two, EvenRun]
    omega
  · have same : backslashes ('\\' :: c :: cs) = backslashes cs := by
      conv => lhs; rw [split, ← List.cons_append, ← List.cons_append]
      apply backslashes_run
      cases front with
      | nil => simpa using longer
      | cons d front => simpa using stops
    rw [EvenRun, same, EvenRun]

theorem evenRun_pairs (pairs : Nat) (stops : front.getLast? ≠ some '\\') :
    EvenRun (front ++ List.replicate (2 * pairs) '\\') := by
  rw [EvenRun, backslashes_run _ stops]
  omega

theorem exists_pairs (even : EvenRun cs) : ∃ front pairs,
    cs = front ++ List.replicate (2 * pairs) '\\' ∧ front.getLast? ≠ some '\\' := by
  obtain ⟨front, split, stops⟩ := exists_run cs
  have half : backslashes cs = 2 * (backslashes cs / 2) := by
    have whole : backslashes cs % 2 = 0 := even
    omega
  refine ⟨front, backslashes cs / 2, ?_, stops⟩
  rwa [← half]

theorem oneLine_of_quotable (quotable : Quotable inner) : '\n' ∉ inner := by
  induction quotable with
  | nil => simp
  | plain _ _ noBreak _ ih => simp [Ne.symm noBreak, ih]
  | escaped noBreak _ ih => simp [Ne.symm noBreak, ih]

theorem evenRun_of_quotable (quotable : Quotable inner) :
    EvenRun inner ∧ ∀ before after, inner = before ++ '"' :: after → ¬ EvenRun before := by
  induction quotable with
  | nil =>
    refine ⟨by decide, ?_⟩
    intro before after split
    simp at split
  | @plain c inner noQuote noBackslash _ _ ih =>
    refine ⟨(evenRun_cons noBackslash).mpr ih.1, ?_⟩
    intro before after split
    cases before with
    | nil => exact absurd (List.cons.inj split).1 noQuote
    | cons d before =>
      rw [List.cons_append, List.cons.injEq] at split
      rw [← split.1, evenRun_cons noBackslash]
      exact ih.2 before after split.2
  | @escaped c inner _ _ ih =>
    refine ⟨(evenRun_escaped c inner).mpr ih.1, ?_⟩
    intro before after split
    match before with
    | [] => cases (List.cons.inj split).1
    | [d] =>
      rw [← (List.cons.inj split).1]
      decide
    | d :: e :: before =>
      rw [List.cons_append, List.cons_append, List.cons.injEq, List.cons.injEq] at split
      rw [← split.1, evenRun_escaped]
      exact ih.2 before after split.2.2

theorem exists_quotable (line : '\n' ∉ inner) (even : EvenRun inner) (rest : List Char) :
    ∃ first behind, inner ++ '"' :: rest = first ++ '"' :: behind ∧ Quotable first := by
  induction size : inner.length using Nat.strongRecOn generalizing inner with
  | ind k ih =>
    cases inner with
    | nil => exact ⟨[], rest, rfl, .nil⟩
    | cons c more =>
      obtain ⟨noBreak, inside⟩ := not_or.mp (List.mem_cons.not.mp line)
      by_cases quote : c = '"'
      · exact ⟨[], more ++ '"' :: rest, by rw [quote]; rfl, .nil⟩
      by_cases backslash : c = '\\'
      · subst backslash
        cases more with
        | nil => exact absurd even (by decide)
        | cons d more =>
          obtain ⟨breakless, within⟩ := not_or.mp (List.mem_cons.not.mp inside)
          rw [evenRun_escaped] at even
          have shorter : more.length < k := by
            rw [← size, List.length_cons, List.length_cons]
            omega
          obtain ⟨first, behind, split, quotable⟩ := ih _ shorter within even rfl
          refine ⟨'\\' :: d :: first, behind, ?_, .escaped (Ne.symm breakless) quotable⟩
          rw [List.cons_append, List.cons_append, split]
          rfl
      · rw [evenRun_cons backslash] at even
        have shorter : more.length < k := by
          rw [← size, List.length_cons]
          omega
        obtain ⟨first, behind, split, quotable⟩ := ih _ shorter inside even rfl
        refine ⟨c :: first, behind, ?_, .plain quote backslash (Ne.symm noBreak) quotable⟩
        rw [List.cons_append, split]
        rfl

theorem quote_cases {first behind : List Char} (same : inner ++ '"' :: rest = first ++ '"' :: behind) :
    inner = first ∧ rest = behind ∨ (∃ after, inner = first ++ '"' :: after) ∨
      ∃ after, first = inner ++ '"' :: after := by
  rcases List.append_eq_append_iff.mp same with ⟨more, split, left⟩ | ⟨more, split, left⟩
  · cases more with
    | nil => exact .inl ⟨by simpa using split.symm, by simpa using left⟩
    | cons c more =>
      rw [List.cons_append, List.cons.injEq] at left
      exact .inr (.inr ⟨more, by rw [split, left.1]⟩)
  · cases more with
    | nil => exact .inl ⟨by simpa using split, by simpa using left.symm⟩
    | cons c more =>
      rw [List.cons_append, List.cons.injEq] at left
      exact .inr (.inl ⟨more, by rw [split, left.1]⟩)

/-- The characters of a value stand in one line and in front of the first quote behind an even run. -/
theorem quotable_iff : Quotable inner ↔ '\n' ∉ inner ∧ EvenRun inner ∧
    ∀ before after, inner = before ++ '"' :: after → ¬ EvenRun before := by
  constructor
  · intro quotable
    exact ⟨oneLine_of_quotable quotable, evenRun_of_quotable quotable⟩
  · intro ends
    obtain ⟨line, even, earlier⟩ := ends
    obtain ⟨first, behind, same, quotable⟩ := exists_quotable line even []
    obtain ⟨closes, others⟩ := evenRun_of_quotable quotable
    rcases quote_cases same with ⟨rfl, _⟩ | ⟨after, split⟩ | ⟨after, split⟩
    · exact quotable
    · exact absurd closes (earlier first after split)
    · exact absurd even (others inner after split)

/- The pattern. -/

/-- A way to match a quoted value: behind the opening quote any characters of one line, the last of
    which is no backslash, then pairs of backslashes and the closing quote. -/
structure QuotedMatch (cs front : List Char) (pairs : Nat) (rest : List Char) : Prop where
  split : cs = '"' :: (front ++ List.replicate (2 * pairs) '\\' ++ '"' :: rest)
  one_line : '\n' ∉ front
  plain_end : front.getLast? ≠ some '\\'

/-- The way that is found: with as few characters as possible in front of the pairs, which leave one
    number of pairs. -/
structure FirstMatch (cs front : List Char) (pairs : Nat) (rest : List Char) : Prop extends
    QuotedMatch cs front pairs rest where
  fewest : ∀ other more behind, QuotedMatch cs other more behind → front.length ≤ other.length

theorem QuotedMatch.line (found : QuotedMatch cs front pairs rest) :
    '\n' ∉ front ++ List.replicate (2 * pairs) '\\' := by
  simp [found.one_line]

theorem front_unique {other : List Char} {more : Nat} (stops : front.getLast? ≠ some '\\')
    (ends : other.getLast? ≠ some '\\')
    (same : front ++ List.replicate (2 * pairs) '\\' = other ++ List.replicate (2 * more) '\\') :
    front = other := by
  have runs := congrArg backslashes same
  rw [backslashes_run _ stops, backslashes_run _ ends] at runs
  rw [runs] at same
  exact List.append_cancel_right same

theorem length_lt_of_later {after : List Char}
    (later : front ++ List.replicate pairs '\\' = inner ++ '"' :: after) :
    inner.length < front.length := by
  rcases List.append_eq_append_iff.mp later with ⟨more, _, left⟩ | ⟨more, split, left⟩
  · have quote : '"' ∈ List.replicate pairs '\\' := by simp [left]
    exact absurd (List.eq_of_mem_replicate quote) (by decide)
  · cases more with
    | nil =>
      have quote : '"' ∈ List.replicate pairs '\\' := by
        rw [← List.nil_append (List.replicate _ _), ← left]
        simp
      exact absurd (List.eq_of_mem_replicate quote) (by decide)
    | cons c more =>
      rw [split, List.length_append, List.length_cons]
      omega

theorem firstMatch_iff : FirstMatch cs front pairs rest ↔
    QuotedMatch cs front pairs rest ∧ Quotable (front ++ List.replicate (2 * pairs) '\\') := by
  constructor
  · intro found
    refine ⟨found.toQuotedMatch, ?_⟩
    have even := evenRun_pairs pairs found.plain_end
    obtain ⟨first, behind, same, quotable⟩ := exists_quotable found.line even rest
    obtain ⟨closes, others⟩ := evenRun_of_quotable quotable
    rcases quote_cases same with ⟨rfl, _⟩ | ⟨after, split⟩ | ⟨after, split⟩
    · exact quotable
    -- A quote further in front would have been matched with fewer characters.
    · obtain ⟨other, more, rfl, stops⟩ := exists_pairs closes
      have line := oneLine_of_quotable quotable
      have earlier : QuotedMatch cs other more behind :=
        ⟨by rw [found.split, same], fun member => line (by simp [member]), stops⟩
      have fewer := found.fewest other more behind earlier
      have longer := length_lt_of_later split
      rw [List.length_append] at longer
      omega
    · exact absurd even (others _ after split)
  · intro found
    obtain ⟨here, quotable⟩ := found
    refine ⟨here, ?_⟩
    intro other more behind there
    have even := evenRun_pairs more there.plain_end
    have same := (List.cons.inj (here.split.symm.trans there.split)).2
    rcases quote_cases same with ⟨equal, _⟩ | ⟨after, split⟩ | ⟨after, split⟩
    · rw [front_unique here.plain_end there.plain_end equal]
    · exact absurd even ((evenRun_of_quotable quotable).2 _ after split)
    · have longer := length_lt_of_later split
      rw [List.length_append] at longer
      omega

theorem scanQuoted_eq_some_iff_firstMatch : scanQuoted cs = some (t, rest) ↔
    ∃ front pairs, FirstMatch cs front pairs rest ∧
      t = .quotedValue (front ++ List.replicate (2 * pairs) '\\') := by
  rw [scanQuoted_eq_some_iff]
  constructor
  · intro scanned
    obtain ⟨inner, rfl, split, quotable⟩ := scanned
    obtain ⟨front, pairs, rfl, stops⟩ := exists_pairs (evenRun_of_quotable quotable).1
    have line := oneLine_of_quotable quotable
    have found : QuotedMatch cs front pairs rest :=
      ⟨by simpa [Token.lexeme] using split, fun member => line (by simp [member]), stops⟩
    exact ⟨front, pairs, firstMatch_iff.mpr ⟨found, quotable⟩, rfl⟩
  · intro found
    obtain ⟨front, pairs, first, rfl⟩ := found
    obtain ⟨found, quotable⟩ := firstMatch_iff.mp first
    exact ⟨_, rfl, by simpa [Token.lexeme] using found.split, quotable⟩

/-- Replacing escaped quotes and then doubled backslashes gives what one pass over the value gives.
    The scanner finds what the pattern of a quoted value matches first, and that ends at the first
    quote behind the opening one that an even run of backslashes stands in front of. -/
theorem quoted_values_read_in_one_pass :
    (∀ inner, replaceBackslashes (replaceQuotes inner) = unescape inner) ∧
    ∀ cs t rest,
      (scanQuoted cs = some (t, rest) ↔ ∃ front pairs, FirstMatch cs front pairs rest ∧
        t = .quotedValue (front ++ List.replicate (2 * pairs) '\\')) ∧
      (scanQuoted cs = some (t, rest) ↔ ∃ inner, t = .quotedValue inner ∧
        cs = '"' :: (inner ++ '"' :: rest) ∧ '\n' ∉ inner ∧ EvenRun inner ∧
        ∀ before after, inner = before ++ '"' :: after → ¬ EvenRun before) := by
  refine ⟨replaced_eq_unescape, ?_⟩
  intro cs t rest
  refine ⟨scanQuoted_eq_some_iff_firstMatch, ?_⟩
  simp only [scanQuoted_eq_some_iff, quotable_iff]
  constructor
  · intro scanned
    obtain ⟨inner, rfl, split, ends⟩ := scanned
    exact ⟨inner, rfl, by simpa [Token.lexeme] using split, ends⟩
  · intro ends
    obtain ⟨inner, rfl, split, ends⟩ := ends
    exact ⟨inner, rfl, by simpa [Token.lexeme] using split, ends⟩

end BondQuery.Syntax
