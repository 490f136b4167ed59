import BondQuery.Proofs.TomlValues

/- Documents of tables, each of which is declared once and has flat entries. Such a document is
   read back as it was written: every line leads from what has been read to what has been read
   and that line. -/
namespace BondQuery.Toml
open Text (Stops stops_cons)
variable {rest more : List Char}

def nest : Path → Table → Table
  | [], entries => entries
  | name :: path, entries => [(name, .table (nest path entries))]

structure Section where
  name : String
  below : Path
  entries : Table
  flat : ∀ entry ∈ entries, entry.2.IsFlat
  distinct : (entries.map (·.1)).Nodup

namespace Section

def path (s : Section) : Path :=
  s.name :: s.below

def entry (s : Section) : String × Toml :=
  (s.name, .table (nest s.below s.entries))

def chars (s : Section) : List Char :=
  headerChars (keyChars s.name ++ dottedChars s.below) ++ entryLines s.entries

end Section

/-- The text of sections, with an empty line between two of them. -/
def sectionsChars (apart : Bool) : List Section → List Char
  | [] => []
  | s :: rest => (if apart then ['\n'] else []) ++ s.chars ++ sectionsChars true rest

/- Writing. -/

theorem IsFlat.no_table {value : Toml} (flat : value.IsFlat) : isTable value = false := by
  cases value with
  | table _ => exact flat.elim
  | _ => rfl

theorem entryLines_cons {key : String} {value : Toml} (flat : value.IsFlat) (entries : Table) :
    entryLines ((key, value) :: entries) =
      keyChars key ++ (' ' :: '=' :: ' ' :: (valueChars 0 value ++ '\n' :: entryLines entries)) := by
  cases value with
  | table _ => exact flat.elim
  | _ => simp [entryLines]

theorem subtableChars_flat (name : List Char) (apart : Bool) {entries : Table}
    (flat : ∀ entry ∈ entries, entry.2.IsFlat) : subtableChars name apart entries = [] := by
  induction entries with
  | nil => rw [subtableChars]
  | cons entry entries ih =>
    obtain ⟨key, value⟩ := entry
    obtain ⟨first, others⟩ := List.forall_mem_cons.mp flat
    cases value with
    | table _ => exact first.elim
    | _ => simpa [subtableChars] using ih others

theorem any_table_flat {entries : Table} (flat : ∀ entry ∈ entries, entry.2.IsFlat) :
    entries.any (isTable ·.2) = false := by
  refine List.any_eq_false.mpr fun entry inside => ?_
  simp [(flat entry inside).no_table]

theorem tableChars_nest {name : List Char} (named : name ≠ []) (path : Path) {entries : Table}
    (flat : ∀ entry ∈ entries, entry.2.IsFlat) :
    tableChars name (.table (nest path entries)) =
      headerChars (name ++ dottedChars path) ++ entryLines entries := by
  induction path generalizing name with
  | nil =>
    have none := any_table_flat flat
    simp [nest, tableChars, named, none, dottedChars, subtableChars_flat _ _ flat]
  | cons inner path ih =>
    have longer : name ++ '.' :: keyChars inner ≠ [] := by simp
    have below := ih longer
    rw [nest, tableChars]
    simp [entryLines, isTable, subtableChars, named, below, dottedChars]

theorem keyChars_ne_nil (key : String) : keyChars key ≠ [] := by
  obtain ⟨c, cs, spelled, _⟩ := keyChars_head key
  simp [spelled]

theorem subtableChars_sections (apart : Bool) (sections : List Section) :
    subtableChars [] apart (sections.map Section.entry) = sectionsChars apart sections := by
  induction sections generalizing apart with
  | nil => simp [subtableChars, sectionsChars]
  | cons s sections ih =>
    have first := tableChars_nest (keyChars_ne_nil s.name) s.below s.flat
    simp [Section.entry, subtableChars, first, ih, sectionsChars, Section.chars]

theorem write_sections (sections : List Section) :
    write (sections.map Section.entry) = sectionsChars false sections := by
  have plain : entryLines (sections.map Section.entry) = [] := by
    induction sections with
    | nil => rfl
    | cons s sections ih => simpa [Section.entry, entryLines] using ih
  simp [write, tableChars, plain, subtableChars_sections]

/- Lines. -/

/-- Reading a text goes on with another document at a later place, with fuel for what is left. -/
def Leads (doc : Document) (cs : List Char) (next : Document) (more : List Char) : Prop :=
  ∀ fuel, cs.length < fuel →
    ∃ less, more.length < less ∧ readLines fuel doc cs = readLines less next more

theorem Leads.refl (doc : Document) (cs : List Char) : Leads doc cs doc cs :=
  fun fuel enough => ⟨fuel, enough, rfl⟩

theorem Leads.trans {first second third : Document} {cs ds es : List Char}
    (before : Leads first cs second ds) (after : Leads second ds third es) :
    Leads first cs third es := by
  intro fuel enough
  obtain ⟨less, left, same⟩ := before fuel enough
  obtain ⟨least, last, goes⟩ := after less left
  exact ⟨least, last, same.trans goes⟩

theorem Leads.line {doc next : Document} {line : List Char}
    (unblank : Stops isBlankChar (line ++ '\n' :: more))
    (statement : readStatement doc (line ++ '\n' :: more) = .ok (next, '\n' :: more)) :
    Leads doc (line ++ '\n' :: more) next more := by
  intro fuel enough
  rw [List.length_append, List.length_cons] at enough
  obtain ⟨fuel, rfl⟩ := Nat.exists_eq_succ_of_ne_zero (Nat.ne_zero_of_lt enough)
  refine ⟨fuel, by omega, ?_⟩
  rw [readLines, skipBlank_of_stops unblank, statement]
  rfl

theorem leads_empty (doc : Document) (more : List Char) : Leads doc ('\n' :: more) doc more := by
  have unblank : Stops isBlankChar ([] ++ '\n' :: more) := stops_cons.mpr rfl
  exact .line unblank rfl

theorem length_le_dotted (path : Path) : path.length ≤ (dottedChars path).length := by
  induction path with
  | nil => simp
  | cons name path ih =>
    simp only [dottedChars, List.flatMap_cons, List.length_append, List.length_cons] at ih ⊢
    omega

theorem atPlace_ok {α : Type} (behind : List Char) (a : α) :
    atPlace behind (.ok a) = .ok a :=
  rfl

theorem readStatement_bracket {cs : List Char} (single : cs.head? ≠ some '[') (doc : Document) :
    readStatement doc ('[' :: cs) = (do
      let (path, behind) ← readKey (cs.length + 1) (skipBlank cs)
      let next ← atPlace behind (doc.openTable path)
      match behind with
      | ']' :: more => return (next, skipBlank more)
      | other => fail other .tableEnd) := by
  unfold readStatement
  split
  · rename_i same
    cases same
  · rename_i same
    obtain ⟨_, double⟩ := List.cons.inj same
    simp [double] at single
  · rename_i same
    cases same
    rfl
  · rename_i other same
    exact (other (List.cons.inj same).1.symm).elim

theorem readStatement_header {doc next : Document} {name : String} {path : Path}
    (opened : doc.openTable (name :: path) = .ok next) (more : List Char) :
    readStatement doc (headerChars (keyChars name ++ dottedChars path) ++ more) =
      .ok (next, '\n' :: more) := by
  have enough : path.length <
      (keyChars name ++ (dottedChars path ++ ']' :: '\n' :: more)).length + 1 := by
    have long := length_le_dotted path
    simp only [List.length_append]
    omega
  have stops : Stops isBareKeyChar (']' :: '\n' :: more) := stops_cons.mpr rfl
  have key := readKey_dotted name path enough stops (by simp [skipBlank, isBlankChar])
  have unblank := skipBlank_of_stops
    (keyChars_unblank name (dottedChars path ++ ']' :: '\n' :: more))
  have spelled : headerChars (keyChars name ++ dottedChars path) ++ more =
      '[' :: (keyChars name ++ (dottedChars path ++ ']' :: '\n' :: more)) := by
    simp [headerChars]
  obtain ⟨c, cs, same, head⟩ := keyChars_head name
  have other : c ≠ '[' := by
    rintro rfl
    rcases head with bare | quote
    · exact absurd bare (by decide)
    · cases quote
  have single : (keyChars name ++ (dottedChars path ++ ']' :: '\n' :: more)).head? ≠ some '[' := by
    simp [same, other]
  rw [spelled, readStatement_bracket single, unblank, key]
  simp only [bind, Except.bind, opened, atPlace_ok]
  rfl

theorem value_unblank {value : Toml} (flat : value.IsFlat) (rest : List Char) :
    Stops isBlankChar (valueChars 0 value ++ rest) := by
  rcases flat.cases with scalar | ⟨items, rfl, _⟩
  · exact scalar_stops scalar 0 rest (by decide)
  · cases items with
    | nil => simp [valueChars, stops_cons, isBlankChar]
    | cons item items => simp [valueChars, stops_cons, isBlankChar]

def lineChars (key : String) (value : Toml) : List Char :=
  keyChars key ++ (' ' :: '=' :: ' ' :: valueChars 0 value)

theorem readPair_line (key : String) {value : Toml} (flat : value.IsFlat) (more : List Char)
    {fuel : Nat} (enough : (valueChars 0 value).length < fuel) :
    readPair (fuel + 1) (lineChars key value ++ '\n' :: more) =
      .ok ([key], value, '\n' :: more) := by
  have stops : Stops isBareKeyChar (' ' :: '=' :: ' ' :: (valueChars 0 value ++ '\n' :: more)) :=
    stops_cons.mpr rfl
  have name := readKey_dotted key [] (Nat.succ_pos (lineChars key value ++ '\n' :: more).length)
    stops (by simp [skipBlank, isBlankChar])
  have equals : skipBlank (' ' :: '=' :: ' ' :: (valueChars 0 value ++ '\n' :: more)) =
      '=' :: ' ' :: (valueChars 0 value ++ '\n' :: more) := rfl
  have blank : skipBlank (' ' :: (valueChars 0 value ++ '\n' :: more)) =
      valueChars 0 value ++ '\n' :: more := by
    have unblank := skipBlank_of_stops (value_unblank flat ('\n' :: more))
    simpa [skipBlank, isBlankChar] using unblank
  have ends : Ends ('\n' :: more) := begins_cons.mpr (by decide)
  have read := readValue_flat flat ends enough
  have spelled : lineChars key value ++ '\n' :: more =
      keyChars key ++ (dottedChars [] ++
        ' ' :: '=' :: ' ' :: (valueChars 0 value ++ '\n' :: more)) := by
    simp [lineChars, dottedChars]
  rw [← spelled, equals] at name
  rw [readPair.eq_def]
  simp only [name, bind, Except.bind, blank, read]
  rfl

theorem readStatement_pair {cs : List Char} {c : Char} (begins : cs.head? = some c)
    (key : isBareKeyChar c = true ∨ c = '"') (doc : Document) :
    readStatement doc cs = (do
      let (names, value, behind) ← readPair (2 * cs.length + 2) cs
      let next ← atPlace behind (doc.assign names value)
      return (next, skipBlank behind)) := by
  have opens : (isBareKeyChar c || c == '"' || c == '\'') = true := by
    rcases key with bare | rfl
    · simp [bare]
    · rfl
  unfold readStatement
  split
  · cases begins
  · cases begins
    cases opens
  · cases begins
    cases opens
  · cases begins
    rw [if_pos opens]

theorem readStatement_line {doc next : Document} {key : String} {value : Toml} (flat : value.IsFlat)
    (assigned : doc.assign [key] value = .ok next) (more : List Char) :
    readStatement doc (lineChars key value ++ '\n' :: more) = .ok (next, '\n' :: more) := by
  obtain ⟨c, cs, same, head⟩ := keyChars_head key
  have begins : (lineChars key value ++ '\n' :: more).head? = some c := by
    simp [lineChars, same]
  have enough : (valueChars 0 value).length <
      2 * (lineChars key value ++ '\n' :: more).length + 1 := by
    simp only [lineChars, List.length_append, List.length_cons]
    omega
  have pair := readPair_line key flat more enough
  rw [readStatement_pair begins head, pair]
  simp only [bind, Except.bind, assigned, atPlace_ok]
  rfl

/- Tables. -/

section
variable {before : Table} {name : String}

theorem lookup_fresh (fresh : name ∉ before.map (·.1)) : before.lookup name = none := by
  refine List.lookup_eq_none_iff.mpr fun entry inside => ?_
  have other : name ≠ entry.1 := by
    rintro rfl
    exact fresh (List.mem_map_of_mem inside)
  simpa using other

theorem lookup_last (fresh : name ∉ before.map (·.1)) (value : Toml) :
    (before ++ [(name, value)]).lookup name = some value := by
  rw [List.lookup_append, lookup_fresh fresh]
  simp

theorem replace_last (fresh : name ∉ before.map (·.1)) (value changed : Toml) :
    replace name changed (before ++ [(name, value)]) = before ++ [(name, changed)] := by
  induction before with
  | nil => simp [replace]
  | cons entry before ih =>
    obtain ⟨key, kept⟩ := entry
    simp only [List.map_cons, List.mem_cons, not_or] at fresh
    have other : key ≠ name := fun same => fresh.1 same.symm
    simp [replace, other, ih fresh.2]

theorem changeAt_last (fresh : name ∉ before.map (·.1)) (path : Path)
    (change : Table → Except Reason Table) (entries : Table) :
    changeAt true (name :: path) change (before ++ [(name, .table entries)]) =
      (changeAt true path change entries).map fun changed => before ++ [(name, .table changed)] := by
  rw [changeAt, lookup_last fresh]
  simp only [replace_last fresh]
  cases changeAt true path change entries <;> rfl

theorem changeAt_nest (path : Path) (change : Table → Except Reason Table) (entries : Table) :
    changeAt true path change (nest path entries) = (change entries).map (nest path) := by
  induction path with
  | nil =>
    rw [nest, changeAt]
    cases change entries <;> rfl
  | cons name path ih =>
    have fresh : name ∉ ([] : Table).map (·.1) := by simp
    have inner := changeAt_last fresh path change (nest path entries)
    rw [List.nil_append] at inner
    rw [nest, inner, ih]
    cases change entries <;> rfl

theorem changeAt_new (fresh : name ∉ before.map (·.1)) (path : Path)
    (change : Table → Except Reason Table) :
    changeAt true (name :: path) change before =
      (changeAt true path change []).map fun changed => before ++ [(name, .table changed)] := by
  rw [changeAt, lookup_fresh fresh]
  cases changeAt true path change [] <;> rfl

theorem changeAt_empty (path : Path) : changeAt true path pure [] = .ok (nest path []) := by
  induction path with
  | nil => rfl
  | cons name path ih =>
    have fresh : name ∉ ([] : Table).map (·.1) := by simp
    rw [changeAt_new fresh, ih]
    rfl

end

/- Statements. -/

/-- All marks are at or below these names of the root. -/
structure Marks.Within (m : Marks) (names : List String) : Prop where
  settled : m.pending = []
  nests : ∀ path ∈ m.nests, ∃ name ∈ names, path.head? = some name
  frozen : ∀ path ∈ m.frozen, ∃ name ∈ names, path.head? = some name

theorem Marks.Within.settle {m : Marks} {names : List String} (within : m.Within names) :
    m.settle = m := by
  obtain ⟨frozen, nests, pending⟩ := m
  obtain rfl : pending = [] := within.settled
  rfl

theorem Marks.Within.mono {m : Marks} {names larger : List String} (within : m.Within names)
    (subset : names ⊆ larger) : m.Within larger := by
  refine ⟨within.settled, fun path inside => ?_, fun path inside => ?_⟩
  · obtain ⟨name, known, first⟩ := within.nests path inside
    exact ⟨name, subset known, first⟩
  · obtain ⟨name, known, first⟩ := within.frozen path inside
    exact ⟨name, subset known, first⟩

def Marks.Open (m : Marks) (path : Path) : Prop :=
  ∀ frozen ∈ m.frozen, ¬ frozen <+: path

theorem Marks.Open.not_frozen {m : Marks} {path : Path} (opens : m.Open path) :
    m.isFrozen path = false := by
  have none : (m.frozen.any fun p => p.isPrefixOf path) = false := by
    refine List.any_eq_false.mpr fun frozen inside => ?_
    simpa using opens frozen inside
  simp [isFrozen, none]

theorem Marks.Within.open_of_fresh {m : Marks} {names : List String} {name : String}
    (within : m.Within names) (fresh : name ∉ names) (path : Path) : m.Open (name :: path) := by
  intro frozen inside leads
  obtain ⟨other, known, first⟩ := within.frozen frozen inside
  cases frozen with
  | nil => cases first
  | cons head tail =>
    obtain rfl : head = other := by simpa using first
    obtain ⟨rfl, _⟩ := List.cons_prefix_cons.mp leads
    exact fresh known

theorem Marks.Within.not_nest {m : Marks} {names : List String} {name : String}
    (within : m.Within names) (fresh : name ∉ names) (path : Path) :
    m.isNest (name :: path) = false := by
  rw [isNest, Bool.eq_false_iff]
  intro inside
  obtain ⟨other, known, first⟩ := within.nests _ (List.contains_iff_mem.mp inside)
  obtain rfl : name = other := by simpa using first
  exact fresh known

/-- These sections have been read, and others may follow. -/
structure Document.Holds (doc : Document) (sections : List Section) : Prop where
  root : doc.root = sections.map Section.entry
  marks : doc.marks.Within (sections.map Section.name)

structure Document.Fills (doc : Document) (before : List Section) (s : Section) (entries : Table) :
    Prop where
  root : doc.root = before.map Section.entry ++ [(s.name, .table (nest s.below entries))]
  header : doc.header = s.path
  marks : doc.marks.Within ((before.map Section.name) ++ [s.name])
  opens : doc.marks.Open s.path

section
variable {doc : Document} {before : List Section} {s : Section}

theorem fresh_entry (fresh : s.name ∉ before.map Section.name) :
    s.name ∉ (before.map Section.entry).map (·.1) := by
  simpa [Section.entry] using fresh

theorem openTable_fresh (holds : doc.Holds before) (fresh : s.name ∉ before.map Section.name) :
    ∃ next, doc.openTable s.path = .ok next ∧ next.Fills before s [] := by
  have within := holds.marks
  have opens := within.open_of_fresh fresh s.below
  have root : changeAt true s.path pure doc.root =
      .ok (before.map Section.entry ++ [(s.name, .table (nest s.below []))]) := by
    rw [holds.root, Section.path, changeAt_new (fresh_entry fresh), changeAt_empty]
    rfl
  refine ⟨⟨_, s.path, doc.marks.addNest s.path⟩, ?_, rfl, rfl, ?_, opens⟩
  · have closed : (doc.marks.isNest s.path || doc.marks.isFrozen s.path) = false := by
      rw [Section.path, within.not_nest fresh, opens.not_frozen]
      rfl
    simp only [Document.openTable, within.settle, closed, root]
    rfl
  · have larger := within.mono (List.subset_append_left (before.map Section.name) [s.name])
    refine ⟨larger.settled, fun path inside => ?_, larger.frozen⟩
    rcases List.mem_cons.mp inside with rfl | old
    · exact ⟨s.name, by simp, rfl⟩
    · exact larger.nests path old

theorem insertNew_fresh {key : String} {entries : Table} (fresh : key ∉ entries.map (·.1))
    (fault : Reason) (value : Toml) :
    insertNew fault key value entries = .ok (entries ++ [(key, value)]) := by
  rw [insertNew, lookup_fresh fresh]
  rfl

theorem Marks.Within.freeze {m : Marks} {names : List String} {path : Path} {name : String}
    (within : m.Within names) (known : name ∈ names) (first : path.head? = some name) :
    (m.freeze path).Within names := by
  refine ⟨within.settled, within.nests, fun p inside => ?_⟩
  rcases List.mem_cons.mp inside with rfl | old
  · exact ⟨name, known, first⟩
  · exact within.frozen p old

theorem Marks.Open.freeze {m : Marks} {path longer : Path} (opens : m.Open path)
    (long : path.length < longer.length) : (m.freeze longer).Open path := by
  intro frozen inside leads
  rcases List.mem_cons.mp inside with rfl | old
  · have short := leads.length_le
    omega
  · exact opens frozen old leads

theorem assign_new {entries : Table} {key : String} (fills : doc.Fills before s entries)
    (fresh : s.name ∉ before.map Section.name) (unused : key ∉ entries.map (·.1)) (value : Toml) :
    ∃ next, doc.assign [key] value = .ok next ∧ next.Fills before s (entries ++ [(key, value)]) := by
  have root : changeAt true s.path (insertNew .overwritten key value) doc.root =
      .ok (before.map Section.entry ++
        [(s.name, .table (nest s.below (entries ++ [(key, value)])))]) := by
    rw [fills.root, Section.path, changeAt_last (fresh_entry fresh), changeAt_nest,
      insertNew_fresh unused]
    rfl
  refine ⟨⟨_, s.path, if value.isContainer then doc.marks.freeze (s.path ++ [key]) else doc.marks⟩,
    ?_, rfl, rfl, ?_, ?_⟩
  · have dotted : Document.markDotted doc.marks s.path [key] = .ok doc.marks := rfl
    have last : [key].getLastD "" = key := rfl
    simp only [Document.assign, fills.header, List.dropLast_singleton, List.append_nil, dotted,
      fills.opens.not_frozen, last, root, bind, Except.bind]
    rfl
  · split
    · have known : s.name ∈ before.map Section.name ++ [s.name] := by simp
      exact fills.marks.freeze known rfl
    · exact fills.marks
  · split
    · exact fills.opens.freeze (by simp)
    · exact fills.opens

/- Runs of lines. -/

theorem leads_entries {entries : Table} (fills : doc.Fills before s entries)
    (fresh : s.name ∉ before.map Section.name) {todo : Table}
    (flat : ∀ entry ∈ todo, entry.2.IsFlat) (distinct : ((entries ++ todo).map (·.1)).Nodup)
    (more : List Char) :
    ∃ next, next.Fills before s (entries ++ todo) ∧
      Leads doc (entryLines todo ++ more) next more := by
  -- by the entries to come; those that were read move from `todo` to `entries`
  induction todo generalizing doc entries with
  | nil =>
    rw [List.append_nil]
    exact ⟨doc, fills, .refl doc more⟩
  | cons entry todo ih =>
    obtain ⟨key, value⟩ := entry
    obtain ⟨first, others⟩ := List.forall_mem_cons.mp flat
    have unused : key ∉ entries.map (·.1) := by
      rw [List.map_append, List.map_cons] at distinct
      intro used
      exact (List.nodup_append.mp distinct).2.2 key used key List.mem_cons_self rfl
    obtain ⟨next, assigned, filled⟩ := assign_new fills fresh unused value
    have split : entries ++ (key, value) :: todo = entries ++ [(key, value)] ++ todo := by simp
    rw [split] at distinct ⊢
    obtain ⟨last, done, leads⟩ := ih filled others distinct
    refine ⟨last, done, .trans ?_ leads⟩
    have line : entryLines ((key, value) :: todo) ++ more =
        lineChars key value ++ '\n' :: (entryLines todo ++ more) := by
      simp [entryLines_cons first, lineChars]
    rw [line]
    refine .line ?_ (readStatement_line first assigned _)
    rw [lineChars, List.append_assoc]
    exact keyChars_unblank key _

theorem leads_section (holds : doc.Holds before) (fresh : s.name ∉ before.map Section.name)
    (more : List Char) :
    ∃ next, next.Holds (before ++ [s]) ∧ Leads doc (s.chars ++ more) next more := by
  obtain ⟨opened, header, fills⟩ := openTable_fresh holds fresh
  obtain ⟨next, done, leads⟩ := leads_entries fills fresh s.flat (by simpa using s.distinct) more
  refine ⟨next, ⟨?_, ?_⟩, .trans ?_ leads⟩
  -- a section that is filled is one that has been read
  · rw [done.root, List.map_append]
    rfl
  · rw [List.map_append]
    exact done.marks
  · have line : s.chars ++ more = ('[' :: (keyChars s.name ++ dottedChars s.below ++ [']'])) ++
        '\n' :: (entryLines s.entries ++ more) := by
      simp [Section.chars, headerChars]
    have statement := readStatement_header header (entryLines s.entries ++ more)
    rw [← List.append_assoc] at statement
    rw [← Section.chars, line] at statement
    rw [line]
    exact .line (stops_cons.mpr rfl) statement

end

theorem leads_sections {doc : Document} {before sections : List Section} (holds : doc.Holds before)
    (distinct : ((before ++ sections).map Section.name).Nodup) (apart : Bool) :
    ∃ next, next.Holds (before ++ sections) ∧ Leads doc (sectionsChars apart sections) next [] := by
  induction sections generalizing doc before apart with
  | nil =>
    rw [List.append_nil]
    exact ⟨doc, holds, .refl doc []⟩
  | cons s sections ih =>
    have fresh : s.name ∉ before.map Section.name := by
      rw [List.map_append, List.map_cons] at distinct
      intro used
      exact (List.nodup_append.mp distinct).2.2 s.name used s.name List.mem_cons_self rfl
    have split : before ++ s :: sections = before ++ [s] ++ sections := by simp
    rw [split] at distinct ⊢
    obtain ⟨next, held, leads⟩ := leads_section holds fresh (sectionsChars true sections)
    obtain ⟨last, done, later⟩ := ih held distinct true
    refine ⟨last, done, .trans ?_ (leads.trans later)⟩
    cases apart with
    | false => exact .refl doc _
    | true => exact leads_empty doc _

theorem holds_start : Document.start.Holds [] :=
  ⟨rfl, rfl, by simp [Document.start, Marks.start], by simp [Document.start, Marks.start]⟩

theorem readLines_end (doc : Document) (fuel : Nat) : readLines (fuel + 1) doc [] = .ok doc.root :=
  rfl

/-- Sections of distinct names are read back as they were written. -/
theorem read_write {sections : List Section} (distinct : (sections.map Section.name).Nodup) :
    read (write (sections.map Section.entry)) = .ok (sections.map Section.entry) := by
  obtain ⟨last, done, leads⟩ := leads_sections holds_start distinct false
  rw [List.nil_append] at done
  obtain ⟨less, some, same⟩ := leads _ (Nat.lt_succ_self _)
  obtain ⟨less, rfl⟩ := Nat.exists_eq_succ_of_ne_zero (Nat.ne_zero_of_lt some)
  rw [read, write_sections, same, readLines_end, done.root]

/- Line ends. -/

theorem unifyLineEnds_eq_self {cs : List Char} (unbroken : '\r' ∉ cs) : unifyLineEnds cs = cs := by
  fun_induction unifyLineEnds cs with
  | case1 => simp at unbroken
  | case2 c cs _ ih =>
    rw [ih fun inside => unbroken (List.mem_cons_of_mem c inside)]
  | case3 => rfl

theorem dottedChars_unbroken (path : Path) : '\r' ∉ dottedChars path := by
  simp [dottedChars, keyChars_unbroken]

theorem entryLines_unbroken {entries : Table} (flat : ∀ entry ∈ entries, entry.2.IsFlat) :
    '\r' ∉ entryLines entries := by
  induction entries with
  | nil => simp [entryLines]
  | cons entry entries ih =>
    obtain ⟨key, value⟩ := entry
    obtain ⟨first, others⟩ := List.forall_mem_cons.mp flat
    simp [entryLines_cons first, keyChars_unbroken, flat_unbroken first, ih others]

theorem Section.chars_unbroken (s : Section) : '\r' ∉ s.chars := by
  simp [chars, headerChars, keyChars_unbroken, dottedChars_unbroken, entryLines_unbroken s.flat]

theorem write_unbroken (sections : List Section) : '\r' ∉ write (sections.map Section.entry) := by
  rw [write_sections]
  generalize false = apart
  induction sections generalizing apart with
  | nil => simp [sectionsChars]
  | cons s sections ih => cases apart <;> simp [sectionsChars, s.chars_unbroken, ih]

end BondQuery.Toml
