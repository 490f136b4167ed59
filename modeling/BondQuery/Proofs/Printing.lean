import Mathlib.Data.List.Induction
import BondQuery.Proofs.Spacing

/- Writing an expression, and reading what was written. A value may hold anything but a line break:
   it is written between quotes so that no character of it ends it early. Operands with a
   connective of their own stand in parentheses. -/
namespace BondQuery.Syntax

variable {ts : List Token}

/- Values. -/

/-- A value as it is written between quotes: each backslash is doubled, then each quote gets one
    in front of it. -/
def escape (value : List Char) : List Char :=
  (value.flatMap fun c => if c = '\\' then ['\\', '\\'] else [c]).flatMap fun c =>
    if c = '"' then ['\\', '"'] else [c]

theorem escape_backslash (value : List Char) : escape ('\\' :: value) = '\\' :: '\\' :: escape value := by
  simp [escape]

theorem escape_quote (value : List Char) : escape ('"' :: value) = '\\' :: '"' :: escape value := by
  simp [escape]

theorem escape_plain {c : Char} (noBackslash : c ≠ '\\') (noQuote : c ≠ '"') (value : List Char) :
    escape (c :: value) = c :: escape value := by
  simp [escape, noBackslash, noQuote]

theorem unescape_escape (value : List Char) : unescape (escape value) = value := by
  induction value with
  | nil => rfl
  | cons c value ih =>
    by_cases backslash : c = '\\'
    · rw [backslash, escape_backslash, unescape, ih]
    by_cases quote : c = '"'
    · rw [quote, escape_quote, unescape, ih]
    · rw [escape_plain backslash quote, unescape, ih]
      all_goals simp [backslash]

theorem quotable_escape {value : List Char} (noBreak : '\n' ∉ value) : Quotable (escape value) := by
  induction value with
  | nil => exact .nil
  | cons c value ih =>
    obtain ⟨other, noBreak⟩ := not_or.mp (List.mem_cons.not.mp noBreak)
    by_cases backslash : c = '\\'
    · rw [backslash, escape_backslash]
      exact .escaped (by decide) (ih noBreak)
    by_cases quote : c = '"'
    · rw [quote, escape_quote]
      exact .escaped (by decide) (ih noBreak)
    · rw [escape_plain backslash quote]
      exact .plain quote backslash (Ne.symm other) (ih noBreak)

/- Expressions. -/

/-- A property that is found under its name, and the name can be written. -/
structure Writable (p : Property) : Prop where
  resolved : p = propertyOf p.name
  free : FreeName p.name.toList

/-- The expressions that have a written form. -/
inductive Printable : Expression → Prop
  | comparison {p : Property} (writable : Writable p) {operator : Operator}
      (compares : operator ∈ comparisons.map (·.2)) {value : String}
      (oneLine : '\n' ∉ value.toList) : Printable (.bond p operator value)
  | existence {p : Property} (writable : Writable p) {operator : Operator}
      (states : operator ∈ existences.map (·.2)) : Printable (.bond p operator "")
  | spatial {operator : Operator} (relates : operator ∈ relations.map (·.2))
      (west south east north : Numeral) :
      Printable (.spatial boundingBoxProperty operator
        ⟨.double west.value, .double south.value, .double east.value, .double north.value⟩)
  | negation {e : Expression} (operand : Printable e) : Printable (.logical .not [e])
  | chain {connective : Connective} (joins : connective ≠ .not) {es : List Expression}
      (several : 2 ≤ es.length) (each : ∀ e ∈ es, Printable e) : Printable (.logical connective es)

/-- A constraint as it is written. The same value may stand between quotes or, where nothing in it
    ends a value, without them; the same degree may be written in several ways. -/
inductive PrintsBond : Expression → List Token → Prop
  | quoted (p : Property) {c : Comparison} {operator : Operator}
      (asks : (c.symbol, operator) ∈ comparisons) (value : String) :
      PrintsBond (.bond p operator value)
        [.field p.name.toList, .comparison c, .quotedValue (escape value.toList)]
  | bare (p : Property) {c : Comparison} {operator : Operator}
      (asks : (c.symbol, operator) ∈ comparisons) {value : String} (nonempty : value.toList ≠ [])
      (all : ∀ d ∈ value.toList, isBareChar d = true) :
      PrintsBond (.bond p operator value)
        [.field p.name.toList, .comparison c, .bareValue value.toList]
  | existence (p : Property) {x : Existence} {operator : Operator}
      (asks : (x.word, operator) ∈ existences) :
      PrintsBond (.bond p operator "") [.field p.name.toList, .existence x]
  | spatial (p : Property) {word : SpatialWord} {operator : Operator}
      (asks : (word.word, operator) ∈ relations) (west south east north : Numeral) :
      PrintsBond (.spatial p operator
          ⟨.double west.value, .double south.value, .double east.value, .double north.value⟩)
        [.spatial word, .leftParen, .number west.lexeme, .comma, .number south.lexeme, .comma,
          .number east.lexeme, .comma, .number north.lexeme, .rightParen]

mutual

inductive Prints : Expression → List Token → Prop
  | bond {e : Expression} {ts : List Token} (prints : PrintsBond e ts) : Prints e ts
  | negation {e : Expression} {ts : List Token} (prints : Prints e ts) :
      Prints (.logical .not [e]) (.not :: .leftParen :: (ts ++ [.rightParen]))
  | and {es : List Expression} {ts : List Token} (prints : PrintsAll .and es ts) :
      Prints (.logical .and es) ts
  | or {es : List Expression} {ts : List Token} (prints : PrintsAll .or es ts) :
      Prints (.logical .or es) ts

inductive PrintsOperand : Expression → List Token → Prop
  | bond {e : Expression} {ts : List Token} (prints : PrintsBond e ts) : PrintsOperand e ts
  | logical {connective : Connective} {es : List Expression} {ts : List Token}
      (prints : Prints (.logical connective es) ts) :
      PrintsOperand (.logical connective es) (.leftParen :: (ts ++ [.rightParen]))

inductive PrintsAll : Token → List Expression → List Token → Prop
  | one {joint : Token} {e : Expression} {ts : List Token} (prints : PrintsOperand e ts) :
      PrintsAll joint [e] ts
  | more {joint : Token} {es : List Expression} {e : Expression} {before after : List Token}
      (earlier : PrintsAll joint es before) (prints : PrintsOperand e after) :
      PrintsAll joint (es ++ [e]) (before ++ joint :: after)

end

theorem Printable.of_bond {p : Property} {operator : Operator} {value : String}
    (printable : Printable (.bond p operator value)) : Writable p ∧ '\n' ∉ value.toList := by
  cases printable with
  | comparison writable _ oneLine => exact ⟨writable, oneLine⟩
  | existence writable _ => exact ⟨writable, by simp⟩

theorem Printable.of_spatial {p : Property} {operator : Operator} {extent : Extent}
    (printable : Printable (.spatial p operator extent)) : p = boundingBoxProperty := by
  cases printable
  rfl

theorem Printable.operands {connective : Connective} {es : List Expression}
    (printable : Printable (.logical connective es)) : ∀ e ∈ es, Printable e := by
  cases printable with
  | negation operand => simpa using operand
  | chain _ _ each => exact each

theorem Printable.several {connective : Connective} {es : List Expression}
    (printable : Printable (.logical connective es)) (joins : connective ≠ .not) : 2 ≤ es.length := by
  cases printable with
  | negation operand => exact absurd rfl joins
  | chain _ several _ => exact several

theorem chain_of_several (connective : Connective) {es : List Expression} (several : 2 ≤ es.length) :
    chain connective es = .logical connective es := by
  match es with
  | [] | [_] => simp at several
  | _ :: _ :: _ => rfl

theorem Operand.derives {e : Expression} (operand : Operand ts e) : Derives ts e :=
  ⟨[e], .one (.one operand), rfl⟩

theorem Derives.parentheses {e : Expression} (derived : Derives ts e) :
    Operand (.leftParen :: (ts ++ [.rightParen])) e := by
  obtain ⟨es, alternatives, rfl⟩ := derived
  exact .atom (.parentheses alternatives)

/- What is written is derived, from tokens that are sound. -/

theorem atom_of_prints {e : Expression} (prints : PrintsBond e ts) (printable : Printable e) :
    Atom ts e := by
  cases prints with
  | quoted p asks value =>
    have atom := Atom.comparison p.name.toList asks (.quoted (escape value.toList))
    rw [String.ofList_toList, unescape_escape, String.ofList_toList,
      ← printable.of_bond.1.resolved] at atom
    exact atom
  | @bare p _ _ asks value _ _ =>
    have atom := Atom.comparison p.name.toList asks (.bare value.toList)
    rw [String.ofList_toList, String.ofList_toList, ← printable.of_bond.1.resolved] at atom
    exact atom
  | existence p asks =>
    have atom := Atom.existence p.name.toList asks
    rw [String.ofList_toList, ← printable.of_bond.1.resolved] at atom
    exact atom
  | spatial p asks west south east north =>
    rw [printable.of_spatial]
    exact .spatial asks west south east north

mutual

theorem derives_of_prints {e : Expression} {ts : List Token} (printable : Printable e) :
    Prints e ts → Derives ts e
  | .bond prints => (Operand.atom (atom_of_prints prints printable)).derives
  | .negation prints =>
    have inner := derives_of_prints (printable.operands _ List.mem_cons_self) prints
    (Operand.negation inner.parentheses).derives
  | .and prints => by
    refine ⟨_, .one ((joined_of_prints printable.operands prints).1 rfl), ?_⟩
    rw [chain_of_several _ (printable.several (by decide))]
    rfl
  | .or prints => by
    refine ⟨_, (joined_of_prints printable.operands prints).2 rfl, ?_⟩
    rw [chain_of_several _ (printable.several (by decide))]

theorem operand_of_prints {e : Expression} {ts : List Token} (printable : Printable e) :
    PrintsOperand e ts → Operand ts e
  | .bond prints => .atom (atom_of_prints prints printable)
  | .logical prints => (derives_of_prints printable prints).parentheses

theorem joined_of_prints {joint : Token} {es : List Expression} {ts : List Token}
    (each : ∀ e ∈ es, Printable e) :
    PrintsAll joint es ts →
      (joint = .and → Conjuncts ts es) ∧ (joint = .or → Alternatives ts es)
  | .one prints =>
    have operand := operand_of_prints (each _ List.mem_cons_self) prints
    ⟨fun _ => .one operand, fun _ => .one (.one operand)⟩
  | .more earlier prints => by
    have before := joined_of_prints (fun e member => each e (List.mem_append_left _ member)) earlier
    have operand := operand_of_prints (each _ (by simp)) prints
    constructor
    · rintro rfl
      exact .more (before.1 rfl) operand
    · rintro rfl
      exact .more (before.2 rfl) (.one operand)

end

theorem sound_of_bond {e : Expression} (prints : PrintsBond e ts) (printable : Printable e) :
    ∀ t ∈ ts, t.Sound := by
  cases prints with
  | quoted p asks value =>
    obtain ⟨writable, oneLine⟩ := printable.of_bond
    simp [Token.Sound, writable.free, quotable_escape oneLine]
  | bare p asks nonempty all =>
    simpa [Token.Sound, printable.of_bond.1.free] using ⟨by simpa using nonempty, all⟩
  | existence p asks => simp [Token.Sound, printable.of_bond.1.free]
  | spatial p asks west south east north =>
    have sound (n : Numeral) : Token.Sound (.number n.lexeme) := ⟨n, rfl⟩
    simp [sound]
    simp [Token.Sound]

theorem forall_parenthesized {p : Token → Prop} (left : p .leftParen) (right : p .rightParen)
    (inside : ∀ t ∈ ts, p t) : ∀ t ∈ .leftParen :: (ts ++ [.rightParen]), p t := by
  simpa [left, right, or_imp, forall_and] using inside

mutual

theorem sound_of_prints {e : Expression} {ts : List Token} (printable : Printable e) :
    Prints e ts → ∀ t ∈ ts, t.Sound
  | .bond prints => sound_of_bond prints printable
  | .negation prints => by
    have inner := sound_of_prints (printable.operands _ List.mem_cons_self) prints
    exact List.forall_mem_cons.mpr ⟨trivial, forall_parenthesized trivial trivial inner⟩
  | .and prints => sound_of_all printable.operands (by trivial) prints
  | .or prints => sound_of_all printable.operands (by trivial) prints

theorem sound_of_operand {e : Expression} {ts : List Token} (printable : Printable e) :
    PrintsOperand e ts → ∀ t ∈ ts, t.Sound
  | .bond prints => sound_of_bond prints printable
  | .logical prints => forall_parenthesized trivial trivial (sound_of_prints printable prints)

theorem sound_of_all {joint : Token} {es : List Expression} {ts : List Token}
    (each : ∀ e ∈ es, Printable e) (sound : joint.Sound) : PrintsAll joint es ts → ∀ t ∈ ts, t.Sound
  | .one prints => sound_of_operand (each _ List.mem_cons_self) prints
  | .more earlier prints => by
    have before := sound_of_all (fun e member => each e (List.mem_append_left _ member)) sound earlier
    have after := sound_of_operand (each _ (by simp)) prints
    exact List.forall_mem_append.mpr ⟨before, List.forall_mem_cons.mpr ⟨sound, after⟩⟩

end

def spell (gap : Token → Char) : List Token → List Char
  | [] => []
  | [t] => t.lexeme
  | t :: u :: ts => t.lexeme ++ ([gap u] ++ spell gap (u :: ts))

theorem spaced_spell {gap : Token → Char} (blank : ∀ t, Text.isGap (gap t) = true) (nonempty : ts ≠ []) :
    Spaced ts (spell gap ts) := by
  induction ts with
  | nil => exact absurd rfl nonempty
  | cons t ts ih =>
    cases ts with
    | nil => exact .last t
    | cons u us => exact .more t (by simp) (by simpa using blank u) (ih (by simp))

theorem Derives.ne_nil {e : Expression} (derived : Derives ts e) : ts ≠ [] := by
  rintro rfl
  cases State.result_of_derives derived

theorem exists_printsAll (joint : Token) {es : List Expression} (nonempty : es ≠ [])
    (each : ∀ e ∈ es, ∃ ts, PrintsOperand e ts) : ∃ ts, PrintsAll joint es ts := by
  induction es using List.reverseRecOn with
  | nil => exact absurd rfl nonempty
  | append_singleton es e ih =>
    obtain ⟨after, last⟩ := each e (by simp)
    by_cases single : es = []
    · rw [single]
      exact ⟨after, .one last⟩
    · obtain ⟨before, earlier⟩ := ih single fun e member => each e (List.mem_append_left _ member)
      exact ⟨before ++ joint :: after, .more earlier last⟩

theorem exists_printsOperand {e : Expression} (prints : Prints e ts) : ∃ us, PrintsOperand e us := by
  cases e with
  | bond | spatial =>
    obtain ⟨bond⟩ := prints
    exact ⟨ts, .bond bond⟩
  | logical => exact ⟨_, .logical prints⟩

theorem exists_comparison {operator : Operator} (compares : operator ∈ comparisons.map (·.2)) :
    ∃ c : Comparison, (c.symbol, operator) ∈ comparisons := by
  have each : ∀ operator ∈ comparisons.map (·.2), ∃ c ∈ Comparison.all,
      (c.symbol, operator) ∈ comparisons := by decide
  obtain ⟨c, _, asks⟩ := each operator compares
  exact ⟨c, asks⟩

theorem exists_existence {operator : Operator} (states : operator ∈ existences.map (·.2)) :
    ∃ x : Existence, (x.word, operator) ∈ existences := by
  have each : ∀ operator ∈ existences.map (·.2), ∃ x ∈ Existence.all,
      (x.word, operator) ∈ existences := by decide
  obtain ⟨x, _, asks⟩ := each operator states
  exact ⟨x, asks⟩

theorem exists_relation {operator : Operator} (relates : operator ∈ relations.map (·.2)) :
    ∃ word : SpatialWord, (word.word, operator) ∈ relations := by
  have each : ∀ operator ∈ relations.map (·.2), ∃ word ∈ SpatialWord.all,
      (word.word, operator) ∈ relations := by decide
  obtain ⟨word, _, asks⟩ := each operator relates
  exact ⟨word, asks⟩

theorem exists_prints {e : Expression} (printable : Printable e) : ∃ ts, Prints e ts := by
  induction printable with
  | comparison _ compares _ =>
    obtain ⟨c, asks⟩ := exists_comparison compares
    exact ⟨_, .bond (.quoted _ asks _)⟩
  | existence _ states =>
    obtain ⟨x, asks⟩ := exists_existence states
    exact ⟨_, .bond (.existence _ asks)⟩
  | spatial relates west south east north =>
    obtain ⟨word, asks⟩ := exists_relation relates
    exact ⟨_, .bond (.spatial _ asks west south east north)⟩
  | negation _ ih =>
    obtain ⟨ts, prints⟩ := ih
    exact ⟨_, .negation prints⟩
  | @chain connective joins es several _ ih =>
    have operands (e : Expression) (member : e ∈ es) : ∃ ts, PrintsOperand e ts := by
      obtain ⟨ts, prints⟩ := ih e member
      exact exists_printsOperand prints
    have nonempty : es ≠ [] := by
      rintro rfl
      simp at several
    cases connective with
    | and =>
      obtain ⟨ts, prints⟩ := exists_printsAll .and nonempty operands
      exact ⟨ts, .and prints⟩
    | or =>
      obtain ⟨ts, prints⟩ := exists_printsAll .or nonempty operands
      exact ⟨ts, .or prints⟩
    | not => exact absurd rfl joins

/-- Every expression of the class is written in some way, and each way of writing it is read as the
    same expression, whatever white space stands between the tokens. -/
theorem parse_undoes_printing {e : Expression} (printable : Printable e) :
    (∃ (ts : List Token) (text : String), Prints e ts ∧ Spaced ts text.toList) ∧
    ∀ (ts : List Token) (text : String), Prints e ts → Spaced ts text.toList → parse text = .ok e := by
  constructor
  · obtain ⟨ts, prints⟩ := exists_prints printable
    refine ⟨ts, String.ofList (spell (fun _ => ' ') ts), prints, ?_⟩
    rw [String.toList_ofList]
    exact spaced_spell (fun _ => rfl) (derives_of_prints printable prints).ne_nil
  · intro ts text prints spaced
    exact parse_of_spaced (derives_of_prints printable prints) (sound_of_prints printable prints) spaced

/- A value that looks like the syntax around it, a negation inside a chain, and every operator. -/

def harbourWords : Expression :=
  .logical .or [
    .bond ⟨"keyword", .text⟩ .like "sea*",
    .logical .not [.bond ⟨"isDeleted", .boolean⟩ .exists ""],
    .bond ⟨"isGDC", .boolean⟩ .notExists ""]

def harbourBounds : Expression :=
  .logical .or [
    .bond ⟨"subject", .text⟩ .notEqual "sea",
    .bond ⟨"metadataQuality", .integer⟩ .greaterOrEqual "3",
    .bond ⟨"cloudCoverPercentage", .double⟩ .lessOrEqual "7.5",
    .bond ⟨"tmpExtentBegin", .dateTime⟩ .greater "2001",
    .bond ⟨"creationDate", .date⟩ .less "2002"]

def harbourCalls : Expression :=
  .logical .or [
    .spatial ⟨"bbox", .text⟩ .bbox surveyExtent,
    .spatial ⟨"bbox", .text⟩ .intersects surveyExtent,
    .spatial ⟨"bbox", .text⟩ .contained surveyExtent,
    .spatial ⟨"bbox", .text⟩ .contains surveyExtent,
    .spatial ⟨"bbox", .text⟩ .disjoint surveyExtent]

def harbours : Expression :=
  .logical .and [.bond ⟨"title", .text⟩ .equal "a \"b\" AND (\\)", harbourWords, harbourBounds,
    harbourCalls]

def wordTokens : List Token := [
  .field "keyword".toList, .comparison .like, .bareValue "sea*".toList, .or,
  .leftParen, .not, .leftParen, .field "isDeleted".toList, .existence .present, .rightParen,
  .rightParen, .or, .field "isGDC".toList, .existence .missing]

def boundTokens : List Token := [
  .field "subject".toList, .comparison .notEqual, .bareValue "sea".toList, .or,
  .field "metadataQuality".toList, .comparison .greaterOrEqual, .bareValue "3".toList, .or,
  .field "cloudCoverPercentage".toList, .comparison .lessOrEqual, .bareValue "7.5".toList, .or,
  .field "tmpExtentBegin".toList, .comparison .greater, .bareValue "2001".toList, .or,
  .field "creationDate".toList, .comparison .less, .bareValue "2002".toList]

def callOf (word : SpatialWord) : List Token := [
  .spatial word, .leftParen, .number surveyWest.lexeme, .comma, .number surveySouth.lexeme, .comma,
  .number surveyEast.lexeme, .comma, .number surveyNorth.lexeme, .rightParen]

def callTokens : List Token :=
  callOf .bbox ++ .or :: callOf .intersects ++ .or :: callOf .contained ++
    .or :: callOf .contains ++ .or :: callOf .disjoint

def harbourTokens : List Token :=
  [.field "title".toList, .comparison .equal, .quotedValue (escape "a \"b\" AND (\\)".toList)] ++
    .and :: .leftParen :: (wordTokens ++ [.rightParen]) ++
    .and :: .leftParen :: (boundTokens ++ [.rightParen]) ++
    .and :: .leftParen :: (callTokens ++ [.rightParen])

def harbourText : String :=
  "title = \"a \\\"b\\\" AND (\\\\)\"
AND ( keyword ~ sea*
OR ( NOT ( isDeleted EXISTS ) )
OR isGDC MISSING )
AND ( subject != sea
OR metadataQuality >= 3
OR cloudCoverPercentage <= 7.5
OR tmpExtentBegin > 2001
OR creationDate < 2002 )
AND ( BBOX ( -10 , 30 , +20 , 50 )
OR INTERSECTS ( -10 , 30 , +20 , 50 )
OR CONTAINED ( -10 , 30 , +20 , 50 )
OR CONTAINS ( -10 , 30 , +20 , 50 )
OR DISJOINT ( -10 , 30 , +20 , 50 ) )"

theorem freeName_of_lower {c : Char} {more : List Char} (lower : c.isLower = true)
    (all : ∀ d ∈ more, isFieldChar d = true) : FreeName (c :: more) := by
  refine ⟨⟨c, more, rfl, ?_, all⟩, ?_, not_beginsSpatial fun word head => ?_⟩
  · have letter : c.isAlpha = true := by
      rw [show c.isAlpha = (c.isUpper || c.isLower) from rfl, lower, Bool.or_true]
    simp [isFieldStart, letter]
  · rintro same
    cases same
    cases lower
  · cases word <;> cases head <;> cases lower

theorem writable_lower {name : String} {type : ContentType} {c : Char} {more : List Char}
    (resolved : ⟨name, type⟩ = propertyOf name) (split : name.toList = c :: more)
    (lower : c.isLower = true) (all : ∀ d ∈ more, isFieldChar d = true) : Writable ⟨name, type⟩ :=
  ⟨resolved, split ▸ freeName_of_lower lower all⟩

theorem words_printable : Printable harbourWords := by
  have keyword : Writable ⟨"keyword", .text⟩ := writable_lower rfl rfl rfl (by decide)
  have deleted : Writable ⟨"isDeleted", .boolean⟩ := writable_lower rfl rfl rfl (by decide)
  have core : Writable ⟨"isGDC", .boolean⟩ := writable_lower rfl rfl rfl (by decide)
  refine .chain (by decide) (by decide) ?_
  simp only [List.forall_mem_cons]
  exact ⟨.comparison keyword (by decide) (by decide), .negation (.existence deleted (by decide)),
    .existence core (by decide), by simp⟩

theorem bounds_printable : Printable harbourBounds := by
  have subject : Writable ⟨"subject", .text⟩ := writable_lower rfl rfl rfl (by decide)
  have quality : Writable ⟨"metadataQuality", .integer⟩ := writable_lower rfl rfl rfl (by decide)
  have cover : Writable ⟨"cloudCoverPercentage", .double⟩ := writable_lower rfl rfl rfl (by decide)
  have begins : Writable ⟨"tmpExtentBegin", .dateTime⟩ := writable_lower rfl rfl rfl (by decide)
  have created : Writable ⟨"creationDate", .date⟩ := writable_lower rfl rfl rfl (by decide)
  refine .chain (by decide) (by decide) ?_
  simp only [List.forall_mem_cons]
  exact ⟨.comparison subject (by decide) (by decide), .comparison quality (by decide) (by decide),
    .comparison cover (by decide) (by decide), .comparison begins (by decide) (by decide),
    .comparison created (by decide) (by decide), by simp⟩

theorem calls_printable : Printable harbourCalls := by
  have call {operator : Operator} (relates : operator ∈ relations.map (·.2)) :
      Printable (.spatial ⟨"bbox", .text⟩ operator surveyExtent) :=
    .spatial relates surveyWest surveySouth surveyEast surveyNorth
  refine .chain (by decide) (by decide) ?_
  simp only [List.forall_mem_cons]
  exact ⟨call (by decide), call (by decide), call (by decide), call (by decide), call (by decide),
    by simp⟩

theorem harbours_printable : Printable harbours := by
  have title : Writable ⟨"title", .text⟩ := writable_lower rfl rfl rfl (by decide)
  refine .chain (by decide) (by decide) ?_
  simp only [List.forall_mem_cons]
  exact ⟨.comparison title (by decide) (by decide), words_printable, bounds_printable,
    calls_printable, by simp⟩

theorem words_printed : Prints harbourWords wordTokens := by
  have keyword : PrintsBond (.bond ⟨"keyword", .text⟩ .like "sea*") _ :=
    .bare _ (Comparison.asks .like) (by decide) (by decide)
  have deleted : PrintsBond (.bond ⟨"isDeleted", .boolean⟩ .exists "") _ :=
    .existence _ (Existence.asks .present)
  have core : PrintsBond (.bond ⟨"isGDC", .boolean⟩ .notExists "") _ :=
    .existence _ (Existence.asks .missing)
  exact .or (.more (.more (.one (.bond keyword)) (.logical (.negation (.bond deleted)))) (.bond core))

theorem bounds_printed : Prints harbourBounds boundTokens := by
  have subject : PrintsBond (.bond ⟨"subject", .text⟩ .notEqual "sea") _ :=
    .bare _ (Comparison.asks .notEqual) (by decide) (by decide)
  have quality : PrintsBond (.bond ⟨"metadataQuality", .integer⟩ .greaterOrEqual "3") _ :=
    .bare _ (Comparison.asks .greaterOrEqual) (by decide) (by decide)
  have cover : PrintsBond (.bond ⟨"cloudCoverPercentage", .double⟩ .lessOrEqual "7.5") _ :=
    .bare _ (Comparison.asks .lessOrEqual) (by decide) (by decide)
  have begins : PrintsBond (.bond ⟨"tmpExtentBegin", .dateTime⟩ .greater "2001") _ :=
    .bare _ (Comparison.asks .greater) (by decide) (by decide)
  have created : PrintsBond (.bond ⟨"creationDate", .date⟩ .less "2002") _ :=
    .bare _ (Comparison.asks .less) (by decide) (by decide)
  exact .or (.more (.more (.more (.more (.one (.bond subject)) (.bond quality)) (.bond cover))
    (.bond begins)) (.bond created))

theorem calls_printed : Prints harbourCalls callTokens := by
  have call (word : SpatialWord) : PrintsOperand (.spatial ⟨"bbox", .text⟩ word.operator surveyExtent)
      (callOf word) :=
    .bond (.spatial _ word.asks surveyWest surveySouth surveyEast surveyNorth)
  exact .or (.more (.more (.more (.more (.one (call .bbox)) (call .intersects)) (call .contained))
    (call .contains)) (call .disjoint))

theorem harbours_printed : Prints harbours harbourTokens := by
  have title : PrintsBond (.bond ⟨"title", .text⟩ .equal "a \"b\" AND (\\)") _ :=
    .quoted _ (Comparison.asks .equal) _
  exact .and (.more (.more (.more (.one (.bond title)) (.logical words_printed))
    (.logical bounds_printed)) (.logical calls_printed))

def gapBefore : Token → Char
  | .and | .or => '\n'
  | _ => ' '

theorem isGap_gapBefore (t : Token) : Text.isGap (gapBefore t) = true := by
  unfold gapBefore
  split <;> rfl

set_option maxRecDepth 4000 in
theorem harbours_spaced : Spaced harbourTokens harbourText.toList := by
  have written : harbourText = String.ofList (spell gapBefore harbourTokens) := by
    with_unfolding_all rfl
  rw [written, String.toList_ofList]
  exact spaced_spell isGap_gapBefore (by decide)

theorem harbours_read :
    Printable harbours ∧ Prints harbours harbourTokens ∧
      Spaced harbourTokens harbourText.toList ∧ parse harbourText = .ok harbours :=
  ⟨harbours_printable, harbours_printed, harbours_spaced,
    (parse_undoes_printing harbours_printable).2 _ _ harbours_printed harbours_spaced⟩

end BondQuery.Syntax
