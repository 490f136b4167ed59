import Mathlib.Data.List.Nodup
import BondQuery.Bond.Parser
import BondQuery.Proofs.Numerals

/- The grammar of bond expressions, and its reader. The grammar is stated over tokens, with the
   tree each derivation denotes; its tables say which operator each word and symbol stands for and
   which type each name has. The reader holds no derivation, only the operands of each open level,
   so an invariant says which tokens a state has read: whole operands behind their connectives, the
   negations before the next one, and a beginning of that one. -/
namespace BondQuery.Syntax

def comparisons : List (List Char × Operator) := [
  (['='], .equal), (['!', '='], .notEqual), (['>'], .greater), (['>', '='], .greaterOrEqual),
  (['<'], .less), (['<', '='], .lessOrEqual), (['~'], .like)]

def existences : List (List Char × Operator) := [
  (['E', 'X', 'I', 'S', 'T', 'S'], .exists), (['M', 'I', 'S', 'S', 'I', 'N', 'G'], .notExists)]

def relations : List (List Char × Operator) := [
  (['B', 'B', 'O', 'X'], .bbox), (['I', 'N', 'T', 'E', 'R', 'S', 'E', 'C', 'T', 'S'], .intersects),
  (['C', 'O', 'N', 'T', 'A', 'I', 'N', 'E', 'D'], .contained),
  (['C', 'O', 'N', 'T', 'A', 'I', 'N', 'S'], .contains),
  (['D', 'I', 'S', 'J', 'O', 'I', 'N', 'T'], .disjoint)]

def declaredTypes : List (String × ContentType) := [
  ("resourceTimeStamp", .dateTime), ("isDeleted", .boolean), ("isGDC", .boolean),
  ("metadataQuality", .integer), ("essentialVarsQuality", .integer), ("accessQuality", .integer),
  ("tmpExtentBegin", .dateTime), ("tmpExtentEnd", .dateTime), ("creationDate", .date),
  ("cloudCoverPercentage", .double)]

def propertyOf (name : String) : Property :=
  ⟨name, (declaredTypes.lookup name).getD .text⟩

def boundingBoxProperty : Property :=
  ⟨"bbox", .text⟩

/-- Operands that one connective joins; a single operand stays as it is. -/
def chain (connective : Connective) : List Expression → Expression
  | [e] => e
  | es => .logical connective es

inductive Value : Token → List Char → Prop
  | quoted (inner : List Char) : Value (.quotedValue inner) (unescape inner)
  | bare (text : List Char) : Value (.bareValue text) text

mutual

inductive Atom : List Token → Expression → Prop
  | parentheses {ts : List Token} {es : List Expression} (inner : Alternatives ts es) :
      Atom (.leftParen :: (ts ++ [.rightParen])) (chain .or es)
  | comparison (name : List Char) {c : Comparison} {operator : Operator}
      (asks : (c.symbol, operator) ∈ comparisons) {t : Token} {value : List Char}
      (written : Value t value) :
      Atom [.field name, .comparison c, t]
        (.bond (propertyOf (String.ofList name)) operator (String.ofList value))
  | existence (name : List Char) {x : Existence} {operator : Operator}
      (asks : (x.word, operator) ∈ existences) :
      Atom [.field name, .existence x] (.bond (propertyOf (String.ofList name)) operator "")
  | spatial {word : SpatialWord} {operator : Operator} (asks : (word.word, operator) ∈ relations)
      (west south east north : Numeral) :
      Atom [.spatial word, .leftParen, .number west.lexeme, .comma, .number south.lexeme, .comma,
          .number east.lexeme, .comma, .number north.lexeme, .rightParen]
        (.spatial boundingBoxProperty operator
          ⟨.double west.value, .double south.value, .double east.value, .double north.value⟩)

inductive Operand : List Token → Expression → Prop
  | atom {ts : List Token} {e : Expression} (atom : Atom ts e) : Operand ts e
  | negation {ts : List Token} {e : Expression} (operand : Operand ts e) :
      Operand (.not :: ts) (.logical .not [e])

inductive Conjuncts : List Token → List Expression → Prop
  | one {ts : List Token} {e : Expression} (operand : Operand ts e) : Conjuncts ts [e]
  | more {before after : List Token} {es : List Expression} {e : Expression}
      (conjuncts : Conjuncts before es) (operand : Operand after e) :
      Conjuncts (before ++ .and :: after) (es ++ [e])

inductive Alternatives : List Token → List Expression → Prop
  | one {ts : List Token} {es : List Expression} (conjuncts : Conjuncts ts es) :
      Alternatives ts [chain .and es]
  | more {before after : List Token} {alternatives es : List Expression}
      (earlier : Alternatives before alternatives) (conjuncts : Conjuncts after es) :
      Alternatives (before ++ .or :: after) (alternatives ++ [chain .and es])

end

/-- The tokens of a whole expression, and its tree. -/
def Derives (ts : List Token) (e : Expression) : Prop :=
  ∃ es, Alternatives ts es ∧ e = chain .or es

/- The reader has the same tables. -/

theorem Comparison.asks (c : Comparison) : (c.symbol, c.operator) ∈ comparisons := by
  cases c <;> decide

theorem Existence.asks (x : Existence) : (x.word, x.operator) ∈ existences := by
  cases x <;> decide

theorem SpatialWord.asks (word : SpatialWord) : (word.word, word.operator) ∈ relations := by
  cases word <;> decide

theorem operator_unique {table : List (List Char × Operator)} {word : List Char}
    {operator other : Operator} (distinct : (table.map (·.1)).Nodup)
    (first : (word, operator) ∈ table) (second : (word, other) ∈ table) : operator = other :=
  congrArg Prod.snd (List.inj_on_of_nodup_map distinct first second rfl)

theorem Comparison.operator_eq {c : Comparison} {operator : Operator}
    (asks : (c.symbol, operator) ∈ comparisons) : operator = c.operator :=
  operator_unique (by decide) asks c.asks

theorem Existence.operator_eq {x : Existence} {operator : Operator}
    (asks : (x.word, operator) ∈ existences) : operator = x.operator :=
  operator_unique (by decide) asks x.asks

theorem SpatialWord.operator_eq {word : SpatialWord} {operator : Operator}
    (asks : (word.word, operator) ∈ relations) : operator = word.operator :=
  operator_unique (by decide) asks word.asks

theorem ofName_eq (name : String) : Property.ofName name = propertyOf name := by
  by_cases known : name ∈ Property.wellKnown.map Property.name
  · have same : ∀ name ∈ Property.wellKnown.map Property.name,
        Property.ofName name = propertyOf name := by decide
    exact same name known
  · have unknown : Property.wellKnown.find? (·.name == name) = none := by
      rw [List.find?_eq_none]
      intro p member same
      exact known (List.mem_map.mpr ⟨p, member, by simpa using same⟩)
    have declared : ∀ entry ∈ declaredTypes, entry.1 ∈ Property.wellKnown.map Property.name := by
      decide
    have untyped : declaredTypes.lookup name = none := by
      rw [List.lookup_eq_none_iff]
      intro entry member
      rw [bne_iff_ne]
      rintro rfl
      exact known (declared entry member)
    rw [Property.ofName, unknown, propertyOf, untyped]
    rfl

theorem gather_reverse (connective : Connective) (earlier : List Expression) (last : Expression) :
    gather connective earlier.reverse last = chain connective (earlier ++ [last]) := by
  rcases earlier.eq_nil_or_concat with rfl | ⟨others, e, rfl⟩
  · rfl
  · cases others <;> simp [gather, chain]

theorem negate_succ (n : Nat) (e : Expression) : negate (n + 1) e = negate n (.logical .not [e]) := by
  induction n with
  | zero => rfl
  | succ n ih => rw [negate, ih, negate]

theorem Operand.negated {ts : List Token} {e : Expression} (operand : Operand ts e) (n : Nat) :
    Operand (List.replicate n .not ++ ts) (negate n e) := by
  induction n with
  | zero => exact operand
  | succ n ih => exact .negation ih

theorem Conjuncts.append {before after : List Token} {es fs : List Expression}
    (front : Conjuncts before es) : Conjuncts after fs →
    Conjuncts (before ++ .and :: after) (es ++ fs)
  | .one operand => .more front operand
  | .more conjuncts operand => by
    have longer := Conjuncts.more (front.append conjuncts) operand
    simpa using longer

theorem Alternatives.append {before after : List Token} {es fs : List Expression}
    (front : Alternatives before es) : Alternatives after fs →
    Alternatives (before ++ .or :: after) (es ++ fs)
  | .one conjuncts => .more front conjuncts
  | .more alternatives conjuncts => by
    have longer := Alternatives.more (front.append alternatives) conjuncts
    simpa using longer

/-- Everything a state does with a token. -/
inductive Moves : State → Token → State → Prop
  | spatial {level : Level} {outer : List Level} (word : SpatialWord) :
      Moves ⟨.operand, level, outer⟩ (.spatial word) ⟨.extent word, level, outer⟩
  | field {level : Level} {outer : List Level} (name : List Char) :
      Moves ⟨.operand, level, outer⟩ (.field name) ⟨.relation name, level, outer⟩
  | not {level : Level} {outer : List Level} :
      Moves ⟨.operand, level, outer⟩ .not
        ⟨.operand, { level with negations := level.negations + 1 }, outer⟩
  | opening {level : Level} {outer : List Level} :
      Moves ⟨.operand, level, outer⟩ .leftParen ⟨.operand, .start, level :: outer⟩
  | comparison {level : Level} {outer : List Level} (name : List Char) (c : Comparison) :
      Moves ⟨.relation name, level, outer⟩ (.comparison c) ⟨.value name c, level, outer⟩
  | existence {level : Level} {outer : List Level} (name : List Char) (x : Existence) :
      Moves ⟨.relation name, level, outer⟩ (.existence x)
        (.complete ⟨.relation name, level, outer⟩ (State.bond name x.operator []))
  | value {level : Level} {outer : List Level} (name : List Char) (c : Comparison) {t : Token}
      {value : List Char} (written : Value t value) :
      Moves ⟨.value name c, level, outer⟩ t
        (.complete ⟨.value name c, level, outer⟩ (State.bond name c.operator value))
  | and {level : Level} {outer : List Level} (e : Expression) :
      Moves ⟨.connective e, level, outer⟩ .and
        ⟨.operand, ⟨level.alternatives, e :: level.conjuncts, 0⟩, outer⟩
  | or {level : Level} {outer : List Level} (e : Expression) :
      Moves ⟨.connective e, level, outer⟩ .or
        ⟨.operand, ⟨level.conjunction e :: level.alternatives, [], 0⟩, outer⟩
  | closing {level enclosing : Level} {outer : List Level} (e : Expression) :
      Moves ⟨.connective e, level, enclosing :: outer⟩ .rightParen
        (.complete ⟨.operand, enclosing, outer⟩ (level.close e))
  | extent {level : Level} {outer : List Level} (word : SpatialWord) :
      Moves ⟨.extent word, level, outer⟩ .leftParen ⟨.degree word [], level, outer⟩
  | number {level : Level} {outer : List Level} (word : SpatialWord) (read : List Double)
      {text : List Char} {x : Double} (value : readDouble? text = some x) :
      Moves ⟨.degree word read, level, outer⟩ (.number text) ⟨.separator word (read ++ [x]), level, outer⟩
  | comma {level : Level} {outer : List Level} (word : SpatialWord) {read : List Double}
      (fewer : read.length < 4) :
      Moves ⟨.separator word read, level, outer⟩ .comma ⟨.degree word read, level, outer⟩
  | ending {level : Level} {outer : List Level} (word : SpatialWord)
      (west south east north : Double) :
      Moves ⟨.separator word [west, south, east, north], level, outer⟩ .rightParen
        (.complete ⟨.separator word [west, south, east, north], level, outer⟩
          (.spatial .boundingBox word.operator
            ⟨.double west, .double south, .double east, .double north⟩))

namespace State

theorem moves_of_step {s next : State} {t : Token} (taken : s.step t = some next) :
    Moves s t next := by
  obtain ⟨due, level, outer⟩ := s
  cases due with
  | operand | relation | extent => cases t <;> cases taken <;> constructor
  | value name c =>
    cases t with
    | quotedValue inner => cases taken; exact .value name c (.quoted inner)
    | bareValue text => cases taken; exact .value name c (.bare text)
    | _ => cases taken
  | connective e =>
    cases t with
    | rightParen =>
      cases outer with
      | nil => cases taken
      | cons enclosing outer => cases taken; exact .closing e
    | _ => cases taken <;> constructor
  | degree word read =>
    cases t with
    | number text =>
      obtain ⟨x, value, rfl⟩ := Option.map_eq_some_iff.mp taken
      exact .number word read value
    | _ => cases taken
  | separator word read =>
    cases t with
    | comma =>
      obtain ⟨fewer, same⟩ := Option.ite_none_right_eq_some.mp taken
      cases same
      exact .comma word fewer
    | rightParen =>
      match read with
      | [west, south, east, north] => cases taken; exact .ending word west south east north
      | [] | [_] | [_, _] | [_, _, _] => cases taken
      | _ :: _ :: _ :: _ :: _ :: _ => cases taken
    | _ => simp [step] at taken

def run (s : State) (ts : List Token) : Option State :=
  ts.foldlM step s

variable {s next : State} {t : Token} {ts : List Token} {e : Expression}

@[simp] theorem run_nil (s : State) : s.run [] = some s := rfl

@[simp] theorem run_cons (s : State) (t : Token) (ts : List Token) :
    s.run (t :: ts) = (s.step t).bind (·.run ts) := rfl

@[simp] theorem run_append (s : State) (before after : List Token) :
    s.run (before ++ after) = (s.run before).bind (·.run after) :=
  List.foldlM_append

/- What the grammar derives is read. -/

theorem bond_eq (name : List Char) (operator : Operator) (value : List Char) :
    bond name operator value =
      .bond (propertyOf (String.ofList name)) operator (String.ofList value) := by
  rw [bond, ofName_eq]

theorem run_comparison (level : Level) (outer : List Level) (name : List Char) {c : Comparison}
    {operator : Operator} (asks : (c.symbol, operator) ∈ comparisons) {value : List Char}
    (written : Value t value) :
    run ⟨.operand, level, outer⟩ [.field name, .comparison c, t] =
      some (complete ⟨.operand, level, outer⟩
        (.bond (propertyOf (String.ofList name)) operator (String.ofList value))) := by
  rw [← bond_eq, Comparison.operator_eq asks]
  cases written <;> rfl

theorem run_existence (level : Level) (outer : List Level) (name : List Char) {x : Existence}
    {operator : Operator} (asks : (x.word, operator) ∈ existences) :
    run ⟨.operand, level, outer⟩ [.field name, .existence x] =
      some (complete ⟨.operand, level, outer⟩
        (.bond (propertyOf (String.ofList name)) operator "")) := by
  rw [Existence.operator_eq asks, ← ofName_eq]
  rfl

theorem run_spatial (level : Level) (outer : List Level) {word : SpatialWord} {operator : Operator}
    (asks : (word.word, operator) ∈ relations) (west south east north : Numeral) :
    run ⟨.operand, level, outer⟩
        [.spatial word, .leftParen, .number west.lexeme, .comma, .number south.lexeme, .comma,
          .number east.lexeme, .comma, .number north.lexeme, .rightParen] =
      some (complete ⟨.operand, level, outer⟩ (.spatial boundingBoxProperty operator
        ⟨.double west.value, .double south.value, .double east.value, .double north.value⟩)) := by
  rw [SpatialWord.operator_eq asks, show boundingBoxProperty = .boundingBox from rfl]
  simp [step, readDouble?_lexeme, complete]

theorem run_not (level : Level) (outer : List Level) :
    run ⟨.operand, level, outer⟩ [.not] =
      some ⟨.operand, { level with negations := level.negations + 1 }, outer⟩ := rfl

mutual

theorem run_of_atom {ts : List Token} {e : Expression} (level : Level) (outer : List Level) :
    Atom ts e → run ⟨.operand, level, outer⟩ ts = some (complete ⟨.operand, level, outer⟩ e)
  | .parentheses inner => by
    obtain ⟨earlier, conjuncts, last, rfl, reads⟩ := run_of_alternatives (level :: outer) inner
    rw [← gather_reverse]
    simp [step, reads]
    rfl
  | .comparison name asks written => run_comparison level outer name asks written
  | .existence name asks => run_existence level outer name asks
  | .spatial asks west south east north => run_spatial level outer asks west south east north

theorem run_of_operand {ts : List Token} {e : Expression} (level : Level) (outer : List Level) :
    Operand ts e → run ⟨.operand, level, outer⟩ ts = some (complete ⟨.operand, level, outer⟩ e)
  | .atom atom => run_of_atom level outer atom
  | .negation operand => by
    rw [← List.singleton_append, run_append, run_not, Option.bind_some,
      run_of_operand _ outer operand]
    simp [complete, negate_succ]

theorem run_of_conjuncts {ts : List Token} {es : List Expression} (alternatives : List Expression)
    (outer : List Level) : Conjuncts ts es →
    ∃ earlier last, es = earlier ++ [last] ∧
      run ⟨.operand, ⟨alternatives, [], 0⟩, outer⟩ ts =
        some ⟨.connective last, ⟨alternatives, earlier.reverse, 0⟩, outer⟩
  | .one operand => ⟨[], _, rfl, run_of_operand _ outer operand⟩
  | .more conjuncts operand => by
    obtain ⟨earlier, last, rfl, reads⟩ := run_of_conjuncts alternatives outer conjuncts
    refine ⟨earlier ++ [last], _, rfl, ?_⟩
    simp [reads, step, run_of_operand _ outer operand, complete, negate]

theorem run_of_alternatives {ts : List Token} {es : List Expression} (outer : List Level) :
    Alternatives ts es →
    ∃ earlier conjuncts last, es = earlier ++ [gather .and conjuncts last] ∧
      run ⟨.operand, .start, outer⟩ ts =
        some ⟨.connective last, ⟨earlier.reverse, conjuncts, 0⟩, outer⟩
  | .one conjuncts => by
    obtain ⟨earlier, last, rfl, reads⟩ := run_of_conjuncts [] outer conjuncts
    exact ⟨[], earlier.reverse, last, by rw [gather_reverse]; rfl, reads⟩
  | .more before conjuncts => by
    obtain ⟨earlier, others, previous, rfl, readsBefore⟩ := run_of_alternatives outer before
    obtain ⟨operands, last, rfl, reads⟩ := run_of_conjuncts
      (gather .and others previous :: earlier.reverse) outer conjuncts
    refine ⟨earlier ++ [gather .and others previous], operands.reverse, last,
      by rw [gather_reverse], ?_⟩
    simp [readsBefore, step, reads, Level.conjunction]

end

theorem result_of_derives (derived : Derives ts e) : (start.run ts).bind result? = some e := by
  obtain ⟨es, alternatives, rfl⟩ := derived
  obtain ⟨earlier, conjuncts, last, rfl, reads⟩ := run_of_alternatives [] alternatives
  rw [show start = ⟨.operand, .start, []⟩ from rfl, reads, ← gather_reverse]
  rfl

/- What is read, the grammar derives. -/

end State

inductive Before (joint : Token) (Chain : List Token → List Expression → Prop) :
    List Token → List Expression → Prop
  | none : Before joint Chain [] []
  | some {ts : List Token} {es : List Expression} (chain : Chain ts es) :
      Before joint Chain (ts ++ [joint]) es.reverse

theorem Before.conjuncts {before after : List Token} {earlier : List Expression} {e : Expression}
    (joined : Before .and Conjuncts before earlier) (operand : Operand after e) :
    Conjuncts (before ++ after) (earlier.reverse ++ [e]) := by
  cases joined with
  | none => exact .one operand
  | some chain => simpa using Conjuncts.more chain operand

theorem Before.alternatives {before after : List Token} {earlier es : List Expression}
    (joined : Before .or Alternatives before earlier) (conjuncts : Conjuncts after es) :
    Alternatives (before ++ after) (earlier.reverse ++ [chain .and es]) := by
  cases joined with
  | none => exact .one conjuncts
  | some chain => simpa using Alternatives.more chain conjuncts

def Level.Spelled (level : Level) (ts : List Token) : Prop :=
  ∃ alternatives conjuncts, ts = alternatives ++ (conjuncts ++ List.replicate level.negations .not) ∧
    Before .or Alternatives alternatives level.alternatives ∧
    Before .and Conjuncts conjuncts level.conjuncts

inductive Nested : List Token → List Level → Prop
  | none : Nested [] []
  | inner {before after : List Token} {level : Level} {outer : List Level}
      (nested : Nested before outer) (spelled : level.Spelled after) :
      Nested (before ++ (after ++ [.leftParen])) (level :: outer)

def degrees (read : List Numeral) : List Token :=
  read.flatMap fun n => [.number n.lexeme, .comma]

inductive Begun : List Token → Due → Prop
  | operand : Begun [] .operand
  | relation (name : List Char) : Begun [.field name] (.relation name)
  | value (name : List Char) (c : Comparison) : Begun [.field name, .comparison c] (.value name c)
  | extent (word : SpatialWord) : Begun [.spatial word] (.extent word)
  | degree (word : SpatialWord) (read : List Numeral) :
      Begun (.spatial word :: .leftParen :: degrees read) (.degree word (read.map Numeral.value))
  | separator (word : SpatialWord) (read : List Numeral) (n : Numeral) :
      Begun (.spatial word :: .leftParen :: (degrees read ++ [.number n.lexeme]))
        (.separator word (read.map Numeral.value ++ [n.value]))

/-- The tokens that lead from the start to a state: an operand is begun, or whole and then its
    negations are a part of it. -/
inductive State.Spelled (ts : List Token) : State → Prop
  | begun {outside inside pending : List Token} {due : Due} {level : Level} {outer : List Level}
      (split : ts = outside ++ (inside ++ pending)) (nested : Nested outside outer)
      (spelled : level.Spelled inside) (begun : Begun pending due) : Spelled ts ⟨due, level, outer⟩
  | whole {outside inside pending : List Token} {e : Expression} {level : Level} {outer : List Level}
      (split : ts = outside ++ (inside ++ pending)) (nested : Nested outside outer)
      (spelled : level.Spelled inside) (plain : level.negations = 0) (operand : Operand pending e) :
      Spelled ts ⟨.connective e, level, outer⟩

theorem Level.Spelled.close {level : Level} {inside pending : List Token} {e : Expression}
    (spelled : level.Spelled inside) (plain : level.negations = 0) (operand : Operand pending e) :
    Derives (inside ++ pending) (level.close e) := by
  obtain ⟨alternatives, conjuncts, rfl, joinedByOr, joinedByAnd⟩ := spelled
  have whole := joinedByOr.alternatives (joinedByAnd.conjuncts operand)
  refine ⟨_, by simpa [plain] using whole, ?_⟩
  rw [← gather_reverse, ← gather_reverse, List.reverse_reverse, List.reverse_reverse]
  rfl

theorem Level.Spelled.and {level : Level} {inside pending : List Token} {e : Expression}
    (spelled : level.Spelled inside) (plain : level.negations = 0) (operand : Operand pending e) :
    Level.Spelled ⟨level.alternatives, e :: level.conjuncts, 0⟩ (inside ++ (pending ++ [.and])) := by
  obtain ⟨alternatives, conjuncts, rfl, joinedByOr, joinedByAnd⟩ := spelled
  have joined : Before .and Conjuncts (conjuncts ++ pending ++ [.and])
      (level.conjuncts.reverse ++ [e]).reverse := .some (joinedByAnd.conjuncts operand)
  rw [List.reverse_concat, List.reverse_reverse] at joined
  exact ⟨alternatives, _, by simp [plain], joinedByOr, joined⟩

theorem Level.Spelled.or {level : Level} {inside pending : List Token} {e : Expression}
    (spelled : level.Spelled inside) (plain : level.negations = 0) (operand : Operand pending e) :
    Level.Spelled ⟨level.conjunction e :: level.alternatives, [], 0⟩
      (inside ++ (pending ++ [.or])) := by
  obtain ⟨alternatives, conjuncts, rfl, joinedByOr, joinedByAnd⟩ := spelled
  have whole := joinedByOr.alternatives (joinedByAnd.conjuncts operand)
  have joined : Before .or Alternatives (alternatives ++ (conjuncts ++ pending) ++ [.or])
      (level.alternatives.reverse ++ [level.conjunction e]).reverse := by
    rw [← gather_reverse, List.reverse_reverse] at whole
    exact .some whole
  rw [List.reverse_concat, List.reverse_reverse] at joined
  exact ⟨_, [], by simp [plain], joined, .none⟩

namespace State

variable {s next : State} {t : Token} {ts : List Token} {e : Expression}

theorem spelled_start : Spelled [] start :=
  .begun rfl .none ⟨[], [], rfl, .none, .none⟩ .operand

theorem spelled_complete {outside inside pending : List Token} {due : Due} {level : Level}
    {outer : List Level} (nested : Nested outside outer) (spelled : level.Spelled inside)
    (operand : Operand pending e) :
    Spelled (outside ++ (inside ++ pending)) (complete ⟨due, level, outer⟩ e) := by
  obtain ⟨alternatives, conjuncts, rfl, joinedByOr, joinedByAnd⟩ := spelled
  refine .whole ?_ nested ⟨alternatives, conjuncts, rfl, joinedByOr, joinedByAnd⟩ rfl
    (operand.negated level.negations)
  simp

def Numeric (t : Token) : Prop :=
  ∀ text, t = .number text → ∃ n : Numeral, text = n.lexeme

theorem spelled_of_begun {outside inside pending : List Token} {due : Due} {level : Level}
    {outer : List Level} (nested : Nested outside outer) (spelled : level.Spelled inside)
    (begun : Begun pending due) (numeric : Numeric t) (moves : Moves ⟨due, level, outer⟩ t next) :
    Spelled (outside ++ (inside ++ (pending ++ [t]))) next := by
  cases moves with
  | spatial word =>
    cases begun
    exact .begun rfl nested spelled (.extent word)
  | field name =>
    cases begun
    exact .begun rfl nested spelled (.relation name)
  | not =>
    cases begun
    obtain ⟨alternatives, conjuncts, rfl, joinedByOr, joinedByAnd⟩ := spelled
    refine .begun ?_ nested ⟨alternatives, conjuncts, rfl, joinedByOr, joinedByAnd⟩ .operand
    simp [List.replicate_succ']
  | opening =>
    cases begun
    refine .begun ?_ (.inner nested spelled) ⟨[], [], rfl, .none, .none⟩ .operand
    simp [Level.start]
  | comparison name c =>
    cases begun
    exact .begun rfl nested spelled (.value name c)
  | existence name x =>
    cases begun
    rw [bond_eq]
    exact spelled_complete nested spelled (.atom (.existence name x.asks))
  | value name c written =>
    cases begun
    rw [bond_eq]
    exact spelled_complete nested spelled (.atom (.comparison name c.asks written))
  | extent word =>
    cases begun
    exact .begun rfl nested spelled (.degree word [])
  | number word _ value =>
    cases begun with
    | degree _ read =>
      obtain ⟨n, rfl⟩ := numeric _ rfl
      rw [readDouble?_lexeme] at value
      cases value
      exact .begun rfl nested spelled (.separator word read n)
  | comma word =>
    cases begun with
    | separator _ read n =>
      have degree := Begun.degree word (read ++ [n])
      rw [List.map_append, List.map_singleton] at degree
      exact .begun (by simp [degrees]) nested spelled degree
  | ending word west south east north =>
    generalize values : [west, south, east, north] = four at begun
    cases begun with
    | separator _ read n =>
      have three : read.length = 3 := by simpa using (congrArg List.length values).symm
      obtain ⟨w, s, e, rfl⟩ := List.length_eq_three.mp three
      cases values
      exact spelled_complete nested spelled (.atom (.spatial word.asks w s e n))
  | and | or | closing => cases begun

theorem spelled_of_whole {outside inside pending : List Token} {level : Level}
    {outer : List Level} (nested : Nested outside outer) (spelled : level.Spelled inside)
    (plain : level.negations = 0) (operand : Operand pending e)
    (moves : Moves ⟨.connective e, level, outer⟩ t next) :
    Spelled (outside ++ (inside ++ (pending ++ [t]))) next := by
  cases moves with
  | and => exact .begun (by simp) nested (spelled.and plain operand) .operand
  | or => exact .begun (by simp) nested (spelled.or plain operand) .operand
  | closing =>
    obtain ⟨es, alternatives, same⟩ := spelled.close plain operand
    have parenthesized := Operand.atom (.parentheses alternatives)
    rw [← same] at parenthesized
    obtain _ | ⟨nested, enclosing⟩ := nested
    simpa using spelled_complete nested enclosing parenthesized

theorem spelled_step (spelled : Spelled ts s) (numeric : Numeric t) (taken : s.step t = some next) :
    Spelled (ts ++ [t]) next := by
  have moves := moves_of_step taken
  cases spelled with
  | begun split nested spelled begun =>
    subst split
    simpa using spelled_of_begun nested spelled begun numeric moves
  | whole split nested spelled plain operand =>
    subst split
    simpa using spelled_of_whole nested spelled plain operand moves

theorem spelled_run {before : List Token} (spelled : Spelled before s)
    (numeric : ∀ t ∈ ts, Numeric t) (taken : s.run ts = some next) : Spelled (before ++ ts) next := by
  induction ts generalizing s before with
  | nil =>
    cases taken
    simpa using spelled
  | cons t ts ih =>
    obtain ⟨between, first, later⟩ := Option.bind_eq_some_iff.mp taken
    have one := spelled_step spelled (numeric t List.mem_cons_self) first
    simpa using ih one (fun u member => numeric u (List.mem_cons_of_mem t member)) later

/-- The reader accepts exactly the tokens of an expression, and gives its tree. -/
theorem result_eq_some_iff (numeric : ∀ t ∈ ts, Numeric t) :
    (start.run ts).bind result? = some e ↔ Derives ts e := by
  constructor
  · intro read
    obtain ⟨s, taken, ended⟩ := Option.bind_eq_some_iff.mp read
    have spelled := spelled_run spelled_start numeric taken
    rw [List.nil_append] at spelled
    cases spelled with
    | begun split nested spelled begun => cases begun <;> cases ended
    | whole split nested spelled plain operand =>
      cases nested with
      | none =>
        cases ended
        rw [split, List.nil_append]
        exact spelled.close plain operand
      | inner => cases ended
  · exact result_of_derives

end State

/-- The grammar is unambiguous: tokens have one tree, since the reader gives it. -/
theorem Derives.unique {ts : List Token} {e f : Expression} (first : Derives ts e)
    (second : Derives ts f) : e = f :=
  Option.some.inj ((State.result_of_derives first).symm.trans (State.result_of_derives second))

end BondQuery.Syntax
