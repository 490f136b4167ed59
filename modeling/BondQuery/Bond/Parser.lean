import BondQuery.Bond.Lexer
import BondQuery.Bond.SyntaxError
import BondQuery.Number.Read

/- Reading a bond expression in one pass. The state holds the operands read so far, grouped by
   parentheses and connectives, and what is due next; what is due decides which tokens are
   tried. NOT binds tighter than AND, and AND tighter than OR. -/
namespace BondQuery.Syntax

/-- The operands before the one due next, inside one pair of parentheses, latest first. -/
structure Level where
  alternatives : List Expression
  conjuncts : List Expression
  negations : Nat

def Level.start : Level :=
  ⟨[], [], 0⟩

def gather (connective : Connective) (earlier : List Expression) (last : Expression) : Expression :=
  match earlier with
  | [] => last
  | _ => .logical connective (earlier.reverse ++ [last])

def negate : Nat → Expression → Expression
  | 0, e => e
  | n + 1, e => .logical .not [negate n e]

def Level.conjunction (level : Level) (operand : Expression) : Expression :=
  gather .and level.conjuncts operand

def Level.close (level : Level) (operand : Expression) : Expression :=
  gather .or level.alternatives (level.conjunction operand)

/-- What the next token has to continue. -/
inductive Due where
  | operand
  | relation (field : List Char)
  | value (field : List Char) (comparison : Comparison)
  | connective (operand : Expression)
  | extent (word : SpatialWord)
  | degree (word : SpatialWord) (read : List Double)
  | separator (word : SpatialWord) (read : List Double)

def Due.context : Due → Context
  | operand => .operand
  | relation _ => .relation
  | value _ _ => .value
  | connective _ => .connective
  | extent _ => .leftParen
  | degree _ _ => .number
  | separator _ read => if read.length < 4 then .comma else .rightParen

structure State where
  due : Due
  level : Level
  outer : List Level

namespace State

def start : State :=
  ⟨.operand, .start, []⟩

def complete (s : State) (operand : Expression) : State :=
  ⟨.connective (negate s.level.negations operand), { s.level with negations := 0 }, s.outer⟩

def bond (field : List Char) (operator : Operator) (value : List Char) : Expression :=
  .bond (.ofName (String.ofList field)) operator (String.ofList value)

def step (s : State) (t : Token) : Option State :=
  match s.due, t with
  | .operand, .spatial word => some { s with due := .extent word }
  | .operand, .field name => some { s with due := .relation name }
  | .operand, .not =>
    some { s with level := { s.level with negations := s.level.negations + 1 } }
  | .operand, .leftParen => some ⟨.operand, .start, s.level :: s.outer⟩
  | .relation field, .comparison c => some { s with due := .value field c }
  | .relation field, .existence e => some (s.complete (bond field e.operator []))
  | .value field c, .quotedValue inner => some (s.complete (bond field c.operator (unescape inner)))
  | .value field c, .bareValue text => some (s.complete (bond field c.operator text))
  | .connective e, .and =>
    some ⟨.operand, ⟨s.level.alternatives, e :: s.level.conjuncts, 0⟩, s.outer⟩
  | .connective e, .or =>
    some ⟨.operand, ⟨s.level.conjunction e :: s.level.alternatives, [], 0⟩, s.outer⟩
  | .connective e, .rightParen =>
    match s.outer with
    | [] => none
    | level :: outer => some (complete ⟨.operand, level, outer⟩ (s.level.close e))
  | .extent word, .leftParen => some { s with due := .degree word [] }
  | .degree word read, .number text =>
    (readDouble? text).map fun x => { s with due := .separator word (read ++ [x]) }
  | .separator word read, .comma =>
    if read.length < 4 then some { s with due := .degree word read } else none
  | .separator word [west, south, east, north], .rightParen =>
    some (s.complete (.spatial .boundingBox word.operator
      ⟨.double west, .double south, .double east, .double north⟩))
  | _, _ => none

def result? (s : State) : Option Expression :=
  match s.due, s.outer with
  | .connective e, [] => some (s.level.close e)
  | _, _ => none

def expected (s : State) : List Terminal :=
  match s.due with
  | .operand => [.field, .leftParen, .not, .spatial]
  | .relation _ => [.comparison, .existence]
  | .value _ _ => [.bareValue, .quotedValue]
  | .connective _ => if s.outer.isEmpty then [.endOfText, .and, .or] else [.and, .or, .rightParen]
  | .extent _ => [.leftParen]
  | .degree _ _ => [.number]
  | .separator _ read => if read.length < 4 then [.comma] else [.rightParen]

/-- The kinds expected where an expression ends, by a parenthesis or with the text, and the end
    is of the wrong sort: only the right one is left. -/
def expectedEnd (s : State) : List Terminal :=
  match s.due with
  | .connective _ => if s.outer.isEmpty then [.endOfText] else [.rightParen]
  | _ => s.expected

end State

def skipGaps (cs : List Char) : List Char :=
  cs.dropWhile Text.isGap

theorem length_skipGaps_le (cs : List Char) : (skipGaps cs).length ≤ cs.length :=
  (List.dropWhile_sublist _).length_le

/-- Reads the rest of a text from a state. The end of the text is reported at the last token. -/
def readFrom (text : List Char) (s : State) (lastToken cs : List Char) :
    Except SyntaxFault Expression :=
  match _atToken : skipGaps cs with
  | [] =>
    match s.result? with
    | some e => .ok e
    | none => .error (.unexpectedToken .endOfText [] (.ofEnding text lastToken) s.expectedEnd)
  | c :: rest =>
    match _scanned : scan s.due.context (c :: rest) with
    | some (t, after) =>
      match s.step t with
      | some next => readFrom text next (c :: rest) after
      | none =>
        .error (.unexpectedToken t.terminal t.lexeme (.ofEnding text (c :: rest)) s.expectedEnd)
    | none =>
      match scanAny (c :: rest) with
      | some (t, _) =>
        .error (.unexpectedToken t.terminal t.lexeme (.ofEnding text (c :: rest)) s.expected)
      | none => .error (.unexpectedCharacter c (.ofEnding text (c :: rest)))
termination_by cs.length
decreasing_by
  have shorter := length_lt_of_scan _scanned
  have skipped := length_skipGaps_le cs
  rw [_atToken] at skipped
  omega

def parse (text : String) : Except SyntaxError Expression :=
  match Text.trim text.toList with
  | [] => .error ⟨"", .empty⟩
  | cs => (readFrom cs .start cs cs).mapError fun fault => ⟨String.ofList cs, fault⟩

end BondQuery.Syntax
