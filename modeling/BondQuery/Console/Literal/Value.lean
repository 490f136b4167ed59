import BondQuery.Console.Literal.Fault

/- What has been read, as far as it matters for what it is worth: numbers, texts, the three
   constants, and tuples, sets and tables of such values are literal values. -/
namespace BondQuery.Console.Literal

inductive Form where
  | name (text : String)
  | member
  | call
  | literal
  | constant (word : String)
  | ellipsis
  | filledText
  | tuple
  | set
  | table
  | generator
  | setComprehension
  | tableComprehension
  | operation
  | comparison
  | conditional
  | assignment
  | starred
  | awaiting
  | yielding
  | function
  deriving DecidableEq, Repr

def Form.describe : Form → String
  | name _ => "name"
  | member => "attribute"
  | call => "function call"
  | literal => "literal"
  | constant word => word
  | ellipsis => "ellipsis"
  | filledText => "f-string expression"
  | tuple => "tuple"
  | set => "set display"
  | table => "dict literal"
  | generator => "generator expression"
  | setComprehension => "set comprehension"
  | tableComprehension => "dict comprehension"
  | operation => "expression"
  | comparison => "comparison"
  | conditional => "conditional expression"
  | assignment => "named expression"
  | starred => "starred"
  | awaiting => "await expression"
  | yielding => "yield expression"
  | function => "lambda"

structure NumberKind where
  imaginary : Bool
  signed : Bool
  deriving DecidableEq, Repr

/-- What has been read. The fault is the one that its evaluation meets first; a value that can
    change has a kind, and cannot be an item of a set or a key. The part that cannot be assigned
    to is the first of its kind. -/
structure Value where
  form : Form
  number : Option NumberKind
  fault : Option LiteralFault
  mutableKind : Option String
  badTarget : Option Form
  deriving DecidableEq, Repr

def Value.constant (form : Form) : Value :=
  ⟨form, none, none, none, some form⟩

def Value.computed (form : Form) : Value :=
  ⟨form, none, some .noValue, none, some form⟩

/-- An expression that is no literal value, but something can be assigned to it. -/
def Value.place (form : Form) : Value :=
  ⟨form, none, some .noValue, none, none⟩

def Value.ofNumber (imaginary signed : Bool) : Value :=
  let form := if signed then Form.operation else .literal
  ⟨form, some ⟨imaginary, signed⟩, none, none, some form⟩

def Value.signed (v : Value) : Value :=
  match v.number with
  | some ⟨imaginary, false⟩ => .ofNumber imaginary true
  | _ => .computed .operation

def Value.sum (a b : Value) : Value :=
  match a.number, b.number with
  | some ⟨false, _⟩, some ⟨true, false⟩ => .constant .operation
  | _, _ => .computed .operation

def Value.compared (a : Value) (within : Bool) : Value :=
  { Value.computed .comparison with badTarget := if within then a.badTarget else none }

def Value.spread (v : Value) : Value :=
  { Value.computed .starred with badTarget := v.badTarget }

def Value.tuple (items : List Value) : Value :=
  ⟨.tuple, none, items.findSome? (·.fault), items.findSome? (·.mutableKind),
    items.findSome? (·.badTarget)⟩

def Value.asItem (v : Value) : Option LiteralFault :=
  v.fault <|> v.mutableKind.map .unhashable

def Value.set (items : List Value) : Value :=
  ⟨.set, none, items.findSome? Value.asItem, some "set", some .set⟩

structure Entry where
  key : Option Value
  value : Value
  deriving DecidableEq, Repr

def Entry.fault (e : Entry) : Option LiteralFault :=
  match e.key with
  | none => some .noKey
  | some key => key.fault <|> e.value.fault <|> key.mutableKind.map .unhashable

def Value.table (entries : List Entry) : Value :=
  ⟨.table, none, entries.findSome? Entry.fault, some "dict", some .table⟩

def setMaker : String := "set"

def Value.called (function : Value) (arguments : Bool) : Value :=
  if function.form = .name setMaker ∧ !arguments then
    { Value.set [] with form := .call, badTarget := some .call }
  else .computed .call

end BondQuery.Console.Literal
