import BondQuery.Bond.Expression

/- Tokens of the textual syntax. A token keeps what it was written with, so its lexeme is a
   function of it. -/
namespace BondQuery.Syntax

inductive Terminal where
  | field
  | comparison
  | existence
  | quotedValue
  | bareValue
  | spatial
  | number
  | comma
  | leftParen
  | rightParen
  | and
  | or
  | not
  | endOfText
  deriving DecidableEq, Repr

def Terminal.name : Terminal → String
  | field => "FIELD"
  | comparison => "CMP_OP"
  | existence => "EXISTS_OP"
  | quotedValue => "ESCAPED_STRING"
  | bareValue => "BARE_VALUE"
  | spatial => "SPATIAL_OP"
  | number => "SIGNED_NUMBER"
  | comma => "COMMA"
  | leftParen => "LPAR"
  | rightParen => "RPAR"
  | and => "AND"
  | or => "OR"
  | not => "NOT"
  | endOfText => "$END"

inductive Comparison where
  | notEqual
  | greaterOrEqual
  | lessOrEqual
  | equal
  | greater
  | less
  | like
  deriving DecidableEq, Repr

namespace Comparison

/-- In the order in which they are tried: a longer symbol before its own beginning. -/
def all : List Comparison :=
  [notEqual, greaterOrEqual, lessOrEqual, equal, greater, less, like]

def symbol : Comparison → List Char
  | notEqual => ['!', '=']
  | greaterOrEqual => ['>', '=']
  | lessOrEqual => ['<', '=']
  | equal => ['=']
  | greater => ['>']
  | less => ['<']
  | like => ['~']

def operator : Comparison → Operator
  | notEqual => .notEqual
  | greaterOrEqual => .greaterOrEqual
  | lessOrEqual => .lessOrEqual
  | equal => .equal
  | greater => .greater
  | less => .less
  | like => .like

end Comparison

inductive Existence where
  | present
  | missing
  deriving DecidableEq, Repr

namespace Existence

def all : List Existence :=
  [present, missing]

def word : Existence → List Char
  | present => ['E', 'X', 'I', 'S', 'T', 'S']
  | missing => ['M', 'I', 'S', 'S', 'I', 'N', 'G']

def operator : Existence → Operator
  | present => .exists
  | missing => .notExists

end Existence

inductive SpatialWord where
  | bbox
  | intersects
  | contained
  | contains
  | disjoint
  deriving DecidableEq, Repr

namespace SpatialWord

def all : List SpatialWord :=
  [bbox, intersects, contained, contains, disjoint]

def word : SpatialWord → List Char
  | bbox => ['B', 'B', 'O', 'X']
  | intersects => ['I', 'N', 'T', 'E', 'R', 'S', 'E', 'C', 'T', 'S']
  | contained => ['C', 'O', 'N', 'T', 'A', 'I', 'N', 'E', 'D']
  | contains => ['C', 'O', 'N', 'T', 'A', 'I', 'N', 'S']
  | disjoint => ['D', 'I', 'S', 'J', 'O', 'I', 'N', 'T']

def operator : SpatialWord → Operator
  | bbox => .bbox
  | intersects => .intersects
  | contained => .contained
  | contains => .contains
  | disjoint => .disjoint

end SpatialWord

/-- A quoted value holds the characters between its quotes as they are written. -/
inductive Token where
  | field (name : List Char)
  | comparison (comparison : Comparison)
  | existence (existence : Existence)
  | quotedValue (inner : List Char)
  | bareValue (text : List Char)
  | spatial (word : SpatialWord)
  | number (text : List Char)
  | comma
  | leftParen
  | rightParen
  | and
  | or
  | not
  deriving DecidableEq, Repr

namespace Token

def terminal : Token → Terminal
  | field _ => .field
  | comparison _ => .comparison
  | existence _ => .existence
  | quotedValue _ => .quotedValue
  | bareValue _ => .bareValue
  | spatial _ => .spatial
  | number _ => .number
  | comma => .comma
  | leftParen => .leftParen
  | rightParen => .rightParen
  | and => .and
  | or => .or
  | not => .not

def lexeme : Token → List Char
  | field name => name
  | comparison c => c.symbol
  | existence e => e.word
  | quotedValue inner => '"' :: inner ++ ['"']
  | bareValue text => text
  | spatial s => s.word
  | number text => text
  | comma => [',']
  | leftParen => ['(']
  | rightParen => [')']
  | and => ['A', 'N', 'D']
  | or => ['O', 'R']
  | not => ['N', 'O', 'T']

end Token

end BondQuery.Syntax
