import BondQuery.Number.Shortest

/- How numbers are written: whole numbers in base ten, the others by their shortest digits with
   at least one decimal place. -/
namespace BondQuery

def intChars (n : Int) : List Char :=
  let digits := Nat.toDigits 10 n.natAbs
  if n < 0 then '-' :: digits else digits

def intText (n : Int) : String :=
  String.ofList (intChars n)

def maxDigits : Nat := 4300

def isWritable (n : Int) : Bool :=
  n.natAbs < Nat.pow 10 maxDigits

structure DecimalLayout where
  leastExponent : Int
  endExponent : Int
  exponentWidth : Nat

/-- Positional from `10 ^ -4` up to below `10 ^ 16`; exponents have two digits or more. -/
def decimalLayout : DecimalLayout := ⟨-4, 16, 2⟩

def dropTrailingZeros (cs : List Char) : List Char :=
  (cs.reverse.dropWhile (· == '0')).reverse

def positionalChars (digits : List Char) (point : Int) : List Char :=
  if point ≤ 0 then '0' :: '.' :: List.replicate (-point).toNat '0' ++ digits
  else if digits.length ≤ point.toNat then
    digits ++ List.replicate (point.toNat - digits.length) '0' ++ ['.', '0']
  else digits.take point.toNat ++ '.' :: digits.drop point.toNat

def exponentChars (layout : DecimalLayout) (digits : List Char) (point : Int) : List Char :=
  let exponent := Nat.toDigits 10 (point - 1).natAbs
  let mantissa := match digits with
    | [] => []
    | [d] => [d]
    | d :: rest => d :: '.' :: rest
  mantissa ++ 'e' :: (if point < 1 then '-' else '+') ::
    List.replicate (layout.exponentWidth - exponent.length) '0' ++ exponent

def decimalChars (layout : DecimalLayout) (d : Decimal) : List Char :=
  let all := Nat.toDigits 10 d.digits
  let digits := dropTrailingZeros all
  let point := d.exponent + all.length
  if layout.leastExponent < point ∧ point ≤ layout.endExponent then
    positionalChars digits point
  else exponentChars layout digits point

def Magnitude.chars (m : Magnitude) : List Char :=
  if m.significand = 0 then ['0', '.', '0'] else decimalChars decimalLayout m.shortest

namespace Double

def chars : Double → List Char
  | nan => ['n', 'a', 'n']
  | infinite negative => (if negative then ['-'] else []) ++ ['i', 'n', 'f']
  | finite negative m => (if negative then ['-'] else []) ++ m.chars

def text (x : Double) : String :=
  String.ofList x.chars

end Double

end BondQuery
