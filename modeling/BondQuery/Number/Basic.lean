import BondQuery.Number.Written

/- Numbers of weights, bounds and extents: whole numbers of any size, or 64-bit ones. -/
namespace BondQuery

inductive Number where
  | int (value : Int)
  | double (value : Double)
  deriving DecidableEq, Repr

namespace Number

/-- False for no number at all, as every comparison with it. -/
def isBelowOne : Number → Bool
  | int n => n < 1
  | double x => x.isBelowOne

def isAboveOne : Number → Bool
  | int n => 1 < n
  | double x => x.isAboveOne

def toDouble? : Number → Option Double
  | int n => Double.ofInt? n
  | double x => some x

def scale : Number → Nat → Number
  | int n, factor => int (n * factor)
  | double x, factor => double (x.scale factor)

def text? : Number → Option String
  | int n => if isWritable n then some (intText n) else none
  | double x => some x.text

end Number

end BondQuery
