import BondQuery.Number.Double

/- The shortest decimal that reads back as a given magnitude. Distances are counted in quarter
   units, in which the ends of the rounding interval are whole numbers. -/
namespace BondQuery

/-- The number `digits * 10 ^ exponent`. -/
structure Decimal where
  digits : Nat
  exponent : Int
  deriving DecidableEq, Repr

namespace Decimal

def quarterUnits (d : Decimal) : Nat :=
  d.digits * Nat.pow 10 d.exponent.toNat * (4 * Magnitude.unitsPerOne)

def denominator (d : Decimal) : Nat :=
  Nat.pow 10 (-d.exponent).toNat

end Decimal

namespace Magnitude

/-- Midpoint between a magnitude and the one below it. Below a power of two the neighbour is
    half as far as above it, the least shift excepted. -/
def lowerEnd (m : Magnitude) : Nat :=
  4 * m.units - (if m.significand = 0x10000000000000 ∧ 0 < m.shift then 1 else 2) <<< m.shift

def upperEnd (m : Magnitude) : Nat :=
  4 * m.units + 2 <<< m.shift

/-- True of the decimals that round to the magnitude. The midpoints belong to an even one. -/
def contains (m : Magnitude) (d : Decimal) : Bool :=
  let low := m.lowerEnd * d.denominator
  let high := m.upperEnd * d.denominator
  if m.significand % 2 = 0 then low ≤ d.quarterUnits && d.quarterUnits ≤ high
  else low < d.quarterUnits && d.quarterUnits < high

def pointOf (m : Magnitude) : Int :=
  (Nat.toDigits 10 (m.units * Nat.pow 10 350 / unitsPerOne)).length - 350

def below (m : Magnitude) (exponent : Int) : Decimal × Ordering :=
  let numerator := m.units * Nat.pow 10 (-exponent).toNat
  let step := unitsPerOne * Nat.pow 10 exponent.toNat
  (⟨numerator / step, exponent⟩, compare (2 * (numerator % step)) step)

/-- Of the two neighbours on a grid, the nearer that rounds to the magnitude; a tie goes to
    the even one. -/
def onGrid? (m : Magnitude) (exponent : Int) : Option Decimal :=
  let (low, side) := m.below exponent
  let high : Decimal := ⟨low.digits + 1, exponent⟩
  match m.contains low, m.contains high with
  | true, false => some low
  | false, true => some high
  | false, false => none
  | true, true =>
    match side with
    | .lt => some low
    | .gt => some high
    | .eq => if low.digits % 2 = 0 then some low else some high

/-- Seventeen digits tell all magnitudes apart; the first grid with a hit wins. -/
def shortest (m : Magnitude) : Decimal :=
  let point := m.pointOf
  ((List.range 17).findSome? fun (k : Nat) => m.onGrid? (point - (k + 1))).getD
    (m.below (point - 17)).1

end Magnitude

end BondQuery
