/- Binary floating point numbers of 64 bits, with exact arithmetic on their values. Every
   finite magnitude is a whole number of units of 2^-1074, so comparison, rounding and
   conversion are questions about natural numbers. -/
namespace BondQuery

/-- The quotient to the nearest whole number; a half goes to the even neighbour. -/
def roundDiv (a b : Nat) : Nat :=
  if 2 * (a % b) < b then a / b
  else if b < 2 * (a % b) then a / b + 1
  else if a / b % 2 = 0 then a / b
  else a / b + 1

theorem div_le_roundDiv (a b : Nat) : a / b ≤ roundDiv a b := by
  unfold roundDiv
  split <;> (try split) <;> (try split) <;> omega

/-- A finite magnitude: `significand * 2 ^ shift` units. A significand has 53 binary digits,
    and fewer only at the least shift, so every magnitude has one form. -/
structure Magnitude where
  significand : Nat
  shift : Nat
  significand_lt : significand < 0x20000000000000
  shift_le : shift ≤ 2045
  normal : shift = 0 ∨ 0x10000000000000 ≤ significand
  deriving DecidableEq, Repr

namespace Magnitude

def unitsPerOne : Nat := 1 <<< 1074

def units (m : Magnitude) : Nat :=
  m.significand <<< m.shift

def zero : Magnitude :=
  ⟨0, 0, by decide, by decide, .inl rfl⟩

def shiftOf (units : Nat) : Nat :=
  units.log2 - 52

theorem normal_of_shift (a d : Nat) :
    shiftOf (a / d) = 0 ∨ 0x10000000000000 ≤ roundDiv a (d <<< shiftOf (a / d)) := by
  rcases Nat.eq_zero_or_pos (shiftOf (a / d)) with h | h
  · exact .inl h
  · right
    refine Nat.le_trans ?_ (div_le_roundDiv _ _)
    have hlog : 52 + shiftOf (a / d) = (a / d).log2 := by unfold shiftOf at h ⊢; omega
    rw [Nat.shiftLeft_eq, ← Nat.div_div_eq_div_mul, Nat.le_div_iff_mul_le (Nat.two_pow_pos _),
      show 0x10000000000000 = 2 ^ 52 from rfl, ← Nat.pow_add, hlog]
    refine Nat.log2_self_le fun h0 => ?_
    rw [h0] at h
    simp [shiftOf] at h

/-- The magnitude nearest to the quotient, a tie going to the even significand; `none` when
    the quotient rounds beyond the largest magnitude. -/
def nearest (numerator denominator : Nat) : Option Magnitude :=
  let a := numerator * unitsPerOne
  let shift := shiftOf (a / denominator)
  let m := roundDiv a (denominator <<< shift)
  if small : m < 0x20000000000000 then
    if low : shift ≤ 2045 then
      some ⟨m, shift, small, low, normal_of_shift a denominator⟩
    else none
  else if low : shift + 1 ≤ 2045 then
    some ⟨0x10000000000000, shift + 1, by decide, low, .inr (Nat.le_refl _)⟩
  else none

end Magnitude

inductive Double where
  | nan
  | infinite (negative : Bool)
  | finite (negative : Bool) (magnitude : Magnitude)
  deriving DecidableEq, Repr

namespace Double

def ofRatio (negative : Bool) (numerator denominator : Nat) : Double :=
  match Magnitude.nearest numerator denominator with
  | some m => finite negative m
  | none => infinite negative

def ofInt? (n : Int) : Option Double :=
  (Magnitude.nearest n.natAbs 1).map (finite (n < 0))

/-- Magnitudes from `10 ^ 310` on are infinite and those below `10 ^ -330` are zero, so the
    power of ten is formed only between these bounds. -/
def ofDecimal (negative : Bool) (digits : Nat) (exponent : Int) : Double :=
  let size := exponent + (Nat.toDigits 10 digits).length
  if digits = 0 ∨ size < -330 then finite negative .zero
  else if 310 < size then infinite negative
  else ofRatio negative (digits * Nat.pow 10 exponent.toNat) (Nat.pow 10 (-exponent).toNat)

/-- The product with a positive whole number. -/
def scale (x : Double) (factor : Nat) : Double :=
  match x with
  | finite negative m => ofRatio negative (m.units * factor) Magnitude.unitsPerOne
  | other => other

def isBelowOne : Double → Bool
  | nan => false
  | infinite negative => negative
  | finite negative m => negative || m.units < Magnitude.unitsPerOne

def isAboveOne : Double → Bool
  | nan => false
  | infinite negative => !negative
  | finite negative m => !negative && Magnitude.unitsPerOne < m.units

def truncate? : Double → Option Int
  | finite negative m =>
    let whole := m.units / Magnitude.unitsPerOne
    some (if negative then -whole else whole)
  | _ => none

end Double

end BondQuery
