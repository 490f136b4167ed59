import BondQuery.Number.Written
import BondQuery.Text.Blank
import BondQuery.Text.Digit

/- How numbers are read. White space around a number is ignored, its digits may come from any
   script, and single underscores may stand between two digits. -/
namespace BondQuery

inductive IntFault where
  | malformed
  | tooManyDigits (count : Nat)
  deriving DecidableEq, Repr

def plainDigit (c : Char) : Char :=
  match Text.decimalValue? c with
  | some value => Nat.digitChar value
  | none => c

def joinDigits? (afterDigit : Bool) : List Char → Option (List Char)
  | [] => some []
  | '_' :: d :: rest =>
    if afterDigit && d.isDigit then (joinDigits? true rest).map (d :: ·) else none
  | c :: rest => if c == '_' then none else (joinDigits? c.isDigit rest).map (c :: ·)

def takeSign : List Char → Bool × List Char
  | '-' :: rest => (true, rest)
  | '+' :: rest => (false, rest)
  | cs => (false, cs)

def applySign (negative : Bool) (n : Nat) : Int :=
  if negative then -n else n

/-- Reads a whole number. Its digits are counted before anything behind them is looked at. -/
def readInt (cs : List Char) : Except IntFault Int :=
  let (negative, body) := takeSign ((Text.trimBy Text.isSpace cs).map plainDigit)
  match joinDigits? false (body.takeWhile fun c => c.isDigit || c == '_') with
  | none | some [] => .error .malformed
  | some digits =>
    if maxDigits < digits.length then .error (.tooManyDigits digits.length)
    else if body.dropWhile (fun c => c.isDigit || c == '_') = [] then
      .ok (applySign negative (Nat.ofDigitChars 10 digits 0))
    else .error .malformed

def readExponent? (cs : List Char) : Option Int :=
  let (negative, digits) := takeSign cs
  if digits ≠ [] && digits.all Char.isDigit then
    some (applySign negative (Nat.ofDigitChars 10 digits 0))
  else none

def readDecimal? (cs : List Char) : Option Decimal :=
  let whole := cs.takeWhile Char.isDigit
  let afterWhole := cs.dropWhile Char.isDigit
  let (fraction, rest) := match afterWhole with
    | '.' :: r => (r.takeWhile Char.isDigit, r.dropWhile Char.isDigit)
    | r => ([], r)
  if whole = [] ∧ fraction = [] then none
  else
    let exponent := match rest with
      | [] => some 0
      | mark :: r => if mark == 'e' || mark == 'E' then readExponent? r else none
    exponent.map fun e => ⟨Nat.ofDigitChars 10 (whole ++ fraction) 0, e - fraction.length⟩

def readDouble? (cs : List Char) : Option Double :=
  let (negative, body) := takeSign ((Text.trimBy Text.isSpace cs).map plainDigit)
  let name := body.map Char.toLower
  if name = ['i', 'n', 'f'] ∨ name = ['i', 'n', 'f', 'i', 'n', 'i', 't', 'y'] then
    some (.infinite negative)
  else if name = ['n', 'a', 'n'] then some .nan
  else do
    let d ← readDecimal? (← joinDigits? false body)
    return .ofDecimal negative d.digits d.exponent

end BondQuery
