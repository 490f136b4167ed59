import BondQuery.Calendar.Day
import BondQuery.Number.Read
import BondQuery.Text.Hex
import BondQuery.Toml.Fault
import BondQuery.Toml.Value

/- Numbers, dates and times of TOML. -/
namespace BondQuery.Toml

def moreDigits (isDigit : Char → Bool) : List Char → List Char × List Char
  | [] => ([], [])
  | '_' :: d :: rest =>
    if isDigit d then
      let (digits, behind) := moreDigits isDigit rest
      (d :: digits, behind)
    else ([], '_' :: d :: rest)
  | c :: rest =>
    if isDigit c then
      let (digits, behind) := moreDigits isDigit rest
      (c :: digits, behind)
    else ([], c :: rest)

def digitRun? (isDigit : Char → Bool) : List Char → Option (List Char × List Char)
  | c :: rest =>
    if isDigit c then
      let (digits, behind) := moreDigits isDigit rest
      some (c :: digits, behind)
    else none
  | [] => none

def readRadix? : List Char → Option (Int × List Char)
  | '0' :: mark :: rest =>
    let radix? : Option Nat :=
      if mark == 'x' then some 16 else if mark == 'o' then some 8 else if mark == 'b' then some 2
      else none
    radix?.bind fun radix =>
      let isDigit (c : Char) : Bool := (Text.hexValue? c).any (· < radix)
      (digitRun? isDigit rest).map fun (digits, behind) =>
        (digits.foldl (fun n c => radix * n + (Text.hexValue? c).getD 0) 0, behind)
  | _ => none

def wholePart? : List Char → Option (List Char × List Char)
  | '0' :: rest => some (['0'], rest)
  | cs => digitRun? Char.isDigit cs

def fractionPart (cs : List Char) : List Char × List Char :=
  match cs with
  | '.' :: rest => (digitRun? Char.isDigit rest).getD ([], cs)
  | _ => ([], cs)

def exponentPart (cs : List Char) : Option Int × List Char :=
  match cs with
  | mark :: rest =>
    if mark == 'e' || mark == 'E' then
      let (negative, unsigned) := takeSign rest
      match digitRun? Char.isDigit unsigned with
      | some (digits, behind) => (some (applySign negative (Nat.ofDigitChars 10 digits 0)), behind)
      | none => (none, cs)
    else (none, cs)
  | [] => (none, cs)

def readDecimal? (cs : List Char) : Option (Except Fault (Toml × List Char)) :=
  let (negative, unsigned) := takeSign cs
  (wholePart? unsigned).map fun (whole, rest) =>
    let (fraction, rest) := fractionPart rest
    let (exponent, rest) := exponentPart rest
    if fraction = [] ∧ exponent = none then
      if maxDigits < whole.length then fail cs (.tooManyDigits whole.length)
      else .ok (int (applySign negative (Nat.ofDigitChars 10 whole 0)), rest)
    else
      .ok (double (.ofDecimal negative (Nat.ofDigitChars 10 (whole ++ fraction) 0)
        (exponent.getD 0 - fraction.length)), rest)

def readSpecial? (cs : List Char) : Option (Toml × List Char) :=
  let (negative, unsigned) := takeSign cs
  match unsigned with
  | 'i' :: 'n' :: 'f' :: rest => some (double (.infinite negative), rest)
  | 'n' :: 'a' :: 'n' :: rest => some (double .nan, rest)
  | _ => none

def boundedField? (width low high : Nat) (cs : List Char) : Option (Nat × List Char) :=
  let digits := cs.take width
  let n := Nat.ofDigitChars 10 digits 0
  if digits.length = width ∧ digits.all Char.isDigit ∧ low ≤ n ∧ n ≤ high then
    some (n, cs.drop width)
  else none

def mark? (mark : Char) : List Char → Option (List Char)
  | c :: rest => if c == mark then some rest else none
  | [] => none

def skipTime? (cs : List Char) : Option (List Char) := do
  let (_, cs) ← boundedField? 2 0 23 cs
  let (_, cs) ← boundedField? 2 0 59 (← mark? ':' cs)
  let (_, cs) ← boundedField? 2 0 59 (← mark? ':' cs)
  match cs with
  | '.' :: c :: rest => return if c.isDigit then rest.dropWhile Char.isDigit else cs
  | _ => return cs

def skipOffset (cs : List Char) : List Char :=
  match cs with
  | [] => []
  | sign :: rest =>
    if sign == 'Z' || sign == 'z' then rest
    else if sign == '+' || sign == '-' then
      let behind := do
        let (_, r) ← boundedField? 2 0 23 rest
        let (_, r) ← boundedField? 2 0 59 (← mark? ':' r)
        return r
      behind.getD cs
    else cs

def skipDate? (cs : List Char) : Option (Bool × List Char) := do
  let (year, r) ← boundedField? 4 0 9999 cs
  let (month, r) ← boundedField? 2 1 12 (← mark? '-' r)
  let (day, r) ← boundedField? 2 1 31 (← mark? '-' r)
  let behind := match r with
    | sep :: time =>
      if sep == 'T' || sep == 't' || sep == ' ' then ((skipTime? time).map skipOffset).getD r else r
    | [] => r
  return (1 ≤ year && day ≤ Calendar.monthLength year month, behind)

def readMoment? (cs : List Char) : Option (Except Fault (Toml × List Char)) :=
  let upTo (behind : List Char) : Toml × List Char :=
    (moment (String.ofList (cs.take (cs.length - behind.length))), behind)
  match skipDate? cs with
  | some (true, behind) => some (.ok (upTo behind))
  | some (false, _) => some (fail cs .moment)
  | none => (skipTime? cs).map fun behind => .ok (upTo behind)

end BondQuery.Toml
