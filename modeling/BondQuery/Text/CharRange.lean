/- Sets of characters given as ranges of code points, both ends included. -/
namespace BondQuery.Text

abbrev CharRange := Nat × Nat

def inRanges (ranges : List CharRange) (c : Char) : Bool :=
  ranges.any fun r => r.1 ≤ c.toNat && c.toNat ≤ r.2

end BondQuery.Text
