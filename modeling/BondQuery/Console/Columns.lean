/- Sharing a width among columns that are too wide together: the widest are narrowed first, down to
   the next. -/
namespace BondQuery.Console

def total (widths : List Nat) : Nat :=
  widths.foldl (· + ·) 0

def nearest (n d : Nat) : Nat :=
  let quotient := n / d
  match compare (2 * (n % d)) d with
  | .lt => quotient
  | .gt => quotient + 1
  | .eq => quotient + quotient % 2

/-- Takes an excess from the columns chosen, evenly and from the left, from none more than a
    limit. The number counts the columns still to come. -/
def takeEvenly (most excess chosen : Nat) : List (Nat × Bool) → List Nat
  | [] => []
  | (width, true) :: rest =>
    let taken := min most (nearest excess chosen)
    (width - taken) :: takeEvenly most (excess - taken) (chosen - 1) rest
  | (width, false) :: rest => width :: takeEvenly most excess chosen rest

def narrowWidest (excess : Nat) (widths : List Nat) : List Nat :=
  let widest := widths.foldl max 0
  let second := (widths.filter (· != widest)).foldl max 0
  takeEvenly (min excess (widest - second)) excess (widths.count widest)
    (widths.map fun w => (w, w == widest))

def narrow (fuel limit : Nat) (widths : List Nat) : List Nat :=
  match fuel with
  | 0 => widths
  | fuel + 1 =>
    if total widths ≤ limit then widths
    else narrow fuel limit (narrowWidest (total widths - limit) widths)

def fitColumns (limit : Nat) (widths : List Nat) : List Nat :=
  -- each round takes something away, so there are no more of them than columns in all
  narrow (total widths) limit widths

end BondQuery.Console
