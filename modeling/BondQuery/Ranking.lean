import BondQuery.Error
import BondQuery.Number.Basic

/- Weights of properties. A quality level is weighed in proportion to its dimension. -/
namespace BondQuery

def topLevel : Nat := 5

structure Ranking where
  weights : List (String × Number)
  deriving DecidableEq, Repr

namespace Ranking

def neutral : Ranking :=
  ⟨[]⟩

def checkWeights : List (String × Number) → Except Error Unit
  | [] => .ok ()
  | (name, weight) :: rest =>
    if weight.isBelowOne then
      match weight.text? with
      | some text => .error (.lowWeight name text)
      | none => .error .integerTooLong
    else checkWeights rest

def ofWeights (weights : List (String × Number)) : Except Error Ranking := do
  checkWeights weights
  return ⟨weights⟩

def weight (ranking : Ranking) (name : String) : Number :=
  (ranking.weights.lookup name).getD (.int 1)

def levelWeight (ranking : Ranking) (dimension : String) (level : Nat) : Number :=
  (ranking.weight dimension).scale level

def levelWeight? (ranking : Ranking) (dimension : String) (level : Int) : Except Error Number :=
  if 1 ≤ level ∧ level ≤ topLevel then .ok (ranking.levelWeight dimension level.toNat)
  else .error (.levelOutOfRange level)

end Ranking

end BondQuery
