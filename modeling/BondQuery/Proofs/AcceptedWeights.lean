import BondQuery.Config.Basic
import BondQuery.Proofs.Outcome
import BondQuery.Proofs.WholeBoosts

/- Which weights are accepted. The configuration and the ranking refuse a weight that is below one;
   what is no number is below nothing, so both let it through. -/
namespace BondQuery

/-- The number is one or more. What is no number is not. -/
def Number.AtLeastOne : Number → Prop
  | double .nan => False
  | double (.infinite negative) => negative = false
  | weight => 1 ≤ weight.value

def Accepted (weights : List (String × Number)) : Prop :=
  ∀ entry ∈ weights, entry.2 = .double .nan ∨ entry.2.AtLeastOne

theorem Double.isBelowOne_finite_iff {negative : Bool} {m : Magnitude} :
    (finite negative m).isBelowOne = false ↔ 1 ≤ (finite negative m).value := by
  have positive := Magnitude.unitsPerOne_pos
  simp only [isBelowOne, value]
  -- the units of one are never evaluated
  generalize Magnitude.unitsPerOne = one at positive ⊢
  have positive' : (0 : ℚ) < one := Nat.cast_pos.mpr positive
  have reached : one ≤ m.units ↔ (1 : ℚ) ≤ m.units / one := by
    rw [one_le_div positive', Nat.cast_le]
  cases negative with
  | false => simp [← reached]
  | true =>
    have least : (0 : ℚ) ≤ m.units / one := by positivity
    rw [Bool.true_or, if_pos rfl, neg_one_mul]
    exact iff_of_false Bool.noConfusion (by linarith)

theorem Number.isBelowOne_eq_false_iff {weight : Number} :
    weight.isBelowOne = false ↔ weight = .double .nan ∨ weight.AtLeastOne := by
  cases weight with
  | int n =>
    have reached : (1 : ℚ) ≤ n ↔ 1 ≤ n := by exact_mod_cast Iff.rfl
    simp [isBelowOne, AtLeastOne, value, reached]
  | double x =>
    cases x with
    | nan => exact iff_of_true rfl (.inl rfl)
    | infinite negative => simp [isBelowOne, Double.isBelowOne, AtLeastOne]
    | finite negative m =>
      simp only [isBelowOne, Double.isBelowOne_finite_iff, AtLeastOne, value, Number.double.injEq,
        reduceCtorEq, false_or]

theorem accepted_cons_iff {name : String} {weight : Number} {rest : List (String × Number)} :
    Accepted ((name, weight) :: rest) ↔ weight.isBelowOne = false ∧ Accepted rest := by
  rw [Accepted, List.forall_mem_cons, Number.isBelowOne_eq_false_iff]
  rfl

theorem checkWeights_eq_ok_iff {weights : List (String × Number)} :
    Ranking.checkWeights weights = .ok () ↔ Accepted weights := by
  induction weights with
  | nil => exact iff_of_true rfl nofun
  | cons weighed rest ih =>
    obtain ⟨name, weight⟩ := weighed
    rw [accepted_cons_iff, ← ih, Ranking.checkWeights]
    cases below : weight.isBelowOne with
    | false => simp
    | true => cases written : weight.text? <;> simp

theorem Ranking.ofWeights_eq_ok_iff {weights : List (String × Number)} {ranking : Ranking} :
    ofWeights weights = .ok ranking ↔ Accepted weights ∧ ⟨weights⟩ = ranking := by
  rw [← checkWeights_eq_ok_iff, ofWeights, bind_eq_ok_iff]
  simp only [pure, Except.pure, Except.ok.injEq, exists_and_right]
  exact and_congr_left fun _ => ⟨fun ⟨_, passed⟩ => passed, fun passed => ⟨_, passed⟩⟩

theorem Config.validate_eq_ok_iff {config : Config} {warnings : List String} :
    config.validate = .ok warnings ↔ Accepted config.weights ∧ config.warnings = warnings := by
  have allAccepted : config.weights.find? (·.2.isBelowOne) = none ↔ Accepted config.weights := by
    rw [List.find?_eq_none]
    simp only [Bool.not_eq_true, Number.isBelowOne_eq_false_iff]
    rfl
  rw [← allAccepted, validate]
  cases config.weights.find? (·.2.isBelowOne) <;> simp

end BondQuery
