import BondQuery.Proofs.AssemblySteps
import BondQuery.Proofs.LoweringErrors

/- Where lowering fails. An expression fails as the row of its predicates does, each lowered alone:
   with the error of the first that fails, whatever connectives stand above it. -/
namespace BondQuery
variable {α : Type}

/-- Whether and how a step fails, without its answer. -/
def verdict (step : Except Error α) : Except Error Unit :=
  step.map fun _ => ()

theorem verdict_eq_error_iff {step : Except Error α} {error : Error} :
    verdict step = .error error ↔ step = .error error :=
  map_eq_error_iff

theorem verdict_eq_ok_iff {step : Except Error α} :
    verdict step = .ok () ↔ ∃ a, step = .ok a := by
  simp [verdict, map_eq_ok_iff]

theorem verdict_map {β : Type} (f : α → β) (step : Except Error α) :
    verdict (step.map f) = verdict step := by
  cases step <;> rfl

theorem verdict_mapM {β : Type} (f : α → Except Error β) (xs : List α) :
    verdict (xs.mapM f) = forM xs fun x => verdict (f x) := by
  induction xs with
  | nil => rfl
  | cons x rest ih =>
    rw [List.mapM_cons, List.forM_cons, ← ih]
    cases f x with
    | error fault => rfl
    | ok y => cases rest.mapM f <;> rfl

theorem verdict_lower (settings : Settings) (e : Expression) :
    verdict (lower settings e) = forM e.leaves fun leaf => verdict (lower settings leaf) := by
  have single (step : Except Error Unit) : (do step; pure ()) = step := by
    cases step <;> rfl
  induction e with
  | bond | spatial => rw [Expression.leaves, List.forM_cons, List.forM_nil, single]
  | logical connective operands each =>
    calc verdict (lower settings (.logical connective operands))
        = verdict (operands.mapM (lower settings)) := by
          rw [lower, lowerAll_eq_mapM, verdict_map]
      _ = forM operands fun operand => verdict (lower settings operand) := verdict_mapM _ _
      _ = forM operands fun operand =>
            forM operand.leaves fun leaf => verdict (lower settings leaf) := forM_congr each
      _ = forM (Expression.logical connective operands).leaves fun leaf =>
            verdict (lower settings leaf) := by
          rw [Expression.leaves, Expression.leavesOfAll_eq_flatMap, forM_flatMap]

theorem exists_lower_iff {settings : Settings} {e : Expression} :
    (∃ q, lower settings e = .ok q) ↔ ∀ leaf ∈ e.leaves, ∃ q, lower settings leaf = .ok q := by
  simp only [← verdict_eq_ok_iff, verdict_lower settings e, forM_eq_ok_iff]

theorem lower_eq_error_iff {settings : Settings} {e : Expression} {error : Error} :
    lower settings e = .error error ↔
      ∃ before leaf after, e.leaves = before ++ leaf :: after ∧
        (∀ earlier ∈ before, ∃ q, lower settings earlier = .ok q) ∧
        lower settings leaf = .error error := by
  rw [← verdict_eq_error_iff, verdict_lower, forM_eq_error_iff]
  simp only [verdict_eq_ok_iff, verdict_eq_error_iff]

namespace Session

theorem run_lower (engine : Engine) (s : Session) (e : Expression) (ops more : List Operation) :
    run engine s (ops ++ .lower e :: more) =
      ((run engine s ops).1 ++ (lower engine.settings e).map .query ::
          (run engine (run engine s ops).2 more).1,
        (run engine s (ops ++ more)).2) := by
  rw [run_append, run_append]
  rfl

/-- Lowering an expression succeeds exactly if each of its predicates can be lowered alone, and
    otherwise fails as the first one that cannot: expressions with the same predicates in the same
    order fail alike, whatever their connectives. In a session it is answered the same in every
    state, leaves that state, and changes no other answer. -/
theorem lowering_fails_with_first_leaf (engine : Engine) (e : Expression) :
    ((∃ q, lower engine.settings e = .ok q) ↔
      ∀ leaf ∈ e.leaves, ∃ q, lower engine.settings leaf = .ok q) ∧
    (∀ error, lower engine.settings e = .error error ↔
      ∃ before leaf after, e.leaves = before ++ leaf :: after ∧
        (∀ earlier ∈ before, ∃ q, lower engine.settings earlier = .ok q) ∧
        lower engine.settings leaf = .error error) ∧
    (∀ other : Expression, other.leaves = e.leaves →
      verdict (lower engine.settings other) = verdict (lower engine.settings e)) ∧
    ∀ (s : Session) (ops more : List Operation),
      s.step engine (.lower e) = ((lower engine.settings e).map .query, s) ∧
      run engine s (ops ++ .lower e :: more) =
        ((run engine s ops).1 ++ (lower engine.settings e).map .query ::
            (run engine (run engine s ops).2 more).1,
          (run engine s (ops ++ more)).2) := by
  refine ⟨exists_lower_iff, fun error => lower_eq_error_iff, ?_, ?_⟩
  · intro other same
    rw [verdict_lower, verdict_lower, same]
  · intro s ops more
    exact ⟨rfl, run_lower engine s e ops more⟩

/- A quality that is no number stands before a relation that is not supported. -/
def faulty (outer inner : Connective) : Expression :=
  .logical outer [.bond ⟨"title", .text⟩ .equal "sea",
    .logical inner [.bond .metadataQuality .greater "high"],
    .spatial .boundingBox .intersectsAnyPointNotContains ⟨.int 0, .int 0, .int 1, .int 1⟩]

theorem first_fault_reported :
    (faulty .and .not).leaves = (faulty .or .and).leaves ∧
      lower .standard (faulty .and .not) =
        .error (.value "metadataQuality" "high" (.noInteger "high")) ∧
      verdict (lower .standard (faulty .and .not)) = verdict (lower .standard (faulty .or .and)) ∧
      (run ⟨.standard, none⟩ .start
          [.openGroup .must, .lower (faulty .or .and), .append (.phrase "title" "sea")]).2 =
        (run ⟨.standard, none⟩ .start [.openGroup .must, .append (.phrase "title" "sea")]).2 := by
  have alone : lower .standard (.bond .metadataQuality .greater "high") =
      .error (.value "metadataQuality" "high" (.noInteger "high")) := by with_unfolding_all rfl
  obtain ⟨_, fails, _, _⟩ := lowering_fails_with_first_leaf ⟨.standard, none⟩ (faulty .and .not)
  obtain ⟨_, _, alike, steps⟩ := lowering_fails_with_first_leaf ⟨.standard, none⟩ (faulty .or .and)
  refine ⟨rfl, ?_, alike (faulty .and .not) rfl, ?_⟩
  · apply (fails _).mpr
    refine ⟨[.bond ⟨"title", .text⟩ .equal "sea"], _, _, rfl, ?_, alone⟩
    intro earlier member
    obtain rfl := List.mem_singleton.mp member
    exact ⟨_, rfl⟩
  · obtain ⟨_, left⟩ := steps .start [.openGroup .must] [.append (.phrase "title" "sea")]
    exact congrArg (·.2) left

end Session

end BondQuery
