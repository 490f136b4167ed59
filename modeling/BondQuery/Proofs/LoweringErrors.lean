import BondQuery.Command.Run
import BondQuery.Proofs.Rating

/- Why lowering fails: with an error that a command reports, or with one that it does not know. -/
namespace BondQuery

namespace Query

theorem error_of_keyed {kind : KeyedKind} {field : String} {clause : String → Leaf} {e : Error}
    (failed : keyed kind field clause = .error e) : e = .reservedField := by
  rcases bind_eq_error_iff.mp failed with unnamed | ⟨key, _, built⟩
  · unfold FieldKey.ofName at unnamed
    split at unnamed
    · cases unnamed
      rfl
    · split at unnamed <;> cases unnamed
  · cases key <;> cases built

theorem error_of_boostOf {weight : Number} {e : Error} (failed : boostOf weight = .error e) :
    e = .integerTooLarge := by
  unfold boostOf at failed
  split at failed
  · split at failed
    · cases failed
    · cases failed
      rfl
  · cases failed

end Query

/-- Errors of lowering that no command handles. -/
def Error.Unhandled (e : Error) : Prop :=
  e = .reservedField ∨ e = .integerTooLarge

/-- The error is one that lowering names, or one that it lets through. -/
def Error.OfLowering (e : Error) : Prop :=
  Command.isLoweringError e = true ∨ e.Unhandled

section
open Query

theorem unhandled_keyed {kind : KeyedKind} {field : String} {clause : String → Leaf} {e : Error}
    (failed : keyed kind field clause = .error e) : e.Unhandled :=
  .inl (error_of_keyed failed)

theorem unhandled_matchPhrase {field value : String} {weight : Number} {e : Error}
    (failed : matchPhrase field value weight = .error e) : e.Unhandled := by
  rcases bind_eq_error_iff.mp failed with heavy | ⟨boost, _, unkeyed⟩
  · exact .inr (error_of_boostOf heavy)
  · exact unhandled_keyed unkeyed

theorem unhandled_wildcard {field pattern : String} {weight : Number} {e : Error}
    (failed : wildcard field pattern weight = .error e) : e.Unhandled := by
  rcases bind_eq_error_iff.mp failed with heavy | ⟨boost, _, unkeyed⟩
  · exact .inr (error_of_boostOf heavy)
  · exact unhandled_keyed unkeyed

def Operator.ofProperty : Operator → Bool
  | .bbox | .intersects | .contained | .contains | .disjoint => false
  | .intersectsAnyPointNotContains | .min | .max => false
  | _ => true

/-- A bound is asked for with a text that is no value of the property. -/
def Misvalued (property : Property) (operator : Operator) (value : String) (e : Error) : Prop :=
  ∃ bound fault, Translate.boundOf? operator = some bound ∧
    Translate.valueOf property.contentType value = .error fault ∧
    e = .value property.name value fault

theorem error_of_rangeValue {property : Property} {value : String} {e : Error}
    (failed : Translate.rangeValue property value = .error e) :
    ∃ fault, Translate.valueOf property.contentType value = .error fault ∧
      e = .value property.name value fault := by
  unfold Translate.rangeValue at failed
  cases valued : Translate.valueOf property.contentType value with
  | ok stored =>
    rw [valued] at failed
    cases failed
  | error fault =>
    rw [valued] at failed
    cases failed
    exact ⟨fault, rfl, rfl⟩

theorem error_of_property {ranking : Ranking} {property : Property} {operator : Operator}
    {value : String} {e : Error}
    (failed : Translate.property ranking property operator value = .error e) :
    e.Unhandled ∨ Misvalued property operator value e ∨
      operator.ofProperty = false ∧ e = .unsupportedOperator operator property.name := by
  cases operator with
  | equal => exact .inl (unhandled_matchPhrase failed)
  | notEqual => exact .inl (unhandled_matchPhrase (map_eq_error_iff.mp failed))
  | like => exact .inl (unhandled_wildcard failed)
  | «exists» | notExists => cases failed
  | greater | greaterOrEqual | less | lessOrEqual =>
    rcases bind_eq_error_iff.mp failed with unread | ⟨stored, _, unkeyed⟩
    · obtain ⟨fault, unvalued, same⟩ := error_of_rangeValue unread
      exact .inr (.inl ⟨_, fault, rfl, unvalued, same⟩)
    · exact .inl (unhandled_keyed unkeyed)
  | _ =>
    cases failed
    exact .inr (.inr ⟨rfl, rfl⟩)

theorem error_of_spatial {property : Property} {operator : Operator} {extent : Extent}
    {e : Error} (failed : Translate.spatial property operator extent = .error e) :
    e.Unhandled ∨ Translate.relationOf? operator = none ∧ e = .unsupportedRelation operator := by
  unfold Translate.spatial at failed
  split at failed
  · exact .inl (unhandled_keyed failed)
  · rename_i unrelated
    cases failed
    exact .inr ⟨unrelated, rfl⟩

theorem not_misvalued_of_text {property : Property} {operator : Operator} {value : String}
    {e : Error} (text : property.contentType = .text) : ¬ Misvalued property operator value e := by
  intro misvalued
  obtain ⟨_, fault, _, unvalued, _⟩ := misvalued
  rw [text] at unvalued
  cases unvalued

theorem error_of_bond {settings : Settings} {property : Property} {operator : Operator}
    {value : String} {e : Error}
    (failed : lowerBond settings property operator value = .error e) :
    e.Unhandled ∨ Misvalued property operator value e ∨
      operator.ofProperty = false ∧ ∃ field, e = .unsupportedOperator operator field := by
  have part {p : Property} (text : p.contentType = .text)
      (failed : Translate.property settings.ranking p operator value = .error e) :
      e.Unhandled ∨ operator.ofProperty = false ∧ ∃ field, e = .unsupportedOperator operator field := by
    rcases error_of_property failed with unhandled | misvalued | ⟨other, same⟩
    · exact .inl unhandled
    · exact absurd misvalued (not_misvalued_of_text text)
    · exact .inr ⟨other, _, same⟩
  unfold lowerBond at failed
  split at failed
  · cases failed
  · split at failed
    · rcases bind_eq_error_iff.mp failed with first | ⟨keyword, _, later⟩
      · exact (part rfl first).imp_right .inr
      · rcases bind_eq_error_iff.mp later with second | ⟨topic, _, none⟩
        · exact (part rfl second).imp_right .inr
        · cases none
    · split at failed
      · cases failed
      · rcases error_of_property failed with unhandled | misvalued | ⟨other, same⟩
        · exact .inl unhandled
        · exact .inr (.inl misvalued)
        · exact .inr (.inr ⟨other, _, same⟩)

end

mutual

def Expression.leaves : Expression → List Expression
  | .bond property operator value => [.bond property operator value]
  | .spatial property operator extent => [.spatial property operator extent]
  | .logical _ operands => Expression.leavesOfAll operands

def Expression.leavesOfAll : List Expression → List Expression
  | [] => []
  | e :: rest => e.leaves ++ Expression.leavesOfAll rest

end

theorem Expression.leavesOfAll_eq_flatMap (es : List Expression) :
    Expression.leavesOfAll es = es.flatMap Expression.leaves := by
  induction es with
  | nil => rfl
  | cons e rest ih => rw [Expression.leavesOfAll, ih, List.flatMap_cons]

theorem Expression.mem_leaves_logical {connective : Connective} {operands : List Expression}
    {leaf : Expression} :
    leaf ∈ (Expression.logical connective operands).leaves ↔ ∃ e ∈ operands, leaf ∈ e.leaves := by
  rw [Expression.leaves, Expression.leavesOfAll_eq_flatMap, List.mem_flatMap]

theorem exists_leaf_of_error {settings : Settings} {expression : Expression} {e : Error}
    (failed : lower settings expression = .error e) :
    ∃ leaf ∈ expression.leaves, lower settings leaf = .error e := by
  induction expression with
  | bond property operator value => exact ⟨_, List.mem_singleton_self _, failed⟩
  | spatial property operator extent => exact ⟨_, List.mem_singleton_self _, failed⟩
  | logical connective operands each =>
    rw [lower, lowerAll_eq_mapM] at failed
    obtain ⟨operand, member, wrong⟩ := exists_error_of_mapM (map_eq_error_iff.mp failed)
    obtain ⟨leaf, inside, alone⟩ := each operand member wrong
    exact ⟨leaf, Expression.mem_leaves_logical.mpr ⟨operand, member, inside⟩, alone⟩

theorem leaf_cases {expression leaf : Expression} (member : leaf ∈ expression.leaves) :
    (∃ property operator value, leaf = .bond property operator value) ∨
      ∃ property operator extent, leaf = .spatial property operator extent := by
  induction expression with
  | bond property operator value => exact .inl ⟨_, _, _, List.mem_singleton.mp member⟩
  | spatial property operator extent => exact .inr ⟨_, _, _, List.mem_singleton.mp member⟩
  | logical connective operands each =>
    obtain ⟨operand, inside, deeper⟩ := Expression.mem_leaves_logical.mp member
    exact each operand inside deeper

/-- Lowering fails with an error of its own, on the reserved field, or on a weight that is no
    boost. -/
theorem ofLowering_lower {settings : Settings} {expression : Expression} {e : Error}
    (failed : lower settings expression = .error e) : e.OfLowering := by
  obtain ⟨leaf, inside, alone⟩ := exists_leaf_of_error failed
  rcases leaf_cases inside with ⟨property, operator, value, rfl⟩ | ⟨property, operator, extent, rfl⟩
  · rw [lower] at alone
    rcases error_of_bond alone with unhandled | ⟨_, _, _, _, rfl⟩ | ⟨_, _, rfl⟩
    · exact .inr unhandled
    · exact .inl rfl
    · exact .inl rfl
  · rw [lower] at alone
    rcases error_of_spatial alone with unhandled | ⟨_, rfl⟩
    · exact .inr unhandled
    · exact .inl rfl

end BondQuery
