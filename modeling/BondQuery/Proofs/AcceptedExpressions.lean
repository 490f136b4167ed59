import BondQuery.Proofs.LoweringErrors
import BondQuery.Proofs.Openings
import BondQuery.Proofs.Printing
import BondQuery.Proofs.QuotedValues

/- The expressions that texts are read as. They are exactly those that have a written form, so
   lowering knows every operator in them, and only a value can be wrong. -/
namespace BondQuery.Syntax
open Text

variable {place : Place} {cs rest name : List Char} {t : Token} {ts : List Token}
  {e : Expression}

/- The tokens of an accepted text are sound. -/

/-- A relation begins with a gap or a symbol: a word would have been a part of the name. -/
theorem boundary_of_relation (stops : Stops isFieldChar rest) (lexes : Lexes .relation rest (t :: ts)) :
    atBoundary rest = true := by
  obtain _ | @⟨_, gap, _, _, _, blank, fits, _⟩ := lexes
  cases gap with
  | cons c gap => exact (parted_append (by simp) blank).boundary
  | nil =>
    cases t with
    | comparison c => cases c <;> rfl
    | existence x =>
      cases x
      · exact absurd (stops_cons.mp stops) (by decide)
      · exact absurd (stops_cons.mp stops) (by decide)
    | _ => cases fits

theorem freeName_of_fits (fits : Fits .operand (.field name) rest)
    (boundary : atBoundary rest = true) : FreeName name := by
  obtain ⟨pattern, _, other, none⟩ := fits
  refine ⟨pattern, other, ?_⟩
  intro begins
  obtain ⟨word, after, rfl, ends⟩ := begins
  refine none ⟨word, after ++ rest, List.append_assoc _ _ _, ?_⟩
  cases after with
  | nil => exact boundary
  | cons c after => exact ends

theorem place_of_field (fits : Fits place.context (.field name) rest) : place = .operand := by
  cases place with
  | operand => rfl
  | separator read =>
    simp only [Place.context] at fits
    split at fits <;> cases fits
  | _ => cases fits

theorem sound_of_fits (fits : Fits place.context t rest) (behind : Lexes (place.next t) rest ts)
    (ended : (place.next t).after ts = .connective) : t.Sound := by
  cases t with
  | field name =>
    obtain rfl := place_of_field fits
    cases ts with
    | nil => cases ended
    | cons u us => exact freeName_of_fits fits (boundary_of_relation fits.2.1 behind)
  | quotedValue inner =>
    generalize place.context = context at fits
    cases context with
    | value => exact fits
    | _ => cases fits
  | bareValue text =>
    generalize place.context = context at fits
    cases context with
    | value => exact ⟨fits.1, fits.2.1⟩
    | _ => cases fits
  | number text => exact fits.numeral
  | _ => trivial

theorem sound_of_lexes (lexes : Lexes place cs ts) (ended : place.after ts = .connective) :
    ∀ t ∈ ts, t.Sound := by
  induction lexes with
  | done => simp
  | token _ fits behind ih =>
    exact List.forall_mem_cons.mpr ⟨sound_of_fits fits behind ended, ih ended⟩

/- Sound tokens of a derivation denote an expression with a written form. -/

theorem Value.oneLine {value : List Char} (written : Value t value) (sound : t.Sound) :
    '\n' ∉ value := by
  intro member
  cases written with
  | quoted inner => exact oneLine_of_quotable sound (mem_of_unescape member)
  | bare text => exact absurd (sound.2 _ member) (by decide)

theorem FreeName.writable (free : FreeName name) : Writable (propertyOf (String.ofList name)) := by
  refine ⟨rfl, ?_⟩
  rw [propertyOf, String.toList_ofList]
  exact free

theorem printable_of_chain {connective : Connective} (joins : connective ≠ .not)
    {es : List Expression} (nonempty : es ≠ []) (each : ∀ e ∈ es, Printable e) :
    Printable (chain connective es) := by
  match es with
  | [] => exact absurd rfl nonempty
  | [e] => exact each e List.mem_cons_self
  | _ :: _ :: _ => exact .chain joins (by simp) each

theorem Conjuncts.ne_nil {es : List Expression} (conjuncts : Conjuncts ts es) : es ≠ [] := by
  cases conjuncts <;> simp

theorem Alternatives.ne_nil {es : List Expression} (alternatives : Alternatives ts es) :
    es ≠ [] := by
  cases alternatives <;> simp

mutual

theorem printable_of_atom {ts : List Token} {e : Expression} (sound : ∀ t ∈ ts, t.Sound) :
    Atom ts e → Printable e
  | .parentheses inner => by
    have inside := printable_of_alternatives (fun t member => sound t (by simp [member])) inner
    exact printable_of_chain (by decide) inner.ne_nil inside
  | .comparison name asks written => by
    have free : FreeName name := sound (.field name) (by simp)
    have oneLine := written.oneLine (sound _ (by simp))
    exact .comparison free.writable (List.mem_map_of_mem asks) (by simpa using oneLine)
  | .existence name asks =>
    have free : FreeName name := sound (.field name) (by simp)
    .existence free.writable (List.mem_map_of_mem asks)
  | .spatial asks west south east north => .spatial (List.mem_map_of_mem asks) west south east north

theorem printable_of_operand {ts : List Token} {e : Expression} (sound : ∀ t ∈ ts, t.Sound) :
    Operand ts e → Printable e
  | .atom atom => printable_of_atom sound atom
  | .negation operand =>
    .negation (printable_of_operand (fun t member => sound t (List.mem_cons_of_mem _ member)) operand)

theorem printable_of_conjuncts {ts : List Token} {es : List Expression}
    (sound : ∀ t ∈ ts, t.Sound) : Conjuncts ts es → ∀ e ∈ es, Printable e
  | .one operand => List.forall_mem_singleton.mpr (printable_of_operand sound operand)
  | .more conjuncts operand => by
    have earlier := printable_of_conjuncts (fun t member => sound t (by simp [member])) conjuncts
    have last := printable_of_operand (fun t member => sound t (by simp [member])) operand
    exact List.forall_mem_append.mpr ⟨earlier, List.forall_mem_singleton.mpr last⟩

theorem printable_of_alternatives {ts : List Token} {es : List Expression}
    (sound : ∀ t ∈ ts, t.Sound) : Alternatives ts es → ∀ e ∈ es, Printable e
  | .one conjuncts => by
    have each := printable_of_conjuncts sound conjuncts
    exact List.forall_mem_singleton.mpr (printable_of_chain (by decide) conjuncts.ne_nil each)
  | .more before conjuncts => by
    have earlier := printable_of_alternatives (fun t member => sound t (by simp [member])) before
    have each := printable_of_conjuncts (fun t member => sound t (by simp [member])) conjuncts
    have last : Printable (chain .and _) := printable_of_chain (by decide) conjuncts.ne_nil each
    exact List.forall_mem_append.mpr ⟨earlier, List.forall_mem_singleton.mpr last⟩

end

theorem printable_of_parse {text : String} (parsed : parse text = .ok e) : Printable e := by
  obtain ⟨ts, lexes, derived⟩ := derives_of_parse parsed
  obtain ⟨es, alternatives, rfl⟩ := derived
  have sound := sound_of_lexes lexes (Derives.place_after ⟨es, alternatives, rfl⟩)
  have each := printable_of_alternatives sound alternatives
  exact printable_of_chain (by decide) alternatives.ne_nil each

theorem printable_iff_parsed : Printable e ↔ ∃ text, parse text = .ok e := by
  constructor
  · intro printable
    obtain ⟨ts, prints⟩ := exists_prints printable
    have derived := derives_of_prints printable prints
    refine ⟨String.ofList (spell (fun _ => ' ') ts),
      parse_of_spaced derived (sound_of_prints printable prints) ?_⟩
    rw [String.toList_ofList]
    exact spaced_spell (fun _ => rfl) derived.ne_nil
  · intro accepted
    obtain ⟨text, parsed⟩ := accepted
    exact printable_of_parse parsed

theorem Printable.leaf {part : Expression} (printable : Printable e) (inside : part ∈ e.leaves) :
    Printable part := by
  induction e with
  | bond | spatial =>
    obtain rfl := List.mem_singleton.mp inside
    exact printable
  | logical connective operands each =>
    obtain ⟨operand, member, deeper⟩ := Expression.mem_leaves_logical.mp inside
    exact each operand member (printable.operands operand member) deeper

end BondQuery.Syntax

namespace BondQuery
open Syntax

variable {settings : Settings} {e : Expression} {error : Error}

theorem ofProperty_of_printable {property : Property} {operator : Operator} {value : String}
    (printable : Printable (.bond property operator value)) : operator.ofProperty = true := by
  have known : ∀ operator ∈ comparisons.map (·.2) ++ existences.map (·.2),
      operator.ofProperty = true := by decide
  cases printable with
  | comparison _ compares _ => exact known operator (List.mem_append_left _ compares)
  | existence _ states => exact known operator (List.mem_append_right _ states)

theorem related_of_printable {property : Property} {operator : Operator} {extent : Extent}
    (printable : Printable (.spatial property operator extent)) :
    Translate.relationOf? operator ≠ none := by
  have known : ∀ operator ∈ relations.map (·.2), Translate.relationOf? operator ≠ none := by decide
  cases printable with
  | spatial relates => exact known operator relates

theorem error_of_printable (printable : Printable e) (failed : lower settings e = .error error) :
    error.Unhandled ∨ ∃ property operator value, .bond property operator value ∈ e.leaves ∧
      Misvalued property operator value error := by
  obtain ⟨leaf, inside, alone⟩ := exists_leaf_of_error failed
  have written := printable.leaf inside
  rcases leaf_cases inside with ⟨property, operator, value, rfl⟩ | ⟨property, operator, extent, rfl⟩
  · rw [lower] at alone
    rcases error_of_bond alone with unhandled | misvalued | ⟨other, _⟩
    · exact .inl unhandled
    · exact .inr ⟨property, operator, value, inside, misvalued⟩
    · rw [ofProperty_of_printable written] at other
      cases other
  · rw [lower] at alone
    rcases error_of_spatial alone with unhandled | ⟨unrelated, _⟩
    · exact .inl unhandled
    · exact absurd unrelated (related_of_printable written)

theorem Misvalued.bound {property : Property} {operator : Operator} {value : String}
    (misvalued : Misvalued property operator value error) :
    operator ∈ [.greater, .greaterOrEqual, .less, .lessOrEqual] ∧
      property.contentType ∈ [.integer, .long, .double, .date, .dateTime] ∧
      ∃ fault, Translate.valueOf property.contentType value = .error fault ∧
        error = .value property.name value fault := by
  obtain ⟨bound, fault, bounded, unvalued, same⟩ := misvalued
  refine ⟨?_, ?_, fault, unvalued, same⟩
  · cases operator with
    | greater | greaterOrEqual | less | lessOrEqual => simp
    | _ => cases bounded
  · generalize property.contentType = type at unvalued
    cases type with
    | text | boolean => cases unvalued
    | _ => simp

/-- An accepted text has a written form: a conjunction or a disjunction has two operands or more
    and a negation one, and each predicate has one of the operators that can be written. Lowering
    it fails with no unsupported operator or relation, and of the errors that lowering names only
    with a bound that is no value of its numeric or date property. -/
theorem accepted_texts_fail_by_value_alone {text : String} (parsed : parse text = .ok e)
    (settings : Settings) :
    Printable e ∧
    ∀ error, lower settings e = .error error →
      (∀ operator field, error ≠ .unsupportedOperator operator field) ∧
      (∀ operator, error ≠ .unsupportedRelation operator) ∧
      (Command.isLoweringError error = true →
        ∃ property operator value fault, .bond property operator value ∈ e.leaves ∧
          operator ∈ [.greater, .greaterOrEqual, .less, .lessOrEqual] ∧
          property.contentType ∈ [.integer, .long, .double, .date, .dateTime] ∧
          Translate.valueOf property.contentType value = .error fault ∧
          error = .value property.name value fault) := by
  have printable := printable_of_parse parsed
  refine ⟨printable, ?_⟩
  intro error failed
  rcases error_of_printable printable failed with unhandled | ⟨property, operator, value, inside, wrong⟩
  · rcases unhandled with rfl | rfl
    · exact ⟨nofun, nofun, nofun⟩
    · exact ⟨nofun, nofun, nofun⟩
  · obtain ⟨bound, typed, fault, unvalued, rfl⟩ := wrong.bound
    exact ⟨nofun, nofun, fun _ => ⟨property, operator, value, fault, inside, bound, typed, unvalued, rfl⟩⟩

def worded : String :=
  "NOT (metadataQuality > high) AND title EXISTS"

def wordedExpression : Expression :=
  .logical .and [.logical .not [.bond .metadataQuality .greater "high"],
    .bond ⟨"title", .text⟩ .exists ""]

theorem high_quality_is_no_integer :
    parse worded = .ok wordedExpression ∧
      lower .standard wordedExpression =
        .error (.value "metadataQuality" "high" (.noInteger "high")) ∧
      Printable wordedExpression ∧
      ∃ property operator value fault, .bond property operator value ∈ wordedExpression.leaves ∧
        operator ∈ [.greater, .greaterOrEqual, .less, .lessOrEqual] ∧
        property.contentType ∈ [.integer, .long, .double, .date, .dateTime] ∧
        Translate.valueOf property.contentType value = .error fault ∧
        Error.value "metadataQuality" "high" (.noInteger "high") =
          .value property.name value fault := by
  have parsed : parse worded = .ok wordedExpression := by with_unfolding_all rfl
  have failed : lower .standard wordedExpression =
      .error (.value "metadataQuality" "high" (.noInteger "high")) := by with_unfolding_all rfl
  obtain ⟨printable, errors⟩ := accepted_texts_fail_by_value_alone parsed .standard
  exact ⟨parsed, failed, printable, (errors _ failed).2.2 rfl⟩

end BondQuery
