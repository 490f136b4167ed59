import Mathlib.Data.List.Infix
import BondQuery.Probe
import BondQuery.Proofs.Filtering

/- The field a clause asks of. Most clauses take their field as a key, in which two underscores
   become a point, so they keep the name of their property only if it has none. A clause that
   asks for existence takes its field as a value and keeps any name. -/
namespace BondQuery
open Query

variable {name other value : String} {cs : List Char} {key : FieldKey} {kind : KeyedKind}
  {clause : String → Leaf} {wrap : Query → Query} {q : Query} {ranking : Ranking}
  {type : ContentType} {operator : Operator}

/- Names as keys. -/

/-- No two underscores in a row. -/
def Spared (name : String) : Prop :=
  ¬ ['_', '_'] <:+: name.toList

instance decidableSpared (name : String) : Decidable (Spared name) :=
  inferInstanceAs (Decidable (¬ ['_', '_'] <:+: name.toList))

theorem pair_infix_cons_iff {c : Char} :
    ['_', '_'] <:+: c :: cs ↔ (c = '_' ∧ cs.head? = some '_') ∨ ['_', '_'] <:+: cs := by
  have second : ['_'] <+: cs ↔ cs.head? = some '_' := by
    cases cs with
    | nil => simp
    | cons d rest => simpa using eq_comm
  rw [List.infix_cons_iff, List.cons_prefix_cons, second, eq_comm]

theorem not_pair_at {c : Char} (other : ∀ rest, c = '_' → cs = '_' :: rest → False) :
    ¬ (c = '_' ∧ cs.head? = some '_') := by
  intro pair
  obtain ⟨first, second⟩ := pair
  obtain ⟨rest, same⟩ := List.head?_eq_some_iff.mp second
  exact other rest first same

theorem dotted_eq_self_iff : dotted cs = cs ↔ ¬ ['_', '_'] <:+: cs := by
  fun_induction dotted cs with
  | case1 rest ih => simp [pair_infix_cons_iff]
  | case2 c rest other ih => simp [pair_infix_cons_iff, not_pair_at other, ih]
  | case3 => simp

theorem head_dotted (line : (dotted cs).head? = some '_') : cs.head? = some '_' := by
  fun_induction dotted cs with
  | case1 | case3 => cases line
  | case2 => exact line

theorem spared_dotted (cs : List Char) : ¬ ['_', '_'] <:+: dotted cs := by
  fun_induction dotted cs with
  | case1 rest ih => simp [pair_infix_cons_iff, ih]
  | case2 c rest other ih =>
    rw [pair_infix_cons_iff]
    intro pair
    rcases pair with ⟨first, second⟩ | inside
    · exact not_pair_at other ⟨first, head_dotted second⟩
    · exact ih inside
  | case3 => simp

theorem expand_not_spared : ¬ Spared "_expand__to_dot" := by decide

def FieldKey.field? : FieldKey → Option String
  | field name => some name
  | absent => none

theorem field?_of_ofName (found : FieldKey.ofName name = .ok key) :
    key.field? = some name ↔ Spared name := by
  unfold FieldKey.ofName at found
  split at found
  · cases found
  · split at found
    · rename_i expand
      cases found
      exact iff_of_false nofun (expand ▸ expand_not_spared)
    · cases found
      rw [Spared, ← dotted_eq_self_iff, FieldKey.field?, Option.some.injEq]
      constructor
      · intro same
        rw [← String.toList_inj, String.toList_ofList] at same
        exact same
      · intro same
        rw [same, String.ofList_toList]

theorem exists_ofName_iff : (∃ key, FieldKey.ofName name = .ok key) ↔ name ≠ "self" := by
  unfold FieldKey.ofName
  by_cases reserved : name = "self"
  · simp [reserved]
  · rw [if_neg reserved]
    refine iff_of_true ?_ reserved
    split <;> exact ⟨_, rfl⟩

theorem point_mem_dotted (changed : dotted cs ≠ cs) : '.' ∈ dotted cs := by
  fun_induction dotted cs with
  | case1 => exact List.mem_cons_self
  | case2 c rest _ ih => exact List.mem_cons_of_mem c (ih (by simpa using changed))
  | case3 => exact absurd rfl changed

theorem exists_same_key (paired : ¬ Spared name) (ordinary : name ≠ "_expand__to_dot") :
    ∃ other, other ≠ name ∧ FieldKey.ofName other = FieldKey.ofName name := by
  have changed : dotted name.toList ≠ name.toList := mt dotted_eq_self_iff.mp paired
  have free : name ≠ "self" := by
    intro reserved
    exact paired (by rw [reserved]; decide)
  obtain ⟨other, spelled⟩ : ∃ other : String, other.toList = dotted name.toList :=
    ⟨String.ofList _, String.toList_ofList⟩
  have otherFree : other ≠ "self" := by
    intro reserved
    have point := point_mem_dotted changed
    rw [← spelled, reserved] at point
    exact absurd point (by decide)
  have otherKeyed : other ≠ "_expand__to_dot" := by
    intro same
    apply expand_not_spared
    rw [← same, Spared, spelled]
    exact spared_dotted _
  refine ⟨other, ?_, ?_⟩
  · intro same
    apply changed
    rw [← spelled, same]
  · unfold FieldKey.ofName
    rw [if_neg free, if_neg ordinary, if_neg otherFree, if_neg otherKeyed, spelled,
      dotted_eq_self_iff.mpr (spared_dotted _)]

/- Clauses with a key. -/

def Leaf.field? : Leaf → Option String
  | matchPhrase field _ _ => some field
  | wildcard field _ _ => some field
  | range field _ _ => some field
  | .exists field => some field
  | term field _ => some field
  | terms field _ => some field
  | geoShape field _ _ => some field
  | bodyless _ => none

/-- The field of a clause, or of the one that it negates. -/
def Query.about? : Query → Option String
  | leaf clause => clause.field?
  | bool [] [] [leaf clause] [] false => clause.field?
  | _ => none

theorem eq_of_about (first : q.about? = some name) (second : q.about? = some other) :
    name = other := by
  rw [first] at second
  exact Option.some.inj second

/-- A clause whose key is its field. -/
def Keyed (clause : String → Leaf) : Prop :=
  ∀ field, (clause field).field? = some field

/-- A clause is wrapped in nothing but a negation. -/
def Transparent (wrap : Query → Query) : Prop :=
  ∀ clause, (wrap (leaf clause)).about? = clause.field?

theorem transparent_id : Transparent id := by
  intro clause
  rfl

theorem transparent_negate : Transparent negate := by
  intro clause
  rfl

theorem exists_keyed_iff :
    (∃ q, (keyed kind name clause).map wrap = .ok q) ↔ name ≠ "self" := by
  rw [← exists_ofName_iff]
  unfold Query.keyed
  cases FieldKey.ofName name with
  | error => simp [bind, Except.bind, Except.map]
  | ok key => cases key <;> simp [bind, Except.bind, Except.map, pure, Except.pure]

theorem about_of_keyed (named : Keyed clause) (plain : Transparent wrap)
    (built : (keyed kind name clause).map wrap = .ok q) : q.about? = some name ↔ Spared name := by
  obtain ⟨inner, found, rfl⟩ := map_eq_ok_iff.mp built
  obtain ⟨key, unique, made⟩ := bind_eq_ok_iff.mp found
  rw [← field?_of_ofName unique]
  cases key with
  | field field =>
    cases made
    rw [plain, named]
    rfl
  | absent =>
    cases made
    rw [plain]
    rfl

theorem keyed_of_same_key (same : FieldKey.ofName other = FieldKey.ofName name) :
    keyed kind other clause = keyed kind name clause := by
  unfold Query.keyed
  rw [same]

/- Predicates over properties. -/

def Operator.asksExistence : Operator → Bool
  | .exists | .notExists => true
  | _ => false

/-- The operator is supported, and neither the value nor the weight is refused. -/
def Accepts (ranking : Ranking) (property : Property) (operator : Operator) (value : String) :
    Prop :=
  match operator with
  | .exists | .notExists => True
  | .equal | .notEqual | .like => (ranking.weight property.name).Boosts
  | other => ∃ bound stored, Translate.boundOf? other = some bound ∧
      Translate.rangeValue property value = .ok stored

theorem matchPhrase_of_boost {weight : Number} {boost : Option Double}
    (given : boostOf weight = .ok boost) :
    matchPhrase name value weight = keyed .matchPhrase name (.matchPhrase · value boost) := by
  simp [matchPhrase, given, bind, Except.bind]

theorem wildcard_of_boost {weight : Number} {boost : Option Double}
    (given : boostOf weight = .ok boost) :
    wildcard name value weight = keyed .wildcard name (.wildcard · value boost) := by
  simp [wildcard, given, bind, Except.bind]

theorem property_of_bound {property : Property} {bound : Bound}
    (bounded : Translate.boundOf? operator = some bound) :
    Translate.property ranking property operator value =
      (do range property.name bound (← Translate.rangeValue property value)) := by
  cases operator with
  | greater | greaterOrEqual | less | lessOrEqual =>
    cases bounded
    rfl
  | _ => cases bounded

theorem rangeValue_rename {stored : RangeValue}
    (found : Translate.rangeValue ⟨name, type⟩ value = .ok stored) :
    Translate.rangeValue ⟨other, type⟩ value = .ok stored := by
  unfold Translate.rangeValue at found ⊢
  cases valued : Translate.valueOf type value with
  | ok read =>
    simp only [valued] at found ⊢
    exact found
  | error =>
    simp only [valued] at found
    cases found

theorem exists_keyed_of_accepts (accepted : Accepts ranking ⟨name, type⟩ operator value)
    (comparing : operator.asksExistence = false) :
    ∃ kind clause wrap, Keyed clause ∧ Transparent wrap ∧
      ∀ other, ranking.weight other = ranking.weight name →
        Translate.property ranking ⟨other, type⟩ operator value =
          (keyed kind other clause).map wrap := by
  cases operator with
  | equal =>
    obtain ⟨boost, given⟩ := accepted
    refine ⟨.matchPhrase, (.matchPhrase · value boost), id, fun _ => rfl, transparent_id, ?_⟩
    intro other same
    rw [Except.map_id, id, ← matchPhrase_of_boost given, ← same]
    rfl
  | notEqual =>
    obtain ⟨boost, given⟩ := accepted
    refine ⟨.matchPhrase, (.matchPhrase · value boost), negate, fun _ => rfl, transparent_negate, ?_⟩
    intro other same
    rw [← matchPhrase_of_boost given, ← same]
    rfl
  | like =>
    obtain ⟨boost, given⟩ := accepted
    refine ⟨.wildcard, (.wildcard · value boost), id, fun _ => rfl, transparent_id, ?_⟩
    intro other same
    rw [Except.map_id, id, ← wildcard_of_boost given, ← same]
    rfl
  | greater | greaterOrEqual | less | lessOrEqual =>
    obtain ⟨bound, stored, bounded, found⟩ := accepted
    refine ⟨.range, (.range · bound stored), id, fun _ => rfl, transparent_id, ?_⟩
    intro other _
    rw [Except.map_id, id, property_of_bound bounded, rangeValue_rename found]
    rfl
  | «exists» | notExists => cases comparing
  | _ =>
    obtain ⟨bound, stored, bounded, _⟩ := accepted
    cases bounded

theorem accepts_of_property {property : Property}
    (built : Translate.property ranking property operator value = .ok q) :
    Accepts ranking property operator value := by
  cases operator with
  | equal | like =>
    obtain ⟨boost, given, _⟩ := bind_eq_ok_iff.mp built
    exact ⟨boost, given⟩
  | notEqual =>
    obtain ⟨phrase, inner, _⟩ := map_eq_ok_iff.mp built
    obtain ⟨boost, given, _⟩ := bind_eq_ok_iff.mp inner
    exact ⟨boost, given⟩
  | greater | greaterOrEqual | less | lessOrEqual =>
    obtain ⟨stored, read, _⟩ := bind_eq_ok_iff.mp built
    exact ⟨_, stored, rfl, read⟩
  | «exists» | notExists => trivial
  | _ => cases built

/-- The clause that an operator makes keeps the name as its field. -/
def Keeps (operator : Operator) (name : String) : Prop :=
  operator.asksExistence = true ∨ Spared name

theorem about_of_property {property : Property}
    (built : Translate.property ranking property operator value = .ok q) :
    q.about? = some property.name ↔ Keeps operator property.name := by
  by_cases asks : operator.asksExistence = true
  · refine iff_of_true ?_ (.inl asks)
    cases operator with
    | «exists» | notExists =>
      cases built
      rfl
    | _ => cases asks
  · have comparing : operator.asksExistence = false := by simpa using asks
    obtain ⟨kind, clause, wrap, named, plain, same⟩ :=
      exists_keyed_of_accepts (accepts_of_property built) comparing
    rw [same property.name rfl] at built
    rw [about_of_keyed named plain built]
    simp [Keeps, comparing]

theorem exists_property_iff {property : Property} :
    (∃ q, Translate.property ranking property operator value = .ok q) ↔
      Accepts ranking property operator value ∧
        (operator.asksExistence = true ∨ property.name ≠ "self") := by
  by_cases asks : operator.asksExistence = true
  · cases operator with
    | «exists» | notExists => exact iff_of_true ⟨_, rfl⟩ ⟨trivial, .inl rfl⟩
    | _ => cases asks
  · have comparing : operator.asksExistence = false := by simpa using asks
    have builtIff (accepted : Accepts ranking property operator value) :
        (∃ q, Translate.property ranking property operator value = .ok q) ↔
          property.name ≠ "self" := by
      obtain ⟨kind, clause, wrap, _, _, same⟩ := exists_keyed_of_accepts accepted comparing
      rw [same property.name rfl]
      exact exists_keyed_iff
    constructor
    · intro some
      obtain ⟨q, built⟩ := some
      have accepted := accepts_of_property built
      exact ⟨accepted, .inr ((builtIff accepted).mp ⟨q, built⟩)⟩
    · intro both
      obtain ⟨accepted, free⟩ := both
      exact (builtIff accepted).mpr (free.resolve_left asks)

theorem spatial_of_relation {property : Property} {relation : Relation} {extent : Extent}
    (related : Translate.relationOf? operator = some relation) :
    Translate.spatial property operator extent =
      (keyed .geoShape property.name (.geoShape · extent relation)).map id := by
  rw [Except.map_id, id, Translate.spatial, related]
  rfl

theorem exists_spatial_iff {property : Property} {extent : Extent} :
    (∃ q, Translate.spatial property operator extent = .ok q) ↔
      Translate.relationOf? operator ≠ none ∧ property.name ≠ "self" := by
  cases related : Translate.relationOf? operator with
  | none => simp [Translate.spatial, related]
  | some relation =>
    rw [spatial_of_relation related, exists_keyed_iff]
    simp

theorem about_of_spatial {property : Property} {extent : Extent}
    (built : Translate.spatial property operator extent = .ok q) :
    q.about? = some property.name ↔ Spared property.name := by
  cases related : Translate.relationOf? operator with
  | none => simp [Translate.spatial, related] at built
  | some relation =>
    rw [spatial_of_relation related] at built
    exact about_of_keyed (fun _ => rfl) transparent_id built

/- Probes. -/

theorem toList_aggregateField : (aggregateField name).toList = name.toList ++ ['_', 'a', 'g', 'g'] := by
  simp [aggregateField]

theorem pair_infix_append_iff :
    ['_', '_'] <:+: cs ++ ['_', 'a', 'g', 'g'] ↔ ['_', '_'] <:+: cs ∨ cs.getLast? = some '_' := by
  induction cs with
  | nil => decide
  | cons c rest ih =>
    rw [List.cons_append, pair_infix_cons_iff, pair_infix_cons_iff, ih]
    cases rest with
    | nil => simp
    | cons d rest => simp [or_assoc]

theorem spared_aggregateField_iff :
    Spared (aggregateField name) ↔ Spared name ∧ name.toList.getLast? ≠ some '_' := by
  rw [Spared, toList_aggregateField, pair_infix_append_iff, not_or]
  rfl

theorem kept_of_wellKnown :
    ∀ property ∈ Property.wellKnown,
      property.name ≠ "self" ∧ Spared (aggregateField property.name) := by
  decide +kernel

theorem aggregateField_ne_self : aggregateField name ≠ "self" := by
  intro same
  have last := congrArg (·.toList.getLast?) same
  rw [toList_aggregateField] at last
  simp at last

theorem probe_of_value (layout : Layout) (name value : String) :
    Probe.ofValue layout name value = (do
      return ⟨layout.dataFolder, value,
        ← Translate.property .neutral ⟨aggregateField name, .text⟩ .equal value⟩) := rfl

theorem exists_probe (layout : Layout) (name value : String) :
    ∃ probe, Probe.ofValue layout name value = .ok probe := by
  have accepted : Accepts .neutral ⟨aggregateField name, .text⟩ .equal value := ⟨none, rfl⟩
  obtain ⟨q, built⟩ := exists_property_iff.mpr ⟨accepted, .inr aggregateField_ne_self⟩
  rw [probe_of_value, built]
  exact ⟨_, rfl⟩

theorem about_of_probe {layout : Layout} {probe : Probe}
    (built : Probe.ofValue layout name value = .ok probe) :
    probe.query.about? = some (aggregateField name) ↔ Spared (aggregateField name) := by
  rw [probe_of_value] at built
  obtain ⟨q, asked, made⟩ := bind_eq_ok_iff.mp built
  cases made
  rw [about_of_property asked]
  simp [Keeps, Operator.asksExistence]

theorem exists_probes (layout : Layout) (name : String) (values : List String) :
    ∃ probes, Probe.ofValues layout name values = .ok probes ∧
      (values ≠ [] → ((∀ probe ∈ probes, probe.query.about? = some (aggregateField name)) ↔
        Spared (aggregateField name))) := by
  obtain ⟨probes, built⟩ := exists_ok_mapM_iff.mpr fun value _ => exists_probe layout name value
  refine ⟨probes, built, ?_⟩
  intro filled
  constructor
  · intro each
    obtain ⟨value, member⟩ := List.exists_mem_of_ne_nil values filled
    obtain ⟨probe, made⟩ := exists_probe layout name value
    exact (about_of_probe made).mp (each probe ((mem_of_mapM_iff built probe).mpr ⟨value, member, made⟩))
  · intro spared probe member
    obtain ⟨value, _, made⟩ := (mem_of_mapM_iff built probe).mp member
    exact (about_of_probe made).mpr spared

theorem exists_same_clause {property : Property} (lost : ¬ Keeps operator property.name)
    (ordinary : property.name ≠ "_expand__to_dot") (accepted : Accepts ranking property operator value) :
    ∃ name, name ≠ property.name ∧ (ranking.weight name = ranking.weight property.name →
      Translate.property ranking ⟨name, property.contentType⟩ operator value =
        Translate.property ranking property operator value) := by
  obtain ⟨asking, paired⟩ := not_or.mp lost
  obtain ⟨name, different, shared⟩ := exists_same_key paired ordinary
  refine ⟨name, different, ?_⟩
  intro weighed
  obtain ⟨kind, clause, wrap, _, _, same⟩ := exists_keyed_of_accepts accepted (by simpa using asking)
  rw [same name weighed, same property.name rfl, keyed_of_same_key shared]

/-- The clause of a predicate is about its property exactly if the name holds no two underscores
    in a row, or only existence is asked for; a probe is about the aggregate field exactly if the
    name does not end in an underscore either. Clauses that keep their names differ by them, and
    a name that is not kept has the clauses of another one. -/
theorem clauses_name_their_property_iff (ranking : Ranking) (property : Property)
    (operator : Operator) (value : String) :
    ((∃ q, Translate.property ranking property operator value = .ok q) ↔
      Accepts ranking property operator value ∧
        (operator.asksExistence = true ∨ property.name ≠ "self")) ∧
    (∀ q, Translate.property ranking property operator value = .ok q →
      (q.about? = some property.name ↔ Keeps operator property.name)) ∧
    (∀ extent,
      ((∃ q, Translate.spatial property operator extent = .ok q) ↔
        Translate.relationOf? operator ≠ none ∧ property.name ≠ "self") ∧
      (∀ q, Translate.spatial property operator extent = .ok q →
        (q.about? = some property.name ↔ Spared property.name)) ∧
      ∀ property' operator' extent' q,
        Translate.spatial property operator extent = .ok q →
        Translate.spatial property' operator' extent' = .ok q →
        Spared property.name → Spared property'.name → property.name = property'.name) ∧
    (∀ layout values, ∃ probes, Probe.ofValues layout property.name values = .ok probes ∧
      (values ≠ [] →
        ((∀ probe ∈ probes, probe.query.about? = some (aggregateField property.name)) ↔
          Spared property.name ∧ property.name.toList.getLast? ≠ some '_'))) ∧
    (∀ ranking' property' operator' value' q,
      Translate.property ranking property operator value = .ok q →
      Translate.property ranking' property' operator' value' = .ok q →
      Keeps operator property.name → Keeps operator' property'.name →
      property.name = property'.name) ∧
    (¬ Keeps operator property.name → property.name ≠ "_expand__to_dot" →
      Accepts ranking property operator value →
      ∃ name, name ≠ property.name ∧
        (ranking.weight name = ranking.weight property.name →
          Translate.property ranking ⟨name, property.contentType⟩ operator value =
            Translate.property ranking property operator value)) ∧
    (∀ present equal,
      Translate.property ranking property .exists value = .ok present →
      Translate.property ranking property .equal value = .ok equal →
      (present.about? = equal.about? ↔ Spared property.name)) := by
  refine ⟨exists_property_iff, fun q built => about_of_property built, ?_, ?_, ?_, ?_, ?_⟩
  · intro extent
    refine ⟨exists_spatial_iff, fun q built => about_of_spatial built, ?_⟩
    intro property' operator' extent' q built built' spared spared'
    exact eq_of_about ((about_of_spatial built).mpr spared) ((about_of_spatial built').mpr spared')
  · intro layout values
    rw [← spared_aggregateField_iff]
    exact exists_probes layout property.name values
  · intro ranking' property' operator' value' q built built' kept kept'
    exact eq_of_about ((about_of_property built).mpr kept) ((about_of_property built').mpr kept')
  · intro lost ordinary accepted
    exact exists_same_clause lost ordinary accepted
  · intro present equal asked compared
    have presence := (about_of_property asked).mpr (.inl rfl)
    rw [presence, eq_comm, about_of_property compared]
    simp [Keeps, Operator.asksExistence]

theorem equality_asks_another_field :
    ¬ ∀ (ranking : Ranking) (property : Property) (operator : Operator) (value : String) (q : Query),
      Translate.property ranking property operator value = .ok q →
        q.about? = some property.name := by
  intro law
  have named := law .neutral ⟨"a__b", .text⟩ .equal "x" _ rfl
  exact absurd named (by decide)

theorem title_kept_and_pair_lost :
    (phrase "title" "Ocean").about? = some "title" ∧
      (leaf (.geoShape "bbox" ⟨.int 0, .int 0, .int 1, .int 1⟩ .intersects)).about? = some "bbox" ∧
      (∃ probes, Probe.ofValues .standard "a_" ["x"] = .ok probes ∧
        ¬ ∀ probe ∈ probes, probe.query.about? = some "a__agg") ∧
      (⟨"title", .text⟩ : Property).name = (⟨"title", .boolean⟩ : Property).name ∧
      (∃ name, name ≠ "a__b" ∧
        Translate.property .neutral ⟨name, .text⟩ .equal "x" =
          Translate.property .neutral ⟨"a__b", .text⟩ .equal "x") ∧
      (hasField "a__b").about? ≠ (phrase "a.b" "x").about? := by
  have title : Spared "title" := by decide
  have bbox : Spared Property.boundingBox.name := by decide
  have pair : ¬ Spared "a__b" := by decide
  obtain ⟨_, named, _, _, apart, _, _⟩ :=
    clauses_name_their_property_iff .neutral ⟨"title", .text⟩ .equal "Ocean"
  obtain ⟨_, _, _, _, _, shared, agree⟩ :=
    clauses_name_their_property_iff .neutral ⟨"a__b", .text⟩ .equal "x"
  refine ⟨?_, ?_, ?_, ?_, ?_, ?_⟩
  · exact (named _ rfl).mpr (.inr title)
  · obtain ⟨_, _, related, _⟩ := clauses_name_their_property_iff .neutral .boundingBox .bbox ""
    exact ((related _).2.1 _ rfl).mpr bbox
  · obtain ⟨_, _, _, probed, _⟩ := clauses_name_their_property_iff .neutral ⟨"a_", .text⟩ .equal "x"
    obtain ⟨probes, built, about⟩ := probed .standard ["x"]
    refine ⟨probes, built, ?_⟩
    intro each
    exact ((about (by simp)).mp each).2 (by decide)
  · exact apart .neutral ⟨"title", .boolean⟩ .equal "Ocean" (phrase "title" "Ocean") rfl rfl
      (.inr title) (.inr title)
  · have lost : ¬ Keeps .equal "a__b" := not_or.mpr ⟨by decide, pair⟩
    obtain ⟨name, different, same⟩ := shared lost (by decide) ⟨none, rfl⟩
    exact ⟨name, different, same rfl⟩
  · intro same
    exact pair ((agree _ _ rfl rfl).mp same)

end BondQuery
