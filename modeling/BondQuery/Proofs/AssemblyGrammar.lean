import BondQuery.Proofs.AssemblySteps

/- The operations that assemble a query form a language of bracketed items. An assembly takes
   exactly that language and holds the query that the operations spell. A separator that is
   missing before a nested group is noticed only where that group is closed, so an invariant
   relates each open group to what was spelled since it was opened. -/
namespace BondQuery

/-- The clause of a group: its children under the key of its kind, and under no other. -/
def GroupKind.clauseOf (kind : GroupKind) (children : List Query) (atLeastOne : Bool) : Query :=
  .bool [] (if kind = .must then children else []) (if kind = .mustNot then children else [])
    (if kind = .should then children else []) atLeastOne

namespace Assembly

mutual

/-- Operations that spell one query: a query itself, or a group around its items. -/
inductive Item : List Operation → Query → Prop
  | query (q : Query) : Item [.append q] q
  | emptyGroup (kind : GroupKind) (atLeastOne : Bool) :
      Item [.openGroup kind, .close atLeastOne] (kind.clauseOf [] atLeastOne)
  | group {ops : List Operation} {children : List Query} (kind : GroupKind) (atLeastOne : Bool)
      (items : Items ops children) :
      Item (.openGroup kind :: ops ++ [.close atLeastOne]) (kind.clauseOf children atLeastOne)

inductive Items : List Operation → List Query → Prop
  | one {ops : List Operation} {q : Query} (item : Item ops q) : Items ops [q]
  | more {before after : List Operation} {qs : List Query} {q : Query}
      (items : Items before qs) (item : Item after q) :
      Items (before ++ .separate :: after) (qs ++ [q])

end

/-- The query that a whole assembly is asked for: one item, or every record. -/
inductive Denotes : List Operation → Query → Prop
  | nothing : Denotes [] .matchAll
  | item {ops : List Operation} {q : Query} (item : Item ops q) : Denotes ops q

inductive Roots : List Operation → List Query → Prop
  | none : Roots [] []
  | snoc {before after : List Operation} {qs : List Query} {q : Query}
      (roots : Roots before qs) (item : Item after q) : Roots (before ++ after) (qs ++ [q])

/-- What was spelled since a group was opened. -/
inductive Filled : List Operation → Group → Prop
  | opened (kind : GroupKind) : Filled [.openGroup kind] ⟨kind, [], false⟩
  | items {ops : List Operation} {children : List Query} (kind : GroupKind)
      (items : Items ops children) : Filled (.openGroup kind :: ops) ⟨kind, children, false⟩
  | separated {ops : List Operation} {children : List Query} (kind : GroupKind)
      (items : Items ops children) :
      Filled (.openGroup kind :: ops ++ [.separate]) ⟨kind, children, true⟩

inductive Nested : List Operation → List Group → Prop
  | none : Nested [] []
  | inner {before after : List Operation} {group : Group} {outer : List Group}
      (nested : Nested before outer) (filled : Filled after group) :
      Nested (before ++ after) (group :: outer)

/-- The invariant of an assembly that has taken the operations. -/
structure Spelled (ops : List Operation) (a : Assembly) : Prop where
  unbuilt : a.built = false
  parts : ∃ before after, ops = before ++ after ∧ Roots before a.roots ∧ Nested after a.groups

variable {a b : Assembly} {ops more : List Operation} {q : Query}

theorem clause_eq_clauseOf (group : Group) (atLeastOne : Bool) :
    group.clause atLeastOne = group.kind.clauseOf group.children atLeastOne := by
  unfold Group.clause GroupKind.clauseOf
  cases group.kind <;> rfl

theorem Items.ne_nil {children : List Query} (items : Items ops children) : children ≠ [] := by
  cases items <;> simp

theorem Items.cons {more : List Operation} {qs : List Query} (item : Item ops q) :
    Items more qs → Items (ops ++ .separate :: more) (q :: qs)
  | .one last => .more (.one item) last
  | .more items last => by
    have longer := Items.more (items.cons item) last
    simpa using longer

theorem spelled_empty : Spelled [] empty :=
  ⟨rfl, [], [], rfl, .none, .none⟩

theorem Spelled.openGroup {kind : GroupKind} (spelled : Spelled ops a)
    (opened : a.openGroup kind = (.ok (), b)) : Spelled (ops ++ [.openGroup kind]) b := by
  obtain ⟨unbuilt, before, after, split, roots, nested⟩ := spelled
  obtain ⟨_, left⟩ := openGroup_eq_ok_iff.mp opened
  subst left split
  exact ⟨unbuilt, before, after ++ [.openGroup kind], by simp, roots, .inner nested (.opened kind)⟩

theorem Spelled.add (spelled : Spelled ops a) (item : Item more q)
    (taken : a.add q = (.ok (), b)) : Spelled (ops ++ more) b := by
  obtain ⟨unbuilt, before, after, split, roots, nested⟩ := spelled
  subst split
  rcases add_eq_ok_iff.mp taken with ⟨outside, left⟩ | ⟨group, outer, inside, room, left⟩
  · subst left
    rw [outside] at nested
    cases nested
    exact ⟨unbuilt, before ++ more, [], by simp, .snoc roots item, outside ▸ .none⟩
  · subst left
    rw [inside] at nested
    cases nested with
    | inner nested filled =>
      rename_i around within
      have refilled : Filled (within ++ more) ⟨group.kind, group.children ++ [q], false⟩ := by
        cases filled with
        | opened kind => exact .items kind (.one item)
        | items kind items =>
          -- a separator is missing, so the group does not take the item
          exact absurd room (by simp [items.ne_nil])
        | separated kind items =>
          have longer := Filled.items kind (.more items item)
          simpa using longer
      exact ⟨unbuilt, before, around ++ (within ++ more), by simp, roots, .inner nested refilled⟩

theorem Spelled.separate (spelled : Spelled ops a) (taken : a.separate = (.ok (), b)) :
    Spelled (ops ++ [.separate]) b := by
  obtain ⟨unbuilt, before, after, split, roots, nested⟩ := spelled
  obtain ⟨_, group, outer, inside, filling, single, left⟩ := separate_eq_ok_iff.mp taken
  subst left split
  rw [inside] at nested
  cases nested with
  | inner nested filled =>
    rename_i around within
    have awaiting : Filled (within ++ [.separate]) { group with separated := true } := by
      cases filled with
      | opened kind => exact absurd rfl filling
      | items kind items => exact .separated kind items
      | separated kind items => cases single
    exact ⟨unbuilt, before, around ++ (within ++ [.separate]), by simp, roots,
      .inner nested awaiting⟩

theorem Spelled.close {atLeastOne : Bool} (spelled : Spelled ops a)
    (taken : a.close atLeastOne = (.ok (), b)) : Spelled (ops ++ [.close atLeastOne]) b := by
  obtain ⟨unbuilt, before, after, split, roots, nested⟩ := spelled
  obtain ⟨_, group, outer, inside, single, added⟩ := close_eq_ok_iff.mp taken
  subst split
  rw [inside] at nested
  cases nested with
  | inner nested filled =>
    rename_i around within
    have item : Item (within ++ [.close atLeastOne]) (group.clause atLeastOne) := by
      rw [clause_eq_clauseOf]
      cases filled with
      | opened kind => exact .emptyGroup kind atLeastOne
      | items kind items => exact .group kind atLeastOne items
      | separated kind items => cases single
    have outside : Spelled (before ++ around) { a with groups := outer } :=
      ⟨unbuilt, before, around, rfl, roots, nested⟩
    have closed := outside.add item added
    simpa using closed

theorem Roots.ops_eq_nil (roots : Roots ops []) : ops = [] := by
  generalize bare : ([] : List Query) = qs at roots
  cases roots with
  | none => rfl
  | snoc roots item => simp at bare

theorem Roots.denotes {qs : List Query} (roots : Roots ops qs) (single : qs.length ≤ 1) :
    Denotes ops (qs.headD .matchAll) := by
  cases roots with
  | none => exact .nothing
  | @snoc before after earlier q roots item =>
    have first : earlier = [] := by
      rw [List.length_append, List.length_singleton] at single
      exact List.eq_nil_of_length_eq_zero (by omega)
    subst first
    have blank : before = [] := roots.ops_eq_nil
    subst blank
    exact .item item

end Assembly

namespace Session
open Assembly

variable {engine : Engine} {s next : Session} {ops done more : List Operation} {q : Query}

theorem spelled_of_step {op : Operation} {given : Answer} (fills : op.Fills)
    (spelled : Spelled done s.assembly) (stepped : s.step engine op = (.ok given, next)) :
    Spelled (done ++ [op]) next.assembly := by
  cases op with
  | openGroup kind =>
    obtain ⟨_, b, taken, _, left⟩ := ofOutcome_eq_ok_iff.mp stepped
    subst left
    exact spelled.openGroup taken
  | append query =>
    obtain ⟨_, b, taken, _, left⟩ := ofOutcome_eq_ok_iff.mp stepped
    subst left
    exact spelled.add (.query query) (append_eq_ok_iff.mp taken).2
  | separate =>
    obtain ⟨_, b, taken, _, left⟩ := ofOutcome_eq_ok_iff.mp stepped
    subst left
    exact spelled.separate taken
  | close atLeastOne =>
    obtain ⟨_, b, taken, _, left⟩ := ofOutcome_eq_ok_iff.mp stepped
    subst left
    exact spelled.close taken
  | _ => cases fills

theorem spelled_of_run (fills : ∀ op ∈ ops, op.Fills) (spelled : Spelled done s.assembly)
    (answered : Answered engine s ops) :
    Spelled (done ++ ops) (run engine s ops).2.assembly := by
  -- what was done before grows by each operation, so the invariant is carried along
  induction ops generalizing s done with
  | nil => simpa [run] using spelled
  | cons op rest ih =>
    obtain ⟨given, next, stepped, answered⟩ := answered_cons_iff.mp answered
    have one := spelled_of_step (fills op List.mem_cons_self) spelled stepped
    have all := ih (fun later member => fills later (List.mem_cons_of_mem op member)) one answered
    simpa [run, stepped] using all

theorem completes_group {a b : Assembly} {kind : GroupKind} {children : List Query}
    {atLeastOne : Bool} {lookups : List Lookup} (unbuilt : a.built = false)
    (inside : Completes engine ⟨{ a with groups := ⟨kind, [], false⟩ :: a.groups }, lookups⟩ ops
      ⟨{ a with groups := ⟨kind, children, false⟩ :: a.groups }, lookups⟩)
    (taken : a.add (kind.clauseOf children atLeastOne) = (.ok (), b)) :
    Completes engine ⟨a, lookups⟩ (.openGroup kind :: ops ++ [.close atLeastOne])
      ⟨b, lookups⟩ := by
  have opened : a.openGroup kind = (.ok (), { a with groups := ⟨kind, [], false⟩ :: a.groups }) :=
    openGroup_eq_ok_iff.mpr ⟨unbuilt, rfl⟩
  have closed : { a with groups := ⟨kind, children, false⟩ :: a.groups }.close atLeastOne =
      (.ok (), b) := by
    refine close_eq_ok_iff.mpr ⟨unbuilt, ⟨kind, children, false⟩, a.groups, rfl, rfl, ?_⟩
    rw [clause_eq_clauseOf]
    exact taken
  have first : Completes engine ⟨a, lookups⟩ [.openGroup kind]
      ⟨{ a with groups := ⟨kind, [], false⟩ :: a.groups }, lookups⟩ := completes_of_taken rfl opened
  have last : Completes engine ⟨{ a with groups := ⟨kind, children, false⟩ :: a.groups }, lookups⟩
      [.close atLeastOne] ⟨b, lookups⟩ := completes_of_taken rfl closed
  exact completes_append (completes_append first inside) last

mutual

/-- Wherever a query may be added, an item that denotes it can be spelled out instead. -/
theorem completes_of_item {engine : Engine} {a b : Assembly} {lookups : List Lookup}
    {ops : List Operation} {q : Query} (item : Item ops q) (unbuilt : a.built = false)
    (taken : a.add q = (.ok (), b)) : Completes engine ⟨a, lookups⟩ ops ⟨b, lookups⟩ := by
  match item with
  | .query _ => exact completes_of_taken rfl (append_eq_ok_iff.mpr ⟨unbuilt, taken⟩)
  | .emptyGroup kind atLeastOne => exact completes_group unbuilt completes_nil taken
  | .group kind atLeastOne items =>
    exact completes_group unbuilt (completes_of_items items unbuilt rfl) taken

theorem completes_of_items {engine : Engine} {a : Assembly} {lookups : List Lookup}
    {ops : List Operation} {kind : GroupKind} {outer : List Group} {children : List Query}
    (items : Items ops children) (unbuilt : a.built = false)
    (fresh : a.groups = ⟨kind, [], false⟩ :: outer) :
    Completes engine ⟨a, lookups⟩ ops
      ⟨{ a with groups := ⟨kind, children, false⟩ :: outer }, lookups⟩ := by
  match items with
  | .one item =>
    apply completes_of_item item unbuilt
    exact add_eq_ok_iff.mpr (.inr ⟨_, outer, fresh, .inl rfl, rfl⟩)
  | @Items.more _ _ qs q items item =>
    have separated : { a with groups := ⟨kind, qs, false⟩ :: outer }.separate =
        (.ok (), { a with groups := ⟨kind, qs, true⟩ :: outer }) :=
      separate_eq_ok_iff.mpr ⟨unbuilt, _, outer, rfl, items.ne_nil, rfl, rfl⟩
    have added : { a with groups := ⟨kind, qs, true⟩ :: outer }.add q =
        (.ok (), { a with groups := ⟨kind, qs ++ [q], false⟩ :: outer }) :=
      add_eq_ok_iff.mpr (.inr ⟨_, outer, rfl, .inr rfl, rfl⟩)
    have between : Completes engine ⟨{ a with groups := ⟨kind, qs, false⟩ :: outer }, lookups⟩
        [.separate] ⟨{ a with groups := ⟨kind, qs, true⟩ :: outer }, lookups⟩ :=
      completes_of_taken rfl separated
    refine completes_append (completes_of_items items unbuilt fresh) ?_
    exact completes_append between (completes_of_item item unbuilt added)

end

theorem completes_of_denotes (denotes : Denotes ops q) :
    ∃ roots, Completes engine .start ops ⟨⟨[], roots, false⟩, []⟩ ∧ roots.length ≤ 1 ∧
      roots.headD .matchAll = q := by
  cases denotes with
  | nothing => exact ⟨[], rfl, Nat.zero_le 1, rfl⟩
  | item item => exact ⟨[q], completes_of_item item rfl rfl, Nat.le_refl 1, rfl⟩

theorem denotes_of_answered {count : Bool} (fills : ∀ op ∈ ops, op.Fills)
    (answered : Answered engine .start (ops ++ [.build count])) : ∃ q, Denotes ops q := by
  obtain ⟨filled, finished⟩ := answered_append_iff.mp answered
  obtain ⟨_, before, after, split, roots, nested⟩ := spelled_of_run fills spelled_empty filled
  obtain ⟨_, _, stepped, _⟩ := answered_cons_iff.mp finished
  obtain ⟨_, _, built, _⟩ := ofOutcome_eq_ok_iff.mp stepped
  obtain ⟨_, shut, single, _⟩ := build_eq_ok_iff.mp built
  rw [shut] at nested
  cases nested
  rw [List.nil_append, List.append_nil] at split
  subst split
  exact ⟨_, roots.denotes single⟩

theorem run_of_denotes {count : Bool} {baseline : Query}
    (rated : Baseline.query count engine.settings.deletedIncluded
      engine.settings.countHonorsDeleted engine.settings.ranking = .ok baseline)
    (denotes : Denotes ops q) :
    (run engine .start (ops ++ [.build count])).1 =
      List.replicate ops.length (.ok .done) ++
        [.ok (.compiled ⟨.allOf [q, baseline], count⟩)] := by
  obtain ⟨roots, completes, single, only⟩ := completes_of_denotes denotes
  have built : Assembly.build ⟨[], roots, false⟩ engine.settings count =
      (.ok ⟨.allOf [q, baseline], count⟩, ⟨[], roots, true⟩) := by
    refine build_eq_ok_iff.mpr ⟨rfl, rfl, single, ⟨baseline, rated, ?_⟩, rfl⟩
    rw [only]
    rfl
  have stepped : step engine ⟨⟨[], roots, false⟩, []⟩ (.build count) =
      (.ok (.compiled ⟨.allOf [q, baseline], count⟩), ⟨⟨[], roots, true⟩, []⟩) :=
    ofOutcome_eq_ok_iff.mpr ⟨_, _, built, rfl, rfl⟩
  rw [run_append, completes]
  simp [run, stepped]

theorem denotes_unique {r : Query} (first : Denotes ops q) (second : Denotes ops r) : q = r := by
  have answers : (run ⟨.standard, none⟩ .start (ops ++ [.build true])).1 =
      List.replicate ops.length (.ok .done) ++
        [.ok (.compiled ⟨.allOf [q, Baseline.visible], true⟩)] := run_of_denotes rfl first
  rw [run_of_denotes rfl second] at answers
  have same := List.append_cancel_left answers
  simp only [List.cons.injEq, Except.ok.injEq, Answer.compiled.injEq, Compiled.mk.injEq,
    Query.allOf, Query.bool.injEq] at same
  exact same.1.1.2.1.1.symm

/-- Filling an assembly and building it succeeds exactly on the grammar, whatever the order and
    nesting of the operations, and asks for the query that they denote. -/
theorem assembly_accepts_exactly_its_grammar (engine : Engine) (ops : List Operation)
    (count : Bool) (baseline : Query) (fills : ∀ op ∈ ops, op.Fills)
    (rated : Baseline.query count engine.settings.deletedIncluded
      engine.settings.countHonorsDeleted engine.settings.ranking = .ok baseline) :
    (Answered engine .start (ops ++ [.build count]) ↔ ∃ q, Denotes ops q) ∧
    ∀ q, Denotes ops q →
      (run engine .start (ops ++ [.build count])).1 =
        List.replicate ops.length (.ok .done) ++
          [.ok (.compiled ⟨.allOf [q, baseline], count⟩)] := by
  refine ⟨⟨denotes_of_answered fills, ?_⟩, fun q denotes => run_of_denotes rated denotes⟩
  rintro ⟨q, denotes⟩ answer member
  rw [run_of_denotes rated denotes] at member
  rcases List.mem_append.mp member with filling | building
  · exact ⟨_, List.eq_of_mem_replicate filling⟩
  · exact ⟨_, List.mem_singleton.mp building⟩

def oceanOperations : List Operation :=
  [.openGroup .must, .append (.phrase "title" "Ocean"), .separate, .openGroup .should,
    .append (.phrase "keyword" "sea"), .separate, .openGroup .mustNot, .close false, .close true,
    .close false]

def oceanQuery : Query :=
  .allOf [.phrase "title" "Ocean", .anyOf [.phrase "keyword" "sea", .noneOf []] true]

theorem ocean_item : Item oceanOperations oceanQuery :=
  .group .must false (.more (.one (.query (.phrase "title" "Ocean")))
    (.group .should true (.more (.one (.query (.phrase "keyword" "sea")))
      (.emptyGroup .mustNot false))))

theorem ocean_assembled :
    (run ⟨.standard, none⟩ .start (oceanOperations ++ [.build true])).1 =
      List.replicate 10 (.ok .done) ++
        [.ok (.compiled ⟨.allOf [oceanQuery, Baseline.visible], true⟩)] := by
  have fills : ∀ op ∈ oceanOperations, op.Fills := by simp [oceanOperations, Operation.Fills]
  exact (assembly_accepts_exactly_its_grammar ⟨.standard, none⟩ oceanOperations true
    Baseline.visible fills rfl).2 oceanQuery (.item ocean_item)

example : (run ⟨.standard, none⟩ .start [.openGroup .must, .append .matchAll, .openGroup .should,
    .append .matchAll, .close true]).1.map (·.toBool) = [true, true, true, true, false] := rfl

end Session

end BondQuery
