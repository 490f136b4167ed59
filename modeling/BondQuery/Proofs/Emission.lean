import BondQuery.Proofs.AssemblyGrammar
import BondQuery.Proofs.Meaning

/- An expression can be lowered as a whole and appended, or spelled out operation by operation,
   with a group for each connective. Both ways leave the same assembly, whatever was open before,
   because the operations of an expression are one item of the grammar. -/
namespace BondQuery

/-- The group that joins the operands of a connective. -/
def Connective.groupKind : Connective → GroupKind
  | and => .must
  | or => .should
  | not => .mustNot

mutual

/-- The operations that spell an expression: leaves are appended as they are lowered, and only
    the group of an OR asks for one of its children. -/
def emit (settings : Settings) : Expression → Except Error (List Operation)
  | .bond property operator value =>
    (lowerBond settings property operator value).map fun q => [.append q]
  | .spatial property operator extent =>
    (Translate.spatial property operator extent).map fun q => [.append q]
  | .logical connective operands =>
    (emitAll settings operands).map fun inside =>
      .openGroup connective.groupKind :: inside ++ [.close (connective = .or)]

def emitAll (settings : Settings) : List Expression → Except Error (List Operation)
  | [] => .ok []
  | [e] => emit settings e
  | e :: next :: rest => do
    let first ← emit settings e
    let others ← emitAll settings (next :: rest)
    return first ++ .separate :: others

end

namespace Assembly
variable {a : Assembly} {ops more : List Operation} {q : Query} {qs : List Query}

/-- A clause may be added: no group is open, or the innermost one is empty or separated. -/
structure Ready (a : Assembly) : Prop where
  unbuilt : a.built = false
  room : ∀ group outer, a.groups = group :: outer → group.children = [] ∨ group.separated = true

theorem add_of_ready (ready : a.Ready) (q : Query) : ∃ b, a.add q = (.ok (), b) := by
  cases inside : a.groups with
  | nil => exact ⟨_, add_eq_ok_iff.mpr (.inl ⟨inside, rfl⟩)⟩
  | cons group outer =>
    exact ⟨_, add_eq_ok_iff.mpr (.inr ⟨group, outer, inside, ready.room group outer inside, rfl⟩)⟩

theorem item_of_group (connective : Connective) (inside : (ops = [] ∧ qs = []) ∨ Items ops qs) :
    Item (.openGroup connective.groupKind :: ops ++ [.close (connective = .or)])
      (connective.clause qs) := by
  have same : connective.clause qs = connective.groupKind.clauseOf qs (connective = .or) := by
    cases connective <;> rfl
  rw [same]
  rcases inside with ⟨rfl, rfl⟩ | items
  · exact .emptyGroup _ _
  · exact .group _ _ items

theorem items_of_emitAll {settings : Settings} {es : List Expression}
    (each : ∀ e ∈ es, ∀ q, lower settings e = .ok q →
      ∃ ops, emit settings e = .ok ops ∧ Item ops q)
    (lowered : lowerAll settings es = .ok qs) :
    ∃ ops, emitAll settings es = .ok ops ∧ ((ops = [] ∧ qs = []) ∨ Items ops qs) := by
  induction es generalizing qs with
  | nil =>
    cases lowered
    exact ⟨[], rfl, .inl ⟨rfl, rfl⟩⟩
  | cons e rest ih =>
    rw [lowerAll] at lowered
    obtain ⟨q, head, lowered⟩ := bind_eq_ok_iff.mp lowered
    obtain ⟨others, tail, lowered⟩ := bind_eq_ok_iff.mp lowered
    cases lowered
    obtain ⟨first, emitted, item⟩ := each e List.mem_cons_self q head
    cases rest with
    | nil =>
      cases tail
      exact ⟨first, emitted, .inr (.one item)⟩
    | cons next rest =>
      obtain ⟨later, emittedLater, spelled⟩ :=
        ih (fun e member => each e (List.mem_cons_of_mem _ member)) tail
      have items : Items later others := by
        rcases spelled with ⟨_, rfl⟩ | items
        · -- there is a next operand, so there is a clause for it
          rw [lowerAll] at tail
          obtain ⟨_, _, tail⟩ := bind_eq_ok_iff.mp tail
          obtain ⟨_, _, tail⟩ := bind_eq_ok_iff.mp tail
          cases tail
        · exact items
      refine ⟨first ++ .separate :: later, ?_, .inr (items.cons item)⟩
      rw [emitAll, emitted, emittedLater]
      rfl

theorem item_of_emit (settings : Settings) (e : Expression) (q : Query)
    (lowered : lower settings e = .ok q) : ∃ ops, emit settings e = .ok ops ∧ Item ops q := by
  induction e generalizing q with
  | bond property operator value =>
    rw [lower] at lowered
    exact ⟨[.append q], by rw [emit, lowered]; rfl, .query q⟩
  | spatial property operator extent =>
    rw [lower] at lowered
    exact ⟨[.append q], by rw [emit, lowered]; rfl, .query q⟩
  | logical connective operands each =>
    rw [lower] at lowered
    obtain ⟨queries, children, rfl⟩ := map_eq_ok_iff.mp lowered
    obtain ⟨inside, emitted, spelled⟩ := items_of_emitAll each children
    exact ⟨_, by rw [emit, emitted]; rfl, item_of_group connective spelled⟩

end Assembly

namespace Session
open Assembly

variable {engine : Engine} {s next : Session} {ops : List Operation} {q : Query}

theorem completes_of_ready (item : Item ops q) (ready : s.assembly.Ready) :
    ∃ next, s.step engine (.append q) = (.ok .done, next) ∧ Completes engine s ops next := by
  obtain ⟨b, taken⟩ := add_of_ready ready q
  refine ⟨⟨b, s.lookups⟩, ?_, completes_of_item item ready.unbuilt taken⟩
  exact ofOutcome_eq_ok_iff.mpr
    ⟨(), b, append_eq_ok_iff.mpr ⟨ready.unbuilt, taken⟩, rfl, rfl⟩

theorem ready_start : start.assembly.Ready :=
  ⟨rfl, fun _ _ inside => nomatch inside⟩

theorem build_after_append {e : Expression} {count : Bool}
    (lowered : lower engine.settings e = .ok q)
    (appended : start.step engine (.append q) = (.ok .done, next)) :
    (next.step engine (.build count)).1 = (compile engine.settings e count).map .compiled := by
  cases appended
  rw [compile, lowered]
  rfl

theorem run_build_of_completes {count : Bool} (completes : Completes engine s ops next) :
    (run engine s (ops ++ [.build count])).1 =
      List.replicate ops.length (.ok .done) ++ [(next.step engine (.build count)).1] := by
  rw [run_append, completes]
  rfl

/-- Wherever a clause may be added, spelling out an expression leaves exactly the state that
    appending its lowering leaves; a fresh session then builds the same query either way. -/
theorem emission_agrees_with_append (engine : Engine) (e : Expression) (q : Query)
    (lowered : lower engine.settings e = .ok q) :
    ∃ ops, emit engine.settings e = .ok ops ∧
      (∀ s : Session, s.assembly.Ready →
        ∃ next, s.step engine (.append q) = (.ok .done, next) ∧ Completes engine s ops next) ∧
      ∀ count,
        (run engine .start (ops ++ [.build count])).1 =
          List.replicate ops.length (.ok .done) ++
            [(compile engine.settings e count).map .compiled] ∧
        (run engine .start [.append q, .build count]).1 =
          [.ok .done, (compile engine.settings e count).map .compiled] := by
  obtain ⟨ops, emitted, item⟩ := item_of_emit engine.settings e q lowered
  have anywhere (s : Session) (ready : s.assembly.Ready) :
      ∃ next, s.step engine (.append q) = (.ok .done, next) ∧ Completes engine s ops next :=
    completes_of_ready item ready
  refine ⟨ops, emitted, anywhere, fun count => ?_⟩
  obtain ⟨next, appended, spelled⟩ := anywhere start ready_start
  have single : Completes engine start [.append q] next := by
    simp [Completes, run, appended]
  rw [← build_after_append lowered appended]
  exact ⟨run_build_of_completes spelled, run_build_of_completes single⟩

theorem every_route_spelled :
    lower localSettings everyRoute = .ok everyRouteQuery ∧
      ∃ ops, emit localSettings everyRoute = .ok ops ∧
        (∀ s : Session, s.assembly.Ready →
          ∃ next, s.step ⟨localSettings, none⟩ (.append everyRouteQuery) = (.ok .done, next) ∧
            Completes ⟨localSettings, none⟩ s ops next) ∧
        ∀ count,
          (run ⟨localSettings, none⟩ .start (ops ++ [.build count])).1 =
            List.replicate ops.length (.ok .done) ++
              [(compile localSettings everyRoute count).map .compiled] ∧
          (run ⟨localSettings, none⟩ .start [.append everyRouteQuery, .build count]).1 =
            [.ok .done, (compile localSettings everyRoute count).map .compiled] :=
  ⟨rfl, emission_agrees_with_append ⟨localSettings, none⟩ everyRoute everyRouteQuery rfl⟩

end Session

end BondQuery
