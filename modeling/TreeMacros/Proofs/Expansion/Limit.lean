import TreeMacros.Proofs.Expansion.Counting

/-! # The limit of expansion

How deep expansions may be nested is looked at after a macro has run. So a call that succeeds is
replaced by what it gave as long as fewer expansions led to it than may be nested, and otherwise the
whole expansion fails. Where that does not happen, a wider limit changes nothing.
-/

namespace TreeMacros

namespace Expanding

variable {α β : Type}

/-- The computation does not wait for anything that is endless. -/
def Ends (action : Expanding α) : Prop :=
  ∀ registry what after, action registry ≠ .error (.endless what) after

theorem Ends.bind {action : Expanding α} {next : α → Expanding β} (first : action.Ends)
    (others : ∀ result, (next result).Ends) : (action >>= next).Ends := by
  intro registry what after fails
  obtain fails | ⟨result, middle, -, fails⟩ := bind_eq_error.mp fails
  · exact first registry what after fails
  · exact others result middle what after fails

theorem ends_pure (result : α) : (pure result : Expanding α).Ends :=
  fun _ _ _ => nofun

end Expanding

namespace Expander

open Expanding (Ends ends_pure)

/-! ## Macros that all end -/

section Ending

variable {expander : Expander}

theorem ends_single (loc : Option Span) (nodes : List Node) : (single loc nodes).Ends := by
  intro registry what after fails
  obtain ⟨-, same, -⟩ := single_eq_error.mp fails
  cases same

theorem ends_define? (node : Node) : (define? node).Ends := by
  intro registry what after fails
  rw [define?_eq] at fails
  split at fails <;> cases fails

variable
    (total : ∀ call what, expander.executor.run call expander.services ≠ .error (.endless what))

include total

theorem expandCall?_ne_endless (registry : Registry) (node : Node) (what : Endless) :
    expander.expandCall? registry node ≠ .error (.endless what) := by
  intro refused
  obtain ⟨name, entry, arguments, own, -, runs, located⟩ := expandCall?_eq_error.mp refused
  cases own with
  | fault own => cases located
  | endless what' =>
      cases entry with
      | native run =>
          rw [runEntry] at runs
          cases answer : run arguments expander.services <;> simp [answer, Except.mapError] at runs
      | defined definition => exact total _ _ runs

theorem walkAll_ends (depth : Nat) (nodes : List Node) :
    (expander.walkAll depth nodes).Ends := by
  induction depth, nodes using walk_induction (fun depth node =>
    (expander.walkNode depth node).Ends) with
  | leaf depth kind text loc =>
      rw [walkNode_leaf]
      exact ends_pure _
  | binop depth left operator right loc first second =>
      cases pacing : expander.pacing with
      | blocking =>
          rw [walkNode_blocking depth pacing]
          exact first.bind fun lefts => (ends_single loc lefts).bind fun left =>
            second.bind fun rights => (ends_single loc rights).bind fun right => ends_pure _
      | concurrent =>
          rw [walkNode_concurrent depth pacing]
          exact first.bind fun lefts => second.bind fun rights =>
            (ends_single loc lefts).bind fun left => (ends_single loc rights).bind fun right =>
              ends_pure _
  | bracket depth kind children loc produced inner =>
      rw [walkNode, expandNode]
      refine (ends_define? _).bind fun defines => ?_
      cases defines with
      | true => exact ends_pure _
      | false =>
          have looks : (get : Expanding Registry).Ends := by
            intro registry what after fails
            cases fails
          refine looks.bind fun registered => ?_
          cases expands : expander.expandCall? registered (.bracket kind children loc) with
          | error failure =>
              rintro registry what after ⟨⟩
              exact expandCall?_ne_endless total _ _ _ expands
          | ok given =>
              cases given with
              | none => exact inner.bind fun children => ends_pure _
              | some nodes =>
                  cases depth with
                  | zero =>
                      intro registry what after fails
                      cases fails
                  | succ depth => exact produced depth rfl nodes
  | nil depth =>
      rw [walkAll_nil]
      exact ends_pure _
  | cons depth node rest first others =>
      rw [walkAll_cons]
      exact first.bind fun nodes => others.bind fun more => ends_pure _

end Ending

/-! ## Wider limits -/

/-- The failure at a call that is nested too deep. -/
def tooDeep (expander : Expander) (loc : Option Span) : Failure :=
  .fault { cause := .expansionDepthExceeded expander.maxDepth, span := loc }

/-- With another limit on nested expansions. -/
def limited (expander : Expander) (limit : Nat) : Expander :=
  { expander with maxDepth := limit }

/-- A wider computation does the same, unless a call is nested too deep. -/
def Deepens {α : Type} (expander : Expander) (action wider : Expanding α) : Prop :=
  ∀ registry, wider registry = action registry ∨
    ∃ loc after, action registry = .error (expander.tooDeep loc) after

section Deepening

variable {expander : Expander} {α β : Type}

theorem Deepens.refl (action : Expanding α) : expander.Deepens action action :=
  fun _ => .inl rfl

theorem Deepens.bind {action wider : Expanding α} {next widerNext : α → Expanding β}
    (first : expander.Deepens action wider)
    (others : ∀ result, expander.Deepens (next result) (widerNext result)) :
    expander.Deepens (action >>= next) (wider >>= widerNext) := by
  intro registry
  obtain same | ⟨loc, after, fails⟩ := first registry
  · simp only [Bind.bind, EStateM.bind, same]
    cases action registry with
    | ok result middle => exact others result middle
    | error failure after => exact .inl rfl
  · exact .inr ⟨loc, after, Expanding.bind_eq_error.mpr (.inl fails)⟩

theorem walkAll_deepens {depth deeper : Nat} (limit : Nat) (nodes : List Node)
    (less : depth ≤ deeper) :
    expander.Deepens (expander.walkAll depth nodes)
      ((expander.limited limit).walkAll deeper nodes) := by
  induction depth, nodes using walk_induction (fun depth node => ∀ deeper, depth ≤ deeper →
    expander.Deepens (expander.walkNode depth node)
      ((expander.limited limit).walkNode deeper node)) generalizing deeper with
  | leaf depth kind text loc deeper less =>
      rw [walkNode_leaf, walkNode_leaf]
      exact .refl _
  | binop depth left operator right loc first second deeper less =>
      have first := first deeper less
      have second := second deeper less
      cases pacing : expander.pacing with
      | blocking =>
          have pacing' : (expander.limited limit).pacing = .blocking := pacing
          rw [walkNode_blocking depth pacing, walkNode_blocking deeper pacing']
          exact first.bind fun lefts => (Deepens.refl _).bind fun left =>
            second.bind fun rights => .refl _
      | concurrent =>
          have pacing' : (expander.limited limit).pacing = .concurrent := pacing
          rw [walkNode_concurrent depth pacing, walkNode_concurrent deeper pacing']
          exact first.bind fun lefts => second.bind fun rights => .refl _
  | bracket depth kind children loc produced inner deeper less =>
      rw [walkNode, walkNode, expandNode, expandNode]
      refine (Deepens.refl _).bind fun defines => ?_
      cases defines with
      | true => exact .refl _
      | false =>
          refine (Deepens.refl _).bind fun registered => ?_
          -- macros are not told how deep they may be nested
          have same : (expander.limited limit).expandCall? registered (.bracket kind children loc) =
            expander.expandCall? registered (.bracket kind children loc) := rfl
          rw [same]
          cases expander.expandCall? registered (.bracket kind children loc) with
          | error failure => exact .refl _
          | ok given =>
              cases given with
              | none => exact (inner less).bind fun children => .refl _
              | some nodes =>
                  cases depth with
                  | zero => exact fun registry => .inr ⟨loc, registry, rfl⟩
                  | succ depth =>
                      cases deeper with
                      | zero => cases less
                      | succ deeper =>
                          exact produced depth rfl nodes (Nat.le_of_succ_le_succ less)
  | nil depth =>
      rw [walkAll_nil, walkAll_nil]
      exact .refl _
  | cons depth node rest first others =>
      rw [walkAll_cons, walkAll_cons]
      exact (first deeper less).bind fun nodes => (others less).bind fun more => .refl _

end Deepening

/-! ## Nested expansions -/

section Nesting

variable {expander : Expander} {depth nested : Nat} {nodes : List Node} {registry : Registry}
  {visit : Visit}

/-- What the walk of nodes comes to, with how many nested expansions produced it: none, where calls
    may be nested as deep as at the start, and one more than a call, where the walk goes into what
    this call gave. -/
inductive Nested (expander : Expander) (depth : Nat) (nodes : List Node) (registry : Registry) :
    Nat → Visit → Prop
  | given {visit : Visit} (visits : expander.Visits depth nodes registry visit)
      (level : visit.depth = depth) : Nested expander depth nodes registry 0 visit
  | produced {nested less : Nat} {call visit : Visit} {more : List Node}
      (caller : Nested expander depth nodes registry nested call)
      (plain : call.node.definition? = .ok none)
      (called : expander.expandCall? call.registry call.node = .ok (some more))
      (left : call.depth = less + 1) (visits : expander.Visits less more call.registry visit)
      (level : visit.depth = less) : Nested expander depth nodes registry (nested + 1) visit

/-- A walk comes to what the walk of a node gets to that it comes to. -/
theorem Visits.trans {inner : Visit} (visits : expander.Visits depth nodes registry visit)
    (visits' : expander.Visits visit.depth [visit.node] visit.registry inner) :
    expander.Visits depth nodes registry inner := by
  induction visits with
  | here => exact visits'.first
  | later walked _ ih => exact .later walked (ih visits')
  | left _ ih => exact .left (ih visits')
  | right walked counted _ ih => exact .right walked counted (ih visits')
  | child plain kept _ ih => exact .child plain kept (ih visits')
  | produced plain called _ ih => exact .produced plain called (ih visits')

theorem bracket_of_call {expander : Expander} {registry : Registry} {node : Node}
    {more : List Node} (called : expander.expandCall? registry node = .ok (some more)) :
    ∃ kind children loc, node = .bracket kind children loc := by
  cases node with
  | leaf | binop => cases called
  | bracket kind children loc => exact ⟨kind, children, loc, rfl⟩

theorem Visits.into {less : Nat} {more : List Node} {inner : Visit}
    (visits : expander.Visits depth nodes registry visit)
    (plain : visit.node.definition? = .ok none)
    (called : expander.expandCall? visit.registry visit.node = .ok (some more))
    (left : visit.depth = less + 1) (visits' : expander.Visits less more visit.registry inner) :
    expander.Visits depth nodes registry inner := by
  obtain ⟨node, depth', registry'⟩ := visit
  obtain ⟨kind, children, loc, rfl⟩ := bracket_of_call called
  obtain rfl := left
  exact visits.trans (.produced plain called visits')

theorem Nested.visits (nests : expander.Nested depth nodes registry nested visit) :
    expander.Visits depth nodes registry visit := by
  induction nests with
  | given visits => exact visits
  | produced _ plain called left visits _ ih => exact ih.into plain called left visits

/-- Each nested expansion takes one off how deep calls may still be nested. -/
theorem Nested.depth_add (nests : expander.Nested depth nodes registry nested visit) :
    visit.depth + nested = depth := by
  induction nests with
  | given _ level => exact level
  | produced _ _ _ left _ level ih => omega

/-- What leads from some nodes to others leads from there on as well. -/
theorem Nested.map {before : List Node} {first : Registry}
    (nests : expander.Nested depth nodes registry nested visit)
    (leads : ∀ visit, expander.Visits depth nodes registry visit →
      expander.Visits depth before first visit) :
    expander.Nested depth before first nested visit := by
  induction nests with
  | given visits level => exact .given (leads _ visits) level
  | produced _ plain called left visits level ih =>
      exact .produced ih plain called left visits level

/-- What a call gave is nested once more than the call. -/
theorem Nested.into {call : Visit} {less : Nat} {more : List Node}
    (visits : expander.Visits depth nodes registry call) (level : call.depth = depth)
    (plain : call.node.definition? = .ok none)
    (called : expander.expandCall? call.registry call.node = .ok (some more))
    (left : depth = less + 1) (nests : expander.Nested less more call.registry nested visit) :
    expander.Nested depth nodes registry (nested + 1) visit := by
  induction nests with
  | given visits' level' =>
      exact .produced (.given visits level) plain called (level.trans left) visits' level'
  | produced _ plain' called' left' visits' level' ih =>
      exact .produced ih plain' called' left' visits' level'

/-- Whatever a walk comes to, some number of nested expansions produced it. -/
theorem Visits.exists_nested (visits : expander.Visits depth nodes registry visit) :
    ∃ nested, expander.Nested depth nodes registry nested visit := by
  induction visits with
  | here => exact ⟨0, .given (.here ..) rfl⟩
  | later walked _ ih =>
      obtain ⟨nested, nests⟩ := ih
      exact ⟨nested, nests.map fun _ => .later walked⟩
  | left _ ih =>
      obtain ⟨nested, nests⟩ := ih
      exact ⟨nested, nests.map fun _ => .left⟩
  | right walked counted _ ih =>
      obtain ⟨nested, nests⟩ := ih
      exact ⟨nested, nests.map fun _ => .right walked counted⟩
  | child plain kept _ ih =>
      obtain ⟨nested, nests⟩ := ih
      exact ⟨nested, nests.map fun _ => .child plain kept⟩
  | produced plain called _ ih =>
      obtain ⟨nested, nests⟩ := ih
      exact ⟨nested + 1, .into (.here ..) rfl plain called rfl nests⟩

/-- A call that may still be nested gives what the walk of its expansion gives. -/
theorem Nested.splices {limit : Nat} {more : List Node}
    (nests : expander.Nested limit nodes registry nested visit)
    (plain : visit.node.definition? = .ok none)
    (called : expander.expandCall? visit.registry visit.node = .ok (some more))
    (shallow : nested < limit) :
    ∃ less, visit.depth = less + 1 ∧
      expander.walkNode visit.depth visit.node visit.registry =
        expander.walkAll less more visit.registry := by
  have sum := nests.depth_add
  obtain ⟨node, depth, registry'⟩ := visit
  obtain ⟨kind, children, loc, rfl⟩ := bracket_of_call called
  obtain ⟨less, rfl⟩ := Nat.exists_eq_succ_of_ne_zero (show depth ≠ 0 by dsimp only at sum; omega)
  exact ⟨less, rfl, walkNode_call plain called⟩

theorem Nested.fails {more program : List Node}
    (nests : expander.Nested expander.maxDepth program registry nested visit)
    (plain : visit.node.definition? = .ok none)
    (called : expander.expandCall? visit.registry visit.node = .ok (some more))
    (deep : expander.maxDepth ≤ nested) :
    ∃ after, expander.expandProgram program registry =
      .error (expander.tooDeep visit.node.loc) after := by
  have sum := nests.depth_add
  have visits := nests.visits
  obtain ⟨node, depth, registry'⟩ := visit
  obtain ⟨kind, children, loc, rfl⟩ := bracket_of_call called
  obtain rfl : depth = 0 := by dsimp only at sum; omega
  exact ⟨registry', visits.fails (walkNode_call plain called)⟩

end Nesting

/-- Expansion ends, as the walk does that only counts nested expansions, and a failure to end would
    be that of a macro. Every node that it comes to is nested in a number of expansions. Where this
    is less than the limit, a call whose macro succeeds is replaced by what the walk of its
    expansion gives, and otherwise the whole expansion fails. Where it does not fail so, it gives
    the same with every wider limit. -/
theorem expandProgram_limited (expander : Expander) (program : List Node) (registry : Registry) :
    (expander.countingAll 0 program).run registry =
      some (Expanding.outcome (expander.expandProgram program registry)) ∧
    ((∀ call what, expander.executor.run call expander.services ≠ .error (.endless what)) →
      (expander.expandProgram program).Ends) ∧
    (∀ visit, expander.Reaches program registry visit ↔
      ∃ nested, expander.Nested expander.maxDepth program registry nested visit ∧
        visit.depth + nested = expander.maxDepth) ∧
    (∀ nested visit more, expander.Nested expander.maxDepth program registry nested visit →
      visit.node.definition? = .ok none →
      expander.expandCall? visit.registry visit.node = .ok (some more) →
      (nested < expander.maxDepth → ∃ less, visit.depth = less + 1 ∧
        expander.walkNode visit.depth visit.node visit.registry =
          expander.walkAll less more visit.registry) ∧
      (expander.maxDepth ≤ nested → ∃ after, expander.expandProgram program registry =
        .error (expander.tooDeep visit.node.loc) after)) ∧
    ((∀ loc after, expander.expandProgram program registry ≠ .error (expander.tooDeep loc) after) →
      ∀ limit, expander.maxDepth ≤ limit →
        (expander.limited limit).expandProgram program registry =
          expander.expandProgram program registry) := by
  refine ⟨?_, fun total => walkAll_ends total _ program, fun visit => ?_, ?_, ?_⟩
  · rw [countingAll_eq program (Nat.zero_add _)]
    rfl
  · constructor
    · intro reached
      obtain ⟨nested, nests⟩ := Visits.exists_nested reached
      exact ⟨nested, nests, nests.depth_add⟩
    · rintro ⟨nested, nests, -⟩
      exact nests.visits
  · intro nested visit more nests plain called
    exact ⟨nests.splices plain called, nests.fails plain called⟩
  · intro shallow limit wider
    obtain same | ⟨loc, after, fails⟩ := walkAll_deepens limit program wider registry
    · exact same
    · exact (shallow loc after fails).elim

/-- An expander whose macros all give a call of themselves. -/
def echoes : Expander where
  executor := { name := "echo", run := fun call _ => .ok (.node (.curly [.ident call.name])) }

/-- A macro that gives a call of itself is too deep where one expansion may be nested, and a macro
    that gives a number is not. -/
theorem expandProgram_limited_echoes :
    let program := [defining (.ident "m"), .curly [.ident "m"]]
    (∃ after, (echoes.limited 1).expandProgram program {} =
      .error ((echoes.limited 1).tooDeep none) after) ∧
    ((ones .blocking).limited 9).expandProgram program {} =
      ((ones .blocking).limited 1).expandProgram program {} := by
  intro program
  let registry : Registry := (Registry.register {} "m" (.defined ⟨[], [.number "1"]⟩)).1
  have outer : (echoes.limited 1).Nested 1 program {} 0 ⟨.curly [.ident "m"], 1, registry⟩ :=
    .given (.later (walkNode_definition rfl) (.here ..)) rfl
  have inner : (echoes.limited 1).Nested 1 program {} 1 ⟨.curly [.ident "m"], 0, registry⟩ :=
    .produced outer rfl rfl rfl (.here ..) rfl
  constructor
  · obtain ⟨-, -, -, calls, -⟩ := expandProgram_limited (echoes.limited 1) program {}
    exact (calls 1 _ _ inner rfl rfl).2 (Nat.le_refl 1)
  · obtain ⟨-, -, -, -, wider⟩ := expandProgram_limited ((ones .blocking).limited 1) program {}
    exact wider (fun _ _ => nofun) 9 (by decide)

end Expander
end TreeMacros
