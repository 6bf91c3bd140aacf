import TreeMacros.Proofs.Expansion.Likeness

/-! # Expansion ignores places

Where the nodes of a program were read decides where faults are blamed, and nothing else. Programs
that are the same for comparison become programs that are the same, or fail in the same way, if
the macros are the same, and if host code does not look at places either.
-/

namespace TreeMacros

/-- Two faults of one family and one wording, wherever they are blamed. -/
def Fault.Matches (f f' : Fault) : Prop :=
  f.kind = f'.kind ∧ f.message = f'.message

/-- Whether two expansions are the same up to the places of their nodes. -/
def Expansion.same : Expansion → Expansion → Bool
  | node n, node n' => n.same n'
  | nodes ns, nodes ns' => Node.sameAll ns ns'
  | _, _ => false

/-- The host makes of nodes that are the same nodes that are the same. -/
structure Services.IgnorePlaces (services : Services) : Prop where
  regular : ∀ nodes nodes', Node.sameAll nodes nodes' = true →
    Node.sameAll (services.regular nodes) (services.regular nodes') = true
  group : ∀ nodes nodes', Node.sameAll nodes nodes' = true →
    Except.Like Fault.Matches (Node.sameAll · · = true) (services.group nodes)
      (services.group nodes')

/-- Two macros that are the same up to the places of nodes. -/
inductive Entry.Same (services : Services) : Entry → Entry → Prop
  | native {run run' : NativeMacro}
      (results : ∀ nodes nodes', Node.sameAll nodes nodes' = true →
        Except.Like Fault.Matches (Expansion.same · · = true) (run nodes services)
          (run' nodes' services)) : Same services (.native run) (.native run')
  | defined (params : List String) {body body' : List Node}
      (bodies : Node.sameAll body body' = true) :
      Same services (.defined ⟨params, body⟩) (.defined ⟨params, body'⟩)

/-- Two registries of the same names, in any order, with macros that are the same. -/
def Registry.Same (services : Services) (registry registry' : Registry) : Prop :=
  ∀ name, Option.Rel (Entry.Same services) (registry.get? name) (registry'.get? name)

/-- Two walks that end in the same way: with nodes that are the same, with faults that match, or
    with the same thing that goes on forever. -/
inductive SameEnd (services : Services) : EStateM.Result Failure Registry (List Node) →
    EStateM.Result Failure Registry (List Node) → Prop
  | ok {nodes nodes' : List Node} (same : Node.sameAll nodes nodes' = true)
      {after after' : Registry} (registries : after.Same services after') :
      SameEnd services (.ok nodes after) (.ok nodes' after')
  | fault {f f' : Fault} (faults : f.Matches f') {after after' : Registry}
      (registries : after.Same services after') :
      SameEnd services (.error (.fault f) after) (.error (.fault f') after')
  | endless (what : Endless) {after after' : Registry}
      (registries : after.Same services after') :
      SameEnd services (.error (.endless what) after) (.error (.endless what) after')

/-! ## Grouping -/

namespace Grouping

abbrev Like : Node → Node → Prop :=
  Node.Like (fun _ _ => True) True

def Waiting (pending pending' : PendingOperator) : Prop :=
  pending.operator = pending'.operator

variable {operands operands' : List Node} {waiting waiting' : List PendingOperator}

theorem apply_like {pending pending' : PendingOperator} (operators : Waiting pending pending')
    {left left' right right' : Node} (lefts : Like left left') (rights : Like right right') :
    Like (pending.apply left right) (pending'.apply left' right') := by
  unfold PendingOperator.apply
  rw [operators]
  exact .binop lefts _ rights trivial

theorem applyPreceding_like (next : OperatorInfo) (all : List.Forall₂ Like operands operands')
    (pending : List.Forall₂ Waiting waiting waiting') :
    Except.Like Fault.Matches
      (fun found found' => List.Forall₂ Like found.1 found'.1 ∧
        List.Forall₂ Waiting found.2 found'.2)
      (applyPreceding next operands waiting) (applyPreceding next operands' waiting') := by
  induction pending generalizing operands operands' with
  | nil => exact .ok ⟨all, .nil⟩
  | cons first rest ih =>
      unfold applyPreceding
      rw [first]
      split
      · match all with
        | .nil | .cons _ .nil => exact .error ⟨rfl, rfl⟩
        | .cons right (.cons left others) => exact ih (.cons (apply_like first left right) others)
      · exact .ok ⟨all, .cons first rest⟩

theorem applyAll_like (all : List.Forall₂ Like operands operands')
    (pending : List.Forall₂ Waiting waiting waiting') :
    Except.Like Fault.Matches (List.Forall₂ Like) (applyAll operands waiting)
      (applyAll operands' waiting') := by
  induction pending generalizing operands operands' with
  | nil => exact .ok all
  | cons first _ ih =>
      unfold applyAll
      rw [first]
      match all with
      | .nil | .cons _ .nil => exact .error ⟨rfl, rfl⟩
      | .cons right (.cons left others) => exact ih (.cons (apply_like first left right) others)

end Grouping

open Grouping

mutual

theorem Node.grouped_like {node node' : Node} (like : Like node node') :
    Except.Like Fault.Matches Like node.grouped node'.grouped := by
  cases like with
  | leaf kind text places =>
      simp only [Node.grouped]
      exact .ok (.leaf kind text places)
  | binop lefts operator rights places =>
      simp only [Node.grouped]
      exact .ok (.binop lefts operator rights places)
  | bracket kind all places turns =>
      rw [Node.grouped, Node.grouped]
      exact (groupFrom_like .nil .nil true all).bind fun _ _ all =>
        .ok (.bracket kind all trivial fun _ => trivial)
termination_by sizeOf node

theorem groupFrom_like {operands operands' : List Node} {waiting waiting' : List PendingOperator}
    (all : List.Forall₂ Like operands operands')
    (pending : List.Forall₂ Waiting waiting waiting') (afterOperand : Bool)
    {nodes nodes' : List Node} (rest : List.Forall₂ Like nodes nodes') :
    Except.Like Fault.Matches (List.Forall₂ Like) (groupFrom operands waiting afterOperand nodes)
      (groupFrom operands' waiting' afterOperand nodes') := by
  cases rest with
  | nil =>
      rw [groupFrom, groupFrom]
      exact (applyAll_like all pending).bind fun _ _ all => .ok (List.rel_reverse all)
  | @cons node node' rest rest' first others =>
      have operand := Node.grouped_like first
      have goesOn := fun {operands operands'} {waiting waiting'}
        (all : List.Forall₂ Like operands operands')
        (pending : List.Forall₂ Waiting waiting waiting') (afterOperand : Bool) =>
          groupFrom_like all pending afterOperand others
      have plain : Except.Like Fault.Matches (List.Forall₂ Like)
          (if afterOperand then do
            let operands ← applyAll operands waiting
            let operand ← node.grouped
            groupFrom (operand :: operands) [] true rest
          else do
            let operand ← node.grouped
            groupFrom (operand :: operands) waiting true rest)
          (if afterOperand then do
            let operands ← applyAll operands' waiting'
            let operand ← node'.grouped
            groupFrom (operand :: operands) [] true rest'
          else do
            let operand ← node'.grouped
            groupFrom (operand :: operands') waiting' true rest') := by
        split
        · exact (applyAll_like all pending).bind fun _ _ all => operand.bind fun _ _ like =>
            goesOn (.cons like all) .nil true
        · exact operand.bind fun _ _ like => goesOn (.cons like all) pending true
      cases first with
      | leaf kind text places =>
          cases kind with
          | operator =>
              have same : ∀ loc loc', Waiting ⟨text, loc⟩ ⟨text, loc'⟩ := fun _ _ => rfl
              rw [groupFrom, groupFrom]
              exact (applyPreceding_like _ all pending).bind fun _ _ found =>
                goesOn found.1 (.cons (same _ _) found.2) false
          | _ =>
              simp only [groupFrom]
              exact plain
      | _ =>
          simp only [groupFrom]
          exact plain
termination_by sizeOf nodes

end

theorem Services.plain_ignorePlaces : Services.plain.IgnorePlaces where
  regular _ _ same := same
  group nodes nodes' same := by
    have grouped := groupFrom_like .nil .nil true (Node.like_iff_sameAll.mpr same)
    exact grouped.imp fun _ _ => Node.like_iff_sameAll.mp

/-! ## Expansion -/

/-- All places count as the same. -/
def Likeness.unplaced (services : Services) (ignores : services.IgnorePlaces) : Likeness where
  place _ _ := True
  fault := Fault.Matches
  loops := True
  excuses _ := False
  services := services
  services' := services
  place_refl _ := trivial
  fault_of _ _ _ _ := ⟨rfl, rfl⟩
  fault_locate same _ := same
  excuses_locate _ := id
  regular like :=
    Node.like_iff_sameAll.mpr (ignores.regular _ _ (Node.like_iff_sameAll.mp like))
  parse _ := .refl (fun _ => ⟨rfl, rfl⟩)
    (fun nodes => Node.Like.reflAll (fun _ => trivial) nodes (absurd trivial)) _
  group like :=
    (ignores.group _ _ (Node.like_iff_sameAll.mp like)).imp fun _ _ => Node.like_iff_sameAll.mpr

namespace Likeness.unplaced

variable {services : Services} {ignores : services.IgnorePlaces}

theorem expansions_iff {expansion expansion' : Expansion} :
    (unplaced services ignores).Expansions expansion expansion' ↔
      expansion.same expansion' = true := by
  constructor
  · intro like
    cases like with
    | node like => exact Node.like_iff_same.mp like
    | nodes all => exact Node.like_iff_sameAll.mp all
  · intro same
    match expansion, expansion', same with
    | .node _, .node _, same => exact .node (Node.like_iff_same.mpr same)
    | .nodes _, .nodes _, same => exact .nodes (Node.like_iff_sameAll.mpr same)

theorem entries_iff {entry entry' : Entry} :
    (unplaced services ignores).Entries entry entry' ↔ Entry.Same services entry entry' := by
  constructor
  · intro like
    cases like with
    | native like =>
        exact .native fun _ _ same =>
          (like (Node.like_iff_sameAll.mpr same)).imp fun _ _ => expansions_iff.mp
    | @defined definition definition' like =>
        obtain ⟨params, body⟩ := definition
        obtain ⟨params', body'⟩ := definition'
        obtain ⟨rfl, bodies⟩ := like
        exact .defined params (Node.like_iff_sameAll.mp bodies)
  · intro same
    cases same with
    | native results =>
        exact .native fun like =>
          (results _ _ (Node.like_iff_sameAll.mp like)).imp fun _ _ => expansions_iff.mpr
    | defined params bodies => exact .defined ⟨rfl, Node.like_iff_sameAll.mpr bodies⟩

theorem registries_iff {registry registry' : Registry} :
    (unplaced services ignores).Registries registry registry' ↔
      registry.Same services registry' :=
  ⟨fun like name => optionRel_imp (fun _ _ => entries_iff.mp) (like name),
    fun same name => optionRel_imp (fun _ _ => entries_iff.mpr) (same name)⟩

theorem expanders (limit maxDepth : Nat) (pacing : Pacing) :
    let expander : Expander := { executor := .inProcess limit, services, maxDepth, pacing }
    (unplaced services ignores).Expanders expander expander where
  services := rfl
  services' := rfl
  maxDepth := rfl
  pacing := rfl
  run _ _ _ definitions _ _ all _ _ registries := by
    have machines : (unplaced services ignores).Machines
        { registry := _, services, maxDepth := limit }
        { registry := _, services, maxDepth := limit } := ⟨registries, rfl, rfl, rfl, rfl⟩
    exact machines.run (.floor rfl) (Nat.zero_add _).symm definitions all

end Likeness.unplaced

/-- Expanding programs that are the same with macros that are the same gives nodes that are the
    same, or faults that are, or goes on forever in the same way. -/
theorem Expander.expandProgram_ignores_places {services : Services}
    (ignores : services.IgnorePlaces) (limit maxDepth : Nat) (pacing : Pacing)
    {registry registry' : Registry} (registries : registry.Same services registry')
    {program program' : List Node} (same : Node.sameAll program program' = true) :
    let expander : Expander := { executor := .inProcess limit, services, maxDepth, pacing }
    SameEnd services (expander.expandProgram program registry)
      (expander.expandProgram program' registry') := by
  intro expander
  have arrives := (Likeness.unplaced.expanders limit maxDepth pacing).expandProgram trivial
    (Node.like_iff_sameAll.mpr same) registry registry'
    ((@Likeness.unplaced.registries_iff _ ignores _ _).mpr registries)
  generalize expander.expandProgram program registry = result,
    expander.expandProgram program' registry' = result' at arrives
  cases arrives with
  | ok all after =>
      exact .ok (Node.like_iff_sameAll.mp all) (Likeness.unplaced.registries_iff.mp after)
  | fault faults after => exact .fault faults (Likeness.unplaced.registries_iff.mp after)
  | endless what after => exact .endless what (Likeness.unplaced.registries_iff.mp after)
  | excused excuse => exact excuse.elim

/-- Two registries that hold the same macros in different orders, and two calls of one of them. -/
theorem Expander.expandProgram_ignores_places_moved :
    let span : Span := ⟨⟨0, 1, 1⟩, ⟨9, 1, 10⟩⟩
    let twice : Definition := ⟨["x"], [.binary (.ident "x") "+" (.ident "x")]⟩
    let twice' : Definition := ⟨["x"], [(Node.binary (.ident "x") "+" (.ident "x")).located span]⟩
    let nothing : Definition := ⟨[], [.ident "null"]⟩
    let registry : Registry :=
      ((Registry.register {} "twice" (.defined twice)).1.register "nothing" (.defined nothing)).1
    let registry' : Registry :=
      ((Registry.register {} "nothing" (.defined nothing)).1.register "twice" (.defined twice')).1
    let expander : Expander :=
      { executor := .inProcess 512, services := .plain, maxDepth := 128, pacing := .blocking }
    SameEnd .plain
      (expander.expandProgram [.curly [.ident "twice", .string "a"]] registry)
      (expander.expandProgram [(Node.curly [.ident "twice", .string "a"]).located span]
        registry') := by
  intro span twice twice' nothing registry registry' expander
  have registries : registry.Same .plain registry' := by
    intro name
    simp only [registry, registry', Registry.get?, Registry.register, Fields.lookup_set]
    by_cases first : name = "twice"
    · subst first
      exact .some (.defined ["x"] (by decide))
    · by_cases second : name = "nothing"
      · subst second
        exact .some (.defined [] (by decide))
      · simp only [first, second, if_false]
        exact .none
  exact Expander.expandProgram_ignores_places Services.plain_ignorePlaces 512 128 .blocking
    registries (by decide)

end TreeMacros
