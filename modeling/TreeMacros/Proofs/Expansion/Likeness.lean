import TreeMacros.Expander
import TreeMacros.Proofs.Evaluation.Likeness.Level

/-! # Expansions that are alike

Two expanders walk through programs that are alike and make of them programs that are alike, if
what their executors run is alike. What a macro gives may be registered as code in turn, so this
needs that macros may hold loops.
-/

namespace TreeMacros.Likeness

variable (L : Likeness) {α β γ δ : Type}

/-- Where two walks end. -/
inductive Arrives (R : α → β → Prop) : EStateM.Result Failure Registry α →
    EStateM.Result Failure Registry β → Prop
  | ok {a : α} {b : β} (results : R a b) {registry registry' : Registry}
      (registries : L.Registries registry registry') : Arrives R (.ok a registry) (.ok b registry')
  | fault {f f' : Fault} (faults : L.fault f f') {registry registry' : Registry}
      (registries : L.Registries registry registry') :
      Arrives R (.error (.fault f) registry) (.error (.fault f') registry')
  | endless (what : Endless) {registry registry' : Registry}
      (registries : L.Registries registry registry') :
      Arrives R (.error (.endless what) registry) (.error (.endless what) registry')
  | excused {failure : Failure} (excuse : L.excuses failure) (registry : Registry)
      (result : EStateM.Result Failure Registry β) : Arrives R (.error failure registry) result

/-- With registries that are alike, the walks go alike. -/
def Walks (R : α → β → Prop) (walk : Expanding α) (walk' : Expanding β) : Prop :=
  ∀ registry registry', L.Registries registry registry' →
    L.Arrives R (walk registry) (walk' registry')

variable {L} {R : α → β → Prop} {S : γ → δ → Prop}

namespace Walks

theorem pure {a : α} {b : β} (results : R a b) : L.Walks R (pure a) (pure b) :=
  fun _ _ registries => .ok results registries

theorem bind {walk : Expanding α} {walk' : Expanding β} {next : α → Expanding γ}
    {next' : β → Expanding δ} (first : L.Walks R walk walk')
    (rest : ∀ a b, R a b → L.Walks S (next a) (next' b)) :
    L.Walks S (walk >>= next) (walk' >>= next') := by
  intro registry registry' registries
  have arrives := first registry registry' registries
  simp only [Bind.bind, EStateM.bind]
  generalize walk registry = result, walk' registry' = result' at arrives
  cases arrives with
  | ok results registries => exact rest _ _ results _ _ registries
  | fault faults registries => exact .fault faults registries
  | endless what registries => exact .endless what registries
  | excused excuse => exact .excused excuse _ _

theorem fail (cause : Cause) {span span' : Option Span} (places : L.place span span') :
    L.Walks R (Expanding.fail cause span) (Expanding.fail cause span') :=
  fun _ _ registries => .fault (L.fault_of cause places) registries

theorem ofExcept {result : Except Fault α} {result' : Except Fault β}
    (like : Except.Like L.fault R result result') :
    L.Walks R (Expanding.ofExcept result) (Expanding.ofExcept result') := by
  cases like with
  | ok results => exact pure results
  | error faults => exact fun _ _ registries => .fault faults registries

end Walks

/-! ## Definitions -/

structure Records (record record' : Record) : Prop where
  name : record.name = record'.name
  definition : L.Definitions record.definition record'.definition

theorem definedParameters_like {nodes nodes' : List Node} (like : L.AllCode nodes nodes') :
    Except.Like L.fault Eq (definedParameters nodes) (definedParameters nodes') := by
  unfold definedParameters
  induction like with
  | nil => exact .ok rfl
  | @cons node node' rest rest' first _ ih =>
      rw [List.mapM_cons, List.mapM_cons, first.ident?_eq]
      cases node'.ident? with
      | none => exact .error (L.fault_of _ first.loc)
      | some name => exact ih.bind fun _ _ same => .ok (congrArg (name :: ·) same)

/-- A form with as many parts as a definition has. -/
theorem definition?_like_form {first first' second second' name name' params params' : Node}
    {body body' : List Node} (firsts : L.Code first first') (seconds : L.Code second second')
    (names : L.Code name name') (parameters : L.Code params params')
    (code : L.AllCode body body') {loc loc' : Option Span} (places : L.place loc loc') :
    Except.Like L.fault (Option.Rel L.Records)
      (Node.definition? (.bracket .curly (first :: second :: name :: params :: body) loc))
      (Node.definition?
        (.bracket .curly (first' :: second' :: name' :: params' :: body') loc')) := by
  have malformed : Except.Like L.fault (Option.Rel L.Records)
      (.error { cause := .definitionForm, span := loc })
      (.error { cause := .definitionForm, span := loc' }) := .error (L.fault_of _ places)
  have starts : (first.isIdent "def" && second.isIdent "macro" && !body.isEmpty) =
      (first'.isIdent "def" && second'.isIdent "macro" && !body'.isEmpty) := by
    rw [Node.isIdent, Node.isIdent, firsts.ident?_eq, seconds.ident?_eq]
    cases code <;> rfl
  simp only [Node.definition?, starts, names.ident?_eq]
  split_ifs
  · cases name'.ident? with
    | none => exact malformed
    | some name =>
        cases parameters with
        | bracket kind params =>
            cases kind with
            | square =>
                exact (definedParameters_like params).bind fun _ _ same =>
                  .ok (.some ⟨rfl, same, code⟩)
            | _ => exact malformed
        | _ => exact malformed
  · exact .ok .none

theorem definition?_like {node node' : Node} (like : L.Code node node') :
    Except.Like L.fault (Option.Rel L.Records) node.definition? node'.definition? := by
  have absent : Except.Like L.fault (Option.Rel L.Records) (.ok none) (.ok none) := .ok .none
  cases like with
  | leaf => exact absent
  | binop => exact absent
  | bracket kind all places =>
      cases kind with
      | curly =>
          match all with
          | .nil | .cons _ .nil | .cons _ (.cons _ .nil) | .cons _ (.cons _ (.cons _ .nil)) =>
              exact absent
          | .cons first (.cons second (.cons name (.cons params body))) =>
              exact definition?_like_form first second name params body places
      | _ => exact absent

/-! ## Calls -/

theorem call?_like {node node' : Node} (like : L.Data node node') {registry registry' : Registry}
    (registries : L.Registries registry registry') :
    Option.Rel (fun call call' => call.1 = call'.1 ∧ L.Entries call.2.1 call'.2.1 ∧
        L.AllData call.2.2 call'.2.2)
      (node.call? registry) (node'.call? registry') := by
  cases like with
  | leaf => exact .none
  | binop => exact .none
  | bracket kind all places =>
      cases kind with
      | curly =>
          cases all with
          | nil => exact .none
          | @cons head head' _ _ first rest =>
              simp only [Node.call?, first.ident?_eq]
              cases head'.ident? with
              | none => exact .none
              | some name =>
                  have entries := registries name
                  dsimp only [Option.bind_eq_bind, Option.bind_some]
                  generalize registry.get? name = found, registry'.get? name = found' at entries
                  cases entries with
                  | none => exact .none
                  | some like => exact .some ⟨rfl, like, rest⟩
      | _ => exact .none

variable (L) in
/-- Two expanders whose executors run what is alike alike. -/
structure Expanders (expander expander' : Expander) : Prop where
  services : expander.services = L.services
  services' : expander'.services = L.services'
  maxDepth : expander.maxDepth = expander'.maxDepth
  pacing : expander.pacing = expander'.pacing
  run : ∀ name {definition definition'}, L.Definitions definition definition' →
    ∀ {nodes nodes'}, L.AllData nodes nodes' →
      ∀ {registry registry'}, L.Registries registry registry' →
        L.Outcomes L.Expansions
          (expander.executor.run ⟨name, definition, nodes, registry⟩ expander.services)
          (expander'.executor.run ⟨name, definition', nodes', registry'⟩ expander'.services)

theorem Registries.register {registry registry' : Registry}
    (registries : L.Registries registry registry') (name : String) {entry entry' : Entry}
    (like : L.Entries entry entry') :
    L.Registries (registry.register name entry).1 (registry'.register name entry').1 := by
  intro key
  simp only [Registry.get?, Registry.register, Fields.lookup_set]
  split
  · exact .some like
  · exact registries key

namespace Expanders

variable {expander expander' : Expander} (expanders : L.Expanders expander expander')

include expanders

theorem runEntry (name : String) {entry entry' : Entry} (entries : L.Entries entry entry')
    {nodes nodes' : List Node} (all : L.AllData nodes nodes') {registry registry' : Registry}
    (registries : L.Registries registry registry') :
    L.Outcomes L.Expansions (expander.runEntry registry name nodes entry)
      (expander'.runEntry registry' name nodes' entry') := by
  cases entries with
  | @native run run' like =>
      have results := like all
      simp only [Expander.runEntry, expanders.services, expanders.services']
      generalize run nodes L.services = result, run' nodes' L.services' = result' at results
      cases results with
      | ok results => exact .ok results
      | error faults => exact .fault faults
  | defined like => exact expanders.run name like all registries

theorem expandCall? {node node' : Node} (like : L.Data node node')
    {registry registry' : Registry} (registries : L.Registries registry registry') :
    L.Outcomes (Option.Rel L.AllData) (expander.expandCall? registry node)
      (expander'.expandCall? registry' node') := by
  have calls := call?_like like registries
  unfold Expander.expandCall?
  generalize node.call? registry = call, node'.call? registry' = call' at calls
  cases calls with
  | none => exact .ok .none
  | @some call call' like' =>
      obtain ⟨name, entry, nodes⟩ := call
      obtain ⟨name', entry', nodes'⟩ := call'
      obtain ⟨rfl, entries, all⟩ := like'
      have outcome := expanders.runEntry name entries all registries
      dsimp only
      generalize expander.runEntry registry name nodes entry = result,
        expander'.runEntry registry' name nodes' entry' = result' at outcome
      cases outcome with
      | ok results => exact .ok (.some results.toList)
      | fault faults => exact .fault (L.fault_locate faults like.loc)
      | endless what turns => exact .endless what turns
      | excused excuse => exact .excused (L.excuses_locate _ excuse) _

end Expanders

namespace Walks

theorem get : L.Walks L.Registries MonadState.get MonadState.get :=
  fun _ _ registries => .ok registries registries

theorem define? (loops : L.loops) {node node' : Node} (like : L.Data node node') :
    L.Walks Eq (Expander.define? node) (Expander.define? node') := by
  have code : L.Code node node' := Node.Like.mono (fun _ => loops) like
  refine (ofExcept (definition?_like code)).bind fun found found' records => ?_
  cases records with
  | none => exact pure rfl
  | @some record record' like =>
      obtain ⟨name, definition⟩ := record
      obtain ⟨name', definition'⟩ := record'
      obtain ⟨rfl, definitions⟩ := like
      exact fun _ _ registries => .ok rfl (registries.register name (.defined definitions))

theorem single {loc loc' : Option Span} (places : L.place loc loc') {nodes nodes' : List Node}
    (all : L.AllData nodes nodes') :
    L.Walks L.Data (Expander.single loc nodes) (Expander.single loc' nodes') := by
  match all with
  | .nil => exact fail _ places
  | .cons like .nil => exact pure like
  | .cons _ (.cons _ rest) =>
      simp only [Expander.single, List.length_cons, rest.length_eq]
      exact fail _ places

end Walks

/-! ## The walk -/

namespace Expanders

variable {expander expander' : Expander} {deeper deeper' : Option Span → List Node →
  Expanding (List Node)}

mutual

theorem expandNode (expanders : L.Expanders expander expander') (loops : L.loops)
    (walks : ∀ {loc loc'}, L.place loc loc' → ∀ {nodes nodes'}, L.AllData nodes nodes' →
      L.Walks L.AllData (deeper loc nodes) (deeper' loc' nodes'))
    {node node' : Node} (like : L.Data node node') :
    L.Walks L.AllData (expander.expandNode deeper node) (expander'.expandNode deeper' node') := by
  cases like with
  | leaf kind text places =>
      rw [Expander.expandNode, Expander.expandNode]
      exact .pure (.cons (.leaf kind text places) .nil)
  | binop lefts operator rights places =>
      have left := expandNode expanders loops walks lefts
      have right := expandNode expanders loops walks rights
      rw [Expander.expandNode, Expander.expandNode, expanders.pacing]
      cases expander'.pacing with
      | blocking =>
          exact left.bind fun _ _ all => (Walks.single places all).bind fun _ _ lefts =>
            right.bind fun _ _ all => (Walks.single places all).bind fun _ _ rights =>
              .pure (.cons (.binop lefts operator rights places) .nil)
      | concurrent =>
          exact left.bind fun _ _ all => right.bind fun _ _ all' =>
            (Walks.single places all).bind fun _ _ lefts =>
              (Walks.single places all').bind fun _ _ rights =>
                .pure (.cons (.binop lefts operator rights places) .nil)
  | bracket kind all places turns =>
      have like := Node.Like.bracket kind all places turns
      have children := expandAll expanders loops walks all
      rw [Expander.expandNode, Expander.expandNode]
      refine (Walks.define? loops like).bind fun defines _ same => ?_
      subst same
      cases defines with
      | true => exact .pure .nil
      | false =>
          refine Walks.get.bind fun registry registry' registries => ?_
          have outcome := expanders.expandCall? like registries
          generalize expander.expandCall? registry _ = result,
            expander'.expandCall? registry' _ = result' at outcome
          cases outcome with
          | ok given =>
              cases given with
              | none =>
                  exact children.bind fun _ _ all =>
                    .pure (.cons (.bracket kind all places fun _ => trivial) .nil)
              | some nodes => exact walks places nodes
          | fault faults => exact fun _ _ registries => .fault faults registries
          | endless what => exact fun _ _ registries => .endless what registries
          | excused excuse => exact fun _ _ _ => .excused excuse _ _
termination_by sizeOf node

theorem expandAll (expanders : L.Expanders expander expander') (loops : L.loops)
    (walks : ∀ {loc loc'}, L.place loc loc' → ∀ {nodes nodes'}, L.AllData nodes nodes' →
      L.Walks L.AllData (deeper loc nodes) (deeper' loc' nodes'))
    {nodes nodes' : List Node} (all : L.AllData nodes nodes') :
    L.Walks L.AllData (expander.expandAll deeper nodes) (expander'.expandAll deeper' nodes') := by
  cases all with
  | nil =>
      rw [Expander.expandAll, Expander.expandAll]
      exact .pure .nil
  | cons first rest =>
      have here := expandNode expanders loops walks first
      have there := expandAll expanders loops walks rest
      rw [Expander.expandAll, Expander.expandAll]
      exact here.bind fun _ _ first => there.bind fun _ _ others =>
        .pure (List.rel_append first others)
termination_by sizeOf nodes

end

theorem expandDeeper (expanders : L.Expanders expander expander') (loops : L.loops) (depth : Nat)
    {loc loc' : Option Span} (places : L.place loc loc') {nodes nodes' : List Node}
    (all : L.AllData nodes nodes') :
    L.Walks L.AllData (expander.expandDeeper depth loc nodes)
      (expander'.expandDeeper depth loc' nodes') := by
  induction depth generalizing loc loc' nodes nodes' with
  | zero =>
      rw [Expander.expandDeeper, Expander.expandDeeper, expanders.maxDepth]
      exact .fail _ places
  | succ depth ih =>
      rw [Expander.expandDeeper, Expander.expandDeeper]
      exact expanders.expandAll loops ih all

/-- Programs that are alike become programs that are alike. -/
theorem expandProgram (expanders : L.Expanders expander expander') (loops : L.loops)
    {program program' : List Node} (all : L.AllData program program') :
    L.Walks L.AllData (expander.expandProgram program) (expander'.expandProgram program') := by
  rw [Expander.expandProgram, Expander.expandProgram, expanders.maxDepth]
  exact expanders.expandAll loops (expanders.expandDeeper loops _) all

end Expanders

end TreeMacros.Likeness
