import TreeMacros.Proofs.Evaluation.Mutation
import TreeMacros.Proofs.Evaluation.Naming
import TreeMacros.Proofs.Evaluation.Template

/-! # Nodes taken apart and made again

A macro body takes a node apart by reading its members, and makes nodes with the makers. The maker
of the kind of a node, called with the members of the node, makes this node again, but for its
place: the children are the very ones that were read. So code that is taken apart and rebuilt from
its leaves up, to whatever depth, is the same code.
-/

namespace TreeMacros

namespace NodeMaker

/-- The members of a node that its maker takes, in order. -/
def members : NodeMaker → List String
  | leaf _ => ["value"]
  | binop => ["left", "op", "right"]
  | bracket _ => ["nodes"]

end NodeMaker

namespace Node

/-- The maker of the kind of a node, as a value. -/
def maker (node : Node) (identity : Identity) : Value :=
  .native identity (.maker (.ofNode node))

/-- The members of a node that the maker of its kind takes. A member that is missing is null. -/
def memberValues (node : Node) : Eval (List Value) :=
  (NodeMaker.ofNode node).members.mapM fun name => do
    return (← (Value.node node).member? name).getD .null

/-- No node in this one has a place. -/
def IsUnplaced (node : Node) : Prop :=
  ∀ inner, node.Contains inner → inner.loc = none

end Node

section Making

variable (machine : Machine) (level : Level) (identity : Identity)

/-- Call the maker of the kind of a node with the members of the node. -/
def Node.remade (node : Node) : Eval Value := do
  (node.maker identity).call machine level (← node.memberValues)

/-- Rebuild a value from the leaves up, as deep as is asked for: first the members of a node or the
    items of a list, and of these the node or the list. -/
def Value.rebuilt : Nat → Value → Eval Value
  | 0, value => return value
  | depth + 1, .node n => do
    let arguments ← (← n.memberValues).mapM (rebuilt depth)
    (n.maker identity).call machine level arguments
  | depth + 1, .list id => do
    let items ← (← Eval.items id).toList.mapM (rebuilt depth)
    Eval.newList items.toArray
  | _ + 1, value => return value

end Making

/-! ## Members and makers -/

namespace Node

section Kinds

variable (kind : LeafKind) (text : String) (left right : Node) (operator : String)
  (bracketKind : Bracket) (children : List Node) (loc : Option Span)

theorem memberValues_leaf : (leaf kind text loc).memberValues = pure [.text text] :=
  rfl

theorem memberValues_binop :
    (binop left operator right loc).memberValues =
      pure [.node left, .text operator, .node right] :=
  rfl

theorem memberValues_bracket :
    (bracket bracketKind children loc).memberValues =
      (return [← Eval.newNodeList children]) :=
  rfl

end Kinds

theorem same_refl (node : Node) : node.same node = true :=
  like_iff_same.mp (.refl (fun _ => trivial) node fun no => absurd trivial no)

theorem isUnplaced_leaf {kind : LeafKind} {text : String} : (leaf kind text none).IsUnplaced := by
  simp [IsUnplaced, loc]

theorem isUnplaced_binop {left right : Node} {operator : String} (lefts : left.IsUnplaced)
    (rights : right.IsUnplaced) : (binop left operator right none).IsUnplaced := by
  simp only [IsUnplaced, contains_binop]
  rintro inner (rfl | inside | inside)
  · rfl
  · exact lefts inner inside
  · exact rights inner inside

theorem isUnplaced_bracket {kind : Bracket} {children : List Node}
    (all : ∀ child ∈ children, child.IsUnplaced) : (bracket kind children none).IsUnplaced := by
  simp only [IsUnplaced, contains_bracket]
  rintro inner (rfl | ⟨child, mem, inside⟩)
  · rfl
  · exact all child mem inner inside

end Node

section Calls

variable (machine : Machine) (level : Level) (identity : Identity) (store : Store)

theorem Node.call_maker_bracket {kind : Bracket} {children made : List Node} {loc : Option Span}
    {id : ListId} (items : store.items id = (made.map Value.node).toArray) :
    ((bracket kind children loc).maker identity).call machine level [.list id] store =
      .ok (.node (bracket kind made none)) store := by
  have nodes : (Value.list id).nodeItems store = made := by
    simp [Value.nodeItems, items, List.filterMap_map, Function.comp_def, Value.node?]
  have called : ((bracket kind children loc).maker identity).call machine level [.list id] store =
      .ok (.node (bracket kind ((Value.list id).nodeItems store) none)) store := rfl
  rw [called, nodes]

/-- A node is made again with the parts that it has. -/
theorem Node.remade_eq_ok (node : Node) :
    ∃ made after, node.remade machine level identity store = .ok (.node made) after ∧
      made.same node = true ∧ made.parts = node.parts ∧ made.loc = none ∧
      store.KeepsBut none after := by
  cases node with
  | leaf kind text loc =>
      exact ⟨leaf kind text none, store, rfl, by simp [same], rfl, rfl, .refl store⟩
  | binop left operator right loc =>
      refine ⟨binop left operator right none, store, rfl, ?_, rfl, rfl, .refl store⟩
      simp [same, same_refl]
  | bracket kind children loc =>
      let read := store.newList (children.map Value.node).toArray
      have called : (bracket kind children loc).remade machine level identity store =
          ((bracket kind children loc).maker identity).call machine level [.list read.1] read.2 :=
        rfl
      refine ⟨bracket kind children none, read.2, ?_, ?_, rfl, rfl, .newList store _⟩
      · rw [called]
        exact Node.call_maker_bracket machine level identity read.2 (store.items_newList _)
      · have unplaced := (bracket kind children none).same_refl
        simpa only [same] using unplaced

end Calls

/-! ## Rebuilding -/

/-- The second node is the first one, rebuilt to some depth: it is the same but for places, and no
    place is left in it if the first one is smaller than the depth. -/
structure Node.RebuiltAs (depth : Nat) (node made : Node) : Prop where
  like : made.Like (fun _ _ => True) True node
  unplaced : sizeOf node < depth → made.IsUnplaced

theorem Node.isUnplaced_of_rebuilt {depth : Nat} {nodes made : List Node}
    (relate : List.Forall₂ (RebuiltAs depth) nodes made)
    (small : ∀ node ∈ nodes, sizeOf node < depth) : ∀ node ∈ made, node.IsUnplaced := by
  induction relate with
  | nil => simp
  | cons first _ ih =>
      rw [List.forall_mem_cons] at small ⊢
      exact ⟨first.unplaced small.1, ih small.2⟩

theorem mapM_nodes {each : Value → Eval Value} {related : Node → Node → Prop}
    (one : ∀ node store, ∃ made after, each (.node node) store = .ok (.node made) after ∧
      related node made ∧ store.KeepsBut none after) (nodes : List Node) (store : Store) :
    ∃ made after, (nodes.map Value.node).mapM each store = .ok (made.map Value.node) after ∧
      List.Forall₂ related nodes made ∧ store.KeepsBut none after := by
  induction nodes generalizing store with
  | nil => exact ⟨[], store, rfl, .nil, .refl store⟩
  | cons node rest ih =>
      obtain ⟨first, middle, here, relates, kept⟩ := one node store
      obtain ⟨others, after, there, relate, kept'⟩ := ih middle
      refine ⟨first :: others, after, ?_, .cons relates relate, kept.trans kept'⟩
      rw [List.map_cons, List.mapM_cons, Eval.bind_eq_ok]
      refine ⟨_, middle, here, ?_⟩
      rw [Eval.bind_eq_ok]
      exact ⟨_, after, there, rfl⟩

section Rebuilding

variable (machine : Machine) (level : Level) (identity : Identity)

theorem rebuilt_text (depth : Nat) (text : String) (store : Store) :
    (Value.text text).rebuilt machine level identity depth store = .ok (.text text) store := by
  cases depth <;> rfl

theorem rebuilt_succ (depth : Nat) (node : Node) :
    (Value.node node).rebuilt machine level identity (depth + 1) =
      (node.memberValues >>= fun members =>
        members.mapM (Value.rebuilt machine level identity depth) >>= fun arguments =>
          (node.maker identity).call machine level arguments) :=
  rfl

/-- A list of nodes is rebuilt as a list of rebuilt nodes. -/
theorem rebuilt_list {depth : Nat}
    (deeper : ∀ less < depth, ∀ node store, ∃ made after,
      (Value.node node).rebuilt machine level identity less store = .ok (.node made) after ∧
      node.RebuiltAs (less + 1) made ∧ store.KeepsBut none after)
    {nodes : List Node} {id : ListId} {store : Store}
    (items : store.items id = (nodes.map Value.node).toArray) :
    ∃ made id' after,
      (Value.list id).rebuilt machine level identity depth store = .ok (.list id') after ∧
      after.items id' = (made.map Value.node).toArray ∧
      List.Forall₂ (Node.RebuiltAs depth) nodes made ∧ store.KeepsBut none after := by
  cases depth with
  | zero =>
      refine ⟨nodes, id, store, rfl, items, ?_, .refl store⟩
      refine List.forall₂_same.mpr fun node _ => ⟨Node.like_iff_same.mpr node.same_refl, ?_⟩
      exact fun small => absurd small (Nat.not_lt_zero _)
  | succ depth =>
      obtain ⟨made, middle, mapped, relate, kept⟩ :=
        mapM_nodes (deeper depth (Nat.lt_succ_self depth)) nodes store
      refine ⟨made, middle.lists.size, (middle.newList (made.map Value.node).toArray).2, ?_,
        middle.items_newList _, relate, kept.trans (.newList middle _)⟩
      have steps : (Value.list id).rebuilt machine level identity (depth + 1) store =
          ((store.items id).toList.mapM (Value.rebuilt machine level identity depth) >>=
            fun items => Eval.newList items.toArray) store := rfl
      rw [steps, items, List.toList_toArray, Eval.bind_eq_ok]
      exact ⟨_, middle, mapped, rfl⟩

/-- To whatever depth a node is rebuilt, it is the same node but for places. -/
theorem rebuilt_node (depth : Nat) (node : Node) (store : Store) :
    ∃ made after,
      (Value.node node).rebuilt machine level identity depth store = .ok (.node made) after ∧
      node.RebuiltAs (depth + 1) made ∧ store.KeepsBut none after := by
  induction depth using Nat.strong_induction_on generalizing node store with
  | _ depth ih =>
  -- A bracket takes two levels, one for the node and one for the list of its children.
  cases depth with
  | zero =>
      refine ⟨node, store, rfl, ⟨Node.like_iff_same.mpr node.same_refl, fun small => ?_⟩, .refl _⟩
      cases node <;> simp at small
  | succ depth =>
      cases node with
      | leaf kind text loc =>
          refine ⟨.leaf kind text none, store, ?_, ⟨.leaf kind text trivial, fun _ => ?_⟩, .refl _⟩
          · rw [rebuilt_succ, Node.memberValues_leaf, pure_bind, Eval.bind_eq_ok]
            refine ⟨[.text text], store, ?_, rfl⟩
            rw [List.mapM_cons, Eval.bind_eq_ok]
            exact ⟨_, store, rebuilt_text machine level identity depth text store, rfl⟩
          · exact Node.isUnplaced_leaf
      | binop left operator right loc =>
          obtain ⟨left', middle, lefts, ⟨likeLeft, unplacedLeft⟩, kept⟩ :=
            ih depth (Nat.lt_succ_self depth) left store
          obtain ⟨right', after, rights, ⟨likeRight, unplacedRight⟩, kept'⟩ :=
            ih depth (Nat.lt_succ_self depth) right middle
          refine ⟨.binop left' operator right' none, after, ?_,
            ⟨.binop likeLeft operator likeRight trivial, fun small => ?_⟩, kept.trans kept'⟩
          · rw [rebuilt_succ, Node.memberValues_binop, pure_bind, Eval.bind_eq_ok]
            refine ⟨[.node left', .text operator, .node right'], after, ?_, rfl⟩
            have texts := rebuilt_text machine level identity depth operator middle
            simp only [List.mapM_cons, List.mapM_nil, Bind.bind, EStateM.bind, lefts, texts, rights]
            rfl
          · rw [Node.binop.sizeOf_spec] at small
            exact Node.isUnplaced_binop (unplacedLeft (by omega)) (unplacedRight (by omega))
      | bracket kind children loc =>
          let read := store.newList (children.map Value.node).toArray
          obtain ⟨made, id, after, listed, items, relate, kept⟩ :=
            rebuilt_list machine level identity (fun less lt => ih less (Nat.lt_succ_of_lt lt))
              (store.items_newList (children.map Value.node).toArray)
          refine ⟨.bracket kind made none, after, ?_,
            ⟨.bracket kind ?_ trivial fun _ => trivial, fun small => ?_⟩,
            Store.KeepsBut.trans (.newList store _) kept⟩
          · rw [rebuilt_succ, Node.memberValues_bracket, Eval.bind_eq_ok]
            refine ⟨[.list read.1], read.2, rfl, Eval.bind_eq_ok.mpr ⟨[.list id], after, ?_, ?_⟩⟩
            · rw [List.mapM_cons, Eval.bind_eq_ok]
              exact ⟨_, after, listed, rfl⟩
            · exact Node.call_maker_bracket machine level identity after items
          · exact relate.flip.imp fun _ _ rebuilt => rebuilt.like
          · rw [Node.bracket.sizeOf_spec] at small
            refine Node.isUnplaced_bracket (Node.isUnplaced_of_rebuilt relate fun node mem => ?_)
            have smaller := List.sizeOf_lt_of_mem mem
            omega

end Rebuilding

/-- A macro body finds the maker of each kind of node by its name. Called with the members that are
    read from a node, the maker of its kind returns this node without its place: an equal node, with
    the parts that were read, wherever these stand. So if all that is in a node is taken apart and
    made again from the leaves up, to whatever depth, then an equal node is returned, in which no
    place is left if the depth is that of the whole tree. No list that was there is changed. -/
theorem makers_undo_members (machine : Machine) (level : Level) (identity : Identity) (node : Node)
    (store : Store) :
    (∃ scope entered identity, Eval.newBaseScope store = .ok scope entered ∧
      entered.lookup scope (NodeMaker.ofNode node).name = some (node.maker identity)) ∧
    (∃ made after, node.remade machine level identity store = .ok (.node made) after ∧
      made.same node = true ∧ made.parts = node.parts ∧ made.loc = none ∧
      store.KeepsBut none after) ∧
    ∀ depth, ∃ made after,
      (Value.node node).rebuilt machine level identity depth store = .ok (.node made) after ∧
      made.same node = true ∧ (sizeOf node ≤ depth → made.IsUnplaced) ∧
      store.KeepsBut none after := by
  refine ⟨?_, node.remade_eq_ok machine level identity store, fun depth => ?_⟩
  · obtain ⟨identity, bound⟩ :=
      store.lookup_withBuiltins (Native.maker_mem_base (.ofNode node))
    refine ⟨_, _, identity, Eval.newBaseScope_eq store, ?_⟩
    rw [Store.lookup, Scope.frames, Store.lookupIn, Store.lookupIn, Option.or_none]
    exact bound
  · obtain ⟨made, after, ended, rebuilt, kept⟩ :=
      rebuilt_node machine level identity depth node store
    refine ⟨made, after, ended, Node.like_iff_same.mp rebuilt.like, fun deep => ?_, kept⟩
    exact rebuilt.unplaced (Nat.lt_succ_of_le deep)

end TreeMacros
