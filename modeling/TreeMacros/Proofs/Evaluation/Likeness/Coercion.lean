import TreeMacros.Proofs.Evaluation.Likeness.Agreement
import TreeMacros.Proofs.Evaluation.Relocation.Function

/-! # Values that are alike

Values that are alike are the same for all that a macro body can ask about them, and become nodes
that are alike.
-/

namespace TreeMacros

namespace Likeness

variable {L : Likeness} {w v : World}

/-! ## Lists of values -/

theorem Values.getD {found found' : Option Value} (like : Option.Rel (L.Values w) found found') :
    L.Values w (found.getD .null) (found'.getD .null) := by
  cases like with
  | none => exact .null
  | some like => exact like

namespace Listed

variable {values values' : List Value} (like : L.Listed w values values')

include like

theorem getElem? (place : Nat) : Option.Rel (L.Values w) values[place]? values'[place]? := by
  induction like generalizing place with
  | nil => exact .none
  | cons first _ ih =>
      cases place with
      | zero => exact .some first
      | succ place => exact ih place

theorem argument (place : Nat) :
    L.Values w (argument values place) (TreeMacros.argument values' place) := by
  simp only [TreeMacros.argument, List.getD_eq_getElem?_getD]
  exact Values.getD (like.getElem? place)

theorem firstArgument : L.Values w (firstArgument values) (TreeMacros.firstArgument values') := by
  cases like with
  | nil => exact .null
  | cons first _ => exact first

end Listed

theorem sliceBound_eq {bound bound' : Option Value} (like : Option.Rel (L.Values w) bound bound')
    (length absent : Nat) : sliceBound bound length absent = sliceBound bound' length absent := by
  cases like with
  | none => rfl
  | some like => cases like <;> rfl

theorem sliceOf_rel {α β : Type} {r : α → β → Prop} {items : List α} {items' : List β}
    (all : List.Forall₂ r items items') {arguments arguments' : List Value}
    (like : L.Listed w arguments arguments') :
    List.Forall₂ r (sliceOf items arguments) (sliceOf items' arguments') := by
  rw [sliceOf, sliceOf, sliceBound_eq (like.getElem? 0), sliceBound_eq (like.getElem? 1),
    all.length_eq]
  exact List.forall₂_drop _ (List.forall₂_take _ all)

/-- The last value is taken off. -/
theorem Listed.pop {items items' : Array Value} (like : L.Listed w items.toList items'.toList) :
    L.Listed w items.pop.toList items'.pop.toList := by
  rw [Array.toList_pop, Array.toList_pop, List.dropLast_eq_take, List.dropLast_eq_take,
    like.length_eq]
  exact List.forall₂_take _ like

theorem Listed.push {items items' : Array Value} (like : L.Listed w items.toList items'.toList)
    {value value' : Value} (last : L.Values w value value') :
    L.Listed w (items.push value).toList (items'.push value').toList := by
  rw [Array.toList_push, Array.toList_push]
  exact List.rel_append like (.cons last .nil)

theorem Listed.back? {items items' : Array Value} (like : L.Listed w items.toList items'.toList) :
    Option.Rel (L.Values w) items.back? items'.back? := by
  have sizes : items.size = items'.size := like.length_eq
  rw [Array.back?_eq_getElem?, Array.back?_eq_getElem?, sizes, ← Array.getElem?_toList,
    ← Array.getElem?_toList]
  exact like.getElem? _

/-! ## Values -/

namespace Values

variable {value value' : Value} (like : L.Values w value value')

include like

theorem typeName_eq : value.typeName = value'.typeName := by
  cases like <;> rfl

theorem isTruthy_eq : value.isTruthy = value'.isTruthy := by
  cases like <;> rfl

theorem isCallable_eq : value.isCallable = value'.isCallable := by
  cases like <;> rfl

theorem number?_eq : value.number? = value'.number? := by
  cases like <;> rfl

theorem toNumber_eq : value.toNumber = value'.toNumber := by
  cases like <;> rfl

theorem node? : Option.Rel L.Data value.node? value'.node? := by
  cases like with
  | node like => exact .some like
  | _ => exact .none

theorem same_eq {other other' : Value} (others : L.Values w other other') :
    value.same other = value'.same other' := by
  cases like with
  | node like =>
      cases others with
      | node others => exact like.same_eq others
      | _ => rfl
  | closure known like =>
      cases others with
      | closure known' others =>
          simp only [Value.same]
          rw [Bool.eq_iff_iff, beq_iff_eq, beq_iff_eq]
          exact w.apart known known'
      | _ => rfl
  | native known like =>
      cases others with
      | native known' others =>
          simp only [Value.same]
          rw [Bool.eq_iff_iff, beq_iff_eq, beq_iff_eq]
          exact w.apart known known'
      | _ => rfl
  | _ => cases others <;> rfl

end Values

theorem mapM_rel {α β γ δ : Type} {r : α → β → Prop} {s : γ → δ → Prop} {f : α → Option γ}
    {g : β → Option δ} (steps : ∀ a b, r a b → Option.Rel s (f a) (g b)) {as : List α}
    {bs : List β} (all : List.Forall₂ r as bs) :
    Option.Rel (List.Forall₂ s) (as.mapM f) (bs.mapM g) := by
  induction all with
  | nil => exact .some .nil
  | cons first _ ih =>
      rw [List.mapM_cons, List.mapM_cons]
      have here := steps _ _ first
      generalize f _ = found, g _ = found' at here
      generalize List.mapM f _ = rest, List.mapM g _ = rest' at ih
      cases here with
      | none => exact .none
      | some result =>
          cases ih with
          | none => exact .none
          | some results => exact .some (.cons result results)

namespace Stores

variable {store store' : Store} (stores : L.Stores w store store') {value value' : Value}
  (like : L.Values w value value')

include stores like

theorem nodes? : Option.Rel L.AllData (value.nodes? store) (value'.nodes? store') := by
  cases like with
  | list id => exact mapM_rel (fun _ _ like => Values.node? like) (stores.items id)
  | _ => exact .none

theorem nodeItems : L.AllData (value.nodeItems store) (value'.nodeItems store') := by
  cases like with
  | list id => exact List.rel_filterMap (fun _ _ like => Values.node? like) (stores.items id)
  | _ => exact .nil

theorem listItems : L.Listed w (value.listItems store).toList (value'.listItems store').toList := by
  cases like with
  | list id => exact stores.items id
  | _ => exact .nil

theorem added :
    L.Listed w (ListMethod.added store value).toList (ListMethod.added store' value').toList := by
  have single : L.Listed w [value] [value'] := .cons like .nil
  cases like with
  | list id => exact stores.items id
  | _ => exact single

end Stores

/-! ## Coercions -/

namespace Agree

section

variable {value value' : Value} (like : L.Values w value value')

include like

theorem toNode : L.Agree w (fun _ => L.Data) value.toNode value'.toNode := by
  have leaf : ∀ kind text, L.Agree w (fun _ => L.Data)
      (Pure.pure (Node.leaf kind text none)) (Pure.pure (Node.leaf kind text none)) :=
    fun kind text => pure fun _ _ => .leaf kind text (L.place_refl none)
  have listed : L.Agree w (fun _ => L.Data) value.listedNode value'.listedNode := by
    refine get.bind fun v le store store' stores => ?_
    have nodes := stores.nodes? (like.mono le)
    generalize value.nodes? store = found, value'.nodes? store' = found' at nodes
    cases nodes with
    | none => exact (textOf (like.mono le)).bind fun _ _ _ _ texts => texts ▸ fail_unplaced _
    | some all => exact pure fun _ _ => .bracket .square all (L.place_refl none) fun _ => trivial
  cases like with
  | null | bool | number | text => exact leaf _ _
  | node like => exact pure fun _ _ => like
  | list | closure | native => exact listed

theorem toExpansion :
    L.Agree w (fun _ => L.Expansions) value.toExpansion value'.toExpansion := by
  refine get.bind fun v le store store' stores => ?_
  have nodes := stores.nodes? (like.mono le)
  have single : L.Agree v (fun _ => L.Expansions) (do return .node (← value.toNode))
      (do return .node (← value'.toNode)) :=
    (toNode (like.mono le)).bind fun _ _ _ _ like => pure fun _ _ => .node like
  generalize value.nodes? store = found, value'.nodes? store' = found' at nodes
  cases like with
  | node like => exact pure fun _ _ => .node like
  | _ =>
      cases nodes with
      | none => exact single
      | some all => exact pure fun _ _ => .nodes all

end

theorem ofExpansion {expansion expansion' : Expansion} (like : L.Expansions expansion expansion') :
    L.Agree w L.Values (Value.ofExpansion expansion) (Value.ofExpansion expansion') := by
  cases like with
  | node like => exact value (.node like)
  | nodes all => exact newNodeList all

end Agree

end Likeness

end TreeMacros
