import TreeMacros.Evaluation.Builtin
import TreeMacros.Proofs.Evaluation.Relocation

/-! # Calls that can be moved

Coercions, members and functions can be moved, and so can a call if the level below it can.
-/

namespace TreeMacros

open Eval (Relocates)

variable {base : Store}

/-! ## Coercions -/

namespace Value

variable (base) (value : Value) (store : Store)

theorem node?_comp_above : node? ∘ above base = node? :=
  funext fun value => value.node?_above base

theorem nodes?_above : (value.above base).nodes? (store.above base) = value.nodes? store := by
  cases value with
  | list id =>
      simp only [above, nodes?, Store.items_above, Array.toList_map, List.mapM_map,
        node?_comp_above]
  | native _ n => cases n <;> rfl
  | _ => rfl

theorem nodeItems_above :
    (value.above base).nodeItems (store.above base) = value.nodeItems store := by
  cases value with
  | list id =>
      simp only [above, nodeItems, Store.items_above, Array.toList_map, List.filterMap_map,
        node?_comp_above]
  | _ => rfl

theorem listItems_above :
    (value.above base).listItems (store.above base) =
      (value.listItems store).map (Value.above base) := by
  cases value with
  | list id => exact store.items_above base id
  | _ => exact Array.map_empty.symm

theorem toNumber_above : (value.above base).toNumber = value.toNumber := by
  cases value <;> rfl

/-- What is neither a node nor written as one is looked at as a list. -/
def listedNode : Eval Node := do
  match value.nodes? (← get) with
  | some nodes => return .square nodes
  | none => Eval.fail (.notNode (← Eval.textOf value))

theorem toNode_eq : (∃ node, value.toNode = pure node) ∨ value.toNode = value.listedNode := by
  cases value with
  | list | closure | native => exact .inr rfl
  | _ => exact .inl ⟨_, rfl⟩

variable {base}

theorem relocates_toNode : Relocates base id value.toNode (value.above base).toNode := by
  have listed : Relocates base id value.listedNode (value.above base).listedNode := by
    refine Relocates.get.bind fun store => ?_
    rw [nodes?_above]
    cases value.nodes? store with
    | none => exact (Relocates.textOf value).bind fun _ => .fail _ _
    | some nodes => exact .pure rfl
  cases value with
  | list | closure | native => exact listed
  | _ => exact .pure rfl

theorem relocates_toExpansion :
    Relocates base id value.toExpansion (value.above base).toExpansion := by
  refine Relocates.get.bind fun store => ?_
  rw [nodes?_above]
  cases value.nodes? store with
  | none =>
      cases value with
      | node n => exact .pure rfl
      | _ => exact (relocates_toNode _).bind fun _ => .pure rfl
  | some nodes => cases value <;> exact .pure rfl

theorem relocates_ofExpansion (expansion : Expansion) :
    Relocates base (Value.above base) (ofExpansion expansion) (ofExpansion expansion) := by
  cases expansion with
  | node n => exact .pure rfl
  | nodes ns => exact .newNodeList ns

end Value

/-! ## Members -/

section Arguments

variable (base) (arguments : List Value)

theorem argument_above (place : Nat) :
    argument (arguments.map (Value.above base)) place =
      (argument arguments place).above base := by
  simp only [argument, List.getD_eq_getElem?_getD, List.getElem?_map]
  cases arguments[place]? <;> rfl

theorem firstArgument_above :
    firstArgument (arguments.map (Value.above base)) = (firstArgument arguments).above base := by
  cases arguments <;> rfl

theorem sliceBound_above (place length absent : Nat) :
    sliceBound (arguments.map (Value.above base))[place]? length absent =
      sliceBound arguments[place]? length absent := by
  unfold sliceBound
  rw [List.getElem?_map]
  cases arguments[place]? with
  | none => rfl
  | some value => rw [Option.map_some, Option.bind_some, Option.bind_some, value.number?_above]

theorem sliceOf_above {α β : Type} (f : α → β) (items : List α) :
    sliceOf (items.map f) (arguments.map (Value.above base)) =
      (sliceOf items arguments).map f := by
  simp only [sliceOf, between, sliceBound_above, List.length_map, List.map_drop, List.map_take]

end Arguments

theorem ListMethod.added_above (store : Store) (value : Value) :
    ListMethod.added (store.above base) (value.above base) =
      (ListMethod.added store value).map (Value.above base) := by
  cases value with
  | list id => exact store.items_above base id
  | _ => simp [added, Value.above]

theorem ListMethod.foldl_added_above (store : Store) (arguments : List Value)
    (items : Array Value) :
    (arguments.map (Value.above base)).foldl
        (fun items value => items ++ added (store.above base) value)
        (items.map (Value.above base)) =
      (arguments.foldl (fun items value => items ++ added store value) items).map
        (Value.above base) := by
  induction arguments generalizing items with
  | nil => rfl
  | cons value rest ih =>
      rw [List.map_cons, List.foldl_cons, List.foldl_cons, added_above, ← Array.map_append, ih]

theorem map_above_append (items : Array Value) (arguments : List Value) :
    items.map (Value.above base) ++ arguments.map (Value.above base) =
      (items ++ arguments).map (Value.above base) := by
  apply Array.ext'
  simp

/-- To take the last item off a list. -/
theorem relocates_pop (list : ListId) :
    Relocates base (Value.above base)
      (do
        let items ← Eval.items list
        Eval.modifyList list (·.pop)
        return items.back?.getD .null)
      (do
        let items ← Eval.items (base.lists.size + list)
        Eval.modifyList (base.lists.size + list) (·.pop)
        return items.back?.getD .null) := by
  refine (Relocates.items list).bind fun items => ?_
  refine (Relocates.modifyList list (by simp)).bind fun _ => .pure ?_
  rw [Array.back?_map]
  cases items.back? <;> rfl

/-- The texts of items, where null has none. -/
theorem relocates_itemTexts (items : List Value) :
    Relocates base (List.map id)
      (items.mapM fun item => match item with
        | .null => pure ""
        | item => Eval.textOf item)
      ((items.map (Value.above base)).mapM fun item => match item with
        | .null => pure ""
        | item => Eval.textOf item) := by
  refine .mapM (fun item => ?_) items
  cases item with
  | null => exact .pure rfl
  | _ => exact .textOf _

theorem ListMethod.relocates_call (method : ListMethod) (receiver : ListId)
    (arguments : List Value) :
    Relocates base (Value.above base) (method.call receiver arguments)
      (method.call (base.lists.size + receiver) (arguments.map (Value.above base))) := by
  cases method with
  | push =>
      refine (Relocates.modifyList receiver fun items => map_above_append items arguments).bind
        fun _ => ?_
      exact (Relocates.items receiver).bind fun items => .pure (by simp)
  | pop => exact relocates_pop receiver
  | slice =>
      refine (Relocates.items receiver).bind fun items => ?_
      rw [Array.toList_map, sliceOf_above, ← List.map_toArray]
      exact .newList _
  | concat =>
      refine Relocates.get.bind fun store => ?_
      rw [store.items_above, foldl_added_above]
      exact .newList _
  | includes =>
      refine (Relocates.items receiver).bind fun items => .pure ?_
      simp [firstArgument_above]
  | indexOf =>
      refine (Relocates.items receiver).bind fun items => ?_
      simp only [firstArgument_above, Array.findIdx?_map, Function.comp_def, Value.same_above]
      cases items.findIdx? fun item => item.same (firstArgument arguments) with
      | none => exact .pure rfl
      | some place => exact .pure rfl
  | join =>
      refine (Relocates.items receiver).bind fun items => ?_
      rw [Array.toList_map, List.head?_map]
      refine (relocates_itemTexts items.toList).bind fun texts => .pure ?_
      rw [List.map_id]
      rcases arguments.head? with _ | value
      · rfl
      · cases value <;> rfl
  | reverse => exact (Relocates.modifyList receiver (by simp)).bind fun _ => .pure rfl

theorem TextMethod.relocates_argumentText (arguments : List Value) :
    Relocates base id (TextMethod.argumentText arguments)
      (TextMethod.argumentText (arguments.map (Value.above base))) := by
  cases arguments with
  | nil => exact .pure rfl
  | cons value rest => exact (Relocates.textOf value).bind fun _ => .pure rfl

theorem TextMethod.relocates_call (method : TextMethod) (receiver : String)
    (arguments : List Value) :
    Relocates base (Value.above base) (method.call receiver arguments)
      (method.call receiver (arguments.map (Value.above base))) := by
  have text : Relocates base id (argumentText arguments)
      (argumentText (arguments.map (Value.above base))) := relocates_argumentText arguments
  cases method with
  | upper | lower => exact .pure rfl
  | startsWith | endsWith | includes => exact text.bind fun _ => .pure rfl
  | split =>
      have pieces : Relocates base (Value.above base)
          (do
            let pieces := Text.split (← argumentText arguments) receiver.toList
            Eval.newList (pieces.map fun piece => Value.text (String.ofList piece)).toArray)
          (do
            let pieces := Text.split (← argumentText (arguments.map (Value.above base)))
              receiver.toList
            Eval.newList (pieces.map fun piece => Value.text (String.ofList piece)).toArray) := by
        exact text.bind fun separator => .newList_fixed (by simp [Function.comp_def])
      have whole : Relocates base (Value.above base) (Eval.newList #[.text receiver])
          (Eval.newList #[.text receiver]) := .newList_fixed (by simp)
      cases arguments with
      | nil => exact whole
      | cons value rest =>
          cases value with
          | null => exact whole
          | _ => exact pieces
  | slice =>
      refine .pure ?_
      have same := sliceOf_above base arguments id receiver.toList
      rw [List.map_id, List.map_id] at same
      rw [same]
      rfl

theorem Node.relocates_part? (node : Node) (name : String) :
    Relocates base (Option.map (Value.above base)) (node.part? name) (node.part? name) := by
  unfold Node.part?
  split
  · exact .pure rfl
  · exact .pure rfl
  · exact .pure rfl
  · exact .pure rfl
  · exact .pure rfl
  · exact (Relocates.newNodeList _).bind fun _ => .pure rfl
  · exact .pure rfl

theorem Value.relocates_member? (receiver : Value) (name : String) :
    Relocates base (Option.map (Value.above base)) (receiver.member? name)
      ((receiver.above base).member? name) := by
  cases receiver with
  | node n => exact n.relocates_part? name
  | list list =>
      simp only [above, member?]
      by_cases length : name == "length"
      · simp only [length, if_true]
        exact (Relocates.items list).bind fun items => .pure (by simp)
      · simp only [length, Bool.false_eq_true, if_false]
        cases ListMethod.all.find? (·.name == name) with
        | none => exact .pure rfl
        | some method => exact (Relocates.newNative _).bind fun _ => .pure rfl
  | text s =>
      simp only [above, member?]
      by_cases length : name == "length"
      · simp only [length, if_true]
        exact .pure rfl
      · simp only [length, Bool.false_eq_true, if_false]
        cases TextMethod.all.find? (·.name == name) with
        | none => exact .pure rfl
        | some method => exact (Relocates.newNative _).bind fun _ => .pure rfl
  | _ => exact .pure rfl

/-! ## Functions -/

theorem isOfType_above (base : Store) (value type : Value) :
    isOfType (value.above base) (type.above base) = isOfType value type := by
  cases value with
  | node n =>
      cases type with
      | native _ function => cases function <;> rfl
      | _ => rfl
  | _ => rfl

theorem NodeMaker.relocates_call (maker : NodeMaker) (arguments : List Value) :
    Relocates base (Value.above base) (maker.call arguments)
      (maker.call (arguments.map (Value.above base))) := by
  cases maker with
  | leaf kind =>
      simp only [call, argument_above]
      exact (Relocates.textOf _).bind fun _ => .pure rfl
  | binop =>
      simp only [call, argument_above]
      refine (Value.relocates_toNode _).bind fun left => ?_
      refine (Value.relocates_toNode _).bind fun right => ?_
      exact (Relocates.textOf _).bind fun _ => .pure rfl
  | bracket kind =>
      simp only [call, argument_above]
      refine Relocates.get.bind fun store => .pure ?_
      rw [Value.nodeItems_above]
      rfl

/-- Numbers do not refer to the store. -/
theorem map_above_numbersFrom? (base : Store) {start stop : Float} {found numbers : Array Value}
    {patience : Nat} (fixed : found.map (Value.above base) = found)
    (all : numbersFrom? start stop found patience = some numbers) :
    numbers.map (Value.above base) = numbers := by
  induction patience generalizing start found with
  | zero =>
      simp only [numbersFrom?] at all
      split at all
      · cases all
      · cases all
        exact fixed
  | succ patience ih =>
      simp only [numbersFrom?] at all
      split at all
      · exact ih (by simp [fixed]) all
      · cases all
        exact fixed

theorem relocates_numbersFrom? (start stop : Float) (patience : Nat) :
    Relocates base (Value.above base)
      (match numbersFrom? start stop #[] patience with
        | some numbers => Eval.newList numbers
        | none => Eval.forever .range)
      (match numbersFrom? start stop #[] patience with
        | some numbers => Eval.newList numbers
        | none => Eval.forever .range) := by
  cases all : numbersFrom? start stop #[] patience with
  | none => exact .forever _
  | some numbers => exact .newList_fixed (map_above_numbersFrom? base Array.map_empty all)

theorem Builtin.relocates_call (machine : Machine) (builtin : Builtin) (arguments : List Value) :
    Relocates base (Value.above base) (builtin.call machine arguments)
      (builtin.call machine (arguments.map (Value.above base))) := by
  simp only [call, argument_above]
  cases builtin with
  | regular =>
      refine Relocates.get.bind fun store => ?_
      rw [Value.nodeItems_above]
      exact .newNodeList _
  | group =>
      refine Relocates.get.bind fun store => ?_
      rw [Value.nodeItems_above]
      exact (Relocates.ofExcept _).bind fun nodes => .newNodeList nodes
  | parse =>
      cases argument arguments 0 with
      | text source => exact (Relocates.ofExcept _).bind fun nodes => .newNodeList nodes
      | _ => exact .fail _ _
  | length =>
      cases argument arguments 0 with
      | list list => exact (Relocates.items list).bind fun items => .pure (by simp)
      | _ => exact .pure rfl
  | text | integer | float => exact (Relocates.textOf _).bind fun _ => .pure rfl
  | list =>
      refine Relocates.get.bind fun store => ?_
      rw [Value.listItems_above]
      exact .newList _
  | first =>
      refine Relocates.get.bind fun store => .pure ?_
      rw [Value.listItems_above, Array.getElem?_map]
      rcases (Value.listItems store (argument arguments 0))[0]? with _ | value <;> rfl
  | rest =>
      refine Relocates.get.bind fun store => ?_
      rw [Value.listItems_above, Array.toList_map, ← List.map_drop, ← List.map_toArray]
      exact .newList _
  | reversed =>
      refine Relocates.get.bind fun store => ?_
      rw [Value.listItems_above, ← Array.map_reverse]
      exact .newList _
  | push =>
      cases argument arguments 0 with
      | list list =>
          refine (Relocates.modifyList list (by simp)).bind fun _ => ?_
          exact (Relocates.items list).bind fun items => .pure (by simp)
      | _ => exact .pure rfl
  | pop =>
      cases argument arguments 0 with
      | list list =>
          exact relocates_pop list
      | _ => exact .pure rfl
  | range =>
      simp only [List.getElem?_map, Value.toNumber_above]
      cases arguments[1]? with
      | none => exact relocates_numbersFrom? _ _ _
      | some stop =>
          simp only [Option.map_some, Value.toNumber_above]
          exact relocates_numbersFrom? _ _ _
  | map => exact .newList_fixed Array.map_empty
  | print =>
      refine (Relocates.mapM Relocates.textOf arguments).bind fun texts => ?_
      rw [List.map_id]
      exact (Relocates.update fun store => store.print_above base _).bind fun _ => .pure rfl
  | assert =>
      simp only [Value.isTruthy_above]
      cases (argument arguments 0).isTruthy with
      | true => exact .pure rfl
      | false =>
          cases (argument arguments 1).isTruthy with
          | true => exact (Relocates.textOf _).bind fun _ => .fail _ _
          | false => exact .fail _ _
  | isInstance => exact .pure (by rw [isOfType_above]; rfl)

/-! ## Calls -/

variable (machine : Machine) {level moved : Level} (below : level.Relocates base moved)

include below

theorem Native.relocates_callEntry (entry : Entry) (arguments : List Value) :
    Relocates base (Value.above base) (callEntry machine level entry arguments)
      (callEntry machine moved entry (arguments.map (Value.above base))) := by
  refine (Relocates.mapM Value.relocates_toNode arguments).bind fun nodes => ?_
  rw [List.map_id]
  cases entry with
  | native run => exact (Relocates.ofExcept _).bind Value.relocates_ofExpansion
  | defined definition => exact (below.run definition nodes).bind Value.relocates_ofExpansion

theorem Native.relocates_callPlain (native : Native) (arguments : List Value) :
    Relocates base (Value.above base) (native.callPlain machine level arguments)
      ((native.above base).callPlain machine moved (arguments.map (Value.above base))) := by
  cases native with
  | builtin b => exact b.relocates_call machine arguments
  | maker m => exact m.relocates_call arguments
  | listMethod method receiver => exact method.relocates_call receiver arguments
  | textMethod method receiver => exact method.relocates_call receiver arguments
  | registered name entry => exact relocates_callEntry machine below entry arguments

theorem relocates_callEach (callee item : Value) :
    Relocates base (Value.above base) (callEach machine level callee item)
      (callEach machine moved (callee.above base) (item.above base)) := by
  cases callee with
  | closure _ c => exact below.invoke c [item]
  | native _ n => exact n.relocates_callPlain machine below [item]
  | _ => exact .fail _ _

theorem relocates_callMap (arguments : List Value) :
    Relocates base (Value.above base) (callMap machine level arguments)
      (callMap machine moved (arguments.map (Value.above base))) := by
  simp only [callMap, argument_above]
  cases argument arguments 1 with
  | list list =>
      simp only [Value.list_above, Value.isCallable_above]
      cases (argument arguments 0).isCallable with
      | false => exact .newList_fixed Array.map_empty
      | true =>
          refine (Relocates.items list).bind fun items => ?_
          rw [Array.toList_map]
          refine (Relocates.mapM (fun item => relocates_callEach machine below _ item) _).bind
            fun results => ?_
          rw [← List.map_toArray]
          exact .newList _
  | _ => exact .newList_fixed Array.map_empty

theorem Value.relocates_call (callee : Value) (arguments : List Value) :
    Relocates base (Value.above base) (callee.call machine level arguments)
      ((callee.above base).call machine moved (arguments.map (Value.above base))) := by
  cases callee with
  | closure _ c => exact below.invoke c arguments
  | native _ n =>
      have plain := n.relocates_callPlain machine below arguments
      cases n with
      | builtin b =>
          cases b with
          | map => exact relocates_callMap machine below arguments
          | _ => exact plain
      | _ => exact plain
  | _ => exact .fail _ _

omit machine below

theorem Eval.relocates_newBaseScope :
    Relocates base (Scope.above base) Eval.newBaseScope Eval.newBaseScope := by
  refine Relocates.newScope.bind fun scope => ?_
  refine (Relocates.forM (fun b => ?_) _).bind fun _ => ?_
  · exact (Relocates.newNative _).bind fun value => .define scope b.name value
  refine (Relocates.forM (fun m => ?_) _).bind fun _ => .pure rfl
  exact (Relocates.newNative _).bind fun value => .define scope m.name value

end TreeMacros
