import TreeMacros.Proofs.Evaluation.Likeness.Coercion

/-! # Calls that are alike

Members and functions take values that are alike to results that are alike, and so do calls if the
levels below are alike.
-/

namespace TreeMacros

/-! ## The parts of each kind of node -/

namespace Node

variable (name : String) (loc : Option Span)

theorem part?_leaf (kind : LeafKind) (text : String) :
    (leaf kind text loc).part? name =
      if name = "kind" then pure (some (.text kind.name))
      else if name = "value" then pure (some (.text text))
      else pure none := by
  unfold part?
  split <;> grind [kindName]

theorem part?_binop (left : Node) (operator : String) (right : Node) :
    (binop left operator right loc).part? name =
      if name = "kind" then pure (some (.text "binop"))
      else if name = "op" then pure (some (.text operator))
      else if name = "left" then pure (some (.node left))
      else if name = "right" then pure (some (.node right))
      else pure none := by
  unfold part?
  split <;> grind [kindName]

theorem part?_bracket (kind : Bracket) (children : List Node) :
    (bracket kind children loc).part? name =
      if name = "kind" then pure (some (.text kind.name))
      else if name = "nodes" then do return some (← Eval.newNodeList children)
      else pure none := by
  unfold part?
  split <;> grind [kindName]

end Node

namespace Likeness

variable {L : Likeness} {w v : World} {α : Type}

/-! ## Members -/

/-- To take the last item off a list. -/
theorem Agree.pop (list : ListId) :
    L.Agree w L.Values
      (do
        let items ← Eval.items list
        Eval.modifyList list (·.pop)
        return items.back?.getD .null)
      (do
        let items ← Eval.items list
        Eval.modifyList list (·.pop)
        return items.back?.getD .null) :=
  (Agree.items list).bind fun _ _ _ _ items =>
    (Agree.modifyList list fun _ _ _ _ => Listed.pop).bind fun _ le _ _ _ =>
      .value ((Values.getD items.back?).mono le)

/-- The texts of items, where null has none. -/
theorem Agree.itemTexts {values values' : List Value} (like : L.Listed w values values') :
    L.Agree w (fun _ => List.Forall₂ Eq)
      (values.mapM fun item => match item with
        | .null => Pure.pure ""
        | item => Eval.textOf item)
      (values'.mapM fun item => match item with
        | .null => Pure.pure ""
        | item => Eval.textOf item) := by
  refine .mapM Values.monotone monotone_const (fun v _ item item' like => ?_) like
  have text := Agree.textOf like
  cases like with
  | null => exact .same ""
  | _ => exact text

theorem Agree.size (list : ListId) :
    L.Agree w L.Values (do return .number (Float.ofNat (← Eval.items list).size))
      (do return .number (Float.ofNat (← Eval.items list).size)) := by
  refine (Agree.items list).bind fun v _ items items' like => ?_
  have sizes : items.size = items'.size := like.length_eq
  rw [sizes]
  exact .value (.number _)

section Search

variable {values values' : List Value} (all : L.Listed w values values') {value value' : Value}
  (like : L.Values w value value')

include all like

theorem Listed.any_same_eq : values.any (·.same value) = values'.any (·.same value') := by
  induction all with
  | nil => rfl
  | cons first _ ih => rw [List.any_cons, List.any_cons, first.same_eq like, ih]

theorem Listed.findIdx?_same_eq :
    values.findIdx? (·.same value) = values'.findIdx? (·.same value') := by
  induction all with
  | nil => rfl
  | cons first _ ih => rw [List.findIdx?_cons, List.findIdx?_cons, first.same_eq like, ih]

end Search

theorem Stores.concat {store store' : Store} (stores : L.Stores w store store')
    {arguments arguments' : List Value} (like : L.Listed w arguments arguments')
    {items items' : Array Value} (all : L.Listed w items.toList items'.toList) :
    L.Listed w
      (arguments.foldl (fun items value => items ++ ListMethod.added store value) items).toList
      (arguments'.foldl (fun items value => items ++ ListMethod.added store' value)
        items').toList := by
  induction like generalizing items items' with
  | nil => exact all
  | cons first _ ih =>
      rw [List.foldl_cons, List.foldl_cons]
      refine ih ?_
      rw [Array.toList_append, Array.toList_append]
      exact List.rel_append all (stores.added first)

theorem Agree.callListMethod (method : ListMethod) (receiver : ListId)
    {arguments arguments' : List Value} (like : L.Listed w arguments arguments') :
    L.Agree w L.Values (method.call receiver arguments) (method.call receiver arguments') := by
  cases method with
  | push =>
      refine (Agree.modifyList receiver fun v le items items' all => ?_).bind
        fun _ _ _ _ _ => Agree.size receiver
      simpa using List.rel_append all (like.mono le)
  | pop => exact Agree.pop receiver
  | slice =>
      refine (Agree.items receiver).bind fun v le items items' all => .newList ?_
      simpa using sliceOf_rel all (like.mono le)
  | concat =>
      exact Agree.get.bind fun v le store store' stores =>
        .newList (stores.concat (like.mono le) (stores.items receiver))
  | includes =>
      refine (Agree.items receiver).bind fun v le items items' all => ?_
      rw [← Array.any_toList, ← Array.any_toList, all.any_same_eq (like.mono le).firstArgument]
      exact .value (.bool _)
  | indexOf =>
      refine (Agree.items receiver).bind fun v le items items' all => ?_
      have place := all.findIdx?_same_eq (like.mono le).firstArgument
      rw [← List.findIdx?_toArray, ← List.findIdx?_toArray] at place
      simp only [Array.toArray_toList] at place
      rw [place]
      cases items'.findIdx? fun item => item.same (firstArgument arguments') with
      | none => exact .value (.number _)
      | some place => exact .value (.number _)
  | join =>
      refine (Agree.items receiver).bind fun v le items items' all => ?_
      refine (Agree.itemTexts all).bind fun u later texts texts' same => ?_
      rw [List.forall₂_eq_eq_eq] at same
      subst same
      refine .pure fun t latest => ?_
      cases like with
      | nil => exact .text _
      | cons first _ => cases first <;> exact .text _
  | reverse =>
      refine (Agree.modifyList receiver fun _ _ _ _ all => ?_).bind fun _ _ _ _ _ =>
        .value (.list _)
      rw [Array.toList_reverse, Array.toList_reverse]
      exact List.rel_reverse all

theorem Agree.argumentText {arguments arguments' : List Value}
    (like : L.Listed w arguments arguments') :
    L.Agree w (fun _ => Eq) (TextMethod.argumentText arguments)
      (TextMethod.argumentText arguments') := by
  cases like with
  | nil => exact .same _
  | cons first _ =>
      refine (Agree.textOf first).bind fun _ _ text text' texts => ?_
      rw [texts]
      exact .same _

/-- Two functions of the same texts. -/
theorem Agree.ofText {action action' : Eval α} {f : α → Value}
    (inner : L.Agree w (fun _ => Eq) action action') (plain : ∀ v a, L.Values v (f a) (f a)) :
    L.Agree w L.Values (do return f (← action)) (do return f (← action')) :=
  inner.bind fun _ _ a _ same => same ▸ .value (plain _ a)

theorem Agree.callTextMethod (method : TextMethod) (receiver : String)
    {arguments arguments' : List Value} (like : L.Listed w arguments arguments') :
    L.Agree w L.Values (method.call receiver arguments) (method.call receiver arguments') := by
  have text := Agree.argumentText like
  cases method with
  | upper | lower => exact .value (.text _)
  | startsWith | endsWith | includes => exact text.ofText fun _ _ => .bool _
  | split =>
      have whole : L.Agree w L.Values (Eval.newList #[.text receiver])
          (Eval.newList #[.text receiver]) := .newList (.cons (.text receiver) .nil)
      have pieces : L.Agree w L.Values
          (do
            let pieces := Text.split (← TextMethod.argumentText arguments) receiver.toList
            Eval.newList (pieces.map fun piece => Value.text (String.ofList piece)).toArray)
          (do
            let pieces := Text.split (← TextMethod.argumentText arguments') receiver.toList
            Eval.newList (pieces.map fun piece => Value.text (String.ofList piece)).toArray) := by
        refine text.bind fun _ _ separator separator' same => ?_
        rw [same]
        refine .newList ?_
        simp [Likeness.Listed, List.forall₂_same, Values.text]
      cases like with
      | nil => exact whole
      | cons first _ =>
          cases first with
          | null => exact whole
          | _ => exact pieces
  | slice =>
      have characters : List.Forall₂ Eq receiver.toList receiver.toList := List.forall₂_refl _
      have sliced := sliceOf_rel characters like
      rw [List.forall₂_eq_eq_eq] at sliced
      rw [TextMethod.call, TextMethod.call, sliced]
      exact .value (.text _)

theorem Agree.part? {node node' : Node} (like : L.Data node node') (name : String) :
    L.Agree w (fun v => Option.Rel (L.Values v)) (node.part? name) (node'.part? name) := by
  have found : ∀ {value value' : Value}, (∀ v, L.Values v value value') →
      L.Agree w (fun v => Option.Rel (L.Values v)) (Pure.pure (some value))
        (Pure.pure (some value')) := fun like => .pure fun v _ => .some (like v)
  have absent : L.Agree w (fun v => Option.Rel (L.Values v)) (Pure.pure none) (Pure.pure none) :=
    .pure fun _ _ => .none
  cases like with
  | leaf kind text =>
      rw [Node.part?_leaf, Node.part?_leaf]
      split_ifs
      · exact found fun _ => .text _
      · exact found fun _ => .text _
      · exact absent
  | binop lefts operator rights =>
      rw [Node.part?_binop, Node.part?_binop]
      split_ifs
      · exact found fun _ => .text _
      · exact found fun _ => .text _
      · exact found fun _ => .node lefts
      · exact found fun _ => .node rights
      · exact absent
  | bracket kind all =>
      rw [Node.part?_bracket, Node.part?_bracket]
      split_ifs
      · exact found fun _ => .text _
      · exact (Agree.newNodeList all).bind fun _ _ _ _ like =>
          .pure fun _ le => .some (like.mono le)
      · exact absent

theorem Agree.member? {receiver receiver' : Value} (like : L.Values w receiver receiver')
    (name : String) :
    L.Agree w (fun v => Option.Rel (L.Values v)) (receiver.member? name)
      (receiver'.member? name) := by
  have absent : L.Agree w (fun v => Option.Rel (L.Values v)) (Pure.pure none) (Pure.pure none) :=
    .pure fun _ _ => .none
  have method : ∀ native : Native, L.Natives native native →
      L.Agree w (fun v => Option.Rel (L.Values v)) (do return some (← Eval.newNative native))
        (do return some (← Eval.newNative native)) := fun native like =>
    (Agree.newNative like).bind fun _ _ _ _ like => .pure fun _ le => .some (like.mono le)
  cases like with
  | node like => exact Agree.part? like name
  | list id =>
      simp only [Value.member?]
      split
      · refine (Agree.items id).bind fun _ _ items items' all => .pure fun _ _ => ?_
        have sizes : items.size = items'.size := all.length_eq
        rw [sizes]
        exact .some (.number _)
      · cases ListMethod.all.find? (·.name == name) with
        | none => exact absent
        | some found => exact method _ (.listMethod found id)
  | text s =>
      simp only [Value.member?]
      split
      · exact .pure fun _ _ => .some (.number _)
      · cases TextMethod.all.find? (·.name == name) with
        | none => exact absent
        | some found => exact method _ (.textMethod found s)
  | _ => exact absent

/-! ## Functions -/

theorem Values.isOfType_eq {value value' type type' : Value} (like : L.Values w value value')
    (types : L.Values w type type') : isOfType value type = isOfType value' type' := by
  cases like with
  | node like =>
      cases types with
      | native _ function => cases function <;> simp only [isOfType, like.ofNode_eq]
      | text name => simp only [isOfType, like.ofNode_eq]
      | _ => rfl
  | _ => cases types <;> rfl

theorem Agree.callMaker (maker : NodeMaker) {arguments arguments' : List Value}
    (like : L.Listed w arguments arguments') :
    L.Agree w L.Values (maker.call arguments) (maker.call arguments') := by
  cases maker with
  | leaf kind =>
      refine (Agree.textOf (like.argument 0)).bind fun _ _ text text' same => ?_
      rw [same]
      exact .value (.node (.leaf kind text' (L.place_refl none)))
  | binop =>
      refine (Agree.toNode (like.argument 0)).bind fun v le _ _ lefts => ?_
      refine (Agree.toNode ((like.mono le).argument 2)).bind fun u later _ _ rights => ?_
      refine (Agree.textOf ((like.mono (le.trans later)).argument 1)).bind
        fun _ _ operator operator' same => ?_
      rw [same]
      exact .value (.node (.binop lefts operator' rights (L.place_refl none)))
  | bracket kind =>
      refine Agree.get.bind fun v le store store' stores => .value (.node ?_)
      exact .bracket kind (stores.nodeItems ((like.mono le).argument 0)) (L.place_refl none)
        fun _ => trivial

theorem numbersFrom?_listed {start stop : Float} {found numbers : Array Value} {patience : Nat}
    (like : L.Listed w found.toList found.toList)
    (all : numbersFrom? start stop found patience = some numbers) :
    L.Listed w numbers.toList numbers.toList := by
  induction patience generalizing start found with
  | zero =>
      simp only [numbersFrom?] at all
      split at all
      · cases all
      · cases all
        exact like
  | succ patience ih =>
      simp only [numbersFrom?] at all
      split at all
      · exact ih (like.push (.number start)) all
      · cases all
        exact like

theorem Agree.numbers (start stop : Float) (patience : Nat) :
    L.Agree w L.Values
      (match numbersFrom? start stop #[] patience with
        | some numbers => Eval.newList numbers
        | none => Eval.forever .range)
      (match numbersFrom? start stop #[] patience with
        | some numbers => Eval.newList numbers
        | none => Eval.forever .range) := by
  cases all : numbersFrom? start stop #[] patience with
  | none => exact .forever _ nofun
  | some numbers => exact .newList (numbersFrom?_listed .nil all)

theorem Agree.print (line : String) :
    L.Agree w (fun _ => Eq) (modify (·.print line) : Eval Unit) (modify (·.print line)) :=
  .update fun _ _ _ _ stores =>
    ⟨stores.lists, stores.items, stores.frames, stores.bound, stores.known⟩

/-- What a host gives is made a list. -/
theorem Agree.served {nodes nodes' : Except Fault (List Node)}
    (like : Except.Like L.fault L.AllData nodes nodes') :
    L.Agree w L.Values (do Eval.newNodeList (← Eval.ofExcept nodes))
      (do Eval.newNodeList (← Eval.ofExcept nodes')) :=
  (Agree.ofExcept like).bind fun _ _ _ _ => .newNodeList

theorem Agree.notCallable {callee callee' : Value} (like : L.Values w callee callee') :
    L.Agree w L.Values (Eval.fail (.notCallable callee.typeName))
      (Eval.fail (.notCallable callee'.typeName)) := by
  rw [like.typeName_eq]
  exact .fail_unplaced _

variable {machine machine' : Machine} (machines : L.Machines machine machine')

include machines

theorem Agree.callBuiltin (builtin : Builtin) {arguments arguments' : List Value}
    (like : L.Listed w arguments arguments') :
    L.Agree w L.Values (builtin.call machine arguments) (builtin.call machine' arguments') := by
  have first := like.argument 0
  have second := like.argument 1
  have nodes : ∀ {v : World}, w ≤ v → ∀ {store store' : Store}, L.Stores v store store' →
      L.AllData ((argument arguments 0).nodeItems store)
        ((argument arguments' 0).nodeItems store') :=
    fun le _ _ stores => stores.nodeItems (first.mono le)
  have items : ∀ {v : World}, w ≤ v → ∀ {store store' : Store}, L.Stores v store store' →
      L.Listed v ((argument arguments 0).listItems store).toList
        ((argument arguments' 0).listItems store').toList :=
    fun le _ _ stores => stores.listItems (first.mono le)
  simp only [Builtin.call]
  generalize argument arguments 0 = receiver, argument arguments' 0 = receiver' at *
  cases builtin with
  | regular =>
      simp only [machines.services, machines.services']
      exact Agree.get.bind fun _ le _ _ stores => .newNodeList (L.regular (nodes le stores))
  | group =>
      simp only [machines.services, machines.services']
      exact Agree.get.bind fun _ le _ _ stores => .served (L.group (nodes le stores))
  | parse =>
      simp only [machines.services, machines.services']
      cases first with
      | text source => exact .served (L.parse source)
      | _ => exact .fail_unplaced _
  | length =>
      cases first with
      | list id => exact .size id
      | _ => exact .value (.number _)
  | text => exact (Agree.textOf first).ofText fun _ _ => .text _
  | integer | float => exact (Agree.textOf first).ofText fun _ _ => .number _
  | list => exact Agree.get.bind fun _ le _ _ stores => .newList (items le stores)
  | first =>
      refine Agree.get.bind fun _ le _ _ stores => .value (Values.getD ?_)
      rw [← Array.getElem?_toList, ← Array.getElem?_toList]
      exact (items le stores).getElem? 0
  | rest =>
      exact Agree.get.bind fun _ le _ _ stores => .newList (List.forall₂_drop 1 (items le stores))
  | reversed =>
      refine Agree.get.bind fun _ le _ _ stores => .newList ?_
      rw [Array.toList_reverse, Array.toList_reverse]
      exact List.rel_reverse (items le stores)
  | push =>
      cases first with
      | list id =>
          exact (Agree.modifyList id fun _ le _ _ all => all.push (second.mono le)).bind
            fun _ _ _ _ _ => .size id
      | _ => exact .value (.number _)
  | pop =>
      cases first with
      | list id => exact .pop id
      | _ => exact .value .null
  | range =>
      have stop := like.getElem? 1
      rw [machines.patience, first.toNumber_eq]
      generalize arguments[1]? = bound, arguments'[1]? = bound' at stop
      cases stop with
      | none => exact .numbers _ _ _
      | some stop =>
          simp only [stop.toNumber_eq]
          exact .numbers _ _ _
  | map => exact .newList .nil
  | print =>
      refine (Agree.mapM Values.monotone monotone_const (fun _ _ _ _ => Agree.textOf) like).bind
        fun _ _ texts texts' same => ?_
      rw [List.forall₂_eq_eq_eq] at same
      subst same
      exact (Agree.print _).bind fun _ _ _ _ _ => .value .null
  | assert =>
      rw [first.isTruthy_eq, second.isTruthy_eq]
      cases receiver'.isTruthy with
      | true => exact .value .null
      | false =>
          cases (argument arguments' 1).isTruthy with
          | true =>
              refine (Agree.textOf second).bind fun _ _ text text' same => ?_
              rw [same]
              exact .fail_unplaced _
          | false => exact .fail_unplaced _
  | isInstance =>
      rw [first.isOfType_eq second]
      exact .value (.bool _)

/-! ## Calls -/

variable {level level' : Level} (below : L.Levels level level')

include below

theorem Agree.callEntry {entry entry' : Entry} (entries : L.Entries entry entry')
    {arguments arguments' : List Value} (like : L.Listed w arguments arguments') :
    L.Agree w L.Values (Native.callEntry machine level entry arguments)
      (Native.callEntry machine' level' entry' arguments') := by
  refine (Agree.mapM (R := fun _ => L.Data) Values.monotone monotone_const
    (fun _ _ _ _ => Agree.toNode) like).bind fun v _ nodes nodes' all => ?_
  cases entries with
  | native like =>
      simp only [machines.services, machines.services']
      exact (Agree.ofExcept (like all)).bind fun _ _ _ _ => .ofExpansion
  | defined like => exact (below.run v like all).bind fun _ _ _ _ => .ofExpansion

theorem Agree.callPlain {native native' : Native} (natives : L.Natives native native')
    {arguments arguments' : List Value} (like : L.Listed w arguments arguments') :
    L.Agree w L.Values (native.callPlain machine level arguments)
      (native'.callPlain machine' level' arguments') := by
  cases natives with
  | builtin b => exact .callBuiltin machines b like
  | maker m => exact .callMaker m like
  | listMethod method receiver => exact .callListMethod method receiver like
  | textMethod method receiver => exact .callTextMethod method receiver like
  | registered name entries => exact .callEntry machines below entries like

theorem Agree.callEach {callee callee' item item' : Value} (callees : L.Values w callee callee')
    (like : L.Values w item item') :
    L.Agree w L.Values (callEach machine level callee item)
      (callEach machine' level' callee' item') := by
  have single : L.Listed w [item] [item'] := .cons like .nil
  have refused := Agree.notCallable callees
  cases callees with
  | closure _ closures => exact below.invoke w closures single
  | native _ natives => exact .callPlain machines below natives single
  | _ => exact refused

theorem Agree.callMap {arguments arguments' : List Value} (like : L.Listed w arguments arguments') :
    L.Agree w L.Values (callMap machine level arguments) (callMap machine' level' arguments') := by
  have callees := like.argument 0
  have lists := like.argument 1
  unfold TreeMacros.callMap
  generalize argument arguments 0 = callee, argument arguments' 0 = callee' at *
  generalize argument arguments 1 = list, argument arguments' 1 = list' at *
  cases lists with
  | list id =>
      dsimp only
      rw [callees.isCallable_eq]
      cases callee'.isCallable with
      | false => exact .newList .nil
      | true =>
          refine (Agree.items id).bind fun v le _ _ items => ?_
          have results := Agree.mapM Values.monotone Values.monotone
            (fun u later _ _ => .callEach machines below (callees.mono (le.trans later))) items
          exact results.bind fun _ _ _ _ => .newList
  | _ => exact .newList .nil

theorem Agree.call {callee callee' : Value} (callees : L.Values w callee callee')
    {arguments arguments' : List Value} (like : L.Listed w arguments arguments') :
    L.Agree w L.Values (callee.call machine level arguments)
      (callee'.call machine' level' arguments') := by
  have refused := Agree.notCallable callees
  cases callees with
  | closure _ closures => exact below.invoke w closures like
  | native _ natives =>
      have plain := Agree.callPlain machines below natives like
      cases natives with
      | builtin b =>
          cases b with
          | map => exact .callMap machines below like
          | _ => exact plain
      | _ => exact plain
  | _ => exact refused

omit machines below

theorem Agree.newBaseScope : L.Agree w (fun _ => Eq) Eval.newBaseScope Eval.newBaseScope := by
  refine Agree.newScope.bind fun v _ scope scope' same => ?_
  subst same
  refine (Agree.forM (fun b u _ => ?_) _).bind fun u _ _ _ _ => ?_
  · exact (Agree.newNative (.builtin b)).bind fun _ _ _ _ => .define scope b.name
  refine (Agree.forM (fun m t _ => ?_) _).bind fun _ _ _ _ _ => .same scope
  exact (Agree.newNative (.maker m)).bind fun _ _ _ _ => .define scope m.name

end Likeness

end TreeMacros
