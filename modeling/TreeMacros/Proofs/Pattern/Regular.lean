import TreeMacros.Pattern
import TreeMacros.Proofs.Node.Parts

/-! # The language of regular patterns

Which lists a row of regular parts describes is said by a relation, which splits a list and knows
of no order in which splits are tried. The search finds out whether a list is described. It can
also be done by places: it goes through the list from place to place, lengthens a run element by
element and gives up at the first element that does not fit. This search stays inside the list and
gives the same answer.
-/

namespace TreeMacros

/-- The lists that a row of regular parts describes, where it is known which elements match a
    node. -/
inductive Describes (suits : Node → Datum → Prop) : List Node → List Datum → Prop where
  /-- No parts describe no elements. -/
  | nothing : Describes suits [] []
  /-- Whatever remains, and whatever parts come after it. -/
  | rest {part : Node} {parts : List Node} {items : List Datum}
      (isRest : part.isIdent "$rest") : Describes suits (part :: parts) items
  /-- As many elements as the quantifier allows. -/
  | run {quantifier repeated : Node} {loc : Option Span} {parts : List Node}
      {elements items : List Datum} {bounds : RunBounds}
      (quantifies : RunBounds.ofNode? quantifier = some bounds)
      (enough : bounds.min ≤ elements.length)
      (fewEnough : ∀ max, bounds.max = some max → elements.length ≤ max)
      (suit : ∀ element ∈ elements, suits repeated element)
      (others : Describes suits parts items) :
      Describes suits (.binop quantifier "*" repeated loc :: parts) (elements ++ items)
  /-- One element for any other part. -/
  | one {part : Node} {parts : List Node} {element : Datum} {items : List Datum}
      (notRest : ¬ part.isIdent "$rest")
      (notRun : ∀ quantifier repeated loc, part ≠ .binop quantifier "*" repeated loc)
      (suit : suits part element) (others : Describes suits parts items) :
      Describes suits (part :: parts) (element :: items)

namespace Describes

variable {suits : Node → Datum → Prop} {part : Node} {parts : List Node} {items : List Datum}

theorem nil_iff : Describes suits [] items ↔ items = [] := by
  constructor
  · rintro ⟨⟩
    rfl
  · rintro rfl
    exact nothing

/-- A run takes a first piece of the list, as long as the quantifier allows. -/
theorem run_iff {quantifier repeated : Node} {loc : Option Span} :
    Describes suits (.binop quantifier "*" repeated loc :: parts) items ↔
      ∃ bounds, RunBounds.ofNode? quantifier = some bounds ∧
        ∃ count, (bounds.min ≤ count ∧ (∀ max, bounds.max = some max → count ≤ max) ∧
          count ≤ items.length ∧ ∀ element ∈ items.take count, suits repeated element) ∧
          Describes suits parts (items.drop count) := by
  constructor
  · intro described
    cases described with
    | rest isRest => simp [Node.isIdent, Node.ident?] at isRest
    | run quantifies enough fewEnough suit others =>
        refine ⟨_, quantifies, _, ⟨enough, fewEnough, by simp, ?_⟩, ?_⟩
        · simpa using suit
        · simpa using others
    | one notRest notRun => exact absurd rfl (notRun _ _ _)
  · rintro ⟨bounds, quantifies, count, ⟨enough, fewEnough, inside, suit⟩, others⟩
    have length : (items.take count).length = count := List.length_take_of_le inside
    rw [← List.take_append_drop count items]
    exact run quantifies (by rwa [length]) (by rwa [length]) suit others

/-- A part that is neither the rest nor a run takes the first element. -/
theorem one_iff (notRest : ¬ part.isIdent "$rest")
    (notRun : ∀ quantifier repeated loc, part ≠ .binop quantifier "*" repeated loc) :
    Describes suits (part :: parts) items ↔
      ∃ element others, items = element :: others ∧ suits part element ∧
        Describes suits parts others := by
  constructor
  · intro described
    cases described with
    | rest isRest => exact absurd isRest notRest
    | run => exact absurd rfl (notRun _ _ _)
    | one _ _ suit others => exact ⟨_, _, rfl, suit, others⟩
  · rintro ⟨element, others, rfl, suit, described⟩
    exact one notRest notRun suit described

/-- A list stays described if what suits the nodes in the parts still does. -/
theorem mono {suits' : Node → Datum → Prop} (described : Describes suits parts items)
    (weaker : ∀ part ∈ parts, ∀ node, part.Contains node → ∀ datum,
      suits node datum → suits' node datum) : Describes suits' parts items := by
  induction described with
  | nothing => exact nothing
  | rest isRest => exact rest isRest
  | run quantifies enough fewEnough suit others ih =>
      obtain ⟨here, later⟩ := List.forall_mem_cons.mp weaker
      refine run quantifies enough fewEnough (fun element mem => ?_) (ih later)
      exact here _ (.of_part (by simp [Node.parts])) element (suit element mem)
  | one notRest notRun suit others ih =>
      obtain ⟨here, later⟩ := List.forall_mem_cons.mp weaker
      exact one notRest notRun (here _ (.self _) _ suit) (ih later)

end Describes

/-! ## Nodes as regular parts -/

namespace Node

variable (hooks : List Hook)

@[simp] theorem form_toPattern (node : Node) : (node.toPattern hooks).form = node := by
  cases node <;> simp [toPattern, Pattern.form]

@[simp] theorem parts_toPattern_binop (left : Node) (operator : String) (right : Node)
    (loc : Option Span) : ((Node.binop left operator right loc).toPattern hooks).parts =
      [left.toPattern hooks, right.toPattern hooks] := by
  simp [toPattern, Pattern.parts]

theorem toPatterns_eq_map (nodes : List Node) :
    toPatterns hooks nodes = nodes.map (toPattern hooks) := by
  induction nodes with
  | nil => rw [toPatterns, List.map_nil]
  | cons node rest ih => rw [toPatterns, List.map_cons, ih]

theorem toPattern_eq (node : Node) : node.toPattern hooks =
    .mk node (node.toPattern hooks).matcher (node.parts.map (toPattern hooks)) := by
  cases node with
  | leaf | binop => simp [toPattern, Pattern.matcher, parts]
  | bracket kind children loc => simp [toPattern, Pattern.matcher, parts, toPatterns_eq_map]

end Node

namespace RegularPart

variable {hooks : List Hook} {part : Node}

/-- The part that a node is. -/
def ofNode (hooks : List Hook) (node : Node) : RegularPart :=
  ofPattern (node.toPattern hooks)

theorem ofNode_rest (isRest : part.isIdent "$rest") : ofNode hooks part = rest := by
  simp [ofNode, ofPattern, isRest]

theorem ofNode_run (quantifier repeated : Node) (loc : Option Span) :
    ofNode hooks (.binop quantifier "*" repeated loc) =
      run (RunBounds.ofNode? quantifier) (repeated.toPattern hooks).accepts := by
  simp [ofNode, ofPattern, Node.isIdent, Node.ident?]

theorem ofNode_one (notRest : ¬ part.isIdent "$rest")
    (notRun : ∀ quantifier repeated loc, part ≠ .binop quantifier "*" repeated loc) :
    ofNode hooks part = one (part.toPattern hooks).accepts := by
  cases part with
  | leaf kind text loc => simp [ofNode, ofPattern, notRest]
  | binop left operator right loc =>
      have other : operator ≠ "*" := fun same => notRun left right loc (by rw [same])
      simp [ofNode, ofPattern, notRest, other]
  | bracket kind children loc => simp [ofNode, ofPattern, notRest]

/-! ## The search -/

theorem le_length_takeWhile_iff (accepts : Datum → Bool) (items : List Datum) (count : Nat) :
    count ≤ (items.takeWhile accepts).length ↔
      count ≤ items.length ∧ ∀ element ∈ items.take count, accepts element := by
  induction items generalizing count with
  | nil => simp
  | cons item items ih =>
      cases count with
      | zero => simp
      | succ count =>
          by_cases accepted : accepts item
          · simp [accepted, ih]
          · simp [accepted]

/-- The lengths of a run among `longest` elements that the bounds allow. -/
theorem mem_allowed (bounds : RunBounds) (longest count : Nat) :
    count ∈ List.range' bounds.min (bounds.max.elim longest (min longest) + 1 - bounds.min) ↔
      bounds.min ≤ count ∧ (∀ max, bounds.max = some max → count ≤ max) ∧ count ≤ longest := by
  rw [List.mem_range'_1]
  cases bounds with
  | mk low high =>
      cases high with
      | none =>
          simp only [Option.elim_none, reduceCtorEq, false_implies, implies_true, true_and]
          omega
      | some high =>
          simp only [Option.elim_some, Option.some.injEq, forall_eq']
          omega

/-- The lengths that are tried are those that the bounds allow and for which the elements fit. -/
theorem mem_runLengths (bounds : RunBounds) (accepts : Datum → Bool) (items : List Datum)
    (count : Nat) :
    count ∈ runLengths bounds accepts items ↔
      bounds.min ≤ count ∧ (∀ max, bounds.max = some max → count ≤ max) ∧
        count ≤ items.length ∧ ∀ element ∈ items.take count, accepts element := by
  rw [← le_length_takeWhile_iff, ← mem_allowed, runLengths, List.range_eq_range',
    List.drop_range', Nat.zero_add, Nat.mul_one]

/-- The search finds out whether a list is described. -/
theorem search_iff (hooks : List Hook) (parts : List Node) (items : List Datum) :
    search (parts.map (ofNode hooks)) items = true ↔
      Describes (fun node datum => (node.toPattern hooks).accepts datum) parts items := by
  induction parts generalizing items with
  | nil => simp [search, Describes.nil_iff]
  | cons part parts ih =>
      by_cases isRest : part.isIdent "$rest"
      · simp only [List.map_cons, ofNode_rest isRest, search, true_iff]
        exact .rest isRest
      by_cases isRun : ∃ quantifier repeated loc, part = .binop quantifier "*" repeated loc
      · obtain ⟨quantifier, repeated, loc, rfl⟩ := isRun
        rw [List.map_cons, ofNode_run, Describes.run_iff]
        cases RunBounds.ofNode? quantifier with
        | none => simp [search]
        | some bounds => simp [search, mem_runLengths, ih]
      · have notRun : ∀ quantifier repeated loc, part ≠ .binop quantifier "*" repeated loc :=
          fun quantifier repeated loc same => isRun ⟨quantifier, repeated, loc, same⟩
        rw [List.map_cons, ofNode_one isRest notRun, Describes.one_iff isRest notRun]
        cases items with
        | nil => simp [search]
        | cons item items =>
            simp only [search, Bool.and_eq_true, ih]
            constructor
            · rintro ⟨suit, others⟩
              exact ⟨item, items, rfl, suit, others⟩
            · rintro ⟨_, _, ⟨⟩, suit, others⟩
              exact ⟨suit, others⟩

/-! ## The search by places -/

/-- Whether `count` items from a place on are accepted. None if one that is looked at is not
    there. -/
def accepted? (accepts : Datum → Bool) (items : List Datum) (place : Nat) : Nat → Option Bool
  | 0 => some true
  | count + 1 => do
    if accepts (← items[place]?) then accepted? accepts items (place + 1) count else return false

/-- Try `turns` lengths of a run that starts at a place, from `count` on. The first `grown` elements
    are known to be accepted. -/
def lengthen? (accepts : Datum → Bool) (items : List Datum) (next : Nat → Option Bool)
    (place grown count : Nat) : Nat → Option Bool
  | 0 => some false
  | turns + 1 => do
    if ← accepted? accepts items (place + grown) (count - grown) then
      if ← next (place + count) then return true
      else lengthen? accepts items next place count (count + 1) turns
    else return false

/-- Whether the items from a place on split into elements for each of the parts. None if the search
    leaves the list. -/
def searchFrom? (items : List Datum) : List RegularPart → Nat → Option Bool
  | [], place => some (place == items.length)
  | rest :: _, _ => some true
  | run none _ :: _, _ => some false
  | run (some bounds) accepts :: parts, place =>
    if items.length < place then none
    else
      let remaining := items.length - place
      let longest := bounds.max.elim remaining (min remaining)
      lengthen? accepts items (searchFrom? items parts) place 0 bounds.min
        (longest + 1 - bounds.min)
  | one accepts :: parts, place =>
    match items[place]? with
    | none => some false
    | some item => if accepts item then searchFrom? items parts (place + 1) else some false

theorem accepted?_eq (accepts : Datum → Bool) (items : List Datum) {place count : Nat}
    (inside : place + count ≤ items.length) :
    accepted? accepts items place count = some (((items.drop place).take count).all accepts) := by
  induction count generalizing place with
  | zero => simp [accepted?]
  | succ count ih =>
      have here : place < items.length := by omega
      rw [accepted?, List.getElem?_eq_getElem here, List.drop_eq_getElem_cons here,
        List.take_succ_cons, List.all_cons]
      by_cases suit : accepts items[place]
      · simp [suit, ih (by omega : place + 1 + count ≤ items.length)]
      · simp [suit]

/-- A run grows as long as its elements are accepted, so it is enough to look at each element once
    and to stop at the first that is not. -/
theorem lengthen?_eq {accepts : Datum → Bool} {items : List Datum} {next : Nat → Option Bool}
    {answer : Nat → Bool} (answers : ∀ place ≤ items.length, next place = some (answer place))
    {place grown count turns : Nat} (known : grown ≤ count)
    (inside : 0 < turns → place + count + turns ≤ items.length + 1)
    (accepted : ((items.drop place).take grown).all accepts) :
    lengthen? accepts items next place grown count turns =
      some ((List.range' count turns).any fun count =>
        ((items.drop place).take count).all accepts && answer (place + count)) := by
  induction turns generalizing grown count with
  | zero => simp [lengthen?]
  | succ turns ih =>
      have split : (items.drop place).take count = (items.drop place).take grown ++
          (items.drop (place + grown)).take (count - grown) := by
        rw [← List.drop_drop, ← List.take_add, Nat.add_sub_cancel' known]
      have grows : ((items.drop place).take count).all accepts =
          ((items.drop (place + grown)).take (count - grown)).all accepts := by
        rw [split, List.all_append, accepted, Bool.true_and]
      rw [lengthen?, accepted?_eq accepts items (by omega), List.range'_succ, List.any_cons, grows]
      cases suit : ((items.drop (place + grown)).take (count - grown)).all accepts with
      | false =>
          -- What stops this run stops all the longer ones.
          have stops : ∀ longer ∈ List.range' (count + 1) turns,
              ((items.drop place).take longer).all accepts = false := by
            intro longer mem
            have grown : count ≤ longer := by
              have := List.mem_range'_1.mp mem
              omega
            rw [← Bool.not_eq_true, List.all_eq_true]
            intro all
            have shorter : ((items.drop place).take count).all accepts :=
              List.all_eq_true.mpr fun element mem =>
                all element (List.take_subset_take_left _ grown mem)
            rw [grows, suit] at shorter
            cases shorter
          simp +contextual [stops]
      | true =>
          have further := ih (Nat.le_add_right count 1) (by omega) (grows.trans suit)
          cases found : answer (place + count) with
          | true => simp [answers (place + count) (by omega), found]
          | false => simp [answers (place + count) (by omega), found, further]

/-- The search by places gives what the search gives, so it does not leave the list. -/
theorem searchFrom?_eq (items : List Datum) (parts : List RegularPart) {place : Nat}
    (inside : place ≤ items.length) :
    searchFrom? items parts place = some (search parts (items.drop place)) := by
  induction parts generalizing place with
  | nil =>
      have ends : (items.drop place).isEmpty = (place == items.length) := by
        rw [Bool.eq_iff_iff]
        simp only [List.isEmpty_iff, List.drop_eq_nil_iff, beq_iff_eq]
        omega
      rw [searchFrom?, search, ends]
  | cons part parts ih =>
      cases part with
      | rest => rfl
      | one accepts =>
          rw [searchFrom?]
          by_cases here : place < items.length
          · rw [List.getElem?_eq_getElem here, List.drop_eq_getElem_cons here, search]
            cases accepted : accepts items[place] <;> simp [accepted, ih (Nat.succ_le_of_lt here)]
          · have ends : items.drop place = [] := List.drop_eq_nil_of_le (Nat.not_lt.mp here)
            rw [List.getElem?_eq_none (Nat.not_lt.mp here), ends, search]
      | run bounds accepts =>
          cases bounds with
          | none => rfl
          | some bounds =>
              have longest : bounds.max.elim (items.length - place) (min (items.length - place)) ≤
                  items.length - place := by
                cases bounds.max with
                | none => exact Nat.le_refl _
                | some max => exact Nat.min_le_left _ _
              rw [searchFrom?, search, if_neg (Nat.not_lt.mpr inside),
                lengthen?_eq (fun place inside => ih inside) (Nat.zero_le _) (by omega) (by simp)]
              refine congrArg some (Bool.eq_iff_iff.mpr ?_)
              simp only [List.any_eq_true, mem_allowed, mem_runLengths, Bool.and_eq_true,
                List.all_eq_true, List.drop_drop, List.length_drop, and_assoc]

end RegularPart

/-! ## Matching -/

/-- A node that no hook claims has its own meaning. -/
theorem Matcher.hooked_own {hooks : List Hook} {node : Node}
    (unclaimed : ∀ hook ∈ hooks, hook.claims node = false) (parts : List Pattern)
    (own : Matcher) : Matcher.hooked hooks node parts own = own := by
  have none : hooks.find? (fun hook => hook.claims node) = none :=
    List.find?_eq_none.mpr fun hook mem => by simp [unclaimed hook mem]
  rw [Matcher.hooked, none]

namespace PatternMatcher

/-- A regular pattern that no hook claims searches the items of a list. -/
theorem bindings?_regular (matcher : PatternMatcher) {head : Node} (parts : List Node)
    (loc : Option Span) (isRegular : head.isIdent "$r")
    (unclaimed : ∀ hook ∈ matcher.hooks,
      hook.claims (.bracket .curly (head :: parts) loc) = false)
    (datum : Datum) (env : Bindings) :
    matcher.bindings? datum (.bracket .curly (head :: parts) loc) env =
      datum.list?.bind fun items =>
        if RegularPart.search (parts.map (RegularPart.ofNode matcher.hooks)) items then some env
        else none := by
  have name : head.ident? = some "$r" := by simpa [Node.isIdent] using isRegular
  have parts : (Node.toPatterns matcher.hooks parts).map RegularPart.ofPattern =
      parts.map (RegularPart.ofNode matcher.hooks) := by
    rw [Node.toPatterns_eq_map, List.map_map]
    rfl
  simp only [bindings?, Node.toPattern, Node.toPatterns, Pattern.matcher,
    Matcher.hooked_own unclaimed, Matcher.bracket, Node.form_toPattern, name, Matcher.regular,
    Matcher.test, parts]
  cases datum <;> rfl

/-- A regular pattern that no hook claims asks for a list that its parts describe. -/
theorem regular_eq_some_iff (matcher : PatternMatcher) {head : Node} (parts : List Node)
    (loc : Option Span) (isRegular : head.isIdent "$r")
    (unclaimed : ∀ hook ∈ matcher.hooks,
      hook.claims (.bracket .curly (head :: parts) loc) = false)
    (datum : Datum) (env result : Bindings) :
    matcher.bindings? datum (.bracket .curly (head :: parts) loc) env = some result ↔
      result = env ∧ ∃ items, datum = .list items ∧
        Describes (fun node element => matcher.accepts element node) parts items := by
  rw [bindings?_regular matcher parts loc isRegular unclaimed]
  cases datum with
  | list items =>
      simp only [Datum.list?, Option.bind_some, RegularPart.search_iff, Datum.list.injEq,
        exists_eq_left', Option.ite_none_right_eq_some, Option.some.injEq]
      rw [and_comm, @eq_comm _ env]
      rfl
  | _ => simp [Datum.list?]

/-- Matching against a regular pattern finds out whether the value is a list that the parts
    describe, and changes no bindings. The search by places finds out the same without leaving the
    list. -/
theorem regular_decides (matcher : PatternMatcher) {head : Node} (parts : List Node)
    (loc : Option Span) (isRegular : head.isIdent "$r")
    (unclaimed : ∀ hook ∈ matcher.hooks,
      hook.claims (.bracket .curly (head :: parts) loc) = false) (env : Bindings) :
    (∀ datum result,
      matcher.bindings? datum (.bracket .curly (head :: parts) loc) env = some result ↔
        result = env ∧ ∃ items, datum = .list items ∧
          Describes (fun node element => (matcher.bindings? element node []).isSome) parts items) ∧
    (∀ items,
      RegularPart.searchFrom? items (parts.map (RegularPart.ofNode matcher.hooks)) 0 =
        some (matcher.bindings? (.list items) (.bracket .curly (head :: parts) loc) env).isSome) := by
  constructor
  · intro datum result
    exact regular_eq_some_iff matcher parts loc isRegular unclaimed datum env result
  · intro items
    rw [bindings?_regular matcher parts loc isRegular unclaimed,
      RegularPart.searchFrom?_eq items _ (Nat.zero_le _)]
    cases found : RegularPart.search (parts.map (RegularPart.ofNode matcher.hooks)) items <;>
      simp [Datum.list?, found]

/-- Some texts `a`, then a text `b`, then whatever remains. -/
theorem regular_decides_texts :
    let hook : Hook := ⟨"none", fun node => node.isIdent "none", fun _ _ _ _ => none⟩
    let parts := [.binary (.ident "some") "*" (.ident "a"), .ident "b", .ident "$rest"]
    (∀ other ∈ [hook], other.claims (.curly (.ident "$r" :: parts)) = false) ∧
    PatternMatcher.bindings? ⟨[hook]⟩ (.list [.string "a", .string "a", .string "b", .null])
      (.curly (.ident "$r" :: parts)) [("x", .null)] = some [("x", .null)] := by
  intro hook parts
  have unclaimed : ∀ other ∈ [hook], other.claims (.curly (.ident "$r" :: parts)) = false := by
    simp [hook, Node.curly, Node.isIdent, Node.ident?]
  have described : Describes
      (fun node element => (PatternMatcher.bindings? ⟨[hook]⟩ element node []).isSome) parts
      ([.string "a", .string "a"] ++ .string "b" :: [.null]) :=
    .run rfl (by decide) nofun (by simp only [List.forall_mem_cons]; decide +kernel)
      (.one (by decide) nofun (by decide +kernel) (.rest rfl))
  exact ⟨unclaimed, ((regular_decides ⟨[hook]⟩ parts none rfl unclaimed _).1 _ _).mpr
    ⟨rfl, _, rfl, described⟩⟩

end PatternMatcher

end TreeMacros
