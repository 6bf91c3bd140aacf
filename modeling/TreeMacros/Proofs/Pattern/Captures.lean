import TreeMacros.Proofs.Pattern.Regular

/-! # What a match binds

Without hooks, a pattern and a value have one set of bindings, the captures, whatever is bound
already: a match lays the captures over the bindings it is given. Matching is a step from bindings
to bindings, so this is proved of the steps from which the meaning of a pattern is put together,
and then of all patterns by induction on the node.
-/

namespace TreeMacros

/-- A value itself, and what is in it through lists inside lists. -/
inductive Datum.Reaches : Datum → Datum → Prop where
  | self (datum : Datum) : Reaches datum datum
  | item {items : List Datum} {item datum : Datum} (mem : item ∈ items)
      (reaches : Reaches item datum) : Reaches (.list items) datum

mutual

/-- The names to the left of the `=` patterns in a pattern, those in regular patterns and type forms
    left out. -/
def Node.binders : Node → List String
  | .leaf .. => []
  | .binop left operator right _ =>
    match operator with
    | "|" | "&" => left.binders ++ right.binders
    | "=" => left.ident?.toList ++ right.binders
    | _ => []
  | .bracket .round children _ | .bracket .square children _ => Node.bindersAll children
  | .bracket .curly _ _ | .bracket .sequence _ _ => []

def Node.bindersAll : List Node → List String
  | [] => []
  | node :: rest => node.binders ++ bindersAll rest

end

/-! ## Steps -/

/-- A step from bindings to bindings that lays the same over whatever it is given, and only what
    `may` allows. -/
structure Overlays (may : String → Datum → Prop) (step : Bindings → Option Bindings) : Prop where
  eq_override : ∀ env, step env = (step []).map env.override
  sorted : ∀ captured, step [] = some captured → captured.Sorted
  allowed : ∀ captured, step [] = some captured → ∀ pair ∈ captured, may pair.1 pair.2

namespace Overlays

variable {may may' : String → Datum → Prop} {step next : Bindings → Option Bindings}

theorem isSome (overlays : Overlays may step) (env : Bindings) :
    (step env).isSome = (step []).isSome := by
  rw [overlays.eq_override env, Option.isSome_map]

theorem imp (overlays : Overlays may step)
    (weaker : ∀ name value, may name value → may' name value) :
    Overlays may' step :=
  ⟨overlays.eq_override, overlays.sorted,
    fun captured steps pair mem => weaker _ _ (overlays.allowed captured steps pair mem)⟩

theorem fails : Overlays may fun _ => none :=
  ⟨fun _ => rfl, nofun, nofun⟩

theorem test (condition : Bool) : Overlays may fun env => if condition then some env else none := by
  cases condition with
  | false => exact fails
  | true =>
      refine ⟨fun _ => rfl, ?_, ?_⟩
      · rintro _ ⟨⟩
        exact List.Pairwise.nil
      · rintro _ ⟨⟩
        exact nofun

theorem or (overlays : Overlays may step) (overlays' : Overlays may next) :
    Overlays may fun env => (step env).or (next env) where
  eq_override env := by
    rw [overlays.eq_override env, overlays'.eq_override env, Option.map_or]
  sorted captured steps := by
    rcases Option.or_eq_some_iff.mp steps with first | ⟨-, second⟩
    · exact overlays.sorted captured first
    · exact overlays'.sorted captured second
  allowed captured steps := by
    rcases Option.or_eq_some_iff.mp steps with first | ⟨-, second⟩
    · exact overlays.allowed captured first
    · exact overlays'.allowed captured second

/-- Two steps one after the other lay what the first captures under what the second captures. -/
theorem bind (overlays : Overlays may step) (overlays' : Overlays may next) :
    Overlays may fun env => (step env).bind next := by
  have captures : ∀ captured, ((step []).bind next) = some captured →
      ∃ first second, step [] = some first ∧ next [] = some second ∧
        captured = first.override second := by
    intro captured both
    obtain ⟨first, steps, goesOn⟩ := Option.bind_eq_some_iff.mp both
    rw [overlays'.eq_override first] at goesOn
    obtain ⟨second, captured', rfl⟩ := Option.map_eq_some_iff.mp goesOn
    exact ⟨first, second, steps, captured', rfl⟩
  refine ⟨fun env => ?_, fun captured both => ?_, fun captured both pair mem => ?_⟩
  · cases first : step [] with
    | none => simp [overlays.eq_override env, first]
    | some captured =>
        simp only [overlays.eq_override env, first, Option.map_some, Option.bind_some]
        rw [overlays'.eq_override (env.override captured), overlays'.eq_override captured,
          Option.map_map]
        cases next [] with
        | none => rfl
        | some second =>
            exact congrArg some
              (Bindings.override_override env (overlays.sorted captured first) second)
  · obtain ⟨first, second, steps, -, rfl⟩ := captures captured both
    exact Bindings.sorted_override (overlays.sorted first steps) second
  · obtain ⟨first, second, steps, goesOn, rfl⟩ := captures captured both
    rcases Bindings.mem_override mem with mem | mem
    · exact overlays'.allowed second goesOn pair mem
    · exact overlays.allowed first steps pair mem

theorem insert (overlays : Overlays may step) {name : String} {value : Datum}
    (allowed : may name value) :
    Overlays may fun env => (step env).map fun env => env.insert name value := by
  have binds : Overlays may fun env : Bindings => some (env.insert name value) := by
    refine ⟨fun _ => rfl, ?_, ?_⟩
    · rintro _ ⟨⟩
      exact List.pairwise_singleton _ _
    · rintro _ ⟨⟩ pair mem
      obtain rfl := List.mem_singleton.mp mem
      exact allowed
  simpa only [Option.map_eq_bind, Function.comp_def] using overlays.bind binds

end Overlays

/-! ## Matchers -/

/-- A matcher that binds the same whatever is bound already: some of the binders, to what can be
    reached from the value. -/
def Matcher.Uniform (binders : List String) (matcher : Matcher) : Prop :=
  ∀ datum, Overlays (fun name value => name ∈ binders ∧ datum.Reaches value) (matcher datum)

namespace Matcher.Uniform

variable {binders more : List String} {matcher second : Matcher}

theorem mono (uniform : Uniform binders matcher) (subset : binders ⊆ more) : Uniform more matcher :=
  fun datum => (uniform datum).imp fun _ _ may => ⟨subset may.1, may.2⟩

theorem nothing : Uniform binders fun _ _ => none :=
  fun _ => .fails

theorem test (condition : Datum → Bool) : Uniform binders (Matcher.test condition) :=
  fun datum => .test (condition datum)

theorem firstOf {matchers : List Matcher}
    (uniform : ∀ matcher ∈ matchers, Uniform binders matcher) :
    Uniform binders (Matcher.firstOf matchers) := by
  intro datum
  induction matchers with
  | nil => exact .fails
  | cons matcher rest ih =>
      obtain ⟨first, others⟩ := List.forall_mem_cons.mp uniform
      have split : Matcher.firstOf (matcher :: rest) datum = fun env =>
          (matcher datum env).or (Matcher.firstOf rest datum env) := by
        funext env
        rw [Matcher.firstOf, List.findSome?_cons]
        cases matcher datum env <;> rfl
      rw [split]
      exact (first datum).or (ih others)

theorem both (uniform : Uniform binders matcher) (uniform' : Uniform binders second) :
    Uniform binders (Matcher.both matcher second) :=
  fun datum => (uniform datum).bind (uniform' datum)

theorem bind (uniform : Uniform binders matcher) {name : String} (mem : name ∈ binders) :
    Uniform binders (Matcher.bind name matcher) :=
  fun datum => (uniform datum).insert ⟨mem, .self datum⟩

theorem items {matchers : List Matcher}
    (uniform : ∀ matcher ∈ matchers, Uniform binders matcher) :
    Uniform binders (Matcher.items matchers) := by
  have each : ∀ items all, items ⊆ all → Overlays
      (fun name value => name ∈ binders ∧ (Datum.list all).Reaches value)
      (Matcher.each matchers items) := by
    intro items all inside
    induction matchers generalizing items with
    | nil =>
        cases items with
        | nil => exact .test true
        | cons item items => exact .fails
    | cons matcher rest ih =>
        obtain ⟨first, others⟩ := List.forall_mem_cons.mp uniform
        cases items with
        | nil => exact .fails
        | cons item items =>
            obtain ⟨mem, inside⟩ := List.cons_subset.mp inside
            exact ((first item).imp fun _ _ may => ⟨may.1, .item mem may.2⟩).bind
              (ih others items inside)
  intro datum
  cases datum with
  | list all => exact each all all (List.Subset.refl all)
  | _ => exact .fails

end Matcher.Uniform

/-! ## Type forms -/

/-- What holds of a pattern, of its parts, of their parts, and so on. -/
inductive Pattern.Throughout (holds : Pattern → Prop) : Pattern → Prop where
  | intro {pattern : Pattern} (here : holds pattern)
      (parts : ∀ part ∈ pattern.parts, Throughout holds part) : Throughout holds pattern

namespace Pattern.Throughout

variable {holds : Pattern → Prop} {pattern : Pattern}

theorem here : Throughout holds pattern → holds pattern
  | intro here _ => here

theorem parts : Throughout holds pattern → ∀ part ∈ pattern.parts, Throughout holds part
  | intro _ parts => parts

end Pattern.Throughout

/-- A pattern that binds the same whatever is bound already. -/
def Pattern.Uniform (pattern : Pattern) : Prop :=
  pattern.matcher.Uniform pattern.form.binders

theorem mapM_eq_filterMap {α β : Type} (f : α → Option β) (items : List α) :
    items.mapM f = if ∀ item ∈ items, (f item).isSome then some (items.filterMap f) else none := by
  induction items with
  | nil => simp
  | cons item rest ih =>
      rw [List.mapM_cons, ih]
      cases found : f item with
      | none => simp [found]
      | some result =>
          by_cases others : ∀ item ∈ rest, (f item).isSome
          · have all : ∀ item' ∈ item :: rest, (f item').isSome :=
              List.forall_mem_cons.mpr ⟨by simp [found], others⟩
            rw [if_pos others, if_pos all, List.filterMap_cons, found]
            rfl
          · have some' : ¬∀ item' ∈ item :: rest, (f item').isSome :=
              fun all => others (List.forall_mem_cons.mp all).2
            rw [if_neg others, if_neg some']
            rfl

theorem exists_of_mem_mapM {α β : Type} {f : α → Option β} {items : List α} {results : List β}
    (mapped : items.mapM f = some results) {result : β} (mem : result ∈ results) :
    ∃ item ∈ items, f item = some result := by
  rw [mapM_eq_filterMap, Option.ite_none_right_eq_some] at mapped
  obtain ⟨-, rfl⟩ := mapped.imp_right Option.some.inj
  exact List.mem_filterMap.mp mem

namespace FieldGroup

variable {holds : Pattern → Prop} {pattern : Pattern}

theorem keyword?_throughout (throughout : pattern.Throughout holds) {field : String × Pattern}
    (keyword : keyword? pattern = some field) : field.2.Throughout holds := by
  unfold keyword? at keyword
  split at keyword
  · next right form parts =>
      split at keyword
      · obtain ⟨name, -, rfl⟩ := Option.map_eq_some_iff.mp keyword
        exact throughout.parts right (by simp [parts])
      · cases keyword
  · cases keyword

/-- The patterns of the fields in a group are parts of its bracket, or parts of these. -/
theorem ofPattern?_throughout (throughout : pattern.Throughout holds) {group : FieldGroup}
    (reads : ofPattern? pattern = some group) :
    (∀ field ∈ group.keywordsOf, field.2.Throughout holds) ∧
      ∀ patterns, group.positional? = some patterns → ∀ part ∈ patterns, part.Throughout holds := by
  unfold ofPattern? at reads
  split at reads
  · cases keywords : pattern.parts.mapM keyword? with
    | some fields =>
        obtain rfl : FieldGroup.keywords fields = group := by simpa [keywords] using reads
        refine ⟨fun field mem => ?_, nofun⟩
        obtain ⟨part, mem, keyword⟩ := exists_of_mem_mapM keywords mem
        exact keyword?_throughout (throughout.parts part mem) keyword
    | none =>
        simp only [keywords] at reads
        split at reads
        · cases reads
        · obtain rfl := Option.some.inj reads
          refine ⟨nofun, ?_⟩
          rintro _ ⟨⟩
          exact throughout.parts
  · cases reads

/-- Whether the fields match does not depend on what is bound. -/
theorem accept_eq {groups : List FieldGroup}
    (uniform : ∀ group ∈ groups, (∀ field ∈ group.keywordsOf, field.2.Uniform) ∧
      ∀ patterns, group.positional? = some patterns → ∀ part ∈ patterns, part.Uniform)
    (env : Bindings) (datum : Datum) : accept groups env datum = accept groups [] datum := by
  have same : ∀ fields : List (String × Pattern), (∀ field ∈ fields, field.2.Uniform) →
      fields.all (fun field => (field.2.matcher (datum.part field.1) env).isSome) =
        fields.all (fun field => (field.2.matcher (datum.part field.1) []).isSome) := by
    intro fields uniform
    rw [Bool.eq_iff_iff, List.all_eq_true, List.all_eq_true]
    exact forall₂_congr fun field mem => by rw [(uniform field mem _).isSome env]
  have named : ∀ field ∈ groups.flatMap keywordsOf, field.2.Uniform := by
    intro field mem
    obtain ⟨group, inGroups, inGroup⟩ := List.mem_flatMap.mp mem
    exact (uniform group inGroups).1 field inGroup
  unfold accept
  simp only [same _ named]
  congr 1
  split
  · rfl
  · next patterns positional =>
      have placed : ∀ field ∈ datum.positionalNames.zip patterns, field.2.Uniform := by
        intro field mem
        have found : patterns ∈ groups.filterMap positional? := by simp [positional]
        obtain ⟨group, inGroups, reads⟩ := List.mem_filterMap.mp found
        exact (uniform group inGroups).2 patterns reads field.2 (List.of_mem_zip mem).2
      rw [same _ placed]
  · rfl

end FieldGroup

/-- A type form passes on the bindings it is given, or fails whatever they are. -/
theorem Matcher.typeForm_eq {parts : List Pattern}
    (throughout : ∀ part ∈ parts, part.Throughout Pattern.Uniform) (datum : Datum)
    (env : Bindings) :
    Matcher.typeForm parts datum env =
      if (Matcher.typeForm parts datum []).isSome then some env else none := by
  cases parts with
  | nil => rfl
  | cons name groups =>
      have fields : ∀ read, groups.mapM FieldGroup.ofPattern? = some read → ∀ group ∈ read,
          (∀ field ∈ group.keywordsOf, field.2.Uniform) ∧
            ∀ patterns, group.positional? = some patterns → ∀ part ∈ patterns, part.Uniform := by
        intro read reads group mem
        obtain ⟨part, mem, reads⟩ := exists_of_mem_mapM reads mem
        have ⟨named, placed⟩ := FieldGroup.ofPattern?_throughout
          (throughout part (List.mem_cons_of_mem _ mem)) reads
        exact ⟨fun field mem => (named field mem).here,
          fun patterns reads part mem => (placed patterns reads part mem).here⟩
      simp only [Matcher.typeForm, Option.bind_eq_bind]
      cases name.form.ident? with
      | none => rfl
      | some typeName =>
          cases reads : groups.mapM FieldGroup.ofPattern? with
          | none =>
              simp only [Option.bind_some, Option.bind_none]
              cases datum.hasType typeName <;> cases datum.isCompound <;> rfl
          | some groups =>
              simp only [Option.bind_some, FieldGroup.accept_eq (fields groups reads) env]
              cases datum.hasType typeName <;> cases datum.isCompound <;>
                cases FieldGroup.accept groups [] datum <;> rfl

theorem Matcher.Uniform.typeForm {binders : List String} {parts : List Pattern}
    (throughout : ∀ part ∈ parts, part.Throughout Pattern.Uniform) :
    Matcher.Uniform binders (Matcher.typeForm parts) := by
  intro datum
  rw [funext (Matcher.typeForm_eq throughout datum)]
  exact .test _

/-! ## All patterns -/

theorem Matcher.Uniform.leaf {binders : List String} (kind : LeafKind) (text : String) :
    Matcher.Uniform binders (Matcher.leaf kind text) :=
  test _

theorem Node.mem_bindersAll {name : String} {nodes : List Node} {node : Node} (mem : node ∈ nodes)
    (binds : name ∈ node.binders) : name ∈ Node.bindersAll nodes := by
  induction nodes with
  | nil => cases mem
  | cons first rest ih =>
      rw [Node.bindersAll, List.mem_append]
      rcases List.mem_cons.mp mem with rfl | mem
      · exact .inl binds
      · exact .inr (ih mem)

section Forms

variable {left right : Node} {loc : Option Span} {l r : Pattern}

theorem Matcher.Uniform.operation (operator : String) (leftForm : l.form = left)
    (rightForm : r.form = right) (leftUniform : l.Uniform) (rightUniform : r.Uniform) :
    Matcher.Uniform (Node.binop left operator right loc).binders
      (Matcher.operation (.binop left operator right loc) l operator r) := by
  subst leftForm rightForm
  unfold Matcher.operation
  split
  · refine firstOf (List.forall_mem_cons.mpr ⟨?_, List.forall_mem_singleton.mpr ?_⟩)
    · exact leftUniform.mono (List.subset_append_left _ _)
    · exact rightUniform.mono (List.subset_append_right _ _)
  · exact both (leftUniform.mono (List.subset_append_left _ _))
      (rightUniform.mono (List.subset_append_right _ _))
  · split <;> exact test _
  · cases named : l.form.ident? with
    | none => exact nothing
    | some name =>
        refine bind (rightUniform.mono (List.subset_append_right _ _)) ?_
        simp [named]
  · exact test _

theorem Matcher.Uniform.bracket {parts : List Pattern} (kind : Bracket)
    (throughout : ∀ part ∈ parts, part.Throughout Pattern.Uniform) :
    Matcher.Uniform (Node.bracket kind (parts.map Pattern.form) loc).binders
      (Matcher.bracket kind parts) := by
  have children : ∀ matcher ∈ parts.map Pattern.matcher,
      Matcher.Uniform (Node.bindersAll (parts.map Pattern.form)) matcher := by
    intro matcher mem
    obtain ⟨part, inParts, rfl⟩ := List.mem_map.mp mem
    exact (throughout part inParts).here.mono fun name binds =>
      Node.mem_bindersAll (List.mem_map_of_mem inParts) binds
  unfold Matcher.bracket
  split
  · exact test _
  · exact children _ (by simp)
  · exact firstOf children
  · exact items children
  · split
    · exact test _
    · exact typeForm fun part mem => throughout part (List.mem_cons_of_mem _ mem)
    · exact nothing
  · exact nothing
  · exact nothing

end Forms

theorem Node.map_form_toPatterns (hooks : List Hook) (nodes : List Node) :
    (toPatterns hooks nodes).map Pattern.form = nodes := by
  simp [toPatterns_eq_map, Function.comp_def]

mutual

theorem Node.throughout_toPattern (node : Node) :
    (node.toPattern []).Throughout Pattern.Uniform := by
  cases node with
  | leaf kind text loc =>
      rw [toPattern]
      exact .intro (Matcher.Uniform.leaf kind text) nofun
  | binop left operator right loc =>
      have leftUniform := throughout_toPattern left
      have rightUniform := throughout_toPattern right
      rw [toPattern]
      refine .intro ?_ (List.forall_mem_cons.mpr
        ⟨leftUniform, List.forall_mem_singleton.mpr rightUniform⟩)
      exact Matcher.Uniform.operation operator (form_toPattern [] left) (form_toPattern [] right)
        leftUniform.here rightUniform.here
  | bracket kind children loc =>
      have throughout := throughout_toPatterns children
      have uniform : Matcher.Uniform
          (bracket kind ((toPatterns [] children).map Pattern.form) loc).binders _ :=
        .bracket kind throughout
      rw [map_form_toPatterns] at uniform
      rw [toPattern]
      exact .intro uniform throughout
termination_by sizeOf node

theorem Node.throughout_toPatterns (nodes : List Node) :
    ∀ part ∈ toPatterns [] nodes, part.Throughout Pattern.Uniform := by
  cases nodes with
  | nil =>
      rw [toPatterns]
      exact nofun
  | cons node rest =>
      have first := throughout_toPattern node
      have others := throughout_toPatterns rest
      rw [toPatterns]
      exact List.forall_mem_cons.mpr ⟨first, others⟩
termination_by sizeOf nodes

end

/-- A type form that no hook claims is told its name and its groups. -/
theorem PatternMatcher.bindings?_typeForm (matcher : PatternMatcher) {head : Node}
    (parts : List Node) (loc : Option Span) (isType : head.isIdent "$type")
    (unclaimed : ∀ hook ∈ matcher.hooks,
      hook.claims (.bracket .curly (head :: parts) loc) = false)
    (datum : Datum) (env : Bindings) :
    matcher.bindings? datum (.bracket .curly (head :: parts) loc) env =
      Matcher.typeForm (parts.map (Node.toPattern matcher.hooks)) datum env := by
  have name : head.ident? = some "$type" := by simpa [Node.isIdent] using isType
  simp only [bindings?, Node.toPattern, Node.toPatterns, Pattern.matcher,
    Matcher.hooked_own unclaimed, Matcher.bracket, Node.form_toPattern, name,
    Node.toPatterns_eq_map]

/-! ## Captures -/

/-- What a match binds, without hooks and where nothing is bound yet. -/
def Node.captures? (pattern : Node) (datum : Datum) : Option Bindings :=
  PatternMatcher.bindings? {} datum pattern []

theorem Node.bindings?_either (left right : Node) (loc : Option Span) (datum : Datum)
    (env : Bindings) :
    PatternMatcher.bindings? {} datum (.binop left "|" right loc) env =
      (PatternMatcher.bindings? {} datum left env).or
        (PatternMatcher.bindings? {} datum right env) := by
  have meaning : PatternMatcher.bindings? {} datum (.binop left "|" right loc) env =
      Matcher.firstOf [(left.toPattern []).matcher, (right.toPattern []).matcher] datum env := by
    rw [PatternMatcher.bindings?, toPattern]
    rfl
  rw [meaning, Matcher.firstOf, List.findSome?_cons, List.findSome?_singleton]
  simp only [PatternMatcher.bindings?]
  cases (left.toPattern []).matcher datum env <;> rfl

theorem Node.captures?_alternatives (left right : Node) (loc : Option Span) (datum : Datum) :
    (Node.binop left "|" right loc).captures? datum =
      (left.captures? datum).or (right.captures? datum) :=
  bindings?_either left right loc datum []

/-- A form that only tests captures nothing. -/
theorem Node.captures?_testing {head : Node} (parts : List Node) (loc : Option Span)
    (testing : head.isIdent "$r" ∨ head.isIdent "$type") {datum : Datum} {captured : Bindings}
    (captures : (Node.bracket .curly (head :: parts) loc).captures? datum = some captured) :
    captured = [] := by
  rw [captures?] at captures
  rcases testing with isRegular | isType
  · rw [PatternMatcher.bindings?_regular {} parts loc isRegular nofun] at captures
    obtain ⟨items, -, found⟩ := Option.bind_eq_some_iff.mp captures
    exact (Option.some.inj (Option.ite_none_right_eq_some.mp found).2).symm
  · rw [PatternMatcher.bindings?_typeForm {} parts loc isType nofun, ← toPatterns_eq_map,
      Matcher.typeForm_eq (throughout_toPatterns parts)] at captures
    exact (Option.some.inj (Option.ite_none_right_eq_some.mp captures).2).symm

/-- A match lays the captures over what is bound already, or fails whatever is bound. Each name that
    is captured is a binder of the pattern and stands for a part of the value. An alternative
    that failed leaves nothing behind, and regular patterns and type forms capture nothing. -/
theorem captures_uniform (datum : Datum) (pattern : Node) :
    ((∀ env, PatternMatcher.bindings? {} datum pattern env = none) ∨
      ∃ captured, pattern.captures? datum = some captured ∧
        ∀ env, PatternMatcher.bindings? {} datum pattern env = some (env.override captured)) ∧
    (∀ captured, pattern.captures? datum = some captured →
      captured.Sorted ∧
      (∀ env name, (Bindings.override env captured).lookup name =
        (captured.lookup name).or (env.lookup name)) ∧
      ∀ pair ∈ captured, pair.1 ∈ pattern.binders ∧ datum.Reaches pair.2) ∧
    (∀ left right loc, (Node.binop left "|" right loc).captures? datum =
      (left.captures? datum).or (right.captures? datum)) ∧
    (∀ head parts loc captured, head.isIdent "$r" ∨ head.isIdent "$type" →
      (Node.bracket .curly (head :: parts) loc).captures? datum = some captured →
        captured = []) := by
  have uniform := (pattern.throughout_toPattern).here datum
  rw [Node.form_toPattern] at uniform
  refine ⟨?_, fun captured captures => ?_, fun left right loc => ?_,
    fun head parts loc captured testing captures => ?_⟩
  · cases captures : pattern.captures? datum with
    | none =>
        refine .inl fun env => (uniform.eq_override env).trans ?_
        exact congrArg (Option.map _) captures
    | some captured =>
        refine .inr ⟨captured, rfl, fun env => (uniform.eq_override env).trans ?_⟩
        exact congrArg (Option.map _) captures
  · have sorted := uniform.sorted captured captures
    exact ⟨sorted, fun env => Bindings.lookup_override env sorted,
      uniform.allowed captured captures⟩
  · exact Node.captures?_alternatives left right loc datum
  · exact Node.captures?_testing parts loc testing captures

/-- The text `x` as `a`, or whatever it is as `b`. -/
theorem captures_uniform_texts :
    let pattern : Node := .square [.binary (.binary (.ident "a") "=" (.ident "x")) "|"
      (.binary (.ident "b") "=" (.ident "_"))]
    let datum : Datum := .list [.string "y"]
    pattern.captures? datum = some [("b", .string "y")] ∧
    "b" ∈ pattern.binders ∧ datum.Reaches (.string "y") ∧
    PatternMatcher.bindings? {} datum pattern [("a", .null), ("b", .null)] =
      some [("a", .null), ("b", .string "y")] := by
  intro pattern datum
  have captures : pattern.captures? datum = some [("b", .string "y")] := by rfl
  obtain ⟨either, parts, -⟩ := captures_uniform datum pattern
  obtain ⟨binds, reaches⟩ := (parts _ captures).2.2 _ List.mem_cons_self
  refine ⟨captures, binds, reaches, ?_⟩
  rcases either with fails | ⟨captured, captures', overlaid⟩
  · exact absurd ((fails []).symm.trans captures) nofun
  · obtain rfl : captured = [("b", .string "y")] :=
      Option.some.inj (captures'.symm.trans captures)
    rw [overlaid]
    rfl

end TreeMacros
