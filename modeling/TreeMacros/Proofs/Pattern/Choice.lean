import TreeMacros.Proofs.Pattern.TypeForm

/-! # Choices

The matcher takes the first alternative that matches and never comes back for another one. A match
may as well be looked for with a free choice at every place where a pattern has alternatives, and at
every element of a list again. The matcher finds one if there is any: what is bound has no influence
on whether the rest of a pattern matches, so one alternative that matches is as good as another.
This is also why alternatives and conjunctions distribute over each other from both sides.
-/

namespace TreeMacros

namespace Node

/-- Whether a pattern has no patterns in it: a leaf, an expression, or empty round brackets. -/
def isPlain : Node → Bool
  | leaf .. => true
  | binop _ operator _ _ => operator ∉ ["|", "&", "="]
  | bracket kind children _ => kind == .round && children.isEmpty

/-- A match of a datum that may take any alternative: the bindings before and after it. -/
inductive Chooses : Node → Datum → Bindings → Bindings → Prop where
  | plain {pattern : Node} {datum : Datum} {env result : Bindings} (isPlain : pattern.isPlain)
      (accepts : PatternMatcher.bindings? {} datum pattern env = some result) :
      Chooses pattern datum env result
  | left {left right : Node} {loc : Option Span} {datum : Datum} {env result : Bindings}
      (chosen : Chooses left datum env result) :
      Chooses (.binop left "|" right loc) datum env result
  | right {left right : Node} {loc : Option Span} {datum : Datum} {env result : Bindings}
      (chosen : Chooses right datum env result) :
      Chooses (.binop left "|" right loc) datum env result
  | child {children : List Node} {child : Node} {loc : Option Span} {datum : Datum}
      {env result : Bindings} (mem : child ∈ children) (chosen : Chooses child datum env result) :
      Chooses (.bracket .round children loc) datum env result
  | both {left right : Node} {loc : Option Span} {datum : Datum} {env between result : Bindings}
      (first : Chooses left datum env between) (second : Chooses right datum between result) :
      Chooses (.binop left "&" right loc) datum env result
  | bind {target value : Node} {loc : Option Span} {name : String} {datum : Datum}
      {env result : Bindings} (named : target.ident? = some name)
      (chosen : Chooses value datum env result) :
      Chooses (.binop target "=" value loc) datum env (result.insert name datum)
  | nothing {loc : Option Span} {env : Bindings} :
      Chooses (.bracket .square [] loc) (.list []) env env
  | item {child : Node} {children : List Node} {loc : Option Span} {item : Datum}
      {items : List Datum} {env between result : Bindings} (first : Chooses child item env between)
      (others : Chooses (.bracket .square children loc) (.list items) between result) :
      Chooses (.bracket .square (child :: children) loc) (.list (item :: items)) env result
  /-- Any split of the list, and for each of its elements a choice of its own. -/
  | regular {head : Node} {parts : List Node} {loc : Option Span} {items : List Datum}
      {env : Bindings} {suits : Node → Datum → Prop} {captured : Node → Datum → Bindings}
      (isRegular : head.isIdent "$r") (described : Describes suits parts items)
      (suited : ∀ node element, suits node element →
        Chooses node element [] (captured node element)) :
      Chooses (.bracket .curly (head :: parts) loc) (.list items) env env
  /-- For each of the fields a choice of its own. -/
  | typeForm {head typeName : Node} {groups : List Node} {loc : Option Span} {name : String}
      {datum : Datum} {env : Bindings} {suits : Node → Datum → Prop}
      {captured : Node → Datum → Bindings} (isType : head.isIdent "$type")
      (named : typeName.ident? = some name) (hasType : datum.hasType name)
      (fits : datum.isCompound = false ∨ FitsGroups suits datum groups)
      (suited : ∀ node part, suits node part → Chooses node part env (captured node part)) :
      Chooses (.bracket .curly (head :: typeName :: groups) loc) datum env env

end Node

/-! ## The meaning of the forms -/

namespace Node

variable (left right : Node) (loc : Option Span) (datum : Datum) (env : Bindings)

theorem bindings?_both : PatternMatcher.bindings? {} datum (.binop left "&" right loc) env =
    (PatternMatcher.bindings? {} datum left env).bind fun env =>
      PatternMatcher.bindings? {} datum right env := by
  rw [PatternMatcher.bindings?, toPattern]
  rfl

theorem bindings?_bind : PatternMatcher.bindings? {} datum (.binop left "=" right loc) env =
    left.ident?.bind fun name =>
      (PatternMatcher.bindings? {} datum right env).map fun env => env.insert name datum := by
  have meaning : PatternMatcher.bindings? {} datum (.binop left "=" right loc) env =
      Matcher.operation (.binop left "=" right loc) (left.toPattern []) "=" (right.toPattern [])
        datum env := by
    rw [PatternMatcher.bindings?, toPattern]
    rfl
  rw [meaning, Matcher.operation, form_toPattern]
  cases left.ident? <;> rfl

theorem bindings?_round (child : Node) (children : List Node) :
    PatternMatcher.bindings? {} datum (.bracket .round (child :: children) loc) env =
      (child :: children).findSome? fun child => PatternMatcher.bindings? {} datum child env := by
  have meaning : PatternMatcher.bindings? {} datum (.bracket .round (child :: children) loc) env =
      Matcher.bracket .round ((child :: children).map (toPattern [])) datum env := by
    rw [PatternMatcher.bindings?, toPattern, toPatterns_eq_map]
    rfl
  rw [meaning]
  cases children with
  | nil =>
      rw [List.findSome?_singleton]
      rfl
  | cons second others =>
      have alternatives : Matcher.bracket .round ((child :: second :: others).map (toPattern [])) =
          Matcher.firstOf (((child :: second :: others).map (toPattern [])).map Pattern.matcher) :=
        rfl
      rw [alternatives, Matcher.firstOf, List.map_map, List.findSome?_map]
      rfl

theorem bindings?_square (children : List Node) :
    PatternMatcher.bindings? {} datum (.bracket .square children loc) env =
      Matcher.items (children.map fun child => (child.toPattern []).matcher) datum env := by
  rw [PatternMatcher.bindings?, toPattern, toPatterns_eq_map]
  simp [Pattern.matcher, Matcher.hooked, Matcher.bracket, Function.comp_def]

theorem square_nil_eq_some_iff (result : Bindings) :
    PatternMatcher.bindings? {} datum (.bracket .square [] loc) env = some result ↔
      datum = .list [] ∧ result = env := by
  rw [bindings?_square, @eq_comm _ result]
  cases datum with
  | list items => cases items <;> simp [Matcher.items, Matcher.each, Datum.list?]
  | _ => simp [Matcher.items, Datum.list?]

theorem square_cons_eq_some_iff (child : Node) (children : List Node) (result : Bindings) :
    PatternMatcher.bindings? {} datum (.bracket .square (child :: children) loc) env =
        some result ↔
      ∃ item items between, datum = .list (item :: items) ∧
        PatternMatcher.bindings? {} item child env = some between ∧
        PatternMatcher.bindings? {} (.list items) (.bracket .square children loc) between =
          some result := by
  simp only [bindings?_square]
  cases datum with
  | list items =>
      cases items with
      | nil => simp [Matcher.items, Matcher.each, Datum.list?]
      | cons item items =>
          simp [Matcher.items, Matcher.each, Datum.list?, Option.bind_eq_some_iff,
            PatternMatcher.bindings?]
  | _ => simp [Matcher.items, Datum.list?]

/-- A curly form that matches is a regular pattern or a type form. -/
theorem head_of_curly {children : List Node} {result : Bindings}
    (found : PatternMatcher.bindings? {} datum (.bracket .curly children loc) env = some result) :
    ∃ head parts, children = head :: parts ∧
      (head.isIdent "$r" ∨ head.isIdent "$type" ∧ parts ≠ []) := by
  rw [PatternMatcher.bindings?, toPattern, toPatterns_eq_map] at found
  cases children with
  | nil => cases found
  | cons head parts =>
      have meaning : ∃ matcher : Matcher,
          Matcher.bracket .curly ((head :: parts).map (toPattern [])) = matcher ∧
            matcher datum env = some result := ⟨_, rfl, found⟩
      obtain ⟨matcher, meaning, accepts⟩ := meaning
      refine ⟨head, parts, rfl, ?_⟩
      simp only [isIdent, beq_iff_eq]
      simp only [List.map_cons, Matcher.bracket, form_toPattern] at meaning
      split at meaning
      · next name => exact .inl name
      · next name =>
          refine .inr ⟨name, ?_⟩
          rintro rfl
          subst meaning
          cases accepts
      · subst meaning
        cases accepts

end Node

/-! ## No match is lost -/

namespace Node

/-- Without hooks a node accepts the same data whatever is bound. -/
theorem accepts_eq (node : Node) (datum : Datum) (env : Bindings) :
    PatternMatcher.accepts {} datum node = (PatternMatcher.bindings? {} datum node env).isSome :=
  (node.isSome_matcher datum env).symm

/-- What the matcher binds is bound by a choice. -/
def IsChosen (pattern : Node) : Prop :=
  ∀ ⦃datum env result⦄, PatternMatcher.bindings? {} datum pattern env = some result →
    pattern.Chooses datum env result

theorem isChosen_binop {left right : Node} (first : left.IsChosen) (second : right.IsChosen)
    (operator : String) (loc : Option Span) : (binop left operator right loc).IsChosen := by
  intro datum env result found
  by_cases either : operator = "|"
  · subst either
    rw [bindings?_either] at found
    rcases Option.or_eq_some_iff.mp found with here | ⟨-, there⟩
    · exact .left (first here)
    · exact .right (second there)
  by_cases both : operator = "&"
  · subst both
    rw [bindings?_both] at found
    obtain ⟨between, here, there⟩ := Option.bind_eq_some_iff.mp found
    exact .both (first here) (second there)
  by_cases binds : operator = "="
  · subst binds
    rw [bindings?_bind] at found
    obtain ⟨name, named, bound⟩ := Option.bind_eq_some_iff.mp found
    obtain ⟨between, there, rfl⟩ := Option.map_eq_some_iff.mp bound
    exact .bind named (second there)
  · exact .plain (by simp [isPlain, either, both, binds]) found

variable {children : List Node} (loc : Option Span)

theorem isChosen_round (chosen : ∀ child ∈ children, child.IsChosen) :
    (bracket .round children loc).IsChosen := by
  intro datum env result found
  cases children with
  | nil => exact .plain rfl found
  | cons child others =>
      rw [bindings?_round] at found
      obtain ⟨alternative, mem, matching⟩ := List.exists_of_findSome?_eq_some found
      exact .child mem (chosen alternative mem matching)

theorem isChosen_square (chosen : ∀ child ∈ children, child.IsChosen) :
    (bracket .square children loc).IsChosen := by
  intro datum env result found
  induction children generalizing datum env with
  | nil =>
      obtain ⟨rfl, rfl⟩ := (square_nil_eq_some_iff _ _ _ _).mp found
      exact .nothing
  | cons child others ih =>
      obtain ⟨first, rest⟩ := List.forall_mem_cons.mp chosen
      obtain ⟨item, items, between, rfl, here, later⟩ :=
        (square_cons_eq_some_iff _ _ _ _ _ _).mp found
      exact .item (first here) (ih rest later)

theorem isChosen_curly
    (chosen : ∀ child ∈ children, ∀ node, child.Contains node → node.IsChosen) :
    (bracket .curly children loc).IsChosen := by
  intro datum env result found
  let captured := fun (env : Bindings) (node : Node) (part : Datum) =>
    (PatternMatcher.bindings? {} part node env).getD []
  have nodes : ∀ child ∈ children, ∀ node, child.Contains node → ∀ env part,
      PatternMatcher.accepts {} part node → node.Chooses part env (captured env node part) := by
    intro child mem node contains env part accepted
    rw [accepts_eq node part env] at accepted
    obtain ⟨bound, here⟩ := Option.isSome_iff_exists.mp accepted
    exact chosen child mem node contains (by simp [captured, here])
  obtain ⟨head, parts, rfl, isRegular | ⟨isType, nonempty⟩⟩ :=
    head_of_curly _ _ _ found
  · obtain ⟨rfl, items, rfl, described⟩ :=
      (PatternMatcher.regular_eq_some_iff {} _ _ isRegular nofun _ _ _).mp found
    obtain ⟨-, inParts⟩ := List.forall_mem_cons.mp nodes
    have free : Describes (fun node element => node.Chooses element [] (captured [] node element))
        parts items :=
      described.mono fun part mem node contains element => inParts part mem node contains [] element
    exact .regular isRegular free fun _ _ suits => suits
  · obtain ⟨typeName, groups, rfl⟩ := List.exists_cons_of_ne_nil nonempty
    obtain ⟨rfl, name, named, hasType, fits⟩ := (typeForm_eq_some_iff isType _ _ _ _ _ _).mp found
    obtain ⟨-, -, inGroups⟩ :=
      (List.forall_mem_cons.mp nodes).imp_right List.forall_mem_cons.mp
    have free : datum.isCompound = false ∨
        FitsGroups (fun node part => node.Chooses part result (captured result node part)) datum
          groups :=
      fits.imp_right fun fits => fits.mono fun group mem node contains part =>
        inGroups group mem node contains result part
    exact .typeForm isType named hasType free fun _ _ suits => suits

/-- What the matcher binds is bound by a choice. -/
theorem isChosen (pattern : Node) : pattern.IsChosen := by
  induction pattern using contains_induction with
  | step whole inside =>
  have part : ∀ part ∈ whole.parts, part.IsChosen :=
    fun part direct => inside part direct part (.self part)
  cases whole with
  | leaf kind text loc => exact fun _ _ _ => .plain rfl
  | binop left operator right loc =>
      exact isChosen_binop (part left (by simp [parts])) (part right (by simp [parts])) operator loc
  | bracket kind children loc =>
      cases kind with
      | round => exact isChosen_round loc part
      | square => exact isChosen_square loc part
      | curly => exact isChosen_curly loc inside
      | sequence =>
          intro datum env result found
          rw [PatternMatcher.bindings?, toPattern] at found
          cases found

/-- If there is a choice that matches, the matcher finds one. It may bind something else on its way,
    but that has no influence on what the rest accepts. -/
theorem Chooses.accepts {pattern : Node} {datum : Datum} {env result : Bindings}
    (chooses : pattern.Chooses datum env result) :
    PatternMatcher.accepts {} datum pattern = true := by
  induction chooses with
  | @plain pattern datum env result isPlain accepts =>
      rw [accepts_eq _ _ env, accepts]
      rfl
  | left chosen ih =>
      rw [accepts_eq _ _ [], bindings?_either, Option.isSome_or]
      exact Bool.or_eq_true_iff.mpr (.inl ih)
  | right chosen ih =>
      rw [accepts_eq _ _ [], bindings?_either, Option.isSome_or]
      exact Bool.or_eq_true_iff.mpr (.inr ih)
  | @child children child loc datum env result mem chosen ih =>
      obtain ⟨first, others, rfl⟩ := List.exists_cons_of_ne_nil (List.ne_nil_of_mem mem)
      rw [accepts_eq _ _ [], bindings?_round, List.findSome?_isSome_iff]
      exact ⟨child, mem, ih⟩
  | both first second here there =>
      obtain ⟨between, found⟩ := Option.isSome_iff_exists.mp here
      rw [accepts_eq _ _ [], bindings?_both, found, Option.bind_some, ← accepts_eq]
      exact there
  | bind named chosen ih =>
      rw [accepts_eq _ _ [], bindings?_bind, named, Option.bind_some, Option.isSome_map]
      exact ih
  | nothing =>
      rw [accepts_eq _ _ [], (square_nil_eq_some_iff _ _ _ _).mpr ⟨rfl, rfl⟩]
      rfl
  | @item child children loc item items env between result first others here there =>
      obtain ⟨bound, found⟩ := Option.isSome_iff_exists.mp here
      rw [accepts_eq _ _ bound] at there
      obtain ⟨final, goesOn⟩ := Option.isSome_iff_exists.mp there
      rw [accepts_eq _ _ [], (square_cons_eq_some_iff _ _ _ _ _ _).mpr
        ⟨item, items, bound, rfl, found, goesOn⟩]
      rfl
  | regular isRegular described suited accepted =>
      have matching := described.mono fun _ _ node _ element => accepted node element
      rw [accepts_eq _ _ [], (PatternMatcher.regular_eq_some_iff {} _ _ isRegular nofun _ _ _).mpr
        ⟨rfl, _, rfl, matching⟩]
      rfl
  | typeForm isType named hasType fits suited accepted =>
      have matching := fits.imp_right fun fits =>
        fits.mono fun _ _ node _ part => accepted node part
      rw [accepts_eq _ _ [], (typeForm_eq_some_iff isType _ _ _ _ _ _).mpr
        ⟨rfl, _, named, hasType, matching⟩]
      rfl

end Node

/-! ## Laws -/

namespace Node

/-- Whether two patterns match the same data and bind the same. -/
def Equivalent (pattern pattern' : Node) : Prop :=
  ∀ datum env, PatternMatcher.bindings? {} datum pattern env =
    PatternMatcher.bindings? {} datum pattern' env

/-- One pattern or else the first of the others that matches. -/
def oneOf (pattern : Node) : List Node → Node
  | [] => pattern
  | next :: others => .binary pattern "|" (oneOf next others)

theorem bindings?_oneOf (pattern : Node) (others : List Node) (datum : Datum) (env : Bindings) :
    PatternMatcher.bindings? {} datum (oneOf pattern others) env =
      (pattern :: others).findSome? fun child => PatternMatcher.bindings? {} datum child env := by
  induction others generalizing pattern with
  | nil => rw [oneOf, List.findSome?_singleton]
  | cons next others ih =>
      rw [oneOf, binary, bindings?_either, ih]
      simp only [List.findSome?_cons]
      cases PatternMatcher.bindings? {} datum pattern env <;> rfl

/-- What follows a choice can be put behind each of the alternatives: where the first one matched
    and the rest did not, the rest does not match behind the second one either. -/
theorem both_either_equivalent (p q r : Node) (loc loc' loc₁ loc₂ loc₃ : Option Span) :
    Equivalent (.binop (.binop p "|" q loc) "&" r loc')
      (.binop (.binop p "&" r loc₁) "|" (.binop q "&" r loc₂) loc₃) := by
  intro datum env
  simp only [bindings?_both, bindings?_either]
  cases first : PatternMatcher.bindings? {} datum p env with
  | none => rfl
  | some between =>
      rw [Option.some_or, Option.bind_some]
      cases rest : PatternMatcher.bindings? {} datum r between with
      | some result => rfl
      | none =>
          have refuses : ∀ env, PatternMatcher.bindings? {} datum r env = none := by
            intro env
            rw [← Option.isNone_iff_eq_none, ← Option.isSome_eq_false_iff, ← accepts_eq,
              accepts_eq r datum between, rest]
            rfl
          rw [Option.none_or, funext refuses]
          cases PatternMatcher.bindings? {} datum q env <;> rfl

end Node

/-- Without hooks, round brackets are alternatives, alternatives and conjunctions are associative
    and distribute over each other from both sides, and the matcher, which does not come back for
    another alternative, matches if and only if some choice of alternatives does. -/
theorem choice_loses_nothing (p q r : Node) :
    (∀ others loc, Node.Equivalent (.bracket .round (p :: q :: others) loc)
      (p.oneOf (q :: others))) ∧
    (∀ loc loc' loc₁ loc₂, Node.Equivalent (.binop (.binop p "|" q loc) "|" r loc')
      (.binop p "|" (.binop q "|" r loc₁) loc₂)) ∧
    (∀ loc loc' loc₁ loc₂, Node.Equivalent (.binop (.binop p "&" q loc) "&" r loc')
      (.binop p "&" (.binop q "&" r loc₁) loc₂)) ∧
    (∀ loc loc' loc₁ loc₂ loc₃, Node.Equivalent (.binop p "&" (.binop q "|" r loc) loc')
      (.binop (.binop p "&" q loc₁) "|" (.binop p "&" r loc₂) loc₃)) ∧
    (∀ loc loc' loc₁ loc₂ loc₃, Node.Equivalent (.binop (.binop p "|" q loc) "&" r loc')
      (.binop (.binop p "&" r loc₁) "|" (.binop q "&" r loc₂) loc₃)) ∧
    ∀ datum env, (PatternMatcher.bindings? {} datum p env).isSome ↔
      ∃ result, p.Chooses datum env result := by
  refine ⟨?_, ?_, ?_, ?_, p.both_either_equivalent q r, ?_⟩
  · intro others loc datum env
    rw [Node.bindings?_round, Node.bindings?_oneOf]
  · intro loc loc' loc₁ loc₂ datum env
    simp only [Node.bindings?_either, Option.or_assoc]
  · intro loc loc' loc₁ loc₂ datum env
    simp only [Node.bindings?_both, Option.bind_assoc]
  · intro loc loc' loc₁ loc₂ loc₃ datum env
    simp only [Node.bindings?_both, Node.bindings?_either]
    cases PatternMatcher.bindings? {} datum p env <;> rfl
  · intro datum env
    constructor
    · intro found
      obtain ⟨result, found⟩ := Option.isSome_iff_exists.mp found
      exact ⟨result, p.isChosen found⟩
    · rintro ⟨result, chooses⟩
      rw [← p.accepts_eq datum env]
      exact chooses.accepts

end TreeMacros
