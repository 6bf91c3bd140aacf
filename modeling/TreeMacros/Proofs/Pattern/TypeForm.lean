import Mathlib.Data.List.Basic
import TreeMacros.Proofs.Pattern.Captures

/-! # Type forms

A type form names a type and lists groups of fields. What it accepts is said here of the groups as
they are written, without an order in which they would be read: so groups can be put in any order,
and so can the entries of a group that go by name.
-/

namespace TreeMacros

namespace Node

/-- Whether a node assigns anything to anything. -/
def isAssignment : Node → Bool
  | binop _ operator _ _ => operator == "="
  | _ => false

/-- The name and the pattern of an entry that goes by name. -/
def named? : Node → Option (String × Node)
  | binop (leaf .identifier name _) operator pattern _ =>
    if operator == "=" then some (name, pattern) else none
  | _ => none

/-- The entries of a group that go by name. -/
def named (group : Node) : List (String × Node) :=
  group.parts.filterMap named?

/-- Whether a group has entries and all of them go by position. -/
def isPositional (group : Node) : Bool :=
  !group.parts.isEmpty && group.parts.all fun entry => !entry.isAssignment

/-- Whether a group is one: square brackets whose entries all go by name, or none of whose entries
    is an assignment. -/
def IsGroup (group : Node) : Prop :=
  group.bracket? = some .square ∧ ((∀ entry ∈ group.parts, entry.named?.isSome) ∨
    ∀ entry ∈ group.parts, entry.isAssignment = false)

instance (group : Node) : Decidable group.IsGroup :=
  inferInstanceAs (Decidable (_ ∧ _))

theorem isPositional_iff {group : Node} : group.isPositional = true ↔
    group.parts ≠ [] ∧ ∀ entry ∈ group.parts, entry.isAssignment = false := by
  simp [isPositional]

theorem isAssignment_of_named? {entry : Node} (named : entry.named?.isSome) :
    entry.isAssignment = true := by
  unfold named? at named
  split at named
  · next name loc operator pattern loc' =>
      by_cases assigns : operator = "="
      · simp [isAssignment, assigns]
      · simp [assigns] at named
  · cases named

theorem contains_of_named? {entry : Node} {field : String × Node}
    (reads : entry.named? = some field) : entry.Contains field.2 := by
  unfold named? at reads
  split at reads
  · obtain rfl := Option.some.inj (Option.ite_none_right_eq_some.mp reads).2
    exact .of_part (by simp [parts])
  · cases reads

/-- Entries by name are not by position. -/
theorem isPositional_eq_false {group : Node} (named : ∀ entry ∈ group.parts, entry.named?.isSome) :
    group.isPositional = false := by
  rw [← Bool.not_eq_true, isPositional_iff]
  rintro ⟨nonempty, places⟩
  obtain ⟨entry, mem⟩ := List.exists_mem_of_ne_nil _ nonempty
  cases (isAssignment_of_named? (named entry mem)).symm.trans (places entry mem)

theorem named_eq_nil {group : Node} (places : group.isPositional = true) : group.named = [] := by
  refine List.filterMap_eq_nil_iff.mpr fun entry mem => ?_
  by_contra named
  have assigns := isAssignment_of_named? (Option.isSome_iff_ne_none.mpr named)
  cases assigns.symm.trans ((isPositional_iff.mp places).2 entry mem)

end Node

/-- When the parts of a datum fit one group of a type form, where it is known which data suit a
    node. -/
structure FitsGroup (suits : Node → Datum → Prop) (datum : Datum) (group : Node) : Prop where
  isGroup : group.IsGroup
  enough : group.isPositional → group.parts.length ≤ datum.positionalNames.length
  /-- A pattern by position has the name at the same place. -/
  placed : group.isPositional → ∀ field ∈ datum.positionalNames.zip group.parts,
    suits field.2 (datum.part field.1)
  named : ∀ field ∈ group.named, suits field.2 (datum.part field.1)

/-- When the parts of a datum fit all groups of a type form. One at most goes by position. -/
structure FitsGroups (suits : Node → Datum → Prop) (datum : Datum) (groups : List Node) : Prop where
  each : ∀ group ∈ groups, FitsGroup suits datum group
  single : groups.countP Node.isPositional ≤ 1

section

variable (suits : Node → Datum → Prop) [∀ node part, Decidable (suits node part)] (datum : Datum)

instance (group : Node) : Decidable (FitsGroup suits datum group) :=
  decidable_of_iff
    (group.IsGroup ∧
      (group.isPositional → group.parts.length ≤ datum.positionalNames.length) ∧
      (group.isPositional → ∀ field ∈ datum.positionalNames.zip group.parts,
        suits field.2 (datum.part field.1)) ∧
      ∀ field ∈ group.named, suits field.2 (datum.part field.1))
    ⟨fun ⟨isGroup, enough, placed, named⟩ => ⟨isGroup, enough, placed, named⟩,
      fun ⟨isGroup, enough, placed, named⟩ => ⟨isGroup, enough, placed, named⟩⟩

instance (groups : List Node) : Decidable (FitsGroups suits datum groups) :=
  decidable_of_iff
    ((∀ group ∈ groups, FitsGroup suits datum group) ∧ groups.countP Node.isPositional ≤ 1)
    ⟨fun ⟨each, single⟩ => ⟨each, single⟩, fun ⟨each, single⟩ => ⟨each, single⟩⟩

end

/-! ## The order of groups -/

/-- The same group, or the same entries by name in another order. -/
inductive Node.Shuffles : Node → Node → Prop
  | same (group : Node) : Shuffles group group
  | named {entries entries' : List Node} (named : ∀ entry ∈ entries, entry.named?.isSome)
      (perm : entries.Perm entries') (loc loc' : Option Span) :
      Shuffles (.bracket .square entries loc) (.bracket .square entries' loc')

/-- Groups in another order, each with its entries by name in any order. -/
def Regroups (groups groups' : List Node) : Prop :=
  ∃ between, groups.Perm between ∧ List.Forall₂ Node.Shuffles between groups'

namespace Node.Shuffles

variable {group group' : Node}

theorem symm (shuffles : group.Shuffles group') : group'.Shuffles group := by
  cases shuffles with
  | same => exact .same _
  | named named perm loc loc' =>
      exact .named (fun entry mem => named entry (perm.mem_iff.mpr mem)) perm.symm loc' loc

theorem isPositional_eq (shuffles : group.Shuffles group') :
    group.isPositional = group'.isPositional := by
  cases shuffles with
  | same => rfl
  | @named entries entries' named perm loc loc' =>
      have byName : (bracket .square entries loc).isPositional = false :=
        isPositional_eq_false named
      have byName' : (bracket .square entries' loc').isPositional = false :=
        isPositional_eq_false fun entry mem => named entry (perm.mem_iff.mpr mem)
      rw [byName, byName']

theorem fits {suits : Node → Datum → Prop} {datum : Datum} (shuffles : group.Shuffles group')
    (fits : FitsGroup suits datum group) : FitsGroup suits datum group' := by
  cases shuffles with
  | same => exact fits
  | @named entries entries' named perm loc loc' =>
      have named' : ∀ entry ∈ entries', entry.named?.isSome :=
        fun entry mem => named entry (perm.mem_iff.mpr mem)
      have byName : ¬(bracket .square entries' loc').isPositional = true :=
        Bool.not_eq_true _ ▸ isPositional_eq_false named'
      refine ⟨⟨rfl, .inl named'⟩, fun places => absurd places byName,
        fun places => absurd places byName, fun field mem => fits.named field ?_⟩
      exact (perm.filterMap named?).mem_iff.mpr mem

theorem fits_iff {suits : Node → Datum → Prop} {datum : Datum} (shuffles : group.Shuffles group') :
    FitsGroup suits datum group ↔ FitsGroup suits datum group' :=
  ⟨shuffles.fits, shuffles.symm.fits⟩

end Node.Shuffles

namespace FitsGroups

variable {suits : Node → Datum → Prop} {datum : Datum} {groups groups' : List Node}

/-- Groups still fit if what suits the nodes in them still does. -/
theorem mono {suits' : Node → Datum → Prop} (fits : FitsGroups suits datum groups)
    (weaker : ∀ group ∈ groups, ∀ node, group.Contains node → ∀ part,
      suits node part → suits' node part) : FitsGroups suits' datum groups where
  each group mem := by
    have ⟨isGroup, enough, placed, named⟩ := fits.each group mem
    refine ⟨isGroup, enough, fun places field inZip => ?_, fun field inNamed => ?_⟩
    · have direct : field.2 ∈ group.parts := (List.of_mem_zip inZip).2
      exact weaker group mem _ (.of_part direct) _ (placed places field inZip)
    · obtain ⟨entry, direct, reads⟩ := List.mem_filterMap.mp inNamed
      exact weaker group mem _ (.inside direct (Node.contains_of_named? reads)) _
        (named field inNamed)
  single := fits.single

theorem of_perm (perm : groups.Perm groups') (fits : FitsGroups suits datum groups) :
    FitsGroups suits datum groups' where
  each group mem := fits.each group (perm.mem_iff.mpr mem)
  single := perm.countP_eq Node.isPositional ▸ fits.single

theorem of_shuffles (shuffles : List.Forall₂ Node.Shuffles groups groups') :
    FitsGroups suits datum groups ↔ FitsGroups suits datum groups' := by
  have each : (∀ group ∈ groups, FitsGroup suits datum group) ↔
      ∀ group ∈ groups', FitsGroup suits datum group := by
    induction shuffles with
    | nil => rfl
    | cons first _ ih => rw [List.forall_mem_cons, List.forall_mem_cons, first.fits_iff, ih]
  have count : groups.countP Node.isPositional = groups'.countP Node.isPositional := by
    clear each
    induction shuffles with
    | nil => rfl
    | cons first _ ih => rw [List.countP_cons, List.countP_cons, first.isPositional_eq, ih]
  constructor
  · intro fits
    exact ⟨each.mp fits.each, count ▸ fits.single⟩
  · intro fits
    exact ⟨each.mpr fits.each, count ▸ fits.single⟩

/-- Groups fit in every order. -/
theorem of_regroups (regroups : Regroups groups groups') :
    FitsGroups suits datum groups ↔ FitsGroups suits datum groups' := by
  obtain ⟨between, perm, shuffles⟩ := regroups
  rw [← of_shuffles shuffles]
  exact ⟨of_perm perm, of_perm perm.symm⟩

end FitsGroups

/-! ## Reading groups -/

namespace FieldGroup

variable (hooks : List Hook)

/-- The group that a node is, if it is one. -/
def ofNode (group : Node) : FieldGroup :=
  if group.isPositional then positional (group.parts.map (Node.toPattern hooks))
  else keywords (group.named.map fun field => (field.1, field.2.toPattern hooks))

theorem keyword?_toPattern (entry : Node) :
    keyword? (entry.toPattern hooks) =
      entry.named?.map fun field => (field.1, field.2.toPattern hooks) := by
  rw [keyword?, Node.form_toPattern]
  cases entry with
  | leaf => rfl
  | bracket => rfl
  | binop left operator right loc =>
      rw [Node.parts_toPattern_binop]
      by_cases assigns : operator = "="
      · cases left with
        | leaf kind text loc => cases kind <;> simp [assigns, Node.named?, Node.ident?]
        | _ => simp [Node.named?, Node.ident?]
      · cases left with
        | leaf kind text loc => cases kind <;> simp [assigns, Node.named?]
        | _ => simp [assigns, Node.named?]

theorem isAssignment_toPattern (entry : Node) :
    isAssignment (entry.toPattern hooks) = entry.isAssignment := by
  rw [isAssignment, Node.form_toPattern]
  cases entry <;> rfl

/-- A group is read as what it is. -/
theorem ofPattern?_toPattern (group : Node) :
    ofPattern? (group.toPattern hooks) =
      if group.IsGroup then some (ofNode hooks group) else none := by
  have parts : (group.toPattern hooks).parts = group.parts.map (Node.toPattern hooks) := by
    rw [Node.toPattern_eq]
    rfl
  have entries : (group.parts.map (Node.toPattern hooks)).mapM keyword? =
      if ∀ entry ∈ group.parts, entry.named?.isSome then
        some (group.named.map fun field => (field.1, field.2.toPattern hooks)) else none := by
    rw [mapM_eq_filterMap, Node.named, List.map_filterMap, List.filterMap_map]
    simp [keyword?_toPattern]
  have assigns : (group.parts.map (Node.toPattern hooks)).any isAssignment =
      !decide (∀ entry ∈ group.parts, entry.isAssignment = false) := by
    rw [Bool.eq_iff_iff]
    simp [isAssignment_toPattern]
  simp only [ofPattern?, Node.form_toPattern, parts, beq_iff_eq, entries, assigns]
  by_cases square : group.bracket? = some .square
  · by_cases named : ∀ entry ∈ group.parts, entry.named?.isSome
    · have isGroup : group.IsGroup := ⟨square, .inl named⟩
      rw [if_pos square, if_pos named, if_pos isGroup, ofNode, Node.isPositional_eq_false named]
      rfl
    · rw [if_pos square, if_neg named]
      by_cases places : ∀ entry ∈ group.parts, entry.isAssignment = false
      · have isGroup : group.IsGroup := ⟨square, .inr places⟩
        have nonempty : group.parts ≠ [] := fun empty => named (by simp [empty])
        have byPlace := Node.isPositional_iff.mpr ⟨nonempty, places⟩
        rw [if_pos isGroup, ofNode, if_pos byPlace]
        simp only [decide_eq_true places, Bool.not_true, Bool.false_eq_true, if_false]
      · have mixed : ¬group.IsGroup := fun isGroup => isGroup.2.elim named places
        rw [if_neg mixed]
        simp only [decide_eq_false places, Bool.not_false, if_true]
  · have other : ¬group.IsGroup := fun isGroup => square isGroup.1
    rw [if_neg square, if_neg other]

theorem keywordsOf_ofNode (group : Node) :
    keywordsOf (ofNode hooks group) =
      group.named.map fun field => (field.1, field.2.toPattern hooks) := by
  unfold ofNode
  cases places : group.isPositional with
  | false => rfl
  | true => simp [keywordsOf, Node.named_eq_nil places]

theorem positional?_ofNode (group : Node) :
    positional? (ofNode hooks group) =
      if group.isPositional then some (group.parts.map (Node.toPattern hooks)) else none := by
  unfold ofNode
  cases group.isPositional <;> rfl

theorem filterMap_positional?_ofNode (groups : List Node) :
    (groups.map (ofNode hooks)).filterMap positional? =
      (groups.filter Node.isPositional).map fun group =>
        group.parts.map (Node.toPattern hooks) := by
  rw [List.filterMap_map, ← List.filterMap_eq_map, List.filterMap_filter]
  exact congrArg (List.filterMap · groups) (funext (positional?_ofNode hooks))

theorem mapM_ofPattern? (groups : List Node) :
    (groups.map (Node.toPattern hooks)).mapM ofPattern? =
      if ∀ group ∈ groups, group.IsGroup then some (groups.map (ofNode hooks)) else none := by
  have reads : ofPattern? ∘ Node.toPattern hooks =
      fun group => if group.IsGroup then some (ofNode hooks group) else none :=
    funext (ofPattern?_toPattern hooks)
  rw [List.mapM_map, reads, mapM_eq_filterMap]
  have group : ∀ group : Node, (if group.IsGroup then some (ofNode hooks group) else none).isSome ↔
      group.IsGroup := by
    intro group
    by_cases isGroup : group.IsGroup <;> simp [isGroup]
  simp only [group]
  by_cases areGroups : ∀ group ∈ groups, group.IsGroup
  · rw [if_pos areGroups, if_pos areGroups]
    exact congrArg some (List.filterMap_eq_map_iff_forall_eq_some.mpr fun group mem =>
      if_pos (areGroups group mem))
  · rw [if_neg areGroups, if_neg areGroups]

/-- The fields of groups are accepted if those by name are, and those by position, of which there
    is one group at most. -/
theorem accept_map_ofNode (groups : List Node) (env : Bindings) (datum : Datum) :
    accept (groups.map (ofNode hooks)) env datum = true ↔
      (∀ group ∈ groups, ∀ field ∈ group.named,
        ((field.2.toPattern hooks).matcher (datum.part field.1) env).isSome) ∧
      groups.countP Node.isPositional ≤ 1 ∧ ∀ group ∈ groups, group.isPositional →
        group.parts.length ≤ datum.positionalNames.length ∧
        ∀ field ∈ datum.positionalNames.zip group.parts,
          ((field.2.toPattern hooks).matcher (datum.part field.1) env).isSome := by
  simp only [accept, filterMap_positional?_ofNode, Bool.and_eq_true, List.all_flatMap,
    List.all_map, List.countP_eq_length_filter]
  refine and_congr ?_ ?_
  · simp [Function.comp_def, keywordsOf_ofNode]
  · rw [← List.forall_mem_filter]
    rcases groups.filter Node.isPositional with _ | ⟨group, _ | ⟨second, others⟩⟩
    · simp
    · simp [List.zip_map_right]
    · simp

theorem fitsGroups_iff (groups : List Node) (env : Bindings) (datum : Datum) :
    FitsGroups (fun node part => ((node.toPattern hooks).matcher part env).isSome) datum groups ↔
      (∀ group ∈ groups, group.IsGroup) ∧ accept (groups.map (ofNode hooks)) env datum = true := by
  rw [accept_map_ofNode]
  constructor
  · rintro ⟨each, single⟩
    exact ⟨fun group mem => (each group mem).isGroup, fun group mem => (each group mem).named,
      single, fun group mem places =>
        ⟨(each group mem).enough places, (each group mem).placed places⟩⟩
  · rintro ⟨areGroups, named, single, placed⟩
    exact ⟨fun group mem => ⟨areGroups group mem, fun places => (placed group mem places).1,
      fun places => (placed group mem places).2, named group mem⟩, single⟩

end FieldGroup

/-- A type form asks for the type, and of data with parts that they fit the groups. -/
theorem Matcher.typeForm_eq_some_iff (hooks : List Hook) (typeName : Node) (groups : List Node)
    (datum : Datum) (env result : Bindings) :
    Matcher.typeForm ((typeName :: groups).map (Node.toPattern hooks)) datum env = some result ↔
      result = env ∧ ∃ name, typeName.ident? = some name ∧ datum.hasType name = true ∧
        (datum.isCompound = false ∨
          FitsGroups (fun node part => ((node.toPattern hooks).matcher part env).isSome) datum
            groups) := by
  rw [FieldGroup.fitsGroups_iff]
  simp only [Matcher.typeForm, List.map_cons, Node.form_toPattern, FieldGroup.mapM_ofPattern?,
    Option.bind_eq_bind]
  rw [@eq_comm _ result]
  cases typeName.ident? with
  | none => simp
  | some name =>
      simp only [Option.bind_some, Option.some.injEq, exists_eq_left']
      cases datum.hasType name with
      | false => simp
      | true =>
          cases datum.isCompound with
          | false => simp
          | true =>
              by_cases areGroups : ∀ group ∈ groups, group.IsGroup
              · rw [if_pos areGroups, and_iff_right areGroups]
                simp [and_comm]
              · rw [if_neg areGroups]
                simp [areGroups]

/-! ## Matching -/

/-- Without hooks a node suits the same data whatever is bound. -/
theorem Node.isSome_matcher (node : Node) (part : Datum) (env : Bindings) :
    ((node.toPattern []).matcher part env).isSome = PatternMatcher.accepts {} part node :=
  (node.throughout_toPattern.here part).isSome env

/-- Without hooks a type form is decided by what its nodes accept. -/
theorem Node.typeForm_eq_some_iff {head : Node} (isType : head.isIdent "$type" = true)
    (typeName : Node) (groups : List Node) (loc : Option Span) (datum : Datum)
    (env result : Bindings) :
    PatternMatcher.bindings? {} datum (.bracket .curly (head :: typeName :: groups) loc) env =
        some result ↔
      result = env ∧ ∃ name, typeName.ident? = some name ∧ datum.hasType name = true ∧
        (datum.isCompound = false ∨
          FitsGroups (fun node part => PatternMatcher.accepts {} part node) datum groups) := by
  rw [PatternMatcher.bindings?_typeForm {} _ loc isType nofun, Matcher.typeForm_eq_some_iff]
  simp only [Node.isSome_matcher]

/-- A type form matches if and only if the datum has the type and, unless it has no parts, its parts
    fit the groups. Then the bindings are passed on. The groups may stand in any order, and so may
    the entries by name in a group. -/
theorem typeForm_decides {head : Node} (isType : head.isIdent "$type" = true) (typeName : Node)
    (groups : List Node) (loc : Option Span) (datum : Datum) (env : Bindings) :
    (∀ result, PatternMatcher.bindings? {} datum
        (.bracket .curly (head :: typeName :: groups) loc) env = some result ↔
      result = env ∧ ∃ name, typeName.ident? = some name ∧ datum.hasType name = true ∧
        (datum.isCompound = false ∨
          FitsGroups (fun node part => PatternMatcher.accepts {} part node) datum groups)) ∧
    ∀ groups' loc', Regroups groups groups' →
      PatternMatcher.bindings? {} datum (.bracket .curly (head :: typeName :: groups') loc') env =
        PatternMatcher.bindings? {} datum (.bracket .curly (head :: typeName :: groups) loc)
          env := by
  have decides := fun groups loc result =>
    Node.typeForm_eq_some_iff isType typeName groups loc datum env result
  refine ⟨decides groups loc, fun groups' loc' regroups => Option.ext fun result => ?_⟩
  rw [decides, decides, FitsGroups.of_regroups regroups]

/-- A point whose second field goes by name. Its groups are read in both orders. -/
theorem typeForm_decides_point :
    let point : Datum := .object { ctor := some "Point", matchArgs := some ["x", "y"] }
      [("y", .string "b"), ("x", .string "a")]
    let placed : Node := .square [.string "a"]
    let y : Node := .binary (.ident "y") "=" (.string "b")
    let z : Node := .binary (.ident "z") "=" (.ident "null")
    let form groups : Node := .curly (.ident "$type" :: .ident "Point" :: groups)
    PatternMatcher.bindings? {} point (form [placed, .square [y, z]]) [("c", .null)] =
        some [("c", .null)] ∧
      PatternMatcher.bindings? {} point (form [.square [z, y], placed]) [("c", .null)] =
        some [("c", .null)] := by
  intro point placed y z form
  have isType : (Node.ident "$type").isIdent "$type" = true := by decide
  obtain ⟨decides, anyOrder⟩ := typeForm_decides isType (.ident "Point")
    [placed, .square [y, z]] none point [("c", .null)]
  have matching : PatternMatcher.bindings? {} point (form [placed, .square [y, z]])
      [("c", .null)] = some [("c", .null)] :=
    (decides _).mpr ⟨rfl, "Point", rfl, by decide, .inr (by decide +kernel)⟩
  have regroups : Regroups [placed, .square [y, z]] [.square [z, y], placed] :=
    ⟨_, .swap _ _ _, .cons (.named (by decide) (.swap _ _ _) none none) (.cons (.same _) .nil)⟩
  exact ⟨matching, (anyOrder _ none regroups).trans matching⟩

end TreeMacros
