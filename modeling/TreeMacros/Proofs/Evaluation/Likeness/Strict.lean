import TreeMacros.Proofs.Evaluation.Likeness.Level

/-! # Runs that are like themselves

Where places and faults count as the same only if they are equal, nodes are alike only if they are
equal, and host code always is like itself. Definitions are like themselves if they hold no loops,
or if loops may be there.
-/

namespace TreeMacros.Likeness

/-- Nothing differs but what comes after an excuse. -/
def strict (services : Services) (loops : Prop) (excuses : Failure → Prop)
    (located : ∀ {failure} loc, excuses failure → excuses (failure.locate loc)) : Likeness where
  place := Eq
  fault := Eq
  loops := loops
  excuses := excuses
  services := services
  services' := services
  place_refl _ := rfl
  fault_of _ _ _ same := by rw [same]
  fault_locate same places := by rw [same, places]
  excuses_locate := located
  regular like := by
    rw [Node.Like.eqAll like]
    exact Node.Like.reflAll (fun _ => rfl) _ (absurd trivial)
  parse source := .refl (fun _ => rfl)
    (fun nodes => Node.Like.reflAll (fun _ => rfl) nodes (absurd trivial)) _
  group like := by
    rw [Node.Like.eqAll like]
    exact .refl (fun _ => rfl)
      (fun nodes => Node.Like.reflAll (fun _ => rfl) nodes (absurd trivial)) _

namespace strict

variable {services : Services} {loops : Prop} {excuses : Failure → Prop}
  {located : ∀ {failure} loc, excuses failure → excuses (failure.locate loc)}

theorem allData (nodes : List Node) : (strict services loops excuses located).AllData nodes nodes :=
  Node.Like.reflAll (fun _ => rfl) nodes (absurd trivial)

theorem expansions (expansion : Expansion) :
    (strict services loops excuses located).Expansions expansion expansion := by
  cases expansion with
  | node n => exact .node (Node.Like.refl (fun _ => rfl) n (absurd trivial))
  | nodes ns => exact .nodes (allData ns)

theorem definitions {definition : Definition}
    (free : ¬loops → Node.lacksAll "while" definition.body = true) :
    (strict services loops excuses located).Definitions definition definition :=
  ⟨rfl, Node.Like.reflAll (fun _ => rfl) definition.body free⟩

theorem entries {entry : Entry} (free : ¬loops → ∀ definition, entry = .defined definition →
      Node.lacksAll "while" definition.body = true) :
    (strict services loops excuses located).Entries entry entry := by
  cases entry with
  | native run =>
      refine .native fun like => ?_
      rw [Node.Like.eqAll like]
      exact .refl (fun _ => rfl) expansions _
  | defined definition => exact .defined (definitions fun no => free no definition rfl)

theorem registries {registry : Registry} (free : ¬loops → ∀ record ∈ registry.records,
      Node.lacksAll "while" record.definition.body = true) :
    (strict services loops excuses located).Registries registry registry := by
  intro name
  cases found : registry.get? name with
  | none => exact .none
  | some entry =>
      refine .some (entries fun no definition same => ?_)
      subst same
      obtain ⟨before, after, there, -⟩ := List.lookup_eq_some_iff.mp found
      refine free no ⟨name, definition⟩
        (List.mem_filterMap.mpr ⟨(name, .defined definition), ?_, rfl⟩)
      simp [there]

end strict

end TreeMacros.Likeness
