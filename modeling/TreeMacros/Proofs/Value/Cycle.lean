import Mathlib.Data.Set.Finite.Basic
import Mathlib.Logic.Relation
import Mathlib.Order.WellFounded
import TreeMacros.Proofs.Value.Text

/-! # Lists inside themselves

A list lacks a text at some depth if and only if one of its items lacks one at the depth below. So
a list from which one comes to a list inside itself has no text at any depth. The other way round,
as there are only so many lists, going on from a list without a text to an item without one must
come back to where it was.
-/

namespace TreeMacros

open Relation

/-- One of the items of the first list is the second list. -/
def Store.Contains (store : Store) (id inner : ListId) : Prop :=
  Value.list inner ∈ store.items id

/-- Going on from list to item, one comes from the value to a list that is inside itself. -/
def Value.HoldsCycle (store : Store) (value : Value) : Prop :=
  ∃ id, value = .list id ∧
    ∃ inner, ReflTransGen store.Contains id inner ∧ TransGen store.Contains inner inner

/-- A traversal fails at one of the items. -/
theorem mapM_eq_none_iff {α β : Type} {f : α → Option β} {as : List α} :
    as.mapM f = none ↔ ∃ a ∈ as, f a = none := by
  induction as with
  | nil => simp
  | cons a rest ih =>
      cases here : f a with
      | none => simp [List.mapM_cons, here]
      | some b => cases there : rest.mapM f <;> simp [List.mapM_cons, here, there, ← ih]

namespace Value

variable {store : Store}

/-- A list has no text because one of its items has none. -/
theorem textWithin?_list_eq_none {id : ListId} {depth : Nat} :
    (list id).textWithin? store (depth + 1) = none ↔
      ∃ inner, store.Contains id inner ∧ (list inner).textWithin? store depth = none := by
  rw [textWithin?]
  simp only [Option.bind_eq_bind, Option.bind_eq_none_iff, reduceCtorEq, imp_false,
    ← Option.eq_none_iff_forall_ne_some, Option.pure_def]
  rw [mapM_eq_none_iff]
  constructor
  · rintro ⟨item, mem, textless⟩
    split at textless
    · cases textless
    · obtain ⟨inner, rfl⟩ := eq_list_of_textless store textless
      exact ⟨inner, Array.mem_toList_iff.mp mem, textless⟩
  · rintro ⟨inner, contains, textless⟩
    exact ⟨list inner, Array.mem_toList_iff.mpr contains, textless⟩

/-- Only lists hold anything. -/
theorem not_holdsCycle {value : Value} (other : value.list? = none) : ¬value.HoldsCycle store := by
  rintro ⟨id, rfl, -⟩
  cases other

/-- The first step towards the cycle, or the first one around it. -/
theorem HoldsCycle.step {value : Value} (holds : value.HoldsCycle store) :
    ∃ id next, value = list id ∧ store.Contains id next ∧ (list next).HoldsCycle store := by
  obtain ⟨id, rfl, inner, reaches, cycle⟩ := holds
  obtain ⟨next, contains, onwards⟩ := TransGen.head'_iff.mp (TransGen.trans_right reaches cycle)
  exact ⟨id, next, rfl, contains, next, rfl, inner, onwards, cycle⟩

/-- No depth is deep enough for a list that is inside itself. -/
theorem HoldsCycle.textless {value : Value} (holds : value.HoldsCycle store) (depth : Nat) :
    value.textWithin? store depth = none := by
  induction depth generalizing value with
  | zero =>
      obtain ⟨id, -, rfl, -⟩ := holds.step
      rfl
  | succ depth ih =>
      obtain ⟨id, next, rfl, contains, onwards⟩ := holds.step
      exact textWithin?_list_eq_none.mpr ⟨next, contains, ih onwards⟩

/-- Among finitely many things that all lead to one of them, some lead back to themselves. -/
theorem exists_transGen_self {α : Type} [Finite α] {r : α → α → Prop}
    (leads : ∀ a, ∃ b, r a b) (a : α) : ∃ b, TransGen r b b := by
  by_contra none
  have irrefl : Std.Irrefl (flip (TransGen r)) := ⟨fun b back => none ⟨b, back⟩⟩
  have trans : IsTrans α (flip (TransGen r)) := ⟨fun _ _ _ first second => second.trans first⟩
  have bounded : WellFounded (flip (TransGen r)) := Finite.wellFounded_of_trans_of_irrefl _
  obtain ⟨last, -, ends⟩ := bounded.has_min Set.univ ⟨a, trivial⟩
  obtain ⟨next, step⟩ := leads last
  exact ends next trivial (.single step)

theorem holdsCycle_of_textless {value : Value} (textless : value.text? store = none) :
    value.HoldsCycle store := by
  obtain ⟨id, rfl⟩ := eq_list_of_textless store textless
  let lost : Set ListId :=
    {inner | ReflTransGen store.Contains id inner ∧ (list inner).text? store = none}
  have finite : Finite lost := by
    refine Set.Finite.to_subtype ((Finset.finite_toSet
      (Value.textless store (store.lists.size + 1))).subset fun inner member => ?_)
    exact (mem_textless store).mpr member.2
  have leads : ∀ inner : lost, ∃ next : lost, store.Contains inner next := by
    rintro ⟨inner, reaches, none⟩
    have deeper : (list inner).textWithin? store (store.lists.size + 2) = .none :=
      (textWithin?_eq_text? store (by omega) _).trans none
    obtain ⟨next, contains, still⟩ := textWithin?_list_eq_none.mp deeper
    exact ⟨⟨next, reaches.tail contains, still⟩, contains⟩
  obtain ⟨⟨inner, reaches, _⟩, back⟩ := exists_transGen_self leads ⟨id, .refl, textless⟩
  exact ⟨id, rfl, inner, reaches, back.lift Subtype.val fun _ _ contains => contains⟩

/-- What lacks a text is what holds a list that is inside itself. -/
theorem text?_eq_none_iff {value : Value} : value.text? store = none ↔ value.HoldsCycle store :=
  ⟨holdsCycle_of_textless, fun holds => holds.textless _⟩

theorem text?_eq_some_iff {value : Value} :
    (∃ text, value.text? store = some text) ↔ ¬value.HoldsCycle store := by
  rw [← text?_eq_none_iff, ← Option.ne_none_iff_exists']

end Value

end TreeMacros
