import Mathlib.Data.Finset.Card
import TreeMacros.Value.Text

/-! # How deep a text is looked for

A list has a text at some depth, or has none at any. One level more than there are lists is deep
enough: as long as going deeper still finds texts, each level finds the text of one more list.
-/

namespace TreeMacros

/-- A traversal that succeeds goes on to succeed where more does. -/
theorem mapM_mono {α β : Type} {f g : α → Option β} (mono : ∀ a b, f a = some b → g a = some b) :
    ∀ {as : List α} {bs : List β}, as.mapM f = some bs → as.mapM g = some bs
  | [], _, found => found
  | a :: as, bs, found => by
      simp only [List.mapM_cons, Option.bind_eq_bind, Option.bind_eq_some_iff, Option.pure_def,
        Option.some.injEq] at found ⊢
      obtain ⟨b, here, rest, there, rfl⟩ := found
      exact ⟨b, mono a b here, rest, mapM_mono mono there, rfl⟩

namespace Value

variable (store : Store)

/-- Only a list can lack a text. -/
theorem eq_list_of_textless {depth : Nat} {value : Value}
    (textless : value.textWithin? store depth = none) : ∃ id, value = list id := by
  cases value with
  | list id => exact ⟨id, rfl⟩
  | _ => cases depth <;> cases textless

/-- What is found is found deeper down too. -/
theorem textWithin?_succ {depth : Nat} {value : Value} {text : String}
    (found : value.textWithin? store depth = some text) :
    value.textWithin? store (depth + 1) = some text := by
  induction depth generalizing value text with
  | zero =>
      cases value with
      | list id => cases found
      | _ => exact found
  | succ depth ih =>
      cases value with
      | list id =>
          simp only [textWithin?, Option.bind_eq_bind, Option.bind_eq_some_iff] at found ⊢
          obtain ⟨texts, items, joined⟩ := found
          refine ⟨texts, mapM_mono (fun item text found => ?_) items, joined⟩
          split at found
          · exact found
          · exact ih found
      | _ => exact found

/-- Going one level deeper finds nothing more. -/
def Settled (depth : Nat) : Prop :=
  ∀ value : Value, value.textWithin? store depth = value.textWithin? store (depth + 1)

theorem Settled.succ {depth : Nat} (settled : Settled store depth) :
    Settled store (depth + 1) := by
  intro value
  cases value with
  | list id => simp only [textWithin?, settled _]
  | _ => rfl

/-- The lists without a text down to a depth. -/
def textless (depth : Nat) : Finset ListId :=
  (Finset.range store.lists.size).filter fun id => (list id).textWithin? store depth = none

/-- What is not in the store is empty, and has a text. -/
theorem mem_textless {depth : Nat} {id : ListId} :
    id ∈ textless store (depth + 1) ↔ (list id).textWithin? store (depth + 1) = none := by
  refine ⟨fun mem => (Finset.mem_filter.mp mem).2, fun none => ?_⟩
  -- at depth 0 this fails: there no list has a text, not even an empty one
  refine Finset.mem_filter.mpr ⟨Finset.mem_range.mpr (Nat.lt_of_not_le fun missing => ?_), none⟩
  have empty : store.items id = #[] := by simp [Store.items, missing]
  simp [textWithin?, empty] at none

theorem textless_succ_subset (depth : Nat) :
    textless store (depth + 1) ⊆ textless store depth := by
  intro id mem
  obtain ⟨there, none⟩ := Finset.mem_filter.mp mem
  refine Finset.mem_filter.mpr ⟨there, ?_⟩
  cases found : (list id).textWithin? store depth with
  | none => rfl
  | some text => simp [textWithin?_succ store found] at none

theorem settled_of_textless_eq {depth : Nat}
    (same : textless store (depth + 1) = textless store (depth + 2)) :
    Settled store (depth + 1) := by
  intro value
  cases found : value.textWithin? store (depth + 1) with
  | some text => exact (textWithin?_succ store found).symm
  | none =>
      obtain ⟨id, rfl⟩ := eq_list_of_textless store found
      exact ((mem_textless store).mp (same ▸ (mem_textless store).mpr found)).symm

/-- Before texts settle, each level leaves fewer lists without one. -/
theorem settled_or_card_textless (depth : Nat) :
    Settled store (depth + 1) ∨ (textless store (depth + 1)).card + depth ≤ store.lists.size := by
  induction depth with
  | zero =>
      right
      exact (Finset.card_filter_le _ _).trans_eq (Finset.card_range _)
  | succ depth ih =>
      rcases ih with settled | few
      · exact .inl settled.succ
      by_cases same : textless store (depth + 1) = textless store (depth + 2)
      · exact .inl (settled_of_textless_eq store same).succ
      · have fewer := Finset.card_lt_card
          ((textless_succ_subset store (depth + 1)).ssubset_of_ne (Ne.symm same))
        right
        omega

theorem settled_size : Settled store (store.lists.size + 1) := by
  rcases settled_or_card_textless store store.lists.size with settled | few
  · exact settled
  · have nothing : textless store (store.lists.size + 1) = ∅ := Finset.card_eq_zero.mp (by omega)
    refine settled_of_textless_eq store (nothing.trans ?_)
    exact (Finset.subset_empty.mp (nothing ▸ textless_succ_subset store _)).symm

/-- Below the depth that `text?` looks at there is nothing to find. -/
theorem textWithin?_eq_text? {depth : Nat} (deep : store.lists.size < depth) (value : Value) :
    value.textWithin? store depth = value.text? store := by
  have both : Settled store depth ∧ value.textWithin? store depth = value.text? store := by
    induction depth, deep using Nat.le_induction with
    | base => exact ⟨settled_size store, rfl⟩
    | succ depth deep ih => exact ⟨ih.1.succ, (ih.1 value).symm.trans ih.2⟩
  exact both.2

end Value

end TreeMacros
