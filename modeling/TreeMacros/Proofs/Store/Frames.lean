import Mathlib.Data.List.Nodup
import TreeMacros.Evaluation

/-! # Frames of variables

A name means what the nearest frame of a scope binds it to. Assigning changes this frame, or the
innermost one where no frame binds the name, and defining always changes the innermost one. No
other name and no other frame changes, whatever scopes share a frame. This holds of every tree of
frames that has grown from nothing.
-/

namespace TreeMacros

namespace Store

variable (store : Store)

/-- The nearest frame of a scope that binds a name. -/
def nearest? (scope : Scope) (name : String) : Option FrameId :=
  scope.frames.find? fun id => store.bindsIn id name

/-- The frame that assigning to a name changes. -/
def assigned (scope : Scope) (name : String) : FrameId :=
  (store.nearest? scope name).getD scope.frame

/-! ## One frame -/

@[simp] theorem size_bind (id : FrameId) (name : String) (value : Value) :
    (store.bind id name value).frames.size = store.frames.size :=
  Array.size_modify

/-- To bind a name in a frame changes this name in this frame only. -/
theorem lookup_frame_bind {id : FrameId} (there : id < store.frames.size) (name : String)
    (value : Value) (other : FrameId) (key : String) :
    ((store.bind id name value).frame other).lookup key =
      if other = id ∧ key = name then some value else (store.frame other).lookup key := by
  simp only [frame, bind, Array.getD_eq_getD_getElem?, Array.getElem?_modify]
  by_cases same : id = other
  · subst same
    simp [there, Fields.lookup_set]
  · simp [same, Ne.symm same]

theorem frame_newFrame (id : FrameId) : store.newFrame.2.frame id = store.frame id := by
  simp only [frame, newFrame, Array.getD_eq_getD_getElem?, Array.getElem?_push]
  split
  · next last => simp [last]
  · rfl

theorem frame_size : store.frame store.frames.size = [] := by
  simp [frame]

/-! ## The nearest frame -/

/-- A frame that binds the name can be found on the chain. -/
theorem nearest?_eq_some {scope : Scope} {name : String} {id : FrameId}
    (nearest : store.nearest? scope name = some id) :
    id ∈ scope.frames ∧ ∃ value, (store.frame id).lookup name = some value := by
  have binds : store.bindsIn id name := by simpa using List.find?_some nearest
  exact ⟨List.mem_of_find?_eq_some nearest, Option.isSome_iff_exists.mp binds⟩

theorem lookup_eq (scope : Scope) (name : String) :
    store.lookup scope name =
      (store.nearest? scope name).bind fun id => (store.frame id).lookup name := by
  unfold lookup nearest?
  induction scope.frames with
  | nil => rfl
  | cons id outer ih =>
      rw [lookupIn, ih, List.find?_cons]
      cases bound : (store.frame id).lookup name <;> simp [bindsIn, bound]

theorem assign_eq (scope : Scope) (name : String) (value : Value) :
    store.assign scope name value = store.bind (store.assigned scope name) name value := by
  have changed : ∀ ids : List FrameId, store.assignIn? name value ids =
      (ids.find? fun id => store.bindsIn id name).map fun id => store.bind id name value := by
    intro ids
    induction ids with
    | nil => rfl
    | cons id outer ih =>
        rw [assignIn?, ih, List.find?_cons]
        cases store.bindsIn id name <;> rfl
  rw [assign, changed, assigned, nearest?]
  cases scope.frames.find? fun id => store.bindsIn id name <;> rfl

theorem assigned_mem (scope : Scope) (name : String) :
    store.assigned scope name ∈ scope.frames := by
  unfold assigned
  cases nearest : store.nearest? scope name with
  | none => exact List.mem_cons_self
  | some id => exact (store.nearest?_eq_some nearest).1

/-- The frame that was assigned to is the nearest one from now on. -/
theorem nearest?_assign {scope : Scope} {name : String}
    (there : store.assigned scope name < store.frames.size) (value : Value) :
    (store.assign scope name value).nearest? scope name = some (store.assigned scope name) := by
  have binds : ∀ id, (store.assign scope name value).bindsIn id name =
      (id == store.assigned scope name || store.bindsIn id name) := by
    intro id
    rw [bindsIn, assign_eq, lookup_frame_bind store there, bindsIn]
    by_cases same : id = store.assigned scope name <;> simp [same]
  rw [nearest?, List.find?_eq_some_iff_append]
  refine ⟨by simp [binds], ?_⟩
  cases nearest : store.nearest? scope name with
  | none =>
      have assigned : store.assigned scope name = scope.frame := by simp [assigned, nearest]
      exact ⟨[], scope.outer, by simp [assigned, Scope.frames], nofun⟩
  | some id =>
      have assigned : store.assigned scope name = id := by simp [assigned, nearest]
      obtain ⟨bound, before, after, frames, unbound⟩ := List.find?_eq_some_iff_append.mp nearest
      refine ⟨before, after, by rw [assigned, frames], fun other mem => ?_⟩
      have free := unbound other mem
      rw [binds, assigned]
      have apart : other ≠ id := by
        rintro rfl
        simp [bound] at free
      simpa [apart] using free

/-- A name is bound in a scope if and only if it can be looked up there. -/
theorem binds_iff (scope : Scope) (name : String) :
    store.binds scope name ↔ ∃ value, store.lookup scope name = some value := by
  rw [lookup_eq]
  constructor
  · intro binds
    obtain ⟨id, nearest⟩ := Option.isSome_iff_exists.mp
      (List.find?_isSome.mpr (List.any_eq_true.mp binds))
    rw [nearest?, nearest]
    exact (store.nearest?_eq_some nearest).2
  · rintro ⟨value, bound⟩
    obtain ⟨id, nearest, -⟩ := Option.bind_eq_some_iff.mp bound
    exact List.any_eq_true.mpr (List.find?_isSome.mp (Option.isSome_of_eq_some nearest))

end Store

/-- A name can be read if and only if it can be looked up. -/
theorem Eval.lookup_ok_iff (scope : Scope) (name : String) (span : Option Span) (store : Store) :
    (∃ value, Eval.lookup scope name span store = .ok value store) ↔
      ∃ value, store.lookup scope name = some value := by
  have read : (get : Eval Store) store = .ok store store := rfl
  simp only [Eval.lookup, bind, EStateM.bind, read]
  cases store.lookup scope name with
  | none =>
      constructor
      · rintro ⟨_, ended⟩
        cases ended
      · rintro ⟨_, bound⟩
        cases bound
  | some value => simp [pure, EStateM.pure]

/-! ## Trees of frames -/

/-- The stores in which frames grow from nothing, with the scopes of the frames made so far. -/
inductive FrameTree : Store → List Scope → Prop where
  | nothing : FrameTree {} []
  | root {store : Store} {scopes : List Scope} (tree : FrameTree store scopes) :
      FrameTree store.newFrame.2 (scopes ++ [⟨store.newFrame.1, []⟩])
  | child {store : Store} {scopes : List Scope} {parent : Scope} (tree : FrameTree store scopes)
      (mem : parent ∈ scopes) :
      FrameTree store.newFrame.2 (scopes ++ [parent.within store.newFrame.1])
  | define {store : Store} {scopes : List Scope} {scope : Scope} (tree : FrameTree store scopes)
      (mem : scope ∈ scopes) (name : String) (value : Value) :
      FrameTree (store.define scope name value) scopes
  | assign {store : Store} {scopes : List Scope} {scope : Scope} (tree : FrameTree store scopes)
      (mem : scope ∈ scopes) (name : String) (value : Value) :
      FrameTree (store.assign scope name value) scopes

namespace FrameTree

variable {store : Store} {scopes : List Scope}

/-- The frames are those of the scopes, in the order in which they were made. -/
theorem frames_eq (tree : FrameTree store scopes) :
    scopes.map (·.frame) = List.range store.frames.size := by
  induction tree with
  | nothing => rfl
  | root tree ih | child tree mem ih =>
      simp [Store.newFrame, Scope.within, List.range_succ, ih]
  | define tree mem name value ih => simpa [Store.define] using ih
  | assign tree mem name value ih => simpa [Store.assign_eq] using ih

/-- Around a frame stands nothing, or its parent and what stands around this. -/
theorem outer_eq (tree : FrameTree store scopes) {scope : Scope} (mem : scope ∈ scopes) :
    scope.outer = [] ∨ ∃ parent ∈ scopes, scope.outer = parent.frames := by
  induction tree generalizing scope with
  | nothing => cases mem
  | root tree ih =>
      rcases List.mem_append.mp mem with mem | new
      · exact (ih mem).imp_right fun ⟨parent, mem, outer⟩ =>
          ⟨parent, List.mem_append_left _ mem, outer⟩
      · obtain rfl := List.mem_singleton.mp new
        exact .inl rfl
  | child tree parentMem ih =>
      rcases List.mem_append.mp mem with mem | new
      · exact (ih mem).imp_right fun ⟨parent, mem, outer⟩ =>
          ⟨parent, List.mem_append_left _ mem, outer⟩
      · obtain rfl := List.mem_singleton.mp new
        exact .inr ⟨_, List.mem_append_left _ parentMem, rfl⟩
  | define tree _ name value ih | assign tree _ name value ih => exact ih mem

/-- All frames of a scope are there. -/
theorem lt_size (tree : FrameTree store scopes) {scope : Scope} (mem : scope ∈ scopes)
    {id : FrameId} (inScope : id ∈ scope.frames) : id < store.frames.size := by
  induction tree generalizing scope with
  | nothing => cases mem
  | root tree ih =>
      rw [Store.newFrame, Array.size_push]
      rcases List.mem_append.mp mem with mem | new
      · exact Nat.lt_succ_of_lt (ih mem inScope)
      · obtain rfl := List.mem_singleton.mp new
        obtain rfl := List.mem_singleton.mp inScope
        exact Nat.lt_succ_self _
  | child tree parentMem ih =>
      rw [Store.newFrame, Array.size_push]
      rcases List.mem_append.mp mem with mem | new
      · exact Nat.lt_succ_of_lt (ih mem inScope)
      · obtain rfl := List.mem_singleton.mp new
        rcases List.mem_cons.mp inScope with rfl | inParent
        · exact Nat.lt_succ_self _
        · exact Nat.lt_succ_of_lt (ih parentMem inParent)
  | define tree _ name value ih => simpa [Store.define] using ih mem inScope
  | assign tree _ name value ih => simpa [Store.assign_eq] using ih mem inScope

/-- Each frame is the innermost one of one scope. -/
theorem existsUnique_scope (tree : FrameTree store scopes) {id : FrameId}
    (there : id < store.frames.size) : ∃! scope, scope ∈ scopes ∧ scope.frame = id := by
  have mem : id ∈ scopes.map (·.frame) := by
    rw [tree.frames_eq]
    exact List.mem_range.mpr there
  have distinct : (scopes.map (·.frame)).Nodup := by
    rw [tree.frames_eq]
    exact List.nodup_range
  obtain ⟨scope, inScopes, rfl⟩ := List.mem_map.mp mem
  exact ⟨scope, ⟨inScopes, rfl⟩, fun other ⟨inScopes', same⟩ =>
    List.inj_on_of_nodup_map distinct inScopes' inScopes same⟩

end FrameTree

/-- Assigning to a name changes it in the nearest frame that binds it, or else in the innermost one;
    defining it changes it in the innermost frame. No other name and no other frame changes. A name
    is bound in a scope if it can be looked up there, and means what the nearest frame says. -/
theorem assign_changes_nearest {store : Store} {scopes : List Scope}
    (tree : FrameTree store scopes) {scope : Scope} (mem : scope ∈ scopes) (name : String)
    (value : Value) :
    let changed := (store.nearest? scope name).getD scope.frame
    (∃! owner, owner ∈ scopes ∧ owner.frame = changed) ∧
    (scope.outer = [] ∨ ∃ parent ∈ scopes, scope.outer = parent.frames) ∧
    (∀ id key, ((store.assign scope name value).frame id).lookup key =
      if id = changed ∧ key = name then some value else (store.frame id).lookup key) ∧
    (store.assign scope name value).lookup scope name = some value ∧
    (∀ id key, ((store.define scope name value).frame id).lookup key =
      if id = scope.frame ∧ key = name then some value else (store.frame id).lookup key) ∧
    (∀ span, store.binds scope name ↔
      ∃ value, Eval.lookup scope name span store = .ok value store) ∧
    store.lookup scope name =
      (store.nearest? scope name).bind fun id => (store.frame id).lookup name := by
  have there := tree.lt_size mem (store.assigned_mem scope name)
  have innermost := tree.lt_size mem List.mem_cons_self
  have changes : ∀ id key, ((store.assign scope name value).frame id).lookup key =
      if id = store.assigned scope name ∧ key = name then some value
      else (store.frame id).lookup key := by
    intro id key
    rw [store.assign_eq, store.lookup_frame_bind there]
  have found : (store.assign scope name value).lookup scope name = some value := by
    rw [Store.lookup_eq, store.nearest?_assign there, Option.bind_some, changes]
    simp
  exact ⟨tree.existsUnique_scope there, tree.outer_eq mem, changes, found,
    store.lookup_frame_bind innermost name value, fun span => by
      rw [store.binds_iff, Eval.lookup_ok_iff], store.lookup_eq scope name⟩

/-- A variable of a root that two frames share is changed from one of them. -/
theorem assign_changes_nearest_shared :
    let store := (((({} : Store).newFrame.2.newFrame.2).newFrame.2).define ⟨0, []⟩ "x" .null)
    let after := store.assign ⟨1, [0]⟩ "x" (.bool true)
    FrameTree store [⟨0, []⟩, ⟨1, [0]⟩, ⟨2, [0]⟩] ∧
    (after.frame 0).lookup "x" = some (.bool true) ∧ (after.frame 1).lookup "x" = none ∧
    (after.frame 2).lookup "x" = none := by
  intro store after
  have tree : FrameTree store [⟨0, []⟩, ⟨1, [0]⟩, ⟨2, [0]⟩] :=
    ((FrameTree.nothing.root.child List.mem_cons_self).child List.mem_cons_self).define
      List.mem_cons_self "x" .null
  obtain ⟨-, -, changes, -⟩ := assign_changes_nearest tree
    (List.mem_cons_of_mem _ List.mem_cons_self) "x" (.bool true)
  exact ⟨tree, changes 0 "x", changes 1 "x", changes 2 "x"⟩

end TreeMacros
