import Mathlib.Data.List.Nodup
import TreeMacros.Proofs.Registry.Records
import TreeMacros.Registry.Indexed

/-! # What a registry keeps of its history

A registry is made by registering names, one by one or from records, in any order and as often as
one likes. It keeps each name once, in the order of first registrations, with what the name was
registered for last. The row of slots and the index of its stored form stay in step all the time.
-/

namespace TreeMacros

/-! ## Places of names -/

namespace Fields

variable {α : Type}

theorem findIdx?_eq_names (fields : Fields α) (name : String) :
    fields.findIdx? (·.1 == name) = fields.names.findIdx? (· == name) := by
  simp [names, List.findIdx?_map, Function.comp_def]

theorem findIdx?_names_eq_none {fields : Fields α} {name : String} :
    fields.names.findIdx? (· == name) = none ↔ name ∉ fields.names := by
  rw [List.findIdx?_eq_none_iff]
  constructor
  · intro others mem
    simpa using others name mem
  · rintro fresh other mem
    exact beq_false_of_ne fun same => fresh (same ▸ mem)

/-- Among names that are apart, the place of a name is where it stands. -/
theorem findIdx?_names_eq_some {fields : Fields α} (distinct : fields.names.Nodup) {name : String}
    {slot : Nat} :
    fields.names.findIdx? (· == name) = some slot ↔ fields.names[slot]? = some name := by
  rw [List.findIdx?_eq_some_iff_getElem]
  constructor
  · rintro ⟨bound, here, -⟩
    rw [List.getElem?_eq_getElem bound, eq_of_beq here]
  · intro here
    obtain ⟨bound, named⟩ := List.getElem?_eq_some_iff.mp here
    refine ⟨bound, by simp [named], fun earlier before same => ?_⟩
    have twice : fields.names[earlier] = fields.names[slot] := (eq_of_beq same).trans named.symm
    exact Nat.ne_of_lt before ((distinct.getElem_inj_iff).mp twice)

/-- A name is set where it stands. -/
theorem set_eq_modify {fields : Fields α} {name : String} {slot : Nat} (value : α)
    (found : fields.findIdx? (·.1 == name) = some slot) :
    set name value fields = fields.modify slot fun (key, _) => (key, value) := by
  induction fields generalizing slot with
  | nil => cases found
  | cons head rest ih =>
      obtain ⟨key, old⟩ := head
      rw [List.findIdx?_cons] at found
      cases here : key == name with
      | true =>
          simp only [here, if_true, Option.some.injEq] at found
          subst found
          simp [set, eq_of_beq here]
      | false =>
          simp only [here, Bool.false_eq_true, if_false, Option.map_eq_some_iff] at found
          obtain ⟨slot, later, rfl⟩ := found
          simp [set, here, ih later]

theorem lookup_eq_findIdx? (fields : Fields α) (name : String) :
    fields.lookup name =
      (fields.findIdx? (·.1 == name)).bind fun slot => fields[slot]?.map (·.2) := by
  induction fields with
  | nil => rfl
  | cons head rest ih =>
      obtain ⟨key, value⟩ := head
      rw [List.lookup_cons, List.findIdx?_cons, ih]
      cases here : name == key with
      | true => simp [eq_of_beq here]
      | false =>
          have other : (key == name) = false := by rw [BEq.comm, here]
          simp only [other, Bool.false_eq_true, if_false, Option.bind_map]
          rfl

end Fields

namespace Registry

theorem entries_register (registry : Registry) (name : String) (entry : Entry) :
    (registry.register name entry).1.entries = registry.entries.set name entry := rfl

theorem position?_register (registry : Registry) (name : String) (entry : Entry) (key : String) :
    (registry.register name entry).1.position? key =
      if name ∈ registry.entries.names then registry.position? key
      else if name = key then some registry.size else registry.position? key := by
  simp only [position?, entries_register, Fields.findIdx?_eq_names, Fields.names_set]
  split
  · rfl
  · next fresh =>
      rw [List.findIdx?_append]
      split
      · next same =>
          rw [← same, Fields.findIdx?_names_eq_none.mpr fresh]
          simp [size, Fields.names]
      · next other =>
          simp [other]

theorem contains_eq_mem (registry : Registry) (name : String) :
    registry.contains name = decide (name ∈ registry.entries.names) := by
  rw [contains, get?, Fields.lookup_eq_findIdx?]
  cases found : registry.entries.findIdx? (·.1 == name) with
  | none =>
      rw [Fields.findIdx?_eq_names, Fields.findIdx?_names_eq_none] at found
      simp [found]
  | some slot =>
      obtain ⟨bound, here, -⟩ := List.findIdx?_eq_some_iff_getElem.mp found
      have mem : name ∈ registry.entries.names :=
        List.mem_map.mpr ⟨_, List.getElem_mem bound, eq_of_beq here⟩
      simp [List.getElem?_eq_getElem bound, mem]

end Registry

/-! ## Slots and index in step -/

/-- A registry and its stored form hold the same entries, and the index tells their places. -/
structure Registry.IsStoredAs (registry : Registry) (stored : IndexedRegistry) : Prop where
  entries : stored.slots.toList = registry.entries
  places : ∀ name, stored.index[name]? = registry.position? name

/-- The records with the given names. -/
def chosenRecords (only : Option (List String)) (records : List Record) : List Record :=
  records.filter fun record => only.all (·.contains record.name)

theorem Registry.importRecords_eq (registry : Registry) (records : List Record)
    (only : Option (List String)) :
    registry.importRecords records only =
      ((chosenRecords only records).foldl withRecord registry,
        (chosenRecords only records).length) := rfl

theorem IndexedRegistry.importRecords_eq (registry : IndexedRegistry) (records : List Record)
    (only : Option (List String)) :
    registry.importRecords records only =
      ((chosenRecords only records).foldl withRecord registry,
        (chosenRecords only records).length) := by
  have counting : ∀ imported, records.foldl (importNext only) (registry, imported) =
      ((chosenRecords only records).foldl withRecord registry,
        imported + (chosenRecords only records).length) := by
    induction records generalizing registry with
    | nil => exact fun _ => rfl
    | cons record rest ih =>
        intro imported
        rw [List.foldl_cons, importNext, chosenRecords, List.filter_cons]
        split
        · rw [ih, List.foldl_cons, List.length_cons, Nat.add_right_comm, Nat.add_assoc]
          rfl
        · exact ih registry imported
  rw [importRecords, counting 0, Nat.zero_add]

namespace Registry.IsStoredAs

variable {registry : Registry} {stored : IndexedRegistry} (inStep : registry.IsStoredAs stored)
include inStep

theorem slots (slot : Nat) : stored.slots[slot]? = registry.entries[slot]? := by
  rw [← inStep.entries, Array.getElem?_toList]

theorem get? (name : String) : stored.get? name = registry.get? name := by
  simp only [IndexedRegistry.get?, inStep.places, inStep.slots, Registry.get?, Registry.position?,
    Fields.lookup_eq_findIdx?]

theorem size : stored.size = registry.size := by
  rw [IndexedRegistry.size, Registry.size, ← inStep.entries, Array.length_toList]

theorem records : stored.records = registry.records := by
  rw [IndexedRegistry.records, inStep.entries, Registry.records]

/-- The index names the slots, and nothing else. -/
theorem index_eq_some {name : String} {slot : Nat} :
    stored.index[name]? = some slot ↔ ∃ entry, stored.slots[slot]? = some (name, entry) := by
  rw [inStep.places, Registry.position?, Fields.findIdx?_eq_names,
    Fields.findIdx?_names_eq_some registry.distinct, inStep.slots]
  simp [Fields.names]

theorem contains (name : String) : stored.contains name = registry.contains name := by
  rw [IndexedRegistry.contains, Std.HashMap.contains_eq_isSome_getElem?, inStep.places,
    Registry.position?, Fields.findIdx?_eq_names, Registry.contains_eq_mem]
  by_cases mem : name ∈ registry.entries.names
  · have there := Option.isSome_iff_ne_none.mpr fun absent =>
      Fields.findIdx?_names_eq_none.mp absent mem
    simp [there, mem]
  · simp [Fields.findIdx?_names_eq_none.mpr mem, mem]

/-- What a name is registered for stands in the slots, once. -/
theorem get?_eq_some {name : String} {entry : Entry} :
    stored.get? name = some entry ↔ (name, entry) ∈ stored.slots.toList := by
  rw [IndexedRegistry.get?, Option.bind_eq_some_iff, List.mem_iff_getElem?]
  simp only [inStep.index_eq_some, Option.map_eq_some_iff, Array.getElem?_toList]
  constructor
  · rintro ⟨slot, ⟨_, here⟩, field, there, rfl⟩
    obtain rfl := Option.some.inj (here.symm.trans there)
    exact ⟨slot, here⟩
  · rintro ⟨slot, here⟩
    exact ⟨slot, ⟨_, here⟩, _, here, rfl⟩

/-- To register a name keeps slots and index in step, and replaces the same entry. -/
theorem register (name : String) (entry : Entry) :
    (registry.register name entry).1.IsStoredAs (stored.register name entry).1 ∧
      (stored.register name entry).2 = registry.get? name := by
  have replaced := inStep.get? name
  simp only [IndexedRegistry.get?] at replaced
  have found := inStep.places name
  rw [Registry.position?, Fields.findIdx?_eq_names] at found
  by_cases mem : name ∈ registry.entries.names
  · obtain ⟨slot, here⟩ := Option.ne_none_iff_exists'.mp fun absent =>
      Fields.findIdx?_names_eq_none.mp absent mem
    have there := here
    rw [← Fields.findIdx?_eq_names] at there
    simp only [found, here, Option.bind_some] at replaced
    simp only [IndexedRegistry.register, found, here]
    refine ⟨⟨?_, fun key => ?_⟩, replaced⟩
    · rw [Array.toList_modify, inStep.entries, entries_register, Fields.set_eq_modify entry there]
    · rw [inStep.places, position?_register, if_pos mem]
  · have absent := Fields.findIdx?_names_eq_none.mpr mem
    have sized : stored.slots.size = registry.size := inStep.size
    simp only [found, absent, Option.bind_none] at replaced
    simp only [IndexedRegistry.register, found, absent]
    refine ⟨⟨?_, fun key => ?_⟩, replaced⟩
    · rw [Array.toList_push, inStep.entries, entries_register, Fields.set_fresh entry mem]
    · rw [Std.HashMap.getElem?_insert, inStep.places, position?_register, if_neg mem, sized]
      simp

/-- One slot gets what is registered: that of the name, or else a new one. -/
theorem slots_register (name : String) (entry : Entry) (slot : Nat) :
    (stored.register name entry).1.slots[slot]? =
      if slot = (stored.index[name]?).getD stored.size then some (name, entry)
      else stored.slots[slot]? := by
  rw [IndexedRegistry.register]
  cases found : stored.index[name]? with
  | some place =>
      obtain ⟨old, here⟩ := inStep.index_eq_some.mp found
      simp only [Array.getElem?_modify, Option.getD_some, eq_comm (a := place)]
      split
      · next same => rw [same, here]; rfl
      · rfl
  | none =>
      simp only [Array.getElem?_push, Option.getD_none]
      rfl

theorem foldl_withRecord (records : List Record) :
    (records.foldl Registry.withRecord registry).IsStoredAs
      (records.foldl IndexedRegistry.withRecord stored) := by
  induction records generalizing registry stored with
  | nil => exact inStep
  | cons record rest ih =>
      exact ih (inStep.register record.name (.defined record.definition)).1

theorem importRecords (records : List Record) (only : Option (List String)) :
    (registry.importRecords records only).1.IsStoredAs
      (stored.importRecords records only).1 := by
  rw [IndexedRegistry.importRecords_eq, Registry.importRecords_eq]
  exact inStep.foldl_withRecord (chosenRecords only records)

end Registry.IsStoredAs

theorem Registry.isStoredAs_empty : Registry.IsStoredAs {} {} :=
  ⟨rfl, fun _ => by simp [Registry.position?]⟩

theorem Registry.isStoredAs_ofRecords (records : List Record) :
    (Registry.ofRecords records).IsStoredAs (IndexedRegistry.ofRecords records) :=
  Registry.isStoredAs_empty.importRecords records none

/-! ## Histories -/

/-- What can be done to a registry. -/
inductive RegistryStep where
  /-- Host code is registered. -/
  | native (name : String) (run : NativeMacro)
  /-- A definition is registered. -/
  | defined (name : String) (definition : Definition)
  /-- The definitions of records are registered, or of those with the given names. -/
  | imported (records : List Record) (only : Option (List String))
  /-- The registry of records takes the place of the old one. -/
  | rebuilt (records : List Record)

/-- What has been registered after one more step, name by name. -/
def RegistryStep.log (registered : List (String × Entry)) : RegistryStep → List (String × Entry)
  | native name run => registered ++ [(name, .native run)]
  | defined name definition => registered ++ [(name, .defined definition)]
  | imported records only => registered ++ (chosenRecords only records).map Registry.fieldOf
  | rebuilt records => records.map Registry.fieldOf

/-- What was registered in these steps, since the registry was last made from records. -/
def registrations (steps : List RegistryStep) : List (String × Entry) :=
  steps.foldl RegistryStep.log []

namespace Registry

def step (registry : Registry) : RegistryStep → Registry
  | .native name run => (registry.register name (.native run)).1
  | .defined name definition => (registry.register name (.defined definition)).1
  | .imported records only => (registry.importRecords records only).1
  | .rebuilt records => ofRecords records

/-- The registry that steps lead to, from the empty one. -/
def after (steps : List RegistryStep) : Registry :=
  steps.foldl step {}

end Registry

namespace IndexedRegistry

def step (registry : IndexedRegistry) : RegistryStep → IndexedRegistry
  | .native name run => (registry.register name (.native run)).1
  | .defined name definition => (registry.register name (.defined definition)).1
  | .imported records only => (registry.importRecords records only).1
  | .rebuilt records => ofRecords records

/-- The stored registry that steps lead to, from the empty one. -/
def after (steps : List RegistryStep) : IndexedRegistry :=
  steps.foldl step {}

end IndexedRegistry

namespace Registry

/-- The stored form stays in step, whatever is done. -/
theorem isStoredAs_after (steps : List RegistryStep) :
    (after steps).IsStoredAs (IndexedRegistry.after steps) := by
  have following : ∀ (steps : List RegistryStep) (registry : Registry) (stored : IndexedRegistry),
      registry.IsStoredAs stored →
      (steps.foldl step registry).IsStoredAs (steps.foldl IndexedRegistry.step stored) := by
    intro steps
    induction steps with
    | nil => exact fun _ _ inStep => inStep
    | cons first rest ih =>
        intro registry stored inStep
        refine ih _ _ ?_
        cases first with
        | native name run => exact (inStep.register name _).1
        | defined name definition => exact (inStep.register name _).1
        | imported records only => exact inStep.importRecords records only
        | rebuilt records => exact isStoredAs_ofRecords records
  exact following steps {} {} isStoredAs_empty

/-! ## Order and newest entries -/

/-- The registry holds the names that were registered, each at the place of its first registration
    and for what it was registered last. -/
structure Recalls (registry : Registry) (log : List (String × Entry)) : Prop where
  names : registry.entries.names = (log.map (·.1)).eraseDups
  newest : ∀ name, registry.get? name = log.reverse.lookup name

namespace Recalls

variable {registry : Registry} {log : List (String × Entry)}

theorem empty : Recalls {} [] :=
  ⟨rfl, fun _ => rfl⟩

theorem register (recalls : registry.Recalls log) (name : String) (entry : Entry) :
    (registry.register name entry).1.Recalls (log ++ [(name, entry)]) where
  names := by
    rw [entries_register, Fields.names_set, recalls.names, List.map_append,
      List.eraseDups_append]
    by_cases mem : name ∈ log.map (·.1)
    · simp [mem, List.removeAll]
    · simp [mem, List.removeAll, List.eraseDups_cons]
  newest key := by
    have older := recalls.newest key
    simp only [get?] at older
    rw [get?, entries_register, Fields.lookup_set, older, List.reverse_append,
      List.reverse_singleton, List.singleton_append, List.lookup_cons]
    by_cases same : key = name
    · simp [same]
    · simp [same, beq_false_of_ne same]

theorem foldl_withRecord (recalls : registry.Recalls log) (records : List Record) :
    (records.foldl withRecord registry).Recalls (log ++ records.map fieldOf) := by
  induction records generalizing registry log with
  | nil => simpa using recalls
  | cons record rest ih =>
      have next := ih (recalls.register record.name (.defined record.definition))
      rwa [List.append_assoc] at next

theorem importRecords (recalls : registry.Recalls log) (records : List Record)
    (only : Option (List String)) :
    (registry.importRecords records only).1.Recalls
      (log ++ (chosenRecords only records).map fieldOf) :=
  recalls.foldl_withRecord _

theorem step (recalls : registry.Recalls log) (next : RegistryStep) :
    (registry.step next).Recalls (next.log log) := by
  cases next with
  | native name run => exact recalls.register name _
  | defined name definition => exact recalls.register name _
  | imported records only => exact recalls.importRecords records only
  | rebuilt records =>
      have made := empty.foldl_withRecord records
      simpa only [Registry.step, RegistryStep.log, ofRecords, importRecords_all,
        List.nil_append] using made

end Recalls

theorem recalls_after (steps : List RegistryStep) :
    (after steps).Recalls (registrations steps) := by
  have following : ∀ (steps : List RegistryStep) (registry : Registry)
      (log : List (String × Entry)), registry.Recalls log →
      (steps.foldl step registry).Recalls (steps.foldl RegistryStep.log log) := by
    intro steps
    induction steps with
    | nil => exact fun _ _ recalls => recalls
    | cons first rest ih => exact fun _ _ recalls => ih _ _ (recalls.step first)
  exact following steps {} [] .empty

/-- Whatever is registered, each name stands once, where it was first registered, and for what it
    was registered last. The index tells the slots of these names and of no others, so all ways to
    look agree. Registering gives back what was in the slot that it fills. -/
theorem registered_in_order (steps : List RegistryStep) :
    let registry := after steps
    let stored := IndexedRegistry.after steps
    let log := registrations steps
    (stored.slots.toList = registry.entries ∧ registry.entries.names.Nodup ∧
      registry.entries.names = (log.map (·.1)).eraseDups) ∧
    (∀ (name : String) (slot : Nat), stored.index[name]? = some slot ↔
      ∃ entry, stored.slots[slot]? = some (name, entry)) ∧
    (stored.size = registry.size ∧ stored.records = registry.records ∧ ∀ name : String,
      stored.get? name = registry.get? name ∧ registry.get? name = log.reverse.lookup name ∧
      (∀ entry, stored.get? name = some entry ↔ (name, entry) ∈ stored.slots.toList) ∧
      stored.contains name = registry.contains name ∧
      registry.contains name = decide (name ∈ registry.entries.names)) ∧
    ∀ (name : String) (entry : Entry),
      (stored.register name entry).2 = stored.get? name ∧
      (registry.register name entry).2 = stored.get? name ∧
      ∀ slot, (stored.register name entry).1.slots[slot]? =
        if slot = (stored.index[name]?).getD stored.size then some (name, entry)
        else stored.slots[slot]? := by
  intro registry stored log
  have inStep : registry.IsStoredAs stored := isStoredAs_after steps
  have recalls : registry.Recalls log := recalls_after steps
  refine ⟨⟨inStep.entries, registry.distinct, recalls.names⟩,
    fun name slot => inStep.index_eq_some, ⟨inStep.size, inStep.records, fun name => ?_⟩,
    fun name entry => ?_⟩
  · exact ⟨inStep.get? name, recalls.newest name, fun entry => inStep.get?_eq_some,
      inStep.contains name, contains_eq_mem registry name⟩
  · have found := inStep.get? name
    exact ⟨(inStep.register name entry).2.trans found.symm, found.symm,
      inStep.slots_register name entry⟩

end Registry
end TreeMacros
