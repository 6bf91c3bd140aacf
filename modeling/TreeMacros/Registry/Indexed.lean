import Std.Data.HashMap
import TreeMacros.Registry

/-! # The registry in storage

Entries are stored in a row of slots, and an index tells the slot of a name, so that a name is found
without a search. The row and the index are written apart from each other: nothing in their type
keeps them in step.
-/

namespace TreeMacros

/-- The slots of a registry, and the slot of each name. -/
structure IndexedRegistry where
  slots : Array (String × Entry) := #[]
  index : Std.HashMap String Nat := {}

namespace IndexedRegistry

/-- What a name is registered for. -/
def get? (registry : IndexedRegistry) (name : String) : Option Entry :=
  registry.index[name]?.bind fun slot => registry.slots[slot]?.map (·.2)

/-- Whether a name is registered. -/
def contains (registry : IndexedRegistry) (name : String) : Bool :=
  registry.index.contains name

/-- How many names are registered. -/
def size (registry : IndexedRegistry) : Nat :=
  registry.slots.size

/-- Register a name: in its slot, or else in a new one. Also the entry that it replaces. -/
def register (registry : IndexedRegistry) (name : String) (entry : Entry) :
    IndexedRegistry × Option Entry :=
  match registry.index[name]? with
  | some slot =>
    ({ registry with slots := registry.slots.modify slot fun (key, _) => (key, entry) },
      registry.slots[slot]?.map (·.2))
  | none =>
    ({ slots := registry.slots.push (name, entry)
       index := registry.index.insert name registry.slots.size }, none)

/-- The definitions of the registry as records. -/
def records (registry : IndexedRegistry) : List Record :=
  registry.slots.toList.filterMap fun (name, entry) => entry.definition?.map (⟨name, ·⟩)

/-- The registry with one more record registered. -/
def withRecord (registry : IndexedRegistry) (record : Record) : IndexedRegistry :=
  (registry.register record.name (.defined record.definition)).1

/-- Go on to one more record, which is registered and counted unless only other names are wanted. -/
def importNext (only : Option (List String)) :
    IndexedRegistry × Nat → Record → IndexedRegistry × Nat
  | (registry, imported), record =>
    if only.all (·.contains record.name) then (registry.withRecord record, imported + 1)
    else (registry, imported)

/-- Register the definitions of records, or of those among them with the given names. Also how
    many they were. -/
def importRecords (registry : IndexedRegistry) (records : List Record)
    (only : Option (List String)) : IndexedRegistry × Nat :=
  records.foldl (importNext only) (registry, 0)

/-- The registry of the given records. -/
def ofRecords (records : List Record) : IndexedRegistry :=
  (importRecords {} records none).1

end IndexedRegistry

end TreeMacros
