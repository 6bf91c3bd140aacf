import TreeMacros.Definition
import TreeMacros.Fields
import TreeMacros.Text.Debug

/-! # The registry

The macros of one compilation by name, in the order in which the names were first registered.
Registering a name again replaces its entry and keeps its place. Only definitions can leave the
registry, as records; native macros stay behind.
-/

namespace TreeMacros

/-- Names and what they are registered for, each name once. -/
structure Registry where
  entries : Fields Entry := []
  distinct : entries.names.Nodup := by exact List.nodup_nil

namespace Registry

/-- What a name is registered for. -/
def get? (registry : Registry) (name : String) : Option Entry :=
  registry.entries.lookup name

/-- Whether a name is registered. -/
def contains (registry : Registry) (name : String) : Bool :=
  (registry.get? name).isSome

/-- The place of a name. -/
def position? (registry : Registry) (name : String) : Option Nat :=
  registry.entries.findIdx? (·.1 == name)

/-- How many names are registered. -/
def size (registry : Registry) : Nat :=
  registry.entries.length

/-- Register a name. Also the entry that it replaces. -/
def register (registry : Registry) (name : String) (entry : Entry) : Registry × Option Entry :=
  (⟨Fields.set name entry registry.entries, Fields.nodup_names_set registry.distinct name entry⟩,
    registry.get? name)

/-- The definitions of the registry as records. -/
def records (registry : Registry) : List Record :=
  registry.entries.filterMap fun (name, entry) => entry.definition?.map (⟨name, ·⟩)

/-- Register the definitions of records, or of those among them with the given names. Also how
    many they were. -/
def importRecords (registry : Registry) (records : List Record) (only : Option (List String)) :
    Registry × Nat :=
  let chosen := records.filter fun record => only.all (·.contains record.name)
  (chosen.foldl (fun registry record =>
    (registry.register record.name (.defined record.definition)).1) registry, chosen.length)

/-- The registry of the given records. -/
def ofRecords (records : List Record) : Registry :=
  (Registry.importRecords {} records none).1

end Registry

/-- An entry as a debug text. -/
def Entry.debug : Entry → String
  | native _ => "Native(<fn>)"
  | defined definition =>
    "Makrell \x7b params: " ++ Text.debugList definition.params ++ ", body: " ++
      definition.body.length.repr ++ " \x7d"

end TreeMacros
