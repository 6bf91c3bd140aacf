import TreeMacros.Fields

/-! # TOML documents

The data of a settings file. A document is built from statements, each a key with a value or a
header that opens a table. A table may be filled in pieces only as far as the format allows: a
key is set once, a table is opened by one header, and what dotted keys made is not opened again.
-/

namespace TreeMacros

/-- A TOML value. -/
inductive Toml where
  | string (value : String)
  | integer (value : Int)
  | float (value : Float)
  | bool (value : Bool)
  /-- A date, a time, or both. -/
  | moment (text : String)
  | array (items : List Toml)
  | table (fields : List (String × Toml))
  deriving Inhabited

namespace Toml

/-- How a table came to be. -/
inductive Origin where
  /-- Opened by a header, or the document itself. -/
  | header
  /-- Only passed through on the way to a table inside it. -/
  | passed
  /-- Made by a dotted key. -/
  | dotted
  deriving Repr, DecidableEq, Inhabited

/-- What stands under a key while a document is built. -/
inductive Part where
  | value (value : Toml)
  | table (origin : Origin) (fields : List (String × Part))
  /-- Tables opened one after the other under the same double-bracketed header, last one first. -/
  | rows (rows : List (List (String × Part)))
  deriving Inhabited

/-- The parts of a table while it is built. -/
abbrev Parts := Fields Part

/-- A line of a document that is not blank. -/
inductive Statement where
  | pair (key : List String) (value : Toml)
  | header (path : List String)
  | rowHeader (path : List String)

namespace Parts

/-- Change the table that a path of headers leads to. Tables on the way are made if they are
    missing; of the rows under a key the last one is meant. -/
def within (change : Parts → Option Parts) : List String → Parts → Option Parts
  | [], parts => change parts
  | key :: path, parts => do
    match parts.lookup key with
    | none => return Fields.set key (.table .passed (← within change path [])) parts
    | some (.table origin inner) =>
      return Fields.set key (.table origin (← within change path inner)) parts
    | some (.rows (row :: earlier)) =>
      return Fields.set key (.rows ((← within change path row) :: earlier)) parts
    | some _ => none

/-- Set a key, dotted or not. The tables that a dotted key passes through are its own. -/
def setPair (value : Toml) : List String → Parts → Option Parts
  | [], _ => none
  | [key], parts =>
    match parts.lookup key with
    | none => some (Fields.set key (.value value) parts)
    | some _ => none
  | key :: path, parts => do
    match parts.lookup key with
    | none => return Fields.set key (.table .dotted (← setPair value path [])) parts
    | some (.table .dotted inner) =>
      return Fields.set key (.table .dotted (← setPair value path inner)) parts
    | some (.table .passed inner) =>
      if path.length = 1 then none
      else return Fields.set key (.table .passed (← setPair value path inner)) parts
    | some (.rows (row :: earlier)) =>
      if path.length = 1 then none
      else return Fields.set key (.rows ((← setPair value path row) :: earlier)) parts
    | some _ => none

/-- Open a table. One that was only passed through so far may still be opened. -/
def openTable (key : String) (parts : Parts) : Option Parts :=
  match parts.lookup key with
  | none => some (Fields.set key (.table .header []) parts)
  | some (.table .passed inner) => some (Fields.set key (.table .header inner) parts)
  | some _ => none

/-- Open one more table under a double-bracketed header. -/
def openRow (key : String) (parts : Parts) : Option Parts :=
  match parts.lookup key with
  | none => some (Fields.set key (.rows [[]]) parts)
  | some (.rows rows) => some (Fields.set key (.rows ([] :: rows)) parts)
  | some _ => none

end Parts

/-- A document in the making: its parts and the path of the table that is open. -/
structure Draft where
  parts : Parts := []
  path : List String := []

namespace Draft

/-- Open what the last key of a path names inside what the others lead to. -/
def openAt (draft : Draft) (path : List String) (action : String → Parts → Option Parts) :
    Option Draft := do
  let key ← path.getLast?
  return ⟨← Parts.within (action key) path.dropLast draft.parts, path⟩

/-- Add a statement. -/
def add (draft : Draft) : Statement → Option Draft
  | .pair key value => do
    return { draft with parts := ← Parts.within (Parts.setPair value key) draft.path draft.parts }
  | .header path => draft.openAt path Parts.openTable
  | .rowHeader path => draft.openAt path Parts.openRow

end Draft

mutual

/-- The value that a part has become. -/
def Part.finished : Part → Toml
  | .value value => value
  | .table _ fields => .table (finishedFields fields)
  | .rows rows => .array (finishedRows rows).reverse

def finishedFields : List (String × Part) → List (String × Toml)
  | [] => []
  | (key, part) :: rest => (key, part.finished) :: finishedFields rest

def finishedRows : List (List (String × Part)) → List Toml
  | [] => []
  | row :: rest => .table (finishedFields row) :: finishedRows rest

end

/-- The document that statements make. -/
def ofStatements? (statements : List Statement) : Option (Fields Toml) :=
  (statements.foldlM Draft.add {}).map fun draft => finishedFields draft.parts

/-- The table that pairs between curly brackets make. -/
def ofPairs? (pairs : List (List String × Toml)) : Option Toml :=
  (pairs.foldlM (fun parts pair => Parts.setPair pair.2 pair.1 parts) []).map fun parts =>
    .table (finishedFields parts)

end Toml

end TreeMacros
