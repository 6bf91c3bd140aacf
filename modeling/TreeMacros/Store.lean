import TreeMacros.Fields
import TreeMacros.Value

/-! # The store

What macro bodies change: the contents of lists and the frames of variables. Nothing is ever
taken away, so a reference stays good. A variable is looked up through the frames of a scope from
the innermost outwards. Assigning changes the nearest frame that binds the name, and binds it in
the innermost one if none does; defining always binds in the innermost one.
-/

namespace TreeMacros

/-- The variables of one frame. -/
abbrev Frame := Fields Value

/-- The lists and frames made so far, and what was printed. -/
structure Store where
  lists : Array (Array Value) := #[]
  frames : Array Frame := #[]
  /-- The identity that the next function gets. -/
  nextIdentity : Identity := 0
  /-- The lines printed so far. -/
  printed : Array String := #[]
  /-- How deeply evaluation is nested, where that is counted. -/
  depth : Nat := 0
  deriving Inhabited

namespace Store

/-! ## Lists -/

/-- The items of a list. -/
def items (store : Store) (id : ListId) : Array Value :=
  store.lists.getD id #[]

/-- Make a list. -/
def newList (store : Store) (items : Array Value) : ListId × Store :=
  (store.lists.size, { store with lists := store.lists.push items })

/-- Change the items of a list. -/
def modifyList (store : Store) (id : ListId) (change : Array Value → Array Value) : Store :=
  { store with lists := store.lists.modify id change }

/-! ## Frames -/

/-- The variables of a frame. -/
def frame (store : Store) (id : FrameId) : Frame :=
  store.frames.getD id []

/-- Make a frame without variables. -/
def newFrame (store : Store) : FrameId × Store :=
  (store.frames.size, { store with frames := store.frames.push [] })

/-- Whether a frame itself binds a name. -/
def bindsIn (store : Store) (id : FrameId) (name : String) : Bool :=
  ((store.frame id).lookup name).isSome

/-- Whether some frame of a scope binds a name. -/
def binds (store : Store) (scope : Scope) (name : String) : Bool :=
  scope.frames.any fun id => store.bindsIn id name

/-- Bind a name in a frame. -/
def bind (store : Store) (id : FrameId) (name : String) (value : Value) : Store :=
  { store with frames := store.frames.modify id (Fields.set name value) }

/-- The value of a name in the nearest of some frames that binds it. -/
def lookupIn (store : Store) (name : String) : List FrameId → Option Value
  | [] => none
  | id :: outer => ((store.frame id).lookup name).or (store.lookupIn name outer)

/-- The value of a name in a scope. -/
def lookup (store : Store) (scope : Scope) (name : String) : Option Value :=
  store.lookupIn name scope.frames

/-- Bind a name in the innermost frame of a scope. -/
def define (store : Store) (scope : Scope) (name : String) (value : Value) : Store :=
  store.bind scope.frame name value

/-- Change a name in the nearest of some frames that binds it. -/
def assignIn? (store : Store) (name : String) (value : Value) : List FrameId → Option Store
  | [] => none
  | id :: outer =>
    if store.bindsIn id name then some (store.bind id name value)
    else store.assignIn? name value outer

/-- Assign to a name: in the nearest frame that binds it, or else in the innermost frame. -/
def assign (store : Store) (scope : Scope) (name : String) (value : Value) : Store :=
  (store.assignIn? name value scope.frames).getD (store.define scope name value)

/-! ## Functions and output -/

/-- A new identity. -/
def newIdentity (store : Store) : Identity × Store :=
  (store.nextIdentity, { store with nextIdentity := store.nextIdentity + 1 })

/-- Print a line. -/
def print (store : Store) (line : String) : Store :=
  { store with printed := store.printed.push line }

/-! ## Depth -/

/-- Count one level deeper. -/
def enter (store : Store) : Store :=
  { store with depth := store.depth + 1 }

/-- Count one level less deep. -/
def leave (store : Store) : Store :=
  { store with depth := store.depth - 1 }

end Store

end TreeMacros
