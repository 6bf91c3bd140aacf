import TreeMacros.Evaluation.Running

/-! # Executors

Where the body of a macro runs. The expander hands every call of a defined macro to an executor,
with the registry as it is at that moment, and gets an expansion or a failure. The plainest
executor evaluates in the same process.
-/

namespace TreeMacros

/-- A call of a defined macro. -/
structure MacroCall where
  name : String
  definition : Definition
  arguments : List Node
  /-- The macros that the body may call. -/
  registry : Registry

/-- A way to run macros. -/
structure Executor where
  /-- What the executor is called in settings. -/
  name : String
  /-- Run a macro. The services are those of the caller's host. -/
  run : MacroCall → Services → Except Failure Expansion

namespace Executor

/-- Evaluate in the same process, nested at most `maxDepth` deep. -/
def inProcess (maxDepth : Nat) : Executor where
  name := "inprocess"
  run call services :=
    let machine : Machine := { registry := call.registry, services, maxDepth }
    machine.run call.definition call.arguments

end Executor

end TreeMacros
