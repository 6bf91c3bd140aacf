import TreeMacros.Executor
import TreeMacros.Json.Printer
import TreeMacros.Wire.Exchange

/-! # Evaluation elsewhere

A macro call as a request, and what the far side does with it: it makes a registry of the records
that came along and evaluates without the caller's services. Native macros cannot be sent, so
the far side does not know them.
-/

namespace TreeMacros

/-- The request that a call is sent as. -/
def MacroCall.request (call : MacroCall) : Request where
  target := ⟨call.name, call.definition⟩
  args := call.arguments
  registry := call.registry.records

/-- The machine that evaluates a request. -/
def Request.machine (request : Request) (maxDepth : Nat) (deadlinePassed : Bool := false) :
    Machine :=
  { registry := Registry.ofRecords request.registry, maxDepth, deadlinePassed }

/-- Evaluate a request. -/
def Request.evaluate (request : Request) (maxDepth : Nat) (deadlinePassed : Bool := false) :
    Except Failure Expansion :=
  (request.machine maxDepth deadlinePassed).run request.target.definition request.args

/-- A response, and the lines that were printed on the way. -/
structure Answer where
  response : Response
  printed : Array String := #[]

/-- The response that reports an outcome, unless there never is one. -/
def Response.ofRun : Except Failure Expansion → Except Endless Response
  | .ok expansion => .ok (.success expansion)
  | .error (.fault fault) => .ok (.failure fault.shown)
  | .error (.endless what) => .error what

/-- Answer a request that came as a text. A text that is no request is answered with the complaint
    about it. -/
def answerText (maxDepth : Nat) (text : String) (complaints : Wire.Complaints := {}) :
    Except Endless Answer := do
  match Wire.ofText? Request.ofJson? text with
  | none =>
    let fault : Fault := { cause := .unreadable (complaints.request text) }
    return { response := .failure fault.shown }
  | some request =>
    let (outcome, printed) :=
      (request.machine maxDepth).execute request.target.definition request.args
    return { response := ← Response.ofRun outcome, printed }

end TreeMacros
