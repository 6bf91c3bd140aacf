import TreeMacros.Executor.Remote

/-! # Execution on a worker

Calls are sent to a worker under ids of their own, and replies come back in any order. The link
to the worker remembers the ids that still wait. A reply goes to the call that waits under its id
and is dropped if there is none; so a call ends once, with a reply to its own id, when the worker
is gone, or when its time is over.
-/

namespace TreeMacros

/-- How a call to a worker ended. -/
inductive CallEnd where
  | replied (reply : WorkerReply)
  /-- The request could not be sent. -/
  | unsent
  /-- The worker stopped before it replied. -/
  | stopped
  | timedOut
  deriving Inhabited

/-- What can happen to the link. -/
inductive LinkEvent where
  /-- A macro is called. -/
  | call (request : Request)
  /-- The worker replies. -/
  | reply (reply : WorkerReply)
  /-- The time of a call is over. -/
  | timeout (id : String)
  /-- The worker takes no more requests. -/
  | closeRequests
  /-- The worker sends no more replies. -/
  | closeReplies

/-- The link to a worker. -/
structure WorkerLink where
  /-- How many calls there have been. -/
  issued : Nat := 0
  /-- The ids of the calls that wait for a reply. -/
  pending : List String := []
  /-- The requests that were sent, in order. -/
  sent : List WorkerRequest := []
  /-- The calls that ended, in order. -/
  ended : List (String × CallEnd) := []
  takesRequests : Bool := true
  sendsReplies : Bool := true
  deriving Inhabited

namespace WorkerLink

/-- The id of the call after `issued` others. -/
def callId (issued : Nat) : String :=
  "m" ++ (issued + 1).repr

/-- End a waiting call. -/
def finish (link : WorkerLink) (id : String) (how : CallEnd) : WorkerLink :=
  if id ∈ link.pending then
    { link with pending := link.pending.filter (· != id), ended := link.ended ++ [(id, how)] }
  else link

/-- What the link does when something happens. -/
def step (link : WorkerLink) : LinkEvent → WorkerLink
  | .call request =>
    let id := callId link.issued
    let link := { link with issued := link.issued + 1 }
    if link.takesRequests then
      { link with pending := link.pending ++ [id], sent := link.sent ++ [⟨id, request⟩] }
    else { link with ended := link.ended ++ [(id, .unsent)] }
  | .reply reply => if link.sendsReplies then link.finish reply.id (.replied reply) else link
  | .timeout id => link.finish id .timedOut
  | .closeRequests => { link with takesRequests := false }
  | .closeReplies =>
    if link.sendsReplies then
      { link with
        pending := []
        ended := link.ended ++ link.pending.map (·, .stopped)
        sendsReplies := false }
    else link

/-- The link after a series of events. -/
def run (link : WorkerLink) (events : List LinkEvent) : WorkerLink :=
  events.foldl step link

/-- How many calls wait. -/
def inFlight (link : WorkerLink) : Nat :=
  link.pending.length

end WorkerLink

/-- The expansion that a worker's response stands for. -/
def Response.fromWorker : Response → Except Fault Expansion
  | ⟨true, some result, _⟩ => .ok result
  | ⟨true, none, _⟩ => .error { cause := .workerFailed "reply has no result" }
  | ⟨false, _, error⟩ => .error { cause := .workerFailed (error.getD "unknown error") }

/-- The expansion that the end of a call gives. -/
def CallEnd.expansion (id : String) (milliseconds : Nat) : CallEnd → Except Fault Expansion
  | replied reply => reply.body.fromWorker
  | unsent => .error { cause := .workerFailed "request channel is closed" }
  | stopped => .error { cause := .workerFailed ("no reply for " ++ id ++ ", worker stopped") }
  | timedOut =>
    .error { cause :=
      .workerFailed ("no reply for " ++ id ++ " within " ++ milliseconds.repr ++ " ms") }

/-- The reply of a worker that evaluates what it is sent. -/
def WorkerRequest.reply (request : WorkerRequest) (maxDepth : Nat)
    (deadlinePassed : Bool := false) : Except Endless WorkerReply := do
  return ⟨request.id, ← Response.ofRun (request.payload.evaluate maxDepth deadlinePassed)⟩

namespace Executor

/-- Run macros on a worker that evaluates what it is sent and replies in time. -/
def worker (maxDepth : Nat) : Executor where
  name := "worker"
  run call _ :=
    match Response.ofRun (call.request.evaluate maxDepth) with
    | .ok response => response.fromWorker.mapError .fault
    | .error what => .error (.endless what)

/-- A worker cannot be waited for by an expander that does nothing else meanwhile. -/
def blockingWorker : Executor where
  name := "worker"
  run _ _ :=
    .error (.fault { cause := .workerFailed "worker adapter requires an async compile pipeline" })

end Executor

end TreeMacros
