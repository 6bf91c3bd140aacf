import TreeMacros.Executor.Worker
import TreeMacros.Proofs.Node.Decidable
import TreeMacros.Proofs.Registry.Records

/-! # Evaluation elsewhere

A call that is sent away gives what it gives in its own process, but for the native macros of its
registry, which stay behind. A worker that replies in time passes on the expansion as it is, and a
fault as a fault of isolation that quotes it.
-/

namespace TreeMacros

/-- The call without the native macros of its registry. -/
def MacroCall.stripped (call : MacroCall) : MacroCall :=
  { call with registry := call.registry.definitions }

/-- What a failure on a worker is for the caller. -/
def Failure.relayed : Failure → Failure
  | fault f => fault { cause := .workerFailed f.shown }
  | endless what => endless what

theorem MacroCall.machine_request (call : MacroCall) (maxDepth : Nat) :
    call.request.machine maxDepth = { registry := call.registry.definitions, maxDepth } := by
  simp only [Request.machine, MacroCall.request, Registry.ofRecords_records]

theorem MacroCall.evaluate_request (call : MacroCall) (maxDepth : Nat) :
    call.request.evaluate maxDepth =
      (Executor.inProcess maxDepth).run call.stripped .plain := by
  simp only [Request.evaluate, MacroCall.machine_request]
  rfl

/-- What the caller makes of a worker's response is the outcome there, relayed. -/
theorem Response.fromWorker_ofRun {outcome : Except Failure Expansion} {response : Response}
    (replied : Response.ofRun outcome = .ok response) :
    response.fromWorker.mapError .fault = outcome.mapError Failure.relayed := by
  cases outcome with
  | ok expansion =>
      cases replied
      rfl
  | error failure =>
      cases failure with
      | fault f =>
          cases replied
          rfl
      | endless what => cases replied

theorem Executor.run_worker (call : MacroCall) (services : Services) (maxDepth : Nat) :
    (Executor.worker maxDepth).run call services =
      ((Executor.inProcess maxDepth).run call.stripped .plain).mapError Failure.relayed := by
  rw [← MacroCall.evaluate_request]
  simp only [Executor.worker]
  cases replied : Response.ofRun (call.request.evaluate maxDepth) with
  | ok response => exact Response.fromWorker_ofRun replied
  | error what =>
      cases outcome : call.request.evaluate maxDepth with
      | ok expansion => simp [outcome, Response.ofRun] at replied
      | error failure =>
          cases failure with
          | fault f => simp [outcome, Response.ofRun] at replied
          | endless what' =>
              simp only [outcome, Response.ofRun, Except.error.injEq] at replied
              subst replied
              rfl

namespace WorkerLink

/-! ## The link -/

/-- What was sent stays sent. -/
theorem sent_step (link : WorkerLink) (event : LinkEvent) :
    link.sent <+: (link.step event).sent := by
  cases event with
  | call request =>
      simp only [step]
      split
      · exact List.prefix_append _ _
      · exact List.prefix_refl _
  | reply reply =>
      simp only [step, finish]
      split <;> try split
      all_goals exact List.prefix_refl _
  | timeout id =>
      simp only [step, finish]
      split <;> exact List.prefix_refl _
  | closeRequests => exact List.prefix_refl _
  | closeReplies =>
      simp only [step]
      split <;> exact List.prefix_refl _

theorem sent_run (link : WorkerLink) (events : List LinkEvent) :
    link.sent <+: (link.run events).sent := by
  induction events generalizing link with
  | nil => exact List.prefix_refl _
  | cons event rest ih => exact (sent_step link event).trans (ih (link.step event))

theorem sent_call {link : WorkerLink} (takes : link.takesRequests = true) (request : Request) :
    ⟨callId link.issued, request⟩ ∈ (link.step (.call request)).sent := by
  simp [step, takes]

/-- A reply ends the call that waits for it. -/
theorem ended_reply {link : WorkerLink} {reply : WorkerReply} (opened : link.sendsReplies = true)
    (waits : reply.id ∈ link.pending) :
    (link.step (.reply reply)).ended = link.ended ++ [(reply.id, .replied reply)] := by
  simp [step, finish, opened, waits]

end WorkerLink

theorem WorkerRequest.reply_ok {request : WorkerRequest} {maxDepth : Nat} {reply : WorkerReply}
    (replied : request.reply maxDepth = .ok reply) :
    reply.id = request.id ∧
      Response.ofRun (request.payload.evaluate maxDepth) = .ok reply.body := by
  simp only [WorkerRequest.reply] at replied
  cases outcome : Response.ofRun (request.payload.evaluate maxDepth) with
  | error what => simp [outcome, bind, Except.bind] at replied
  | ok response =>
      simp only [outcome, bind, Except.bind, pure, Except.pure, Except.ok.injEq] at replied
      subst replied
      exact ⟨rfl, rfl⟩

/-- Evaluation elsewhere agrees with evaluation in the same process. On a worker this holds of the
    plain exchange, and of a call that is still waiting when its reply comes, whatever happened to
    the link before the call and since. -/
theorem elsewhere_agrees_with_inProcess (call : MacroCall) (maxDepth : Nat) :
    call.request.evaluate maxDepth = (Executor.inProcess maxDepth).run call.stripped .plain ∧
    (∀ services, (Executor.worker maxDepth).run call services =
      ((Executor.inProcess maxDepth).run call.stripped .plain).mapError Failure.relayed) ∧
    (∀ (link : WorkerLink) (events : List LinkEvent) (reply : WorkerReply) (milliseconds : Nat),
      let request : WorkerRequest := ⟨WorkerLink.callId link.issued, call.request⟩
      let waiting := (link.step (.call call.request)).run events
      link.takesRequests = true → request.id ∈ waiting.pending → waiting.sendsReplies = true →
      request.reply maxDepth = .ok reply →
        request ∈ waiting.sent ∧
        (waiting.step (.reply reply)).ended = waiting.ended ++ [(request.id, .replied reply)] ∧
        ((CallEnd.replied reply).expansion request.id milliseconds).mapError .fault =
          ((Executor.inProcess maxDepth).run call.stripped .plain).mapError Failure.relayed) ∧
    (∀ fault : Fault, ∃ relayed : Fault, Failure.relayed (.fault fault) = .fault relayed ∧
      relayed.kind = .isolation ∧ relayed.shown = "meta worker error: " ++ fault.shown) := by
  refine ⟨call.evaluate_request maxDepth,
    fun services => Executor.run_worker call services maxDepth, ?_, fun fault => ⟨_, rfl, rfl, rfl⟩⟩
  intro link events reply milliseconds request waiting takes waits opened replied
  obtain ⟨sameId, body⟩ := WorkerRequest.reply_ok replied
  have sent : request ∈ waiting.sent :=
    (WorkerLink.sent_run _ events).subset (WorkerLink.sent_call takes call.request)
  have ended := WorkerLink.ended_reply opened (sameId ▸ waits)
  refine ⟨sent, sameId ▸ ended, ?_⟩
  rw [← MacroCall.evaluate_request]
  exact Response.fromWorker_ofRun body

/-- A call of a macro that passes its arguments on to another one. Of the two that are registered,
    one is native. -/
def MacroCall.passingTo (callee : String) : MacroCall where
  name := "pass"
  definition := ⟨["a"], [.curly [.ident callee, .ident "a"]]⟩
  arguments := [.string "x"]
  registry :=
    let native := (Registry.register {} "native" (.native fun nodes _ => .ok (.nodes nodes))).1
    (native.register "same" (.defined ⟨["a"], [.ident "a"]⟩)).1

/-- The defined macro can be called on a worker, and the native one only in the same process. -/
theorem elsewhere_agrees_passing :
    let request : WorkerRequest := ⟨WorkerLink.callId 0, (MacroCall.passingTo "same").request⟩
    let waiting := ({} : WorkerLink).step (.call request.payload)
    let passed : Expansion := .nodes [.square [.string "x"]]
    (MacroCall.passingTo "same").stripped.registry.entries.names = ["same"] ∧
    (∃ reply : WorkerReply, request.reply 6 = .ok reply ∧
      (waiting.step (.reply reply)).ended = [(request.id, .replied reply)] ∧
      ((CallEnd.replied reply).expansion request.id 1000).mapError .fault =
        (.ok passed : Except Failure Expansion)) ∧
    (Executor.inProcess 6).run (.passingTo "native") .plain = .ok passed ∧
    (Executor.worker 6).run (.passingTo "native") .plain =
      .error (.fault { cause := .workerFailed "Unknown macro symbol: native" }) := by
  intro request waiting passed
  have replied : request.reply 6 = .ok ⟨request.id, .success passed⟩ := by decide +kernel
  have inProcess : (Executor.inProcess 6).run (MacroCall.passingTo "same").stripped .plain =
      .ok passed := by
    decide +kernel
  have lost : (Executor.inProcess 6).run (MacroCall.passingTo "native").stripped .plain =
      .error (.fault { cause := .unknownSymbol "native" }) := by
    decide +kernel
  obtain ⟨-, -, onLink, -⟩ := elsewhere_agrees_with_inProcess (.passingTo "same") 6
  obtain ⟨-, ended, given⟩ := onLink {} [] _ 1000 rfl (by decide) rfl replied
  obtain ⟨-, plain, -⟩ := elsewhere_agrees_with_inProcess (.passingTo "native") 6
  rw [inProcess] at given
  refine ⟨rfl, ⟨_, replied, ended, given⟩, by decide +kernel, ?_⟩
  rw [plain, lost]
  rfl

end TreeMacros
