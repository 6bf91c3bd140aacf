import TreeMacros.Executor.Subprocess
import TreeMacros.Proofs.Executor.Output
import TreeMacros.Proofs.Executor.Remote
import TreeMacros.Proofs.Node.Decidable
import TreeMacros.Proofs.Wire.Exchange

/-! # Evaluation in a process of its own

What a call gives through the texts of the runner is what it gives in the same process, as long as
the request and the response are nested no deeper than a text is read. A request that is nested too
deeply is refused by the runner, and a response that is nested too deeply cannot be read by the
caller. The words of both refusals are those of whoever reads the text, so nothing here goes by
them. Native macros cannot be sent; the calls here have none.
-/

namespace TreeMacros

/-! ## The text of a response -/

theorem Response.trimmed_line (response : Response) :
    Text.trimmed (response.toJson.print ++ "\n") = response.toJson.print := by
  apply Response.trimmed_surrounding
  refine ⟨"", "\n", by simp, by simp, fun c mem => ?_⟩
  obtain rfl : c = '\n' := by simpa using mem
  decide

theorem Response.print_ne_empty (response : Response) : response.toJson.print ≠ "" := by
  simp [Response.toJson, Json.print]

/-! ## The caller -/

/-- The fault of isolation that a fault of the runner is for the caller. -/
def Failure.reported : Failure → Failure
  | fault f => fault { cause := .runnerFailed f.shown }
  | endless what => endless what

/-- The runner with another text on its error output. -/
def Program.noting (program : Program) (stderr : String) : Program := fun text =>
  (program text).map fun output => { output with stderr }

/-- How the runner reports a request, if it cannot read it. -/
def Request.unreadable (complaints : Wire.Complaints) (request : Request) : String :=
  ({ cause := .unreadable (complaints.request request.toJson.print) } : Fault).shown

/-- Why the caller refuses a response, if it cannot read it. -/
def Response.unreadable (complaints : Wire.Complaints) (response : Response) : Cause :=
  .runnerUnreadable (complaints.response response.toJson.print)

section Reader

variable (complaints : Wire.Complaints)

/-- What the caller reads of an outcome of the runner. -/
def Response.readBack : Except Failure Expansion → Except Failure Expansion
  | .ok expansion =>
    if (Response.success expansion).toJson.nesting ≤ Wire.textLimit then .ok expansion
    else .error (.fault { cause := (Response.success expansion).unreadable complaints })
  | .error failure => .error failure.reported

theorem ProcessOutput.expansion_success (expansion : Expansion) (printed : Array String)
    (stderr : String) :
    ({ Program.outputOf ⟨.success expansion, printed⟩ with stderr }).expansion complaints =
      if (Response.success expansion).toJson.nesting ≤ Wire.textLimit then .ok expansion
      else .error { cause := (Response.success expansion).unreadable complaints } := by
  have success : (Response.success expansion).ok = true := rfl
  simp only [ProcessOutput.expansion, Program.outputOf, Response.trimmed_line,
    Response.ofText?_print, success, beq_iff_eq, Response.print_ne_empty, Bool.not_true,
    Bool.false_eq_true, if_false]
  by_cases fits : (Response.success expansion).toJson.nesting ≤ Wire.textLimit
  · simp only [fits, if_true]
    rfl
  · simp only [fits, if_false, Response.unreadable]

theorem ProcessOutput.expansion_failure (text : String) (printed : Array String)
    (stderr : String) :
    ({ Program.outputOf ⟨.failure text, printed⟩ with stderr }).expansion complaints =
      .error { cause := .runnerFailed text } := by
  have failure : (Response.failure text).ok = false := rfl
  have fits : (Response.failure text).toJson.nesting ≤ Wire.textLimit := by
    simp [Response.failure, Response.toJson, Response.fields, Json.nesting, Json.nestingFields,
      Wire.textLimit]
  simp only [ProcessOutput.expansion, Program.outputOf, Response.trimmed_line,
    Response.ofText?_print, failure, fits]
  rfl

/-! ## Caller and runner -/

theorem answerText_fits {request : Request} (fits : request.toJson.nesting ≤ Wire.textLimit)
    (maxDepth : Nat) :
    (answerText maxDepth request.toJson.print complaints).map Answer.response =
      Response.ofRun (request.evaluate maxDepth) := by
  simp only [answerText, Request.ofText?_print, fits, if_true, Request.evaluate, Machine.run]
  cases Response.ofRun _ <;> rfl

theorem answerText_unreadable {request : Request}
    (deeper : ¬ request.toJson.nesting ≤ Wire.textLimit) (maxDepth : Nat) :
    (answerText maxDepth request.toJson.print complaints).map Answer.response =
      .ok (.failure (request.unreadable complaints)) := by
  simp only [answerText, Request.ofText?_print, deeper, if_false]
  rfl

variable {complaints}

theorem Executor.runOn_answered {call : MacroCall} {maxDepth : Nat} {answer : Answer}
    (answered : answerText maxDepth call.request.toJson.print complaints = .ok answer)
    (stderr : String) :
    Executor.runOn ((Program.runner maxDepth complaints).noting stderr) call complaints =
      (({ Program.outputOf answer with stderr }).expansion complaints).mapError .fault := by
  have output : (Program.runner maxDepth complaints).noting stderr call.request.toJson.print =
      .ok { Program.outputOf answer with stderr } := by
    simp only [Program.noting, Program.runner, answered]
    rfl
  simp only [Executor.runOn, output, bind, Except.bind]
  cases ({ Program.outputOf answer with stderr }).expansion complaints <;> rfl

theorem Executor.runOn_endless {call : MacroCall} {maxDepth : Nat} {what : Endless}
    (answered : answerText maxDepth call.request.toJson.print complaints = .error what)
    (stderr : String) :
    Executor.runOn ((Program.runner maxDepth complaints).noting stderr) call complaints =
      .error (.endless what) := by
  simp only [Executor.runOn, Program.noting, Program.runner, answered]
  rfl

theorem Answer.of_response {answered : Except Endless Answer} {response : Response}
    (responds : answered.map Answer.response = .ok response) :
    ∃ printed, answered = .ok ⟨response, printed⟩ := by
  cases answered with
  | error what => cases responds
  | ok answer =>
      cases responds
      exact ⟨answer.printed, rfl⟩

theorem Answer.of_endless {answered : Except Endless Answer} {what : Endless}
    (responds : answered.map Answer.response = .error what) : answered = .error what := by
  cases answered with
  | error other =>
      cases responds
      rfl
  | ok answer => cases responds

theorem Executor.runOn_fits {call : MacroCall}
    (fits : call.request.toJson.nesting ≤ Wire.textLimit) (maxDepth : Nat) (stderr : String) :
    Executor.runOn ((Program.runner maxDepth complaints).noting stderr) call complaints =
      Response.readBack complaints (call.request.evaluate maxDepth) := by
  have responds := answerText_fits complaints fits maxDepth
  cases outcome : call.request.evaluate maxDepth with
  | ok expansion =>
      rw [outcome] at responds
      obtain ⟨printed, answered⟩ := Answer.of_response responds
      rw [Executor.runOn_answered answered, ProcessOutput.expansion_success, Response.readBack]
      split <;> rfl
  | error failure =>
      rw [outcome] at responds
      cases failure with
      | fault f =>
          obtain ⟨printed, answered⟩ := Answer.of_response responds
          rw [Executor.runOn_answered answered, ProcessOutput.expansion_failure]
          rfl
      | endless what => exact Executor.runOn_endless (Answer.of_endless responds) stderr

theorem Executor.runOn_unreadable {call : MacroCall}
    (deeper : ¬ call.request.toJson.nesting ≤ Wire.textLimit) (maxDepth : Nat) (stderr : String) :
    Executor.runOn ((Program.runner maxDepth complaints).noting stderr) call complaints =
      .error (.fault { cause := .runnerFailed (call.request.unreadable complaints) }) := by
  obtain ⟨printed, answered⟩ :=
    Answer.of_response (answerText_unreadable complaints deeper maxDepth)
  rw [Executor.runOn_answered answered, ProcessOutput.expansion_failure]
  rfl

end Reader

/-! ## Agreement -/

theorem MacroCall.stripped_eq_self {call : MacroCall}
    (defined : ∀ field ∈ call.registry.entries, field.2.isNative = false) :
    call.stripped = call := by
  simp only [MacroCall.stripped, Registry.definitions_eq_self defined]

theorem MacroCall.evaluate_defined {call : MacroCall}
    (defined : ∀ field ∈ call.registry.entries, field.2.isNative = false) (maxDepth : Nat) :
    call.request.evaluate maxDepth = (Executor.inProcess maxDepth).run call .plain := by
  rw [MacroCall.evaluate_request, MacroCall.stripped_eq_self defined]

/-- An expansion that is read back is the one that was written. -/
theorem Response.readBack_eq_ok {complaints : Wire.Complaints}
    {outcome : Except Failure Expansion} {expansion : Expansion} :
    Response.readBack complaints outcome = .ok expansion ↔
      outcome = .ok expansion ∧ (Response.success expansion).toJson.nesting ≤ Wire.textLimit := by
  cases outcome with
  | ok other =>
      simp only [Response.readBack]
      split
      · next fits =>
          constructor
          · rintro ⟨⟩
            exact ⟨rfl, fits⟩
          · exact And.left
      · next deeper =>
          refine ⟨nofun, ?_⟩
          rintro ⟨⟨⟩, fits⟩
          exact absurd fits deeper
  | error failure => simp [Response.readBack]

/-- The outcome is read back as it was if its expansion is not nested too deeply. -/
theorem Response.readBack_eq_iff (complaints : Wire.Complaints)
    (outcome : Except Failure Expansion) :
    Response.readBack complaints outcome = outcome.mapError Failure.reported ↔
      ∀ expansion, outcome = .ok expansion →
        (Response.success expansion).toJson.nesting ≤ Wire.textLimit := by
  cases outcome with
  | ok expansion =>
      constructor
      · rintro same other ⟨⟩
        exact (Response.readBack_eq_ok.mp same).2
      · intro fits
        exact Response.readBack_eq_ok.mpr ⟨rfl, fits expansion rfl⟩
  | error failure => exact ⟨fun _ _ => nofun, fun _ => rfl⟩

/-- A failure that is reported like one with a certain text. -/
theorem Failure.reported_eq_runnerFailed {outcome : Except Failure Expansion} {text : String} :
    outcome.mapError Failure.reported = .error (.fault { cause := .runnerFailed text }) ↔
      ∃ f : Fault, outcome = .error (.fault f) ∧ f.shown = text := by
  cases outcome with
  | ok expansion => simp [Except.mapError]
  | error failure =>
      cases failure with
      | fault f => simp [Except.mapError, Failure.reported]
      | endless what => simp [Except.mapError, Failure.reported]

/-- Through the runner's texts the caller gets the outcome in the same process, with a fault passed
    on as a fault of isolation, exactly if request and response are nested no deeper than a text is
    read; or by the coincidence that the outcome is a fault that reads like the runner's complaint
    about the request, in whatever words the runner complains. Whatever goes wrong, no other
    expansion is ever given. -/
theorem runner_agrees_iff (call : MacroCall) (maxDepth : Nat) (stderr : String)
    (complaints : Wire.Complaints)
    (defined : ∀ field ∈ call.registry.entries, field.2.isNative = false) :
    let outcome := (Executor.inProcess maxDepth).run call .plain
    let given := Executor.runOn ((Program.runner maxDepth complaints).noting stderr) call complaints
    let readable := call.request.toJson.nesting ≤ Wire.textLimit
    let fits := fun expansion => (Response.success expansion).toJson.nesting ≤ Wire.textLimit
    (given = outcome.mapError Failure.reported ↔
      (readable ∧ ∀ expansion, outcome = .ok expansion → fits expansion) ∨
        ∃ f : Fault, outcome = .error (.fault f) ∧
          f.shown = call.request.unreadable complaints) ∧
    (∀ expansion, given = .ok expansion ↔ outcome = .ok expansion ∧ readable ∧ fits expansion) ∧
    (¬ readable → given =
      .error (.fault { cause := .runnerFailed (call.request.unreadable complaints) })) ∧
    (readable → ∀ expansion, outcome = .ok expansion → ¬ fits expansion →
      given = .error (.fault { cause := (Response.success expansion).unreadable complaints })) ∧
    (∀ fault : Fault, ∃ reported : Fault, Failure.reported (.fault fault) = .fault reported ∧
      reported.kind = .isolation ∧
      reported.shown = "meta subprocess failed: " ++ fault.shown) := by
  intro outcome given readable fits
  have refused (deeper : ¬ readable) : given =
      .error (.fault { cause := .runnerFailed (call.request.unreadable complaints) }) :=
    Executor.runOn_unreadable deeper maxDepth stderr
  have readBack (reads : readable) : given = Response.readBack complaints outcome :=
    (Executor.runOn_fits reads maxDepth stderr).trans
      (congrArg (Response.readBack complaints) (MacroCall.evaluate_defined defined maxDepth))
  refine ⟨?_, ?_, refused, ?_, fun fault => ⟨_, rfl, rfl, rfl⟩⟩
  · by_cases reads : readable
    · rw [readBack reads, Response.readBack_eq_iff]
      constructor
      · exact fun all => .inl ⟨reads, all⟩
      · rintro (⟨-, all⟩ | ⟨f, fails, -⟩)
        · exact all
        · simp [fails]
    · rw [refused reads, eq_comm, Failure.reported_eq_runnerFailed]
      simp [reads]
  · intro expansion
    by_cases reads : readable
    · rw [readBack reads, Response.readBack_eq_ok]
      simp [reads, fits]
    · simp [refused reads, reads]
  · intro reads expansion succeeds deeper
    rw [readBack reads, succeeds, Response.readBack, if_neg deeper]

/-- A call whose body ignores its argument, some brackets nested in each other. -/
def MacroCall.ignoring (depth : Nat) : MacroCall where
  name := "one"
  definition := ⟨["a"], [.number "1"]⟩
  arguments := [Nat.repeat (fun node => .square [node]) depth (.ident "x")]
  registry := {}

theorem MacroCall.nesting_ignoring (depth : Nat) :
    (MacroCall.ignoring depth).request.toJson.nesting = max 4 (2 * depth + 3) := by
  have argument :
      (Nat.repeat (fun node => .square [node]) depth (.ident "x") : Node).toJson.nesting =
        2 * depth + 1 := by
    have level (node : Node) : (Node.square [node]).toJson.nesting = node.toJson.nesting + 2 := by
      simp [Node.square, Node.toJson, Node.toJsonAll, Node.locField, Json.nesting,
        Json.nestingFields, Json.nestingAll]
    induction depth with
    | zero => rfl
    | succ depth ih =>
        rw [Nat.repeat, level, ih]
        omega
  simp only [MacroCall.ignoring, MacroCall.request, Request.toJson, Record.toJson, Json.nesting,
    Json.nestingFields, Json.nestingAll, Node.toJsonAll, argument, Node.number, Node.toJson,
    Node.locField, List.map_cons, List.map_nil, Registry.records, List.filterMap_nil]
  omega

/-- A reader that says of every text that it is nested too deeply. -/
def Wire.Complaints.recursionLimit : Wire.Complaints where
  request _ := "recursion limit exceeded"
  response _ := "recursion limit exceeded"

theorem runner_agrees_shallow :
    let complaints := Wire.Complaints.recursionLimit
    (∀ field ∈ (MacroCall.ignoring 62).registry.entries, field.2.isNative = false) ∧
    Executor.runOn ((Program.runner 10 complaints).noting "") (.ignoring 62) complaints =
      .ok (.node (.number "1")) := by
  intro complaints
  have outcome : (Executor.inProcess 10).run (.ignoring 62) .plain =
      .ok (.node (.number "1")) := by
    decide +kernel
  have readable : (MacroCall.ignoring 62).request.toJson.nesting ≤ Wire.textLimit := by
    rw [MacroCall.nesting_ignoring]
    decide
  have defined : ∀ field ∈ (MacroCall.ignoring 62).registry.entries, field.2.isNative = false :=
    nofun
  obtain ⟨-, agrees, -⟩ := runner_agrees_iff (.ignoring 62) 10 "" complaints defined
  exact ⟨defined, (agrees _).mpr ⟨outcome, readable, by decide⟩⟩

/-- One level more is too deep for the runner, though not for evaluation in the same process. -/
theorem runner_refuses_deep :
    let complaints := Wire.Complaints.recursionLimit
    (Executor.inProcess 10).run (.ignoring 63) .plain = .ok (.node (.number "1")) ∧
    Executor.runOn ((Program.runner 10 complaints).noting "") (.ignoring 63) complaints =
      .error (.fault
        { cause := .runnerFailed "Serialization error: recursion limit exceeded" }) := by
  intro complaints
  have deeper : ¬ (MacroCall.ignoring 63).request.toJson.nesting ≤ Wire.textLimit := by
    rw [MacroCall.nesting_ignoring]
    decide
  exact ⟨by decide +kernel, Executor.runOn_unreadable deeper 10 ""⟩

end TreeMacros
