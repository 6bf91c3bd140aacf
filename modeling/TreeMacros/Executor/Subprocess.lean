import TreeMacros.Executor.Remote
import TreeMacros.Text.Blank

/-! # Execution in a process of its own

Each call starts the runner program, which gets the request as a text and writes a response. Only
a process that succeeds and whose output is a successful response gives an expansion; everything
else is a fault of isolation. A host that has no runner evaluates in its own process instead.
-/

namespace TreeMacros

/-- What a process left when it ended. -/
structure ProcessOutput where
  success : Bool
  stdout : String
  stderr : String
  deriving Repr, DecidableEq, Inhabited

/-- A program that is given a text. It may fail to start or to end. -/
abbrev Program := String → Except Failure ProcessOutput

/-- The expansion that the output of a runner stands for. -/
def ProcessOutput.expansion (output : ProcessOutput) (complaints : Wire.Complaints := {}) :
    Except Fault Expansion :=
  let text := Text.trimmed output.stdout
  let response := Wire.ofText? Response.ofJson? text
  if !output.success then
    let complaint := Text.trimmed output.stderr
    let fallback :=
      if complaint == "" then "runner exited with a failure status" else complaint
    .error { cause := .runnerFailed ((response.bind (·.error)).getD fallback) }
  else if text == "" then .error { cause := .runnerSilent }
  else
    match response with
    | none => .error { cause := .runnerUnreadable (complaints.response text) }
    | some ⟨true, some result, _⟩ => .ok result
    | some ⟨true, none, _⟩ => .error { cause := .runnerRefused "response has no result" }
    | some ⟨false, _, error⟩ => .error { cause := .runnerRefused (error.getD "unknown error") }

namespace Executor

/-- The expansion that a program gives for a call. -/
def runOn (program : Program) (call : MacroCall) (complaints : Wire.Complaints := {}) :
    Except Failure Expansion := do
  let output ← program call.request.toJson.print
  match output.expansion complaints with
  | .ok expansion => return expansion
  | .error fault => throw (.fault fault)

/-- Run macros on a program, or if there is none, in the same process. -/
def subprocess (program : Option Program) (maxDepth : Nat) (complaints : Wire.Complaints := {}) :
    Executor where
  name := "subprocess"
  run call services :=
    match program with
    | some program => runOn program call complaints
    | none => (inProcess maxDepth).run call services

end Executor

namespace Program

/-- Printed lines as they stand in an output. -/
def printedText (lines : Array String) : String :=
  String.join (lines.toList.map (· ++ "\n"))

/-- The output that an answer is written as. -/
def outputOf (answer : Answer) : ProcessOutput where
  success := answer.response.ok
  stdout := answer.response.toJson.print ++ "\n"
  stderr := printedText answer.printed

/-- The runner: it answers the request that it is given. -/
def runner (maxDepth : Nat) (complaints : Wire.Complaints := {}) : Program := fun text =>
  match answerText maxDepth text complaints with
  | .ok answer => .ok (outputOf answer)
  | .error what => .error (.endless what)

end Program

end TreeMacros
