import TreeMacros.Executor.Subprocess
import TreeMacros.Proofs.Wire.Exchange

/-! # The output of a process

What a process wrote is not trusted. An expansion is taken from it only if the process succeeded and
its whole output is one successful response with a result. Whatever else it left is a fault of
isolation, which carries the complaint of the process if it made one.
-/

namespace TreeMacros

/-! ## White space around a response -/

/-- White space around a text that has none at its own ends is taken off. -/
theorem Text.trim_surrounded {before after inside : List Char} {first last : Char}
    (blankBefore : ∀ c ∈ before, isBlank c) (blankAfter : ∀ c ∈ after, isBlank c)
    (opens : isBlank first = false) (closes : isBlank last = false) :
    trim (before ++ (first :: (inside ++ [last]) ++ after)) = first :: (inside ++ [last]) := by
  have blankReversed : ∀ c ∈ after.reverse, isBlank c :=
    fun c mem => blankAfter c (List.mem_reverse.mp mem)
  simp [trim, trimStart, trimEnd, List.dropWhile_append_of_pos blankBefore,
    List.dropWhile_append_of_pos blankReversed, opens, closes]

/-- A text with nothing but white space around it. -/
def Text.Surrounds (around text : String) : Prop :=
  ∃ before after : String, around = before ++ text ++ after ∧
    (∀ c ∈ before.toList, isBlank c) ∧ ∀ c ∈ after.toList, isBlank c

theorem Response.trimmed_surrounding {around : String} {response : Response}
    (surrounds : Text.Surrounds around response.toJson.print) :
    Text.trimmed around = response.toJson.print := by
  obtain ⟨before, after, rfl, blankBefore, blankAfter⟩ := surrounds
  have opens : Text.isBlank '\x7b' = false := by decide
  have closes : Text.isBlank '\x7d' = false := by decide
  have printed : response.toJson.print.toList =
      '\x7b' :: ((Json.printFields response.fields).toList ++ ['\x7d']) := by
    simp [Response.toJson, Json.print]
  apply String.toList_inj.mp
  rw [Text.trimmed, String.toList_ofList, String.toList_append, String.toList_append, printed,
    List.append_assoc]
  exact Text.trim_surrounded blankBefore blankAfter opens closes

/-- No response is an empty text. -/
theorem Response.ofText?_empty : Wire.ofText? Response.ofJson? "" = none := by
  rfl

/-! ## Reading the output -/

namespace ProcessOutput

variable (output : ProcessOutput) (complaints : Wire.Complaints)

/-- The response that the output is, if it can be read as one. -/
def response? : Option Response :=
  Wire.ofText? Response.ofJson? (Text.trimmed output.stdout)

/-- The process succeeded, and its output is a successful response with this result. -/
def IsCleanSuccess (expansion : Expansion) : Prop :=
  output.success = true ∧ ∃ error, output.response? = some ⟨true, some expansion, error⟩

/-- What a process complains about when it fails: the error of its response, or else what it wrote
    to its error output. -/
structure Complains (detail : String) : Prop where
  reported : ∀ response text, output.response? = some response → response.error = some text →
    detail = text
  written : (∀ response, output.response? = some response → response.error = none) →
    Text.trimmed output.stderr ≠ "" → detail = Text.trimmed output.stderr

variable {output}

/-- A process that failed gives no expansion, whatever it wrote. -/
theorem expansion_failed (failed : output.success = false) :
    ∃ detail, output.expansion complaints = .error { cause := .runnerFailed detail } ∧
      output.Complains detail := by
  let fallback := if Text.trimmed output.stderr == "" then "runner exited with a failure status"
    else Text.trimmed output.stderr
  have ends : output.expansion complaints =
      .error { cause := .runnerFailed ((output.response?.bind (·.error)).getD fallback) } := by
    simp only [expansion, failed, Bool.not_false, if_true]
    rfl
  refine ⟨_, ends, ?_, ?_⟩
  · intro response text read error
    rw [read, Option.bind_some, error, Option.getD_some]
  · intro silent written
    have none : output.response?.bind (·.error) = none := by
      cases read : output.response? with
      | none => rfl
      | some response => exact silent response read
    rw [none, Option.getD_none]
    exact if_neg (by simpa using written)

/-- What a process that succeeded wrote is looked at only if it is a response. -/
theorem expansion_succeeded (succeeded : output.success = true) :
    output.expansion complaints =
      match output.response? with
      | some ⟨true, some expansion, _⟩ => .ok expansion
      | some ⟨true, none, _⟩ => .error { cause := .runnerRefused "response has no result" }
      | some ⟨false, _, error⟩ =>
        .error { cause := .runnerRefused (error.getD "unknown error") }
      | none =>
        .error { cause :=
          if Text.trimmed output.stdout = "" then .runnerSilent
          else .runnerUnreadable (complaints.response (Text.trimmed output.stdout)) } := by
  simp only [expansion, succeeded, Bool.not_true, Bool.false_eq_true, if_false, beq_iff_eq]
  by_cases silent : Text.trimmed output.stdout = ""
  · have nothing : output.response? = none := by rw [response?, silent, Response.ofText?_empty]
    rw [if_pos silent, nothing]
    simp only [silent, if_true]
  · rw [if_neg silent, ← response?]
    simp only [silent, if_false]
    rcases output.response? with _ | ⟨_ | _, _ | _, _⟩ <;> rfl

theorem expansion_eq_ok_iff (expansion : Expansion) :
    output.expansion complaints = .ok expansion ↔ output.IsCleanSuccess expansion := by
  cases flag : output.success with
  | false =>
      obtain ⟨detail, ends, -⟩ := expansion_failed complaints flag
      simp [IsCleanSuccess, flag, ends]
  | true =>
      rw [expansion_succeeded complaints flag, IsCleanSuccess, flag]
      rcases output.response? with _ | ⟨_ | _, _ | result, _⟩ <;> simp

/-- The causes for which an output is refused. -/
inductive Refuses : Cause → Prop
  | failed (detail : String) : Refuses (.runnerFailed detail)
  | silent : Refuses .runnerSilent
  | unreadable (complaint : String) : Refuses (.runnerUnreadable complaint)
  | refused (detail : String) : Refuses (.runnerRefused detail)

theorem Refuses.shown {cause : Cause} (refuses : Refuses cause) :
    cause.kind = .isolation ∧
      ∃ detail, ({ cause } : Fault).shown = "meta subprocess" ++ detail := by
  have after (rest detail : String) : "meta subprocess" ++ rest ++ detail =
      "meta subprocess" ++ (rest ++ detail) := String.append_assoc
  cases refuses with
  | failed detail => exact ⟨rfl, _, after " failed: " detail⟩
  | silent => exact ⟨rfl, " returned empty output", rfl⟩
  | unreadable complaint => exact ⟨rfl, _, after " error: unreadable output: " complaint⟩
  | refused detail => exact ⟨rfl, _, after " error: " detail⟩

/-- What is no clean success is refused. -/
theorem expansion_refused (unclean : ∀ expansion, ¬ output.IsCleanSuccess expansion) :
    ∃ cause, output.expansion complaints = .error { cause } ∧ Refuses cause := by
  cases flag : output.success with
  | false =>
      obtain ⟨detail, ends, -⟩ := expansion_failed complaints flag
      exact ⟨_, ends, .failed detail⟩
  | true =>
      have ends := expansion_succeeded complaints flag
      rcases read : output.response? with _ | ⟨_ | _, _ | result, error⟩
      · rw [read] at ends
        refine ⟨_, ends, ?_⟩
        split
        · exact .silent
        · exact .unreadable _
      · rw [read] at ends
        exact ⟨_, ends, .refused _⟩
      · rw [read] at ends
        exact ⟨_, ends, .refused _⟩
      · rw [read] at ends
        exact ⟨_, ends, .refused _⟩
      · exact absurd ⟨flag, error, read⟩ (unclean result)

/-! ## The whole rule -/

/-- An output gives an expansion exactly if the process succeeded and the output, without the white
    space around it, is a successful response with this expansion; a response that was written is
    read as it is, up to the depth that texts may have. Anything else is a fault of isolation from
    the process, however its reader words it. If the process failed, the fault carries its
    complaint. -/
theorem only_clean_success (output : ProcessOutput) (complaints : Wire.Complaints) :
    (∀ expansion, output.expansion complaints = .ok expansion ↔
      output.IsCleanSuccess expansion) ∧
    (∀ response : Response, Text.Surrounds output.stdout response.toJson.print →
      response.toJson.nesting ≤ Wire.textLimit → output.response? = some response) ∧
    ((∀ expansion, ¬ output.IsCleanSuccess expansion) →
      ∃ fault detail, output.expansion complaints = .error fault ∧ fault.kind = .isolation ∧
        fault.shown = "meta subprocess" ++ detail) ∧
    (output.success = false →
      ∃ fault detail, output.expansion complaints = .error fault ∧ fault.kind = .isolation ∧
        fault.shown = "meta subprocess failed: " ++ detail ∧ output.Complains detail) := by
  refine ⟨expansion_eq_ok_iff complaints, ?_, ?_, ?_⟩
  · intro response surrounds fits
    rw [response?, Response.trimmed_surrounding surrounds, Response.ofText?_print, if_pos fits]
  · intro unclean
    obtain ⟨cause, ends, refuses⟩ := expansion_refused complaints unclean
    obtain ⟨kind, detail, shown⟩ := refuses.shown
    exact ⟨_, detail, ends, kind, shown⟩
  · intro failed
    obtain ⟨detail, ends, complains⟩ := expansion_failed complaints failed
    exact ⟨_, detail, ends, rfl, rfl, complains⟩

end ProcessOutput

end TreeMacros
