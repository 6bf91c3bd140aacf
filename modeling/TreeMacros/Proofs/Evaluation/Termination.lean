import TreeMacros.Proofs.Evaluation.Likeness.Strict
import TreeMacros.Proofs.Node.Decidable

/-! # Macros without loops

Every way from a piece of code back to itself leads through a level of depth, and a list is walked
as it was at the beginning. So a macro can go on forever only in a loop, in a text or in a range.
Values that hold no loops lead to values that hold none, since only code is evaluated and what is
quoted never becomes code. What is compared here is a run with itself.
-/

namespace TreeMacros

variable {machine : Machine}

/-- A machine that allows no loops is like itself if none of its macros holds one. -/
theorem Likeness.strict.machines
    (free : ∀ record ∈ machine.registry.records,
      Node.lacksAll "while" record.definition.body = true) :
    (strict machine.services False (fun _ => False) fun _ => id).Machines machine machine :=
  ⟨registries fun _ => free, rfl, rfl, rfl, rfl⟩

/-- Whatever the patience of the machine, it is not a loop that goes on forever. A text of a list
    that contains itself and a range without end can. -/
theorem Machine.run_ends {definition : Definition}
    (body : Node.lacksAll "while" definition.body = true)
    (registered : ∀ record ∈ machine.registry.records,
      Node.lacksAll "while" record.definition.body = true) (arguments : List Node) :
    (∃ expansion, machine.run definition arguments = .ok expansion) ∨
      (∃ fault, machine.run definition arguments = .error (.fault fault)) ∨
      machine.run definition arguments = .error (.endless .text) ∨
      machine.run definition arguments = .error (.endless .range) := by
  have machines := Likeness.strict.machines registered
  have outcome := machines.run (.floor rfl) (Nat.zero_add _).symm
    (Likeness.strict.definitions fun _ => body) (Likeness.strict.allData arguments)
  generalize machine.run definition arguments = result at outcome
  cases outcome with
  | ok => exact .inl ⟨_, rfl⟩
  | fault => exact .inr (.inl ⟨_, rfl⟩)
  | endless what turns =>
      cases what with
      | loop => exact absurd rfl turns
      | text => exact .inr (.inr (.inl rfl))
      | range => exact .inr (.inr (.inr rfl))
  | excused excuse => exact excuse.elim

/-- A macro that calls itself for each item of a list. -/
def mapsItself : Definition :=
  ⟨["items"], [.curly [.ident "map", .ident "mapsItself", .ident "items"]]⟩

/-- It calls itself with the same list again, and ends where it gets too deep. -/
theorem Machine.run_ends_mapsItself :
    let machine : Machine :=
      { registry := (Registry.register {} "mapsItself" (.defined mapsItself)).1, maxDepth := 8 }
    ∃ fault, machine.run mapsItself [.ident "a"] = .error (.fault fault) ∧
      fault.cause = .depthExceeded 8 := by
  intro machine
  have tooDeep : machine.run mapsItself [.ident "a"] =
      .error (.fault { cause := .depthExceeded 8 }) := by
    decide +kernel
  have body : Node.lacksAll "while" mapsItself.body = true := by decide
  have registered : ∀ record ∈ machine.registry.records,
      Node.lacksAll "while" record.definition.body = true := by
    decide
  obtain ⟨expansion, ends⟩ | ⟨fault, ends⟩ | ends | ends :=
    Machine.run_ends body registered [.ident "a"]
  · cases tooDeep.symm.trans ends
  · refine ⟨fault, ends, ?_⟩
    cases tooDeep.symm.trans ends
    rfl
  · cases tooDeep.symm.trans ends
  · cases tooDeep.symm.trans ends

end TreeMacros
