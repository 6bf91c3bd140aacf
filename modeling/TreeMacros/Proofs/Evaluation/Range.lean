import TreeMacros.Evaluation.Builtin
import TreeMacros.Proofs.Decimal.Counting

/-! # Ranges

A range counts up by adding one and looks at no clock, so it ends if and only if counting reaches
its end. It does so within the whole numbers that all are floats, or in a single step.
-/

namespace TreeMacros

variable {start stop : Float} {found : Array Value} {patience : Nat}

/-- No patience is enough where counting never reaches the end. -/
theorem numbersFrom?_eq_none (endless : ∀ k, (· + 1)^[k] start < stop) :
    numbersFrom? start stop found patience = none := by
  have first : start < stop := endless 0
  induction patience generalizing start found with
  | zero => rw [numbersFrom?, if_pos first]
  | succ patience ih =>
      rw [numbersFrom?, if_pos first]
      have rest (k : Nat) : (· + 1)^[k] (start + 1) < stop := endless (k + 1)
      exact ih rest (rest 0)

/-- The numbers found are those below the end, in order. -/
theorem numbersFrom?_eq_some {count : Nat} (below : ∀ k < count, (· + 1)^[k] start < stop)
    (reached : ¬(· + 1)^[count] start < stop) (enough : count ≤ patience) :
    numbersFrom? start stop found patience =
      some (found ++ ((List.iterate (· + 1) start count).map Value.number).toArray) := by
  induction count generalizing start found patience with
  | zero =>
      have last : ¬start < stop := reached
      cases patience <;> simp [numbersFrom?, last, List.iterate]
  | succ count ih =>
      obtain ⟨patience, rfl⟩ := Nat.exists_eq_add_of_lt enough
      have first : start < stop := below 0 count.succ_pos
      have rest : ∀ k < count, (· + 1)^[k] (start + 1) < stop :=
        fun k less => below (k + 1) (by omega)
      rw [numbersFrom?, if_pos first, ih rest reached (by omega)]
      simp [List.iterate]

section Call

variable {machine : Machine} {store : Store}

theorem Builtin.call_range (machine : Machine) (start stop : Float) :
    Builtin.range.call machine [.number start, .number stop] =
      (numbersFrom? start stop #[] machine.patience).elim (Eval.forever .range) Eval.newList := by
  simp only [Builtin.call, argument, List.getElem?_cons_succ, List.getElem?_cons_zero,
    List.getD_cons_zero, Value.toNumber]
  cases numbersFrom? start stop #[] machine.patience <;> rfl

theorem Builtin.call_range_of_reached {count : Nat} (below : ∀ k < count, (· + 1)^[k] start < stop)
    (reached : ¬(· + 1)^[count] start < stop) (enough : count ≤ machine.patience) :
    let made := store.newList ((List.iterate (· + 1) start count).map Value.number).toArray
    Builtin.range.call machine [.number start, .number stop] store =
      .ok (.list made.1) made.2 := by
  rw [call_range, numbersFrom?_eq_some below reached enough, Array.empty_append]
  rfl

theorem Builtin.call_range_of_endless (endless : ∀ k, (· + 1)^[k] start < stop) :
    Builtin.range.call machine [.number start, .number stop] store =
      .error (.failed (.endless .range)) store := by
  rw [call_range, numbersFrom?_eq_none endless]
  rfl

end Call

/-- A range from a number to another one ends if one step is enough to reach its end, or if it
    starts at most two below the whole numbers that all are floats and does not end beyond them.
    Then its numbers are listed. Else counting never reaches the end, and there is no result at
    all, whether or not the deadline has passed. -/
theorem range_ends_iff (machine : Machine) (enough : 2 ^ 56 ≤ machine.patience)
    (start stop : Float) (store : Store) :
    let range := Builtin.range.call machine [.number start, .number stop]
    let ends := ¬start + 1 < stop ∨ -9007199254740994 ≤ start ∧ stop ≤ 9007199254740992
    (ends → ∃ count, (∀ k < count, (· + 1)^[k] start < stop) ∧ ¬(· + 1)^[count] start < stop ∧
      let made := store.newList ((List.iterate (· + 1) start count).map Value.number).toArray
      range store = .ok (.list made.1) made.2) ∧
    (¬ends → (∀ k, (· + 1)^[k] start < stop) ∧
      range store = .error (.failed (.endless .range)) store) := by
  intro range ends
  constructor
  · intro ends
    obtain ⟨most, bounded, reached⟩ := Binary.exists_not_iterate_lt ends
    -- Any step that reaches the end bounds the first one that does.
    have stops : ∃ k, ¬(· + 1)^[k] start < stop := ⟨most, reached⟩
    have first : Nat.find stops ≤ most := Nat.find_min' stops reached
    have below : ∀ k < Nat.find stops, (· + 1)^[k] start < stop :=
      fun k less => not_not.mp (Nat.find_min stops less)
    exact ⟨Nat.find stops, below, Nat.find_spec stops,
      Builtin.call_range_of_reached below (Nat.find_spec stops) (by omega)⟩
  · intro endless
    have next : start + 1 < stop := not_not.mp fun one => endless (.inl one)
    have counts := Binary.iterate_lt next fun inside => endless (.inr inside)
    exact ⟨counts, Builtin.call_range_of_endless counts⟩

/-- The deadline has passed, but neither of these ranges is stopped: adding one changes neither a
    number whose successor is no float nor what is infinite. -/
theorem range_endless :
    let machine : Machine := { deadlinePassed := true }
    Builtin.range.call machine [.number 9007199254740992, .number 9007199254740994] {} =
        .error (.failed (.endless .range)) {} ∧
      Builtin.range.call machine [.number (-1 / 0), .number 0] {} =
        .error (.failed (.endless .range)) {} := by
  intro machine
  constructor
  · exact Builtin.call_range_of_endless (Binary.iterate_lt (by decide +kernel) (by decide +kernel))
  · exact Builtin.call_range_of_endless (Binary.iterate_lt (by decide +kernel) (by decide +kernel))

/-- A range of small numbers ends, and one from a number that is too large does not. -/
theorem range_ends_iff_default :
    2 ^ 56 ≤ ({} : Machine).patience ∧
    (∃ count, (∀ k < count, (· + 1)^[k] (1 : Float) < 3) ∧ ¬(· + 1)^[count] (1 : Float) < 3 ∧
      let made := ({} : Store).newList
        ((List.iterate (· + 1) (1 : Float) count).map Value.number).toArray
      Builtin.range.call {} [.number 1, .number 3] {} = .ok (.list made.1) made.2) ∧
    Builtin.range.call {} [.number 9007199254740992, .number 9007199254740994] {} =
      .error (.failed (.endless .range)) {} := by
  have enough : 2 ^ 56 ≤ ({} : Machine).patience := by decide
  exact ⟨enough, (range_ends_iff {} enough 1 3 {}).1 (by decide +kernel),
    ((range_ends_iff {} enough 9007199254740992 9007199254740994 {}).2 (by decide +kernel)).2⟩

end TreeMacros
