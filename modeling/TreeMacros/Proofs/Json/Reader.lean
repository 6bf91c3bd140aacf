import TreeMacros.Proofs.Json.Lexer

/-! # Reading a written document

Recursive descent over the tokens of a document gives the document, and so the text that a plain
document is written as reads as this document.
-/

namespace TreeMacros.Json

/-- A document starts with no closing bracket. -/
theorem tokens_eq_cons (json : Json) :
    ∃ token rest, json.tokens = token :: rest ∧ token ≠ .closeArray ∧ token ≠ .closeObject := by
  cases json <;> exact ⟨_, _, rfl, nofun, nofun⟩

theorem itemTokens_eq_cons (item : Json) (items : List Json) :
    ∃ token rest, itemTokens (item :: items) = token :: rest ∧ token ≠ .closeArray := by
  obtain ⟨token, rest, starts, noArray, -⟩ := tokens_eq_cons item
  cases items with
  | nil => exact ⟨token, rest, by simp [itemTokens, starts], noArray⟩
  | cons next more => exact ⟨token, _, by simp [itemTokens, starts]; rfl, noArray⟩

theorem fieldTokens_eq_cons (field : String × Json) (fields : List (String × Json)) :
    ∃ rest, fieldTokens (field :: fields) = .quoted (some field.1) :: rest := by
  cases fields <;> exact ⟨_, rfl⟩

theorem ofFields_named (fields : List (String × Json)) :
    ofFields (fields.map fun field => (some field.1, field.2)) = .object fields := by
  have named : (fields.map fun field => (some field.1, field.2)).mapM
      (fun field : Option String × Json => field.1.map (·, field.2)) = some fields := by
    induction fields with
    | nil => rfl
    | cons field rest ih => simp [ih]
  simp [ofFields, named]

theorem readValue_array {fuel : Nat} {inside : List Token} {items : List Json} {rest : List Token}
    (opens : ∀ more, inside ≠ .closeArray :: more)
    (reads : readItems fuel inside = some (items, rest)) :
    readValue (fuel + 1) (.openArray :: inside) = some (.array items, rest) := by
  rw [readValue]
  · simp [reads]
  · exact opens

theorem readValue_object {fuel : Nat} {inside : List Token}
    {fields : List (Option String × Json)} {rest : List Token}
    (opens : ∀ more, inside ≠ .closeObject :: more)
    (reads : readFields fuel inside = some (fields, rest)) :
    readValue (fuel + 1) (.openObject :: inside) = some (ofFields fields, rest) := by
  rw [readValue]
  · simp [reads]
  · exact opens

mutual

/-- As much fuel as there are tokens is enough. -/
theorem readValue_tokens (json : Json) (rest : List Token) (fuel : Nat)
    (enough : json.tokens.length ≤ fuel) :
    readValue fuel (json.tokens ++ rest) = some (json, rest) := by
  -- Every document has a token, which uses up the first unit of fuel.
  obtain ⟨fuel, rfl⟩ : ∃ less, fuel = less + 1 := by
    obtain ⟨token, more, starts, -⟩ := tokens_eq_cons json
    rw [starts, List.length_cons] at enough
    exact ⟨fuel - 1, by omega⟩
  cases json with
  | null | bool _ | int _ | float _ | void | string _ => rfl
  | array items =>
      cases items with
      | nil => rfl
      | cons item items =>
          have inside : (itemTokens (item :: items)).length < fuel := by
            simp [tokens] at enough
            omega
          have opens : ∀ more, itemTokens (item :: items) ++ .closeArray :: rest ≠
              .closeArray :: more := by
            obtain ⟨token, tail, starts, noArray⟩ := itemTokens_eq_cons item items
            simp [starts, noArray]
          have reads := readItems_tokens item items rest fuel inside
          simpa [tokens] using readValue_array opens reads
  | object fields =>
      cases fields with
      | nil => rfl
      | cons field fields =>
          have inside : (fieldTokens (field :: fields)).length < fuel := by
            simp [tokens] at enough
            omega
          have opens : ∀ more, fieldTokens (field :: fields) ++ .closeObject :: rest ≠
              .closeObject :: more := by
            obtain ⟨tail, starts⟩ := fieldTokens_eq_cons field fields
            simp [starts]
          have reads := readFields_tokens field fields rest fuel inside
          have object := readValue_object opens reads
          rw [ofFields_named] at object
          simpa [tokens] using object
termination_by sizeOf json

theorem readItems_tokens (item : Json) (items : List Json) (rest : List Token) (fuel : Nat)
    (enough : (itemTokens (item :: items)).length < fuel) :
    readItems fuel (itemTokens (item :: items) ++ .closeArray :: rest) =
      some (item :: items, rest) := by
  obtain ⟨fuel, rfl⟩ : ∃ less, fuel = less + 1 := ⟨fuel - 1, by omega⟩
  cases items with
  | nil =>
      have first := readValue_tokens item (.closeArray :: rest) fuel (by
        simp [itemTokens] at enough
        omega)
      simp [readItems, itemTokens, first]
  | cons next items =>
      simp only [itemTokens, List.length_append, List.length_cons] at enough
      have first := readValue_tokens item
        (.comma :: (itemTokens (next :: items) ++ .closeArray :: rest)) fuel (by omega)
      have others := readItems_tokens next items rest fuel (by omega)
      simp [readItems, itemTokens, first, others]
termination_by sizeOf (item :: items)

theorem readFields_tokens (field : String × Json) (fields : List (String × Json))
    (rest : List Token) (fuel : Nat)
    (enough : (fieldTokens (field :: fields)).length < fuel) :
    readFields fuel (fieldTokens (field :: fields) ++ .closeObject :: rest) =
      some ((field :: fields).map fun field => (some field.1, field.2), rest) := by
  obtain ⟨fuel, rfl⟩ : ∃ less, fuel = less + 1 := ⟨fuel - 1, by omega⟩
  cases field with
  | mk name value =>
      cases fields with
      | nil =>
          have first := readValue_tokens value (.closeObject :: rest) fuel (by
            simp [fieldTokens] at enough
            omega)
          simp [readFields, fieldTokens, first]
      | cons next fields =>
          simp only [fieldTokens, List.length_append, List.length_cons] at enough
          have first := readValue_tokens value
            (.comma :: (fieldTokens (next :: fields) ++ .closeObject :: rest)) fuel (by omega)
          have others := readFields_tokens next fields rest fuel (by omega)
          simp [readFields, fieldTokens, first, others]
termination_by sizeOf (field :: fields)

end

/-- A plain document survives its text. -/
theorem read_print (json : Json) (plain : json.IsPlain) : read json.print = some json := by
  have reads := readValue_tokens json [] (2 * json.tokens.length) (by omega)
  rw [List.append_nil] at reads
  simp only [read, tokens?_print json plain, reads, Option.bind_eq_bind, Option.bind_some]

end TreeMacros.Json
