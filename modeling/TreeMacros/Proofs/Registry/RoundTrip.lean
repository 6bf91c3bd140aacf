import TreeMacros.Proofs.Registry.History

/-! # What records bring back

A registry that goes out as records and comes back has lost its native macros and nothing else.
Records that came from anywhere may repeat a name: it stands where its first record stood, and its
last record says what it means. To take only some names from records is to take only their records.
-/

namespace TreeMacros

namespace Fields

variable {α : Type}

/-- Among names that are apart, to look a name up in some fields is to look it up in all of them and
    then to choose. -/
theorem lookup_filter {fields : Fields α} (distinct : fields.names.Nodup) (keep : α → Bool)
    (name : String) :
    List.lookup name (fields.filter fun field => keep field.2) =
      (fields.lookup name).filter keep := by
  induction fields with
  | nil => rfl
  | cons head rest ih =>
      obtain ⟨key, value⟩ := head
      obtain ⟨fresh, distinct⟩ := List.nodup_cons.mp distinct
      have later := ih distinct
      rw [List.lookup_cons]
      by_cases here : name = key
      · subst here
        have absent : rest.lookup name = none := by
          rw [lookup_eq_findIdx?, findIdx?_eq_names, findIdx?_names_eq_none.mpr fresh]
          rfl
        rw [absent] at later
        cases kept : keep value <;> simp [Option.filter, kept, later]
      · have other : (name == key) = false := beq_false_of_ne here
        cases kept : keep value <;> simp [kept, other, later, List.lookup_cons]

/-- Among names that are apart, a name means what stands under it. -/
theorem lookup_eq_some {fields : Fields α} (distinct : fields.names.Nodup) {name : String}
    {value : α} : fields.lookup name = some value ↔ (name, value) ∈ fields := by
  rw [List.lookup_eq_some_iff]
  constructor
  · rintro ⟨before, after, rfl, -⟩
    exact List.mem_append_right _ List.mem_cons_self
  · intro mem
    obtain ⟨before, after, rfl⟩ := List.append_of_mem mem
    rw [names, List.map_append, List.nodup_append] at distinct
    refine ⟨before, after, rfl, fun field earlier => ?_⟩
    have apart := distinct.2.2 field.1 (List.mem_map_of_mem earlier) name (by simp)
    simpa using apart.symm

end Fields

/-! ## A registry and its own records -/

namespace Registry

variable (registry : Registry)

theorem get?_definitions (name : String) :
    registry.definitions.get? name = (registry.get? name).filter (!·.isNative) :=
  Fields.lookup_filter registry.distinct (!·.isNative) name

theorem fieldOf_injective : Function.Injective fieldOf := by
  rintro ⟨name, definition⟩ ⟨name', definition'⟩ same
  cases same
  rfl

theorem records_definitions : registry.definitions.records = registry.records := by
  refine List.map_injective_iff.mpr fieldOf_injective ?_
  have defined : registry.definitions.definitions = registry.definitions :=
    definitions_eq_self fun field member => by simpa using (List.mem_filter.mp member).2
  rw [map_fieldOf_records, map_fieldOf_records, defined]

/-! ## Records from anywhere -/

theorem lookup_map_fieldOf (records : List Record) (name : String) :
    (records.map fieldOf).lookup name =
      (records.find? (·.name == name)).map fun record => .defined record.definition := by
  induction records with
  | nil => rfl
  | cons record rest ih =>
      rw [List.map_cons, fieldOf, List.lookup_cons, List.find?_cons, ih, BEq.comm]
      cases record.name == name <;> rfl

theorem recalls_ofRecords (records : List Record) :
    (ofRecords records).Recalls (records.map fieldOf) := by
  rw [ofRecords, importRecords_all]
  exact Recalls.empty.foldl_withRecord records

/-- The last record of a name says what it means. -/
theorem get?_ofRecords (records : List Record) (name : String) :
    (ofRecords records).get? name =
      (records.reverse.find? (·.name == name)).map fun record => .defined record.definition := by
  rw [(recalls_ofRecords records).newest, ← List.map_reverse, lookup_map_fieldOf]

theorem definitions_ofRecords (records : List Record) :
    (ofRecords records).definitions = ofRecords records := by
  refine definitions_eq_self fun field member => ?_
  have found := (Fields.lookup_eq_some (ofRecords records).distinct).mpr member
  rw [← get?, get?_ofRecords, Option.map_eq_some_iff] at found
  obtain ⟨record, -, defined⟩ := found
  rw [← defined]
  rfl

theorem names_ofRecords (records : List Record) :
    (ofRecords records).records.map (·.name) = (records.map (·.name)).eraseDups := by
  have listed := congrArg Fields.names (map_fieldOf_records (ofRecords records))
  rw [definitions_ofRecords, (recalls_ofRecords records).names] at listed
  simpa [Fields.names, fieldOf, Function.comp_def] using listed

theorem mem_records_ofRecords (records : List Record) (record : Record) :
    record ∈ (ofRecords records).records ↔
      records.reverse.find? (·.name == record.name) = some record := by
  rw [← List.mem_map_of_injective fieldOf_injective, map_fieldOf_records, definitions_ofRecords,
    fieldOf, ← Fields.lookup_eq_some (ofRecords records).distinct, ← get?, get?_ofRecords,
    Option.map_eq_some_iff]
  constructor
  · rintro ⟨last, found, same⟩
    have named : last.name = record.name := by simpa using List.find?_some found
    obtain ⟨name, definition⟩ := last
    obtain ⟨name', definition'⟩ := record
    cases same
    cases named
    exact found
  · exact fun found => ⟨record, found, rfl⟩

end Registry

/-- What a registry becomes that goes out as records and comes back: the same without its native
    macros, with the same records. Records from anywhere come back one for each name, where the
    name first stood and as its last record has it. To import only some names is to import their
    records only, and these are counted. -/
theorem records_bring_back (steps : List RegistryStep) (records : List Record)
    (only : List String) :
    let registry := IndexedRegistry.after steps
    let rebuilt := IndexedRegistry.ofRecords registry.records
    let made := IndexedRegistry.ofRecords records
    let named := records.filter fun record => only.contains record.name
    (rebuilt.slots.toList = registry.slots.toList.filter (!·.2.isNative) ∧
      (∀ name, rebuilt.get? name = (registry.get? name).filter (!·.isNative)) ∧
      rebuilt.records = registry.records) ∧
    (made.records.map (·.name) = (records.map (·.name)).eraseDups ∧
      ∀ record, record ∈ made.records ↔
        records.reverse.find? (·.name == record.name) = some record) ∧
    ∀ registry : IndexedRegistry,
      (registry.importRecords records (some only)).1 = (registry.importRecords named none).1 ∧
      (registry.importRecords records (some only)).2 = named.length := by
  intro registry rebuilt made named
  refine ⟨?_, ?_, fun target => ?_⟩
  · have inStep := Registry.isStoredAs_after steps
    have again : (Registry.after steps).definitions.IsStoredAs rebuilt := by
      rw [← Registry.ofRecords_records, ← inStep.records]
      exact Registry.isStoredAs_ofRecords _
    refine ⟨?_, fun name => ?_, ?_⟩
    · rw [inStep.entries]
      exact again.entries
    · rw [inStep.get?, ← Registry.get?_definitions]
      exact again.get? name
    · rw [inStep.records, ← Registry.records_definitions]
      exact again.records
  · have stored := (Registry.isStoredAs_ofRecords records).records
    rw [stored]
    exact ⟨Registry.names_ofRecords records, Registry.mem_records_ofRecords records⟩
  · have all (named : List Record) : chosenRecords none named = named :=
      List.filter_eq_self.mpr fun _ _ => rfl
    simp only [IndexedRegistry.importRecords_eq, all]
    exact ⟨rfl, rfl⟩

end TreeMacros
