import TreeMacros.Registry

/-! # Registries and their records

A registry that is rebuilt from its own records has its definitions in their old order and
nothing else: what is lost are the native macros, and only they.
-/

namespace TreeMacros

namespace Fields

variable {α : Type}

/-- A new name is set at the end. -/
theorem set_fresh {name : String} (value : α) {fields : Fields α} (fresh : name ∉ fields.names) :
    set name value fields = fields ++ [(name, value)] := by
  induction fields with
  | nil => rfl
  | cons head rest ih =>
      obtain ⟨key, old⟩ := head
      simp only [names, List.map_cons, List.mem_cons, not_or] at fresh
      have different : (key == name) = false := beq_false_of_ne fun same => fresh.1 same.symm
      simp only [set, different, Bool.false_eq_true, if_false, List.cons_append]
      exact congrArg _ (ih fresh.2)

end Fields

namespace Registry

theorem eq_of_entries {first second : Registry} (same : first.entries = second.entries) :
    first = second := by
  cases first
  cases second
  simpa using same

/-- The registry without its native macros. -/
def definitions (registry : Registry) : Registry where
  entries := registry.entries.filter (!·.2.isNative)
  distinct := registry.distinct.sublist (List.Sublist.map _ List.filter_sublist)

theorem definitions_eq_self {registry : Registry}
    (defined : ∀ field ∈ registry.entries, field.2.isNative = false) :
    registry.definitions = registry := by
  apply eq_of_entries
  exact List.filter_eq_self.mpr fun field member => by simp [defined field member]

/-- The registry with one more record registered. -/
def withRecord (registry : Registry) (record : Record) : Registry :=
  (registry.register record.name (.defined record.definition)).1

theorem importRecords_all (registry : Registry) (records : List Record) :
    registry.importRecords records none = (records.foldl withRecord registry, records.length) := by
  have everything : (records.filter fun record =>
      (none : Option (List String)).all (·.contains record.name)) = records :=
    List.filter_eq_self.mpr fun _ _ => rfl
  simp only [importRecords, everything]
  rfl

/-- What a record is registered as. -/
def fieldOf (record : Record) : String × Entry :=
  (record.name, .defined record.definition)

theorem map_fieldOf_records (registry : Registry) :
    registry.records.map fieldOf = registry.definitions.entries := by
  simp only [records, definitions]
  induction registry.entries with
  | nil => rfl
  | cons head rest ih =>
      obtain ⟨name, entry⟩ := head
      cases entry with
      | native run => simpa [Entry.definition?, Entry.isNative] using ih
      | defined definition => simpa [Entry.definition?, Entry.isNative, fieldOf] using ih

/-- Records of new and different names are registered behind what is there. -/
theorem entries_foldl_withRecord (records : List Record) (registry : Registry)
    (distinct : (registry.entries ++ records.map fieldOf).names.Nodup) :
    (records.foldl withRecord registry).entries = registry.entries ++ records.map fieldOf := by
  induction records generalizing registry with
  | nil => simp
  | cons record rest ih =>
      have fresh : record.name ∉ registry.entries.names := by
        intro member
        simp only [Fields.names, List.map_append, List.nodup_append, List.map_map] at distinct
        exact distinct.2.2 _ member record.name (by simp [fieldOf]) rfl
      have entries : (registry.withRecord record).entries = registry.entries ++ [fieldOf record] :=
        Fields.set_fresh _ fresh
      simp only [List.foldl_cons]
      rw [ih _ (by simpa [entries] using distinct), entries]
      simp

/-- The definitions survive as records, each with its place, and nothing else does. -/
theorem ofRecords_records (registry : Registry) :
    ofRecords registry.records = registry.definitions := by
  apply eq_of_entries
  simp only [ofRecords, importRecords_all]
  have imported := entries_foldl_withRecord registry.records {}
    (by simpa [map_fieldOf_records] using registry.definitions.distinct)
  simpa [map_fieldOf_records] using imported

end Registry

end TreeMacros
