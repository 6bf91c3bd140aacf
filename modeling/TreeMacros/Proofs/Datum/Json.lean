import Mathlib.Data.Option.Basic
import TreeMacros.Datum.Json
import TreeMacros.Pattern
import TreeMacros.Proofs.Decimal.Whole
import TreeMacros.Proofs.Registry.Records

/-! # Data read back

Data that came from a document can be written as one and read back. Nothing is lost but the sign of
a zero, which no comparison sees: an object has its traits and the order of its fields, and a number
that is written without a point is the float nearest to itself.
-/

namespace TreeMacros

/-! ## Documents and data that came from them -/

namespace Json

mutual

/-- Whether a document is one that data can be made of: its whole numbers fit a word, its other
    numbers are finite, and no object has two fields of one name. -/
def IsDocument : Json → Prop
  | null | bool _ | string _ => True
  | int value => -2 ^ 63 ≤ value ∧ value < 2 ^ 64
  | float value => value.isNaN = false ∧ value.isInf = false
  | array items => AreDocuments items
  | object fields => (Fields.names fields).Nodup ∧ HoldDocuments fields
  | void => False

def AreDocuments : List Json → Prop
  | [] => True
  | item :: rest => item.IsDocument ∧ AreDocuments rest

def HoldDocuments : Fields Json → Prop
  | [] => True
  | (_, value) :: rest => value.IsDocument ∧ HoldDocuments rest

end

end Json

namespace Datum

/-- The names that a document keeps for the traits of an object. -/
def traitKeys : List String :=
  [ctorKey, basesKey, matchArgsKey]

mutual

/-- Whether a datum can be written so that it reads back: its numbers are finite, and the fields of
    its objects have names of their own. -/
def IsStorable : Datum → Prop
  | null | bool _ | string _ => True
  | number value => value.isNaN = false ∧ value.isInf = false
  | list items => AreStorable items
  | object _ fields =>
    (Fields.names fields).Nodup ∧ (∀ name ∈ Fields.names fields, name ∉ traitKeys) ∧
      HoldStorable fields

def AreStorable : List Datum → Prop
  | [] => True
  | item :: rest => item.IsStorable ∧ AreStorable rest

def HoldStorable : List (String × Datum) → Prop
  | [] => True
  | (_, value) :: rest => value.IsStorable ∧ HoldStorable rest

end

mutual

/-- The datum with no sign on a zero. -/
def unsigned : Datum → Datum
  | number value => number (if value == 0 then 0 else value)
  | list items => list (unsignedAll items)
  | object traits fields => object traits (unsignedFields fields)
  | datum => datum

def unsignedAll : List Datum → List Datum
  | [] => []
  | item :: rest => item.unsigned :: unsignedAll rest

def unsignedFields : List (String × Datum) → List (String × Datum)
  | [] => []
  | (name, value) :: rest => (name, value.unsigned) :: unsignedFields rest

end

/-! ## Documents make storable data -/

theorem not_mem_traitKeys {name : String} : name ∉ traitKeys ↔
    (name == ctorKey) = false ∧ (name == basesKey) = false ∧ (name == matchArgsKey) = false := by
  simp [traitKeys]

/-- A field with a name of its own is kept behind the others. -/
theorem takeField_of_not_mem {name : String} (own : name ∉ traitKeys) (json : Json) (value : Datum)
    (traits : Traits) (fields : List (String × Datum)) :
    takeField name json value (traits, fields) = (traits, fields ++ [(name, value)]) := by
  obtain ⟨ctor, bases, matchArgs⟩ := not_mem_traitKeys.mp own
  simp only [takeField, ctor, bases, matchArgs, Bool.false_eq_true, if_false]

/-- A field under the name of a trait adds none. -/
theorem takeField_of_mem {name : String} (key : name ∈ traitKeys) (json : Json) (value : Datum)
    (object : Traits × List (String × Datum)) :
    (takeField name json value object).2 = object.2 := by
  unfold takeField
  dsimp only
  split
  · rfl
  · next noCtor =>
    split
    · rfl
    · next noBases =>
      split
      · rfl
      · next noMatchArgs =>
        refine absurd key (not_mem_traitKeys.mpr ⟨?_, ?_, ?_⟩) <;> rw [← Bool.not_eq_true] <;>
          assumption

theorem holdStorable_concat {fields : List (String × Datum)} {name : String} {value : Datum} :
    HoldStorable (fields ++ [(name, value)]) ↔ HoldStorable fields ∧ value.IsStorable := by
  induction fields with
  | nil => simp [HoldStorable]
  | cons field rest ih => simp [HoldStorable, ih, and_assoc]

/-- An object takes a field of a new name. -/
theorem isStorable_takeField {name : String} {value : Datum}
    {object : Traits × List (String × Datum)}
    (storable : (Datum.object object.1 object.2).IsStorable)
    (fresh : name ∉ Fields.names object.2) (stored : value.IsStorable) (json : Json) :
    let taken := takeField name json value object
    (Datum.object taken.1 taken.2).IsStorable ∧
      ∀ other ∈ Fields.names taken.2, other ∈ Fields.names object.2 ∨ other = name := by
  obtain ⟨distinct, own, values⟩ := storable
  obtain ⟨traits, fields⟩ := object
  by_cases key : name ∈ traitKeys
  · have same := takeField_of_mem key json value (traits, fields)
    simp only [IsStorable, same]
    exact ⟨⟨distinct, own, values⟩, fun _ => .inl⟩
  · rw [takeField_of_not_mem key]
    have added := Fields.set_fresh value fresh
    have names : Fields.names (fields ++ [(name, value)]) = Fields.names fields ++ [name] := by
      rw [← added, Fields.names_set, if_neg fresh]
    have apart := added ▸ Fields.nodup_names_set distinct name value
    rw [names] at apart
    simp only [IsStorable, names, List.mem_append, List.mem_singleton, holdStorable_concat]
    refine ⟨⟨apart, ?_, values, stored⟩, fun _ => id⟩
    · rintro other (mem | rfl)
      · exact own other mem
      · exact key

mutual

theorem isStorable_ofJson : ∀ {json : Json}, json.IsDocument → (ofJson json).IsStorable
  | .null, _ | .bool _, _ | .string _, _ => trivial
  | .int value, document => by
      have word : value.natAbs < 2 ^ 64 := by
        have bounds : -2 ^ 63 ≤ value ∧ value < 2 ^ 64 := document
        omega
      exact (Binary.finite_iff _).mpr (Binary.ofInt_finite word)
  | .float _, document => document
  | .array _, document => areStorable_ofJsonAll document
  | .object _, document =>
      isStorable_ofJsonFields document.2 ⟨List.nodup_nil, nofun, trivial⟩ document.1 nofun

theorem areStorable_ofJsonAll : ∀ {items : List Json}, Json.AreDocuments items →
    AreStorable (ofJsonAll items)
  | [], _ => trivial
  | _ :: _, documents => ⟨isStorable_ofJson documents.1, areStorable_ofJsonAll documents.2⟩

/-- Fields of new names are taken one after the other. -/
theorem isStorable_ofJsonFields : ∀ {fields : List (String × Json)}, Json.HoldDocuments fields →
    ∀ {done : Traits × List (String × Datum)}, (object done.1 done.2).IsStorable →
      (Fields.names fields).Nodup → (∀ name ∈ Fields.names done.2, name ∉ Fields.names fields) →
      (object (ofJsonFields fields done).1 (ofJsonFields fields done).2).IsStorable
  | [], _, _, storable, _, _ => storable
  | (name, json) :: rest, documents, done, storable, distinct, apart => by
      have fresh : name ∉ Fields.names done.2 := fun mem => apart name mem List.mem_cons_self
      obtain ⟨next, names⟩ :=
        isStorable_takeField storable fresh (isStorable_ofJson documents.1) json
      obtain ⟨first, distinct⟩ := List.nodup_cons.mp distinct
      refine isStorable_ofJsonFields documents.2 next distinct fun other mem => ?_
      obtain mem | rfl := names other mem
      · exact fun later => apart other mem (List.mem_cons_of_mem _ later)
      · exact first

end

/-! ## Reading what was written -/

variable {x : Float}

/-- A finite number reads back, but for the sign of a zero. -/
theorem ofJson_numberToJson (finite : x.isNaN = false ∧ x.isInf = false) :
    ofJson (numberToJson x) = number (if x == 0 then 0 else x) := by
  unfold numberToJson
  split
  · next n whole =>
    by_cases zero : n = 0
    · subst zero
      rw [if_pos (Binary.beq_zero_iff.mpr whole), if_pos (by decide)]
      rfl
    · have nonzero : ¬(x == 0) = true := fun equal =>
        zero (Option.some.inj (whole.symm.trans (Binary.beq_zero_iff.mp equal)))
      rw [if_neg nonzero]
      split
      · next small =>
        have short : n.natAbs < 2 ^ 53 := small.trans (by decide)
        exact congrArg number (Binary.ofInt_of_whole whole zero short)
      · rfl
  · next broken =>
    have nonzero : ¬(x == 0) = true := fun equal =>
      Option.some_ne_none _ ((Binary.beq_zero_iff.mp equal).symm.trans broken)
    rw [if_neg nonzero, finite.1, finite.2]
    rfl

/-- The texts of an array of texts are these. -/
theorem textsOf_texts (names : List String) :
    textsOf (.array (names.map Json.string)) = names := by
  simp [textsOf, Json.items?, List.filterMap_map, Function.comp_def, Json.string?]

theorem names_traitFields (traits : Traits) :
    ∀ name ∈ Fields.names (traitFields traits), name ∈ traitKeys := by
  obtain ⟨ctor, bases, matchArgs⟩ := traits
  cases ctor <;> cases bases <;> cases matchArgs <;>
    simp [traitFields, Fields.names, traitKeys]

theorem takeField_ctorKey (ctor : String) (value : Datum) (traits : Traits)
    (fields : List (String × Datum)) :
    takeField ctorKey (.string ctor) value (traits, fields) =
      ({ traits with ctor := some ctor }, fields) :=
  rfl

theorem takeField_basesKey (names : List String) (value : Datum) (traits : Traits)
    (fields : List (String × Datum)) :
    takeField basesKey (.array (names.map Json.string)) value (traits, fields) =
      ({ traits with bases := names }, fields) := by
  have other : (basesKey == ctorKey) = false := by decide
  simp only [takeField, other, beq_self_eq_true, Bool.false_eq_true, if_false, if_true,
    textsOf_texts]

theorem takeField_matchArgsKey (names : List String) (value : Datum) (traits : Traits)
    (fields : List (String × Datum)) :
    takeField matchArgsKey (.array (names.map Json.string)) value (traits, fields) =
      ({ traits with matchArgs := some names }, fields) := by
  have noCtor : (matchArgsKey == ctorKey) = false := by decide
  have noBases : (matchArgsKey == basesKey) = false := by decide
  simp only [takeField, noCtor, noBases, beq_self_eq_true, Bool.false_eq_true, if_false, if_true,
    textsOf_texts]

/-- The traits read back from their fields. What is absent is written under no name. -/
theorem ofJsonFields_traitFields (traits : Traits) (rest : List (String × Json)) :
    ofJsonFields (traitFields traits ++ rest) ({}, []) = ofJsonFields rest (traits, []) := by
  obtain ⟨ctor, bases, matchArgs⟩ := traits
  cases none : bases.isEmpty with
  | true =>
      obtain rfl := List.isEmpty_iff.mp none
      cases ctor <;> cases matchArgs <;>
        simp only [traitFields, Option.elim, List.isEmpty_nil, if_true, List.nil_append,
          List.append_nil, List.cons_append, ofJsonFields, takeField_ctorKey,
          takeField_matchArgsKey]
  | false =>
      cases ctor <;> cases matchArgs <;>
        simp only [traitFields, Option.elim, none, Bool.false_eq_true, if_false, List.nil_append,
          List.append_nil, List.cons_append, ofJsonFields, takeField_ctorKey, takeField_basesKey,
          takeField_matchArgsKey]

/-- Fields of new names are written one behind the other. -/
theorem toJsonFields_eq {fields : List (String × Datum)} {done : List (String × Json)}
    (distinct : (Fields.names fields).Nodup)
    (apart : ∀ name ∈ Fields.names fields, name ∉ Fields.names done) :
    toJsonFields fields done = done ++ fields.map fun field => (field.1, field.2.toJson) := by
  induction fields generalizing done with
  | nil => simp [toJsonFields]
  | cons field rest ih =>
      obtain ⟨name, value⟩ := field
      obtain ⟨first, distinct⟩ := List.nodup_cons.mp distinct
      have fresh : name ∉ Fields.names done := apart name List.mem_cons_self
      have next : Fields.names (done ++ [(name, value.toJson)]) = Fields.names done ++ [name] := by
        simp [Fields.names]
      rw [toJsonFields, Fields.set_fresh _ fresh, ih distinct, List.append_assoc]
      · rfl
      · intro other mem
        rw [next, List.mem_append, List.mem_singleton]
        rintro (earlier | rfl)
        · exact apart other (List.mem_cons_of_mem _ mem) earlier
        · exact first mem

mutual

/-- What is written reads back, but for the signs of zeros. -/
theorem ofJson_toJson : ∀ {datum : Datum}, datum.IsStorable →
    ofJson datum.toJson = datum.unsigned
  | null, _ | bool _, _ | string _, _ => rfl
  | number _, finite => ofJson_numberToJson finite
  | list _, storable => congrArg list (ofJsonAll_toJsonAll storable)
  | object traits fields, storable => by
      obtain ⟨distinct, own, values⟩ := storable
      rw [toJson, toJsonFields_eq distinct, ofJson, ofJsonFields_traitFields,
        ofJsonFields_toJson values own]
      · rfl
      · exact fun name mem key => own name mem (names_traitFields traits name key)

theorem ofJsonAll_toJsonAll : ∀ {items : List Datum}, AreStorable items →
    ofJsonAll (toJsonAll items) = unsignedAll items
  | [], _ => rfl
  | _ :: _, storable =>
      congrArg₂ List.cons (ofJson_toJson storable.1) (ofJsonAll_toJsonAll storable.2)

theorem ofJsonFields_toJson : ∀ {fields : List (String × Datum)}, HoldStorable fields →
    (∀ name ∈ Fields.names fields, name ∉ traitKeys) →
    ∀ {traits : Traits} {done : List (String × Datum)},
      ofJsonFields (fields.map fun field => (field.1, field.2.toJson)) (traits, done) =
        (traits, done ++ unsignedFields fields)
  | [], _, _, _, done => by simp [ofJsonFields, unsignedFields]
  | (name, value) :: rest, storable, own, traits, done => by
      have mine : name ∉ traitKeys := own name List.mem_cons_self
      have others : ∀ name ∈ Fields.names rest, name ∉ traitKeys :=
        fun other mem => own other (List.mem_cons_of_mem _ mem)
      rw [List.map_cons, ofJsonFields, takeField_of_not_mem mine, ofJson_toJson storable.1,
        ofJsonFields_toJson storable.2 others, List.append_assoc]
      rfl

end

/-! ## Data that are alike -/

mutual

theorem equal_unsigned : ∀ {datum : Datum}, datum.IsStorable → datum.unsigned.equal datum = true
  | null, _ => rfl
  | bool value, _ => by simp [unsigned, equal]
  | string value, _ => by simp [unsigned, equal]
  | number x, finite => by
      by_cases zero : (x == 0) = true
      · simp only [unsigned, equal, if_pos zero]
        obtain ⟨-, -, rfl | ⟨rfl, -⟩ | ⟨rfl, -⟩⟩ := Float.beq_iff_ne_nan_and_eq.mp zero <;>
          decide +kernel
      · have defined : x ≠ Float.nan := by
          have finite := finite.1
          rwa [Float.isNaN_eq_decide_eq_nan, decide_eq_false_iff_not] at finite
        simp only [unsigned, equal, if_neg zero]
        exact Float.beq_self_iff.mpr defined
  | list _, storable => equalAll_unsignedAll storable
  | object _ _, storable => by
      simp only [unsigned, equal, beq_self_eq_true, Bool.true_and]
      exact equalFields_unsignedFields storable.2.2

theorem equalAll_unsignedAll : ∀ {items : List Datum}, AreStorable items →
    equalAll (unsignedAll items) items = true
  | [], _ => rfl
  | _ :: _, storable => by
      simp only [unsignedAll, equalAll, equal_unsigned storable.1,
        equalAll_unsignedAll storable.2, Bool.and_self]

theorem equalFields_unsignedFields : ∀ {fields : List (String × Datum)}, HoldStorable fields →
    equalFields (unsignedFields fields) fields = true
  | [], _ => rfl
  | (_, _) :: _, storable => by
      simp only [unsignedFields, equalFields, beq_self_eq_true, equal_unsigned storable.1,
        equalFields_unsignedFields storable.2, Bool.and_self]

end

/-- What an object knows about itself; nothing else has traits. -/
def traits? : Datum → Option Traits
  | object traits _ => some traits
  | _ => none

/-- The names of an object's fields, in order. -/
def fieldNames : Datum → List String
  | object _ fields => Fields.names fields
  | _ => []

/-- The data right inside a datum: the items of a list, or the values of an object's fields. -/
def children : Datum → List Datum
  | list items => items
  | object _ fields => fields.map (·.2)
  | _ => []

/-- The datum at the end of a path that says at each level which child to go to. -/
def at? (datum : Datum) : List Nat → Option Datum
  | [] => some datum
  | place :: path => datum.children[place]?.bind fun child => child.at? path

/-- Two data that type forms see alike: their traits, the names of their fields in order, the names
    of their positions and their types are the same. -/
structure Alike (first second : Datum) : Prop where
  traits : first.traits? = second.traits?
  fieldNames : first.fieldNames = second.fieldNames
  positionalNames : first.positionalNames = second.positionalNames
  hasType : ∀ typeName, first.hasType typeName = second.hasType typeName

theorem unsignedAll_eq (items : List Datum) : unsignedAll items = items.map unsigned := by
  induction items with
  | nil => rfl
  | cons item rest ih => rw [unsignedAll, ih, List.map_cons]

theorem unsignedFields_eq (fields : List (String × Datum)) :
    unsignedFields fields = fields.map fun field => (field.1, field.2.unsigned) := by
  induction fields with
  | nil => rfl
  | cons field rest ih => rw [unsignedFields, ih, List.map_cons]

theorem children_unsigned (datum : Datum) :
    datum.unsigned.children = datum.children.map unsigned := by
  cases datum <;> simp [unsigned, children, unsignedAll_eq, unsignedFields_eq]

theorem at?_unsigned (path : List Nat) (datum : Datum) :
    datum.unsigned.at? path = (datum.at? path).map unsigned := by
  induction path generalizing datum with
  | nil => rfl
  | cons place path ih =>
      simp only [at?, children_unsigned, List.getElem?_map]
      cases datum.children[place]? with
      | none => rfl
      | some child => exact ih child

theorem whole?_unsigned (x : Float) :
    Binary.whole? (if x == 0 then 0 else x) = Binary.whole? x := by
  split
  · next zero =>
    have none : Binary.whole? 0 = some 0 := Binary.beq_zero_iff.mp (by decide +kernel)
    exact none.trans (Binary.beq_zero_iff.mp zero).symm
  · rfl

theorem alike_unsigned (datum : Datum) : Alike datum.unsigned datum := by
  cases datum with
  | null | bool | string => exact ⟨rfl, rfl, rfl, fun _ => rfl⟩
  | number x =>
      refine ⟨rfl, rfl, rfl, fun typeName => ?_⟩
      simp only [unsigned, hasType, number?, Option.bind_some, whole?_unsigned]
      rfl
  | list items =>
      refine ⟨rfl, rfl, ?_, fun _ => rfl⟩
      simp only [unsigned, positionalNames, unsignedAll_eq, List.length_map]
  | object traits fields =>
      have names : Fields.names (unsignedFields fields) = Fields.names fields := by
        simp [unsignedFields_eq, Fields.names]
      refine ⟨rfl, names, ?_, fun _ => rfl⟩
      exact congrArg traits.matchArgs.getD names

/-- Data that came from a document read back when they are written as one: they are equal, and at
    the end of every path they are alike. -/
theorem reads_back {json : Json} (document : json.IsDocument) :
    let datum := ofJson json
    let again := ofJson datum.toJson
    again.equal datum = true ∧
      ∀ path, Option.Rel Alike (again.at? path) (datum.at? path) := by
  intro datum again
  have storable : datum.IsStorable := isStorable_ofJson document
  have unsigned : again = datum.unsigned := ofJson_toJson storable
  rw [unsigned]
  refine ⟨equal_unsigned storable, fun path => ?_⟩
  rw [at?_unsigned]
  cases datum.at? path with
  | none => exact .none
  | some part => exact .some (alike_unsigned part)

/-- A positional order that is no array counts as an empty one, a zero loses its sign, and a number
    that no float is was rounded when it was read first. -/
theorem reads_back_nested :
    let json : Json := .object [(matchArgsKey, .string "x"), ("x", .array [.float (-0),
      .int 9007199254740993, .object [("y", .bool true), (ctorKey, .string "Point")]]),
      ("a", .null)]
    let datum := ofJson json
    let again := ofJson datum.toJson
    let withZero (zero : Float) : Datum :=
      .object { matchArgs := some [] } [("x", .list [.number zero, .number 9007199254740992,
        .object { ctor := some "Point" } [("y", .bool true)]]), ("a", .null)]
    json.IsDocument ∧ datum = withZero (-0) ∧ again = withZero 0 ∧
      again.equal datum = true ∧ ∀ path, Option.Rel Alike (again.at? path) (datum.at? path) := by
  intro json datum again withZero
  have zero : (Json.float (-0)).IsDocument := by
    show (-0 : Float).isNaN = false ∧ (-0 : Float).isInf = false
    decide +kernel
  have fits : (Json.int 9007199254740993).IsDocument := by
    show (-2 ^ 63 : Int) ≤ 9007199254740993 ∧ (9007199254740993 : Int) < 2 ^ 64
    decide
  have point : (Json.object [("y", .bool true), (ctorKey, .string "Point")]).IsDocument :=
    ⟨by decide, trivial, trivial, trivial⟩
  have document : json.IsDocument :=
    ⟨by decide, trivial, ⟨zero, fits, point, trivial⟩, trivial, trivial⟩
  have unsigned : again = withZero 0 := by
    have equal : ((-0 : Float) == 0) = true := by decide +kernel
    have apart : ((9007199254740992 : Float) == 0) = false := by decide +kernel
    have read : again = (withZero (-0)).unsigned := ofJson_toJson (isStorable_ofJson document)
    rw [read]
    simp only [withZero, Datum.unsigned, unsignedFields, unsignedAll, equal, apart, if_true,
      Bool.false_eq_true, if_false]
  exact ⟨document, rfl, unsigned, reads_back document⟩

end Datum

end TreeMacros
