import TreeMacros.Proofs.Json.Reader
import TreeMacros.Proofs.Wire.Node
import TreeMacros.Wire.Exchange

/-! # Requests and responses survive the wire

As a document, and as a text, a request or a response reads as what was written, if it is nested
no deeper than the reader goes. Otherwise it does not read at all. The same holds of what a worker
is sent and of its flat reply.
-/

namespace TreeMacros

open Json

/-! ## Values in fields -/

theorem Wire.proper?_plain {α : Type} {json : Json} (plain : json.IsPlain) (limit : Nat)
    (read : Json → Option α) :
    Wire.proper? limit read json = if json.nesting ≤ limit then read json else none := by
  simp [Wire.proper?, isProper_eq json plain limit]

theorem Wire.fits_bind {α β : Type} (fits : Prop) [Decidable fits] (value : α)
    (next : α → Option β) :
    (if fits then some value else none).bind next = if fits then next value else none := by
  split <;> rfl

theorem Wire.strings?_map (texts : List String) :
    Wire.strings? (.array (texts.map .string)) = some texts := by
  simp [Wire.strings?, Json.items?, Function.comp_def, Json.string?, Wire.mapM_some]

theorem Wire.arePlain_map_string (texts : List String) : ArePlain (texts.map .string) :=
  arePlain_map .string (fun _ => trivial) texts

/-! ## Records -/

theorem Record.isPlain_toJson (record : Record) : record.toJson.IsPlain :=
  ⟨trivial, Wire.arePlain_map_string _, Node.arePlain_toJsonAll _, trivial⟩

theorem Record.struct?_toJson (record : Record) :
    Wire.struct? ["name", "params", "body"] record.toJson =
      some [some (.string record.name), some (.array (record.definition.params.map .string)),
        some (.array (Node.toJsonAll record.definition.body))] := by
  simp [Record.toJson, Wire.struct?, Wire.ofFields?, Wire.single?]

theorem Record.ofJson?_toJson (limit : Nat) (record : Record) :
    Record.ofJson? limit record.toJson =
      if record.toJson.nesting ≤ limit then some record else none := by
  have params : (Json.array (record.definition.params.map .string)).IsPlain :=
    Wire.arePlain_map_string _
  have body : (Json.array (Node.toJsonAll record.definition.body)).IsPlain :=
    Node.arePlain_toJsonAll _
  cases limit with
  | zero => simp [Record.ofJson?, Record.toJson, nesting]
  | succ limit =>
      simp only [Record.ofJson?, Record.struct?_toJson, Option.bind_eq_bind, Option.bind_some,
        Wire.proper?_plain params, Wire.proper?_plain body, Wire.strings?_map,
        Node.listOfJson?_toJsonAll, Json.string?, Wire.fits_bind, ← ite_and]
      refine if_congr ?_ rfl rfl
      simp only [Record.toJson, nesting, nestingFields]
      omega

/-- Records in an array read one by one. -/
theorem Record.listOfJson?_map (limit : Nat) (records : List Record) :
    Record.listOfJson? limit (.array (records.map Record.toJson)) =
      if (Json.array (records.map Record.toJson)).nesting ≤ limit then some records else none := by
  cases limit with
  | zero => simp [Record.listOfJson?, nesting]
  | succ limit =>
      simp only [Record.listOfJson?, Json.items?, Option.bind_some, nesting,
        Nat.add_le_add_iff_right]
      induction records with
      | nil => rfl
      | cons record rest ih =>
          simp only [List.map_cons, List.mapM_cons, Record.ofJson?_toJson, ih, nestingAll,
            Nat.max_le, Option.bind_eq_bind, Wire.fits_bind, ← ite_and]
          rfl

/-! ## Requests -/

theorem Request.isPlain_toJson (request : Request) : request.toJson.IsPlain :=
  ⟨request.target.isPlain_toJson, Node.arePlain_toJsonAll _,
    arePlain_map Record.toJson Record.isPlain_toJson _, trivial⟩

theorem Request.struct?_toJson (request : Request) :
    Wire.struct? ["target", "args", "registry"] request.toJson =
      some [some request.target.toJson, some (.array (Node.toJsonAll request.args)),
        some (.array (request.registry.map Record.toJson))] := by
  simp [Request.toJson, Wire.struct?, Wire.ofFields?, Wire.single?]

theorem Request.ofJson?_toJson (limit : Nat) (request : Request) :
    Request.ofJson? limit request.toJson =
      if request.toJson.nesting ≤ limit then some request else none := by
  have args : (Json.array (Node.toJsonAll request.args)).IsPlain := Node.arePlain_toJsonAll _
  cases limit with
  | zero => simp [Request.ofJson?, Request.toJson, nesting]
  | succ limit =>
      simp only [Request.ofJson?, Request.struct?_toJson, Option.bind_eq_bind, Option.bind_some,
        Record.ofJson?_toJson, Wire.proper?_plain args, Node.listOfJson?_toJsonAll,
        Option.elim_some, Record.listOfJson?_map, Wire.fits_bind, ← ite_and]
      refine if_congr ?_ rfl rfl
      simp only [Request.toJson, nesting, nestingFields]
      omega

/-- The text of a request reads as this request, unless it is nested too deeply to be read. -/
theorem Request.ofText?_print (request : Request) :
    Wire.ofText? Request.ofJson? request.toJson.print =
      if request.toJson.nesting ≤ Wire.textLimit then some request else none := by
  simp only [Wire.ofText?, read_print _ request.isPlain_toJson, Option.bind_some,
    Request.ofJson?_toJson]

/-! ## Responses -/

theorem Response.isPlain_toJson (response : Response) : response.toJson.IsPlain := by
  obtain ⟨ok, result, error⟩ := response
  cases result with
  | none =>
      cases error with
      | none => exact ⟨trivial, trivial⟩
      | some text => exact ⟨trivial, trivial, trivial⟩
  | some expansion =>
      cases error with
      | none => exact ⟨trivial, expansion.isPlain_toJson, trivial⟩
      | some text => exact ⟨trivial, expansion.isPlain_toJson, trivial, trivial⟩

theorem Response.struct?_toJson (response : Response) :
    Wire.struct? ["ok", "result", "error"] response.toJson =
      some [some (.bool response.ok), response.result.map Expansion.toJson,
        response.error.map .string] := by
  obtain ⟨ok, result, error⟩ := response
  cases result <;> cases error <;>
    simp [Response.toJson, Response.fields, Wire.struct?, Wire.ofFields?, Wire.single?]

theorem Wire.optional?_some {α : Type} {json : Json} (notNull : json ≠ .null)
    (read : Json → Option α) : Wire.optional? read (some json) = (read json).map some := by
  cases json with
  | null => exact absurd rfl notNull
  | bool _ | int _ | float _ | string _ | array _ | object _ | void => rfl

theorem Expansion.toJson_ne_null (expansion : Expansion) : expansion.toJson ≠ .null := by
  cases expansion with
  | node node =>
      obtain ⟨fields, isObject, -⟩ := node.toJson_eq_object
      simp [Expansion.toJson, isObject]
  | nodes nodes => simp [Expansion.toJson]

/-- The result of a response reads by itself: what is not there cannot be nested too deeply. -/
theorem Expansion.optional?_map (limit : Nat) (result : Option Expansion) :
    Wire.optional? (Wire.proper? limit Expansion.ofJson?) (result.map Expansion.toJson) =
      if ∀ expansion ∈ result, expansion.toJson.nesting ≤ limit then some result else none := by
  cases result with
  | none => simp [Wire.optional?]
  | some expansion =>
      simp only [Option.map_some, Wire.optional?_some expansion.toJson_ne_null,
        Wire.proper?_plain expansion.isPlain_toJson, Expansion.ofJson?_toJson, Option.mem_def,
        Option.some.injEq, forall_eq']
      split <;> rfl

theorem Response.nesting_toJson (response : Response) (limit : Nat) :
    response.toJson.nesting ≤ limit + 1 ↔
      ∀ expansion ∈ response.result, expansion.toJson.nesting ≤ limit := by
  obtain ⟨ok, result, error⟩ := response
  cases result <;> cases error <;> simp [Response.toJson, Response.fields, nesting, nestingFields]

theorem Response.optional?_error (error : Option String) :
    Wire.optional? Json.string? (error.map .string) = some error := by
  cases error <;> rfl

theorem Response.ofJson?_toJson (limit : Nat) (response : Response) :
    Response.ofJson? limit response.toJson =
      if response.toJson.nesting ≤ limit then some response else none := by
  cases limit with
  | zero => simp [Response.ofJson?, Response.toJson, nesting]
  | succ limit =>
      simp only [Response.ofJson?, Response.struct?_toJson, Option.bind_eq_bind, Option.bind_some,
        Response.ofValues?, Json.bool?, Expansion.optional?_map, Response.optional?_error,
        Wire.fits_bind, Response.nesting_toJson]
      rfl

theorem Response.ofText?_print (response : Response) :
    Wire.ofText? Response.ofJson? response.toJson.print =
      if response.toJson.nesting ≤ Wire.textLimit then some response else none := by
  simp only [Wire.ofText?, read_print _ response.isPlain_toJson, Option.bind_some,
    Response.ofJson?_toJson]

/-! ## Worker messages -/

theorem WorkerRequest.ofJson?_toJson (limit : Nat) (request : WorkerRequest) :
    WorkerRequest.ofJson? limit request.toJson =
      if request.toJson.nesting ≤ limit then some request else none := by
  have fields : Wire.struct? ["id", "payload"] request.toJson =
      some [some (.string request.id), some request.payload.toJson] := by
    simp [WorkerRequest.toJson, Wire.struct?, Wire.ofFields?, Wire.single?]
  cases limit with
  | zero => simp [WorkerRequest.ofJson?, WorkerRequest.toJson, nesting]
  | succ limit =>
      simp only [WorkerRequest.ofJson?, fields, Option.bind_eq_bind, Option.bind_some,
        Json.string?, Request.ofJson?_toJson, Wire.fits_bind]
      refine if_congr ?_ rfl rfl
      simp [WorkerRequest.toJson, nesting, nestingFields]

/-- The id of a reply stands beside the fields of the response and is none of them. -/
theorem WorkerReply.fields_toJson (reply : WorkerReply) :
    let fields := ("id", Json.string reply.id) :: reply.body.fields
    Wire.single? fields "id" = some (some (.string reply.id)) ∧
      Wire.ofFields? ["ok", "result", "error"] fields =
        Wire.ofFields? ["ok", "result", "error"] reply.body.fields := by
  obtain ⟨id, ok, result, error⟩ := reply
  cases result <;> cases error <;>
    simp [Response.fields, Wire.ofFields?, Wire.single?]

theorem WorkerReply.ofJson?_toJson (limit : Nat) (reply : WorkerReply) :
    WorkerReply.ofJson? limit reply.toJson =
      if reply.toJson.nesting ≤ limit then some reply else none := by
  have plain : reply.toJson.IsPlain := ⟨trivial, reply.body.isPlain_toJson⟩
  have nested : reply.toJson.nesting = reply.body.toJson.nesting := by
    simp [WorkerReply.toJson, Response.toJson, nesting, nestingFields]
  by_cases fits : reply.toJson.nesting ≤ limit
  · obtain ⟨id, others⟩ := reply.fields_toJson
    have values := reply.body.struct?_toJson
    have body := reply.body.ofJson?_toJson (limit + 1)
    simp only [Response.ofJson?, values, Option.bind_eq_bind, Option.bind_some,
      if_pos (Nat.le_succ_of_le (nested ▸ fits))] at body
    simp only [Response.toJson, Wire.struct?] at values
    simp only [WorkerReply.ofJson?, isProper_eq _ plain, fits, decide_true, if_true]
    simp only [WorkerReply.toJson, Json.fields?, id, others, values, body, Option.bind_eq_bind,
      Option.bind_some, Json.string?]
    rfl
  · simp [WorkerReply.ofJson?, isProper_eq _ plain, fits]

end TreeMacros
