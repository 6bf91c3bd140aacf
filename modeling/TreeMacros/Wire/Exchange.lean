import TreeMacros.Json.Reader
import TreeMacros.Wire.Node

/-! # Requests and responses

What is sent to evaluate one macro elsewhere, and what comes back. A request carries the target,
its arguments and all other definitions, so that the far side can call them. A worker's request
and its reply carry the same id. A text is read with a limit on its nesting; what stands in
fields that are not known is not looked at.
-/

namespace TreeMacros

/-- A macro to run on arguments, with the definitions it may call. -/
structure Request where
  target : Record
  args : List Node
  registry : List Record
  deriving Repr, Inhabited

/-- How a request went. -/
structure Response where
  ok : Bool
  result : Option Expansion := none
  error : Option String := none
  deriving Repr, Inhabited

/-- A request to a worker. -/
structure WorkerRequest where
  id : String
  payload : Request
  deriving Repr, Inhabited

/-- A worker's reply. -/
structure WorkerReply where
  id : String
  body : Response
  deriving Repr, Inhabited

namespace Response

/-- The response with a result. -/
def success (result : Expansion) : Response where
  ok := true
  result := some result

/-- The response with an error text. -/
def failure (error : String) : Response where
  ok := false
  error := some error

/-- The response that reports an outcome. -/
def ofOutcome : Except Fault Expansion → Response
  | .ok result => success result
  | .error fault => failure fault.shown

end Response

/-! ## Writing -/

def Record.toJson (record : Record) : Json :=
  .object [("name", .string record.name),
    ("params", .array (record.definition.params.map .string)),
    ("body", .array (Node.toJsonAll record.definition.body))]

def Request.toJson (request : Request) : Json :=
  .object [("target", request.target.toJson), ("args", .array (Node.toJsonAll request.args)),
    ("registry", .array (request.registry.map Record.toJson))]

/-- The fields of a response; a result or an error that is none has no field. -/
def Response.fields (response : Response) : List (String × Json) :=
  ("ok", .bool response.ok) ::
    ((response.result.map fun result => ("result", result.toJson)).toList ++
      (response.error.map fun error => ("error", Json.string error)).toList)

def Response.toJson (response : Response) : Json :=
  .object response.fields

def WorkerRequest.toJson (request : WorkerRequest) : Json :=
  .object [("id", .string request.id), ("payload", request.payload.toJson)]

/-- The id stands among the fields of the response. -/
def WorkerReply.toJson (reply : WorkerReply) : Json :=
  .object (("id", .string reply.id) :: reply.body.fields)

/-! ## Reading

Each reader is given how deep arrays and objects may still be nested. -/

/-- A value that may be used, read from a proper document. -/
def Wire.proper? {α : Type} (limit : Nat) (read : Json → Option α) (json : Json) : Option α :=
  if json.isProper limit then read json else none

def Record.ofJson? (limit : Nat) (json : Json) : Option Record := do
  match limit, ← Wire.struct? ["name", "params", "body"] json with
  | limit + 1, [some name, some params, some body] =>
    let params ← Wire.proper? limit Wire.strings? params
    let body ← Wire.proper? limit Node.listOfJson? body
    return ⟨← name.string?, ⟨params, body⟩⟩
  | _, _ => none

/-- Records in an array. -/
def Record.listOfJson? (limit : Nat) (json : Json) : Option (List Record) :=
  match limit with
  | 0 => none
  | limit + 1 => json.items?.bind fun items => items.mapM (Record.ofJson? limit)

def Request.ofJson? (limit : Nat) (json : Json) : Option Request := do
  match limit, ← Wire.struct? ["target", "args", "registry"] json with
  | limit + 1, [some target, some args, registry] =>
    let target ← Record.ofJson? limit target
    let args ← Wire.proper? limit Node.listOfJson? args
    let registry ← registry.elim (some []) (Record.listOfJson? limit)
    return ⟨target, args, registry⟩
  | _, _ => none

/-- The response that the values of its fields make. -/
def Response.ofValues? (limit : Nat) : List (Option Json) → Option Response
  | [some ok, result, error] => do
    let ok ← ok.bool?
    let result ← Wire.optional? (Wire.proper? limit Expansion.ofJson?) result
    let error ← Wire.optional? Json.string? error
    return ⟨ok, result, error⟩
  | _ => none

def Response.ofJson? (limit : Nat) (json : Json) : Option Response := do
  match limit with
  | 0 => none
  | limit + 1 => Response.ofValues? limit (← Wire.struct? ["ok", "result", "error"] json)

def WorkerRequest.ofJson? (limit : Nat) (json : Json) : Option WorkerRequest := do
  match limit, ← Wire.struct? ["id", "payload"] json with
  | limit + 1, [some id, some payload] =>
    return ⟨← id.string?, ← Request.ofJson? limit payload⟩
  | _, _ => none

/-- A reply is read from an object only, and all of its fields are looked at. -/
def WorkerReply.ofJson? (limit : Nat) (json : Json) : Option WorkerReply := do
  if json.isProper limit then
    let fields ← json.fields?
    let id ← ← Wire.single? fields "id"
    let values ← Wire.ofFields? ["ok", "result", "error"] fields
    return ⟨← id.string?, ← Response.ofValues? limit values⟩
  else none

/-- How deep the arrays and objects of a text may be nested. -/
def Wire.textLimit : Nat := 127

/-- What a reader complains about when a text is no request or no response. The words are those of
    the library that a host reads texts with, so they are left to the host. -/
structure Wire.Complaints where
  request : String → String := fun _ => "cannot read request"
  response : String → String := fun _ => "cannot read response"

/-- What a text stands for on the wire. -/
def Wire.ofText? {α : Type} (read : Nat → Json → Option α) (text : String) : Option α :=
  (Json.read text).bind (read Wire.textLimit)

end TreeMacros
