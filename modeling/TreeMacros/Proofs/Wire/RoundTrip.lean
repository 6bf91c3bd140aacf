import TreeMacros.Pattern.Call
import TreeMacros.Proofs.Wire.Exchange

/-! # What is written reads as itself

Reading undoes writing, for nodes, for expansions and for each kind of message. A document has no
limit on its nesting, so a message reads with every limit that is not below how deep it is nested.
-/

namespace TreeMacros

/-- The pattern in a call to the matcher is the one that the call was made for. -/
theorem ofJson?_matchCall (expression : String) (pattern : Node) :
    ∃ text, matchCall expression pattern =
        matcherName ++ "(" ++ expression ++ ", " ++ text ++ ")" ∧
      (Json.read text).bind Node.ofJson? = some pattern := by
  refine ⟨pattern.toJson.print, rfl, ?_⟩
  rw [Json.read_print _ pattern.isPlain_toJson, Option.bind_some, pattern.ofJson?_toJson]

theorem reads_as_written :
    (∀ node : Node, Node.ofJson? node.toJson = some node) ∧
    (∀ expansion : Expansion, Expansion.ofJson? expansion.toJson = some expansion) ∧
    (∀ (request : Request) (limit : Nat), request.toJson.nesting ≤ limit →
      Request.ofJson? limit request.toJson = some request) ∧
    (∀ (response : Response) (limit : Nat), response.toJson.nesting ≤ limit →
      Response.ofJson? limit response.toJson = some response) ∧
    (∀ (request : WorkerRequest) (limit : Nat), request.toJson.nesting ≤ limit →
      WorkerRequest.ofJson? limit request.toJson = some request) ∧
    (∀ (reply : WorkerReply) (limit : Nat), reply.toJson.nesting ≤ limit →
      WorkerReply.ofJson? limit reply.toJson = some reply) ∧
    ∀ (expression : String) (pattern : Node), ∃ text,
      matchCall expression pattern = matcherName ++ "(" ++ expression ++ ", " ++ text ++ ")" ∧
        (Json.read text).bind Node.ofJson? = some pattern := by
  refine ⟨Node.ofJson?_toJson, Expansion.ofJson?_toJson, ?_, ?_, ?_, ?_, ofJson?_matchCall⟩
  · intro request limit fits
    rw [Request.ofJson?_toJson, if_pos fits]
  · intro response limit fits
    rw [Response.ofJson?_toJson, if_pos fits]
  · intro request limit fits
    rw [WorkerRequest.ofJson?_toJson, if_pos fits]
  · intro reply limit fits
    rw [WorkerReply.ofJson?_toJson, if_pos fits]

/-- Messages whose nodes are nested, some with places and some without, each read with the least
    limit that it fits. -/
theorem reads_as_written_located :
    let place : Span := ⟨⟨0, 1, 1⟩, ⟨18446744073709551615, 1, 8⟩⟩
    let sum : Node := .binop (.leaf .number "1" (some place)) "+" (.ident "x") (some place)
    let nested : Node := .bracket .square [.curly [sum, .string ""], sum] (some place)
    let request : Request :=
      ⟨⟨"m", ⟨["a"], [nested]⟩⟩, [nested, sum], [⟨"same", ⟨["a"], [.ident "a"]⟩⟩]⟩
    let sent : WorkerRequest := ⟨"m1", request⟩
    let response : Response := .success (.nodes [nested])
    let reply : WorkerReply := ⟨"m1", response⟩
    request.toJson.nesting = 11 ∧ Request.ofJson? 11 request.toJson = some request ∧
    sent.toJson.nesting = 12 ∧ WorkerRequest.ofJson? 12 sent.toJson = some sent ∧
    response.toJson.nesting = 10 ∧ Response.ofJson? 10 response.toJson = some response ∧
    reply.toJson.nesting = 10 ∧ WorkerReply.ofJson? 10 reply.toJson = some reply := by
  intro place sum nested request sent response reply
  have requestNesting : request.toJson.nesting = 11 := by decide
  have sentNesting : sent.toJson.nesting = 12 := by decide
  have responseNesting : response.toJson.nesting = 10 := by decide
  have replyNesting : reply.toJson.nesting = 10 := by decide
  obtain ⟨-, -, requests, responses, sentRequests, replies, -⟩ := reads_as_written
  exact ⟨requestNesting, requests request 11 requestNesting.le,
    sentNesting, sentRequests sent 12 sentNesting.le,
    responseNesting, responses response 10 responseNesting.le,
    replyNesting, replies reply 10 replyNesting.le⟩

end TreeMacros
