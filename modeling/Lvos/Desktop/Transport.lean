import Lvos.Desktop.Session
import Lvos.Server.Http

set_option autoImplicit false

namespace Lvos.Desktop

open Lvos.Sync
open Lvos.Server (SyncConflict ErrorResponse SyncApiError HttpAnswer okAnswer)

/-! The end of a request on the Device: the answer is read chunk by chunk and decoded. -/

def maxErrorBodyBytes : Nat := 65536

def maxJsonBodyBytes : Nat := 8 * 1024 * 1024

/-- `reqwest::Response`; a chunk that is missing is one the connection broke in. -/
structure HttpResponse where
  status : Nat
  contentLength : Option Nat
  chunks : List (Option (List UInt8))
deriving DecidableEq, Repr

/-- The loop of `bounded_response_body`. -/
def boundedChunks (limit : Nat) : List UInt8 → List (Option (List UInt8)) →
    Except TransportError (List UInt8)
  | body, [] => .ok body
  | _, none :: _ => .error .offline
  | body, some chunk :: rest =>
      if limit < body.length + chunk.length then .error .invalidResponse
      else boundedChunks limit (body ++ chunk) rest

def boundedResponseBody (response : HttpResponse) (limit : Nat) :
    Except TransportError (List UInt8) :=
  if response.contentLength.any (fun size => limit < size) then .error .invalidResponse
  else boundedChunks limit [] response.chunks

/-- `serde_json::from_slice` at the types the answers are read as. -/
structure AnswerReader where
  pushResponse : List UInt8 → Option PushResponse
  changesResponse : List UInt8 → Option ChangesResponse
  errorCode : List UInt8 → Option String
  conflict : List UInt8 → Option SyncConflict

/-- `response_error` on the bytes of an answer. -/
def readError (reader : AnswerReader) (response : HttpResponse) : TransportError :=
  if response.contentLength.any (fun size => maxErrorBodyBytes < size) then .invalidResponse
  else
    match boundedResponseBody response maxErrorBodyBytes with
    | .error error => error
    | .ok body =>
        -- A body without a code matches no arm that asks for one.
        responseError ⟨⟨response.status, (reader.errorCode body).getD "", "", none⟩,
          reader.conflict body⟩

def jsonResponse {τ : Type} (reader : AnswerReader) (read : List UInt8 → Option τ)
    (response : HttpResponse) : Except TransportError τ :=
  if 200 ≤ response.status ∧ response.status < 300 then
    match boundedResponseBody response maxJsonBodyBytes with
    | .error error => .error error
    | .ok body =>
        match read body with
        | some value => .ok value
        | none => .error .invalidResponse
  else .error (readError reader response)

/-- How a body that arrives whole is announced and cut into chunks. -/
structure Delivery where
  announced : Bool
  pieces : List UInt8 → List (List UInt8)
  whole : ∀ body, (pieces body).flatten = body

def Delivery.response (delivery : Delivery) (answer : HttpAnswer) : HttpResponse where
  status := answer.status
  contentLength := if delivery.announced then some answer.body.length else none
  chunks := (delivery.pieces answer.body).map some

theorem boundedChunks_pieces (limit : Nat) : ∀ (pieces : List (List UInt8)) (body : List UInt8),
    body.length ≤ limit → boundedChunks limit body (pieces.map some) =
      if limit < body.length + pieces.flatten.length then .error .invalidResponse
      else .ok (body ++ pieces.flatten) := by
  intro pieces
  induction pieces with
  | nil =>
      intro body within
      simp only [List.map_nil, boundedChunks, List.flatten_nil, List.length_nil,
        Nat.add_zero, List.append_nil]
      rw [if_neg (by omega)]
  | cons piece rest ih =>
      intro body within
      simp only [List.map_cons, boundedChunks, List.flatten_cons, List.length_append]
      by_cases above : limit < body.length + piece.length
      · rw [if_pos above, if_pos (by omega)]
      · rw [if_neg above, ih (body ++ piece) (by rw [List.length_append]; omega)]
        rw [List.length_append, List.append_assoc, Nat.add_assoc]

/-- However it is announced and cut, a body is read when it is within the limit. -/
theorem boundedResponseBody_delivered (delivery : Delivery) (answer : HttpAnswer) (limit : Nat) :
    boundedResponseBody (delivery.response answer) limit =
      if limit < answer.body.length then .error .invalidResponse else .ok answer.body := by
  unfold boundedResponseBody Delivery.response
  dsimp only
  rw [boundedChunks_pieces limit _ _ (Nat.zero_le _), delivery.whole, List.length_nil,
    Nat.zero_add, List.nil_append]
  by_cases above : limit < answer.body.length
  · rw [if_pos above, ite_self]
  · rw [if_neg above, if_neg]
    cases delivery.announced
    · simp
    · simpa using above

/-- An answer of the sync routes that the Device decodes as it was written. -/
structure AnswerReader.ReadsError (reader : AnswerReader) (error : SyncApiError) : Prop where
  code : reader.errorCode error.answer.body = some error.intoResponse.error.code
  conflict : ∀ found ∈ error.intoResponse.conflict,
    reader.conflict error.answer.body = some found

theorem responseError_read {reader : AnswerReader} {error : SyncApiError}
    (reads : reader.ReadsError error) :
    responseError ⟨⟨error.answer.status, (reader.errorCode error.answer.body).getD "", "", none⟩,
      reader.conflict error.answer.body⟩ = responseError error.intoResponse := by
  rw [reads.code, Option.getD_some]
  cases error with
  | basic reason =>
      cases reason <;>
        simp [responseError, SyncApiError.answer, SyncApiError.intoResponse,
          Server.ApiError.internal, Server.ApiError.fromRepository]
  | invalid message =>
      simp [responseError, SyncApiError.answer, SyncApiError.intoResponse,
        Server.ApiError.invalidRequest]
  | conflict found =>
      rw [reads.conflict found rfl]
      simp [responseError, SyncApiError.answer, SyncApiError.intoResponse]

theorem length_answer (error : SyncApiError) :
    error.answer.body.length = error.intoResponse.size :=
  error.intoResponse.bytes_json

theorem readError_delivered {reader : AnswerReader} {error : SyncApiError}
    (reads : reader.ReadsError error) (delivery : Delivery) :
    readError reader (delivery.response error.answer) =
      if maxErrorBodyBytes < error.intoResponse.size then .invalidResponse
      else responseError error.intoResponse := by
  have read := boundedResponseBody_delivered delivery error.answer maxErrorBodyBytes
  rw [length_answer] at read
  unfold readError
  rw [read]
  by_cases above : maxErrorBodyBytes < error.intoResponse.size
  · rw [if_pos above, if_pos above, ite_self]
  · rw [if_neg above, if_neg above, if_neg]
    · exact responseError_read reads
    · unfold Delivery.response
      rw [length_answer]
      cases delivery.announced
      · simp
      · simpa using above

theorem errorAnswer_fails (error : SyncApiError) :
    ¬ (200 ≤ error.answer.status ∧ error.answer.status < 300) := by
  cases error with
  | basic reason => cases reason <;> decide
  | invalid message =>
      simp [SyncApiError.answer, SyncApiError.intoResponse, Server.ApiError.invalidRequest]
  | conflict found => simp [SyncApiError.answer, SyncApiError.intoResponse]

/-- What a refused request comes to on the Device. -/
theorem jsonResponse_error {τ : Type} {reader : AnswerReader} {error : SyncApiError}
    (reads : reader.ReadsError error) (read : List UInt8 → Option τ) (delivery : Delivery) :
    jsonResponse reader read (delivery.response error.answer) =
      .error (if maxErrorBodyBytes < error.intoResponse.size then .invalidResponse
        else responseError error.intoResponse) := by
  unfold jsonResponse
  rw [if_neg (show ¬ (200 ≤ (delivery.response error.answer).status ∧
    (delivery.response error.answer).status < 300) from errorAnswer_fails error),
    readError_delivered reads delivery]

/-- What an answer of a handler comes to on the Device. -/
theorem jsonResponse_ok {τ : Type} (reader : AnswerReader) {read : List UInt8 → Option τ}
    {json : List Char} {value : τ} (reads : read (Hex.utf8 json) = some value)
    (delivery : Delivery) :
    jsonResponse reader read (delivery.response (okAnswer json)) =
      if maxJsonBodyBytes < Json.bytes json then .error .invalidResponse else .ok value := by
  have found := boundedResponseBody_delivered delivery (okAnswer json) maxJsonBodyBytes
  have success : (delivery.response (okAnswer json)).status = 200 := rfl
  have size : (okAnswer json).body.length = Json.bytes json := rfl
  have written : (okAnswer json).body = Hex.utf8 json := rfl
  unfold jsonResponse
  rw [success, if_pos (by decide), found, size]
  by_cases above : maxJsonBodyBytes < Json.bytes json
  · rw [if_pos above, if_pos above]
  · rw [if_neg above, if_neg above, written]
    simp only [reads]

end Lvos.Desktop
