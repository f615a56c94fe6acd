import Lvos.Server.Auth
import Lvos.Sync.Wire

set_option autoImplicit false

namespace Lvos.Server

open Lvos.Core Lvos.Sync
open Json (object quoted number boolean null bytes textBytes bytes_object_cons
  bytes_object_single)

/-! The sync routes as they are served: the limit on the body, the extractor and the
answers. -/

/-- `LVOS_MAX_SYNC_BODY_BYTES` where it is not set. -/
def maxSyncBodyBytes : Nat := 1048576

structure HttpAnswer where
  status : Nat
  body : List UInt8
deriving DecidableEq, Repr

/-- The envelope of an error; that of a conflict has the fields of `ConflictBody`. -/
def ErrorResponse.json (response : ErrorResponse) : List Char :=
  object [("error",
    match response.conflict with
    | some conflict =>
        object [("code", quoted response.error.code), ("message", quoted response.error.message),
          ("event_id", (conflict.eventId.map quoted).getD null),
          ("current", (conflict.current.map FavoriteRecord.json).getD null),
          ("latest_revision", number conflict.latestRevision)]
    | none =>
        object ([("code", quoted response.error.code),
          ("message", quoted response.error.message)] ++
          optionalField "re_registration_supported"
            (response.error.reRegistrationSupported.map boolean)))]

/-- The bytes the fields of `ConflictBody` add to an error. -/
def conflictSize (conflict : SyncConflict) : Nat :=
  (conflict.eventId.map (fun eventId => textBytes eventId + 2)).getD 4 +
    (conflict.current.map FavoriteRecord.size).getD 4 + digits conflict.latestRevision + 42

def ErrorResponse.size (response : ErrorResponse) : Nat :=
  textBytes response.error.code + textBytes response.error.message + 34 +
    match response.conflict with
    | some conflict => conflictSize conflict
    | none =>
        (response.error.reRegistrationSupported.map (fun supported =>
          if supported then 33 else 34)).getD 0

theorem ErrorResponse.bytes_json (response : ErrorResponse) :
    bytes response.json = response.size := by
  have names : textBytes "error" = 5 ∧ textBytes "code" = 4 ∧ textBytes "message" = 7 ∧
      textBytes "event_id" = 8 ∧ textBytes "current" = 7 ∧ textBytes "latest_revision" = 15 ∧
      textBytes "re_registration_supported" = 25 := by
    decide
  have empty : bytes null = 4 := by decide
  unfold ErrorResponse.json ErrorResponse.size
  cases response.conflict with
  | none =>
      have flag : ∀ value : Bool, bytes (boolean value) = if value then 4 else 5 := by decide
      simp only [bytes_object_single]
      rw [bytes_object_optional (by simp)]
      cases response.error.reRegistrationSupported with
      | none => simp [bytes_object_cons, bytes_object_single, Json.bytes_quoted, names]; omega
      | some supported =>
          simp only [bytes_object_cons, bytes_object_single, Json.bytes_quoted, names,
            Option.map_some, Option.getD_some, flag]
          split <;> omega
  | some conflict =>
      have id : bytes ((conflict.eventId.map quoted).getD null) =
          (conflict.eventId.map (fun eventId => textBytes eventId + 2)).getD 4 := by
        cases conflict.eventId with
        | none => exact empty
        | some eventId => exact Json.bytes_quoted eventId
      have record : bytes ((conflict.current.map FavoriteRecord.json).getD null) =
          (conflict.current.map FavoriteRecord.size).getD 4 := by
        cases conflict.current with
        | none => exact empty
        | some current => exact current.bytes_json
      simp only [bytes_object_cons, bytes_object_single, Json.bytes_quoted, names, id, record,
        conflictSize]
      unfold digits
      omega

/-- The bytes an error answer takes. -/
def SyncApiError.answer (error : SyncApiError) : HttpAnswer :=
  ⟨error.intoResponse.error.status, Hex.utf8 error.intoResponse.json⟩

/-- `Json(value)` of a handler that succeeds. -/
def okAnswer (json : List Char) : HttpAnswer := ⟨200, Hex.utf8 json⟩

/-- The `Json` extractor of `axum`: the request, or the answer that rejects the body. -/
structure PushReader where
  fromRequest : List UInt8 → Except HttpAnswer (List PushEvent)

/-- A body that the client has written is read as what was written. -/
def PushReader.Reads (reader : PushReader) (events : List PushEvent) : Prop :=
  reader.fromRequest (Hex.utf8 (pushRequestJson events)) = .ok events

/-- What `RequestBodyLimitLayer` answers. -/
def lengthLimitExceeded : HttpAnswer := ⟨413, Hex.utf8 "length limit exceeded".toList⟩

theorem SyncApiError.answer_status (error : SyncApiError) : error.answer.status ≠ 413 := by
  cases error with
  | basic reason => cases reason <;> decide
  | invalid message => simp [SyncApiError.answer, SyncApiError.intoResponse, ApiError.invalidRequest]
  | conflict found => simp [SyncApiError.answer, SyncApiError.intoResponse]

section Routes

variable {φ : Type} [DecidableEq φ] [EventFingerprint φ] [ContentTables] [UuidParser]

/-- The push endpoint and the answer it is turned into. -/
def pushHandler (maxSyncEventsPerBatch : Nat) (db : ServerDb φ) (userId deviceId : String)
    (events : List PushEvent) (now : Int) : ServerDb φ × HttpAnswer :=
  match push maxSyncEventsPerBatch db userId deviceId events now with
  | (db, .ok response) => (db, okAnswer response.json)
  | (db, .error error) => (db, error.answer)

/-- The limit stands before the extractor, and the extractor before the handler. -/
def pushRoute (reader : PushReader) (maxSyncEventsPerBatch : Nat) (db : ServerDb φ)
    (userId deviceId : String) (body : List UInt8) (now : Int) : ServerDb φ × HttpAnswer :=
  if maxSyncBodyBytes < body.length then (db, lengthLimitExceeded)
  else
    match reader.fromRequest body with
    | .error rejection => (db, rejection)
    | .ok events => pushHandler maxSyncEventsPerBatch db userId deviceId events now

/-- The request of a changes page has no body. -/
def changesRoute (syncChangesMaxLimit : Nat) (db : ServerDb φ) (userId : String)
    (since limit : Nat) : HttpAnswer :=
  match changes syncChangesMaxLimit db userId since limit with
  | .ok page => okAnswer page.json
  | .error error => error.answer

theorem pushHandler_status (maxSyncEventsPerBatch : Nat) (db : ServerDb φ)
    (userId deviceId : String) (events : List PushEvent) (now : Int) :
    (pushHandler maxSyncEventsPerBatch db userId deviceId events now).2.status ≠ 413 := by
  unfold pushHandler
  split
  · simp [okAnswer]
  · exact SyncApiError.answer_status _

/-- The endpoint sees a request exactly when its body is within the limit. -/
theorem pushRoute_iff {reader : PushReader} {events : List PushEvent}
    (reads : reader.Reads events) (maxSyncEventsPerBatch : Nat) (db : ServerDb φ)
    (userId deviceId : String) (now : Int) :
    pushRoute reader maxSyncEventsPerBatch db userId deviceId
        (Hex.utf8 (pushRequestJson events)) now =
      pushHandler maxSyncEventsPerBatch db userId deviceId events now ↔
      pushRequestSize events ≤ maxSyncBodyBytes := by
  have size : (Hex.utf8 (pushRequestJson events)).length = pushRequestSize events :=
    bytes_pushRequest events
  unfold pushRoute
  rw [size, reads]
  split
  · rename_i above
    constructor
    · intro same
      have refused := pushHandler_status maxSyncEventsPerBatch db userId deviceId events now
      rw [← same] at refused
      exact absurd rfl refused
    · omega
  · constructor
    · omega
    · intro _
      rfl

end Routes

end Lvos.Server
