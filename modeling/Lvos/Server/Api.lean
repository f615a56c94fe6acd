import Lvos.Core.Content
import Lvos.Server.ChangeLog

set_option autoImplicit false

namespace Lvos.Server

open Lvos.Core Lvos.Sync

def maxSyncTextCharacters : Nat := 16384

def maxTranslationBytes : Nat := 65536

def maxProviderBytes : Nat := 128

/-- `Uuid::parse_str` of the `uuid` crate; every id reads back from its own text. -/
class UuidParser where
  parseStr : String → Option Uuid
  parse_text : ∀ id : Uuid, parseStr id.text = some id

export UuidParser (parseStr)

/-- A parser of the hyphenated form, for evaluating a concrete run. -/
@[reducible] def hyphenatedParser : UuidParser := ⟨Uuid.ofText, Uuid.ofText_text⟩

inductive SyncApiError
  | basic (error : RepositoryError)
  | invalid (message : String)
  | conflict (conflict : SyncConflict)
deriving DecidableEq, Repr

abbrev ApiResult (τ : Type) := Except SyncApiError τ

/-- A check of the endpoints; a failed one carries the message of
`SyncApiError::invalid`. -/
abbrev Checked := Except String Unit

def fromRepository : SyncRepositoryError → SyncApiError
  | .repository error => .basic error
  | .conflict conflict => .conflict conflict
  | .invalidEvent => .invalid "synchronization event is invalid"

def validateContentKey (value : String) : Checked :=
  match ContentKey.fromStr value with
  | .ok _ => .ok ()
  | .error _ => .error "content_key is invalid"

def validateEventId [UuidParser] (value : String) : Checked :=
  match parseStr value with
  | none => .error "event_id must be a UUIDv7"
  | some id =>
      if id.getVersionNum ≠ 7 then .error "event_id must be a UUIDv7" else .ok ()

/-- The last check of a Favorite snapshot: its translated fields. -/
def translatedFieldsAllowed (favorite : FavoriteSnapshot) : Bool :=
  favorite.translation.toList ≠ [] && favorite.translation.utf8ByteSize ≤ maxTranslationBytes &&
    favorite.provider.toList ≠ [] && favorite.provider.utf8ByteSize ≤ maxProviderBytes

section Validation

variable [ContentTables]

/-- The `FavoriteUpsert` arm of `validate_event`. -/
def validateSnapshot (event : PushEvent) (favorite : FavoriteSnapshot) : Checked :=
  match LanguageCode.parse favorite.sourceLang with
  | .error _ => .error "source language is invalid"
  | .ok sourceLang =>
      match LanguageCode.parse favorite.targetLang with
      | .error _ => .error "target language is invalid"
      | .ok _ =>
          match prepareContent favorite.sourceText sourceLang maxSyncTextCharacters with
          | .error _ => .error "favorite source text is invalid"
          | .ok prepared =>
              if prepared.contentKey.toHex ≠ event.contentKey ∨
                  prepared.keyVersion ≠ event.keyVersion ∨
                  prepared.kind.protocolName ≠ favorite.kind ∨
                  prepared.canonicalText ≠ favorite.canonicalText ∨
                  prepared.sourceLang.text ≠ favorite.sourceLang then
                .error "favorite content identity is inconsistent"
              else if translatedFieldsAllowed favorite then .ok ()
              else .error "favorite translated fields are invalid"

def validateOperation (event : PushEvent) : Checked :=
  match event.operation with
  | .favoriteUpsert =>
      match event.favorite with
      | none => .error "favorite snapshot is required"
      | some favorite => validateSnapshot event favorite
  | .favoriteDelete | .queryStatsUpsert =>
      if event.favorite.isSome then .error "favorite snapshot is not allowed"
      else .ok ()

def validateStats (event : PushEvent) : Checked :=
  match event.queryStats with
  | some stats =>
      if stats.queryCount = 0 ∨ stats.lastQueriedAt < stats.firstQueriedAt then
        .error "query statistics are invalid"
      else .ok ()
  | none =>
      if event.operation = .queryStatsUpsert then
        .error "query statistics are required"
      else .ok ()

variable [UuidParser]

def validateEvent (event : PushEvent) : Checked := do
  validateEventId event.eventId
  validateContentKey event.contentKey
  if event.keyVersion ≠ contentKeyVersion then
    .error "unsupported content key version"
  else
    validateOperation event
    validateStats event

def validateEvents : List PushEvent → Checked
  | [] => .ok ()
  | event :: rest => do
      validateEvent event
      validateEvents rest

variable {φ : Type} [DecidableEq φ] [EventFingerprint φ]

/-- The push endpoint of an authenticated principal. -/
def push (maxSyncEventsPerBatch : Nat) (db : ServerDb φ) (userId deviceId : String)
    (events : List PushEvent) (now : Int) : ServerDb φ × ApiResult PushResponse :=
  if events = [] ∨ maxSyncEventsPerBatch < events.length then
    (db, .error (.invalid "sync batch size is invalid"))
  else
    match validateEvents events with
    | .error message => (db, .error (.invalid message))
    | .ok _ =>
        match pushEvents db userId deviceId events now with
        | (db, .error reason) => (db, .error (fromRepository reason))
        | (db, .ok result) => (db, .ok result.value)

end Validation

/-- The changes endpoint: the page limit is checked before the read. -/
def changes {φ : Type} (syncChangesMaxLimit : Nat) (db : ServerDb φ) (userId : String)
    (since limit : Nat) : ApiResult ChangesResponse :=
  if limit = 0 ∨ syncChangesMaxLimit < limit then
    .error (.invalid "sync change page limit is invalid")
  else
    match changesSince db userId since limit with
    | .error reason => .error (fromRepository reason)
    | .ok page => .ok page

end Lvos.Server
