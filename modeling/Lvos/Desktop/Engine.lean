import Lvos.Server.Api
import Lvos.Storage.Sync

set_option autoImplicit false

namespace Lvos.Desktop

open Lvos.Core Lvos.Sync Lvos.Storage
open Lvos.Server (SyncConflict SyncApiError ApiResult)

def maxRetrySeconds : Nat := 300

def serverUnavailable : String := "server_unavailable"

inductive TransportError
  | offline
  | accessExpired
  | sessionInvalid
  | deviceRevoked
  | conflict (conflict : SyncConflict)
  | rejected
  | invalidResponse
  | incompatibleServer
deriving DecidableEq, Repr

def TransportError.text : TransportError → String
  | .offline => "the sync server is unavailable"
  | .accessExpired => "the access token expired"
  | .sessionInvalid => "the sync session is invalid"
  | .deviceRevoked => "the current device is revoked"
  | .conflict _ => "the Favorite revision conflicts with the server"
  | .rejected => "the sync server rejected the request"
  | .invalidResponse => "the sync server returned an invalid response"
  | .incompatibleServer => "the sync server requires a different Desktop/API version"

/-- The failure of the credential store is kept as the text it displays. -/
inductive SessionError
  | transport (error : TransportError)
  | credentialStore (message : String)
  | noPersistentSession
  | invalidCredential
deriving DecidableEq, Repr

def SessionError.text : SessionError → String
  | .transport error => "Server session failed: " ++ error.text
  | .credentialStore message => "Credential Store failed: " ++ message
  | .noPersistentSession => "no persistent Server session exists"
  | .invalidCredential => "the persistent Server credential is invalid"

def isOffline : SessionError → Bool
  | .transport .offline => true
  | _ => false

def isSessionHalted : SessionError → Bool
  | .transport .sessionInvalid | .transport .deviceRevoked => true
  | .noPersistentSession | .invalidCredential => true
  | _ => false

inductive SyncEngineError
  | database (reason : StorageError)
  | session (error : SessionError)
  | invalidResponse
  | clock
deriving DecidableEq, Repr

abbrev EngineResult (τ : Type) := Except SyncEngineError τ

/-- The acknowledgement the `HashMap` holds for an id. -/
def findAcknowledgement (acknowledgements : List PushAck) (eventId : String) : Option PushAck :=
  acknowledgements.reverse.find? (fun ack => ack.eventId = eventId)

def pairAcknowledgements (acknowledgements : List PushAck) :
    List (OutboxEvent × PushEvent) → EngineResult (List AcknowledgedEvent)
  | [] => .ok []
  | (event, sent) :: rest =>
      match findAcknowledgement acknowledgements event.eventId.text with
      | none => .error .invalidResponse
      | some acknowledgement => do
          let others ← pairAcknowledgements acknowledgements rest
          .ok (⟨event, acknowledgement, sent.queryStats.map QueryStatsSnapshot.queryCount⟩ ::
            others)

def matchAcknowledgements (events : List OutboxEvent) (sent : List PushEvent)
    (acknowledgements : List PushAck) : EngineResult (List AcknowledgedEvent) :=
  if events.length ≠ sent.length ∨ events.length ≠ acknowledgements.length then
    .error .invalidResponse
  else if (acknowledgements.map PushAck.eventId).dedup.length ≠ events.length then
    .error .invalidResponse
  else pairAcknowledgements acknowledgements (events.zip sent)

/-- The event of the batch a conflict answer is about. -/
def conflictedEvent (events : List OutboxEvent) (conflict : SyncConflict) : Option OutboxEvent :=
  match conflict.eventId.bind (fun id => events.find? (fun event => event.eventId.text = id)) with
  | some event => some event
  | none =>
      match events with
      | [event] => some event
      | _ => none

/-- The persisted backoff: exponential in the attempts, with a jitter taken from
the first event id. -/
def retryTimestamp (events : List OutboxEvent) (now : Int) : EngineResult Int :=
  let attempt := min ((events.map (fun event => event.attemptCount)).foldl max 0) 8
  let jitter := match events with
    | [] => 0
    | event :: _ => (event.eventId.bytes.getD 15 0).toNat % 3
  let seconds := now + (min (2 ^ (attempt + 1) + jitter) maxRetrySeconds : Nat)
  if i64Limit ≤ seconds then .error .clock else .ok seconds

/-- The database job of `push_events` that builds the request. -/
def buildEvents (db : ProfileDb) : List OutboxEvent → StorageResult (List PushEvent)
  | [] => .ok []
  | event :: rest => do
      let sent ← pushEvent db event
      let others ← buildEvents db rest
      .ok (sent :: others)

inductive PushDisposition
  | proceed
  | replayPrepared
  | manualConflict
  | retryAt (timestamp : Int)
  | halted (reason : String)
deriving DecidableEq, Repr

inductive SyncRunOutcome
  | idle
  | workRemaining
  | retryAt (timestamp : Int)
  | manualConflict
  | halted (reason : String)
deriving DecidableEq, Repr

/-- What a finished database job leaves, with its value or its failure. -/
def fromDatabase {τ ρ : Type} (finish : τ → ρ) (outcome : ProfileDb × StorageResult τ) :
    ProfileDb × EngineResult ρ :=
  match outcome with
  | (db, .ok value) => (db, .ok (finish value))
  | (db, .error reason) => (db, .error (.database reason))

/-- The part of `push_events` for a server that is not reached. -/
def retryLater (db : ProfileDb) (events : List OutboxEvent) (now : Int) :
    ProfileDb × EngineResult PushDisposition :=
  match retryTimestamp events now with
  | .error reason => (db, .error reason)
  | .ok retryAt => (markRetry db events retryAt serverUnavailable now, .ok (.retryAt retryAt))

theorem retryLater_cases (db : ProfileDb) (events : List OutboxEvent) (now : Int) :
    (∃ reason, retryLater db events now = (db, .error reason)) ∨
      ∃ retryAt, retryTimestamp events now = .ok retryAt ∧ retryLater db events now =
        (markRetry db events retryAt serverUnavailable now, .ok (.retryAt retryAt)) := by
  unfold retryLater
  cases retryTimestamp events now with
  | error reason => exact Or.inl ⟨reason, rfl⟩
  | ok retryAt => exact Or.inr ⟨retryAt, rfl, rfl⟩

theorem retryLater_delays {db next : ProfileDb} {events : List OutboxEvent} {now : Int}
    {disposition : PushDisposition}
    (settled : retryLater db events now = (next, .ok disposition)) :
    ∃ retryAt, disposition = .retryAt retryAt := by
  rcases retryLater_cases db events now with ⟨reason, failed⟩ | ⟨retryAt, -, later⟩
  · rw [failed] at settled
    cases settled
  · rw [later] at settled
    cases settled
    exact ⟨retryAt, rfl⟩

/-- A lost exchange marks its events for later, or leaves the profile as it is. -/
theorem retryLater_keeps {property : ProfileDb → Prop} {db : ProfileDb}
    {events : List OutboxEvent} {now : Int} (same : property db)
    (marked : ∀ retryAt, retryTimestamp events now = .ok retryAt →
      property (markRetry db events retryAt serverUnavailable now)) :
    property (retryLater db events now).1 := by
  rcases retryLater_cases db events now with ⟨reason, failed⟩ | ⟨retryAt, scheduled, later⟩
  · rw [failed]
    exact same
  · rw [later]
    exact marked retryAt scheduled

def ofResolution : ConflictResolution → PushDisposition
  | .converged => .proceed
  | .replayPrepared => .replayPrepared
  | .manualRetryRequired => .manualConflict

/-- The part of `push_events` after the answer to the request. -/
def settlePush (db : ProfileDb) (events : List OutboxEvent) (sent : List PushEvent)
    (reply : Except SessionError PushResponse) (now : Int) :
    ProfileDb × EngineResult PushDisposition :=
  match reply with
  | .ok response =>
      match matchAcknowledgements events sent response.acknowledgements with
      | .error reason => (db, .error reason)
      | .ok acknowledged =>
          fromDatabase (fun _ => .proceed) (acknowledgeEvents db acknowledged now)
  | .error (.transport (.conflict conflict)) =>
      match conflictedEvent events conflict with
      | none => (db, .error .invalidResponse)
      | some event => fromDatabase ofResolution (resolveConflict db event conflict.current now)
  | .error error =>
      if isOffline error then retryLater db events now
      else if isSessionHalted error then
        (setSyncError db error.text now, .ok (.halted error.text))
      else (db, .error (.session error))

section Pull

variable [ContentTables]

/-- One turn of the loop of `pull_all`: whether another page is asked for. -/
def pullPage (db : ProfileDb) (reply : Except SessionError ChangesResponse) (now : Int) :
    ProfileDb × EngineResult Bool :=
  match reply with
  | .error error =>
      if isOffline error then (setSyncError db serverUnavailable now, .ok false)
      else (setSyncError db error.text now, .error (.session error))
  | .ok response =>
      match applyRemotePage db response.changes response.nextRevision now with
      | (db, .error reason) => (db, .error (.database reason))
      | (db, .ok _) =>
          if !response.hasMore then (db, .ok false)
          else if response.latestRevision ≤ response.nextRevision then
            (db, .error .invalidResponse)
          else (db, .ok true)

end Pull

end Lvos.Desktop
