import Lvos.Desktop.Transport
import Lvos.System.Pullable

set_option autoImplicit false

namespace Lvos.System

open Lvos.Core Lvos.Sync Lvos.Storage
open Lvos.Server (ServerDb EventFingerprint UuidParser ApiResult SyncApiError SyncConflict PushReader
  HttpAnswer maxSyncBodyBytes okAnswer pushRoute pushHandler changesRoute conflictSize)
open Desktop (TransportError SessionError AnswerReader Delivery maxErrorBodyBytes maxJsonBodyBytes
  jsonResponse readError responseError)
open Transition (run Meets run_congr_of_meets)

def defaultPushBatch : Nat := 100

def defaultPullPage : Nat := 200

/-- A Device of an account, and the server it synchronizes with. -/
structure Pairing (φ : Type) where
  client : ProfileDb
  server : ServerDb φ
deriving DecidableEq

/-- `request` is what another Device of the account asks for. -/
inductive PairingStep
  | call (call : Call)
  | request (request : ApiRequest)
  | push (now serverNow : Int)
  | pull (now : Int)

/-- The way of the engine's requests to the endpoints and back. -/
structure Network (φ : Type) where
  push : ServerDb φ → String → List PushEvent → Int →
    ServerDb φ × Except TransportError PushResponse
  changes : ServerDb φ → Nat → Nat → Except TransportError ChangesResponse

section Networks

variable {φ : Type} [DecidableEq φ] [EventFingerprint φ] [ContentTables] [UuidParser]

/-- The answers of the endpoints reach the engine as they are. -/
def Network.direct (account : Account) : Network φ where
  push := fun db deviceId events now =>
    let outcome := Server.push account.maxSyncEventsPerBatch db account.userId deviceId events now
    (outcome.1, outcome.2.mapError (fun error => responseError error.intoResponse))
  changes := fun db since limit =>
    (Server.changes account.syncChangesMaxLimit db account.userId since limit).mapError
      (fun error => responseError error.intoResponse)

/-- The requests and answers as bytes, with the limits on both sides. -/
def Network.http (account : Account) (requests : PushReader) (answers : AnswerReader)
    (delivery : Delivery) : Network φ where
  push := fun db deviceId events now =>
    let outcome := pushRoute requests account.maxSyncEventsPerBatch db account.userId deviceId
      (Hex.utf8 (pushRequestJson events)) now
    (outcome.1, jsonResponse answers answers.pushResponse (delivery.response outcome.2))
  changes := fun db since limit =>
    jsonResponse answers answers.changesResponse
      (delivery.response (changesRoute account.syncChangesMaxLimit db account.userId since limit))

/-- The ready events and the request built from them; `none` where there is nothing to send
or a stored event cannot be read. -/
def Pairing.batch (pairing : Pairing φ) (now : Int) :
    Option (List OutboxEvent × List PushEvent) :=
  match readyOutboxEvents pairing.client now defaultPushBatch with
  | .error _ | .ok [] => none
  | .ok (event :: rest) =>
      match Desktop.buildEvents pairing.client (event :: rest) with
      | .error _ => none
      | .ok sent => some (event :: rest, sent)

def Pairing.step (account : Account) (network : Network φ) (pairing : Pairing φ) :
    PairingStep → Option (Pairing φ)
  | .call call => some { pairing with client := call.perform pairing.client }
  | .request request =>
      some { pairing with
        server := answer account.maxSyncEventsPerBatch pairing.server request }
  | .push now serverNow =>
      match pairing.batch now with
      | none => some pairing
      | some (events, sent) =>
          let outcome := network.push pairing.server pairing.client.profileMeta.deviceId sent
            serverNow
          some
            { client := (Desktop.settlePush pairing.client events sent
                (outcome.2.mapError SessionError.transport) now).1
              server := outcome.1 }
  | .pull now =>
      let reply := network.changes pairing.server (cursorOf pairing.client) defaultPullPage
      some { pairing with
        client := (Desktop.pullPage pairing.client (reply.mapError SessionError.transport) now).1 }

/-- An answer the Device takes in whole. -/
def answerWithin {τ : Type} (size : τ → Nat) : ApiResult τ → Prop
  | .ok value => size value ≤ maxJsonBodyBytes
  | .error error => error.intoResponse.size ≤ maxErrorBodyBytes

instance answerWithin.decidable {τ : Type} (size : τ → Nat) (result : ApiResult τ) :
    Decidable (answerWithin size result) := by
  unfold answerWithin
  split <;> infer_instance

/-- The request and the answer of an exchange are no longer than the limits. -/
def WithinLimits (account : Account) (pairing : Pairing φ) : PairingStep → Prop
  | .push now serverNow =>
      match pairing.batch now with
      | none => True
      | some (_, sent) =>
          pushRequestSize sent ≤ maxSyncBodyBytes ∧
            answerWithin PushResponse.size (Server.push account.maxSyncEventsPerBatch
              pairing.server account.userId pairing.client.profileMeta.deviceId sent serverNow).2
  | .pull _ =>
      answerWithin ChangesResponse.size (Server.changes account.syncChangesMaxLimit
        pairing.server account.userId (cursorOf pairing.client) defaultPullPage)
  | _ => True

instance WithinLimits.decidable (account : Account) (pairing : Pairing φ)
    (action : PairingStep) : Decidable (WithinLimits account pairing action) := by
  unfold WithinLimits
  split
  · split <;> infer_instance
  · infer_instance
  · infer_instance

/-- An answer the Device decodes as it was written. -/
def answerRead {τ : Type} (answers : AnswerReader) (read : List UInt8 → Option τ)
    (json : τ → List Char) : ApiResult τ → Prop
  | .ok value => read (Hex.utf8 (json value)) = some value
  | .error error => answers.ReadsError error

/-- The messages of an exchange are decoded as they were written. -/
def Legibly (account : Account) (requests : PushReader) (answers : AnswerReader)
    (pairing : Pairing φ) : PairingStep → Prop
  | .push now serverNow =>
      match pairing.batch now with
      | none => True
      | some (_, sent) =>
          requests.Reads sent ∧
            answerRead answers answers.pushResponse PushResponse.json
              (Server.push account.maxSyncEventsPerBatch pairing.server account.userId
                pairing.client.profileMeta.deviceId sent serverNow).2
  | .pull _ =>
      answerRead answers answers.changesResponse ChangesResponse.json
        (Server.changes account.syncChangesMaxLimit pairing.server account.userId
          (cursorOf pairing.client) defaultPullPage)
  | _ => True

variable {account : Account} {requests : PushReader} {answers : AnswerReader}
  {delivery : Delivery}

theorem http_push_eq_direct {db : ServerDb φ} {deviceId : String} {events : List PushEvent}
    {now : Int} (reads : requests.Reads events)
    (read : answerRead answers answers.pushResponse PushResponse.json
      (Server.push account.maxSyncEventsPerBatch db account.userId deviceId events now).2)
    (request : pushRequestSize events ≤ maxSyncBodyBytes)
    (within : answerWithin PushResponse.size
      (Server.push account.maxSyncEventsPerBatch db account.userId deviceId events now).2) :
    (Network.http account requests answers delivery).push db deviceId events now =
      (Network.direct account).push db deviceId events now := by
  have routed := (Server.pushRoute_iff reads account.maxSyncEventsPerBatch db account.userId
    deviceId now).mpr request
  unfold Network.http Network.direct
  dsimp only
  rw [routed]
  unfold pushHandler
  cases outcome : Server.push account.maxSyncEventsPerBatch db account.userId deviceId events
      now with
  | mk next result =>
      rw [outcome] at read within
      cases result with
      | ok response =>
          have size : Json.bytes response.json ≤ maxJsonBodyBytes := by
            rw [response.bytes_json]
            exact within
          dsimp only
          rw [Desktop.jsonResponse_ok answers read delivery, if_neg (Nat.not_lt.mpr size)]
          rfl
      | error error =>
          dsimp only
          rw [Desktop.jsonResponse_error read answers.pushResponse delivery,
            if_neg (Nat.not_lt.mpr within)]
          rfl

theorem http_changes_eq_direct {db : ServerDb φ} {since limit : Nat}
    (read : answerRead answers answers.changesResponse ChangesResponse.json
      (Server.changes account.syncChangesMaxLimit db account.userId since limit))
    (within : answerWithin ChangesResponse.size
      (Server.changes account.syncChangesMaxLimit db account.userId since limit)) :
    (Network.http account requests answers delivery).changes db since limit =
      (Network.direct account).changes db since limit := by
  unfold Network.http Network.direct changesRoute
  dsimp only
  cases outcome : Server.changes account.syncChangesMaxLimit db account.userId since limit with
  | ok page =>
      rw [outcome] at read within
      have size : Json.bytes page.json ≤ maxJsonBodyBytes := by
        rw [page.bytes_json]
        exact within
      dsimp only
      rw [Desktop.jsonResponse_ok answers read delivery, if_neg (Nat.not_lt.mpr size)]
      rfl
  | error error =>
      rw [outcome] at read within
      dsimp only
      rw [Desktop.jsonResponse_error read answers.changesResponse delivery,
        if_neg (Nat.not_lt.mpr within)]
      rfl

theorem Pairing.step_http_eq_direct (delivery : Delivery) {pairing : Pairing φ}
    {action : PairingStep} (legible : Legibly account requests answers pairing action)
    (within : WithinLimits account pairing action) :
    pairing.step account (Network.http account requests answers delivery) action =
      pairing.step account (Network.direct account) action := by
  cases action with
  | call call => simp only [Pairing.step]
  | request request => simp only [Pairing.step]
  | push now serverNow =>
      simp only [Legibly] at legible
      simp only [WithinLimits] at within
      simp only [Pairing.step]
      cases sending : pairing.batch now with
      | none => simp only
      | some batch =>
          simp only [sending] at legible within ⊢
          rw [http_push_eq_direct legible.1 legible.2 within.1 within.2]
  | pull now =>
      simp only [Pairing.step]
      rw [http_changes_eq_direct legible within]

/-- A message passes the limit it meets exactly when its texts, as they are escaped, and its
numbers are no longer than the limit leaves room for; and in every run whose exchanges stay
within the limits, the Device and the server come to the states they would come to without
them. -/
theorem limits_leave_room (account : Account) (requests : PushReader) (answers : AnswerReader)
    (delivery : Delivery) :
    (∀ (events : List PushEvent) (db : ServerDb φ) (deviceId : String) (now : Int),
      requests.Reads events →
      (pushRoute requests account.maxSyncEventsPerBatch db account.userId deviceId
          (Hex.utf8 (pushRequestJson events)) now =
        pushHandler account.maxSyncEventsPerBatch db account.userId deviceId events now ↔
        pushRequestSize events ≤ maxSyncBodyBytes)) ∧
    (∀ page : ChangesResponse, answers.changesResponse (Hex.utf8 page.json) = some page →
      (jsonResponse answers answers.changesResponse (delivery.response (okAnswer page.json)) =
        .ok page ↔ page.size ≤ maxJsonBodyBytes)) ∧
    (∀ conflict : SyncConflict, answers.ReadsError (.conflict conflict) →
      (readError answers (delivery.response (SyncApiError.conflict conflict).answer) =
        .conflict conflict ↔ conflictSize conflict + 98 ≤ maxErrorBodyBytes)) ∧
    ∀ (pairing : Pairing φ) (actions : List PairingStep),
      Meets (Pairing.step account (Network.direct account))
        (Legibly account requests answers) pairing actions →
      Meets (Pairing.step account (Network.direct account)) (WithinLimits account) pairing
        actions →
      run (Pairing.step account (Network.http account requests answers delivery)) pairing
          actions =
        run (Pairing.step account (Network.direct account)) pairing actions := by
  refine ⟨?_, ?_, ?_, ?_⟩
  · intro events db deviceId now reads
    exact Server.pushRoute_iff reads account.maxSyncEventsPerBatch db account.userId deviceId now
  · intro page reads
    rw [Desktop.jsonResponse_ok answers reads delivery, page.bytes_json]
    split
    · rename_i above
      exact iff_of_false (by rintro ⟨⟩) (Nat.not_le.mpr above)
    · rename_i within
      exact iff_of_true rfl (Nat.not_lt.mp within)
  · intro conflict reads
    have size : (SyncApiError.conflict conflict).intoResponse.size = conflictSize conflict + 98 := by
      have texts : Json.textBytes "favorite_conflict" = 17 ∧
          Json.textBytes "the favorite revision conflicts with the server" = 47 := by
        decide
      simp only [SyncApiError.intoResponse, Server.ErrorResponse.size, texts]
      omega
    rw [Desktop.readError_delivered reads delivery, size]
    split
    · rename_i above
      exact iff_of_false (by rintro ⟨⟩) (Nat.not_le.mpr above)
    · rename_i within
      exact iff_of_true rfl (Nat.not_lt.mp within)
  · intro pairing actions legible within
    exact run_congr_of_meets
      (fun _ _ both => Pairing.step_http_eq_direct delivery both.1 both.2) actions pairing
      (legible.and within)

end Networks

section Pushes

variable {φ : Type} [DecidableEq φ] [EventFingerprint φ] [ContentTables] [UuidParser]
  {db : ServerDb φ} {userId deviceId : String} {event : PushEvent} {now : Int}

/-- The first event of a Favorite stores its snapshot. -/
theorem push_first {limit latest : Nat} {snapshot : FavoriteSnapshot} (room : limit ≠ 0)
    (valid : Server.validateEvent event = .ok ()) (user : db.users.get userId = some latest)
    (bounded : latest + 1 < i64Limit)
    (absent : db.favorites.get (userId, event.contentKey) = none)
    (unseen : db.processedSyncEvents.get (userId, event.eventId) = none)
    (upsert : event.operation = .favoriteUpsert) (base : event.baseEntityRevision = 0)
    (given : event.favorite = some snapshot) (uncounted : event.queryStats = none)
    (checked : Server.favoriteChecks event.contentKey
      ⟨event.keyVersion, snapshot, none, 1, now⟩ = true) :
    ∃ next, (Server.push limit db userId deviceId [event] now).1 = next ∧
      next.users.get userId = some (latest + 1) ∧
      next.favorites.get (userId, event.contentKey) =
        some ⟨event.keyVersion, snapshot, none, 1, now⟩ ∧
      next.deviceQueryStats = db.deviceQueryStats ∧
      ∀ other, other ≠ event.eventId → next.processedSyncEvents.get (userId, other) =
        db.processedSyncEvents.get (userId, other) := by
  have all : Server.validateEvents [event] = .ok () := by
    simp [Server.validateEvents, valid, bind, Except.bind]
  have small : latest + 1 < 9223372036854775808 := bounded
  simp [Server.push, room, all, Server.pushEvents, Server.pushBody, Server.pushLoop,
    Server.pushEvent, Server.processedAck, unseen, Server.applyEvent, Server.favoriteRecord,
    absent, Transaction.atomically, Server.checkBase, upsert, base, Server.applyEntity, given,
    Server.checkedSucc, Server.upsertFavorite, Server.toI64, checked, user, i64Limit, u64Limit,
    Server.applyStats, uncounted, Server.finishChange, Server.recordChange, Server.userRevision,
    Server.storeAck, Server.optionalI64, small, bind, Except.bind]
  intro other different
  exact Relational.Table.get_put_of_ne _ _ (by simpa using different)

/-- An event made on another revision is answered with the record the server holds. -/
theorem push_conflict {limit latest : Nat} {row : Server.FavoriteRow} (room : limit ≠ 0)
    (valid : Server.validateEvent event = .ok ()) (user : db.users.get userId = some latest)
    (held : db.favorites.get (userId, event.contentKey) = some row)
    (uncounted : Server.deviceStatsOf db userId event.contentKey = [])
    (unseen : db.processedSyncEvents.get (userId, event.eventId) = none)
    (upsert : event.operation = .favoriteUpsert)
    (stale : row.entityRevision ≠ event.baseEntityRevision) :
    Server.push limit db userId deviceId [event] now =
      (db, .error (.conflict ⟨some event.eventId,
        some (Server.recordOf event.contentKey row none), latest⟩)) := by
  have all : Server.validateEvents [event] = .ok () := by
    simp [Server.validateEvents, valid, bind, Except.bind]
  simp [Server.push, room, all, Server.pushEvents, Server.pushBody, Server.pushLoop,
    Server.pushEvent, Server.processedAck, unseen, Server.applyEvent, Server.favoriteRecord, held,
    Server.aggregateStats, uncounted, Transaction.atomically, Server.checkBase, upsert,
    Server.recordOf, stale, Server.conflictWith, Server.userRevision, user, bind, Except.bind,
    Server.fromRepository]

end Pushes

section Concrete

attribute [local instance] Sample.tables Sample.parser

theorem validateEvent_of_parts {event : PushEvent}
    (id : Server.validateEventId event.eventId = .ok ())
    (key : Server.validateContentKey event.contentKey = .ok ())
    (version : event.keyVersion = contentKeyVersion)
    (operation : Server.validateOperation event = .ok ())
    (stats : Server.validateStats event = .ok ()) : Server.validateEvent event = .ok () := by
  simp [Server.validateEvent, id, key, version, operation, stats, bind, Except.bind]

/-- Another translation that is allowed leaves a snapshot valid. -/
theorem validateSnapshot_translated {event : PushEvent} {favorite : FavoriteSnapshot}
    (valid : Server.validateSnapshot event favorite = .ok ()) (translation : String)
    (allowed : Server.translatedFieldsAllowed { favorite with translation := translation } = true) :
    Server.validateSnapshot event { favorite with translation := translation } = .ok () := by
  unfold Server.validateSnapshot at valid ⊢
  dsimp only
  split at valid
  · cases valid
  · split at valid
    · cases valid
    · split at valid
      · cases valid
      · split at valid
        · cases valid
        · rename_i consistent
          rw [if_neg consistent, if_pos allowed]

section Translated

variable {translation : String}

/-- The word with a translation, as another Device pushes it. -/
def translatedSnapshot (translation : String) : FavoriteSnapshot :=
  { giftRecord.favorite with translation := translation }

def translatedPush (translation : String) : PushEvent :=
  { giftPush (Sample.eventId 9).text 0 .favoriteUpsert with
    favorite := some (translatedSnapshot translation) }

theorem validateEvent_translated
    (allowed : Server.translatedFieldsAllowed (translatedSnapshot translation) = true) :
    Server.validateEvent (translatedPush translation) = .ok () := by
  have known : Server.validateSnapshot (giftPush (Sample.eventId 9).text 0 .favoriteUpsert)
      giftRecord.favorite = .ok () := by
    decide +kernel
  have id : Server.validateEventId (Sample.eventId 9).text = .ok () := by decide +kernel
  have key : Server.validateContentKey Sample.giftKey.toHex = .ok () := by decide +kernel
  exact validateEvent_of_parts id key rfl (validateSnapshot_translated known translation allowed)
    rfl

/-- Two Devices of a new account. -/
def accountServer : ServerDb PushEvent :=
  ServerDb.initial ["user"] [("user", "desk"), ("user", "phone")]

def newPairing : Pairing PushEvent :=
  ⟨ProfileDb.initial (Sample.eventId 0) "phone" 50, accountServer⟩

/-- The word is favorited on the Device and, with the translation, on another one. -/
def favoritedTwice (translation : String) : List PairingStep :=
  [.call (.query (Sample.gift 60) (Sample.eventId 1)),
    .call (.favorite Sample.giftKey 61 (Sample.eventId 2)),
    .request (.push "user" "desk" [translatedPush translation] 100)]

def favoritedPhone : ProfileDb :=
  (Call.favorite Sample.giftKey 61 (Sample.eventId 2)).perform
    ((Call.query (Sample.gift 60) (Sample.eventId 1)).perform newPairing.client)

def translatedServer (translation : String) : ServerDb PushEvent :=
  (Server.push 500 accountServer "user" "desk" [translatedPush translation] 100).1

/-- The Favorite as the Device sends it. -/
def phonePush : PushEvent :=
  { giftPush (Sample.eventId 2).text 0 .favoriteUpsert with
    favorite := some { giftRecord.favorite with favoritedAt := 61, updatedAt := 61 }
    queryStats := some ⟨1, 60, 60, 60⟩ }

/-- What the server answers to it. -/
def translatedConflict (translation : String) : SyncConflict :=
  ⟨some phonePush.eventId,
    some (Server.recordOf phonePush.contentKey
      ⟨1, translatedSnapshot translation, none, 1, 100⟩ none), 1⟩

theorem push_translatedConflict
    (allowed : Server.translatedFieldsAllowed (translatedSnapshot translation) = true) :
    Server.push 500 (translatedServer translation) "user" "phone" [phonePush] 103 =
      (translatedServer translation, .error (.conflict (translatedConflict translation))) := by
  have length : Sample.giftKey.toHex.length = 64 := by decide +kernel
  have checked : Server.favoriteChecks Sample.giftKey.toHex
      ⟨1, translatedSnapshot translation, none, 1, 100⟩ = true := by
    simp [Server.favoriteChecks, translatedSnapshot, giftRecord, length]
  have user : accountServer.users.get "user" = some 0 := by decide +kernel
  have absent : accountServer.favorites.get ("user", Sample.giftKey.toHex) = none := by
    decide +kernel
  have unseen : accountServer.processedSyncEvents.get ("user", (Sample.eventId 9).text) = none := by
    decide +kernel
  obtain ⟨next, pushed, counted, held, counts, processed⟩ := @push_first PushEvent _ _ _ _
    accountServer "user" "desk" (translatedPush translation) 100 500 0
    (translatedSnapshot translation) (by decide) (validateEvent_translated allowed) user
    (by decide) absent unseen rfl rfl rfl rfl checked
  have uncounted : Server.deviceStatsOf next "user" phonePush.contentKey = [] := by
    unfold Server.deviceStatsOf
    rw [counts]
    decide +kernel
  have fresh : next.processedSyncEvents.get ("user", phonePush.eventId) = none := by
    rw [processed phonePush.eventId (by
      show (Sample.eventId 2).text ≠ (Sample.eventId 9).text
      decide +kernel)]
    decide +kernel
  have valid : Server.validateEvent phonePush = .ok () := by decide +kernel
  unfold translatedServer
  rw [pushed]
  exact push_conflict (by decide) valid counted held uncounted fresh rfl
    (show (1 : Nat) ≠ 0 by decide)

/-- Readers of one message each. -/
def requestReader (events : List PushEvent) : PushReader where
  fromRequest := fun body =>
    if body = Hex.utf8 (pushRequestJson events) then .ok events else .error ⟨422, []⟩

def conflictReader (conflict : SyncConflict) : AnswerReader where
  pushResponse := fun _ => none
  changesResponse := fun _ => none
  errorCode := fun body =>
    if body = (SyncApiError.conflict conflict).answer.body then some "favorite_conflict" else none
  conflict := fun body =>
    if body = (SyncApiError.conflict conflict).answer.body then some conflict else none

theorem requestReader_reads (events : List PushEvent) :
    (requestReader events).Reads events := by
  simp [PushReader.Reads, requestReader]

theorem conflictReader_reads (conflict : SyncConflict) :
    (conflictReader conflict).ReadsError (.conflict conflict) where
  code := by simp [conflictReader, SyncApiError.intoResponse]
  conflict := by
    intro found given
    simpa [conflictReader, SyncApiError.intoResponse] using given

/-- The body arrives announced and in one chunk. -/
def atOnce : Delivery := ⟨true, fun body => [body], fun _ => by simp⟩

/-- The network of the two Devices, with the readers of their messages. -/
def conflictNetwork (translation : String) : Network PushEvent :=
  Network.http Sample.account (requestReader [phonePush])
    (conflictReader (translatedConflict translation)) atOnce

/-- The body of a conflict is longer than the translation in it. -/
theorem translation_within_conflict (conflict : SyncConflict) {record : FavoriteRecord}
    (current : conflict.current = some record) :
    Json.textBytes record.favorite.translation <
      (SyncApiError.conflict conflict).intoResponse.size := by
  simp only [SyncApiError.intoResponse, Server.ErrorResponse.size, conflictSize, current,
    Option.map_some, Option.getD_some, FavoriteRecord.size, FavoriteSnapshot.size]
  omega

variable (allowed : Server.translatedFieldsAllowed (translatedSnapshot translation) = true)
  (long : maxErrorBodyBytes ≤ Json.textBytes translation)

include allowed long

/-- The conflict about a long translation is not read. -/
theorem conflict_not_read :
    (conflictNetwork translation).push (translatedServer translation) "phone" [phonePush] 103 =
      (translatedServer translation, .error .invalidResponse) := by
  have small : pushRequestSize [phonePush] ≤ maxSyncBodyBytes := by decide
  have routed := (Server.pushRoute_iff (requestReader_reads [phonePush]) 500
    (translatedServer translation) "user" "phone" 103).mpr small
  have handled : pushHandler 500 (translatedServer translation) "user" "phone" [phonePush] 103 =
      (translatedServer translation,
        (SyncApiError.conflict (translatedConflict translation)).answer) := by
    unfold pushHandler
    rw [push_translatedConflict allowed]
  have size := translation_within_conflict (translatedConflict translation) rfl
  have reported := Desktop.jsonResponse_error
    (conflictReader_reads (translatedConflict translation))
    (conflictReader (translatedConflict translation)).pushResponse atOnce
  rw [if_pos (Nat.lt_of_le_of_lt long size)] at reported
  unfold conflictNetwork Network.http
  dsimp only [Sample.account]
  rw [routed, handled]
  dsimp only
  rw [reported]

/-- The Device sends its event, and nothing changes on either side. -/
theorem conflict_changes_nothing :
    (Pairing.mk favoritedPhone (translatedServer translation)).step Sample.account
      (conflictNetwork translation) (.push 102 103) =
        some ⟨favoritedPhone, translatedServer translation⟩ := by
  have sending : ((Pairing.mk favoritedPhone accountServer).batch 102).any (fun batch =>
      batch.2 = [phonePush]) = true := by
    decide
  obtain ⟨⟨events, sent⟩, found, same⟩ := (Option.any_eq_true _ _).mp sending
  have built : sent = [phonePush] := of_decide_eq_true same
  subst built
  have batch : (Pairing.mk favoritedPhone (translatedServer translation)).batch 102 =
      some (events, [phonePush]) := found
  have device : favoritedPhone.profileMeta.deviceId = "phone" := by decide
  simp only [Pairing.step, batch, device, conflict_not_read allowed long]
  simp [Except.mapError, Desktop.settlePush, Desktop.isOffline, Desktop.isSessionHalted]

theorem conflict_never_reported :
    Server.validateEvent (translatedPush translation) = .ok () ∧
    Server.validateEvent phonePush = .ok () ∧
    run (Pairing.step Sample.account (conflictNetwork translation)) newPairing
      (favoritedTwice translation) = some ⟨favoritedPhone, translatedServer translation⟩ ∧
    ((Network.direct Sample.account).push (translatedServer translation) "phone" [phonePush]
      103).2 = .error (.conflict (translatedConflict translation)) ∧
    ((conflictNetwork translation).push (translatedServer translation) "phone" [phonePush]
      103).2 = .error .invalidResponse ∧
    ∀ attempts, run (Pairing.step Sample.account (conflictNetwork translation))
      ⟨favoritedPhone, translatedServer translation⟩
      (List.replicate attempts (.push 102 103)) =
        some ⟨favoritedPhone, translatedServer translation⟩ := by
  refine ⟨validateEvent_translated allowed, by decide +kernel, rfl, ?_, ?_, ?_⟩
  · unfold Network.direct
    dsimp only [Sample.account]
    rw [push_translatedConflict allowed]
    rfl
  · rw [conflict_not_read allowed long]
  · intro attempts
    induction attempts with
    | zero => rfl
    | succ attempts ih =>
        rw [List.replicate_succ]
        unfold run
        rw [conflict_changes_nothing allowed long]
        exact ih

end Translated

/-- A translation of the length `validate_event` allows. -/
def longText : String := String.ofList (List.replicate Server.maxTranslationBytes 'a')

theorem longText_allowed :
    Server.translatedFieldsAllowed (translatedSnapshot longText) = true := by
  have written : longText.toList ≠ [] := by
    unfold longText
    rw [String.toList_ofList]
    intro empty
    have length := congrArg List.length empty
    rw [List.length_replicate] at length
    exact absurd length (by decide)
  have size : longText.utf8ByteSize = Server.maxTranslationBytes := by
    have letter : 'a'.utf8Size = 1 := by decide
    unfold longText
    rw [Json.utf8ByteSize_replicate, letter, Nat.mul_one]
  have provider : giftRecord.favorite.provider.toList ≠ [] ∧
      giftRecord.favorite.provider.utf8ByteSize ≤ Server.maxProviderBytes := by
    decide
  simp [Server.translatedFieldsAllowed, translatedSnapshot, written, size, provider]

theorem longText_bytes : maxErrorBodyBytes ≤ Json.textBytes longText := by
  have letter : Json.escapedBytes 'a' = 1 := by decide
  unfold longText
  rw [Json.textBytes_replicate, letter, Nat.mul_one]
  exact Nat.le_refl _

/-- Both Devices have a valid Favorite of the word. The server answers the second one with a
conflict, which the Device never sees: every attempt ends with an invalid response and leaves
both sides as they are. -/
theorem large_conflict_is_never_reported :
    Server.validateEvent (translatedPush longText) = .ok () ∧
    Server.validateEvent phonePush = .ok () ∧
    run (Pairing.step Sample.account (conflictNetwork longText)) newPairing
      (favoritedTwice longText) = some ⟨favoritedPhone, translatedServer longText⟩ ∧
    ((Network.direct Sample.account).push (translatedServer longText) "phone" [phonePush] 103).2 =
      .error (.conflict (translatedConflict longText)) ∧
    ((conflictNetwork longText).push (translatedServer longText) "phone" [phonePush] 103).2 =
      .error .invalidResponse ∧
    ∀ attempts, run (Pairing.step Sample.account (conflictNetwork longText))
      ⟨favoritedPhone, translatedServer longText⟩ (List.replicate attempts (.push 102 103)) =
        some ⟨favoritedPhone, translatedServer longText⟩ :=
  conflict_never_reported longText_allowed longText_bytes

/-- The word is queried, favorited, pushed and pulled. -/
def favoritedOnce : List PairingStep :=
  [.call (.query (Sample.gift 60) (Sample.eventId 1)),
    .call (.favorite Sample.giftKey 61 (Sample.eventId 2)), .push 102 103, .pull 104]

/-- The acknowledgement of the word, and the page with its change. -/
def phoneResponse : PushResponse :=
  ⟨[⟨phonePush.eventId, .applied, some 1, 1, some ⟨1, 60, 60⟩⟩], 1⟩

def phonePage : ChangesResponse :=
  ⟨[⟨1, .favoriteUpsert, Server.recordOf phonePush.contentKey
    ⟨1, { giftRecord.favorite with favoritedAt := 61, updatedAt := 61 }, none, 1, 103⟩
    (some ⟨1, 60, 60⟩)⟩], 1, 1, false⟩

def wordReader : AnswerReader where
  pushResponse := fun body =>
    if body = Hex.utf8 phoneResponse.json then some phoneResponse else none
  changesResponse := fun body => if body = Hex.utf8 phonePage.json then some phonePage else none
  errorCode := fun _ => none
  conflict := fun _ => none

/-- Nothing else is sent. -/
def KnownMessages (pairing : Pairing PushEvent) : PairingStep → Prop
  | .push now serverNow =>
      match pairing.batch now with
      | none => True
      | some (_, sent) =>
          sent = [phonePush] ∧
            (Server.push 500 pairing.server "user" pairing.client.profileMeta.deviceId sent
              serverNow).2 = .ok phoneResponse
  | .pull _ =>
      Server.changes 500 pairing.server "user" (cursorOf pairing.client) defaultPullPage =
        .ok phonePage
  | _ => True

instance KnownMessages.decidable (pairing : Pairing PushEvent) (action : PairingStep) :
    Decidable (KnownMessages pairing action) := by
  unfold KnownMessages
  split
  · split <;> infer_instance
  · infer_instance
  · infer_instance

theorem KnownMessages.legibly {pairing : Pairing PushEvent} {action : PairingStep}
    (known : KnownMessages pairing action) :
    Legibly Sample.account (requestReader [phonePush]) wordReader pairing action := by
  have response : wordReader.pushResponse (Hex.utf8 phoneResponse.json) = some phoneResponse := by
    simp [wordReader]
  have page : wordReader.changesResponse (Hex.utf8 phonePage.json) = some phonePage := by
    simp [wordReader]
  cases action with
  | call call => trivial
  | request request => trivial
  | push now serverNow =>
      simp only [KnownMessages] at known
      simp only [Legibly, Sample.account]
      cases sending : pairing.batch now with
      | none => trivial
      | some batch =>
          obtain ⟨events, sent⟩ := batch
          simp only [sending] at known ⊢
          rw [known.2, known.1]
          exact ⟨requestReader_reads [phonePush], response⟩
  | pull now =>
      simp only [KnownMessages] at known
      simp only [Legibly, Sample.account]
      rw [known]
      exact page

theorem limits_leave_room_word : ∃ last,
    run (Pairing.step Sample.account (Network.http Sample.account (requestReader [phonePush])
      wordReader atOnce)) newPairing favoritedOnce = some last ∧
    last.client.syncOutbox.get (.favorite Sample.giftKey) = none ∧ cursorOf last.client = 1 := by
  have facts : (run (Pairing.step Sample.account (Network.direct Sample.account)) newPairing
      favoritedOnce).any (fun last => last.client.syncOutbox.get (.favorite Sample.giftKey) = none ∧
        cursorOf last.client = 1) = true := by
    decide +kernel
  have within : Meets (Pairing.step Sample.account (Network.direct Sample.account))
      (WithinLimits Sample.account) newPairing favoritedOnce := by
    decide +kernel
  have known : Meets (Pairing.step Sample.account (Network.direct Sample.account)) KnownMessages
      newPairing favoritedOnce := by
    decide +kernel
  obtain ⟨-, -, -, same⟩ := @limits_leave_room PushEvent _ _ _ _ Sample.account
    (requestReader [phonePush]) wordReader atOnce
  obtain ⟨last, reached, holds⟩ := (Option.any_eq_true _ _).mp facts
  obtain ⟨pushed, pulled⟩ := of_decide_eq_true holds
  exact ⟨last, (same newPairing favoritedOnce
    (known.imp (fun _ _ => KnownMessages.legibly)) within).trans reached, pushed, pulled⟩

end Concrete

end Lvos.System
