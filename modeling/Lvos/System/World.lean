import Lvos.Desktop.Engine
import Lvos.Lib.Transition
import Lvos.Storage.Portable

set_option autoImplicit false

namespace Lvos.System

open Lvos.Core Lvos.Sync Lvos.Storage
open Lvos.Server (ServerDb EventFingerprint UuidParser ApiResult)

/-- The account all devices of a run belong to, and the limits of its server. -/
structure Account where
  userId : String
  maxSyncEventsPerBatch : Nat
  syncChangesMaxLimit : Nat
deriving DecidableEq, Repr

/-- Where the one sequential sync worker of a Device stands between two jobs. -/
inductive Worker
  | idle
  | batched (events : List OutboxEvent)
  | pushing (events : List OutboxEvent) (request : List PushEvent)
  | answered (events : List OutboxEvent) (request : List PushEvent)
      (reply : ApiResult PushResponse)
  | pulled (page : ChangesResponse)
deriving DecidableEq

structure Device where
  profile : ProfileDb
  worker : Worker
deriving DecidableEq

/-- The server, the devices, and three records of the run: the event ids handed
out, the requests whose sender gave up before the server ran them, and the
successful favorite (`true`) and unfavorite (`false`) calls, newest first. -/
structure World (φ ι : Type) where
  server : ServerDb φ
  devices : ι → Device
  issued : List Uuid
  abandoned : List (String × List PushEvent)
  calls : List (ι × ContentKey × Bool)

/-- What the user does on one Device; the ids are those `Uuid::now_v7` returns. -/
inductive Call
  | query (entry : HistoryEntry) (eventId : Uuid)
  | favorite (key : ContentKey) (now : Int) (eventId : Uuid)
  | unfavorite (key : ContentKey) (now : Int) (eventId : Uuid)
  | importData (document : PortableDataExport) (now : Int) (eventIds : ContentKey → Uuid)
  | clearHistory

/-- The jobs of one synchronization cycle, with the network between them. -/
inductive Job
  | readBatch (now : Int) (limit : Nat)
  | buildBatch
  | serverPush (now : Int)
  | receive (now : Int)
  | lose (now : Int)
  | abandon
  | requestChanges (limit : Nat)
  | applyPage (now : Int)
deriving DecidableEq, Repr

inductive Action (ι : Type)
  | call (device : ι) (call : Call)
  | work (device : ι) (job : Job)
  | latePush (deviceId : String) (request : List PushEvent) (now : Int)
  | patch (contentKey : String) (active : Bool) (baseEntityRevision : Nat) (now : Int)

section Calls

variable [ContentTables]

def storedContent (prepared : PreparedContent) : StoredContent where
  contentKey := prepared.contentKey
  keyVersion := prepared.keyVersion
  kind := prepared.kind
  sourceLang := prepared.sourceLang
  sourceText := prepared.sourceText
  canonicalText := prepared.canonicalText

/-- A content `LookupService::lookup` can record: one that was prepared. -/
def isPrepared (content : StoredContent) : Bool :=
  match prepareContent content.sourceText content.sourceLang Server.maxSyncTextCharacters with
  | .ok prepared => content = storedContent prepared
  | .error _ => false

/-- The ids a call may hand to the Outbox. -/
def Call.ids : Call → List Uuid
  | .query _ eventId => [eventId]
  | .favorite _ _ eventId => [eventId]
  | .unfavorite _ _ eventId => [eventId]
  | .importData document _ eventIds =>
      match validateExport document with
      | .ok validated =>
          validated.favorites.map (fun favorite => eventIds favorite.content.contentKey)
      | .error _ => []
  | .clearHistory => []

/-- Generated ids are new and of version 7; a query records a prepared content. -/
def Call.allowed (issued : List Uuid) (call : Call) : Bool :=
  call.ids.all (fun id => id.getVersionNum = 7 && id ∉ issued) &&
    match call with
    | .query entry _ => isPrepared entry.content
    | _ => true

def importPortable (db : ProfileDb) (document : PortableDataExport) (now : Int)
    (eventIds : ContentKey → Uuid) : ProfileDb :=
  match validateExport document with
  | .ok validated =>
      (applyPortableImport db ⟨db.profileMeta.profileId, validated⟩ now eventIds).1
  | .error _ => db

/-- The profile a call leaves. -/
def Call.perform (db : ProfileDb) : Call → ProfileDb
  | .query entry eventId => (recordSuccessfulQuery db entry eventId).1
  | .favorite key now eventId => (Storage.favorite db key now eventId).1
  | .unfavorite key now eventId => (Storage.unfavorite db key now eventId).1
  | .importData document now eventIds => importPortable db document now eventIds
  | .clearHistory => Storage.clearHistory db

/-- The intent a successful favorite or unfavorite call states. -/
def Call.intent (db : ProfileDb) : Call → List (ContentKey × Bool)
  | .favorite key now eventId =>
      match (Storage.favorite db key now eventId).2 with
      | .ok _ => [(key, true)]
      | .error _ => []
  | .unfavorite key now eventId =>
      match (Storage.unfavorite db key now eventId).2 with
      | .ok _ => [(key, false)]
      | .error _ => []
  | _ => []

end Calls

variable {φ ι : Type}

def World.setDevice [DecidableEq ι] (world : World φ ι) (device : ι) (value : Device) :
    World φ ι :=
  { world with devices := Function.update world.devices device value }

theorem World.setDevice_all [DecidableEq ι] {world : World φ ι} {device : ι} {value : Device}
    {property : Device → Prop} (mine : property value)
    (others : ∀ other, property (world.devices other)) (other : ι) :
    property ((world.setDevice device value).devices other) := by
  unfold World.setDevice
  dsimp only
  by_cases same : other = device
  · rw [same, Function.update_self]
    exact mine
  · rw [Function.update_of_ne same]
    exact others other

/-- The handling of a push answer, with the profile it leaves. -/
def settleReply (profile : ProfileDb) (events : List OutboxEvent) (request : List PushEvent)
    (reply : ApiResult PushResponse) (now : Int) : ProfileDb :=
  match reply with
  | .ok response =>
      match Desktop.matchAcknowledgements events request response.acknowledgements with
      | .ok acknowledged => (acknowledgeEvents profile acknowledged now).1
      | .error _ => profile
  | .error (.conflict conflict) =>
      match Desktop.conflictedEvent events conflict with
      | some event => (resolveConflict profile event conflict.current now).1
      | none => profile
  | .error _ => profile

/-- A request whose sender stops waiting may still reach the server. -/
def Worker.leftBehind (deviceId : String) : Worker → List (String × List PushEvent)
  | .pushing _ request => [(deviceId, request)]
  | _ => []

/-- The events a worker has read and not settled. -/
def Worker.events : Worker → List OutboxEvent
  | .idle => []
  | .batched events => events
  | .pushing events _ => events
  | .answered events _ _ => events
  | .pulled _ => []

/-- The request a worker has on its way to the server. -/
def Worker.request : Worker → List PushEvent
  | .pushing _ request => request
  | _ => []

theorem Worker.pushing_of_request {worker : Worker} (sends : worker.request ≠ []) :
    ∃ events, worker = .pushing events worker.request := by
  cases worker with
  | pushing events request => exact ⟨events, rfl⟩
  | _ => exact absurd rfl sends

section Step

variable [DecidableEq φ] [EventFingerprint φ] [ContentTables] [UuidParser] [DecidableEq ι]

/-- One job of one worker; `none` when the worker does not stand before it. -/
def work (account : Account) (world : World φ ι) (device : ι) (job : Job) :
    Option (World φ ι) :=
  let profile := (world.devices device).profile
  let worker := (world.devices device).worker
  match job, worker with
  | .readBatch now limit, .idle =>
      match readyOutboxEvents profile now limit with
      | .ok [] => some world
      | .ok events => some (world.setDevice device ⟨profile, .batched events⟩)
      | .error _ => some world
  | .buildBatch, .batched events =>
      match Desktop.buildEvents profile events with
      | .ok request => some (world.setDevice device ⟨profile, .pushing events request⟩)
      | .error _ => some (world.setDevice device ⟨profile, .idle⟩)
  | .serverPush now, .pushing events request =>
      let outcome := Server.push account.maxSyncEventsPerBatch world.server account.userId
        profile.profileMeta.deviceId request now
      some { world.setDevice device ⟨profile, .answered events request outcome.2⟩ with
        server := outcome.1 }
  | .receive now, .answered events request reply =>
      some (world.setDevice device ⟨settleReply profile events request reply now, .idle⟩)
  | .lose now, .pushing events request =>
      some { world.setDevice device
          ⟨(Desktop.retryLater profile events now).1, .idle⟩ with
        abandoned := (profile.profileMeta.deviceId, request) :: world.abandoned }
  | .lose now, .answered events _ _ =>
      some (world.setDevice device ⟨(Desktop.retryLater profile events now).1, .idle⟩)
  | .abandon, worker =>
      some { world.setDevice device ⟨profile, .idle⟩ with
        abandoned := worker.leftBehind profile.profileMeta.deviceId ++ world.abandoned }
  | .requestChanges limit, .idle =>
      match Server.changes account.syncChangesMaxLimit world.server account.userId
          profile.profileMeta.lastServerRevision limit with
      | .ok page => some (world.setDevice device ⟨profile, .pulled page⟩)
      | .error _ => some world
  | .applyPage now, .pulled page =>
      some (world.setDevice device
        ⟨(applyRemotePage profile page.changes page.nextRevision now).1, .idle⟩)
  | _, _ => none

def step (account : Account) (world : World φ ι) : Action ι → Option (World φ ι)
  | .call device call =>
      if call.allowed world.issued then
        let profile := (world.devices device).profile
        some { world.setDevice device
            { world.devices device with profile := call.perform profile } with
          issued := call.ids ++ world.issued
          calls := (call.intent profile).map (fun intent => (device, intent)) ++ world.calls }
      else none
  | .work device job => work account world device job
  | .latePush deviceId request now =>
      if (deviceId, request) ∈ world.abandoned then
        some { world with
          server := (Server.push account.maxSyncEventsPerBatch world.server account.userId deviceId
            request now).1
          abandoned := world.abandoned.erase (deviceId, request) }
      else none
  | .patch contentKey active baseEntityRevision now =>
      match Server.validateContentKey contentKey with
      | .ok _ =>
          some { world with
            server := (Server.setFavoriteState world.server account.userId contentKey active
              baseEntityRevision now).1 }
      | .error _ => some world

end Step

/-- New profiles of an account that has not synchronized yet. -/
def World.initial (account : Account) (devices : List (String × String))
    (profileId : ι → Uuid) (deviceId : ι → String) (now : Int) : World φ ι where
  server := ServerDb.initial [account.userId] devices
  devices := fun device => ⟨ProfileDb.initial (profileId device) (deviceId device) now, .idle⟩
  issued := []
  abandoned := []
  calls := []

namespace Sample

/-! One looked-up word and its values, for evaluating concrete runs. -/

export Lvos.Core.Sample (giftKey otherKey)

/-- The digest on the one input the runs hash. -/
def digest (bytes : List UInt8) : ContentKey :=
  if bytes = Hex.utf8 "1\x00word\x00en\x00gift".toList then giftKey
  else otherKey

@[reducible] def tables : ContentTables := asciiTables digest

@[reducible] def parser : UuidParser := Server.hyphenatedParser

def english : LanguageCode := ⟨"en", english_canonical⟩

def chinese : LanguageCode := ⟨"zh-CN", by decide⟩

/-- The lookup of "gift" at time `now`. -/
def gift (now : Int) : HistoryEntry :=
  ⟨⟨giftKey, 1, .word, english, "gift", "gift"⟩, ⟨chinese, "礼物", "tokenhub", now⟩, now⟩

/-- A UUID of version 7 for each number. -/
def eventId (number : UInt8) : Uuid :=
  ⟨[1, 2, 3, 4, 5, 6, 0x70, 8, 9, 10, 11, 12, 13, 14, 15, number], rfl⟩

def account : Account := ⟨"user", 500, 500⟩

/-- One Device of a new account. -/
def desk : World PushEvent Unit :=
  World.initial account [("user", "desk")] (fun _ => eventId 0) (fun _ => "desk") 50

end Sample

end Lvos.System
