import Lvos.System.Agreement

set_option autoImplicit false

namespace Lvos.System

open Lvos.Core Lvos.Sync Lvos.Storage
open Lvos.Server (ServerDb ServerInv Evolves EventFingerprint UuidParser ApiResult Stored Seen
  Satisfies Current)

variable {φ : Type}

/-- A conflict whose record has the state the sent event asked for is handled while
the pending intent still asks for it. -/
def resolvesCurrent (db : ProfileDb) (event : OutboxEvent) (current : Option FavoriteRecord) :
    Bool :=
  match localFavorite db event.contentKey with
  | .ok (some value) =>
      current.all (fun record => !desiredConverged event.operation value record ||
        (db.syncOutbox.get (.favorite event.contentKey)).any
          (fun row => row.operation = event.operation))
  | _ => true

def settlesCurrent (device : Device) : Bool :=
  match device.worker with
  | .answered events _ (.error (.conflict conflict)) =>
      (Desktop.conflictedEvent events conflict).all (fun event =>
        resolvesCurrent device.profile event conflict.current)
  | _ => true

/-- What holds between a profile and the server its account has to itself. -/
structure Settled [EventFingerprint φ] (server : ServerDb φ) (userId : String) (db : ProfileDb) :
    Prop where
  idle : ∀ key, db.syncOutbox.get (.favorite key) = none →
    isActiveRemote (server.favorites.get (userId, key.toHex)) = isActive (db.favorites.get key)
  replied : ∀ key row, db.syncOutbox.get (.favorite key) = some row → ∀ sent ack,
    Stored server userId sent ack → sent.eventId = row.eventId.text →
    sent.operation = protocolOperation row.operation ∧
      Satisfies sent (server.favorites.get (userId, key.toHex))

/-- A batch on its way: an event whose row is gone cannot revive the content, and a
row that replaced it has not been sent. -/
structure Unmixed [EventFingerprint φ] (server : ServerDb φ) (userId : String) (db : ProfileDb)
    (event : OutboxEvent) : Prop where
  gone : db.syncOutbox.get (.favorite event.contentKey) = none →
    isActive (db.favorites.get event.contentKey) = false
  replaced : ∀ row, db.syncOutbox.get (.favorite event.contentKey) = some row →
    row.eventId ≠ event.eventId → ¬ Seen server userId row.eventId.text

/-- The part of the worker that a server nobody else writes to adds. -/
def WorkerAlone [EventFingerprint φ] (server : ServerDb φ) (userId : String) (db : ProfileDb) :
    Worker → Prop
  | .idle => True
  | .batched events => ∀ event ∈ events, isFavoriteOperation event.operation = true →
      Unmixed server userId db event
  | .pushing events _ => ∀ event ∈ events, isFavoriteOperation event.operation = true →
      Unmixed server userId db event ∧
        (db.syncOutbox.get (.favorite event.contentKey) = none →
          event.operation = .favoriteDelete)
  | .answered _ request reply =>
      (∀ response, reply = .ok response →
        List.Forall₂ (Stored server userId) request response.acknowledgements) ∧
      (∀ conflict, reply = .error (.conflict conflict) → ∀ record,
        conflict.current = some record → Current server userId record)
  | .pulled page => ∀ change ∈ page.changes, Current server userId change.favorite

section Profile

variable [EventFingerprint φ] {server : ServerDb φ} {userId : String} {issued : List Uuid}
  {db next : ProfileDb}

omit [EventFingerprint φ] in
/-- A satisfied event of the pending intent leaves the server in the local state. -/
theorem active_of_satisfied {key : ContentKey} {row : OutboxRow} {sent : PushEvent}
    {favorite : Option Storage.FavoriteRow} {remote : Option Server.FavoriteRow}
    (pending : Pending favorite key row)
    (operation : sent.operation = protocolOperation row.operation)
    (satisfied : Satisfies sent remote) : isActiveRemote remote = isActive favorite := by
  unfold Satisfies at satisfied
  rw [operation] at satisfied
  rcases pending.state with ⟨upsert, value, rfl, active, -⟩ | ⟨delete, value, rfl, gone⟩
  · rw [upsert] at satisfied
    obtain ⟨stored, rfl, alive, -⟩ := satisfied
    simp [isActive, isActiveRemote, active, alive]
  · rw [delete] at satisfied
    obtain ⟨stored, rfl, dead⟩ := satisfied
    obtain ⟨time, marked⟩ := Option.isSome_iff_exists.mp gone
    obtain ⟨moment, buried⟩ := Option.isSome_iff_exists.mp dead
    simp [isActive, isActiveRemote, marked, buried]

/-- Rows that keep their ids and operations keep their replies. -/
theorem Settled.replied_of_carried (settled : Settled server userId db) {key : ContentKey}
    {old row : OutboxRow} (stored : db.syncOutbox.get (.favorite key) = some old)
    (eventId : row.eventId = old.eventId) (operation : row.operation = old.operation) :
    ∀ sent ack, Stored server userId sent ack → sent.eventId = row.eventId.text →
      sent.operation = protocolOperation row.operation ∧
        Satisfies sent (server.favorites.get (userId, key.toHex)) := by
  rw [eventId, operation]
  exact settled.replied key old stored

theorem Settled.markRetry (settled : Settled server userId db) (events : List OutboxEvent)
    (nextRetryAt : Int) (error : String) (now : Int) :
    Settled server userId (markRetry db events nextRetryAt error now) := by
  have favorites := (markRetry_favorites db events nextRetryAt error now).1
  refine ⟨fun key idle => ?_, fun key row stored => ?_⟩
  · rw [favorites]
    rcases markRetry_get db events nextRetryAt error now (.favorite key) with
      ⟨absent, -⟩ | ⟨row, other, -, reached, -⟩
    · exact settled.idle key absent
    · rw [reached] at idle
      cases idle
  · obtain ⟨old, here, like⟩ := markRetry_like db events nextRetryAt error now stored
    exact settled.replied_of_carried here like.eventId like.operation

theorem Settled.retryLater (settled : Settled server userId db) (events : List OutboxEvent)
    (now : Int) : Settled server userId (Desktop.retryLater db events now).1 :=
  Desktop.retryLater_keeps settled
    (fun retryAt _ => settled.markRetry events retryAt Desktop.serverUnavailable now)

/-- One acknowledged event, when the server stored the answer for an event of its
id. -/
theorem Settled.acknowledged {cursor : Nat} {event : OutboxEvent} {ack : PushAck}
    {sent : PushEvent} (table : Relational.Table ContentKey QueryStats)
    (settled : Settled server userId db) (shape : Shape issued db)
    (ready : Acknowledgeable server userId cursor db event ack.entityRevision)
    (stored : Stored server userId sent ack) (named : sent.eventId = event.eventId.text) :
    Settled server userId (acknowledged db event ack.entityRevision table) ∧
      ∀ key, isActive ((acknowledged db event ack.entityRevision table).favorites.get key) =
        isActive (db.favorites.get key) := by
  refine ⟨⟨fun key idle => ?_, fun key row here => ?_⟩, fun key => ?_⟩
  · have view := ready.key shape table key
    cases view with
    | apart favorites outbox =>
        rw [favorites]
        exact settled.idle key (outbox ▸ idle)
    | settled revision row keyed answer favorites queued same outbox =>
        rw [favorites, isActive_revised]
        obtain ⟨operation, satisfied⟩ := settled.replied key row queued sent ack stored
          (by rw [named, same])
        exact active_of_satisfied (shape.favorites key row queued) operation satisfied
    | newer revision keyed answer favorites others outbox =>
        rw [outbox, Option.map_eq_none_iff] at idle
        rw [favorites, isActive_revised]
        exact settled.idle key idle
  · obtain ⟨old, before, -, change⟩ := acknowledged_carried db event ack.entityRevision table here
    refine settled.replied_of_carried before ?_ ?_
    · rcases change with rfl | ⟨revision, -, -, -, rfl⟩ <;> rfl
    · rcases change with rfl | ⟨revision, -, -, -, rfl⟩ <;> rfl
  · have view := ready.key shape table key
    cases view with
    | apart favorites outbox => rw [favorites]
    | settled revision row keyed answer favorites => rw [favorites, isActive_revised]
    | newer revision keyed answer favorites => rw [favorites, isActive_revised]

omit [EventFingerprint φ] in
theorem active_of_current {record : FavoriteRecord} {key : ContentKey}
    (current : Current server userId record) (keyed : record.contentKey = key.toHex) :
    isActiveRemote (server.favorites.get (userId, key.toHex)) =
      isActive (some (remoteRow record)) := by
  obtain ⟨row, aggregate, stored, same⟩ := current
  rw [keyed] at stored
  rw [stored, same]
  rfl

/-- A record taken over for an intent that asks for its state changes no activity. -/
theorem active_of_converged {key : ContentKey} {row : OutboxRow} {value : Favorite}
    {record : FavoriteRecord} {favorite : Option Storage.FavoriteRow}
    (pending : Pending favorite key row)
    (reached : desiredConverged row.operation value record = true) :
    isActive (some (remoteRow record)) = isActive favorite := by
  rcases pending.state with ⟨upsert, local', rfl, active, -⟩ | ⟨delete, local', rfl, gone⟩
  · rw [upsert] at reached
    simp only [desiredConverged, Bool.and_eq_true, Option.isNone_iff_eq_none] at reached
    simp [isActive, remoteRow, reached.1, active]
  · rw [delete] at reached
    obtain ⟨time, marked⟩ := Option.isSome_iff_exists.mp gone
    obtain ⟨moment, buried⟩ := Option.isSome_iff_exists.mp reached
    simp [isActive, remoteRow, marked, buried]

/-- A step that moves one content by a record that is the server's row. -/
theorem Settled.received {record : FavoriteRecord} {key : ContentKey}
    (settled : Settled server userId db) (current : Current server userId record)
    (keyed : record.contentKey = key.toHex)
    (received : KeyReceived record (db.favorites.get key) (next.favorites.get key)
      (db.syncOutbox.get (.favorite key)) (next.syncOutbox.get (.favorite key)))
    (taken : next.favorites.get key = some (remoteRow record) →
      next.syncOutbox.get (.favorite key) = none →
      isActive (some (remoteRow record)) = isActive (db.favorites.get key))
    (favorites : ∀ other, other ≠ key → next.favorites.get other = db.favorites.get other)
    (outbox : ∀ other, other ≠ key →
      next.syncOutbox.get (.favorite other) = db.syncOutbox.get (.favorite other)) :
    Settled server userId next ∧
      ∀ other, isActive (next.favorites.get other) = isActive (db.favorites.get other) := by
  refine ⟨⟨fun other idle => ?_, fun other row here => ?_⟩, fun other => ?_⟩
  · by_cases same : other = key
    · subst same
      cases received with
      | written written gone =>
          rw [written]
          exact active_of_current current keyed
      | adopted row after queued kept =>
          rw [kept] at idle
          cases idle
    · rw [favorites other same]
      exact settled.idle other (outbox other same ▸ idle)
  · by_cases same : other = key
    · subst same
      cases received with
      | written written gone =>
          rw [gone] at here
          cases here
      | adopted old after queued kept written eventId contentKey operation =>
          rw [kept] at here
          cases here
          exact settled.replied_of_carried queued eventId operation
    · rw [outbox other same] at here
      exact settled.replied other row here
  · by_cases same : other = key
    · subst same
      cases received with
      | written written gone => rw [written, taken written gone]
      | adopted old after queued kept written => rw [written, isActive_revised]
    · rw [favorites other same]

theorem Settled.pulled {record : FavoriteRecord} {key : ContentKey} {now : Int}
    (settled : Settled server userId db) (shape : Shape issued db)
    (current : Current server userId record) (keyed : record.contentKey = key.toHex)
    (pulled : Pulled db next record key now) :
    Settled server userId next ∧
      ∀ other, isActive (next.favorites.get other) = isActive (db.favorites.get other) := by
  refine settled.received current keyed pulled.key ?_ (fun _ apart => pulled.favorites_apart apart)
    (fun _ apart => pulled.outbox_apart (by simpa using apart))
  intro _ gone
  cases pulled with
  | written table idle kept changed =>
      rw [← settled.idle key idle]
      exact (active_of_current current keyed).symm
  | converged table row value pending found reached kept changed =>
      exact active_of_converged (shape.favorites key row pending) reached
  | rebased table row value pending found apart kept changed =>
      subst changed
      have still : (rebase (setEntityRevision db key record.entityRevision) key
          record.entityRevision now).syncOutbox.get (.favorite key) = none := gone
      rw [rebase_get, if_pos rfl, Option.map_eq_none_iff] at still
      have absent : db.syncOutbox.get (.favorite key) = none := still
      rw [absent] at pending
      cases pending

theorem Settled.resolved {event : OutboxEvent} {current : Option FavoriteRecord} {now : Int}
    {resolution : ConflictResolution} (settled : Settled server userId db)
    (shape : Shape issued db) (resolved : Resolved db next event current now resolution)
    (keyed : ∀ record, current = some record → record.contentKey = event.contentKey.toHex)
    (answer : ∀ record, current = some record → Current server userId record)
    (safe : resolvesCurrent db event current = true) :
    Settled server userId next ∧
      ∀ other, isActive (next.favorites.get other) = isActive (db.favorites.get other) := by
  rcases resolved.key keyed with ⟨record, found, received⟩ | ⟨favorites, outbox⟩
  · refine settled.received (answer record found) (keyed record found) received ?_
      (fun _ apart => resolved.favorites_apart keyed apart)
      (fun _ apart => resolved.outbox_apart (by simpa using apart))
    intro _ gone
    cases resolved with
    | converged other key value table same recordKey looked reached kept changed =>
        rw [found] at same
        obtain rfl := Option.some.inj same
        -- The condition: the pending intent still is the one that was sent.
        unfold resolvesCurrent at safe
        rw [looked, found] at safe
        simp only [Option.all_some, reached, Bool.not_true, Bool.false_or,
          Option.any_eq_true, decide_eq_true_eq] at safe
        obtain ⟨row, pending, operation⟩ := safe
        rw [← operation] at reached
        exact active_of_converged (shape.favorites _ row pending) reached
    | replayed other row table same pending first kept changed =>
        subst changed
        have still : (prepareReplay (setEntityRevision db event.contentKey other.entityRevision)
            event.contentKey other.entityRevision now).syncOutbox.get
              (.favorite event.contentKey) = none := gone
        rw [prepareReplay_get, if_pos rfl, Option.map_eq_none_iff] at still
        have absent : db.syncOutbox.get (.favorite event.contentKey) = none := still
        rw [absent] at pending
        cases pending
    | manual table kept changed =>
        subst changed
        cases received with
        | written written gone =>
            have same : db.favorites.get event.contentKey = some (remoteRow record) := written
            rw [same]
        | adopted old after queued kept =>
            rw [kept] at gone
            cases gone
  · have same : ∀ other, next.favorites.get other = db.favorites.get other := by
      intro other
      by_cases equal : other = event.contentKey
      · rw [equal]
        exact favorites
      · exact resolved.favorites_apart keyed equal
    refine ⟨⟨fun other idle => ?_, fun other row here => ?_⟩, fun other => by rw [same]⟩
    · rw [same]
      by_cases equal : other = event.contentKey
      · subst equal
        rw [outbox, Option.map_eq_none_iff] at idle
        exact settled.idle _ idle
      · rw [resolved.outbox_apart (by simpa using equal)] at idle
        exact settled.idle other idle
    · by_cases equal : other = event.contentKey
      · subst equal
        rw [outbox] at here
        obtain ⟨old, before, rfl⟩ := Option.map_eq_some_iff.mp here
        exact settled.replied_of_carried before rfl rfl
      · rw [resolved.outbox_apart (by simpa using equal)] at here
        exact settled.replied other row here

end Profile

section Local

variable [EventFingerprint φ] {server : ServerDb φ} {userId : String} {issued more : List Uuid}
  {db next : ProfileDb} {input : Input}

omit [EventFingerprint φ] in
/-- A new id has no stored answer. -/
theorem unseen_of_new (seen : ∀ id, Seen server userId id → ∃ uuid ∈ issued, id = uuid.text)
    (new : ∀ id, input.fresh id → id ∉ issued) {id : Uuid} (brought : input.fresh id) :
    ¬ Seen server userId id.text := by
  intro known
  obtain ⟨uuid, member, same⟩ := seen id.text known
  exact new id brought (Uuid.text_injective same ▸ member)

theorem Settled.localMove (settled : Settled server userId db) (shape : Shape more db)
    (seen : ∀ id, Seen server userId id → ∃ uuid ∈ issued, id = uuid.text)
    (new : ∀ id, input.fresh id → id ∉ issued) (move : LocalMove input db next)
    (folds : ∀ key row, db.favorites.get key = some row → row.deletedAt = none →
      row.entityRevision = 0 → isActive (next.favorites.get key) = false →
      server.favorites.get (userId, key.toHex) = none) :
    Settled server userId next := by
  refine ⟨fun key idle => ?_, fun key row stored sent ack answered named => ?_⟩
  · have view := move.keyMove shape.indexed key
    cases view with
    | same favorites outbox =>
        rw [favorites]
        exact settled.idle key (outbox ▸ idle)
    | favorited value queued inactive favorites active canonical revision outbox =>
        rw [outbox] at idle
        cases idle
    | archived value absent favorites deleted revision outbox =>
        rw [settled.idle key (outbox ▸ idle), absent, favorites]
        obtain ⟨time, marked⟩ := Option.isSome_iff_exists.mp deleted
        simp [isActive, marked]
    | folded old value present active unsynced favorites deleted =>
        obtain ⟨time, marked⟩ := Option.isSome_iff_exists.mp deleted
        have inactive : isActive (next.favorites.get key) = false := by
          simp [favorites, isActive, marked]
        rw [folds key old present active unsynced inactive, inactive]
        rfl
    | withdrawn old value queued present active synced favorites deleted revision outbox =>
        rw [outbox] at idle
        cases idle
  · by_cases brought : input.fresh row.eventId
    · exact absurd (named ▸ answered.seen) (unseen_of_new seen new brought)
    · obtain ⟨before, -⟩ := (move.keyMove shape.indexed key).kept (shape.favorites key) stored brought
      exact settled.replied key row before sent ack answered named

theorem Unmixed.localMove {event : OutboxEvent} (unmixed : Unmixed server userId db event)
    (shape : Shape more db)
    (seen : ∀ id, Seen server userId id → ∃ uuid ∈ issued, id = uuid.text)
    (new : ∀ id, input.fresh id → id ∉ issued) (move : LocalMove input db next) :
    Unmixed server userId next event := by
  have view := move.keyMove shape.indexed event.contentKey
  refine ⟨fun idle => ?_, fun row stored apart => ?_⟩
  · cases view with
    | same favorites outbox =>
        rw [favorites]
        exact unmixed.gone (outbox ▸ idle)
    | favorited value queued inactive favorites active canonical revision outbox =>
        rw [outbox] at idle
        cases idle
    | archived value absent favorites deleted =>
        obtain ⟨time, marked⟩ := Option.isSome_iff_exists.mp deleted
        simp [favorites, isActive, marked]
    | folded old value present active unsynced favorites deleted =>
        obtain ⟨time, marked⟩ := Option.isSome_iff_exists.mp deleted
        simp [favorites, isActive, marked]
    | withdrawn old value queued present active synced favorites deleted revision outbox =>
        rw [outbox] at idle
        cases idle
  · by_cases brought : input.fresh row.eventId
    · exact unseen_of_new seen new brought
    · exact unmixed.replaced row (view.kept (shape.favorites _) stored brought).1 apart

theorem WorkerAlone.localMove {worker : Worker} (alone : WorkerAlone server userId db worker)
    (shape : Shape more db) (linked : WorkerInv server userId issued db worker)
    (seen : ∀ id, Seen server userId id → ∃ uuid ∈ issued, id = uuid.text)
    (new : ∀ id, input.fresh id → id ∉ issued) (move : LocalMove input db next)
    (folds : ∀ key row, db.favorites.get key = some row → row.deletedAt = none →
      row.entityRevision = 0 → isActive (next.favorites.get key) = false →
      ∀ sent ∈ worker.request, sent.contentKey = key.toHex →
        sent.operation = .queryStatsUpsert) :
    WorkerAlone server userId next worker := by
  cases worker with
  | idle => trivial
  | batched events =>
      intro event member favorite
      exact (alone event member favorite).localMove shape seen new move
  | pushing events request =>
      intro event member favorite
      obtain ⟨unmixed, deletes⟩ := alone event member favorite
      refine ⟨unmixed.localMove shape seen new move, fun idle => ?_⟩
      have view := move.keyMove shape.indexed event.contentKey
      cases view with
      | same favorites outbox => exact deletes (outbox ▸ idle)
      | favorited value queued inactive favorites active canonical revision outbox =>
          rw [outbox] at idle
          cases idle
      | archived value absent favorites deleted revision outbox => exact deletes (outbox ▸ idle)
      | folded old value present active unsynced favorites deleted =>
          -- The event of the folded intent would be on its way.
          obtain ⟨time, marked⟩ := Option.isSome_iff_exists.mp deleted
          obtain ⟨sent, requested, faithful⟩ :=
            Transaction.related_of_mem_left linked.pairs event member
          have stats := folds event.contentKey old present active unsynced
            (by simp [favorites, isActive, marked]) sent requested faithful.contentKey
          exact absurd stats (faithful.isFavorite.mpr favorite)
      | withdrawn old value queued present active synced favorites deleted revision outbox =>
          rw [outbox] at idle
          cases idle
  | answered events request reply => exact alone
  | pulled page => exact alone

end Local

section Push

variable [DecidableEq φ] [EventFingerprint φ] {server later : ServerDb φ} {userId : String}
  {issued : List Uuid} {db : ProfileDb} {events : List OutboxEvent} {request : List PushEvent}

/-- The state after the server ran the request of a batch. -/
theorem Settled.pushed {deviceId : String} {now : Int} {acks : List PushAck}
    {changed : Option Nat} (settled : Settled server userId db) (shape : Shape issued db)
    (sent : Sent issued db events request)
    (alone : WorkerAlone server userId db (.pushing events request))
    (success : Server.pushLoop userId deviceId now request server = .ok (later, acks, changed)) :
    Settled later userId db := by
  -- A row of the batch with a Favorite event on `key`, and what is known of it.
  have origin : ∀ asked ∈ request, asked.operation ≠ .queryStatsUpsert →
      ∃ event ∈ events, Faithful db event asked ∧
        isFavoriteOperation event.operation = true := by
    intro asked member favorite
    obtain ⟨event, listed, faithful⟩ := Transaction.related_of_mem_right sent.pairs asked member
    exact ⟨event, listed, faithful, faithful.isFavorite.mp favorite⟩
  refine ⟨fun key idle => ?_, fun key row stored asked ack answered named => ?_⟩
  · rcases Server.pushLoop_moved key.toHex success with same | ⟨mover, member, keyed, favorite,
      unseen⟩
    · rw [same]
      exact settled.idle key idle
    · obtain ⟨event, listed, faithful, operation⟩ := origin mover member favorite
      obtain rfl : event.contentKey = key :=
        ContentKey.toHex_injective (faithful.contentKey.symm.trans keyed)
      obtain ⟨unmixed, deletes⟩ := alone event listed operation
      have satisfied := Server.pushLoop_satisfies favorite request server later acks changed
        sent.distinct member unseen success
      rw [unmixed.gone idle]
      unfold Satisfies at satisfied
      rw [faithful.operation, deletes idle, keyed] at satisfied
      obtain ⟨value, here, dead⟩ := satisfied
      obtain ⟨moment, buried⟩ := Option.isSome_iff_exists.mp dead
      simp [isActiveRemote, here, buried]
  · rcases Server.pushLoop_origin request server later acks changed success answered with
      old | ⟨-, member, unseen⟩
    · obtain ⟨operation, satisfied⟩ := settled.replied key row stored asked ack old named
      refine ⟨operation, ?_⟩
      rcases Server.pushLoop_moved key.toHex success with same | ⟨mover, member, keyed, favorite,
        unseen⟩
      · rw [same]
        exact satisfied
      · -- The mover is the row's own event, or the row has never been sent.
        obtain ⟨event, listed, faithful, isFavorite⟩ := origin mover member favorite
        obtain rfl : event.contentKey = key :=
          ContentKey.toHex_injective (faithful.contentKey.symm.trans keyed)
        by_cases same : row.eventId = event.eventId
        · apply absurd old.seen
          rw [named, same, ← faithful.eventId]
          exact unseen
        · apply absurd old.seen
          rw [named]
          exact (alone event listed isFavorite).1.replaced row stored same
    · obtain ⟨event, listed, faithful⟩ := Transaction.related_of_mem_right sent.pairs asked member
      have held := sent.batch.held event listed
      have same : row.eventId = event.eventId :=
        Uuid.text_injective (named.symm.trans faithful.eventId)
      obtain ⟨keyed, operation⟩ := held.owner _ row stored same
      have isFavorite : isFavoriteOperation event.operation = true := by
        rw [← operation]
        exact (shape.favorites key row stored).operation
      rw [(held.favorite isFavorite).1] at keyed
      obtain rfl := CoalesceKey.favorite.inj keyed
      refine ⟨by rw [faithful.operation, operation], ?_⟩
      rw [← faithful.contentKey]
      exact Server.pushLoop_satisfies (faithful.isFavorite.mpr isFavorite) request server later
        acks changed sent.distinct member unseen success

end Push

section Settle

variable [EventFingerprint φ] {server : ServerDb φ} {userId : String} {issued : List Uuid}
  {db next : ProfileDb} {events : List OutboxEvent} {request : List PushEvent}

/-- Handling an answer of a server nobody else writes to. -/
theorem Settled.settleReply {reply : ApiResult PushResponse} {now : Int}
    (settled : Settled server userId db) (device : DeviceInv server userId issued db)
    (linked : WorkerInv server userId issued db (.answered events request reply))
    (alone : WorkerAlone server userId db (.answered events request reply))
    (safe : settlesCurrent ⟨db, .answered events request reply⟩ = true) :
    Settled server userId (settleReply db events request reply now) ∧
      ∀ key, isActive ((settleReply db events request reply now).favorites.get key) =
        isActive (db.favorites.get key) := by
  obtain ⟨sent, answered, refused⟩ := linked
  obtain ⟨stored, current⟩ := alone
  have unchanged : Settled server userId db ∧
      ∀ key, isActive (db.favorites.get key) = isActive (db.favorites.get key) :=
    ⟨settled, fun _ => rfl⟩
  unfold System.settleReply
  split
  · rename_i response
    split
    · rename_i items matched
      unfold acknowledgeEvents
      cases body : acknowledgeBody items now db with
      | error reason =>
          rw [Transaction.atomically_of_error body]
          exact unchanged
      | ok pair =>
          obtain ⟨after, done⟩ := pair
          rw [Transaction.atomically_of_ok body]
          obtain ⟨last, looped, rfl⟩ := acknowledgeBody_ok body
          obtain ⟨ready, distinct⟩ := sent.acknowledgeable device.shape
            (answered response rfl) matched
          obtain ⟨-, final, kept⟩ := device.acknowledgeLoop
            (fun other => Settled server userId other ∧
              ∀ key, isActive (other.favorites.get key) = isActive (db.favorites.get key))
            ready distinct (fun item member other table here prepared _ holds => by
              obtain ⟨pair, listed, same, found, named, -⟩ :=
                Transaction.related_of_mem_right (matchAcknowledgements_ok matched) item member
              obtain ⟨asked, -, answer⟩ :=
                Transaction.related_of_mem_right (stored response rfl) item.acknowledgement found
              obtain ⟨after, same⟩ := Settled.acknowledged table holds.1 here.shape prepared
                answer (by rw [← answer.1, named, ‹item.event = pair.1›])
              exact ⟨after, fun key => (same key).trans (holds.2 key)⟩)
            unchanged looped
          exact ⟨⟨final.idle, final.replied⟩, kept⟩
    · exact unchanged
  · rename_i conflict
    split
    · rename_i event chosen
      unfold resolveConflict
      cases body : resolveConflictBody event conflict.current now db with
      | error reason =>
          rw [Transaction.atomically_of_error body]
          exact unchanged
      | ok pair =>
          obtain ⟨after, resolution⟩ := pair
          rw [Transaction.atomically_of_ok body]
          have facts := (sent.conflicted (refused conflict rfl) chosen).2
          refine settled.resolved device.shape (resolveConflictBody_ok body).2
            (fun record found => (facts record found).1) (current conflict rfl) ?_
          simpa [settlesCurrent, chosen] using safe
    · exact unchanged
  · exact unchanged

variable [ContentTables]

/-- Applying a page of a server nobody else writes to. -/
theorem Settled.page {page : ChangesResponse} {now : Int} (settled : Settled server userId db)
    (shape : Shape issued db) (current : ∀ change ∈ page.changes,
      Current server userId change.favorite)
    (success : applyRemotePageBody page.changes page.nextRevision now db = .ok (next, ())) :
    Settled server userId next ∧
      ∀ key, isActive (next.favorites.get key) = isActive (db.favorites.get key) := by
  obtain ⟨last, looped, rfl⟩ := applyRemotePage_ok success
  have chain := applyRemoteLoop_induct
    (fun changes db last => Shape issued db → Settled server userId db →
      (∀ change ∈ changes, Current server userId change.favorite) →
      Settled server userId last ∧
        ∀ key, isActive (last.favorites.get key) = isActive (db.favorites.get key))
    (fun _ _ here _ => ⟨here, fun _ => rfl⟩)
    (fun change rest db middle last key keyed _ pulled tail shape here current => by
      obtain ⟨after, same⟩ := here.pulled shape (current change List.mem_cons_self) keyed pulled
      obtain ⟨final, kept⟩ := tail (shape.pulled pulled) after
        (fun other member => current other (List.mem_cons_of_mem _ member))
      exact ⟨final, fun other => (kept other).trans (same other)⟩)
    page.changes db last _ _ looped
  obtain ⟨final, kept⟩ := chain shape settled current
  exact ⟨⟨final.idle, final.replied⟩, kept⟩

end Settle

end Lvos.System
