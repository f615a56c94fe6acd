import Lvos.System.Agreement

set_option autoImplicit false

namespace Lvos.System

open Lvos.Core Lvos.Sync Lvos.Storage
open Lvos.Server (ServerDb EventFingerprint UuidParser ApiResult)

/-- The record has the state a pending intent asks for: deleted, or active with the
snapshot of the local row. -/
def HasAskedState (row : OutboxRow) (favorite : Option Storage.FavoriteRow)
    (record : FavoriteRecord) : Prop :=
  match row.operation with
  | .favoriteDelete => record.deletedAt.isSome
  | .favoriteUpsert => record.deletedAt = none ∧
      ∃ value, favorite = some value ∧ record.favorite = value.snapshot
  | .queryStatsUpsert => False

/-- The server records one job of a worker handles for a content. -/
def Worker.Handles (worker : Worker) (key : ContentKey) (record : FavoriteRecord) : Prop :=
  match worker with
  | .answered events _ (.error (.conflict conflict)) =>
      ∃ event, Desktop.conflictedEvent events conflict = some event ∧ event.contentKey = key ∧
        conflict.current = some record
  | .pulled page => ∃ change ∈ page.changes, change.favorite = record ∧
      record.contentKey = key.toHex
  | _ => False

/-- The pending intent is not the one the answer is for. -/
def Worker.Newer (worker : Worker) (row : OutboxRow) : Prop :=
  match worker with
  | .answered events _ (.ok _) => ∀ event ∈ events, row.eventId ≠ event.eventId
  | .answered events _ (.error (.conflict conflict)) =>
      ∀ event, Desktop.conflictedEvent events conflict = some event →
        row.eventId ≠ event.eventId
  | _ => True

theorem Worker.newer_of_events {worker : Worker} {row : OutboxRow}
    (apart : ∀ event ∈ worker.events, row.eventId ≠ event.eventId) : worker.Newer row := by
  unfold Worker.Newer
  split
  · exact apart
  · exact fun event chosen => apart event (conflictedEvent_mem chosen)
  · trivial

/-- The same activity and snapshot, at whatever revision. -/
def SameState (favorite next : Option Storage.FavoriteRow) : Prop :=
  next.map (fun value => (value.deletedAt, value.snapshot)) =
    favorite.map (fun value => (value.deletedAt, value.snapshot))

/-- What a job may do to newer intents: their rows stay and the local row keeps its
state, unless a record the job handles has the state they ask for. -/
def KeepsNewer (worker : Worker) (db next : ProfileDb) : Prop :=
  ∀ key row, db.syncOutbox.get (.favorite key) = some row → worker.Newer row →
    ((∃ after, next.syncOutbox.get (.favorite key) = some after ∧
        after.eventId = row.eventId ∧ after.operation = row.operation) ∧
      SameState (db.favorites.get key) (next.favorites.get key)) ∨
    ∃ record, worker.Handles key record ∧ HasAskedState row (db.favorites.get key) record

/-- A conflict is not settled by the stale event while a newer intent asks for
something else. -/
def resolvesOwn (db : ProfileDb) (event : OutboxEvent) (current : Option FavoriteRecord) : Bool :=
  match localFavorite db event.contentKey with
  | .ok (some value) =>
      current.all (fun record => !desiredConverged event.operation value record ||
        (db.syncOutbox.get (.favorite event.contentKey)).all
          (fun row => row.eventId = event.eventId || row.operation = event.operation))
  | _ => true

def settlesOwn (device : Device) : Bool :=
  match device.worker with
  | .answered events _ (.error (.conflict conflict)) =>
      (Desktop.conflictedEvent events conflict).all (fun event =>
        resolvesOwn device.profile event conflict.current)
  | _ => true

theorem SameState.refl (favorite : Option Storage.FavoriteRow) : SameState favorite favorite := rfl

theorem SameState.trans {first second third : Option Storage.FavoriteRow}
    (left : SameState first second) (right : SameState second third) : SameState first third :=
  Eq.trans right left

theorem sameState_revised {favorite next : Option Storage.FavoriteRow} {revision : Nat}
    (same : next = favorite.map (revised revision)) : SameState favorite next := by
  subst same
  cases favorite <;> rfl

/-- The asked state depends on the operation and on the local state only. -/
theorem HasAskedState.congr {row other : OutboxRow} {favorite next : Option Storage.FavoriteRow}
    {record : FavoriteRecord} (asked : HasAskedState row favorite record)
    (operation : row.operation = other.operation) (state : SameState next favorite) :
    HasAskedState other next record := by
  unfold HasAskedState at asked ⊢
  rw [operation] at asked
  cases named : other.operation with
  | favoriteDelete =>
      rw [named] at asked
      exact asked
  | queryStatsUpsert =>
      rw [named] at asked
      exact asked
  | favoriteUpsert =>
      rw [named] at asked
      obtain ⟨active, value, rfl, snapshot⟩ := asked
      refine ⟨active, ?_⟩
      cases next with
      | none => cases state
      | some before =>
          have equal : (value.deletedAt, value.snapshot) = (before.deletedAt, before.snapshot) :=
            Option.some.inj state
          exact ⟨before, rfl, by rw [snapshot, (Prod.mk.inj equal).2]⟩

section Profile

variable {issued : List Uuid} {db next : ProfileDb}

/-- `desired_converged` on the local value of a pending intent. -/
theorem asked_of_converged {key : ContentKey} {row : OutboxRow} {value : Favorite}
    {record : FavoriteRecord} (shape : Shape issued db)
    (pending : db.syncOutbox.get (.favorite key) = some row)
    (found : localFavorite db key = .ok (some value))
    (reached : desiredConverged row.operation value record = true) :
    HasAskedState row (db.favorites.get key) record := by
  rcases localFavorite_ok found with ⟨-, impossible⟩ | ⟨stored, read, here, reading, same⟩
  · cases impossible
  · cases same
    unfold HasAskedState
    rcases (shape.favorites key row pending).state with
      ⟨upsert, other, there, -, canonical⟩ | ⟨delete, -⟩
    · rw [upsert] at reached ⊢
      rw [here] at there
      cases there
      simp only [desiredConverged, Bool.and_eq_true, Option.isNone_iff_eq_none,
        decide_eq_true_eq] at reached
      refine ⟨reached.1, stored, here, ?_⟩
      rw [← reached.2, protocolSnapshot_of_read canonical reading]
    · rw [delete] at reached ⊢
      exact reached

/-- Rows whose id no acknowledged event has stay, with the state of the local row. -/
theorem acknowledged_keeps (event : OutboxEvent) (answered : Option Nat)
    (table : Relational.Table ContentKey QueryStats) {key : ContentKey} {row : OutboxRow}
    (pending : db.syncOutbox.get (.favorite key) = some row)
    (newer : row.eventId ≠ event.eventId) :
    (∃ after, (acknowledged db event answered table).syncOutbox.get (.favorite key) = some after ∧
        after.eventId = row.eventId ∧ after.operation = row.operation) ∧
      SameState (db.favorites.get key)
        ((acknowledged db event answered table).favorites.get key) := by
  constructor
  · rw [acknowledged_outbox, pending]
    cases answered with
    | none => exact ⟨row, by simp [Option.filter, newer], rfl, rfl⟩
    | some revision =>
        refine ⟨acknowledgedRow event revision row, ?_, acknowledgedRow_eventId _ _ _, ?_⟩
        · simp [Option.filter, acknowledgedRow_eventId, newer]
        · unfold acknowledgedRow
          split <;> rfl
  · rw [acknowledged_favorites]
    cases answered with
    | none => exact .refl _
    | some revision =>
        dsimp only
        split
        · exact sameState_revised rfl
        · exact .refl _

theorem acknowledgeLoop_keeps {now : Int} {items : List AcknowledgedEvent} {key : ContentKey}
    {row : OutboxRow} (pending : db.syncOutbox.get (.favorite key) = some row)
    (newer : ∀ item ∈ items, row.eventId ≠ item.event.eventId)
    (success : acknowledgeLoop now db items = .ok next) :
    (∃ after, next.syncOutbox.get (.favorite key) = some after ∧
        after.eventId = row.eventId ∧ after.operation = row.operation) ∧
      SameState (db.favorites.get key) (next.favorites.get key) := by
  have chain := acknowledgeLoop_induct
    (fun items db next => ∀ before, db.syncOutbox.get (.favorite key) = some before →
      before.eventId = row.eventId → (∀ item ∈ items, row.eventId ≠ item.event.eventId) →
      (∃ after, next.syncOutbox.get (.favorite key) = some after ∧
          after.eventId = before.eventId ∧ after.operation = before.operation) ∧
        SameState (db.favorites.get key) (next.favorites.get key))
    (fun db before here _ _ => ⟨⟨before, here, rfl, rfl⟩, .refl _⟩)
    (fun item rest db middle last turned tail before here same others => by
      obtain ⟨-, table, -, equation⟩ := acknowledgeEvent_ok turned
      replace equation : middle = acknowledged db item.event
          item.acknowledgement.entityRevision table := equation
      subst equation
      obtain ⟨⟨after, there, eventId, operation⟩, state⟩ := acknowledged_keeps item.event
        item.acknowledgement.entityRevision table here
        (by rw [same]; exact others item List.mem_cons_self)
      obtain ⟨⟨final, found, finalId, finalOperation⟩, later⟩ := tail after there
        (eventId.trans same) (fun other member => others other (List.mem_cons_of_mem _ member))
      exact ⟨⟨final, found, finalId.trans eventId, finalOperation.trans operation⟩,
        state.trans later⟩)
    items db next success
  exact chain row pending rfl newer

/-- A remote change keeps a pending intent, or has the state it asks for. -/
theorem Pulled.keeps {record : FavoriteRecord} {target key : ContentKey} {now : Int}
    {row : OutboxRow} (shape : Shape issued db) (pulled : Pulled db next record target now)
    (pending : db.syncOutbox.get (.favorite key) = some row) :
    ((∃ after, next.syncOutbox.get (.favorite key) = some after ∧
          after.eventId = row.eventId ∧ after.operation = row.operation) ∧
        SameState (db.favorites.get key) (next.favorites.get key)) ∨
      (key = target ∧ HasAskedState row (db.favorites.get key) record) := by
  by_cases same : key = target
  · subst same
    have received := pulled.key
    cases pulled with
    | written table idle kept changed =>
        rw [pending] at idle
        cases idle
    | converged table other value queued found reached kept changed =>
        rw [pending] at queued
        cases queued
        exact Or.inr ⟨rfl, asked_of_converged shape pending found reached⟩
    | rebased table other value queued found apart kept changed =>
        cases received with
        | written written gone =>
            subst changed
            have still : (rebase (setEntityRevision db key record.entityRevision) key
                record.entityRevision now).syncOutbox.get (.favorite key) = none := gone
            rw [rebase_get, if_pos rfl, Option.map_eq_none_iff] at still
            have absent : db.syncOutbox.get (.favorite key) = none := still
            rw [absent] at pending
            cases pending
        | adopted old after queuedOld outbox favorites eventId contentKey operation =>
            rw [pending] at queuedOld
            cases queuedOld
            exact Or.inl ⟨⟨after, outbox, eventId, operation⟩, sameState_revised favorites⟩
  · refine Or.inl ⟨⟨row, ?_, rfl, rfl⟩, ?_⟩
    · rw [pulled.outbox_apart (by simpa using same)]
      exact pending
    · rw [pulled.favorites_apart same]
      exact .refl _

theorem Resolved.keeps {event : OutboxEvent} {current : Option FavoriteRecord} {now : Int}
    {resolution : ConflictResolution} {key : ContentKey} {row : OutboxRow}
    (shape : Shape issued db) (resolved : Resolved db next event current now resolution)
    (keyed : ∀ record, current = some record → record.contentKey = event.contentKey.toHex)
    (safe : resolvesOwn db event current = true)
    (pending : db.syncOutbox.get (.favorite key) = some row)
    (newer : row.eventId ≠ event.eventId) :
    ((∃ after, next.syncOutbox.get (.favorite key) = some after ∧
          after.eventId = row.eventId ∧ after.operation = row.operation) ∧
        SameState (db.favorites.get key) (next.favorites.get key)) ∨
      ∃ record, event.contentKey = key ∧ current = some record ∧
        HasAskedState row (db.favorites.get key) record := by
  by_cases same : key = event.contentKey
  · subst same
    cases resolved with
    | converged record other value table answer recordKey found reached kept changed =>
        -- The newer intent asks for what the stale event asked for.
        unfold resolvesOwn at safe
        rw [found, answer, pending] at safe
        simp only [Option.all_some, reached, Bool.not_true, Bool.false_or, Bool.or_eq_true,
          decide_eq_true_eq] at safe
        rw [← safe.resolve_left newer] at reached
        exact Or.inr ⟨record, rfl, answer, asked_of_converged shape pending found reached⟩
    | replayed record other table answer queued first kept changed =>
        subst changed
        refine Or.inl ⟨⟨{ row with
          baseEntityRevision := some record.entityRevision
          conflictReplayCount := 1
          attemptCount := 0
          nextRetryAt := none
          lastError := none
          updatedAt := now }, ?_, rfl, rfl⟩, ?_⟩
        · show (prepareReplay _ _ _ _).syncOutbox.get _ = _
          rw [prepareReplay_get, if_pos rfl]
          show (db.syncOutbox.get _).map _ = _
          rw [pending]
          rfl
        · exact sameState_revised ((setEntityRevision_get db _ _ _).trans (if_pos rfl))
    | manual table kept changed =>
        subst changed
        refine Or.inl ⟨⟨{ row with
          lastError := some conflictError
          nextRetryAt := none
          updatedAt := now }, ?_, rfl, rfl⟩, .refl _⟩
        show (markManualConflict _ _ _).syncOutbox.get _ = _
        rw [markManualConflict_get, if_pos rfl, pending]
        rfl
  · refine Or.inl ⟨⟨row, ?_, rfl, rfl⟩, ?_⟩
    · rw [resolved.outbox_apart (by simpa using same)]
      exact pending
    · rw [resolved.favorites_apart keyed same]
      exact .refl _

/-- A whole page keeps a pending intent, or one of its records has the state the
intent asks for. -/
theorem page_keeps [ContentTables] {page : ChangesResponse} {now : Int} {key : ContentKey}
    {row : OutboxRow} (shape : Shape issued db)
    (pending : db.syncOutbox.get (.favorite key) = some row)
    (success : applyRemotePageBody page.changes page.nextRevision now db = .ok (next, ())) :
    ((∃ after, next.syncOutbox.get (.favorite key) = some after ∧
          after.eventId = row.eventId ∧ after.operation = row.operation) ∧
        SameState (db.favorites.get key) (next.favorites.get key)) ∨
      ∃ change ∈ page.changes, change.favorite.contentKey = key.toHex ∧
        HasAskedState row (db.favorites.get key) change.favorite := by
  obtain ⟨last, looped, rfl⟩ := applyRemotePage_ok success
  have chain := applyRemoteLoop_induct
    (fun changes db last => Shape issued db → ∀ row,
      db.syncOutbox.get (.favorite key) = some row →
      ((∃ after, last.syncOutbox.get (.favorite key) = some after ∧
            after.eventId = row.eventId ∧ after.operation = row.operation) ∧
          SameState (db.favorites.get key) (last.favorites.get key)) ∨
        ∃ change ∈ changes, change.favorite.contentKey = key.toHex ∧
          HasAskedState row (db.favorites.get key) change.favorite)
    (fun _ _ row here => Or.inl ⟨⟨row, here, rfl, rfl⟩, .refl _⟩)
    (fun change rest db middle last target keyed _ pulled tail shape row here => by
      rcases Pulled.keeps shape pulled here with
        ⟨⟨after, there, eventId, operation⟩, state⟩ | ⟨rfl, asked⟩
      · rcases tail (shape.pulled pulled) after there with
          ⟨⟨final, found, finalId, finalOperation⟩, later⟩ | ⟨other, member, named, asked⟩
        · exact Or.inl ⟨⟨final, found, finalId.trans eventId, finalOperation.trans operation⟩,
            state.trans later⟩
        · exact Or.inr ⟨other, List.mem_cons_of_mem _ member, named,
            asked.congr operation state⟩
      · exact Or.inr ⟨change, List.mem_cons_self, keyed, asked⟩)
    page.changes db last _ _ looped
  exact chain shape row pending

end Profile

theorem KeepsNewer.refl (worker : Worker) (db : ProfileDb) : KeepsNewer worker db db :=
  fun _ row pending _ => Or.inl ⟨⟨row, pending, rfl, rfl⟩, .refl _⟩

theorem markRetry_keeps (worker : Worker) (db : ProfileDb) (events : List OutboxEvent)
    (nextRetryAt : Int) (error : String) (now : Int) :
    KeepsNewer worker db (markRetry db events nextRetryAt error now) := by
  intro key row pending _
  rcases markRetry_get db events nextRetryAt error now (.favorite key) with
    ⟨absent, -⟩ | ⟨old, other, here, reached, like, -⟩
  · rw [absent] at pending
    cases pending
  · rw [here] at pending
    cases pending
    refine Or.inl ⟨⟨other, reached, like.eventId, like.operation⟩, ?_⟩
    rw [(markRetry_favorites db events nextRetryAt error now).1]
    exact .refl _

theorem retryLater_newer (worker : Worker) (db : ProfileDb) (events : List OutboxEvent)
    (now : Int) : KeepsNewer worker db (Desktop.retryLater db events now).1 :=
  Desktop.retryLater_keeps (.refl worker db)
    (fun retryAt _ => markRetry_keeps worker db events retryAt Desktop.serverUnavailable now)

/-- Handling an answer under the condition. -/
theorem settleReply_keeps {φ : Type} {server : ServerDb φ} {userId : String} {issued : List Uuid}
    {db : ProfileDb} {events : List OutboxEvent} {request : List PushEvent}
    {reply : ApiResult PushResponse} {now : Int} (shape : Shape issued db)
    (linked : WorkerInv server userId issued db (.answered events request reply))
    (safe : settlesOwn ⟨db, .answered events request reply⟩ = true) :
    KeepsNewer (.answered events request reply) db
      (settleReply db events request reply now) := by
  obtain ⟨sent, -, refused⟩ := linked
  unfold System.settleReply
  split
  · rename_i response
    split
    · rename_i items matched
      unfold acknowledgeEvents
      cases body : acknowledgeBody items now db with
      | error reason =>
          rw [Transaction.atomically_of_error body]
          exact .refl _ db
      | ok pair =>
          obtain ⟨after, done⟩ := pair
          rw [Transaction.atomically_of_ok body]
          obtain ⟨last, looped, rfl⟩ := acknowledgeBody_ok body
          intro key row pending newer
          have apart : ∀ item ∈ items, row.eventId ≠ item.event.eventId := by
            intro item member
            obtain ⟨pair, listed, same, -⟩ :=
              Transaction.related_of_mem_right (matchAcknowledgements_ok matched) item member
            rw [same]
            exact newer pair.1 (List.of_mem_zip (show (pair.1, pair.2) ∈ _ from listed)).1
          have kept := acknowledgeLoop_keeps pending apart looped
          exact Or.inl kept
    · exact .refl _ db
  · rename_i conflict
    split
    · rename_i event chosen
      unfold resolveConflict
      cases body : resolveConflictBody event conflict.current now db with
      | error reason =>
          rw [Transaction.atomically_of_error body]
          exact .refl _ db
      | ok pair =>
          obtain ⟨after, resolution⟩ := pair
          rw [Transaction.atomically_of_ok body]
          have facts := (sent.conflicted (refused conflict rfl) chosen).2
          intro key row pending newer
          rcases Resolved.keeps shape (resolveConflictBody_ok body).2
            (fun record found => (facts record found).1)
            (by simpa [settlesOwn, chosen] using safe) pending (newer event chosen) with
            kept | ⟨record, keyed, found, asked⟩
          · exact Or.inl kept
          · exact Or.inr ⟨record, ⟨event, chosen, keyed, found⟩, asked⟩
    · exact .refl _ db
  · exact .refl _ db

section Jobs

variable {φ ι : Type} [DecidableEq φ] [EventFingerprint φ] [ContentTables] [UuidParser]
  [DecidableEq ι]

theorem work_keepsNewer {account : Account} {world next : World φ ι} {device : ι} {job : Job}
    (inv : WorldInv account.userId world) (safe : settlesOwn (world.devices device) = true)
    (taken : work account world device job = some next) :
    KeepsNewer (world.devices device).worker (world.devices device).profile
      (next.devices device).profile := by
  have shape := (inv.device device).shape
  have worker := inv.worker device
  unfold System.work at taken
  dsimp only at taken
  split at taken
  · split at taken <;> cases taken
    · exact .refl _ _
    · simpa [World.setDevice] using KeepsNewer.refl _ _
    · exact .refl _ _
  · split at taken <;> cases taken <;> simpa [World.setDevice] using KeepsNewer.refl _ _
  · cases taken
    simpa [World.setDevice] using KeepsNewer.refl _ _
  · -- receive
    rename_i now events request reply waiting
    cases taken
    rw [waiting] at worker ⊢
    have own : settlesOwn ⟨(world.devices device).profile, .answered events request reply⟩ =
        true := by
      rw [← waiting]
      exact safe
    simpa [World.setDevice] using settleReply_keeps shape worker own
  · cases taken
    simpa [World.setDevice] using retryLater_newer _ _ _ _
  · cases taken
    simpa [World.setDevice] using retryLater_newer _ _ _ _
  · cases taken
    simpa [World.setDevice] using KeepsNewer.refl _ _
  · split at taken <;> cases taken
    · simpa [World.setDevice] using KeepsNewer.refl _ _
    · exact .refl _ _
  · -- applyPage
    rename_i now page waiting
    cases taken
    rw [waiting]
    simp only [World.setDevice, Function.update_self]
    unfold applyRemotePage
    cases body : applyRemotePageBody page.changes page.nextRevision now
        (world.devices device).profile with
    | error reason =>
        rw [Transaction.atomically_of_error body]
        exact .refl _ _
    | ok pair =>
        obtain ⟨last, done⟩ := pair
        rw [Transaction.atomically_of_ok body]
        intro key row pending _
        rcases page_keeps shape pending body with kept | ⟨change, member, keyed, asked⟩
        · exact Or.inl kept
        · exact Or.inr ⟨change.favorite, ⟨change, member, rfl, keyed⟩, asked⟩
  · cases taken

/-- After every run, a job of a worker keeps every newer intent, under the condition
that a conflict is not settled by an event whose row now asks for something else. -/
theorem newer_intents_kept (account : Account) (devices : List (String × String))
    (profileId : ι → Uuid) (deviceId : ι → String) (now : Int) (actions : List (Action ι))
    (world next : World φ ι) (device : ι) (job : Job)
    (reached : Transition.run (System.step account)
      (World.initial account devices profileId deviceId now) actions = some world)
    (safe : settlesOwn (world.devices device) = true)
    (taken : System.step account world (.work device job) = some next) :
    KeepsNewer (world.devices device).worker (world.devices device).profile
      (next.devices device).profile :=
  work_keepsNewer (run_worldInv reached) safe taken

end Jobs

section Runs

attribute [local instance] Sample.tables Sample.parser

/-- A run to the point where a conflict answer for an unfavorite waits, with the
server's row already deleted. -/
def deletedElsewhere : List (Action Unit) :=
  [.call () (.query (Sample.gift 100) (Sample.eventId 1)),
    .call () (.favorite Sample.giftKey 101 (Sample.eventId 2)),
    .work () (.readBatch 102 100), .work () .buildBatch, .work () (.serverPush 103),
    .work () (.receive 104), .patch Sample.giftKey.toHex false 1 105,
    .call () (.unfavorite Sample.giftKey 106 (Sample.eventId 3)),
    .work () (.readBatch 107 100), .work () .buildBatch, .work () (.serverPush 108)]

/-- The user favorites the word again before the conflict is handled: the stale
delete converges with the record, and the new intent is discarded. -/
theorem conflict_discards_newer_favorite :
    ∃ world next : World PushEvent Unit,
      Transition.run (System.step Sample.account) Sample.desk (deletedElsewhere ++
        [.call () (.favorite Sample.giftKey 109 (Sample.eventId 4))]) = some world ∧
      System.step Sample.account world (.work () (.receive 110)) = some next ∧
      ¬ KeepsNewer (world.devices ()).worker (world.devices ()).profile
        (next.devices ()).profile := by
  have facts : ((Transition.run (System.step Sample.account) Sample.desk (deletedElsewhere ++
      [.call () (.favorite Sample.giftKey 109 (Sample.eventId 4))])).bind (fun world =>
        (System.step Sample.account world (.work () (.receive 110))).map (fun next =>
          (world, next)))).any (fun pair =>
            (match (pair.1.devices ()).worker with
              | .answered events _ (.error (.conflict conflict)) =>
                  events.map (fun event => event.eventId) = [Sample.eventId 3] &&
                    conflict.current.all (fun record => record.deletedAt.isSome)
              | _ => false) &&
            ((pair.1.devices ()).profile.syncOutbox.get (.favorite Sample.giftKey)).any
              (fun row => row.eventId = Sample.eventId 4 && row.operation = .favoriteUpsert) &&
            (pair.2.devices ()).profile.syncOutbox.get (.favorite Sample.giftKey) = none) =
        true := by
    decide +kernel
  obtain ⟨⟨world, next⟩, ran, holds⟩ := (Option.any_eq_true _ _).mp facts
  obtain ⟨middle, reached, stepped⟩ := Option.bind_eq_some_iff.mp ran
  obtain ⟨last, taken, same⟩ := Option.map_eq_some_iff.mp stepped
  cases same
  refine ⟨world, next, reached, taken, fun keeps => ?_⟩
  simp only [Bool.and_eq_true, Option.any_eq_true, decide_eq_true_eq] at holds
  obtain ⟨⟨answer, row, pending, named, upsert⟩, gone⟩ := holds
  cases waiting : (world.devices ()).worker with
  | answered events request reply =>
      rw [waiting] at answer keeps
      cases reply with
      | ok response => cases answer
      | error reason =>
          cases reason with
          | basic error => cases answer
          | invalid message => cases answer
          | conflict conflict =>
              simp only [Bool.and_eq_true, decide_eq_true_eq] at answer
              have newer : (Worker.answered events request
                  (.error (.conflict conflict))).Newer row := by
                apply Worker.newer_of_events
                intro event listed same
                have only : event.eventId ∈ events.map (fun other => other.eventId) :=
                  List.mem_map_of_mem listed
                rw [answer.1, ← same, named] at only
                exact absurd only (by decide)
              rcases keeps Sample.giftKey row pending newer with
                ⟨⟨after, there, -⟩, -⟩ | ⟨record, ⟨event, -, -, found⟩, asked⟩
              · rw [gone] at there
                cases there
              · rw [found, Option.all_some] at answer
                unfold HasAskedState at asked
                rw [upsert] at asked
                rw [asked.1] at answer
                cases answer.2
  | idle => rw [waiting] at answer; cases answer
  | batched events => rw [waiting] at answer; cases answer
  | pushing events request => rw [waiting] at answer; cases answer
  | pulled page => rw [waiting] at answer; cases answer

/-- The word is unfavorited, and favorited again before the server's acknowledgement is taken. -/
def favoritedMeanwhile : List (Action Unit) :=
  [.call () (.query (Sample.gift 100) (Sample.eventId 1)),
    .call () (.favorite Sample.giftKey 101 (Sample.eventId 2)),
    .work () (.readBatch 102 100), .work () .buildBatch, .work () (.serverPush 103),
    .work () (.receive 104), .call () (.unfavorite Sample.giftKey 106 (Sample.eventId 3)),
    .work () (.readBatch 107 100), .work () .buildBatch, .work () (.serverPush 108),
    .call () (.favorite Sample.giftKey 109 (Sample.eventId 4))]

theorem newer_intents_kept_gift :
    ∃ (world next : World PushEvent Unit) (row : OutboxRow),
      Transition.run (System.step Sample.account) Sample.desk favoritedMeanwhile = some world ∧
      System.step Sample.account world (.work () (.receive 110)) = some next ∧
      (world.devices ()).worker.events.map (·.eventId) = [Sample.eventId 3] ∧
      (world.devices ()).profile.syncOutbox.get (.favorite Sample.giftKey) = some row ∧
      (world.devices ()).worker.Newer row ∧
      KeepsNewer (world.devices ()).worker (world.devices ()).profile
        (next.devices ()).profile := by
  have facts : ((Transition.run (System.step Sample.account) Sample.desk
      favoritedMeanwhile).bind (fun world =>
        (System.step Sample.account world (.work () (.receive 110))).map (fun next =>
          (world, next)))).any (fun pair => settlesOwn (pair.1.devices ()) &&
            (pair.1.devices ()).worker.events.map (·.eventId) = [Sample.eventId 3] &&
            ((pair.1.devices ()).profile.syncOutbox.get (.favorite Sample.giftKey)).any
              (fun row => row.eventId = Sample.eventId 4)) = true := by
    decide +kernel
  obtain ⟨⟨world, next⟩, ran, holds⟩ := (Option.any_eq_true _ _).mp facts
  simp only [Bool.and_eq_true, decide_eq_true_eq] at holds
  obtain ⟨⟨settles, sent⟩, waits⟩ := holds
  obtain ⟨row, pending, named⟩ := (Option.any_eq_true _ _).mp waits
  obtain ⟨middle, reached, stepped⟩ := Option.bind_eq_some_iff.mp ran
  obtain ⟨last, taken, same⟩ := Option.map_eq_some_iff.mp stepped
  cases same
  refine ⟨world, next, row, reached, taken, sent, pending, ?_,
    newer_intents_kept _ _ _ _ _ _ world next () _ reached settles taken⟩
  apply Worker.newer_of_events
  intro event member same
  have older : event.eventId ∈ [Sample.eventId 3] := sent ▸ List.mem_map_of_mem member
  rw [← same, of_decide_eq_true named] at older
  revert older
  decide

end Runs

end Lvos.System
