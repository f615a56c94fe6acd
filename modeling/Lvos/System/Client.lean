import Lvos.Storage.Coverage
import Lvos.System.Exchange
import Lvos.System.Operations
import Lvos.System.Pullable

set_option autoImplicit false

namespace Lvos.System

open Lvos.Core Lvos.Sync Lvos.Storage
open Lvos.Server (ServerDb EventFingerprint UuidParser)
open Desktop (SessionError)
open Transition (run Meets run_keeps_of_meets)

/-! One Device against a network that answers what it likes, whenever it likes. -/

/-- What happens to a Device: the calls of its user, the replacement of its identity, and the
database jobs of its worker, each with the answer it waited for. -/
inductive DeviceAction
  | call (call : Call)
  | replaceDeviceIdentity (expectedCurrent replacement : Uuid) (now : Int)
  | readBatch (now : Int) (limit : Nat)
  | buildBatch
  | settle (reply : Except SessionError PushResponse) (now : Int)
  | pull (reply : Except SessionError ChangesResponse) (now : Int)
  | abandon

/-- The server's record of a content, in a state its endpoints can bring about. -/
def Served (φ : Type) [DecidableEq φ] [EventFingerprint φ] [ContentTables] [UuidParser]
    (key : ContentKey) (record : FavoriteRecord) : Prop :=
  ∃ (maxSyncEventsPerBatch : Nat) (userIds : List String) (devices : List (String × String))
    (requests : List ApiRequest) (userId : String),
    Server.favoriteRecord (answerAll maxSyncEventsPerBatch
      (ServerDb.initial userIds devices : ServerDb φ) requests) userId key.toHex =
      .ok (some record)

/-- The server answers a conflict with its record of the content. -/
def Honest (φ : Type) [DecidableEq φ] [EventFingerprint φ] [ContentTables] [UuidParser]
    (client : Device) : DeviceAction → Prop
  | .settle (.error (.transport (.conflict conflict))) _ =>
      ∀ event record, Desktop.conflictedEvent client.worker.events conflict = some event →
        conflict.current = some record → Served φ event.contentKey record
  | _ => True

/-- Every answer but a conflict is honest as it stands. -/
def DeviceAction.unrefused : DeviceAction → Bool
  | .settle (.error (.transport (.conflict _))) _ => false
  | _ => true

section Steps

variable [ContentTables]

/-- One step of a Device; `none` when its worker does not stand before the job. -/
def deviceStep (client : Device) (action : DeviceAction) : Option Device :=
  let profile := client.profile
  match action, client.worker with
  | .call asked, worker => some ⟨asked.perform profile, worker⟩
  | .replaceDeviceIdentity expectedCurrent replacement now, worker =>
      some ⟨(replaceDeviceIdentity profile expectedCurrent replacement now).1, worker⟩
  | .readBatch now limit, .idle =>
      match readyOutboxEvents profile now limit with
      | .ok events => some ⟨profile, .batched events⟩
      | .error _ => some ⟨profile, .idle⟩
  | .buildBatch, .batched events =>
      match Desktop.buildEvents profile events with
      | .ok request => some ⟨profile, .pushing events request⟩
      | .error _ => some ⟨profile, .idle⟩
  | .settle reply now, .pushing events request =>
      some ⟨(Desktop.settlePush profile events request reply now).1, .idle⟩
  | .pull reply now, .idle => some ⟨(Desktop.pullPage profile reply now).1, .idle⟩
  | .abandon, _ => some ⟨profile, .idle⟩
  | _, _ => none

end Steps

section Moves

variable {φ : Type} [DecidableEq φ] [EventFingerprint φ] [ContentTables] [UuidParser]
  {client next : Device} {key : ContentKey} {record : FavoriteRecord}

omit [EventFingerprint φ] [DecidableEq φ] [ContentTables] [UuidParser] in
theorem favoriteRecord_keyed {db : ServerDb φ} {userId contentKey : String}
    (read : Server.favoriteRecord db userId contentKey = .ok (some record)) :
    record.contentKey = contentKey ∧
      ∃ row, db.favorites.get (userId, contentKey) = some row ∧
        record.favorite = row.favorite := by
  rcases Server.favoriteRecord_ok read with ⟨-, impossible⟩ | ⟨row, aggregate, stored, -, same⟩
  · cases impossible
  · cases same
    exact ⟨rfl, row, stored, rfl⟩

theorem Served.keyed (served : Served φ key record) : record.contentKey = key.toHex := by
  obtain ⟨_, _, _, _, _, read⟩ := served
  exact (favoriteRecord_keyed read).1

theorem Served.legible (served : Served φ key record) : Legible record.favorite := by
  obtain ⟨maxSyncEventsPerBatch, userIds, devices, requests, userId, read⟩ := served
  obtain ⟨-, row, stored, same⟩ := favoriteRecord_keyed read
  have servable := answerAll_servable maxSyncEventsPerBatch requests
    (ServerDb.initial userIds devices : ServerDb φ) (Servable.initial userIds devices)
  rw [same]
  exact (servable.rows userId _ row stored).identified.legible

theorem honest_of_unrefused {actions : List DeviceAction}
    (unrefused : actions.all DeviceAction.unrefused = true) (client : Device) :
    Meets deviceStep (Honest φ) client actions := by
  refine Transition.meets_of_forall (fun action member state => ?_) client
  have answered := List.all_eq_true.mp unrefused action member
  unfold Honest
  split
  · cases answered
  · trivial

/-- What a step does to the profile and to the worker. -/
inductive DeviceMove (client next : Device) : DeviceAction → Prop
  | called (asked : Call) (written : next.profile = asked.perform client.profile)
      (stays : next.worker = client.worker) : DeviceMove client next (.call asked)
  | replaced (expectedCurrent replacement : Uuid) (now : Int)
      (written : next.profile =
        (replaceDeviceIdentity client.profile expectedCurrent replacement now).1)
      (stays : next.worker = client.worker) :
      DeviceMove client next (.replaceDeviceIdentity expectedCurrent replacement now)
  | read (now : Int) (limit : Nat) (events : List OutboxEvent)
      (ready : readyOutboxEvents client.profile now limit = .ok events)
      (same : next.profile = client.profile) (batched : next.worker = .batched events) :
      DeviceMove client next (.readBatch now limit)
  | built (events : List OutboxEvent) (request : List PushEvent)
      (batched : client.worker = .batched events)
      (built : Desktop.buildEvents client.profile events = .ok request)
      (same : next.profile = client.profile) (pushing : next.worker = .pushing events request) :
      DeviceMove client next .buildBatch
  | acknowledged (response : PushResponse) (now : Int) (events : List OutboxEvent)
      (request : List PushEvent) (items : List AcknowledgedEvent)
      (pushing : client.worker = .pushing events request)
      (matched : Desktop.matchAcknowledgements events request response.acknowledgements =
        .ok items)
      (written : next.profile = (acknowledgeEvents client.profile items now).1)
      (idle : next.worker = .idle) : DeviceMove client next (.settle (.ok response) now)
  | resolved (conflict : Server.SyncConflict) (now : Int) (event : OutboxEvent)
      (chosen : Desktop.conflictedEvent client.worker.events conflict = some event)
      (written : next.profile = (resolveConflict client.profile event conflict.current now).1)
      (idle : next.worker = .idle) :
      DeviceMove client next (.settle (.error (.transport (.conflict conflict))) now)
  | retried (reply : Except SessionError PushResponse) (events : List OutboxEvent)
      (nextRetryAt now : Int)
      (written : next.profile =
        markRetry client.profile events nextRetryAt Desktop.serverUnavailable now)
      (idle : next.worker = .idle) : DeviceMove client next (.settle reply now)
  | pulled (reply : Except SessionError ChangesResponse) (changes : List SyncChange)
      (nextRevision : Nat) (now : Int)
      (written : next.profile = (applyRemotePage client.profile changes nextRevision now).1)
      (idle : next.worker = .idle) : DeviceMove client next (.pull reply now)
  | noted (action : DeviceAction) (error : String) (now : Int)
      (written : next.profile = setSyncError client.profile error now)
      (idle : next.worker = .idle) : DeviceMove client next action
  | dropped (action : DeviceAction) (same : next.profile = client.profile)
      (idle : next.worker = .idle) : DeviceMove client next action

omit [UuidParser] in
theorem settlePush_moves {profile : ProfileDb} {events : List OutboxEvent}
    {request : List PushEvent} {reply : Except SessionError PushResponse} {now : Int} :
    DeviceMove ⟨profile, .pushing events request⟩
      ⟨(Desktop.settlePush profile events request reply now).1, .idle⟩ (.settle reply now) := by
  unfold Desktop.settlePush
  split
  · rename_i response
    split
    · exact .dropped _ rfl rfl
    · rename_i items matched
      rw [fromDatabase_fst]
      exact .acknowledged response now events request items rfl matched rfl rfl
  · rename_i conflict
    split
    · exact .dropped _ rfl rfl
    · rename_i event chosen
      rw [fromDatabase_fst]
      exact .resolved conflict now event chosen rfl rfl
  · rename_i error other
    split
    · rcases Desktop.retryLater_cases profile events now with
        ⟨reason, failed⟩ | ⟨retryAt, -, later⟩
      · rw [failed]
        exact .dropped _ rfl rfl
      · rw [later]
        exact .retried _ events retryAt now rfl rfl
    · split
      · exact .noted _ error.text now rfl rfl
      · exact .dropped _ rfl rfl

omit [UuidParser] in
theorem pullPage_moves {profile : ProfileDb} {reply : Except SessionError ChangesResponse}
    {now : Int} : DeviceMove ⟨profile, .idle⟩ ⟨(Desktop.pullPage profile reply now).1, .idle⟩
      (.pull reply now) := by
  unfold Desktop.pullPage
  split
  · rename_i error
    split
    · exact .noted _ Desktop.serverUnavailable now rfl rfl
    · exact .noted _ error.text now rfl rfl
  · rename_i response
    have moved : DeviceMove ⟨profile, .idle⟩
        ⟨(applyRemotePage profile response.changes response.nextRevision now).1, .idle⟩
        (.pull (.ok response) now) :=
      .pulled _ response.changes response.nextRevision now rfl rfl
    split
    · rename_i after reason applied
      rw [applied] at moved
      exact moved
    · rename_i after done applied
      rw [applied] at moved
      split
      · exact moved
      · split
        · exact moved
        · exact moved

omit [UuidParser] in
theorem deviceStep_moves {action : DeviceAction}
    (taken : deviceStep client action = some next) : DeviceMove client next action := by
  obtain ⟨profile, worker⟩ := client
  cases action with
  | call asked =>
      cases taken
      exact .called asked rfl rfl
  | replaceDeviceIdentity expectedCurrent replacement now =>
      cases taken
      exact .replaced expectedCurrent replacement now rfl rfl
  | readBatch now limit =>
      cases worker with
      | idle =>
          simp only [deviceStep] at taken
          split at taken
          · rename_i events ready
            cases taken
            exact .read now limit events ready rfl rfl
          · cases taken
            exact .dropped _ rfl rfl
      | _ => cases taken
  | buildBatch =>
      cases worker with
      | batched events =>
          simp only [deviceStep] at taken
          split at taken
          · rename_i request built
            cases taken
            exact .built events request rfl built rfl rfl
          · cases taken
            exact .dropped _ rfl rfl
      | _ => cases taken
  | settle reply now =>
      cases worker with
      | pushing events request =>
          simp only [deviceStep, Option.some.injEq] at taken
          subst taken
          exact settlePush_moves
      | _ => cases taken
  | pull reply now =>
      cases worker with
      | idle =>
          simp only [deviceStep, Option.some.injEq] at taken
          subst taken
          exact pullPage_moves
      | _ => cases taken
  | abandon =>
      cases taken
      exact .dropped _ rfl rfl

omit [ContentTables] [UuidParser] in
theorem grows_of_same {db after : ProfileDb} (favorites : after.favorites = db.favorites)
    (stats : after.queryStats = db.queryStats) : Grows db after := by
  refine ⟨fun key here => ?_, fun key stored here found => ⟨stored, ?_, le_rfl, le_rfl⟩⟩
  · rw [favorites]
    exact here
  · rw [stats]
    exact found

omit [UuidParser] in
/-- A call of the user, whatever the rows of the profile are based on. -/
theorem call_indexed {profile : ProfileDb} (indexed : Indexed profile) (call : Call) :
    Indexed (call.perform profile) ∧ Grows profile (call.perform profile) := by
  have moves := call.moves profile
  generalize call.perform profile = performed at moves
  induction moves with
  | refl => exact ⟨indexed, .refl profile⟩
  | tail _ move ih => exact ⟨ih.1.localMove move, ih.2.trans (move.grows ih.1)⟩

omit [UuidParser] in
theorem call_ownStats {profile : ProfileDb} (own : OwnStats profile) (call : Call) :
    OwnStats (call.perform profile) := by
  have moves := call.moves profile
  generalize call.perform profile = performed at moves
  induction moves with
  | refl => exact own
  | tail _ move ih => exact ih.localMove move

omit [UuidParser] in
/-- Only a replacement takes counts back. -/
theorem DeviceMove.grows {action : DeviceAction} (move : DeviceMove client next action)
    (indexed : Indexed client.profile) :
    Grows client.profile next.profile ∨ ∃ expectedCurrent replacement now,
      action = .replaceDeviceIdentity expectedCurrent replacement now ∧ next.profile =
        (replaceDeviceIdentity client.profile expectedCurrent replacement now).1 := by
  have same : next.profile = client.profile → Grows client.profile next.profile :=
    fun equal => grows_of_same (by rw [equal]) (by rw [equal])
  cases move with
  | called asked written stays =>
      left
      rw [written]
      exact (call_indexed indexed asked).2
  | replaced expectedCurrent replacement now written stays =>
      exact Or.inr ⟨expectedCurrent, replacement, now, rfl, written⟩
  | read now limit events ready unchanged batched => exact Or.inl (same unchanged)
  | built events request batched built unchanged pushing => exact Or.inl (same unchanged)
  | acknowledged response now events request items pushing matched written idle =>
      left
      rw [written]
      exact (@acknowledgeEvents_taken (fun _ _ _ => True) items now client.profile
        (fun _ _ _ _ => trivial)).grows
  | resolved conflict now event chosen written idle =>
      left
      rw [written]
      exact (@resolveConflict_taken (fun _ _ _ => True) event conflict.current now client.profile
        (fun _ _ _ _ _ _ => trivial)).grows
  | retried reply events nextRetryAt now written idle =>
      left
      have kept := markRetry_favorites client.profile events nextRetryAt
        Desktop.serverUnavailable now
      rw [written]
      exact grows_of_same kept.1 kept.2.1
  | pulled reply changes nextRevision now written idle =>
      left
      rw [written]
      exact (@applyRemotePage_taken (fun _ _ _ => True) _ changes nextRevision now client.profile
        (fun _ _ _ _ _ _ => trivial)).grows
  | noted action error now written idle =>
      left
      rw [written]
      exact grows_of_same rfl rfl
  | dropped action unchanged idle => exact Or.inl (same unchanged)

omit [UuidParser] in
theorem DeviceMove.present {action : DeviceAction} (move : DeviceMove client next action)
    (indexed : Indexed client.profile) (here : (client.profile.favorites.get key).isSome) :
    (next.profile.favorites.get key).isSome := by
  rcases move.grows indexed with grows | ⟨expectedCurrent, replacement, now, -, written⟩
  · exact grows.present key here
  · rw [written, (replaceDeviceIdentity_frame client.profile expectedCurrent replacement now).2]
    exact here

omit [UuidParser] in
/-- Only a call of the user writes to the history. -/
theorem DeviceMove.history {action : DeviceAction} (move : DeviceMove client next action) :
    next.profile.historyEntries = client.profile.historyEntries ∨
      ∃ asked, next.profile = Call.perform client.profile asked := by
  cases move with
  | called asked written stays => exact Or.inr ⟨asked, written⟩
  | replaced expectedCurrent replacement now written stays =>
      left
      rw [written]
      exact (replaceDeviceIdentity_frame client.profile expectedCurrent replacement now).1
  | read now limit events ready same batched => exact Or.inl (by rw [same])
  | built events request batched built same pushing => exact Or.inl (by rw [same])
  | acknowledged response now events request items pushing matched written idle =>
      exact Or.inl (by rw [written, acknowledgeEvents_history])
  | resolved conflict now event chosen written idle =>
      exact Or.inl (by rw [written, resolveConflict_history])
  | retried reply events nextRetryAt now written idle =>
      left
      rw [written]
      exact (markRetry_favorites client.profile events nextRetryAt _ now).2.2.1
  | pulled reply changes nextRevision now written idle =>
      exact Or.inl (by rw [written, applyRemotePage_history])
  | noted action error now written idle => exact Or.inl (by rw [written]; rfl)
  | dropped action same idle => exact Or.inl (by rw [same])

/-- The Outbox, and the content of what the worker holds. -/
structure Standing (client : Device) : Prop where
  outbox : OutboxInv client.profile
  inside : ∀ event ∈ client.worker.events,
    (client.profile.favorites.get event.contentKey).isSome

omit [ContentTables] [UuidParser] in
theorem Standing.initial (profileId : Uuid) (deviceId : String) (now : Int) :
    Standing ⟨ProfileDb.initial profileId deviceId now, .idle⟩ :=
  ⟨.initial profileId deviceId now, fun _ member => absurd member List.not_mem_nil⟩

theorem DeviceMove.outbox {action : DeviceAction} (move : DeviceMove client next action)
    (honest : Honest φ client action) (inv : OutboxInv client.profile) :
    OutboxInv next.profile := by
  cases move with
  | called asked written stays =>
      rw [written]
      exact outboxInv_call inv asked
  | replaced expectedCurrent replacement now written stays =>
      rw [written]
      exact inv.replaceDeviceIdentity expectedCurrent replacement now
  | read now limit events ready same batched =>
      rw [same]
      exact inv
  | built events request batched built same pushing =>
      rw [same]
      exact inv
  | acknowledged response now events request items pushing matched written idle =>
      rw [written]
      exact inv.acknowledgeEvents items now
  | resolved conflict now event chosen written idle =>
      rw [written]
      exact inv.resolveConflict now
        (fun record current => (honest event record chosen current).keyed)
  | retried reply events nextRetryAt now written idle =>
      rw [written]
      exact inv.markRetry events nextRetryAt Desktop.serverUnavailable now
  | pulled reply changes nextRevision now written idle =>
      rw [written]
      exact inv.applyRemotePage changes nextRevision now
  | noted action error now written idle =>
      obtain ⟨issued, shape⟩ := inv.shape
      rw [written]
      exact inv.kept (shape.congr rfl rfl) (.refl client.profile) rfl
  | dropped action same idle =>
      rw [same]
      exact inv

omit [UuidParser] in
/-- A worker holds what it held, or what it has just read. -/
theorem DeviceMove.holds {action : DeviceAction} (move : DeviceMove client next action)
    {event : OutboxEvent} (member : event ∈ next.worker.events) :
    event ∈ client.worker.events ∨
      client.profile.syncOutbox.get event.coalesceKey = some event.toOutboxRow := by
  have settled : next.worker = .idle → event ∈ client.worker.events ∨
      client.profile.syncOutbox.get event.coalesceKey = some event.toOutboxRow := by
    intro idle
    rw [idle] at member
    cases member
  cases move with
  | called asked written stays => exact Or.inl (stays ▸ member)
  | replaced expectedCurrent replacement now written stays => exact Or.inl (stays ▸ member)
  | read now limit events ready same batched =>
      rw [batched] at member
      exact Or.inr ((readyOutboxEvents_ok ready).2.1 event member).1
  | built events request batched built same pushing =>
      rw [pushing] at member
      rw [batched]
      exact Or.inl member
  | acknowledged response now events request items pushing matched written idle =>
      exact settled idle
  | resolved conflict now event chosen written idle => exact settled idle
  | retried reply events nextRetryAt now written idle => exact settled idle
  | pulled reply changes nextRevision now written idle => exact settled idle
  | noted action error now written idle => exact settled idle
  | dropped action same idle => exact settled idle

theorem Standing.moved {action : DeviceAction} (standing : Standing client)
    (honest : Honest φ client action) (move : DeviceMove client next action) : Standing next := by
  refine ⟨move.outbox honest standing.outbox,
    fun event member => move.present standing.outbox.indexed ?_⟩
  rcases move.holds member with held | stored
  · exact standing.inside event held
  · exact standing.outbox.indexed.inDomain stored

end Moves

end Lvos.System
