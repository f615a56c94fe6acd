import Lvos.System.KnownContent
import Lvos.System.Legible

set_option autoImplicit false

namespace Lvos.System

open Lvos.Core Lvos.Sync Lvos.Storage
open Relational (Table)
open Lvos.Server (EventFingerprint UuidParser)
open Transition (run Meets run_keeps_of_meets)
open Transaction (bind_ok_iff)

/-! What the job that builds a request needs of the rows it reads. -/

/-- The content was queried on this Device since it last got a new identity. -/
def Positive (db : ProfileDb) (key : ContentKey) : Prop :=
  ∃ stats, db.queryStats.get key = some stats ∧ 0 < stats.deviceQueryCount

/-- The rows the payload of an event is made of. -/
def Buildable (db : ProfileDb) (event : OutboxEvent) : Prop :=
  match event.operation with
  | .favoriteUpsert => isActive (db.favorites.get event.contentKey) = true
  | .favoriteDelete => True
  | .queryStatsUpsert => Positive db event.contentKey

section Build

variable {db : ProfileDb}

/-- The job reads the row, if there is one. -/
theorem favoriteByKey_of_legible (legible : AllLegible db) (key : ContentKey) :
    (db.favorites.get key = none ∧ favoriteByKey db key = .ok none) ∨
      ∃ row favorite, db.favorites.get key = some row ∧
        favoriteByKey db key = .ok (some favorite) ∧ favorite.deletedAt = row.deletedAt := by
  unfold favoriteByKey favoriteTx
  cases stored : db.favorites.get key with
  | none => exact Or.inl ⟨rfl, rfl⟩
  | some row =>
      obtain ⟨favorite, read⟩ :=
        readFavorite_of_legible "language code" "language code" key (legible key row stored)
      refine Or.inr ⟨row, favorite, rfl, ?_, (readFavorite_ok read).1⟩
      simp only [parseFavorite, read, bind, Except.bind]

theorem sentStats_ne_none (key : ContentKey) :
    sentStats (db.queryStats.get key) ≠ none ↔ Positive db key := by
  unfold Positive sentStats
  cases db.queryStats.get key with
  | none => simp
  | some stats =>
      by_cases counted : 0 < stats.deviceQueryCount
      · simp [counted]
      · simp [counted]

theorem sentSnapshot_of_legible (legible : AllLegible db) {key : ContentKey}
    {found : Option Favorite} (looked : favoriteByKey db key = .ok found)
    (operation : OutboxOperation) :
    (∃ snapshot, sentSnapshot operation found = .ok snapshot) ↔
      (operation = .favoriteUpsert → isActive (db.favorites.get key) = true) := by
  have active : found.filter (fun value => value.deletedAt.isNone) = none ↔
      isActive (db.favorites.get key) = false := by
    rcases favoriteByKey_of_legible legible key with
      ⟨absent, read⟩ | ⟨row, favorite, stored, read, same⟩
    · rw [read] at looked
      cases looked
      simp [absent, isActive]
    · rw [read] at looked
      cases looked
      simp [stored, isActive, same, Option.isSome_iff_ne_none]
  cases operation with
  | favoriteUpsert =>
      unfold sentSnapshot
      cases kept : found.filter (fun value => value.deletedAt.isNone) with
      | none => simp [active.mp kept]
      | some favorite =>
          have present : isActive (db.favorites.get key) = true := by
            by_contra inactive
            rw [active.mpr (by simpa using inactive)] at kept
            cases kept
          simp [present]
  | favoriteDelete => exact ⟨fun _ => by rintro ⟨⟩, fun _ => ⟨none, rfl⟩⟩
  | queryStatsUpsert => exact ⟨fun _ => by rintro ⟨⟩, fun _ => ⟨none, rfl⟩⟩

theorem pushEvent_iff (legible : AllLegible db) (event : OutboxEvent) :
    (∃ sent, pushEvent db event = .ok sent) ↔ Buildable db event := by
  have looked : ∃ found, favoriteByKey db event.contentKey = .ok found := by
    rcases favoriteByKey_of_legible legible event.contentKey with
      ⟨-, read⟩ | ⟨row, favorite, -, read, -⟩
    · exact ⟨none, read⟩
    · exact ⟨some favorite, read⟩
  obtain ⟨found, looked⟩ := looked
  have rendered := sentSnapshot_of_legible legible looked event.operation
  have counted := @sentStats_ne_none db event.contentKey
  unfold Buildable
  constructor
  · rintro ⟨sent, success⟩
    obtain ⟨other, snapshot, again, shown, stats, -⟩ := pushEvent_ok success
    have equal : other = found := Option.some.inj (by
      have both := (show favoriteByKey db event.contentKey = .ok other from again).symm.trans looked
      exact congrArg some (Except.ok.inj both))
    subst equal
    cases asked : event.operation with
    | favoriteUpsert => exact rendered.mp ⟨snapshot, shown⟩ asked
    | favoriteDelete => trivial
    | queryStatsUpsert => exact counted.mp (stats asked)
  · intro ready
    have shown : ∃ snapshot, sentSnapshot event.operation found = .ok snapshot := by
      apply rendered.mpr
      intro asked
      rw [asked] at ready
      exact ready
    obtain ⟨snapshot, shown⟩ := shown
    have present : ¬ (event.operation = .queryStatsUpsert ∧
        sentStats (db.queryStats.get event.contentKey) = none) := by
      rintro ⟨asked, missing⟩
      rw [asked] at ready
      exact counted.mpr ready missing
    unfold pushEvent
    simp only [looked, shown, bind, Except.bind, if_neg present]
    exact ⟨_, rfl⟩

/-- The job succeeds on a batch exactly if the rows of every event are there. -/
theorem buildEvents_iff (legible : AllLegible db) (events : List OutboxEvent) :
    (∃ request, Desktop.buildEvents db events = .ok request) ↔
      ∀ event ∈ events, Buildable db event := by
  induction events with
  | nil => simp [Desktop.buildEvents]
  | cons event rest ih =>
      have opened : Desktop.buildEvents db (event :: rest) = pushEvent db event >>= fun sent =>
          Desktop.buildEvents db rest >>= fun others => .ok (sent :: others) := rfl
      rw [List.forall_mem_cons, ← ih, ← pushEvent_iff legible, opened]
      constructor
      · rintro ⟨request, success⟩
        obtain ⟨sent, head, afterHead⟩ := bind_ok_iff.mp success
        obtain ⟨others, tail, -⟩ := bind_ok_iff.mp afterHead
        exact ⟨⟨sent, head⟩, others, tail⟩
      · rintro ⟨⟨sent, head⟩, others, tail⟩
        exact ⟨sent :: others, bind_ok_iff.mpr ⟨sent, head, bind_ok_iff.mpr ⟨others, tail, rfl⟩⟩⟩

end Build

section Counts

variable {db next : ProfileDb}

/-- Every pending statistics row has something to report. -/
def PendingCounted (db : ProfileDb) : Prop :=
  ∀ deviceId key row, db.syncOutbox.get (.queryStats deviceId key) = some row → Positive db key

/-- In the Favorite domain a count is never taken back. -/
theorem Positive.grows {key : ContentKey} (positive : Positive db key) (grows : Grows db next)
    (inside : (db.favorites.get key).isSome = true) : Positive next key := by
  obtain ⟨stats, stored, counted⟩ := positive
  obtain ⟨later, there, more, -⟩ := grows.stats key stats inside stored
  exact ⟨later, there, Nat.lt_of_lt_of_le counted more⟩

theorem PendingCounted.kept (pending : PendingCounted db) (inv : OutboxInv db)
    (rows : OutboxKept db next) (grows : Grows db next) : PendingCounted next := by
  intro deviceId key row stored
  obtain ⟨old, here, -⟩ := rows (.queryStats deviceId key) row stored
  obtain ⟨issued, shape⟩ := inv.shape
  exact (pending deviceId key old here).grows grows (shape.stats deviceId key old here).present

/-- A statistics row a user's write leaves was there, or reports what was just counted. -/
theorem LocalMove.statsRow {input : Input} (move : LocalMove input db next) {deviceId : String}
    {key : ContentKey} {row : OutboxRow}
    (stored : next.syncOutbox.get (.queryStats deviceId key) = some row) :
    db.syncOutbox.get (.queryStats deviceId key) = some row ∨ Positive next key := by
  have same : next.syncOutbox = db.syncOutbox →
      db.syncOutbox.get (.queryStats deviceId key) = some row ∨ Positive next key := by
    intro equal
    rw [equal] at stored
    exact Or.inl stored
  cases move with
  | history entry given changed => exact same (by rw [changed]; rfl)
  | baseline entry given changed =>
      exact same (by rw [changed, (insertHistoryWithZeroStats_favorites db entry).2.1])
  | counted entry stats given count outside changed => exact same (by rw [changed]; rfl)
  | reported entry stats eventId favorite given new count inside unused changed =>
      subst changed
      dsimp only at stored
      rw [Table.get_put] at stored
      split at stored
      · rename_i own
        cases own
        refine Or.inr ⟨stats, Table.get_put_self _ _ _, ?_⟩
        unfold countQuery at count
        split at count
        · cases count
          exact Nat.one_pos
        · split at count
          · cases count
            exact Nat.succ_pos _
          · cases count
      · exact Or.inl stored
  | favorited target now eventId entry stats new known counted inactive unused changed =>
      subst changed
      dsimp only at stored
      rw [Table.get_put_of_ne _ _ (by rintro ⟨⟩)] at stored
      exact Or.inl stored
  | archived favorite given absent deleted changed => exact same (by rw [changed]; rfl)
  | folded target now favorite here active unsynced changed =>
      subst changed
      rw [deleteCoalesced_get, deleteCoalesced_get] at stored
      split at stored
      · cases stored
      · split at stored
        · cases stored
        · exact Or.inl stored
  | withdrawn target now eventId favorite stats new here active synced unused changed =>
      subst changed
      dsimp only at stored
      rw [Table.get_put_of_ne _ _ (by rintro ⟨⟩), Table.get_delete_key] at stored
      split at stored
      · cases stored
      · exact Or.inl stored
  | cleared changed => exact same (by rw [changed]; rfl)

theorem PendingCounted.call [ContentTables] (pending : PendingCounted db) (inv : OutboxInv db)
    (call : Call) : PendingCounted (call.perform db) := by
  have moves := call.moves db
  generalize call.perform db = performed at moves
  suffices kept : OutboxInv performed ∧ PendingCounted performed from kept.2
  induction moves with
  | refl => exact ⟨inv, pending⟩
  | tail _ move ih =>
      obtain ⟨issued, shape⟩ := ih.1.shape
      refine ⟨ih.1.localMove move call.ids (fun _ given => given), ?_⟩
      intro deviceId key row stored
      rcases LocalMove.statsRow move stored with here | counted
      · exact (ih.2 deviceId key row here).grows (move.grows shape.indexed)
          (shape.stats deviceId key row here).present
      · exact counted

/-- What the Device has counted of a content and the server does not have. -/
def Unsynced (db : ProfileDb) (key : ContentKey) : Prop :=
  ∃ stats, db.queryStats.get key = some stats ∧
    stats.lastSyncedDeviceQueryCount < stats.deviceQueryCount

theorem Unsynced.replaced {key : ContentKey} {expectedCurrent replacement : Uuid} {now : Int}
    (unsynced : Unsynced db key) (replaced : Replaced db next expectedCurrent replacement now) :
    Positive next key := by
  obtain ⟨stats, stored, ahead⟩ := unsynced
  refine ⟨Storage.unsynced stats, ?_, Nat.sub_pos_of_lt ahead⟩
  rw [replaced.stats_get, stored]
  rfl

end Counts

/-- The condition on a step: the user does not withdraw a Favorite whose addition was read and
is not built yet, and the identity is not replaced while statistics are to be reported of a
content the server has all counts of. -/
def Undisturbed (φ : Type) [DecidableEq φ] [EventFingerprint φ] [ContentTables] [UuidParser]
    (client : Device) : DeviceAction → Prop
  | .call (.unfavorite key _ _) => ∀ events, client.worker = .batched events →
      ∀ event ∈ events, event.operation = .favoriteUpsert → event.contentKey ≠ key
  | .replaceDeviceIdentity _ _ _ =>
      (∀ deviceId key row, client.profile.syncOutbox.get (.queryStats deviceId key) = some row →
        Unsynced client.profile key) ∧
      ∀ events, client.worker = .batched events → ∀ event ∈ events,
        event.operation = .queryStatsUpsert → Unsynced client.profile event.contentKey
  | action => Honest φ client action

section Runs

variable {φ : Type} [DecidableEq φ] [EventFingerprint φ] [ContentTables] [UuidParser]
  {client next : Device} {db : ProfileDb}

theorem Undisturbed.honest {action : DeviceAction} (undisturbed : Undisturbed φ client action) :
    Honest φ client action := by
  unfold Undisturbed at undisturbed
  split at undisturbed
  · trivial
  · trivial
  · exact undisturbed

omit [DecidableEq φ] [EventFingerprint φ] [UuidParser] in
/-- Only a withdrawal makes an active Favorite inactive. -/
theorem call_keepsActive (covered : Covered db) (call : Call) {key : ContentKey}
    (keeps : ∀ now eventId, call ≠ .unfavorite key now eventId)
    (active : isActive (db.favorites.get key) = true) :
    isActive ((call.perform db).favorites.get key) = true := by
  cases call with
  | query entry eventId =>
      have same := (@recordSuccessfulQuery_move (Call.query entry eventId).input db entry eventId
        rfl (List.mem_singleton_self eventId)).2
      show isActive ((recordSuccessfulQuery db entry eventId).1.favorites.get key) = true
      rw [same]
      exact active
  | favorite target now eventId =>
      have toggled := @favorite_toggled (Call.favorite target now eventId).input db target now
        eventId (List.mem_singleton_self eventId)
      show isActive ((favorite db target now eventId).1.favorites.get key) = true
      by_cases own : key = target
      · subst own
        cases answered : (favorite db key now eventId).2 with
        | error reason =>
            rw [toggled.failed reason answered]
            exact active
        | ok value => exact toggled.state value answered
      · rw [toggled.others key own]
        exact active
  | unfavorite target now eventId =>
      have toggled := @unfavorite_toggled (Call.unfavorite target now eventId).input db target now
        eventId (List.mem_singleton_self eventId)
      show isActive ((unfavorite db target now eventId).1.favorites.get key) = true
      rw [toggled.others key (by
        rintro rfl
        exact keeps now eventId rfl)]
      exact active
  | importData document now eventIds =>
      exact (importPortable_covered covered document now eventIds).2 key active
  | clearHistory => exact active

/-- What every undisturbed step of a Device keeps of the batch it has read. -/
structure Building (client : Device) : Prop where
  inventory : Inventory client
  legible : AllLegible client.profile
  pending : PendingCounted client.profile
  ready : ∀ events, client.worker = .batched events →
    ∀ event ∈ events, Buildable client.profile event

omit [ContentTables] [UuidParser] in
theorem Building.initial (profileId : Uuid) (deviceId : String) (now : Int) :
    Building ⟨ProfileDb.initial profileId deviceId now, .idle⟩ where
  inventory := .initial profileId deviceId now
  legible := by
    intro key row stored
    cases stored
  pending := by
    intro other key row stored
    cases stored
  ready := by
    rintro events ⟨⟩

theorem DeviceMove.pendingCounted {action : DeviceAction}
    (move : DeviceMove client next action) (standing : Standing client)
    (undisturbed : Undisturbed φ client action) (pending : PendingCounted client.profile) :
    PendingCounted next.profile := by
  have kept : OutboxKept client.profile next.profile →
      (∀ expectedCurrent replacement now,
        action ≠ .replaceDeviceIdentity expectedCurrent replacement now) →
      PendingCounted next.profile := by
    intro rows other
    refine pending.kept standing.outbox rows ?_
    rcases move.grows standing.outbox.indexed with
      grows | ⟨expectedCurrent, replacement, now, same, -⟩
    · exact grows
    · exact absurd same (other expectedCurrent replacement now)
  cases move with
  | called asked written stays =>
      rw [written]
      exact pending.call standing.outbox asked
  | replaced expectedCurrent replacement now written stays =>
      rw [written]
      refine replaceDeviceIdentity_keeps client.profile expectedCurrent replacement now pending ?_
      intro after replaced deviceId key row stored
      obtain ⟨-, before, old, here, -⟩ := replaced.report_get standing.outbox.indexed stored
      exact (undisturbed.1 before key old here).replaced replaced
  | read now limit events ready same batched => rwa [same]
  | built events request batched built same pushing => rwa [same]
  | acknowledged response now events request items pushing matched written idle =>
      refine kept ?_ (by rintro _ _ _ ⟨⟩)
      rw [written]
      exact acknowledgeEvents_rows items now client.profile
  | resolved conflict now event chosen written idle =>
      refine kept ?_ (by rintro _ _ _ ⟨⟩)
      rw [written]
      exact resolveConflict_rows client.profile event conflict.current now
  | retried reply events nextRetryAt now written idle =>
      refine kept ?_ (by rintro _ _ _ ⟨⟩)
      rw [written]
      exact markRetry_rows client.profile events nextRetryAt Desktop.serverUnavailable now
  | pulled reply changes nextRevision now written idle =>
      refine kept ?_ (by rintro _ _ _ ⟨⟩)
      rw [written]
      exact applyRemotePage_rows client.profile changes nextRevision now
  | noted action error now written idle =>
      rw [written]
      exact pending
  | dropped action same idle => rwa [same]

omit [ContentTables] [UuidParser] in
/-- A batch that was just read is of rows that agree with the Favorites. -/
theorem Building.read (building : Building client) {now : Int} {limit : Nat}
    {events : List OutboxEvent}
    (ready : readyOutboxEvents client.profile now limit = .ok events) :
    ∀ event ∈ events, Buildable client.profile event := by
  intro event member
  have stored := ((readyOutboxEvents_ok ready).2.1 event member).1
  have represents := building.inventory.standing.outbox.represents
  unfold Buildable
  cases asked : event.operation with
  | favoriteUpsert =>
      obtain ⟨favorite, here, active⟩ := represents.upsert _ _ stored asked
      simp [isActive, here, active]
  | favoriteDelete => trivial
  | queryStatsUpsert =>
      have filed := represents.filed _ _ stored
      unfold CoalesceKey.of at filed
      rw [asked] at filed
      rw [filed] at stored
      exact building.pending _ _ _ stored

omit [UuidParser] in
theorem Buildable.called {event : OutboxEvent} (ready : Buildable client.profile event)
    (inventory : Inventory client) (member : event ∈ client.worker.events) (call : Call)
    (keeps : ∀ now eventId, event.operation = .favoriteUpsert →
      call ≠ .unfavorite event.contentKey now eventId) :
    Buildable (call.perform client.profile) event := by
  unfold Buildable at ready ⊢
  cases asked : event.operation with
  | favoriteUpsert =>
      rw [asked] at ready
      exact call_keepsActive inventory.covered call
        (fun now eventId => keeps now eventId asked) ready
  | favoriteDelete => trivial
  | queryStatsUpsert =>
      rw [asked] at ready
      exact Positive.grows ready (call_indexed inventory.standing.outbox.indexed call).2
        (inventory.standing.inside event member)

theorem Building.moved {action : DeviceAction} (building : Building client)
    (undisturbed : Undisturbed φ client action) (move : DeviceMove client next action) :
    Building next where
  inventory := building.inventory.moved undisturbed.honest move
  legible := move.legible undisturbed.honest building.legible
  pending := move.pendingCounted building.inventory.standing undisturbed building.pending
  ready := by
    intro events batched event member
    have unread : next.worker = .idle → Buildable next.profile event := by
      intro idle
      rw [idle] at batched
      cases batched
    cases move with
    | called asked written stays =>
        have before := stays.symm.trans batched
        rw [written]
        refine (building.ready events before event member).called building.inventory ?_ asked ?_
        · rw [before]
          exact member
        · rintro now eventId upsert rfl
          exact undisturbed events before event member upsert rfl
    | replaced expectedCurrent replacement now written stays =>
        have before := stays.symm.trans batched
        have ready := building.ready events before event member
        rw [written]
        refine @replaceDeviceIdentity_keeps (fun db => Buildable db event) client.profile
          expectedCurrent replacement now ready ?_
        intro after replaced
        unfold Buildable at ready ⊢
        cases asked : event.operation with
        | favoriteUpsert =>
            rw [asked] at ready
            dsimp only
            rw [replaced.favorites]
            exact ready
        | favoriteDelete => trivial
        | queryStatsUpsert =>
            exact (undisturbed.2 events before event member asked).replaced replaced
    | read now limit others ready same read =>
        cases read.symm.trans batched
        rw [same]
        exact building.read ready event member
    | built others request earlier built same pushing =>
        cases pushing.symm.trans batched
    | acknowledged response now others request items pushing matched written idle =>
        exact unread idle
    | resolved conflict now other chosen written idle => exact unread idle
    | retried reply others nextRetryAt now written idle => exact unread idle
    | pulled reply changes nextRevision now written idle => exact unread idle
    | noted action error now written idle => exact unread idle
    | dropped action same idle => exact unread idle

/-- As long as no step disturbs it, a batch that was read can be built, whatever else the user
does in between. -/
theorem batch_builds {profileId : Uuid} {deviceId : String} {now : Int}
    {actions : List DeviceAction}
    (reached : run deviceStep ⟨ProfileDb.initial profileId deviceId now, .idle⟩ actions =
      some client)
    (undisturbed : Meets deviceStep (Undisturbed φ)
      ⟨ProfileDb.initial profileId deviceId now, .idle⟩ actions)
    {events : List OutboxEvent} (batched : client.worker = .batched events) :
    ∃ request, Desktop.buildEvents client.profile events = .ok request := by
  have building : Building client := run_keeps_of_meets
    (fun _ _ _ holds calm taken => holds.moved calm (deviceStep_moves taken))
    actions _ client (Building.initial profileId deviceId now) undisturbed reached
  exact (buildEvents_iff building.legible events).mpr (building.ready events batched)

end Runs

section Witness

attribute [local instance] Sample.tables Sample.parser

/-- The word is queried once more while its Favorite waits to be sent. -/
def queriedDesk : List DeviceAction :=
  [.call (.query (Sample.gift 60) (Sample.eventId 1)),
    .call (.favorite Sample.giftKey 61 (Sample.eventId 2)), .readBatch 62 10,
    .call (.query (Sample.gift 63) (Sample.eventId 3))]

theorem batch_builds_queried : ∃ client events,
    run deviceStep ⟨ProfileDb.initial (Sample.eventId 0) "desk" 50, .idle⟩ queriedDesk =
      some client ∧
    client.worker = .batched events ∧ events ≠ [] ∧
    ∃ request, Desktop.buildEvents client.profile events = .ok request := by
  have facts : (run deviceStep ⟨ProfileDb.initial (Sample.eventId 0) "desk" 50, .idle⟩
      queriedDesk).any (fun client => decide (client.worker = .batched client.worker.events ∧
        client.worker.events ≠ [])) = true := by
    decide +kernel
  obtain ⟨client, reached, read⟩ := (Option.any_eq_true _ _).mp facts
  obtain ⟨batched, waiting⟩ := of_decide_eq_true read
  have undisturbed : Meets deviceStep (Undisturbed PushEvent)
      ⟨ProfileDb.initial (Sample.eventId 0) "desk" 50, .idle⟩ queriedDesk := by
    apply Transition.meets_of_forall
    intro action member state
    simp only [queriedDesk, List.mem_cons, List.not_mem_nil, or_false] at member
    rcases member with rfl | rfl | rfl | rfl <;> trivial
  exact ⟨client, client.worker.events, reached, batched, waiting,
    batch_builds reached undisturbed batched⟩

/-- The Favorite is withdrawn between the two jobs. -/
def withdrawnDesk : List DeviceAction :=
  [.call (.query (Sample.gift 60) (Sample.eventId 1)),
    .call (.favorite Sample.giftKey 61 (Sample.eventId 2)), .readBatch 62 10,
    .call (.unfavorite Sample.giftKey 63 (Sample.eventId 3))]

/-- The word is queried again before the server has the Favorite, which brings it all counts,
and then the identity is replaced. -/
def revokedDesk : List DeviceAction :=
  [.call (.query (Sample.gift 60) (Sample.eventId 1)),
    .call (.favorite Sample.giftKey 61 (Sample.eventId 2)),
    .call (.query (Sample.gift 62) (Sample.eventId 3)), .readBatch 63 1, .buildBatch,
    .settle (.ok ⟨[⟨(Sample.eventId 2).text, .applied, some 1, 1, some ⟨2, 60, 62⟩⟩], 1⟩) 64,
    .replaceDeviceIdentity (Sample.eventId 8) (Sample.eventId 9) 65, .readBatch 66 10]

/-- Both ways a batch that was read cannot be built. -/
theorem batch_builds_disturbed :
    (run deviceStep ⟨ProfileDb.initial (Sample.eventId 0) (Sample.eventId 8).text 50, .idle⟩
      withdrawnDesk).any (fun client => client.worker = .batched client.worker.events ∧
        Desktop.buildEvents client.profile client.worker.events =
          .error (.invalidData "active Favorite is missing")) = true ∧
    (run deviceStep ⟨ProfileDb.initial (Sample.eventId 0) (Sample.eventId 8).text 50, .idle⟩
      revokedDesk).any (fun client => client.worker = .batched client.worker.events ∧
        Desktop.buildEvents client.profile client.worker.events =
          .error (.invalidData "sync QueryStats are missing")) = true := by
  refine ⟨?_, ?_⟩
  · decide
  · decide

end Witness

end Lvos.System
