import Lvos.Storage.DeviceIdentity

set_option autoImplicit false

namespace Lvos.Storage

open Lvos.Core Lvos.Sync
open Relational (Table)

/-! What every writer of `sync_outbox` and `favorites` keeps between the two. -/

/-- The key `coalesce_key` has to be. -/
def CoalesceKey.of (deviceId : String) (row : OutboxRow) : CoalesceKey :=
  match row.operation with
  | .favoriteUpsert | .favoriteDelete => favoriteCoalesceKey row.contentKey
  | .queryStatsUpsert => queryStatsCoalesceKey row.contentKey deviceId

/-- What the Outbox says about the Favorites of a Profile. -/
structure Represents (db : ProfileDb) : Prop where
  filed : ∀ coalesceKey row, db.syncOutbox.get coalesceKey = some row →
    coalesceKey = .of db.profileMeta.deviceId row
  single : ∀ first second row other, db.syncOutbox.get first = some row →
    db.syncOutbox.get second = some other → row.contentKey = other.contentKey →
    isFavoriteOperation row.operation = isFavoriteOperation other.operation → first = second
  known : ∀ coalesceKey row, db.syncOutbox.get coalesceKey = some row →
    (db.favorites.get row.contentKey).isSome
  upsert : ∀ coalesceKey row, db.syncOutbox.get coalesceKey = some row →
    row.operation = .favoriteUpsert →
    ∃ favorite, db.favorites.get row.contentKey = some favorite ∧ favorite.deletedAt = none
  delete : ∀ coalesceKey row, db.syncOutbox.get coalesceKey = some row →
    row.operation = .favoriteDelete →
    ∃ favorite, db.favorites.get row.contentKey = some favorite ∧ favorite.deletedAt.isSome
  base : ∀ coalesceKey row, db.syncOutbox.get coalesceKey = some row →
    isFavoriteOperation row.operation = true →
    ∃ favorite, db.favorites.get row.contentKey = some favorite ∧
      row.baseEntityRevision = some favorite.entityRevision

/-- The shape of the Outbox, whatever ids were handed out, under the own Device. -/
structure OutboxInv (db : ProfileDb) : Prop where
  shape : ∃ issued, Shape issued db
  own : OwnStats db

theorem OutboxInv.initial (profileId : Uuid) (deviceId : String) (now : Int) :
    OutboxInv (ProfileDb.initial profileId deviceId now) where
  shape := ⟨[], .initial profileId deviceId now⟩
  own := by
    intro other key row stored
    cases stored

section Rows

variable {db next : ProfileDb}

/-- Rows that were there, over a Favorite domain that has lost nothing. -/
theorem Indexed.kept (indexed : Indexed db) (kept : OutboxKept db next) (grows : Grows db next) :
    Indexed next where
  favorites := by
    intro key row stored
    obtain ⟨old, here, -, contentKey, operation⟩ := kept _ row stored
    obtain ⟨named, favorite, present⟩ := indexed.favorites key old here
    exact ⟨contentKey.trans named, by rw [operation]; exact favorite, grows.present key present⟩
  stats := by
    intro deviceId key row stored
    obtain ⟨old, here, -, contentKey, operation⟩ := kept _ row stored
    obtain ⟨named, reported, present⟩ := indexed.stats deviceId key old here
    exact ⟨contentKey.trans named, operation.trans reported, grows.present key present⟩

theorem Indexed.replaceDeviceIdentity (indexed : Indexed db) (expectedCurrent replacement : Uuid)
    (now : Int) : Indexed (replaceDeviceIdentity db expectedCurrent replacement now).1 :=
  replaceDeviceIdentity_keeps db expectedCurrent replacement now indexed
    (fun _ replaced => indexed.replaced replaced)

theorem OwnStats.replaceDeviceIdentity (own : OwnStats db) (indexed : Indexed db)
    (expectedCurrent replacement : Uuid) (now : Int) :
    OwnStats (Storage.replaceDeviceIdentity db expectedCurrent replacement now).1 :=
  replaceDeviceIdentity_keeps db expectedCurrent replacement now own
    (fun _ replaced => .replaced indexed replaced)

theorem OutboxInv.indexed (inv : OutboxInv db) : Indexed db := by
  obtain ⟨issued, shape⟩ := inv.shape
  exact shape.indexed

/-- A stored row, under the key it has: the intent of a content, or its statistics. -/
theorem OutboxInv.row (inv : OutboxInv db) {coalesceKey : CoalesceKey} {row : OutboxRow}
    (stored : db.syncOutbox.get coalesceKey = some row) :
    (coalesceKey = .favorite row.contentKey ∧
        Pending (db.favorites.get row.contentKey) row.contentKey row) ∨
      (coalesceKey = .queryStats db.profileMeta.deviceId row.contentKey ∧
        PendingStats (db.favorites.get row.contentKey) row.contentKey row) := by
  obtain ⟨issued, shape⟩ := inv.shape
  cases coalesceKey with
  | favorite key =>
      left
      have pending := shape.favorites key row stored
      rw [pending.contentKey]
      exact ⟨rfl, pending⟩
  | queryStats deviceId key =>
      right
      have pending := shape.stats deviceId key row stored
      rw [pending.contentKey, inv.own deviceId key row stored]
      exact ⟨rfl, pending⟩

theorem OutboxInv.represents (inv : OutboxInv db) : Represents db where
  filed := by
    intro coalesceKey row stored
    unfold CoalesceKey.of
    rcases inv.row stored with ⟨filed, pending⟩ | ⟨filed, pending⟩
    · rcases pending.state with ⟨upsert, -⟩ | ⟨delete, -⟩
      · rw [upsert]
        exact filed
      · rw [delete]
        exact filed
    · rw [pending.operation]
      exact filed
  single := by
    intro first second row other here there sameKey sameKind
    rcases inv.row here with ⟨filed, pending⟩ | ⟨filed, pending⟩
    · rcases inv.row there with ⟨filedToo, -⟩ | ⟨-, stats⟩
      · rw [filed, filedToo, sameKey]
      · rw [pending.operation, stats.operation] at sameKind
        cases sameKind
    · rcases inv.row there with ⟨-, favorite⟩ | ⟨filedToo, -⟩
      · rw [pending.operation, favorite.operation] at sameKind
        cases sameKind
      · rw [filed, filedToo, sameKey]
  known := by
    intro coalesceKey row stored
    exact inv.indexed.inDomain stored
  upsert := by
    intro coalesceKey row stored asked
    rcases inv.row stored with ⟨-, pending⟩ | ⟨-, pending⟩
    · rcases pending.state with ⟨-, favorite, here, active, -⟩ | ⟨delete, -⟩
      · exact ⟨favorite, here, active⟩
      · rw [asked] at delete
        cases delete
    · have stats := pending.operation
      rw [asked] at stats
      cases stats
  delete := by
    intro coalesceKey row stored asked
    rcases inv.row stored with ⟨-, pending⟩ | ⟨-, pending⟩
    · rcases pending.state with ⟨upsert, -⟩ | ⟨-, favorite, here, deleted⟩
      · rw [asked] at upsert
        cases upsert
      · exact ⟨favorite, here, deleted⟩
    · have stats := pending.operation
      rw [asked] at stats
      cases stats
  base := by
    intro coalesceKey row stored asked
    rcases inv.row stored with ⟨-, pending⟩ | ⟨-, pending⟩
    · obtain ⟨favorite, here⟩ := pending.present
      refine ⟨favorite, here, ?_⟩
      rw [pending.base, here, revisionOf_some]
    · rw [pending.operation] at asked
      cases asked

/-- Rows that were there, under the same Device. -/
theorem OutboxInv.kept (inv : OutboxInv db) {issued : List Uuid} (shape : Shape issued next)
    (kept : OutboxKept db next) (device : next.profileMeta.deviceId = db.profileMeta.deviceId) :
    OutboxInv next := by
  refine ⟨⟨issued, shape⟩, inv.own.kept ?_ device⟩
  intro coalesceKey row stored
  obtain ⟨old, here, -⟩ := kept coalesceKey row stored
  exact ⟨old, here⟩

theorem OutboxInv.localMove {input : Input} (inv : OutboxInv db)
    (move : LocalMove input db next) (ids : List Uuid) (given : ∀ id, input.fresh id → id ∈ ids) :
    OutboxInv next := by
  obtain ⟨issued, shape⟩ := inv.shape
  have wider : Shape (ids ++ issued) db :=
    shape.weaken (fun id member => List.mem_append_right ids member)
  exact ⟨⟨ids ++ issued, wider.localMove move
    (fun id new => List.mem_append_left issued (given id new))⟩, inv.own.localMove move⟩

theorem OutboxInv.replaceDeviceIdentity (inv : OutboxInv db) (expectedCurrent replacement : Uuid)
    (now : Int) : OutboxInv (replaceDeviceIdentity db expectedCurrent replacement now).1 := by
  obtain ⟨issued, shape⟩ := inv.shape
  refine ⟨⟨issued, ?_⟩, inv.own.replaceDeviceIdentity shape.indexed expectedCurrent replacement now⟩
  exact replaceDeviceIdentity_keeps db expectedCurrent replacement now shape
    (fun _ replaced => shape.replaced replaced)

theorem Shape.acknowledgeEvents {issued : List Uuid} (shape : Shape issued db)
    (items : List AcknowledgedEvent) (now : Int) :
    Shape issued (acknowledgeEvents db items now).1 := by
  refine Transaction.atomically_keeps (acknowledgeBody items now) db shape ?_
  rintro last ⟨⟩ success
  obtain ⟨reached, looped, rfl⟩ := acknowledgeBody_ok success
  have kept := acknowledgeLoop_induct (fun _ db last => Shape issued db → Shape issued last)
    (fun _ here => here)
    (fun item rest db middle last head tail here => by
      obtain ⟨-, table, -, written⟩ := acknowledgeEvent_ok head
      apply tail
      rw [written]
      exact here.acknowledged item.event item.acknowledgement.entityRevision table)
    items db reached looped shape
  exact kept.congr rfl rfl

theorem Shape.resolveConflict {issued : List Uuid} (shape : Shape issued db) {event : OutboxEvent}
    {current : Option FavoriteRecord} (now : Int)
    (keyed : ∀ remote, current = some remote → remote.contentKey = event.contentKey.toHex) :
    Shape issued (resolveConflict db event current now).1 := by
  refine Transaction.atomically_keeps (resolveConflictBody event current now) db shape ?_
  intro last resolution success
  exact shape.resolved (resolveConflictBody_ok success).2 keyed

theorem Shape.applyRemotePage [ContentTables] {issued : List Uuid} (shape : Shape issued db)
    (changes : List SyncChange) (nextRevision : Nat) (now : Int) :
    Shape issued (applyRemotePage db changes nextRevision now).1 := by
  refine Transaction.atomically_keeps (applyRemotePageBody changes nextRevision now) db shape ?_
  rintro last ⟨⟩ success
  obtain ⟨reached, looped, rfl⟩ := applyRemotePage_ok success
  have kept := applyRemoteLoop_induct (fun _ db last => Shape issued db → Shape issued last)
    (fun _ here => here)
    (fun change rest db middle last key keyed valid pulled tail here =>
      tail (here.pulled pulled)) changes db reached _ _ looped shape
  exact kept.congr rfl rfl

theorem OutboxInv.acknowledgeEvents (inv : OutboxInv db) (items : List AcknowledgedEvent)
    (now : Int) : OutboxInv (acknowledgeEvents db items now).1 := by
  obtain ⟨issued, shape⟩ := inv.shape
  have taken := @acknowledgeEvents_taken (fun _ _ _ => True) items now db
    (fun _ _ _ _ => trivial)
  exact inv.kept (shape.acknowledgeEvents items now) (acknowledgeEvents_rows items now db)
    taken.deviceId

theorem OutboxInv.resolveConflict (inv : OutboxInv db) {event : OutboxEvent}
    {current : Option FavoriteRecord} (now : Int)
    (keyed : ∀ remote, current = some remote → remote.contentKey = event.contentKey.toHex) :
    OutboxInv (resolveConflict db event current now).1 := by
  obtain ⟨issued, shape⟩ := inv.shape
  exact inv.kept (shape.resolveConflict now keyed) (resolveConflict_rows db event current now)
    (resolveConflict_profileMeta event current now db).1

theorem OutboxInv.applyRemotePage [ContentTables] (inv : OutboxInv db) (changes : List SyncChange)
    (nextRevision : Nat) (now : Int) :
    OutboxInv (applyRemotePage db changes nextRevision now).1 := by
  obtain ⟨issued, shape⟩ := inv.shape
  have taken := @applyRemotePage_taken (fun _ _ _ => True) _ changes nextRevision now db
    (fun _ _ _ _ _ _ => trivial)
  exact inv.kept (shape.applyRemotePage changes nextRevision now)
    (applyRemotePage_rows db changes nextRevision now) taken.deviceId

theorem OutboxInv.markRetry (inv : OutboxInv db) (events : List OutboxEvent) (nextRetryAt : Int)
    (error : String) (now : Int) : OutboxInv (markRetry db events nextRetryAt error now) := by
  obtain ⟨issued, shape⟩ := inv.shape
  exact inv.kept (shape.markRetry events nextRetryAt error now)
    (markRetry_rows db events nextRetryAt error now)
    (markRetry_favorites db events nextRetryAt error now).2.2.2.2

end Rows

end Lvos.Storage
