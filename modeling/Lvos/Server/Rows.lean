import Lvos.Server.Evolution

set_option autoImplicit false

namespace Lvos.Server

open Lvos.Sync
open Relational (Table)
open Transaction (bind_ok_iff)

variable {φ : Type}

/-- A property of stored Favorite rows that the state `UPDATE`s keep. -/
def KeptByState (held : String → FavoriteRow → Prop) : Prop :=
  ∀ contentKey row deletedAt entityRevision now, 0 < entityRevision →
    entityRevision < i64Limit → held contentKey row →
    held contentKey (stateRow deletedAt entityRevision now row)

/-- The row an event's upsert may write has it. -/
def BroughtBy (held : String → FavoriteRow → Prop) (event : PushEvent) : Prop :=
  ∀ snapshot entityRevision now, event.operation = .favoriteUpsert →
    event.favorite = some snapshot → 0 < entityRevision → entityRevision < i64Limit →
    held event.contentKey ⟨event.keyVersion, snapshot, none, entityRevision, now⟩

def RowsHold (held : String → FavoriteRow → Prop) (db : ServerDb φ) : Prop :=
  ∀ userId contentKey row, db.favorites.get (userId, contentKey) = some row →
    held contentKey row

variable {held : String → FavoriteRow → Prop} {db next : ServerDb φ}
  {userId deviceId contentKey : String} {event : PushEvent} {now : Int}

theorem RowsHold.congr (rows : RowsHold held db) (favorites : next.favorites = db.favorites) :
    RowsHold held next := by
  intro owner key row stored
  rw [favorites] at stored
  exact rows owner key row stored

theorem RowsHold.put (rows : RowsHold held db) {row : FavoriteRow} (here : held contentKey row) :
    RowsHold held { db with favorites := db.favorites.put (userId, contentKey) row } := by
  intro owner key other stored
  rw [Table.get_put] at stored
  split at stored
  · rename_i same
    cases same
    cases stored
    exact here
  · exact rows owner key other stored

theorem RowsHold.updateState (rows : RowsHold held db) (kept : KeptByState held)
    {row : FavoriteRow} (present : db.favorites.get (userId, contentKey) = some row)
    {deletedAt : Option Int} {entityRevision : Nat} (positive : 0 < entityRevision)
    (small : entityRevision < i64Limit) :
    RowsHold held (Server.updateState db userId contentKey deletedAt entityRevision now) := by
  intro owner key other stored
  rw [updateState_get db userId contentKey deletedAt entityRevision now present] at stored
  split at stored
  · rename_i same
    cases same
    cases stored
    exact kept contentKey row deletedAt entityRevision now positive small
      (rows userId contentKey row present)
  · exact rows owner key other stored

theorem applyEntity_rows {current : Option FavoriteRecord} {entityRevision : Option Nat}
    {changed : Bool} (rows : RowsHold held db) (kept : KeptByState held)
    (brought : BroughtBy held event)
    (found : favoriteRecord db userId event.contentKey = .ok current)
    (success : applyEntity db userId event current now = .ok (next, entityRevision, changed)) :
    RowsHold held next := by
  unfold applyEntity at success
  dsimp only at success
  split at success
  · rename_i upsert
    split at success
    · cases success
    · rename_i snapshot given
      obtain ⟨nextRevision, succ, rest⟩ := bind_ok_iff.mp success
      have successor := checkedSucc_ok succ
      split at rest
      · cases rest
        exact rows
      · obtain ⟨written, upserted, same⟩ := bind_ok_iff.mp rest
        cases same
        have small : nextRevision < i64Limit := by
          unfold upsertFavorite at upserted
          obtain ⟨revision, fits, -⟩ := bind_ok_iff.mp upserted
          exact (toI64_ok fits).2
        rw [upsertFavorite_ok upserted]
        exact rows.put (brought snapshot nextRevision now upsert given (by omega) small)
  · split at success
    · cases success
    · split at success
      · cases success
      · rename_i value
        split at success
        · obtain ⟨succRevision, succ, rest⟩ := bind_ok_iff.mp success
          obtain ⟨nextRevision, fits, written⟩ := bind_ok_iff.mp rest
          have successor := checkedSucc_ok succ
          obtain ⟨rfl, small⟩ := toI64_ok fits
          cases written
          rcases favoriteRecord_ok found with ⟨absent, missing⟩ | ⟨row, aggregate, stored, -⟩
          · cases missing
          · exact rows.updateState kept stored (by omega) small
        · cases success
          exact rows
  · split at success
    · cases success
    · cases success
      exact rows

theorem applyEvent_rows {outcome : EventOutcome} (rows : RowsHold held db)
    (kept : KeptByState held) (brought : BroughtBy held event)
    (success : applyEvent db userId deviceId event now = .ok (next, outcome)) :
    RowsHold held next := by
  unfold applyEvent at success
  obtain ⟨current, found, afterFound⟩ := bind_ok_iff.mp success
  obtain ⟨-, -, afterBase⟩ := bind_ok_iff.mp afterFound
  obtain ⟨⟨written, entityRevision, entityChanged⟩, entity, afterEntity⟩ :=
    bind_ok_iff.mp afterBase
  obtain ⟨⟨counted, statsChanged, aggregate⟩, stats, afterStats⟩ := bind_ok_iff.mp afterEntity
  obtain ⟨⟨logged, revision⟩, finish, same⟩ := bind_ok_iff.mp afterStats
  cases same
  have entityRows := applyEntity_rows rows kept brought found entity
  have statsRows : RowsHold held counted := by
    rcases applyStats_ok stats with ⟨-, rfl⟩ | ⟨-, -, table, rfl⟩
    · exact entityRows
    · exact entityRows.congr rfl
  rcases finishChange_ok finish with ⟨-, rfl, -⟩ | ⟨-, entity, previous, -, -, -, -, rfl⟩
  · exact statsRows
  · exact statsRows.congr rfl

theorem setStateBody_rows {active : Bool} {baseEntityRevision : Nat}
    {result : MutationResult FavoriteRecord} (rows : RowsHold held db) (kept : KeptByState held)
    (success : setStateBody userId contentKey active baseEntityRevision now db =
      .ok (next, result)) : RowsHold held next := by
  unfold setStateBody at success
  obtain ⟨found, looked, rest⟩ := bind_ok_iff.mp success
  rcases favoriteRecord_ok looked with ⟨absent, rfl⟩ | ⟨row, aggregate, stored, -, rfl⟩
  · cases rest
  · dsimp only at rest
    split at rest
    · unfold conflictWith at rest
      obtain ⟨latest, -, impossible⟩ := bind_ok_iff.mp rest
      cases impossible
    · obtain ⟨⟨patched, changed⟩, patch, reread⟩ := bind_ok_iff.mp rest
      obtain ⟨again, -, final⟩ := bind_ok_iff.mp reread
      have last : next = patched := by
        cases again with
        | none => cases final
        | some value => exact (Prod.mk.inj (Except.ok.inj final)).1.symm
      subst last
      unfold patchState at patch
      split at patch
      · cases patch
        exact rows
      · obtain ⟨successor, succ, narrow⟩ := bind_ok_iff.mp patch
        obtain ⟨entity, fits, logStep⟩ := bind_ok_iff.mp narrow
        obtain ⟨⟨logged, revision⟩, log, same⟩ := bind_ok_iff.mp logStep
        cases same
        have advanced := checkedSucc_ok succ
        obtain ⟨rfl, small⟩ := toI64_ok fits
        obtain ⟨previous, latest, -, inside, rfl⟩ := recordChange_ok log
        exact (rows.updateState kept stored (by omega) small).congr rfl

section Requests

variable [DecidableEq φ] [EventFingerprint φ]

theorem pushEvent_rows {outcome : EventOutcome} (rows : RowsHold held db)
    (kept : KeptByState held) (brought : BroughtBy held event)
    (success : pushEvent db userId deviceId event now = .ok (next, outcome)) :
    RowsHold held next := by
  unfold pushEvent at success
  dsimp only at success
  obtain ⟨found, -, rest⟩ := bind_ok_iff.mp success
  cases found with
  | some ack =>
      cases rest
      exact rows
  | none =>
      obtain ⟨⟨middle, result⟩, applied, storing⟩ := bind_ok_iff.mp rest
      obtain ⟨final, stored, same⟩ := bind_ok_iff.mp storing
      cases same
      have written := storeAck_ok stored
      exact (applyEvent_rows rows kept brought applied).congr (by rw [written])

/-- A batch keeps what each of its upserts brings. -/
theorem pushLoop_rows (kept : KeptByState held) : ∀ (events : List PushEvent) (db next : ServerDb φ)
    (acks : List PushAck) (changed : Option Nat), (∀ event ∈ events, BroughtBy held event) →
    RowsHold held db → pushLoop userId deviceId now events db = .ok (next, acks, changed) →
    RowsHold held next := by
  intro events
  induction events with
  | nil =>
      intro db next acks changed _ rows success
      rw [(pushLoop_nil success).1]
      exact rows
  | cons event rest ih =>
      intro db next acks changed brought rows success
      unfold pushLoop at success
      obtain ⟨⟨middle, outcome⟩, head, tailStep⟩ := bind_ok_iff.mp success
      obtain ⟨⟨last, later, tailChanged⟩, tail, same⟩ := bind_ok_iff.mp tailStep
      cases same
      have middleRows := pushEvent_rows rows kept (brought event List.mem_cons_self) head
      exact ih middle next later tailChanged
        (fun other member => brought other (List.mem_cons_of_mem event member)) middleRows tail

end Requests

end Lvos.Server
