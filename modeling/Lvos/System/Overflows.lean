import Lvos.Server.Merging
import Lvos.Server.Tallies
import Lvos.System.CatchUp

set_option autoImplicit false

namespace Lvos.System

open Lvos.Sync
open Relational (Table)
open Lvos.Server (ServerDb EventFingerprint LogInv Representable Merged SentEvent serveAll
  committedAll favoriteRecord changesSince activeFavorites setFavoriteState aggregateStats
  totalCount snapshotsOf summary)
open Transaction (bind_ok_iff)

/-! The sums of the counts stay inside 64 bits, whatever is pushed. -/

section Reads

variable {φ : Type} {db : ServerDb φ} {userId contentKey : String}

/-- No read of the tables meets a sum that does not fit: each fails only for what the caller
asked, or for a revision that ran out. -/
structure SumsFit (db : ServerDb φ) : Prop where
  sums : ∀ userId contentKey, totalCount db userId contentKey < i64Limit
  record : ∀ userId contentKey, ∃ record, favoriteRecord db userId contentKey = .ok record
  changes : ∀ userId since limit reason, changesSince db userId since limit = .error reason →
    db.users.get userId = none ∨ i64Limit ≤ since ∨ i64Limit ≤ limit
  active : ∀ userId reason, activeFavorites db userId = .error reason →
    db.users.get userId = none
  state : ∀ userId contentKey active baseEntityRevision now reason,
    (setFavoriteState db userId contentKey active baseEntityRevision now).2 = .error reason →
    db.favorites.get (userId, contentKey) = none ∨
      (∃ row, db.favorites.get (userId, contentKey) = some row ∧
        (row.entityRevision ≠ baseEntityRevision ∨ i64Limit ≤ row.entityRevision + 1)) ∨
      db.users.get userId = none ∨
      ∃ revision, db.users.get userId = some revision ∧ i64Limit ≤ revision + 1

theorem totalCount_small (fits : Representable db) (userId contentKey : String) :
    totalCount db userId contentKey < i64Limit := by
  obtain ⟨aggregate, counted⟩ := fits.sums userId contentKey
  cases aggregate with
  | none =>
      have none : Server.deviceStatsOf db userId contentKey = [] := by
        by_contra some
        exact Server.hasCounts_iff.mpr some counted
      rw [totalCount, none]
      decide +kernel
  | some value =>
      rw [← Server.aggregateStats_total counted]
      exact Server.aggregateStats_small counted

theorem favoriteRecord_total (fits : Representable db) (userId contentKey : String) :
    ∃ record, favoriteRecord db userId contentKey = .ok record := by
  unfold favoriteRecord
  split
  · exact ⟨none, rfl⟩
  · rename_i row stored
    obtain ⟨aggregate, counted⟩ := fits.sums userId contentKey
    exact ⟨some (Server.recordOf contentKey row aggregate), by
      simp [counted, bind, Except.bind]⟩

theorem activeRecords_total (fits : Representable db) : ∀ keys : List String,
    (∀ key ∈ keys, (db.favorites.get (userId, key)).isSome) →
    ∃ favorites, Server.activeRecords db userId keys = .ok favorites := by
  intro keys
  induction keys with
  | nil => exact fun _ => ⟨[], rfl⟩
  | cons key rest ih =>
      intro stored
      obtain ⟨row, here⟩ := Option.isSome_iff_exists.mp (stored key List.mem_cons_self)
      obtain ⟨aggregate, counted⟩ := fits.sums userId key
      obtain ⟨favorites, tail⟩ := ih (fun other member =>
        stored other (List.mem_cons_of_mem key member))
      exact ⟨Server.recordOf key row aggregate :: favorites, by
        simp [Server.activeRecords, favoriteRecord, here, counted, tail, bind, Except.bind]⟩

theorem activeKeys_stored {key : String} (member : key ∈ Server.activeKeys db userId) :
    (db.favorites.get (userId, key)).isSome := by
  rw [Server.activeKeys, List.mem_map] at member
  obtain ⟨entry, listed, rfl⟩ := member
  rw [List.mem_insertionSort, List.mem_filter, decide_eq_true_eq] at listed
  obtain ⟨inside, owner, -⟩ := listed
  have stored := (Table.mem_rows_iff db.favorites entry.1 entry.2).mp inside
  rw [← owner]
  exact Option.isSome_iff_exists.mpr ⟨entry.2, stored⟩

theorem activeFavorites_total (fits : Representable db) {latest : Nat}
    (known : db.users.get userId = some latest) :
    ∃ result, activeFavorites db userId = .ok result := by
  obtain ⟨favorites, read⟩ := @activeRecords_total φ db userId fits (Server.activeKeys db userId)
    (fun key member => activeKeys_stored member)
  exact ⟨(favorites, latest), by
    simp [activeFavorites, read, Server.userRevision, known, bind, Except.bind]⟩

theorem recordChange_total {entityRevision latest : Nat} {operation : SyncOperation} {now : Int}
    (known : db.users.get userId = some latest) (userRoom : latest + 1 < i64Limit)
    (entityRoom : entityRevision < i64Limit) :
    ∃ next, Server.recordChange db userId contentKey entityRevision operation now =
        .ok (next, latest + 1) ∧
      next.favorites = db.favorites ∧ next.deviceQueryStats = db.deviceQueryStats := by
  refine ⟨{ db with
    users := db.users.put userId (latest + 1)
    changeLog := db.changeLog.put (userId, latest + 1)
      ⟨contentKey, entityRevision, Server.operationName operation, now⟩ }, ?_, rfl, rfl⟩
  simp only [Server.recordChange, Server.userRevision, known, userRoom, Server.toI64, entityRoom,
    ↓reduceIte, bind, Except.bind]

/-- The write of a state patch fails only when a revision has run out. -/
theorem patchState_total {current : FavoriteRecord} {active : Bool} {now : Int} {latest : Nat}
    (known : db.users.get userId = some latest) (userRoom : latest + 1 < i64Limit)
    (entityRoom : current.entityRevision + 1 < i64Limit) :
    ∃ next changed, Server.patchState db userId contentKey active current now =
        .ok (next, changed) ∧ next.deviceQueryStats = db.deviceQueryStats ∧
      ((db.favorites.get (userId, contentKey)).isSome →
        (next.favorites.get (userId, contentKey)).isSome) := by
  by_cases asked : current.deletedAt.isNone = active
  · exact ⟨db, none, by simp [Server.patchState, asked], rfl, id⟩
  · have wide : current.entityRevision + 1 < u64Limit := by
      have limits : i64Limit < u64Limit := by decide
      omega
    obtain ⟨next, logged, favorites, stats⟩ := @recordChange_total φ
      (Server.updateState db userId contentKey (if active then none else some now)
        (current.entityRevision + 1) now) userId contentKey (current.entityRevision + 1) latest
      (if active then .favoriteUpsert else .favoriteDelete) now known userRoom entityRoom
    refine ⟨next, some (latest + 1), ?_, stats, ?_⟩
    · simp only [Server.patchState, asked, ↓reduceIte, Server.checkedSucc, wide, Server.toI64,
        entityRoom, logged, bind, Except.bind]
    · intro present
      rw [favorites]
      exact Table.isSome_get_update _ _ _ present

/-- A state patch reads the record before and after its own write. -/
theorem setStateBody_total (fits : Representable db) {row : Server.FavoriteRow} {active : Bool}
    {now : Int} {latest : Nat} (stored : db.favorites.get (userId, contentKey) = some row)
    (known : db.users.get userId = some latest) (userRoom : latest + 1 < i64Limit)
    (entityRoom : row.entityRevision + 1 < i64Limit) :
    ∃ next result, Server.setStateBody userId contentKey active row.entityRevision now db =
      .ok (next, result) := by
  obtain ⟨aggregate, counted⟩ := fits.sums userId contentKey
  have read : favoriteRecord db userId contentKey =
      .ok (some (Server.recordOf contentKey row aggregate)) := by
    simp [favoriteRecord, stored, counted, bind, Except.bind]
  obtain ⟨next, changed, patched, stats, kept⟩ := @patchState_total φ db userId contentKey
    (Server.recordOf contentKey row aggregate) active now latest known userRoom entityRoom
  obtain ⟨fresh, found⟩ := Option.isSome_iff_exists.mp (kept (by simp [stored]))
  have again : favoriteRecord next userId contentKey =
      .ok (some (Server.recordOf contentKey fresh aggregate)) := by
    simp [favoriteRecord, found, Server.aggregateStats_congr stats, counted, bind, Except.bind]
  have based : (Server.recordOf contentKey row aggregate).entityRevision = row.entityRevision := rfl
  exact ⟨next, ⟨Server.recordOf contentKey fresh aggregate, changed⟩, by
    simp [Server.setStateBody, read, based, patched, again, bind, Except.bind]⟩

theorem SumsFit.of_representable (inv : LogInv db) (fits : Representable db) : SumsFit db where
  sums := totalCount_small fits
  record := favoriteRecord_total fits
  changes := by
    intro userId since limit reason failed
    by_contra others
    push Not at others
    obtain ⟨known, below, small⟩ := others
    obtain ⟨latest, stored⟩ := Option.ne_none_iff_exists'.mp known
    obtain ⟨page, answered⟩ := changesSince_total inv fits stored below small
    rw [failed] at answered
    cases answered
  active := by
    intro userId reason failed
    by_contra known
    obtain ⟨latest, stored⟩ := Option.ne_none_iff_exists'.mp known
    obtain ⟨result, answered⟩ := activeFavorites_total fits stored
    rw [failed] at answered
    cases answered
  state := by
    intro userId contentKey active base now reason failed
    by_contra others
    push Not at others
    obtain ⟨present, based, known, room⟩ := others
    obtain ⟨row, stored⟩ := Option.ne_none_iff_exists'.mp present
    obtain ⟨same, entityRoom⟩ := based row stored
    obtain ⟨latest, found⟩ := Option.ne_none_iff_exists'.mp known
    obtain ⟨next, result, success⟩ := @setStateBody_total φ db userId contentKey fits row active
      now latest stored found (room latest found) entityRoom
    rw [← same, setFavoriteState, Transaction.atomically_of_ok success] at failed
    cases failed

end Reads

section Pushes

variable {φ : Type} [DecidableEq φ] [EventFingerprint φ]

/-- A batch whose counts would leave 64 bits for one of its contents is refused as a whole. -/
theorem push_exceeding {db : ServerDb φ} {log : List SentEvent} (merged : Merged db log)
    (fits : Representable db) {userId deviceId contentKey : String} {events : List PushEvent}
    {now : Int} {ids : List String} (distinct : ids.Nodup)
    (covered : ∀ id, snapshotsOf (log ++ events.map (fun event => ⟨userId, deviceId, event⟩))
      userId id contentKey ≠ [] → id ∈ ids)
    (exceeds : i64Limit ≤ ((ids.filterMap (fun id => summary (snapshotsOf
      (log ++ events.map (fun event => ⟨userId, deviceId, event⟩)) userId id contentKey))).map
        Server.DeviceStatsRow.queryCount).sum) :
    ∃ reason, Server.pushEvents db userId deviceId events now = (db, .error reason) := by
  cases body : Server.pushBody userId deviceId events now db with
  | error reason => exact ⟨reason, Transaction.atomically_of_error body⟩
  | ok pair =>
      obtain ⟨next, result⟩ := pair
      have looped := Server.pushBody_ok body
      have after := Merged.loop events db log _ _ merged looped
      have nextFits := Server.pushLoop_representable fits looped
      have rows := @Server.deviceStatsOf_perm φ next userId contentKey ids distinct (by
        intro id present
        apply covered id
        intro none
        rw [after.rows, none] at present
        exact present rfl)
      simp only [after.rows] at rows
      have small := totalCount_small nextFits userId contentKey
      rw [totalCount, (rows.map Server.DeviceStatsRow.queryCount).sum_nat] at small
      omega

/-- In every state the requests lead to the sums fit, no read fails on one, and a push that
would exceed one is refused and changes nothing. -/
theorem aggregates_never_overflow (userIds : List String) (devices : List (String × String))
    (actions : List Server.Action) :
    let first : ServerDb φ := ServerDb.initial userIds devices
    let last := serveAll first actions
    let log := committedAll first actions
    SumsFit last ∧
    ∀ userId deviceId (events : List PushEvent) now contentKey (ids : List String),
      let after := log ++ events.map (fun event => ⟨userId, deviceId, event⟩)
      ids.Nodup → (∀ id, snapshotsOf after userId id contentKey ≠ [] → id ∈ ids) →
      i64Limit ≤ ((ids.filterMap (fun id => summary (snapshotsOf after userId id contentKey))).map
        Server.DeviceStatsRow.queryCount).sum →
      ∃ reason, Server.pushEvents last userId deviceId events now = (last, .error reason) := by
  intro first last log
  have inv : LogInv last := serveAll_logInv (LogInv.initial userIds devices) actions
  have fits : Representable last :=
    serveAll_representable (Representable.initial userIds devices) actions
  have merged : Merged last log :=
    Merged.serveAll actions first [] (Merged.initial userIds devices)
  refine ⟨.of_representable inv fits, ?_⟩
  intro userId deviceId events now contentKey ids after distinct covered exceeds
  exact push_exceeding merged fits distinct covered exceeds

end Pushes

/-- A word that two Devices report `count` queries of each. -/
def countedPush (eventId : String) (operation : SyncOperation) (count : Nat) : PushEvent where
  eventId := eventId
  operation := operation
  contentKey := "7df36909cc79f4ffaf2a7af514aa99728ece1c0bbd835c131d829fd5ac74c346"
  keyVersion := 1
  baseEntityRevision := 0
  favorite := if operation = .favoriteUpsert then
    some ⟨"word", "en", "zh-CN", "gift", "gift", "礼物", "tokenhub", 10, 10⟩ else none
  queryStats := some ⟨count, 10, 20, 20⟩

example :
    let first : ServerDb PushEvent := ServerDb.initial ["u"] [("u", "desk"), ("u", "phone")]
    let last := serveAll first [.push "u" "desk" [countedPush "one" .favoriteUpsert (2 ^ 62)] 30]
    (Server.pushEvents last "u" "phone" [countedPush "two" .queryStatsUpsert (2 ^ 62)] 31) =
      (last, Server.database) := by
  decide +kernel

end Lvos.System
