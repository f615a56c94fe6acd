import Lvos.Server.Moves

set_option autoImplicit false

namespace Lvos.Server

open Lvos.Sync
open Relational (Table)
open Transaction (bind_ok_iff)

variable {φ : Type}

/-- The requests that write the sync tables. -/
inductive Action
  | push (userId deviceId : String) (events : List PushEvent) (now : Int)
  | setState (userId contentKey : String) (active : Bool) (baseEntityRevision : Nat) (now : Int)
deriving DecidableEq, Repr

def zeroRevisions (userIds : List String) : Table String Nat :=
  userIds.foldl (fun table userId => table.put userId 0) Table.empty

/-- A server whose accounts and devices exist and have not synchronized yet. -/
def ServerDb.initial (userIds : List String) (devices : List (String × String)) : ServerDb φ where
  users := zeroRevisions userIds
  devices := devices
  favorites := Table.empty
  deviceQueryStats := Table.empty
  processedSyncEvents := Table.empty
  changeLog := Table.empty

theorem zeroRevisions_get {userIds : List String} {userId : String} {revision : Nat}
    (stored : (zeroRevisions userIds).get userId = some revision) : revision = 0 := by
  have general : ∀ (rest : List String) (table : Table String Nat),
      (∀ value, table.get userId = some value → value = 0) →
      ∀ value, (rest.foldl (fun table userId => table.put userId 0) table).get userId =
        some value → value = 0 := by
    intro rest
    induction rest with
    | nil => intro table zero value; exact zero value
    | cons first rest ih =>
        intro table zero
        apply ih
        intro value found
        rw [Table.get_put] at found
        split at found
        · exact (Option.some.inj found).symm
        · exact zero value found
  exact general userIds Table.empty (fun value absent => by simp at absent) revision stored

section Serve

variable [DecidableEq φ] [EventFingerprint φ]

def serve (db : ServerDb φ) : Action → ServerDb φ
  | .push userId deviceId events now => (pushEvents db userId deviceId events now).1
  | .setState userId contentKey active baseEntityRevision now =>
      (setFavoriteState db userId contentKey active baseEntityRevision now).1

def serveAll (db : ServerDb φ) (actions : List Action) : ServerDb φ :=
  actions.foldl serve db

/-- What every move keeps, every request keeps: a request commits a chain of
moves or rolls back. -/
theorem serve_keeps {inv : ServerDb φ → Prop}
    (keeps : ∀ db next userId contentKey operation now, inv db →
      Move db next userId contentKey operation now → inv next)
    (db : ServerDb φ) (action : Action) (holds : inv db) : inv (serve db action) := by
  cases action with
  | push userId deviceId events now =>
      rcases Transaction.atomically_cases (pushBody userId deviceId events now) db with
        same | ⟨next, result, success, committed⟩
      · have final : serve db (.push userId deviceId events now) = db := same
        exact final.symm ▸ holds
      · have looped := pushLoop_induct (fun db next => inv db → inv next)
          (fun _ here => here)
          (fun db next last event outcome pushed rest here =>
            rest (keeps db next userId event.contentKey event.operation now here pushed.move))
          events db next _ _ (pushBody_ok success)
        have final : serve db (.push userId deviceId events now) = next :=
          congrArg Prod.fst committed
        exact final ▸ looped holds
  | setState userId contentKey active baseEntityRevision now =>
      rcases Transaction.atomically_cases
          (setStateBody userId contentKey active baseEntityRevision now) db with
        same | ⟨next, result, success, committed⟩
      · have final : serve db (.setState userId contentKey active baseEntityRevision now) = db :=
          same
        exact final.symm ▸ holds
      · have final : serve db (.setState userId contentKey active baseEntityRevision now) = next :=
          congrArg Prod.fst committed
        exact final ▸ keeps db next userId contentKey _ now holds (setStateBody_ok success).move

theorem serveAll_keeps {inv : ServerDb φ → Prop}
    (keeps : ∀ db action, inv db → inv (serve db action)) (actions : List Action) :
    ∀ db : ServerDb φ, inv db → inv (serveAll db actions) := by
  induction actions with
  | nil => intro db holds; exact holds
  | cons action rest ih => intro db holds; exact ih (serve db action) (keeps db action holds)

end Serve

/-- The change log against the user revisions and the favorites. -/
structure LogInv (db : ServerDb φ) : Prop where
  bounded : ∀ userId revision row, db.changeLog.get (userId, revision) = some row →
    ∃ latest, db.users.get userId = some latest ∧ 1 ≤ revision ∧ revision ≤ latest
  complete : ∀ userId latest revision, db.users.get userId = some latest → 1 ≤ revision →
    revision ≤ latest → (db.changeLog.get (userId, revision)).isSome
  recorded : ∀ userId revision row, db.changeLog.get (userId, revision) = some row →
    ∃ favorite, db.favorites.get (userId, row.contentKey) = some favorite ∧
      row.entityRevision ≤ favorite.entityRevision
  monotone : ∀ userId first second early late, first ≤ second →
    db.changeLog.get (userId, first) = some early →
    db.changeLog.get (userId, second) = some late →
    early.contentKey = late.contentKey → early.entityRevision ≤ late.entityRevision
  latest : ∀ userId contentKey favorite, db.favorites.get (userId, contentKey) = some favorite →
    ∃ revision row, db.changeLog.get (userId, revision) = some row ∧
      row.contentKey = contentKey ∧ row.entityRevision = favorite.entityRevision ∧
      ∀ other later, db.changeLog.get (userId, other) = some later →
        later.contentKey = contentKey → other ≤ revision
  named : ∀ userId revision row, db.changeLog.get (userId, revision) = some row →
    ∃ operation, row.operation = operationName operation

theorem LogInv.initial (userIds : List String) (devices : List (String × String)) :
    LogInv (ServerDb.initial userIds devices : ServerDb φ) where
  bounded := by simp [ServerDb.initial]
  complete := by
    intro userId latest revision stored positive below
    have zero := zeroRevisions_get stored
    omega
  recorded := by simp [ServerDb.initial]
  monotone := by simp [ServerDb.initial]
  latest := by simp [ServerDb.initial]
  named := by simp [ServerDb.initial]

theorem LogInv.congr {db next : ServerDb φ} (inv : LogInv db)
    (favorites : next.favorites = db.favorites) (users : next.users = db.users)
    (changeLog : next.changeLog = db.changeLog) : LogInv next where
  bounded := by rw [changeLog, users]; exact inv.bounded
  complete := by rw [changeLog, users]; exact inv.complete
  recorded := by rw [changeLog, favorites]; exact inv.recorded
  monotone := by rw [changeLog]; exact inv.monotone
  latest := by rw [changeLog, favorites]; exact inv.latest
  named := by rw [changeLog]; exact inv.named

/-- Logging a change keeps the invariant when the favorites hold the logged
revision for its key and no other row moved. -/
theorem LogInv.logged {db next : ServerDb φ} (inv : LogInv db) {userId contentKey : String}
    {favorite : FavoriteRow} {operation : SyncOperation} {now : Int}
    (log : Logged db next userId contentKey favorite.entityRevision operation now)
    (advanced : revisionOf (db.favorites.get (userId, contentKey)) ≤ favorite.entityRevision)
    (favorites : ∀ key, next.favorites.get key =
      if key = (userId, contentKey) then some favorite else db.favorites.get key) :
    LogInv next := by
  obtain ⟨previous, stored, -, users, changeLog⟩ := log
  have old : ∀ owner revision row, (owner, revision) ≠ (userId, previous + 1) →
      next.changeLog.get (owner, revision) = some row →
      db.changeLog.get (owner, revision) = some row := by
    intro owner revision row differs found
    rwa [changeLog, Table.get_put_of_ne _ _ differs] at found
  have top : ∀ row, next.changeLog.get (userId, previous + 1) = some row →
      row = ⟨contentKey, favorite.entityRevision, operationName operation, now⟩ := by
    intro row found
    rw [changeLog, Table.get_put_self] at found
    exact (Option.some.inj found).symm
  have below : ∀ revision row, db.changeLog.get (userId, revision) = some row →
      revision ≤ previous := by
    intro revision row found
    obtain ⟨latest, known, -, bound⟩ := inv.bounded userId revision row found
    rw [stored] at known
    cases known
    exact bound
  have capped : ∀ revision row, db.changeLog.get (userId, revision) = some row →
      row.contentKey = contentKey → row.entityRevision ≤ favorite.entityRevision := by
    intro revision row found same
    obtain ⟨current, present, bound⟩ := inv.recorded userId revision row found
    rw [same] at present
    rw [present, revisionOf_some] at advanced
    exact Nat.le_trans bound advanced
  refine ⟨?_, ?_, ?_, ?_, ?_, ?_⟩
  · intro owner revision row found
    by_cases same : (owner, revision) = (userId, previous + 1)
    · obtain ⟨rfl, rfl⟩ := Prod.mk.inj same
      exact ⟨previous + 1, by rw [users, Table.get_put_self], by omega, Nat.le_refl _⟩
    · obtain ⟨latest, known, positive, bound⟩ := inv.bounded _ _ _ (old _ _ _ same found)
      rw [users]
      by_cases mine : owner = userId
      · subst mine
        rw [stored] at known
        cases known
        exact ⟨previous + 1, Table.get_put_self _ _ _, positive, Nat.le_succ_of_le bound⟩
      · exact ⟨latest, by rw [Table.get_put_of_ne _ _ mine]; exact known, positive, bound⟩
  · intro owner latest revision known positive bound
    rw [users] at known
    rw [changeLog, Table.get_put]
    split
    · rfl
    · rename_i differs
      by_cases mine : owner = userId
      · subst mine
        rw [Table.get_put_self] at known
        cases known
        have inside : revision ≤ previous := by
          by_contra above
          exact differs (by rw [show revision = previous + 1 by omega])
        exact inv.complete owner previous revision stored positive inside
      · rw [Table.get_put_of_ne _ _ mine] at known
        exact inv.complete owner latest revision known positive bound
  · intro owner revision row found
    rw [favorites]
    by_cases same : (owner, revision) = (userId, previous + 1)
    · obtain ⟨rfl, rfl⟩ := Prod.mk.inj same
      obtain rfl := top row found
      exact ⟨favorite, by simp, Nat.le_refl _⟩
    · have earlier := old owner revision row same found
      split
      · rename_i hit
        obtain ⟨rfl, keyed⟩ := Prod.mk.inj hit
        exact ⟨favorite, rfl, capped revision row earlier keyed⟩
      · exact inv.recorded owner revision row earlier
  · intro owner first second early late order foundEarly foundLate keyed
    by_cases newest : (owner, second) = (userId, previous + 1)
    · obtain ⟨rfl, rfl⟩ := Prod.mk.inj newest
      obtain rfl := top late foundLate
      by_cases alsoFirst : first = previous + 1
      · subst alsoFirst
        obtain rfl := top early foundEarly
        exact Nat.le_refl _
      · have earlier := old owner first early (by simpa using alsoFirst) foundEarly
        exact capped first early earlier keyed
    · have lateOld := old owner second late newest foundLate
      have firstOld : (owner, first) ≠ (userId, previous + 1) := by
        intro same
        obtain ⟨rfl, rfl⟩ := Prod.mk.inj same
        have bound := below second late lateOld
        omega
      exact inv.monotone owner first second early late order
        (old owner first early firstOld foundEarly) lateOld keyed
  · intro owner key current present
    rw [favorites] at present
    split at present
    · rename_i hit
      obtain ⟨rfl, rfl⟩ := Prod.mk.inj hit
      obtain rfl := Option.some.inj present
      refine ⟨previous + 1, ⟨key, favorite.entityRevision, operationName operation, now⟩, ?_, rfl,
        rfl, ?_⟩
      · rw [changeLog, Table.get_put_self]
      · intro other later found keyed
        by_cases newest : other = previous + 1
        · omega
        · have bound := below other later (old owner other later (by simpa using newest) found)
          omega
    · rename_i miss
      obtain ⟨revision, row, found, keyed, same, last⟩ := inv.latest owner key current present
      have earlier : (owner, revision) ≠ (userId, previous + 1) := by
        intro hit
        obtain ⟨rfl, rfl⟩ := Prod.mk.inj hit
        have bound := below (previous + 1) row found
        omega
      refine ⟨revision, row, ?_, keyed, same, ?_⟩
      · rw [changeLog, Table.get_put_of_ne _ _ earlier]
        exact found
      · intro other later foundLater keyedLater
        by_cases newest : (owner, other) = (userId, previous + 1)
        · obtain ⟨rfl, rfl⟩ := Prod.mk.inj newest
          obtain rfl := top later foundLater
          exact absurd (congrArg (Prod.mk owner) keyedLater.symm) miss
        · exact last other later (old owner other later newest foundLater) keyedLater
  · intro owner revision row found
    by_cases same : (owner, revision) = (userId, previous + 1)
    · obtain ⟨rfl, rfl⟩ := Prod.mk.inj same
      obtain rfl := top row found
      exact ⟨operation, rfl⟩
    · exact inv.named owner revision row (old owner revision row same found)

theorem LogInv.move {db next : ServerDb φ} {userId contentKey : String}
    {operation : SyncOperation} {now : Int} (inv : LogInv db)
    (move : Move db next userId contentKey operation now) : LogInv next := by
  cases move with
  | quiet favorites users changeLog => exact inv.congr favorites users changeLog
  | stats row present favorites log =>
      refine inv.logged log (by rw [present, revisionOf_some]) ?_
      intro key
      rw [favorites]
      split
      · rename_i same
        exact same ▸ present
      · rfl
  | entity fresh advanced favorites log =>
      exact inv.logged log (by omega) favorites

theorem parseOperation_operationName (operation : SyncOperation) :
    parseOperation (operationName operation) = .ok operation := by
  cases operation <;> decide

theorem mem_pageRows {db : ServerDb φ} {userId : String} {since limit revision : Nat}
    {row : ChangeRow} (member : (revision, row) ∈ pageRows db userId since limit) :
    db.changeLog.get (userId, revision) = some row ∧ since < revision := by
  have sorted := (List.take_sublist _ _).subset member
  rw [List.mem_insertionSort, List.mem_map] at sorted
  obtain ⟨⟨⟨owner, number⟩, stored⟩, kept, same⟩ := sorted
  simp only [List.mem_filter, decide_eq_true_eq] at kept
  obtain ⟨rfl, rfl⟩ := Prod.mk.inj same
  obtain ⟨here, rfl, above⟩ := kept
  exact ⟨(Table.mem_rows_iff _ _ _).mp here, above⟩

/-- A page lookup can fail inside the database only, never on a missing record. -/
theorem pageChanges_found {db : ServerDb φ} (inv : LogInv db) (userId : String) :
    ∀ rows : List (Nat × ChangeRow),
      (∀ entry ∈ rows, db.changeLog.get (userId, entry.1) = some entry.2) →
      pageChanges db userId rows ≠ .error .invalidEvent := by
  intro rows
  induction rows with
  | nil => intro _ failed; cases failed
  | cons entry rest ih =>
      intro logged
      obtain ⟨revision, row⟩ := entry
      have here := logged (revision, row) (by simp)
      obtain ⟨favorite, present, -⟩ := inv.recorded userId revision row here
      obtain ⟨operation, named⟩ := inv.named userId revision row here
      have tail := ih (fun other member => logged other (by simp [member]))
      unfold pageChanges favoriteRecord
      rw [present, named, parseOperation_operationName]
      cases aggregate : aggregateStats db userId row.contentKey with
      | error reason =>
          intro failed
          have same : reason = .invalidEvent := by
            simpa [bind, Except.bind, aggregate] using failed
          subst same
          unfold aggregateStats database at aggregate
          split at aggregate
          · cases aggregate
          · dsimp only at aggregate
            split at aggregate <;> cases aggregate
      | ok total =>
          cases later : pageChanges db userId rest with
          | error reason =>
              intro failed
              have same : reason = .invalidEvent := by
                simpa [bind, Except.bind, aggregate, later] using failed
              exact tail (by rw [later, same])
          | ok changes =>
              intro failed
              simp [bind, Except.bind] at failed

theorem changesSince_found {db : ServerDb φ} (inv : LogInv db) (userId : String)
    {since limit : Nat} (known : (db.users.get userId).isSome) (low : since < i64Limit)
    (small : limit < i64Limit) : changesSince db userId since limit ≠ .error .invalidEvent := by
  obtain ⟨latest, stored⟩ := Option.isSome_iff_exists.mp known
  have found := pageChanges_found inv userId (pageRows db userId since limit)
    (fun entry member => (mem_pageRows member).1)
  unfold changesSince userRevision toI64
  simp only [stored, low, small, ↓reduceIte]
  cases paged : pageChanges db userId (pageRows db userId since limit) with
  | error reason =>
      intro failed
      have same : reason = .invalidEvent := by simpa [bind, Except.bind, paged] using failed
      exact found (by rw [paged, same])
  | ok changes =>
      intro failed
      simp [bind, Except.bind, paged] at failed

/-- The revisions a user's log holds, in table order. -/
def loggedRevisions (db : ServerDb φ) (userId : String) : List Nat :=
  (db.changeLog.rows.filter (fun entry => entry.1.1 = userId)).map (fun entry => entry.1.2)

theorem mem_loggedRevisions (db : ServerDb φ) (userId : String) (revision : Nat) :
    revision ∈ loggedRevisions db userId ↔ (db.changeLog.get (userId, revision)).isSome := by
  constructor
  · intro member
    obtain ⟨⟨⟨owner, number⟩, row⟩, kept, rfl⟩ := List.mem_map.mp member
    simp only [List.mem_filter, decide_eq_true_eq] at kept
    obtain ⟨here, rfl⟩ := kept
    rw [(Table.mem_rows_iff _ _ _).mp here]
    rfl
  · intro present
    obtain ⟨row, stored⟩ := Option.isSome_iff_exists.mp present
    refine List.mem_map.mpr ⟨((userId, revision), row), ?_, rfl⟩
    simpa using (Table.mem_rows_iff _ _ _).mpr stored

theorem loggedRevisions_nodup (db : ServerDb φ) (userId : String) :
    (loggedRevisions db userId).Nodup := by
  have rows : (db.changeLog.rows.filter (fun entry => entry.1.1 = userId)).Nodup :=
    (List.Nodup.of_map _ db.changeLog.unique).filter _
  refine rows.map_on ?_
  rintro ⟨⟨first, early⟩, row⟩ left ⟨⟨second, late⟩, other⟩ right same
  simp only [List.mem_filter, decide_eq_true_eq] at left right
  obtain ⟨leftIn, rfl⟩ := left
  obtain ⟨rightIn, rfl⟩ := right
  obtain rfl : early = late := same
  have leftRow := (Table.mem_rows_iff _ _ _).mp leftIn
  rw [(Table.mem_rows_iff _ _ _).mp rightIn] at leftRow
  rw [Option.some.inj leftRow]

theorem LogInv.exact {db : ServerDb φ} (inv : LogInv db) (userId : String) :
    (loggedRevisions db userId).Perm (List.range' 1 ((db.users.get userId).getD 0)) := by
  refine (List.perm_ext_iff_of_nodup (loggedRevisions_nodup db userId)
    List.nodup_range').mpr ?_
  intro revision
  rw [mem_loggedRevisions, List.mem_range'_1]
  constructor
  · intro present
    obtain ⟨row, stored⟩ := Option.isSome_iff_exists.mp present
    obtain ⟨latest, known, positive, bound⟩ := inv.bounded userId revision row stored
    rw [known, Option.getD_some]
    omega
  · rintro ⟨positive, bound⟩
    cases known : db.users.get userId with
    | none =>
        rw [known, Option.getD_none] at bound
        omega
    | some latest =>
        rw [known, Option.getD_some] at bound
        exact inv.complete userId latest revision known positive (by omega)

section Serve

variable [DecidableEq φ] [EventFingerprint φ]

theorem serveAll_logInv (userIds : List String) (devices : List (String × String))
    (actions : List Action) :
    LogInv (serveAll (ServerDb.initial userIds devices : ServerDb φ) actions) :=
  serveAll_keeps
    (fun db action holds => serve_keeps
      (fun _ _ _ _ _ _ here move => LogInv.move here move) db action holds)
    actions _ (LogInv.initial userIds devices)

/-- After any pushes and state patches of any users, each user's log is exactly
1..`sync_revision`, every logged key has a favorites row, the entity revisions
logged for a key never decrease, the last one is the row's, and a page request
never fails on a missing record. -/
theorem changeLog_exact (userIds : List String) (devices : List (String × String))
    (actions : List Action) (userId : String) :
    let db : ServerDb φ := serveAll (ServerDb.initial userIds devices) actions
    (loggedRevisions db userId).Perm (List.range' 1 ((db.users.get userId).getD 0)) ∧
    (∀ revision row, db.changeLog.get (userId, revision) = some row →
      (db.favorites.get (userId, row.contentKey)).isSome) ∧
    (∀ first second early late, first ≤ second →
      db.changeLog.get (userId, first) = some early →
      db.changeLog.get (userId, second) = some late →
      early.contentKey = late.contentKey → early.entityRevision ≤ late.entityRevision) ∧
    (∀ revision row, db.changeLog.get (userId, revision) = some row →
      (∀ other later, db.changeLog.get (userId, other) = some later →
        later.contentKey = row.contentKey → other ≤ revision) →
      (db.favorites.get (userId, row.contentKey)).map FavoriteRow.entityRevision =
        some row.entityRevision) ∧
    (∀ since limit, (db.users.get userId).isSome → since < i64Limit → limit < i64Limit →
      changesSince db userId since limit ≠ .error .invalidEvent) := by
  intro db
  have inv : LogInv db := serveAll_logInv userIds devices actions
  refine ⟨inv.exact userId, ?_, inv.monotone userId, ?_, ?_⟩
  · intro revision row stored
    obtain ⟨favorite, present, -⟩ := inv.recorded userId revision row stored
    rw [present]
    rfl
  · intro revision row stored last
    obtain ⟨favorite, present, -⟩ := inv.recorded userId revision row stored
    obtain ⟨newest, logged, found, keyed, same, top⟩ :=
      inv.latest userId row.contentKey favorite present
    have equal : newest = revision :=
      Nat.le_antisymm (last newest logged found keyed) (top revision row stored rfl)
    subst equal
    rw [stored] at found
    obtain rfl := Option.some.inj found
    rw [present, Option.map_some, same]
  · intro since limit known low small
    exact changesSince_found inv userId known low small

end Serve

end Lvos.Server
