import Lvos.Server.Api
import Lvos.Server.ExactlyOnce

set_option autoImplicit false

namespace Lvos.Server

open Lvos.Sync
open Relational (Table)
open Transaction (bind_ok_iff)

variable {φ : Type}

/-- The log holds a change of the content that a reader at `cursor` has not seen. -/
def Behind (db : ServerDb φ) (userId : String) (cursor : Nat) (contentKey : String) : Prop :=
  ∃ revision row, cursor < revision ∧ db.changeLog.get (userId, revision) = some row ∧
    row.contentKey = contentKey

/-- How one account looks after requests of anyone, to a reader of its log: every
favorites row that moved has a new entry above every earlier cursor. -/
structure Evolves (userId : String) (db next : ServerDb φ) : Prop where
  log : ∀ revision row, db.changeLog.get (userId, revision) = some row →
    next.changeLog.get (userId, revision) = some row
  users : ∀ latest, db.users.get userId = some latest →
    ∃ later, next.users.get userId = some later ∧ latest ≤ later
  favorites : ∀ contentKey,
    next.favorites.get (userId, contentKey) = db.favorites.get (userId, contentKey) ∨
      ∀ cursor latest, db.users.get userId = some latest → cursor ≤ latest →
        Behind next userId cursor contentKey
  present : ∀ contentKey, (db.favorites.get (userId, contentKey)).isSome →
    (next.favorites.get (userId, contentKey)).isSome

theorem Evolves.refl (userId : String) (db : ServerDb φ) : Evolves userId db db :=
  ⟨fun _ _ found => found, fun latest stored => ⟨latest, stored, Nat.le_refl latest⟩,
    fun _ => Or.inl rfl, fun _ here => here⟩

theorem Behind.evolves {userId : String} {db next : ServerDb φ} {cursor : Nat}
    {contentKey : String} (behind : Behind db userId cursor contentKey)
    (evolves : Evolves userId db next) : Behind next userId cursor contentKey := by
  obtain ⟨revision, row, above, found, keyed⟩ := behind
  exact ⟨revision, row, above, evolves.log revision row found, keyed⟩

theorem Evolves.trans {userId : String} {db middle next : ServerDb φ}
    (first : Evolves userId db middle) (second : Evolves userId middle next) :
    Evolves userId db next where
  log := fun revision row found => second.log revision row (first.log revision row found)
  users := by
    intro latest stored
    obtain ⟨later, storedLater, below⟩ := first.users latest stored
    obtain ⟨last, storedLast, above⟩ := second.users later storedLater
    exact ⟨last, storedLast, Nat.le_trans below above⟩
  favorites := by
    intro contentKey
    rcases second.favorites contentKey with same | changed
    · rcases first.favorites contentKey with before | behind
      · exact Or.inl (same.trans before)
      · exact Or.inr (fun cursor latest stored low =>
          (behind cursor latest stored low).evolves second)
    · refine Or.inr (fun cursor latest stored low => ?_)
      obtain ⟨later, storedLater, below⟩ := first.users latest stored
      exact changed cursor later storedLater (Nat.le_trans low below)
  present := fun contentKey here => second.present contentKey (first.present contentKey here)

/-- A logged change is new in the log of its user, and in no other. -/
theorem Logged.log {db next : ServerDb φ} (inv : LogInv db) {owner contentKey : String}
    {entityRevision : Nat} {operation : SyncOperation} {now : Int}
    (log : Logged db next owner contentKey entityRevision operation now) (userId : String)
    {revision : Nat} {row : ChangeRow}
    (found : db.changeLog.get (userId, revision) = some row) :
    next.changeLog.get (userId, revision) = some row := by
  obtain ⟨previous, stored, -, -, changeLog⟩ := log
  rw [changeLog, Table.get_put_of_ne _ _ ?_]
  · exact found
  · intro same
    obtain ⟨rfl, rfl⟩ := Prod.mk.inj same
    obtain ⟨latest, known, -, bound⟩ := inv.bounded _ _ _ found
    rw [stored] at known
    cases known
    omega

theorem Logged.users {db next : ServerDb φ} {owner contentKey : String}
    {entityRevision : Nat} {operation : SyncOperation} {now : Int}
    (log : Logged db next owner contentKey entityRevision operation now) (userId : String)
    {latest : Nat} (stored : db.users.get userId = some latest) :
    ∃ later, next.users.get userId = some later ∧ latest ≤ later := by
  obtain ⟨previous, known, -, users, -⟩ := log
  rw [users, Table.get_put]
  by_cases same : userId = owner
  · subst same
    rw [known] at stored
    cases stored
    exact ⟨latest + 1, by simp, Nat.le_succ latest⟩
  · exact ⟨latest, by simpa [same] using stored, Nat.le_refl latest⟩

theorem Logged.behind {db next : ServerDb φ} {userId contentKey : String}
    {entityRevision : Nat} {operation : SyncOperation} {now : Int}
    (log : Logged db next userId contentKey entityRevision operation now) {cursor latest : Nat}
    (stored : db.users.get userId = some latest) (low : cursor ≤ latest) :
    Behind next userId cursor contentKey := by
  obtain ⟨previous, known, -, -, changeLog⟩ := log
  rw [known] at stored
  cases stored
  exact ⟨latest + 1, _, by omega, by rw [changeLog, Table.get_put_self], rfl⟩

theorem Move.evolves {db next : ServerDb φ} {owner contentKey : String}
    {operation : SyncOperation} {now : Int} (inv : LogInv db)
    (move : Move db next owner contentKey operation now) (userId : String) :
    Evolves userId db next := by
  cases move with
  | quiet favorites users changeLog =>
      refine ⟨?_, ?_, ?_, ?_⟩
      · rw [changeLog]
        exact fun _ _ found => found
      · rw [users]
        exact fun latest stored => ⟨latest, stored, Nat.le_refl latest⟩
      · rw [favorites]
        exact fun _ => Or.inl rfl
      · rw [favorites]
        exact fun _ here => here
  | stats row present favorites log =>
      refine ⟨fun _ _ => log.log inv userId, fun _ => log.users userId, ?_, ?_⟩
      · rw [favorites]
        exact fun _ => Or.inl rfl
      · rw [favorites]
        exact fun _ here => here
  | entity fresh advanced favorites log =>
      refine ⟨fun _ _ => log.log inv userId, fun _ => log.users userId, ?_, ?_⟩
      · intro other
        by_cases same : (userId, other) = (owner, contentKey)
        · obtain ⟨rfl, rfl⟩ := Prod.mk.inj same
          exact Or.inr (fun cursor latest stored low => log.behind stored low)
        · exact Or.inl (by rw [favorites, if_neg same])
      · intro other here
        rw [favorites]
        split
        · rfl
        · exact here

/-- A stored answer to a Favorite event against the row as it is now: the row has
moved past the event, or it still is the one the answer describes. -/
def Reply (row : Option FavoriteRow) (event : PushEvent) (ack : PushAck) : Prop :=
  event.baseEntityRevision < revisionOf row ∨
    (event.baseEntityRevision = revisionOf row ∧ Satisfies event row ∧
      ack.entityRevision = some (revisionOf row))

section Invariant

variable [DecidableEq φ] [EventFingerprint φ]

structure ServerInv (db : ServerDb φ) : Prop where
  log : LogInv db
  processed : ProcessedInv db
  positive : ∀ key row, db.favorites.get key = some row → 1 ≤ row.entityRevision
  within : ∀ userId contentKey row latest, db.favorites.get (userId, contentKey) = some row →
    db.users.get userId = some latest → row.entityRevision ≤ latest
  replies : ∀ userId event ack, Stored db userId event ack →
    event.operation ≠ .queryStatsUpsert →
    Reply (db.favorites.get (userId, event.contentKey)) event ack
  named : ∀ userId event ack, Stored db userId event ack →
    event.operation ≠ .queryStatsUpsert → ack.entityRevision.isSome
  silent : ∀ userId event ack, Stored db userId event ack →
    event.operation = .queryStatsUpsert → ack.entityRevision = none
  known : ∀ userId event ack, Stored db userId event ack →
    (db.favorites.get (userId, event.contentKey)).isSome

omit [DecidableEq φ] in
theorem ServerInv.initial (userIds : List String) (devices : List (String × String)) :
    ServerInv (ServerDb.initial userIds devices : ServerDb φ) where
  log := LogInv.initial userIds devices
  processed := by
    intro userId eventId row found
    simp [ServerDb.initial] at found
  positive := by
    intro key row found
    simp [ServerDb.initial] at found
  within := by
    intro userId contentKey row latest found
    simp [ServerDb.initial] at found
  replies := by
    rintro userId event ack ⟨-, now, found⟩
    simp [ServerDb.initial] at found
  named := by
    rintro userId event ack ⟨-, now, found⟩
    simp [ServerDb.initial] at found
  silent := by
    rintro userId event ack ⟨-, now, found⟩
    simp [ServerDb.initial] at found
  known := by
    rintro userId event ack ⟨-, now, found⟩
    simp [ServerDb.initial] at found

omit [DecidableEq φ] [EventFingerprint φ] in
/-- A row moves to the next revision or stays. -/
theorem Move.row {db next : ServerDb φ} {owner contentKey : String} {operation : SyncOperation}
    {now : Int} (move : Move db next owner contentKey operation now) (key : String × String) :
    next.favorites.get key = db.favorites.get key ∨
      ∃ row, next.favorites.get key = some row ∧
        row.entityRevision = revisionOf (db.favorites.get key) + 1 := by
  cases move with
  | quiet favorites users changeLog => exact Or.inl (by rw [favorites])
  | stats row present favorites log => exact Or.inl (by rw [favorites])
  | entity fresh advanced favorites log =>
      by_cases same : key = (owner, contentKey)
      · subst same
        exact Or.inr ⟨fresh, by rw [favorites, if_pos rfl], advanced⟩
      · exact Or.inl (by rw [favorites, if_neg same])

omit [EventFingerprint φ] [DecidableEq φ] in
theorem Reply.move {db next : ServerDb φ} {owner contentKey : String} {operation : SyncOperation}
    {now : Int} (move : Move db next owner contentKey operation now) {userId : String}
    {event : PushEvent} {ack : PushAck}
    (reply : Reply (db.favorites.get (userId, event.contentKey)) event ack) :
    Reply (next.favorites.get (userId, event.contentKey)) event ack := by
  rcases move.row (userId, event.contentKey) with same | ⟨row, moved, advanced⟩
  · rw [same]
    exact reply
  · refine Or.inl ?_
    rw [moved, revisionOf_some, advanced]
    rcases reply with passed | ⟨here, -, -⟩ <;> omega

omit [DecidableEq φ] [EventFingerprint φ] in
theorem Move.present {db next : ServerDb φ} {owner contentKey : String}
    {operation : SyncOperation} {now : Int} (move : Move db next owner contentKey operation now)
    (key : String × String) (here : (db.favorites.get key).isSome) :
    (next.favorites.get key).isSome := by
  rcases move.row key with same | ⟨row, moved, -⟩
  · rw [same]
    exact here
  · rw [moved]
    rfl

omit [DecidableEq φ] [EventFingerprint φ] in
/-- A row moves to the next revision only together with its user. -/
theorem Move.within {db next : ServerDb φ} {owner contentKey : String}
    {operation : SyncOperation} {now : Int} (move : Move db next owner contentKey operation now)
    (within : ∀ userId contentKey row latest, db.favorites.get (userId, contentKey) = some row →
      db.users.get userId = some latest → row.entityRevision ≤ latest)
    {userId other : String} {row : FavoriteRow} {latest : Nat}
    (found : next.favorites.get (userId, other) = some row)
    (known : next.users.get userId = some latest) : row.entityRevision ≤ latest := by
  cases move with
  | quiet favorites users changeLog =>
      exact within userId other row latest (favorites ▸ found) (users ▸ known)
  | stats old present favorites log =>
      obtain ⟨revision, before, -, users, -⟩ := log
      rw [favorites] at found
      rw [users, Table.get_put] at known
      split at known
      · rename_i same
        subst same
        cases known
        exact Nat.le_succ_of_le (within userId other row revision found before)
      · exact within userId other row latest found known
  | entity fresh advanced favorites log =>
      obtain ⟨revision, before, -, users, -⟩ := log
      rw [favorites] at found
      rw [users, Table.get_put] at known
      split at known
      · rename_i same
        subst same
        cases known
        split at found
        · rename_i mine
          obtain ⟨-, rfl⟩ := Prod.mk.inj mine
          cases found
          rw [advanced]
          cases old : db.favorites.get (userId, other) with
          | none => simp
          | some value =>
              have low := within userId other value revision old before
              rw [revisionOf_some]
              omega
        · exact Nat.le_succ_of_le (within userId other row revision found before)
      · rename_i apart
        rw [if_neg (fun same => apart (Prod.mk.inj same).1)] at found
        exact within userId other row latest found known

omit [DecidableEq φ] in
/-- The part of the invariant that only the favorites and the log carry. -/
theorem ServerInv.move {db next : ServerDb φ} (inv : ServerInv db) {owner contentKey : String}
    {operation : SyncOperation} {now : Int}
    (move : Move db next owner contentKey operation now)
    (processed : next.processedSyncEvents = db.processedSyncEvents) : ServerInv next := by
  have stored : ∀ userId event ack, Stored next userId event ack →
      Stored db userId event ack := by
    rintro userId event ack ⟨named, time, found⟩
    exact ⟨named, time, processed ▸ found⟩
  refine ⟨inv.log.move move, ?_, ?_, fun _ _ _ _ => move.within inv.within, ?_, ?_, ?_, ?_⟩
  · intro userId eventId row found
    exact inv.processed userId eventId row (processed ▸ found)
  · intro key row found
    rcases move.row key with same | ⟨moved, here, advanced⟩
    · exact inv.positive key row (same ▸ found)
    · rw [here] at found
      cases found
      omega
  · intro userId event ack old favorite
    exact (inv.replies userId event ack (stored userId event ack old) favorite).move move
  · exact fun userId event ack old => inv.named userId event ack (stored userId event ack old)
  · exact fun userId event ack old => inv.silent userId event ack (stored userId event ack old)
  · intro userId event ack old
    exact move.present _ (inv.known userId event ack (stored userId event ack old))

/-- Storing the answer of an applied event. -/
theorem ServerInv.store {middle next : ServerDb φ} {userId : String} {event : PushEvent}
    {ack : PushAck} {now : Int} (inv : ServerInv middle)
    (named : ack.eventId = event.eventId)
    (unseen : middle.processedSyncEvents.get (userId, event.eventId) = none)
    (reply : event.operation ≠ .queryStatsUpsert →
      Reply (middle.favorites.get (userId, event.contentKey)) event ack ∧
        ack.entityRevision.isSome)
    (silent : event.operation = .queryStatsUpsert → ack.entityRevision = none)
    (known : (middle.favorites.get (userId, event.contentKey)).isSome)
    (written : next = { middle with
      processedSyncEvents := middle.processedSyncEvents.put (userId, event.eventId)
        (ackRow event (eventFingerprint event) ack now) }) : ServerInv next := by
  subst written
  have mine : Stored { middle with
      processedSyncEvents := middle.processedSyncEvents.put (userId, event.eventId)
        (ackRow event (eventFingerprint event) ack now) } userId event ack :=
    ⟨named, now, Table.get_put_self _ _ _⟩
  -- Every stored answer is the new one or an old one.
  have either : ∀ owner other answer, Stored { middle with
      processedSyncEvents := middle.processedSyncEvents.put (userId, event.eventId)
        (ackRow event (eventFingerprint event) ack now) } owner other answer →
      (owner = userId ∧ other = event ∧ answer = ack) ∨ Stored middle owner other answer := by
    rintro owner other answer ⟨labelled, time, found⟩
    by_cases same : (owner, other.eventId) = (userId, event.eventId)
    · obtain ⟨rfl, sameId⟩ := Prod.mk.inj same
      obtain ⟨rfl, rfl⟩ := Stored.unique ⟨labelled, time, found⟩ mine sameId
      exact Or.inl ⟨rfl, rfl, rfl⟩
    · have older : middle.processedSyncEvents.get (owner, other.eventId) =
          some (ackRow other (eventFingerprint other) answer time) := by
        have lookup : (middle.processedSyncEvents.put (userId, event.eventId)
            (ackRow event (eventFingerprint event) ack now)).get (owner, other.eventId) =
            some (ackRow other (eventFingerprint other) answer time) := found
        rwa [Table.get_put_of_ne _ _ same] at lookup
      exact Or.inr ⟨labelled, time, older⟩
  refine ⟨inv.log.congr rfl rfl rfl, ?_, inv.positive, inv.within, ?_, ?_, ?_, ?_⟩
  · intro owner eventId row found
    have lookup : (middle.processedSyncEvents.put (userId, event.eventId)
        (ackRow event (eventFingerprint event) ack now)).get (owner, eventId) = some row := found
    rw [Table.get_put] at lookup
    split at lookup
    · rename_i hit
      obtain ⟨-, rfl⟩ := Prod.mk.inj hit
      exact ⟨event, ack, now, rfl, named, (Option.some.inj lookup).symm⟩
    · exact inv.processed owner eventId row lookup
  · intro owner other answer stored favorite
    rcases either owner other answer stored with ⟨rfl, rfl, rfl⟩ | old
    · exact (reply favorite).1
    · exact inv.replies owner other answer old favorite
  · intro owner other answer stored favorite
    rcases either owner other answer stored with ⟨rfl, rfl, rfl⟩ | old
    · exact (reply favorite).2
    · exact inv.named owner other answer old favorite
  · intro owner other answer stored stats
    rcases either owner other answer stored with ⟨rfl, rfl, rfl⟩ | old
    · exact silent stats
    · exact inv.silent owner other answer old stats
  · intro owner other answer stored
    rcases either owner other answer stored with ⟨rfl, rfl, rfl⟩ | old
    · exact known
    · exact inv.known owner other answer old

omit [DecidableEq φ] [EventFingerprint φ] in
/-- The answer of a freshly applied Favorite event describes the row it left. -/
theorem Applied.reply {db next : ServerDb φ} {userId : String} {event : PushEvent} {now : Int}
    {outcome : EventOutcome} (spec : Applied db next userId event now outcome)
    (favorite : event.operation ≠ .queryStatsUpsert) :
    Reply (next.favorites.get (userId, event.contentKey)) event outcome.ack := by
  have named := spec.named favorite
  rcases spec.move.row (userId, event.contentKey) with same | ⟨row, moved, advanced⟩
  · refine Or.inr ⟨?_, spec.satisfied, spec.answered favorite⟩
    rw [same]
    exact named.symm
  · refine Or.inl ?_
    rw [moved, revisionOf_some, advanced]
    omega

theorem ServerInv.pushed {db next : ServerDb φ} (inv : ServerInv db) {userId : String}
    {event : PushEvent} {now : Int} {outcome : EventOutcome}
    (pushed : Pushed db next userId event now outcome) : ServerInv next := by
  cases pushed with
  | duplicate row unchanged stored fingerprint answer silent =>
      subst unchanged
      exact inv
  | applied middle unseen spec stored =>
      have moved := inv.move spec.move spec.processed
      refine moved.store spec.eventId (by rw [spec.processed]; exact unseen) ?_ ?_ spec.present
        (by rw [spec.processed]; exact stored)
      · intro favorite
        refine ⟨spec.reply favorite, ?_⟩
        rw [spec.answered favorite]
        rfl
      · exact fun stats => (spec.statsOnly stats).2

theorem pushLoop_evolves {userId deviceId : String} {now : Int} (reader : String)
    {events : List PushEvent} {db next : ServerDb φ} {acks : List PushAck}
    {changed : Option Nat} (inv : ServerInv db)
    (success : pushLoop userId deviceId now events db = .ok (next, acks, changed)) :
    ServerInv next ∧ Evolves reader db next := by
  have chain := pushLoop_induct
    (fun db next => ServerInv db → ServerInv next ∧ Evolves reader db next)
    (fun db here => ⟨here, Evolves.refl reader db⟩)
    (fun db middle last event outcome pushed rest here => by
      have middleInv := here.pushed pushed
      obtain ⟨lastInv, later⟩ := rest middleInv
      exact ⟨lastInv, (pushed.move.evolves here.log reader).trans later⟩)
    events db next acks changed success
  exact chain inv

/-- A batch moves the row of a content only through its own Favorite events on it. -/
theorem pushLoop_untouched {userId deviceId : String} {now : Int} (contentKey : String) :
    ∀ (events : List PushEvent) (db next : ServerDb φ) (acks : List PushAck)
      (changed : Option Nat),
      (∀ event ∈ events, event.contentKey = contentKey → event.operation = .queryStatsUpsert) →
      pushLoop userId deviceId now events db = .ok (next, acks, changed) →
      next.favorites.get (userId, contentKey) = db.favorites.get (userId, contentKey) := by
  intro events
  induction events with
  | nil =>
      intro db next acks changed _ success
      rw [(pushLoop_nil success).1]
  | cons event rest ih =>
      intro db next acks changed only success
      obtain ⟨middle, outcome, later, tailChanged, head, tail, -⟩ := pushLoop_cons success
      rw [ih middle next later tailChanged
        (fun other member => only other (List.mem_cons_of_mem event member)) tail]
      cases head with
      | duplicate row unchanged stored fingerprint answer silent => rw [unchanged]
      | applied middle unseen spec stored =>
          subst stored
          by_cases same : event.contentKey = contentKey
          · rw [(spec.statsOnly (only event List.mem_cons_self same)).1]
          · have elsewhere : (userId, contentKey) ≠ (userId, event.contentKey) := by
              intro equal
              exact same (Prod.mk.inj equal).2.symm
            have moved := spec.move
            cases moved with
            | quiet favorites users changeLog => rw [favorites]
            | stats row present favorites log => rw [favorites]
            | entity fresh advanced favorites log =>
                exact (favorites (userId, contentKey)).trans (if_neg elsewhere)

theorem pushLoop_length {userId deviceId : String} {now : Int} :
    ∀ (events : List PushEvent) (db next : ServerDb φ) (acks : List PushAck)
      (changed : Option Nat),
      pushLoop userId deviceId now events db = .ok (next, acks, changed) →
      acks.length = events.length := by
  intro events
  induction events with
  | nil =>
      intro db next acks changed success
      rw [(pushLoop_nil success).2]
      rfl
  | cons event rest ih =>
      intro db next acks changed success
      obtain ⟨middle, outcome, later, tailChanged, -, tail, rfl⟩ := pushLoop_cons success
      rw [List.length_cons, List.length_cons, ih middle next later tailChanged tail]

end Invariant

section Conflict

/-- The result is not a conflict answer. -/
def Unopposed {τ : Type} (result : RepositoryResult τ) : Prop :=
  ∀ conflict, result ≠ .error (.conflict conflict)

theorem Unopposed.ok {τ : Type} (value : τ) : Unopposed (.ok value : RepositoryResult τ) := by
  intro conflict same
  cases same

theorem Unopposed.invalid {τ : Type} : Unopposed (.error .invalidEvent : RepositoryResult τ) := by
  intro conflict same
  cases same

theorem Unopposed.database {τ : Type} : Unopposed (database : RepositoryResult τ) := by
  intro conflict same
  cases same

theorem Unopposed.bind {τ ρ : Type} {first : RepositoryResult τ}
    {next : τ → RepositoryResult ρ} (head : Unopposed first)
    (tail : ∀ value, Unopposed (next value)) : Unopposed (first >>= next) := by
  cases first with
  | error reason =>
      intro conflict same
      apply head conflict
      simpa [Bind.bind, Except.bind] using same
  | ok value => exact tail value

theorem toI64_unopposed (value : Nat) : Unopposed (toI64 value) := by
  unfold toI64
  split
  · exact .ok _
  · exact .invalid

theorem checkedSucc_unopposed (value : Nat) : Unopposed (checkedSucc value) := by
  unfold checkedSucc
  split
  · exact .ok _
  · exact .invalid

theorem userRevision_unopposed (db : ServerDb φ) (userId : String) :
    Unopposed (userRevision db userId) := by
  unfold userRevision
  split
  · exact .ok _
  · exact .database

theorem aggregateStats_unopposed (db : ServerDb φ) (userId contentKey : String) :
    Unopposed (aggregateStats db userId contentKey) := by
  unfold aggregateStats
  split
  · exact .ok _
  · dsimp only
    split
    · exact .ok _
    · exact .database

theorem favoriteRecord_unopposed (db : ServerDb φ) (userId contentKey : String) :
    Unopposed (favoriteRecord db userId contentKey) := by
  unfold favoriteRecord
  split
  · exact .ok _
  · exact (aggregateStats_unopposed db userId contentKey).bind (fun _ => .ok _)

theorem applyEntity_unopposed (db : ServerDb φ) (userId : String) (event : PushEvent)
    (current : Option FavoriteRecord) (now : Int) :
    Unopposed (applyEntity db userId event current now) := by
  have upsert : ∀ snapshot revision,
      Unopposed (upsertFavorite db userId event snapshot revision now) := by
    intro snapshot revision
    unfold upsertFavorite
    refine (toI64_unopposed revision).bind (fun value => ?_)
    dsimp only
    split
    · exact .ok _
    · exact .database
  unfold applyEntity
  dsimp only
  split
  · split
    · exact .invalid
    · refine (checkedSucc_unopposed _).bind (fun value => ?_)
      split
      · exact .ok _
      · exact (upsert _ _).bind (fun _ => .ok _)
  · split
    · exact .invalid
    · split
      · exact .invalid
      · split
        · exact (checkedSucc_unopposed _).bind (fun value =>
            (toI64_unopposed value).bind (fun _ => .ok _))
        · exact .ok _
  · split
    · exact .invalid
    · exact .ok _

theorem applyStats_unopposed (db : ServerDb φ) (userId deviceId : String) (event : PushEvent) :
    Unopposed (applyStats db userId deviceId event) := by
  have merge : ∀ stats,
      Unopposed (mergeQueryStats db userId deviceId event.contentKey stats) := by
    intro stats
    unfold mergeQueryStats
    refine (toI64_unopposed _).bind (fun value => ?_)
    dsimp only
    split
    · exact .ok _
    · split
      · exact .ok _
      · exact .database
  unfold applyStats
  split
  · split
    · exact .invalid
    · exact .ok _
  · exact (merge _).bind (fun value =>
      (aggregateStats_unopposed _ _ _).bind (fun _ => .ok _))

theorem finishChange_unopposed (db : ServerDb φ) (userId : String) (event : PushEvent)
    (entityRevision : Option Nat) (changed : Bool) (now : Int) :
    Unopposed (finishChange db userId event entityRevision changed now) := by
  unfold finishChange
  split
  · split
    · exact .invalid
    · unfold recordChange
      refine (userRevision_unopposed db userId).bind (fun value => ?_)
      dsimp only
      split
      · exact (toI64_unopposed _).bind (fun _ => .ok _)
      · exact .database
  · exact (userRevision_unopposed db userId).bind (fun _ => .ok _)

theorem optionalI64_unopposed (value : Option Nat) : Unopposed (optionalI64 value) := by
  cases value with
  | none => exact .ok _
  | some number => exact (toI64_unopposed number).bind (fun _ => .ok _)

theorem storeAck_unopposed (db : ServerDb φ) (userId : String) (event : PushEvent)
    (fingerprint : φ) (ack : PushAck) (now : Int) :
    Unopposed (storeAck db userId event fingerprint ack now) := by
  unfold storeAck
  refine (optionalI64_unopposed _).bind (fun _ => (toI64_unopposed _).bind (fun _ =>
    (optionalI64_unopposed _).bind (fun _ => ?_)))
  split
  · exact .database
  · exact .ok _

/-- Only the revision guard answers with a conflict, and it names the event and
the record it was compared with. -/
theorem applyEvent_conflict {db : ServerDb φ} {userId deviceId : String} {event : PushEvent}
    {now : Int} {conflict : SyncConflict}
    (failed : applyEvent db userId deviceId event now = .error (.conflict conflict)) :
    event.operation ≠ .queryStatsUpsert ∧ conflict.eventId = some event.eventId ∧
      favoriteRecord db userId event.contentKey = .ok conflict.current ∧
      revisionOf (db.favorites.get (userId, event.contentKey)) ≠ event.baseEntityRevision := by
  unfold applyEvent at failed
  cases found : favoriteRecord db userId event.contentKey with
  | error reason =>
      have same : reason = .conflict conflict := by
        simpa [found, bind, Except.bind] using failed
      exact absurd (same ▸ found) (favoriteRecord_unopposed db userId event.contentKey conflict)
  | ok current =>
      cases guard : checkBase db userId event current with
      | ok value =>
          rw [found] at failed
          change (checkBase db userId event current >>= fun _ => _) = _ at failed
          rw [guard] at failed
          -- Past the revision check no step of the transaction answers a conflict.
          exact absurd failed (((applyEntity_unopposed db userId event current now).bind (fun _ =>
            (applyStats_unopposed _ _ _ _).bind (fun _ =>
              (finishChange_unopposed _ _ _ _ _ _).bind (fun _ => .ok _)))) conflict)
      | error reason =>
          have same : reason = .conflict conflict := by
            simpa [found, guard, bind, Except.bind] using failed
          subst same
          have stored : (current.map FavoriteRecord.entityRevision).getD 0 =
              revisionOf (db.favorites.get (userId, event.contentKey)) := by
            rcases favoriteRecord_ok found with ⟨absent, rfl⟩ | ⟨row, aggregate, here, -, rfl⟩
            · simp [absent]
            · simp [here, recordOf]
          have opposed : ∀ {eventId : Option String} {record : Option FavoriteRecord},
              (conflictWith db userId eventId record : RepositoryResult Unit) =
                .error (.conflict conflict) →
              conflict.eventId = eventId ∧ conflict.current = record := by
            intro eventId record answer
            unfold conflictWith at answer
            cases latest : userRevision db userId with
            | error reason =>
                have same : reason = .conflict conflict := by
                  simpa [latest, bind, Except.bind] using answer
                exact absurd (same ▸ latest) (userRevision_unopposed db userId conflict)
            | ok revision =>
                have fields : (⟨eventId, record, revision⟩ : SyncConflict) = conflict := by
                  simpa [latest, bind, Except.bind] using answer
                rw [← fields]
                exact ⟨rfl, rfl⟩
          unfold checkBase at guard
          split at guard
          · rename_i upsert
            split at guard
            · cases guard
            · rename_i differs
              obtain ⟨named, shown⟩ := opposed guard
              exact ⟨by simp [upsert], named, by rw [shown], by rw [← stored]; exact differs⟩
          · rename_i delete
            split at guard
            · cases guard
            · rename_i differs
              obtain ⟨named, shown⟩ := opposed guard
              exact ⟨by simp [delete], named, by rw [shown], by rw [← stored]; exact differs⟩
          · cases guard

variable [DecidableEq φ]

omit [DecidableEq φ] in
theorem ackAggregate_unopposed (row : ProcessedRow φ) : Unopposed (ackAggregate row) := by
  unfold ackAggregate
  split
  · exact .ok _
  · exact .ok _
  · exact .invalid

theorem processedAck_unopposed (db : ServerDb φ) (userId : String) (event : PushEvent)
    (fingerprint : φ) : Unopposed (processedAck db userId event fingerprint) := by
  unfold processedAck
  split
  · exact .ok _
  · split
    · exact .invalid
    · exact (ackAggregate_unopposed _).bind (fun _ => .ok _)

variable [EventFingerprint φ]

/-- A conflict of a batch is the conflict of one of its Favorite events, seen by
the events before it. -/
theorem pushLoop_conflict {userId deviceId : String} {now : Int} {conflict : SyncConflict} :
    ∀ (events : List PushEvent) (db : ServerDb φ),
      pushLoop userId deviceId now events db = .error (.conflict conflict) →
      ∃ (earlier : List PushEvent) (event : PushEvent) (later : List PushEvent),
        ∃ middle acks changed, events = earlier ++ event :: later ∧
        pushLoop userId deviceId now earlier db = .ok (middle, acks, changed) ∧
        middle.processedSyncEvents.get (userId, event.eventId) = none ∧
        event.operation ≠ .queryStatsUpsert ∧ conflict.eventId = some event.eventId ∧
        favoriteRecord middle userId event.contentKey = .ok conflict.current ∧
        revisionOf (middle.favorites.get (userId, event.contentKey)) ≠
          event.baseEntityRevision := by
  intro events
  induction events with
  | nil => intro db failed; cases failed
  | cons event rest ih =>
      intro db failed
      unfold pushLoop at failed
      cases head : pushEvent db userId deviceId event now with
      | error reason =>
          have same : reason = .conflict conflict := by
            simpa [head, bind, Except.bind] using failed
          subst same
          refine ⟨[], event, rest, db, [], none, rfl, rfl, ?_⟩
          unfold pushEvent at head
          dsimp only at head
          cases looked : processedAck db userId event (eventFingerprint event) with
          | error reason =>
              have same : reason = .conflict conflict := by
                simpa [looked, bind, Except.bind] using head
              exact absurd (same ▸ looked) (processedAck_unopposed db userId event _ conflict)
          | ok found =>
              cases found with
              | some ack => simp [looked, bind, Except.bind] at head
              | none =>
                  cases applied : applyEvent db userId deviceId event now with
                  | error reason =>
                      have same : reason = .conflict conflict := by
                        simpa [looked, applied, bind, Except.bind] using head
                      exact ⟨processedAck_none looked, applyEvent_conflict (same ▸ applied)⟩
                  | ok pair =>
                      have stored : Unopposed (do
                          let db ← storeAck pair.1 userId event (eventFingerprint event)
                            pair.2.ack now
                          Except.ok (db, pair.2) :
                            RepositoryResult (ServerDb φ × EventOutcome)) :=
                        (storeAck_unopposed _ _ _ _ _ _).bind (fun _ => .ok _)
                      exact absurd (by simpa [looked, applied, bind, Except.bind] using head)
                        (stored conflict)
      | ok pair =>
          obtain ⟨middle, outcome⟩ := pair
          cases tail : pushLoop userId deviceId now rest middle with
          | ok triple => simp [head, tail, bind, Except.bind] at failed
          | error reason =>
              have same : reason = .conflict conflict := by
                simpa [head, tail, bind, Except.bind] using failed
              subst same
              obtain ⟨earlier, other, later, last, acks, changed, split, looped, facts⟩ :=
                ih middle tail
              refine ⟨event :: earlier, other, later, last, outcome.ack :: acks,
                maxRevision outcome.changedRevision changed, by rw [split]; rfl, ?_, facts⟩
              simp [pushLoop, head, looped, bind, Except.bind]

end Conflict

section Endpoint

open Lvos.Core

variable [DecidableEq φ] [EventFingerprint φ] [ContentTables] [UuidParser]

theorem push_ok {maxEvents : Nat} {db next : ServerDb φ} {userId deviceId : String}
    {events : List PushEvent} {now : Int} {response : PushResponse}
    (success : push maxEvents db userId deviceId events now = (next, .ok response)) :
    validateEvents events = .ok () ∧ ∃ changed,
      pushLoop userId deviceId now events db =
        .ok (next, response.acknowledgements, changed) := by
  unfold push at success
  split at success
  · cases success
  · split at success
    · cases success
    · rename_i valid
      refine ⟨valid, ?_⟩
      unfold pushEvents at success
      cases body : pushBody userId deviceId events now db with
      | error reason =>
          rw [Transaction.atomically_of_error body] at success
          cases success
      | ok pair =>
          obtain ⟨last, result⟩ := pair
          rw [Transaction.atomically_of_ok body] at success
          cases success
          exact ⟨result.changedRevision, pushBody_ok body⟩

theorem push_error {maxEvents : Nat} {db next : ServerDb φ} {userId deviceId : String}
    {events : List PushEvent} {now : Int} {reason : SyncApiError}
    (failed : push maxEvents db userId deviceId events now = (next, .error reason)) :
    next = db := by
  unfold push at failed
  split at failed
  · cases failed
    rfl
  · split at failed
    · cases failed
      rfl
    · unfold pushEvents at failed
      cases body : pushBody userId deviceId events now db with
      | error reason =>
          rw [Transaction.atomically_of_error body] at failed
          cases failed
          rfl
      | ok pair =>
          obtain ⟨last, result⟩ := pair
          rw [Transaction.atomically_of_ok body] at failed
          cases failed

theorem push_conflict {maxEvents : Nat} {db next : ServerDb φ} {userId deviceId : String}
    {events : List PushEvent} {now : Int} {conflict : SyncConflict}
    (failed : push maxEvents db userId deviceId events now =
      (next, .error (.conflict conflict))) :
    pushLoop userId deviceId now events db = .error (.conflict conflict) := by
  unfold push at failed
  split at failed
  · cases failed
  · split at failed
    · cases failed
    · unfold pushEvents at failed
      cases body : pushBody userId deviceId events now db with
      | ok pair =>
          obtain ⟨last, result⟩ := pair
          rw [Transaction.atomically_of_ok body] at failed
          cases failed
      | error reason =>
          rw [Transaction.atomically_of_error body] at failed
          have same : reason = .conflict conflict := by
            cases reason with
            | repository error => cases failed
            | conflict found =>
                cases failed
                rfl
            | invalidEvent => cases failed
          subst same
          unfold pushBody at body
          cases looped : pushLoop userId deviceId now events db with
          | error reason =>
              simpa [looped, bind, Except.bind] using body
          | ok triple =>
              have rest : Unopposed (do
                  let latestRevision ← userRevision triple.1 userId
                  Except.ok (triple.1, (⟨⟨triple.2.1, latestRevision⟩, triple.2.2⟩ :
                    MutationResult PushResponse)) : RepositoryResult _) :=
                (userRevision_unopposed triple.1 userId).bind (fun _ => .ok _)
              exact absurd (by simpa [looped, bind, Except.bind] using body) (rest conflict)

/-- Whatever the endpoint answers, the account evolves. -/
theorem push_evolves (maxEvents : Nat) {db : ServerDb φ} (userId deviceId : String)
    (events : List PushEvent) (now : Int) (reader : String) (inv : ServerInv db) :
    ServerInv (push maxEvents db userId deviceId events now).1 ∧
      Evolves reader db (push maxEvents db userId deviceId events now).1 := by
  cases outcome : push maxEvents db userId deviceId events now with
  | mk next reply =>
      cases reply with
      | error reason =>
          rw [push_error outcome]
          exact ⟨inv, Evolves.refl reader db⟩
      | ok response =>
          obtain ⟨-, changed, looped⟩ := push_ok outcome
          exact pushLoop_evolves reader inv looped

omit [DecidableEq φ] [ContentTables] [UuidParser] in
theorem patch_evolves {db : ServerDb φ} (userId contentKey : String) (active : Bool)
    (baseEntityRevision : Nat) (now : Int) (reader : String) (inv : ServerInv db) :
    ServerInv (setFavoriteState db userId contentKey active baseEntityRevision now).1 ∧
      Evolves reader db
        (setFavoriteState db userId contentKey active baseEntityRevision now).1 := by
  unfold setFavoriteState
  cases body : setStateBody userId contentKey active baseEntityRevision now db with
  | error reason =>
      rw [Transaction.atomically_of_error body]
      exact ⟨inv, Evolves.refl reader db⟩
  | ok pair =>
      obtain ⟨next, result⟩ := pair
      have patched := setStateBody_ok body
      rw [Transaction.atomically_of_ok body]
      exact ⟨inv.move patched.move patched.processed, patched.move.evolves inv.log reader⟩

end Endpoint

end Lvos.Server
