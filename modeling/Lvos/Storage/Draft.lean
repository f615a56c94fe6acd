import Lvos.Storage.Origins

set_option autoImplicit false

namespace Lvos.Storage

open Lvos.Core Lvos.Sync
open Relational (Table)

/-- What the tables say a row is sent as. -/
def draft (db : ProfileDb) (row : OutboxRow) : PushEvent where
  eventId := row.eventId.text
  operation := protocolOperation row.operation
  contentKey := row.contentKey.toHex
  keyVersion := contentKeyVersion
  baseEntityRevision := row.baseEntityRevision.getD 0
  favorite := match row.operation with
    | .favoriteUpsert => (db.favorites.get row.contentKey).map FavoriteRow.snapshot
    | .favoriteDelete | .queryStatsUpsert => none
  queryStats := sentStats (db.queryStats.get row.contentKey)

/-- The part of an event that steps of the profile may move: its base revision and
the counts it carries. -/
def stamp (event : PushEvent) : Nat × Option QueryStatsSnapshot :=
  (event.baseEntityRevision, event.queryStats)

/-- The rest of an event. -/
def bare (event : PushEvent) : PushEvent :=
  { event with baseEntityRevision := 0, queryStats := none }

def rowStamp (db : ProfileDb) (row : OutboxRow) : Nat × Option QueryStatsSnapshot :=
  (row.baseEntityRevision.getD 0, sentStats (db.queryStats.get row.contentKey))

@[simp] theorem stamp_draft (db : ProfileDb) (row : OutboxRow) :
    stamp (draft db row) = rowStamp db row := rfl

theorem eq_of_bare {first second : PushEvent} (same : bare first = bare second)
    (stamps : stamp first = stamp second) : first = second := by
  obtain ⟨eventId, operation, contentKey, keyVersion, base, favorite, stats⟩ := first
  obtain ⟨eventId', operation', contentKey', keyVersion', base', favorite', stats'⟩ := second
  simp only [bare, PushEvent.mk.injEq, true_and, and_true] at same
  obtain ⟨sameBase, sameStats⟩ := Prod.mk.inj stamps
  simp only [PushEvent.mk.injEq]
  exact ⟨same.1, same.2.1, same.2.2.1, same.2.2.2.1, sameBase, same.2.2.2.2, sameStats⟩

/-- The two states render an intent alike, up to its stamp. -/
theorem bare_draft {db next : ProfileDb} {old row : OutboxRow}
    (eventId : row.eventId = old.eventId) (contentKey : row.contentKey = old.contentKey)
    (operation : row.operation = old.operation)
    (snapshot : old.operation = .favoriteUpsert →
      (next.favorites.get old.contentKey).map FavoriteRow.snapshot =
        (db.favorites.get old.contentKey).map FavoriteRow.snapshot) :
    bare (draft next row) = bare (draft db old) := by
  unfold draft bare
  rw [eventId, operation, contentKey]
  cases kind : old.operation with
  | favoriteUpsert => rw [snapshot kind]
  | favoriteDelete => rfl
  | queryStatsUpsert => rfl

theorem StatsKept.sentStats {before after : Table ContentKey QueryStats}
    (kept : StatsKept before after) (key : ContentKey) :
    sentStats (after.get key) = sentStats (before.get key) := by
  obtain ⟨old, new⟩ := kept key
  cases here : before.get key with
  | none =>
      cases there : after.get key with
      | none => rfl
      | some stats => simp [Storage.sentStats, new here stats there]
  | some stats =>
      obtain ⟨found, there, count, first, last⟩ := old stats here
      rw [there]
      simp [Storage.sentStats, count, first, last]

/-- The version every row and every entry has. -/
structure Versions (db : ProfileDb) : Prop where
  favorites : ∀ key row, db.favorites.get key = some row → row.keyVersion = contentKeyVersion
  history : ∀ key entry, db.historyEntries.get key = some entry →
    entry.content.keyVersion = contentKeyVersion

theorem Versions.localMove {input : Input} {db next : ProfileDb} (versions : Versions db)
    (move : LocalMove input db next)
    (entries : ∀ entry, input.queried entry ∨ input.imported entry →
      entry.content.keyVersion = contentKeyVersion)
    (archives : ∀ favorite, input.archived favorite →
      favorite.content.keyVersion = contentKeyVersion) : Versions next := by
  refine ⟨fun key row stored => ?_, fun key entry stored => ?_⟩
  · cases move.favoriteOrigin stored with
    | kept old => exact versions.favorites key row old
    | entered entry now revision known written =>
        rw [written]
        exact versions.history key entry known
    | buried old now here written =>
        rw [written]
        exact versions.favorites key old here
    | archived favorite given keyed deleted written =>
        rw [written]
        exact archives favorite given
  · rcases move.historyOrigin stored with old | ⟨given, -⟩
    · exact versions.history key entry old
    · exact entries entry given

section Version

variable {db next : ProfileDb}

/-- Rows that kept their version, or came from a record of the current one. -/
theorem Versions.carried (versions : Versions db)
    (favorites : ∀ key row, next.favorites.get key = some row →
      row.keyVersion = contentKeyVersion ∨
        ∃ old, db.favorites.get key = some old ∧ row.keyVersion = old.keyVersion)
    (history : next.historyEntries = db.historyEntries) : Versions next := by
  refine ⟨fun key row stored => ?_, fun key entry stored => ?_⟩
  · rcases favorites key row stored with current | ⟨old, here, same⟩
    · exact current
    · rw [same]
      exact versions.favorites key old here
  · exact versions.history key entry (history ▸ stored)

theorem KeyReceived.version {record : FavoriteRecord} {favorite after : Option FavoriteRow}
    {pending queued : Option OutboxRow}
    (received : KeyReceived record favorite after pending queued)
    (current : record.keyVersion = contentKeyVersion) {row : FavoriteRow}
    (stored : after = some row) : row.keyVersion = contentKeyVersion ∨
      ∃ old, favorite = some old ∧ row.keyVersion = old.keyVersion := by
  cases received with
  | written favorites outbox =>
      rw [favorites] at stored
      cases stored
      exact Or.inl current
  | adopted old other queued outbox favorites eventId contentKey operation createdAt base =>
      rw [favorites] at stored
      obtain ⟨before, here, rfl⟩ := Option.map_eq_some_iff.mp stored
      exact Or.inr ⟨before, here, rfl⟩

theorem Versions.pulled {record : FavoriteRecord} {key : ContentKey} {now : Int}
    (versions : Versions db) (current : record.keyVersion = contentKeyVersion)
    (pulled : Pulled db next record key now) : Versions next := by
  refine versions.carried (fun other row stored => ?_) pulled.historyEntries
  by_cases same : other = key
  · subst same
    exact pulled.key.version current stored
  · rw [pulled.favorites_apart same] at stored
    exact Or.inr ⟨row, stored, rfl⟩

theorem Versions.acknowledged {event : OutboxEvent} {answered : Option Nat}
    {table : Table ContentKey QueryStats} (versions : Versions db) :
    Versions (acknowledged db event answered table) := by
  refine versions.carried (fun key row stored => ?_) (by cases answered <;> rfl)
  rw [acknowledged_favorites] at stored
  cases answered with
  | none => exact Or.inr ⟨row, stored, rfl⟩
  | some revision =>
      dsimp only at stored
      split at stored
      · obtain ⟨before, here, rfl⟩ := Option.map_eq_some_iff.mp stored
        exact Or.inr ⟨before, here, rfl⟩
      · exact Or.inr ⟨row, stored, rfl⟩

theorem Versions.acknowledgeLoop {items : List AcknowledgedEvent} {now : Int}
    (versions : Versions db) (success : acknowledgeLoop now db items = .ok next) :
    Versions next ∧ next.profileMeta = db.profileMeta := by
  have chain := acknowledgeLoop_induct
    (fun _ db next => Versions db → Versions next ∧ next.profileMeta = db.profileMeta)
    (fun _ here => ⟨here, rfl⟩)
    (fun item rest db middle last turned tail here => by
      obtain ⟨-, table, -, equation⟩ := acknowledgeEvent_ok turned
      replace equation : middle = Storage.acknowledged db item.event
        item.acknowledgement.entityRevision table := equation
      subst equation
      obtain ⟨reached, same⟩ := tail here.acknowledged
      exact ⟨reached, same.trans (acknowledged_profileMeta db item.event _ table)⟩)
    items db next success
  exact chain versions

theorem Versions.page [ContentTables] {changes : List SyncChange} {nextRevision : Nat} {now : Int}
    (versions : Versions db)
    (success : applyRemotePageBody changes nextRevision now db = .ok (next, ())) :
    Versions next ∧ next.profileMeta.deviceId = db.profileMeta.deviceId := by
  obtain ⟨last, looped, rfl⟩ := applyRemotePage_ok success
  have chain := applyRemoteLoop_induct
    (fun _ db next => Versions db →
      Versions next ∧ next.profileMeta.deviceId = db.profileMeta.deviceId)
    (fun _ here => ⟨here, rfl⟩)
    (fun change rest db middle last key _ valid pulled tail here => by
      obtain ⟨reached, same⟩ := tail (here.pulled (validateRemote_version valid) pulled)
      exact ⟨reached, same.trans (by rw [pulled.profileMeta])⟩)
    changes db last _ _ looped
  obtain ⟨reached, same⟩ := chain versions
  exact ⟨⟨reached.favorites, reached.history⟩, same⟩

theorem Versions.resolved {event : OutboxEvent} {current : Option FavoriteRecord} {now : Int}
    {resolution : ConflictResolution} (versions : Versions db)
    (resolved : Resolved db next event current now resolution)
    (keyed : ∀ record, current = some record → record.contentKey = event.contentKey.toHex)
    (version : ∀ record, current = some record → record.keyVersion = contentKeyVersion) :
    Versions next := by
  have history : next.historyEntries = db.historyEntries := by
    cases resolved with
    | converged record key localValue table answer recordKey found reached kept changed =>
        subst changed
        rfl
    | replayed record row table answer pending first kept changed =>
        subst changed
        rfl
    | manual table kept changed =>
        subst changed
        rfl
  refine versions.carried (fun key row stored => ?_) history
  by_cases same : key = event.contentKey
  · subst same
    rcases resolved.key keyed with ⟨record, answer, received⟩ | ⟨favorites, -⟩
    · exact received.version (version record answer) stored
    · rw [favorites] at stored
      exact Or.inr ⟨row, stored, rfl⟩
  · rw [resolved.favorites_apart keyed same] at stored
    exact Or.inr ⟨row, stored, rfl⟩

end Version

/-- Every Outbox row was there before and is sent as before, up to its stamp, with
the counts it had. -/
def KeepsIntents (db next : ProfileDb) : Prop :=
  StatsKept db.queryStats next.queryStats ∧
    ∀ coalesceKey row, next.syncOutbox.get coalesceKey = some row →
      ∃ old, db.syncOutbox.get coalesceKey = some old ∧ row.eventId = old.eventId ∧
        row.contentKey = old.contentKey ∧ bare (draft next row) = bare (draft db old)

section Intents

variable {issued : List Uuid} {db next : ProfileDb}

theorem KeepsIntents.refl (db : ProfileDb) : KeepsIntents db db :=
  ⟨.refl _, fun _ row stored => ⟨row, stored, rfl, rfl, rfl⟩⟩

theorem KeepsIntents.trans {middle : ProfileDb} (first : KeepsIntents db middle)
    (second : KeepsIntents middle next) : KeepsIntents db next := by
  refine ⟨first.1.trans second.1, ?_⟩
  intro coalesceKey row stored
  obtain ⟨between, here, eventId, contentKey, later⟩ := second.2 coalesceKey row stored
  obtain ⟨old, there, sameId, sameKey, earlier⟩ := first.2 coalesceKey between here
  exact ⟨old, there, eventId.trans sameId, contentKey.trans sameKey, later.trans earlier⟩

/-- Rows that were there, over contents whose snapshots stay. -/
theorem KeepsIntents.of_rows (kept : StatsKept db.queryStats next.queryStats)
    (rows : OutboxKept db next)
    (snapshot : ∀ coalesceKey row old, next.syncOutbox.get coalesceKey = some row →
      db.syncOutbox.get coalesceKey = some old → old.operation = .favoriteUpsert →
      (next.favorites.get old.contentKey).map FavoriteRow.snapshot =
        (db.favorites.get old.contentKey).map FavoriteRow.snapshot) :
    KeepsIntents db next := by
  refine ⟨kept, fun coalesceKey row stored => ?_⟩
  obtain ⟨old, here, eventId, contentKey, operation⟩ := rows coalesceKey row stored
  exact ⟨old, here, eventId, contentKey, bare_draft eventId contentKey operation
    (snapshot coalesceKey row old stored here)⟩

/-- The stamp of a kept row is the old one when its base is. -/
theorem KeepsIntents.rowStamp (kept : KeepsIntents db next) {old row : OutboxRow}
    (contentKey : row.contentKey = old.contentKey)
    (base : row.baseEntityRevision = old.baseEntityRevision) :
    rowStamp next row = rowStamp db old := by
  unfold Storage.rowStamp
  rw [base, contentKey, kept.1.sentStats]

theorem snapshot_revised (favorite : Option FavoriteRow) (revision : Nat) :
    (favorite.map (revised revision)).map FavoriteRow.snapshot =
      favorite.map FavoriteRow.snapshot := by
  cases favorite <;> rfl

theorem acknowledgeEvent_intents {item : AcknowledgedEvent} {now : Int}
    (success : acknowledgeEvent db item now = .ok next) : KeepsIntents db next := by
  have rows := (acknowledgeEvent_rows success).1
  obtain ⟨-, table, kept, equation⟩ := acknowledgeEvent_ok success
  replace equation : next = acknowledged db item.event item.acknowledgement.entityRevision table :=
    equation
  subst equation
  refine .of_rows kept rows (fun coalesceKey row old stored here upsert => ?_)
  rw [acknowledged_favorites]
  split
  · rfl
  · split
    · exact snapshot_revised _ _
    · rfl

/-- An acknowledged event gives another base to a newer intent of its content only. -/
theorem acknowledgeEvent_base {item : AcknowledgedEvent} {now : Int} (shape : Shape issued db)
    (success : acknowledgeEvent db item now = .ok next) {coalesceKey : CoalesceKey}
    {row old : OutboxRow} (stored : next.syncOutbox.get coalesceKey = some row)
    (here : db.syncOutbox.get coalesceKey = some old) :
    row.baseEntityRevision = old.baseEntityRevision ∨
      (item.acknowledgement.entityRevision.isSome ∧
        coalesceKey = .favorite item.event.contentKey ∧ old.eventId ≠ item.event.eventId) := by
  obtain ⟨-, table, -, equation⟩ := acknowledgeEvent_ok success
  replace equation : next = acknowledged db item.event item.acknowledgement.entityRevision table :=
    equation
  subst equation
  obtain ⟨before, found, apart, change⟩ := acknowledged_carried _ _ _ _ stored
  rw [here] at found
  cases found
  rcases change with rfl | ⟨revision, answer, sameKey, favorite, rfl⟩
  · exact Or.inl rfl
  · refine Or.inr ⟨by rw [answer]; rfl, ?_, apart⟩
    cases coalesceKey with
    | favorite key => rw [← (shape.favorites key old here).contentKey, sameKey]
    | queryStats deviceId key =>
        rw [(shape.stats deviceId key old here).operation] at favorite
        cases favorite

/-- The loop over the acknowledged events. -/
theorem acknowledgeLoop_intents {items : List AcknowledgedEvent} {now : Int}
    (shape : Shape issued db) (success : acknowledgeLoop now db items = .ok next) :
    KeepsIntents db next ∧ ∀ coalesceKey row old, next.syncOutbox.get coalesceKey = some row →
      db.syncOutbox.get coalesceKey = some old →
      row.baseEntityRevision = old.baseEntityRevision ∨
        ∃ item ∈ items, item.acknowledgement.entityRevision.isSome ∧
          coalesceKey = .favorite item.event.contentKey ∧ old.eventId ≠ item.event.eventId := by
  have chain := acknowledgeLoop_induct
    (fun items db next => Shape issued db → KeepsIntents db next ∧
      ∀ coalesceKey row old, next.syncOutbox.get coalesceKey = some row →
        db.syncOutbox.get coalesceKey = some old →
        row.baseEntityRevision = old.baseEntityRevision ∨
          ∃ item ∈ items, item.acknowledgement.entityRevision.isSome ∧
            coalesceKey = .favorite item.event.contentKey ∧ old.eventId ≠ item.event.eventId)
    (fun db _ => ⟨.refl db, fun coalesceKey row old stored here => by
      rw [stored] at here
      cases here
      exact Or.inl rfl⟩)
    (fun item rest db middle last turned tail shape => by
      have head := acknowledgeEvent_intents turned
      have passed : Shape issued middle := by
        obtain ⟨-, table, -, equation⟩ := acknowledgeEvent_ok turned
        replace equation : middle = acknowledged db item.event
          item.acknowledgement.entityRevision table := equation
        subst equation
        exact shape.acknowledged _ _ _
      obtain ⟨kept, bases⟩ := tail passed
      refine ⟨head.trans kept, fun coalesceKey row old stored here => ?_⟩
      obtain ⟨between, there, eventId, -⟩ := kept.2 coalesceKey row stored
      obtain ⟨before, found, sameId, -⟩ := head.2 coalesceKey between there
      rw [here] at found
      cases found
      rcases bases coalesceKey row between stored there with same | ⟨other, member, some, keyed,
        apart⟩
      · rcases acknowledgeEvent_base shape turned there here with equal | moved
        · exact Or.inl (same.trans equal)
        · exact Or.inr ⟨item, List.mem_cons_self, moved⟩
      · exact Or.inr ⟨other, List.mem_cons_of_mem _ member, some, keyed, sameId ▸ apart⟩)
    items db next success
  exact chain shape

theorem Resolved.intents {event : OutboxEvent} {current : Option FavoriteRecord} {now : Int}
    {resolution : ConflictResolution} (shape : Shape issued db)
    (resolved : Resolved db next event current now resolution)
    (keyed : ∀ record, current = some record → record.contentKey = event.contentKey.toHex) :
    KeepsIntents db next := by
  refine .of_rows resolved.kept resolved.rows (fun coalesceKey row old stored here upsert => ?_)
  cases coalesceKey with
  | queryStats deviceId key =>
      rw [(shape.stats deviceId key old here).operation] at upsert
      cases upsert
  | favorite key =>
      rw [(shape.favorites key old here).contentKey]
      by_cases same : key = event.contentKey
      · subst same
        rcases resolved.key keyed with ⟨record, -, received⟩ | ⟨favorites, -⟩
        · cases received with
          | written favorites outbox =>
              rw [outbox] at stored
              cases stored
          | adopted before after queued outbox favorites =>
              rw [favorites]
              exact snapshot_revised _ _
        · rw [favorites]
      · rw [resolved.favorites_apart keyed same]

theorem Pulled.intents {record : FavoriteRecord} {key : ContentKey} {now : Int}
    (shape : Shape issued db) (pulled : Pulled db next record key now) :
    KeepsIntents db next := by
  refine .of_rows pulled.kept pulled.rows (fun coalesceKey row old stored here upsert => ?_)
  cases coalesceKey with
  | queryStats deviceId other =>
      rw [(shape.stats deviceId other old here).operation] at upsert
      cases upsert
  | favorite other =>
      rw [(shape.favorites other old here).contentKey]
      by_cases same : other = key
      · subst same
        cases pulled.key with
        | written favorites outbox =>
            rw [outbox] at stored
            cases stored
        | adopted before after queued outbox favorites =>
            rw [favorites]
            exact snapshot_revised _ _
      · rw [pulled.favorites_apart same]

theorem applyRemotePage_intents [ContentTables] (changes : List SyncChange) (nextRevision : Nat)
    (now : Int) (shape : Shape issued db) :
    KeepsIntents db (applyRemotePage db changes nextRevision now).1 := by
  unfold applyRemotePage
  cases body : applyRemotePageBody changes nextRevision now db with
  | error reason =>
      rw [Transaction.atomically_of_error body]
      exact .refl db
  | ok pair =>
      obtain ⟨after, done⟩ := pair
      rw [Transaction.atomically_of_ok body]
      obtain ⟨last, looped, rfl⟩ := applyRemotePage_ok body
      have chain := applyRemoteLoop_induct
        (fun _ db last => Shape issued db → KeepsIntents db last)
        (fun db _ => .refl db)
        (fun change rest db middle last key _ _ pulled tail shape =>
          (pulled.intents shape).trans (tail (shape.pulled pulled)))
        changes db last _ _ looped
      exact chain shape

theorem markRetry_intents (db : ProfileDb) (events : List OutboxEvent) (nextRetryAt : Int)
    (error : String) (now : Int) :
    KeepsIntents db (markRetry db events nextRetryAt error now) := by
  obtain ⟨favorites, stats, -⟩ := markRetry_favorites db events nextRetryAt error now
  refine .of_rows ?_ (markRetry_rows db events nextRetryAt error now) (fun _ _ _ _ _ _ => ?_)
  · rw [stats]
    exact .refl _
  · rw [favorites]

end Intents

section Local

variable {issued : List Uuid} {input : Input} {db next : ProfileDb}

/-- A user's write moves the counts of a pending row only when it is a query of the
content of a Favorite intent. -/
theorem LocalMove.sentStats (move : LocalMove input db next) (shape : Shape issued db)
    (own : OwnStats db) {coalesceKey : CoalesceKey} {row : OutboxRow}
    (stored : next.syncOutbox.get coalesceKey = some row)
    (here : db.syncOutbox.get coalesceKey = some row) (old : ¬ input.fresh row.eventId)
    (apart : ∀ entry, input.queried entry → coalesceKey ≠ .favorite entry.content.contentKey) :
    Storage.sentStats (next.queryStats.get row.contentKey) =
      Storage.sentStats (db.queryStats.get row.contentKey) := by
  -- A pending row stands over a Favorite row of its content.
  have present : (db.favorites.get row.contentKey).isSome := by
    cases coalesceKey with
    | favorite key =>
        have pending := shape.favorites key row here
        rw [pending.contentKey]
        obtain ⟨value, found⟩ := pending.present
        rw [found]
        rfl
    | queryStats deviceId key =>
        have pending := shape.stats deviceId key row here
        rw [pending.contentKey]
        exact pending.present
  cases move with
  | history entry given changed => rw [changed]; rfl
  | baseline entry given changed =>
      rw [changed]
      unfold insertHistoryWithZeroStats
      dsimp only [upsertHistory]
      split
      · rfl
      · rename_i missing
        rw [Table.get_put]
        split
        · rename_i same
          rw [same, missing]
          rfl
        · rfl
  | counted entry stats given count outside changed =>
      rw [changed]
      dsimp only
      rw [Table.get_put_of_ne]
      intro same
      rw [same, outside] at present
      cases present
  | reported entry stats eventId favorite given new count inside unused changed =>
      rw [changed] at stored ⊢
      dsimp only at stored ⊢
      rw [Table.get_put_of_ne]
      intro same
      cases coalesceKey with
      | favorite key =>
          apply apart entry given
          rw [← same, (shape.favorites key row here).contentKey]
      | queryStats deviceId key =>
          -- The statistics row of the content is the one the query replaced.
          rw [own deviceId key row here, ← (shape.stats deviceId key row here).contentKey, same,
            Table.get_put_self] at stored
          cases stored
          exact old (by rw [PendingOutbox.row_eventId]; exact new)
  | favorited key now eventId entry stats new known counted inactive unused changed =>
      rw [changed]
  | archived favorite given absent deleted changed => rw [changed]; rfl
  | folded key now favorite found active unsynced changed => rw [changed]; rfl
  | withdrawn key now eventId favorite stats new found active synced unused changed =>
      rw [changed]
  | cleared changed =>
      rw [changed]
      unfold clearHistory
      dsimp only
      rw [Table.get_delete]
      rw [Option.isNone_eq_false_iff.mpr present]
      cases db.queryStats.get row.contentKey with
      | none => rfl
      | some stats => rfl

/-- A row with an old id is sent as before, up to its counts. -/
theorem LocalMove.intent (move : LocalMove input db next) (shape : Shape issued db)
    {coalesceKey : CoalesceKey} {row : OutboxRow}
    (stored : next.syncOutbox.get coalesceKey = some row) (old : ¬ input.fresh row.eventId) :
    db.syncOutbox.get coalesceKey = some row ∧ bare (draft next row) = bare (draft db row) := by
  have here : db.syncOutbox.get coalesceKey = some row :=
    (move.row stored).resolve_right (fun new => old new.1)
  refine ⟨here, bare_draft rfl rfl rfl (fun upsert => ?_)⟩
  cases coalesceKey with
  | favorite key =>
      rw [(shape.favorites key row here).contentKey,
        ((move.keyMove shape.indexed key).kept (shape.favorites key) stored old).2]
  | queryStats deviceId key =>
      rw [(shape.stats deviceId key row here).operation] at upsert
      cases upsert

end Local

end Lvos.Storage
