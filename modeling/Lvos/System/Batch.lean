import Lvos.Storage.Shape
import Lvos.System.World

set_option autoImplicit false

namespace Lvos.System

open Lvos.Core Lvos.Sync Lvos.Storage
open Transaction (bind_ok_iff)

section Calls

variable [ContentTables]

/-- What a call brings into a profile. -/
def Call.input (call : Call) : Input where
  fresh id := id ∈ call.ids
  queried entry := match call with
    | .query queried _ => entry = queried
    | _ => False
  imported entry := match call with
    | .importData document _ _ => ∃ validated, validateExport document = .ok validated ∧
        (entry ∈ validated.history ∨
          ∃ favorite ∈ validated.favorites, entry = historyFromFavorite favorite)
    | _ => False
  archived favorite := match call with
    | .importData document _ _ => ∃ validated, validateExport document = .ok validated ∧
        favorite ∈ validated.favorites
    | _ => False

/-- Every call is a chain of local writes of what it brings. -/
theorem Call.moves (call : Call) (db : ProfileDb) :
    LocalMoves call.input db (call.perform db) := by
  cases call with
  | query entry eventId =>
      refine .of_step (And.left (recordSuccessfulQuery_move db ?_ ?_))
      · exact rfl
      · simp [Call.input, Call.ids]
  | favorite key now eventId =>
      exact .of_step (favorite_toggled db key now (by simp [Call.input, Call.ids])).move
  | unfavorite key now eventId =>
      exact .of_step (unfavorite_toggled db key now (by simp [Call.input, Call.ids])).move
  | importData document now eventIds =>
      show LocalMoves _ db (importPortable db document now eventIds)
      unfold importPortable
      cases validation : validateExport document with
      | error reason => exact .refl
      | ok validated =>
          refine applyPortableImport_moves db now ?_ ?_
          · intro entry member
            exact ⟨validated, validation, Or.inl member⟩
          · intro favorite member
            refine ⟨⟨validated, validation, Or.inr ⟨favorite, member, rfl⟩⟩,
              ⟨validated, validation, member⟩, ?_⟩
            simp only [Call.input, Call.ids, validation]
            exact List.mem_map_of_mem member
  | clearHistory => exact .single (.cleared rfl)

/-- Only a query records one. -/
theorem Call.input_queried {call : Call} {entry : HistoryEntry}
    (queried : call.input.queried entry) : ∃ eventId, call = .query entry eventId := by
  cases call with
  | query other eventId =>
      obtain rfl : entry = other := queried
      exact ⟨eventId, rfl⟩
  | favorite key now eventId => exact queried.elim
  | unfavorite key now eventId => exact queried.elim
  | importData document now eventIds => exact queried.elim
  | clearHistory => exact queried.elim

/-- A query makes at most one write. -/
theorem Call.query_move (db : ProfileDb) (entry : HistoryEntry) (eventId : Uuid) :
    (Call.query entry eventId).perform db = db ∨
      LocalMove (Call.query entry eventId).input db ((Call.query entry eventId).perform db) :=
  (recordSuccessfulQuery_move db (show (Call.query entry eventId).input.queried entry from rfl)
    (show (Call.query entry eventId).input.fresh eventId from List.mem_singleton.mpr rfl)).1

/-- What a call keeps: a query is one write, and no other call counts one. -/
theorem Call.perform_keeps {inv : ProfileDb → Prop} (call : Call) {db : ProfileDb} (holds : inv db)
    (asked : ∀ entry eventId next, call = .query entry eventId →
      LocalMove call.input db next → inv next)
    (silent : (∀ entry, ¬ call.input.queried entry) → ∀ before next, inv before →
      LocalMove call.input before next → inv next) : inv (call.perform db) := by
  by_cases asks : ∃ entry eventId, call = .query entry eventId
  · obtain ⟨entry, eventId, rfl⟩ := asks
    rcases Call.query_move db entry eventId with same | move
    · rw [same]
      exact holds
    · exact asked entry eventId _ rfl move
  · have quiet : ∀ entry, ¬ call.input.queried entry := by
      intro entry queried
      obtain ⟨eventId, same⟩ := Call.input_queried queried
      exact asks ⟨entry, eventId, same⟩
    have moves := call.moves db
    generalize call.perform db = performed at moves
    induction moves with
    | refl => exact holds
    | tail _ move ih => exact silent quiet _ _ ih move

theorem Call.fresh_of_allowed {call : Call} {issued : List Uuid}
    (allowed : call.allowed issued = true) : ∀ id ∈ call.ids, id ∉ issued := by
  intro id member
  unfold Call.allowed at allowed
  rw [Bool.and_eq_true, List.all_eq_true] at allowed
  have new := allowed.1 id member
  rw [Bool.and_eq_true] at new
  simpa using new.2

end Calls

section Local

variable {input : Input} {issued : List Uuid}
  {db next : ProfileDb}

/-- An event a worker has read, against the profile as it is now. -/
structure Held (issued : List Uuid) (db : ProfileDb) (event : OutboxEvent) : Prop where
  issued : event.eventId ∈ issued
  owner : ∀ coalesceKey row, db.syncOutbox.get coalesceKey = some row →
    row.eventId = event.eventId →
    coalesceKey = event.coalesceKey ∧ row.operation = event.operation
  favorite : isFavoriteOperation event.operation = true →
    event.coalesceKey = .favorite event.contentKey ∧
      event.baseEntityRevision = some (revisionOf (db.favorites.get event.contentKey))
  stats : isFavoriteOperation event.operation = false →
    ∃ deviceId, event.coalesceKey = .queryStats deviceId event.contentKey
  baseless : isFavoriteOperation event.operation = false → event.baseEntityRevision = none

theorem Held.weaken {more : List Uuid} {event : OutboxEvent} (held : Held issued db event)
    (grows : ∀ id ∈ issued, id ∈ more) : Held more db event :=
  ⟨grows _ held.issued, held.owner, held.favorite, held.stats, held.baseless⟩

theorem Held.localMove {more : List Uuid} {event : OutboxEvent} (held : Held issued db event)
    (shape : Shape more db) (move : LocalMove input db next)
    (new : ∀ id, input.fresh id → id ∉ issued) : Held issued next event where
  issued := held.issued
  owner := by
    intro coalesceKey row stored same
    rcases move.row stored with old | ⟨brought, -⟩
    · exact held.owner coalesceKey row old same
    · exact absurd (same ▸ held.issued) (new _ brought)
  favorite := by
    intro operation
    obtain ⟨keyed, base⟩ := held.favorite operation
    refine ⟨keyed, ?_⟩
    rw [(move.keyMove shape.indexed event.contentKey).revision]
    exact base
  stats := held.stats
  baseless := held.baseless

/-- A request event against the event it was built from. `still` says that as long
as the row keeps the id, the local row is the state that was sent. -/
structure Faithful (db : ProfileDb) (event : OutboxEvent) (sent : PushEvent) : Prop where
  eventId : sent.eventId = event.eventId.text
  operation : sent.operation = protocolOperation event.operation
  contentKey : sent.contentKey = event.contentKey.toHex
  base : sent.baseEntityRevision = event.baseEntityRevision.getD 0
  still : ∀ row, db.syncOutbox.get (.favorite event.contentKey) = some row →
    row.eventId = event.eventId → event.operation = .favoriteUpsert →
    ∃ value, db.favorites.get event.contentKey = some value ∧ value.deletedAt = none ∧
      sent.favorite = some value.snapshot

theorem Faithful.localMove {more : List Uuid} {event : OutboxEvent} {sent : PushEvent}
    (faithful : Faithful db event sent) (held : Held issued db event) (shape : Shape more db)
    (move : LocalMove input db next) (new : ∀ id, input.fresh id → id ∉ issued) :
    Faithful next event sent where
  eventId := faithful.eventId
  operation := faithful.operation
  contentKey := faithful.contentKey
  base := faithful.base
  still := by
    intro row stored same upsert
    have old : ¬ input.fresh row.eventId := fun brought =>
      new _ brought (same ▸ held.issued)
    obtain ⟨before, favorites⟩ := (move.keyMove shape.indexed event.contentKey).kept
      (shape.favorites event.contentKey) stored old
    rw [favorites]
    exact faithful.still row before same upsert

theorem sentSnapshot_upsert {favorite : Option Favorite} {snapshot : Option FavoriteSnapshot}
    (success : sentSnapshot .favoriteUpsert favorite = .ok snapshot) :
    ∃ value, favorite = some value ∧ value.deletedAt = none ∧
      snapshot = some (protocolSnapshot value) := by
  unfold sentSnapshot at success
  dsimp only at success
  split at success
  · rename_i value found
    obtain ⟨same, active⟩ := Option.filter_eq_some_iff.mp found
    cases success
    exact ⟨value, same, by simpa using active, rfl⟩
  · cases success

/-- What `push_event` builds. -/
theorem protocolOperation_stats {operation : OutboxOperation}
    (same : protocolOperation operation = .queryStatsUpsert) : operation = .queryStatsUpsert := by
  cases operation with
  | favoriteUpsert => cases same
  | favoriteDelete => cases same
  | queryStatsUpsert => rfl

theorem pushEvent_ok {event : OutboxEvent} {sent : PushEvent}
    (success : pushEvent db event = .ok sent) :
    ∃ found snapshot, favoriteTx db event.contentKey = .ok found ∧
      sentSnapshot event.operation found = .ok snapshot ∧
      (event.operation = .queryStatsUpsert →
        sentStats (db.queryStats.get event.contentKey) ≠ none) ∧
      sent = {
        eventId := event.eventId.text
        operation := protocolOperation event.operation
        contentKey := event.contentKey.toHex
        keyVersion := (found.map (fun value => value.content.keyVersion)).getD contentKeyVersion
        baseEntityRevision := event.baseEntityRevision.getD 0
        favorite := snapshot
        queryStats := sentStats (db.queryStats.get event.contentKey) } := by
  unfold pushEvent at success
  obtain ⟨found, looked, afterLook⟩ := bind_ok_iff.mp success
  obtain ⟨snapshot, rendered, rest⟩ := bind_ok_iff.mp afterLook
  split at rest
  · cases rest
  · rename_i counted
    refine ⟨found, snapshot, looked, rendered, ?_, (Except.ok.inj rest).symm⟩
    exact fun stats missing => counted ⟨stats, missing⟩

theorem faithful_of_built {event : OutboxEvent} {sent : PushEvent} (shape : Shape issued db)
    (held : Held issued db event) (success : pushEvent db event = .ok sent) :
    Faithful db event sent := by
  obtain ⟨found, snapshot, looked, rendered, -, rfl⟩ := pushEvent_ok success
  refine ⟨rfl, rfl, rfl, rfl, ?_⟩
  intro row stored same upsert
  rw [upsert] at rendered
  obtain ⟨value, rfl, active, rfl⟩ := sentSnapshot_upsert rendered
  rcases favoriteTx_ok looked with ⟨-, impossible⟩ | ⟨favorite, parsed, here, reading, sameValue⟩
  · cases impossible
  · cases sameValue
    have operation := (held.owner _ row stored same).2
    -- The row asks for an upsert, so the local row holds canonical texts.
    rcases (shape.favorites event.contentKey row stored).state with
      ⟨-, other, there, -, canonical⟩ | ⟨delete, -⟩
    · rw [here] at there
      cases there
      refine ⟨favorite, here, ?_, ?_⟩
      · rw [← (readFavorite_ok reading).1]
        exact active
      · rw [protocolSnapshot_of_read canonical reading]
    · rw [operation, upsert] at delete
      cases delete

end Local

section Read

variable {issued : List Uuid} {db : ProfileDb}

theorem parseOutboxRows_ok :
    ∀ (rows : List (CoalesceKey × OutboxRow)) (events : List OutboxEvent),
      parseOutboxRows rows = .ok events →
      events = rows.map (fun entry => ⟨entry.2, entry.1⟩) := by
  intro rows
  induction rows with
  | nil =>
      intro events success
      cases success
      rfl
  | cons entry rest ih =>
      intro events success
      unfold parseOutboxRows at success
      obtain ⟨event, parsed, afterParse⟩ := bind_ok_iff.mp success
      obtain ⟨others, tail, same⟩ := bind_ok_iff.mp afterParse
      cases same
      have head : event = ⟨entry.2, entry.1⟩ := by
        unfold parseOutbox at parsed
        split at parsed
        · cases parsed
        · split at parsed
          · cases parsed
          · exact (Except.ok.inj parsed).symm
      rw [head, ih others tail]
      rfl

theorem readyRows_sub (now : Int) (limit : Nat) {entry : CoalesceKey × OutboxRow}
    (member : entry ∈ readyRows db now limit) :
    db.syncOutbox.get entry.1 = some entry.2 ∧ outboxReady now entry.2 = true := by
  have listed := (List.take_sublist limit _).subset member
  rw [List.mem_insertionSort, List.mem_filter] at listed
  exact ⟨(Relational.Table.mem_rows_iff _ _ _).mp listed.1, listed.2⟩

theorem readyRows_nodup (now : Int) (limit : Nat) :
    ((readyRows db now limit).map Prod.fst).Nodup := by
  have filtered : ((db.syncOutbox.rows.filter (fun entry => outboxReady now entry.2)).map
      Prod.fst).Nodup :=
    (List.filter_sublist.map Prod.fst).nodup db.syncOutbox.unique
  have sorted := ((List.perm_insertionSort (fun first second : CoalesceKey × OutboxRow =>
    first.2.Precedes second.2)
    (db.syncOutbox.rows.filter (fun entry => outboxReady now entry.2))).map Prod.fst).nodup_iff.mpr
    filtered
  exact ((List.take_sublist limit _).map Prod.fst).nodup sorted

/-- A batch holds ready rows as they stand, one for each coalesce key. -/
theorem readyOutboxEvents_ok {now : Int} {limit : Nat} {events : List OutboxEvent}
    (success : readyOutboxEvents db now limit = .ok events) :
    events = (readyRows db now limit).map (fun entry => ⟨entry.2, entry.1⟩) ∧
      (∀ event ∈ events, db.syncOutbox.get event.coalesceKey = some event.toOutboxRow ∧
        outboxReady now event.toOutboxRow = true) ∧
      (events.map OutboxEvent.coalesceKey).Nodup := by
  unfold readyOutboxEvents at success
  split at success
  · cases success
  · have same := parseOutboxRows_ok _ _ success
    subst same
    refine ⟨rfl, ?_, ?_⟩
    · intro event member
      obtain ⟨entry, listed, rfl⟩ := List.mem_map.mp member
      exact readyRows_sub now limit listed
    · rw [List.map_map]
      exact readyRows_nodup now limit

theorem held_of_stored (shape : Shape issued db) {event : OutboxEvent}
    (stored : db.syncOutbox.get event.coalesceKey = some event.toOutboxRow) :
    Held issued db event := by
  refine ⟨shape.issued _ _ stored, ?_, ?_, ?_, ?_⟩
  · intro coalesceKey row found same
    obtain rfl := shape.unique coalesceKey event.coalesceKey row _ found stored same
    rw [stored] at found
    cases found
    exact ⟨rfl, rfl⟩
  · intro operation
    cases keyed : event.coalesceKey with
    | favorite key =>
        rw [keyed] at stored
        have pending := shape.favorites key _ stored
        rw [pending.contentKey]
        exact ⟨rfl, pending.base⟩
    | queryStats deviceId key =>
        rw [keyed] at stored
        have pending := shape.stats deviceId key _ stored
        rw [pending.operation] at operation
        cases operation
  · intro operation
    cases keyed : event.coalesceKey with
    | favorite key =>
        rw [keyed] at stored
        have pending := shape.favorites key _ stored
        rw [pending.operation] at operation
        cases operation
    | queryStats deviceId key =>
        rw [keyed] at stored
        have pending := shape.stats deviceId key _ stored
        rw [pending.contentKey]
        exact ⟨deviceId, rfl⟩
  · intro operation
    cases keyed : event.coalesceKey with
    | favorite key =>
        rw [keyed] at stored
        have pending := shape.favorites key _ stored
        rw [pending.operation] at operation
        cases operation
    | queryStats deviceId key =>
        rw [keyed] at stored
        exact (shape.stats deviceId key _ stored).base

theorem ids_nodup (shape : Shape issued db) {events : List OutboxEvent}
    (stored : ∀ event ∈ events, db.syncOutbox.get event.coalesceKey = some event.toOutboxRow)
    (keys : (events.map OutboxEvent.coalesceKey).Nodup) :
    (events.map (fun event => event.eventId)).Nodup := by
  induction events with
  | nil => exact List.nodup_nil
  | cons event rest ih =>
      rw [List.map_cons, List.nodup_cons] at keys ⊢
      refine ⟨?_, ih (fun other member => stored other (List.mem_cons_of_mem _ member)) keys.2⟩
      intro member
      obtain ⟨other, listed, same⟩ := List.mem_map.mp member
      apply keys.1
      have equal := shape.unique _ _ _ _ (stored other (List.mem_cons_of_mem _ listed))
        (stored event List.mem_cons_self) same
      exact List.mem_map.mpr ⟨other, listed, equal⟩

theorem buildEvents_ok :
    ∀ (events : List OutboxEvent) (request : List PushEvent),
      Desktop.buildEvents db events = .ok request →
      List.Forall₂ (fun event sent => pushEvent db event = .ok sent) events request := by
  intro events
  induction events with
  | nil =>
      intro request success
      cases success
      exact .nil
  | cons event rest ih =>
      intro request success
      unfold Desktop.buildEvents at success
      obtain ⟨sent, head, afterHead⟩ := bind_ok_iff.mp success
      obtain ⟨others, tail, same⟩ := bind_ok_iff.mp afterHead
      cases same
      exact .cons head (ih others tail)

end Read

end Lvos.System
