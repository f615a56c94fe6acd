import Lvos.Storage.Origins
import Lvos.System.Agreement

set_option autoImplicit false

namespace Lvos.System

open Lvos.Core Lvos.Sync Lvos.Storage
open Lvos.Server (ServerDb ServerInv Evolves Behind EventFingerprint UuidParser ApiResult)

variable {φ ι : Type}

/-- Every statistics event of a batch is for a content the server has a row of, or
that an earlier event of the batch creates. -/
def InDomain (server : ServerDb φ) (userId : String) (events : List OutboxEvent) : Prop :=
  ∀ (early : List OutboxEvent) (event : OutboxEvent) (late : List OutboxEvent),
    events = early ++ event :: late → event.operation = .queryStatsUpsert →
    (server.favorites.get (userId, event.contentKey.toHex)).isSome ∨
      ∃ other ∈ early, other.operation = .favoriteUpsert ∧ other.contentKey = event.contentKey

/-- The Favorite intent goes into every batch the statistics row goes into, before
it: it creates the content, is not stopped by a conflict, waits no longer and is
older. -/
structure Covers (favorite stats : OutboxRow) : Prop where
  creates : favorite.operation = .favoriteUpsert
  quiet : favorite.lastError ≠ some conflictError
  ready : ∀ retryAt, favorite.nextRetryAt = some retryAt →
    ∃ later, stats.nextRetryAt = some later ∧ retryAt ≤ later
  older : favorite.Precedes stats

/-- A query of a content that the server has no row of finds a covering intent. -/
def queryCovered (server : ServerDb φ) (userId : String) (db : ProfileDb) (entry : HistoryEntry)
    (eventId : Uuid) : Bool :=
  let key := entry.content.contentKey
  let createdAt := ((db.syncOutbox.get (.queryStats db.profileMeta.deviceId key)).map
    OutboxRow.createdAt).getD entry.lastQueriedAt
  (db.favorites.get key).isNone || (server.favorites.get (userId, key.toHex)).isSome ||
    (db.syncOutbox.get (.favorite key)).any (fun row =>
      row.operation = .favoriteUpsert && row.lastError ≠ some conflictError &&
        row.nextRetryAt = none &&
        (row.createdAt < createdAt ||
          (row.createdAt = createdAt && row.eventId.text ≤ eventId.text)))

/-- A lost exchange of a content that the server has no row of delays its Favorite
intent no longer than its statistics row. -/
def retryCovered (server : ServerDb φ) (userId : String) (db : ProfileDb)
    (events : List OutboxEvent) (nextRetryAt : Int) : Bool :=
  let marked := fun (row : OutboxRow) => events.any (fun event => event.eventId = row.eventId)
  db.syncOutbox.rows.all (fun entry =>
    match entry.1 with
    | .favorite _ => true
    | .queryStats _ key =>
        (server.favorites.get (userId, key.toHex)).isSome ||
          (db.syncOutbox.get (.favorite key)).all (fun row =>
            if marked row then marked entry.2
            else !marked entry.2 || row.nextRetryAt.all (fun retryAt => retryAt ≤ nextRetryAt)))

/-- The condition on one step under which statistics stay in the Favorite domain. -/
def staysInDomain (account : Account) (world : World φ ι) : Action ι → Bool
  | .call device (.query entry eventId) =>
      queryCovered world.server account.userId (world.devices device).profile entry eventId
  | .work device (.lose now) =>
      (Desktop.retryTimestamp (world.devices device).worker.events now).toOption.all
        (retryCovered world.server account.userId (world.devices device).profile
          (world.devices device).worker.events)
  | _ => true

section Order

theorem Precedes.trans {first second third : OutboxRow} (left : first.Precedes second)
    (right : second.Precedes third) : first.Precedes third := by
  unfold OutboxRow.Precedes at *
  rcases left with earlier | ⟨same, before⟩
  · rcases right with later | ⟨equal, -⟩
    · exact Or.inl (by omega)
    · exact Or.inl (by omega)
  · rcases right with later | ⟨equal, after⟩
    · exact Or.inl (by omega)
    · exact Or.inr ⟨same.trans equal, le_trans before after⟩

theorem Precedes.total (first second : OutboxRow) :
    first.Precedes second ∨ second.Precedes first := by
  unfold OutboxRow.Precedes
  rcases lt_trichotomy first.createdAt second.createdAt with earlier | same | later
  · exact Or.inl (Or.inl earlier)
  · rcases le_total first.eventId.text second.eventId.text with before | after
    · exact Or.inl (Or.inr ⟨same, before⟩)
    · exact Or.inr (Or.inr ⟨same.symm, after⟩)
  · exact Or.inr (Or.inl later)

theorem Precedes.antisymm {first second : OutboxRow} (left : first.Precedes second)
    (right : second.Precedes first) : first.eventId = second.eventId := by
  unfold OutboxRow.Precedes at *
  apply Uuid.text_injective
  rcases left with earlier | ⟨same, before⟩
  · rcases right with later | ⟨equal, -⟩ <;> omega
  · rcases right with later | ⟨equal, after⟩
    · omega
    · exact le_antisymm before after

instance : Std.Total (fun first second : CoalesceKey × OutboxRow =>
    first.2.Precedes second.2) :=
  ⟨fun first second => Precedes.total first.2 second.2⟩

instance : IsTrans (CoalesceKey × OutboxRow) (fun first second => first.2.Precedes second.2) :=
  ⟨fun _ _ _ => Precedes.trans⟩

/-- A ready row that precedes a row of the batch stands before it in the batch. -/
theorem readyRows_before {db : ProfileDb} {now : Int} {limit : Nat}
    {early late : List (CoalesceKey × OutboxRow)} {entry : CoalesceKey × OutboxRow}
    (other : CoalesceKey × OutboxRow) (batch : readyRows db now limit = early ++ entry :: late)
    (stored : db.syncOutbox.get other.1 = some other.2)
    (ready : outboxReady now other.2 = true) (older : other.2.Precedes entry.2)
    (apart : other.2.eventId ≠ entry.2.eventId) : other ∈ early := by
  have sorted := List.pairwise_insertionSort
    (fun first second : CoalesceKey × OutboxRow => first.2.Precedes second.2)
    (db.syncOutbox.rows.filter (fun row => outboxReady now row.2))
  have whole : (db.syncOutbox.rows.filter (fun row => outboxReady now row.2)).insertionSort
      (fun first second : CoalesceKey × OutboxRow => first.2.Precedes second.2) =
      early ++ entry :: (late ++
        ((db.syncOutbox.rows.filter (fun row => outboxReady now row.2)).insertionSort
          (fun first second : CoalesceKey × OutboxRow =>
            first.2.Precedes second.2)).drop limit) := by
    rw [← List.cons_append, ← List.append_assoc, ← batch]
    exact (List.take_append_drop limit _).symm
  have listed : other ∈ (db.syncOutbox.rows.filter (fun row => outboxReady now row.2)).insertionSort
      (fun first second : CoalesceKey × OutboxRow => first.2.Precedes second.2) := by
    rw [List.mem_insertionSort, List.mem_filter]
    exact ⟨(Relational.Table.mem_rows_iff _ _ _).mpr stored, ready⟩
  rw [whole] at sorted listed
  rcases List.mem_append.mp listed with before | after
  · exact before
  · rcases List.mem_cons.mp after with same | behind
    · exact absurd (by rw [same]) apart
    · have order := (List.pairwise_cons.mp (List.pairwise_append.mp sorted).2.1).1 other behind
      exact absurd (Precedes.antisymm older order) apart

end Order

/-- Every pending statistics row is of this Device and in the server's Favorite
domain, or covered by a Favorite intent. -/
structure DomainInv (server : ServerDb φ) (userId : String) (db : ProfileDb) : Prop where
  own : ∀ deviceId key row, db.syncOutbox.get (.queryStats deviceId key) = some row →
    deviceId = db.profileMeta.deviceId
  covered : ∀ deviceId key row, db.syncOutbox.get (.queryStats deviceId key) = some row →
    (server.favorites.get (userId, key.toHex)).isSome ∨
      ∃ favorite, db.syncOutbox.get (.favorite key) = some favorite ∧ Covers favorite row

section Profile

variable {server later : ServerDb φ} {userId : String} {issued : List Uuid}
  {db next : ProfileDb}

theorem DomainInv.evolves (inv : DomainInv server userId db)
    (evolves : Evolves userId server later) : DomainInv later userId db :=
  ⟨inv.own, fun deviceId key row stored => (inv.covered deviceId key row stored).imp
    (evolves.present key.toHex) id⟩

/-- The batches of such a profile. -/
theorem DomainInv.batch (inv : DomainInv server userId db) (shape : Shape issued db)
    {now : Int} {limit : Nat} {events : List OutboxEvent}
    (success : readyOutboxEvents db now limit = .ok events) : InDomain server userId events := by
  intro early event late whole stats
  obtain ⟨listed, stored, -⟩ := readyOutboxEvents_ok success
  obtain ⟨here, ready⟩ := stored event (by rw [whole]; simp)
  obtain ⟨deviceId, keyed⟩ := (held_of_stored shape here).stats (by rw [stats]; rfl)
  rw [keyed] at here
  rcases inv.covered deviceId event.contentKey _ here with present | ⟨favorite, pending, covers⟩
  · exact Or.inl present
  · refine Or.inr ?_
    rw [whole] at listed
    obtain ⟨first, rest, split, firstSame, restSame⟩ := List.map_eq_append_iff.mp listed.symm
    obtain ⟨entry, last, cons, entrySame, -⟩ := List.map_eq_cons_iff.mp restSame
    have rowSame : entry.2 = event.toOutboxRow := by rw [← entrySame]
    -- The intent is ready whenever the statistics row is.
    have awake : outboxReady now favorite = true := by
      unfold outboxReady at ready ⊢
      simp only [Bool.and_eq_true, Option.all_eq_true, decide_eq_true_eq] at ready ⊢
      refine ⟨?_, ?_⟩
      · intro retryAt scheduled
        obtain ⟨time, waits, below⟩ := covers.ready retryAt scheduled
        exact le_trans below (ready.1 time waits)
      · intro reason failed same
        exact covers.quiet (by rw [failed, same])
    have apart : favorite.eventId ≠ event.toOutboxRow.eventId := by
      intro same
      exact absurd (shape.unique _ _ _ _ pending here same) (by simp)
    have member := readyRows_before (.favorite event.contentKey, favorite)
      (by rw [split, cons]) pending awake (by rw [rowSame]; exact covers.older)
      (by rw [rowSame]; exact apart)
    refine ⟨⟨favorite, .favorite event.contentKey⟩, ?_, covers.creates,
      (shape.favorites event.contentKey favorite pending).contentKey⟩
    rw [← firstSame]
    exact List.mem_map.mpr ⟨_, member, rfl⟩

/-- A step that touches, of the Outbox, only the intent of a content the server has. -/
theorem DomainInv.touched (inv : DomainInv server userId db) {key : ContentKey}
    (present : (server.favorites.get (userId, key.toHex)).isSome)
    (deviceId : next.profileMeta.deviceId = db.profileMeta.deviceId)
    (outbox : ∀ coalesceKey, coalesceKey ≠ .favorite key →
      next.syncOutbox.get coalesceKey = db.syncOutbox.get coalesceKey) :
    DomainInv server userId next := by
  refine ⟨fun owner other row stored => ?_, fun owner other row stored => ?_⟩
  · rw [outbox _ (by simp)] at stored
    rw [deviceId]
    exact inv.own owner other row stored
  · rw [outbox _ (by simp)] at stored
    by_cases same : other = key
    · rw [same]
      exact Or.inl present
    · refine (inv.covered owner other row stored).imp_right ?_
      rintro ⟨favorite, pending, covers⟩
      exact ⟨favorite, by rw [outbox _ (by simpa using same)]; exact pending, covers⟩

theorem DomainInv.congr (inv : DomainInv server userId db)
    (deviceId : next.profileMeta.deviceId = db.profileMeta.deviceId)
    (outbox : next.syncOutbox = db.syncOutbox) : DomainInv server userId next := by
  refine ⟨fun owner key row stored => ?_, fun owner key row stored => ?_⟩
  · rw [deviceId]
    exact inv.own owner key row (outbox ▸ stored)
  · rw [outbox] at stored ⊢
    exact inv.covered owner key row stored

theorem DomainInv.acknowledged {cursor : Nat} {event : OutboxEvent} {answered : Option Nat}
    (inv : DomainInv server userId db) (shape : Shape issued db)
    (ready : Acknowledgeable server userId cursor db event answered)
    (present : isFavoriteOperation event.operation = true →
      (server.favorites.get (userId, event.contentKey.toHex)).isSome)
    (table : Relational.Table ContentKey QueryStats) :
    DomainInv server userId (Storage.acknowledged db event answered table) := by
  have profile := acknowledged_profileMeta db event answered table
  -- A statistics row that is left is one that was there.
  have old : ∀ owner key row,
      (Storage.acknowledged db event answered table).syncOutbox.get (.queryStats owner key) = some row →
      db.syncOutbox.get (.queryStats owner key) = some row := by
    intro owner key row stored
    obtain ⟨before, here, -, rfl | ⟨revision, -, -, favorite, -⟩⟩ :=
      acknowledged_carried db event answered table stored
    · exact here
    · rw [(shape.stats owner key before here).operation] at favorite
      cases favorite
  refine ⟨fun owner key row stored => ?_, fun owner key row stored => ?_⟩
  · rw [profile]
    exact inv.own owner key row (old owner key row stored)
  · rcases inv.covered owner key row (old owner key row stored) with here |
      ⟨favorite, pending, covers⟩
    · exact Or.inl here
    · cases operation : isFavoriteOperation event.operation with
      | true =>
          by_cases same : key = event.contentKey
          · rw [same]
            exact Or.inl (present operation)
          · refine Or.inr ⟨favorite, ?_, covers⟩
            have view := ready.key shape table key
            cases view with
            | apart favorites outbox => rw [outbox]; exact pending
            | settled revision found keyed => exact absurd keyed same
            | newer revision keyed => exact absurd keyed same
      | false =>
          refine Or.inr ⟨favorite, ?_, covers⟩
          have view := ready.key shape table key
          have silent := (ready.stats operation).1
          cases view with
          | apart favorites outbox => rw [outbox]; exact pending
          | settled revision found keyed answer => rw [silent] at answer; cases answer
          | newer revision keyed answer => rw [silent] at answer; cases answer

theorem DomainInv.markRetry (inv : DomainInv server userId db) {events : List OutboxEvent}
    {nextRetryAt : Int} (now : Int)
    (covered : retryCovered server userId db events nextRetryAt = true) :
    DomainInv server userId
      (markRetry db events nextRetryAt Desktop.serverUnavailable now) := by
  obtain ⟨-, -, -, -, deviceId⟩ := markRetry_favorites db events nextRetryAt
    Desktop.serverUnavailable now
  refine ⟨fun owner key row stored => ?_, fun owner key row stored => ?_⟩
  · obtain ⟨old, here, -⟩ := markRetry_like db events nextRetryAt _ now stored
    rw [deviceId]
    exact inv.own owner key old here
  · rcases markRetry_get db events nextRetryAt Desktop.serverUnavailable now
      (.queryStats owner key) with ⟨-, gone⟩ | ⟨old, after, here, reached, like, outcome⟩
    · rw [gone] at stored
      cases stored
    · rw [reached] at stored
      cases stored
      rcases inv.covered owner key old here with present | ⟨favorite, pending, covers⟩
      · exact Or.inl present
      · have rows := List.all_eq_true.mp covered (.queryStats owner key, old)
          ((Relational.Table.mem_rows_iff _ _ _).mpr here)
        simp only [Bool.or_eq_true, pending, Option.all_some] at rows
        rcases rows with present | together
        · exact Or.inl present
        · refine Or.inr ?_
          rcases markRetry_get db events nextRetryAt Desktop.serverUnavailable now
            (.favorite key) with ⟨absent, -⟩ | ⟨mine, final, there, found, alike, fate⟩
          · rw [absent] at pending
            cases pending
          · rw [there] at pending
            cases pending
            have marks : ∀ other : OutboxRow,
                (events.any (fun event => event.eventId = other.eventId) = true) ↔
                  ∃ event ∈ events, event.eventId = other.eventId := by
              intro other
              simp [List.any_eq_true]
            refine ⟨final, found, alike.operation.trans covers.creates, ?_, ?_, ?_⟩
            · rcases fate with ⟨rfl, -⟩ | ⟨-, failed, -⟩
              · exact covers.quiet
              · rw [failed]
                decide
            · intro retryAt scheduled
              rcases fate with ⟨rfl, unmarked⟩ | ⟨retry, -, marked⟩
              · rcases outcome with ⟨rfl, -⟩ | ⟨waits, -, delayed⟩
                · exact covers.ready retryAt scheduled
                · refine ⟨nextRetryAt, waits, ?_⟩
                  have skipped : ¬ (events.any
                      (fun event => event.eventId = final.eventId) = true) := by
                    rw [marks]
                    rintro ⟨event, member, same⟩
                    exact unmarked event member same
                  rw [if_neg skipped, (marks old).mpr delayed] at together
                  simpa [scheduled] using together
              · rw [if_pos ((marks favorite).mpr marked)] at together
                rw [retry] at scheduled
                cases scheduled
                rcases outcome with ⟨-, unmarked⟩ | ⟨waits, -, -⟩
                · obtain ⟨event, member, same⟩ := (marks old).mp together
                  exact absurd same (unmarked event member)
                · exact ⟨nextRetryAt, waits, le_refl _⟩
            · have order := covers.older
              unfold OutboxRow.Precedes at order ⊢
              rw [alike.createdAt, alike.eventId, like.createdAt, like.eventId]
              exact order

theorem DomainInv.retryLater (inv : DomainInv server userId db) {events : List OutboxEvent}
    {now : Int} (covered : (Desktop.retryTimestamp events now).toOption.all
      (retryCovered server userId db events) = true) :
    DomainInv server userId (Desktop.retryLater db events now).1 := by
  refine Desktop.retryLater_keeps inv (fun retryAt scheduled => ?_)
  rw [scheduled] at covered
  exact inv.markRetry now covered

/-- One write of a user's call. Only a query adds a statistics row. -/
theorem DomainInv.localMove {input : Input} (inv : DomainInv server userId db)
    (shape : Shape issued db) (move : LocalMove input db next)
    (asked : ∀ entry eventId, input.queried entry → input.fresh eventId →
      queryCovered server userId db entry eventId = true) : DomainInv server userId next := by
  have deviceId : next.profileMeta.deviceId = db.profileMeta.deviceId := by
    rw [move.profileMeta]
  -- Away from the content a write is about, both rows are as they were.
  have moved : ∀ key : ContentKey,
      (∀ owner row, next.syncOutbox.get (.queryStats owner key) = some row →
        db.syncOutbox.get (.queryStats owner key) = some row → False) →
      (∀ owner other row, next.syncOutbox.get (.queryStats owner other) = some row →
        db.syncOutbox.get (.queryStats owner other) = some row) →
      (∀ other, other ≠ key →
        next.syncOutbox.get (.favorite other) = db.syncOutbox.get (.favorite other)) →
      DomainInv server userId next := by
    intro key gone stats favorites
    refine ⟨fun owner other row stored => ?_, fun owner other row stored => ?_⟩
    · rw [deviceId]
      exact inv.own owner other row (stats owner other row stored)
    · by_cases same : other = key
      · subst same
        exact (gone owner row stored (stats owner other row stored)).elim
      · rw [favorites other same]
        exact inv.covered owner other row (stats owner other row stored)
  cases move with
  | history entry given changed => exact inv.congr deviceId (by rw [changed]; rfl)
  | baseline entry given changed =>
      exact inv.congr deviceId (by rw [changed, (insertHistoryWithZeroStats_favorites db entry).2.1])
  | counted entry stats given count outside changed =>
      exact inv.congr deviceId (by rw [changed]; rfl)
  | archived favorite given absent deleted changed =>
      exact inv.congr deviceId (by rw [changed]; rfl)
  | cleared changed => exact inv.congr deviceId (by rw [changed]; rfl)
  | reported entry stats eventId favorite given new count inside unused changed =>
      have outbox : next.syncOutbox = db.syncOutbox.put
          (.queryStats db.profileMeta.deviceId entry.content.contentKey)
          ((statsIntent db entry.content.contentKey stats entry.lastQueriedAt eventId).row
            (db.syncOutbox.get
              (.queryStats db.profileMeta.deviceId entry.content.contentKey))) := by
        rw [changed]
      refine ⟨fun owner key row stored => ?_, fun owner key row stored => ?_⟩
      · rw [outbox, Relational.Table.get_put] at stored
        rw [deviceId]
        split at stored
        · rename_i same
          exact (CoalesceKey.queryStats.inj same).1
        · exact inv.own owner key row stored
      · have favorites : next.syncOutbox.get (.favorite key) =
            db.syncOutbox.get (.favorite key) := by
          rw [outbox]
          exact Relational.Table.get_put_of_ne _ _ (by simp)
        rw [favorites]
        rw [outbox, Relational.Table.get_put] at stored
        split at stored
        · rename_i same
          obtain ⟨rfl, rfl⟩ := CoalesceKey.queryStats.inj same
          have row := Option.some.inj stored
          have covered := asked entry eventId given new
          unfold queryCovered at covered
          simp only [inside, Option.isNone_some, Bool.false_or, Bool.or_eq_true,
            Option.any_eq_true, Bool.and_eq_true, decide_eq_true_eq] at covered
          refine covered.imp_right ?_
          rintro ⟨pending, found, ⟨⟨creates, quiet⟩, awake⟩, older⟩
          refine ⟨pending, found, creates, quiet, ?_, ?_⟩
          · intro retryAt scheduled
            rw [awake] at scheduled
            cases scheduled
          · rw [← row]
            unfold OutboxRow.Precedes
            rw [PendingOutbox.row_eventId]
            cases existing : db.syncOutbox.get
                (.queryStats db.profileMeta.deviceId entry.content.contentKey) with
            | none =>
                rw [existing] at older
                exact older
            | some before =>
                rw [existing] at older
                exact older
        · exact inv.covered owner key row stored
  | favorited key now eventId entry stats new known counted inactive unused changed =>
      have outbox : ∀ coalesceKey, coalesceKey ≠ .favorite key →
          next.syncOutbox.get coalesceKey = db.syncOutbox.get coalesceKey := by
        intro coalesceKey apart
        rw [changed]
        exact Relational.Table.get_put_of_ne _ _ apart
      refine ⟨fun owner other row stored => ?_, fun owner other row stored => ?_⟩
      · rw [outbox _ (by simp)] at stored
        rw [deviceId]
        exact inv.own owner other row stored
      · rw [outbox _ (by simp)] at stored
        refine (inv.covered owner other row stored).imp_right ?_
        rintro ⟨favorite, pending, covers⟩
        by_cases same : other = key
        · -- A covering intent is an upsert, over an active row.
          subst same
          rcases (shape.favorites other favorite pending).state with
            ⟨-, value, here, active, -⟩ | ⟨delete, -⟩
          · have deleted := inactive value here
            rw [active] at deleted
            cases deleted
          · rw [covers.creates] at delete
            cases delete
        · exact ⟨favorite, by rw [outbox _ (by simpa using same)]; exact pending, covers⟩
  | folded key now favorite stored active unsynced changed =>
      have lookup : ∀ coalesceKey, next.syncOutbox.get coalesceKey =
          if coalesceKey = .favorite key then none
          else if coalesceKey = .queryStats db.profileMeta.deviceId key then none
          else db.syncOutbox.get coalesceKey := by
        intro coalesceKey
        rw [changed, deleteCoalesced_get, deleteCoalesced_get]
      refine moved key ?_ ?_ ?_
      · intro owner row here before
        rw [lookup, if_neg (by simp)] at here
        rw [inv.own owner key row before, if_pos rfl] at here
        cases here
      · intro owner other row here
        rw [lookup, if_neg (by simp)] at here
        split at here
        · cases here
        · exact here
      · intro other apart
        rw [lookup, if_neg (by simpa using apart), if_neg (by simp)]
  | withdrawn key now eventId favorite stats new stored active synced unused changed =>
      have lookup : ∀ coalesceKey, coalesceKey ≠ .favorite key →
          next.syncOutbox.get coalesceKey =
            if coalesceKey = .queryStats db.profileMeta.deviceId key then none
            else db.syncOutbox.get coalesceKey := by
        intro coalesceKey apart
        rw [changed]
        show ((db.syncOutbox.delete _).put _ _).get _ = _
        rw [Relational.Table.get_put_of_ne _ _ apart, Relational.Table.get_delete_key]
      refine moved key ?_ ?_ ?_
      · intro owner row here before
        rw [lookup _ (by simp), inv.own owner key row before, if_pos rfl] at here
        cases here
      · intro owner other row here
        rw [lookup _ (by simp)] at here
        split at here
        · cases here
        · exact here
      · intro other apart
        rw [lookup _ (by simpa using apart), if_neg (by simp)]

end Profile

/-- A request the server can run: each statistics event of it has its counts, and a
row on the server or an earlier event of the request that creates one. -/
def Deliverable (server : ServerDb φ) (userId : String) (request : List PushEvent) : Prop :=
  ∀ (early : List PushEvent) (sent : PushEvent) (late : List PushEvent),
    request = early ++ sent :: late → sent.operation = .queryStatsUpsert →
    (sent.favorite = none ∧
      ∃ stats, sent.queryStats = some stats ∧ stats.queryCount < i64Limit) ∧
    ((server.favorites.get (userId, sent.contentKey)).isSome ∨
      ∃ other ∈ early, other.operation = .favoriteUpsert ∧ other.contentKey = sent.contentKey)

/-- What a worker carries of the domain. -/
def WorkerDomain (server : ServerDb φ) (userId : String) : Worker → Prop
  | .batched events => InDomain server userId events
  | .pushing _ request => Deliverable server userId request
  | .answered _ _ (.error (.conflict conflict)) => conflict.current.isSome
  | _ => True

theorem Deliverable.evolves {server later : ServerDb φ} {userId : String}
    {request : List PushEvent} (deliverable : Deliverable server userId request)
    (evolves : Evolves userId server later) : Deliverable later userId request := by
  intro early sent late whole stats
  obtain ⟨counted, domain⟩ := deliverable early sent late whole stats
  exact ⟨counted, domain.imp (evolves.present _) id⟩

theorem WorkerDomain.evolves {server later : ServerDb φ} {userId : String} {worker : Worker}
    (inv : WorkerDomain server userId worker) (evolves : Evolves userId server later) :
    WorkerDomain later userId worker := by
  cases worker with
  | idle => trivial
  | batched events =>
      intro early event late whole stats
      exact (inv early event late whole stats).imp (evolves.present _) id
  | pushing events request => exact Deliverable.evolves inv evolves
  | pulled page => trivial
  | answered events request reply =>
      cases reply with
      | ok response => trivial
      | error reason =>
          cases reason with
          | basic error => trivial
          | invalid message => trivial
          | conflict conflict => exact inv

/-- The Device's own count fits its column. -/
def SmallCount (stats : QueryStats) : Prop := stats.deviceQueryCount < i64Limit

theorem SmallCount.lawful : CountProperty SmallCount where
  zero := by
    intro stats zero
    unfold SmallCount
    rw [zero]
    decide
  own := by
    intro stats kept count _ _ small
    unfold SmallCount
    rw [count]
    exact small

theorem countQuery_small {existing : Option QueryStats} {now : Int} {stats : QueryStats}
    (count : countQuery existing now = .ok stats) : SmallCount stats := by
  unfold countQuery at count
  split at count
  · cases count
    show 1 < i64Limit
    decide
  · split at count
    · rename_i small
      cases count
      exact small
    · cases count

theorem sentStats_some {stats : Option QueryStats} {snapshot : QueryStatsSnapshot}
    (sent : sentStats stats = some snapshot) :
    ∃ value, stats = some value ∧ snapshot.queryCount = value.deviceQueryCount := by
  unfold sentStats at sent
  split at sent
  · cases sent
  · rename_i value
    split at sent
    · cases sent
      exact ⟨value, rfl, rfl⟩
    · cases sent

/-- The requests built from a batch in the domain. -/
theorem Deliverable.of_built {server : ServerDb φ} {userId : String} {db : ProfileDb}
    {events : List OutboxEvent} {request : List PushEvent}
    (domain : InDomain server userId events) (small : Counted SmallCount db)
    (success : Desktop.buildEvents db events = .ok request) :
    Deliverable server userId request := by
  intro early sent late whole stats
  have pairs := buildEvents_ok events request success
  rw [whole] at pairs
  have before := List.forall₂_take_append _ _ _ pairs
  obtain ⟨event, last, head, -, tail⟩ :=
    List.forall₂_cons_right_iff.mp (List.forall₂_drop_append _ _ _ pairs)
  obtain ⟨found, snapshot, -, rendered, present, rfl⟩ := pushEvent_ok head
  have operation : event.operation = .queryStatsUpsert := protocolOperation_stats stats
  refine ⟨⟨?_, ?_⟩, ?_⟩
  · rw [operation] at rendered
    exact (Except.ok.inj rendered).symm
  · obtain ⟨stats, counted⟩ := Option.ne_none_iff_exists'.mp (present operation)
    obtain ⟨row, stored, same⟩ := sentStats_some counted
    refine ⟨stats, counted, ?_⟩
    rw [same]
    exact small event.contentKey row stored
  · refine (domain (events.take early.length) event last ?_ operation).imp id ?_
    · rw [← tail, List.take_append_drop]
    · rintro ⟨other, member, creates, same⟩
      obtain ⟨built, listed, made⟩ := Transaction.related_of_mem_left before other member
      obtain ⟨value, text, -, -, -, rfl⟩ := pushEvent_ok made
      exact ⟨_, listed, by rw [creates]; rfl, by rw [same]⟩

structure DomainWorld (userId : String) (world : World φ ι) : Prop where
  device : ∀ device, DomainInv world.server userId (world.devices device).profile
  worker : ∀ device, WorkerDomain world.server userId (world.devices device).worker
  small : ∀ device, Counted SmallCount (world.devices device).profile
  abandoned : ∀ pair ∈ world.abandoned, Deliverable world.server userId pair.2

theorem DomainWorld.initial (account : Account)
    (devices : List (String × String)) (profileId : ι → Uuid) (deviceId : ι → String) (now : Int) :
    DomainWorld account.userId
      (World.initial account devices profileId deviceId now : World φ ι) := by
  refine ⟨fun device => ⟨?_, ?_⟩, fun device => trivial, ?_, ?_⟩
  · intro owner key row impossible
    cases impossible
  · intro owner key row impossible
    cases impossible
  · intro device key stats impossible
    cases impossible
  · intro pair impossible
    cases impossible

section Settle

variable [EventFingerprint φ] {server : ServerDb φ} {userId : String} {issued : List Uuid}
  {db next : ProfileDb} {events : List OutboxEvent} {request : List PushEvent}

omit [EventFingerprint φ] in
/-- A content with news in the log, or with a current record, has a row. -/
theorem present_of_behind (log : Server.LogInv server) {cursor : Nat} {contentKey : String}
    (behind : Behind server userId cursor contentKey) :
    (server.favorites.get (userId, contentKey)).isSome := by
  obtain ⟨revision, row, -, found, rfl⟩ := behind
  obtain ⟨favorite, stored, -⟩ := log.recorded userId revision row found
  rw [stored]
  rfl

omit [EventFingerprint φ] in
theorem present_of_current (log : Server.LogInv server) {cursor : Nat} {record : FavoriteRecord}
    (current : Behind server userId cursor record.contentKey ∨
      Server.Current server userId record) :
    (server.favorites.get (userId, record.contentKey)).isSome := by
  rcases current with behind | ⟨row, aggregate, stored, -⟩
  · exact present_of_behind log behind
  · rw [stored]
    rfl

omit [EventFingerprint φ] in
/-- An answered Favorite event is for a content the server has a row of. -/
theorem present_of_answer (log : Server.LogInv server) {cursor : Nat} {sent : PushEvent}
    {ack : PushAck} (answer : Answer server userId cursor sent ack)
    (favorite : sent.operation ≠ .queryStatsUpsert) :
    (server.favorites.get (userId, sent.contentKey)).isSome := by
  rcases answer.reply favorite with behind | passed | ⟨-, satisfied, -⟩
  · exact present_of_behind log behind
  · cases stored : server.favorites.get (userId, sent.contentKey) with
    | none =>
        rw [stored, Server.revisionOf_none] at passed
        omega
    | some row => rfl
  · unfold Server.Satisfies at satisfied
    cases operation : sent.operation with
    | favoriteUpsert =>
        rw [operation] at satisfied
        obtain ⟨value, stored, -⟩ := satisfied
        rw [stored]
        rfl
    | favoriteDelete =>
        rw [operation] at satisfied
        obtain ⟨value, stored, -⟩ := satisfied
        rw [stored]
        rfl
    | queryStatsUpsert => exact absurd operation favorite

theorem DomainInv.settleReply {reply : ApiResult PushResponse} {now : Int}
    (inv : DomainInv server userId db) (serverInv : ServerInv server)
    (device : DeviceInv server userId issued db)
    (linked : WorkerInv server userId issued db (.answered events request reply))
    (worker : WorkerDomain server userId (.answered events request reply)) :
    DomainInv server userId (settleReply db events request reply now) := by
  obtain ⟨sent, answered, refused⟩ := linked
  unfold System.settleReply
  split
  · rename_i response
    split
    · rename_i items matched
      unfold acknowledgeEvents
      cases body : acknowledgeBody items now db with
      | error reason =>
          rw [Transaction.atomically_of_error body]
          exact inv
      | ok pair =>
          obtain ⟨after, done⟩ := pair
          rw [Transaction.atomically_of_ok body]
          obtain ⟨last, looped, rfl⟩ := acknowledgeBody_ok body
          obtain ⟨ready, distinct⟩ := sent.acknowledgeable device.shape
            (answered response rfl) matched
          obtain ⟨-, final⟩ := device.acknowledgeLoop (DomainInv server userId) ready distinct
            (fun item member other table here prepared _ holds => by
              refine holds.acknowledged here.shape prepared ?_ table
              intro favorite
              obtain ⟨pair, listed, same, found, named, -⟩ :=
                Transaction.related_of_mem_right (matchAcknowledgements_ok matched) item member
              have faithful := Forall₂.mem_zip sent.pairs pair listed
              have inside := List.of_mem_zip (show (pair.1, pair.2) ∈ _ from listed)
              obtain ⟨asked, requested, answer⟩ := Transaction.related_of_mem_right
                (answered response rfl) item.acknowledgement found
              have equal : asked = pair.2 := by
                refine List.inj_on_of_nodup_map sent.ids requested inside.2 ?_
                rw [← answer.eventId, named, faithful.eventId]
              subst equal
              rw [same, ← faithful.contentKey]
              rw [same] at favorite
              exact present_of_answer serverInv.log answer (faithful.isFavorite.mpr favorite))
            inv looped
          exact final.congr rfl rfl
    · exact inv
  · rename_i conflict
    split
    · rename_i event chosen
      unfold resolveConflict
      cases body : resolveConflictBody event conflict.current now db with
      | error reason =>
          rw [Transaction.atomically_of_error body]
          exact inv
      | ok pair =>
          obtain ⟨after, resolution⟩ := pair
          rw [Transaction.atomically_of_ok body]
          have facts := (sent.conflicted (refused conflict rfl) chosen).2
          obtain ⟨record, found⟩ := Option.isSome_iff_exists.mp worker
          have present : (server.favorites.get (userId, event.contentKey.toHex)).isSome := by
            rw [← (facts record found).1]
            refine @present_of_current _ _ _ serverInv.log db.profileMeta.lastServerRevision record ?_
            rw [(facts record found).1]
            exact (facts record found).2
          have resolved := (resolveConflictBody_ok body).2
          exact inv.touched present resolved.cursor.2
            (fun _ apart => resolved.outbox_apart apart)
    · exact inv
  · exact inv

variable [ContentTables]

theorem DomainInv.page {page : ChangesResponse} {now : Int} {cursor : Nat}
    (inv : DomainInv server userId db) (serverInv : ServerInv server)
    (pages : PageInv server userId cursor page)
    (success : applyRemotePageBody page.changes page.nextRevision now db = .ok (next, ())) :
    DomainInv server userId next := by
  obtain ⟨last, looped, rfl⟩ := applyRemotePage_ok success
  have chain := applyRemoteLoop_induct
    (fun changes db last => DomainInv server userId db →
      (∀ change ∈ changes,
        (server.favorites.get (userId, change.favorite.contentKey)).isSome) →
      DomainInv server userId last)
    (fun _ here _ => here)
    (fun change rest db middle last key keyed _ pulled tail here present => by
      refine tail (here.touched ?_ (by rw [pulled.profileMeta])
        (fun _ apart => pulled.outbox_apart apart))
        (fun other member => present other (List.mem_cons_of_mem _ member))
      rw [← keyed]
      exact present change List.mem_cons_self)
    page.changes db last _ _ looped
  exact (chain inv (fun change member =>
    present_of_current serverInv.log (pages.current change member))).congr rfl rfl

end Settle

section Steps

variable [DecidableEq φ] [EventFingerprint φ] [ContentTables] [UuidParser] [DecidableEq ι]
  {userId : String} {world : World φ ι}

omit [ContentTables] [UuidParser] in
/-- A refused Favorite event shows the row it lost against: its base is the local
revision, and a content the server has never seen is at revision 0 on both sides. -/
theorem present_of_refused {deviceId : String} {now : Int} {server : ServerDb φ}
    {request : List PushEvent} {conflict : Server.SyncConflict} {issued : List Uuid}
    {db : ProfileDb} {events : List OutboxEvent} (device : DeviceInv server userId issued db)
    (log : Server.LogInv server) (sent : Sent issued db events request)
    (failed : Server.pushLoop userId deviceId now request server = .error (.conflict conflict)) :
    conflict.current.isSome := by
  obtain ⟨early, event, late, middle, acks, changed, whole, looped, -, favorite, -, found, moved⟩ :=
    Server.pushLoop_conflict request server failed
  cases answer : conflict.current with
  | some record => rfl
  | none =>
      exfalso
      rw [answer] at found
      have untouched := sent.untouched whole favorite looped
      have absent : server.favorites.get (userId, event.contentKey) = none := by
        rw [← untouched]
        unfold Server.favoriteRecord at found
        split at found
        · assumption
        · obtain ⟨aggregate, -, same⟩ := Transaction.bind_ok_iff.mp found
          cases same
      obtain ⟨origin, member, faithful⟩ := Transaction.related_of_mem_right sent.pairs event
        (by rw [whole]; simp)
      have held := (sent.batch.held origin member).favorite (faithful.isFavorite.mp favorite)
      rw [untouched, absent, faithful.base, held.2] at moved
      rcases device.linked origin.contentKey with behind | ⟨revision, -⟩
      · have present := present_of_behind log behind
        rw [← faithful.contentKey, absent] at present
        cases present
      · rw [← faithful.contentKey, absent] at revision
        exact moved (by simpa using revision.symm)

omit [DecidableEq φ] [EventFingerprint φ] [ContentTables] [UuidParser] in
theorem DomainWorld.setDevice (inv : DomainWorld userId world) (device : ι) (value : Device)
    (profile : DomainInv world.server userId value.profile)
    (worker : WorkerDomain world.server userId value.worker)
    (small : Counted SmallCount value.profile) :
    DomainWorld userId (world.setDevice device value) := by
  refine ⟨fun other => ?_, fun other => ?_, fun other => ?_, inv.abandoned⟩
  · exact @World.setDevice_all _ _ _ _ _ _
      (fun device => DomainInv world.server userId device.profile) profile inv.device other
  · exact @World.setDevice_all _ _ _ _ _ _
      (fun device => WorkerDomain world.server userId device.worker) worker inv.worker other
  · exact @World.setDevice_all _ _ _ _ _ _
      (fun device => Counted SmallCount device.profile) small inv.small other

omit [DecidableEq φ] [EventFingerprint φ] [ContentTables] [UuidParser] [DecidableEq ι] in
theorem DomainWorld.evolves (inv : DomainWorld userId world) {later : ServerDb φ}
    (evolves : Evolves userId world.server later) :
    DomainWorld userId { world with server := later } :=
  ⟨fun device => (inv.device device).evolves evolves,
    fun device => (inv.worker device).evolves evolves, inv.small,
    fun pair member => (inv.abandoned pair member).evolves evolves⟩

omit [DecidableEq φ] [EventFingerprint φ] [ContentTables] [UuidParser] [DecidableEq ι] in
/-- Only the list of abandoned requests is read of the records of a run. -/
theorem DomainWorld.records (inv : DomainWorld userId world) (issued : List Uuid)
    {abandoned : List (String × List PushEvent)} (calls : List (ι × ContentKey × Bool))
    (kept : ∀ pair ∈ abandoned, Deliverable world.server userId pair.2) :
    DomainWorld userId { world with issued := issued, abandoned := abandoned, calls := calls } :=
  ⟨inv.device, inv.worker, inv.small, kept⟩

omit [ContentTables] [UuidParser] in
theorem settleReply_kept (profile : ProfileDb) (events : List OutboxEvent)
    (request : List PushEvent) (reply : ApiResult PushResponse) (now : Int) :
    StatsKept profile.queryStats (settleReply profile events request reply now).queryStats := by
  unfold System.settleReply
  split
  · split
    · exact acknowledgeEvents_kept _ _ _
    · exact .refl _
  · split
    · exact resolveConflict_kept _ _ _ _
    · exact .refl _
  · exact .refl _

omit [EventFingerprint φ] [UuidParser] [DecidableEq φ] [DecidableEq ι] in
/-- A call of the user: a query makes one write, no other call reports statistics. -/
theorem DomainInv.perform {server : ServerDb φ} {issued : List Uuid} {db : ProfileDb}
    (inv : DomainInv server userId db) (small : Counted SmallCount db) (shape : Shape issued db)
    (call : Call) (covered : ∀ entry eventId, call = .query entry eventId →
      queryCovered server userId db entry eventId = true) :
    DomainInv server userId (call.perform db) ∧ Counted SmallCount (call.perform db) := by
  have turn : ∀ {before after : ProfileDb}, DomainInv server userId before →
      Counted SmallCount before → Shape (call.ids ++ issued) before →
      LocalMove call.input before after →
      (∀ entry eventId, call.input.queried entry → call.input.fresh eventId →
        queryCovered server userId before entry eventId = true) →
      DomainInv server userId after ∧ Counted SmallCount after := by
    intro before after here counts shaped move asked
    exact ⟨here.localMove shaped move asked,
      counts.localMove SmallCount.lawful move (fun _ _ _ count => countQuery_small count)⟩
  have shaped : Shape (call.ids ++ issued) db :=
    shape.weaken (fun id member => List.mem_append_right _ member)
  by_cases asks : ∃ entry eventId, call = .query entry eventId
  · obtain ⟨entry, eventId, rfl⟩ := asks
    rcases Call.query_move db entry eventId with same | move
    · rw [same]
      exact ⟨inv, small⟩
    · refine turn inv small shaped move ?_
      rintro other id rfl new
      rw [List.mem_singleton.mp new]
      exact covered other eventId rfl
  · have silent : ∀ entry, ¬ call.input.queried entry := by
      intro entry queried
      obtain ⟨eventId, same⟩ := Call.input_queried queried
      exact asks ⟨entry, eventId, same⟩
    have moves := call.moves db
    generalize call.perform db = performed at moves
    have chain : (DomainInv server userId performed ∧ Counted SmallCount performed) ∧
        Shape (call.ids ++ issued) performed := by
      induction moves with
      | refl => exact ⟨⟨inv, small⟩, shaped⟩
      | tail _ move ih =>
          exact ⟨turn ih.1.1 ih.1.2 ih.2 move (fun entry _ queried => absurd queried (silent entry)),
            ih.2.localMove move (fun id member => List.mem_append_left _ member)⟩
    exact chain.1

theorem DomainWorld.work {account : Account} {next : World φ ι} {device : ι} {job : Job}
    (inv : DomainWorld account.userId world) (linked : WorldInv account.userId world)
    (safe : staysInDomain account world (.work device job) = true)
    (taken : work account world device job = some next) : DomainWorld account.userId next := by
  have profile := inv.device device
  have worker := inv.worker device
  have small := inv.small device
  have joined := linked.device device
  have joint := linked.worker device
  unfold System.work at taken
  dsimp only at taken
  split at taken
  · -- readBatch
    split at taken
    · cases taken
      exact inv
    · rename_i events read
      cases taken
      exact inv.setDevice device _ profile (profile.batch joined.shape read) small
    · cases taken
      exact inv
  · -- buildBatch
    rename_i events waiting
    rw [waiting] at worker
    split at taken
    · rename_i request built
      cases taken
      exact inv.setDevice device _ profile (Deliverable.of_built worker small built) small
    · cases taken
      exact inv.setDevice device _ profile trivial small
  · -- serverPush
    rename_i now events request waiting
    cases taken
    obtain ⟨laterInv, evolves⟩ := Server.push_evolves account.maxSyncEventsPerBatch account.userId
      (world.devices device).profile.profileMeta.deviceId request now account.userId linked.server
    have moved := inv.evolves evolves
    refine (inv.evolves evolves).setDevice device _ (moved.device device) ?_ small
    rw [waiting] at joint
    show WorkerDomain _ _ (.answered events request _)
    generalize pushed : Server.push account.maxSyncEventsPerBatch world.server account.userId
      (world.devices device).profile.profileMeta.deviceId request now = outcome
    obtain ⟨later, reply⟩ := outcome
    cases reply with
    | ok response => trivial
    | error reason =>
        cases reason with
        | basic error => trivial
        | invalid message => trivial
        | conflict conflict =>
            exact present_of_refused joined linked.server.log joint (Server.push_conflict pushed)
  · -- receive
    rename_i now events request reply waiting
    rw [waiting] at worker joint
    cases taken
    exact inv.setDevice device _ (profile.settleReply linked.server joined joint worker) trivial
      (small.kept SmallCount.lawful (settleReply_kept _ _ _ _ _))
  · -- lose, before the server ran the request
    rename_i now events request waiting
    rw [waiting] at worker
    cases taken
    have delayed : (Desktop.retryTimestamp events now).toOption.all (retryCovered world.server
        account.userId (world.devices device).profile events) = true := by
      simpa [staysInDomain, waiting, Worker.events] using safe
    have kept := (retryLater_favorites (world.devices device).profile events now).2.1
    refine DomainWorld.records (inv.setDevice device
      ⟨(Desktop.retryLater (world.devices device).profile events now).1, .idle⟩
        (profile.retryLater delayed) trivial
        (fun key stats stored => small key stats (kept ▸ stored))) _ _ ?_
    intro pair member
    rcases List.mem_cons.mp member with rfl | old
    · exact worker
    · exact inv.abandoned pair old
  · -- lose, after it answered
    rename_i now events request reply waiting
    cases taken
    have delayed : (Desktop.retryTimestamp events now).toOption.all (retryCovered world.server
        account.userId (world.devices device).profile events) = true := by
      simpa [staysInDomain, waiting, Worker.events] using safe
    have kept := (retryLater_favorites (world.devices device).profile events now).2.1
    exact inv.setDevice device _ (profile.retryLater delayed) trivial
      (fun key stats stored => small key stats (kept ▸ stored))
  · -- abandon
    cases taken
    refine DomainWorld.records (inv.setDevice device ⟨(world.devices device).profile, .idle⟩
      profile trivial small) _ _ ?_
    intro pair member
    rcases List.mem_append.mp member with left | old
    · cases waiting : (world.devices device).worker with
      | pushing events request =>
          rw [waiting] at left worker
          rw [List.mem_singleton.mp left]
          exact worker
      | idle => rw [waiting] at left; cases left
      | batched events => rw [waiting] at left; cases left
      | answered events request reply => rw [waiting] at left; cases left
      | pulled page => rw [waiting] at left; cases left
    · exact inv.abandoned pair old
  · -- requestChanges
    split at taken
    · cases taken
      exact inv.setDevice device _ profile trivial small
    · cases taken
      exact inv
  · -- applyPage
    rename_i now page waiting
    rw [waiting] at joint
    cases taken
    refine inv.setDevice device _ ?_ trivial
      (small.kept SmallCount.lawful (applyRemotePage_kept _ _ _ _))
    unfold applyRemotePage
    cases body : applyRemotePageBody page.changes page.nextRevision now
        (world.devices device).profile with
    | error reason =>
        rw [Transaction.atomically_of_error body]
        exact profile
    | ok pair =>
        obtain ⟨last, done⟩ := pair
        rw [Transaction.atomically_of_ok body]
        exact profile.page linked.server joint body
  · cases taken

theorem DomainWorld.step {account : Account} {next : World φ ι} {action : Action ι}
    (inv : DomainWorld account.userId world) (linked : WorldInv account.userId world)
    (safe : staysInDomain account world action = true)
    (taken : step account world action = some next) : DomainWorld account.userId next := by
  cases action with
  | call device call =>
      unfold System.step at taken
      dsimp only at taken
      split at taken
      · cases taken
        obtain ⟨profile, small⟩ := (inv.device device).perform (inv.small device)
          (linked.device device).shape call (by
            rintro entry eventId rfl
            exact safe)
        exact (inv.setDevice device
          { world.devices device with profile := call.perform (world.devices device).profile }
          profile (inv.worker device) small).records _ _ inv.abandoned
      · cases taken
  | work device job => exact inv.work linked safe taken
  | latePush deviceId request now =>
      unfold System.step at taken
      dsimp only at taken
      split at taken
      · cases taken
        obtain ⟨laterInv, evolves⟩ := Server.push_evolves account.maxSyncEventsPerBatch
          account.userId deviceId request now account.userId linked.server
        exact (inv.evolves evolves).records _ _ (fun pair member =>
          (inv.abandoned pair (List.mem_of_mem_erase member)).evolves evolves)
      · cases taken
  | patch contentKey active baseEntityRevision now =>
      unfold System.step at taken
      dsimp only at taken
      split at taken
      · cases taken
        exact inv.evolves (Server.patch_evolves account.userId contentKey active
          baseEntityRevision now account.userId linked.server).2
      · cases taken
        exact inv

omit [ContentTables] [UuidParser] in
/-- A statistics event of such a request is accepted when the server reaches it. -/
theorem Deliverable.accepted {server middle : ServerDb φ} {request early late : List PushEvent}
    {sent : PushEvent} {deviceId : String} {now : Int} {acks : List PushAck}
    {changed : Option Nat} (deliverable : Deliverable server userId request)
    (inv : ServerInv server) (whole : request = early ++ sent :: late)
    (operation : sent.operation = .queryStatsUpsert)
    (looped : Server.pushLoop userId deviceId now early server = .ok (middle, acks, changed)) :
    Server.applyEvent middle userId deviceId sent now ≠ .error .invalidEvent := by
  obtain ⟨⟨bare, stats, counted, small⟩, domain⟩ := deliverable early sent late whole operation
  obtain ⟨middleInv, evolves⟩ := Server.pushLoop_evolves userId inv looped
  refine Server.applyEvent_accepted middleInv deviceId now operation bare counted small ?_
  rcases domain with present | ⟨other, member, creates, same⟩
  · exact evolves.present _ present
  · -- The creating event is committed before.
    obtain ⟨ack, -, answer⟩ :=
      Transaction.related_of_mem_left (answers_of_push 0 inv looped) other member
    rw [← same]
    exact present_of_answer middleInv.log answer (by rw [creates]; simp)

/-- The requests the server may still be handed. -/
def InFlight (world : World φ ι) (deviceId : String) (request : List PushEvent) : Prop :=
  (∃ device events, (world.devices device).worker = .pushing events request ∧
      deviceId = (world.devices device).profile.profileMeta.deviceId) ∨
    (deviceId, request) ∈ world.abandoned

/-- Along every run whose queries find a covering intent, and whose lost exchanges
delay none beyond its statistics, the batches stay in the server's Favorite domain
and the server never refuses a statistics event of a request as invalid. -/
theorem stats_in_domain (account : Account) (devices : List (String × String))
    (profileId : ι → Uuid) (deviceId : ι → String) (now : Int) (actions : List (Action ι))
    (last : World φ ι)
    (reached : Transition.run (System.step account)
      (World.initial account devices profileId deviceId now) actions = some last)
    (safe : Transition.Meets (System.step account)
      (fun world action => staysInDomain account world action = true)
      (World.initial account devices profileId deviceId now : World φ ι) actions) :
    (∀ device time limit events,
      readyOutboxEvents (last.devices device).profile time limit = .ok events →
      InDomain last.server account.userId events) ∧
    ∀ sender request, InFlight last sender request →
      ∀ early sent late middle acks changed time, request = early ++ sent :: late →
        sent.operation = .queryStatsUpsert →
        Server.pushLoop account.userId sender time early last.server =
          .ok (middle, acks, changed) →
        Server.applyEvent middle account.userId sender sent time ≠ .error .invalidEvent := by
  obtain ⟨linked, inv⟩ := Transition.run_keeps_of_meets
    (fun world action next (inv : WorldInv account.userId world ∧
        DomainWorld account.userId world) meets taken =>
      ⟨inv.1.step taken, inv.2.step inv.1 meets taken⟩)
    actions _ last ⟨WorldInv.initial account devices profileId deviceId now,
      DomainWorld.initial account devices profileId deviceId now⟩ safe reached
  refine ⟨fun device time limit events read =>
    (inv.device device).batch (linked.device device).shape read, ?_⟩
  intro sender request flying early sent late middle acks changed time whole operation looped
  have deliverable : Deliverable last.server account.userId request := by
    rcases flying with ⟨device, events, waiting, -⟩ | left
    · have worker := inv.worker device
      rw [waiting] at worker
      exact worker
    · exact inv.abandoned (sender, request) left
  exact deliverable.accepted linked.server whole operation looped

end Steps

section Runs

attribute [local instance] Sample.tables Sample.parser

/-- A word is favorited and withdrawn before the first synchronization, which leaves
a local tombstone the server never hears of. -/
def withdrawnUnsent : List (Action Unit) :=
  [.call () (.query (Sample.gift 100) (Sample.eventId 1)),
    .call () (.favorite Sample.giftKey 101 (Sample.eventId 2)),
    .call () (.unfavorite Sample.giftKey 102 (Sample.eventId 3))]

/-- The next query of the word reports statistics for it, alone: the batch leaves the
domain, and the server answers the request with an invalid event. -/
theorem query_after_withdrawal_is_refused :
    ∃ world : World PushEvent Unit,
      Transition.run (System.step Sample.account) Sample.desk (withdrawnUnsent ++
        [.call () (.query (Sample.gift 103) (Sample.eventId 4)),
          .work () (.readBatch 104 100), .work () .buildBatch]) = some world ∧
      ∃ events request sent, readyOutboxEvents (world.devices ()).profile 104 100 = .ok events ∧
        ¬ InDomain world.server "user" events ∧
        (world.devices ()).worker = .pushing events request ∧ request = [sent] ∧
        sent.operation = .queryStatsUpsert ∧
        Server.applyEvent world.server "user" "desk" sent 105 = .error .invalidEvent := by
  have facts : (Transition.run (System.step Sample.account) Sample.desk (withdrawnUnsent ++
      [.call () (.query (Sample.gift 103) (Sample.eventId 4)),
        .work () (.readBatch 104 100), .work () .buildBatch])).any (fun world =>
      (world.devices ()).worker.events.head?.any (fun event =>
        (world.devices ()).worker.request.head?.any (fun sent =>
          (world.devices ()).worker = .pushing [event] [sent] &&
            readyOutboxEvents (world.devices ()).profile 104 100 = .ok [event] &&
            event.operation = .queryStatsUpsert &&
            (world.server.favorites.get ("user", event.contentKey.toHex)).isNone &&
            sent.operation = .queryStatsUpsert &&
            Server.applyEvent world.server "user" "desk" sent 105 = .error .invalidEvent))) =
      true := by
    decide
  obtain ⟨world, ran, holds⟩ := (Option.any_eq_true _ _).mp facts
  obtain ⟨event, -, holds⟩ := (Option.any_eq_true _ _).mp holds
  obtain ⟨sent, -, holds⟩ := (Option.any_eq_true _ _).mp holds
  simp only [Bool.and_eq_true, decide_eq_true_eq, Option.isNone_iff_eq_none] at holds
  obtain ⟨⟨⟨⟨⟨waiting, read⟩, stats⟩, absent⟩, operation⟩, refused⟩ := holds
  refine ⟨world, ran, [event], [sent], sent, read, ?_, waiting, rfl, operation, refused⟩
  intro domain
  rcases domain [] event [] rfl stats with present | ⟨other, member, -⟩
  · rw [absent] at present
    cases present
  · cases member

/-- A word that was favorited and is looked up again before the synchronization goes
out with its Favorite intent in front. -/
theorem stats_in_domain_gift :
    ∃ world : World PushEvent Unit,
      Transition.run (System.step Sample.account) Sample.desk
        [.call () (.query (Sample.gift 100) (Sample.eventId 1)),
          .call () (.favorite Sample.giftKey 101 (Sample.eventId 2)),
          .call () (.query (Sample.gift 102) (Sample.eventId 3))] = some world ∧
      ∃ events, readyOutboxEvents (world.devices ()).profile 103 100 = .ok events ∧
        events.map (fun event => event.operation) = [.favoriteUpsert, .queryStatsUpsert] ∧
        InDomain world.server "user" events := by
  have facts : (Transition.run (System.step Sample.account) Sample.desk
      [.call () (.query (Sample.gift 100) (Sample.eventId 1)),
        .call () (.favorite Sample.giftKey 101 (Sample.eventId 2)),
        .call () (.query (Sample.gift 102) (Sample.eventId 3))]).any (fun world =>
      match readyOutboxEvents (world.devices ()).profile 103 100 with
      | .ok events =>
          events.map (fun event => event.operation) = [.favoriteUpsert, .queryStatsUpsert]
      | .error _ => false) = true := by
    decide
  have safe : Transition.Meets (System.step Sample.account)
      (fun world action => staysInDomain Sample.account world action = true) Sample.desk
      [.call () (.query (Sample.gift 100) (Sample.eventId 1)),
        .call () (.favorite Sample.giftKey 101 (Sample.eventId 2)),
        .call () (.query (Sample.gift 102) (Sample.eventId 3))] := by
    decide
  obtain ⟨world, ran, holds⟩ := (Option.any_eq_true _ _).mp facts
  refine ⟨world, ran, ?_⟩
  split at holds
  · rename_i events read
    exact ⟨events, read, by simpa using holds,
      (stats_in_domain _ _ _ _ _ _ world ran safe).1 () 103 100 events read⟩
  · cases holds

end Runs

end Lvos.System
