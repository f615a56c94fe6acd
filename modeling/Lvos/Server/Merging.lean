import Lvos.Lib.Extremes
import Lvos.Server.Statistics
import Mathlib.Data.List.Dedup

set_option autoImplicit false

namespace Lvos.Server

open Lvos.Sync
open Relational (Table)
open Transaction (bind_ok_iff)

/-! The statistics of a history of requests, as a function of the snapshots it brought. -/

section Summaries

/-- The largest count, the first and the last query and the last update. -/
def summary (snapshots : List QueryStatsSnapshot) : Option DeviceStatsRow := do
  let queryCount ← (snapshots.map QueryStatsSnapshot.queryCount).max?
  let firstQueriedAt ← (snapshots.map QueryStatsSnapshot.firstQueriedAt).min?
  let lastQueriedAt ← (snapshots.map QueryStatsSnapshot.lastQueriedAt).max?
  let updatedAt ← (snapshots.map QueryStatsSnapshot.updatedAt).max?
  some ⟨queryCount, firstQueriedAt, lastQueriedAt, updatedAt⟩

/-- The counts together, the first and the last query. -/
def total (rows : List DeviceStatsRow) : Option AggregateQueryStats := do
  let firstQueriedAt ← (rows.map DeviceStatsRow.firstQueriedAt).min?
  let lastQueriedAt ← (rows.map DeviceStatsRow.lastQueriedAt).max?
  some ⟨(rows.map DeviceStatsRow.queryCount).sum, firstQueriedAt, lastQueriedAt⟩

/-- Order and repetitions of the snapshots do not matter. -/
theorem summary_congr {first second : List QueryStatsSnapshot}
    (same : ∀ stats, stats ∈ first ↔ stats ∈ second) : summary first = summary second := by
  have column : ∀ {α : Type} (field : QueryStatsSnapshot → α) (value : α),
      value ∈ first.map field ↔ value ∈ second.map field := by
    intro α field value
    simp only [List.mem_map, same]
  unfold summary
  rw [Extremes.max?_congr (column QueryStatsSnapshot.queryCount),
    Extremes.min?_congr (column QueryStatsSnapshot.firstQueriedAt),
    Extremes.max?_congr (column QueryStatsSnapshot.lastQueriedAt),
    Extremes.max?_congr (column QueryStatsSnapshot.updatedAt)]

/-- One more snapshot is what `merge_query_stats` makes of the row. -/
theorem summary_concat (snapshots : List QueryStatsSnapshot) (stats : QueryStatsSnapshot) :
    summary (snapshots ++ [stats]) = some (mergedStats (summary snapshots) stats) := by
  cases snapshots with
  | nil => rfl
  | cons head rest =>
      simp only [summary, List.map_append, List.map_cons, List.map_nil, Extremes.max?_concat,
        Extremes.min?_concat, List.max?_cons', List.min?_cons', Option.map_some, Option.getD_some]
      rfl

theorem total_perm {first second : List DeviceStatsRow} (same : first.Perm second) :
    total first = total second := by
  unfold total
  rw [(same.map DeviceStatsRow.queryCount).sum_nat,
    Extremes.min?_congr (fun _ => (same.map DeviceStatsRow.firstQueriedAt).mem_iff),
    Extremes.max?_congr (fun _ => (same.map DeviceStatsRow.lastQueriedAt).mem_iff)]

variable {φ : Type} {db : ServerDb φ} {userId contentKey : String}

theorem aggregateStats_of_fits {aggregate : Option AggregateQueryStats}
    (fits : aggregateStats db userId contentKey = .ok aggregate) :
    aggregate = total (deviceStatsOf db userId contentKey) := by
  unfold aggregateStats at fits
  split at fits
  · rename_i none
    rw [none]
    exact (Except.ok.inj fits).symm
  · rename_i row rest listed
    dsimp only at fits
    split at fits
    · rw [listed]
      exact (Except.ok.inj fits).symm
    · cases fits

/-- The rows of a content, by the Devices that have one. -/
theorem deviceStatsOf_perm {ids : List String} (distinct : ids.Nodup)
    (covered : ∀ id, db.deviceQueryStats.get (userId, id, contentKey) ≠ none → id ∈ ids) :
    (deviceStatsOf db userId contentKey).Perm
      (ids.filterMap (fun id => db.deviceQueryStats.get (userId, id, contentKey))) := by
  have counted := contentEntries_distinct db userId contentKey
  have rows : deviceStatsOf db userId contentKey =
      ((contentEntries db userId contentKey).map (fun entry => entry.1.2.1)).filterMap
        (fun id => db.deviceQueryStats.get (userId, id, contentKey)) := by
    rw [List.filterMap_map, show deviceStatsOf db userId contentKey =
      (contentEntries db userId contentKey).map Prod.snd from rfl, ← List.filterMap_eq_map]
    apply List.filterMap_congr
    intro entry member
    exact (contentEntries_stored member).2.symm
  have others : ids.filterMap (fun id => db.deviceQueryStats.get (userId, id, contentKey)) =
      (ids.filter (fun id => (db.deviceQueryStats.get (userId, id, contentKey)).isSome)).filterMap
        (fun id => db.deviceQueryStats.get (userId, id, contentKey)) := by
    rw [List.filterMap_filter]
    apply List.filterMap_congr
    intro id _
    cases db.deviceQueryStats.get (userId, id, contentKey) <;> rfl
  rw [rows, others]
  apply List.Perm.filterMap
  rw [List.perm_ext_iff_of_nodup counted (distinct.filter _)]
  intro id
  rw [List.mem_filter, List.mem_map]
  constructor
  · rintro ⟨entry, member, rfl⟩
    have stored := (contentEntries_stored member).2
    exact ⟨covered _ (by simp [stored]), by simp [stored]⟩
  · rintro ⟨-, present⟩
    obtain ⟨row, stored⟩ := Option.isSome_iff_exists.mp present
    exact ⟨_, mem_contentEntries stored, rfl⟩

end Summaries

section Histories

/-- An event of a committed batch, and who sent it. -/
structure SentEvent where
  userId : String
  deviceId : String
  event : PushEvent
deriving DecidableEq

/-- The Device of an account that sent an event id first. -/
def sender (log : List SentEvent) (userId eventId : String) : Option String :=
  (log.find? (fun sent => sent.userId = userId ∧ sent.event.eventId = eventId)).map SentEvent.deviceId

/-- The snapshots a Device sent for a content. An event that another Device sent before is
answered from `processed_sync_events` and counts for that Device alone. -/
def snapshotsOf (log : List SentEvent) (userId deviceId contentKey : String) :
    List QueryStatsSnapshot :=
  (log.filter (fun sent => sent.userId = userId ∧ sent.deviceId = deviceId ∧
    sent.event.contentKey = contentKey ∧
    sender log userId sent.event.eventId = some deviceId)).filterMap
      (fun sent => sent.event.queryStats)

/-- Every snapshot a Device sent for a content. -/
def sentBy (log : List SentEvent) (userId deviceId contentKey : String) :
    List QueryStatsSnapshot :=
  (log.filter (fun sent => sent.userId = userId ∧ sent.deviceId = deviceId ∧
    sent.event.contentKey = contentKey)).filterMap (fun sent => sent.event.queryStats)

/-- No two Devices of the account sent one event id. -/
def Unshared (log : List SentEvent) (userId : String) : Prop :=
  ∀ sent ∈ log, ∀ other ∈ log, sent.userId = userId → other.userId = userId →
    sent.event.eventId = other.event.eventId → sent.deviceId = other.deviceId

variable {log : List SentEvent} {sent last : SentEvent} {userId deviceId contentKey : String}
  {stats : QueryStatsSnapshot}

theorem mem_snapshotsOf : stats ∈ snapshotsOf log userId deviceId contentKey ↔
    ∃ sent ∈ log, (sent.userId = userId ∧ sent.deviceId = deviceId ∧
      sent.event.contentKey = contentKey ∧
      sender log userId sent.event.eventId = some deviceId) ∧
      sent.event.queryStats = some stats := by
  simp only [snapshotsOf, List.mem_filterMap, List.mem_filter, decide_eq_true_eq, and_assoc]

theorem sender_isSome (member : sent ∈ log) :
    ∃ deviceId, sender log sent.userId sent.event.eventId = some deviceId := by
  have found : (log.find? (fun other => other.userId = sent.userId ∧
      other.event.eventId = sent.event.eventId)).isSome := by
    rw [List.find?_isSome]
    exact ⟨sent, member, by simp⟩
  obtain ⟨first, here⟩ := Option.isSome_iff_exists.mp found
  exact ⟨first.deviceId, by rw [sender, here]; rfl⟩

theorem sender_some {eventId : String} (found : sender log userId eventId = some deviceId) :
    ∃ sent ∈ log, sent.userId = userId ∧ sent.deviceId = deviceId ∧
      sent.event.eventId = eventId := by
  obtain ⟨first, here, device⟩ := Option.map_eq_some_iff.mp found
  have named := List.find?_some here
  rw [decide_eq_true_eq] at named
  exact ⟨first, List.mem_of_find?_eq_some here, named.1, device, named.2⟩

/-- Whoever sent an id first stays the first. -/
theorem sender_append (member : sent ∈ log) :
    sender (log ++ [last]) sent.userId sent.event.eventId =
      sender log sent.userId sent.event.eventId := by
  obtain ⟨deviceId, found⟩ := sender_isSome member
  obtain ⟨first, here, -⟩ := Option.map_eq_some_iff.mp found
  rw [sender, sender, List.find?_append, here]
  rfl

theorem sender_append_last (fresh : ∀ sent ∈ log, sent.userId = last.userId →
    sent.event.eventId ≠ last.event.eventId) :
    sender (log ++ [last]) last.userId last.event.eventId = some last.deviceId := by
  have unseen : log.find? (fun sent => sent.userId = last.userId ∧
      sent.event.eventId = last.event.eventId) = none := by
    rw [List.find?_eq_none]
    intro sent member
    rw [decide_eq_true_eq]
    rintro ⟨owner, named⟩
    exact fresh sent member owner named
  rw [sender, List.find?_append, unseen]
  simp

theorem Unshared.snapshotsOf (unshared : Unshared log userId) (deviceId contentKey : String) :
    snapshotsOf log userId deviceId contentKey = sentBy log userId deviceId contentKey := by
  unfold Server.snapshotsOf sentBy
  congr 1
  apply List.filter_congr
  intro sent member
  apply decide_eq_decide.mpr
  constructor
  · rintro ⟨owner, device, keyed, -⟩
    exact ⟨owner, device, keyed⟩
  · rintro ⟨rfl, rfl, keyed⟩
    obtain ⟨first, found⟩ := sender_isSome member
    obtain ⟨other, here, owner, device, named⟩ := sender_some found
    have same := unshared other here sent member owner rfl named
    exact ⟨rfl, rfl, keyed, by rw [found, ← device, same]⟩

/-- One more event brings its snapshot to whoever sent its id first. -/
theorem mem_snapshotsOf_append : stats ∈ snapshotsOf (log ++ [last]) userId deviceId contentKey ↔
    stats ∈ snapshotsOf log userId deviceId contentKey ∨
      ((last.userId = userId ∧ last.deviceId = deviceId ∧ last.event.contentKey = contentKey ∧
        sender (log ++ [last]) userId last.event.eventId = some deviceId) ∧
        last.event.queryStats = some stats) := by
  simp only [mem_snapshotsOf, List.mem_append, List.mem_singleton, or_and_right, exists_or,
    exists_eq_left]
  apply or_congr_left
  apply exists_congr
  intro sent
  apply and_congr_right
  intro member
  by_cases owner : sent.userId = userId
  · subst owner
    rw [sender_append member]
  · simp [owner]

theorem mem_senders (member : stats ∈ snapshotsOf log userId deviceId contentKey) :
    deviceId ∈ (log.map SentEvent.deviceId).dedup := by
  obtain ⟨sent, listed, ⟨-, device, -⟩, -⟩ := mem_snapshotsOf.mp member
  rw [List.mem_dedup, ← device]
  exact List.mem_map_of_mem listed

end Histories

section Runs

variable {φ : Type} [DecidableEq φ] [EventFingerprint φ]

/-- The events a request commits: those of a push that is not refused. -/
def committed (db : ServerDb φ) : Action → List SentEvent
  | .push userId deviceId events now =>
      match (pushEvents db userId deviceId events now).2 with
      | .error _ => []
      | .ok _ => events.map (fun event => ⟨userId, deviceId, event⟩)
  | .setState _ _ _ _ _ => []

def committedAll : ServerDb φ → List Action → List SentEvent
  | _, [] => []
  | db, action :: rest => committed db action ++ committedAll (serve db action) rest

/-- The tables hold what the log brought: every row is a summary, and every answer belongs to
an event of the log. -/
structure Merged (db : ServerDb φ) (log : List SentEvent) : Prop where
  rows : ∀ userId deviceId contentKey, db.deviceQueryStats.get (userId, deviceId, contentKey) =
    summary (snapshotsOf log userId deviceId contentKey)
  answered : ∀ sent ∈ log, ∃ row,
    db.processedSyncEvents.get (sent.userId, sent.event.eventId) = some row ∧
      row.eventFingerprint = eventFingerprint sent.event
  origin : ∀ userId eventId row, db.processedSyncEvents.get (userId, eventId) = some row →
    ∃ sent ∈ log, sent.userId = userId ∧ sent.event.eventId = eventId

variable {db next : ServerDb φ} {log : List SentEvent} {userId deviceId : String}
  {event : PushEvent} {now : Int} {ack : PushAck}

omit [DecidableEq φ] in
theorem Merged.initial (userIds : List String) (devices : List (String × String)) :
    Merged (ServerDb.initial userIds devices : ServerDb φ) [] where
  rows := fun _ _ _ => rfl
  answered := by simp
  origin := by rintro _ _ _ ⟨⟩

omit [DecidableEq φ] in
theorem Merged.congr (merged : Merged db log)
    (stats : next.deviceQueryStats = db.deviceQueryStats)
    (processed : next.processedSyncEvents = db.processedSyncEvents) : Merged next log := by
  refine ⟨?_, ?_, ?_⟩
  · rw [stats]
    exact merged.rows
  · rw [processed]
    exact merged.answered
  · rw [processed]
    exact merged.origin

/-- An event answered from memory was in the log, so its snapshot is no news. -/
theorem Merged.again (merged : Merged db log)
    (answer : processedAck db userId event (eventFingerprint event) = .ok (some ack)) :
    Merged db (log ++ [⟨userId, deviceId, event⟩]) := by
  obtain ⟨row, stored, fingerprint, -⟩ := processedAck_some answer
  have same : ∀ sent ∈ log, sent.userId = userId → sent.event.eventId = event.eventId →
      sent.event = event := by
    rintro sent member rfl named
    obtain ⟨other, found, fingerprinted⟩ := merged.answered sent member
    rw [named, stored] at found
    cases found
    exact EventFingerprint.collisionFree (fingerprinted.symm.trans fingerprint)
  refine ⟨fun owner id contentKey => ?_, fun sent member => ?_, fun owner eventId other found => ?_⟩
  · rw [merged.rows]
    apply summary_congr
    intro stats
    rw [mem_snapshotsOf_append]
    constructor
    · exact Or.inl
    · rintro (old | ⟨⟨rfl, rfl, keyed, first⟩, brought⟩)
      · exact old
      · -- The first to send the id is this Device, and sent the same event.
        obtain ⟨seen, here, owner, named⟩ := merged.origin _ _ row stored
        dsimp only at first keyed brought
        have before : sender log userId event.eventId = some deviceId := by
          have kept := @sender_append log seen ⟨userId, deviceId, event⟩ here
          rw [owner, named] at kept
          exact kept.symm.trans first
        obtain ⟨sent, member, mine, device, id⟩ := sender_some before
        have event := same sent member mine id
        refine mem_snapshotsOf.mpr ⟨sent, member, ⟨mine, device, ?_, ?_⟩, ?_⟩
        · rw [event]
          exact keyed
        · rw [id]
          exact before
        · rw [event]
          exact brought
  · rw [List.mem_append, List.mem_singleton] at member
    rcases member with old | rfl
    · exact merged.answered sent old
    · exact ⟨row, stored, fingerprint⟩
  · obtain ⟨sent, member, named⟩ := merged.origin owner eventId other found
    exact ⟨sent, List.mem_append_left _ member, named⟩

omit [DecidableEq φ] in
/-- A new event is merged into the row of its Device. -/
theorem Merged.counted (merged : Merged db log)
    (unseen : db.processedSyncEvents.get (userId, event.eventId) = none)
    (table : next.deviceQueryStats = countedTable db.deviceQueryStats userId deviceId event)
    (stored : next.processedSyncEvents = db.processedSyncEvents.put (userId, event.eventId)
      (ackRow event (eventFingerprint event) ack now)) :
    Merged next (log ++ [⟨userId, deviceId, event⟩]) := by
  have fresh : ∀ sent ∈ log, sent.userId = userId → sent.event.eventId ≠ event.eventId := by
    rintro sent member rfl named
    obtain ⟨row, found, -⟩ := merged.answered sent member
    rw [named, unseen] at found
    cases found
  have first := @sender_append_last log ⟨userId, deviceId, event⟩ fresh
  refine ⟨fun owner id contentKey => ?_, fun sent member => ?_, fun owner eventId row found => ?_⟩
  · have news : ∀ stats,
        stats ∈ snapshotsOf (log ++ [⟨userId, deviceId, event⟩]) owner id contentKey ↔
          stats ∈ snapshotsOf log owner id contentKey ∨
            ((owner, id, contentKey) = (userId, deviceId, event.contentKey) ∧
              event.queryStats = some stats) := by
      intro stats
      rw [mem_snapshotsOf_append, Prod.mk.injEq, Prod.mk.injEq]
      apply or_congr_right
      apply and_congr_left
      intro _
      constructor
      · rintro ⟨rfl, rfl, rfl, -⟩
        exact ⟨rfl, rfl, rfl⟩
      · rintro ⟨rfl, rfl, rfl⟩
        exact ⟨rfl, rfl, rfl, first⟩
    rw [table, countedTable]
    cases brought : event.queryStats with
    | none =>
        rw [merged.rows]
        apply summary_congr
        intro stats
        rw [news, brought]
        simp
    | some stats =>
        dsimp only
        rw [Table.get_put]
        split
        · rename_i mine
          rw [← mine, merged.rows, ← summary_concat]
          apply summary_congr
          intro other
          rw [news, brought, List.mem_append, List.mem_singleton]
          simp [mine, eq_comm]
        · rename_i apart
          rw [merged.rows]
          apply summary_congr
          intro other
          rw [news]
          simp [apart]
  · rw [stored]
    rw [List.mem_append, List.mem_singleton] at member
    rcases member with old | rfl
    · obtain ⟨row, found, fingerprint⟩ := merged.answered sent old
      refine ⟨row, ?_, fingerprint⟩
      rw [Table.get_put_of_ne _ _ ?_]
      · exact found
      · intro same
        rw [same, unseen] at found
        cases found
    · exact ⟨_, Table.get_put_self _ _ _, rfl⟩
  · rw [stored, Table.get_put] at found
    split at found
    · rename_i same
      cases same
      exact ⟨⟨userId, deviceId, event⟩, by simp, rfl, rfl⟩
    · obtain ⟨sent, member, named⟩ := merged.origin owner eventId row found
      exact ⟨sent, List.mem_append_left _ member, named⟩

theorem Merged.loop : ∀ (events : List PushEvent) (db : ServerDb φ)
    (log : List SentEvent) (acks : List PushAck) (changed : Option Nat), Merged db log →
    pushLoop userId deviceId now events db = .ok (next, acks, changed) →
    Merged next (log ++ events.map (fun event => ⟨userId, deviceId, event⟩)) := by
  intro events
  induction events with
  | nil =>
      intro db log acks changed merged success
      rw [(pushLoop_nil success).1, List.map_nil, List.append_nil]
      exact merged
  | cons event rest ih =>
      intro db log acks changed merged success
      obtain ⟨middle, outcome, later, tailChanged, -, turn, tail, -⟩ := pushLoop_turn success
      have here : Merged middle (log ++ [⟨userId, deviceId, event⟩]) := by
        cases turn with
        | again unchanged answer =>
            rw [unchanged]
            exact merged.again answer
        | counted unseen reported stored => exact merged.counted unseen reported.table stored
      have whole := ih middle _ later tailChanged here tail
      rw [List.append_assoc] at whole
      exact whole

theorem Merged.serve (merged : Merged db log) (action : Action) :
    Merged (serve db action) (log ++ committed db action) := by
  cases action with
  | push userId deviceId events now =>
      simp only [Server.serve, pushEvents, committed]
      cases body : pushBody userId deviceId events now db with
      | error reason =>
          rw [Transaction.atomically_of_error body, List.append_nil]
          exact merged
      | ok pair =>
          obtain ⟨next, result⟩ := pair
          rw [Transaction.atomically_of_ok body]
          exact Merged.loop events db log _ _ merged (pushBody_ok body)
  | setState userId contentKey active baseEntityRevision now =>
      simp only [Server.serve, committed, List.append_nil]
      rcases Transaction.atomically_cases
          (setStateBody userId contentKey active baseEntityRevision now) db with
        same | ⟨next, result, success, written⟩
      · rw [show (setFavoriteState db userId contentKey active baseEntityRevision now).1 = db from
          same]
        exact merged
      · rw [show (setFavoriteState db userId contentKey active baseEntityRevision now).1 = next from
          congrArg Prod.fst written]
        exact merged.congr (setStateBody_stats success) (setStateBody_ok success).processed

/-- The tables of a history hold what its committed events brought. -/
theorem Merged.serveAll (actions : List Action) : ∀ (db : ServerDb φ) (log : List SentEvent),
    Merged db log → Merged (serveAll db actions) (log ++ committedAll db actions) := by
  induction actions with
  | nil =>
      intro db log merged
      rw [committedAll, List.append_nil]
      exact merged
  | cons action rest ih =>
      intro db log merged
      rw [committedAll, ← List.append_assoc]
      exact ih _ _ (merged.serve action)

omit [DecidableEq φ] in
theorem Merged.aggregate (merged : Merged db log) (fits : Representable db)
    {contentKey : String} {ids : List String} (distinct : ids.Nodup)
    (covered : ∀ id, snapshotsOf log userId id contentKey ≠ [] → id ∈ ids) :
    aggregateStats db userId contentKey =
      .ok (total (ids.filterMap (fun id => summary (snapshotsOf log userId id contentKey)))) := by
  obtain ⟨aggregate, counted⟩ := fits.sums userId contentKey
  have rows := @deviceStatsOf_perm φ db userId contentKey ids distinct (by
    intro id present
    apply covered id
    intro none
    rw [merged.rows, none] at present
    exact present rfl)
  simp only [merged.rows] at rows
  rw [counted, aggregateStats_of_fits counted, total_perm rows]

omit [DecidableEq φ] [EventFingerprint φ] in
/-- A merge that leaves the table says so. -/
theorem mergeQueryStats_silent {contentKey : String} {stats : QueryStatsSnapshot} {changed : Bool}
    (success : mergeQueryStats db userId deviceId contentKey stats = .ok (next, changed))
    (same : next.deviceQueryStats = db.deviceQueryStats) : changed = false := by
  unfold mergeQueryStats at success
  obtain ⟨count, -, rest⟩ := bind_ok_iff.mp success
  dsimp only at rest
  split at rest
  · exact (Prod.mk.inj (Except.ok.inj rest)).2.symm
  · rename_i news
    split at rest
    · cases rest
      have stored := Table.get_put_self db.deviceQueryStats (userId, deviceId, contentKey)
        (mergedStats (db.deviceQueryStats.get (userId, deviceId, contentKey)) stats)
      rw [show db.deviceQueryStats.put (userId, deviceId, contentKey) _ = db.deviceQueryStats from
        same] at stored
      exact absurd stored news
    · cases rest

omit [DecidableEq φ] [EventFingerprint φ] in
theorem applyEvent_quiet {outcome : EventOutcome}
    (success : applyEvent db userId deviceId event now = .ok (next, outcome))
    (statsOnly : event.operation = .queryStatsUpsert)
    (same : next.deviceQueryStats = db.deviceQueryStats) :
    next.users = db.users ∧ next.changeLog = db.changeLog ∧ outcome.changedRevision = none := by
  unfold applyEvent at success
  obtain ⟨current, -, guarded⟩ := bind_ok_iff.mp success
  obtain ⟨⟨⟩, -, entityStep⟩ := bind_ok_iff.mp guarded
  obtain ⟨⟨entityDb, entityRevision, entityChanged⟩, entityOk, statsStep⟩ :=
    bind_ok_iff.mp entityStep
  obtain ⟨⟨statsDb, statsChanged, aggregate⟩, statsOk, finishStep⟩ := bind_ok_iff.mp statsStep
  obtain ⟨⟨finalDb, revision⟩, finishOk, answer⟩ := bind_ok_iff.mp finishStep
  cases answer
  have entity : entityDb = db ∧ entityChanged = false := by
    simp only [applyEntity, statsOnly] at entityOk
    split at entityOk
    · cases entityOk
    · cases entityOk
      exact ⟨rfl, rfl⟩
  obtain ⟨rfl, rfl⟩ := entity
  have kept : next.deviceQueryStats = statsDb.deviceQueryStats := by
    rcases finishChange_ok finishOk with ⟨-, rfl, -⟩ | ⟨-, entity, previous, -, -, -, -, rfl⟩
    · rfl
    · rfl
  have silent : statsChanged = false ∧ statsDb = entityDb := by
    unfold applyStats at statsOk
    split at statsOk
    · simp [statsOnly] at statsOk
    · obtain ⟨⟨merged, altered⟩, mergeOk, rest⟩ := bind_ok_iff.mp statsOk
      obtain ⟨counted, -, written⟩ := bind_ok_iff.mp rest
      cases written
      have quiet := mergeQueryStats_silent mergeOk (kept.symm.trans same)
      rcases mergeQueryStats_ok mergeOk with ⟨-, unchanged⟩ | ⟨changed, -⟩
      · exact ⟨quiet, unchanged⟩
      · rw [quiet] at changed
        cases changed
  obtain ⟨rfl, rfl⟩ := silent
  rcases finishChange_ok finishOk with ⟨-, rfl, -⟩ | ⟨changed, -⟩
  · exact ⟨rfl, rfl, rfl⟩
  · cases changed

/-- An event for the statistics alone that leaves them allocates no revision. -/
theorem pushEvent_quiet {outcome : EventOutcome}
    (success : pushEvent db userId deviceId event now = .ok (next, outcome))
    (statsOnly : event.operation = .queryStatsUpsert)
    (same : next.deviceQueryStats = db.deviceQueryStats) :
    next.users = db.users ∧ next.changeLog = db.changeLog ∧ outcome.changedRevision = none := by
  unfold pushEvent at success
  dsimp only at success
  obtain ⟨found, -, rest⟩ := bind_ok_iff.mp success
  cases found with
  | some ack =>
      cases rest
      exact ⟨rfl, rfl, rfl⟩
  | none =>
      obtain ⟨⟨middle, result⟩, applied, storing⟩ := bind_ok_iff.mp rest
      obtain ⟨final, stored, written⟩ := bind_ok_iff.mp storing
      cases written
      rw [storeAck_ok stored] at same ⊢
      have quiet := applyEvent_quiet applied statsOnly same
      exact quiet

/-- The statistics of every history: the row of a Device is the summary of the snapshots it
brought, the aggregate of a content is the total of its Devices' rows, whatever the order the
snapshots came in, however often and in which batches; and an event for the statistics alone
that leaves them allocates no revision. -/
theorem statistics_merge (userIds : List String) (devices : List (String × String))
    (actions : List Action) :
    let first : ServerDb φ := ServerDb.initial userIds devices
    let last := serveAll first actions
    let log := committedAll first actions
    (∀ userId deviceId contentKey, last.deviceQueryStats.get (userId, deviceId, contentKey) =
      summary (snapshotsOf log userId deviceId contentKey)) ∧
    (∀ userId, Unshared log userId → ∀ deviceId contentKey,
      snapshotsOf log userId deviceId contentKey = sentBy log userId deviceId contentKey) ∧
    (∀ userId contentKey (ids : List String), ids.Nodup →
      (∀ id, snapshotsOf log userId id contentKey ≠ [] → id ∈ ids) →
      aggregateStats last userId contentKey =
        .ok (total (ids.filterMap (fun id => summary (snapshotsOf log userId id contentKey))))) ∧
    (∀ otherActions userId contentKey, (∀ id stats, stats ∈ snapshotsOf log userId id contentKey ↔
        stats ∈ snapshotsOf (committedAll first otherActions) userId id contentKey) →
      (∀ id, (serveAll first otherActions).deviceQueryStats.get (userId, id, contentKey) =
        last.deviceQueryStats.get (userId, id, contentKey)) ∧
      aggregateStats (serveAll first otherActions) userId contentKey =
        aggregateStats last userId contentKey) ∧
    (∀ (db next : ServerDb φ) userId deviceId event now outcome,
      pushEvent db userId deviceId event now = .ok (next, outcome) →
      event.operation = .queryStatsUpsert → next.deviceQueryStats = db.deviceQueryStats →
      next.users = db.users ∧ next.changeLog = db.changeLog ∧
        outcome.changedRevision = none) := by
  intro first last log
  have merged : ∀ actions : List Action,
      Merged (serveAll first actions) (committedAll first actions) := fun actions =>
    Merged.serveAll actions first [] (Merged.initial userIds devices)
  have fits : ∀ actions : List Action, Representable (serveAll first actions) := fun actions =>
    serveAll_keeps serve_representable actions first (Representable.initial userIds devices)
  refine ⟨(merged actions).rows, fun userId unshared => unshared.snapshotsOf, ?_, ?_, ?_⟩
  · intro userId contentKey ids distinct covered
    exact (merged actions).aggregate (fits actions) distinct covered
  · intro otherActions userId contentKey same
    have summaries : ∀ id,
        summary (snapshotsOf (committedAll first otherActions) userId id contentKey) =
          summary (snapshotsOf log userId id contentKey) := fun id =>
      (summary_congr (same id)).symm
    refine ⟨fun id => ?_, ?_⟩
    · rw [(merged otherActions).rows, (merged actions).rows]
      exact summaries id
    · have covered : ∀ id, snapshotsOf log userId id contentKey ≠ [] →
          id ∈ (log.map SentEvent.deviceId).dedup := by
        intro id some
        obtain ⟨stats, member⟩ := List.exists_mem_of_ne_nil _ some
        exact mem_senders member
      have distinct := List.nodup_dedup (log.map SentEvent.deviceId)
      rw [(merged actions).aggregate (fits actions) distinct covered,
        (merged otherActions).aggregate (fits otherActions) distinct ?_]
      · simp only [summaries]
        rfl
      · intro id some
        obtain ⟨stats, member⟩ := List.exists_mem_of_ne_nil _ some
        exact mem_senders ((same id stats).mpr member)
  · intro db next userId deviceId event now outcome success statsOnly same
    exact pushEvent_quiet success statsOnly same

/-- A second Device sends an event that the first already has: the server answers it from memory,
and the second Device has no row. -/
theorem shared_event_counts_once :
    let favorite : PushEvent := {
      eventId := "0190b5a0-0000-7000-8000-000000000001"
      operation := .favoriteUpsert
      contentKey := "7df36909cc79f4ffaf2a7af514aa99728ece1c0bbd835c131d829fd5ac74c346"
      keyVersion := 1
      baseEntityRevision := 0
      favorite := some ⟨"word", "en", "zh-CN", "gift", "gift", "礼物", "tokenhub", 10, 10⟩
      queryStats := none }
    let shared : PushEvent := { favorite with
      eventId := "0190b5a0-0000-7000-8000-000000000002"
      operation := .queryStatsUpsert
      favorite := none
      queryStats := some ⟨5, 50, 120, 120⟩ }
    let first : ServerDb PushEvent := ServerDb.initial ["u"] [("u", "desk"), ("u", "phone")]
    let actions : List Action := [.push "u" "desk" [favorite, shared] 200,
      .push "u" "phone" [shared] 201]
    let log := committedAll first actions
    sentBy log "u" "phone" shared.contentKey = [⟨5, 50, 120, 120⟩] ∧
      (serveAll first actions).deviceQueryStats.get ("u", "phone", shared.contentKey) ≠
        summary (sentBy log "u" "phone" shared.contentKey) := by
  decide +kernel

end Runs

end Lvos.Server
