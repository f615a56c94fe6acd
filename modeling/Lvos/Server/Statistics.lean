import Lvos.Server.Delivery

set_option autoImplicit false

namespace Lvos.Server

open Lvos.Sync
open Relational (Table)
open Transaction (bind_ok_iff)

variable {φ : Type}

/-! What requests do to `device_query_stats`, and the aggregates the answers carry. -/

/-- The statistics after an event of a Device: its row takes in what was sent. -/
def countedTable (table : Table (String × String × String) DeviceStatsRow)
    (userId deviceId : String) (event : PushEvent) :
    Table (String × String × String) DeviceStatsRow :=
  match event.queryStats with
  | none => table
  | some stats => table.put (userId, deviceId, event.contentKey)
      (mergedStats (table.get (userId, deviceId, event.contentKey)) stats)

/-- One spec for the statistics part of `apply_event`. -/
structure Reported (db next : ServerDb φ) (userId deviceId : String) (event : PushEvent)
    (now : Int) (ack : PushAck) : Prop where
  table : next.deviceQueryStats = countedTable db.deviceQueryStats userId deviceId event
  silent : event.queryStats = none → ack.aggregateQueryStats = none
  aggregate : event.queryStats ≠ none →
    aggregateStats next userId event.contentKey = .ok ack.aggregateQueryStats
  logged : next.deviceQueryStats = db.deviceQueryStats ∨
    ∃ entityRevision, Logged db next userId event.contentKey entityRevision event.operation now

theorem mergeQueryStats_table {db next : ServerDb φ} {userId deviceId contentKey : String}
    {stats : QueryStatsSnapshot} {changed : Bool}
    (success : mergeQueryStats db userId deviceId contentKey stats = .ok (next, changed)) :
    next = { db with
        deviceQueryStats := db.deviceQueryStats.put (userId, deviceId, contentKey)
          (mergedStats (db.deviceQueryStats.get (userId, deviceId, contentKey)) stats) } ∧
      (changed = false → next.deviceQueryStats = db.deviceQueryStats) := by
  unfold mergeQueryStats at success
  obtain ⟨count, -, rest⟩ := bind_ok_iff.mp success
  dsimp only at rest
  split at rest
  · rename_i same
    have pair := Prod.mk.inj (Except.ok.inj rest)
    have last : next = db := pair.1.symm
    rw [last, Table.put_same same]
    exact ⟨rfl, fun _ => rfl⟩
  · split at rest
    · have pair := Prod.mk.inj (Except.ok.inj rest)
      refine ⟨pair.1.symm, fun silent => ?_⟩
      rw [← pair.2] at silent
      cases silent
    · cases rest

/-- The aggregate is read off the statistics table alone. -/
theorem aggregateStats_congr {db other : ServerDb φ}
    (same : other.deviceQueryStats = db.deviceQueryStats) (userId contentKey : String) :
    aggregateStats other userId contentKey = aggregateStats db userId contentKey := by
  unfold aggregateStats deviceStatsOf
  rw [same]

/-- The entries `aggregate_stats` sums. -/
def contentEntries (db : ServerDb φ) (userId contentKey : String) :
    List ((String × String × String) × DeviceStatsRow) :=
  db.deviceQueryStats.rows.filter (fun entry => entry.1.1 = userId ∧ entry.1.2.2 = contentKey)

theorem contentEntries_stored {db : ServerDb φ} {userId contentKey : String}
    {entry : (String × String × String) × DeviceStatsRow}
    (member : entry ∈ contentEntries db userId contentKey) :
    entry.1 = (userId, entry.1.2.1, contentKey) ∧
      db.deviceQueryStats.get (userId, entry.1.2.1, contentKey) = some entry.2 := by
  rw [contentEntries, List.mem_filter, decide_eq_true_eq] at member
  obtain ⟨listed, owner, keyed⟩ := member
  have key : entry.1 = (userId, entry.1.2.1, contentKey) := by
    rw [← owner, ← keyed]
  refine ⟨key, ?_⟩
  rw [← key]
  exact (Table.mem_rows_iff db.deviceQueryStats entry.1 entry.2).mp listed

theorem mem_contentEntries {db : ServerDb φ} {userId deviceId contentKey : String}
    {row : DeviceStatsRow}
    (stored : db.deviceQueryStats.get (userId, deviceId, contentKey) = some row) :
    ((userId, deviceId, contentKey), row) ∈ contentEntries db userId contentKey := by
  rw [contentEntries, List.mem_filter, Table.mem_rows_iff]
  exact ⟨stored, by simp⟩

/-- A Device has one entry. -/
theorem contentEntries_distinct (db : ServerDb φ) (userId contentKey : String) :
    ((contentEntries db userId contentKey).map (fun entry => entry.1.2.1)).Nodup := by
  have unique : ((contentEntries db userId contentKey).map Prod.fst).Nodup :=
    db.deviceQueryStats.unique.sublist (List.filter_sublist.map Prod.fst)
  have keys : (contentEntries db userId contentKey).map Prod.fst =
      ((contentEntries db userId contentKey).map (fun entry => entry.1.2.1)).map
        (fun id => (userId, id, contentKey)) := by
    rw [List.map_map]
    exact List.map_congr_left (fun entry member => (contentEntries_stored member).1)
  rw [keys] at unique
  exact List.Nodup.of_map _ unique

theorem applyEvent_reported {db next : ServerDb φ} {userId deviceId : String} {event : PushEvent}
    {now : Int} {outcome : EventOutcome}
    (success : applyEvent db userId deviceId event now = .ok (next, outcome)) :
    Reported db next userId deviceId event now outcome.ack := by
  unfold applyEvent at success
  obtain ⟨current, found, guarded⟩ := bind_ok_iff.mp success
  obtain ⟨⟨⟩, guard, entityStep⟩ := bind_ok_iff.mp guarded
  obtain ⟨⟨entityDb, entityRevision, entityChanged⟩, entityOk, statsStep⟩ :=
    bind_ok_iff.mp entityStep
  obtain ⟨⟨statsDb, statsChanged, aggregate⟩, statsOk, finishStep⟩ := bind_ok_iff.mp statsStep
  obtain ⟨⟨finalDb, revision⟩, finishOk, answer⟩ := bind_ok_iff.mp finishStep
  have answer := Except.ok.inj answer
  simp only [Prod.mk.injEq] at answer
  obtain ⟨rfl, rfl⟩ := answer
  have entityFrame : entityDb.deviceQueryStats = db.deviceQueryStats ∧
      entityDb.users = db.users ∧ entityDb.changeLog = db.changeLog := by
    cases applyEntity_ok found entityOk with
    | same unchanged => exact unchanged ▸ ⟨rfl, rfl, rfl⟩
    | fresh row table favorite advanced entity changed => exact changed ▸ ⟨rfl, rfl, rfl⟩
  obtain ⟨sameStats, sameUsers, sameLog⟩ := entityFrame
  have finished : finalDb.deviceQueryStats = statsDb.deviceQueryStats ∧
      ((entityChanged || statsChanged) = true → statsDb.users = db.users →
        statsDb.changeLog = db.changeLog →
        ∃ entity, Logged db finalDb userId event.contentKey entity event.operation now) := by
    rcases finishChange_ok finishOk with ⟨silent, rfl, -⟩ |
      ⟨-, entity, previous, -, latest, -, fits, rfl⟩
    · refine ⟨rfl, fun changed => ?_⟩
      rw [silent] at changed
      cases changed
    · refine ⟨rfl, fun _ users log => ⟨entity, previous, ?_, fits, ?_, ?_⟩⟩
      · rw [← users]
        exact latest
      · dsimp only
        rw [users]
      · dsimp only
        rw [log]
  obtain ⟨keptStats, logs⟩ := finished
  unfold applyStats at statsOk
  split at statsOk
  · rename_i none
    split at statsOk
    · cases statsOk
    · have same := Except.ok.inj statsOk
      simp only [Prod.mk.injEq] at same
      obtain ⟨rfl, rfl, rfl⟩ := same
      have unchanged : finalDb.deviceQueryStats = db.deviceQueryStats := keptStats.trans sameStats
      exact ⟨by simp only [countedTable, none]; exact unchanged, fun _ => rfl,
        fun some => absurd none some, Or.inl unchanged⟩
  · rename_i stats sent
    obtain ⟨⟨merged, altered⟩, mergeOk, rest⟩ := bind_ok_iff.mp statsOk
    obtain ⟨total, counted, same⟩ := bind_ok_iff.mp rest
    have same := Except.ok.inj same
    simp only [Prod.mk.injEq] at same
    obtain ⟨rfl, rfl, rfl⟩ := same
    obtain ⟨written, quiet⟩ := mergeQueryStats_table mergeOk
    refine ⟨?_, fun none => ?_, fun _ => ?_, ?_⟩
    · rw [keptStats, written]
      simp only [countedTable, sent, sameStats]
    · rw [sent] at none
      cases none
    · rw [aggregateStats_congr keptStats]
      exact counted
    · cases altered with
      | false => exact Or.inl ((keptStats.trans (quiet rfl)).trans sameStats)
      | true =>
          refine Or.inr (logs (by simp) ?_ ?_)
          · rw [written]
            exact sameUsers
          · rw [written]
            exact sameLog

theorem setStateBody_stats {db next : ServerDb φ} {userId contentKey : String} {active : Bool}
    {baseEntityRevision : Nat} {now : Int} {result : MutationResult FavoriteRecord}
    (success : setStateBody userId contentKey active baseEntityRevision now db =
      .ok (next, result)) : next.deviceQueryStats = db.deviceQueryStats := by
  unfold setStateBody at success
  obtain ⟨found, -, rest⟩ := bind_ok_iff.mp success
  cases found with
  | none => cases rest
  | some current =>
      dsimp only at rest
      split at rest
      · unfold conflictWith at rest
        obtain ⟨latest, -, impossible⟩ := bind_ok_iff.mp rest
        cases impossible
      · obtain ⟨⟨patched, changed⟩, patch, reread⟩ := bind_ok_iff.mp rest
        obtain ⟨again, -, final⟩ := bind_ok_iff.mp reread
        have last : next = patched := by
          cases again with
          | none => cases final
          | some value => exact (Prod.mk.inj (Except.ok.inj final)).1.symm
        subst last
        unfold patchState at patch
        split at patch
        · obtain rfl := (Prod.mk.inj (Except.ok.inj patch)).1
          rfl
        · obtain ⟨successor, -, narrow⟩ := bind_ok_iff.mp patch
          obtain ⟨entity, -, logStep⟩ := bind_ok_iff.mp narrow
          obtain ⟨⟨logged, revision⟩, log, same⟩ := bind_ok_iff.mp logStep
          obtain rfl := (Prod.mk.inj (Except.ok.inj same)).1
          obtain ⟨previous, -, -, -, rfl⟩ := recordChange_ok log
          rfl

theorem patch_stats (db : ServerDb φ) (userId contentKey : String) (active : Bool)
    (baseEntityRevision : Nat) (now : Int) :
    (setFavoriteState db userId contentKey active baseEntityRevision now).1.deviceQueryStats =
      db.deviceQueryStats := by
  unfold setFavoriteState
  cases body : setStateBody userId contentKey active baseEntityRevision now db with
  | error reason => rw [Transaction.atomically_of_error body]
  | ok pair =>
      obtain ⟨next, result⟩ := pair
      rw [Transaction.atomically_of_ok body]
      exact setStateBody_stats body

/-- An event counts for its own content only. -/
theorem aggregateStats_apart {db next : ServerDb φ} {userId deviceId : String} {event : PushEvent}
    (table : next.deviceQueryStats = countedTable db.deviceQueryStats userId deviceId event)
    {owner contentKey : String} (apart : (owner, contentKey) ≠ (userId, event.contentKey)) :
    aggregateStats next owner contentKey = aggregateStats db owner contentKey := by
  have rows : deviceStatsOf next owner contentKey = deviceStatsOf db owner contentKey := by
    unfold deviceStatsOf
    rw [table]
    unfold countedTable
    split
    · rfl
    · unfold Table.put
      dsimp only
      rw [Table.filter_putRows]
      intro row
      simp only [decide_eq_false_iff_not]
      rintro ⟨rfl, rfl⟩
      exact apart rfl
  unfold aggregateStats
  rw [rows]

/-- Some Device has a count for the content. -/
def HasCounts (db : ServerDb φ) (userId contentKey : String) : Prop :=
  aggregateStats db userId contentKey ≠ .ok none

theorem hasCounts_iff {db : ServerDb φ} {userId contentKey : String} :
    HasCounts db userId contentKey ↔ deviceStatsOf db userId contentKey ≠ [] := by
  unfold HasCounts aggregateStats
  split
  · rename_i empty
    simp [empty]
  · rename_i row rest stored
    rw [stored]
    refine ⟨fun _ => by simp, fun _ => ?_⟩
    dsimp only
    split
    · simp
    · simp [database]

/-- Counts are never withdrawn. -/
theorem HasCounts.table {db next : ServerDb φ} {userId deviceId owner contentKey : String}
    {event : PushEvent} (counted : HasCounts db owner contentKey)
    (table : next.deviceQueryStats = countedTable db.deviceQueryStats userId deviceId event) :
    HasCounts next owner contentKey := by
  by_cases mine : (owner, contentKey) = (userId, event.contentKey)
  · obtain ⟨rfl, rfl⟩ := Prod.mk.inj mine
    unfold countedTable at table
    split at table
    · unfold HasCounts
      rw [aggregateStats_congr table]
      exact counted
    · rename_i stats given
      rw [hasCounts_iff]
      have stored : ((owner, deviceId, event.contentKey),
          mergedStats (db.deviceQueryStats.get (owner, deviceId, event.contentKey)) stats) ∈
            next.deviceQueryStats.rows := by
        rw [Table.mem_rows_iff, table]
        exact Table.get_put_self _ _ _
      exact List.ne_nil_of_mem (List.mem_map_of_mem (List.mem_filter.mpr ⟨stored, by simp⟩))
  · unfold HasCounts
    rw [aggregateStats_apart table mine]
    exact counted

section Turns

variable [DecidableEq φ] [EventFingerprint φ]

/-- One turn of the push loop, for the statistics. -/
inductive Turn (db next : ServerDb φ) (userId deviceId : String) (event : PushEvent) (now : Int)
    (ack : PushAck) : Prop
  | again (unchanged : next = db)
      (answer : processedAck db userId event (eventFingerprint event) = .ok (some ack))
  | counted (unseen : db.processedSyncEvents.get (userId, event.eventId) = none)
      (reported : Reported db next userId deviceId event now ack)
      (stored : next.processedSyncEvents = db.processedSyncEvents.put (userId, event.eventId)
        (ackRow event (eventFingerprint event) ack now))

theorem pushEvent_turn {db next : ServerDb φ} {userId deviceId : String} {event : PushEvent}
    {now : Int} {outcome : EventOutcome}
    (success : pushEvent db userId deviceId event now = .ok (next, outcome)) :
    Turn db next userId deviceId event now outcome.ack := by
  unfold pushEvent at success
  dsimp only at success
  obtain ⟨found, looked, rest⟩ := bind_ok_iff.mp success
  cases found with
  | some ack =>
      have same := Except.ok.inj rest
      simp only [Prod.mk.injEq] at same
      obtain ⟨rfl, rfl⟩ := same
      exact .again rfl looked
  | none =>
      obtain ⟨⟨middle, result⟩, applied, storing⟩ := bind_ok_iff.mp rest
      obtain ⟨final, stored, same⟩ := bind_ok_iff.mp storing
      have same := Except.ok.inj same
      simp only [Prod.mk.injEq] at same
      obtain ⟨rfl, rfl⟩ := same
      have spec := applyEvent_ok applied
      have reported := applyEvent_reported applied
      have written := storeAck_ok stored
      subst written
      refine .counted (processedAck_none looked) ?_ ?_
      · exact ⟨reported.table, reported.silent, reported.aggregate, reported.logged⟩
      · dsimp only
        rw [spec.processed]

/-- Both specs of the first turn of a batch that commits, and the rest. -/
theorem pushLoop_turn {userId deviceId : String} {now : Int} {event : PushEvent}
    {rest : List PushEvent} {db next : ServerDb φ} {acks : List PushAck} {changed : Option Nat}
    (success : pushLoop userId deviceId now (event :: rest) db = .ok (next, acks, changed)) :
    ∃ middle outcome later tailChanged, Pushed db middle userId event now outcome ∧
      Turn db middle userId deviceId event now outcome.ack ∧
      pushLoop userId deviceId now rest middle = .ok (next, later, tailChanged) ∧
      acks = outcome.ack :: later := by
  unfold pushLoop at success
  obtain ⟨⟨middle, outcome⟩, head, tailStep⟩ := bind_ok_iff.mp success
  obtain ⟨⟨last, later, tailChanged⟩, tail, same⟩ := bind_ok_iff.mp tailStep
  have same := Except.ok.inj same
  simp only [Prod.mk.injEq] at same
  obtain ⟨rfl, rfl, -⟩ := same
  exact ⟨middle, outcome, later, tailChanged, pushEvent_ok head, pushEvent_turn head, tail, rfl⟩

/-- Induction over the push loop, with both specs of every turn. -/
theorem pushLoop_turns {userId deviceId : String} {now : Int}
    (keep : ServerDb φ → ServerDb φ → Prop) (refl : ∀ db, keep db db) :
    ∀ (events : List PushEvent) (db next : ServerDb φ) (acks : List PushAck)
      (changed : Option Nat),
      (∀ db next last event outcome, event ∈ events → Pushed db next userId event now outcome →
        Turn db next userId deviceId event now outcome.ack → keep next last → keep db last) →
      pushLoop userId deviceId now events db = .ok (next, acks, changed) → keep db next := by
  intro events
  induction events with
  | nil =>
      intro db next acks changed _ success
      rw [(pushLoop_nil success).1]
      exact refl db
  | cons event rest ih =>
      intro db next acks changed turn success
      obtain ⟨middle, outcome, later, tailChanged, pushed, counted, tail, -⟩ :=
        pushLoop_turn success
      refine turn db middle next event outcome List.mem_cons_self pushed counted ?_
      exact ih middle next later tailChanged
        (fun db next last other outcome member =>
          turn db next last other outcome (List.mem_cons_of_mem event member)) tail

end Turns

theorem aggregateStats_small {db : ServerDb φ} {userId contentKey : String}
    {aggregate : AggregateQueryStats}
    (counted : aggregateStats db userId contentKey = .ok (some aggregate)) :
    aggregate.queryCount < i64Limit := by
  unfold aggregateStats at counted
  split at counted
  · cases counted
  · dsimp only at counted
    split at counted
    · rename_i small
      cases counted
      exact small
    · cases counted

/-- What a reader needs of the numbers: no revision and no sum leaves 64 bits. -/
structure Representable (db : ServerDb φ) : Prop where
  revisions : ∀ userId revision, db.users.get userId = some revision → revision < i64Limit
  sums : ∀ userId contentKey, ∃ aggregate, aggregateStats db userId contentKey = .ok aggregate

theorem Representable.initial (userIds : List String) (devices : List (String × String)) :
    Representable (ServerDb.initial userIds devices : ServerDb φ) where
  revisions := by
    intro userId revision stored
    rw [zeroRevisions_get stored]
    decide
  sums := fun _ _ => ⟨none, rfl⟩

theorem Move.revisions {db next : ServerDb φ} {userId contentKey : String}
    {operation : SyncOperation} {now : Int}
    (move : Move db next userId contentKey operation now)
    (small : ∀ owner revision, db.users.get owner = some revision → revision < i64Limit) :
    ∀ owner revision, next.users.get owner = some revision → revision < i64Limit := by
  have logged : ∀ {entityRevision : Nat},
      Logged db next userId contentKey entityRevision operation now →
      ∀ owner revision, next.users.get owner = some revision → revision < i64Limit := by
    rintro entityRevision ⟨previous, -, fits, users, -⟩ owner revision stored
    rw [users, Table.get_put] at stored
    split at stored
    · cases stored
      exact fits
    · exact small owner revision stored
  cases move with
  | quiet favorites users changeLog =>
      rw [users]
      exact small
  | stats row present favorites log => exact logged log
  | entity fresh advanced favorites log => exact logged log

/-- The statistics of one account, to a reader of its log: an aggregate that moved has
a new entry above every earlier cursor. -/
def StatsEvolve (userId : String) (db next : ServerDb φ) : Prop :=
  ∀ contentKey, aggregateStats next userId contentKey = aggregateStats db userId contentKey ∨
    ∀ cursor latest, db.users.get userId = some latest → cursor ≤ latest →
      Behind next userId cursor contentKey

theorem StatsEvolve.of_table {userId : String} {db next : ServerDb φ}
    (same : next.deviceQueryStats = db.deviceQueryStats) : StatsEvolve userId db next :=
  fun contentKey => Or.inl (aggregateStats_congr same userId contentKey)

theorem StatsEvolve.trans {userId : String} {db middle next : ServerDb φ}
    (first : StatsEvolve userId db middle) (grown : Evolves userId db middle)
    (second : StatsEvolve userId middle next) (evolves : Evolves userId middle next) :
    StatsEvolve userId db next := by
  intro contentKey
  rcases second contentKey with same | moved
  · rcases first contentKey with before | behind
    · exact Or.inl (same.trans before)
    · exact Or.inr (fun cursor latest stored low =>
        (behind cursor latest stored low).evolves evolves)
  · refine Or.inr (fun cursor latest stored low => ?_)
    obtain ⟨later, storedLater, below⟩ := grown.users latest stored
    exact moved cursor later storedLater (Nat.le_trans low below)

theorem Reported.evolves {db next : ServerDb φ} {owner deviceId : String} {event : PushEvent}
    {now : Int} {ack : PushAck} (reported : Reported db next owner deviceId event now ack)
    (userId : String) : StatsEvolve userId db next := by
  rcases reported.logged with same | ⟨entityRevision, log⟩
  · exact .of_table same
  · intro contentKey
    by_cases mine : (userId, contentKey) = (owner, event.contentKey)
    · obtain ⟨rfl, rfl⟩ := Prod.mk.inj mine
      exact Or.inr (fun cursor latest stored low => log.behind stored low)
    · exact Or.inl (aggregateStats_apart reported.table mine)

section Requests

variable [DecidableEq φ] [EventFingerprint φ] {userId deviceId : String} {now : Int}

theorem Representable.turn {db next : ServerDb φ} {event : PushEvent} {outcome : EventOutcome}
    (fits : Representable db) (pushed : Pushed db next userId event now outcome)
    (turn : Turn db next userId deviceId event now outcome.ack) : Representable next where
  revisions := pushed.move.revisions fits.revisions
  sums := by
    intro owner contentKey
    cases turn with
    | again unchanged answer =>
        subst unchanged
        exact fits.sums owner contentKey
    | counted unseen reported stored =>
        by_cases mine : (owner, contentKey) = (userId, event.contentKey)
        · obtain ⟨rfl, rfl⟩ := Prod.mk.inj mine
          cases sent : event.queryStats with
          | none =>
              have table : next.deviceQueryStats = db.deviceQueryStats := by
                rw [reported.table]
                simp only [countedTable, sent]
              rw [aggregateStats_congr table]
              exact fits.sums owner event.contentKey
          | some stats => exact ⟨_, reported.aggregate (by simp [sent])⟩
        · rw [aggregateStats_apart reported.table mine]
          exact fits.sums owner contentKey

theorem pushLoop_representable {events : List PushEvent} {db next : ServerDb φ}
    {acks : List PushAck} {changed : Option Nat} (fits : Representable db)
    (success : pushLoop userId deviceId now events db = .ok (next, acks, changed)) :
    Representable next :=
  pushLoop_turns (fun db next => Representable db → Representable next) (fun _ here => here)
    events db next acks changed
    (fun _ _ _ _ _ _ pushed turn rest here => rest (here.turn pushed turn)) success fits

omit [DecidableEq φ] [EventFingerprint φ] in
theorem setStateBody_representable {contentKey : String} {active : Bool}
    {baseEntityRevision : Nat} {db next : ServerDb φ} {result : MutationResult FavoriteRecord}
    (fits : Representable db)
    (success : setStateBody userId contentKey active baseEntityRevision now db =
      .ok (next, result)) : Representable next where
  revisions := (setStateBody_ok success).move.revisions fits.revisions
  sums := by
    intro owner key
    rw [aggregateStats_congr (setStateBody_stats success)]
    exact fits.sums owner key

theorem serve_representable (db : ServerDb φ) (action : Action) (fits : Representable db) :
    Representable (serve db action) := by
  cases action with
  | push userId deviceId events now =>
      rcases Transaction.atomically_cases (pushBody userId deviceId events now) db with
        same | ⟨next, result, success, committed⟩
      · have final : serve db (.push userId deviceId events now) = db := same
        rw [final]
        exact fits
      · have final : serve db (.push userId deviceId events now) = next :=
          congrArg Prod.fst committed
        rw [final]
        exact pushLoop_representable fits (pushBody_ok success)
  | setState userId contentKey active baseEntityRevision now =>
      rcases Transaction.atomically_cases
          (setStateBody userId contentKey active baseEntityRevision now) db with
        same | ⟨next, result, success, committed⟩
      · have final : serve db (.setState userId contentKey active baseEntityRevision now) = db :=
          same
        rw [final]
        exact fits
      · have final : serve db (.setState userId contentKey active baseEntityRevision now) = next :=
          congrArg Prod.fst committed
        rw [final]
        exact setStateBody_representable fits success

theorem pushLoop_statsEvolve {events : List PushEvent} {db next : ServerDb φ}
    {acks : List PushAck} {changed : Option Nat} (inv : ServerInv db) (reader : String)
    (success : pushLoop userId deviceId now events db = .ok (next, acks, changed)) :
    StatsEvolve reader db next := by
  have chain := pushLoop_turns
    (fun db next => ServerInv db → ServerInv next ∧ Evolves reader db next ∧
      StatsEvolve reader db next)
    (fun db here => ⟨here, Evolves.refl reader db, .of_table rfl⟩) events db next acks changed
    (fun db middle last event outcome _ pushed turn rest here => by
      have middleInv := here.pushed pushed
      have moved := pushed.move.evolves here.log reader
      obtain ⟨lastInv, later, counted⟩ := rest middleInv
      refine ⟨lastInv, moved.trans later, ?_⟩
      have head : StatsEvolve reader db middle := by
        cases turn with
        | again unchanged answer =>
            rw [unchanged]
            exact .of_table rfl
        | counted unseen reported stored => exact reported.evolves reader
      exact head.trans moved counted later) success
  exact (chain inv).2.2

theorem pushLoop_counted {events : List PushEvent} {db next : ServerDb φ} {acks : List PushAck}
    {changed : Option Nat} {owner contentKey : String}
    (success : pushLoop userId deviceId now events db = .ok (next, acks, changed))
    (counted : HasCounts db owner contentKey) : HasCounts next owner contentKey :=
  pushLoop_turns (fun db next => HasCounts db owner contentKey → HasCounts next owner contentKey)
    (fun _ here => here) events db next acks changed
    (fun db middle last event outcome _ _ turn rest here => by
      cases turn with
      | again unchanged answer => exact rest (by rw [unchanged]; exact here)
      | counted unseen reported stored => exact rest (here.table reported.table)) success counted

end Requests

end Lvos.Server
