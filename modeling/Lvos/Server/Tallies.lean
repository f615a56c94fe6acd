import Lvos.Lib.Tally
import Lvos.Server.Statistics

set_option autoImplicit false

namespace Lvos.Server

open Lvos.Sync
open Relational (Table)
open Transaction (bind_ok_iff)

variable {φ : Type}

/-- What the server has counted for one Device of a content. -/
def ownCount (db : ServerDb φ) (userId deviceId contentKey : String) : Nat :=
  ((db.deviceQueryStats.get (userId, deviceId, contentKey)).map DeviceStatsRow.queryCount).getD 0

/-- What it has counted for all of them. -/
def totalCount (db : ServerDb φ) (userId contentKey : String) : Nat :=
  ((deviceStatsOf db userId contentKey).map DeviceStatsRow.queryCount).sum

theorem aggregateStats_total {db : ServerDb φ} {userId contentKey : String}
    {aggregate : AggregateQueryStats}
    (counted : aggregateStats db userId contentKey = .ok (some aggregate)) :
    aggregate.queryCount = totalCount db userId contentKey := by
  unfold aggregateStats at counted
  unfold totalCount
  split at counted
  · cases counted
  · rename_i row rest listed
    dsimp only at counted
    split at counted
    · cases counted
      rw [listed]
    · cases counted

theorem totalCount_le {db : ServerDb φ} {userId deviceId contentKey : String} {log : List String}
    {most : Nat} (mine : ownCount db userId deviceId contentKey ≤ most)
    (others : ∀ id, id ≠ deviceId → ownCount db userId id contentKey ≤ log.count id) :
    totalCount db userId contentKey + log.count deviceId ≤ most + log.length := by
  have own : ∀ entry ∈ contentEntries db userId contentKey,
      entry.2.queryCount = ownCount db userId entry.1.2.1 contentKey := by
    intro entry member
    rw [ownCount, (contentEntries_stored member).2]
    rfl
  have sums := @Tally.sum_le_apart String _
    ((contentEntries db userId contentKey).map (fun entry => (entry.1.2.1, entry.2.queryCount)))
    log deviceId most
    (by
      rw [List.map_map]
      exact contentEntries_distinct db userId contentKey)
    (by
      intro amount member same
      obtain ⟨entry, inside, rfl⟩ := List.mem_map.mp member
      replace same : entry.1.2.1 = deviceId := same
      rw [own entry inside, same]
      exact mine)
    (by
      intro amount member apart
      obtain ⟨entry, inside, rfl⟩ := List.mem_map.mp member
      show entry.2.queryCount ≤ log.count entry.1.2.1
      rw [own entry inside]
      exact others entry.1.2.1 apart)
  rw [List.map_map] at sums
  unfold totalCount deviceStatsOf
  rw [List.map_map]
  exact sums

/-- The counts after events of one Device: each of its own is an earlier one or one that an
event brought, and no other moved. -/
structure Tallied (db next : ServerDb φ) (userId deviceId : String) (events : List PushEvent) :
    Prop where
  mine : ∀ contentKey,
    ownCount next userId deviceId contentKey = ownCount db userId deviceId contentKey ∨
      ∃ sent ∈ events, ∃ stats, sent.contentKey = contentKey ∧ sent.queryStats = some stats ∧
        ownCount next userId deviceId contentKey = stats.queryCount
  others : ∀ id, id ≠ deviceId → ∀ contentKey,
    ownCount next userId id contentKey = ownCount db userId id contentKey

variable {db middle next : ServerDb φ} {userId deviceId : String} {events : List PushEvent}

theorem Tallied.of_table (same : next.deviceQueryStats = db.deviceQueryStats) :
    Tallied db next userId deviceId events := by
  refine ⟨fun contentKey => Or.inl ?_, fun id _ contentKey => ?_⟩
  · unfold ownCount
    rw [same]
  · unfold ownCount
    rw [same]

theorem Tallied.trans {early late : List PushEvent}
    (first : Tallied db middle userId deviceId early)
    (second : Tallied middle next userId deviceId late)
    (before : ∀ sent ∈ early, sent ∈ events) (after : ∀ sent ∈ late, sent ∈ events) :
    Tallied db next userId deviceId events := by
  refine ⟨fun contentKey => ?_, fun id apart contentKey => ?_⟩
  · rcases second.mine contentKey with same | ⟨sent, member, stats, keyed, brought, count⟩
    · rw [same]
      rcases first.mine contentKey with old | ⟨sent, member, stats, keyed, brought, count⟩
      · exact Or.inl old
      · exact Or.inr ⟨sent, before sent member, stats, keyed, brought, count⟩
    · exact Or.inr ⟨sent, after sent member, stats, keyed, brought, count⟩
  · exact (second.others id apart contentKey).trans (first.others id apart contentKey)

theorem Reported.tallied {event : PushEvent} {now : Int} {ack : PushAck}
    (reported : Reported db next userId deviceId event now ack) :
    Tallied db next userId deviceId [event] := by
  cases brought : event.queryStats with
  | none =>
      refine .of_table ?_
      rw [reported.table, countedTable, brought]
  | some stats =>
      have table : next.deviceQueryStats = db.deviceQueryStats.put
          (userId, deviceId, event.contentKey)
          (mergedStats (db.deviceQueryStats.get (userId, deviceId, event.contentKey)) stats) := by
        rw [reported.table, countedTable, brought]
      refine ⟨fun contentKey => ?_, fun id apart contentKey => ?_⟩
      · by_cases same : contentKey = event.contentKey
        · subst same
          have count : ownCount next userId deviceId event.contentKey =
              max (ownCount db userId deviceId event.contentKey) stats.queryCount := by
            unfold ownCount
            rw [table, Table.get_put_self]
            cases db.deviceQueryStats.get (userId, deviceId, event.contentKey) with
            | none => simp [mergedStats]
            | some row => rfl
          rcases Nat.le_total stats.queryCount
            (ownCount db userId deviceId event.contentKey) with less | more
          · exact Or.inl (by rw [count]; omega)
          · refine Or.inr ⟨event, List.mem_singleton.mpr rfl, stats, rfl, brought, ?_⟩
            rw [count]
            omega
        · refine Or.inl ?_
          unfold ownCount
          rw [table, Table.get_put_of_ne _ _ (by simpa using same)]
      · unfold ownCount
        rw [table, Table.get_put_of_ne _ _ (by simp [apart])]

section Batches

variable [DecidableEq φ] [EventFingerprint φ] {now : Int} {acks : List PushAck}
  {changed : Option Nat}

theorem pushLoop_tallied (events : List PushEvent) (db next : ServerDb φ) (acks : List PushAck)
    (changed : Option Nat)
    (success : pushLoop userId deviceId now events db = .ok (next, acks, changed)) :
    Tallied db next userId deviceId events := by
  refine pushLoop_turns (fun db next => Tallied db next userId deviceId events)
    (fun _ => .of_table rfl) events db next acks changed ?_ success
  intro db middle last event outcome member pushed turn later
  cases turn with
  | again unchanged answer =>
      rw [← unchanged]
      exact later
  | counted unseen reported stored =>
      refine reported.tallied.trans later ?_ (fun _ listed => listed)
      intro sent listed
      rw [List.mem_singleton.mp listed]
      exact member

/-- An answer that is stored after a batch was stored before, or is the one the turn of
its event computed. -/
theorem pushLoop_answered {sent : PushEvent} {ack : PushAck} :
    ∀ (events : List PushEvent) (db next : ServerDb φ) (acks : List PushAck)
      (changed : Option Nat), ProcessedInv db →
      pushLoop userId deviceId now events db = .ok (next, acks, changed) →
      Stored next userId sent ack → Stored db userId sent ack ∨
        ∃ early late before middle earlier later first second, events = early ++ sent :: late ∧
          pushLoop userId deviceId now early db = .ok (before, earlier, first) ∧
          Reported before middle userId deviceId sent now ack ∧
          pushLoop userId deviceId now late middle = .ok (next, later, second) ∧
          ∃ outcome, Pushed before middle userId sent now outcome := by
  intro events
  induction events with
  | nil =>
      intro db next acks changed _ success stored
      rw [(pushLoop_nil success).1] at stored
      exact Or.inl stored
  | cons event rest ih =>
      intro db next acks changed inv success stored
      unfold pushLoop at success
      obtain ⟨⟨middle, outcome⟩, head, tailStep⟩ := bind_ok_iff.mp success
      obtain ⟨⟨last, later, tailChanged⟩, tail, same⟩ := bind_ok_iff.mp tailStep
      cases same
      have pushed := pushEvent_ok head
      obtain ⟨middleInv, storedHead, -⟩ := pushed.stored inv
      rcases ih middle next later tailChanged middleInv tail stored with
        old | ⟨early, late, before, counted, earlier, last, first, second, whole, ran, spec, rest,
          moved⟩
      · rcases pushed.origin old with older | ⟨-, rfl, unseen⟩
        · exact Or.inl older
        · obtain ⟨-, rfl⟩ := old.unique storedHead rfl
          cases pushEvent_turn head with
          | again unchanged answer =>
              rw [unchanged] at old
              exact Or.inl old
          | counted new reported written =>
              exact Or.inr ⟨[], rest, db, middle, [], later, none, tailChanged, rfl, rfl, reported,
                tail, outcome, pushed⟩
      · refine Or.inr ⟨event :: early, late, before, counted, outcome.ack :: earlier, last,
          maxRevision outcome.changedRevision first, second, by rw [whole]; rfl, ?_, spec, rest,
          moved⟩
        simp [pushLoop, head, ran, bind, Except.bind]

/-- The aggregate of a new answer is of tables between the batch's first event and its
last. -/
theorem pushLoop_aggregates {sent : PushEvent} {ack : PushAck} {events : List PushEvent}
    {db next : ServerDb φ} (inv : ProcessedInv db)
    (success : pushLoop userId deviceId now events db = .ok (next, acks, changed))
    (stored : Stored next userId sent ack) : Stored db userId sent ack ∨
      (sent ∈ events ∧ ∀ aggregate, ack.aggregateQueryStats = some aggregate →
        sent.queryStats ≠ none ∧ ∃ middle, Tallied db middle userId deviceId events ∧
          aggregate.queryCount = totalCount middle userId sent.contentKey) := by
  rcases pushLoop_answered events db next acks changed inv success stored with
    old | ⟨early, late, before, middle, earlier, later, first, second, whole, ran, spec, -⟩
  · exact Or.inl old
  · refine Or.inr ⟨by rw [whole]; simp, fun aggregate brought => ?_⟩
    have given : sent.queryStats ≠ none := by
      intro none
      rw [spec.silent none] at brought
      cases brought
    have counted := spec.aggregate given
    rw [brought] at counted
    refine ⟨given, middle, ?_, aggregateStats_total counted⟩
    refine (pushLoop_tallied early db before earlier first ran).trans spec.tallied ?_ ?_
    · intro other member
      rw [whole]
      exact List.mem_append_left _ member
    · intro other member
      rw [whole, List.mem_singleton.mp member]
      simp

/-- A new answer carries the aggregate the batch leaves, or the log has news of its content. -/
theorem pushLoop_latest {sent : PushEvent} {ack : PushAck} {events : List PushEvent}
    {db next : ServerDb φ} {aggregate : AggregateQueryStats} (inv : ServerInv db)
    (success : pushLoop userId deviceId now events db = .ok (next, acks, changed))
    (stored : Stored next userId sent ack) (brought : ack.aggregateQueryStats = some aggregate) :
    Stored db userId sent ack ∨
      (HasCounts next userId sent.contentKey ∧ ∀ cursor latest,
        db.users.get userId = some latest → cursor ≤ latest →
        Behind next userId cursor sent.contentKey ∨
          aggregateStats next userId sent.contentKey = .ok (some aggregate)) := by
  rcases pushLoop_answered events db next acks changed inv.processed success stored with
    old | ⟨early, late, before, middle, earlier, later, first, second, -, ran, spec, rest,
      outcome, pushed⟩
  · exact Or.inl old
  · have given : sent.queryStats ≠ none := by
      intro none
      rw [spec.silent none] at brought
      cases brought
    have counted := spec.aggregate given
    rw [brought] at counted
    obtain ⟨beforeInv, reached⟩ := pushLoop_evolves userId inv ran
    have middleInv := beforeInv.pushed pushed
    have moved := reached.trans (pushed.move.evolves beforeInv.log userId)
    refine Or.inr ⟨pushLoop_counted rest (by simp [HasCounts, counted]), ?_⟩
    intro cursor latest known low
    obtain ⟨top, there, below⟩ := moved.users latest known
    rcases pushLoop_statsEvolve middleInv userId rest sent.contentKey with same | behind
    · exact Or.inr (same.trans counted)
    · exact Or.inl (behind cursor top there (Nat.le_trans low below))

end Batches

section Endpoint

open Lvos.Core

variable [DecidableEq φ] [EventFingerprint φ] [ContentTables] [UuidParser]

/-- The same of the endpoint, whatever it answers. -/
theorem push_tallied (maxEvents : Nat) {db : ServerDb φ} (userId deviceId : String)
    (request : List PushEvent) (now : Int) (inv : ProcessedInv db) :
    Tallied db (push maxEvents db userId deviceId request now).1 userId deviceId request ∧
      ∀ sent ack, Stored (push maxEvents db userId deviceId request now).1 userId sent ack →
        Stored db userId sent ack ∨
          (sent ∈ request ∧ ∀ aggregate, ack.aggregateQueryStats = some aggregate →
            sent.queryStats ≠ none ∧ ∃ middle, Tallied db middle userId deviceId request ∧
              aggregate.queryCount = totalCount middle userId sent.contentKey) := by
  cases outcome : push maxEvents db userId deviceId request now with
  | mk next reply =>
      cases reply with
      | error reason =>
          rw [push_error outcome]
          exact ⟨.of_table rfl, fun _ _ stored => Or.inl stored⟩
      | ok response =>
          obtain ⟨-, changed, looped⟩ := push_ok outcome
          exact ⟨pushLoop_tallied request db next _ changed looped,
            fun sent ack stored => pushLoop_aggregates inv looped stored⟩

end Endpoint

end Lvos.Server
