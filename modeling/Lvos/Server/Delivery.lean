import Lvos.Server.Evolution

set_option autoImplicit false

namespace Lvos.Server

open Lvos.Sync
open Relational (Table)

variable {φ : Type} [DecidableEq φ] [EventFingerprint φ]

/-- The server has an answer stored under the id. -/
def Seen (db : ServerDb φ) (userId eventId : String) : Prop :=
  (db.processedSyncEvents.get (userId, eventId)).isSome

/-- At most one Favorite event for each content, and no id twice. -/
structure Distinct (events : List PushEvent) : Prop where
  contents : events.Pairwise (fun first second => first.contentKey = second.contentKey →
    first.operation = .queryStatsUpsert ∨ second.operation = .queryStatsUpsert)
  ids : (events.map PushEvent.eventId).Nodup

theorem Distinct.tail {event : PushEvent} {rest : List PushEvent}
    (distinct : Distinct (event :: rest)) : Distinct rest :=
  ⟨(List.pairwise_cons.mp distinct.contents).2, (List.nodup_cons.mp distinct.ids).2⟩

theorem Distinct.alone {event : PushEvent} {rest : List PushEvent}
    (distinct : Distinct (event :: rest)) (favorite : event.operation ≠ .queryStatsUpsert) :
    ∀ other ∈ rest, other.contentKey = event.contentKey →
      other.operation = .queryStatsUpsert := by
  intro other member same
  exact ((List.pairwise_cons.mp distinct.contents).1 other member same.symm).resolve_left favorite

omit [DecidableEq φ] [EventFingerprint φ] in
theorem Stored.seen [EventFingerprint φ] {db : ServerDb φ} {userId : String} {event : PushEvent}
    {ack : PushAck} (stored : Stored db userId event ack) : Seen db userId event.eventId := by
  obtain ⟨-, now, found⟩ := stored
  rw [Seen, found]
  rfl

/-- What is stored after one turn was stored before, or is the event of the turn. -/
theorem Pushed.origin {db next : ServerDb φ} {userId : String} {event : PushEvent} {now : Int}
    {outcome : EventOutcome} (pushed : Pushed db next userId event now outcome) {owner : String}
    {other : PushEvent} {ack : PushAck} (stored : Stored next owner other ack) :
    Stored db owner other ack ∨
      (owner = userId ∧ other = event ∧ ¬ Seen db userId event.eventId) := by
  cases pushed with
  | duplicate row unchanged found fingerprint answer silent =>
      subst unchanged
      exact Or.inl stored
  | applied middle unseen spec written =>
      subst written
      obtain ⟨named, time, found⟩ := stored
      by_cases same : (owner, other.eventId) = (userId, event.eventId)
      · obtain ⟨rfl, sameId⟩ := Prod.mk.inj same
        have hit : (db.processedSyncEvents.put (owner, event.eventId)
            (ackRow event (eventFingerprint event) outcome.ack now)).get (owner, other.eventId) =
            some (ackRow other (eventFingerprint other) ack time) := found
        rw [sameId, Table.get_put_self] at hit
        have digests : (eventFingerprint event : φ) = eventFingerprint other :=
          congrArg ProcessedRow.eventFingerprint (Option.some.inj hit)
        exact Or.inr ⟨rfl, (EventFingerprint.collisionFree digests).symm, by simp [Seen, unseen]⟩
      · have miss : (db.processedSyncEvents.put (userId, event.eventId)
            (ackRow event (eventFingerprint event) outcome.ack now)).get (owner, other.eventId) =
            some (ackRow other (eventFingerprint other) ack time) := found
        rw [Table.get_put_of_ne _ _ same] at miss
        exact Or.inl ⟨named, time, miss⟩

/-- One turn stores at most the id of its event. -/
theorem Pushed.seen {db next : ServerDb φ} {userId : String} {event : PushEvent} {now : Int}
    {outcome : EventOutcome} (pushed : Pushed db next userId event now outcome) (owner id : String) :
    Seen next owner id ↔ Seen db owner id ∨ (owner = userId ∧ id = event.eventId) := by
  cases pushed with
  | duplicate row unchanged found fingerprint answer silent =>
      subst unchanged
      refine ⟨Or.inl, ?_⟩
      rintro (here | ⟨rfl, rfl⟩)
      · exact here
      · rw [Seen, found]
        rfl
  | applied middle unseen spec written =>
      subst written
      show ((db.processedSyncEvents.put (userId, event.eventId) _).get (owner, id)).isSome ↔ _
      rw [Table.get_put]
      by_cases same : (owner, id) = (userId, event.eventId)
      · obtain ⟨rfl, rfl⟩ := Prod.mk.inj same
        simp
      · rw [if_neg same]
        refine ⟨Or.inl, ?_⟩
        rintro (here | ⟨rfl, rfl⟩)
        · exact here
        · exact absurd rfl same

theorem pushLoop_seen {userId deviceId : String} {now : Int} (owner id : String) :
    ∀ (events : List PushEvent) (db next : ServerDb φ) (acks : List PushAck)
      (changed : Option Nat),
      pushLoop userId deviceId now events db = .ok (next, acks, changed) →
      (Seen next owner id ↔
        Seen db owner id ∨ (owner = userId ∧ id ∈ events.map PushEvent.eventId)) := by
  intro events
  induction events with
  | nil =>
      intro db next acks changed success
      rw [(pushLoop_nil success).1]
      simp
  | cons event rest ih =>
      intro db next acks changed success
      obtain ⟨middle, outcome, later, tailChanged, head, tail, -⟩ := pushLoop_cons success
      rw [ih middle next later tailChanged tail, head.seen]
      simp only [List.map_cons, List.mem_cons]
      tauto

/-- What is stored after a batch was stored before, or is one of its events whose
id was new. -/
theorem pushLoop_origin {userId deviceId : String} {now : Int} {owner : String}
    {other : PushEvent} {ack : PushAck} :
    ∀ (events : List PushEvent) (db next : ServerDb φ) (acks : List PushAck)
      (changed : Option Nat),
      pushLoop userId deviceId now events db = .ok (next, acks, changed) →
      Stored next owner other ack → Stored db owner other ack ∨
        (owner = userId ∧ other ∈ events ∧ ¬ Seen db userId other.eventId) := by
  intro events
  induction events with
  | nil =>
      intro db next acks changed success stored
      rw [(pushLoop_nil success).1] at stored
      exact Or.inl stored
  | cons event rest ih =>
      intro db next acks changed success stored
      obtain ⟨middle, outcome, later, tailChanged, head, tail, -⟩ := pushLoop_cons success
      rcases ih middle next later tailChanged tail stored with old | ⟨same, member, unseen⟩
      · rcases head.origin old with older | ⟨same, rfl, unseen⟩
        · exact Or.inl older
        · exact Or.inr ⟨same, List.mem_cons_self, unseen⟩
      · refine Or.inr ⟨same, List.mem_cons_of_mem _ member, fun before => unseen ?_⟩
        exact (head.seen userId other.eventId).mpr (Or.inl before)

/-- A new Favorite event of a batch is satisfied when the batch is through. -/
theorem pushLoop_satisfies {userId deviceId : String} {now : Int} {event : PushEvent}
    (favorite : event.operation ≠ .queryStatsUpsert) :
    ∀ (events : List PushEvent) (db next : ServerDb φ) (acks : List PushAck)
      (changed : Option Nat), Distinct events → event ∈ events →
      ¬ Seen db userId event.eventId →
      pushLoop userId deviceId now events db = .ok (next, acks, changed) →
      Satisfies event (next.favorites.get (userId, event.contentKey)) := by
  intro events
  induction events with
  | nil => intro db next acks changed _ member; cases member
  | cons first rest ih =>
      intro db next acks changed distinct member unseen success
      obtain ⟨middle, outcome, later, tailChanged, head, tail, -⟩ := pushLoop_cons success
      rcases List.mem_cons.mp member with rfl | inside
      · rw [pushLoop_untouched event.contentKey rest middle next later tailChanged
          (distinct.alone favorite) tail]
        cases head with
        | duplicate row unchanged found fingerprint answer silent =>
            exact absurd (by rw [Seen, found]; rfl) unseen
        | applied applied missing spec written =>
            subst written
            exact spec.satisfied
      · refine ih middle next later tailChanged distinct.tail inside ?_ tail
        rw [head.seen]
        rintro (here | ⟨-, same⟩)
        · exact unseen here
        · exact (List.nodup_cons.mp distinct.ids).1 (same ▸ List.mem_map_of_mem inside)

/-- A batch leaves the row of a content as it was, or one of its Favorite events,
with a new id, moved it. -/
theorem pushLoop_moved {userId deviceId : String} {now : Int} (contentKey : String)
    {events : List PushEvent} {db next : ServerDb φ} {acks : List PushAck} {changed : Option Nat}
    (success : pushLoop userId deviceId now events db = .ok (next, acks, changed)) :
    next.favorites.get (userId, contentKey) = db.favorites.get (userId, contentKey) ∨
      ∃ event ∈ events, event.contentKey = contentKey ∧ event.operation ≠ .queryStatsUpsert ∧
        ¬ Seen db userId event.eventId := by
  induction events generalizing db acks changed with
  | nil => exact Or.inl (by rw [(pushLoop_nil success).1])
  | cons event rest ih =>
      obtain ⟨middle, outcome, later, tailChanged, head, tail, -⟩ := pushLoop_cons success
      rcases ih tail with same | ⟨mover, member, keyed, favorite, unseen⟩
      · cases head with
        | duplicate row unchanged found fingerprint answer silent =>
            subst unchanged
            exact Or.inl same
        | applied applied missing spec written =>
            subst written
            by_cases mine : event.contentKey = contentKey ∧
                event.operation ≠ .queryStatsUpsert
            · exact Or.inr ⟨event, List.mem_cons_self, mine.1, mine.2, by simp [Seen, missing]⟩
            · refine Or.inl (same.trans ?_)
              show applied.favorites.get _ = _
              rcases not_and_or.mp mine with apart | stats
              · have moved := spec.move
                cases moved with
                | quiet favorites users changeLog => rw [favorites]
                | stats row present favorites log => rw [favorites]
                | entity fresh advanced favorites log =>
                    rw [favorites, if_neg]
                    intro equal
                    exact apart (Prod.mk.inj equal).2.symm
              · rw [(spec.statsOnly (not_not.mp stats)).1]
      · refine Or.inr ⟨mover, List.mem_cons_of_mem _ member, keyed, favorite, fun before => ?_⟩
        exact unseen ((head.seen userId mover.eventId).mpr (Or.inl before))

section Accepted

/-- Not refused as an invalid event; the database may still fail. -/
def Accepted {τ : Type} (result : RepositoryResult τ) : Prop := result ≠ .error .invalidEvent

theorem Accepted.ok {τ : Type} (value : τ) : Accepted (.ok value : RepositoryResult τ) := by
  intro same
  cases same

theorem Accepted.database {τ : Type} : Accepted (database : RepositoryResult τ) := by
  intro same
  cases same

theorem Accepted.bind {τ ρ : Type} {first : RepositoryResult τ}
    {next : τ → RepositoryResult ρ} (head : Accepted first)
    (tail : ∀ value, first = .ok value → Accepted (next value)) : Accepted (first >>= next) := by
  cases first with
  | error reason =>
      intro same
      apply head
      simpa [Bind.bind, Except.bind] using same
  | ok value => exact tail value rfl

theorem toI64_accepted {value : Nat} (small : value < i64Limit) : Accepted (toI64 value) := by
  unfold toI64
  rw [if_pos small]
  exact .ok _

omit [DecidableEq φ] [EventFingerprint φ] in
theorem userRevision_accepted (db : ServerDb φ) (userId : String) :
    Accepted (userRevision db userId) := by
  unfold userRevision
  split
  · exact .ok _
  · exact .database

omit [DecidableEq φ] [EventFingerprint φ] in
theorem aggregateStats_accepted (db : ServerDb φ) (userId contentKey : String) :
    Accepted (aggregateStats db userId contentKey) := by
  unfold aggregateStats
  split
  · exact .ok _
  · dsimp only
    split
    · exact .ok _
    · exact .database

omit [DecidableEq φ] [EventFingerprint φ] in
theorem favoriteRecord_accepted (db : ServerDb φ) (userId contentKey : String) :
    Accepted (favoriteRecord db userId contentKey) := by
  unfold favoriteRecord
  split
  · exact .ok _
  · exact .bind (aggregateStats_accepted db userId contentKey) (fun _ _ => .ok _)

omit [DecidableEq φ] [EventFingerprint φ] in
theorem mergeQueryStats_accepted (db : ServerDb φ) (userId deviceId contentKey : String)
    {stats : QueryStatsSnapshot} (small : stats.queryCount < i64Limit) :
    Accepted (mergeQueryStats db userId deviceId contentKey stats) := by
  unfold mergeQueryStats
  refine .bind (toI64_accepted small) ?_
  intro value _
  dsimp only
  split
  · exact .ok _
  · split
    · exact .ok _
    · exact .database

omit [DecidableEq φ] [EventFingerprint φ] in
/-- A change of a row is logged unless the user's own revision leaves 64 bits: the
row's revision is never above it. -/
theorem recordChange_accepted {db : ServerDb φ} {userId contentKey : String}
    {entityRevision : Nat} {operation : SyncOperation} {now : Int}
    (within : ∀ latest, db.users.get userId = some latest → entityRevision ≤ latest) :
    Accepted (recordChange db userId contentKey entityRevision operation now) := by
  unfold recordChange
  refine .bind (userRevision_accepted db userId) ?_
  intro latest known
  have low := within latest (userRevision_ok known)
  dsimp only
  split
  · rename_i inside
    exact .bind (toI64_accepted (by omega)) (fun _ _ => .ok _)
  · exact .database

omit [DecidableEq φ] in
/-- A statistics event for a content the user has a row of is accepted. -/
theorem applyEvent_accepted {db : ServerDb φ} (inv : ServerInv db) {userId : String}
    (deviceId : String) {event : PushEvent} (now : Int) {stats : QueryStatsSnapshot}
    (operation : event.operation = .queryStatsUpsert) (bare : event.favorite = none)
    (counted : event.queryStats = some stats) (small : stats.queryCount < i64Limit)
    (known : (db.favorites.get (userId, event.contentKey)).isSome) :
    Accepted (applyEvent db userId deviceId event now) := by
  obtain ⟨row, stored⟩ := Option.isSome_iff_exists.mp known
  unfold applyEvent
  refine .bind (favoriteRecord_accepted db userId event.contentKey) ?_
  intro current looked
  obtain ⟨record, rfl, revision⟩ : ∃ record, current = some record ∧
      record.entityRevision = row.entityRevision := by
    unfold favoriteRecord at looked
    rw [stored] at looked
    obtain ⟨aggregate, -, same⟩ := Transaction.bind_ok_iff.mp looked
    cases same
    exact ⟨_, rfl, rfl⟩
  have checked : checkBase db userId event (some record) = .ok () := by
    unfold checkBase
    rw [operation]
  have entity : applyEntity db userId event (some record) now =
      .ok (db, some record.entityRevision, false) := by
    unfold applyEntity
    rw [operation, bare]
    rfl
  rw [checked, entity]
  refine .bind (.ok _) (fun _ _ => .bind (.ok _) ?_)
  rintro - ⟨⟩
  have statistics : Accepted (applyStats db userId deviceId event) := by
    unfold applyStats
    rw [counted]
    exact .bind (mergeQueryStats_accepted db userId deviceId event.contentKey small)
      (fun _ _ => .bind (aggregateStats_accepted _ userId event.contentKey) (fun _ _ => .ok _))
  refine .bind statistics ?_
  rintro ⟨middle, changed, aggregate⟩ merged
  have users : middle.users = db.users := by
    rcases applyStats_ok merged with ⟨-, rfl⟩ | ⟨-, -, table, rfl⟩
    · rfl
    · rfl
  refine .bind ?_ (fun _ _ => .ok _)
  unfold finishChange
  split
  · refine recordChange_accepted ?_
    intro latest here
    rw [users] at here
    rw [revision]
    exact inv.within userId event.contentKey row latest stored here
  · exact .bind (userRevision_accepted _ userId) (fun _ _ => .ok _)

end Accepted

section Versions

open Lvos.Core

/-- Every row has the version the endpoint checks. -/
def Versioned (db : ServerDb φ) : Prop :=
  ∀ key row, db.favorites.get key = some row → row.keyVersion = contentKeyVersion

theorem Pushed.versioned {db next : ServerDb φ} {userId : String} {event : PushEvent} {now : Int}
    {outcome : EventOutcome} (pushed : Pushed db next userId event now outcome)
    (current : event.keyVersion = contentKeyVersion) (versioned : Versioned db) :
    Versioned next := by
  cases pushed with
  | duplicate row unchanged stored fingerprint answer silent =>
      rw [unchanged]
      exact versioned
  | applied middle unseen spec stored =>
      intro key row here
      rw [stored] at here
      rcases spec.version key row here with new | ⟨old, before, same⟩
      · rw [new]
        exact current
      · rw [same]
        exact versioned key old before

theorem pushLoop_versioned {userId deviceId : String} {now : Int} :
    ∀ (events : List PushEvent) (db next : ServerDb φ) (acks : List PushAck)
      (changed : Option Nat), (∀ event ∈ events, event.keyVersion = contentKeyVersion) →
      pushLoop userId deviceId now events db = .ok (next, acks, changed) → Versioned db →
      Versioned next := by
  intro events
  induction events with
  | nil =>
      intro db next acks changed _ success versioned
      rw [(pushLoop_nil success).1]
      exact versioned
  | cons event rest ih =>
      intro db next acks changed current success versioned
      obtain ⟨middle, outcome, later, tailChanged, head, tail, -⟩ := pushLoop_cons success
      exact ih middle next later tailChanged (fun other member =>
        current other (List.mem_cons_of_mem _ member)) tail
        (head.versioned (current event List.mem_cons_self) versioned)

variable [ContentTables] [UuidParser]

omit [DecidableEq φ] [EventFingerprint φ] in
theorem validateEvents_mem : ∀ events : List PushEvent, validateEvents events = .ok () →
    ∀ event ∈ events, validateEvent event = .ok () := by
  intro events
  induction events with
  | nil => simp
  | cons event rest ih =>
      intro valid other member
      unfold validateEvents at valid
      obtain ⟨⟨⟩, head, tail⟩ := Transaction.bind_ok_iff.mp valid
      rcases List.mem_cons.mp member with rfl | later
      · exact head
      · exact ih tail other later

omit [DecidableEq φ] [EventFingerprint φ] in
theorem validateEvents_version (events : List PushEvent) (valid : validateEvents events = .ok ()) :
    ∀ event ∈ events, event.keyVersion = contentKeyVersion := by
  intro event member
  have checked := validateEvents_mem events valid event member
  unfold validateEvent at checked
  obtain ⟨-, -, afterId⟩ := Transaction.bind_ok_iff.mp checked
  obtain ⟨-, -, afterKey⟩ := Transaction.bind_ok_iff.mp afterId
  split at afterKey
  · cases afterKey
  · rename_i current
    exact not_not.mp current

theorem push_versioned (maxEvents : Nat) {db : ServerDb φ} (userId deviceId : String)
    (events : List PushEvent) (now : Int) (versioned : Versioned db) :
    Versioned (push maxEvents db userId deviceId events now).1 := by
  cases outcome : push maxEvents db userId deviceId events now with
  | mk next reply =>
      cases reply with
      | error reason =>
          rw [push_error outcome]
          exact versioned
      | ok response =>
          obtain ⟨valid, changed, looped⟩ := push_ok outcome
          exact pushLoop_versioned events db next _ changed (validateEvents_version events valid)
            looped versioned

omit [DecidableEq φ] [EventFingerprint φ] [ContentTables] [UuidParser] in
theorem patch_processed (db : ServerDb φ) (userId contentKey : String) (active : Bool)
    (baseEntityRevision : Nat) (now : Int) :
    (setFavoriteState db userId contentKey active baseEntityRevision
      now).1.processedSyncEvents = db.processedSyncEvents := by
  unfold setFavoriteState
  cases body : setStateBody userId contentKey active baseEntityRevision now db with
  | error reason => rw [Transaction.atomically_of_error body]
  | ok pair =>
      obtain ⟨next, result⟩ := pair
      rw [Transaction.atomically_of_ok body]
      exact (setStateBody_ok body).processed

omit [DecidableEq φ] [EventFingerprint φ] [ContentTables] [UuidParser] in
theorem patch_versioned {db : ServerDb φ} (userId contentKey : String) (active : Bool)
    (baseEntityRevision : Nat) (now : Int) (versioned : Versioned db) :
    Versioned (setFavoriteState db userId contentKey active baseEntityRevision now).1 := by
  unfold setFavoriteState
  cases body : setStateBody userId contentKey active baseEntityRevision now db with
  | error reason =>
      rw [Transaction.atomically_of_error body]
      exact versioned
  | ok pair =>
      obtain ⟨next, result⟩ := pair
      have patched := setStateBody_ok body
      rw [Transaction.atomically_of_ok body]
      intro key row here
      obtain ⟨old, before, same⟩ := patched.version key row here
      rw [same]
      exact versioned key old before

end Versions

end Lvos.Server
