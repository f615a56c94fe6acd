import Lvos.Server.Tallies
import Lvos.System.Agreement

set_option autoImplicit false

namespace Lvos.System

open Lvos.Core Lvos.Sync Lvos.Storage
open Lvos.Server (ServerDb ServerInv Behind Evolves StatsEvolve HasCounts EventFingerprint
  UuidParser ApiResult Stored aggregateStats)

variable {φ ι : Type}

/-- The log has news of the content for a reader at `cursor`. -/
def isBehind (server : ServerDb φ) (userId : String) (cursor : Nat) (contentKey : String) : Bool :=
  (Server.logAbove server userId cursor).any (fun entry => entry.2.contentKey = contentKey)

theorem isBehind_iff {server : ServerDb φ} {userId contentKey : String} {cursor : Nat} :
    isBehind server userId cursor contentKey = true ↔ Behind server userId cursor contentKey := by
  unfold isBehind
  rw [List.any_eq_true]
  constructor
  · rintro ⟨⟨revision, row⟩, member, same⟩
    obtain ⟨found, above⟩ := Server.mem_logAbove.mp member
    exact ⟨revision, row, above, found, by simpa using same⟩
  · rintro ⟨revision, row, above, found, same⟩
    exact ⟨(revision, row), Server.mem_logAbove.mpr ⟨found, above⟩, by simpa using same⟩

/-- The answer stored for an event still carries the server's aggregate, or the log has news
of the content for the Device. -/
def storedCurrent (server : ServerDb φ) (userId : String) (cursor : Nat) (sent : PushEvent) :
    Bool :=
  match server.processedSyncEvents.get (userId, sent.eventId) with
  | none => true
  | some row =>
      match Server.ackAggregate row with
      | .ok (some stored) =>
          (match aggregateStats server userId sent.contentKey with
            | .ok current => current = some stored
            | .error _ => false) || isBehind server userId cursor sent.contentKey
      | _ => true

/-- The condition on one step: a push repeats no answer that the server has moved past while
the Device has read everything, and refuses no event with statistics of a batch it rolls
back. -/
def aggregatesKept [DecidableEq φ] [EventFingerprint φ] [ContentTables] [UuidParser]
    (account : Account) (world : World φ ι) : Action ι → Bool
  | .work device (.serverPush now) =>
      let profile := (world.devices device).profile
      match (world.devices device).worker with
      | .pushing _ request =>
          match (Server.push account.maxSyncEventsPerBatch world.server account.userId
              profile.profileMeta.deviceId request now).2 with
          | .ok _ => request.all (storedCurrent world.server account.userId
              profile.profileMeta.lastServerRevision)
          | .error (.conflict conflict) => conflict.current.all (fun record =>
              record.aggregateQueryStats.isNone ||
                !(Server.deviceStatsOf world.server account.userId record.contentKey).isEmpty)
          | .error _ => true
      | _ => true
  | _ => true

section Fresh

variable {server later : ServerDb φ} {userId : String} {cursor latest : Nat} {key : ContentKey}
  {cached : Option AggregateQueryStats}

/-- A Device that has read the log up to `cursor` may cache this of a content: an aggregate
only if the server has one, and the server's unless the log has news. -/
structure Fresh (server : ServerDb φ) (userId : String) (cursor : Nat) (key : ContentKey)
    (cached : Option AggregateQueryStats) : Prop where
  counted : cached ≠ none → HasCounts server userId key.toHex
  current : (server.favorites.get (userId, key.toHex)).isSome →
    Behind server userId cursor key.toHex ∨
      aggregateStats server userId key.toHex = .ok cached

/-- What requests of anyone do to the aggregates, to a reader of the log. -/
structure AggregatesEvolve (userId : String) (server later : ServerDb φ) : Prop where
  evolves : Evolves userId server later
  stats : StatsEvolve userId server later
  counted : ∀ contentKey, HasCounts server userId contentKey → HasCounts later userId contentKey

theorem Fresh.evolves (fresh : Fresh server userId cursor key cached)
    (moved : AggregatesEvolve userId server later) (known : server.users.get userId = some latest)
    (low : cursor ≤ latest) : Fresh later userId cursor key cached := by
  refine ⟨fun held => moved.counted _ (fresh.counted held), fun present => ?_⟩
  rcases moved.evolves.favorites key.toHex with same | news
  · rw [same] at present
    rcases fresh.current present with behind | equal
    · exact Or.inl (behind.evolves moved.evolves)
    · rcases moved.stats key.toHex with still | behind
      · exact Or.inr (still.trans equal)
      · exact Or.inl (behind cursor latest known low)
  · exact Or.inl (news cursor latest known low)

/-- A content the Device has no row of: the server has none either, or the log has news. -/
theorem Fresh.absent [EventFingerprint φ] {db : ProfileDb} (inv : ServerInv server)
    (linked : Linked server userId cursor db key) (absent : db.favorites.get key = none) :
    Fresh server userId cursor key none := by
  refine ⟨fun held => absurd rfl held, fun present => ?_⟩
  rcases linked with behind | ⟨revision, -⟩
  · exact Or.inl behind
  · rw [absent] at revision
    rw [absent_of_zero inv revision.symm] at present
    cases present

end Fresh

section Device

variable {server later : ServerDb φ} {userId : String} {db next : ProfileDb}

/-- The answers and pages a worker has not applied yet. -/
def WorkerFresh (server : ServerDb φ) (userId : String) (db : ProfileDb) : Worker → Prop
  | .answered events request reply =>
      (∀ response, reply = .ok response → ∀ pair ∈ events.zip request,
        ∀ ack ∈ response.acknowledgements, ack.eventId = pair.2.eventId → ∀ aggregate,
        ack.aggregateQueryStats = some aggregate →
        Fresh server userId db.profileMeta.lastServerRevision pair.1.contentKey
          (some aggregate)) ∧
      (∀ conflict, reply = .error (.conflict conflict) → ∀ record key aggregate,
        conflict.current = some record → record.contentKey = key.toHex →
        record.aggregateQueryStats = some aggregate →
        Fresh server userId db.profileMeta.lastServerRevision key (some aggregate))
  | .pulled page => ∃ shown : ContentKey → Option AggregateQueryStats,
      ∀ change ∈ page.changes, ∀ key, change.favorite.contentKey = key.toHex →
        change.favorite.aggregateQueryStats = shown key ∧
        Fresh server userId page.nextRevision key (shown key) ∧
        (shown key = none → cachedAggregate db key = none)
  | _ => True

/-- What a Device caches, and is about to. -/
structure CacheInv (server : ServerDb φ) (userId : String) (device : Device) : Prop where
  profile : ∀ key, Fresh server userId device.profile.profileMeta.lastServerRevision key
    (cachedAggregate device.profile key)
  worker : WorkerFresh server userId device.profile device.worker

theorem CacheInv.evolves {device : Device} {issued : List Uuid}
    (inv : CacheInv server userId device) (moved : AggregatesEvolve userId server later)
    (linked : DeviceInv server userId issued device.profile)
    (worker : WorkerInv server userId issued device.profile device.worker) :
    CacheInv later userId device := by
  obtain ⟨latest, known, low⟩ := linked.cursor
  refine ⟨fun key => (inv.profile key).evolves moved known low, ?_⟩
  have carried := inv.worker
  cases waiting : device.worker with
  | idle => trivial
  | batched events => trivial
  | pushing events request => trivial
  | answered events request reply =>
      rw [waiting] at carried
      refine ⟨?_, ?_⟩
      · intro response same pair member ack listed named aggregate brought
        exact (carried.1 response same pair member ack listed named aggregate brought).evolves
          moved known low
      · intro conflict same record key aggregate current keyed brought
        exact (carried.2 conflict same record key aggregate current keyed brought).evolves
          moved known low
  | pulled page =>
      rw [waiting] at carried worker
      obtain ⟨shown, brought⟩ := carried
      obtain ⟨top, there, bound⟩ := worker.bounded
      refine ⟨shown, fun change member key keyed => ?_⟩
      obtain ⟨same, fresh, silent⟩ := brought change member key keyed
      exact ⟨same, fresh.evolves moved there bound, silent⟩

/-- A write of the user. -/
theorem CacheInv.localMove [EventFingerprint φ] {input : Input} {issued : List Uuid}
    {worker : Worker} (inv : CacheInv server userId ⟨db, worker⟩) (serverInv : ServerInv server)
    (linked : DeviceInv server userId issued db) (move : LocalMove input db next) :
    CacheInv server userId ⟨next, worker⟩ := by
  refine ⟨fun key => ?_, ?_⟩
  · show Fresh server userId next.profileMeta.lastServerRevision key (cachedAggregate next key)
    rw [move.profileMeta]
    rcases move.cached key with same | ⟨dropped, absent⟩
    · rw [same]
      exact inv.profile key
    · rw [dropped]
      exact .absent serverInv (linked.linked key) absent
  · have carried := inv.worker
    cases worker with
    | idle => trivial
    | batched events => trivial
    | pushing events request => trivial
    | answered events request reply =>
        unfold WorkerFresh
        dsimp only
        rw [move.profileMeta]
        exact carried
    | pulled page =>
        obtain ⟨shown, brought⟩ := carried
        refine ⟨shown, fun change member key keyed => ?_⟩
        obtain ⟨same, fresh, silent⟩ := brought change member key keyed
        refine ⟨same, fresh, fun empty => ?_⟩
        rcases move.cached key with kept | ⟨dropped, -⟩
        · exact kept.trans (silent empty)
        · exact dropped

/-- A profile whose counts and cursor are those of before, without a worker's message. -/
theorem CacheInv.idle {worker : Worker} (inv : CacheInv server userId ⟨db, worker⟩)
    (stats : next.queryStats = db.queryStats)
    (cursor : next.profileMeta.lastServerRevision = db.profileMeta.lastServerRevision) :
    CacheInv server userId ⟨next, .idle⟩ := by
  refine ⟨fun key => ?_, trivial⟩
  show Fresh server userId next.profileMeta.lastServerRevision key
    ((next.queryStats.get key).bind QueryStats.cached)
  rw [stats, cursor]
  exact inv.profile key

/-- Handling a push answer. -/
theorem CacheInv.settleReply {issued : List Uuid} {events : List OutboxEvent}
    {request : List PushEvent} {reply : ApiResult PushResponse} (now : Int)
    (inv : CacheInv server userId ⟨db, .answered events request reply⟩)
    (sent : Sent issued db events request) :
    CacheInv server userId ⟨System.settleReply db events request reply now, .idle⟩ := by
  refine ⟨?_, trivial⟩
  show ∀ key, Fresh server userId (System.settleReply db events request reply
    now).profileMeta.lastServerRevision key _
  rw [settleReply_cursor]
  have taken := @settleReply_taken issued db events request (fun key value _ =>
      Fresh server userId db.profileMeta.lastServerRevision key (some value)) reply now sent
    (fun response same pair member ack listed named aggregate brought =>
      inv.worker.1 response same pair member ack listed named aggregate brought)
    (fun conflict same record key aggregate current keyed brought =>
      inv.worker.2 conflict same record key aggregate current keyed brought)
  refine @TableMoves.fits _ _ _ (fun key row => Fresh server userId
    db.profileMeta.lastServerRevision key (row.bind QueryStats.cached)) ?_ taken.moves inv.profile
  intro key aggregate sentCount time old new allowed refreshed fresh
  rw [refreshed.cached]
  cases aggregate with
  | none => exact fresh
  | some value => exact allowed value rfl

/-- Applying a page brings every content up to the page's cursor. -/
theorem CacheInv.page [ContentTables] {page : ChangesResponse} {now : Int}
    (inv : CacheInv server userId ⟨db, .pulled page⟩)
    (facts : PageInv server userId db.profileMeta.lastServerRevision page)
    (success : applyRemotePageBody page.changes page.nextRevision now db = .ok (next, ())) :
    CacheInv server userId ⟨next, .idle⟩ := by
  obtain ⟨shown, brought⟩ := inv.worker
  obtain ⟨last, looped, rfl⟩ := applyRemotePage_ok success
  refine ⟨?_, trivial⟩
  -- Every content is fresh at the new cursor, or a change of it is still to come.
  have chain := applyRemoteLoop_turns
    (fun changes db last =>
      (∀ change ∈ changes, ∀ key, change.favorite.contentKey = key.toHex →
        change.favorite.aggregateQueryStats = shown key ∧
        Fresh server userId page.nextRevision key (shown key) ∧
        (shown key = none → cachedAggregate db key = none)) →
      (∀ key : ContentKey, (∃ change ∈ changes, change.favorite.contentKey = key.toHex) ∨
        Fresh server userId page.nextRevision key (cachedAggregate db key)) →
      ∀ key, Fresh server userId page.nextRevision key (cachedAggregate last key))
    (fun _ _ fresh key => (fresh key).resolve_left (by simp))
    (fun change rest db middle last head tail brought fresh => by
      obtain ⟨about, keyed, -, -⟩ := applyRemoteChange_ok head
      have moved := applyRemoteChange_moved keyed head
      obtain ⟨same, arrived, silent⟩ := brought change List.mem_cons_self about keyed
      have apart : ∀ key, key ≠ about → cachedAggregate middle key = cachedAggregate db key := by
        intro key differs
        unfold cachedAggregate
        rw [moved.apart key differs]
      have mine : cachedAggregate middle about = shown about := by
        have refreshed := moved.mine.cached
        rw [same] at refreshed
        unfold cachedAggregate at silent ⊢
        rw [refreshed]
        cases held : shown about with
        | none => exact silent held
        | some value => rfl
      refine tail ?_ ?_
      · intro other member key named
        obtain ⟨equal, there, quiet⟩ := brought other (List.mem_cons_of_mem _ member) key named
        refine ⟨equal, there, fun empty => ?_⟩
        by_cases about_eq : key = about
        · rw [about_eq] at empty ⊢
          exact mine.trans empty
        · rw [apart key about_eq]
          exact quiet empty
      · intro key
        by_cases about_eq : key = about
        · rw [about_eq, mine]
          exact Or.inr arrived
        · rw [apart key about_eq]
          rcases fresh key with ⟨other, member, named⟩ | before
          · rcases List.mem_cons.mp member with rfl | later
            · exact absurd (ContentKey.toHex_injective (named.symm.trans keyed)) about_eq
            · exact Or.inl ⟨other, later, named⟩
          · exact Or.inr before)
    page.changes db last _ _ looped
  refine chain brought ?_
  intro key
  by_cases listed : ∃ change ∈ page.changes, change.favorite.contentKey = key.toHex
  · exact Or.inl listed
  · refine Or.inr ⟨(inv.profile key).counted, fun present => ?_⟩
    rcases (inv.profile key).current present with ⟨revision, row, above, found, keyed⟩ | equal
    · by_cases inside : revision ≤ page.nextRevision
      · obtain ⟨change, member, named⟩ := facts.covered revision row above inside found
        exact absurd ⟨change, member, named.trans keyed⟩ listed
      · exact Or.inl ⟨revision, row, Nat.lt_of_not_le inside, found, keyed⟩
    · exact Or.inr equal

end Device

section World

variable [EventFingerprint φ]

/-- The invariant of a run: what every Device caches, and that an answer with an aggregate
was stored for a content with counts. -/
structure FreshInv (account : Account) (world : World φ ι) : Prop where
  linked : WorldInv account.userId world
  stored : ∀ sent ack, Stored world.server account.userId sent ack →
    ack.aggregateQueryStats ≠ none → HasCounts world.server account.userId sent.contentKey
  device : ∀ device, CacheInv world.server account.userId (world.devices device)

variable {account : Account} {world : World φ ι}

/-- What a request leaves of the answers the server has stored. -/
def AnswersCounted (userId : String) (server later : ServerDb φ) : Prop :=
  ∀ sent ack, Stored later userId sent ack → ack.aggregateQueryStats ≠ none →
    Stored server userId sent ack ∨ HasCounts later userId sent.contentKey

theorem FreshInv.served (inv : FreshInv account world) {later : ServerDb φ}
    (moved : AggregatesEvolve account.userId world.server later)
    (answers : AnswersCounted account.userId world.server later)
    (linked : WorldInv account.userId { world with server := later }) :
    FreshInv account { world with server := later } := by
  refine ⟨linked, ?_, fun device => ?_⟩
  · intro sent ack stored brought
    rcases answers sent ack stored brought with old | counted
    · exact moved.counted _ (inv.stored sent ack old brought)
    · exact counted
  · exact (inv.device device).evolves moved (inv.linked.device device) (inv.linked.worker device)

theorem FreshInv.setDevice [DecidableEq ι] (inv : FreshInv account world) (device : ι)
    (value : Device) (linked : WorldInv account.userId (world.setDevice device value))
    (fresh : CacheInv world.server account.userId value) :
    FreshInv account (world.setDevice device value) :=
  ⟨linked, inv.stored, World.setDevice_all fresh inv.device⟩

/-- The records of the run are not part of the invariant. -/
theorem FreshInv.congr (inv : FreshInv account world) {next : World φ ι}
    (server : next.server = world.server) (devices : next.devices = world.devices)
    (linked : WorldInv account.userId next) : FreshInv account next := by
  refine ⟨linked, ?_, fun device => ?_⟩
  · rw [server]
    exact inv.stored
  · rw [server, devices]
    exact inv.device device

section Requests

variable [DecidableEq φ] [ContentTables] [UuidParser]

theorem push_aggregates {server : ServerDb φ} (maxEvents : Nat) (userId deviceId : String)
    (request : List PushEvent) (now : Int) (inv : ServerInv server) :
    AggregatesEvolve userId server
        (Server.push maxEvents server userId deviceId request now).1 ∧
      AnswersCounted userId server
        (Server.push maxEvents server userId deviceId request now).1 := by
  cases outcome : Server.push maxEvents server userId deviceId request now with
  | mk later reply =>
      cases reply with
      | error reason =>
          rw [Server.push_error outcome]
          exact ⟨⟨.refl userId server, .of_table rfl, fun _ here => here⟩,
            fun _ _ stored _ => Or.inl stored⟩
      | ok response =>
          obtain ⟨-, changed, looped⟩ := Server.push_ok outcome
          refine ⟨⟨(Server.pushLoop_evolves userId inv looped).2,
            Server.pushLoop_statsEvolve inv userId looped,
            fun _ here => Server.pushLoop_counted looped here⟩, ?_⟩
          intro sent ack stored brought
          obtain ⟨aggregate, same⟩ := Option.ne_none_iff_exists'.mp brought
          rcases Server.pushLoop_latest inv looped stored same with old | ⟨counted, -⟩
          · exact Or.inl old
          · exact Or.inr counted

omit [DecidableEq φ] [ContentTables] [UuidParser] in
/-- A state patch counts nothing and answers no event. -/
theorem patch_aggregates {server : ServerDb φ} (userId contentKey : String) (active : Bool)
    (baseEntityRevision : Nat) (now : Int) (inv : ServerInv server) :
    AggregatesEvolve userId server
        (Server.setFavoriteState server userId contentKey active baseEntityRevision now).1 ∧
      AnswersCounted userId server
        (Server.setFavoriteState server userId contentKey active baseEntityRevision now).1 := by
  have stats := Server.patch_stats server userId contentKey active baseEntityRevision now
  have processed := Server.patch_processed server userId contentKey active baseEntityRevision now
  refine ⟨⟨(Server.patch_evolves userId contentKey active baseEntityRevision now userId inv).2,
    .of_table stats, fun key here => ?_⟩, ?_⟩
  · unfold HasCounts
    rw [Server.aggregateStats_congr stats]
    exact here
  · rintro sent ack ⟨named, time, found⟩ -
    exact Or.inl ⟨named, time, processed ▸ found⟩

end Requests

theorem storedCurrent_of_stored {server : ServerDb φ} {userId : String} {cursor : Nat}
    {sent : PushEvent} {ack : PushAck} {aggregate : AggregateQueryStats}
    (kept : storedCurrent server userId cursor sent = true)
    (stored : Stored server userId sent ack) (brought : ack.aggregateQueryStats = some aggregate) :
    Behind server userId cursor sent.contentKey ∨
      aggregateStats server userId sent.contentKey = .ok (some aggregate) := by
  obtain ⟨-, time, found⟩ := stored
  have decoded : Server.ackAggregate (Server.ackRow sent (Server.eventFingerprint sent : φ) ack
      time) =
      .ok (some aggregate) := by
    simp [Server.ackAggregate, Server.ackRow, brought]
  unfold storedCurrent at kept
  simp only [found, decoded, Bool.or_eq_true] at kept
  rcases kept with equal | behind
  · refine Or.inr ?_
    split at equal
    · rename_i current same
      rw [same, of_decide_eq_true equal]
    · cases equal
  · exact Or.inl (isBehind_iff.mp behind)

variable [DecidableEq φ] [ContentTables] [UuidParser] [DecidableEq ι]

omit [ContentTables] [UuidParser] [DecidableEq ι] in
/-- An event is refused only over a content the log has news of. -/
theorem FreshInv.refused (inv : FreshInv account world) {device : ι} {deviceId : String}
    {now : Int} {events : List OutboxEvent} {request : List PushEvent}
    {conflict : Server.SyncConflict}
    (waiting : (world.devices device).worker = .pushing events request)
    (failed : Server.pushLoop account.userId deviceId now request world.server =
      .error (.conflict conflict)) {record : FavoriteRecord} {key : ContentKey}
    {aggregate : AggregateQueryStats} (current : conflict.current = some record)
    (keyed : record.contentKey = key.toHex)
    (counted : HasCounts world.server account.userId record.contentKey) :
    Fresh world.server account.userId
      (world.devices device).profile.profileMeta.lastServerRevision key (some aggregate) := by
  have worker := inv.linked.worker device
  rw [waiting] at worker
  obtain ⟨early, event, late, middle, acks, changed, whole, looped, -, favorite, named, found,
    opposed⟩ := Server.pushLoop_conflict request world.server failed
  rw [current] at found
  have about : event.contentKey = key.toHex :=
    (Server.current_of_found found).1.symm.trans keyed
  obtain ⟨outbox, listed, faithful⟩ :=
    Transaction.related_of_mem_right worker.pairs event (by rw [whole]; simp)
  have target : outbox.contentKey = key :=
    ContentKey.toHex_injective (faithful.contentKey.symm.trans about)
  have base := ((worker.batch.held outbox listed).favorite (faithful.isFavorite.mp favorite)).2
  rw [worker.untouched whole favorite looped, faithful.base, base, target, about] at opposed
  refine ⟨fun _ => keyed ▸ counted, fun _ => Or.inl ?_⟩
  rcases (inv.linked.device device).linked key with behind | ⟨revision, -⟩
  · exact behind
  · exact absurd revision.symm opposed

theorem FreshInv.serverPush (inv : FreshInv account world) {device : ι} {now : Int}
    {events : List OutboxEvent} {request : List PushEvent}
    (kept : aggregatesKept account world (.work device (.serverPush now)) = true)
    (waiting : (world.devices device).worker = .pushing events request)
    {later : ServerDb φ} {reply : ApiResult PushResponse}
    (outcome : Server.push account.maxSyncEventsPerBatch world.server account.userId
      (world.devices device).profile.profileMeta.deviceId request now = (later, reply))
    (linked : WorldInv account.userId
      { world.setDevice device ⟨(world.devices device).profile,
        .answered events request reply⟩ with server := later }) :
    FreshInv account
      { world.setDevice device ⟨(world.devices device).profile,
        .answered events request reply⟩ with server := later } := by
  unfold aggregatesKept at kept
  simp only [waiting, outcome] at kept
  have evolved := Server.push_evolves account.maxSyncEventsPerBatch account.userId
    (world.devices device).profile.profileMeta.deviceId request now account.userId
    inv.linked.server
  obtain ⟨moved, answers⟩ := push_aggregates account.maxSyncEventsPerBatch account.userId
    (world.devices device).profile.profileMeta.deviceId request now inv.linked.server
  rw [outcome] at moved answers evolved
  have served := inv.served moved answers (inv.linked.evolves evolved.1 evolved.2)
  obtain ⟨latest, known, low⟩ := (inv.linked.device device).cursor
  have worker := inv.linked.worker device
  rw [waiting] at worker
  refine served.setDevice device _ linked ⟨(served.device device).profile, ?_, ?_⟩
  · rintro response rfl pair member ack listed named aggregate brought
    dsimp only at kept
    have asked := (List.of_mem_zip (show (pair.1, pair.2) ∈ events.zip request from member)).2
    have about : pair.2.contentKey = pair.1.contentKey.toHex :=
      (Forall₂.mem_zip worker.pairs pair member).contentKey
    obtain ⟨-, changed, looped⟩ := Server.push_ok outcome
    have answer := worker.answered inv.linked.server.processed looped pair.2 asked ack listed named
    rcases Server.pushLoop_latest inv.linked.server looped answer brought with
      old | ⟨counted, current⟩
    · -- An answer of an earlier request.
      have before : Fresh world.server account.userId
          (world.devices device).profile.profileMeta.lastServerRevision pair.1.contentKey
          (some aggregate) := by
        refine ⟨fun _ => ?_, fun _ => ?_⟩
        · rw [← about]
          exact inv.stored pair.2 ack old (by simp [brought])
        · rw [← about]
          exact storedCurrent_of_stored (List.all_eq_true.mp kept pair.2 asked) old brought
      exact before.evolves moved known low
    · rw [about] at counted current
      exact ⟨fun _ => counted, fun _ => current _ latest known low⟩
  · rintro conflict rfl record key aggregate current keyed brought
    dsimp only at kept
    obtain rfl := Server.push_error outcome
    rw [current, Option.all_some, brought] at kept
    refine inv.refused waiting (Server.push_conflict outcome) current keyed ?_
    rw [Server.hasCounts_iff]
    simpa using kept

omit [DecidableEq φ] [ContentTables] [UuidParser] [DecidableEq ι] in
/-- A page shows the aggregates of the server it was read from. -/
theorem FreshInv.pulled (inv : FreshInv account world) {device : ι} {since limit : Nat}
    {page : ChangesResponse}
    (asked : Server.changesSince world.server account.userId since limit = .ok page) :
    WorkerFresh world.server account.userId (world.devices device).profile (.pulled page) := by
  refine ⟨fun key => (aggregateStats world.server account.userId key.toHex).toOption.join, ?_⟩
  intro change member key keyed
  have read := Server.changesSince_read asked change member
  rcases Server.favoriteRecord_ok read with ⟨-, impossible⟩ | ⟨row, total, -, counted, same⟩
  · cases impossible
  have shown : change.favorite.aggregateQueryStats = total := by
    rw [Option.some.inj same]
    rfl
  rw [keyed] at counted
  simp only [counted, Except.toOption, Option.join_some]
  refine ⟨shown, ⟨fun held => ?_, fun _ => Or.inr counted⟩, fun empty => ?_⟩
  · unfold HasCounts
    rw [counted]
    simpa using held
  · by_contra held
    have present := ((inv.device device).profile key).counted held
    rw [empty] at counted
    exact present counted

theorem FreshInv.work {next : World φ ι} {device : ι} {job : Job} (inv : FreshInv account world)
    (kept : aggregatesKept account world (.work device job) = true)
    (taken : work account world device job = some next) : FreshInv account next := by
  have linked := inv.linked.work taken
  have mine := inv.device device
  have quiet : ∀ worker, WorkerFresh world.server account.userId (world.devices device).profile
      worker → CacheInv world.server account.userId ⟨(world.devices device).profile, worker⟩ :=
    fun worker carried => ⟨mine.profile, carried⟩
  have retried : ∀ (events : List OutboxEvent) (now : Int), CacheInv world.server account.userId
      ⟨(Desktop.retryLater (world.devices device).profile events now).1, .idle⟩ := by
    intro events now
    refine @Desktop.retryLater_keeps (fun db => CacheInv world.server account.userId ⟨db, .idle⟩)
      _ events now (mine.idle rfl rfl) ?_
    intro retryAt _
    obtain ⟨-, stats, -, cursor, -⟩ := markRetry_favorites (world.devices device).profile events
      retryAt Desktop.serverUnavailable now
    exact mine.idle stats cursor
  unfold System.work at taken
  dsimp only at taken
  split at taken
  · -- readBatch
    split at taken
    · cases taken
      exact inv
    · cases taken
      exact inv.setDevice device _ linked (quiet _ trivial)
    · cases taken
      exact inv
  · -- buildBatch
    split at taken
    · cases taken
      exact inv.setDevice device _ linked (quiet _ trivial)
    · cases taken
      exact inv.setDevice device _ linked (quiet _ trivial)
  · -- serverPush
    rename_i now events request waiting
    cases taken
    exact inv.serverPush kept waiting rfl linked
  · -- receive
    rename_i now events request reply waiting
    cases taken
    have worker := inv.linked.worker device
    rw [waiting] at worker
    have here : CacheInv world.server account.userId
        ⟨(world.devices device).profile, .answered events request reply⟩ := by
      refine ⟨mine.profile, ?_⟩
      rw [← waiting]
      exact mine.worker
    exact inv.setDevice device _ linked (here.settleReply now worker.1)
  · -- lose, before the server ran the request
    rename_i now events request waiting
    cases taken
    refine FreshInv.congr (inv.setDevice device _ ?_ (retried events now)) rfl rfl linked
    exact linked.congr rfl rfl rfl
  · -- lose, after it answered
    rename_i now events request reply waiting
    cases taken
    exact inv.setDevice device _ linked (retried events now)
  · -- abandon
    cases taken
    refine FreshInv.congr (inv.setDevice device _ ?_ (quiet .idle trivial)) rfl rfl linked
    exact linked.congr rfl rfl rfl
  · -- requestChanges
    split at taken
    · rename_i page answered
      cases taken
      exact inv.setDevice device _ linked (quiet _ (inv.pulled (Server.changes_ok answered)))
    · cases taken
      exact inv
  · -- applyPage
    rename_i now page waiting
    cases taken
    have worker := inv.linked.worker device
    rw [waiting] at worker
    have here : CacheInv world.server account.userId
        ⟨(world.devices device).profile, .pulled page⟩ := by
      refine ⟨mine.profile, ?_⟩
      rw [← waiting]
      exact mine.worker
    refine inv.setDevice device _ linked ?_
    unfold applyRemotePage
    cases body : applyRemotePageBody page.changes page.nextRevision now
        (world.devices device).profile with
    | error reason =>
        rw [Transaction.atomically_of_error body]
        exact quiet _ trivial
    | ok pair =>
        obtain ⟨last, done⟩ := pair
        rw [Transaction.atomically_of_ok body]
        exact here.page worker body
  · cases taken

omit [DecidableEq φ] [UuidParser] [DecidableEq ι] in
/-- A call of the user, whatever the worker is waiting for. -/
theorem FreshInv.perform (inv : FreshInv account world) (device : ι) (call : Call) :
    CacheInv world.server account.userId
      ⟨call.perform (world.devices device).profile, (world.devices device).worker⟩ := by
  have before := inv.linked.device device
  have start : DeviceInv world.server account.userId (call.ids ++ world.issued)
      (world.devices device).profile :=
    ⟨before.shape.weaken (fun id member => List.mem_append_right _ member), before.cursor,
      before.linked⟩
  have moves := call.moves (world.devices device).profile
  generalize call.perform (world.devices device).profile = performed at moves
  suffices reached : DeviceInv world.server account.userId (call.ids ++ world.issued) performed ∧
      CacheInv world.server account.userId ⟨performed, (world.devices device).worker⟩ from
    reached.2
  induction moves with
  | refl => exact ⟨start, inv.device device⟩
  | tail _ move ih =>
      exact ⟨ih.1.localMove inv.linked.server move (fun id member =>
          List.mem_append_left _ member),
        ih.2.localMove inv.linked.server ih.1 move⟩

theorem FreshInv.step {next : World φ ι} {action : Action ι} (inv : FreshInv account world)
    (kept : aggregatesKept account world action = true)
    (taken : step account world action = some next) : FreshInv account next := by
  have linked := inv.linked.step taken
  cases action with
  | call device call =>
      unfold System.step at taken
      dsimp only at taken
      split at taken
      · cases taken
        exact ⟨linked, inv.stored, World.setDevice_all (inv.perform device call) inv.device⟩
      · cases taken
  | work device job => exact inv.work kept taken
  | latePush deviceId request now =>
      unfold System.step at taken
      dsimp only at taken
      split at taken
      · cases taken
        obtain ⟨moved, answers⟩ := push_aggregates account.maxSyncEventsPerBatch account.userId
          deviceId request now inv.linked.server
        exact (inv.served moved answers (linked.congr rfl rfl rfl)).congr rfl rfl linked
      · cases taken
  | patch contentKey active baseEntityRevision now =>
      unfold System.step at taken
      dsimp only at taken
      split at taken
      · cases taken
        obtain ⟨moved, answers⟩ := patch_aggregates account.userId contentKey active
          baseEntityRevision now inv.linked.server
        exact inv.served moved answers linked
      · cases taken
        exact inv

omit [DecidableEq φ] [ContentTables] [UuidParser] [DecidableEq ι] in
theorem FreshInv.initial (account : Account) (devices : List (String × String))
    (profileId : ι → Uuid) (deviceId : ι → String) (now : Int) :
    FreshInv account (World.initial account devices profileId deviceId now : World φ ι) := by
  refine ⟨WorldInv.initial account devices profileId deviceId now, ?_, fun device => ⟨?_, trivial⟩⟩
  · rintro sent ack ⟨-, time, impossible⟩
    cases impossible
  · intro key
    exact ⟨fun held => absurd rfl held, fun present => by cases present⟩

/-- In every run in which no push repeats an outdated answer to a Device that has read
everything, a Device at the account's revision caches the server's aggregates. -/
theorem cached_aggregates_current (account : Account) (devices : List (String × String))
    (profileId : ι → Uuid) (deviceId : ι → String) (now : Int) (actions : List (Action ι))
    (last : World φ ι)
    (meets : Transition.Meets (System.step account)
      (fun (world : World φ ι) action => aggregatesKept account world action = true)
      (World.initial account devices profileId deviceId now) actions)
    (reached : Transition.run (System.step account)
      (World.initial account devices profileId deviceId now) actions = some last)
    (device : ι)
    (caughtUp : last.server.users.get account.userId =
      some (last.devices device).profile.profileMeta.lastServerRevision)
    (key : ContentKey)
    (present : (last.server.favorites.get (account.userId, key.toHex)).isSome) :
    aggregateStats last.server account.userId key.toHex =
      .ok (cachedAggregate (last.devices device).profile key) := by
  have inv := @Transition.run_keeps_of_meets _ _ (System.step account)
    (fun (world : World φ ι) action => aggregatesKept account world action = true)
    (FreshInv account) (fun _ _ _ here kept taken => here.step kept taken) actions _ last
    (FreshInv.initial account devices profileId deviceId now) meets reached
  rcases ((inv.device device).profile key).current present with
    ⟨revision, row, above, found, -⟩ | equal
  · -- News would lie above the account's own revision.
    obtain ⟨latest, known, -, bound⟩ := inv.linked.server.log.bounded _ _ _ found
    rw [caughtUp] at known
    cases known
    omega
  · exact equal

end World

section Runs

attribute [local instance] Sample.tables Sample.parser

/-- A desk and a laptop of one account. -/
def deskAndLaptop : World PushEvent Bool :=
  World.initial Sample.account [("user", "desk"), ("user", "laptop")]
    (fun device => Sample.eventId (if device then 1 else 2))
    (fun device => if device then "desk" else "laptop") 50

/-- A batch that is read and reaches the server. -/
def pushBatch (device : Bool) (now : Int) : List (Action Bool) :=
  [.work device (.readBatch now 100), .work device .buildBatch,
    .work device (.serverPush (now + 1))]

/-- A page that is read and applied. -/
def pullPage (device : Bool) (now : Int) : List (Action Bool) :=
  [.work device (.requestChanges 100), .work device (.applyPage now)]

/-- The desk reports a second query of "gift"; the laptop reports one of its own, and the desk
pulls and sends what it still has. -/
def twoReport (answer : Job) : List (Action Bool) :=
  [Action.call true (.query (Sample.gift 100) (Sample.eventId 3)),
      .call true (.favorite Sample.giftKey 101 (Sample.eventId 4))] ++
    pushBatch true 102 ++ [Action.work true (.receive 104)] ++
    [Action.call true (.query (Sample.gift 105) (Sample.eventId 5))] ++
    pushBatch true 106 ++ [Action.work true answer] ++
    pullPage false 110 ++ [Action.call false (.query (Sample.gift 111) (Sample.eventId 6))] ++
    pushBatch false 112 ++ [Action.work false (.receive 114)] ++
    pullPage true 120

/-- What is evaluated of both exchanges, with the second acknowledgement lost and delivered. -/
theorem twoReport_runs :
    (Transition.run (System.step Sample.account) deskAndLaptop
      (twoReport (.lose 108) ++ pushBatch true 100000 ++
        [.work true (.receive 100002)])).any (fun last =>
        (last.devices true).profile.syncOutbox.rows = [] &&
        (last.devices true).worker = .idle && last.abandoned = [] &&
        last.server.users.get Sample.account.userId =
          some (last.devices true).profile.profileMeta.lastServerRevision &&
        (last.server.favorites.get (Sample.account.userId, Sample.giftKey.toHex)).isSome &&
        (match aggregateStats last.server Sample.account.userId Sample.giftKey.toHex with
          | .ok (some current) =>
              cachedAggregate (last.devices true).profile Sample.giftKey ≠ some current
          | _ => false)) = true ∧
    (Transition.run (System.step Sample.account) deskAndLaptop
      (twoReport (.receive 108))).any (fun last =>
        (last.devices true).profile.syncOutbox.rows = [] &&
        (cachedAggregate (last.devices true).profile Sample.giftKey).isSome &&
        last.server.users.get Sample.account.userId =
          some (last.devices true).profile.profileMeta.lastServerRevision &&
        (last.server.favorites.get (Sample.account.userId,
          Sample.giftKey.toHex)).isSome) = true ∧
    Transition.Meets (System.step Sample.account)
      (fun world action => aggregatesKept Sample.account world action = true) deskAndLaptop
      (twoReport (.receive 108)) := by
  decide +kernel

/-- The second acknowledgement of the desk is lost. It pulls the total of both Devices, sends
the event again and takes over the total stored for it, with nothing left to pull. -/
theorem repeated_answer_is_outdated :
    ∃ last current,
      Transition.run (System.step Sample.account) deskAndLaptop (twoReport (.lose 108) ++
        pushBatch true 100000 ++ [.work true (.receive 100002)]) = some last ∧
      (last.devices true).profile.syncOutbox.rows = [] ∧
      (last.devices true).worker = .idle ∧ last.abandoned = [] ∧
      last.server.users.get Sample.account.userId =
        some (last.devices true).profile.profileMeta.lastServerRevision ∧
      (last.server.favorites.get (Sample.account.userId, Sample.giftKey.toHex)).isSome ∧
      aggregateStats last.server Sample.account.userId Sample.giftKey.toHex = .ok (some current) ∧
      cachedAggregate (last.devices true).profile Sample.giftKey ≠ some current := by
  obtain ⟨last, ran, holds⟩ := (Option.any_eq_true _ _).mp twoReport_runs.1
  simp only [Bool.and_eq_true, decide_eq_true_eq] at holds
  obtain ⟨⟨⟨⟨⟨empty, idle⟩, settled⟩, caughtUp⟩, present⟩, differs⟩ := holds
  split at differs
  · rename_i current same
    exact ⟨last, current, ran, empty, idle, settled, caughtUp, present, same,
      of_decide_eq_true differs⟩
  · cases differs

/-- The same exchange with the acknowledgement delivered. -/
theorem cached_aggregates_current_gift :
    ∃ last,
      Transition.run (System.step Sample.account) deskAndLaptop (twoReport (.receive 108)) =
        some last ∧
      (last.devices true).profile.syncOutbox.rows = [] ∧
      (cachedAggregate (last.devices true).profile Sample.giftKey).isSome ∧
      aggregateStats last.server Sample.account.userId Sample.giftKey.toHex =
        .ok (cachedAggregate (last.devices true).profile Sample.giftKey) := by
  obtain ⟨-, facts, meets⟩ := twoReport_runs
  obtain ⟨last, ran, holds⟩ := (Option.any_eq_true _ _).mp facts
  simp only [Bool.and_eq_true, decide_eq_true_eq] at holds
  obtain ⟨⟨⟨empty, held⟩, caughtUp⟩, present⟩ := holds
  exact ⟨last, ran, empty, held, cached_aggregates_current Sample.account _ _ _ 50 _ last meets ran
    true caughtUp Sample.giftKey present⟩

end Runs

end Lvos.System
