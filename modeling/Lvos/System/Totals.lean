import Lvos.Server.Tallies
import Lvos.Storage.Aggregates
import Lvos.System.Retries

set_option autoImplicit false

namespace Lvos.System

open Lvos.Core Lvos.Sync Lvos.Storage
open Relational (Table)
open Lvos.Server (ServerDb EventFingerprint UuidParser ApiResult Stored Tallied Reported ownCount
  totalCount)

variable {φ ι : Type}

/-- The Device that queries the content in this step. -/
def asker (key : ContentKey) : Action ι → Option ι
  | .call device (.query entry _) =>
      if entry.content.contentKey = key then some device else none
  | _ => none

/-- The `record_successful_query` calls for a content, by the Device that made them. -/
def queriesOf (actions : List (Action ι)) (key : ContentKey) : List ι :=
  actions.filterMap (asker key)

/-- `last_synced_device_query_count`. -/
def watermark (db : ProfileDb) (key : ContentKey) : Nat :=
  ((db.queryStats.get key).map QueryStats.lastSyncedDeviceQueryCount).getD 0

/-- The server has counted no more queries of this Device than the Device knows of. -/
def countKnown (server : ServerDb φ) (userId : String) (profile : ProfileDb)
    (contentKey : String) : Bool :=
  match ContentKey.fromStr contentKey with
  | .ok key => ownCount server userId profile.profileMeta.deviceId contentKey ≤
      watermark profile key
  | .error _ => true

/-- The events before the refused one report no more than that either. -/
def reportsKnown (profile : ProfileDb) (request : List PushEvent)
    (conflict : Server.SyncConflict) (contentKey : String) : Bool :=
  (request.takeWhile (fun sent => conflict.eventId ≠ some sent.eventId)).all (fun sent =>
    sent.contentKey ≠ contentKey || sent.queryStats.all (fun stats =>
      match ContentKey.fromStr contentKey with
      | .ok key => stats.queryCount ≤ watermark profile key
      | .error _ => true))

/-- The condition on one step: an aggregate that reaches a Device without a count to
compare it with holds no query that the Device still counts as unsynced. -/
def countsKnown [DecidableEq φ] [EventFingerprint φ] [ContentTables] [UuidParser]
    (account : Account) (world : World φ ι) : Action ι → Bool
  | .work device (.requestChanges limit) =>
      let profile := (world.devices device).profile
      match Server.changes account.syncChangesMaxLimit world.server account.userId
          profile.profileMeta.lastServerRevision limit with
      | .ok page => page.changes.all (fun change =>
          countKnown world.server account.userId profile change.favorite.contentKey)
      | .error _ => true
  | .work device (.serverPush now) =>
      let profile := (world.devices device).profile
      match (world.devices device).worker with
      | .pushing _ request =>
          match (Server.push account.maxSyncEventsPerBatch world.server account.userId
              profile.profileMeta.deviceId request now).2 with
          | .error (.conflict conflict) => conflict.current.all (fun record =>
              countKnown world.server account.userId profile record.contentKey &&
                reportsKnown profile request conflict record.contentKey)
          | _ => true
      | _ => true
  | _ => true

/-! Two bounds over the log of a content's queries: what one Device name can have
reported, and what an aggregate can have counted, if the Device itself has reported `sent`. -/

section Bounds

variable [DecidableEq ι] {naming : ι → String} {log more : List ι} {device other : ι}
  {sent further value total : Nat}

def Within (naming : ι → String) (log : List ι) (device : ι) (sent value : Nat) : Prop :=
  value + log.count device ≤ (log.map naming).count (naming device) + sent

def Backed (log : List ι) (device : ι) (sent total : Nat) : Prop :=
  total + log.count device ≤ log.length + sent

theorem Within.append (within : Within naming log device sent value) (more : List ι) :
    Within naming (log ++ more) device sent value := by
  have shared := Tally.count_le_named naming more device
  unfold Within at within ⊢
  rw [List.map_append, List.count_append, List.count_append]
  omega

theorem Backed.append (covers : Backed log device sent total) (more : List ι) :
    Backed (log ++ more) device sent total := by
  have part := @List.count_le_length ι _ device more
  unfold Backed at covers ⊢
  rw [List.count_append, List.length_append]
  omega

theorem Within.mono (within : Within naming log device sent value) (less : sent ≤ further) :
    Within naming log device further value := by
  unfold Within at within ⊢
  omega

theorem Backed.mono (covers : Backed log device sent total) (less : sent ≤ further) :
    Backed log device further total := by
  unfold Backed at covers ⊢
  omega

theorem Within.of_le (less : value ≤ sent) : Within naming log device sent value := by
  have shared := Tally.count_le_named naming log device
  unfold Within
  omega

theorem Within.of_other (apart : other ≠ device) (same : naming other = naming device)
    (less : value ≤ log.count other) : Within naming log device sent value := by
  have shared := Tally.count_add_le_named naming log apart same
  unfold Within
  omega

/-- A total of the server is backed by the queries once its own part is within bounds. -/
theorem Backed.of_within {server : ServerDb φ} {userId contentKey : String}
    (rows : ∀ id, ownCount server userId id contentKey ≤ (log.map naming).count id)
    (within : Within naming log device sent
      (ownCount server userId (naming device) contentKey)) :
    Backed log device sent (totalCount server userId contentKey) := by
  have sums := Server.totalCount_le (Nat.le_refl (ownCount server userId (naming device)
    contentKey)) (fun id _ => rows id)
  rw [List.length_map] at sums
  unfold Within at within
  unfold Backed
  omega

end Bounds

section Device

variable [DecidableEq ι] [EventFingerprint φ]

/-- A statistics row against the queries made so far. -/
structure RowFits (log : List ι) (device : ι) (stats : QueryStats) : Prop where
  count : stats.deviceQueryCount ≤ log.count device
  synced : stats.lastSyncedDeviceQueryCount ≤ log.count device
  total : stats.serverSnapshotAt.isSome →
    Backed log device stats.lastSyncedDeviceQueryCount stats.serverTotalQueryCount

/-- A count that is on its way, against the server and everything else that is. -/
structure Pushable (naming : ι → String) (server : ServerDb φ) (userId : String)
    (abandoned : List (String × List PushEvent)) (request : List PushEvent) (log : List ι)
    (device : ι) (sent : PushEvent) (count : Nat) : Prop where
  own : Within naming log device count (ownCount server userId (naming device) sent.contentKey)
  left : ∀ pair ∈ abandoned, pair.1 = naming device → ∀ other ∈ pair.2,
    other.contentKey = sent.contentKey → ∀ stats, other.queryStats = some stats →
    Within naming log device count stats.queryCount
  batch : ∀ other ∈ request, other.contentKey = sent.contentKey →
    ∀ stats, other.queryStats = some stats → Within naming log device count stats.queryCount
  stored : ∀ ack aggregate, Stored server userId sent ack →
    ack.aggregateQueryStats = some aggregate → Backed log device count aggregate.queryCount

/-- The contents of a batch are in the Favorite domain, and no count in its request is
above what the profile has. -/
structure Announced (db : ProfileDb) (events : List OutboxEvent) (request : List PushEvent) :
    Prop where
  present : ∀ event ∈ events, (db.favorites.get event.contentKey).isSome
  counts : ∀ pair ∈ events.zip request, ∀ stats, pair.2.queryStats = some stats →
    stats.queryCount ≤ reportedCount db pair.1.contentKey

/-- What the worker carries between two jobs. -/
def WorkerTally (naming : ι → String) (queries : ContentKey → List ι) (server : ServerDb φ)
    (userId : String) (abandoned : List (String × List PushEvent)) (device : ι) (db : ProfileDb) :
    Worker → Prop
  | .idle => True
  | .batched events => Announced db events []
  | .pushing events request => Announced db events request ∧
      ∀ pair ∈ events.zip request, ∀ stats, pair.2.queryStats = some stats →
        Pushable naming server userId abandoned request (queries pair.1.contentKey) device pair.2
          stats.queryCount
  | .answered events request reply => Announced db events request ∧
      (∀ response, reply = .ok response → ∀ pair ∈ events.zip request,
        ∀ ack ∈ response.acknowledgements, ack.eventId = pair.2.eventId → ∀ aggregate,
        ack.aggregateQueryStats = some aggregate → ∃ stats, pair.2.queryStats = some stats ∧
          Backed (queries pair.1.contentKey) device stats.queryCount aggregate.queryCount) ∧
      (∀ conflict, reply = .error (.conflict conflict) → ∀ record key aggregate,
        conflict.current = some record → record.contentKey = key.toHex →
        record.aggregateQueryStats = some aggregate →
        Backed (queries key) device (syncedCount db key) aggregate.queryCount)
  | .pulled page => ∀ change ∈ page.changes, ∀ key aggregate,
      change.favorite.contentKey = key.toHex →
      change.favorite.aggregateQueryStats = some aggregate →
      Backed (queries key) device (syncedCount db key) aggregate.queryCount

/-- The part of the invariant that is about one Device. -/
structure Tallies (naming : ι → String) (queries : ContentKey → List ι) (server : ServerDb φ)
    (userId : String) (abandoned : List (String × List PushEvent)) (device : ι) (value : Device) :
    Prop where
  named : value.profile.profileMeta.deviceId = naming device
  rows : ∀ key stats, value.profile.queryStats.get key = some stats →
    RowFits (queries key) device stats
  bounded : ∀ key, Within naming (queries key) device (reportedCount value.profile key)
    (ownCount server userId (naming device) key.toHex)
  worker : WorkerTally naming queries server userId abandoned device value.profile value.worker

variable {naming : ι → String} {queries : ContentKey → List ι} {server : ServerDb φ}
  {userId : String} {abandoned : List (String × List PushEvent)} {device : ι}
  {db next : ProfileDb} {worker : Worker}

omit [EventFingerprint φ] in
theorem RowFits.effectiveTotal {log : List ι} {stats : QueryStats}
    (fits : RowFits log device stats) : stats.effectiveTotal ≤ log.length := by
  have part := @List.count_le_length ι _ device log
  have count := fits.count
  have synced := fits.synced
  unfold QueryStats.effectiveTotal
  split
  · omega
  · rename_i snapshot
    have total := fits.total (by
      rw [Option.isSome_iff_ne_none]
      simpa using snapshot)
    unfold Backed at total
    omega

omit [EventFingerprint φ] in
theorem reportedCount_le (rows : ∀ key stats, db.queryStats.get key = some stats →
    RowFits (queries key) device stats) (key : ContentKey) :
    reportedCount db key ≤ (queries key).count device := by
  unfold reportedCount
  split
  · cases stored : db.queryStats.get key with
    | none => exact Nat.zero_le _
    | some stats => exact (rows key stats stored).count
  · exact Nat.zero_le _

theorem Announced.grows {events : List OutboxEvent} {request : List PushEvent}
    (announced : Announced db events request) (grows : Grows db next) :
    Announced next events request := by
  refine ⟨fun event member => grows.present _ (announced.present event member), ?_⟩
  intro pair member stats brought
  exact Nat.le_trans (announced.counts pair member stats brought) (grows.reported _)

theorem WorkerTally.grows
    (inv : WorkerTally naming queries server userId abandoned device db worker)
    (grows : Grows db next) :
    WorkerTally naming queries server userId abandoned device next worker := by
  cases worker with
  | idle => trivial
  | batched events => exact Announced.grows inv grows
  | pushing events request => exact ⟨inv.1.grows grows, inv.2⟩
  | answered events request reply =>
      refine ⟨inv.1.grows grows, inv.2.1, ?_⟩
      intro conflict same record key aggregate current keyed brought
      exact (inv.2.2 conflict same record key aggregate current keyed brought).mono
        (grows.synced key)
  | pulled page =>
      intro change member key aggregate keyed brought
      exact (inv change member key aggregate keyed brought).mono (grows.synced key)

/-- The log of queries has grown. -/
def Longer (queries later : ContentKey → List ι) : Prop :=
  ∀ key, ∃ more, later key = queries key ++ more

omit [EventFingerprint φ] in
theorem RowFits.longer {log more : List ι} {stats : QueryStats}
    (fits : RowFits log device stats) : RowFits (log ++ more) device stats := by
  have count := fits.count
  have synced := fits.synced
  refine ⟨?_, ?_, fun snapshot => (fits.total snapshot).append more⟩
  · rw [List.count_append]
    omega
  · rw [List.count_append]
    omega

theorem Pushable.longer {request : List PushEvent} {log : List ι} {sent : PushEvent} {count : Nat}
    (pushable : Pushable naming server userId abandoned request log device sent count)
    (more : List ι) :
    Pushable naming server userId abandoned request (log ++ more) device sent count where
  own := pushable.own.append more
  left := fun pair member same other listed keyed stats brought =>
    (pushable.left pair member same other listed keyed stats brought).append more
  batch := fun other member keyed stats brought =>
    (pushable.batch other member keyed stats brought).append more
  stored := fun ack aggregate stored brought =>
    (pushable.stored ack aggregate stored brought).append more

theorem WorkerTally.longer {later : ContentKey → List ι} (longer : Longer queries later)
    (inv : WorkerTally naming queries server userId abandoned device db worker) :
    WorkerTally naming later server userId abandoned device db worker := by
  cases worker with
  | idle => trivial
  | batched events => exact inv
  | pushing events request =>
      refine ⟨inv.1, fun pair member stats brought => ?_⟩
      obtain ⟨more, same⟩ := longer pair.1.contentKey
      rw [same]
      exact (inv.2 pair member stats brought).longer more
  | answered events request reply =>
      refine ⟨inv.1, ?_, ?_⟩
      · intro response same pair member ack listed named aggregate brought
        obtain ⟨stats, sent, covers⟩ := inv.2.1 response same pair member ack listed named
          aggregate brought
        obtain ⟨more, grown⟩ := longer pair.1.contentKey
        rw [grown]
        exact ⟨stats, sent, covers.append more⟩
      · intro conflict same record key aggregate current keyed brought
        obtain ⟨more, grown⟩ := longer key
        rw [grown]
        exact (inv.2.2 conflict same record key aggregate current keyed brought).append more
  | pulled page =>
      intro change member key aggregate keyed brought
      obtain ⟨more, grown⟩ := longer key
      rw [grown]
      exact (inv change member key aggregate keyed brought).append more

theorem Tallies.longer {later : ContentKey → List ι} {value : Device}
    (inv : Tallies naming queries server userId abandoned device value)
    (longer : Longer queries later) :
    Tallies naming later server userId abandoned device value := by
  refine ⟨inv.named, ?_, ?_, inv.worker.longer longer⟩
  · intro key stats stored
    obtain ⟨more, same⟩ := longer key
    rw [same]
    exact (inv.rows key stats stored).longer
  · intro key
    obtain ⟨more, same⟩ := longer key
    rw [same]
    exact (inv.bounded key).append more

/-- The worker is done with what it carried. -/
theorem Tallies.idle {value : Device}
    (inv : Tallies naming queries server userId abandoned device value) :
    Tallies naming queries server userId abandoned device ⟨value.profile, .idle⟩ :=
  ⟨inv.named, inv.rows, inv.bounded, trivial⟩

/-- A user's write; a query it counts is one more in the log. -/
theorem Tallies.localMove {input : Input} {issued : List Uuid} {later : ContentKey → List ι}
    (inv : Tallies naming queries server userId abandoned device ⟨db, worker⟩)
    (longer : Longer queries later) (shape : Shape issued db) (move : LocalMove input db next)
    (asked : ∀ entry, input.queried entry → (queries entry.content.contentKey).count device + 1 ≤
      (later entry.content.contentKey).count device) :
    Tallies naming later server userId abandoned device ⟨next, worker⟩ := by
  have grows := move.grows shape.indexed
  have grown := inv.longer longer
  refine ⟨?_, ?_, fun key => (grown.bounded key).mono (grows.reported key),
    grown.worker.grows grows⟩
  · show next.profileMeta.deviceId = naming device
    rw [move.profileMeta]
    exact inv.named
  · intro key stats stored
    rcases move.stats stored with old | ⟨-, first, rfl⟩ | ⟨entry, given, rfl, count⟩
    · exact grown.rows key stats old
    · exact ⟨Nat.zero_le _, Nat.zero_le _, by simp⟩
    · have more := asked entry given
      cases before : db.queryStats.get entry.content.contentKey with
      | none =>
          rw [before] at count
          cases count
          exact ⟨by dsimp only; omega, Nat.zero_le _, by simp⟩
      | some old =>
          rw [before] at count
          simp only [countQuery] at count
          split at count
          · cases count
            have mine := inv.rows _ old before
            have shown := grown.rows _ old before
            have least := mine.count
            exact ⟨by dsimp only; omega, shown.synced, shown.total⟩
          · cases count

omit [EventFingerprint φ] in
/-- Allowed answers keep every row within the queries. -/
theorem RowFits.taken {allowed : ContentKey → AggregateQueryStats → Nat → Prop}
    (rows : ∀ key stats, db.queryStats.get key = some stats → RowFits (queries key) device stats)
    (taken : Taken allowed db next)
    (allow : ∀ key value sent, allowed key value sent → sent ≤ (queries key).count device ∧
      Backed (queries key) device (max (syncedCount db key) sent) value.queryCount) :
    ∀ key stats, next.queryStats.get key = some stats → RowFits (queries key) device stats := by
  have fits := @TableMoves.fits allowed db.queryStats next.queryStats
    (fun key row => syncedCount db key ≤
        (row.map QueryStats.lastSyncedDeviceQueryCount).getD 0 ∧
      ∀ stats, row = some stats → RowFits (queries key) device stats) ?_ taken.moves ?_
  · intro key stats stored
    exact (fits key).2 stats stored
  · intro key aggregate sent now old new brought refreshed before
    cases refreshed with
    | kept silent same =>
        rw [same]
        exact before
    | started silent absent first stored =>
        rw [absent] at before
        rw [stored]
        refine ⟨before.1, ?_⟩
        rintro stats ⟨⟩
        exact ⟨Nat.zero_le _, Nat.zero_le _, by simp [unqueried]⟩
    | taken value here stored =>
        obtain ⟨small, covers⟩ := allow key value sent (brought value here)
        obtain ⟨floor, fits⟩ := before
        have start : RowFits (queries key) device
              (old.getD (unqueried value.firstQueriedAt value.lastQueriedAt)) ∧
            syncedCount db key ≤ (old.getD (unqueried value.firstQueriedAt
              value.lastQueriedAt)).lastSyncedDeviceQueryCount := by
          cases old with
          | none => exact ⟨⟨Nat.zero_le _, Nat.zero_le _, by simp [unqueried]⟩, floor⟩
          | some stats => exact ⟨fits stats rfl, floor⟩
        generalize old.getD (unqueried value.firstQueriedAt value.lastQueriedAt) = earlier at *
        obtain ⟨fit, least⟩ := start
        have synced := fit.synced
        rw [stored]
        refine ⟨?_, ?_⟩
        · show syncedCount db key ≤ max earlier.lastSyncedDeviceQueryCount sent
          omega
        · rintro stats ⟨⟩
          refine ⟨fit.count, ?_, fun _ => covers.mono ?_⟩
          · show max earlier.lastSyncedDeviceQueryCount sent ≤ (queries key).count device
            omega
          · show max (syncedCount db key) sent ≤ max earlier.lastSyncedDeviceQueryCount sent
            omega
  · intro key
    refine ⟨?_, fun stats stored => rows key stats stored⟩
    unfold syncedCount
    split
    · exact Nat.le_refl _
    · exact Nat.zero_le _

/-- The worker hands an answer to the profile and is done with it. -/
theorem Tallies.taken {allowed : ContentKey → AggregateQueryStats → Nat → Prop} {value : Device}
    (inv : Tallies naming queries server userId abandoned device value)
    (taken : Taken allowed value.profile next)
    (allow : ∀ key aggregate sent, allowed key aggregate sent →
      sent ≤ (queries key).count device ∧
      Backed (queries key) device (max (syncedCount value.profile key) sent)
        aggregate.queryCount) :
    Tallies naming queries server userId abandoned device ⟨next, .idle⟩ := by
  refine ⟨taken.deviceId.trans inv.named, RowFits.taken inv.rows taken allow, ?_, trivial⟩
  intro key
  exact (inv.bounded key).mono (taken.grows.reported key)

theorem Tallies.settleReply {issued : List Uuid} {events : List OutboxEvent}
    {request : List PushEvent} {reply : ApiResult PushResponse} (now : Int)
    (inv : Tallies naming queries server userId abandoned device
      ⟨db, .answered events request reply⟩) (sent : Sent issued db events request) :
    Grows db (System.settleReply db events request reply now) ∧
      Tallies naming queries server userId abandoned device
        ⟨System.settleReply db events request reply now, .idle⟩ := by
  obtain ⟨announced, acknowledged, refused⟩ := inv.worker
  have taken := @settleReply_taken issued db events request (fun key value count =>
      count ≤ (queries key).count device ∧
        Backed (queries key) device (max (syncedCount db key) count) value.queryCount)
    reply now sent ?_ ?_
  · exact ⟨taken.grows, inv.taken taken (fun _ _ _ here => here)⟩
  · intro response same pair member ack listed named aggregate brought
    obtain ⟨stats, here, covers⟩ := acknowledged response same pair member ack listed named
      aggregate brought
    have least := announced.counts pair member stats here
    have most := reportedCount_le inv.rows pair.1.contentKey
    rw [here]
    exact ⟨Nat.le_trans least most, covers.mono (Nat.le_max_right _ _)⟩
  · intro conflict same record key aggregate current keyed brought
    exact ⟨Nat.zero_le _, (refused conflict same record key aggregate current keyed brought).mono
      (Nat.le_max_left _ _)⟩

theorem Tallies.page [ContentTables] {page : ChangesResponse} (now : Int)
    (inv : Tallies naming queries server userId abandoned device ⟨db, .pulled page⟩) :
    Grows db (applyRemotePage db page.changes page.nextRevision now).1 ∧
      Tallies naming queries server userId abandoned device
        ⟨(applyRemotePage db page.changes page.nextRevision now).1, .idle⟩ := by
  have taken := @applyRemotePage_taken (fun key value count =>
      count ≤ (queries key).count device ∧
        Backed (queries key) device (max (syncedCount db key) count) value.queryCount)
    _ page.changes page.nextRevision now db ?_
  · exact ⟨taken.grows, inv.taken taken (fun _ _ _ here => here)⟩
  · intro change member key aggregate keyed brought
    exact ⟨Nat.zero_le _, (inv.worker change member key aggregate keyed brought).mono
      (Nat.le_max_left _ _)⟩

end Device

section World

variable [DecidableEq ι] [ContentTables]

/-- The Device handed the id out in a call. -/
def Issues (actions : List (Action ι)) (device : ι) (id : Uuid) : Prop :=
  ∃ call, Action.call device call ∈ actions ∧ id ∈ call.ids

/-- What a Device has sent: one of its ids, and a count its profile has. -/
structure Sends (done : List (Action ι)) (origin : ι) (db : ProfileDb) (sent : PushEvent) :
    Prop where
  issued : ∃ id, Issues done origin id ∧ sent.eventId = id.text
  counted : ∃ key : ContentKey, sent.contentKey = key.toHex ∧
    ∀ stats, sent.queryStats = some stats → stats.queryCount ≤ reportedCount db key

/-- The invariant of a run, over the actions taken so far: what each Device has, and whose
the requests under way and the stored answers are. -/
structure TotalsInv [EventFingerprint φ] (account : Account) (naming : ι → String)
    (done : List (Action ι)) (world : World φ ι) : Prop where
  linked : WorldInv account.userId world
  rows : ∀ (id : String) (key : ContentKey), ownCount world.server account.userId id key.toHex ≤
    ((queriesOf done key).map naming).count id
  device : ∀ device, Tallies naming (queriesOf done) world.server account.userId world.abandoned
    device (world.devices device)
  carries : ∀ device id, (world.devices device).Carries id → Issues done device id
  issued : ∀ device id, Issues done device id → id ∈ world.issued
  owner : ∀ first second id, Issues done first id → Issues done second id → first = second
  left : ∀ pair ∈ world.abandoned, ∃ origin, naming origin = pair.1 ∧
    ∀ sent ∈ pair.2, Sends done origin (world.devices origin).profile sent
  stored : ∀ sent ack aggregate, Stored world.server account.userId sent ack →
    ack.aggregateQueryStats = some aggregate → ∃ stats origin id key,
      sent.queryStats = some stats ∧ Issues done origin id ∧ sent.eventId = id.text ∧
      sent.contentKey = key.toHex ∧
      (stats.queryCount < reportedCount (world.devices origin).profile key ∨
        Backed (queriesOf done key) origin stats.queryCount aggregate.queryCount)

variable [EventFingerprint φ] {account : Account} {naming : ι → String}
  {done : List (Action ι)} {world : World φ ι}

/-- Only calls ask and issue. -/
theorem TotalsInv.silent {action : Action ι} (inv : TotalsInv account naming done world)
    (silent : ∀ device call, action ≠ .call device call) :
    TotalsInv account naming (done ++ [action]) world := by
  have queries : queriesOf (done ++ [action]) = queriesOf done := by
    funext key
    unfold queriesOf
    rw [List.filterMap_append]
    cases action with
    | call device call => exact absurd rfl (silent device call)
    | work device job => simp [asker]
    | latePush deviceId request now => simp [asker]
    | patch contentKey active baseEntityRevision now => simp [asker]
  have issues : Issues (done ++ [action]) = Issues done := by
    funext device id
    apply propext
    constructor
    · rintro ⟨call, member, fresh⟩
      rcases List.mem_append.mp member with old | new
      · exact ⟨call, old, fresh⟩
      · exact absurd (List.mem_singleton.mp new).symm (silent device call)
    · rintro ⟨call, member, fresh⟩
      exact ⟨call, List.mem_append_left _ member, fresh⟩
  have sends : ∀ {origin : ι} {db : ProfileDb} {sent : PushEvent}, Sends done origin db sent →
      Sends (done ++ [action]) origin db sent :=
    fun sends => ⟨by rw [issues]; exact sends.issued, sends.counted⟩
  refine ⟨inv.linked, ?_, ?_, ?_, ?_, ?_, ?_, ?_⟩
  · rw [queries]
    exact inv.rows
  · rw [queries]
    exact inv.device
  · rw [issues]
    exact inv.carries
  · rw [issues]
    exact inv.issued
  · rw [issues]
    exact inv.owner
  · intro pair member
    obtain ⟨origin, named, sent⟩ := inv.left pair member
    exact ⟨origin, named, fun event listed => sends (sent event listed)⟩
  · rw [queries, issues]
    exact inv.stored

omit [DecidableEq ι] in
theorem Sends.grows {origin : ι} {db next : ProfileDb} {sent : PushEvent}
    (sends : Sends done origin db sent) (grows : Grows db next) : Sends done origin next sent := by
  obtain ⟨key, keyed, counts⟩ := sends.counted
  exact ⟨sends.issued, key, keyed, fun stats brought =>
    Nat.le_trans (counts stats brought) (grows.reported key)⟩

omit [ContentTables] in
/-- Another Device of the name leaves a request behind. -/
theorem WorkerTally.abandon {server : ServerDb φ} {userId : String} {device other : ι}
    {queries : ContentKey → List ι} {abandoned left : List (String × List PushEvent)}
    {db : ProfileDb} {worker : Worker}
    (inv : WorkerTally naming queries server userId abandoned device db worker)
    (faithful : ∀ pair ∈ worker.exchange, pair.2.contentKey = pair.1.contentKey.toHex)
    (apart : other ≠ device)
    (foreign : ∀ pair ∈ left, pair.1 = naming other ∧ ∀ sent ∈ pair.2,
      ∃ key : ContentKey, sent.contentKey = key.toHex ∧ ∀ stats, sent.queryStats = some stats →
        stats.queryCount ≤ (queries key).count other) :
    WorkerTally naming queries server userId (left ++ abandoned) device db worker := by
  cases worker with
  | idle => trivial
  | batched events => exact inv
  | answered events request reply => exact inv
  | pulled page => exact inv
  | pushing events request =>
      refine ⟨inv.1, fun pair member stats brought => ?_⟩
      have pushable := inv.2 pair member stats brought
      refine ⟨pushable.own, ?_, pushable.batch, pushable.stored⟩
      intro entry listed named sent asked keyed more counted
      rcases List.mem_append.mp listed with new | old
      · obtain ⟨owner, sends⟩ := foreign entry new
        obtain ⟨key, text, least⟩ := sends sent asked
        have same : key = pair.1.contentKey :=
          ContentKey.toHex_injective (text.symm.trans (keyed.trans (faithful pair member)))
        rw [same] at least
        exact .of_other apart (owner.symm.trans named) (least more counted)
      · exact pushable.left entry old named sent asked keyed more counted

omit [ContentTables] [EventFingerprint φ] [DecidableEq ι] in
theorem exchange_contentKey {server : ServerDb φ} {userId : String} {issued : List Uuid}
    {db : ProfileDb} {worker : Worker} (linked : WorkerInv server userId issued db worker) :
    ∀ pair ∈ worker.exchange, pair.2.contentKey = pair.1.contentKey.toHex := by
  intro pair member
  obtain ⟨-, -, faithful⟩ := @exchange_faithful φ server userId issued ⟨db, worker⟩ linked pair
    member
  exact faithful.contentKey

/-- One Device moves on, and may leave a request behind. -/
theorem TotalsInv.setDevice (inv : TotalsInv account naming done world) (device : ι)
    (value : Device) (left : List (String × List PushEvent))
    (linked : WorldInv account.userId
      { world.setDevice device value with abandoned := left ++ world.abandoned })
    (grows : Grows (world.devices device).profile value.profile)
    (tallies : Tallies naming (queriesOf done) world.server account.userId
      (left ++ world.abandoned) device value)
    (carried : ∀ id, value.Carries id → (world.devices device).Carries id)
    (behind : ∀ pair ∈ left, pair.1 = naming device ∧
      ∀ sent ∈ pair.2, Sends done device (world.devices device).profile sent) :
    TotalsInv account naming done
      { world.setDevice device value with abandoned := left ++ world.abandoned } := by
  have every : ∀ origin, Grows (world.devices origin).profile
      ((world.setDevice device value).devices origin).profile := by
    intro origin
    unfold World.setDevice
    dsimp only
    by_cases same : origin = device
    · subst same
      rw [Function.update_self]
      exact grows
    · rw [Function.update_of_ne same]
      exact .refl _
  refine ⟨linked, inv.rows, ?_, ?_, inv.issued, inv.owner, ?_, ?_⟩
  · intro other
    show Tallies _ _ _ _ _ other (Function.update world.devices device value other)
    by_cases same : other = device
    · subst same
      rw [Function.update_self]
      exact tallies
    · rw [Function.update_of_ne same]
      have before := inv.device other
      refine ⟨before.named, before.rows, before.bounded, ?_⟩
      refine before.worker.abandon (exchange_contentKey (inv.linked.worker other))
        (fun equal => same equal.symm) ?_
      intro pair member
      obtain ⟨named, sends⟩ := behind pair member
      refine ⟨named, fun sent asked => ?_⟩
      obtain ⟨key, keyed, counts⟩ := (sends sent asked).counted
      exact ⟨key, keyed, fun stats brought => Nat.le_trans (counts stats brought)
        (reportedCount_le (inv.device device).rows key)⟩
  · intro other id carries
    unfold World.setDevice at carries
    dsimp only at carries
    by_cases same : other = device
    · subst same
      rw [Function.update_self] at carries
      exact inv.carries other id (carried id carries)
    · rw [Function.update_of_ne same] at carries
      exact inv.carries other id carries
  · intro pair member
    rcases List.mem_append.mp member with new | old
    · obtain ⟨named, sends⟩ := behind pair new
      exact ⟨device, named.symm, fun sent asked => (sends sent asked).grows (every device)⟩
    · obtain ⟨origin, named, sends⟩ := inv.left pair old
      exact ⟨origin, named, fun sent asked => (sends sent asked).grows (every origin)⟩
  · intro sent ack aggregate stored brought
    obtain ⟨stats, origin, id, key, counted, issues, named, keyed, bound⟩ :=
      inv.stored sent ack aggregate stored brought
    refine ⟨stats, origin, id, key, counted, issues, named, keyed, bound.imp_left ?_⟩
    intro less
    exact Nat.lt_of_lt_of_le less ((every origin).reported key)

omit [ContentTables] [DecidableEq ι] in
theorem queriesOf_longer (action : Action ι) :
    Longer (queriesOf done) (queriesOf (done ++ [action])) := by
  intro key
  exact ⟨queriesOf [action] key, List.filterMap_append⟩

omit [ContentTables] in
/-- A query is one more in the log of its content. -/
theorem queriesOf_asked (device : ι) (entry : HistoryEntry) (eventId : Uuid) :
    (queriesOf done entry.content.contentKey).count device + 1 ≤
      (queriesOf (done ++ [.call device (.query entry eventId)])
        entry.content.contentKey).count device := by
  have last : queriesOf [Action.call device (.query entry eventId)] entry.content.contentKey =
      [device] := by
    simp [queriesOf, asker]
  have whole : queriesOf (done ++ [Action.call device (.query entry eventId)])
      entry.content.contentKey = queriesOf done entry.content.contentKey ++ [device] := by
    rw [← last]
    exact List.filterMap_append
  rw [whole, List.count_append, List.count_singleton_self]

/-- What a call leaves of a profile, with the worker wherever it is. -/
theorem TotalsInv.perform (inv : TotalsInv account naming done world) (device : ι) {call : Call}
    (allowed : call.allowed world.issued = true) :
    Tallies naming (queriesOf (done ++ [.call device call])) world.server account.userId
        world.abandoned device ⟨call.perform (world.devices device).profile,
          (world.devices device).worker⟩ ∧
      Grows (world.devices device).profile (call.perform (world.devices device).profile) ∧
      ∀ id, Device.Carries ⟨call.perform (world.devices device).profile,
        (world.devices device).worker⟩ id → id ∈ call.ids ∨ (world.devices device).Carries id := by
  have longer := @queriesOf_longer ι done (.call device call)
  have shape := (inv.linked.device device).shape.weaken
    (fun id member => List.mem_append_right call.ids member)
  have mine := inv.device device
  have moved : ∀ before next, LocalMove call.input before next →
      (Shape (call.ids ++ world.issued) before ∧ Grows (world.devices device).profile before ∧
        ∀ id, Device.Carries ⟨before, (world.devices device).worker⟩ id →
          id ∈ call.ids ∨ (world.devices device).Carries id) →
      Shape (call.ids ++ world.issued) next ∧ Grows (world.devices device).profile next ∧
        ∀ id, Device.Carries ⟨next, (world.devices device).worker⟩ id →
          id ∈ call.ids ∨ (world.devices device).Carries id := by
    rintro before next move ⟨shaped, grows, carried⟩
    refine ⟨shaped.localMove move (fun id member => List.mem_append_left _ member),
      grows.trans (move.grows shaped.indexed), ?_⟩
    rintro id (⟨coalesceKey, row, stored, rfl⟩ | event)
    · rcases move.row stored with here | ⟨brought, -⟩
      · exact carried row.eventId (Or.inl ⟨coalesceKey, row, here, rfl⟩)
      · exact Or.inl brought
    · exact Or.inr (Or.inr event)
  have start : Shape (call.ids ++ world.issued) (world.devices device).profile ∧
      Grows (world.devices device).profile (world.devices device).profile ∧
      ∀ id, Device.Carries ⟨(world.devices device).profile, (world.devices device).worker⟩ id →
        id ∈ call.ids ∨ (world.devices device).Carries id :=
    ⟨shape, .refl _, fun _ carries => Or.inr carries⟩
  obtain ⟨tallies, -, grows, carried⟩ := @Call.perform_keeps _ (fun db =>
      Tallies naming (queriesOf (done ++ [.call device call])) world.server account.userId
        world.abandoned device ⟨db, (world.devices device).worker⟩ ∧
      Shape (call.ids ++ world.issued) db ∧ Grows (world.devices device).profile db ∧
      ∀ id, Device.Carries ⟨db, (world.devices device).worker⟩ id →
        id ∈ call.ids ∨ (world.devices device).Carries id) call (world.devices device).profile
    ⟨mine.longer longer, start⟩
    (by
      rintro entry eventId next rfl move
      refine ⟨mine.localMove longer shape move ?_, moved _ next move start⟩
      rintro other rfl
      exact queriesOf_asked device other eventId)
    (by
      rintro quiet before next ⟨tallies, facts⟩ move
      refine ⟨tallies.localMove (fun key => ⟨[], (List.append_nil _).symm⟩) facts.1 move ?_,
        moved before next move facts⟩
      intro entry queried
      exact absurd queried (quiet entry))
  exact ⟨tallies, grows, carried⟩

theorem TotalsInv.call (inv : TotalsInv account naming done world) (device : ι) {call : Call}
    (allowed : call.allowed world.issued = true) (calls : List (ι × ContentKey × Bool))
    (linked : WorldInv account.userId { world.setDevice device
      { world.devices device with profile := call.perform (world.devices device).profile } with
        issued := call.ids ++ world.issued, calls := calls }) :
    TotalsInv account naming (done ++ [.call device call]) { world.setDevice device
      { world.devices device with profile := call.perform (world.devices device).profile } with
        issued := call.ids ++ world.issued, calls := calls } := by
  have new := Call.fresh_of_allowed allowed
  have longer := @queriesOf_longer ι done (.call device call)
  obtain ⟨tallies, grows, carried⟩ := inv.perform device allowed
  have older : ∀ origin id, Issues done origin id →
      Issues (done ++ [.call device call]) origin id := by
    rintro origin id ⟨earlier, member, fresh⟩
    exact ⟨earlier, List.mem_append_left _ member, fresh⟩
  have origins : ∀ origin id, Issues (done ++ [.call device call]) origin id →
      Issues done origin id ∨ (origin = device ∧ id ∈ call.ids) := by
    rintro origin id ⟨earlier, member, fresh⟩
    rcases List.mem_append.mp member with old | last
    · exact Or.inl ⟨earlier, old, fresh⟩
    · cases List.mem_singleton.mp last
      exact Or.inr ⟨rfl, fresh⟩
  have every : ∀ origin, Grows (world.devices origin).profile
      ((world.setDevice device { world.devices device with
        profile := call.perform (world.devices device).profile }).devices origin).profile := by
    intro origin
    unfold World.setDevice
    dsimp only
    by_cases same : origin = device
    · subst same
      rw [Function.update_self]
      exact grows
    · rw [Function.update_of_ne same]
      exact .refl _
  refine ⟨linked, ?_, ?_, ?_, ?_, ?_, ?_, ?_⟩
  · intro id key
    obtain ⟨more, same⟩ := longer key
    rw [same, List.map_append, List.count_append]
    exact Nat.le_trans (inv.rows id key) (Nat.le_add_right _ _)
  · intro other
    show Tallies _ _ _ _ _ other (Function.update world.devices device _ other)
    by_cases same : other = device
    · subst same
      rw [Function.update_self]
      exact tallies
    · rw [Function.update_of_ne same]
      exact (inv.device other).longer longer
  · intro other id carries
    unfold World.setDevice at carries
    dsimp only at carries
    by_cases same : other = device
    · subst same
      rw [Function.update_self] at carries
      rcases carried id carries with fresh | old
      · exact ⟨call, List.mem_append_right _ (List.mem_singleton.mpr rfl), fresh⟩
      · exact older other id (inv.carries other id old)
    · rw [Function.update_of_ne same] at carries
      exact older other id (inv.carries other id carries)
  · intro origin id issues
    rcases origins origin id issues with old | ⟨-, fresh⟩
    · exact List.mem_append_right _ (inv.issued origin id old)
    · exact List.mem_append_left _ fresh
  · intro first second id here there
    rcases origins first id here with old | ⟨rfl, fresh⟩
    · rcases origins second id there with earlier | ⟨rfl, fresh⟩
      · exact inv.owner first second id old earlier
      · exact absurd (inv.issued first id old) (new id fresh)
    · rcases origins second id there with earlier | ⟨rfl, -⟩
      · exact absurd (inv.issued second id earlier) (new id fresh)
      · rfl
  · intro pair member
    obtain ⟨origin, named, sends⟩ := inv.left pair member
    refine ⟨origin, named, fun sent asked => ?_⟩
    obtain ⟨id, issues, text⟩ := (sends sent asked).issued
    exact ⟨⟨id, older origin id issues, text⟩, ((sends sent asked).grows (every origin)).counted⟩
  · intro sent ack aggregate stored brought
    obtain ⟨stats, origin, id, key, counted, issues, named, keyed, bound⟩ :=
      inv.stored sent ack aggregate stored brought
    refine ⟨stats, origin, id, key, counted, older origin id issues, named, keyed, ?_⟩
    rcases bound with less | covers
    · exact Or.inl (Nat.lt_of_lt_of_le less ((every origin).reported key))
    · obtain ⟨more, same⟩ := longer key
      rw [same]
      exact Or.inr (covers.append more)

omit [ContentTables] [EventFingerprint φ] in
/-- A request moves the own count of its name to counts it brings. -/
theorem Within.tallied {server middle : ServerDb φ} {userId : String} {request : List PushEvent}
    {origin device : ι} {log : List ι} {contentKey : String} {count : Nat}
    (within : Within naming log device count (ownCount server userId (naming device) contentKey))
    (tallied : Tallied server middle userId (naming origin) request)
    (brought : naming origin = naming device → ∀ sent ∈ request, sent.contentKey = contentKey →
      ∀ stats, sent.queryStats = some stats → Within naming log device count stats.queryCount) :
    Within naming log device count (ownCount middle userId (naming device) contentKey) := by
  by_cases same : naming origin = naming device
  · have mine := tallied.mine contentKey
    rw [same] at mine
    rcases mine with old | ⟨sent, member, stats, keyed, counted, value⟩
    · rw [old]
      exact within
    · rw [value]
      exact brought same sent member keyed stats counted
  · rw [tallied.others (naming device) (fun equal => same equal.symm)]
    exact within

theorem TotalsInv.rowsTallied (inv : TotalsInv account naming done world) {middle : ServerDb φ}
    {request : List PushEvent} {origin : ι}
    (tallied : Tallied world.server middle account.userId (naming origin) request)
    (sends : ∀ sent ∈ request, Sends done origin (world.devices origin).profile sent)
    (id : String) (key : ContentKey) : ownCount middle account.userId id key.toHex ≤
      ((queriesOf done key).map naming).count id := by
  by_cases same : id = naming origin
  · subst same
    rcases tallied.mine key.toHex with old | ⟨sent, member, stats, keyed, counted, value⟩
    · rw [old]
      exact inv.rows _ key
    · obtain ⟨other, text, least⟩ := (sends sent member).counted
      obtain rfl : other = key := ContentKey.toHex_injective (text.symm.trans keyed)
      have reported := reportedCount_le (inv.device origin).rows other
      have shared := Tally.count_le_named naming (queriesOf done other) origin
      have count := least stats counted
      rw [value]
      omega
  · rw [tallied.others id same]
    exact inv.rows id key

variable [DecidableEq φ] [UuidParser]

/-- The server runs a request of one Device. -/
theorem TotalsInv.served (inv : TotalsInv account naming done world) (origin : ι)
    {request : List PushEvent} {now : Int} (rest : List (String × List PushEvent))
    (linked : WorldInv account.userId { world with
      server := (Server.push account.maxSyncEventsPerBatch world.server account.userId
        (naming origin) request now).1
      abandoned := rest })
    (fewer : ∀ pair ∈ rest, pair ∈ world.abandoned)
    (sends : ∀ sent ∈ request, Sends done origin (world.devices origin).profile sent)
    (safe : ∀ events own, (world.devices origin).worker = .pushing events own →
      ∀ pair ∈ events.zip own, ∀ stats, pair.2.queryStats = some stats → ∀ sent ∈ request,
      sent.contentKey = pair.2.contentKey → ∀ more, sent.queryStats = some more →
      Within naming (queriesOf done pair.1.contentKey) origin stats.queryCount more.queryCount) :
    TotalsInv account naming done { world with
      server := (Server.push account.maxSyncEventsPerBatch world.server account.userId
        (naming origin) request now).1
      abandoned := rest } := by
  obtain ⟨tallied, answers⟩ := Server.push_tallied account.maxSyncEventsPerBatch account.userId
    (naming origin) request now inv.linked.server.processed
  generalize (Server.push account.maxSyncEventsPerBatch world.server account.userId
    (naming origin) request now).1 = later at *
  -- What the request brings, to every Device of its name.
  have foreign : ∀ device, origin ≠ device → naming origin = naming device →
      ∀ (key : ContentKey) (count : Nat), ∀ sent ∈ request, sent.contentKey = key.toHex →
      ∀ stats, sent.queryStats = some stats →
      Within naming (queriesOf done key) device count stats.queryCount := by
    intro device apart same key count sent member keyed stats counted
    obtain ⟨other, text, least⟩ := (sends sent member).counted
    obtain rfl : other = key := ContentKey.toHex_injective (text.symm.trans keyed)
    exact .of_other apart same (Nat.le_trans (least stats counted)
      (reportedCount_le (inv.device origin).rows other))
  have bounded : ∀ {middle : ServerDb φ},
      Tallied world.server middle account.userId (naming origin) request → ∀ device key,
      Within naming (queriesOf done key) device (reportedCount (world.devices device).profile key)
        (ownCount middle account.userId (naming device) key.toHex) := by
    intro middle moved device key
    refine ((inv.device device).bounded key).tallied moved ?_
    intro same sent member keyed stats counted
    by_cases mine : origin = device
    · subst mine
      obtain ⟨other, text, least⟩ := (sends sent member).counted
      obtain rfl : other = key := ContentKey.toHex_injective (text.symm.trans keyed)
      exact .of_le (least stats counted)
    · exact foreign device mine same key _ sent member keyed stats counted
  have pushing : ∀ {middle : ServerDb φ},
      Tallied world.server middle account.userId (naming origin) request →
      ∀ device events own, (world.devices device).worker = .pushing events own →
      ∀ pair ∈ events.zip own, ∀ stats, pair.2.queryStats = some stats →
      Within naming (queriesOf done pair.1.contentKey) device stats.queryCount
        (ownCount middle account.userId (naming device) pair.2.contentKey) := by
    intro middle moved device events own waiting pair member stats counted
    have tally := (inv.device device).worker
    have worker := inv.linked.worker device
    rw [waiting] at tally worker
    have keyed : pair.2.contentKey = pair.1.contentKey.toHex :=
      exchange_contentKey worker pair member
    refine (tally.2 pair member stats counted).own.tallied moved ?_
    intro same sent listed about more brought
    by_cases mine : origin = device
    · subst mine
      exact safe events own waiting pair member stats counted sent listed about more brought
    · exact foreign device mine same pair.1.contentKey _ sent listed (about.trans keyed) more
        brought
  refine ⟨linked, inv.rowsTallied tallied sends, ?_, inv.carries, inv.issued, inv.owner,
    fun pair member => inv.left pair (fewer pair member), ?_⟩
  · intro device
    have before := inv.device device
    refine ⟨before.named, before.rows, bounded tallied device, ?_⟩
    show WorkerTally naming (queriesOf done) later account.userId rest device
      (world.devices device).profile (world.devices device).worker
    have tally := before.worker
    cases waiting : (world.devices device).worker with
    | idle => trivial
    | batched events =>
        rw [waiting] at tally
        exact tally
    | answered events own reply =>
        rw [waiting] at tally
        exact tally
    | pulled page =>
        rw [waiting] at tally
        exact tally
    | pushing events own =>
        have worker := inv.linked.worker device
        rw [waiting] at tally worker
        refine ⟨tally.1, fun pair member stats counted => ?_⟩
        have pushable := tally.2 pair member stats counted
        refine ⟨pushing tallied device events own waiting pair member stats counted,
          fun entry listed => pushable.left entry (fewer entry listed), pushable.batch, ?_⟩
        intro ack aggregate stored brought
        rcases answers pair.2 ack stored with old | ⟨listed, fresh⟩
        · exact pushable.stored ack aggregate old brought
        · -- The event is of this Device, so the request is.
          obtain ⟨-, middle, moved, total⟩ := fresh aggregate brought
          obtain ⟨id, issues, named⟩ := (sends pair.2 listed).issued
          obtain ⟨event, held, faithful⟩ := @exchange_faithful φ world.server account.userId
            world.issued (world.devices device) (inv.linked.worker device) pair
            (by rw [waiting]; exact member)
          have mine : id = pair.1.eventId :=
            Uuid.text_injective (named.symm.trans faithful.eventId)
          have owned := inv.carries device id (Or.inr ⟨pair.1, event, mine.symm⟩)
          have same := inv.owner origin device id issues owned
          subst same
          have keyed : pair.2.contentKey = pair.1.contentKey.toHex := faithful.contentKey
          have within := pushing moved origin events own waiting pair member stats counted
          rw [total, keyed]
          rw [keyed] at within
          exact Backed.of_within (fun other => inv.rowsTallied moved sends other _) within
  · intro sent ack aggregate stored brought
    rcases answers sent ack stored with old | ⟨listed, fresh⟩
    · exact inv.stored sent ack aggregate old brought
    · obtain ⟨given, middle, moved, total⟩ := fresh aggregate brought
      obtain ⟨stats, counted⟩ := Option.ne_none_iff_exists'.mp given
      obtain ⟨id, issues, named⟩ := (sends sent listed).issued
      obtain ⟨key, keyed, least⟩ := (sends sent listed).counted
      refine ⟨stats, origin, id, key, counted, issues, named, keyed, ?_⟩
      rcases Nat.lt_or_ge stats.queryCount (reportedCount (world.devices origin).profile key) with
        less | most
      · exact Or.inl less
      · refine Or.inr ?_
        rw [total, keyed]
        exact (Backed.of_within (fun other => inv.rowsTallied moved sends other key)
          (bounded moved origin key)).mono most

omit [DecidableEq φ] [UuidParser] in
/-- What a worker has sent is what its Device may send. -/
theorem TotalsInv.sends (inv : TotalsInv account naming done world) {device : ι}
    {events : List OutboxEvent} {request : List PushEvent}
    (waiting : (world.devices device).worker = .pushing events request) :
    (∀ sent ∈ request, ∃ event, (event, sent) ∈ events.zip request) ∧
      ∀ sent ∈ request, Sends done device (world.devices device).profile sent := by
  have worker := inv.linked.worker device
  have tally := (inv.device device).worker
  rw [waiting] at worker tally
  have paired : ∀ sent ∈ request, ∃ event, (event, sent) ∈ events.zip request := by
    intro sent member
    have seconds : (events.zip request).map Prod.snd = request :=
      List.map_snd_zip (by rw [worker.pairs.length_eq])
    rw [← seconds] at member
    obtain ⟨pair, listed, rfl⟩ := List.mem_map.mp member
    exact ⟨pair.1, listed⟩
  refine ⟨paired, fun sent member => ?_⟩
  obtain ⟨event, listed⟩ := paired sent member
  have faithful := Forall₂.mem_zip worker.pairs _ listed
  have inside := (List.of_mem_zip listed).1
  refine ⟨⟨event.eventId, inv.carries device _ (Or.inr ⟨event, ?_, rfl⟩), faithful.eventId⟩,
    event.contentKey, faithful.contentKey, tally.1.counts _ listed⟩
  rw [waiting]
  exact inside

omit [DecidableEq φ] [UuidParser] [ContentTables] in
/-- What a worker that gives up leaves behind. -/
theorem Worker.leftBehind_pushing {worker : Worker} {deviceId : String} :
    ∀ pair ∈ worker.leftBehind deviceId, pair.1 = deviceId ∧
      ∃ events, worker = .pushing events pair.2 := by
  intro pair member
  cases worker with
  | pushing events request =>
      obtain rfl := List.mem_singleton.mp member
      exact ⟨rfl, events, rfl⟩
  | idle => cases member
  | batched events => cases member
  | answered events request reply => cases member
  | pulled page => cases member

omit [DecidableEq φ] [UuidParser] in
/-- The worker goes idle over a profile with the same statistics. -/
theorem TotalsInv.release (inv : TotalsInv account naming done world) (device : ι)
    (db : ProfileDb) (left : List (String × List PushEvent))
    (linked : WorldInv account.userId { world.setDevice device ⟨db, .idle⟩ with
      abandoned := left ++ world.abandoned })
    (favorites : db.favorites = (world.devices device).profile.favorites)
    (stats : db.queryStats = (world.devices device).profile.queryStats)
    (deviceId : db.profileMeta.deviceId = (world.devices device).profile.profileMeta.deviceId)
    (carried : ∀ coalesceKey row, db.syncOutbox.get coalesceKey = some row → ∃ old,
      (world.devices device).profile.syncOutbox.get coalesceKey = some old ∧
        row.eventId = old.eventId)
    (behind : ∀ pair ∈ left, pair.1 = (world.devices device).profile.profileMeta.deviceId ∧
      ∃ events, (world.devices device).worker = .pushing events pair.2) :
    TotalsInv account naming done { world.setDevice device ⟨db, .idle⟩ with
      abandoned := left ++ world.abandoned } := by
  have mine := inv.device device
  have grows : Grows (world.devices device).profile db := by
    refine ⟨fun key here => ?_, fun key row _ stored => ⟨row, ?_, Nat.le_refl _, Nat.le_refl _⟩⟩
    · rw [favorites]
      exact here
    · rw [stats]
      exact stored
  refine inv.setDevice device _ left linked grows ?_ ?_ ?_
  · refine ⟨deviceId.trans mine.named, ?_, fun key => (mine.bounded key).mono (grows.reported key),
      trivial⟩
    intro key row stored
    exact mine.rows key row (stats ▸ stored)
  · rintro id (⟨coalesceKey, row, stored, same⟩ | ⟨event, impossible, -⟩)
    · obtain ⟨old, here, eventId⟩ := carried coalesceKey row stored
      exact Or.inl ⟨coalesceKey, old, here, by rw [← eventId, same]⟩
    · cases impossible
  · intro pair member
    obtain ⟨named, events, waiting⟩ := behind pair member
    exact ⟨named.trans mine.named, (inv.sends waiting).2⟩

omit [DecidableEq φ] [UuidParser] in
/-- A batch is built: what it reports is all the profile has. -/
theorem TotalsInv.built (inv : TotalsInv account naming done world) {device : ι}
    {events : List OutboxEvent} {request : List PushEvent}
    (waiting : (world.devices device).worker = .batched events)
    (success : Desktop.buildEvents (world.devices device).profile events = .ok request) :
    WorkerTally naming (queriesOf done) world.server account.userId world.abandoned device
      (world.devices device).profile (.pushing events request) := by
  have mine := inv.device device
  have tally := mine.worker
  rw [waiting] at tally
  have built := buildEvents_ok events request success
  have counts : ∀ pair ∈ events.zip request, pair.2.eventId = pair.1.eventId.text ∧
      pair.2.contentKey = pair.1.contentKey.toHex ∧ ∀ stats, pair.2.queryStats = some stats →
      stats.queryCount = reportedCount (world.devices device).profile pair.1.contentKey := by
    intro pair member
    have inside := (List.of_mem_zip (show (pair.1, pair.2) ∈ events.zip request from member)).1
    obtain ⟨found, snapshot, -, -, -, sent⟩ := pushEvent_ok (Forall₂.mem_zip built pair member)
    refine ⟨by rw [sent], by rw [sent], fun stats brought => ?_⟩
    rw [sent] at brought
    have present := tally.present pair.1 inside
    unfold reportedCount
    rw [if_pos present]
    cases stored : (world.devices device).profile.queryStats.get pair.1.contentKey with
    | none =>
        simp [stored, sentStats] at brought
    | some row =>
        simp only [stored, sentStats] at brought
        split at brought
        · cases brought
          rfl
        · cases brought
  refine ⟨⟨tally.present, fun pair member stats brought =>
    Nat.le_of_eq ((counts pair member).2.2 stats brought)⟩, ?_⟩
  intro pair member stats brought
  obtain ⟨named, keyed, count⟩ := counts pair member
  have value := count stats brought
  refine ⟨?_, ?_, ?_, ?_⟩
  · rw [value, keyed]
    exact mine.bounded pair.1.contentKey
  · intro entry listed owner sent asked about more counted
    obtain ⟨origin, label, sends⟩ := inv.left entry listed
    obtain ⟨key, text, least⟩ := (sends sent asked).counted
    obtain rfl : key = pair.1.contentKey :=
      ContentKey.toHex_injective (text.symm.trans (about.trans keyed))
    by_cases same : origin = device
    · subst same
      rw [value]
      exact .of_le (least more counted)
    · exact .of_other same (label.trans owner) (Nat.le_trans (least more counted)
        (reportedCount_le (inv.device origin).rows _))
  · intro sent asked about more counted
    have seconds : (events.zip request).map Prod.snd = request :=
      List.map_snd_zip (by rw [built.length_eq])
    rw [← seconds] at asked
    obtain ⟨other, listed, rfl⟩ := List.mem_map.mp asked
    obtain ⟨-, text, same⟩ := counts other listed
    have equal : other.1.contentKey = pair.1.contentKey :=
      ContentKey.toHex_injective (text.symm.trans (about.trans keyed))
    refine .of_le ?_
    rw [same more counted, value, equal]
  · intro ack aggregate stored shown
    obtain ⟨other, origin, id, key, counted, issues, text, about, bound⟩ :=
      inv.stored pair.2 ack aggregate stored shown
    have inside := (List.of_mem_zip (show (pair.1, pair.2) ∈ events.zip request from member)).1
    have own : Issues done device id := by
      have same : id = pair.1.eventId := Uuid.text_injective (text.symm.trans named)
      refine inv.carries device id (Or.inr ⟨pair.1, ?_, same.symm⟩)
      rw [waiting]
      exact inside
    obtain rfl := inv.owner origin device id issues own
    obtain rfl : key = pair.1.contentKey := ContentKey.toHex_injective (about.symm.trans keyed)
    rw [brought] at counted
    cases counted
    rcases bound with less | covers
    · omega
    · exact covers

omit [DecidableEq φ] [UuidParser] [ContentTables] [DecidableEq ι] in
/-- In the Favorite domain the watermark is what counts. -/
theorem syncedCount_present {db : ProfileDb} {key : ContentKey}
    (here : (db.favorites.get key).isSome) : syncedCount db key = watermark db key := by
  unfold syncedCount watermark
  rw [if_pos here]

omit [DecidableEq φ] [UuidParser] [ContentTables] [DecidableEq ι] [EventFingerprint φ] in
theorem countKnown_le {server : ServerDb φ} {userId : String} {profile : ProfileDb}
    {key : ContentKey} (known : countKnown server userId profile key.toHex = true) :
    ownCount server userId profile.profileMeta.deviceId key.toHex ≤ watermark profile key := by
  unfold countKnown at known
  rw [ContentKey.fromStr_toHex] at known
  simpa using known

omit [UuidParser] in
/-- The record of a refused event counts nothing the Device does not know of. -/
theorem TotalsInv.refused (inv : TotalsInv account naming done world) {device : ι} {now : Int}
    {events : List OutboxEvent} {request : List PushEvent} {conflict : Server.SyncConflict}
    (waiting : (world.devices device).worker = .pushing events request)
    (failed : Server.pushLoop account.userId (naming device) now request world.server =
      .error (.conflict conflict)) {record : FavoriteRecord} {key : ContentKey}
    {aggregate : AggregateQueryStats} (current : conflict.current = some record)
    (keyed : record.contentKey = key.toHex)
    (brought : record.aggregateQueryStats = some aggregate)
    (known : countKnown world.server account.userId (world.devices device).profile
      record.contentKey = true)
    (reports : reportsKnown (world.devices device).profile request conflict
      record.contentKey = true) :
    Backed (queriesOf done key) device (syncedCount (world.devices device).profile key)
      aggregate.queryCount := by
  have worker := inv.linked.worker device
  have tally := (inv.device device).worker
  rw [waiting] at worker tally
  obtain ⟨paired, sends⟩ := inv.sends waiting
  obtain ⟨early, event, late, middle, acks, changed, whole, looped, -, favorite, named, found, -⟩ :=
    Server.pushLoop_conflict request world.server failed
  rw [current] at found
  rcases Server.favoriteRecord_ok found with
    ⟨-, impossible⟩ | ⟨row, total, -, counted, same⟩
  · cases impossible
  have record_eq := Option.some.inj same
  have about : event.contentKey = key.toHex := by
    rw [← keyed, record_eq]
    rfl
  have totals : total = some aggregate := by
    rw [← brought, record_eq]
    rfl
  rw [totals] at counted
  rw [Server.aggregateStats_total counted, about]
  have tallied := Server.pushLoop_tallied early world.server middle acks changed looped
  have before : ∀ sent ∈ early, sent ∈ request := by
    intro sent member
    rw [whole]
    exact List.mem_append_left _ member
  -- The content is of the batch, so its watermark is kept.
  obtain ⟨outbox, listed⟩ := paired event (by rw [whole]; simp)
  have faithful := Forall₂.mem_zip worker.pairs _ listed
  have target : outbox.contentKey = key :=
    ContentKey.toHex_injective (faithful.contentKey.symm.trans about)
  have present := tally.1.present outbox (List.of_mem_zip listed).1
  rw [target] at present
  rw [syncedCount_present present]
  rw [keyed] at known reports
  have own := countKnown_le known
  rw [(inv.device device).named] at own
  refine Backed.of_within (fun id => inv.rowsTallied tallied
    (fun sent member => sends sent (before sent member)) id key) (.of_le ?_)
  rcases tallied.mine key.toHex with old | ⟨sent, member, stats, text, given, value⟩
  · rw [old]
    exact own
  · rw [value]
    have distinct := worker.ids
    rw [whole, List.map_append, List.nodup_append] at distinct
    have apart : ∀ other ∈ early, conflict.eventId ≠ some other.eventId := by
      intro other inside equal
      rw [named] at equal
      exact distinct.2.2 _ (List.mem_map_of_mem inside) _ (by simp)
        (Option.some.inj equal).symm
    unfold reportsKnown at reports
    rw [whole, List.takeWhile_append_of_pos (by simpa using apart), List.all_append,
      Bool.and_eq_true] at reports
    have least := List.all_eq_true.mp reports.1 sent member
    simpa [text, given] using least

theorem TotalsInv.serverPush (inv : TotalsInv account naming done world) {device : ι} {now : Int}
    {events : List OutboxEvent} {request : List PushEvent}
    (safe : countsKnown account world (.work device (.serverPush now)) = true)
    (waiting : (world.devices device).worker = .pushing events request)
    {later : ServerDb φ} {reply : ApiResult PushResponse}
    (outcome : Server.push account.maxSyncEventsPerBatch world.server account.userId
      (world.devices device).profile.profileMeta.deviceId request now = (later, reply))
    (evolved : WorldInv account.userId { world with server := later })
    (linked : WorldInv account.userId
      { world.setDevice device ⟨(world.devices device).profile,
        .answered events request reply⟩ with server := later }) :
    TotalsInv account naming done
      { world.setDevice device ⟨(world.devices device).profile,
        .answered events request reply⟩ with server := later } := by
  have label := (inv.device device).named
  unfold countsKnown at safe
  simp only [waiting, outcome] at safe
  rw [label] at outcome
  obtain ⟨paired, sends⟩ := inv.sends waiting
  have tally := (inv.device device).worker
  have worker := inv.linked.worker device
  rw [waiting] at tally worker
  have first : (Server.push account.maxSyncEventsPerBatch world.server account.userId
      (naming device) request now).1 = later := by rw [outcome]
  have served : TotalsInv account naming done { world with server := later } := by
    have ran := @TotalsInv.served φ ι _ _ _ account naming done world _ _ inv device request now
      world.abandoned (by rw [first]; exact evolved) (fun _ member => member) sends (by
        intro other own pending pair member stats counted sent asked keyed more brought
        rw [waiting] at pending
        cases pending
        exact (tally.2 pair member stats counted).batch sent asked keyed more brought)
    rw [first] at ran
    exact ran
  have mine := served.device device
  have pushing := mine.worker
  replace pushing : WorkerTally naming (queriesOf done) later account.userId world.abandoned device
    (world.devices device).profile (world.devices device).worker := pushing
  rw [waiting] at pushing
  refine served.setDevice device _ [] linked (.refl _) ⟨mine.named, mine.rows, mine.bounded,
    tally.1, ?_, ?_⟩ ?_ (by simp)
  · rintro response rfl pair member ack listed named aggregate brought
    obtain ⟨-, changed, looped⟩ := Server.push_ok outcome
    have kept := worker.answered inv.linked.server.processed looped pair.2
      (List.of_mem_zip (show (pair.1, pair.2) ∈ events.zip request from member)).2 ack listed named
    obtain ⟨stats, -, -, -, counted, -⟩ := served.stored pair.2 ack aggregate kept brought
    exact ⟨stats, counted, (pushing.2 pair member stats counted).stored ack aggregate kept brought⟩
  · rintro conflict rfl record key aggregate current keyed brought
    dsimp only at safe
    rw [current] at safe
    simp only [Option.all_some, Bool.and_eq_true] at safe
    exact inv.refused waiting (Server.push_conflict outcome) current keyed brought safe.1 safe.2
  · rintro id (row | event)
    · exact Or.inl row
    · refine Or.inr ?_
      show ∃ event ∈ (world.devices device).worker.events, event.eventId = id
      rw [waiting]
      exact event

theorem TotalsInv.latePush (inv : TotalsInv account naming done world) {deviceId : String}
    {request : List PushEvent} {now : Int} (member : (deviceId, request) ∈ world.abandoned)
    (linked : WorldInv account.userId { world with
      server := (Server.push account.maxSyncEventsPerBatch world.server account.userId deviceId
        request now).1
      abandoned := world.abandoned.erase (deviceId, request) }) :
    TotalsInv account naming done { world with
      server := (Server.push account.maxSyncEventsPerBatch world.server account.userId deviceId
        request now).1
      abandoned := world.abandoned.erase (deviceId, request) } := by
  obtain ⟨origin, rfl, sends⟩ := inv.left _ member
  refine inv.served origin _ linked (fun _ inside => List.mem_of_mem_erase inside) sends ?_
  intro events own waiting pair inside stats counted sent asked keyed more brought
  have tally := (inv.device origin).worker
  rw [waiting] at tally
  exact (tally.2 pair inside stats counted).left _ member rfl sent asked keyed more brought

omit [DecidableEq φ] [UuidParser] in
/-- A page that brings nothing unknown. -/
theorem TotalsInv.pulled (inv : TotalsInv account naming done world) {device : ι}
    {since limit : Nat} {page : ChangesResponse}
    (asked : Server.changesSince world.server account.userId since limit = .ok page)
    (known : ∀ change ∈ page.changes, countKnown world.server account.userId
      (world.devices device).profile change.favorite.contentKey = true) :
    WorkerTally naming (queriesOf done) world.server account.userId world.abandoned device
      (world.devices device).profile (.pulled page) := by
  intro change member key aggregate keyed brought
  have read := Server.changesSince_read asked change member
  rcases Server.favoriteRecord_ok read with
    ⟨-, impossible⟩ | ⟨row, total, -, counted, same⟩
  · cases impossible
  have totals : total = some aggregate := by
    rw [← brought, Option.some.inj same]
    rfl
  rw [totals, keyed] at counted
  rw [Server.aggregateStats_total counted]
  refine Backed.of_within (fun id => inv.rows id key) ?_
  by_cases present : ((world.devices device).profile.favorites.get key).isSome
  · rw [syncedCount_present present]
    have least := known change member
    rw [keyed] at least
    have own := countKnown_le least
    rw [(inv.device device).named] at own
    exact .of_le own
  · refine ((inv.device device).bounded key).mono ?_
    unfold reportedCount
    rw [if_neg present]
    exact Nat.zero_le _

omit [DecidableEq φ] [UuidParser] in
/-- A state patch counts nothing. -/
theorem TotalsInv.patched (inv : TotalsInv account naming done world) {contentKey : String}
    {active : Bool} {baseEntityRevision : Nat} {now : Int}
    (linked : WorldInv account.userId { world with
      server := (Server.setFavoriteState world.server account.userId contentKey active
        baseEntityRevision now).1 }) :
    TotalsInv account naming done { world with
      server := (Server.setFavoriteState world.server account.userId contentKey active
        baseEntityRevision now).1 } := by
  have processed := Server.patch_processed world.server account.userId contentKey active
    baseEntityRevision now
  have stats := Server.patch_stats world.server account.userId contentKey active
    baseEntityRevision now
  generalize (Server.setFavoriteState world.server account.userId contentKey active
    baseEntityRevision now).1 = later at *
  have own : ∀ id text, ownCount later account.userId id text =
      ownCount world.server account.userId id text := by
    intro id text
    unfold ownCount
    rw [stats]
  have kept : ∀ {sent ack}, Stored later account.userId sent ack →
      Stored world.server account.userId sent ack := by
    rintro sent ack ⟨named, time, found⟩
    exact ⟨named, time, processed ▸ found⟩
  refine ⟨linked, ?_, ?_, inv.carries, inv.issued, inv.owner, inv.left,
    fun sent ack aggregate stored => inv.stored sent ack aggregate (kept stored)⟩
  · intro id key
    dsimp only
    rw [own]
    exact inv.rows id key
  · intro device
    have mine := inv.device device
    have tally := mine.worker
    refine ⟨mine.named, mine.rows, fun key => ?_, ?_⟩
    · dsimp only
      rw [own]
      exact mine.bounded key
    · show WorkerTally naming (queriesOf done) later account.userId world.abandoned device
        (world.devices device).profile (world.devices device).worker
      cases waiting : (world.devices device).worker with
      | idle => trivial
      | batched events =>
          rw [waiting] at tally
          exact tally
      | answered events own reply =>
          rw [waiting] at tally
          exact tally
      | pulled page =>
          rw [waiting] at tally
          exact tally
      | pushing events request =>
          rw [waiting] at tally
          refine ⟨tally.1, fun pair member stats counted => ?_⟩
          have pushable := tally.2 pair member stats counted
          exact ⟨by rw [own]; exact pushable.own, pushable.left, pushable.batch,
            fun ack aggregate stored => pushable.stored ack aggregate (kept stored)⟩

theorem TotalsInv.work {next : World φ ι} {device : ι} {job : Job}
    (inv : TotalsInv account naming done world)
    (safe : countsKnown account world (.work device job) = true)
    (taken : work account world device job = some next) :
    TotalsInv account naming done next := by
  have linked := inv.linked.work taken
  have mine := inv.device device
  have tally := mine.worker
  have worker := inv.linked.worker device
  have shape := (inv.linked.device device).shape
  unfold System.work at taken
  dsimp only at taken
  split at taken
  · -- readBatch
    split at taken
    · cases taken
      exact inv
    · rename_i events read
      cases taken
      obtain ⟨-, stored, -⟩ := readyOutboxEvents_ok read
      refine inv.setDevice device _ [] linked (.refl _) ⟨mine.named, mine.rows, mine.bounded,
        ?_, by simp⟩ ?_ (by simp)
      · intro event member
        exact shape.indexed.inDomain (stored event member).1
      · rintro id (row | ⟨event, member, rfl⟩)
        · exact Or.inl row
        · exact Or.inl ⟨_, _, (stored event member).1, rfl⟩
    · cases taken
      exact inv
  · -- buildBatch
    rename_i events waiting
    split at taken
    · rename_i request built
      cases taken
      refine inv.setDevice device _ [] linked (.refl _) ⟨mine.named, mine.rows, mine.bounded,
        inv.built waiting built⟩ ?_ (by simp)
      rintro id (row | event)
      · exact Or.inl row
      · refine Or.inr ?_
        rw [waiting]
        exact event
    · cases taken
      exact inv.release device _ [] linked rfl rfl rfl
        (fun _ row stored => ⟨row, stored, rfl⟩) (by simp)
  · -- serverPush
    rename_i now events request waiting
    cases taken
    have evolved := inv.linked.evolves
      (Server.push_evolves account.maxSyncEventsPerBatch account.userId
        (world.devices device).profile.profileMeta.deviceId request now account.userId
        inv.linked.server).1
      (Server.push_evolves account.maxSyncEventsPerBatch account.userId
        (world.devices device).profile.profileMeta.deviceId request now account.userId
        inv.linked.server).2
    exact inv.serverPush safe waiting rfl evolved linked
  · -- receive
    rename_i now events request reply waiting
    cases taken
    have here : Tallies naming (queriesOf done) world.server account.userId world.abandoned device
        ⟨(world.devices device).profile, .answered events request reply⟩ := by
      refine ⟨mine.named, mine.rows, mine.bounded, ?_⟩
      rw [waiting] at tally
      exact tally
    rw [waiting] at worker
    obtain ⟨grows, settled⟩ := here.settleReply now worker.1
    refine inv.setDevice device _ [] linked grows settled ?_ (by simp)
    rintro id (⟨coalesceKey, row, stored, same⟩ | ⟨event, impossible, -⟩)
    · obtain ⟨old, before, eventId, -⟩ := settleReply_rows _ _ _ _ _ coalesceKey row stored
      exact Or.inl ⟨coalesceKey, old, before, by rw [← eventId, same]⟩
    · cases impossible
  · -- lose, before the server ran the request
    rename_i now events request waiting
    cases taken
    obtain ⟨favorites, stats, -, -, label⟩ :=
      retryLater_favorites (world.devices device).profile events now
    refine inv.release device _ [(_, request)] linked favorites stats label ?_ ?_
    · intro coalesceKey row stored
      obtain ⟨old, before, eventId, -⟩ := retryLater_rows _ _ _ coalesceKey row stored
      exact ⟨old, before, eventId⟩
    · intro pair member
      obtain rfl := List.mem_singleton.mp member
      exact ⟨rfl, events, waiting⟩
  · -- lose, after it answered
    rename_i now events request reply waiting
    cases taken
    obtain ⟨favorites, stats, -, -, label⟩ :=
      retryLater_favorites (world.devices device).profile events now
    refine inv.release device _ [] linked favorites stats label ?_ (by simp)
    intro coalesceKey row stored
    obtain ⟨old, before, eventId, -⟩ := retryLater_rows _ _ _ coalesceKey row stored
    exact ⟨old, before, eventId⟩
  · -- abandon
    cases taken
    exact inv.release device _ _ linked rfl rfl rfl (fun _ row stored => ⟨row, stored, rfl⟩)
      Worker.leftBehind_pushing
  · -- requestChanges
    rename_i limit waiting
    split at taken
    · rename_i page answered
      cases taken
      unfold countsKnown at safe
      simp only [answered, List.all_eq_true] at safe
      refine inv.setDevice device _ [] linked (.refl _) ⟨mine.named, mine.rows, mine.bounded,
        inv.pulled (Server.changes_ok answered) safe⟩ ?_ (by simp)
      rintro id (row | ⟨event, impossible, -⟩)
      · exact Or.inl row
      · cases impossible
    · cases taken
      exact inv
  · -- applyPage
    rename_i now page waiting
    cases taken
    have here : Tallies naming (queriesOf done) world.server account.userId world.abandoned device
        ⟨(world.devices device).profile, .pulled page⟩ := by
      refine ⟨mine.named, mine.rows, mine.bounded, ?_⟩
      rw [waiting] at tally
      exact tally
    obtain ⟨grows, applied⟩ := here.page now
    refine inv.setDevice device _ [] linked grows applied ?_ (by simp)
    rintro id (⟨coalesceKey, row, stored, same⟩ | ⟨event, impossible, -⟩)
    · obtain ⟨old, before, eventId, -⟩ := applyRemotePage_rows _ _ _ _ coalesceKey row stored
      exact Or.inl ⟨coalesceKey, old, before, by rw [← eventId, same]⟩
    · cases impossible
  · cases taken

theorem TotalsInv.step {next : World φ ι} {action : Action ι}
    (inv : TotalsInv account naming done world) (safe : countsKnown account world action = true)
    (taken : step account world action = some next) :
    TotalsInv account naming (done ++ [action]) next := by
  have linked := inv.linked.step taken
  cases action with
  | call device call =>
      unfold System.step at taken
      dsimp only at taken
      split at taken
      · rename_i allowed
        cases taken
        exact inv.call device allowed _ linked
      · cases taken
  | work device job =>
      have worked := inv.work safe taken
      exact worked.silent (by simp)
  | latePush deviceId request now =>
      unfold System.step at taken
      dsimp only at taken
      split at taken
      · rename_i member
        cases taken
        have pushed := inv.latePush member linked
        exact pushed.silent (by simp)
      · cases taken
  | patch contentKey active baseEntityRevision now =>
      refine TotalsInv.silent ?_ (by simp)
      unfold System.step at taken
      dsimp only at taken
      split at taken
      · cases taken
        exact inv.patched linked
      · cases taken
        exact inv

omit [DecidableEq φ] [UuidParser] in
theorem TotalsInv.initial (account : Account) (devices : List (String × String))
    (profileId : ι → Uuid) (deviceId : ι → String) (now : Int) :
    TotalsInv account deviceId []
      (World.initial account devices profileId deviceId now : World φ ι) := by
  refine ⟨WorldInv.initial account devices profileId deviceId now, ?_, ?_, ?_, ?_, ?_, ?_, ?_⟩
  · intro id key
    exact Nat.le_refl 0
  · intro device
    refine ⟨rfl, ?_, fun key => .of_le (Nat.zero_le _), trivial⟩
    intro key stats impossible
    cases impossible
  · rintro device id (⟨coalesceKey, row, impossible, -⟩ | ⟨event, impossible, -⟩)
    · cases impossible
    · cases impossible
  · rintro device id ⟨call, impossible, -⟩
    cases impossible
  · rintro first second id ⟨call, impossible, -⟩
    cases impossible
  · intro pair impossible
    cases impossible
  · rintro sent ack aggregate ⟨-, time, impossible⟩
    cases impossible

/-- In every run in which no aggregate brings a Device counts of its own that it does not
know the server has, no total is above the number of queries made. -/
theorem effective_total_bounded (account : Account) (devices : List (String × String))
    (profileId : ι → Uuid) (deviceId : ι → String) (now : Int) (actions : List (Action ι))
    (last : World φ ι)
    (meets : Transition.Meets (System.step account)
      (fun (world : World φ ι) action => countsKnown account world action = true)
      (World.initial account devices profileId deviceId now) actions)
    (reached : Transition.run (System.step account)
      (World.initial account devices profileId deviceId now) actions = some last)
    (device : ι) (key : ContentKey) (stats : QueryStats)
    (stored : (last.devices device).profile.queryStats.get key = some stats) :
    stats.effectiveTotal ≤ (queriesOf actions key).length := by
  have inv := @Transition.run_keeps_history _ _ (System.step account)
    (fun (world : World φ ι) action => countsKnown account world action = true)
    (fun done world => TotalsInv account deviceId done world)
    (fun _ _ _ _ here safe taken => here.step safe taken) actions [] _ last
    (TotalsInv.initial account devices profileId deviceId now) meets reached
  exact ((inv.device device).rows key stats stored).effectiveTotal

end World

section Runs

attribute [local instance] Sample.tables Sample.parser

/-- One query of "gift" is reported with its favorite; then the Device pulls. -/
def reportThenPull (answer : Job) : List (Action Unit) :=
  [.call () (.query (Sample.gift 100) (Sample.eventId 1)),
    .call () (.favorite Sample.giftKey 101 (Sample.eventId 2)),
    .work () (.readBatch 102 100), .work () .buildBatch, .work () (.serverPush 103),
    .work () answer, .work () (.requestChanges 100), .work () (.applyPage 105)]

/-- What is evaluated of the exchange, with the acknowledgement lost and delivered. -/
theorem reportThenPull_runs :
    (Transition.run (System.step Sample.account) Sample.desk
      (reportThenPull (.lose 104))).any (fun last =>
        ((last.devices ()).profile.queryStats.get Sample.giftKey).any (fun stats =>
          (queriesOf (reportThenPull (.lose 104)) Sample.giftKey).length <
            stats.effectiveTotal)) = true ∧
    (Transition.run (System.step Sample.account) Sample.desk
      (reportThenPull (.receive 104))).any (fun last =>
        ((last.devices ()).profile.queryStats.get Sample.giftKey).any (fun stats =>
          stats.serverTotalQueryCount = 1)) = true ∧
    Transition.Meets (System.step Sample.account)
      (fun world action => countsKnown Sample.account world action = true) Sample.desk
      (reportThenPull (.receive 104)) := by
  decide +kernel

/-- The acknowledgement is lost and the page arrives first: its total holds the query, and
the Device still counts it as unsynced. -/
theorem lost_ack_counts_twice :
    ∃ last stats,
      Transition.run (System.step Sample.account) Sample.desk (reportThenPull (.lose 104)) =
        some last ∧
      (last.devices ()).profile.queryStats.get Sample.giftKey = some stats ∧
      (queriesOf (reportThenPull (.lose 104)) Sample.giftKey).length < stats.effectiveTotal := by
  obtain ⟨last, ran, rows⟩ := (Option.any_eq_true _ _).mp reportThenPull_runs.1
  obtain ⟨stats, stored, above⟩ := (Option.any_eq_true _ _).mp rows
  exact ⟨last, stats, ran, stored, by simpa using above⟩

/-- The same exchange with the acknowledgement delivered. -/
theorem effective_total_bounded_gift :
    ∃ last stats,
      Transition.run (System.step Sample.account) Sample.desk (reportThenPull (.receive 104)) =
        some last ∧
      (last.devices ()).profile.queryStats.get Sample.giftKey = some stats ∧
      stats.serverTotalQueryCount = 1 ∧
      stats.effectiveTotal ≤
        (queriesOf (reportThenPull (.receive 104)) Sample.giftKey).length := by
  obtain ⟨-, facts, meets⟩ := reportThenPull_runs
  obtain ⟨last, ran, rows⟩ := (Option.any_eq_true _ _).mp facts
  obtain ⟨stats, stored, counted⟩ := (Option.any_eq_true _ _).mp rows
  exact ⟨last, stats, ran, stored, by simpa using counted,
    effective_total_bounded Sample.account [("user", "desk")] (fun _ => Sample.eventId 0)
      (fun _ => "desk") 50 _ last meets ran () Sample.giftKey stats stored⟩

end Runs

end Lvos.System
