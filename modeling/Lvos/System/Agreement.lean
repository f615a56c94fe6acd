import Lvos.System.Exchange

set_option autoImplicit false

namespace Lvos.System

open Lvos.Core Lvos.Sync Lvos.Storage
open Lvos.Server (ServerDb ServerInv Evolves EventFingerprint UuidParser ApiResult)

variable {φ ι : Type}

/-- What the worker carries between two jobs, against the profile and the server
as they are now. -/
def WorkerInv (server : ServerDb φ) (userId : String) (issued : List Uuid) (db : ProfileDb) :
    Worker → Prop
  | .idle => True
  | .batched events => Batch issued db events
  | .pushing events request => Sent issued db events request
  | .answered events request reply => Sent issued db events request ∧
      (∀ response, reply = .ok response →
        List.Forall₂ (Answer server userId db.profileMeta.lastServerRevision) request
          response.acknowledgements) ∧
      (∀ conflict, reply = .error (.conflict conflict) →
        Refused server userId db.profileMeta.lastServerRevision request conflict)
  | .pulled page => PageInv server userId db.profileMeta.lastServerRevision page

section Worker

variable {server later : ServerDb φ} {userId : String} {issued more : List Uuid}
  {db next : ProfileDb} {worker : Worker}

theorem WorkerInv.evolves [EventFingerprint φ] {latest : Nat}
    (inv : WorkerInv server userId issued db worker) (serverInv : ServerInv server)
    (evolves : Evolves userId server later) (known : server.users.get userId = some latest)
    (low : db.profileMeta.lastServerRevision ≤ latest) :
    WorkerInv later userId issued db worker := by
  cases worker with
  | idle => trivial
  | batched events => exact inv
  | pushing events request => exact inv
  | answered events request reply =>
      obtain ⟨sent, answered, refused⟩ := inv
      refine ⟨sent, fun response same => ?_, fun conflict same => ?_⟩
      · exact (answered response same).imp (fun _ _ answer => answer.evolves evolves known low)
      · exact (refused conflict same).evolves evolves known low
  | pulled page => exact PageInv.evolves inv serverInv.log evolves

theorem WorkerInv.localMove {input : Input}
    (inv : WorkerInv server userId issued db worker) (shape : Shape more db)
    (move : LocalMove input db next) (new : ∀ id, input.fresh id → id ∉ issued) :
    WorkerInv server userId issued next worker := by
  cases worker with
  | idle => trivial
  | batched events => exact Batch.localMove inv shape move new
  | pushing events request => exact Sent.localMove inv shape move new
  | answered events request reply =>
      obtain ⟨sent, answered, refused⟩ := inv
      unfold WorkerInv
      rw [move.profileMeta]
      exact ⟨sent.localMove shape move new, answered, refused⟩
  | pulled page =>
      unfold WorkerInv
      rw [move.profileMeta]
      exact inv

theorem WorkerInv.weaken (inv : WorkerInv server userId issued db worker)
    (grows : ∀ id ∈ issued, id ∈ more) : WorkerInv server userId more db worker := by
  cases worker with
  | idle => trivial
  | batched events => exact Batch.weaken inv grows
  | pushing events request => exact ⟨inv.batch.weaken grows, inv.pairs⟩
  | answered events request reply =>
      exact ⟨⟨inv.1.batch.weaken grows, inv.1.pairs⟩, inv.2⟩
  | pulled page => exact inv

end Worker

/-- The invariant of a run: the server's own, and the link of every Device. -/
structure WorldInv [EventFingerprint φ] (userId : String) (world : World φ ι) : Prop where
  server : ServerInv world.server
  device : ∀ device,
    DeviceInv world.server userId world.issued (world.devices device).profile
  worker : ∀ device, WorkerInv world.server userId world.issued (world.devices device).profile
    (world.devices device).worker

theorem WorldInv.initial [EventFingerprint φ] (account : Account)
    (devices : List (String × String)) (profileId : ι → Uuid) (deviceId : ι → String) (now : Int) :
    WorldInv account.userId (World.initial account devices profileId deviceId now : World φ ι) := by
  refine ⟨ServerInv.initial _ _, fun device => ⟨Shape.initial _ _ _, ⟨0, ?_, Nat.le_refl 0⟩, ?_⟩,
    fun device => trivial⟩
  · exact Relational.Table.get_put_self _ _ _
  · intro key
    refine Or.inr ⟨rfl, fun _ => ⟨rfl, rfl, ?_⟩⟩
    intro value row here
    simp [World.initial, ProfileDb.initial] at here

section Steps

variable [DecidableEq φ] [EventFingerprint φ] [ContentTables] [UuidParser] [DecidableEq ι]
  {userId : String} {world : World φ ι}

omit [DecidableEq φ] [ContentTables] [UuidParser] in
/-- Replacing one Device by one that keeps its part of the invariant. -/
theorem WorldInv.setDevice (inv : WorldInv userId world) (device : ι) (value : Device)
    (profile : DeviceInv world.server userId world.issued value.profile)
    (worker : WorkerInv world.server userId world.issued value.profile value.worker) :
    WorldInv userId (world.setDevice device value) := by
  refine ⟨inv.server, fun other => ?_, fun other => ?_⟩
  · exact @World.setDevice_all _ _ _ _ _ _
      (fun device => DeviceInv world.server userId world.issued device.profile)
      profile inv.device other
  · exact @World.setDevice_all _ _ _ _ _ _
      (fun device => WorkerInv world.server userId world.issued device.profile device.worker)
      worker inv.worker other

omit [DecidableEq φ] [ContentTables] [UuidParser] [DecidableEq ι] in
/-- Anything anyone asks of the server. -/
theorem WorldInv.evolves (inv : WorldInv userId world) {later : ServerDb φ}
    (serverInv : ServerInv later) (evolves : Evolves userId world.server later) :
    WorldInv userId { world with server := later } := by
  refine ⟨serverInv, fun device => (inv.device device).evolves evolves, fun device => ?_⟩
  obtain ⟨latest, known, low⟩ := (inv.device device).cursor
  exact (inv.worker device).evolves inv.server evolves known low

omit [DecidableEq φ] [UuidParser] [DecidableEq ι] in
/-- A call of the user, whatever the worker is waiting for. -/
theorem WorldInv.perform (inv : WorldInv userId world) (device : ι) {call : Call}
    (allowed : call.allowed world.issued = true) :
    DeviceInv world.server userId (call.ids ++ world.issued)
        (call.perform (world.devices device).profile) ∧
      WorkerInv world.server userId (call.ids ++ world.issued)
        (call.perform (world.devices device).profile) (world.devices device).worker := by
  have grows : ∀ id ∈ world.issued, id ∈ call.ids ++ world.issued :=
    fun id member => List.mem_append_right _ member
  have before := inv.device device
  have start : DeviceInv world.server userId (call.ids ++ world.issued)
        (world.devices device).profile ∧
      WorkerInv world.server userId world.issued (world.devices device).profile
        (world.devices device).worker :=
    ⟨⟨before.shape.weaken grows, before.cursor, before.linked⟩, inv.worker device⟩
  have reached : DeviceInv world.server userId (call.ids ++ world.issued)
        (call.perform (world.devices device).profile) ∧
      WorkerInv world.server userId world.issued
        (call.perform (world.devices device).profile) (world.devices device).worker := by
    have moves := call.moves (world.devices device).profile
    generalize call.perform (world.devices device).profile = performed at moves
    induction moves with
    | refl => exact start
    | tail _ move ih =>
        exact ⟨ih.1.localMove inv.server move (fun id member => List.mem_append_left _ member),
          ih.2.localMove ih.1.shape move (Call.fresh_of_allowed allowed)⟩
  exact ⟨reached.1, reached.2.weaken grows⟩

omit [DecidableEq φ] [ContentTables] [UuidParser] [DecidableEq ι] in
/-- The records of the run are not part of the invariant. -/
theorem WorldInv.congr (inv : WorldInv userId world) {next : World φ ι}
    (server : next.server = world.server) (devices : next.devices = world.devices)
    (issued : next.issued = world.issued) : WorldInv userId next := by
  refine ⟨by rw [server]; exact inv.server, fun device => ?_, fun device => ?_⟩
  · rw [server, devices, issued]
    exact inv.device device
  · rw [server, devices, issued]
    exact inv.worker device

/-- The push of the request a worker waits for. -/
theorem WorldInv.serverPush (inv : WorldInv userId world) (device : ι) {maxEvents : Nat}
    {deviceId : String} {events : List OutboxEvent} {request : List PushEvent} {now : Int}
    {later : ServerDb φ} {reply : ApiResult PushResponse}
    (waiting : (world.devices device).worker = .pushing events request)
    (pushed : Server.push maxEvents world.server userId deviceId request now = (later, reply)) :
    WorldInv userId { world.setDevice device
      ⟨(world.devices device).profile, .answered events request reply⟩ with server := later } := by
  obtain ⟨laterInv, evolves⟩ := Server.push_evolves maxEvents userId deviceId request now userId
    inv.server
  rw [pushed] at laterInv evolves
  have sent : Sent world.issued (world.devices device).profile events request := by
    have worker := inv.worker device
    rw [waiting] at worker
    exact worker
  have moved := inv.evolves laterInv evolves
  refine moved.setDevice device _ (moved.device device) ⟨sent, ?_, ?_⟩
  · rintro response rfl
    obtain ⟨-, changed, looped⟩ := Server.push_ok pushed
    exact answers_of_push _ inv.server looped
  · rintro conflict rfl
    have same := Server.push_error pushed
    subst same
    exact refused_of_push _ sent (Server.push_conflict pushed)

theorem WorldInv.work {account : Account} {next : World φ ι} {device : ι} {job : Job}
    (inv : WorldInv account.userId world)
    (taken : work account world device job = some next) : WorldInv account.userId next := by
  have profile := inv.device device
  have worker := inv.worker device
  unfold System.work at taken
  dsimp only at taken
  split at taken
  · -- readBatch
    split at taken
    · cases taken
      exact inv
    · rename_i events read
      cases taken
      exact inv.setDevice device _ profile (Batch.of_read profile.shape read)
    · cases taken
      exact inv
  · -- buildBatch
    rename_i events waiting
    rw [waiting] at worker
    split at taken
    · rename_i request built
      cases taken
      exact inv.setDevice device _ profile (Sent.of_built worker profile.shape built)
    · cases taken
      exact inv.setDevice device _ profile trivial
  · -- serverPush
    rename_i now events request waiting
    cases taken
    exact inv.serverPush device waiting rfl
  · -- receive
    rename_i now events request reply waiting
    rw [waiting] at worker
    cases taken
    obtain ⟨sent, answered, refused⟩ := worker
    exact inv.setDevice device _ (profile.settleReply sent answered refused) trivial
  · -- lose, before the server ran the request
    rename_i now events request waiting
    cases taken
    exact (inv.setDevice device
      ⟨(Desktop.retryLater (world.devices device).profile events now).1, .idle⟩
      (profile.retryLater events now) trivial).congr rfl rfl rfl
  · -- lose, after it answered
    cases taken
    exact inv.setDevice device _ (profile.retryLater _ _) trivial
  · -- abandon
    cases taken
    exact (inv.setDevice device ⟨(world.devices device).profile, .idle⟩ profile trivial).congr
      rfl rfl rfl
  · -- requestChanges
    split at taken
    · rename_i page answered
      cases taken
      obtain ⟨latest, known, low⟩ := profile.cursor
      exact inv.setDevice device _ profile (PageInv.of_facts (Server.changesSince_facts
        inv.server.log known low (Server.changes_ok answered)))
    · cases taken
      exact inv
  · -- applyPage
    rename_i now page waiting
    rw [waiting] at worker
    cases taken
    refine inv.setDevice device _ ?_ trivial
    unfold applyRemotePage
    cases body : applyRemotePageBody page.changes page.nextRevision now
        (world.devices device).profile with
    | error reason =>
        rw [Transaction.atomically_of_error body]
        exact profile
    | ok pair =>
        obtain ⟨last, done⟩ := pair
        rw [Transaction.atomically_of_ok body]
        exact profile.page worker body
  · cases taken

theorem WorldInv.step {account : Account} {next : World φ ι} {action : Action ι}
    (inv : WorldInv account.userId world) (taken : step account world action = some next) :
    WorldInv account.userId next := by
  cases action with
  | call device call =>
      unfold System.step at taken
      dsimp only at taken
      split at taken
      · rename_i allowed
        cases taken
        obtain ⟨profile, worker⟩ := inv.perform device allowed
        have grows : ∀ id ∈ world.issued, id ∈ call.ids ++ world.issued :=
          fun id member => List.mem_append_right _ member
        have wider : WorldInv account.userId
            { world with issued := call.ids ++ world.issued } :=
          ⟨inv.server, fun other =>
            ⟨(inv.device other).shape.weaken grows, (inv.device other).cursor,
              (inv.device other).linked⟩, fun other => (inv.worker other).weaken grows⟩
        exact (wider.setDevice device
          { world.devices device with profile := call.perform (world.devices device).profile }
          profile worker).congr rfl rfl rfl
      · cases taken
  | work device job => exact inv.work taken
  | latePush deviceId request now =>
      unfold System.step at taken
      dsimp only at taken
      split at taken
      · cases taken
        obtain ⟨laterInv, evolves⟩ := Server.push_evolves account.maxSyncEventsPerBatch
          account.userId deviceId request now account.userId inv.server
        exact (inv.evolves laterInv evolves).congr rfl rfl rfl
      · cases taken
  | patch contentKey active baseEntityRevision now =>
      unfold System.step at taken
      dsimp only at taken
      split at taken
      · cases taken
        obtain ⟨laterInv, evolves⟩ := Server.patch_evolves account.userId contentKey active
          baseEntityRevision now account.userId inv.server
        exact inv.evolves laterInv evolves
      · cases taken
        exact inv

theorem run_worldInv {account : Account} {devices : List (String × String)}
    {profileId : ι → Uuid} {deviceId : ι → String} {now : Int} {actions : List (Action ι)}
    {last : World φ ι}
    (reached : Transition.run (System.step account)
      (World.initial account devices profileId deviceId now) actions = some last) :
    WorldInv account.userId last :=
  Transition.run_keeps (fun _ _ _ inv taken => inv.step taken)
    (WorldInv.initial account devices profileId deviceId now) reached

/-- After every run of any number of Devices, a Device without a pending Favorite
intent whose cursor is the account's revision agrees with the server on every
content, whatever its worker still waits for. -/
theorem devices_agree (account : Account) (devices : List (String × String))
    (profileId : ι → Uuid) (deviceId : ι → String) (now : Int) (actions : List (Action ι))
    (last : World φ ι)
    (reached : Transition.run (System.step account)
      (World.initial account devices profileId deviceId now) actions = some last)
    (device : ι)
    (idle : ∀ key, (last.devices device).profile.syncOutbox.get (.favorite key) = none)
    (caughtUp : last.server.users.get account.userId =
      some (last.devices device).profile.profileMeta.lastServerRevision) (key : ContentKey) :
    Agree ((last.devices device).profile.favorites.get key)
      (last.server.favorites.get (account.userId, key.toHex)) := by
  have inv := run_worldInv reached
  rcases (inv.device device).linked key with ⟨revision, row, above, found, -⟩ | ⟨-, settled⟩
  · -- News would lie above the account's own revision.
    obtain ⟨latest, known, -, bound⟩ := inv.server.log.bounded _ _ _ found
    rw [caughtUp] at known
    cases known
    omega
  · exact settled (idle key)

end Steps

section Witness

attribute [local instance] Sample.tables Sample.parser

/-- Two Devices: the first favorites a word and synchronizes, the second pulls. -/
theorem devices_agree_two : ∃ last : World PushEvent Bool,
    Transition.run (System.step Sample.account)
      (World.initial Sample.account [("user", "desk"), ("user", "laptop")]
        (fun device => Sample.eventId (if device then 1 else 2))
        (fun device => if device then "desk" else "laptop") 50)
      [.call true (.query (Sample.gift 100) (Sample.eventId 3)),
        .call true (.favorite Sample.giftKey 101 (Sample.eventId 4)),
        .work true (.readBatch 102 100), .work true .buildBatch, .work true (.serverPush 103),
        .work true (.receive 104), .work false (.requestChanges 200),
        .work false (.applyPage 105)] = some last ∧
    isActiveRemote (last.server.favorites.get ("user", Sample.giftKey.toHex)) = true ∧
    Agree ((last.devices false).profile.favorites.get Sample.giftKey)
      (last.server.favorites.get ("user", Sample.giftKey.toHex)) := by
  have facts : (Transition.run (System.step Sample.account)
      (World.initial Sample.account [("user", "desk"), ("user", "laptop")]
        (fun device => Sample.eventId (if device then 1 else 2))
        (fun device => if device then "desk" else "laptop") 50 : World PushEvent Bool)
      [.call true (.query (Sample.gift 100) (Sample.eventId 3)),
        .call true (.favorite Sample.giftKey 101 (Sample.eventId 4)),
        .work true (.readBatch 102 100), .work true .buildBatch, .work true (.serverPush 103),
        .work true (.receive 104), .work false (.requestChanges 200),
        .work false (.applyPage 105)]).any (fun last =>
          isActiveRemote (last.server.favorites.get ("user", Sample.giftKey.toHex)) &&
            (last.devices false).profile.syncOutbox.rows = [] &&
            last.server.users.get "user" =
              some (last.devices false).profile.profileMeta.lastServerRevision) = true := by
    decide +kernel
  obtain ⟨last, reached, holds⟩ := (Option.any_eq_true _ _).mp facts
  simp only [Bool.and_eq_true, decide_eq_true_eq] at holds
  refine ⟨last, reached, holds.1.1, devices_agree _ _ _ _ _ _ last reached false ?_ holds.2 _⟩
  intro key
  simp [Relational.Table.get, holds.1.2]

end Witness

end Lvos.System
