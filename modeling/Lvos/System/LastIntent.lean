import Lvos.System.Settled

set_option autoImplicit false

namespace Lvos.System

open Lvos.Core Lvos.Sync Lvos.Storage
open Lvos.Server (ServerDb EventFingerprint UuidParser ApiResult Seen)

variable {φ : Type}

/-- The steps of one user with one Device: queries, favorite and unfavorite calls,
and the jobs of the worker. -/
def listed : Action Unit → Bool
  | .call _ (.query _ _) | .call _ (.favorite _ _ _) | .call _ (.unfavorite _ _ _) => true
  | .work _ _ => true
  | _ => false

/-- The last successful favorite (`true`) or unfavorite (`false`) call on a content. -/
def lastIntent (calls : List (Unit × ContentKey × Bool)) (key : ContentKey) : Option Bool :=
  (calls.find? (fun call => call.2.1 = key)).map (fun call => call.2.2)

/-- With nothing left to send and nothing left to pull, both sides show the last
intent. -/
def LastIntentWins (account : Account) (world : World φ Unit) : Prop :=
  (world.devices ()).profile.syncOutbox.rows = [] →
  world.server.users.get account.userId =
    some (world.devices ()).profile.profileMeta.lastServerRevision →
  ∀ key intent, lastIntent world.calls key = some intent →
    isActive ((world.devices ()).profile.favorites.get key) = intent ∧
      isActiveRemote (world.server.favorites.get (account.userId, key.toHex)) = intent

/-- The intent an unfavorite call folds away is unknown to the server: it has no
row of the content, and no request with a Favorite event of it is on its way. -/
def foldsUnseen (account : Account) (world : World φ Unit) (key : ContentKey) : Bool :=
  ((world.devices ()).profile.favorites.get key).all (fun row =>
    row.deletedAt.isSome || row.entityRevision ≠ 0 ||
      ((world.server.favorites.get (account.userId, key.toHex)).isNone &&
        (world.devices ()).worker.request.all (fun sent =>
          sent.contentKey ≠ key.toHex || sent.operation = .queryStatsUpsert)))

/-- The condition on one step under which no intent is lost or revived. -/
def keepsIntent (account : Account) (world : World φ Unit) : Action Unit → Bool
  | .call _ (.unfavorite key _ _) => foldsUnseen account world key
  | .work _ (.receive _) => settlesCurrent (world.devices ())
  | _ => true

structure SoloInv [EventFingerprint φ] (account : Account) (world : World φ Unit) : Prop where
  linked : WorldInv account.userId world
  seen : ∀ id, Seen world.server account.userId id → ∃ uuid ∈ world.issued, id = uuid.text
  intent : ∀ key, isActive ((world.devices ()).profile.favorites.get key) =
    (lastIntent world.calls key).getD false
  settled : Settled world.server account.userId (world.devices ()).profile
  worker : WorkerAlone world.server account.userId (world.devices ()).profile
    (world.devices ()).worker

theorem SoloInv.initial [EventFingerprint φ] (account : Account)
    (devices : List (String × String)) (profileId : Unit → Uuid) (deviceId : Unit → String)
    (now : Int) :
    SoloInv account (World.initial account devices profileId deviceId now : World φ Unit) := by
  refine ⟨WorldInv.initial account devices profileId deviceId now, ?_, fun key => rfl,
    ⟨fun key _ => rfl, ?_⟩, trivial⟩
  · intro id impossible
    cases impossible
  · intro key row impossible
    cases impossible

section Steps

variable [DecidableEq φ] [EventFingerprint φ] [ContentTables] [UuidParser]

omit [EventFingerprint φ] [DecidableEq φ] [UuidParser] [ContentTables] in
@[simp] theorem setDevice_unit (world : World φ Unit) (value : Device) :
    (world.setDevice () value).devices () = value := by
  simp [World.setDevice]

omit [DecidableEq φ] [UuidParser] [ContentTables] in
/-- A job that changes only the Device and keeps every activity. -/
theorem SoloInv.setDevice {account : Account} {world : World φ Unit} (inv : SoloInv account world)
    (value : Device) (next : World φ Unit)
    (linked : WorldInv account.userId next) (server : next.server = world.server)
    (issued : next.issued = world.issued) (calls : next.calls = world.calls)
    (devices : next.devices () = value)
    (settled : Settled world.server account.userId value.profile)
    (active : ∀ key, isActive (value.profile.favorites.get key) =
      isActive ((world.devices ()).profile.favorites.get key))
    (worker : WorkerAlone world.server account.userId value.profile value.worker) :
    SoloInv account next := by
  refine ⟨linked, ?_, fun key => ?_, ?_, ?_⟩
  · rw [server, issued]
    exact inv.seen
  · rw [devices, calls, active]
    exact inv.intent key
  · rw [server, devices]
    exact settled
  · rw [server, devices]
    exact worker

/-- The intent of a call that asks for `state` and gets `result`. -/
def toggleIntent (target : ContentKey) (state : Bool) :
    StorageResult Favorite → List (ContentKey × Bool)
  | .ok _ => [(target, state)]
  | .error _ => []

omit [DecidableEq φ] [UuidParser] [EventFingerprint φ] in
/-- The state a listed call leaves is the one it stated, or the one before. -/
theorem Call.active {call : Call} (given : listed (.call () call) = true) (db : ProfileDb)
    (key : ContentKey) :
    isActive ((call.perform db).favorites.get key) =
      ((call.intent db).lookup key).getD (isActive (db.favorites.get key)) := by
  have toggled : ∀ {target : ContentKey} {state : Bool}
      {outcome : ProfileDb × StorageResult Favorite},
      Toggled ⟨fun _ => True, fun _ => True, fun _ => True, fun _ => True⟩ db target state outcome →
      isActive (outcome.1.favorites.get key) =
        ((toggleIntent target state outcome.2).lookup key).getD
          (isActive (db.favorites.get key)) := by
    intro target state outcome toggles
    cases result : outcome.2 with
    | error reason => rw [toggles.failed reason result]; rfl
    | ok value =>
        by_cases same : key = target
        · subst same
          simp [toggleIntent, toggles.state value result]
        · have differs : (key == target) = false := by simpa using same
          simp [toggleIntent, toggles.others key same, List.lookup_cons, differs]
  cases call with
  | query entry eventId =>
      have kept := (@recordSuccessfulQuery_move ⟨fun _ => True, fun _ => True, fun _ => True, fun _ => True⟩
        db entry eventId trivial trivial).2
      show isActive ((recordSuccessfulQuery db entry eventId).1.favorites.get key) = _
      rw [kept]
      rfl
  | favorite target now eventId => exact toggled (favorite_toggled db target now trivial)
  | unfavorite target now eventId => exact toggled (unfavorite_toggled db target now trivial)
  | importData document now eventIds => cases given
  | clearHistory => cases given

omit [DecidableEq φ] [UuidParser] [EventFingerprint φ] in
/-- A listed call makes at most one write. -/
theorem Call.move {call : Call} (given : listed (.call () call) = true) (db : ProfileDb) :
    call.perform db = db ∨
      LocalMove call.input db (call.perform db) := by
  cases call with
  | query entry eventId =>
      refine And.left (recordSuccessfulQuery_move db ?_ ?_)
      · exact rfl
      · simp [Call.input, Call.ids]
  | favorite key now eventId => exact (favorite_toggled db key now (by simp [Call.input, Call.ids])).move
  | unfavorite key now eventId => exact (unfavorite_toggled db key now (by simp [Call.input, Call.ids])).move
  | importData document now eventIds => cases given
  | clearHistory => cases given

omit [DecidableEq φ] [EventFingerprint φ] [UuidParser] in
/-- Under the condition, a content that a listed call folds is unknown to the
server. -/
theorem Call.folds {account : Account} {world : World φ Unit} {call : Call}
    (given : listed (.call () call) = true)
    (safe : keepsIntent account world (.call () call) = true) {key : ContentKey}
    {row : Storage.FavoriteRow}
    (stored : (world.devices ()).profile.favorites.get key = some row)
    (active : row.deletedAt = none) (unsynced : row.entityRevision = 0)
    (inactive : isActive ((call.perform (world.devices ()).profile).favorites.get key) = false) :
    world.server.favorites.get (account.userId, key.toHex) = none ∧
      ∀ sent ∈ (world.devices ()).worker.request, sent.contentKey = key.toHex →
        sent.operation = .queryStatsUpsert := by
  rw [Call.active given] at inactive
  have before : isActive ((world.devices ()).profile.favorites.get key) = true := by
    simp [stored, isActive, active]
  rw [before] at inactive
  -- Only an unfavorite call of this very content states the intent `false`.
  have unfavorited : ∃ now eventId, call = .unfavorite key now eventId := by
    cases call with
    | query entry eventId => simp [Call.intent] at inactive
    | favorite target now eventId =>
        simp only [Call.intent] at inactive
        split at inactive
        · by_cases same : key = target
          · simp [same] at inactive
          · have differs : (key == target) = false := by simpa using same
            simp [List.lookup_cons, differs] at inactive
        · simp at inactive
    | unfavorite target now eventId =>
        by_cases same : key = target
        · exact ⟨now, eventId, by rw [same]⟩
        · simp only [Call.intent] at inactive
          have differs : (key == target) = false := by simpa using same
          split at inactive
          · simp [List.lookup_cons, differs] at inactive
          · simp at inactive
    | importData document now eventIds => cases given
    | clearHistory => cases given
  obtain ⟨now, eventId, rfl⟩ := unfavorited
  have unseen : foldsUnseen account world key = true := safe
  unfold foldsUnseen at unseen
  rw [stored] at unseen
  simp only [Option.all_some, active, Option.isSome_none, unsynced, ne_eq, not_true_eq_false,
    decide_false, Bool.or_self, Bool.false_or, Bool.and_eq_true, Option.isNone_iff_eq_none,
    List.all_eq_true, Bool.or_eq_true, decide_eq_true_eq] at unseen
  refine ⟨unseen.1, fun sent member keyed => ?_⟩
  rcases unseen.2 sent member with apart | stats
  · exact absurd keyed apart
  · exact stats

omit [DecidableEq φ] [EventFingerprint φ] [ContentTables] [UuidParser] in
theorem lastIntent_append (intents : List (ContentKey × Bool))
    (calls : List (Unit × ContentKey × Bool)) (key : ContentKey) (single : intents.length ≤ 1) :
    (lastIntent (intents.map (fun intent => ((), intent)) ++ calls) key).getD false =
      (intents.lookup key).getD ((lastIntent calls key).getD false) := by
  match intents, single with
  | [], _ => rfl
  | [(target, state)], _ =>
      by_cases same : key = target
      · subst same
        simp [lastIntent]
      · have differs : (key == target) = false := by simpa using same
        have apart : ¬ target = key := fun equal => same equal.symm
        simp [lastIntent, List.lookup_cons, differs, apart]

omit [DecidableEq φ] [UuidParser] in
theorem SoloInv.call {account : Account} {world next : World φ Unit} {call : Call}
    (inv : SoloInv account world) (given : listed (.call () call) = true)
    (safe : keepsIntent account world (.call () call) = true)
    (allowed : call.allowed world.issued = true) (linked : WorldInv account.userId next)
    (server : next.server = world.server) (issued : next.issued = call.ids ++ world.issued)
    (devices : next.devices () =
      { world.devices () with profile := call.perform (world.devices ()).profile })
    (calls : next.calls = (call.intent (world.devices ()).profile).map (fun intent => ((), intent))
      ++ world.calls) : SoloInv account next := by
  have new := Call.fresh_of_allowed allowed
  have shape := (inv.linked.device ()).shape
  refine ⟨linked, ?_, fun key => ?_, ?_, ?_⟩
  · rw [server, issued]
    intro id known
    obtain ⟨uuid, member, same⟩ := inv.seen id known
    exact ⟨uuid, List.mem_append_right _ member, same⟩
  · rw [devices, calls, lastIntent_append _ _ _ ?_, ← inv.intent key]
    · exact Call.active given _ key
    · cases call <;> simp only [Call.intent] <;> (try split) <;> simp
  · rw [server, devices]
    rcases Call.move given (world.devices ()).profile with same | move
    · show Settled _ _ (call.perform _)
      rw [same]
      exact inv.settled
    · exact inv.settled.localMove shape inv.seen new move
        (fun key row stored active unsynced inactive =>
          (Call.folds given safe stored active unsynced inactive).1)
  · rw [server, devices]
    rcases Call.move given (world.devices ()).profile with same | move
    · show WorkerAlone _ _ (call.perform _) _
      rw [same]
      exact inv.worker
    · exact inv.worker.localMove shape (inv.linked.worker ()) inv.seen new move
        (fun key row stored active unsynced inactive =>
          (Call.folds given safe stored active unsynced inactive).2)

/-- The server ran the request the worker waits for. -/
theorem SoloInv.serverPush {account : Account} {world : World φ Unit} {events : List OutboxEvent}
    {request : List PushEvent} {deviceId : String} {now : Int} {later : ServerDb φ}
    {reply : ApiResult PushResponse} (inv : SoloInv account world)
    (waiting : (world.devices ()).worker = .pushing events request)
    (pushed : Server.push account.maxSyncEventsPerBatch world.server account.userId deviceId
      request now = (later, reply)) :
    SoloInv account { world.setDevice ()
      ⟨(world.devices ()).profile, .answered events request reply⟩ with server := later } := by
  have linked := inv.linked.serverPush () waiting pushed
  have shape := (inv.linked.device ()).shape
  have sent : Sent world.issued (world.devices ()).profile events request := by
    have worker := inv.linked.worker ()
    rw [waiting] at worker
    exact worker
  have alone : WorkerAlone world.server account.userId (world.devices ()).profile
      (.pushing events request) := waiting ▸ inv.worker
  cases reply with
  | error reason =>
      have same := Server.push_error pushed
      subst same
      refine inv.setDevice _ _ linked rfl rfl rfl (setDevice_unit world _) inv.settled
        (fun _ => rfl) ⟨nofun, ?_⟩
      rintro conflict ⟨⟩ record found
      obtain ⟨early, event, late, middle, acks, changed, whole, looped, -, favorite, -, here, -⟩ :=
        Server.pushLoop_conflict request world.server (Server.push_conflict pushed)
      obtain ⟨-, untouched⟩ := refused_current sent whole favorite looped (found ▸ here)
      exact untouched
  | ok response =>
      obtain ⟨-, changed, looped⟩ := Server.push_ok pushed
      refine ⟨linked, ?_, ?_, ?_, ?_⟩
      · intro id known
        rcases (Server.pushLoop_seen account.userId id request world.server later _ changed
          looped).mp known with old | ⟨-, member⟩
        · exact inv.seen id old
        · obtain ⟨asked, listed, rfl⟩ := List.mem_map.mp member
          obtain ⟨event, inside, faithful⟩ :=
            Transaction.related_of_mem_right sent.pairs asked listed
          exact ⟨event.eventId, (sent.batch.held event inside).issued, faithful.eventId⟩
      · intro key
        show isActive (((world.setDevice () _).devices ()).profile.favorites.get key) = _
        rw [setDevice_unit]
        exact inv.intent key
      · show Settled later account.userId ((world.setDevice () _).devices ()).profile
        rw [setDevice_unit]
        exact inv.settled.pushed shape sent alone looped
      · show WorkerAlone later account.userId ((world.setDevice () _).devices ()).profile
          ((world.setDevice () _).devices ()).worker
        rw [setDevice_unit]
        refine ⟨?_, nofun⟩
        rintro other ⟨⟩
        obtain ⟨-, stored, -⟩ := Server.pushLoop_stored request world.server later _ changed
          inv.linked.server.processed looped
        rw [List.forall₂_iff_zip]
        exact ⟨(Server.pushLoop_length request world.server later _ changed looped).symm,
          fun member => stored _ member⟩

theorem SoloInv.work {account : Account} {world next : World φ Unit} {job : Job}
    (inv : SoloInv account world) (safe : keepsIntent account world (.work () job) = true)
    (taken : work account world () job = some next) : SoloInv account next := by
  have linked := inv.linked.work taken
  have shape := (inv.linked.device ()).shape
  unfold System.work at taken
  dsimp only at taken
  split at taken
  · -- readBatch
    split at taken
    · cases taken
      exact inv
    · rename_i events read
      cases taken
      refine inv.setDevice _ _ linked rfl rfl rfl (setDevice_unit world _) inv.settled
        (fun _ => rfl) ?_
      intro event member favorite
      obtain ⟨-, stored, -⟩ := readyOutboxEvents_ok read
      have here := (stored event member).1
      rw [((held_of_stored shape here).favorite favorite).1] at here
      refine ⟨fun idle => ?_, fun row found apart => ?_⟩
      · rw [here] at idle
        cases idle
      · rw [here] at found
        cases found
        exact absurd rfl apart
    · cases taken
      exact inv
  · -- buildBatch
    rename_i events waiting
    have alone := inv.worker
    rw [waiting] at alone
    split at taken
    · rename_i request built
      cases taken
      refine inv.setDevice _ _ linked rfl rfl rfl (setDevice_unit world _) inv.settled
        (fun _ => rfl) ?_
      intro event member favorite
      refine ⟨alone event member favorite, fun idle => ?_⟩
      -- An upsert is only built for an active content, and this one is not.
      obtain ⟨sent, -, success⟩ :=
        Transaction.related_of_mem_left (buildEvents_ok events request built) event member
      obtain ⟨found, snapshot, looked, rendered, -, -⟩ := pushEvent_ok success
      cases operation : event.operation with
      | favoriteDelete => rfl
      | queryStatsUpsert =>
          rw [operation] at favorite
          cases favorite
      | favoriteUpsert =>
          rw [operation] at rendered
          obtain ⟨value, rfl, active, -⟩ := sentSnapshot_upsert rendered
          rcases favoriteTx_ok looked with ⟨-, impossible⟩ | ⟨row, parsed, stored, reading, same⟩
          · cases impossible
          · cases same
            have inactive := (alone event member favorite).gone idle
            rw [(readFavorite_ok reading).1] at active
            simp [isActive, stored, active] at inactive
    · cases taken
      exact inv.setDevice _ _ linked rfl rfl rfl (setDevice_unit world _) inv.settled
        (fun _ => rfl) trivial
  · -- serverPush
    rename_i now events request waiting
    cases taken
    exact inv.serverPush waiting rfl
  · -- receive
    rename_i now events request reply waiting
    have worker := inv.linked.worker ()
    have alone := inv.worker
    rw [waiting] at worker alone
    cases taken
    have safe : settlesCurrent ⟨(world.devices ()).profile, .answered events request reply⟩ =
        true := by
      have before : settlesCurrent (world.devices ()) = true := safe
      rw [← waiting]
      exact before
    obtain ⟨settled, active⟩ := inv.settled.settleReply (inv.linked.device ()) worker alone safe
    exact inv.setDevice _ _ linked rfl rfl rfl (setDevice_unit world _) settled active trivial
  · -- lose, before the server ran the request
    rename_i now events request waiting
    cases taken
    exact inv.setDevice ⟨(Desktop.retryLater (world.devices ()).profile events now).1, .idle⟩ _
      linked rfl rfl rfl (setDevice_unit world _) (inv.settled.retryLater events now)
      (fun key => by rw [(retryLater_favorites _ _ _).1]) trivial
  · -- lose, after it answered
    cases taken
    exact inv.setDevice _ _ linked rfl rfl rfl (setDevice_unit world _)
      (inv.settled.retryLater _ _)
      (fun key => by rw [(retryLater_favorites _ _ _).1]) trivial
  · -- abandon
    cases taken
    exact inv.setDevice _ _ linked rfl rfl rfl (setDevice_unit world _) inv.settled
      (fun _ => rfl) trivial
  · -- requestChanges
    split at taken
    · rename_i page answered
      cases taken
      obtain ⟨latest, known, low⟩ := (inv.linked.device ()).cursor
      have facts := Server.changesSince_facts inv.linked.server.log known low
        (Server.changes_ok answered)
      exact inv.setDevice _ _ linked rfl rfl rfl (setDevice_unit world _) inv.settled
        (fun _ => rfl) facts.current
    · cases taken
      exact inv
  · -- applyPage
    rename_i now page waiting
    have alone := inv.worker
    rw [waiting] at alone
    cases taken
    have outcome : Settled world.server account.userId
          (applyRemotePage (world.devices ()).profile page.changes page.nextRevision now).1 ∧
        ∀ key, isActive ((applyRemotePage (world.devices ()).profile page.changes
            page.nextRevision now).1.favorites.get key) =
          isActive ((world.devices ()).profile.favorites.get key) := by
      unfold applyRemotePage
      cases body : applyRemotePageBody page.changes page.nextRevision now
          (world.devices ()).profile with
      | error reason =>
          rw [Transaction.atomically_of_error body]
          exact ⟨inv.settled, fun _ => rfl⟩
      | ok pair =>
          obtain ⟨last, done⟩ := pair
          rw [Transaction.atomically_of_ok body]
          exact inv.settled.page shape alone body
    exact inv.setDevice _ _ linked rfl rfl rfl (setDevice_unit world _) outcome.1 outcome.2 trivial
  · cases taken

theorem SoloInv.step {account : Account} {world next : World φ Unit} {action : Action Unit}
    (inv : SoloInv account world) (given : listed action = true)
    (safe : keepsIntent account world action = true)
    (taken : step account world action = some next) : SoloInv account next := by
  have linked := inv.linked.step taken
  cases action with
  | call device call =>
      unfold System.step at taken
      dsimp only at taken
      split at taken
      · rename_i allowed
        cases taken
        exact inv.call given safe allowed linked rfl rfl (setDevice_unit world _) rfl
      · cases taken
  | work device job => exact inv.work safe taken
  | latePush deviceId request now => cases given
  | patch contentKey active baseEntityRevision now => cases given

/-- In every run whose steps all keep the intents, the last intent wins in every
state reached. -/
theorem lastIntent_wins (account : Account) (devices : List (String × String))
    (profileId : Unit → Uuid) (deviceId : Unit → String) (now : Int) (actions : List (Action Unit))
    (last : World φ Unit)
    (meets : Transition.Meets (System.step account)
      (fun (world : World φ Unit) action =>
        listed action = true ∧ keepsIntent account world action = true)
      (World.initial account devices profileId deviceId now) actions)
    (reached : Transition.run (System.step account)
      (World.initial account devices profileId deviceId now) actions = some last) :
    LastIntentWins account last := by
  have keeps : ∀ (world : World φ Unit) (action : Action Unit) (next : World φ Unit),
      SoloInv account world →
      listed action = true ∧ keepsIntent account world action = true →
      System.step account world action = some next → SoloInv account next :=
    fun _ _ _ here condition taken => here.step condition.1 condition.2 taken
  have inv := Transition.run_keeps_of_meets keeps actions _ _
    (SoloInv.initial account devices profileId deviceId now) meets reached
  intro sent pulled key intent stated
  have active := inv.intent key
  rw [stated, Option.getD_some] at active
  refine ⟨active, ?_⟩
  rw [← active]
  refine inv.settled.idle key ?_
  simp [Relational.Table.get, sent]

end Steps

section Runs

attribute [local instance] Sample.tables Sample.parser

/-- The word is favorited and its event committed; the user takes it back. -/
def takenBackInFlight : List (Action Unit) :=
  [.call () (.query (Sample.gift 100) (Sample.eventId 1)),
    .call () (.favorite Sample.giftKey 101 (Sample.eventId 2)),
    .work () (.readBatch 102 100), .work () .buildBatch, .work () (.serverPush 103),
    .call () (.unfavorite Sample.giftKey 104 (Sample.eventId 3)), .work () (.receive 105),
    .work () (.requestChanges 200), .work () (.applyPage 106)]

/-- The same calls with the acknowledgement in between. -/
def takenBackLater : List (Action Unit) :=
  [.call () (.query (Sample.gift 100) (Sample.eventId 1)),
    .call () (.favorite Sample.giftKey 101 (Sample.eventId 2)),
    .work () (.readBatch 102 100), .work () .buildBatch, .work () (.serverPush 103),
    .work () (.receive 104), .call () (.unfavorite Sample.giftKey 105 (Sample.eventId 3)),
    .work () (.readBatch 106 100), .work () .buildBatch, .work () (.serverPush 107),
    .work () (.receive 108), .work () (.requestChanges 200), .work () (.applyPage 109)]

/-- What is evaluated of both runs. -/
theorem takenBack_runs :
    (Transition.run (System.step Sample.account) Sample.desk takenBackInFlight).any (fun last =>
      (last.devices ()).profile.syncOutbox.rows = [] &&
        last.server.users.get "user" =
          some (last.devices ()).profile.profileMeta.lastServerRevision &&
        lastIntent last.calls Sample.giftKey = some false &&
        isActive ((last.devices ()).profile.favorites.get Sample.giftKey)) = true ∧
    (Transition.run (System.step Sample.account) Sample.desk takenBackLater).any (fun last =>
      (last.devices ()).profile.syncOutbox.rows = [] &&
        lastIntent last.calls Sample.giftKey = some false) = true ∧
    Transition.Meets (System.step Sample.account) (fun world action =>
      listed action = true ∧ keepsIntent Sample.account world action = true) Sample.desk
      takenBackLater := by
  decide +kernel

/-- The word is favorited and its event committed; the user takes it back before
the acknowledgement arrives. The call folds the intent away, and the next pull
makes the word active again. -/
theorem unfavorite_in_flight_is_undone :
    ∃ (actions : List (Action Unit)) (last : World PushEvent Unit),
      actions.all listed = true ∧
      Transition.run (System.step Sample.account) Sample.desk actions = some last ∧
      ¬ LastIntentWins Sample.account last := by
  obtain ⟨last, reached, holds⟩ := (Option.any_eq_true _ _).mp takenBack_runs.1
  simp only [Bool.and_eq_true, decide_eq_true_eq] at holds
  refine ⟨_, last, by rfl, reached, fun wins => ?_⟩
  have shown := (wins holds.1.1.1 holds.1.1.2 Sample.giftKey false holds.1.2).1
  rw [holds.2] at shown
  cases shown

/-- The same calls with the acknowledgement in between. -/
theorem lastIntent_wins_gift : ∃ last : World PushEvent Unit,
    Transition.run (System.step Sample.account) Sample.desk
      [.call () (.query (Sample.gift 100) (Sample.eventId 1)),
        .call () (.favorite Sample.giftKey 101 (Sample.eventId 2)),
        .work () (.readBatch 102 100), .work () .buildBatch, .work () (.serverPush 103),
        .work () (.receive 104), .call () (.unfavorite Sample.giftKey 105 (Sample.eventId 3)),
        .work () (.readBatch 106 100), .work () .buildBatch, .work () (.serverPush 107),
        .work () (.receive 108), .work () (.requestChanges 200),
        .work () (.applyPage 109)] = some last ∧
    (last.devices ()).profile.syncOutbox.rows = [] ∧
    lastIntent last.calls Sample.giftKey = some false ∧ LastIntentWins Sample.account last := by
  obtain ⟨-, facts, meets⟩ := takenBack_runs
  obtain ⟨last, reached, holds⟩ := (Option.any_eq_true _ _).mp facts
  simp only [Bool.and_eq_true, decide_eq_true_eq] at holds
  exact ⟨last, reached, holds.1, holds.2, lastIntent_wins _ _ _ _ _ _ last meets reached⟩

end Runs

end Lvos.System
