import Lvos.System.CatchUp
import Lvos.System.Cycles

set_option autoImplicit false

namespace Lvos.System

open Lvos.Core Lvos.Sync Lvos.Storage
open Lvos.Server (ServerDb ServerInv EventFingerprint UuidParser)
open Desktop (SessionError EngineResult PushDisposition)

variable {φ : Type}

/-! The sync worker of one Device with everything that wakes it: the revision hub of the
server, the stream the Device reads it from, the supervisor of the stream, and the user. -/

/-- The capacity of the broadcast channel of an account. -/
def sseBufferSize : Nat := 64

/-- The capacity of the channel between the stream and its supervisor. -/
def streamEventCapacity : Nat := 8

inductive RevisionStreamEvent
  | connected
  | revision (latest : Nat)
deriving DecidableEq, Repr

/-- The stream of the Device on the server, with the revisions its receiver has not read. -/
inductive RevisionStream
  | closed
  | subscribed (unread : List Nat)
  | answered (unread : List Nat)
deriving DecidableEq, Repr

/-- A broadcast: a receiver that lags loses its oldest values. -/
def broadcast (unread : List Nat) (revision : Nat) : List Nat :=
  (unread ++ [revision]).drop (unread.length + 1 - sseBufferSize)

/-- `RevisionHub::notify`, as the receiver of the Device sees it. -/
def RevisionStream.notify (revision : Nat) : RevisionStream → RevisionStream
  | .closed => .closed
  | .subscribed unread => .subscribed (broadcast unread revision)
  | .answered unread => .answered (broadcast unread revision)

/-- The server with its committed requests that have not notified the hub, the stream and the
channel of its events, the one slot of the wake channel and the last wake the worker took,
the worker, and the page on its way to it. A wake is kept as the account's revision at the
moment it was put in the slot. -/
structure Watch (φ : Type) where
  server : ServerDb φ
  unnotified : List Nat
  stream : RevisionStream
  events : List RevisionStreamEvent
  wake : Option Nat
  consumed : Option Nat
  runner : Runner
  page : Option ChangesResponse

inductive WatchAction
  | worker (action : RunnerAction)
  | push (deviceId : String) (request : List PushEvent) (now : Int)
  | setFavoriteState (contentKey : String) (active : Bool) (baseEntityRevision : Nat) (now : Int)
  | notify (revision : Nat)
  | subscribe
  | answerStream
  | deliver
  | disconnect
  | supervise
  | wake
  | takeWake
  | readPage (limit : Nat)
  | receivePage
  | failPage (error : SessionError)

/-- The account's `sync_revision`. -/
def syncRevision (server : ServerDb φ) (userId : String) : Nat :=
  (server.users.get userId).getD 0

/-- `try_send` on the wake channel: a full slot stays as it is. -/
def Watch.tryWake (userId : String) (watch : Watch φ) : Watch φ :=
  { watch with wake := watch.wake.or (some (syncRevision watch.server userId)) }

section Step

variable [DecidableEq φ] [EventFingerprint φ] [ContentTables] [UuidParser]

/-- The revision the push endpoint hands to `notify`. -/
def changedRevision (account : Account) (server : ServerDb φ) (deviceId : String)
    (request : List PushEvent) (now : Int) : Option Nat :=
  match (Server.push account.maxSyncEventsPerBatch server account.userId deviceId request now).2,
      (Server.pushEvents server account.userId deviceId request now).2 with
  | .ok _, .ok result => result.changedRevision
  | _, _ => none

def watchStep (account : Account) (pushBatch : Nat) (watch : Watch φ) :
    WatchAction → Option (Watch φ)
  | .worker (.paged _) | .worker .wake | .worker .restart => none
  | .worker action =>
      (runnerStep pushBatch watch.runner action).map (fun runner => { watch with runner := runner })
  | .push deviceId request now =>
      some { watch with
        server := (Server.push account.maxSyncEventsPerBatch watch.server account.userId deviceId
          request now).1
        unnotified := watch.unnotified ++
          (changedRevision account watch.server deviceId request now).toList }
  | .setFavoriteState contentKey active baseEntityRevision now =>
      match Server.validateContentKey contentKey with
      | .error _ => some watch
      | .ok _ =>
          let outcome := Server.setFavoriteState watch.server account.userId contentKey active
            baseEntityRevision now
          some { watch with
            server := outcome.1
            unnotified := watch.unnotified ++
              match outcome.2 with
              | .ok result => result.changedRevision.toList
              | .error _ => [] }
  | .notify revision =>
      if revision ∈ watch.unnotified then
        some { watch with
          unnotified := watch.unnotified.erase revision
          stream := watch.stream.notify revision }
      else none
  | .subscribe =>
      match watch.stream with
      | .closed => some { watch with stream := .subscribed [] }
      | _ => none
  | .answerStream =>
      match watch.stream with
      | .subscribed unread =>
          if watch.events.length < streamEventCapacity then
            some { watch with
              stream := .answered (syncRevision watch.server account.userId :: unread)
              events := watch.events ++ [.connected] }
          else none
      | _ => none
  | .deliver =>
      match watch.stream with
      | .answered (revision :: unread) =>
          if watch.events.length < streamEventCapacity then
            some { watch with
              stream := .answered unread
              events := watch.events ++ [.revision revision] }
          else none
      | _ => none
  | .disconnect => some { watch with stream := .closed }
  | .supervise =>
      match watch.events with
      | [] => none
      | _ :: rest => some ({ watch with events := rest }.tryWake account.userId)
  | .wake => some (watch.tryWake account.userId)
  | .takeWake =>
      match watch.wake with
      | none => none
      | some revision =>
          (runnerStep pushBatch watch.runner .wake).map (fun runner =>
            { watch with runner := runner, wake := none, consumed := some revision })
  | .readPage limit =>
      match watch.runner.phase, watch.page with
      | .pulling _, none =>
          match Server.changes account.syncChangesMaxLimit watch.server account.userId
              (cursorOf watch.runner.profile) limit with
          | .ok page => some { watch with page := some page }
          | .error _ => none
      | _, _ => none
  | .receivePage =>
      match watch.page with
      | none => none
      | some page =>
          (runnerStep pushBatch watch.runner (.paged (.ok page))).map (fun runner =>
            { watch with runner := runner, page := none })
  | .failPage error =>
      (runnerStep pushBatch watch.runner (.paged (.error error))).map (fun runner =>
        { watch with runner := runner, page := none })

end Step

/-- A new worker of a profile that has not synchronized yet. -/
def Watch.initial (account : Account) (devices : List (String × String)) (profileId : Uuid)
    (deviceId : String) (now : Int) : Watch φ where
  server := ServerDb.initial [account.userId] devices
  unnotified := []
  stream := .closed
  events := []
  wake := none
  consumed := none
  runner := Runner.initial profileId deviceId now
  page := none

/-- The cursor has reached the revision the last wake was about. -/
def Watch.reached (watch : Watch φ) : Bool :=
  watch.consumed.all (fun revision => revision ≤ cursorOf watch.runner.profile)

/-- A worker that waits for nothing but a wake has pulled what the last one was about. -/
def NoPullMissed (watch : Watch φ) : Prop :=
  ∀ cycle, watch.runner.phase = .waiting none cycle → watch.wake = none → watch.reached = true

/-- The condition on one step: while the cursor is below the last wake's revision, no pull of
a batch that was not full is answered offline, and no conflict is left to the user. -/
def pullsThrough (pushBatch : Nat) (watch : Watch φ) : WatchAction → Bool
  | .failPage error =>
      match watch.runner.phase with
      | .pulling cycle => !Desktop.isOffline error || isFull pushBatch cycle || watch.reached
      | _ => true
  | .worker (.pushed (.error (.transport (.conflict conflict)))) =>
      match watch.runner.phase with
      | .sending cycle _ =>
          match Desktop.conflictedEvent cycle.events conflict with
          | none => true
          | some event =>
              match (resolveConflict watch.runner.profile event conflict.current cycle.now).2 with
              | .ok .manualRetryRequired => watch.reached
              | _ => true
      | _ => true
  | _ => true

section Worker

variable [ContentTables] {db next : ProfileDb} {now : Int}

theorem Call.perform_cursor (call : Call) (db : ProfileDb) :
    cursorOf (call.perform db) = cursorOf db := by
  refine @Call.perform_keeps _ (fun later => cursorOf later = cursorOf db) call db rfl ?_ ?_
  · intro entry eventId later same move
    unfold cursorOf
    rw [move.profileMeta]
  · intro silent before later holds move
    rw [← holds]
    unfold cursorOf
    rw [move.profileMeta]

/-- A turn of `pull_all` after which the pull has returned. -/
theorem pullPage_ends {reply : PageReply} (ends : Desktop.pullPage db reply now = (next, .ok false)) :
    (∃ page, reply = .ok page ∧ page.hasMore = false ∧ cursorOf next = page.nextRevision) ∨
      (∃ error, reply = .error error ∧ Desktop.isOffline error = true ∧
        cursorOf next = cursorOf db) := by
  unfold Desktop.pullPage at ends
  split at ends
  · rename_i error
    split at ends
    · rename_i offline
      cases ends
      exact Or.inr ⟨error, rfl, offline, rfl⟩
    · cases ends
  · rename_i page
    split at ends
    · cases ends
    · rename_i after outcome
      split at ends
      · rename_i last
        cases ends
        exact Or.inl ⟨page, rfl, by simpa using last, (applyRemotePage_cursor outcome).1⟩
      · split at ends
        · cases ends
        · cases ends

omit [ContentTables] in
/-- A push that leaves its conflict to the user. -/
theorem settlePush_manual {events : List OutboxEvent} {sent : List PushEvent}
    {reply : Except SessionError PushResponse}
    (manual : Desktop.settlePush db events sent reply now = (next, .ok .manualConflict)) :
    ∃ conflict event, reply = .error (.transport (.conflict conflict)) ∧
      Desktop.conflictedEvent events conflict = some event ∧
      (resolveConflict db event conflict.current now).2 = .ok .manualRetryRequired ∧
      cursorOf next = cursorOf db := by
  unfold Desktop.settlePush at manual
  split at manual
  · split at manual
    · cases manual
    · unfold Desktop.fromDatabase at manual
      split at manual
      · cases manual
      · cases manual
  · rename_i conflict
    split at manual
    · cases manual
    · rename_i event chosen
      have cursor := (resolveConflict_profileMeta event conflict.current now db).2
      refine ⟨conflict, event, rfl, chosen, ?_⟩
      unfold Desktop.fromDatabase at manual
      split at manual
      · rename_i after resolution resolved
        cases resolution with
        | converged => cases manual
        | replayPrepared => cases manual
        | manualRetryRequired =>
            cases manual
            rw [resolved] at cursor ⊢
            exact ⟨rfl, cursor⟩
      · cases manual
  · split at manual
    · obtain ⟨retryAt, impossible⟩ := Desktop.retryLater_delays manual
      cases impossible
    · split at manual
      · cases manual
      · cases manual

/-- The ways into the wait without a deadline. -/
inductive EntersWait (pushBatch : Nat) (runner next : Runner) : RunnerAction → Prop
  | stays (call : Call) (cycle : Cycle) (waited : runner.phase = .waiting none cycle)
      (cursor : cursorOf next.profile = cursorOf runner.profile) :
      EntersWait pushBatch runner next (.call call)
  | refused (cycle : Cycle) (request : List PushEvent) (conflict : Server.SyncConflict)
      (event : OutboxEvent) (sent : runner.phase = .sending cycle request)
      (chosen : Desktop.conflictedEvent cycle.events conflict = some event)
      (manual : (resolveConflict runner.profile event conflict.current cycle.now).2 =
        .ok .manualRetryRequired)
      (cursor : cursorOf next.profile = cursorOf runner.profile) :
      EntersWait pushBatch runner next (.pushed (.error (.transport (.conflict conflict))))
  | pulled (page : ChangesResponse) (complete : page.hasMore = false)
      (cursor : cursorOf next.profile = page.nextRevision) :
      EntersWait pushBatch runner next (.paged (.ok page))
  | offline (cycle : Cycle) (error : SessionError) (asked : runner.phase = .pulling cycle)
      (short : isFull pushBatch cycle = false) (failed : Desktop.isOffline error = true)
      (cursor : cursorOf next.profile = cursorOf runner.profile) :
      EntersWait pushBatch runner next (.paged (.error error))

theorem runnerStep_waits {pushBatch : Nat} {runner next : Runner} {action : RunnerAction}
    {cycle : Cycle} (taken : runnerStep pushBatch runner action = some next)
    (waits : next.phase = .waiting none cycle) : EntersWait pushBatch runner next action := by
  unfold runnerStep at taken
  split at taken
  · rename_i call
    split at taken
    · cases taken
      exact .stays call cycle waits (call.perform_cursor runner.profile)
    · cases taken
  · -- readBatch
    split at taken
    · cases taken
      cases waits
    · cases taken
      cases waits
    · cases taken
      cases waits
  · -- buildBatch
    split at taken
    · cases taken
      cases waits
    · cases taken
      cases waits
  · -- pushed
    rename_i reply during request sent
    dsimp only at taken
    cases taken
    cases outcome : Desktop.settlePush runner.profile during.events request reply during.now with
    | mk after disposition =>
        rw [outcome] at waits
        cases disposition with
        | error reason => cases waits
        | ok value =>
            cases value with
            | proceed => cases waits
            | replayPrepared => cases waits
            | retryAt timestamp => cases waits
            | halted reason => cases waits
            | manualConflict =>
                obtain ⟨conflict, event, rfl, chosen, manual, cursor⟩ := settlePush_manual outcome
                exact .refused during request conflict event sent chosen manual cursor
  · -- paged
    rename_i reply during asked
    dsimp only at taken
    cases taken
    cases outcome : Desktop.pullPage runner.profile reply during.now with
    | mk after result =>
        rw [outcome] at waits
        cases result with
        | error reason => cases waits
        | ok more =>
            cases more with
            | true => cases waits
            | false =>
                have short : isFull pushBatch during = false := by
                  unfold isFull
                  by_contra full
                  have length : during.events.length = pushBatch := by simpa using full
                  simp [Phase.afterPull, Phase.ofOutcome, length] at waits
                rcases pullPage_ends outcome with ⟨page, rfl, complete, cursor⟩ |
                  ⟨error, rfl, failed, cursor⟩
                · exact .pulled page complete cursor
                · exact .offline during error asked short failed cursor
  · cases taken
    cases waits
  · cases taken
    cases waits
  · cases taken
    cases waits
  · cases taken
    cases waits
  · cases taken

/-- While a page is awaited, only the user acts. -/
theorem runnerStep_pulling {pushBatch : Nat} {runner next : Runner} {action : RunnerAction}
    {cycle : Cycle} (taken : runnerStep pushBatch runner action = some next)
    (asked : runner.phase = .pulling cycle) :
    (∃ call, action = .call call ∧ next.phase = .pulling cycle) ∨
      ∃ reply, action = .paged reply := by
  cases action with
  | call call =>
      unfold runnerStep at taken
      dsimp only at taken
      split at taken
      · cases taken
        exact Or.inl ⟨call, rfl, asked⟩
      · cases taken
  | paged reply => exact Or.inr ⟨reply, rfl⟩
  | readBatch now => simp [runnerStep, asked] at taken
  | buildBatch => simp [runnerStep, asked] at taken
  | pushed reply => simp [runnerStep, asked] at taken
  | wake => simp [runnerStep, asked] at taken
  | deadline => simp [runnerStep, asked] at taken
  | cancel => simp [runnerStep, asked] at taken
  | restart => simp [runnerStep, asked] at taken

theorem runnerStep_wake {pushBatch : Nat} {runner next : Runner}
    (taken : runnerStep pushBatch runner .wake = some next) :
    ∃ retryAt cycle, runner.phase = .waiting retryAt cycle ∧
      next = { runner with phase := .starting } := by
  cases stands : runner.phase with
  | waiting retryAt cycle =>
      simp only [runnerStep, stands, Option.some.injEq] at taken
      exact ⟨retryAt, cycle, rfl, taken.symm⟩
  | starting => simp [runnerStep, stands] at taken
  | building cycle => simp [runnerStep, stands] at taken
  | sending cycle request => simp [runnerStep, stands] at taken
  | pulling cycle => simp [runnerStep, stands] at taken
  | stopped => simp [runnerStep, stands] at taken

end Worker

section Runs

variable [EventFingerprint φ] {account : Account} {pushBatch : Nat} {watch next : Watch φ}

/-- No wake is about a revision the account has not reached; a page was read after the last
wake was taken; and a worker that waits without a deadline has pulled. -/
structure WatchInv (account : Account) (watch : Watch φ) : Prop where
  server : ServerInv watch.server
  known : ∃ latest, watch.server.users.get account.userId = some latest ∧
    (∀ revision, watch.wake = some revision → revision ≤ latest) ∧
    (∀ revision, watch.consumed = some revision → revision ≤ latest)
  page : ∀ page, watch.page = some page → (∃ cycle, watch.runner.phase = .pulling cycle) ∧
    (∀ revision, watch.consumed = some revision → revision ≤ page.latestRevision) ∧
    (page.hasMore = false → page.latestRevision ≤ page.nextRevision)
  waiting : ∀ cycle, watch.runner.phase = .waiting none cycle → watch.reached = true

omit [EventFingerprint φ] in
theorem Watch.reached_iff : watch.reached = true ↔
    ∀ revision, watch.consumed = some revision → revision ≤ cursorOf watch.runner.profile := by
  unfold Watch.reached
  rw [Option.all_eq_true]
  simp

/-- A request of anyone. -/
theorem WatchInv.served (inv : WatchInv account watch) {later : ServerDb φ}
    (serverInv : ServerInv later) (evolves : Server.Evolves account.userId watch.server later)
    (unnotified : List Nat) :
    WatchInv account { watch with server := later, unnotified := unnotified } := by
  obtain ⟨latest, known, wakes, consumed⟩ := inv.known
  obtain ⟨top, there, below⟩ := evolves.users latest known
  exact ⟨serverInv, ⟨top, there, fun revision filled => Nat.le_trans (wakes revision filled) below,
    fun revision taken => Nat.le_trans (consumed revision taken) below⟩, inv.page, inv.waiting⟩

theorem WatchInv.tryWake (inv : WatchInv account watch) :
    WatchInv account (watch.tryWake account.userId) := by
  obtain ⟨latest, known, wakes, consumed⟩ := inv.known
  refine ⟨inv.server, ⟨latest, known, ?_, consumed⟩, inv.page, inv.waiting⟩
  intro revision filled
  unfold Watch.tryWake at filled
  dsimp only at filled
  cases slot : watch.wake with
  | none =>
      rw [slot, Option.none_or] at filled
      rw [← Option.some.inj filled, syncRevision, known]
      exact Nat.le_refl latest
  | some held =>
      rw [slot, Option.some_or] at filled
      exact wakes revision (slot.trans filled)

section Steps

variable [ContentTables]

omit [ContentTables] in
/-- A turn of the worker that leaves the wakes alone. -/
theorem WatchInv.turn (inv : WatchInv account watch) {runner : Runner}
    {page : Option ChangesResponse}
    (carried : ∀ value, page = some value → watch.page = some value ∧
      ∃ cycle, runner.phase = .pulling cycle)
    (waits : ∀ cycle, runner.phase = .waiting none cycle → ∀ revision,
      watch.consumed = some revision → revision ≤ cursorOf runner.profile) :
    WatchInv account { watch with runner := runner, page := page } := by
  refine ⟨inv.server, inv.known, ?_, ?_⟩
  · intro value here
    obtain ⟨before, asked⟩ := carried value here
    obtain ⟨-, newer, complete⟩ := inv.page value before
    exact ⟨asked, newer, complete⟩
  · intro cycle waiting
    exact Watch.reached_iff.mpr (waits cycle waiting)

/-- The worker's own jobs, with any answer to its push. -/
theorem WatchInv.worker (inv : WatchInv account watch) {action : RunnerAction} {runner : Runner}
    (through : pullsThrough pushBatch watch (.worker action) = true)
    (unpaged : ∀ reply, action ≠ .paged reply)
    (taken : runnerStep pushBatch watch.runner action = some runner) :
    WatchInv account { watch with runner := runner } := by
  refine inv.turn ?_ ?_
  · intro page here
    obtain ⟨⟨cycle, asked⟩, -⟩ := inv.page page here
    rcases runnerStep_pulling taken asked with ⟨call, -, still⟩ | ⟨reply, paged⟩
    · exact ⟨here, cycle, still⟩
    · exact absurd paged (unpaged reply)
  · intro cycle waiting revision consumed
    cases runnerStep_waits taken waiting with
    | stays call before waited cursor =>
        rw [cursor]
        exact Watch.reached_iff.mp (inv.waiting before waited) revision consumed
    | refused during request conflict event sent chosen manual cursor =>
        rw [cursor]
        simp only [pullsThrough, sent, chosen, manual] at through
        exact Watch.reached_iff.mp through revision consumed
    | pulled page => exact absurd rfl (unpaged _)
    | offline during error => exact absurd rfl (unpaged _)

theorem WatchInv.takeWake (inv : WatchInv account watch) {runner : Runner} {revision : Nat}
    (filled : watch.wake = some revision)
    (taken : runnerStep pushBatch watch.runner .wake = some runner) :
    WatchInv account
      { watch with runner := runner, wake := none, consumed := some revision } := by
  obtain ⟨latest, known, wakes, -⟩ := inv.known
  obtain ⟨retryAt, cycle, waited, rfl⟩ := runnerStep_wake taken
  refine ⟨inv.server, ⟨latest, known, by simp, ?_⟩, ?_, ?_⟩
  · intro other same
    rw [← Option.some.inj same]
    exact wakes revision filled
  · intro page here
    obtain ⟨⟨during, asked⟩, -⟩ := inv.page page here
    rw [waited] at asked
    cases asked
  · intro during impossible
    cases impossible

omit [ContentTables] in
/-- The page is read after the last wake was taken. -/
theorem WatchInv.readPage (inv : WatchInv account watch) {limit : Nat} {page : ChangesResponse}
    {cycle : Cycle} (asked : watch.runner.phase = .pulling cycle)
    (answered : Server.changes account.syncChangesMaxLimit watch.server account.userId
      (cursorOf watch.runner.profile) limit = .ok page) :
    WatchInv account { watch with page := some page } := by
  obtain ⟨latest, known, wakes, consumed⟩ := inv.known
  have numbers := changesSince_numbers inv.server.log known (Server.changes_ok answered)
  refine ⟨inv.server, ⟨latest, known, wakes, consumed⟩, ?_, inv.waiting⟩
  rintro value ⟨⟩
  refine ⟨⟨cycle, asked⟩, ?_, ?_⟩
  · rw [numbers.newest]
    exact consumed
  · intro complete
    rw [numbers.more, decide_eq_false_iff_not] at complete
    rw [numbers.newest]
    omega

theorem WatchInv.receivePage (inv : WatchInv account watch) {runner : Runner}
    {page : ChangesResponse} (here : watch.page = some page)
    (taken : runnerStep pushBatch watch.runner (.paged (.ok page)) = some runner) :
    WatchInv account { watch with runner := runner, page := none } := by
  obtain ⟨-, newer, complete⟩ := inv.page page here
  refine inv.turn (fun _ impossible => by cases impossible) ?_
  intro cycle waiting revision consumed
  cases runnerStep_waits taken waiting with
  | pulled _ last cursor =>
      rw [cursor]
      exact Nat.le_trans (newer revision consumed) (complete last)

theorem WatchInv.failPage (inv : WatchInv account watch) {runner : Runner} {error : SessionError}
    (through : pullsThrough pushBatch watch (.failPage error) = true)
    (taken : runnerStep pushBatch watch.runner (.paged (.error error)) = some runner) :
    WatchInv account { watch with runner := runner, page := none } := by
  refine inv.turn (fun _ impossible => by cases impossible) ?_
  intro cycle waiting revision consumed
  cases runnerStep_waits taken waiting with
  | offline during _ asked short failed cursor =>
      simp only [pullsThrough, asked, failed, short, Bool.not_true, Bool.or_self,
        Bool.false_or] at through
      rw [cursor]
      exact Watch.reached_iff.mp through revision consumed

variable [DecidableEq φ] [UuidParser]

theorem WatchInv.step (inv : WatchInv account watch) {action : WatchAction}
    (through : pullsThrough pushBatch watch action = true)
    (taken : watchStep account pushBatch watch action = some next) : WatchInv account next := by
  cases action with
  | worker action =>
      have turned : ∀ runner, (∀ reply, action ≠ .paged reply) →
          runnerStep pushBatch watch.runner action = some runner →
          { watch with runner := runner } = next → WatchInv account next := by
        rintro runner unpaged turned rfl
        exact inv.worker through unpaged turned
      cases action with
      | paged reply => cases taken
      | wake => cases taken
      | restart => cases taken
      | call call =>
          obtain ⟨runner, moved, same⟩ := Option.map_eq_some_iff.mp taken
          exact turned runner (by simp) moved same
      | readBatch now =>
          obtain ⟨runner, moved, same⟩ := Option.map_eq_some_iff.mp taken
          exact turned runner (by simp) moved same
      | buildBatch =>
          obtain ⟨runner, moved, same⟩ := Option.map_eq_some_iff.mp taken
          exact turned runner (by simp) moved same
      | pushed reply =>
          obtain ⟨runner, moved, same⟩ := Option.map_eq_some_iff.mp taken
          exact turned runner (by simp) moved same
      | deadline =>
          obtain ⟨runner, moved, same⟩ := Option.map_eq_some_iff.mp taken
          exact turned runner (by simp) moved same
      | cancel =>
          obtain ⟨runner, moved, same⟩ := Option.map_eq_some_iff.mp taken
          exact turned runner (by simp) moved same
  | push deviceId request now =>
      cases taken
      obtain ⟨serverInv, evolves⟩ := Server.push_evolves account.maxSyncEventsPerBatch
        account.userId deviceId request now account.userId inv.server
      exact inv.served serverInv evolves _
  | setFavoriteState contentKey active baseEntityRevision now =>
      unfold watchStep at taken
      dsimp only at taken
      split at taken
      · cases taken
        exact inv
      · cases taken
        obtain ⟨serverInv, evolves⟩ := Server.patch_evolves account.userId contentKey active
          baseEntityRevision now account.userId inv.server
        exact inv.served serverInv evolves _
  | notify revision =>
      unfold watchStep at taken
      dsimp only at taken
      split at taken
      · cases taken
        exact ⟨inv.server, inv.known, inv.page, inv.waiting⟩
      · cases taken
  | subscribe =>
      unfold watchStep at taken
      dsimp only at taken
      split at taken
      · cases taken
        exact ⟨inv.server, inv.known, inv.page, inv.waiting⟩
      · cases taken
  | answerStream =>
      unfold watchStep at taken
      dsimp only at taken
      split at taken
      · split at taken
        · cases taken
          exact ⟨inv.server, inv.known, inv.page, inv.waiting⟩
        · cases taken
      · cases taken
  | deliver =>
      unfold watchStep at taken
      dsimp only at taken
      split at taken
      · split at taken
        · cases taken
          exact ⟨inv.server, inv.known, inv.page, inv.waiting⟩
        · cases taken
      · cases taken
  | disconnect =>
      cases taken
      exact ⟨inv.server, inv.known, inv.page, inv.waiting⟩
  | supervise =>
      unfold watchStep at taken
      dsimp only at taken
      split at taken
      · cases taken
      · rename_i event rest queued
        cases taken
        have kept : WatchInv account { watch with events := rest } :=
          ⟨inv.server, inv.known, inv.page, inv.waiting⟩
        exact kept.tryWake
  | wake =>
      cases taken
      exact inv.tryWake
  | takeWake =>
      unfold watchStep at taken
      dsimp only at taken
      split at taken
      · cases taken
      · rename_i revision filled
        obtain ⟨runner, moved, rfl⟩ := Option.map_eq_some_iff.mp taken
        exact inv.takeWake filled moved
  | readPage limit =>
      unfold watchStep at taken
      dsimp only at taken
      split at taken
      · rename_i cycle asked free
        split at taken
        · rename_i page answered
          cases taken
          exact inv.readPage asked answered
        · cases taken
      · cases taken
  | receivePage =>
      unfold watchStep at taken
      dsimp only at taken
      split at taken
      · cases taken
      · rename_i page here
        obtain ⟨runner, moved, rfl⟩ := Option.map_eq_some_iff.mp taken
        exact inv.receivePage here moved
  | failPage error =>
      obtain ⟨runner, moved, rfl⟩ := Option.map_eq_some_iff.mp taken
      exact inv.failPage through moved

end Steps

theorem WatchInv.initial (account : Account) (devices : List (String × String)) (profileId : Uuid)
    (deviceId : String) (now : Int) :
    WatchInv account (Watch.initial account devices profileId deviceId now : Watch φ) := by
  refine ⟨ServerInv.initial _ _, ⟨0, Relational.Table.get_put_self _ _ _, ?_, ?_⟩, ?_, ?_⟩
  · intro revision impossible
    cases impossible
  · intro revision impossible
    cases impossible
  · intro page impossible
    cases impossible
  · intro cycle impossible
    cases impossible

/-- In every run in which no pull is answered offline and no conflict is left to the user
while the last wake's revision has not been reached, the worker never waits for a wake
without having pulled up to the last one. -/
theorem no_pull_missed [DecidableEq φ] [ContentTables] [UuidParser] (account : Account)
    (devices : List (String × String)) (profileId : Uuid) (deviceId : String) (now : Int)
    (pushBatch : Nat) (actions : List WatchAction) (last : Watch φ)
    (meets : Transition.Meets (watchStep account pushBatch)
      (fun (watch : Watch φ) action => pullsThrough pushBatch watch action = true)
      (Watch.initial account devices profileId deviceId now) actions)
    (reached : Transition.run (watchStep account pushBatch)
      (Watch.initial account devices profileId deviceId now) actions = some last) :
    NoPullMissed last := by
  have inv := @Transition.run_keeps_of_meets _ _ (watchStep account pushBatch)
    (fun (watch : Watch φ) action => pullsThrough pushBatch watch action = true)
    (WatchInv account) (fun _ _ _ here through taken => here.step through taken) actions _ last
    (WatchInv.initial account devices profileId deviceId now) meets reached
  intro cycle waiting _
  exact inv.waiting cycle waiting

end Runs

section Witness

attribute [local instance] Sample.tables Sample.parser

/-- A worker that has pulled once and whose stream is connected. -/
def pulledOnce : List WatchAction :=
  [.worker (.readBatch 60), .readPage 200, .receivePage, .subscribe, .answerStream, .deliver,
    .supervise, .supervise, .takeWake, .worker (.readBatch 70), .readPage 200, .receivePage]

/-- Another Device favorites "gift"; its notice wakes the worker, which asks for the changes. -/
def noticed : List WatchAction :=
  pulledOnce ++
    [WatchAction.push "laptop" [giftPush (Sample.eventId 5).text 0 .favoriteUpsert] 80, .notify 1,
      .deliver, .supervise, .takeWake, .worker (.readBatch 81)]

/-- What is evaluated of the notice, with the request failing and with the page delivered. -/
theorem noticed_runs :
    (Transition.run (watchStep Sample.account 100)
      (Watch.initial Sample.account [("user", "desk"), ("user", "laptop")] (Sample.eventId 0)
        "desk" 50 : Watch PushEvent) (noticed ++ [WatchAction.failPage (.transport .offline)])).any
      (fun last => last.runner.phase.unscheduled.isSome && last.wake = none &&
        last.consumed = some 1 && cursorOf last.runner.profile = 0) = true ∧
    (Transition.run (watchStep Sample.account 100)
      (Watch.initial Sample.account [("user", "desk"), ("user", "laptop")] (Sample.eventId 0)
        "desk" 50 : Watch PushEvent) (noticed ++ [WatchAction.readPage 200, .receivePage])).any
      (fun last => last.runner.phase.unscheduled.isSome && last.wake = none &&
        last.consumed = some 1) = true ∧
    Transition.Meets (watchStep Sample.account 100)
      (fun watch action => pullsThrough 100 watch action = true)
      (Watch.initial Sample.account [("user", "desk"), ("user", "laptop")] (Sample.eventId 0)
        "desk" 50 : Watch PushEvent) (noticed ++ [WatchAction.readPage 200, .receivePage]) := by
  decide +kernel

/-- The request for the changes fails once: the worker waits for the next wake, one revision
behind. -/
theorem offline_pull_is_missed :
    ∃ last cycle,
      Transition.run (watchStep Sample.account 100)
        (Watch.initial Sample.account [("user", "desk"), ("user", "laptop")] (Sample.eventId 0)
          "desk" 50 : Watch PushEvent) (noticed ++ [.failPage (.transport .offline)]) =
        some last ∧
      last.runner.phase = .waiting none cycle ∧ last.wake = none ∧ last.consumed = some 1 ∧
      cursorOf last.runner.profile = 0 ∧ ¬ NoPullMissed last := by
  obtain ⟨last, ran, holds⟩ := (Option.any_eq_true _ _).mp noticed_runs.1
  simp only [Bool.and_eq_true, decide_eq_true_eq] at holds
  obtain ⟨⟨⟨waits, empty⟩, taken⟩, cursor⟩ := holds
  obtain ⟨cycle, waits⟩ := Option.isSome_iff_exists.mp waits
  have waiting := Phase.unscheduled_eq waits
  refine ⟨last, cycle, ran, waiting, empty, taken, cursor, ?_⟩
  intro none
  have pulled := none cycle waiting empty
  simp [Watch.reached, taken, cursor] at pulled

/-- The same notice with the page delivered. -/
theorem no_pull_missed_gift :
    ∃ last cycle,
      Transition.run (watchStep Sample.account 100)
        (Watch.initial Sample.account [("user", "desk"), ("user", "laptop")] (Sample.eventId 0)
          "desk" 50 : Watch PushEvent) (noticed ++ [.readPage 200, .receivePage]) = some last ∧
      last.runner.phase = .waiting none cycle ∧ last.wake = none ∧ last.consumed = some 1 ∧
      last.reached = true := by
  obtain ⟨-, facts, meets⟩ := noticed_runs
  obtain ⟨last, ran, holds⟩ := (Option.any_eq_true _ _).mp facts
  simp only [Bool.and_eq_true, decide_eq_true_eq] at holds
  obtain ⟨⟨waits, empty⟩, taken⟩ := holds
  obtain ⟨cycle, waits⟩ := Option.isSome_iff_exists.mp waits
  have waiting := Phase.unscheduled_eq waits
  exact ⟨last, cycle, ran, waiting, empty, taken,
    no_pull_missed Sample.account _ _ _ _ 100 _ last meets ran cycle waiting empty⟩

end Witness

end Lvos.System
