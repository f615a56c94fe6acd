import Lvos.Storage.Origins
import Lvos.System.Exchange

set_option autoImplicit false

namespace Lvos.System

open Lvos.Core Lvos.Sync Lvos.Storage
open Relational (Table)
open Desktop (SessionError EngineResult PushDisposition SyncRunOutcome)

/-- One `synchronize_once`: its time, the Outbox its batch was read from, and the
batch. -/
structure Cycle where
  now : Int
  outbox : Table CoalesceKey OutboxRow
  events : List OutboxEvent
deriving DecidableEq

/-- Where `run_cycles` stands; `retryAt` is its local variable. -/
inductive Phase
  | starting
  | building (cycle : Cycle)
  | sending (cycle : Cycle) (request : List PushEvent)
  | pulling (cycle : Cycle)
  | waiting (retryAt : Option Int) (cycle : Cycle)
  | stopped
deriving DecidableEq

/-- The cycle after which a worker waits with no retry of its own. -/
def Phase.unscheduled : Phase → Option Cycle
  | .waiting none cycle => some cycle
  | _ => none

theorem Phase.unscheduled_eq {phase : Phase} {cycle : Cycle}
    (waits : phase.unscheduled = some cycle) : phase = .waiting none cycle := by
  unfold unscheduled at waits
  split at waits
  · cases waits
    rfl
  · cases waits

structure Runner where
  profile : ProfileDb
  phase : Phase
  issued : List Uuid
deriving DecidableEq

/-- The database jobs of the worker and what it waits for, and the calls of the user
between them. The answers are any the session may return. -/
inductive RunnerAction
  | call (call : Call)
  | readBatch (now : Int)
  | buildBatch
  | pushed (reply : Except SessionError PushResponse)
  | paged (reply : Except SessionError ChangesResponse)
  | wake
  | deadline
  | cancel
  | restart

/-- The `match` of `run_cycles` on what a cycle returned. -/
def Phase.ofOutcome (cycle : Cycle) : SyncRunOutcome → Phase
  | .workRemaining => .starting
  | .retryAt timestamp => .waiting (some timestamp) cycle
  | .halted _ => .stopped
  | .idle | .manualConflict => .waiting none cycle

/-- The `match` of `synchronize_once` on what the push returned. -/
def Phase.afterPush (cycle : Cycle) : EngineResult PushDisposition → Phase
  | .ok .proceed => .pulling cycle
  | .ok .replayPrepared => .ofOutcome cycle .workRemaining
  | .ok .manualConflict => .ofOutcome cycle .manualConflict
  | .ok (.retryAt timestamp) => .ofOutcome cycle (.retryAt timestamp)
  | .ok (.halted reason) => .ofOutcome cycle (.halted reason)
  | .error _ => .stopped

/-- The full-batch test at the end of `synchronize_once`. -/
def Phase.afterPull (pushBatch : Nat) (cycle : Cycle) : EngineResult Bool → Phase
  | .ok true => .pulling cycle
  | .ok false =>
      .ofOutcome cycle (if cycle.events.length = pushBatch then .workRemaining else .idle)
  | .error _ => .stopped

section Step

variable [ContentTables]

def runnerStep (pushBatch : Nat) (runner : Runner) (action : RunnerAction) : Option Runner :=
  match action, runner.phase with
  | .call call, _ =>
      if call.allowed runner.issued then
        some ⟨call.perform runner.profile, runner.phase, call.ids ++ runner.issued⟩
      else none
  | .readBatch now, .starting =>
      match readyOutboxEvents runner.profile now pushBatch with
      | .error _ => some { runner with phase := .stopped }
      | .ok [] => some { runner with phase := .pulling ⟨now, runner.profile.syncOutbox, []⟩ }
      | .ok events =>
          some { runner with phase := .building ⟨now, runner.profile.syncOutbox, events⟩ }
  | .buildBatch, .building cycle =>
      match Desktop.buildEvents runner.profile cycle.events with
      | .error _ => some { runner with phase := .stopped }
      | .ok request => some { runner with phase := .sending cycle request }
  | .pushed reply, .sending cycle request =>
      let outcome := Desktop.settlePush runner.profile cycle.events request reply cycle.now
      some { runner with profile := outcome.1, phase := .afterPush cycle outcome.2 }
  | .paged reply, .pulling cycle =>
      let outcome := Desktop.pullPage runner.profile reply cycle.now
      some { runner with profile := outcome.1, phase := .afterPull pushBatch cycle outcome.2 }
  | .wake, .waiting _ _ => some { runner with phase := .starting }
  | .deadline, .waiting (some _) _ => some { runner with phase := .starting }
  | .cancel, .waiting _ _ => some { runner with phase := .stopped }
  | .restart, .stopped => some { runner with phase := .starting }
  | _, _ => none

end Step

def Runner.initial (profileId : Uuid) (deviceId : String) (now : Int) : Runner :=
  ⟨ProfileDb.initial profileId deviceId now, .starting, []⟩

/-- Every row the cycle read, and did not find marked, is gone or marked now. -/
def NoneLeft (cycle : Cycle) (db : ProfileDb) : Prop :=
  ∀ coalesceKey row, cycle.outbox.get coalesceKey = some row →
    row.lastError ≠ some conflictError →
    ∀ after, db.syncOutbox.get coalesceKey = some after → after.eventId = row.eventId →
      after.lastError = some conflictError

def isFull (pushBatch : Nat) (cycle : Cycle) : Bool := cycle.events.length = pushBatch

/-- The cycle read no other unmarked row than that of the event. -/
def isAlone (cycle : Cycle) (event : OutboxEvent) : Bool :=
  cycle.outbox.rows.all (fun entry =>
    entry.2.lastError = some conflictError || entry.1 = event.coalesceKey)

/-- The condition on one step: a conflict that is not replayed met the only row there
was, and a cycle that ends idle found every unmarked row ready. -/
def leavesNone (pushBatch : Nat) (runner : Runner) : RunnerAction → Bool
  | .pushed (.error (.transport (.conflict conflict))) =>
      match runner.phase with
      | .sending cycle _ =>
          match Desktop.conflictedEvent cycle.events conflict with
          | none => true
          | some event =>
              match (resolveConflict runner.profile event conflict.current cycle.now).2 with
              | .ok .converged => isFull pushBatch cycle || isAlone cycle event
              | .ok .manualRetryRequired => isAlone cycle event
              | _ => true
      | _ => true
  | .paged _ =>
      match runner.phase with
      | .pulling cycle =>
          isFull pushBatch cycle || cycle.outbox.rows.all (fun entry =>
            entry.2.lastError = some conflictError || outboxReady cycle.now entry.2)
      | _ => true
  | _ => true

/-- What a cycle knows of the batch it read. -/
structure CycleInv (pushBatch : Nat) (issued : List Uuid) (cycle : Cycle) : Prop where
  issued : ∀ coalesceKey row, cycle.outbox.get coalesceKey = some row → row.eventId ∈ issued
  read : ∀ event ∈ cycle.events, cycle.outbox.get event.coalesceKey = some event.toOutboxRow ∧
    outboxReady cycle.now event.toOutboxRow = true
  favorite : ∀ event ∈ cycle.events, isFavoriteOperation event.operation = true →
    event.coalesceKey = .favorite event.contentKey
  whole : cycle.events.length < pushBatch → ∀ coalesceKey row,
    cycle.outbox.get coalesceKey = some row → outboxReady cycle.now row = true →
    ∃ event ∈ cycle.events, event.coalesceKey = coalesceKey
  bounded : cycle.events.length ≤ pushBatch

/-- No row of the batch is pending any more. -/
def EventsGone (cycle : Cycle) (db : ProfileDb) : Prop :=
  ∀ event ∈ cycle.events, ∀ after, db.syncOutbox.get event.coalesceKey = some after →
    after.eventId ≠ event.eventId

def PhaseInv (pushBatch : Nat) (issued : List Uuid) (db : ProfileDb) : Phase → Prop
  | .building cycle => CycleInv pushBatch issued cycle
  | .sending cycle _ => CycleInv pushBatch issued cycle
  | .pulling cycle => CycleInv pushBatch issued cycle ∧
      (isFull pushBatch cycle = true ∨ EventsGone cycle db)
  | .waiting none cycle => (∀ coalesceKey row, cycle.outbox.get coalesceKey = some row →
      row.eventId ∈ issued) ∧ NoneLeft cycle db
  | _ => True

structure RunnerInv (pushBatch : Nat) (runner : Runner) : Prop where
  labelled : Labelled runner.profile
  issued : ∀ coalesceKey row, runner.profile.syncOutbox.get coalesceKey = some row →
    row.eventId ∈ runner.issued
  phase : PhaseInv pushBatch runner.issued runner.profile runner.phase

theorem RunnerInv.initial (pushBatch : Nat) (profileId : Uuid) (deviceId : String) (now : Int) :
    RunnerInv pushBatch (Runner.initial profileId deviceId now) where
  labelled := ⟨by simp [Runner.initial, ProfileDb.initial],
    by simp [Runner.initial, ProfileDb.initial]⟩
  issued := by simp [Runner.initial, ProfileDb.initial]
  phase := trivial

section Profile

variable {db next : ProfileDb} {issued : List Uuid} {pushBatch : Nat} {cycle : Cycle}

theorem EventsGone.kept (gone : EventsGone cycle db) (kept : OutboxKept db next) :
    EventsGone cycle next := by
  intro event member after stored
  obtain ⟨old, here, eventId, -⟩ := kept _ after stored
  rw [eventId]
  exact gone event member old here

/-- What a cycle knows of the batch it reads. -/
theorem CycleInv.of_read {now : Int} {events : List OutboxEvent} (labelled : Labelled db)
    (listed : ∀ coalesceKey row, db.syncOutbox.get coalesceKey = some row → row.eventId ∈ issued)
    (success : readyOutboxEvents db now pushBatch = .ok events) :
    CycleInv pushBatch issued ⟨now, db.syncOutbox, events⟩ := by
  obtain ⟨whole, stored, -⟩ := readyOutboxEvents_ok success
  refine ⟨listed, stored, ?_, ?_, ?_⟩
  · exact fun event member favorite => labelled.filed (stored event member).1 favorite
  · intro short coalesceKey row here ready
    dsimp only at short here ready
    have all : (coalesceKey, row) ∈ readyRows db now pushBatch := by
      rw [whole, List.length_map] at short
      unfold readyRows at short ⊢
      rw [List.length_take] at short
      rw [List.take_of_length_le (by omega), List.mem_insertionSort, List.mem_filter]
      exact ⟨(Table.mem_rows_iff _ _ _).mpr here, ready⟩
    refine ⟨⟨row, coalesceKey⟩, ?_, rfl⟩
    show _ ∈ events
    rw [whole]
    exact List.mem_map.mpr ⟨_, all, rfl⟩
  · show events.length ≤ pushBatch
    rw [whole, List.length_map]
    unfold readyRows
    rw [List.length_take]
    exact min_le_left _ _

/-- An answer that was stored leaves no row of its batch. -/
theorem acknowledged_gone {request : List PushEvent} {response : PushResponse}
    {items : List AcknowledgedEvent} {now : Int}
    (matched : Desktop.matchAcknowledgements cycle.events request response.acknowledgements =
      .ok items)
    (stored : (acknowledgeEvents db items now).2 = .ok ()) :
    EventsGone cycle (acknowledgeEvents db items now).1 := by
  unfold acknowledgeEvents at stored ⊢
  cases body : acknowledgeBody items now db with
  | error reason =>
      rw [Transaction.atomically_of_error body] at stored
      cases stored
  | ok pair =>
      obtain ⟨after, done⟩ := pair
      rw [Transaction.atomically_of_ok body]
      obtain ⟨last, looped, rfl⟩ := acknowledgeBody_ok body
      intro event member row here
      obtain ⟨item, listed, rfl⟩ := matchAcknowledgements_covers matched event member
      exact (acknowledgeLoop_rows looped).2 item listed _ row here

/-- The rows a lone event leaves: none under another key. -/
theorem isAlone_key {event : OutboxEvent} (alone : isAlone cycle event = true)
    {coalesceKey : CoalesceKey} {row : OutboxRow}
    (here : cycle.outbox.get coalesceKey = some row)
    (unmarked : row.lastError ≠ some conflictError) : coalesceKey = event.coalesceKey := by
  have holds := List.all_eq_true.mp alone (coalesceKey, row) ((Table.mem_rows_iff _ _ _).mpr here)
  simpa [unmarked] using holds

theorem unmarked_of_ready {now : Int} {row : OutboxRow} (ready : outboxReady now row = true) :
    row.lastError ≠ some conflictError := by
  intro marked
  unfold outboxReady at ready
  rw [marked] at ready
  simp at ready

/-- A resolved conflict whose event was alone leaves it gone, replayed or marked. -/
theorem resolved_alone {event : OutboxEvent} {current : Option FavoriteRecord}
    {resolution : ConflictResolution} {now : Int} (inv : CycleInv pushBatch issued cycle)
    (member : event ∈ cycle.events) (alone : isAlone cycle event = true)
    (success : resolveConflictBody event current now db = .ok (next, resolution)) :
    (resolution = .converged → EventsGone cycle next) ∧
      (resolution = .manualRetryRequired → NoneLeft cycle next) := by
  obtain ⟨favorite, resolved⟩ := resolveConflictBody_ok success
  have filed := inv.favorite event member favorite
  refine ⟨?_, ?_⟩
  · rintro rfl
    intro other listed after stored
    have ready := inv.read other listed
    rw [isAlone_key alone ready.1 (unmarked_of_ready ready.2), filed] at stored
    cases resolved with
    | converged record key localValue table answer keyed found reached kept changed =>
        rw [changed] at stored
        dsimp only at stored
        rw [Table.get_delete_key, if_pos rfl] at stored
        cases stored
  · rintro rfl
    intro coalesceKey row here unmarked after stored same
    rw [isAlone_key alone here unmarked, filed] at stored
    cases resolved with
    | manual table kept changed =>
        rw [changed] at stored
        replace stored : (markManualConflict _ _ _).syncOutbox.get _ = some after := stored
        rw [markManualConflict_get, if_pos rfl] at stored
        obtain ⟨before, -, rfl⟩ := Option.map_eq_some_iff.mp stored
        rfl

/-- The end of a cycle whose batch is gone, when every unmarked row it read was
ready and the batch was not full. -/
theorem NoneLeft.of_gone (inv : CycleInv pushBatch issued cycle) (gone : EventsGone cycle db)
    (short : cycle.events.length ≠ pushBatch)
    (ready : cycle.outbox.rows.all (fun entry =>
      entry.2.lastError = some conflictError || outboxReady cycle.now entry.2) = true) :
    NoneLeft cycle db := by
  intro coalesceKey row here unmarked after stored same
  have awake : outboxReady cycle.now row = true := by
    have holds := List.all_eq_true.mp ready (coalesceKey, row)
      ((Table.mem_rows_iff _ _ _).mpr here)
    simpa [unmarked] using holds
  obtain ⟨event, member, rfl⟩ := inv.whole (lt_of_le_of_ne inv.bounded short) coalesceKey row here
    awake
  have mine := (inv.read event member).1
  rw [here] at mine
  cases mine
  exact absurd same (gone event member after stored)

end Profile

section Steps

variable {pushBatch : Nat} {runner next : Runner}

/-- A job of the worker that keeps the rows it does not drop. -/
theorem RunnerInv.job (inv : RunnerInv pushBatch runner) {db : ProfileDb} {phase : Phase}
    (kept : OutboxKept runner.profile db) (reached : PhaseInv pushBatch runner.issued db phase) :
    RunnerInv pushBatch ⟨db, phase, runner.issued⟩ := by
  refine ⟨inv.labelled.kept kept, fun coalesceKey row stored => ?_, reached⟩
  obtain ⟨old, here, eventId, -⟩ := kept coalesceKey row stored
  rw [eventId]
  exact inv.issued coalesceKey old here

theorem RunnerInv.pushed (inv : RunnerInv pushBatch runner) {cycle : Cycle}
    {request : List PushEvent} {reply : Except SessionError PushResponse}
    (sending : runner.phase = .sending cycle request)
    (safe : leavesNone pushBatch runner (.pushed reply) = true) :
    PhaseInv pushBatch runner.issued
      (Desktop.settlePush runner.profile cycle.events request reply cycle.now).1
      (.afterPush cycle
        (Desktop.settlePush runner.profile cycle.events request reply cycle.now).2) := by
  have known : CycleInv pushBatch runner.issued cycle := by
    have phase := inv.phase
    rw [sending] at phase
    exact phase
  unfold Desktop.settlePush
  split
  · -- an answer
    rename_i response
    split
    · trivial
    · rename_i items matched
      unfold Desktop.fromDatabase
      split
      · rename_i after done finished
        refine ⟨known, Or.inr ?_⟩
        have gone := @acknowledged_gone runner.profile cycle request response items cycle.now
          matched (by rw [finished])
        rw [finished] at gone
        exact gone
      · trivial
  · -- a conflict
    rename_i conflict
    split
    · trivial
    · rename_i event chosen
      unfold leavesNone at safe
      simp only [sending, chosen] at safe
      have member := conflictedEvent_mem chosen
      unfold resolveConflict at safe ⊢
      cases body : resolveConflictBody event conflict.current cycle.now runner.profile with
      | error reason =>
          rw [Transaction.atomically_of_error body]
          trivial
      | ok pair =>
          obtain ⟨after, resolution⟩ := pair
          rw [Transaction.atomically_of_ok body] at safe ⊢
          cases resolution with
          | converged =>
              refine ⟨known, ?_⟩
              rcases Bool.or_eq_true_iff.mp safe with full | alone
              · exact Or.inl full
              · exact Or.inr ((resolved_alone known member alone body).1 rfl)
          | replayPrepared => trivial
          | manualRetryRequired =>
              exact ⟨known.issued, (resolved_alone known member safe body).2 rfl⟩
  · split
    · rcases Desktop.retryLater_cases runner.profile cycle.events cycle.now with
        ⟨reason, failed⟩ | ⟨retryAt, -, later⟩
      · rw [failed]
        trivial
      · rw [later]
        trivial
    · split
      · trivial
      · trivial

variable [ContentTables]

theorem RunnerInv.paged (inv : RunnerInv pushBatch runner) {cycle : Cycle}
    {reply : Except SessionError ChangesResponse} (pulling : runner.phase = .pulling cycle)
    (safe : leavesNone pushBatch runner (.paged reply) = true) :
    PhaseInv pushBatch runner.issued (Desktop.pullPage runner.profile reply cycle.now).1
      (.afterPull pushBatch cycle (Desktop.pullPage runner.profile reply cycle.now).2) := by
  have phase := inv.phase
  rw [pulling] at phase
  obtain ⟨known, settled⟩ := phase
  have kept := pullPage_kept runner.profile reply cycle.now
  unfold leavesNone at safe
  simp only [pulling] at safe
  generalize Desktop.pullPage runner.profile reply cycle.now = outcome at kept
  obtain ⟨after, result⟩ := outcome
  cases result with
  | error reason => trivial
  | ok more =>
      cases more with
      | true => exact ⟨known, settled.imp_right (fun gone => gone.kept kept)⟩
      | false =>
          show PhaseInv pushBatch runner.issued after (.ofOutcome cycle _)
          by_cases full : cycle.events.length = pushBatch
          · rw [if_pos full]
            trivial
          · rw [if_neg full]
            have short : isFull pushBatch cycle = false := by simpa [isFull] using full
            rw [short, Bool.false_or] at safe
            rcases settled with impossible | gone
            · rw [short] at impossible
              cases impossible
            · exact ⟨known.issued, NoneLeft.of_gone known (gone.kept kept) full safe⟩

/-- A call of the user: its rows have new ids. -/
theorem RunnerInv.call (inv : RunnerInv pushBatch runner) {call : Call}
    (allowed : call.allowed runner.issued = true) :
    RunnerInv pushBatch
      ⟨call.perform runner.profile, runner.phase, call.ids ++ runner.issued⟩ := by
  have moves := call.moves runner.profile
  have fresh := Call.fresh_of_allowed allowed
  -- A row is one of before, or has one of the ids of the call.
  have facts : Labelled (call.perform runner.profile) ∧ ∀ coalesceKey row,
      (call.perform runner.profile).syncOutbox.get coalesceKey = some row →
      runner.profile.syncOutbox.get coalesceKey = some row ∨ row.eventId ∈ call.ids := by
    generalize call.perform runner.profile = performed at moves
    induction moves with
    | refl => exact ⟨inv.labelled, fun _ _ stored => Or.inl stored⟩
    | tail _ move ih =>
        refine ⟨ih.1.localMove move, fun coalesceKey row stored => ?_⟩
        rcases move.row stored with old | ⟨new, -⟩
        · exact ih.2 coalesceKey row old
        · exact Or.inr new
  obtain ⟨labelled, origin⟩ := facts
  refine ⟨labelled, ?_, ?_⟩
  · intro coalesceKey row stored
    rcases origin coalesceKey row stored with old | new
    · exact List.mem_append_right _ (inv.issued coalesceKey row old)
    · exact List.mem_append_left _ new
  · have phase := inv.phase
    have wider : ∀ {cycle : Cycle}, CycleInv pushBatch runner.issued cycle →
        CycleInv pushBatch (call.ids ++ runner.issued) cycle := fun known =>
      ⟨fun coalesceKey row here => List.mem_append_right _ (known.issued coalesceKey row here),
        known.read, known.favorite, known.whole, known.bounded⟩
    -- An id the cycle read is not given out again.
    have apart : ∀ {id : Uuid} {coalesceKey : CoalesceKey} {after : OutboxRow},
        id ∈ runner.issued →
        (call.perform runner.profile).syncOutbox.get coalesceKey = some after →
        after.eventId = id → runner.profile.syncOutbox.get coalesceKey = some after := by
      intro id coalesceKey after listed stored same
      rcases origin coalesceKey after stored with old | new
      · exact old
      · rw [same] at new
        exact absurd listed (fresh id new)
    show PhaseInv pushBatch _ _ runner.phase
    cases standing : runner.phase with
    | starting => trivial
    | building cycle => rw [standing] at phase; exact wider phase
    | sending cycle request => rw [standing] at phase; exact wider phase
    | pulling cycle =>
        rw [standing] at phase
        refine ⟨wider phase.1, phase.2.imp_right (fun gone event member after stored same => ?_)⟩
        have listed := phase.1.issued _ _ (phase.1.read event member).1
        exact gone event member after (apart listed stored same) same
    | waiting retryAt cycle =>
        cases retryAt with
        | some timestamp => trivial
        | none =>
            rw [standing] at phase
            refine ⟨fun coalesceKey row here => List.mem_append_right _ (phase.1 coalesceKey row
              here), fun coalesceKey row here unmarked after stored same => ?_⟩
            exact phase.2 coalesceKey row here unmarked after
              (apart (phase.1 coalesceKey row here) stored same) same
    | stopped => trivial

theorem RunnerInv.step {action : RunnerAction} (inv : RunnerInv pushBatch runner)
    (safe : leavesNone pushBatch runner action = true)
    (taken : runnerStep pushBatch runner action = some next) : RunnerInv pushBatch next := by
  unfold runnerStep at taken
  split at taken
  · -- call
    split at taken
    · rename_i allowed
      cases taken
      exact inv.call allowed
    · cases taken
  · -- readBatch
    split at taken
    · cases taken
      exact inv.job (.refl _) trivial
    · rename_i read
      cases taken
      refine inv.job (.refl _) ⟨.of_read inv.labelled inv.issued read, Or.inr ?_⟩
      intro event member
      cases member
    · rename_i events read
      cases taken
      exact inv.job (.refl _) (CycleInv.of_read inv.labelled inv.issued read)
  · -- buildBatch
    rename_i cycle building
    have phase := inv.phase
    rw [building] at phase
    split at taken
    · cases taken
      exact inv.job (.refl _) trivial
    · cases taken
      exact inv.job (.refl _) phase
  · -- pushed
    rename_i reply cycle request sending
    cases taken
    exact inv.job (settlePush_kept _ _ _ _ _) (inv.pushed sending safe)
  · -- paged
    rename_i reply cycle pulling
    cases taken
    exact inv.job (pullPage_kept _ _ _) (inv.paged pulling safe)
  · cases taken
    exact inv.job (.refl _) trivial
  · cases taken
    exact inv.job (.refl _) trivial
  · cases taken
    exact inv.job (.refl _) trivial
  · cases taken
    exact inv.job (.refl _) trivial
  · cases taken

/-- Along every run whose steps meet the condition, a worker that waits without a
deadline has left behind no row its last cycle read. -/
theorem no_row_stalls (pushBatch : Nat) (profileId : Uuid) (deviceId : String) (now : Int)
    (actions : List RunnerAction) (last : Runner)
    (reached : Transition.run (runnerStep pushBatch) (Runner.initial profileId deviceId now)
      actions = some last)
    (safe : Transition.Meets (runnerStep pushBatch)
      (fun runner action => leavesNone pushBatch runner action = true)
      (Runner.initial profileId deviceId now) actions)
    (cycle : Cycle) (waiting : last.phase = .waiting none cycle) :
    NoneLeft cycle last.profile := by
  have inv := Transition.run_keeps_of_meets
    (fun _ _ _ inv meets taken => RunnerInv.step inv meets taken) actions _ last
    (RunnerInv.initial pushBatch profileId deviceId now) safe reached
  have phase := inv.phase
  rw [waiting] at phase
  exact phase.2

end Steps

section Runs

attribute [local instance] Sample.tables

/-- A favorited word, and the cycle that sends it. -/
def sendsGift : List RunnerAction :=
  [.call (.query (Sample.gift 100) (Sample.eventId 1)),
    .call (.favorite Sample.giftKey 101 (Sample.eventId 2)), .readBatch 102, .buildBatch]

def noChanges : ChangesResponse := ⟨[], 0, 0, false⟩

/-- The server is away and the row gets a retry time. A wake-up drops the deadline
of the worker, the next cycle finds nothing ready, and the worker waits without a
deadline while the row is pending. -/
theorem wake_forgets_retry :
    ∃ last cycle row,
      Transition.run (runnerStep 100) (Runner.initial (Sample.eventId 0) "desk" 50) (sendsGift ++
        [.pushed (.error (.transport .offline)), .wake, .readBatch 103,
          .paged (.ok noChanges)]) = some last ∧
      last.phase = .waiting none cycle ∧
      cycle.outbox.get (.favorite Sample.giftKey) = some row ∧
      last.profile.syncOutbox.get (.favorite Sample.giftKey) = some row ∧
      cycle.now < row.nextRetryAt.getD 0 ∧ ¬ NoneLeft cycle last.profile := by
  have facts : (Transition.run (runnerStep 100) (Runner.initial (Sample.eventId 0) "desk" 50)
      (sendsGift ++ [.pushed (.error (.transport .offline)), .wake, .readBatch 103,
        .paged (.ok noChanges)])).any (fun last =>
      last.phase.unscheduled.any (fun cycle =>
        (cycle.outbox.get (.favorite Sample.giftKey)).any (fun row =>
          last.profile.syncOutbox.get (.favorite Sample.giftKey) = some row &&
            cycle.now < row.nextRetryAt.getD 0 && row.lastError ≠ some conflictError))) =
      true := by
    decide
  obtain ⟨last, ran, holds⟩ := (Option.any_eq_true _ _).mp facts
  obtain ⟨cycle, waits, left⟩ := (Option.any_eq_true _ _).mp holds
  obtain ⟨row, read, pending⟩ := (Option.any_eq_true _ _).mp left
  simp only [Bool.and_eq_true, decide_eq_true_eq] at pending
  obtain ⟨⟨here, future⟩, unmarked⟩ := pending
  refine ⟨last, cycle, row, ran, Phase.unscheduled_eq waits, read, here, future, ?_⟩
  intro none
  exact unmarked (none _ row read unmarked row here rfl)

/-- The acknowledged cycle ends with nothing left. -/
theorem no_row_stalls_gift :
    ∃ last cycle,
      Transition.run (runnerStep 100) (Runner.initial (Sample.eventId 0) "desk" 50) (sendsGift ++
        [.pushed (.ok ⟨[⟨(Sample.eventId 2).text, .applied, some 1, 1, none⟩], 1⟩),
          .paged (.ok noChanges)]) = some last ∧
      last.phase = .waiting none cycle ∧
      (cycle.outbox.get (.favorite Sample.giftKey)).isSome ∧ NoneLeft cycle last.profile := by
  have facts : (Transition.run (runnerStep 100) (Runner.initial (Sample.eventId 0) "desk" 50)
      (sendsGift ++ [.pushed (.ok ⟨[⟨(Sample.eventId 2).text, .applied, some 1, 1, none⟩], 1⟩),
        .paged (.ok noChanges)])).any (fun last =>
      last.phase.unscheduled.any (fun cycle =>
        (cycle.outbox.get (.favorite Sample.giftKey)).isSome)) = true := by
    decide
  have safe : Transition.Meets (runnerStep 100)
      (fun runner action => leavesNone 100 runner action = true)
      (Runner.initial (Sample.eventId 0) "desk" 50) (sendsGift ++
        [.pushed (.ok ⟨[⟨(Sample.eventId 2).text, .applied, some 1, 1, none⟩], 1⟩),
          .paged (.ok noChanges)]) := by
    decide
  obtain ⟨last, ran, holds⟩ := (Option.any_eq_true _ _).mp facts
  obtain ⟨cycle, waits, left⟩ := (Option.any_eq_true _ _).mp holds
  have waiting := Phase.unscheduled_eq waits
  exact ⟨last, cycle, ran, waiting, left, no_row_stalls 100 _ _ _ _ last ran safe cycle waiting⟩

end Runs

end Lvos.System
