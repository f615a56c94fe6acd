import Lvos.Agent.UiProcess
import Lvos.Desktop.UiSession
import Lvos.Lib.Transition
import Lvos.Sync.Protocol

set_option autoImplicit false

namespace Lvos.System.Ui

open Lvos.Ipc Lvos.Agent Lvos.Desktop
open Relational (Table)
open Transition (run Meets run_keeps run_raises)
open Lvos.Sync (u64Limit)

/-! The Agent and its GUI over one connection at a time: a FIFO queue in each direction, the
requests that the Agent serves one after the other, and the patches of its other tasks. -/

/-- How far the start of the GUI has come. -/
inductive Handshake
  | greeted
  | read (snapshot : UiSnapshot)
  | applied
deriving DecidableEq

/-- Where `handle_request` stands; only `RequestSnapshot` has steps of its own. -/
inductive Serving
  | running (requestId : DrawnId) (operation : UiOperation)
  | snapshotRead (requestId : DrawnId) (snapshot : UiSnapshot)
  | answering (requestId : DrawnId) (success : Bool)
deriving DecidableEq

def Serving.requestId : Serving → DrawnId
  | .running requestId _ | .snapshotRead requestId _ | .answering requestId _ => requestId

/-- `connected` says that frames still travel, `delivered` counts those of the Agent's
writer, and `held` are the patches a task has created and not sent yet. The fields from
`patches` on are for the statements: all patches in the order of their revisions, the
snapshot the GUI applied last, the messages queued and applied on the connection, and the
requests made on it. -/
structure Dialogue where
  state : ProcessState
  nextGeneration : Nat
  gui : UiSession
  handshake : Handshake
  connected : Bool
  toUi : List AgentToUi
  toAgent : List UiToAgent
  delivered : Nat
  serving : Option Serving
  revision : Nat
  held : List MainUiPatch
  patches : List MainUiPatch
  origin : Option UiSnapshot
  sent : List AgentToUi
  applied : List AgentToUi
  requested : List DrawnId

inductive DialogueStep
  | launch
  | readStart (main : MainUiSnapshot)
  | applyStart (done : Bool)
  | ready (processId : Nat)
  | lose (kept : Nat)
  | stopped
  | send (message : AgentToUi)
  | createPatch (content : MainUiPatch)
  | sendPatch (patch : MainUiPatch)
  | readMessage
  | readSnapshot (main : MainUiSnapshot)
  | queueSnapshot
  | answer (success : Bool) (message : String) (output : OperationOutput)
  | apply (done : Bool)
  | event (event : UiEvent)
deriving DecidableEq

/-- The messages that `send` and `send_if_ready` are called with outside the requests. -/
def isCommand : AgentToUi → Bool
  | .beginLookup _ _ | .updateLookup _ _ | .hideLookup _ | .openMainWindow | .hideMainWindow
  | .showPermission _ | .setDiagnosticAppearance _ _ => true
  | _ => false

/-- The requests among the messages of the GUI. -/
def requestIds (messages : List UiToAgent) : List DrawnId :=
  messages.filterMap (fun message =>
    match message with
    | .request requestId _ => some requestId
    | _ => none)

namespace Dialogue

def initial : Dialogue where
  state := .initial
  nextGeneration := 1
  gui := .install 0 0
  handshake := .greeted
  connected := false
  toUi := []
  toAgent := []
  delivered := 0
  serving := none
  revision := 0
  held := []
  patches := []
  origin := none
  sent := []
  applied := []
  requested := []

/-- Whether `send_if_ready` reports success. -/
def reaches (world : Dialogue) : Bool :=
  (world.state.sendIfReady (fun _ => world.connected)).isSome

/-- `send` in the section that queues, and `send_if_ready`. -/
def post (world : Dialogue) (message : AgentToUi) : Dialogue :=
  if world.reaches then
    { world with
      toUi := world.toUi ++ [message]
      sent := world.sent ++ [message] }
  else world

/-- The GUI moves on, and what it sends is queued. -/
@[simps]
def moveGui (world : Dialogue) (moved : UiSession × List UiToAgent) : Dialogue :=
  { world with
    gui := moved.1
    toAgent := world.toAgent ++ moved.2
    requested := world.requested ++ requestIds moved.2 }

/-- The snapshot of `AgentService::snapshot`, which holds the order lock while it reads. -/
def snapshotOf (world : Dialogue) (main : MainUiSnapshot) : UiSnapshot :=
  ⟨world.revision, { main with revision := world.revision }⟩

/-- The patch of `AgentService::patch`. -/
def patchOf (world : Dialogue) (content : MainUiPatch) : MainUiPatch :=
  { content with
    baseRevision := world.revision
    revision := world.revision + 1 }

/-- A task sends a patch, which is gone where the GUI is not ready. -/
def sendPatch (world : Dialogue) (patch : MainUiPatch) : Dialogue :=
  { world with held := world.held.erase patch }.post (.patch patch)

def approve (world : Dialogue) (requestId : DrawnId) (generation : Nat) : Dialogue :=
  match world.state.approveIdleExit (fun _ => world.connected) requestId generation with
  | some (state, _) =>
      { world with
        state := state
        toUi := world.toUi ++ [.idleExitApproved requestId generation] }
  | none => world

/-- `run_requests` on one message. -/
def receive (world : Dialogue) : UiToAgent → Dialogue
  | .request requestId operation => { world with serving := some (.running requestId operation) }
  | .requestIdleExit requestId generation => world.approve requestId generation
  | .cancelIdleExit requestId generation =>
      { world with state := world.state.cancelIdleExit false requestId generation }
  | .lookupDismissed _ | .uiBlockingChanged _ | .exiting _ => world

def answerWith (world : Dialogue) (requestId : DrawnId) (success : Bool) (message : String)
    (output : OperationOutput) : Dialogue :=
  { world with serving := none }.post (.operationResult
    ⟨requestId, success, ⟨message, if success then .success else .error⟩, output⟩)

/-- One step of `handle_request`. -/
def serve (world : Dialogue) : DialogueStep → Option Dialogue
  | .readSnapshot main =>
      match world.serving with
      | some (.running requestId .requestSnapshot) =>
          some { world with serving := some (.snapshotRead requestId (world.snapshotOf main)) }
      | _ => none
  | .queueSnapshot =>
      match world.serving with
      | some (.snapshotRead requestId snapshot) =>
          some ({ world with serving := some (.answering requestId world.reaches) }.post
            (.snapshot snapshot))
      | _ => none
  | .answer success message output =>
      match world.serving with
      | some (.running requestId operation) =>
          if operation = .requestSnapshot then none
          else some (world.answerWith requestId success message output)
      | some (.answering requestId queued) =>
          some (world.answerWith requestId queued
            (if queued then "" else "The GUI disconnected before snapshot recovery.") .none)
      | _ => none
  | _ => none

def originAfter (origin : Option UiSnapshot) : AgentToUi → Option UiSnapshot
  | .snapshot snapshot =>
      if snapshot.revision = snapshot.main.revision then some snapshot else origin
  | _ => origin

/-- The GUI applies the next frame. -/
def applyNext (world : Dialogue) (done : Bool) : Option Dialogue :=
  match world.toUi with
  | [] => none
  | message :: rest =>
      some ({ world with
        toUi := rest
        delivered := world.delivered + 1
        applied := if world.delivered + 3 ≤ world.gui.cache.lastSequence then world.applied
          else world.applied ++ [message]
        origin := originAfter world.origin message }.moveGui
        (world.gui.apply (world.delivered + 3) message done))

def step (world : Dialogue) : DialogueStep → Option Dialogue
  | .launch =>
      if world.state.phase = .stopped then
        some { world with
          state := (world.state.ensureReady world.nextGeneration).1
          nextGeneration := world.nextGeneration + 1
          gui := .install world.nextGeneration world.gui.drawn
          handshake := .greeted
          toUi := []
          origin := none
          sent := []
          applied := []
          requested := [] }
      else none
  | .readStart main =>
      match world.state.phase, world.handshake with
      | .starting _, .greeted =>
          some { world with handshake := .read (world.snapshotOf main) }
      | _, _ => none
  | .applyStart done =>
      match world.state.phase, world.handshake with
      | .starting _, .read snapshot =>
          some ({ world with
            handshake := .applied
            origin := some snapshot }.moveGui (world.gui.apply 2 (.snapshot snapshot) done))
      | _, _ => none
  | .ready processId =>
      match world.handshake, world.state.becomeReady world.gui.generation processId 0 with
      | .applied, .ok state =>
          some { world with
            state := state
            connected := true
            delivered := 0 }
      | _, _ => none
  | .lose kept =>
      if world.connected then
        some { world with
          state := (world.state.markDisconnected (some world.gui.generation)).1
          connected := false
          toUi := []
          toAgent := world.toAgent.take kept }
      else none
  | .stopped =>
      some { world with
        state := world.state.markStopped world.gui.generation
        connected := false
        toUi := [] }
  | .send message => if isCommand message then some (world.post message) else none
  | .createPatch content =>
      some { world with
        revision := world.revision + 1
        held := world.held ++ [world.patchOf content]
        patches := world.patches ++ [world.patchOf content] }
  | .sendPatch patch => if patch ∈ world.held then some (world.sendPatch patch) else none
  | .readMessage =>
      match world.serving, world.toAgent with
      | none, message :: rest => some ({ world with toAgent := rest }.receive message)
      | _, _ => none
  | .apply done => if world.connected && !world.gui.quit then world.applyNext done else none
  | .event event =>
      if world.connected && !world.gui.quit then some (world.moveGui (world.gui.onEvent event))
      else none
  | serving => world.serve serving

/-! The counters of the source are 64 bits wide and wrap; here they are natural numbers. -/

/-- Bounds on the generations, the revisions and the frames counted so far. -/
structure Counts (count : Nat) (world : Dialogue) : Prop where
  generations : world.nextGeneration ≤ count + 1
  revisions : world.revision ≤ count
  frames : world.delivered ≤ count

section Counters

variable {count : Nat} {world next : Dialogue}

theorem Counts.later (counts : Counts count world) : Counts (count + 1) world :=
  ⟨Nat.le_succ_of_le counts.generations, Nat.le_succ_of_le counts.revisions,
    Nat.le_succ_of_le counts.frames⟩

theorem Counts.congr (counts : Counts count world)
    (generations : next.nextGeneration = world.nextGeneration)
    (revisions : next.revision = world.revision) (frames : next.delivered = world.delivered) :
    Counts count next :=
  ⟨generations ▸ counts.generations, revisions ▸ counts.revisions, frames ▸ counts.frames⟩

theorem Counts.post (counts : Counts count world) (message : AgentToUi) :
    Counts count (world.post message) := by
  unfold Dialogue.post
  split
  · exact counts.congr rfl rfl rfl
  · exact counts

theorem Counts.receive (counts : Counts count world) (message : UiToAgent) :
    Counts count (world.receive message) := by
  cases message with
  | requestIdleExit requestId generation =>
      change Counts count (world.approve requestId generation)
      unfold Dialogue.approve
      split
      · exact counts.congr rfl rfl rfl
      · exact counts
  | _ => exact counts.congr rfl rfl rfl

theorem Counts.answerWith (counts : Counts count world) (requestId : DrawnId) (success : Bool)
    (message : String) (output : OperationOutput) :
    Counts count (world.answerWith requestId success message output) :=
  @Counts.post count { world with serving := none } (counts.congr rfl rfl rfl) _

theorem Counts.serve (counts : Counts count world) {action : DialogueStep}
    (served : world.serve action = some next) : Counts count next := by
  unfold Dialogue.serve at served
  split at served
  · split at served
    · cases served
      exact counts.congr rfl rfl rfl
    · cases served
  · split at served
    · rename_i requestId snapshot _
      cases served
      exact @Counts.post _ { world with serving := some (.answering requestId world.reaches) }
        (counts.congr rfl rfl rfl) _
    · cases served
  · split at served
    · split at served
      · cases served
      · cases served
        exact counts.answerWith _ _ _ _
    · cases served
      exact counts.answerWith _ _ _ _
    · cases served
  · cases served

theorem Counts.step (counts : Counts count world) {action : DialogueStep}
    (stepped : world.step action = some next) : Counts (count + 1) next := by
  unfold Dialogue.step at stepped
  cases action with
  | launch =>
      simp only [Option.ite_none_right_eq_some, Option.some.injEq] at stepped
      obtain ⟨-, rfl⟩ := stepped
      exact ⟨Nat.succ_le_succ counts.generations, Nat.le_succ_of_le counts.revisions,
        Nat.le_succ_of_le counts.frames⟩
  | ready processId =>
      dsimp only at stepped
      split at stepped
      · cases stepped
        exact ⟨counts.later.generations, counts.later.revisions, Nat.zero_le _⟩
      · cases stepped
  | createPatch content =>
      cases stepped
      exact ⟨counts.later.generations, Nat.succ_le_succ counts.revisions, counts.later.frames⟩
  | apply done =>
      simp only [Option.ite_none_right_eq_some] at stepped
      obtain ⟨-, applied⟩ := stepped
      unfold Dialogue.applyNext at applied
      split at applied
      · cases applied
      · cases applied
        exact ⟨counts.later.generations, counts.later.revisions,
          Nat.succ_le_succ counts.frames⟩
  | readStart main =>
      dsimp only at stepped
      split at stepped
      · cases stepped
        exact counts.later.congr rfl rfl rfl
      · cases stepped
  | applyStart done =>
      dsimp only at stepped
      split at stepped
      · cases stepped
        exact counts.later.congr rfl rfl rfl
      · cases stepped
  | lose kept =>
      simp only [Option.ite_none_right_eq_some, Option.some.injEq] at stepped
      obtain ⟨-, rfl⟩ := stepped
      exact counts.later.congr rfl rfl rfl
  | stopped =>
      cases stepped
      exact counts.later.congr rfl rfl rfl
  | send message =>
      simp only [Option.ite_none_right_eq_some, Option.some.injEq] at stepped
      obtain ⟨-, rfl⟩ := stepped
      exact counts.later.post message
  | sendPatch patch =>
      simp only [Option.ite_none_right_eq_some, Option.some.injEq] at stepped
      obtain ⟨-, rfl⟩ := stepped
      exact @Counts.post _ { world with held := world.held.erase patch }
        (counts.later.congr rfl rfl rfl) _
  | readMessage =>
      dsimp only at stepped
      split at stepped
      · rename_i message rest free queue
        cases stepped
        exact @Counts.receive _ { world with toAgent := rest }
          (counts.later.congr rfl rfl rfl) message
      · cases stepped
  | readSnapshot main => exact (counts.serve stepped).later
  | queueSnapshot => exact (counts.serve stepped).later
  | answer success message output => exact (counts.serve stepped).later
  | event event =>
      simp only [Option.ite_none_right_eq_some, Option.some.injEq] at stepped
      obtain ⟨-, rfl⟩ := stepped
      exact counts.later.congr rfl rfl rfl

/-- Below their limit no counter of the source wraps: the next generation, the next revision and
the number of the next frame are successors. -/
theorem Counts.unwrapped (counts : Counts count world) (short : count + 4 < u64Limit) :
    (world.nextGeneration + 1) % u64Limit = world.nextGeneration + 1 ∧
      (world.revision + 1) % u64Limit = world.revision + 1 ∧
      (world.delivered + 3 + 1) % u64Limit = world.delivered + 3 + 1 := by
  obtain ⟨generations, revisions, frames⟩ := counts
  exact ⟨Nat.mod_eq_of_lt (by omega), Nat.mod_eq_of_lt (by omega), Nat.mod_eq_of_lt (by omega)⟩

theorem counters_unwrapped {actions : List DialogueStep} {last : Dialogue}
    (ran : run Dialogue.step initial actions = some last)
    (short : actions.length + 4 < u64Limit) :
    (last.nextGeneration + 1) % u64Limit = last.nextGeneration + 1 ∧
      (last.revision + 1) % u64Limit = last.revision + 1 ∧
      (last.delivered + 3 + 1) % u64Limit = last.delivered + 3 + 1 := by
  have counts := @run_raises Dialogue DialogueStep Dialogue.step Counts
    (fun _ _ _ _ counts stepped => counts.step stepped) actions 0 initial last
    ⟨Nat.le_refl 1, Nat.le_refl 0, Nat.le_refl 0⟩ ran
  rw [Nat.zero_add] at counts
  exact counts.unwrapped short

end Counters

end Dialogue

end Lvos.System.Ui
