import Lvos.Ipc.Protocol

set_option autoImplicit false

namespace Lvos.Agent

open Lvos.Ipc

inductive UiProcessPhase
  | stopped
  | starting (generation : Nat)
  | ready (generation : Nat)
  | stopping (generation : Nat)
deriving DecidableEq, Repr

def phaseGeneration : UiProcessPhase → Option Nat
  | .stopped => none
  | .starting generation | .ready generation | .stopping generation => some generation

inductive UiProcessError
  | io
  | frame
  | protocol
  | startupTimeout
  | staleGeneration
  | missingExecutable
  | shuttingDown
deriving DecidableEq, Repr

/-- `sender` is the connection whose writer receives, `killSender` the generation whose
`wait_for_child` receives. -/
structure ProcessState where
  phase : UiProcessPhase
  processId : Option Nat
  sender : Option Nat
  killSender : Option Nat
  idleExitRequest : Option DrawnId
deriving DecidableEq, Repr

namespace ProcessState

/-! Every function below is one critical section of the lock on the state. A send to a
connection succeeds while its writer lives, which `isOpen` tells. -/

def initial : ProcessState := ⟨.stopped, none, none, none, none⟩

inductive Readiness
  | ready
  | spawn (generation : Nat)
  | wait
deriving DecidableEq, Repr

/-- The section of `ensure_ready`; `nextGeneration` is the counter it takes from. -/
def ensureReady (state : ProcessState) (nextGeneration : Nat) : ProcessState × Readiness :=
  match state.phase with
  | .ready _ => (state, .ready)
  | .stopped => ({ state with phase := .starting nextGeneration }, .spawn nextGeneration)
  | .starting _ | .stopping _ => (state, .wait)

/-- The section of `spawn_ui`, after the child was launched. -/
def registerChild (state : ProcessState) (generation : Nat) :
    Except UiProcessError ProcessState :=
  if state.phase ≠ .starting generation then .error .staleGeneration
  else .ok { state with killSender := some generation }

inductive SendAttempt
  | sent (connection : Nat)
  | notReady
  | disconnected
deriving DecidableEq, Repr

/-- The section of `send`. -/
def trySend (state : ProcessState) (isOpen : Nat → Bool) : SendAttempt :=
  match state.phase with
  | .ready _ =>
      match state.sender with
      | some connection => if isOpen connection then .sent connection else .disconnected
      | none => .disconnected
  | _ => .notReady

/-- The connection that `send_if_ready` reaches. -/
def sendIfReady (state : ProcessState) (isOpen : Nat → Bool) : Option Nat :=
  match state.phase with
  | .ready _ => state.sender.filter isOpen
  | _ => none

/-- The state after `approve_idle_exit` and the connection the approval is queued on. -/
def approveIdleExit (state : ProcessState) (isOpen : Nat → Bool) (requestId : DrawnId)
    (generation : Nat) : Option (ProcessState × Nat) :=
  if state.phase ≠ .ready generation then none
  else
    (state.sender.filter isOpen).map (fun connection =>
      ({ state with
        phase := .stopping generation
        idleExitRequest := some requestId }, connection))

def cancelIdleExit (state : ProcessState) (shuttingDown : Bool) (requestId : DrawnId)
    (generation : Nat) : ProcessState :=
  if state.phase = .stopping generation ∧ state.idleExitRequest = some requestId ∧
      state.sender.isSome ∧ shuttingDown = false then
    { state with
      phase := .ready generation
      idleExitRequest := none }
  else state

/-- The first section of `shutdown`; it takes the sender. -/
def shutdown (state : ProcessState) : ProcessState :=
  { state with
    phase := match phaseGeneration state.phase with
      | some generation => .stopping generation
      | none => state.phase
    sender := none
    idleExitRequest := none }

/-- The first check of `serve_connection`. -/
def acceptsHello (state : ProcessState) (generation : Nat) : Bool :=
  state.phase = .starting generation

/-- The section of `serve_connection` after the GUI is ready. -/
def becomeReady (state : ProcessState) (generation processId connection : Nat) :
    Except UiProcessError ProcessState :=
  if state.phase ≠ .starting generation then .error .staleGeneration
  else
    .ok { state with
      phase := .ready generation
      processId := some processId
      sender := some connection
      idleExitRequest := none }

/-- The state after `mark_disconnected` and the child to be killed. -/
def markDisconnected (state : ProcessState) (generation : Option Nat) :
    ProcessState × Option Nat :=
  if generation.any (fun generation => phaseGeneration state.phase ≠ some generation) then
    (state, none)
  else
    match phaseGeneration state.phase with
    | none => (state, none)
    | some current =>
        ({ state with
          phase := .stopping current
          sender := none
          processId := none
          idleExitRequest := none }, state.killSender)

def markStopped (state : ProcessState) (generation : Nat) : ProcessState :=
  if phaseGeneration state.phase = some generation then initial else state

/-- What a generation has of the state. -/
def view (state : ProcessState) (generation : Nat) :
    Option (UiProcessPhase × Option Nat × Option Nat × Option DrawnId) :=
  if phaseGeneration state.phase = some generation then
    some (state.phase, state.sender, state.processId, state.idleExitRequest)
  else none

theorem view_of_other {state : ProcessState} {generation current : Nat}
    (here : phaseGeneration state.phase = some current) (apart : generation ≠ current) :
    state.view generation = none := by
  simp [view, here, Ne.symm apart]

theorem view_of_none {state : ProcessState} (none : phaseGeneration state.phase = none)
    (generation : Nat) : state.view generation = Option.none := by
  simp [view, none]

section Sections

variable {state next : ProcessState} {generation : Nat}

@[simp] theorem phaseGeneration_cancelIdleExit (shuttingDown : Bool) (requestId : DrawnId) :
    phaseGeneration (state.cancelIdleExit shuttingDown requestId generation).phase =
      phaseGeneration state.phase := by
  unfold cancelIdleExit
  split
  · rename_i held
    rw [held.1]
    rfl
  · rfl

theorem approveIdleExit_ok {isOpen : Nat → Bool} {requestId connection : Nat}
    (approved : state.approveIdleExit isOpen requestId generation = some (next, connection)) :
    state.phase = .ready generation ∧ state.sender = some connection ∧
      isOpen connection = true ∧
      next = { state with
        phase := .stopping generation
        idleExitRequest := some requestId } := by
  unfold approveIdleExit at approved
  split at approved
  · cases approved
  · rename_i ready
    obtain ⟨found, held, same⟩ := Option.map_eq_some_iff.mp approved
    obtain ⟨sender, opened⟩ := Option.filter_eq_some_iff.mp held
    cases same
    exact ⟨not_not.mp ready, sender, opened, rfl⟩

theorem registerChild_ok (registered : state.registerChild generation = .ok next) :
    state.phase = .starting generation ∧
      next = { state with killSender := some generation } := by
  unfold registerChild at registered
  split at registered
  · cases registered
  · rename_i starting
    cases registered
    exact ⟨not_not.mp starting, rfl⟩

theorem becomeReady_ok {processId connection : Nat}
    (became : state.becomeReady generation processId connection = .ok next) :
    state.phase = .starting generation ∧
      next = { state with
        phase := .ready generation
        processId := some processId
        sender := some connection
        idleExitRequest := none } := by
  unfold becomeReady at became
  split at became
  · cases became
  · rename_i starting
    cases became
    exact ⟨not_not.mp starting, rfl⟩

@[simp] theorem phaseGeneration_shutdown :
    phaseGeneration state.shutdown.phase = phaseGeneration state.phase := by
  unfold shutdown
  dsimp only
  split
  · rename_i current held
    rw [held]
    rfl
  · rfl

@[simp] theorem phaseGeneration_markDisconnected (asked : Option Nat) :
    phaseGeneration (state.markDisconnected asked).1.phase = phaseGeneration state.phase := by
  unfold markDisconnected
  split
  · rfl
  · split
    · rfl
    · rename_i current held
      rw [held]
      rfl

theorem killSender_markDisconnected (asked : Option Nat) :
    (state.markDisconnected asked).1.killSender = state.killSender := by
  unfold markDisconnected
  split
  · rfl
  · split <;> rfl

theorem phaseGeneration_markStopped :
    phaseGeneration (state.markStopped generation).phase =
      if phaseGeneration state.phase = some generation then none
      else phaseGeneration state.phase := by
  unfold markStopped
  split <;> rfl

theorem markStopped_of_other (apart : phaseGeneration state.phase ≠ some generation) :
    state.markStopped generation = state := by
  unfold markStopped
  rw [if_neg apart]

theorem view_markStopped {other : Nat} (apart : other ≠ generation) :
    (state.markStopped generation).view other = state.view other := by
  by_cases here : phaseGeneration state.phase = some generation
  · rw [view_of_other here apart, markStopped, if_pos here]
    rfl
  · rw [markStopped_of_other here]

/-- A disconnection of the generation that has the state, or of none, concerns that
generation alone. -/
theorem view_markDisconnected {asked : Option Nat} {other : Nat}
    (own : ∀ current, phaseGeneration state.phase = some current → current ≠ other) :
    (state.markDisconnected asked).1.view other = state.view other := by
  cases here : phaseGeneration state.phase with
  | none =>
      rw [view_of_none here, view_of_none]
      rw [phaseGeneration_markDisconnected, here]
  | some current =>
      have apart := Ne.symm (own current here)
      rw [view_of_other here apart, view_of_other _ apart]
      rw [phaseGeneration_markDisconnected, here]

end Sections

end ProcessState

end Lvos.Agent
