import Lvos.Agent.UiProcess
import Lvos.Lib.Table
import Lvos.Lib.Transition
import Lvos.Sync.Protocol

set_option autoImplicit false

namespace Lvos.System.UiProcess

open Lvos.Ipc Lvos.Agent
open Relational (Table)
open Transition (run Meets run_keeps_of_meets run_raises)
open Lvos.Sync (u64Limit)

/-! The Agent's supervision of the GUI process: every lock section, every wait and every
call of the operating system is a step of its own, and any number of calls run at once. -/

/-- Where a call of `send` is suspended. -/
inductive SendStage
  | entering
  | ensuring
  | spawning (generation : Nat)
  | registering (generation : Nat)
  | abandoning (generation : Nat) (error : UiProcessError)
  | waiting
  | sending
  | disconnecting (generation : Nat)
  | killing (generation target : Nat)
  | done (result : Except UiProcessError Unit)
deriving DecidableEq

/-- The generation whose child this call is responsible for. -/
def SendStage.claim : SendStage → Option Nat
  | .spawning generation | .registering generation | .abandoning generation _ => some generation
  | _ => none

inductive ConnectionStage
  | greeting
  | applying
  | serving
  | closed
  | killing (target : Nat)
  | done
deriving DecidableEq

structure Connection where
  generation : Nat
  stage : ConnectionStage
deriving DecidableEq

inductive Watch
  | unregistered
  | waiting
  | settled
deriving DecidableEq

/-- A launched `lvos-ui` process and the task that waits for it. -/
structure Child where
  alive : Bool
  watch : Watch
deriving DecidableEq

inductive ShutdownStage
  | locking
  | halting (kill : Option Nat) (generation : Option Nat)
  | waiting
  | forcing (target : Nat)
  | done
deriving DecidableEq

/-- `signals` are the generations whose `wait_for_child` was told to kill. -/
structure Supervision where
  state : ProcessState
  nextGeneration : Nat
  shuttingDown : Bool
  sends : Table Nat SendStage
  connections : Table Nat Connection
  children : Table Nat Child
  shutdowns : Table Nat ShutdownStage
  signals : List Nat

/-- The sections of `send`, with `ensure_ready`, `spawn_ui` and `mark_disconnected`. -/
inductive SendSection
  | enter
  | ensure
  | launch (success : Bool)
  | register
  | abandon
  | wake
  | timeout
  | deliver
  | disconnect
  | kill
deriving DecidableEq

inductive ConnectionSection
  | accept
  | becomeReady (processId : Nat)
  | close
  | lose
  | kill
deriving DecidableEq

inductive ChildEvent
  | exit
  | observe
  | waitFails
deriving DecidableEq

inductive ShutdownSection
  | halt
  | stop
  | force
  | kill
  | finish
deriving DecidableEq

inductive SupervisionStep
  | call (id : Nat)
  | send (id : Nat) (part : SendSection)
  | connect (id generation : Nat)
  | serve (id : Nat) (part : ConnectionSection)
  | child (generation : Nat) (event : ChildEvent)
  | approve (requestId : DrawnId) (generation : Nat)
  | cancel (requestId : DrawnId) (generation : Nat)
  | shutdown (id : Nat)
  | halt (id : Nat) (part : ShutdownSection)
deriving DecidableEq

namespace Supervision

def initial : Supervision :=
  ⟨.initial, 1, false, .empty, .empty, .empty, .empty, []⟩

/-- The writer of the connection still receives. -/
def isOpen (world : Supervision) (connection : Nat) : Bool :=
  (world.connections.get connection).any (fun found => found.stage = .serving)

@[simps]
def moveSend (world : Supervision) (id : Nat) (stage : SendStage) : Supervision :=
  { world with sends := world.sends.put id stage }

@[simps]
def moveConnection (world : Supervision) (id generation : Nat) (stage : ConnectionStage) :
    Supervision :=
  { world with connections := world.connections.put id ⟨generation, stage⟩ }

@[simps]
def moveShutdown (world : Supervision) (id : Nat) (stage : ShutdownStage) : Supervision :=
  { world with shutdowns := world.shutdowns.put id stage }

@[simps]
def withState (world : Supervision) (state : ProcessState) : Supervision :=
  { world with state := state }

@[simps]
def withChild (world : Supervision) (generation : Nat) (child : Child) : Supervision :=
  { world with children := world.children.put generation child }

@[simps]
def signal (world : Supervision) (target : Nat) : Supervision :=
  { world with signals := world.signals ++ [target] }

/-- One section of a call of `send`. -/
def stepSend (world : Supervision) (id : Nat) : SendStage → SendSection → Option Supervision
  | .entering, .enter =>
      some (world.moveSend id
        (if world.shuttingDown then .done (.error .shuttingDown) else .ensuring))
  | .ensuring, .ensure =>
      match world.state.ensureReady world.nextGeneration with
      | (_, .ready) => some (world.moveSend id .sending)
      | (state, .spawn generation) =>
          some (({ world with
            state := state
            nextGeneration := world.nextGeneration + 1 } : Supervision).moveSend id
              (.spawning generation))
      | (_, .wait) => some (world.moveSend id .waiting)
  | .spawning generation, .launch success =>
      if success then
        some ((world.withChild generation ⟨true, .unregistered⟩).moveSend id
          (.registering generation))
      else some (world.moveSend id (.abandoning generation .io))
  | .registering generation, .register =>
      match world.state.registerChild generation with
      | .ok state =>
          some (((world.withState state).withChild generation
            ⟨(world.children.get generation).any Child.alive, .waiting⟩).moveSend id .waiting)
      | .error error => some (world.moveSend id (.abandoning generation error))
  | .abandoning generation error, .abandon =>
      some ((world.withState (world.state.markStopped generation)).moveSend id
        (.done (.error error)))
  | .waiting, .wake => some (world.moveSend id .ensuring)
  | .waiting, .timeout => some (world.moveSend id (.done (.error .startupTimeout)))
  | .sending, .deliver =>
      match world.state.trySend world.isOpen with
      | .sent _ => some (world.moveSend id (.done (.ok ())))
      | .notReady => some (world.moveSend id .ensuring)
      | .disconnected =>
          some (world.moveSend id
            (match phaseGeneration world.state.phase with
              | some generation => .disconnecting generation
              | none => .ensuring))
  | .disconnecting generation, .disconnect =>
      match world.state.markDisconnected none with
      | (state, some target) =>
          some ((world.withState state).moveSend id (.killing generation target))
      | (state, none) => some ((world.withState state).moveSend id .ensuring)
  | .killing _ target, .kill => some ((world.signal target).moveSend id .ensuring)
  | _, _ => none

/-- One section of `serve_connection`. -/
def stepConnection (world : Supervision) (id generation : Nat) :
    ConnectionStage → ConnectionSection → Option Supervision
  | .greeting, .accept =>
      some (world.moveConnection id generation
        (if world.state.acceptsHello generation then .applying else .done))
  | .applying, .becomeReady processId =>
      match world.state.becomeReady generation processId id with
      | .ok state => some ((world.withState state).moveConnection id generation .serving)
      | .error _ => some (world.moveConnection id generation .done)
  | .greeting, .close | .applying, .close => some (world.moveConnection id generation .done)
  | .serving, .close => some (world.moveConnection id generation .closed)
  | .closed, .lose =>
      match world.state.markDisconnected (some generation) with
      | (state, some target) =>
          some ((world.withState state).moveConnection id generation (.killing target))
      | (state, none) => some ((world.withState state).moveConnection id generation .done)
  | .killing target, .kill =>
      some ((world.signal target).moveConnection id generation .done)
  | _, _ => none

/-- One section of `wait_for_child`, or what happens to its process. -/
def stepChild (world : Supervision) (generation : Nat) (child : Child) :
    ChildEvent → Option Supervision
  | .exit => if child.alive then some (world.withChild generation { child with alive := false })
      else none
  | .observe =>
      if child.watch = .waiting ∧ child.alive = false then
        some ((world.withState (world.state.markStopped generation)).withChild generation
          { child with watch := .settled })
      else none
  | .waitFails =>
      if child.watch = .waiting then
        some ((world.withState (world.state.markStopped generation)).withChild generation
          { child with watch := .settled })
      else none

/-- One section of `shutdown`; the process gets the message, or the kill signal where it
has no connection, and once more the signal after the timeout. -/
def stepShutdown (world : Supervision) (id : Nat) :
    ShutdownStage → ShutdownSection → Option Supervision
  | .locking, .halt =>
      some ((world.withState world.state.shutdown).moveShutdown id
        (.halting (if world.state.sender.isSome then none else world.state.killSender)
          (phaseGeneration world.state.phase)))
  | .halting kill generation, .stop =>
      some ((match kill with
        | some target => world.signal target
        | none => world).moveShutdown id (if generation.isSome then .waiting else .done))
  | .waiting, .force =>
      some (world.moveShutdown id
        (match world.state.killSender with
          | some target => .forcing target
          | none => .done))
  | .forcing target, .kill => some ((world.signal target).moveShutdown id .done)
  | .waiting, .finish =>
      if world.state.phase = .stopped then some (world.moveShutdown id .done) else none
  | _, _ => none

def step (world : Supervision) : SupervisionStep → Option Supervision
  | .call id => if world.sends.get id = none then some (world.moveSend id .entering) else none
  | .send id part => (world.sends.get id).bind (fun stage => world.stepSend id stage part)
  | .connect id generation =>
      if world.connections.get id = none then
        some (world.moveConnection id generation .greeting)
      else none
  | .serve id part => (world.connections.get id).bind (fun found =>
      world.stepConnection id found.generation found.stage part)
  | .child generation event => (world.children.get generation).bind (fun child =>
      world.stepChild generation child event)
  | .approve requestId generation =>
      some (match world.state.approveIdleExit world.isOpen requestId generation with
        | some (state, _) => world.withState state
        | none => world)
  | .cancel requestId generation =>
      some (world.withState (world.state.cancelIdleExit world.shuttingDown requestId generation))
  | .shutdown id =>
      if world.shutdowns.get id = none then
        some (({ world with shuttingDown := true } : Supervision).moveShutdown id .locking)
      else none
  | .halt id part => (world.shutdowns.get id).bind (fun stage => world.stepShutdown id stage part)

/-- What a step can do to the generations, the children and the calls that claim one. -/
inductive Turn (world : Supervision) : SupervisionStep → Supervision → Prop
  | quiet {action : SupervisionStep} {next : Supervision}
      (phase : phaseGeneration next.state.phase = phaseGeneration world.state.phase)
      (counter : next.nextGeneration = world.nextGeneration)
      (flag : next.shuttingDown = world.shuttingDown)
      (kill : next.state.killSender = world.state.killSender)
      (children : next.children = world.children)
      (claims : ∀ id stage, next.sends.get id = some stage → stage.claim.isSome →
        world.sends.get id = some stage) : Turn world action next
  | claims (id : Nat) (stage : world.sends.get id = some .ensuring)
      (stopped : world.state.phase = .stopped) :
      Turn world (.send id .ensure) (({ world with
        state := { world.state with phase := .starting world.nextGeneration }
        nextGeneration := world.nextGeneration + 1 } : Supervision).moveSend id
          (.spawning world.nextGeneration))
  | launches (id generation : Nat) (stage : world.sends.get id = some (.spawning generation)) :
      Turn world (.send id (.launch true))
        ((world.withChild generation ⟨true, .unregistered⟩).moveSend id (.registering generation))
  | launchFails (id generation : Nat)
      (stage : world.sends.get id = some (.spawning generation)) :
      Turn world (.send id (.launch false)) (world.moveSend id (.abandoning generation .io))
  | registers (id generation : Nat)
      (stage : world.sends.get id = some (.registering generation))
      (starting : world.state.phase = .starting generation) :
      Turn world (.send id .register)
        (((world.withState { world.state with killSender := some generation }).withChild
          generation ⟨(world.children.get generation).any Child.alive, .waiting⟩).moveSend id
            .waiting)
  | registersLate (id generation : Nat)
      (stage : world.sends.get id = some (.registering generation))
      (late : world.state.phase ≠ .starting generation) :
      Turn world (.send id .register)
        (world.moveSend id (.abandoning generation .staleGeneration))
  | abandons (id generation : Nat) (error : UiProcessError)
      (stage : world.sends.get id = some (.abandoning generation error)) :
      Turn world (.send id .abandon)
        ((world.withState (world.state.markStopped generation)).moveSend id
          (.done (.error error)))
  | exits (generation : Nat) (child : Child) (here : world.children.get generation = some child) :
      Turn world (.child generation .exit)
        (world.withChild generation { child with alive := false })
  | settles (generation : Nat) (child : Child) (event : ChildEvent)
      (here : world.children.get generation = some child) (waiting : child.watch = .waiting)
      (seen : child.alive = false ∨ event = .waitFails) :
      Turn world (.child generation event)
        ((world.withState (world.state.markStopped generation)).withChild generation
          { child with watch := .settled })
  | shutsDown (id : Nat) :
      Turn world (.shutdown id)
        (({ world with shuttingDown := true } : Supervision).moveShutdown id .locking)

section Turns

variable {world next : Supervision}

/-- A step that only moves a call along, to a stage without a claim. -/
theorem Turn.moved {action : SupervisionStep} {id : Nat} {stage : SendStage}
    (unclaimed : stage.claim = none)
    (phase : phaseGeneration next.state.phase = phaseGeneration world.state.phase)
    (counter : next.nextGeneration = world.nextGeneration)
    (flag : next.shuttingDown = world.shuttingDown)
    (kill : next.state.killSender = world.state.killSender)
    (children : next.children = world.children)
    (sends : next.sends = world.sends.put id stage) : Turn world action next := by
  refine .quiet phase counter flag kill children ?_
  intro other found read claimed
  rw [sends] at read
  by_cases same : other = id
  · rw [same, Table.get_put_self] at read
    cases read
    rw [unclaimed] at claimed
    cases claimed
  · rwa [Table.get_put_of_ne _ _ same] at read

theorem Turn.kept {action : SupervisionStep}
    (phase : phaseGeneration next.state.phase = phaseGeneration world.state.phase)
    (counter : next.nextGeneration = world.nextGeneration)
    (flag : next.shuttingDown = world.shuttingDown)
    (kill : next.state.killSender = world.state.killSender)
    (children : next.children = world.children)
    (sends : next.sends = world.sends) : Turn world action next :=
  .quiet phase counter flag kill children (fun _ _ read _ => sends ▸ read)

theorem stepSend_turn {id : Nat} {stage : SendStage} {part : SendSection}
    (here : world.sends.get id = some stage) (stepped : world.stepSend id stage part = some next) :
    Turn world (.send id part) next := by
  unfold stepSend at stepped
  split at stepped
  · cases stepped
    by_cases down : world.shuttingDown
    · exact .moved rfl rfl rfl rfl rfl rfl (by simp only [moveSend_sends, if_pos down]; rfl)
    · exact .moved rfl rfl rfl rfl rfl rfl (by simp only [moveSend_sends, if_neg down]; rfl)
  · unfold ProcessState.ensureReady at stepped
    cases phase : world.state.phase with
    | stopped =>
        simp only [phase, Option.some.injEq] at stepped
        subst stepped
        exact .claims id here phase
    | starting generation =>
        simp only [phase, Option.some.injEq] at stepped
        subst stepped
        exact .moved rfl rfl rfl rfl rfl rfl rfl
    | ready generation =>
        simp only [phase, Option.some.injEq] at stepped
        subst stepped
        exact .moved rfl rfl rfl rfl rfl rfl rfl
    | stopping generation =>
        simp only [phase, Option.some.injEq] at stepped
        subst stepped
        exact .moved rfl rfl rfl rfl rfl rfl rfl
  · split at stepped
    · rename_i success
      cases stepped
      rw [success]
      exact .launches id _ here
    · rename_i failed
      cases stepped
      rw [Bool.not_eq_true] at failed
      rw [failed]
      exact .launchFails id _ here
  · split at stepped
    · rename_i registered
      cases stepped
      obtain ⟨starting, rfl⟩ := ProcessState.registerChild_ok registered
      exact .registers id _ here starting
    · rename_i generation _ error refused
      cases stepped
      unfold ProcessState.registerChild at refused
      by_cases starting : world.state.phase = .starting generation
      · simp [starting] at refused
      · simp only [ne_eq, starting, not_false_eq_true, ↓reduceIte, Except.error.injEq] at refused
        subst refused
        exact .registersLate id generation here starting
  · cases stepped
    exact .abandons id _ _ here
  · cases stepped
    exact .moved rfl rfl rfl rfl rfl rfl rfl
  · cases stepped
    exact .moved rfl rfl rfl rfl rfl rfl rfl
  · split at stepped
    · cases stepped
      exact .moved rfl rfl rfl rfl rfl rfl rfl
    · cases stepped
      exact .moved rfl rfl rfl rfl rfl rfl rfl
    · cases stepped
      refine .moved ?_ rfl rfl rfl rfl rfl rfl
      split <;> rfl
  · split at stepped
    · rename_i state target marked
      cases stepped
      have same := @ProcessState.phaseGeneration_markDisconnected world.state none
      have kill := @ProcessState.killSender_markDisconnected world.state none
      rw [marked] at same kill
      exact .moved rfl same rfl rfl kill rfl rfl
    · rename_i state marked
      cases stepped
      have same := @ProcessState.phaseGeneration_markDisconnected world.state none
      have kill := @ProcessState.killSender_markDisconnected world.state none
      rw [marked] at same kill
      exact .moved rfl same rfl rfl kill rfl rfl
  · cases stepped
    exact .moved rfl rfl rfl rfl rfl rfl rfl
  · cases stepped

theorem stepConnection_turn {id generation : Nat} {stage : ConnectionStage}
    {part : ConnectionSection} {action : SupervisionStep}
    (stepped : world.stepConnection id generation stage part = some next) :
    Turn world action next := by
  unfold stepConnection at stepped
  split at stepped
  · cases stepped
    exact .kept rfl rfl rfl rfl rfl rfl
  · split at stepped
    · rename_i became
      cases stepped
      obtain ⟨starting, rfl⟩ := ProcessState.becomeReady_ok became
      exact .kept (by simp [starting, phaseGeneration]) rfl rfl rfl rfl rfl
    · cases stepped
      exact .kept rfl rfl rfl rfl rfl rfl
  · cases stepped
    exact .kept rfl rfl rfl rfl rfl rfl
  · cases stepped
    exact .kept rfl rfl rfl rfl rfl rfl
  · cases stepped
    exact .kept rfl rfl rfl rfl rfl rfl
  · have same := @ProcessState.phaseGeneration_markDisconnected world.state (some generation)
    have kill := @ProcessState.killSender_markDisconnected world.state (some generation)
    split at stepped
    · rename_i marked
      cases stepped
      rw [marked] at same kill
      exact .kept same rfl rfl kill rfl rfl
    · rename_i marked
      cases stepped
      rw [marked] at same kill
      exact .kept same rfl rfl kill rfl rfl
  · cases stepped
    exact .kept rfl rfl rfl rfl rfl rfl
  · cases stepped

theorem stepChild_turn {generation : Nat} {child : Child} {event : ChildEvent}
    (here : world.children.get generation = some child)
    (stepped : world.stepChild generation child event = some next) :
    Turn world (.child generation event) next := by
  unfold stepChild at stepped
  cases event with
  | exit =>
      simp only [Option.ite_none_right_eq_some, Option.some.injEq] at stepped
      obtain ⟨-, rfl⟩ := stepped
      exact .exits generation child here
  | observe =>
      simp only [Option.ite_none_right_eq_some, Option.some.injEq] at stepped
      obtain ⟨⟨waiting, dead⟩, rfl⟩ := stepped
      exact .settles generation child .observe here waiting (Or.inl dead)
  | waitFails =>
      simp only [Option.ite_none_right_eq_some, Option.some.injEq] at stepped
      obtain ⟨waiting, rfl⟩ := stepped
      exact .settles generation child .waitFails here waiting (Or.inr rfl)

theorem stepShutdown_turn {id : Nat} {stage : ShutdownStage} {part : ShutdownSection}
    {action : SupervisionStep} (stepped : world.stepShutdown id stage part = some next) :
    Turn world action next := by
  unfold stepShutdown at stepped
  split at stepped
  · cases stepped
    exact .kept (by simp) rfl rfl rfl rfl rfl
  · cases stepped
    split <;> exact .kept rfl rfl rfl rfl rfl rfl
  · cases stepped
    exact .kept rfl rfl rfl rfl rfl rfl
  · cases stepped
    exact .kept rfl rfl rfl rfl rfl rfl
  · simp only [Option.ite_none_right_eq_some, Option.some.injEq] at stepped
    obtain ⟨-, rfl⟩ := stepped
    exact .kept rfl rfl rfl rfl rfl rfl
  · cases stepped

theorem step_turn {action : SupervisionStep} (stepped : world.step action = some next) :
    Turn world action next := by
  unfold step at stepped
  cases action with
  | call id =>
      simp only [Option.ite_none_right_eq_some, Option.some.injEq] at stepped
      obtain ⟨-, rfl⟩ := stepped
      exact .moved rfl rfl rfl rfl rfl rfl rfl
  | send id part =>
      obtain ⟨stage, here, moved⟩ := Option.bind_eq_some_iff.mp stepped
      exact stepSend_turn here moved
  | connect id generation =>
      simp only [Option.ite_none_right_eq_some, Option.some.injEq] at stepped
      obtain ⟨-, rfl⟩ := stepped
      exact .kept rfl rfl rfl rfl rfl rfl
  | serve id part =>
      obtain ⟨found, -, moved⟩ := Option.bind_eq_some_iff.mp stepped
      exact stepConnection_turn moved
  | child generation event =>
      obtain ⟨child, here, moved⟩ := Option.bind_eq_some_iff.mp stepped
      exact stepChild_turn here moved
  | approve requestId generation =>
      simp only [Option.some.injEq] at stepped
      subst stepped
      split
      · rename_i approved
        obtain ⟨ready, -, -, rfl⟩ := ProcessState.approveIdleExit_ok approved
        exact .kept (by simp [ready, phaseGeneration]) rfl rfl rfl rfl rfl
      · exact .kept rfl rfl rfl rfl rfl rfl
  | cancel requestId generation =>
      simp only [Option.some.injEq] at stepped
      subst stepped
      refine .kept (by simp) rfl rfl ?_ rfl rfl
      simp only [withState_state, ProcessState.cancelIdleExit]
      split <;> rfl
  | shutdown id =>
      simp only [Option.ite_none_right_eq_some, Option.some.injEq] at stepped
      obtain ⟨-, rfl⟩ := stepped
      exact .shutsDown id
  | halt id part =>
      obtain ⟨stage, -, moved⟩ := Option.bind_eq_some_iff.mp stepped
      exact stepShutdown_turn moved

theorem Turn.raises {action : SupervisionStep} (turn : Turn world action next) :
    next.nextGeneration ≤ world.nextGeneration + 1 := by
  cases turn with
  | quiet phase counter flag kill children claims =>
      rw [counter]
      exact Nat.le_succ _
  | claims id stage stopped => exact Nat.le_refl _
  | _ => exact Nat.le_succ _

/-- The source counts the generations in an `AtomicU64`, which no shorter run makes wrap. -/
theorem generations_unwrapped {actions : List SupervisionStep} {last : Supervision}
    (ran : run Supervision.step initial actions = some last)
    (short : actions.length + 2 < u64Limit) :
    (last.nextGeneration + 1) % u64Limit = last.nextGeneration + 1 := by
  have counted : last.nextGeneration ≤ 1 + actions.length :=
    @run_raises Supervision SupervisionStep Supervision.step
      (fun count world => world.nextGeneration ≤ count)
      (fun count world action next bounded stepped =>
        Nat.le_trans (step_turn stepped).raises (Nat.succ_le_succ bounded)) actions 1 initial last
      (Nat.le_refl 1) ran
  exact Nat.mod_eq_of_lt (by omega)

end Turns

/-! The children and the phase. -/

/-- The condition on a step: a child is registered while its generation is still the one
that starts, and waiting for a live child does not fail. -/
def registersInTime (world : Supervision) : SupervisionStep → Bool
  | .send id .register =>
      (world.sends.get id).all (fun stage =>
        match stage with
        | .registering generation => world.state.phase = .starting generation
        | _ => true)
  | .child generation .waitFails =>
      (world.children.get generation).all (fun child => !child.alive)
  | _ => true

/-- What the claims and the children of a world have to do with its phase. -/
structure ChildrenInv (world : Supervision) : Prop where
  known : ∀ generation child, world.children.get generation = some child →
    generation < world.nextGeneration
  current : ∀ generation, phaseGeneration world.state.phase = some generation →
    generation < world.nextGeneration
  unsettled : ∀ generation child, world.children.get generation = some child →
    child.watch ≠ .settled → phaseGeneration world.state.phase = some generation
  settled : ∀ generation child, world.children.get generation = some child →
    child.watch = .settled → child.alive = false
  claimed : ∀ id stage generation, world.sends.get id = some stage →
    stage.claim = some generation → phaseGeneration world.state.phase = some generation
  alone : ∀ id other stage further, world.sends.get id = some stage →
    world.sends.get other = some further → stage.claim.isSome → further.claim.isSome → id = other
  childless : ∀ id stage generation, world.sends.get id = some stage →
    stage.claim = some generation → stage ≠ .registering generation →
    world.children.get generation = none
  unregistered : ∀ id generation, world.sends.get id = some (.registering generation) →
    ∃ child, world.children.get generation = some child ∧ child.watch = .unregistered

section Children

variable {world next : Supervision}

theorem unclaimed_of_free (inv : ChildrenInv world)
    (free : phaseGeneration world.state.phase = none) {id : Nat} {stage : SendStage}
    (here : world.sends.get id = some stage) : stage.claim = none := by
  cases claim : stage.claim with
  | none => rfl
  | some generation =>
      have taken := inv.claimed id stage generation here claim
      rw [free] at taken
      cases taken

theorem settled_of_free (inv : ChildrenInv world)
    (free : phaseGeneration world.state.phase = none) {generation : Nat} {child : Child}
    (here : world.children.get generation = some child) : child.watch = .settled := by
  by_contra unsettled
  have taken := inv.unsettled generation child here unsettled
  rw [free] at taken
  cases taken

theorem ChildrenInv.quiet (inv : ChildrenInv world)
    (phase : phaseGeneration next.state.phase = phaseGeneration world.state.phase)
    (counter : next.nextGeneration = world.nextGeneration)
    (children : next.children = world.children)
    (claims : ∀ id stage, next.sends.get id = some stage → stage.claim.isSome →
      world.sends.get id = some stage) : ChildrenInv next where
  known := by rw [children, counter]; exact inv.known
  current := by rw [phase, counter]; exact inv.current
  unsettled := by rw [children, phase]; exact inv.unsettled
  settled := by rw [children]; exact inv.settled
  claimed := by
    intro id stage generation here claim
    rw [phase]
    exact inv.claimed id stage generation (claims id stage here (by simp [claim])) claim
  alone := by
    intro id other stage further here there claim second
    exact inv.alone id other stage further (claims id stage here claim)
      (claims other further there second) claim second
  childless := by
    intro id stage generation here claim apart
    rw [children]
    exact inv.childless id stage generation (claims id stage here (by simp [claim])) claim apart
  unregistered := by
    intro id generation here
    rw [children]
    exact inv.unregistered id generation (claims id _ here rfl)

theorem ChildrenInv.claims (inv : ChildrenInv world) (id : Nat)
    (stopped : world.state.phase = .stopped) :
    ChildrenInv (({ world with
        state := { world.state with phase := .starting world.nextGeneration }
        nextGeneration := world.nextGeneration + 1 } : Supervision).moveSend id
          (.spawning world.nextGeneration)) := by
  have free : phaseGeneration world.state.phase = none := by rw [stopped]; rfl
  have only : ∀ other stage, (world.sends.put id (.spawning world.nextGeneration)).get other =
      some stage → stage.claim.isSome → other = id ∧ stage = .spawning world.nextGeneration := by
    intro other stage read claim
    by_cases same : other = id
    · rw [same, Table.get_put_self] at read
      cases read
      exact ⟨same, rfl⟩
    · rw [Table.get_put_of_ne _ _ same] at read
      rw [unclaimed_of_free inv free read] at claim
      cases claim
  constructor
  · intro generation child here
    have := inv.known generation child here
    simp only [moveSend_nextGeneration]
    omega
  · intro generation current
    cases current
    exact Nat.lt_succ_self _
  · intro generation child here unsettled
    exact absurd (settled_of_free inv free here) unsettled
  · exact inv.settled
  · intro other stage generation read claim
    obtain ⟨-, rfl⟩ := only other stage read (by simp [claim])
    exact claim
  · intro first second stage further read again claim another
    rw [(only first stage read claim).1, (only second further again another).1]
  · intro other stage generation read claim _
    obtain ⟨-, rfl⟩ := only other stage read (by simp [claim])
    cases claim
    cases here : world.children.get world.nextGeneration with
    | none => exact here
    | some child => exact absurd (inv.known _ child here) (Nat.lt_irrefl _)
  · intro other generation read
    obtain ⟨-, impossible⟩ := only other _ read rfl
    cases impossible

/-- The call with the claim moves on and keeps it. -/
theorem only_claim (inv : ChildrenInv world) {id : Nat} {stage moved : SendStage}
    (here : world.sends.get id = some stage) (claim : stage.claim.isSome) :
    ∀ other found, (world.sends.put id moved).get other = some found → found.claim.isSome →
      other = id ∧ found = moved := by
  intro other found read claimed
  by_cases same : other = id
  · rw [same, Table.get_put_self] at read
    cases read
    exact ⟨same, rfl⟩
  · rw [Table.get_put_of_ne _ _ same] at read
    exact absurd (inv.alone other id found stage read here claimed claim) same

/-- A child is put for the generation of the phase, or one that has ended. -/
theorem putChild (inv : ChildrenInv world) {generation : Nat} {child : Child}
    {phase : Option Nat} (bound : generation < world.nextGeneration)
    (kept : ∀ other found, other ≠ generation → world.children.get other = some found →
      found.watch ≠ .settled → phase = some other)
    (own : child.watch ≠ .settled → phase = some generation)
    (dead : child.watch = .settled → child.alive = false) :
    ∀ other found, (world.children.put generation child).get other = some found →
      other < world.nextGeneration ∧ (found.watch ≠ .settled → phase = some other) ∧
        (found.watch = .settled → found.alive = false) := by
  intro other found read
  by_cases same : other = generation
  · rw [same, Table.get_put_self] at read
    cases read
    rw [same]
    exact ⟨bound, own, dead⟩
  · rw [Table.get_put_of_ne _ _ same] at read
    exact ⟨inv.known other found read, kept other found same read, inv.settled other found read⟩

theorem ChildrenInv.launches (inv : ChildrenInv world) {id generation : Nat}
    (here : world.sends.get id = some (.spawning generation)) :
    ChildrenInv ((world.withChild generation ⟨true, .unregistered⟩).moveSend id
      (.registering generation)) := by
  have phase := inv.claimed id _ generation here rfl
  have only := @only_claim world inv id _ (.registering generation) here rfl
  have children := @putChild world inv generation ⟨true, .unregistered⟩ _
    (inv.current generation phase) (fun other found _ => inv.unsettled other found) (fun _ => phase) nofun
  refine ⟨fun other found read => (children other found read).1, inv.current,
    fun other found read => (children other found read).2.1,
    fun other found read => (children other found read).2.2, ?_, ?_, ?_, ?_⟩
  · intro other stage target read claim
    obtain ⟨-, rfl⟩ := only other stage read (by simp [claim])
    cases claim
    exact phase
  · intro first second stage further read again claim another
    rw [(only first stage read claim).1, (only second further again another).1]
  · intro other stage target read claim apart
    obtain ⟨-, rfl⟩ := only other stage read (by simp [claim])
    cases claim
    exact absurd rfl apart
  · intro other target read
    obtain ⟨-, same⟩ := only other _ read rfl
    cases same
    exact ⟨_, Table.get_put_self _ _ _, rfl⟩

/-- A call that keeps its claim without a child. -/
theorem ChildrenInv.gives_up (inv : ChildrenInv world) {id generation : Nat} {stage : SendStage}
    {error : UiProcessError} (here : world.sends.get id = some stage)
    (claim : stage.claim = some generation) (none : world.children.get generation = none) :
    ChildrenInv (world.moveSend id (.abandoning generation error)) := by
  have phase := inv.claimed id stage generation here claim
  have only := @only_claim world inv id stage (.abandoning generation error) here (by simp [claim])
  refine ⟨inv.known, inv.current, inv.unsettled, inv.settled, ?_, ?_, ?_, ?_⟩
  · intro other found target read claimed
    obtain ⟨-, rfl⟩ := only other found read (by simp [claimed])
    cases claimed
    exact phase
  · intro first second found further read again claimed another
    rw [(only first found read claimed).1, (only second further again another).1]
  · intro other found target read claimed _
    obtain ⟨-, rfl⟩ := only other found read (by simp [claimed])
    cases claimed
    exact none
  · intro other target read
    obtain ⟨-, impossible⟩ := only other _ read rfl
    cases impossible

theorem ChildrenInv.registers (inv : ChildrenInv world) {id generation : Nat}
    (here : world.sends.get id = some (.registering generation)) :
    ChildrenInv (((world.withState { world.state with killSender := some generation }).withChild
      generation ⟨(world.children.get generation).any Child.alive, .waiting⟩).moveSend id
        .waiting) := by
  have phase := inv.claimed id _ generation here rfl
  have only := @only_claim world inv id _ .waiting here rfl
  have unclaimed : ∀ other found, (world.sends.put id .waiting).get other = some found →
      found.claim = none := by
    intro other found read
    by_contra claimed
    have some := Option.isSome_iff_ne_none.mpr claimed
    rw [(only other found read some).2] at some
    cases some
  have children := @putChild world inv generation
    ⟨(world.children.get generation).any Child.alive, .waiting⟩ _ (inv.current generation phase)
    (fun other found _ => inv.unsettled other found) (fun _ => phase) nofun
  refine ⟨fun other found read => (children other found read).1, inv.current,
    fun other found read => (children other found read).2.1,
    fun other found read => (children other found read).2.2, ?_, ?_, ?_, ?_⟩
  · intro other found target read claimed
    rw [unclaimed other found read] at claimed
    cases claimed
  · intro first second found further read _ claimed
    rw [unclaimed first found read] at claimed
    cases claimed
  · intro other found target read claimed
    rw [unclaimed other found read] at claimed
    cases claimed
  · intro other target read
    have claimed := unclaimed other _ read
    cases claimed


/-- The phase is free again: every child has ended and no call has a claim. -/
theorem ChildrenInv.freed (free : phaseGeneration next.state.phase = none)
    (children : ∀ generation child, next.children.get generation = some child →
      generation < next.nextGeneration ∧ child.watch = .settled ∧ child.alive = false)
    (unclaimed : ∀ id stage, next.sends.get id = some stage → stage.claim = none) :
    ChildrenInv next where
  known := fun generation child here => (children generation child here).1
  current := by
    intro generation current
    rw [free] at current
    cases current
  unsettled := fun generation child here unsettled =>
    absurd (children generation child here).2.1 unsettled
  settled := fun generation child here _ => (children generation child here).2.2
  claimed := by
    intro id stage generation here claim
    rw [unclaimed id stage here] at claim
    cases claim
  alone := by
    intro id other stage further here _ claim
    rw [unclaimed id stage here] at claim
    cases claim
  childless := by
    intro id stage generation here claim
    rw [unclaimed id stage here] at claim
    cases claim
  unregistered := by
    intro id generation here
    have claim := unclaimed id _ here
    cases claim

theorem ChildrenInv.abandons (inv : ChildrenInv world) {id generation : Nat}
    {error : UiProcessError}
    (here : world.sends.get id = some (.abandoning generation error)) :
    ChildrenInv ((world.withState (world.state.markStopped generation)).moveSend id
      (.done (.error error))) := by
  have phase := inv.claimed id _ generation here rfl
  have childless := inv.childless id _ generation here rfl nofun
  apply ChildrenInv.freed
  · rw [moveSend_state, withState_state, ProcessState.phaseGeneration_markStopped, if_pos phase]
  · intro other child found
    have settled : child.watch = .settled := by
      by_contra unsettled
      have current := inv.unsettled other child found unsettled
      rw [phase] at current
      cases current
      rw [moveSend_children, withState_children, childless] at found
      cases found
    exact ⟨inv.known other child found, settled, inv.settled other child found settled⟩
  · intro other stage read
    by_contra claimed
    obtain ⟨-, rfl⟩ := @only_claim world inv id _ (.done (.error error)) here rfl other stage
      read (Option.isSome_iff_ne_none.mpr claimed)
    exact claimed rfl

theorem ChildrenInv.settles (inv : ChildrenInv world) {generation : Nat} {child : Child}
    (here : world.children.get generation = some child) (waiting : child.watch = .waiting)
    (dead : child.alive = false) :
    ChildrenInv ((world.withState (world.state.markStopped generation)).withChild generation
      { child with watch := .settled }) := by
  have phase := inv.unsettled generation child here (by simp [waiting])
  apply ChildrenInv.freed
  · rw [withChild_state, withState_state, ProcessState.phaseGeneration_markStopped, if_pos phase]
  · intro other found read
    by_cases same : other = generation
    · rw [same, withChild_children, Table.get_put_self] at read
      cases read
      rw [same]
      exact ⟨inv.known generation child here, rfl, dead⟩
    · rw [withChild_children, Table.get_put_of_ne _ _ same] at read
      have settled : found.watch = .settled := by
        by_contra unsettled
        have current := inv.unsettled other found read unsettled
        rw [phase] at current
        cases current
        exact same rfl
      exact ⟨inv.known other found read, settled, inv.settled other found read settled⟩
  · intro id stage read
    by_contra claimed
    obtain ⟨target, claim⟩ := Option.ne_none_iff_exists'.mp claimed
    have current := inv.claimed id stage target read claim
    rw [phase] at current
    cases current
    by_cases registering : stage = .registering generation
    · rw [registering] at read
      obtain ⟨other, found, unregistered⟩ := inv.unregistered id generation read
      rw [here] at found
      cases found
      rw [waiting] at unregistered
      cases unregistered
    · have none := inv.childless id stage generation read claim registering
      rw [here] at none
      cases none

theorem ChildrenInv.exits (inv : ChildrenInv world) {generation : Nat} {child : Child}
    (here : world.children.get generation = some child) :
    ChildrenInv (world.withChild generation { child with alive := false }) := by
  have children := @putChild world inv generation { child with alive := false } _
    (inv.known generation child here) (fun other found _ => inv.unsettled other found)
    (inv.unsettled generation child here) (fun _ => rfl)
  refine ⟨fun other found read => (children other found read).1, inv.current,
    fun other found read => (children other found read).2.1,
    fun other found read => (children other found read).2.2, inv.claimed, inv.alone, ?_, ?_⟩
  · intro id stage target read claim apart
    have none := inv.childless id stage target read claim apart
    have different : target ≠ generation := by
      rintro rfl
      rw [here] at none
      cases none
    rw [withChild_children, Table.get_put_of_ne _ _ different]
    exact none
  · intro id target read
    obtain ⟨found, registered, unregistered⟩ := inv.unregistered id target read
    by_cases same : target = generation
    · rw [same] at registered ⊢
      rw [here] at registered
      cases registered
      exact ⟨_, Table.get_put_self _ _ _, unregistered⟩
    · refine ⟨found, ?_, unregistered⟩
      rw [withChild_children, Table.get_put_of_ne _ _ same]
      exact registered

theorem ChildrenInv.initial : ChildrenInv Supervision.initial := by
  apply ChildrenInv.freed
  · rfl
  · intro generation child here
    cases here
  · intro id stage here
    cases here

theorem ChildrenInv.step (inv : ChildrenInv world) {action : SupervisionStep}
    (meets : registersInTime world action = true) (stepped : world.step action = some next) :
    ChildrenInv next := by
  cases step_turn stepped with
  | quiet phase counter flag kill children claims => exact inv.quiet phase counter children claims
  | claims id stage stopped => exact inv.claims id stopped
  | launches id generation stage => exact inv.launches stage
  | launchFails id generation stage =>
      exact inv.gives_up stage rfl (inv.childless id _ generation stage rfl nofun)
  | registers id generation stage starting => exact inv.registers stage
  | registersLate id generation stage late =>
      simp [registersInTime, stage, late] at meets
  | abandons id generation error stage => exact inv.abandons stage
  | exits generation child here => exact inv.exits here
  | settles generation child event here waiting seen =>
      apply inv.settles here waiting
      rcases seen with dead | rfl
      · exact dead
      · simpa [registersInTime, here] using meets
  | shutsDown id =>
      exact inv.quiet rfl rfl rfl (fun _ _ read _ => read)

/-- In every run that registers its children in time, each live child has the generation of
the phase. -/
theorem one_gui_process {actions : List SupervisionStep} {last : Supervision}
    (meets : Meets Supervision.step (fun world action => registersInTime world action = true)
      Supervision.initial actions)
    (ran : run Supervision.step Supervision.initial actions = some last) :
    (∀ generation child, last.children.get generation = some child → child.alive = true →
      phaseGeneration last.state.phase = some generation) ∧
    (∀ first second child other, last.children.get first = some child →
      last.children.get second = some other → child.alive = true → other.alive = true →
      first = second) := by
  have inv : ChildrenInv last := run_keeps_of_meets
    (fun _ _ _ here condition stepped => ChildrenInv.step here condition stepped) actions _ last
    .initial meets ran
  have current : ∀ generation child, last.children.get generation = some child →
      child.alive = true → phaseGeneration last.state.phase = some generation := by
    intro generation child here alive
    apply inv.unsettled generation child here
    intro settled
    rw [inv.settled generation child here settled] at alive
    cases alive
  refine ⟨current, ?_⟩
  intro first second child other here there alive living
  have same := current first child here alive
  rw [current second other there living] at same
  exact (Option.some.inj same).symm

/-- The Agent shuts down between the launch of a child and its registration. -/
def lateRun : List SupervisionStep :=
  [.call 0, .send 0 .enter, .send 0 .ensure, .send 0 (.launch true), .shutdown 0,
    .halt 0 .halt, .send 0 .register, .send 0 .abandon]

/-- The call gives its generation up, and its process lives on. -/
theorem gui_process_left_alive :
    ∃ last, run Supervision.step Supervision.initial lateRun = some last ∧
      last.children.get 1 = some ⟨true, .unregistered⟩ ∧ last.state.phase = .stopped := by
  have facts : (run Supervision.step Supervision.initial lateRun).any (fun last =>
      decide (last.children.get 1 = some ⟨true, .unregistered⟩ ∧
        last.state.phase = .stopped)) = true := by
    decide
  obtain ⟨last, ran, holds⟩ := (Option.any_eq_true _ _).mp facts
  exact ⟨last, ran, of_decide_eq_true holds⟩

/-- A second generation starts once the first has ended. -/
def succeedingRun : List SupervisionStep :=
  [.call 0, .send 0 .enter, .send 0 .ensure, .send 0 (.launch true), .send 0 .register,
    .child 1 .exit, .child 1 .observe, .send 0 .wake, .send 0 .ensure, .send 0 (.launch true)]

theorem one_gui_process_succeeding :
    ∃ last, run Supervision.step Supervision.initial succeedingRun = some last ∧
      last.children.get 2 = some ⟨true, .unregistered⟩ ∧
      phaseGeneration last.state.phase = some 2 := by
  have facts : (run Supervision.step Supervision.initial succeedingRun).any (fun last =>
      decide (last.children.get 2 = some ⟨true, .unregistered⟩)) = true := by
    decide
  have meets : Meets Supervision.step (fun world action => registersInTime world action = true)
      Supervision.initial succeedingRun := by
    decide
  obtain ⟨last, ran, holds⟩ := (Option.any_eq_true _ _).mp facts
  have launched := of_decide_eq_true holds
  exact ⟨last, ran, launched, (one_gui_process meets ran).1 2 _ launched rfl⟩

end Children

end Supervision

end Lvos.System.UiProcess
