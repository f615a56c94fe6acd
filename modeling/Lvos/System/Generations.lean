import Lvos.System.Supervision

set_option autoImplicit false

namespace Lvos.System.UiProcess

open Lvos.Ipc Lvos.Agent
open Relational (Table)
open Transition (run Meets run_keeps run_keeps_of_meets run_keeps_history)

namespace Supervision

section Shutdown

variable {world next : Supervision}

/-! Shutdown. -/

/-- The condition on a step: no call is about to launch a child when the flag is set, and
no call that is under way then finds the phase stopped. -/
def respawnsNone (world : Supervision) : SupervisionStep → Bool
  | .shutdown _ => world.sends.rows.all (fun row =>
      match row.2 with
      | .spawning _ => false
      | _ => true)
  | .send _ .ensure => !(world.shuttingDown && world.state.phase = .stopped)
  | _ => true

/-- Once the flag is set, no call is about to launch a child. -/
def LaunchesOver (world : Supervision) : Prop :=
  world.shuttingDown = true → ∀ id generation, world.sends.get id ≠ some (.spawning generation)

theorem LaunchesOver.moved {id : Nat} {stage : SendStage} (ended : LaunchesOver world)
    (flag : next.shuttingDown = world.shuttingDown)
    (sends : next.sends = world.sends.put id stage)
    (elsewhere : ∀ generation, stage ≠ .spawning generation) : LaunchesOver next := by
  intro down other generation read
  rw [flag] at down
  rw [sends] at read
  by_cases same : other = id
  · rw [same, Table.get_put_self] at read
    exact elsewhere generation (Option.some.inj read)
  · rw [Table.get_put_of_ne _ _ same] at read
    exact ended down other generation read

theorem LaunchesOver.step (ended : LaunchesOver world) {action : SupervisionStep}
    (meets : respawnsNone world action = true) (stepped : world.step action = some next) :
    LaunchesOver next := by
  cases step_turn stepped with
  | quiet phase counter flag kill children claims =>
      intro down id generation read
      rw [flag] at down
      exact ended down id generation (claims id _ read rfl)
  | claims id stage stopped =>
      intro down
      have up : world.shuttingDown = false := by simpa [respawnsNone, stopped] using meets
      rw [moveSend_shuttingDown, up] at down
      cases down
  | launches id generation stage => exact ended.moved rfl rfl nofun
  | launchFails id generation stage => exact ended.moved rfl rfl nofun
  | registers id generation stage starting => exact ended.moved rfl rfl nofun
  | registersLate id generation stage late => exact ended.moved rfl rfl nofun
  | abandons id generation error stage => exact ended.moved rfl rfl nofun
  | exits generation child here => exact ended
  | settles generation child event here waiting seen => exact ended
  | shutsDown id =>
      intro _ other generation read
      have none := List.all_eq_true.mp meets (other, .spawning generation)
        ((Table.mem_rows_iff _ _ _).mpr read)
      cases none

/-- What a shutdown leaves as it was: the counter, the children that were launched, and a
phase that is stopped. -/
structure Unrevived (world next : Supervision) : Prop where
  down : next.shuttingDown = true
  counter : next.nextGeneration = world.nextGeneration
  children : ∀ generation, (next.children.get generation).isSome →
    (world.children.get generation).isSome
  phase : phaseGeneration world.state.phase = none → phaseGeneration next.state.phase = none

theorem isSome_of_put {table : Table Nat Child} {key other : Nat} {row old : Child}
    (here : table.get key = some old) (present : ((table.put key row).get other).isSome) :
    (table.get other).isSome := by
  by_cases same : other = key
  · simp [same, here]
  · rwa [Table.get_put_of_ne _ _ same] at present

/-- A call that registers a child has launched it. -/
def Recorded (world : Supervision) : Prop :=
  ∀ id generation, world.sends.get id = some (.registering generation) →
    (world.children.get generation).isSome

theorem Recorded.moved {id : Nat} {stage : SendStage} (recorded : Recorded world)
    (sends : next.sends = world.sends.put id stage)
    (children : ∀ generation, (world.children.get generation).isSome →
      (next.children.get generation).isSome)
    (elsewhere : ∀ generation, stage ≠ .registering generation) : Recorded next := by
  intro other generation read
  rw [sends] at read
  by_cases same : other = id
  · rw [same, Table.get_put_self] at read
    exact absurd (Option.some.inj read) (elsewhere generation)
  · rw [Table.get_put_of_ne _ _ same] at read
    exact children generation (recorded other generation read)

theorem Recorded.step (recorded : Recorded world) {action : SupervisionStep}
    (stepped : world.step action = some next) : Recorded next := by
  cases step_turn stepped with
  | quiet phase counter flag kill children claims =>
      intro id generation read
      rw [children]
      exact recorded id generation (claims id _ read rfl)
  | claims id stage stopped =>
      exact recorded.moved rfl (fun _ present => present) (by rintro other ⟨⟩)
  | launches id generation stage =>
      intro other target read
      by_cases same : target = generation
      · simp [same]
      · rw [moveSend_children, withChild_children, Table.get_put_of_ne _ _ same]
        by_cases own : other = id
        · rw [moveSend_sends, own, Table.get_put_self] at read
          cases read
          exact absurd rfl same
        · rw [moveSend_sends, Table.get_put_of_ne _ _ own] at read
          exact recorded other target read
  | launchFails id generation stage =>
      exact recorded.moved rfl (fun _ present => present) (by rintro other ⟨⟩)
  | registers id generation stage starting =>
      exact recorded.moved rfl
        (fun other present => Table.isSome_get_put _ generation _ present) (by rintro other ⟨⟩)
  | registersLate id generation stage late =>
      exact recorded.moved rfl (fun _ present => present) (by rintro other ⟨⟩)
  | abandons id generation error stage =>
      exact recorded.moved rfl (fun _ present => present) (by rintro other ⟨⟩)
  | exits generation child here =>
      intro id target read
      exact Table.isSome_get_put _ generation _ (recorded id target read)
  | settles generation child event here waiting seen =>
      intro id target read
      exact Table.isSome_get_put _ generation _ (recorded id target read)
  | shutsDown id => exact recorded

theorem unrevived_step (recorded : Recorded world)
    (down : world.shuttingDown = true) (ended : LaunchesOver world) {action : SupervisionStep}
    (meets : respawnsNone world action = true) (stepped : world.step action = some next) :
    Unrevived world next := by
  cases step_turn stepped with
  | quiet phase counter flag kill children claims =>
      exact ⟨flag.trans down, counter, fun _ present => children ▸ present,
        fun free => phase.trans free⟩
  | claims id stage stopped => simp [respawnsNone, stopped, down] at meets
  | launches id generation stage => exact absurd stage (ended down id generation)
  | launchFails id generation stage => exact absurd stage (ended down id generation)
  | registers id generation stage starting =>
      obtain ⟨child, here⟩ := Option.isSome_iff_exists.mp (recorded id generation stage)
      exact ⟨down, rfl, fun _ present => isSome_of_put here present, fun free => free⟩
  | registersLate id generation stage late =>
      exact ⟨down, rfl, fun _ present => present, fun free => free⟩
  | abandons id generation error stage =>
      refine ⟨down, rfl, fun _ present => present, ?_⟩
      intro free
      rw [moveSend_state, withState_state, ProcessState.phaseGeneration_markStopped, free]
      simp
  | exits generation child here =>
      exact ⟨down, rfl, fun _ present => isSome_of_put here present, fun free => free⟩
  | settles generation child event here waiting seen =>
      refine ⟨down, rfl, fun _ present => isSome_of_put here present, ?_⟩
      intro free
      rw [withChild_state, withState_state, ProcessState.phaseGeneration_markStopped, free]
      simp
  | shutsDown id => exact ⟨rfl, rfl, fun _ present => present, fun free => free⟩

/-- Where the phase is stopped, a call that ends there ends with an error. -/
theorem stepSend_fails {id : Nat} {stage : SendStage} {part : SendSection}
    (stopped : world.state.phase = .stopped)
    (stepped : world.stepSend id stage part = some next) :
    ∃ moved, next.sends = world.sends.put id moved ∧
      ∀ result, moved = .done result → ∃ error, result = .error error := by
  unfold stepSend at stepped
  split at stepped
  · cases stepped
    refine ⟨_, rfl, ?_⟩
    intro result ends
    split at ends
    · cases ends
      exact ⟨.shuttingDown, rfl⟩
    · cases ends
  · simp only [ProcessState.ensureReady, stopped, Option.some.injEq] at stepped
    subst stepped
    exact ⟨_, rfl, nofun⟩
  · split at stepped
    · cases stepped
      exact ⟨_, rfl, nofun⟩
    · cases stepped
      exact ⟨_, rfl, nofun⟩
  · split at stepped
    · cases stepped
      exact ⟨_, rfl, nofun⟩
    · cases stepped
      exact ⟨_, rfl, nofun⟩
  · cases stepped
    refine ⟨_, rfl, ?_⟩
    intro result ends
    cases ends
    exact ⟨_, rfl⟩
  · cases stepped
    exact ⟨_, rfl, nofun⟩
  · cases stepped
    refine ⟨_, rfl, ?_⟩
    intro result ends
    cases ends
    exact ⟨_, rfl⟩
  · simp only [ProcessState.trySend, stopped, Option.some.injEq] at stepped
    subst stepped
    exact ⟨_, rfl, nofun⟩
  · split at stepped
    · cases stepped
      exact ⟨_, rfl, nofun⟩
    · cases stepped
      exact ⟨_, rfl, nofun⟩
  · cases stepped
    exact ⟨_, rfl, nofun⟩
  · cases stepped

theorem sends_stepConnection {id generation : Nat} {stage : ConnectionStage}
    {part : ConnectionSection}
    (stepped : world.stepConnection id generation stage part = some next) :
    next.sends = world.sends := by
  unfold stepConnection at stepped
  split at stepped
  all_goals first
    | cases stepped
      rfl
    | split at stepped <;> cases stepped <;> rfl
    | cases stepped

theorem sends_stepChild {generation : Nat} {child : Child} {event : ChildEvent}
    (stepped : world.stepChild generation child event = some next) :
    next.sends = world.sends := by
  unfold stepChild at stepped
  cases event
  all_goals
    simp only [Option.ite_none_right_eq_some, Option.some.injEq] at stepped
    obtain ⟨-, rfl⟩ := stepped
    rfl

theorem sends_stepShutdown {id : Nat} {stage : ShutdownStage} {part : ShutdownSection}
    (stepped : world.stepShutdown id stage part = some next) :
    next.sends = world.sends := by
  unfold stepShutdown at stepped
  split at stepped
  · cases stepped
    rfl
  · cases stepped
    split <;> rfl
  · cases stepped
    rfl
  · cases stepped
    rfl
  · simp only [Option.ite_none_right_eq_some, Option.some.injEq] at stepped
    obtain ⟨-, rfl⟩ := stepped
    rfl
  · cases stepped

/-- A step moves at most the call it is a section of. -/
theorem sends_step {action : SupervisionStep} (stepped : world.step action = some next) :
    next.sends = world.sends ∨
    (∃ id, action = .call id ∧ next.sends = world.sends.put id .entering) ∨
    ∃ id part stage, action = .send id part ∧ world.sends.get id = some stage ∧
      world.stepSend id stage part = some next := by
  unfold step at stepped
  cases action with
  | call id =>
      simp only [Option.ite_none_right_eq_some, Option.some.injEq] at stepped
      obtain ⟨-, rfl⟩ := stepped
      exact .inr (.inl ⟨id, rfl, rfl⟩)
  | send id part =>
      obtain ⟨stage, here, moved⟩ := Option.bind_eq_some_iff.mp stepped
      exact .inr (.inr ⟨id, part, stage, rfl, here, moved⟩)
  | connect id generation =>
      simp only [Option.ite_none_right_eq_some, Option.some.injEq] at stepped
      obtain ⟨-, rfl⟩ := stepped
      exact .inl rfl
  | serve id part =>
      obtain ⟨found, -, moved⟩ := Option.bind_eq_some_iff.mp stepped
      exact .inl (sends_stepConnection moved)
  | child generation event =>
      obtain ⟨child, -, moved⟩ := Option.bind_eq_some_iff.mp stepped
      exact .inl (sends_stepChild moved)
  | approve requestId generation =>
      simp only [Option.some.injEq] at stepped
      subst stepped
      left
      split <;> rfl
  | cancel requestId generation =>
      simp only [Option.some.injEq] at stepped
      subst stepped
      exact .inl rfl
  | shutdown id =>
      simp only [Option.ite_none_right_eq_some, Option.some.injEq] at stepped
      obtain ⟨-, rfl⟩ := stepped
      exact .inl rfl
  | halt id part =>
      obtain ⟨stage, -, moved⟩ := Option.bind_eq_some_iff.mp stepped
      exact .inl (sends_stepShutdown moved)

/-- The calls that end after the phase was seen stopped end with an error. -/
def EndsInError (world next : Supervision) : Prop :=
  ∀ id result, next.sends.get id = some (.done result) →
    world.sends.get id = some (.done result) ∨ ∃ error, result = .error error

theorem endsInError_step (stopped : world.state.phase = .stopped) {action : SupervisionStep}
    (stepped : world.step action = some next) : EndsInError world next := by
  intro other result read
  rcases sends_step stepped with same | ⟨id, -, put⟩ | ⟨id, part, stage, -, -, moved⟩
  · rw [same] at read
    exact .inl read
  · rw [put] at read
    by_cases own : other = id
    · rw [own, Table.get_put_self] at read
      cases read
    · rw [Table.get_put_of_ne _ _ own] at read
      exact .inl read
  · obtain ⟨reached, put, fails⟩ := stepSend_fails stopped moved
    rw [put] at read
    by_cases own : other = id
    · rw [own, Table.get_put_self] at read
      exact .inr (fails result (Option.some.inj read))
    · rw [Table.get_put_of_ne _ _ own] at read
      exact .inl read

theorem stopped_iff {state : ProcessState} :
    phaseGeneration state.phase = none ↔ state.phase = .stopped := by
  cases state.phase <;> simp [phaseGeneration]

/-- What holds along a run that starts with the flag set. -/
structure AfterShutdown (first : Supervision) (actions : List SupervisionStep)
    (world : Supervision) : Prop extends Unrevived first world where
  recorded : Recorded world
  ended : LaunchesOver world
  launched : ∀ id, SupervisionStep.send id (.launch true) ∉ actions
  ends : first.state.phase = .stopped → EndsInError first world

theorem AfterShutdown.step {first : Supervision} {actions : List SupervisionStep}
    (after : AfterShutdown first actions world) {action : SupervisionStep}
    (meets : respawnsNone world action = true) (stepped : world.step action = some next) :
    AfterShutdown first (actions ++ [action]) next := by
  have once := unrevived_step after.recorded after.down after.ended meets stepped
  refine ⟨⟨once.down, once.counter.trans after.counter,
    fun generation present => after.children generation (once.children generation present),
    fun free => once.phase (after.phase free)⟩, after.recorded.step stepped,
    after.ended.step meets stepped, ?_, ?_⟩
  · intro id member
    rcases List.mem_append.mp member with before | now
    · exact after.launched id before
    · rw [List.mem_singleton] at now
      subst now
      obtain ⟨stage, here, moved⟩ := Option.bind_eq_some_iff.mp stepped
      cases stage with
      | spawning generation => exact after.ended after.down id generation here
      | _ => cases moved
  · intro stopped id result read
    have here : world.state.phase = .stopped :=
      stopped_iff.mp (after.phase (stopped_iff.mpr stopped))
    rcases endsInError_step here stepped id result read with before | fails
    · exact after.ends stopped id result before
    · exact .inr fails

/-- In every run that meets the condition: once the flag is set no process is launched, a
stopped phase stays stopped, and every call that ends while it is stopped fails. -/
theorem no_respawn_after_shutdown {before after : List SupervisionStep}
    {middle last : Supervision}
    (meets : Meets Supervision.step (fun world action => respawnsNone world action = true)
      Supervision.initial before)
    (ran : run Supervision.step Supervision.initial before = some middle)
    (down : middle.shuttingDown = true)
    (met : Meets Supervision.step (fun world action => respawnsNone world action = true)
      middle after)
    (went : run Supervision.step middle after = some last) :
    (∀ id, SupervisionStep.send id (.launch true) ∉ after) ∧
    last.nextGeneration = middle.nextGeneration ∧
    (∀ generation, (last.children.get generation).isSome →
      (middle.children.get generation).isSome) ∧
    (middle.state.phase = .stopped →
      last.state.phase = .stopped ∧
      ∀ id result, last.sends.get id = some (.done result) →
        middle.sends.get id = some (.done result) ∨ ∃ error, result = .error error) := by
  have fresh : Recorded Supervision.initial := by
    intro id generation read
    cases read
  have idle : LaunchesOver Supervision.initial := by
    intro set
    cases set
  have recorded : Recorded middle :=
    run_keeps (fun _ _ _ here stepped => Recorded.step here stepped) fresh ran
  have ended : LaunchesOver middle := run_keeps_of_meets
    (fun _ _ _ here condition stepped => LaunchesOver.step here condition stepped) before _
    middle idle meets ran
  have start : AfterShutdown middle [] middle :=
    ⟨⟨down, rfl, fun _ present => present, fun free => free⟩, recorded, ended, nofun,
      fun _ _ _ read => .inl read⟩
  have reached := @run_keeps_history _ _ _ _ (AfterShutdown middle)
    (fun _ _ _ _ here condition stepped => AfterShutdown.step here condition stepped) after []
    middle last start met went
  exact ⟨reached.launched, reached.counter, reached.children, fun stopped =>
    ⟨stopped_iff.mp (reached.phase (stopped_iff.mpr stopped)), reached.ends stopped⟩⟩

/-- A call waits for the first generation while the Agent shuts down. -/
def overtakenRun : List SupervisionStep :=
  [.call 0, .send 0 .enter, .send 0 .ensure, .send 0 (.launch true), .send 0 .register,
    .shutdown 0, .halt 0 .halt, .child 1 .exit, .child 1 .observe]

/-- The waiting call wakes, takes a new generation and launches a second process. -/
theorem respawned_after_shutdown :
    ∃ middle last, run Supervision.step Supervision.initial overtakenRun = some middle ∧
      middle.shuttingDown = true ∧ middle.state.phase = .stopped ∧
      run Supervision.step middle [.send 0 .wake, .send 0 .ensure, .send 0 (.launch true)] =
        some last ∧
      last.state.phase = .starting 2 ∧ middle.children.get 2 = none ∧
      last.children.get 2 = some ⟨true, .unregistered⟩ := by
  have facts : (run Supervision.step Supervision.initial overtakenRun).any (fun middle =>
      (run Supervision.step middle
        [.send 0 .wake, .send 0 .ensure, .send 0 (.launch true)]).any (fun last =>
          decide (middle.shuttingDown = true ∧ middle.state.phase = .stopped ∧
            last.state.phase = .starting 2 ∧ middle.children.get 2 = none ∧
            last.children.get 2 = some ⟨true, .unregistered⟩))) = true := by
    decide
  obtain ⟨middle, ran, rest⟩ := (Option.any_eq_true _ _).mp facts
  obtain ⟨last, went, holds⟩ := (Option.any_eq_true _ _).mp rest
  obtain ⟨down, stopped, starting, none, launched⟩ := of_decide_eq_true holds
  exact ⟨middle, last, ran, down, stopped, went, starting, none, launched⟩

/-- The waiting call times out instead, and no process follows. -/
theorem no_respawn_after_timeout :
    ∃ middle last, run Supervision.step Supervision.initial overtakenRun = some middle ∧
      run Supervision.step middle [.send 0 .timeout] = some last ∧
      last.state.phase = .stopped ∧ last.nextGeneration = middle.nextGeneration := by
  have facts : (run Supervision.step Supervision.initial overtakenRun).any (fun middle =>
      (run Supervision.step middle [.send 0 .timeout]).any (fun _ =>
        decide (middle.shuttingDown = true ∧ middle.state.phase = .stopped ∧
          Meets Supervision.step (fun world action => respawnsNone world action = true) middle
            [.send 0 .timeout]))) = true := by
    decide
  have meets : Meets Supervision.step (fun world action => respawnsNone world action = true)
      Supervision.initial overtakenRun := by
    decide
  obtain ⟨middle, ran, rest⟩ := (Option.any_eq_true _ _).mp facts
  obtain ⟨last, went, holds⟩ := (Option.any_eq_true _ _).mp rest
  obtain ⟨down, stopped, met⟩ := of_decide_eq_true holds
  obtain ⟨-, counter, -, ends⟩ := no_respawn_after_shutdown meets ran down met went
  exact ⟨middle, last, ran, went, (ends stopped).1, counter⟩

end Shutdown

end Supervision

/-! Generations apart from each other. -/

def SendStage.owner : SendStage → Option Nat
  | .spawning generation | .registering generation | .abandoning generation _
  | .disconnecting generation | .killing generation _ => some generation
  | _ => none

namespace Supervision

/-- The generation a step belongs to: that of the send that failed, of the connection, of
the child. -/
def owner (world : Supervision) : SupervisionStep → Option Nat
  | .send id _ => (world.sends.get id).bind SendStage.owner
  | .serve id _ => (world.connections.get id).map Connection.generation
  | .child generation _ => some generation
  | _ => none

/-- The condition on a step: a send that found its sender dead disconnects while the phase
is still of that generation, or of none. -/
def disconnectsOwn (world : Supervision) : SupervisionStep → Bool
  | .send id .disconnect =>
      (world.sends.get id).all (fun stage =>
        match stage with
        | .disconnecting generation =>
            (phaseGeneration world.state.phase).all (fun current => current = generation)
        | _ => true)
  | _ => true

section Isolation

variable {world next : Supervision}

/-- The kill channel, and every signal about to be sent on one, is of its own generation. -/
structure KillsOwn (world : Supervision) : Prop where
  channel : ∀ target, world.state.killSender = some target →
    phaseGeneration world.state.phase = some target
  sends : ∀ id generation target, world.sends.get id = some (.killing generation target) →
    target = generation
  serves : ∀ id found target, world.connections.get id = some found →
    found.stage = .killing target → target = found.generation

theorem channel_markStopped {state : ProcessState} {generation : Nat}
    (own : ∀ target, state.killSender = some target → phaseGeneration state.phase = some target) :
    ∀ target, (state.markStopped generation).killSender = some target →
      phaseGeneration (state.markStopped generation).phase = some target := by
  by_cases here : phaseGeneration state.phase = some generation
  · intro target held
    rw [ProcessState.markStopped, if_pos here] at held
    cases held
  · rw [ProcessState.markStopped_of_other here]
    exact own

theorem channel_step (kills : KillsOwn world) {action : SupervisionStep}
    (stepped : world.step action = some next) :
    ∀ target, next.state.killSender = some target →
      phaseGeneration next.state.phase = some target := by
  cases step_turn stepped with
  | quiet phase counter flag kill children claims =>
      rw [phase, kill]
      exact kills.channel
  | claims id stage stopped =>
      intro target held
      have taken := kills.channel target held
      rw [stopped] at taken
      cases taken
  | launches id generation stage => exact kills.channel
  | launchFails id generation stage => exact kills.channel
  | registers id generation stage starting =>
      intro target held
      cases held
      simp [starting, phaseGeneration]
  | registersLate id generation stage late => exact kills.channel
  | abandons id generation error stage => exact channel_markStopped kills.channel
  | exits generation child here => exact kills.channel
  | settles generation child event here waiting seen => exact channel_markStopped kills.channel
  | shutsDown id => exact kills.channel

/-- A disconnection answers with the kill channel of the state it finds. -/
theorem markDisconnected_kill {state after : ProcessState} {asked : Option Nat} {target : Nat}
    (marked : state.markDisconnected asked = (after, some target)) :
    state.killSender = some target ∧
      ∀ generation, asked = some generation → phaseGeneration state.phase = some generation := by
  unfold ProcessState.markDisconnected at marked
  split at marked
  · cases marked
  · rename_i current
    split at marked
    · cases marked
    · simp only [Prod.mk.injEq] at marked
      refine ⟨marked.2, ?_⟩
      rintro generation rfl
      simpa using current

theorem killing_stepSend {id : Nat} {stage : SendStage} {part : SendSection}
    (kills : KillsOwn world) (here : world.sends.get id = some stage)
    (own : disconnectsOwn world (.send id part) = true)
    (stepped : world.stepSend id stage part = some next) :
    ∀ generation target, next.sends.get id = some (.killing generation target) →
      target = generation := by
  intro generation target read
  unfold stepSend at stepped
  split at stepped
  · cases stepped
    rw [moveSend_sends, Table.get_put_self] at read
    split at read <;> cases read
  · split at stepped <;>
      (cases stepped; rw [moveSend_sends, Table.get_put_self] at read; cases read)
  · split at stepped <;>
      (cases stepped; rw [moveSend_sends, Table.get_put_self] at read; cases read)
  · split at stepped <;>
      (cases stepped; rw [moveSend_sends, Table.get_put_self] at read; cases read)
  · cases stepped
    rw [moveSend_sends, Table.get_put_self] at read
    cases read
  · cases stepped
    rw [moveSend_sends, Table.get_put_self] at read
    cases read
  · cases stepped
    rw [moveSend_sends, Table.get_put_self] at read
    cases read
  · split at stepped
    · cases stepped
      rw [moveSend_sends, Table.get_put_self] at read
      cases read
    · cases stepped
      rw [moveSend_sends, Table.get_put_self] at read
      cases read
    · cases stepped
      rw [moveSend_sends, Table.get_put_self] at read
      split at read <;> cases read
  · -- The send that disconnects: the channel it gets is that of the phase.
    split at stepped
    · rename_i marked
      cases stepped
      rw [moveSend_sends, Table.get_put_self] at read
      cases read
      have current := kills.channel target (markDisconnected_kill marked).1
      simpa [disconnectsOwn, here, current] using own
    · cases stepped
      rw [moveSend_sends, Table.get_put_self] at read
      cases read
  · cases stepped
    rw [moveSend_sends, Table.get_put_self] at read
    cases read
  · cases stepped

theorem stepSend_sends {id : Nat} {stage : SendStage} {part : SendSection}
    (stepped : world.stepSend id stage part = some next) :
    next.connections = world.connections ∧ ∃ moved, next.sends = world.sends.put id moved := by
  unfold stepSend at stepped
  split at stepped
  all_goals first
    | cases stepped
      exact ⟨rfl, _, rfl⟩
    | split at stepped <;> cases stepped <;> exact ⟨rfl, _, rfl⟩
    | cases stepped

/-- A step of a connection moves that connection alone, and one that is about to kill
kills its own generation. -/
theorem killing_stepConnection {id generation : Nat} {stage : ConnectionStage}
    {part : ConnectionSection} (kills : KillsOwn world)
    (stepped : world.stepConnection id generation stage part = some next) :
    ∃ moved, next.connections = world.connections.put id ⟨generation, moved⟩ ∧
      ∀ target, moved = .killing target → target = generation := by
  unfold stepConnection at stepped
  split at stepped
  · cases stepped
    refine ⟨_, rfl, ?_⟩
    intro target killing
    split at killing <;> cases killing
  · split at stepped <;> (cases stepped; exact ⟨_, rfl, nofun⟩)
  · cases stepped
    exact ⟨_, rfl, nofun⟩
  · cases stepped
    exact ⟨_, rfl, nofun⟩
  · cases stepped
    exact ⟨_, rfl, nofun⟩
  · split at stepped
    · rename_i marked
      cases stepped
      refine ⟨_, rfl, ?_⟩
      intro target killing
      cases killing
      obtain ⟨held, asked⟩ := markDisconnected_kill marked
      have current := kills.channel _ held
      rw [asked generation rfl] at current
      exact (Option.some.inj current).symm
    · cases stepped
      exact ⟨_, rfl, nofun⟩
  · cases stepped
    exact ⟨_, rfl, nofun⟩
  · cases stepped

theorem connections_step {action : SupervisionStep} (stepped : world.step action = some next) :
    next.connections = world.connections ∨
    (∃ id generation, action = .connect id generation ∧
      next.connections = world.connections.put id ⟨generation, .greeting⟩) ∨
    ∃ id part found, action = .serve id part ∧ world.connections.get id = some found ∧
      world.stepConnection id found.generation found.stage part = some next := by
  unfold step at stepped
  cases action with
  | call id =>
      simp only [Option.ite_none_right_eq_some, Option.some.injEq] at stepped
      obtain ⟨-, rfl⟩ := stepped
      exact .inl rfl
  | send id part =>
      obtain ⟨stage, -, moved⟩ := Option.bind_eq_some_iff.mp stepped
      exact .inl (stepSend_sends moved).1
  | connect id generation =>
      simp only [Option.ite_none_right_eq_some, Option.some.injEq] at stepped
      obtain ⟨-, rfl⟩ := stepped
      exact .inr (.inl ⟨id, generation, rfl, rfl⟩)
  | serve id part =>
      obtain ⟨found, here, moved⟩ := Option.bind_eq_some_iff.mp stepped
      exact .inr (.inr ⟨id, part, found, rfl, here, moved⟩)
  | child generation event =>
      obtain ⟨child, -, moved⟩ := Option.bind_eq_some_iff.mp stepped
      left
      unfold stepChild at moved
      cases event
      all_goals
        simp only [Option.ite_none_right_eq_some, Option.some.injEq] at moved
        obtain ⟨-, rfl⟩ := moved
        rfl
  | approve requestId generation =>
      simp only [Option.some.injEq] at stepped
      subst stepped
      left
      split <;> rfl
  | cancel requestId generation =>
      simp only [Option.some.injEq] at stepped
      subst stepped
      exact .inl rfl
  | shutdown id =>
      simp only [Option.ite_none_right_eq_some, Option.some.injEq] at stepped
      obtain ⟨-, rfl⟩ := stepped
      exact .inl rfl
  | halt id part =>
      obtain ⟨stage, -, moved⟩ := Option.bind_eq_some_iff.mp stepped
      left
      unfold stepShutdown at moved
      split at moved
      · cases moved
        rfl
      · cases moved
        split <;> rfl
      · cases moved
        rfl
      · cases moved
        rfl
      · simp only [Option.ite_none_right_eq_some, Option.some.injEq] at moved
        obtain ⟨-, rfl⟩ := moved
        rfl
      · cases moved

theorem KillsOwn.step (kills : KillsOwn world) {action : SupervisionStep}
    (own : disconnectsOwn world action = true) (stepped : world.step action = some next) :
    KillsOwn next := by
  refine ⟨channel_step kills stepped, ?_, ?_⟩
  · intro other generation target read
    rcases sends_step stepped with same | ⟨id, -, put⟩ | ⟨id, part, stage, rfl, here, moved⟩
    · rw [same] at read
      exact kills.sends other generation target read
    · rw [put] at read
      by_cases self : other = id
      · rw [self, Table.get_put_self] at read
        cases read
      · rw [Table.get_put_of_ne _ _ self] at read
        exact kills.sends other generation target read
    · by_cases self : other = id
      · rw [self] at read
        exact killing_stepSend kills here own moved generation target read
      · obtain ⟨-, reached, put⟩ := stepSend_sends moved
        rw [put, Table.get_put_of_ne _ _ self] at read
        exact kills.sends other generation target read
  · intro other found target read killing
    rcases connections_step stepped with
      same | ⟨id, generation, -, put⟩ | ⟨id, part, connection, -, here, moved⟩
    · rw [same] at read
      exact kills.serves other found target read killing
    · rw [put] at read
      by_cases self : other = id
      · rw [self, Table.get_put_self] at read
        cases read
        cases killing
      · rw [Table.get_put_of_ne _ _ self] at read
        exact kills.serves other found target read killing
    · obtain ⟨reached, put, kill⟩ := killing_stepConnection kills moved
      rw [put] at read
      by_cases self : other = id
      · rw [self, Table.get_put_self] at read
        cases read
        exact kill target killing
      · rw [Table.get_put_of_ne _ _ self] at read
        exact kills.serves other found target read killing

theorem KillsOwn.initial : KillsOwn Supervision.initial := by
  refine ⟨?_, ?_, ?_⟩
  · intro target held
    cases held
  · intro id generation target read
    cases read
  · intro id found target read
    cases read

/-- What a step leaves to a generation: its part of the state, and that no signal to kill
its process is added. -/
def Leaves (world next : Supervision) (generation : Nat) : Prop :=
  next.state.view generation = world.state.view generation ∧
    next.signals.count generation = world.signals.count generation

theorem leaves_of_same {generation : Nat} (state : next.state = world.state)
    (signals : next.signals = world.signals) : Leaves world next generation := by
  rw [Leaves, state, signals]
  exact ⟨rfl, rfl⟩

theorem count_signal {target other : Nat} (apart : other ≠ target) :
    (world.signals ++ [target]).count other = world.signals.count other := by
  simp [List.count_append, Ne.symm apart]

theorem leaves_stepSend {id generation other : Nat} {stage : SendStage} {part : SendSection}
    (kills : KillsOwn world) (here : world.sends.get id = some stage)
    (own : disconnectsOwn world (.send id part) = true) (owned : stage.owner = some generation)
    (apart : other ≠ generation) (stepped : world.stepSend id stage part = some next) :
    Leaves world next other := by
  cases stage with
  | entering => cases owned
  | ensuring => cases owned
  | waiting => cases owned
  | sending => cases owned
  | done result => cases owned
  | spawning launching =>
      cases part with
      | launch success =>
          simp only [stepSend] at stepped
          split at stepped
          · cases stepped
            exact leaves_of_same rfl rfl
          · cases stepped
            exact leaves_of_same rfl rfl
      | _ => cases stepped
  | registering launched =>
      cases part with
      | register =>
          simp only [stepSend] at stepped
          split at stepped
          · rename_i registered
            cases stepped
            obtain ⟨-, rfl⟩ := ProcessState.registerChild_ok registered
            exact ⟨rfl, rfl⟩
          · cases stepped
            exact leaves_of_same rfl rfl
      | _ => cases stepped
  | abandoning given error =>
      cases part with
      | abandon =>
          cases owned
          cases stepped
          exact ⟨ProcessState.view_markStopped apart, rfl⟩
      | _ => cases stepped
  | disconnecting lost =>
      cases part with
      | disconnect =>
          cases owned
          have current : ∀ current, phaseGeneration world.state.phase = some current →
              current ≠ other := by
            intro current read
            have same : current = generation := by
              simpa [disconnectsOwn, here, read] using own
            rw [same]
            exact Ne.symm apart
          have view := @ProcessState.view_markDisconnected world.state none other current
          simp only [stepSend] at stepped
          split at stepped
          · rename_i marked
            cases stepped
            rw [marked] at view
            exact ⟨view, rfl⟩
          · rename_i marked
            cases stepped
            rw [marked] at view
            exact ⟨view, rfl⟩
      | _ => cases stepped
  | killing lost target =>
      cases part with
      | kill =>
          cases owned
          cases stepped
          refine ⟨rfl, ?_⟩
          rw [← kills.sends id generation target here] at apart
          exact count_signal apart
      | _ => cases stepped

theorem leaves_stepConnection {id other : Nat} {found : Connection} {part : ConnectionSection}
    (kills : KillsOwn world) (here : world.connections.get id = some found)
    (apart : other ≠ found.generation)
    (stepped : world.stepConnection id found.generation found.stage part = some next) :
    Leaves world next other := by
  unfold stepConnection at stepped
  split at stepped
  · cases stepped
    exact leaves_of_same rfl rfl
  · split at stepped
    · rename_i became
      cases stepped
      obtain ⟨starting, rfl⟩ := ProcessState.becomeReady_ok became
      have before : phaseGeneration world.state.phase = some found.generation := by
        rw [starting]
        rfl
      refine ⟨?_, rfl⟩
      rw [ProcessState.view_of_other before apart]
      exact @ProcessState.view_of_other _ _ found.generation rfl apart
    · cases stepped
      exact leaves_of_same rfl rfl
  · cases stepped
    exact leaves_of_same rfl rfl
  · cases stepped
    exact leaves_of_same rfl rfl
  · cases stepped
    exact leaves_of_same rfl rfl
  · have view : (world.state.markDisconnected (some found.generation)).1.view other =
        world.state.view other := by
      by_cases current : phaseGeneration world.state.phase = some found.generation
      · apply ProcessState.view_markDisconnected
        intro generation read
        rw [current] at read
        cases read
        exact Ne.symm apart
      · simp [ProcessState.markDisconnected, current]
    split at stepped
    · rename_i marked
      cases stepped
      rw [marked] at view
      exact ⟨view, rfl⟩
    · rename_i marked
      cases stepped
      rw [marked] at view
      exact ⟨view, rfl⟩
  · rename_i target stage
    cases stepped
    refine ⟨rfl, ?_⟩
    rw [← kills.serves id found target here stage] at apart
    exact count_signal apart
  · cases stepped

theorem leaves_stepChild {generation other : Nat} {child : Child} {event : ChildEvent}
    (apart : other ≠ generation) (stepped : world.stepChild generation child event = some next) :
    Leaves world next other := by
  unfold stepChild at stepped
  cases event with
  | exit =>
      simp only [Option.ite_none_right_eq_some, Option.some.injEq] at stepped
      obtain ⟨-, rfl⟩ := stepped
      exact leaves_of_same rfl rfl
  | observe =>
      simp only [Option.ite_none_right_eq_some, Option.some.injEq] at stepped
      obtain ⟨-, rfl⟩ := stepped
      exact ⟨ProcessState.view_markStopped apart, rfl⟩
  | waitFails =>
      simp only [Option.ite_none_right_eq_some, Option.some.injEq] at stepped
      obtain ⟨-, rfl⟩ := stepped
      exact ⟨ProcessState.view_markStopped apart, rfl⟩

/-- In every run whose sends disconnect their own generation, a step that belongs to one
generation changes nothing of another and signals no kill to it. -/
theorem generations_isolated {actions : List SupervisionStep} {reached after : Supervision}
    (meets : Meets Supervision.step (fun world action => disconnectsOwn world action = true)
      Supervision.initial actions)
    (ran : run Supervision.step Supervision.initial actions = some reached)
    {action : SupervisionStep} (met : disconnectsOwn reached action = true)
    (stepped : reached.step action = some after) {generation other : Nat}
    (owned : reached.owner action = some generation) (apart : other ≠ generation) :
    after.state.view other = reached.state.view other ∧
      after.signals.count other = reached.signals.count other := by
  have kills : KillsOwn reached := run_keeps_of_meets
    (fun _ _ _ here condition taken => KillsOwn.step here condition taken) actions _ reached
    .initial meets ran
  cases action with
  | send id part =>
      obtain ⟨stage, here, moved⟩ := Option.bind_eq_some_iff.mp stepped
      have own : stage.owner = some generation := by simpa [owner, here] using owned
      exact leaves_stepSend kills here met own apart moved
  | serve id part =>
      obtain ⟨found, here, moved⟩ := Option.bind_eq_some_iff.mp stepped
      have own : found.generation = generation := by simpa [owner, here] using owned
      rw [← own] at apart
      exact leaves_stepConnection kills here apart moved
  | child target event =>
      obtain ⟨child, here, moved⟩ := Option.bind_eq_some_iff.mp stepped
      cases owned
      exact leaves_stepChild apart moved
  | _ => cases owned


/-- The send of the first generation finds its connection closed, and disconnects when the
second generation is ready. -/
def crossedRun : List SupervisionStep :=
  [.call 0, .send 0 .enter, .send 0 .ensure, .send 0 (.launch true), .send 0 .register,
    .connect 0 1, .serve 0 .accept, .serve 0 (.becomeReady 100), .send 0 .wake, .send 0 .ensure,
    .serve 0 .close, .send 0 .deliver, .serve 0 .lose, .child 1 .exit, .child 1 .observe,
    .call 1, .send 1 .enter, .send 1 .ensure, .send 1 (.launch true), .send 1 .register,
    .connect 1 2, .serve 1 .accept, .serve 1 (.becomeReady 200)]

/-- The disconnection of the first generation stops the second and has its child killed. -/
theorem generations_crossed :
    ∃ reached after, run Supervision.step Supervision.initial crossedRun = some reached ∧
      reached.step (.send 0 .disconnect) = some after ∧
      reached.owner (.send 0 .disconnect) = some 1 ∧
      reached.state.view 2 = some (.ready 2, some 1, some 200, none) ∧
      after.state.view 2 = some (.stopping 2, none, none, none) ∧
      ∃ killed, after.step (.send 0 .kill) = some killed ∧
        after.owner (.send 0 .kill) = some 1 ∧
        after.signals.count 2 = 0 ∧ killed.signals.count 2 = 1 := by
  have facts : (run Supervision.step Supervision.initial crossedRun).any (fun reached =>
      (reached.step (.send 0 .disconnect)).any (fun after =>
        (after.step (.send 0 .kill)).any (fun killed =>
          decide (reached.owner (.send 0 .disconnect) = some 1 ∧
            reached.state.view 2 = some (.ready 2, some 1, some 200, none) ∧
            after.state.view 2 = some (.stopping 2, none, none, none) ∧
            after.owner (.send 0 .kill) = some 1 ∧
            after.signals.count 2 = 0 ∧ killed.signals.count 2 = 1)))) = true := by
    decide
  obtain ⟨reached, ran, rest⟩ := (Option.any_eq_true _ _).mp facts
  obtain ⟨after, stepped, more⟩ := (Option.any_eq_true _ _).mp rest
  obtain ⟨killed, kill, holds⟩ := (Option.any_eq_true _ _).mp more
  obtain ⟨owned, before, stopping, owns, none, once⟩ := of_decide_eq_true holds
  exact ⟨reached, after, ran, stepped, owned, before, stopping, killed, kill, owns, none, once⟩

/-- The child of the first generation has exited, and the second generation is ready before
the end of the first one's connection is noticed. -/
def lateLoss : List SupervisionStep :=
  [.call 0, .send 0 .enter, .send 0 .ensure, .send 0 (.launch true), .send 0 .register,
    .connect 0 1, .serve 0 .accept, .serve 0 (.becomeReady 100), .send 0 .wake, .send 0 .ensure,
    .send 0 .deliver, .child 1 .exit, .serve 0 .close, .child 1 .observe,
    .call 1, .send 1 .enter, .send 1 .ensure, .send 1 (.launch true), .send 1 .register,
    .connect 1 2, .serve 1 .accept, .serve 1 (.becomeReady 200)]

theorem generations_isolated_late :
    ∃ reached after, run Supervision.step Supervision.initial lateLoss = some reached ∧
      reached.owner (.serve 0 .lose) = some 1 ∧ reached.step (.serve 0 .lose) = some after ∧
      reached.state.view 2 = some (.ready 2, some 1, some 200, none) ∧
      after.state.view 2 = some (.ready 2, some 1, some 200, none) ∧
      after.signals.count 2 = reached.signals.count 2 := by
  have facts : (run Supervision.step Supervision.initial lateLoss).any (fun reached =>
      (reached.step (.serve 0 .lose)).any (fun _ =>
        decide (reached.owner (.serve 0 .lose) = some 1 ∧
          reached.state.view 2 = some (.ready 2, some 1, some 200, none)))) = true := by
    decide
  have meets : Meets Supervision.step (fun world action => disconnectsOwn world action = true)
      Supervision.initial lateLoss := by
    decide
  obtain ⟨reached, ran, rest⟩ := (Option.any_eq_true _ _).mp facts
  obtain ⟨after, stepped, more⟩ := (Option.any_eq_true _ _).mp rest
  obtain ⟨owned, ready⟩ := of_decide_eq_true more
  obtain ⟨same, spared⟩ := generations_isolated meets ran rfl stepped owned (by decide : 2 ≠ 1)
  exact ⟨reached, after, ran, owned, stepped, ready, same.trans ready, spared⟩

end Isolation

end Supervision

end Lvos.System.UiProcess
