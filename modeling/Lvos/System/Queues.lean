import Lvos.System.IdleExit

set_option autoImplicit false

namespace Lvos.System.Ui

open Lvos.Ipc Lvos.Agent Lvos.Desktop
open Relational (Table)

/-- The requests that the messages answer. -/
def results (messages : List AgentToUi) : List DrawnId :=
  messages.filterMap (fun message =>
    match message with
    | .operationResult result => some result.responseTo
    | _ => none)

def inService (serving : Option Serving) : List DrawnId :=
  (serving.map Serving.requestId).toList

/-- The requests on their way through the Agent, the oldest first: answered, in service or
still to be read. -/
def flow (world : Dialogue) : List DrawnId :=
  results (world.applied ++ world.toUi) ++ (inService world.serving ++ requestIds world.toAgent)

def pendingIds (gui : UiSession) : List DrawnId := gui.pending.rows.map Prod.fst

@[simp] theorem results_append (first second : List AgentToUi) :
    results (first ++ second) = results first ++ results second := List.filterMap_append

@[simp] theorem requestIds_append (first second : List UiToAgent) :
    requestIds (first ++ second) = requestIds first ++ requestIds second :=
  List.filterMap_append

theorem mem_requestIds {requestId : DrawnId} {messages : List UiToAgent} :
    requestId ∈ requestIds messages ↔ ∃ operation, .request requestId operation ∈ messages := by
  constructor
  · intro member
    obtain ⟨message, among, found⟩ := List.mem_filterMap.mp member
    cases message with
    | request other operation =>
        cases found
        exact ⟨operation, among⟩
    | _ => cases found
  · rintro ⟨operation, among⟩
    exact List.mem_filterMap.mpr ⟨_, among, rfl⟩

theorem requestIds_notices {output : List UiToAgent}
    (notices : ∀ message ∈ output, isNotice message = true) : requestIds output = [] := by
  apply List.filterMap_eq_nil_iff.mpr
  intro message member
  have notice := notices message member
  cases message with
  | request requestId operation => cases notice
  | _ => rfl

theorem pendingIds_answered (gui : UiSession) (message : AgentToUi) (requestId : DrawnId) :
    requestId ∈ pendingIds (gui.answered message) ↔
      requestId ∈ pendingIds gui ∧ requestId ∉ results [message] := by
  cases message with
  | operationResult result =>
      have answers : results [.operationResult result] = [result.responseTo] := rfl
      rw [answers, List.mem_singleton]
      simp only [pendingIds, UiSession.answered, UiSession.applyOperationResult, Table.delete,
        List.mem_map, List.mem_filter, Bool.not_eq_true', decide_eq_false_iff_not]
      constructor
      · rintro ⟨entry, ⟨member, other⟩, rfl⟩
        exact ⟨⟨entry, member, rfl⟩, other⟩
      · rintro ⟨⟨entry, member, rfl⟩, other⟩
        exact ⟨entry, ⟨member, other⟩, rfl⟩
  | _ => exact (and_iff_left List.not_mem_nil).symm

theorem pendingIds_submitted (gui : UiSession) (row : PendingRequest) (requestId : DrawnId) :
    requestId ∈ (gui.pending.put gui.drawn row).rows.map Prod.fst ↔
      requestId = gui.drawn ∨ requestId ∈ pendingIds gui :=
  Table.mem_putRows_fst _ _ _ _

theorem rows_of_pendingIds {gui : UiSession} {requestId : DrawnId}
    (member : requestId ∈ pendingIds gui) : gui.pending.rows ≠ [] := by
  intro none
  rw [pendingIds, none] at member
  cases member

/-! The GUI moves, and what it says joins the flow. -/

/-- Every request that the two sides know of. -/
def known (world : Dialogue) : List DrawnId :=
  flow world ++ (world.requested ++ pendingIds world.gui)

/-- No request has an id that the GUI has still to draw. -/
def Undrawn (world : Dialogue) : Prop :=
  ∀ requestId ∈ known world, requestId < world.gui.drawn

section Moves

variable {world next : Dialogue} {gui : UiSession} {output : List UiToAgent}

theorem flow_moveGui (world : Dialogue) (moved : UiSession × List UiToAgent) :
    flow (world.moveGui moved) = flow world ++ requestIds moved.2 := by
  simp [flow]

theorem moveGui_moveGui (world : Dialogue) (middle : UiSession) (rest : List UiToAgent) :
    (world.moveGui (middle, output)).moveGui (gui, rest) =
      world.moveGui (gui, output ++ rest) := by
  simp [Dialogue.moveGui]

theorem moveGui_still (world : Dialogue) : world.moveGui (world.gui, []) = world := by
  simp [Dialogue.moveGui, requestIds]

theorem Undrawn.fewer (undrawn : Undrawn world)
    (fewer : ∀ requestId ∈ known next, requestId ∈ known world)
    (drawn : next.gui.drawn = world.gui.drawn) : Undrawn next := by
  intro requestId member
  rw [drawn]
  exact undrawn requestId (fewer requestId member)

/-- The requests move on, or some of them are dropped. -/
theorem Undrawn.flows (undrawn : Undrawn world)
    (fewer : ∀ requestId ∈ flow next, requestId ∈ flow world)
    (requested : next.requested = world.requested) (same : next.gui = world.gui) :
    Undrawn next := by
  apply undrawn.fewer
  · intro requestId member
    rw [known, requested, same] at member
    rw [known, List.mem_append]
    exact (List.mem_append.mp member).imp_left (fewer requestId)
  · rw [same]

theorem mem_known {requestId : DrawnId} : requestId ∈ known world ↔
    requestId ∈ flow world ∨ requestId ∈ world.requested ∨ requestId ∈ pendingIds world.gui := by
  rw [known, List.mem_append, List.mem_append]

/-- The GUI moves without a new request. -/
theorem Undrawn.unasked (undrawn : Undrawn world) (silent : requestIds output = [])
    (pending : gui.pending = world.gui.pending) (drawn : world.gui.drawn ≤ gui.drawn) :
    Undrawn (world.moveGui (gui, output)) := by
  intro requestId member
  apply Nat.lt_of_lt_of_le _ drawn
  apply undrawn
  rw [mem_known, flow_moveGui, Dialogue.moveGui_requested, silent, List.append_nil,
    List.append_nil, Dialogue.moveGui_gui, pendingIds, pending] at member
  rw [mem_known]
  exact member

theorem Undrawn.emit (undrawn : Undrawn world) {rule : UiSession.SubmitRule}
    (effect : world.gui.Emit rule gui output) : Undrawn (world.moveGui (gui, output)) := by
  cases effect with
  | quiet request pending drawn generation notices =>
      exact undrawn.unasked (requestIds_notices notices) pending (Nat.le_of_eq drawn.symm)
  | asks idle free => exact undrawn.unasked rfl rfl (Nat.le_succ _)
  | withdraws asked held => exact undrawn.unasked rfl rfl (Nat.le_refl _)
  | submits operation blocksUi free =>
      intro requestId member
      change requestId < world.gui.drawn + 1
      have cases : requestId = world.gui.drawn ∨ requestId ∈ known world := by
        rw [mem_known, flow_moveGui, Dialogue.moveGui_requested, Dialogue.moveGui_gui,
          pendingIds, pendingIds_submitted, List.mem_append, List.mem_append] at member
        simp only [requestIds, List.filterMap_cons, List.filterMap_nil, List.mem_singleton]
          at member
        rw [mem_known]
        tauto
      rcases cases with now | before
      · exact now ▸ Nat.lt_succ_self _
      · exact Nat.lt_succ_of_lt (undrawn requestId before)

theorem Undrawn.emits {rule : UiSession.SubmitRule} {session : UiSession}
    (moved : UiSession.Emits rule session gui output) :
    ∀ {world : Dialogue}, world.gui = session → Undrawn world →
      Undrawn (world.moveGui (gui, output)) := by
  induction moved with
  | refl session =>
      rintro world rfl undrawn
      rw [moveGui_still]
      exact undrawn
  | step effect later ih =>
      rintro world rfl undrawn
      have once := ih rfl (undrawn.emit effect)
      rwa [moveGui_moveGui] at once

/-- The GUI takes a frame off the queue; a request that it answers is pending no longer. -/
theorem Undrawn.take (undrawn : Undrawn world) {message : AgentToUi}
    {rest : List AgentToUi} (queue : world.toUi = message :: rest) (delivered : Nat)
    (origin : Option UiSnapshot) :
    Undrawn { world with
      toUi := rest
      delivered := delivered
      applied := world.applied ++ [message]
      origin := origin
      gui := world.gui.answered message } := by
  have same : world.applied ++ [message] ++ rest = world.applied ++ world.toUi := by
    rw [queue, List.append_assoc]
    rfl
  apply undrawn.fewer
  · intro requestId member
    rw [mem_known, flow, same] at member
    rw [mem_known]
    refine member.imp_right (Or.imp_right ?_)
    exact fun among => ((pendingIds_answered _ _ _).mp among).1
  · cases message <;> rfl

end Moves

/-! The Agent queues a message. -/

section Posts

variable {world : Dialogue} {message : AgentToUi}

theorem post_keeps (world : Dialogue) (message : AgentToUi) :
    (world.post message).gui = world.gui ∧ (world.post message).requested = world.requested ∧
      (world.post message).serving = world.serving ∧
      (world.post message).toAgent = world.toAgent ∧ (world.post message).state = world.state ∧
      (world.post message).connected = world.connected := by
  unfold Dialogue.post
  split <;> exact ⟨rfl, rfl, rfl, rfl, rfl, rfl⟩

theorem mem_toUi_post {other : AgentToUi} :
    other ∈ (world.post message).toUi ↔
      other ∈ world.toUi ∨ world.reaches = true ∧ other = message := by
  unfold Dialogue.post
  split
  · rename_i reached
    simp [reached]
  · rename_i apart
    simp [apart]

theorem flow_post_plain (plain : results [message] = []) :
    flow (world.post message) = flow world := by
  unfold Dialogue.post
  split
  · simp [flow, plain]
  · rfl

/-- An answer takes the place of the request in service, or is dropped with it. -/
theorem flow_answer {requestId : DrawnId} (serves : inService world.serving = [requestId])
    (answers : results [message] = [requestId]) :
    flow (Dialogue.post { world with serving := none } message) =
      if world.reaches then flow world
      else results (world.applied ++ world.toUi) ++ requestIds world.toAgent := by
  have same : Dialogue.reaches { world with serving := none } = world.reaches := rfl
  have idle : inService none = [] := rfl
  unfold Dialogue.post
  rw [same]
  split
  · simp only [flow, serves, idle, results_append, answers, List.append_assoc, List.nil_append]
  · simp only [flow, idle, List.nil_append]

theorem Undrawn.post (undrawn : Undrawn world) (plain : results [message] = []) :
    Undrawn (world.post message) := by
  obtain ⟨gui, requested, -⟩ := post_keeps world message
  refine undrawn.flows ?_ requested gui
  rw [flow_post_plain plain]
  exact fun _ member => member

theorem Undrawn.answer (undrawn : Undrawn world) {requestId : DrawnId}
    (serves : inService world.serving = [requestId])
    (answers : results [message] = [requestId]) :
    Undrawn (Dialogue.post { world with serving := none } message) := by
  obtain ⟨gui, requested, -⟩ := post_keeps { world with serving := none } message
  refine undrawn.flows ?_ requested gui
  intro other member
  rw [flow_answer serves answers] at member
  split at member
  · exact member
  · rw [flow, List.mem_append, List.mem_append]
    exact (List.mem_append.mp member).imp_right .inr

end Posts

/-- What holds of the queues in every run: ids are drawn in order, snapshots have one
revision, and a GUI starts with nothing asked for. -/
structure QueueInv (world : Dialogue) : Prop where
  undrawn : Undrawn world
  queued : ∀ snapshot, .snapshot snapshot ∈ world.toUi →
    snapshot.revision = snapshot.main.revision
  read : ∀ requestId snapshot, world.serving = some (.snapshotRead requestId snapshot) →
    snapshot.revision = snapshot.main.revision
  starting : ∀ generation, world.state.phase = .starting generation →
    world.requested = [] ∧ world.gui.pending = .empty ∧ world.gui.cache.resyncPending = false

section Steps

variable {world next : Dialogue}

/-- A step that touches none of the queues and nothing of the GUI. -/
theorem QueueInv.aside (inv : QueueInv world) (gui : next.gui = world.gui)
    (toUi : next.toUi = world.toUi) (toAgent : next.toAgent = world.toAgent)
    (serving : next.serving = world.serving) (applied : next.applied = world.applied)
    (requested : next.requested = world.requested)
    (starting : ∀ generation, next.state.phase = .starting generation →
      world.state.phase = .starting generation) : QueueInv next := by
  refine ⟨?_, by rw [toUi]; exact inv.queued, by rw [serving]; exact inv.read, ?_⟩
  · refine inv.undrawn.flows ?_ requested gui
    intro requestId member
    rwa [flow, applied, toUi, serving, toAgent] at member
  · intro generation now
    rw [requested, gui]
    exact inv.starting generation (starting generation now)

theorem QueueInv.post (inv : QueueInv world) {message : AgentToUi}
    (plain : results [message] = [])
    (consistent : ∀ snapshot, message = .snapshot snapshot →
      snapshot.revision = snapshot.main.revision) : QueueInv (world.post message) := by
  obtain ⟨gui, requested, serving, -, state, -⟩ := post_keeps world message
  refine ⟨inv.undrawn.post plain, ?_, by rw [serving]; exact inv.read, ?_⟩
  · intro snapshot member
    rcases mem_toUi_post.mp member with before | ⟨-, now⟩
    · exact inv.queued snapshot before
    · exact consistent snapshot now.symm
  · rw [state, requested, gui]
    exact inv.starting

theorem QueueInv.answer (inv : QueueInv world) {requestId : DrawnId} {result : OperationResult}
    (serves : inService world.serving = [requestId])
    (answers : results [.operationResult result] = [requestId]) :
    QueueInv (Dialogue.post { world with serving := none } (.operationResult result)) := by
  obtain ⟨gui, requested, idle, -, state, -⟩ :=
    post_keeps { world with serving := none } (.operationResult result)
  refine ⟨inv.undrawn.answer serves answers, ?_, ?_, ?_⟩
  · intro snapshot member
    rcases mem_toUi_post.mp member with before | ⟨-, now⟩
    · exact inv.queued snapshot before
    · cases now
  · rw [idle]
    nofun
  · rw [state, requested, gui]
    exact inv.starting

/-- The request in service takes its next step. -/
theorem QueueInv.serves (inv : QueueInv world) {serving : Serving}
    (same : inService world.serving = [serving.requestId])
    (read : ∀ requestId snapshot, serving = .snapshotRead requestId snapshot →
      snapshot.revision = snapshot.main.revision) :
    QueueInv { world with serving := some serving } := by
  refine ⟨?_, inv.queued, ?_, inv.starting⟩
  · refine inv.undrawn.flows ?_ rfl rfl
    intro requestId member
    rw [flow, same]
    exact member
  · intro requestId snapshot now
    exact read requestId snapshot (Option.some.inj now)

theorem QueueInv.serve (inv : QueueInv world) {action : DialogueStep}
    (served : world.serve action = some next) : QueueInv next := by
  cases action with
  | readSnapshot main =>
      unfold Dialogue.serve at served
      dsimp only at served
      split at served
      · rename_i requestId running
        cases served
        apply inv.serves
        · rw [running]
          rfl
        · intro other snapshot read
          cases read
          rfl
      · cases served
  | queueSnapshot =>
      unfold Dialogue.serve at served
      dsimp only at served
      split at served
      · rename_i requestId snapshot reads
        cases served
        have moved : QueueInv { world with
            serving := some (.answering requestId world.reaches) } := by
          refine inv.serves ?_ nofun
          rw [reads]
          rfl
        apply moved.post rfl
        intro other same
        cases same
        exact inv.read requestId snapshot reads
      · cases served
  | answer success message output =>
      unfold Dialogue.serve at served
      dsimp only at served
      split at served
      · rename_i requestId operation running
        simp only [Option.ite_none_left_eq_some, Option.some.injEq] at served
        obtain ⟨-, rfl⟩ := served
        refine inv.answer ?_ rfl
        rw [running]
        rfl
      · rename_i requestId queued answers
        cases served
        refine inv.answer ?_ rfl
        rw [answers]
        rfl
      · cases served
  | _ => cases served

theorem QueueInv.applyNext (inv : QueueInv world) (exit : ExitInv world)
    (connected : world.connected = true) {done : Bool}
    (applied : world.applyNext done = some next) : QueueInv next := by
  have linked := exit.linked connected
  unfold Dialogue.applyNext at applied
  split at applied
  · cases applied
  · rename_i message rest queue
    have order : world.gui.cache.lastSequence < world.delivered + 3 := by
      rw [linked.sequence]
      omega
    have emits := UiSession.emits_anyMessage message done order
    have taken (origin : Option UiSnapshot) := Undrawn.emits emits rfl
      (inv.undrawn.take queue (world.delivered + 1) origin)
    rw [if_neg (Nat.not_le.mpr order)] at applied
    cases applied
    refine ⟨taken _, ?_, inv.read, ?_⟩
    · intro snapshot member
      apply inv.queued
      rw [queue]
      exact List.mem_cons_of_mem _ member
    · intro generation starting
      obtain ⟨-, unready⟩ := exit.starting generation starting
      rw [unready.unconnected] at connected
      cases connected

theorem QueueInv.event (inv : QueueInv world) (exit : ExitInv world)
    (connected : world.connected = true) (event : UiEvent) :
    QueueInv (world.moveGui (world.gui.onEvent event)) := by
  refine ⟨?_, inv.queued, inv.read, ?_⟩
  · exact Undrawn.emits (UiSession.emits_anyEvent world.gui event) rfl inv.undrawn
  · intro generation starting
    obtain ⟨-, unready⟩ := exit.starting generation starting
    rw [unready.unconnected] at connected
    cases connected

/-- The Agent takes a message off its queue, and serves it where it is a request. -/
theorem QueueInv.reads (inv : QueueInv world) {message : UiToAgent} {rest : List UiToAgent}
    {serving : Option Serving} (queue : world.toAgent = message :: rest)
    (serves : inService serving ++ requestIds rest =
      inService world.serving ++ requestIds (message :: rest))
    (running : ∀ requestId snapshot, serving ≠ some (.snapshotRead requestId snapshot)) :
    QueueInv { world with
      toAgent := rest
      serving := serving } := by
  refine ⟨?_, inv.queued, ?_, inv.starting⟩
  · refine inv.undrawn.flows ?_ rfl rfl
    intro requestId member
    rw [flow, queue, ← serves]
    exact member
  · intro requestId snapshot now
    exact absurd now (running requestId snapshot)

theorem QueueInv.approve (inv : QueueInv world) (requestId : DrawnId) (generation : Nat) :
    QueueInv (world.approve requestId generation) := by
  unfold Dialogue.approve
  split
  · rename_i state connection approved
    obtain ⟨-, -, -, rfl⟩ := ProcessState.approveIdleExit_ok approved
    refine ⟨?_, ?_, inv.read, nofun⟩
    · refine inv.undrawn.flows ?_ rfl rfl
      intro other member
      simpa [flow, results] using member
    · intro snapshot member
      rcases List.mem_append.mp member with before | now
      · exact inv.queued snapshot before
      · cases List.mem_singleton.mp now
  · exact inv

theorem cancelIdleExit_starting {state : ProcessState} {requestId : DrawnId}
    {generation other : Nat}
    (starting : (state.cancelIdleExit false requestId generation).phase = .starting other) :
    state.phase = .starting other := by
  unfold ProcessState.cancelIdleExit at starting
  split at starting
  · cases starting
  · exact starting

theorem QueueInv.receive (inv : QueueInv world) {message : UiToAgent} {rest : List UiToAgent}
    (idle : world.serving = none) (queue : world.toAgent = message :: rest) :
    QueueInv (Dialogue.receive { world with toAgent := rest } message) := by
  have skip (plain : requestIds [message] = []) : QueueInv { world with toAgent := rest } := by
    apply inv.reads queue
    · rw [← List.singleton_append, requestIds_append, plain, List.nil_append]
    · rw [idle]
      nofun
  cases message with
  | request requestId operation =>
      refine inv.reads queue ?_ nofun
      rw [idle]
      rfl
  | requestIdleExit requestId generation => exact (skip rfl).approve _ _
  | cancelIdleExit requestId generation =>
      exact (skip rfl).aside rfl rfl rfl rfl rfl rfl (fun _ => cancelIdleExit_starting)
  | lookupDismissed displaySessionId => exact skip rfl
  | uiBlockingChanged blocked => exact skip rfl
  | exiting generation => exact skip rfl

theorem QueueInv.launch (inv : QueueInv world) :
    QueueInv { world with
      state := (world.state.ensureReady world.nextGeneration).1
      nextGeneration := world.nextGeneration + 1
      gui := .install world.nextGeneration world.gui.drawn
      handshake := .greeted
      toUi := []
      origin := none
      sent := []
      applied := []
      requested := [] } := by
  refine ⟨?_, nofun, inv.read, fun _ _ => ⟨rfl, rfl, rfl⟩⟩
  apply inv.undrawn.fewer
  · intro requestId member
    rcases mem_known.mp member with among | none | none
    · exact mem_known.mpr (.inl (List.mem_append_right _ among))
    · cases none
    · cases none
  · rfl

theorem QueueInv.applyStart (inv : QueueInv world) (exit : ExitInv world) {generation : Nat}
    {snapshot : UiSnapshot} {done : Bool}
    (starting : world.state.phase = .starting generation)
    (handshake : world.handshake = .read snapshot) :
    QueueInv (Dialogue.moveGui { world with
      handshake := .applied
      origin := some snapshot } (world.gui.apply 2 (.snapshot snapshot) done)) := by
  obtain ⟨same, unready⟩ := exit.starting generation starting
  have fresh := unready.fresh (by rw [handshake]; nofun)
  obtain ⟨silent, -, -, -, drawn, pending, cache⟩ := UiSession.apply_start world.gui.generation
    world.gui.drawn done (unready.consistent snapshot handshake)
  rw [← fresh] at silent drawn pending cache
  obtain ⟨none, -, -⟩ := inv.starting generation starting
  refine ⟨?_, inv.queued, inv.read, ?_⟩
  · intro requestId member
    rw [Dialogue.moveGui_gui, drawn]
    apply inv.undrawn
    rw [mem_known, flow_moveGui, Dialogue.moveGui_requested, Dialogue.moveGui_gui, silent,
      pendingIds, pending] at member
    rw [mem_known]
    rcases member with among | among | among
    · exact .inl (by simpa [requestIds, flow] using among)
    · exact .inr (.inl (by simpa [requestIds] using among))
    · cases among
  · intro later now
    refine ⟨?_, pending, ?_⟩
    · rw [Dialogue.moveGui_requested, silent, none]
      rfl
    · rw [Dialogue.moveGui_gui, cache]

/-- The connection ends, or the process does. -/
theorem QueueInv.ends (inv : QueueInv world) {state : ProcessState} {toAgent : List UiToAgent}
    (fewer : ∀ message ∈ toAgent, message ∈ world.toAgent)
    (starting : ∀ generation, state.phase = .starting generation →
      world.state.phase = .starting generation) :
    QueueInv { world with
      state := state
      connected := false
      toUi := []
      toAgent := toAgent } := by
  refine ⟨?_, nofun, inv.read, fun generation now => inv.starting generation
    (starting generation now)⟩
  refine inv.undrawn.flows ?_ rfl rfl
  intro requestId
  simp only [flow, List.append_nil, results_append, List.mem_append]
  rintro (applied | served | asked)
  · exact .inl (.inl applied)
  · exact .inr (.inl served)
  · obtain ⟨operation, among⟩ := mem_requestIds.mp asked
    exact .inr (.inr (mem_requestIds.mpr ⟨operation, fewer _ among⟩))

theorem QueueInv.initial : QueueInv Dialogue.initial := ⟨nofun, nofun, nofun, nofun⟩

theorem QueueInv.step (inv : QueueInv world) (exit : ExitInv world) {action : DialogueStep}
    (stepped : world.step action = some next) : QueueInv next := by
  unfold Dialogue.step at stepped
  cases action with
  | launch =>
      simp only [Option.ite_none_right_eq_some, Option.some.injEq] at stepped
      obtain ⟨-, rfl⟩ := stepped
      exact inv.launch
  | readStart main =>
      dsimp only at stepped
      split at stepped
      · cases stepped
        exact inv.aside rfl rfl rfl rfl rfl rfl (fun _ now => now)
      · cases stepped
  | applyStart done =>
      dsimp only at stepped
      split at stepped
      · rename_i generation snapshot starting handshake
        cases stepped
        exact inv.applyStart exit starting handshake
      · cases stepped
  | ready processId =>
      dsimp only at stepped
      split at stepped
      · rename_i handshake became
        cases stepped
        obtain ⟨-, rfl⟩ := ProcessState.becomeReady_ok became
        exact inv.aside rfl rfl rfl rfl rfl rfl nofun
      · cases stepped
  | lose kept =>
      simp only [Option.ite_none_right_eq_some, Option.some.injEq] at stepped
      obtain ⟨connected, rfl⟩ := stepped
      rw [(exit.linked connected).markDisconnected]
      exact inv.ends (fun _ member => List.mem_of_mem_take member) nofun
  | stopped =>
      cases stepped
      apply inv.ends (fun _ member => member)
      intro generation starting
      rcases markStopped_cases world.state world.gui.generation with fresh | ⟨kept, -⟩
      · rw [fresh] at starting
        cases starting
      · rw [kept] at starting
        exact starting
  | send message =>
      simp only [Option.ite_none_right_eq_some, Option.some.injEq] at stepped
      obtain ⟨command, rfl⟩ := stepped
      apply inv.post
      · cases message with
        | operationResult result => cases command
        | _ => rfl
      · rintro snapshot rfl
        cases command
  | createPatch content =>
      cases stepped
      exact inv.aside rfl rfl rfl rfl rfl rfl (fun _ now => now)
  | sendPatch patch =>
      simp only [Option.ite_none_right_eq_some, Option.some.injEq] at stepped
      obtain ⟨-, rfl⟩ := stepped
      have aside : QueueInv { world with held := world.held.erase patch } :=
        inv.aside rfl rfl rfl rfl rfl rfl (fun _ now => now)
      exact aside.post rfl nofun
  | readMessage =>
      dsimp only at stepped
      split at stepped
      · rename_i message rest idle queue
        cases stepped
        exact inv.receive idle queue
      · cases stepped
  | readSnapshot main => exact inv.serve stepped
  | queueSnapshot => exact inv.serve stepped
  | answer success message output => exact inv.serve stepped
  | apply done =>
      simp only [Bool.and_eq_true, Bool.not_eq_true', Option.ite_none_right_eq_some] at stepped
      obtain ⟨⟨connected, -⟩, applied⟩ := stepped
      exact inv.applyNext exit connected applied
  | event event =>
      simp only [Bool.and_eq_true, Bool.not_eq_true', Option.ite_none_right_eq_some,
        Option.some.injEq] at stepped
      obtain ⟨⟨connected, -⟩, rfl⟩ := stepped
      exact inv.event exit connected event

end Steps

end Lvos.System.Ui
