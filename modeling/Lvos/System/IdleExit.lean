import Lvos.System.Dialogue

set_option autoImplicit false

namespace Lvos.System.Ui

open Lvos.Ipc Lvos.Agent Lvos.Desktop
open Relational (Table)
open Transition (run Meets run_keeps)

/-- What a message says about the idle exit. -/
inductive IdleEvent
  | ask (requestId : DrawnId)
  | withdraw (requestId : DrawnId)
deriving DecidableEq

def idleEvent (generation : Nat) : UiToAgent → Option IdleEvent
  | .requestIdleExit requestId processGeneration =>
      if processGeneration = generation then some (.ask requestId) else none
  | .cancelIdleExit requestId processGeneration =>
      if processGeneration = generation then some (.withdraw requestId) else none
  | _ => none

def idleEvents (generation : Nat) (messages : List UiToAgent) : List IdleEvent :=
  messages.filterMap (idleEvent generation)

def IdleEvent.asked : IdleEvent → Option DrawnId
  | .ask requestId => some requestId
  | .withdraw _ => none

/-- The idle requests that the events ask for. -/
def asks (events : List IdleEvent) : List DrawnId := events.filterMap IdleEvent.asked

/-- The idle request the Agent holds once it has read the events; `none` where one of them
does not fit. -/
def settle : Option DrawnId → List IdleEvent → Option (Option DrawnId)
  | held, [] => some held
  | none, .ask requestId :: rest => settle (some requestId) rest
  | some held, .withdraw requestId :: rest => if requestId = held then settle none rest else none
  | _, _ => none

def approvals (messages : List AgentToUi) : List DrawnId :=
  messages.filterMap (fun message =>
    match message with
    | .idleExitApproved requestId _ => some requestId
    | _ => none)

def isApproval : AgentToUi → Bool
  | .idleExitApproved _ _ => true
  | _ => false

@[simp] theorem idleEvents_append (generation : Nat) (first second : List UiToAgent) :
    idleEvents generation (first ++ second) =
      idleEvents generation first ++ idleEvents generation second :=
  List.filterMap_append

@[simp] theorem asks_append (first second : List IdleEvent) :
    asks (first ++ second) = asks first ++ asks second := List.filterMap_append

@[simp] theorem approvals_append (first second : List AgentToUi) :
    approvals (first ++ second) = approvals first ++ approvals second := List.filterMap_append

theorem settle_append (held : Option DrawnId) (first second : List IdleEvent) :
    settle held (first ++ second) = (settle held first).bind (fun reached =>
      settle reached second) := by
  induction first generalizing held with
  | nil => rfl
  | cons event rest ih =>
      cases event with
      | ask requestId =>
          cases held with
          | none => exact ih (some requestId)
          | some other => rfl
      | withdraw requestId =>
          cases held with
          | none => rfl
          | some other =>
              simp only [List.cons_append, settle]
              split
              · exact ih none
              · rfl

/-- A request that is held in the end was asked for last, or held from the start. -/
theorem settle_some {held : Option DrawnId} {events : List IdleEvent} {requestId : DrawnId}
    (settles : settle held events = some (some requestId)) :
    requestId ∈ asks events ∨ held = some requestId ∧ events = [] := by
  induction events generalizing held with
  | nil =>
      cases settles
      exact .inr ⟨rfl, rfl⟩
  | cons event rest ih =>
      cases event with
      | ask other =>
          cases held with
          | some found => cases settles
          | none =>
              rcases ih settles with later | ⟨now, -⟩
              · exact .inl (List.mem_cons_of_mem _ later)
              · cases now
                exact .inl (List.mem_cons_self ..)
      | withdraw other =>
          cases held with
          | none => cases settles
          | some found =>
              simp only [settle, Option.ite_none_right_eq_some] at settles
              rcases ih settles.2 with later | ⟨now, -⟩
              · exact .inl later
              · cases now

theorem idleEvents_notices {generation : Nat} {output : List UiToAgent}
    (notices : ∀ message ∈ output, isNotice message = true) :
    idleEvents generation output = [] := by
  apply List.filterMap_eq_nil_iff.mpr
  intro message member
  have notice := notices message member
  cases message with
  | request requestId operation => cases notice
  | requestIdleExit requestId processGeneration => cases notice
  | cancelIdleExit requestId processGeneration => cases notice
  | lookupDismissed displaySessionId => rfl
  | uiBlockingChanged blocked => rfl
  | exiting processGeneration => rfl

/-- How the two sides of the idle exit fit: read to the end, the messages of the GUI leave
the Agent with the request that the GUI holds, and no approval is of a request that the
Agent has still to read. -/
structure Coupled (held : Option DrawnId) (toAgent : List UiToAgent) (toUi : List AgentToUi)
    (gui : UiSession) : Prop where
  settles : settle held (idleEvents gui.generation toAgent) = some gui.exit.requestId
  sorted : (asks (idleEvents gui.generation toAgent)).Pairwise (· < ·)
  asked : ∀ requestId ∈ asks (idleEvents gui.generation toAgent), requestId < gui.drawn
  approved : ∀ requestId ∈ approvals toUi, requestId < gui.drawn
  older : ∀ approval ∈ approvals toUi,
    ∀ requestId ∈ asks (idleEvents gui.generation toAgent), approval < requestId

section Coupling

variable {held : Option DrawnId} {toAgent output : List UiToAgent} {toUi : List AgentToUi}
  {gui next : UiSession} {rule : UiSession.SubmitRule}

/-- The GUI moves without a word about the idle exit. -/
theorem Coupled.unsaid (coupled : Coupled held toAgent toUi gui)
    (silent : idleEvents gui.generation output = [])
    (generation : next.generation = gui.generation)
    (request : next.exit.requestId = gui.exit.requestId) (drawn : gui.drawn ≤ next.drawn) :
    Coupled held (toAgent ++ output) toUi next := by
  have same : idleEvents next.generation (toAgent ++ output) =
      idleEvents gui.generation toAgent := by
    rw [generation, idleEvents_append, silent, List.append_nil]
  refine ⟨?_, ?_, ?_, ?_, ?_⟩
  · rw [same, request]
    exact coupled.settles
  · rw [same]
    exact coupled.sorted
  · rw [same]
    intro requestId member
    exact Nat.lt_of_lt_of_le (coupled.asked requestId member) drawn
  · intro requestId member
    exact Nat.lt_of_lt_of_le (coupled.approved requestId member) drawn
  · rw [same]
    exact coupled.older

theorem Coupled.emit (coupled : Coupled held toAgent toUi gui)
    (effect : gui.Emit rule next output) :
    Coupled held (toAgent ++ output) toUi next ∧ next.generation = gui.generation := by
  cases effect with
  | quiet request pending drawn generation notices =>
      have counted : gui.drawn ≤ next.drawn := Nat.le_of_eq drawn.symm
      exact ⟨coupled.unsaid (idleEvents_notices notices) generation request counted, generation⟩
  | asks idle free =>
      have event : idleEvents gui.generation
          (toAgent ++ [.requestIdleExit gui.drawn gui.generation]) =
          idleEvents gui.generation toAgent ++ [.ask gui.drawn] := by
        simp [idleEvents, idleEvent]
      refine ⟨⟨?_, ?_, ?_, ?_, ?_⟩, rfl⟩
      · change settle held (idleEvents gui.generation _) = some (some gui.drawn)
        rw [event, settle_append, coupled.settles, free]
        rfl
      · change (Ui.asks (idleEvents gui.generation _)).Pairwise (· < ·)
        rw [event, asks_append, List.pairwise_append]
        refine ⟨coupled.sorted, List.pairwise_singleton _ _, ?_⟩
        intro requestId member drawn new
        cases List.mem_singleton.mp new
        exact coupled.asked requestId member
      · intro requestId member
        change requestId ∈ Ui.asks (idleEvents gui.generation _) at member
        change requestId < gui.drawn + 1
        rw [event, asks_append, List.mem_append] at member
        rcases member with before | new
        · exact Nat.lt_succ_of_lt (coupled.asked requestId before)
        · cases List.mem_singleton.mp new
          exact Nat.lt_succ_self _
      · intro requestId member
        exact Nat.lt_succ_of_lt (coupled.approved requestId member)
      · intro approval member requestId among
        change requestId ∈ Ui.asks (idleEvents gui.generation _) at among
        rw [event, asks_append, List.mem_append] at among
        rcases among with before | new
        · exact coupled.older approval member requestId before
        · cases List.mem_singleton.mp new
          exact coupled.approved approval member
  | withdraws requestId asked =>
      have event : idleEvents gui.generation
          (toAgent ++ [.cancelIdleExit requestId gui.generation]) =
          idleEvents gui.generation toAgent ++ [.withdraw requestId] := by
        simp [idleEvents, idleEvent]
      have same : Ui.asks (idleEvents gui.generation
          (toAgent ++ [.cancelIdleExit requestId gui.generation])) =
          Ui.asks (idleEvents gui.generation toAgent) := by
        rw [event, asks_append]
        exact List.append_nil _
      refine ⟨⟨?_, ?_, ?_, coupled.approved, ?_⟩, rfl⟩
      · change settle held (idleEvents gui.generation _) = some none
        rw [event, settle_append, coupled.settles, asked]
        simp [settle]
      · change (Ui.asks (idleEvents gui.generation _)).Pairwise (· < ·)
        rw [same]
        exact coupled.sorted
      · intro other member
        change other ∈ Ui.asks (idleEvents gui.generation _) at member
        rw [same] at member
        exact coupled.asked other member
      · intro approval member other among
        change other ∈ Ui.asks (idleEvents gui.generation _) at among
        rw [same] at among
        exact coupled.older approval member other among
  | submits operation blocksUi free =>
      exact ⟨coupled.unsaid rfl rfl rfl (Nat.le_succ _), rfl⟩

theorem Coupled.emits (moved : UiSession.Emits rule gui next output) :
    ∀ {toAgent : List UiToAgent}, Coupled held toAgent toUi gui →
      Coupled held (toAgent ++ output) toUi next ∧ next.generation = gui.generation := by
  induction moved with
  | refl session =>
      intro toAgent coupled
      rw [List.append_nil]
      exact ⟨coupled, rfl⟩
  | step effect later ih =>
      intro toAgent coupled
      obtain ⟨once, same⟩ := coupled.emit effect
      rw [← List.append_assoc]
      obtain ⟨whole, again⟩ := ih once
      exact ⟨whole, again.trans same⟩

theorem answered_generation (gui : UiSession) (message : AgentToUi) :
    (gui.answered message).generation = gui.generation := by
  cases message <;> rfl

theorem Coupled.answered (coupled : Coupled held toAgent toUi gui) (message : AgentToUi) :
    Coupled held toAgent toUi (gui.answered message) := by
  cases message with
  | operationResult result =>
      exact ⟨coupled.settles, coupled.sorted, coupled.asked, coupled.approved, coupled.older⟩
  | _ => exact coupled

/-- The Agent queues a message that is no approval, or the GUI takes one off. -/
theorem Coupled.requeue {messages : List AgentToUi} (coupled : Coupled held toAgent toUi gui)
    (fewer : ∀ requestId ∈ approvals messages, requestId ∈ approvals toUi) :
    Coupled held toAgent messages gui :=
  ⟨coupled.settles, coupled.sorted, coupled.asked,
    fun requestId member => coupled.approved requestId (fewer requestId member),
    fun approval member => coupled.older approval (fewer approval member)⟩

theorem Coupled.skip {message : UiToAgent} {rest : List UiToAgent}
    (coupled : Coupled held (message :: rest) toUi gui)
    (silent : idleEvent gui.generation message = none) : Coupled held rest toUi gui := by
  have same : idleEvents gui.generation (message :: rest) = idleEvents gui.generation rest :=
    List.filterMap_cons_none silent
  exact ⟨same ▸ coupled.settles, same ▸ coupled.sorted, same ▸ coupled.asked, coupled.approved,
    same ▸ coupled.older⟩

/-- The Agent reads a request: it held none, and the approval it queues is the newest. -/
theorem Coupled.approve {requestId : DrawnId} {rest : List UiToAgent}
    (coupled : Coupled held (.requestIdleExit requestId gui.generation :: rest) toUi gui) :
    held = none ∧ (∀ approval ∈ approvals toUi, approval < requestId) ∧
      Coupled (some requestId) rest (toUi ++ [.idleExitApproved requestId gui.generation])
        gui := by
  have event : idleEvents gui.generation (.requestIdleExit requestId gui.generation :: rest) =
      .ask requestId :: idleEvents gui.generation rest := by
    simp [idleEvents, idleEvent]
  have free : held = none := by
    cases held with
    | none => rfl
    | some other =>
        have settles := coupled.settles
        rw [event] at settles
        cases settles
  have first : Ui.asks (.ask requestId :: idleEvents gui.generation rest) =
      requestId :: Ui.asks (idleEvents gui.generation rest) := rfl
  have sorted := coupled.sorted
  have asked := coupled.asked
  have older := coupled.older
  have settles := coupled.settles
  rw [event, first, List.pairwise_cons] at sorted
  rw [event, first] at asked older
  rw [event, free] at settles
  refine ⟨free, fun approval member => older approval member requestId (List.mem_cons_self ..),
    settles, sorted.2, fun other member => asked other (List.mem_cons_of_mem _ member), ?_, ?_⟩
  · intro other member
    rw [approvals_append, List.mem_append] at member
    rcases member with before | new
    · exact coupled.approved other before
    · cases List.mem_singleton.mp new
      exact asked requestId (List.mem_cons_self ..)
  · intro approval member other among
    rw [approvals_append, List.mem_append] at member
    rcases member with before | new
    · exact older approval before other (List.mem_cons_of_mem _ among)
    · cases List.mem_singleton.mp new
      exact sorted.1 other among

/-- The Agent reads a cancellation: it held that request. -/
theorem Coupled.cancel {requestId : DrawnId} {rest : List UiToAgent}
    (coupled : Coupled held (.cancelIdleExit requestId gui.generation :: rest) toUi gui) :
    held = some requestId ∧ Coupled none rest toUi gui := by
  have event : idleEvents gui.generation (.cancelIdleExit requestId gui.generation :: rest) =
      .withdraw requestId :: idleEvents gui.generation rest := by
    simp [idleEvents, idleEvent]
  have same : Ui.asks (.withdraw requestId :: idleEvents gui.generation rest) =
      Ui.asks (idleEvents gui.generation rest) := rfl
  have settles := coupled.settles
  have sorted := coupled.sorted
  have asked := coupled.asked
  have older := coupled.older
  rw [event] at settles
  rw [event, same] at sorted asked older
  cases held with
  | none => cases settles
  | some other =>
      simp only [settle, Option.ite_none_right_eq_some] at settles
      obtain ⟨rfl, later⟩ := settles
      exact ⟨rfl, later, sorted, asked, coupled.approved, older⟩

/-- An approval of the request that the GUI holds is one of the Agent's present request,
and nothing about the idle exit is on its way to the Agent. -/
theorem Coupled.current {requestId : DrawnId} (coupled : Coupled held toAgent toUi gui)
    (member : requestId ∈ approvals toUi) (asked : gui.exit.requestId = some requestId) :
    held = some requestId ∧ idleEvents gui.generation toAgent = [] := by
  have settles := coupled.settles
  rw [asked] at settles
  rcases settle_some settles with among | now
  · exact absurd (coupled.older requestId member requestId among) (Nat.lt_irrefl _)
  · exact now

end Coupling

/-! The invariant of a connection and of the start before it. -/

/-- A connection on which frames travel. -/
structure Linked (world : Dialogue) : Prop where
  sender : world.state.sender.isSome = true
  phase : world.state.phase = .ready world.gui.generation ∧ world.state.idleExitRequest = none ∨
    world.state.phase = .stopping world.gui.generation ∧
      world.state.idleExitRequest.isSome = true
  sequence : world.gui.cache.lastSequence = world.delivered + 2
  coupled : Coupled world.state.idleExitRequest world.toAgent world.toUi world.gui
  last : ∀ requestId, world.state.idleExitRequest = some requestId →
    requestId ∈ approvals world.toUi → ∃ before,
      world.toUi = before ++ [.idleExitApproved requestId world.gui.generation] ∧
        requestId ∉ approvals before
  running : AgentToUi.shutdown ∉ world.toUi
  logged : (world.applied ++ world.toUi).filter (fun message => !isApproval message) = world.sent

/-- A GUI that has not finished its handshake. -/
structure Unready (world : Dialogue) : Prop where
  unconnected : world.connected = false
  toUi : world.toUi = []
  sent : world.sent = []
  applied : world.applied = []
  running : world.gui.quit = false
  unasked : world.gui.exit.requestId = none
  silent : idleEvents world.gui.generation world.toAgent = []
  fresh : world.handshake ≠ .applied →
    world.gui = .install world.gui.generation world.gui.drawn
  sequence : world.handshake = .applied → world.gui.cache.lastSequence = 2
  consistent : ∀ snapshot, world.handshake = .read snapshot →
    snapshot.revision = snapshot.main.revision

structure ExitInv (world : Dialogue) : Prop where
  numbered : world.gui.generation < world.nextGeneration
  later : ∀ generation, world.nextGeneration ≤ generation →
    idleEvents generation world.toAgent = []
  starting : ∀ generation, world.state.phase = .starting generation →
    generation = world.gui.generation ∧ Unready world
  linked : world.connected = true → Linked world
  cut : world.connected = false → world.state.sender = none
  online : ∀ generation, world.state.phase = .ready generation → world.connected = true
  quit : world.gui.quit = true →
    world.sent = world.applied.filter (fun message => !isApproval message) ∧
    (world.connected = true → world.toUi = [] ∧
      world.state.phase = .stopping world.gui.generation ∧
      idleEvents world.gui.generation world.toAgent = [])

section Steps

variable {world next : Dialogue}

theorem reaches_iff (inv : ExitInv world) : world.reaches = true ↔
    world.connected = true ∧ world.state.phase = .ready world.gui.generation := by
  unfold Dialogue.reaches ProcessState.sendIfReady
  constructor
  · intro reached
    split at reached
    · rename_i generation ready
      obtain ⟨connection, found⟩ := Option.isSome_iff_exists.mp reached
      have connected := (Option.filter_eq_some_iff.mp found).2
      refine ⟨connected, ?_⟩
      rcases (inv.linked connected).phase with now | ⟨stopping, -⟩
      · exact now.1
      · rw [stopping] at ready
        cases ready
    · cases reached
  · rintro ⟨connected, ready⟩
    obtain ⟨connection, sender⟩ := Option.isSome_iff_exists.mp (inv.linked connected).sender
    simp [ready, sender, connected]

theorem idle_of_ready (linked : Linked world)
    (ready : world.state.phase = .ready world.gui.generation) :
    world.state.idleExitRequest = none := by
  rcases linked.phase with now | ⟨stopping, -⟩
  · exact now.2
  · rw [stopping] at ready
    cases ready

/-- Messages that are no approvals are queued while the phase is ready. -/
theorem ExitInv.post (inv : ExitInv world) {message : AgentToUi}
    (plain : isApproval message = false) (running : message ≠ .shutdown) :
    ExitInv (world.post message) := by
  unfold Dialogue.post
  by_cases reached : world.reaches = true
  · rw [if_pos reached]
    obtain ⟨connected, ready⟩ := (reaches_iff inv).mp reached
    have linked := inv.linked connected
    have idle := idle_of_ready linked ready
    have none : approvals [message] = [] := by
      cases message with
      | idleExitApproved requestId generation => cases plain
      | _ => rfl
    have fewer : ∀ requestId ∈ approvals (world.toUi ++ [message]),
        requestId ∈ approvals world.toUi := by
      intro requestId member
      rwa [approvals_append, none, List.append_nil] at member
    refine ⟨inv.numbered, inv.later, ?_, ?_, inv.cut, inv.online, ?_⟩
    · intro generation starting
      rw [ready] at starting
      cases starting
    · intro _
      refine ⟨linked.sender, linked.phase, linked.sequence, linked.coupled.requeue fewer, ?_, ?_,
        ?_⟩
      · intro requestId held
        rw [idle] at held
        cases held
      · intro member
        rcases List.mem_append.mp member with before | new
        · exact linked.running before
        · exact running (List.mem_singleton.mp new).symm
      · rw [← List.append_assoc, List.filter_append, linked.logged]
        simp [plain]
    · intro quit
      obtain ⟨-, stuck⟩ := inv.quit quit
      rw [(stuck connected).2.1] at ready
      cases ready
  · rw [if_neg reached]
    exact inv

/-- A step that touches none of the fields of the invariant. -/
theorem ExitInv.aside (inv : ExitInv world) (state : next.state = world.state)
    (number : next.nextGeneration = world.nextGeneration) (gui : next.gui = world.gui)
    (handshake : next.handshake = world.handshake) (connected : next.connected = world.connected)
    (toUi : next.toUi = world.toUi) (toAgent : next.toAgent = world.toAgent)
    (delivered : next.delivered = world.delivered) (sent : next.sent = world.sent)
    (applied : next.applied = world.applied) : ExitInv next := by
  refine ⟨by rw [gui, number]; exact inv.numbered, by rw [number, toAgent]; exact inv.later,
    ?_, ?_, by rw [connected, state]; exact inv.cut,
    by rw [connected, state]; exact inv.online, ?_⟩
  · intro generation starting
    rw [state] at starting
    obtain ⟨same, unready⟩ := inv.starting generation starting
    refine ⟨same.trans (by rw [gui]), ?_⟩
    exact ⟨connected.trans unready.unconnected, toUi.trans unready.toUi, sent.trans unready.sent,
      applied.trans unready.applied, by rw [gui]; exact unready.running,
      by rw [gui]; exact unready.unasked, by rw [gui, toAgent]; exact unready.silent,
      by rw [gui, handshake]; exact unready.fresh,
      by rw [gui, handshake]; exact unready.sequence,
      by rw [handshake]; exact unready.consistent⟩
  · intro link
    rw [connected] at link
    have linked := inv.linked link
    exact ⟨by rw [state]; exact linked.sender, by rw [state, gui]; exact linked.phase,
      by rw [gui, delivered]; exact linked.sequence,
      by rw [state, toAgent, toUi, gui]; exact linked.coupled,
      by rw [state, toUi, gui]; exact linked.last, by rw [toUi]; exact linked.running,
      by rw [applied, toUi, sent]; exact linked.logged⟩
  · rw [gui, sent, applied, connected, toUi, state, toAgent]
    exact inv.quit

theorem idleEvents_of_emits {rule : UiSession.SubmitRule} {session moved : UiSession}
    {output : List UiToAgent} (emits : UiSession.Emits rule session moved output)
    {generation : Nat} (apart : generation ≠ session.generation) :
    idleEvents generation output = [] := by
  induction emits with
  | refl session => rfl
  | step effect later ih =>
      rw [idleEvents_append]
      cases effect with
      | quiet request pending drawn same notices =>
          rw [idleEvents_notices notices, ih (by rw [same]; exact apart)]
          rfl
      | asks idle free =>
          rw [ih apart]
          simp [idleEvents, idleEvent, Ne.symm apart]
      | withdraws requestId held =>
          rw [ih apart]
          simp [idleEvents, idleEvent, Ne.symm apart]
      | submits operation blocksUi free =>
          rw [ih apart]
          rfl

/-- The GUI moves on a connection without quitting. -/
theorem ExitInv.moveGui (inv : ExitInv world) (connected : world.connected = true)
    (running : world.gui.quit = false) {moved : UiSession × List UiToAgent} {rule : UiSession.SubmitRule}
    (emits : UiSession.Emits rule world.gui moved.1 moved.2)
    (kept : UiSession.Undisturbed world.gui moved.1) : ExitInv (world.moveGui moved) := by
  have linked := inv.linked connected
  obtain ⟨coupled, same⟩ := linked.coupled.emits emits
  refine ⟨?_, ?_, ?_, ?_, inv.cut, inv.online, ?_⟩
  · rw [Dialogue.moveGui_gui, same]
    exact inv.numbered
  · intro generation bound
    rw [Dialogue.moveGui_toAgent, idleEvents_append, inv.later generation bound,
      idleEvents_of_emits emits]
    · rfl
    · have below := inv.numbered
      simp only [Dialogue.moveGui_nextGeneration] at bound
      omega
  · intro generation starting
    obtain ⟨-, unready⟩ := inv.starting generation starting
    rw [unready.unconnected] at connected
    cases connected
  · intro _
    refine ⟨linked.sender, ?_, ?_, coupled, ?_, linked.running, linked.logged⟩
    · rw [Dialogue.moveGui_gui, same]
      exact linked.phase
    · rw [Dialogue.moveGui_gui, kept.cache]
      exact linked.sequence
    · rw [Dialogue.moveGui_gui, same]
      exact linked.last
  · intro quit
    rw [Dialogue.moveGui_gui, kept.quit, running] at quit
    cases quit

theorem mem_approvals {message : AgentToUi} {rest : List AgentToUi} {requestId : DrawnId}
    (member : requestId ∈ approvals rest) : requestId ∈ approvals (message :: rest) := by
  change requestId ∈ approvals ([message] ++ rest)
  rw [approvals_append]
  exact List.mem_append_right _ member

/-- The GUI takes a frame off the queue and applies it. -/
theorem ExitInv.applyNext (inv : ExitInv world) (connected : world.connected = true)
    (running : world.gui.quit = false) {done : Bool}
    (applied : world.applyNext done = some next) : ExitInv next := by
  have linked := inv.linked connected
  unfold Dialogue.applyNext at applied
  split at applied
  · cases applied
  · rename_i message rest queue
    have order : world.gui.cache.lastSequence < world.delivered + 3 := by
      rw [linked.sequence]
      omega
    have emits := UiSession.emits_anyMessage message done order
    obtain ⟨cache, quits⟩ := UiSession.apply_cache message done order
    have count : (UiSession.cacheAfter
        { world.gui.cache with lastSequence := world.delivered + 3 } message).lastSequence =
        world.delivered + 3 := by
      unfold UiSession.cacheAfter
      repeat' split
      all_goals rfl
    obtain ⟨coupled, kept⟩ := (linked.coupled.answered message).emits emits
    have same := kept.trans (answered_generation world.gui message)
    have fewer : ∀ requestId ∈ approvals rest, requestId ∈ approvals world.toUi := by
      rw [queue]
      exact fun requestId member => mem_approvals member
    have logged : world.applied ++ [message] ++ rest = world.applied ++ world.toUi := by
      rw [queue, List.append_assoc]
      rfl
    have late : ¬ world.delivered + 3 ≤ world.gui.cache.lastSequence := Nat.not_le.mpr order
    rw [if_neg late] at applied
    cases applied
    refine ⟨?_, ?_, ?_, ?_, inv.cut, inv.online, ?_⟩
    · rw [Dialogue.moveGui_gui, same]
      exact inv.numbered
    · intro generation bound
      rw [Dialogue.moveGui_toAgent, idleEvents_append, inv.later generation bound,
        idleEvents_of_emits emits]
      · rfl
      · have below := inv.numbered
        rw [answered_generation]
        simp only [Dialogue.moveGui_nextGeneration] at bound
        omega
    · intro generation starting
      obtain ⟨-, unready⟩ := inv.starting generation starting
      rw [unready.unconnected] at connected
      cases connected
    · intro _
      refine ⟨linked.sender, ?_, ?_, coupled.requeue fewer, ?_, ?_, ?_⟩
      · rw [Dialogue.moveGui_gui, same]
        exact linked.phase
      · rw [Dialogue.moveGui_gui, cache, count]
        rfl
      · intro requestId held member
        obtain ⟨before, whole, absent⟩ := linked.last requestId held (fewer requestId member)
        rw [queue] at whole
        cases before with
        | nil =>
            cases whole
            cases member
        | cons first others =>
            cases whole
            rw [Dialogue.moveGui_gui, same]
            exact ⟨others, rfl, fun there => absent (mem_approvals there)⟩
      · intro member
        apply linked.running
        rw [queue]
        exact List.mem_cons_of_mem _ member
      · change (world.applied ++ [message] ++ rest).filter _ = world.sent
        rw [logged]
        exact linked.logged
    · -- The GUI quits: the approval is of the Agent's present request, and it is the last frame.
      intro quit
      rw [Dialogue.moveGui_gui, quits, running, Bool.false_or] at quit
      have alone : ∃ requestId, world.state.idleExitRequest = some requestId ∧
          idleEvents world.gui.generation world.toAgent = [] ∧ rest = [] ∧
          idleEvents world.gui.generation
            (world.gui.apply (world.delivered + 3) message done).2 = [] := by
        cases message with
        | idleExitApproved requestId generation =>
            simp only [UiSession.quitsOn, Bool.and_eq_true, decide_eq_true_eq] at quit
            obtain ⟨⟨rfl, asked⟩, idle⟩ := quit
            have member : requestId ∈ approvals world.toUi := by
              rw [queue]
              exact List.mem_cons_self ..
            obtain ⟨held, silent⟩ := linked.coupled.current member asked
            obtain ⟨before, whole, absent⟩ := linked.last requestId held member
            rw [queue] at whole
            refine ⟨requestId, held, silent, ?_, ?_⟩
            · cases before with
              | nil =>
                  cases whole
                  rfl
              | cons first others =>
                  cases whole
                  exact absurd (List.mem_cons_self ..) absent
            · rw [UiSession.apply_quitting done order asked idle]
              rfl
        | shutdown =>
            apply absurd _ linked.running
            rw [queue]
            exact List.mem_cons_self ..
        | _ => cases quit
      obtain ⟨requestId, held, silent, empty, spoken⟩ := alone
      refine ⟨?_, ?_⟩
      · rw [← linked.logged, ← logged, empty, List.append_nil]
        rfl
      · intro _
        refine ⟨empty, ?_, ?_⟩
        · rw [Dialogue.moveGui_gui, same]
          rcases linked.phase with ⟨-, idle⟩ | ⟨stopping, -⟩
          · rw [idle] at held
            cases held
          · exact stopping
        · rw [Dialogue.moveGui_gui, Dialogue.moveGui_toAgent, same, idleEvents_append, silent,
            spoken]
          rfl

theorem idleEvent_of_cons {generation : Nat} {message : UiToAgent} {rest : List UiToAgent}
    (silent : idleEvents generation (message :: rest) = []) :
    idleEvent generation message = none ∧ idleEvents generation rest = [] := by
  cases event : idleEvent generation message with
  | none =>
      rw [idleEvents, List.filterMap_cons_none event] at silent
      exact ⟨rfl, silent⟩
  | some found =>
      rw [idleEvents, List.filterMap_cons_some event] at silent
      cases silent

/-- The Agent takes a message off its queue that does not concern the idle exit. -/
theorem ExitInv.skip (inv : ExitInv world) {message : UiToAgent} {rest : List UiToAgent}
    {serving : Option Serving} (queue : world.toAgent = message :: rest)
    (silent : world.connected = true → idleEvent world.gui.generation message = none) :
    ExitInv { world with
      toAgent := rest
      serving := serving } := by
  have shorter : ∀ generation, idleEvents generation world.toAgent = [] →
      idleEvents generation rest = [] := by
    intro generation none
    rw [queue] at none
    exact (idleEvent_of_cons none).2
  refine ⟨inv.numbered, fun generation bound => shorter generation (inv.later generation bound),
    ?_, ?_, inv.cut, inv.online, ?_⟩
  · intro generation starting
    obtain ⟨same, unready⟩ := inv.starting generation starting
    exact ⟨same, unready.unconnected, unready.toUi, unready.sent, unready.applied,
      unready.running, unready.unasked, shorter _ unready.silent, unready.fresh,
      unready.sequence, unready.consistent⟩
  · intro connected
    have linked := inv.linked connected
    have coupled := linked.coupled
    rw [queue] at coupled
    exact ⟨linked.sender, linked.phase, linked.sequence, coupled.skip (silent connected),
      linked.last, linked.running, linked.logged⟩
  · intro quit
    obtain ⟨logged, stuck⟩ := inv.quit quit
    refine ⟨logged, fun connected => ?_⟩
    obtain ⟨empty, stopping, none⟩ := stuck connected
    exact ⟨empty, stopping, shorter _ none⟩

theorem ExitInv.approve (inv : ExitInv world) {requestId : DrawnId} {generation : Nat}
    {rest : List UiToAgent}
    (queue : world.toAgent = .requestIdleExit requestId generation :: rest) :
    ExitInv (Dialogue.approve { world with toAgent := rest } requestId generation) := by
  unfold Dialogue.approve
  split
  · rename_i state connection approved
    obtain ⟨ready, sender, connected, rfl⟩ := ProcessState.approveIdleExit_ok approved
    change world.connected = true at connected
    change world.state.phase = .ready generation at ready
    have linked := inv.linked connected
    have own : generation = world.gui.generation := by
      rcases linked.phase with ⟨now, -⟩ | ⟨now, -⟩
      · rw [now] at ready
        cases ready
        rfl
      · rw [now] at ready
        cases ready
    subst own
    have coupled := linked.coupled
    rw [queue] at coupled
    obtain ⟨free, older, approves⟩ := coupled.approve
    have skipped : ∀ other, idleEvents other world.toAgent = [] →
        idleEvents other rest = [] := by
      intro other none
      rw [queue] at none
      exact (idleEvent_of_cons none).2
    refine ⟨inv.numbered, fun other bound => skipped other (inv.later other bound), ?_, ?_,
      inv.cut, nofun, ?_⟩
    · intro other starting
      cases starting
    · intro _
      refine ⟨linked.sender, .inr ⟨rfl, rfl⟩, linked.sequence, approves, ?_, ?_, ?_⟩
      · intro other held member
        cases held
        exact ⟨world.toUi, rfl, fun there => absurd (older requestId there) (Nat.lt_irrefl _)⟩
      · intro member
        rcases List.mem_append.mp member with before | new
        · exact linked.running before
        · cases List.mem_singleton.mp new
      · change (world.applied ++ (world.toUi ++ [_])).filter _ = world.sent
        rw [← List.append_assoc, List.filter_append, linked.logged]
        simp [isApproval]
    · intro quit
      obtain ⟨-, stuck⟩ := inv.quit quit
      rw [(stuck connected).2.1] at ready
      cases ready
  · rename_i refused
    -- A request that is not approved is of another generation.
    apply inv.skip queue
    intro connected
    have linked := inv.linked connected
    apply if_neg
    rintro rfl
    obtain ⟨sender, found⟩ := Option.isSome_iff_exists.mp linked.sender
    have coupled := linked.coupled
    rw [queue] at coupled
    obtain ⟨free, -, -⟩ := coupled.approve
    rcases linked.phase with ⟨ready, -⟩ | ⟨-, held⟩
    · simp [ProcessState.approveIdleExit, ready, found, connected] at refused
    · rw [free] at held
      cases held

theorem ExitInv.cancel (inv : ExitInv world) {requestId : DrawnId} {generation : Nat}
    {rest : List UiToAgent} (queue : world.toAgent = .cancelIdleExit requestId generation :: rest) :
    ExitInv { world with
      toAgent := rest
      state := world.state.cancelIdleExit false requestId generation } := by
  by_cases own : world.connected = true ∧ generation = world.gui.generation
  · obtain ⟨connected, rfl⟩ := own
    have linked := inv.linked connected
    have coupled := linked.coupled
    rw [queue] at coupled
    obtain ⟨held, cancelled⟩ := coupled.cancel
    have stopping : world.state.phase = .stopping world.gui.generation := by
      rcases linked.phase with ⟨-, idle⟩ | ⟨stopping, -⟩
      · rw [idle] at held
        cases held
      · exact stopping
    have back : world.state.cancelIdleExit false requestId world.gui.generation =
        { world.state with
          phase := .ready world.gui.generation
          idleExitRequest := none } := by
      rw [ProcessState.cancelIdleExit, if_pos ⟨stopping, held, linked.sender, rfl⟩]
    have skipped : ∀ other, idleEvents other world.toAgent = [] →
        idleEvents other rest = [] := by
      intro other none
      rw [queue] at none
      exact (idleEvent_of_cons none).2
    rw [back]
    refine ⟨inv.numbered, fun other bound => skipped other (inv.later other bound), ?_, ?_,
      inv.cut, fun _ _ => connected, ?_⟩
    · intro other starting
      cases starting
    · intro _
      refine ⟨linked.sender, .inl ⟨rfl, rfl⟩, linked.sequence, cancelled, ?_, linked.running,
        linked.logged⟩
      intro other none
      cases none
    · intro quit
      obtain ⟨-, stuck⟩ := inv.quit quit
      have none := (stuck connected).2.2
      rw [queue] at none
      have impossible := (idleEvent_of_cons none).1
      simp [idleEvent] at impossible
  · have unchanged : world.state.cancelIdleExit false requestId generation = world.state := by
      rw [ProcessState.cancelIdleExit, if_neg]
      rintro ⟨stopping, -, sender, -⟩
      cases connected : world.connected with
      | false =>
          rw [inv.cut connected] at sender
          cases sender
      | true =>
          rcases (inv.linked connected).phase with ⟨now, -⟩ | ⟨now, -⟩
          · rw [now] at stopping
            cases stopping
          · rw [now] at stopping
            cases stopping
            exact own ⟨connected, rfl⟩
    rw [unchanged]
    apply inv.skip queue
    intro connected
    exact if_neg (fun same => own ⟨connected, same⟩)

theorem markStopped_cases (state : ProcessState) (generation : Nat) :
    state.markStopped generation = .initial ∨ state.markStopped generation = state ∧
      phaseGeneration state.phase ≠ some generation := by
  unfold ProcessState.markStopped
  split
  · exact .inl rfl
  · rename_i apart
    exact .inr ⟨rfl, apart⟩

/-- The connection ends, or the process does; a part of what the GUI sent may still be read. -/
theorem ExitInv.ends (inv : ExitInv world) {state : ProcessState} {toAgent : List UiToAgent}
    (fewer : ∀ generation, idleEvents generation world.toAgent = [] →
      idleEvents generation toAgent = [])
    (ended : ∀ generation, state.phase ≠ .starting generation)
    (unready : ∀ generation, state.phase ≠ .ready generation) (cut : state.sender = none) :
    ExitInv { world with
      state := state
      connected := false
      toUi := []
      toAgent := toAgent } := by
  refine ⟨inv.numbered, fun generation bound => fewer generation (inv.later generation bound),
    ?_, ?_, fun _ => cut, fun generation ready => absurd ready (unready generation), ?_⟩
  · intro generation starting
    exact absurd starting (ended generation)
  · intro connected
    cases connected
  · intro quit
    refine ⟨(inv.quit quit).1, ?_⟩
    intro connected
    cases connected

theorem idleEvents_take {generation : Nat} {messages : List UiToAgent} (kept : Nat)
    (silent : idleEvents generation messages = []) :
    idleEvents generation (messages.take kept) = [] := by
  rw [← List.take_append_drop kept messages, idleEvents_append] at silent
  exact (List.append_eq_nil_iff.mp silent).1

theorem ExitInv.launch (inv : ExitInv world) (stopped : world.state.phase = .stopped) :
    ExitInv { world with
      state := (world.state.ensureReady world.nextGeneration).1
      nextGeneration := world.nextGeneration + 1
      gui := .install world.nextGeneration world.gui.drawn
      handshake := .greeted
      toUi := []
      origin := none
      sent := []
      applied := []
      requested := [] } := by
  have unconnected : world.connected = false := by
    cases connected : world.connected with
    | false => rfl
    | true =>
        rcases (inv.linked connected).phase with ⟨now, -⟩ | ⟨now, -⟩ <;>
          (rw [now] at stopped; cases stopped)
  have starts : (world.state.ensureReady world.nextGeneration).1 =
      { world.state with phase := .starting world.nextGeneration } := by
    simp [ProcessState.ensureReady, stopped]
  rw [starts]
  refine ⟨Nat.lt_succ_self _, ?_, ?_, ?_, inv.cut, nofun, ?_⟩
  · intro generation bound
    exact inv.later generation (Nat.le_of_succ_le bound)
  · intro generation starting
    cases starting
    exact ⟨rfl, unconnected, rfl, rfl, rfl, rfl, rfl, inv.later _ (Nat.le_refl _), fun _ => rfl,
      nofun, nofun⟩
  · intro connected
    change world.connected = true at connected
    rw [unconnected] at connected
    cases connected
  · intro quit
    cases quit

theorem ExitInv.readStart (inv : ExitInv world) {generation : Nat}
    (starting : world.state.phase = .starting generation)
    (greeted : world.handshake = .greeted) (main : MainUiSnapshot) :
    ExitInv { world with handshake := .read (world.snapshotOf main) } := by
  obtain ⟨same, unready⟩ := inv.starting generation starting
  refine ⟨inv.numbered, inv.later, ?_, ?_, inv.cut, inv.online, ?_⟩
  · intro later now
    obtain ⟨own, -⟩ := inv.starting later now
    refine ⟨own, unready.unconnected, unready.toUi, unready.sent, unready.applied,
      unready.running, unready.unasked, unready.silent,
      fun _ => unready.fresh (by rw [greeted]; nofun), nofun, ?_⟩
    intro snapshot read
    cases read
    rfl
  · intro connected
    change world.connected = true at connected
    rw [unready.unconnected] at connected
    cases connected
  · intro quit
    change world.gui.quit = true at quit
    rw [unready.running] at quit
    cases quit

theorem ExitInv.applyStart (inv : ExitInv world) {generation : Nat} {snapshot : UiSnapshot}
    {done : Bool} (starting : world.state.phase = .starting generation)
    (handshake : world.handshake = .read snapshot) :
    ExitInv (Dialogue.moveGui { world with
      handshake := .applied
      origin := some snapshot } (world.gui.apply 2 (.snapshot snapshot) done)) := by
  obtain ⟨same, unready⟩ := inv.starting generation starting
  have fresh := unready.fresh (by rw [handshake]; nofun)
  obtain ⟨silent, exit, quit, own, -, -, cache⟩ := UiSession.apply_start world.gui.generation
    world.gui.drawn done (unready.consistent snapshot handshake)
  rw [← fresh] at silent exit quit own cache
  refine ⟨?_, ?_, ?_, ?_, inv.cut, inv.online, ?_⟩
  · rw [Dialogue.moveGui_gui, own]
    exact inv.numbered
  · intro later bound
    rw [Dialogue.moveGui_toAgent, silent, List.append_nil]
    exact inv.later later bound
  · intro later now
    change world.state.phase = .starting later at now
    rw [starting] at now
    cases now
    refine ⟨same.trans (by rw [Dialogue.moveGui_gui, own]), unready.unconnected, unready.toUi,
      unready.sent, unready.applied, quit, ?_, ?_, fun apart => absurd rfl apart, ?_, nofun⟩
    · rw [Dialogue.moveGui_gui, exit]
    · rw [Dialogue.moveGui_gui, Dialogue.moveGui_toAgent, own, silent, List.append_nil]
      exact unready.silent
    · intro _
      rw [Dialogue.moveGui_gui, cache]
  · intro connected
    change world.connected = true at connected
    rw [unready.unconnected] at connected
    cases connected
  · intro quits
    rw [Dialogue.moveGui_gui, quit] at quits
    cases quits

theorem ExitInv.ready (inv : ExitInv world) {processId : Nat} {state : ProcessState}
    (handshake : world.handshake = .applied)
    (became : world.state.becomeReady world.gui.generation processId 0 = .ok state) :
    ExitInv { world with
      state := state
      connected := true
      delivered := 0 } := by
  obtain ⟨starting, rfl⟩ := ProcessState.becomeReady_ok became
  obtain ⟨-, unready⟩ := inv.starting _ starting
  refine ⟨inv.numbered, inv.later, ?_, ?_, nofun, fun _ _ => rfl, ?_⟩
  · intro generation now
    cases now
  · intro _
    refine ⟨rfl, .inl ⟨rfl, rfl⟩, unready.sequence handshake, ⟨?_, ?_, ?_, ?_, ?_⟩, nofun, ?_, ?_⟩
    · change settle none (idleEvents world.gui.generation world.toAgent) = _
      rw [unready.silent, unready.unasked]
      rfl
    · change (asks (idleEvents world.gui.generation world.toAgent)).Pairwise _
      rw [unready.silent]
      exact List.Pairwise.nil
    · change ∀ requestId ∈ asks (idleEvents world.gui.generation world.toAgent), _
      rw [unready.silent]
      nofun
    · change ∀ requestId ∈ approvals world.toUi, _
      rw [unready.toUi]
      nofun
    · change ∀ approval ∈ approvals world.toUi, _
      rw [unready.toUi]
      nofun
    · change AgentToUi.shutdown ∉ world.toUi
      rw [unready.toUi]
      nofun
    · change (world.applied ++ world.toUi).filter _ = world.sent
      rw [unready.applied, unready.toUi, unready.sent]
      rfl
  · intro quit
    change world.gui.quit = true at quit
    rw [unready.running] at quit
    cases quit

theorem ExitInv.stopped (inv : ExitInv world) :
    ExitInv { world with
      state := world.state.markStopped world.gui.generation
      connected := false
      toUi := [] } := by
  apply inv.ends (fun _ silent => silent)
  · intro generation starting
    rcases markStopped_cases world.state world.gui.generation with fresh | ⟨kept, apart⟩
    · rw [fresh] at starting
      cases starting
    · rw [kept] at starting
      obtain ⟨rfl, -⟩ := inv.starting generation starting
      rw [starting] at apart
      exact apart rfl
  · intro generation ready
    rcases markStopped_cases world.state world.gui.generation with fresh | ⟨kept, apart⟩
    · rw [fresh] at ready
      cases ready
    · rw [kept] at ready
      rcases (inv.linked (inv.online generation ready)).phase with ⟨now, -⟩ | ⟨now, -⟩ <;>
        (rw [now] at apart; exact absurd rfl apart)
  · rcases markStopped_cases world.state world.gui.generation with fresh | ⟨kept, apart⟩
    · rw [fresh]
      rfl
    · rw [kept]
      cases connected : world.connected with
      | false => exact inv.cut connected
      | true =>
          rcases (inv.linked connected).phase with ⟨now, -⟩ | ⟨now, -⟩ <;>
            (rw [now] at apart; exact absurd rfl apart)

theorem Linked.markDisconnected (linked : Linked world) :
    (world.state.markDisconnected (some world.gui.generation)).1 =
      { world.state with
        phase := .stopping world.gui.generation
        sender := none
        processId := none
        idleExitRequest := none } := by
  have own : phaseGeneration world.state.phase = some world.gui.generation := by
    rcases linked.phase with ⟨now, -⟩ | ⟨now, -⟩ <;> (rw [now]; rfl)
  simp [ProcessState.markDisconnected, own]

theorem ExitInv.lose (inv : ExitInv world) (connected : world.connected = true) (kept : Nat) :
    ExitInv { world with
      state := (world.state.markDisconnected (some world.gui.generation)).1
      connected := false
      toUi := []
      toAgent := world.toAgent.take kept } := by
  rw [(inv.linked connected).markDisconnected]
  exact inv.ends (fun _ silent => idleEvents_take kept silent) nofun nofun rfl

theorem ExitInv.initial : ExitInv Dialogue.initial := by
  refine ⟨Nat.zero_lt_one, fun _ _ => rfl, ?_, ?_, fun _ => rfl, nofun, ?_⟩
  · intro generation starting
    cases starting
  · intro connected
    cases connected
  · intro quit
    cases quit

theorem ExitInv.serve (inv : ExitInv world) {action : DialogueStep}
    (served : world.serve action = some next) : ExitInv next := by
  have aside (serving : Option Serving) : ExitInv { world with serving := serving } :=
    inv.aside rfl rfl rfl rfl rfl rfl rfl rfl rfl rfl
  cases action with
  | readSnapshot main =>
      unfold Dialogue.serve at served
      dsimp only at served
      split at served
      · cases served
        exact aside _
      · cases served
  | queueSnapshot =>
      unfold Dialogue.serve at served
      dsimp only at served
      split at served
      · cases served
        exact (aside _).post rfl nofun
      · cases served
  | answer success message output =>
      unfold Dialogue.serve at served
      dsimp only at served
      split at served
      · simp only [Option.ite_none_left_eq_some, Option.some.injEq] at served
        obtain ⟨-, rfl⟩ := served
        exact (aside _).post rfl nofun
      · cases served
        exact (aside _).post rfl nofun
      · cases served
  | _ => cases served

theorem ExitInv.sendPatch (inv : ExitInv world) (patch : MainUiPatch) :
    ExitInv (world.sendPatch patch) := by
  have aside : ExitInv { world with held := world.held.erase patch } :=
    inv.aside rfl rfl rfl rfl rfl rfl rfl rfl rfl rfl
  exact aside.post rfl nofun

theorem ExitInv.receive (inv : ExitInv world) {message : UiToAgent} {rest : List UiToAgent}
    (queue : world.toAgent = message :: rest) :
    ExitInv (Dialogue.receive { world with toAgent := rest } message) := by
  cases message with
  | request requestId operation => exact inv.skip queue (fun _ => rfl)
  | requestIdleExit requestId generation => exact inv.approve queue
  | cancelIdleExit requestId generation => exact inv.cancel queue
  | lookupDismissed displaySessionId => exact inv.skip queue (fun _ => rfl)
  | uiBlockingChanged blocked => exact inv.skip queue (fun _ => rfl)
  | exiting generation => exact inv.skip queue (fun _ => rfl)

theorem ExitInv.step (inv : ExitInv world) {action : DialogueStep}
    (stepped : world.step action = some next) : ExitInv next := by
  unfold Dialogue.step at stepped
  cases action with
  | launch =>
      simp only [Option.ite_none_right_eq_some, Option.some.injEq] at stepped
      obtain ⟨stopped, rfl⟩ := stepped
      exact inv.launch stopped
  | readStart main =>
      dsimp only at stepped
      split at stepped
      · rename_i generation starting greeted
        cases stepped
        exact inv.readStart starting greeted main
      · cases stepped
  | applyStart done =>
      dsimp only at stepped
      split at stepped
      · rename_i generation snapshot starting handshake
        cases stepped
        exact inv.applyStart starting handshake
      · cases stepped
  | ready processId =>
      dsimp only at stepped
      split at stepped
      · rename_i handshake became
        cases stepped
        exact inv.ready handshake became
      · cases stepped
  | lose kept =>
      simp only [Option.ite_none_right_eq_some, Option.some.injEq] at stepped
      obtain ⟨connected, rfl⟩ := stepped
      exact inv.lose connected kept
  | stopped =>
      cases stepped
      exact inv.stopped
  | send message =>
      simp only [Option.ite_none_right_eq_some, Option.some.injEq] at stepped
      obtain ⟨command, rfl⟩ := stepped
      apply inv.post
      · cases message with
        | idleExitApproved requestId generation => cases command
        | _ => rfl
      · rintro rfl
        cases command
  | createPatch content =>
      cases stepped
      exact inv.aside rfl rfl rfl rfl rfl rfl rfl rfl rfl rfl
  | sendPatch patch =>
      simp only [Option.ite_none_right_eq_some, Option.some.injEq] at stepped
      obtain ⟨-, rfl⟩ := stepped
      exact inv.sendPatch patch
  | readMessage =>
      dsimp only at stepped
      split at stepped
      · rename_i message rest free queue
        cases stepped
        exact inv.receive queue
      · cases stepped
  | readSnapshot main => exact inv.serve stepped
  | queueSnapshot => exact inv.serve stepped
  | answer success message output => exact inv.serve stepped
  | apply done =>
      simp only [Bool.and_eq_true, Bool.not_eq_true', Option.ite_none_right_eq_some] at stepped
      obtain ⟨⟨connected, running⟩, applied⟩ := stepped
      exact inv.applyNext connected running applied
  | event event =>
      simp only [Bool.and_eq_true, Bool.not_eq_true', Option.ite_none_right_eq_some,
        Option.some.injEq] at stepped
      obtain ⟨⟨connected, running⟩, rfl⟩ := stepped
      exact inv.moveGui connected running (UiSession.emits_anyEvent world.gui event)
        (UiSession.undisturbed_onEvent world.gui event)

/-- The stale approval at the head of the queue: only the number of the frame is noted. -/
theorem applies_stale {requestId : DrawnId} {generation : Nat} {rest : List AgentToUi}
    {done : Bool} (linked : Linked world)
    (queue : world.toUi = .idleExitApproved requestId generation :: rest)
    (stale : generation ≠ world.gui.generation ∨ world.gui.exit.requestId ≠ some requestId)
    (applied : world.applyNext done = some next) :
    next.state = world.state ∧
      next.gui = (world.gui.withSequence (world.delivered + 3)).evaluateExit.1 := by
  have late : ¬ world.delivered + 3 ≤ world.gui.cache.lastSequence := by
    rw [linked.sequence]
    omega
  have handled : (world.gui.withSequence (world.delivered + 3)).handle
      (.idleExitApproved requestId generation) done =
      (world.gui.withSequence (world.delivered + 3), []) :=
    UiSession.applyExitApproval_stale stale
  unfold Dialogue.applyNext at applied
  rw [queue] at applied
  cases applied
  refine ⟨rfl, ?_⟩
  rw [Dialogue.moveGui_gui, UiSession.apply, if_neg late, UiSession.andThen_fst, handled]

/-- In every run, when a process has quit on an approval, it had applied every message that
was queued for it; stale approvals and cancellations do nothing on either side. -/
theorem idle_exit_loses_nothing {actions : List DialogueStep} {last : Dialogue}
    (ran : run Dialogue.step Dialogue.initial actions = some last) :
    (last.gui.quit = true →
      last.sent = last.applied.filter (fun message => !isApproval message)) ∧
    (∀ requestId generation rest done after,
      last.toUi = .idleExitApproved requestId generation :: rest →
      generation ≠ last.gui.generation ∨ last.gui.exit.requestId ≠ some requestId →
      last.step (.apply done) = some after → after.state = last.state ∧
        after.gui = (last.gui.withSequence (last.delivered + 3)).evaluateExit.1) ∧
    (∀ requestId generation,
      last.state.phase ≠ .stopping generation ∨ last.state.idleExitRequest ≠ some requestId →
      last.state.cancelIdleExit false requestId generation = last.state) ∧
    (∀ requestId generation, last.state.phase ≠ .ready generation →
      last.approve requestId generation = last) := by
  have inv : ExitInv last := run_keeps (fun _ _ _ here stepped => ExitInv.step here stepped)
    .initial ran
  refine ⟨fun quit => (inv.quit quit).1, ?_, ?_, ?_⟩
  · intro requestId generation rest done after queue stale stepped
    simp only [Dialogue.step, Bool.and_eq_true, Bool.not_eq_true',
      Option.ite_none_right_eq_some] at stepped
    exact applies_stale (inv.linked stepped.1.1) queue stale stepped.2
  · intro requestId generation stale
    rw [ProcessState.cancelIdleExit, if_neg]
    rintro ⟨stopping, held, -⟩
    rcases stale with other | other
    · exact other stopping
    · exact other held
  · intro requestId generation apart
    simp [Dialogue.approve, ProcessState.approveIdleExit, apart]

/-- A window is opened and closed, and the process asks to leave. -/
def leavingRun (main : MainUiSnapshot) : List DialogueStep :=
  [.launch, .readStart main, .applyStart true, .ready 100, .send .openMainWindow, .apply true,
    .event (.closeMain true), .readMessage, .send .openMainWindow, .apply true]

def emptyMain : MainUiSnapshot where
  revision := 0
  history := []
  favorites := []
  devices := []
  tokenhubModel := ""
  tokenhubConfigured := false
  proxyKind := 0
  proxyAddress := ""
  providerProxyEnabled := false
  updateProxyEnabled := false
  serverUrl := ""
  username := ""
  currentDevice := ""
  syncStatus := ""
  updateStatus := ""
  preferences := ⟨30, false, "", false⟩

/-- The window that the Agent opens meanwhile is not queued, and what was queued was
applied. -/
theorem idle_exit_loses_nothing_leaving :
    ∃ last, run Dialogue.step Dialogue.initial (leavingRun emptyMain) = some last ∧
      last.gui.quit = true ∧ last.sent = [.openMainWindow] ∧
      last.sent = last.applied.filter (fun message => !isApproval message) := by
  have facts : (run Dialogue.step Dialogue.initial (leavingRun emptyMain)).any (fun last =>
      decide (last.gui.quit = true ∧ last.sent = [.openMainWindow])) = true := by
    decide
  obtain ⟨last, ran, holds⟩ := (Option.any_eq_true _ _).mp facts
  obtain ⟨quit, sent⟩ := of_decide_eq_true holds
  exact ⟨last, ran, quit, sent, (idle_exit_loses_nothing ran).1 quit⟩

end Steps

end Lvos.System.Ui
