import Lvos.System.Queues

set_option autoImplicit false

namespace Lvos.System.Ui

open Lvos.Ipc Lvos.Agent Lvos.Desktop
open Relational (Table)

def isSnapshot : AgentToUi → Bool
  | .snapshot _ => true
  | _ => false

/-- The requests that are answered before the next snapshot. -/
def resultsFirst (messages : List AgentToUi) : List DrawnId :=
  results (messages.takeWhile (fun message => !isSnapshot message))

theorem resultsFirst_cons {message : AgentToUi} (plain : isSnapshot message = false)
    (rest : List AgentToUi) :
    resultsFirst (message :: rest) = results [message] ++ resultsFirst rest := by
  have taken : (message :: rest).takeWhile (fun message => !isSnapshot message) =
      [message] ++ rest.takeWhile (fun message => !isSnapshot message) := by
    simp [plain]
  rw [resultsFirst, taken, results_append]
  rfl

/-- A message at the end of the queue is behind every snapshot of it. -/
theorem mem_resultsFirst_append {messages : List AgentToUi} {message : AgentToUi}
    {requestId : DrawnId} (member : requestId ∈ resultsFirst (messages ++ [message])) :
    requestId ∈ resultsFirst messages ∨
      requestId ∈ results [message] ∧ ∀ snapshot, .snapshot snapshot ∉ messages := by
  induction messages with
  | nil =>
      right
      refine ⟨?_, fun _ => List.not_mem_nil⟩
      cases plain : isSnapshot message with
      | true => simp [resultsFirst, plain, results] at member
      | false =>
          rw [List.nil_append, resultsFirst_cons plain] at member
          simpa [resultsFirst, results] using member
  | cons first rest ih =>
      cases plain : isSnapshot first with
      | true => simp [resultsFirst, plain, results] at member
      | false =>
          rw [List.cons_append, resultsFirst_cons plain, List.mem_append] at member
          rw [resultsFirst_cons plain, List.mem_append]
          rcases member with now | later
          · exact .inl (.inl now)
          · rcases ih later with before | ⟨answers, none⟩
            · exact .inl (.inr before)
            · refine .inr ⟨answers, ?_⟩
              intro snapshot among
              rcases List.mem_cons.mp among with here | there
              · rw [← here] at plain
                cases plain
              · exact none snapshot there

theorem results_of_resultsFirst {messages : List AgentToUi} {requestId : DrawnId}
    (member : requestId ∈ resultsFirst messages) : requestId ∈ results messages := by
  obtain ⟨message, among, found⟩ := List.mem_filterMap.mp member
  exact List.mem_filterMap.mpr ⟨message, (List.takeWhile_sublist _).mem among, found⟩

/-- The pending request that a recovery waits for: it is not answered before a snapshot. -/
structure Awaits (world : Dialogue) (requestId : DrawnId) : Prop where
  pending : requestId ∈ pendingIds world.gui
  behind : requestId ∉ resultsFirst world.toUi
  asked : ∀ operation, .request requestId operation ∈ world.toAgent →
    operation = .requestSnapshot
  running : ∀ operation, world.serving = some (.running requestId operation) →
    operation = .requestSnapshot
  answering : ∀ queued, world.serving = some (.answering requestId queued) →
    (∃ snapshot, .snapshot snapshot ∈ world.toUi) ∨
      ∀ generation, world.state.phase ≠ .ready generation

/-- A GUI that waits for a snapshot has a request pending for it. -/
def WaitInv (world : Dialogue) : Prop :=
  world.connected = true → world.gui.cache.resyncPending = true →
    ∃ requestId, Awaits world requestId

/-! What the GUI sends keeps the pending requests and has new ids. -/

section Effects

variable {rule : UiSession.SubmitRule} {session gui : UiSession} {output : List UiToAgent}

/-- What is asked for in a row of effects. -/
structure Asks (session gui : UiSession) (output : List UiToAgent) : Prop where
  drawn : session.drawn ≤ gui.drawn
  kept : ∀ requestId ∈ pendingIds session, requestId ∈ pendingIds gui
  new : ∀ requestId ∈ requestIds output, session.drawn ≤ requestId ∧ requestId < gui.drawn ∧
    requestId ∈ pendingIds gui
  once : ∀ requestId first second, .request requestId first ∈ output →
    .request requestId second ∈ output → first = second

theorem Asks.unasked (pending : gui.pending = session.pending)
    (drawn : session.drawn ≤ gui.drawn) (silent : requestIds output = []) :
    Asks session gui output := by
  refine ⟨drawn, ?_, ?_, ?_⟩
  · intro requestId member
    rwa [pendingIds, pending]
  · rw [silent]
    rintro requestId ⟨⟩
  · intro requestId first second member
    have found := mem_requestIds.mpr ⟨first, member⟩
    rw [silent] at found
    cases found

theorem asks_of_emit (effect : session.Emit rule gui output) : Asks session gui output := by
  cases effect with
  | quiet request pending drawn generation notices =>
      exact .unasked pending (Nat.le_of_eq drawn.symm) (requestIds_notices notices)
  | asks idle free => exact .unasked rfl (Nat.le_succ _) rfl
  | withdraws asked held => exact .unasked rfl (Nat.le_refl _) rfl
  | submits operation blocksUi free =>
      have keys (requestId : DrawnId) := pendingIds_submitted session ⟨operation, blocksUi⟩
        requestId
      refine ⟨Nat.le_succ _, ?_, ?_, ?_⟩
      · intro requestId member
        exact (keys requestId).mpr (.inr member)
      · intro requestId member
        cases List.mem_singleton.mp member
        exact ⟨Nat.le_refl _, Nat.lt_succ_self _, (keys session.drawn).mpr (.inl rfl)⟩
      · intro requestId first second one other
        cases List.mem_singleton.mp one
        cases List.mem_singleton.mp other
        rfl

theorem asks_of_emits (moved : UiSession.Emits rule session gui output) :
    Asks session gui output := by
  induction moved with
  | refl session => exact .unasked rfl (Nat.le_refl _) rfl
  | step effect later ih =>
      have first := asks_of_emit effect
      refine ⟨Nat.le_trans first.drawn ih.drawn, fun _ member => ih.kept _ (first.kept _ member),
        ?_, ?_⟩
      · intro requestId member
        rw [requestIds_append, List.mem_append] at member
        rcases member with now | after
        · obtain ⟨low, high, pending⟩ := first.new requestId now
          exact ⟨low, Nat.lt_of_lt_of_le high ih.drawn, ih.kept requestId pending⟩
        · obtain ⟨low, high, pending⟩ := ih.new requestId after
          exact ⟨Nat.le_trans first.drawn low, high, pending⟩
      · intro requestId one two here there
        -- An id of the first effect is below those of the later ones.
        have apart (earlier : requestId ∈ requestIds _) (after : requestId ∈ requestIds _) :
            False :=
          Nat.lt_irrefl _ (Nat.lt_of_lt_of_le (first.new requestId earlier).2.1
            (ih.new requestId after).1)
        rcases List.mem_append.mp here with before | after
        · rcases List.mem_append.mp there with again | later
          · exact first.once requestId one two before again
          · exact (apart (mem_requestIds.mpr ⟨_, before⟩) (mem_requestIds.mpr ⟨_, later⟩)).elim
        · rcases List.mem_append.mp there with again | later
          · exact (apart (mem_requestIds.mpr ⟨_, again⟩) (mem_requestIds.mpr ⟨_, after⟩)).elim
          · exact ih.once requestId one two after later

end Effects

section Steps

variable {world next : Dialogue} {requestId : DrawnId}

theorem Awaits.below (awaits : Awaits world requestId) (undrawn : Undrawn world) :
    requestId < world.gui.drawn :=
  undrawn requestId (mem_known.mpr (.inr (.inr awaits.pending)))

/-- The GUI moves on, and the Agent has its word. -/
theorem Awaits.moveGui {gui : UiSession} {output : List UiToAgent}
    (awaits : Awaits world requestId) (below : requestId < world.gui.drawn)
    (asks : Asks world.gui gui output) : Awaits (world.moveGui (gui, output)) requestId := by
  refine ⟨asks.kept requestId awaits.pending, awaits.behind, ?_, awaits.running,
    awaits.answering⟩
  intro operation member
  rcases List.mem_append.mp member with before | now
  · exact awaits.asked operation before
  · have new := (asks.new requestId (mem_requestIds.mpr ⟨operation, now⟩)).1
    exact absurd below (Nat.not_lt.mpr new)

/-- The message at the head of the queue is applied, and it is no snapshot. -/
theorem Awaits.take {message : AgentToUi} {rest : List AgentToUi}
    (awaits : Awaits world requestId) (queue : world.toUi = message :: rest)
    (plain : isSnapshot message = false) (delivered : Nat) (origin : Option UiSnapshot) :
    Awaits { world with
      toUi := rest
      delivered := delivered
      applied := world.applied ++ [message]
      origin := origin
      gui := world.gui.answered message } requestId := by
  have behind := awaits.behind
  rw [queue, resultsFirst_cons plain, List.mem_append, not_or] at behind
  refine ⟨(pendingIds_answered _ _ _).mpr ⟨awaits.pending, behind.1⟩, behind.2, awaits.asked,
    awaits.running, ?_⟩
  intro queued serves
  refine (awaits.answering queued serves).imp_left ?_
  rintro ⟨snapshot, member⟩
  rw [queue] at member
  rcases List.mem_cons.mp member with here | there
  · rw [← here] at plain
    cases plain
  · exact ⟨snapshot, there⟩

theorem Awaits.post (awaits : Awaits world requestId) {message : AgentToUi}
    (behind : requestId ∈ results [message] → world.reaches = true →
      ∃ snapshot, .snapshot snapshot ∈ world.toUi) :
    Awaits (world.post message) requestId := by
  obtain ⟨gui, -, serving, toAgent, state, -⟩ := post_keeps world message
  refine ⟨by rw [gui]; exact awaits.pending, ?_, by rw [toAgent]; exact awaits.asked,
    by rw [serving]; exact awaits.running, ?_⟩
  · unfold Dialogue.post
    split
    · rename_i reached
      intro member
      rcases mem_resultsFirst_append member with before | ⟨answers, none⟩
      · exact awaits.behind before
      · obtain ⟨snapshot, queued⟩ := behind answers reached
        exact none snapshot queued
    · exact awaits.behind
  · rw [serving, state]
    intro queued serves
    refine (awaits.answering queued serves).imp_left ?_
    rintro ⟨snapshot, member⟩
    exact ⟨snapshot, mem_toUi_post.mpr (.inl member)⟩

theorem WaitInv.aside (inv : WaitInv world) (gui : next.gui = world.gui)
    (toUi : next.toUi = world.toUi) (toAgent : next.toAgent = world.toAgent)
    (serving : next.serving = world.serving) (state : next.state = world.state)
    (connected : next.connected = world.connected) : WaitInv next := by
  intro link waits
  rw [connected] at link
  rw [gui] at waits
  obtain ⟨requestId, awaits⟩ := inv link waits
  exact ⟨requestId, by rw [gui]; exact awaits.pending, by rw [toUi]; exact awaits.behind,
    by rw [toAgent]; exact awaits.asked, by rw [serving]; exact awaits.running,
    by rw [serving, toUi, state]; exact awaits.answering⟩

theorem WaitInv.post (inv : WaitInv world) {message : AgentToUi}
    (plain : results [message] = []) : WaitInv (world.post message) := by
  obtain ⟨gui, -, -, -, -, connected⟩ := post_keeps world message
  intro link waits
  rw [connected] at link
  rw [gui] at waits
  obtain ⟨requestId, awaits⟩ := inv link waits
  refine ⟨requestId, awaits.post ?_⟩
  rw [plain]
  nofun

/-- The snapshot of the request in service is queued, or it is dropped outside Ready. -/
theorem WaitInv.queueSnapshot (inv : WaitInv world) (exit : ExitInv world) {other : DrawnId}
    {snapshot : UiSnapshot} {queued : Bool} :
    WaitInv (Dialogue.post { world with serving := some (.answering other queued) }
      (.snapshot snapshot)) := by
  obtain ⟨gui, -, serving, toAgent, state, connected⟩ :=
    post_keeps { world with serving := some (.answering other queued) } (.snapshot snapshot)
  intro link waits
  rw [connected] at link
  rw [gui] at waits
  obtain ⟨requestId, awaits⟩ := inv link waits
  refine ⟨requestId, by rw [gui]; exact awaits.pending, ?_, by rw [toAgent]; exact awaits.asked,
    ?_, ?_⟩
  · unfold Dialogue.post
    split
    · intro member
      rcases mem_resultsFirst_append member with before | ⟨answers, -⟩
      · exact awaits.behind before
      · cases answers
    · exact awaits.behind
  · rw [serving]
    rintro operation ⟨⟩
  · intro held serves
    by_cases reached : world.reaches = true
    · exact .inl ⟨snapshot, mem_toUi_post.mpr (.inr ⟨reached, rfl⟩)⟩
    · right
      rw [state]
      intro generation ready
      apply reached
      apply (reaches_iff exit).mpr
      have linked := exit.linked link
      refine ⟨link, ?_⟩
      rcases linked.phase with ⟨now, -⟩ | ⟨stopping, -⟩
      · exact now
      · change world.state.phase = .ready generation at ready
        rw [stopping] at ready
        cases ready

/-- The request in service is answered. -/
theorem WaitInv.answer (inv : WaitInv world) (exit : ExitInv world) {other : DrawnId}
    {serving : Serving} {result : OperationResult} (serves : world.serving = some serving)
    (answers : result.responseTo = other)
    (named : (∃ operation, serving = .running other operation ∧ operation ≠ .requestSnapshot) ∨
      ∃ queued, serving = .answering other queued) :
    WaitInv (Dialogue.post { world with serving := none } (.operationResult result)) := by
  obtain ⟨gui, -, -, -, -, connected⟩ :=
    post_keeps { world with serving := none } (.operationResult result)
  intro link waits
  rw [connected] at link
  rw [gui] at waits
  obtain ⟨requestId, awaits⟩ := inv link waits
  have idle : Awaits { world with serving := none } requestId :=
    ⟨awaits.pending, awaits.behind, awaits.asked, (by rintro _ ⟨⟩), (by rintro _ ⟨⟩)⟩
  refine ⟨requestId, idle.post ?_⟩
  intro member reached
  have same : requestId = other := by
    rw [← answers]
    exact List.mem_singleton.mp member
  subst same
  rcases named with ⟨operation, runs, apart⟩ | ⟨queued, held⟩
  · exact absurd (awaits.running operation (by rw [serves, runs])) apart
  · rcases awaits.answering queued (by rw [serves, held]) with found | unready
    · exact found
    · exact absurd ((reaches_iff exit).mp reached).2 (unready _)

theorem WaitInv.serve (inv : WaitInv world) (exit : ExitInv world) {action : DialogueStep}
    (served : world.serve action = some next) : WaitInv next := by
  cases action with
  | readSnapshot main =>
      unfold Dialogue.serve at served
      dsimp only at served
      split at served
      · cases served
        intro link waits
        obtain ⟨requestId, awaits⟩ := inv link waits
        exact ⟨requestId, awaits.pending, awaits.behind, awaits.asked, (by rintro _ ⟨⟩),
          (by rintro _ ⟨⟩)⟩
      · cases served
  | queueSnapshot =>
      unfold Dialogue.serve at served
      dsimp only at served
      split at served
      · cases served
        exact inv.queueSnapshot exit
      · cases served
  | answer success message output =>
      unfold Dialogue.serve at served
      dsimp only at served
      split at served
      · rename_i requestId operation running
        simp only [Option.ite_none_left_eq_some, Option.some.injEq] at served
        obtain ⟨apart, rfl⟩ := served
        exact inv.answer exit running rfl (.inl ⟨operation, rfl, apart⟩)
      · rename_i requestId queued answers
        cases served
        exact inv.answer exit answers rfl (.inr ⟨queued, rfl⟩)
      · cases served
  | _ => cases served

theorem WaitInv.applyNext (inv : WaitInv world) (exit : ExitInv world) (queues : QueueInv world)
    (connected : world.connected = true) {done : Bool}
    (applied : world.applyNext done = some next) : WaitInv next := by
  have linked := exit.linked connected
  unfold Dialogue.applyNext at applied
  split at applied
  · cases applied
  · rename_i message rest queue
    have order : world.gui.cache.lastSequence < world.delivered + 3 := by
      rw [linked.sequence]
      omega
    have asks := asks_of_emits (UiSession.emits_anyMessage message done order)
    have drawn : (world.gui.answered message).drawn = world.gui.drawn := by
      cases message <;> rfl
    rw [if_neg (Nat.not_le.mpr order)] at applied
    cases applied
    intro _ waits
    rw [Dialogue.moveGui_gui] at waits
    rcases UiSession.apply_resync order waits with ⟨before, mixed⟩ | requests
    · obtain ⟨requestId, awaits⟩ := inv connected before
      have plain : isSnapshot message = false := by
        cases message with
        | snapshot snapshot =>
            refine absurd (queues.queued snapshot ?_) (mixed snapshot rfl)
            rw [queue]
            exact List.mem_cons_self ..
        | _ => rfl
      refine ⟨requestId, (awaits.take queue plain (world.delivered + 1) _).moveGui ?_ asks⟩
      change requestId < (world.gui.answered message).drawn
      rw [drawn]
      exact awaits.below queues.undrawn
    · -- The recovery begins: its request is the newest of all.
      have unknown : world.gui.drawn ∉ known world :=
        fun member => Nat.lt_irrefl _ (queues.undrawn _ member)
      rw [mem_known, not_or, flow, results_append, List.mem_append, List.mem_append, not_or,
        not_or, not_or, List.mem_append, not_or] at unknown
      obtain ⟨⟨⟨-, notUi⟩, unserved, unasked⟩, -⟩ := unknown
      refine ⟨world.gui.drawn, ?_, ?_, ?_, ?_, ?_⟩
      · exact (asks.new _ (mem_requestIds.mpr ⟨_, requests⟩)).2.2
      · intro member
        apply notUi
        have later := results_of_resultsFirst member
        rw [queue, ← List.singleton_append, results_append]
        exact List.mem_append_right _ later
      · intro operation member
        rcases List.mem_append.mp member with early | now
        · exact absurd (mem_requestIds.mpr ⟨operation, early⟩) unasked
        · exact asks.once _ _ _ now requests
      · intro operation serves
        change world.serving = _ at serves
        rw [serves] at unserved
        exact absurd (List.mem_singleton_self _) unserved
      · intro queued serves
        change world.serving = _ at serves
        rw [serves] at unserved
        exact absurd (List.mem_singleton_self _) unserved

theorem WaitInv.event (inv : WaitInv world) (queues : QueueInv world) (event : UiEvent) :
    WaitInv (world.moveGui (world.gui.onEvent event)) := by
  intro link waits
  rw [Dialogue.moveGui_gui, (UiSession.undisturbed_onEvent world.gui event).cache] at waits
  obtain ⟨requestId, awaits⟩ := inv link waits
  refine ⟨requestId, awaits.moveGui (awaits.below queues.undrawn) ?_⟩
  exact asks_of_emits (UiSession.emits_anyEvent world.gui event)

theorem WaitInv.skip (inv : WaitInv world) {message : UiToAgent} {rest : List UiToAgent}
    (queue : world.toAgent = message :: rest) : WaitInv { world with toAgent := rest } := by
  intro link waits
  obtain ⟨requestId, awaits⟩ := inv link waits
  refine ⟨requestId, awaits.pending, awaits.behind, ?_, awaits.running, awaits.answering⟩
  intro operation member
  apply awaits.asked
  rw [queue]
  exact List.mem_cons_of_mem _ member

theorem WaitInv.receive (inv : WaitInv world) {message : UiToAgent} {rest : List UiToAgent}
    (idle : world.serving = none) (queue : world.toAgent = message :: rest) :
    WaitInv (Dialogue.receive { world with toAgent := rest } message) := by
  have skipped := inv.skip queue
  cases message with
  | request other operation =>
      intro link waits
      obtain ⟨requestId, awaits⟩ := inv link waits
      have asked := awaits.asked
      rw [queue] at asked
      refine ⟨requestId, awaits.pending, awaits.behind,
        fun found member => asked found (List.mem_cons_of_mem _ member), ?_, (by rintro _ ⟨⟩)⟩
      rintro found ⟨⟩
      exact asked operation (List.mem_cons_self ..)
  | requestIdleExit other generation =>
      unfold Dialogue.receive Dialogue.approve
      dsimp only
      split
      · rename_i state connection approved
        obtain ⟨-, -, -, rfl⟩ := ProcessState.approveIdleExit_ok approved
        intro link waits
        obtain ⟨requestId, awaits⟩ := skipped link waits
        refine ⟨requestId, awaits.pending, ?_, awaits.asked, awaits.running, ?_⟩
        · intro member
          rcases mem_resultsFirst_append member with before | ⟨answers, -⟩
          · exact awaits.behind before
          · cases answers
        · intro queued serves
          exact .inr nofun
      · exact skipped
  | cancelIdleExit other generation =>
      intro link waits
      obtain ⟨requestId, awaits⟩ := skipped link waits
      refine ⟨requestId, awaits.pending, awaits.behind, awaits.asked, awaits.running, ?_⟩
      intro queued serves
      change world.serving = _ at serves
      rw [idle] at serves
      cases serves
  | lookupDismissed displaySessionId => exact skipped
  | uiBlockingChanged blocked => exact skipped
  | exiting generation => exact skipped

theorem WaitInv.step (inv : WaitInv world) (exit : ExitInv world) (queues : QueueInv world)
    {action : DialogueStep} (stepped : world.step action = some next) : WaitInv next := by
  unfold Dialogue.step at stepped
  cases action with
  | launch =>
      simp only [Option.ite_none_right_eq_some, Option.some.injEq] at stepped
      obtain ⟨-, rfl⟩ := stepped
      rintro link ⟨⟩
  | readStart main =>
      dsimp only at stepped
      split at stepped
      · cases stepped
        exact inv.aside rfl rfl rfl rfl rfl rfl
      · cases stepped
  | applyStart done =>
      dsimp only at stepped
      split at stepped
      · rename_i generation snapshot starting handshake
        cases stepped
        intro link
        obtain ⟨-, unready⟩ := exit.starting generation starting
        rw [Dialogue.moveGui_connected, unready.unconnected] at link
        cases link
      · cases stepped
  | ready processId =>
      dsimp only at stepped
      split at stepped
      · rename_i handshake became
        cases stepped
        obtain ⟨starting, -⟩ := ProcessState.becomeReady_ok became
        intro _ waits
        change world.gui.cache.resyncPending = true at waits
        rw [(queues.starting _ starting).2.2] at waits
        cases waits
      · cases stepped
  | lose kept =>
      simp only [Option.ite_none_right_eq_some, Option.some.injEq] at stepped
      obtain ⟨-, rfl⟩ := stepped
      rintro ⟨⟩
  | stopped =>
      cases stepped
      rintro ⟨⟩
  | send message =>
      simp only [Option.ite_none_right_eq_some, Option.some.injEq] at stepped
      obtain ⟨command, rfl⟩ := stepped
      apply inv.post
      cases message with
      | operationResult result => cases command
      | _ => rfl
  | createPatch content =>
      cases stepped
      exact inv.aside rfl rfl rfl rfl rfl rfl
  | sendPatch patch =>
      simp only [Option.ite_none_right_eq_some, Option.some.injEq] at stepped
      obtain ⟨-, rfl⟩ := stepped
      have aside : WaitInv { world with held := world.held.erase patch } :=
        inv.aside rfl rfl rfl rfl rfl rfl
      exact aside.post rfl
  | readMessage =>
      dsimp only at stepped
      split at stepped
      · rename_i message rest idle queue
        cases stepped
        exact inv.receive idle queue
      · cases stepped
  | readSnapshot main => exact inv.serve exit stepped
  | queueSnapshot => exact inv.serve exit stepped
  | answer success message output => exact inv.serve exit stepped
  | apply done =>
      simp only [Bool.and_eq_true, Bool.not_eq_true', Option.ite_none_right_eq_some] at stepped
      obtain ⟨⟨connected, -⟩, applied⟩ := stepped
      exact inv.applyNext exit queues connected applied
  | event event =>
      simp only [Bool.and_eq_true, Bool.not_eq_true', Option.ite_none_right_eq_some,
        Option.some.injEq] at stepped
      obtain ⟨-, rfl⟩ := stepped
      exact inv.event queues event

theorem WaitInv.initial : WaitInv Dialogue.initial := by
  rintro ⟨⟩

end Steps

end Lvos.System.Ui
