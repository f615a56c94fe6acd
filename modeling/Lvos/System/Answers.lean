import Lvos.System.Queues

set_option autoImplicit false

namespace Lvos.System.Ui

open Lvos.Ipc Lvos.Agent Lvos.Desktop
open Relational (Table)
open Transition (run Meets run_keeps_of_meets)

def whileUnasked : UiSession.SubmitRule := fun asked _ => asked = none

/-- A request is submitted only while no idle exit is asked for. -/
def submitsFree (world : Dialogue) : DialogueStep → Bool
  | .event (.submit _ _) => world.gui.exit.requestId.isNone
  | .apply _ =>
      match world.toUi with
      | message :: _ => !world.gui.asksSnapshot message || world.gui.exit.requestId.isNone
      | [] => true
  | _ => true

/-- An element that is not of the second part lies in the first. -/
theorem split_of_not_mem {α : Type} {before after old new : List α} {found : α}
    (same : before ++ found :: after = old ++ new) (absent : found ∉ new) :
    ∃ between, old = before ++ found :: between ∧ after = between ++ new := by
  rcases List.append_eq_append_iff.mp same with ⟨middle, whole, rest⟩ | ⟨middle, -, rest⟩
  · cases middle with
    | nil =>
        rw [List.nil_append] at rest
        rw [← rest] at absent
        exact absurd (List.mem_cons_self ..) absent
    | cons first between =>
        cases rest
        exact ⟨between, whole, rfl⟩
  · rw [rest] at absent
    exact absurd (List.mem_append_right _ (List.mem_cons_self ..)) absent

/-- After a request of this connection nothing about its idle exit follows. -/
def Clears (generation : Nat) (requested : List DrawnId) (first later : UiToAgent) : Prop :=
  ∀ requestId ∈ requestIds [first], requestId ∈ requested → idleEvent generation later = none

/-- A snapshot of this connection's recovery is on its way. -/
def Recovers (world : Dialogue) : Prop :=
  (∃ requestId ∈ world.requested, .request requestId .requestSnapshot ∈ world.toAgent ∨
    world.serving = some (.running requestId .requestSnapshot) ∨
    ∃ snapshot, world.serving = some (.snapshotRead requestId snapshot)) ∨
  ∃ snapshot, .snapshot snapshot ∈ world.toUi

/-- The requests of a connection: they are answered in their order, after those that an
earlier connection left behind. -/
structure Answering (world : Dialogue) : Prop where
  ordered : ∃ old, flow world = old ++ world.requested ∧ ∀ requestId ∈ old,
    requestId ∉ world.requested
  once : world.requested.Nodup
  pending : ∀ requestId, requestId ∈ pendingIds world.gui ↔
    requestId ∈ world.requested ∧ requestId ∉ results world.applied
  calm : world.gui.pending.rows ≠ [] → world.gui.exit.requestId = none
  clear : world.toAgent.Pairwise (Clears world.gui.generation world.requested)
  busy : ∀ requestId ∈ inService world.serving, requestId ∈ world.requested →
    idleEvents world.gui.generation world.toAgent = []

section Connection

variable {world : Dialogue} {next : UiSession} {output : List UiToAgent}

/-- A request that the Agent has not answered is pending. -/
theorem Answering.unanswered (answering : Answering world) {requestId : DrawnId}
    (member : requestId ∈ inService world.serving ++ requestIds world.toAgent)
    (own : requestId ∈ world.requested) : requestId ∈ pendingIds world.gui := by
  obtain ⟨old, whole, apart⟩ := answering.ordered
  have counted : (flow world).count requestId = 1 := by
    rw [whole, List.count_append, List.count_eq_zero_of_not_mem (fun among => apart _ among own),
      List.count_eq_one_of_mem answering.once own]
  have positive := List.count_pos_iff.mpr member
  rw [flow, List.count_append, results_append, List.count_append] at counted
  refine (answering.pending requestId).mpr ⟨own, fun among => ?_⟩
  have other := List.count_pos_iff.mpr among
  omega

/-- While the Agent has a request of this connection, no idle exit is asked for. -/
theorem Answering.free (answering : Answering world) {requestId : DrawnId}
    (member : requestId ∈ inService world.serving ++ requestIds world.toAgent)
    (own : requestId ∈ world.requested) : world.gui.exit.requestId = none :=
  answering.calm (rows_of_pendingIds (answering.unanswered member own))

theorem idleEvent_of_silent {generation : Nat} {message : UiToAgent}
    (silent : idleEvents generation output = []) (member : message ∈ output) :
    idleEvent generation message = none :=
  List.filterMap_eq_nil_iff.mp silent message member

/-- The GUI says something that is no request. About the idle exit it speaks only while the
Agent has no request of this connection. -/
theorem Answering.said (answering : Answering world) (unasked : requestIds output = [])
    (silent : idleEvents world.gui.generation output = [] ∨
      ∀ requestId ∈ inService world.serving ++ requestIds world.toAgent,
        requestId ∉ world.requested)
    (generation : next.generation = world.gui.generation)
    (pending : next.pending = world.gui.pending)
    (calm : next.pending.rows ≠ [] → next.exit.requestId = none) :
    Answering (world.moveGui (next, output)) := by
  have same : (world.moveGui (next, output)).requested = world.requested := by
    simp [unasked]
  refine ⟨?_, ?_, ?_, calm, ?_, ?_⟩
  · rw [flow_moveGui, same, unasked, List.append_nil]
    exact answering.ordered
  · rw [same]
    exact answering.once
  · intro requestId
    rw [same, pendingIds, Dialogue.moveGui_gui, pending]
    exact answering.pending requestId
  · rw [same, Dialogue.moveGui_gui, Dialogue.moveGui_toAgent, generation, List.pairwise_append]
    refine ⟨answering.clear, ?_, ?_⟩
    · apply List.pairwise_of_forall_mem_list
      intro first member later _ requestId asked
      obtain ⟨operation, among⟩ := mem_requestIds.mp asked
      cases List.mem_singleton.mp among
      have found := mem_requestIds.mpr ⟨operation, member⟩
      rw [unasked] at found
      cases found
    · intro first member later said requestId asked own
      rcases silent with none | foreign
      · exact idleEvent_of_silent none said
      · obtain ⟨operation, among⟩ := mem_requestIds.mp asked
        cases List.mem_singleton.mp among
        exact absurd own (foreign requestId
          (List.mem_append_right _ (mem_requestIds.mpr ⟨operation, member⟩)))
  · intro requestId member own
    rw [same] at own
    have before := answering.busy requestId member own
    rw [Dialogue.moveGui_gui, Dialogue.moveGui_toAgent, generation, idleEvents_append, before]
    rcases silent with none | foreign
    · exact none
    · exact absurd own (foreign requestId (List.mem_append_left _ member))

theorem Answering.submits (answering : Answering world) (undrawn : Undrawn world)
    (operation : UiOperation) (blocksUi : Bool) (free : world.gui.exit.requestId = none) :
    Answering (world.moveGui ({ world.gui with
      pending := world.gui.pending.put world.gui.drawn ⟨operation, blocksUi⟩
      drawn := world.gui.drawn + 1 }, [.request world.gui.drawn operation])) := by
  have new : world.gui.drawn ∉ known world := fun member => Nat.lt_irrefl _ (undrawn _ member)
  rw [mem_known, not_or, not_or] at new
  have unanswered : world.gui.drawn ∉ results world.applied := by
    intro member
    apply new.1
    rw [flow, results_append]
    exact List.mem_append_left _ (List.mem_append_left _ member)
  obtain ⟨old, whole, apart⟩ := answering.ordered
  have earlier : ∀ requestId ∈ requestIds world.toAgent,
      requestId ∈ world.requested ++ [world.gui.drawn] → requestId ∈ world.requested := by
    intro requestId member own
    rcases List.mem_append.mp own with before | now
    · exact before
    · cases List.mem_singleton.mp now
      exact absurd (List.mem_append_right _ (List.mem_append_right _ member)) new.1
  refine ⟨⟨old, ?_, ?_⟩, ?_, ?_, fun _ => free, ?_, ?_⟩
  · rw [flow_moveGui, whole, List.append_assoc]
    rfl
  · intro requestId member own
    rcases List.mem_append.mp own with before | now
    · exact apart requestId member before
    · cases List.mem_singleton.mp now
      apply new.1
      rw [whole]
      exact List.mem_append_left _ member
  · exact List.nodup_append.mpr ⟨answering.once, List.nodup_singleton _,
      fun requestId member other now same => new.2.1 (by
        cases List.mem_singleton.mp now
        rwa [same] at member)⟩
  · intro requestId
    change requestId ∈ (world.gui.pending.put world.gui.drawn _).rows.map Prod.fst ↔
      requestId ∈ world.requested ++ [world.gui.drawn] ∧ requestId ∉ results world.applied
    rw [pendingIds_submitted, answering.pending, List.mem_append, List.mem_singleton]
    constructor
    · rintro (now | ⟨own, open_⟩)
      · rw [now]
        exact ⟨.inr rfl, unanswered⟩
      · exact ⟨.inl own, open_⟩
    · rintro ⟨own | now, open_⟩
      · exact .inr ⟨own, open_⟩
      · exact .inl now
  · change (world.toAgent ++ [UiToAgent.request world.gui.drawn operation]).Pairwise
      (Clears world.gui.generation (world.requested ++ [world.gui.drawn]))
    rw [List.pairwise_append]
    refine ⟨?_, List.pairwise_singleton _ _, ?_⟩
    · refine answering.clear.imp_of_mem ?_
      intro first later member _ clears requestId asked own
      apply clears requestId asked
      obtain ⟨other, among⟩ := mem_requestIds.mp asked
      cases List.mem_singleton.mp among
      exact earlier requestId (mem_requestIds.mpr ⟨other, member⟩) own
    · intro first _ later said requestId _ _
      rw [List.mem_singleton.mp said]
      rfl
  · intro requestId member own
    have before : requestId ∈ world.requested := by
      rcases List.mem_append.mp own with before | now
      · exact before
      · cases List.mem_singleton.mp now
        exact absurd (List.mem_append_right _ (List.mem_append_left _ member)) new.1
    change idleEvents world.gui.generation (world.toAgent ++ [_]) = []
    rw [idleEvents_append, answering.busy requestId member before]
    rfl

theorem Answering.emit (answering : Answering world) (undrawn : Undrawn world)
    (effect : world.gui.Emit whileUnasked next output) : Answering (world.moveGui (next, output)) := by
  cases effect with
  | quiet request pending drawn generation notices =>
      apply answering.said (requestIds_notices notices) (.inl (idleEvents_notices notices))
        generation pending
      rw [pending, request]
      exact answering.calm
  | asks idle free =>
      refine answering.said rfl (.inr ?_) rfl rfl (fun some => absurd idle some)
      intro requestId member own
      exact rows_of_pendingIds (answering.unanswered member own) idle
  | withdraws asked held =>
      refine answering.said rfl (.inr ?_) rfl rfl (fun _ => rfl)
      intro requestId member own
      rw [answering.free member own] at held
      cases held
  | submits operation blocksUi free =>
      exact answering.submits undrawn operation blocksUi free

theorem Answering.emits {gui : UiSession} (moved : UiSession.Emits whileUnasked gui next output) :
    ∀ {world : Dialogue}, world.gui = gui → Answering world → Undrawn world →
      Answering (world.moveGui (next, output)) := by
  induction moved with
  | refl session =>
      rintro world rfl answering undrawn
      rw [moveGui_still]
      exact answering
  | step effect later ih =>
      rintro world rfl answering undrawn
      have once := ih rfl (answering.emit undrawn effect) (undrawn.emit effect)
      rwa [moveGui_moveGui] at once

end Connection

/-- A connection that is up answers, and a GUI that waits for a snapshot will have one. -/
def AnswerInv (world : Dialogue) : Prop :=
  world.connected = true →
    Answering world ∧ (world.gui.cache.resyncPending = true → Recovers world)

section Steps

variable {world next : Dialogue}

theorem Recovers.mono (recovers : Recovers world)
    (requested : ∀ requestId ∈ world.requested, requestId ∈ next.requested)
    (toAgent : ∀ message ∈ world.toAgent, message ∈ next.toAgent)
    (serving : next.serving = world.serving)
    (toUi : ∀ snapshot, .snapshot snapshot ∈ world.toUi → .snapshot snapshot ∈ next.toUi) :
    Recovers next := by
  rcases recovers with ⟨requestId, own, asked⟩ | ⟨snapshot, member⟩
  · refine .inl ⟨requestId, requested requestId own, ?_⟩
    rw [serving]
    exact asked.imp_left (toAgent _)
  · exact .inr ⟨snapshot, toUi snapshot member⟩

/-- A step that touches none of the queues and nothing of the GUI. -/
theorem AnswerInv.aside (inv : AnswerInv world) (gui : next.gui = world.gui)
    (toUi : next.toUi = world.toUi) (toAgent : next.toAgent = world.toAgent)
    (serving : next.serving = world.serving) (applied : next.applied = world.applied)
    (requested : next.requested = world.requested)
    (connected : next.connected = true → world.connected = true) : AnswerInv next := by
  intro link
  have same : flow next = flow world := by
    rw [flow, applied, toUi, serving, toAgent]
    rfl
  obtain ⟨answering, recovers⟩ := inv (connected link)
  refine ⟨⟨?_, ?_, ?_, ?_, ?_, ?_⟩, ?_⟩
  · rw [same, requested]
    exact answering.ordered
  · rw [requested]
    exact answering.once
  · rw [gui, requested, applied]
    exact answering.pending
  · rw [gui]
    exact answering.calm
  · rw [gui, requested, toAgent]
    exact answering.clear
  · rw [gui, requested, toAgent, serving]
    exact answering.busy
  · intro waits
    rw [gui] at waits
    apply (recovers waits).mono
    · rw [requested]
      exact fun _ member => member
    · rw [toAgent]
      exact fun _ member => member
    · exact serving
    · rw [toUi]
      exact fun _ member => member

theorem Answering.post (answering : Answering world) {message : AgentToUi}
    (plain : results [message] = []) : Answering (world.post message) := by
  have ordered := answering.ordered
  rw [← flow_post_plain plain] at ordered
  unfold Dialogue.post at ordered ⊢
  split at ordered
  · rename_i reached
    rw [if_pos reached]
    exact ⟨ordered, answering.once, answering.pending, answering.calm, answering.clear,
      answering.busy⟩
  · rename_i apart
    rw [if_neg apart]
    exact answering

/-- The Agent queues something that answers no request. -/
theorem AnswerInv.post (inv : AnswerInv world) {message : AgentToUi}
    (plain : results [message] = []) : AnswerInv (world.post message) := by
  obtain ⟨gui, requested, serving, toAgent, -, connected⟩ := post_keeps world message
  intro link
  rw [connected] at link
  obtain ⟨answering, recovers⟩ := inv link
  refine ⟨answering.post plain, ?_⟩
  intro waits
  rw [gui] at waits
  apply (recovers waits).mono
  · rw [requested]
    exact fun _ member => member
  · rw [toAgent]
    exact fun _ member => member
  · exact serving
  · exact fun snapshot member => mem_toUi_post.mpr (.inl member)

/-- While a request of this connection is in service, the phase is ready. -/
theorem Answering.reaches (answering : Answering world) (exit : ExitInv world)
    (connected : world.connected = true) {requestId : DrawnId}
    (member : requestId ∈ inService world.serving) (own : requestId ∈ world.requested) :
    world.reaches = true := by
  have linked := exit.linked connected
  have settles := linked.coupled.settles
  rw [answering.busy requestId member own,
    answering.free (List.mem_append_left _ member) own] at settles
  rcases linked.phase with ⟨ready, -⟩ | ⟨-, held⟩
  · exact (reaches_iff exit).mpr ⟨connected, ready⟩
  · simp only [settle, Option.some.injEq] at settles
    rw [settles] at held
    cases held

/-- The Agent answers the request in service. An answer that is dropped is to a request of an
earlier connection. -/
theorem Answering.answer (answering : Answering world) {requestId : DrawnId}
    {message : AgentToUi} (serves : inService world.serving = [requestId])
    (answers : results [message] = [requestId])
    (reached : requestId ∈ world.requested → world.reaches = true) :
    Answering (Dialogue.post { world with serving := none } message) := by
  obtain ⟨old, whole, apart⟩ := answering.ordered
  have kept : ∃ old, flow (Dialogue.post { world with serving := none } message) =
      old ++ world.requested ∧ ∀ other ∈ old, other ∉ world.requested := by
    rw [flow_answer serves answers]
    split
    · exact ⟨old, whole, apart⟩
    · rename_i dropped
      have foreign : requestId ∉ world.requested := fun own => dropped (reached own)
      rw [flow, serves, List.singleton_append] at whole
      obtain ⟨between, parts, rest⟩ := split_of_not_mem whole foreign
      refine ⟨results (world.applied ++ world.toUi) ++ between, ?_, ?_⟩
      · rw [rest, List.append_assoc]
      · intro other member
        apply apart other
        rw [parts]
        rcases List.mem_append.mp member with before | after
        · exact List.mem_append_left _ before
        · exact List.mem_append_right _ (List.mem_cons_of_mem _ after)
  unfold Dialogue.post at kept ⊢
  split at kept
  · rename_i reaches
    rw [if_pos reaches]
    exact ⟨kept, answering.once, answering.pending, answering.calm, answering.clear,
      by rintro other ⟨⟩⟩
  · rename_i dropped
    rw [if_neg dropped]
    exact ⟨kept, answering.once, answering.pending, answering.calm, answering.clear,
      by rintro other ⟨⟩⟩

theorem AnswerInv.answer (inv : AnswerInv world) (exit : ExitInv world) {requestId : DrawnId}
    {result : OperationResult} {serving : Serving} (serves : world.serving = some serving)
    (named : serving.requestId = requestId) (answers : result.responseTo = requestId)
    (elsewhere : (∀ snapshot, serving ≠ .snapshotRead requestId snapshot) ∧
      serving ≠ .running requestId .requestSnapshot) :
    AnswerInv (Dialogue.post { world with serving := none } (.operationResult result)) := by
  have ids : inService world.serving = [requestId] := by
    rw [serves, ← named]
    rfl
  have answered : results [.operationResult result] = [requestId] := by
    rw [← answers]
    rfl
  obtain ⟨gui, requested, -, toAgent, -, connected⟩ :=
    post_keeps { world with serving := none } (.operationResult result)
  intro link
  rw [connected] at link
  obtain ⟨answering, recovers⟩ := inv link
  refine ⟨answering.answer ids answered ?_, ?_⟩
  · intro own
    apply answering.reaches exit link _ own
    rw [ids]
    exact List.mem_singleton_self _
  · intro waits
    rw [gui] at waits
    rcases recovers waits with
      ⟨other, own, asked | running | ⟨snapshot, read⟩⟩ | ⟨snapshot, queued⟩
    · refine .inl ⟨other, ?_, .inl ?_⟩
      · rw [requested]
        exact own
      · rw [toAgent]
        exact asked
    · rw [serves, Option.some.injEq] at running
      rw [running] at named elsewhere
      cases named
      exact absurd rfl elsewhere.2
    · rw [serves, Option.some.injEq] at read
      rw [read] at named elsewhere
      cases named
      exact absurd rfl (elsewhere.1 snapshot)
    · exact .inr ⟨snapshot, mem_toUi_post.mpr (.inl queued)⟩

/-- The request in service takes its next step. -/
theorem Answering.serves (answering : Answering world) {serving : Serving}
    (same : inService world.serving = [serving.requestId]) :
    Answering { world with serving := some serving } := by
  refine ⟨?_, answering.once, answering.pending, answering.calm, answering.clear, ?_⟩
  · obtain ⟨old, whole, apart⟩ := answering.ordered
    refine ⟨old, ?_, apart⟩
    rw [flow, same] at whole
    exact whole
  · intro other member
    apply answering.busy other
    rw [same]
    exact member

theorem AnswerInv.readSnapshot (inv : AnswerInv world) {requestId : DrawnId}
    {snapshot : UiSnapshot}
    (running : world.serving = some (.running requestId .requestSnapshot)) :
    AnswerInv { world with serving := some (.snapshotRead requestId snapshot) } := by
  intro link
  obtain ⟨answering, recovers⟩ := inv link
  refine ⟨answering.serves (by rw [running]; rfl), ?_⟩
  intro waits
  rcases recovers waits with ⟨other, own, asked | now | ⟨found, read⟩⟩ | queued
  · exact .inl ⟨other, own, .inl asked⟩
  · rw [running] at now
    cases now
    exact .inl ⟨requestId, own, .inr (.inr ⟨snapshot, rfl⟩)⟩
  · rw [running] at read
    cases read
  · exact .inr queued

/-- The snapshot of the request in service is queued. -/
theorem AnswerInv.queueSnapshot (inv : AnswerInv world) (exit : ExitInv world)
    {requestId : DrawnId} {snapshot : UiSnapshot} {queued : Bool}
    (reads : world.serving = some (.snapshotRead requestId snapshot)) :
    AnswerInv (Dialogue.post { world with serving := some (.answering requestId queued) }
      (.snapshot snapshot)) := by
  obtain ⟨gui, requested, -, toAgent, -, connected⟩ :=
    post_keeps { world with serving := some (.answering requestId queued) } (.snapshot snapshot)
  intro link
  rw [connected] at link
  obtain ⟨answering, recovers⟩ := inv link
  have moved : Answering { world with serving := some (.answering requestId queued) } :=
    answering.serves (by rw [reads]; rfl)
  refine ⟨moved.post rfl, ?_⟩
  intro waits
  rw [gui] at waits
  rcases recovers waits with ⟨other, own, asked | running | ⟨found, read⟩⟩ | ⟨found, before⟩
  · refine .inl ⟨other, ?_, .inl ?_⟩
    · rw [requested]
      exact own
    · rw [toAgent]
      exact asked
  · rw [reads] at running
    cases running
  · rw [reads] at read
    cases read
    -- The phase is ready for a request of this connection, so the snapshot is queued.
    have reached : world.reaches = true := by
      apply answering.reaches exit link _ own
      rw [reads]
      exact List.mem_singleton_self _
    exact .inr ⟨_, mem_toUi_post.mpr (.inr ⟨reached, rfl⟩)⟩
  · exact .inr ⟨found, mem_toUi_post.mpr (.inl before)⟩

theorem AnswerInv.serve (inv : AnswerInv world) (exit : ExitInv world) {action : DialogueStep}
    (served : world.serve action = some next) : AnswerInv next := by
  cases action with
  | readSnapshot main =>
      unfold Dialogue.serve at served
      dsimp only at served
      split at served
      · rename_i requestId running
        cases served
        exact inv.readSnapshot running
      · cases served
  | queueSnapshot =>
      unfold Dialogue.serve at served
      dsimp only at served
      split at served
      · rename_i requestId snapshot reads
        cases served
        exact inv.queueSnapshot exit reads
      · cases served
  | answer success message output =>
      unfold Dialogue.serve at served
      dsimp only at served
      split at served
      · rename_i requestId operation running
        simp only [Option.ite_none_left_eq_some, Option.some.injEq] at served
        obtain ⟨other, rfl⟩ := served
        refine inv.answer exit running rfl rfl ⟨nofun, ?_⟩
        rintro ⟨⟩
        exact other rfl
      · rename_i requestId queued answers
        cases served
        exact inv.answer exit answers rfl rfl ⟨nofun, nofun⟩
      · cases served
  | _ => cases served

/-- The GUI takes a frame off the queue; a request that it answers is pending no longer. -/
theorem Answering.take (answering : Answering world) {message : AgentToUi}
    {rest : List AgentToUi} (queue : world.toUi = message :: rest) (delivered : Nat)
    (origin : Option UiSnapshot) :
    Answering { world with
      toUi := rest
      delivered := delivered
      applied := world.applied ++ [message]
      origin := origin
      gui := world.gui.answered message } := by
  have same : world.applied ++ [message] ++ rest = world.applied ++ world.toUi := by
    rw [queue, List.append_assoc]
    rfl
  have exit : (world.gui.answered message).exit = world.gui.exit := by
    cases message <;> rfl
  refine ⟨?_, answering.once, ?_, ?_, ?_, ?_⟩
  · obtain ⟨old, whole, apart⟩ := answering.ordered
    refine ⟨old, ?_, apart⟩
    rw [flow] at whole
    rw [flow, same]
    exact whole
  · intro requestId
    rw [pendingIds_answered, answering.pending, results_append, List.mem_append, not_or,
      and_assoc]
  · intro some
    obtain ⟨entry, member⟩ := List.exists_mem_of_ne_nil _ some
    rw [exit]
    apply answering.calm
    have among : entry.1 ∈ pendingIds (world.gui.answered message) :=
      List.mem_map_of_mem member
    exact rows_of_pendingIds ((pendingIds_answered _ _ _).mp among).1
  · rw [answered_generation]
    exact answering.clear
  · rw [answered_generation]
    exact answering.busy

theorem AnswerInv.applyNext (inv : AnswerInv world) (exit : ExitInv world)
    (queues : QueueInv world) (connected : world.connected = true) {done : Bool}
    (free : submitsFree world (.apply done) = true)
    (applied : world.applyNext done = some next) : AnswerInv next := by
  have linked := exit.linked connected
  obtain ⟨answering, recovers⟩ := inv connected
  unfold Dialogue.applyNext at applied
  split at applied
  · cases applied
  · rename_i message rest queue
    have order : world.gui.cache.lastSequence < world.delivered + 3 := by
      rw [linked.sequence]
      omega
    have calm : world.gui.asksSnapshot message = true →
        whileUnasked world.gui.exit.requestId .requestSnapshot := by
      intro asks
      simp only [submitsFree, queue, asks, Bool.not_true, Bool.false_or,
        Option.isNone_iff_eq_none] at free
      exact free
    have emits := UiSession.emits_apply message done order calm
    have taken (origin : Option UiSnapshot) := Answering.emits emits rfl
      (answering.take queue (world.delivered + 1) origin)
      (queues.undrawn.take queue (world.delivered + 1) origin)
    rw [if_neg (Nat.not_le.mpr order)] at applied
    cases applied
    intro _
    refine ⟨taken _, ?_⟩
    intro waits
    rw [Dialogue.moveGui_gui] at waits
    rcases UiSession.apply_resync order waits with ⟨before, mixed⟩ | asks
    · apply (recovers before).mono
      · exact fun _ member => List.mem_append_left _ member
      · exact fun _ member => List.mem_append_left _ member
      · rfl
      · intro snapshot member
        rw [queue] at member
        rcases List.mem_cons.mp member with now | later
        · refine absurd (queues.queued snapshot ?_) (mixed snapshot now.symm)
          rw [queue, now]
          exact List.mem_cons_self ..
        · exact later
    · refine .inl ⟨world.gui.drawn, ?_, .inl (List.mem_append_right _ asks)⟩
      exact List.mem_append_right _ (mem_requestIds.mpr ⟨_, asks⟩)

theorem AnswerInv.event (inv : AnswerInv world) (queues : QueueInv world) {event : UiEvent}
    (free : submitsFree world (.event event) = true) :
    AnswerInv (world.moveGui (world.gui.onEvent event)) := by
  intro link
  obtain ⟨answering, recovers⟩ := inv link
  have calm : ∀ operation blocksUi, event = .submit operation blocksUi →
      whileUnasked world.gui.exit.requestId operation := by
    rintro operation blocksUi rfl
    exact Option.isNone_iff_eq_none.mp free
  refine ⟨Answering.emits (UiSession.emits_onEvent event calm) rfl answering queues.undrawn, ?_⟩
  intro waits
  rw [Dialogue.moveGui_gui, (UiSession.undisturbed_onEvent world.gui event).cache] at waits
  apply (recovers waits).mono
  · exact fun _ member => List.mem_append_left _ member
  · exact fun _ member => List.mem_append_left _ member
  · rfl
  · exact fun _ member => member

/-- The Agent takes a message off its queue that is no request. -/
theorem AnswerInv.skip (inv : AnswerInv world) {message : UiToAgent} {rest : List UiToAgent}
    (queue : world.toAgent = message :: rest) (plain : requestIds [message] = []) :
    AnswerInv { world with toAgent := rest } := by
  intro link
  obtain ⟨answering, recovers⟩ := inv link
  have ids : requestIds world.toAgent = requestIds rest := by
    rw [queue, ← List.singleton_append, requestIds_append, plain, List.nil_append]
  have clear := answering.clear
  have busy := answering.busy
  rw [queue] at clear busy
  refine ⟨⟨?_, answering.once, answering.pending, answering.calm,
    (List.pairwise_cons.mp clear).2, ?_⟩, ?_⟩
  · obtain ⟨old, whole, apart⟩ := answering.ordered
    refine ⟨old, ?_, apart⟩
    rw [flow, ids] at whole
    exact whole
  · intro requestId member own
    exact (idleEvent_of_cons (busy requestId member own)).2
  · intro waits
    rcases recovers waits with ⟨requestId, own, asked | served⟩ | queued
    · rw [queue] at asked
      rcases List.mem_cons.mp asked with now | later
      · rw [← now] at plain
        cases plain
      · exact .inl ⟨requestId, own, .inl later⟩
    · exact .inl ⟨requestId, own, .inr served⟩
    · exact .inr queued

/-- The Agent begins to serve a request. -/
theorem AnswerInv.begins (inv : AnswerInv world) {requestId : DrawnId} {operation : UiOperation}
    {rest : List UiToAgent} (idle : world.serving = none)
    (queue : world.toAgent = .request requestId operation :: rest) :
    AnswerInv { world with
      toAgent := rest
      serving := some (.running requestId operation) } := by
  intro link
  obtain ⟨answering, recovers⟩ := inv link
  have clear := answering.clear
  rw [queue, List.pairwise_cons] at clear
  refine ⟨⟨?_, answering.once, answering.pending, answering.calm, clear.2, ?_⟩, ?_⟩
  · obtain ⟨old, whole, apart⟩ := answering.ordered
    refine ⟨old, ?_, apart⟩
    rw [flow, idle, queue] at whole
    exact whole
  · intro other member own
    cases List.mem_singleton.mp member
    apply List.filterMap_eq_nil_iff.mpr
    intro later among
    exact clear.1 later among requestId (List.mem_singleton_self _) own
  · intro waits
    rcases recovers waits with ⟨other, own, asked | running | ⟨snapshot, read⟩⟩ | queued
    · rw [queue] at asked
      rcases List.mem_cons.mp asked with now | later
      · cases now
        exact .inl ⟨requestId, own, .inr (.inl rfl)⟩
      · exact .inl ⟨other, own, .inl later⟩
    · rw [idle] at running
      cases running
    · rw [idle] at read
      cases read
    · exact .inr queued

theorem AnswerInv.approve (inv : AnswerInv world) (requestId : DrawnId) (generation : Nat) :
    AnswerInv (world.approve requestId generation) := by
  unfold Dialogue.approve
  split
  · rename_i state connection approved
    intro link
    obtain ⟨answering, recovers⟩ := inv link
    refine ⟨⟨?_, answering.once, answering.pending, answering.calm, answering.clear,
      answering.busy⟩, ?_⟩
    · obtain ⟨old, whole, apart⟩ := answering.ordered
      refine ⟨old, ?_, apart⟩
      rw [← whole]
      simp [flow, results]
    · intro waits
      exact (recovers waits).mono (fun _ member => member) (fun _ member => member) rfl
        (fun _ member => List.mem_append_left _ member)
  · exact inv

theorem AnswerInv.receive (inv : AnswerInv world) {message : UiToAgent} {rest : List UiToAgent}
    (idle : world.serving = none) (queue : world.toAgent = message :: rest) :
    AnswerInv (Dialogue.receive { world with toAgent := rest } message) := by
  cases message with
  | request requestId operation => exact inv.begins idle queue
  | requestIdleExit requestId generation => exact (inv.skip queue rfl).approve _ _
  | cancelIdleExit requestId generation =>
      exact (inv.skip queue rfl).aside rfl rfl rfl rfl rfl rfl (fun link => link)
  | lookupDismissed displaySessionId => exact inv.skip queue rfl
  | uiBlockingChanged blocked => exact inv.skip queue rfl
  | exiting generation => exact inv.skip queue rfl

theorem AnswerInv.ready (queues : QueueInv world) {processId : Nat} {state : ProcessState}
    (became : world.state.becomeReady world.gui.generation processId 0 = .ok state) :
    AnswerInv { world with
      state := state
      connected := true
      delivered := 0 } := by
  obtain ⟨starting, rfl⟩ := ProcessState.becomeReady_ok became
  obtain ⟨none, empty, settled⟩ := queues.starting _ starting
  have foreign : ∀ requestId, requestId ∉ world.requested := by
    rw [none]
    exact fun _ => List.not_mem_nil
  intro _
  refine ⟨⟨⟨flow world, ?_, fun requestId _ => foreign requestId⟩, ?_, ?_, ?_, ?_, ?_⟩, ?_⟩
  · change flow world = flow world ++ world.requested
    rw [none, List.append_nil]
  · change world.requested.Nodup
    rw [none]
    exact List.nodup_nil
  · intro requestId
    change requestId ∈ pendingIds world.gui ↔ requestId ∈ world.requested ∧ _
    rw [none, pendingIds, empty]
    simp [Table.empty]
  · intro some
    exact absurd (by rw [empty]; rfl) some
  · apply List.pairwise_of_forall
    intro first later requestId _ own
    exact absurd own (foreign requestId)
  · intro requestId _ own
    exact absurd own (foreign requestId)
  · intro waits
    change world.gui.cache.resyncPending = true at waits
    rw [settled] at waits
    cases waits

theorem AnswerInv.initial : AnswerInv Dialogue.initial := nofun

theorem AnswerInv.step (inv : AnswerInv world) (exit : ExitInv world) (queues : QueueInv world)
    {action : DialogueStep} (free : submitsFree world action = true)
    (stepped : world.step action = some next) : AnswerInv next := by
  unfold Dialogue.step at stepped
  cases action with
  | launch =>
      simp only [Option.ite_none_right_eq_some, Option.some.injEq] at stepped
      obtain ⟨stopped, rfl⟩ := stepped
      intro connected
      rcases (exit.linked connected).phase with ⟨now, -⟩ | ⟨now, -⟩ <;>
        (rw [now] at stopped; cases stopped)
  | readStart main =>
      dsimp only at stepped
      split at stepped
      · cases stepped
        exact inv.aside rfl rfl rfl rfl rfl rfl (fun link => link)
      · cases stepped
  | applyStart done =>
      dsimp only at stepped
      split at stepped
      · rename_i generation snapshot starting handshake
        cases stepped
        intro connected
        obtain ⟨-, unready⟩ := exit.starting generation starting
        rw [Dialogue.moveGui_connected, unready.unconnected] at connected
        cases connected
      · cases stepped
  | ready processId =>
      dsimp only at stepped
      split at stepped
      · rename_i handshake became
        cases stepped
        exact AnswerInv.ready queues became
      · cases stepped
  | lose kept =>
      simp only [Option.ite_none_right_eq_some, Option.some.injEq] at stepped
      obtain ⟨-, rfl⟩ := stepped
      exact nofun
  | stopped =>
      cases stepped
      exact nofun
  | send message =>
      simp only [Option.ite_none_right_eq_some, Option.some.injEq] at stepped
      obtain ⟨command, rfl⟩ := stepped
      apply inv.post
      cases message with
      | operationResult result => cases command
      | _ => rfl
  | createPatch content =>
      cases stepped
      exact inv.aside rfl rfl rfl rfl rfl rfl (fun link => link)
  | sendPatch patch =>
      simp only [Option.ite_none_right_eq_some, Option.some.injEq] at stepped
      obtain ⟨-, rfl⟩ := stepped
      have aside : AnswerInv { world with held := world.held.erase patch } :=
        inv.aside rfl rfl rfl rfl rfl rfl (fun link => link)
      exact aside.post rfl
  | readMessage =>
      dsimp only at stepped
      split at stepped
      · rename_i message rest idle queue
        cases stepped
        exact inv.receive idle queue
      · cases stepped
  | readSnapshot main => exact inv.serve exit stepped
  | queueSnapshot => exact inv.serve exit stepped
  | answer success message output => exact inv.serve exit stepped
  | apply done =>
      simp only [Bool.and_eq_true, Bool.not_eq_true', Option.ite_none_right_eq_some] at stepped
      obtain ⟨⟨connected, -⟩, applied⟩ := stepped
      exact inv.applyNext exit queues connected free applied
  | event event =>
      simp only [Bool.and_eq_true, Bool.not_eq_true', Option.ite_none_right_eq_some,
        Option.some.injEq] at stepped
      obtain ⟨-, rfl⟩ := stepped
      exact inv.event queues free

end Steps

/-- In every run that submits requests only while no idle exit is asked for, a connection at
rest in the phase Ready has answered each of its requests once. -/
theorem every_request_answered_once {actions : List DialogueStep} {last : Dialogue}
    {generation : Nat}
    (free : Meets Dialogue.step (fun world action => submitsFree world action = true)
      Dialogue.initial actions)
    (ran : run Dialogue.step Dialogue.initial actions = some last)
    (ready : last.state.phase = .ready generation) (served : last.serving = none)
    (read : last.toAgent = []) (arrived : last.toUi = []) :
    (∀ requestId ∈ last.requested, (results last.applied).count requestId = 1) ∧
      last.gui.pending.rows = [] ∧ last.gui.cache.resyncPending = false := by
  have keeps : ∀ world action next, ExitInv world ∧ QueueInv world ∧ AnswerInv world →
      submitsFree world action = true → Dialogue.step world action = some next →
      ExitInv next ∧ QueueInv next ∧ AnswerInv next := by
    rintro world action next ⟨exit, queues, answers⟩ met stepped
    exact ⟨exit.step stepped, queues.step exit stepped, answers.step exit queues met stepped⟩
  obtain ⟨exit, -, answers⟩ := run_keeps_of_meets keeps actions Dialogue.initial last
    ⟨.initial, .initial, .initial⟩ free ran
  obtain ⟨answering, recovers⟩ := answers (exit.online generation ready)
  obtain ⟨old, whole, apart⟩ := answering.ordered
  have all : results last.applied = old ++ last.requested := by
    rw [← whole, flow, arrived, served, read]
    simp [inService, requestIds]
  have once : ∀ requestId ∈ last.requested, (results last.applied).count requestId = 1 := by
    intro requestId own
    rw [all, List.count_append, List.count_eq_one_of_mem answering.once own,
      List.count_eq_zero_of_not_mem (fun member => apart requestId member own)]
  refine ⟨once, ?_, ?_⟩
  · apply List.eq_nil_iff_forall_not_mem.mpr
    intro entry member
    have pending : entry.1 ∈ pendingIds last.gui := List.mem_map_of_mem member
    obtain ⟨own, unanswered⟩ := (answering.pending entry.1).mp pending
    apply unanswered
    rw [all]
    exact List.mem_append_right _ own
  · rw [← Bool.not_eq_true]
    intro waits
    rcases recovers waits with ⟨requestId, -, asked | running | ⟨snapshot, reads⟩⟩ | ⟨_, queued⟩
    · rw [read] at asked
      cases asked
    · rw [served] at running
      cases running
    · rw [served] at reads
      cases reads
    · rw [arrived] at queued
      cases queued

/-- The patch of that number, which changes nothing. -/
def patchNumber (number : Nat) : MainUiPatch where
  baseRevision := number
  revision := number + 1

/-- Two patches are queued in the wrong order while the window is open, and the snapshot that
the GUI asks for is answered. -/
def recoveringRun : List DialogueStep :=
  [.launch, .readStart emptyMain, .applyStart true, .ready 100, .send .openMainWindow, .apply true,
    .createPatch (patchNumber 0), .createPatch (patchNumber 1), .sendPatch (patchNumber 1),
    .apply true, .readMessage, .readSnapshot emptyMain, .queueSnapshot, .answer true "" .none,
    .apply true, .apply true]

theorem every_request_answered_once_recovering :
    ∃ last, run Dialogue.step Dialogue.initial recoveringRun = some last ∧
      last.requested = [0] ∧ (∀ requestId ∈ last.requested,
        (results last.applied).count requestId = 1) ∧
      last.gui.pending.rows = [] ∧ last.gui.cache.resyncPending = false := by
  have free : Meets Dialogue.step (fun world action => submitsFree world action = true)
      Dialogue.initial recoveringRun := by
    decide
  have facts : (run Dialogue.step Dialogue.initial recoveringRun).any (fun last =>
      decide (last.requested = [0] ∧ last.state.phase = .ready 1 ∧ last.serving = none ∧
        last.toAgent = [] ∧ last.toUi = [])) = true := by
    decide
  obtain ⟨last, ran, holds⟩ := (Option.any_eq_true _ _).mp facts
  obtain ⟨requested, ready, served, read, arrived⟩ := of_decide_eq_true holds
  exact ⟨last, ran, requested, every_request_answered_once free ran ready served read arrived⟩

/-- The window is closed first: the patch that does not follow is applied while the idle exit
is asked for, and the request for a snapshot reaches the Agent before its cancellation. -/
def crossedRun : List DialogueStep :=
  [.launch, .readStart emptyMain, .applyStart true, .ready 100, .send .openMainWindow, .apply true,
    .createPatch (patchNumber 0), .createPatch (patchNumber 1), .event (.closeMain true),
    .sendPatch (patchNumber 1), .apply true, .readMessage, .readMessage, .readSnapshot emptyMain,
    .queueSnapshot, .answer true "" .none, .readMessage, .apply true]

theorem request_left_unanswered :
    ∃ last, run Dialogue.step Dialogue.initial crossedRun = some last ∧
      last.state.phase = .ready 1 ∧ last.serving = none ∧ last.toAgent = [] ∧ last.toUi = [] ∧
      (∃ requestId ∈ last.requested, (results last.applied).count requestId = 0) ∧
      last.gui.pending.rows ≠ [] ∧ last.gui.cache.resyncPending = true := by
  have facts : (run Dialogue.step Dialogue.initial crossedRun).any (fun last =>
      decide (last.state.phase = .ready 1 ∧ last.serving = none ∧ last.toAgent = [] ∧
        last.toUi = [] ∧ (1 ∈ last.requested ∧ (results last.applied).count 1 = 0) ∧
        last.gui.pending.rows ≠ [] ∧ last.gui.cache.resyncPending = true)) = true := by
    decide
  obtain ⟨last, ran, holds⟩ := (Option.any_eq_true _ _).mp facts
  obtain ⟨ready, served, read, arrived, unanswered, pending, waits⟩ := of_decide_eq_true holds
  exact ⟨last, ran, ready, served, read, arrived, ⟨1, unanswered⟩, pending, waits⟩

end Lvos.System.Ui
