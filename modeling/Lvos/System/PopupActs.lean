import Lvos.System.LatestQuery

set_option autoImplicit false

namespace Lvos.System.Ui

open Lvos.Core Lvos.Ipc Lvos.Agent Lvos.Desktop
open Transition (run Meets run_iff_meets)

/-- The source of the lookup that was displayed when the control of the request was pressed. -/
def displayedSource (world : Popup) (requestId : DrawnId) : Option String :=
  (world.pressed.lookup requestId).bind (fun generation => world.begun[generation - 1]?)

def PopupAct.requestId : PopupAct → DrawnId
  | .favorite requestId _ | .refresh requestId _ => requestId

/-- The key whose favorite state was changed, or the source that was looked up again, is that
of the lookup displayed. A toggle without a key changes nothing. -/
def OnDisplayed [ContentTables] (world : Popup) : PopupAct → Prop
  | .favorite requestId changed => ∀ contentKey, changed = some contentKey →
      (displayedSource world requestId).bind favoriteKey = some contentKey
  | .refresh requestId source => displayedSource world requestId = some source

/-- When a control's request is executed, the lookup begun last is of the source of the lookup
displayed at the press; for the favorite control the same content will do. -/
def latestAsDisplayed [ContentTables] (world : Popup) : PopupStep → Bool
  | .execute =>
      match world.dialogue.serving with
      | some (.running requestId (.popupFavoriteToggle _)) =>
          match world.begun.getLast?.bind favoriteKey with
          | none => true
          | some contentKey =>
              (displayedSource world requestId).bind favoriteKey = some contentKey
      | some (.running requestId (.popupRefresh _)) =>
          world.begun.getLast? = displayedSource world requestId
      | _ => true
  | _ => true

/-- The request is on its way to `execute`. -/
def Requested (dialogue : Dialogue) (requestId : DrawnId) (operation : UiOperation) : Prop :=
  .request requestId operation ∈ dialogue.toAgent ∨
    dialogue.serving = some (.running requestId operation)

section Requests

variable {dialogue later : Dialogue} {requestId : DrawnId} {operation : UiOperation}

theorem not_asked_of_emits {session next : UiSession} {output : List UiToAgent}
    {rule : UiSession.SubmitRule} (effects : UiSession.Emits rule session next output)
    (barred : ∀ held, ¬ rule held operation) : .request requestId operation ∉ output := by
  induction effects with
  | refl session => exact List.not_mem_nil
  | step effect later ih =>
      intro member
      rcases List.mem_append.mp member with now | after
      · cases effect with
        | quiet request pending drawn generation notices => cases notices _ now
        | asks idle free => cases List.mem_singleton.mp now
        | withdraws held found => cases List.mem_singleton.mp now
        | submits other blocksUi allowed =>
            cases List.mem_singleton.mp now
            exact barred _ allowed
      · exact ih after

/-- A message makes the GUI ask for nothing but a snapshot. -/
theorem not_asked_of_apply (popup : isPopupOperation operation = true) (session : UiSession)
    (sequence : Nat) (message : AgentToUi) (done : Bool) :
    .request requestId operation ∉ (session.apply sequence message done).2 := by
  by_cases stale : sequence ≤ session.cache.lastSequence
  · rw [UiSession.apply, if_pos stale]
    exact List.not_mem_nil
  · have effects : UiSession.Emits (fun _ other => other = .requestSnapshot)
        (session.answered message) (session.apply sequence message done).1
        (session.apply sequence message done).2 :=
      UiSession.emits_apply message done (Nat.not_le.mp stale) (fun _ => rfl)
    apply not_asked_of_emits effects
    rintro held rfl
    cases popup

/-- A submitted operation goes out under the next id. -/
theorem drawn_of_submit {session : UiSession} {submitted : UiOperation} {blocksUi : Bool}
    (member : .request requestId operation ∈ (session.onEvent (.submit submitted blocksUi)).2) :
    requestId = session.drawn := by
  rcases List.mem_append.mp member with now | after
  · cases List.mem_singleton.mp now
    rfl
  · have effects := @UiSession.emits_evaluateExit (fun _ _ => False)
      { session with
        pending := session.pending.put session.drawn ⟨submitted, blocksUi⟩
        drawn := session.drawn + 1 }
    exact absurd after (not_asked_of_emits effects (fun _ barred => barred))

theorem Requested.moveGui {moved : UiSession × List UiToAgent}
    (quiet : .request requestId operation ∉ moved.2)
    (asked : Requested (dialogue.moveGui moved) requestId operation) :
    Requested dialogue requestId operation := by
  refine asked.imp_left ?_
  intro member
  exact (List.mem_append.mp member).resolve_right quiet

theorem Requested.post {message : AgentToUi}
    (asked : Requested (dialogue.post message) requestId operation) :
    Requested dialogue requestId operation := by
  obtain ⟨-, -, serving, toAgent, -⟩ := post_keeps dialogue message
  rw [Requested, serving, toAgent] at asked
  exact asked

theorem Requested.serve {action : DialogueStep} (served : dialogue.serve action = some later)
    (asked : Requested later requestId operation) : Requested dialogue requestId operation := by
  have idle {serving : Option Serving} (other : serving ≠ some (.running requestId operation))
      (still : Requested { dialogue with serving := serving } requestId operation) :
      Requested dialogue requestId operation := .inl (still.resolve_right other)
  cases action with
  | readSnapshot main =>
      unfold Dialogue.serve at served
      dsimp only at served
      split at served
      · cases served
        exact idle (by rintro ⟨⟩) asked
      · cases served
  | queueSnapshot =>
      unfold Dialogue.serve at served
      dsimp only at served
      split at served
      · cases served
        exact idle (by rintro ⟨⟩) asked.post
      · cases served
  | answer success message output =>
      unfold Dialogue.serve at served
      dsimp only at served
      split at served
      · simp only [Option.ite_none_left_eq_some, Option.some.injEq] at served
        obtain ⟨-, rfl⟩ := served
        exact idle (by rintro ⟨⟩) asked.post
      · cases served
        exact idle (by rintro ⟨⟩) asked.post
      · cases served
  | _ => cases served

theorem Requested.receive {message : UiToAgent} {rest : List UiToAgent}
    (queue : dialogue.toAgent = message :: rest)
    (asked : Requested (Dialogue.receive { dialogue with toAgent := rest } message) requestId
      operation) : Requested dialogue requestId operation := by
  have kept (still : Requested { dialogue with toAgent := rest } requestId operation) :
      Requested dialogue requestId operation := by
    refine still.imp_left ?_
    rw [queue]
    exact List.mem_cons_of_mem _
  cases message with
  | request other asking =>
      rcases asked with waiting | running
      · left
        rw [queue]
        exact List.mem_cons_of_mem _ waiting
      · cases running
        left
        rw [queue]
        exact List.mem_cons_self
  | requestIdleExit other generation =>
      apply kept
      unfold Dialogue.receive Dialogue.approve at asked
      dsimp only at asked
      split at asked
      · exact asked
      · exact asked
  | _ => exact kept asked

/-- Only a press asks for something of the Popup. -/
theorem Requested.step {action : DialogueStep} (popup : isPopupOperation operation = true)
    (plain : ∀ other blocksUi, action = .event (.submit other blocksUi) →
      isPopupOperation other = false)
    (taken : dialogue.step action = some later) (asked : Requested later requestId operation) :
    Requested dialogue requestId operation := by
  unfold Dialogue.step at taken
  cases action with
  | launch =>
      simp only [Option.ite_none_right_eq_some, Option.some.injEq] at taken
      obtain ⟨-, rfl⟩ := taken
      exact asked
  | readStart main =>
      dsimp only at taken
      split at taken
      · cases taken
        exact asked
      · cases taken
  | applyStart done =>
      dsimp only at taken
      split at taken
      · cases taken
        exact Requested.moveGui (not_asked_of_apply popup _ _ _ _) asked
      · cases taken
  | ready processId =>
      dsimp only at taken
      split at taken
      · cases taken
        exact asked
      · cases taken
  | lose kept =>
      simp only [Option.ite_none_right_eq_some, Option.some.injEq] at taken
      obtain ⟨-, rfl⟩ := taken
      exact asked.imp_left List.mem_of_mem_take
  | stopped =>
      cases taken
      exact asked
  | send message =>
      simp only [Option.ite_none_right_eq_some, Option.some.injEq] at taken
      obtain ⟨-, rfl⟩ := taken
      exact asked.post
  | createPatch content =>
      cases taken
      exact asked
  | sendPatch patch =>
      simp only [Option.ite_none_right_eq_some, Option.some.injEq] at taken
      obtain ⟨-, rfl⟩ := taken
      exact asked.post
  | readMessage =>
      dsimp only at taken
      split at taken
      · rename_i message rest idle queue
        cases taken
        exact asked.receive queue
      · cases taken
  | readSnapshot main => exact asked.serve taken
  | queueSnapshot => exact asked.serve taken
  | answer success message output => exact asked.serve taken
  | apply done =>
      simp only [Option.ite_none_right_eq_some] at taken
      obtain ⟨-, applied⟩ := taken
      unfold Dialogue.applyNext at applied
      split at applied
      · cases applied
      · cases applied
        exact Requested.moveGui (not_asked_of_apply popup _ _ _ _) asked
  | event event =>
      simp only [Option.ite_none_right_eq_some, Option.some.injEq] at taken
      obtain ⟨-, rfl⟩ := taken
      apply Requested.moveGui _ asked
      have effects : UiSession.Emits (fun _ other => isPopupOperation other = false)
          dialogue.gui (dialogue.gui.onEvent event).1 (dialogue.gui.onEvent event).2 := by
        apply UiSession.emits_onEvent
        rintro other blocksUi rfl
        exact plain other blocksUi rfl
      apply not_asked_of_emits effects
      rw [popup]
      exact nofun

end Requests

/-- Every control pressed was that of a lookup, and every request of the Popup comes from a
press. -/
structure PressInv (world : Popup) : Prop where
  pressed : ∀ requestId generation, world.pressed.lookup requestId = some generation →
    1 ≤ generation ∧ generation ≤ world.begun.length
  asked : ∀ requestId operation, isPopupOperation operation = true →
    Requested world.dialogue requestId operation → (world.pressed.lookup requestId).isSome = true
  acted : ∀ act ∈ world.acts, (world.pressed.lookup act.requestId).isSome = true

/-- The logs of the lookups and of the presses only grow. -/
structure Grows (world next : Popup) : Prop where
  begun : world.begun <+: next.begun
  pressed : world.pressed <+: next.pressed

section Presses

variable {world next : Popup}

theorem displayedSource_grows (inv : PressInv world) (grows : Grows world next)
    {requestId : DrawnId} (known : (world.pressed.lookup requestId).isSome = true) :
    displayedSource next requestId = displayedSource world requestId := by
  obtain ⟨generation, found⟩ := Option.isSome_iff_exists.mp known
  obtain ⟨one, bound⟩ := inv.pressed requestId generation found
  obtain ⟨later, more⟩ := grows.begun
  rw [displayedSource, displayedSource, found, grows.pressed.lookup_eq_some found, ← more]
  exact List.getElem?_append_left (by omega)

theorem onDisplayed_grows [ContentTables] (inv : PressInv world) (grows : Grows world next)
    {act : PopupAct} (member : act ∈ world.acts) :
    OnDisplayed next act ↔ OnDisplayed world act := by
  have same := displayedSource_grows inv grows (inv.acted act member)
  cases act with
  | favorite requestId changed =>
      change displayedSource next requestId = displayedSource world requestId at same
      rw [OnDisplayed, OnDisplayed, same]
  | refresh requestId source =>
      change displayedSource next requestId = displayedSource world requestId at same
      rw [OnDisplayed, OnDisplayed, same]

/-- A step that presses nothing and executes nothing. -/
theorem PressInv.aside (inv : PressInv world) (begun : world.begun <+: next.begun)
    (pressed : next.pressed = world.pressed) (acts : next.acts = world.acts)
    (asks : ∀ requestId operation, isPopupOperation operation = true →
      Requested next.dialogue requestId operation →
        Requested world.dialogue requestId operation) :
    PressInv next := by
  refine ⟨?_, ?_, ?_⟩
  · intro requestId generation found
    rw [pressed] at found
    obtain ⟨one, bound⟩ := inv.pressed requestId generation found
    exact ⟨one, Nat.le_trans bound begun.length_le⟩
  · intro requestId operation popup asked
    rw [pressed]
    exact inv.asked requestId operation popup (asks requestId operation popup asked)
  · rw [pressed, acts]
    exact inv.acted

theorem PressInv.press (inv : PressInv world) (lookups : LookupInv world)
    {control : PopupControl} (pressed : world.press control = some next) :
    PressInv next ∧ Grows world next ∧ next.acts = world.acts := by
  simp only [Popup.press, Option.ite_none_right_eq_some, Bool.and_eq_true, decide_eq_true_eq]
    at pressed
  obtain ⟨⟨⟨connected, -⟩, active⟩, taken⟩ := pressed
  split at taken
  · rename_i state operation card submitted
    cases taken
    obtain ⟨displaySessionId, shown, whole, -, content⟩ := lookups.card.card connected active
    have same : shown = state := Option.some.inj (content.symm.trans card)
    subst same
    have bounds := lookups.applied connected whole
    rw [lookups.counted] at bounds
    refine ⟨⟨?_, ?_, ?_⟩, ⟨List.prefix_refl _, List.prefix_append _ _⟩, rfl⟩
    · intro requestId generation found
      rw [List.lookup_append, Option.or_eq_some_iff] at found
      rcases found with before | ⟨-, now⟩
      · exact inv.pressed requestId generation before
      · rw [List.lookup_singleton, Option.ite_none_right_eq_some] at now
        cases now.2
        exact bounds
    · intro requestId asking popup asked
      rw [List.lookup_append, Option.isSome_or, Bool.or_eq_true]
      by_cases before : Requested world.dialogue requestId asking
      · exact .inl (inv.asked requestId asking popup before)
      · by_cases drawn : requestId = world.dialogue.gui.drawn
        · rw [drawn, List.lookup_cons_self]
          exact .inr rfl
        · exact absurd (asked.moveGui (fun member => drawn (drawn_of_submit member))) before
    · intro act member
      rw [List.lookup_append, Option.isSome_or, Bool.or_eq_true]
      exact .inl (inv.acted act member)
  · cases taken

theorem advance_logs [ContentTables] {slot : Slot} {task : LookupTask} {move : LookupMove}
    (advanced : world.advance slot task move = some next) :
    next.begun = world.begun ∧ next.pressed = world.pressed ∧ next.acts = world.acts ∧
      (next.dialogue = world.dialogue ∨
        ∃ message, next.dialogue = world.dialogue.post message) := by
  have placed (slot : Slot) (new : Option LookupTask) :
      (world.place slot new).begun = world.begun ∧
        (world.place slot new).pressed = world.pressed ∧
        (world.place slot new).acts = world.acts ∧
        ((world.place slot new).dialogue = world.dialogue ∨
          ∃ message, (world.place slot new).dialogue = world.dialogue.post message) :=
    ⟨Popup.place_begun .., Popup.place_pressed .., Popup.place_acts ..,
      .inl (Popup.place_dialogue ..)⟩
  have posted (message : AgentToUi) (slot : Slot) (new : Option LookupTask) :
      ((world.post message).place slot new).begun = world.begun ∧
        ((world.post message).place slot new).pressed = world.pressed ∧
        ((world.post message).place slot new).acts = world.acts ∧
        (((world.post message).place slot new).dialogue = world.dialogue ∨
          ∃ other, ((world.post message).place slot new).dialogue =
            world.dialogue.post other) :=
    ⟨Popup.place_begun .., Popup.place_pressed .., Popup.place_acts ..,
      .inr ⟨message, Popup.place_dialogue ..⟩⟩
  cases move with
  | sendBegin =>
      simp only [Popup.advance, Option.ite_none_right_eq_some] at advanced
      obtain ⟨-, sent⟩ := advanced
      split at sent
      · cases sent
        exact posted ..
      · cases sent
        exact placed ..
  | complete outcome =>
      simp only [Popup.advance, Option.ite_none_right_eq_some, Option.some.injEq] at advanced
      obtain ⟨-, rfl⟩ := advanced
      exact placed ..
  | test =>
      unfold Popup.advance at advanced
      dsimp only at advanced
      split at advanced
      · cases advanced
        exact placed ..
      · cases advanced
  | sendUpdate =>
      unfold Popup.advance at advanced
      dsimp only at advanced
      split at advanced
      · cases advanced
        exact posted ..
      · cases advanced

/-- What the execution of a request acts on, and what it begins. -/
theorem execute_cases [ContentTables] (executed : world.execute = some next) :
    next.dialogue = world.dialogue ∧ next.pressed = world.pressed ∧
      ((∃ requestId active,
          world.dialogue.serving = some (.running requestId (.popupFavoriteToggle active)) ∧
          next.begun = world.begun ∧
          next.acts = world.acts ++ [.favorite requestId (world.lastSource.bind favoriteKey)]) ∨
        ∃ requestId displaySessionId,
          world.dialogue.serving = some (.running requestId (.popupRefresh displaySessionId)) ∧
          (world.lastSource = none ∧ next.begun = world.begun ∧ next.acts = world.acts ∨
            ∃ source, world.lastSource = some source ∧ next.begun = world.begun ++ [source] ∧
              next.acts = world.acts ++ [.refresh requestId source])) := by
  unfold Popup.execute at executed
  split at executed
  · rename_i requestId active serving working
    cases executed
    exact ⟨rfl, rfl, .inl ⟨requestId, active, serving, rfl, rfl⟩⟩
  · rename_i requestId displaySessionId serving working
    refine ⟨?_, ?_, .inr ⟨requestId, displaySessionId, serving, ?_⟩⟩
    · split at executed <;> cases executed <;> rfl
    · split at executed <;> cases executed <;> rfl
    · split at executed
      · rename_i unknown
        cases executed
        exact .inl ⟨unknown, rfl, rfl⟩
      · rename_i source known
        cases executed
        exact .inr ⟨source, known, rfl, rfl⟩
  · cases executed

/-- A step that executes nothing. -/
theorem acts_still [ContentTables] (inv : PressInv world) (grows : Grows world next)
    (acts : next.acts = world.acts) :
    (∀ act ∈ next.acts, OnDisplayed next act) ↔ ∀ act ∈ world.acts, OnDisplayed world act := by
  rw [acts]
  exact forall₂_congr (fun _ member => onDisplayed_grows inv grows member)

theorem acts_append [ContentTables] (inv : PressInv world) (grows : Grows world next)
    {new : PopupAct} (acts : next.acts = world.acts ++ [new]) :
    (∀ act ∈ next.acts, OnDisplayed next act) ↔
      (∀ act ∈ world.acts, OnDisplayed world act) ∧ OnDisplayed next new := by
  rw [acts]
  constructor
  · intro all
    refine ⟨?_, all new (List.mem_append_right _ (List.mem_singleton_self _))⟩
    intro act member
    exact (onDisplayed_grows inv grows member).mp (all act (List.mem_append_left _ member))
  · rintro ⟨before, now⟩ act member
    rcases List.mem_append.mp member with old | added
    · exact (onDisplayed_grows inv grows old).mpr (before act old)
    · rw [List.mem_singleton.mp added]
      exact now

theorem PressInv.still [ContentTables] (inv : PressInv world) {action : PopupStep}
    (begun : world.begun <+: next.begun) (pressed : next.pressed = world.pressed)
    (acts : next.acts = world.acts)
    (asks : ∀ requestId operation, isPopupOperation operation = true →
      Requested next.dialogue requestId operation → Requested world.dialogue requestId operation)
    (met : latestAsDisplayed world action = true) :
    PressInv next ∧ ((∀ act ∈ next.acts, OnDisplayed next act) ↔
      (∀ act ∈ world.acts, OnDisplayed world act) ∧
        latestAsDisplayed world action = true) := by
  have grows : Grows world next := ⟨begun, pressed ▸ List.prefix_refl _⟩
  exact ⟨inv.aside begun pressed acts asks,
    (acts_still inv grows acts).trans (and_iff_left met).symm⟩

/-- One more act, of a request in service. -/
theorem PressInv.acts (inv : PressInv world) (grows : Grows world next)
    (dialogue : next.dialogue = world.dialogue) (pressed : next.pressed = world.pressed)
    {new : PopupAct} {operation : UiOperation} (popup : isPopupOperation operation = true)
    (serving : world.dialogue.serving = some (.running new.requestId operation))
    (acts : next.acts = world.acts ++ [new]) : PressInv next := by
  refine ⟨?_, ?_, ?_⟩
  · intro requestId generation found
    rw [pressed] at found
    obtain ⟨one, bound⟩ := inv.pressed requestId generation found
    exact ⟨one, Nat.le_trans bound grows.begun.length_le⟩
  · rw [dialogue, pressed]
    exact inv.asked
  · intro act member
    rw [acts] at member
    rw [pressed]
    rcases List.mem_append.mp member with old | added
    · exact inv.acted act old
    · rw [List.mem_singleton.mp added]
      exact inv.asked new.requestId operation popup (.inr serving)

theorem PressInv.execute [ContentTables] (inv : PressInv world) (lookups : LookupInv world)
    (executed : world.execute = some next) :
    PressInv next ∧ ((∀ act ∈ next.acts, OnDisplayed next act) ↔
      (∀ act ∈ world.acts, OnDisplayed world act) ∧
        latestAsDisplayed world .execute = true) := by
  obtain ⟨dialogue, pressed, toggles | refreshes⟩ := execute_cases executed
  · obtain ⟨requestId, active, serving, begun, acts⟩ := toggles
    have grows : Grows world next := ⟨begun ▸ List.prefix_refl _, pressed ▸ List.prefix_refl _⟩
    have known := inv.asked requestId _ rfl (.inr serving)
    have acted := @PressInv.acts world next inv grows dialogue pressed
      (.favorite requestId (world.lastSource.bind favoriteKey)) _ rfl serving acts
    refine ⟨acted, ?_⟩
    rw [acts_append inv grows acts, OnDisplayed, displayedSource_grows inv grows known,
      latestAsDisplayed, serving, lookups.last]
    refine and_congr_right' ?_
    dsimp only
    cases world.begun.getLast?.bind favoriteKey with
    | none => exact iff_of_true nofun rfl
    | some contentKey =>
        rw [decide_eq_true_iff]
        constructor
        · intro all
          exact all contentKey rfl
        · rintro same other ⟨⟩
          exact same
  · obtain ⟨requestId, displaySessionId, serving, outcome⟩ := refreshes
    have known := inv.asked requestId _ rfl (.inr serving)
    obtain ⟨generation, found⟩ := Option.isSome_iff_exists.mp known
    obtain ⟨one, bound⟩ := inv.pressed requestId generation found
    rcases outcome with ⟨unknown, -⟩ | ⟨source, latest, begun, acts⟩
    · -- A lookup was displayed, so there is a last source.
      rw [lookups.last, List.getLast?_eq_none_iff] at unknown
      rw [unknown, List.length_nil] at bound
      omega
    · have grows : Grows world next :=
        ⟨begun ▸ List.prefix_append _ _, pressed ▸ List.prefix_refl _⟩
      have acted := @PressInv.acts world next inv grows dialogue pressed
        (.refresh requestId source) _ rfl serving acts
      refine ⟨acted, ?_⟩
      rw [acts_append inv grows acts, OnDisplayed, displayedSource_grows inv grows known,
        latestAsDisplayed, serving, ← lookups.last, latest]
      refine and_congr_right' ?_
      dsimp only
      rw [decide_eq_true_iff, eq_comm]

theorem PressInv.step [ContentTables] (inv : PressInv world) (lookups : LookupInv world)
    {action : PopupStep} (stepped : world.step action = some next) :
    PressInv next ∧ ((∀ act ∈ next.acts, OnDisplayed next act) ↔
      (∀ act ∈ world.acts, OnDisplayed world act) ∧
        latestAsDisplayed world action = true) := by
  cases action with
  | dialogue moved =>
      simp only [Popup.step, Option.ite_none_right_eq_some, Option.map_eq_some_iff] at stepped
      obtain ⟨permitted, dialogue, taken, rfl⟩ := stepped
      refine inv.still (List.prefix_refl _) rfl rfl ?_ rfl
      intro requestId operation popup asked
      refine asked.step popup ?_ taken
      rintro other blocksUi rfl
      simpa [Popup.permits] using permitted
  | capture source =>
      cases stepped
      exact inv.still (List.prefix_append _ _) rfl rfl (fun _ _ _ asked => asked) rfl
  | press control =>
      obtain ⟨kept, grows, acts⟩ := inv.press lookups stepped
      exact ⟨kept, (acts_still inv grows acts).trans (and_iff_left rfl).symm⟩
  | execute => exact inv.execute lookups stepped
  | advance slot move =>
      simp only [Popup.step, Option.bind_eq_some_iff] at stepped
      obtain ⟨task, -, advanced⟩ := stepped
      obtain ⟨begun, pressed, acts, dialogue⟩ := advance_logs advanced
      refine inv.still (begun ▸ List.prefix_refl _) pressed acts ?_ rfl
      intro requestId operation popup asked
      rcases dialogue with same | ⟨message, posted⟩
      · rw [← same]
        exact asked
      · rw [posted] at asked
        exact asked.post

end Presses

theorem PressInv.initial : PressInv Popup.initial := by
  refine ⟨?_, ?_, ?_⟩
  · rintro requestId generation ⟨⟩
  · rintro requestId operation - (waiting | running)
    · cases waiting
    · cases running
  · rintro act ⟨⟩

/-- However presses, executions and lookups interleave: every request of the Popup acts on the
lookup displayed at its press exactly if the lookup begun last before each execution is, in its
source or its content, the one that was displayed. -/
theorem popup_acts_on_displayed_iff [ContentTables] {actions : List PopupStep} {last : Popup}
    (ran : run Popup.step Popup.initial actions = some last) :
    (∀ act ∈ last.acts, OnDisplayed last act) ↔
      Meets Popup.step (fun world action => latestAsDisplayed world action = true)
        Popup.initial actions := by
  have keeps : ∀ world action next, LookupInv world ∧ PressInv world →
      Popup.step world action = some next → LookupInv next ∧ PressInv next := by
    rintro world action next ⟨lookups, inv⟩ stepped
    exact ⟨lookups.step stepped, (inv.step lookups stepped).1⟩
  have exactly : ∀ world action next, LookupInv world ∧ PressInv world →
      Popup.step world action = some next →
      ((∀ act ∈ next.acts, OnDisplayed next act) ↔
        (∀ act ∈ world.acts, OnDisplayed world act) ∧
          latestAsDisplayed world action = true) := by
    rintro world action next ⟨lookups, inv⟩ stepped
    exact (inv.step lookups stepped).2
  have whole := run_iff_meets keeps exactly actions Popup.initial last
    ⟨LookupInv.initial, PressInv.initial⟩ ran
  refine whole.trans (and_iff_right ?_)
  rintro act ⟨⟩

section Runs

attribute [local instance] Sample.twoWords

/-- A lookup is shown and its favorite control pressed; then the refresh control. -/
def pressRun (between : List PopupStep) : List PopupStep :=
  Sample.started ++
    [PopupStep.capture "house", .advance (houseTask .begun) .sendBegin,
      .advance (houseTask .shown) (.complete houseFound),
      .advance (houseTask (.completed houseReady)) .test,
      .advance (houseTask (.current houseReady)) .sendUpdate,
      .dialogue (.apply true), .dialogue (.apply true), .press (.favorite true),
      .dialogue .readMessage] ++ between ++
    [PopupStep.execute, .dialogue (.answer true "Favorite updated." .none), .dialogue (.apply true),
      .press .refresh, .dialogue .readMessage, .execute]

/-- The same text is captured again between the press and the execution. -/
theorem popup_acts_on_house :
    ∃ last, run Popup.step Popup.initial (pressRun [.capture "house"]) = some last ∧
      last.begun = ["house", "house", "house"] ∧
      last.acts = [.favorite 0 (some Sample.houseKey), .refresh 1 "house"] ∧
      ∀ act ∈ last.acts, OnDisplayed last act := by
  have met : Meets Popup.step (fun world action => latestAsDisplayed world action = true)
      Popup.initial (pressRun [.capture "house"]) := by
    decide
  have facts : (run Popup.step Popup.initial (pressRun [.capture "house"])).any (fun last =>
      decide (last.begun = ["house", "house", "house"] ∧
        last.acts = [.favorite 0 (some Sample.houseKey), .refresh 1 "house"])) = true := by
    decide
  obtain ⟨last, ran, holds⟩ := (Option.any_eq_true _ _).mp facts
  obtain ⟨twice, acts⟩ := of_decide_eq_true holds
  exact ⟨last, ran, twice, acts, (popup_acts_on_displayed_iff ran).mpr met⟩

/-- A newer lookup begins between the press and the execution: it is the one that the toggle
and the refresh act on, while the Popup still shows the older one. -/
theorem popup_acts_on_newer :
    ∃ last, run Popup.step Popup.initial (pressRun [.capture "gift"]) = some last ∧
      last.acts = [.favorite 0 (some Sample.giftKey), .refresh 1 "gift"] ∧
      displayedSource last 0 = some "house" ∧ displayedSource last 1 = some "house" ∧
      ∀ act ∈ last.acts, ¬ OnDisplayed last act := by
  have facts : (run Popup.step Popup.initial (pressRun [.capture "gift"])).any (fun last =>
      decide (last.acts = [.favorite 0 (some Sample.giftKey), .refresh 1 "gift"] ∧
        displayedSource last 0 = some "house" ∧ displayedSource last 1 = some "house")) = true := by
    decide
  have house : favoriteKey "house" ≠ some Sample.giftKey := by decide
  obtain ⟨last, ran, holds⟩ := (Option.any_eq_true _ _).mp facts
  obtain ⟨acts, toggled, refreshed⟩ := of_decide_eq_true holds
  refine ⟨last, ran, acts, toggled, refreshed, ?_⟩
  intro act member
  rw [acts, List.mem_cons, List.mem_singleton] at member
  rcases member with rfl | rfl
  · intro same
    have key := same Sample.giftKey rfl
    rw [toggled] at key
    exact house key
  · rw [OnDisplayed, refreshed]
    decide

end Runs

end Lvos.System.Ui
