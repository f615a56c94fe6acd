import Lvos.Core.Content
import Lvos.System.Queues

set_option autoImplicit false

namespace Lvos.System.Ui

open Lvos.Core Lvos.Ipc Lvos.Agent Lvos.Desktop
open Relational (Table)
open Transition (run run_raises)
open Lvos.Sync (u64Limit)

/-! The lookups of the Popup: the Agent's part of `DesktopApplication` and the tasks that show
a captured lookup or refresh the last one, over the connection of `Dialogue`. -/

/-- `MAX_LOOKUP_BYTES`, which `prepare_content` takes as a number of characters. -/
def maxLookupBytes : Nat := 2000

def lookupLanguage : LanguageCode := ⟨"en", english_canonical⟩

/-- What the lookup service answers. -/
inductive LookupOutcome
  | found (contentKey : ContentKey) (source translation : String) (favorite : Bool)
      (effectiveQueryCount : Nat)
  | failed (kind : LookupErrorKind)

/-- `captured` lookups and refreshes take the same steps; a finished one is gone. -/
inductive LookupStage
  | begun
  | shown
  | completed (state : LookupUiState)
  | current (state : LookupUiState)
deriving DecidableEq

structure LookupTask where
  generation : Nat
  displaySessionId : DrawnId
  source : String
  stage : LookupStage
deriving DecidableEq

/-- How far `execute` is with the request in service, where it is one of the Popup's. -/
inductive PopupWork
  | waiting
  | refreshing (task : LookupTask)
  | executed
deriving DecidableEq

/-- What a request of the Popup acted on. -/
inductive PopupAct
  | favorite (requestId : DrawnId) (contentKey : Option ContentKey)
  | refresh (requestId : DrawnId) (source : String)
deriving DecidableEq

/-- The last three fields are for the statements: the sources of the lookups in the order of
their generations, the generation shown when a control was pressed, and what was acted on. -/
structure Popup where
  dialogue : Dialogue
  generation : Nat
  lastSource : Option String
  nextSession : DrawnId
  captures : List LookupTask
  work : PopupWork
  begun : List String
  pressed : List (DrawnId × Nat)
  acts : List PopupAct

inductive Slot
  | capture (task : LookupTask)
  | refresh

inductive PopupControl
  | favorite (active : Bool)
  | refresh

/-- The steps of a lookup after `begin_lookup`. -/
inductive LookupMove
  | sendBegin
  | complete (outcome : LookupOutcome)
  | test
  | sendUpdate

inductive PopupStep
  | dialogue (action : DialogueStep)
  | capture (source : String)
  | press (control : PopupControl)
  | execute
  | advance (slot : Slot) (move : LookupMove)

def isLoading : LookupUiState → Bool
  | .loading _ _ => true
  | _ => false

def isPopupOperation : UiOperation → Bool
  | .popupFavoriteToggle _ | .popupRefresh _ => true
  | _ => false

section Application

variable [ContentTables]

/-- `complete_lookup` with the answer of the service. -/
def completeLookup (generation : Nat) (source : String) (outcome : LookupOutcome) :
    LookupUiState :=
  match prepareContent source lookupLanguage maxLookupBytes with
  | .error _ => .error generation source .unsupportedInput
  | .ok _ =>
      match outcome with
      | .found contentKey source translation favorite effectiveQueryCount =>
          .ready generation contentKey.toHex source translation favorite effectiveQueryCount
      | .failed kind => .error generation source kind

/-- The key whose favorite state `set_last_favorite` changes, if that is the last source. -/
def favoriteKey (source : String) : Option ContentKey :=
  match prepareContent source lookupLanguage maxLookupBytes with
  | .error _ => none
  | .ok content => some content.contentKey

/-- The result of a lookup of the generation. -/
structure Completes (generation : Nat) (state : LookupUiState) : Prop where
  own : state.queryId = generation
  done : isLoading state = false
  valid : UiSession.validLookup state = true

theorem completes_completeLookup (generation : Nat) (source : String)
    (outcome : LookupOutcome) :
    Completes generation (completeLookup generation source outcome) := by
  unfold completeLookup
  split
  · exact ⟨rfl, rfl, rfl⟩
  · cases outcome with
    | found contentKey text translation favorite effectiveQueryCount =>
        refine ⟨rfl, rfl, ?_⟩
        simp [UiSession.validLookup, Except.toBool]
    | failed kind => exact ⟨rfl, rfl, rfl⟩

end Application

/-- A finished lookup has a result of its own generation. -/
def LookupTask.Sound (task : LookupTask) : Prop :=
  ∀ state, task.stage = .completed state ∨ task.stage = .current state →
    Completes task.generation state

namespace Popup

def initial : Popup where
  dialogue := .initial
  generation := 0
  lastSource := none
  nextSession := 0
  captures := []
  work := .waiting
  begun := []
  pressed := []
  acts := []

/-- `begin_lookup` of the application. -/
def beginLookup (world : Popup) (source : String) : Popup :=
  { world with
    generation := world.generation + 1
    lastSource := some source
    begun := world.begun ++ [source] }

/-- The lookups at work. -/
def tasks (world : Popup) : List LookupTask :=
  world.captures ++
    match world.work with
    | .refreshing task => [task]
    | _ => []

def taskAt (world : Popup) : Slot → Option LookupTask
  | .capture task => if task ∈ world.captures then some task else none
  | .refresh =>
      match world.work with
      | .refreshing task => some task
      | _ => none

/-- The task in the slot takes its next step, or is finished. -/
def place (world : Popup) (slot : Slot) (next : Option LookupTask) : Popup :=
  match slot with
  | .capture task => { world with captures := world.captures.erase task ++ next.toList }
  | .refresh =>
      { world with
        work := match next with
          | some task => .refreshing task
          | none => .executed }

def post (world : Popup) (message : AgentToUi) : Popup :=
  { world with dialogue := world.dialogue.post message }

/-- The steps of the connection that are not the Popup's own; `handle_request` answers one of
its requests after `execute`. -/
def permits (world : Popup) : DialogueStep → Bool
  | .send message => !UiSession.isLookup message
  | .event (.submit operation _) => !isPopupOperation operation
  | .answer _ _ _ =>
      match world.work, world.dialogue.serving with
      | .waiting, some (.running _ operation) => !isPopupOperation operation
      | .refreshing _, _ => false
      | _, _ => true
  | _ => true

def workAfter (work : PopupWork) : DialogueStep → PopupWork
  | .answer _ _ _ => .waiting
  | _ => work

/-- What the control submits; a refresh without a display session is none. -/
def pressedOperation (display : Option DisplaySession) : PopupControl → Option UiOperation
  | .favorite active => some (.popupFavoriteToggle active)
  | .refresh => display.map (fun display => .popupRefresh display.id)

def press (world : Popup) (control : PopupControl) : Option Popup :=
  let gui := world.dialogue.gui
  if world.dialogue.connected && !gui.quit && gui.hosts.popup = .active then
    match gui.hosts.card, pressedOperation gui.display control with
    | some state, some operation =>
        some { world with
          dialogue := world.dialogue.moveGui (gui.onEvent (.submit operation false))
          pressed := world.pressed ++ [(gui.drawn, state.queryId)] }
    | _, _ => none
  else none

variable [ContentTables]

/-- `execute` of `PopupFavoriteToggle` and the start of `PopupRefresh`. -/
def execute (world : Popup) : Option Popup :=
  match world.dialogue.serving, world.work with
  | some (.running requestId (.popupFavoriteToggle _)), .waiting =>
      some { world with
        work := .executed
        acts := world.acts ++ [.favorite requestId (world.lastSource.bind favoriteKey)] }
  | some (.running requestId (.popupRefresh displaySessionId)), .waiting =>
      match world.lastSource with
      | none => some { world with work := .executed }
      | some source =>
          some { world.beginLookup source with
            work := .refreshing ⟨world.generation + 1, displaySessionId, source, .begun⟩
            acts := world.acts ++ [.refresh requestId source] }
  | _, _ => none

/-- One step of the lookup in the slot. A `BeginLookup` that cannot be queued ends it. -/
def advance (world : Popup) (slot : Slot) (task : LookupTask) : LookupMove → Option Popup
  | .sendBegin =>
      if task.stage = .begun then
        if world.dialogue.reaches then
          some ((world.post (.beginLookup task.displaySessionId
            (.loading task.generation task.source))).place slot
              (some { task with stage := .shown }))
        else some (world.place slot none)
      else none
  | .complete outcome =>
      if task.stage = .shown then
        some (world.place slot (some { task with
          stage := .completed (completeLookup task.generation task.source outcome) }))
      else none
  | .test =>
      match task.stage with
      | .completed state =>
          some (world.place slot (if state.queryId = world.generation then
            some { task with stage := .current state } else none))
      | _ => none
  | .sendUpdate =>
      match task.stage with
      | .current state =>
          some ((world.post (.updateLookup task.displaySessionId state)).place slot none)
      | _ => none

def step (world : Popup) : PopupStep → Option Popup
  | .dialogue action =>
      if world.permits action then
        (world.dialogue.step action).map (fun dialogue =>
          { world with
            dialogue := dialogue
            work := workAfter world.work action })
      else none
  | .capture source =>
      some { world.beginLookup source with
        nextSession := world.nextSession + 1
        captures := world.captures ++
          [⟨world.generation + 1, world.nextSession, source, .begun⟩] }
  | .press control => world.press control
  | .execute => world.execute
  | .advance slot move =>
      (world.taskAt slot).bind (fun task => world.advance slot task move)

section Tasks

omit [ContentTables]

variable {world : Popup} {slot : Slot} {old task : LookupTask} {next : Option LookupTask}

@[simp] theorem place_dialogue (world : Popup) (slot : Slot) (next : Option LookupTask) :
    (world.place slot next).dialogue = world.dialogue := by
  cases slot <;> rfl

@[simp] theorem place_generation (world : Popup) (slot : Slot) (next : Option LookupTask) :
    (world.place slot next).generation = world.generation := by
  cases slot <;> rfl

@[simp] theorem place_lastSource (world : Popup) (slot : Slot) (next : Option LookupTask) :
    (world.place slot next).lastSource = world.lastSource := by
  cases slot <;> rfl

@[simp] theorem place_begun (world : Popup) (slot : Slot) (next : Option LookupTask) :
    (world.place slot next).begun = world.begun := by
  cases slot <;> rfl

@[simp] theorem place_pressed (world : Popup) (slot : Slot) (next : Option LookupTask) :
    (world.place slot next).pressed = world.pressed := by
  cases slot <;> rfl

@[simp] theorem place_acts (world : Popup) (slot : Slot) (next : Option LookupTask) :
    (world.place slot next).acts = world.acts := by
  cases slot <;> rfl

theorem mem_tasks_of_taskAt (found : world.taskAt slot = some old) : old ∈ world.tasks := by
  cases slot with
  | capture task =>
      simp only [taskAt, Option.ite_none_right_eq_some, Option.some.injEq] at found
      obtain ⟨member, rfl⟩ := found
      exact List.mem_append_left _ member
  | refresh =>
      unfold taskAt at found
      dsimp only at found
      split at found
      · rename_i working
        cases found
        unfold tasks
        rw [working]
        exact List.mem_append_right _ (List.mem_singleton_self _)
      · cases found

theorem mem_tasks_place_self (world : Popup) (slot : Slot) (task : LookupTask) :
    task ∈ (world.place slot (some task)).tasks := by
  cases slot with
  | capture other =>
      exact List.mem_append_left _ (List.mem_append_right _ (List.mem_singleton_self _))
  | refresh => exact List.mem_append_right _ (List.mem_singleton_self _)

/-- The other tasks stay as they are. -/
theorem mem_tasks_place (found : world.taskAt slot = some old) (member : task ∈ world.tasks)
    (apart : task ≠ old) : task ∈ (world.place slot next).tasks := by
  cases slot with
  | capture other =>
      simp only [taskAt, Option.ite_none_right_eq_some, Option.some.injEq] at found
      obtain ⟨-, rfl⟩ := found
      rcases List.mem_append.mp member with captured | working
      · exact List.mem_append_left _
          (List.mem_append_left _ ((List.mem_erase_of_ne apart).mpr captured))
      · exact List.mem_append_right _ working
  | refresh =>
      rcases List.mem_append.mp member with captured | working
      · exact List.mem_append_left _ captured
      · unfold taskAt at found
        dsimp only at found
        split at found
        · rename_i held
          cases found
          rw [held, List.mem_singleton] at working
          exact absurd working apart
        · cases found

theorem mem_tasks_of_place (member : task ∈ (world.place slot next).tasks) :
    task ∈ world.tasks ∨ next = some task := by
  cases slot with
  | capture other =>
      rcases List.mem_append.mp member with captured | working
      · rcases List.mem_append.mp captured with before | now
        · exact .inl (List.mem_append_left _ (List.mem_of_mem_erase before))
        · exact .inr (Option.mem_toList.mp now)
      · exact .inl (List.mem_append_right _ working)
  | refresh =>
      rcases List.mem_append.mp member with captured | working
      · exact .inl (List.mem_append_left _ captured)
      · cases next with
        | none => cases working
        | some found => exact .inr (congrArg some (List.mem_singleton.mp working).symm)

end Tasks

/-- What a step does to the lookups. -/
inductive Effect (world : Popup) (action : PopupStep) (next : Popup) : Prop
  | aside
      (dialogue : next.dialogue = world.dialogue ∨ ∃ moved,
        (∀ message, moved = .send message → UiSession.isLookup message = false) ∧
          world.dialogue.step moved = some next.dialogue)
      (generation : next.generation = world.generation)
      (last : next.lastSource = world.lastSource) (begun : next.begun = world.begun)
      (tasks : next.tasks = world.tasks)
  | begins {task : LookupTask} (dialogue : next.dialogue = world.dialogue)
      (stage : task.stage = .begun) (own : task.generation = world.generation + 1)
      (generation : next.generation = world.generation + 1)
      (last : next.lastSource = some task.source)
      (begun : next.begun = world.begun ++ [task.source])
      (tasks : ∀ other ∈ next.tasks, other ∈ world.tasks ∨ other = task)
  | moves {slot : Slot} {old : LookupTask} {new : Option LookupTask}
      (found : world.taskAt slot = some old) (whole : next = world.place slot new)
      (kept : ∀ task, new = some task →
        task.generation = old.generation ∧ (old.Sound → task.Sound))
      (goesOn : old.Sound → old.stage ≠ .begun → old.generation = world.generation →
        ∃ task, new = some task ∧ task.stage ≠ .begun ∧ task.generation = old.generation ∧
          task.displaySessionId = old.displaySessionId)
  | sendBegin {slot : Slot} {task : LookupTask} (found : world.taskAt slot = some task)
      (reached : world.dialogue.reaches = true)
      (whole : next = (world.post (.beginLookup task.displaySessionId
        (.loading task.generation task.source))).place slot (some { task with stage := .shown }))
  | sendUpdate {slot : Slot} {task : LookupTask} {state : LookupUiState}
      (found : world.taskAt slot = some task) (stage : task.stage = .current state)
      (chosen : action = .advance slot .sendUpdate)
      (whole : next =
        (world.post (.updateLookup task.displaySessionId state)).place slot none)

section Effects

variable {world next : Popup}

theorem effect_advance {slot : Slot} {task : LookupTask} {move : LookupMove}
    (found : world.taskAt slot = some task)
    (advanced : world.advance slot task move = some next) :
    Effect world (.advance slot move) next := by
  cases move with
  | sendBegin =>
      simp only [advance, Option.ite_none_right_eq_some] at advanced
      obtain ⟨stage, sent⟩ := advanced
      split at sent
      · rename_i reached
        cases sent
        exact .sendBegin found reached rfl
      · cases sent
        exact .moves found rfl nofun (fun _ begun _ => absurd stage begun)
  | complete outcome =>
      simp only [advance, Option.ite_none_right_eq_some, Option.some.injEq] at advanced
      obtain ⟨-, rfl⟩ := advanced
      refine .moves found rfl ?_ (fun _ _ _ => ⟨_, rfl, nofun, rfl, rfl⟩)
      rintro later ⟨⟩
      refine ⟨rfl, ?_⟩
      rintro - state (completed | completed)
      · cases completed
        exact completes_completeLookup task.generation task.source outcome
      · cases completed
  | test =>
      unfold advance at advanced
      dsimp only at advanced
      split at advanced
      · rename_i state stage
        cases advanced
        refine .moves found rfl ?_ ?_
        · intro later kept
          simp only [Option.ite_none_right_eq_some, Option.some.injEq] at kept
          obtain ⟨-, rfl⟩ := kept
          refine ⟨rfl, ?_⟩
          rintro sound other (current | current)
          · cases current
          · cases current
            exact sound state (.inl stage)
        · -- A lookup of the latest generation passes the test.
          intro sound _ latest
          rw [if_pos ((sound state (.inl stage)).own.trans latest)]
          exact ⟨_, rfl, nofun, rfl, rfl⟩
      · cases advanced
  | sendUpdate =>
      unfold advance at advanced
      dsimp only at advanced
      split at advanced
      · rename_i state stage
        cases advanced
        exact .sendUpdate found stage rfl rfl
      · cases advanced

theorem effect_execute (executed : world.execute = some next) :
    Effect world .execute next := by
  have idle {later : Popup} (waiting : world.work = .waiting) (work : later.work = .executed)
      (captures : later.captures = world.captures) : later.tasks = world.tasks := by
    unfold tasks
    rw [waiting, work, captures]
  unfold execute at executed
  split at executed
  · rename_i working
    cases executed
    exact .aside (.inl rfl) rfl rfl rfl (idle working rfl rfl)
  · rename_i requestId displaySessionId _ working
    split at executed
    · cases executed
      exact .aside (.inl rfl) rfl rfl rfl (idle working rfl rfl)
    · rename_i source _
      cases executed
      refine @Effect.begins world _ _ ⟨world.generation + 1, displaySessionId, source, .begun⟩
        rfl rfl rfl rfl rfl rfl ?_
      intro other member
      rcases List.mem_append.mp member with captured | refreshed
      · exact .inl (List.mem_append_left _ captured)
      · exact .inr (List.mem_singleton.mp refreshed)
  · cases executed

theorem step_effect {action : PopupStep} (stepped : world.step action = some next) :
    Effect world action next := by
  cases action with
  | dialogue moved =>
      simp only [step, Option.ite_none_right_eq_some, Option.map_eq_some_iff] at stepped
      obtain ⟨permitted, dialogue, taken, rfl⟩ := stepped
      refine .aside (.inr ⟨moved, ?_, taken⟩) rfl rfl rfl ?_
      · rintro message rfl
        simpa [permits] using permitted
      · cases moved with
        | answer success message output =>
            unfold tasks
            cases working : world.work with
            | waiting => rfl
            | refreshing task => simp [permits, working] at permitted
            | executed => rfl
        | _ => rfl
  | capture source =>
      cases stepped
      refine @Effect.begins world _ _ ⟨world.generation + 1, world.nextSession, source, .begun⟩
        rfl rfl rfl rfl rfl rfl ?_
      intro other member
      rcases List.mem_append.mp member with captured | working
      · rcases List.mem_append.mp captured with before | now
        · exact .inl (List.mem_append_left _ before)
        · exact .inr (List.mem_singleton.mp now)
      · exact .inl (List.mem_append_right _ working)
  | press control =>
      simp only [step, press, Option.ite_none_right_eq_some, Bool.and_eq_true] at stepped
      obtain ⟨⟨up, -⟩, pressed⟩ := stepped
      split at pressed
      · rename_i operation _ _
        cases pressed
        refine .aside (.inr ⟨.event (.submit operation false), ?_, ?_⟩) rfl rfl rfl rfl
        · rintro _ ⟨⟩
        rw [Dialogue.step, if_pos (by rw [Bool.and_eq_true]; exact up)]
      · cases pressed
  | execute => exact effect_execute stepped
  | advance slot move =>
      simp only [step, Option.bind_eq_some_iff] at stepped
      obtain ⟨task, found, advanced⟩ := stepped
      exact effect_advance found advanced

/-- Bounds on the counters of the connection and on the generations of the lookups. -/
structure Counts (count : Nat) (world : Popup) : Prop where
  dialogue : world.dialogue.Counts count
  generations : world.generation ≤ count

theorem Counts.step {count : Nat} (counts : Counts count world) {action : PopupStep}
    (stepped : world.step action = some next) : Counts (count + 1) next := by
  cases step_effect stepped with
  | aside dialogue generation last begun tasks =>
      refine ⟨?_, by rw [generation]; exact Nat.le_succ_of_le counts.generations⟩
      rcases dialogue with same | ⟨moved, -, stepped⟩
      · rw [same]
        exact counts.dialogue.later
      · exact counts.dialogue.step stepped
  | begins dialogue stage own generation last begun tasks =>
      refine ⟨?_, by rw [generation]; exact Nat.succ_le_succ counts.generations⟩
      rw [dialogue]
      exact counts.dialogue.later
  | moves found whole kept goesOn =>
      rw [whole]
      refine ⟨?_, ?_⟩
      · rw [place_dialogue]
        exact counts.dialogue.later
      · rw [place_generation]
        exact Nat.le_succ_of_le counts.generations
  | sendBegin found reached whole =>
      rw [whole]
      refine ⟨?_, ?_⟩
      · rw [place_dialogue]
        exact counts.dialogue.later.post _
      · rw [place_generation]
        exact Nat.le_succ_of_le counts.generations
  | sendUpdate found stage chosen whole =>
      rw [whole]
      refine ⟨?_, ?_⟩
      · rw [place_dialogue]
        exact counts.dialogue.later.post _
      · rw [place_generation]
        exact Nat.le_succ_of_le counts.generations

/-- The generations of the lookups are an `AtomicU64` of the source, which wraps with the other
counters only. -/
theorem counters_unwrapped {actions : List PopupStep} {last : Popup}
    (ran : run Popup.step initial actions = some last)
    (short : actions.length + 4 < u64Limit) :
    (last.generation + 1) % u64Limit = last.generation + 1 ∧
      (last.dialogue.nextGeneration + 1) % u64Limit = last.dialogue.nextGeneration + 1 ∧
      (last.dialogue.revision + 1) % u64Limit = last.dialogue.revision + 1 ∧
      (last.dialogue.delivered + 3 + 1) % u64Limit = last.dialogue.delivered + 3 + 1 := by
  have counts := @run_raises Popup PopupStep Popup.step Counts
    (fun _ _ _ _ counts stepped => counts.step stepped) actions 0 initial last
    ⟨⟨Nat.le_refl 1, Nat.le_refl 0, Nat.le_refl 0⟩, Nat.le_refl 0⟩ ran
  rw [Nat.zero_add] at counts
  have generations := counts.generations
  exact ⟨Nat.mod_eq_of_lt (by omega), counts.dialogue.unwrapped short⟩

end Effects

end Popup

/-! What the Popup shows. -/

/-- The card after a message, while the Popup is there. -/
def showAfter (shown : Option (DrawnId × LookupUiState)) :
    AgentToUi → Option (DrawnId × LookupUiState)
  | .beginLookup displaySessionId state => some (displaySessionId, state)
  | .updateLookup displaySessionId state =>
      if shown.any (fun card => card.1 = displaySessionId && card.2.queryId = state.queryId) then
        some (displaySessionId, state)
      else shown
  | _ => shown

def shownBy (messages : List AgentToUi) : Option (DrawnId × LookupUiState) :=
  messages.foldl showAfter none

def validMessage : AgentToUi → Bool
  | .beginLookup _ state | .updateLookup _ state => UiSession.validLookup state
  | _ => true

@[simp] theorem shownBy_append (messages : List AgentToUi) (message : AgentToUi) :
    shownBy (messages ++ [message]) = showAfter (shownBy messages) message := by
  rw [shownBy, List.foldl_append]
  rfl

theorem showAfter_plain (shown : Option (DrawnId × LookupUiState)) {message : AgentToUi}
    (plain : UiSession.isLookup message = false) : showAfter shown message = shown := by
  cases message with
  | beginLookup displaySessionId state => cases plain
  | updateLookup displaySessionId state => cases plain
  | _ => rfl

theorem shownBy_lookups (messages : List AgentToUi) :
    shownBy (messages.filter UiSession.isLookup) = shownBy messages := by
  induction messages using List.reverseRecOn with
  | nil => rfl
  | append_singleton before message ih =>
      rw [List.filter_append, shownBy_append]
      cases lookup : UiSession.isLookup message with
      | true =>
          rw [List.filter_cons_of_pos lookup, List.filter_nil, shownBy_append, ih]
      | false =>
          rw [List.filter_cons_of_neg (by simp [lookup]), List.filter_nil, List.append_nil, ih,
            showAfter_plain _ lookup]

/-- A Popup that is there shows what the applied messages say. -/
structure CardInv (dialogue : Dialogue) : Prop where
  starting : ∀ generation, dialogue.state.phase = .starting generation →
    dialogue.gui.hosts.popup ≠ .active
  card : dialogue.connected = true → dialogue.gui.hosts.popup = .active →
    ∃ displaySessionId state, shownBy dialogue.applied = some (displaySessionId, state) ∧
      dialogue.gui.display = some ⟨displaySessionId, state.queryId⟩ ∧
      dialogue.gui.hosts.card = some state

section Card

variable {dialogue next : Dialogue}

theorem CardInv.aside (inv : CardInv dialogue) (gui : next.gui = dialogue.gui)
    (applied : next.applied = dialogue.applied)
    (connected : next.connected = true → dialogue.connected = true)
    (starting : ∀ generation, next.state.phase = .starting generation →
      dialogue.state.phase = .starting generation) : CardInv next := by
  refine ⟨?_, ?_⟩
  · intro generation now
    rw [gui]
    exact inv.starting generation (starting generation now)
  · intro link
    rw [gui, applied]
    exact inv.card (connected link)

theorem CardInv.post (inv : CardInv dialogue) (message : AgentToUi) :
    CardInv (dialogue.post message) := by
  unfold Dialogue.post
  split
  · exact inv.aside rfl rfl (fun link => link) (fun _ now => now)
  · exact inv

/-- What the Agent does with the messages of the GUI does not touch the GUI. -/
theorem receive_keeps (dialogue : Dialogue) (message : UiToAgent) (rest : List UiToAgent) :
    (Dialogue.receive { dialogue with toAgent := rest } message).gui = dialogue.gui ∧
      (Dialogue.receive { dialogue with toAgent := rest } message).applied = dialogue.applied ∧
      (Dialogue.receive { dialogue with toAgent := rest } message).connected =
        dialogue.connected ∧
      (Dialogue.receive { dialogue with toAgent := rest } message).sent = dialogue.sent ∧
      ∀ generation, (Dialogue.receive { dialogue with toAgent := rest } message).state.phase =
        .starting generation → dialogue.state.phase = .starting generation := by
  cases message with
  | requestIdleExit requestId generation =>
      unfold Dialogue.receive Dialogue.approve
      dsimp only
      split
      · rename_i state connection approved
        obtain ⟨-, -, -, rfl⟩ := ProcessState.approveIdleExit_ok approved
        refine ⟨rfl, rfl, rfl, rfl, ?_⟩
        rintro other ⟨⟩
      · exact ⟨rfl, rfl, rfl, rfl, fun _ now => now⟩
  | cancelIdleExit requestId generation =>
      exact ⟨rfl, rfl, rfl, rfl, fun _ => cancelIdleExit_starting⟩
  | _ => exact ⟨rfl, rfl, rfl, rfl, fun _ now => now⟩

theorem post_sent (dialogue : Dialogue) (message : AgentToUi) :
    (dialogue.post message).applied = dialogue.applied ∧
      (dialogue.post message).sent =
        dialogue.sent ++ if dialogue.reaches then [message] else [] := by
  unfold Dialogue.post
  split
  · exact ⟨rfl, rfl⟩
  · exact ⟨rfl, (List.append_nil _).symm⟩

theorem serve_keeps {action : DialogueStep} (served : dialogue.serve action = some next) :
    next.gui = dialogue.gui ∧ next.applied = dialogue.applied ∧
      next.connected = dialogue.connected ∧ next.state = dialogue.state ∧
      next.sent.filter UiSession.isLookup = dialogue.sent.filter UiSession.isLookup := by
  have posted (serving : Option Serving) {message : AgentToUi}
      (plain : UiSession.isLookup message = false) :
      (Dialogue.post { dialogue with serving := serving } message).gui = dialogue.gui ∧
        (Dialogue.post { dialogue with serving := serving } message).applied =
          dialogue.applied ∧
        (Dialogue.post { dialogue with serving := serving } message).connected =
          dialogue.connected ∧
        (Dialogue.post { dialogue with serving := serving } message).state = dialogue.state ∧
        (Dialogue.post { dialogue with serving := serving } message).sent.filter
          UiSession.isLookup = dialogue.sent.filter UiSession.isLookup := by
    obtain ⟨gui, -, -, -, state, connected⟩ :=
      post_keeps { dialogue with serving := serving } message
    obtain ⟨applied, sent⟩ := post_sent { dialogue with serving := serving } message
    refine ⟨gui, applied, connected, state, ?_⟩
    rw [sent, List.filter_append]
    split <;> simp [plain]
  cases action with
  | readSnapshot main =>
      unfold Dialogue.serve at served
      dsimp only at served
      split at served
      · cases served
        exact ⟨rfl, rfl, rfl, rfl, rfl⟩
      · cases served
  | queueSnapshot =>
      unfold Dialogue.serve at served
      dsimp only at served
      split at served
      · cases served
        exact posted _ rfl
      · cases served
  | answer success message output =>
      unfold Dialogue.serve at served
      dsimp only at served
      split at served
      · simp only [Option.ite_none_left_eq_some, Option.some.injEq] at served
        obtain ⟨-, rfl⟩ := served
        exact posted _ rfl
      · cases served
        exact posted _ rfl
      · cases served
  | _ => cases served

theorem CardInv.serve (inv : CardInv dialogue) {action : DialogueStep}
    (served : dialogue.serve action = some next) : CardInv next := by
  obtain ⟨gui, applied, connected, state, -⟩ := serve_keeps served
  refine inv.aside gui applied ?_ ?_
  · rw [connected]
    exact fun link => link
  · rw [state]
    exact fun _ now => now

theorem CardInv.applyNext (inv : CardInv dialogue) (exit : ExitInv dialogue)
    (valid : ∀ message ∈ dialogue.sent, validMessage message = true)
    (connected : dialogue.connected = true) {done : Bool}
    (applied : dialogue.applyNext done = some next) : CardInv next := by
  have linked := exit.linked connected
  unfold Dialogue.applyNext at applied
  split at applied
  · cases applied
  · rename_i message rest queue
    have order : dialogue.gui.cache.lastSequence < dialogue.delivered + 3 := by
      rw [linked.sequence]
      omega
    have accepted : UiSession.isLookup message = true → validMessage message = true := by
      intro lookup
      apply valid
      rw [← linked.logged, queue]
      apply List.mem_filter.mpr
      refine ⟨List.mem_append_right _ (List.mem_cons_self ..), ?_⟩
      cases message with
      | idleExitApproved requestId generation => cases lookup
      | _ => rfl
    rw [if_neg (Nat.not_le.mpr order)] at applied
    cases applied
    refine ⟨?_, ?_⟩
    · intro generation starting
      obtain ⟨-, unready⟩ := exit.starting generation starting
      rw [unready.unconnected] at connected
      cases connected
    · intro _ active
      rw [Dialogue.moveGui_gui] at active ⊢
      change ∃ displaySessionId state,
        shownBy (dialogue.applied ++ [message]) = some (displaySessionId, state) ∧ _
      rw [shownBy_append]
      cases message with
      | beginLookup displaySessionId state =>
          obtain ⟨display, card⟩ := UiSession.apply_beginLookup order (accepted rfl) active
          exact ⟨displaySessionId, state, rfl, display, card⟩
      | updateLookup displaySessionId state =>
          obtain ⟨before, display, card⟩ :=
            UiSession.apply_updateLookup order (accepted rfl) active
          obtain ⟨shownId, shown, whole, held, content⟩ := inv.card connected before
          rw [display, card, whole, held]
          by_cases own : shownId = displaySessionId ∧ shown.queryId = state.queryId
          · obtain ⟨rfl, same⟩ := own
            refine ⟨shownId, state, ?_, ?_, ?_⟩
            · simp [showAfter, same]
            · rw [same]
            · rw [same, if_pos rfl]
          · refine ⟨shownId, shown, ?_, rfl, ?_⟩
            · simp only [showAfter, Option.any_some, Bool.and_eq_true, decide_eq_true_eq]
              rw [if_neg own]
            · rw [if_neg, content]
              intro equal
              simp only [Option.some.injEq, DisplaySession.mk.injEq] at equal
              exact own equal
      | _ =>
          obtain ⟨before, display, card⟩ := UiSession.apply_shown done rfl active
          rw [display, card]
          exact inv.card connected before

theorem CardInv.step (inv : CardInv dialogue) (exit : ExitInv dialogue)
    (valid : ∀ message ∈ dialogue.sent, validMessage message = true) {action : DialogueStep}
    (stepped : dialogue.step action = some next) : CardInv next := by
  unfold Dialogue.step at stepped
  cases action with
  | launch =>
      simp only [Option.ite_none_right_eq_some, Option.some.injEq] at stepped
      obtain ⟨-, rfl⟩ := stepped
      refine ⟨?_, ?_⟩
      · rintro generation - ⟨⟩
      · rintro - ⟨⟩
  | readStart main =>
      dsimp only at stepped
      split at stepped
      · cases stepped
        exact inv.aside rfl rfl (fun link => link) (fun _ now => now)
      · cases stepped
  | applyStart done =>
      dsimp only at stepped
      split at stepped
      · rename_i generation snapshot starting handshake
        cases stepped
        obtain ⟨-, unready⟩ := exit.starting generation starting
        refine ⟨?_, ?_⟩
        · intro other _ active
          rw [Dialogue.moveGui_gui] at active
          exact inv.starting generation starting (UiSession.apply_shown done rfl active).1
        · intro link
          rw [Dialogue.moveGui_connected, unready.unconnected] at link
          cases link
      · cases stepped
  | ready processId =>
      dsimp only at stepped
      split at stepped
      · rename_i handshake became
        cases stepped
        obtain ⟨starting, rfl⟩ := ProcessState.becomeReady_ok became
        refine ⟨?_, ?_⟩
        · rintro generation ⟨⟩
        · intro _ active
          exact absurd active (inv.starting _ starting)
      · cases stepped
  | lose kept =>
      simp only [Option.ite_none_right_eq_some, Option.some.injEq] at stepped
      obtain ⟨connected, rfl⟩ := stepped
      rw [(exit.linked connected).markDisconnected]
      refine inv.aside rfl rfl ?_ ?_
      · rintro ⟨⟩
      · rintro generation ⟨⟩
  | stopped =>
      cases stepped
      refine inv.aside rfl rfl ?_ ?_
      · rintro ⟨⟩
      · intro generation starting
        rcases markStopped_cases dialogue.state dialogue.gui.generation with fresh | ⟨kept, -⟩
        · change (dialogue.state.markStopped dialogue.gui.generation).phase = _ at starting
          rw [fresh] at starting
          cases starting
        · change (dialogue.state.markStopped dialogue.gui.generation).phase = _ at starting
          rw [kept] at starting
          exact starting
  | send message =>
      simp only [Option.ite_none_right_eq_some, Option.some.injEq] at stepped
      obtain ⟨-, rfl⟩ := stepped
      exact inv.post message
  | createPatch content =>
      cases stepped
      exact inv.aside rfl rfl (fun link => link) (fun _ now => now)
  | sendPatch patch =>
      simp only [Option.ite_none_right_eq_some, Option.some.injEq] at stepped
      obtain ⟨-, rfl⟩ := stepped
      have aside : CardInv { dialogue with held := dialogue.held.erase patch } :=
        inv.aside rfl rfl (fun link => link) (fun _ now => now)
      exact aside.post _
  | readMessage =>
      dsimp only at stepped
      split at stepped
      · rename_i message rest idle queue
        cases stepped
        obtain ⟨gui, applied, connected, -, starting⟩ := receive_keeps dialogue message rest
        refine inv.aside gui applied ?_ starting
        rw [connected]
        exact fun link => link
      · cases stepped
  | readSnapshot main => exact inv.serve stepped
  | queueSnapshot => exact inv.serve stepped
  | answer success message output => exact inv.serve stepped
  | apply done =>
      simp only [Bool.and_eq_true, Bool.not_eq_true', Option.ite_none_right_eq_some] at stepped
      obtain ⟨⟨connected, -⟩, applied⟩ := stepped
      exact inv.applyNext exit valid connected applied
  | event event =>
      simp only [Bool.and_eq_true, Bool.not_eq_true', Option.ite_none_right_eq_some,
        Option.some.injEq] at stepped
      obtain ⟨⟨connected, -⟩, rfl⟩ := stepped
      have shown := (UiSession.undisturbed_onEvent dialogue.gui event).shown
      refine ⟨?_, ?_⟩
      · intro generation starting active
        exact inv.starting generation starting (shown active).1
      · intro link active
        obtain ⟨before, display, card⟩ := shown active
        rw [Dialogue.moveGui_gui, display, card]
        exact inv.card link before

theorem CardInv.initial : CardInv Dialogue.initial := ⟨nofun, nofun⟩

/-- The lookups among the messages of the connection are those that were sent as such. -/
theorem step_lookups {action : DialogueStep}
    (plain : ∀ message, action = .send message → UiSession.isLookup message = false)
    (stepped : dialogue.step action = some next) :
    next.sent.filter UiSession.isLookup = dialogue.sent.filter UiSession.isLookup ∨
      next.sent = [] := by
  have posted {world : Dialogue} (same : world.sent = dialogue.sent) {message : AgentToUi}
      (other : UiSession.isLookup message = false) :
      (world.post message).sent.filter UiSession.isLookup =
        dialogue.sent.filter UiSession.isLookup := by
    rw [(post_sent world message).2, List.filter_append, same]
    split <;> simp [other]
  unfold Dialogue.step at stepped
  cases action with
  | launch =>
      simp only [Option.ite_none_right_eq_some, Option.some.injEq] at stepped
      obtain ⟨-, rfl⟩ := stepped
      exact .inr rfl
  | readStart main =>
      dsimp only at stepped
      split at stepped
      · cases stepped
        exact .inl rfl
      · cases stepped
  | applyStart done =>
      dsimp only at stepped
      split at stepped
      · cases stepped
        exact .inl rfl
      · cases stepped
  | ready processId =>
      dsimp only at stepped
      split at stepped
      · cases stepped
        exact .inl rfl
      · cases stepped
  | lose kept =>
      simp only [Option.ite_none_right_eq_some, Option.some.injEq] at stepped
      obtain ⟨-, rfl⟩ := stepped
      exact .inl rfl
  | stopped =>
      cases stepped
      exact .inl rfl
  | send message =>
      simp only [Option.ite_none_right_eq_some, Option.some.injEq] at stepped
      obtain ⟨-, rfl⟩ := stepped
      exact .inl (posted rfl (plain message rfl))
  | createPatch content =>
      cases stepped
      exact .inl rfl
  | sendPatch patch =>
      simp only [Option.ite_none_right_eq_some, Option.some.injEq] at stepped
      obtain ⟨-, rfl⟩ := stepped
      left
      unfold Dialogue.sendPatch
      apply posted
      · rfl
      · rfl
  | readMessage =>
      dsimp only at stepped
      split at stepped
      · rename_i message rest idle queue
        cases stepped
        rw [(receive_keeps dialogue message rest).2.2.2.1]
        exact .inl rfl
      · cases stepped
  | readSnapshot main => exact .inl (serve_keeps stepped).2.2.2.2
  | queueSnapshot => exact .inl (serve_keeps stepped).2.2.2.2
  | answer success message output => exact .inl (serve_keeps stepped).2.2.2.2
  | apply done =>
      simp only [Bool.and_eq_true, Bool.not_eq_true', Option.ite_none_right_eq_some] at stepped
      obtain ⟨-, applied⟩ := stepped
      unfold Dialogue.applyNext at applied
      split at applied
      · cases applied
      · cases applied
        exact .inl rfl
  | event event =>
      simp only [Bool.and_eq_true, Bool.not_eq_true', Option.ite_none_right_eq_some,
        Option.some.injEq] at stepped
      obtain ⟨-, rfl⟩ := stepped
      exact .inl rfl

end Card

namespace Sample

/-! Two looked-up words, for evaluating concrete runs. -/

export Lvos.Core.Sample (giftKey otherKey)

/-- SHA-256 of the identity bytes of the word "house". -/
def houseKey : ContentKey :=
  ⟨[0x39, 0x87, 0x1c, 0x7c, 0xe7, 0xc0, 0x5e, 0x90, 0xb1, 0xb8, 0x0a, 0xec, 0xfb, 0xa8, 0xc0,
    0xf8, 0xa1, 0x07, 0xeb, 0xc0, 0x2b, 0xe6, 0x6e, 0x18, 0x52, 0xc2, 0x27, 0x26, 0x71, 0x7e, 0x94,
    0x6f], rfl⟩

/-- The tables with the digest on the inputs the runs hash. -/
@[reducible] def twoWords : ContentTables :=
  asciiTables (fun bytes =>
    if bytes = Hex.utf8 "1\x00word\x00en\x00gift".toList then giftKey
    else if bytes = Hex.utf8 "1\x00word\x00en\x00house".toList then houseKey
    else otherKey)

/-- The GUI has started. -/
def started : List PopupStep :=
  [.dialogue .launch, .dialogue (.readStart emptyMain), .dialogue (.applyStart true),
    .dialogue (.ready 100)]

end Sample

end Lvos.System.Ui
