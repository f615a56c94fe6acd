import Lvos.Lib.Cause
import Mathlib.Data.List.Basic

set_option autoImplicit false

namespace Lvos.Desktop.Confirmation

/-- A finite confirmation request. `focusTarget` is 1 for the current device, 2 for the device
identity, 3 for a portable import. -/
structure ConfirmationRequest where
  title : String
  message : String
  primary : String
  focusTarget : Int
  deviceId : String
deriving DecidableEq

/-- What reached a receiver, and which one: the call of `confirm` that made the channel. -/
structure Sent where
  receiver : Nat
  accepted : Bool

/-- `State` without its visibility observer. The sender of a pending request is the number of the
call that holds the receiver. -/
structure State where
  epoch : Nat
  nextId : Int
  presented : Bool
  pending : Option (Int × Nat)

namespace State

def initial : State := ⟨0, 0, false, none⟩

def begin (state : State) (epoch : Nat) (sender : Nat) : Option (State × Int) :=
  if epoch ≠ state.epoch ∨ state.pending.isSome = true ∨ state.presented = true then none
  -- `checked_add` of an `i32`.
  else if state.nextId + 1 > 2147483647 then none
  else some ({ state with
    nextId := state.nextId + 1
    pending := some (state.nextId + 1, sender) }, state.nextId + 1)

def resolve (state : State) (id : Int) (accepted : Bool) : Option (State × Sent) :=
  match state.pending with
  | none => none
  | some (pending, sender) =>
      if pending = id then some ({ state with pending := none }, ⟨sender, accepted⟩) else none

def lastEpoch : Nat := 18446744073709551615

/-- `saturating_add` of a `u64`. -/
def invalidate (state : State) : State × Option Sent :=
  ({ state with epoch := min (state.epoch + 1) lastEpoch, pending := none },
    state.pending.map fun pending => ⟨pending.2, false⟩)

end State

/-- The properties of the management window that the broker reads and writes. `confirmation` is
the five texts and targets of the dialog, `modalPresented` is the dialog's own: it may outlast
`confirmationShown` while the dialog fades out. -/
structure MainWindow where
  visible : Bool
  confirmationId : Int
  confirmation : ConfirmationRequest
  confirmationShown : Bool
  modalPresented : Bool

def MainWindow.new : MainWindow := ⟨false, 0, ⟨"", "", "", 0, ""⟩, false, false⟩

/-- `confirmation-blocking`. -/
def MainWindow.blocking (main : MainWindow) : Bool :=
  main.confirmationShown || main.modalPresented

/-- The closures that the broker hands to the event loop. -/
inductive Task
  | present (id : Int) (request : ConfirmationRequest)
  | hide (id : Int)

inductive Phase
  | awaiting
  | returned (accepted : Bool)
  | dropped
deriving DecidableEq

/-- A call of `confirm` whose request began, with its receiver. -/
structure Call where
  epoch : Nat
  id : Int
  request : ConfirmationRequest
  answer : Option Bool
  phase : Phase

/-- The broker with the event loop of its window. Everything here runs on the loop's thread, so
between two awaits nothing else runs. `main` has no value once the window is gone. -/
structure ConfirmationBroker where
  state : State
  main : Option MainWindow
  looping : Bool
  tasks : List Task
  calls : List Call

namespace ConfirmationBroker

def install : ConfirmationBroker := ⟨.initial, some .new, true, [], []⟩

def invokeFromEventLoop (broker : ConfirmationBroker) (task : Task) : Option ConfirmationBroker :=
  if broker.looping then some { broker with tasks := broker.tasks ++ [task] } else none

/-- `let _ = invoke_from_event_loop(…)`. -/
def post (broker : ConfirmationBroker) (task : Task) : ConfirmationBroker :=
  (broker.invokeFromEventLoop task).getD broker

def send (broker : ConfirmationBroker) (sent : Sent) : ConfirmationBroker :=
  { broker with
    calls := broker.calls.modify sent.receiver fun call =>
      { call with answer := some sent.accepted } }

def withState (broker : ConfirmationBroker) (state : State) : ConfirmationBroker :=
  { broker with state := state }

def withMain (broker : ConfirmationBroker) (main : Option MainWindow) : ConfirmationBroker :=
  { broker with main := main }

def resolve (broker : ConfirmationBroker) (id : Int) (accepted : Bool) : ConfirmationBroker :=
  match broker.state.resolve id accepted with
  | none => broker
  | some (state, sent) => ((broker.withState state).send sent).post (.hide id)

def invalidate (broker : ConfirmationBroker) : ConfirmationBroker :=
  match broker.state.invalidate with
  | (state, none) => (broker.withState state).post (.hide broker.state.nextId)
  | (state, some sent) => ((broker.withState state).send sent).post (.hide broker.state.nextId)

def isCurrent (broker : ConfirmationBroker) (epoch : Nat) : Bool := broker.state.epoch = epoch

/-- `confirm` up to its await. -/
def confirm (broker : ConfirmationBroker) (epoch : Nat) (request : ConfirmationRequest) :
    ConfirmationBroker :=
  match broker.state.begin epoch broker.calls.length with
  | none => broker
  | some (state, id) =>
      let begun : ConfirmationBroker :=
        { broker with state, calls := broker.calls ++ [⟨epoch, id, request, none, .awaiting⟩] }
      match begun.invokeFromEventLoop (.present id request) with
      | none => begun.resolve id false
      | some posted => posted

def endCall (broker : ConfirmationBroker) (call : Nat) (phase : Phase) : ConfirmationBroker :=
  { broker with calls := broker.calls.modify call fun call => { call with phase := phase } }

/-- `confirm` from its await on, and the drop of its guard. -/
def finish (broker : ConfirmationBroker) (number : Nat) (call : Call) (answer : Bool) :
    ConfirmationBroker :=
  (broker.endCall number (.returned (answer && broker.isCurrent call.epoch))).resolve call.id false

/-- The future is dropped at its await. -/
def abandon (broker : ConfirmationBroker) (number : Nat) (call : Call) : ConfirmationBroker :=
  (broker.endCall number .dropped).resolve call.id false

def runTask (broker : ConfirmationBroker) : Task → ConfirmationBroker
  | .present id request =>
      if broker.state.pending.map Prod.fst = some id then
        match broker.main.filter MainWindow.visible with
        | none => broker.resolve id false
        | some main => broker.withMain (some { main with
            confirmationId := id
            confirmation := request
            confirmationShown := true })
      else broker
  | .hide id =>
      match broker.main with
      | none => broker
      | some main =>
          if main.confirmationId = id then
            broker.withMain (some { main with confirmationShown := false })
          else broker

end ConfirmationBroker

/-- `answered` is the dialog's `accepted` or `dismissed`, `cancelled` any of the window events that
invalidate, `fades` and `visible` what the toolkit does with the dialog and the window on its own,
`turn` the loop's next task. -/
inductive Action
  | confirm (epoch : Nat) (request : ConfirmationRequest)
  | finish (call : Nat)
  | abandon (call : Nat)
  | answered (accepted : Bool)
  | cancelled
  | visibilityChanged
  | fades (presented : Bool)
  | visible (visible : Bool)
  | destroyed
  | turn
  | quit
deriving DecidableEq

open ConfirmationBroker

def step (broker : ConfirmationBroker) : Action → Option ConfirmationBroker
  | .confirm epoch request => some (broker.confirm epoch request)
  | .finish number => do
      let call ← broker.calls[number]?
      let answer ← call.answer
      if call.phase = .awaiting then some (broker.finish number call answer) else none
  | .abandon number => do
      let call ← broker.calls[number]?
      if call.phase = .awaiting then some (broker.abandon number call) else none
  | .answered accepted => do
      let main ← broker.main
      some (broker.resolve main.confirmationId accepted)
  | .cancelled => some broker.invalidate
  | .visibilityChanged => do
      let main ← broker.main
      some (broker.withState { broker.state with presented := main.blocking })
  | .fades presented => do
      let main ← broker.main
      some (broker.withMain (some { main with modalPresented := presented }))
  | .visible visible => do
      let main ← broker.main
      some (broker.withMain (some { main with visible := visible }))
  | .destroyed => some (broker.invalidate.withMain none)
  | .turn =>
      match broker.tasks with
      | [] => none
      | task :: rest =>
          if broker.looping then some ({ broker with tasks := rest }.runTask task) else none
  | .quit => some { broker with looping := false }

/-! What the broker's operations do to the requests and the loop -/

/-- The pending call, if there is one, is answered, and the newest dialog is to be hidden. -/
def settle (broker : ConfirmationBroker) (epoch : Nat) (accepted : Bool) : ConfirmationBroker :=
  { broker with
    state := { broker.state with epoch := epoch, pending := none }
    calls := match broker.state.pending with
      | none => broker.calls
      | some (_, number) => broker.calls.modify number fun call =>
          { call with answer := some accepted }
    tasks := if broker.looping then broker.tasks ++ [.hide broker.state.nextId]
      else broker.tasks }

/-- The ids of the dialogs still to be presented. -/
def presents (tasks : List Task) : List Int :=
  tasks.filterMap fun
    | .present id _ => some id
    | .hide _ => none

/-- The request has begun, and its dialog is on its way. -/
def enter (broker : ConfirmationBroker) (request : ConfirmationRequest) : ConfirmationBroker :=
  { broker with
    state := { broker.state with
      nextId := broker.state.nextId + 1
      pending := some (broker.state.nextId + 1, broker.calls.length) }
    calls := broker.calls ++
      [⟨broker.state.epoch, broker.state.nextId + 1, request, none, .awaiting⟩]
    tasks := if broker.looping then
        broker.tasks ++ [.present (broker.state.nextId + 1) request]
      else broker.tasks }

variable {broker next : ConfirmationBroker}

theorem post_eq (broker : ConfirmationBroker) (task : Task) :
    broker.post task = { broker with
      tasks := if broker.looping then broker.tasks ++ [task] else broker.tasks } := by
  unfold post invokeFromEventLoop
  split
  · rfl
  · rfl

theorem resolve_free {id : Int} (free : ∀ number, broker.state.pending ≠ some (id, number))
    (accepted : Bool) : broker.resolve id accepted = broker := by
  unfold resolve State.resolve
  cases pending : broker.state.pending with
  | none => rfl
  | some held =>
      obtain ⟨current, number⟩ := held
      have apart : current ≠ id := by
        rintro rfl
        exact free number pending
      simp only [apart, if_false]

theorem resolve_held {id : Int} {number : Nat}
    (pending : broker.state.pending = some (id, number)) (accepted : Bool) :
    broker.resolve id accepted =
      ((broker.withState { broker.state with pending := none }).send ⟨number, accepted⟩).post
        (.hide id) := by
  unfold resolve State.resolve
  simp only [pending, if_true]

theorem settle_held {id : Int} {number : Nat}
    (pending : broker.state.pending = some (id, number)) (accepted : Bool)
    (newest : id = broker.state.nextId) :
    broker.resolve id accepted = settle broker broker.state.epoch accepted := by
  rw [resolve_held pending, post_eq]
  simp only [settle, send, withState, pending, newest]

theorem invalidate_eq (broker : ConfirmationBroker) :
    broker.invalidate =
      settle broker (min (broker.state.epoch + 1) State.lastEpoch) false := by
  unfold invalidate State.invalidate
  cases pending : broker.state.pending with
  | none =>
      simp only [Option.map_none]
      rw [post_eq]
      simp only [settle, withState, pending]
      rfl
  | some held =>
      simp only [Option.map_some]
      rw [post_eq]
      simp only [settle, send, withState, pending]
      rfl

theorem begin_some {state after : State} {epoch sender : Nat} {id : Int}
    (began : state.begin epoch sender = some (after, id)) :
    epoch = state.epoch ∧ state.pending = none ∧ state.presented = false ∧
      id = state.nextId + 1 ∧
      after = { state with nextId := state.nextId + 1, pending := some (id, sender) } := by
  unfold State.begin at began
  split at began
  · cases began
  · rename_i free
    simp only [not_or, ne_eq, not_not, Bool.not_eq_true, Option.isSome_eq_false_iff,
      Option.isNone_iff_eq_none] at free
    split at began
    · cases began
    · cases began
      exact ⟨free.1, free.2.1, free.2.2, rfl, rfl⟩

theorem confirm_cases (broker : ConfirmationBroker) (epoch : Nat)
    (request : ConfirmationRequest) :
    broker.confirm epoch request = broker ∨
      (epoch = broker.state.epoch ∧ broker.state.pending = none ∧
        (broker.confirm epoch request = enter broker request ∨
          broker.confirm epoch request =
            (enter broker request).resolve (broker.state.nextId + 1) false)) := by
  unfold confirm
  cases began : broker.state.begin epoch broker.calls.length with
  | none => exact .inl rfl
  | some begun =>
      obtain ⟨after, id⟩ := begun
      obtain ⟨same, free, _, rfl, rfl⟩ := begin_some began
      refine .inr ⟨same, free, ?_⟩
      subst same
      cases looping : broker.looping with
      | true =>
          left
          simp [invokeFromEventLoop, enter, looping]
      | false =>
          right
          simp [invokeFromEventLoop, enter, looping]

/-! Between the broker, the loop and the window -/

/-- What holds between two steps. Ids count the calls, so the pending one is the newest; the
dialogs still to be presented are newer than the one the window has; and while the loop runs, a
dialog that is shown is pending or about to be hidden, before any other is presented. -/
structure Sound (broker : ConfirmationBroker) : Prop where
  counted : broker.state.nextId = broker.calls.length
  numbered : ∀ {number : Nat} {call : Call}, broker.calls[number]? = some call →
    call.id = number + 1
  awaited : ∀ {id number}, broker.state.pending = some (id, number) →
    id = broker.state.nextId ∧ ∃ call, broker.calls[number]? = some call ∧ call.id = id ∧
      call.phase = .awaiting ∧ call.answer = none ∧ call.epoch = broker.state.epoch
  pending : ∀ {number : Nat} {call : Call}, broker.calls[number]? = some call →
    call.phase = .awaiting → call.answer = none → broker.state.pending = some (call.id, number)
  ascending : (presents broker.tasks).Pairwise (· < ·)
  begun : ∀ {id request}, .present id request ∈ broker.tasks → id ≤ broker.state.nextId ∧
    ∀ {number : Nat} {call : Call}, broker.calls[number]? = some call → call.id = id →
      call.request = request
  newer : ∀ {id request main}, .present id request ∈ broker.tasks → broker.main = some main →
    main.confirmationId < id
  older : ∀ {main}, broker.main = some main → main.confirmationId ≤ broker.state.nextId
  texts : ∀ {main} {number : Nat} {call : Call}, broker.main = some main →
    broker.calls[number]? = some call → call.id = main.confirmationId →
      call.request = main.confirmation
  upright : ∀ {main number}, broker.main = some main →
    broker.state.pending = some (main.confirmationId, number) → main.confirmationShown = true
  answered : ∀ {id number}, .hide id ∈ broker.tasks → broker.state.pending ≠ some (id, number)
  hidden : ∀ {id}, .hide id ∈ broker.tasks → id ≤ broker.state.nextId
  owned : ∀ {main}, broker.looping = true → broker.main = some main →
    main.confirmationShown = true →
    (∃ number, broker.state.pending = some (main.confirmationId, number)) ∨
      .hide main.confirmationId ∈ broker.tasks
  cleared : ∀ {before id request after number main},
    broker.tasks = before ++ .present id request :: after →
    broker.state.pending = some (id, number) → broker.main = some main →
    main.confirmationShown = true → .hide main.confirmationId ∈ before

/-- While the loop runs, the dialog of the pending request is there or on its way. -/
def Coming (broker : ConfirmationBroker) : Prop :=
  ∀ {id number}, broker.looping = true → broker.state.pending = some (id, number) →
    (∃ main, broker.main = some main ∧ main.confirmationId = id) ∨
      ∃ request, .present id request ∈ broker.tasks

theorem sound_install : Sound install where
  counted := rfl
  numbered := by simp [install]
  awaited := by simp [install, State.initial]
  pending := by simp [install]
  ascending := by simp [install, presents]
  begun := by simp [install]
  newer := by simp [install]
  older := by simp [install, MainWindow.new, State.initial]
  texts := by simp [install]
  upright := by simp [install, State.initial]
  answered := by simp [install]
  hidden := by simp [install]
  owned := by simp [install, MainWindow.new]
  cleared := by simp [install]

theorem presents_hide (tasks : List Task) (id : Int) :
    presents (tasks ++ [.hide id]) = presents tasks := by
  simp [presents]

theorem presents_present (tasks : List Task) (id : Int) (request : ConfirmationRequest) :
    presents (tasks ++ [.present id request]) = presents tasks ++ [id] := by
  simp [presents]

theorem mem_presents {tasks : List Task} {id : Int} :
    id ∈ presents tasks ↔ ∃ request, .present id request ∈ tasks := by
  unfold presents
  rw [List.mem_filterMap]
  constructor
  · rintro ⟨task, among, found⟩
    cases task with
    | present current request =>
        cases found
        exact ⟨request, among⟩
    | hide current => cases found
  · rintro ⟨request, among⟩
    exact ⟨.present id request, among, rfl⟩

/-- A call after `settle`: only the answer of the pending one has changed. -/
theorem settle_call {epoch : Nat} {accepted : Bool} {number : Nat} {call : Call}
    (found : (settle broker epoch accepted).calls[number]? = some call) :
    ∃ former, broker.calls[number]? = some former ∧
      ((call = former ∧ ∀ id, broker.state.pending ≠ some (id, number)) ∨
        (call = { former with answer := some accepted } ∧
          ∃ id, broker.state.pending = some (id, number))) := by
  unfold settle at found
  cases pending : broker.state.pending with
  | none =>
      simp only [pending] at found
      exact ⟨call, found, .inl ⟨rfl, by simp⟩⟩
  | some held =>
      obtain ⟨current, holder⟩ := held
      simp only [pending, List.getElem?_modify] at found
      cases before : broker.calls[number]? with
      | none => simp [before] at found
      | some former =>
          by_cases same : holder = number
          · simp only [before, same, if_true, Option.map_eq_map, Option.map_some,
              Option.some.injEq] at found
            exact ⟨former, rfl, .inr ⟨found.symm, current, by rw [same]⟩⟩
          · simp only [before, same, if_false, Option.map_eq_map, Option.map_some,
              Option.some.injEq] at found
            refine ⟨former, rfl, .inl ⟨found.symm, fun other clash => same ?_⟩⟩
            cases clash
            rfl

theorem settle_header {epoch : Nat} {accepted : Bool} {number : Nat} {call : Call}
    (found : (settle broker epoch accepted).calls[number]? = some call) :
    ∃ former, broker.calls[number]? = some former ∧ former.id = call.id ∧
      former.request = call.request := by
  obtain ⟨former, before, ⟨rfl, _⟩ | ⟨rfl, _⟩⟩ := settle_call found
  · exact ⟨call, before, rfl, rfl⟩
  · exact ⟨former, before, rfl, rfl⟩

theorem settle_length (broker : ConfirmationBroker) (epoch : Nat) (accepted : Bool) :
    (settle broker epoch accepted).calls.length = broker.calls.length := by
  unfold settle
  cases broker.state.pending with
  | none => rfl
  | some held => exact List.length_modify _ _ _

theorem mem_settle_tasks {epoch : Nat} {accepted : Bool} {task : Task}
    (among : task ∈ (settle broker epoch accepted).tasks) :
    task ∈ broker.tasks ∨ task = .hide broker.state.nextId := by
  unfold settle at among
  simp only at among
  split at among
  · simpa using among
  · exact .inl among

theorem Sound.settle (sound : Sound broker) (epoch : Nat) (accepted : Bool) :
    Sound (settle broker epoch accepted) where
  counted := by
    rw [settle_length]
    exact sound.counted
  numbered := by
    intro number call found
    obtain ⟨former, before, same, _⟩ := settle_header found
    rw [← same]
    exact sound.numbered before
  awaited := by
    intro id number pending
    cases pending
  pending := by
    intro number call found waits unanswered
    obtain ⟨former, before, ⟨rfl, free⟩ | ⟨rfl, _⟩⟩ := settle_call found
    · exact absurd (sound.pending before waits unanswered) (free _)
    · cases unanswered
  ascending := by
    change (presents (if broker.looping then broker.tasks ++ [.hide broker.state.nextId]
      else broker.tasks)).Pairwise (· < ·)
    split
    · rw [presents_hide]
      exact sound.ascending
    · exact sound.ascending
  begun := by
    intro id request among
    rcases mem_settle_tasks among with former | same
    · refine ⟨(sound.begun former).1, fun found same => ?_⟩
      obtain ⟨former', before, kept, texts⟩ := settle_header found
      rw [← texts]
      exact (sound.begun former).2 before (kept.trans same)
    · cases same
  newer := by
    intro id request main among there
    rcases mem_settle_tasks among with former | same
    · exact sound.newer former there
    · cases same
  older := sound.older
  texts := by
    intro main number call there found same
    obtain ⟨former, before, kept, texts⟩ := settle_header found
    rw [← texts]
    exact sound.texts there before (kept.trans same)
  upright := by
    intro main number _ pending
    cases pending
  answered := by
    intro id number _ pending
    cases pending
  hidden := by
    intro id among
    rcases mem_settle_tasks among with former | same
    · exact sound.hidden former
    · cases same
      exact Int.le_refl _
  owned := by
    intro main looping there shown
    have running : broker.looping = true := looping
    have tasks : (Confirmation.settle broker epoch accepted).tasks =
        broker.tasks ++ [.hide broker.state.nextId] := if_pos running
    rw [tasks]
    rcases sound.owned running there shown with ⟨number, pending⟩ | among
    · rw [(sound.awaited pending).1]
      exact .inr (List.mem_append_right _ (List.mem_singleton_self _))
    · exact .inr (List.mem_append_left _ among)
  cleared := by
    intro before id request after number main _ pending
    cases pending

theorem mem_enter_tasks {request : ConfirmationRequest} {task : Task}
    (among : task ∈ (enter broker request).tasks) :
    task ∈ broker.tasks ∨ task = .present (broker.state.nextId + 1) request := by
  unfold enter at among
  simp only at among
  split at among
  · simpa using among
  · exact .inl among

theorem enter_call {request : ConfirmationRequest} {number : Nat} {call : Call}
    (found : (enter broker request).calls[number]? = some call) :
    broker.calls[number]? = some call ∨ (number = broker.calls.length ∧
      call = ⟨broker.state.epoch, broker.state.nextId + 1, request, none, .awaiting⟩) := by
  rcases Nat.lt_trichotomy number broker.calls.length with less | rfl | more
  · left
    rwa [enter, List.getElem?_append_left less] at found
  · right
    simp only [enter, List.getElem?_concat_length, Option.some.injEq] at found
    exact ⟨rfl, found.symm⟩
  · have none : (enter broker request).calls[number]? = none :=
      List.getElem?_eq_none (by simp [enter]; omega)
    rw [none] at found
    cases found

/-- The new request is the newest, and its dialog comes after all that the loop has to do. -/
theorem Sound.enter (sound : Sound broker) (request : ConfirmationRequest)
    (free : broker.state.pending = none) : Sound (enter broker request) where
  counted := by
    have counted := sound.counted
    simp only [Confirmation.enter, List.length_append, List.length_singleton]
    omega
  numbered := by
    intro number call found
    rcases enter_call found with before | ⟨rfl, rfl⟩
    · exact sound.numbered before
    · change broker.state.nextId + 1 = _
      rw [sound.counted]
  awaited := by
    intro id number pending
    cases pending
    exact ⟨rfl, _, List.getElem?_concat_length, rfl, rfl, rfl, rfl⟩
  pending := by
    intro number call found waits unanswered
    rcases enter_call found with before | ⟨rfl, rfl⟩
    · have held := sound.pending before waits unanswered
      rw [free] at held
      cases held
    · rfl
  ascending := by
    change (presents (if broker.looping then
      broker.tasks ++ [.present (broker.state.nextId + 1) request]
      else broker.tasks)).Pairwise (· < ·)
    split
    · rw [presents_present, List.pairwise_append]
      refine ⟨sound.ascending, List.pairwise_singleton _ _, fun id among last one => ?_⟩
      obtain ⟨text, queued⟩ := mem_presents.mp among
      have := (sound.begun queued).1
      rw [List.mem_singleton.mp one]
      omega
    · exact sound.ascending
  begun := by
    intro id text among
    change id ≤ broker.state.nextId + 1 ∧ _
    rcases mem_enter_tasks among with former | same
    · have old := (sound.begun former).1
      refine ⟨by omega, fun found same => ?_⟩
      rcases enter_call found with before | ⟨rfl, rfl⟩
      · exact (sound.begun former).2 before same
      · change broker.state.nextId + 1 = id at same
        omega
    · cases same
      refine ⟨Int.le_refl _, fun found same => ?_⟩
      rcases enter_call found with before | ⟨rfl, rfl⟩
      · have known := sound.numbered before
        have counted := sound.counted
        have within := (List.getElem?_eq_some_iff.mp before).1
        omega
      · rfl
  newer := by
    intro id text main among there
    rcases mem_enter_tasks among with former | same
    · exact sound.newer former there
    · cases same
      have := sound.older there
      omega
  older := by
    intro main there
    have := sound.older there
    change main.confirmationId ≤ broker.state.nextId + 1
    omega
  texts := by
    intro main number call there found same
    rcases enter_call found with before | ⟨rfl, rfl⟩
    · exact sound.texts there before same
    · have := sound.older there
      change broker.state.nextId + 1 = main.confirmationId at same
      omega
  upright := by
    intro main number there pending
    have old := sound.older there
    have same : broker.state.nextId + 1 = main.confirmationId :=
      congrArg Prod.fst (Option.some.inj pending)
    omega
  answered := by
    intro id number among pending
    have same : broker.state.nextId + 1 = id := congrArg Prod.fst (Option.some.inj pending)
    rcases mem_enter_tasks among with former | clash
    · have := sound.hidden former
      omega
    · cases clash
  hidden := by
    intro id among
    change id ≤ broker.state.nextId + 1
    rcases mem_enter_tasks among with former | clash
    · have := sound.hidden former
      omega
    · cases clash
  owned := by
    intro main looping there shown
    have running : broker.looping = true := looping
    have tasks : (Confirmation.enter broker request).tasks =
        broker.tasks ++ [.present (broker.state.nextId + 1) request] := if_pos running
    rcases sound.owned running there shown with ⟨number, pending⟩ | among
    · rw [free] at pending
      cases pending
    · rw [tasks]
      exact .inr (List.mem_append_left _ among)
  cleared := by
    intro before id text after number main split pending there shown
    have same : broker.state.nextId + 1 = id := congrArg Prod.fst (Option.some.inj pending)
    cases looping : broker.looping with
    | false =>
        have tasks : (Confirmation.enter broker request).tasks = broker.tasks :=
          if_neg (by simp [looping])
        rw [tasks] at split
        have := (sound.begun (by rw [split]; exact List.mem_append_right _ List.mem_cons_self)).1
        omega
    | true =>
        have tasks : (Confirmation.enter broker request).tasks =
            broker.tasks ++ [.present (broker.state.nextId + 1) request] := if_pos looping
        rw [tasks] at split
        rcases List.eq_nil_or_concat' after with rfl | ⟨rest, last, rfl⟩
        · have whole := (List.append_inj' split rfl).1
          rcases sound.owned looping there shown with ⟨holder, held⟩ | among
          · rw [free] at held
            cases held
          · rwa [← whole]
        · -- No former task presents the new id.
          have former : broker.tasks = before ++ .present id text :: rest := by
            rw [← List.cons_append, ← List.append_assoc] at split
            exact (List.append_inj' split rfl).1
          have := (sound.begun
            (by rw [former]; exact List.mem_append_right _ List.mem_cons_self)).1
          omega

theorem coming_settle (broker : ConfirmationBroker) (epoch : Nat) (accepted : Bool) :
    Coming (settle broker epoch accepted) := by
  intro id number _ pending
  cases pending

theorem coming_enter (broker : ConfirmationBroker) (request : ConfirmationRequest) :
    Coming (enter broker request) := by
  intro id number looping pending
  have running : broker.looping = true := looping
  have tasks : (enter broker request).tasks =
      broker.tasks ++ [.present (broker.state.nextId + 1) request] := if_pos running
  cases pending
  rw [tasks]
  exact .inr ⟨request, List.mem_append_right _ (List.mem_singleton_self _)⟩

theorem Sound.resolve_cases (sound : Sound broker) (id : Int) (accepted : Bool) :
    ((∀ number, broker.state.pending ≠ some (id, number)) ∧
      broker.resolve id accepted = broker) ∨
    (∃ number, broker.state.pending = some (id, number) ∧
      broker.resolve id accepted =
        Confirmation.settle broker broker.state.epoch accepted) := by
  by_cases held : ∃ number, broker.state.pending = some (id, number)
  · obtain ⟨number, pending⟩ := held
    exact .inr ⟨number, pending, settle_held pending accepted (sound.awaited pending).1⟩
  · have free : ∀ number, broker.state.pending ≠ some (id, number) := not_exists.mp held
    exact .inl ⟨free, resolve_free free accepted⟩

theorem Sound.resolve (sound : Sound broker) (id : Int) (accepted : Bool) :
    Sound (broker.resolve id accepted) := by
  rcases sound.resolve_cases id accepted with ⟨_, same⟩ | ⟨_, _, settles⟩
  · rwa [same]
  · rw [settles]
    exact sound.settle _ _

theorem Sound.invalidate (sound : Sound broker) : Sound broker.invalidate := by
  rw [invalidate_eq]
  exact sound.settle _ _

/-- A call after one ends. -/
theorem endCall_call {number index : Nat} {phase : Phase} {call : Call}
    (found : (broker.endCall number phase).calls[index]? = some call) :
    ∃ former, broker.calls[index]? = some former ∧
      ((index = number ∧ call = { former with phase := phase }) ∨
        (index ≠ number ∧ call = former)) := by
  simp only [ConfirmationBroker.endCall, List.getElem?_modify] at found
  cases before : broker.calls[index]? with
  | none => simp [before] at found
  | some former =>
      by_cases same : number = index
      · simp only [before, same, if_true, Option.map_eq_map, Option.map_some,
          Option.some.injEq] at found
        exact ⟨former, rfl, .inl ⟨same.symm, found.symm⟩⟩
      · simp only [before, same, if_false, Option.map_eq_map, Option.map_some,
          Option.some.injEq] at found
        exact ⟨former, rfl, .inr ⟨Ne.symm same, found.symm⟩⟩

/-- A call that is not pending ends. -/
theorem Sound.endCall (sound : Sound broker) {number : Nat} (phase : Phase)
    (ended : phase ≠ .awaiting) (free : ∀ id, broker.state.pending ≠ some (id, number)) :
    Sound (broker.endCall number phase) := by
  have headed : ∀ {index : Nat} {call : Call},
      (broker.endCall number phase).calls[index]? = some call →
      ∃ former, broker.calls[index]? = some former ∧ former.id = call.id ∧
        former.request = call.request := by
    intro index call found
    obtain ⟨former, before, ⟨_, rfl⟩ | ⟨_, rfl⟩⟩ := endCall_call found
    · exact ⟨former, before, rfl, rfl⟩
    · exact ⟨call, before, rfl, rfl⟩
  refine { sound with
    counted := ?_, numbered := ?_, awaited := ?_, pending := ?_, begun := ?_, texts := ?_ }
  · change broker.state.nextId = ((broker.calls.modify _ _).length : Int)
    rw [List.length_modify]
    exact sound.counted
  · intro index call found
    obtain ⟨former, before, same, _⟩ := headed found
    rw [← same]
    exact sound.numbered before
  · intro id index pending
    obtain ⟨newest, call, found, holds⟩ := sound.awaited pending
    have other : number ≠ index := by
      rintro rfl
      exact free id pending
    refine ⟨newest, call, ?_, holds⟩
    simp only [ConfirmationBroker.endCall, List.getElem?_modify, other, if_false, found]
    rfl
  · intro index call found waits unanswered
    obtain ⟨former, before, ⟨_, rfl⟩ | ⟨_, rfl⟩⟩ := endCall_call found
    · exact absurd waits ended
    · exact sound.pending before waits unanswered
  · intro id request among
    refine ⟨(sound.begun among).1, fun found same => ?_⟩
    obtain ⟨former, before, kept, texts⟩ := headed found
    rw [← texts]
    exact (sound.begun among).2 before (kept.trans same)
  · intro main index call there found same
    obtain ⟨former, before, kept, texts⟩ := headed found
    rw [← texts]
    exact sound.texts there before (kept.trans same)

theorem endCall_resolve (broker : ConfirmationBroker) (number : Nat) (phase : Phase) (id : Int)
    (accepted : Bool) :
    (broker.endCall number phase).resolve id accepted =
      (broker.resolve id accepted).endCall number phase := by
  by_cases held : ∃ holder, broker.state.pending = some (id, holder)
  · obtain ⟨holder, pending⟩ := held
    have also : (broker.endCall number phase).state.pending = some (id, holder) := pending
    rw [resolve_held pending, resolve_held also, post_eq, post_eq]
    simp only [send, withState, ConfirmationBroker.endCall]
    congr 1
    apply List.ext_getElem?
    intro index
    simp only [List.getElem?_modify]
    cases broker.calls[index]? with
    | none => rfl
    | some call =>
        by_cases own : number = index <;> by_cases other : holder = index <;> simp [own, other]
  · have free : ∀ holder, broker.state.pending ≠ some (id, holder) := not_exists.mp held
    have also : ∀ holder, (broker.endCall number phase).state.pending ≠ some (id, holder) := free
    rw [resolve_free free, resolve_free also]

theorem Sound.ended (sound : Sound broker) {number : Nat} {call : Call} (phase : Phase)
    (ended : phase ≠ .awaiting) (found : broker.calls[number]? = some call) :
    Sound ((broker.endCall number phase).resolve call.id false) := by
  rw [endCall_resolve]
  apply (sound.resolve call.id false).endCall phase ended
  rcases sound.resolve_cases call.id false with ⟨free, same⟩ | ⟨_, _, settles⟩
  · rw [same]
    intro id pending
    obtain ⟨_, held, there, own, _⟩ := sound.awaited pending
    rw [found] at there
    cases there
    subst own
    exact free number pending
  · rw [settles]
    intro id pending
    cases pending

/-- What the window may do with the dialog it has. -/
theorem Sound.redraw (sound : Sound broker) {main after : MainWindow}
    (there : broker.main = some main) (same : after.confirmationId = main.confirmationId)
    (texts : after.confirmation = main.confirmation)
    (shown : after.confirmationShown = true → main.confirmationShown = true)
    (upright : ∀ number, broker.state.pending = some (main.confirmationId, number) →
      after.confirmationShown = true) : Sound (broker.withMain (some after)) where
  counted := sound.counted
  numbered := sound.numbered
  awaited := sound.awaited
  pending := sound.pending
  ascending := sound.ascending
  begun := sound.begun
  newer := by
    intro id request _ among held
    cases held
    rw [same]
    exact sound.newer among there
  older := by
    intro _ held
    cases held
    rw [same]
    exact sound.older there
  texts := by
    intro _ number call held found own
    cases held
    rw [same] at own
    rw [texts]
    exact sound.texts there found own
  upright := by
    intro _ number held pending
    cases held
    rw [same] at pending
    exact upright number pending
  answered := sound.answered
  hidden := sound.hidden
  owned := by
    intro _ looping held lit
    cases held
    rw [same]
    exact sound.owned looping there (shown lit)
  cleared := by
    intro before id request later number _ split pending held lit
    cases held
    rw [same]
    exact sound.cleared split pending there (shown lit)

variable {task : Task} {rest : List Task}

/-- The loop takes a task that leaves no dialog shown without its own hiding. -/
theorem Sound.take (sound : Sound broker) (tasks : broker.tasks = task :: rest)
    (spent : ∀ main, broker.main = some main → main.confirmationShown = true →
      task ≠ .hide main.confirmationId) : Sound { broker with tasks := rest } where
  counted := sound.counted
  numbered := sound.numbered
  awaited := sound.awaited
  pending := sound.pending
  ascending := by
    have former := sound.ascending
    rw [tasks] at former
    exact former.sublist ((List.sublist_cons_self task rest).filterMap _)
  begun := by
    intro id request among
    exact sound.begun (tasks ▸ List.mem_cons_of_mem task among)
  newer := by
    intro id request main among
    exact sound.newer (tasks ▸ List.mem_cons_of_mem task among)
  older := sound.older
  texts := sound.texts
  upright := sound.upright
  answered := by
    intro id number among
    exact sound.answered (tasks ▸ List.mem_cons_of_mem task among)
  hidden := by
    intro id among
    exact sound.hidden (tasks ▸ List.mem_cons_of_mem task among)
  owned := by
    intro main looping there shown
    rcases sound.owned looping there shown with held | among
    · exact .inl held
    · rw [tasks] at among
      rcases List.mem_cons.mp among with same | among
      · exact absurd same.symm (spent main there shown)
      · exact .inr among
  cleared := by
    intro before id request later number main split pending there shown
    have whole : broker.tasks = (task :: before) ++ .present id request :: later := by
      rw [tasks, List.cons_append]
      exact congrArg (task :: ·) split
    rcases List.mem_cons.mp (sound.cleared whole pending there shown) with same | among
    · exact absurd same.symm (spent main there shown)
    · exact among

theorem Sound.present (sound : Sound broker) {id : Int} {request : ConfirmationRequest}
    {main : MainWindow} (tasks : broker.tasks = .present id request :: rest)
    (held : broker.state.pending.map Prod.fst = some id) :
    Sound (({ broker with tasks := rest } : ConfirmationBroker).withMain (some { main with
      confirmationId := id
      confirmation := request
      confirmationShown := true })) := by
  have taken : Sound { broker with tasks := rest } := sound.take tasks (by simp)
  have first : .present id request ∈ broker.tasks := by
    rw [tasks]
    exact List.mem_cons_self
  have ahead : ∀ {later text}, .present later text ∈ rest → id < later := by
    intro later text among
    have ordered := sound.ascending
    rw [tasks] at ordered
    exact (List.pairwise_cons.mp ordered).1 later (mem_presents.mpr ⟨text, among⟩)
  refine { taken with
    newer := ?_, older := ?_, texts := ?_, upright := ?_, owned := ?_, cleared := ?_ }
  · intro later text _ among now
    cases now
    exact ahead among
  · intro _ now
    cases now
    exact (sound.begun first).1
  · intro _ number call now found own
    cases now
    exact (sound.begun first).2 found own
  · intro _ number now _
    cases now
    rfl
  · intro _ _ now _
    cases now
    obtain ⟨⟨current, number⟩, pending, same⟩ := Option.map_eq_some_iff.mp held
    subst same
    exact .inl ⟨number, pending⟩
  · intro before later text after number _ split pending _ _
    have same : later = id := by
      have := congrArg (Option.map Prod.fst) pending
      exact Option.some.inj (this.symm.trans held)
    have among : .present later text ∈ rest := by
      rw [show rest = _ from split]
      exact List.mem_append_right _ List.mem_cons_self
    have := ahead among
    omega

theorem Sound.turn (sound : Sound broker) (coming : Coming broker)
    (tasks : broker.tasks = task :: rest) (looping : broker.looping = true) :
    Sound (({ broker with tasks := rest } : ConfirmationBroker).runTask task) ∧
      Coming (({ broker with tasks := rest } : ConfirmationBroker).runTask task) := by
  have elsewhere : ∀ {id number}, broker.state.pending = some (id, number) →
      (∀ request, task ≠ .present id request) →
      (∃ main, broker.main = some main ∧ main.confirmationId = id) ∨
        ∃ request, .present id request ∈ rest := by
    intro id number pending apart
    rcases coming looping pending with there | ⟨request, among⟩
    · exact .inl there
    · rw [tasks] at among
      rcases List.mem_cons.mp among with same | among
      · exact absurd same.symm (apart request)
      · exact .inr ⟨request, among⟩
  cases task with
  | present id request =>
      have taken : Sound { broker with tasks := rest } := sound.take tasks (by simp)
      by_cases held : broker.state.pending.map Prod.fst = some id
      · simp only [runTask, held, if_true]
        cases there : broker.main.filter MainWindow.visible with
        | none =>
            refine ⟨taken.resolve id false, ?_⟩
            obtain ⟨⟨current, number⟩, pending, rfl⟩ := Option.map_eq_some_iff.mp held
            rcases taken.resolve_cases current false with ⟨free, _⟩ | ⟨_, _, settles⟩
            · exact absurd pending (free number)
            · simp only [settles]
              exact coming_settle _ _ _
        | some main =>
            refine ⟨sound.present tasks held, ?_⟩
            intro current number _ pending
            have := congrArg (Option.map Prod.fst) pending
            exact .inl ⟨_, rfl, Option.some.inj (held.symm.trans this)⟩
      · simp only [runTask, held, if_false]
        refine ⟨taken, ?_⟩
        intro current number _ pending
        apply elsewhere pending
        rintro text ⟨⟩
        apply held
        rw [show broker.state.pending = _ from pending]
        rfl
  | hide id =>
      have onward : Coming { broker with tasks := rest } := by
        intro current number _ pending
        exact elsewhere pending (by simp)
      rcases Option.eq_none_or_eq_some broker.main with there | ⟨main, there⟩
      · have ran : ({ broker with tasks := rest } : ConfirmationBroker).runTask (.hide id) =
            { broker with tasks := rest } := by
          simp only [runTask, there]
        rw [ran]
        exact ⟨sound.take tasks (by simp [there]), onward⟩
      · by_cases same : main.confirmationId = id
        · subst same
          have ran : ({ broker with tasks := rest } : ConfirmationBroker).runTask
              (.hide main.confirmationId) =
              ({ broker with tasks := rest } : ConfirmationBroker).withMain
                (some { main with confirmationShown := false }) := by
            simp only [runTask, there, if_true]
          have hide : .hide main.confirmationId ∈ broker.tasks := by
            rw [tasks]
            exact List.mem_cons_self
          have redrawn : Sound (broker.withMain
              (some { main with confirmationShown := false })) :=
            sound.redraw there rfl rfl (by simp) fun number pending =>
              absurd pending (sound.answered hide)
          rw [ran]
          constructor
          · refine redrawn.take tasks ?_
            intro _ now shown
            cases now
            cases shown
          · intro current number running pending
            rcases onward running pending with ⟨_, now, own⟩ | among
            · cases there.symm.trans now
              exact .inl ⟨_, rfl, own⟩
            · exact .inr among
        · have ran : ({ broker with tasks := rest } : ConfirmationBroker).runTask (.hide id) =
              { broker with tasks := rest } := by
            simp only [runTask, there, same, if_false]
          rw [ran]
          refine ⟨sound.take tasks ?_, onward⟩
          rintro _ now _ ⟨⟩
          cases there.symm.trans now
          exact same rfl

theorem Sound.coming_resolve (sound : Sound broker) (coming : Coming broker) (id : Int)
    (accepted : Bool) : Coming (broker.resolve id accepted) := by
  rcases sound.resolve_cases id accepted with ⟨_, same⟩ | ⟨_, _, settles⟩
  · rwa [same]
  · rw [settles]
    exact coming_settle _ _ _

theorem Sound.coming_ended (sound : Sound broker) (coming : Coming broker) (number : Nat)
    (phase : Phase) (id : Int) (accepted : Bool) :
    Coming ((broker.endCall number phase).resolve id accepted) := by
  rw [endCall_resolve]
  exact sound.coming_resolve coming id accepted

theorem finish_some {number : Nat} (taken : step broker (.finish number) = some next) :
    ∃ call answer, broker.calls[number]? = some call ∧ call.answer = some answer ∧
      call.phase = .awaiting ∧ next = broker.finish number call answer := by
  simp only [step, Option.bind_eq_bind, Option.bind_eq_some_iff] at taken
  obtain ⟨call, found, answer, answered, taken⟩ := taken
  split at taken
  · rename_i waits
    cases taken
    exact ⟨call, answer, found, answered, waits, rfl⟩
  · cases taken

theorem abandon_some {number : Nat} (taken : step broker (.abandon number) = some next) :
    ∃ call, broker.calls[number]? = some call ∧ call.phase = .awaiting ∧
      next = broker.abandon number call := by
  simp only [step, Option.bind_eq_bind, Option.bind_eq_some_iff] at taken
  obtain ⟨call, found, taken⟩ := taken
  split at taken
  · rename_i waits
    cases taken
    exact ⟨call, found, waits, rfl⟩
  · cases taken

theorem turn_some (taken : step broker .turn = some next) :
    ∃ task rest, broker.tasks = task :: rest ∧ broker.looping = true ∧
      next = ({ broker with tasks := rest } : ConfirmationBroker).runTask task := by
  unfold step at taken
  cases tasks : broker.tasks with
  | nil => simp [tasks] at taken
  | cons task rest =>
      simp only [tasks] at taken
      split at taken
      · rename_i looping
        cases taken
        exact ⟨task, rest, rfl, looping, rfl⟩
      · cases taken

theorem Sound.step (sound : Sound broker) (coming : Coming broker) {action : Action}
    (taken : step broker action = some next) : Sound next ∧ Coming next := by
  cases action with
  | confirm epoch request =>
      cases taken
      rcases confirm_cases broker epoch request with same | ⟨_, free, begun | refused⟩
      · rw [same]
        exact ⟨sound, coming⟩
      · rw [begun]
        exact ⟨sound.enter request free, coming_enter broker request⟩
      · rw [refused]
        have entered := sound.enter request free
        exact ⟨entered.resolve _ _, entered.coming_resolve (coming_enter broker request) _ _⟩
  | finish number =>
      obtain ⟨call, answer, found, _, _, rfl⟩ := finish_some taken
      exact ⟨sound.ended _ (by simp) found, sound.coming_ended coming _ _ _ _⟩
  | abandon number =>
      obtain ⟨call, found, _, rfl⟩ := abandon_some taken
      exact ⟨sound.ended _ (by simp) found, sound.coming_ended coming _ _ _ _⟩
  | answered accepted =>
      obtain ⟨main, _, here⟩ := Option.bind_eq_some_iff.mp taken
      cases here
      exact ⟨sound.resolve _ _, sound.coming_resolve coming _ _⟩
  | cancelled =>
      cases taken
      rw [invalidate_eq]
      exact ⟨sound.settle _ _, coming_settle _ _ _⟩
  | visibilityChanged =>
      obtain ⟨main, _, here⟩ := Option.bind_eq_some_iff.mp taken
      cases here
      exact ⟨{ sound with }, coming⟩
  | fades presented =>
      obtain ⟨main, there, here⟩ := Option.bind_eq_some_iff.mp taken
      cases here
      refine ⟨sound.redraw there rfl rfl id fun number => sound.upright there, ?_⟩
      intro current number looping pending
      rcases coming looping pending with ⟨_, now, own⟩ | among
      · cases there.symm.trans now
        exact .inl ⟨_, rfl, own⟩
      · exact .inr among
  | visible visible =>
      obtain ⟨main, there, here⟩ := Option.bind_eq_some_iff.mp taken
      cases here
      refine ⟨sound.redraw there rfl rfl id fun number => sound.upright there, ?_⟩
      intro current number looping pending
      rcases coming looping pending with ⟨_, now, own⟩ | among
      · cases there.symm.trans now
        exact .inl ⟨_, rfl, own⟩
      · exact .inr among
  | destroyed =>
      cases taken
      rw [invalidate_eq]
      have settled := sound.settle (min (broker.state.epoch + 1) State.lastEpoch) false
      refine ⟨{ settled with
        newer := ?_, older := ?_, texts := ?_, upright := ?_, owned := ?_, cleared := ?_ }, ?_⟩
      · intro _ _ _ _ now
        cases now
      · intro _ now
        cases now
      · intro _ _ _ now
        cases now
      · intro _ _ now
        cases now
      · intro _ _ now
        cases now
      · intro _ _ _ _ _ _ _ _ now
        cases now
      · intro _ _ _ pending
        cases pending
  | turn =>
      obtain ⟨task, rest, tasks, looping, rfl⟩ := turn_some taken
      exact sound.turn coming tasks looping
  | quit =>
      cases taken
      refine ⟨{ sound with owned := ?_ }, ?_⟩
      · intro _ running
        cases running
      · intro _ _ running
        cases running

theorem resolve_main (broker : ConfirmationBroker) (id : Int) (accepted : Bool) :
    (broker.resolve id accepted).main = broker.main := by
  by_cases held : ∃ number, broker.state.pending = some (id, number)
  · obtain ⟨number, pending⟩ := held
    rw [resolve_held pending, post_eq]
    rfl
  · rw [resolve_free (not_exists.mp held)]

/-- What a shown dialog says stays until it is hidden. -/
theorem Sound.undisturbed (sound : Sound broker) {main after : MainWindow} {action : Action}
    (there : broker.main = some main) (shown : main.confirmationShown = true)
    (taken : Confirmation.step broker action = some next) (now : next.main = some after) :
    after.confirmationId = main.confirmationId ∧ after.confirmation = main.confirmation := by
  have same : next.main = broker.main →
      after.confirmationId = main.confirmationId ∧ after.confirmation = main.confirmation := by
    intro kept
    cases now.symm.trans (kept.trans there)
    exact ⟨rfl, rfl⟩
  cases action with
  | confirm epoch request =>
      cases taken
      apply same
      rcases confirm_cases broker epoch request with unchanged | ⟨_, _, begun | refused⟩
      · rw [unchanged]
      · rw [begun]
        rfl
      · rw [refused, resolve_main]
        rfl
  | finish number =>
      obtain ⟨call, answer, _, _, _, rfl⟩ := finish_some taken
      exact same (resolve_main _ _ _)
  | abandon number =>
      obtain ⟨call, _, _, rfl⟩ := abandon_some taken
      exact same (resolve_main _ _ _)
  | answered accepted =>
      obtain ⟨main, _, here⟩ := Option.bind_eq_some_iff.mp taken
      cases here
      exact same (resolve_main _ _ _)
  | cancelled =>
      cases taken
      exact same (by rw [invalidate_eq]; rfl)
  | visibilityChanged =>
      obtain ⟨_, _, here⟩ := Option.bind_eq_some_iff.mp taken
      cases here
      exact same rfl
  | fades presented =>
      obtain ⟨_, held, here⟩ := Option.bind_eq_some_iff.mp taken
      cases here
      cases there.symm.trans held
      cases now
      exact ⟨rfl, rfl⟩
  | visible visible =>
      obtain ⟨_, held, here⟩ := Option.bind_eq_some_iff.mp taken
      cases here
      cases there.symm.trans held
      cases now
      exact ⟨rfl, rfl⟩
  | destroyed =>
      cases taken
      cases now
  | quit =>
      cases taken
      exact same rfl
  | turn =>
      obtain ⟨task, rest, tasks, looping, rfl⟩ := turn_some taken
      cases task with
      | present id request =>
          by_cases held : broker.state.pending.map Prod.fst = some id
          · -- The dialog would have had to be hidden first.
            obtain ⟨⟨current, number⟩, pending, rfl⟩ := Option.map_eq_some_iff.mp held
            have first : .hide main.confirmationId ∈ ([] : List Task) :=
              sound.cleared tasks pending there shown
            cases first
          · apply same
            simp only [runTask, held, if_false]
      | hide id =>
          simp only [runTask, there] at now
          split at now
          · cases now
            exact ⟨rfl, rfl⟩
          · cases now
            exact ⟨rfl, rfl⟩

theorem sound_run {actions : List Action}
    (reached : Transition.run Confirmation.step install actions = some broker) :
    Sound broker ∧ Coming broker :=
  @Transition.run_keeps _ _ _ (fun broker => Sound broker ∧ Coming broker)
    (fun _ _ _ here taken => here.1.step here.2 taken) _ _ _
    ⟨sound_install, fun _ pending => by cases pending⟩ reached

/-- The call waits for an answer that has not come. -/
def Awaits (broker : ConfirmationBroker) (number : Nat) (call : Call) : Prop :=
  broker.calls[number]? = some call ∧ call.phase = .awaiting ∧ call.answer = none

/-- The dialog on the screen is the one that a call waits for. While it is shown no step changes
what it says; and once the loop has done its tasks, every call that waits has its dialog shown,
and no other dialog is. -/
theorem shown_iff_awaited {actions : List Action}
    (reached : Transition.run Confirmation.step install actions = some broker) :
    (∀ main after action, broker.main = some main → main.confirmationShown = true →
      Confirmation.step broker action = some next → next.main = some after →
        after.confirmationId = main.confirmationId ∧ after.confirmation = main.confirmation) ∧
    (broker.looping = true → broker.tasks = [] →
      (∀ number call, Awaits broker number call → ∃ main, broker.main = some main ∧
        main.confirmationShown = true ∧ main.confirmationId = call.id ∧
        main.confirmation = call.request) ∧
      (∀ main, broker.main = some main → main.confirmationShown = true →
        ∃ number call, Awaits broker number call ∧ call.id = main.confirmationId)) := by
  obtain ⟨sound, coming⟩ := sound_run reached
  refine ⟨?_, fun looping done => ⟨?_, ?_⟩⟩
  · intro main after action there shown taken now
    exact sound.undisturbed there shown taken now
  · rintro number call ⟨found, waits, unanswered⟩
    have held := sound.pending found waits unanswered
    rcases coming looping held with ⟨main, there, own⟩ | ⟨_, among⟩
    · refine ⟨main, there, sound.upright there (own ▸ held), own, ?_⟩
      exact (sound.texts there found own.symm).symm
    · rw [done] at among
      cases among
  · intro main there shown
    rcases sound.owned looping there shown with ⟨number, held⟩ | among
    · obtain ⟨_, call, found, own, waits, unanswered, _⟩ := sound.awaited held
      exact ⟨number, call, ⟨found, waits, unanswered⟩, own⟩
    · rw [done] at among
      cases among

/-! What a call returns -/

/-- Where a call comes from: its answer was there or `accepts` says how it came, and likewise what
it returned, which it does once. -/
def Traced (broker : ConfirmationBroker) (number : Nat) (call : Call) (accepts returns : Prop) :
    Prop :=
  ∃ former, broker.calls[number]? = some former ∧ former.id = call.id ∧
    former.request = call.request ∧ former.epoch = call.epoch ∧
    (call.answer = some true → former.answer = some true ∨ accepts) ∧
    (call.phase = .returned true → former.phase = .returned true ∨ returns) ∧
    (former.phase = .returned true → call.phase = .returned true)

theorem Traced.same {number : Nat} {call : Call} {accepts returns : Prop}
    (found : broker.calls[number]? = some call) : Traced broker number call accepts returns :=
  ⟨call, found, rfl, rfl, rfl, .inl, .inl, id⟩

theorem Traced.trans {middle : ConfirmationBroker} {number : Nat} {accepts returns : Prop}
    {call : Call} (last : Traced middle number call accepts returns)
    (first : ∀ former, middle.calls[number]? = some former →
      Traced broker number former accepts returns) :
    Traced broker number call accepts returns := by
  obtain ⟨former, found, id, request, epoch, answer, phase, kept⟩ := last
  obtain ⟨origin, there, id', request', epoch', answer', phase', kept'⟩ := first former found
  refine ⟨origin, there, id'.trans id, request'.trans request, epoch'.trans epoch, ?_, ?_,
    fun returned => kept (kept' returned)⟩
  · intro accepted
    exact (answer accepted).elim answer' .inr
  · intro returned
    exact (phase returned).elim phase' .inr

theorem traced_settle {epoch : Nat} {accepted : Bool} {number : Nat} {call : Call}
    {accepts : Prop} (returns : Prop)
    (accounts : accepted = true → ∀ id, broker.state.pending = some (id, number) → accepts)
    (found : (settle broker epoch accepted).calls[number]? = some call) :
    Traced broker number call accepts returns := by
  obtain ⟨former, before, ⟨rfl, _⟩ | ⟨rfl, id, pending⟩⟩ := settle_call found
  · exact .same before
  · refine ⟨former, before, rfl, rfl, rfl, fun accepted => .inr ?_, .inl, fun kept => kept⟩
    exact accounts (Option.some.inj accepted) id pending

theorem Sound.traced_resolve (sound : Sound broker) {id : Int} {accepted : Bool} {number : Nat}
    {call : Call} {accepts : Prop} (returns : Prop)
    (accounts : accepted = true → broker.state.pending = some (id, number) → accepts)
    (found : (broker.resolve id accepted).calls[number]? = some call) :
    Traced broker number call accepts returns := by
  rcases sound.resolve_cases id accepted with ⟨_, same⟩ | ⟨holder, held, settles⟩
  · rw [same] at found
    exact .same found
  · rw [settles] at found
    refine traced_settle returns (fun accepted current pending => ?_) found
    cases held.symm.trans pending
    exact accounts accepted held

theorem traced_endCall {number index : Nat} {phase : Phase} {call : Call} (accepts : Prop)
    {returns : Prop}
    (unended : ∀ former, broker.calls[number]? = some former → former.phase ≠ .returned true)
    (accounts : phase = .returned true → index = number → returns)
    (found : (broker.endCall number phase).calls[index]? = some call) :
    Traced broker index call accepts returns := by
  obtain ⟨former, before, ⟨same, rfl⟩ | ⟨_, rfl⟩⟩ := endCall_call found
  · refine ⟨former, before, rfl, rfl, rfl, .inl, fun returned => .inr (accounts returned same),
      fun kept => absurd kept (unended former ?_)⟩
    rwa [← same]
  · exact .same before

/-- An open call stays open when a request is resolved. -/
theorem Sound.resolve_open (sound : Sound broker) {number : Nat} {call : Call} {id : Int}
    {accepted : Bool} (found : broker.calls[number]? = some call) (waits : call.phase = .awaiting) :
    ∀ former, (broker.resolve id accepted).calls[number]? = some former →
      former.phase ≠ .returned true := by
  intro former there returned
  obtain ⟨_, before, _, _, _, _, phase, _⟩ :=
    @Sound.traced_resolve _ sound _ _ _ _ True False (fun _ _ => trivial) there
  cases found.symm.trans before
  rcases phase returned with clash | clash
  · cases waits.symm.trans clash
  · exact clash

/-- What a step can do to a call: answer it through the dialog that has its id, or return. -/
theorem Sound.step_call (sound : Sound broker) {action : Action} {number : Nat} {call : Call}
    (taken : Confirmation.step broker action = some next)
    (found : next.calls[number]? = some call) :
    Traced broker number call
      (action = .answered true ∧ ∃ main, broker.main = some main ∧
        broker.state.pending = some (main.confirmationId, number))
      (action = .finish number ∧ ∃ former, broker.calls[number]? = some former ∧
        former.answer = some true ∧ former.epoch = broker.state.epoch) ∨
    (action = .confirm call.epoch call.request ∧ broker.calls[number]? = none ∧
      call.answer ≠ some true ∧ call.phase ≠ .returned true) := by
  cases action with
  | confirm epoch request =>
      cases taken
      rcases confirm_cases broker epoch request with same | ⟨rfl, free, begun | refused⟩
      · rw [same] at found
        exact .inl (.same found)
      · rw [begun] at found
        rcases enter_call found with before | ⟨rfl, rfl⟩
        · exact .inl (.same before)
        · exact .inr ⟨rfl, by simp, by simp, by simp⟩
      · rw [refused] at found
        have entered := sound.enter request free
        obtain ⟨former, before, same, text, epoch, answer, phase, kept⟩ :=
          @Sound.traced_resolve _ entered _ _ _ _ False False (by simp) found
        rcases enter_call before with old | ⟨rfl, rfl⟩
        · exact .inl ⟨former, old, same, text, epoch, fun yes => (answer yes).imp_right False.elim,
            fun yes => (phase yes).imp_right False.elim, kept⟩
        · refine .inr ⟨?_, by simp, fun yes => ?_, fun yes => ?_⟩
          · rw [← epoch, ← text]
          · simpa using answer yes
          · simpa using phase yes
  | finish index =>
      obtain ⟨ended, answer, there, answered, waits, rfl⟩ := finish_some taken
      left
      unfold finish at found
      rw [endCall_resolve] at found
      refine (traced_endCall _ (sound.resolve_open there waits) ?_ found).trans
        fun former => sound.traced_resolve _ (by simp)
      rintro returned rfl
      simp only [Phase.returned.injEq, Bool.and_eq_true, isCurrent, decide_eq_true_eq] at returned
      exact ⟨rfl, ended, there, answered.trans (congrArg some returned.1), returned.2.symm⟩
  | abandon index =>
      obtain ⟨ended, there, waits, rfl⟩ := abandon_some taken
      left
      unfold abandon at found
      rw [endCall_resolve] at found
      exact (traced_endCall _ (sound.resolve_open there waits) (by simp) found).trans
        fun former => sound.traced_resolve _ (by simp)
  | answered accepted =>
      obtain ⟨main, there, here⟩ := Option.bind_eq_some_iff.mp taken
      cases here
      left
      refine sound.traced_resolve _ ?_ found
      rintro rfl pending
      exact ⟨rfl, main, there, pending⟩
  | cancelled =>
      cases taken
      rw [invalidate_eq] at found
      exact .inl (traced_settle _ (by simp) found)
  | visibilityChanged =>
      obtain ⟨_, _, here⟩ := Option.bind_eq_some_iff.mp taken
      cases here
      exact .inl (.same found)
  | fades presented =>
      obtain ⟨_, _, here⟩ := Option.bind_eq_some_iff.mp taken
      cases here
      exact .inl (.same found)
  | visible visible =>
      obtain ⟨_, _, here⟩ := Option.bind_eq_some_iff.mp taken
      cases here
      exact .inl (.same found)
  | destroyed =>
      cases taken
      rw [invalidate_eq] at found
      change (Confirmation.settle broker (min (broker.state.epoch + 1) State.lastEpoch)
        false).calls[number]? = some call at found
      exact .inl (traced_settle _ (by simp) found)
  | turn =>
      obtain ⟨task, rest, tasks, _, rfl⟩ := turn_some taken
      left
      cases task with
      | present id request =>
          have later : Sound { broker with tasks := rest } := sound.take tasks (by simp)
          simp only [runTask] at found
          split at found
          · split at found
            · exact later.traced_resolve _ (by simp) found
            · exact .same found
          · exact .same found
      | hide id =>
          simp only [runTask] at found
          split at found
          · exact .same found
          · split at found
            · exact .same found
            · exact .same found
  | quit =>
      cases taken
      exact .inl (.same found)

theorem resolve_length (broker : ConfirmationBroker) (id : Int) (accepted : Bool) :
    (broker.resolve id accepted).calls.length = broker.calls.length := by
  by_cases held : ∃ number, broker.state.pending = some (id, number)
  · obtain ⟨number, pending⟩ := held
    rw [resolve_held pending, post_eq]
    exact List.length_modify _ _ _
  · rw [resolve_free (not_exists.mp held)]

theorem endCall_length (broker : ConfirmationBroker) (number : Nat) (phase : Phase) :
    (broker.endCall number phase).calls.length = broker.calls.length :=
  List.length_modify _ _ _

theorem enter_length (broker : ConfirmationBroker) (request : ConfirmationRequest) :
    (enter broker request).calls.length = broker.calls.length + 1 := by
  simp only [enter, List.length_append, List.length_singleton]

theorem runTask_length (broker : ConfirmationBroker) (task : Task) :
    (broker.runTask task).calls.length = broker.calls.length := by
  cases task with
  | present id request =>
      simp only [runTask]
      split
      · split
        · exact resolve_length _ _ _
        · rfl
      · rfl
  | hide id =>
      simp only [runTask]
      split
      · rfl
      · split
        · rfl
        · rfl

/-- A step begins one call at the most, and no step but `confirm` begins one. -/
theorem step_length {action : Action} (taken : step broker action = some next) :
    next.calls.length = broker.calls.length ∨
      (next.calls.length = broker.calls.length + 1 ∧ ∃ epoch request,
        action = .confirm epoch request) := by
  cases action with
  | confirm epoch request =>
      cases taken
      rcases confirm_cases broker epoch request with same | ⟨_, _, begun | refused⟩
      · rw [same]
        exact .inl rfl
      · rw [begun]
        exact .inr ⟨enter_length _ _, _, _, rfl⟩
      · rw [refused, resolve_length]
        exact .inr ⟨enter_length _ _, _, _, rfl⟩
  | finish number =>
      obtain ⟨call, answer, _, _, _, rfl⟩ := finish_some taken
      exact .inl ((resolve_length _ _ _).trans (endCall_length _ _ _))
  | abandon number =>
      obtain ⟨call, _, _, rfl⟩ := abandon_some taken
      exact .inl ((resolve_length _ _ _).trans (endCall_length _ _ _))
  | answered accepted =>
      obtain ⟨main, _, here⟩ := Option.bind_eq_some_iff.mp taken
      cases here
      exact .inl (resolve_length _ _ _)
  | cancelled =>
      cases taken
      rw [invalidate_eq]
      exact .inl (settle_length _ _ _)
  | visibilityChanged =>
      obtain ⟨_, _, here⟩ := Option.bind_eq_some_iff.mp taken
      cases here
      exact .inl rfl
  | fades presented =>
      obtain ⟨_, _, here⟩ := Option.bind_eq_some_iff.mp taken
      cases here
      exact .inl rfl
  | visible visible =>
      obtain ⟨_, _, here⟩ := Option.bind_eq_some_iff.mp taken
      cases here
      exact .inl rfl
  | destroyed =>
      cases taken
      rw [invalidate_eq]
      exact .inl (settle_length broker (min (broker.state.epoch + 1) State.lastEpoch) false)
  | turn =>
      obtain ⟨task, rest, _, _, rfl⟩ := turn_some taken
      exact .inl (runTask_length _ _)
  | quit =>
      cases taken
      exact .inl rfl

/-- A call stays what it is through a step, and a returned one has returned for good. -/
theorem Sound.step_kept (sound : Sound broker) {action : Action} {number : Nat} {call : Call}
    (taken : Confirmation.step broker action = some next)
    (found : broker.calls[number]? = some call) :
    ∃ now, next.calls[number]? = some now ∧ now.request = call.request ∧
      (call.phase = .returned true → now.phase = .returned true) := by
  have within := (List.getElem?_eq_some_iff.mp found).1
  have longer : number < next.calls.length := by
    rcases step_length taken with same | ⟨more, _⟩ <;> omega
  have there := List.getElem?_eq_getElem longer
  rcases sound.step_call taken there with
    ⟨former, before, _, request, _, _, _, kept⟩ | ⟨_, clash, _⟩
  · cases found.symm.trans before
    exact ⟨_, there, request.symm, kept⟩
  · rw [found] at clash
    cases clash

/-- The steps that cancel whatever is pending. -/
def Action.Cancels (action : Action) : Prop := action = .cancelled ∨ action = .destroyed

theorem cancels_effect {action : Action} (cancels : action.Cancels)
    (taken : step broker action = some next) :
    next.state.epoch = min (broker.state.epoch + 1) State.lastEpoch ∧
      next.state.pending = none := by
  rcases cancels with rfl | rfl
  · cases taken
    rw [invalidate_eq]
    exact ⟨rfl, rfl⟩
  · cases taken
    rw [invalidate_eq]
    exact ⟨rfl, rfl⟩

theorem resolve_epoch (broker : ConfirmationBroker) (id : Int) (accepted : Bool) :
    (broker.resolve id accepted).state.epoch = broker.state.epoch := by
  by_cases held : ∃ number, broker.state.pending = some (id, number)
  · obtain ⟨number, pending⟩ := held
    rw [resolve_held pending, post_eq]
    rfl
  · rw [resolve_free (not_exists.mp held)]

theorem resolve_pending {id : Int} {accepted : Bool} {held : Int × Nat}
    (pending : (broker.resolve id accepted).state.pending = some held) :
    broker.state.pending = some held := by
  by_cases resolved : ∃ number, broker.state.pending = some (id, number)
  · obtain ⟨number, before⟩ := resolved
    rw [resolve_held before, post_eq] at pending
    cases pending
  · rwa [resolve_free (not_exists.mp resolved)] at pending

/-- The epoch moves with a cancellation only, and only a beginning request becomes pending. -/
theorem step_state {action : Action} (taken : step broker action = some next) :
    (¬ action.Cancels → next.state.epoch = broker.state.epoch) ∧
    (∀ held, next.state.pending = some held → broker.state.pending = some held ∨
      held.2 = broker.calls.length) := by
  cases action with
  | confirm epoch request =>
      cases taken
      rcases confirm_cases broker epoch request with same | ⟨_, _, begun | refused⟩
      · rw [same]
        exact ⟨fun _ => rfl, fun _ => .inl⟩
      · rw [begun]
        refine ⟨fun _ => rfl, fun held pending => .inr ?_⟩
        cases pending
        rfl
      · rw [refused, resolve_epoch]
        refine ⟨fun _ => rfl, fun held pending => .inr ?_⟩
        cases resolve_pending pending
        rfl
  | finish number =>
      obtain ⟨call, answer, _, _, _, rfl⟩ := finish_some taken
      refine ⟨fun _ => resolve_epoch _ _ _, fun _ pending => .inl ?_⟩
      exact @resolve_pending (broker.endCall number _) _ _ _ pending
  | abandon number =>
      obtain ⟨call, _, _, rfl⟩ := abandon_some taken
      refine ⟨fun _ => resolve_epoch _ _ _, fun _ pending => .inl ?_⟩
      exact @resolve_pending (broker.endCall number _) _ _ _ pending
  | answered accepted =>
      obtain ⟨main, _, here⟩ := Option.bind_eq_some_iff.mp taken
      cases here
      exact ⟨fun _ => resolve_epoch _ _ _, fun _ pending => .inl (resolve_pending pending)⟩
  | cancelled =>
      refine ⟨fun mild => absurd (.inl rfl) mild, fun held pending => ?_⟩
      rw [(cancels_effect (.inl rfl) taken).2] at pending
      cases pending
  | visibilityChanged =>
      obtain ⟨_, _, here⟩ := Option.bind_eq_some_iff.mp taken
      cases here
      exact ⟨fun _ => rfl, fun _ => .inl⟩
  | fades presented =>
      obtain ⟨_, _, here⟩ := Option.bind_eq_some_iff.mp taken
      cases here
      exact ⟨fun _ => rfl, fun _ => .inl⟩
  | visible visible =>
      obtain ⟨_, _, here⟩ := Option.bind_eq_some_iff.mp taken
      cases here
      exact ⟨fun _ => rfl, fun _ => .inl⟩
  | destroyed =>
      refine ⟨fun mild => absurd (.inr rfl) mild, fun held pending => ?_⟩
      rw [(cancels_effect (.inr rfl) taken).2] at pending
      cases pending
  | turn =>
      obtain ⟨task, rest, _, _, rfl⟩ := turn_some taken
      cases task with
      | present id request =>
          simp only [runTask]
          split
          · split
            · refine ⟨fun _ => resolve_epoch _ _ _, fun _ pending => .inl ?_⟩
              exact @resolve_pending { broker with tasks := rest } _ _ _ pending
            · exact ⟨fun _ => rfl, fun _ => .inl⟩
          · exact ⟨fun _ => rfl, fun _ => .inl⟩
      | hide id =>
          simp only [runTask]
          split
          · exact ⟨fun _ => rfl, fun _ => .inl⟩
          · split
            · exact ⟨fun _ => rfl, fun _ => .inl⟩
            · exact ⟨fun _ => rfl, fun _ => .inl⟩
  | quit =>
      cases taken
      exact ⟨fun _ => rfl, fun _ => .inl⟩

theorem epoch_run {epoch : Nat} (bounded : epoch ≤ State.lastEpoch) {actions : List Action}
    (reached : Transition.run step broker actions = some next)
    (past : epoch ≤ broker.state.epoch) : epoch ≤ next.state.epoch := by
  refine @Transition.run_keeps _ _ _ (fun broker => epoch ≤ broker.state.epoch) ?_ _ _ _ past
    reached
  intro state action after here taken
  by_cases cancels : action.Cancels
  · rw [(cancels_effect cancels taken).1]
    omega
  · rw [(step_state taken).1 cancels]
    exact here

/-- An epoch that is not the last and is still the same has seen no cancellation. -/
theorem epoch_unmoved {epoch : Nat} (bounded : epoch < State.lastEpoch) {actions : List Action}
    (reached : Transition.run step broker actions = some next)
    (past : epoch ≤ broker.state.epoch) (still : next.state.epoch = epoch) :
    ∀ action ∈ actions, ¬ action.Cancels := by
  intro action among cancels
  obtain ⟨before, after, rfl⟩ := List.append_of_mem among
  rw [Transition.run_append, Option.bind_eq_some_iff] at reached
  obtain ⟨middle, there, onward⟩ := reached
  cases taken : step middle action with
  | none => simp [Transition.run, taken] at onward
  | some later =>
      rw [Transition.run_cons taken] at onward
      have first := epoch_run (Nat.le_of_lt bounded) there past
      have moved : epoch + 1 ≤ later.state.epoch := by
        rw [(cancels_effect cancels taken).1]
        omega
      have := epoch_run bounded onward moved
      omega

/-- The broker has a call with the texts, id and epoch of `call` of which `holds` is true. -/
def Has (number : Nat) (call : Call) (holds : Call → Prop) (broker : ConfirmationBroker) : Prop :=
  ∃ now, broker.calls[number]? = some now ∧ now.id = call.id ∧ now.request = call.request ∧
    now.epoch = call.epoch ∧ holds now

theorem not_has_install (number : Nat) (call : Call) (holds : Call → Prop) :
    ¬ Has number call holds install := by
  rintro ⟨now, found, _⟩
  simp [install] at found

/-- The actions of a call that the user saw and accepted: its request began; its dialog was the
one shown, with its id and its texts, when the user chose the primary button; and nothing
cancelled it before the choice nor, short of the last epoch, before it returned. -/
def AcceptedAsShown (actions : List Action) (number : Nat) (call : Call) : Prop :=
  ∃ opening waiting between after offered main,
    actions = opening ++ Action.confirm call.epoch call.request ::
      (waiting ++ Action.answered true :: (between ++ Action.finish number :: after)) ∧
    Transition.run step install (opening ++ Action.confirm call.epoch call.request :: waiting) =
      some offered ∧
    offered.main = some main ∧ main.confirmationShown = true ∧
    main.confirmationId = call.id ∧ main.confirmation = call.request ∧
    offered.state.pending = some (call.id, number) ∧ offered.state.epoch = call.epoch ∧
    (∀ action ∈ waiting, ¬ action.Cancels) ∧
    (call.epoch < State.lastEpoch → ∀ action ∈ between, ¬ action.Cancels)

/-- `confirm` returns true only for what the user has seen and accepted. -/
theorem accepted_as_shown {actions : List Action} {number : Nat} {call : Call}
    (reached : Transition.run step install actions = some broker)
    (found : broker.calls[number]? = some call) (returned : call.phase = .returned true) :
    AcceptedAsShown actions number call := by
  -- The step that returned.
  obtain ⟨before, finishing, action, returning, after, rfl, last, unreturned, nowReturned, _⟩ :=
    Transition.run_cause (not_has_install number call (·.phase = .returned true)) reached
      ⟨call, found, rfl, rfl, rfl, returned⟩
  obtain ⟨ended, there, id, request, epoch, phase⟩ := nowReturned
  have settled := (sound_run last.reached).1
  have finished : action = .finish number ∧ Has number call (·.answer = some true) finishing ∧
      finishing.state.epoch = call.epoch := by
    rcases settled.step_call last.taken there with
      ⟨former, held, id', request', epoch', _, phases, _⟩ | ⟨_, _, _, clash⟩
    · rcases phases phase with already | ⟨finish, same, again, answer, current⟩
      · exact absurd ⟨former, held, id'.trans id, request'.trans request, epoch'.trans epoch,
          already⟩ unreturned
      · cases held.symm.trans again
        exact ⟨finish, ⟨former, held, id'.trans id, request'.trans request, epoch'.trans epoch,
          answer⟩, current.symm.trans (epoch'.trans epoch)⟩
    · exact absurd phase clash
  obtain ⟨rfl, answered, current⟩ := finished
  -- The step that accepted.
  obtain ⟨before, offered, action, accepting, between, rfl, middle, unanswered, nowAnswered, _⟩ :=
    Transition.run_cause (not_has_install number call (·.answer = some true)) last.reached answered
  obtain ⟨chosen, there', id', request', epoch', answer⟩ := nowAnswered
  obtain ⟨sound, _⟩ := sound_run middle.reached
  have accepted : action = .answered true ∧ ∃ main, offered.main = some main ∧
      offered.state.pending = some (main.confirmationId, number) := by
    rcases sound.step_call middle.taken there' with
      ⟨former, held, id'', request'', epoch'', answers, _, _⟩ | ⟨_, _, clash, _⟩
    · rcases answers answer with already | accepts
      · exact absurd ⟨former, held, id''.trans id', request''.trans request',
          epoch''.trans epoch', already⟩ unanswered
      · exact accepts
    · exact absurd answer clash
  obtain ⟨rfl, main, window, pending⟩ := accepted
  have headed : ∃ now, offered.calls[number]? = some now ∧ now.id = call.id ∧
      now.request = call.request ∧ now.epoch = call.epoch := by
    rcases sound.step_call middle.taken there' with
      ⟨former, held, id'', request'', epoch'', _⟩ | ⟨clash, _⟩
    · exact ⟨former, held, id''.trans id', request''.trans request', epoch''.trans epoch'⟩
    · cases clash
  obtain ⟨now, held, own, texts, begunAt⟩ := headed
  obtain ⟨_, awaited, here, same, _, _, epochNow⟩ := sound.awaited pending
  cases held.symm.trans here
  have shown := sound.upright window pending
  have told : main.confirmation = call.request :=
    (sound.texts window held same).symm.trans texts
  have shownId : main.confirmationId = call.id := same.symm.trans own
  -- The step that began.
  obtain ⟨opening, idle, action, begun, waiting, rfl, first, unbegun, nowBegun, kept⟩ :=
    @Transition.run_cause _ _ _
      (fun state => state.state.pending = some (call.id, number) ∧
        Has number call (fun _ => True) state) install (by rintro ⟨clash, _⟩; cases clash)
      _ _ middle.reached ⟨shownId ▸ pending, now, held, own, texts, begunAt, trivial⟩
  have started : action = .confirm call.epoch call.request := by
    obtain ⟨pendingThen, then_, thereThen, idThen, requestThen, epochThen, _⟩ := nowBegun
    rcases (sound_run first.reached).1.step_call first.taken thereThen with
      ⟨former, heldThen, id₁, request₁, epoch₁, _⟩ | ⟨confirms, _⟩
    · rcases (step_state first.taken).2 _ pendingThen with already | newest
      · exact absurd ⟨already, former, heldThen, id₁.trans idThen, request₁.trans requestThen,
          epoch₁.trans epochThen, trivial⟩ unbegun
      · have within := (List.getElem?_eq_some_iff.mp heldThen).1
        simp only at newest
        omega
    · rw [confirms, epochThen, requestThen]
  subst started
  refine ⟨opening, waiting, between, after, offered, main, by simp, middle.reached, window, shown,
    shownId, told, shownId ▸ pending, epochNow.symm.trans begunAt, ?_, fun bounded => ?_⟩
  · intro action among cancels
    obtain ⟨early, late, rfl⟩ := List.append_of_mem among
    have onward := first.onward
    rw [Transition.run_append, Option.bind_eq_some_iff] at onward
    obtain ⟨state, passed, rest⟩ := onward
    cases taken : step state action with
    | none => simp [Transition.run, taken] at rest
    | some cancelled =>
        have through : Transition.run step begun (early ++ [action]) = some cancelled := by
          rw [Transition.run_append, passed, Option.bind_some, Transition.run_cons taken]
          rfl
        have still := (kept (early ++ [action]) late cancelled (by simp) through).1
        rw [(cancels_effect cancels taken).2] at still
        cases still
  · have still : accepting.state.epoch = call.epoch := by
      rw [(step_state middle.taken).1 (by rintro (clash | clash) <;> cases clash)]
      exact epochNow.symm.trans begunAt
    exact epoch_unmoved bounded middle.onward (Nat.le_of_eq still.symm) current

def revocation : ConfirmationRequest :=
  ⟨"Revoke this device?", "This logs out this installation.", "Revoke", 1, "device"⟩

/-- The dialog is shown, and the user has not answered. -/
def asking : ConfirmationBroker :=
  ⟨⟨0, 1, false, some (1, 0)⟩, some ⟨true, 1, revocation, true, false⟩, true, [],
    [⟨0, 1, revocation, none, .awaiting⟩]⟩

theorem shown_iff_awaited_asking :
    ∃ number call, Awaits asking number call ∧ call.id = 1 :=
  ((@shown_iff_awaited asking asking [.visible true, .confirm 0 revocation, .turn] rfl).2
    rfl rfl).2 ⟨true, 1, revocation, true, false⟩ rfl rfl

end Lvos.Desktop.Confirmation
