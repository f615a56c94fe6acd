import Lvos.Desktop.Confirmation
import Lvos.Ipc.Protocol
import Lvos.Storage.Export

set_option autoImplicit false

namespace Lvos.System.Consent

open Lvos.Core Lvos.Storage Lvos.Ipc Lvos.Desktop
open Lvos.Desktop.Confirmation (ConfirmationBroker ConfirmationRequest)

/-! What the GUI asks before it submits. -/

def revokeRequest (deviceId : String) : ConfirmationRequest where
  title := "Revoke this device?"
  message := "This logs out this installation. Its device identity remains revoked until you " ++
    "explicitly replace it."
  primary := "Revoke"
  focusTarget := 1
  deviceId := deviceId

def regenerateRequest : ConfirmationRequest where
  title := "Replace device identity?"
  message := "Creates a new installation ID and removes old sessions. Profiles and pending " ++
    "Outbox data are preserved. Continue only after this installation was revoked."
  primary := "Replace"
  focusTarget := 2
  deviceId := ""

def importRequest (historyAdd historyUpdate favoriteAdd favoriteReactivate
    queryStatsArchive : Nat) : ConfirmationRequest where
  title := "Import LVOS data?"
  message := "History: " ++ toString historyAdd ++ " add, " ++ toString historyUpdate ++
    " update. Favorites: " ++ toString favoriteAdd ++ " add, " ++ toString favoriteReactivate ++
    " reactivate. QueryStats archive: " ++ toString queryStatsArchive ++
    " records. Nothing changes until you choose Import."
  primary := "Import"
  focusTarget := 3
  deviceId := ""

/-- The dialog for the counts of a preview. -/
def previewRequest (preview : PortableImportResult) : ConfirmationRequest :=
  importRequest preview.historyAdd preview.historyUpdate preview.favoriteAdd
    preview.favoriteReactivate preview.queryStatsArchive

def previewOutput (token : DrawnId) (preview : PortableImportResult) : OperationOutput :=
  .importPreview token preview.historyAdd preview.historyUpdate preview.favoriteAdd
    preview.favoriteReactivate preview.queryStatsArchive

def isCurrentDevice (main : Option MainUiSnapshot) (deviceId : String) : Bool :=
  main.any fun main => main.devices.any fun device => device.id == deviceId && device.current

/-- A closure given to `spawn_local`: what it asks under which epoch, and what it submits if the
answer is yes. -/
structure Spawned where
  epoch : Nat
  request : ConfirmationRequest
  operation : UiOperation
deriving DecidableEq

/-- A management window with its broker, the closures not yet polled, and those that await the
call of their number. -/
structure ManagementWindow where
  broker : ConfirmationBroker
  spawned : List Spawned
  waiting : List (Nat × UiOperation)

namespace ManagementWindow

def opened : ManagementWindow := ⟨.install, [], []⟩

def spawn (window : ManagementWindow) (request : ConfirmationRequest) (operation : UiOperation) :
    ManagementWindow :=
  { window with spawned := window.spawned ++ [⟨window.broker.state.epoch, request, operation⟩] }

/-- The first poll of a closure: `confirm` turns it down at once or makes it wait. -/
def poll (window : ManagementWindow) (closure : Spawned) : Option ManagementWindow :=
  if closure ∈ window.spawned then
    let broker := window.broker.confirm closure.epoch closure.request
    some {
      broker
      spawned := window.spawned.erase closure
      waiting := if window.broker.calls.length < broker.calls.length then
          window.waiting ++ [(window.broker.calls.length, closure.operation)]
        else window.waiting }
  else none

/-- A closure whose call has its answer runs on, and may submit its operation. -/
def resume (window : ManagementWindow) (number : Nat) :
    Option (ManagementWindow × Option UiOperation) := do
  let operation ← window.waiting.lookup number
  let broker ← Confirmation.step window.broker (.finish number)
  let call ← broker.calls[number]?
  some ({ window with broker },
    if call.phase = .returned true then some operation else none)

end ManagementWindow

/-- What the window's event loop and toolkit do without the closures. -/
inductive WindowAction
  | answered (accepted : Bool)
  | cancelled
  | visibilityChanged
  | fades (presented : Bool)
  | visible (visible : Bool)
  | destroyed
  | turn
  | quit
  | abandon (call : Nat)
deriving DecidableEq

def WindowAction.confirmation : WindowAction → Confirmation.Action
  | .answered accepted => .answered accepted
  | .cancelled => .cancelled
  | .visibilityChanged => .visibilityChanged
  | .fades presented => .fades presented
  | .visible shown => .visible shown
  | .destroyed => .destroyed
  | .turn => .turn
  | .quit => .quit
  | .abandon call => .abandon call

/-- The GUI's windows, the requests on their way to the Agent and in its queue, its results on
their way back, and of the Agent the active Profile and the previews it keeps. `drawn` counts the
identifiers drawn so far. -/
structure State where
  windows : List ManagementWindow
  requests : List UiOperation
  results : List OperationOutput
  database : Option ProfileDb
  imports : List (DrawnId × PreviewedImport)
  drawn : DrawnId

def State.start (database : Option ProfileDb) : State := ⟨[], [], [], database, [], 0⟩

namespace State

/-- The newest window while it exists: `has_main_host`. -/
def mainHost (state : State) : Option (Nat × ManagementWindow) :=
  match state.windows.getLast? with
  | none => none
  | some window =>
      if window.broker.main.isSome then some (state.windows.length - 1, window) else none

def setWindow (state : State) (index : Nat) (window : ManagementWindow) : State :=
  { state with windows := state.windows.set index window }

def submit (state : State) (operation : UiOperation) : State :=
  { state with requests := state.requests ++ [operation] }

/-- A confirmation callback of a window. -/
def ask (state : State) (index : Nat) (request : ConfirmationRequest) (operation : UiOperation) :
    Option State := do
  let window ← state.windows[index]?
  some (state.setWindow index (window.spawn request operation))

/-- `apply_operation_result`, of which only an import preview asks anything. -/
def applyOperationResult (state : State) (output : OperationOutput) : State :=
  match output, state.mainHost with
  | .importPreview token historyAdd historyUpdate favoriteAdd favoriteReactivate
      queryStatsArchive, some (index, window) =>
      state.setWindow index (window.spawn
        (importRequest historyAdd historyUpdate favoriteAdd favoriteReactivate queryStatsArchive)
        (.applyImport token))
  | _, _ => state

variable [ContentTables]

/-- The bytes that `read_portable_file` returns of what it finds. -/
def readPortableFile (file : Option (List UInt8)) : Option (List UInt8) :=
  file.filter fun bytes => decide (bytes.length ≤ maxPortableJsonBytes)

/-- The plan of a preview, where every step to it succeeds. -/
def previewed (json : PortableJson) (state : State) (file : Option (List UInt8)) :
    Option PreviewedImport := do
  let bytes ← readPortableFile file
  let db ← state.database
  (previewPortableImport json db bytes).toOption

/-- The Agent executes the request; a failed one answers without output. -/
def execute (json : PortableJson) (state : State) (file : Option (List UInt8)) (now : Int)
    (eventIds : ContentKey → Uuid) : UiOperation → State
  | .previewImport _ =>
      match state.previewed json file with
      | none => { state with results := state.results ++ [.none] }
      | some plan => { state with
          imports := [(state.drawn, plan)]
          drawn := state.drawn + 1
          results := state.results ++ [previewOutput state.drawn plan.preview] }
  | .applyImport token =>
      match state.imports.lookup token with
      | none => { state with results := state.results ++ [.none] }
      | some plan => { state with
          imports := state.imports.filter fun entry => entry.1 ≠ token
          database := state.database.map fun db =>
            (applyPortableImport db plan.toPortableImportPlan now eventIds).1
          results := state.results ++ [.none] }
  | _ => { state with results := state.results ++ [.none] }

end State

/-- `submit` is any request that the GUI sends unasked, `work` whatever else changes the active
Profile. Requests and results can be lost with a process. -/
inductive Action
  | opened
  | window (index : Nat) (action : WindowAction)
  | poll (index : Nat) (closure : Spawned)
  | resume (index : Nat) (number : Nat)
  | submit (operation : UiOperation)
  | revoke (index : Nat) (main : Option MainUiSnapshot) (deviceId : String)
  | regenerate (index : Nat)
  | deliver
  | execute (file : Option (List UInt8)) (now : Int) (eventIds : ContentKey → Uuid)
  | work (database : Option ProfileDb)
  | loseRequest (index : Nat)
  | loseResult (index : Nat)

/-- The operations that only a confirmation callback submits. -/
def confirmedOnly : UiOperation → Bool
  | .regenerateDeviceIdentity => true
  | .applyImport _ => true
  | .revokeDevice _ => true
  | _ => false

def step [ContentTables] (json : PortableJson) (state : State) : Action → Option State
  | .opened => some { state with windows := state.windows ++ [.opened] }
  | .window index action => do
      let window ← state.windows[index]?
      let broker ← Confirmation.step window.broker action.confirmation
      some (state.setWindow index { window with broker })
  | .poll index closure => do
      let window ← state.windows[index]?
      let polled ← window.poll closure
      some (state.setWindow index polled)
  | .resume index number => do
      let window ← state.windows[index]?
      let (resumed, operation) ← window.resume number
      let state := state.setWindow index resumed
      some (operation.elim state state.submit)
  | .submit operation =>
      if confirmedOnly operation then none else some (state.submit operation)
  | .revoke index main deviceId =>
      if isCurrentDevice main deviceId then
        state.ask index (revokeRequest deviceId) (.revokeDevice deviceId)
      else some (state.submit (.revokeDevice deviceId))
  | .regenerate index => state.ask index regenerateRequest .regenerateDeviceIdentity
  | .deliver =>
      match state.results with
      | [] => none
      | output :: rest => some ({ state with results := rest }.applyOperationResult output)
  | .execute file now eventIds =>
      match state.requests with
      | [] => none
      | operation :: rest =>
          some ({ state with requests := rest }.execute json file now eventIds operation)
  | .work database => some { state with database := database }
  | .loseRequest index => some { state with requests := state.requests.eraseIdx index }
  | .loseResult index => some { state with results := state.results.eraseIdx index }

/-- What the broker of a window does in an action of the whole. -/
def Action.ofWindow (index : Nat) : Action → List Confirmation.Action
  | .window at_ action => if at_ = index then [action.confirmation] else []
  | .poll at_ closure => if at_ = index then [.confirm closure.epoch closure.request] else []
  | .resume at_ number => if at_ = index then [.finish number] else []
  | _ => []

def windowActions (index : Nat) (actions : List Action) : List Confirmation.Action :=
  actions.flatMap (Action.ofWindow index)

/-! What backs a request -/

/-- The request asks for the operation: for an import, with the counts of the preview that the
Agent keeps under its token. -/
def Proposes (state : State) (operation : UiOperation) (request : ConfirmationRequest) : Prop :=
  (operation = .regenerateDeviceIdentity ∧ request = regenerateRequest) ∨
  (∃ deviceId, operation = .revokeDevice deviceId ∧ request = revokeRequest deviceId) ∨
  (∃ token, operation = .applyImport token ∧ token < state.drawn ∧
    ∀ plan, (token, plan) ∈ state.imports → request = previewRequest plan.preview)

/-- The operations that are never submitted unasked. -/
def NeedsConsent (operation : UiOperation) : Prop :=
  operation = .regenerateDeviceIdentity ∨ ∃ token, operation = .applyImport token

/-- A window has a call that returned true and asked for the operation. -/
def Backed (state : State) (operation : UiOperation) : Prop :=
  ∃ (index : Nat) (window : ManagementWindow) (number : Nat) (call : Confirmation.Call),
    state.windows[index]? = some window ∧ window.broker.calls[number]? = some call ∧
    call.phase = .returned true ∧ Proposes state operation call.request

/-- The Agent has drawn tokens and kept previews, but changed no preview it had. -/
structure Draws (state next : State) : Prop where
  drawn : state.drawn ≤ next.drawn
  kept : ∀ {token plan}, (token, plan) ∈ next.imports → token < state.drawn →
    (token, plan) ∈ state.imports

variable {state next : State} {operation : UiOperation} {request : ConfirmationRequest}

theorem Draws.refl (state : State) : Draws state state :=
  ⟨Nat.le_refl _, fun among _ => among⟩

theorem Proposes.later (proposes : Proposes state operation request)
    (draws : Draws state next) : Proposes next operation request := by
  rcases proposes with same | revokes | ⟨token, rfl, before, counts⟩
  · exact .inl same
  · exact .inr (.inl revokes)
  · exact .inr (.inr ⟨token, rfl, Nat.lt_of_lt_of_le before draws.drawn,
      fun plan among => counts plan (draws.kept among before)⟩)

/-- What holds after the actions done: each window's broker has made its own run; a preview under
way says what the Agent keeps under its token; whatever a closure asks and submits belongs
together; and what needs consent has a call behind it. -/
structure Sound (done : List Action) (state : State) : Prop where
  projected : ∀ {index : Nat} {window : ManagementWindow}, state.windows[index]? = some window →
    Transition.run Confirmation.step .install (windowActions index done) = some window.broker
  unopened : ∀ {index : Nat}, state.windows[index]? = none → windowActions index done = []
  single : state.imports.length ≤ 1
  fresh : ∀ {token plan}, (token, plan) ∈ state.imports → token < state.drawn
  results : ∀ {token a b c d e}, .importPreview token a b c d e ∈ state.results →
    Proposes state (.applyImport token) (importRequest a b c d e)
  spawned : ∀ {index : Nat} {window : ManagementWindow} {closure : Spawned},
    state.windows[index]? = some window → closure ∈ window.spawned →
      Proposes state closure.operation closure.request
  waiting : ∀ {index number : Nat} {window : ManagementWindow} {operation : UiOperation},
    state.windows[index]? = some window → (number, operation) ∈ window.waiting →
      ∃ call, window.broker.calls[number]? = some call ∧ Proposes state operation call.request
  backed : ∀ {operation}, operation ∈ state.requests → NeedsConsent operation →
    Backed state operation

theorem sound_start (database : Option ProfileDb) : Sound [] (.start database) where
  projected := by simp [State.start]
  unopened := fun _ => rfl
  single := Nat.zero_le _
  fresh := by simp [State.start]
  results := by simp [State.start]
  spawned := by simp [State.start]
  waiting := by simp [State.start]
  backed := by simp [State.start]

variable {done : List Action} {action : Action}

theorem windowActions_snoc (index : Nat) (done : List Action) (action : Action) :
    windowActions index (done ++ [action]) = windowActions index done ++ action.ofWindow index := by
  simp [windowActions]

/-- A step beside the windows. -/
theorem Sound.beside (sound : Sound done state) (apart : ∀ index, action.ofWindow index = [])
    (windows : next.windows = state.windows) (draws : Draws state next)
    (single : next.imports.length ≤ 1)
    (fresh : ∀ {token plan}, (token, plan) ∈ next.imports → token < next.drawn)
    (results : ∀ {token a b c d e}, .importPreview token a b c d e ∈ next.results →
      .importPreview token a b c d e ∈ state.results ∨
        Proposes next (.applyImport token) (importRequest a b c d e))
    (requests : ∀ {operation}, operation ∈ next.requests → NeedsConsent operation →
      operation ∈ state.requests) : Sound (done ++ [action]) next where
  projected := by
    intro index window there
    rw [windowActions_snoc, apart, List.append_nil]
    exact sound.projected (windows ▸ there)
  unopened := by
    intro index none
    rw [windowActions_snoc, apart, List.append_nil]
    exact sound.unopened (windows ▸ none)
  single := single
  fresh := fresh
  results := by
    intro token a b c d e among
    rcases results among with former | proposes
    · exact (sound.results former).later draws
    · exact proposes
  spawned := by
    intro index window closure there among
    exact (sound.spawned (windows ▸ there) among).later draws
  waiting := by
    intro index number window operation there among
    obtain ⟨call, found, proposes⟩ := sound.waiting (windows ▸ there) among
    exact ⟨call, found, proposes.later draws⟩
  backed := by
    intro operation among needs
    obtain ⟨index, window, number, call, there, found, returned, proposes⟩ :=
      sound.backed (requests among needs) needs
    exact ⟨index, window, number, call, by rw [windows]; exact there, found, returned,
      proposes.later draws⟩

variable {index : Nat} {window after : ManagementWindow}

theorem setWindow_some {other : Nat} {found : ManagementWindow}
    (there : (state.setWindow index after).windows[other]? = some found) :
    (other = index ∧ found = after) ∨ (other ≠ index ∧ state.windows[other]? = some found) := by
  by_cases same : other = index
  · subst same
    have inside : other < state.windows.length := by
      have := (List.getElem?_eq_some_iff.mp there).1
      rwa [State.setWindow, List.length_set] at this
    rw [State.setWindow, List.getElem?_set_self inside] at there
    cases there
    exact .inl ⟨rfl, rfl⟩
  · rw [State.setWindow, List.getElem?_set_ne (Ne.symm same)] at there
    exact .inr ⟨same, there⟩

theorem setWindow_self (there : state.windows[index]? = some window) :
    (state.setWindow index after).windows[index]? = some after :=
  List.getElem?_set_self (List.getElem?_eq_some_iff.mp there).1

theorem setWindow_none {other : Nat}
    (absent : (state.setWindow index after).windows[other]? = none) :
    state.windows[other]? = none := by
  rw [List.getElem?_eq_none_iff, State.setWindow, List.length_set] at absent
  exact List.getElem?_eq_none absent

/-- A window whose broker keeps its calls keeps what it backs. -/
theorem Backed.setWindow (backed : Backed state operation)
    (there : state.windows[index]? = some window)
    (kept : ∀ {number : Nat} {call : Confirmation.Call},
      window.broker.calls[number]? = some call → ∃ now, after.broker.calls[number]? = some now ∧
        now.request = call.request ∧ (call.phase = .returned true → now.phase = .returned true)) :
    Backed (state.setWindow index after) operation := by
  obtain ⟨other, held, number, call, holds, found, returned, proposes⟩ := backed
  by_cases same : index = other
  · subst same
    cases there.symm.trans holds
    obtain ⟨now, present, request, phase⟩ := kept found
    exact ⟨index, after, number, now, setWindow_self there, present, phase returned,
      by rw [request]; exact proposes⟩
  · refine ⟨other, held, number, call, ?_, found, returned, proposes⟩
    rw [State.setWindow, List.getElem?_set_ne same]
    exact holds

/-- A step of one window's broker. -/
theorem Sound.brokerStep (sound : Sound done state) (there : state.windows[index]? = some window)
    {act : Confirmation.Action} (taken : Confirmation.step window.broker act = some after.broker)
    (own : action.ofWindow index = [act])
    (apart : ∀ other, other ≠ index → action.ofWindow other = [])
    (spawned : ∀ {closure}, closure ∈ after.spawned → closure ∈ window.spawned)
    (waiting : ∀ {number : Nat} {operation : UiOperation}, (number, operation) ∈ after.waiting →
      (number, operation) ∈ window.waiting ∨ ∃ call, after.broker.calls[number]? = some call ∧
        Proposes state operation call.request) :
    Sound (done ++ [action]) (state.setWindow index after) := by
  have broker := (Confirmation.sound_run (sound.projected there)).1
  refine { sound with
    projected := ?_, unopened := ?_, spawned := ?_, waiting := ?_, backed := ?_ }
  · intro other found present
    rw [windowActions_snoc]
    rcases setWindow_some present with ⟨rfl, rfl⟩ | ⟨distinct, present⟩
    · rw [own, Transition.run_append, sound.projected there, Option.bind_some,
        Transition.run_cons taken]
      rfl
    · rw [apart other distinct, List.append_nil]
      exact sound.projected present
  · intro other none
    have unopened := setWindow_none none
    have distinct : other ≠ index := by
      rintro rfl
      rw [there] at unopened
      cases unopened
    rw [windowActions_snoc, apart other distinct, List.append_nil]
    exact sound.unopened unopened
  · intro other found closure present among
    rcases setWindow_some present with ⟨rfl, rfl⟩ | ⟨_, present⟩
    · exact sound.spawned there (spawned among)
    · exact sound.spawned present among
  · intro other number found operation present among
    rcases setWindow_some present with ⟨rfl, rfl⟩ | ⟨_, present⟩
    · rcases waiting among with former | begun
      · obtain ⟨call, held, proposes⟩ := sound.waiting there former
        obtain ⟨now, holds, request, _⟩ := broker.step_kept taken held
        exact ⟨now, holds, by rw [request]; exact proposes⟩
      · exact begun
    · exact sound.waiting present among
  · intro operation among needs
    exact (sound.backed among needs).setWindow there (broker.step_kept taken)

/-- A closure is handed to the event loop of a window. -/
theorem Sound.spawn (sound : Sound done state) (there : state.windows[index]? = some window)
    (apart : ∀ other, action.ofWindow other = []) (proposes : Proposes state operation request) :
    Sound (done ++ [action]) (state.setWindow index (window.spawn request operation)) := by
  refine { sound with
    projected := ?_, unopened := ?_, spawned := ?_, waiting := ?_, backed := ?_ }
  · intro other found present
    rw [windowActions_snoc, apart, List.append_nil]
    rcases setWindow_some present with ⟨rfl, rfl⟩ | ⟨_, present⟩
    · have kept := sound.projected there
      exact kept
    · exact sound.projected present
  · intro other none
    rw [windowActions_snoc, apart, List.append_nil]
    exact sound.unopened (setWindow_none none)
  · intro other found closure present among
    rcases setWindow_some present with ⟨rfl, rfl⟩ | ⟨_, present⟩
    · rcases List.mem_append.mp among with former | new
      · exact sound.spawned there former
      · cases List.mem_singleton.mp new
        exact proposes
    · exact sound.spawned present among
  · intro other number found waits present among
    rcases setWindow_some present with ⟨rfl, rfl⟩ | ⟨_, present⟩
    · have kept := @Sound.waiting _ _ sound _ number _ waits there among
      exact kept
    · exact sound.waiting present among
  · intro waits among needs
    exact (sound.backed among needs).setWindow there fun held => ⟨_, held, rfl, id⟩

/-- A request joins the queue, with what backs it. -/
theorem Sound.submit (sound : Sound done state)
    (backed : NeedsConsent operation → Backed state operation) :
    Sound done (state.submit operation) := by
  refine { sound with backed := ?_ }
  intro other among needs
  rcases List.mem_append.mp among with former | new
  · exact sound.backed former needs
  · cases List.mem_singleton.mp new
    exact backed needs

theorem Sound.idle (sound : Sound done state) (apart : ∀ index, action.ofWindow index = []) :
    Sound (done ++ [action]) state :=
  sound.beside apart rfl (.refl state) sound.single sound.fresh .inl fun among _ => among

theorem Sound.ask (sound : Sound done state) (apart : ∀ index, action.ofWindow index = [])
    (proposes : Proposes state operation request)
    (asked : state.ask index request operation = some next) : Sound (done ++ [action]) next := by
  obtain ⟨window, there, here⟩ := Option.bind_eq_some_iff.mp asked
  cases here
  exact sound.spawn there apart proposes

theorem not_needsConsent (unasked : confirmedOnly operation = false) :
    ¬ NeedsConsent operation := by
  rintro (rfl | ⟨token, rfl⟩) <;> cases unasked

/-- The call that a polled closure begins asks what the closure asks. -/
theorem begun_request {broker : ConfirmationBroker} (sound : Confirmation.Sound broker)
    (epoch : Nat) (request : ConfirmationRequest)
    (begins : broker.calls.length < (broker.confirm epoch request).calls.length) :
    ∃ call, (broker.confirm epoch request).calls[broker.calls.length]? = some call ∧
      call.request = request := by
  have there := List.getElem?_eq_getElem begins
  have taken : Confirmation.step broker (.confirm epoch request) =
    some (broker.confirm epoch request) := rfl
  rcases sound.step_call taken there with ⟨former, before, _⟩ | ⟨same, _⟩
  · have := (List.getElem?_eq_some_iff.mp before).1
    omega
  · rw [Confirmation.Action.confirm.injEq] at same
    exact ⟨_, there, same.2.symm⟩

theorem Sound.opened (sound : Sound done state) :
    Sound (done ++ [.opened]) { state with windows := state.windows ++ [.opened] } := by
  have cases_ : ∀ {index : Nat} {window : ManagementWindow},
      (state.windows ++ [.opened])[index]? = some window →
      state.windows[index]? = some window ∨
        (state.windows[index]? = none ∧ window = .opened) := by
    intro index window there
    rcases Nat.lt_or_ge index state.windows.length with inside | beyond
    · rw [List.getElem?_append_left inside] at there
      exact .inl there
    · rw [List.getElem?_append_right beyond] at there
      refine .inr ⟨List.getElem?_eq_none beyond, ?_⟩
      exact List.mem_singleton.mp (List.mem_of_getElem? there)
  refine { sound with
    projected := ?_, unopened := ?_, spawned := ?_, waiting := ?_, backed := ?_ }
  · intro index window there
    rw [windowActions_snoc]
    rcases cases_ there with former | ⟨absent, rfl⟩
    · exact (congrArg _ (List.append_nil _)).trans (sound.projected former)
    · rw [sound.unopened absent]
      rfl
  · intro index absent
    rw [windowActions_snoc]
    refine (List.append_nil _).trans (sound.unopened ?_)
    rw [List.getElem?_eq_none_iff] at absent ⊢
    rw [List.length_append] at absent
    exact Nat.le_of_add_right_le absent
  · intro index window closure there among
    rcases cases_ there with former | ⟨_, rfl⟩
    · exact sound.spawned former among
    · cases among
  · intro index number window waits there among
    rcases cases_ there with former | ⟨_, rfl⟩
    · exact sound.waiting former among
    · cases among
  · intro waits among needs
    obtain ⟨index, window, number, call, there, found, returned, proposes⟩ :=
      sound.backed among needs
    refine ⟨index, window, number, call, ?_, found, returned, proposes⟩
    exact (List.getElem?_append_left (List.getElem?_eq_some_iff.mp there).1).trans there

theorem Sound.polled {closure : Spawned} (sound : Sound done state)
    (there : state.windows[index]? = some window) (polled : window.poll closure = some after) :
    Sound (done ++ [.poll index closure]) (state.setWindow index after) := by
  unfold ManagementWindow.poll at polled
  split at polled
  · rename_i among
    cases polled
    have taken : Confirmation.step window.broker (.confirm closure.epoch closure.request) =
      some (window.broker.confirm closure.epoch closure.request) := rfl
    refine sound.brokerStep there taken (by simp [Action.ofWindow])
      (fun other distinct => by simp [Action.ofWindow, Ne.symm distinct])
      (fun kept => List.mem_of_mem_erase kept) fun awaits => ?_
    simp only at awaits
    split at awaits
    · rename_i begins
      rcases List.mem_append.mp awaits with former | new
      · exact .inl former
      · cases List.mem_singleton.mp new
        have broker := (Confirmation.sound_run (sound.projected there)).1
        obtain ⟨call, found, asks⟩ := begun_request broker _ _ begins
        exact .inr ⟨call, found, by rw [asks]; exact sound.spawned there among⟩
    · exact .inl awaits
  · cases polled

theorem Sound.resumed {number : Nat} {submits : Option UiOperation} (sound : Sound done state)
    (there : state.windows[index]? = some window)
    (resumed : window.resume number = some (after, submits)) :
    Sound (done ++ [.resume index number])
      (submits.elim (state.setWindow index after) (state.setWindow index after).submit) := by
  simp only [ManagementWindow.resume, Option.bind_eq_bind, Option.bind_eq_some_iff] at resumed
  obtain ⟨operation, awaits, broker, taken, call, found, here⟩ := resumed
  cases here
  have moved : Sound (done ++ [.resume index number])
      (state.setWindow index { window with broker }) :=
    sound.brokerStep there taken (by simp [Action.ofWindow])
      (fun other distinct => by simp [Action.ofWindow, Ne.symm distinct]) id .inl
  split
  · rename_i returned
    refine moved.submit fun _ => ?_
    obtain ⟨before, rest, waiting, _⟩ := List.lookup_eq_some_iff.mp awaits
    have among : (number, operation) ∈ window.waiting := by
      rw [waiting]
      exact List.mem_append_right _ List.mem_cons_self
    obtain ⟨former, held, proposes⟩ := sound.waiting there among
    obtain ⟨now, holds, asks, _⟩ :=
      (Confirmation.sound_run (sound.projected there)).1.step_kept taken held
    cases found.symm.trans holds
    exact ⟨index, _, number, call, setWindow_self there, found, returned,
      by rw [asks]; exact proposes⟩
  · exact moved

/-- The Agent and the pipes may drop what they hold. -/
theorem Sound.trim (sound : Sound done state) (requests : List UiOperation)
    (results : List OperationOutput) (fewer : ∀ {operation}, operation ∈ requests →
      operation ∈ state.requests) (less : ∀ {output}, output ∈ results →
      output ∈ state.results) :
    Sound done { state with requests := requests, results := results } :=
  { sound with
    results := fun among => sound.results (less among)
    backed := fun among => sound.backed (fewer among) }

theorem Sound.delivered (sound : Sound done state) {output : OperationOutput}
    (proposes : ∀ {token a b c d e}, output = .importPreview token a b c d e →
      Proposes state (.applyImport token) (importRequest a b c d e))
    (apart : ∀ index, action.ofWindow index = []) :
    Sound (done ++ [action]) (state.applyOperationResult output) := by
  unfold State.applyOperationResult
  split
  · rename_i token historyAdd historyUpdate favoriteAdd favoriteReactivate queryStatsArchive
      index window host
    have there : state.windows[index]? = some window := by
      unfold State.mainHost at host
      split at host
      · cases host
      · rename_i last newest
        split at host
        · cases host
          rwa [← List.getLast?_eq_getElem?]
        · cases host
    exact sound.spawn there apart (proposes rfl)
  · exact sound.idle apart

theorem Sound.executed [ContentTables] (sound : Sound done state) (json : PortableJson)
    (file : Option (List UInt8)) (now : Int) (eventIds : ContentKey → Uuid)
    (apart : ∀ index, action.ofWindow index = []) (operation : UiOperation) :
    Sound (done ++ [action]) (state.execute json file now eventIds operation) := by
  have failed : Sound (done ++ [action])
      { state with results := state.results ++ [.none] } := by
    refine sound.beside apart rfl ⟨Nat.le_refl _, fun among _ => among⟩ sound.single
      sound.fresh ?_ fun among _ => among
    intro token a b c d e among
    rcases List.mem_append.mp among with former | new
    · exact .inl former
    · cases List.mem_singleton.mp new
  unfold State.execute
  split
  · split
    · exact failed
    · rename_i plan _
      refine sound.beside apart rfl ⟨Nat.le_succ _, ?_⟩ (Nat.le_refl 1) ?_ ?_ fun among _ => among
      · intro token held among before
        cases List.mem_singleton.mp among
        exact absurd before (Nat.lt_irrefl _)
      · intro token held among
        cases List.mem_singleton.mp among
        exact Nat.lt_succ_self _
      · intro token a b c d e among
        rcases List.mem_append.mp among with former | new
        · exact .inl former
        · cases List.mem_singleton.mp new
          refine .inr (.inr (.inr ⟨_, rfl, Nat.lt_succ_self _, ?_⟩))
          intro held kept
          cases List.mem_singleton.mp kept
          rfl
  · split
    · exact failed
    · rename_i token _ plan _
      have fewer : ∀ {entry}, entry ∈ state.imports.filter (fun entry => entry.1 ≠ token) →
          entry ∈ state.imports := fun among => (List.mem_filter.mp among).1
      refine sound.beside apart rfl ⟨Nat.le_refl _, fun among _ => fewer among⟩
        (Nat.le_trans (List.length_filter_le _ _) sound.single)
        (fun among => sound.fresh (fewer among)) ?_ fun among _ => among
      intro token a b c d e among
      rcases List.mem_append.mp among with former | new
      · exact .inl former
      · cases List.mem_singleton.mp new
  · exact failed

/-- What one step keeps. -/
theorem Sound.step [ContentTables] {json : PortableJson} (sound : Sound done state)
    (taken : Consent.step json state action = some next) : Sound (done ++ [action]) next := by
  cases action with
  | opened =>
      cases taken
      exact sound.opened
  | window index action =>
      simp only [Consent.step, Option.bind_eq_bind, Option.bind_eq_some_iff] at taken
      obtain ⟨window, there, broker, moved, here⟩ := taken
      cases here
      exact sound.brokerStep there moved (by simp [Action.ofWindow])
        (fun other distinct => by simp [Action.ofWindow, Ne.symm distinct]) id .inl
  | poll index closure =>
      simp only [Consent.step, Option.bind_eq_bind, Option.bind_eq_some_iff] at taken
      obtain ⟨window, there, after, polled, here⟩ := taken
      cases here
      exact sound.polled there polled
  | resume index number =>
      simp only [Consent.step, Option.bind_eq_bind, Option.bind_eq_some_iff] at taken
      obtain ⟨window, there, ⟨after, submits⟩, resumed, here⟩ := taken
      cases here
      exact sound.resumed there resumed
  | submit operation =>
      simp only [Consent.step] at taken
      split at taken
      · cases taken
      · rename_i unasked
        cases taken
        refine (sound.idle fun _ => rfl).submit fun needs => ?_
        exact absurd needs (not_needsConsent (by simpa using unasked))
  | revoke index main deviceId =>
      simp only [Consent.step] at taken
      split at taken
      · exact sound.ask (fun _ => rfl) (.inr (.inl ⟨deviceId, rfl, rfl⟩)) taken
      · cases taken
        refine (sound.idle fun _ => rfl).submit fun needs => ?_
        rcases needs with clash | ⟨token, clash⟩ <;> cases clash
  | regenerate index => exact sound.ask (fun _ => rfl) (.inl ⟨rfl, rfl⟩) taken
  | deliver =>
      simp only [Consent.step] at taken
      split at taken
      · cases taken
      · rename_i output rest results
        cases taken
        have trimmed := sound.trim state.requests rest id fun among => by
          rw [results]
          exact List.mem_cons_of_mem output among
        refine trimmed.delivered ?_ fun _ => rfl
        rintro token a b c d e rfl
        apply sound.results
        rw [results]
        exact List.mem_cons_self
  | execute file now eventIds =>
      simp only [Consent.step] at taken
      split at taken
      · cases taken
      · rename_i operation rest requests
        cases taken
        refine (sound.trim rest state.results ?_ id).executed json file now eventIds
          (fun _ => rfl) operation
        intro other among
        rw [requests]
        exact List.mem_cons_of_mem operation among
  | work database =>
      cases taken
      exact sound.beside (fun _ => rfl) rfl ⟨Nat.le_refl _, fun among _ => among⟩ sound.single
        sound.fresh .inl fun among _ => among
  | loseRequest index =>
      cases taken
      exact (sound.idle fun _ => rfl).trim _ _ List.mem_of_mem_eraseIdx id
  | loseResult index =>
      cases taken
      exact (sound.idle fun _ => rfl).trim _ _ id List.mem_of_mem_eraseIdx

theorem applyOperationResult_imports (state : State) (output : OperationOutput) :
    (state.applyOperationResult output).imports = state.imports ∧
      (state.applyOperationResult output).drawn = state.drawn := by
  unfold State.applyOperationResult
  split
  · exact ⟨rfl, rfl⟩
  · exact ⟨rfl, rfl⟩

/-- Tokens are drawn anew, and previews leave but do not come back. -/
theorem step_draws [ContentTables] {json : PortableJson}
    (taken : step json state action = some next) : Draws state next := by
  have same : next.imports = state.imports → next.drawn = state.drawn → Draws state next := by
    intro imports drawn
    exact ⟨Nat.le_of_eq drawn.symm, fun among _ => imports ▸ among⟩
  cases action with
  | opened =>
      cases taken
      exact same rfl rfl
  | window index action =>
      simp only [step, Option.bind_eq_bind, Option.bind_eq_some_iff] at taken
      obtain ⟨_, _, _, _, here⟩ := taken
      cases here
      exact same rfl rfl
  | poll index closure =>
      simp only [step, Option.bind_eq_bind, Option.bind_eq_some_iff] at taken
      obtain ⟨_, _, _, _, here⟩ := taken
      cases here
      exact same rfl rfl
  | resume index number =>
      simp only [step, Option.bind_eq_bind, Option.bind_eq_some_iff] at taken
      obtain ⟨_, _, ⟨_, submits⟩, _, here⟩ := taken
      cases here
      cases submits with
      | none => exact same rfl rfl
      | some operation => exact same rfl rfl
  | submit operation =>
      simp only [step] at taken
      split at taken
      · cases taken
      · cases taken
        exact same rfl rfl
  | revoke index main deviceId =>
      simp only [step] at taken
      split at taken
      · obtain ⟨_, _, here⟩ := Option.bind_eq_some_iff.mp taken
        cases here
        exact same rfl rfl
      · cases taken
        exact same rfl rfl
  | regenerate index =>
      obtain ⟨_, _, here⟩ := Option.bind_eq_some_iff.mp taken
      cases here
      exact same rfl rfl
  | deliver =>
      simp only [step] at taken
      split at taken
      · cases taken
      · cases taken
        exact same (applyOperationResult_imports _ _).1 (applyOperationResult_imports _ _).2
  | execute file now eventIds =>
      simp only [step] at taken
      split at taken
      · cases taken
      · cases taken
        unfold State.execute
        split
        · split
          · exact ⟨Nat.le_refl _, fun among _ => among⟩
          · refine ⟨Nat.le_succ _, fun among before => ?_⟩
            cases List.mem_singleton.mp among
            exact absurd before (Nat.lt_irrefl _)
        · split
          · exact ⟨Nat.le_refl _, fun among _ => among⟩
          · exact ⟨Nat.le_refl _, fun among _ => (List.mem_filter.mp among).1⟩
        · exact ⟨Nat.le_refl _, fun among _ => among⟩
  | work database =>
      cases taken
      exact same rfl rfl
  | loseRequest index =>
      cases taken
      exact same rfl rfl
  | loseResult index =>
      cases taken
      exact same rfl rfl

theorem sound_run [ContentTables] {json : PortableJson} {database : Option ProfileDb}
    {actions : List Action}
    (reached : Transition.run (step json) (.start database) actions = some state) :
    Sound actions state :=
  @Transition.run_keeps_history _ _ (step json) (fun _ _ => True) Sound
    (fun _ _ _ _ sound _ taken => sound.step taken) actions [] _ _ (sound_start database)
    (Transition.meets_true _ _ _) reached

theorem execute_forgets [ContentTables] (json : PortableJson) (state : State)
    (file : Option (List UInt8)) (now : Int) (eventIds : ContentKey → Uuid) (token : DrawnId)
    (plan : PreviewedImport) :
    (token, plan) ∉ (state.execute json file now eventIds (.applyImport token)).imports := by
  unfold State.execute
  simp only
  split
  · rename_i absent
    intro among
    have := List.lookup_eq_none_iff.mp absent (token, plan) among
    simp at this
  · intro among
    have := (List.mem_filter.mp among).2
    simp at this

/-- A token that was drawn and is gone stays gone. -/
theorem forgotten_run [ContentTables] {json : PortableJson} {token : DrawnId}
    {actions : List Action} (reached : Transition.run (step json) state actions = some next)
    (drawn : token < state.drawn) (gone : ∀ plan, (token, plan) ∉ state.imports) :
    ∀ plan, (token, plan) ∉ next.imports := by
  have kept := @Transition.run_keeps _ _ (step json)
    (fun state => token < state.drawn ∧ ∀ plan, (token, plan) ∉ state.imports)
    (fun state action next here taken => by
      have draws := step_draws taken
      exact ⟨Nat.lt_of_lt_of_le here.1 draws.drawn,
        fun plan among => here.2 plan (draws.kept among here.1)⟩) _ _ _ ⟨drawn, gone⟩ reached
  exact kept.2

/-- The user has seen a dialog with these texts and accepted it. -/
def Consented (actions : List Action) (state : State) (request : ConfirmationRequest) : Prop :=
  ∃ (index : Nat) (window : ManagementWindow) (number : Nat) (call : Confirmation.Call),
    state.windows[index]? = some window ∧ window.broker.calls[number]? = some call ∧
    call.request = request ∧
    Confirmation.AcceptedAsShown (windowActions index actions) number call

theorem Sound.consented (sound : Sound done state) (backed : Backed state operation) :
    ∃ request, Proposes state operation request ∧ Consented done state request := by
  obtain ⟨index, window, number, call, there, found, returned, proposes⟩ := backed
  exact ⟨call.request, proposes, index, window, number, call, there, found, rfl,
    Confirmation.accepted_as_shown (sound.projected there) found returned⟩

/-- Nothing that needs consent reaches the Agent without it. However the windows, their event
loops, the pipes and the Agent take turns: a replacement of the device identity is requested only
after its dialog was shown and accepted; an import is applied only after a dialog with the very
counts of the preview that the Agent keeps for it was; and a preview, once applied, is never
applied again. -/
theorem consent_before_effect [ContentTables] {json : PortableJson} {database : Option ProfileDb}
    {actions : List Action}
    (reached : Transition.run (step json) (.start database) actions = some state) :
    (.regenerateDeviceIdentity ∈ state.requests → Consented actions state regenerateRequest) ∧
    (∀ token plan, .applyImport token ∈ state.requests → (token, plan) ∈ state.imports →
      Consented actions state (previewRequest plan.preview)) ∧
    (∀ token rest file now eventIds after last, state.requests = .applyImport token :: rest →
      Transition.run (step json) state (.execute file now eventIds :: after) = some last →
      ∀ plan, (token, plan) ∉ last.imports) := by
  have sound := sound_run reached
  refine ⟨fun among => ?_, fun token plan among held => ?_, ?_⟩
  · obtain ⟨request, proposes, consented⟩ := sound.consented (sound.backed among (.inl rfl))
    rcases proposes with ⟨_, rfl⟩ | ⟨_, clash, _⟩ | ⟨_, clash, _⟩
    · exact consented
    · cases clash
    · cases clash
  · obtain ⟨request, proposes, consented⟩ :=
      sound.consented (sound.backed among (.inr ⟨token, rfl⟩))
    rcases proposes with ⟨clash, _⟩ | ⟨_, clash, _⟩ | ⟨_, same, _, counts⟩
    · cases clash
    · cases clash
    · cases same
      rwa [← counts plan held]
  · intro token rest file now eventIds after last requests onward plan among
    have first : .applyImport token ∈ state.requests := by
      rw [requests]
      exact List.mem_cons_self
    obtain ⟨_, proposes, _⟩ := sound.consented (sound.backed first (.inr ⟨token, rfl⟩))
    have drawn : token < state.drawn := by
      rcases proposes with ⟨clash, _⟩ | ⟨_, clash, _⟩ | ⟨_, same, before, _⟩
      · cases clash
      · cases clash
      · cases same
        exact before
    have taken : step json state (.execute file now eventIds) =
        some ({ state with requests := rest }.execute json file now eventIds
          (.applyImport token)) := by
      simp only [step, requests]
    rw [Transition.run_cons taken] at onward
    exact forgotten_run onward (Nat.lt_of_lt_of_le drawn (step_draws taken).drawn)
      (execute_forgets json _ file now eventIds token) plan among

/-! The export of a Profile with one Favorite, chosen, seen and imported into a new one. -/

@[reducible] def plainTables : ContentTables := asciiTables fun _ => Sample.giftKey

theorem chinese_canonical : parseTag "zh-CN" = .ok "zh-CN" := by decide

/-- The lookup of "gift". -/
def giftEntry : HistoryEntry :=
  ⟨⟨Sample.giftKey, 1, .word, ⟨"en", english_canonical⟩, "gift", "gift"⟩,
    ⟨⟨"zh-CN", chinese_canonical⟩, "礼物", "tokenhub", 51⟩, 51⟩

def newProfile : ProfileDb := .initial (Sample.randomId 7) "desk" 50

/-- A Profile in which "gift" was looked up and favorited. -/
def filledProfile : ProfileDb :=
  (favorite (recordSuccessfulQuery (.initial (Sample.randomId 6) "phone" 50) giftEntry
    (Sample.randomId 1)).1 Sample.giftKey 52 (Sample.randomId 2)).1

def filledExport : Option PortableDataExport := (exportDocument filledProfile none).toOption

def exportedBytes : List UInt8 :=
  filledExport.elim [] fun document => (prettyJson filledExport).toVecPretty document

def importing : List Action :=
  [.opened, .window 0 (.visible true), .submit (.previewImport "lvos-export.json"),
    .execute (some exportedBytes) 60 (fun _ => Sample.randomId 8), .deliver,
    .poll 0 ⟨0, importRequest 1 0 1 0 1, .applyImport 0⟩, .window 0 .turn,
    .window 0 (.answered true), .resume 0 0]

theorem consent_before_effect_importing :
    ∃ state plan, Transition.run (@step plainTables (prettyJson filledExport))
        (.start (some newProfile)) importing = some state ∧
      .applyImport 0 ∈ state.requests ∧ state.imports = [(0, plan)] ∧
      plan.preview = ⟨1, 0, 0, 1, 0, 0, 0, 1⟩ ∧
      Consented importing state (importRequest 1 0 1 0 1) := by
  have facts : (Transition.run (@step plainTables (prettyJson filledExport))
      (.start (some newProfile)) importing).any (fun state =>
        decide (.applyImport 0 ∈ state.requests) && (state.imports.map (fun entry =>
          (entry.1, entry.2.preview)) == [(0, ⟨1, 0, 0, 1, 0, 0, 0, 1⟩)])) = true := by
    decide +kernel
  obtain ⟨state, reached, both⟩ := (Option.any_eq_true _ _).mp facts
  rw [Bool.and_eq_true, decide_eq_true_eq, beq_iff_eq] at both
  obtain ⟨⟨token, plan⟩, imports, same⟩ := List.map_eq_singleton_iff.mp both.2
  obtain ⟨rfl, counts⟩ := Prod.mk.inj same
  have consented := (@consent_before_effect state plainTables _ _ _ reached).2.1 0 plan both.1
    (by rw [imports]; exact List.mem_singleton_self _)
  rw [counts] at consented
  exact ⟨state, plan, reached, both.1, imports, counts, consented⟩

end Lvos.System.Consent
