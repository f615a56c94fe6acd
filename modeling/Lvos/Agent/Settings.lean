import Lvos.Desktop.Preferences

set_option autoImplicit false

namespace Lvos.Agent.Settings

open Lvos.Core (trim)
open Lvos.Desktop
open Lvos.Platform (UpdateAnswers HotKey Registrations parseHotkey registerHotkey)
open Volume (Folder Writer)

/-- The operations of a management window that are saved in the preference store. -/
inductive Request
  | updatePopupIdleTimeout (seconds : Nat)
  | updateLaunchMinimized (enabled : Bool)
  | updateGlobalHotkey (shortcut : List Char)
deriving DecidableEq

/-- Where `run_requests` is: it takes one operation after the other. -/
inductive Work
  | idle
  | asking (shortcut : List Char)
  | saving (request : Request) (number : Nat)
deriving DecidableEq

/-- The Agent. An event of the native loop carries a shortcut, and whether its sender still waits
for the response. -/
structure Running where
  preferences : UiPreferences
  globalHotkey : List Char
  hotkey : Option HotKey
  events : List (List Char × Bool)
  work : Work
deriving DecidableEq

structure Machine where
  folder : Folder String
  registrations : Registrations
  agent : Option Running

def Machine.fresh : Machine := ⟨.empty, ⟨[], []⟩, none⟩

/-- The write that the operation asks the store for; none when it is refused. -/
def Request.write : Request → Option (String × List UInt8)
  | .updatePopupIdleTimeout seconds => (UiPreferences.savePopupIdleTimeout seconds).toOption
  | .updateLaunchMinimized enabled =>
      LocalPreferenceStore.saveBoolean launchMinimizedKey enabled
  | .updateGlobalHotkey shortcut => LocalPreferenceStore.saveText globalHotkeyKey (trim shortcut)

/-- What an operation that was saved changes in the Agent. -/
def Running.apply (running : Running) : Request → Running
  | .updatePopupIdleTimeout seconds =>
      { running with preferences.popupIdleTimeoutSecs := seconds }
  | .updateLaunchMinimized enabled => { running with preferences.launchMinimized := enabled }
  | .updateGlobalHotkey shortcut => { running with globalHotkey := shortcut }

/-- Calls `atomic_write`, or answers that the operation failed. -/
def Machine.save (machine : Machine) (running : Running) (request : Request) : Option Machine :=
  match request.write with
  | none => some { machine with agent := some { running with work := .idle } }
  | some (file, bytes) => do
      let folder ← machine.folder.step (.save file bytes)
      return { machine with
        folder := folder
        agent := some { running with work := .saving request machine.folder.writers.length } }

/-- What is left of a process that ends. -/
def Machine.stop (machine : Machine) : Machine where
  folder := { machine.folder with writers := machine.folder.writers.map Writer.stop }
  registrations := machine.registrations.dropOwn
  agent := none

/-- `fs::read`, when some files cannot be read. -/
def Machine.read (machine : Machine) (unreadable : List String) (file : String) :
    Option (List UInt8) :=
  if file ∈ unreadable then none else machine.folder.read file

def settingsFiles : List String := [popupIdleTimeoutFile, launchMinimizedFile, globalHotkeyFile]

inductive Action
  /-- `run_agent` up to the service, when some files cannot be read. -/
  | launch (unreadable : List String)
  /-- `install_hotkey`, before the native loop runs. -/
  | install (accepted : Bool)
  | request (request : Request)
  /-- The native loop takes its next event. -/
  | handle (answers : UpdateAnswers)
  /-- No response within five seconds. -/
  | timeout
  /-- A system call of an `atomic_write`. -/
  | advance (number : Nat) (outcome : Option Nat)
  /-- `atomic_write` returns to the operation. -/
  | complete
  /-- The Agent saves something else in the folder. -/
  | elsewhere (file : String) (bytes : List UInt8)
  /-- Another program registers a shortcut, or gives it back. -/
  | take (hotkey : HotKey)
  | release (hotkey : HotKey)
  /-- The Agent quits, or its process ends. -/
  | stop
  | powerLoss (back : Volume.Entry String → Nat) (garbage : Nat → List UInt8)

def Machine.launch (machine : Machine) (unreadable : List String) : Option Machine :=
  match machine.agent with
  | some _ => none
  | none =>
      let read := machine.read unreadable
      some { machine with
        agent := some ⟨loadUiPreferences read, loadPlatformHotkey read, none, [], .idle⟩ }

/-- The shortcut is the one that was loaded: only the loop that starts now can change it. -/
def Machine.install (machine : Machine) (running : Running) (accepted : Bool) : Option Machine :=
  match running.hotkey with
  | some _ => none
  | none =>
      match registerHotkey machine.registrations running.globalHotkey accepted with
      | .error _ => some machine.stop
      | .ok (hotkey, registrations) =>
          some { machine with
            registrations := registrations
            agent := some { running with hotkey := some hotkey } }

def Machine.request (machine : Machine) (running : Running) (request : Request) :
    Option Machine :=
  match running.work with
  | .idle =>
      match request with
      | .updateGlobalHotkey shortcut =>
          some { machine with
            agent := some { running with
              events := running.events ++ [(shortcut, true)]
              work := .asking shortcut } }
      | _ => machine.save running request
  | _ => none

def Machine.handle (machine : Machine) (running : Running) (answers : UpdateAnswers) :
    Option Machine :=
  match running.hotkey, running.events with
  | some active, (shortcut, awaited) :: events =>
      let (result, hotkey, registrations) :=
        Platform.update machine.registrations active shortcut answers
      let machine := { machine with registrations := registrations }
      let running := { running with hotkey := some hotkey, events := events }
      if awaited then
        match result with
        | .ok () => machine.save running (.updateGlobalHotkey shortcut)
        | .error _ => some { machine with agent := some { running with work := .idle } }
      else some { machine with agent := some running }
  | _, _ => none

def Machine.timeout (machine : Machine) (running : Running) : Option Machine :=
  match running.work with
  | .asking _ =>
      some { machine with
        agent := some { running with
          events := running.events.map fun event => (event.1, false)
          work := .idle } }
  | _ => none

def Machine.complete (machine : Machine) (running : Running) : Option Machine :=
  match running.work with
  | .saving request number => do
      let writer ← machine.folder.writers[number]?
      match writer.stage with
      | .finished true =>
          some { machine with agent := some { running.apply request with work := .idle } }
      | .finished false => some { machine with agent := some { running with work := .idle } }
      | _ => none
  | _ => none

def Machine.step (machine : Machine) : Action → Option Machine
  | .launch unreadable => machine.launch unreadable
  | .install accepted => machine.agent.bind fun running => machine.install running accepted
  | .request request => machine.agent.bind fun running => machine.request running request
  | .handle answers => machine.agent.bind fun running => machine.handle running answers
  | .timeout => machine.agent.bind machine.timeout
  | .advance number outcome =>
      (machine.folder.step (.advance number outcome)).map fun folder =>
        { machine with folder := folder }
  | .complete => machine.agent.bind machine.complete
  | .elsewhere file bytes => do
      let _ ← machine.agent
      if file ∈ settingsFiles then none
      else
        let folder ← machine.folder.step (.save file bytes)
        return { machine with folder := folder }
  | .take hotkey =>
      (machine.registrations.take hotkey).map fun registrations =>
        { machine with registrations := registrations }
  | .release hotkey => some { machine with registrations := machine.registrations.release hotkey }
  | .stop => machine.agent.map fun _ => machine.stop
  | .powerLoss back garbage =>
      (machine.folder.step (.powerLoss back garbage)).map fun folder =>
        ⟨folder, ⟨[], []⟩, none⟩

/-! What a step can do -/

/-- What `save` does. -/
inductive Saved (machine : Machine) (running : Running) (request : Request) : Machine → Prop
  | refused (refuses : request.write = none) :
      Saved machine running request { machine with agent := some { running with work := .idle } }
  | begun {file : String} {bytes : List UInt8} (write : request.write = some (file, bytes)) :
      Saved machine running request { machine with
        folder := { machine.folder with
          writers := machine.folder.writers ++ [⟨file, bytes, .preparing⟩] }
        agent := some { running with work := .saving request machine.folder.writers.length } }

inductive Moved (machine : Machine) : Action → Machine → Prop
  | launch (unreadable : List String) (off : machine.agent = none) :
      Moved machine (.launch unreadable) { machine with
        agent := some ⟨loadUiPreferences (machine.read unreadable),
          loadPlatformHotkey (machine.read unreadable), none, [], .idle⟩ }
  | install {running : Running} {accepted : Bool} {hotkey : HotKey} {after : Registrations}
      (on : machine.agent = some running) (loading : running.hotkey = none)
      (registered : registerHotkey machine.registrations running.globalHotkey accepted =
        .ok (hotkey, after)) :
      Moved machine (.install accepted) { machine with
        registrations := after
        agent := some { running with hotkey := some hotkey } }
  | unavailable {running : Running} (accepted : Bool) (on : machine.agent = some running)
      (loading : running.hotkey = none) : Moved machine (.install accepted) machine.stop
  | ask {running : Running} (shortcut : List Char) (on : machine.agent = some running)
      (idle : running.work = .idle) :
      Moved machine (.request (.updateGlobalHotkey shortcut)) { machine with
        agent := some { running with
          events := running.events ++ [(shortcut, true)]
          work := .asking shortcut } }
  | save {running : Running} {request : Request} {next : Machine}
      (on : machine.agent = some running) (idle : running.work = .idle)
      (other : ∀ shortcut, request ≠ .updateGlobalHotkey shortcut)
      (saved : Saved machine running request next) : Moved machine (.request request) next
  | updated {running : Running} {active now : HotKey} {shortcut : List Char}
      {events : List (List Char × Bool)} {answers : UpdateAnswers} {after : Registrations}
      {next : Machine} (on : machine.agent = some running)
      (installed : running.hotkey = some active)
      (first : running.events = (shortcut, true) :: events)
      (update : Platform.Updated machine.registrations active shortcut answers (.ok ()) now after)
      (saved : Saved { machine with registrations := after }
        { running with hotkey := some now, events := events } (.updateGlobalHotkey shortcut)
        next) :
      Moved machine (.handle answers) next
  | failed {running : Running} {active now : HotKey} {shortcut : List Char}
      {events : List (List Char × Bool)} {answers : UpdateAnswers} {after : Registrations}
      {error : Platform.PlatformError} (on : machine.agent = some running)
      (installed : running.hotkey = some active)
      (first : running.events = (shortcut, true) :: events)
      (update : Platform.Updated machine.registrations active shortcut answers (.error error) now
        after) :
      Moved machine (.handle answers) { machine with
        registrations := after
        agent := some { running with hotkey := some now, events := events, work := .idle } }
  | abandoned {running : Running} {active now : HotKey} {shortcut : List Char}
      {events : List (List Char × Bool)} {answers : UpdateAnswers} {after : Registrations}
      {result : Except Platform.PlatformError Unit} (on : machine.agent = some running)
      (installed : running.hotkey = some active)
      (first : running.events = (shortcut, false) :: events)
      (update : Platform.Updated machine.registrations active shortcut answers result now after) :
      Moved machine (.handle answers) { machine with
        registrations := after
        agent := some { running with hotkey := some now, events := events } }
  | timeout {running : Running} {shortcut : List Char} (on : machine.agent = some running)
      (asking : running.work = .asking shortcut) :
      Moved machine .timeout { machine with
        agent := some { running with
          events := running.events.map fun event => (event.1, false)
          work := .idle } }
  | advance {number : Nat} {outcome : Option Nat} {folder : Folder String}
      (taken : machine.folder.step (.advance number outcome) = some folder) :
      Moved machine (.advance number outcome) { machine with folder := folder }
  | complete {running : Running} {request : Request} {number : Nat} {writer : Writer String}
      {success : Bool} (on : machine.agent = some running)
      (saving : running.work = .saving request number)
      (there : machine.folder.writers[number]? = some writer)
      (finished : writer.stage = .finished success) :
      Moved machine .complete { machine with
        agent := some { (if success then running.apply request else running) with
          work := .idle } }
  | elsewhere {running : Running} {file : String} (bytes : List UInt8)
      (on : machine.agent = some running) (other : file ∉ settingsFiles) :
      Moved machine (.elsewhere file bytes) { machine with
        folder := { machine.folder with
          writers := machine.folder.writers ++ [⟨file, bytes, .preparing⟩] } }
  | take {hotkey : HotKey} {after : Registrations}
      (taken : machine.registrations.take hotkey = some after) :
      Moved machine (.take hotkey) { machine with registrations := after }
  | release (hotkey : HotKey) :
      Moved machine (.release hotkey)
        { machine with registrations := machine.registrations.release hotkey }
  | stop : Moved machine .stop machine.stop
  | powerLoss (back : Volume.Entry String → Nat) (garbage : Nat → List UInt8) :
      Moved machine (.powerLoss back garbage)
        ⟨⟨machine.folder.disk.powerLoss back garbage, machine.folder.writers.map Writer.stop⟩,
          ⟨[], []⟩, none⟩

variable {machine next : Machine} {running : Running}

theorem save_cases {request : Request} (saved : machine.save running request = some next) :
    Saved machine running request next := by
  unfold Machine.save at saved
  split at saved
  · rename_i refuses
    cases saved
    exact .refused refuses
  · rename_i file bytes write
    cases saved
    exact .begun write

theorem handle_cases {answers : UpdateAnswers} (on : machine.agent = some running)
    (handled : machine.handle running answers = some next) :
    Moved machine (.handle answers) next := by
  unfold Machine.handle at handled
  split at handled
  · rename_i active shortcut awaited events installed first
    have update := Platform.update_cases machine.registrations active shortcut answers
    cases outcome : Platform.update machine.registrations active shortcut answers with
    | mk result rest =>
        rw [outcome] at handled update
        cases awaited with
        | true =>
            cases result with
            | ok done => exact .updated on installed first update (save_cases handled)
            | error error =>
                cases handled
                have moved := Moved.failed on installed first update
                exact moved
        | false =>
            cases handled
            have moved := Moved.abandoned on installed first update
            exact moved
  · cases handled

theorem step_cases {action : Action} (taken : machine.step action = some next) :
    Moved machine action next := by
  cases action with
  | launch unreadable =>
      change machine.launch unreadable = some next at taken
      unfold Machine.launch at taken
      split at taken
      · cases taken
      · rename_i off
        cases taken
        exact .launch unreadable off
  | install accepted =>
      obtain ⟨running, on, installs⟩ := Option.bind_eq_some_iff.mp taken
      unfold Machine.install at installs
      split at installs
      · cases installs
      · rename_i loading
        split at installs
        · cases installs
          exact .unavailable accepted on loading
        · rename_i hotkey after registered
          cases installs
          exact .install on loading registered
  | request request =>
      obtain ⟨running, on, requests⟩ := Option.bind_eq_some_iff.mp taken
      unfold Machine.request at requests
      split at requests
      · rename_i idle
        split at requests
        · rename_i shortcut
          cases requests
          exact .ask shortcut on idle
        · rename_i other
          exact .save on idle other (save_cases requests)
      · cases requests
  | handle answers =>
      obtain ⟨running, on, handles⟩ := Option.bind_eq_some_iff.mp taken
      exact handle_cases on handles
  | timeout =>
      obtain ⟨running, on, expires⟩ := Option.bind_eq_some_iff.mp taken
      unfold Machine.timeout at expires
      split at expires
      · rename_i shortcut asking
        cases expires
        exact .timeout on asking
      · cases expires
  | advance number outcome =>
      obtain ⟨folder, advances, rfl⟩ := Option.map_eq_some_iff.mp taken
      exact .advance advances
  | complete =>
      obtain ⟨running, on, completes⟩ := Option.bind_eq_some_iff.mp taken
      unfold Machine.complete at completes
      split at completes
      · rename_i request number saving
        obtain ⟨writer, there, ends⟩ := Option.bind_eq_some_iff.mp completes
        split at ends
        · rename_i finished
          cases ends
          exact .complete on saving there finished
        · rename_i finished
          cases ends
          exact .complete on saving there finished
        · cases ends
      · cases completes
  | elsewhere file bytes =>
      obtain ⟨running, on, writes⟩ := Option.bind_eq_some_iff.mp taken
      split at writes
      · cases writes
      · rename_i other
        cases writes
        exact .elsewhere bytes on other
  | take hotkey =>
      obtain ⟨after, takes, rfl⟩ := Option.map_eq_some_iff.mp taken
      exact .take takes
  | release hotkey =>
      cases taken
      exact .release hotkey
  | stop =>
      obtain ⟨running, on, rfl⟩ := Option.map_eq_some_iff.mp taken
      exact .stop
  | powerLoss back garbage =>
      cases taken
      exact .powerLoss back garbage

/-! What is written was asked for -/

namespace Request

/-- An operation that gets as far as a write. -/
def Accepted : Request → Prop
  | .updatePopupIdleTimeout seconds => seconds ≤ maxPopupIdleTimeoutSecs
  | .updateLaunchMinimized _ => True
  | .updateGlobalHotkey shortcut => (parseHotkey shortcut).isSome = true

def file : Request → String
  | .updatePopupIdleTimeout _ => popupIdleTimeoutFile
  | .updateLaunchMinimized _ => launchMinimizedFile
  | .updateGlobalHotkey _ => globalHotkeyFile

def bytes : Request → List UInt8
  | .updatePopupIdleTimeout seconds => Hex.utf8 (Nat.toDigits 10 seconds)
  | .updateLaunchMinimized enabled => Hex.utf8 (if enabled then "true" else "false").toList
  | .updateGlobalHotkey shortcut => Hex.utf8 (trim shortcut)

theorem file_mem (request : Request) : request.file ∈ settingsFiles := by
  cases request <;> simp [file, settingsFiles]

theorem write_eq {request : Request} {file : String} {bytes : List UInt8}
    (write : request.write = some (file, bytes)) :
    file = request.file ∧ bytes = request.bytes ∧
      ((∀ shortcut, request ≠ .updateGlobalHotkey shortcut) → request.Accepted) := by
  cases request with
  | updatePopupIdleTimeout seconds =>
      simp only [Request.write, UiPreferences.savePopupIdleTimeout,
        validatePopupIdleTimeout] at write
      by_cases small : seconds ≤ maxPopupIdleTimeoutSecs
      · rw [if_pos small] at write
        cases write
        exact ⟨rfl, rfl, fun _ => small⟩
      · rw [if_neg small] at write
        cases write
  | updateLaunchMinimized enabled =>
      cases write
      exact ⟨rfl, rfl, fun _ => trivial⟩
  | updateGlobalHotkey shortcut =>
      cases write
      exact ⟨rfl, rfl, fun other => absurd rfl (other shortcut)⟩

end Request

/-- The event whose response the operation waits for. -/
def Work.awaited : Work → List (List Char × Bool)
  | .asking shortcut => [(shortcut, true)]
  | _ => []

/-- One operation is under way at a time, and only it writes a preference. -/
structure Ordered (done : List Action) (writers : List (Writer String))
    (running : Running) : Prop where
  events : ∃ abandoned : List (List Char × Bool),
    (∀ event ∈ abandoned, event.2 = false) ∧ running.events = abandoned ++ running.work.awaited
  asked : ∀ {shortcut}, running.work = .asking shortcut →
    .request (.updateGlobalHotkey shortcut) ∈ done
  alone : ∀ {number writer}, writers[number]? = some writer → writer.target ∈ settingsFiles →
    writer.stage.ended = false → ∃ request, running.work = .saving request number
  saving : ∀ {request number}, running.work = .saving request number →
    request.Accepted ∧ ∃ writer, writers[number]? = some writer ∧
      writer.target = request.file ∧ writer.bytes = request.bytes

/-- No preference is being written. -/
def Quiet (writers : List (Writer String)) : Prop :=
  ∀ writer ∈ writers, writer.target ∈ settingsFiles → writer.stage.ended = true

/-- What may stand in a file. -/
def Asked (done : List Action) (file : String) (bytes : List UInt8) : Prop :=
  file ∈ settingsFiles → ∃ request : Request,
    .request request ∈ done ∧ request.Accepted ∧ file = request.file ∧ bytes = request.bytes

structure Sound (done : List Action) (machine : Machine) : Prop where
  sanctioned : Volume.Sanctioned (Asked done) machine.folder
  off : machine.agent = none → ∀ writer ∈ machine.folder.writers, writer.stage.ended = true
  on : ∀ running, machine.agent = some running →
    Ordered done machine.folder.writers running

variable {done : List Action} {writers : List (Writer String)}

theorem Asked.more {file : String} {bytes : List UInt8} (asked : Asked done file bytes)
    (action : Action) : Asked (done ++ [action]) file bytes := by
  intro ours
  obtain ⟨request, among, rest⟩ := asked ours
  exact ⟨request, List.mem_append_left _ among, rest⟩

namespace Ordered

theorem more (ordered : Ordered done writers running) (action : Action) :
    Ordered (done ++ [action]) writers running :=
  ⟨ordered.events, fun asking => List.mem_append_left _ (ordered.asked asking), ordered.alone,
    ordered.saving⟩

/-- The first event that is awaited is the only event. -/
theorem first_awaited (ordered : Ordered done writers running) {shortcut : List Char}
    {events : List (List Char × Bool)} (first : running.events = (shortcut, true) :: events) :
    running.work = .asking shortcut ∧ events = [] := by
  obtain ⟨abandoned, flags, whole⟩ := ordered.events
  rw [first] at whole
  cases abandoned with
  | cons event rest =>
      have flag := flags event List.mem_cons_self
      rw [List.cons_append, List.cons.injEq] at whole
      rw [← whole.1] at flag
      cases flag
  | nil =>
      cases work : running.work with
      | idle =>
          rw [work] at whole
          cases whole
      | asking asked =>
          rw [work] at whole
          cases whole
          exact ⟨rfl, rfl⟩
      | saving request number =>
          rw [work] at whole
          cases whole

/-- The first event that is not awaited is one of those before. -/
theorem first_abandoned (ordered : Ordered done writers running) {shortcut : List Char}
    {events : List (List Char × Bool)} (first : running.events = (shortcut, false) :: events) :
    ∃ abandoned : List (List Char × Bool),
      (∀ event ∈ abandoned, event.2 = false) ∧ events = abandoned ++ running.work.awaited := by
  obtain ⟨abandoned, flags, whole⟩ := ordered.events
  rw [first] at whole
  cases abandoned with
  | cons event rest =>
      cases whole
      exact ⟨rest, fun event among => flags event (List.mem_cons_of_mem _ among), rfl⟩
  | nil =>
      cases work : running.work with
      | idle =>
          rw [work] at whole
          cases whole
      | asking asked =>
          rw [work] at whole
          cases whole
      | saving request number =>
          rw [work] at whole
          cases whole

/-- Nobody writes a preference between operations. -/
theorem quiet (ordered : Ordered done writers running)
    (settled : ∀ request number, running.work ≠ .saving request number) : Quiet writers := by
  intro writer among ours
  obtain ⟨number, there⟩ := List.mem_iff_getElem?.mp among
  cases ended : writer.stage.ended with
  | true => rfl
  | false =>
      obtain ⟨request, work⟩ := ordered.alone there ours ended
      exact absurd work (settled request number)

/-- An operation begins its write. -/
theorem begun (quiet : Quiet writers) (events : ∀ event ∈ running.events, event.2 = false)
    {request : Request} (accepted : request.Accepted) :
    Ordered done (writers ++ [⟨request.file, request.bytes, .preparing⟩])
      { running with work := .saving request writers.length } where
  events := ⟨running.events, events, (List.append_nil _).symm⟩
  asked asking := by cases asking
  alone := by
    intro number writer there ours live
    rcases Volume.append_cases there with former | ⟨rfl, _⟩
    · rw [quiet writer (List.mem_of_getElem? former) ours] at live
      cases live
    · exact ⟨request, rfl⟩
  saving := by
    intro other number saving
    cases saving
    exact ⟨accepted, _, List.getElem?_concat_length, rfl, rfl⟩

/-- An operation ends, or has not begun. -/
theorem idle (quiet : Quiet writers) (rests : running.work = .idle)
    (events : ∀ event ∈ running.events, event.2 = false) : Ordered done writers running where
  events := by
    refine ⟨running.events, events, ?_⟩
    rw [rests]
    exact (List.append_nil _).symm
  asked asking := by
    rw [rests] at asking
    cases asking
  alone := by
    intro number writer there ours live
    rw [quiet writer (List.mem_of_getElem? there) ours] at live
    cases live
  saving saving := by
    rw [rests] at saving
    cases saving

/-- A writer makes a call. -/
theorem advanced (ordered : Ordered done writers running) {number : Nat} {writer : Writer String}
    (there : writers[number]? = some writer) (busy : writer.stage.ended = false)
    (stage : Volume.Stage) :
    Ordered done (writers.set number { writer with stage := stage }) running where
  events := ordered.events
  asked := ordered.asked
  alone := by
    intro other found present ours live
    by_cases same : other = number
    · subst same
      rw [List.getElem?_set_self (List.getElem?_eq_some_iff.mp there).1] at present
      cases present
      exact ordered.alone there ours busy
    · rw [List.getElem?_set_ne (Ne.symm same)] at present
      exact ordered.alone present ours live
  saving := by
    intro request other saving
    obtain ⟨accepted, found, present, target, bytes⟩ := ordered.saving saving
    refine ⟨accepted, ?_⟩
    by_cases same : other = number
    · subst same
      rw [there] at present
      cases present
      exact ⟨_, List.getElem?_set_self (List.getElem?_eq_some_iff.mp there).1, target, bytes⟩
    · exact ⟨found, by rw [List.getElem?_set_ne (Ne.symm same)]; exact present, target, bytes⟩

end Ordered

theorem sound_fresh : Sound [] .fresh where
  sanctioned := Volume.sanctioned_empty _
  off _ := fun writer among => absurd among List.not_mem_nil
  on := by
    intro running on
    cases on

theorem sound_on {folder : Folder String} {registrations : Registrations}
    (sanctioned : Volume.Sanctioned (Asked done) folder)
    (ordered : Ordered done folder.writers running) :
    Sound done ⟨folder, registrations, some running⟩ where
  sanctioned := sanctioned
  off := by
    intro off
    cases off
  on := by
    intro other on
    cases on
    exact ordered

theorem sound_off {folder : Folder String} {registrations : Registrations}
    (sanctioned : Volume.Sanctioned (Asked done) folder)
    (ended : ∀ writer ∈ folder.writers, writer.stage.ended = true) :
    Sound done ⟨folder, registrations, none⟩ where
  sanctioned := sanctioned
  off _ := ended
  on := by
    intro running on
    cases on

theorem stopped_ended :
    ∀ writer ∈ writers.map Writer.stop, writer.stage.ended = true := by
  intro writer among
  obtain ⟨former, _, rfl⟩ := List.mem_map.mp among
  exact Volume.stop_ended former

theorem Saved.sound {request : Request} (saved : Saved machine running request next)
    (sanctioned : Volume.Sanctioned (Asked done) machine.folder)
    (quiet : Quiet machine.folder.writers)
    (events : ∀ event ∈ running.events, event.2 = false) (among : .request request ∈ done)
    (accepted : (∀ shortcut, request ≠ .updateGlobalHotkey shortcut) ∨ request.Accepted) :
    Sound done next := by
  cases saved with
  | refused refuses => exact sound_on sanctioned (.idle quiet rfl events)
  | @begun file bytes write =>
      obtain ⟨rfl, rfl, other⟩ := Request.write_eq write
      have accepted := accepted.elim other id
      refine sound_on ?_ (.begun quiet events accepted)
      have begins : machine.folder.step (.save request.file request.bytes) =
          some { machine.folder with
            writers := machine.folder.writers ++ [⟨request.file, request.bytes, .preparing⟩] } :=
        rfl
      apply sanctioned.step begins
      intro target written same
      cases same
      exact fun _ => ⟨request, among, accepted, rfl, rfl⟩

theorem Sound.step {action : Action} (sound : Sound done machine)
    (taken : machine.step action = some next) : Sound (done ++ [action]) next := by
  have sanctioned : Volume.Sanctioned (Asked (done ++ [action])) machine.folder :=
    sound.sanctioned.imp fun _ _ asked => asked.more action
  have on : ∀ {running}, machine.agent = some running →
      Ordered (done ++ [action]) machine.folder.writers running :=
    fun on => (sound.on _ on).more action
  have now : action ∈ done ++ [action] := by simp
  have ended : Volume.Sanctioned (Asked (done ++ [action]))
      { machine.folder with writers := machine.folder.writers.map Writer.stop } :=
    sanctioned.step (show machine.folder.step .crash = some _ from rfl)
      fun _ _ same => by cases same
  cases step_cases taken with
  | launch unreadable off =>
      refine sound_on sanctioned (.idle ?_ rfl (by simp))
      exact fun writer among _ => sound.off off writer among
  | install running loading registered => exact sound_on sanctioned ⟨(on running).events,
      (on running).asked, (on running).alone, (on running).saving⟩
  | unavailable accepted running loading => exact sound_off ended stopped_ended
  | @ask running shortcut here idle =>
      have ordered := on here
      have quiet := ordered.quiet (by simp [idle])
      refine sound_on sanctioned ⟨?_, ?_, ?_, ?_⟩
      · obtain ⟨abandoned, flags, whole⟩ := ordered.events
        rw [idle] at whole
        refine ⟨abandoned, flags, ?_⟩
        rw [whole]
        simp [Work.awaited]
      · intro other asking
        cases asking
        exact now
      · intro number writer there ours live
        rw [quiet writer (List.mem_of_getElem? there) ours] at live
        cases live
      · intro request number saving
        cases saving
  | @save running request next here idle other saved =>
      have ordered := on here
      obtain ⟨abandoned, flags, whole⟩ := ordered.events
      rw [idle] at whole
      apply saved.sound sanctioned (ordered.quiet (by simp [idle])) _ now (.inl other)
      rw [whole]
      simpa [Work.awaited] using flags
  | @updated running active hotkey shortcut events answers after next here installed first
      update saved =>
      have ordered := on here
      obtain ⟨asking, rfl⟩ := ordered.first_awaited first
      apply saved.sound sanctioned (ordered.quiet (by simp [asking])) (by simp)
        (ordered.asked asking)
      refine .inr ?_
      rw [Request.Accepted, update.parsed]
      rfl
  | @failed running active hotkey shortcut events answers after error here installed first
      update =>
      have ordered := on here
      obtain ⟨asking, rfl⟩ := ordered.first_awaited first
      have quiet := ordered.quiet (by simp [asking])
      exact sound_on sanctioned (.idle quiet rfl (by simp))
  | @abandoned running active hotkey shortcut events answers after result here installed first
      update =>
      have ordered := on here
      exact sound_on sanctioned
        ⟨ordered.first_abandoned first, ordered.asked, ordered.alone, ordered.saving⟩
  | @timeout running shortcut here asking =>
      have ordered := on here
      exact sound_on sanctioned (.idle (ordered.quiet (by simp [asking])) rfl (by simp))
  | @advance number outcome folder advances =>
      have kept := sanctioned.step advances fun _ _ same => by cases same
      obtain ⟨_, effect⟩ := Volume.step_effect sanctioned.intact advances
      have moved : ∃ writer stage, machine.folder.writers[number]? = some writer ∧
          writer.stage.ended = false ∧
          folder.writers = machine.folder.writers.set number { writer with stage := stage } := by
        generalize folder.register = register at effect
        generalize folder.writers = writers at effect
        cases effect with
        | replace there replaces => exact ⟨_, _, there, by rw [replaces]; rfl, rfl⟩
        | work there busy unfinished => exact ⟨_, _, there, busy, rfl⟩
      obtain ⟨writer, stage, there, busy, same⟩ := moved
      cases agent : machine.agent with
      | none =>
          rw [sound.off agent writer (List.mem_of_getElem? there)] at busy
          cases busy
      | some running =>
          refine sound_on kept ?_
          rw [same]
          exact (on agent).advanced there busy stage
  | @complete running request number writer success here saving there finished =>
      have ordered := on here
      have quiet : Quiet machine.folder.writers := by
        intro other among ours
        obtain ⟨place, present⟩ := List.mem_iff_getElem?.mp among
        cases live : other.stage.ended with
        | true => rfl
        | false =>
            obtain ⟨_, work⟩ := ordered.alone present ours live
            rw [saving] at work
            cases work
            rw [there] at present
            cases present
            rw [finished] at live
            cases live
      obtain ⟨abandoned, flags, whole⟩ := ordered.events
      rw [saving] at whole
      have events : ∀ event ∈ running.events, event.2 = false := by
        rw [whole]
        simpa [Work.awaited] using flags
      refine sound_on sanctioned (.idle quiet rfl ?_)
      cases success with
      | false => exact events
      | true => cases request <;> exact events
  | @elsewhere running file bytes here other =>
      have ordered := on here
      have begins : machine.folder.step (.save file bytes) = some { machine.folder with
          writers := machine.folder.writers ++ [⟨file, bytes, .preparing⟩] } := rfl
      have kept := sanctioned.step begins fun target written same => by
        cases same
        exact fun ours => absurd ours other
      rw [show machine.agent = some running from here]
      refine sound_on kept ⟨ordered.events, ordered.asked, ?_, ?_⟩
      · intro number writer there ours live
        rcases Volume.append_cases there with former | ⟨_, rfl⟩
        · exact ordered.alone former ours live
        · exact absurd ours other
      · intro request number saving
        obtain ⟨accepted, writer, there, rest⟩ := ordered.saving saving
        refine ⟨accepted, writer, ?_, rest⟩
        rw [List.getElem?_append_left (List.getElem?_eq_some_iff.mp there).1]
        exact there
  | take takes => exact ⟨sanctioned, sound.off, fun _ => on⟩
  | release hotkey => exact ⟨sanctioned, sound.off, fun _ => on⟩
  | stop => exact sound_off ended stopped_ended
  | powerLoss back garbage =>
      refine sound_off ?_ stopped_ended
      exact sanctioned.step (show machine.folder.step (.powerLoss back garbage) = some _ from rfl)
        fun _ _ same => by cases same

theorem files_distinct : popupIdleTimeoutFile ≠ launchMinimizedFile ∧
    popupIdleTimeoutFile ≠ globalHotkeyFile ∧ launchMinimizedFile ≠ globalHotkeyFile := by decide

/-- Files with what was asked for are those of a store. -/
theorem exists_stored {read : String → Option (List UInt8)}
    (each : ∀ file bytes, read file = some bytes → Asked done file bytes) :
    ∃ stored : StoredPreferences, stored.Tells read ∧
      (∀ seconds ∈ stored.popupIdleTimeoutSecs,
        .request (.updatePopupIdleTimeout seconds) ∈ done) ∧
      (∀ enabled ∈ stored.launchMinimized, .request (.updateLaunchMinimized enabled) ∈ done) ∧
      ∀ text ∈ stored.globalHotkey, ∃ shortcut,
        .request (.updateGlobalHotkey shortcut) ∈ done ∧ text = trim shortcut := by
  have timeout : ∃ value : Option Nat,
      (∀ seconds ∈ value, seconds ≤ maxPopupIdleTimeoutSecs ∧
        .request (.updatePopupIdleTimeout seconds) ∈ done) ∧
      read popupIdleTimeoutFile =
        value.map fun seconds => Hex.utf8 (Nat.toDigits 10 seconds) := by
    cases saved : read popupIdleTimeoutFile with
    | none => exact ⟨none, by simp, rfl⟩
    | some bytes =>
        obtain ⟨request, among, accepted, file, rfl⟩ := each _ _ saved (by simp [settingsFiles])
        cases request with
        | updatePopupIdleTimeout seconds =>
            refine ⟨some seconds, ?_, rfl⟩
            intro other same
            cases same
            exact ⟨accepted, among⟩
        | updateLaunchMinimized enabled => exact absurd file files_distinct.1
        | updateGlobalHotkey shortcut => exact absurd file files_distinct.2.1
  have minimized : ∃ value : Option Bool,
      (∀ enabled ∈ value, .request (.updateLaunchMinimized enabled) ∈ done) ∧
      read launchMinimizedFile =
        value.map fun enabled => Hex.utf8 (if enabled then "true" else "false").toList := by
    cases saved : read launchMinimizedFile with
    | none => exact ⟨none, by simp, rfl⟩
    | some bytes =>
        obtain ⟨request, among, accepted, file, rfl⟩ := each _ _ saved (by simp [settingsFiles])
        cases request with
        | updatePopupIdleTimeout seconds => exact absurd file files_distinct.1.symm
        | updateLaunchMinimized enabled =>
            refine ⟨some enabled, ?_, rfl⟩
            intro other same
            cases same
            exact among
        | updateGlobalHotkey shortcut => exact absurd file files_distinct.2.2
  have hotkey : ∃ value : Option (List Char),
      (∀ text ∈ value, (parseHotkey text).isSome = true ∧ ∃ shortcut,
        .request (.updateGlobalHotkey shortcut) ∈ done ∧ text = trim shortcut) ∧
      read globalHotkeyFile = value.map Hex.utf8 := by
    cases saved : read globalHotkeyFile with
    | none => exact ⟨none, by simp, rfl⟩
    | some bytes =>
        obtain ⟨request, among, accepted, file, rfl⟩ := each _ _ saved (by simp [settingsFiles])
        cases request with
        | updatePopupIdleTimeout seconds => exact absurd file files_distinct.2.1.symm
        | updateLaunchMinimized enabled => exact absurd file files_distinct.2.2.symm
        | updateGlobalHotkey shortcut =>
            refine ⟨some (trim shortcut), ?_, rfl⟩
            intro other same
            cases same
            rw [Platform.parseHotkey_trim]
            exact ⟨accepted, shortcut, among, rfl⟩
  obtain ⟨popupIdleTimeoutSecs, bounded, first⟩ := timeout
  obtain ⟨launchMinimized, asked, second⟩ := minimized
  obtain ⟨globalHotkey, parsed, third⟩ := hotkey
  exact ⟨⟨popupIdleTimeoutSecs, launchMinimized, globalHotkey, fun seconds among =>
      (bounded seconds among).1, fun text among => (parsed text among).1⟩, ⟨first, second, third⟩,
    fun seconds among => (bounded seconds among).2, asked, fun text among => (parsed text among).2⟩

theorem run_sound {actions : List Action}
    (reached : Transition.run Machine.step .fresh actions = some machine) :
    Sound actions machine :=
  @Transition.run_keeps_history _ _ Machine.step (fun _ _ => True) Sound
    (fun _ _ _ _ sound _ taken => sound.step taken) actions [] _ _ sound_fresh
    (Transition.meets_true _ _ _) reached

theorem Sound.reads (sound : Sound done machine) (unreadable : List String) :
    ∀ file bytes, machine.read unreadable file = some bytes → Asked done file bytes := by
  intro file bytes read
  obtain ⟨_, found⟩ := Option.ite_none_left_eq_some.mp read
  apply sound.sanctioned.values
  rw [← found]
  exact List.mem_cons_self

theorem hotkey_parsed (stored : StoredPreferences) : (parseHotkey stored.hotkey).isSome = true := by
  cases saved : stored.globalHotkey with
  | none =>
      rw [StoredPreferences.hotkey, saved]
      decide
  | some text =>
      rw [StoredPreferences.hotkey, saved]
      exact stored.parsed text saved

/-- However saves fail or are cut off, by the end of the Agent or by a power loss, and whatever
cannot be read: a launch is not refused, and what it loads is its default or was asked for. -/
theorem launch_as_asked {actions : List Action}
    (reached : Transition.run Machine.step .fresh actions = some machine)
    (unreadable : List String) :
    ∃ preferences, UiPreferences.load (machine.read unreadable) = .ok preferences ∧
      preferences.popupIdleTimeoutSecs ≤ maxPopupIdleTimeoutSecs ∧
      (preferences.popupIdleTimeoutSecs = defaultPopupIdleTimeoutSecs ∨
        .request (.updatePopupIdleTimeout preferences.popupIdleTimeoutSecs) ∈ actions) ∧
      (preferences.launchMinimized = true ∨
        .request (.updateLaunchMinimized preferences.launchMinimized) ∈ actions) ∧
      (loadPlatformHotkey (machine.read unreadable) = defaultHotkey ∨ ∃ shortcut,
        .request (.updateGlobalHotkey shortcut) ∈ actions ∧
          loadPlatformHotkey (machine.read unreadable) = trim shortcut) ∧
      (parseHotkey (loadPlatformHotkey (machine.read unreadable))).isSome = true := by
  obtain ⟨stored, tells, timeout, minimized, hotkey⟩ :=
    exists_stored ((run_sound reached).reads unreadable)
  rw [tells.loadPlatformHotkey]
  refine ⟨stored.preferences, tells.load, ?_, ?_, ?_, ?_, hotkey_parsed stored⟩
  · cases saved : stored.popupIdleTimeoutSecs with
    | none =>
        rw [StoredPreferences.preferences, saved]
        exact (by decide : defaultPopupIdleTimeoutSecs ≤ maxPopupIdleTimeoutSecs)
    | some seconds =>
        rw [StoredPreferences.preferences, saved]
        exact stored.bounded seconds saved
  · cases saved : stored.popupIdleTimeoutSecs with
    | none =>
        rw [StoredPreferences.preferences, saved]
        exact .inl rfl
    | some seconds =>
        rw [StoredPreferences.preferences, saved]
        exact .inr (timeout seconds saved)
  · cases saved : stored.launchMinimized with
    | none =>
        rw [StoredPreferences.preferences, saved]
        exact .inl rfl
    | some enabled =>
        rw [StoredPreferences.preferences, saved]
        exact .inr (minimized enabled saved)
  · cases saved : stored.globalHotkey with
    | none =>
        rw [StoredPreferences.hotkey, saved]
        exact .inl rfl
    | some text =>
        rw [StoredPreferences.hotkey, saved]
        exact .inr (hotkey text saved)

/-- A shortcut is typed with spaces, registered and saved. -/
def newShortcut : List Action :=
  [Action.launch [], .install true, .request (.updateGlobalHotkey " Ctrl + K".toList),
    .handle ⟨true, true, true⟩] ++
    [some 0, some 0, some 7, some 0, some 0, some 0].map (Action.advance 0) ++ [Action.complete]

def withShortcut : Running :=
  ⟨.default, " Ctrl + K".toList, some ⟨⟨false, true, false, false⟩, 'K'⟩, [], .idle⟩

theorem newShortcut_reached : ∃ machine,
    Transition.run Machine.step .fresh newShortcut = some machine ∧
      machine.agent = some withShortcut := by
  have found : (Transition.run Machine.step .fresh newShortcut).any
      (fun machine => decide (machine.agent = some withShortcut)) = true := by decide +kernel
  obtain ⟨machine, reached, agent⟩ := (Option.any_eq_true _ _).mp found
  exact ⟨machine, reached, of_decide_eq_true agent⟩

theorem launch_as_asked_newShortcut : ∃ machine,
    Transition.run Machine.step .fresh newShortcut = some machine ∧
      ∃ preferences, UiPreferences.load (machine.read [launchMinimizedFile]) = .ok preferences ∧
        preferences.popupIdleTimeoutSecs ≤ maxPopupIdleTimeoutSecs := by
  obtain ⟨machine, reached, _⟩ := newShortcut_reached
  obtain ⟨preferences, loads, bounded, _⟩ := launch_as_asked reached [launchMinimizedFile]
  exact ⟨machine, reached, preferences, loads, bounded⟩

/-! The Agent shows what it would load again -/

/-- What the settings page shows. -/
structure Shown where
  preferences : UiPreferences
  globalHotkey : List Char

def Running.shown (running : Running) : Shown := ⟨running.preferences, running.globalHotkey⟩

def Shown.apply (shown : Shown) : Request → Shown
  | .updatePopupIdleTimeout seconds =>
      { shown with preferences.popupIdleTimeoutSecs := seconds }
  | .updateLaunchMinimized enabled => { shown with preferences.launchMinimized := enabled }
  | .updateGlobalHotkey shortcut => { shown with globalHotkey := shortcut }

theorem apply_shown (running : Running) (request : Request) :
    (running.apply request).shown = running.shown.apply request := by
  cases request <;> rfl

/-- Whether the write of an operation has taken effect. -/
def replaced (writers : List (Writer String)) (number : Nat) : Bool :=
  match writers[number]? with
  | some ⟨_, _, .finished true⟩ => true
  | _ => false

/-- What the Agent shows once the operation under way has been told of its write. -/
def Running.told (running : Running) (writers : List (Writer String)) : Shown :=
  match running.work with
  | .saving request number =>
      if replaced writers number then running.shown.apply request else running.shown
  | _ => running.shown

/-- The files give what is shown; a shortcut is saved without the white space around it. -/
structure Agrees (read : String → Option (List UInt8)) (shown : Shown) : Prop where
  preferences : loadUiPreferences read = shown.preferences
  hotkey : trim (loadPlatformHotkey read) = trim shown.globalHotkey
  parsed : (parseHotkey shown.globalHotkey).isSome = true

variable {read : String → Option (List UInt8)} {stored : StoredPreferences} {shown : Shown}

theorem told_settled (settled : ∀ request number, running.work ≠ .saving request number)
    (writers : List (Writer String)) : running.told writers = running.shown := by
  unfold Running.told
  split
  · rename_i request number saving
    exact absurd saving (settled request number)
  · rfl

theorem replaced_false {number : Nat} {writer : Writer String}
    (there : writers[number]? = some writer) (unfinished : writer.stage ≠ .finished true) :
    replaced writers number = false := by
  unfold replaced
  rw [there]
  split
  · rename_i same
    cases same
    exact absurd rfl unfinished
  · rfl

theorem told_shown {request : Request} {number : Nat}
    (saving : running.work = .saving request number)
    (unfinished : replaced writers number = false) : running.told writers = running.shown := by
  simp only [Running.told, saving, unfinished, Bool.false_eq_true, ↓reduceIte]

theorem told_apply {request : Request} {number : Nat}
    (saving : running.work = .saving request number)
    (finished : replaced writers number = true) :
    running.told writers = running.shown.apply request := by
  simp only [Running.told, saving, finished, ↓reduceIte]

/-- A call that ends no write of the operation tells it nothing. -/
theorem told_set {number : Nat} {writer : Writer String} {stage : Volume.Stage}
    (there : writers[number]? = some writer) (unfinished : writer.stage ≠ .finished true)
    (other : ∀ request, running.work = .saving request number → stage ≠ .finished true) :
    running.told (writers.set number { writer with stage := stage }) = running.told writers := by
  unfold Running.told
  split
  · rename_i request place saving
    by_cases same : place = number
    · subst same
      have after : replaced (writers.set place { writer with stage := stage }) place = false :=
        replaced_false (List.getElem?_set_self (List.getElem?_eq_some_iff.mp there).1)
          (other request saving)
      rw [replaced_false there unfinished, after]
    · rw [replaced, List.getElem?_set_ne (Ne.symm same)]
      rfl
  · rfl

theorem replaced_append {new : Writer String} {number : Nat}
    (unfinished : new.stage.ended = false) :
    replaced (writers ++ [new]) number = replaced writers number := by
  have fresh : replaced (writers ++ [new]) writers.length = false := by
    unfold replaced
    rw [List.getElem?_concat_length]
    split
    · rename_i same
      cases same
      cases unfinished
    · rfl
  unfold replaced
  rcases Nat.lt_trichotomy number writers.length with inside | rfl | beyond
  · rw [List.getElem?_append_left inside]
  · rw [List.getElem?_eq_none (Nat.le_refl _)]
    exact fresh
  · rw [List.getElem?_eq_none (by simp; omega), List.getElem?_eq_none (by omega)]

theorem Agrees.congr (agrees : Agrees read shown) (tells : stored.Tells read)
    {again : String → Option (List UInt8)}
    (same : ∀ file ∈ settingsFiles, again file = read file) : Agrees again shown := by
  have retells : stored.Tells again := by
    refine ⟨?_, ?_, ?_⟩
    · rw [same _ (by simp [settingsFiles]), tells.popupIdleTimeoutSecs]
    · rw [same _ (by simp [settingsFiles]), tells.launchMinimized]
    · rw [same _ (by simp [settingsFiles]), tells.globalHotkey]
  refine ⟨?_, ?_, agrees.parsed⟩
  · rw [retells.loadUiPreferences, ← tells.loadUiPreferences]
    exact agrees.preferences
  · rw [retells.loadPlatformHotkey, ← tells.loadPlatformHotkey]
    exact agrees.hotkey

/-- The write of an operation does to the files what the operation does to the Agent. -/
theorem Agrees.replaced (agrees : Agrees read shown) (tells : stored.Tells read)
    {request : Request} (accepted : request.Accepted) :
    Agrees (Function.update read request.file (some request.bytes)) (shown.apply request) := by
  have preferences := agrees.preferences
  have hotkey := agrees.hotkey
  rw [tells.loadUiPreferences] at preferences
  rw [tells.loadPlatformHotkey] at hotkey
  have one := files_distinct.1
  have two := files_distinct.2.1
  have three := files_distinct.2.2
  cases request with
  | updatePopupIdleTimeout seconds =>
      let after : StoredPreferences := { stored with
        popupIdleTimeoutSecs := some seconds
        bounded := fun other same => by cases same; exact accepted }
      have retells : after.Tells (Function.update read popupIdleTimeoutFile
          (some (Request.bytes (.updatePopupIdleTimeout seconds)))) := by
        refine ⟨Function.update_self _ _ _, ?_, ?_⟩
        · rw [Function.update_of_ne one.symm, tells.launchMinimized]
        · rw [Function.update_of_ne two.symm, tells.globalHotkey]
      refine ⟨?_, ?_, agrees.parsed⟩
      · rw [Request.file, retells.loadUiPreferences, Shown.apply, ← preferences]
        rfl
      · rw [Request.file, retells.loadPlatformHotkey]
        exact hotkey
  | updateLaunchMinimized enabled =>
      let after : StoredPreferences := { stored with launchMinimized := some enabled }
      have retells : after.Tells (Function.update read launchMinimizedFile
          (some (Request.bytes (.updateLaunchMinimized enabled)))) := by
        refine ⟨?_, Function.update_self _ _ _, ?_⟩
        · rw [Function.update_of_ne one, tells.popupIdleTimeoutSecs]
        · rw [Function.update_of_ne three.symm, tells.globalHotkey]
      refine ⟨?_, ?_, agrees.parsed⟩
      · rw [Request.file, retells.loadUiPreferences, Shown.apply, ← preferences]
        rfl
      · rw [Request.file, retells.loadPlatformHotkey]
        exact hotkey
  | updateGlobalHotkey shortcut =>
      let after : StoredPreferences := { stored with
        globalHotkey := some (trim shortcut)
        parsed := fun text same => by
          cases same
          rw [Platform.parseHotkey_trim]
          exact accepted }
      have retells : after.Tells (Function.update read globalHotkeyFile
          (some (Request.bytes (.updateGlobalHotkey shortcut)))) := by
        refine ⟨?_, ?_, Function.update_self _ _ _⟩
        · rw [Function.update_of_ne two, tells.popupIdleTimeoutSecs]
        · rw [Function.update_of_ne three, tells.launchMinimized]
      refine ⟨?_, ?_, accepted⟩
      · rw [Request.file, retells.loadUiPreferences]
        exact preferences
      · rw [Request.file, retells.loadPlatformHotkey]
        exact Core.trim_trim shortcut

/-- A launch gives what the files say. -/
theorem agrees_loaded (tells : stored.Tells read) :
    Agrees read ⟨loadUiPreferences read, loadPlatformHotkey read⟩ := by
  refine ⟨rfl, rfl, ?_⟩
  rw [tells.loadPlatformHotkey]
  exact hotkey_parsed stored

def Shows (machine : Machine) : Prop :=
  ∀ running, machine.agent = some running →
    Agrees machine.folder.read (running.told machine.folder.writers)

/-- A launch that can read every file. -/
def Action.readable : Action → Bool
  | .launch unreadable => unreadable.isEmpty
  | _ => true

theorem Sound.tells (sound : Sound done machine) :
    ∃ stored : StoredPreferences, stored.Tells machine.folder.read := by
  have all : machine.read [] = machine.folder.read := by
    funext file
    simp [Machine.read]
  obtain ⟨stored, tells, _⟩ := exists_stored (sound.reads [])
  rw [all] at tells
  exact ⟨stored, tells⟩

theorem Saved.shows {request : Request} (saved : Saved machine running request next)
    (agrees : Agrees machine.folder.read running.shown) : Shows next := by
  intro other on
  cases saved with
  | refused refuses =>
      cases on
      exact agrees
  | @begun file bytes write =>
      cases on
      have fresh : replaced (machine.folder.writers ++ [⟨file, bytes, .preparing⟩])
          machine.folder.writers.length = false := by
        rw [replaced_append rfl, replaced, List.getElem?_eq_none (Nat.le_refl _)]
      simp only [Running.told, fresh]
      exact agrees

/-- One step of the Agent and of its folder keeps them in agreement. -/
theorem Shows.step {action : Action} (sound : Sound done machine) (showing : Shows machine)
    (readable : action.readable = true) (taken : machine.step action = some next) :
    Shows next := by
  obtain ⟨stored, tells⟩ := sound.tells
  have moved := step_cases taken
  clear taken
  cases moved with
  | launch unreadable off =>
      intro running on
      cases on
      have all : machine.read unreadable = machine.folder.read := by
        funext file
        simp [Machine.read, List.isEmpty_iff.mp readable]
      rw [all]
      exact agrees_loaded tells
  | @install running accepted hotkey after here loading registered =>
      intro other on
      cases on
      exact showing running here
  | unavailable accepted running loading =>
      intro other on
      cases on
  | @ask running shortcut here idle =>
      intro other on
      cases on
      have agrees := showing running here
      rw [told_settled (by simp [idle])] at agrees
      exact agrees
  | @save running request next here idle other saved =>
      have agrees := showing running here
      rw [told_settled (by simp [idle])] at agrees
      exact saved.shows agrees
  | @updated running active hotkey shortcut events answers after next here installed first
      update saved =>
      have agrees := showing running here
      obtain ⟨asking, _⟩ := (sound.on running here).first_awaited first
      rw [told_settled (by simp [asking])] at agrees
      exact saved.shows agrees
  | @failed running active hotkey shortcut events answers after error here installed first
      update =>
      intro other on
      cases on
      have agrees := showing running here
      obtain ⟨asking, _⟩ := (sound.on running here).first_awaited first
      rw [told_settled (by simp [asking])] at agrees
      exact agrees
  | @abandoned running active hotkey shortcut events answers after result here installed first
      update =>
      intro other on
      cases on
      exact showing running here
  | @timeout running shortcut here asking =>
      intro other on
      cases on
      have agrees := showing running here
      rw [told_settled (by simp [asking])] at agrees
      exact agrees
  | @advance number outcome folder advances =>
      intro running here
      have agrees := showing running here
      have ordered := sound.on running here
      obtain ⟨_, effect⟩ := Volume.step_effect sound.sanctioned.intact advances
      have reads : folder.read = folder.register.current := rfl
      rw [show (Machine.folder _).read = folder.read from rfl, reads]
      change Agrees folder.register.current (running.told folder.writers)
      generalize folder.register = register at effect ⊢
      generalize folder.writers = writers at effect ⊢
      cases effect with
      | @replace number count node writer there replaces =>
          by_cases ours : writer.target ∈ settingsFiles
          · obtain ⟨request, saving⟩ := ordered.alone there ours (by rw [replaces]; rfl)
            obtain ⟨accepted, found, present, target, bytes⟩ := ordered.saving saving
            rw [there] at present
            cases present
            have after : replaced (machine.folder.writers.set number
                { writer with stage := .finished true }) number = true := by
              unfold replaced
              rw [List.getElem?_set_self (List.getElem?_eq_some_iff.mp there).1]
            rw [told_shown saving (replaced_false there (by simp [replaces]))] at agrees
            rw [told_apply saving after]
            have told := agrees.replaced tells accepted
            rw [← target, ← bytes] at told
            exact told
          · rw [told_set there (by simp [replaces]) fun request saving => by
              obtain ⟨_, found, present, target, _⟩ := ordered.saving saving
              rw [there] at present
              cases present
              exact absurd (target ▸ request.file_mem) ours]
            apply agrees.congr tells
            intro file among
            refine Function.update_of_ne ?_ _ _
            rintro rfl
            exact ours among
      | @work number outcome writer stage there busy unfinished =>
          rw [told_set there (by rintro same; rw [same] at busy; cases busy) fun _ _ => unfinished]
          exact agrees
  | @complete running request number writer success here saving there finished =>
      intro other on
      cases on
      have agrees := showing running here
      obtain ⟨target, bytes, stage⟩ := writer
      cases finished
      cases success with
      | true =>
          rw [told_apply saving (by rw [replaced, there]), ← apply_shown] at agrees
          exact agrees
      | false =>
          rw [told_shown saving (replaced_false there (by simp))] at agrees
          exact agrees
  | @elsewhere running file bytes here other =>
      intro again on
      have agrees := showing again on
      have same : again.told (machine.folder.writers ++ [⟨file, bytes, .preparing⟩]) =
          again.told machine.folder.writers := by
        unfold Running.told
        split
        · rw [replaced_append rfl]
        · rfl
      rw [← same] at agrees
      exact agrees
  | take takes => exact showing
  | release hotkey => exact showing
  | stop =>
      intro other on
      cases on
  | powerLoss back garbage =>
      intro other on
      cases on

/-- Between two operations the Agent shows what it would load again from its files, if every launch
could read them: whatever failed, and wherever the Agent or the power went. -/
theorem settings_agree {actions : List Action}
    (reached : Transition.run Machine.step .fresh actions = some machine)
    (readable : Transition.Meets Machine.step (fun _ action => action.readable = true) .fresh
      actions)
    (on : machine.agent = some running)
    (settled : ∀ request number, running.work ≠ .saving request number) :
    loadUiPreferences machine.folder.read = running.preferences ∧
      trim (loadPlatformHotkey machine.folder.read) = trim running.globalHotkey ∧
      (parseHotkey running.globalHotkey).isSome = true := by
  have fresh : Sound [] .fresh ∧ Shows .fresh := ⟨sound_fresh, fun _ on => by cases on⟩
  have last := @Transition.run_keeps_history _ _ Machine.step
    (fun _ action => action.readable = true)
    (fun done machine => Sound done machine ∧ Shows machine)
    (fun _ _ _ _ holds readable taken =>
      ⟨holds.1.step taken, holds.2.step holds.1 readable taken⟩)
    actions [] _ _ fresh readable reached
  have agrees := last.2 running on
  rw [told_settled settled] at agrees
  exact ⟨agrees.preferences, agrees.hotkey, agrees.parsed⟩

theorem withShortcut_settled (request : Request) (number : Nat) :
    withShortcut.work ≠ .saving request number := by
  simp [withShortcut]

theorem settings_agree_newShortcut : ∃ machine,
    Transition.run Machine.step .fresh newShortcut = some machine ∧
      loadUiPreferences machine.folder.read = .default ∧
      trim (loadPlatformHotkey machine.folder.read) = "Ctrl + K".toList := by
  obtain ⟨machine, reached, on⟩ := newShortcut_reached
  obtain ⟨preferences, hotkey, _⟩ :=
    settings_agree reached (by decide) on withShortcut_settled
  have trimmed : trim withShortcut.globalHotkey = "Ctrl + K".toList := by decide
  exact ⟨machine, reached, preferences, hotkey.trans trimmed⟩

/-! The registered shortcut -/

def Machine.active (machine : Machine) : Option HotKey := machine.agent.bind Running.hotkey

/-- What a step does to the registrations and to the active shortcut. -/
inductive KeyMove (registrations : Registrations) :
    Option HotKey → Action → Registrations → Option HotKey → Prop
  | same (active : Option HotKey) (action : Action) :
      KeyMove registrations active action registrations active
  | install {shortcut : List Char} {accepted : Bool} {hotkey : HotKey} {after : Registrations}
      (registered : registerHotkey registrations shortcut accepted = .ok (hotkey, after)) :
      KeyMove registrations none (.install accepted) after (some hotkey)
  | update {shortcut : List Char} {answers : UpdateAnswers} {former now : HotKey}
      {result : Except Platform.PlatformError Unit} {after : Registrations}
      (updated : Platform.Updated registrations former shortcut answers result now after) :
      KeyMove registrations (some former) (.handle answers) after (some now)
  | take {hotkey : HotKey} {after : Registrations} (active : Option HotKey)
      (taken : registrations.take hotkey = some after) :
      KeyMove registrations active (.take hotkey) after active
  | release (active : Option HotKey) (hotkey : HotKey) :
      KeyMove registrations active (.release hotkey) (registrations.release hotkey) active
  | ended (active : Option HotKey) (action : Action) :
      KeyMove registrations active action registrations.dropOwn none
  | powerLoss (active : Option HotKey) (action : Action) :
      KeyMove registrations active action ⟨[], []⟩ none

theorem Saved.keys {request : Request} (saved : Saved machine running request next) :
    next.registrations = machine.registrations ∧ next.active = running.hotkey := by
  cases saved with
  | refused refuses => exact ⟨rfl, rfl⟩
  | begun write => exact ⟨rfl, rfl⟩

theorem key_cases {action : Action} (taken : machine.step action = some next) :
    KeyMove machine.registrations machine.active action next.registrations next.active := by
  have active : ∀ {running}, machine.agent = some running → machine.active = running.hotkey := by
    intro running on
    rw [Machine.active, on, Option.bind_some]
  have moved := step_cases taken
  clear taken
  cases moved with
  | launch unreadable off =>
      rw [show machine.active = none by rw [Machine.active, off, Option.bind_none]]
      exact .same none _
  | install on loading registered =>
      rw [active on, loading]
      exact .install registered
  | unavailable accepted on loading => exact .ended _ _
  | ask shortcut on idle =>
      rw [active on]
      exact .same _ _
  | save on idle other saved =>
      rw [saved.keys.1, saved.keys.2, active on]
      exact .same _ _
  | updated on installed first update saved =>
      rw [saved.keys.1, saved.keys.2, active on, installed]
      exact .update update
  | failed on installed first update =>
      rw [active on, installed]
      exact .update update
  | abandoned on installed first update =>
      rw [active on, installed]
      exact .update update
  | timeout on asking =>
      rw [active on]
      exact .same _ _
  | advance advances => exact .same _ _
  | @complete running request number writer success on saving there finished =>
      have same : Running.hotkey (if success then running.apply request else running) =
          running.hotkey := by
        cases success with
        | false => rfl
        | true => cases request <;> rfl
      rw [active on, ← same]
      exact .same _ _
  | elsewhere bytes on other => exact .same _ _
  | take takes => exact .take _ takes
  | release hotkey => exact .release _ hotkey
  | stop => exact .ended _ _
  | powerLoss back garbage => exact .powerLoss _ _

/-- The active shortcut is the Agent's, and before there is one nothing is. -/
structure Registered (machine : Machine) : Prop where
  exclusive : machine.registrations.Exclusive
  absent : machine.active = none → machine.registrations.own = []
  held : ∀ hotkey ∈ machine.active, hotkey ∈ machine.registrations.own

theorem Registered.step {action : Action} (registered : Registered machine)
    (taken : machine.step action = some next) : Registered next := by
  have moved := key_cases taken
  have kept : ∀ {registrations active}, KeyMove machine.registrations machine.active action
      registrations active → registrations.Exclusive ∧ (active = none → registrations.own = []) ∧
        ∀ hotkey ∈ active, hotkey ∈ registrations.own := by
    intro registrations active moved
    obtain ⟨exclusive, absent, held⟩ := registered
    generalize machine.active = former at moved absent held
    cases moved with
    | same => exact ⟨exclusive, absent, held⟩
    | install registers =>
        obtain ⟨_, owns⟩ := Platform.registerHotkey_ok registers
        refine ⟨exclusive.register owns, by simp, ?_⟩
        intro hotkey same
        cases same
        rw [(Registrations.register_eq owns).2]
        exact List.mem_cons_self
    | update updated =>
        obtain ⟨exclusive, owned⟩ := updated.registered exclusive (held _ rfl)
        refine ⟨exclusive, by simp, ?_⟩
        intro hotkey same
        cases same
        exact owned
    | take active taken =>
        refine ⟨exclusive.take taken, ?_, ?_⟩ <;>
          rw [Registrations.take_own taken]
        · exact absent
        · exact held
    | release active hotkey => exact ⟨exclusive.release hotkey, absent, held⟩
    | ended => exact ⟨Registrations.Exclusive.dropOwn, fun _ => rfl, by simp⟩
    | powerLoss => exact ⟨⟨List.nodup_nil, by simp⟩, fun _ => rfl, by simp⟩
  exact ⟨(kept moved).1, (kept moved).2.1, (kept moved).2.2⟩

/-- In every run the shortcut that the Agent reacts to is registered, and is nobody else's. -/
theorem shortcut_stays_registered {actions : List Action} {hotkey : HotKey}
    (reached : Transition.run Machine.step .fresh actions = some machine)
    (on : machine.agent = some running) (installed : running.hotkey = some hotkey) :
    hotkey ∈ machine.registrations.own ∧ machine.registrations.own.Nodup ∧
      hotkey ∉ machine.registrations.others := by
  have fresh : Registered .fresh := ⟨⟨List.nodup_nil, by simp [Machine.fresh]⟩, fun _ => rfl, by
    simp [Machine.fresh, Machine.active]⟩
  have last := Transition.run_keeps (fun _ _ _ registered taken => registered.step taken) fresh
    reached
  have held := last.held hotkey (by rw [Machine.active, on]; exact installed)
  exact ⟨held, last.exclusive.once, last.exclusive.apart hotkey held⟩

theorem shortcut_stays_registered_newShortcut : ∃ machine,
    Transition.run Machine.step .fresh newShortcut = some machine ∧
      ⟨⟨false, true, false, false⟩, 'K'⟩ ∈ machine.registrations.own := by
  obtain ⟨machine, reached, on⟩ := newShortcut_reached
  exact ⟨machine, reached, (shortcut_stays_registered reached on rfl).1⟩

/-- The text that the active shortcut was read from. -/
def Running.text (running : Running) : List Char :=
  match running.work with
  | .saving (.updateGlobalHotkey shortcut) _ => shortcut
  | _ => running.globalHotkey

/-- No shortcut's save has failed. -/
def Running.saved (running : Running) (writers : List (Writer String)) : Bool :=
  match running.work with
  | .saving (.updateGlobalHotkey _) number => replaced writers number
  | _ => true

/-- The system takes back what it is asked to, answers in time, and saves shortcuts. -/
def Machine.untroubled (machine : Machine) : Action → Bool
  | .handle answers => answers.reverts
  | .timeout => false
  | .complete => machine.agent.all fun running => running.saved machine.folder.writers
  | _ => true

/-- The Agent reacts to the shortcut it shows, or is about to show. -/
structure Reacts (running : Running) : Prop where
  events : running.events = running.work.awaited
  loading : running.hotkey = none → running.text = running.globalHotkey
  parsed : ∀ hotkey ∈ running.hotkey, parseHotkey running.text = some hotkey

theorem only_step {action : Action} (only : machine.registrations.own = machine.active.toList)
    (untroubled : machine.untroubled action = true) (taken : machine.step action = some next) :
    next.registrations.own = next.active.toList := by
  have moved := key_cases taken
  generalize machine.active = former at moved only
  generalize next.active = active at moved ⊢
  generalize next.registrations = registrations at moved ⊢
  cases moved with
  | same => exact only
  | install registered =>
      obtain ⟨_, owns⟩ := Platform.registerHotkey_ok registered
      rw [(Registrations.register_eq owns).2, only]
      rfl
  | update updated => exact updated.alone only untroubled
  | take active taken => rw [Registrations.take_own taken, only]
  | release active hotkey => exact only
  | ended => rfl
  | powerLoss => rfl

theorem text_idle (idle : running.work = .idle) : running.text = running.globalHotkey := by
  rw [Running.text, idle]

theorem text_asking {shortcut : List Char} (asking : running.work = .asking shortcut) :
    running.text = running.globalHotkey := by
  rw [Running.text, asking]

theorem Reacts.asking (reacts : Reacts running) {shortcut : List Char} {awaited : Bool}
    {events : List (List Char × Bool)} (first : running.events = (shortcut, awaited) :: events) :
    awaited = true ∧ running.work = .asking shortcut ∧ events = [] := by
  have whole := reacts.events
  rw [first] at whole
  cases work : running.work with
  | idle =>
      rw [work] at whole
      cases whole
  | asking asked =>
      rw [work] at whole
      cases whole
      exact ⟨rfl, rfl, rfl⟩
  | saving request number =>
      rw [work] at whole
      cases whole

/-- An operation that ends leaves what the shortcut was read from. -/
theorem Reacts.rest {after : Running} (reacts : Reacts running) (idle : after.work = .idle)
    (none : after.events = []) (hotkey : after.hotkey = running.hotkey)
    (text : after.globalHotkey = running.text) : Reacts after where
  events := by
    rw [none, idle]
    rfl
  loading _ := text_idle idle
  parsed := by
    intro key held
    rw [hotkey] at held
    rw [text_idle idle, text]
    exact reacts.parsed key held

theorem reacts_step {action : Action}
    (reacts : ∀ running, machine.agent = some running → Reacts running)
    (untroubled : machine.untroubled action = true) (taken : machine.step action = some next) :
    ∀ running, next.agent = some running → Reacts running := by
  have moved := step_cases taken
  clear taken
  intro after on
  cases moved with
  | launch unreadable off =>
      cases on
      exact ⟨rfl, fun _ => rfl, by simp⟩
  | @install running accepted hotkey registrations here loading registered =>
      cases on
      have former := reacts running here
      have same : running.text = running.globalHotkey := former.loading loading
      refine ⟨former.events, by simp, ?_⟩
      intro key held
      cases held
      change parseHotkey running.text = some hotkey
      rw [same]
      exact (Platform.registerHotkey_ok registered).1
  | unavailable accepted running loading => cases on
  | @ask running shortcut here idle =>
      cases on
      have former := reacts running here
      have same : running.text = running.globalHotkey := text_idle idle
      have none : running.events = [] := by
        rw [former.events, idle]
        rfl
      refine ⟨by rw [none]; rfl, fun _ => rfl, ?_⟩
      intro key held
      change parseHotkey running.globalHotkey = some key
      rw [← same]
      exact former.parsed key held
  | @save running request next here idle other saved =>
      have former := reacts running here
      have same : running.text = running.globalHotkey := text_idle idle
      have none : running.events = [] := by
        rw [former.events, idle]
        rfl
      cases saved with
      | refused refuses =>
          cases on
          exact former.rest rfl none rfl same.symm
      | begun write =>
          cases on
          have text : Running.text { running with
              work := .saving request machine.folder.writers.length } = running.globalHotkey := by
            cases request with
            | updatePopupIdleTimeout seconds => rfl
            | updateLaunchMinimized enabled => rfl
            | updateGlobalHotkey shortcut => exact absurd rfl (other shortcut)
          refine ⟨none, fun _ => text, ?_⟩
          intro key held
          rw [text, ← same]
          exact former.parsed key held
  | @updated running active hotkey shortcut events answers registrations next here installed
      first update saved =>
      obtain ⟨_, asking, rfl⟩ := (reacts running here).asking first
      cases saved with
      | refused refuses => cases refuses
      | begun write =>
          cases on
          refine ⟨rfl, by simp, ?_⟩
          intro key held
          cases held
          exact update.parsed
  | @failed running active hotkey shortcut events answers registrations error here installed
      first update =>
      cases on
      have former := reacts running here
      obtain ⟨_, asking, rfl⟩ := former.asking first
      have stays : hotkey = active := update.stays (by simp)
      refine former.rest rfl rfl ?_ (text_asking asking).symm
      rw [installed, stays]
  | @abandoned running active hotkey shortcut events answers registrations result here installed
      first update =>
      obtain ⟨awaited, _⟩ := (reacts running here).asking first
      cases awaited
  | timeout here asking => cases untroubled
  | advance advances => exact reacts after on
  | @complete running request number writer success here saving there finished =>
      cases on
      have former := reacts running here
      have none : running.events = [] := by
        rw [former.events, saving]
        rfl
      cases success with
      | true =>
          cases request with
          | updatePopupIdleTimeout seconds =>
              exact former.rest rfl none rfl (by rw [Running.text, saving]; rfl)
          | updateLaunchMinimized enabled =>
              exact former.rest rfl none rfl (by rw [Running.text, saving]; rfl)
          | updateGlobalHotkey shortcut =>
              exact former.rest rfl none rfl (by rw [Running.text, saving]; rfl)
      | false =>
          refine former.rest rfl none rfl ?_
          cases request with
          | updatePopupIdleTimeout seconds =>
              rw [Running.text, saving]
              rfl
          | updateLaunchMinimized enabled =>
              rw [Running.text, saving]
              rfl
          | updateGlobalHotkey shortcut =>
              have saved : running.saved machine.folder.writers = true := by
                simpa [Machine.untroubled, here] using untroubled
              rw [Running.saved, saving] at saved
              have unfinished : replaced machine.folder.writers number = false :=
                replaced_false there (by simp [finished])
              cases saved.symm.trans unfinished
  | elsewhere bytes here other => exact reacts after on
  | take takes => exact reacts after on
  | release hotkey => exact reacts after on
  | stop => cases on
  | powerLoss back garbage => cases on

/-- While nothing is wrong with the system the Agent has registered the shortcut it shows, and no
other. -/
theorem shown_shortcut_registered {actions : List Action} {hotkey : HotKey}
    (reached : Transition.run Machine.step .fresh actions = some machine)
    (untroubled : Transition.Meets Machine.step
      (fun machine action => machine.untroubled action = true) .fresh actions)
    (on : machine.agent = some running) (installed : running.hotkey = some hotkey)
    (settled : ∀ request number, running.work ≠ .saving request number) :
    machine.registrations.own = [hotkey] ∧ parseHotkey running.globalHotkey = some hotkey := by
  have last := @Transition.run_keeps_of_meets _ _ Machine.step
    (fun machine action => machine.untroubled action = true)
    (fun machine => machine.registrations.own = machine.active.toList ∧
      ∀ running, machine.agent = some running → Reacts running)
    (fun _ _ _ holds untroubled taken =>
      ⟨only_step holds.1 untroubled taken, reacts_step holds.2 untroubled taken⟩)
    actions _ _ ⟨rfl, fun _ on => by cases on⟩ untroubled reached
  constructor
  · rw [last.1, Machine.active, on, Option.bind_some, installed]
    rfl
  · rw [← (last.2 running on).parsed hotkey installed, Running.text]
    split
    · rename_i saving
      exact absurd saving (settled _ _)
    · rfl

theorem shown_shortcut_registered_newShortcut : ∃ machine,
    Transition.run Machine.step .fresh newShortcut = some machine ∧
      machine.registrations.own = [⟨⟨false, true, false, false⟩, 'K'⟩] := by
  obtain ⟨machine, reached, on⟩ := newShortcut_reached
  exact ⟨machine, reached,
    (shown_shortcut_registered reached (by decide) on rfl withShortcut_settled).1⟩

end Lvos.Agent.Settings
