import Lvos.Core.Content
import Lvos.Lib.Transition

set_option autoImplicit false

namespace Lvos.Platform.Capture

open Lvos.Core (trim)

inductive CaptureError
  | busy
  | noSelection
  | timeout
  | clipboardUnavailable
  | inputInjectionFailed
deriving DecidableEq

/-- The clipboard of the system: a number that every change raises, and the UTF-16 units of its
text, with their terminator. -/
structure Clipboard where
  sequence : Nat
  text : Option (List UInt16)
deriving DecidableEq

def Clipboard.set (clipboard : Clipboard) (text : Option (List UInt16)) : Clipboard :=
  ⟨clipboard.sequence + 1, text⟩

def maxClipboardTextBytes : Nat := 4 * 1024 * 1024

def sizeAllowed (units : List UInt16) : Bool :=
  2 ≤ 2 * units.length && 2 * units.length ≤ maxClipboardTextBytes

def isSurrogate (unit : UInt16) : Bool := 0xD800 ≤ unit && unit ≤ 0xDFFF

def isHigh (unit : UInt16) : Bool := 0xD800 ≤ unit && unit ≤ 0xDBFF

def isLow (unit : UInt16) : Bool := 0xDC00 ≤ unit && unit ≤ 0xDFFF

/-- `String::from_utf16_lossy`. -/
def fromUtf16Lossy : List UInt16 → List Char
  | [] => []
  | [unit] =>
      [if isSurrogate unit then Char.ofNat 0xFFFD else Char.ofNat unit.toNat]
  | high :: low :: rest =>
      if isHigh high && isLow low then
        Char.ofNat (0x10000 + (high.toNat - 0xD800) * 0x400 + (low.toNat - 0xDC00)) ::
          fromUtf16Lossy rest
      else
        (if isSurrogate high then Char.ofNat 0xFFFD else Char.ofNat high.toNat) ::
          fromUtf16Lossy (low :: rest)

def unitsText (units : List UInt16) : List Char :=
  fromUtf16Lossy (units.takeWhile (· ≠ 0))

/-- `read_unicode_clipboard_text`, when the clipboard could be opened and its memory locked. -/
def readUnicodeClipboardText (clipboard : Clipboard) (opened locked : Bool) :
    Except CaptureError (List Char) :=
  if !opened then .error .clipboardUnavailable
  else
    match clipboard.text with
    | none => .error .noSelection
    | some units =>
        if sizeAllowed units && locked then .ok (unitsText units)
        else .error .clipboardUnavailable

/-- What `capture_blocking` returns of the text that it read. -/
def selection (text : List Char) : Except CaptureError (List Char) :=
  if trim text = [] then .error .noSelection else .ok (trim text)

/-- Where `capture_blocking` is. From the marker on it has a guard with the snapshot and the
sequence number at which it may restore it. -/
inductive Stage
  | waiting
  | snapshotting
  | marking (snapshot : Option (List UInt16))
  | sequencing (snapshot : Option (List UInt16))
  | sending (snapshot : Option (List UInt16)) (marker : Nat)
  | polling (snapshot : Option (List UInt16)) (marker : Nat)
  | settling (snapshot : Option (List UInt16)) (current : Nat)
  | reading (snapshot : Option (List UInt16)) (expected : Nat)
  | dropping (snapshot : Option (List UInt16)) (expected : Nat)
      (result : Except CaptureError (List Char))
  | restoring (snapshot : Option (List UInt16)) (result : Except CaptureError (List Char))
  | returning (result : Except CaptureError (List Char))

structure State where
  clipboard : Clipboard
  /-- The capture that has set `active`. -/
  worker : Option Stage

/-- How far a call that empties the clipboard and then sets its text gets. -/
inductive Call
  | unavailable
  | emptied
  | done

inductive Action
  | trigger
  | release (inTime : Bool)
  | snapshot (opened locked : Bool)
  | mark (call : Call)
  | sequence
  | send (inserted : Bool)
  | poll (expired : Bool)
  | settle (settled : Bool)
  | read (opened locked : Bool)
  | check
  | restore (call : Call)
  | finish
  /-- Another program changes the clipboard. -/
  | write (text : Option (List UInt16))

/-- `LVOS-CAPTURE-` and the number of the process. -/
def markerUnits (process : Nat) : List UInt16 :=
  ("LVOS-CAPTURE-".toList ++ Nat.toDigits 10 process).map (fun letter => letter.toNat.toUInt16) ++
    [0]

/-- Empties the clipboard and sets its text. -/
def Clipboard.replace (clipboard : Clipboard) (call : Call) (text : Option (List UInt16)) :
    Clipboard :=
  match call with
  | .unavailable => clipboard
  | .emptied => clipboard.set none
  | .done => clipboard.set text

/-- One step of `capture_blocking`. -/
def work (process : Nat) (clipboard : Clipboard) : Stage → Action → Option (Clipboard × Stage)
  | .waiting, .release inTime =>
      some (clipboard, if inTime then .snapshotting else .returning (.error .timeout))
  | .snapshotting, .snapshot opened locked =>
      some (clipboard, if opened then
        .marking (if locked then clipboard.text.filter sizeAllowed else none)
      else .returning (.error .clipboardUnavailable))
  | .marking snapshot, .mark .done =>
      some (clipboard.set (some (markerUnits process)), .sequencing snapshot)
  | .marking _, .mark call =>
      some (clipboard.replace call none, .returning (.error .clipboardUnavailable))
  | .sequencing snapshot, .sequence => some (clipboard, .sending snapshot clipboard.sequence)
  | .sending snapshot marker, .send inserted =>
      some (clipboard, if inserted then .polling snapshot marker
        else .dropping snapshot marker (.error .inputInjectionFailed))
  | .polling snapshot marker, .poll expired =>
      some (clipboard,
        if clipboard.sequence ≠ marker then .settling snapshot clipboard.sequence
        else if expired then .dropping snapshot marker (.error .timeout)
        else .polling snapshot marker)
  | .settling snapshot current, .settle settled =>
      some (clipboard, if settled then .reading snapshot current
        else .settling snapshot clipboard.sequence)
  | .reading snapshot expected, .read opened locked =>
      some (clipboard, .dropping snapshot expected
        ((readUnicodeClipboardText clipboard opened locked).bind selection))
  | .dropping snapshot expected result, .check =>
      some (clipboard, if clipboard.sequence = expected then .restoring snapshot result
        else .returning result)
  | .restoring snapshot result, .restore call =>
      some (clipboard.replace call snapshot, .returning result)
  | _, _ => none

def State.step (process : Nat) (state : State) : Action → Option State
  | .trigger =>
      match state.worker with
      | some _ => some state  -- the caller is told `Busy`
      | none => some { state with worker := some .waiting }
  | .finish =>
      match state.worker with
      | some (.returning _) => some { state with worker := none }
      | _ => none
  | .write text => some { state with clipboard := state.clipboard.set text }
  | action => do
      let stage ← state.worker
      let (clipboard, next) ← work process state.clipboard stage action
      return ⟨clipboard, some next⟩

/-! What a step can do -/

inductive Worked (process : Nat) (clipboard : Clipboard) :
    Stage → Action → Clipboard → Stage → Prop
  | released : Worked process clipboard .waiting (.release true) clipboard .snapshotting
  | held : Worked process clipboard .waiting (.release false) clipboard
      (.returning (.error .timeout))
  | taken (locked : Bool) : Worked process clipboard .snapshotting (.snapshot true locked)
      clipboard (.marking (if locked then clipboard.text.filter sizeAllowed else none))
  | unopened (locked : Bool) : Worked process clipboard .snapshotting (.snapshot false locked)
      clipboard (.returning (.error .clipboardUnavailable))
  | marked (snapshot : Option (List UInt16)) : Worked process clipboard (.marking snapshot)
      (.mark .done) (clipboard.set (some (markerUnits process))) (.sequencing snapshot)
  | unmarked (snapshot : Option (List UInt16)) {call : Call} (failed : call ≠ .done) :
      Worked process clipboard (.marking snapshot) (.mark call) (clipboard.replace call none)
        (.returning (.error .clipboardUnavailable))
  | sequenced (snapshot : Option (List UInt16)) : Worked process clipboard (.sequencing snapshot)
      .sequence clipboard (.sending snapshot clipboard.sequence)
  | sent (snapshot : Option (List UInt16)) (marker : Nat) :
      Worked process clipboard (.sending snapshot marker) (.send true) clipboard
        (.polling snapshot marker)
  | unsent (snapshot : Option (List UInt16)) (marker : Nat) :
      Worked process clipboard (.sending snapshot marker) (.send false) clipboard
        (.dropping snapshot marker (.error .inputInjectionFailed))
  | changed {marker : Nat} (snapshot : Option (List UInt16)) (expired : Bool)
      (new : clipboard.sequence ≠ marker) :
      Worked process clipboard (.polling snapshot marker) (.poll expired) clipboard
        (.settling snapshot clipboard.sequence)
  | expired {marker : Nat} (snapshot : Option (List UInt16)) (same : clipboard.sequence = marker) :
      Worked process clipboard (.polling snapshot marker) (.poll true) clipboard
        (.dropping snapshot marker (.error .timeout))
  | polled (snapshot : Option (List UInt16)) (marker : Nat) :
      Worked process clipboard (.polling snapshot marker) (.poll false) clipboard
        (.polling snapshot marker)
  | settled (snapshot : Option (List UInt16)) (current : Nat) :
      Worked process clipboard (.settling snapshot current) (.settle true) clipboard
        (.reading snapshot current)
  | unsettled (snapshot : Option (List UInt16)) (current : Nat) :
      Worked process clipboard (.settling snapshot current) (.settle false) clipboard
        (.settling snapshot clipboard.sequence)
  | read (snapshot : Option (List UInt16)) (expected : Nat) (opened locked : Bool) :
      Worked process clipboard (.reading snapshot expected) (.read opened locked) clipboard
        (.dropping snapshot expected
          ((readUnicodeClipboardText clipboard opened locked).bind selection))
  | own {expected : Nat} (snapshot : Option (List UInt16))
      (result : Except CaptureError (List Char)) (same : clipboard.sequence = expected) :
      Worked process clipboard (.dropping snapshot expected result) .check clipboard
        (.restoring snapshot result)
  | newer {expected : Nat} (snapshot : Option (List UInt16))
      (result : Except CaptureError (List Char)) (apart : clipboard.sequence ≠ expected) :
      Worked process clipboard (.dropping snapshot expected result) .check clipboard
        (.returning result)
  | restored (snapshot : Option (List UInt16)) (result : Except CaptureError (List Char))
      (call : Call) :
      Worked process clipboard (.restoring snapshot result) (.restore call)
        (clipboard.replace call snapshot) (.returning result)

variable {process : Nat} {clipboard after : Clipboard} {stage later : Stage} {action : Action}
  {state next : State}

theorem work_cases (worked : work process clipboard stage action = some (after, later)) :
    Worked process clipboard stage action after later := by
  unfold work at worked
  split at worked
  · rename_i inTime
    cases inTime <;> cases worked
    · exact .held
    · exact .released
  · rename_i opened locked
    cases opened <;> cases worked
    · exact .unopened locked
    · exact .taken locked
  · cases worked
    exact .marked _
  · rename_i failed
    cases worked
    exact .unmarked _ failed
  · cases worked
    exact .sequenced _
  · rename_i inserted
    cases inserted <;> cases worked
    · exact .unsent _ _
    · exact .sent _ _
  · rename_i snapshot marker expired
    by_cases new : clipboard.sequence ≠ marker
    · rw [if_pos new] at worked
      cases worked
      exact .changed snapshot expired new
    · rw [if_neg new] at worked
      cases expired <;> cases worked
      · exact .polled snapshot marker
      · exact .expired snapshot (not_not.mp new)
  · rename_i settled
    cases settled <;> cases worked
    · exact .unsettled _ _
    · exact .settled _ _
  · cases worked
    exact .read _ _ _ _
  · rename_i snapshot expected result
    by_cases same : clipboard.sequence = expected
    · rw [if_pos same] at worked
      cases worked
      exact .own snapshot result same
    · rw [if_neg same] at worked
      cases worked
      exact .newer snapshot result same
  · cases worked
    exact .restored _ _ _
  · cases worked

inductive Moved (process : Nat) (state : State) : Action → State → Prop
  | busy {stage : Stage} (active : state.worker = some stage) : Moved process state .trigger state
  | trigger (idle : state.worker = none) :
      Moved process state .trigger { state with worker := some .waiting }
  | finish {result : Except CaptureError (List Char)}
      (returning : state.worker = some (.returning result)) :
      Moved process state .finish { state with worker := none }
  | write (text : Option (List UInt16)) :
      Moved process state (.write text) { state with clipboard := state.clipboard.set text }
  | work {stage later : Stage} {action : Action} {after : Clipboard}
      (active : state.worker = some stage)
      (worked : Worked process state.clipboard stage action after later) :
      Moved process state action ⟨after, some later⟩

theorem step_cases (taken : state.step process action = some next) :
    Moved process state action next := by
  unfold State.step at taken
  split at taken
  · split at taken
    · rename_i active
      cases taken
      exact .busy active
    · rename_i idle
      cases taken
      exact .trigger idle
  · split at taken
    · rename_i returning
      cases taken
      exact .finish returning
    · cases taken
  · cases taken
    exact .write _
  · simp only [Option.bind_eq_bind, Option.bind_eq_some_iff] at taken
    obtain ⟨stage, active, ⟨after, later⟩, worked, same⟩ := taken
    cases same
    exact .work active (work_cases worked)

theorem step_raises (taken : state.step process action = some next) :
    state.clipboard.sequence ≤ next.clipboard.sequence ∧
      next.clipboard.sequence ≤ state.clipboard.sequence + 1 := by
  have replaced : ∀ (call : Call) (text : Option (List UInt16)),
      state.clipboard.sequence ≤ (state.clipboard.replace call text).sequence ∧
        (state.clipboard.replace call text).sequence ≤ state.clipboard.sequence + 1 := by
    intro call text
    cases call with
    | unavailable => exact ⟨Nat.le_refl _, Nat.le_succ _⟩
    | emptied => exact ⟨Nat.le_succ _, Nat.le_refl _⟩
    | done => exact ⟨Nat.le_succ _, Nat.le_refl _⟩
  cases step_cases taken with
  | busy active => exact ⟨Nat.le_refl _, Nat.le_succ _⟩
  | trigger idle => exact ⟨Nat.le_refl _, Nat.le_succ _⟩
  | finish returning => exact ⟨Nat.le_refl _, Nat.le_succ _⟩
  | write text => exact ⟨Nat.le_succ _, Nat.le_refl _⟩
  | work active worked =>
      cases worked with
      | marked snapshot => exact ⟨Nat.le_succ _, Nat.le_refl _⟩
      | unmarked snapshot failed => exact replaced _ none
      | restored snapshot result call => exact replaced call snapshot
      | _ => exact ⟨Nat.le_refl _, Nat.le_succ _⟩

/-- The system counts in a `u32`: it comes back to a number only after as many steps. -/
theorem sequence_unwrapped {actions : List Action}
    (reached : Transition.run (State.step process) state actions = some next)
    (short : actions.length < UInt32.size) :
    next.clipboard.sequence % UInt32.size = state.clipboard.sequence % UInt32.size ↔
      next.clipboard.sequence = state.clipboard.sequence := by
  have counted := @Transition.run_raises State Action (State.step process)
    (fun count later => state.clipboard.sequence ≤ later.clipboard.sequence ∧
      later.clipboard.sequence ≤ state.clipboard.sequence + count)
    (fun count before action after bounded taken =>
      have raised := step_raises taken
      ⟨Nat.le_trans bounded.1 raised.1,
        Nat.le_trans raised.2 (Nat.add_le_add_right bounded.2 1)⟩)
    actions 0 state next ⟨Nat.le_refl _, Nat.le_refl _⟩ reached
  simp only [UInt32.size] at short ⊢
  omega

/-! The clipboard is given back -/

/-- Only the program with the selection changes the clipboard, in answer to the shortcut and until
its burst has settled, and the calls that save and restore the text succeed. -/
def State.undisturbed (state : State) : Action → Bool
  | .write _ =>
      match state.worker with
      | some (.polling _ _) => true
      | some (.settling _ _) => true
      | _ => false
  | .snapshot _ locked => locked
  | .mark .emptied => false
  | .settle settled =>
      match state.worker with
      | some (.settling _ current) => !settled || current == state.clipboard.sequence
      | _ => true
  | .restore .unavailable => false
  | .restore .emptied => false
  | _ => true

/-- The text is on the clipboard or with the guard, which may restore it. -/
def Kept (text : Option (List UInt16)) (clipboard : Clipboard) : Stage → Prop
  | .waiting => clipboard.text = text
  | .snapshotting => clipboard.text = text
  | .marking snapshot => snapshot = text ∧ clipboard.text = text
  | .sequencing snapshot => snapshot = text
  | .sending snapshot marker => snapshot = text ∧ clipboard.sequence = marker
  | .polling snapshot _ => snapshot = text
  | .settling snapshot _ => snapshot = text
  | .reading snapshot expected => snapshot = text ∧ clipboard.sequence = expected
  | .dropping snapshot expected _ => snapshot = text ∧ clipboard.sequence = expected
  | .restoring snapshot _ => snapshot = text
  | .returning _ => clipboard.text = text

def KeptBy (text : Option (List UInt16)) (state : State) : Prop :=
  match state.worker with
  | none => state.clipboard.text = text
  | some stage => Kept text state.clipboard stage

theorem worked_kept {text : Option (List UInt16)} (sized : ∀ units ∈ text, sizeAllowed units = true)
    (worked : Worked process clipboard stage action after later)
    (undisturbed : State.undisturbed ⟨clipboard, some stage⟩ action = true)
    (kept : Kept text clipboard stage) : Kept text after later := by
  cases worked with
  | released => exact kept
  | held => exact kept
  | taken locked =>
      change locked = true at undisturbed
      have here : clipboard.text = text := kept
      refine ⟨?_, here⟩
      rw [undisturbed, if_pos rfl, here]
      cases text with
      | none => rfl
      | some units => simp only [Option.filter, sized units rfl, ↓reduceIte]
  | unopened locked => exact kept
  | marked snapshot => exact kept.1
  | @unmarked snapshot call failed =>
      cases call with
      | unavailable => exact kept.2
      | emptied => cases undisturbed
      | done => exact absurd rfl failed
  | sequenced snapshot => exact ⟨kept, rfl⟩
  | sent snapshot marker => exact kept.1
  | unsent snapshot marker => exact kept
  | changed snapshot expired new => exact kept
  | expired snapshot same => exact ⟨kept, same⟩
  | polled snapshot marker => exact kept
  | settled snapshot current =>
      exact ⟨kept, (eq_of_beq undisturbed).symm⟩
  | unsettled snapshot current => exact kept
  | read snapshot expected opened locked => exact kept
  | own snapshot result same => exact kept.1
  | newer snapshot result apart => exact absurd kept.2 apart
  | restored snapshot result call =>
      cases call with
      | unavailable => cases undisturbed
      | emptied => cases undisturbed
      | done => exact kept

theorem step_kept {text : Option (List UInt16)} (sized : ∀ units ∈ text, sizeAllowed units = true)
    (undisturbed : state.undisturbed action = true)
    (taken : state.step process action = some next) (kept : KeptBy text state) :
    KeptBy text next := by
  obtain ⟨clipboard, worker⟩ := state
  cases step_cases taken with
  | busy active => exact kept
  | trigger idle =>
      cases idle
      exact kept
  | finish returning =>
      cases returning
      exact kept
  | write units =>
      cases worker with
      | none => cases undisturbed
      | some stage =>
          cases stage with
          | polling snapshot marker => exact kept
          | settling snapshot current => exact kept
          | _ => cases undisturbed
  | work active worked =>
      cases active
      exact worked_kept sized worked undisturbed kept

/-- Whatever captures come to, a selection, none, or an error: between them the clipboard has the
text it had. -/
theorem clipboard_restored {actions : List Action} (idle : state.worker = none)
    (sized : ∀ units ∈ state.clipboard.text, sizeAllowed units = true)
    (undisturbed : Transition.Meets (State.step process)
      (fun state action => state.undisturbed action = true) state actions)
    (reached : Transition.run (State.step process) state actions = some next)
    (ended : next.worker = none) : next.clipboard.text = state.clipboard.text := by
  have first : KeptBy state.clipboard.text state := by
    rw [KeptBy, idle]
  have last := Transition.run_keeps_of_meets
    (fun _ _ _ kept undisturbed taken => step_kept sized undisturbed taken kept) actions state next
    first undisturbed reached
  rwa [KeptBy, ended] at last

def original : Clipboard := ⟨7, some [111, 108, 100, 0]⟩

/-- Up to the burst of the copy having settled. -/
def copying : List Action :=
  [.trigger, .release true, .snapshot true true, .mark .done, .sequence, .send true,
    .write (some [32, 104, 105, 0]), .poll false, .settle false, .settle true]

theorem clipboard_restored_original : ∃ next,
    Transition.run (State.step 42) ⟨original, none⟩
      (copying ++ [.read true true, .check, .restore .done, .finish]) = some next ∧
      next.clipboard.text = some [111, 108, 100, 0] := by
  have found : (Transition.run (State.step 42) ⟨original, none⟩
      (copying ++ [.read true true, .check, .restore .done, .finish])).any
      (fun next => next.worker.isNone) = true := by decide
  obtain ⟨next, reached, ended⟩ := (Option.any_eq_true _ _).mp found
  refine ⟨next, reached, clipboard_restored rfl ?_ (by decide) reached
    (Option.isNone_iff_eq_none.mp ended)⟩
  intro units same
  cases same
  decide

/-! A newer text is kept -/

/-- The guard has its sequence number for good. -/
def State.late (state : State) : Bool :=
  match state.worker with
  | some (.reading _ _) => true
  | some (.dropping _ _ _) => true
  | _ => false

/-- No guard expects a number that is still to come. -/
def Reached (clipboard : Clipboard) : Stage → Prop
  | .sending _ marker => marker ≤ clipboard.sequence
  | .polling _ marker => marker ≤ clipboard.sequence
  | .settling _ current => current ≤ clipboard.sequence
  | .reading _ expected => expected ≤ clipboard.sequence
  | .dropping _ expected _ => expected ≤ clipboard.sequence
  | _ => True

theorem step_reached (taken : state.step process action = some next)
    (reached : ∀ stage ∈ state.worker, Reached state.clipboard stage) :
    ∀ stage ∈ next.worker, Reached next.clipboard stage := by
  cases step_cases taken with
  | busy active => exact reached
  | trigger idle =>
      intro stage same
      cases same
      trivial
  | finish returning =>
      intro stage same
      cases same
  | write text =>
      intro stage active
      have former := reached stage active
      cases stage <;> first | trivial | exact Nat.le_succ_of_le former
  | work active worked =>
      intro stage same
      cases same
      have former := reached _ active
      cases worked with
      | sequenced snapshot => exact Nat.le_refl _
      | changed snapshot expired new => exact Nat.le_refl _
      | unsettled snapshot current => exact Nat.le_refl _
      | _ => trivial

/-- The guard will not restore, and the clipboard has this text. -/
def Spared (text : Option (List UInt16)) (state : State) : Prop :=
  state.clipboard.text = text ∧
    match state.worker with
    | some (.reading _ expected) => expected < state.clipboard.sequence
    | some (.dropping _ expected _) => expected < state.clipboard.sequence
    | some (.returning _) => True
    | _ => False

/-- What the other programs leave on the clipboard. -/
def lastText (text : Option (List UInt16)) : List Action → Option (List UInt16)
  | [] => text
  | .write later :: rest => lastText later rest
  | _ :: rest => lastText text rest

theorem step_spared {text : Option (List UInt16)} (spared : Spared text state)
    (goes : action ≠ .finish) (taken : state.step process action = some next) :
    Spared (lastText text [action]) next := by
  obtain ⟨clipboard, worker⟩ := state
  obtain ⟨same, guarded⟩ := spared
  cases step_cases taken with
  | busy active => exact ⟨same, guarded⟩
  | trigger idle =>
      cases idle
      exact guarded.elim
  | finish returning => exact absurd rfl goes
  | write later =>
      refine ⟨rfl, ?_⟩
      cases worker with
      | none => exact guarded.elim
      | some stage =>
          cases stage with
          | reading snapshot expected => exact Nat.lt_succ_of_lt guarded
          | dropping snapshot expected result => exact Nat.lt_succ_of_lt guarded
          | returning result => trivial
          | _ => exact guarded.elim
  | work active worked =>
      cases active
      cases worked with
      | read snapshot expected opened locked => exact ⟨same, guarded⟩
      | own snapshot result equal => exact absurd equal.symm (Nat.ne_of_lt guarded)
      | newer snapshot result apart => exact ⟨same, trivial⟩
      | _ => exact guarded.elim

theorem run_spared {text : Option (List UInt16)} {actions : List Action}
    (spared : Spared text state) (goes : Action.finish ∉ actions)
    (taken : Transition.run (State.step process) state actions = some next) :
    Spared (lastText text actions) next := by
  induction actions generalizing state text with
  | nil =>
      cases taken
      exact spared
  | cons action rest ih =>
      rw [List.mem_cons, not_or] at goes
      cases here : State.step process state action with
      | none =>
          rw [Transition.run, here] at taken
          cases taken
      | some middle =>
          rw [Transition.run, here] at taken
          have advanced := ih (step_spared spared (Ne.symm goes.1) here) goes.2 taken
          cases action <;> exact advanced

/-- What another program puts on the clipboard after a capture has seen it settle stays there: the
capture ends without restoring over it. -/
theorem newer_kept {before during : List Action} {text : Option (List UInt16)} {start : State}
    (idle : start.worker = none)
    (reached : Transition.run (State.step process) start before = some state)
    (late : state.late = true) (goes : Action.finish ∉ during)
    (continued : Transition.run (State.step process) state (.write text :: during) = some next) :
    next.clipboard.text = lastText text during := by
  have first : ∀ stage ∈ start.worker, Reached start.clipboard stage := by
    rw [idle]
    intro stage same
    cases same
  have expects := Transition.run_keeps
    (fun _ _ _ here taken => step_reached taken here) first reached
  have spared : Spared text { state with clipboard := state.clipboard.set text } := by
    refine ⟨rfl, ?_⟩
    obtain ⟨clipboard, worker⟩ := state
    cases worker with
    | none => cases late
    | some stage =>
        have below := expects stage rfl
        cases stage with
        | reading snapshot expected => exact Nat.lt_succ_of_le below
        | dropping snapshot expected result => exact Nat.lt_succ_of_le below
        | _ => cases late
  exact (run_spared spared goes continued).1

theorem newer_kept_original : ∃ next,
    Transition.run (State.step 42) ⟨original, none⟩
      (copying ++ [.write (some [110, 101, 119, 0]), .read true true, .check]) = some next ∧
      next.clipboard.text = some [110, 101, 119, 0] :=
  ⟨_, rfl, @newer_kept 42 ⟨⟨9, some [32, 104, 105, 0]⟩,
    some (.reading (some [111, 108, 100, 0]) 9)⟩ _ copying [.read true true, .check]
    (some [110, 101, 119, 0]) ⟨original, none⟩ rfl rfl rfl (by simp) rfl⟩

/-! What is taken for the selection -/

/-- Another program put the text on the clipboard. -/
def Written (done : List Action) (text : Option (List UInt16)) : Prop := .write text ∈ done

/-- A result that is a selection is what another program put on the clipboard. -/
def Selected (done : List Action) (result : Except CaptureError (List Char)) : Prop :=
  ∀ text, result = .ok text → text ≠ [] ∧
    ∃ units, .write (some units) ∈ done ∧ text = trim (unitsText units)

/-- A change since the marker is that of another program. -/
def Foreign (done : List Action) (clipboard : Clipboard) : Stage → Prop
  | .sending _ marker => clipboard.sequence ≠ marker → Written done clipboard.text
  | .polling _ marker => clipboard.sequence ≠ marker → Written done clipboard.text
  | .settling _ _ => Written done clipboard.text
  | .reading _ _ => Written done clipboard.text
  | .dropping _ _ result => Selected done result
  | .restoring _ result => Selected done result
  | .returning result => Selected done result
  | _ => True

variable {done : List Action}

theorem selected_error (error : CaptureError) : Selected done (.error error) := by
  intro text same
  cases same

theorem Selected.more {result : Except CaptureError (List Char)} (selected : Selected done result)
    (action : Action) : Selected (done ++ [action]) result := by
  intro text same
  obtain ⟨present, units, among, whole⟩ := selected text same
  exact ⟨present, units, List.mem_append_left _ among, whole⟩

theorem Foreign.more (foreign : Foreign done clipboard stage) (action : Action) :
    Foreign (done ++ [action]) clipboard stage := by
  cases stage with
  | sending snapshot marker => exact fun new => List.mem_append_left _ (foreign new)
  | polling snapshot marker => exact fun new => List.mem_append_left _ (foreign new)
  | settling snapshot current => exact List.mem_append_left _ foreign
  | reading snapshot expected => exact List.mem_append_left _ foreign
  | dropping snapshot expected result => exact Selected.more foreign action
  | restoring snapshot result => exact Selected.more foreign action
  | returning result => exact Selected.more foreign action
  | _ => trivial

theorem selected_read (written : Written done clipboard.text) (opened locked : Bool) :
    Selected done ((readUnicodeClipboardText clipboard opened locked).bind selection) := by
  intro text result
  unfold readUnicodeClipboardText at result
  split at result
  · cases result
  · split at result
    · cases result
    · rename_i units found
      split at result
      · change selection (unitsText units) = .ok text at result
        unfold selection at result
        split at result
        · cases result
        · rename_i present
          cases result
          exact ⟨present, units, found ▸ written, rfl⟩
      · cases result

theorem step_foreign (taken : state.step process action = some next)
    (foreign : ∀ stage ∈ state.worker, Foreign done state.clipboard stage) :
    ∀ stage ∈ next.worker, Foreign (done ++ [action]) next.clipboard stage := by
  cases step_cases taken with
  | busy active => exact fun stage same => (foreign stage same).more _
  | trigger idle =>
      intro stage same
      cases same
      trivial
  | finish returning =>
      intro stage same
      cases same
  | write text =>
      intro stage active
      have former := (foreign stage active).more (.write text)
      have now : Written (done ++ [.write text]) text :=
        List.mem_append_right _ (List.mem_singleton_self _)
      cases stage with
      | sending snapshot marker => exact fun _ => now
      | polling snapshot marker => exact fun _ => now
      | settling snapshot current => exact now
      | reading snapshot expected => exact now
      | _ => exact former
  | work active worked =>
      intro stage same
      cases same
      have former := (foreign _ active).more action
      cases worked with
      | held => exact selected_error _
      | unopened locked => exact selected_error _
      | unmarked failed => exact selected_error _
      | sequenced snapshot => exact fun new => absurd rfl new
      | unsent snapshot marker => exact selected_error _
      | changed snapshot expired new => exact former new
      | expired snapshot same => exact selected_error _
      | read snapshot expected opened locked => exact selected_read former opened locked
      | _ => trivial

/-- A selection that a capture returns was put on the clipboard by another program, never by the
capture itself, and is not empty. -/
theorem selection_from_others {actions : List Action} {start : State} {text : List Char}
    (idle : start.worker = none)
    (reached : Transition.run (State.step process) start actions = some state)
    (returned : state.worker = some (.returning (.ok text))) :
    text ≠ [] ∧ ∃ units, .write (some units) ∈ actions ∧ text = trim (unitsText units) := by
  have first : ∀ stage ∈ start.worker, Foreign [] start.clipboard stage := by
    rw [idle]
    intro stage same
    cases same
  have last := @Transition.run_keeps_history _ _ (State.step process) (fun _ _ => True)
    (fun done state => ∀ stage ∈ state.worker, Foreign done state.clipboard stage)
    (fun _ _ _ _ foreign _ taken => step_foreign taken foreign) actions [] _ _ first
    (Transition.meets_true _ _ _) reached
  exact last _ returned text rfl

theorem selection_from_others_original :
    "hi".toList ≠ [] ∧ ∃ units,
      .write (some units) ∈ copying ++ [.read true true, .check, .restore .done] ∧
        "hi".toList = trim (unitsText units) :=
  @selection_from_others 42 ⟨⟨10, some [111, 108, 100, 0]⟩, some (.returning (.ok "hi".toList))⟩
    (copying ++ [.read true true, .check, .restore .done]) ⟨original, none⟩ "hi".toList rfl rfl rfl

end Lvos.Platform.Capture
