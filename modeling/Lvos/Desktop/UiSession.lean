import Lvos.Ipc.Protocol
import Lvos.Lib.Table

set_option autoImplicit false

namespace Lvos.Desktop

open Lvos.Core Lvos.Ipc
open Relational (Table)

structure UiCache where
  main : Option MainUiSnapshot
  revision : Nat
  lastSequence : Nat
  resyncPending : Bool
deriving DecidableEq

structure DisplaySession where
  id : DrawnId
  queryId : Nat
deriving DecidableEq

structure PendingRequest where
  operation : UiOperation
  blocksUi : Bool
deriving DecidableEq

structure ExitState where
  armed : Bool
  requestId : Option DrawnId
deriving DecidableEq

inductive PopupLifecycleState
  | cold
  | active
  | warm
deriving DecidableEq

def maxPopupIdleTimeoutSecs : Nat := 300

def defaultPopupIdleTimeoutSecs : Nat := 30

/-- The windows of the process; a Popup that is not cold has its window, and `card` is what
that shows. -/
structure UiHosts where
  main : Bool
  permission : Bool
  popup : PopupLifecycleState
  card : Option LookupUiState
  popupIdleTimeoutSecs : Nat
deriving DecidableEq

/-- The GUI's side of a connection. `drawn` counts the ids it has drawn. -/
structure UiSession where
  generation : Nat
  cache : UiCache
  display : Option DisplaySession
  pending : Table DrawnId PendingRequest
  localOperations : Nat
  exit : ExitState
  hosts : UiHosts
  drawn : DrawnId
  quit : Bool
deriving DecidableEq

namespace UiSession

def install (generation : Nat) (drawn : DrawnId) : UiSession where
  generation := generation
  cache := ⟨none, 0, 0, false⟩
  display := none
  pending := .empty
  localOperations := 0
  exit := ⟨false, none⟩
  hosts := ⟨false, false, .cold, none, defaultPopupIdleTimeoutSecs⟩
  drawn := drawn
  quit := false

/-- Two effects of the session in a row, with what they send in its order. -/
@[simps]
def andThen (first : UiSession × List UiToAgent)
    (next : UiSession → UiSession × List UiToAgent) : UiSession × List UiToAgent :=
  ((next first.1).1, first.2 ++ (next first.1).2)

def hasLiveUi (session : UiSession) : Bool :=
  session.hosts.main || session.hosts.popup ≠ .cold || session.hosts.permission

def isIdle (session : UiSession) : Bool :=
  session.exit.armed && !session.hasLiveUi && session.pending.rows.isEmpty &&
    session.localOperations = 0

def withRequest (session : UiSession) (requestId : Option DrawnId) : UiSession :=
  { session with exit := { session.exit with requestId := requestId } }

def evaluateExit (session : UiSession) : UiSession × List UiToAgent :=
  match session.isIdle, session.exit.requestId with
  | true, none =>
      ({ session.withRequest (some session.drawn) with drawn := session.drawn + 1 },
        [.requestIdleExit session.drawn session.generation])
  | false, some requestId =>
      (session.withRequest none, [.cancelIdleExit requestId session.generation])
  | _, _ => (session, [])

def submitRequest (session : UiSession) (operation : UiOperation) (blocksUi : Bool) :
    UiSession × List UiToAgent :=
  andThen
    ({ session with
      pending := session.pending.put session.drawn ⟨operation, blocksUi⟩
      drawn := session.drawn + 1 }, [.request session.drawn operation])
    evaluateExit

def requestResync (session : UiSession) : UiSession × List UiToAgent :=
  if session.cache.resyncPending then (session, [])
  else
    submitRequest { session with cache := { session.cache with resyncPending := true } }
      .requestSnapshot false

/-- `release_popup` of the current lifecycle. -/
def releasePopup (session : UiSession) : UiSession × List UiToAgent :=
  if session.hosts.popup ≠ .warm then (session, [])
  else evaluateExit { session with hosts := { session.hosts with popup := .cold } }

/-- `schedule_popup_release` without its timer. -/
def schedulePopupRelease (session : UiSession) : UiSession × List UiToAgent :=
  if session.hosts.popupIdleTimeoutSecs = 0 then session.releasePopup else (session, [])

/-- A value above the maximum is ignored; zero releases a warm Popup at once. -/
def setPopupIdleTimeoutSecs (session : UiSession) (seconds : Nat) :
    UiSession × List UiToAgent :=
  if maxPopupIdleTimeoutSecs < seconds then (session, [])
  else
    { session with hosts := { session.hosts with
        popupIdleTimeoutSecs := seconds } }.schedulePopupRelease

def withSnapshot (session : UiSession) (snapshot : UiSnapshot) : UiSession :=
  { session with cache := { session.cache with
      revision := snapshot.revision
      main := some snapshot.main
      resyncPending := false } }

def applySnapshot (session : UiSession) (snapshot : UiSnapshot) : UiSession × List UiToAgent :=
  if snapshot.revision ≠ snapshot.main.revision then session.requestResync
  else
    andThen (session.setPopupIdleTimeoutSecs snapshot.main.preferences.popupIdleTimeoutSecs)
      (fun session => (session.withSnapshot snapshot, []))

/-- The cached state that a patch follows. -/
def follows (cache : UiCache) (patch : MainUiPatch) : Option MainUiSnapshot :=
  if patch.baseRevision ≠ cache.revision ∨ patch.revision ≤ cache.revision then none
  else cache.main

def withPatch (session : UiSession) (main : MainUiSnapshot) (patch : MainUiPatch) : UiSession :=
  { session with cache := { session.cache with
      main := some (applyMainPatch main patch)
      revision := patch.revision } }

def applyPatch (session : UiSession) (patch : MainUiPatch) : UiSession × List UiToAgent :=
  match follows session.cache patch with
  | none => session.requestResync
  | some main =>
      match patch.preferences with
      | none => (session.withPatch main patch, [])
      | some preferences =>
          (session.withPatch main patch).setPopupIdleTimeoutSecs preferences.popupIdleTimeoutSecs

/-- `lookup_state`: the content key of a result has to be one. -/
def validLookup : LookupUiState → Bool
  | .ready _ contentKey _ _ _ _ => (ContentKey.fromStr contentKey).toBool
  | _ => true

/-- `begin_lookup`; `created` tells whether a Popup that has no window yet gets one. -/
def beginLookup (session : UiSession) (displaySessionId : DrawnId) (state : LookupUiState)
    (created : Bool) : UiSession :=
  if validLookup state then
    { session with
      display := some ⟨displaySessionId, state.queryId⟩
      hosts := if session.hosts.popup ≠ .cold || created then
          { session.hosts with
            popup := .active
            card := some state }
        else session.hosts }
  else session

def updateLookup (session : UiSession) (displaySessionId : DrawnId) (state : LookupUiState) :
    UiSession :=
  if session.display ≠ some ⟨displaySessionId, state.queryId⟩ then session
  else if validLookup state then
    if session.hosts.popup = .active then
      { session with hosts := { session.hosts with card := some state } }
    else { session with display := none }
  else session

/-- `dismiss_popup_controller` with its hooks; `hidden` tells whether the window could be
hidden. -/
def dismissPopup (session : UiSession) (hidden : Bool) : UiSession × List UiToAgent :=
  if session.hosts.popup ≠ .active || !hidden then (session, [])
  else
    andThen
      (andThen
        ({ session with
          hosts := { session.hosts with popup := .warm }
          display := none },
          match session.display with
          | some display => [.lookupDismissed display.id]
          | none => [])
        evaluateExit)
      schedulePopupRelease

/-- What of `apply_operation_result` is not shown. -/
def applyOperationResult (session : UiSession) (result : OperationResult) : UiSession :=
  { session with
    pending := session.pending.delete (fun id _ => decide (id = result.responseTo)) }

def applyExitApproval (session : UiSession) (requestId : DrawnId) (processGeneration : Nat) :
    UiSession × List UiToAgent :=
  if processGeneration ≠ session.generation ∨ session.exit.requestId ≠ some requestId then
    (session, [])
  else if session.isIdle then
    ({ session with quit := true }, [.exiting session.generation])
  else (session.withRequest none, [.cancelIdleExit requestId session.generation])

def arm (session : UiSession) : UiSession :=
  { session with exit := { session.exit with armed := true } }

/-- A window is destroyed, and the hooks run where it could be hidden. -/
def destroyMain (session : UiSession) (hidden : Bool) : UiSession × List UiToAgent :=
  if !session.hosts.main then (session, [])
  else
    let closed := { session with hosts := { session.hosts with main := false } }
    if hidden then closed.evaluateExit else (closed, [])

def destroyPermission (session : UiSession) (hidden : Bool) : UiSession × List UiToAgent :=
  if !session.hosts.permission then (session, [])
  else
    let closed := { session with hosts := { session.hosts with permission := false } }
    if hidden then closed.evaluateExit else (closed, [])

/-- The effect of a message; `done` tells whether the platform did what it asks for. -/
def handle (session : UiSession) (message : AgentToUi) (done : Bool) :
    UiSession × List UiToAgent :=
  match message with
  | .snapshot snapshot => session.applySnapshot snapshot
  | .patch patch => session.applyPatch patch
  | .beginLookup displaySessionId state =>
      (session.arm.beginLookup displaySessionId state done, [])
  | .updateLookup displaySessionId state => (session.updateLookup displaySessionId state, [])
  | .hideLookup displaySessionId =>
      if session.display.any (fun display => display.id = displaySessionId) then
        session.dismissPopup done
      else (session, [])
  | .openMainWindow =>
      ({ session.arm with hosts := { session.hosts with main := session.hosts.main || done } }, [])
  | .hideMainWindow => session.destroyMain done
  | .showPermission _ =>
      ({ session.arm with hosts := { session.hosts with permission := true } }, [])
  | .operationResult result => (session.applyOperationResult result, [])
  | .idleExitApproved requestId processGeneration =>
      session.applyExitApproval requestId processGeneration
  | .shutdown => ({ session with quit := true }, [])
  | .setDiagnosticAppearance _ _ | .handshakeAccepted _ => (session, [])

def withSequence (session : UiSession) (sequence : Nat) : UiSession :=
  { session with cache := { session.cache with lastSequence := sequence } }

/-- A message that is out of sequence is ignored. -/
def apply (session : UiSession) (sequence : Nat) (message : AgentToUi) (done : Bool) :
    UiSession × List UiToAgent :=
  if sequence ≤ session.cache.lastSequence then (session, [])
  else andThen ((session.withSequence sequence).handle message done) evaluateExit

end UiSession

/-- What the user, a dialog or a timer does. -/
inductive UiEvent
  | submit (operation : UiOperation) (blocksUi : Bool)
  | dismissPopup (hidden : Bool)
  | releasePopup
  | closeMain (hidden : Bool)
  | closePermission (hidden : Bool)
  | beginLocalOperation
  | endLocalOperation
  | blockingChanged (blocked : Bool)
deriving DecidableEq

def UiSession.onEvent (session : UiSession) : UiEvent → UiSession × List UiToAgent
  | .submit operation blocksUi => session.submitRequest operation blocksUi
  | .dismissPopup hidden => session.dismissPopup hidden
  | .releasePopup => session.releasePopup
  | .closeMain hidden => session.destroyMain hidden
  | .closePermission hidden => session.destroyPermission hidden
  | .beginLocalOperation =>
      { session with localOperations := session.localOperations + 1 }.evaluateExit
  | .endLocalOperation =>
      { session with localOperations := session.localOperations - 1 }.evaluateExit
  | .blockingChanged blocked => (session, [.uiBlockingChanged blocked])

/-! What an effect of the session means for the Agent. -/

/-- The messages that ask for nothing. -/
def isNotice : UiToAgent → Bool
  | .lookupDismissed _ | .uiBlockingChanged _ | .exiting _ => true
  | _ => false

namespace UiSession

/-- Applying the message asks for a new snapshot. -/
def asksSnapshot (session : UiSession) : AgentToUi → Bool
  | .patch patch => (follows session.cache patch).isNone && !session.cache.resyncPending
  | .snapshot snapshot =>
      snapshot.revision ≠ snapshot.main.revision && !session.cache.resyncPending
  | _ => false

/-- The session without the request that the message answers. -/
def answered (session : UiSession) : AgentToUi → UiSession
  | .operationResult result => session.applyOperationResult result
  | _ => session

/-- Which requests may be submitted, beside the idle exit that is asked for. -/
abbrev SubmitRule := Option DrawnId → UiOperation → Prop

/-- Every request may be. -/
def anyRequest : SubmitRule := fun _ _ => True

/-- One effect on the idle exit and the pending requests. -/
inductive Emit (rule : SubmitRule) (session : UiSession) : UiSession → List UiToAgent → Prop
  | quiet {next : UiSession} {output : List UiToAgent}
      (request : next.exit.requestId = session.exit.requestId)
      (pending : next.pending = session.pending) (drawn : next.drawn = session.drawn)
      (generation : next.generation = session.generation)
      (notices : ∀ message ∈ output, isNotice message = true) : Emit rule session next output
  | asks (idle : session.pending.rows = []) (free : session.exit.requestId = none) :
      Emit rule session { session.withRequest (some session.drawn) with drawn := session.drawn + 1 }
        [.requestIdleExit session.drawn session.generation]
  | withdraws (requestId : DrawnId) (held : session.exit.requestId = some requestId) :
      Emit rule session (session.withRequest none) [.cancelIdleExit requestId session.generation]
  | submits (operation : UiOperation) (blocksUi : Bool)
      (allowed : rule session.exit.requestId operation) :
      Emit rule session { session with
        pending := session.pending.put session.drawn ⟨operation, blocksUi⟩
        drawn := session.drawn + 1 } [.request session.drawn operation]

/-- Effects in a row. -/
inductive Emits (rule : SubmitRule) : UiSession → UiSession → List UiToAgent → Prop
  | refl (session : UiSession) : Emits rule session session []
  | step {session middle next : UiSession} {output rest : List UiToAgent}
      (first : Emit rule session middle output) (later : Emits rule middle next rest) :
      Emits rule session next (output ++ rest)

section Effects

variable {rule : SubmitRule} {session middle next : UiSession} {output rest : List UiToAgent}

theorem Emits.trans (first : Emits rule session middle output)
    (second : Emits rule middle next rest) : Emits rule session next (output ++ rest) := by
  induction first with
  | refl session => exact second
  | step effect later ih =>
      rw [List.append_assoc]
      exact .step effect (ih second)

theorem Emit.emits (effect : Emit rule session next output) :
    Emits rule session next output := by
  have once := Emits.step effect (.refl next)
  rwa [List.append_nil] at once

theorem Emits.andThen {first : UiSession × List UiToAgent}
    {second : UiSession → UiSession × List UiToAgent}
    (before : Emits rule session first.1 first.2)
    (after : Emits rule first.1 (second first.1).1 (second first.1).2) :
    Emits rule session (UiSession.andThen first second).1 (UiSession.andThen first second).2 :=
  before.trans after

/-- A change that the Agent does not see. -/
theorem Emits.unseen (request : next.exit.requestId = session.exit.requestId)
    (pending : next.pending = session.pending) (drawn : next.drawn = session.drawn)
    (generation : next.generation = session.generation) : Emits rule session next [] :=
  Emit.emits (.quiet request pending drawn generation nofun)

theorem pending_of_isIdle (idle : session.isIdle = true) : session.pending.rows = [] := by
  simp only [isIdle, Bool.and_eq_true, List.isEmpty_iff] at idle
  exact idle.1.2

theorem emits_evaluateExit (session : UiSession) :
    Emits rule session session.evaluateExit.1 session.evaluateExit.2 := by
  unfold evaluateExit
  split
  · rename_i idle free
    exact Emit.emits (.asks (pending_of_isIdle idle) free)
  · rename_i requestId busy held
    exact Emit.emits (.withdraws requestId held)
  · exact .refl session

theorem emits_submitRequest (operation : UiOperation) (blocksUi : Bool)
    (allowed : rule session.exit.requestId operation) :
    Emits rule session (session.submitRequest operation blocksUi).1
      (session.submitRequest operation blocksUi).2 := by
  unfold submitRequest
  exact Emits.andThen (Emit.emits (.submits operation blocksUi allowed)) (emits_evaluateExit _)

theorem emits_requestResync
    (allowed : session.cache.resyncPending = false →
      rule session.exit.requestId .requestSnapshot) :
    Emits rule session session.requestResync.1 session.requestResync.2 := by
  unfold requestResync
  split
  · exact .refl session
  · rename_i asked
    rw [Bool.not_eq_true] at asked
    have flagged : Emits rule session
        { session with cache := { session.cache with resyncPending := true } } [] :=
      .unseen rfl rfl rfl rfl
    exact flagged.trans (emits_submitRequest .requestSnapshot false (allowed asked))

theorem emits_releasePopup (session : UiSession) :
    Emits rule session session.releasePopup.1 session.releasePopup.2 := by
  unfold releasePopup
  split
  · exact .refl session
  · have closed : Emits rule session
        { session with hosts := { session.hosts with popup := .cold } } [] :=
      .unseen rfl rfl rfl rfl
    exact closed.trans (emits_evaluateExit _)

theorem emits_schedulePopupRelease (session : UiSession) :
    Emits rule session session.schedulePopupRelease.1 session.schedulePopupRelease.2 := by
  unfold schedulePopupRelease
  split
  · exact emits_releasePopup session
  · exact .refl session

theorem emits_setPopupIdleTimeoutSecs (session : UiSession) (seconds : Nat) :
    Emits rule session (session.setPopupIdleTimeoutSecs seconds).1
      (session.setPopupIdleTimeoutSecs seconds).2 := by
  unfold setPopupIdleTimeoutSecs
  split
  · exact .refl session
  · have changed : Emits rule session { session with
        hosts := { session.hosts with popupIdleTimeoutSecs := seconds } } [] :=
      .unseen rfl rfl rfl rfl
    exact changed.trans (emits_schedulePopupRelease _)

theorem emits_dismissPopup (session : UiSession) (hidden : Bool) :
    Emits rule session (session.dismissPopup hidden).1 (session.dismissPopup hidden).2 := by
  unfold dismissPopup
  split
  · exact .refl session
  · apply Emits.andThen
    · apply Emits.andThen
      · refine Emit.emits (.quiet rfl rfl rfl rfl ?_)
        intro message member
        cases display : session.display with
        | none => simp [display] at member
        | some shown =>
            simp only [display, List.mem_singleton] at member
            rw [member]
            rfl
      · exact emits_evaluateExit _
    · exact emits_schedulePopupRelease _

theorem emits_destroyMain (session : UiSession) (hidden : Bool) :
    Emits rule session (session.destroyMain hidden).1 (session.destroyMain hidden).2 := by
  unfold destroyMain
  split
  · exact .refl session
  · have closed : Emits rule session
        { session with hosts := { session.hosts with main := false } } [] :=
      .unseen rfl rfl rfl rfl
    dsimp only
    split
    · exact closed.trans (emits_evaluateExit _)
    · exact closed

theorem emits_destroyPermission (session : UiSession) (hidden : Bool) :
    Emits rule session (session.destroyPermission hidden).1
      (session.destroyPermission hidden).2 := by
  unfold destroyPermission
  split
  · exact .refl session
  · have closed : Emits rule session
        { session with hosts := { session.hosts with permission := false } } [] :=
      .unseen rfl rfl rfl rfl
    dsimp only
    split
    · exact closed.trans (emits_evaluateExit _)
    · exact closed

theorem emits_applyExitApproval (session : UiSession) (requestId : DrawnId) (generation : Nat) :
    Emits rule session (session.applyExitApproval requestId generation).1
      (session.applyExitApproval requestId generation).2 := by
  unfold applyExitApproval
  split
  · exact .refl session
  · rename_i current
    split
    · refine Emit.emits (.quiet rfl rfl rfl rfl ?_)
      intro message member
      rw [List.mem_singleton] at member
      rw [member]
      rfl
    · exact Emit.emits (.withdraws requestId (not_not.mp (not_or.mp current).2))

theorem emits_handle (message : AgentToUi) (done : Bool)
    (allowed : session.asksSnapshot message = true →
      rule session.exit.requestId .requestSnapshot) :
    Emits rule (session.answered message) (session.handle message done).1
      (session.handle message done).2 := by
  cases message with
  | handshakeAccepted processGeneration => exact .refl session
  | snapshot snapshot =>
      unfold handle applySnapshot
      dsimp only
      split
      · rename_i mixed
        apply emits_requestResync
        intro asked
        change session.cache.resyncPending = false at asked
        exact allowed (by simp [asksSnapshot, mixed, asked])
      · exact Emits.andThen (emits_setPopupIdleTimeoutSecs _ _) (.unseen rfl rfl rfl rfl)
  | patch patch =>
      unfold handle applyPatch
      dsimp only
      split
      · rename_i apart
        apply emits_requestResync
        intro asked
        change session.cache.resyncPending = false at asked
        exact allowed (by simp [asksSnapshot, apart, asked])
      · have patched (main : MainUiSnapshot) :
            Emits rule session (session.withPatch main patch) [] := .unseen rfl rfl rfl rfl
        split
        · exact patched _
        · exact (patched _).trans (emits_setPopupIdleTimeoutSecs _ _)
  | beginLookup displaySessionId state =>
      refine Emits.unseen ?_ ?_ ?_ ?_ <;>
        (unfold handle beginLookup; dsimp only; split <;> rfl)
  | updateLookup displaySessionId state =>
      refine Emits.unseen ?_ ?_ ?_ ?_ <;>
        (unfold handle updateLookup; dsimp only; repeat' split) <;> rfl
  | hideLookup displaySessionId =>
      unfold handle
      dsimp only
      split
      · exact emits_dismissPopup session done
      · exact .refl session
  | openMainWindow => exact .unseen rfl rfl rfl rfl
  | hideMainWindow => exact emits_destroyMain session done
  | showPermission status => exact .unseen rfl rfl rfl rfl
  | setDiagnosticAppearance darkTheme reduceMotion => exact .refl session
  | operationResult result => exact .refl _
  | idleExitApproved requestId processGeneration =>
      exact emits_applyExitApproval session requestId processGeneration
  | shutdown => exact .unseen rfl rfl rfl rfl

theorem emits_apply {sequence : Nat} (message : AgentToUi) (done : Bool)
    (next : session.cache.lastSequence < sequence)
    (allowed : session.asksSnapshot message = true →
      rule session.exit.requestId .requestSnapshot) :
    Emits rule (session.answered message) (session.apply sequence message done).1
      (session.apply sequence message done).2 := by
  have later : ¬ sequence ≤ session.cache.lastSequence := Nat.not_le.mpr next
  have counted : Emits rule (session.answered message)
      ((session.withSequence sequence).answered message) [] := by
    cases message with
    | operationResult result => exact .unseen rfl rfl rfl rfl
    | _ => exact .unseen rfl rfl rfl rfl
  unfold apply
  rw [if_neg later]
  apply Emits.andThen
  · exact counted.trans (@emits_handle rule (session.withSequence sequence) message done allowed)
  · exact emits_evaluateExit _

theorem emits_onEvent (event : UiEvent)
    (allowed : ∀ operation blocksUi, event = .submit operation blocksUi →
      rule session.exit.requestId operation) :
    Emits rule session (session.onEvent event).1 (session.onEvent event).2 := by
  cases event with
  | submit operation blocksUi =>
      exact emits_submitRequest operation blocksUi (allowed operation blocksUi rfl)
  | dismissPopup hidden => exact emits_dismissPopup session hidden
  | releasePopup => exact emits_releasePopup session
  | closeMain hidden => exact emits_destroyMain session hidden
  | closePermission hidden => exact emits_destroyPermission session hidden
  | beginLocalOperation =>
      have counted : Emits rule session
          { session with localOperations := session.localOperations + 1 } [] :=
        .unseen rfl rfl rfl rfl
      exact counted.trans (emits_evaluateExit _)
  | endLocalOperation =>
      have counted : Emits rule session
          { session with localOperations := session.localOperations - 1 } [] :=
        .unseen rfl rfl rfl rfl
      exact counted.trans (emits_evaluateExit _)
  | blockingChanged blocked =>
      refine Emit.emits (.quiet rfl rfl rfl rfl ?_)
      intro message member
      rw [UiSession.onEvent, List.mem_singleton] at member
      rw [member]
      rfl

theorem emits_anyEvent (session : UiSession) (event : UiEvent) :
    Emits anyRequest session (session.onEvent event).1 (session.onEvent event).2 :=
  emits_onEvent event (fun _ _ _ => trivial)

theorem emits_anyMessage {sequence : Nat} (message : AgentToUi) (done : Bool)
    (next : session.cache.lastSequence < sequence) :
    Emits anyRequest (session.answered message) (session.apply sequence message done).1
      (session.apply sequence message done).2 :=
  emits_apply message done next (fun _ => trivial)

end Effects

/-! What an effect of the session leaves to its cache and to the Popup. -/

section Cache

/-- What the Popup shows is as before, or it shows nothing any more. -/
def StillShown (session next : UiSession) : Prop :=
  next.hosts.popup = .active → session.hosts.popup = .active ∧
    next.display = session.display ∧ next.hosts.card = session.hosts.card

/-- The windows, the pending requests and the idle exit change, the rest does not. -/
structure Undisturbed (session next : UiSession) : Prop where
  quit : next.quit = session.quit
  cache : next.cache = session.cache
  shown : StillShown session next

variable {session middle next : UiSession}

theorem StillShown.refl (session : UiSession) : StillShown session session :=
  fun active => ⟨active, rfl, rfl⟩

theorem StillShown.trans (first : StillShown session middle) (second : StillShown middle next) :
    StillShown session next := by
  intro active
  obtain ⟨before, display, card⟩ := second active
  obtain ⟨shown, same, content⟩ := first before
  exact ⟨shown, display.trans same, card.trans content⟩

theorem Undisturbed.trans (first : Undisturbed session middle)
    (second : Undisturbed middle next) : Undisturbed session next :=
  ⟨second.quit.trans first.quit, second.cache.trans first.cache, first.shown.trans second.shown⟩

theorem undisturbed_evaluateExit (session : UiSession) :
    Undisturbed session session.evaluateExit.1 := by
  unfold evaluateExit
  split <;> exact ⟨rfl, rfl, .refl session⟩

theorem undisturbed_submitRequest (session : UiSession) (operation : UiOperation)
    (blocksUi : Bool) : Undisturbed session (session.submitRequest operation blocksUi).1 := by
  have submitted : Undisturbed session { session with
      pending := session.pending.put session.drawn ⟨operation, blocksUi⟩
      drawn := session.drawn + 1 } := ⟨rfl, rfl, .refl session⟩
  exact submitted.trans (undisturbed_evaluateExit _)

theorem undisturbed_releasePopup (session : UiSession) :
    Undisturbed session session.releasePopup.1 := by
  unfold releasePopup
  split
  · exact ⟨rfl, rfl, .refl session⟩
  · have closed : Undisturbed session
        { session with hosts := { session.hosts with popup := .cold } } := ⟨rfl, rfl, nofun⟩
    exact closed.trans (undisturbed_evaluateExit _)

theorem undisturbed_schedulePopupRelease (session : UiSession) :
    Undisturbed session session.schedulePopupRelease.1 := by
  unfold schedulePopupRelease
  split
  · exact undisturbed_releasePopup session
  · exact ⟨rfl, rfl, .refl session⟩

theorem undisturbed_setPopupIdleTimeoutSecs (session : UiSession) (seconds : Nat) :
    Undisturbed session (session.setPopupIdleTimeoutSecs seconds).1 := by
  unfold setPopupIdleTimeoutSecs
  split
  · exact ⟨rfl, rfl, .refl session⟩
  · have changed : Undisturbed session { session with
        hosts := { session.hosts with popupIdleTimeoutSecs := seconds } } := ⟨rfl, rfl, .refl session⟩
    exact changed.trans (undisturbed_schedulePopupRelease _)

theorem undisturbed_dismissPopup (session : UiSession) (hidden : Bool) :
    Undisturbed session (session.dismissPopup hidden).1 := by
  unfold dismissPopup
  split
  · exact ⟨rfl, rfl, .refl session⟩
  · have hid : Undisturbed session { session with
        hosts := { session.hosts with popup := .warm }
        display := none } := ⟨rfl, rfl, nofun⟩
    exact (hid.trans (undisturbed_evaluateExit _)).trans (undisturbed_schedulePopupRelease _)

theorem undisturbed_destroyMain (session : UiSession) (hidden : Bool) :
    Undisturbed session (session.destroyMain hidden).1 := by
  unfold destroyMain
  split
  · exact ⟨rfl, rfl, .refl session⟩
  · have closed : Undisturbed session
        { session with hosts := { session.hosts with main := false } } := ⟨rfl, rfl, .refl session⟩
    dsimp only
    split
    · exact closed.trans (undisturbed_evaluateExit _)
    · exact closed

theorem undisturbed_destroyPermission (session : UiSession) (hidden : Bool) :
    Undisturbed session (session.destroyPermission hidden).1 := by
  unfold destroyPermission
  split
  · exact ⟨rfl, rfl, .refl session⟩
  · have closed : Undisturbed session
        { session with hosts := { session.hosts with permission := false } } := ⟨rfl, rfl, .refl session⟩
    dsimp only
    split
    · exact closed.trans (undisturbed_evaluateExit _)
    · exact closed

theorem undisturbed_onEvent (session : UiSession) (event : UiEvent) :
    Undisturbed session (session.onEvent event).1 := by
  cases event with
  | submit operation blocksUi => exact undisturbed_submitRequest session operation blocksUi
  | dismissPopup hidden => exact undisturbed_dismissPopup session hidden
  | releasePopup => exact undisturbed_releasePopup session
  | closeMain hidden => exact undisturbed_destroyMain session hidden
  | closePermission hidden => exact undisturbed_destroyPermission session hidden
  | beginLocalOperation =>
      have counted : Undisturbed session
          { session with localOperations := session.localOperations + 1 } := ⟨rfl, rfl, .refl session⟩
      exact counted.trans (undisturbed_evaluateExit _)
  | endLocalOperation =>
      have counted : Undisturbed session
          { session with localOperations := session.localOperations - 1 } := ⟨rfl, rfl, .refl session⟩
      exact counted.trans (undisturbed_evaluateExit _)
  | blockingChanged blocked => exact ⟨rfl, rfl, .refl session⟩

end Cache

/-- The cache after a message in sequence, apart from its number. -/
def cacheAfter (cache : UiCache) : AgentToUi → UiCache
  | .snapshot snapshot =>
      if snapshot.revision ≠ snapshot.main.revision then { cache with resyncPending := true }
      else
        { cache with
          revision := snapshot.revision
          main := some snapshot.main
          resyncPending := false }
  | .patch patch =>
      match follows cache patch with
      | none => { cache with resyncPending := true }
      | some main =>
          { cache with
            main := some (applyMainPatch main patch)
            revision := patch.revision }
  | _ => cache

/-- The message makes the process quit. -/
def quitsOn (session : UiSession) : AgentToUi → Bool
  | .idleExitApproved requestId processGeneration =>
      processGeneration = session.generation && session.exit.requestId = some requestId &&
        session.isIdle
  | .shutdown => true
  | _ => false

theorem requestResync_keeps (session : UiSession) :
    session.requestResync.1.quit = session.quit ∧
      session.requestResync.1.cache = { session.cache with resyncPending := true } := by
  unfold requestResync
  split
  · rename_i pending
    refine ⟨rfl, ?_⟩
    rw [← pending]
  · have submitted := undisturbed_submitRequest
      { session with cache := { session.cache with resyncPending := true } } .requestSnapshot false
    exact ⟨submitted.quit, submitted.cache⟩

theorem handle_cache (session : UiSession) (message : AgentToUi) (done : Bool) :
    (session.handle message done).1.cache = cacheAfter session.cache message ∧
      (session.handle message done).1.quit = (session.quit || session.quitsOn message) := by
  cases message with
  | handshakeAccepted processGeneration => exact ⟨rfl, (Bool.or_false _).symm⟩
  | snapshot snapshot =>
      unfold handle applySnapshot cacheAfter
      dsimp only
      split
      · obtain ⟨quit, cache⟩ := requestResync_keeps session
        exact ⟨cache, by rw [quit]; exact (Bool.or_false _).symm⟩
      · obtain ⟨quit, cache, -⟩ := undisturbed_setPopupIdleTimeoutSecs session
          snapshot.main.preferences.popupIdleTimeoutSecs
        refine ⟨?_, ?_⟩
        · simp only [andThen_fst, withSnapshot, cache]
        · simp only [andThen_fst, withSnapshot, quit]
          exact (Bool.or_false _).symm
  | patch patch =>
      unfold handle applyPatch cacheAfter
      dsimp only
      split
      · obtain ⟨quit, cache⟩ := requestResync_keeps session
        exact ⟨cache, by rw [quit]; exact (Bool.or_false _).symm⟩
      · rename_i main follow
        split
        · exact ⟨rfl, (Bool.or_false _).symm⟩
        · rename_i preferences changed
          obtain ⟨quit, cache, -⟩ := undisturbed_setPopupIdleTimeoutSecs
            (session.withPatch main patch) preferences.popupIdleTimeoutSecs
          exact ⟨cache, by rw [quit]; exact (Bool.or_false _).symm⟩
  | beginLookup displaySessionId state =>
      unfold handle beginLookup
      dsimp only
      split <;> exact ⟨rfl, (Bool.or_false _).symm⟩
  | updateLookup displaySessionId state =>
      unfold handle updateLookup
      dsimp only
      repeat' split
      all_goals exact ⟨rfl, (Bool.or_false _).symm⟩
  | hideLookup displaySessionId =>
      unfold handle
      dsimp only
      split
      · obtain ⟨quit, cache, -⟩ := undisturbed_dismissPopup session done
        exact ⟨cache, by rw [quit]; exact (Bool.or_false _).symm⟩
      · exact ⟨rfl, (Bool.or_false _).symm⟩
  | openMainWindow => exact ⟨rfl, (Bool.or_false _).symm⟩
  | hideMainWindow =>
      obtain ⟨quit, cache, -⟩ := undisturbed_destroyMain session done
      exact ⟨cache, quit.trans (Bool.or_false _).symm⟩
  | showPermission status => exact ⟨rfl, (Bool.or_false _).symm⟩
  | setDiagnosticAppearance darkTheme reduceMotion => exact ⟨rfl, (Bool.or_false _).symm⟩
  | operationResult result => exact ⟨rfl, (Bool.or_false _).symm⟩
  | idleExitApproved requestId processGeneration =>
      unfold handle applyExitApproval quitsOn
      dsimp only
      split
      · rename_i stale
        refine ⟨rfl, ?_⟩
        rcases stale with other | other <;> simp [other]
      · rename_i current
        obtain ⟨own, asked⟩ := not_or.mp current
        rw [not_not] at own asked
        split
        · rename_i idle
          simp [own, asked, idle, cacheAfter]
        · rename_i busy
          simp [busy, cacheAfter, withRequest]
  | shutdown => exact ⟨rfl, (Bool.or_true _).symm⟩

theorem apply_cache {session : UiSession} {sequence : Nat} (message : AgentToUi) (done : Bool)
    (next : session.cache.lastSequence < sequence) :
    (session.apply sequence message done).1.cache =
        cacheAfter { session.cache with lastSequence := sequence } message ∧
      (session.apply sequence message done).1.quit =
        (session.quit || session.quitsOn message) := by
  have later : ¬ sequence ≤ session.cache.lastSequence := Nat.not_le.mpr next
  unfold apply
  rw [if_neg later, andThen_fst]
  obtain ⟨quit, cache, -⟩ := undisturbed_evaluateExit
    ((session.withSequence sequence).handle message done).1
  obtain ⟨handled, quits⟩ := handle_cache (session.withSequence sequence) message done
  exact ⟨cache.trans handled, quit.trans quits⟩

theorem requestResync_asks {session : UiSession}
    (unasked : session.cache.resyncPending = false) :
    .request session.drawn .requestSnapshot ∈ session.requestResync.2 := by
  unfold requestResync
  rw [if_neg (by rw [unasked]; exact Bool.false_ne_true), submitRequest, andThen_snd]
  exact List.mem_append_left _ (List.mem_cons_self ..)

/-- A session that waits for a snapshot after a message waited before, or asks for it now. -/
theorem handle_resync {session : UiSession} {message : AgentToUi} {done : Bool}
    (waits : (session.handle message done).1.cache.resyncPending = true) :
    session.cache.resyncPending = true ∧
        (∀ snapshot, message = .snapshot snapshot →
          snapshot.revision ≠ snapshot.main.revision) ∨
      .request session.drawn .requestSnapshot ∈ (session.handle message done).2 := by
  cases message with
  | snapshot snapshot =>
      rw [(handle_cache session (.snapshot snapshot) done).1, cacheAfter] at waits
      split at waits
      · rename_i mixed
        cases asked : session.cache.resyncPending with
        | true =>
            refine .inl ⟨rfl, ?_⟩
            rintro other ⟨⟩
            exact mixed
        | false =>
            right
            rw [handle, applySnapshot, if_pos mixed]
            exact requestResync_asks asked
      · cases waits
  | patch patch =>
      cases asked : session.cache.resyncPending with
      | true =>
          refine .inl ⟨rfl, fun snapshot same => ?_⟩
          cases same
      | false =>
          right
          rw [(handle_cache session (.patch patch) done).1, cacheAfter] at waits
          split at waits
          · rename_i apart
            rw [handle, applyPatch, apart]
            exact requestResync_asks asked
          · change session.cache.resyncPending = true at waits
            rw [asked] at waits
            cases waits
  | _ =>
      rw [(handle_cache session _ done).1] at waits
      refine .inl ⟨waits, fun snapshot same => ?_⟩
      cases same

theorem apply_resync {session : UiSession} {sequence : Nat} {message : AgentToUi} {done : Bool}
    (next : session.cache.lastSequence < sequence)
    (waits : (session.apply sequence message done).1.cache.resyncPending = true) :
    session.cache.resyncPending = true ∧
        (∀ snapshot, message = .snapshot snapshot →
          snapshot.revision ≠ snapshot.main.revision) ∨
      .request session.drawn .requestSnapshot ∈ (session.apply sequence message done).2 := by
  have later : ¬ sequence ≤ session.cache.lastSequence := Nat.not_le.mpr next
  unfold apply at waits ⊢
  rw [if_neg later, andThen_fst] at waits
  rw [(undisturbed_evaluateExit _).cache] at waits
  rw [if_neg later, andThen_snd]
  rcases handle_resync waits with before | asks
  · exact .inl before
  · exact .inr (List.mem_append_left _ asks)

/-- The process that quits on an approval says so and nothing else. -/
theorem apply_quitting {session : UiSession} {sequence requestId : Nat} (done : Bool)
    (next : session.cache.lastSequence < sequence)
    (asked : session.exit.requestId = some requestId) (idle : session.isIdle = true) :
    (session.apply sequence (.idleExitApproved requestId session.generation) done).2 =
      [.exiting session.generation] := by
  have later : ¬ sequence ≤ session.cache.lastSequence := Nat.not_le.mpr next
  have own : (session.withSequence sequence).generation = session.generation := rfl
  have held : (session.withSequence sequence).exit.requestId = some requestId := asked
  have rests : (session.withSequence sequence).isIdle = true := idle
  have quits : (session.withSequence sequence).handle
      (.idleExitApproved requestId session.generation) done =
      ({ session.withSequence sequence with quit := true }, [.exiting session.generation]) := by
    simp [handle, applyExitApproval, own, held, rests]
  have silent : ({ session.withSequence sequence with quit := true } : UiSession).evaluateExit.2 =
      [] := by
    have still : ({ session.withSequence sequence with quit := true } : UiSession).isIdle =
      true := idle
    simp [evaluateExit, still, held]
  unfold apply
  rw [if_neg later, andThen_snd, quits, silent]
  rfl

/-- The first snapshot of a process: nothing is said, and nothing but the cache and the
retention of the Popup changes. -/
theorem apply_start (generation : Nat) (drawn : DrawnId) {snapshot : UiSnapshot} (done : Bool)
    (consistent : snapshot.revision = snapshot.main.revision) :
    ((install generation drawn).apply 2 (.snapshot snapshot) done).2 = [] ∧
      ((install generation drawn).apply 2 (.snapshot snapshot) done).1.exit = ⟨false, none⟩ ∧
      ((install generation drawn).apply 2 (.snapshot snapshot) done).1.quit = false ∧
      ((install generation drawn).apply 2 (.snapshot snapshot) done).1.generation = generation ∧
      ((install generation drawn).apply 2 (.snapshot snapshot) done).1.drawn = drawn ∧
      ((install generation drawn).apply 2 (.snapshot snapshot) done).1.pending = .empty ∧
      ((install generation drawn).apply 2 (.snapshot snapshot) done).1.cache =
        ⟨some snapshot.main, snapshot.revision, 2, false⟩ := by
  by_cases long : maxPopupIdleTimeoutSecs < snapshot.main.preferences.popupIdleTimeoutSecs
  · simp [apply, handle, applySnapshot, consistent, setPopupIdleTimeoutSecs, long, install,
      withSequence, withSnapshot, evaluateExit, isIdle]
  · by_cases zero : snapshot.main.preferences.popupIdleTimeoutSecs = 0
    · simp [apply, handle, applySnapshot, consistent, setPopupIdleTimeoutSecs, zero,
        schedulePopupRelease, releasePopup, install, withSequence, withSnapshot, evaluateExit,
        isIdle]
    · simp [apply, handle, applySnapshot, consistent, setPopupIdleTimeoutSecs, long, zero,
        schedulePopupRelease, install, withSequence, withSnapshot, evaluateExit, isIdle]

/-- A stale approval changes nothing. -/
theorem applyExitApproval_stale {session : UiSession} {requestId : DrawnId} {generation : Nat}
    (stale : generation ≠ session.generation ∨ session.exit.requestId ≠ some requestId) :
    session.applyExitApproval requestId generation = (session, []) := by
  rw [applyExitApproval, if_pos stale]

/-! What a message leaves to the Popup. -/

def isLookup : AgentToUi → Bool
  | .beginLookup _ _ | .updateLookup _ _ => true
  | _ => false

section Popup

variable {session : UiSession}

theorem shown_requestResync (session : UiSession) :
    StillShown session session.requestResync.1 := by
  unfold requestResync
  split
  · exact .refl session
  · exact (undisturbed_submitRequest _ _ _).shown

theorem handle_shown (message : AgentToUi) (done : Bool) (plain : isLookup message = false) :
    StillShown session (session.handle message done).1 := by
  cases message with
  | snapshot snapshot =>
      unfold handle applySnapshot
      dsimp only
      split
      · exact shown_requestResync session
      · exact (undisturbed_setPopupIdleTimeoutSecs session _).shown
  | patch patch =>
      unfold handle applyPatch
      dsimp only
      split
      · exact shown_requestResync session
      · split
        · exact .refl session
        · exact (undisturbed_setPopupIdleTimeoutSecs _ _).shown
  | beginLookup displaySessionId state => cases plain
  | updateLookup displaySessionId state => cases plain
  | hideLookup displaySessionId =>
      unfold handle
      dsimp only
      split
      · exact (undisturbed_dismissPopup session done).shown
      · exact .refl session
  | hideMainWindow => exact (undisturbed_destroyMain session done).shown
  | idleExitApproved requestId processGeneration =>
      unfold handle applyExitApproval
      dsimp only
      repeat' split
      all_goals exact .refl session
  | _ => exact .refl session

theorem apply_shown {sequence : Nat} {message : AgentToUi} (done : Bool)
    (plain : isLookup message = false) :
    StillShown session (session.apply sequence message done).1 := by
  unfold apply
  split
  · exact .refl session
  · have counted : StillShown session (session.withSequence sequence) := .refl session
    exact (counted.trans (handle_shown message done plain)).trans
      (undisturbed_evaluateExit _).shown

/-- A Popup that is there after `BeginLookup` shows its state. -/
theorem apply_beginLookup {sequence : Nat} {displaySessionId : DrawnId} {state : LookupUiState}
    {done : Bool} (next : session.cache.lastSequence < sequence)
    (valid : validLookup state = true)
    (active : (session.apply sequence (.beginLookup displaySessionId state) done).1.hosts.popup =
      .active) :
    (session.apply sequence (.beginLookup displaySessionId state) done).1.display =
        some ⟨displaySessionId, state.queryId⟩ ∧
      (session.apply sequence (.beginLookup displaySessionId state) done).1.hosts.card =
        some state := by
  have later : ¬ sequence ≤ session.cache.lastSequence := Nat.not_le.mpr next
  unfold apply at active ⊢
  rw [if_neg later, andThen_fst] at active ⊢
  obtain ⟨before, display, card⟩ := (undisturbed_evaluateExit _).shown active
  rw [display, card]
  unfold handle beginLookup at before ⊢
  dsimp only at before ⊢
  rw [if_pos valid] at before ⊢
  refine ⟨rfl, ?_⟩
  dsimp only at before ⊢
  split at before
  · rename_i there
    rw [if_pos there]
  · rename_i gone
    -- A Popup without a window is not active.
    rw [Bool.or_eq_true, not_or, decide_eq_true_eq, not_not] at gone
    change session.hosts.popup = .active at before
    have cold : session.hosts.popup = .cold := gone.1
    rw [cold] at before
    cases before

/-- `UpdateLookup` changes the card of its own display session only. -/
theorem apply_updateLookup {sequence : Nat} {displaySessionId : DrawnId} {state : LookupUiState}
    {done : Bool} (next : session.cache.lastSequence < sequence)
    (valid : validLookup state = true)
    (active : (session.apply sequence (.updateLookup displaySessionId state) done).1.hosts.popup =
      .active) :
    session.hosts.popup = .active ∧
      (session.apply sequence (.updateLookup displaySessionId state) done).1.display =
        session.display ∧
      (session.apply sequence (.updateLookup displaySessionId state) done).1.hosts.card =
        if session.display = some ⟨displaySessionId, state.queryId⟩ then some state
        else session.hosts.card := by
  have later : ¬ sequence ≤ session.cache.lastSequence := Nat.not_le.mpr next
  unfold apply at active ⊢
  rw [if_neg later, andThen_fst] at active ⊢
  obtain ⟨before, display, card⟩ := (undisturbed_evaluateExit _).shown active
  rw [display, card]
  unfold handle updateLookup at before ⊢
  dsimp only at before ⊢
  by_cases own : session.display = some ⟨displaySessionId, state.queryId⟩
  · have named : ¬ (session.withSequence sequence).display ≠
      some ⟨displaySessionId, state.queryId⟩ := not_not.mpr own
    rw [if_neg named, if_pos valid] at before ⊢
    rw [if_pos own]
    split at before
    · rename_i shown
      rw [if_pos shown]
      exact ⟨shown, rfl, rfl⟩
    · rename_i hidden
      exact absurd before hidden
  · have other : (session.withSequence sequence).display ≠
      some ⟨displaySessionId, state.queryId⟩ := own
    rw [if_pos other] at before ⊢
    rw [if_neg own]
    exact ⟨before, rfl, rfl⟩

end Popup

end UiSession

end Lvos.Desktop
