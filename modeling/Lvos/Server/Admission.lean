import Lvos.Server.Revocation

set_option autoImplicit false

namespace Lvos.Server

open Lvos.Core Lvos.Sync
open Relational (Table)
open Transition (run Meets run_keeps_of_meets)

/-- The later outcome is a write by the device that the earlier one has revoked. -/
def Outcome.outlives : Outcome → Outcome → Bool
  | .revoked userId deviceId, .committed writer device =>
      userId = writer && deviceId = device
  | _, _ => false

/-- Nothing a revoked device has sent is committed. -/
def NoLateWrites (history : List Outcome) : Prop :=
  history.Pairwise (fun early late => early.outlives late = false)

instance NoLateWrites.decidable (history : List Outcome) : Decidable (NoLateWrites history) :=
  inferInstanceAs (Decidable (history.Pairwise _))

/-- No admitted write of the device waits for its handler when the device is revoked. -/
def NoPendingWrites {φ : Type} (backend : Backend φ) : RequestStep → Prop
  | .handle id _ =>
      match backend.admitted.get id with
      | some ⟨principal, .revokeDevice deviceId⟩ =>
          ∀ entry ∈ backend.admitted.rows, entry.2.endpoint.writes = true →
            (entry.2.principal.userId, entry.2.principal.deviceId) ≠ (principal.userId, deviceId)
      | _ => True
  | _ => True

instance NoPendingWrites.decidable {φ : Type} (backend : Backend φ) :
    (action : RequestStep) → Decidable (NoPendingWrites backend action)
  | .handle id _ => by
      delta NoPendingWrites
      dsimp only
      generalize backend.admitted.get id = found
      exact match found with
        | some ⟨_, .revokeDevice _⟩ => inferInstanceAs (Decidable (∀ entry ∈ _, _))
        | none | some ⟨_, .logout⟩ | some ⟨_, .push _⟩ | some ⟨_, .setFavoriteState _ _ _⟩
        | some ⟨_, .read⟩ => .isTrue trivial
  | .login _ _ _ _ _ | .refresh _ _ _ | .requireAccess _ _ _ _ | .cancel _ => .isTrue trivial

section Runs

variable {φ : Type}

/-- The device of an admitted write is not revoked, and a device whose revocation is
in the history is. -/
structure AdmissionInv (backend : Backend φ) : Prop where
  closed : ∀ userId deviceId, Outcome.revoked userId deviceId ∈ backend.history →
    ∃ time, backend.auth.standing (userId, deviceId) = some (some time)
  pending : ∀ id request, backend.admitted.get id = some request →
    request.endpoint.writes = true →
    backend.auth.standing (request.principal.userId, request.principal.deviceId) = some none
  written : NoLateWrites backend.history

theorem AdmissionInv.starts {backend : Backend φ} (starts : backend.Starts) :
    AdmissionInv backend := by
  constructor
  · intro userId deviceId member
    rw [starts.history] at member
    cases member
  · intro id request found
    rw [starts.admitted, Table.get_empty] at found
    cases found
  · unfold NoLateWrites
    rw [starts.history]
    exact List.Pairwise.nil

/-- A step that revokes nothing. -/
theorem AdmissionInv.congr {backend next : Backend φ} (inv : AdmissionInv backend)
    (standing : ∀ key, next.auth.standing key = backend.auth.standing key)
    (admitted : ∀ id request, next.admitted.get id = some request →
      backend.admitted.get id = some request ∨
        backend.auth.standing (request.principal.userId, request.principal.deviceId) = some none)
    (closed : ∀ userId deviceId, Outcome.revoked userId deviceId ∈ next.history →
      Outcome.revoked userId deviceId ∈ backend.history)
    (late : NoLateWrites next.history) : AdmissionInv next := by
  refine ⟨?_, ?_, late⟩
  · intro userId deviceId member
    obtain ⟨time, revoked⟩ := inv.closed userId deviceId (closed userId deviceId member)
    exact ⟨time, (standing _).trans revoked⟩
  · intro id request found writes
    rw [standing]
    rcases admitted id request found with before | free
    · exact inv.pending id request before writes
    · exact free

/-- A granted request is no write and revokes nothing. -/
theorem NoLateWrites.granted {history : List Outcome} (before : NoLateWrites history)
    (userId deviceId : String) : NoLateWrites (history ++ [.granted userId deviceId]) := by
  apply pairwise_snoc before
  intro early _
  cases early <;> rfl

theorem AdmissionInv.registered {backend next : Backend φ} (inv : AdmissionInv backend)
    {userId deviceId : String}
    (free : ∀ time, backend.auth.standing (userId, deviceId) ≠ some (some time))
    (standing : ∀ key, next.auth.standing key =
      if key = (userId, deviceId) then some none else backend.auth.standing key)
    (fewer : backend.Fewer next)
    (history : next.history = backend.history ++ [.granted userId deviceId]) :
    AdmissionInv next := by
  refine ⟨?_, ?_, ?_⟩
  · intro owner device member
    rw [history] at member
    obtain ⟨time, revoked⟩ := inv.closed owner device (revoked_of_snoc member nofun)
    refine ⟨time, ?_⟩
    rw [standing, if_neg]
    · exact revoked
    · intro here
      rw [here] at revoked
      exact free time revoked
  · intro id request found writes
    have before := inv.pending id request (fewer id request found) writes
    rw [standing]
    split
    · rfl
    · exact before
  · rw [history]
    exact inv.written.granted userId deviceId

theorem AdmissionInv.revoked {backend next : Backend φ} (inv : AdmissionInv backend)
    {userId deviceId : String}
    (idle : ∀ entry ∈ backend.admitted.rows, entry.2.endpoint.writes = true →
      (entry.2.principal.userId, entry.2.principal.deviceId) ≠ (userId, deviceId))
    (closed : ∃ time, next.auth.standing (userId, deviceId) = some (some time))
    (others : ∀ key, key ≠ (userId, deviceId) →
      next.auth.standing key = backend.auth.standing key)
    (fewer : backend.Fewer next)
    (history : next.history = backend.history ++ [.revoked userId deviceId]) :
    AdmissionInv next := by
  refine ⟨?_, ?_, ?_⟩
  · intro owner device member
    by_cases here : (owner, device) = (userId, deviceId)
    · rw [here]
      exact closed
    · rw [history] at member
      have differs : Outcome.revoked owner device ≠ .revoked userId deviceId := by
        intro same
        cases same
        exact here rfl
      obtain ⟨time, revoked⟩ := inv.closed owner device (revoked_of_snoc member differs)
      exact ⟨time, (others _ here).trans revoked⟩
  · intro id request found writes
    have before := fewer id request found
    have apart := idle (id, request) ((Table.mem_rows_iff _ _ _).mpr before) writes
    rw [others _ apart]
    exact inv.pending id request before writes
  · rw [history]
    apply pairwise_snoc inv.written
    intro early _
    cases early <;> rfl

/-- The device of a committed write is not among the revoked ones. -/
theorem AdmissionInv.committed {backend : Backend φ} (inv : AdmissionInv backend) {id : Nat}
    {request : Admitted} (found : backend.admitted.get id = some request)
    (writes : request.endpoint.writes = true) :
    NoLateWrites (backend.history ++
      [.committed request.principal.userId request.principal.deviceId]) := by
  apply pairwise_snoc inv.written
  intro early member
  cases early with
  | granted userId deviceId => rfl
  | committed userId deviceId => rfl
  | revoked userId deviceId =>
      by_contra late
      simp only [Outcome.outlives, Bool.not_eq_false, Bool.and_eq_true, decide_eq_true_eq] at late
      obtain ⟨rfl, rfl⟩ := late
      obtain ⟨time, revoked⟩ := inv.closed _ _ member
      rw [inv.pending id request found writes] at revoked
      cases revoked

variable [UuidParser] [TokenHash] [ContentTables] [DecidableEq φ] [EventFingerprint φ]

theorem AdmissionInv.step {config : BackendConfig} {backend next : Backend φ}
    {action : RequestStep} (inv : AdmissionInv backend) (idle : NoPendingWrites backend action)
    (taken : backend.step config action = some next) : AdmissionInv next := by
  cases Backend.step_turn taken with
  | quiet standing fewer history =>
      refine inv.congr standing (fun id request found => Or.inl (fewer id request found)) ?_ ?_
      · intro userId deviceId member
        rwa [history] at member
      · rw [history]
        exact inv.written
  | granted principal free standing admitted history =>
      refine inv.congr standing ?_ ?_ ?_
      · intro id request found
        rcases admitted id request found with before | own
        · exact Or.inl before
        · rw [own]
          exact Or.inr free
      · intro userId deviceId member
        rw [history] at member
        exact revoked_of_snoc member nofun
      · rw [history]
        exact inv.written.granted _ _
  | committed id request found writes standing fewer history =>
      refine inv.congr standing (fun id request found => Or.inl (fewer id request found)) ?_ ?_
      · intro userId deviceId member
        rw [history] at member
        exact revoked_of_snoc member nofun
      · rw [history]
        exact inv.committed found writes
  | registered user request sessionId now seed asked valid free standing fewer history =>
      exact inv.registered free standing fewer history
  | revoked id now principal deviceId asked found valid closed others fewer history =>
      subst asked
      unfold NoPendingWrites at idle
      simp only [found] at idle
      exact inv.revoked idle closed others fewer history

/-- In every interleaving of requests in which no admitted write of a device is
pending when the device is revoked, nothing of a revoked device is committed. -/
theorem revoked_device_writes_nothing (config : BackendConfig) {first last : Backend φ}
    (starts : first.Starts) {actions : List RequestStep}
    (idle : Meets (Backend.step config) NoPendingWrites first actions)
    (reached : run (Backend.step config) first actions = some last) :
    NoLateWrites last.history :=
  (run_keeps_of_meets
    (fun _ _ _ holds meets taken => AdmissionInv.step holds meets taken)
    actions first last (.starts starts) idle reached).written

end Runs

section Witness

attribute [local instance] plainTokens Sample.anyCase Sample.giftTables

namespace Sample

/-- The word "gift" as a favorite. -/
def gift : PushEvent where
  eventId := "01020304-0506-7008-890a-0b0c0d0e0f01"
  operation := .favoriteUpsert
  contentKey := giftKey.toHex
  keyVersion := 1
  baseEntityRevision := 0
  favorite := some ⟨"word", "en", "zh-CN", "gift", "gift", "礼物", "tokenhub", 900, 900⟩
  queryStats := none

/-- Both devices log in; the desk pushes and the laptop revokes it. -/
def pushAndRevoke (order : List RequestStep) : List RequestStep :=
  [RequestStep.login account (signIn desk) "first" 1000 (tokenSeed 10),
    .login account (signIn laptop) "second" 1001 (tokenSeed 20),
    .requireAccess 1 (accessToken 10) (.push [gift]) 1002,
    .requireAccess 2 (accessToken 20) (.revokeDevice desk) 1002] ++ order

end Sample

/-- What is evaluated of both orders. -/
theorem pushAndRevoke_runs :
    (run (Backend.step Sample.settings) Sample.backend
      (Sample.pushAndRevoke [.handle 2 1003, .handle 1 1004])).any
        (fun last => ¬NoLateWrites last.history) = true ∧
    (run (Backend.step Sample.settings) Sample.backend
      (Sample.pushAndRevoke [.handle 1 1003, .handle 2 1004,
        .requireAccess 3 (Sample.accessToken 10) (.push [Sample.gift]) 1005])).any (fun last =>
          last.history.getLast? = some (.revoked "account" Sample.desk) &&
            (last.admitted.get 3).isNone) = true ∧
    Meets (Backend.step Sample.settings) NoPendingWrites Sample.backend
      (Sample.pushAndRevoke [.handle 1 1003, .handle 2 1004,
        .requireAccess 3 (Sample.accessToken 10) (.push [Sample.gift]) 1005]) := by
  decide +kernel

/-- The push of the desk was admitted before the revocation and is executed after it. -/
theorem revoked_device_is_written : ∃ last : Backend PushEvent,
    Sample.backend.Starts ∧
    run (Backend.step Sample.settings) Sample.backend
      (Sample.pushAndRevoke [.handle 2 1003, .handle 1 1004]) = some last ∧
    ¬NoLateWrites last.history := by
  obtain ⟨last, reached, holds⟩ := (Option.any_eq_true _ _).mp pushAndRevoke_runs.1
  exact ⟨last, Sample.backend_starts, reached, of_decide_eq_true holds⟩

/-- The push of the desk is executed before the revocation, and the next one is refused. -/
theorem revoked_device_writes_nothing_desk : ∃ last : Backend PushEvent,
    run (Backend.step Sample.settings) Sample.backend
      (Sample.pushAndRevoke [.handle 1 1003, .handle 2 1004,
        .requireAccess 3 (Sample.accessToken 10) (.push [Sample.gift]) 1005]) = some last ∧
    last.history.getLast? = some (.revoked "account" Sample.desk) ∧
    last.admitted.get 3 = none ∧ NoLateWrites last.history := by
  obtain ⟨-, facts, idle⟩ := pushAndRevoke_runs
  obtain ⟨last, reached, holds⟩ := (Option.any_eq_true _ _).mp facts
  simp only [Bool.and_eq_true, decide_eq_true_eq, Option.isNone_iff_eq_none] at holds
  exact ⟨last, reached, holds.1, holds.2,
    revoked_device_writes_nothing Sample.settings Sample.backend_starts idle reached⟩

end Witness

end Lvos.Server
