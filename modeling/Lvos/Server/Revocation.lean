import Lvos.Server.Requests

set_option autoImplicit false

namespace Lvos.Server

open Lvos.Core Lvos.Sync
open Relational (Table)
open Transition (run Meets run_keeps_of_meets)

section Spelling

variable [UuidParser]

/-- Two texts that `validate_device_id` accepts and reads as one UUID. -/
def sameDevice (first second : String) : Bool :=
  parseStr first ≠ none && parseStr first = parseStr second

/-- The later outcome lets in the device that the earlier one has revoked. -/
def Outcome.readmits : Outcome → Outcome → Bool
  | .revoked userId deviceId, .granted owner spelling =>
      userId = owner && sameDevice deviceId spelling
  | _, _ => false

/-- No revoked device is let in later. -/
def RevokedForGood (history : List Outcome) : Prop :=
  history.Pairwise (fun early late => early.readmits late = false)

instance RevokedForGood.decidable (history : List Outcome) : Decidable (RevokedForGood history) :=
  inferInstanceAs (Decidable (history.Pairwise _))

/-- A login writes the device as an earlier revocation has, and a revocation as
every registered row of the device has. -/
def OneSpelling {φ : Type} (backend : Backend φ) : RequestStep → Prop
  | .login user request _ _ _ =>
      ∀ entry ∈ backend.auth.devices.rows, entry.1.1 = user.userId →
        entry.2.revokedAt ≠ none → sameDevice entry.1.2 request.deviceId = true →
        entry.1.2 = request.deviceId
  | .handle id _ =>
      match backend.admitted.get id with
      | some ⟨principal, .revokeDevice deviceId⟩ =>
          ∀ entry ∈ backend.auth.devices.rows, entry.1.1 = principal.userId →
            entry.2.revokedAt = none → sameDevice deviceId entry.1.2 = true →
            entry.1.2 = deviceId
      | _ => True
  | _ => True

instance OneSpelling.decidable {φ : Type} (backend : Backend φ) (action : RequestStep) :
    Decidable (OneSpelling backend action) := by
  unfold OneSpelling
  split
  · infer_instance
  · split <;> infer_instance
  · infer_instance

end Spelling

theorem pairwise_snoc {related : Outcome → Outcome → Prop} {history : List Outcome}
    {late : Outcome} (before : history.Pairwise related)
    (fits : ∀ early ∈ history, related early late) : (history ++ [late]).Pairwise related := by
  rw [List.pairwise_append]
  refine ⟨before, List.pairwise_singleton _ _, ?_⟩
  intro early member other last
  rw [List.mem_singleton.mp last]
  exact fits early member

theorem revoked_of_snoc {history : List Outcome} {late : Outcome} {userId deviceId : String}
    (member : Outcome.revoked userId deviceId ∈ history ++ [late])
    (differs : Outcome.revoked userId deviceId ≠ late) :
    Outcome.revoked userId deviceId ∈ history := by
  rw [List.mem_append, List.mem_singleton] at member
  exact member.resolve_right differs

theorem mem_of_standing {db : AuthDb} {userId deviceId : String} {revokedAt : Option Int}
    (stands : db.standing (userId, deviceId) = some revokedAt) :
    ∃ row, ((userId, deviceId), row) ∈ db.devices.rows ∧ row.revokedAt = revokedAt := by
  unfold AuthDb.standing at stands
  obtain ⟨row, found, shown⟩ := Option.map_eq_some_iff.mp stands
  exact ⟨row, (Table.mem_rows_iff _ _ _).mpr found, shown⟩

section Runs

variable {φ : Type} [UuidParser]

/-- A device whose revocation is in the history is revoked in its row, and so is
every row of the same UUID. -/
structure RevokedInv (backend : Backend φ) : Prop where
  closed : ∀ userId deviceId, Outcome.revoked userId deviceId ∈ backend.history →
    ∃ time, backend.auth.standing (userId, deviceId) = some (some time)
  spelled : ∀ userId deviceId other time,
    backend.auth.standing (userId, deviceId) = some (some time) →
    sameDevice deviceId other = true → backend.auth.standing (userId, other) ≠ some none
  permanent : RevokedForGood backend.history

theorem RevokedInv.starts {backend : Backend φ} (starts : backend.Starts) :
    RevokedInv backend := by
  constructor
  · intro userId deviceId member
    rw [starts.history] at member
    cases member
  · intro userId deviceId other time revoked
    unfold AuthDb.standing at revoked
    rw [starts.devices, Table.get_empty] at revoked
    cases revoked
  · unfold RevokedForGood
    rw [starts.history]
    exact List.Pairwise.nil

/-- A device that is let in is not revoked, in this spelling or another. -/
theorem RevokedInv.admits {backend : Backend φ} (inv : RevokedInv backend)
    {userId deviceId : String}
    (free : backend.auth.standing (userId, deviceId) = some none) :
    ∀ early ∈ backend.history, early.readmits (.granted userId deviceId) = false := by
  intro early member
  by_contra defied
  cases early with
  | granted owner spelling => exact defied rfl
  | committed owner spelling => exact defied rfl
  | revoked owner spelling =>
      simp only [Outcome.readmits, Bool.not_eq_false, Bool.and_eq_true, decide_eq_true_eq]
        at defied
      obtain ⟨rfl, same⟩ := defied
      obtain ⟨time, revoked⟩ := inv.closed owner spelling member
      exact inv.spelled owner spelling deviceId time revoked same free

theorem RevokedInv.congr {backend next : Backend φ} (inv : RevokedInv backend)
    (standing : ∀ key, next.auth.standing key = backend.auth.standing key)
    (closed : ∀ userId deviceId, Outcome.revoked userId deviceId ∈ next.history →
      Outcome.revoked userId deviceId ∈ backend.history)
    (permanent : RevokedForGood next.history) : RevokedInv next := by
  refine ⟨?_, ?_, permanent⟩
  · intro userId deviceId member
    obtain ⟨time, revoked⟩ := inv.closed userId deviceId (closed userId deviceId member)
    exact ⟨time, (standing _).trans revoked⟩
  · intro userId deviceId other time revoked same
    rw [standing] at revoked ⊢
    exact inv.spelled userId deviceId other time revoked same

theorem RevokedInv.registered {backend next : Backend φ} (inv : RevokedInv backend)
    {userId deviceId : String}
    (spelled : ∀ entry ∈ backend.auth.devices.rows, entry.1.1 = userId →
      entry.2.revokedAt ≠ none → sameDevice entry.1.2 deviceId = true → entry.1.2 = deviceId)
    (free : ∀ time, backend.auth.standing (userId, deviceId) ≠ some (some time))
    (standing : ∀ key, next.auth.standing key =
      if key = (userId, deviceId) then some none else backend.auth.standing key)
    (history : next.history = backend.history ++ [.granted userId deviceId]) :
    RevokedInv next := by
  -- No row of the UUID is revoked: it would have the spelling of the login.
  have unrevoked : ∀ other time, sameDevice other deviceId = true →
      backend.auth.standing (userId, other) ≠ some (some time) := by
    intro other time same revoked
    obtain ⟨row, member, shown⟩ := mem_of_standing revoked
    have named := spelled _ member rfl (by rw [shown]; simp) same
    dsimp only at named
    subst named
    exact free time revoked
  refine ⟨?_, ?_, ?_⟩
  · intro owner spelling member
    rw [history] at member
    obtain ⟨time, revoked⟩ := inv.closed owner spelling (revoked_of_snoc member nofun)
    refine ⟨time, ?_⟩
    rw [standing, if_neg]
    · exact revoked
    · intro here
      cases here
      exact free time revoked
  · intro owner spelling other time revoked same shown
    rw [standing] at revoked
    split at revoked
    · cases revoked
    · rw [standing] at shown
      split at shown
      · rename_i here
        cases here
        exact unrevoked spelling time same revoked
      · exact inv.spelled owner spelling other time revoked same shown
  · rw [history]
    apply pairwise_snoc inv.permanent
    intro early member
    by_contra defied
    cases early with
    | granted owner spelling => exact defied rfl
    | committed owner spelling => exact defied rfl
    | revoked owner spelling =>
        simp only [Outcome.readmits, Bool.not_eq_false, Bool.and_eq_true, decide_eq_true_eq]
          at defied
        obtain ⟨rfl, same⟩ := defied
        obtain ⟨time, revoked⟩ := inv.closed owner spelling member
        exact unrevoked spelling time same revoked

theorem RevokedInv.revoked {backend next : Backend φ} (inv : RevokedInv backend)
    {userId deviceId : String}
    (spelled : ∀ entry ∈ backend.auth.devices.rows, entry.1.1 = userId →
      entry.2.revokedAt = none → sameDevice deviceId entry.1.2 = true → entry.1.2 = deviceId)
    (closed : ∃ time, next.auth.standing (userId, deviceId) = some (some time))
    (others : ∀ key, key ≠ (userId, deviceId) →
      next.auth.standing key = backend.auth.standing key)
    (history : next.history = backend.history ++ [.revoked userId deviceId]) :
    RevokedInv next := by
  obtain ⟨now, closed⟩ := closed
  refine ⟨?_, ?_, ?_⟩
  · intro owner spelling member
    by_cases here : (owner, spelling) = (userId, deviceId)
    · cases here
      exact ⟨now, closed⟩
    · rw [history, List.mem_append, List.mem_singleton] at member
      rcases member with earlier | last
      · obtain ⟨time, revoked⟩ := inv.closed owner spelling earlier
        exact ⟨time, (others _ here).trans revoked⟩
      · cases last
        exact absurd rfl here
  · intro owner spelling other time revoked same shown
    by_cases open' : (owner, other) = (userId, deviceId)
    · cases open'
      rw [closed] at shown
      cases shown
    · rw [others _ open'] at shown
      by_cases here : (owner, spelling) = (userId, deviceId)
      · cases here
        obtain ⟨row, member, free⟩ := mem_of_standing shown
        have named : other = deviceId := spelled _ member rfl free same
        exact open' (by rw [named])
      · rw [others _ here] at revoked
        exact inv.spelled owner spelling other time revoked same shown
  · rw [history]
    apply pairwise_snoc inv.permanent
    intro early _
    cases early <;> rfl

variable [TokenHash] [ContentTables] [DecidableEq φ] [EventFingerprint φ]

theorem RevokedInv.step {config : BackendConfig} {backend next : Backend φ}
    {action : RequestStep} (inv : RevokedInv backend) (spelled : OneSpelling backend action)
    (taken : backend.step config action = some next) : RevokedInv next := by
  cases Backend.step_turn taken with
  | quiet standing fewer history =>
      exact inv.congr standing (fun userId deviceId member => history ▸ member)
        (history ▸ inv.permanent)
  | granted principal free standing admitted history =>
      refine inv.congr standing ?_ ?_
      · intro userId deviceId member
        rw [history] at member
        exact revoked_of_snoc member nofun
      · rw [history]
        exact pairwise_snoc inv.permanent (inv.admits free)
  | committed id request found writes standing fewer history =>
      refine inv.congr standing ?_ ?_
      · intro userId deviceId member
        rw [history] at member
        exact revoked_of_snoc member nofun
      · rw [history]
        apply pairwise_snoc inv.permanent
        intro early _
        cases early <;> rfl
  | registered user request sessionId now seed asked valid free standing fewer history =>
      subst asked
      exact inv.registered spelled free standing history
  | revoked id now principal deviceId asked found valid closed others fewer history =>
      subst asked
      unfold OneSpelling at spelled
      simp only [found] at spelled
      exact inv.revoked spelled closed others history

/-- The handler of a revocation leaves the sessions of other devices and of other
users as they were. -/
theorem revokeDevice_handle_others {config : BackendConfig} {backend next : Backend φ}
    {id now : Nat} {principal : SessionIdentity} {deviceId : String}
    (found : backend.admitted.get id = some ⟨principal, .revokeDevice deviceId⟩)
    (taken : backend.step config (.handle id now) = some next) {sessionId : String}
    {view : SessionView} (seen : backend.auth.view sessionId = some view)
    (other : ¬(view.identity.userId = principal.userId ∧
      sameDevice deviceId view.identity.deviceId = true)) :
    next.auth.view sessionId = some view := by
  simp only [Backend.step, found, Option.some.injEq] at taken
  have auth : next.auth = (Http.revokeDevice backend.auth principal deviceId now).1 := by
    rw [← taken]
    simp only [Backend.handle, Backend.forget]
    cases Http.revokeDevice backend.auth principal deviceId now with
    | mk after result => cases result <;> rfl
  rw [auth]
  unfold Http.revokeDevice
  cases checked : validateDeviceId deviceId with
  | error error => exact seen
  | ok _ =>
      obtain ⟨uuid, parsed⟩ := validateDeviceId_ok checked
      have apart : (view.identity.userId, view.identity.deviceId) ≠
          (principal.userId, deviceId) := by
        intro same
        obtain ⟨owner, device⟩ := Prod.mk.inj same
        exact other ⟨owner, by simp [sameDevice, device, parsed]⟩
      have kept := revokeDevice_others seen apart now
      revert kept
      dsimp only
      generalize Server.revokeDevice backend.auth principal.userId deviceId now = outcome
      intro kept
      obtain ⟨after, result⟩ := outcome
      cases result <;> exact kept

/-- In every run of logins, refreshes, logouts, revocations and other requests in
which a device that is or will be revoked is written in one spelling, a revoked
device is never let in again, and a revocation touches no session of another
device or user. -/
theorem revocation_is_permanent (config : BackendConfig) {first last : Backend φ}
    (starts : first.Starts) {actions : List RequestStep}
    (spelled : Meets (Backend.step config) OneSpelling first actions)
    (reached : run (Backend.step config) first actions = some last) :
    RevokedForGood last.history ∧
      ∀ id now principal deviceId next,
        last.admitted.get id = some ⟨principal, .revokeDevice deviceId⟩ →
        last.step config (.handle id now) = some next →
        ∀ sessionId view, last.auth.view sessionId = some view →
          ¬(view.identity.userId = principal.userId ∧
            sameDevice deviceId view.identity.deviceId = true) →
          next.auth.view sessionId = some view := by
  have inv := run_keeps_of_meets
    (fun _ _ _ holds meets taken => RevokedInv.step holds meets taken)
    actions first last (.starts starts) spelled reached
  refine ⟨inv.permanent, ?_⟩
  intro id now principal deviceId next found taken sessionId view seen other
  exact revokeDevice_handle_others found taken seen other

end Runs

namespace Sample

/-! One account and two of its devices, for evaluating concrete runs. -/

export Lvos.Core.Sample (giftKey otherKey randomId)

def tokenSeed (number : UInt8) : TokenSeed :=
  ⟨(randomId number, randomId (number + 1)), (randomId (number + 2), randomId (number + 3))⟩

/-- `parse_str` on the hyphenated form, whose digits may be of either case. -/
@[reducible] def anyCase : UuidParser where
  parseStr text :=
    (Uuid.ofText text).or (Uuid.ofText (String.ofList (text.toList.map Char.toLower)))
  parse_text id := by rw [Uuid.ofText_text, Option.some_or]

/-- The tables with the digest on the one input the runs hash. -/
@[reducible] def giftTables : ContentTables :=
  asciiTables (fun bytes =>
    if bytes = Hex.utf8 "1\x00word\x00en\x00gift".toList then giftKey
    else otherKey)

def account : UserCredential := ⟨"account", "reader", "$argon2id$", false⟩

def settings : BackendConfig := ⟨.hourly, 500⟩

def backend : Backend PushEvent where
  auth :=
    { users := Table.empty.put "account" ⟨"reader", "$argon2id$", 0, none⟩
      devices := .empty
      sessions := ⟨.empty, List.nodup_nil, List.nodup_nil⟩ }
  sync := ServerDb.initial ["account"] []
  admitted := .empty
  history := []

theorem backend_starts : backend.Starts := ⟨rfl, rfl, rfl, rfl⟩

def desk : String := (randomId 1).text

def laptop : String := (randomId 2).text

def signIn (deviceId : String) : LoginRequest :=
  ⟨"reader", "a password", deviceId, "macos", none⟩

/-- The access token of the pair made from a seed. -/
def accessToken (number : UInt8) : String := randomToken "lvos_at" (tokenSeed number).access

/-- Both devices log in, and the laptop revokes the desk. -/
def deskRevoked : List RequestStep :=
  [.login account (signIn desk) "first" 1000 (tokenSeed 10),
    .login account (signIn laptop) "second" 1001 (tokenSeed 20),
    .requireAccess 0 (accessToken 20) (.revokeDevice desk) 1002, .handle 0 1002]

end Sample

section Witness

attribute [local instance] plainTokens Sample.anyCase Sample.giftTables

/-- What is evaluated of both attempts. -/
theorem deskRevoked_runs :
    (run (Backend.step Sample.settings) Sample.backend
      (Sample.deskRevoked ++
        [RequestStep.login Sample.account (Sample.signIn Sample.desk.toUpper) "third" 1003
          (Sample.tokenSeed 30)])).any (fun last => ¬RevokedForGood last.history) = true ∧
    (run (Backend.step Sample.settings) Sample.backend
      (Sample.deskRevoked ++
        [RequestStep.login Sample.account (Sample.signIn Sample.desk) "third" 1003
          (Sample.tokenSeed 30)])).isSome = true ∧
    Meets (Backend.step Sample.settings) OneSpelling Sample.backend
      (Sample.deskRevoked ++
        [RequestStep.login Sample.account (Sample.signIn Sample.desk) "third" 1003
          (Sample.tokenSeed 30)]) := by
  decide +kernel

/-- The desk logs in again with its UUID in capital letters. -/
theorem revoked_device_logs_in_again : ∃ last : Backend PushEvent,
    Sample.backend.Starts ∧
    run (Backend.step Sample.settings) Sample.backend
      (Sample.deskRevoked ++
        [.login Sample.account (Sample.signIn Sample.desk.toUpper) "third" 1003
          (Sample.tokenSeed 30)]) = some last ∧
    ¬RevokedForGood last.history := by
  obtain ⟨last, reached, holds⟩ := (Option.any_eq_true _ _).mp deskRevoked_runs.1
  exact ⟨last, Sample.backend_starts, reached, of_decide_eq_true holds⟩

/-- The same attempt in the spelling of the revocation is refused. -/
theorem revocation_is_permanent_desk : ∃ last : Backend PushEvent,
    run (Backend.step Sample.settings) Sample.backend
      (Sample.deskRevoked ++
        [.login Sample.account (Sample.signIn Sample.desk) "third" 1003
          (Sample.tokenSeed 30)]) = some last ∧
    RevokedForGood last.history := by
  obtain ⟨-, facts, spelled⟩ := deskRevoked_runs
  obtain ⟨last, reached⟩ := Option.isSome_iff_exists.mp facts
  exact ⟨last, reached,
    (revocation_is_permanent Sample.settings Sample.backend_starts spelled reached).1⟩

end Witness

end Lvos.Server
