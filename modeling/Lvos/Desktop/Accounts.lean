import Mathlib.Data.List.Sort
import Mathlib.Data.String.Basic
import Lvos.Desktop.Session
import Lvos.Storage.Metadata

set_option autoImplicit false

namespace Lvos.Desktop

open Lvos.Core Lvos.Server Lvos.Storage
open Relational (Table)

/-! The accounts of a Desktop: the Profile files with their durable metadata, the copy that
the application keeps in memory, and the credential store. -/

inductive ApplicationError
  | transport
  | credentialStore
  | noPersistentSession
  | invalidResponse
  | providerSettings (message : String)
  | noActiveProfile
  | storage (error : StorageError)
  | io
  | lookupService
deriving DecidableEq, Repr

/-- The files under the data root and the database that is open. -/
structure WorkerState where
  profiles : Table Uuid ProfileMetadata
  active : Option Uuid
deriving DecidableEq

/-- The file name of `ProfilePaths::new`. -/
def profileFile (profileId : Uuid) : String := "profile-" ++ profileId.text ++ ".sqlite3"

namespace WorkerState

/-- `profile_metadata`, in the order of the sorted paths. -/
def profileMetadata (state : WorkerState) : List ProfileMetadata :=
  (state.profiles.rows.insertionSort
    (fun first second => profileFile first.1 ≤ profileFile second.1)).map Prod.snd

def findProfileForUser (state : WorkerState) (userId : Uuid) : Option ProfileMetadata :=
  (state.profiles.rows.find? (fun row => row.2.userId = some userId)).map Prod.snd

def switchProfile (state : WorkerState) (metadata : ProfileMetadata) :
    Except ApplicationError WorkerState :=
  match openProfile (state.profiles.get metadata.profileId) metadata with
  | .error error => .error (.storage error)
  | .ok row => .ok ⟨state.profiles.put metadata.profileId row, some metadata.profileId⟩

/-- A job of `execute` that writes the metadata row and reads it back. -/
def execute (state : WorkerState) (operation : ProfileMetadata → StorageResult ProfileMetadata) :
    Except ApplicationError (WorkerState × ProfileMetadata) :=
  match state.active with
  | none => .error .noActiveProfile
  | some profileId =>
      match state.profiles.get profileId with
      | none => .error .noActiveProfile
      | some row =>
          match operation row with
          | .error error => .error (.storage error)
          | .ok written => .ok (⟨state.profiles.put profileId written, state.active⟩, written)

def resolveAccountProfile (state : WorkerState) (userId : Uuid) (username serverOrigin : String)
    (now : Int) : Except ApplicationError (WorkerState × ProfileMetadata) :=
  match state.findProfileForUser userId with
  | some existing =>
      match state.switchProfile (withAccount existing userId username serverOrigin now) with
      | .error error => .error error
      | .ok switched =>
          switched.execute (fun row => updateAccountIdentity row userId username serverOrigin now)
  | none =>
      state.execute (fun row =>
        if isUnbound row then bindUser row userId username serverOrigin now
        else .error (.invalidData "bound Profile cannot be rebound to another User"))

end WorkerState

/-- Where a login stops: at a refusal, or at a call of the system that fails. After
`reread` the row is written and only reading it back fails. -/
inductive LoginFault
  | compatibility
  | rejected
  | credentials
  | find
  | database
  | reread
  | preferences
  | lookupService
deriving DecidableEq, Repr

/-- A call of `login` with what it is answered and draws on the way: the tokens of the
server, `now()` and `Uuid::now_v7()`. -/
structure LoginCall where
  serverOrigin : String
  identity : TokenResponse
  now : Int
  drawn : Uuid
  fault : Option LoginFault
deriving DecidableEq

/-- `session` belongs to the running sync. -/
structure Accounts where
  deviceId : Uuid
  platform : String
  worker : WorkerState
  credentials : Table CredentialScope String
  profile : Option ProfileMetadata
  session : Option SessionOwner
deriving DecidableEq

def newUnboundProfile (deviceId : Uuid) (platform : String) (drawn : Uuid) (now : Int) :
    ProfileMetadata where
  profileId := drawn
  userId := none
  username := none
  deviceId := deviceId
  platform := platform
  serverOrigin := none
  lastServerRevision := 0
  createdAt := now
  updatedAt := now

def newAccountProfile (deviceId : Uuid) (platform : String) (userId : Uuid) (call : LoginCall) :
    ProfileMetadata where
  profileId := call.drawn
  userId := some userId
  username := some call.identity.username
  deviceId := deviceId
  platform := platform
  serverOrigin := some call.serverOrigin
  lastServerRevision := 0
  createdAt := call.now
  updatedAt := call.now

namespace Accounts

variable [UuidParser]

/-- A first start: no Profile file and no credential. -/
def initial (deviceId : Uuid) (platform : String) : Accounts :=
  ⟨deviceId, platform, ⟨.empty, none⟩, .empty, none, none⟩

/-- `DesktopApplication::open`, with what a new Profile draws. -/
def openApplication (accounts : Accounts) (drawn : Uuid) (now : Int) :
    Except ApplicationError Accounts :=
  let profile := (accounts.worker.profileMetadata.find?
    (fun profile => profile.deviceId = accounts.deviceId)).getD
      (newUnboundProfile accounts.deviceId accounts.platform drawn now)
  match accounts.worker.switchProfile profile with
  | .error error => .error error
  | .ok worker =>
      .ok { accounts with
        worker := worker
        profile := some profile
        session := none }

/-- `AuthenticatedSession::login`. -/
def authenticate (accounts : Accounts) (call : LoginCall) :
    Except ApplicationError (Accounts × SessionOwner) :=
  if call.fault = some .rejected ∨ !validateTokens call.identity then .error .transport
  else if call.identity.deviceId ≠ accounts.deviceId.text ∨
      call.identity.platform ≠ accounts.platform then .error .invalidResponse
  else if call.fault = some .credentials then .error .credentialStore
  else
    let owner : SessionOwner := ⟨call.serverOrigin, call.identity.userId, call.identity.username,
      call.identity.deviceId, call.identity.platform⟩
    .ok ({ accounts with
      credentials := accounts.credentials.put owner.scope call.identity.refreshToken }, owner)

/-- The three branches of `login` that choose the Profile. -/
def chooseProfile (accounts : Accounts) (profile : ProfileMetadata) (userId : Uuid)
    (call : LoginCall) : Except ApplicationError (WorkerState × ProfileMetadata) :=
  if call.fault = some .find ∨ call.fault = some .database then .error .io
  else
    match accounts.worker.findProfileForUser userId with
    | some existing =>
        let existing := { existing with
          username := some call.identity.username
          serverOrigin := some call.serverOrigin
          updatedAt := call.now }
        (accounts.worker.switchProfile existing).map (fun worker => (worker, existing))
    | none =>
        if profile.userId.isNone then
          accounts.worker.resolveAccountProfile userId call.identity.username call.serverOrigin
            call.now
        else
          let metadata := newAccountProfile accounts.deviceId accounts.platform userId call
          (accounts.worker.switchProfile metadata).map (fun worker => (worker, metadata))

/-- `activate_profile`. -/
def activateProfile (accounts : Accounts) (metadata : ProfileMetadata)
    (fault : Option LoginFault) : Accounts × Except ApplicationError Unit :=
  if fault = some .preferences then (accounts, .error .io)
  else
    ({ accounts with profile := some metadata },
      if fault = some .lookupService then .error .lookupService else .ok ())

/-- `login` of an application whose Profile in memory is `profile`. -/
def login (accounts : Accounts) (profile : ProfileMetadata) (call : LoginCall) :
    Accounts × Except ApplicationError Unit :=
  if call.fault = some .compatibility then (accounts, .error .transport)
  else
    let stopped := { accounts with session := none }
    match stopped.authenticate call with
    | .error error => (stopped, .error error)
    | .ok (stored, owner) =>
        match parseStr call.identity.userId with
        | none =>
            (stored, .error (.providerSettings "Server returned an invalid User identity"))
        | some userId =>
            match stored.chooseProfile profile userId call with
            | .error error => (stored, .error error)
            | .ok (worker, metadata) =>
                let written := { stored with worker := worker }
                if call.fault = some .reread then (written, .error .io)
                else
                  match written.activateProfile metadata call.fault with
                  | (activated, .error error) => (activated, .error error)
                  | (activated, .ok ()) => ({ activated with session := some owner }, .ok ())

/-- The scope `resume_session` reads, and the session it would restore. -/
def resumeOwner (profile : ProfileMetadata) : Except ApplicationError SessionOwner :=
  match profile.userId with
  | none => .error (.providerSettings "Profile is not bound to an account")
  | some userId =>
      match profile.serverOrigin with
      | none => .error (.providerSettings "Profile has no Server origin")
      | some serverOrigin =>
          .ok ⟨serverOrigin, userId.text, profile.username.getD "", profile.deviceId.text,
            profile.platform⟩

/-- `resume_session`; `reply` is what the refresh of the token that was read answers. -/
def resumeSession (accounts : Accounts) (profile : ProfileMetadata)
    (reply : Option TokenResponse) : Accounts × Except ApplicationError Unit :=
  match resumeOwner profile with
  | .error error => (accounts, .error error)
  | .ok owner =>
      match accounts.credentials.get owner.scope with
      | none => (accounts, .error .noPersistentSession)
      | some _ =>
          match reply with
          | none => (accounts, .error .transport)
          | some tokens =>
              if !validateTokens tokens || !matchesIdentity tokens owner then
                (accounts, .error .invalidResponse)
              else
                ({ accounts with
                  credentials := accounts.credentials.put owner.scope tokens.refreshToken
                  session := some owner }, .ok ())

/-- `logout`, where the server has answered and the credential is removed. -/
def logout (accounts : Accounts) : Accounts :=
  match accounts.session with
  | none => accounts
  | some owner =>
      { accounts with
        credentials := accounts.credentials.delete (fun scope _ => decide (scope = owner.scope))
        session := none }

end Accounts

/-- The ids a login or a first start draws name no file yet. -/
inductive AccountStep
  | start (drawn : Uuid) (now : Int)
  | login (call : LoginCall)
  | resume (reply : Option TokenResponse)
  | logout
deriving DecidableEq

namespace Accounts

variable [UuidParser]

def step (accounts : Accounts) : AccountStep → Option Accounts
  | .start drawn now =>
      if (accounts.worker.profiles.get drawn).isSome then none
      else (accounts.openApplication drawn now).toOption
  | .login call =>
      if (accounts.worker.profiles.get call.drawn).isSome then none
      else accounts.profile.map (fun profile => (accounts.login profile call).1)
  | .resume reply => accounts.profile.map (fun profile => (accounts.resumeSession profile reply).1)
  | .logout => some accounts.logout

end Accounts

/-! What the Profile files have in common in every run. -/

namespace WorkerState

/-- Every file is named by its Profile, belongs to the installation and can be opened, and
no account has two. -/
structure Consistent (deviceId : Uuid) (state : WorkerState) : Prop where
  keyed : ∀ profileId row, state.profiles.get profileId = some row → row.profileId = profileId
  installed : ∀ profileId row, state.profiles.get profileId = some row →
    row.deviceId = deviceId ∧ validateProfileMetadata row = .ok ()
  single : ∀ first second one other userId, state.profiles.get first = some one →
    state.profiles.get second = some other → one.userId = some userId →
    other.userId = some userId → first = second

variable {state : WorkerState} {deviceId userId : Uuid}

theorem findProfileForUser_some {row : ProfileMetadata}
    (found : state.findProfileForUser userId = some row) :
    row.userId = some userId ∧ ∃ profileId, state.profiles.get profileId = some row := by
  obtain ⟨pair, located, rfl⟩ := Option.map_eq_some_iff.mp found
  have user := List.find?_some located
  have member := List.mem_of_find?_eq_some located
  exact ⟨of_decide_eq_true user, pair.1, (Table.mem_rows_iff _ _ _).mp member⟩

theorem findProfileForUser_none (missing : state.findProfileForUser userId = none)
    {profileId : Uuid} {row : ProfileMetadata} (here : state.profiles.get profileId = some row) :
    row.userId ≠ some userId := by
  rw [findProfileForUser, Option.map_eq_none_iff, List.find?_eq_none] at missing
  have other := missing (profileId, row) ((Table.mem_rows_iff _ _ _).mpr here)
  simpa using other

/-- Writing a row that is the only one of its account keeps the files consistent. -/
theorem Consistent.put (consistent : Consistent deviceId state) {row : ProfileMetadata}
    {target : Uuid} {active : Option Uuid} (named : row.profileId = target)
    (device : row.deviceId = deviceId) (valid : validateProfileMetadata row = .ok ())
    (alone : ∀ other found userId, other ≠ target → state.profiles.get other = some found →
      row.userId = some userId → found.userId ≠ some userId) :
    Consistent deviceId ⟨state.profiles.put target row, active⟩ where
  keyed := by
    intro profileId found read
    by_cases same : profileId = target
    · rw [same, Table.get_put_self] at read
      cases read
      rw [same, named]
    · rw [Table.get_put_of_ne _ _ same] at read
      exact consistent.keyed profileId found read
  installed := by
    intro profileId found read
    by_cases same : profileId = target
    · rw [same, Table.get_put_self] at read
      cases read
      exact ⟨device, valid⟩
    · rw [Table.get_put_of_ne _ _ same] at read
      exact consistent.installed profileId found read
  single := by
    intro first second one other userId read again user account
    by_cases same : first = target
    · by_cases both : second = target
      · rw [same, both]
      · rw [same, Table.get_put_self] at read
        rw [Table.get_put_of_ne _ _ both] at again
        cases read
        exact absurd account (alone second other userId both again user)
    · rw [Table.get_put_of_ne _ _ same] at read
      by_cases both : second = target
      · rw [both, Table.get_put_self] at again
        cases again
        exact absurd user (alone first one userId same read account)
      · rw [Table.get_put_of_ne _ _ both] at again
        exact consistent.single first second one other userId read again user account

theorem switchProfile_existing {metadata row : ProfileMetadata} {next : WorkerState}
    (here : state.profiles.get metadata.profileId = some row)
    (switched : state.switchProfile metadata = .ok next) :
    next = ⟨state.profiles, some metadata.profileId⟩ := by
  unfold switchProfile at switched
  split at switched
  · cases switched
  · rename_i opened result
    cases switched
    rw [here] at result
    rw [openProfile_existing result, Table.put_same here]

theorem switchProfile_new {metadata : ProfileMetadata} {next : WorkerState}
    (missing : state.profiles.get metadata.profileId = none)
    (switched : state.switchProfile metadata = .ok next) :
    next = ⟨state.profiles.put metadata.profileId metadata, some metadata.profileId⟩ ∧
      validateProfileMetadata metadata = .ok () := by
  unfold switchProfile at switched
  split at switched
  · cases switched
  · rename_i opened result
    cases switched
    rw [missing] at result
    obtain ⟨rfl, valid⟩ := openProfile_new result
    exact ⟨rfl, valid⟩

theorem execute_ok {operation : ProfileMetadata → StorageResult ProfileMetadata}
    {next : WorkerState} {written : ProfileMetadata}
    (executed : state.execute operation = .ok (next, written)) :
    ∃ profileId row, state.active = some profileId ∧ state.profiles.get profileId = some row ∧
      operation row = .ok written ∧
      next = ⟨state.profiles.put profileId written, some profileId⟩ := by
  unfold execute at executed
  split at executed
  · cases executed
  · rename_i profileId active
    split at executed
    · cases executed
    · rename_i row here
      split at executed
      · cases executed
      · rename_i result
        cases executed
        rw [active]
        exact ⟨profileId, row, rfl, here, result, rfl⟩

end WorkerState

end Lvos.Desktop
