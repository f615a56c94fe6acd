import Lvos.Desktop.Accounts
import Lvos.Lib.Transition

set_option autoImplicit false

namespace Lvos.Desktop

open Lvos.Core Lvos.Server Lvos.Storage
open Relational (Table)
open Transition (run run_keeps)

namespace Accounts

section Logins

variable {accounts next : Accounts} {profile : ProfileMetadata} {userId : Uuid}
  {call : LoginCall}

/-- The Profile a login opens: the one of the account, else the active one where none is
bound, else the one it draws. -/
def loginTarget (worker : WorkerState) (profile : ProfileMetadata) (userId : Uuid)
    (call : LoginCall) : Option Uuid :=
  match worker.findProfileForUser userId with
  | some existing => some existing.profileId
  | none => if profile.userId.isNone then worker.active else some call.drawn

/-- The row of the Profile that a login opened, in the database. -/
structure Chosen (deviceId : Uuid) (worker : WorkerState) (userId : Uuid) (call : LoginCall)
    (target : Uuid) (row : ProfileMetadata) : Prop where
  named : row.profileId = target
  device : row.deviceId = deviceId
  valid : validateProfileMetadata row = .ok ()
  user : row.userId = some userId
  account : worker.findProfileForUser userId = some row ∧
      worker.profiles.get target = some row ∨
    worker.findProfileForUser userId = none ∧
      row.username = some call.identity.username ∧ row.serverOrigin = some call.serverOrigin

theorem chooseProfile_ok (consistent : accounts.worker.Consistent accounts.deviceId)
    (fresh : accounts.worker.profiles.get call.drawn = none) {worker : WorkerState}
    {metadata : ProfileMetadata}
    (chosen : accounts.chooseProfile profile userId call = .ok (worker, metadata)) :
    ∃ target row, loginTarget accounts.worker profile userId call = some target ∧
      worker = ⟨accounts.worker.profiles.put target row, some target⟩ ∧
      Chosen accounts.deviceId accounts.worker userId call target row := by
  unfold chooseProfile at chosen
  split at chosen
  · cases chosen
  · cases found : accounts.worker.findProfileForUser userId with
    | some existing =>
        -- The existing Profile: its row stays as it is.
        simp only [found] at chosen
        obtain ⟨user, profileId, here⟩ := WorkerState.findProfileForUser_some found
        have named := consistent.keyed profileId existing here
        obtain ⟨device, valid⟩ := consistent.installed profileId existing here
        rw [← named] at here
        cases switched : accounts.worker.switchProfile { existing with
            username := some call.identity.username
            serverOrigin := some call.serverOrigin
            updatedAt := call.now } with
        | error error =>
            rw [switched] at chosen
            cases chosen
        | ok opened =>
            rw [switched] at chosen
            cases chosen
            refine ⟨existing.profileId, existing, by simp [loginTarget, found], ?_, rfl, device,
              valid, user, .inl ⟨found, here⟩⟩
            rw [Table.put_same here]
            exact @WorkerState.switchProfile_existing accounts.worker { existing with
              username := some call.identity.username
              serverOrigin := some call.serverOrigin
              updatedAt := call.now } existing worker here switched
    | none =>
        simp only [found] at chosen
        split at chosen
        · -- The active Profile, which is bound to the account.
          rename_i unbound
          simp only [WorkerState.resolveAccountProfile, found] at chosen
          obtain ⟨profileId, row, active, here, bound, rfl⟩ := WorkerState.execute_ok chosen
          split at bound
          · have written := bindUser_ok bound
            obtain ⟨device, valid⟩ := consistent.installed profileId row here
            refine ⟨profileId, metadata, by simp [loginTarget, found, unbound, active], rfl, ?_, ?_,
              ?_, ?_, .inr ⟨found, ?_, ?_⟩⟩
            all_goals rw [written]
            · exact consistent.keyed profileId row here
            · exact device
            · exact valid
            all_goals rfl
          · cases bound
        · -- A new Profile of the account.
          rename_i bound
          cases switched : accounts.worker.switchProfile
              (newAccountProfile accounts.deviceId accounts.platform userId call) with
          | error error =>
              rw [switched] at chosen
              cases chosen
          | ok opened =>
              rw [switched] at chosen
              cases chosen
              obtain ⟨same, valid⟩ := WorkerState.switchProfile_new fresh switched
              exact ⟨call.drawn, _, by simp [loginTarget, found, bound], same, rfl, rfl, valid,
                rfl, .inr ⟨found, rfl, rfl⟩⟩

theorem Chosen.consistent {deviceId target : Uuid} {worker : WorkerState}
    {row : ProfileMetadata} (chosen : Chosen deviceId worker userId call target row)
    (consistent : worker.Consistent deviceId) :
    WorkerState.Consistent deviceId ⟨worker.profiles.put target row, some target⟩ := by
  apply consistent.put chosen.named chosen.device chosen.valid
  intro other found account apart here bound user
  rw [chosen.user] at bound
  cases bound
  rcases chosen.account with ⟨-, existing⟩ | ⟨missing, -⟩
  · exact apart (consistent.single other target found row userId here existing user chosen.user)
  · exact WorkerState.findProfileForUser_none missing here user

theorem activateProfile_keeps (accounts : Accounts) (metadata : ProfileMetadata)
    (fault : Option LoginFault) :
    (accounts.activateProfile metadata fault).1.worker = accounts.worker ∧
      (accounts.activateProfile metadata fault).1.deviceId = accounts.deviceId ∧
      (accounts.activateProfile metadata fault).1.credentials = accounts.credentials := by
  unfold activateProfile
  split <;> exact ⟨rfl, rfl, rfl⟩

theorem chosen_of_login {stored : Accounts} {metadata : ProfileMetadata} {worker : WorkerState}
    (consistent : accounts.worker.Consistent accounts.deviceId)
    (fresh : accounts.worker.profiles.get call.drawn = none)
    (same : stored.worker = accounts.worker) (device : stored.deviceId = accounts.deviceId)
    (chosen : stored.chooseProfile profile userId call = .ok (worker, metadata)) :
    ∃ target row, loginTarget accounts.worker profile userId call = some target ∧
      worker = ⟨accounts.worker.profiles.put target row, some target⟩ ∧
      Chosen accounts.deviceId accounts.worker userId call target row := by
  rw [← same, ← device] at consistent ⊢
  rw [← same] at fresh
  exact chooseProfile_ok consistent fresh chosen

/-- Where every file belongs to the installation, a start opens the first of them in the
order of the file names. -/
theorem openApplication_first (consistent : accounts.worker.Consistent accounts.deviceId)
    {target : Uuid} {row : ProfileMetadata}
    (here : accounts.worker.profiles.get target = some row) (drawn : Uuid) (now : Int) :
    ∃ first opened, accounts.worker.profiles.get first = some opened ∧
      (∀ other found, accounts.worker.profiles.get other = some found →
        profileFile first ≤ profileFile other) ∧
      accounts.openApplication drawn now = .ok { accounts with
        worker := ⟨accounts.worker.profiles, some first⟩
        profile := some opened
        session := none } := by
  have sorted := List.pairwise_insertionSort
    (fun first second : Uuid × ProfileMetadata => profileFile first.1 ≤ profileFile second.1)
    accounts.worker.profiles.rows
  have members : ∀ pair, pair ∈ accounts.worker.profiles.rows.insertionSort
      (fun first second : Uuid × ProfileMetadata => profileFile first.1 ≤ profileFile second.1) ↔
      accounts.worker.profiles.get pair.1 = some pair.2 := by
    intro pair
    rw [List.mem_insertionSort]
    exact Table.mem_rows_iff _ _ _
  cases files : accounts.worker.profiles.rows.insertionSort
      (fun first second : Uuid × ProfileMetadata => profileFile first.1 ≤ profileFile second.1) with
  | nil =>
      have present := (members (target, row)).mpr here
      rw [files] at present
      cases present
  | cons head rest =>
      rw [files] at sorted members
      have found := (members head).mp (List.mem_cons_self ..)
      obtain ⟨device, valid⟩ := consistent.installed head.1 head.2 found
      have named := consistent.keyed head.1 head.2 found
      refine ⟨head.1, head.2, found, ?_, ?_⟩
      · intro other row read
        rcases List.mem_cons.mp ((members (other, row)).mpr read) with rfl | later
        · exact le_refl _
        · exact (List.pairwise_cons.mp sorted).1 (other, row) later
      · have switched : accounts.worker.switchProfile head.2 =
            .ok ⟨accounts.worker.profiles, some head.1⟩ := by
          rw [WorkerState.switchProfile, named, found, openProfile_own valid]
          simp only [Table.put_same found]
        simp [openApplication, WorkerState.profileMetadata, files, device, switched]

theorem openApplication_empty {drawn : Uuid} {now : Int}
    (none : accounts.worker.profiles.rows = [])
    (opened : accounts.openApplication drawn now = .ok next) :
    ∃ worker, accounts.worker.switchProfile
        (newUnboundProfile accounts.deviceId accounts.platform drawn now) = .ok worker ∧
      next.worker = worker ∧ next.deviceId = accounts.deviceId := by
  unfold openApplication at opened
  simp only [WorkerState.profileMetadata, none, List.insertionSort] at opened
  split at opened
  · cases opened
  · rename_i worker switched
    cases opened
    exact ⟨worker, switched, rfl, rfl⟩

theorem openApplication_consistent (consistent : accounts.worker.Consistent accounts.deviceId)
    {drawn : Uuid} {now : Int} (fresh : accounts.worker.profiles.get drawn = none)
    (opened : accounts.openApplication drawn now = .ok next) :
    next.worker.Consistent next.deviceId := by
  cases files : accounts.worker.profiles.rows with
  | nil =>
      obtain ⟨worker, switched, rfl, device⟩ := openApplication_empty files opened
      obtain ⟨same, valid⟩ := WorkerState.switchProfile_new fresh switched
      rw [same, device]
      exact consistent.put rfl rfl valid nofun
  | cons head rest =>
      have here : accounts.worker.profiles.get head.1 = some head.2 := by
        apply (Table.mem_rows_iff _ _ _).mp
        rw [files]
        exact List.mem_cons_self ..
      obtain ⟨first, row, -, -, result⟩ := openApplication_first consistent here drawn now
      rw [result] at opened
      cases opened
      exact ⟨consistent.keyed, consistent.installed, consistent.single⟩

/-- The condition: the account has no Profile yet, or one with the name and the origin of
the login; the server gave its id in canonical form; and no other file stands before the
Profile of the login. -/
def keepsAccount (worker : WorkerState) (profile : ProfileMetadata) (userId : Uuid)
    (call : LoginCall) : Bool :=
  (worker.findProfileForUser userId).all (fun row =>
    row.username = some call.identity.username ∧ row.serverOrigin = some call.serverOrigin) &&
  call.identity.userId = userId.text &&
  (loginTarget worker profile userId call).all (fun target =>
    worker.profiles.rows.all (fun row => profileFile target ≤ profileFile row.1))

/-- The database of the login: the one that is active holds its account. -/
def holdsAccount (accounts : Accounts) (userId : Uuid) (call : LoginCall) : Prop :=
  ∃ target row, accounts.worker.active = some target ∧
    accounts.worker.profiles.get target = some row ∧ row.userId = some userId ∧
    row.username = some call.identity.username ∧ row.serverOrigin = some call.serverOrigin

/-- After a restart `resume_session` reads the credential that the login stored. -/
def resumesAccount (accounts : Accounts) (call : LoginCall) : Prop :=
  ∀ drawn now, ∃ reopened profile owner, accounts.openApplication drawn now = .ok reopened ∧
    reopened.profile = some profile ∧ resumeOwner profile = .ok owner ∧
    owner.scope =
      refreshScope call.serverOrigin call.identity.userId call.identity.deviceId ∧
    reopened.credentials.get owner.scope = some call.identity.refreshToken

theorem profileFile_injective : Function.Injective profileFile := by
  intro first second same
  have letters := congrArg String.toList same
  simp only [profileFile, String.toList_append, List.append_cancel_left_eq,
    List.append_cancel_right_eq] at letters
  exact Uuid.text_injective (String.toList_inj.mp letters)

section Target

variable {deviceId target : Uuid} {worker : WorkerState} {row : ProfileMetadata}

/-- The row of the login has its account exactly where an earlier row had. -/
theorem Chosen.holds_iff (chosen : Chosen deviceId worker userId call target row) :
    (row.username = some call.identity.username ∧ row.serverOrigin = some call.serverOrigin) ↔
      (worker.findProfileForUser userId).all (fun found =>
        found.username = some call.identity.username ∧
          found.serverOrigin = some call.serverOrigin) = true := by
  rcases chosen.account with ⟨found, -⟩ | ⟨missing, account⟩
  · simp [found]
  · simp [missing, account]

/-- The login writes one file, so that what holds of all files before it and of its own
holds after it. -/
theorem first_after_iff :
    (∀ other found, (worker.profiles.put target row).get other = some found →
        profileFile target ≤ profileFile other) ↔
      worker.profiles.rows.all (fun row => profileFile target ≤ profileFile row.1) = true := by
  simp only [List.all_eq_true, decide_eq_true_eq]
  constructor
  · intro first pair member
    by_cases same : pair.1 = target
    · rw [same]
    · apply first pair.1 pair.2
      rw [Table.get_put_of_ne _ _ same]
      exact (Table.mem_rows_iff _ _ _).mp member
  · intro first other found read
    by_cases same : other = target
    · rw [same]
    · rw [Table.get_put_of_ne _ _ same] at read
      exact first (other, found) ((Table.mem_rows_iff _ _ _).mpr read)

end Target

theorem resumeOwner_scope {row : ProfileMetadata} {origin : String}
    (user : row.userId = some userId) (server : row.serverOrigin = some origin) :
    ∃ owner, resumeOwner row = .ok owner ∧
      owner.scope = refreshScope origin userId.text row.deviceId.text := by
  refine ⟨⟨origin, userId.text, row.username.getD "", row.deviceId.text, row.platform⟩, ?_, rfl⟩
  simp [resumeOwner, user, server]

theorem resumeOwner_ok {row : ProfileMetadata} {owner : SessionOwner}
    (resumed : resumeOwner row = .ok owner) :
    ∃ userId origin, row.userId = some userId ∧ row.serverOrigin = some origin ∧
      owner.scope = refreshScope origin userId.text row.deviceId.text := by
  unfold resumeOwner at resumed
  split at resumed
  · cases resumed
  · rename_i userId user
    split at resumed
    · cases resumed
    · rename_i origin server
      cases resumed
      exact ⟨userId, origin, user, server, rfl⟩

variable [UuidParser]

theorem authenticate_ok {stored : Accounts} {owner : SessionOwner}
    (authenticated : accounts.authenticate call = .ok (stored, owner)) :
    call.identity.deviceId = accounts.deviceId.text ∧
      owner.scope = refreshScope call.serverOrigin call.identity.userId call.identity.deviceId ∧
      stored = { accounts with
        credentials := accounts.credentials.put owner.scope call.identity.refreshToken } := by
  unfold authenticate at authenticated
  split at authenticated
  · cases authenticated
  · split at authenticated
    · cases authenticated
    · rename_i same
      split at authenticated
      · cases authenticated
      · cases authenticated
        have device := not_or.mp same
        exact ⟨not_not.mp device.1, rfl, rfl⟩

/-- Whatever a login does to the files, it is what the choice of its Profile does. -/
theorem login_worker (accounts : Accounts) (profile : ProfileMetadata) (call : LoginCall) :
    (accounts.login profile call).1.deviceId = accounts.deviceId ∧
    ((accounts.login profile call).1.worker = accounts.worker ∨
      ∃ (stored : Accounts) (userId : Uuid) (metadata : ProfileMetadata),
        stored.worker = accounts.worker ∧ stored.deviceId = accounts.deviceId ∧
        stored.chooseProfile profile userId call =
          .ok ((accounts.login profile call).1.worker, metadata)) := by
  unfold login
  split
  · exact ⟨rfl, .inl rfl⟩
  · dsimp only
    split
    · exact ⟨rfl, .inl rfl⟩
    · rename_i stored owner authenticated
      obtain ⟨-, -, rfl⟩ := authenticate_ok authenticated
      split
      · exact ⟨rfl, .inl rfl⟩
      · rename_i userId parsed
        split
        · exact ⟨rfl, .inl rfl⟩
        · rename_i worker metadata chosen
          have kept := activateProfile_keeps { accounts with
            worker := worker
            credentials := accounts.credentials.put owner.scope call.identity.refreshToken
            session := none } metadata call.fault
          split
          · exact ⟨rfl, .inr ⟨_, userId, metadata, rfl, rfl, chosen⟩⟩
          · split
            · rename_i activated error result
              rw [result] at kept
              exact ⟨kept.2.1, .inr ⟨_, userId, metadata, rfl, rfl, kept.1 ▸ chosen⟩⟩
            · rename_i activated result
              rw [result] at kept
              exact ⟨kept.2.1, .inr ⟨_, userId, metadata, rfl, rfl, kept.1 ▸ chosen⟩⟩

theorem login_ok (logged : accounts.login profile call = (next, .ok ()))
    (parsed : parseStr call.identity.userId = some userId) :
    next.deviceId = accounts.deviceId ∧ call.identity.deviceId = accounts.deviceId.text ∧
      next.credentials.get (refreshScope call.serverOrigin call.identity.userId
        call.identity.deviceId) = some call.identity.refreshToken ∧
      ∃ (stored : Accounts) (metadata : ProfileMetadata), stored.worker = accounts.worker ∧
        stored.deviceId = accounts.deviceId ∧
        stored.chooseProfile profile userId call = .ok (next.worker, metadata) := by
  unfold login at logged
  split at logged
  · cases logged
  · dsimp only at logged
    split at logged
    · cases logged
    · rename_i stored owner authenticated
      obtain ⟨device, scope, rfl⟩ := authenticate_ok authenticated
      rw [parsed] at logged
      dsimp only at logged
      split at logged
      · cases logged
      · rename_i worker metadata chosen
        have kept := activateProfile_keeps { accounts with
          worker := worker
          credentials := accounts.credentials.put owner.scope call.identity.refreshToken
          session := none } metadata call.fault
        split at logged
        · cases logged
        · split at logged
          · cases logged
          · rename_i activated result
            rw [result] at kept
            cases logged
            refine ⟨kept.2.1, device, ?_, _, metadata, rfl, rfl, kept.1 ▸ chosen⟩
            rw [kept.2.2, scope, Table.get_put_self]

theorem step_consistent {action : AccountStep}
    (consistent : accounts.worker.Consistent accounts.deviceId)
    (stepped : accounts.step action = some next) : next.worker.Consistent next.deviceId := by
  cases action with
  | start drawn now =>
      simp only [step, Option.ite_none_left_eq_some, Bool.not_eq_true, Option.isSome_eq_false_iff,
        Option.isNone_iff_eq_none] at stepped
      obtain ⟨fresh, opened⟩ := stepped
      cases result : accounts.openApplication drawn now with
      | error error =>
          rw [result] at opened
          cases opened
      | ok reopened =>
          rw [result] at opened
          cases opened
          exact openApplication_consistent consistent fresh result
  | login call =>
      simp only [step, Option.ite_none_left_eq_some, Bool.not_eq_true, Option.isSome_eq_false_iff,
        Option.isNone_iff_eq_none] at stepped
      obtain ⟨fresh, logged⟩ := stepped
      obtain ⟨profile, -, rfl⟩ := Option.map_eq_some_iff.mp logged
      obtain ⟨device, same | ⟨stored, userId, metadata, unchanged, installed, chosen⟩⟩ :=
        login_worker accounts profile call
      · rw [device, same]
        exact consistent
      · obtain ⟨target, row, -, written, found⟩ :=
          chosen_of_login consistent fresh unchanged installed chosen
        rw [device, written]
        exact found.consistent consistent
  | resume reply =>
      obtain ⟨profile, -, rfl⟩ := Option.map_eq_some_iff.mp stepped
      unfold resumeSession
      repeat' split
      all_goals exact consistent
  | logout =>
      cases stepped
      unfold logout
      split <;> exact consistent

theorem run_consistent {deviceId : Uuid} {platform : String} {steps : List AccountStep}
    {reached : Accounts} (ran : run step (initial deviceId platform) steps = some reached) :
    reached.worker.Consistent reached.deviceId := by
  refine @run_keeps _ _ step (fun world => world.worker.Consistent world.deviceId) ?_ steps _
    reached ⟨?_, ?_, ?_⟩ ran
  · intro world action later consistent stepped
    exact step_consistent consistent stepped
  · intro profileId row read
    cases read
  · intro profileId row read
    cases read
  · intro first second one other userId read
    cases read

/-- In every state of every run: after a successful login the active database holds its
account, and a restart resumes it, exactly where the condition holds before the login. -/
theorem login_account_durable_iff {deviceId : Uuid} {platform : String}
    {steps : List AccountStep} {reached after : Accounts}
    (ran : run step (initial deviceId platform) steps = some reached)
    (fresh : reached.worker.profiles.get call.drawn = none)
    (logged : reached.login profile call = (after, .ok ()))
    (parsed : parseStr call.identity.userId = some userId) :
    (holdsAccount after userId call ∧ resumesAccount after call) ↔
      keepsAccount reached.worker profile userId call = true := by
  have consistent := run_consistent ran
  obtain ⟨device, identified, token, stored, metadata, same, kept, chosen⟩ :=
    login_ok logged parsed
  obtain ⟨target, row, targeted, written, found⟩ :=
    chosen_of_login consistent fresh same kept chosen
  have later : after.worker.Consistent after.deviceId := by
    rw [written, device]
    exact found.consistent consistent
  have here : after.worker.profiles.get target = some row := by
    rw [written, Table.get_put_self]
  have sole : holdsAccount after userId call ↔
      (row.username = some call.identity.username ∧
        row.serverOrigin = some call.serverOrigin) := by
    constructor
    · rintro ⟨active, held, current, read, -, account⟩
      rw [written] at current
      cases current
      rw [here] at read
      cases read
      exact account
    · intro account
      exact ⟨target, row, by rw [written], here, found.user, account⟩
  have first_iff : (∀ other held, after.worker.profiles.get other = some held →
      profileFile target ≤ profileFile other) ↔ reached.worker.profiles.rows.all
        (fun row => profileFile target ≤ profileFile row.1) = true := by
    rw [written]
    exact first_after_iff
  unfold keepsAccount
  rw [sole, targeted, Option.all_some, Bool.and_eq_true, Bool.and_eq_true, ← found.holds_iff,
    ← first_iff, decide_eq_true_eq]
  constructor
  · rintro ⟨account, resumes⟩
    obtain ⟨reopened, resumed, owner, started, current, owned, scope, -⟩ :=
      resumes call.drawn call.now
    obtain ⟨first, read, present, before, result⟩ :=
      openApplication_first later here call.drawn call.now
    rw [result] at started
    cases started
    cases current
    obtain ⟨user, origin, bound, -, owns⟩ := resumeOwner_ok owned
    rw [owns] at scope
    have text : user.text = call.identity.userId := congrArg CredentialScope.userId scope
    have account_same : user = userId := by
      rw [← text, UuidParser.parse_text] at parsed
      exact Option.some.inj parsed
    rw [account_same] at bound text
    have position := later.single first target _ row userId present here bound found.user
    rw [position] at before
    exact ⟨⟨account, text.symm⟩, before⟩
  · rintro ⟨⟨account, canonical⟩, before⟩
    refine ⟨account, ?_⟩
    intro drawn now
    obtain ⟨first, read, present, least, result⟩ := openApplication_first later here drawn now
    have position : first = target :=
      profileFile_injective (le_antisymm (least target row here) (before first read present))
    rw [position, here] at present
    cases present
    obtain ⟨owner, owned, scope⟩ := resumeOwner_scope found.user account.2
    have installed : row.deviceId.text = call.identity.deviceId := by
      rw [found.device, identified]
    rw [installed, ← canonical] at scope
    exact ⟨_, row, owner, result, rfl, owned, scope, by rw [scope]; exact token⟩

end Logins

/-! A login whose account has moved to another server. -/

namespace Sample

def deskId : Uuid := ⟨List.replicate 16 0x11, rfl⟩

def userId : Uuid := ⟨List.replicate 16 0x22, rfl⟩

def firstProfile : Uuid := ⟨List.replicate 16 0x33, rfl⟩

def drawnProfile : Uuid := ⟨List.replicate 16 0x44, rfl⟩

def loginTo (serverOrigin : String) : LoginCall where
  serverOrigin := serverOrigin
  identity := ⟨"access", 900, "refresh", userId.text, "user", deskId.text, "windows"⟩
  now := 100
  drawn := drawnProfile
  fault := none

/-- A first start, and a login to the old server. -/
def firstLogin : List AccountStep := [.start firstProfile 0, .login (loginTo "https://old")]

end Sample

section Runs

open Sample

theorem eq_ok_of_toBool {outcome : Accounts × Except ApplicationError Unit}
    (succeeded : outcome.2.toBool = true) : outcome = (outcome.1, .ok ()) := by
  obtain ⟨next, result⟩ := outcome
  cases result with
  | error error => cases succeeded
  | ok value => rfl

attribute [local instance] hyphenatedParser

/-- After the login to the new server the database still names the old one, and the token
that the login stored is not the one a restart looks for. -/
theorem changed_origin_is_lost :
    ∃ reached profile after, run step (initial deskId "windows") firstLogin = some reached ∧
      reached.profile = some profile ∧
      reached.login profile (loginTo "https://new") = (after, .ok ()) ∧
      ¬ holdsAccount after Sample.userId (loginTo "https://new") ∧
      ¬ resumesAccount after (loginTo "https://new") := by
  have facts : (run step (initial deskId "windows") firstLogin).any (fun reached =>
      reached.profile.any (fun profile =>
        let login := reached.login profile (loginTo "https://new")
        decide (login.2.toBool = true ∧ login.1.worker.active = some firstProfile ∧
          (login.1.worker.profiles.get firstProfile).map ProfileMetadata.serverOrigin =
            some (some "https://old") ∧
          ((login.1.openApplication drawnProfile 200).toOption.bind Accounts.profile).map
            ProfileMetadata.serverOrigin = some (some "https://old")))) = true := by
    decide +kernel
  obtain ⟨reached, ran, rest⟩ := (Option.any_eq_true _ _).mp facts
  obtain ⟨profile, opened, holds⟩ := (Option.any_eq_true _ _).mp rest
  obtain ⟨succeeded, active, stored, restarted⟩ := of_decide_eq_true holds
  refine ⟨reached, profile, (reached.login profile (loginTo "https://new")).1, ran, opened, ?_,
    ?_, ?_⟩
  · exact eq_ok_of_toBool succeeded
  · rintro ⟨target, row, current, here, -, -, origin⟩
    rw [active] at current
    cases current
    rw [here, Option.map_some, origin] at stored
    exact absurd stored (by decide)
  · intro resumes
    obtain ⟨reopened, found, owner, started, current, owned, scope, -⟩ :=
      resumes drawnProfile 200
    obtain ⟨user, origin, -, server, owns⟩ := resumeOwner_ok owned
    rw [started] at restarted
    simp only [Except.toOption, Option.bind_some, current, Option.map_some, server] at restarted
    cases restarted
    rw [owns] at scope
    have same : "https://old" = "https://new" := congrArg CredentialScope.serverOrigin scope
    exact absurd same (by decide)

/-- The second login to the same server keeps its account. -/
theorem login_account_durable_again :
    ∃ reached profile after, run step (initial deskId "windows") firstLogin = some reached ∧
      reached.login profile (loginTo "https://old") = (after, .ok ()) ∧
      holdsAccount after Sample.userId (loginTo "https://old") ∧
      resumesAccount after (loginTo "https://old") := by
  have facts : (run step (initial deskId "windows") firstLogin).any (fun reached =>
      reached.profile.any (fun profile =>
        decide ((reached.login profile (loginTo "https://old")).2.toBool = true ∧
          reached.worker.profiles.get drawnProfile = none ∧
          keepsAccount reached.worker profile Sample.userId (loginTo "https://old") = true)))
      = true := by
    decide +kernel
  obtain ⟨reached, ran, rest⟩ := (Option.any_eq_true _ _).mp facts
  obtain ⟨profile, -, holds⟩ := (Option.any_eq_true _ _).mp rest
  obtain ⟨succeeded, fresh, kept⟩ := of_decide_eq_true holds
  have logged := eq_ok_of_toBool succeeded
  have parsed : parseStr (loginTo "https://old").identity.userId = some Sample.userId :=
    UuidParser.parse_text Sample.userId
  exact ⟨reached, profile, _, ran, logged,
    (login_account_durable_iff ran fresh logged parsed).mpr kept⟩

end Runs

end Accounts

end Lvos.Desktop
