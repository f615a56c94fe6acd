import Lvos.Lib.Transition
import Lvos.Server.Login
import Lvos.Server.SessionViews

set_option autoImplicit false

namespace Lvos.Server

open Lvos.Core Lvos.Sync
open Relational (Table)

/-- The routes behind `require_access`; `read` stands for those that write no table. -/
inductive Endpoint
  | logout
  | revokeDevice (deviceId : String)
  | push (events : List PushEvent)
  | setFavoriteState (contentKey : String) (active : Bool) (baseEntityRevision : Nat)
  | read
deriving DecidableEq

/-- The routes that write the sync tables. -/
def Endpoint.writes : Endpoint → Bool
  | .push _ | .setFavoriteState _ _ _ => true
  | _ => false

/-- A request that `require_access` has let through and whose handler has not run. -/
structure Admitted where
  principal : SessionIdentity
  endpoint : Endpoint
deriving DecidableEq

/-- What the requests have achieved, in the order of the database. -/
inductive Outcome
  | granted (userId deviceId : String)
  | revoked (userId deviceId : String)
  | committed (userId deviceId : String)
deriving DecidableEq, Repr

structure Backend (φ : Type) where
  auth : AuthDb
  sync : ServerDb φ
  admitted : Table Nat Admitted
  history : List Outcome

/-- The configuration the endpoints read. -/
structure BackendConfig where
  sessions : SessionConfig
  maxSyncEventsPerBatch : Nat

/-- The database steps of the requests; any number of requests may be between
two of their steps. -/
inductive RequestStep
  -- `user` is the account that was read and verified before.
  | login (user : UserCredential) (request : LoginRequest) (sessionId : String) (now : Nat)
      (seed : TokenSeed)
  | refresh (refreshToken : String) (now : Nat) (seed : TokenSeed)
  | requireAccess (id : Nat) (token : String) (endpoint : Endpoint) (now : Nat)
  | handle (id : Nat) (now : Nat)
  | cancel (id : Nat)

variable {φ : Type}

/-- A table of favorites, statistics, changes or revisions is not what it was. -/
def ServerDb.changed (before after : ServerDb φ) : Bool :=
  after.favorites ≠ before.favorites || after.deviceQueryStats ≠ before.deviceQueryStats ||
    after.changeLog ≠ before.changeLog || after.users ≠ before.users

/-- A device row that a login has written is a row the statistics may refer to. -/
def ServerDb.withDevice (db : ServerDb φ) (userId deviceId : String) : ServerDb φ :=
  { db with devices := db.devices.insert (userId, deviceId) }

def Http.setFavoriteState (db : ServerDb φ) (userId contentKey : String) (active : Bool)
    (baseEntityRevision : Nat) (now : Int) : ServerDb φ × ApiResult FavoriteRecord :=
  match validateContentKey contentKey with
  | .error message => (db, .error (.invalid message))
  | .ok _ =>
      match Server.setFavoriteState db userId contentKey active baseEntityRevision now with
      | (db, .error reason) => (db, .error (Server.fromRepository reason))
      | (db, .ok result) => (db, .ok result.value)

namespace Backend

/-- What a handler that may write the sync tables leaves. -/
def commit (backend : Backend φ) (principal : SessionIdentity) (sync : ServerDb φ) : Backend φ :=
  { backend with
    sync := sync
    history :=
      if backend.sync.changed sync then
        backend.history ++ [.committed principal.userId principal.deviceId]
      else backend.history }

section Steps

variable [TokenHash] [UuidParser] [ContentTables] [DecidableEq φ] [EventFingerprint φ]

def handle (config : BackendConfig) (backend : Backend φ) (principal : SessionIdentity)
    (now : Nat) : Endpoint → Backend φ
  | .logout => { backend with auth := (Http.logout backend.auth principal now).1 }
  | .revokeDevice deviceId =>
      match Http.revokeDevice backend.auth principal deviceId now with
      | (auth, .error _) => { backend with auth := auth }
      | (auth, .ok _) =>
          { backend with
            auth := auth
            history := backend.history ++ [.revoked principal.userId deviceId] }
  | .push events =>
      backend.commit principal
        (push config.maxSyncEventsPerBatch backend.sync principal.userId principal.deviceId events
          now).1
  | .setFavoriteState contentKey active baseEntityRevision =>
      backend.commit principal
        (Http.setFavoriteState backend.sync principal.userId contentKey active baseEntityRevision
          now).1
  | .read => backend

def login (config : BackendConfig) (backend : Backend φ) (user : UserCredential)
    (request : LoginRequest) (sessionId : String) (now : Nat) (seed : TokenSeed) : Backend φ :=
  match validateLoginRequest request with
  | .error _ => backend
  | .ok _ =>
      match Http.login backend.auth config.sessions user.userId user.username request.deviceId
          request.platform request.deviceName sessionId now seed with
      | (auth, .error _) => { backend with auth := auth }
      | (auth, .ok response) =>
          { backend with
            auth := auth
            sync := backend.sync.withDevice response.userId response.deviceId
            history := backend.history ++ [.granted response.userId response.deviceId] }

def refresh (config : BackendConfig) (backend : Backend φ) (refreshToken : String) (now : Nat)
    (seed : TokenSeed) : Backend φ :=
  match Http.refresh backend.auth config.sessions refreshToken now seed with
  | (auth, .error _) => { backend with auth := auth }
  | (auth, .ok response) =>
      { backend with
        auth := auth
        history := backend.history ++ [.granted response.userId response.deviceId] }

def requireAccess (backend : Backend φ) (id : Nat) (token : String) (endpoint : Endpoint)
    (now : Nat) : Backend φ :=
  match Http.requireAccess backend.auth token now with
  | (auth, .error _) => { backend with auth := auth }
  | (auth, .ok principal) =>
      { backend with
        auth := auth
        admitted := backend.admitted.put id ⟨principal, endpoint⟩
        history := backend.history ++ [.granted principal.userId principal.deviceId] }

def forget (backend : Backend φ) (id : Nat) : Backend φ :=
  { backend with admitted := backend.admitted.delete (fun key _ => decide (key = id)) }

def step (config : BackendConfig) (backend : Backend φ) : RequestStep → Option (Backend φ)
  | .login user request sessionId now seed =>
      some (backend.login config user request sessionId now seed)
  | .refresh refreshToken now seed => some (backend.refresh config refreshToken now seed)
  | .requireAccess id token endpoint now =>
      match backend.admitted.get id with
      | some _ => none
      | none => some (backend.requireAccess id token endpoint now)
  | .handle id now =>
      match backend.admitted.get id with
      | none => none
      | some request =>
          some ((backend.forget id).handle config request.principal now request.endpoint)
  | .cancel id => some (backend.forget id)

end Steps

/-- Accounts without a device, no request under way. -/
structure Starts (backend : Backend φ) : Prop where
  devices : backend.auth.devices = .empty
  sessions : backend.auth.sessions.table = .empty
  admitted : backend.admitted = .empty
  history : backend.history = []

end Backend

/-! What a step can do to the devices, the admitted requests and the history. -/

namespace AuthDb

/-- The revocation column of a device, `none` for a device that is not registered. -/
def standing (db : AuthDb) (key : String × String) : Option (Option Int) :=
  (db.devices.get key).map DeviceRow.revokedAt

@[simp] theorem standing_sessionSeen (db : AuthDb) (sessionId : String) (now : Int)
    (key : String × String) : (db.sessionSeen sessionId now).standing key = db.standing key := rfl

@[simp] theorem standing_revokeSessions (db : AuthDb) (selects : String → SessionRow → Bool)
    (now : Int) (key : String × String) :
    (db.revokeSessions selects now).standing key = db.standing key := rfl

@[simp] theorem standing_deviceSeen (db : AuthDb) (identity : SessionIdentity) (now : Int)
    (key : String × String) : (db.deviceSeen identity now).standing key = db.standing key := by
  unfold standing deviceSeen
  dsimp only
  rw [Table.get_update_key]
  split
  · rw [Option.map_map]
    rfl
  · rfl

theorem standing_revokeDevices (db : AuthDb) (userId deviceId : String) (now : Int)
    (key : String × String) :
    (db.revokeDevices userId deviceId now).standing key =
      if key = (userId, deviceId) then (db.standing key).map (fun found => found.or (some now))
      else db.standing key := by
  unfold standing revokeDevices
  dsimp only
  rw [Table.get_update_key]
  split
  · rw [Option.map_map, Option.map_map]
    rfl
  · rfl

theorem standing_registerDevice (db : AuthDb) (sessions : Sessions)
    (userId deviceId platform : String) (deviceName : Option String) (now : Int)
    (open' : ∀ time, db.standing (userId, deviceId) ≠ some (some time)) (key : String × String) :
    ({ db with
        devices := registerDevice db.devices userId deviceId platform deviceName now
        sessions := sessions } : AuthDb).standing key =
      if key = (userId, deviceId) then some none else db.standing key := by
  unfold standing registerDevice
  dsimp only
  split
  · rw [Table.get_put]
    split <;> rfl
  · rename_i row found
    rw [Table.get_put]
    split
    · have free : row.revokedAt = none := by
        by_contra revoked
        obtain ⟨time, at'⟩ := Option.ne_none_iff_exists'.mp revoked
        exact open' time (by rw [standing, found, Option.map_some, at'])
      rw [Option.map_some, free]
    · rfl

/-- A joined row shows the standing of its device. -/
theorem standing_of_view {db : AuthDb} {sessionId : String} {view : SessionView}
    (seen : db.view sessionId = some view) :
    db.standing (view.identity.userId, view.identity.deviceId) = some view.deviceRevokedAt := by
  unfold AuthDb.view join at seen
  split at seen
  · cases seen
  · split at seen
    · rename_i user device account registered
      cases seen
      rw [standing, registered, Option.map_some]
    · cases seen

end AuthDb

section Standing

variable {db after : AuthDb}

/-- An accepted access token belongs to a device that is not revoked. -/
theorem authenticateAccess_standing {accessHash : String} {now : Int}
    {result : AuthResult SessionIdentity}
    (asked : authenticateAccess db accessHash now = (after, result)) :
    (∀ key, after.standing key = db.standing key) ∧
      ∀ principal, result = .ok principal →
        db.standing (principal.userId, principal.deviceId) = some none := by
  unfold authenticateAccess at asked
  split at asked
  · cases asked
    exact ⟨fun key => rfl, fun principal accepted => nomatch accepted⟩
  · rename_i view found
    split at asked
    · cases asked
      exact ⟨fun key => rfl, fun principal accepted => nomatch accepted⟩
    · rename_i free
      split at asked
      · cases asked
        exact ⟨fun key => rfl, fun principal accepted => nomatch accepted⟩
      · cases asked
        refine ⟨fun key => by simp, fun principal accepted => ?_⟩
        cases accepted
        rw [AuthDb.standing_of_view (AuthDb.accessIdentity_eq_some.mp found).1,
          (SessionView.refusal_eq_none.mp free).2.1]

/-- A rotated refresh token belongs to a device that is not revoked. -/
theorem rotateRefresh_standing {refreshHash newAccessHash newRefreshHash : String}
    {accessExpiresAt refreshIdleTtlSeconds now : Int} {result : AuthResult SessionIdentity}
    (asked : rotateRefresh db refreshHash newAccessHash newRefreshHash accessExpiresAt
      refreshIdleTtlSeconds now = (after, result)) :
    (∀ key, after.standing key = db.standing key) ∧
      ∀ principal, result = .ok principal →
        db.standing (principal.userId, principal.deviceId) = some none := by
  unfold rotateRefresh at asked
  split at asked
  · cases asked
    exact ⟨fun key => rfl, fun principal accepted => nomatch accepted⟩
  · rename_i view found
    split at asked
    · cases asked
      exact ⟨fun key => rfl, fun principal accepted => nomatch accepted⟩
    · rename_i free
      split at asked
      · cases asked
        exact ⟨fun key => by simp, fun principal accepted => nomatch accepted⟩
      · split at asked
        · cases asked
          exact ⟨fun key => rfl, fun principal accepted => nomatch accepted⟩
        · cases asked
          refine ⟨fun key => ?_, fun principal accepted => ?_⟩
          · rw [AuthDb.standing_deviceSeen]
            rfl
          · cases accepted
            rw [AuthDb.standing_of_view (AuthDb.refreshIdentity_eq_some.mp found).1,
              (SessionView.refusal_eq_none.mp free).2.1]

/-- A device that logs in was not revoked, and is registered from then on. -/
theorem createSession_standing {userId username deviceId platform : String}
    {deviceName : Option String} {sessionId accessHash refreshHash : String}
    {accessExpiresAt now : Int} {result : AuthResult SessionIdentity}
    (asked : createSession db userId username deviceId platform deviceName sessionId accessHash
      refreshHash accessExpiresAt now = (after, result)) :
    (∃ reason, result = .error reason ∧ after = db) ∨
      result = .ok ⟨sessionId, userId, username, deviceId, platform⟩ ∧
        (∀ time, db.standing (userId, deviceId) ≠ some (some time)) ∧
        ∀ key, after.standing key =
          if key = (userId, deviceId) then some none else db.standing key := by
  unfold createSession at asked
  split at asked
  · cases asked
    exact Or.inl ⟨_, rfl, rfl⟩
  · rename_i notRevoked
    split at asked
    · cases asked
      exact Or.inl ⟨_, rfl, rfl⟩
    · split at asked
      · cases asked
        exact Or.inl ⟨_, rfl, rfl⟩
      · cases asked
        have open' : ∀ time, db.standing (userId, deviceId) ≠ some (some time) := by
          intro time revoked
          unfold AuthDb.standing at revoked
          obtain ⟨row, found, at'⟩ := Option.map_eq_some_iff.mp revoked
          obtain ⟨platform, name, created, seen, revokedAt⟩ := row
          dsimp only at at'
          subst at'
          exact notRevoked platform name created seen time found
        exact Or.inr ⟨rfl, open', AuthDb.standing_registerDevice db _ _ _ _ _ _ open'⟩

theorem revokeDevice_standing {userId deviceId : String} {now : Int} {result : AuthResult Unit}
    (asked : revokeDevice db userId deviceId now = (after, result)) :
    (∃ reason, result = .error reason ∧ after = db) ∨
      result = .ok () ∧ (∃ time, after.standing (userId, deviceId) = some (some time)) ∧
        ∀ key, key ≠ (userId, deviceId) → after.standing key = db.standing key := by
  unfold revokeDevice at asked
  split at asked
  · cases asked
    exact Or.inl ⟨_, rfl, rfl⟩
  · rename_i row found
    cases asked
    refine Or.inr ⟨rfl, ?_, fun key other => ?_⟩
    · rw [AuthDb.standing_revokeSessions, AuthDb.standing_revokeDevices, if_pos rfl,
        AuthDb.standing, found, Option.map_some, Option.map_some]
      cases row.revokedAt with
      | none => exact ⟨now, rfl⟩
      | some time => exact ⟨time, rfl⟩
    · rw [AuthDb.standing_revokeSessions, AuthDb.standing_revokeDevices, if_neg other]

/-- A revocation leaves the sessions of every other device as they were. -/
theorem revokeDevice_others {userId deviceId : String} {sessionId : String}
    {view : SessionView} (seen : db.view sessionId = some view)
    (other : (view.identity.userId, view.identity.deviceId) ≠ (userId, deviceId)) (now : Int) :
    (revokeDevice db userId deviceId now).1.view sessionId = some view := by
  unfold revokeDevice
  split
  · exact seen
  · unfold AuthDb.view at seen ⊢
    cases stored : db.sessions.table.get sessionId with
    | none => simp [stored] at seen
    | some row =>
        simp only [stored] at seen
        have joined := seen
        unfold AuthDb.join at seen
        split at seen
        · rename_i user device account registered
          cases seen
          have apart : ¬(row.userId = userId ∧ row.deviceId = deviceId) := by
            intro same
            exact other (by rw [same.1, same.2])
          have kept : ((db.revokeDevices userId deviceId now).revokeSessions
              (fun _ row => decide (row.userId = userId) && decide (row.deviceId = deviceId))
              now).sessions.table.get sessionId = some row := by
            show (db.sessions.table.update _ _).get sessionId = some row
            rw [Table.get_update, stored, Option.map_some, if_neg (by simpa using apart)]
          have device' : (db.revokeDevices userId deviceId now).devices.get
              (row.userId, row.deviceId) = some device := by
            show (db.devices.update _ _).get (row.userId, row.deviceId) = some device
            rw [Table.get_update_key, if_neg other, registered]
          rw [kept]
          have users : (db.revokeDevices userId deviceId now).users = db.users := rfl
          exact (AuthDb.join_congr users (device'.trans registered.symm)).trans joined
        · cases seen

end Standing

namespace Backend

/-- No request is admitted that was not before. -/
def Fewer (backend next : Backend φ) : Prop :=
  ∀ id request, next.admitted.get id = some request → backend.admitted.get id = some request

theorem fewer_forget (backend : Backend φ) (id : Nat) : backend.Fewer (backend.forget id) := by
  intro other request found
  unfold forget at found
  dsimp only at found
  rw [Table.get_delete_key] at found
  split at found
  · cases found
  · exact found

section Turns

variable [UuidParser]

/-- All that one step can do. -/
inductive Turn (backend : Backend φ) (action : RequestStep) (next : Backend φ) : Prop
  | quiet (standing : ∀ key, next.auth.standing key = backend.auth.standing key)
      (fewer : backend.Fewer next) (history : next.history = backend.history)
  | registered (user : UserCredential) (request : LoginRequest) (sessionId : String) (now : Nat)
      (seed : TokenSeed) (asked : action = .login user request sessionId now seed)
      (valid : ∃ id, parseStr request.deviceId = some id)
      (free : ∀ time, backend.auth.standing (user.userId, request.deviceId) ≠ some (some time))
      (standing : ∀ key, next.auth.standing key =
        if key = (user.userId, request.deviceId) then some none else backend.auth.standing key)
      (fewer : backend.Fewer next)
      (history : next.history = backend.history ++ [.granted user.userId request.deviceId])
  | granted (principal : SessionIdentity)
      (free : backend.auth.standing (principal.userId, principal.deviceId) = some none)
      (standing : ∀ key, next.auth.standing key = backend.auth.standing key)
      (admitted : ∀ id request, next.admitted.get id = some request →
        backend.admitted.get id = some request ∨ request.principal = principal)
      (history : next.history = backend.history ++
        [.granted principal.userId principal.deviceId])
  | revoked (id now : Nat) (principal : SessionIdentity) (deviceId : String)
      (asked : action = .handle id now)
      (found : backend.admitted.get id = some ⟨principal, .revokeDevice deviceId⟩)
      (valid : ∃ id, parseStr deviceId = some id)
      (closed : ∃ time, next.auth.standing (principal.userId, deviceId) = some (some time))
      (others : ∀ key, key ≠ (principal.userId, deviceId) →
        next.auth.standing key = backend.auth.standing key)
      (fewer : backend.Fewer next)
      (history : next.history = backend.history ++ [.revoked principal.userId deviceId])
  | committed (id : Nat) (request : Admitted) (found : backend.admitted.get id = some request)
      (writes : request.endpoint.writes = true)
      (standing : ∀ key, next.auth.standing key = backend.auth.standing key)
      (fewer : backend.Fewer next)
      (history : next.history = backend.history ++
        [.committed request.principal.userId request.principal.deviceId])

/-- A handler that may write the sync tables is seen in the history exactly when
it has. -/
theorem commit_turn {backend : Backend φ} {id : Nat} {request : Admitted}
    (found : backend.admitted.get id = some request) (writes : request.endpoint.writes = true)
    (sync : ServerDb φ) (action : RequestStep) :
    backend.Turn action ((backend.forget id).commit request.principal sync) := by
  unfold commit
  by_cases changed : (backend.forget id).sync.changed sync = true
  · exact .committed id request found writes (fun key => rfl) (fewer_forget backend id)
      (if_pos changed)
  · exact .quiet (fun key => rfl) (fewer_forget backend id) (if_neg changed)

section Tokens

variable [TokenHash]

theorem login_turn (config : BackendConfig) (backend : Backend φ) (user : UserCredential)
    (request : LoginRequest) (sessionId : String) (now : Nat) (seed : TokenSeed) :
    backend.Turn (.login user request sessionId now seed)
      (backend.login config user request sessionId now seed) := by
  unfold login
  split
  · exact .quiet (fun key => rfl) (fun id request found => found) rfl
  · rename_i checked
    cases asked : Http.login backend.auth config.sessions user.userId user.username
        request.deviceId request.platform request.deviceName sessionId now seed with
    | mk auth result =>
        unfold Http.login at asked
        split at asked
        · cases asked
          exact .quiet (fun key => rfl) (fun id request found => found) rfl
        · rename_i tokens made
          cases opened : createSession backend.auth user.userId user.username request.deviceId
              request.platform request.deviceName sessionId tokens.accessHash tokens.refreshHash
              tokens.accessExpiresAt now with
          | mk after answer =>
              rw [opened] at asked
              rcases createSession_standing opened with
                ⟨reason, rfl, rfl⟩ | ⟨rfl, free, standing⟩
              · split at asked
                · rename_i same
                  cases asked
                  cases same
                  exact .quiet (fun key => rfl) (fun id request found => found) rfl
                · rename_i same
                  cases asked
                  cases same
                  exact .quiet (fun key => rfl) (fun id request found => found) rfl
                · rename_i same
                  cases same
              · cases asked
                exact .registered user request sessionId now seed rfl
                  (validateLoginRequest_ok checked) free standing
                  (fun id request found => found) rfl

theorem refresh_turn (config : BackendConfig) (backend : Backend φ) (refreshToken : String)
    (now : Nat) (seed : TokenSeed) (action : RequestStep) :
    backend.Turn action (backend.refresh config refreshToken now seed) := by
  unfold refresh
  cases asked : Http.refresh backend.auth config.sessions refreshToken now seed with
  | mk auth result =>
      unfold Http.refresh at asked
      split at asked
      · split at asked
        · cases asked
          exact .quiet (fun key => rfl) (fun id request found => found) rfl
        · rename_i tokens made
          cases rotated : rotateRefresh backend.auth (tokenHash refreshToken) tokens.accessHash
              tokens.refreshHash tokens.accessExpiresAt config.sessions.refreshIdleTtlSeconds
              now with
          | mk after answer =>
              obtain ⟨standing, free⟩ := rotateRefresh_standing rotated
              rw [rotated] at asked
              cases answer with
              | error reason =>
                  cases asked
                  exact .quiet standing (fun id request found => found) rfl
              | ok identity =>
                  cases asked
                  exact .granted identity (free identity rfl) standing
                    (fun id request found => Or.inl found) rfl
      · cases asked
        exact .quiet (fun key => rfl) (fun id request found => found) rfl

theorem requireAccess_turn (backend : Backend φ) (id : Nat) (token : String)
    (endpoint : Endpoint) (now : Nat) (action : RequestStep) :
    backend.Turn action (backend.requireAccess id token endpoint now) := by
  unfold requireAccess
  cases asked : Http.requireAccess backend.auth token now with
  | mk auth result =>
      unfold Http.requireAccess at asked
      split at asked
      · cases checked : authenticateAccess backend.auth (tokenHash token) now with
        | mk after answer =>
            obtain ⟨standing, free⟩ := authenticateAccess_standing checked
            rw [checked] at asked
            cases answer with
            | error reason =>
                cases asked
                exact .quiet standing (fun id request found => found) rfl
            | ok identity =>
                cases asked
                refine .granted identity (free identity rfl) standing ?_ rfl
                intro other request found
                dsimp only at found
                rw [Table.get_put] at found
                split at found
                · cases found
                  exact Or.inr rfl
                · exact Or.inl found
      · cases asked
        exact .quiet (fun key => rfl) (fun id request found => found) rfl

end Tokens

variable [ContentTables] [DecidableEq φ] [EventFingerprint φ]

theorem handle_turn (config : BackendConfig) {backend : Backend φ} {id : Nat}
    {request : Admitted} (found : backend.admitted.get id = some request) (now : Nat) :
    backend.Turn (.handle id now)
      ((backend.forget id).handle config request.principal now request.endpoint) := by
  obtain ⟨principal, endpoint⟩ := request
  cases endpoint with
  | logout => exact .quiet (fun key => rfl) (fewer_forget backend id) rfl
  | read => exact .quiet (fun key => rfl) (fewer_forget backend id) rfl
  | push events => exact commit_turn found rfl _ _
  | setFavoriteState contentKey active base => exact commit_turn found rfl _ _
  | revokeDevice deviceId =>
      simp only [handle]
      cases asked : Http.revokeDevice (backend.forget id).auth principal deviceId now with
      | mk auth result =>
          unfold Http.revokeDevice at asked
          split at asked
          · cases asked
            exact .quiet (fun key => rfl) (fewer_forget backend id) rfl
          · rename_i checked
            cases done : Server.revokeDevice (backend.forget id).auth principal.userId deviceId
                now with
            | mk after answer =>
                rw [done] at asked
                rcases revokeDevice_standing done with ⟨reason, rfl, rfl⟩ | ⟨rfl, closed, others⟩
                · cases asked
                  exact .quiet (fun key => rfl) (fewer_forget backend id) rfl
                · cases asked
                  exact .revoked id now principal deviceId rfl found
                    (validateDeviceId_ok checked) closed others (fewer_forget backend id) rfl

theorem step_turn [TokenHash] {config : BackendConfig} {backend next : Backend φ} {action : RequestStep}
    (taken : backend.step config action = some next) : backend.Turn action next := by
  cases action with
  | login user request sessionId now seed =>
      cases taken
      exact login_turn config backend user request sessionId now seed
  | refresh refreshToken now seed =>
      cases taken
      exact refresh_turn config backend refreshToken now seed _
  | requireAccess id token endpoint now =>
      simp only [step] at taken
      split at taken
      · cases taken
      · cases taken
        exact requireAccess_turn backend id token endpoint now _
  | handle id now =>
      simp only [step] at taken
      split at taken
      · cases taken
      · rename_i request found
        cases taken
        exact handle_turn config found now
  | cancel id =>
      cases taken
      exact .quiet (fun key => rfl) (fewer_forget backend id) rfl

end Turns

end Backend

end Lvos.Server
