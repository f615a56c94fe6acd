import Lvos.Server.Api

set_option autoImplicit false

namespace Lvos.Server

open Lvos.Core Lvos.Sync
open Relational (Table)

def maxTokenBytes : Nat := 512

/-- `token_hash`: hexadecimal SHA-256 of a token. -/
class TokenHash where
  tokenHash : String → String

export TokenHash (tokenHash)

/-- The token as its own digest, for evaluating a concrete run. -/
@[reducible] def plainTokens : TokenHash := ⟨id⟩

/-- The values of `RepositoryError` that the functions of sessions and devices
return. -/
inductive AuthRepositoryError
  | database
  | notFound
  | sessionInvalid
  | accessExpired
  | refreshExpired
  | sessionRevoked
  | deviceRevoked
  | userDisabled
deriving DecidableEq, Repr

abbrev AuthResult (τ : Type) := Except AuthRepositoryError τ

/-- `users` without `sync_revision`, which only the sync functions read. -/
structure UserRow where
  username : String
  passwordHash : String
  createdAt : Int
  disabledAt : Option Int
deriving DecidableEq, Repr

structure DeviceRow where
  platform : String
  deviceName : Option String
  createdAt : Int
  lastSeenAt : Int
  revokedAt : Option Int
deriving DecidableEq, Repr

structure SessionRow where
  userId : String
  deviceId : String
  accessTokenHash : String
  refreshTokenHash : String
  accessExpiresAt : Int
  createdAt : Int
  lastRefreshedAt : Int
  lastSeenAt : Int
  revokedAt : Option Int
deriving DecidableEq, Repr

/-- The `sessions` table with its two `UNIQUE` columns. -/
structure Sessions where
  table : Table String SessionRow
  accessUnique : (table.rows.map (fun entry => entry.2.accessTokenHash)).Nodup
  refreshUnique : (table.rows.map (fun entry => entry.2.refreshTokenHash)).Nodup
deriving DecidableEq

namespace Sessions

/-- A statement that would break a `UNIQUE` column fails. -/
def ofTable (table : Table String SessionRow) : Option Sessions :=
  if access : (table.rows.map (fun entry => entry.2.accessTokenHash)).Nodup then
    if refresh : (table.rows.map (fun entry => entry.2.refreshTokenHash)).Nodup then
      some ⟨table, access, refresh⟩
    else none
  else none

theorem table_of_ofTable {table : Table String SessionRow} {sessions : Sessions}
    (made : ofTable table = some sessions) : sessions.table = table := by
  unfold ofTable at made
  split at made
  · split at made
    · cases made
      rfl
    · cases made
  · cases made

/-- An `UPDATE` of the other columns. -/
def update (sessions : Sessions) (selects : String → SessionRow → Bool)
    (change : SessionRow → SessionRow)
    (access : ∀ row, (change row).accessTokenHash = row.accessTokenHash)
    (refresh : ∀ row, (change row).refreshTokenHash = row.refreshTokenHash) : Sessions where
  table := sessions.table.update selects change
  accessUnique := by
    have same : (sessions.table.update selects change).rows.map
        (fun entry => entry.2.accessTokenHash) =
        sessions.table.rows.map (fun entry => entry.2.accessTokenHash) := by
      simp only [Table.update, List.map_map, Function.comp_def]
      apply List.map_congr_left
      intro entry _
      split
      · exact access entry.2
      · rfl
    rw [same]
    exact sessions.accessUnique
  refreshUnique := by
    have same : (sessions.table.update selects change).rows.map
        (fun entry => entry.2.refreshTokenHash) =
        sessions.table.rows.map (fun entry => entry.2.refreshTokenHash) := by
      simp only [Table.update, List.map_map, Function.comp_def]
      apply List.map_congr_left
      intro entry _
      split
      · exact refresh entry.2
      · rfl
    rw [same]
    exact sessions.refreshUnique

def byAccess (sessions : Sessions) (accessHash : String) : Option (String × SessionRow) :=
  sessions.table.rows.find? (fun entry => decide (entry.2.accessTokenHash = accessHash))

def byRefresh (sessions : Sessions) (refreshHash : String) : Option (String × SessionRow) :=
  sessions.table.rows.find? (fun entry => decide (entry.2.refreshTokenHash = refreshHash))

theorem byAccess_eq_some {sessions : Sessions} {accessHash sessionId : String}
    {row : SessionRow} : sessions.byAccess accessHash = some (sessionId, row) ↔
      sessions.table.get sessionId = some row ∧ row.accessTokenHash = accessHash := by
  unfold byAccess
  rw [Table.find_unique (fun entry : String × SessionRow => entry.2.accessTokenHash) accessHash
    (sessionId, row) sessions.accessUnique, Table.mem_rows_iff]

theorem byRefresh_eq_some {sessions : Sessions} {refreshHash sessionId : String}
    {row : SessionRow} : sessions.byRefresh refreshHash = some (sessionId, row) ↔
      sessions.table.get sessionId = some row ∧ row.refreshTokenHash = refreshHash := by
  unfold byRefresh
  rw [Table.find_unique (fun entry : String × SessionRow => entry.2.refreshTokenHash) refreshHash
    (sessionId, row) sessions.refreshUnique, Table.mem_rows_iff]

end Sessions

/-- The tables of accounts, devices and sessions. -/
structure AuthDb where
  users : Table String UserRow
  devices : Table (String × String) DeviceRow
  sessions : Sessions
deriving DecidableEq

/-- Who a session is; the fields of `Principal` are the same. -/
structure SessionIdentity where
  sessionId : String
  userId : String
  username : String
  deviceId : String
  platform : String
deriving DecidableEq, Repr

/-- A session joined with its user and its device. -/
structure SessionView where
  identity : SessionIdentity
  accessTokenHash : String
  refreshTokenHash : String
  accessExpiresAt : Int
  lastSeenAt : Int
  sessionRevokedAt : Option Int
  deviceRevokedAt : Option Int
  userDisabledAt : Option Int
deriving DecidableEq, Repr

/-- The three flags in the order both functions test them. -/
def SessionView.refusal (view : SessionView) : Option AuthRepositoryError :=
  if view.userDisabledAt.isSome then some .userDisabled
  else if view.deviceRevokedAt.isSome then some .deviceRevoked
  else if view.sessionRevokedAt.isSome then some .sessionRevoked
  else none

namespace AuthDb

/-- `sessions s JOIN users u … JOIN devices d …`. -/
def join (db : AuthDb) (sessionId : String) (row : SessionRow) : Option SessionView :=
  match db.users.get row.userId, db.devices.get (row.userId, row.deviceId) with
  | some user, some device =>
      some
        { identity := ⟨sessionId, row.userId, user.username, row.deviceId, device.platform⟩
          accessTokenHash := row.accessTokenHash
          refreshTokenHash := row.refreshTokenHash
          accessExpiresAt := row.accessExpiresAt
          lastSeenAt := row.lastSeenAt
          sessionRevokedAt := row.revokedAt
          deviceRevokedAt := device.revokedAt
          userDisabledAt := user.disabledAt }
  | _, _ => none

theorem join_congr {db after : AuthDb} {sessionId : String} {row : SessionRow}
    (users : after.users = db.users)
    (devices : after.devices.get (row.userId, row.deviceId) =
      db.devices.get (row.userId, row.deviceId)) :
    after.join sessionId row = db.join sessionId row := by
  unfold join
  rw [users, devices]

/-- The joined row of a session id. -/
def view (db : AuthDb) (sessionId : String) : Option SessionView :=
  match db.sessions.table.get sessionId with
  | none => none
  | some row => db.join sessionId row

def accessIdentity (db : AuthDb) (accessHash : String) : Option SessionView :=
  match db.sessions.byAccess accessHash with
  | none => none
  | some (sessionId, row) => db.join sessionId row

def refreshIdentity (db : AuthDb) (refreshHash : String) : Option SessionView :=
  match db.sessions.byRefresh refreshHash with
  | none => none
  | some (sessionId, row) => db.join sessionId row

/-- `UPDATE devices SET last_seen_at`. -/
def deviceSeen (db : AuthDb) (identity : SessionIdentity) (now : Int) : AuthDb :=
  { db with
    devices := db.devices.update
      (fun key _ => decide (key = (identity.userId, identity.deviceId)))
      (fun row => { row with lastSeenAt := now }) }

/-- `UPDATE sessions SET last_seen_at`. -/
def sessionSeen (db : AuthDb) (sessionId : String) (now : Int) : AuthDb :=
  { db with
    sessions := db.sessions.update (fun key _ => decide (key = sessionId))
      (fun row => { row with lastSeenAt := now }) (fun _ => rfl) (fun _ => rfl) }

/-- `UPDATE sessions SET revoked_at = COALESCE(revoked_at, now)`. -/
def revokeSessions (db : AuthDb) (selects : String → SessionRow → Bool) (now : Int) : AuthDb :=
  { db with
    sessions := db.sessions.update selects
      (fun row => { row with revokedAt := row.revokedAt.or (some now) })
      (fun _ => rfl) (fun _ => rfl) }

/-- `UPDATE devices SET revoked_at = COALESCE(revoked_at, now)`. -/
def revokeDevices (db : AuthDb) (userId deviceId : String) (now : Int) : AuthDb :=
  { db with
    devices := db.devices.update (fun key _ => decide (key = (userId, deviceId)))
      (fun row => { row with revokedAt := row.revokedAt.or (some now) }) }

end AuthDb

def authenticateAccess (db : AuthDb) (accessHash : String) (now : Int) :
    AuthDb × AuthResult SessionIdentity :=
  match db.accessIdentity accessHash with
  | none => (db, .error .sessionInvalid)
  | some row =>
      match row.refusal with
      | some reason => (db, .error reason)
      | none =>
          if row.accessExpiresAt ≤ now then (db, .error .accessExpired)
          else
            ((db.sessionSeen row.identity.sessionId now).deviceSeen row.identity now,
              .ok row.identity)

/-- The statement that replaces both hashes. -/
def replaceTokens (sessions : Sessions) (sessionId newAccessHash newRefreshHash : String)
    (accessExpiresAt now : Int) : Option Sessions :=
  Sessions.ofTable (sessions.table.update (fun key _ => decide (key = sessionId))
    (fun row => { row with
      accessTokenHash := newAccessHash
      refreshTokenHash := newRefreshHash
      accessExpiresAt := accessExpiresAt
      lastRefreshedAt := now
      lastSeenAt := now }))

/-- An idle session is revoked by the rotation that finds it, and the revocation
is committed. -/
def rotateRefresh (db : AuthDb) (refreshHash newAccessHash newRefreshHash : String)
    (accessExpiresAt refreshIdleTtlSeconds now : Int) : AuthDb × AuthResult SessionIdentity :=
  match db.refreshIdentity refreshHash with
  | none => (db, .error .sessionInvalid)
  | some row =>
      match row.refusal with
      | some reason => (db, .error reason)
      | none =>
          if refreshIdleTtlSeconds ≤ now - row.lastSeenAt then
            (db.revokeSessions (fun key _ => decide (key = row.identity.sessionId)) now,
              .error .refreshExpired)
          else
            match replaceTokens db.sessions row.identity.sessionId newAccessHash newRefreshHash
                accessExpiresAt now with
            | none => (db, .error .database)
            | some sessions =>
                (({ db with sessions := sessions } : AuthDb).deviceSeen row.identity now,
                  .ok row.identity)

def revokeSession (db : AuthDb) (sessionId : String) (now : Int) : AuthDb × AuthResult Unit :=
  (db.revokeSessions (fun key _ => decide (key = sessionId)) now, .ok ())

def revokeDevice (db : AuthDb) (userId deviceId : String) (now : Int) :
    AuthDb × AuthResult Unit :=
  match db.devices.get (userId, deviceId) with
  | none => (db, .error .notFound)
  | some _ =>
      ((db.revokeDevices userId deviceId now).revokeSessions
        (fun _ row => decide (row.userId = userId) && decide (row.deviceId = deviceId)) now,
        .ok ())

/-- The device row a login writes: an insert or an update of the columns the
request carries. -/
def registerDevice (devices : Table (String × String) DeviceRow) (userId deviceId : String)
    (platform : String) (deviceName : Option String) (now : Int) :
    Table (String × String) DeviceRow :=
  match devices.get (userId, deviceId) with
  | none => devices.put (userId, deviceId) ⟨platform, deviceName, now, now, none⟩
  | some row => devices.put (userId, deviceId)
      { row with platform := platform, deviceName := deviceName, lastSeenAt := now }

/-- `user` is the account as `user_by_username` has read it. -/
def createSession (db : AuthDb) (userId username deviceId platform : String)
    (deviceName : Option String) (sessionId accessHash refreshHash : String)
    (accessExpiresAt now : Int) : AuthDb × AuthResult SessionIdentity :=
  match db.devices.get (userId, deviceId) with
  | some ⟨_, _, _, _, some _⟩ => (db, .error .deviceRevoked)
  | _ =>
      -- The foreign key, the check on `platform` and the keys of `sessions`.
      if db.users.get userId = none ∨ (platform ≠ "windows" ∧ platform ≠ "macos") ∨
          db.sessions.table.get sessionId ≠ none then (db, .error .database)
      else
        match Sessions.ofTable (db.sessions.table.put sessionId
            ⟨userId, deviceId, accessHash, refreshHash, accessExpiresAt, now, now, now, none⟩) with
        | none => (db, .error .database)
        | some sessions =>
            ({ db with
                devices := registerDevice db.devices userId deviceId platform deviceName now
                sessions := sessions },
              .ok ⟨sessionId, userId, username, deviceId, platform⟩)

/-- The configured life times; `ServerConfig::validate` refuses to start otherwise. -/
structure SessionConfig where
  accessTokenTtlSeconds : Int
  refreshIdleTtlSeconds : Int
  accessPositive : 0 < accessTokenTtlSeconds
  refreshPositive : 0 < refreshIdleTtlSeconds

/-- An access token for an hour, for evaluating concrete runs. -/
def SessionConfig.hourly : SessionConfig := ⟨3600, 7776000, by decide, by decide⟩

/-- An error answer; `response_error` of the client reads the status and the code. -/
structure ApiError where
  status : Nat
  code : String
  message : String
  reRegistrationSupported : Option Bool
deriving DecidableEq, Repr

namespace ApiError

def invalidRequest (message : String) : ApiError := ⟨400, "invalid_request", message, none⟩

def invalidSession : ApiError := ⟨401, "invalid_session", "authentication is required", none⟩

def internal : ApiError :=
  ⟨500, "internal_error", "the server could not complete the request", none⟩

def fromRepository : AuthRepositoryError → ApiError
  | .notFound => ⟨404, "not_found", "the requested resource was not found", none⟩
  | .accessExpired => ⟨401, "access_token_expired", "the access token expired", none⟩
  | .deviceRevoked => ⟨401, "device_revoked", "the authenticated device is revoked", some true⟩
  | .refreshExpired | .sessionInvalid | .sessionRevoked | .userDisabled => invalidSession
  | .database => internal

end ApiError

/-- The body of an error answer; only a conflict carries more than the error. -/
structure ErrorResponse where
  error : ApiError
  conflict : Option SyncConflict
deriving DecidableEq, Repr

def SyncApiError.intoResponse : SyncApiError → ErrorResponse
  | .basic .database => ⟨.internal, none⟩
  | .basic .notFound => ⟨.fromRepository .notFound, none⟩
  | .invalid message => ⟨.invalidRequest message, none⟩
  | .conflict found =>
      ⟨⟨409, "favorite_conflict", "the favorite revision conflicts with the server", none⟩,
        some found⟩

/-- The four `Uuid::new_v4` a pair of tokens is made from. -/
structure TokenSeed where
  access : Uuid × Uuid
  refresh : Uuid × Uuid
deriving DecidableEq

/-- `simple()`: the digits without hyphens. -/
def simple (id : Uuid) : String := String.ofList (Hex.encode id.bytes)

def randomToken (label : String) (ids : Uuid × Uuid) : String :=
  label ++ "_" ++ simple ids.1 ++ "_" ++ simple ids.2

structure NewTokens where
  accessToken : String
  refreshToken : String
  accessHash : String
  refreshHash : String
  accessExpiresAt : Int
deriving DecidableEq, Repr

structure TokenResponse where
  accessToken : String
  accessExpiresAt : Int
  refreshToken : String
  userId : String
  username : String
  deviceId : String
  platform : String
deriving DecidableEq, Repr

def TokenResponse.new (tokens : NewTokens) (identity : SessionIdentity) : TokenResponse where
  accessToken := tokens.accessToken
  accessExpiresAt := tokens.accessExpiresAt
  refreshToken := tokens.refreshToken
  userId := identity.userId
  username := identity.username
  deviceId := identity.deviceId
  platform := identity.platform

/-- The lengths `bearer_token` and the refresh endpoint accept. -/
def tokenAllowed (token : String) : Bool :=
  token ≠ "" && token.utf8ByteSize ≤ maxTokenBytes

def validateDeviceId [UuidParser] (deviceId : String) : Except ApiError Unit :=
  match parseStr deviceId with
  | none => .error (.invalidRequest "device_id must be a UUID")
  | some _ => .ok ()

section Endpoints

variable [TokenHash]

def NewTokens.generate (now ttlSeconds : Int) (seed : TokenSeed) : Except ApiError NewTokens :=
  if i64Limit ≤ now + ttlSeconds then .error .internal
  else
    let accessToken := randomToken "lvos_at" seed.access
    let refreshToken := randomToken "lvos_rt" seed.refresh
    .ok ⟨accessToken, refreshToken, tokenHash accessToken, tokenHash refreshToken,
      now + ttlSeconds⟩

namespace Http

/-- `require_access`; `now` is `unix_timestamp`, never before the epoch. -/
def requireAccess (db : AuthDb) (token : String) (now : Nat) :
    AuthDb × Except ApiError SessionIdentity :=
  if tokenAllowed token then
    match authenticateAccess db (tokenHash token) now with
    | (db, .error reason) => (db, .error (.fromRepository reason))
    | (db, .ok principal) => (db, .ok principal)
  else (db, .error .invalidSession)

def refresh (db : AuthDb) (config : SessionConfig) (refreshToken : String) (now : Nat)
    (seed : TokenSeed) : AuthDb × Except ApiError TokenResponse :=
  if tokenAllowed refreshToken then
    match NewTokens.generate now config.accessTokenTtlSeconds seed with
    | .error error => (db, .error error)
    | .ok tokens =>
        match rotateRefresh db (tokenHash refreshToken) tokens.accessHash tokens.refreshHash
            tokens.accessExpiresAt config.refreshIdleTtlSeconds now with
        | (db, .error reason) => (db, .error (.fromRepository reason))
        | (db, .ok identity) => (db, .ok (TokenResponse.new tokens identity))
  else (db, .error .invalidSession)

/-- The end of the login endpoint, after the account has been read and its password
verified. -/
def login (db : AuthDb) (config : SessionConfig) (userId username deviceId platform : String)
    (deviceName : Option String) (sessionId : String) (now : Nat) (seed : TokenSeed) :
    AuthDb × Except ApiError TokenResponse :=
  match NewTokens.generate now config.accessTokenTtlSeconds seed with
  | .error error => (db, .error error)
  | .ok tokens =>
      match createSession db userId username deviceId platform deviceName sessionId
          tokens.accessHash tokens.refreshHash tokens.accessExpiresAt now with
      | (db, .error .deviceRevoked) =>
          (db, .error ⟨403, "device_revoked",
            "this device identity is permanently revoked for the user", some true⟩)
      | (db, .error reason) => (db, .error (.fromRepository reason))
      | (db, .ok identity) => (db, .ok (TokenResponse.new tokens identity))

end Http

end Endpoints

namespace Http

def logout (db : AuthDb) (principal : SessionIdentity) (now : Nat) :
    AuthDb × Except ApiError Unit :=
  match Server.revokeSession db principal.sessionId now with
  | (db, .error reason) => (db, .error (.fromRepository reason))
  | (db, .ok _) => (db, .ok ())

def revokeDevice [UuidParser] (db : AuthDb) (principal : SessionIdentity) (deviceId : String)
    (now : Nat) : AuthDb × Except ApiError Unit :=
  match validateDeviceId deviceId with
  | .error error => (db, .error error)
  | .ok _ =>
      match Server.revokeDevice db principal.userId deviceId now with
      | (db, .error reason) => (db, .error (.fromRepository reason))
      | (db, .ok _) => (db, .ok ())

end Http

end Lvos.Server
