import Lvos.Desktop.Engine
import Lvos.Server.Auth

set_option autoImplicit false

namespace Lvos.Desktop

open Lvos.Core
open Lvos.Server
open Relational (Table)

def maxSessionTokenBytes : Nat := 4096

def maxUsernameBytes : Nat := 128

inductive CredentialKey
  | retiredTranslationApiKey
  | tencentTokenHubApiKey
  | serverRefreshToken
deriving DecidableEq, Repr

structure CredentialScope where
  serverOrigin : String
  userId : String
  deviceId : String
  key : CredentialKey
deriving DecidableEq, Repr

def refreshScope (serverOrigin userId deviceId : String) : CredentialScope :=
  ⟨serverOrigin, userId, deviceId, .serverRefreshToken⟩

/-- What `AuthError::CredentialStore` displays. -/
def credentialStoreFailed : SessionError :=
  .credentialStore "the OS credential store operation failed"

def responseError (response : ErrorResponse) : TransportError :=
  if response.error.status = 401 ∧ response.error.code = "access_token_expired" then
    .accessExpired
  else if response.error.status = 401 ∧ response.error.code = "device_revoked" then
    .deviceRevoked
  else if response.error.status = 401 ∨ response.error.status = 403 then .sessionInvalid
  else if response.error.status = 409 ∧ response.error.code = "favorite_conflict" then
    match response.conflict with
    | some conflict => .conflict conflict
    | none => .invalidResponse
  else if (500 ≤ response.error.status ∧ response.error.status < 600) ∨
      response.error.status = 429 then .offline
  else .rejected

/-- The length check of `TokenResponse::validate`. -/
def validToken (value : String) : Bool :=
  value ≠ "" && value.utf8ByteSize ≤ maxSessionTokenBytes

/-- The part of `TokenResponse::validate` about who the tokens are for. -/
def validOwner [UuidParser] (userId username deviceId platform : String) : Bool :=
  (parseStr userId).isSome && (parseStr deviceId).isSome && username ≠ "" &&
    username.utf8ByteSize ≤ maxUsernameBytes && (platform = "windows" || platform = "macos")

def validateTokens [UuidParser] (tokens : TokenResponse) : Bool :=
  validOwner tokens.userId tokens.username tokens.deviceId tokens.platform &&
    validToken tokens.accessToken && validToken tokens.refreshToken &&
    0 < tokens.accessExpiresAt

structure AccessState where
  token : String
  expiresAt : Int
deriving DecidableEq, Repr

/-- The fields of `AuthenticatedSession` that never change. -/
structure SessionOwner where
  serverOrigin : String
  userId : String
  username : String
  deviceId : String
  platform : String
deriving DecidableEq, Repr

def SessionOwner.scope (owner : SessionOwner) : CredentialScope :=
  refreshScope owner.serverOrigin owner.userId owner.deviceId

def matchesIdentity (tokens : TokenResponse) (owner : SessionOwner) : Bool :=
  tokens.userId = owner.userId && tokens.username = owner.username &&
    tokens.deviceId = owner.deviceId && tokens.platform = owner.platform

inductive SessionCall
  | push
  | changes
  | devices
  | revokeDevice (deviceId : String)
  | revisionStream
  | logout
deriving DecidableEq, Repr

inductive Attempt
  | first
  | retry
deriving DecidableEq, Repr

/-- Where a call is suspended: before it reads the access token, with its request
on the way, admitted by `require_access`, with its answer on the way; then inside
`refresh_after`; at the end of `logout`; or returned. -/
inductive Stage
  | reading (attempt : Attempt)
  | sending (attempt : Attempt) (token : String)
  | admitted (attempt : Attempt) (token : String) (principal : SessionIdentity)
  | replied (attempt : Attempt) (token : String) (reply : Except ErrorResponse Unit)
  | awaitingGate (rejected : String)
  | comparing (rejected : String)
  | fetching
  | refreshing (refreshToken : String)
  | refreshed (reply : Except ErrorResponse TokenResponse)
  | storing (tokens : TokenResponse)
  | publishing (tokens : TokenResponse)
  | deleting (result : Except SessionError Unit)
  | done (result : Except SessionError Unit)
deriving DecidableEq

/-- The guard of `refresh_gate` lives from its lock to the end of `refresh_after`. -/
def Stage.gated : Stage → Bool
  | .comparing _ | .fetching | .refreshing _ | .refreshed _ | .storing _ | .publishing _ => true
  | _ => false

structure SessionTask where
  call : SessionCall
  stage : Stage
deriving DecidableEq

/-- `logout` deletes the credential whatever the server said; every other call
returns. -/
def SessionCall.finish (call : SessionCall) (result : Except SessionError Unit) : Stage :=
  match call with
  | .logout => .deleting result
  | _ => .done result

def SessionCall.fail (call : SessionCall) (error : SessionError) : Stage :=
  call.finish (.error error)

/-- One session on both sides: the row `sessionId` of the server's tables, and the
calls that run on the client's `AuthenticatedSession`. `loggedOut` records that a
`logout` has deleted the credential. -/
structure SessionWorld where
  owner : SessionOwner
  config : SessionConfig
  sessionId : String
  db : AuthDb
  credentials : Table CredentialScope ByteArray
  access : AccessState
  gate : Option Nat
  tasks : Table Nat SessionTask
  loggedOut : Bool

namespace SessionWorld

def credential (world : SessionWorld) : Option ByteArray :=
  world.credentials.get world.owner.scope

/-- The call goes on to another stage; leaving `refresh_after` frees the gate. -/
def moveTo (world : SessionWorld) (id : Nat) (task : SessionTask) (stage : Stage) :
    SessionWorld :=
  { world with
    gate :=
      if stage.gated then some id else if task.stage.gated then none else world.gate
    tasks := world.tasks.put id { task with stage := stage } }

end SessionWorld

/-- An interrupted request or answer; the stream endpoint and a malformed answer
give the second. -/
inductive Interruption
  | offline
  | invalidResponse
deriving DecidableEq, Repr

def Interruption.error : Interruption → SessionError
  | .offline => .transport .offline
  | .invalidResponse => .transport .invalidResponse

inductive SessionAction
  | start (id : Nat) (call : SessionCall)
  | readToken (id : Nat)
  | authenticate (id now : Nat)
  | execute (id now : Nat) (handled : ApiResult Unit)
  | receive (id : Nat)
  | acquireGate (id : Nat)
  | compare (id : Nat)
  | readCredential (id : Nat) (available : Bool)
  | rotate (id now : Nat) (seed : TokenSeed)
  | receiveTokens (id : Nat)
  | storeCredential (id : Nat) (accepted : Bool)
  | publish (id : Nat)
  | deleteCredential (id : Nat) (accepted : Bool)
  | interrupt (id : Nat) (interruption : Interruption)
deriving DecidableEq

/-- The endpoint of an admitted call. The sync endpoints and the list of devices
leave these tables alone, and `handled` is what they answer. -/
def handle [UuidParser] (db : AuthDb) (call : SessionCall) (principal : SessionIdentity)
    (now : Nat) (handled : ApiResult Unit) : AuthDb × Except ErrorResponse Unit :=
  match call with
  | .revokeDevice deviceId =>
      let outcome := Http.revokeDevice db principal deviceId now
      (outcome.1, outcome.2.mapError (fun error => ⟨error, none⟩))
  | .logout =>
      let outcome := Http.logout db principal now
      (outcome.1, outcome.2.mapError (fun error => ⟨error, none⟩))
  | _ => (db, handled.mapError SyncApiError.intoResponse)

/-- The match on the answer to a request: only the first access expiry leads into
`refresh_after`. -/
def settleAnswer (call : SessionCall) (attempt : Attempt) (token : String)
    (reply : Except ErrorResponse Unit) : Stage :=
  match reply with
  | .ok _ => call.finish (.ok ())
  | .error response =>
      match attempt, responseError response with
      | .first, .accessExpired => .awaitingGate token
      | _, error => call.fail (.transport error)

/-- The credential read of `refresh_after`. -/
def settleCredential (call : SessionCall) (available : Bool) (stored : Option ByteArray) :
    Stage :=
  if available then
    match stored with
    | none => call.fail .noPersistentSession
    | some bytes =>
        match String.fromUTF8? bytes with
        | none => call.fail .invalidCredential
        | some refreshToken => .refreshing refreshToken
  else call.fail credentialStoreFailed

/-- The answer of the refresh endpoint, checked before it is stored. -/
def settleTokens [UuidParser] (call : SessionCall) (owner : SessionOwner)
    (reply : Except ErrorResponse TokenResponse) : Stage :=
  match reply with
  | .error response => call.fail (.transport (responseError response))
  | .ok tokens =>
      if validateTokens tokens && matchesIdentity tokens owner then .storing tokens
      else call.fail (.transport .invalidResponse)

section Step

variable [TokenHash] [UuidParser]

/-- `AuthenticatedSession::login` against the end of the login endpoint. -/
def SessionWorld.login (db : AuthDb) (config : SessionConfig)
    (credentials : Table CredentialScope ByteArray) (owner : SessionOwner)
    (deviceName : Option String) (sessionId : String) (now : Nat) (seed : TokenSeed) :
    Option SessionWorld :=
  match Http.login db config owner.userId owner.username owner.deviceId owner.platform deviceName
      sessionId now seed with
  | (_, .error _) => none
  | (db, .ok tokens) =>
      if validateTokens tokens && tokens.deviceId = owner.deviceId &&
          tokens.platform = owner.platform then
        some
          { owner := owner
            config := config
            sessionId := sessionId
            db := db
            credentials := credentials.put owner.scope tokens.refreshToken.toUTF8
            access := ⟨tokens.accessToken, tokens.accessExpiresAt⟩
            gate := none
            tasks := .empty
            loggedOut := false }
      else none

/-- `AuthenticatedSession::resume` against the refresh endpoint: the session is the one that the
server finds under the token. `available` and `accepted` are what the credential store does. -/
def SessionWorld.resume (db : AuthDb) (config : SessionConfig)
    (credentials : Table CredentialScope ByteArray) (owner : SessionOwner)
    (available accepted : Bool) (now : Nat) (seed : TokenSeed) :
    Except SessionError SessionWorld :=
  if available = false then .error credentialStoreFailed
  else
    match credentials.get owner.scope with
    | none => .error .noPersistentSession
    | some bytes =>
        match String.fromUTF8? bytes with
        | none => .error .invalidCredential
        | some refreshToken =>
            match Http.refresh db config refreshToken now seed with
            | (_, .error error) => .error (.transport (responseError ⟨error, none⟩))
            | (after, .ok tokens) =>
                if validateTokens tokens && matchesIdentity tokens owner then
                  if accepted then
                    .ok
                      { owner := owner
                        config := config
                        sessionId := ((db.refreshIdentity (tokenHash refreshToken)).map
                          (fun view => view.identity.sessionId)).getD ""
                        db := after
                        credentials := credentials.put owner.scope tokens.refreshToken.toUTF8
                        access := ⟨tokens.accessToken, tokens.accessExpiresAt⟩
                        gate := none
                        tasks := .empty
                        loggedOut := false }
                  else .error credentialStoreFailed
                else .error (.transport .invalidResponse)

/-- The next stretch of the call `id` up to its next await; `none` when the call is
suspended elsewhere. -/
def sessionStep (world : SessionWorld) : SessionAction → Option SessionWorld
  | .start id call =>
      if world.tasks.get id = none then
        some { world with tasks := world.tasks.put id ⟨call, .reading .first⟩ }
      else none
  | .readToken id =>
      match world.tasks.get id with
      | some ⟨call, .reading attempt⟩ =>
          some (world.moveTo id ⟨call, .reading attempt⟩ (.sending attempt world.access.token))
      | _ => none
  | .authenticate id now =>
      match world.tasks.get id with
      | some ⟨call, .sending attempt token⟩ =>
          match Http.requireAccess world.db token now with
          | (db, .error error) =>
              some (({ world with db := db } : SessionWorld).moveTo id
                ⟨call, .sending attempt token⟩ (.replied attempt token (.error ⟨error, none⟩)))
          | (db, .ok principal) =>
              some (({ world with db := db } : SessionWorld).moveTo id
                ⟨call, .sending attempt token⟩ (.admitted attempt token principal))
      | _ => none
  | .execute id now handled =>
      match world.tasks.get id with
      | some ⟨call, .admitted attempt token principal⟩ =>
          let outcome := handle world.db call principal now handled
          some (({ world with db := outcome.1 } : SessionWorld).moveTo id
            ⟨call, .admitted attempt token principal⟩ (.replied attempt token outcome.2))
      | _ => none
  | .receive id =>
      match world.tasks.get id with
      | some ⟨call, .replied attempt token reply⟩ =>
          some (world.moveTo id ⟨call, .replied attempt token reply⟩
            (settleAnswer call attempt token reply))
      | _ => none
  | .acquireGate id =>
      match world.tasks.get id with
      | some ⟨call, .awaitingGate rejected⟩ =>
          if world.gate = none then
            some (world.moveTo id ⟨call, .awaitingGate rejected⟩ (.comparing rejected))
          else none
      | _ => none
  | .compare id =>
      match world.tasks.get id with
      | some ⟨call, .comparing rejected⟩ =>
          some (world.moveTo id ⟨call, .comparing rejected⟩
            (if world.access.token ≠ rejected then .reading .retry else .fetching))
      | _ => none
  | .readCredential id available =>
      match world.tasks.get id with
      | some ⟨call, .fetching⟩ =>
          some (world.moveTo id ⟨call, .fetching⟩
            (settleCredential call available world.credential))
      | _ => none
  | .rotate id now seed =>
      match world.tasks.get id with
      | some ⟨call, .refreshing refreshToken⟩ =>
          let outcome := Http.refresh world.db world.config refreshToken now seed
          some (({ world with db := outcome.1 } : SessionWorld).moveTo id
            ⟨call, .refreshing refreshToken⟩
            (.refreshed (outcome.2.mapError (fun error => ⟨error, none⟩))))
      | _ => none
  | .receiveTokens id =>
      match world.tasks.get id with
      | some ⟨call, .refreshed reply⟩ =>
          some (world.moveTo id ⟨call, .refreshed reply⟩ (settleTokens call world.owner reply))
      | _ => none
  | .storeCredential id accepted =>
      match world.tasks.get id with
      | some ⟨call, .storing tokens⟩ =>
          if accepted then
            some (({ world with
                credentials := world.credentials.put world.owner.scope
                  tokens.refreshToken.toUTF8 } : SessionWorld).moveTo id
              ⟨call, .storing tokens⟩ (.publishing tokens))
          else some (world.moveTo id ⟨call, .storing tokens⟩ (call.fail credentialStoreFailed))
      | _ => none
  | .publish id =>
      match world.tasks.get id with
      | some ⟨call, .publishing tokens⟩ =>
          some (({ world with
              access := ⟨tokens.accessToken, tokens.accessExpiresAt⟩ } : SessionWorld).moveTo id
            ⟨call, .publishing tokens⟩ (.reading .retry))
      | _ => none
  | .deleteCredential id accepted =>
      match world.tasks.get id with
      | some ⟨call, .deleting result⟩ =>
          if accepted then
            some (({ world with
                credentials := world.credentials.delete
                  (fun scope _ => decide (scope = world.owner.scope))
                loggedOut := true } : SessionWorld).moveTo id
              ⟨call, .deleting result⟩ (.done result))
          else
            some (world.moveTo id ⟨call, .deleting result⟩ (.done (.error credentialStoreFailed)))
      | _ => none
  | .interrupt id interruption =>
      match world.tasks.get id with
      | some ⟨call, .sending attempt token⟩ =>
          some (world.moveTo id ⟨call, .sending attempt token⟩ (call.fail interruption.error))
      | some ⟨call, .replied attempt token reply⟩ =>
          some (world.moveTo id ⟨call, .replied attempt token reply⟩
            (call.fail interruption.error))
      | some ⟨call, .refreshing refreshToken⟩ =>
          some (world.moveTo id ⟨call, .refreshing refreshToken⟩ (call.fail interruption.error))
      | some ⟨call, .refreshed reply⟩ =>
          some (world.moveTo id ⟨call, .refreshed reply⟩ (call.fail interruption.error))
      | _ => none

end Step

end Lvos.Desktop
