import Lvos.Server.Auth

set_option autoImplicit false

namespace Lvos.Server

open Lvos.Core
open Relational (Table)

def maxUsernameBytes : Nat := 128

def maxPasswordBytes : Nat := 1024

def maxDeviceNameBytes : Nat := 128

structure LoginRequest where
  username : String
  password : String
  deviceId : String
  platform : String
  deviceName : Option String
deriving DecidableEq, Repr

def validateLoginRequest [UuidParser] (request : LoginRequest) : Except ApiError Unit :=
  if request.username = "" ∨ maxUsernameBytes < request.username.utf8ByteSize ∨
      request.password = "" ∨ maxPasswordBytes < request.password.utf8ByteSize ∨
      (∃ name ∈ request.deviceName, maxDeviceNameBytes < name.utf8ByteSize) then
    .error (.invalidRequest "login fields are invalid")
  else
    match validateDeviceId request.deviceId with
    | .error error => .error error
    | .ok _ =>
        if request.platform ≠ "windows" ∧ request.platform ≠ "macos" then
          .error (.invalidRequest "platform must be windows or macos")
        else .ok ()

theorem validateDeviceId_ok [UuidParser] {deviceId : String}
    (allowed : validateDeviceId deviceId = .ok ()) : ∃ id, parseStr deviceId = some id := by
  unfold validateDeviceId at allowed
  split at allowed
  · cases allowed
  · rename_i id parsed
    exact ⟨id, parsed⟩

theorem validateLoginRequest_ok [UuidParser] {request : LoginRequest}
    (allowed : validateLoginRequest request = .ok ()) :
    ∃ id, parseStr request.deviceId = some id := by
  unfold validateLoginRequest at allowed
  split at allowed
  · cases allowed
  · split at allowed
    · cases allowed
    · rename_i checked
      exact validateDeviceId_ok checked

structure UserCredential where
  userId : String
  username : String
  passwordHash : String
  disabled : Bool
deriving DecidableEq, Repr

/-- Argon2's check of a password against an encoded hash. -/
class PasswordVerifier where
  verifyPassword : String → String → Bool

export PasswordVerifier (verifyPassword)

/-- The account a login may open a session for; an unknown one is verified against
the dummy hash. -/
def acceptedUser [PasswordVerifier] (dummyPasswordHash password : String)
    (user : Option UserCredential) : Option UserCredential :=
  let verificationHash := (user.map UserCredential.passwordHash).getD dummyPasswordHash
  let passwordValid := verifyPassword password verificationHash
  user.filter (fun user => passwordValid && !user.disabled)

structure AttemptBucket where
  failures : Nat
  windowStartedAt : Int
deriving DecidableEq, Repr

abbrev LoginRateLimiter := Table String AttemptBucket

/-- The settings of the limiter; `ServerConfig::validate` refuses to start otherwise. -/
structure LoginLimits where
  maxFailures : Nat
  windowSeconds : Int
  failuresPositive : 0 < maxFailures
  failuresU32 : maxFailures < 2 ^ 32
  windowPositive : 0 < windowSeconds

namespace LoginRateLimiter

/-- A bucket whose window is over is removed by the check that finds it. -/
def isBlocked (attempts : LoginRateLimiter) (username : String) (now : Int)
    (maxFailures : Nat) (windowSeconds : Int) : LoginRateLimiter × Bool :=
  match attempts.get username with
  | none => (attempts, false)
  | some bucket =>
      if windowSeconds ≤ now - bucket.windowStartedAt then
        (Table.delete attempts (fun key _ => decide (key = username)), false)
      else (attempts, decide (maxFailures ≤ bucket.failures))

/-- The bucket after one more failure; `failures` is a `u32` that saturates. -/
def failedBucket (found : Option AttemptBucket) (now windowSeconds : Int) : AttemptBucket :=
  let bucket := found.getD ⟨0, now⟩
  let bucket := if windowSeconds ≤ now - bucket.windowStartedAt then ⟨0, now⟩ else bucket
  { bucket with failures := min (bucket.failures + 1) (2 ^ 32 - 1) }

def recordFailure (attempts : LoginRateLimiter) (username : String) (now windowSeconds : Int) :
    LoginRateLimiter :=
  Table.put attempts username (failedBucket (attempts.get username) now windowSeconds)

def clear (attempts : LoginRateLimiter) (username : String) : LoginRateLimiter :=
  Table.delete attempts (fun key _ => decide (key = username))

end LoginRateLimiter

end Lvos.Server
