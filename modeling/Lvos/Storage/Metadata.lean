import Lvos.Storage.Profile

set_option autoImplicit false

namespace Lvos.Storage

open Lvos.Core

/-- The row of `profile_meta`. -/
structure ProfileMetadata where
  profileId : Uuid
  userId : Option Uuid
  username : Option String
  deviceId : Uuid
  platform : String
  serverOrigin : Option String
  lastServerRevision : Nat
  createdAt : Int
  updatedAt : Int
deriving DecidableEq

def isNil (id : Uuid) : Bool := id.bytes.all (fun byte => byte = 0)

def validateProfileMetadata (metadata : ProfileMetadata) : StorageResult Unit :=
  if isNil metadata.profileId then .error (.invalidIdentifier "profile")
  else if isNil metadata.deviceId then .error (.invalidIdentifier "device")
  else if metadata.platform ≠ "windows" ∧ metadata.platform ≠ "macos" then
    .error (.invalidData "unsupported platform")
  else .ok ()

/-- The row after the call; a database that has one keeps it as it is. -/
def upsertOrValidateProfile (existing : Option ProfileMetadata) (metadata : ProfileMetadata) :
    StorageResult ProfileMetadata :=
  match existing with
  | some row =>
      if row.profileId ≠ metadata.profileId ∨ row.deviceId ≠ metadata.deviceId then
        .error (.invalidData "Profile identity does not match its database")
      else .ok row
  | none =>
      match sqliteI64 metadata.lastServerRevision with
      | .error error => .error error
      | .ok _ => .ok metadata

/-- The part of `ProfileDatabase::open` about the row. -/
def openProfile (existing : Option ProfileMetadata) (metadata : ProfileMetadata) :
    StorageResult ProfileMetadata :=
  match validateProfileMetadata metadata with
  | .error error => .error error
  | .ok () => upsertOrValidateProfile existing metadata

def isUnbound (row : ProfileMetadata) : Bool := row.userId.isNone

/-- The columns that a login changes. -/
def withAccount (row : ProfileMetadata) (userId : Uuid) (username serverOrigin : String)
    (now : Int) : ProfileMetadata :=
  { row with
    userId := some userId
    username := some username
    serverOrigin := some serverOrigin
    updatedAt := now }

def updateAccountIdentity (row : ProfileMetadata) (userId : Uuid)
    (username serverOrigin : String) (now : Int) : StorageResult ProfileMetadata :=
  if row.userId ≠ some userId then .error (.invalidData "Profile User identity does not match")
  else .ok (withAccount row userId username serverOrigin now)

def bindUser (row : ProfileMetadata) (userId : Uuid) (username serverOrigin : String)
    (now : Int) : StorageResult ProfileMetadata :=
  if isNil userId then .error (.invalidIdentifier "user")
  else if row.userId.any (fun bound => bound ≠ userId) then
    .error (.invalidData "Profile is already bound to another User")
  else .ok (withAccount row userId username serverOrigin now)

/-- Opening a database that has a row never writes it. -/
theorem openProfile_existing {row metadata opened : ProfileMetadata}
    (result : openProfile (some row) metadata = .ok opened) : opened = row := by
  unfold openProfile at result
  split at result
  · cases result
  · simp only [upsertOrValidateProfile] at result
    split at result
    · cases result
    · cases result
      rfl

theorem openProfile_new {metadata opened : ProfileMetadata}
    (result : openProfile none metadata = .ok opened) :
    opened = metadata ∧ validateProfileMetadata metadata = .ok () := by
  unfold openProfile at result
  split at result
  · cases result
  · rename_i valid
    simp only [upsertOrValidateProfile] at result
    split at result
    · cases result
    · cases result
      exact ⟨rfl, valid⟩

/-- A row that was once inserted opens again under its own metadata. -/
theorem openProfile_own {row : ProfileMetadata} (valid : validateProfileMetadata row = .ok ()) :
    openProfile (some row) row = .ok row := by
  simp [openProfile, valid, upsertOrValidateProfile]

@[simp] theorem validate_withAccount (row : ProfileMetadata) (userId : Uuid)
    (username serverOrigin : String) (now : Int) :
    validateProfileMetadata (withAccount row userId username serverOrigin now) =
      validateProfileMetadata row := rfl

theorem bindUser_ok {row bound : ProfileMetadata} {userId : Uuid} {username origin : String}
    {now : Int} (result : bindUser row userId username origin now = .ok bound) :
    bound = withAccount row userId username origin now := by
  unfold bindUser at result
  split at result
  · cases result
  · split at result
    · cases result
    · cases result
      rfl

end Lvos.Storage
