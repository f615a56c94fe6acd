import Lvos.Lib.Saga
import Lvos.Storage.DeviceIdentity

set_option autoImplicit false

namespace Lvos.Desktop

open Lvos.Core Lvos.Storage
open Relational (Table)

/-! The replacement of a revoked Device across the installation file and the Profile files. -/

inductive Platform
  | windows
  | macos
deriving DecidableEq, Repr

structure InstallationMetadata where
  deviceId : Uuid
  platform : Platform
  deviceName : String
deriving DecidableEq

inductive InstallationError
  | io
  | invalidData (message : String)
deriving DecidableEq, Repr

inductive DatabaseWorkerError
  | io
  | storage (error : StorageError)
deriving DecidableEq, Repr

inductive DeviceIdentityError
  | confirmationRequired
  | database (error : DatabaseWorkerError)
  | storage (error : InstallationError)
  | credentialStore
deriving DecidableEq, Repr

/-- A Profile database under its path. -/
structure ProfileFile where
  path : String
  db : ProfileDb
deriving DecidableEq

/-- The data root: `installation.json`, and the Profile files in the order of their paths. -/
structure DataRoot where
  installation : Option InstallationMetadata
  profiles : List ProfileFile
deriving DecidableEq

/-- What the file system and the credential store answer while the identity is replaced: whether
`installation.json` can be read, created, read again and written, the metadata rows be read, the
directory be listed and a Profile file be opened, for the step and for its compensation. -/
structure Disk where
  reads : Bool
  creates : Bool
  rereads : Bool
  persists : Bool
  inspects : Bool
  lists : Bool
  opens : String → Bool
  relists : Bool
  reopens : String → Bool
  clears : Bool

/-- `replace_device_identity_at`: a file that cannot be opened keeps its tables. -/
def replaceDeviceIdentityAt (opens : String → Bool) (expectedCurrent replacement : Uuid)
    (now : Int) (file : ProfileFile) : ProfileFile × StorageResult Unit :=
  if opens file.path then
    ({ file with db := (replaceDeviceIdentity file.db expectedCurrent replacement now).1 },
      (replaceDeviceIdentity file.db expectedCurrent replacement now).2)
  else (file, .error .sqlite)

/-- The job of `replace_profile_device_identity`: a file after the other, and the files changed
before a failure with the identities exchanged. -/
def replaceProfileDeviceIdentity (lists : Bool) (opens reopens : String → Bool)
    (expectedCurrent replacement : Uuid) (now : Int) (profiles : List ProfileFile) :
    List ProfileFile × Except DatabaseWorkerError Unit :=
  if lists then
    match Saga.attempt (replaceDeviceIdentityAt opens expectedCurrent replacement now)
        (replaceDeviceIdentityAt reopens replacement expectedCurrent now) profiles with
    | (profiles, .ok ()) => (profiles, .ok ())
    | (profiles, .error reason) => (profiles, .error (.storage reason))
  else (profiles, .error .io)

def validateMetadata (metadata : InstallationMetadata) : Except InstallationError Unit :=
  if isNil metadata.deviceId then .error (.invalidData "device id is nil")
  else if trim metadata.deviceName.toList = [] then .error (.invalidData "device name is empty")
  else .ok ()

/-- Reads `installation.json`, or creates it on first use with a fresh id. -/
def loadOrCreate (disk : Disk) (stored : Option InstallationMetadata) (fresh : Uuid)
    (platform : Platform) (deviceName : String) :
    Option InstallationMetadata × Except InstallationError InstallationMetadata :=
  match stored with
  | some metadata =>
      if disk.reads then
        match validateMetadata metadata with
        | .error reason => (stored, .error reason)
        | .ok () => (stored, .ok metadata)
      else (stored, .error .io)
  | none =>
      if trim deviceName.toList = [] then (none, .error (.invalidData "device name is empty"))
      else
        let metadata : InstallationMetadata :=
          ⟨fresh, platform, String.ofList (trim deviceName.toList)⟩
        if disk.creates then (some metadata, .ok metadata) else (none, .error .io)

/-- The metadata `installation.json` holds afterwards. -/
def replaceRevokedIdentity (disk : Disk) (stored : Option InstallationMetadata)
    (expectedCurrent replacement : Uuid) : Except InstallationError InstallationMetadata :=
  if isNil replacement ∨ replacement = expectedCurrent then
    .error (.invalidData "replacement device identity is invalid")
  else
    match stored.filter (fun _ => disk.rereads) with
    | none => .error .io
    | some metadata =>
        match validateMetadata metadata with
        | .error reason => .error reason
        | .ok () =>
            if metadata.deviceId ≠ expectedCurrent then
              .error (.invalidData "installation device identity changed")
            else if disk.persists then .ok { metadata with deviceId := replacement }
            else .error .io

/-- Generates a new permanent Device only after explicit confirmation. The ids are the ones
`Uuid::new_v4` draws. -/
def regenerateAfterRevocation (disk : Disk) (root : DataRoot) (fresh replacement : Uuid)
    (confirmed : Bool) (platform : Platform) (deviceName : String) (now : Int) :
    DataRoot × Except DeviceIdentityError InstallationMetadata :=
  if confirmed then
    match loadOrCreate disk root.installation fresh platform deviceName with
    | (_, .error reason) => (root, .error (.storage reason))
    | (installation, .ok current) =>
        if disk.inspects then
          match replaceProfileDeviceIdentity disk.lists disk.opens disk.reopens current.deviceId
              replacement now root.profiles with
          | (profiles, .error reason) => (⟨installation, profiles⟩, .error (.database reason))
          | (profiles, .ok ()) =>
              match replaceRevokedIdentity disk installation current.deviceId replacement with
              | .error reason =>
                  (⟨installation, (replaceProfileDeviceIdentity disk.relists disk.reopens
                    disk.reopens replacement current.deviceId now profiles).1⟩,
                    .error (.storage reason))
              | .ok metadata =>
                  (⟨some metadata, profiles⟩,
                    if disk.clears then .ok metadata else .error .credentialStore)
        else (⟨installation, root.profiles⟩, .error (.database .io))
  else (root, .error .confirmationRequired)

end Lvos.Desktop
