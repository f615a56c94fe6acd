import Lvos.Lib.Transition
import Lvos.Storage.Outbox
import Lvos.System.Batch

set_option autoImplicit false

namespace Lvos.System

open Lvos.Core Lvos.Sync Lvos.Storage
open Transition (run run_keeps)

/-- Everything that writes to the tables of a Profile, with any arguments: the worker may
hold an event or an answer that is older than what the user did since. -/
inductive Operation
  | call (call : Call)
  | replaceDeviceIdentity (expectedCurrent replacement : Uuid) (now : Int)
  | acknowledgeEvents (acknowledged : List AcknowledgedEvent) (now : Int)
  | markRetry (events : List OutboxEvent) (nextRetryAt : Int) (error : String) (now : Int)
  | resolveConflict (event : OutboxEvent) (current : Option FavoriteRecord) (now : Int)
  | applyRemotePage (changes : List SyncChange) (nextRevision : Nat) (now : Int)

/-- A conflict is answered with the record of the content it is about. -/
def Operation.honest : Operation → Bool
  | .resolveConflict event current _ =>
      current.all (fun remote => remote.contentKey = event.contentKey.toHex)
  | _ => true

section Operations

variable [ContentTables] {db next : ProfileDb}

def Operation.perform (db : ProfileDb) : Operation → ProfileDb
  | .call asked => asked.perform db
  | .replaceDeviceIdentity expectedCurrent replacement now =>
      (Storage.replaceDeviceIdentity db expectedCurrent replacement now).1
  | .acknowledgeEvents acknowledged now => (Storage.acknowledgeEvents db acknowledged now).1
  | .markRetry events nextRetryAt error now => Storage.markRetry db events nextRetryAt error now
  | .resolveConflict event current now => (Storage.resolveConflict db event current now).1
  | .applyRemotePage changes nextRevision now =>
      (Storage.applyRemotePage db changes nextRevision now).1

/-- A step of a Profile with an honest server. -/
def operate (db : ProfileDb) (operation : Operation) : Option ProfileDb :=
  if operation.honest then some (operation.perform db) else none

theorem operate_some {operation : Operation} (performed : operate db operation = some next) :
    operation.honest = true ∧ next = operation.perform db := by
  unfold operate at performed
  split at performed
  · rename_i honest
    cases performed
    exact ⟨honest, rfl⟩
  · cases performed

theorem outboxInv_call (inv : OutboxInv db) (call : Call) : OutboxInv (call.perform db) := by
  have moves := call.moves db
  generalize call.perform db = performed at moves
  induction moves with
  | refl => exact inv
  | tail _ move ih => exact ih.localMove move call.ids (fun _ given => given)

theorem outboxInv_operate {operation : Operation} (inv : OutboxInv db)
    (performed : operate db operation = some next) : OutboxInv next := by
  obtain ⟨honest, rfl⟩ := operate_some performed
  cases operation with
  | call call => exact outboxInv_call inv call
  | replaceDeviceIdentity expectedCurrent replacement now =>
      exact inv.replaceDeviceIdentity expectedCurrent replacement now
  | acknowledgeEvents acknowledged now => exact inv.acknowledgeEvents acknowledged now
  | markRetry events nextRetryAt error now => exact inv.markRetry events nextRetryAt error now
  | resolveConflict event current now =>
      apply inv.resolveConflict now
      rintro remote rfl
      simpa [Operation.honest] using honest
  | applyRemotePage changes nextRevision now =>
      exact inv.applyRemotePage changes nextRevision now

/-- After any operations in any order, the Outbox has at most one intent and one statistics
row of a content, each under its own key, and an intent asks for the state the Favorite has
at the revision it has. -/
theorem outbox_represents {profileId : Uuid} {deviceId : String} {now : Int}
    {operations : List Operation}
    (reached : run operate (ProfileDb.initial profileId deviceId now) operations = some db) :
    Represents db := by
  have inv := run_keeps (fun _ _ _ holds performed => outboxInv_operate holds performed)
    (OutboxInv.initial profileId deviceId now) reached
  exact inv.represents

end Operations

section Witness

attribute [local instance] Sample.tables Sample.parser

/-- The identity the Profile gets after it was revoked. -/
def replacementDevice : Uuid := Sample.eventId 9

/-- The word is queried, favorited, queried again, and the Device replaced. -/
def replacedDesk : List Operation :=
  [.call (.query (Sample.gift 60) (Sample.eventId 1)),
    .call (.favorite Sample.giftKey 61 (Sample.eventId 2)),
    .call (.query (Sample.gift 62) (Sample.eventId 3)),
    .replaceDeviceIdentity (Sample.eventId 8) replacementDevice 63]

theorem outbox_represents_replaced : ∃ db,
    run operate (ProfileDb.initial (Sample.eventId 0) (Sample.eventId 8).text 50) replacedDesk =
      some db ∧
    (db.syncOutbox.get (.queryStats replacementDevice.text Sample.giftKey)).isSome = true ∧
    Represents db := by
  have facts : (run operate (ProfileDb.initial (Sample.eventId 0) (Sample.eventId 8).text 50)
      replacedDesk).any (fun db =>
        (db.syncOutbox.get (.queryStats replacementDevice.text Sample.giftKey)).isSome) = true := by
    decide
  obtain ⟨db, reached, moved⟩ := (Option.any_eq_true _ _).mp facts
  exact ⟨db, reached, moved, outbox_represents reached⟩

end Witness

end Lvos.System
