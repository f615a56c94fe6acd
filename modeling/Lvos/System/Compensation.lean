import Lvos.Desktop.DeviceIdentity
import Lvos.System.Replacements

set_option autoImplicit false

namespace Lvos.System

open Lvos.Core Lvos.Storage
open Lvos.Desktop (Disk DataRoot ProfileFile Platform InstallationMetadata replaceDeviceIdentityAt
  replaceProfileDeviceIdentity loadOrCreate regenerateAfterRevocation)
open Transition (run)

/-! A replacement of the identity that fails, and the Profile files it leaves. -/

/-- The file is where it was, and its tables are as before. -/
def Kept (before after : ProfileFile) : Prop :=
  after.path = before.path ∧ Unaltered before.db after.db

/-- The files that are changed before the replacement fails. -/
def changedFiles (disk : Disk) (current replacement : Uuid) (now : Int)
    (profiles : List ProfileFile) : List ProfileFile :=
  if disk.lists then
    Saga.reached (replaceDeviceIdentityAt disk.opens current replacement now) profiles
  else []

/-- Every compensating call succeeds on the file that the step left. -/
def Compensated (disk : Disk) (current replacement : Uuid) (now : Int)
    (profiles : List ProfileFile) : Prop :=
  ∀ file ∈ changedFiles disk current replacement now profiles,
    (replaceDeviceIdentityAt disk.reopens replacement current now
      (replaceDeviceIdentityAt disk.opens current replacement now file).1).2 = .ok ()

instance (disk : Disk) (current replacement : Uuid) (now : Int) (profiles : List ProfileFile) :
    Decidable (Compensated disk current replacement now profiles) :=
  inferInstanceAs (Decidable (∀ file ∈ _, _))

/-- The regeneration gets as far as the Profile files, with the Device that is installed. -/
structure Attempts (disk : Disk) (root : DataRoot) (fresh : Uuid) (confirmed : Bool)
    (platform : Platform) (deviceName : String) (current : InstallationMetadata) : Prop where
  confirmed : confirmed = true
  loaded : (loadOrCreate disk root.installation fresh platform deviceName).2 = .ok current
  inspected : disk.inspects = true

section Files

variable {opens reopens : String → Bool} {current replacement : Uuid} {now : Int}
  {profiles after : List ProfileFile} {file : ProfileFile}

theorem Kept.refl (file : ProfileFile) : Kept file file := ⟨rfl, Unaltered.refl file.db⟩

theorem replaceDeviceIdentityAt_cases (opens : String → Bool) (current replacement : Uuid)
    (now : Int) (file : ProfileFile) :
    (∃ reason, replaceDeviceIdentityAt opens current replacement now file =
        (file, .error reason)) ∨
      ∃ next, replaceDeviceIdentityAt opens current replacement now file =
          ({ file with db := next }, .ok ()) ∧
        Replaced file.db next current replacement now := by
  unfold replaceDeviceIdentityAt
  split
  · rcases replaceDeviceIdentity_cases file.db current replacement now with
      ⟨reason, same⟩ | ⟨next, same, replaced⟩
    · exact Or.inl ⟨reason, by rw [same]⟩
    · exact Or.inr ⟨next, by rw [same], replaced⟩
  · exact Or.inl ⟨.sqlite, rfl⟩

theorem accepts_iff {step : ProfileFile → ProfileFile × StorageResult Unit} :
    Saga.accepts step file = true ↔ (step file).2 = .ok () := by
  unfold Saga.accepts
  cases (step file).2 with
  | error reason => simp [Except.toBool]
  | ok value => simp [Except.toBool]

/-- One file: the step and its compensation. -/
theorem kept_iff
    (moved : (replaceDeviceIdentityAt opens current replacement now file).2 = .ok ())
    (undone : (replaceDeviceIdentityAt reopens replacement current now
      (replaceDeviceIdentityAt opens current replacement now file).1).2 = .ok ()) :
    Kept file (replaceDeviceIdentityAt reopens replacement current now
      (replaceDeviceIdentityAt opens current replacement now file).1).1 ↔ Restorable file.db := by
  rcases replaceDeviceIdentityAt_cases opens current replacement now file with
    ⟨reason, failed⟩ | ⟨middle, stepped, replaced⟩
  · rw [failed] at moved
    cases moved
  · rw [stepped] at undone ⊢
    rcases replaceDeviceIdentityAt_cases reopens replacement current now
        { file with db := middle } with ⟨reason, failed⟩ | ⟨next, back, restored⟩
    · rw [failed] at undone
      cases undone
    · rw [back]
      exact (and_iff_right rfl).trans (replaced.unaltered_iff restored)

theorem forall₂_kept (changed : ProfileFile → ProfileFile) :
    List.Forall₂ Kept profiles (profiles.map changed) ↔
      ∀ file ∈ profiles, Kept file (changed file) := by
  rw [List.forall₂_map_right_iff, List.forall₂_same]

end Files

section Calls

variable {disk : Disk} {current replacement : Uuid} {now : Int} {profiles : List ProfileFile}

/-- `replace_profile_device_identity` fails, and restores what can be restored. -/
theorem replaceProfiles_kept {reason : Desktop.DatabaseWorkerError}
    (failed : (replaceProfileDeviceIdentity disk.lists disk.opens disk.reopens current replacement
      now profiles).2 = .error reason)
    (compensated : Compensated disk current replacement now profiles) :
    List.Forall₂ Kept profiles (replaceProfileDeviceIdentity disk.lists disk.opens disk.reopens
        current replacement now profiles).1 ↔
      ∀ file ∈ changedFiles disk current replacement now profiles, Restorable file.db := by
  unfold replaceProfileDeviceIdentity at failed ⊢
  unfold Compensated at compensated
  unfold changedFiles at compensated ⊢
  split at failed
  · rename_i lists
    rw [if_pos lists] at compensated
    rw [if_pos lists, if_pos lists]
    split at failed
    · cases failed
    · rename_i after why stopped
      refine Saga.attempt_restores (fun file left reason refused => ?_)
        (fun file moved undone => kept_iff (accepts_iff.mp moved) (accepts_iff.mp undone))
        Kept.refl stopped (fun file member => accepts_iff.mpr (compensated file member))
      rcases replaceDeviceIdentityAt_cases disk.opens current replacement now file with
        ⟨other, same⟩ | ⟨next, stepped, -⟩
      · rw [same] at refused
        cases refused
        exact Kept.refl file
      · rw [stepped] at refused
        cases refused
  · rename_i unlisted
    rw [if_neg unlisted, if_neg unlisted]
    simp [List.forall₂_same, Kept.refl]

/-- It succeeds, and is called again with the identities exchanged. -/
theorem replaceProfiles_undone {after : List ProfileFile}
    (success : replaceProfileDeviceIdentity disk.lists disk.opens disk.reopens current replacement
      now profiles = (after, .ok ()))
    (compensated : Compensated disk current replacement now profiles)
    (listed : disk.relists = true) :
    List.Forall₂ Kept profiles (replaceProfileDeviceIdentity disk.relists disk.reopens disk.reopens
        replacement current now after).1 ↔
      ∀ file ∈ changedFiles disk current replacement now profiles, Restorable file.db := by
  unfold replaceProfileDeviceIdentity at success
  unfold Compensated at compensated
  unfold changedFiles at compensated ⊢
  split at success
  · rename_i lists
    rw [if_pos lists] at compensated
    rw [if_pos lists]
    split at success
    · rename_i done moved
      cases success
      obtain ⟨whole, mapped⟩ := Saga.attempt_ok moved
      rw [whole] at compensated ⊢
      have back : ∀ file ∈ after, Saga.accepts
          (replaceDeviceIdentityAt disk.reopens replacement current now) file = true := by
        intro file member
        rw [mapped] at member
        obtain ⟨before, inside, rfl⟩ := List.mem_map.mp member
        exact accepts_iff.mpr (compensated before inside)
      unfold replaceProfileDeviceIdentity
      rw [if_pos listed, Saga.attempt_of_accepts back, mapped]
      dsimp only
      rw [List.map_map, forall₂_kept]
      apply forall₂_congr
      intro file member
      have moved := Saga.accepted_of_reached whole file member
      exact kept_iff (accepts_iff.mp moved) (compensated file member)
    · cases success
  · cases success

end Calls

section Regeneration

variable {disk : Disk} {root : DataRoot} {fresh replacement : Uuid} {confirmed : Bool}
  {platform : Platform} {deviceName : String} {now : Int} {reason : Desktop.DeviceIdentityError}
  {current other : InstallationMetadata}

theorem Attempts.unique
    (first : Attempts disk root fresh confirmed platform deviceName current)
    (second : Attempts disk root fresh confirmed platform deviceName other) :
    other = current := by
  have same := first.loaded.symm.trans second.loaded
  cases same
  rfl

/-- The three ways to fail before the new identity is durable. -/
theorem regenerate_failed
    (failed : (regenerateAfterRevocation disk root fresh replacement confirmed platform deviceName
      now).2 = .error reason) (durable : reason ≠ .credentialStore) :
    ((∀ current, ¬ Attempts disk root fresh confirmed platform deviceName current) ∧
      (regenerateAfterRevocation disk root fresh replacement confirmed platform deviceName
        now).1.profiles = root.profiles) ∨
    ∃ current, Attempts disk root fresh confirmed platform deviceName current ∧
      ((∃ why, (replaceProfileDeviceIdentity disk.lists disk.opens disk.reopens current.deviceId
          replacement now root.profiles).2 = .error why ∧
        (regenerateAfterRevocation disk root fresh replacement confirmed platform deviceName
          now).1.profiles = (replaceProfileDeviceIdentity disk.lists disk.opens disk.reopens
            current.deviceId replacement now root.profiles).1) ∨
      ∃ after, replaceProfileDeviceIdentity disk.lists disk.opens disk.reopens current.deviceId
          replacement now root.profiles = (after, .ok ()) ∧
        (regenerateAfterRevocation disk root fresh replacement confirmed platform deviceName
          now).1.profiles = (replaceProfileDeviceIdentity disk.relists disk.reopens disk.reopens
            replacement current.deviceId now after).1) := by
  unfold regenerateAfterRevocation at failed ⊢
  split at failed
  · rename_i asked
    rw [if_pos asked]
    split at failed
    · rename_i installation why unloaded
      refine Or.inl ⟨fun current attempts => ?_, rfl⟩
      have loaded := attempts.loaded
      rw [unloaded] at loaded
      cases loaded
    · rename_i installation current loaded
      split at failed
      · rename_i inspected
        refine Or.inr ⟨current, ⟨asked, by rw [loaded], inspected⟩, ?_⟩
        rw [if_pos inspected]
        split at failed
        · rename_i after why stopped
          exact Or.inl ⟨why, by rw [stopped], by rw [stopped]⟩
        · rename_i after moved
          refine Or.inr ⟨after, moved, ?_⟩
          split at failed
          · rfl
          · split at failed
            · cases failed
            · cases failed
              exact absurd rfl durable
      · rename_i uninspected
        refine Or.inl ⟨fun current attempts => uninspected attempts.inspected, ?_⟩
        rw [if_neg uninspected]
  · rename_i unasked
    refine Or.inl ⟨fun current attempts => unasked attempts.confirmed, ?_⟩
    rw [if_neg unasked]

end Regeneration

/-- Wherever a replacement fails before the new identity is durable, with every compensating call
successful, the Profiles are as before when no Device count of a changed one was synchronized:
the counts that were are taken off on the way and not put back. -/
theorem failed_replacement_kept (disk : Disk) (now : Int) :
    (∀ profiles current replacement reason,
      (replaceProfileDeviceIdentity disk.lists disk.opens disk.reopens current replacement now
        profiles).2 = .error reason →
      Compensated disk current replacement now profiles →
      (List.Forall₂ Kept profiles (replaceProfileDeviceIdentity disk.lists disk.opens disk.reopens
          current replacement now profiles).1 ↔
        ∀ file ∈ changedFiles disk current replacement now profiles, Restorable file.db)) ∧
    (∀ root fresh replacement confirmed platform deviceName reason,
      (regenerateAfterRevocation disk root fresh replacement confirmed platform deviceName
        now).2 = .error reason → reason ≠ .credentialStore →
      (∀ current, Attempts disk root fresh confirmed platform deviceName current →
        Compensated disk current.deviceId replacement now root.profiles ∧ disk.relists = true) →
      (List.Forall₂ Kept root.profiles (regenerateAfterRevocation disk root fresh replacement
          confirmed platform deviceName now).1.profiles ↔
        ∀ current, Attempts disk root fresh confirmed platform deviceName current →
          ∀ file ∈ changedFiles disk current.deviceId replacement now root.profiles,
            Restorable file.db)) ∧
    ∀ issued db, Shape issued db → OwnStats db → (Restorable db ↔
      ∀ key stats, db.queryStats.get key = some stats → stats.lastSyncedDeviceQueryCount = 0) := by
  refine ⟨fun _ _ _ _ => replaceProfiles_kept, ?_, fun _ _ => restorable_iff⟩
  intro root fresh replacement confirmed platform deviceName reason failed durable compensated
  rcases regenerate_failed failed durable with ⟨none, same⟩ | ⟨current, attempts, outcome⟩
  · rw [same]
    refine iff_of_true (List.forall₂_same.mpr (fun file _ => Kept.refl file)) ?_
    intro current attempts
    exact absurd attempts (none current)
  · have only : (∀ other, Attempts disk root fresh confirmed platform deviceName other →
        ∀ file ∈ changedFiles disk other.deviceId replacement now root.profiles,
          Restorable file.db) ↔
        ∀ file ∈ changedFiles disk current.deviceId replacement now root.profiles,
          Restorable file.db := by
      constructor
      · exact fun each => each current attempts
      · rintro here other another
        rw [attempts.unique another]
        exact here
    obtain ⟨restored, listed⟩ := compensated current attempts
    rw [only]
    rcases outcome with ⟨why, stopped, same⟩ | ⟨after, moved, same⟩
    · rw [same]
      exact replaceProfiles_kept stopped restored
    · rw [same]
      exact replaceProfiles_undone moved restored listed

section Witness

attribute [local instance] Sample.tables Sample.parser

/-- Every file can be read, but `installation.json` not be written again. -/
def fullDisk : Disk :=
  ⟨true, true, true, false, true, true, fun _ => true, true, fun _ => true, true⟩

def deskRoot (profile : ProfileDb) : DataRoot :=
  ⟨some ⟨Sample.eventId 8, .macos, "Desk"⟩, [⟨"profile-desk.sqlite3", profile⟩]⟩

def regenerateDesk (profile : ProfileDb) :
    DataRoot × Except Desktop.DeviceIdentityError InstallationMetadata :=
  regenerateAfterRevocation fullDisk (deskRoot profile) (Sample.eventId 0) (Sample.eventId 9) true
    .macos "Desk" 65

/-- The word is queried and favorited, and nothing is pushed yet. -/
def unreportedDesk : List DeviceAction := reportedDesk.take 2

theorem attempts_desk {profile : ProfileDb} {current : InstallationMetadata}
    (attempts : Attempts fullDisk (deskRoot profile) (Sample.eventId 0) true .macos "Desk"
      current) : current = ⟨Sample.eventId 8, .macos, "Desk"⟩ := by
  have loaded : (loadOrCreate fullDisk (some ⟨Sample.eventId 8, .macos, "Desk"⟩)
      (Sample.eventId 0) .macos "Desk").2 = .ok ⟨Sample.eventId 8, .macos, "Desk"⟩ := by
    decide
  have same := attempts.loaded.symm.trans loaded
  cases same
  rfl

theorem failed_replacement_kept_unreported : ∃ client,
    run deviceStep ⟨ProfileDb.initial (Sample.eventId 0) (Sample.eventId 8).text 50, .idle⟩
      unreportedDesk = some client ∧
    (regenerateDesk client.profile).2 = .error (.storage .io) ∧
    List.Forall₂ Kept (deskRoot client.profile).profiles
      (regenerateDesk client.profile).1.profiles := by
  have facts : (run deviceStep
      ⟨ProfileDb.initial (Sample.eventId 0) (Sample.eventId 8).text 50, .idle⟩
      unreportedDesk).any (fun client => decide
        ((regenerateDesk client.profile).2 = .error (.storage .io) ∧
          Compensated fullDisk (Sample.eventId 8) (Sample.eventId 9) 65
            (deskRoot client.profile).profiles ∧ Restorable client.profile)) = true := by
    decide
  obtain ⟨client, reached, shown⟩ := (Option.any_eq_true _ _).mp facts
  obtain ⟨failed, compensated, restorable⟩ := of_decide_eq_true shown
  refine ⟨client, reached, failed, ?_⟩
  refine ((failed_replacement_kept fullDisk 65).2.1 (deskRoot client.profile) (Sample.eventId 0)
    (Sample.eventId 9) true .macos "Desk" _ failed (by simp) ?_).mpr ?_
  · intro current attempts
    rw [attempts_desk attempts]
    exact ⟨compensated, rfl⟩
  · intro current attempts file member
    have listed : file ∈ (deskRoot client.profile).profiles :=
      List.takeWhile_subset _ member
    rw [deskRoot, List.mem_singleton] at listed
    rw [listed]
    exact restorable

/-- One count was pushed before: the compensation leaves one of the two that were there. -/
theorem failed_replacement_forgets : ∃ client,
    run deviceStep ⟨ProfileDb.initial (Sample.eventId 0) (Sample.eventId 8).text 50, .idle⟩
      reportedDesk = some client ∧
    (regenerateDesk client.profile).2 = .error (.storage .io) ∧
    Compensated fullDisk (Sample.eventId 8) (Sample.eventId 9) 65
      (deskRoot client.profile).profiles ∧
    (deskRoot client.profile).profiles.map (fun file =>
      (file.db.queryStats.get Sample.giftKey).map QueryStats.deviceQueryCount) = [some 2] ∧
    (regenerateDesk client.profile).1.profiles.map (fun file =>
      (file.db.queryStats.get Sample.giftKey).map QueryStats.deviceQueryCount) = [some 1] := by
  have facts : (run deviceStep
      ⟨ProfileDb.initial (Sample.eventId 0) (Sample.eventId 8).text 50, .idle⟩
      reportedDesk).any (fun client => decide
        ((regenerateDesk client.profile).2 = .error (.storage .io) ∧
          Compensated fullDisk (Sample.eventId 8) (Sample.eventId 9) 65
            (deskRoot client.profile).profiles ∧
          (deskRoot client.profile).profiles.map (fun file =>
            (file.db.queryStats.get Sample.giftKey).map QueryStats.deviceQueryCount) = [some 2] ∧
          (regenerateDesk client.profile).1.profiles.map (fun file =>
            (file.db.queryStats.get Sample.giftKey).map QueryStats.deviceQueryCount) =
              [some 1])) = true := by
    decide
  obtain ⟨client, reached, shown⟩ := (Option.any_eq_true _ _).mp facts
  exact ⟨client, reached, of_decide_eq_true shown⟩

end Witness

end Lvos.System
