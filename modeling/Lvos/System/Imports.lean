import Lvos.Storage.Imports
import Lvos.System.Exports
import Lvos.System.KnownContent

set_option autoImplicit false

namespace Lvos.System

open Lvos.Core Lvos.Sync Lvos.Storage
open Relational (Table)
open Transaction (bind_ok_iff toOption_eq_some_iff)

/-! Imports into a Profile after any operations. -/

section Operations

variable [ContentTables] {db next : ProfileDb}

theorem call_ready (ready : ImportReady db) (call : Call) :
    ImportReady (call.perform db) := by
  by_cases direct : ∀ document now eventIds, call ≠ .importData document now eventIds
  · obtain ⟨asked, unarchived⟩ := Call.input_bare direct
    have moves := call.moves db
    generalize call.perform db = performed at moves
    induction moves with
    | refl => exact ready
    | tail _ move ih => exact ih.localMove move asked unarchived
  · push Not at direct
    obtain ⟨document, now, eventIds, rfl⟩ := direct
    show ImportReady (importPortable db document now eventIds)
    unfold importPortable
    split
    · exact applyPortableImport_ready ready _ now eventIds
    · exact ready

theorem Operation.ready (ready : ImportReady db) (operation : Operation) :
    ImportReady (operation.perform db) := by
  cases operation with
  | call asked => exact call_ready ready asked
  | replaceDeviceIdentity expectedCurrent replacement now =>
      exact replaceDeviceIdentity_ready ready expectedCurrent replacement now
  | acknowledgeEvents acknowledged now => exact acknowledgeEvents_ready ready acknowledged now
  | markRetry events nextRetryAt error now =>
      exact markRetry_ready ready events nextRetryAt error now
  | resolveConflict event current now => exact resolveConflict_ready ready event current now
  | applyRemotePage changes nextRevision now =>
      exact applyRemotePage_ready ready changes nextRevision now

/-- After any operations in any order, whatever the server answers, a Profile is ready. -/
theorem ready_of_reached {profileId : Uuid} {deviceId : String} {created : Int} :
    ∀ {operations : List Operation},
      operations.foldl Operation.perform (ProfileDb.initial profileId deviceId created) = db →
      ImportReady db := by
  suffices kept : ∀ (operations : List Operation) (first : ProfileDb), ImportReady first →
      ImportReady (operations.foldl Operation.perform first) by
    rintro operations rfl
    refine kept operations _ ⟨?_, ?_⟩
    · intro key here
      cases here
    · intro key row stored
      cases stored
  intro operations
  induction operations with
  | nil => exact fun first ready => ready
  | cons operation rest ih => exact fun first ready => ih _ (operation.ready ready)

/-- What a preview has accepted. -/
theorem previewPortableImport_ok {json : PortableJson} {bytes : List UInt8}
    {plan : PreviewedImport} (previewed : previewPortableImport json db bytes = .ok plan) :
    ∃ document preview, validateExport document = .ok plan.document ∧
      previewMerge db plan.document = .ok preview ∧
      plan = ⟨⟨db.profileMeta.profileId, plan.document⟩, preview⟩ := by
  unfold previewPortableImport at previewed
  split at previewed
  · cases previewed
  · split at previewed
    · cases previewed
    · split at previewed
      · cases previewed
      · rename_i document decoded
        obtain ⟨validated, valid, afterValid⟩ := bind_ok_iff.mp previewed
        obtain ⟨preview, merged, same⟩ := bind_ok_iff.mp afterValid
        cases same
        exact ⟨document, preview, valid, merged, rfl⟩

variable {profileId : Uuid} {deviceId : String} {created : Int} {operations : List Operation}

/-- The import of accepted bytes succeeds with the counters its preview has announced. The ids
that the import generates are new. -/
theorem import_announced
    (reached : operations.foldl Operation.perform (ProfileDb.initial profileId deviceId created) =
      db)
    {json : PortableJson} {bytes : List UInt8} {plan : PreviewedImport}
    (previewed : previewPortableImport json db bytes = .ok plan) (now : Int)
    {eventIds : ContentKey → Uuid} (fresh : FreshIds db plan.document eventIds) :
    ∃ next, applyPortableImport db plan.toPortableImportPlan now eventIds =
      (next, .ok plan.preview) := by
  obtain ⟨document, preview, valid, merged, same⟩ := previewPortableImport_ok previewed
  rw [same]
  exact applyPortableImport_announced (ready_of_reached reached) (.of_validated valid) fresh merged

/-- What this Device counts of a content; nothing where it has no statistics. -/
def deviceCount (db : ProfileDb) (key : ContentKey) : Nat :=
  ((db.queryStats.get key).map QueryStats.deviceQueryCount).getD 0

omit [ContentTables] in
theorem deviceCount_conserved {next : ProfileDb} (conserves : Conserves db next)
    (key : ContentKey) : deviceCount next key ≤ deviceCount db key := by
  unfold deviceCount
  cases found : next.queryStats.get key with
  | none => exact Nat.zero_le _
  | some stats =>
      rcases conserves.counts key stats found with same | zero
      · rw [same]
      · rw [Option.map_some, Option.getD_some, zero]
        exact Nat.zero_le _

/-- An import that is applied twice has been applied once, and the first application leaves the
active Favorites, the statistics and the later of two history entries; when it fails it has
changed nothing. -/
theorem import_idempotent
    (reached : operations.foldl Operation.perform (ProfileDb.initial profileId deviceId created) =
      db)
    {document : PortableDataExport} {validated : ValidatedExport}
    (valid : validateExport document = .ok validated) (targetProfileId : Uuid) (now : Int)
    {eventIds : ContentKey → Uuid} (fresh : FreshIds db validated eventIds)
    {next : ProfileDb} {outcome : PortableResult PortableImportResult}
    (applied : applyPortableImport db ⟨targetProfileId, validated⟩ now eventIds = (next, outcome)) :
    (∀ later otherIds,
      (applyPortableImport next ⟨targetProfileId, validated⟩ later otherIds).1 = next) ∧
    (∀ key row, db.favorites.get key = some row → row.deletedAt = none →
      next.favorites.get key = some row) ∧
    (∀ key entry, db.historyEntries.get key = some entry →
      ∃ newer, next.historyEntries.get key = some newer ∧
        entry.lastQueriedAt ≤ newer.lastQueriedAt) ∧
    (∀ key stats, db.queryStats.get key = some stats → next.queryStats.get key = some stats) ∧
    (∀ key, deviceCount next key ≤ deviceCount db key) ∧
    (∀ reason, outcome = .error reason → next = db) := by
  have conserves := applyPortableImport_conserves db ⟨targetProfileId, validated⟩ now eventIds
  rw [applied] at conserves
  have unchanged : ∀ reason, outcome = .error reason → next = db := by
    rintro reason rfl
    rcases applyPortableImport_turns db ⟨targetProfileId, validated⟩ now eventIds with
      ⟨other, same⟩ | ⟨middle, last, result, same, -⟩
    · rw [applied] at same
      exact congrArg Prod.fst same
    · rw [applied] at same
      cases same
  refine ⟨?_, conserves.active, conserves.history, conserves.stats,
    deviceCount_conserved conserves, unchanged⟩
  intro later otherIds
  cases outcome with
  | ok result => exact applyPortableImport_again applied later otherIds
  | error reason =>
      obtain rfl := unchanged reason rfl
      obtain ⟨other, failed⟩ := applyPortableImport_fails (ready_of_reached reached)
        (.of_validated valid) fresh (congrArg Prod.snd applied) later otherIds
      rw [failed]

end Operations

section Concrete

attribute [local instance] Sample.tables Sample.parser

/-- The word is looked up, favorited and taken off the Favorites again. -/
def dropped : List Operation :=
  [.call (.query (lookedUp "gift" "礼物" 60) (Sample.eventId 1)),
    .call (.favorite Sample.giftKey 61 (Sample.eventId 2)),
    .call (.unfavorite Sample.giftKey 63 (Sample.eventId 3))]

def droppedProfile : ProfileDb :=
  dropped.foldl Operation.perform (ProfileDb.initial (Sample.eventId 4) "phone" 50)

/-- The import of a Profile that has kept the word, and has looked it up again: the history is
updated and the Favorite reactivated. -/
theorem droppedProfile_facts : ∃ document validated,
    exportDocument (lookedUpTwice "gift" "礼物") (some "user") = .ok document ∧
    ((lookedUpJson "gift" "礼物").toVecPretty document).length ≤ maxPortableJsonBytes ∧
    validateExport document = .ok validated ∧
    previewMerge droppedProfile validated = .ok ⟨0, 1, 0, 0, 1, 0, 0, 1⟩ ∧
    FreshIds droppedProfile validated (fun _ => Sample.eventId 5) := by
  have facts : (exportDocument (lookedUpTwice "gift" "礼物") (some "user")).toOption.any
      (fun document => (validateExport document).toOption.any (fun validated =>
        (previewMerge droppedProfile validated).toOption = some ⟨0, 1, 0, 0, 1, 0, 0, 1⟩ ∧
        (validated.favorites.map (fun _ => Sample.eventId 5)).Nodup)) = true := by
    decide +kernel
  obtain ⟨document, built, short, -⟩ := lookedUp_facts lookedUpTwice_runs.2.1
  rw [toOption_eq_some_iff.mpr built, Option.any_some] at facts
  obtain ⟨validated, accepted, both⟩ := (Option.any_eq_true _ _).mp facts
  obtain ⟨announced, distinct⟩ := of_decide_eq_true both
  have idle : droppedProfile.syncOutbox.rows = [] := by decide
  refine ⟨document, validated, built, short, toOption_eq_some_iff.mp accepted,
    toOption_eq_some_iff.mp announced, ⟨?_, distinct⟩⟩
  intro favorite _ key row stored
  have listed := (Table.mem_rows_iff _ key row).mpr stored
  rw [idle] at listed
  cases listed

theorem import_announced_word : ∃ bytes plan next,
    exportPortableJson (lookedUpJson "gift" "礼物") (lookedUpTwice "gift" "礼物") (some "user") =
      .ok bytes ∧
    previewPortableImport (lookedUpJson "gift" "礼物") droppedProfile bytes = .ok plan ∧
    plan.preview = ⟨0, 1, 0, 0, 1, 0, 0, 1⟩ ∧
    applyPortableImport droppedProfile plan.toPortableImportPlan 71 (fun _ => Sample.eventId 5) =
      (next, .ok plan.preview) := by
  obtain ⟨document, validated, built, short, valid, announced, fresh⟩ := droppedProfile_facts
  have previewed := (previewPortableImport_iff (lookedUpJson_roundTrips _ _ document built)
    short).mpr ⟨validated, _, valid, announced, rfl⟩
  obtain ⟨next, applied⟩ := @import_announced Sample.tables droppedProfile _ _ _ dropped rfl _ _ _
    previewed 71 (fun _ => Sample.eventId 5) fresh
  exact ⟨_, _, next, exportPortableJson_of_document built short, previewed, rfl, applied⟩

theorem import_idempotent_word : ∃ validated next,
    applyPortableImport droppedProfile ⟨Sample.eventId 4, validated⟩ 71
      (fun _ => Sample.eventId 5) = (next, .ok ⟨0, 1, 0, 0, 1, 0, 0, 1⟩) ∧
    (applyPortableImport next ⟨Sample.eventId 4, validated⟩ 72 (fun _ => Sample.eventId 6)).1 =
      next := by
  obtain ⟨document, validated, -, -, valid, announced, fresh⟩ := droppedProfile_facts
  have ready := @ready_of_reached Sample.tables droppedProfile _ _ _ dropped rfl
  obtain ⟨next, applied⟩ := @applyPortableImport_announced droppedProfile validated 71 _ ready
    (.of_validated valid) fresh _ announced
  have idempotent := @import_idempotent Sample.tables droppedProfile _ _ _ dropped rfl _ _ valid
    droppedProfile.profileMeta.profileId 71 (fun _ => Sample.eventId 5) fresh _ _ applied
  exact ⟨validated, next, applied, idempotent.1 72 _⟩

end Concrete

end Lvos.System
