import Lvos.System.Client

set_option autoImplicit false

namespace Lvos.System

open Lvos.Core Lvos.Sync Lvos.Storage
open Relational (Table)
open Lvos.Server (EventFingerprint UuidParser)
open Transition (run Meets run_keeps_of_meets)
open Transaction (bind_ok_iff)

/-! The watermark of a content is never ahead of the count, so a new Device keeps the totals. -/

/-- A row whose watermark is in order, and at zero without an answer of the server. -/
structure CountFits (stats : QueryStats) : Prop where
  watermarked : Watermarked stats
  unanswered : stats.serverSnapshotAt = none → stats.lastSyncedDeviceQueryCount = 0

def CountsFit (db : ProfileDb) : Prop :=
  ∀ key stats, db.queryStats.get key = some stats → CountFits stats

section Rows

variable {db next : ProfileDb}

theorem CountFits.unqueried (first last : Int) : CountFits (unqueried first last) :=
  ⟨Nat.le_refl 0, fun _ => rfl⟩

theorem CountFits.counted {existing : Option QueryStats} {now : Int} {stats : QueryStats}
    (before : ∀ old, existing = some old → CountFits old)
    (count : countQuery existing now = .ok stats) : CountFits stats := by
  cases existing with
  | none =>
      cases count
      exact ⟨Nat.zero_le 1, fun _ => rfl⟩
  | some old =>
      obtain ⟨watermarked, unanswered⟩ := before old rfl
      simp only [countQuery] at count
      split at count
      · cases count
        exact ⟨Nat.le_succ_of_le watermarked, unanswered⟩
      · cases count

/-- An answer moves the watermark to a count the Device had reported. -/
theorem CountFits.aggregated {stats : QueryStats} (fits : CountFits stats)
    (aggregate : AggregateQueryStats) {sent : Nat} (reported : sent ≤ stats.deviceQueryCount)
    (now : Int) : CountFits (aggregated stats aggregate sent now) :=
  ⟨Nat.max_le.mpr ⟨fits.watermarked, reported⟩, nofun⟩

theorem CountsFit.localMove {input : Input} (fits : CountsFit db) (move : LocalMove input db next) :
    CountsFit next := by
  intro key stats stored
  rcases move.stats stored with old | ⟨-, first, rfl⟩ | ⟨entry, -, rfl, count⟩
  · exact fits key stats old
  · exact .unqueried first first
  · exact .counted (fits entry.content.contentKey) count

theorem CountsFit.call [ContentTables] (fits : CountsFit db) (call : Call) :
    CountsFit (call.perform db) := by
  have moves := call.moves db
  generalize call.perform db = performed at moves
  induction moves with
  | refl => exact fits
  | tail _ move ih => exact ih.localMove move

theorem reportedCount_fits (key : ContentKey) :
    reportedCount db key ≤ ((db.queryStats.get key).map QueryStats.deviceQueryCount).getD 0 := by
  unfold reportedCount
  split
  · exact Nat.le_refl _
  · exact Nat.zero_le _

/-- A row, or none, with room for the count the Device had reported of its content. -/
structure RoomFor (reported : Nat) (row : Option QueryStats) : Prop where
  fits : ∀ stats, row = some stats → CountFits stats
  room : reported ≤ (row.map QueryStats.deviceQueryCount).getD 0

theorem RoomFor.refreshed {reported : Nat} {aggregate : Option AggregateQueryStats} {sent : Nat}
    {now : Int} {before after : Option QueryStats} (room : RoomFor reported before)
    (within : aggregate.isSome = true → sent ≤ reported)
    (refreshed : Refreshed aggregate sent now before after) : RoomFor reported after := by
  cases refreshed with
  | kept silent same =>
      rw [same]
      exact room
  | started silent absent first stored =>
      subst absent stored
      refine ⟨?_, room.room⟩
      rintro stats ⟨⟩
      exact .unqueried first first
  | taken value brought stored =>
      subst brought stored
      have bounded := Nat.le_trans (within rfl) room.room
      cases before with
      | none =>
          refine ⟨?_, room.room⟩
          rintro stats ⟨⟩
          exact (CountFits.unqueried _ _).aggregated value bounded now
      | some old =>
          refine ⟨?_, room.room⟩
          rintro stats ⟨⟩
          exact (room.fits old rfl).aggregated value bounded now

/-- Answers to counts the Device has reported. -/
theorem CountsFit.taken (fits : CountsFit db)
    (taken : Taken (fun key _ sent => sent ≤ reportedCount db key) db next) : CountsFit next := by
  have all := @TableMoves.fits _ _ _ (fun key => RoomFor (reportedCount db key))
    (fun key aggregate sent now old new brought refreshed room =>
      room.refreshed (fun here => by
        obtain ⟨value, same⟩ := Option.isSome_iff_exists.mp here
        exact brought value same) refreshed)
    taken.moves (fun key => ⟨fits key, reportedCount_fits key⟩)
  exact fun key => (all key).fits

/-- The row a replacement leaves of one that is in order. -/
theorem CountFits.unsynced (stats : QueryStats) : CountFits (unsynced stats) :=
  ⟨Nat.zero_le _, fun _ => rfl⟩

theorem effectiveTotal_unsynced {stats : QueryStats} (fits : CountFits stats) :
    (Storage.unsynced stats).effectiveTotal = stats.effectiveTotal := by
  unfold QueryStats.effectiveTotal Storage.unsynced
  dsimp only
  split
  · rename_i unanswered
    rw [fits.unanswered (Option.isNone_iff_eq_none.mp unanswered), Nat.sub_zero]
  · rw [Nat.sub_zero]

theorem CountsFit.replaceDeviceIdentity (fits : CountsFit db) (expectedCurrent replacement : Uuid)
    (now : Int) : CountsFit (replaceDeviceIdentity db expectedCurrent replacement now).1 := by
  refine replaceDeviceIdentity_keeps db expectedCurrent replacement now fits ?_
  intro next replaced key stats stored
  rw [replaced.stats_get] at stored
  obtain ⟨old, -, rfl⟩ := Option.map_eq_some_iff.mp stored
  exact .unsynced old

end Rows

/-- The condition on a step: the identity is not replaced while a request is on its way. -/
def Steady (client : Device) : DeviceAction → Prop
  | .replaceDeviceIdentity _ _ _ => ∀ events request, client.worker ≠ .pushing events request
  | _ => True

section Steps

variable [ContentTables] {client next : Device}

/-- The Outbox and the content of what the worker holds, whatever answers the worker gets. -/
structure Stocked (client : Device) : Prop where
  indexed : Indexed client.profile
  own : OwnStats client.profile
  inside : ∀ event ∈ client.worker.events,
    (client.profile.favorites.get event.contentKey).isSome

omit [ContentTables] in
theorem Stocked.initial (profileId : Uuid) (deviceId : String) (now : Int) :
    Stocked ⟨ProfileDb.initial profileId deviceId now, .idle⟩ where
  indexed := (Shape.initial profileId deviceId now).indexed
  own := by
    intro other key row stored
    cases stored
  inside := fun _ member => absurd member List.not_mem_nil

/-- What a step leaves of the Outbox: rows that were there, or what a call or a replacement
makes of them. -/
theorem DeviceMove.outboxKept {action : DeviceAction} (move : DeviceMove client next action) :
    (OutboxKept client.profile next.profile ∧
        next.profile.profileMeta.deviceId = client.profile.profileMeta.deviceId) ∨
      (∃ asked, next.profile = Call.perform client.profile asked) ∨
      ∃ expectedCurrent replacement now, next.profile =
        (replaceDeviceIdentity client.profile expectedCurrent replacement now).1 := by
  cases move with
  | called asked written stays => exact .inr (.inl ⟨asked, written⟩)
  | replaced expectedCurrent replacement now written stays =>
      exact .inr (.inr ⟨expectedCurrent, replacement, now, written⟩)
  | read now limit events ready same batched => exact .inl (by rw [same]; exact ⟨.refl _, rfl⟩)
  | built events request batched built same pushing =>
      exact .inl (by rw [same]; exact ⟨.refl _, rfl⟩)
  | acknowledged response now events request items pushing matched written idle =>
      have taken := @acknowledgeEvents_taken (fun _ _ _ => True) items now client.profile
        (fun _ _ _ _ => trivial)
      rw [written]
      exact .inl ⟨acknowledgeEvents_rows items now client.profile, taken.deviceId⟩
  | resolved conflict now event chosen written idle =>
      rw [written]
      exact .inl ⟨resolveConflict_rows client.profile event conflict.current now,
        (resolveConflict_profileMeta event conflict.current now client.profile).1⟩
  | retried reply events nextRetryAt now written idle =>
      rw [written]
      exact .inl ⟨markRetry_rows client.profile events nextRetryAt Desktop.serverUnavailable now,
        (markRetry_favorites client.profile events nextRetryAt
          Desktop.serverUnavailable now).2.2.2.2⟩
  | pulled reply changes nextRevision now written idle =>
      have taken := @applyRemotePage_taken (fun _ _ _ => True) _ changes nextRevision now
        client.profile (fun _ _ _ _ _ _ => trivial)
      rw [written]
      exact .inl ⟨applyRemotePage_rows client.profile changes nextRevision now, taken.deviceId⟩
  | noted action error now written idle =>
      exact .inl (by rw [written]; exact ⟨.refl _, rfl⟩)
  | dropped action same idle => exact .inl (by rw [same]; exact ⟨.refl _, rfl⟩)

theorem Stocked.moved {action : DeviceAction} (stocked : Stocked client)
    (move : DeviceMove client next action) : Stocked next := by
  have inside : ∀ event ∈ next.worker.events,
      (next.profile.favorites.get event.contentKey).isSome := by
    intro event member
    apply move.present stocked.indexed
    rcases move.holds member with held | stored
    · exact stocked.inside event held
    · exact stocked.indexed.inDomain stored
  have replaced : ∀ expectedCurrent replacement now, next.profile =
      (replaceDeviceIdentity client.profile expectedCurrent replacement now).1 → Stocked next := by
    intro expectedCurrent replacement now written
    refine ⟨?_, ?_, inside⟩
    · rw [written]
      exact stocked.indexed.replaceDeviceIdentity expectedCurrent replacement now
    · rw [written]
      exact stocked.own.replaceDeviceIdentity stocked.indexed expectedCurrent replacement now
  rcases move.grows stocked.indexed with grows | ⟨expectedCurrent, replacement, now, -, written⟩
  · rcases move.outboxKept with ⟨rows, deviceId⟩ | ⟨asked, written⟩ |
      ⟨expectedCurrent, replacement, now, written⟩
    · refine ⟨stocked.indexed.kept rows grows, stocked.own.kept ?_ deviceId, inside⟩
      intro coalesceKey row stored
      obtain ⟨old, here, -⟩ := rows coalesceKey row stored
      exact ⟨old, here⟩
    · refine ⟨?_, ?_, inside⟩
      · rw [written]
        exact (call_indexed stocked.indexed asked).1
      · rw [written]
        exact call_ownStats stocked.own asked
    · exact replaced expectedCurrent replacement now written
  · exact replaced expectedCurrent replacement now written

/-- The counts a request on its way reports, against the profile as it is now. -/
def Reporting (client : Device) : Prop :=
  ∀ events request, client.worker = .pushing events request → ∀ pair ∈ events.zip request,
    (pair.2.queryStats.map QueryStatsSnapshot.queryCount).getD 0 ≤
      reportedCount client.profile pair.1.contentKey

omit [ContentTables] in
theorem reporting_of_built {events : List OutboxEvent} {request : List PushEvent}
    (stocked : Stocked client) (batched : client.worker = .batched events)
    (built : Desktop.buildEvents client.profile events = .ok request) :
    ∀ pair ∈ events.zip request,
      (pair.2.queryStats.map QueryStatsSnapshot.queryCount).getD 0 ≤
        reportedCount client.profile pair.1.contentKey := by
  intro pair member
  have pushed := Forall₂.mem_zip (buildEvents_ok events request built) pair member
  obtain ⟨found, snapshot, -, -, -, same⟩ := pushEvent_ok pushed
  have inside := stocked.inside pair.1 (by
    rw [batched]
    exact (List.of_mem_zip member).1)
  rw [same]
  unfold reportedCount sentStats
  dsimp only
  rw [if_pos inside]
  cases client.profile.queryStats.get pair.1.contentKey with
  | none => exact Nat.le_refl 0
  | some stats =>
      dsimp only
      split
      · exact Nat.le_refl _
      · exact Nat.zero_le _

theorem DeviceMove.rowsFit {action : DeviceAction} (move : DeviceMove client next action)
    (reporting : Reporting client) (fits : CountsFit client.profile) : CountsFit next.profile := by
  cases move with
  | called asked written stays =>
      rw [written]
      exact fits.call asked
  | replaced expectedCurrent replacement now written stays =>
      rw [written]
      exact fits.replaceDeviceIdentity expectedCurrent replacement now
  | read now limit events ready same batched => rwa [same]
  | built events request batched built same pushing => rwa [same]
  | acknowledged response now events request items pushing matched written idle =>
      rw [written]
      refine fits.taken (acknowledgeEvents_taken now client.profile ?_)
      intro item member aggregate brought
      obtain ⟨pair, listed, event, -, -, count⟩ :=
        Transaction.related_of_mem_right (matchAcknowledgements_ok matched) item member
      have reported := reporting events request pushing pair listed
      rw [event, count]
      exact reported
  | resolved conflict now event chosen written idle =>
      rw [written]
      exact fits.taken (resolveConflict_taken event conflict.current now client.profile
        (fun _ _ _ _ _ _ => Nat.zero_le _))
  | retried reply events nextRetryAt now written idle =>
      have same := (markRetry_favorites client.profile events nextRetryAt
        Desktop.serverUnavailable now).2.1
      unfold CountsFit
      rw [written, same]
      exact fits
  | pulled reply changes nextRevision now written idle =>
      rw [written]
      exact fits.taken (applyRemotePage_taken nextRevision now client.profile
        (fun _ _ _ _ _ _ => Nat.zero_le _))
  | noted action error now written idle =>
      rw [written]
      exact fits
  | dropped action same idle => rwa [same]

theorem DeviceMove.reporting {action : DeviceAction} (move : DeviceMove client next action)
    (stocked : Stocked client) (steady : Steady client action)
    (reporting : Reporting client) : Reporting next := by
  intro events request pushing pair member
  have silent : next.worker = .idle → (pair.2.queryStats.map QueryStatsSnapshot.queryCount).getD 0 ≤
      reportedCount next.profile pair.1.contentKey := by
    intro idle
    rw [idle] at pushing
    cases pushing
  cases move with
  | called asked written stays =>
      rw [written]
      exact Nat.le_trans (reporting events request (stays.symm.trans pushing) pair member)
        ((call_indexed stocked.indexed asked).2.reported _)
  | replaced expectedCurrent replacement now written stays =>
      exact absurd (stays.symm.trans pushing) (steady events request)
  | read now limit others ready same batched => cases batched.symm.trans pushing
  | built others sent batched built same sending =>
      cases sending.symm.trans pushing
      rw [same]
      exact reporting_of_built stocked batched built pair member
  | acknowledged response now others sent items earlier matched written idle => exact silent idle
  | resolved conflict now event chosen written idle => exact silent idle
  | retried reply others nextRetryAt now written idle => exact silent idle
  | pulled reply changes nextRevision now written idle => exact silent idle
  | noted action error now written idle => exact silent idle
  | dropped action same idle => exact silent idle

/-- What every steady step of a Device keeps of its counts. -/
structure Metered (client : Device) : Prop where
  stocked : Stocked client
  fits : CountsFit client.profile
  reporting : Reporting client

theorem Metered.moved {action : DeviceAction} (metered : Metered client)
    (steady : Steady client action) (move : DeviceMove client next action) :
    Metered next where
  stocked := metered.stocked.moved move
  fits := move.rowsFit metered.reporting metered.fits
  reporting := move.reporting metered.stocked steady metered.reporting

omit [ContentTables] in
theorem Metered.initial (profileId : Uuid) (deviceId : String) (now : Int) :
    Metered ⟨ProfileDb.initial profileId deviceId now, .idle⟩ where
  stocked := .initial profileId deviceId now
  fits := by
    intro key stats stored
    cases stored
  reporting := by
    rintro events request ⟨⟩

end Steps

/-- The total a content is shown with, if it has one. -/
def shownTotal (db : ProfileDb) (key : ContentKey) : Option Nat :=
  (db.queryStats.get key).map QueryStats.effectiveTotal

/-- A replacement that took place and only changed what names the Device. -/
structure KeepsTotals (db next : ProfileDb) (replacement : Uuid) : Prop where
  deviceId : next.profileMeta.deviceId = replacement.text
  totals : ∀ key, shownTotal next key = shownTotal db key
  favorites : next.favorites = db.favorites
  historyEntries : next.historyEntries = db.historyEntries
  cursor : next.profileMeta.lastServerRevision = db.profileMeta.lastServerRevision
  eventIds : next.syncOutbox.rows.map (fun entry => entry.2.eventId) =
    db.syncOutbox.rows.map (fun entry => entry.2.eventId)
  filed : ∀ coalesceKey row, next.syncOutbox.get coalesceKey = some row →
    row.operation = .queryStatsUpsert →
    coalesceKey = queryStatsCoalesceKey row.contentKey replacement.text

section Replacement

variable {db next : ProfileDb} {expectedCurrent replacement : Uuid} {now : Int}

theorem Replaced.keepsTotals (indexed : Indexed db) (fits : CountsFit db)
    (replaced : Replaced db next expectedCurrent replacement now) :
    KeepsTotals db next replacement where
  deviceId := by rw [replaced.profileMeta]
  totals := by
    intro key
    unfold shownTotal
    rw [replaced.stats_get, Option.map_map]
    cases stored : db.queryStats.get key with
    | none => rfl
    | some stats => exact congrArg some (effectiveTotal_unsynced (fits key stats stored))
  favorites := replaced.favorites
  historyEntries := replaced.historyEntries
  cursor := by rw [replaced.profileMeta]
  eventIds := by
    rw [replaced.outbox, List.map_map]
    apply List.map_congr_left
    rintro ⟨coalesceKey, row⟩ -
    exact (refiled_row rfl).1
  filed := by
    intro coalesceKey row stored asked
    have after := indexed.replaced replaced
    have own := OwnStats.replaced indexed replaced
    cases coalesceKey with
    | favorite key =>
        have favorite := (after.favorites key row stored).2.1
        rw [asked] at favorite
        cases favorite
    | queryStats deviceId key =>
        rw [own deviceId key row stored, replaced.profileMeta,
          (after.stats deviceId key row stored).1]
        rfl

theorem replaceDeviceIdentity_current (expectedCurrent replacement : Uuid) (now : Int)
    (other : db.profileMeta.deviceId ≠ expectedCurrent.text) :
    (replaceDeviceIdentity db expectedCurrent replacement now).2 ≠ .error .sqlite := by
  have refused : replaceDeviceBody expectedCurrent replacement now db =
      .error (.invalidData "Profile Device identity does not match") := by
    unfold replaceDeviceBody
    rw [if_pos other]
  unfold replaceDeviceIdentity
  split
  · rintro ⟨⟩
  · rw [Transaction.atomically_of_error refused]
    rintro ⟨⟩

theorem replaceDeviceIdentity_keepsTotals (indexed : Indexed db) (own : OwnStats db)
    (fits : CountsFit db)
    (current : db.profileMeta.deviceId = expectedCurrent.text)
    (known : isNil expectedCurrent = false) (valid : isNil replacement = false)
    (apart : expectedCurrent ≠ replacement) (now : Int) :
    ∃ next, replaceDeviceIdentity db expectedCurrent replacement now = (next, .ok ()) ∧
      KeepsTotals db next replacement := by
  obtain ⟨next, done⟩ := replaceDeviceIdentity_total indexed own current known valid apart
    (fun key stats stored => (fits key stats stored).watermarked) now
  rcases replaceDeviceIdentity_cases db expectedCurrent replacement now with
    ⟨reason, same⟩ | ⟨after, same, replaced⟩
  · rw [done] at same
    cases same
  · rw [done] at same
    cases same
    exact ⟨next, done, Replaced.keepsTotals indexed fits replaced⟩

end Replacement

section Runs

variable [ContentTables] {client : Device}

/-- In every run in which no identity is replaced while a request is on its way, the watermark
of a content is never ahead of its count. So a replacement is never refused by the tables, and
one of the current identity takes place and keeps every total. -/
theorem replacement_keeps_totals {profileId : Uuid} {deviceId : String} {now : Int}
    {actions : List DeviceAction}
    (reached : run deviceStep ⟨ProfileDb.initial profileId deviceId now, .idle⟩ actions =
      some client)
    (steady : Meets deviceStep Steady ⟨ProfileDb.initial profileId deviceId now, .idle⟩
      actions) :
    (∀ key stats, client.profile.queryStats.get key = some stats →
      stats.lastSyncedDeviceQueryCount ≤ stats.deviceQueryCount) ∧
    ∀ expectedCurrent replacement now,
      (replaceDeviceIdentity client.profile expectedCurrent replacement now).2 ≠ .error .sqlite ∧
      (client.profile.profileMeta.deviceId = expectedCurrent.text →
        isNil expectedCurrent = false → isNil replacement = false →
        expectedCurrent ≠ replacement →
        ∃ next, replaceDeviceIdentity client.profile expectedCurrent replacement now =
            (next, .ok ()) ∧ KeepsTotals client.profile next replacement) := by
  have metered : Metered client := run_keeps_of_meets
    (fun _ _ _ holds calm taken => holds.moved calm (deviceStep_moves taken))
    actions _ client (Metered.initial profileId deviceId now) steady reached
  refine ⟨fun key stats stored => (metered.fits key stats stored).watermarked, ?_⟩
  intro expectedCurrent replacement now
  have takes : client.profile.profileMeta.deviceId = expectedCurrent.text →
      isNil expectedCurrent = false → isNil replacement = false →
      expectedCurrent ≠ replacement →
      ∃ next, replaceDeviceIdentity client.profile expectedCurrent replacement now =
          (next, .ok ()) ∧ KeepsTotals client.profile next replacement :=
    fun current known valid apart => replaceDeviceIdentity_keepsTotals metered.stocked.indexed
      metered.stocked.own metered.fits current known valid apart now
  refine ⟨?_, takes⟩
  by_cases current : client.profile.profileMeta.deviceId = expectedCurrent.text
  · by_cases refused : isNil expectedCurrent ∨ isNil replacement ∨ expectedCurrent = replacement
    · unfold replaceDeviceIdentity
      rw [if_pos refused]
      rintro ⟨⟩
    · push Not at refused
      obtain ⟨next, done, -⟩ := takes current (by simpa using refused.1)
        (by simpa using refused.2.1) refused.2.2
      rw [done]
      rintro ⟨⟩
  · exact replaceDeviceIdentity_current expectedCurrent replacement now current

end Runs

section Witness

attribute [local instance] Sample.tables Sample.parser

/-- The Favorite is reported with one count while the word is queried again. -/
def reportedDesk : List DeviceAction :=
  [.call (.query (Sample.gift 60) (Sample.eventId 1)),
    .call (.favorite Sample.giftKey 61 (Sample.eventId 2)), .readBatch 62 10, .buildBatch,
    .call (.query (Sample.gift 63) (Sample.eventId 3)),
    .settle (.ok ⟨[⟨(Sample.eventId 2).text, .applied, some 1, 1, some ⟨5, 20, 60⟩⟩], 1⟩) 64]

theorem replacement_keeps_totals_reported : ∃ client next,
    run deviceStep ⟨ProfileDb.initial (Sample.eventId 0) (Sample.eventId 8).text 50, .idle⟩
      reportedDesk = some client ∧
    shownTotal client.profile Sample.giftKey = some 6 ∧
    replaceDeviceIdentity client.profile (Sample.eventId 8) (Sample.eventId 9) 65 =
      (next, .ok ()) ∧ KeepsTotals client.profile next (Sample.eventId 9) := by
  have facts : (run deviceStep
      ⟨ProfileDb.initial (Sample.eventId 0) (Sample.eventId 8).text 50, .idle⟩
      reportedDesk).any (fun client => decide
        (shownTotal client.profile Sample.giftKey = some 6 ∧
          client.profile.profileMeta.deviceId = (Sample.eventId 8).text)) = true := by
    decide
  obtain ⟨client, reached, shown⟩ := (Option.any_eq_true _ _).mp facts
  obtain ⟨total, current⟩ := of_decide_eq_true shown
  have steady : Meets deviceStep Steady
      ⟨ProfileDb.initial (Sample.eventId 0) (Sample.eventId 8).text 50, .idle⟩ reportedDesk := by
    apply Transition.meets_of_forall
    intro action member state
    simp only [reportedDesk, List.mem_cons, List.not_mem_nil, or_false] at member
    rcases member with rfl | rfl | rfl | rfl | rfl | rfl <;> trivial
  have keeps := replacement_keeps_totals reached steady
  obtain ⟨next, done, kept⟩ := (keeps.2 (Sample.eventId 8) (Sample.eventId 9) 65).2 current
    (by decide) (by decide) (by decide)
  exact ⟨client, next, reached, total, done, kept⟩

end Witness

end Lvos.System
