import Lvos.System.Client

set_option autoImplicit false

namespace Lvos.System

open Lvos.Core Lvos.Sync Lvos.Storage
open Relational (Table)
open Lvos.Server (ServerDb EventFingerprint UuidParser changesSince)
open Transition (run Meets run_keeps_of_meets)
open Transaction (bind_ok_iff atomically_keeps)

/-! The local Favorites of a Device can be read, so it takes every page that is served to it. -/

def AllLegible (db : ProfileDb) : Prop :=
  ∀ key row, db.favorites.get key = some row → Legible row.snapshot

section Legibility

variable {db next : ProfileDb}

/-- Rows that keep their texts, or get the texts of typed values. -/
theorem AllLegible.revised (legible : AllLegible db)
    (written : ∀ key row, next.favorites.get key = some row → Legible row.snapshot ∨
      ∃ old, db.favorites.get key = some old ∧ row.snapshot = old.snapshot) :
    AllLegible next := by
  intro key row stored
  rcases written key row stored with new | ⟨old, here, same⟩
  · exact new
  · rw [same]
    exact legible key old here

theorem AllLegible.put (legible : AllLegible db) {key : ContentKey} {row : FavoriteRow}
    (new : Legible row.snapshot) (changed : next.favorites = db.favorites.put key row) :
    AllLegible next := by
  apply legible.revised
  intro other found stored
  rw [changed, Table.get_put] at stored
  split at stored
  · cases stored
    exact Or.inl new
  · exact Or.inr ⟨found, stored, rfl⟩

theorem AllLegible.entityRevision (legible : AllLegible db) (key : ContentKey) (revision : Nat)
    (changed : next.favorites = (setEntityRevision db key revision).favorites) :
    AllLegible next := by
  apply legible.revised
  intro other row stored
  rw [changed, setEntityRevision_get] at stored
  split at stored
  · obtain ⟨old, here, rfl⟩ := Option.map_eq_some_iff.mp stored
    exact Or.inr ⟨old, here, rfl⟩
  · exact Or.inr ⟨row, stored, rfl⟩

theorem legible_of_typed {snapshot : FavoriteSnapshot} (kind : TextKind)
    (sourceLang targetLang : LanguageCode) (named : snapshot.kind = kind.protocolName)
    (source : snapshot.sourceLang = sourceLang.text)
    (target : snapshot.targetLang = targetLang.text) : Legible snapshot where
  kind := by
    rw [named]
    exact kindAllowed_protocolName kind
  source := ⟨sourceLang, by rw [source, LanguageCode.parse_text]⟩
  target := ⟨targetLang, by rw [target, LanguageCode.parse_text]⟩

theorem AllLegible.localMove {input : Input} (legible : AllLegible db)
    (move : LocalMove input db next) : AllLegible next := by
  apply legible.revised
  intro key row stored
  cases move.favoriteOrigin stored with
  | kept here => exact Or.inr ⟨row, here, rfl⟩
  | entered entry now revision known written =>
      left
      rw [written]
      exact legible_of_typed entry.content.kind entry.content.sourceLang
        entry.translation.targetLang rfl rfl rfl
  | buried old now here written =>
      left
      have before := legible key old here
      rw [written]
      exact ⟨before.kind, before.source, before.target⟩
  | archived favorite given keyed deleted written =>
      left
      rw [written]
      exact legible_of_typed favorite.content.kind favorite.content.sourceLang
        favorite.translation.targetLang rfl rfl rfl

theorem AllLegible.acknowledgeEvents (legible : AllLegible db) (items : List AcknowledgedEvent)
    (now : Int) : AllLegible (acknowledgeEvents db items now).1 := by
  refine atomically_keeps (acknowledgeBody items now) db legible ?_
  rintro next ⟨⟩ success
  obtain ⟨last, looped, rfl⟩ := acknowledgeBody_ok success
  refine acknowledgeLoop_induct (fun _ db last => AllLegible db → AllLegible last)
    (fun _ here => here) (fun item rest db middle last head tail here => tail ?_)
    items db last looped legible
  obtain ⟨-, table, -, written⟩ := acknowledgeEvent_ok head
  cases answered : item.acknowledgement.entityRevision with
  | none =>
      rw [answered] at written
      subst written
      exact here
  | some revision =>
      rw [answered] at written
      subst written
      exact here.entityRevision item.event.contentKey revision rfl

theorem AllLegible.resolveConflict (legible : AllLegible db) {event : OutboxEvent}
    {current : Option FavoriteRecord} (now : Int)
    (answer : ∀ record, current = some record → Legible record.favorite) :
    AllLegible (resolveConflict db event current now).1 := by
  refine atomically_keeps (resolveConflictBody event current now) db legible ?_
  intro next resolution success
  cases (resolveConflictBody_ok success).2 with
  | converged record key localValue table named keyed found reached kept changed =>
      exact legible.put (answer record named) (by rw [changed])
  | replayed record row table named pending first kept changed =>
      exact legible.entityRevision event.contentKey record.entityRevision (by rw [changed]; rfl)
  | manual table kept changed =>
      subst changed
      exact legible

theorem validateRemote_legible [ContentTables] {remote : FavoriteRecord}
    (valid : validateRemote remote = .ok ()) : Legible remote.favorite := by
  unfold validateRemote at valid
  split at valid
  · cases valid
  · obtain ⟨sourceLang, source, afterSource⟩ := bind_ok_iff.mp valid
    obtain ⟨targetLang, target, afterTarget⟩ := bind_ok_iff.mp afterSource
    split at afterTarget
    · cases afterTarget
    · rename_i prepared prepares
      split at afterTarget
      · cases afterTarget
      · rename_i consistent
        push Not at consistent
        refine ⟨?_, ⟨sourceLang, parseLanguage_ok source⟩, targetLang, parseLanguage_ok target⟩
        rw [← consistent.2.2]
        exact kindAllowed_protocolName _

theorem AllLegible.applyRemotePage [ContentTables] (legible : AllLegible db)
    (changes : List SyncChange) (nextRevision : Nat) (now : Int) :
    AllLegible (applyRemotePage db changes nextRevision now).1 := by
  refine atomically_keeps (applyRemotePageBody changes nextRevision now) db legible ?_
  rintro next ⟨⟩ success
  obtain ⟨last, looped, rfl⟩ := applyRemotePage_ok success
  refine applyRemoteLoop_induct (fun _ db last => AllLegible db → AllLegible last)
    (fun _ here => here)
    (fun change rest db middle last key _ valid pulled tail here => tail ?_)
    changes db last _ _ looped legible
  have new := validateRemote_legible valid
  cases pulled with
  | written table idle kept changed => exact here.put new (by rw [changed])
  | converged table row localValue pending found reached kept changed =>
      exact here.put new (by rw [changed])
  | rebased table row localValue pending found apart kept changed =>
      exact here.entityRevision key change.favorite.entityRevision (by rw [changed]; rfl)

end Legibility

section Runs

variable {φ : Type} [DecidableEq φ] [EventFingerprint φ] [ContentTables] [UuidParser]
  {client next : Device}

theorem DeviceMove.legible {action : DeviceAction} (move : DeviceMove client next action)
    (honest : Honest φ client action) (legible : AllLegible client.profile) :
    AllLegible next.profile := by
  cases move with
  | called asked written stays =>
      rw [written]
      have moves := asked.moves client.profile
      generalize asked.perform client.profile = performed at moves
      induction moves with
      | refl => exact legible
      | tail _ move ih => exact ih.localMove move
  | replaced expectedCurrent replacement now written stays =>
      have same := (replaceDeviceIdentity_frame client.profile expectedCurrent replacement now).2
      unfold AllLegible
      rw [written, same]
      exact legible
  | read now limit events ready same batched => rwa [same]
  | built events request batched built same pushing => rwa [same]
  | acknowledged response now events request items pushing matched written idle =>
      rw [written]
      exact legible.acknowledgeEvents items now
  | resolved conflict now event chosen written idle =>
      rw [written]
      exact legible.resolveConflict now
        (fun record current => (honest event record chosen current).legible)
  | retried reply events nextRetryAt now written idle =>
      have same := (markRetry_favorites client.profile events nextRetryAt
        Desktop.serverUnavailable now).1
      unfold AllLegible
      rw [written, same]
      exact legible
  | pulled reply changes nextRevision now written idle =>
      rw [written]
      exact legible.applyRemotePage changes nextRevision now
  | noted action error now written idle =>
      rw [written]
      exact legible
  | dropped action same idle => rwa [same]

omit [ContentTables] [UuidParser] in
/-- A pending intent is about a row that is there. -/
theorem AllLegible.pendingLegible {db : ProfileDb} (legible : AllLegible db)
    (inv : OutboxInv db) : PendingLegible db := by
  intro key row queued
  obtain ⟨issued, shape⟩ := inv.shape
  obtain ⟨favorite, here⟩ := (shape.favorites key row queued).present
  exact ⟨favorite, here, legible key favorite here⟩

/-- After any run against a server that answers conflicts with its own records. -/
theorem pendingLegible_of_reached {profileId : Uuid} {deviceId : String} {created : Int}
    {actions : List DeviceAction}
    (reached : run deviceStep ⟨ProfileDb.initial profileId deviceId created, .idle⟩ actions =
      some client)
    (honest : Meets deviceStep (Honest φ)
      ⟨ProfileDb.initial profileId deviceId created, .idle⟩ actions) :
    PendingLegible client.profile := by
  have fresh : AllLegible (ProfileDb.initial profileId deviceId created) := by
    intro key row stored
    cases stored
  have kept : OutboxInv client.profile ∧ AllLegible client.profile :=
    @run_keeps_of_meets _ _ deviceStep (Honest φ)
      (fun client => OutboxInv client.profile ∧ AllLegible client.profile)
      (fun _ _ _ holds fair taken =>
        have move := deviceStep_moves taken
        ⟨move.outbox fair holds.1, move.legible fair holds.2⟩)
      actions _ client ⟨.initial profileId deviceId created, fresh⟩ honest reached
  exact kept.2.pendingLegible kept.1

end Runs

/-- Whatever the endpoints have accepted: every record a page can hold passes
`validate_remote`, is written and read back in every profile, and the page as a whole is
applied by every profile that asked for it and can read its own pending Favorites, as every
profile can that an honest server has answered. -/
theorem accepted_records_pullable {φ : Type} [DecidableEq φ] [EventFingerprint φ]
    [ContentTables] [UuidParser] (maxSyncEventsPerBatch : Nat) (userIds : List String)
    (devices : List (String × String)) (requests : List ApiRequest) (userId : String)
    (since limit : Nat) (page : ChangesResponse)
    (asked : changesSince (answerAll maxSyncEventsPerBatch
      (ServerDb.initial userIds devices : ServerDb φ) requests) userId since limit = .ok page) :
    (∀ change ∈ page.changes, validateRemote change.favorite = .ok () ∧
      ∀ (db : ProfileDb) (now : Int), ∃ key next favorite,
        parseContentKey change.favorite.contentKey = .ok key ∧
        writeRemoteFavorite db change.favorite now = .ok next ∧
        localFavorite next key = .ok (some favorite)) ∧
      (∀ (db : ProfileDb) (now : Int), PendingLegible db → cursorOf db = since →
        (applyRemotePage db page.changes page.nextRevision now).2 = .ok ()) ∧
      ∀ (profileId : Uuid) (deviceId : String) (created : Int) (actions : List DeviceAction)
        (client : Device),
        run deviceStep ⟨ProfileDb.initial profileId deviceId created, .idle⟩ actions =
          some client →
        Meets deviceStep (Honest φ) ⟨ProfileDb.initial profileId deviceId created, .idle⟩ actions →
        cursorOf client.profile = since → ∀ now : Int,
          (applyRemotePage client.profile page.changes page.nextRevision now).2 = .ok () := by
  have servable := answerAll_servable maxSyncEventsPerBatch requests
    (ServerDb.initial userIds devices : ServerDb φ) (Servable.initial userIds devices)
  have storable := servable.storable asked
  have applies : ∀ (db : ProfileDb) (now : Int), PendingLegible db → cursorOf db = since →
      (applyRemotePage db page.changes page.nextRevision now).2 = .ok () :=
    servable.page_applies asked
  refine ⟨fun change member => ⟨(storable change member).valid,
    (storable change member).readBack⟩, applies, ?_⟩
  intro profileId deviceId created actions client reached honest stands now
  exact applies client.profile now (pendingLegible_of_reached reached honest) stands

section Concrete

attribute [local instance] Sample.tables Sample.parser

/-- The word is favorited by one Device and withdrawn by a state patch. -/
def giftApiRequests : List ApiRequest :=
  [.push "user" "desk" [giftPush (Sample.eventId 1).text 0 .favoriteUpsert] 100,
    .setFavoriteState "user" Sample.giftKey.toHex false 1 101]

/-- The account those requests leave. -/
def giftAccount : ServerDb PushEvent :=
  answerAll 500 (ServerDb.initial ["user"] [("user", "desk")]) giftApiRequests

/-- The phone has favorited the word itself and not sent it yet. -/
def phoneFavorites : List DeviceAction :=
  [.call (.query (Sample.gift 60) (Sample.eventId 2)),
    .call (.favorite Sample.giftKey 61 (Sample.eventId 3))]

theorem accepted_records_pullable_gift :
    ∃ page client, changesSince giftAccount "user" 0 10 = .ok page ∧ page.changes.length = 2 ∧
      (∀ change ∈ page.changes, validateRemote change.favorite = .ok ()) ∧
      run deviceStep ⟨ProfileDb.initial (Sample.eventId 0) "phone" 50, .idle⟩ phoneFavorites =
        some client ∧
      (client.profile.syncOutbox.get (favoriteCoalesceKey Sample.giftKey)).isSome = true ∧
      (applyRemotePage client.profile page.changes page.nextRevision 102).2 = .ok () := by
  have answered : (changesSince giftAccount "user" 0 10).toOption.any
      (fun page => page.changes.length = 2) = true := by
    decide +kernel
  have waits : (run deviceStep ⟨ProfileDb.initial (Sample.eventId 0) "phone" 50, .idle⟩
      phoneFavorites).any (fun client => decide (cursorOf client.profile = 0) &&
        (client.profile.syncOutbox.get (favoriteCoalesceKey Sample.giftKey)).isSome) = true := by
    decide +kernel
  obtain ⟨client, reached, holds⟩ := (Option.any_eq_true _ _).mp waits
  simp only [Bool.and_eq_true, decide_eq_true_eq] at holds
  cases asked : changesSince giftAccount "user" 0 10 with
  | error reason =>
      rw [asked] at answered
      cases answered
  | ok page =>
      obtain ⟨valid, -, applied⟩ := accepted_records_pullable 500 ["user"] [("user", "desk")]
        giftApiRequests "user" 0 10 page asked
      rw [asked] at answered
      exact ⟨page, client, rfl, of_decide_eq_true answered,
        fun change member => (valid change member).1, reached, holds.2,
        applied (Sample.eventId 0) "phone" 50 phoneFavorites client reached
          (honest_of_unrefused rfl _) holds.1 102⟩

end Concrete

end Lvos.System
