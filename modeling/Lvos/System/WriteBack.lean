import Lvos.System.Client

set_option autoImplicit false

namespace Lvos.System

open Lvos.Core Lvos.Sync Lvos.Storage
open Relational (Table)
open Lvos.Server (ServerDb EventFingerprint UuidParser validateEvent)
open Transaction (bind_ok_iff toOption_eq_some_iff)

/-! A record of the server written to a profile, and what is read back as its snapshot. -/

/-- `canonicalize_tag` leaves the tag as it is. -/
def CanonicalTag (tag : String) : Prop := String.ofList (canonicalizeTag tag.toList) = tag

instance (tag : String) : Decidable (CanonicalTag tag) :=
  inferInstanceAs (Decidable (_ = _))

theorem parse_keeps_iff {tag : String} {code : LanguageCode}
    (parsed : LanguageCode.parse tag = .ok code) : code.text = tag ↔ CanonicalTag tag := by
  obtain ⟨-, -, -, -, text⟩ := parseTag_ok.mp (LanguageCode.parse_ok parsed)
  rw [text]
  exact Iff.rfl

section Reading

variable {db next : ProfileDb} {key : ContentKey} {row : FavoriteRow} {favorite : Favorite}
  {record : FavoriteRecord} {now : Int}

/-- A row that is read back loses at most the spelling of its two tags. -/
theorem protocolSnapshot_of_row {sourceMessage targetMessage : String}
    (read : readFavorite sourceMessage targetMessage key row = .ok favorite) :
    ∃ sourceLang targetLang, LanguageCode.parse row.snapshot.sourceLang = .ok sourceLang ∧
      LanguageCode.parse row.snapshot.targetLang = .ok targetLang ∧
      protocolSnapshot favorite = { row.snapshot with
        sourceLang := sourceLang.text
        targetLang := targetLang.text } := by
  unfold readFavorite at read
  obtain ⟨kind, named, afterKind⟩ := bind_ok_iff.mp read
  obtain ⟨sourceLang, source, afterSource⟩ := bind_ok_iff.mp afterKind
  obtain ⟨targetLang, target, same⟩ := bind_ok_iff.mp afterSource
  refine ⟨sourceLang, targetLang, parseLanguage_ok source, parseLanguage_ok target, ?_⟩
  cases same
  simp only [protocolSnapshot, parseKind_ok named]

theorem protocolSnapshot_of_row_iff {sourceMessage targetMessage : String}
    (read : readFavorite sourceMessage targetMessage key row = .ok favorite) :
    protocolSnapshot favorite = row.snapshot ↔
      CanonicalTag row.snapshot.sourceLang ∧ CanonicalTag row.snapshot.targetLang := by
  obtain ⟨sourceLang, targetLang, source, target, snapshot⟩ := protocolSnapshot_of_row read
  rw [snapshot, ← parse_keeps_iff source, ← parse_keeps_iff target]
  constructor
  · intro same
    exact ⟨congrArg FavoriteSnapshot.sourceLang same, congrArg FavoriteSnapshot.targetLang same⟩
  · rintro ⟨sourceKept, targetKept⟩
    rw [sourceKept, targetKept]

/-- After the write the row of the key is the record's. -/
theorem localFavorite_written (keyed : record.contentKey = key.toHex)
    (written : writeRemoteFavorite db record now = .ok next)
    (read : localFavorite next key = .ok (some favorite)) :
    protocolSnapshot favorite = record.favorite ↔
      CanonicalTag record.favorite.sourceLang ∧ CanonicalTag record.favorite.targetLang := by
  obtain ⟨other, table, named, -, -, tables⟩ := writeRemoteFavorite_ok written
  have same : other = key := ContentKey.toHex_injective (named.symm.trans keyed)
  have stored : next.favorites.get key = some (remoteRow record) := by
    rw [tables, same]
    exact Table.get_put_self _ _ _
  rcases localFavorite_ok read with ⟨missing, -⟩ | ⟨row, value, found, parsed, here⟩
  · rw [stored] at missing
    cases missing
  · rw [stored] at found
    cases found
    cases here
    exact protocolSnapshot_of_row_iff parsed

end Reading

section Stored

variable {φ : Type} [DecidableEq φ] [EventFingerprint φ] [ContentTables] [UuidParser]

/-- The source tag of a stored row is spelled as `parse` spells it. -/
def SourceCanonical (_contentKey : String) (row : Server.FavoriteRow) : Prop :=
  ∃ sourceLang : LanguageCode, sourceLang.text = row.favorite.sourceLang

omit [ContentTables] [UuidParser] in
theorem sourceCanonical_kept : Server.KeptByState SourceCanonical := by
  intro contentKey row deletedAt entityRevision now positive small held
  exact held

omit [UuidParser] in
theorem validateSnapshot_source {event : PushEvent} {snapshot : FavoriteSnapshot}
    (valid : Server.validateSnapshot event snapshot = .ok ()) :
    ∃ sourceLang : LanguageCode, sourceLang.text = snapshot.sourceLang := by
  unfold Server.validateSnapshot at valid
  split at valid
  · cases valid
  · split at valid
    · cases valid
    · split at valid
      · cases valid
      · rename_i prepared prepares
        split at valid
        · cases valid
        · rename_i consistent
          push Not at consistent
          obtain ⟨-, -, -, -, spelled⟩ := consistent
          exact ⟨prepared.sourceLang, spelled⟩

theorem sourceCanonical_brought (event : PushEvent) (valid : validateEvent event = .ok ()) :
    Server.BroughtBy SourceCanonical event := by
  intro snapshot entityRevision now upsert given positive small
  unfold Server.validateEvent at valid
  obtain ⟨-, -, afterId⟩ := bind_ok_iff.mp valid
  obtain ⟨-, -, afterKey⟩ := bind_ok_iff.mp afterId
  split at afterKey
  · cases afterKey
  · obtain ⟨⟨⟩, operation, -⟩ := bind_ok_iff.mp afterKey
    simp only [Server.validateOperation, upsert, given] at operation
    exact validateSnapshot_source operation

theorem Served.storable {key : ContentKey} {record : FavoriteRecord}
    (served : Served φ key record) : Storable record := by
  obtain ⟨maxSyncEventsPerBatch, userIds, devices, requests, userId, read⟩ := served
  have servable := answerAll_servable maxSyncEventsPerBatch requests
    (ServerDb.initial userIds devices : ServerDb φ) (Servable.initial userIds devices)
  exact servable.record_storable read

theorem Served.sourceCanonical {key : ContentKey} {record : FavoriteRecord}
    (served : Served φ key record) : CanonicalTag record.favorite.sourceLang := by
  obtain ⟨maxSyncEventsPerBatch, userIds, devices, requests, userId, read⟩ := served
  have rows := answerAll_rows sourceCanonical_kept sourceCanonical_brought maxSyncEventsPerBatch
    requests (ServerDb.initial userIds devices : ServerDb φ) (by rintro _ _ _ ⟨⟩)
  obtain ⟨-, row, stored, same⟩ := favoriteRecord_keyed read
  obtain ⟨sourceLang, spelled⟩ := rows userId key.toHex row stored
  rw [same, ← spelled]
  exact (parse_keeps_iff (LanguageCode.parse_text sourceLang)).mp rfl

/-- Written and read back under its own key. -/
theorem Served.readBack {key : ContentKey} {record : FavoriteRecord}
    (served : Served φ key record) (db : ProfileDb) (now : Int) :
    ∃ next favorite, writeRemoteFavorite db record now = .ok next ∧
      localFavorite next key = .ok (some favorite) := by
  obtain ⟨other, next, favorite, parsed, written, read⟩ := served.storable.readBack db now
  have same : other = key :=
    ContentKey.toHex_injective ((parseContentKey_ok parsed).symm.trans served.keyed)
  exact ⟨next, favorite, written, same ▸ read⟩

/-- An active record of the server passes `validate_remote`, is written to every profile and
read back; it comes back exactly, and is recognised as converged, when its target tag is
spelled as `parse` spells it. -/
theorem remote_favorite_round_trip {key : ContentKey} {record : FavoriteRecord}
    (served : Served φ key record) (active : record.deletedAt = none) (db : ProfileDb) (now : Int) :
    validateRemote record = .ok () ∧ ∃ next favorite,
      writeRemoteFavorite db record now = .ok next ∧
      localFavorite next key = .ok (some favorite) ∧
      (protocolSnapshot favorite = record.favorite ↔ CanonicalTag record.favorite.targetLang) ∧
      (desiredConverged .favoriteUpsert favorite record = true ↔
        CanonicalTag record.favorite.targetLang) := by
  refine ⟨served.storable.valid, ?_⟩
  obtain ⟨next, favorite, written, read⟩ := served.readBack db now
  have exactly : protocolSnapshot favorite = record.favorite ↔
      CanonicalTag record.favorite.targetLang := by
    rw [localFavorite_written served.keyed written read]
    exact and_iff_right served.sourceCanonical
  refine ⟨next, favorite, written, read, exactly, ?_⟩
  simp only [desiredConverged, active, Option.isNone_none, Bool.true_and, decide_eq_true_eq]
  exact exactly

end Stored

section Concrete

attribute [local instance] Sample.tables Sample.parser

/-- The favorited word with its target tag in a given spelling. -/
def spelledRecord (targetLang : String) : FavoriteRecord :=
  { giftRecord with
    favorite := { giftRecord.favorite with targetLang := targetLang }
    serverReceivedAt := 100 }

def spelledRequests (targetLang : String) : List ApiRequest :=
  [.push "user" "desk" [{ giftPush (Sample.eventId 1).text 0 .favoriteUpsert with
    favorite := some (spelledRecord targetLang).favorite }] 100]

theorem served_spelled {targetLang : String}
    (read : (Server.favoriteRecord (answerAll 500 (ServerDb.initial ["user"] [("user", "desk")] :
      ServerDb PushEvent) (spelledRequests targetLang)) "user" Sample.giftKey.toHex).toOption =
        some (some (spelledRecord targetLang))) :
    Served PushEvent Sample.giftKey (spelledRecord targetLang) := by
  refine ⟨500, ["user"], [("user", "desk")], spelledRequests targetLang, "user", ?_⟩
  exact toOption_eq_some_iff.mp read

theorem canonical_served : Served PushEvent Sample.giftKey (spelledRecord "zh-CN") := by
  apply served_spelled
  decide +kernel

theorem respelled_served : Served PushEvent Sample.giftKey (spelledRecord "zh-cn") := by
  apply served_spelled
  decide +kernel

theorem remote_favorite_round_trip_gift :
    ∃ next favorite, writeRemoteFavorite (ProfileDb.initial (Sample.eventId 0) "phone" 50)
        (spelledRecord "zh-CN") 102 = .ok next ∧
      localFavorite next Sample.giftKey = .ok (some favorite) ∧
      protocolSnapshot favorite = (spelledRecord "zh-CN").favorite ∧
      desiredConverged .favoriteUpsert favorite (spelledRecord "zh-CN") = true := by
  obtain ⟨-, next, favorite, written, read, exactly, converged⟩ :=
    remote_favorite_round_trip canonical_served rfl
      (ProfileDb.initial (Sample.eventId 0) "phone" 50) 102
  have canonical : CanonicalTag (spelledRecord "zh-CN").favorite.targetLang := by decide
  exact ⟨next, favorite, written, read, exactly.mpr canonical, converged.mpr canonical⟩

/-- A target tag the server stores as it came is read back in another spelling. -/
theorem remote_favorite_respelled :
    Served PushEvent Sample.giftKey (spelledRecord "zh-cn") ∧
      (spelledRecord "zh-cn").deletedAt = none ∧ validateRemote (spelledRecord "zh-cn") = .ok () ∧
      ∃ next favorite, writeRemoteFavorite (ProfileDb.initial (Sample.eventId 0) "phone" 50)
          (spelledRecord "zh-cn") 102 = .ok next ∧
        localFavorite next Sample.giftKey = .ok (some favorite) ∧
        protocolSnapshot favorite ≠ (spelledRecord "zh-cn").favorite ∧
        desiredConverged .favoriteUpsert favorite (spelledRecord "zh-cn") = false := by
  have served := respelled_served
  obtain ⟨next, favorite, written, read⟩ :=
    served.readBack (ProfileDb.initial (Sample.eventId 0) "phone" 50) 102
  have changed : protocolSnapshot favorite ≠ (spelledRecord "zh-cn").favorite := by
    rw [Ne, localFavorite_written served.keyed written read]
    decide +kernel
  refine ⟨served, rfl, served.storable.valid, next, favorite, written, read, changed, ?_⟩
  simp [desiredConverged, changed]

end Concrete

end Lvos.System
