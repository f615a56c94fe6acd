import Lvos.Storage.ImportReady

set_option autoImplicit false

namespace Lvos.Storage

open Lvos.Core Lvos.Sync
open Relational (Table)
open Transaction (bind_ok_iff)
open Absorption (Turns)

/-! What the preview of an import announces, and what the import does. -/

/-- What validation promises of the keys of a document. -/
structure DistinctKeys (document : ValidatedExport) : Prop where
  histories : (document.history.map (fun entry => entry.content.contentKey)).Nodup
  favorites : (document.favorites.map (fun favorite => favorite.content.contentKey)).Nodup
  listed : document.historyKeys = document.history.map (fun entry => entry.content.contentKey)

theorem DistinctKeys.of_validated [ContentTables] {document : PortableDataExport}
    {validated : ValidatedExport} (valid : validateExport document = .ok validated) :
    DistinctKeys validated := by
  obtain ⟨-, -, histories, -, favorites, -, -, listed, -⟩ := validateExport_iff.mp valid
  exact ⟨histories, favorites, listed⟩

/-- The ids of an import are those of no Outbox row, and all different. -/
structure FreshIds (db : ProfileDb) (document : ValidatedExport) (eventIds : ContentKey → Uuid) :
    Prop where
  unused : ∀ favorite ∈ document.favorites, Unused db (eventIds favorite.content.contentKey)
  distinct : (document.favorites.map (fun favorite => eventIds favorite.content.contentKey)).Nodup

section Preview

variable {start db next : ProfileDb} {document : ValidatedExport} {now : Int}
  {eventIds : ContentKey → Uuid} {favorite : Favorite}

theorem mergeHistory_announced {entry : HistoryEntry} {result : PortableImportResult}
    (same : db.historyEntries.get entry.content.contentKey =
      start.historyEntries.get entry.content.contentKey) :
    (mergeHistory db entry result).2 = previewHistory start result entry := by
  unfold mergeHistory previewHistory
  rw [← same]
  cases db.historyEntries.get entry.content.contentKey with
  | none => rfl
  | some existing =>
      dsimp only
      split
      · rfl
      · rfl

/-- The history loop counts what the preview counts: it comes to every key once. -/
theorem mergeHistories_announced :
    ∀ (entries : List HistoryEntry) (db : ProfileDb) (result : PortableImportResult),
      (entries.map (fun entry => entry.content.contentKey)).Nodup →
      (∀ entry ∈ entries, db.historyEntries.get entry.content.contentKey =
        start.historyEntries.get entry.content.contentKey) →
      (mergeHistories db result entries).2 = entries.foldl (previewHistory start) result := by
  intro entries
  induction entries with
  | nil =>
      intro db result _ _
      rfl
  | cons entry rest ih =>
      intro db result nodup same
      rw [List.map_cons, List.nodup_cons] at nodup
      unfold mergeHistories
      rw [List.foldl_cons, ← mergeHistory_announced (same entry List.mem_cons_self)]
      refine ih _ _ nodup.2 ?_
      intro other member
      have apart : other.content.contentKey ≠ entry.content.contentKey := by
        intro equal
        exact nodup.1 (equal ▸ List.mem_map_of_mem member)
      rw [mergeHistory_get, if_neg apart]
      exact same other (List.mem_cons_of_mem entry member)

/-- A Favorite the loop has not come to: its rows are those the preview found. -/
structure Unmerged (document : ValidatedExport) (eventIds : ContentKey → Uuid)
    (start db : ProfileDb) (favorite : Favorite) : Prop where
  row : db.favorites.get favorite.content.contentKey =
    start.favorites.get favorite.content.contentKey
  history : favorite.content.contentKey ∉ document.historyKeys →
    db.historyEntries.get favorite.content.contentKey =
      start.historyEntries.get favorite.content.contentKey
  unused : Unused db (eventIds favorite.content.contentKey)

theorem favoriteTx_congr {key : ContentKey}
    (same : db.favorites.get key = start.favorites.get key) :
    favoriteTx db key = favoriteTx start key := by
  unfold favoriteTx
  rw [same]

theorem Unused.put {key : CoalesceKey} {row : OutboxRow} {eventId : Uuid}
    (unused : Unused db eventId) (apart : row.eventId ≠ eventId)
    (outbox : next.syncOutbox = db.syncOutbox.put key row) : Unused next eventId := by
  intro other found stored
  rw [outbox, Table.get_put] at stored
  split at stored
  · cases stored
    exact apart
  · exact unused other found stored

/-- A turn of the Favorite loop leaves the rows of other contents alone, and uses one id. -/
theorem MergesFavorite.apart (merged : MergesFavorite document now eventIds db favorite next) :
    (∀ key, key ≠ favorite.content.contentKey →
      next.favorites.get key = db.favorites.get key ∧
        next.historyEntries.get key = db.historyEntries.get key) ∧
      ∀ eventId, eventIds favorite.content.contentKey ≠ eventId → Unused db eventId →
        Unused next eventId := by
  obtain ⟨result, after, success⟩ := merged
  have history : ∀ key, key ≠ favorite.content.contentKey →
      next.historyEntries.get key = db.historyEntries.get key := by
    intro key away
    rw [mergeFavorite_history success, mergeFavoriteHistory_get]
    exact if_neg (fun all => away all.1)
  suffices rows : (∀ key, key ≠ favorite.content.contentKey →
      next.favorites.get key = db.favorites.get key) ∧
      ∀ eventId, eventIds favorite.content.contentKey ≠ eventId → Unused db eventId →
        Unused next eventId from
    ⟨fun key away => ⟨rows.1 key away, history key away⟩, rows.2⟩
  obtain ⟨sameFavorites, sameOutbox⟩ := mergeFavoriteHistory_apart document db favorite result
  have kept : ∀ eventId, Unused db eventId →
      Unused (mergeFavoriteHistory document db favorite result).1 eventId :=
    fun eventId unused => unused.congr sameOutbox
  rcases mergeFavorite_cases success with ⟨rfl, -⟩ | ⟨-, value, stored⟩ | ⟨-, rfl, -⟩
  · exact ⟨fun key _ => by rw [sameFavorites], fun eventId _ => kept eventId⟩
  · obtain ⟨-, ⟨rfl, -⟩ | ⟨entry, stats, -, -, -, -, written⟩⟩ := favoriteFromHistoryTx_cases stored
    · exact ⟨fun key _ => by rw [sameFavorites], fun eventId _ => kept eventId⟩
    · rw [written]
      refine ⟨?_, ?_⟩
      · intro key away
        dsimp only
        rw [Table.get_put_of_ne _ _ away, sameFavorites]
      · intro eventId fresh unused
        refine (kept eventId unused).put ?_ rfl
        rw [PendingOutbox.row_eventId]
        exact fresh
  · refine ⟨?_, fun eventId _ => kept eventId⟩
    intro key away
    show (Table.put _ _ _).get _ = _
    rw [Table.get_put_of_ne _ _ away, sameFavorites]

theorem Unmerged.turn {other : Favorite} (unmerged : Unmerged document eventIds start db other)
    (merged : MergesFavorite document now eventIds db favorite next)
    (apart : other.content.contentKey ≠ favorite.content.contentKey)
    (fresh : eventIds favorite.content.contentKey ≠ eventIds other.content.contentKey) :
    Unmerged document eventIds start next other := by
  obtain ⟨others, unused⟩ := merged.apart
  obtain ⟨row, history⟩ := others _ apart
  exact ⟨row.trans unmerged.row, fun outside => history.trans (unmerged.history outside),
    unused _ fresh unmerged.unused⟩

/-- The loop adds the history the preview has counted. -/
theorem mergeFavoriteHistory_announced (unmerged : Unmerged document eventIds start db favorite)
    (preview : PortableImportResult) :
    (mergeFavoriteHistory document db favorite preview).2 =
      if favorite.content.contentKey ∉ document.historyKeys ∧
          start.historyEntries.get favorite.content.contentKey = none then
        { preview with historyAdd := preview.historyAdd + 1 }
      else preview := by
  unfold mergeFavoriteHistory
  split
  · rename_i listed
    rw [if_neg (fun both => both.1 listed)]
  · rename_i outside
    rw [unmerged.history outside]
    split
    · rename_i entry found
      rw [if_neg (fun both => by rw [found] at both; cases both.2)]
    · rename_i missing
      rw [if_pos ⟨outside, missing⟩]

/-- A turn of the Favorite loop succeeds and counts what the preview counts. -/
theorem mergeFavorite_announced (unmerged : Unmerged document eventIds start db favorite)
    (ready : ImportReady db)
    (listed : ∀ key ∈ document.historyKeys, (db.historyEntries.get key).isSome = true)
    {preview counted : PortableImportResult}
    (announced : previewFavorite start document preview favorite = .ok counted) :
    ∃ next, mergeFavorite document now eventIds db favorite preview = .ok (next, counted) := by
  unfold previewFavorite at announced
  dsimp only at announced
  rw [← mergeFavoriteHistory_announced unmerged preview] at announced
  obtain ⟨existing, looked, rest⟩ := bind_ok_iff.mp announced
  have recorded := mergeFavoriteHistory_recorded listed favorite preview
  have middleReady := @mergeFavoriteHistory_ready db document ready favorite preview
  obtain ⟨sameFavorites, sameOutbox⟩ := mergeFavoriteHistory_apart document db favorite preview
  unfold mergeFavorite
  dsimp only
  generalize mergeFavoriteHistory document db favorite preview = merged at *
  obtain ⟨middle, counters⟩ := merged
  dsimp only at *
  have found : favoriteTx middle favorite.content.contentKey = .ok existing := by
    refine (favoriteTx_congr ?_).trans (fromStorage_ok looked)
    rw [sameFavorites]
    exact unmerged.row
  have writes : (∀ value, existing = some value → value.deletedAt ≠ none) →
      ∃ last value, favoriteFromHistoryTx favorite.content.contentKey now
        (eventIds favorite.content.contentKey) middle = .ok (last, value) := by
    intro inactive
    obtain ⟨entry, known⟩ := Option.isSome_iff_exists.mp recorded
    obtain ⟨stats, present⟩ := Option.isSome_iff_exists.mp (middleReady.counted _ recorded)
    have fits : (existing.map Favorite.entityRevision).getD 0 < i64Limit := by
      rcases favoriteTx_ok found with ⟨-, rfl⟩ | ⟨row, value, stored, parsed, rfl⟩
      · decide
      · rw [Option.map_some, Option.getD_some, (readFavorite_ok parsed).2.1]
        exact middleReady.bounded _ row stored
    obtain ⟨value, written⟩ := @favoriteFromHistoryTx_writes now middle _ _ _ _ existing known
      present found inactive fits (unmerged.unused.congr sameOutbox)
    exact ⟨_, value, written⟩
  rw [found]
  simp only [fromStorage, bind, Except.bind]
  split at rest
  · rename_i alive
    cases rest
    obtain ⟨last, value, written⟩ := writes (by rintro other ⟨⟩)
    exact ⟨last, by simp [alive, written]⟩
  · rename_i value alive
    split at rest
    · rename_i gone
      cases rest
      obtain ⟨time, dated⟩ := Option.isSome_iff_exists.mp gone
      obtain ⟨last, again, written⟩ := writes (by
        rintro other ⟨⟩
        rw [dated]
        exact Option.some_ne_none time)
      exact ⟨last, by simp [alive, dated, written]⟩
    · rename_i active
      cases rest
      exact ⟨middle, by simp [alive, Option.not_isSome_iff_eq_none.mp active]⟩
  · rename_i deleted
    cases rest
    exact ⟨_, by simp [deleted]; rfl⟩
  · rename_i value deleted
    cases rest
    exact ⟨_, by simp [deleted]; rfl⟩

/-- The Favorite loop counts what the preview counts. -/
theorem mergeFavorites_announced :
    ∀ (favorites : List Favorite) (db : ProfileDb) (preview counted : PortableImportResult),
      (favorites.map (fun favorite => favorite.content.contentKey)).Nodup →
      (favorites.map (fun favorite => eventIds favorite.content.contentKey)).Nodup →
      (∀ favorite ∈ favorites, Unmerged document eventIds start db favorite) → ImportReady db →
      (∀ key ∈ document.historyKeys, (db.historyEntries.get key).isSome = true) →
      previewFavorites start document preview favorites = .ok counted →
      ∃ next, mergeFavorites document now eventIds db preview favorites = .ok (next, counted) := by
  intro favorites
  induction favorites with
  | nil =>
      intro db preview counted _ _ _ _ _ announced
      cases announced
      exact ⟨db, rfl⟩
  | cons favorite rest ih =>
      intro db preview counted keys ids unmerged ready listed announced
      rw [List.map_cons, List.nodup_cons] at keys ids
      unfold previewFavorites at announced
      obtain ⟨counters, turned, looped⟩ := bind_ok_iff.mp announced
      obtain ⟨middle, merged⟩ := @mergeFavorite_announced start db document now eventIds favorite
        (unmerged favorite List.mem_cons_self) ready listed _ _ turned
      have later : ∀ other ∈ rest, Unmerged document eventIds start middle other := by
        intro other member
        refine (unmerged other (List.mem_cons_of_mem favorite member)).turn
          ⟨preview, counters, merged⟩ ?_ ?_
        · intro same
          exact keys.1 (same ▸ List.mem_map_of_mem member)
        · intro same
          exact ids.1 (same ▸ List.mem_map_of_mem member)
      obtain ⟨next, finished⟩ := ih middle counters counted keys.2 ids.2 later
        (mergeFavorite_ready ready merged)
        (fun key member => mergeFavorite_recorded merged (listed key member)) looped
      exact ⟨next, bind_ok_iff.mpr ⟨(middle, counters), merged, finished⟩⟩

/-- What a preview announces is what the merge does. -/
theorem applyMerge_announced (ready : ImportReady db) (keys : DistinctKeys document)
    (fresh : FreshIds db document eventIds) {preview : PortableImportResult}
    (announced : previewMerge db document = .ok preview) :
    ∃ next, applyMerge document now eventIds db = .ok (next, preview) := by
  unfold previewMerge at announced
  unfold applyMerge
  dsimp only
  rw [← mergeHistories_announced document.history db _ keys.histories (fun _ _ => rfl)] at announced
  obtain ⟨begun, sameFavorites, sameOutbox⟩ := mergesHistory_ready
    (mergeHistories_turns document.history db ⟨0, 0, 0, 0, 0, 0, 0, document.queryStatsCount⟩) ready
  refine mergeFavorites_announced document.favorites _ _ _ keys.favorites fresh.distinct ?_ begun
    ?_ announced
  · intro favorite member
    refine ⟨by rw [sameFavorites], ?_, ?_⟩
    · intro outside
      rw [keys.listed] at outside
      exact mergeHistories_apart _ _ _ outside
    · exact (fresh.unused favorite member).congr sameOutbox
  · intro key member
    rw [keys.listed] at member
    obtain ⟨entry, inside, rfl⟩ := List.mem_map.mp member
    exact mergesHistory_recorded (mergeHistories_turns _ db _) entry inside

/-- The merge reads the row of every Favorite it comes to. -/
theorem MergesFavorite.readable (merged : MergesFavorite document now eventIds db favorite next) :
    Readable db favorite.content.contentKey := by
  obtain ⟨result, after, success⟩ := merged
  unfold mergeFavorite at success
  dsimp only at success
  obtain ⟨existing, looked, -⟩ := bind_ok_iff.mp success
  refine ⟨existing, (favoriteTx_congr ?_).trans (fromStorage_ok looked)⟩
  rw [(mergeFavoriteHistory_apart document db favorite result).1]

/-- A merge that succeeds could have been announced. -/
theorem mergesFavorite_readable {favorites : List Favorite}
    (turns : Turns (MergesFavorite document now eventIds) db favorites next) :
    ∀ favorite ∈ favorites, Readable db favorite.content.contentKey := by
  induction turns with
  | nil state => exact nofun
  | @cons first middle last value rest head tail ih =>
      intro favorite member
      rcases List.mem_cons.mp member with rfl | later
      · exact head.readable
      · by_cases own : favorite.content.contentKey = value.content.contentKey
        · rw [own]
          exact head.readable
        · obtain ⟨found, looked⟩ := ih favorite later
          exact ⟨found, (favoriteTx_congr (head.apart.1 _ own).1.symm).trans looked⟩

/-- On a Profile that is ready, an import does what its preview announces. -/
theorem applyPortableImport_announced (ready : ImportReady db) (keys : DistinctKeys document)
    (fresh : FreshIds db document eventIds) {preview : PortableImportResult}
    (announced : previewMerge db document = .ok preview) :
    ∃ next, applyPortableImport db ⟨db.profileMeta.profileId, document⟩ now eventIds =
      (next, .ok preview) := by
  obtain ⟨next, merged⟩ := @applyMerge_announced db document now eventIds ready keys fresh _
    announced
  refine ⟨next, ?_⟩
  unfold applyPortableImport
  rw [if_neg (not_not.mpr rfl)]
  exact Transaction.atomically_of_ok merged

/-- An import that fails fails on a row that is not read, or is one for another Profile; it
fails whenever it is tried. -/
theorem applyPortableImport_fails (ready : ImportReady db) (keys : DistinctKeys document)
    (fresh : FreshIds db document eventIds) {targetProfileId : Uuid} {reason : PortableDataError}
    (failed : (applyPortableImport db ⟨targetProfileId, document⟩ now eventIds).2 = .error reason)
    (later : Int) (otherIds : ContentKey → Uuid) :
    ∃ other, applyPortableImport db ⟨targetProfileId, document⟩ later otherIds =
      (db, .error other) := by
  rcases applyPortableImport_turns db ⟨targetProfileId, document⟩ later otherIds with
    ⟨other, same⟩ | ⟨middle, next, result, same, histories, favorites⟩
  · exact ⟨other, same⟩
  · have rows := (mergesHistory_ready histories ready).2.1
    have readable : ∀ favorite ∈ document.favorites, Readable db favorite.content.contentKey := by
      intro favorite member
      obtain ⟨found, looked⟩ := mergesFavorite_readable favorites favorite member
      exact ⟨found, (favoriteTx_congr (by rw [rows])).trans looked⟩
    obtain ⟨preview, announced⟩ := (previewFavorites_readable db document document.favorites
      (document.history.foldl (previewHistory db) _)).mpr readable
    have target : targetProfileId = db.profileMeta.profileId := by
      by_contra apart
      unfold applyPortableImport at same
      rw [if_pos (Ne.symm apart)] at same
      cases same
    obtain ⟨last, succeeded⟩ := @applyPortableImport_announced db document now eventIds ready keys
      fresh preview announced
    rw [target, succeeded] at failed
    cases failed

end Preview

end Lvos.Storage
