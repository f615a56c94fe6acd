import Lvos.Storage.Export
import Lvos.Storage.Merge

set_option autoImplicit false

namespace Lvos.Storage

open Lvos.Core Lvos.Sync
open Relational (Table)
open Transaction (bind_ok_iff toOption_eq_some_iff)

/-! An export imported into an empty Profile. -/

@[simp] theorem parseLanguage_text (message : String) (code : LanguageCode) :
    parseLanguage message code.text = .ok code := by
  unfold parseLanguage
  rw [LanguageCode.parse_text]

/-- The Favorite that a history entry is made into. -/
def favoriteOf (entry : HistoryEntry) (now : Int) (entityRevision : Nat) : Favorite where
  content := entry.content
  translation := { entry.translation with updatedAt := now }
  createdAt := now
  updatedAt := now
  deletedAt := none
  entityRevision := entityRevision

theorem parseFavorite_favoriteRowOf (entry : HistoryEntry) (now : Int) (entityRevision : Nat) :
    parseFavorite entry.content.contentKey (favoriteRowOf entry now entityRevision) =
      .ok (favoriteOf entry now entityRevision) := by
  unfold parseFavorite readFavorite favoriteRowOf
  simp [parseKind_protocolName, bind, Except.bind, favoriteOf]

theorem parseFavorite_archivedRow {favorite : Favorite}
    (dated : favorite.translation.updatedAt = favorite.updatedAt) :
    parseFavorite favorite.content.contentKey (archivedRow favorite) = .ok favorite.imported := by
  unfold parseFavorite readFavorite archivedRow
  simp [parseKind_protocolName, bind, Except.bind, Favorite.imported, ← dated]

/-- The history entry a Favorite is rebuilt from. -/
def sourceEntry (document : ValidatedExport) (favorite : Favorite) : HistoryEntry :=
  match document.history.find? (fun entry =>
    decide (entry.content.contentKey = favorite.content.contentKey)) with
  | some entry => entry
  | none => historyFromFavorite favorite

theorem sourceEntry_key (document : ValidatedExport) (favorite : Favorite) :
    (sourceEntry document favorite).content.contentKey = favorite.content.contentKey := by
  unfold sourceEntry
  split
  · rename_i entry found
    simpa using List.find?_some found
  · rfl

/-- What the Favorite loop has made of the history when it is through with `done`. -/
structure HistoryRebuilt (document : ValidatedExport) (done : List Favorite) (db : ProfileDb) :
    Prop where
  listed : ∀ entry ∈ document.history,
    db.historyEntries.get entry.content.contentKey = some entry
  derived : ∀ favorite ∈ done,
    db.historyEntries.get favorite.content.contentKey = some (sourceEntry document favorite)
  others : ∀ key, key ∉ document.historyKeys →
    key ∉ done.map (fun favorite => favorite.content.contentKey) →
    db.historyEntries.get key = none
  counted : ∀ key entry, db.historyEntries.get key = some entry →
    (db.queryStats.get key).isSome = true

/-- What it has made of the Favorites and the Outbox. -/
structure FavoritesRebuilt (document : ValidatedExport) (now : Int) (eventIds : ContentKey → Uuid)
    (done : List Favorite) (db : ProfileDb) : Prop where
  active : ∀ favorite ∈ done, favorite.deletedAt = none →
    db.favorites.get favorite.content.contentKey =
      some (favoriteRowOf (sourceEntry document favorite) now 0)
  archived : ∀ favorite ∈ done, favorite.deletedAt ≠ none →
    db.favorites.get favorite.content.contentKey = some (archivedRow favorite)
  absent : ∀ key, key ∉ done.map (fun favorite => favorite.content.contentKey) →
    db.favorites.get key = none
  ids : ∀ coalesceKey row, db.syncOutbox.get coalesceKey = some row →
    ∃ favorite ∈ done, row.eventId = eventIds favorite.content.contentKey

theorem sourceEntry_of_absent {document : ValidatedExport} {favorite : Favorite}
    (absent : favorite.content.contentKey ∉ document.history.map (fun entry =>
      entry.content.contentKey)) :
    sourceEntry document favorite = historyFromFavorite favorite := by
  unfold sourceEntry
  split
  · rename_i entry found
    have member := List.mem_of_find?_eq_some found
    have keyed : entry.content.contentKey = favorite.content.contentKey := by
      simpa using List.find?_some found
    exact absurd (keyed ▸ List.mem_map_of_mem member) absent
  · rfl

theorem sourceEntry_of_mem {document : ValidatedExport} {favorite : Favorite}
    (present : favorite.content.contentKey ∈ document.history.map (fun entry =>
      entry.content.contentKey)) : sourceEntry document favorite ∈ document.history := by
  unfold sourceEntry
  split
  · rename_i entry found
    exact List.mem_of_find?_eq_some found
  · rename_i missing
    obtain ⟨entry, member, keyed⟩ := List.mem_map.mp present
    have absent := List.find?_eq_none.mp missing entry member
    simp [keyed] at absent

theorem insertHistory_counted (db : ProfileDb) (entry : HistoryEntry) (key : ContentKey) :
    ((insertHistoryWithZeroStats db entry).queryStats.get key).isSome = true ↔
      key = entry.content.contentKey ∨ (db.queryStats.get key).isSome = true := by
  unfold insertHistoryWithZeroStats
  dsimp only [upsertHistory]
  split
  · rename_i stats found
    constructor
    · exact Or.inr
    · rintro (rfl | present)
      · rw [found]
        rfl
      · exact present
  · rw [Table.get_put]
    by_cases same : key = entry.content.contentKey
    · simp [same]
    · simp [same]

theorem insertHistory_apart (db : ProfileDb) (entry : HistoryEntry) :
    (insertHistoryWithZeroStats db entry).favorites = db.favorites ∧
      (insertHistoryWithZeroStats db entry).syncOutbox = db.syncOutbox := by
  unfold insertHistoryWithZeroStats
  dsimp only [upsertHistory]
  split
  · exact ⟨rfl, rfl⟩
  · exact ⟨rfl, rfl⟩

section Histories

/-- Entries of new keys are all inserted. -/
theorem mergeHistories_inserts :
    ∀ (entries : List HistoryEntry) (db : ProfileDb) (result : PortableImportResult),
      (entries.map (fun entry => entry.content.contentKey)).Nodup →
      (∀ entry ∈ entries, db.historyEntries.get entry.content.contentKey = none) →
      (∀ key row, db.historyEntries.get key = some row →
        (db.queryStats.get key).isSome = true) →
      (∀ entry ∈ entries, (mergeHistories db result entries).1.historyEntries.get
        entry.content.contentKey = some entry) ∧
      (∀ key row, (mergeHistories db result entries).1.historyEntries.get key = some row →
        ((mergeHistories db result entries).1.queryStats.get key).isSome = true) ∧
      (mergeHistories db result entries).1.favorites = db.favorites ∧
      (mergeHistories db result entries).1.syncOutbox = db.syncOutbox := by
  intro entries
  induction entries with
  | nil =>
      intro db result _ _ counted
      exact ⟨nofun, counted, rfl, rfl⟩
  | cons entry rest ih =>
      intro db result nodup absent counted
      rw [List.map_cons, List.nodup_cons] at nodup
      unfold mergeHistories
      dsimp only
      have merged : (mergeHistory db entry result).1 = insertHistoryWithZeroStats db entry := by
        unfold mergeHistory
        rw [absent entry (by simp)]
      obtain ⟨favorites, syncOutbox⟩ := insertHistory_apart db entry
      generalize mergeHistory db entry result = outcome at merged ⊢
      obtain ⟨middle, counters⟩ := outcome
      dsimp only at merged ⊢
      subst merged
      have untouched : ∀ other ∈ rest, (insertHistoryWithZeroStats db entry).historyEntries.get
          other.content.contentKey = none := by
        intro other member
        have differs : other.content.contentKey ≠ entry.content.contentKey := by
          intro same
          exact nodup.1 (same ▸ List.mem_map_of_mem member)
        rw [insertHistory_get, if_neg differs]
        exact absent other (by simp [member])
      have shells : ∀ key row, (insertHistoryWithZeroStats db entry).historyEntries.get key =
          some row → ((insertHistoryWithZeroStats db entry).queryStats.get key).isSome = true := by
        intro key row found
        rw [insertHistory_counted]
        rw [insertHistory_get] at found
        split at found
        · rename_i same
          exact Or.inl same
        · exact Or.inr (counted key row found)
      obtain ⟨stored, stats, sameFavorites, sameOutbox⟩ :=
        ih (insertHistoryWithZeroStats db entry) counters nodup.2 untouched shells
      refine ⟨?_, stats, sameFavorites.trans favorites, sameOutbox.trans syncOutbox⟩
      intro other member
      rcases List.mem_cons.mp member with rfl | later
      · rw [mergeHistories_apart _ _ _ nodup.1, insertHistory_get, if_pos rfl]
      · exact stored other later

end Histories

section Favorites

variable {document : ValidatedExport} {now : Int} {eventIds : ContentKey → Uuid}
variable {done : List Favorite} {db : ProfileDb} {favorite : Favorite}

/-- The history of the next Favorite is there before the Favorite is written. -/
theorem HistoryRebuilt.next (rebuilt : HistoryRebuilt document done db)
    (keys : document.historyKeys = document.history.map (fun entry => entry.content.contentKey))
    (new : favorite.content.contentKey ∉ done.map (fun other => other.content.contentKey))
    (result : PortableImportResult) :
    HistoryRebuilt document (done ++ [favorite])
        (mergeFavoriteHistory document db favorite result).1 ∧
      (mergeFavoriteHistory document db favorite result).1.favorites = db.favorites ∧
      (mergeFavoriteHistory document db favorite result).1.syncOutbox = db.syncOutbox := by
  by_cases listed : favorite.content.contentKey ∈ document.historyKeys
  · have same : mergeFavoriteHistory document db favorite result = (db, result) := by
      unfold mergeFavoriteHistory
      rw [if_pos listed]
    rw [same]
    refine ⟨⟨rebuilt.listed, ?_, ?_, rebuilt.counted⟩, rfl, rfl⟩
    · intro other member
      rcases List.mem_append.mp member with old | last
      · exact rebuilt.derived other old
      · rw [List.mem_singleton] at last
        subst last
        have source := rebuilt.listed _ (sourceEntry_of_mem (keys ▸ listed))
        rw [sourceEntry_key] at source
        exact source
    · intro key outside fresh
      rw [List.map_append, List.mem_append, not_or] at fresh
      exact rebuilt.others key outside fresh.1
  · have missing := rebuilt.others _ listed new
    have derived : sourceEntry document favorite = historyFromFavorite favorite :=
      sourceEntry_of_absent (keys ▸ listed)
    have inserted : (mergeFavoriteHistory document db favorite result).1 =
        insertHistoryWithZeroStats db (historyFromFavorite favorite) := by
      unfold mergeFavoriteHistory
      rw [if_neg listed, missing]
    obtain ⟨favorites, syncOutbox⟩ := insertHistory_apart db (historyFromFavorite favorite)
    rw [inserted]
    have getInserted := insertHistory_get db (historyFromFavorite favorite)
    refine ⟨⟨?_, ?_, ?_, ?_⟩, favorites, syncOutbox⟩
    · intro entry member
      have differs : entry.content.contentKey ≠ favorite.content.contentKey := by
        intro same
        rw [keys] at listed
        exact listed (same ▸ List.mem_map_of_mem member)
      rw [getInserted]
      exact (if_neg differs).trans (rebuilt.listed entry member)
    · intro other member
      rw [getInserted]
      rcases List.mem_append.mp member with old | last
      · have differs : other.content.contentKey ≠ favorite.content.contentKey := by
          intro same
          exact new (same ▸ List.mem_map_of_mem old)
        exact (if_neg differs).trans (rebuilt.derived other old)
      · rw [List.mem_singleton] at last
        subst last
        rw [derived]
        exact if_pos rfl
    · intro key outside fresh
      rw [List.map_append, List.mem_append, not_or, List.map_singleton, List.mem_singleton] at fresh
      rw [getInserted]
      exact (if_neg fresh.2).trans (rebuilt.others key outside fresh.1)
    · intro key entry found
      rw [insertHistory_counted]
      rw [getInserted] at found
      split at found
      · rename_i same
        exact Or.inl same
      · exact Or.inr (rebuilt.counted key entry found)

/-- Nothing of the history and the statistics changes with the Favorites. -/
theorem HistoryRebuilt.congr {next : ProfileDb} (rebuilt : HistoryRebuilt document done db)
    (historyEntries : next.historyEntries = db.historyEntries)
    (queryStats : next.queryStats = db.queryStats) : HistoryRebuilt document done next := by
  refine ⟨?_, ?_, ?_, ?_⟩
  · rw [historyEntries]
    exact rebuilt.listed
  · rw [historyEntries]
    exact rebuilt.derived
  · rw [historyEntries]
    exact rebuilt.others
  · rw [historyEntries, queryStats]
    exact rebuilt.counted

/-- An intent is queued under an id that no row has. -/
theorem upsertOutbox_of_unused {event : PendingOutbox} (unused : Unused db event.eventId)
    (fits : ∀ revision, event.revision = some revision → revision < i64Limit) :
    upsertOutbox db event = .ok { db with
      syncOutbox := db.syncOutbox.put event.coalesceKey
        (event.row (db.syncOutbox.get event.coalesceKey)) } := by
  have stored : sqliteI64Option event.revision = .ok event.revision := by
    cases given : event.revision with
    | none => rfl
    | some revision =>
        have within : sqliteI64 revision = .ok revision := if_pos (fits revision given)
        exact bind_ok_iff.mpr ⟨revision, within, rfl⟩
  have free : ¬ db.syncOutbox.rows.any
      (fun row => decide (row.2.eventId = event.eventId)) = true := by
    rw [List.any_eq_true]
    rintro ⟨⟨coalesceKey, row⟩, member, same⟩
    exact unused coalesceKey row ((Table.mem_rows_iff _ _ _).mp member) (by simpa using same)
  unfold upsertOutbox
  rw [stored]
  exact if_neg free

theorem favoriteRowOf_readable (key : ContentKey) (entry : HistoryEntry) (now : Int)
    (entityRevision : Nat) :
    ∃ favorite, parseFavorite key (favoriteRowOf entry now entityRevision) = .ok favorite := by
  unfold parseFavorite readFavorite favoriteRowOf
  simp [parseKind_protocolName, bind, Except.bind]

/-- The Favorite of a content that has no active one is written from its history, at the
revision of the deleted one. -/
theorem favoriteFromHistoryTx_writes {key : ContentKey} {entry : HistoryEntry}
    {stats : QueryStats} {eventId : Uuid} {existing : Option Favorite}
    (known : db.historyEntries.get key = some entry) (counted : db.queryStats.get key = some stats)
    (looked : favoriteTx db key = .ok existing)
    (inactive : ∀ favorite, existing = some favorite → favorite.deletedAt ≠ none)
    (fits : (existing.map Favorite.entityRevision).getD 0 < i64Limit)
    (unused : Unused db eventId) :
    ∃ favorite, favoriteFromHistoryTx key now eventId db = .ok ({ db with
      favorites := db.favorites.put key
        (favoriteRowOf entry now ((existing.map Favorite.entityRevision).getD 0))
      syncOutbox := db.syncOutbox.put (.favorite key)
        ((favoriteIntent key "active" ((existing.map Favorite.entityRevision).getD 0) stats now
          .favoriteUpsert eventId).row (db.syncOutbox.get (.favorite key))) }, favorite) := by
  have gone : existing.filter (fun favorite => favorite.deletedAt.isNone) = none := by
    rw [Option.filter_eq_none_iff]
    intro favorite found active
    exact inactive favorite found (Option.isNone_iff_eq_none.mp active)
  unfold favoriteFromHistoryTx
  rw [known, counted]
  obtain ⟨favorite, parsed⟩ :=
    favoriteRowOf_readable key entry now ((existing.map Favorite.entityRevision).getD 0)
  refine ⟨favorite, bind_ok_iff.mpr ⟨existing, looked, ?_⟩⟩
  dsimp only
  rw [gone]
  refine bind_ok_iff.mpr ⟨_, if_pos fits, bind_ok_iff.mpr
    ⟨_, upsertOutbox_of_unused unused ?_, bind_ok_iff.mpr ⟨some favorite, ?_, rfl⟩⟩⟩
  · rintro _ ⟨⟩
    exact fits
  · unfold favoriteTx
    dsimp only
    rw [Table.get_put_self]
    dsimp only
    rw [parsed]
    rfl

/-- One more row at the end of what is rebuilt. -/
theorem FavoritesRebuilt.snoc {next : ProfileDb}
    (rebuilt : FavoritesRebuilt document now eventIds done db)
    (new : favorite.content.contentKey ∉ done.map (fun other => other.content.contentKey))
    {row : FavoriteRow}
    (favorites : next.favorites = db.favorites.put favorite.content.contentKey row)
    (active : favorite.deletedAt = none →
      row = favoriteRowOf (sourceEntry document favorite) now 0)
    (archived : favorite.deletedAt ≠ none → row = archivedRow favorite)
    (ids : ∀ coalesceKey event, next.syncOutbox.get coalesceKey = some event →
      event.eventId = eventIds favorite.content.contentKey ∨
        db.syncOutbox.get coalesceKey = some event) :
    FavoritesRebuilt document now eventIds (done ++ [favorite]) next := by
  have apart : ∀ other ∈ done, other.content.contentKey ≠ favorite.content.contentKey := by
    intro other member same
    exact new (same ▸ List.mem_map_of_mem member)
  refine ⟨?_, ?_, ?_, ?_⟩
  · intro other member alive
    rw [favorites]
    rcases List.mem_append.mp member with old | last
    · rw [Table.get_put_of_ne _ _ (apart other old)]
      exact rebuilt.active other old alive
    · rw [List.mem_singleton] at last
      subst last
      rw [Table.get_put_self, active alive]
  · intro other member gone
    rw [favorites]
    rcases List.mem_append.mp member with old | last
    · rw [Table.get_put_of_ne _ _ (apart other old)]
      exact rebuilt.archived other old gone
    · rw [List.mem_singleton] at last
      subst last
      rw [Table.get_put_self, archived gone]
  · intro key fresh
    rw [List.map_append, List.mem_append, not_or, List.map_singleton, List.mem_singleton] at fresh
    rw [favorites, Table.get_put_of_ne _ _ fresh.2]
    exact rebuilt.absent key fresh.1
  · intro coalesceKey event queued
    rcases ids coalesceKey event queued with mine | old
    · exact ⟨favorite, by simp, mine⟩
    · obtain ⟨other, member, same⟩ := rebuilt.ids coalesceKey event old
      exact ⟨other, by simp [member], same⟩

/-- One turn of the Favorite loop succeeds and rebuilds one more Favorite. -/
theorem mergeFavorite_rebuilds (histories : HistoryRebuilt document done db)
    (favorites : FavoritesRebuilt document now eventIds done db)
    (keys : document.historyKeys = document.history.map (fun entry => entry.content.contentKey))
    (distinct : eventIds favorite.content.contentKey ∉
      done.map (fun other => eventIds other.content.contentKey))
    (new : favorite.content.contentKey ∉ done.map (fun other => other.content.contentKey))
    (result : PortableImportResult) :
    ∃ next after, mergeFavorite document now eventIds db favorite result = .ok (next, after) ∧
      HistoryRebuilt document (done ++ [favorite]) next ∧
      FavoritesRebuilt document now eventIds (done ++ [favorite]) next := by
  obtain ⟨rebuilt, sameFavorites, sameOutbox⟩ := histories.next keys new result
  unfold mergeFavorite
  dsimp only
  generalize mergeFavoriteHistory document db favorite result = merged at *
  obtain ⟨middle, counters⟩ := merged
  dsimp only at rebuilt sameFavorites sameOutbox ⊢
  have absent : middle.favorites.get favorite.content.contentKey = none := by
    rw [sameFavorites]
    exact favorites.absent _ new
  have unread : favoriteTx middle favorite.content.contentKey = .ok none := by
    unfold favoriteTx
    rw [absent]
  rw [unread]
  cases gone : favorite.deletedAt with
  | none =>
      have known := rebuilt.derived favorite (by simp)
      obtain ⟨stats, counted⟩ := Option.isSome_iff_exists.mp (rebuilt.counted _ _ known)
      have unused : Unused db (eventIds favorite.content.contentKey) := by
        intro coalesceKey row queued same
        obtain ⟨other, member, used⟩ := favorites.ids coalesceKey row queued
        exact distinct (List.mem_map.mpr ⟨other, member, used.symm.trans same⟩)
      obtain ⟨found, written⟩ := @favoriteFromHistoryTx_writes now middle
        favorite.content.contentKey _ stats _ none known counted unread nofun (by decide)
        (unused.congr sameOutbox)
      refine ⟨{ middle with
          favorites := middle.favorites.put favorite.content.contentKey
            (favoriteRowOf (sourceEntry document favorite) now 0)
          syncOutbox := middle.syncOutbox.put (.favorite favorite.content.contentKey)
            ((favoriteIntent favorite.content.contentKey "active" 0 stats now .favoriteUpsert
              (eventIds favorite.content.contentKey)).row
              (middle.syncOutbox.get (.favorite favorite.content.contentKey))) },
        { counters with favoriteAdd := counters.favoriteAdd + 1 }, ?_, rebuilt.congr rfl rfl, ?_⟩
      · simp [fromStorage, written, bind, Except.bind]
      · have added : middle.favorites.put favorite.content.contentKey
            (favoriteRowOf (sourceEntry document favorite) now 0) =
            db.favorites.put favorite.content.contentKey
              (favoriteRowOf (sourceEntry document favorite) now 0) := by
          rw [sameFavorites]
        apply favorites.snoc new added (fun _ => rfl) (fun alive => absurd gone alive)
        intro coalesceKey event queued
        dsimp only at queued
        rw [Table.get_put] at queued
        split at queued
        · cases queued
          exact Or.inl (PendingOutbox.row_eventId _ _)
        · rw [sameOutbox] at queued
          exact Or.inr queued
  | some deleted =>
      refine ⟨archiveTombstone middle favorite,
        { counters with tombstoneArchive := counters.tombstoneArchive + 1 }, ?_,
        rebuilt.congr rfl rfl, ?_⟩
      · simp [fromStorage, bind, Except.bind]
      · have added : (archiveTombstone middle favorite).favorites =
            db.favorites.put favorite.content.contentKey (archivedRow favorite) := by
          unfold archiveTombstone
          rw [sameFavorites]
        apply favorites.snoc new added
        · intro alive
          rw [gone] at alive
          cases alive
        · exact fun _ => rfl
        · intro coalesceKey event queued
          rw [show (archiveTombstone middle favorite).syncOutbox = middle.syncOutbox from rfl,
            sameOutbox] at queued
          exact Or.inr queued

theorem not_mem_of_nodup_map {τ υ : Type} {name : τ → υ} {first rest : List τ} {value : τ}
    (nodup : ((first ++ value :: rest).map name).Nodup) : name value ∉ first.map name := by
  rw [List.map_append, List.nodup_append] at nodup
  intro member
  exact nodup.2.2 _ member _ (by simp) rfl

/-- The whole Favorite loop. -/
theorem mergeFavorites_rebuilds
    (keys : document.historyKeys = document.history.map (fun entry => entry.content.contentKey)) :
    ∀ (favorites done : List Favorite) (db : ProfileDb) (result : PortableImportResult),
      ((done ++ favorites).map (fun favorite => favorite.content.contentKey)).Nodup →
      ((done ++ favorites).map (fun favorite => eventIds favorite.content.contentKey)).Nodup →
      HistoryRebuilt document done db → FavoritesRebuilt document now eventIds done db →
      ∃ next after, mergeFavorites document now eventIds db result favorites = .ok (next, after) ∧
        HistoryRebuilt document (done ++ favorites) next ∧
        FavoritesRebuilt document now eventIds (done ++ favorites) next := by
  intro favorites
  induction favorites with
  | nil =>
      intro done db result _ _ histories rebuilt
      rw [List.append_nil]
      exact ⟨db, result, rfl, histories, rebuilt⟩
  | cons favorite rest ih =>
      intro done db result nodup distinct histories rebuilt
      obtain ⟨middle, counters, merged, middleHistories, middleRebuilt⟩ :=
        mergeFavorite_rebuilds histories rebuilt keys (not_mem_of_nodup_map distinct)
          (not_mem_of_nodup_map nodup) result
      have shifted : done ++ favorite :: rest = (done ++ [favorite]) ++ rest := by simp
      rw [shifted] at nodup distinct ⊢
      obtain ⟨next, after, looped, finalHistories, finalRebuilt⟩ :=
        ih (done ++ [favorite]) middle counters nodup distinct middleHistories middleRebuilt
      refine ⟨next, after, ?_, finalHistories, finalRebuilt⟩
      unfold mergeFavorites
      rw [merged]
      exact looped

end Favorites

/-- A validated document is imported into an empty Profile, which then holds it. -/
theorem applyPortableImport_rebuilds {document : ValidatedExport}
    (keys : document.historyKeys = document.history.map (fun entry => entry.content.contentKey))
    (histories : (document.history.map (fun entry => entry.content.contentKey)).Nodup)
    (favorites : (document.favorites.map (fun favorite => favorite.content.contentKey)).Nodup)
    (profileId : Uuid) (deviceId : String) (createdAt now : Int) {eventIds : ContentKey → Uuid}
    (distinct : (document.favorites.map (fun favorite =>
      eventIds favorite.content.contentKey)).Nodup) :
    ∃ next result, applyPortableImport (ProfileDb.initial profileId deviceId createdAt)
        ⟨profileId, document⟩ now eventIds = (next, .ok result) ∧
      HistoryRebuilt document document.favorites next ∧
      FavoritesRebuilt document now eventIds document.favorites next := by
  let empty := ProfileDb.initial profileId deviceId createdAt
  let counters : PortableImportResult := ⟨0, 0, 0, 0, 0, 0, 0, document.queryStatsCount⟩
  obtain ⟨stored, counted, sameFavorites, sameOutbox⟩ := mergeHistories_inserts document.history
    empty counters histories (fun _ _ => rfl) nofun
  have starts : HistoryRebuilt document [] (mergeHistories empty counters document.history).1 := by
    refine ⟨stored, nofun, ?_, counted⟩
    intro key outside _
    rw [keys] at outside
    rw [mergeHistories_apart _ _ _ outside]
    rfl
  have none : FavoritesRebuilt document now eventIds []
      (mergeHistories empty counters document.history).1 := by
    refine ⟨nofun, nofun, ?_, ?_⟩
    · intro key _
      rw [sameFavorites]
      rfl
    · intro coalesceKey row queued
      rw [sameOutbox] at queued
      cases queued
  obtain ⟨next, after, looped, rebuilt⟩ := mergeFavorites_rebuilds keys document.favorites [] _
    (mergeHistories empty counters document.history).2 favorites distinct starts none
  refine ⟨next, after, ?_, rebuilt⟩
  unfold applyPortableImport
  have intended : ¬ (ProfileDb.initial profileId deviceId createdAt).profileMeta.profileId ≠
      profileId := not_not.mpr rfl
  rw [if_neg intended]
  exact Transaction.atomically_of_ok looped

/-- The same text in the same language by the same Provider. -/
def SameTranslation (first second : TranslationSnapshot) : Prop :=
  first.targetLang = second.targetLang ∧ first.translation = second.translation ∧
    first.provider = second.provider

instance (first second : TranslationSnapshot) : Decidable (SameTranslation first second) :=
  inferInstanceAs (Decidable (_ ∧ _ ∧ _))

/-- Active, deleted or not there. -/
def favoriteStatus (found : Option Favorite) : Option Bool :=
  found.map (fun favorite => favorite.deletedAt.isNone)

/-- What a reader of `before` finds, a reader of `after` finds again. -/
structure Preserved (before after : ProfileDb) : Prop where
  favorites : ∀ key found, favoriteByKey before key = .ok found →
    ∃ again, favoriteByKey after key = .ok again ∧ favoriteStatus again = favoriteStatus found ∧
      ∀ favorite, found = some favorite → favorite.deletedAt = none →
        ∃ other, again = some other ∧ other.content = favorite.content ∧
          SameTranslation other.translation favorite.translation
  history : ∀ key entry, before.historyEntries.get key = some entry →
    after.historyEntries.get key = some entry

/-- Every active Favorite has the translation of its history row, where it has one. -/
def TranslationsAgree (db : ProfileDb) : Prop :=
  ∀ key favorite entry, favoriteByKey db key = .ok (some favorite) → favorite.deletedAt = none →
    db.historyEntries.get key = some entry → SameTranslation entry.translation favorite.translation

theorem translationsAgree_iff (db : ProfileDb) : TranslationsAgree db ↔
    ∀ row ∈ db.historyEntries.rows, ∀ favorite ∈ (favoriteByKey db row.1).toOption.join,
      favorite.deletedAt = none →
        SameTranslation row.2.translation favorite.translation := by
  constructor
  · rintro agree ⟨key, entry⟩ listed favorite read active
    exact agree key favorite entry (toOption_eq_some_iff.mp (Option.join_eq_some_iff.mp read))
      active ((Table.mem_rows_iff _ key entry).mp listed)
  · intro agree key favorite entry read active stored
    refine agree (key, entry) ((Table.mem_rows_iff _ key entry).mpr stored) favorite ?_ active
    exact Option.join_eq_some_iff.mpr (toOption_eq_some_iff.mpr read)

instance (db : ProfileDb) : Decidable (TranslationsAgree db) :=
  decidable_of_iff _ (translationsAgree_iff db).symm

section Preserved

variable {db next : ProfileDb} {username : Option String}
variable {favorites : List Favorite} {now : Int} {eventIds : ContentKey → Uuid}

theorem favoriteByKey_some {key : ContentKey} {found : Favorite}
    (read : favoriteByKey db key = .ok (some found)) :
    ∃ row, db.favorites.get key = some row ∧ parseFavorite key row = .ok found := by
  rcases favoriteTx_ok read with ⟨-, impossible⟩ | ⟨row, favorite, stored, parsed, same⟩
  · cases impossible
  · cases same
    exact ⟨row, stored, parsed⟩

theorem favoriteByKey_none {key : ContentKey} (read : favoriteByKey db key = .ok none) :
    db.favorites.get key = none := by
  rcases favoriteTx_ok read with ⟨absent, -⟩ | ⟨row, favorite, stored, parsed, same⟩
  · exact absent
  · cases same

theorem favoriteByKey_of_row {key : ContentKey} {row : FavoriteRow} {favorite : Favorite}
    (stored : db.favorites.get key = some row) (parsed : parseFavorite key row = .ok favorite) :
    favoriteByKey db key = .ok (some favorite) := by
  unfold favoriteByKey favoriteTx
  rw [stored]
  dsimp only
  rw [parsed]
  rfl

/-- A Favorite that is read is one of those that were exported. -/
theorem mem_of_read
    (parsed : List.Forall₂ (fun row favorite => parseFavorite row.1 row.2 = .ok favorite)
      (byContentKey db.favorites) favorites) {key : ContentKey} {favorite : Favorite}
    (read : favoriteByKey db key = .ok (some favorite)) : favorite ∈ favorites := by
  obtain ⟨row, stored, reading⟩ := favoriteByKey_some read
  have swapped := Transaction.related_of_mem_left parsed (key, row)
    ((mem_byContentKey _ key row).mpr stored)
  obtain ⟨other, member, again⟩ := swapped
  dsimp only at again
  rw [reading] at again
  cases again
  exact member

/-- The entry a Favorite of the export is rebuilt from. -/
theorem sourceEntry_exported (filed : HistoryFiled db) (favorite : Favorite) :
    sourceEntry (exportedPlan db favorites) favorite.imported =
      (db.historyEntries.get favorite.content.contentKey).getD
        (historyFromFavorite favorite.imported) := by
  cases found : db.historyEntries.get favorite.content.contentKey with
  | none =>
      rw [Option.getD_none]
      apply sourceEntry_of_absent
      intro listed
      obtain ⟨entry, member, keyed⟩ := List.mem_map.mp listed
      have stored := (mem_exportedHistory filed entry).mp member
      rw [show entry.content.contentKey = favorite.content.contentKey from keyed, found] at stored
      cases stored
  | some entry =>
      rw [Option.getD_some]
      have own : entry.content.contentKey = favorite.content.contentKey := filed _ entry found
      have listed : entry ∈ exportedHistory db :=
        (mem_exportedHistory filed entry).mpr (own ▸ found)
      have chosen : sourceEntry (exportedPlan db favorites) favorite.imported ∈
          exportedHistory db := by
        apply sourceEntry_of_mem
        exact List.mem_map.mpr ⟨entry, listed, own⟩
      have stored := (mem_exportedHistory filed _).mp chosen
      rw [sourceEntry_key] at stored
      exact Option.some.inj (stored.symm.trans found)

/-- An import of the export preserves the Profile exactly when the translations agree. -/
theorem preserved_iff [ContentTables] (filed : HistoryFiled db)
    (parsed : List.Forall₂ (fun row favorite => parseFavorite row.1 row.2 = .ok favorite)
      (byContentKey db.favorites) favorites)
    (acceptable : Acceptable db username favorites)
    (histories : HistoryRebuilt (exportedPlan db favorites) (exportedPlan db favorites).favorites
      next)
    (rebuilt : FavoritesRebuilt (exportedPlan db favorites) now eventIds
      (exportedPlan db favorites).favorites next) :
    Preserved db next ↔ TranslationsAgree db := by
  -- An active Favorite is read back as its source entry made a Favorite.
  have active : ∀ key favorite, favoriteByKey db key = .ok (some favorite) →
      favorite.deletedAt = none → favoriteByKey next key = .ok (some (favoriteOf
        ((db.historyEntries.get key).getD (historyFromFavorite favorite.imported)) now 0)) := by
    intro key favorite read alive
    obtain ⟨row, stored, reading⟩ := favoriteByKey_some read
    have keyed := parseFavorite_key reading
    have written := rebuilt.active favorite.imported
      (List.mem_map_of_mem (mem_of_read parsed read)) alive
    rw [sourceEntry_exported filed] at written
    rw [show favorite.imported.content.contentKey = key from keyed, keyed] at written
    apply favoriteByKey_of_row written
    have own : ((db.historyEntries.get key).getD
        (historyFromFavorite favorite.imported)).content.contentKey = key := by
      cases found : db.historyEntries.get key with
      | none => exact keyed
      | some entry => exact filed key entry found
    have again := parseFavorite_favoriteRowOf ((db.historyEntries.get key).getD
      (historyFromFavorite favorite.imported)) now 0
    rw [own] at again
    exact again
  constructor
  · intro preserved key favorite entry read alive found
    obtain ⟨again, reread, -, same⟩ := preserved.favorites key (some favorite) read
    obtain ⟨other, rfl, -, translation⟩ := same favorite rfl alive
    have rewritten := active key favorite read alive
    rw [found, Option.getD_some, reread] at rewritten
    cases rewritten
    exact translation
  · intro agree
    constructor
    · intro key found read
      cases found with
      | none =>
          have absent := favoriteByKey_none read
          refine ⟨none, ?_, rfl, nofun⟩
          unfold favoriteByKey favoriteTx
          rw [rebuilt.absent key]
          intro listed
          rw [show (exportedPlan db favorites).favorites = favorites.map Favorite.imported from rfl,
            imported_keys, parsed_keys parsed] at listed
          obtain ⟨⟨other, row⟩, member, rfl⟩ := List.mem_map.mp listed
          rw [(mem_byContentKey _ other row).mp member] at absent
          cases absent
      | some favorite =>
          cases gone : favorite.deletedAt with
          | none =>
              refine ⟨_, active key favorite read gone, ?_, ?_⟩
              · simp [favoriteStatus, favoriteOf, gone]
              · intro other same alive
                cases same
                refine ⟨_, rfl, ?_⟩
                cases found : db.historyEntries.get key with
                | none => exact ⟨rfl, rfl, rfl, rfl⟩
                | some entry =>
                    obtain ⟨row, stored, reading⟩ := favoriteByKey_some read
                    have own := filed key entry found
                    have same := acceptable.content favorite (mem_of_read parsed read) entry
                      ((mem_exportedHistory filed entry).mpr (own.symm ▸ found))
                      (own.trans (parseFavorite_key reading).symm)
                    exact ⟨same, agree key favorite entry read gone found⟩
          | some deleted =>
              obtain ⟨row, stored, reading⟩ := favoriteByKey_some read
              have keyed := parseFavorite_key reading
              have dead : favorite.imported.deletedAt ≠ none := by
                rw [show favorite.imported.deletedAt = some deleted from gone]
                exact Option.some_ne_none deleted
              have written := rebuilt.archived favorite.imported
                (List.mem_map_of_mem (mem_of_read parsed read)) dead
              have dated := (acceptable.listed favorite (mem_of_read parsed read)).dated
              have again := parseFavorite_archivedRow
                (show favorite.imported.translation.updatedAt = favorite.imported.updatedAt
                  from dated)
              rw [show favorite.imported.content.contentKey = key from keyed] at written again
              refine ⟨_, favoriteByKey_of_row written again, ?_, ?_⟩
              · simp [favoriteStatus, Favorite.imported, gone]
              · intro other same alive
                cases same
                rw [gone] at alive
                cases alive
    · intro key entry found
      have own := filed key entry found
      have stored := histories.listed entry
        ((mem_exportedHistory filed entry).mpr (own.symm ▸ found))
      rw [own] at stored
      exact stored

end Preserved

end Lvos.Storage
