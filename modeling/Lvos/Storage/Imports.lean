import Lvos.Storage.Previews

set_option autoImplicit false

namespace Lvos.Storage

open Lvos.Core Lvos.Sync
open Relational (Table)
open Absorption (Absorbs)

/-! What an import leaves of a Profile. -/

/-- What an import leaves of a Profile: active Favorites as they were, deleted ones readable,
no history that was queried earlier, and the statistics. -/
structure Conserves (db next : ProfileDb) : Prop where
  active : ∀ key row, db.favorites.get key = some row → row.deletedAt = none →
    next.favorites.get key = some row
  read : ∀ key found, favoriteTx db key = .ok (some found) →
    ∃ again, favoriteTx next key = .ok (some again)
  history : ∀ key entry, db.historyEntries.get key = some entry →
    ∃ later, next.historyEntries.get key = some later ∧
      entry.lastQueriedAt ≤ later.lastQueriedAt
  stats : ∀ key stats, db.queryStats.get key = some stats →
    next.queryStats.get key = some stats
  counts : ∀ key stats, next.queryStats.get key = some stats →
    db.queryStats.get key = some stats ∨ stats.deviceQueryCount = 0

section Conserved

variable {db middle next : ProfileDb} {document : ValidatedExport} {now : Int}
  {eventIds : ContentKey → Uuid} {favorite : Favorite} {entry : HistoryEntry} {key : ContentKey}

theorem Conserves.refl (db : ProfileDb) : Conserves db db :=
  ⟨fun _ _ stored _ => stored, fun _ found looked => ⟨found, looked⟩,
    fun _ entry stored => ⟨entry, stored, le_rfl⟩, fun _ _ stored => stored,
    fun _ _ stored => Or.inl stored⟩

theorem Conserves.trans (first : Conserves db middle) (second : Conserves middle next) :
    Conserves db next := by
  refine ⟨?_, ?_, ?_, ?_, ?_⟩
  · exact fun key row stored alive =>
      second.active key row (first.active key row stored alive) alive
  · intro key found looked
    obtain ⟨again, reread⟩ := first.read key found looked
    exact second.read key again reread
  · intro key entry stored
    obtain ⟨later, there, newer⟩ := first.history key entry stored
    obtain ⟨last, final, newest⟩ := second.history key later there
    exact ⟨last, final, newer.trans newest⟩
  · exact fun key stats stored => second.stats key stats (first.stats key stats stored)
  · intro key stats stored
    rcases second.counts key stats stored with old | zero
    · exact first.counts key stats old
    · exact Or.inr zero

/-- An entry that is inserted brings statistics only where there are none. -/
theorem insertHistory_stats (db : ProfileDb) (entry : HistoryEntry) (key : ContentKey) :
    (insertHistoryWithZeroStats db entry).queryStats.get key = db.queryStats.get key ∨
      (db.queryStats.get key = none ∧
        (insertHistoryWithZeroStats db entry).queryStats.get key =
          some ⟨0, entry.lastQueriedAt, entry.lastQueriedAt, 0, 0, none, none, none⟩) := by
  unfold insertHistoryWithZeroStats
  dsimp only [upsertHistory]
  split
  · exact Or.inl rfl
  · rename_i missing
    dsimp only
    rw [Table.get_put]
    split
    · rename_i own
      rw [own]
      exact Or.inr ⟨missing, rfl⟩
    · exact Or.inl rfl

theorem insertHistory_conserves
    (missing : db.historyEntries.get entry.content.contentKey = none) :
    Conserves db (insertHistoryWithZeroStats db entry) := by
  have favorites := (insertHistory_apart db entry).1
  have stats := insertHistory_stats db entry
  refine ⟨?_, ?_, ?_, ?_, ?_⟩
  · intro key row stored _
    rw [favorites]
    exact stored
  · intro key found looked
    exact ⟨found, (favoriteTx_congr (by rw [favorites])).trans looked⟩
  · intro key row stored
    have apart : key ≠ entry.content.contentKey := by
      rintro rfl
      rw [missing] at stored
      cases stored
    rw [insertHistory_get, if_neg apart]
    exact ⟨row, stored, le_rfl⟩
  · intro key row stored
    rcases stats key with same | ⟨absent, -⟩
    · exact same.trans stored
    · rw [absent] at stored
      cases stored
  · intro key row stored
    rcases stats key with same | ⟨-, zero⟩
    · exact Or.inl (same.symm.trans stored)
    · rw [zero] at stored
      cases stored
      exact Or.inr rfl

theorem upsertHistory_conserves {existing : HistoryEntry}
    (found : db.historyEntries.get entry.content.contentKey = some existing)
    (newer : existing.lastQueriedAt < entry.lastQueriedAt) :
    Conserves db (upsertHistory db entry) := by
  refine ⟨fun _ _ stored _ => stored, fun _ found looked => ⟨found, looked⟩, ?_,
    fun _ _ stored => stored, fun _ _ stored => Or.inl stored⟩
  intro key row stored
  rw [upsertHistory_get]
  split
  · rename_i own
    rw [own, found] at stored
    cases stored
    exact ⟨entry, rfl, newer.le⟩
  · exact ⟨row, stored, le_rfl⟩

theorem MergesHistory.conserves (merged : MergesHistory db entry next) : Conserves db next := by
  obtain ⟨result, rfl⟩ := merged
  unfold mergeHistory
  split
  · rename_i missing
    exact insertHistory_conserves missing
  · rename_i existing found
    split
    · rename_i newer
      exact upsertHistory_conserves found newer
    · exact .refl db

/-- A Favorite is put where there is no active one. -/
theorem Conserves.put {row : FavoriteRow} {favorite : Favorite}
    (inactive : ∀ old, db.favorites.get key = some old → old.deletedAt ≠ none)
    (parsed : parseFavorite key row = .ok favorite)
    (history : next.historyEntries = db.historyEntries) (stats : next.queryStats = db.queryStats)
    (favorites : next.favorites = db.favorites.put key row) : Conserves db next := by
  refine ⟨?_, ?_, ?_, ?_, ?_⟩
  · intro other old stored alive
    have apart : other ≠ key := by
      rintro rfl
      exact inactive old stored alive
    rw [favorites, Table.get_put_of_ne _ _ apart]
    exact stored
  · intro other found looked
    by_cases own : other = key
    · rw [own]
      refine ⟨favorite, favoriteByKey_of_row ?_ parsed⟩
      rw [favorites, Table.get_put_self]
    · refine ⟨found, (favoriteTx_congr ?_).trans looked⟩
      rw [favorites, Table.get_put_of_ne _ _ own]
  · intro other entry stored
    rw [history]
    exact ⟨entry, stored, le_rfl⟩
  · rw [stats]
    exact fun _ _ stored => stored
  · rw [stats]
    exact fun _ _ stored => Or.inl stored

theorem favoriteFromHistoryTx_conserves {eventId : Uuid} {favorite : Favorite}
    (success : favoriteFromHistoryTx key now eventId db = .ok (next, favorite)) :
    Conserves db next := by
  obtain ⟨-, ⟨rfl, -⟩ | ⟨entry, stats, -, -, inactive, -, written⟩⟩ :=
    favoriteFromHistoryTx_cases success
  · exact .refl next
  · obtain ⟨value, parsed⟩ :=
      favoriteRowOf_readable key entry now (revisionOf (db.favorites.get key))
    rw [written]
    refine .put ?_ parsed rfl rfl rfl
    intro old stored alive
    have deleted := inactive old stored
    rw [alive] at deleted
    cases deleted

theorem archivedRow_readable (key : ContentKey) (favorite : Favorite) :
    ∃ found, parseFavorite key (archivedRow favorite) = .ok found := by
  unfold parseFavorite readFavorite archivedRow
  simp [parseKind_protocolName, bind, Except.bind]

theorem mergeFavoriteHistory_conserves (document : ValidatedExport) (db : ProfileDb)
    (favorite : Favorite) (result : PortableImportResult) :
    Conserves db (mergeFavoriteHistory document db favorite result).1 := by
  rcases mergeFavoriteHistory_cases document db favorite result with same | ⟨inserted, -, missing⟩
  · rw [same]
    exact .refl db
  · rw [inserted]
    exact insertHistory_conserves missing

theorem MergesFavorite.conserves (merged : MergesFavorite document now eventIds db favorite next) :
    Conserves db next := by
  obtain ⟨result, after, success⟩ := merged
  have begun := mergeFavoriteHistory_conserves document db favorite result
  rcases mergeFavorite_cases success with ⟨rfl, -⟩ | ⟨-, value, stored⟩ | ⟨-, rfl, absent⟩
  · exact begun
  · exact begun.trans (favoriteFromHistoryTx_conserves stored)
  · obtain ⟨found, parsed⟩ := archivedRow_readable favorite.content.contentKey favorite
    refine begun.trans (.put ?_ parsed rfl rfl rfl)
    intro old stored
    rw [absent] at stored
    cases stored

/-- An imported entry is there, or one that was queried as late. -/
def HoldsHistory (db : ProfileDb) (entry : HistoryEntry) : Prop :=
  ∃ later, db.historyEntries.get entry.content.contentKey = some later ∧
    entry.lastQueriedAt ≤ later.lastQueriedAt

theorem HoldsHistory.conserved (conserves : Conserves db next) (holds : HoldsHistory db entry) :
    HoldsHistory next entry := by
  obtain ⟨later, stored, newer⟩ := holds
  obtain ⟨last, there, newest⟩ := conserves.history _ later stored
  exact ⟨last, there, newer.trans newest⟩

theorem absorbsHistory : Absorbs Conserves HoldsHistory MergesHistory where
  refl := .refl
  trans _ _ _ := .trans
  raises _ _ _ merged := MergesHistory.conserves merged
  stored db entry next merged := by
    obtain ⟨result, rfl⟩ := merged
    refine ⟨_, (mergeHistory_get db entry result _).trans (if_pos rfl), ?_⟩
    unfold newerWins
    split
    · exact le_rfl
    · split
      · exact le_rfl
      · omega
  stays _ _ _ conserves holds := holds.conserved conserves
  skips db entry next holds merged := by
    obtain ⟨result, rfl⟩ := merged
    obtain ⟨later, stored, newer⟩ := holds
    unfold mergeHistory
    rw [stored]
    dsimp only
    rw [if_neg (not_lt.mpr newer)]

/-- An imported Favorite has its history and a row that is read, active if it is active. -/
structure HoldsFavorite (document : ValidatedExport) (db : ProfileDb) (favorite : Favorite) :
    Prop where
  history : favorite.content.contentKey ∉ document.historyKeys →
    (db.historyEntries.get favorite.content.contentKey).isSome = true
  row : ∃ found, favoriteTx db favorite.content.contentKey = .ok (some found) ∧
    (favorite.deletedAt = none → found.deletedAt = none)

/-- An active Favorite that is read is the row itself. -/
theorem favoriteTx_row {found : Favorite} (looked : favoriteTx db key = .ok (some found)) :
    ∃ row, db.favorites.get key = some row ∧ row.deletedAt = found.deletedAt := by
  obtain ⟨row, stored, parsed⟩ := favoriteByKey_some looked
  exact ⟨row, stored, (readFavorite_ok parsed).1.symm⟩

theorem HoldsFavorite.conserved (conserves : Conserves db next)
    (holds : HoldsFavorite document db favorite) : HoldsFavorite document next favorite := by
  refine ⟨?_, ?_⟩
  · intro outside
    obtain ⟨entry, stored⟩ := Option.isSome_iff_exists.mp (holds.history outside)
    obtain ⟨later, there, -⟩ := conserves.history _ entry stored
    rw [there]
    rfl
  · obtain ⟨found, looked, alive⟩ := holds.row
    by_cases active : found.deletedAt = none
    · obtain ⟨row, stored, same⟩ := favoriteTx_row looked
      have kept := conserves.active _ row stored (same.trans active)
      exact ⟨found, (favoriteTx_congr (kept.trans stored.symm)).trans looked, fun _ => active⟩
    · obtain ⟨again, reread⟩ := conserves.read _ found looked
      exact ⟨again, reread, fun imported => absurd (alive imported) active⟩

theorem MergesFavorite.holds (merged : MergesFavorite document now eventIds db favorite next) :
    HoldsFavorite document next favorite := by
  obtain ⟨result, after, success⟩ := merged
  refine ⟨?_, ?_⟩
  · intro outside
    rw [mergeFavorite_history success]
    exact mergeFavoriteHistory_outside outside result
  · rcases mergeFavorite_cases success with ⟨rfl, skipped⟩ | ⟨-, value, stored⟩ | ⟨deleted, rfl, -⟩
    · exact skipped
    · obtain ⟨reread, -⟩ := favoriteFromHistoryTx_cases stored
      obtain ⟨-, -, row, here, active⟩ := @favoriteFromHistoryTx_ok bareInput _ _ _ _ _ _ trivial
        stored
      obtain ⟨other, there, same⟩ := favoriteTx_row reread
      rw [here] at there
      cases there
      exact ⟨value, reread, fun _ => same.symm.trans active⟩
    · obtain ⟨found, parsed⟩ := archivedRow_readable favorite.content.contentKey favorite
      refine ⟨found, favoriteByKey_of_row ?_ parsed, fun active => absurd active deleted⟩
      exact Table.get_put_self _ _ _

theorem HoldsFavorite.skips (holds : HoldsFavorite document db favorite)
    (merged : MergesFavorite document now eventIds db favorite next) : next = db := by
  obtain ⟨result, after, success⟩ := merged
  have begun : (mergeFavoriteHistory document db favorite result).1 = db := by
    rcases mergeFavoriteHistory_cases document db favorite result with
      same | ⟨-, outside, missing⟩
    · exact same
    · have recorded := holds.history outside
      rw [missing] at recorded
      cases recorded
  have cases := mergeFavorite_cases success
  rw [begun] at cases
  obtain ⟨found, looked, alive⟩ := holds.row
  obtain ⟨row, stored, same⟩ := favoriteTx_row looked
  rcases cases with ⟨rfl, -⟩ | ⟨imported, value, written⟩ | ⟨-, -, absent⟩
  · rfl
  · obtain ⟨-, ⟨rfl, -⟩ | ⟨-, -, -, -, inactive, -⟩⟩ := favoriteFromHistoryTx_cases written
    · rfl
    · have deleted := inactive row stored
      rw [same, alive imported] at deleted
      cases deleted
  · rw [absent] at stored
    cases stored

theorem absorbsFavorite (document : ValidatedExport) (now : Int) (eventIds : ContentKey → Uuid) :
    Absorbs Conserves (HoldsFavorite document) (MergesFavorite document now eventIds) where
  refl := .refl
  trans _ _ _ := .trans
  raises _ _ _ merged := merged.conserves
  stored _ _ _ merged := merged.holds
  stays _ _ _ conserves holds := holds.conserved conserves
  skips _ _ _ holds merged := holds.skips merged

/-- Whatever becomes of an import, it conserves the Profile. -/
theorem applyPortableImport_conserves (db : ProfileDb) (plan : PortableImportPlan) (now : Int)
    (eventIds : ContentKey → Uuid) :
    Conserves db (applyPortableImport db plan now eventIds).1 := by
  rcases applyPortableImport_turns db plan now eventIds with
    ⟨reason, same⟩ | ⟨middle, next, result, same, histories, favorites⟩
  · rw [same]
    exact .refl db
  · rw [same]
    exact (absorbsHistory.raises_all histories).trans
      ((absorbsFavorite _ _ _).raises_all favorites)

/-- After an import that succeeded the same import finds nothing to do. -/
theorem applyPortableImport_again {plan : PortableImportPlan} {result : PortableImportResult}
    (succeeded : applyPortableImport db plan now eventIds = (next, .ok result)) (later : Int)
    (otherIds : ContentKey → Uuid) : (applyPortableImport next plan later otherIds).1 = next := by
  have held : (∀ entry ∈ plan.document.history, HoldsHistory next entry) ∧
      ∀ favorite ∈ plan.document.favorites, HoldsFavorite plan.document next favorite := by
    rcases applyPortableImport_turns db plan now eventIds with
      ⟨reason, same⟩ | ⟨middle, last, counters, same, histories, favorites⟩
    · rw [succeeded] at same
      cases same
    · rw [succeeded] at same
      cases same
      have raised := (absorbsFavorite _ _ _).raises_all favorites
      refine ⟨?_, (absorbsFavorite _ _ _).stored_all favorites⟩
      intro entry member
      exact (absorbsHistory.stored_all histories entry member).conserved raised
  rcases applyPortableImport_turns next plan later otherIds with
    ⟨reason, same⟩ | ⟨middle, last, counters, same, histories, favorites⟩
  · rw [same]
  · rw [same]
    obtain rfl := absorbsHistory.skips_all histories held.1
    exact (absorbsFavorite _ _ _).skips_all favorites held.2

end Conserved

end Lvos.Storage
