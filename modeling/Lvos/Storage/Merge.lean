import Lvos.Storage.Moves

set_option autoImplicit false

namespace Lvos.Storage

open Lvos.Core Lvos.Sync
open Relational (Table)
open Transaction (bind_ok_iff)

/-! What a query and an import leave of the history. -/

/-- The history row an imported entry leaves: the one queried last. -/
def newerWins (existing : Option HistoryEntry) (imported : HistoryEntry) : HistoryEntry :=
  match existing with
  | none => imported
  | some existing =>
      if existing.lastQueriedAt < imported.lastQueriedAt then imported else existing

section History

variable {db next : ProfileDb} {key : ContentKey}

theorem upsertHistory_get (db : ProfileDb) (entry : HistoryEntry) (key : ContentKey) :
    (upsertHistory db entry).historyEntries.get key =
      if key = entry.content.contentKey then some entry else db.historyEntries.get key :=
  Table.get_put _ _ _ _

/-- A query that fails leaves the history as it was. -/
theorem recordSuccessfulQuery_history (db : ProfileDb) (entry : HistoryEntry) (eventId : Uuid) :
    (recordSuccessfulQuery db entry eventId).1 = db ∨
      (recordSuccessfulQuery db entry eventId).1.historyEntries =
        (upsertHistory db entry).historyEntries := by
  unfold recordSuccessfulQuery
  rcases Transaction.atomically_cases (recordQueryBody entry eventId) db with
    same | ⟨next, stats, body, committed⟩
  · rw [same]
    exact Or.inl rfl
  · rw [committed]
    apply Or.inr
    unfold recordQueryBody at body
    obtain ⟨counted, -, rest⟩ := bind_ok_iff.mp body
    dsimp only at rest
    split at rest
    · obtain ⟨written, queued, same⟩ := bind_ok_iff.mp rest
      cases same
      obtain ⟨-, rfl⟩ := upsertOutbox_ok queued
      rfl
    · cases rest
      rfl

theorem insertHistory_get (db : ProfileDb) (entry : HistoryEntry) (key : ContentKey) :
    (insertHistoryWithZeroStats db entry).historyEntries.get key =
      if key = entry.content.contentKey then some entry else db.historyEntries.get key := by
  unfold insertHistoryWithZeroStats
  dsimp only
  split
  · exact upsertHistory_get db entry key
  · exact upsertHistory_get db entry key

theorem mergeHistory_get (db : ProfileDb) (imported : HistoryEntry)
    (result : PortableImportResult) (key : ContentKey) :
    (mergeHistory db imported result).1.historyEntries.get key =
      if key = imported.content.contentKey then some (newerWins (db.historyEntries.get key) imported)
      else db.historyEntries.get key := by
  unfold mergeHistory newerWins
  by_cases own : key = imported.content.contentKey
  · subst own
    rw [if_pos rfl]
    cases found : db.historyEntries.get imported.content.contentKey with
    | none =>
        simp only
        rw [insertHistory_get, if_pos rfl]
    | some existing =>
        simp only
        split
        · rw [upsertHistory_get, if_pos rfl]
        · exact found
  · rw [if_neg own]
    split
    · rw [insertHistory_get, if_neg own]
    · split
      · rw [upsertHistory_get, if_neg own]
      · rfl

/-- The row of a key after an import of `given` entries: the one before, or an entry that
was queried later. -/
def Overtaken (given : HistoryEntry → Prop) (key : ContentKey)
    (before after : Option HistoryEntry) : Prop :=
  after = before ∨ ∃ entry, given entry ∧ entry.content.contentKey = key ∧ after = some entry ∧
    ∀ old, before = some old → old.lastQueriedAt < entry.lastQueriedAt

theorem Overtaken.trans {given : HistoryEntry → Prop} {first second third : Option HistoryEntry}
    (left : Overtaken given key first second) (right : Overtaken given key second third) :
    Overtaken given key first third := by
  rcases right with rfl | ⟨entry, given', keyed, rfl, later⟩
  · exact left
  · refine Or.inr ⟨entry, given', keyed, rfl, ?_⟩
    intro old before
    rcases left with rfl | ⟨middle, -, -, rfl, earlier⟩
    · exact later old before
    · have early := earlier old before
      have late := later middle rfl
      omega

theorem mergeHistory_overtaken (db : ProfileDb) (imported : HistoryEntry)
    (result : PortableImportResult) (key : ContentKey) {given : HistoryEntry → Prop}
    (member : given imported) :
    Overtaken given key (db.historyEntries.get key)
      ((mergeHistory db imported result).1.historyEntries.get key) := by
  rw [mergeHistory_get]
  split
  · rename_i own
    unfold newerWins
    cases found : db.historyEntries.get key with
    | none => exact Or.inr ⟨imported, member, own.symm, rfl, by rintro old ⟨⟩⟩
    | some existing =>
        simp only
        split
        · rename_i newer
          refine Or.inr ⟨imported, member, own.symm, rfl, ?_⟩
          intro old same
          cases same
          exact newer
        · exact Or.inl rfl
  · exact Or.inl rfl

theorem mergeHistories_overtaken (key : ContentKey) {given : HistoryEntry → Prop} :
    ∀ (entries : List HistoryEntry) (db : ProfileDb) (result : PortableImportResult),
      (∀ entry ∈ entries, given entry) →
      Overtaken given key (db.historyEntries.get key)
        ((mergeHistories db result entries).1.historyEntries.get key) := by
  intro entries
  induction entries with
  | nil =>
      intro db result _
      exact Or.inl rfl
  | cons entry rest ih =>
      intro db result members
      unfold mergeHistories
      have first := mergeHistory_overtaken db entry result key (members entry (by simp))
      exact first.trans (ih _ _ (fun other member => members other (by simp [member])))

/-- The entries of other keys leave a key alone. -/
theorem mergeHistories_apart :
    ∀ (entries : List HistoryEntry) (db : ProfileDb) (result : PortableImportResult),
      key ∉ entries.map (fun entry => entry.content.contentKey) →
      (mergeHistories db result entries).1.historyEntries.get key = db.historyEntries.get key := by
  intro entries
  induction entries with
  | nil =>
      intro db result _
      rfl
  | cons entry rest ih =>
      intro db result absent
      rw [List.map_cons, List.mem_cons, not_or] at absent
      unfold mergeHistories
      rw [ih _ _ absent.2, mergeHistory_get, if_neg absent.1]

end History

/-! A Favorite is added or archived without touching the history. -/

theorem favoriteFromHistoryTx_history {key : ContentKey} {now : Int} {eventId : Uuid}
    {db next : ProfileDb} {favorite : Favorite}
    (success : favoriteFromHistoryTx key now eventId db = .ok (next, favorite)) :
    next.historyEntries = db.historyEntries := by
  obtain ⟨-, ⟨rfl, -⟩ | ⟨entry, stats, -, -, -, -, rfl⟩⟩ := favoriteFromHistoryTx_cases success
  · rfl
  · rfl

theorem mergeFavoriteHistory_get (document : ValidatedExport) (db : ProfileDb)
    (favorite : Favorite) (result : PortableImportResult) (key : ContentKey) :
    (mergeFavoriteHistory document db favorite result).1.historyEntries.get key =
      if key = favorite.content.contentKey ∧ key ∉ document.historyKeys ∧
          db.historyEntries.get key = none then some (historyFromFavorite favorite)
      else db.historyEntries.get key := by
  unfold mergeFavoriteHistory
  by_cases own : key = favorite.content.contentKey
  · subst own
    split
    · rename_i listed
      have skipped : ¬ (favorite.content.contentKey = favorite.content.contentKey ∧
          favorite.content.contentKey ∉ document.historyKeys ∧
          db.historyEntries.get favorite.content.contentKey = none) :=
        fun all => all.2.1 listed
      rw [if_neg skipped]
    · rename_i absent
      cases found : db.historyEntries.get favorite.content.contentKey with
      | some entry => simp [found]
      | none =>
          simp only [true_and, and_true]
          rw [insertHistory_get, if_pos absent]
          exact if_pos rfl
  · have apart : ¬ (key = favorite.content.contentKey ∧ key ∉ document.historyKeys ∧
        db.historyEntries.get key = none) := fun all => own all.1
    rw [if_neg apart]
    split
    · rfl
    · split
      · rfl
      · rw [insertHistory_get]
        exact if_neg own

theorem mergeFavorite_history {document : ValidatedExport} {now : Int}
    {eventIds : ContentKey → Uuid} {db next : ProfileDb} {favorite : Favorite}
    {result after : PortableImportResult}
    (success : mergeFavorite document now eventIds db favorite result = .ok (next, after)) :
    next.historyEntries = (mergeFavoriteHistory document db favorite result).1.historyEntries := by
  unfold mergeFavorite at success
  dsimp only at success
  generalize mergeFavoriteHistory document db favorite result = merged at success ⊢
  obtain ⟨middle, counters⟩ := merged
  dsimp only at success ⊢
  obtain ⟨existing, -, rest⟩ := bind_ok_iff.mp success
  split at rest
  · split at rest
    · split at rest
      · cases rest
        rfl
      · obtain ⟨⟨last, value⟩, stored, same⟩ := bind_ok_iff.mp rest
        cases same
        exact favoriteFromHistoryTx_history (fromStorage_ok stored)
    · obtain ⟨⟨last, value⟩, stored, same⟩ := bind_ok_iff.mp rest
      cases same
      exact favoriteFromHistoryTx_history (fromStorage_ok stored)
  · split at rest
    · cases rest
      rfl
    · cases rest
      rfl

theorem mergeFavorites_overtaken (document : ValidatedExport) (now : Int)
    (eventIds : ContentKey → Uuid) (key : ContentKey) {given : HistoryEntry → Prop} :
    ∀ (favorites : List Favorite) (db next : ProfileDb) (result after : PortableImportResult),
      mergeFavorites document now eventIds db result favorites = .ok (next, after) →
      (∀ favorite ∈ favorites, favorite.content.contentKey ∉ document.historyKeys →
        favorite.content.contentKey = key → db.historyEntries.get key = none →
        given (historyFromFavorite favorite)) →
      Overtaken given key (db.historyEntries.get key) (next.historyEntries.get key) := by
  intro favorites
  induction favorites with
  | nil =>
      intro db next result after success _
      cases success
      exact Or.inl rfl
  | cons favorite rest ih =>
      intro db next result after success members
      unfold mergeFavorites at success
      obtain ⟨⟨middle, counters⟩, merged, looped⟩ := bind_ok_iff.mp success
      have here : middle.historyEntries.get key =
          if key = favorite.content.contentKey ∧ key ∉ document.historyKeys ∧
              db.historyEntries.get key = none then some (historyFromFavorite favorite)
          else db.historyEntries.get key := by
        rw [mergeFavorite_history merged, mergeFavoriteHistory_get]
      have first : Overtaken given key (db.historyEntries.get key)
          (middle.historyEntries.get key) := by
        rw [here]
        split
        · rename_i added
          obtain ⟨rfl, absent, missing⟩ := added
          refine Or.inr ⟨_, members favorite (by simp) absent rfl missing, rfl, rfl, ?_⟩
          intro old present
          rw [missing] at present
          cases present
        · exact Or.inl rfl
      refine first.trans (ih _ _ _ _ looped ?_)
      intro other member absent keyed missing
      refine members other (by simp [member]) absent keyed ?_
      rw [here] at missing
      split at missing
      · cases missing
      · exact missing

/-- The history after an import: every row is the one before, or an imported entry that
was queried later. -/
theorem applyPortableImport_overtaken (db : ProfileDb) (plan : PortableImportPlan) (now : Int)
    (eventIds : ContentKey → Uuid) (key : ContentKey) (given : HistoryEntry → Prop)
    (histories : ∀ entry ∈ plan.document.history, given entry)
    (favorites : ∀ favorite ∈ plan.document.favorites,
      favorite.content.contentKey ∉ plan.document.history.map (fun entry =>
        entry.content.contentKey) →
      db.historyEntries.get favorite.content.contentKey = none →
      given (historyFromFavorite favorite))
    (keys : plan.document.historyKeys = plan.document.history.map (fun entry =>
      entry.content.contentKey)) :
    Overtaken given key (db.historyEntries.get key)
      ((applyPortableImport db plan now eventIds).1.historyEntries.get key) := by
  unfold applyPortableImport
  split
  · exact Or.inl rfl
  · rcases Transaction.atomically_cases (applyMerge plan.document now eventIds) db with
      same | ⟨next, after, body, committed⟩
    · rw [same]
      exact Or.inl rfl
    · rw [committed]
      unfold applyMerge at body
      dsimp only at body
      refine (mergeHistories_overtaken key plan.document.history db _ histories).trans
        (mergeFavorites_overtaken _ _ _ key _ _ _ _ _ body ?_)
      intro favorite member absent keyed missing
      rw [keys] at absent
      refine favorites favorite member absent ?_
      rw [keyed] at absent ⊢
      rwa [mergeHistories_apart _ _ _ absent] at missing

end Lvos.Storage
