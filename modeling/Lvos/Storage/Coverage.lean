import Lvos.Storage.Outbox
import Lvos.Storage.Reimport

set_option autoImplicit false

namespace Lvos.Storage

open Lvos.Core Lvos.Sync
open Relational (Table)
open Transaction (bind_ok_iff)
open Absorption (Turns)

/-! Statistics rows against the content the Profile knows. -/

/-- The content has a history row or a Favorite, deleted or not. -/
def Known (db : ProfileDb) (key : ContentKey) : Prop :=
  (db.historyEntries.get key).isSome = true ∨ (db.favorites.get key).isSome = true

/-- Exactly the known content has a statistics row. -/
def Covered (db : ProfileDb) : Prop :=
  ∀ key, (db.queryStats.get key).isSome = true ↔ Known db key

section Writes

variable {db next : ProfileDb}

theorem Covered.congr (covered : Covered db) (history : next.historyEntries = db.historyEntries)
    (favorites : ∀ key, (next.favorites.get key).isSome = (db.favorites.get key).isSome)
    (stats : next.queryStats = db.queryStats) : Covered next := by
  intro key
  unfold Known
  rw [stats, history, favorites]
  exact covered key

theorem Covered.insertHistory (covered : Covered db) (entry : HistoryEntry) :
    Covered (insertHistoryWithZeroStats db entry) := by
  intro key
  unfold Known
  rw [insertHistory_counted, insertHistory_get, (insertHistory_apart db entry).1, covered key]
  unfold Known
  by_cases own : key = entry.content.contentKey
  · simp [own]
  · simp [own]

theorem Covered.upsertHistory (covered : Covered db) {entry : HistoryEntry}
    (present : (db.historyEntries.get entry.content.contentKey).isSome = true) :
    Covered (upsertHistory db entry) := by
  intro key
  have before := covered key
  unfold Known at before ⊢
  rw [upsertHistory_get]
  show (db.queryStats.get key).isSome = true ↔ _ ∨ (db.favorites.get key).isSome = true
  by_cases own : key = entry.content.contentKey
  · subst own
    simpa [present] using before
  · simpa [own] using before

theorem Covered.archiveTombstone (covered : Covered db) {favorite : Favorite}
    (present : (db.historyEntries.get favorite.content.contentKey).isSome = true) :
    Covered (archiveTombstone db favorite) := by
  intro key
  unfold Known Storage.archiveTombstone
  dsimp only
  rw [Table.get_put]
  have before := covered key
  unfold Known at before
  by_cases own : key = favorite.content.contentKey
  · subst own
    simpa [present] using before
  · simpa [own] using before

/-- A user's write, except those of an import that are about content it has looked up. -/
theorem Covered.localMove {input : Input} (covered : Covered db)
    (move : LocalMove input db next) (asked : ∀ entry, ¬ input.imported entry)
    (unarchived : ∀ favorite, ¬ input.archived favorite) : Covered next := by
  cases move with
  | history entry given changed => exact absurd given (asked entry)
  | baseline entry given changed => exact absurd given (asked entry)
  | archived favorite given absent deleted changed => exact absurd given (unarchived favorite)
  | counted entry stats given count outside changed =>
      subst changed
      intro key
      unfold Known
      have before := covered key
      unfold Known at before
      dsimp only [Storage.upsertHistory]
      rw [Table.get_put, Table.get_put]
      by_cases own : key = entry.content.contentKey
      · simp [own]
      · simpa [own] using before
  | reported entry stats eventId row given new count inside unused changed =>
      subst changed
      intro key
      unfold Known
      have before := covered key
      unfold Known at before
      dsimp only [Storage.upsertHistory]
      rw [Table.get_put, Table.get_put]
      by_cases own : key = entry.content.contentKey
      · simp [own]
      · simpa [own] using before
  | favorited target now eventId entry stats new known counted inactive unused changed =>
      subst changed
      intro key
      unfold Known
      have before := covered key
      unfold Known at before
      dsimp only
      rw [Table.get_put]
      by_cases own : key = target
      · subst own
        simp [known, counted]
      · simpa [own] using before
  | folded target now favorite stored active unsynced changed =>
      subst changed
      refine covered.congr rfl ?_ rfl
      intro key
      show ((db.favorites.update _ _).get key).isSome = _
      rw [Table.get_update, Option.isSome_map]
  | withdrawn target now eventId favorite stats new stored active synced unused changed =>
      subst changed
      refine covered.congr rfl ?_ rfl
      intro key
      show ((db.favorites.update _ _).get key).isSome = _
      rw [Table.get_update, Option.isSome_map]
  | cleared changed =>
      subst changed
      intro key
      unfold Known clearHistory
      have before := covered key
      unfold Known at before
      dsimp only
      rw [Table.get_delete]
      cases favorited : db.favorites.get key with
      | none => simp
      | some row =>
          rw [favorited] at before
          simpa using before

end Writes

/-- A write that leaves every active Favorite active. -/
def KeepsActive (db next : ProfileDb) : Prop :=
  ∀ key, isActive (db.favorites.get key) = true → isActive (next.favorites.get key) = true

theorem KeepsActive.of_same {db next : ProfileDb} (same : next.favorites = db.favorites) :
    KeepsActive db next := by
  intro key active
  rw [same]
  exact active

theorem KeepsActive.trans {db middle next : ProfileDb} (first : KeepsActive db middle)
    (second : KeepsActive middle next) : KeepsActive db next :=
  fun key active => second key (first key active)

section Imports

variable {document : ValidatedExport} {now : Int} {eventIds : ContentKey → Uuid}
  {db next : ProfileDb}

/-- A call that states no more than its own ids. -/
def bareInput : Input := ⟨fun _ => True, fun _ => False, fun _ => False, fun _ => False⟩

theorem favoriteFromHistoryTx_covered {key : ContentKey} {eventId : Uuid} {favorite : Favorite}
    (covered : Covered db)
    (success : favoriteFromHistoryTx key now eventId db = .ok (next, favorite)) :
    Covered next ∧ KeepsActive db next := by
  obtain ⟨step, -, row, here, active⟩ :=
    @favoriteFromHistoryTx_ok bareInput key now eventId db next favorite trivial success
  rcases step with rfl | ⟨move, others⟩
  · exact ⟨covered, .of_same rfl⟩
  · refine ⟨covered.localMove move (fun _ => id) (fun _ => id), ?_⟩
    intro other before
    by_cases own : other = key
    · subst own
      simp [isActive, here, active]
    · rw [others other own]
      exact before

theorem mergeHistory_covered (covered : Covered db) (imported : HistoryEntry)
    (result : PortableImportResult) :
    Covered (mergeHistory db imported result).1 ∧
      (mergeHistory db imported result).1.favorites = db.favorites := by
  unfold mergeHistory
  split
  · exact ⟨covered.insertHistory imported, (insertHistory_apart db imported).1⟩
  · rename_i existing found
    split
    · exact ⟨covered.upsertHistory (by rw [found]; rfl), rfl⟩
    · exact ⟨covered, rfl⟩

theorem mergeHistory_recorded {imported : HistoryEntry} (merged : MergesHistory db imported next) :
    (∀ key, (db.historyEntries.get key).isSome = true →
      (next.historyEntries.get key).isSome = true) ∧
      (next.historyEntries.get imported.content.contentKey).isSome = true := by
  obtain ⟨result, rfl⟩ := merged
  refine ⟨fun key here => ?_, ?_⟩
  · rw [mergeHistory_get]
    split
    · rfl
    · exact here
  · rw [mergeHistory_get, if_pos rfl]
    rfl

/-- After the history loop every imported entry has its row. -/
theorem mergesHistory_recorded {entries : List HistoryEntry}
    (turns : Turns MergesHistory db entries next) : ∀ entry ∈ entries,
      (next.historyEntries.get entry.content.contentKey).isSome = true := by
  induction turns with
  | nil state => exact nofun
  | cons head tail ih =>
      intro entry member
      rcases List.mem_cons.mp member with rfl | later
      · exact tail.keeps
          (fun state => (state.historyEntries.get entry.content.contentKey).isSome = true)
          (fun state value next _ merged => (mergeHistory_recorded merged).1 _)
          (mergeHistory_recorded head).2
      · exact ih entry later

/-- The three things one turn of the Favorite loop may do once the history is there: skip the
Favorite, write it from the history, or archive it. -/
theorem mergeFavorite_cases {favorite : Favorite} {result after : PortableImportResult}
    (success : mergeFavorite document now eventIds db favorite result = .ok (next, after)) :
    let middle := (mergeFavoriteHistory document db favorite result).1
    (next = middle ∧ ∃ found, favoriteTx middle favorite.content.contentKey = .ok (some found) ∧
        (favorite.deletedAt = none → found.deletedAt = none)) ∨
      (favorite.deletedAt = none ∧ ∃ value, favoriteFromHistoryTx favorite.content.contentKey now
        (eventIds favorite.content.contentKey) middle = .ok (next, value)) ∨
      (favorite.deletedAt ≠ none ∧ next = archiveTombstone middle favorite ∧
        middle.favorites.get favorite.content.contentKey = none) := by
  unfold mergeFavorite at success
  dsimp only at success ⊢
  generalize mergeFavoriteHistory document db favorite result = merged at success ⊢
  obtain ⟨middle, counters⟩ := merged
  dsimp only at success ⊢
  obtain ⟨existing, lookedUp, rest⟩ := bind_ok_iff.mp success
  have looked := fromStorage_ok lookedUp
  have record := favoriteTx_ok looked
  split at rest
  · rename_i alive
    have active : favorite.deletedAt = none := Option.isNone_iff_eq_none.mp alive
    split at rest
    · rename_i found
      split at rest
      · rename_i kept
        cases rest
        exact Or.inl ⟨rfl, found, looked, fun _ => Option.isNone_iff_eq_none.mp kept⟩
      · obtain ⟨⟨last, value⟩, stored, same⟩ := bind_ok_iff.mp rest
        cases same
        exact Or.inr (Or.inl ⟨active, value, fromStorage_ok stored⟩)
    · obtain ⟨⟨last, value⟩, stored, same⟩ := bind_ok_iff.mp rest
      cases same
      exact Or.inr (Or.inl ⟨active, value, fromStorage_ok stored⟩)
  · rename_i dead
    have deleted : favorite.deletedAt ≠ none := by simpa using dead
    split at rest
    · rename_i present
      cases rest
      obtain ⟨found, rfl⟩ := Option.isSome_iff_exists.mp present
      exact Or.inl ⟨rfl, found, looked, fun active => absurd active deleted⟩
    · rename_i missing
      cases rest
      refine Or.inr (Or.inr ⟨deleted, rfl, ?_⟩)
      rcases record with ⟨absent, -⟩ | ⟨row, parsed, stored, -, rfl⟩
      · exact absent
      · simp at missing

theorem mergeFavoriteHistory_kept (document : ValidatedExport) (db : ProfileDb)
    (favorite : Favorite) (result : PortableImportResult) {key : ContentKey}
    (here : (db.historyEntries.get key).isSome = true) :
    ((mergeFavoriteHistory document db favorite result).1.historyEntries.get key).isSome =
      true := by
  rw [mergeFavoriteHistory_get]
  split
  · rfl
  · exact here

/-- Before a Favorite is merged its history row is there. -/
theorem mergeFavoriteHistory_outside {favorite : Favorite}
    (outside : favorite.content.contentKey ∉ document.historyKeys)
    (result : PortableImportResult) :
    ((mergeFavoriteHistory document db favorite result).1.historyEntries.get
      favorite.content.contentKey).isSome = true := by
  rw [mergeFavoriteHistory_get]
  cases found : db.historyEntries.get favorite.content.contentKey with
  | none =>
      rw [if_pos ⟨rfl, outside, rfl⟩]
      rfl
  | some entry =>
      rw [if_neg (by simp)]
      rfl

theorem mergeFavoriteHistory_recorded
    (listed : ∀ key ∈ document.historyKeys, (db.historyEntries.get key).isSome = true)
    (favorite : Favorite) (result : PortableImportResult) :
    ((mergeFavoriteHistory document db favorite result).1.historyEntries.get
      favorite.content.contentKey).isSome = true := by
  by_cases member : favorite.content.contentKey ∈ document.historyKeys
  · exact mergeFavoriteHistory_kept document db favorite result (listed _ member)
  · exact mergeFavoriteHistory_outside member result

/-- The history of a Favorite is inserted, or nothing is. -/
theorem mergeFavoriteHistory_cases (document : ValidatedExport) (db : ProfileDb)
    (favorite : Favorite) (result : PortableImportResult) :
    (mergeFavoriteHistory document db favorite result).1 = db ∨
      ((mergeFavoriteHistory document db favorite result).1 =
          insertHistoryWithZeroStats db (historyFromFavorite favorite) ∧
        favorite.content.contentKey ∉ document.historyKeys ∧
        db.historyEntries.get favorite.content.contentKey = none) := by
  unfold mergeFavoriteHistory
  split
  · exact Or.inl rfl
  · rename_i outside
    split
    · exact Or.inl rfl
    · rename_i missing
      exact Or.inr ⟨rfl, outside, missing⟩

theorem mergeFavoriteHistory_apart (document : ValidatedExport) (db : ProfileDb)
    (favorite : Favorite) (result : PortableImportResult) :
    (mergeFavoriteHistory document db favorite result).1.favorites = db.favorites ∧
      (mergeFavoriteHistory document db favorite result).1.syncOutbox = db.syncOutbox := by
  rcases mergeFavoriteHistory_cases document db favorite result with same | ⟨inserted, -⟩
  · rw [same]
    exact ⟨rfl, rfl⟩
  · rw [inserted]
    exact insertHistory_apart db _

theorem mergeFavoriteHistory_covered (covered : Covered db) (favorite : Favorite)
    (result : PortableImportResult) :
    Covered (mergeFavoriteHistory document db favorite result).1 := by
  rcases mergeFavoriteHistory_cases document db favorite result with same | ⟨inserted, -⟩
  · rw [same]
    exact covered
  · rw [inserted]
    exact covered.insertHistory _

theorem mergeFavorite_covered {favorite : Favorite} {result after : PortableImportResult}
    (covered : Covered db)
    (listed : ∀ key ∈ document.historyKeys, (db.historyEntries.get key).isSome = true)
    (success : mergeFavorite document now eventIds db favorite result = .ok (next, after)) :
    Covered next ∧ KeepsActive db next := by
  have middleCovered := @mergeFavoriteHistory_covered document db covered favorite result
  have recorded := mergeFavoriteHistory_recorded listed favorite result
  have same := (mergeFavoriteHistory_apart document db favorite result).1
  have cases := mergeFavorite_cases success
  dsimp only at cases
  generalize (mergeFavoriteHistory document db favorite result).1 = middle at *
  have kept : KeepsActive db middle := .of_same same
  rcases cases with ⟨rfl, -⟩ | ⟨-, value, stored⟩ | ⟨-, rfl, absent⟩
  · exact ⟨middleCovered, kept⟩
  · obtain ⟨later, stays⟩ := favoriteFromHistoryTx_covered middleCovered stored
    exact ⟨later, kept.trans stays⟩
  · refine ⟨middleCovered.archiveTombstone recorded, kept.trans ?_⟩
    intro key active
    unfold archiveTombstone
    dsimp only
    rw [Table.get_put]
    split
    · rename_i own
      rw [own, absent] at active
      cases active
    · exact active

theorem mergeFavorite_recorded {favorite : Favorite} {result after : PortableImportResult}
    (success : mergeFavorite document now eventIds db favorite result = .ok (next, after))
    {key : ContentKey} (here : (db.historyEntries.get key).isSome = true) :
    (next.historyEntries.get key).isSome = true := by
  rw [mergeFavorite_history success]
  exact mergeFavoriteHistory_kept document db favorite result here

theorem applyPortableImport_covered (covered : Covered db) (plan : PortableImportPlan)
    (now : Int) (eventIds : ContentKey → Uuid)
    (keys : plan.document.historyKeys = plan.document.history.map (fun entry =>
      entry.content.contentKey)) :
    Covered (applyPortableImport db plan now eventIds).1 ∧
      KeepsActive db (applyPortableImport db plan now eventIds).1 := by
  rcases applyPortableImport_turns db plan now eventIds with
    ⟨reason, same⟩ | ⟨middle, next, result, same, histories, favorites⟩
  · rw [same]
    exact ⟨covered, .of_same rfl⟩
  · rw [same]
    have begun : Covered middle ∧ KeepsActive db middle := by
      refine histories.keeps (fun state => Covered state ∧ KeepsActive db state) ?_
        ⟨covered, .of_same rfl⟩
      rintro before entry _ - ⟨counters, rfl⟩ ⟨holds, active⟩
      obtain ⟨one, unchanged⟩ := mergeHistory_covered holds entry counters
      exact ⟨one, active.trans (.of_same unchanged)⟩
    have listed : ∀ key ∈ plan.document.historyKeys,
        (middle.historyEntries.get key).isSome = true := by
      intro key member
      rw [keys] at member
      obtain ⟨entry, inside, rfl⟩ := List.mem_map.mp member
      exact mergesHistory_recorded histories entry inside
    have ended := favorites.keeps (fun state => Covered state ∧ KeepsActive db state ∧
        ∀ key ∈ plan.document.historyKeys, (state.historyEntries.get key).isSome = true) (by
      rintro before favorite after - ⟨counters, counted, merged⟩ ⟨holds, active, recorded⟩
      obtain ⟨one, kept⟩ := mergeFavorite_covered holds recorded merged
      exact ⟨one, active.trans kept, fun key member => mergeFavorite_recorded merged
        (recorded key member)⟩) ⟨begun.1, begun.2, listed⟩
    exact ⟨ended.1, ended.2.1⟩

end Imports

section Answers

variable {db next : ProfileDb} {now : Int}

theorem Refreshed.present {aggregate : Option AggregateQueryStats} {sent : Nat}
    {before after : Option QueryStats} (refreshed : Refreshed aggregate sent now before after)
    (here : before.isSome = true) : after.isSome = true := by
  cases refreshed with
  | kept silent same => rwa [same]
  | started silent absent first stored => rw [stored]; rfl
  | taken value brought stored => rw [stored]; rfl

/-- An answer about one content that has a Favorite and statistics afterwards. -/
theorem Covered.moved (covered : Covered db) {key : ContentKey}
    {aggregate : Option AggregateQueryStats} {sent : Nat}
    (moved : StatsMoved key aggregate sent now db.queryStats next.queryStats)
    (history : next.historyEntries = db.historyEntries)
    (others : ∀ other, other ≠ key → next.favorites.get other = db.favorites.get other)
    (present : (next.favorites.get key).isSome = true)
    (counted : (next.queryStats.get key).isSome = true) : Covered next := by
  intro other
  unfold Known
  by_cases own : other = key
  · rw [own]
    exact ⟨fun _ => Or.inr present, fun _ => counted⟩
  · rw [moved.apart other own, history, others other own]
    exact covered other

theorem acknowledgeEvent_history {item : AcknowledgedEvent}
    (success : acknowledgeEvent db item now = .ok next) :
    next.historyEntries = db.historyEntries := by
  obtain ⟨-, table, -, written⟩ := acknowledgeEvent_ok success
  rw [written]
  unfold deleteEvent
  dsimp only
  split
  · rfl
  · rfl

theorem acknowledgeEvents_history (items : List AcknowledgedEvent) (now : Int) (db : ProfileDb) :
    (acknowledgeEvents db items now).1.historyEntries = db.historyEntries := by
  rcases Transaction.atomically_cases (acknowledgeBody items now) db with
    same | ⟨next, ⟨⟩, success, committed⟩
  · rw [show (acknowledgeEvents db items now).1 = db from same]
  · rw [show (acknowledgeEvents db items now).1 = next from congrArg Prod.fst committed]
    obtain ⟨last, looped, rfl⟩ := acknowledgeBody_ok success
    exact acknowledgeLoop_induct (fun _ db last => last.historyEntries = db.historyEntries)
      (fun _ => rfl)
      (fun item rest db middle last head tail => tail.trans (acknowledgeEvent_history head))
      items db last looped

theorem Resolved.historyEntries {event : OutboxEvent} {current : Option FavoriteRecord}
    {resolution : ConflictResolution}
    (resolved : Resolved db next event current now resolution) :
    next.historyEntries = db.historyEntries := by
  cases resolved with
  | converged record key localValue table answer keyed found reached kept changed => rw [changed]
  | replayed record row table answer pending first kept changed => rw [changed]; rfl
  | manual table kept changed => rw [changed]; rfl

theorem resolveConflict_history (event : OutboxEvent) (current : Option FavoriteRecord)
    (now : Int) (db : ProfileDb) :
    (resolveConflict db event current now).1.historyEntries = db.historyEntries := by
  rcases Transaction.atomically_cases (resolveConflictBody event current now) db with
    same | ⟨next, resolution, success, committed⟩
  · rw [show (resolveConflict db event current now).1 = db from same]
  · rw [show (resolveConflict db event current now).1 = next from congrArg Prod.fst committed]
    exact (resolveConflictBody_ok success).2.historyEntries

theorem applyRemotePage_history [ContentTables] (changes : List SyncChange) (nextRevision : Nat)
    (now : Int) (db : ProfileDb) :
    (applyRemotePage db changes nextRevision now).1.historyEntries = db.historyEntries := by
  rcases Transaction.atomically_cases (applyRemotePageBody changes nextRevision now) db with
    same | ⟨next, ⟨⟩, success, committed⟩
  · rw [show (applyRemotePage db changes nextRevision now).1 = db from same]
  · rw [show (applyRemotePage db changes nextRevision now).1 = next from
      congrArg Prod.fst committed]
    obtain ⟨last, looped, rfl⟩ := applyRemotePage_ok success
    exact applyRemoteLoop_induct (fun _ db last => last.historyEntries = db.historyEntries)
      (fun _ => rfl)
      (fun change rest db middle last key _ _ pulled tail => tail.trans pulled.historyEntries)
      changes db last _ _ looped

theorem acknowledgeEvent_covered {item : AcknowledgedEvent} (covered : Covered db)
    (inside : (db.favorites.get item.event.contentKey).isSome = true)
    (success : acknowledgeEvent db item now = .ok next) : Covered next := by
  have moved := acknowledgeEvent_moved success
  have counted := moved.mine.present ((covered _).mpr (Or.inr inside))
  obtain ⟨-, table, -, written⟩ := acknowledgeEvent_ok success
  have view := acknowledged_favorites db item.event item.acknowledgement.entityRevision table
  have same : next = acknowledged db item.event item.acknowledgement.entityRevision table := written
  refine covered.moved moved (acknowledgeEvent_history success) ?_ ?_ counted
  · intro other apart
    rw [same, view]
    split
    · rfl
    · rw [if_neg apart]
  · rw [same, view]
    split
    · exact inside
    · rw [if_pos rfl, Option.isSome_map]
      exact inside

theorem acknowledgeEvents_covered (covered : Covered db) (items : List AcknowledgedEvent)
    (inside : ∀ item ∈ items, (db.favorites.get item.event.contentKey).isSome = true) :
    Covered (acknowledgeEvents db items now).1 := by
  refine Transaction.atomically_keeps (acknowledgeBody items now) db covered ?_
  rintro next ⟨⟩ success
  obtain ⟨last, looped, rfl⟩ := acknowledgeBody_ok success
  have all := acknowledgeLoop_induct (fun items db last =>
      (∀ item ∈ items, (db.favorites.get item.event.contentKey).isSome = true) →
      Covered db → Covered last) (fun _ _ here => here)
    (fun item rest db middle last head tail inside here => by
      have grows := (@acknowledgeEvent_taken db middle (fun _ _ _ => True) item now
        (fun _ _ => trivial) head).grows
      exact tail (fun other member =>
          grows.present _ (inside other (List.mem_cons_of_mem item member)))
        (acknowledgeEvent_covered here (inside item List.mem_cons_self) head))
    items db last looped inside covered
  exact all.congr rfl (fun _ => rfl) rfl

theorem resolveConflict_covered (covered : Covered db) {event : OutboxEvent}
    {current : Option FavoriteRecord} (now : Int)
    (keyed : ∀ remote, current = some remote → remote.contentKey = event.contentKey.toHex)
    (inside : (db.favorites.get event.contentKey).isSome = true) :
    Covered (resolveConflict db event current now).1 := by
  rcases Transaction.atomically_cases (resolveConflictBody event current now) db with
    same | ⟨next, resolution, success, committed⟩
  · rw [show (resolveConflict db event current now).1 = db from same]
    exact covered
  · rw [show (resolveConflict db event current now).1 = next from congrArg Prod.fst committed]
    have resolved := (resolveConflictBody_ok success).2
    have history := resolved.historyEntries
    have present : (next.favorites.get event.contentKey).isSome = true := by
      have taken := @resolveConflict_taken (fun _ _ _ => True) event current now db
        (fun _ _ _ _ _ _ => trivial)
      rw [show (resolveConflict db event current now).1 = next from
        congrArg Prod.fst committed] at taken
      exact taken.grows.present _ inside
    rcases resolveConflictBody_moved success with same | ⟨remote, key, answer, named, -, moved⟩
    · refine covered.congr history ?_ same
      intro key
      by_cases own : key = event.contentKey
      · rw [own, present, inside]
      · rw [resolved.favorites_apart keyed own]
    · obtain rfl : key = event.contentKey :=
        ContentKey.toHex_injective (named.symm.trans (keyed remote answer))
      exact covered.moved moved history (fun other apart => resolved.favorites_apart keyed apart)
        present (moved.mine.present ((covered _).mpr (Or.inr inside)))

theorem writeRemoteFavorite_counted {remote : FavoriteRecord} {key : ContentKey}
    (keyed : remote.contentKey = key.toHex)
    (success : writeRemoteFavorite db remote now = .ok next) :
    (next.queryStats.get key).isSome = true := by
  unfold writeRemoteFavorite at success
  obtain ⟨other, parsed, afterKey⟩ := bind_ok_iff.mp success
  obtain rfl : other = key :=
    ContentKey.toHex_injective ((parseContentKey_ok parsed).symm.trans keyed)
  obtain ⟨revision, -, afterRevision⟩ := bind_ok_iff.mp afterKey
  split at afterRevision
  · dsimp only at afterRevision
    obtain ⟨first, updated, afterUpdate⟩ := bind_ok_iff.mp afterRevision
    split at afterUpdate
    · rename_i here
      cases afterUpdate
      exact here
    · refine (updateAggregateFromRecord_moved keyed afterUpdate).mine.present ?_
      dsimp only
      rw [Table.get_put_self]
      rfl
  · cases afterRevision

theorem applyRemoteChange_covered [ContentTables] (covered : Covered db) {change : SyncChange}
    (success : applyRemoteChange db change now = .ok next) : Covered next := by
  obtain ⟨key, keyed, -, pulled⟩ := applyRemoteChange_ok success
  have moved := applyRemoteChange_moved keyed success
  have apart := fun other differs => @Pulled.favorites_apart db next _ key other now pulled differs
  cases before : db.favorites.get key with
  | some row =>
      have inside : (db.favorites.get key).isSome = true := by
        rw [before]
        rfl
      refine covered.moved moved pulled.historyEntries apart ?_
        (moved.mine.present ((covered key).mpr (Or.inr inside)))
      exact pulled.key.present inside
  | none =>
      -- Nothing is pending for the content, so the record was written.
      have absent : ∀ value, localFavorite db key ≠ .ok (some value) := by
        intro value found
        unfold localFavorite at found
        rw [before] at found
        cases found
      cases pulled with
      | converged table row localValue pending found reached kept changed =>
          exact absurd found (absent localValue)
      | rebased table row localValue pending found differs kept changed =>
          exact absurd found (absent localValue)
      | written table idle kept changed =>
          refine covered.moved moved (by rw [changed]) apart ?_ ?_
          · rw [changed]
            dsimp only
            rw [Table.get_put_self]
            rfl
          · unfold applyRemoteChange at success
            obtain ⟨⟨⟩, -, afterValid⟩ := bind_ok_iff.mp success
            obtain ⟨other, parsed, afterKey⟩ := bind_ok_iff.mp afterValid
            obtain rfl : other = key :=
              ContentKey.toHex_injective ((parseContentKey_ok parsed).symm.trans keyed)
            have free : db.syncOutbox.get (favoriteCoalesceKey other) = none := idle
            rw [free] at afterKey
            exact writeRemoteFavorite_counted keyed afterKey

theorem applyRemotePage_covered [ContentTables] (covered : Covered db)
    (changes : List SyncChange) (nextRevision : Nat) (now : Int) :
    Covered (applyRemotePage db changes nextRevision now).1 := by
  refine Transaction.atomically_keeps (applyRemotePageBody changes nextRevision now) db covered ?_
  rintro next ⟨⟩ success
  obtain ⟨last, looped, rfl⟩ := applyRemotePage_ok success
  have all := applyRemoteLoop_turns (fun _ db last => Covered db → Covered last)
    (fun _ here => here)
    (fun change rest db middle last head tail here =>
      tail (applyRemoteChange_covered here head)) changes db last _ _ looped covered
  exact all.congr rfl (fun _ => rfl) rfl

theorem replaceDeviceIdentity_covered (covered : Covered db) (expectedCurrent replacement : Uuid)
    (now : Int) : Covered (replaceDeviceIdentity db expectedCurrent replacement now).1 := by
  refine replaceDeviceIdentity_keeps db expectedCurrent replacement now covered ?_
  intro next replaced key
  unfold Known
  rw [replaced.stats_get, Option.isSome_map, replaced.historyEntries, replaced.favorites]
  exact covered key

end Answers

end Lvos.Storage
