import Lvos.Lib.Absorption
import Lvos.Storage.Portable
import Lvos.Storage.Sync
import Mathlib.Logic.Relation

set_option autoImplicit false

namespace Lvos.Storage

open Lvos.Core Lvos.Sync
open Relational (Table)
open Transaction (bind_ok_iff)
open Absorption (Turns)

theorem sqliteI64_ok {value result : Nat} (success : sqliteI64 value = .ok result) :
    result = value := by
  unfold sqliteI64 at success
  split at success
  · exact (Except.ok.inj success).symm
  · cases success

theorem parseContentKey_ok {value : String} {key : ContentKey}
    (success : parseContentKey value = .ok key) : value = key.toHex := by
  unfold parseContentKey at success
  split at success
  · rename_i found parsed
    cases success
    exact (ContentKey.toHex_of_fromStr parsed).symm
  · cases success

@[simp] theorem parseContentKey_toHex (key : ContentKey) : parseContentKey key.toHex = .ok key := by
  unfold parseContentKey
  rw [ContentKey.fromStr_toHex]

theorem parseLanguage_ok {message value : String} {code : LanguageCode}
    (success : parseLanguage message value = .ok code) : LanguageCode.parse value = .ok code := by
  unfold parseLanguage at success
  split at success
  · cases success
    assumption
  · cases success

theorem parseKind_ok {value : String} {kind : TextKind} (success : parseKind value = .ok kind) :
    kind.protocolName = value := by
  unfold parseKind at success
  split at success
  · cases success
    exact Eq.symm ‹_›
  · split at success
    · cases success
      exact Eq.symm ‹_›
    · cases success

theorem readFavorite_ok {sourceMessage targetMessage : String} {key : ContentKey}
    {row : FavoriteRow} {favorite : Favorite}
    (success : readFavorite sourceMessage targetMessage key row = .ok favorite) :
    favorite.deletedAt = row.deletedAt ∧ favorite.entityRevision = row.entityRevision ∧
      favorite.content.keyVersion = row.keyVersion ∧ favorite.content.contentKey = key := by
  unfold readFavorite at success
  obtain ⟨kind, -, afterKind⟩ := bind_ok_iff.mp success
  obtain ⟨sourceLang, -, afterSource⟩ := bind_ok_iff.mp afterKind
  obtain ⟨targetLang, -, same⟩ := bind_ok_iff.mp afterSource
  cases same
  exact ⟨rfl, rfl, rfl, rfl⟩

theorem favoriteTx_ok {db : ProfileDb} {key : ContentKey} {found : Option Favorite}
    (success : favoriteTx db key = .ok found) :
    (db.favorites.get key = none ∧ found = none) ∨
      ∃ row favorite, db.favorites.get key = some row ∧ parseFavorite key row = .ok favorite ∧
        found = some favorite := by
  unfold favoriteTx at success
  split at success
  · cases success
    exact Or.inl ⟨‹_›, rfl⟩
  · rename_i row stored
    obtain ⟨favorite, parsed, same⟩ := bind_ok_iff.mp success
    cases same
    exact Or.inr ⟨row, favorite, stored, parsed, rfl⟩

theorem localFavorite_ok {db : ProfileDb} {key : ContentKey} {found : Option Favorite}
    (success : localFavorite db key = .ok found) :
    (db.favorites.get key = none ∧ found = none) ∨
      ∃ row favorite, db.favorites.get key = some row ∧
        readFavorite "source language" "target language" key row = .ok favorite ∧
        found = some favorite := by
  unfold localFavorite at success
  split at success
  · cases success
    exact Or.inl ⟨‹_›, rfl⟩
  · rename_i row stored
    obtain ⟨favorite, parsed, same⟩ := bind_ok_iff.mp success
    cases same
    exact Or.inr ⟨row, favorite, stored, parsed, rfl⟩

/-- No Outbox row has the id. -/
def Unused (db : ProfileDb) (eventId : Uuid) : Prop :=
  ∀ coalesceKey row, db.syncOutbox.get coalesceKey = some row → row.eventId ≠ eventId

theorem Unused.congr {db next : ProfileDb} {eventId : Uuid} (unused : Unused db eventId)
    (outbox : next.syncOutbox = db.syncOutbox) : Unused next eventId := by
  intro coalesceKey row stored
  rw [outbox] at stored
  exact unused coalesceKey row stored

theorem upsertOutbox_ok {db next : ProfileDb} {event : PendingOutbox}
    (success : upsertOutbox db event = .ok next) :
    Unused db event.eventId ∧
      next = { db with
        syncOutbox := db.syncOutbox.put event.coalesceKey
          (event.row (db.syncOutbox.get event.coalesceKey)) } := by
  unfold upsertOutbox at success
  obtain ⟨revision, -, rest⟩ := bind_ok_iff.mp success
  split at rest
  · cases rest
  · rename_i unused
    cases rest
    refine ⟨?_, rfl⟩
    intro coalesceKey row stored same
    apply unused
    rw [List.any_eq_true]
    exact ⟨(coalesceKey, row), (Table.mem_rows_iff _ _ _).mpr stored, by simpa using same⟩

/-- The Outbox rows the three writers of intents queue. -/
def statsIntent (db : ProfileDb) (key : ContentKey) (stats : QueryStats) (now : Int)
    (eventId : Uuid) : PendingOutbox :=
  ⟨eventId, key, .queryStatsUpsert, .queryStats (statsPayload key stats),
    queryStatsCoalesceKey key db.profileMeta.deviceId, none, now⟩

def favoriteIntent (key : ContentKey) (desiredState : String) (revision : Nat)
    (stats : QueryStats) (now : Int) (operation : OutboxOperation) (eventId : Uuid) :
    PendingOutbox :=
  ⟨eventId, key, operation, .favorite ⟨key.toHex, desiredState, revision, statsPayload key stats⟩,
    favoriteCoalesceKey key, some revision, now⟩

/-- The revision a missing row counts as. -/
def revisionOf (row : Option FavoriteRow) : Nat :=
  (row.map FavoriteRow.entityRevision).getD 0

@[simp] theorem revisionOf_none : revisionOf none = 0 := rfl

@[simp] theorem revisionOf_some (row : FavoriteRow) : revisionOf (some row) = row.entityRevision :=
  rfl

/-- What a user's call brings along: the ids it may use, the entry a query records,
and the entries and tombstones an import holds. -/
structure Input where
  fresh : Uuid → Prop
  queried : HistoryEntry → Prop
  imported : HistoryEntry → Prop
  archived : Favorite → Prop

/-- Everything a user's call can do to a profile, one write at a time. -/
inductive LocalMove (input : Input) (db next : ProfileDb) :
    Prop
  | history (entry : HistoryEntry) (given : input.imported entry)
      (changed : next = upsertHistory db entry)
  | baseline (entry : HistoryEntry) (given : input.imported entry)
      (changed : next = insertHistoryWithZeroStats db entry)
  | counted (entry : HistoryEntry) (stats : QueryStats) (given : input.queried entry)
      (count : countQuery (db.queryStats.get entry.content.contentKey) entry.lastQueriedAt =
        .ok stats)
      (outside : db.favorites.get entry.content.contentKey = none)
      (changed : next = { upsertHistory db entry with
        queryStats := db.queryStats.put entry.content.contentKey stats })
  | reported (entry : HistoryEntry) (stats : QueryStats) (eventId : Uuid) (row : FavoriteRow)
      (given : input.queried entry) (new : input.fresh eventId)
      (count : countQuery (db.queryStats.get entry.content.contentKey) entry.lastQueriedAt =
        .ok stats)
      (inside : db.favorites.get entry.content.contentKey = some row)
      (unused : Unused db eventId)
      (changed : next = { upsertHistory db entry with
        queryStats := db.queryStats.put entry.content.contentKey stats
        syncOutbox := db.syncOutbox.put
          (.queryStats db.profileMeta.deviceId entry.content.contentKey)
          ((statsIntent db entry.content.contentKey stats entry.lastQueriedAt eventId).row
            (db.syncOutbox.get
              (.queryStats db.profileMeta.deviceId entry.content.contentKey))) })
  | favorited (key : ContentKey) (now : Int) (eventId : Uuid) (entry : HistoryEntry)
      (stats : QueryStats) (new : input.fresh eventId)
      (known : db.historyEntries.get key = some entry)
      (counted : db.queryStats.get key = some stats)
      (inactive : ∀ row, db.favorites.get key = some row → row.deletedAt.isSome)
      (unused : Unused db eventId)
      (changed : next = { db with
        favorites := db.favorites.put key
          (favoriteRowOf entry now (revisionOf (db.favorites.get key)))
        syncOutbox := db.syncOutbox.put (.favorite key)
          ((favoriteIntent key "active" (revisionOf (db.favorites.get key)) stats now
            .favoriteUpsert eventId).row (db.syncOutbox.get (.favorite key))) })
  | archived (favorite : Favorite) (given : input.archived favorite)
      (absent : db.favorites.get favorite.content.contentKey = none)
      (deleted : favorite.deletedAt.isSome) (changed : next = archiveTombstone db favorite)
  | folded (key : ContentKey) (now : Int) (row : FavoriteRow)
      (stored : db.favorites.get key = some row) (active : row.deletedAt = none)
      (unsynced : row.entityRevision = 0)
      (changed : next = deleteCoalesced (deleteCoalesced { db with
        favorites := db.favorites.update (fun other _ => other = key) (tombstone now) }
          (.queryStats db.profileMeta.deviceId key)) (.favorite key))
  | withdrawn (key : ContentKey) (now : Int) (eventId : Uuid) (row : FavoriteRow)
      (stats : QueryStats) (new : input.fresh eventId) (stored : db.favorites.get key = some row)
      (active : row.deletedAt = none) (synced : row.entityRevision ≠ 0)
      (unused : ∀ coalesceKey other,
        coalesceKey ≠ .queryStats db.profileMeta.deviceId key →
        db.syncOutbox.get coalesceKey = some other → other.eventId ≠ eventId)
      (changed : next = { db with
        favorites := db.favorites.update (fun other _ => other = key) (tombstone now)
        syncOutbox := (db.syncOutbox.delete
          (fun coalesceKey _ => coalesceKey = .queryStats db.profileMeta.deviceId key)).put
            (.favorite key)
            ((favoriteIntent key "deleted" row.entityRevision stats now .favoriteDelete
              eventId).row (db.syncOutbox.get (.favorite key))) })
  | cleared (changed : next = clearHistory db)

/-- A call is a chain of such writes. -/
abbrev LocalMoves (input : Input) :
    ProfileDb → ProfileDb → Prop :=
  Relation.ReflTransGen (LocalMove input)

theorem LocalMoves.of_step {input : Input}
    {db next : ProfileDb} (step : next = db ∨ LocalMove input db next) :
    LocalMoves input db next := by
  rcases step with rfl | move
  · exact .refl
  · exact .single move

/-- A query makes at most one write, and none to `favorites`. -/
theorem recordSuccessfulQuery_move {input : Input}
    (db : ProfileDb) {entry : HistoryEntry} {eventId : Uuid} (given : input.queried entry)
    (new : input.fresh eventId) :
    ((recordSuccessfulQuery db entry eventId).1 = db ∨
        LocalMove input db (recordSuccessfulQuery db entry eventId).1) ∧
      (recordSuccessfulQuery db entry eventId).1.favorites = db.favorites := by
  unfold recordSuccessfulQuery
  cases body : recordQueryBody entry eventId db with
  | error reason =>
      rw [Transaction.atomically_of_error body]
      exact ⟨Or.inl rfl, rfl⟩
  | ok pair =>
      obtain ⟨next, stats⟩ := pair
      rw [Transaction.atomically_of_ok body]
      unfold recordQueryBody at body
      obtain ⟨counted, count, rest⟩ := bind_ok_iff.mp body
      dsimp only [upsertHistory] at rest
      split at rest
      · rename_i inside
        obtain ⟨row, stored⟩ := Option.isSome_iff_exists.mp inside
        obtain ⟨written, queued, same⟩ := bind_ok_iff.mp rest
        cases same
        obtain ⟨unused, equation⟩ := upsertOutbox_ok queued
        refine ⟨Or.inr (.reported entry stats eventId row given new count stored unused equation),
          ?_⟩
        rw [equation]
      · rename_i outside
        cases rest
        refine ⟨Or.inr (.counted entry stats given count ?_ rfl), rfl⟩
        simpa using outside

/-- `favorite_from_history_tx` finds an active row, or writes one from the history. -/
theorem favoriteFromHistoryTx_cases {key : ContentKey} {now : Int} {eventId : Uuid}
    {db next : ProfileDb} {favorite : Favorite}
    (success : favoriteFromHistoryTx key now eventId db = .ok (next, favorite)) :
    favoriteTx next key = .ok (some favorite) ∧
      ((next = db ∧ ∃ row, db.favorites.get key = some row ∧ row.deletedAt = none) ∨
        ∃ entry stats, db.historyEntries.get key = some entry ∧
          db.queryStats.get key = some stats ∧
          (∀ row, db.favorites.get key = some row → row.deletedAt.isSome) ∧ Unused db eventId ∧
          next = { db with
            favorites := db.favorites.put key
              (favoriteRowOf entry now (revisionOf (db.favorites.get key)))
            syncOutbox := db.syncOutbox.put (.favorite key)
              ((favoriteIntent key "active" (revisionOf (db.favorites.get key)) stats now
                .favoriteUpsert eventId).row (db.syncOutbox.get (.favorite key))) }) := by
  unfold favoriteFromHistoryTx at success
  split at success
  · cases success
  · rename_i entry known
    split at success
    · cases success
    · rename_i stats counted
      obtain ⟨existing, looked, rest⟩ := bind_ok_iff.mp success
      have record := favoriteTx_ok looked
      split at rest
      · rename_i active found
        cases rest
        obtain ⟨same, kept⟩ := Option.filter_eq_some_iff.mp found
        subst same
        refine ⟨looked, Or.inl ⟨rfl, ?_⟩⟩
        rcases record with ⟨-, impossible⟩ | ⟨row, parsed, stored, reading, same⟩
        · cases impossible
        · cases same
          rw [(readFavorite_ok reading).1] at kept
          exact ⟨row, stored, by simpa using kept⟩
      · rename_i inactive
        obtain ⟨revision, fits, afterRevision⟩ := bind_ok_iff.mp rest
        dsimp only at afterRevision
        obtain ⟨written, queued, afterQueue⟩ := bind_ok_iff.mp afterRevision
        obtain ⟨again, reread, same⟩ := bind_ok_iff.mp afterQueue
        cases again with
        | none => cases same
        | some value =>
            cases same
            have named : revision = revisionOf (db.favorites.get key) := by
              rw [sqliteI64_ok fits]
              rcases record with ⟨absent, rfl⟩ | ⟨row, parsed, stored, reading, rfl⟩
              · simp [absent]
              · simp [stored, (readFavorite_ok reading).2.1]
            have deleted : ∀ row, db.favorites.get key = some row → row.deletedAt.isSome := by
              intro row stored
              rcases record with ⟨absent, rfl⟩ | ⟨found, parsed, here, reading, rfl⟩
              · rw [absent] at stored
                cases stored
              · rw [here] at stored
                cases stored
                rw [← (readFavorite_ok reading).1]
                by_contra active
                apply absurd inactive
                rw [Option.filter_some, if_pos]
                · simp
                · simpa using active
            subst named
            obtain ⟨unused, equation⟩ := upsertOutbox_ok queued
            exact ⟨reread, Or.inr ⟨entry, stats, known, counted, deleted, unused, equation⟩⟩

/-- The one case in which `favorite_from_history_tx` writes. -/
theorem favoriteFromHistoryTx_ok {input : Input}
    {key : ContentKey} {now : Int} {eventId : Uuid} {db next : ProfileDb} {favorite : Favorite}
    (new : input.fresh eventId)
    (success : favoriteFromHistoryTx key now eventId db = .ok (next, favorite)) :
    (next = db ∨ (LocalMove input db next ∧
        ∀ other, other ≠ key → next.favorites.get other = db.favorites.get other)) ∧
      favoriteTx next key = .ok (some favorite) ∧
      ∃ row, next.favorites.get key = some row ∧ row.deletedAt = none := by
  obtain ⟨reread, ⟨rfl, active⟩ | ⟨entry, stats, known, counted, deleted, unused, written⟩⟩ :=
    favoriteFromHistoryTx_cases success
  · exact ⟨Or.inl rfl, reread, active⟩
  · refine ⟨Or.inr ⟨.favorited key now eventId entry stats new known counted deleted unused
      written, ?_⟩, reread, favoriteRowOf entry now (revisionOf (db.favorites.get key)), ?_, rfl⟩
    · intro other apart
      rw [written]
      exact Table.get_put_of_ne _ _ apart
    · rw [written]
      exact Table.get_put_self _ _ _

/-- A row that is not there or deleted. -/
def isActive (row : Option FavoriteRow) : Bool :=
  row.any (fun value => value.deletedAt.isNone)

/-- What a call that states an intent on one content does: at most one write, none
to another content, none when it fails, and the asked state when it succeeds. -/
structure Toggled (input : Input) (db : ProfileDb)
    (key : ContentKey) (active : Bool) (outcome : ProfileDb × StorageResult Favorite) : Prop where
  move : outcome.1 = db ∨ LocalMove input db outcome.1
  others : ∀ other, other ≠ key → outcome.1.favorites.get other = db.favorites.get other
  failed : ∀ reason, outcome.2 = .error reason → outcome.1 = db
  state : ∀ value, outcome.2 = .ok value → isActive (outcome.1.favorites.get key) = active

theorem Toggled.unchanged {input : Input} {db : ProfileDb}
    {key : ContentKey} {active : Bool} {reason : StorageError} :
    Toggled input db key active (db, .error reason) := by
  refine ⟨Or.inl rfl, fun _ _ => rfl, fun _ _ => rfl, ?_⟩
  intro value success
  cases success

theorem readBack_ok {message : String} {key : ContentKey} {db : ProfileDb} {favorite : Favorite}
    (found : favoriteTx db key = .ok (some favorite)) :
    readBack message key (db, .ok ()) = (db, .ok favorite) := by
  simp [readBack, favoriteByKey, found, bind, Except.bind]

theorem favorite_toggled {input : Input} (db : ProfileDb)
    (key : ContentKey) (now : Int) {eventId : Uuid} (new : input.fresh eventId) :
    Toggled input db key true (favorite db key now eventId) := by
  unfold favorite
  cases body : favoriteBody key now eventId db with
  | error reason =>
      rw [Transaction.atomically_of_error body]
      exact .unchanged
  | ok pair =>
      obtain ⟨next, done⟩ := pair
      rw [Transaction.atomically_of_ok body]
      unfold favoriteBody at body
      obtain ⟨⟨written, answered⟩, stored, same⟩ := bind_ok_iff.mp body
      cases same
      obtain ⟨step, found, row, here, active⟩ := favoriteFromHistoryTx_ok new stored
      rw [readBack_ok found]
      have state : isActive (next.favorites.get key) = true := by simp [isActive, here, active]
      rcases step with rfl | ⟨move, others⟩
      · exact ⟨Or.inl rfl, fun _ _ => rfl, fun _ _ => rfl, fun _ _ => state⟩
      · exact ⟨Or.inr move, others, by rintro reason ⟨⟩, fun _ _ => state⟩

theorem readFavorite_tombstone {sourceMessage targetMessage : String} {key : ContentKey}
    {row : FavoriteRow} {favorite : Favorite} (now : Int)
    (success : readFavorite sourceMessage targetMessage key row = .ok favorite) :
    ∃ other, readFavorite sourceMessage targetMessage key (tombstone now row) = .ok other := by
  unfold readFavorite at success
  obtain ⟨kind, kindOk, afterKind⟩ := bind_ok_iff.mp success
  obtain ⟨sourceLang, sourceOk, afterSource⟩ := bind_ok_iff.mp afterKind
  obtain ⟨targetLang, targetOk, -⟩ := bind_ok_iff.mp afterSource
  have kept : (tombstone now row).snapshot.kind = row.snapshot.kind ∧
      (tombstone now row).snapshot.sourceLang = row.snapshot.sourceLang ∧
      (tombstone now row).snapshot.targetLang = row.snapshot.targetLang := ⟨rfl, rfl, rfl⟩
  simp only [readFavorite, kept, kindOk, sourceOk, targetOk, bind, Except.bind]
  exact ⟨_, rfl⟩

theorem deleteCoalesced_get (db : ProfileDb) (target coalesceKey : CoalesceKey) :
    (deleteCoalesced db target).syncOutbox.get coalesceKey =
      if coalesceKey = target then none else db.syncOutbox.get coalesceKey :=
  Table.get_delete_key db.syncOutbox target coalesceKey

theorem unfavorite_toggled {input : Input} (db : ProfileDb)
    (key : ContentKey) (now : Int) {eventId : Uuid} (new : input.fresh eventId) :
    Toggled input db key false (unfavorite db key now eventId) := by
  unfold unfavorite
  cases body : unfavoriteBody key now eventId db with
  | error reason =>
      rw [Transaction.atomically_of_error body]
      exact .unchanged
  | ok pair =>
      obtain ⟨next, done⟩ := pair
      rw [Transaction.atomically_of_ok body]
      unfold unfavoriteBody at body
      obtain ⟨found, looked, rest⟩ := bind_ok_iff.mp body
      rcases favoriteTx_ok looked with ⟨-, rfl⟩ | ⟨row, favorite, stored, parsed, rfl⟩
      · cases rest
      · have reading := readFavorite_ok parsed
        -- Whatever is queued, the local row is the tombstone and is read back.
        have buried : ∀ {last : ProfileDb}, last.favorites = db.favorites.update
            (fun other _ => decide (other = key)) (tombstone now) → row.deletedAt = none →
            LocalMove input db last →
            Toggled input db key false
              (readBack "favorite tombstone disappeared" key (last, .ok ())) := by
          intro last favorites alive move
          have here : last.favorites.get key = some (tombstone now row) := by
            rw [favorites, Table.get_update_key, if_pos rfl, stored]
            rfl
          obtain ⟨value, again⟩ := readFavorite_tombstone now parsed
          have back : favoriteTx last key = .ok (some value) := by
            unfold favoriteTx
            rw [here]
            simp only [parseFavorite, again, bind, Except.bind]
          rw [readBack_ok back]
          refine ⟨Or.inr move, ?_, nofun, fun _ _ => ?_⟩
          · intro other apart
            show last.favorites.get other = _
            rw [favorites, Table.get_update_key, if_neg apart]
          · show isActive (last.favorites.get key) = false
            rw [here]
            rfl
        dsimp only at rest
        split at rest
        · rename_i gone
          cases rest
          rw [readBack_ok looked]
          refine ⟨Or.inl rfl, fun _ _ => rfl, fun _ _ => rfl, fun _ _ => ?_⟩
          rw [reading.1] at gone
          obtain ⟨time, marked⟩ := Option.isSome_iff_exists.mp gone
          simp [isActive, stored, marked]
        · rename_i active
          have alive : row.deletedAt = none := by
            rw [reading.1] at active
            simpa using active
          split at rest
          · cases rest
          · rename_i stats counted
            split at rest
            · rename_i unsynced
              cases rest
              exact buried rfl alive (.folded key now row stored alive
                (by rw [← reading.2.1]; exact unsynced) rfl)
            · rename_i synced
              obtain ⟨written, queued, same⟩ := bind_ok_iff.mp rest
              cases same
              obtain ⟨unused, equation⟩ := upsertOutbox_ok queued
              refine buried (by rw [equation]; rfl) alive (.withdrawn key now eventId row stats new
                stored alive (by rw [← reading.2.1]; exact synced) ?_ ?_)
              · intro coalesceKey other apart present
                refine unused coalesceKey other ?_
                have away : coalesceKey ≠ queryStatsCoalesceKey key db.profileMeta.deviceId := apart
                rw [deleteCoalesced_get, if_neg away]
                exact present
              · rw [equation, reading.2.1]
                have kept : (deleteCoalesced { db with
                    favorites := db.favorites.update (fun other _ => other = key)
                      (tombstone now) }
                    (queryStatsCoalesceKey key db.profileMeta.deviceId)).syncOutbox.get
                      (favoriteCoalesceKey key) = db.syncOutbox.get (.favorite key) := by
                  rw [deleteCoalesced_get, if_neg (by simp [favoriteCoalesceKey,
                    queryStatsCoalesceKey])]
                  rfl
                rw [kept]
                rfl

theorem insertHistory_move {input : Input} (db : ProfileDb)
    {entry : HistoryEntry} (given : input.imported entry) :
    LocalMoves input db (insertHistoryWithZeroStats db entry) :=
  .single (.baseline entry given rfl)

theorem mergeHistory_moves {input : Input} (db : ProfileDb)
    {imported : HistoryEntry} (result : PortableImportResult) (given : input.imported imported) :
    LocalMoves input db (mergeHistory db imported result).1 := by
  unfold mergeHistory
  split
  · exact insertHistory_move db given
  · split
    · exact .single (.history imported given rfl)
    · exact .refl

/-- A turn of the history loop, whatever it has counted before. -/
def MergesHistory (db : ProfileDb) (imported : HistoryEntry) (next : ProfileDb) : Prop :=
  ∃ result, next = (mergeHistory db imported result).1

theorem mergeHistories_turns : ∀ (entries : List HistoryEntry) (db : ProfileDb)
    (result : PortableImportResult),
    Turns MergesHistory db entries (mergeHistories db result entries).1 := by
  intro entries
  induction entries with
  | nil => exact fun db result => .nil db
  | cons entry rest ih => exact fun db result => .cons ⟨result, rfl⟩ (ih _ _)

theorem fromStorage_ok {τ : Type} {result : StorageResult τ} {value : τ}
    (success : fromStorage result = .ok value) : result = .ok value := by
  cases result with
  | error reason => cases success
  | ok found =>
      cases success
      rfl

theorem mergeFavoriteHistory_moves {input : Input}
    (document : ValidatedExport) (db : ProfileDb) {favorite : Favorite}
    (result : PortableImportResult) (given : input.imported (historyFromFavorite favorite)) :
    LocalMoves input db (mergeFavoriteHistory document db favorite result).1 := by
  unfold mergeFavoriteHistory
  split
  · exact .refl
  · split
    · exact .refl
    · exact insertHistory_move db given

theorem mergeFavorite_moves {input : Input}
    {document : ValidatedExport} {now : Int} {eventIds : ContentKey → Uuid} {db next : ProfileDb}
    {favorite : Favorite} {result after : PortableImportResult}
    (given : input.imported (historyFromFavorite favorite))
    (kept : input.archived favorite)
    (new : input.fresh (eventIds favorite.content.contentKey))
    (success : mergeFavorite document now eventIds db favorite result = .ok (next, after)) :
    LocalMoves input db next := by
  have brought := mergeFavoriteHistory_moves document db result given
  unfold mergeFavorite at success
  dsimp only at success
  generalize mergeFavoriteHistory document db favorite result = merged at success brought
  obtain ⟨middle, counters⟩ := merged
  dsimp only at success brought
  obtain ⟨existing, lookedUp, rest⟩ := bind_ok_iff.mp success
  have record := favoriteTx_ok (fromStorage_ok lookedUp)
  have added : ∀ {value : Favorite} {last : ProfileDb},
      favoriteFromHistoryTx favorite.content.contentKey now
        (eventIds favorite.content.contentKey) middle = .ok (last, value) →
      LocalMoves input middle last := by
    intro value last stored
    rcases (favoriteFromHistoryTx_ok new stored).1 with rfl | ⟨move, -⟩
    · exact .refl
    · exact .single move
  split at rest
  · split at rest
    · split at rest
      · cases rest
        exact brought
      · obtain ⟨⟨last, value⟩, stored, same⟩ := bind_ok_iff.mp rest
        cases same
        exact brought.trans (added (fromStorage_ok stored))
    · obtain ⟨⟨last, value⟩, stored, same⟩ := bind_ok_iff.mp rest
      cases same
      exact brought.trans (added (fromStorage_ok stored))
  · rename_i deleted
    split at rest
    · cases rest
      exact brought
    · rename_i missing
      cases rest
      refine brought.trans (.single (.archived favorite kept ?_ ?_ rfl))
      · rcases record with ⟨absent, -⟩ | ⟨row, parsed, stored, -, rfl⟩
        · exact absent
        · simp at missing
      · rw [Option.isSome_iff_ne_none]
        simpa using deleted

/-- A turn of the Favorite loop that succeeds. -/
def MergesFavorite (document : ValidatedExport) (now : Int) (eventIds : ContentKey → Uuid)
    (db : ProfileDb) (favorite : Favorite) (next : ProfileDb) : Prop :=
  ∃ result after, mergeFavorite document now eventIds db favorite result = .ok (next, after)

theorem mergeFavorites_turns {document : ValidatedExport} {now : Int}
    {eventIds : ContentKey → Uuid} :
    ∀ (favorites : List Favorite) (db next : ProfileDb) (result after : PortableImportResult),
      mergeFavorites document now eventIds db result favorites = .ok (next, after) →
      Turns (MergesFavorite document now eventIds) db favorites next := by
  intro favorites
  induction favorites with
  | nil =>
      intro db next result after success
      cases success
      exact .nil db
  | cons favorite rest ih =>
      intro db next result after success
      unfold mergeFavorites at success
      obtain ⟨⟨middle, counters⟩, head, tail⟩ := bind_ok_iff.mp success
      exact .cons ⟨result, counters, head⟩ (ih middle next counters after tail)

/-- An import that writes has gone through both loops. -/
theorem applyPortableImport_turns (db : ProfileDb) (plan : PortableImportPlan) (now : Int)
    (eventIds : ContentKey → Uuid) :
    (∃ reason, applyPortableImport db plan now eventIds = (db, .error reason)) ∨
      ∃ middle next result, applyPortableImport db plan now eventIds = (next, .ok result) ∧
        Turns MergesHistory db plan.document.history middle ∧
        Turns (MergesFavorite plan.document now eventIds) middle plan.document.favorites next := by
  unfold applyPortableImport
  split
  · exact Or.inl ⟨_, rfl⟩
  · cases body : applyMerge plan.document now eventIds db with
    | error reason => exact Or.inl ⟨reason, Transaction.atomically_of_error body⟩
    | ok pair =>
        obtain ⟨next, result⟩ := pair
        let counters : PortableImportResult :=
          ⟨0, 0, 0, 0, 0, 0, 0, plan.document.queryStatsCount⟩
        have begun := mergeHistories_turns plan.document.history db counters
        have looped : mergeFavorites plan.document now eventIds _ _ _ = .ok (next, result) := body
        exact Or.inr ⟨_, next, result, Transaction.atomically_of_ok body, begun,
          mergeFavorites_turns _ _ _ _ _ looped⟩

theorem applyPortableImport_moves {input : Input}
    (db : ProfileDb) {plan : PortableImportPlan} (now : Int) {eventIds : ContentKey → Uuid}
    (history : ∀ entry ∈ plan.document.history, input.imported entry)
    (favorites : ∀ favorite ∈ plan.document.favorites,
      input.imported (historyFromFavorite favorite) ∧ input.archived favorite ∧
        input.fresh (eventIds favorite.content.contentKey)) :
    LocalMoves input db (applyPortableImport db plan now eventIds).1 := by
  rcases applyPortableImport_turns db plan now eventIds with
    ⟨reason, same⟩ | ⟨middle, next, result, same, histories, later⟩
  · rw [same]
  · rw [same]
    refine (histories.relates (fun _ => Relation.ReflTransGen.refl)
      (fun _ _ _ => Relation.ReflTransGen.trans) ?_).trans
      (later.relates (fun _ => Relation.ReflTransGen.refl)
        (fun _ _ _ => Relation.ReflTransGen.trans) ?_)
    · rintro before entry _ member ⟨counters, rfl⟩
      exact mergeHistory_moves before counters (history entry member)
    · rintro before favorite after member ⟨counters, counted, merged⟩
      obtain ⟨given, kept, new⟩ := favorites favorite member
      exact mergeFavorite_moves given kept new merged

end Lvos.Storage
