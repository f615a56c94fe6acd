import Lvos.Storage.Views

set_option autoImplicit false

namespace Lvos.Storage

open Lvos.Core Lvos.Sync
open Relational (Table)

/-- The texts of the row are those of typed values, so reading and rendering it
gives its own columns back. -/
def Canonical (row : FavoriteRow) : Prop :=
  ∃ (kind : TextKind) (sourceLang targetLang : LanguageCode),
    row.snapshot.kind = kind.protocolName ∧ row.snapshot.sourceLang = sourceLang.text ∧
      row.snapshot.targetLang = targetLang.text

theorem parseKind_protocolName (kind : TextKind) : parseKind kind.protocolName = .ok kind := by
  cases kind <;> rfl

theorem readFavorite_canonical {sourceMessage targetMessage : String} {key : ContentKey}
    {row : FavoriteRow} (canonical : Canonical row) :
    ∃ favorite, readFavorite sourceMessage targetMessage key row = .ok favorite ∧
      protocolSnapshot favorite = row.snapshot := by
  obtain ⟨kind, sourceLang, targetLang, kindSame, sourceSame, targetSame⟩ := canonical
  obtain ⟨keyVersion, snapshot, deletedAt, entityRevision⟩ := row
  obtain ⟨kindText, sourceText, targetText, source, canonicalText, translation, provider,
    favoritedAt, updatedAt⟩ := snapshot
  dsimp only at kindSame sourceSame targetSame
  subst kindSame sourceSame targetSame
  refine ⟨⟨⟨key, keyVersion, kind, sourceLang, source, canonicalText⟩,
    ⟨targetLang, translation, provider, updatedAt⟩, favoritedAt, updatedAt, deletedAt,
    entityRevision⟩, ?_, rfl⟩
  simp only [readFavorite, parseKind_protocolName, parseLanguage, LanguageCode.parse_text, bind,
    Except.bind]

theorem protocolSnapshot_of_read {sourceMessage targetMessage : String} {key : ContentKey}
    {row : FavoriteRow} {favorite : Favorite} (canonical : Canonical row)
    (success : readFavorite sourceMessage targetMessage key row = .ok favorite) :
    protocolSnapshot favorite = row.snapshot := by
  obtain ⟨value, reading, same⟩ := readFavorite_canonical canonical
  rw [success] at reading
  cases reading
  exact same

theorem favoriteRowOf_canonical (entry : HistoryEntry) (now : Int) (revision : Nat) :
    Canonical (favoriteRowOf entry now revision) :=
  ⟨entry.content.kind, entry.content.sourceLang, entry.translation.targetLang, rfl, rfl, rfl⟩

/-- A pending Favorite intent against the local row: it asks for the state the row
has, at the revision the row has. -/
structure Pending (favorite : Option FavoriteRow) (key : ContentKey) (row : OutboxRow) : Prop where
  contentKey : row.contentKey = key
  base : row.baseEntityRevision = some (revisionOf favorite)
  state : (row.operation = .favoriteUpsert ∧
      ∃ value, favorite = some value ∧ value.deletedAt = none ∧ Canonical value) ∨
    (row.operation = .favoriteDelete ∧ ∃ value, favorite = some value ∧ value.deletedAt.isSome)

theorem Pending.present {favorite : Option FavoriteRow} {key : ContentKey} {row : OutboxRow}
    (pending : Pending favorite key row) : ∃ value, favorite = some value := by
  rcases pending.state with ⟨-, value, here, -⟩ | ⟨-, value, here, -⟩
  · exact ⟨value, here⟩
  · exact ⟨value, here⟩

theorem Pending.operation {favorite : Option FavoriteRow} {key : ContentKey} {row : OutboxRow}
    (pending : Pending favorite key row) : isFavoriteOperation row.operation = true := by
  rcases pending.state with ⟨upsert, -⟩ | ⟨delete, -⟩
  · rw [upsert]
    rfl
  · rw [delete]
    rfl

/-- A pending statistics row is for a content of the Favorite domain. -/
structure PendingStats (favorite : Option FavoriteRow) (key : ContentKey) (row : OutboxRow) :
    Prop where
  contentKey : row.contentKey = key
  operation : row.operation = .queryStatsUpsert
  base : row.baseEntityRevision = none
  present : favorite.isSome

/-- What every reachable profile keeps, whatever the server does. -/
structure Shape (issued : List Uuid) (db : ProfileDb) : Prop where
  favorites : ∀ key row, db.syncOutbox.get (.favorite key) = some row →
    Pending (db.favorites.get key) key row
  stats : ∀ deviceId key row, db.syncOutbox.get (.queryStats deviceId key) = some row →
    PendingStats (db.favorites.get key) key row
  issued : ∀ coalesceKey row, db.syncOutbox.get coalesceKey = some row → row.eventId ∈ issued
  unique : ∀ first second row other, db.syncOutbox.get first = some row →
    db.syncOutbox.get second = some other → row.eventId = other.eventId → first = second

theorem Shape.initial (profileId : Uuid) (deviceId : String) (now : Int) :
    Shape [] (ProfileDb.initial profileId deviceId now) where
  favorites := by simp [ProfileDb.initial]
  stats := by simp [ProfileDb.initial]
  issued := by simp [ProfileDb.initial]
  unique := by simp [ProfileDb.initial]

/-- The rows are filed under what they are about, and are of contents of the Favorite domain. -/
structure Indexed (db : ProfileDb) : Prop where
  favorites : ∀ key row, db.syncOutbox.get (.favorite key) = some row →
    row.contentKey = key ∧ isFavoriteOperation row.operation = true ∧
      (db.favorites.get key).isSome
  stats : ∀ deviceId key row, db.syncOutbox.get (.queryStats deviceId key) = some row →
    row.contentKey = key ∧ row.operation = .queryStatsUpsert ∧ (db.favorites.get key).isSome

/-- Every pending row is of a content of the Favorite domain. -/
theorem Indexed.inDomain {db : ProfileDb} (indexed : Indexed db) {coalesceKey : CoalesceKey}
    {row : OutboxRow} (stored : db.syncOutbox.get coalesceKey = some row) :
    (db.favorites.get row.contentKey).isSome := by
  cases coalesceKey with
  | favorite key =>
      obtain ⟨contentKey, -, present⟩ := indexed.favorites key row stored
      rwa [contentKey]
  | queryStats deviceId key =>
      obtain ⟨contentKey, -, present⟩ := indexed.stats deviceId key row stored
      rwa [contentKey]

theorem Shape.indexed {issued : List Uuid} {db : ProfileDb} (shape : Shape issued db) :
    Indexed db where
  favorites := by
    intro key row stored
    have pending := shape.favorites key row stored
    obtain ⟨value, here⟩ := pending.present
    exact ⟨pending.contentKey, pending.operation, by rw [here]; rfl⟩
  stats := by
    intro deviceId key row stored
    have pending := shape.stats deviceId key row stored
    exact ⟨pending.contentKey, pending.operation, pending.present⟩

theorem Shape.weaken {issued more : List Uuid} {db : ProfileDb} (shape : Shape issued db)
    (grows : ∀ id ∈ issued, id ∈ more) : Shape more db :=
  ⟨shape.favorites, shape.stats,
    fun coalesceKey row stored => grows _ (shape.issued coalesceKey row stored), shape.unique⟩

/-- How a user's write moves one content: its local row and its pending intent. -/
inductive KeyMove (fresh : Uuid → Prop) (key : ContentKey)
    (favorite next : Option FavoriteRow) (pending after : Option OutboxRow) : Prop
  | same (favorites : next = favorite) (outbox : after = pending)
  | favorited (value : FavoriteRow) (row : OutboxRow)
      (inactive : ∀ old, favorite = some old → old.deletedAt.isSome) (stored : next = some value)
      (active : value.deletedAt = none) (canonical : Canonical value)
      (revision : value.entityRevision = revisionOf favorite) (queued : after = some row)
      (new : fresh row.eventId) (contentKey : row.contentKey = key)
      (operation : row.operation = .favoriteUpsert)
      (base : row.baseEntityRevision = some (revisionOf favorite))
  | archived (value : FavoriteRow) (absent : favorite = none) (stored : next = some value)
      (deleted : value.deletedAt.isSome) (revision : value.entityRevision = 0)
      (outbox : after = pending)
  | folded (old value : FavoriteRow) (present : favorite = some old)
      (active : old.deletedAt = none) (unsynced : old.entityRevision = 0)
      (stored : next = some value) (deleted : value.deletedAt.isSome)
      (revision : value.entityRevision = 0) (dropped : after = none)
  | withdrawn (old value : FavoriteRow) (row : OutboxRow) (present : favorite = some old)
      (active : old.deletedAt = none) (synced : old.entityRevision ≠ 0)
      (stored : next = some value) (deleted : value.deletedAt.isSome)
      (revision : value.entityRevision = old.entityRevision) (queued : after = some row)
      (new : fresh row.eventId) (contentKey : row.contentKey = key)
      (operation : row.operation = .favoriteDelete)
      (base : row.baseEntityRevision = some old.entityRevision)

/-- How a user's write moves one statistics row of the Outbox. -/
inductive StatsMove (fresh : Uuid → Prop) (key : ContentKey) (favorite : Option FavoriteRow)
    (pending after : Option OutboxRow) : Prop
  | same (outbox : after = pending)
  | dropped (outbox : after = none)
  | reported (row : OutboxRow) (queued : after = some row) (new : fresh row.eventId)
      (contentKey : row.contentKey = key) (operation : row.operation = .queryStatsUpsert)
      (base : row.baseEntityRevision = none) (present : favorite.isSome)

theorem PendingOutbox.row_eventId (event : PendingOutbox) (existing : Option OutboxRow) :
    (event.row existing).eventId = event.eventId := by
  cases existing <;> rfl

theorem PendingOutbox.row_operation (event : PendingOutbox) (existing : Option OutboxRow) :
    (event.row existing).operation = event.operation := by
  cases existing <;> rfl

theorem PendingOutbox.row_base (event : PendingOutbox) (existing : Option OutboxRow) :
    (event.row existing).baseEntityRevision = event.revision := by
  cases existing <;> rfl

theorem PendingOutbox.row_contentKey (event : PendingOutbox) (existing : Option OutboxRow)
    (same : ∀ row, existing = some row → row.contentKey = event.key) :
    (event.row existing).contentKey = event.key := by
  cases existing with
  | none => rfl
  | some row => exact same row rfl

theorem insertHistoryWithZeroStats_favorites (db : ProfileDb) (entry : HistoryEntry) :
    (insertHistoryWithZeroStats db entry).favorites = db.favorites ∧
      (insertHistoryWithZeroStats db entry).syncOutbox = db.syncOutbox ∧
      (insertHistoryWithZeroStats db entry).profileMeta = db.profileMeta := by
  unfold insertHistoryWithZeroStats
  dsimp only
  split <;> exact ⟨rfl, rfl, rfl⟩

section Views

variable {input : Input} {issued : List Uuid}
  {db next : ProfileDb}

theorem LocalMove.profileMeta (move : LocalMove input db next) :
    next.profileMeta = db.profileMeta := by
  cases move with
  | history entry given changed => rw [changed]; rfl
  | baseline entry given changed =>
      rw [changed]
      exact (insertHistoryWithZeroStats_favorites db entry).2.2
  | counted entry stats given count outside changed => rw [changed]; rfl
  | reported entry stats eventId row given new count inside unused changed => rw [changed]; rfl
  | favorited key now eventId entry stats new known counted inactive unused changed => rw [changed]
  | archived favorite given absent deleted changed => rw [changed]; rfl
  | folded key now row stored active unsynced changed => rw [changed]; rfl
  | withdrawn key now eventId row stats new stored active synced unused changed => rw [changed]
  | cleared changed => rw [changed]; rfl

/-- One content under one write of a user's call. -/
theorem LocalMove.keyMove (move : LocalMove input db next) (indexed : Indexed db)
    (key : ContentKey) :
    KeyMove input.fresh key (db.favorites.get key) (next.favorites.get key)
      (db.syncOutbox.get (.favorite key)) (next.syncOutbox.get (.favorite key)) := by
  have queuedKey : ∀ other row, db.syncOutbox.get (.favorite other) = some row →
      row.contentKey = other := fun other row stored =>
    (indexed.favorites other row stored).1
  cases move with
  | history entry given changed => exact .same (by rw [changed]; rfl) (by rw [changed]; rfl)
  | baseline entry given changed =>
      have frame := insertHistoryWithZeroStats_favorites db entry
      exact .same (by rw [changed, frame.1]) (by rw [changed, frame.2.1])
  | counted entry stats given count outside changed =>
      exact .same (by rw [changed]; rfl) (by rw [changed]; rfl)
  | reported entry stats eventId row given new count inside unused changed =>
      refine .same (by rw [changed]; rfl) ?_
      rw [changed]
      exact Table.get_put_of_ne _ _ (by simp)
  | favorited other now eventId entry stats new known counted inactive unused changed =>
      by_cases same : key = other
      · subst same
        refine .favorited (favoriteRowOf entry now (revisionOf (db.favorites.get key)))
          ((favoriteIntent key "active" (revisionOf (db.favorites.get key)) stats now
            .favoriteUpsert eventId).row (db.syncOutbox.get (.favorite key)))
          inactive ?_ rfl (favoriteRowOf_canonical _ _ _) rfl ?_ ?_ ?_ ?_ ?_
        · rw [changed]
          exact Table.get_put_self _ _ _
        · rw [changed]
          exact Table.get_put_self _ _ _
        · rw [PendingOutbox.row_eventId]
          exact new
        · exact PendingOutbox.row_contentKey _ _ (queuedKey key)
        · exact PendingOutbox.row_operation _ _
        · exact PendingOutbox.row_base _ _
      · refine .same ?_ ?_
        · rw [changed]
          exact Table.get_put_of_ne _ _ same
        · rw [changed]
          exact Table.get_put_of_ne _ _ (by simpa using same)
  | archived favorite given absent deleted changed =>
      by_cases same : key = favorite.content.contentKey
      · subst same
        refine .archived (archivedRow favorite) absent ?_ deleted rfl (by rw [changed]; rfl)
        rw [changed]
        exact Table.get_put_self _ _ _
      · refine .same ?_ (by rw [changed]; rfl)
        rw [changed]
        exact Table.get_put_of_ne _ _ same
  | folded other now row stored active unsynced changed =>
      by_cases same : key = other
      · subst same
        refine .folded row (tombstone now row) stored active unsynced ?_ rfl unsynced ?_
        · rw [changed]
          show (db.favorites.update _ _).get key = _
          rw [Table.get_update_key, if_pos rfl, stored]
          rfl
        · rw [changed, deleteCoalesced_get, if_pos rfl]
      · refine .same ?_ ?_
        · rw [changed]
          show (db.favorites.update _ _).get key = _
          rw [Table.get_update_key, if_neg same]
        · rw [changed, deleteCoalesced_get, if_neg (by simpa using same), deleteCoalesced_get,
            if_neg (by simp)]
  | withdrawn other now eventId row stats new stored active synced unused changed =>
      by_cases same : key = other
      · subst same
        refine .withdrawn row (tombstone now row)
          ((favoriteIntent key "deleted" row.entityRevision stats now .favoriteDelete
            eventId).row (db.syncOutbox.get (.favorite key)))
          stored active synced ?_ rfl rfl ?_ ?_ ?_ ?_ ?_
        · rw [changed]
          show (db.favorites.update _ _).get key = _
          rw [Table.get_update_key, if_pos rfl, stored]
          rfl
        · rw [changed]
          exact Table.get_put_self _ _ _
        · rw [PendingOutbox.row_eventId]
          exact new
        · exact PendingOutbox.row_contentKey _ _ (queuedKey key)
        · exact PendingOutbox.row_operation _ _
        · exact PendingOutbox.row_base _ _
      · refine .same ?_ ?_
        · rw [changed]
          show (db.favorites.update _ _).get key = _
          rw [Table.get_update_key, if_neg same]
        · rw [changed]
          show ((db.syncOutbox.delete _).put _ _).get (.favorite key) = _
          rw [Table.get_put_of_ne _ _ (by simpa using same), Table.get_delete_key,
            if_neg (by simp)]
  | cleared changed => exact .same (by rw [changed]; rfl) (by rw [changed]; rfl)

theorem LocalMove.statsMove (move : LocalMove input db next) (indexed : Indexed db)
    (deviceId : String) (key : ContentKey) :
    StatsMove input.fresh key (next.favorites.get key) (db.syncOutbox.get (.queryStats deviceId key))
      (next.syncOutbox.get (.queryStats deviceId key)) := by
  cases move with
  | history entry given changed => exact .same (by rw [changed]; rfl)
  | baseline entry given changed =>
      exact .same (by rw [changed, (insertHistoryWithZeroStats_favorites db entry).2.1])
  | counted entry stats given count outside changed => exact .same (by rw [changed]; rfl)
  | reported entry stats eventId row given new count inside unused changed =>
      by_cases same : CoalesceKey.queryStats deviceId key =
          .queryStats db.profileMeta.deviceId entry.content.contentKey
      · obtain ⟨rfl, rfl⟩ := CoalesceKey.queryStats.inj same
        refine .reported _ (by rw [changed]; exact Table.get_put_self _ _ _) ?_ ?_ ?_ ?_ ?_
        · rw [PendingOutbox.row_eventId]
          exact new
        · exact PendingOutbox.row_contentKey _ _ (fun other stored =>
            (indexed.stats _ _ other stored).1)
        · exact PendingOutbox.row_operation _ _
        · exact PendingOutbox.row_base _ _
        · rw [changed]
          show (db.favorites.get entry.content.contentKey).isSome
          rw [inside]
          rfl
      · refine .same ?_
        rw [changed]
        exact Table.get_put_of_ne _ _ same
  | favorited other now eventId entry stats new known counted inactive unused changed =>
      refine .same ?_
      rw [changed]
      exact Table.get_put_of_ne _ _ (by simp)
  | archived favorite given absent deleted changed => exact .same (by rw [changed]; rfl)
  | folded other now row stored active unsynced changed =>
      rw [changed, deleteCoalesced_get, if_neg (by simp), deleteCoalesced_get]
      split
      · exact .dropped rfl
      · exact .same rfl
  | withdrawn other now eventId row stats new stored active synced unused changed =>
      have lookup : next.syncOutbox.get (.queryStats deviceId key) =
          if CoalesceKey.queryStats deviceId key = .queryStats db.profileMeta.deviceId other
          then none else db.syncOutbox.get (.queryStats deviceId key) := by
        rw [changed]
        show ((db.syncOutbox.delete _).put _ _).get _ = _
        rw [Table.get_put_of_ne _ _ (by simp), Table.get_delete_key]
      rw [lookup]
      split
      · exact .dropped rfl
      · exact .same rfl
  | cleared changed => exact .same (by rw [changed]; rfl)

theorem KeyMove.present {key : ContentKey} {favorite after : Option FavoriteRow}
    {pending queued : Option OutboxRow} (move : KeyMove input.fresh key favorite after pending queued)
    (here : favorite.isSome) : after.isSome := by
  cases move with
  | same favorites outbox => rwa [favorites]
  | favorited value row inactive stored => rw [stored]; rfl
  | archived value absent stored => rw [stored]; rfl
  | folded old value present active unsynced stored => rw [stored]; rfl
  | withdrawn old value row present active synced stored => rw [stored]; rfl

/-- A user's write never touches the revision of a content. -/
theorem KeyMove.revision {key : ContentKey} {favorite after : Option FavoriteRow}
    {pending queued : Option OutboxRow} (move : KeyMove input.fresh key favorite after pending queued) :
    revisionOf after = revisionOf favorite := by
  cases move with
  | same favorites outbox => rw [favorites]
  | favorited value row inactive stored active canonical revision =>
      rw [stored, revisionOf_some, revision]
  | archived value absent stored deleted revision =>
      rw [stored, absent, revisionOf_some, revisionOf_none, revision]
  | folded old value present active unsynced stored deleted revision =>
      rw [stored, present, revisionOf_some, revisionOf_some, revision, unsynced]
  | withdrawn old value row present active synced stored deleted revision =>
      rw [stored, present, revisionOf_some, revisionOf_some, revision]

/-- A pending row with an old id was there before, over the same local row. -/
theorem KeyMove.kept {key : ContentKey} {favorite after : Option FavoriteRow}
    {pending queued : Option OutboxRow} (move : KeyMove input.fresh key favorite after pending queued)
    (pendingShape : ∀ row, pending = some row → Pending favorite key row) {row : OutboxRow}
    (stored : queued = some row) (old : ¬ input.fresh row.eventId) :
    pending = some row ∧ after = favorite := by
  cases move with
  | same favorites outbox => exact ⟨outbox ▸ stored, favorites⟩
  | favorited value other inactive here active canonical revision outbox new =>
      rw [outbox] at stored
      cases stored
      exact absurd new old
  | archived value absent here deleted revision outbox =>
      obtain ⟨found, present⟩ := (pendingShape row (outbox ▸ stored)).present
      rw [absent] at present
      cases present
  | folded before value present active unsynced here deleted revision dropped =>
      rw [dropped] at stored
      cases stored
  | withdrawn before value other present active synced here deleted revision outbox new =>
      rw [outbox] at stored
      cases stored
      exact absurd new old

/-- A row a user's write leaves was there, or is new and the only one of its id. -/
theorem LocalMove.row (move : LocalMove input db next) {coalesceKey : CoalesceKey}
    {row : OutboxRow} (stored : next.syncOutbox.get coalesceKey = some row) :
    db.syncOutbox.get coalesceKey = some row ∨
      (input.fresh row.eventId ∧ ∀ other old, other ≠ coalesceKey →
        next.syncOutbox.get other = some old → old.eventId ≠ row.eventId) := by
  have kept : next.syncOutbox = db.syncOutbox →
      db.syncOutbox.get coalesceKey = some row ∨
        (input.fresh row.eventId ∧ ∀ other old, other ≠ coalesceKey →
          next.syncOutbox.get other = some old → old.eventId ≠ row.eventId) := by
    intro same
    rw [same] at stored
    exact Or.inl stored
  -- A put over a table in which no other row has the id.
  have written : ∀ (table : Table CoalesceKey OutboxRow) (target : CoalesceKey)
      (event : PendingOutbox) (existing : Option OutboxRow), input.fresh event.eventId →
      (∀ other old, other ≠ target → table.get other = some old →
        db.syncOutbox.get other = some old ∧ old.eventId ≠ event.eventId) →
      next.syncOutbox = table.put target (event.row existing) →
      db.syncOutbox.get coalesceKey = some row ∨
        (input.fresh row.eventId ∧ ∀ other old, other ≠ coalesceKey →
          next.syncOutbox.get other = some old → old.eventId ≠ row.eventId) := by
    intro table target event existing new others same
    rw [same, Table.get_put] at stored
    split at stored
    · rename_i hit
      cases stored
      rw [PendingOutbox.row_eventId]
      refine Or.inr ⟨new, ?_⟩
      intro other old apart found
      rw [same, Table.get_put_of_ne _ _ (hit ▸ apart)] at found
      exact (others other old (hit ▸ apart) found).2
    · rename_i missed
      exact Or.inl (others coalesceKey row missed stored).1
  cases move with
  | history entry given changed => exact kept (by rw [changed]; rfl)
  | baseline entry given changed =>
      exact kept (by rw [changed, (insertHistoryWithZeroStats_favorites db entry).2.1])
  | counted entry stats given count outside changed => exact kept (by rw [changed]; rfl)
  | reported entry stats eventId favorite given new count inside unused changed =>
      exact written db.syncOutbox _ (statsIntent db entry.content.contentKey stats
        entry.lastQueriedAt eventId) _ new
        (fun other old _ found => ⟨found, unused other old found⟩) (by rw [changed])
  | favorited key now eventId entry stats new known counted inactive unused changed =>
      exact written db.syncOutbox _ (favoriteIntent key "active"
        (revisionOf (db.favorites.get key)) stats now .favoriteUpsert eventId) _ new
        (fun other old _ found => ⟨found, unused other old found⟩) (by rw [changed])
  | archived favorite given absent deleted changed => exact kept (by rw [changed]; rfl)
  | folded key now favorite here active unsynced changed =>
      rw [changed, deleteCoalesced_get] at stored
      split at stored
      · cases stored
      · rw [deleteCoalesced_get] at stored
        split at stored
        · cases stored
        · exact Or.inl stored
  | withdrawn key now eventId favorite stats new here active synced unused changed =>
      refine written _ _ (favoriteIntent key "deleted" favorite.entityRevision stats now
        .favoriteDelete eventId) _ new ?_ (by rw [changed])
      intro other old _ found
      rw [Table.get_delete_key] at found
      split at found
      · cases found
      · rename_i apart
        exact ⟨found, unused other old apart found⟩
  | cleared changed => exact kept (by rw [changed]; rfl)

theorem Indexed.localMove (indexed : Indexed db) (move : LocalMove input db next) :
    Indexed next where
  favorites := by
    intro key row stored
    have view := move.keyMove indexed key
    rw [stored] at view
    cases view with
    | same favorites outbox =>
        rw [favorites]
        exact indexed.favorites key row outbox.symm
    | favorited value queued inactive favorites active canonical revision outbox new contentKey
        operation base =>
        cases outbox
        exact ⟨contentKey, by rw [operation]; rfl, by rw [favorites]; rfl⟩
    | archived value absent favorites deleted revision outbox =>
        obtain ⟨contentKey, operation, -⟩ := indexed.favorites key row outbox.symm
        exact ⟨contentKey, operation, by rw [favorites]; rfl⟩
    | folded old value present active unsynced favorites deleted revision dropped => cases dropped
    | withdrawn old value queued present active synced favorites deleted revision outbox new
        contentKey operation base =>
        cases outbox
        exact ⟨contentKey, by rw [operation]; rfl, by rw [favorites]; rfl⟩
  stats := by
    intro deviceId key row stored
    have view := move.statsMove indexed deviceId key
    rw [stored] at view
    cases view with
    | same outbox =>
        obtain ⟨contentKey, operation, present⟩ := indexed.stats deviceId key row outbox.symm
        exact ⟨contentKey, operation, (move.keyMove indexed key).present present⟩
    | dropped outbox => cases outbox
    | reported queued outbox new contentKey operation base present =>
        cases outbox
        exact ⟨contentKey, operation, present⟩

theorem Shape.localMove (shape : Shape issued db) (move : LocalMove input db next)
    (recorded : ∀ id, input.fresh id → id ∈ issued) : Shape issued next where
  favorites := by
    intro key row stored
    have view := move.keyMove shape.indexed key
    rw [stored] at view
    cases view with
    | same favorites outbox =>
        rw [favorites]
        exact shape.favorites key row outbox.symm
    | favorited value queued inactive favorites active canonical revision outbox new contentKey
        operation base =>
        cases outbox
        rw [favorites]
        refine ⟨contentKey, ?_, Or.inl ⟨operation, value, rfl, active, canonical⟩⟩
        rw [base, revisionOf_some, revision]
    | archived value absent favorites deleted revision outbox =>
        obtain ⟨old, here⟩ := (shape.favorites key row outbox.symm).present
        rw [absent] at here
        cases here
    | folded old value present active unsynced favorites deleted revision dropped => cases dropped
    | withdrawn old value queued present active synced favorites deleted revision outbox new
        contentKey operation base =>
        cases outbox
        rw [favorites]
        refine ⟨contentKey, ?_, Or.inr ⟨operation, value, rfl, deleted⟩⟩
        rw [base, revisionOf_some, revision]
  stats := by
    intro deviceId key row stored
    have view := move.statsMove shape.indexed deviceId key
    rw [stored] at view
    cases view with
    | same outbox =>
        have old := shape.stats deviceId key row outbox.symm
        exact ⟨old.contentKey, old.operation, old.base,
          (move.keyMove shape.indexed key).present old.present⟩
    | dropped outbox => cases outbox
    | reported queued outbox new contentKey operation base present =>
        cases outbox
        exact ⟨contentKey, operation, base, present⟩
  issued := by
    intro coalesceKey row stored
    rcases move.row stored with old | ⟨new, -⟩
    · exact shape.issued coalesceKey row old
    · exact recorded row.eventId new
  unique := by
    intro first second row other here there same
    by_contra apart
    rcases move.row here with old | ⟨-, alone⟩
    · rcases move.row there with older | ⟨-, alone⟩
      · exact apart (shape.unique first second row other old older same)
      · exact alone first row apart here same
    · exact alone second other (Ne.symm apart) there same.symm

end Views

/-- A row after a step of the worker: what it asks for is what it asked for. -/
structure Carried (old row : OutboxRow) : Prop where
  eventId : row.eventId = old.eventId
  contentKey : row.contentKey = old.contentKey
  operation : row.operation = old.operation
  createdAt : row.createdAt = old.createdAt
  base : isFavoriteOperation old.operation = false →
    row.baseEntityRevision = old.baseEntityRevision

theorem OutboxRow.Like.carried {old row : OutboxRow} (like : old.Like row) : Carried old row :=
  ⟨like.eventId, like.contentKey, like.operation, like.createdAt, fun _ => like.base⟩

theorem Pending.carry {favorite next : Option FavoriteRow} {key : ContentKey}
    {old row : OutboxRow} (pending : Pending favorite key old) (carried : Carried old row)
    (base : row.baseEntityRevision = some (revisionOf next))
    (state : ∀ value, favorite = some value → ∃ after, next = some after ∧
      after.deletedAt = value.deletedAt ∧ after.snapshot = value.snapshot) :
    Pending next key row := by
  refine ⟨carried.contentKey.trans pending.contentKey, base, ?_⟩
  rcases pending.state with ⟨upsert, value, here, active, canonical⟩ | ⟨delete, value, here, gone⟩
  · obtain ⟨after, there, deletedAt, snapshot⟩ := state value here
    refine Or.inl ⟨carried.operation.trans upsert, after, there, deletedAt.trans active, ?_⟩
    obtain ⟨kind, sourceLang, targetLang, same⟩ := canonical
    exact ⟨kind, sourceLang, targetLang, by rw [snapshot]; exact same⟩
  · obtain ⟨after, there, deletedAt, -⟩ := state value here
    exact Or.inr ⟨carried.operation.trans delete, after, there, deletedAt ▸ gone⟩

theorem revised_state {favorite next : Option FavoriteRow} {revision : Nat}
    (same : next = favorite.map (revised revision)) (value : FavoriteRow)
    (here : favorite = some value) :
    ∃ after, next = some after ∧ after.deletedAt = value.deletedAt ∧
      after.snapshot = value.snapshot := by
  subst same
  exact ⟨revised revision value, by rw [here]; rfl, rfl, rfl⟩

theorem revisionOf_revised {favorite : Option FavoriteRow} (revision : Nat)
    (present : favorite.isSome) : revisionOf (favorite.map (revised revision)) = revision := by
  obtain ⟨value, rfl⟩ := Option.isSome_iff_exists.mp present
  rfl

section Sync

variable {issued : List Uuid} {db next : ProfileDb}

theorem Shape.carry (shape : Shape issued db)
    (rows : ∀ coalesceKey row, next.syncOutbox.get coalesceKey = some row →
      ∃ old, db.syncOutbox.get coalesceKey = some old ∧ Carried old row)
    (present : ∀ key, (db.favorites.get key).isSome → (next.favorites.get key).isSome)
    (pending : ∀ key row, next.syncOutbox.get (.favorite key) = some row →
      Pending (next.favorites.get key) key row) : Shape issued next where
  favorites := pending
  stats := by
    intro deviceId key row stored
    obtain ⟨old, here, carried⟩ := rows _ row stored
    have before := shape.stats deviceId key old here
    refine ⟨carried.contentKey.trans before.contentKey, carried.operation.trans before.operation,
      ?_, present key before.present⟩
    rw [carried.base (by rw [before.operation]; rfl)]
    exact before.base
  issued := by
    intro coalesceKey row stored
    obtain ⟨old, here, carried⟩ := rows _ row stored
    rw [carried.eventId]
    exact shape.issued coalesceKey old here
  unique := by
    intro first second row other here there same
    obtain ⟨old, oldHere, carried⟩ := rows _ row here
    obtain ⟨older, oldThere, carriedToo⟩ := rows _ other there
    refine shape.unique first second old older oldHere oldThere ?_
    rw [← carried.eventId, ← carriedToo.eventId]
    exact same

theorem Shape.congr (shape : Shape issued db) (favorites : next.favorites = db.favorites)
    (outbox : next.syncOutbox = db.syncOutbox) : Shape issued next := by
  refine ⟨?_, ?_, ?_, ?_⟩
  · rw [favorites, outbox]
    exact shape.favorites
  · rw [favorites, outbox]
    exact shape.stats
  · rw [outbox]
    exact shape.issued
  · rw [outbox]
    exact shape.unique

theorem Shape.markRetry (shape : Shape issued db) (events : List OutboxEvent) (nextRetryAt : Int)
    (error : String) (now : Int) : Shape issued (markRetry db events nextRetryAt error now) := by
  have frame := (markRetry_favorites db events nextRetryAt error now).1
  refine shape.carry ?_ ?_ ?_
  · intro coalesceKey row stored
    obtain ⟨old, here, like⟩ := markRetry_like db events nextRetryAt error now stored
    exact ⟨old, here, like.carried⟩
  · rw [frame]
    exact fun _ here => here
  · intro key row stored
    obtain ⟨old, here, like⟩ := markRetry_like db events nextRetryAt error now stored
    have before := shape.favorites key old here
    rw [frame]
    exact before.carry like.carried (like.base.trans before.base)
      (fun value same => ⟨value, same, rfl, rfl⟩)

theorem Shape.acknowledged (shape : Shape issued db) (event : OutboxEvent)
    (answered : Option Nat) (table : Table ContentKey QueryStats) :
    Shape issued (acknowledged db event answered table) := by
  refine shape.carry ?_ ?_ ?_
  · intro coalesceKey row stored
    obtain ⟨old, here, -, rfl | ⟨revision, -, -, favorite, rfl⟩⟩ :=
      acknowledged_carried db event answered table stored
    · exact ⟨row, here, rfl, rfl, rfl, rfl, fun _ => rfl⟩
    · exact ⟨old, here, rfl, rfl, rfl, rfl, fun stats => by rw [favorite] at stats; cases stats⟩
  · intro key here
    rw [acknowledged_favorites]
    cases answered with
    | none => exact here
    | some revision =>
        dsimp only
        split
        · simpa using here
        · exact here
  · intro key row stored
    obtain ⟨old, here, apart, change⟩ := acknowledged_carried db event answered table stored
    have before := shape.favorites key old here
    rw [acknowledged_favorites]
    rcases change with rfl | ⟨revision, rfl, sameKey, favorite, rfl⟩
    · cases answered with
      | none => exact before
      | some revision =>
          -- The row kept its base, so it is not about the content of the event.
          dsimp only
          split
          · rename_i same
            rw [acknowledged_outbox] at stored
            dsimp only at stored
            rw [here, Option.map_some, Option.filter_some] at stored
            have chosen : acknowledgedRow event revision row =
                { row with baseEntityRevision := some revision } := by
              unfold acknowledgedRow
              rw [if_pos]
              simp [before.contentKey, same, apart, before.operation]
            have kept : row.baseEntityRevision = some revision := by
              rw [chosen] at stored
              split at stored
              · exact (congrArg OutboxRow.baseEntityRevision (Option.some.inj stored)).symm
              · cases stored
            refine before.carry ⟨rfl, rfl, rfl, rfl, fun _ => rfl⟩ ?_ (revised_state rfl)
            obtain ⟨value, found⟩ := before.present
            rw [kept, revisionOf_revised revision (by rw [found]; rfl)]
          · exact before
    · have same : key = event.contentKey := before.contentKey.symm.trans sameKey
      dsimp only
      rw [if_pos same]
      obtain ⟨value, found⟩ := before.present
      refine before.carry ⟨rfl, rfl, rfl, rfl, fun stats => ?_⟩ ?_ (revised_state rfl)
      · rw [favorite] at stats
        cases stats
      · rw [revisionOf_revised revision (by rw [found]; rfl)]

theorem KeyReceived.carried {record : FavoriteRecord} {favorite after : Option FavoriteRow}
    {pending queued : Option OutboxRow}
    (received : KeyReceived record favorite after pending queued) {row : OutboxRow}
    (favoriteRow : ∀ old, pending = some old → isFavoriteOperation old.operation = true)
    (stored : queued = some row) :
    ∃ old, pending = some old ∧ Carried old row ∧
      row.baseEntityRevision = some record.entityRevision ∧
      after = favorite.map (revised record.entityRevision) := by
  cases received with
  | written favorites outbox =>
      rw [outbox] at stored
      cases stored
  | adopted old other before outbox favorites eventId contentKey operation createdAt base =>
      rw [outbox] at stored
      cases stored
      refine ⟨old, before, ⟨eventId, contentKey, operation, createdAt, fun stats => ?_⟩, base,
        favorites⟩
      rw [favoriteRow old before] at stats
      cases stats

theorem KeyReceived.present {record : FavoriteRecord} {favorite after : Option FavoriteRow}
    {pending queued : Option OutboxRow}
    (received : KeyReceived record favorite after pending queued) (here : favorite.isSome) :
    after.isSome := by
  cases received with
  | written favorites outbox => rw [favorites]; rfl
  | adopted old other before outbox favorites =>
      rw [favorites]
      simpa using here

/-- A step that moves one content as an answer does, and nothing else. -/
theorem Shape.received (shape : Shape issued db) {record : FavoriteRecord} (key : ContentKey)
    (received : KeyReceived record (db.favorites.get key) (next.favorites.get key)
      (db.syncOutbox.get (.favorite key)) (next.syncOutbox.get (.favorite key)))
    (favorites : ∀ other, other ≠ key → next.favorites.get other = db.favorites.get other)
    (outbox : ∀ coalesceKey, coalesceKey ≠ .favorite key →
      next.syncOutbox.get coalesceKey = db.syncOutbox.get coalesceKey) : Shape issued next := by
  have operations : ∀ old, db.syncOutbox.get (.favorite key) = some old →
      isFavoriteOperation old.operation = true :=
    fun old here => (shape.favorites key old here).operation
  refine shape.carry ?_ ?_ ?_
  · intro coalesceKey row stored
    by_cases same : coalesceKey = .favorite key
    · subst same
      obtain ⟨old, here, carried, -⟩ := received.carried operations stored
      exact ⟨old, here, carried⟩
    · rw [outbox coalesceKey same] at stored
      exact ⟨row, stored, rfl, rfl, rfl, rfl, fun _ => rfl⟩
  · intro other here
    by_cases same : other = key
    · subst same
      exact received.present here
    · rw [favorites other same]
      exact here
  · intro other row stored
    by_cases same : other = key
    · subst same
      obtain ⟨old, here, carried, base, after⟩ := received.carried operations stored
      have before := shape.favorites other old here
      obtain ⟨value, found⟩ := before.present
      refine before.carry carried ?_ (revised_state after)
      rw [base, after, revisionOf_revised _ (by rw [found]; rfl)]
    · rw [outbox _ (by simpa using same)] at stored
      rw [favorites other same]
      exact shape.favorites other row stored

theorem Shape.pulled (shape : Shape issued db) {record : FavoriteRecord} {key : ContentKey}
    {now : Int} (pulled : Pulled db next record key now) : Shape issued next :=
  shape.received key pulled.key (fun _ apart => pulled.favorites_apart apart)
    (fun _ apart => pulled.outbox_apart apart)

theorem Shape.resolved (shape : Shape issued db) {event : OutboxEvent}
    {current : Option FavoriteRecord} {now : Int} {resolution : ConflictResolution}
    (resolved : Resolved db next event current now resolution)
    (keyed : ∀ record, current = some record → record.contentKey = event.contentKey.toHex) :
    Shape issued next := by
  rcases resolved.key keyed with ⟨record, -, received⟩ | ⟨favorites, outbox⟩
  · exact shape.received event.contentKey received
      (fun _ apart => resolved.favorites_apart keyed apart)
      (fun _ apart => resolved.outbox_apart apart)
  · -- Only the retry columns of the content's own row moved.
    have like : ∀ coalesceKey row, next.syncOutbox.get coalesceKey = some row →
        ∃ old, db.syncOutbox.get coalesceKey = some old ∧ old.Like row := by
      intro coalesceKey row stored
      by_cases same : coalesceKey = .favorite event.contentKey
      · subst same
        rw [outbox] at stored
        obtain ⟨old, here, rfl⟩ := Option.map_eq_some_iff.mp stored
        exact ⟨old, here, rfl, rfl, rfl, rfl, rfl, rfl⟩
      · rw [resolved.outbox_apart same] at stored
        exact ⟨row, stored, .refl row⟩
    have kept : ∀ key, next.favorites.get key = db.favorites.get key := by
      intro key
      by_cases same : key = event.contentKey
      · rw [same]
        exact favorites
      · exact resolved.favorites_apart keyed same
    refine shape.carry ?_ ?_ ?_
    · intro coalesceKey row stored
      obtain ⟨old, here, same⟩ := like coalesceKey row stored
      exact ⟨old, here, same.carried⟩
    · intro key here
      rw [kept]
      exact here
    · intro key row stored
      obtain ⟨old, here, same⟩ := like _ row stored
      have before := shape.favorites key old here
      rw [kept]
      exact before.carry same.carried (same.base.trans before.base)
        (fun value found => ⟨value, found, rfl, rfl⟩)

end Sync

end Lvos.Storage
