import Lvos.Server.Rows
import Lvos.System.CatchUp

set_option autoImplicit false

namespace Lvos.System

open Lvos.Core Lvos.Sync Lvos.Storage
open Relational (Table)
open Lvos.Server (ServerDb EventFingerprint UuidParser LogInv Representable RowsHold changesSince
  validateEvent)
open Transaction (bind_ok_iff)

/-- A request that changes an account, as the endpoints take it. -/
inductive ApiRequest
  | push (userId deviceId : String) (events : List PushEvent) (now : Int)
  | setFavoriteState (userId contentKey : String) (active : Bool) (baseEntityRevision : Nat)
      (now : Int)
deriving DecidableEq

section Requests

variable {φ : Type} [DecidableEq φ] [EventFingerprint φ] [ContentTables] [UuidParser]

/-- The tables after a request; one that an endpoint refuses leaves them. -/
def answer (maxSyncEventsPerBatch : Nat) (db : ServerDb φ) : ApiRequest → ServerDb φ
  | .push userId deviceId events now =>
      (Server.push maxSyncEventsPerBatch db userId deviceId events now).1
  | .setFavoriteState userId contentKey active baseEntityRevision now =>
      match Server.validateContentKey contentKey with
      | .ok _ => (Server.setFavoriteState db userId contentKey active baseEntityRevision now).1
      | .error _ => db

def answerAll (maxSyncEventsPerBatch : Nat) (db : ServerDb φ) (requests : List ApiRequest) :
    ServerDb φ :=
  requests.foldl (answer maxSyncEventsPerBatch) db

end Requests

section Records

variable [ContentTables]

/-- The record's texts are of its content, and `validate_remote` finds them so. -/
structure Identified (contentKey : String) (snapshot : FavoriteSnapshot) : Prop where
  source : ∃ sourceLang prepared, LanguageCode.parse snapshot.sourceLang = .ok sourceLang ∧
    prepareContent snapshot.sourceText sourceLang maxRemoteContentCharacters = .ok prepared ∧
    prepared.contentKey.toHex = contentKey ∧ prepared.canonicalText = snapshot.canonicalText ∧
    prepared.kind.protocolName = snapshot.kind
  target : ∃ targetLang, LanguageCode.parse snapshot.targetLang = .ok targetLang

theorem validateRemote_of_identified {remote : FavoriteRecord}
    (version : remote.keyVersion = contentKeyVersion) (revised : 0 < remote.entityRevision)
    (identified : Identified remote.contentKey remote.favorite) :
    validateRemote remote = .ok () := by
  obtain ⟨sourceLang, prepared, parsed, prepares, keyed, canonical, kind⟩ := identified.source
  obtain ⟨targetLang, target⟩ := identified.target
  have positive : remote.entityRevision ≠ 0 := by omega
  simp [validateRemote, version, positive, parseLanguage, parsed, target, prepares, keyed,
    canonical, kind, bind, Except.bind]

omit [ContentTables] in
theorem kindAllowed_protocolName (kind : TextKind) : kindAllowed kind.protocolName = true := by
  cases kind <;> rfl

theorem Identified.kind {contentKey : String} {snapshot : FavoriteSnapshot}
    (identified : Identified contentKey snapshot) : kindAllowed snapshot.kind = true := by
  obtain ⟨sourceLang, prepared, -, -, -, -, kind⟩ := identified.source
  rw [← kind]
  exact kindAllowed_protocolName _

theorem Identified.key {contentKey : String} {snapshot : FavoriteSnapshot}
    (identified : Identified contentKey snapshot) :
    ∃ key : ContentKey, contentKey = key.toHex := by
  obtain ⟨sourceLang, prepared, -, -, keyed, -⟩ := identified.source
  exact ⟨prepared.contentKey, keyed.symm⟩

/-- What a stored row needs so that its record can be pulled. -/
structure Pullable (contentKey : String) (row : Server.FavoriteRow) : Prop where
  version : row.keyVersion = contentKeyVersion
  positive : 0 < row.entityRevision
  small : row.entityRevision < i64Limit
  identified : Identified contentKey row.favorite

theorem pullable_kept : Server.KeptByState Pullable := by
  intro contentKey row deletedAt entityRevision now positive small held
  exact ⟨held.version, positive, small, held.identified.source, held.identified.target⟩

/-- The two validators ask the same of a snapshot. -/
theorem validateSnapshot_identified {event : PushEvent} {snapshot : FavoriteSnapshot}
    (valid : Server.validateSnapshot event snapshot = .ok ()) :
    Identified event.contentKey snapshot := by
  unfold Server.validateSnapshot at valid
  split at valid
  · cases valid
  · rename_i sourceLang parsed
    split at valid
    · cases valid
    · rename_i targetLang target
      split at valid
      · cases valid
      · rename_i prepared prepares
        split at valid
        · cases valid
        · rename_i consistent
          push Not at consistent
          obtain ⟨keyed, -, kind, canonical, -⟩ := consistent
          exact ⟨⟨sourceLang, prepared, parsed, prepares, keyed, canonical, kind⟩,
            targetLang, target⟩

theorem pullable_brought [UuidParser] {event : PushEvent} (valid : validateEvent event = .ok ()) :
    Server.BroughtBy Pullable event := by
  intro snapshot entityRevision now upsert given positive small
  unfold Server.validateEvent at valid
  obtain ⟨-, -, afterId⟩ := bind_ok_iff.mp valid
  obtain ⟨-, -, afterKey⟩ := bind_ok_iff.mp afterId
  split at afterKey
  · cases afterKey
  · rename_i current
    obtain ⟨⟨⟩, operation, -⟩ := bind_ok_iff.mp afterKey
    simp only [Server.validateOperation, upsert, given] at operation
    exact ⟨not_not.mp current, positive, small, validateSnapshot_identified operation⟩

end Records

section Profiles

variable {db : ProfileDb} {remote : FavoriteRecord} {now : Int}

theorem updateAggregateFromRecord_total {key : ContentKey} (keyed : remote.contentKey = key.toHex)
    (counts : ∀ aggregate, remote.aggregateQueryStats = some aggregate →
      aggregate.queryCount < i64Limit) (db : ProfileDb) :
    ∃ next, updateAggregateFromRecord db remote now = .ok next := by
  cases brought : remote.aggregateQueryStats with
  | none => exact ⟨db, by simp [updateAggregateFromRecord, brought]⟩
  | some aggregate =>
      have small := counts aggregate brought
      have zero : 0 < i64Limit := by decide
      simp [updateAggregateFromRecord, brought, parseContentKey, keyed, updateAggregate, sqliteI64,
        small, zero, bind, Except.bind]

theorem writeRemoteFavorite_total {key : ContentKey} (keyed : remote.contentKey = key.toHex)
    (small : remote.entityRevision < i64Limit) (kind : kindAllowed remote.favorite.kind = true)
    (counts : ∀ aggregate, remote.aggregateQueryStats = some aggregate →
      aggregate.queryCount < i64Limit) (db : ProfileDb) :
    ∃ next, writeRemoteFavorite db remote now = .ok next := by
  obtain ⟨first, updated⟩ := @updateAggregateFromRecord_total remote now key keyed counts
    { db with favorites := db.favorites.put key (remoteRow remote) }
  simp only [writeRemoteFavorite, parseContentKey, keyed, ContentKey.fromStr_toHex, sqliteI64,
    small, kind, ↓reduceIte, updated, bind, Except.bind]
  split
  · exact ⟨first, rfl⟩
  · exact @updateAggregateFromRecord_total remote now key keyed counts _

/-- A row that `local_favorite` can read. -/
structure Legible (snapshot : FavoriteSnapshot) : Prop where
  kind : kindAllowed snapshot.kind = true
  source : ∃ sourceLang, LanguageCode.parse snapshot.sourceLang = .ok sourceLang
  target : ∃ targetLang, LanguageCode.parse snapshot.targetLang = .ok targetLang

theorem readFavorite_of_legible (sourceMessage targetMessage : String) (key : ContentKey)
    {row : FavoriteRow} (legible : Legible row.snapshot) :
    ∃ favorite, readFavorite sourceMessage targetMessage key row = .ok favorite := by
  obtain ⟨sourceLang, source⟩ := legible.source
  obtain ⟨targetLang, target⟩ := legible.target
  have kind : ∃ kind, parseKind row.snapshot.kind = .ok kind := by
    have allowed := legible.kind
    simp only [kindAllowed, Bool.or_eq_true, decide_eq_true_eq] at allowed
    rcases allowed with word | text
    · exact ⟨.word, by rw [word]; rfl⟩
    · exact ⟨.text, by rw [text]; rfl⟩
  obtain ⟨kind, named⟩ := kind
  simp [readFavorite, named, parseLanguage, source, target, bind, Except.bind]

theorem localFavorite_of_legible {key : ContentKey} {row : FavoriteRow}
    (stored : db.favorites.get key = some row) (legible : Legible row.snapshot) :
    ∃ favorite, localFavorite db key = .ok (some favorite) := by
  unfold localFavorite
  rw [stored]
  obtain ⟨favorite, read⟩ := readFavorite_of_legible "source language" "target language" key legible
  exact ⟨favorite, by simp only [read, bind, Except.bind]⟩

/-- Every content with a pending Favorite intent has a row that can be read. -/
def PendingLegible (db : ProfileDb) : Prop :=
  ∀ key row, db.syncOutbox.get (favoriteCoalesceKey key) = some row →
    ∃ favorite, db.favorites.get key = some favorite ∧ Legible favorite.snapshot

theorem PendingLegible.written (pending : PendingLegible db) {next : ProfileDb}
    (legible : Legible remote.favorite) (success : writeRemoteFavorite db remote now = .ok next) :
    PendingLegible next := by
  obtain ⟨key, table, -, -, -, rfl⟩ := writeRemoteFavorite_ok success
  intro other row queued
  rw [Table.get_put]
  split
  · exact ⟨remoteRow remote, rfl, legible⟩
  · exact pending other row queued

theorem PendingLegible.rebased (pending : PendingLegible db) {key : ContentKey} {revision : Nat} :
    PendingLegible (rebase (setEntityRevision db key revision) key revision now) := by
  intro other row queued
  have before : ∃ old, db.syncOutbox.get (favoriteCoalesceKey other) = some old := by
    simp only [rebase, updateOutbox, setEntityRevision, Table.get_update, Option.map_eq_some_iff]
      at queued
    obtain ⟨old, stored, -⟩ := queued
    exact ⟨old, stored⟩
  obtain ⟨old, stored⟩ := before
  obtain ⟨favorite, here, legible⟩ := pending other old stored
  simp only [rebase, updateOutbox, setEntityRevision, Table.get_update, here, Option.map_some,
    Option.some.injEq, exists_eq_left']
  split
  · exact legible
  · exact legible

end Profiles

section Pages

variable [ContentTables] {remote : FavoriteRecord} {now : Int}

/-- A record every profile can take. -/
structure Storable (remote : FavoriteRecord) : Prop where
  valid : validateRemote remote = .ok ()
  identified : Identified remote.contentKey remote.favorite
  small : remote.entityRevision < i64Limit
  counts : ∀ aggregate, remote.aggregateQueryStats = some aggregate →
    aggregate.queryCount < i64Limit

theorem Identified.legible {contentKey : String} {snapshot : FavoriteSnapshot}
    (identified : Identified contentKey snapshot) : Legible snapshot := by
  obtain ⟨sourceLang, prepared, parsed, -⟩ := identified.source
  exact ⟨identified.kind, ⟨sourceLang, parsed⟩, identified.target⟩

/-- Written and read back, in any profile. -/
theorem Storable.readBack (storable : Storable remote) (db : ProfileDb) (now : Int) :
    ∃ key next favorite, parseContentKey remote.contentKey = .ok key ∧
      writeRemoteFavorite db remote now = .ok next ∧
      localFavorite next key = .ok (some favorite) := by
  obtain ⟨key, keyed⟩ := storable.identified.key
  obtain ⟨next, success⟩ := @writeRemoteFavorite_total remote now key keyed storable.small
    storable.identified.kind storable.counts db
  obtain ⟨other, table, named, -, -, written⟩ := writeRemoteFavorite_ok success
  have same : other = key := ContentKey.toHex_injective (named.symm.trans keyed)
  have stored : next.favorites.get key = some (remoteRow remote) := by
    rw [written, same]
    exact Table.get_put_self _ _ _
  obtain ⟨favorite, read⟩ := localFavorite_of_legible stored storable.identified.legible
  exact ⟨key, next, favorite, by simp [parseContentKey, keyed], success, read⟩

theorem applyRemoteChange_total {change : SyncChange} {db : ProfileDb}
    (storable : Storable change.favorite) (pending : PendingLegible db) (now : Int) :
    ∃ next, applyRemoteChange db change now = .ok next ∧ PendingLegible next := by
  obtain ⟨key, keyed⟩ := storable.identified.key
  have parsed : parseContentKey change.favorite.contentKey = .ok key := by
    simp [parseContentKey, keyed]
  obtain ⟨written, success⟩ := @writeRemoteFavorite_total change.favorite now key keyed
    storable.small storable.identified.kind storable.counts db
  have writtenPending := pending.written storable.identified.legible success
  cases queued : db.syncOutbox.get (favoriteCoalesceKey key) with
  | none =>
      refine ⟨written, ?_, writtenPending⟩
      simp [applyRemoteChange, storable.valid, parsed, queued, success, bind, Except.bind]
  | some row =>
      obtain ⟨favorite, stored, legible⟩ := pending key row queued
      obtain ⟨localValue, read⟩ := localFavorite_of_legible stored legible
      by_cases converged : desiredConverged row.operation localValue change.favorite = true
      · refine ⟨deleteCoalesced written (favoriteCoalesceKey key), ?_, ?_⟩
        · simp [applyRemoteChange, storable.valid, parsed, queued, applyRemotePending, read,
            converged, success, bind, Except.bind]
        · intro other found here
          simp only [deleteCoalesced, Table.get_delete] at here
          exact writtenPending other found (Option.filter_eq_some_iff.mp here).1
      · obtain ⟨next, counted⟩ := @updateAggregateFromRecord_total change.favorite now key keyed
          storable.counts (rebase (setEntityRevision db key change.favorite.entityRevision) key
            change.favorite.entityRevision now)
        refine ⟨next, ?_, ?_⟩
        · simp [applyRemoteChange, storable.valid, parsed, queued, applyRemotePending, read,
            converged, sqliteI64, storable.small, counted, bind, Except.bind]
        · obtain ⟨table, -, rfl⟩ := updateAggregateFromRecord_kept counted
          exact pending.rebased

/-- A page of such records is applied as a whole. -/
theorem applyChanges_total : ∀ (changes : List SyncChange) (db : ProfileDb),
    (∀ change ∈ changes, Storable change.favorite) → PendingLegible db →
    ∃ next, applyChanges now db changes = .ok next := by
  intro changes
  induction changes with
  | nil => exact fun db _ _ => ⟨db, rfl⟩
  | cons change rest ih =>
      intro db storable pending
      obtain ⟨middle, head, middlePending⟩ := applyRemoteChange_total
        (storable change List.mem_cons_self) pending now
      obtain ⟨next, tail⟩ := ih middle
        (fun other member => storable other (List.mem_cons_of_mem change member)) middlePending
      exact ⟨next, by simp [applyChanges, head, tail, bind, Except.bind]⟩

end Pages

section Runs

variable {φ : Type} [DecidableEq φ] [EventFingerprint φ] [ContentTables] [UuidParser]

/-- The server side of what the pull relies on. -/
structure Servable (db : ServerDb φ) : Prop where
  log : LogInv db
  fits : Representable db
  rows : RowsHold Pullable db

omit [DecidableEq φ] [EventFingerprint φ] [UuidParser] in
theorem Servable.initial (userIds : List String) (devices : List (String × String)) :
    Servable (ServerDb.initial userIds devices : ServerDb φ) where
  log := LogInv.initial userIds devices
  fits := Representable.initial userIds devices
  rows := by
    intro userId contentKey row stored
    cases stored

/-- A request leaves the tables as they are, or is one accepted batch or one state patch. -/
theorem answer_cases (maxSyncEventsPerBatch : Nat) (db : ServerDb φ) (request : ApiRequest) :
    answer maxSyncEventsPerBatch db request = db ∨
      (∃ userId deviceId events now acks changed, Server.validateEvents events = .ok () ∧
        Server.pushLoop userId deviceId now events db =
          .ok (answer maxSyncEventsPerBatch db request, acks, changed)) ∨
      ∃ userId contentKey active baseEntityRevision now result,
        Server.setStateBody userId contentKey active baseEntityRevision now db =
          .ok (answer maxSyncEventsPerBatch db request, result) := by
  cases request with
  | push userId deviceId events now =>
      cases outcome : Server.push maxSyncEventsPerBatch db userId deviceId events now with
      | mk next reply =>
          have served : answer maxSyncEventsPerBatch db (.push userId deviceId events now) = next :=
            congrArg Prod.fst outcome
          rw [served]
          cases reply with
          | error reason => exact Or.inl (Server.push_error outcome)
          | ok response =>
              obtain ⟨valid, changed, looped⟩ := Server.push_ok outcome
              exact Or.inr (Or.inl ⟨userId, deviceId, events, now, _, changed, valid, looped⟩)
  | setFavoriteState userId contentKey active baseEntityRevision now =>
      unfold answer
      dsimp only
      split
      · rcases Transaction.atomically_cases
            (Server.setStateBody userId contentKey active baseEntityRevision now) db with
          same | ⟨next, result, success, committed⟩
        · exact Or.inl same
        · refine Or.inr (Or.inr ⟨userId, contentKey, active, baseEntityRevision, now, result, ?_⟩)
          rw [show (Server.setFavoriteState db userId contentKey active baseEntityRevision now).1 =
            next from congrArg Prod.fst committed]
          exact success
      · exact Or.inl rfl

/-- A property of stored rows that state patches keep and validated upserts bring. -/
theorem answer_rows {held : String → Server.FavoriteRow → Prop} (kept : Server.KeptByState held)
    (brought : ∀ event, validateEvent event = .ok () → Server.BroughtBy held event)
    (maxSyncEventsPerBatch : Nat) (db : ServerDb φ) (request : ApiRequest)
    (rows : RowsHold held db) : RowsHold held (answer maxSyncEventsPerBatch db request) := by
  rcases answer_cases maxSyncEventsPerBatch db request with
    same | ⟨userId, deviceId, events, now, acks, changed, valid, looped⟩ |
      ⟨userId, contentKey, active, base, now, result, patched⟩
  · rw [same]
    exact rows
  · apply Server.pushLoop_rows kept events db _ acks changed ?_ rows looped
    intro event member
    exact brought event (Server.validateEvents_mem events valid event member)
  · exact Server.setStateBody_rows rows kept patched

theorem answerAll_rows {held : String → Server.FavoriteRow → Prop} (kept : Server.KeptByState held)
    (brought : ∀ event, validateEvent event = .ok () → Server.BroughtBy held event)
    (maxSyncEventsPerBatch : Nat) (requests : List ApiRequest) (db : ServerDb φ)
    (rows : RowsHold held db) : RowsHold held (answerAll maxSyncEventsPerBatch db requests) := by
  induction requests generalizing db with
  | nil => exact rows
  | cons request rest ih =>
      exact ih _ (answer_rows kept brought maxSyncEventsPerBatch db request rows)

theorem answer_servable (maxSyncEventsPerBatch : Nat) (db : ServerDb φ) (request : ApiRequest)
    (servable : Servable db) : Servable (answer maxSyncEventsPerBatch db request) := by
  have rows := answer_rows pullable_kept (fun _ valid => pullable_brought valid)
    maxSyncEventsPerBatch db request servable.rows
  rcases answer_cases maxSyncEventsPerBatch db request with
    same | ⟨userId, deviceId, events, now, acks, changed, valid, looped⟩ |
      ⟨userId, contentKey, active, base, now, result, patched⟩
  · rw [same]
    exact servable
  · refine ⟨?_, Server.pushLoop_representable servable.fits looped, rows⟩
    exact Server.pushLoop_induct (fun db next => LogInv db → LogInv next) (fun _ here => here)
      (fun _ _ _ _ _ pushed later here => later (here.move pushed.move))
      events db _ acks changed looped servable.log
  · exact ⟨servable.log.move (Server.setStateBody_ok patched).move,
      Server.setStateBody_representable servable.fits patched, rows⟩

theorem answerAll_servable (maxSyncEventsPerBatch : Nat) (requests : List ApiRequest) :
    ∀ db : ServerDb φ, Servable db → Servable (answerAll maxSyncEventsPerBatch db requests) := by
  induction requests with
  | nil => exact fun _ servable => servable
  | cons request rest ih =>
      intro db servable
      exact ih _ (answer_servable maxSyncEventsPerBatch db request servable)

omit [DecidableEq φ] [EventFingerprint φ] [ContentTables] [UuidParser] in
theorem changesSince_known {db : ServerDb φ} {userId : String} {since limit : Nat}
    {page : ChangesResponse} (asked : changesSince db userId since limit = .ok page) :
    ∃ latest, db.users.get userId = some latest ∧ since < i64Limit := by
  unfold changesSince at asked
  obtain ⟨latest, revisionOk, afterRevision⟩ := bind_ok_iff.mp asked
  obtain ⟨start, startOk, -⟩ := bind_ok_iff.mp afterRevision
  exact ⟨latest, Server.userRevision_ok revisionOk, (Server.toI64_ok startOk).2⟩

omit [DecidableEq φ] [EventFingerprint φ] [UuidParser] in
theorem Servable.record_storable {db : ServerDb φ} (servable : Servable db)
    {userId contentKey : String} {record : FavoriteRecord}
    (read : Server.favoriteRecord db userId contentKey = .ok (some record)) : Storable record := by
  rcases Server.favoriteRecord_ok read with ⟨-, impossible⟩ | ⟨row, aggregate, stored, counted, same⟩
  · cases impossible
  · have pullable := servable.rows userId _ row stored
    rw [Option.some.inj same]
    refine ⟨?_, pullable.identified, pullable.small, ?_⟩
    · exact validateRemote_of_identified pullable.version pullable.positive pullable.identified
    · intro total here
      cases here
      exact Server.aggregateStats_small counted

omit [DecidableEq φ] [EventFingerprint φ] [UuidParser] in
/-- Every record a page can hold is taken by every profile. -/
theorem Servable.storable {db : ServerDb φ} (servable : Servable db) {userId : String}
    {since limit : Nat} {page : ChangesResponse}
    (asked : changesSince db userId since limit = .ok page) :
    ∀ change ∈ page.changes, Storable change.favorite := by
  intro change member
  exact servable.record_storable (Server.changesSince_read asked change member)

omit [DecidableEq φ] [EventFingerprint φ] [UuidParser] in
/-- The page as a whole is applied by a profile that can read what it has pending. -/
theorem Servable.page_applies {db : ServerDb φ} (servable : Servable db) {userId : String}
    {since limit : Nat} {page : ChangesResponse}
    (asked : changesSince db userId since limit = .ok page) (profile : ProfileDb) (now : Int)
    (pending : PendingLegible profile) (stands : cursorOf profile = since) :
    (applyRemotePage profile page.changes page.nextRevision now).2 = .ok () := by
  obtain ⟨latest, known, small⟩ := changesSince_known asked
  have numbers := changesSince_numbers servable.log known asked
  have bounded := servable.fits.revisions userId latest known
  have size := numbers.size
  have reached := numbers.reached
  have accepted := numberingAccepted numbers.numbered reached (by omega) profile now stands
  obtain ⟨next, applied⟩ := applyChanges_total page.changes profile
    (servable.storable asked) pending
  have body : applyRemotePageBody page.changes page.nextRevision now profile =
      .ok (synchronizedAt (advanceCursor next page.nextRevision) now, ()) := by
    rw [accepted, applied]
    rfl
  unfold applyRemotePage
  rw [Transaction.atomically_of_ok body]

end Runs

end Lvos.System
