import Lvos.Storage.Aggregates
import Lvos.System.Validators

set_option autoImplicit false

namespace Lvos.System

open Lvos.Core Lvos.Sync Lvos.Storage
open Relational (Table)
open Transaction (bind_ok_iff)

/-- What a profile can be put through: the calls of its user, and whatever a server
answers, handed to the jobs that take it. -/
inductive ClientAction
  | call (call : Call)
  | acknowledge (items : List AcknowledgedEvent) (now : Int)
  | page (changes : List SyncChange) (nextRevision : Nat) (now : Int)
  | resolve (event : OutboxEvent) (current : Option FavoriteRecord) (now : Int)
  | retry (events : List OutboxEvent) (nextRetryAt : Int) (error : String) (now : Int)
  | failed (error : String) (now : Int)

section Identity

variable [ContentTables]

/-- Content key, kind and canonical text `prepare_content` gives the text of a
snapshot, when its length is allowed. -/
def identityOf (snapshot : FavoriteSnapshot) : Option (ContentKey × String × String) :=
  match LanguageCode.parse snapshot.sourceLang with
  | .error _ => none
  | .ok sourceLang =>
      match prepareContent snapshot.sourceText sourceLang snapshot.sourceText.length with
      | .error _ => none
      | .ok prepared =>
          some (prepared.contentKey, prepared.kind.protocolName, prepared.canonicalText)

/-- The snapshot is of the content it is filed under. -/
def identifies (key : ContentKey) (snapshot : FavoriteSnapshot) : Bool :=
  identityOf snapshot = some (key, snapshot.kind, snapshot.canonicalText)

/-- A content that was prepared from its text. -/
def namesItself (content : StoredContent) : Bool :=
  match prepareContent content.sourceText content.sourceLang content.sourceText.length with
  | .ok prepared => content = storedContent prepared
  | .error _ => false

def clientStep (db : ProfileDb) : ClientAction → Option ProfileDb
  | .call (.query entry eventId) =>
      if namesItself entry.content then some ((Call.query entry eventId).perform db) else none
  | .call call => some (call.perform db)
  | .acknowledge items now => some (acknowledgeEvents db items now).1
  | .page changes nextRevision now => some (applyRemotePage db changes nextRevision now).1
  | .resolve event current now => some (resolveConflict db event current now).1
  | .retry events nextRetryAt error now => some (markRetry db events nextRetryAt error now)
  | .failed error now => some (setSyncError db error now)

/-- The record has the state the event asks for, so that it is written. -/
def recordWritten (db : ProfileDb) (event : OutboxEvent) (record : FavoriteRecord) : Bool :=
  match localFavorite db event.contentKey with
  | .ok (some localValue) => desiredConverged event.operation localValue record
  | _ => false

/-- The condition on a conflict record: it is of the event's content, and its text too
where a deleted record is taken as it is; or nothing but its revision is used. -/
def recordFits (db : ProfileDb) (event : OutboxEvent) (record : FavoriteRecord) : Bool :=
  match parseContentKey record.contentKey with
  | .error _ => true
  | .ok key =>
      if key = event.contentKey then
        event.operation ≠ .favoriteDelete || record.deletedAt.isNone ||
          identifies key record.favorite
      else record.aggregateQueryStats.isNone && !recordWritten db event record

def answerFits (db : ProfileDb) : ClientAction → Bool
  | .resolve event (some record) _ => recordFits db event record
  | _ => true

theorem identityOf_prepared {snapshot : FavoriteSnapshot} {sourceLang : LanguageCode}
    {limit : Nat} {prepared : PreparedContent}
    (parsed : LanguageCode.parse snapshot.sourceLang = .ok sourceLang)
    (prepares : prepareContent snapshot.sourceText sourceLang limit = .ok prepared) :
    identityOf snapshot =
      some (prepared.contentKey, prepared.kind.protocolName, prepared.canonicalText) := by
  obtain ⟨present, -, latin, equation⟩ := prepareContent_ok.mp prepares
  have short : (trim (cleanControlCharacters snapshot.sourceText.toList)).length ≤
      snapshot.sourceText.length := by
    have trimmed := (trim_sublist (cleanControlCharacters snapshot.sourceText.toList)).length_le
    have cleaned := List.length_filter_le (fun character =>
      !isControl character || isWhitespace character) snapshot.sourceText.toList
    rw [String.length_toList] at cleaned
    exact trimmed.trans cleaned
  have again : prepareContent snapshot.sourceText sourceLang snapshot.sourceText.length =
      .ok prepared := prepareContent_ok.mpr ⟨present, short, latin, equation⟩
  simp only [identityOf, parsed, again]

/-- A content its own text prepares to, within some limit. -/
def Named (content : StoredContent) : Prop :=
  ∃ (limit : Nat) (prepared : PreparedContent),
    prepareContent content.sourceText content.sourceLang limit = .ok prepared ∧
    prepared.contentKey = content.contentKey ∧ prepared.kind = content.kind ∧
    prepared.canonicalText = content.canonicalText

theorem named_of_namesItself {content : StoredContent} (holds : namesItself content = true) :
    Named content := by
  unfold namesItself at holds
  split at holds
  · rename_i prepared prepares
    have same : content = storedContent prepared := by simpa using holds
    exact ⟨_, prepared, prepares, by rw [same]; rfl, by rw [same]; rfl, by rw [same]; rfl⟩
  · cases holds

theorem GoodEntry.named {entry : HistoryEntry} (good : GoodEntry entry) : Named entry.content := by
  obtain ⟨prepared, holds⟩ := good.content
  exact ⟨_, prepared, holds.prepares, holds.contentKey, holds.kind, holds.canonicalText⟩

/-- A row written from a named content. -/
theorem Named.identifies {content : StoredContent} (named : Named content)
    {snapshot : FavoriteSnapshot} (text : snapshot.sourceText = content.sourceText)
    (lang : snapshot.sourceLang = content.sourceLang.text)
    (kind : snapshot.kind = content.kind.protocolName)
    (canonical : snapshot.canonicalText = content.canonicalText) :
    identifies content.contentKey snapshot = true := by
  obtain ⟨limit, prepared, prepares, contentKey, sameKind, sameText⟩ := named
  have parsed : LanguageCode.parse snapshot.sourceLang = .ok content.sourceLang := by
    rw [lang, LanguageCode.parse_text]
  rw [← text] at prepares
  unfold System.identifies
  rw [identityOf_prepared parsed prepares, contentKey, sameKind, sameText, kind, canonical]
  simp

theorem validateRemote_identifies {remote : FavoriteRecord} {key : ContentKey}
    (keyed : remote.contentKey = key.toHex) (valid : validateRemote remote = .ok ()) :
    identifies key remote.favorite = true := by
  unfold validateRemote at valid
  split at valid
  · cases valid
  · obtain ⟨sourceLang, source, afterSource⟩ := bind_ok_iff.mp valid
    obtain ⟨targetLang, -, afterTarget⟩ := bind_ok_iff.mp afterSource
    split at afterTarget
    · cases afterTarget
    · rename_i prepared prepares
      split at afterTarget
      · cases afterTarget
      · rename_i same
        simp only [ne_eq, not_or, not_not] at same
        obtain ⟨contentKey, canonical, kind⟩ := same
        have sameKey : prepared.contentKey = key :=
          ContentKey.toHex_injective (contentKey.trans keyed)
        unfold identifies
        rw [identityOf_prepared (parseLanguage_ok source) prepares, sameKey, canonical, kind]
        simp

/-- Reading a row and rendering it again keeps its identity. -/
theorem identifies_read {sourceMessage targetMessage : String} {key : ContentKey}
    {row : FavoriteRow} {favorite : Favorite}
    (success : readFavorite sourceMessage targetMessage key row = .ok favorite)
    (holds : identifies key row.snapshot = true) :
    identifies key (protocolSnapshot favorite) = true := by
  unfold readFavorite at success
  obtain ⟨kind, parsedKind, afterKind⟩ := bind_ok_iff.mp success
  obtain ⟨sourceLang, parsedSource, afterSource⟩ := bind_ok_iff.mp afterKind
  obtain ⟨targetLang, -, same⟩ := bind_ok_iff.mp afterSource
  cases same
  have kindSame := parseKind_ok parsedKind
  have langSame := parseLanguage_ok parsedSource
  unfold identifies identityOf at holds ⊢
  simp only [protocolSnapshot, LanguageCode.parse_text, langSame, kindSame] at holds ⊢
  exact holds

/-- What a profile keeps whatever a server answers, as long as its records fit. -/
structure IdentityInv (db : ProfileDb) : Prop where
  labelled : Labelled db
  history : ∀ key entry, db.historyEntries.get key = some entry →
    entry.content.contentKey = key ∧ Named entry.content
  favorites : ∀ key row, db.favorites.get key = some row → identifies key row.snapshot = true

theorem IdentityInv.initial (profileId : Uuid) (deviceId : String) (now : Int) :
    IdentityInv (ProfileDb.initial profileId deviceId now) where
  labelled := ⟨by simp [ProfileDb.initial], by simp [ProfileDb.initial]⟩
  history := by simp [ProfileDb.initial]
  favorites := by simp [ProfileDb.initial]

section Steps

variable {db next : ProfileDb}

/-- A step that changes at most the revision of a row. -/
theorem IdentityInv.revised (inv : IdentityInv db) (kept : OutboxKept db next)
    (history : next.historyEntries = db.historyEntries)
    (favorites : ∀ key row, next.favorites.get key = some row →
      ∃ old, db.favorites.get key = some old ∧ row.snapshot = old.snapshot) :
    IdentityInv next where
  labelled := inv.labelled.kept kept
  history := by
    rw [history]
    exact inv.history
  favorites := by
    intro key row stored
    obtain ⟨old, here, same⟩ := favorites key row stored
    rw [same]
    exact inv.favorites key old here

theorem IdentityInv.localMove {input : Input} (inv : IdentityInv db)
    (move : LocalMove input db next)
    (named : ∀ entry, input.queried entry ∨ input.imported entry → Named entry.content)
    (archives : ∀ favorite, input.archived favorite → Named favorite.content) :
    IdentityInv next where
  labelled := inv.labelled.localMove move
  history := by
    intro key entry stored
    rcases move.historyOrigin stored with old | ⟨given, keyed⟩
    · exact inv.history key entry old
    · exact ⟨keyed, named entry given⟩
  favorites := by
    intro key row stored
    cases move.favoriteOrigin stored with
    | kept old => exact inv.favorites key row old
    | entered entry now revision known written =>
        obtain ⟨keyed, own⟩ := inv.history key entry known
        rw [← keyed, written]
        exact own.identifies rfl rfl rfl rfl
    | buried old now here written =>
        have before := inv.favorites key old here
        rw [written]
        exact before
    | archived favorite given keyed deleted written =>
        rw [← keyed, written]
        exact (archives favorite given).identifies rfl rfl rfl rfl

theorem IdentityInv.call (inv : IdentityInv db) (call : Call)
    (named : ∀ entry eventId, call = .query entry eventId → Named entry.content) :
    IdentityInv (call.perform db) := by
  have imported : ∀ entry, call.input.imported entry → Named entry.content :=
    fun entry given => (Call.imported_good given).named
  have archived : ∀ favorite, call.input.archived favorite → Named favorite.content :=
    fun favorite given => (Call.archived_good given).named
  refine call.perform_keeps inv ?_ ?_
  · intro entry eventId next same move
    refine inv.localMove move ?_ archived
    rintro other (queried | given)
    · obtain ⟨otherId, equal⟩ := Call.input_queried queried
      exact named other otherId equal
    · exact imported other given
  · intro quiet before next holds move
    refine holds.localMove move ?_ archived
    rintro other (queried | given)
    · exact absurd queried (quiet other)
    · exact imported other given

theorem IdentityInv.acknowledge (inv : IdentityInv db) (items : List AcknowledgedEvent)
    (now : Int) : IdentityInv (acknowledgeEvents db items now).1 := by
  have kept := acknowledgeEvents_rows items now db
  unfold acknowledgeEvents at kept ⊢
  cases body : acknowledgeBody items now db with
  | error reason =>
      rw [Transaction.atomically_of_error body]
      exact inv
  | ok pair =>
      obtain ⟨after, done⟩ := pair
      rw [Transaction.atomically_of_ok body] at kept ⊢
      obtain ⟨last, looped, rfl⟩ := acknowledgeBody_ok body
      have facts := acknowledgeLoop_induct
        (fun _ db last => last.historyEntries = db.historyEntries ∧
          ∀ key row, last.favorites.get key = some row →
            ∃ old, db.favorites.get key = some old ∧ row.snapshot = old.snapshot)
        (fun _ => ⟨rfl, fun _ row stored => ⟨row, stored, rfl⟩⟩)
        (fun item rest db middle last turned tail => by
          obtain ⟨-, table, -, equation⟩ := acknowledgeEvent_ok turned
          replace equation : middle =
            acknowledged db item.event item.acknowledgement.entityRevision table := equation
          refine ⟨tail.1.trans ?_, fun key row stored => ?_⟩
          · rw [equation]
            cases item.acknowledgement.entityRevision <;> rfl
          · obtain ⟨between, here, same⟩ := tail.2 key row stored
            rw [equation, acknowledged_favorites] at here
            split at here
            · exact ⟨between, here, same⟩
            · split at here
              · obtain ⟨old, there, rfl⟩ := Option.map_eq_some_iff.mp here
                exact ⟨old, there, same⟩
              · exact ⟨between, here, same⟩)
        items db last looped
      exact inv.revised kept facts.1 facts.2

theorem IdentityInv.pulled {record : FavoriteRecord} {key : ContentKey} {now : Int}
    (inv : IdentityInv db) (keyed : record.contentKey = key.toHex)
    (valid : validateRemote record = .ok ()) (pulled : Pulled db next record key now) :
    IdentityInv next where
  labelled := inv.labelled.kept pulled.rows
  history := by
    rw [pulled.historyEntries]
    exact inv.history
  favorites := by
    intro other row stored
    by_cases same : other = key
    · subst same
      cases pulled.key with
      | written favorites outbox =>
          rw [favorites] at stored
          cases stored
          exact validateRemote_identifies keyed valid
      | adopted old after queued outbox favorites eventId contentKey operation createdAt base =>
          rw [favorites] at stored
          obtain ⟨before, here, rfl⟩ := Option.map_eq_some_iff.mp stored
          exact inv.favorites other before here
    · rw [pulled.favorites_apart same] at stored
      exact inv.favorites other row stored

theorem IdentityInv.page (inv : IdentityInv db) (changes : List SyncChange) (nextRevision : Nat)
    (now : Int) : IdentityInv (applyRemotePage db changes nextRevision now).1 := by
  unfold applyRemotePage
  cases body : applyRemotePageBody changes nextRevision now db with
  | error reason =>
      rw [Transaction.atomically_of_error body]
      exact inv
  | ok pair =>
      obtain ⟨after, done⟩ := pair
      rw [Transaction.atomically_of_ok body]
      obtain ⟨last, looped, rfl⟩ := applyRemotePage_ok body
      have reached : IdentityInv last := applyRemoteLoop_induct
        (fun _ db last => IdentityInv db → IdentityInv last) (fun _ holds => holds)
        (fun change rest db middle last key keyed valid pulled tail holds =>
          tail (holds.pulled keyed valid pulled))
        changes db last _ _ looped inv
      exact ⟨reached.labelled, reached.history, reached.favorites⟩

/-- The record that is written over a row is of the content it is filed under. -/
theorem written_identifies {event : OutboxEvent} {record : FavoriteRecord} {key : ContentKey}
    {localValue : Favorite} (inv : IdentityInv db) (fits : recordFits db event record = true)
    (keyed : record.contentKey = key.toHex)
    (found : localFavorite db event.contentKey = .ok (some localValue))
    (reached : desiredConverged event.operation localValue record = true) :
    identifies key record.favorite = true := by
  simp only [recordFits, keyed, parseContentKey_toHex] at fits
  split at fits
  · rename_i same
    cases operation : event.operation with
    | favoriteDelete =>
        rw [operation] at reached fits
        have deleted : record.deletedAt.isSome = true := reached
        rw [Option.isSome_iff_exists] at deleted
        obtain ⟨at', gone⟩ := deleted
        simpa [gone] using fits
    | favoriteUpsert =>
        rw [operation] at reached
        have snapshot : protocolSnapshot localValue = record.favorite := by
          unfold desiredConverged at reached
          simp only [Bool.and_eq_true, decide_eq_true_eq] at reached
          exact reached.2
        rcases localFavorite_ok found with ⟨-, none⟩ | ⟨row, favorite, stored, read, equal⟩
        · cases none
        · cases equal
          rw [← snapshot, same]
          exact identifies_read read (inv.favorites _ row stored)
    | queryStatsUpsert =>
        rw [operation] at reached
        cases reached
  · have used : recordWritten db event record = true := by
      simp only [recordWritten, found, reached]
    rw [used] at fits
    simp at fits

theorem IdentityInv.resolved {event : OutboxEvent} {current : Option FavoriteRecord} {now : Int}
    {resolution : ConflictResolution} (inv : IdentityInv db)
    (fits : answerFits db (.resolve event current now) = true)
    (resolved : Resolved db next event current now resolution) : IdentityInv next := by
  have kept := resolved.rows
  cases resolved with
  | converged record key localValue table answer keyed found reached stats changed =>
      subst answer
      refine ⟨inv.labelled.kept kept, ?_, ?_⟩
      · rw [changed]
        exact inv.history
      · intro other row stored
        rw [changed] at stored
        dsimp only at stored
        rw [Table.get_put] at stored
        split at stored
        · rename_i same
          cases stored
          rw [same]
          exact written_identifies inv fits keyed found reached
        · exact inv.favorites other row stored
  | replayed record row table answer pending first stats changed =>
      refine inv.revised kept (by rw [changed]; rfl) ?_
      intro other row stored
      rw [changed] at stored
      replace stored : (setEntityRevision db event.contentKey
        record.entityRevision).favorites.get other = some row := stored
      rw [setEntityRevision_get] at stored
      split at stored
      · obtain ⟨old, here, rfl⟩ := Option.map_eq_some_iff.mp stored
        exact ⟨old, here, rfl⟩
      · exact ⟨row, stored, rfl⟩
  | manual table stats changed =>
      refine inv.revised kept (by rw [changed]; rfl) ?_
      intro other row stored
      rw [changed] at stored
      exact ⟨row, stored, rfl⟩

theorem IdentityInv.resolve {event : OutboxEvent} {current : Option FavoriteRecord} {now : Int}
    (inv : IdentityInv db) (fits : answerFits db (.resolve event current now) = true) :
    IdentityInv (resolveConflict db event current now).1 := by
  unfold resolveConflict
  cases body : resolveConflictBody event current now db with
  | error reason =>
      rw [Transaction.atomically_of_error body]
      exact inv
  | ok pair =>
      obtain ⟨after, resolution⟩ := pair
      rw [Transaction.atomically_of_ok body]
      exact inv.resolved fits (resolveConflictBody_ok body).2

/-- One step of a profile whose conflict records fit. -/
theorem IdentityInv.step {action : ClientAction} (inv : IdentityInv db)
    (fits : answerFits db action = true) (taken : clientStep db action = some next) :
    IdentityInv next := by
  cases action with
  | call call =>
      have others : (∀ entry eventId, call = .query entry eventId → Named entry.content) →
          call.perform db = next → IdentityInv next := by
        rintro named rfl
        exact inv.call call named
      cases call with
      | query entry eventId =>
          simp only [clientStep] at taken
          split at taken
          · rename_i named
            refine others ?_ (Option.some.inj taken)
            rintro _ _ ⟨⟩
            exact named_of_namesItself named
          · cases taken
      | favorite key now eventId => exact others (by simp) (Option.some.inj taken)
      | unfavorite key now eventId => exact others (by simp) (Option.some.inj taken)
      | importData document now eventIds => exact others (by simp) (Option.some.inj taken)
      | clearHistory => exact others (by simp) (Option.some.inj taken)
  | acknowledge items now =>
      cases taken
      exact inv.acknowledge items now
  | page changes nextRevision now =>
      cases taken
      exact inv.page changes nextRevision now
  | resolve event current now =>
      cases taken
      exact inv.resolve fits
  | retry events nextRetryAt error now =>
      cases taken
      obtain ⟨favorites, -, history, -⟩ := markRetry_favorites db events nextRetryAt error now
      refine inv.revised (markRetry_rows db events nextRetryAt error now) history ?_
      intro key row stored
      rw [favorites] at stored
      exact ⟨row, stored, rfl⟩
  | failed error now =>
      cases taken
      exact ⟨inv.labelled, inv.history, inv.favorites⟩

/-- No row of another content is another than before. -/
structure Untouched (key : ContentKey) (before after : ProfileDb) : Prop where
  favorites : ∀ other, other ≠ key → after.favorites.get other = before.favorites.get other
  stats : ∀ other, other ≠ key → after.queryStats.get other = before.queryStats.get other
  outbox : ∀ coalesceKey row, row.contentKey ≠ key →
    (after.syncOutbox.get coalesceKey = some row ↔ before.syncOutbox.get coalesceKey = some row)

omit [ContentTables] in
theorem Untouched.refl (key : ContentKey) (db : ProfileDb) : Untouched key db db :=
  ⟨fun _ _ => rfl, fun _ _ => rfl, fun _ _ _ => Iff.rfl⟩

omit [ContentTables] in
/-- The Outbox part needs no condition: only the row of the event's content moves. -/
theorem resolved_outbox_other {event : OutboxEvent} {current : Option FavoriteRecord} {now : Int}
    {resolution : ConflictResolution} (labelled : Labelled db)
    (resolved : Resolved db next event current now resolution) (coalesceKey : CoalesceKey)
    (row : OutboxRow) (other : row.contentKey ≠ event.contentKey) :
    next.syncOutbox.get coalesceKey = some row ↔ db.syncOutbox.get coalesceKey = some row := by
  by_cases same : coalesceKey = .favorite event.contentKey
  · subst same
    constructor
    · intro stored
      have after := (labelled.kept resolved.rows).1 _ row stored
      exact absurd after.1 other
    · intro stored
      exact absurd (labelled.1 _ row stored).1 other
  · rw [resolved.outbox_apart same]

/-- The record a conflict used is of the event's content, or was not used. -/
theorem resolved_untouched {event : OutboxEvent} {current : Option FavoriteRecord} {now : Int}
    {resolution : ConflictResolution} (labelled : Labelled db)
    (fits : answerFits db (.resolve event current now) = true)
    (success : resolveConflictBody event current now db = .ok (next, resolution)) :
    Untouched event.contentKey db next := by
  have resolved := (resolveConflictBody_ok success).2
  have own : ∀ (record : FavoriteRecord) (key : ContentKey), current = some record →
      record.contentKey = key.toHex →
      (resolution = .converged ∨ record.aggregateQueryStats ≠ none) → key = event.contentKey := by
    intro record key answer keyed used
    by_contra differs
    subst answer
    simp only [answerFits, recordFits, keyed, parseContentKey_toHex, differs, ↓reduceIte,
      Bool.and_eq_true, Option.isNone_iff_eq_none, Bool.not_eq_true'] at fits
    rcases used with rfl | brought
    · cases resolved with
      | converged _ _ localValue _ answer _ found reached =>
          cases answer
          have written : recordWritten db event record = true := by
            simp only [recordWritten, found, reached]
          rw [written] at fits
          cases fits.2
    · exact brought fits.1
  refine ⟨fun other apart => ?_, fun other apart => ?_,
    resolved_outbox_other labelled resolved⟩
  · cases resolved with
    | converged record key localValue table answer keyed found reached stats changed =>
        have same := own record key answer keyed (Or.inl rfl)
        rw [changed]
        exact Table.get_put_of_ne _ _ (same ▸ apart)
    | replayed record row table answer pending first stats changed =>
        rw [changed]
        exact (setEntityRevision_get db _ other record.entityRevision).trans (if_neg apart)
    | manual table stats changed =>
        rw [changed]
        rfl
  · rcases resolveConflictBody_moved success with same | ⟨record, key, answer, keyed, used, moved⟩
    · rw [same]
    · have sameKey := own record key answer keyed used
      exact moved.apart other (sameKey ▸ apart)

theorem resolveConflict_untouched {event : OutboxEvent} {current : Option FavoriteRecord}
    {now : Int} (labelled : Labelled db)
    (fits : answerFits db (.resolve event current now) = true) :
    Untouched event.contentKey db (resolveConflict db event current now).1 := by
  unfold resolveConflict
  cases body : resolveConflictBody event current now db with
  | error reason =>
      rw [Transaction.atomically_of_error body]
      exact .refl _ db
  | ok pair =>
      obtain ⟨after, resolution⟩ := pair
      rw [Transaction.atomically_of_ok body]
      exact resolved_untouched labelled fits body

end Steps

/-- Every run of a profile with answers of any server: as long as the conflict records
fit, each row is of the content it is filed under, and a conflict about one content
leaves the others alone. -/
theorem content_identity_kept (profileId : Uuid) (deviceId : String) (created : Int)
    (actions : List ClientAction) (db : ProfileDb)
    (fits : Transition.Meets clientStep (fun db action => answerFits db action = true)
      (ProfileDb.initial profileId deviceId created) actions)
    (reached : Transition.run clientStep (ProfileDb.initial profileId deviceId created) actions =
      some db) :
    (∀ key row, db.favorites.get key = some row → identifies key row.snapshot = true) ∧
      ∀ event current now, answerFits db (.resolve event current now) = true →
        Untouched event.contentKey db (resolveConflict db event current now).1 := by
  have inv : IdentityInv db := Transition.run_keeps_of_meets
    (fun _ _ _ holds condition taken => holds.step condition taken) actions _ db
    (.initial profileId deviceId created) fits reached
  exact ⟨inv.favorites, fun event current now condition =>
    resolveConflict_untouched inv.labelled condition⟩

end Identity

section Runs

attribute [local instance] Sample.tables

/-- The active record of the word. -/
def giftRecord : FavoriteRecord where
  contentKey := Sample.giftKey.toHex
  keyVersion := 1
  entityRevision := 1
  favorite := ⟨"word", "en", "zh-CN", "gift", "gift", "礼物", "tokenhub", 60, 60⟩
  deletedAt := none
  serverReceivedAt := 60
  aggregateQueryStats := none

/-- Its withdrawal, pending after the record was pulled. -/
def giftDelete : OutboxEvent :=
  ⟨(favoriteIntent Sample.giftKey "deleted" 1 (unqueried 60 60) 103 .favoriteDelete
    (Sample.eventId 3)).row none, .favorite Sample.giftKey⟩

def withdrawsGift : List ClientAction :=
  [.page [⟨1, .favoriteUpsert, giftRecord⟩] 1 102,
    .call (.unfavorite Sample.giftKey 103 (Sample.eventId 3))]

/-- A deleted record under the key of the word, with another text. -/
def wrongRecord : FavoriteRecord :=
  { giftRecord with
    entityRevision := 2
    favorite := { giftRecord.favorite with sourceText := "other", canonicalText := "other" }
    deletedAt := some 104 }

/-- What is evaluated of the withdrawal and of the two answers to it. -/
theorem withdrawsGift_runs :
    (Transition.run clientStep deskProfile withdrawsGift).any (fun before =>
      before.syncOutbox.get (.favorite Sample.giftKey) = some giftDelete.toOutboxRow) = true ∧
    (Transition.run clientStep deskProfile
      (withdrawsGift ++ [ClientAction.resolve giftDelete (some wrongRecord) 105])).any (fun after =>
      (after.favorites.get Sample.giftKey).any (fun row =>
        !identifies Sample.giftKey row.snapshot)) = true ∧
    (Transition.run clientStep deskProfile (withdrawsGift ++
      [ClientAction.resolve giftDelete
        (some { giftRecord with entityRevision := 2, deletedAt := some 104 }) 105])).any
      (fun db => (db.favorites.get Sample.giftKey).isSome) = true ∧
    Transition.Meets clientStep (fun db action => answerFits db action = true)
      deskProfile (withdrawsGift ++ [ClientAction.resolve giftDelete
        (some { giftRecord with entityRevision := 2, deletedAt := some 104 }) 105]) := by
  decide +kernel

/-- A withdrawal takes any deleted record for its own: the row of the word holds
another text afterwards. -/
theorem unchecked_record_is_written :
    ∃ before after row,
      Transition.run clientStep deskProfile withdrawsGift = some before ∧
      before.syncOutbox.get (.favorite Sample.giftKey) = some giftDelete.toOutboxRow ∧
      Transition.run clientStep deskProfile
        (withdrawsGift ++ [.resolve giftDelete (some wrongRecord) 105]) = some after ∧
      after.favorites.get Sample.giftKey = some row ∧
      identifies Sample.giftKey row.snapshot = false := by
  obtain ⟨pending, facts, -⟩ := withdrawsGift_runs
  obtain ⟨before, ran, here⟩ := (Option.any_eq_true _ _).mp pending
  obtain ⟨after, reached, rows⟩ := (Option.any_eq_true _ _).mp facts
  obtain ⟨row, stored, holds⟩ := (Option.any_eq_true _ _).mp rows
  exact ⟨before, after, row, ran, by simpa using here, reached, stored, by simpa using holds⟩

/-- The same withdrawal, answered with the deleted record of the word. -/
theorem content_identity_kept_gift :
    ∃ db row,
      Transition.run clientStep deskProfile (withdrawsGift ++
        [.resolve giftDelete
          (some { giftRecord with entityRevision := 2, deletedAt := some 104 }) 105]) = some db ∧
      db.favorites.get Sample.giftKey = some row ∧
      identifies Sample.giftKey row.snapshot = true := by
  obtain ⟨-, -, facts, meets⟩ := withdrawsGift_runs
  obtain ⟨db, ran, present⟩ := (Option.any_eq_true _ _).mp facts
  obtain ⟨row, stored⟩ := Option.isSome_iff_exists.mp present
  exact ⟨db, row, ran, stored,
    (content_identity_kept (Sample.eventId 0) "desk" 50 _ db meets ran).1 _ row stored⟩

end Runs

end Lvos.System
