import Lvos.Storage.Origins
import Lvos.System.Batch

set_option autoImplicit false

namespace Lvos.System

open Lvos.Core Lvos.Sync Lvos.Storage
open Lvos.Server (UuidParser validateEvent)
open Transaction (bind_ok_iff)

/-- The translated fields the server takes. -/
def translationFits (value : TranslationSnapshot) : Bool :=
  value.translation.toList ≠ [] && value.translation.utf8ByteSize ≤ Server.maxTranslationBytes &&
    value.provider.toList ≠ [] && value.provider.utf8ByteSize ≤ Server.maxProviderBytes

/-- What a Device does to its own profile, and the pages it takes. -/
inductive ProfileAction
  | call (call : Call)
  | page (changes : List SyncChange) (nextRevision : Nat) (now : Int)

/-- The Device's own first query is not after its last. -/
def OrderedCount (stats : QueryStats) : Prop :=
  0 < stats.deviceQueryCount → stats.firstQueriedAt ≤ stats.lastQueriedAt

theorem OrderedCount.lawful : CountProperty OrderedCount where
  zero := by
    intro stats zero positive
    omega
  own := by
    intro stats kept count first last ordered positive
    rw [first, last]
    exact ordered (count ▸ positive)

theorem countQuery_ordered {existing : Option QueryStats} {now : Int} {stats : QueryStats}
    (count : countQuery existing now = .ok stats)
    (later : ∀ before, existing = some before → before.firstQueriedAt ≤ now) :
    OrderedCount stats := by
  unfold countQuery at count
  split at count
  · cases count
    exact fun _ => le_refl _
  · rename_i before
    split at count
    · cases count
      exact fun _ => later before rfl
    · cases count

section Profile

variable [ContentTables]

/-- A content that its own source text prepares to. -/
structure Prepared (content : StoredContent) (prepared : PreparedContent) : Prop where
  prepares : prepareContent content.sourceText content.sourceLang Server.maxSyncTextCharacters =
    .ok prepared
  contentKey : prepared.contentKey = content.contentKey
  keyVersion : prepared.keyVersion = content.keyVersion
  kind : prepared.kind = content.kind
  canonicalText : prepared.canonicalText = content.canonicalText

/-- An entry whose Favorite the server would take. -/
structure GoodEntry (entry : HistoryEntry) : Prop where
  content : ∃ prepared, Prepared entry.content prepared
  translation : translationFits entry.translation = true

def profileStep (db : ProfileDb) : ProfileAction → Option ProfileDb
  | .call call =>
      if call.ids.all (fun id => id.getVersionNum = 7) then some (call.perform db) else none
  | .page changes nextRevision now => some (applyRemotePage db changes nextRevision now).1

/-- The condition on one step: a query brings a prepared content with a translation
the server takes, at a time that is not before the first recorded one. -/
def validates (db : ProfileDb) : ProfileAction → Bool
  | .call (.query entry _) =>
      isPrepared entry.content && translationFits entry.translation &&
        (db.queryStats.get entry.content.contentKey).all
          (fun stats => stats.firstQueriedAt ≤ entry.lastQueriedAt)
  | _ => true

section Content

theorem prepareContent_lang {text : String} {sourceLang : LanguageCode} {limit : Nat}
    {prepared : PreparedContent} (prepares : prepareContent text sourceLang limit = .ok prepared) :
    prepared.sourceLang = sourceLang ∧ prepared.keyVersion = contentKeyVersion := by
  obtain ⟨-, -, -, rfl⟩ := prepareContent_ok.mp prepares
  exact ⟨rfl, rfl⟩

theorem Prepared.version {content : StoredContent} {prepared : PreparedContent}
    (holds : Prepared content prepared) : content.keyVersion = contentKeyVersion := by
  rw [← holds.keyVersion]
  exact (prepareContent_lang holds.prepares).2

theorem prepared_of_isPrepared {content : StoredContent} (holds : isPrepared content = true) :
    ∃ prepared, Prepared content prepared := by
  unfold isPrepared at holds
  split at holds
  · rename_i prepared prepares
    have same : content = storedContent prepared := by simpa using holds
    exact ⟨prepared, prepares, by rw [same]; rfl, by rw [same]; rfl, by rw [same]; rfl,
      by rw [same]; rfl⟩
  · cases holds

theorem validateContent_ok {value : PortableContent} {content : StoredContent}
    (success : validateContent value = .ok content) : ∃ prepared, Prepared content prepared := by
  unfold validateContent at success
  split at success
  · cases success
  · split at success
    · cases success
    · split at success
      · cases success
      · rename_i sourceLang parsed
        split at success
        · cases success
        · rename_i prepared prepares
          obtain ⟨kind, -, afterKind⟩ := bind_ok_iff.mp success
          split at afterKind
          · cases afterKind
          · rename_i key keyed
            split at afterKind
            · cases afterKind
            · rename_i identity
              cases afterKind
              simp only [ne_eq, not_or, not_not] at identity
              obtain ⟨contentKey, keyVersion, sameKind, -, canonicalText⟩ := identity
              exact ⟨prepared, prepares, contentKey, keyVersion, sameKind, canonicalText⟩

omit [ContentTables] in
theorem validateTranslation_ok {value : PortableTranslation} {translation : TranslationSnapshot}
    (success : validateTranslation value = .ok translation) :
    translationFits translation = true := by
  unfold validateTranslation at success
  split at success
  · rename_i allowed
    split at success
    · cases success
    · cases success
      unfold translationAllowed at allowed
      simp only [Bool.and_eq_true] at allowed
      unfold translationFits
      simp only [Bool.and_eq_true]
      exact ⟨⟨⟨allowed.1.1.1.1.1.1, allowed.1.1.1.1.1.2⟩, allowed.1.1.1.1.2⟩, allowed.1.1.1.2⟩
  · cases success

theorem validateHistory_ok {value : PortableHistory} {entry : HistoryEntry}
    (success : validateHistory value = .ok entry) : GoodEntry entry := by
  unfold validateHistory at success
  split at success
  · cases success
  · obtain ⟨translation, translated, afterTranslation⟩ := bind_ok_iff.mp success
    split at afterTranslation
    · cases afterTranslation
    · obtain ⟨content, prepared, same⟩ := bind_ok_iff.mp afterTranslation
      cases same
      exact ⟨validateContent_ok prepared, validateTranslation_ok translated⟩

theorem validateFavorite_ok {value : PortableFavorite} {favorite : Favorite}
    (success : validateFavorite value = .ok favorite) : GoodEntry (historyFromFavorite favorite) := by
  unfold validateFavorite at success
  split at success
  · obtain ⟨translation, translated, afterTranslation⟩ := bind_ok_iff.mp success
    split at afterTranslation
    · cases afterTranslation
    · obtain ⟨content, prepared, same⟩ := bind_ok_iff.mp afterTranslation
      cases same
      exact ⟨validateContent_ok prepared, validateTranslation_ok translated⟩
  · cases success

theorem validateHistories_ok : ∀ (values : List PortableHistory) (seen result : List HistoryEntry),
    validateHistories seen values = .ok result → (∀ entry ∈ seen, GoodEntry entry) →
    ∀ entry ∈ result, GoodEntry entry := by
  intro values
  induction values with
  | nil =>
      intro seen result success good
      cases success
      exact good
  | cons value rest ih =>
      intro seen result success good
      unfold validateHistories at success
      obtain ⟨entry, head, afterHead⟩ := bind_ok_iff.mp success
      split at afterHead
      · cases afterHead
      · refine ih _ result afterHead ?_
        intro other member
        rcases List.mem_append.mp member with old | new
        · exact good other old
        · rw [List.mem_singleton.mp new]
          exact validateHistory_ok head

theorem validateFavorites_ok (history : List HistoryEntry) :
    ∀ (values : List PortableFavorite) (seen result : List Favorite),
      validateFavorites history seen values = .ok result →
      (∀ favorite ∈ seen, GoodEntry (historyFromFavorite favorite)) →
      ∀ favorite ∈ result, GoodEntry (historyFromFavorite favorite) := by
  intro values
  induction values with
  | nil =>
      intro seen result success good
      cases success
      exact good
  | cons value rest ih =>
      intro seen result success good
      unfold validateFavorites at success
      obtain ⟨favorite, head, afterHead⟩ := bind_ok_iff.mp success
      split at afterHead
      · cases afterHead
      · split at afterHead
        · cases afterHead
        · refine ih _ result afterHead ?_
          intro other member
          rcases List.mem_append.mp member with old | new
          · exact good other old
          · rw [List.mem_singleton.mp new]
            exact validateFavorite_ok head

theorem validateExport_ok {document : PortableDataExport} {validated : ValidatedExport}
    (success : validateExport document = .ok validated) :
    (∀ entry ∈ validated.history, GoodEntry entry) ∧
      ∀ favorite ∈ validated.favorites, GoodEntry (historyFromFavorite favorite) := by
  unfold validateExport at success
  split at success
  · cases success
  · split at success
    · cases success
    · split at success
      · cases success
      · obtain ⟨-, -, afterLimit⟩ := bind_ok_iff.mp success
        obtain ⟨history, histories, afterHistory⟩ := bind_ok_iff.mp afterLimit
        obtain ⟨favorites, listed, afterFavorites⟩ := bind_ok_iff.mp afterHistory
        obtain ⟨-, -, same⟩ := bind_ok_iff.mp afterFavorites
        cases same
        exact ⟨validateHistories_ok _ [] history histories (by simp),
          validateFavorites_ok history _ [] favorites listed (by simp)⟩

end Content

theorem Call.imported_good {call : Call} {entry : HistoryEntry}
    (imported : call.input.imported entry) : GoodEntry entry := by
  cases call with
  | query other eventId => exact imported.elim
  | favorite key now eventId => exact imported.elim
  | unfavorite key now eventId => exact imported.elim
  | importData document now eventIds =>
      obtain ⟨validated, valid, member | ⟨favorite, member, rfl⟩⟩ := imported
      · exact (validateExport_ok valid).1 entry member
      · exact (validateExport_ok valid).2 favorite member
  | clearHistory => exact imported.elim

theorem Call.archived_good {call : Call} {favorite : Favorite}
    (archived : call.input.archived favorite) : GoodEntry (historyFromFavorite favorite) := by
  cases call with
  | query other eventId => exact archived.elim
  | favorite key now eventId => exact archived.elim
  | unfavorite key now eventId => exact archived.elim
  | importData document now eventIds =>
      obtain ⟨validated, valid, member⟩ := archived
      exact (validateExport_ok valid).2 favorite member
  | clearHistory => exact archived.elim

/-- A snapshot the server takes for the content. -/
def Sendable (key : ContentKey) (snapshot : FavoriteSnapshot) : Prop :=
  ∀ event : PushEvent, event.contentKey = key.toHex → event.keyVersion = contentKeyVersion →
    Server.validateSnapshot event snapshot = .ok ()

theorem GoodEntry.sendable {entry : HistoryEntry} (good : GoodEntry entry) (now : Int)
    (revision : Nat) :
    Sendable entry.content.contentKey (favoriteRowOf entry now revision).snapshot := by
  obtain ⟨prepared, holds⟩ := good.content
  intro event keyed version
  unfold Server.validateSnapshot favoriteRowOf
  dsimp only
  rw [LanguageCode.parse_text, LanguageCode.parse_text]
  dsimp only
  rw [holds.prepares]
  dsimp only
  obtain ⟨lang, current⟩ := prepareContent_lang holds.prepares
  rw [if_neg, if_pos]
  · exact good.translation
  · rw [holds.contentKey, keyed, current, version, holds.kind, holds.canonicalText, lang]
    simp

/-- What the profile keeps so that its events pass the server's checks. -/
structure ValidInv (db : ProfileDb) : Prop where
  shape : ∃ issued, Shape issued db
  history : ∀ key entry, db.historyEntries.get key = some entry →
    entry.content.contentKey = key ∧ GoodEntry entry
  version : ∀ key row, db.favorites.get key = some row → row.keyVersion = contentKeyVersion
  sendable : ∀ key row, db.syncOutbox.get (.favorite key) = some row →
    row.operation = .favoriteUpsert → ∃ value, db.favorites.get key = some value ∧
      Sendable key value.snapshot
  ordered : Counted OrderedCount db
  ids : ∀ coalesceKey row, db.syncOutbox.get coalesceKey = some row →
    row.eventId.getVersionNum = 7

theorem ValidInv.initial (profileId : Uuid) (deviceId : String) (now : Int) :
    ValidInv (ProfileDb.initial profileId deviceId now) where
  shape := ⟨[], Shape.initial profileId deviceId now⟩
  history := by simp [ProfileDb.initial]
  version := by simp [ProfileDb.initial]
  sendable := by simp [ProfileDb.initial]
  ordered := by
    intro key stats stored
    cases stored
  ids := by simp [ProfileDb.initial]

section Steps

variable {db next : ProfileDb}

/-- One write of a user's call. -/
theorem ValidInv.localMove {input : Input} (inv : ValidInv db) (move : LocalMove input db next)
    (listed : List Uuid) (fresh : ∀ id, input.fresh id → id ∈ listed ∧ id.getVersionNum = 7)
    (good : ∀ entry, input.queried entry ∨ input.imported entry → GoodEntry entry)
    (archives : ∀ favorite, input.archived favorite → GoodEntry (historyFromFavorite favorite))
    (later : ∀ entry stats, input.queried entry →
      db.queryStats.get entry.content.contentKey = some stats →
      stats.firstQueriedAt ≤ entry.lastQueriedAt) : ValidInv next := by
  obtain ⟨issued, shape⟩ := inv.shape
  have reached : Shape (listed ++ issued) next :=
    (shape.weaken (fun id member => List.mem_append_right _ member)).localMove move
      (fun id new => List.mem_append_left _ (fresh id new).1)
  refine ⟨⟨_, reached⟩, ?_, ?_, ?_, ?_, ?_⟩
  · intro key entry stored
    rcases move.historyOrigin stored with old | ⟨given, keyed⟩
    · exact inv.history key entry old
    · exact ⟨keyed, good entry given⟩
  · intro key value stored
    cases move.favoriteOrigin stored with
    | kept old => exact inv.version key value old
    | entered entry now revision known written =>
        obtain ⟨-, entryGood⟩ := inv.history key entry known
        obtain ⟨prepared, holds⟩ := entryGood.content
        rw [written]
        exact holds.version
    | buried old now here written =>
        rw [written]
        exact inv.version key old here
    | archived favorite given keyed deleted written =>
        obtain ⟨prepared, holds⟩ := (archives favorite given).content
        rw [written]
        exact holds.version
  · intro key row stored upsert
    cases move.keyMove shape.indexed key with
    | same favorites outbox =>
        rw [outbox] at stored
        rw [favorites]
        exact inv.sendable key row stored upsert
    | archived value absent here deleted revision outbox =>
        rw [outbox] at stored
        obtain ⟨other, present⟩ := (shape.favorites key row stored).present
        rw [absent] at present
        cases present
    | folded old value present active unsynced here deleted revision dropped =>
        rw [dropped] at stored
        cases stored
    | withdrawn old value other present active synced here deleted revision queued new keyed
        operation base =>
        rw [queued] at stored
        cases stored
        rw [operation] at upsert
        cases upsert
    | favorited value other inactive here active canonical revision queued new keyed operation
        base =>
        refine ⟨value, here, ?_⟩
        -- The row is active and was not before, so the history wrote it.
        cases move.favoriteOrigin here with
        | kept old =>
            have gone := inactive value old
            rw [active] at gone
            cases gone
        | entered entry now base known written =>
            obtain ⟨same, entryGood⟩ := inv.history key entry known
            rw [written, ← same]
            exact entryGood.sendable now base
        | buried old now before written =>
            rw [written] at active
            cases active
        | archived favorite given keyed deleted written =>
            rw [written] at active
            have gone : favorite.deletedAt = none := active
            rw [gone] at deleted
            cases deleted
  · refine inv.ordered.localMove OrderedCount.lawful move ?_
    intro entry stats given count
    exact countQuery_ordered count (fun before here => later entry before given here)
  · intro coalesceKey row stored
    rcases move.row stored with old | ⟨new, -⟩
    · exact inv.ids coalesceKey row old
    · exact (fresh row.eventId new).2

/-- One change of a page. -/
theorem ValidInv.pulled {record : FavoriteRecord} {key : ContentKey} {now : Int}
    (inv : ValidInv db) (valid : validateRemote record = .ok ())
    (pulled : Pulled db next record key now) : ValidInv next := by
  obtain ⟨issued, shape⟩ := inv.shape
  refine ⟨⟨issued, shape.pulled pulled⟩, ?_, ?_, ?_,
    inv.ordered.kept OrderedCount.lawful pulled.kept, ?_⟩
  · rw [pulled.historyEntries]
    exact inv.history
  · intro other value stored
    by_cases same : other = key
    · subst same
      cases pulled.key with
      | written favorites outbox =>
          rw [favorites] at stored
          cases stored
          exact validateRemote_version valid
      | adopted old row queued outbox favorites eventId contentKey operation createdAt base =>
          rw [favorites] at stored
          obtain ⟨before, here, rfl⟩ := Option.map_eq_some_iff.mp stored
          exact inv.version other before here
    · rw [pulled.favorites_apart same] at stored
      exact inv.version other value stored
  · intro other row stored upsert
    by_cases same : other = key
    · subst same
      cases pulled.key with
      | written favorites outbox =>
          rw [outbox] at stored
          cases stored
      | adopted old after queued outbox favorites eventId contentKey operation createdAt base =>
          rw [outbox] at stored
          cases stored
          obtain ⟨value, here, sendable⟩ := inv.sendable other old queued (operation ▸ upsert)
          exact ⟨revised record.entityRevision value, by rw [favorites, here]; rfl, sendable⟩
    · rw [pulled.outbox_apart (by simpa using same)] at stored
      rw [pulled.favorites_apart same]
      exact inv.sendable other row stored upsert
  · intro coalesceKey row stored
    by_cases same : coalesceKey = .favorite key
    · subst same
      cases pulled.key with
      | written favorites outbox =>
          rw [outbox] at stored
          cases stored
      | adopted old after queued outbox favorites eventId contentKey operation createdAt base =>
          rw [outbox] at stored
          cases stored
          rw [eventId]
          exact inv.ids _ old queued
    · rw [pulled.outbox_apart same] at stored
      exact inv.ids coalesceKey row stored

theorem ValidInv.page {changes : List SyncChange} {nextRevision : Nat} {now : Int}
    (inv : ValidInv db) : ValidInv (applyRemotePage db changes nextRevision now).1 := by
  unfold applyRemotePage
  cases body : applyRemotePageBody changes nextRevision now db with
  | error reason =>
      rw [Transaction.atomically_of_error body]
      exact inv
  | ok pair =>
      obtain ⟨after, done⟩ := pair
      rw [Transaction.atomically_of_ok body]
      obtain ⟨last, looped, rfl⟩ := applyRemotePage_ok body
      have reached := applyRemoteLoop_induct (fun _ db last => ValidInv db → ValidInv last)
        (fun _ here => here)
        (fun change rest db middle last key _ valid pulled tail here =>
          tail (here.pulled valid pulled))
        changes db last _ _ looped inv
      obtain ⟨issued, shape⟩ := reached.shape
      exact ⟨⟨issued, shape.congr rfl rfl⟩, reached.history, reached.version, reached.sendable,
        reached.ordered, reached.ids⟩

/-- A call of the user. A query is one write, so its condition is about the profile
it starts from. -/
theorem ValidInv.perform {call : Call} (inv : ValidInv db)
    (seven : call.ids.all (fun id => id.getVersionNum = 7) = true)
    (safe : validates db (.call call) = true) : ValidInv (call.perform db) := by
  have fresh : ∀ id, call.input.fresh id → id ∈ call.ids ∧ id.getVersionNum = 7 := by
    intro id member
    exact ⟨member, by simpa using List.all_eq_true.mp seven id member⟩
  by_cases asks : ∃ entry eventId, call = .query entry eventId
  · obtain ⟨entry, eventId, rfl⟩ := asks
    unfold validates at safe
    simp only [Bool.and_eq_true, Option.all_eq_true, decide_eq_true_eq] at safe
    obtain ⟨⟨prepared, translated⟩, later⟩ := safe
    rcases Call.query_move db entry eventId with same | move
    · rw [same]
      exact inv
    · refine inv.localMove move _ fresh ?_ ?_ ?_
      · rintro other (rfl | impossible)
        · exact ⟨prepared_of_isPrepared prepared, translated⟩
        · exact impossible.elim
      · intro favorite impossible
        exact impossible.elim
      · rintro other stats rfl stored
        exact later stats stored
  · have silent : ∀ entry, ¬ call.input.queried entry := by
      intro entry queried
      obtain ⟨eventId, same⟩ := Call.input_queried queried
      exact asks ⟨entry, eventId, same⟩
    have moves := call.moves db
    generalize call.perform db = performed at moves
    induction moves with
    | refl => exact inv
    | tail _ move ih =>
        refine ih.localMove move _ fresh ?_ (fun _ => Call.archived_good) ?_
        · rintro entry (queried | imported)
          · exact absurd queried (silent entry)
          · exact Call.imported_good imported
        · intro entry stats queried
          exact absurd queried (silent entry)

theorem ValidInv.step {action : ProfileAction} (inv : ValidInv db)
    (safe : validates db action = true) (taken : profileStep db action = some next) :
    ValidInv next := by
  cases action with
  | call call =>
      unfold profileStep at taken
      dsimp only at taken
      split at taken
      · rename_i seven
        cases taken
        exact inv.perform seven safe
      · cases taken
  | page changes nextRevision now =>
      cases taken
      exact inv.page

end Steps

section Event

variable {db : ProfileDb}

/-- The version a push names. -/
theorem ValidInv.sentVersion (inv : ValidInv db) {key : ContentKey} {found : Option Favorite}
    (looked : favoriteTx db key = .ok found) :
    (found.map (fun value => value.content.keyVersion)).getD contentKeyVersion =
      contentKeyVersion := by
  rcases favoriteTx_ok looked with ⟨-, rfl⟩ | ⟨row, favorite, stored, parsed, rfl⟩
  · rfl
  · show favorite.content.keyVersion = contentKeyVersion
    rw [(readFavorite_ok parsed).2.2.1]
    exact inv.version key row stored

/-- The snapshot a push of an upsert carries is the stored one. -/
theorem ValidInv.sentSnapshot (inv : ValidInv db) {key : ContentKey} {row : OutboxRow}
    (stored : db.syncOutbox.get (.favorite key) = some row)
    (upsert : row.operation = .favoriteUpsert) {found : Option Favorite}
    {snapshot : Option FavoriteSnapshot} (looked : favoriteTx db key = .ok found)
    (rendered : Storage.sentSnapshot row.operation found = .ok snapshot) :
    ∃ value, snapshot = some value ∧ Sendable key value := by
  obtain ⟨issued, shape⟩ := inv.shape
  obtain ⟨value, here, sendable⟩ := inv.sendable key row stored upsert
  rw [upsert] at rendered
  obtain ⟨favorite, rfl, -, rfl⟩ := sentSnapshot_upsert rendered
  refine ⟨_, rfl, ?_⟩
  rcases favoriteTx_ok looked with ⟨-, impossible⟩ | ⟨other, read, there, parsed, same⟩
  · cases impossible
  · cases same
    rw [here] at there
    cases there
    rcases (shape.favorites key row stored).state with ⟨-, kept, present, -, canonical⟩ | ⟨delete, -⟩
    · rw [here] at present
      cases present
      rw [protocolSnapshot_of_read canonical parsed]
      exact sendable
    · rw [upsert] at delete
      cases delete

omit [ContentTables] in
theorem validateEventId_text [UuidParser] {id : Uuid} (seven : id.getVersionNum = 7) :
    Server.validateEventId id.text = .ok () := by
  unfold Server.validateEventId
  rw [UuidParser.parse_text]
  simp [seven]

omit [ContentTables] in
theorem validateContentKey_toHex (key : ContentKey) :
    Server.validateContentKey key.toHex = .ok () := by
  unfold Server.validateContentKey
  rw [ContentKey.fromStr_toHex]

omit [ContentTables] in
/-- The statistics a push carries are counted and in order. -/
theorem validateStats_sent (ordered : Counted OrderedCount db) {event : PushEvent}
    {key : ContentKey} (carried : event.queryStats = sentStats (db.queryStats.get key))
    (present : event.operation = .queryStatsUpsert → event.queryStats ≠ none) :
    Server.validateStats event = .ok () := by
  unfold Server.validateStats
  cases sent : event.queryStats with
  | none =>
      dsimp only
      rw [if_neg]
      intro stats
      exact present stats sent
  | some snapshot =>
      rw [sent] at carried
      unfold sentStats at carried
      split at carried
      · cases carried
      · rename_i stats stored
        split at carried
        · rename_i positive
          cases carried
          have order := ordered key stats stored positive
          dsimp only
          rw [if_neg]
          omega
        · cases carried

variable [UuidParser]

/-- Every event built from an Outbox row passes the server's checks. -/
theorem ValidInv.validateEvent (inv : ValidInv db) {coalesceKey : CoalesceKey} {row : OutboxRow}
    {sent : PushEvent} (stored : db.syncOutbox.get coalesceKey = some row)
    (built : pushEvent db ⟨row, coalesceKey⟩ = .ok sent) :
    Server.validateEvent sent = .ok () := by
  obtain ⟨issued, shape⟩ := inv.shape
  obtain ⟨found, snapshot, looked, rendered, present, same⟩ := pushEvent_ok built
  have version := inv.sentVersion looked
  have operation : Server.validateOperation sent = .ok () := by
    rw [same]
    unfold Server.validateOperation
    dsimp only
    cases kind : row.operation with
    | favoriteUpsert =>
        obtain ⟨key, rfl⟩ : ∃ key, coalesceKey = .favorite key := by
          cases coalesceKey with
          | favorite key => exact ⟨key, rfl⟩
          | queryStats deviceId key =>
              have stats := (shape.stats deviceId key row stored).operation
              rw [kind] at stats
              cases stats
        have keyed := (shape.favorites key row stored).contentKey
        obtain ⟨value, rfl, sendable⟩ := inv.sentSnapshot stored kind (keyed ▸ looked) rendered
        exact sendable _ (by rw [← keyed]) version
    | favoriteDelete =>
        rw [kind] at rendered
        cases rendered
        rfl
    | queryStatsUpsert =>
        rw [kind] at rendered
        cases rendered
        rfl
  have statistics : Server.validateStats sent = .ok () := by
    refine @validateStats_sent _ inv.ordered sent row.contentKey (by rw [same]) ?_
    rw [same]
    exact fun stats => present (protocolOperation_stats stats)
  unfold Server.validateEvent
  rw [show sent.eventId = row.eventId.text by rw [same],
    validateEventId_text (inv.ids coalesceKey row stored),
    show sent.contentKey = row.contentKey.toHex by rw [same], validateContentKey_toHex,
    show sent.keyVersion = contentKeyVersion by rw [same]; exact version, operation, statistics]
  rfl

/-- In every profile reached by steps that meet the condition, the server takes every
event that an Outbox row is sent as. -/
theorem validators_agree (profileId : Uuid) (deviceId : String) (now : Int)
    (actions : List ProfileAction) (last : ProfileDb)
    (reached : Transition.run profileStep (ProfileDb.initial profileId deviceId now) actions =
      some last)
    (safe : Transition.Meets profileStep (fun db action => validates db action = true)
      (ProfileDb.initial profileId deviceId now) actions)
    (coalesceKey : CoalesceKey) (row : OutboxRow) (sent : PushEvent)
    (stored : last.syncOutbox.get coalesceKey = some row)
    (built : pushEvent last ⟨row, coalesceKey⟩ = .ok sent) :
    Server.validateEvent sent = .ok () :=
  (Transition.run_keeps_of_meets (fun _ _ _ inv meets taken => inv.step meets taken) actions _
    last (ValidInv.initial profileId deviceId now) safe reached).validateEvent stored built

end Event

end Profile

section Runs

attribute [local instance] Sample.tables Sample.parser

/-- The profile of a new Device. -/
def deskProfile : ProfileDb := ProfileDb.initial (Sample.eventId 0) "desk" 50

/-- The clock goes back between two queries: the statistics of the pending Favorite
end before they begin. -/
theorem clock_back_is_refused :
    ∃ last row sent,
      Transition.run profileStep deskProfile
        [.call (.query (Sample.gift 100) (Sample.eventId 1)),
          .call (.query (Sample.gift 90) (Sample.eventId 2)),
          .call (.favorite Sample.giftKey 101 (Sample.eventId 3))] = some last ∧
      last.syncOutbox.get (.favorite Sample.giftKey) = some row ∧
      pushEvent last ⟨row, .favorite Sample.giftKey⟩ = .ok sent ∧
      Server.validateEvent sent = .error "query statistics are invalid" := by
  have facts : (Transition.run profileStep deskProfile
      [.call (.query (Sample.gift 100) (Sample.eventId 1)),
        .call (.query (Sample.gift 90) (Sample.eventId 2)),
        .call (.favorite Sample.giftKey 101 (Sample.eventId 3))]).any (fun last =>
      (last.syncOutbox.get (.favorite Sample.giftKey)).any (fun row =>
        match pushEvent last ⟨row, .favorite Sample.giftKey⟩ with
        | .ok sent => Server.validateEvent sent = .error "query statistics are invalid"
        | .error _ => false)) = true := by
    decide +kernel
  obtain ⟨last, ran, rows⟩ := (Option.any_eq_true _ _).mp facts
  obtain ⟨row, stored, holds⟩ := (Option.any_eq_true _ _).mp rows
  split at holds
  · rename_i sent built
    exact ⟨last, row, sent, ran, stored, built, by simpa using holds⟩
  · cases holds

/-- With the clock going on, the Favorite of the same word is taken. -/
theorem validators_agree_gift :
    ∃ last row sent,
      Transition.run profileStep deskProfile
        [.call (.query (Sample.gift 100) (Sample.eventId 1)),
          .call (.query (Sample.gift 110) (Sample.eventId 2)),
          .call (.favorite Sample.giftKey 111 (Sample.eventId 3))] = some last ∧
      last.syncOutbox.get (.favorite Sample.giftKey) = some row ∧
      pushEvent last ⟨row, .favorite Sample.giftKey⟩ = .ok sent ∧
      Server.validateEvent sent = .ok () := by
  have facts : (Transition.run profileStep deskProfile
      [.call (.query (Sample.gift 100) (Sample.eventId 1)),
        .call (.query (Sample.gift 110) (Sample.eventId 2)),
        .call (.favorite Sample.giftKey 111 (Sample.eventId 3))]).any (fun last =>
      (last.syncOutbox.get (.favorite Sample.giftKey)).any (fun row =>
        match pushEvent last ⟨row, .favorite Sample.giftKey⟩ with
        | .ok _ => true
        | .error _ => false)) = true := by
    decide +kernel
  have safe : Transition.Meets profileStep (fun db action => validates db action = true)
      deskProfile
      [.call (.query (Sample.gift 100) (Sample.eventId 1)),
        .call (.query (Sample.gift 110) (Sample.eventId 2)),
        .call (.favorite Sample.giftKey 111 (Sample.eventId 3))] := by
    decide +kernel
  obtain ⟨last, ran, rows⟩ := (Option.any_eq_true _ _).mp facts
  obtain ⟨row, stored, holds⟩ := (Option.any_eq_true _ _).mp rows
  split at holds
  · rename_i sent built
    exact ⟨last, row, sent, ran, stored, built,
      validators_agree _ _ _ _ last ran safe _ row sent stored built⟩
  · cases holds

end Runs

end Lvos.System
