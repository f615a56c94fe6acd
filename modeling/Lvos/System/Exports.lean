import Lvos.Storage.Reimport
import Lvos.System.Validators

set_option autoImplicit false

namespace Lvos.System

open Lvos.Core Lvos.Sync Lvos.Storage
open Relational (Table)
open Transaction (bind_ok_iff toOption_eq_some_iff)

/-- A Provider result within the limits of an export, whenever it was made. -/
def textsAllowed (translation : TranslationSnapshot) : Bool :=
  translationAllowed { portableTranslation translation with updatedAt := 0 }

theorem translationAllowed_iff (translation : TranslationSnapshot) :
    translationAllowed (portableTranslation translation) = true ↔
      textsAllowed translation = true ∧ 0 ≤ translation.updatedAt := by
  unfold textsAllowed translationAllowed portableTranslation
  dsimp only
  simp only [le_refl, decide_true, Bool.and_true]
  rw [Bool.and_eq_true, decide_eq_true_iff]

section Reach

variable [ContentTables]

/-- The condition on a call: a query records a prepared content and a result within the
limits. An import checks its document itself. -/
def Call.portable : Call → Bool
  | .query entry _ => isPrepared entry.content && textsAllowed entry.translation
  | _ => true

omit [ContentTables] in
/-- The record has the texts of a Favorite the sender holds. The server may have set its
times. -/
def Holds (sender : ProfileDb) (record : FavoriteRecord) : Prop :=
  ∃ key favorite favoritedAt updatedAt, favoriteByKey sender key = .ok (some favorite) ∧
    record.contentKey = key.toHex ∧
    record.favorite = { protocolSnapshot favorite with
      favoritedAt := favoritedAt
      updatedAt := updatedAt }

/-- The Profiles that queries, Favorites, imports and pulls lead to; what is pulled was
pushed from such a Profile. -/
inductive Reachable : ProfileDb → Prop
  | initial (profileId : Uuid) (deviceId : String) (now : Int) :
      Reachable (ProfileDb.initial profileId deviceId now)
  | called {db : ProfileDb} (reachable : Reachable db) (call : Call)
      (portable : call.portable = true) : Reachable (call.perform db)
  | pulled {db : ProfileDb} (reachable : Reachable db) (changes : List SyncChange)
      (nextRevision : Nat) (now : Int) (senders : SyncChange → ProfileDb)
      (honest : ∀ change ∈ changes, Reachable (senders change))
      (held : ∀ change ∈ changes, Holds (senders change) change.favorite) :
      Reachable (applyRemotePage db changes nextRevision now).1

/-- A content and a translation the validator takes, times apart. -/
structure Portable (content : StoredContent) (translation : TranslationSnapshot) : Prop where
  content : ContentPortable content
  texts : textsAllowed translation = true

/-- The limits of the two validators are the same, and a prepared text stays as it is. -/
theorem contentPortable_of_isPrepared {content : StoredContent}
    (prepared : isPrepared content = true) : ContentPortable content := by
  unfold isPrepared at prepared
  split at prepared
  · rename_i value prepares
    have same : content = storedContent value := by simpa using prepared
    have limits : maxSourceCharacters = Server.maxSyncTextCharacters := rfl
    obtain ⟨-, short, -, shape⟩ := prepareContent_ok.mp prepares
    have source : value.sourceText = content.sourceText := by rw [same]; rfl
    have length : content.sourceText.length ≤ maxSourceCharacters := by
      rw [← source, shape, ← String.length_toList, String.toList_ofList]
      exact short
    have version : content.keyVersion = contentKeyVersion := by rw [same, shape]; rfl
    unfold ContentPortable validateContent portableContent
    dsimp only
    rw [if_neg (not_not.mpr version), if_neg (Nat.not_lt.mpr length), LanguageCode.parse_text]
    dsimp only
    rw [limits, prepares, portableKind_protocolName, ContentKey.fromStr_toHex]
    simp [bind, Except.bind, same, storedContent]
  · cases prepared

theorem contentPortable_of_validated {value : PortableContent} {content : StoredContent}
    (valid : validateContent value = .ok content) : ContentPortable content := by
  unfold validateContent at valid
  split at valid
  · cases valid
  · rename_i version
    split at valid
    · cases valid
    · rename_i length
      split at valid
      · cases valid
      · split at valid
        · cases valid
        · rename_i prepares
          obtain ⟨kind, -, afterKind⟩ := bind_ok_iff.mp valid
          split at afterKind
          · cases afterKind
          · split at afterKind
            · cases afterKind
            · rename_i consistent
              cases afterKind
              unfold ContentPortable validateContent portableContent
              dsimp only
              rw [if_neg version, if_neg length, LanguageCode.parse_text]
              dsimp only
              rw [prepares, portableKind_protocolName, ContentKey.fromStr_toHex]
              simp only [bind, Except.bind]
              rw [if_neg consistent]

/-- What a validated document brings is portable. -/
theorem portable_of_validated {value : PortableContent} {text : PortableTranslation}
    {content : StoredContent} {translation : TranslationSnapshot}
    (valid : validateContent value = .ok content)
    (translated : validateTranslation text = .ok translation) : Portable content translation := by
  refine ⟨contentPortable_of_validated valid, ?_⟩
  obtain ⟨allowed, targetLang, -, rfl⟩ := validateTranslation_iff.mp translated
  unfold textsAllowed portableTranslation
  unfold translationAllowed at allowed ⊢
  dsimp only
  rw [Bool.and_eq_true] at allowed ⊢
  exact ⟨allowed.1, decide_eq_true (le_refl 0)⟩

theorem Call.portable_entry {call : Call} (portable : call.portable = true) {entry : HistoryEntry}
    (given : call.input.queried entry ∨ call.input.imported entry) :
    Portable entry.content entry.translation := by
  cases call with
  | query queried eventId =>
      rcases given with rfl | impossible
      · unfold Call.portable at portable
        rw [Bool.and_eq_true] at portable
        exact ⟨contentPortable_of_isPrepared portable.1, portable.2⟩
      · exact impossible.elim
  | importData document now eventIds =>
      rcases given with impossible | ⟨validated, valid, imported⟩
      · exact impossible.elim
      · obtain ⟨-, histories, -, favorites, -⟩ := validateExport_iff.mp valid
        rcases imported with member | ⟨favorite, member, rfl⟩
        · obtain ⟨value, -, checked⟩ := Transaction.related_of_mem_right histories entry member
          obtain ⟨-, -, translated, content, -⟩ := validateHistory_iff.mp checked
          exact portable_of_validated content translated
        · obtain ⟨value, -, checked⟩ := Transaction.related_of_mem_right favorites favorite member
          obtain ⟨-, -, translated, content, -⟩ := validateFavorite_iff.mp checked
          exact portable_of_validated content translated
  | favorite key now eventId => rcases given with impossible | impossible <;> exact impossible.elim
  | unfavorite key now eventId => rcases given with impossible | impossible <;> exact impossible.elim
  | clearHistory => rcases given with impossible | impossible <;> exact impossible.elim

theorem Call.portable_archived {call : Call} {favorite : Favorite}
    (given : call.input.archived favorite) :
    Portable favorite.content favorite.translation ∧
      favorite.translation.updatedAt = favorite.updatedAt := by
  cases call with
  | importData document now eventIds =>
      obtain ⟨validated, valid, member⟩ := given
      obtain ⟨-, -, -, favorites, -⟩ := validateExport_iff.mp valid
      obtain ⟨value, -, checked⟩ := Transaction.related_of_mem_right favorites favorite member
      obtain ⟨-, dated, translated, content, same⟩ := validateFavorite_iff.mp checked
      refine ⟨portable_of_validated content translated, ?_⟩
      obtain ⟨-, targetLang, -, translation⟩ := validateTranslation_iff.mp translated
      rw [translation, same]
      exact dated
  | query entry eventId => exact given.elim
  | favorite key now eventId => exact given.elim
  | unfavorite key now eventId => exact given.elim
  | clearHistory => exact given.elim

/-- Every statistics row belongs to a history row or a Favorite. -/
def StatsKnown (db : ProfileDb) : Prop :=
  ∀ key stats, db.queryStats.get key = some stats →
    (db.historyEntries.get key).isSome = true ∨ (db.favorites.get key).isSome = true

omit [ContentTables] in
theorem StatsKnown.grown {db next : ProfileDb} (known : StatsKnown db)
    (history : ∀ key, (db.historyEntries.get key).isSome = true →
      (next.historyEntries.get key).isSome = true)
    (favorites : ∀ key, (db.favorites.get key).isSome = true →
      (next.favorites.get key).isSome = true)
    (counted : ∀ key stats, next.queryStats.get key = some stats →
      (∃ before, db.queryStats.get key = some before) ∨
        (next.historyEntries.get key).isSome = true ∨ (next.favorites.get key).isSome = true) :
    StatsKnown next := by
  intro key stats stored
  rcases counted key stats stored with ⟨before, old⟩ | new
  · rcases known key before old with recorded | favorited
    · exact Or.inl (history key recorded)
    · exact Or.inr (favorites key favorited)
  · exact new

omit [ContentTables] in
/-- A query counts and records the same content. -/
theorem counted_recorded {db : ProfileDb} {entry : HistoryEntry} {counted stats : QueryStats}
    {key : ContentKey}
    (stored : (db.queryStats.put entry.content.contentKey counted).get key = some stats) :
    (∃ before, db.queryStats.get key = some before) ∨
      ((db.historyEntries.put entry.content.contentKey entry).get key).isSome = true := by
  by_cases same : key = entry.content.contentKey
  · right
    rw [same, Table.get_put_self]
    rfl
  · left
    rw [Table.get_put_of_ne _ _ same] at stored
    exact ⟨stats, stored⟩

omit [ContentTables] in
theorem StatsKnown.localMove {db next : ProfileDb} {input : Input} (known : StatsKnown db)
    (move : LocalMove input db next) : StatsKnown next := by
  cases move with
  | history entry given changed =>
      subst changed
      exact known.grown (fun key => Table.isSome_get_put _ _ _) (fun _ => id)
        (fun key stats stored => Or.inl ⟨stats, stored⟩)
  | baseline entry given changed =>
      subst changed
      refine known.grown ?_ ?_ ?_
      · intro key present
        rw [insertHistory_get]
        split
        · rfl
        · exact present
      · intro key present
        rw [(insertHistory_apart db entry).1]
        exact present
      · intro key stats stored
        have presence := (insertHistory_counted db entry key).mp (by rw [stored]; rfl)
        rcases presence with rfl | old
        · refine Or.inr (Or.inl ?_)
          rw [insertHistory_get, if_pos rfl]
          rfl
        · exact Or.inl (Option.isSome_iff_exists.mp old)
  | counted entry counted given count outside changed =>
      subst changed
      refine known.grown (fun key => Table.isSome_get_put _ _ _) (fun _ => id) ?_
      intro key stats stored
      exact (counted_recorded stored).imp_right Or.inl
  | reported entry counted eventId favorite given new count inside unused changed =>
      subst changed
      refine known.grown (fun key => Table.isSome_get_put _ _ _) (fun _ => id) ?_
      intro key stats stored
      exact (counted_recorded stored).imp_right Or.inl
  | favorited target now eventId entry counted new present here inactive unused changed =>
      subst changed
      exact known.grown (fun _ => id) (fun key => Table.isSome_get_put _ _ _)
        (fun key stats stored => Or.inl ⟨stats, stored⟩)
  | archived favorite given absent deleted changed =>
      subst changed
      exact known.grown (fun _ => id) (fun key => Table.isSome_get_put _ _ _)
        (fun key stats stored => Or.inl ⟨stats, stored⟩)
  | folded target now favorite here active unsynced changed =>
      subst changed
      exact known.grown (fun _ => id) (fun key => Table.isSome_get_update _ _ _)
        (fun key stats stored => Or.inl ⟨stats, stored⟩)
  | withdrawn target now eventId favorite counted new here active synced unused changed =>
      subst changed
      exact known.grown (fun _ => id) (fun key => Table.isSome_get_update _ _ _)
        (fun key stats stored => Or.inl ⟨stats, stored⟩)
  | cleared changed =>
      subst changed
      intro key stats stored
      unfold clearHistory at stored
      dsimp only at stored
      rw [Table.get_delete, Option.filter_eq_some_iff] at stored
      have kept : (db.favorites.get key).isSome = true := by simpa using stored.2
      exact Or.inr kept

/-- What every reachable Profile keeps for an export. -/
structure ExportInv (db : ProfileDb) : Prop where
  history : ∀ key entry, db.historyEntries.get key = some entry →
    entry.content.contentKey = key ∧ Portable entry.content entry.translation
  favorites : ∀ key row, db.favorites.get key = some row → ∃ favorite,
    parseFavorite key row = .ok favorite ∧ Portable favorite.content favorite.translation
  stats : StatsKnown db

theorem ExportInv.initial (profileId : Uuid) (deviceId : String) (now : Int) :
    ExportInv (ProfileDb.initial profileId deviceId now) where
  history := by simp [ProfileDb.initial]
  favorites := by simp [ProfileDb.initial]
  stats := by
    intro key stats stored
    cases stored

theorem contentPortable_version {content : StoredContent} (portable : ContentPortable content) :
    content.keyVersion = contentKeyVersion := by
  unfold ContentPortable validateContent at portable
  split at portable
  · cases portable
  · rename_i current
    exact not_not.mp current

/-- A row that is read the same but for its times and its revision. -/
theorem parseFavorite_retimed {key : ContentKey} {row other : FavoriteRow} {favorite : Favorite}
    (parsed : parseFavorite key row = .ok favorite) (version : other.keyVersion = row.keyVersion)
    (texts : ∃ favoritedAt updatedAt, other.snapshot = { row.snapshot with
      favoritedAt := favoritedAt
      updatedAt := updatedAt })
    (portable : Portable favorite.content favorite.translation) :
    ∃ again, parseFavorite key other = .ok again ∧
      Portable again.content again.translation := by
  obtain ⟨favoritedAt, updatedAt, same⟩ := texts
  unfold parseFavorite readFavorite at parsed ⊢
  obtain ⟨kind, kindOk, afterKind⟩ := bind_ok_iff.mp parsed
  obtain ⟨sourceLang, sourceOk, afterSource⟩ := bind_ok_iff.mp afterKind
  obtain ⟨targetLang, targetOk, last⟩ := bind_ok_iff.mp afterSource
  cases last
  rw [same, version]
  dsimp only
  rw [kindOk, sourceOk, targetOk]
  exact ⟨_, rfl, portable.content, portable.texts⟩

section Steps

variable {db next : ProfileDb}

theorem ExportInv.localMove {input : Input} (inv : ExportInv db) (move : LocalMove input db next)
    (entries : ∀ entry, input.queried entry ∨ input.imported entry →
      Portable entry.content entry.translation)
    (archives : ∀ favorite, input.archived favorite →
      Portable favorite.content favorite.translation ∧
        favorite.translation.updatedAt = favorite.updatedAt) : ExportInv next := by
  refine ⟨?_, ?_, inv.stats.localMove move⟩
  · intro key entry stored
    rcases move.historyOrigin stored with old | ⟨given, keyed⟩
    · exact inv.history key entry old
    · exact ⟨keyed, entries entry given⟩
  · intro key row stored
    cases move.favoriteOrigin stored with
    | kept old => exact inv.favorites key row old
    | entered entry now revision known written =>
        obtain ⟨keyed, portable⟩ := inv.history key entry known
        refine ⟨favoriteOf entry now revision, ?_, portable.content, portable.texts⟩
        rw [written, ← keyed]
        exact parseFavorite_favoriteRowOf entry now revision
    | buried old now here written =>
        obtain ⟨favorite, parsed, portable⟩ := inv.favorites key old here
        rw [written]
        exact parseFavorite_retimed parsed rfl ⟨old.snapshot.favoritedAt, now, rfl⟩ portable
    | archived favorite given keyed deleted written =>
        obtain ⟨portable, dated⟩ := archives favorite given
        refine ⟨favorite.imported, ?_, portable.content, portable.texts⟩
        rw [written, ← keyed]
        exact parseFavorite_archivedRow dated

theorem ExportInv.perform {call : Call} (inv : ExportInv db) (portable : call.portable = true) :
    ExportInv (call.perform db) := by
  have moves := call.moves db
  generalize call.perform db = performed at moves
  induction moves with
  | refl => exact inv
  | tail _ move ih =>
      exact ih.localMove move (fun _ given => Call.portable_entry portable given)
        (fun _ given => Call.portable_archived given)

/-- A record that a Profile holds is written as a portable Favorite. -/
theorem ExportInv.held {sender : ProfileDb} (inv : ExportInv sender) {record : FavoriteRecord}
    {key : ContentKey} (held : Holds sender record) (keyed : record.contentKey = key.toHex)
    (version : record.keyVersion = contentKeyVersion) :
    ∃ favorite, parseFavorite key (remoteRow record) = .ok favorite ∧
      Portable favorite.content favorite.translation := by
  obtain ⟨other, favorite, favoritedAt, updatedAt, read, named, texts⟩ := held
  obtain rfl : other = key := ContentKey.toHex_injective (named.symm.trans keyed)
  obtain ⟨row, stored, reading⟩ := favoriteByKey_some read
  obtain ⟨again, parsed, portable⟩ := inv.favorites other row stored
  rw [reading] at parsed
  cases parsed
  have own := parseFavorite_key reading
  have current := contentPortable_version portable.content
  have content : StoredContent.mk other record.keyVersion favorite.content.kind
      favorite.content.sourceLang favorite.content.sourceText favorite.content.canonicalText =
      favorite.content := by
    rw [version, ← current, ← own]
  unfold parseFavorite readFavorite remoteRow protocolSnapshot at *
  rw [texts]
  dsimp only
  rw [parseKind_protocolName, parseLanguage_text, parseLanguage_text]
  refine ⟨_, rfl, ?_, portable.texts⟩
  rw [content]
  exact portable.content

theorem ExportInv.change {change : SyncChange} {now : Int} (inv : ExportInv db)
    {sender : ProfileDb} (honest : ExportInv sender) (held : Holds sender change.favorite)
    (applied : applyRemoteChange db change now = .ok next) : ExportInv next := by
  obtain ⟨key, keyed, valid, pulled⟩ := applyRemoteChange_ok applied
  have moved := applyRemoteChange_moved keyed applied
  have present : (next.favorites.get key).isSome = true := by
    cases pulled with
    | written table idle kept changed =>
        rw [changed, Table.get_put_self]
        rfl
    | converged table row localValue pending found reached kept changed =>
        rw [changed, Table.get_put_self]
        rfl
    | rebased table row localValue pending found apart kept changed =>
        rcases localFavorite_ok found with ⟨-, impossible⟩ | ⟨before, favorite, stored, -, -⟩
        · cases impossible
        · rw [changed]
          exact setEntityRevision_present db key _ (by rw [stored]; rfl)
  refine ⟨?_, ?_, ?_⟩
  · rw [pulled.historyEntries]
    exact inv.history
  · intro other row stored
    by_cases same : other = key
    · subst same
      cases pulled.key with
      | written favorites outbox =>
          rw [favorites] at stored
          cases stored
          exact honest.held held keyed (validateRemote_version valid)
      | adopted old newer queued outbox favorites eventId contentKey operation createdAt base =>
          rw [favorites] at stored
          obtain ⟨before, here, rfl⟩ := Option.map_eq_some_iff.mp stored
          obtain ⟨favorite, parsed, portable⟩ := inv.favorites other before here
          exact parseFavorite_retimed parsed rfl ⟨_, _, rfl⟩ portable
    · rw [pulled.favorites_apart same] at stored
      exact inv.favorites other row stored
  · intro other stats stored
    by_cases same : other = key
    · exact Or.inr (same ▸ present)
    · rw [moved.apart other same] at stored
      rw [pulled.historyEntries, pulled.favorites_apart same]
      exact inv.stats other stats stored

theorem ExportInv.page {changes : List SyncChange} {nextRevision : Nat} {now : Int}
    (inv : ExportInv db) (senders : SyncChange → ProfileDb)
    (honest : ∀ change ∈ changes, ExportInv (senders change))
    (held : ∀ change ∈ changes, Holds (senders change) change.favorite) :
    ExportInv (applyRemotePage db changes nextRevision now).1 := by
  unfold applyRemotePage
  cases body : applyRemotePageBody changes nextRevision now db with
  | error reason =>
      rw [Transaction.atomically_of_error body]
      exact inv
  | ok pair =>
      obtain ⟨after, done⟩ := pair
      rw [Transaction.atomically_of_ok body]
      obtain ⟨last, looped, rfl⟩ := applyRemotePage_ok body
      have reached := applyRemoteLoop_turns (fun rest db last =>
          (∀ change ∈ rest, change ∈ changes) → ExportInv db → ExportInv last)
        (fun _ _ here => here)
        (fun change rest db middle last head tail listed here =>
          tail (fun other member => listed other (List.mem_cons_of_mem change member))
            (here.change (honest change (listed change List.mem_cons_self))
              (held change (listed change List.mem_cons_self)) head))
        changes db last _ _ looped (fun _ member => member) inv
      exact ⟨reached.history, reached.favorites, reached.stats⟩

end Steps

theorem Reachable.inv {db : ProfileDb} (reachable : Reachable db) : ExportInv db := by
  induction reachable with
  | initial profileId deviceId now => exact .initial profileId deviceId now
  | called _ call portable inv => exact inv.perform portable
  | pulled _ changes nextRevision now senders _ held inv honest =>
      exact inv.page senders honest held

/-- What the operations do not keep and an import asks for: a name that may be shown, times
in order, and the same source text in the history row and the Favorite of a content. -/
structure Coherent (db : ProfileDb) (username : Option String) : Prop where
  label : username.all (labelAllowed maxUsernameBytes) = true
  history : ∀ key entry, db.historyEntries.get key = some entry →
    0 ≤ entry.translation.updatedAt ∧ entry.translation.updatedAt ≤ entry.lastQueriedAt
  favorites : ∀ key favorite, favoriteByKey db key = .ok (some favorite) →
    0 ≤ favorite.createdAt ∧ favorite.createdAt ≤ favorite.updatedAt ∧
      ∀ deletedAt, favorite.deletedAt = some deletedAt → favorite.updatedAt ≤ deletedAt
  contents : ∀ key favorite entry, favoriteByKey db key = .ok (some favorite) →
    db.historyEntries.get key = some entry →
    entry.content.sourceText = favorite.content.sourceText ∧
      entry.content.sourceLang = favorite.content.sourceLang
  stats : ∀ key stats, db.queryStats.get key = some stats →
    0 ≤ stats.earliest ∧ stats.earliest ≤ stats.latest

theorem contentPortable_prepared {content : StoredContent} (portable : ContentPortable content) :
    ∃ prepared, prepareContent content.sourceText content.sourceLang maxSourceCharacters =
      .ok prepared ∧ content = storedContent prepared := by
  unfold ContentPortable validateContent portableContent at portable
  dsimp only at portable
  rw [LanguageCode.parse_text, portableKind_protocolName, ContentKey.fromStr_toHex] at portable
  split at portable
  · cases portable
  · split at portable
    · cases portable
    · dsimp only at portable
      split at portable
      · cases portable
      · rename_i prepared prepares
        refine ⟨prepared, prepares, ?_⟩
        simp only [bind, Except.bind] at portable
        split at portable
        · cases portable
        · rename_i consistent
          simp only [ne_eq, not_or, not_not] at consistent
          obtain ⟨key, version, kind, source, canonical⟩ := consistent
          obtain ⟨lang, -⟩ := prepareContent_lang prepares
          cases content
          simp only [storedContent, key, version, kind, source, canonical, lang]

/-- A portable content is the one its source text prepares to. -/
theorem contentPortable_determined {first second : StoredContent}
    (firstPortable : ContentPortable first) (secondPortable : ContentPortable second)
    (text : first.sourceText = second.sourceText) (lang : first.sourceLang = second.sourceLang) :
    first = second := by
  obtain ⟨prepared, prepares, same⟩ := contentPortable_prepared firstPortable
  obtain ⟨other, again, equal⟩ := contentPortable_prepared secondPortable
  rw [text, lang, again] at prepares
  cases prepares
  rw [same, equal]

section Export

variable {db : ProfileDb} {username : Option String} {favorites : List Favorite}

omit [ContentTables] in
/-- The exported Favorites are those that can be read. -/
theorem mem_exported_iff
    (parsed : List.Forall₂ (fun row favorite => parseFavorite row.1 row.2 = .ok favorite)
      (byContentKey db.favorites) favorites) (favorite : Favorite) :
    favorite ∈ favorites ↔
      favoriteByKey db favorite.content.contentKey = .ok (some favorite) := by
  constructor
  · intro member
    obtain ⟨⟨key, row⟩, listed, reading⟩ := Transaction.related_of_mem_right parsed favorite member
    rw [parseFavorite_key reading]
    exact favoriteByKey_of_row ((mem_byContentKey _ key row).mp listed) reading
  · exact mem_of_read parsed

omit [ContentTables] in
theorem parseFavorite_dated {key : ContentKey} {row : FavoriteRow} {favorite : Favorite}
    (parsed : parseFavorite key row = .ok favorite) :
    favorite.translation.updatedAt = favorite.updatedAt := by
  unfold parseFavorite readFavorite at parsed
  obtain ⟨kind, -, afterKind⟩ := bind_ok_iff.mp parsed
  obtain ⟨sourceLang, -, afterSource⟩ := bind_ok_iff.mp afterKind
  obtain ⟨targetLang, -, last⟩ := bind_ok_iff.mp afterSource
  cases last
  rfl

omit [ContentTables] in
theorem favoriteTimes_iff (favorite : Favorite) :
    favoriteTimesAllowed (portableFavorite favorite) = true ↔
      0 ≤ favorite.createdAt ∧ favorite.createdAt ≤ favorite.updatedAt ∧
        ∀ deletedAt, favorite.deletedAt = some deletedAt → favorite.updatedAt ≤ deletedAt := by
  unfold favoriteTimesAllowed portableFavorite
  cases favorite.deletedAt with
  | none =>
      simp
      omega
  | some deletedAt =>
      simp
      omega

/-- An import accepts what a Profile with the invariant exports exactly when the Profile is
coherent. -/
theorem acceptable_iff (inv : ExportInv db)
    (parsed : List.Forall₂ (fun row favorite => parseFavorite row.1 row.2 = .ok favorite)
      (byContentKey db.favorites) favorites) :
    Acceptable db username favorites ↔ Coherent db username := by
  have filed : HistoryFiled db := fun key entry stored => (inv.history key entry stored).1
  have listed := fun entry => mem_exportedHistory filed entry
  have exported := fun favorite => mem_exported_iff parsed favorite
  have favoritePortable : ∀ favorite ∈ favorites,
      Portable favorite.content favorite.translation := by
    intro favorite member
    obtain ⟨row, stored, reading⟩ := favoriteByKey_some ((exported favorite).mp member)
    obtain ⟨again, parsed, portable⟩ := inv.favorites _ row stored
    rw [reading] at parsed
    cases parsed
    exact portable
  have dated : ∀ favorite ∈ favorites, favorite.translation.updatedAt = favorite.updatedAt := by
    intro favorite member
    obtain ⟨row, -, reading⟩ := favoriteByKey_some ((exported favorite).mp member)
    exact parseFavorite_dated reading
  constructor
  · intro acceptable
    refine ⟨acceptable.label, ?_, ?_, ?_, ?_⟩
    · intro key entry stored
      have own := filed key entry stored
      have portable := acceptable.history entry ((listed entry).mpr (own.symm ▸ stored))
      exact ⟨((translationAllowed_iff _).mp portable.translation).2, portable.ordered.2⟩
    · intro key favorite read
      have member := mem_of_read parsed read
      exact (favoriteTimes_iff favorite).mp (acceptable.listed favorite member).ordered
    · intro key favorite entry read stored
      have own := filed key entry stored
      obtain ⟨row, -, reading⟩ := favoriteByKey_some read
      have same := acceptable.content favorite (mem_of_read parsed read) entry
        ((listed entry).mpr (own.symm ▸ stored)) (own.trans (parseFavorite_key reading).symm)
      exact ⟨congrArg StoredContent.sourceText same, congrArg StoredContent.sourceLang same⟩
    · intro key stats stored
      exact (acceptable.archives (key, stats) ((mem_byContentKey _ key stats).mpr stored)).2
  · intro coherent
    refine ⟨coherent.label, ?_, ?_, ?_, ?_⟩
    · intro entry member
      have stored := (listed entry).mp member
      obtain ⟨-, portable⟩ := inv.history _ entry stored
      obtain ⟨positive, ordered⟩ := coherent.history _ entry stored
      exact ⟨portable.content, (translationAllowed_iff _).mpr ⟨portable.texts, positive⟩,
        le_trans positive ordered, ordered⟩
    · intro favorite member
      obtain ⟨content, texts⟩ := favoritePortable favorite member
      have times := coherent.favorites _ favorite ((exported favorite).mp member)
      have positive : 0 ≤ favorite.translation.updatedAt := by
        rw [dated favorite member]
        exact le_trans times.1 times.2.1
      exact ⟨content, (translationAllowed_iff _).mpr ⟨texts, positive⟩, dated favorite member,
        (favoriteTimes_iff favorite).mpr times⟩
    · intro favorite member entry inside keyed
      have read := (exported favorite).mp member
      have stored := (listed entry).mp inside
      rw [keyed] at stored
      obtain ⟨text, lang⟩ := coherent.contents _ favorite entry read stored
      exact contentPortable_determined (inv.history _ entry stored).2.content
        (favoritePortable favorite member).content text lang
    · rintro ⟨key, stats⟩ member
      have stored := (mem_byContentKey _ key stats).mp member
      refine ⟨List.mem_append.mpr ?_, coherent.stats key stats stored⟩
      rcases inv.stats key stats stored with recorded | favorited
      · obtain ⟨entry, found⟩ := Option.isSome_iff_exists.mp recorded
        have own := filed key entry found
        exact Or.inl (List.mem_map.mpr ⟨entry, (listed entry).mpr (own.symm ▸ found), own⟩)
      · obtain ⟨row, found⟩ := Option.isSome_iff_exists.mp favorited
        obtain ⟨favorite, reading, -⟩ := inv.favorites key row found
        exact Or.inr (List.mem_map.mpr
          ⟨favorite, mem_of_read parsed (favoriteByKey_of_row found reading),
            parseFavorite_key reading⟩)

theorem ExportInv.readable (inv : ExportInv db) (key : ContentKey) : Readable db key := by
  cases stored : db.favorites.get key with
  | none =>
      refine ⟨none, ?_⟩
      unfold favoriteByKey favoriteTx
      rw [stored]
  | some row =>
      obtain ⟨favorite, reading, -⟩ := inv.favorites key row stored
      exact ⟨some favorite, favoriteByKey_of_row stored reading⟩

variable {json : PortableJson} {bytes : List UInt8}

omit [ContentTables] in
/-- The bytes of an export are its document as it is written, within the limit. -/
theorem exportPortableJson_ok (exported : exportPortableJson json db username = .ok bytes) :
    ∃ document, exportDocument db username = .ok document ∧ bytes = json.toVecPretty document ∧
      bytes.length ≤ maxPortableJsonBytes := by
  unfold exportPortableJson at exported
  obtain ⟨document, built, afterDocument⟩ := bind_ok_iff.mp exported
  split at afterDocument
  · cases afterDocument
  · rename_i short
    cases afterDocument
    exact ⟨document, built, rfl, by omega⟩

omit [ContentTables] in
theorem exportPortableJson_of_document {document : PortableDataExport}
    (built : exportDocument db username = .ok document)
    (short : (json.toVecPretty document).length ≤ maxPortableJsonBytes) :
    exportPortableJson json db username = .ok (json.toVecPretty document) := by
  unfold exportPortableJson
  refine bind_ok_iff.mpr ⟨document, built, ?_⟩
  rw [if_neg (Nat.not_lt.mpr short)]

/-- A preview of written bytes is one of the document they were written from. -/
theorem previewPortableImport_iff {target : ProfileDb} {document : PortableDataExport}
    (written : json.RoundTrips document)
    (short : (json.toVecPretty document).length ≤ maxPortableJsonBytes)
    {plan : PreviewedImport} :
    previewPortableImport json target (json.toVecPretty document) = .ok plan ↔
      ∃ validated preview, validateExport document = .ok validated ∧
        previewMerge target validated = .ok preview ∧
        plan = ⟨⟨target.profileMeta.profileId, validated⟩, preview⟩ := by
  unfold previewPortableImport
  rw [if_neg (Nat.not_lt.mpr short), if_neg written.1, written.2]
  dsimp only
  rw [bind_ok_iff]
  constructor
  · rintro ⟨validated, valid, afterValid⟩
    obtain ⟨preview, merged, same⟩ := bind_ok_iff.mp afterValid
    cases same
    exact ⟨validated, preview, valid, merged, rfl⟩
  · rintro ⟨validated, preview, valid, merged, rfl⟩
    exact ⟨validated, valid, bind_ok_iff.mpr ⟨preview, merged, rfl⟩⟩

/-- What a reachable Profile exports is accepted by every reachable Profile exactly when the
exporting one is coherent. -/
theorem export_importable_iff (reachable : Reachable db)
    (exported : exportPortableJson json db username = .ok bytes)
    (written : ∀ document, exportDocument db username = .ok document → json.RoundTrips document) :
    (∀ target, Reachable target → ∃ plan, previewPortableImport json target bytes = .ok plan) ↔
      Coherent db username := by
  obtain ⟨document, built, rfl, short⟩ := exportPortableJson_ok exported
  obtain ⟨few, favorites, parsed, same⟩ := exportDocument_ok built
  have inv := reachable.inv
  have filed : HistoryFiled db := fun key entry stored => (inv.history key entry stored).1
  constructor
  · intro everywhere
    obtain ⟨plan, previewed⟩ := everywhere db reachable
    obtain ⟨validated, -, valid, -⟩ :=
      (previewPortableImport_iff (written document built) short).mp previewed
    have acceptable := ((validateExport_exported filed few parsed same).mp valid).2
    exact (acceptable_iff inv parsed).mp acceptable
  · intro coherent target visited
    have valid := (validateExport_exported filed few parsed same).mpr
      ⟨rfl, (acceptable_iff inv parsed).mpr coherent⟩
    obtain ⟨preview, merged⟩ := (previewFavorites_readable target (exportedPlan db favorites)
      (exportedPlan db favorites).favorites _).mpr (fun _ _ => visited.inv.readable _)
    exact ⟨_, (previewPortableImport_iff (written document built) short).mpr
      ⟨_, preview, valid, merged, rfl⟩⟩

/-- An accepted export, imported into an empty Profile, gives its Favorites and its history
back exactly when each active Favorite has the translation of its history row. -/
theorem import_preserves_iff (filed : HistoryFiled db)
    (exported : exportPortableJson json db username = .ok bytes)
    (written : ∀ document, exportDocument db username = .ok document → json.RoundTrips document)
    {profileId : Uuid} {deviceId : String} {created : Int} {plan : PreviewedImport}
    (accepted : previewPortableImport json (ProfileDb.initial profileId deviceId created) bytes =
      .ok plan)
    (now : Int) (eventIds : ContentKey → Uuid)
    (distinct : (plan.document.favorites.map (fun favorite =>
      eventIds favorite.content.contentKey)).Nodup) :
    ∃ next result, applyPortableImport (ProfileDb.initial profileId deviceId created)
        plan.toPortableImportPlan now eventIds = (next, .ok result) ∧
      (Preserved db next ↔ TranslationsAgree db) := by
  obtain ⟨document, built, rfl, short⟩ := exportPortableJson_ok exported
  obtain ⟨few, favorites, parsed, same⟩ := exportDocument_ok built
  obtain ⟨validated, preview, valid, -, rfl⟩ :=
    (previewPortableImport_iff (written document built) short).mp accepted
  obtain ⟨rfl, acceptable⟩ := (validateExport_exported filed few parsed same).mp valid
  have historyNodup : ((exportedPlan db favorites).history.map (fun entry =>
      entry.content.contentKey)).Nodup := by
    dsimp only [exportedPlan]
    rw [exportedHistory_keys filed]
    exact byContentKey_nodup _
  have favoriteNodup : ((exportedPlan db favorites).favorites.map (fun favorite =>
      favorite.content.contentKey)).Nodup := by
    dsimp only [exportedPlan]
    rw [imported_keys, parsed_keys parsed]
    exact byContentKey_nodup _
  obtain ⟨next, result, applied, histories, rebuilt⟩ := applyPortableImport_rebuilds rfl
    historyNodup favoriteNodup profileId deviceId created now distinct
  exact ⟨next, result, applied, preserved_iff filed parsed acceptable histories rebuilt⟩

end Export

end Reach

section Concrete

attribute [local instance] Sample.tables Sample.parser

/-- The word with a spelling and a translation, looked up at time `now`. -/
def lookedUp (sourceText translation : String) (now : Int) : HistoryEntry :=
  ⟨⟨Sample.giftKey, 1, .word, Sample.english, sourceText, "gift"⟩,
    ⟨Sample.chinese, translation, "tokenhub", now⟩, now⟩

/-- A Profile in which the word was looked up, favorited, and looked up again. -/
def lookedUpTwice (sourceText translation : String) : ProfileDb :=
  (Call.query (lookedUp sourceText translation 62) (Sample.eventId 3)).perform
    ((Call.favorite Sample.giftKey 61 (Sample.eventId 2)).perform
      ((Call.query (lookedUp "gift" "礼物" 60) (Sample.eventId 1)).perform
        (ProfileDb.initial (Sample.eventId 0) "desk" 50)))

theorem lookedUpTwice_reachable {sourceText translation : String}
    (allowed : (Call.query (lookedUp sourceText translation 62) (Sample.eventId 3)).portable =
      true) : Reachable (lookedUpTwice sourceText translation) := by
  have first : (Call.query (lookedUp "gift" "礼物" 60) (Sample.eventId 1)).portable = true := by
    decide
  exact ((((Reachable.initial (Sample.eventId 0) "desk" 50).called _ first).called
    (.favorite Sample.giftKey 61 (Sample.eventId 2)) rfl).called _ allowed)

/-- The JSON library on the export of such a Profile. -/
def lookedUpJson (sourceText translation : String) : PortableJson :=
  prettyJson (exportDocument (lookedUpTwice sourceText translation) (some "user")).toOption

theorem lookedUpJson_roundTrips (sourceText translation : String) (document : PortableDataExport)
    (built : exportDocument (lookedUpTwice sourceText translation) (some "user") = .ok document) :
    (lookedUpJson sourceText translation).RoundTrips document := by
  unfold lookedUpJson
  rw [built]
  exact prettyJson_roundTrips document

/-- The Profile an export is imported into. -/
def emptyProfile : ProfileDb := ProfileDb.initial (Sample.eventId 4) "phone" 70

theorem emptyProfile_reachable : Reachable emptyProfile :=
  .initial (Sample.eventId 4) "phone" 70

/-- The translation that a Profile shows for the word while it is a Favorite. -/
def shownTranslation (db : ProfileDb) : Option String :=
  ((favoriteByKey db Sample.giftKey).toOption.join.filter (fun favorite =>
    favorite.deletedAt.isNone)).map (fun favorite => favorite.translation.translation)

/-- What is evaluated of an export. -/
theorem lookedUp_facts {sourceText translation : String} {holds : PortableDataExport → Bool}
    (facts : (exportDocument (lookedUpTwice sourceText translation) (some "user")).toOption.any
      (fun document => (Hex.utf8 (document.pretty 0)).length ≤ maxPortableJsonBytes ∧
        holds document = true) = true) :
    ∃ document, exportDocument (lookedUpTwice sourceText translation) (some "user") =
        .ok document ∧
      ((lookedUpJson sourceText translation).toVecPretty document).length ≤
        maxPortableJsonBytes ∧
      holds document = true := by
  obtain ⟨document, found, both⟩ := (Option.any_eq_true _ _).mp facts
  obtain ⟨short, rest⟩ := of_decide_eq_true both
  exact ⟨document, toOption_eq_some_iff.mp found, short, rest⟩

/-- The exports of the word with another spelling, with nothing else and with another
translation. -/
theorem lookedUpTwice_runs :
    (exportDocument (lookedUpTwice "Gift" "礼物") (some "user")).toOption.any
      (fun document => (Hex.utf8 (document.pretty 0)).length ≤ maxPortableJsonBytes ∧
        (validateExport document).toOption.isNone = true) = true ∧
    (exportDocument (lookedUpTwice "gift" "礼物") (some "user")).toOption.any
      (fun document => (Hex.utf8 (document.pretty 0)).length ≤ maxPortableJsonBytes ∧
        (validateExport document).toOption.any (fun validated =>
          (validated.favorites.map (fun _ => Sample.eventId 5)).Nodup) = true) = true ∧
    (exportDocument (lookedUpTwice "gift" "天赋") (some "user")).toOption.any
      (fun document => (Hex.utf8 (document.pretty 0)).length ≤ maxPortableJsonBytes ∧
        (validateExport document).toOption.any (fun validated =>
          let applied := applyPortableImport emptyProfile
            ⟨emptyProfile.profileMeta.profileId, validated⟩ 71 (fun _ => Sample.eventId 5)
          applied.2.toOption.isSome ∧ shownTranslation applied.1 = some "天赋") = true) = true := by
  decide +kernel

/-- The word is favorited as it was first spelled and then queried with a capital letter. The
export is written, and no Profile takes it. -/
theorem respelled_export_is_refused :
    Reachable (lookedUpTwice "Gift" "礼物") ∧
    (∀ document, exportDocument (lookedUpTwice "Gift" "礼物") (some "user") = .ok document →
      (lookedUpJson "Gift" "礼物").RoundTrips document) ∧
    ∃ bytes, exportPortableJson (lookedUpJson "Gift" "礼物") (lookedUpTwice "Gift" "礼物")
        (some "user") = .ok bytes ∧
      ∀ target plan, previewPortableImport (lookedUpJson "Gift" "礼物") target bytes ≠ .ok plan := by
  refine ⟨lookedUpTwice_reachable (by decide +kernel), lookedUpJson_roundTrips _ _, ?_⟩
  obtain ⟨document, built, short, refused⟩ := lookedUp_facts lookedUpTwice_runs.1
  refine ⟨_, exportPortableJson_of_document built short, ?_⟩
  intro target plan previewed
  obtain ⟨validated, -, valid, -⟩ := (previewPortableImport_iff
    (lookedUpJson_roundTrips "Gift" "礼物" document built) short).mp previewed
  rw [valid] at refused
  cases refused

theorem export_importable_word : Coherent (lookedUpTwice "gift" "礼物") (some "user") ∧
    ∃ bytes, exportPortableJson (lookedUpJson "gift" "礼物") (lookedUpTwice "gift" "礼物")
        (some "user") = .ok bytes ∧
      ∀ target, Reachable target →
        ∃ plan, previewPortableImport (lookedUpJson "gift" "礼物") target bytes = .ok plan := by
  obtain ⟨document, built, short, accepted⟩ := lookedUp_facts lookedUpTwice_runs.2.1
  have reachable : Reachable (lookedUpTwice "gift" "礼物") :=
    lookedUpTwice_reachable (by decide +kernel)
  have exported := exportPortableJson_of_document built short
  have importable := export_importable_iff reachable exported (lookedUpJson_roundTrips _ _)
  have coherent : Coherent (lookedUpTwice "gift" "礼物") (some "user") := by
    obtain ⟨few, favorites, parsed, same⟩ := exportDocument_ok built
    have inv := reachable.inv
    obtain ⟨validated, found, -⟩ := (Option.any_eq_true _ _).mp accepted
    have valid := toOption_eq_some_iff.mp found
    obtain ⟨-, acceptable⟩ := (validateExport_exported
      (fun key entry stored => (inv.history key entry stored).1) few parsed same).mp valid
    exact (acceptable_iff inv parsed).mp acceptable
  exact ⟨coherent, _, exported, importable.mpr coherent⟩

theorem shownTranslation_preserved {before after : ProfileDb} (preserved : Preserved before after)
    {translation : String} (shown : shownTranslation before = some translation) :
    shownTranslation after = some translation := by
  obtain ⟨favorite, kept, rfl⟩ := Option.map_eq_some_iff.mp shown
  obtain ⟨joined, active⟩ := Option.filter_eq_some_iff.mp kept
  have read := toOption_eq_some_iff.mp (Option.join_eq_some_iff.mp joined)
  have present : favorite.deletedAt = none := Option.isNone_iff_eq_none.mp active
  obtain ⟨again, reread, status, same⟩ := preserved.favorites Sample.giftKey (some favorite) read
  obtain ⟨other, rfl, -, translated⟩ := same favorite rfl present
  have still : other.deletedAt = none := by
    simpa [favoriteStatus, present] using status
  unfold shownTranslation
  rw [reread]
  simp [Except.toOption, Option.filter, still, translated.2.1]

/-- The word is favorited with one translation and then queried with another one. The import
of the export has the Favorite with the other translation. -/
theorem refreshed_favorite_is_replaced : ∃ bytes plan next result,
    exportPortableJson (lookedUpJson "gift" "天赋") (lookedUpTwice "gift" "天赋") (some "user") =
      .ok bytes ∧
    previewPortableImport (lookedUpJson "gift" "天赋") emptyProfile bytes = .ok plan ∧
    applyPortableImport emptyProfile plan.toPortableImportPlan 71 (fun _ => Sample.eventId 5) =
      (next, .ok result) ∧
    shownTranslation (lookedUpTwice "gift" "天赋") = some "礼物" ∧
    shownTranslation next = some "天赋" ∧
    ¬ Preserved (lookedUpTwice "gift" "天赋") next := by
  obtain ⟨document, built, short, imported⟩ := lookedUp_facts lookedUpTwice_runs.2.2
  obtain ⟨validated, accepted, both⟩ := (Option.any_eq_true _ _).mp imported
  obtain ⟨succeeded, shown⟩ := of_decide_eq_true both
  obtain ⟨result, finished⟩ := Option.isSome_iff_exists.mp succeeded
  obtain ⟨preview, merged⟩ := (previewFavorites_readable emptyProfile validated
    validated.favorites _).mpr (fun _ _ => emptyProfile_reachable.inv.readable _)
  have previewed := (previewPortableImport_iff (lookedUpJson_roundTrips _ _ document built)
    short).mpr ⟨validated, preview, toOption_eq_some_iff.mp accepted, merged, rfl⟩
  have before : shownTranslation (lookedUpTwice "gift" "天赋") = some "礼物" := by
    decide
  refine ⟨_, _, _, result, exportPortableJson_of_document built short, previewed,
    Prod.ext rfl (toOption_eq_some_iff.mp finished), before, shown, ?_⟩
  intro preserved
  have kept := shownTranslation_preserved preserved before
  rw [shown] at kept
  exact absurd kept (by decide)

theorem import_preserves_word : ∃ bytes plan next result,
    exportPortableJson (lookedUpJson "gift" "礼物") (lookedUpTwice "gift" "礼物") (some "user") =
      .ok bytes ∧
    previewPortableImport (lookedUpJson "gift" "礼物") emptyProfile bytes = .ok plan ∧
    applyPortableImport emptyProfile plan.toPortableImportPlan 71 (fun _ => Sample.eventId 5) =
      (next, .ok result) ∧
    Preserved (lookedUpTwice "gift" "礼物") next := by
  obtain ⟨document, built, short, imported⟩ := lookedUp_facts lookedUpTwice_runs.2.1
  obtain ⟨validated, accepted, one⟩ := (Option.any_eq_true _ _).mp imported
  have reachable : Reachable (lookedUpTwice "gift" "礼物") :=
    lookedUpTwice_reachable (by decide)
  have exported := exportPortableJson_of_document built short
  obtain ⟨preview, merged⟩ := (previewFavorites_readable emptyProfile validated
    validated.favorites _).mpr (fun _ _ => emptyProfile_reachable.inv.readable _)
  have previewed := (previewPortableImport_iff (lookedUpJson_roundTrips _ _ document built)
    short).mpr ⟨validated, preview, toOption_eq_some_iff.mp accepted, merged, rfl⟩
  obtain ⟨next, result, applied, preserves⟩ := import_preserves_iff
    (fun key entry stored => (reachable.inv.history key entry stored).1) exported
    (lookedUpJson_roundTrips _ _) previewed 71 (fun _ => Sample.eventId 5)
    (of_decide_eq_true one)
  have agree : TranslationsAgree (lookedUpTwice "gift" "礼物") := by
    decide
  exact ⟨_, _, next, result, exported, previewed, applied, preserves.mpr agree⟩

end Concrete

end Lvos.System
