import Lvos.Storage.Profile

set_option autoImplicit false

namespace Lvos.Storage

open Lvos.Core Lvos.Sync

def portableFormat : String := "lvos-data-export"

def exportFormatVersion : Nat := 1

def maxPortableRecords : Nat := 100000

def maxSourceCharacters : Nat := 16384

def maxTranslationBytes : Nat := 65536

def maxProviderBytes : Nat := 128

def maxUsernameBytes : Nat := 128

def maxAppVersionBytes : Nat := 64

structure PortableContent where
  contentKey : String
  keyVersion : Nat
  kind : String
  sourceLang : String
  sourceText : String
  canonicalText : String
deriving DecidableEq, Repr

structure PortableTranslation where
  targetLang : String
  translation : String
  provider : String
  updatedAt : Int
deriving DecidableEq, Repr

structure PortableHistory where
  content : PortableContent
  translation : PortableTranslation
  lastQueriedAt : Int
deriving DecidableEq, Repr

structure PortableFavorite where
  content : PortableContent
  translation : PortableTranslation
  favoritedAt : Int
  updatedAt : Int
  deletedAt : Option Int
deriving DecidableEq, Repr

structure PortableQueryStatsArchive where
  contentKey : String
  queryCount : Nat
  firstQueriedAt : Int
  lastQueriedAt : Int
deriving DecidableEq, Repr

/-- The decoded document of an import. -/
structure PortableDataExport where
  format : String
  exportVersion : Nat
  appVersion : String
  schemaVersion : Nat
  username : Option String
  history : List PortableHistory
  favorites : List PortableFavorite
  queryStatsArchive : List PortableQueryStatsArchive
deriving DecidableEq, Repr

inductive PortableDataError
  | storage (reason : StorageError)
  | json
  | tooLarge
  | tooManyRecords
  | unsupportedVersion
  | wrongProfile
  | invalid (field : String)
deriving DecidableEq, Repr

abbrev PortableResult (τ : Type) := Except PortableDataError τ

/-- `From<StorageError>`. -/
def fromStorage {τ : Type} : StorageResult τ → PortableResult τ
  | .ok value => .ok value
  | .error reason => .error (.storage reason)

structure PortableImportResult where
  historyAdd : Nat
  historyUpdate : Nat
  historySkip : Nat
  favoriteAdd : Nat
  favoriteReactivate : Nat
  favoriteSkip : Nat
  tombstoneArchive : Nat
  queryStatsArchive : Nat
deriving DecidableEq, Repr

structure ValidatedExport where
  history : List HistoryEntry
  favorites : List Favorite
  historyKeys : List ContentKey
  queryStatsCount : Nat
deriving DecidableEq

def labelAllowed (maxBytes : Nat) (value : String) : Bool :=
  value.toList ≠ [] && value.utf8ByteSize ≤ maxBytes && !value.toList.any isControl

def enforceRecordLimit (history favorites queryStats : Nat) : PortableResult Unit :=
  if maxPortableRecords < history + favorites + queryStats then .error .tooManyRecords
  else .ok ()

def translationAllowed (value : PortableTranslation) : Bool :=
  value.translation.toList ≠ [] && value.translation.utf8ByteSize ≤ maxTranslationBytes &&
    value.provider.toList ≠ [] && value.provider.utf8ByteSize ≤ maxProviderBytes &&
    !value.provider.toList.any isControl &&
    !value.translation.toList.any
      (fun character => isControl character && !isWhitespace character) &&
    0 ≤ value.updatedAt

def validateTranslation (value : PortableTranslation) : PortableResult TranslationSnapshot :=
  if translationAllowed value then
    match LanguageCode.parse value.targetLang with
    | .error _ => .error (.invalid "target language")
    | .ok targetLang => .ok ⟨targetLang, value.translation, value.provider, value.updatedAt⟩
  else .error (.invalid "translation snapshot")

def portableKind (value : String) : PortableResult TextKind :=
  if value = "word" then .ok .word
  else if value = "text" then .ok .text
  else .error (.invalid "content kind")

def validateArchive (value : PortableQueryStatsArchive) (knownKeys : List ContentKey) :
    PortableResult ContentKey :=
  match ContentKey.fromStr value.contentKey with
  | .error _ => .error (.invalid "QueryStats archive content key")
  | .ok key =>
      if key ∉ knownKeys ∨ value.firstQueriedAt < 0 ∨ value.lastQueriedAt < value.firstQueriedAt then
        .error (.invalid "QueryStats archive")
      else .ok key

def validateArchives (knownKeys : List ContentKey) :
    List ContentKey → List PortableQueryStatsArchive → PortableResult Unit
  | _, [] => .ok ()
  | seen, value :: rest => do
      let key ← validateArchive value knownKeys
      if key ∈ seen then .error (.invalid "duplicate QueryStats archive content key")
      else validateArchives knownKeys (key :: seen) rest

section Validation

variable [ContentTables]

def validateContent (value : PortableContent) : PortableResult StoredContent := do
  if value.keyVersion ≠ contentKeyVersion then .error .unsupportedVersion
  else if maxSourceCharacters < value.sourceText.length then
    .error (.invalid "source content length")
  else
    match LanguageCode.parse value.sourceLang with
    | .error _ => .error (.invalid "source language")
    | .ok sourceLang =>
        match prepareContent value.sourceText sourceLang maxSourceCharacters with
        | .error _ => .error (.invalid "source content")
        | .ok prepared => do
            let kind ← portableKind value.kind
            match ContentKey.fromStr value.contentKey with
            | .error _ => .error (.invalid "content key")
            | .ok key =>
                if prepared.contentKey ≠ key ∨ prepared.keyVersion ≠ value.keyVersion ∨
                    prepared.kind ≠ kind ∨ prepared.sourceText ≠ value.sourceText ∨
                    prepared.canonicalText ≠ value.canonicalText then
                  .error (.invalid "content identity mismatch")
                else
                  .ok ⟨key, value.keyVersion, kind, sourceLang, value.sourceText,
                    value.canonicalText⟩

def validateHistory (value : PortableHistory) : PortableResult HistoryEntry := do
  if value.lastQueriedAt < 0 then .error (.invalid "History timestamp")
  else
    let translation ← validateTranslation value.translation
    if value.lastQueriedAt < translation.updatedAt then .error (.invalid "History timestamp order")
    else
      let content ← validateContent value.content
      .ok ⟨content, translation, value.lastQueriedAt⟩

def favoriteTimesAllowed (value : PortableFavorite) : Bool :=
  0 ≤ value.favoritedAt && 0 ≤ value.updatedAt && value.favoritedAt ≤ value.updatedAt &&
    value.deletedAt.all (fun timestamp => 0 ≤ timestamp && value.updatedAt ≤ timestamp)

def validateFavorite (value : PortableFavorite) : PortableResult Favorite := do
  if favoriteTimesAllowed value then
    let translation ← validateTranslation value.translation
    if translation.updatedAt ≠ value.updatedAt then
      .error (.invalid "Favorite translation timestamp")
    else
      let content ← validateContent value.content
      .ok ⟨content, translation, value.favoritedAt, value.updatedAt, value.deletedAt, 0⟩
  else .error (.invalid "Favorite timestamp")

/-- The history loop of `validate_export`; `seen` are the entries before it. -/
def validateHistories :
    List HistoryEntry → List PortableHistory → PortableResult (List HistoryEntry)
  | seen, [] => .ok seen
  | seen, value :: rest => do
      let entry ← validateHistory value
      if entry.content.contentKey ∈ seen.map (fun other => other.content.contentKey) then
        .error (.invalid "duplicate History content key")
      else validateHistories (seen ++ [entry]) rest

def validateFavorites (history : List HistoryEntry) :
    List Favorite → List PortableFavorite → PortableResult (List Favorite)
  | seen, [] => .ok seen
  | seen, value :: rest => do
      let favorite ← validateFavorite value
      if favorite.content.contentKey ∈ seen.map (fun other => other.content.contentKey) then
        .error (.invalid "duplicate Favorite content key")
      else if history.any (fun entry => entry.content.contentKey = favorite.content.contentKey &&
          entry.content ≠ favorite.content) then
        .error (.invalid "History and Favorite content mismatch")
      else validateFavorites history (seen ++ [favorite]) rest

def validateExport (document : PortableDataExport) : PortableResult ValidatedExport := do
  if document.format ≠ portableFormat ∨ document.exportVersion ≠ exportFormatVersion then
    .error .unsupportedVersion
  else if !labelAllowed maxAppVersionBytes document.appVersion || document.schemaVersion = 0 then
    .error (.invalid "export metadata")
  else if document.username.any (fun username => !labelAllowed maxUsernameBytes username) then
    .error (.invalid "Profile label")
  else
    enforceRecordLimit document.history.length document.favorites.length
      document.queryStatsArchive.length
    let history ← validateHistories [] document.history
    let favorites ← validateFavorites history [] document.favorites
    let historyKeys := history.map (fun entry => entry.content.contentKey)
    let favoriteKeys := favorites.map (fun favorite => favorite.content.contentKey)
    validateArchives (historyKeys ++ favoriteKeys) [] document.queryStatsArchive
    .ok ⟨history, favorites, historyKeys, document.queryStatsArchive.length⟩

end Validation

def insertHistoryWithZeroStats (db : ProfileDb) (entry : HistoryEntry) : ProfileDb :=
  let db := upsertHistory db entry
  match db.queryStats.get entry.content.contentKey with
  | some _ => db
  | none =>
      { db with
        queryStats := db.queryStats.put entry.content.contentKey
          ⟨0, entry.lastQueriedAt, entry.lastQueriedAt, 0, 0, none, none, none⟩ }

def mergeHistory (db : ProfileDb) (imported : HistoryEntry) (result : PortableImportResult) :
    ProfileDb × PortableImportResult :=
  match db.historyEntries.get imported.content.contentKey with
  | none =>
      (insertHistoryWithZeroStats db imported, { result with historyAdd := result.historyAdd + 1 })
  | some existing =>
      if existing.lastQueriedAt < imported.lastQueriedAt then
        (upsertHistory db imported, { result with historyUpdate := result.historyUpdate + 1 })
      else (db, { result with historySkip := result.historySkip + 1 })

def historyFromFavorite (favorite : Favorite) : HistoryEntry :=
  ⟨favorite.content, favorite.translation, favorite.updatedAt⟩

/-- The `favorites` columns of an imported tombstone. -/
def archivedRow (favorite : Favorite) : FavoriteRow where
  keyVersion := favorite.content.keyVersion
  snapshot := {
    kind := favorite.content.kind.protocolName
    sourceLang := favorite.content.sourceLang.text
    targetLang := favorite.translation.targetLang.text
    sourceText := favorite.content.sourceText
    canonicalText := favorite.content.canonicalText
    translation := favorite.translation.translation
    provider := favorite.translation.provider
    favoritedAt := favorite.createdAt
    updatedAt := favorite.updatedAt }
  deletedAt := favorite.deletedAt
  entityRevision := 0

def archiveTombstone (db : ProfileDb) (favorite : Favorite) : ProfileDb :=
  { db with favorites := db.favorites.put favorite.content.contentKey (archivedRow favorite) }

/-- The history an imported Favorite outside the imported history brings. -/
def mergeFavoriteHistory (document : ValidatedExport) (db : ProfileDb) (favorite : Favorite)
    (result : PortableImportResult) : ProfileDb × PortableImportResult :=
  if favorite.content.contentKey ∈ document.historyKeys then (db, result)
  else
    match db.historyEntries.get favorite.content.contentKey with
    | some _ => (db, result)
    | none =>
        (insertHistoryWithZeroStats db (historyFromFavorite favorite),
          { result with historyAdd := result.historyAdd + 1 })

/-- One turn of the Favorite loop of `apply_merge`. -/
def mergeFavorite (document : ValidatedExport) (now : Int) (eventIds : ContentKey → Uuid)
    (db : ProfileDb) (favorite : Favorite) (result : PortableImportResult) :
    PortableResult (ProfileDb × PortableImportResult) := do
  let key := favorite.content.contentKey
  let (db, result) := mergeFavoriteHistory document db favorite result
  let existing ← fromStorage (favoriteTx db key)
  if favorite.deletedAt.isNone then
    match existing with
    | some existing =>
        if existing.deletedAt.isNone then
          .ok (db, { result with favoriteSkip := result.favoriteSkip + 1 })
        else
          let (db, _) ← fromStorage (favoriteFromHistoryTx key now (eventIds key) db)
          .ok (db, { result with favoriteReactivate := result.favoriteReactivate + 1 })
    | none =>
        let (db, _) ← fromStorage (favoriteFromHistoryTx key now (eventIds key) db)
        .ok (db, { result with favoriteAdd := result.favoriteAdd + 1 })
  else if existing.isSome then
    .ok (db, { result with favoriteSkip := result.favoriteSkip + 1 })
  else
    .ok (archiveTombstone db favorite,
      { result with tombstoneArchive := result.tombstoneArchive + 1 })

def mergeHistories : ProfileDb → PortableImportResult → List HistoryEntry →
    ProfileDb × PortableImportResult
  | db, result, [] => (db, result)
  | db, result, entry :: rest =>
      let merged := mergeHistory db entry result
      mergeHistories merged.1 merged.2 rest

def mergeFavorites (document : ValidatedExport) (now : Int) (eventIds : ContentKey → Uuid) :
    ProfileDb → PortableImportResult → List Favorite →
    PortableResult (ProfileDb × PortableImportResult)
  | db, result, [] => .ok (db, result)
  | db, result, favorite :: rest => do
      let (db, result) ← mergeFavorite document now eventIds db favorite result
      mergeFavorites document now eventIds db result rest

def applyMerge (document : ValidatedExport) (now : Int) (eventIds : ContentKey → Uuid)
    (db : ProfileDb) : PortableResult (ProfileDb × PortableImportResult) :=
  let result : PortableImportResult := ⟨0, 0, 0, 0, 0, 0, 0, document.queryStatsCount⟩
  let merged := mergeHistories db result document.history
  mergeFavorites document now eventIds merged.1 merged.2 document.favorites

/-- A validated import and the Profile its preview was made on. -/
structure PortableImportPlan where
  targetProfileId : Uuid
  document : ValidatedExport
deriving DecidableEq

/-- Re-evaluates and applies a validated import in one transaction. -/
def applyPortableImport (db : ProfileDb) (plan : PortableImportPlan) (now : Int)
    (eventIds : ContentKey → Uuid) : ProfileDb × PortableResult PortableImportResult :=
  if db.profileMeta.profileId ≠ plan.targetProfileId then (db, .error .wrongProfile)
  else Transaction.atomically (applyMerge plan.document now eventIds) db

end Lvos.Storage
