import Mathlib.Data.List.Sort
import Lvos.Lib.Json
import Lvos.Storage.Aggregates
import Lvos.Storage.Validation

set_option autoImplicit false

namespace Lvos.Storage

open Lvos.Core
open Relational (Table)
open Transaction (bind_ok_iff)

def softwareVersion : String := "0.1.9"

def schemaVersion : Nat := 2

def maxPortableJsonBytes : Nat := 16777216

/-- The JSON library: what a document is written as, and what bytes are read as. -/
structure PortableJson where
  toVecPretty : PortableDataExport → List UInt8
  fromSlice : List UInt8 → Option PortableDataExport

section Pretty

open Json (prettyArray prettyObject quoted number null)

def prettyText (value : String) : Nat → List Char := fun _ => quoted value

def prettyNumber (value : Int) : Nat → List Char := fun _ => number value

/-- A field that is written as `null` where it has no value. -/
def prettyOption {τ : Type} (write : τ → Nat → List Char) (value : Option τ) : Nat → List Char :=
  (value.map write).getD (fun _ => null)

def PortableContent.pretty (content : PortableContent) : Nat → List Char :=
  prettyObject [("content_key", prettyText content.contentKey),
    ("key_version", prettyNumber content.keyVersion), ("kind", prettyText content.kind),
    ("source_lang", prettyText content.sourceLang), ("source_text", prettyText content.sourceText),
    ("canonical_text", prettyText content.canonicalText)]

def PortableTranslation.pretty (translation : PortableTranslation) : Nat → List Char :=
  prettyObject [("target_lang", prettyText translation.targetLang),
    ("translation", prettyText translation.translation),
    ("provider", prettyText translation.provider),
    ("updated_at", prettyNumber translation.updatedAt)]

def PortableHistory.pretty (entry : PortableHistory) : Nat → List Char :=
  prettyObject [("content", entry.content.pretty), ("translation", entry.translation.pretty),
    ("last_queried_at", prettyNumber entry.lastQueriedAt)]

def PortableFavorite.pretty (favorite : PortableFavorite) : Nat → List Char :=
  prettyObject [("content", favorite.content.pretty), ("translation", favorite.translation.pretty),
    ("favorited_at", prettyNumber favorite.favoritedAt),
    ("updated_at", prettyNumber favorite.updatedAt),
    ("deleted_at", prettyOption prettyNumber favorite.deletedAt)]

def PortableQueryStatsArchive.pretty (archive : PortableQueryStatsArchive) : Nat → List Char :=
  prettyObject [("content_key", prettyText archive.contentKey),
    ("query_count", prettyNumber archive.queryCount),
    ("first_queried_at", prettyNumber archive.firstQueriedAt),
    ("last_queried_at", prettyNumber archive.lastQueriedAt)]

def PortableDataExport.pretty (document : PortableDataExport) : Nat → List Char :=
  prettyObject [("format", prettyText document.format),
    ("export_version", prettyNumber document.exportVersion),
    ("app_version", prettyText document.appVersion),
    ("schema_version", prettyNumber document.schemaVersion),
    ("profile", prettyObject [("username", prettyOption prettyText document.username)]),
    ("history", prettyArray (document.history.map PortableHistory.pretty)),
    ("favorites", prettyArray (document.favorites.map PortableFavorite.pretty)),
    ("query_stats_archive",
      prettyArray (document.queryStatsArchive.map PortableQueryStatsArchive.pretty))]

/-- The writer with a reader of one document, for evaluating a concrete run. -/
def prettyJson (known : Option PortableDataExport) : PortableJson where
  toVecPretty := fun document => Hex.utf8 (document.pretty 0)
  fromSlice := fun bytes =>
    known.filter (fun document => decide (Hex.utf8 (document.pretty 0) = bytes))

end Pretty

/-- A document that is written is read back. -/
def PortableJson.RoundTrips (json : PortableJson) (document : PortableDataExport) : Prop :=
  json.toVecPretty document ≠ [] ∧ json.fromSlice (json.toVecPretty document) = some document

theorem prettyJson_roundTrips (document : PortableDataExport) :
    (prettyJson (some document)).RoundTrips document := by
  refine ⟨?_, ?_⟩
  · intro empty
    have none : Json.bytes (document.pretty 0) = 0 := congrArg List.length empty
    unfold PortableDataExport.pretty Json.prettyObject at none
    simp only [Json.lines, List.map_cons, Json.bytes_cons] at none
    have opening := Json.openBrace.utf8Size_pos
    omega
  · simp [prettyJson, Option.filter]

def portableContent (content : StoredContent) : PortableContent where
  contentKey := content.contentKey.toHex
  keyVersion := content.keyVersion
  kind := content.kind.protocolName
  sourceLang := content.sourceLang.text
  sourceText := content.sourceText
  canonicalText := content.canonicalText

def portableTranslation (translation : TranslationSnapshot) : PortableTranslation where
  targetLang := translation.targetLang.text
  translation := translation.translation
  provider := translation.provider
  updatedAt := translation.updatedAt

def portableHistory (entry : HistoryEntry) : PortableHistory where
  content := portableContent entry.content
  translation := portableTranslation entry.translation
  lastQueriedAt := entry.lastQueriedAt

def portableFavorite (favorite : Favorite) : PortableFavorite where
  content := portableContent favorite.content
  translation := portableTranslation favorite.translation
  favoritedAt := favorite.createdAt
  updatedAt := favorite.updatedAt
  deletedAt := favorite.deletedAt

/-- The rows of a table in the order of its `content_key` column. -/
def byContentKey {ρ : Type} (table : Table ContentKey ρ) : List (ContentKey × ρ) :=
  table.rows.insertionSort (fun first second => first.1.toHex ≤ second.1.toHex)

def portableRecordCount (db : ProfileDb) : Nat :=
  db.historyEntries.rows.length + db.favorites.rows.length + db.queryStats.rows.length

def exportHistory (db : ProfileDb) : List PortableHistory :=
  (byContentKey db.historyEntries).map (fun row => portableHistory row.2)

def exportFavoriteRows : List (ContentKey × FavoriteRow) → PortableResult (List PortableFavorite)
  | [] => .ok []
  | (key, row) :: rest => do
      let favorite ← fromStorage (parseFavorite key row)
      let others ← exportFavoriteRows rest
      .ok (portableFavorite favorite :: others)

def exportFavorites (db : ProfileDb) : PortableResult (List PortableFavorite) :=
  exportFavoriteRows (byContentKey db.favorites)

/-- The first query of any Device a statistics row knows of. -/
def QueryStats.earliest (stats : QueryStats) : Int :=
  match stats.serverFirstQueriedAt with
  | none => stats.firstQueriedAt
  | some server => min server stats.firstQueriedAt

def QueryStats.latest (stats : QueryStats) : Int :=
  match stats.serverLastQueriedAt with
  | none => stats.lastQueriedAt
  | some server => max server stats.lastQueriedAt

def portableArchive (key : ContentKey) (stats : QueryStats) : PortableQueryStatsArchive where
  contentKey := key.toHex
  queryCount := stats.effectiveTotal
  firstQueriedAt := stats.earliest
  lastQueriedAt := stats.latest

def exportQueryStatsArchive (db : ProfileDb) : List PortableQueryStatsArchive :=
  (byContentKey db.queryStats).map (fun row => portableArchive row.1 row.2)

/-- The document `export_portable_json` serializes. The username is a column of
`profile_meta` that no other modelled function reads. -/
def exportDocument (db : ProfileDb) (username : Option String) :
    PortableResult PortableDataExport := do
  if maxPortableRecords < portableRecordCount db then .error .tooManyRecords
  else
    let history := exportHistory db
    let favorites ← exportFavorites db
    let queryStatsArchive := exportQueryStatsArchive db
    enforceRecordLimit history.length favorites.length queryStatsArchive.length
    .ok ⟨portableFormat, exportFormatVersion, softwareVersion, schemaVersion, username, history,
      favorites, queryStatsArchive⟩

/-- Serializes the active Profile's portable User data as bounded versioned JSON. -/
def exportPortableJson (json : PortableJson) (db : ProfileDb) (username : Option String) :
    PortableResult (List UInt8) := do
  let document ← exportDocument db username
  if maxPortableJsonBytes < (json.toVecPretty document).length then .error .tooLarge
  else .ok (json.toVecPretty document)

def previewHistory (db : ProfileDb) (preview : PortableImportResult) (entry : HistoryEntry) :
    PortableImportResult :=
  match db.historyEntries.get entry.content.contentKey with
  | none => { preview with historyAdd := preview.historyAdd + 1 }
  | some existing =>
      if existing.lastQueriedAt < entry.lastQueriedAt then
        { preview with historyUpdate := preview.historyUpdate + 1 }
      else { preview with historySkip := preview.historySkip + 1 }

def previewFavorite (db : ProfileDb) (document : ValidatedExport) (preview : PortableImportResult)
    (favorite : Favorite) : PortableResult PortableImportResult := do
  let key := favorite.content.contentKey
  let preview :=
    if key ∉ document.historyKeys ∧ db.historyEntries.get key = none then
      { preview with historyAdd := preview.historyAdd + 1 }
    else preview
  let existing ← fromStorage (favoriteByKey db key)
  match favorite.deletedAt.isNone, existing with
  | true, none => .ok { preview with favoriteAdd := preview.favoriteAdd + 1 }
  | true, some existing =>
      if existing.deletedAt.isSome then
        .ok { preview with favoriteReactivate := preview.favoriteReactivate + 1 }
      else .ok { preview with favoriteSkip := preview.favoriteSkip + 1 }
  | false, none => .ok { preview with tombstoneArchive := preview.tombstoneArchive + 1 }
  | false, some _ => .ok { preview with favoriteSkip := preview.favoriteSkip + 1 }

def previewFavorites (db : ProfileDb) (document : ValidatedExport) :
    PortableImportResult → List Favorite → PortableResult PortableImportResult
  | preview, [] => .ok preview
  | preview, favorite :: rest => do
      let preview ← previewFavorite db document preview favorite
      previewFavorites db document preview rest

def previewMerge (db : ProfileDb) (document : ValidatedExport) :
    PortableResult PortableImportResult :=
  previewFavorites db document
    (document.history.foldl (previewHistory db) ⟨0, 0, 0, 0, 0, 0, 0, document.queryStatsCount⟩)
    document.favorites

/-- An import plan with the merge it announces. -/
structure PreviewedImport extends PortableImportPlan where
  preview : PortableImportResult
deriving DecidableEq

/-- Fully validates an import and calculates a non-mutating merge preview. -/
def previewPortableImport [ContentTables] (json : PortableJson) (db : ProfileDb)
    (bytes : List UInt8) : PortableResult PreviewedImport := do
  if maxPortableJsonBytes < bytes.length then .error .tooLarge
  else if bytes = [] then .error (.invalid "empty document")
  else
    match json.fromSlice bytes with
    | none => .error .json
    | some document =>
        let validated ← validateExport document
        let preview ← previewMerge db validated
        .ok ⟨⟨db.profileMeta.profileId, validated⟩, preview⟩

/-- The row of a content is read, where there is one. -/
def Readable (db : ProfileDb) (key : ContentKey) : Prop :=
  ∃ found, favoriteByKey db key = .ok found

theorem fromStorage_of_ok {τ : Type} {result : StorageResult τ} {value : τ}
    (success : result = .ok value) : fromStorage result = .ok value := by
  rw [success]
  rfl

theorem previewFavorite_readable {db : ProfileDb} {document : ValidatedExport}
    {preview : PortableImportResult} {favorite : Favorite} :
    (∃ counted, previewFavorite db document preview favorite = .ok counted) ↔
      Readable db favorite.content.contentKey := by
  unfold previewFavorite
  dsimp only
  constructor
  · rintro ⟨counted, turned⟩
    obtain ⟨found, looked, -⟩ := bind_ok_iff.mp turned
    exact ⟨found, fromStorage_ok looked⟩
  · rintro ⟨found, looked⟩
    rw [fromStorage_of_ok looked]
    simp only [bind, Except.bind]
    split
    · exact ⟨_, rfl⟩
    · split
      · exact ⟨_, rfl⟩
      · exact ⟨_, rfl⟩
    · exact ⟨_, rfl⟩
    · exact ⟨_, rfl⟩

/-- A merge is announced exactly when the rows of its Favorites are read. -/
theorem previewFavorites_readable (db : ProfileDb) (document : ValidatedExport) :
    ∀ (favorites : List Favorite) (preview : PortableImportResult),
      (∃ result, previewFavorites db document preview favorites = .ok result) ↔
        ∀ favorite ∈ favorites, Readable db favorite.content.contentKey := by
  intro favorites
  induction favorites with
  | nil =>
      intro preview
      exact ⟨fun _ => nofun, fun _ => ⟨preview, rfl⟩⟩
  | cons favorite rest ih =>
      intro preview
      unfold previewFavorites
      rw [List.forall_mem_cons]
      constructor
      · rintro ⟨result, success⟩
        obtain ⟨counted, turned, looped⟩ := bind_ok_iff.mp success
        exact ⟨previewFavorite_readable.mp ⟨counted, turned⟩, (ih counted).mp ⟨result, looped⟩⟩
      · rintro ⟨here, later⟩
        obtain ⟨counted, turned⟩ := previewFavorite_readable.mpr here
        obtain ⟨result, looped⟩ := (ih counted).mpr later
        exact ⟨result, bind_ok_iff.mpr ⟨counted, turned, looped⟩⟩

section Rows

variable {ρ : Type} (table : Table ContentKey ρ)

theorem byContentKey_perm : (byContentKey table).Perm table.rows :=
  List.perm_insertionSort _ _

theorem mem_byContentKey (key : ContentKey) (row : ρ) :
    (key, row) ∈ byContentKey table ↔ table.get key = some row := by
  rw [(byContentKey_perm table).mem_iff, Table.mem_rows_iff]

theorem byContentKey_nodup : ((byContentKey table).map Prod.fst).Nodup :=
  ((byContentKey_perm table).map Prod.fst).nodup_iff.mpr table.unique

@[simp] theorem byContentKey_length : (byContentKey table).length = table.rows.length :=
  (byContentKey_perm table).length_eq

end Rows

/-- A pointwise relation that determines its right side. -/
theorem forall₂_map_iff {τ υ ω : Type} (related : υ → ω → Prop) (source : τ → υ)
    (target : τ → ω) (holds : τ → Prop)
    (determined : ∀ value result, related (source value) result ↔
      result = target value ∧ holds value) :
    ∀ (values : List τ) (results : List ω),
      List.Forall₂ related (values.map source) results ↔
        results = values.map target ∧ ∀ value ∈ values, holds value := by
  intro values
  induction values with
  | nil =>
      intro results
      simp
  | cons value rest ih =>
      intro results
      rw [List.map_cons, List.forall₂_cons_left_iff]
      constructor
      · rintro ⟨result, others, here, later, rfl⟩
        obtain ⟨rfl, first⟩ := (determined value result).mp here
        obtain ⟨rfl, tail⟩ := (ih others).mp later
        refine ⟨rfl, ?_⟩
        intro other member
        rcases List.mem_cons.mp member with rfl | inside
        · exact first
        · exact tail other inside
      · rintro ⟨rfl, all⟩
        refine ⟨target value, rest.map target, (determined value _).mpr ⟨rfl, all value (by simp)⟩,
          (ih _).mpr ⟨rfl, fun other member => all other (by simp [member])⟩, rfl⟩

theorem exportFavoriteRows_ok : ∀ (rows : List (ContentKey × FavoriteRow))
    (values : List PortableFavorite),
    exportFavoriteRows rows = .ok values ↔
      ∃ favorites, List.Forall₂ (fun row favorite => parseFavorite row.1 row.2 = .ok favorite)
        rows favorites ∧ values = favorites.map portableFavorite := by
  intro rows
  induction rows with
  | nil =>
      intro values
      unfold exportFavoriteRows
      simp [eq_comm]
  | cons row rest ih =>
      intro values
      obtain ⟨key, stored⟩ := row
      unfold exportFavoriteRows
      rw [bind_ok_iff]
      constructor
      · rintro ⟨favorite, parsed, afterParse⟩
        obtain ⟨others, looped, same⟩ := bind_ok_iff.mp afterParse
        cases same
        obtain ⟨favorites, related, rfl⟩ := (ih others).mp looped
        exact ⟨favorite :: favorites, .cons (fromStorage_ok parsed) related, rfl⟩
      · rintro ⟨favorites, related, rfl⟩
        cases related with
        | @cons _ favorite _ others parsed related =>
            refine ⟨favorite, ?_, bind_ok_iff.mpr
              ⟨_, (ih _).mpr ⟨others, related, rfl⟩, rfl⟩⟩
            dsimp only at parsed
            rw [parsed]
            rfl

/-- What an export holds, where it succeeds. -/
theorem exportDocument_ok {db : ProfileDb} {username : Option String}
    {document : PortableDataExport} (exported : exportDocument db username = .ok document) :
    portableRecordCount db ≤ maxPortableRecords ∧
    ∃ favorites, List.Forall₂ (fun row favorite => parseFavorite row.1 row.2 = .ok favorite)
        (byContentKey db.favorites) favorites ∧
      document = ⟨portableFormat, exportFormatVersion, softwareVersion, schemaVersion, username,
        exportHistory db, favorites.map portableFavorite, exportQueryStatsArchive db⟩ := by
  unfold exportDocument at exported
  split at exported
  · cases exported
  · rename_i few
    obtain ⟨values, listed, afterFavorites⟩ := bind_ok_iff.mp exported
    obtain ⟨-, -, same⟩ := bind_ok_iff.mp afterFavorites
    cases same
    obtain ⟨favorites, related, rfl⟩ := (exportFavoriteRows_ok _ _).mp listed
    exact ⟨by omega, favorites, related, rfl⟩

section Portable

variable [ContentTables]

/-- A content that is accepted as it is exported. -/
def ContentPortable (content : StoredContent) : Prop :=
  validateContent (portableContent content) = .ok content

omit [ContentTables] in
theorem portableKind_protocolName (kind : TextKind) :
    portableKind kind.protocolName = .ok kind := by
  cases kind <;> rfl

theorem validateContent_portable {content other : StoredContent} :
    validateContent (portableContent content) = .ok other ↔
      other = content ∧ ContentPortable content := by
  constructor
  · intro accepted
    have same : other = content := by
      unfold validateContent portableContent at accepted
      dsimp only at accepted
      rw [LanguageCode.parse_text, portableKind_protocolName, ContentKey.fromStr_toHex] at accepted
      split at accepted
      · cases accepted
      · split at accepted
        · cases accepted
        · dsimp only at accepted
          split at accepted
          · cases accepted
          · obtain ⟨kind, named, afterKind⟩ := bind_ok_iff.mp accepted
            cases named
            split at afterKind
            · cases afterKind
            · cases afterKind
              rfl
    subst same
    exact ⟨rfl, accepted⟩
  · rintro ⟨rfl, portable⟩
    exact portable

omit [ContentTables] in
theorem validateTranslation_portable {translation other : TranslationSnapshot} :
    validateTranslation (portableTranslation translation) = .ok other ↔
      other = translation ∧ translationAllowed (portableTranslation translation) = true := by
  rw [validateTranslation_iff]
  unfold portableTranslation
  constructor
  · rintro ⟨allowed, targetLang, parsed, same⟩
    dsimp only at parsed same
    rw [LanguageCode.parse_text] at parsed
    cases parsed
    exact ⟨same, allowed⟩
  · rintro ⟨rfl, allowed⟩
    exact ⟨allowed, _, LanguageCode.parse_text _, rfl⟩

/-- A history row that is accepted as it is exported. -/
structure HistoryPortable (entry : HistoryEntry) : Prop where
  content : ContentPortable entry.content
  translation : translationAllowed (portableTranslation entry.translation) = true
  ordered : 0 ≤ entry.lastQueriedAt ∧ entry.translation.updatedAt ≤ entry.lastQueriedAt

theorem validateHistory_portable {entry other : HistoryEntry} :
    validateHistory (portableHistory entry) = .ok other ↔
      other = entry ∧ HistoryPortable entry := by
  rw [validateHistory_iff]
  unfold portableHistory
  dsimp only
  rw [validateTranslation_portable, validateContent_portable]
  constructor
  · rintro ⟨queried, ordered, ⟨translation, allowed⟩, ⟨content, portable⟩, last⟩
    refine ⟨?_, portable, allowed, queried, ordered⟩
    cases other
    cases entry
    simp_all
  · rintro ⟨rfl, portable, allowed, queried, ordered⟩
    exact ⟨queried, ordered, ⟨rfl, allowed⟩, ⟨rfl, portable⟩, rfl⟩

/-- A Favorite that is accepted as it is exported. -/
structure FavoritePortable (favorite : Favorite) : Prop where
  content : ContentPortable favorite.content
  translation : translationAllowed (portableTranslation favorite.translation) = true
  dated : favorite.translation.updatedAt = favorite.updatedAt
  ordered : favoriteTimesAllowed (portableFavorite favorite) = true

/-- A Favorite as an import takes it. -/
def Favorite.imported (favorite : Favorite) : Favorite := { favorite with entityRevision := 0 }

theorem validateFavorite_portable {favorite other : Favorite} :
    validateFavorite (portableFavorite favorite) = .ok other ↔
      other = favorite.imported ∧ FavoritePortable favorite := by
  rw [validateFavorite_iff]
  constructor
  · rintro ⟨times, dated, translated, content, same⟩
    obtain ⟨translation, allowed⟩ := validateTranslation_portable.mp translated
    obtain ⟨stored, portable⟩ := validateContent_portable.mp content
    refine ⟨?_, portable, allowed, dated, times⟩
    rw [same, stored, translation]
    rfl
  · rintro ⟨rfl, portable, allowed, dated, times⟩
    exact ⟨times, dated, validateTranslation_portable.mpr ⟨rfl, allowed⟩,
      validateContent_portable.mpr ⟨rfl, portable⟩, rfl⟩

omit [ContentTables] in
theorem validateArchive_portable {knownKeys : List ContentKey} {row : ContentKey × QueryStats}
    {key : ContentKey} :
    validateArchive (portableArchive row.1 row.2) knownKeys = .ok key ↔
      key = row.1 ∧ row.1 ∈ knownKeys ∧ 0 ≤ row.2.earliest ∧ row.2.earliest ≤ row.2.latest := by
  rw [validateArchive_iff]
  unfold portableArchive
  dsimp only
  rw [ContentKey.fromStr_toHex, Except.ok.injEq]
  constructor
  · rintro ⟨rfl, known, times⟩
    exact ⟨rfl, known, times⟩
  · rintro ⟨rfl, known, times⟩
    exact ⟨rfl, known, times⟩

/-- Every history row is filed under the key of its content. -/
def HistoryFiled (db : ProfileDb) : Prop :=
  ∀ key entry, db.historyEntries.get key = some entry → entry.content.contentKey = key

/-- The history an import of the export takes. -/
def exportedHistory (db : ProfileDb) : List HistoryEntry :=
  (byContentKey db.historyEntries).map Prod.snd

omit [ContentTables] in
theorem mem_exportedHistory {db : ProfileDb} (filed : HistoryFiled db) (entry : HistoryEntry) :
    entry ∈ exportedHistory db ↔
      db.historyEntries.get entry.content.contentKey = some entry := by
  unfold exportedHistory
  rw [List.mem_map]
  constructor
  · rintro ⟨⟨key, other⟩, member, rfl⟩
    have stored := (mem_byContentKey _ key other).mp member
    rw [filed key other stored]
    exact stored
  · intro stored
    exact ⟨(entry.content.contentKey, entry), (mem_byContentKey _ _ _).mpr stored, rfl⟩

omit [ContentTables] in
theorem exportedHistory_keys {db : ProfileDb} (filed : HistoryFiled db) :
    (exportedHistory db).map (fun entry => entry.content.contentKey) =
      (byContentKey db.historyEntries).map Prod.fst := by
  unfold exportedHistory
  rw [List.map_map]
  apply List.map_congr_left
  rintro ⟨key, entry⟩ member
  exact filed key entry ((mem_byContentKey _ key entry).mp member)

omit [ContentTables] in
theorem parseFavorite_key {key : ContentKey} {row : FavoriteRow} {favorite : Favorite}
    (parsed : parseFavorite key row = .ok favorite) : favorite.content.contentKey = key :=
  (readFavorite_ok parsed).2.2.2

omit [ContentTables] in
theorem parsed_keys {rows : List (ContentKey × FavoriteRow)} {favorites : List Favorite}
    (parsed : List.Forall₂ (fun row favorite => parseFavorite row.1 row.2 = .ok favorite) rows
      favorites) :
    favorites.map (fun favorite => favorite.content.contentKey) = rows.map Prod.fst := by
  induction parsed with
  | nil => rfl
  | cons head tail ih => rw [List.map_cons, List.map_cons, ih, parseFavorite_key head]

/-- The document an import takes from the export of a Profile with these Favorites. -/
def exportedPlan (db : ProfileDb) (favorites : List Favorite) : ValidatedExport where
  history := exportedHistory db
  favorites := favorites.map Favorite.imported
  historyKeys := (exportedHistory db).map (fun entry => entry.content.contentKey)
  queryStatsCount := (exportQueryStatsArchive db).length

/-- What the validator asks of a Profile with these Favorites. -/
structure Acceptable (db : ProfileDb) (username : Option String) (favorites : List Favorite) :
    Prop where
  label : username.all (labelAllowed maxUsernameBytes) = true
  history : ∀ entry ∈ exportedHistory db, HistoryPortable entry
  listed : ∀ favorite ∈ favorites, FavoritePortable favorite
  content : ∀ favorite ∈ favorites, SameContent (exportedHistory db) favorite
  archives : ∀ row ∈ byContentKey db.queryStats,
    row.1 ∈ (exportedHistory db).map (fun entry => entry.content.contentKey) ++
      favorites.map (fun favorite => favorite.content.contentKey) ∧
    0 ≤ row.2.earliest ∧ row.2.earliest ≤ row.2.latest

omit [ContentTables] in
theorem imported_keys (favorites : List Favorite) :
    (favorites.map Favorite.imported).map (fun favorite => favorite.content.contentKey) =
      favorites.map (fun favorite => favorite.content.contentKey) := by
  rw [List.map_map]
  rfl

/-- The export of a Profile is accepted exactly when the Profile is acceptable; its import
then takes what the Profile holds. -/
theorem validateExport_exported {db : ProfileDb} (filed : HistoryFiled db)
    {username : Option String} {document : PortableDataExport} {favorites : List Favorite}
    (few : portableRecordCount db ≤ maxPortableRecords)
    (parsed : List.Forall₂ (fun row favorite => parseFavorite row.1 row.2 = .ok favorite)
      (byContentKey db.favorites) favorites)
    (same : document = ⟨portableFormat, exportFormatVersion, softwareVersion, schemaVersion,
      username, exportHistory db, favorites.map portableFavorite, exportQueryStatsArchive db⟩)
    {validated : ValidatedExport} :
    validateExport document = .ok validated ↔
      validated = exportedPlan db favorites ∧ Acceptable db username favorites := by
  have histories := forall₂_map_iff (fun value entry => validateHistory value = .ok entry)
    (fun row : ContentKey × HistoryEntry => portableHistory row.2) Prod.snd
    (fun row => HistoryPortable row.2) (fun _ _ => validateHistory_portable)
    (byContentKey db.historyEntries)
  have chosen := forall₂_map_iff (fun value favorite => validateFavorite value = .ok favorite)
    portableFavorite Favorite.imported FavoritePortable
    (fun _ _ => validateFavorite_portable) favorites
  have archives := fun knownKeys => forall₂_map_iff
    (fun value key => validateArchive value knownKeys = .ok key)
    (fun row : ContentKey × QueryStats => portableArchive row.1 row.2) Prod.fst
    (fun row => row.1 ∈ knownKeys ∧ 0 ≤ row.2.earliest ∧ row.2.earliest ≤ row.2.latest)
    (fun _ _ => validateArchive_portable) (byContentKey db.queryStats)
  rw [validateExport_iff, same]
  dsimp only [exportHistory, exportQueryStatsArchive]
  constructor
  · rintro ⟨header, history, -, listed, -, content, ⟨keys, known, -⟩, historyKeys, counted⟩
    obtain ⟨taken, historyPortable⟩ := (histories _).mp history
    obtain ⟨found, favoritePortable⟩ := (chosen _).mp listed
    have whole : validated = exportedPlan db favorites := by
      cases validated
      dsimp only at taken found historyKeys counted
      subst taken found historyKeys counted
      rfl
    obtain ⟨-, archived⟩ := (archives _ _).mp known
    rw [whole] at archived content
    refine ⟨whole, header.2.2.2.2.1, ?_, favoritePortable, ?_, ?_⟩
    · intro entry member
      obtain ⟨row, inside, rfl⟩ := List.mem_map.mp member
      exact historyPortable row inside
    · intro favorite member
      exact content favorite.imported (List.mem_map_of_mem member)
    · intro row member
      have holds := archived row member
      rw [← imported_keys]
      exact holds
  · rintro ⟨rfl, acceptable⟩
    have total : (exportHistory db).length + (favorites.map portableFavorite).length +
        (exportQueryStatsArchive db).length ≤ maxPortableRecords := by
      unfold exportHistory exportQueryStatsArchive
      rw [List.length_map, List.length_map, List.length_map, ← parsed.length_eq,
        byContentKey_length, byContentKey_length, byContentKey_length]
      exact few
    have labelled : labelAllowed maxAppVersionBytes softwareVersion = true := by decide
    have numbered : schemaVersion ≠ 0 := by decide
    refine ⟨⟨rfl, rfl, labelled, numbered, acceptable.label, total⟩, ?_, ?_, ?_, ?_, ?_, ?_, rfl,
      rfl⟩
    · refine (histories _).mpr ⟨rfl, ?_⟩
      intro row member
      exact acceptable.history row.2 (List.mem_map_of_mem member)
    · dsimp only [exportedPlan]
      rw [exportedHistory_keys filed]
      exact byContentKey_nodup _
    · exact (chosen _).mpr ⟨rfl, acceptable.listed⟩
    · dsimp only [exportedPlan]
      rw [imported_keys, parsed_keys parsed]
      exact byContentKey_nodup _
    · intro favorite member
      obtain ⟨original, inside, rfl⟩ := List.mem_map.mp member
      exact acceptable.content original inside
    · refine ⟨(byContentKey db.queryStats).map Prod.fst, (archives _ _).mpr ⟨rfl, ?_⟩,
        byContentKey_nodup _⟩
      intro row member
      dsimp only [exportedPlan]
      rw [imported_keys]
      exact acceptable.archives row member

end Portable

end Lvos.Storage
