import Lvos.Agent.Service
import Lvos.System.Exports
import Lvos.System.Popup

set_option autoImplicit false

namespace Lvos.System.Ui

open Lvos.Core Lvos.Storage Lvos.Ipc Lvos.Agent Lvos.Desktop
open Lvos.Sync (digits)
open Json (textBytes bytes)
open Transaction (bind_ok_iff mapM_ok)

/-- `serde_json::to_vec` of an envelope. -/
def frameBody {τ : Type} (write : τ → List Char) (envelope : Envelope τ) : List UInt8 :=
  Hex.utf8 (envelope.json write)

/-! What the stored records and the other values take in a frame. -/

def recordSize (data : UiRecordData) : Nat :=
  textBytes data.source + textBytes data.translation + textBytes data.metadata +
    digits data.count + flagBytes data.favorite + 138

def pageSize (page : List UiRecordData) : Nat := listSize recordSize page

def remoteDeviceSize (service : AgentService) (device : RemoteDevice) : Nat :=
  textBytes device.deviceId + textBytes (device.deviceName.getD device.deviceId) +
    textBytes device.platform + textBytes ("Unix " ++ toString device.lastSeenAt) +
    flagBytes (device.deviceId = service.deviceId.text) + flagBytes device.revokedAt.isSome + 70

/-- Everything in the frame of a snapshot but the records. -/
def restSize (service : AgentService) (sequence : Nat) : Nat :=
  2 * digits service.revision + listSize (remoteDeviceSize service) service.shownDevices +
    textBytes service.tokenhubModel + flagBytes (service.tokenhubConfigured.getD false) + 1 +
    textBytes service.proxyAddress + flagBytes service.providerProxyEnabled +
    flagBytes service.updateProxyEnabled +
    textBytes (service.serverOrigin.getD defaultServerUrl) + textBytes (service.username.getD "") +
    textBytes service.deviceName + textBytes service.syncStatus + textBytes service.updateStatus +
    digits service.popupIdleTimeoutSecs + flagBytes service.launchMinimized +
    textBytes service.globalHotkey + flagBytes service.startAtLogin + digits sequence + 551

section Sizes

theorem textBytes_toHex (key : ContentKey) : textBytes key.toHex = 64 := by
  have length := Hex.length_encode key.bytes
  rw [key.size] at length
  rw [Json.textBytes_plain, ContentKey.toHex, String.toList_ofList, length]
  intro character member
  rw [ContentKey.toHex, String.toList_ofList] at member
  exact Json.escapedBytes_hex member

theorem size_record (data : UiRecordData) : (record data).size = recordSize data := by
  have key := textBytes_toHex data.key
  unfold UiRecordSnapshot.size recordSize record
  dsimp only
  omega

theorem listSize_map {τ υ : Type} {size : υ → Nat} {weight : τ → Nat} {write : τ → υ}
    (same : ∀ value, size (write value) = weight value) (values : List τ) :
    listSize size (values.map write) = listSize weight values := by
  unfold listSize
  have each : (values.map write).map size = values.map weight := by
    rw [List.map_map]
    exact List.map_congr_left (fun value _ => same value)
  rw [each, List.length_map]

theorem listSize_records (page : List UiRecordData) :
    listSize UiRecordSnapshot.size (records page) = pageSize page :=
  listSize_map size_record page

theorem snapshotFrameSize_eq (service : AgentService) (sequence : Nat) :
    snapshotFrameSize sequence service.snapshot =
      pageSize (AgentService.listed service.history) +
        pageSize (AgentService.listed service.favorites) + restSize service sequence := by
  have devices : listSize DeviceSnapshot.size
      (service.shownDevices.map service.deviceSnapshot) =
        listSize (remoteDeviceSize service) service.shownDevices :=
    listSize_map (fun _ => rfl) service.shownDevices
  have kind : digits service.snapshot.main.proxyKind = 1 := by
    cases found : service.proxyKind <;> simp only [AgentService.snapshot, found] <;> decide
  have rest : service.snapshot.main.restSize + digits service.snapshot.revision +
      digits sequence + 191 = restSize service sequence := by
    unfold MainUiSnapshot.restSize restSize
    rw [kind]
    change digits service.revision + listSize DeviceSnapshot.size
      (service.shownDevices.map service.deviceSnapshot) + _ + _ + 1 + _ + _ + _ + _ + _ + _ + _ +
      _ + UiPreferenceSnapshot.size service.preferenceSnapshot + 275 + digits service.revision +
      digits sequence + 191 = _
    rw [devices]
    unfold UiPreferenceSnapshot.size AgentService.preferenceSnapshot AgentService.snapshot
    dsimp only
    omega
  unfold snapshotFrameSize
  rw [← rest]
  change listSize UiRecordSnapshot.size (records (AgentService.listed service.history)) +
    listSize UiRecordSnapshot.size (records (AgentService.listed service.favorites)) + _ + _ + _ +
      191 = _
  rw [listSize_records, listSize_records]
  omega

theorem refreshCollections_ok {service : AgentService} {patch : MainUiPatch} :
    service.refreshCollections = .ok patch ↔ ∃ history favorites,
      service.history = .ok history ∧ service.favorites = .ok favorites ∧
        patch = { baseRevision := service.revision
                  revision := (service.revision + 1) % 2 ^ 64
                  history := some (records history)
                  favorites := some (records favorites) } := by
  unfold AgentService.refreshCollections
  constructor
  · intro built
    obtain ⟨history, read, later⟩ := bind_ok_iff.mp built
    obtain ⟨favorites, found, whole⟩ := bind_ok_iff.mp later
    cases whole
    exact ⟨history, favorites, read, found, rfl⟩
  · rintro ⟨history, favorites, read, found, rfl⟩
    rw [read, found]
    rfl

theorem length_snapshot (service : AgentService) (sessionId messageId : Uuid) (sequence : Nat) :
    (frameBody UiSnapshot.json ⟨sessionId, sequence, messageId, service.snapshot⟩).length =
      pageSize (AgentService.listed service.history) +
        pageSize (AgentService.listed service.favorites) + restSize service sequence :=
  (bytes_snapshotFrame ⟨sessionId, sequence, messageId, service.snapshot⟩).trans
    (snapshotFrameSize_eq service sequence)

theorem length_collections (sessionId messageId : Uuid) (sequence baseRevision revision : Nat)
    (history favorites : List UiRecordData) :
    (frameBody MainUiPatch.json ⟨sessionId, sequence, messageId,
        { baseRevision, revision, history := some (records history)
          favorites := some (records favorites) }⟩).length =
      pageSize history + pageSize favorites + digits baseRevision + digits revision +
        digits sequence + 513 := by
  refine (bytes_collectionsFrame _ rfl).trans ?_
  rw [collectionsFrameSize, listSize_records, listSize_records]

end Sizes

/-- The start of the GUI and the update of its collections go through exactly if the texts of
the listed records, of the devices and of the settings, as they are escaped, leave room. -/
theorem gui_can_start_iff (service : AgentService) (sessionId messageId patchId : Uuid)
    (sequence patchSequence : Nat) :
    ((∃ frame, writeFrame (frameBody UiSnapshot.json
        ⟨sessionId, sequence, messageId, service.snapshot⟩) = .ok frame) ∧
      ∀ patch, service.refreshCollections = .ok patch →
        ∃ frame, writeFrame (frameBody MainUiPatch.json
          ⟨sessionId, patchSequence, patchId, patch⟩) = .ok frame) ↔
    pageSize (AgentService.listed service.history) +
      pageSize (AgentService.listed service.favorites) + restSize service sequence ≤
        maxFrameBytes ∧
      ∀ history favorites, service.history = .ok history → service.favorites = .ok favorites →
        pageSize history + pageSize favorites + digits service.revision +
          digits ((service.revision + 1) % 2 ^ 64 : Nat) + digits patchSequence + 513 ≤
            maxFrameBytes := by
  rw [writeFrame_iff, length_snapshot]
  refine and_congr_right' ?_
  constructor
  · intro all history favorites read found
    have built := all _ (refreshCollections_ok.mpr ⟨history, favorites, read, found, rfl⟩)
    rw [writeFrame_iff, length_collections] at built
    exact built
  · intro all patch built
    obtain ⟨history, favorites, read, found, rfl⟩ := refreshCollections_ok.mp built
    rw [writeFrame_iff, length_collections]
    exact all history favorites read found

/-! Three words are imported, each with the longest translation that an import takes, all of it
vertical tabs. -/

namespace Sample

/-- SHA-256 of the identity bytes of the word "garden". -/
def gardenKey : ContentKey :=
  ⟨[0x4c, 0x3b, 0x07, 0x69, 0x80, 0x11, 0xc8, 0x7f, 0x77, 0x25, 0x2c, 0x31, 0x6c, 0x20, 0x63,
    0x2c, 0xb9, 0x3f, 0x1c, 0xc9, 0xcb, 0x7a, 0xea, 0x00, 0x46, 0x04, 0x26, 0x45, 0x58, 0x8c, 0xd3,
    0xc9], rfl⟩

/-- The tables with the digest on the three words. -/
@[reducible] def threeWords : ContentTables :=
  asciiTables (fun bytes =>
    if bytes = Hex.utf8 "1\x00word\x00en\x00gift".toList then giftKey
    else if bytes = Hex.utf8 "1\x00word\x00en\x00house".toList then houseKey
    else if bytes = Hex.utf8 "1\x00word\x00en\x00garden".toList then gardenKey
    else otherKey)

def words : List (ContentKey × String) :=
  [(giftKey, "gift"), (houseKey, "house"), (gardenKey, "garden")]

end Sample

section Imported

attribute [local instance] Sample.threeWords

def verticalTab : Char := Char.ofNat 11

def blankText : String := String.ofList (List.replicate maxTranslationBytes verticalTab)

def portableWord (translation : String) (word : ContentKey × String) : PortableHistory where
  content := ⟨word.1.toHex, 1, "word", "en", word.2, word.2⟩
  translation := ⟨"zh-CN", translation, "tokenhub", 60⟩
  lastQueriedAt := 60

def importedWord (translation : String) (word : ContentKey × String) : HistoryEntry :=
  ⟨⟨word.1, 1, .word, System.Sample.english, word.2, word.2⟩,
    ⟨System.Sample.chinese, translation, "tokenhub", 60⟩, 60⟩

def wordsExport (translation : String) : PortableDataExport where
  format := portableFormat
  exportVersion := exportFormatVersion
  appVersion := softwareVersion
  schemaVersion := 2
  username := none
  history := Sample.words.map (portableWord translation)
  favorites := []
  queryStatsArchive := []

def validatedWords (translation : String) : ValidatedExport where
  history := Sample.words.map (importedWord translation)
  favorites := []
  historyKeys := Sample.words.map Prod.fst
  queryStatsCount := 0

def importWords (translation : String) : Call :=
  .importData (wordsExport translation) 71 (fun _ => System.Sample.eventId 5)

theorem blankText_allowed :
    translationAllowed ⟨"zh-CN", blankText, "tokenhub", 60⟩ = true := by
  have size : verticalTab.utf8Size = 1 := by decide
  have blank : (isControl verticalTab && !isWhitespace verticalTab) = false := by decide
  have provider : "tokenhub".utf8ByteSize ≤ maxProviderBytes ∧
      "tokenhub".toList.any isControl = false := by
    decide
  have written : blankText.toList ≠ [] := by
    unfold blankText maxTranslationBytes
    rw [String.toList_ofList, Ne, List.replicate_eq_nil_iff]
    decide
  have length : blankText.utf8ByteSize = maxTranslationBytes := by
    unfold blankText
    rw [Json.utf8ByteSize_replicate, size, Nat.mul_one]
  have clean : blankText.toList.any
      (fun character => isControl character && !isWhitespace character) = false := by
    unfold blankText
    rw [String.toList_ofList, List.any_replicate, blank]
    simp
  unfold translationAllowed
  dsimp only
  rw [length, clean, provider.2]
  simp [written, provider.1]

theorem validateExport_words {translation : String}
    (allowed : translationAllowed ⟨"zh-CN", translation, "tokenhub", 60⟩ = true) :
    validateExport (wordsExport translation) = .ok (validatedWords translation) := by
  have contents : ∀ word ∈ Sample.words,
      validateContent (portableWord "" word).content = .ok (importedWord "" word).content := by
    decide +kernel
  have each : ∀ word ∈ Sample.words,
      validateHistory (portableWord translation word) = .ok (importedWord translation word) := by
    intro word member
    apply validateHistory_iff.mpr
    have language : LanguageCode.parse "zh-CN" = .ok System.Sample.chinese := by decide +kernel
    have queried : (0 : Int) ≤ 60 := by decide
    refine ⟨queried, Int.le_refl _, ?_, contents word member, rfl⟩
    exact validateTranslation_iff.mpr ⟨allowed, System.Sample.chinese, language, rfl⟩
  have header : HeaderAllowed (wordsExport "") := by
    unfold HeaderAllowed
    decide +kernel
  have keys : ((validatedWords "").history.map
      (fun entry => entry.content.contentKey)).Nodup := by
    decide +kernel
  apply validateExport_iff.mpr
  refine ⟨header, ?_, keys, .nil, List.nodup_nil, ?_, ⟨[], .nil, List.nodup_nil⟩, rfl, rfl⟩
  · change List.Forall₂ _ (Sample.words.map _) (Sample.words.map _)
    rw [List.forall₂_map_left_iff, List.forall₂_map_right_iff, List.forall₂_same]
    exact each
  · rintro favorite ⟨⟩

def emptyDesk : ProfileDb := ProfileDb.initial (System.Sample.eventId 0) "desk" 50

/-- What the import leaves in the Profile. -/
theorem importWords_rows {translation : String}
    (allowed : translationAllowed ⟨"zh-CN", translation, "tokenhub", 60⟩ = true) :
    ((importWords translation).perform emptyDesk).historyEntries.rows =
        Sample.words.map (fun word => (word.1, importedWord translation word)) ∧
      ((importWords translation).perform emptyDesk).favorites = .empty := by
  have imported : (importWords translation).perform emptyDesk =
      (applyPortableImport emptyDesk ⟨emptyDesk.profileMeta.profileId,
        validatedWords translation⟩ 71 (fun _ => System.Sample.eventId 5)).1 := by
    change importPortable emptyDesk (wordsExport translation) 71 _ = _
    unfold importPortable
    rw [validateExport_words allowed]
  rw [imported]
  exact ⟨rfl, rfl⟩

def listedWord (db : ProfileDb) (translation : String) (word : ContentKey × String) :
    UiRecordData :=
  ⟨word.1, word.2, translation, effectiveCount db word.1, false, "tokenhub"⟩

theorem listed_imported {translation : String}
    (allowed : translationAllowed ⟨"zh-CN", translation, "tokenhub", 60⟩ = true)
    {service : AgentService}
    (database : service.database = (importWords translation).perform emptyDesk) :
    service.history = .ok (Sample.words.map (listedWord service.database translation)) ∧
      service.favorites = .ok [] := by
  obtain ⟨rows, favorites⟩ := importWords_rows allowed
  rw [← database] at rows favorites
  constructor
  · have found : searchHistory service.database "" historyPageLimit =
        Sample.words.map (importedWord translation) := by
      rw [searchHistory_empty, rows]
      rfl
    have each : ∀ entry ∈ Sample.words.map (importedWord translation),
        UiDataService.historyRecord service.database entry = .ok ⟨entry.content.contentKey,
          entry.content.sourceText, entry.translation.translation,
          effectiveCount service.database entry.content.contentKey, false,
          entry.translation.provider⟩ := by
      intro entry _
      unfold UiDataService.historyRecord favoriteByKey favoriteTx
      dsimp only
      rw [favorites, Relational.Table.get_empty]
      rfl
    unfold AgentService.history UiDataService.history
    rw [found]
    exact mapM_ok each
  · unfold AgentService.favorites UiDataService.favorites searchFavorites
    rw [favorites]
    rfl

theorem pageSize_words (db : ProfileDb) (translation : String) :
    3 * textBytes translation ≤ pageSize (Sample.words.map (listedWord db translation)) := by
  have each (word : ContentKey × String) :
      textBytes translation ≤ recordSize (listedWord db translation word) := by
    unfold recordSize listedWord
    dsimp only
    omega
  have gift := each (Sample.giftKey, "gift")
  have house := each (Sample.houseKey, "house")
  have garden := each (Sample.gardenKey, "garden")
  unfold pageSize listSize Sample.words
  simp only [List.map_cons, List.map_nil, List.sum_cons, List.sum_nil]
  omega

theorem textBytes_blankText : textBytes blankText = maxTranslationBytes * 6 := by
  have tab : Json.escapedBytes verticalTab = 6 := by decide
  rw [blankText, Json.textBytes_replicate, tab]

/-- The document passes the validator of the import, and afterwards neither the snapshot that
the GUI starts from nor an update of its collections can be framed, whatever else the Agent
holds. -/
theorem large_import_stops_gui :
    validateExport (wordsExport blankText) = .ok (validatedWords blankText) ∧
    Reachable ((importWords blankText).perform emptyDesk) ∧
    ∀ service : AgentService,
      service.database = (importWords blankText).perform emptyDesk →
      ∀ (sessionId messageId : Uuid) (sequence : Nat),
        (∀ frame, writeFrame (frameBody UiSnapshot.json
          ⟨sessionId, sequence, messageId, service.snapshot⟩) ≠ .ok frame) ∧
        ∃ patch, service.refreshCollections = .ok patch ∧
          ∀ frame, writeFrame (frameBody MainUiPatch.json
            ⟨sessionId, sequence, messageId, patch⟩) ≠ .ok frame := by
  refine ⟨validateExport_words blankText_allowed,
    (Reachable.initial (System.Sample.eventId 0) "desk" 50).called _ rfl, ?_⟩
  intro service database sessionId messageId sequence
  obtain ⟨history, favorites⟩ := listed_imported blankText_allowed database
  have large : maxFrameBytes <
      pageSize (Sample.words.map (listedWord service.database blankText)) := by
    have room : maxFrameBytes < 3 * (maxTranslationBytes * 6) := by decide
    have words := pageSize_words service.database blankText
    rw [textBytes_blankText] at words
    exact Nat.lt_of_lt_of_le room words
  refine ⟨?_, _, refreshCollections_ok.mpr ⟨_, _, history, favorites, rfl⟩, ?_⟩
  · intro frame written
    have fits := (writeFrame_iff _).mp ⟨frame, written⟩
    rw [length_snapshot, history] at fits
    change pageSize (Sample.words.map (listedWord service.database blankText)) + _ + _ ≤ _ at fits
    omega
  · intro frame written
    have fits := (writeFrame_iff _).mp ⟨frame, written⟩
    rw [length_collections] at fits
    omega

end Imported

end Lvos.System.Ui
