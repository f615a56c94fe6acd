import Lvos.Ipc.Protocol
import Lvos.Sync.Wire

set_option autoImplicit false

namespace Lvos.Ipc

open Lvos.Core
open Lvos.Sync (digits)
open Json (object array quoted number boolean null bytes textBytes bytes_object_cons
  bytes_object_single)

/-! The messages with the state of the main window as they are framed, and the bytes they take. -/

def protocolVersion : Nat := 2

def maxFrameBytes : Nat := 1048576

structure Envelope (τ : Type) where
  sessionId : Uuid
  sequence : Nat
  messageId : Uuid
  payload : τ

def optional {τ : Type} (write : τ → List Char) (value : Option τ) : List Char :=
  (value.map write).getD null

def UiRecordSnapshot.json (record : UiRecordSnapshot) : List Char :=
  object [("key", quoted record.key), ("source", quoted record.source),
    ("translation", quoted record.translation), ("count", number record.count),
    ("favorite", boolean record.favorite), ("metadata", quoted record.metadata)]

def DeviceSnapshot.json (device : DeviceSnapshot) : List Char :=
  object [("id", quoted device.id), ("name", quoted device.name),
    ("platform", quoted device.platform), ("last_seen", quoted device.lastSeen),
    ("current", boolean device.current), ("revoked", boolean device.revoked)]

def UiPreferenceSnapshot.json (preferences : UiPreferenceSnapshot) : List Char :=
  object [("popup_idle_timeout_secs", number preferences.popupIdleTimeoutSecs),
    ("launch_minimized", boolean preferences.launchMinimized),
    ("global_hotkey", quoted preferences.globalHotkey),
    ("start_at_login", boolean preferences.startAtLogin)]

def FeedbackLevel.wireName : FeedbackLevel → String
  | .info => "info"
  | .success => "success"
  | .error => "error"

def UiFeedback.json (feedback : UiFeedback) : List Char :=
  object [("message", quoted feedback.message), ("level", quoted feedback.level.wireName)]

def recordsJson (records : List UiRecordSnapshot) : List Char :=
  array (records.map UiRecordSnapshot.json)

def devicesJson (devices : List DeviceSnapshot) : List Char :=
  array (devices.map DeviceSnapshot.json)

def MainUiSnapshot.json (main : MainUiSnapshot) : List Char :=
  object [("revision", number main.revision), ("history", recordsJson main.history),
    ("favorites", recordsJson main.favorites), ("devices", devicesJson main.devices),
    ("tokenhub_model", quoted main.tokenhubModel),
    ("tokenhub_configured", boolean main.tokenhubConfigured),
    ("proxy_kind", number main.proxyKind), ("proxy_address", quoted main.proxyAddress),
    ("provider_proxy_enabled", boolean main.providerProxyEnabled),
    ("update_proxy_enabled", boolean main.updateProxyEnabled),
    ("server_url", quoted main.serverUrl), ("username", quoted main.username),
    ("current_device", quoted main.currentDevice), ("sync_status", quoted main.syncStatus),
    ("update_status", quoted main.updateStatus), ("preferences", main.preferences.json)]

/-- `AgentToUi::Snapshot`, tagged inside. -/
def UiSnapshot.json (snapshot : UiSnapshot) : List Char :=
  object [("message", quoted "snapshot"), ("revision", number snapshot.revision),
    ("main", snapshot.main.json)]

/-- `AgentToUi::Patch`, tagged inside; a field without a value is `null`. -/
def MainUiPatch.json (patch : MainUiPatch) : List Char :=
  object [("message", quoted "patch"), ("base_revision", number patch.baseRevision),
    ("revision", number patch.revision), ("history", optional recordsJson patch.history),
    ("favorites", optional recordsJson patch.favorites),
    ("devices", optional devicesJson patch.devices),
    ("tokenhub_model", optional quoted patch.tokenhubModel),
    ("tokenhub_configured", optional boolean patch.tokenhubConfigured),
    ("proxy_kind", optional (fun kind : Nat => number kind) patch.proxyKind),
    ("proxy_address", optional quoted patch.proxyAddress),
    ("provider_proxy_enabled", optional boolean patch.providerProxyEnabled),
    ("update_proxy_enabled", optional boolean patch.updateProxyEnabled),
    ("server_url", optional quoted patch.serverUrl), ("username", optional quoted patch.username),
    ("current_device", optional quoted patch.currentDevice),
    ("sync_status", optional quoted patch.syncStatus),
    ("update_status", optional quoted patch.updateStatus),
    ("preferences", optional UiPreferenceSnapshot.json patch.preferences),
    ("feedback", optional UiFeedback.json patch.feedback)]

def Envelope.json {τ : Type} (write : τ → List Char) (envelope : Envelope τ) : List Char :=
  object [("protocol_version", number protocolVersion),
    ("session_id", quoted envelope.sessionId.text), ("sequence", number envelope.sequence),
    ("message_id", quoted envelope.messageId.text), ("payload", write envelope.payload)]

inductive FrameError
  | frameTooLarge (size : Nat)
deriving DecidableEq, Repr

/-- `u32::to_be_bytes`. -/
def toBeBytes (value : Nat) : List UInt8 :=
  [UInt8.ofNat (value / 2 ^ 24), UInt8.ofNat (value / 2 ^ 16), UInt8.ofNat (value / 2 ^ 8),
    UInt8.ofNat value]

/-- `write_frame` to a writer that takes everything: what it writes of a serialized value. -/
def writeFrame (body : List UInt8) : Except FrameError (List UInt8) :=
  if maxFrameBytes < body.length then .error (.frameTooLarge body.length)
  else if 2 ^ 32 ≤ body.length then .error (.frameTooLarge body.length)
  else .ok (toBeBytes body.length ++ body)

theorem writeFrame_iff (body : List UInt8) :
    (∃ frame, writeFrame body = .ok frame) ↔ body.length ≤ maxFrameBytes := by
  unfold writeFrame maxFrameBytes
  constructor
  · rintro ⟨frame, written⟩
    split at written
    · cases written
    · omega
  · intro fits
    rw [if_neg (by omega), if_neg (by omega)]
    exact ⟨_, rfl⟩

/-! What each takes: its texts as they are escaped, the digits of its numbers, and a constant
for its names and brackets. -/

def flagBytes (value : Bool) : Nat := if value then 4 else 5

/-- A page of records or a list of devices. -/
def listSize {τ : Type} (size : τ → Nat) (values : List τ) : Nat :=
  (values.map size).sum + (values.length - 1) + 2

def UiRecordSnapshot.size (record : UiRecordSnapshot) : Nat :=
  textBytes record.key + textBytes record.source + textBytes record.translation +
    digits record.count + flagBytes record.favorite + textBytes record.metadata + 74

def DeviceSnapshot.size (device : DeviceSnapshot) : Nat :=
  textBytes device.id + textBytes device.name + textBytes device.platform +
    textBytes device.lastSeen + flagBytes device.current + flagBytes device.revoked + 70

def UiPreferenceSnapshot.size (preferences : UiPreferenceSnapshot) : Nat :=
  digits preferences.popupIdleTimeoutSecs + flagBytes preferences.launchMinimized +
    textBytes preferences.globalHotkey + flagBytes preferences.startAtLogin + 85

/-- The main state without its records. -/
def MainUiSnapshot.restSize (main : MainUiSnapshot) : Nat :=
  digits main.revision + listSize DeviceSnapshot.size main.devices +
    textBytes main.tokenhubModel + flagBytes main.tokenhubConfigured + digits main.proxyKind +
    textBytes main.proxyAddress + flagBytes main.providerProxyEnabled +
    flagBytes main.updateProxyEnabled + textBytes main.serverUrl + textBytes main.username +
    textBytes main.currentDevice + textBytes main.syncStatus + textBytes main.updateStatus +
    main.preferences.size + 275

def snapshotFrameSize (sequence : Nat) (snapshot : UiSnapshot) : Nat :=
  listSize UiRecordSnapshot.size snapshot.main.history +
    listSize UiRecordSnapshot.size snapshot.main.favorites + snapshot.main.restSize +
    digits snapshot.revision + digits sequence + 191

/-- A patch with the two pages of records only. -/
def collectionsFrameSize (sequence baseRevision revision : Nat)
    (history favorites : List UiRecordSnapshot) : Nat :=
  listSize UiRecordSnapshot.size history + listSize UiRecordSnapshot.size favorites +
    digits baseRevision + digits revision + digits sequence + 513

section Sizes

theorem bytes_boolean (value : Bool) : bytes (boolean value) = flagBytes value := by
  cases value <;> decide

theorem bytes_list {τ : Type} {write : τ → List Char} {size : τ → Nat}
    (sizes : ∀ value, bytes (write value) = size value) (values : List τ) :
    bytes (array (values.map write)) = listSize size values := by
  have each : (values.map write).map bytes = values.map size := by
    rw [List.map_map]
    exact List.map_congr_left (fun value _ => sizes value)
  rw [Json.bytes_array, each, List.length_map, listSize]

theorem UiRecordSnapshot.bytes_json (record : UiRecordSnapshot) :
    bytes record.json = record.size := by
  have names : textBytes "key" = 3 ∧ textBytes "source" = 6 ∧ textBytes "translation" = 11 ∧
      textBytes "count" = 5 ∧ textBytes "favorite" = 8 ∧ textBytes "metadata" = 8 := by
    decide
  unfold UiRecordSnapshot.json UiRecordSnapshot.size digits
  simp only [bytes_object_cons, bytes_object_single, Json.bytes_quoted, bytes_boolean, names]
  omega

theorem DeviceSnapshot.bytes_json (device : DeviceSnapshot) :
    bytes device.json = device.size := by
  have names : textBytes "id" = 2 ∧ textBytes "name" = 4 ∧ textBytes "platform" = 8 ∧
      textBytes "last_seen" = 9 ∧ textBytes "current" = 7 ∧ textBytes "revoked" = 7 := by
    decide
  unfold DeviceSnapshot.json DeviceSnapshot.size
  simp only [bytes_object_cons, bytes_object_single, Json.bytes_quoted, bytes_boolean, names]
  omega

theorem UiPreferenceSnapshot.bytes_json (preferences : UiPreferenceSnapshot) :
    bytes preferences.json = preferences.size := by
  have names : textBytes "popup_idle_timeout_secs" = 23 ∧ textBytes "launch_minimized" = 16 ∧
      textBytes "global_hotkey" = 13 ∧ textBytes "start_at_login" = 14 := by
    decide
  unfold UiPreferenceSnapshot.json UiPreferenceSnapshot.size digits
  simp only [bytes_object_cons, bytes_object_single, Json.bytes_quoted, bytes_boolean, names]
  omega

theorem MainUiSnapshot.bytes_json (main : MainUiSnapshot) :
    bytes main.json = listSize UiRecordSnapshot.size main.history +
      listSize UiRecordSnapshot.size main.favorites + main.restSize := by
  have names : textBytes "revision" = 8 ∧ textBytes "history" = 7 ∧ textBytes "favorites" = 9 ∧
      textBytes "devices" = 7 ∧ textBytes "tokenhub_model" = 14 ∧
      textBytes "tokenhub_configured" = 19 ∧ textBytes "proxy_kind" = 10 ∧
      textBytes "proxy_address" = 13 ∧ textBytes "provider_proxy_enabled" = 22 ∧
      textBytes "update_proxy_enabled" = 20 ∧ textBytes "server_url" = 10 ∧
      textBytes "username" = 8 ∧ textBytes "current_device" = 14 ∧
      textBytes "sync_status" = 11 ∧ textBytes "update_status" = 13 ∧
      textBytes "preferences" = 11 := by
    decide
  unfold MainUiSnapshot.json MainUiSnapshot.restSize recordsJson devicesJson digits
  simp only [bytes_object_cons, bytes_object_single, Json.bytes_quoted, bytes_boolean, names,
    bytes_list UiRecordSnapshot.bytes_json, bytes_list DeviceSnapshot.bytes_json,
    UiPreferenceSnapshot.bytes_json]
  omega

theorem textBytes_uuid (id : Uuid) : textBytes id.text = 36 := by
  have length := Hex.length_encode id.bytes
  rw [id.size] at length
  have plain : ∀ character ∈ id.text.toList, Json.escapedBytes character = 1 := by
    have hyphen : Json.escapedBytes '-' = 1 := by decide
    have digit : ∀ character ∈ Hex.encode id.bytes, Json.escapedBytes character = 1 :=
      fun character member => Json.escapedBytes_hex member
    intro character member
    rw [Uuid.text, String.toList_ofList, hyphenate] at member
    simp only [List.mem_append, List.mem_cons] at member
    rcases member with (((first | rfl | second) | rfl | third) | rfl | fourth) | rfl | last
    · exact digit character (List.mem_of_mem_take first)
    · exact hyphen
    · exact digit character (List.mem_of_mem_drop (List.mem_of_mem_take second))
    · exact hyphen
    · exact digit character (List.mem_of_mem_drop (List.mem_of_mem_take third))
    · exact hyphen
    · exact digit character (List.mem_of_mem_drop (List.mem_of_mem_take fourth))
    · exact hyphen
    · exact digit character (List.mem_of_mem_drop last)
  rw [Json.textBytes_plain plain, Uuid.text, String.toList_ofList, hyphenate]
  simp only [List.length_append, List.length_cons, List.length_take, List.length_drop, length]
  omega

theorem Envelope.bytes_json {τ : Type} (write : τ → List Char) (envelope : Envelope τ) :
    bytes (envelope.json write) = bytes (write envelope.payload) + digits envelope.sequence + 149 := by
  have names : textBytes "protocol_version" = 16 ∧ textBytes "session_id" = 10 ∧
      textBytes "sequence" = 8 ∧ textBytes "message_id" = 10 ∧ textBytes "payload" = 7 ∧
      bytes (number protocolVersion) = 1 := by
    decide
  unfold Envelope.json digits
  simp only [bytes_object_cons, bytes_object_single, Json.bytes_quoted, textBytes_uuid, names]
  omega

theorem bytes_snapshotFrame (envelope : Envelope UiSnapshot) :
    bytes (envelope.json UiSnapshot.json) =
      snapshotFrameSize envelope.sequence envelope.payload := by
  have names : textBytes "message" = 7 ∧ textBytes "snapshot" = 8 ∧ textBytes "revision" = 8 ∧
      textBytes "main" = 4 := by
    decide
  rw [Envelope.bytes_json]
  unfold UiSnapshot.json snapshotFrameSize digits
  simp only [bytes_object_cons, bytes_object_single, Json.bytes_quoted, names,
    MainUiSnapshot.bytes_json]
  omega

theorem bytes_collectionsFrame (envelope : Envelope MainUiPatch) {baseRevision revision : Nat}
    {history favorites : List UiRecordSnapshot}
    (payload : envelope.payload =
      { baseRevision, revision, history := some history, favorites := some favorites }) :
    bytes (envelope.json MainUiPatch.json) =
      collectionsFrameSize envelope.sequence baseRevision revision history favorites := by
  have names : textBytes "message" = 7 ∧ textBytes "patch" = 5 ∧ textBytes "base_revision" = 13 ∧
      textBytes "revision" = 8 ∧ textBytes "history" = 7 ∧ textBytes "favorites" = 9 ∧
      textBytes "devices" = 7 ∧ textBytes "tokenhub_model" = 14 ∧
      textBytes "tokenhub_configured" = 19 ∧ textBytes "proxy_kind" = 10 ∧
      textBytes "proxy_address" = 13 ∧ textBytes "provider_proxy_enabled" = 22 ∧
      textBytes "update_proxy_enabled" = 20 ∧ textBytes "server_url" = 10 ∧
      textBytes "username" = 8 ∧ textBytes "current_device" = 14 ∧
      textBytes "sync_status" = 11 ∧ textBytes "update_status" = 13 ∧
      textBytes "preferences" = 11 ∧ textBytes "feedback" = 8 ∧ bytes null = 4 := by
    decide
  rw [Envelope.bytes_json, payload]
  unfold MainUiPatch.json collectionsFrameSize digits optional recordsJson
  simp only [Option.map_some, Option.map_none, Option.getD_some, Option.getD_none,
    bytes_object_cons, bytes_object_single, Json.bytes_quoted, names,
    bytes_list UiRecordSnapshot.bytes_json]
  omega

end Sizes

end Lvos.Ipc
