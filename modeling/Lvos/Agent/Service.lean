import Lvos.Desktop.UiService
import Lvos.Ipc.Frames

set_option autoImplicit false

namespace Lvos.Agent

open Lvos.Core Lvos.Storage Lvos.Ipc Lvos.Desktop
open Lvos.Sync (digits)
open Json (textBytes)

def defaultServerUrl : String := "https://lvos.niuniu770.site"

structure RemoteDevice where
  deviceId : String
  platform : String
  deviceName : Option String
  lastSeenAt : Int
  revokedAt : Option Int

inductive ProxyKind
  | http
  | socks5

/-- What `snapshot` reads. `devices` and `tokenhubConfigured` have no value where the request
or the credential store fails. -/
structure AgentService where
  database : ProfileDb
  revision : Nat
  authenticated : Bool
  devices : Option (List RemoteDevice)
  tokenhubModel : String
  tokenhubConfigured : Option Bool
  proxyKind : ProxyKind
  proxyAddress : String
  providerProxyEnabled : Bool
  updateProxyEnabled : Bool
  serverOrigin : Option String
  username : Option String
  deviceId : Uuid
  deviceName : String
  syncStatus : String
  updateStatus : String
  popupIdleTimeoutSecs : Nat
  launchMinimized : Bool
  globalHotkey : String
  startAtLogin : Bool

def record (data : UiRecordData) : UiRecordSnapshot where
  key := data.key.toHex
  source := data.source
  translation := data.translation
  count := data.count
  favorite := data.favorite
  metadata := data.metadata

def records (values : List UiRecordData) : List UiRecordSnapshot := values.map record

namespace AgentService

def history (service : AgentService) : StorageResult (List UiRecordData) :=
  UiDataService.history service.database "" historyPageLimit

def favorites (service : AgentService) : StorageResult (List UiRecordData) :=
  UiDataService.favorites service.database "" historyPageLimit

/-- `unwrap_or_default`. -/
def listed (page : StorageResult (List UiRecordData)) : List UiRecordData :=
  page.toOption.getD []

def deviceSnapshot (service : AgentService) (device : RemoteDevice) : DeviceSnapshot where
  id := device.deviceId
  name := device.deviceName.getD device.deviceId
  platform := device.platform
  lastSeen := "Unix " ++ toString device.lastSeenAt
  current := device.deviceId = service.deviceId.text
  revoked := device.revokedAt.isSome

def shownDevices (service : AgentService) : List RemoteDevice :=
  if service.authenticated then service.devices.getD [] else []

def preferenceSnapshot (service : AgentService) : UiPreferenceSnapshot :=
  ⟨service.popupIdleTimeoutSecs, service.launchMinimized, service.globalHotkey,
    service.startAtLogin⟩

def snapshot (service : AgentService) : UiSnapshot where
  revision := service.revision
  main := {
    revision := service.revision
    history := records (listed service.history)
    favorites := records (listed service.favorites)
    devices := service.shownDevices.map service.deviceSnapshot
    tokenhubModel := service.tokenhubModel
    tokenhubConfigured := service.tokenhubConfigured.getD false
    proxyKind := match service.proxyKind with
      | .http => 0
      | .socks5 => 1
    proxyAddress := service.proxyAddress
    providerProxyEnabled := service.providerProxyEnabled
    updateProxyEnabled := service.updateProxyEnabled
    serverUrl := service.serverOrigin.getD defaultServerUrl
    username := service.username.getD ""
    currentDevice := service.deviceName
    syncStatus := service.syncStatus
    updateStatus := service.updateStatus
    preferences := service.preferenceSnapshot }

/-- The patch that `refresh_collections` sends. -/
def refreshCollections (service : AgentService) : StorageResult MainUiPatch := do
  let history ← service.history
  let favorites ← service.favorites
  .ok {
    baseRevision := service.revision
    revision := (service.revision + 1) % 2 ^ 64
    history := some (records history)
    favorites := some (records favorites) }

end AgentService

end Lvos.Agent
