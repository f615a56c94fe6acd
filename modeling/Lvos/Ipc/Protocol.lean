import Lvos.Core.Identity

set_option autoImplicit false

namespace Lvos.Ipc

/-- A `Uuid::new_v4` of one process, as the number of the draw: none is drawn twice. -/
abbrev DrawnId := Nat

inductive LookupErrorKind
  | providerConfigurationRequired
  | providerUnauthorized
  | translationUnavailable
  | unsupportedInput
deriving DecidableEq, Repr

inductive LookupUiState
  | loading (queryId : Nat) (source : String)
  | ready (queryId : Nat) (contentKey source translation : String) (favorite : Bool)
      (effectiveQueryCount : Nat)
  | error (queryId : Nat) (source : String) (kind : LookupErrorKind)
deriving DecidableEq, Repr

def LookupUiState.queryId : LookupUiState → Nat
  | .loading queryId _ | .ready queryId _ _ _ _ _ | .error queryId _ _ => queryId

structure UiRecordSnapshot where
  key : String
  source : String
  translation : String
  count : Nat
  favorite : Bool
  metadata : String
deriving DecidableEq, Repr

structure DeviceSnapshot where
  id : String
  name : String
  platform : String
  lastSeen : String
  current : Bool
  revoked : Bool
deriving DecidableEq, Repr

structure UiPreferenceSnapshot where
  popupIdleTimeoutSecs : Nat
  launchMinimized : Bool
  globalHotkey : String
  startAtLogin : Bool
deriving DecidableEq, Repr

structure MainUiSnapshot where
  revision : Nat
  history : List UiRecordSnapshot
  favorites : List UiRecordSnapshot
  devices : List DeviceSnapshot
  tokenhubModel : String
  tokenhubConfigured : Bool
  proxyKind : Nat
  proxyAddress : String
  providerProxyEnabled : Bool
  updateProxyEnabled : Bool
  serverUrl : String
  username : String
  currentDevice : String
  syncStatus : String
  updateStatus : String
  preferences : UiPreferenceSnapshot
deriving DecidableEq, Repr

inductive FeedbackLevel
  | info
  | success
  | error
deriving DecidableEq, Repr

structure UiFeedback where
  message : String
  level : FeedbackLevel
deriving DecidableEq, Repr

structure MainUiPatch where
  baseRevision : Nat
  revision : Nat
  history : Option (List UiRecordSnapshot) := none
  favorites : Option (List UiRecordSnapshot) := none
  devices : Option (List DeviceSnapshot) := none
  tokenhubModel : Option String := none
  tokenhubConfigured : Option Bool := none
  proxyKind : Option Nat := none
  proxyAddress : Option String := none
  providerProxyEnabled : Option Bool := none
  updateProxyEnabled : Option Bool := none
  serverUrl : Option String := none
  username : Option String := none
  currentDevice : Option String := none
  syncStatus : Option String := none
  updateStatus : Option String := none
  preferences : Option UiPreferenceSnapshot := none
  feedback : Option UiFeedback := none
deriving DecidableEq, Repr

structure UiSnapshot where
  revision : Nat
  main : MainUiSnapshot
deriving DecidableEq, Repr

inductive UiOperation
  | historySearch (term : String)
  | favoritesSearch (term : String)
  | setFavorite (key : String) (active : Bool)
  | clearHistory
  | saveProviderSettings (tokenhubModel tokenhubKey : String) (providerProxyEnabled : Bool)
  | saveNetworkSettings (proxyAddress : String) (proxyKind : Nat)
      (providerProxyEnabled updateProxyEnabled : Bool)
  | testProvider (tokenhubModel tokenhubKey : String)
  | login (server username password : String)
  | logout
  | manualSync
  | testConnection (server : String)
  | revokeDevice (deviceId : String)
  | regenerateDeviceIdentity
  | exportData (path : String)
  | previewImport (path : String)
  | applyImport (token : DrawnId)
  | checkUpdate
  | updateGlobalHotkey (shortcut : String)
  | updateStartAtLogin (enabled : Bool)
  | updateLaunchMinimized (enabled : Bool)
  | updatePopupIdleTimeout (seconds : Nat)
  | popupFavoriteToggle (active : Bool)
  | popupRefresh (displaySessionId : DrawnId)
  | requestSnapshot
  | openAccessibilitySettings
  | requestAccessibilityPermission
  | restartAgent
deriving DecidableEq, Repr

inductive OperationOutput
  | none
  | importPreview (token : DrawnId) (historyAdd historyUpdate favoriteAdd favoriteReactivate
      queryStatsArchive : Nat)
deriving DecidableEq, Repr

structure OperationResult where
  responseTo : DrawnId
  success : Bool
  feedback : UiFeedback
  output : OperationOutput
deriving DecidableEq, Repr

inductive AgentToUi
  | handshakeAccepted (processGeneration : Nat)
  | snapshot (snapshot : UiSnapshot)
  | patch (patch : MainUiPatch)
  | beginLookup (displaySessionId : DrawnId) (state : LookupUiState)
  | updateLookup (displaySessionId : DrawnId) (state : LookupUiState)
  | hideLookup (displaySessionId : DrawnId)
  | openMainWindow
  | hideMainWindow
  | showPermission (status : String)
  | setDiagnosticAppearance (darkTheme reduceMotion : Bool)
  | operationResult (result : OperationResult)
  | idleExitApproved (requestId : DrawnId) (processGeneration : Nat)
  | shutdown
deriving DecidableEq, Repr

inductive UiToAgent
  | request (requestId : DrawnId) (operation : UiOperation)
  | lookupDismissed (displaySessionId : DrawnId)
  | uiBlockingChanged (blocked : Bool)
  | requestIdleExit (requestId : DrawnId) (processGeneration : Nat)
  | cancelIdleExit (requestId : DrawnId) (processGeneration : Nat)
  | exiting (processGeneration : Nat)
deriving DecidableEq, Repr

/-- The fields a patch has replace those of the snapshot. -/
def applyMainPatch (main : MainUiSnapshot) (patch : MainUiPatch) : MainUiSnapshot where
  revision := patch.revision
  history := patch.history.getD main.history
  favorites := patch.favorites.getD main.favorites
  devices := patch.devices.getD main.devices
  tokenhubModel := patch.tokenhubModel.getD main.tokenhubModel
  tokenhubConfigured := patch.tokenhubConfigured.getD main.tokenhubConfigured
  proxyKind := patch.proxyKind.getD main.proxyKind
  proxyAddress := patch.proxyAddress.getD main.proxyAddress
  providerProxyEnabled := patch.providerProxyEnabled.getD main.providerProxyEnabled
  updateProxyEnabled := patch.updateProxyEnabled.getD main.updateProxyEnabled
  serverUrl := patch.serverUrl.getD main.serverUrl
  username := patch.username.getD main.username
  currentDevice := patch.currentDevice.getD main.currentDevice
  syncStatus := patch.syncStatus.getD main.syncStatus
  updateStatus := patch.updateStatus.getD main.updateStatus
  preferences := patch.preferences.getD main.preferences

end Lvos.Ipc
