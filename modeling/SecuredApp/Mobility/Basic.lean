import Mathlib.Data.List.Infix
import SecuredApp.Gui.Basic

/-!
# The mobility client

`MobilityClient.py`: the report sent to the PSC and the handover it may order. NetworkManager is
given by the devices it lists and by what comes of each call a handover makes.
-/

namespace SecuredApp

open SecuredApp.Core

inductive DeviceType where
  | wifi
  | other
deriving DecidableEq

/-- An access point in the list of a device, with what comes of a handover to it: whether the stop
script can be run, whether NetworkManager activates the connection (the saved one that was found,
or else one that is added), the run of the start script, and the addresses the device has at each
attempt to read them, `none` where reading them raises. -/
structure Visit where
  ap : AccessPoint
  stop : Bool
  activate : Option SavedConnection → Bool
  start : StartEnv
  addresses : List (Option String)

/-- A device with its active access point, the attempts to read its address there, and the access
points it sees. -/
structure Device where
  deviceType : DeviceType
  activeAccessPoint : Option AccessPoint
  addresses : List (Option String)
  accessPoints : List Visit

/-- What a report meets: the PSC's reply to it, `none` if there is none that can be parsed, and
the devices, `none` if listing them raises. -/
structure ReportEnv where
  psc : Json → Option Json
  devices : Option (List Device)

/-! ### Connection information -/

/-- `str.strip`. -/
def strip (s : String) : List Char :=
  let blank := fun c => c ∈ [' ', '\t', '\n', '\r', '\x0b', '\x0c']
  ((s.toList.dropWhile blank).reverse.dropWhile blank).reverse

/-- `search_saved_connection`. -/
def searchSavedConnection (bssid ssid : String) : List SavedConnection → Option SavedConnection
  | [] => none
  | obj :: rest =>
    if bssid ≠ "" ∧ bssid ∈ obj.bssids then some obj
    else if strip ssid = strip obj.ssid ∧ ssid.toList <:+: obj.ssid.toList then some obj
    else searchSavedConnection bssid ssid rest

/-- `getIP`: `-1` if reading the addresses raises, or if they are the ones shown. -/
def getIP (shown : String) : Option String → String
  | none => "-1"
  | some addresses => if shown = addresses then "-1" else addresses

/-- The loop of at most ten attempts: the first address that is not `-1`, or else `-1`. -/
def tryAddresses (shown : String) : Nat → List (Option String) → String
  | 0, _ => "-1"
  | n + 1, attempts =>
    let addresses := getIP shown (attempts.head?.getD none)
    if addresses ≠ "-1" then addresses else tryAddresses shown n attempts.tail

/-- `updateConnectionInformation`. It does nothing if the access point is the recorded one. -/
def updateConnectionInformation (attempts : List (Option String)) (apName : String) :
    Py App Unit := do
  let app ← get
  if app.currentAP ≠ some apName then
    let addresses := tryAddresses app.ui.wifiIP 10 attempts
    setApIp apName (if addresses = "-1" then "" else addresses)
    callUpdateConnectionInfoView

/-- `getCurrentAP`, and `initiliazeConnectionInfo`, which does the same: the first Wi-Fi device
with an active access point counts. -/
def getCurrentAP (devices : Option (List Device)) : Py App Unit :=
  match devices with
  | none => pure ()
  | some devices =>
    match devices.find? fun dev => dev.deviceType = .wifi ∧ dev.activeAccessPoint.isSome with
    | none => pure ()
    | some dev =>
      match dev.activeAccessPoint with
      | none => pure ()
      | some ap => updateConnectionInformation dev.addresses ap.ssid

/-! ### Handover -/

/-- The call that activates the connection for an access point. -/
def activateConnection (v : Visit) : Py App Unit := do
  let app ← get
  let connection := searchSavedConnection v.ap.bssid v.ap.ssid app.mobClient.savedConnections
  if v.activate connection then modify fun app => { app with activeBssid := some v.ap.bssid }
  else throw .external

/-- The handover to an access point with the ordered BSSID. -/
def handover (v : Visit) : Py App Unit := do
  let app ← get
  let _ ← concatText app.activeIpsecConnection
  closeIPsecConnection v.stop
  activateConnection v
  let connName ← getIpsecConnectionFromSsid v.ap.ssid
  let connName ← concatText connName
  makeIPsecConnection v.start connName
  updateConnectionInformation v.addresses v.ap.ssid
  updateStatus .enforced

/-- The branch of `reportAPs` for the action 2. -/
def handoverNeeded (env : ReportEnv) (bssid : String) : Py App Unit := do
  let app ← get
  if ¬ app.mobClient.nmc then throw .attributeError
  match env.devices with
  | none => throw .external
  | some devices =>
    forM devices fun dev => do
      if dev.deviceType = .wifi then
        forM dev.accessPoints fun v => do
          if v.ap.bssid = bssid then handover v

/-! ### The report -/

/-- The current connection as it is reported. -/
def jsonCurrentConnection : Option AccessPoint → Json
  | none => .obj []
  | some ap => .obj [("bssid", .str ap.bssid), ("ssid", .str ap.ssid)]

/-- `reportJson`. -/
def reportJson (app : App) : Json :=
  .obj [
    ("currentConnection", jsonCurrentConnection app.mobClient.currentConnection),
    ("ap-list", .arr (app.mobClient.wifilist.map fun w =>
      .obj [("ssid", .str w.ssid), ("signal", .double w.signal), ("bssid", .str w.bssid)])),
    ("user", match app.user with
      | none => .null
      | some user => .str user),
    ("allowHandover", .str (if app.allowHandover then "yes" else "no"))]

/-- The response in place of one that cannot be had. -/
def pscNotReachable : Json :=
  .obj [("action", .int (-1)), ("error", .str "PSC not reachable yet.")]

/-- What `reportAPs` does while it holds the lock. -/
def reportCycle (env : ReportEnv) : Py App Unit := do
  let app ← get
  let response := (env.psc (reportJson app)).getD pscNotReachable
  let action ← getItem response "action"
  if eqInt action 0 then pure ()
  else if eqInt action 1 then
    updateStatus .migrating
    modify fun app => { app with mobClient.migrating := true }
  else if eqInt action 2 then
    let bssid ← jsonText (← getItem response "bssid")
    handoverNeeded env bssid
  else
    let _ ← jsonText (← getItem response "error")

/-- The `finally` of `reportAPs`: the timer of its next call. -/
def rearm : Py App Unit :=
  modify fun app =>
    if app.mobClient.migrating ∨ ¬ app.mobClient.stopMobility then
      { app with mobClient.timers := app.mobClient.timers + 1 }
    else app

/-- There is something to report, and nobody else is reporting. -/
def App.ReadyToReport (app : App) : Prop :=
  app.mobClient.wifilist ≠ [] ∧ app.mobClient.stopMobility = false ∧ app.mobClient.lock = false

instance (app : App) : Decidable app.ReadyToReport := by
  unfold App.ReadyToReport
  exact instDecidableAnd

/-- `reportAPs`. No exception leaves it: the ones of the cycle are caught, and the `return` in the
`finally` drops every other. -/
def reportAPs (env : ReportEnv) : Py App Unit := do
  let app ← get
  if app.ReadyToReport then
    modify fun app => { app with mobClient.lock := true }
    tryCatch (reportCycle env) fun _ => pure ()
    modify fun app => { app with mobClient.lock := false }
  rearm

end SecuredApp
