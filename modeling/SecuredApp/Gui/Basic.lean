import SecuredApp.Core.Config

/-!
# The state of the GUI and its tunnels

The attributes of the classes `GUI`, `AttestationRequestThread` and `MobilityClient` that the
modelled methods read or write, what the widgets show, and the methods of `GUI` that start and
stop tunnels and end the session. Messages to the user and to the log are left out, except where
forming one may raise.
-/

namespace SecuredApp

open SecuredApp.Core

/-- What the security status label reads. -/
inductive Enforcement where
  | notEnforced
  | enforced
  | migrating
deriving DecidableEq

/-- The widgets the methods write to. The time label is given by the value it shows the text
of. -/
structure Widgets where
  statusLabel : Enforcement
  trustedNedIcon : Bool
  noTrustedNedIcon : Bool
  attestationStatus : String
  attestationTime : Json
  schemaTunnel : Bool
  wifiName : String
  wifiIP : String
  listWidget : List String

/-- `AttestationRequestThread`: whether it runs, the verdict and the time of the last poll, where
Python's `None` is `none` and `null`, and the access point it asks about. -/
structure AttestationTask where
  running : Bool
  trusted : Option Bool
  validateTime : Json
  currentAP : Option String

/-- A connection NetworkManager has saved. -/
structure SavedConnection where
  bssids : List String
  ssid : String
deriving DecidableEq

structure AccessPoint where
  ssid : String
  bssid : String
deriving DecidableEq

/-- An entry of the list of access points that is reported. -/
structure WifiEntry where
  ssid : String
  signal : Rat
  bssid : String

/-- `MobilityClient`; `nmc` says that the attribute of that name was assigned, and `timers`
counts the timers that will call `reportAPs`. -/
structure MobilityClient where
  savedConnections : List SavedConnection
  stopMobility : Bool
  lock : Bool
  migrating : Bool
  currentConnection : Option AccessPoint
  wifilist : List WifiEntry
  nmc : Bool
  timers : Nat

/-- The signals that wait to be handled by the thread of the GUI. -/
structure Signals where
  requestTaskFinished : Nat
  updateConnectionInfo : Nat
  updatetIpsecConnectionInfo : Nat

/-- The program: the attributes of `GUI` and of its helpers. The last three fields are not
attributes: whether the application was told to quit, the BSSID NetworkManager is connected to,
and the runs of the start script, newest first. `psaEventThread` is `none` until it is assigned,
and says then whether the thread runs. -/
structure App where
  config : RawConfigParser
  useMobility : Bool
  allowHandover : Bool
  ipsecNedConnectionName : String
  attestationWarningShown : Bool
  currentAP : Option String
  ip : Option String
  status : Option Bool
  user : Option String
  activeIpsecConnection : Option String
  ui : Widgets
  attestationTask : AttestationTask
  psaEventThread : Option Bool
  pscCommunicationTask : Bool
  mobClient : MobilityClient
  signals : Signals
  quit : Bool
  activeBssid : Option String
  started : List String

/-- The attributes as the constructor of `GUI` assigns them, with the texts of `GUI.ui`. Without
mobility the access point is the one of the default NED. -/
def App.constructed (config : RawConfigParser) (useMobility : Bool)
    (nedId ipsecNedConnectionName : String) (activeBssid : Option String) : App where
  config := config
  useMobility := useMobility
  allowHandover := true
  ipsecNedConnectionName := ipsecNedConnectionName
  attestationWarningShown := true
  currentAP := if useMobility then none else some nedId
  ip := none
  status := some true
  user := none
  activeIpsecConnection := none
  ui := {
    statusLabel := .notEnforced
    trustedNedIcon := false
    noTrustedNedIcon := false
    attestationStatus := "Waiting..."
    attestationTime := .str "Time"
    schemaTunnel := false
    wifiName := "Getting current wifi..."
    wifiIP := "ip"
    listWidget := [] }
  attestationTask := {
    running := false
    trusted := some false
    validateTime := .null
    currentAP := if useMobility then none else some nedId }
  psaEventThread := none
  pscCommunicationTask := false
  mobClient := {
    savedConnections := []
    stopMobility := false
    lock := false
    migrating := false
    currentConnection := none
    wifilist := []
    nmc := false
    timers := 0 }
  signals := ⟨0, 0, 0⟩
  quit := false
  activeBssid := activeBssid
  started := []

/-- Entries of `gui.conf`, with mobility switched on. -/
def guiConf : RawConfigParser where
  sections := [
    ("Mobility", [("USE_MOBILITY", "True"), ("interface_name", "wlan0"), ("secured1", "secured1"),
      ("secured3", "mallorca_ned")]),
    ("NED", [("NED_ID", "ned")]),
    ("IPSEC", [("IPSEC_NED_CONNECTION_NAME", "ned")]),
    ("VERIFIER", [("VERIFIER_URL", "https://147.83.42.137/OAT/attest.php"),
      ("INTEGRITYLEVEL4", "l_req=l4_ima_all_ok|>="), ("secured1", "ned"), ("secured3", "ned")]),
    ("VERIFIER_DIGESTS", [("ned", "9ca6b5e5038819d7b55c830e95164e028a5cf686")])]
  defaults := []

/-! ### Outcomes of external calls -/

/-- Running the start script: whether the directory can be entered, and the exit status if the
script can be run. -/
structure StartEnv where
  chdir : Bool
  call : Option Nat
deriving DecidableEq

/-! ### Widgets -/

def updateStatus (status : Enforcement) : Py App Unit :=
  modify fun app => { app with ui.statusLabel := status }

/-- `setUserLoggedIn`. -/
def setUserLoggedIn (user : Option String) : Py App Unit :=
  modify fun app => { app with user := user }

/-- `initPsaList`. -/
def initPsaList : Py App Unit :=
  modify fun app => { app with ui.listWidget := ["Contacting your NED."] }

/-- `setApIp`, called by the mobility client. -/
def setApIp (currentAP ip : String) : Py App Unit :=
  modify fun app => { app with
    currentAP := some currentAP
    ip := some ip
    attestationTask.currentAP := some currentAP }

def callUpdateConnectionInfoView : Py App Unit :=
  modify fun app => { app with
    signals.updateConnectionInfo := app.signals.updateConnectionInfo + 1 }

def callUpdatetIpsecConnectionInfo : Py App Unit :=
  modify fun app => { app with
    signals.updatetIpsecConnectionInfo := app.signals.updatetIpsecConnectionInfo + 1 }

/-- The slot `updateConnectionInfoView`. An address that was never assigned, and the branch for an
empty one, which names an attribute that does not exist, raise what the handler catches. -/
def updateConnectionInfoView : Py App Unit :=
  modify fun app =>
    match app.currentAP with
    | none | some "" => app
    | some name =>
      let app := { app with ui.wifiName := name }
      match app.ip with
      | none | some "" => app
      | some ip => { app with ui.wifiIP := ip }

/-- The slot `setIpsecConnectionInfo`: the picture of a secured tunnel, or the one without. -/
def setIpsecConnectionInfo : Py App Unit :=
  modify fun app => { app with
    ui.schemaTunnel := app.activeIpsecConnection ≠ none ∧ app.activeIpsecConnection ≠ some "" }

/-! ### Tunnels -/

/-- `getIpsecConnectionFromSsid`: the exception of `get` is caught. -/
def getIpsecConnectionFromSsid (ssid : String) : Py App (Option String) := do
  let app ← get
  pure (app.config.get "Mobility" ssid)

/-- `makeIPsecConnection`. The directory is entered outside the `try`, whose handler returns; the
exit status of the script is not looked at. -/
def makeIPsecConnection (env : StartEnv) (connName : String) : Py App Unit := do
  if ¬ env.chdir then throw .external
  if env.call ≠ none then
    modify fun app => { app with
      started := connName :: app.started
      ipsecNedConnectionName := connName
      activeIpsecConnection := some connName }
    callUpdatetIpsecConnectionInfo

/-- `closeIPsecConnection`; `stop` says whether the stop script can be run. -/
def closeIPsecConnection (stop : Bool) : Py App Unit := do
  if stop then
    modify fun app => { app with activeIpsecConnection := none }
    callUpdatetIpsecConnectionInfo

/-! ### The session -/

/-- `stopMobilityScript`, which calls `stop_m` of the mobility client. -/
def stopMobilityScript : Py App Unit :=
  modify fun app => { app with mobClient.stopMobility := true }

/-- `stopPsaEventThread`. -/
def stopPsaEventThread : Py App Unit := do
  let app ← get
  match app.psaEventThread with
  | none => throw .attributeError
  | some _ => modify fun app => { app with psaEventThread := some false }

/-- `logout`; `reply` is the status code the `DELETE` is answered with, if it is answered. -/
def logout (reply : Option Nat) : Py App Unit := do
  let app ← get
  -- the request is sent only if `status` is true
  let r := if app.status = some true then reply else none
  if r = some 200 then
    modify fun app => { app with status := none }
    setUserLoggedIn none
    modify fun app => { app with ui.listWidget := [] }
    stopPsaEventThread
    if app.useMobility then stopMobilityScript

/-- A logout that is answered with 200 ends the session. It raises if the thread for the events of
the applications was never made. -/
lemma run_logout (reply : Option ℕ) (app : App) :
    EStateM.run (logout reply) app
      = if app.status = some true ∧ reply = some 200 then
          if app.psaEventThread = none then
            .error .attributeError { app with status := none, user := none, ui.listWidget := [] }
          else .ok ⟨⟩ { app with
            status := none
            user := none
            ui.listWidget := []
            psaEventThread := some false
            mobClient.stopMobility := app.useMobility || app.mobClient.stopMobility }
        else .ok ⟨⟩ app := by
  by_cases hends : app.status = some true ∧ reply = some 200
  · obtain ⟨hstatus, rfl⟩ := hends
    cases hthread : app.psaEventThread with
    | none => simp [logout, hstatus, hthread, setUserLoggedIn, stopPsaEventThread]
    | some running =>
      cases hmobility : app.useMobility with
      | false =>
        simp [logout, hstatus, hthread, hmobility, setUserLoggedIn, stopPsaEventThread]
      | true =>
        simp [logout, hstatus, hthread, hmobility, setUserLoggedIn, stopPsaEventThread,
          stopMobilityScript]
  · have hreply : (if app.status = some true then reply else none) ≠ some 200 := by
      split_ifs with hstatus
      · exact fun hreply => hends ⟨hstatus, hreply⟩
      · exact (Option.some_ne_none 200).symm
    rw [if_neg hends]
    simp only [logout, EStateM.run_bind, EStateM.run_get, if_neg hreply]
    rfl

end SecuredApp
