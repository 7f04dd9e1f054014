import Mathlib.Data.Finset.Option
import SecuredApp.Core.Run
import SecuredApp.Mobility.Reports

/-!
# The mobility client beside the GUI

Timers call `reportAPs` and `getIWlistSignals` on threads of their own, any number of them at a
time, while the GUI handles its events; starting mobility calls both on the thread of the GUI. Each
statement that reads or writes what the threads share is a step of its own here. A script that is
run succeeds; the one that stops a tunnel is not waited for.
-/

namespace SecuredApp

open SecuredApp.Core

/-- Where a call of `reportAPs` is, by the statement it comes to next. -/
inductive ReportCall where
  | readWifilist                                -- `send = len(self.wifilist) > 0`
  | testStop                                    -- `not self.stop_mobility`
  | testLock                                    -- `not self.lock.locked()`
  | acquire
  | readAllow                                   -- `if self.controller.allowHandover`
  | build (allow : Bool)                        -- `reportJson = ...`
  | put (report : Json)
  | setMigrating                                -- the branch of the action 1
  | visit (visits : List Visit)                 -- the next access point with the ordered BSSID
  | close (v : Visit) (rest : List Visit)       -- `Popen` of `closeIPsecConnection`
  | closed (v : Visit) (rest : List Visit)      -- `self.active_ipsec_connection = None`
  | activate (v : Visit) (rest : List Visit)
  | lookUp (v : Visit) (rest : List Visit)      -- `getIpsecConnectionFromSsid(newSsid)`
  | enter (connName : String) (v : Visit) (rest : List Visit)    -- `makeIPsecConnection`
  | running (connName : String) (v : Visit) (rest : List Visit)  -- the start script runs
  | ran (connName : String) (v : Visit) (rest : List Visit)
  | inform (v : Visit) (rest : List Visit)      -- `updateConnectionInformation`
  | setEnforced (rest : List Visit)
  | release
  | testMigrating                               -- `if self.migrating`, in the `finally`
  | testStopAgain                               -- `elif not self.stop_mobility`
  | arm                                         -- `threading.Timer(...).start()`
  | done

/-- Where a call of `getIWlistSignals` is. -/
inductive ScanCall where
  | scanning
  | testStop                                    -- `if not self.stop_mobility`
  | arm
  | done
deriving DecidableEq

/-- What the GUI is doing. `report` and `scan` are the two calls of `start`, the login that made
it if one did; the others are `closeIPsecConnection`, `makeIPsecConnection` and the slot
`onAttestation` that call them. -/
inductive GuiCall where
  | idle
  | report (i : ℕ) (login : Bool)
  | scan (j : ℕ) (login : Bool)
  | closing (slot : Option StartEnv)            -- `self.active_ipsec_connection = None`
  | testSlot (env : StartEnv)                   -- `if not self.useMobility and ... == None`
  | readName (env : StartEnv)                   -- `self.IPSEC_NED_CONNECTION_NAME`
  | enter (connName : String) (env : StartEnv)
  | running (connName : String)
  | ran (connName : String)

/-- The program with its calls of `reportAPs` and `getIWlistSignals`, the timers that will make
more of the latter (those of the former are counted by the client), what the GUI is doing, the
tunnels that are up and the stop scripts that run. `starts` counts the calls of `start`. -/
structure Mobile where
  app : App
  reports : List ReportCall
  scans : List ScanCall
  scanTimers : ℕ
  gui : GuiCall
  up : Finset String
  stopping : List String
  starts : ℕ

/-- The program after its constructor, with the tunnel that it made. -/
def Mobile.init (app : App) : Mobile where
  app := app
  reports := []
  scans := []
  scanTimers := 0
  gui := .idle
  up := app.activeIpsecConnection.toFinset
  stopping := []
  starts := 0

inductive MobileEvent where
  | fireReport                                  -- a timer calls `reportAPs`
  | fireScan                                    -- a timer calls `getIWlistSignals`
  | report (i : ℕ)                              -- the call `i` of `reportAPs` takes a step
  | answer (i : ℕ) (env : ReportEnv)            -- and this is what comes of its report
  | publish (j : ℕ) (current : AccessPoint) (wifilist : List WifiEntry)
  | scanned (j : ℕ)                             -- the call `j` has seen all devices
  | scanFails (j : ℕ)                           -- it returns early, or raises
  | scan (j : ℕ)                                -- it takes a step after that
  | stopEnds (connName : String)                -- a stop script ends
  | gui                                         -- the GUI takes a step of what it is doing
  | startMobility (env : MobilityEnv)
  | stopMobility
  | startHandover
  | stopHandover
  | login (user : String) (env : MobilityEnv)   -- a login is answered with 200
  | loginRefused                                -- or with another status code
  | logout (reply : Option ℕ)
  | attestation (env : StartEnv)                -- `onAttestation` has shown a verdict
  | connectionInfo                              -- the slot `updateConnectionInfoView`
  | ipsecConnectionInfo                         -- the slot `setIpsecConnectionInfo`
  | disconnect (exits : Bool) (reply : Option ℕ) (stop : Bool) (env : StartEnv)

/-! ### The report -/

/-- What an answer of the PSC asks for. -/
inductive Order where
  | none
  | migrate
  | handover (bssid : String)
deriving DecidableEq

/-- The branch of `reportAPs` for a response; one that raises does nothing. -/
def orderOf (response : Json) : Order :=
  match response.member? "action" with
  | .none => .none
  | .some action =>
    if eqInt action 0 then .none
    else if eqInt action 1 then .migrate
    else if eqInt action 2 then
      match response.member? "bssid" with
      | .some (.str bssid) => .handover bssid
      | _ => .none
    else .none

/-- Whether the client knows its devices: the attribute `nmc` is there and they can be listed. -/
def ReportEnv.visits (env : ReportEnv) (app : App) (bssid : String) : Option (List Visit) :=
  if app.mobClient.nmc then env.devices.map fun devices => matching devices bssid else none

/-- The statement after the answer to a report. -/
def ReportEnv.branch (env : ReportEnv) (app : App) (report : Json) : ReportCall :=
  match orderOf ((env.psc report).getD pscNotReachable) with
  | .none => .release
  | .migrate => .setMigrating
  | .handover bssid =>
    match env.visits app bssid with
    | none => .release
    | some visits => .visit visits

/-- The next statement of a call of `reportAPs`: what it leaves, and the statement after it. -/
def Mobile.reportStep (s : Mobile) : ReportCall → Option (Mobile × ReportCall)
  | .readWifilist => some (s, if s.app.mobClient.wifilist = [] then .testMigrating else .testStop)
  | .testStop => some (s, if s.app.mobClient.stopMobility then .testMigrating else .testLock)
  | .testLock => some (s, if s.app.mobClient.lock then .testMigrating else .acquire)
  -- the call waits while another one holds the lock
  | .acquire =>
    if s.app.mobClient.lock then none else some ({ s with app.mobClient.lock := true }, .readAllow)
  | .readAllow => some (s, .build s.app.allowHandover)
  | .build allow => some (s, .put (reportJson { s.app with allowHandover := allow }))
  | .put _ => none
  | .setMigrating =>
    some ({ s with app.ui.statusLabel := .migrating, app.mobClient.migrating := true }, .release)
  | .visit [] => some (s, .release)
  | .visit (v :: rest) =>
    match s.app.activeIpsecConnection with
    | none => some (s, .release)
    | some _ => some (s, .close v rest)
  | .close v rest =>
    if v.stop then
      some ({ s with stopping := s.app.ipsecNedConnectionName :: s.stopping }, .closed v rest)
    else some (s, .activate v rest)
  | .closed v rest =>
    some ({ s with
      app.activeIpsecConnection := none
      app.signals.updatetIpsecConnectionInfo := s.app.signals.updatetIpsecConnectionInfo + 1 },
      .activate v rest)
  | .activate v rest =>
    match EStateM.run (activateConnection v) s.app with
    | .ok _ app => some ({ s with app := app }, .lookUp v rest)
    | .error _ app => some ({ s with app := app }, .release)
  | .lookUp v rest =>
    match s.app.config.get "Mobility" v.ap.ssid with
    | none => some (s, .release)
    | some connName => some (s, .enter connName v rest)
  | .enter connName v rest =>
    if ¬ v.start.chdir then some (s, .release)
    else if v.start.call = none then some (s, .inform v rest)
    else some (s, .running connName v rest)
  | .running connName v rest =>
    some ({ s with
      app.ipsecNedConnectionName := connName
      app.started := connName :: s.app.started
      up := insert connName s.up },
      .ran connName v rest)
  | .ran connName v rest =>
    some ({ s with
      app.activeIpsecConnection := some connName
      app.signals.updatetIpsecConnectionInfo := s.app.signals.updatetIpsecConnectionInfo + 1 },
      .inform v rest)
  | .inform v rest =>
    some ({ s with app := after (updateConnectionInformation v.addresses v.ap.ssid) s.app },
      .setEnforced rest)
  | .setEnforced rest => some ({ s with app.ui.statusLabel := .enforced }, .visit rest)
  | .release => some ({ s with app.mobClient.lock := false }, .testMigrating)
  | .testMigrating => some (s, if s.app.mobClient.migrating then .arm else .testStopAgain)
  | .testStopAgain => some (s, if s.app.mobClient.stopMobility then .done else .arm)
  | .arm => some ({ s with app.mobClient.timers := s.app.mobClient.timers + 1 }, .done)
  | .done => none

/-! ### The GUI -/

/-- The next statement of what the GUI is doing. -/
def Mobile.guiStep (s : Mobile) : GuiCall → Option Mobile
  | .idle => none
  | .report i login =>
    match s.reports[i]? with
    | some .done => some { s with
        scans := s.scans ++ [.scanning], gui := .scan s.scans.length login }
    | _ => none
  | .scan j login =>
    if s.scans[j]? = some .done then
      some { s with
        app.status := if login then some true else s.app.status
        gui := .idle }
    else none
  | .closing slot =>
    some { s with
      app.activeIpsecConnection := none
      app.signals.updatetIpsecConnectionInfo := s.app.signals.updatetIpsecConnectionInfo + 1
      gui := match slot with
        | none => .idle
        | some env => .testSlot env }
  | .testSlot env =>
    if s.app.useMobility = false ∧ s.app.activeIpsecConnection = none then
      some { s with gui := .readName env }
    else some { s with gui := .idle }
  | .readName env => some { s with gui := .enter s.app.ipsecNedConnectionName env }
  | .enter connName env =>
    if ¬ env.chdir ∨ env.call = none then some { s with gui := .idle }
    else some { s with gui := .running connName }
  | .running connName =>
    some { s with
      app.ipsecNedConnectionName := connName
      app.started := connName :: s.app.started
      up := insert connName s.up
      gui := .ran connName }
  | .ran connName =>
    some { s with
      app.activeIpsecConnection := some connName
      app.signals.updatetIpsecConnectionInfo := s.app.signals.updatetIpsecConnectionInfo + 1
      gui := .idle }

/-- `startMobilityScript`, up to the report it makes. -/
def Mobile.start (s : Mobile) (env : MobilityEnv) (login : Bool) : Mobile :=
  if env.chdir then
    { s with
      app := s.app.mobilityStarted env
      reports := s.reports ++ [.readWifilist]
      gui := .report s.reports.length login
      starts := s.starts + 1 }
  else s

/-- The warning whose answer is to disconnect, or the event that closes the window: a logout that
may raise, and the stop script if it can be run. -/
def Mobile.disconnect (s : Mobile) (exits : Bool) (reply : Option ℕ) (stop : Bool)
    (env : StartEnv) : Mobile :=
  match EStateM.run (logout reply) s.app with
  | .error _ app => { s with app := app }
  | .ok _ app =>
    let app := if exits then { app with mobClient.stopMobility := true } else app
    if stop then
      { s with
        app := app
        stopping := app.ipsecNedConnectionName :: s.stopping
        gui := .closing (if exits then none else some env) }
    else { s with app := app, gui := if exits then .idle else .testSlot env }

/-- What the GUI does with an event, when it is not doing anything else. -/
def Mobile.handle (s : Mobile) : MobileEvent → Option Mobile
  | .startMobility env => some (Mobile.start { s with app.useMobility := true } env false)
  | .stopMobility => some { s with app := after pressedStopMobilityButton s.app }
  | .startHandover => some { s with app := after pressedStartHandoverButton s.app }
  | .stopHandover => some { s with app := after pressedStopHandoverButton s.app }
  | .login user env =>
    if s.app.useMobility then some (Mobile.start { s with app := s.app.loggedIn user } env true)
    else some { s with app := { s.app.loggedIn user with status := some true } }
  | .loginRefused => some { s with app.user := none, app.status := some false }
  | .logout reply => some { s with app := after (SecuredApp.logout reply) s.app }
  | .connectionInfo =>
    if s.app.signals.updateConnectionInfo = 0 then none
    else some { s with app := after updateConnectionInfoView { s.app with
      signals.updateConnectionInfo := s.app.signals.updateConnectionInfo - 1 } }
  | .ipsecConnectionInfo =>
    if s.app.signals.updatetIpsecConnectionInfo = 0 then none
    else some { s with app := after setIpsecConnectionInfo { s.app with
      signals.updatetIpsecConnectionInfo := s.app.signals.updatetIpsecConnectionInfo - 1 } }
  | .attestation env => some { s with gui := .testSlot env }
  | .disconnect exits reply stop env => some (s.disconnect exits reply stop env)
  | _ => none

/-! ### Steps -/

def Mobile.step (s : Mobile) : MobileEvent → Option Mobile
  | .fireReport =>
    if s.app.mobClient.timers = 0 then none
    else some { s with
      app.mobClient.timers := s.app.mobClient.timers - 1
      reports := s.reports ++ [.readWifilist] }
  | .fireScan =>
    if s.scanTimers = 0 then none
    else some { s with scanTimers := s.scanTimers - 1, scans := s.scans ++ [.scanning] }
  | .report i =>
    match s.reports[i]? with
    | none => none
    | some call => (s.reportStep call).map fun r => { r.1 with reports := s.reports.set i r.2 }
  | .answer i env =>
    match s.reports[i]? with
    | some (.put report) => some { s with reports := s.reports.set i (env.branch s.app report) }
    | _ => none
  | .publish j current wifilist =>
    if s.scans[j]? = some .scanning then
      some { s with
        app.mobClient.currentConnection := some current, app.mobClient.wifilist := wifilist }
    else none
  | .scanned j =>
    if s.scans[j]? = some .scanning then some { s with scans := s.scans.set j .testStop } else none
  | .scanFails j =>
    if s.scans[j]? = some .scanning then some { s with scans := s.scans.set j .done } else none
  | .scan j =>
    match s.scans[j]? with
    | some .testStop => some { s with
        scans := s.scans.set j (if s.app.mobClient.stopMobility then .done else .arm) }
    | some .arm => some { s with scanTimers := s.scanTimers + 1, scans := s.scans.set j .done }
    | _ => none
  | .stopEnds connName =>
    if connName ∈ s.stopping then
      some { s with up := s.up.erase connName, stopping := s.stopping.erase connName }
    else none
  | .gui => s.guiStep s.gui
  | e =>
    match s.gui with
    | .idle => s.handle e
    | _ => none

end SecuredApp
