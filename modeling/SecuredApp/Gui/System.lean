import SecuredApp.Core.Run
import SecuredApp.Gui.Attestation
import SecuredApp.Mobility.Basic

/-!
# The running application

The constructor of `GUI`, its buttons and the reply to a login, and the steps of the running
application: what the threads do and the slots that handle their signals. A slot, a poll and a
report are each one step; a report that runs on a thread of its own is taken as one step too.
-/

namespace SecuredApp

open SecuredApp.Core

/-! ### Switching mobility on -/

/-- What `startMobilityScript` meets: whether the directory can be entered, the connections
NetworkManager has saved, the devices, and the first report. -/
structure MobilityEnv where
  chdir : Bool
  settings : List SavedConnection
  devices : Option (List Device)
  report : ReportEnv

/-- `start` of the mobility client up to its first call of `getIWlistSignals`. The connections
are added to the ones it has. -/
def startMobilityClient (env : MobilityEnv) : Py App Unit := do
  modify fun app => { app with
    mobClient.savedConnections := app.mobClient.savedConnections ++ env.settings
    mobClient.nmc := true }
  getCurrentAP env.devices
  reportAPs env.report

/-- `startMobilityScript`. The directory is entered outside the `try`. -/
def startMobilityScript (env : MobilityEnv) : Py App Unit := do
  if ¬ env.chdir then throw .external
  tryCatch (startMobilityClient env) fun _ => pure ()

def pressedStartMobilityButton (env : MobilityEnv) : Py App Unit := do
  modify fun app => { app with useMobility := true }
  startMobilityScript env

def pressedStopMobilityButton : Py App Unit := do
  modify fun app => { app with useMobility := false }
  stopMobilityScript

def pressedStartHandoverButton : Py App Unit :=
  modify fun app => { app with allowHandover := true }

def pressedStopHandoverButton : Py App Unit :=
  modify fun app => { app with allowHandover := false }

/-! ### Login and exit -/

/-- `handleLoginStatus`: the status code of the reply to the login, if there is one, and the user
of the login thread. -/
def handleLoginStatus (reply : Option Nat) (user : String) (env : MobilityEnv) : Py App Unit := do
  match reply with
  | none => pure ()
  | some statusCode =>
    if statusCode = 200 then
      modify fun app => { app with attestationWarningShown := false }
      setUserLoggedIn (some user)
      updateStatus .enforced
      initPsaList
      modify fun app => { app with attestationTask.running := true, pscCommunicationTask := true }
      let app ← get
      if app.useMobility then startMobilityScript env
      modify fun app => { app with status := some true }
    else
      setUserLoggedIn none
      modify fun app => { app with status := some false }

/-- `closeEvent`, when the user confirms it. -/
def closeEvent (reply : Option Nat) (stop : Bool) : Py App Unit := do
  logout reply
  modify fun app => { app with attestationTask.running := false }
  stopMobilityScript
  closeIPsecConnection stop
  modify fun app => { app with quit := true }

/-! ### The constructor -/

/-- What the constructor of `GUI` meets: the devices, the BSSID NetworkManager is connected to,
and the run of the start script. -/
structure InitEnv where
  devices : Option (List Device)
  activeBssid : Option String
  start : StartEnv

/-- The constructor of `GUI` from the current access point on. It returns early without one, and
where the tunnel cannot be made; the login and PSA threads are then not started. -/
def connectAtStart (env : InitEnv) : Py App Unit := do
  getCurrentAP env.devices
  let app ← get
  match app.currentAP with
  | none | some "" => pure ()
  | some currentAP =>
    if app.useMobility then
      let connName ← getIpsecConnectionFromSsid currentAP
      match connName with
      | none | some "" => pure ()
      | some connName => makeIPsecConnection env.start connName
    modify fun app => { app with attestationTask.running := true, psaEventThread := some false }

/-- The application after its constructor, `none` where that raises. The options that no modelled
method uses are taken to be there. -/
def App.init (config : RawConfigParser) (env : InitEnv) : Option App := do
  let useMobility ← config.getBoolean "Mobility" "USE_MOBILITY"
  let ipsecNedConnectionName ← config.get "IPSEC" "IPSEC_NED_CONNECTION_NAME"
  let nedId ← config.get "NED" "NED_ID"
  some (after (tryCatch (connectAtStart env) fun _ => pure ())
    (.constructed config useMobility nedId ipsecNedConnectionName env.activeBssid))

/-- What holds of the constructed attributes and is kept by the statements of the constructor holds
of the application. -/
lemma App.holds_of_init {P : App → Prop} {config : RawConfigParser} {env : InitEnv} {app : App}
    (hconstructed : ∀ useMobility nedId connName,
      P (.constructed config useMobility nedId connName env.activeBssid))
    (hap : Keeps P (getCurrentAP env.devices))
    (hmake : ∀ connName, Keeps P (makeIPsecConnection env.start connName))
    (hthreads : ∀ app : App, P app →
      P { app with attestationTask.running := true, psaEventThread := some false })
    (h : App.init config env = some app) : P app := by
  simp only [App.init, Option.bind_eq_bind, Option.bind_eq_some_iff, Option.some.injEq,
    after_tryCatch_pure] at h
  obtain ⟨useMobility, -, connName, -, nedId, -, rfl⟩ := h
  have hend : Keeps P (modify fun app : App => { app with
      attestationTask.running := true, psaEventThread := some false }) := .modify hthreads
  have hconnect : Keeps P (connectAtStart env) := by
    refine .bind hap fun _ => .get_bind fun app _ => ?_
    split
    · exact .pure _
    · exact .pure _
    · refine .ite (fun _ => .bind (.get_bind fun _ _ => .pure _) fun connName => ?_) fun _ => hend
      split
      · exact hend
      · exact hend
      · exact .bind (hmake _) fun _ => hend
  exact hconnect _ (hconstructed useMobility nedId connName)

/-- What is computed from both ends of a run that starts with the constructor. -/
lemma exists_run {σ ε γ : Type} {step : σ → ε → Option σ} {start : App → σ} {es : List ε}
    {config : RawConfigParser} {init : InitEnv} {f : App → σ → γ} {x : γ}
    (h : ((App.init config init).bind fun app => (run step (start app) es).map (f app))
      = some x) :
    ∃ app s, App.init config init = some app ∧ run step (start app) es = some s ∧ f app s = x := by
  obtain ⟨app, hinit, hmap⟩ := Option.bind_eq_some_iff.mp h
  obtain ⟨s, hrun, hx⟩ := Option.map_eq_some_iff.mp hmap
  exact ⟨app, s, hinit, hrun, hx⟩

/-! ### Steps -/

inductive AppEvent where
  | pollBegin                                    -- `run` resets the verdict
  | poll (post : Post)                           -- `issuePollAttestation`
  | attestation (env : AttestationEnv)           -- the slot `onAttestation`
  | connectionInfo                               -- the slot `updateConnectionInfoView`
  | ipsecConnectionInfo                          -- the slot `setIpsecConnectionInfo`
  | login (reply : Option Nat) (user : String) (env : MobilityEnv)
  | logout (reply : Option Nat)
  | startMobility (env : MobilityEnv)
  | stopMobility
  | startHandover
  | stopHandover
  | report (env : ReportEnv)                     -- a timer calls `reportAPs`
  | scan (current : AccessPoint) (wifilist : List WifiEntry)  -- `getIWlistSignals` publishes
  | close (reply : Option Nat) (stop : Bool)

/-- A poll of the attestation thread; an exception ends the thread. -/
def App.poll (app : App) (post : Post) : App :=
  match EStateM.run (issuePollAttestation post) app with
  | .ok _ app => app
  | .error _ app => { app with attestationTask.running := false }

lemma App.poll_cases (app : App) (post : Post) :
    (∃ r, app.poll post = app.polled r) ∨
      app.poll post = { app with attestationTask.running := false } := by
  rw [App.poll]
  rcases issuePollAttestation_cases app post with ⟨request, -, hrun⟩ | ⟨e, hrun⟩
  · exact .inl ⟨post request, by rw [hrun]⟩
  · exact .inr (by rw [hrun])

/-- A step of the application. What a slot raises is dropped by the event loop. -/
def App.step (app : App) : AppEvent → Option App
  | .pollBegin =>
    if app.attestationTask.running then some { app with attestationTask.trusted := some false }
    else none
  | .poll post => if app.attestationTask.running then some (app.poll post) else none
  | .attestation env =>
    if app.quit ∨ app.signals.requestTaskFinished = 0 then none
    else
      some (after (onAttestation env) { app with
        signals.requestTaskFinished := app.signals.requestTaskFinished - 1 })
  | .connectionInfo =>
    if app.quit ∨ app.signals.updateConnectionInfo = 0 then none
    else
      some (after updateConnectionInfoView { app with
        signals.updateConnectionInfo := app.signals.updateConnectionInfo - 1 })
  | .ipsecConnectionInfo =>
    if app.quit ∨ app.signals.updatetIpsecConnectionInfo = 0 then none
    else
      some (after setIpsecConnectionInfo { app with
        signals.updatetIpsecConnectionInfo := app.signals.updatetIpsecConnectionInfo - 1 })
  | .login reply user env =>
    if app.quit then none else some (after (handleLoginStatus reply user env) app)
  | .logout reply => if app.quit then none else some (after (SecuredApp.logout reply) app)
  | .startMobility env =>
    if app.quit then none else some (after (pressedStartMobilityButton env) app)
  | .stopMobility => if app.quit then none else some (after pressedStopMobilityButton app)
  | .startHandover => if app.quit then none else some (after pressedStartHandoverButton app)
  | .stopHandover => if app.quit then none else some (after pressedStopHandoverButton app)
  | .report env =>
    if app.mobClient.timers = 0 then none
    else
      some (after (reportAPs env) { app with mobClient.timers := app.mobClient.timers - 1 })
  | .scan current wifilist =>
    if app.mobClient.nmc then
      some { app with mobClient.currentConnection := some current, mobClient.wifilist := wifilist }
    else none
  | .close reply stop => if app.quit then none else some (after (closeEvent reply stop) app)

/-- What a step can do, by its event. -/
inductive App.Step (app : App) : AppEvent → App → Prop
  | pollBegin (hrunning : app.attestationTask.running = true) :
      App.Step app .pollBegin { app with attestationTask.trusted := some false }
  | poll {post : Post} (hrunning : app.attestationTask.running = true) :
      App.Step app (.poll post) (app.poll post)
  | attestation {env : AttestationEnv} (hquit : app.quit = false)
      (hsignal : 0 < app.signals.requestTaskFinished) :
      App.Step app (.attestation env) (after (onAttestation env) { app with
        signals.requestTaskFinished := app.signals.requestTaskFinished - 1 })
  | connectionInfo (hquit : app.quit = false) (hsignal : 0 < app.signals.updateConnectionInfo) :
      App.Step app .connectionInfo (after updateConnectionInfoView { app with
        signals.updateConnectionInfo := app.signals.updateConnectionInfo - 1 })
  | ipsecConnectionInfo (hquit : app.quit = false)
      (hsignal : 0 < app.signals.updatetIpsecConnectionInfo) :
      App.Step app .ipsecConnectionInfo (after setIpsecConnectionInfo { app with
        signals.updatetIpsecConnectionInfo := app.signals.updatetIpsecConnectionInfo - 1 })
  | login {reply : Option Nat} {user : String} {env : MobilityEnv} (hquit : app.quit = false) :
      App.Step app (.login reply user env) (after (handleLoginStatus reply user env) app)
  | logout {reply : Option Nat} (hquit : app.quit = false) :
      App.Step app (.logout reply) (after (SecuredApp.logout reply) app)
  | startMobility {env : MobilityEnv} (hquit : app.quit = false) :
      App.Step app (.startMobility env) (after (pressedStartMobilityButton env) app)
  | stopMobility (hquit : app.quit = false) :
      App.Step app .stopMobility (after pressedStopMobilityButton app)
  | startHandover (hquit : app.quit = false) :
      App.Step app .startHandover (after pressedStartHandoverButton app)
  | stopHandover (hquit : app.quit = false) :
      App.Step app .stopHandover (after pressedStopHandoverButton app)
  | report {env : ReportEnv} (htimers : 0 < app.mobClient.timers) :
      App.Step app (.report env) (after (reportAPs env) { app with
        mobClient.timers := app.mobClient.timers - 1 })
  | scan {current : AccessPoint} {wifilist : List WifiEntry} (hnmc : app.mobClient.nmc = true) :
      App.Step app (.scan current wifilist) { app with
        mobClient.currentConnection := some current, mobClient.wifilist := wifilist }
  | close {reply : Option Nat} {stop : Bool} (hquit : app.quit = false) :
      App.Step app (.close reply stop) (after (closeEvent reply stop) app)

lemma App.step_sound {app app' : App} {e : AppEvent} (h : app.step e = some app') :
    app.Step e app' := by
  cases e with
  | pollBegin | poll | scan =>
    simp only [App.step] at h
    split_ifs at h with hguard
    obtain rfl := Option.some.inj h
    constructor
    exact hguard
  | attestation | connectionInfo | ipsecConnectionInfo =>
    simp only [App.step] at h
    split_ifs at h with hguard
    obtain rfl := Option.some.inj h
    rw [not_or, Bool.not_eq_true] at hguard
    constructor
    · exact hguard.1
    · exact Nat.pos_of_ne_zero hguard.2
  | report =>
    simp only [App.step] at h
    split_ifs at h with hguard
    obtain rfl := Option.some.inj h
    constructor
    exact Nat.pos_of_ne_zero hguard
  | login | logout | startMobility | stopMobility | startHandover | stopHandover | close =>
    simp only [App.step] at h
    split_ifs at h with hguard
    obtain rfl := Option.some.inj h
    constructor
    exact Bool.of_not_eq_true hguard

end SecuredApp
