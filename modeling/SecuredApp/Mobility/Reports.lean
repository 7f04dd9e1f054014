import SecuredApp.Gui.System
import SecuredApp.Mobility.Handover

/-!
# The reports of a step

`reportAPs` is called by a timer, when mobility is started, and by a login: the state each of
these steps calls it in, and what the PSC may answer there.
-/

namespace SecuredApp

open SecuredApp.Core

variable {app app' : App}

/-! ### The report of a step -/

/-- What `startMobilityScript` does before the first report. -/
def App.mobilityStarted (app : App) (env : MobilityEnv) : App :=
  after (getCurrentAP env.devices) { app with
    mobClient.savedConnections := app.mobClient.savedConnections ++ env.settings
    mobClient.nmc := true }

/-- What a login does before mobility is started. -/
def App.loggedIn (app : App) (user : String) : App :=
  { app with
    attestationWarningShown := false
    user := some user
    ui.statusLabel := .enforced
    ui.listWidget := ["Contacting your NED."]
    attestationTask.running := true
    pscCommunicationTask := true }

/-- The call of `reportAPs` that a step makes: what the report meets, and the state it is made
in. -/
def AppEvent.reportCall? (app : App) : AppEvent → Option (ReportEnv × App)
  | .report env => some (env, { app with mobClient.timers := app.mobClient.timers - 1 })
  | .startMobility env =>
    if env.chdir then some (env.report, { app with useMobility := true }.mobilityStarted env)
    else none
  | .login reply user env =>
    if reply = some 200 ∧ app.useMobility ∧ env.chdir then
      some (env.report, (app.loggedIn user).mobilityStarted env)
    else none
  | _ => none

/-- The active tunnel and the access point NetworkManager is on are the same. -/
def App.SameLink (app app' : App) : Prop :=
  app'.activeIpsecConnection = app.activeIpsecConnection ∧ app'.activeBssid = app.activeBssid

lemma run_getCurrentAP (devices : Option (List Device)) (app : App) :
    ∃ app', EStateM.run (getCurrentAP devices) app = .ok ⟨⟩ app' ∧ app.SameLink app' := by
  unfold getCurrentAP
  split
  · exact ⟨app, rfl, rfl, rfl⟩
  · split
    · exact ⟨app, rfl, rfl, rfl⟩
    · rename_i dev _
      split
      · exact ⟨app, rfl, rfl, rfl⟩
      · rename_i ap _
        obtain ⟨app', hrun, -, htunnel, hbssid, -⟩ :=
          run_updateConnectionInformation dev.addresses ap.ssid app
        exact ⟨app', hrun, htunnel, hbssid⟩

lemma App.sameLink_mobilityStarted (app : App) (env : MobilityEnv) :
    app.SameLink (app.mobilityStarted env) := by
  obtain ⟨app', hrun, hlink⟩ := run_getCurrentAP env.devices { app with
    mobClient.savedConnections := app.mobClient.savedConnections ++ env.settings
    mobClient.nmc := true }
  rw [App.mobilityStarted, after_of_ok hrun]
  exact hlink

lemma run_startMobilityScript {env : MobilityEnv} (hchdir : env.chdir = true) (app : App) :
    EStateM.run (startMobilityScript env) app
      = .ok ⟨⟩ (after (reportAPs env.report) (app.mobilityStarted env)) := by
  obtain ⟨app', hrun, -⟩ := run_getCurrentAP env.devices { app with
    mobClient.savedConnections := app.mobClient.savedConnections ++ env.settings
    mobClient.nmc := true }
  rw [startMobilityScript, App.mobilityStarted, after_of_ok hrun]
  simp only [hchdir, not_true_eq_false, if_false]
  rw [run_tryCatch_pure, startMobilityClient, after_modify_bind, after_bind_of_ok hrun]

/-- Without the directory, starting mobility raises before it does anything. -/
lemma run_startMobilityScript_of_not_chdir {env : MobilityEnv} (hchdir : env.chdir = false)
    (app : App) : EStateM.run (startMobilityScript env) app = .error .external app := by
  rw [startMobilityScript]
  simp only [hchdir, Bool.false_eq_true, not_false_eq_true, if_true]
  rfl

lemma after_pressedStartMobilityButton (env : MobilityEnv) (app : App) :
    after (pressedStartMobilityButton env) app
      = if env.chdir then
          after (reportAPs env.report) ({ app with useMobility := true }.mobilityStarted env)
        else { app with useMobility := true } := by
  rw [pressedStartMobilityButton, after_modify_bind]
  split_ifs with hchdir
  · exact after_of_ok (run_startMobilityScript hchdir _)
  · rw [Bool.not_eq_true] at hchdir
    rw [after, run_startMobilityScript_of_not_chdir hchdir]

/-- An accepted login: mobility is started in between, if it is on. -/
lemma after_handleLoginStatus_ok (user : String) (env : MobilityEnv) (app : App) :
    after (handleLoginStatus (some 200) user env) app
      = if app.useMobility then
          if env.chdir then
            { after (reportAPs env.report) ((app.loggedIn user).mobilityStarted env) with
              status := some true }
          else app.loggedIn user
        else { app.loggedIn user with status := some true } := by
  simp only [handleLoginStatus, if_true, setUserLoggedIn, updateStatus, initPsaList,
    after_modify_bind, after_get_bind]
  by_cases hmobility : app.useMobility
  · rw [if_pos hmobility, if_pos hmobility]
    split_ifs with hchdir
    · exact after_bind_of_ok (run_startMobilityScript hchdir (app.loggedIn user))
    · rw [Bool.not_eq_true] at hchdir
      exact after_bind_of_error (run_startMobilityScript_of_not_chdir hchdir (app.loggedIn user))
  · rw [if_neg hmobility, if_neg hmobility]
    rfl

/-! ### Orders -/

/-- The state is ready to report, and the PSC answers the report with an order of a handover to
the BSSID. -/
structure ReportEnv.Orders (env : ReportEnv) (app : App) (bssid : String) : Prop where
  ready : app.ReadyToReport
  answer : ∃ response, env.psc (reportJson app) = some response ∧ OrdersHandover response bssid

/-- The step reports in the state `app₁`, and the PSC answers with an order of a handover to the
BSSID. -/
structure AppEvent.Ordered (app : App) (e : AppEvent) (env : ReportEnv) (app₁ : App)
    (bssid : String) : Prop where
  call : e.reportCall? app = some (env, app₁)
  orders : env.Orders app₁ bssid

end SecuredApp
