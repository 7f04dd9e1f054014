import SecuredApp.Core.Calls
import SecuredApp.Mobility.Client

/-!
# The steps of the mobility client beside the GUI

What a step of a call of `reportAPs`, of the GUI and of the whole program can do, with the state
after it written out. What holds over its runs is shown by cases on these.
-/

namespace SecuredApp

open SecuredApp.Core

variable {s s' : Mobile}

/-! ### What the handlers of the GUI leave -/

/-- The information of a connection is written to the fields that hold it. -/
lemma after_updateConnectionInformation_eq (attempts : List (Option String)) (apName : String)
    (app : App) :
    ∃ currentAP ip taskAP n, after (updateConnectionInformation attempts apName) app
      = { app with
        currentAP := currentAP
        ip := ip
        attestationTask.currentAP := taskAP
        signals.updateConnectionInfo := n } := by
  by_cases hcurrent : app.currentAP = some apName
  · refine ⟨app.currentAP, app.ip, app.attestationTask.currentAP,
      app.signals.updateConnectionInfo, ?_⟩
    rw [updateConnectionInformation, after_get_bind, if_neg (not_not_intro hcurrent)]
    rfl
  · set addresses := tryAddresses app.ui.wifiIP 10 attempts with haddresses
    refine ⟨some apName, some (if addresses = "-1" then "" else addresses), some apName,
      app.signals.updateConnectionInfo + 1, ?_⟩
    rw [updateConnectionInformation, after_get_bind, if_pos hcurrent]
    rfl

lemma after_getCurrentAP_eq (devices : Option (List Device)) (app : App) :
    ∃ currentAP ip taskAP n, after (getCurrentAP devices) app
      = { app with
        currentAP := currentAP
        ip := ip
        attestationTask.currentAP := taskAP
        signals.updateConnectionInfo := n } := by
  unfold getCurrentAP
  split
  · exact ⟨_, _, _, _, rfl⟩
  · split
    · exact ⟨_, _, _, _, rfl⟩
    · split
      · exact ⟨_, _, _, _, rfl⟩
      · exact after_updateConnectionInformation_eq _ _ _

/-- A logout that goes through, and switches mobility off. -/
def App.LogoutStops (app : App) (reply : Option ℕ) : Prop :=
  app.status = some true ∧ reply = some 200 ∧ app.psaEventThread ≠ none ∧ app.useMobility = true

/-- The logout raises. -/
def App.LogoutRaises (app : App) (reply : Option ℕ) : Prop :=
  app.status = some true ∧ reply = some 200 ∧ app.psaEventThread = none

/-- The handlers of the GUI write neither the tunnel nor the lock and the timers of the mobility
client. -/
structure App.KeepsLink (app app' : App) : Prop where
  active : app'.activeIpsecConnection = app.activeIpsecConnection
  connName : app'.ipsecNedConnectionName = app.ipsecNedConnectionName
  lock : app'.mobClient.lock = app.mobClient.lock
  timers : app'.mobClient.timers = app.mobClient.timers

lemma App.keepsLink_mobilityStarted (app : App) (env : MobilityEnv) :
    app.KeepsLink (app.mobilityStarted env) ∧
      (app.mobilityStarted env).mobClient.stopMobility = app.mobClient.stopMobility := by
  obtain ⟨currentAP, ip, taskAP, n, hafter⟩ := after_getCurrentAP_eq env.devices { app with
    mobClient.savedConnections := app.mobClient.savedConnections ++ env.settings
    mobClient.nmc := true }
  rw [App.mobilityStarted, hafter]
  exact ⟨⟨rfl, rfl, rfl, rfl⟩, rfl⟩

lemma App.keepsLink_updateConnectionInfoView (app : App) :
    app.KeepsLink (after updateConnectionInfoView app) ∧
      (after updateConnectionInfoView app).mobClient.stopMobility
        = app.mobClient.stopMobility := by
  rw [updateConnectionInfoView, after_modify]
  split
  · exact ⟨⟨rfl, rfl, rfl, rfl⟩, rfl⟩
  · exact ⟨⟨rfl, rfl, rfl, rfl⟩, rfl⟩
  · dsimp only
    split
    · exact ⟨⟨rfl, rfl, rfl, rfl⟩, rfl⟩
    · exact ⟨⟨rfl, rfl, rfl, rfl⟩, rfl⟩
    · exact ⟨⟨rfl, rfl, rfl, rfl⟩, rfl⟩

lemma run_logout_cases (reply : Option ℕ) (app : App) :
    ∃ app', app.KeepsLink app' ∧
      (app'.mobClient.stopMobility = true ↔
        app.mobClient.stopMobility = true ∨ app.LogoutStops reply) ∧
      (app.LogoutRaises reply ∧
          EStateM.run (logout reply) app = .error .attributeError app' ∨
        ¬ app.LogoutRaises reply ∧ EStateM.run (logout reply) app = .ok ⟨⟩ app') := by
  rw [run_logout]
  split_ifs with hends hthread
  · obtain ⟨hstatus, hreply⟩ := hends
    refine ⟨{ app with status := none, user := none, ui.listWidget := [] },
      ⟨rfl, rfl, rfl, rfl⟩, ?_, .inl ⟨⟨hstatus, hreply, hthread⟩, rfl⟩⟩
    simp [App.LogoutStops, hthread]
  · obtain ⟨hstatus, hreply⟩ := hends
    refine ⟨{ app with
        status := none
        user := none
        ui.listWidget := []
        psaEventThread := some false
        mobClient.stopMobility := app.useMobility || app.mobClient.stopMobility },
      ⟨rfl, rfl, rfl, rfl⟩, ?_, .inr ⟨fun h => hthread h.2.2, rfl⟩⟩
    simp [App.LogoutStops, hstatus, hreply, hthread, or_comm]
  · refine ⟨app, ⟨rfl, rfl, rfl, rfl⟩, ?_, .inr ⟨fun h => hends ⟨h.1, h.2.1⟩, rfl⟩⟩
    exact ⟨.inl, fun h => h.resolve_right fun h => hends ⟨h.1, h.2.1⟩⟩

/-! ### Reports -/

/-- What a step of a call of `reportAPs` can do, by the statement it is at. -/
inductive Mobile.ReportStep (s : Mobile) : ReportCall → Mobile → ReportCall → Prop
  | nothingToSend (hnil : s.app.mobClient.wifilist = []) :
      Mobile.ReportStep s .readWifilist s .testMigrating
  | send (hne : s.app.mobClient.wifilist ≠ []) : Mobile.ReportStep s .readWifilist s .testStop
  | stopped (hstop : s.app.mobClient.stopMobility = true) :
      Mobile.ReportStep s .testStop s .testMigrating
  | notStopped (hstop : s.app.mobClient.stopMobility = false) :
      Mobile.ReportStep s .testStop s .testLock
  | locked (hlock : s.app.mobClient.lock = true) :
      Mobile.ReportStep s .testLock s .testMigrating
  | notLocked (hlock : s.app.mobClient.lock = false) : Mobile.ReportStep s .testLock s .acquire
  | acquire (hlock : s.app.mobClient.lock = false) :
      Mobile.ReportStep s .acquire { s with app.mobClient.lock := true } .readAllow
  | readAllow : Mobile.ReportStep s .readAllow s (.build s.app.allowHandover)
  | build {allow : Bool} :
      Mobile.ReportStep s (.build allow) s
        (.put (reportJson { s.app with allowHandover := allow }))
  | setMigrating :
      Mobile.ReportStep s .setMigrating
        { s with app.ui.statusLabel := .migrating, app.mobClient.migrating := true } .release
  | noVisit : Mobile.ReportStep s (.visit []) s .release
  | noTunnel {v : Visit} {rest : List Visit} (hactive : s.app.activeIpsecConnection = none) :
      Mobile.ReportStep s (.visit (v :: rest)) s .release
  | begin {v : Visit} {rest : List Visit} {connName : String}
      (hactive : s.app.activeIpsecConnection = some connName) :
      Mobile.ReportStep s (.visit (v :: rest)) s (.close v rest)
  | close {v : Visit} {rest : List Visit} (hstop : v.stop = true) :
      Mobile.ReportStep s (.close v rest)
        { s with stopping := s.app.ipsecNedConnectionName :: s.stopping } (.closed v rest)
  | closeFails {v : Visit} {rest : List Visit} (hstop : v.stop = false) :
      Mobile.ReportStep s (.close v rest) s (.activate v rest)
  | closed {v : Visit} {rest : List Visit} :
      Mobile.ReportStep s (.closed v rest) { s with
        app.activeIpsecConnection := none
        app.signals.updatetIpsecConnectionInfo := s.app.signals.updatetIpsecConnectionInfo + 1 }
        (.activate v rest)
  | activate {v : Visit} {rest : List Visit} (hactivated : v.Activated s.app) :
      Mobile.ReportStep s (.activate v rest)
        { s with app.activeBssid := some v.ap.bssid } (.lookUp v rest)
  | activateRaises {v : Visit} {rest : List Visit} (hactivated : ¬ v.Activated s.app) :
      Mobile.ReportStep s (.activate v rest) s .release
  | lookUp {v : Visit} {rest : List Visit} {connName : String}
      (hconn : v.tunnel s.app = some connName) :
      Mobile.ReportStep s (.lookUp v rest) s (.enter connName v rest)
  | lookUpRaises {v : Visit} {rest : List Visit} (hconn : v.tunnel s.app = none) :
      Mobile.ReportStep s (.lookUp v rest) s .release
  | enter {connName : String} {v : Visit} {rest : List Visit} (hruns : v.start.Runs) :
      Mobile.ReportStep s (.enter connName v rest) s (.running connName v rest)
  | enterRaises {connName : String} {v : Visit} {rest : List Visit}
      (hchdir : v.start.chdir = false) : Mobile.ReportStep s (.enter connName v rest) s .release
  | startFails {connName : String} {v : Visit} {rest : List Visit}
      (hchdir : v.start.chdir = true) (hcall : v.start.call = none) :
      Mobile.ReportStep s (.enter connName v rest) s (.inform v rest)
  | running {connName : String} {v : Visit} {rest : List Visit} :
      Mobile.ReportStep s (.running connName v rest) { s with
        app.ipsecNedConnectionName := connName
        app.started := connName :: s.app.started
        up := insert connName s.up } (.ran connName v rest)
  | ran {connName : String} {v : Visit} {rest : List Visit} :
      Mobile.ReportStep s (.ran connName v rest) { s with
        app.activeIpsecConnection := some connName
        app.signals.updatetIpsecConnectionInfo := s.app.signals.updatetIpsecConnectionInfo + 1 }
        (.inform v rest)
  | inform {v : Visit} {rest : List Visit} {currentAP ip taskAP : Option String} {n : ℕ} :
      Mobile.ReportStep s (.inform v rest) { s with
        app.currentAP := currentAP
        app.ip := ip
        app.attestationTask.currentAP := taskAP
        app.signals.updateConnectionInfo := n }
        (.setEnforced rest)
  | setEnforced {rest : List Visit} :
      Mobile.ReportStep s (.setEnforced rest) { s with app.ui.statusLabel := .enforced }
        (.visit rest)
  | release :
      Mobile.ReportStep s .release { s with app.mobClient.lock := false } .testMigrating
  | migrating (hmigrating : s.app.mobClient.migrating = true) :
      Mobile.ReportStep s .testMigrating s .arm
  | notMigrating (hmigrating : s.app.mobClient.migrating = false) :
      Mobile.ReportStep s .testMigrating s .testStopAgain
  | stoppedAgain (hstop : s.app.mobClient.stopMobility = true) :
      Mobile.ReportStep s .testStopAgain s .done
  | goesOn (hstop : s.app.mobClient.stopMobility = false) :
      Mobile.ReportStep s .testStopAgain s .arm
  | arm : Mobile.ReportStep s .arm
      { s with app.mobClient.timers := s.app.mobClient.timers + 1 } .done

lemma Mobile.reportStep_sound {s s' : Mobile} {call call' : ReportCall}
    (h : s.reportStep call = some (s', call')) : s.ReportStep call s' call' := by
  cases call with
  | readWifilist | testStop | testLock | testMigrating | testStopAgain =>
    simp only [Mobile.reportStep, Option.some.injEq, Prod.mk.injEq] at h
    obtain ⟨rfl, rfl⟩ := h
    split_ifs with hguard
    · constructor
      exact hguard
    · constructor
      simpa using hguard
  | acquire =>
    simp only [Mobile.reportStep] at h
    split_ifs at h with hlock
    obtain ⟨rfl, rfl⟩ := Prod.mk.inj (Option.some.inj h)
    exact .acquire (Bool.of_not_eq_true hlock)
  | put | done => cases h
  | visit visits =>
    cases visits with
    | nil =>
      obtain ⟨rfl, rfl⟩ := Prod.mk.inj (Option.some.inj h)
      exact .noVisit
    | cons v rest =>
      simp only [Mobile.reportStep] at h
      split at h
      · rename_i hactive
        obtain ⟨rfl, rfl⟩ := Prod.mk.inj (Option.some.inj h)
        exact .noTunnel hactive
      · rename_i hactive
        obtain ⟨rfl, rfl⟩ := Prod.mk.inj (Option.some.inj h)
        exact .begin hactive
  | close v rest =>
    simp only [Mobile.reportStep] at h
    split_ifs at h with hstop
    · obtain ⟨rfl, rfl⟩ := Prod.mk.inj (Option.some.inj h)
      exact .close hstop
    · obtain ⟨rfl, rfl⟩ := Prod.mk.inj (Option.some.inj h)
      exact .closeFails (Bool.of_not_eq_true hstop)
  | activate v rest =>
    simp only [Mobile.reportStep] at h
    by_cases hactivated : v.Activated s.app
    · rw [run_activateConnection hactivated] at h
      obtain ⟨rfl, rfl⟩ := Prod.mk.inj (Option.some.inj h)
      exact .activate hactivated
    · rw [run_activateConnection_of_not hactivated] at h
      obtain ⟨rfl, rfl⟩ := Prod.mk.inj (Option.some.inj h)
      exact .activateRaises hactivated
  | lookUp v rest =>
    simp only [Mobile.reportStep] at h
    split at h
    · rename_i hconn
      obtain ⟨rfl, rfl⟩ := Prod.mk.inj (Option.some.inj h)
      exact .lookUpRaises hconn
    · rename_i hconn
      obtain ⟨rfl, rfl⟩ := Prod.mk.inj (Option.some.inj h)
      exact .lookUp hconn
  | enter connName v rest =>
    simp only [Mobile.reportStep] at h
    split_ifs at h with hchdir hcall
    · obtain ⟨rfl, rfl⟩ := Prod.mk.inj (Option.some.inj h)
      exact .startFails hchdir hcall
    · obtain ⟨rfl, rfl⟩ := Prod.mk.inj (Option.some.inj h)
      exact .enter ⟨hchdir, hcall⟩
    · obtain ⟨rfl, rfl⟩ := Prod.mk.inj (Option.some.inj h)
      exact .enterRaises (Bool.of_not_eq_true hchdir)
  | inform v rest =>
    obtain ⟨rfl, rfl⟩ := Prod.mk.inj (Option.some.inj h)
    obtain ⟨currentAP, ip, taskAP, n, hafter⟩ :=
      after_updateConnectionInformation_eq v.addresses v.ap.ssid s.app
    rw [hafter]
    exact .inform
  | readAllow | build | setMigrating | closed | running | ran | setEnforced | release | arm =>
    obtain ⟨rfl, rfl⟩ := Prod.mk.inj (Option.some.inj h)
    constructor

/-- The branch for an order visits the access points with its BSSID. -/
lemma ReportEnv.branch_cases (env : ReportEnv) (app : App) (report : Json) :
    env.branch app report = .release ∨ env.branch app report = .setMigrating ∨
      ∃ bssid visits, env.branch app report = .visit visits ∧
        orderOf ((env.psc report).getD pscNotReachable) = .handover bssid ∧
        env.visits app bssid = some visits := by
  rw [ReportEnv.branch]
  split
  · exact .inl rfl
  · exact .inr (.inl rfl)
  · rename_i bssid horder
    split
    · exact .inl rfl
    · rename_i visits hvisits
      exact .inr (.inr ⟨bssid, visits, rfl, horder, hvisits⟩)

/-! ### The GUI -/

/-- The event calls `start` of the mobility client. -/
def Mobile.Starts (s : Mobile) : MobileEvent → Prop
  | .startMobility env => env.chdir = true
  | .login _ env => s.app.useMobility = true ∧ env.chdir = true
  | _ => False

/-- The event calls `stop_m` of the mobility client. -/
def Mobile.Stops (s : Mobile) : MobileEvent → Prop
  | .stopMobility => True
  | .logout reply => s.app.LogoutStops reply
  | .disconnect exits reply _ _ =>
    s.app.LogoutStops reply ∨ exits = true ∧ ¬ s.app.LogoutRaises reply
  | _ => False

/-- The event stops the tunnel. -/
def Mobile.Closes (s : Mobile) : MobileEvent → Prop
  | .disconnect _ reply stop _ => stop = true ∧ ¬ s.app.LogoutRaises reply
  | _ => False

/-- What the GUI goes on with after an event. -/
inductive Mobile.Handled (s : Mobile) (e : MobileEvent) : Mobile → Prop
  | slot {app : App} (hstarts : ¬ s.Starts e) : Mobile.Handled s e { s with app := app }
  | start {app : App} {login : Bool} (hstarts : s.Starts e) : Mobile.Handled s e { s with
      app := app
      reports := s.reports ++ [.readWifilist]
      gui := .report s.reports.length login
      starts := s.starts + 1 }
  | test {app : App} {env : StartEnv} (hstarts : ¬ s.Starts e) :
      Mobile.Handled s e { s with app := app, gui := .testSlot env }
  | close {app : App} {connName : String} {slot : Option StartEnv} (hstarts : ¬ s.Starts e)
      (hcloses : s.Closes e) (hconn : connName = s.app.ipsecNedConnectionName) :
      Mobile.Handled s e { s with
        app := app, stopping := connName :: s.stopping, gui := .closing slot }

/-- What every event that the GUI handles leaves. -/
structure Mobile.Handling (s : Mobile) (e : MobileEvent) (s' : Mobile) : Prop where
  keeps : s.app.KeepsLink s'.app
  stop_iff : s'.app.mobClient.stopMobility = true ↔
    s.app.mobClient.stopMobility = true ∨ s.Stops e
  handled : s.Handled e s'

/-- What an event leaves that does not call `stop_m`. -/
lemma Mobile.Handled.handling {e : MobileEvent} (h : s.Handled e s')
    (hkeeps : s.app.KeepsLink s'.app)
    (hstop : s'.app.mobClient.stopMobility = s.app.mobClient.stopMobility) (hstops : ¬ s.Stops e) :
    s.Handling e s' := by
  refine ⟨hkeeps, ?_, h⟩
  rw [hstop]
  exact ⟨.inl, fun h => h.resolve_right hstops⟩

lemma Mobile.handle_sound {e : MobileEvent} (hidle : s.gui = .idle) (h : s.handle e = some s') :
    s.Handling e s' := by
  cases e with
  | startMobility env =>
    rw [Mobile.handle, Option.some.injEq, Mobile.start] at h
    split_ifs at h with hchdir
    · subst h
      obtain ⟨hkeeps, hstop⟩ := App.keepsLink_mobilityStarted { s.app with useMobility := true } env
      exact Mobile.Handled.handling (.start hchdir)
        ⟨hkeeps.1, hkeeps.2, hkeeps.3, hkeeps.4⟩ hstop id
    · subst h
      exact Mobile.Handled.handling (.slot hchdir) ⟨rfl, rfl, rfl, rfl⟩ rfl id
  | stopMobility =>
    rw [Mobile.handle, Option.some.injEq] at h
    subst h
    exact ⟨⟨rfl, rfl, rfl, rfl⟩, iff_of_true rfl (.inr ⟨⟩), .slot id⟩
  | startHandover | stopHandover | loginRefused =>
    rw [Mobile.handle, Option.some.injEq] at h
    subst h
    exact Mobile.Handled.handling (.slot id) ⟨rfl, rfl, rfl, rfl⟩ rfl id
  | login user env =>
    rw [Mobile.handle] at h
    split_ifs at h with hmobility
    · rw [Option.some.injEq, Mobile.start] at h
      split_ifs at h with hchdir
      · subst h
        obtain ⟨hkeeps, hstop⟩ := App.keepsLink_mobilityStarted (s.app.loggedIn user) env
        exact Mobile.Handled.handling (.start ⟨hmobility, hchdir⟩)
          ⟨hkeeps.1, hkeeps.2, hkeeps.3, hkeeps.4⟩ hstop id
      · subst h
        exact Mobile.Handled.handling (.slot fun h => hchdir h.2) ⟨rfl, rfl, rfl, rfl⟩ rfl id
    · rw [Option.some.injEq] at h
      subst h
      exact Mobile.Handled.handling (.slot fun h => hmobility h.1) ⟨rfl, rfl, rfl, rfl⟩ rfl id
  | logout reply =>
    rw [Mobile.handle, Option.some.injEq] at h
    subst h
    obtain ⟨app', hkeeps, hstop, ⟨-, hrun⟩ | ⟨-, hrun⟩⟩ := run_logout_cases reply s.app
    · rw [after, hrun]
      exact ⟨hkeeps, hstop, .slot id⟩
    · rw [after, hrun]
      exact ⟨hkeeps, hstop, .slot id⟩
  | connectionInfo =>
    rw [Mobile.handle] at h
    split_ifs at h
    obtain rfl := Option.some.inj h
    obtain ⟨hkeeps, hstop⟩ := App.keepsLink_updateConnectionInfoView { s.app with
      signals.updateConnectionInfo := s.app.signals.updateConnectionInfo - 1 }
    exact Mobile.Handled.handling (.slot id) ⟨hkeeps.1, hkeeps.2, hkeeps.3, hkeeps.4⟩ hstop id
  | ipsecConnectionInfo =>
    rw [Mobile.handle] at h
    split_ifs at h
    obtain rfl := Option.some.inj h
    exact Mobile.Handled.handling (.slot id) ⟨rfl, rfl, rfl, rfl⟩ rfl id
  | attestation env =>
    rw [Mobile.handle, Option.some.injEq] at h
    subst h
    exact Mobile.Handled.handling (.test id) ⟨rfl, rfl, rfl, rfl⟩ rfl id
  | disconnect exits reply stop env =>
    rw [Mobile.handle, Option.some.injEq, Mobile.disconnect] at h
    obtain ⟨app', hkeeps, hstop, ⟨hraises, hrun⟩ | ⟨hraises, hrun⟩⟩ := run_logout_cases reply s.app
    · rw [hrun] at h
      subst h
      refine ⟨hkeeps, ?_, .slot id⟩
      rw [Mobile.Stops, hstop]
      tauto
    · rw [hrun] at h
      cases exits with
      | false =>
        have hstop' : app'.mobClient.stopMobility = true ↔ s.app.mobClient.stopMobility = true ∨
            s.Stops (.disconnect false reply stop env) := by
          rw [hstop, Mobile.Stops]
          tauto
        cases stop with
        | false =>
          subst h
          exact ⟨hkeeps, hstop', .test id⟩
        | true =>
          subst h
          exact ⟨hkeeps, hstop', .close id ⟨rfl, hraises⟩ hkeeps.connName⟩
      | true =>
        have hkeeps' : s.app.KeepsLink { app' with mobClient.stopMobility := true } :=
          ⟨hkeeps.1, hkeeps.2, hkeeps.3, hkeeps.4⟩
        have hstops : s.Stops (.disconnect true reply stop env) := .inr ⟨rfl, hraises⟩
        cases stop with
        | false =>
          subst h
          refine ⟨hkeeps', iff_of_true rfl (.inr hstops), ?_⟩
          show s.Handled _
            { s with app := { app' with mobClient.stopMobility := true }, gui := .idle }
          rw [← hidle]
          exact .slot id
        | true =>
          subst h
          exact ⟨hkeeps', iff_of_true rfl (.inr hstops), .close id ⟨rfl, hraises⟩ hkeeps.connName⟩
  | fireReport | fireScan | report | answer | publish | scanned | scanFails | scan | stopEnds
  | gui => cases h

/-- What a step of the GUI can do, by what it is doing. -/
inductive Mobile.GuiStep (s : Mobile) : GuiCall → Mobile → Prop
  | reported {i : ℕ} {login : Bool} (hcall : s.reports[i]? = some .done) :
      Mobile.GuiStep s (.report i login)
        { s with scans := s.scans ++ [.scanning], gui := .scan s.scans.length login }
  | scanned {j : ℕ} {login : Bool} {status : Option Bool} (hcall : s.scans[j]? = some .done) :
      Mobile.GuiStep s (.scan j login) { s with app.status := status, gui := .idle }
  | closed : Mobile.GuiStep s (.closing none) { s with
      app.activeIpsecConnection := none
      app.signals.updatetIpsecConnectionInfo := s.app.signals.updatetIpsecConnectionInfo + 1
      gui := .idle }
  | closedInSlot {env : StartEnv} : Mobile.GuiStep s (.closing (some env)) { s with
      app.activeIpsecConnection := none
      app.signals.updatetIpsecConnectionInfo := s.app.signals.updatetIpsecConnectionInfo + 1
      gui := .testSlot env }
  | noTunnel {env : StartEnv} (hmobility : s.app.useMobility = false)
      (hactive : s.app.activeIpsecConnection = none) :
      Mobile.GuiStep s (.testSlot env) { s with gui := .readName env }
  | tunnel {env : StartEnv} : Mobile.GuiStep s (.testSlot env) { s with gui := .idle }
  | readName {env : StartEnv} : Mobile.GuiStep s (.readName env)
      { s with gui := .enter s.app.ipsecNedConnectionName env }
  | enter {connName : String} {env : StartEnv} :
      Mobile.GuiStep s (.enter connName env) { s with gui := .running connName }
  | enterFails {connName : String} {env : StartEnv} :
      Mobile.GuiStep s (.enter connName env) { s with gui := .idle }
  | running {connName : String} : Mobile.GuiStep s (.running connName) { s with
      app.ipsecNedConnectionName := connName
      app.started := connName :: s.app.started
      up := insert connName s.up
      gui := .ran connName }
  | ran {connName : String} : Mobile.GuiStep s (.ran connName) { s with
      app.activeIpsecConnection := some connName
      app.signals.updatetIpsecConnectionInfo := s.app.signals.updatetIpsecConnectionInfo + 1
      gui := .idle }

lemma Mobile.guiStep_sound {call : GuiCall} (h : s.guiStep call = some s') :
    s.GuiStep call s' := by
  cases call with
  | idle => cases h
  | report i login =>
    simp only [Mobile.guiStep] at h
    split at h
    · rename_i hcall
      obtain rfl := Option.some.inj h
      exact .reported hcall
    · cases h
  | scan j login =>
    rw [Mobile.guiStep] at h
    split at h
    · rename_i hcall
      obtain rfl := Option.some.inj h
      exact .scanned hcall
    · cases h
  | closing slot =>
    obtain rfl := Option.some.inj h
    cases slot with
    | none => exact .closed
    | some env => exact .closedInSlot
  | testSlot env =>
    simp only [Mobile.guiStep] at h
    split_ifs at h with hguard
    · obtain rfl := Option.some.inj h
      exact .noTunnel hguard.1 hguard.2
    · obtain rfl := Option.some.inj h
      exact .tunnel
  | enter connName env =>
    simp only [Mobile.guiStep] at h
    split_ifs at h
    · obtain rfl := Option.some.inj h
      exact .enterFails
    · obtain rfl := Option.some.inj h
      exact .enter
  | readName | running | ran =>
    obtain rfl := Option.some.inj h
    constructor

/-! ### The program -/

/-- The event is a step of a call, of a timer or of a script: the GUI does not handle it. -/
def MobileEvent.ofCalls : MobileEvent → Bool
  | .fireReport | .fireScan | .report _ | .answer _ _ | .publish _ _ _ | .scanned _ | .scanFails _
  | .scan _ | .stopEnds _ | .gui => true
  | _ => false

/-- What a step can do. -/
inductive Mobile.Step (s : Mobile) : MobileEvent → Mobile → Prop
  | fireReport (htimers : 0 < s.app.mobClient.timers) : Mobile.Step s .fireReport { s with
      app.mobClient.timers := s.app.mobClient.timers - 1
      reports := s.reports ++ [.readWifilist] }
  | fireScan (htimers : 0 < s.scanTimers) : Mobile.Step s .fireScan
      { s with scanTimers := s.scanTimers - 1, scans := s.scans ++ [.scanning] }
  | report {i : ℕ} {call call' : ReportCall} {s' : Mobile} (hcall : s.reports[i]? = some call)
      (hstep : s.ReportStep call s' call') :
      Mobile.Step s (.report i) { s' with reports := s.reports.set i call' }
  | answer {i : ℕ} {env : ReportEnv} {report : Json} (hcall : s.reports[i]? = some (.put report)) :
      Mobile.Step s (.answer i env)
        { s with reports := s.reports.set i (env.branch s.app report) }
  | publish {j : ℕ} {current : AccessPoint} {wifilist : List WifiEntry} :
      Mobile.Step s (.publish j current wifilist) { s with
        app.mobClient.currentConnection := some current, app.mobClient.wifilist := wifilist }
  | scanned {j : ℕ} (hcall : s.scans[j]? = some .scanning) :
      Mobile.Step s (.scanned j) { s with scans := s.scans.set j .testStop }
  | scanFails {j : ℕ} (hcall : s.scans[j]? = some .scanning) :
      Mobile.Step s (.scanFails j) { s with scans := s.scans.set j .done }
  | scanTests {j : ℕ} (hcall : s.scans[j]? = some .testStop) : Mobile.Step s (.scan j)
      { s with scans := s.scans.set j (if s.app.mobClient.stopMobility then .done else .arm) }
  | scanArms {j : ℕ} (hcall : s.scans[j]? = some .arm) : Mobile.Step s (.scan j)
      { s with scanTimers := s.scanTimers + 1, scans := s.scans.set j .done }
  | stopEnds {connName : String} (hmem : connName ∈ s.stopping) : Mobile.Step s (.stopEnds connName)
      { s with up := s.up.erase connName, stopping := s.stopping.erase connName }
  | gui {call : GuiCall} {s' : Mobile} (hgui : s.gui = call) (hstep : s.GuiStep call s') :
      Mobile.Step s .gui s'
  | handled {e : MobileEvent} {s' : Mobile} (hcalls : e.ofCalls = false) (hidle : s.gui = .idle)
      (h : s.Handling e s') : Mobile.Step s e s'

lemma Mobile.step_sound {e : MobileEvent} (h : s.step e = some s') : s.Step e s' := by
  cases e with
  | fireReport =>
    simp only [Mobile.step] at h
    split_ifs at h with htimers
    obtain rfl := Option.some.inj h
    exact .fireReport (Nat.pos_of_ne_zero htimers)
  | fireScan =>
    simp only [Mobile.step] at h
    split_ifs at h with htimers
    obtain rfl := Option.some.inj h
    exact .fireScan (Nat.pos_of_ne_zero htimers)
  | report i =>
    simp only [Mobile.step] at h
    split at h
    · cases h
    · rename_i call hcall
      obtain ⟨⟨s₁, call'⟩, hstep, rfl⟩ := Option.map_eq_some_iff.mp h
      exact .report hcall (Mobile.reportStep_sound hstep)
  | answer i env =>
    simp only [Mobile.step] at h
    split at h
    · rename_i report hcall
      obtain rfl := Option.some.inj h
      exact .answer hcall
    · cases h
  | publish j current wifilist =>
    simp only [Mobile.step] at h
    split_ifs at h
    obtain rfl := Option.some.inj h
    exact .publish
  | scanned j =>
    simp only [Mobile.step] at h
    split_ifs at h with hcall
    obtain rfl := Option.some.inj h
    exact .scanned hcall
  | scanFails j =>
    simp only [Mobile.step] at h
    split_ifs at h with hcall
    obtain rfl := Option.some.inj h
    exact .scanFails hcall
  | scan j =>
    simp only [Mobile.step] at h
    split at h
    · rename_i hcall
      obtain rfl := Option.some.inj h
      exact .scanTests hcall
    · rename_i hcall
      obtain rfl := Option.some.inj h
      exact .scanArms hcall
    · cases h
  | stopEnds connName =>
    simp only [Mobile.step] at h
    split_ifs at h with hmem
    obtain rfl := Option.some.inj h
    exact .stopEnds hmem
  | gui => exact .gui rfl (Mobile.guiStep_sound h)
  | startMobility | stopMobility | startHandover | stopHandover | login | loginRefused | logout
  | attestation | connectionInfo | ipsecConnectionInfo | disconnect =>
    simp only [Mobile.step] at h
    split at h
    · rename_i hidle
      exact .handled rfl hidle (Mobile.handle_sound hidle h)
    · cases h

/-- The flag is set by the events that call `stop_m`, and nothing clears it. -/
lemma Mobile.stop_step_iff {e : MobileEvent} (h : s.Step e s') :
    s'.app.mobClient.stopMobility = true ↔ s.app.mobClient.stopMobility = true ∨ s.Stops e := by
  cases h with
  | report hcall hstep => cases hstep <;> simp [Mobile.Stops]
  | gui hgui hstep => cases hstep <;> simp [Mobile.Stops]
  | handled hcalls hidle hhandling => exact hhandling.stop_iff
  | fireReport | fireScan | answer | publish | scanned | scanFails | scanTests | scanArms
  | stopEnds => exact ⟨.inl, fun h => h.resolve_right id⟩

/-- Only the events that call `start` count as a start. -/
lemma Mobile.starts_step {e : MobileEvent} (h : s.Step e s') :
    s.Starts e ∧ s'.starts = s.starts + 1 ∨ ¬ s.Starts e ∧ s'.starts = s.starts := by
  cases h with
  | report hcall hstep => cases hstep <;> exact .inr ⟨id, rfl⟩
  | gui hgui hstep => cases hstep <;> exact .inr ⟨id, rfl⟩
  | handled hcalls hidle hhandling =>
    cases hhandling.handled with
    | start hstarts => exact .inl ⟨hstarts, rfl⟩
    | slot hstarts | test hstarts | close hstarts => exact .inr ⟨hstarts, rfl⟩
  | fireReport | fireScan | answer | publish | scanned | scanFails | scanTests | scanArms
  | stopEnds => exact .inr ⟨id, rfl⟩

/-! ### The start of the program -/

/-- The constructor of the GUI leaves the mobility client as it made it, and no tunnel but the one
whose name it keeps. -/
structure App.Fresh (app : App) : Prop where
  stop : app.mobClient.stopMobility = false
  lock : app.mobClient.lock = false
  timers : app.mobClient.timers = 0
  active : app.activeIpsecConnection = none ∨
    app.activeIpsecConnection = some app.ipsecNedConnectionName

lemma App.fresh_makeIPsecConnection (env : StartEnv) (connName : String) :
    Keeps App.Fresh (makeIPsecConnection env connName) := by
  intro app h
  obtain ⟨chdir, call⟩ := env
  cases chdir with
  | false => exact h
  | true =>
    cases call with
    | none => exact h
    | some status => exact ⟨h.1, h.2, h.3, .inr rfl⟩

lemma App.fresh_of_init {config : RawConfigParser} {env : InitEnv} {app : App}
    (h : App.init config env = some app) : app.Fresh := by
  refine App.holds_of_init ?_ ?_ (App.fresh_makeIPsecConnection _) ?_ h
  · intro useMobility nedId connName
    exact ⟨rfl, rfl, rfl, .inl rfl⟩
  · intro app h
    obtain ⟨currentAP, ip, taskAP, n, hafter⟩ := after_getCurrentAP_eq env.devices app
    rw [hafter]
    exact ⟨h.1, h.2, h.3, h.4⟩
  · intro app h
    exact ⟨h.1, h.2, h.3, h.4⟩

end SecuredApp
