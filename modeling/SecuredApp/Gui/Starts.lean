import SecuredApp.Mobility.Reports

/-!
# When the start script is run

Tunnels are started from the constructor, from the attestation slot and from a handover. Each
statement either leaves the runs of the start script alone or adds runs for connections it is
entitled to start; a run of the application is explained step by step from that.
-/

namespace SecuredApp

open SecuredApp.Core

variable {α β : Type}

/-! ### Statements that start nothing -/

/-- The configuration, the signals of finished polls, what the attestation slot and the reports
depend on, and the runs of the start script. -/
structure StartView where
  config : RawConfigParser
  useMobility : Bool
  ipsecNedConnectionName : String
  finished : Nat
  wifilist : List WifiEntry
  nmc : Bool
  started : List String

def App.startView (app : App) : StartView where
  config := app.config
  useMobility := app.useMobility
  ipsecNedConnectionName := app.ipsecNedConnectionName
  finished := app.signals.requestTaskFinished
  wifilist := app.mobClient.wifilist
  nmc := app.mobClient.nmc
  started := app.started

/-- The statement writes nothing of the view. -/
def Quiet (x : Py App α) : Prop := ∀ view, Keeps (fun app => app.startView = view) x

namespace Quiet

lemma pure (a : α) : Quiet (pure a) := fun _ => .pure a

lemma throw (e : PyError) : Quiet (throw e : Py App α) := fun _ => .throw e

lemma modify {f : App → App} (h : ∀ app, (f app).startView = app.startView) :
    Quiet (modify f) :=
  fun _ => .modify fun app happ => (h app).trans happ

lemma bind {x : Py App α} {f : α → Py App β} (hx : Quiet x) (hf : ∀ a, Quiet (f a)) :
    Quiet (x >>= f) :=
  fun view => (hx view).bind fun a => hf a view

lemma get_bind {f : App → Py App α} (h : ∀ app, Quiet (f app)) : Quiet (get >>= f) :=
  fun view => .get_bind fun app _ => h app view

lemma ite {c : Prop} [Decidable c] {x y : Py App α} (hx : Quiet x) (hy : Quiet y) :
    Quiet (if c then x else y) :=
  fun view => .ite (fun _ => hx view) fun _ => hy view

/-- A statement that writes nothing of the view keeps every property of it. -/
lemma keeps {x : Py App α} (hx : Quiet x) (Q : StartView → Prop) :
    Keeps (fun app => Q app.startView) x := by
  intro app happ
  rw [hx app.startView app rfl]
  exact happ

end Quiet

lemma quiet_updateStatus (status : Enforcement) : Quiet (updateStatus status) :=
  .modify fun _ => rfl

lemma quiet_setUserLoggedIn (user : Option String) : Quiet (setUserLoggedIn user) :=
  .modify fun _ => rfl

lemma quiet_stopMobilityScript : Quiet stopMobilityScript := .modify fun _ => rfl

lemma quiet_stopPsaEventThread : Quiet stopPsaEventThread := by
  refine .get_bind fun app => ?_
  cases app.psaEventThread with
  | none => exact .throw _
  | some running => exact .modify fun _ => rfl

lemma quiet_updateConnectionInfoView : Quiet updateConnectionInfoView := by
  refine .modify fun app => ?_
  split
  · rfl
  · rfl
  · dsimp only
    split <;> rfl

lemma quiet_closeIPsecConnection (stop : Bool) : Quiet (closeIPsecConnection stop) := by
  refine .ite (.bind (.modify fun _ => rfl) fun _ => ?_) (.pure _)
  exact .modify fun _ => rfl

lemma quiet_logout (reply : Option Nat) : Quiet (logout reply) := by
  refine .get_bind fun app => .ite ?_ (.pure _)
  refine .bind (.modify fun _ => rfl) fun _ => .bind (quiet_setUserLoggedIn none) fun _ => ?_
  refine .bind (.modify fun _ => rfl) fun _ => .bind quiet_stopPsaEventThread fun _ => ?_
  exact .ite quiet_stopMobilityScript (.pure _)

lemma quiet_updateConnectionInformation (attempts : List (Option String)) (apName : String) :
    Quiet (updateConnectionInformation attempts apName) := by
  refine .get_bind fun app => .ite (.bind (.modify fun _ => rfl) fun _ => ?_) (.pure _)
  exact .modify fun _ => rfl

lemma quiet_getCurrentAP (devices : Option (List Device)) : Quiet (getCurrentAP devices) := by
  unfold getCurrentAP
  split
  · exact .pure _
  · split
    · exact .pure _
    · split
      · exact .pure _
      · exact quiet_updateConnectionInformation _ _

lemma quiet_activateConnection (v : Visit) : Quiet (activateConnection v) :=
  .get_bind fun _ => .ite (.modify fun _ => rfl) (.throw _)

lemma quiet_concatText (s : Option String) : Quiet (concatText s) := by
  cases s with
  | none => exact .throw _
  | some s => exact .pure _

lemma quiet_getItem (j : Json) (key : String) : Quiet (getItem j key) := by
  cases j with
  | obj members =>
    rw [getItem]
    cases members.lookup key with
    | none => exact .throw _
    | some j => exact .pure _
  | _ => exact .throw _

lemma quiet_jsonText (j : Json) : Quiet (jsonText j) := by
  cases j with
  | str s => exact .pure _
  | _ => exact .throw _

lemma quiet_rearm : Quiet rearm := by
  refine .modify fun app => ?_
  split_ifs <;> rfl

lemma quiet_strOf (j : Json) : Quiet (strOf j) := by
  cases j with
  | str s => exact .ite (.pure _) (.throw _)
  | _ => exact .pure _

lemma quiet_setAttestationStatus (result : Bool) : Quiet (setAttestationStatus result) := by
  refine .get_bind fun app => .bind (.modify fun _ => rfl) fun _ => ?_
  refine .bind (quiet_strOf _) fun _ => .bind (.modify fun _ => rfl) fun _ => ?_
  split
  · exact .throw _
  · exact .modify fun _ => rfl

lemma quiet_showAttestationResult (env : AttestationEnv) (result : Bool) :
    Quiet (showAttestationResult env result) := by
  refine .bind (quiet_setAttestationStatus result) fun _ => .get_bind fun app => .ite ?_ (.pure _)
  refine .bind (.modify fun _ => rfl) fun _ => .ite ?_ (.pure _)
  refine .bind (quiet_logout _) fun _ => .bind (quiet_closeIPsecConnection _) fun _ => ?_
  exact .modify fun _ => rfl

/-! ### Statements that may start a tunnel -/

/-- The view of a state with the configuration `config` and at most `n` finished polls to handle,
with a list of access points only where there is a client of NetworkManager, and in which the
start script was run, after the runs `base`, only for connections that meet `P`. -/
structure StartView.Adds (config : RawConfigParser) (n : ℕ) (base : List String)
    (P : String → Prop) (view : StartView) : Prop where
  config_eq : view.config = config
  finished_le : view.finished ≤ n
  nmc_of_scan : view.wifilist ≠ [] → view.nmc = true
  started_eq : ∃ new, view.started = new ++ base ∧ ∀ connName ∈ new, P connName

/-- The statement adds runs only for connections that meet `P`. -/
def AddsOnly (config : RawConfigParser) (n : ℕ) (base : List String) (P : String → Prop)
    (x : Py App α) : Prop :=
  Keeps (fun app => app.startView.Adds config n base P) x

variable {config : RawConfigParser} {n : ℕ} {base : List String} {P : String → Prop}

lemma Quiet.addsOnly {x : Py App α} (hx : Quiet x) : AddsOnly config n base P x :=
  hx.keeps (StartView.Adds config n base P)

lemma AddsOnly.adds {x : Py App α} (hx : AddsOnly config n base P x) {app : App}
    (happ : app.startView.Adds config n base P) :
    (after x app).startView.Adds config n base P :=
  hx app happ

lemma AddsOnly.bind {x : Py App α} {f : α → Py App β} (hx : AddsOnly config n base P x)
    (hf : ∀ a, AddsOnly config n base P (f a)) : AddsOnly config n base P (x >>= f) :=
  Keeps.bind hx hf

lemma addsOnly_makeIPsecConnection {connName : String} (env : StartEnv) (h : P connName) :
    AddsOnly config n base P (makeIPsecConnection env connName) := by
  unfold makeIPsecConnection
  refine Keeps.ite (fun _ => Keeps.throw_bind _ _) fun _ => ?_
  refine Keeps.ite (fun _ => ?_) fun _ => Keeps.pure _
  refine AddsOnly.bind (Keeps.modify ?_) fun _ => Quiet.addsOnly (.modify fun _ => rfl)
  rintro app ⟨hconfig, hfinished, hnmc, new, hnew, hP⟩
  refine ⟨hconfig, hfinished, hnmc, connName :: new, ?_, ?_⟩
  · rw [List.cons_append, ← hnew]
    rfl
  · intro c hc
    rcases List.mem_cons.mp hc with rfl | hc
    · exact h
    · exact hP c hc

/-- A handover starts only the tunnel configured for its access point. -/
lemma addsOnly_handover {v : Visit}
    (h : ∀ connName, config.get "Mobility" v.ap.ssid = some connName → P connName) :
    AddsOnly config n base P (handover v) := by
  refine Keeps.get_bind fun app _ => ?_
  refine AddsOnly.bind (quiet_concatText _).addsOnly fun _ => ?_
  refine AddsOnly.bind (quiet_closeIPsecConnection _).addsOnly fun _ => ?_
  refine AddsOnly.bind (quiet_activateConnection v).addsOnly fun _ => ?_
  rw [getIpsecConnectionFromSsid, bind_assoc]
  refine Keeps.get_bind fun app happ => ?_
  have hconfig : app.config = config := happ.config_eq
  rw [pure_bind, hconfig]
  cases hconn : config.get "Mobility" v.ap.ssid with
  | none => exact Keeps.throw _
  | some connName =>
    rw [concatText, pure_bind]
    refine AddsOnly.bind (addsOnly_makeIPsecConnection v.start (h connName hconn)) fun _ => ?_
    refine AddsOnly.bind (quiet_updateConnectionInformation _ _).addsOnly fun _ => ?_
    exact (quiet_updateStatus _).addsOnly

/-- The handovers of an order start only the tunnels configured for the access points seen. -/
lemma addsOnly_handoverNeeded {env : ReportEnv} {bssid : String}
    (h : ∀ v ∈ env.visible bssid, ∀ connName,
      config.get "Mobility" v.ap.ssid = some connName → P connName) :
    AddsOnly config n base P (handoverNeeded env bssid) := by
  refine Keeps.get_bind fun app _ => ?_
  refine Keeps.ite (fun _ => Keeps.throw_bind _ _) fun _ => ?_
  cases hdevices : env.devices with
  | none => exact Keeps.throw _
  | some devices =>
    dsimp only
    rw [forM_devices]
    refine Keeps.forM fun v hv => addsOnly_handover fun connName hconn => h v ?_ connName hconn
    rw [ReportEnv.visible, hdevices]
    exact hv

/-- The cycle of a report starts only what the PSC's answer to it orders. -/
lemma adds_reportCycle {app : App} {env : ReportEnv}
    (h : ∀ response bssid, env.psc (reportJson app) = some response →
      OrdersHandover response bssid → ∀ v ∈ env.visible bssid, ∀ connName,
        config.get "Mobility" v.ap.ssid = some connName → P connName)
    (happ : app.startView.Adds config n base P) :
    (after (reportCycle env) app).startView.Adds config n base P := by
  have herror : ∀ response : Json, Quiet (do
      let _ ← jsonText (← getItem response "error")
      pure () : Py App Unit) := by
    intro response
    exact .bind (quiet_getItem _ _) fun j => .bind (quiet_jsonText j) fun _ => .pure _
  rw [reportCycle, after_get_bind]
  refine AddsOnly.adds ?_ happ
  cases hpsc : env.psc (reportJson app) with
  | none => exact (herror pscNotReachable).addsOnly
  | some response =>
    simp only [Option.getD_some]
    cases haction : response.member? "action" with
    | none =>
      obtain ⟨e, he⟩ := getItem_of_not_member haction
      rw [he]
      exact Keeps.throw_bind _ _
    | some action =>
      rw [getItem_of_member haction, pure_bind]
      refine Keeps.ite (fun _ => Keeps.pure _) fun _ => Keeps.ite (fun _ => ?_) fun _ =>
        Keeps.ite (fun h2 => ?_) fun _ => (herror response).addsOnly
      · exact Quiet.addsOnly (.bind (quiet_updateStatus _) fun _ => .modify fun _ => rfl)
      · cases hbssid : response.member? "bssid" with
        | none =>
          obtain ⟨e, he⟩ := getItem_of_not_member hbssid
          rw [he]
          exact Keeps.throw_bind _ _
        | some j =>
          rw [getItem_of_member hbssid, pure_bind]
          cases j with
          | str bssid =>
            exact addsOnly_handoverNeeded (h response bssid hpsc ⟨⟨action, haction, h2⟩, hbssid⟩)
          | _ => exact Keeps.throw_bind _ _

/-- The PSC answers the report of the state with an order to an access point of the tunnel. -/
def ReportEnv.OrdersTunnel (env : ReportEnv) (config : RawConfigParser) (app : App)
    (connName : String) : Prop :=
  ∃ bssid v, env.Orders app bssid ∧ v ∈ env.visible bssid ∧
    config.get "Mobility" v.ap.ssid = some connName

/-- A report starts only what the PSC's answer to it orders. -/
lemma adds_reportAPs {app : App} {env : ReportEnv}
    (h : ∀ connName, env.OrdersTunnel config app connName → P connName)
    (happ : app.startView.Adds config n base P) :
    (after (reportAPs env) app).startView.Adds config n base P := by
  by_cases hready : app.ReadyToReport
  · set app₁ : App := { app with mobClient.lock := true } with happ₁
    have hcycle : (after (reportCycle env) app₁).startView.Adds config n base P := by
      refine adds_reportCycle ?_ happ
      intro response bssid hpsc horder v hv connName hconn
      exact h connName ⟨bssid, v, ⟨hready, response, hpsc, horder⟩, hv, hconn⟩
    rw [after_reportAPs env hready]
    exact quiet_rearm.addsOnly.adds hcycle
  · rw [reportAPs, after_get_bind, if_neg hready]
    exact quiet_rearm.addsOnly.adds happ

lemma adds_mobilityStarted {app : App} (env : MobilityEnv)
    (happ : app.startView.Adds config n base P) :
    (app.mobilityStarted env).startView.Adds config n base P := by
  obtain ⟨hconfig, hfinished, -, hnew⟩ := happ
  exact (quiet_getCurrentAP env.devices).addsOnly.adds
    ⟨hconfig, hfinished, fun _ => rfl, hnew⟩

/-- A login that is not accepted starts nothing. -/
lemma quiet_handleLoginStatus {reply : Option ℕ} (user : String) (env : MobilityEnv)
    (h : reply ≠ some 200) : Quiet (handleLoginStatus reply user env) := by
  cases reply with
  | none => exact .pure _
  | some statusCode =>
    have hne : statusCode ≠ 200 := fun heq => h (congrArg some heq)
    rw [handleLoginStatus]
    dsimp only
    rw [if_neg hne]
    exact .bind (quiet_setUserLoggedIn _) fun _ => .modify fun _ => rfl

lemma quiet_closeEvent (reply : Option ℕ) (stop : Bool) : Quiet (closeEvent reply stop) := by
  refine .bind (quiet_logout _) fun _ => .bind (.modify fun _ => rfl) fun _ => ?_
  refine .bind quiet_stopMobilityScript fun _ => .bind (quiet_closeIPsecConnection _) fun _ => ?_
  exact .modify fun _ => rfl

/-- The attestation slot starts a tunnel only without mobility, and then the one the attribute
`IPSEC_NED_CONNECTION_NAME` names. -/
lemma adds_onAttestation {app : App} {env : AttestationEnv}
    (h : app.useMobility = false → P app.ipsecNedConnectionName)
    (happ : app.startView.Adds config n base P) :
    (after (onAttestation env) app).startView.Adds config n base P := by
  -- the first part of the slot writes nothing of the view, so the guard is the one of `app`
  have hmake : ∀ app₁ : App, app₁.startView = app.startView →
      (after (get >>= fun app₂ : App =>
        if app₂.useMobility = false ∧ app₂.activeIpsecConnection = none then
          makeIPsecConnection env.start app₂.ipsecNedConnectionName
        else pure ()) app₁).startView.Adds config n base P := by
    intro app₁ hview
    have happ₁ : app₁.startView.Adds config n base P := hview ▸ happ
    have hmobility : app₁.useMobility = app.useMobility := congrArg StartView.useMobility hview
    have hname : app₁.ipsecNedConnectionName = app.ipsecNedConnectionName :=
      congrArg StartView.ipsecNedConnectionName hview
    have hguarded : AddsOnly config n base P
        (if app₁.useMobility = false ∧ app₁.activeIpsecConnection = none then
          makeIPsecConnection env.start app₁.ipsecNedConnectionName
        else pure ()) := by
      refine Keeps.ite (fun hguard => ?_) fun _ => Keeps.pure _
      rw [hmobility] at hguard
      rw [hname]
      exact addsOnly_makeIPsecConnection env.start (h hguard.1)
    exact hguarded app₁ happ₁
  rw [onAttestation, after_get_bind]
  cases app.attestationTask.trusted with
  | none => exact hmake app rfl
  | some result =>
    refine Keeps.after_bind (R := fun app => app.startView.Adds config n base P)
      (quiet_showAttestationResult env result app.startView) ?_ ?_ rfl
    · intro app₁ hview
      rw [hview]
      exact happ
    · intro _ app₁ hview
      exact hmake app₁ hview

/-! ### Steps and runs -/

/-- What entitles a step, taken after the events `pre`, to start the tunnel `connName`: the
result of a poll, without mobility, or an order the PSC answers a report of the step with. -/
def Entitled (config : RawConfigParser) (pre : List AppEvent) (app : App) (e : AppEvent)
    (connName : String) : Prop :=
  ((∃ env, e = .attestation env) ∧ (∃ post, .poll post ∈ pre) ∧ app.useMobility = false ∧
      connName = app.ipsecNedConnectionName) ∨
    ∃ env app₁, e.reportCall? app = some (env, app₁) ∧ env.OrdersTunnel config app₁ connName

/-- A poll adds no run. -/
lemma App.poll_started (app : App) (post : Post) :
    (app.poll post).config = app.config ∧ (app.poll post).mobClient = app.mobClient ∧
      (app.poll post).started = app.started := by
  rcases app.poll_cases post with ⟨r, hpoll⟩ | hpoll
  · rw [hpoll]
    exact ⟨rfl, rfl, rfl⟩
  · rw [hpoll]
    exact ⟨rfl, rfl, rfl⟩

/-- What holds in the state that the events `pre` lead to. -/
structure App.Reached (config : RawConfigParser) (pre : List AppEvent) (app : App) : Prop where
  config_eq : app.config = config
  nmc_of_scan : app.mobClient.wifilist ≠ [] → app.mobClient.nmc = true
  polled : 0 < app.signals.requestTaskFinished → ∃ post, .poll post ∈ pre

/-- The view of the state a step leaves, but for a poll. -/
lemma App.step_adds {pre : List AppEvent} {app app' : App} {e : AppEvent}
    (h : app.Reached config pre) (hpoll : ∀ post, e ≠ .poll post) (hstep : app.step e = some app') :
    app'.startView.Adds config app.signals.requestTaskFinished app.started
      (Entitled config pre app e) := by
  set n := app.signals.requestTaskFinished with hn
  have happ : app.startView.Adds config n app.started (Entitled config pre app e) :=
    ⟨h.config_eq, le_rfl, h.nmc_of_scan, [], rfl, by simp⟩
  have horders : ∀ {env : ReportEnv} {app₁ : App}, e.reportCall? app = some (env, app₁) →
      ∀ connName, env.OrdersTunnel config app₁ connName → Entitled config pre app e connName := by
    intro env app₁ hcall connName horder
    exact Or.inr ⟨env, app₁, hcall, horder⟩
  cases App.step_sound hstep with
  | @poll post => exact absurd rfl (hpoll post)
  | pollBegin => exact happ
  | attestation _ hsignal =>
    refine adds_onAttestation (fun hmobility => ?_) ?_
    · exact Or.inl ⟨⟨_, rfl⟩, h.polled hsignal, hmobility, rfl⟩
    · exact ⟨h.config_eq, Nat.sub_le n 1, h.nmc_of_scan, [], rfl, by simp⟩
  | connectionInfo => exact quiet_updateConnectionInfoView.addsOnly _ happ
  | ipsecConnectionInfo => exact happ
  | @login reply user env =>
    by_cases hreply : reply = some 200
    · subst hreply
      rw [after_handleLoginStatus_ok]
      split_ifs with hmobility hchdir
      · exact adds_reportAPs (horders (by simp [AppEvent.reportCall?, hmobility, hchdir]))
          (adds_mobilityStarted env happ)
      · exact happ
      · exact happ
    · exact (quiet_handleLoginStatus user env hreply).addsOnly app happ
  | logout => exact (quiet_logout _).addsOnly app happ
  | @startMobility env =>
    have hstarted : { app with useMobility := true }.startView.Adds config n app.started
        (Entitled config pre app (.startMobility env)) :=
      ⟨h.config_eq, le_rfl, h.nmc_of_scan, [], rfl, by simp⟩
    rw [after_pressedStartMobilityButton]
    split_ifs with hchdir
    · exact adds_reportAPs (horders (by simp [AppEvent.reportCall?, hchdir]))
        (adds_mobilityStarted env hstarted)
    · exact hstarted
  | stopMobility => exact ⟨h.config_eq, le_rfl, h.nmc_of_scan, [], rfl, by simp⟩
  | startHandover => exact happ
  | stopHandover => exact happ
  | report => exact adds_reportAPs (horders rfl) happ
  | scan hnmc => exact ⟨h.config_eq, le_rfl, fun _ => hnmc, [], rfl, by simp⟩
  | close => exact (quiet_closeEvent _ _).addsOnly app happ

/-- A step adds only runs it is entitled to. -/
lemma App.Reached.step {pre : List AppEvent} {app app' : App} {e : AppEvent}
    (h : app.Reached config pre) (hstep : app.step e = some app') :
    app'.Reached config (pre ++ [e]) ∧ ∃ new, app'.started = new ++ app.started ∧
      ∀ connName ∈ new, Entitled config pre app e connName := by
  by_cases hpoll : ∃ post, e = .poll post
  · obtain ⟨post, rfl⟩ := hpoll
    cases App.step_sound hstep with
    | poll =>
      obtain ⟨hconfig, hclient, hstarted⟩ := app.poll_started post
      refine ⟨⟨hconfig.trans h.config_eq, ?_, fun _ => ⟨post, by simp⟩⟩, [], hstarted, by simp⟩
      rw [hclient]
      exact h.nmc_of_scan
  · obtain ⟨hconfig, hfinished, hnmc, hnew⟩ :=
      App.step_adds h (fun post heq => hpoll ⟨post, heq⟩) hstep
    refine ⟨⟨hconfig, hnmc, fun hpos => ?_⟩, hnew⟩
    obtain ⟨post, hpost⟩ := h.polled (hpos.trans_le hfinished)
    exact ⟨post, List.mem_append_left _ hpost⟩

/-- With mobility, the connection is the one `[Mobility]` associates with the access point. -/
def ConnectsAtStart (config : RawConfigParser) (currentAP : Option String)
    (connName : String) : Prop :=
  config.getBoolean "Mobility" "USE_MOBILITY" = some true ∧
    ∃ ssid, currentAP = some ssid ∧ config.get "Mobility" ssid = some connName

/-- The client is on the access point, and the start script was run at most for its tunnel. -/
def App.AtStart (config : RawConfigParser) (currentAP : Option String) (app : App) : Prop :=
  app.currentAP = currentAP ∧ app.startView.Adds config 0 [] (ConnectsAtStart config currentAP)

lemma atStart_makeIPsecConnection {currentAP : Option String} {connName : String} (env : StartEnv)
    (h : ConnectsAtStart config currentAP connName) :
    Keeps (App.AtStart config currentAP) (makeIPsecConnection env connName) := by
  refine Keeps.and ?_ (addsOnly_makeIPsecConnection env h)
  unfold makeIPsecConnection
  refine Keeps.ite (fun _ => Keeps.throw_bind _ _) fun _ => ?_
  refine Keeps.ite (fun _ => ?_) fun _ => Keeps.pure _
  exact Keeps.bind (Keeps.modify fun _ happ => happ) fun _ => Keeps.modify fun _ happ => happ

/-- The constructor starts at most the tunnel of the access point the client is on. -/
lemma App.reached_init {env : InitEnv} {app : App} (h : App.init config env = some app) :
    app.Reached config [] ∧
      ∀ connName ∈ app.started, ConnectsAtStart config app.currentAP connName := by
  simp only [App.init, Option.bind_eq_bind, Option.bind_eq_some_iff, Option.some.injEq,
    after_tryCatch_pure] at h
  obtain ⟨useMobility, hmobility, name, -, nedId, -, rfl⟩ := h
  set app₀ := App.constructed config useMobility nedId name env.activeBssid with happ₀
  have hdone : ∀ (currentAP : Option String) (app : App), app.AtStart config currentAP →
      app.Reached config [] ∧
        ∀ connName ∈ app.started, ConnectsAtStart config app.currentAP connName := by
    rintro currentAP app ⟨rfl, hconfig, hfinished, hnmc, new, hnew, hP⟩
    refine ⟨⟨hconfig, hnmc, fun hpos => ?_⟩, fun connName hc => hP connName ?_⟩
    · exact absurd (hpos.trans_le hfinished) (lt_irrefl 0)
    · rwa [← List.append_nil new, ← hnew]
  have hquiet : ∀ app : App, app.startView = app₀.startView → app.AtStart config app.currentAP := by
    intro app hview
    refine ⟨rfl, ?_⟩
    rw [hview]
    exact ⟨rfl, le_rfl, fun hscan => absurd rfl hscan, [], rfl, by simp⟩
  refine Keeps.after_bind (R := fun app => app.Reached config [] ∧
      ∀ connName ∈ app.started, ConnectsAtStart config app.currentAP connName)
    (quiet_getCurrentAP env.devices app₀.startView) ?_ ?_ rfl
  · intro app hview
    exact hdone app.currentAP app (hquiet app hview)
  · -- the access point is known now, and nothing below moves the client
    intro _ app hview
    have hatStart := hquiet app hview
    have hmobility' : app.useMobility = useMobility := congrArg StartView.useMobility hview
    have hend : Keeps (App.AtStart config app.currentAP) (modify fun app : App => { app with
        attestationTask.running := true, psaEventThread := some false }) :=
      Keeps.modify fun _ happ => happ
    rw [after_get_bind]
    refine hdone app.currentAP _ (Keeps.state_after ?_ hatStart)
    split
    · exact Keeps.pure _
    · exact Keeps.pure _
    · rename_i currentAP _ hcurrent
      refine Keeps.ite (fun huse => ?_) fun _ => hend
      rw [getIpsecConnectionFromSsid, bind_assoc]
      refine Keeps.get_bind fun app₁ happ₁ => ?_
      have hconfig : app₁.config = config := happ₁.2.config_eq
      rw [pure_bind, hconfig]
      split
      · exact hend
      · exact hend
      · rename_i connName _ hconn
        refine Keeps.bind (atStart_makeIPsecConnection env.start ?_) fun _ => hend
        rw [hmobility'] at huse
        exact ⟨huse ▸ hmobility, currentAP, hcurrent, hconn⟩

lemma App.reached_of_run {env : InitEnv} {app app' : App} {es : List AppEvent}
    (hinit : App.init config env = some app) (hrun : run App.step app es = some app') :
    app'.Reached config es := by
  refine run_induction (P := fun pre app => app.Reached config pre) (reached_init hinit).1 ?_ hrun
  intro pre app₁ e app₂ _ h hstep
  exact (h.step hstep).1

/-- In every run the start script is run for three reasons only: by the constructor, with mobility,
for the access point the client is on; without mobility, after a poll of the verifier, when its
result is handled; and for the access point of a handover the PSC orders. -/
theorem starts_explained (config : RawConfigParser) (env : InitEnv) (app : App)
    (es : List AppEvent) (hinit : App.init config env = some app) :
    (∀ connName ∈ app.started, ConnectsAtStart config app.currentAP connName) ∧
    RunMeets App.step (fun pre app e => ∀ app', app.step e = some app' →
      ∃ new, app'.started = new ++ app.started ∧
        ∀ connName ∈ new, Entitled config pre app e connName) app es := by
  refine ⟨(App.reached_init hinit).2, ?_⟩
  intro pre e post app₁ _ hpre app' hstep
  exact ((App.reached_of_run hinit hpre).step hstep).2

/-- A Wi-Fi device that is connected to an access point. -/
def connectedDevice (ap : AccessPoint) (accessPoints : List Visit) : Device where
  deviceType := .wifi
  activeAccessPoint := some ap
  addresses := [some "10.0.0.7"]
  accessPoints := accessPoints

/-- The client is started on an access point, with a start script that can be run. -/
def startOn (ap : AccessPoint) : InitEnv where
  devices := some [connectedDevice ap []]
  activeBssid := some ap.bssid
  start := ⟨true, some 0⟩

/-- The verifier's answer about a host, with the time of the measurement. -/
def timedResults (host level : String) : Json :=
  .obj [("results", .arr [.obj [("host_name", .str host), ("trust_lvl", .str level),
    ("validate_time", .str "Thu Dec 10 09:12:37 2015")]])]

/-- Mobility is switched off, a poll is answered, and the slot handles the answer. -/
def attestedEvents (level : String) : List AppEvent :=
  [.stopMobility, .poll (.always (timedResults "ned" level)),
    .attestation ⟨false, none, true, ⟨true, some 0⟩⟩]

theorem starts_explained_ned :
    ∃ app app', App.init guiConf (startOn ⟨"cafe", "00:09"⟩) = some app ∧
      run App.step app (attestedEvents "trusted") = some app' ∧ app'.started = ["ned"] ∧
      RunMeets App.step (fun pre app e => ∀ app', app.step e = some app' →
        ∃ new, app'.started = new ++ app.started ∧
          ∀ connName ∈ new, Entitled guiConf pre app e connName) app
        (attestedEvents "trusted") := by
  have hrun : ((App.init guiConf (startOn ⟨"cafe", "00:09"⟩)).bind fun app =>
      (run App.step app (attestedEvents "trusted")).map (·.started)) = some ["ned"] := by
    decide +kernel
  obtain ⟨app, app', hinit, hrun', hstarted⟩ := exists_run hrun
  exact ⟨app, app', hinit, hrun', hstarted,
    (starts_explained guiConf (startOn ⟨"cafe", "00:09"⟩) app _ hinit).2⟩

/-- An access point a handover to which meets no failure. -/
def reachableAP (ap : AccessPoint) : Visit where
  ap := ap
  stop := true
  activate _ := true
  start := ⟨true, some 0⟩
  addresses := [some "10.0.0.9"]

/-- The PSC orders a handover to a BSSID, and the one Wi-Fi device sees the access points. -/
def orderTo (bssid : String) (accessPoints : List Visit) : ReportEnv where
  psc _ := some (.obj [("action", .int 2), ("bssid", .str bssid)])
  devices := some [connectedDevice ⟨"secured1", "00:01"⟩ accessPoints]

/-- Mobility is started and the access points are scanned, so that the next report is sent. -/
def scannedEvents : List AppEvent :=
  [.startMobility ⟨true, [], some [connectedDevice ⟨"secured1", "00:01"⟩ []], orderTo "00:01" []⟩,
    .scan ⟨"secured1", "00:01"⟩ [⟨"secured3", 70, "00:03"⟩]]

/-- With mobility the constructor starts a tunnel before there is any verdict, and a handover
starts one after the NED behind it was found untrusted. -/
theorem started_without_trust :
    ∃ app app', App.init guiConf (startOn ⟨"secured1", "00:01"⟩) = some app ∧
      app.started = ["secured1"] ∧ app.signals.requestTaskFinished = 0 ∧
      run App.step app (.poll (.always (timedResults "ned" "untrusted")) :: scannedEvents ++
        [.report (orderTo "00:03" [reachableAP ⟨"secured3", "00:03"⟩])]) = some app' ∧
      app'.started = ["mallorca_ned", "secured1"] ∧ app'.attestationTask.trusted = some false := by
  have hrun : ((App.init guiConf (startOn ⟨"secured1", "00:01"⟩)).bind fun app =>
      (run App.step app (.poll (.always (timedResults "ned" "untrusted")) :: scannedEvents ++
        [.report (orderTo "00:03" [reachableAP ⟨"secured3", "00:03"⟩])])).map fun app' =>
          (app.started, app.signals.requestTaskFinished, app'.started,
            app'.attestationTask.trusted))
        = some (["secured1"], 0, ["mallorca_ned", "secured1"], some false) := by
    decide +kernel
  obtain ⟨app, app', hinit, hrun', heq⟩ := exists_run hrun
  obtain ⟨hstarted, hfinished, hstarted', htrusted⟩ : app.started = ["secured1"] ∧
      app.signals.requestTaskFinished = 0 ∧ app'.started = ["mallorca_ned", "secured1"] ∧
      app'.attestationTask.trusted = some false := by
    simpa [Prod.ext_iff] using heq
  exact ⟨app, app', hinit, hstarted, hfinished, hrun', hstarted', htrusted⟩

end SecuredApp
