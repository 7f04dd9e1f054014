import SecuredApp.Mobility.Basic

/-!
# What a handover leaves

Where `reportAPs` can end when the PSC orders a handover: the tunnel that is active, the access
point NetworkManager is on, and the access point the client records.
-/

namespace SecuredApp

open SecuredApp.Core

variable {app app' : App} {v : Visit} {bssid : String}

/-! ### The steps of a handover -/

/-- The steps of a handover write neither the configuration nor the saved connections. -/
structure App.Framed (app app' : App) : Prop where
  config : app'.config = app.config
  savedConnections : app'.mobClient.savedConnections = app.mobClient.savedConnections

lemma App.Framed.trans {app₁ app₂ app₃ : App} (h₁ : app₁.Framed app₂) (h₂ : app₂.Framed app₃) :
    app₁.Framed app₃ :=
  ⟨h₂.config.trans h₁.config, h₂.savedConnections.trans h₁.savedConnections⟩

lemma run_closeIPsecConnection (stop : Bool) (app : App) :
    ∃ app', EStateM.run (closeIPsecConnection stop) app = .ok ⟨⟩ app' ∧ app.Framed app' ∧
      app'.activeIpsecConnection = (if stop then none else app.activeIpsecConnection) ∧
      app'.activeBssid = app.activeBssid := by
  cases stop with
  | false => exact ⟨app, rfl, ⟨rfl, rfl⟩, rfl, rfl⟩
  | true => exact ⟨_, rfl, ⟨rfl, rfl⟩, rfl, rfl⟩

/-- The run of the start script that a handover asks for can be made. -/
def StartEnv.Runs (env : StartEnv) : Prop := env.chdir = true ∧ env.call ≠ none

instance (env : StartEnv) : Decidable env.Runs := by
  unfold StartEnv.Runs
  exact instDecidableAnd

lemma run_makeIPsecConnection {env : StartEnv} (hchdir : env.chdir = true) (connName : String)
    (app : App) :
    ∃ app', EStateM.run (makeIPsecConnection env connName) app = .ok ⟨⟩ app' ∧ app.Framed app' ∧
      app'.activeIpsecConnection
        = (if env.Runs then some connName else app.activeIpsecConnection) ∧
      app'.activeBssid = app.activeBssid := by
  obtain ⟨chdir, call⟩ := env
  subst hchdir
  cases call with
  | none => exact ⟨app, rfl, ⟨rfl, rfl⟩, by simp [StartEnv.Runs], rfl⟩
  | some status => exact ⟨_, rfl, ⟨rfl, rfl⟩, by simp [StartEnv.Runs], rfl⟩

lemma run_makeIPsecConnection_of_not_chdir {env : StartEnv} (hchdir : env.chdir = false)
    (connName : String) (app : App) :
    EStateM.run (makeIPsecConnection env connName) app = .error .external app := by
  obtain ⟨chdir, call⟩ := env
  subst hchdir
  rfl

lemma run_updateConnectionInformation (attempts : List (Option String)) (apName : String)
    (app : App) :
    ∃ app', EStateM.run (updateConnectionInformation attempts apName) app = .ok ⟨⟩ app' ∧
      app.Framed app' ∧ app'.activeIpsecConnection = app.activeIpsecConnection ∧
      app'.activeBssid = app.activeBssid ∧ app'.currentAP = some apName := by
  by_cases hcurrent : app.currentAP = some apName
  · refine ⟨app, ?_, ⟨rfl, rfl⟩, rfl, rfl, hcurrent⟩
    simp [updateConnectionInformation, hcurrent]
  · set addresses := tryAddresses app.ui.wifiIP 10 attempts with haddresses
    refine ⟨{ app with
      currentAP := some apName
      ip := some (if addresses = "-1" then "" else addresses)
      attestationTask.currentAP := some apName
      signals.updateConnectionInfo := app.signals.updateConnectionInfo + 1 }, ?_, ⟨rfl, rfl⟩, rfl,
      rfl, rfl⟩
    simp [updateConnectionInformation, hcurrent, setApIp, callUpdateConnectionInfoView, haddresses]

/-- NetworkManager activates the connection for the access point. -/
def Visit.Activated (app : App) (v : Visit) : Prop :=
  v.activate (searchSavedConnection v.ap.bssid v.ap.ssid app.mobClient.savedConnections) = true

/-- The tunnel `[Mobility]` associates with the access point. -/
def Visit.tunnel (app : App) (v : Visit) : Option String := app.config.get "Mobility" v.ap.ssid

/-- The handover ends without an exception. -/
def Visit.Continues (app : App) (v : Visit) : Prop :=
  v.Activated app ∧ v.tunnel app ≠ none ∧ v.start.chdir = true

/-- The handover starts the tunnel of the access point. -/
def Visit.HandedOver (app : App) (v : Visit) : Prop :=
  v.Activated app ∧ v.tunnel app ≠ none ∧ v.start.Runs

instance (app : App) (v : Visit) : Decidable (v.Activated app) := by
  unfold Visit.Activated
  exact instDecidableEqBool _ _

instance (app : App) (v : Visit) : Decidable (v.Continues app) := by
  unfold Visit.Continues
  exact instDecidableAnd

instance (app : App) (v : Visit) : Decidable (v.HandedOver app) := by
  unfold Visit.HandedOver
  exact instDecidableAnd

lemma Visit.HandedOver.continues (h : v.HandedOver app) : v.Continues app :=
  ⟨h.1, h.2.1, h.2.2.1⟩

lemma App.Framed.activated (h : app.Framed app') : v.Activated app' ↔ v.Activated app := by
  rw [Visit.Activated, Visit.Activated, h.savedConnections]

lemma App.Framed.tunnel (h : app.Framed app') : v.tunnel app' = v.tunnel app := by
  rw [Visit.tunnel, Visit.tunnel, h.config]

lemma App.Framed.continues (h : app.Framed app') : v.Continues app' ↔ v.Continues app := by
  rw [Visit.Continues, Visit.Continues, h.activated, h.tunnel]

lemma App.Framed.handedOver (h : app.Framed app') : v.HandedOver app' ↔ v.HandedOver app := by
  rw [Visit.HandedOver, Visit.HandedOver, h.activated, h.tunnel]

lemma run_activateConnection (hact : v.Activated app) :
    EStateM.run (activateConnection v) app
      = .ok ⟨⟩ { app with activeBssid := some v.ap.bssid } := by
  rw [Visit.Activated] at hact
  simp only [activateConnection, EStateM.run_bind, EStateM.run_get, hact, if_true]
  rfl

lemma run_activateConnection_of_not (hact : ¬ v.Activated app) :
    EStateM.run (activateConnection v) app = .error .external app := by
  rw [Visit.Activated, Bool.not_eq_true] at hact
  simp only [activateConnection, EStateM.run_bind, EStateM.run_get, hact]
  rfl

/-- Without an active tunnel a handover raises before it does anything. -/
lemma run_handover_of_none (hactive : app.activeIpsecConnection = none) :
    EStateM.run (handover v) app = .error .typeError app := by
  simp only [handover, EStateM.run_bind, EStateM.run_get, hactive, concatText]
  rfl

/-- What a handover from an active tunnel leaves. -/
structure Visit.Leaves (v : Visit) (connName : String) (app app' : App) : Prop where
  framed : app.Framed app'
  bssid : app'.activeBssid = if v.Activated app then some v.ap.bssid else app.activeBssid
  tunnel : app'.activeIpsecConnection
    = if v.HandedOver app then v.tunnel app else if v.stop then none else some connName
  currentAP : v.Continues app → app'.currentAP = some v.ap.ssid

lemma run_handover {connName : String} (hactive : app.activeIpsecConnection = some connName)
    (v : Visit) :
    ∃ app', v.Leaves connName app app' ∧
      if v.Continues app then EStateM.run (handover v) app = .ok ⟨⟩ app'
      else ∃ e, EStateM.run (handover v) app = .error e app' := by
  obtain ⟨app₁, hclose, hframed₁, htunnel₁, hbssid₁⟩ := run_closeIPsecConnection v.stop app
  rw [hactive] at htunnel₁
  by_cases hact : v.Activated app
  · -- NetworkManager moves to the access point
    have hactivate := run_activateConnection (hframed₁.activated.mpr hact)
    set app₂ : App := { app₁ with activeBssid := some v.ap.bssid } with happ₂
    have hframed₂ : app.Framed app₂ := hframed₁.trans ⟨rfl, rfl⟩
    have hconf : app₂.config.get "Mobility" v.ap.ssid = v.tunnel app := hframed₂.tunnel
    cases hconn : v.tunnel app with
    | none =>
      -- the name of the tunnel is `None`, which the next message cannot be formed with
      have hcont : ¬ v.Continues app := fun h => h.2.1 hconn
      have hover : ¬ v.HandedOver app := fun h => h.2.1 hconn
      refine ⟨app₂, ⟨hframed₂, by rw [if_pos hact], by rw [if_neg hover]; exact htunnel₁,
        fun h => absurd h hcont⟩, ?_⟩
      rw [if_neg hcont]
      refine ⟨.typeError, ?_⟩
      simp only [handover, EStateM.run_bind, EStateM.run_get, hactive, concatText, hclose,
        hactivate, getIpsecConnectionFromSsid, hconf, hconn, EStateM.run_pure]
      rfl
    | some connName' =>
      have hne : v.tunnel app ≠ none := by simp [hconn]
      cases hchdir : v.start.chdir with
      | false =>
        have hcont : ¬ v.Continues app := fun h => by simp [h.2.2] at hchdir
        have hover : ¬ v.HandedOver app := fun h => hcont h.continues
        refine ⟨app₂, ⟨hframed₂, by rw [if_pos hact], by rw [if_neg hover]; exact htunnel₁,
          fun h => absurd h hcont⟩, ?_⟩
        rw [if_neg hcont]
        refine ⟨.external, ?_⟩
        simp only [handover, EStateM.run_bind, EStateM.run_get, hactive, concatText, hclose,
          hactivate, getIpsecConnectionFromSsid, hconf, hconn, EStateM.run_pure,
          run_makeIPsecConnection_of_not_chdir hchdir]
      | true =>
        have hcont : v.Continues app := ⟨hact, hne, hchdir⟩
        obtain ⟨app₃, hmake, hframed₃, htunnel₃, hbssid₃⟩ :=
          run_makeIPsecConnection hchdir connName' app₂
        obtain ⟨app₄, hupdate, hframed₄, htunnel₄, hbssid₄, hcurrent₄⟩ :=
          run_updateConnectionInformation v.addresses v.ap.ssid app₃
        have hframed := (hframed₂.trans hframed₃).trans hframed₄
        refine ⟨{ app₄ with ui.statusLabel := .enforced }, ⟨hframed.trans ⟨rfl, rfl⟩, ?_, ?_,
          fun _ => hcurrent₄⟩, ?_⟩
        · rw [if_pos hact]
          exact hbssid₄.trans hbssid₃
        · have hover : v.HandedOver app ↔ v.start.Runs := ⟨fun h => h.2.2, fun h => ⟨hact, hne, h⟩⟩
          simp only [hover, hconn]
          rw [← htunnel₁]
          exact htunnel₄.trans htunnel₃
        · rw [if_pos hcont]
          simp only [handover, EStateM.run_bind, EStateM.run_get, hactive, concatText, hclose,
            hactivate, getIpsecConnectionFromSsid, hconf, hconn, EStateM.run_pure, hmake, hupdate,
            updateStatus, EStateM.run_modify]
  · have hcont : ¬ v.Continues app := fun h => hact h.1
    have hover : ¬ v.HandedOver app := fun h => hact h.1
    refine ⟨app₁, ⟨hframed₁, by rw [if_neg hact, hbssid₁], by rw [if_neg hover, htunnel₁],
      fun h => absurd h hcont⟩, ?_⟩
    rw [if_neg hcont]
    refine ⟨.external, ?_⟩
    simp only [handover, EStateM.run_bind, EStateM.run_get, hactive, concatText, hclose,
      EStateM.run_pure, run_activateConnection_of_not (hframed₁.activated.not.mpr hact)]

/-! ### The loop over the access points -/

/-- The access points a handover is tried for: up to the first that raises. -/
def reached (app : App) : List Visit → List Visit
  | [] => []
  | v :: rest => v :: if v.Continues app then reached app rest else []

lemma App.Framed.reached (h : app.Framed app') (visits : List Visit) :
    reached app' visits = reached app visits := by
  induction visits with
  | nil => rfl
  | cons v rest ih => simp only [SecuredApp.reached, h.continues, ih]

lemma after_handovers_of_none (visits : List Visit) (hactive : app.activeIpsecConnection = none) :
    after (forM visits handover) app = app := by
  cases visits with
  | nil => rfl
  | cons v rest =>
    rw [List.forM_cons]
    exact after_bind_of_error (run_handover_of_none hactive)

lemma after_handovers_cons {connName : String} (hactive : app.activeIpsecConnection = some connName)
    (v : Visit) (rest : List Visit) :
    ∃ app₁, v.Leaves connName app app₁ ∧
      after (forM (v :: rest) handover) app
        = if v.Continues app then after (forM rest handover) app₁ else app₁ := by
  obtain ⟨app₁, hleaves, hrun⟩ := run_handover hactive v
  refine ⟨app₁, hleaves, ?_⟩
  rw [List.forM_cons]
  split_ifs at hrun ⊢ with hcont
  · exact after_bind_of_ok hrun
  · obtain ⟨e, hrun⟩ := hrun
    exact after_bind_of_error hrun

/-- Where every access point is handed over and broadcasts one SSID, the client ends there. -/
lemma after_handovers_all {visits : List Visit} {connName ssid : String}
    (hactive : app.activeIpsecConnection = some connName) (hne : visits ≠ [])
    (h : ∀ v ∈ visits, v.HandedOver app ∧ v.ap.ssid = ssid) :
    (after (forM visits handover) app).activeIpsecConnection = app.config.get "Mobility" ssid ∧
    (after (forM visits handover) app).currentAP = some ssid := by
  induction visits generalizing app connName with
  | nil => exact absurd rfl hne
  | cons v rest ih =>
    obtain ⟨app₁, hleaves, hafter⟩ := after_handovers_cons hactive v rest
    have hframed := hleaves.framed
    obtain ⟨hover, hssid⟩ := h v List.mem_cons_self
    have htunnel : v.tunnel app = app.config.get "Mobility" ssid := by rw [Visit.tunnel, hssid]
    have htunnel₁ : app₁.activeIpsecConnection = app.config.get "Mobility" ssid := by
      rw [hleaves.tunnel, if_pos hover, htunnel]
    have hcurrent₁ : app₁.currentAP = some ssid := by
      rw [hleaves.currentAP hover.continues, hssid]
    rw [hafter, if_pos hover.continues]
    cases rest with
    | nil => exact ⟨htunnel₁, hcurrent₁⟩
    | cons w rest =>
      obtain ⟨connName', hconn'⟩ := Option.ne_none_iff_exists'.mp hover.2.1
      rw [← htunnel, hconn'] at htunnel₁
      rw [← hframed.config]
      refine ih htunnel₁ (List.cons_ne_nil w rest) fun w' hw' => ?_
      rw [hframed.handedOver]
      exact h w' (List.mem_cons_of_mem _ hw')

/-! ### From the PSC's order to the loop -/

/-- The access points with the BSSID, in the lists of the Wi-Fi devices. -/
def matching (devices : List Device) (bssid : String) : List Visit :=
  ((devices.filter fun dev => dev.deviceType = .wifi).flatMap (·.accessPoints)).filter
    fun v => v.ap.bssid = bssid

/-- The access points with the BSSID that NetworkManager can list. -/
def ReportEnv.visible (env : ReportEnv) (bssid : String) : List Visit :=
  (env.devices.map fun devices => matching devices bssid).getD []

/-- The access points with the BSSID that the client gets to see. -/
def ReportEnv.seen (env : ReportEnv) (app : App) (bssid : String) : List Visit :=
  if app.mobClient.nmc then env.visible bssid else []

lemma bssid_of_mem_visible {env : ReportEnv} (h : v ∈ env.visible bssid) : v.ap.bssid = bssid := by
  rw [ReportEnv.visible] at h
  cases hdevices : env.devices with
  | none => simp [hdevices] at h
  | some devices =>
    rw [hdevices, Option.map_some, Option.getD_some] at h
    simpa using (List.mem_filter.mp h).2

lemma forM_filter {α : Type} (p : α → Prop) [DecidablePred p] (f : α → Py App Unit) (l : List α) :
    (forM l fun a => if p a then f a else pure ()) = forM (l.filter fun a => p a) f := by
  induction l with
  | nil => rfl
  | cons a l ih =>
    rw [List.forM_cons, ih]
    by_cases hp : p a
    · rw [List.filter_cons_of_pos (by simpa using hp), List.forM_cons, if_pos hp]
    · rw [List.filter_cons_of_neg (by simpa using hp), if_neg hp, pure_bind]

lemma forM_flatMap {α β : Type} (g : α → List β) (f : β → Py App Unit) (l : List α) :
    (forM l fun a => forM (g a) f) = forM (l.flatMap g) f := by
  induction l with
  | nil => rfl
  | cons a l ih => rw [List.forM_cons, ih, List.flatMap_cons, List.forM_append]

/-- The two nested loops are one over the access points with the BSSID. -/
lemma forM_devices (devices : List Device) (bssid : String) :
    (forM devices fun dev => do
      if dev.deviceType = .wifi then
        forM dev.accessPoints fun v => do
          if v.ap.bssid = bssid then handover v) = forM (matching devices bssid) handover := by
  rw [forM_filter (fun dev : Device => dev.deviceType = .wifi), forM_flatMap, forM_filter, matching]

lemma after_handoverNeeded (env : ReportEnv) (bssid : String) (app : App) :
    after (handoverNeeded env bssid) app = after (forM (env.seen app bssid) handover) app := by
  rw [handoverNeeded, after_get_bind, ReportEnv.seen, ReportEnv.visible]
  cases hnmc : app.mobClient.nmc with
  | false => rfl
  | true =>
    cases hdevices : env.devices with
    | none => rfl
    | some devices =>
      simp only [not_true_eq_false, if_false, if_true, Option.map_some, Option.getD_some]
      rw [forM_devices]

/-- The response orders a handover to the BSSID. -/
def OrdersHandover (response : Json) (bssid : String) : Prop :=
  (∃ action, response.member? "action" = some action ∧ eqInt action 2 = true) ∧
    response.member? "bssid" = some (.str bssid)

lemma eqInt_unique {j : Json} {m n : Int} (hm : eqInt j m = true) (hn : eqInt j n = true) :
    m = n := by
  cases j with
  | int k => simp_all [eqInt]
  | double q =>
    simp only [eqInt, decide_eq_true_eq] at hm hn
    exact_mod_cast hm.symm.trans hn
  | bool b => simp_all [eqInt]
  | _ => cases hm

lemma after_reportCycle_of_order {env : ReportEnv} {response : Json} {bssid : String}
    (hpsc : env.psc (reportJson app) = some response) (horder : OrdersHandover response bssid) :
    after (reportCycle env) app = after (forM (env.seen app bssid) handover) app := by
  obtain ⟨⟨action, haction, h2⟩, hbssid⟩ := horder
  have h0 : eqInt action 0 = false := by
    by_contra h
    exact absurd (eqInt_unique h2 (by simpa using h)) (by decide)
  have h1 : eqInt action 1 = false := by
    by_contra h
    exact absurd (eqInt_unique h2 (by simpa using h)) (by decide)
  rw [reportCycle, after_get_bind, hpsc]
  simp only [Option.getD_some, getItem_of_member haction, getItem_of_member hbssid, pure_bind, h0,
    h1, h2, if_true, Bool.false_eq_true, if_false, jsonText]
  exact after_handoverNeeded env bssid app

/-- The report of a client that is ready: the cycle under the lock, then the timer. -/
lemma after_reportAPs (env : ReportEnv) (hready : app.ReadyToReport) :
    after (reportAPs env) app
      = after rearm { after (reportCycle env) { app with mobClient.lock := true } with
          mobClient.lock := false } := by
  rw [reportAPs, after_get_bind]
  simp only [if_pos hready, after_modify_bind]
  rw [after_bind_of_ok (run_tryCatch_pure _ _)]
  rfl

/-- Two states with the same tunnel and the same access point, for NetworkManager and for the
client. -/
structure App.SameTunnel (app app' : App) : Prop where
  activeIpsecConnection : app'.activeIpsecConnection = app.activeIpsecConnection
  activeBssid : app'.activeBssid = app.activeBssid
  currentAP : app'.currentAP = app.currentAP

lemma sameTunnel_rearm (app : App) : app.SameTunnel (after rearm app) := by
  rw [rearm, after_modify]
  split_ifs
  · exact ⟨rfl, rfl, rfl⟩
  · exact ⟨rfl, rfl, rfl⟩

/-- A report that is answered by an order ends where the loop over the access points does. -/
lemma after_reportAPs_of_order {env : ReportEnv} {response : Json} {bssid : String}
    (hready : app.ReadyToReport) (hpsc : env.psc (reportJson app) = some response)
    (horder : OrdersHandover response bssid) :
    ∃ app₁, app.Framed app₁ ∧ app.SameTunnel app₁ ∧
      (after (forM (env.seen app bssid) handover) app₁).SameTunnel (after (reportAPs env) app) := by
  set app₁ : App := { app with mobClient.lock := true } with happ₁
  have hcycle : after (reportCycle env) app₁ = after (forM (env.seen app bssid) handover) app₁ :=
    after_reportCycle_of_order hpsc horder
  refine ⟨app₁, ⟨rfl, rfl⟩, ⟨rfl, rfl, rfl⟩, ?_⟩
  rw [after_reportAPs env hready, hcycle]
  obtain ⟨htunnel, hbssid, hcurrent⟩ := sameTunnel_rearm
    { after (forM (env.seen app bssid) handover) app₁ with mobClient.lock := false }
  exact ⟨htunnel, hbssid, hcurrent⟩

end SecuredApp
