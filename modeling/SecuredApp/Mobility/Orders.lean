import SecuredApp.Gui.Starts

/-!
# What comes of the PSC's orders

A step of the application that reports to the PSC and is answered by an order: when it ends with
the tunnel of the new access point, and when it leaves the client without one. What a run does
follows from its steps.
-/

namespace SecuredApp

open SecuredApp.Core

variable {app app' app₁ : App} {e : AppEvent} {env : ReportEnv} {bssid : String}

/-! ### The report of a step -/

/-- The client of NetworkManager is there once mobility is started. -/
lemma App.nmc_mobilityStarted (app : App) (env : MobilityEnv) :
    (app.mobilityStarted env).mobClient.nmc = true :=
  congrArg StartView.nmc (quiet_getCurrentAP env.devices _ _ rfl)

/-- A step that reports ends as the report does. -/
lemma App.step_of_reportCall {config : RawConfigParser} {pre : List AppEvent}
    (h : app.Reached config pre) (hstep : app.step e = some app')
    (hcall : e.reportCall? app = some (env, app₁)) :
    app.SameLink app₁ ∧ (app₁.ReadyToReport → app₁.mobClient.nmc = true) ∧
      (after (reportAPs env) app₁).SameTunnel app' := by
  cases App.step_sound hstep with
  | @report env =>
    obtain ⟨rfl, rfl⟩ := Prod.mk.inj (Option.some.inj hcall)
    exact ⟨⟨rfl, rfl⟩, fun hready => h.nmc_of_scan hready.1, rfl, rfl, rfl⟩
  | @startMobility env =>
    simp only [AppEvent.reportCall?] at hcall
    split_ifs at hcall with hchdir
    obtain ⟨rfl, rfl⟩ := Prod.mk.inj (Option.some.inj hcall)
    refine ⟨App.sameLink_mobilityStarted _ env, fun _ => App.nmc_mobilityStarted _ env, ?_⟩
    rw [after_pressedStartMobilityButton, if_pos hchdir]
    exact ⟨rfl, rfl, rfl⟩
  | @login reply user env =>
    simp only [AppEvent.reportCall?] at hcall
    split_ifs at hcall with hlogin
    obtain ⟨rfl, hmobility, hchdir⟩ := hlogin
    obtain ⟨rfl, rfl⟩ := Prod.mk.inj (Option.some.inj hcall)
    refine ⟨App.sameLink_mobilityStarted _ env, fun _ => App.nmc_mobilityStarted _ env, ?_⟩
    rw [after_handleLoginStatus_ok, if_pos hmobility, if_pos hchdir]
    exact ⟨rfl, rfl, rfl⟩
  | _ => cases hcall

/-! ### Orders -/

lemma App.SameTunnel.trans {app₁ app₂ app₃ : App} (h₁ : app₁.SameTunnel app₂)
    (h₂ : app₂.SameTunnel app₃) : app₁.SameTunnel app₃ where
  activeIpsecConnection := h₂.activeIpsecConnection.trans h₁.activeIpsecConnection
  activeBssid := h₂.activeBssid.trans h₁.activeBssid
  currentAP := h₂.currentAP.trans h₁.currentAP

/-- A step that is answered by an order ends where the loop over the access points does. -/
lemma App.step_ordered {config : RawConfigParser} {pre : List AppEvent}
    (h : app.Reached config pre) (hstep : app.step e = some app')
    (horder : e.Ordered app env app₁ bssid) :
    ∃ app₂, app₁.Framed app₂ ∧ app.SameLink app₂ ∧
      (after (forM (env.visible bssid) handover) app₂).SameTunnel app' := by
  obtain ⟨hcall, hready, response, hpsc, hresponse⟩ := horder
  obtain ⟨hlink, hnmc, hend⟩ := App.step_of_reportCall h hstep hcall
  obtain ⟨app₂, hframed, hsame, hloop⟩ := after_reportAPs_of_order hready hpsc hresponse
  rw [ReportEnv.seen, if_pos (hnmc hready)] at hloop
  refine ⟨app₂, hframed, ⟨?_, ?_⟩, hloop.trans hend⟩
  · exact hsame.activeIpsecConnection.trans hlink.1
  · exact hsame.activeBssid.trans hlink.2

/-! ### Handovers that meet no failure -/

/-- The step is answered by an order to a BSSID that is seen, under one SSID with a connection
configured, and every command of a handover there succeeds. -/
structure AppEvent.OrderedTo (app : App) (e : AppEvent) (env : ReportEnv) (app₁ : App)
    (ssid connName : String) : Prop where
  ordered : ∃ bssid, e.Ordered app env app₁ bssid ∧ env.visible bssid ≠ [] ∧
    ∀ v ∈ env.visible bssid, v.ap.ssid = ssid ∧ v.stop = true ∧ v.Activated app₁ ∧
      v.start = ⟨true, some 0⟩
  configured : app₁.config.get "Mobility" ssid = some connName

/-- Such a handover reaches its tunnel only from a tunnel. -/
lemma App.step_orderedTo {config : RawConfigParser} {pre : List AppEvent} {ssid connName : String}
    (h : app.Reached config pre) (hstep : app.step e = some app')
    (horder : e.OrderedTo app env app₁ ssid connName) :
    (app'.activeIpsecConnection = some connName ∧ app'.currentAP = some ssid) ↔
      app.activeIpsecConnection ≠ none := by
  obtain ⟨⟨bssid, hordered, hvisible, hvisits⟩, hconf⟩ := horder
  obtain ⟨app₂, hframed, hlink, htunnel, -, hcurrent⟩ := App.step_ordered h hstep hordered
  rw [htunnel, hcurrent, ← hlink.1]
  cases hactive : app₂.activeIpsecConnection with
  | none => simp [after_handovers_of_none _ hactive, hactive]
  | some connName' =>
    have hover : ∀ v ∈ env.visible bssid, v.HandedOver app₂ ∧ v.ap.ssid = ssid := by
      intro v hv
      obtain ⟨hssid, -, hact, hstart⟩ := hvisits v hv
      refine ⟨hframed.handedOver.mpr ⟨hact, ?_, ?_⟩, hssid⟩
      · rw [Visit.tunnel, hssid, hconf]
        exact Option.some_ne_none connName
      · rw [hstart]
        exact ⟨rfl, Option.some_ne_none 0⟩
    obtain ⟨hend, hap⟩ := after_handovers_all hactive hvisible hover
    rw [hframed.config, hconf] at hend
    simp [hend, hap]

/-- The step ends with the tunnel and the access point of the order. -/
def App.CompletesOrder (app : App) (e : AppEvent) : Prop :=
  ∀ app' env app₁ ssid connName, app.step e = some app' →
    e.OrderedTo app env app₁ ssid connName →
    app'.activeIpsecConnection = some connName ∧ app'.currentAP = some ssid

/-- The order meets a client with a tunnel. -/
def App.TunnelAtOrder (app : App) (e : AppEvent) : Prop :=
  ∀ app' env app₁ ssid connName, app.step e = some app' →
    e.OrderedTo app env app₁ ssid connName → app.activeIpsecConnection ≠ none

/-- In every run, the handovers that meet no failure end with the tunnel and the access point of
the order if and only if each of them starts from a tunnel. -/
theorem handovers_complete_iff (config : RawConfigParser) (init : InitEnv) (app₀ : App)
    (es : List AppEvent) (hinit : App.init config init = some app₀) :
    RunMeets App.step (fun _ app e => app.CompletesOrder e) app₀ es ↔
      RunMeets App.step (fun _ app e => app.TunnelAtOrder e) app₀ es := by
  refine runMeets_congr fun pre e app hpre => ?_
  have hreached := App.reached_of_run hinit hpre
  constructor
  · intro h app' env app₁ ssid connName hstep horder
    exact (App.step_orderedTo hreached hstep horder).mp (h app' env app₁ ssid connName hstep horder)
  · intro h app' env app₁ ssid connName hstep horder
    exact (App.step_orderedTo hreached hstep horder).mpr
      (h app' env app₁ ssid connName hstep horder)

/-- The PSC orders a handover from `secured1` to `secured3`. -/
def handoverEvents : List AppEvent :=
  scannedEvents ++ [.report (orderTo "00:03" [reachableAP ⟨"secured3", "00:03"⟩])]

theorem handovers_complete_secured3 :
    ∃ app app', App.init guiConf (startOn ⟨"secured1", "00:01"⟩) = some app ∧
      run App.step app handoverEvents = some app' ∧
      app'.activeIpsecConnection = some "mallorca_ned" ∧ app'.currentAP = some "secured3" ∧
      RunMeets App.step (fun _ app e => app.CompletesOrder e) app handoverEvents := by
  have hrun : ((App.init guiConf (startOn ⟨"secured1", "00:01"⟩)).bind fun app =>
      (run App.step app handoverEvents).map fun app' =>
        (app'.activeIpsecConnection, app'.currentAP,
          handoverEvents.inits.all fun pre =>
            ((run App.step app pre).map (·.activeIpsecConnection)) ≠ some none))
        = some (some "mallorca_ned", some "secured3", true) := by
    decide +kernel
  obtain ⟨app, app', hinit, hrun', heq⟩ := exists_run hrun
  obtain ⟨htunnel, hcurrent, hall⟩ : app'.activeIpsecConnection = some "mallorca_ned" ∧
      app'.currentAP = some "secured3" ∧ ∀ pre ∈ handoverEvents.inits,
        (run App.step app pre).map (·.activeIpsecConnection) ≠ some none := by
    simpa only [Prod.mk.injEq, List.all_eq_true, decide_eq_true_eq] using heq
  refine ⟨app, app', hinit, hrun', htunnel, hcurrent,
    (handovers_complete_iff guiConf _ app handoverEvents hinit).mpr ?_⟩
  intro pre e post app₁ hpre hrun₁ _ _ _ _ _ _ _ hnone
  refine hall pre ((List.mem_inits _ _).mpr ⟨e :: post, hpre.symm⟩) ?_
  rw [hrun₁, Option.map_some, hnone]

/-- The PSC orders a handover to an access point without a connection. -/
def strandedEvents : List AppEvent :=
  scannedEvents ++ [.report (orderTo "00:09" [reachableAP ⟨"cafe", "00:09"⟩])]

lemma ordered_report (hready : app.ReadyToReport) (bssid : String) (accessPoints : List Visit) :
    (AppEvent.report (orderTo bssid accessPoints)).Ordered app (orderTo bssid accessPoints)
      { app with mobClient.timers := app.mobClient.timers - 1 } bssid :=
  ⟨rfl, hready, _, rfl, ⟨.int 2, rfl, rfl⟩, rfl⟩

lemma visible_orderTo {bssid : String} {accessPoints : List Visit}
    (h : ∀ v ∈ accessPoints, v.ap.bssid = bssid) :
    (orderTo bssid accessPoints).visible bssid = accessPoints := by
  simpa [ReportEnv.visible, orderTo, matching, connectedDevice] using h

/-- After a handover that failed, the next one is not completed. -/
theorem handover_after_failure_fails :
    ∃ app, App.init guiConf (startOn ⟨"secured1", "00:01"⟩) = some app ∧
      ¬ RunMeets App.step (fun _ app e => app.CompletesOrder e) app
        (strandedEvents ++ [.report (orderTo "00:03" [reachableAP ⟨"secured3", "00:03"⟩])]) := by
  have hrun : ((App.init guiConf (startOn ⟨"secured1", "00:01"⟩)).bind fun app =>
      (run App.step app strandedEvents).map fun app' =>
        (decide app'.ReadyToReport, app'.activeIpsecConnection, app'.mobClient.timers))
        = some (true, none, 1) := by
    decide +kernel
  obtain ⟨app, app₁, hinit, hrun', heq⟩ := exists_run hrun
  obtain ⟨hready, htunnel, htimers⟩ : app₁.ReadyToReport ∧ app₁.activeIpsecConnection = none ∧
      app₁.mobClient.timers = 1 := by
    simpa only [Prod.mk.injEq, decide_eq_true_eq] using heq
  refine ⟨app, hinit, fun h => ?_⟩
  set env := orderTo "00:03" [reachableAP ⟨"secured3", "00:03"⟩] with henv
  have hreached := App.reached_of_run hinit hrun'
  have hstep : ∃ app', app₁.step (.report env) = some app' := by
    simp [App.step, htimers]
  obtain ⟨app', hstep⟩ := hstep
  have hvisible : env.visible "00:03" = [reachableAP ⟨"secured3", "00:03"⟩] :=
    visible_orderTo (by simp [reachableAP])
  have horder : (AppEvent.report env).OrderedTo app₁ env
      { app₁ with mobClient.timers := app₁.mobClient.timers - 1 } "secured3" "mallorca_ned" := by
    refine ⟨⟨"00:03", ordered_report hready _ _, ?_, ?_⟩, ?_⟩
    · rw [hvisible]
      exact List.cons_ne_nil _ _
    · intro v hv
      rw [hvisible, List.mem_singleton] at hv
      subst hv
      exact ⟨rfl, rfl, rfl, rfl⟩
    · have hconf : app₁.config = guiConf := hreached.config_eq
      simp only [hconf]
      decide +kernel
  have hcomplete := h strandedEvents (.report env) [] app₁ rfl hrun' app' env _ _ _ hstep horder
  exact (App.step_orderedTo hreached hstep horder).mp hcomplete htunnel

/-! ### Handovers that fail -/

end SecuredApp
