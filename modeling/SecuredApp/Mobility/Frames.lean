import SecuredApp.Mobility.Reports

/-!
# What the statements about the connection leave alone

The statements that follow the access point and change the tunnel write a few fields of the
application only. Every view of it that does not show these fields is the same after them.
-/

namespace SecuredApp

open SecuredApp.Core

variable {γ : Type} {v : App → γ}

/-- The view shows nothing of the connection: the access point, the signals, the tunnel, the status
label and the mobility client. -/
structure Unlinked (v : App → γ) : Prop where
  accessPoint : ∀ (app : App) (currentAP ip taskAP : Option String), v { app with
    currentAP := currentAP, ip := ip, attestationTask.currentAP := taskAP } = v app
  signals : ∀ (app : App) (signals : Signals), v { app with signals := signals } = v app
  tunnel : ∀ (app : App) (started : List String) (connName : String) (active : Option String),
    v { app with
      started := started
      ipsecNedConnectionName := connName
      activeIpsecConnection := active } = v app
  bssid : ∀ (app : App) (bssid : Option String), v { app with activeBssid := bssid } = v app
  statusLabel : ∀ (app : App) (status : Enforcement),
    v { app with ui.statusLabel := status } = v app
  mobClient : ∀ (app : App) (client : MobilityClient), v { app with mobClient := client } = v app

namespace Unlinked

variable (hv : Unlinked v)
include hv

lemma frames_updateConnectionInformation (attempts : List (Option String)) (apName : String) :
    Frames v (updateConnectionInformation attempts apName) := by
  refine .get_bind fun app => .ite (.bind (.modify fun app => ?_) fun _ => ?_) (.pure _)
  · exact hv.accessPoint app _ _ _
  · exact .modify fun app => hv.signals app _

lemma frames_getCurrentAP (devices : Option (List Device)) : Frames v (getCurrentAP devices) := by
  unfold getCurrentAP
  split
  · exact .pure _
  · split
    · exact .pure _
    · split
      · exact .pure _
      · exact hv.frames_updateConnectionInformation _ _

lemma frames_closeIPsecConnection (stop : Bool) : Frames v (closeIPsecConnection stop) := by
  refine .ite (.bind (.modify fun app => ?_) fun _ => .modify fun app => ?_) (.pure _)
  · exact hv.tunnel app _ _ _
  · exact hv.signals app _

lemma frames_makeIPsecConnection (env : StartEnv) (connName : String) :
    Frames v (makeIPsecConnection env connName) := by
  have hcall : Frames v (do
      if env.call ≠ none then
        modify fun app => { app with
          started := connName :: app.started
          ipsecNedConnectionName := connName
          activeIpsecConnection := some connName }
        callUpdatetIpsecConnectionInfo : Py App Unit) := by
    refine .ite (.bind (.modify fun app => ?_) fun _ => .modify fun app => ?_) (.pure _)
    · exact hv.tunnel app _ _ _
    · exact hv.signals app _
  exact .ite (.bind (.throw _) fun _ => hcall) hcall

lemma frames_activateConnection (w : Visit) : Frames v (activateConnection w) :=
  .get_bind fun _ => .ite (.modify fun app => hv.bssid app _) (.throw _)

lemma frames_updateStatus (status : Enforcement) : Frames v (updateStatus status) :=
  .modify fun app => hv.statusLabel app status

lemma frames_handover (w : Visit) : Frames v (handover w) := by
  refine .get_bind fun _ => .bind (frames_concatText _) fun _ => ?_
  refine .bind (hv.frames_closeIPsecConnection _) fun _ => ?_
  refine .bind (hv.frames_activateConnection w) fun _ => ?_
  refine .bind (.get_bind fun _ => .pure _) fun _ => .bind (frames_concatText _) fun _ => ?_
  refine .bind (hv.frames_makeIPsecConnection _ _) fun _ => ?_
  refine .bind (hv.frames_updateConnectionInformation _ _) fun _ => ?_
  exact hv.frames_updateStatus _

lemma frames_handoverNeeded (env : ReportEnv) (bssid : String) :
    Frames v (handoverNeeded env bssid) := by
  obtain ⟨psc, devices⟩ := env
  cases devices with
  | none => exact .get_bind fun _ => .ite (.bind (.throw _) fun _ => .throw _) (.throw _)
  | some devices =>
    have hloop : Frames v (forM devices fun dev => do
        if dev.deviceType = .wifi then
          forM dev.accessPoints fun w => do
            if w.ap.bssid = bssid then handover w : Py App Unit) := by
      refine .forM fun dev => .ite (.forM fun w => ?_) (.pure _)
      exact .ite (hv.frames_handover w) (.pure _)
    exact .get_bind fun _ => .ite (.bind (.throw _) fun _ => hloop) hloop

lemma frames_reportCycle (env : ReportEnv) : Frames v (reportCycle env) := by
  refine .get_bind fun _ => .bind (frames_getItem _ _) fun action => .ite (.pure _) (.ite ?_ ?_)
  · exact .bind (hv.frames_updateStatus _) fun _ => .modify fun app => hv.mobClient app _
  · refine .ite ?_ (.bind (frames_getItem _ _) fun _ => ?_)
    · refine .bind (frames_getItem _ _) fun _ => .bind (frames_jsonText _) fun _ => ?_
      exact hv.frames_handoverNeeded _ _
    · exact .bind (frames_jsonText _) fun _ => .pure _

lemma frames_reportAPs (env : ReportEnv) : Frames v (reportAPs env) := by
  have hrearm : Frames v rearm := by
    refine .modify fun app => ?_
    split_ifs
    · exact hv.mobClient app _
    · rfl
  refine .get_bind fun _ => .ite (.bind (.modify fun app => ?_) fun _ => ?_) hrearm
  · exact hv.mobClient app _
  · refine .bind (.tryCatch_pure (hv.frames_reportCycle env)) fun _ => ?_
    exact .bind (.modify fun app => hv.mobClient app _) fun _ => hrearm

lemma view_mobilityStarted (app : App) (env : MobilityEnv) :
    v (app.mobilityStarted env) = v app := by
  rw [App.mobilityStarted, hv.frames_getCurrentAP]
  exact hv.mobClient app _

/-- A view that does not show which threads run either is the one of the constructed attributes. -/
lemma view_init {config : RawConfigParser} {env : InitEnv} {app : App}
    (hthreads : ∀ (app : App) (running : Bool) (psaEventThread : Option Bool), v { app with
      attestationTask.running := running, psaEventThread := psaEventThread } = v app)
    (h : App.init config env = some app) :
    ∃ useMobility nedId connName,
      v app = v (.constructed config useMobility nedId connName env.activeBssid) := by
  have hframed : ∀ {x : Py App Unit}, Frames v x → Keeps (fun app => ∃ useMobility nedId connName,
      v app = v (.constructed config useMobility nedId connName env.activeBssid)) x := by
    rintro x hx app ⟨useMobility, nedId, connName, heq⟩
    exact ⟨useMobility, nedId, connName, (hx app).trans heq⟩
  refine App.holds_of_init ?_ (hframed (hv.frames_getCurrentAP _)) ?_ ?_ h
  · intro useMobility nedId connName
    exact ⟨useMobility, nedId, connName, rfl⟩
  · intro connName
    exact hframed (hv.frames_makeIPsecConnection _ _)
  · rintro app ⟨useMobility, nedId, connName, heq⟩
    exact ⟨useMobility, nedId, connName, (hthreads app _ _).trans heq⟩

end Unlinked

end SecuredApp
