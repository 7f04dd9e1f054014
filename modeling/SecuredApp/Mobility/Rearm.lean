import SecuredApp.Core.Faults
import SecuredApp.Mobility.Basic

/-!
# The next report

`reportAPs` once more, statement by statement, where every statement up to the re-arming may raise:
a message, a call of NetworkManager or of the GUI, a request, or the parsing of its answer. The
`finally` of the outer `try` re-arms, and its `return` drops the exception that led there.
-/

namespace SecuredApp

open SecuredApp.Core

namespace Raising

/-! ### Tunnels and connection information -/

/-- A message. -/
def say : Py (Faulty App) Unit := stmt (pure ⟨⟩)

def closeIPsecConnection (stop : Bool) : Py (Faulty App) Unit := do
  let opened ← tryCatch (do
    say
    stmt (if stop then pure ⟨⟩ else throw .external)
    pure true) fun _ => do
      say
      pure false
  if opened then
    stmt (modify fun app => { app with activeIpsecConnection := none })
    stmt callUpdatetIpsecConnectionInfo

def makeIPsecConnection (env : StartEnv) (connName : String) : Py (Faulty App) Unit := do
  say
  stmt (if env.chdir then pure ⟨⟩ else throw .external)
  let called ← tryCatch (do
    say
    stmt (if env.call = none then throw .external
      else modify fun app => { app with started := connName :: app.started })
    stmt (modify fun app => { app with ipsecNedConnectionName := connName })
    say
    pure true) fun _ => do
      say
      pure false
  if called then
    stmt (modify fun app => { app with activeIpsecConnection := some connName })
    stmt callUpdatetIpsecConnectionInfo
    say

/-- What `getIP` raises it catches: it gives `-1` then, as it may in `tryAddresses`. -/
def updateConnectionInformation (attempts : List (Option String)) (apName : String) :
    Py (Faulty App) Unit := do
  let app ← stmt get
  if app.currentAP ≠ some apName then
    let addresses ← stmt (pure (tryAddresses app.ui.wifiIP 10 attempts))
    say
    stmt (setApIp apName (if addresses = "-1" then "" else addresses))
    stmt callUpdateConnectionInfoView

/-! ### The cycle -/

def handover (v : Visit) : Py (Faulty App) Unit := do
  let app ← stmt get
  let _ ← stmt (concatText app.activeIpsecConnection)
  closeIPsecConnection v.stop
  say
  stmt (activateConnection v)
  let connName ← stmt (getIpsecConnectionFromSsid v.ap.ssid)
  let connName ← stmt (concatText connName)
  makeIPsecConnection v.start connName
  updateConnectionInformation v.addresses v.ap.ssid
  stmt (updateStatus .enforced)
  say

def handoverNeeded (env : ReportEnv) (bssid : String) : Py (Faulty App) Unit := do
  let app ← stmt get
  stmt (if ¬ app.mobClient.nmc then throw .attributeError else pure ⟨⟩)
  let devices ← stmt (match env.devices with
    | none => throw .external
    | some devices => pure devices)
  forM devices fun dev => do
    let deviceType ← stmt (pure dev.deviceType)
    if deviceType = .wifi then
      forM dev.accessPoints fun v => do
        let apBssid ← stmt (pure v.ap.bssid)
        if apBssid = bssid then handover v

/-- The body of the inner `try`; the innermost one replaces a response that cannot be had. -/
def reportCycle (env : ReportEnv) : Py (Faulty App) Unit := do
  let app ← stmt get
  let report ← stmt (pure (reportJson app))
  say
  let response ← tryCatch (stmt (match env.psc report with
    | none => throw .external
    | some response => pure response)) fun _ => pure pscNotReachable
  say
  let action ← stmt (getItem response "action")
  if eqInt action 0 then say
  else if eqInt action 1 then
    stmt (updateStatus .migrating)
    say
    stmt (modify fun app => { app with mobClient.migrating := true })
  else if eqInt action 2 then
    let bssid ← stmt (getItem response "bssid")
    let bssid ← stmt (jsonText bssid)
    handoverNeeded env bssid
  else
    let error ← stmt (getItem response "error")
    let _ ← stmt (jsonText error)
    say

/-- What the outer `try` guards. -/
def report (env : ReportEnv) : Py (Faulty App) Unit := do
  say
  let app ← stmt get
  if app.ReadyToReport then
    stmt (modify fun app => { app with mobClient.lock := true })
    tryFinally (tryCatch (reportCycle env) fun _ => say)
      (stmt (modify fun app => { app with mobClient.lock := false }))

def reportAPs (env : ReportEnv) : Py (Faulty App) Unit := do
  tryCatch (report env) fun _ => pure ⟨⟩
  lift rearm

/-! ### What the statements leave alone -/

/-- The timers that will call `reportAPs`. -/
def timers (s : Faulty App) : ℕ := s.1.mobClient.timers

lemma frames_modify {f : App → App} (h : ∀ app, (f app).mobClient.timers = app.mobClient.timers) :
    Frames timers (stmt (modify f)) :=
  .stmt (v := fun app : App => app.mobClient.timers) (.modify h)

lemma frames_stmt {α : Type} {x : Py App α} (h : Frames (fun app => app.mobClient.timers) x) :
    Frames timers (stmt x) :=
  .stmt h

lemma frames_say : Frames timers say := frames_stmt (.pure _)

lemma frames_closeIPsecConnection (stop : Bool) : Frames timers (closeIPsecConnection stop) := by
  refine .bind (.tryCatch ?_ fun _ => ?_) fun opened => .ite ?_ (.pure _)
  · refine .bind frames_say fun _ => .bind (frames_stmt ?_) fun _ => .pure _
    exact .ite (.pure _) (.throw _)
  · exact .bind frames_say fun _ => .pure _
  · exact .bind (frames_modify fun _ => rfl) fun _ => frames_modify fun _ => rfl

lemma frames_makeIPsecConnection (env : StartEnv) (connName : String) :
    Frames timers (makeIPsecConnection env connName) := by
  refine .bind frames_say fun _ => .bind (frames_stmt (.ite (.pure _) (.throw _))) fun _ => ?_
  refine .bind (.tryCatch ?_ fun _ => ?_) fun called => .ite ?_ (.pure _)
  · refine .bind frames_say fun _ => .bind (frames_stmt (.ite (.throw _) (.modify fun _ => rfl)))
      fun _ => ?_
    refine .bind (frames_modify fun _ => rfl) fun _ => ?_
    exact .bind frames_say fun _ => .pure _
  · exact .bind frames_say fun _ => .pure _
  · refine .bind (frames_modify fun _ => rfl) fun _ => ?_
    exact .bind (frames_modify fun _ => rfl) fun _ => frames_say

lemma frames_updateConnectionInformation (attempts : List (Option String)) (apName : String) :
    Frames timers (updateConnectionInformation attempts apName) := by
  refine .bind (frames_stmt fun _ => rfl) fun app => .ite ?_ (.pure _)
  refine .bind (frames_stmt (.pure _)) fun addresses => .bind frames_say fun _ => ?_
  exact .bind (frames_modify fun _ => rfl) fun _ => frames_modify fun _ => rfl

lemma frames_activateConnection (v : Visit) : Frames timers (stmt (activateConnection v)) :=
  frames_stmt (.get_bind fun _ => .ite (.modify fun _ => rfl) (.throw _))

lemma frames_handover (v : Visit) : Frames timers (handover v) := by
  refine .bind (frames_stmt fun _ => rfl) fun app => .bind (frames_stmt (frames_concatText _))
    fun _ => ?_
  refine .bind (frames_closeIPsecConnection v.stop) fun _ => .bind frames_say fun _ => ?_
  refine .bind (frames_activateConnection v) fun _ => ?_
  refine .bind (frames_stmt (.get_bind fun _ => .pure _)) fun connName => ?_
  refine .bind (frames_stmt (frames_concatText _)) fun connName => ?_
  refine .bind (frames_makeIPsecConnection v.start connName) fun _ => ?_
  refine .bind (frames_updateConnectionInformation v.addresses v.ap.ssid) fun _ => ?_
  exact .bind (frames_modify fun _ => rfl) fun _ => frames_say

lemma frames_handoverNeeded (env : ReportEnv) (bssid : String) :
    Frames timers (handoverNeeded env bssid) := by
  refine .bind (frames_stmt fun _ => rfl) fun app => ?_
  refine .bind (frames_stmt (.ite (.throw _) (.pure _))) fun _ => .bind (frames_stmt ?_)
    fun devices => .forM fun dev => ?_
  · cases env.devices with
    | none => exact .throw _
    | some devices => exact .pure _
  · refine .bind (frames_stmt (.pure _)) fun deviceType => .ite (.forM fun v => ?_) (.pure _)
    exact .bind (frames_stmt (.pure _)) fun apBssid => .ite (frames_handover v) (.pure _)

lemma frames_reportCycle (env : ReportEnv) : Frames timers (reportCycle env) := by
  refine .bind (frames_stmt fun _ => rfl) fun app => .bind (frames_stmt (.pure _)) fun report => ?_
  refine .bind frames_say fun _ => .bind (.tryCatch (frames_stmt ?_) fun _ => .pure _)
    fun response => .bind frames_say fun _ => ?_
  · cases env.psc report with
    | none => exact .throw _
    | some response => exact .pure _
  refine .bind (frames_stmt (frames_getItem _ _)) fun action => ?_
  refine .ite frames_say (.ite ?_ (.ite ?_ ?_))
  · refine .bind (frames_modify fun _ => rfl) fun _ => .bind frames_say fun _ => ?_
    exact frames_modify fun _ => rfl
  · refine .bind (frames_stmt (frames_getItem _ _)) fun bssid => ?_
    refine .bind (frames_stmt (frames_jsonText _)) fun bssid => ?_
    exact frames_handoverNeeded env bssid
  · refine .bind (frames_stmt (frames_getItem _ _)) fun error => ?_
    exact .bind (frames_stmt (frames_jsonText _)) fun _ => frames_say

lemma frames_report (env : ReportEnv) : Frames timers (report env) := by
  refine .bind frames_say fun _ => .bind (frames_stmt fun _ => rfl) fun app => .ite ?_ (.pure _)
  refine .bind (frames_modify fun _ => rfl) fun _ => .withFinally ?_ (frames_modify fun _ => rfl)
  exact .tryCatch (frames_reportCycle env) fun _ => frames_say

/-- The exception that ends the guarded part is dropped, and the client re-arms. -/
lemma run_reportAPs (env : ReportEnv) (s : Faulty App) :
    EStateM.run (reportAPs env) s
      = .ok ⟨⟩ (after rearm (after (report env) s).1, (after (report env) s).2) := by
  rw [reportAPs, EStateM.run_bind, run_tryCatch_pure]
  rfl

/-- For every answer of the PSC, all devices and access points, every state, and whatever the
statements of the cycle raise, `reportAPs` returns, and has scheduled its next call once if it is
migrating or was not stopped at its end, and not at all otherwise. -/
theorem reportAPs_rearms (env : ReportEnv) (app : App) (faults : List (Option PyError)) :
    ∃ app' faults', EStateM.run (reportAPs env) (app, faults) = .ok ⟨⟩ (app', faults') ∧
      app'.mobClient.timers = app.mobClient.timers +
        if app'.mobClient.migrating = true ∨ app'.mobClient.stopMobility = false then 1 else 0 := by
  refine ⟨_, _, run_reportAPs env (app, faults), ?_⟩
  have htimers : (after (report env) (app, faults)).1.mobClient.timers = app.mobClient.timers :=
    frames_report env (app, faults)
  set app₁ := (after (report env) (app, faults)).1 with happ₁
  rw [rearm, after_modify]
  by_cases hgoes : app₁.mobClient.migrating = true ∨ ¬ app₁.mobClient.stopMobility = true
  · rw [if_pos hgoes, if_pos (hgoes.imp_right Bool.of_not_eq_true)]
    exact congrArg (· + 1) htimers
  · rw [if_neg hgoes, if_neg fun h => hgoes (h.imp_right fun hstop => by rw [hstop]; exact nofun)]
    exact htimers

/-! ### Where no statement raises -/

lemma plain_closeIPsecConnection (stop : Bool) :
    Plain (closeIPsecConnection stop) (SecuredApp.closeIPsecConnection stop) := by
  intro app
  cases stop <;> rfl

lemma plain_makeIPsecConnection (env : StartEnv) (connName : String) :
    Plain (makeIPsecConnection env connName) (SecuredApp.makeIPsecConnection env connName) := by
  intro app
  obtain ⟨chdir, call⟩ := env
  cases chdir with
  | false => rfl
  | true => cases call <;> rfl

lemma plain_updateConnectionInformation (attempts : List (Option String)) (apName : String) :
    Plain (updateConnectionInformation attempts apName)
      (SecuredApp.updateConnectionInformation attempts apName) := by
  refine .bind (.stmt get) fun app => .ite ?_ (.pure _)
  refine .pure_bind (.pure_bind ?_)
  exact .bind (.stmt _) fun _ => .stmt _

lemma plain_handover (v : Visit) : Plain (handover v) (SecuredApp.handover v) := by
  refine .bind (.stmt get) fun app => .bind (.stmt _) fun _ => ?_
  refine .bind (plain_closeIPsecConnection v.stop) fun _ => .pure_bind ?_
  refine .bind (.stmt _) fun _ => .bind (.stmt _) fun connName => .bind (.stmt _) fun connName => ?_
  refine .bind (plain_makeIPsecConnection v.start connName) fun _ => ?_
  refine .bind (plain_updateConnectionInformation v.addresses v.ap.ssid) fun _ => ?_
  exact .bind (.stmt _) fun _ => .stmt _

lemma plain_handoverNeeded (env : ReportEnv) (bssid : String) :
    Plain (handoverNeeded env bssid) (SecuredApp.handoverNeeded env bssid) := by
  obtain ⟨psc, devices⟩ := env
  have hvisits : ∀ devices : List Device, Plain (forM devices fun dev => do
      let deviceType ← stmt (pure dev.deviceType)
      if deviceType = .wifi then
        forM dev.accessPoints fun v => do
          let apBssid ← stmt (pure v.ap.bssid)
          if apBssid = bssid then handover v)
      (forM devices fun dev => do
        if dev.deviceType = .wifi then
          forM dev.accessPoints fun v => do
            if v.ap.bssid = bssid then SecuredApp.handover v) := by
    intro devices
    refine .forM fun dev => .pure_bind (.ite (.forM fun v => .pure_bind ?_) (.pure _))
    exact .ite (plain_handover v) (.pure _)
  refine .bind (.stmt get) fun app => ?_
  by_cases hnmc : ¬ app.mobClient.nmc = true
  · rw [if_pos hnmc, if_pos hnmc]
    exact fun _ => rfl
  · rw [if_neg hnmc, if_neg hnmc]
    refine .pure_bind ?_
    cases devices with
    | none => exact fun _ => rfl
    | some devices => exact .pure_bind (hvisits devices)

lemma plain_reportCycle (env : ReportEnv) :
    Plain (reportCycle env) (SecuredApp.reportCycle env) := by
  refine .bind (.stmt get) fun app => .pure_bind (.pure_bind ?_)
  refine .value_bind (a := (env.psc (reportJson app)).getD pscNotReachable) ?_ (.pure_bind ?_)
  · intro s
    cases env.psc (reportJson app) <;> rfl
  refine .bind (.stmt _) fun action => .ite (.stmt _) (.ite ?_ (.ite ?_ ?_))
  · exact .bind (.stmt _) fun _ => .pure_bind (.stmt _)
  · refine .bind (.stmt _) fun bssid => .bind (.stmt _) fun bssid => ?_
    exact plain_handoverNeeded env bssid
  · exact .bind (.stmt _) fun error => .bind (.stmt _) fun _ => .stmt _

/-- Where no statement raises, `reportAPs` is what it is in the running application. -/
theorem plain_reportAPs (env : ReportEnv) :
    Plain (reportAPs env) (SecuredApp.reportAPs env) := by
  have hcycle : Plain (tryCatch (reportCycle env) fun _ => say)
      (tryCatch (SecuredApp.reportCycle env) fun _ => pure ⟨⟩) :=
    .tryCatch (plain_reportCycle env) fun _ => .stmt (pure _)
  have hreport : Plain (report env) (do
      let app ← get
      if app.ReadyToReport then
        modify fun app => { app with mobClient.lock := true }
        tryFinally (tryCatch (SecuredApp.reportCycle env) fun _ => pure ⟨⟩)
          (modify fun app => { app with mobClient.lock := false })) := by
    refine .pure_bind (.bind (.stmt get) fun app => .ite ?_ (.pure _))
    exact .bind (.stmt _) fun _ => .withFinally hcycle (.stmt _)
  refine Plain.congr (.bind (.tryCatch hreport fun _ => .pure _) fun _ => .lift rearm) fun app => ?_
  rw [EStateM.run_bind, run_tryCatch_pure, after_get_bind, SecuredApp.reportAPs, EStateM.run_bind,
    EStateM.run_get]
  by_cases hready : app.ReadyToReport
  · simp only [if_pos hready, after_modify_bind, after_tryFinally_modify, after_tryCatch_pure,
      EStateM.run_bind, EStateM.run_modify, run_tryCatch_pure]
  · simp only [if_neg hready, after_pure]

end Raising

end SecuredApp
