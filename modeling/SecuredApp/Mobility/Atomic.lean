import Mathlib.Data.Prod.Lex
import SecuredApp.Mobility.Steps

/-!
# Calls that nothing comes between

Beside the GUI a call of `reportAPs` takes its statements one by one; in the running application
it is one step. Where nothing comes between the statements of a call the two agree, so the steps of
the running application that touch the mobility client are runs of the program beside the GUI.
-/

namespace SecuredApp

open SecuredApp.Core

variable {s s' : Mobile} {call call' : ReportCall} {env : ReportEnv} {i : ℕ}

/-! ### What is left of a call -/

/-- The branch of `reportAPs` for an order. -/
def obey (env : ReportEnv) : Order → Py App Unit
  | .none => pure ()
  | .migrate => do
    updateStatus .migrating
    modify fun app => { app with mobClient.migrating := true }
  | .handover bssid => handoverNeeded env bssid

/-- A handover from `updateConnectionInformation` on, and the handovers after it. -/
def Visit.informed (v : Visit) (rest : List Visit) : Py App Unit := do
  updateConnectionInformation v.addresses v.ap.ssid
  updateStatus .enforced
  forM rest handover

/-- A handover from the activation of the connection on, and the handovers after it. -/
def Visit.activated (v : Visit) (rest : List Visit) : Py App Unit := do
  activateConnection v
  let connName ← getIpsecConnectionFromSsid v.ap.ssid
  let connName ← concatText connName
  makeIPsecConnection v.start connName
  v.informed rest

/-- The end of a call, from the release of the lock on. -/
def App.released (app : App) : App := after rearm { app with mobClient.lock := false }

/-- What the rest of a call makes of the program, if nothing comes between its statements. -/
def ReportCall.rest (env : ReportEnv) (app : App) : ReportCall → App
  | .readWifilist => after (reportAPs env) app
  | .testStop =>
    if app.mobClient.stopMobility = false ∧ app.mobClient.lock = false then
      (after (reportCycle env) { app with mobClient.lock := true }).released
    else after rearm app
  | .testLock =>
    if app.mobClient.lock then after rearm app
    else (after (reportCycle env) { app with mobClient.lock := true }).released
  | .acquire => (after (reportCycle env) { app with mobClient.lock := true }).released
  | .readAllow => (after (reportCycle env) app).released
  | .build allow =>
    (after (obey env (orderOf
      ((env.psc (reportJson { app with allowHandover := allow })).getD pscNotReachable)))
      app).released
  | .put report =>
    (after (obey env (orderOf ((env.psc report).getD pscNotReachable))) app).released
  | .setMigrating => (after (obey env .migrate) app).released
  | .visit visits => (after (forM visits handover) app).released
  | .close v rest => (after (do closeIPsecConnection v.stop; v.activated rest) app).released
  | .closed v rest =>
    (after (v.activated rest) { app with
      activeIpsecConnection := none
      signals.updatetIpsecConnectionInfo := app.signals.updatetIpsecConnectionInfo + 1 }).released
  | .activate v rest => (after (v.activated rest) app).released
  | .lookUp v rest =>
    (after (do
      let connName ← concatText (app.config.get "Mobility" v.ap.ssid)
      makeIPsecConnection v.start connName
      v.informed rest) app).released
  | .enter connName v rest =>
    (after (do makeIPsecConnection v.start connName; v.informed rest) app).released
  | .running connName v rest =>
    (after (v.informed rest) { app with
      started := connName :: app.started
      ipsecNedConnectionName := connName
      activeIpsecConnection := some connName
      signals.updatetIpsecConnectionInfo := app.signals.updatetIpsecConnectionInfo + 1 }).released
  | .ran connName v rest =>
    (after (v.informed rest) { app with
      activeIpsecConnection := some connName
      signals.updatetIpsecConnectionInfo := app.signals.updatetIpsecConnectionInfo + 1 }).released
  | .inform v rest => (after (v.informed rest) app).released
  | .setEnforced rest =>
    (after (forM rest handover) { app with ui.statusLabel := .enforced }).released
  | .release => app.released
  | .testMigrating => after rearm app
  | .testStopAgain =>
    if app.mobClient.stopMobility then app
    else { app with mobClient.timers := app.mobClient.timers + 1 }
  | .arm => { app with mobClient.timers := app.mobClient.timers + 1 }
  | .done => app

/-! ### The report -/

/-- The cycle of a report obeys the order it is answered with. -/
lemma after_reportCycle (env : ReportEnv) (app : App) :
    after (reportCycle env) app
      = after (obey env (orderOf ((env.psc (reportJson app)).getD pscNotReachable))) app := by
  rw [reportCycle, after_get_bind]
  generalize (env.psc (reportJson app)).getD pscNotReachable = response
  dsimp only
  cases haction : response.member? "action" with
  | none =>
    obtain ⟨e, hraises⟩ := getItem_of_not_member (σ := App) haction
    rw [orderOf, haction, hraises]
    exact after_bind_of_error rfl
  | some action =>
    rw [orderOf, haction, getItem_of_member haction, pure_bind]
    dsimp only
    split_ifs with h0 h1 h2
    · rfl
    · rfl
    · -- the order of a handover names its BSSID
      cases hbssid : response.member? "bssid" with
      | none =>
        obtain ⟨e, hraises⟩ := getItem_of_not_member (σ := App) hbssid
        rw [hraises]
        exact after_bind_of_error rfl
      | some bssid =>
        rw [getItem_of_member hbssid, pure_bind]
        cases bssid with
        | str bssid => rfl
        | null | bool | int | double | arr | obj => exact after_bind_of_error rfl
    · -- another answer shows its error
      have hframes : Frames id (do let _ ← jsonText (← getItem response "error") : Py App Unit) :=
        .bind (frames_getItem _ _) fun j => .bind (frames_jsonText j) fun _ => .pure _
      exact hframes app

lemma ReportEnv.seen_eq (env : ReportEnv) (app : App) (bssid : String) :
    env.seen app bssid = (env.visits app bssid).getD [] := by
  rw [ReportEnv.seen, ReportEnv.visits, ReportEnv.visible]
  split_ifs
  · rfl
  · rfl

/-- The statement after an answer does what is left of the call. -/
lemma ReportEnv.rest_branch (env : ReportEnv) (app : App) (report : Json) :
    (env.branch app report).rest env app = (ReportCall.put report).rest env app := by
  rw [ReportEnv.branch, ReportCall.rest]
  cases orderOf ((env.psc report).getD pscNotReachable) with
  | none => rfl
  | migrate => rfl
  | handover bssid =>
    dsimp only
    rw [obey, after_handoverNeeded, env.seen_eq]
    cases env.visits app bssid with
    | none => rfl
    | some visits => rfl

/-! ### Steps of a call -/

/-- The handovers from the activation of the first connection on. -/
lemma after_handovers_of_some {v : Visit} {rest : List Visit} {connName : String} {app : App}
    (hactive : app.activeIpsecConnection = some connName) :
    after (forM (v :: rest) handover) app
      = after (do closeIPsecConnection v.stop; v.activated rest) app := by
  rw [List.forM_cons, handover, bind_assoc, after_get_bind, hactive]
  simp only [concatText, pure_bind, bind_assoc]
  rfl

/-- Without anything to report, or while another call reports, only the timer is armed. -/
lemma after_reportAPs_of_not_ready {app : App} (hready : ¬ app.ReadyToReport) :
    after (reportAPs env) app = after rearm app := by
  rw [reportAPs, after_get_bind, if_neg hready]

/-- A step of a call leaves the rest of what the call does. -/
lemma Mobile.rest_reportStep (h : s.reportStep call = some (s', call')) :
    call'.rest env s'.app = call.rest env s.app := by
  cases call with
  | readWifilist =>
    obtain ⟨rfl, rfl⟩ := Prod.mk.inj (Option.some.inj h)
    split_ifs with hnil
    · exact (after_reportAPs_of_not_ready fun hready => hready.1 hnil).symm
    · simp only [ReportCall.rest]
      split_ifs with hguard
      · exact (after_reportAPs env ⟨hnil, hguard⟩).symm
      · exact (after_reportAPs_of_not_ready fun hready => hguard hready.2).symm
  | testStop =>
    obtain ⟨rfl, rfl⟩ := Prod.mk.inj (Option.some.inj h)
    split_ifs with hstop
    · simp [ReportCall.rest, hstop]
    · rw [Bool.not_eq_true] at hstop
      cases hlock : s.app.mobClient.lock with
      | false => simp [ReportCall.rest, hstop, hlock]
      | true => simp [ReportCall.rest, hlock]
  | testLock =>
    obtain ⟨rfl, rfl⟩ := Prod.mk.inj (Option.some.inj h)
    split_ifs with hlock
    · exact (if_pos hlock).symm
    · exact (if_neg hlock).symm
  | testMigrating =>
    obtain ⟨rfl, rfl⟩ := Prod.mk.inj (Option.some.inj h)
    by_cases hmigrating : s.app.mobClient.migrating = true
    · rw [if_pos hmigrating, ReportCall.rest, ReportCall.rest, rearm, after_modify,
        if_pos (.inl hmigrating)]
    · rw [if_neg hmigrating, ReportCall.rest, ReportCall.rest, rearm, after_modify]
      by_cases hstop : s.app.mobClient.stopMobility = true
      · rw [if_pos hstop, if_neg (not_or_intro hmigrating (not_not_intro hstop))]
      · rw [if_neg hstop, if_pos (.inr hstop)]
  | testStopAgain =>
    obtain ⟨rfl, rfl⟩ := Prod.mk.inj (Option.some.inj h)
    split_ifs with hstop
    · exact (if_pos hstop).symm
    · exact (if_neg hstop).symm
  | acquire =>
    simp only [Mobile.reportStep] at h
    split_ifs at h
    obtain ⟨rfl, rfl⟩ := Prod.mk.inj (Option.some.inj h)
    rfl
  | readAllow =>
    obtain ⟨rfl, rfl⟩ := Prod.mk.inj (Option.some.inj h)
    rw [ReportCall.rest, ReportCall.rest, after_reportCycle]
  | put | done => cases h
  | visit visits =>
    cases visits with
    | nil =>
      obtain ⟨rfl, rfl⟩ := Prod.mk.inj (Option.some.inj h)
      rfl
    | cons v rest =>
      simp only [Mobile.reportStep] at h
      split at h
      · rename_i hactive
        obtain ⟨rfl, rfl⟩ := Prod.mk.inj (Option.some.inj h)
        rw [ReportCall.rest, ReportCall.rest, after_handovers_of_none _ hactive]
      · rename_i connName hactive
        obtain ⟨rfl, rfl⟩ := Prod.mk.inj (Option.some.inj h)
        rw [ReportCall.rest, ReportCall.rest, after_handovers_of_some hactive]
  | close v rest =>
    simp only [Mobile.reportStep] at h
    split_ifs at h with hstop
    · obtain ⟨rfl, rfl⟩ := Prod.mk.inj (Option.some.inj h)
      rw [ReportCall.rest, ReportCall.rest, closeIPsecConnection, if_pos hstop]
      rfl
    · obtain ⟨rfl, rfl⟩ := Prod.mk.inj (Option.some.inj h)
      rw [ReportCall.rest, ReportCall.rest, closeIPsecConnection, if_neg hstop]
      rfl
  | activate v rest =>
    simp only [Mobile.reportStep] at h
    by_cases hactivated : v.Activated s.app
    · have hrun := run_activateConnection hactivated
      rw [hrun] at h
      obtain ⟨rfl, rfl⟩ := Prod.mk.inj (Option.some.inj h)
      rw [ReportCall.rest, ReportCall.rest, Visit.activated, after_bind_of_ok hrun]
      rfl
    · have hrun := run_activateConnection_of_not hactivated
      rw [hrun] at h
      obtain ⟨rfl, rfl⟩ := Prod.mk.inj (Option.some.inj h)
      rw [ReportCall.rest, ReportCall.rest, Visit.activated, after_bind_of_error hrun]
  | lookUp v rest =>
    simp only [Mobile.reportStep] at h
    split at h
    · rename_i hconn
      obtain ⟨rfl, rfl⟩ := Prod.mk.inj (Option.some.inj h)
      rw [ReportCall.rest, ReportCall.rest, hconn]
      rfl
    · rename_i hconn
      obtain ⟨rfl, rfl⟩ := Prod.mk.inj (Option.some.inj h)
      rw [ReportCall.rest, ReportCall.rest, hconn]
      rfl
  | enter connName v rest =>
    simp only [Mobile.reportStep] at h
    split_ifs at h with hchdir hcall
    · obtain ⟨rfl, rfl⟩ := Prod.mk.inj (Option.some.inj h)
      rw [ReportCall.rest, ReportCall.rest, makeIPsecConnection, if_neg (not_not_intro hchdir),
        if_neg (not_not_intro hcall)]
      rfl
    · obtain ⟨rfl, rfl⟩ := Prod.mk.inj (Option.some.inj h)
      rw [ReportCall.rest, ReportCall.rest, makeIPsecConnection, if_neg (not_not_intro hchdir),
        if_pos hcall]
      rfl
    · obtain ⟨rfl, rfl⟩ := Prod.mk.inj (Option.some.inj h)
      rw [Bool.not_eq_true] at hchdir
      rw [ReportCall.rest, ReportCall.rest,
        after_bind_of_error (run_makeIPsecConnection_of_not_chdir hchdir connName s.app)]
  | inform v rest =>
    obtain ⟨rfl, rfl⟩ := Prod.mk.inj (Option.some.inj h)
    obtain ⟨app', hrun, -⟩ := run_updateConnectionInformation v.addresses v.ap.ssid s.app
    rw [ReportCall.rest, ReportCall.rest, Visit.informed, after_bind_of_ok hrun,
      after_of_ok hrun]
    rfl
  | build | setMigrating | closed | running | ran | setEnforced | release | arm =>
    obtain ⟨rfl, rfl⟩ := Prod.mk.inj (Option.some.inj h)
    rfl

/-! ### The call ends -/

/-- How much of a call is left: whether its report is answered, and the statements after that. -/
def ReportCall.rank : ReportCall → ℕ ×ₗ ℕ
  | .readWifilist => toLex (1, 6)
  | .testStop => toLex (1, 5)
  | .testLock => toLex (1, 4)
  | .acquire => toLex (1, 3)
  | .readAllow => toLex (1, 2)
  | .build _ => toLex (1, 1)
  | .put _ => toLex (1, 0)
  | .setMigrating => toLex (0, 5)
  | .visit visits => toLex (0, 10 * visits.length + 5)
  | .close _ rest => toLex (0, 10 * rest.length + 14)
  | .closed _ rest => toLex (0, 10 * rest.length + 13)
  | .activate _ rest => toLex (0, 10 * rest.length + 12)
  | .lookUp _ rest => toLex (0, 10 * rest.length + 11)
  | .enter _ _ rest => toLex (0, 10 * rest.length + 10)
  | .running _ _ rest => toLex (0, 10 * rest.length + 9)
  | .ran _ _ rest => toLex (0, 10 * rest.length + 8)
  | .inform _ rest => toLex (0, 10 * rest.length + 7)
  | .setEnforced rest => toLex (0, 10 * rest.length + 6)
  | .release => toLex (0, 4)
  | .testMigrating => toLex (0, 3)
  | .testStopAgain => toLex (0, 2)
  | .arm => toLex (0, 1)
  | .done => toLex (0, 0)

/-- Every step of a call leaves less of it, whatever comes between its steps. -/
lemma Mobile.ReportStep.rank_lt (h : s.ReportStep call s' call') : call'.rank < call.rank := by
  cases h with
  | @begin v rest =>
    refine Prod.Lex.toLex_lt_toLex.mpr (.inr ⟨rfl, ?_⟩)
    show 10 * rest.length + 14 < 10 * (rest.length + 1) + 5
    omega
  | _ => simp [ReportCall.rank, Prod.Lex.toLex_lt_toLex]

lemma ReportEnv.branch_answered (env : ReportEnv) (app : App) (report report' : Json) :
    (env.branch app report).rank < (ReportCall.put report').rank ∧
      env.branch app report ≠ .acquire := by
  obtain hbranch | hbranch | ⟨bssid, visits, hbranch, -⟩ := env.branch_cases app report
  all_goals
    rw [hbranch]
    exact ⟨Prod.Lex.toLex_lt_toLex.mpr (.inl Nat.zero_lt_one), nofun⟩

/-- A call does not wait, but for the lock. -/
lemma Mobile.exists_reportStep (hdone : call ≠ .done) (hput : ∀ report, call ≠ .put report)
    (hlock : call = .acquire → s.app.mobClient.lock = false) :
    ∃ s' call', s.reportStep call = some (s', call') := by
  cases call with
  | done => exact absurd rfl hdone
  | put report => exact absurd rfl (hput report)
  | acquire => exact ⟨_, _, by rw [Mobile.reportStep, hlock rfl]; rfl⟩
  | visit visits =>
    cases visits with
    | nil => exact ⟨_, _, rfl⟩
    | cons v rest =>
      rw [Mobile.reportStep]
      split
      · exact ⟨_, _, rfl⟩
      · exact ⟨_, _, rfl⟩
  | close v rest =>
    rw [Mobile.reportStep]
    split_ifs
    · exact ⟨_, _, rfl⟩
    · exact ⟨_, _, rfl⟩
  | activate v rest | lookUp v rest =>
    rw [Mobile.reportStep]
    split
    · exact ⟨_, _, rfl⟩
    · exact ⟨_, _, rfl⟩
  | enter connName v rest =>
    rw [Mobile.reportStep]
    split_ifs
    · exact ⟨_, _, rfl⟩
    · exact ⟨_, _, rfl⟩
    · exact ⟨_, _, rfl⟩
  | _ => exact ⟨_, _, rfl⟩

/-! ### Runs of one call -/

/-- The event is a step of the call `i`, whose report is answered by `env`. -/
def MobileEvent.OfCall (i : ℕ) (env : ReportEnv) (e : MobileEvent) : Prop :=
  e = .report i ∨ e = .answer i env

lemma Mobile.ReportStep.gui (h : s.ReportStep call s' call') : s'.gui = s.gui := by
  cases h <;> rfl

/-- A step of a call goes on with the call and with nothing else, and keeps what is left of it. -/
lemma Mobile.step_ofCall {e : MobileEvent} (he : e.OfCall i env)
    (hcall : s.reports[i]? = some call) (h : s.step e = some s') :
    ∃ call', s'.reports = s.reports.set i call' ∧ s'.gui = s.gui ∧
      call'.rest env s'.app = call.rest env s.app := by
  obtain rfl | rfl := he
  · simp only [Mobile.step, hcall] at h
    obtain ⟨⟨s₁, call'⟩, hstep, rfl⟩ := Option.map_eq_some_iff.mp h
    have hrest : call'.rest env s₁.app = call.rest env s.app := Mobile.rest_reportStep hstep
    exact ⟨call', rfl, (Mobile.reportStep_sound hstep).gui, hrest⟩
  · simp only [Mobile.step, hcall] at h
    split at h
    · rename_i report hput
      obtain rfl := Option.some.inj hput
      obtain rfl := Option.some.inj h
      exact ⟨env.branch s.app report, rfl, rfl, env.rest_branch s.app report⟩
    · cases h

/-- What nothing comes between leaves what the call makes of the program. -/
theorem Mobile.run_ofCall {es : List MobileEvent} (hes : ∀ e ∈ es, e.OfCall i env)
    (hcall : s.reports[i]? = some call) (h : run Mobile.step s es = some s') :
    ∃ call', s'.reports = s.reports.set i call' ∧ s'.gui = s.gui ∧
      call'.rest env s'.app = call.rest env s.app := by
  induction es generalizing s call with
  | nil =>
    obtain rfl := Option.some.inj h
    obtain ⟨hi, rfl⟩ := List.getElem?_eq_some_iff.mp hcall
    exact ⟨s.reports[i], (List.set_getElem_self hi).symm, rfl, rfl⟩
  | cons e es ih =>
    obtain ⟨s₁, hstep, hrun⟩ := Option.bind_eq_some_iff.mp h
    obtain ⟨call₁, hreports, hgui, hrest⟩ :=
      Mobile.step_ofCall (hes e List.mem_cons_self) hcall hstep
    have hcall₁ : s₁.reports[i]? = some call₁ := by
      rw [hreports, List.getElem?_set_self (List.getElem?_eq_some_iff.mp hcall).1]
    obtain ⟨call', hreports', hgui', hrest'⟩ :=
      ih (fun e he => hes e (List.mem_cons_of_mem _ he)) hcall₁ hrun
    refine ⟨call', ?_, hgui'.trans hgui, hrest'.trans hrest⟩
    rw [hreports', hreports, List.set_set]

/-- The call finds the lock free where it is about to take it. -/
def Mobile.CanTake (s : Mobile) (call : ReportCall) : Prop :=
  call = .acquire → s.app.mobClient.lock = false

lemma Mobile.ReportStep.canTake (h : s.ReportStep call s' call') : s'.CanTake call' := by
  cases h with
  | notLocked hlock => exact fun _ => hlock
  | _ => exact nofun

/-- A call that has not ended and does not wait for the lock takes a step. -/
lemma Mobile.exists_step_ofCall (env : ReportEnv) (hcall : s.reports[i]? = some call)
    (hdone : call ≠ .done) (htake : s.CanTake call) :
    ∃ e s' call', e.OfCall i env ∧ s.step e = some s' ∧ s'.reports[i]? = some call' ∧
      call'.rank < call.rank ∧ s'.CanTake call' := by
  have hset : ∀ call', (s.reports.set i call')[i]? = some call' := fun call' =>
    List.getElem?_set_self (List.getElem?_eq_some_iff.mp hcall).1
  by_cases hput : ∃ report, call = .put report
  · obtain ⟨report, rfl⟩ := hput
    obtain ⟨hrank, hacquire⟩ := env.branch_answered s.app report report
    refine ⟨.answer i env, { s with reports := s.reports.set i (env.branch s.app report) }, _,
      .inr rfl, ?_, hset _, hrank, fun h => absurd h hacquire⟩
    simp only [Mobile.step, hcall]
  · obtain ⟨s₁, call', hstep⟩ :=
      Mobile.exists_reportStep hdone (fun report h => hput ⟨report, h⟩) htake
    have hsound := Mobile.reportStep_sound hstep
    refine ⟨.report i, { s₁ with reports := s.reports.set i call' }, call', .inl rfl, ?_,
      hset call', hsound.rank_lt, hsound.canTake⟩
    simp only [Mobile.step, hcall, hstep, Option.map_some]

/-- A call that nothing comes between ends, having done what was left of it. -/
theorem Mobile.exists_run_ofCall (env : ReportEnv) (hcall : s.reports[i]? = some call)
    (htake : s.CanTake call) :
    ∃ es s', (∀ e ∈ es, e.OfCall i env) ∧ run Mobile.step s es = some s' ∧
      s'.reports[i]? = some .done := by
  induction hrank : call.rank using WellFoundedLT.induction generalizing s call with
  | ind rank ih =>
    by_cases hdone : call = .done
    · exact ⟨[], s, fun e he => absurd he List.not_mem_nil, rfl, hdone ▸ hcall⟩
    · obtain ⟨e, s₁, call₁, he, hstep, hcall₁, hlt, htake₁⟩ :=
        Mobile.exists_step_ofCall env hcall hdone htake
      obtain ⟨es, s', hes, hrun, hend⟩ := ih call₁.rank (hrank ▸ hlt) hcall₁ htake₁ rfl
      refine ⟨e :: es, s', List.forall_mem_cons.mpr ⟨he, hes⟩, ?_, hend⟩
      rw [run_cons, hstep, Option.bind_some, hrun]

/-- A call of `reportAPs` that nothing comes between is the step it is in the running
application. -/
theorem Mobile.exists_run_reportAPs (env : ReportEnv)
    (hcall : s.reports[i]? = some .readWifilist) :
    ∃ es s', run Mobile.step s es = some s' ∧ s'.reports = s.reports.set i .done ∧
      s'.gui = s.gui ∧ s'.app = after (reportAPs env) s.app := by
  obtain ⟨es, s', hes, hrun, hend⟩ := Mobile.exists_run_ofCall env hcall nofun
  obtain ⟨call', hreports, hgui, hrest⟩ := Mobile.run_ofCall hes hcall hrun
  rw [hreports, List.getElem?_set_self (List.getElem?_eq_some_iff.mp hcall).1,
    Option.some.injEq] at hend
  subst hend
  exact ⟨es, s', hrun, hreports, hgui, hrest⟩

/-! ### Steps of the running application -/

/-- The end of a start, with a first call of `getIWlistSignals` that sees nothing. -/
lemma Mobile.run_start_ends {login : Bool} (hgui : s.gui = .report i login)
    (hcall : s.reports[i]? = some .done) :
    run Mobile.step s [.gui, .scanFails s.scans.length, .gui] = some { s with
      scans := s.scans ++ [.done]
      app.status := if login then some true else s.app.status
      gui := .idle } := by
  simp [Mobile.step, Mobile.guiStep, hgui, hcall]

/-- A start whose first report nothing comes between. -/
lemma Mobile.exists_run_start {login : Bool} (env : ReportEnv) (hgui : s.gui = .report i login)
    (hcall : s.reports[i]? = some .readWifilist) :
    ∃ es s', run Mobile.step s es = some s' ∧ s'.gui = .idle ∧
      s'.app = { after (reportAPs env) s.app with
        status := if login then some true else (after (reportAPs env) s.app).status } := by
  obtain ⟨es, s₁, hrun, hreports, hgui₁, happ⟩ := Mobile.exists_run_reportAPs env hcall
  have hdone : s₁.reports[i]? = some .done := by
    rw [hreports, List.getElem?_set_self (List.getElem?_eq_some_iff.mp hcall).1]
  have hend := Mobile.run_start_ends (hgui₁.trans hgui) hdone
  have hall : run Mobile.step s (es ++ [.gui, .scanFails s₁.scans.length, .gui])
      = run Mobile.step s₁ [.gui, .scanFails s₁.scans.length, .gui] := by
    rw [run_append, hrun, Option.bind_some]
  refine ⟨_, _, hall.trans hend, rfl, ?_⟩
  rw [happ]

/-- The step of the running application is one the program beside the GUI has too. -/
def AppEvent.ofMobility : AppEvent → Bool
  | .connectionInfo | .ipsecConnectionInfo | .login _ _ _ | .logout _ | .startMobility _
  | .stopMobility | .startHandover | .stopHandover | .report _ => true
  | _ => false

/-- An event that starts mobility, with a first report that nothing comes between. -/
lemma Mobile.exists_run_of_start {e : MobileEvent} {app : App} {env : MobilityEnv} {login : Bool}
    (hidle : s.gui = .idle) (h : s.step e = some (Mobile.start { s with app := app } env login)) :
    ∃ es s', run Mobile.step s es = some s' ∧ s'.gui = .idle ∧ s'.app =
      if env.chdir then { after (reportAPs env.report) (app.mobilityStarted env) with
        status := if login then some true
          else (after (reportAPs env.report) (app.mobilityStarted env)).status }
      else app := by
  rw [Mobile.start] at h
  by_cases hchdir : env.chdir = true
  · rw [if_pos hchdir] at h ⊢
    obtain ⟨es, s', hrun, hgui, happ⟩ := Mobile.exists_run_start (s := { s with
      app := app.mobilityStarted env
      reports := s.reports ++ [.readWifilist]
      gui := .report s.reports.length login
      starts := s.starts + 1 }) env.report rfl List.getElem?_concat_length
    refine ⟨e :: es, s', ?_, hgui, happ⟩
    rw [run_cons, h, Option.bind_some, hrun]
  · rw [if_neg hchdir] at h ⊢
    refine ⟨[e], { s with app := app }, ?_, hidle, rfl⟩
    rw [run_cons, h, Option.bind_some, run_nil]

/-- An event that the GUI handles at once. -/
lemma Mobile.exists_run_of_handle {e : MobileEvent} {app : App} (hidle : s.gui = .idle)
    (h : s.step e = some { s with app := app }) :
    ∃ es s', run Mobile.step s es = some s' ∧ s'.gui = .idle ∧ s'.app = app :=
  ⟨[e], { s with app := app }, by rw [run_cons, h, Option.bind_some, run_nil], hidle, rfl⟩

/-- A step of the running application that touches the mobility client is a run of the program
beside the GUI. -/
theorem Mobile.exists_run_of_step {e : AppEvent} {app' : App} (he : e.ofMobility = true)
    (hidle : s.gui = .idle) (h : s.app.step e = some app') :
    ∃ es s', run Mobile.step s es = some s' ∧ s'.gui = .idle ∧ s'.app = app' := by
  cases App.step_sound h with
  | pollBegin | poll | attestation | scan | close => cases he
  | stopMobility hquit =>
    refine Mobile.exists_run_of_handle (e := .stopMobility) hidle ?_
    simp only [Mobile.step, hidle, Mobile.handle]
  | startHandover hquit =>
    refine Mobile.exists_run_of_handle (e := .startHandover) hidle ?_
    simp only [Mobile.step, hidle, Mobile.handle]
  | stopHandover hquit =>
    refine Mobile.exists_run_of_handle (e := .stopHandover) hidle ?_
    simp only [Mobile.step, hidle, Mobile.handle]
  | @logout reply hquit =>
    refine Mobile.exists_run_of_handle (e := .logout reply) hidle ?_
    simp only [Mobile.step, hidle, Mobile.handle]
  | connectionInfo hquit hsignal =>
    refine Mobile.exists_run_of_handle (e := .connectionInfo) hidle ?_
    simp only [Mobile.step, hidle, Mobile.handle, if_neg hsignal.ne']
  | ipsecConnectionInfo hquit hsignal =>
    refine Mobile.exists_run_of_handle (e := .ipsecConnectionInfo) hidle ?_
    simp only [Mobile.step, hidle, Mobile.handle, if_neg hsignal.ne']
  | @startMobility env hquit =>
    have hstep : s.step (.startMobility env)
        = some (Mobile.start { s with app.useMobility := true } env false) := by
      simp only [Mobile.step, hidle, Mobile.handle]
    rw [after_pressedStartMobilityButton]
    exact Mobile.exists_run_of_start hidle hstep
  | @login reply user env hquit =>
    by_cases hreply : reply = some 200
    · subst hreply
      rw [after_handleLoginStatus_ok]
      by_cases hmobility : s.app.useMobility
      · have hstep : s.step (.login user env)
            = some (Mobile.start { s with app := s.app.loggedIn user } env true) := by
          simp only [Mobile.step, hidle, Mobile.handle, if_pos hmobility]
        rw [if_pos hmobility]
        exact Mobile.exists_run_of_start hidle hstep
      · rw [if_neg hmobility]
        refine Mobile.exists_run_of_handle (e := .login user env) hidle ?_
        simp only [Mobile.step, hidle, Mobile.handle, if_neg hmobility]
    · cases reply with
      | none => exact ⟨[], s, rfl, hidle, rfl⟩
      | some statusCode =>
        have hcode : statusCode ≠ 200 := fun h => hreply (congrArg some h)
        refine Mobile.exists_run_of_handle (e := .loginRefused) hidle ?_
        simp only [Mobile.step, hidle, Mobile.handle, handleLoginStatus, if_neg hcode,
          setUserLoggedIn, after_modify_bind, after_modify]
  | @report env htimers =>
    obtain ⟨es, s', hrun, -, hgui, happ⟩ := Mobile.exists_run_reportAPs (s := { s with
      app.mobClient.timers := s.app.mobClient.timers - 1
      reports := s.reports ++ [.readWifilist] }) env List.getElem?_concat_length
    refine ⟨.fireReport :: es, s', ?_, hgui.trans hidle, happ⟩
    rw [run_cons, Mobile.step, if_neg htimers.ne', Option.bind_some, hrun]

/-- What the running application can become by such steps, the program beside the GUI can. -/
theorem Mobile.exists_run_of_run {app app' : App} {es : List AppEvent}
    (hes : ∀ e ∈ es, e.ofMobility = true) (h : run App.step app es = some app') :
    ∃ es' s', run Mobile.step (.init app) es' = some s' ∧ s'.gui = .idle ∧ s'.app = app' := by
  refine run_simulates (R := fun (app : App) (s : Mobile) => s.gui = .idle ∧ s.app = app) ?_
    ⟨rfl, rfl⟩ hes h
  rintro app s e app₁ ⟨hidle, rfl⟩ he hstep
  exact Mobile.exists_run_of_step he hidle hstep

end SecuredApp
