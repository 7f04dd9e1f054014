import SecuredApp.Mobility.Chains

/-!
# The user's choices and the handovers

When a call of `reportAPs` reads what the user has chosen: `stop_mobility` before it takes the lock,
`allowHandover` when it makes the report. The handover that the PSC may order then is begun without
looking at either again.
-/

namespace SecuredApp

open SecuredApp.Core

variable {s₀ s s' : Mobile} {es : List MobileEvent} {i : ℕ} {bssid : String}

/-! ### What a call has read -/

/-- The call `i` found that mobility was not stopped. -/
def FoundRunning (s₀ : Mobile) (i : ℕ) (es : List MobileEvent) : Prop :=
  RunHas Mobile.step (fun _ s e => e = .report i ∧ s.reports[i]? = some .testStop ∧
    s.app.mobClient.stopMobility = false) s₀ es

/-- After that, `allowHandover` was `allow` when the call `i` read it. -/
def ReadAllow (s₀ : Mobile) (i : ℕ) (allow : Bool) (es : List MobileEvent) : Prop :=
  RunHas Mobile.step (fun pre s e => e = .report i ∧ s.reports[i]? = some .readAllow ∧
    s.app.allowHandover = allow ∧ FoundRunning s₀ i pre) s₀ es

/-- The report says whether a handover is allowed. -/
def SaysAllow (report : Json) (allow : Bool) : Prop :=
  report.member? "allowHandover" = some (.str (if allow then "yes" else "no"))

/-- After that, the PSC answered the report of the call `i`, which says what the call had read, with
an order of a handover to the BSSID. -/
def AnsweredByOrder (s₀ : Mobile) (i : ℕ) (bssid : String) (es : List MobileEvent) : Prop :=
  RunHas Mobile.step (fun pre s e => ∃ env report allow response, e = .answer i env ∧
    s.reports[i]? = some (.put report) ∧ SaysAllow report allow ∧ ReadAllow s₀ i allow pre ∧
    env.psc report = some response ∧ OrdersHandover response bssid) s₀ es

/-- What has happened in the run before the call `i` got to where it is. -/
def ReportCall.Explained (s₀ : Mobile) (es : List MobileEvent) (i : ℕ) : ReportCall → Prop
  | .testLock | .acquire | .readAllow => FoundRunning s₀ i es
  | .build allow => ReadAllow s₀ i allow es
  | .put report => ∃ allow, SaysAllow report allow ∧ ReadAllow s₀ i allow es
  | .visit visits => ∀ v ∈ visits, AnsweredByOrder s₀ i v.ap.bssid es
  | .close _ rest | .closed _ rest | .activate _ rest | .lookUp _ rest | .enter _ _ rest
  | .running _ _ rest | .ran _ _ rest | .inform _ rest | .setEnforced rest =>
    ∀ v ∈ rest, AnsweredByOrder s₀ i v.ap.bssid es
  | _ => True

lemma ReportCall.Explained.concat {call : ReportCall} (h : call.Explained s₀ es i)
    (e : MobileEvent) : call.Explained s₀ (es ++ [e]) i := by
  cases call with
  | testLock | acquire | readAllow | build => exact RunHas.concat h e
  | put report =>
    obtain ⟨allow, hsays, hread⟩ := h
    exact ⟨allow, hsays, hread.concat e⟩
  | visit | close | closed | activate | lookUp | enter | running | ran | inform | setEnforced =>
    exact fun v hv => (h v hv).concat e
  | _ => trivial

lemma saysAllow_reportJson (app : App) : SaysAllow (reportJson app) app.allowHandover := by
  rfl

/-- An answer whose branch is the one of a handover orders it. -/
lemma ordersHandover_of_orderOf {response : Json} (h : orderOf response = .handover bssid) :
    OrdersHandover response bssid := by
  rw [orderOf] at h
  split at h
  · cases h
  · rename_i action haction
    split_ifs at h with h0 h1 h2
    split at h
    · rename_i bssid' hbssid
      cases h
      exact ⟨⟨action, haction, h2⟩, hbssid⟩
    · cases h

lemma answer_of_orderOf {env : ReportEnv} {report : Json}
    (h : orderOf ((env.psc report).getD pscNotReachable) = .handover bssid) :
    ∃ response, env.psc report = some response ∧ OrdersHandover response bssid := by
  cases hpsc : env.psc report with
  | none =>
    rw [hpsc] at h
    cases h
  | some response =>
    rw [hpsc] at h
    exact ⟨response, rfl, ordersHandover_of_orderOf h⟩

lemma bssid_of_mem_visits {env : ReportEnv} {app : App} {visits : List Visit} {v : Visit}
    (h : env.visits app bssid = some visits) (hv : v ∈ visits) : v.ap.bssid = bssid := by
  rw [ReportEnv.visits] at h
  split_ifs at h
  have hvisible : v ∈ env.visible bssid := by
    rw [ReportEnv.visible, h]
    exact hv
  exact bssid_of_mem_visible hvisible

/-- A step of the call leaves it explained. -/
lemma Mobile.ReportStep.explained {call call' : ReportCall} (h : s.ReportStep call s' call')
    (hrun : run Mobile.step s₀ es = some s) (hcall : s.reports[i]? = some call)
    (hexplained : call.Explained s₀ es i) : call'.Explained s₀ (es ++ [.report i]) i := by
  have hlater := hexplained.concat (.report i)
  cases h with
  | notStopped hstop => exact runHas_of_last hrun ⟨rfl, hcall, hstop⟩
  | readAllow => exact runHas_of_last hrun ⟨rfl, hcall, rfl, hexplained⟩
  | build => exact ⟨_, saysAllow_reportJson _, hlater⟩
  | begin => exact fun v hv => hlater v (List.mem_cons_of_mem _ hv)
  | notLocked | acquire | close | closeFails | closed | activate | lookUp | enter | startFails
  | running | ran | inform | setEnforced => exact hlater
  | _ => trivial

/-- In every run, every call is explained. -/
lemma explained_of_run (hinitial : s₀.reports = []) (hrun : run Mobile.step s₀ es = some s) :
    Each (ReportCall.Explained s₀ es) s.reports := by
  refine run_induction (P := fun es s => Each (ReportCall.Explained s₀ es) s.reports) ?_ ?_ hrun
  · rw [hinitial]
    exact .nil
  · intro pre s₁ e s₂ hpre ih hstep
    have hlater : Each (ReportCall.Explained s₀ (pre ++ [e])) s₁.reports :=
      ih.mono fun i call h => h.concat e
    cases Mobile.step_sound hstep with
    | report hcall hreport => exact hlater.set (hreport.explained hpre hcall (ih _ _ hcall))
    | @answer i env report hcall =>
      refine hlater.set ?_
      rcases env.branch_cases s₁.app report with h | h | ⟨bssid, visits, h, horder, hvisits⟩
      · rw [h]
        trivial
      · rw [h]
        trivial
      · rw [h]
        intro v hv
        obtain ⟨allow, hsays, hread⟩ := ih _ _ hcall
        obtain ⟨response, hpsc, horders⟩ := answer_of_orderOf horder
        rw [bssid_of_mem_visits hvisits hv]
        exact runHas_of_last hpre
          ⟨env, report, allow, response, rfl, hcall, hsays, hread, hpsc, horders⟩
    | fireReport => exact hlater.concat trivial
    | gui hgui hgstep => cases hgstep <;> exact hlater
    | handled hcalls hidle hhandling =>
      cases hhandling.handled with
      | start => exact hlater.concat trivial
      | slot | test | close => exact hlater
    | fireScan | publish | scanned | scanFails | scanTests | scanArms | stopEnds => exact hlater

/-! ### Where a handover begins -/

/-- The access point to which the step begins a handover of the call `i`: the next statements of the
call close the tunnel and activate the access point. -/
def Mobile.begun (s : Mobile) (e : MobileEvent) (i : ℕ) : Option Visit :=
  match s.reports[i]?, (s.step e).bind fun s' => s'.reports[i]? with
  | some (.visit (v :: _)), some (.close _ _) => some v
  | _, _ => none

/-- A handover begins only in a call that had found mobility running, had then put into its report
what `allowHandover` was, and was answered with an order to the BSSID. -/
theorem handovers_begin_as_ordered (app : App) (es : List MobileEvent) (s : Mobile)
    (e : MobileEvent) (i : ℕ) (v : Visit) (hrun : run Mobile.step (.init app) es = some s)
    (hbegun : s.begun e i = some v) : AnsweredByOrder (.init app) i v.ap.bssid es := by
  have hexplained := explained_of_run rfl hrun
  rw [Mobile.begun] at hbegun
  split at hbegun
  · rename_i hcall _
    obtain rfl := Option.some.inj hbegun
    exact hexplained i _ hcall _ List.mem_cons_self
  · cases hbegun

/-- The PSC answers the report with an order. -/
def orderedRun : List MobileEvent :=
  reportingRun ++ [.answer 1 (orderTo "00:03" [reachableAP ⟨"secured3", "00:03"⟩])]

theorem handovers_begin_as_ordered_secured3 :
    ∃ app s v, App.init guiConf (startOn ⟨"secured1", "00:01"⟩) = some app ∧
      run Mobile.step (.init app) orderedRun = some s ∧ s.begun (.report 1) 1 = some v ∧
      AnsweredByOrder (.init app) 1 v.ap.bssid orderedRun := by
  have hmap : ((App.init guiConf (startOn ⟨"secured1", "00:01"⟩)).bind fun app =>
      (run Mobile.step (.init app) orderedRun).bind fun s =>
        (s.begun (.report 1) 1).map (·.ap.bssid)) = some "00:03" := by
    decide +kernel
  obtain ⟨app, hinit, hmap⟩ := Option.bind_eq_some_iff.mp hmap
  obtain ⟨s, hrun, hmap⟩ := Option.bind_eq_some_iff.mp hmap
  obtain ⟨v, hbegun, -⟩ := Option.map_eq_some_iff.mp hmap
  exact ⟨app, s, v, hinit, hrun, hbegun,
    handovers_begin_as_ordered app orderedRun s (.report 1) 1 v hrun hbegun⟩

/-- The user stops handover before the report is made, and mobility before it is answered. -/
def stoppedRun : List MobileEvent :=
  [.stopHandover] ++ reportingRun ++
    [.stopMobility, .answer 1 (orderTo "00:03" [reachableAP ⟨"secured3", "00:03"⟩])]

/-- The handover begins while handover is switched off and mobility is stopped. -/
theorem handover_begun_when_stopped :
    ∃ app s v, App.init guiConf (startOn ⟨"secured1", "00:01"⟩) = some app ∧
      run Mobile.step (.init app) stoppedRun = some s ∧ s.begun (.report 1) 1 = some v ∧
      s.app.allowHandover = false ∧ s.app.mobClient.stopMobility = true := by
  have hmap : ((App.init guiConf (startOn ⟨"secured1", "00:01"⟩)).bind fun app =>
      (run Mobile.step (.init app) stoppedRun).bind fun s =>
        (s.begun (.report 1) 1).map fun _ =>
          (s.app.allowHandover, s.app.mobClient.stopMobility)) = some (false, true) := by
    decide +kernel
  obtain ⟨app, hinit, hmap⟩ := Option.bind_eq_some_iff.mp hmap
  obtain ⟨s, hrun, hmap⟩ := Option.bind_eq_some_iff.mp hmap
  obtain ⟨v, hbegun, heq⟩ := Option.map_eq_some_iff.mp hmap
  obtain ⟨hallow, hstop⟩ := Prod.mk.inj heq
  exact ⟨app, s, v, hinit, hrun, hbegun, hallow, hstop⟩

end SecuredApp
