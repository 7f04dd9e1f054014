import SecuredApp.Gui.Starts
import SecuredApp.Mobility.Steps

/-!
# The chains of timers

A call of `reportAPs` or of `getIWlistSignals` arms the timer of the next one, and so keeps a chain
of calls alive: starting mobility begins one of each, and stopping sets a flag that the calls test.
-/

namespace SecuredApp

open SecuredApp.Core

variable {s s' : Mobile} {es : List MobileEvent}

/-! ### Counting chains -/

def ReportCall.inProgress : ReportCall → Bool
  | .done => false
  | _ => true

def ScanCall.inProgress : ScanCall → Bool
  | .done => false
  | _ => true

/-- The calls of `getIWlistSignals` that a `start` in progress is still to make. -/
def GuiCall.pendingScans : GuiCall → ℕ
  | .report _ _ => 1
  | _ => 0

/-- The timers that will call `reportAPs`, and the calls in progress that may arm one. -/
def Mobile.reportChains (s : Mobile) : ℕ :=
  s.app.mobClient.timers + s.reports.countP ReportCall.inProgress

/-- The same of `getIWlistSignals`. -/
def Mobile.scanChains (s : Mobile) : ℕ :=
  s.scanTimers + s.scans.countP ScanCall.inProgress + s.gui.pendingScans

/-- The chains of `reportAPs` that go on by themselves: the flags let its calls arm a timer. -/
def Mobile.liveReports (s : Mobile) : ℕ :=
  if s.app.mobClient.migrating ∨ ¬ s.app.mobClient.stopMobility then s.reportChains else 0

/-- The chains of `getIWlistSignals` that go on by themselves. -/
def Mobile.liveScans (s : Mobile) : ℕ := if s.app.mobClient.stopMobility then 0 else s.scanChains

/-- The event calls `start` or `stop_m` of the mobility client. -/
def Mobile.Operates (s : Mobile) (e : MobileEvent) : Prop := s.Starts e ∨ s.Stops e

/-- While the flag is not set a call of `reportAPs` ends only when it arms a timer. -/
lemma Mobile.ReportStep.reportChains {i : ℕ} {call call' : ReportCall}
    (h : s.ReportStep call s' call') (hcall : s.reports[i]? = some call)
    (hstop : s'.app.mobClient.stopMobility = false) :
    Mobile.reportChains { s' with reports := s.reports.set i call' } = s.reportChains := by
  cases h with
  | arm =>
    have hcount := countP_set_add ReportCall.inProgress .done hcall
    simp only [Mobile.reportChains, ReportCall.inProgress, if_true, Bool.false_eq_true,
      if_false] at *
    omega
  | stoppedAgain hstop' =>
    rw [hstop] at hstop'
    cases hstop'
  | _ => exact congrArg (s.app.mobClient.timers + ·) (countP_set_of_eq _ hcall rfl)

/-- While the flag is not set, the chains of `reportAPs` become more with a `start` only. -/
lemma Mobile.Step.reportChains {e : MobileEvent} (h : s.Step e s')
    (hstop : s'.app.mobClient.stopMobility = false) :
    s'.reportChains + s.starts = s.reportChains + s'.starts := by
  cases h with
  | fireReport htimers =>
    simp only [Mobile.reportChains, List.countP_append, List.countP_singleton,
      ReportCall.inProgress, if_true]
    omega
  | report hcall hstep =>
    rw [hstep.reportChains hcall hstop]
    cases hstep <;> rfl
  | answer hcall =>
    refine congrArg (s.app.mobClient.timers + · + s.starts) (countP_set_of_eq _ hcall ?_)
    rcases ReportEnv.branch_cases _ s.app _ with h | h | ⟨bssid, visits, h, -⟩ <;> rw [h] <;> rfl
  | gui hgui hstep => cases hstep <;> rfl
  | handled hcalls hidle hhandling =>
    have htimers := hhandling.keeps.timers
    cases hhandling.handled with
    | slot | test | close => exact congrArg (· + _ + _) htimers
    | start =>
      simp only [Mobile.reportChains, List.countP_append, List.countP_singleton,
        ReportCall.inProgress, if_true]
      simp only at htimers
      omega
  | fireScan | publish | scanned | scanFails | scanTests | scanArms | stopEnds => rfl

/-- So do the ones of `getIWlistSignals`, if no call of it fails. -/
lemma Mobile.Step.scanChains {e : MobileEvent} (h : s.Step e s')
    (hstop : s'.app.mobClient.stopMobility = false) (hfails : ∀ j, e ≠ .scanFails j) :
    s'.scanChains + s.starts = s.scanChains + s'.starts := by
  cases h with
  | fireScan htimers =>
    simp only [Mobile.scanChains, List.countP_append, List.countP_singleton, ScanCall.inProgress,
      if_true]
    omega
  | report hcall hstep => cases hstep <;> rfl
  | scanned hcall =>
    exact congrArg (_ + · + _ + _) (countP_set_of_eq _ hcall rfl)
  | scanFails hcall => exact absurd rfl (hfails _)
  | scanTests hcall =>
    rw [if_neg (by simpa using hstop)]
    exact congrArg (_ + · + _ + _) (countP_set_of_eq _ hcall rfl)
  | scanArms hcall =>
    have hcount := countP_set_add ScanCall.inProgress .done hcall
    simp only [Mobile.scanChains, ScanCall.inProgress, if_true, Bool.false_eq_true, if_false] at *
    omega
  | gui hgui hstep =>
    cases hstep with
    | reported =>
      simp only [Mobile.scanChains, List.countP_append, List.countP_singleton,
        ScanCall.inProgress, if_true, GuiCall.pendingScans, hgui]
      omega
    | _ => simp only [Mobile.scanChains, GuiCall.pendingScans, hgui]
  | handled hcalls hidle hhandling =>
    cases hhandling.handled with
    | slot => rfl
    | test | close | start =>
      simp only [Mobile.scanChains, GuiCall.pendingScans, hidle]
      try omega
  | fireReport | answer | publish | stopEnds => rfl

/-! ### One chain of each -/

/-- While the flag is not set there is a chain of each for every `start`. -/
lemma chains_eq_starts {app : App} (hfresh : app.Fresh)
    (hrun : run Mobile.step (.init app) es = some s) (hfails : ∀ j, .scanFails j ∉ es)
    (hstop : s.app.mobClient.stopMobility = false) :
    s.reportChains = s.starts ∧ s.scanChains = s.starts := by
  suffices h : (∀ j, .scanFails j ∉ es) → s.app.mobClient.stopMobility = false →
      s.reportChains = s.starts ∧ s.scanChains = s.starts from h hfails hstop
  refine run_induction (P := fun es s => (∀ j, .scanFails j ∉ es) →
    s.app.mobClient.stopMobility = false →
      s.reportChains = s.starts ∧ s.scanChains = s.starts) ?_ ?_ hrun
  · intro _ _
    refine ⟨?_, rfl⟩
    rw [Mobile.reportChains, Mobile.init, hfresh.timers]
    rfl
  · intro pre s₁ e s₂ hpre ih hstep hfails hstop₂
    have h := Mobile.step_sound hstep
    -- nothing clears the flag, so it was not set before
    have hstop₁ : s₁.app.mobClient.stopMobility = false := by
      by_contra hset
      rw [Bool.not_eq_false] at hset
      rw [(Mobile.stop_step_iff h).mpr (.inl hset)] at hstop₂
      cases hstop₂
    obtain ⟨hreports, hscans⟩ :=
      ih (fun j hj => hfails j (List.mem_append_left _ hj)) hstop₁
    have hreports' := h.reportChains hstop₂
    have hscans' := h.scanChains hstop₂ fun j he =>
      hfails j (he ▸ List.mem_append_right _ (List.mem_singleton_self e))
    constructor <;> omega

/-- A run with no start and no stop counts no start and leaves the flag. -/
lemma starts_eq_of_runMeets {s₀ : Mobile} (hrun : run Mobile.step s₀ es = some s)
    (hquiet : RunMeets Mobile.step (fun _ s e => ¬ s.Operates e) s₀ es) :
    s.starts = s₀.starts ∧
      s.app.mobClient.stopMobility = s₀.app.mobClient.stopMobility := by
  refine hquiet.invariant (P := fun s => s.starts = s₀.starts ∧
    s.app.mobClient.stopMobility = s₀.app.mobClient.stopMobility) ⟨rfl, rfl⟩ ?_ hrun
  intro pre s₁ e s₂ ⟨hstarts, hstop⟩ hquiet hstep
  have h := Mobile.step_sound hstep
  rw [← hstarts, ← hstop]
  refine ⟨?_, ?_⟩
  · rcases Mobile.starts_step h with ⟨hstart, -⟩ | ⟨-, heq⟩
    · exact absurd (.inl hstart) hquiet
    · exact heq
  · rw [Bool.eq_iff_iff, Mobile.stop_step_iff h]
    exact ⟨fun h => h.resolve_right fun h => hquiet (.inr h), .inl⟩

/-- Conversely, a run after which there was no start and the flag is not set has neither. -/
lemma runMeets_of_starts_eq {app : App} (hrun : run Mobile.step (.init app) es = some s)
    (hstarts : s.starts = 0) (hstop : s.app.mobClient.stopMobility = false) :
    RunMeets Mobile.step (fun _ s e => ¬ s.Operates e) (.init app) es := by
  suffices h : s.starts = 0 → s.app.mobClient.stopMobility = false →
      RunMeets Mobile.step (fun _ s e => ¬ s.Operates e) (.init app) es from h hstarts hstop
  refine run_induction (P := fun es s => s.starts = 0 → s.app.mobClient.stopMobility = false →
    RunMeets Mobile.step (fun _ s e => ¬ s.Operates e) (.init app) es) ?_ ?_ hrun
  · intro _ _
    exact runMeets_nil
  · intro pre s₁ e s₂ hpre ih hstep hstarts hstop
    have h := Mobile.step_sound hstep
    have hstop' : ¬ (s₁.app.mobClient.stopMobility = true ∨ s₁.Stops e) := by
      rw [← Mobile.stop_step_iff h, hstop]
      exact Bool.false_ne_true
    obtain ⟨hstart, hstarts₁⟩ : ¬ s₁.Starts e ∧ s₂.starts = s₁.starts := by
      rcases Mobile.starts_step h with ⟨-, heq⟩ | h
      · omega
      · exact h
    refine (runMeets_concat_iff hpre).mpr ⟨ih (hstarts₁ ▸ hstarts) ?_, ?_⟩
    · exact Bool.of_not_eq_true fun h => hstop' (.inl h)
    · exact fun h => h.elim hstart fun h => hstop' (.inr h)

/-- After a start that no other start and no stop follows, one chain of each is live exactly if
none came before it either. -/
theorem one_chain_iff (config : RawConfigParser) (init : InitEnv) (app : App)
    (pre : List MobileEvent) (e : MobileEvent) (post : List MobileEvent) (s₁ s₂ s : Mobile)
    (hinit : App.init config init = some app) (hpre : run Mobile.step (.init app) pre = some s₁)
    (hstart : s₁.Starts e) (hstep : s₁.step e = some s₂) (hpost : run Mobile.step s₂ post = some s)
    (hlast : RunMeets Mobile.step (fun _ s e => ¬ s.Operates e) s₂ post)
    (hfails : ∀ j, .scanFails j ∉ pre ++ e :: post) :
    s.liveReports = 1 ∧ s.liveScans = 1 ↔
      RunMeets Mobile.step (fun _ s e => ¬ s.Operates e) (.init app) pre := by
  have hfresh := App.fresh_of_init hinit
  have hrun : run Mobile.step (.init app) (pre ++ e :: post) = some s := by
    rw [run_append, hpre, Option.bind_some, run_cons, hstep, Option.bind_some, hpost]
  have hstep' := Mobile.step_sound hstep
  obtain ⟨hstarts, hstop⟩ := starts_eq_of_runMeets hpost hlast
  obtain ⟨-, hstarts₂⟩ : s₁.Starts e ∧ s₂.starts = s₁.starts + 1 :=
    (Mobile.starts_step hstep').resolve_right fun h => h.1 hstart
  have hstop₂ : s₂.app.mobClient.stopMobility = s₁.app.mobClient.stopMobility := by
    rw [Bool.eq_iff_iff, Mobile.stop_step_iff hstep']
    refine ⟨fun h => h.resolve_right ?_, .inl⟩
    cases e with
    | startMobility | login => exact id
    | _ => exact absurd hstart id
  constructor
  · rintro ⟨hreports, hscans⟩
    cases hset : s.app.mobClient.stopMobility with
    | true =>
      rw [Mobile.liveScans, if_pos hset] at hscans
      cases hscans
    | false =>
      obtain ⟨hchains, -⟩ := chains_eq_starts hfresh hrun hfails hset
      rw [Mobile.liveReports, if_pos (.inr (by simp [hset])), hchains, hstarts, hstarts₂]
        at hreports
      refine runMeets_of_starts_eq hpre (by omega) ?_
      rw [← hstop₂, ← hstop, hset]
  · intro hquiet
    obtain ⟨hstarts₁, hstop₁⟩ := starts_eq_of_runMeets hpre hquiet
    have hset : s.app.mobClient.stopMobility = false := by
      rw [hstop, hstop₂, hstop₁]
      exact hfresh.stop
    obtain ⟨hreports, hscans⟩ := chains_eq_starts hfresh hrun hfails hset
    have hone : s.starts = 1 := by
      rw [hstarts, hstarts₂, hstarts₁]
      rfl
    rw [Mobile.liveReports, Mobile.liveScans, if_pos (.inr (by simp [hset])), hset, hreports,
      hscans]
    exact ⟨hone, hone⟩

/-- The directory can be entered when mobility is started, and there is no access point. -/
def aloneEnv : MobilityEnv where
  chdir := true
  settings := []
  devices := some []
  report := ⟨fun _ => none, none⟩

/-- The two calls that a start makes, where there is nothing to report. -/
def startCalls (i j : ℕ) : List MobileEvent :=
  [.report i, .report i, .report i, .report i, .gui, .scanned j, .scan j, .scan j, .gui]

/-- The same two calls once the flag is set. -/
def stoppedCalls (i j : ℕ) : List MobileEvent :=
  [.report i, .report i, .report i, .gui, .scanned j, .scan j, .gui]

lemma runMeets_of_ofCalls (h : es.all MobileEvent.ofCalls = true) :
    RunMeets Mobile.step (fun _ s e => ¬ s.Operates e) s es := by
  rintro pre e post s₁ rfl -
  have he := List.all_eq_true.mp h e (by simp)
  cases e with
  | fireReport | fireScan | report | answer | publish | scanned | scanFails | scan | stopEnds
  | gui => exact fun h => h.elim id id
  | _ => cases he

theorem one_chain_alice :
    ∃ app s₁ s₂ s, App.init guiConf (startOn ⟨"secured1", "00:01"⟩) = some app ∧
      run Mobile.step (.init app) [] = some s₁ ∧ s₁.step (.login "alice" aloneEnv) = some s₂ ∧
      run Mobile.step s₂ (startCalls 0 0) = some s ∧
      (s.liveReports = 1 ∧ s.liveScans = 1 ↔
        RunMeets Mobile.step (fun _ s e => ¬ s.Operates e) (.init app) []) := by
  have hsome : ((App.init guiConf (startOn ⟨"secured1", "00:01"⟩)).bind fun app =>
      (Mobile.step (.init app) (.login "alice" aloneEnv)).bind fun s₂ =>
        (run Mobile.step s₂ (startCalls 0 0)).map fun _ => app.useMobility) = some true := by
    decide +kernel
  obtain ⟨app, hinit, hsome⟩ := Option.bind_eq_some_iff.mp hsome
  obtain ⟨s₂, hstep, hsome⟩ := Option.bind_eq_some_iff.mp hsome
  obtain ⟨s, hrun, hmobility⟩ := Option.map_eq_some_iff.mp hsome
  refine ⟨app, .init app, s₂, s, hinit, rfl, hstep, hrun, ?_⟩
  have hstart : (Mobile.init app).Starts (.login "alice" aloneEnv) := ⟨hmobility, rfl⟩
  refine one_chain_iff guiConf _ app [] _ _ _ s₂ s hinit rfl hstart hstep hrun
    (runMeets_of_ofCalls rfl) ?_
  intro j hj
  simp [startCalls] at hj

/-- A login after the events `pre` is the last start in the run, and with the calls that follow it
leaves `n` chains of each. -/
def LeavesChains (pre post : List MobileEvent) (n : ℕ) : Prop :=
  ∃ app s₁ s₂ s, App.init guiConf (startOn ⟨"secured1", "00:01"⟩) = some app ∧
    run Mobile.step (.init app) pre = some s₁ ∧ s₁.Starts (.login "alice" aloneEnv) ∧
    s₁.step (.login "alice" aloneEnv) = some s₂ ∧ run Mobile.step s₂ post = some s ∧
    RunMeets Mobile.step (fun _ s e => ¬ s.Operates e) s₂ post ∧
    (∀ j, .scanFails j ∉ pre ++ post) ∧ s.liveReports = n ∧ s.liveScans = n

lemma leavesChains_of_eval {pre post : List MobileEvent} {n : ℕ}
    (h : ((App.init guiConf (startOn ⟨"secured1", "00:01"⟩)).bind fun app =>
      (run Mobile.step (.init app) pre).bind fun s₁ =>
        (s₁.step (.login "alice" aloneEnv)).bind fun s₂ => (run Mobile.step s₂ post).map fun s =>
          (s₁.app.useMobility, s.liveReports, s.liveScans)) = some (true, n, n))
    (hcalls : post.all MobileEvent.ofCalls = true) (hfails : ∀ j, .scanFails j ∉ pre ++ post) :
    LeavesChains pre post n := by
  obtain ⟨app, hinit, hmap⟩ := Option.bind_eq_some_iff.mp h
  obtain ⟨s₁, hpre, hmap⟩ := Option.bind_eq_some_iff.mp hmap
  obtain ⟨s₂, hstep, hmap⟩ := Option.bind_eq_some_iff.mp hmap
  obtain ⟨s, hrun, heq⟩ := Option.map_eq_some_iff.mp hmap
  simp only [Prod.mk.injEq] at heq
  obtain ⟨hmobility, hreports, hscans⟩ := heq
  exact ⟨app, s₁, s₂, s, hinit, hpre, ⟨hmobility, rfl⟩, hstep, hrun, runMeets_of_ofCalls hcalls,
    hfails, hreports, hscans⟩

/-- Two logins leave two chains of each, and a login after a logout leaves none. -/
theorem chains_doubled_or_gone :
    LeavesChains (.login "alice" aloneEnv :: startCalls 0 0) (startCalls 1 1) 2 ∧
      LeavesChains (.login "alice" aloneEnv :: (startCalls 0 0 ++ [.logout (some 200)]))
        (stoppedCalls 1 1) 0 := by
  refine ⟨leavesChains_of_eval ?_ rfl ?_, leavesChains_of_eval ?_ rfl ?_⟩
  · decide +kernel
  · simp [startCalls]
  · decide +kernel
  · simp [startCalls, stoppedCalls]

/-! ### After a stop -/

/-- The step arms a timer of one of the two. -/
def Mobile.Schedules (s s' : Mobile) : Prop :=
  s.app.mobClient.timers < s'.app.mobClient.timers ∨ s.scanTimers < s'.scanTimers

def MobileEvent.firesReport : MobileEvent → Bool
  | .fireReport => true
  | _ => false

def MobileEvent.firesScan : MobileEvent → Bool
  | .fireScan => true
  | _ => false

/-- No call is between its last test of a flag and the timer it arms. -/
structure Mobile.NoneArming (s : Mobile) : Prop where
  reports : Each (fun _ call => call ≠ .arm) s.reports
  scans : Each (fun _ call => call ≠ .arm) s.scans

/-- A call that is to test `migrating` finds that no migration was announced. -/
def Mobile.FindsNoMigration (s : Mobile) (e : MobileEvent) : Prop :=
  ∀ i, e = .report i → s.reports[i]? = some .testMigrating → s.app.mobClient.migrating = false

lemma Mobile.ReportStep.noneArming {i : ℕ} {call call' : ReportCall}
    (h : s.ReportStep call s' call') (hnone : Each (fun _ call => call ≠ .arm) s.reports)
    (hstop : s.app.mobClient.stopMobility = true)
    (hmigrating : call = .testMigrating → s.app.mobClient.migrating = false) :
    Each (fun _ call => call ≠ .arm) (s.reports.set i call') := by
  refine hnone.set ?_
  cases h with
  | migrating hset =>
    rw [hmigrating rfl] at hset
    cases hset
  | goesOn hset =>
    rw [hstop] at hset
    cases hset
  | _ => nofun

lemma Mobile.ReportStep.timers_eq {call call' : ReportCall} (h : s.ReportStep call s' call')
    (hcall : call ≠ .arm) :
    s'.app.mobClient.timers = s.app.mobClient.timers ∧ s'.scanTimers = s.scanTimers ∧
      s'.scans = s.scans := by
  cases h with
  | arm => exact absurd rfl hcall
  | _ => exact ⟨rfl, rfl, rfl⟩

lemma Mobile.NoneArming.handling {e : MobileEvent} (h : s.NoneArming)
    (hhandling : s.Handling e s') : s'.NoneArming ∧ s'.scanTimers = s.scanTimers := by
  cases hhandling.handled with
  | start => exact ⟨⟨h.reports.concat nofun, h.scans⟩, rfl⟩
  | slot | test | close => exact ⟨⟨h.reports, h.scans⟩, rfl⟩

/-- Once the flag is set and no call is arming a timer, none comes to, and the timers become fewer
as they fire. -/
lemma Mobile.NoneArming.step {e : MobileEvent} (h : s.NoneArming)
    (hstop : s.app.mobClient.stopMobility = true) (hfinds : s.FindsNoMigration e)
    (hstep : s.Step e s') :
    s'.NoneArming ∧
      s'.app.mobClient.timers + (if e.firesReport then 1 else 0) = s.app.mobClient.timers ∧
      s'.scanTimers + (if e.firesScan then 1 else 0) = s.scanTimers := by
  cases hstep with
  | fireReport htimers =>
    exact ⟨⟨h.reports.concat nofun, h.scans⟩, Nat.sub_add_cancel htimers, rfl⟩
  | fireScan htimers =>
    exact ⟨⟨h.reports, h.scans.concat nofun⟩, rfl, Nat.sub_add_cancel htimers⟩
  | report hcall hreport =>
    obtain ⟨htimers, hscanTimers, hscans⟩ := hreport.timers_eq (h.reports _ _ hcall)
    refine ⟨⟨hreport.noneArming h.reports hstop fun heq => ?_, hscans ▸ h.scans⟩, htimers,
      hscanTimers⟩
    exact hfinds _ rfl (heq ▸ hcall)
  | answer hcall =>
    refine ⟨⟨h.reports.set ?_, h.scans⟩, rfl, rfl⟩
    rcases ReportEnv.branch_cases _ s.app _ with h | h | ⟨bssid, visits, h, -⟩ <;> rw [h] <;> nofun
  | publish => exact ⟨⟨h.reports, h.scans⟩, rfl, rfl⟩
  | stopEnds => exact ⟨⟨h.reports, h.scans⟩, rfl, rfl⟩
  | scanned hcall | scanFails hcall => exact ⟨⟨h.reports, h.scans.set nofun⟩, rfl, rfl⟩
  | scanTests hcall =>
    refine ⟨⟨h.reports, h.scans.set ?_⟩, rfl, rfl⟩
    rw [if_pos hstop]
    nofun
  | scanArms hcall => exact absurd rfl (h.scans _ _ hcall)
  | gui hgui hgstep =>
    cases hgstep with
    | reported => exact ⟨⟨h.reports, h.scans.concat nofun⟩, rfl, rfl⟩
    | _ => exact ⟨⟨h.reports, h.scans⟩, rfl, rfl⟩
  | handled hcalls hidle hhandling =>
    obtain ⟨hreport, hscan⟩ : e.firesReport = false ∧ e.firesScan = false := by
      cases e with
      | fireReport | fireScan => cases hcalls
      | _ => exact ⟨rfl, rfl⟩
    obtain ⟨hnone, hscanTimers⟩ := h.handling hhandling
    rw [hreport, hscan]
    exact ⟨hnone, hhandling.keeps.timers, hscanTimers⟩

/-- What is left of a run once `stop_m` was called. -/
structure Mobile.Halted (s : Mobile) : Prop where
  stop : s.app.mobClient.stopMobility = true
  noneArming : s.NoneArming

lemma Mobile.Halted.step {e : MobileEvent} (h : s.Halted) (hfinds : s.FindsNoMigration e)
    (hstep : s.step e = some s') :
    s'.Halted ∧
      s'.app.mobClient.timers + (if e.firesReport then 1 else 0) = s.app.mobClient.timers ∧
      s'.scanTimers + (if e.firesScan then 1 else 0) = s.scanTimers := by
  have hsound := Mobile.step_sound hstep
  obtain ⟨hnone, hcounts⟩ := h.noneArming.step h.stop hfinds hsound
  exact ⟨⟨(Mobile.stop_step_iff hsound).mpr (.inl h.stop), hnone⟩, hcounts⟩

lemma Mobile.Halted.run {s₀ : Mobile} (h : s₀.Halted) (hrun : run Mobile.step s₀ es = some s)
    (hfinds : RunMeets Mobile.step (fun _ s e => s.FindsNoMigration e) s₀ es) :
    s.Halted ∧ s.app.mobClient.timers + es.countP MobileEvent.firesReport
        = s₀.app.mobClient.timers ∧
      s.scanTimers + es.countP MobileEvent.firesScan = s₀.scanTimers := by
  suffices h : RunMeets Mobile.step (fun _ s e => s.FindsNoMigration e) s₀ es →
      s.Halted ∧ s.app.mobClient.timers + es.countP MobileEvent.firesReport
          = s₀.app.mobClient.timers ∧
        s.scanTimers + es.countP MobileEvent.firesScan = s₀.scanTimers from h hfinds
  refine run_induction (P := fun es s =>
    RunMeets Mobile.step (fun _ s e => s.FindsNoMigration e) s₀ es → s.Halted ∧
      s.app.mobClient.timers + es.countP MobileEvent.firesReport = s₀.app.mobClient.timers ∧
      s.scanTimers + es.countP MobileEvent.firesScan = s₀.scanTimers) ?_ ?_ hrun
  · intro _
    exact ⟨h, rfl, rfl⟩
  · intro pre s₁ e s₂ hpre ih hstep hmeets
    obtain ⟨hmeets, hlast⟩ := (runMeets_concat_iff hpre).mp hmeets
    obtain ⟨hhalted, hreports, hscans⟩ := ih hmeets
    obtain ⟨hhalted', hreports', hscans'⟩ := hhalted.step hlast hstep
    refine ⟨hhalted', ?_, ?_⟩
    · rw [List.countP_append, List.countP_singleton]
      omega
    · rw [List.countP_append, List.countP_singleton]
      omega

/-- After `stop_m` is called, no timer is armed, and the ones there are fire at most once each, if
no call is arming one then and the calls find no migration. -/
theorem stop_ends_chains (s₁ s₂ s : Mobile) (e : MobileEvent) (es : List MobileEvent)
    (hstop : s₁.Stops e) (hstep : s₁.step e = some s₂) (hrun : run Mobile.step s₂ es = some s)
    (hnone : s₁.NoneArming)
    (hfinds : RunMeets Mobile.step (fun _ s e => s.FindsNoMigration e) s₂ es) :
    RunMeets Mobile.step (fun _ s e => ∀ s', s.step e = some s' → ¬ s.Schedules s') s₂ es ∧
      es.countP MobileEvent.firesReport ≤ s₂.app.mobClient.timers ∧
      es.countP MobileEvent.firesScan ≤ s₂.scanTimers := by
  have hsound := Mobile.step_sound hstep
  have hhalted : s₂.Halted := by
    refine ⟨(Mobile.stop_step_iff hsound).mpr (.inr hstop), ?_⟩
    cases hsound with
    | handled hcalls hidle hhandling => exact (hnone.handling hhandling).1
    | _ => exact hstop.elim
  refine ⟨?_, ?_⟩
  · refine RunMeets.of_invariant (P := Mobile.Halted) hhalted ?_ ?_ hfinds
    · intro pre s e s' h hfinds hstep
      exact (h.step hfinds hstep).1
    · intro pre s e h hfinds s' hstep hschedules
      obtain ⟨-, hreports, hscans⟩ := h.step hfinds hstep
      rcases hschedules with hlt | hlt <;> omega
  · obtain ⟨-, hreports, hscans⟩ := hhalted.run hrun hfinds
    constructor <;> omega

lemma Mobile.noneArming_of_countP (hreports : s.reports.countP ReportCall.inProgress = 0)
    (hscans : s.scans.countP ScanCall.inProgress = 0) : s.NoneArming := by
  rw [List.countP_eq_zero] at hreports hscans
  constructor
  · rintro i call hcall rfl
    exact hreports _ (List.mem_of_getElem? hcall) rfl
  · rintro j call hcall rfl
    exact hscans _ (List.mem_of_getElem? hcall) rfl

/-- The timers that a login leaves fire after a stop. -/
def firedOnce : List MobileEvent :=
  [.fireReport, .report 1, .report 1, .report 1, .fireScan, .scanned 1, .scan 1]

theorem stop_ends_chains_alice :
    ∃ app s₁ s₂ s, App.init guiConf (startOn ⟨"secured1", "00:01"⟩) = some app ∧
      run Mobile.step (.init app) (.login "alice" aloneEnv :: startCalls 0 0) = some s₁ ∧
      s₁.step .stopMobility = some s₂ ∧ run Mobile.step s₂ firedOnce = some s ∧
      RunMeets Mobile.step (fun _ s e => ∀ s', s.step e = some s' → ¬ s.Schedules s') s₂
        firedOnce ∧
      firedOnce.countP MobileEvent.firesReport ≤ s₂.app.mobClient.timers ∧
      firedOnce.countP MobileEvent.firesScan ≤ s₂.scanTimers := by
  have hmap : ((App.init guiConf (startOn ⟨"secured1", "00:01"⟩)).bind fun app =>
      (run Mobile.step (.init app) (.login "alice" aloneEnv :: startCalls 0 0)).bind fun s₁ =>
        (s₁.step .stopMobility).bind fun s₂ => (run Mobile.step s₂ firedOnce).map fun _ =>
          (s₁.reports.countP ReportCall.inProgress, s₁.scans.countP ScanCall.inProgress,
            meetsAll Mobile.step (fun s _ => !s.app.mobClient.migrating) s₂ firedOnce))
      = some (0, 0, true) := by
    decide +kernel
  obtain ⟨app, hinit, hmap⟩ := Option.bind_eq_some_iff.mp hmap
  obtain ⟨s₁, hpre, hmap⟩ := Option.bind_eq_some_iff.mp hmap
  obtain ⟨s₂, hstep, hmap⟩ := Option.bind_eq_some_iff.mp hmap
  obtain ⟨s, hrun, heq⟩ := Option.map_eq_some_iff.mp hmap
  simp only [Prod.mk.injEq] at heq
  obtain ⟨hreports, hscans, hmigrating⟩ := heq
  refine ⟨app, s₁, s₂, s, hinit, hpre, hstep, hrun, ?_⟩
  refine stop_ends_chains s₁ s₂ s .stopMobility firedOnce ⟨⟩ hstep hrun
    (Mobile.noneArming_of_countP hreports hscans) ?_
  refine (runMeets_of_meetsAll hmigrating).mono ?_
  intro pre s e h i _ _
  simpa using h

/-- A login starts mobility where there is an access point to report. The next call reports it, and
comes to the answer of the PSC. -/
def reportingRun : List MobileEvent :=
  [.login "alice" aloneEnv, .report 0, .report 0, .report 0, .report 0, .gui,
    .publish 0 ⟨"secured1", "00:01"⟩ [⟨"secured3", 70, "00:03"⟩], .scanned 0, .scan 0, .scan 0,
    .gui, .fireReport, .report 1, .report 1, .report 1, .report 1, .report 1, .report 1]

/-- The PSC answers the report with a migration. -/
def migratingRun : List MobileEvent :=
  reportingRun ++ [.answer 1 ⟨fun _ => some (.obj [("action", .int 1)]), none⟩, .report 1,
    .report 1, .report 1, .report 1]

/-- After a migration was announced, the calls of `reportAPs` go on whatever is stopped. -/
theorem reports_go_on :
    ∃ app s₁ s₂ s s', App.init guiConf (startOn ⟨"secured1", "00:01"⟩) = some app ∧
      run Mobile.step (.init app) migratingRun = some s₁ ∧ s₁.step .stopMobility = some s₂ ∧
      run Mobile.step s₂ [.fireReport, .report 2, .report 2, .report 2] = some s ∧
      s.step (.report 2) = some s' ∧ s.Schedules s' ∧
      ((s'.step .fireReport).isSome ∧ s₂.app.mobClient.timers = 1) := by
  have hmap : ((App.init guiConf (startOn ⟨"secured1", "00:01"⟩)).bind fun app =>
      (run Mobile.step (.init app) migratingRun).bind fun s₁ =>
        (s₁.step .stopMobility).bind fun s₂ =>
          (run Mobile.step s₂ [.fireReport, .report 2, .report 2, .report 2]).bind fun s =>
            (s.step (.report 2)).map fun s' =>
              (s.app.mobClient.timers, s'.app.mobClient.timers, s₂.app.mobClient.timers,
                (s'.step .fireReport).isSome)) = some (0, 1, 1, true) := by
    decide +kernel
  obtain ⟨app, hinit, hmap⟩ := Option.bind_eq_some_iff.mp hmap
  obtain ⟨s₁, hpre, hmap⟩ := Option.bind_eq_some_iff.mp hmap
  obtain ⟨s₂, hstop, hmap⟩ := Option.bind_eq_some_iff.mp hmap
  obtain ⟨s, hrun, hmap⟩ := Option.bind_eq_some_iff.mp hmap
  obtain ⟨s', hstep, heq⟩ := Option.map_eq_some_iff.mp hmap
  simp only [Prod.mk.injEq] at heq
  obtain ⟨htimers, htimers', htimers₂, hfires⟩ := heq
  refine ⟨app, s₁, s₂, s, s', hinit, hpre, hstop, hrun, hstep, .inl ?_, hfires, htimers₂⟩
  rw [htimers, htimers']
  exact Nat.one_pos

end SecuredApp
