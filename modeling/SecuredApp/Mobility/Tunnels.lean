import SecuredApp.Core.Background
import SecuredApp.Mobility.Choices

/-!
# The tunnels that are up

The call that makes a handover and the GUI stop and start tunnels by the same two methods, without
a lock. Where the one does not begin while the other is at it, and no tunnel is started before the
last stop of it has ended, the active tunnel is the one that is up.
-/

namespace SecuredApp

open SecuredApp.Core

variable {s s' : Mobile} {call call' : ReportCall} {gui gui' : GuiCall}

/-! ### Places -/

/-- The call holds the lock. -/
def ReportCall.locked : ReportCall → Bool
  | .readWifilist | .testStop | .testLock | .acquire | .testMigrating | .testStopAgain | .arm
  | .done => false
  | _ => true

/-- The call is between closing a tunnel and making the next one. -/
def ReportCall.switching : ReportCall → Bool
  | .close _ _ | .closed _ _ | .activate _ _ | .lookUp _ _ | .enter _ _ _ | .running _ _ _
  | .ran _ _ _ => true
  | _ => false

/-- The GUI is closing or making a tunnel. -/
def GuiCall.switching : GuiCall → Bool
  | .closing _ | .readName _ | .enter _ _ | .running _ | .ran _ => true
  | _ => false

lemma ReportCall.locked_of_switching (h : call.switching = true) : call.locked = true := by
  cases call with
  | close | closed | activate | lookUp | enter | running | ran => rfl
  | _ => cases h

/-! ### The tunnel and its records -/

/-- The program records the tunnel: as the active one, and as the one it would stop. -/
structure Records (active : Option String) (connName : String) (tunnel : Option String) :
    Prop where
  active : active = tunnel
  connName : ∀ c, tunnel = some c → connName = c

/-- How the records and the tunnel are where the call is. -/
def ReportCall.Follows (active : Option String) (connName : String) (tunnel : Option String) :
    ReportCall → Prop
  | .close _ _ => Records active connName tunnel
  | .closed _ _ => tunnel = none
  | .activate _ _ | .lookUp _ _ | .enter _ _ _ | .running _ _ _ => tunnel = none ∧ active = none
  | .ran c _ _ => tunnel = some c ∧ connName = c
  | _ => True

def GuiCall.Follows (active : Option String) (connName : String) (tunnel : Option String) :
    GuiCall → Prop
  | .closing _ => tunnel = none
  | .readName _ | .enter _ _ | .running _ => tunnel = none ∧ active = none
  | .ran c => tunnel = some c ∧ connName = c
  | _ => True

section

variable {active active' : Option String} {connName connName' : String}
  {tunnel tunnel' : Option String}

lemma ReportCall.follows_of_not_switching (h : call.switching = false) :
    call.Follows active connName tunnel := by
  cases call with
  | close | closed | activate | lookUp | enter | running | ran => cases h
  | _ => trivial

lemma GuiCall.follows_of_not_switching (h : gui.switching = false) :
    gui.Follows active connName tunnel := by
  cases gui with
  | closing | readName | enter | running | ran => cases h
  | _ => trivial

lemma records_none : Records none connName none := ⟨rfl, nofun⟩

/-- At most one of the calls and the GUI is switching the tunnel, the records are as they are where
it is, and right if none is. -/
structure Apart (reports : List ReportCall) (gui : GuiCall) (lock : Bool)
    (active : Option String) (connName : String) (holder : Option ℕ) (tunnel : Option String) :
    Prop where
  held : HeldBy (fun call : ReportCall => call.locked = true) lock reports holder
  exclusive : Each (fun _ call => call.switching = true → gui.switching = false) reports
  callsFollow : Each (fun _ call => call.Follows active connName tunnel) reports
  guiFollows : gui.Follows active connName tunnel
  records : Each (fun _ call => call.switching = false) reports → gui.switching = false →
    Records active connName tunnel

namespace Apart

variable {reports : List ReportCall} {lock lock' : Bool} {holder holder' : Option ℕ} {i : ℕ}

/-- A call that holds the lock and is not switching the tunnel leaves nobody who is. -/
lemma none_of_locked (h : Apart reports gui lock active connName holder tunnel)
    (hcall : reports[i]? = some call) (hlocked : call.locked = true)
    (hswitching : call.switching = false) :
    Each (fun _ call => call.switching = false) reports := by
  intro j c hj
  by_contra hc
  rw [Bool.not_eq_false] at hc
  obtain rfl := h.held.eq hj (ReportCall.locked_of_switching hc) hcall hlocked
  rw [hcall, Option.some.injEq] at hj
  rw [← hj, hswitching] at hc
  cases hc

/-- The call that switches the tunnel takes a step of that. -/
lemma switch (h : Apart reports gui lock active connName holder tunnel)
    (hcall : reports[i]? = some call) (hlocked : call.locked = true)
    (hlocked' : call'.locked = true) (hgui : gui.switching = false)
    (hfollows : call'.Follows active' connName' tunnel')
    (hrecords : call'.switching = false → Records active' connName' tunnel') :
    Apart (reports.set i call') gui lock active' connName' holder tunnel' := by
  -- no other call is switching: it would hold the lock too
  have hothers : ∀ j c, j ≠ i → reports[j]? = some c → c.switching = false := by
    intro j c hne hj
    by_contra hswitching
    rw [Bool.not_eq_false] at hswitching
    exact hne (h.held.eq hj (ReportCall.locked_of_switching hswitching) hcall hlocked)
  refine ⟨h.held.set hcall (iff_of_true hlocked' hlocked), fun _ _ _ _ => hgui, ?_,
    GuiCall.follows_of_not_switching hgui, fun hnone _ => hrecords ?_⟩
  · intro j c hj
    rcases getElem?_set_cases hj with ⟨-, rfl⟩ | ⟨hne, hj⟩
    · exact hfollows
    · exact ReportCall.follows_of_not_switching (hothers j c hne hj)
  · exact hnone i call' (List.getElem?_set_self (List.getElem?_eq_some_iff.mp hcall).1)

/-- A call takes a step outside of the switch. -/
lemma quiet (h : Apart reports gui lock active connName holder tunnel)
    (hcall : reports[i]? = some call) (hswitching : call.switching = false)
    (hswitching' : call'.switching = false)
    (hheld : HeldBy (fun call : ReportCall => call.locked = true) lock' (reports.set i call')
      holder') :
    Apart (reports.set i call') gui lock' active connName holder' tunnel := by
  refine ⟨hheld, h.exclusive.set fun h => ?_,
    h.callsFollow.set (ReportCall.follows_of_not_switching hswitching'), h.guiFollows,
    fun hnone hgui => ?_⟩
  · rw [hswitching'] at h
    cases h
  · refine h.records (fun j c hj => ?_) hgui
    by_cases hij : i = j
    · subst hij
      rw [hcall, Option.some.injEq] at hj
      exact hj ▸ hswitching
    · refine hnone j c ?_
      rwa [List.getElem?_set_ne hij]

/-- A new call of `reportAPs`. -/
lemma concat (h : Apart reports gui lock active connName holder tunnel) :
    Apart (reports ++ [.readWifilist]) gui lock active connName holder tunnel := by
  refine ⟨h.held.concat Bool.false_ne_true, h.exclusive.concat nofun, h.callsFollow.concat trivial,
    h.guiFollows, fun hnone hgui => h.records (fun j c hj => ?_) hgui⟩
  refine hnone j c ?_
  rwa [List.getElem?_append_left (List.getElem?_eq_some_iff.mp hj).1]

/-- The GUI takes a step of a switch, and no call is at one. -/
lemma guiSwitch (h : Apart reports gui lock active connName holder tunnel)
    (hnone : Each (fun _ call => call.switching = false) reports)
    (hfollows : gui'.Follows active' connName' tunnel')
    (hrecords : gui'.switching = false → Records active' connName' tunnel') :
    Apart reports gui' lock active' connName' holder tunnel' := by
  refine ⟨h.held, fun j c hj hswitching => ?_, fun j c hj => ?_, hfollows, fun _ => hrecords⟩
  · rw [hnone j c hj] at hswitching
    cases hswitching
  · exact ReportCall.follows_of_not_switching (hnone j c hj)

lemma guiQuiet (h : Apart reports gui lock active connName holder tunnel)
    (hgui : gui.switching = false) (hgui' : gui'.switching = false) :
    Apart reports gui' lock active connName holder tunnel :=
  ⟨h.held, fun _ _ _ _ => hgui', h.callsFollow, GuiCall.follows_of_not_switching hgui',
    fun hnone _ => h.records hnone hgui⟩

/-- While the GUI is switching the tunnel no call is. -/
lemma none_of_gui (h : Apart reports gui lock active connName holder tunnel)
    (hgui : gui.switching = true) : Each (fun _ call => call.switching = false) reports := by
  intro j c hj
  by_contra hswitching
  rw [Bool.not_eq_false] at hswitching
  rw [h.exclusive j c hj hswitching] at hgui
  cases hgui

end Apart

end

/-! ### Keeping apart -/

/-- No call is between closing a tunnel and making the next one. -/
def Mobile.NoneSwitching (s : Mobile) : Prop := ∀ call ∈ s.reports, call.switching = false

/-- A handover does not begin while the GUI closes or makes a tunnel, its stop script can be run,
and no stop of the connection is left when its start script ends. -/
def ReportCall.KeepsApart (s : Mobile) : ReportCall → Prop
  | .visit (_ :: _) => s.app.activeIpsecConnection ≠ none → s.gui.switching = false
  | .close v _ => v.stop = true
  | .running connName _ _ => connName ∉ s.stopping
  | _ => True

/-- The slot does not find the tunnel closed by a handover, and no stop of the connection is left
when its start script ends. -/
def GuiCall.KeepsApart (s : Mobile) : GuiCall → Prop
  | .testSlot _ =>
    s.app.useMobility = false → s.app.activeIpsecConnection = none → s.NoneSwitching
  | .running connName => connName ∉ s.stopping
  | _ => True

/-- The step keeps the switches of the tunnel apart: nor does the GUI close it during one of a
call. -/
def Mobile.KeepsApart (s : Mobile) : MobileEvent → Prop
  | .report i => ∀ call ∈ s.reports[i]?, call.KeepsApart s
  | .gui => s.gui.KeepsApart s
  | .disconnect _ reply stop _ => stop = true → ¬ s.app.LogoutRaises reply → s.NoneSwitching
  | _ => True

lemma Mobile.KeepsApart.noneSwitching {e : MobileEvent} (h : s.KeepsApart e)
    (hcloses : s.Closes e) : s.NoneSwitching := by
  cases e with
  | disconnect => exact h hcloses.1 hcloses.2
  | _ => exact hcloses.elim

/-- What holds of the tunnel in a run whose steps keep apart. -/
def Mobile.Tracked (s : Mobile) : Prop :=
  ∃ holder tunnel, Tracks s.up s.stopping tunnel ∧
    Apart s.reports s.gui s.app.mobClient.lock s.app.activeIpsecConnection
      s.app.ipsecNedConnectionName holder tunnel

lemma Mobile.ReportStep.tracked {i : ℕ} (hstep : s.ReportStep call s' call') (h : s.Tracked)
    (hcall : s.reports[i]? = some call) (hkeeps : call.KeepsApart s) :
    Mobile.Tracked { s' with reports := s.reports.set i call' } := by
  obtain ⟨holder, tunnel, htracks, hapart⟩ := h
  have hfollows := hapart.callsFollow i call hcall
  -- the GUI is not at a switch if the call is
  have hgui : call.switching = true → s.gui.switching = false := hapart.exclusive i call hcall
  cases hstep with
  | nothingToSend | send | stopped | notStopped | locked | notLocked | migrating | notMigrating
  | stoppedAgain | goesOn | arm =>
    exact ⟨holder, tunnel, htracks, hapart.quiet hcall rfl rfl (hapart.held.set hcall Iff.rfl)⟩
  | readAllow | build | setMigrating | noVisit | noTunnel | inform | setEnforced =>
    exact ⟨holder, tunnel, htracks, hapart.quiet hcall rfl rfl (hapart.held.set hcall Iff.rfl)⟩
  | acquire hlock =>
    have hheld := hapart.held
    rw [hlock] at hheld
    exact ⟨some i, tunnel, htracks, hapart.quiet hcall rfl rfl (hheld.acquire hcall rfl)⟩
  | release =>
    have hfree : ¬ ReportCall.testMigrating.locked = true := Bool.false_ne_true
    exact ⟨none, tunnel, htracks,
      hapart.quiet hcall rfl rfl (hapart.held.release hcall rfl hfree)⟩
  | begin hactive =>
    have hgui : s.gui.switching = false := hkeeps (by simp [hactive])
    have hrecords := hapart.records (hapart.none_of_locked hcall rfl rfl) hgui
    exact ⟨holder, tunnel, htracks, hapart.switch hcall rfl rfl hgui hrecords nofun⟩
  | close hstop =>
    refine ⟨holder, none, htracks.stop fun c hc => hfollows.connName c hc, ?_⟩
    exact hapart.switch hcall rfl rfl (hgui rfl) rfl nofun
  | closeFails hstop =>
    rw [ReportCall.KeepsApart, hstop] at hkeeps
    cases hkeeps
  | closed =>
    obtain rfl : tunnel = none := hfollows
    exact ⟨holder, none, htracks, hapart.switch hcall rfl rfl (hgui rfl) ⟨rfl, rfl⟩ nofun⟩
  | activate | lookUp | enter =>
    exact ⟨holder, tunnel, htracks, hapart.switch hcall rfl rfl (hgui rfl) hfollows nofun⟩
  | activateRaises | lookUpRaises | enterRaises | startFails =>
    obtain ⟨rfl, hactive⟩ := hfollows
    refine ⟨holder, none, htracks, hapart.switch hcall rfl rfl (hgui rfl) trivial fun _ => ?_⟩
    rw [hactive]
    exact records_none
  | running =>
    obtain ⟨rfl, hactive⟩ := hfollows
    refine ⟨holder, some _, htracks.start hkeeps, ?_⟩
    exact hapart.switch hcall rfl rfl (hgui rfl) ⟨rfl, rfl⟩ nofun
  | ran =>
    obtain ⟨rfl, hconn⟩ := hfollows
    refine ⟨holder, some _, htracks, ?_⟩
    exact hapart.switch hcall rfl rfl (hgui rfl) trivial fun _ =>
      ⟨rfl, fun c hc => hconn.trans (Option.some.inj hc)⟩

lemma Mobile.GuiStep.tracked (hstep : s.GuiStep gui s') (h : s.Tracked) (hgui : s.gui = gui)
    (hkeeps : gui.KeepsApart s) : s'.Tracked := by
  obtain ⟨holder, tunnel, htracks, hapart⟩ := h
  rw [hgui] at hapart
  have hfollows := hapart.guiFollows
  -- no call is at a switch if the GUI is
  have hnone := hapart.none_of_gui
  cases hstep with
  | reported | scanned | tunnel => exact ⟨holder, tunnel, htracks, hapart.guiQuiet rfl rfl⟩
  | noTunnel hmobility hactive =>
    have hnone := each_iff.mpr (hkeeps hmobility hactive)
    have hrecords := hapart.records hnone rfl
    rw [hactive] at hrecords
    obtain rfl := hrecords.active
    exact ⟨holder, none, htracks, hapart.guiSwitch hnone ⟨rfl, hactive⟩ nofun⟩
  | closed =>
    obtain rfl : tunnel = none := hfollows
    exact ⟨holder, none, htracks, hapart.guiSwitch (hnone rfl) trivial fun _ => records_none⟩
  | closedInSlot =>
    obtain rfl : tunnel = none := hfollows
    exact ⟨holder, none, htracks, hapart.guiSwitch (hnone rfl) trivial fun _ => records_none⟩
  | readName | enter =>
    exact ⟨holder, tunnel, htracks, hapart.guiSwitch (hnone rfl) hfollows nofun⟩
  | enterFails =>
    obtain ⟨rfl, hactive⟩ := hfollows
    refine ⟨holder, none, htracks, hapart.guiSwitch (hnone rfl) trivial fun _ => ?_⟩
    rw [hactive]
    exact records_none
  | running =>
    obtain ⟨rfl, hactive⟩ := hfollows
    refine ⟨holder, some _, htracks.start hkeeps, ?_⟩
    exact hapart.guiSwitch (hnone rfl) ⟨rfl, rfl⟩ nofun
  | ran =>
    obtain ⟨rfl, hconn⟩ := hfollows
    refine ⟨holder, some _, htracks, hapart.guiSwitch (hnone rfl) trivial fun _ => ?_⟩
    exact ⟨rfl, fun c hc => hconn.trans (Option.some.inj hc)⟩

lemma Mobile.Tracked.step {e : MobileEvent} (h : s.Tracked) (hkeeps : s.KeepsApart e)
    (hstep : s.Step e s') : s'.Tracked := by
  cases hstep with
  | report hcall hreport => exact hreport.tracked h hcall (hkeeps _ hcall)
  | gui hgui hgstep => exact hgstep.tracked h hgui (hgui ▸ hkeeps)
  | fireReport =>
    obtain ⟨holder, tunnel, htracks, hapart⟩ := h
    exact ⟨holder, tunnel, htracks, hapart.concat⟩
  | @answer i env report hcall =>
    obtain ⟨holder, tunnel, htracks, hapart⟩ := h
    obtain ⟨hlocked, hswitching⟩ : (env.branch s.app report).locked = true ∧
        (env.branch s.app report).switching = false := by
      rcases env.branch_cases s.app report with h | h | ⟨bssid, visits, h, -⟩
      all_goals
        rw [h]
        exact ⟨rfl, rfl⟩
    refine ⟨holder, tunnel, htracks, hapart.quiet hcall rfl hswitching ?_⟩
    exact hapart.held.set hcall (iff_of_true hlocked rfl)
  | stopEnds hmem =>
    obtain ⟨holder, tunnel, htracks, hapart⟩ := h
    exact ⟨holder, tunnel, htracks.stopEnds hmem, hapart⟩
  | fireScan | publish | scanned | scanFails | scanTests | scanArms => exact h
  | handled hcalls hidle hhandling =>
    obtain ⟨holder, tunnel, htracks, hapart⟩ := h
    obtain ⟨hactive, hconn, hlock, -⟩ := hhandling.keeps
    rw [← hactive, ← hconn, ← hlock, hidle] at hapart
    cases hhandling.handled with
    | slot => exact ⟨holder, tunnel, htracks, hidle ▸ hapart⟩
    | start => exact ⟨holder, tunnel, htracks, (hapart.guiQuiet rfl rfl).concat⟩
    | test => exact ⟨holder, tunnel, htracks, hapart.guiQuiet rfl rfl⟩
    | close hstarts hcloses hname =>
      have hnone := each_iff.mpr (hkeeps.noneSwitching hcloses)
      refine ⟨holder, none, htracks.stop fun c hc => ?_, hapart.guiSwitch hnone rfl nofun⟩
      rw [hname, ← hconn]
      exact (hapart.records hnone rfl).connName c hc

/-! ### The tunnels of a run -/

/-- The GUI is at a script, or at the assignment that follows it. -/
def GuiCall.unrecorded : GuiCall → Bool
  | .closing _ | .running _ | .ran _ => true
  | _ => false

/-- Nobody is switching the tunnel, and no script runs. -/
def Mobile.Settled (s : Mobile) : Prop :=
  s.NoneSwitching ∧ s.gui.unrecorded = false ∧ s.stopping = []

lemma Mobile.Tracked.up_eq (h : s.Tracked) (hsettled : s.Settled) :
    s.up = s.app.activeIpsecConnection.toFinset := by
  obtain ⟨holder, tunnel, htracks, hapart⟩ := h
  obtain ⟨hnone, hgui, hstopping⟩ := hsettled
  rw [hstopping] at htracks
  suffices hactive : s.app.activeIpsecConnection = tunnel by
    rw [hactive]
    exact htracks.eq_toFinset
  have hrecords := hapart.records (each_iff.mpr hnone)
  have hfollows := hapart.guiFollows
  cases hcall : s.gui with
  | closing | running | ran =>
    rw [hcall] at hgui
    cases hgui
  | readName env | enter connName env =>
    rw [hcall] at hfollows
    exact hfollows.2.trans hfollows.1.symm
  | idle | report | scan | testSlot =>
    rw [hcall] at hrecords
    exact (hrecords rfl).active

lemma Mobile.tracked_init {app : App} (hfresh : app.Fresh) : (Mobile.init app).Tracked := by
  refine ⟨none, app.activeIpsecConnection, .init _, ⟨?_, nofun, nofun, trivial, fun _ _ => ?_⟩⟩
  · rw [Mobile.init, hfresh.lock]
    exact .nil
  · refine ⟨rfl, fun c hc => ?_⟩
    rcases hfresh.active with hnone | hsome
    · rw [hnone] at hc
      cases hc
    · rw [hsome] at hc
      exact Option.some.inj hc

/-- In a run whose steps keep apart, the active tunnel is the one that is up whenever nothing is
being done about it. -/
theorem up_eq_active (config : RawConfigParser) (init : InitEnv) (app : App)
    (es : List MobileEvent) (s : Mobile) (hinit : App.init config init = some app)
    (hrun : run Mobile.step (.init app) es = some s)
    (hkeeps : RunMeets Mobile.step (fun _ s e => s.KeepsApart e) (.init app) es)
    (hsettled : s.Settled) : s.up = s.app.activeIpsecConnection.toFinset := by
  refine Mobile.Tracked.up_eq (hkeeps.invariant (P := Mobile.Tracked) ?_ ?_ hrun) hsettled
  · exact Mobile.tracked_init (App.fresh_of_init hinit)
  · intro pre s₁ e s₂ h hkeeps hstep
    exact h.step hkeeps (Mobile.step_sound hstep)

instance (s : Mobile) : Decidable s.NoneSwitching := by
  unfold Mobile.NoneSwitching
  exact List.decidableBAll _ _

instance (s : Mobile) : Decidable s.Settled := by
  unfold Mobile.Settled
  exact instDecidableAnd

instance (s : Mobile) (call : ReportCall) : Decidable (call.KeepsApart s) := by
  unfold ReportCall.KeepsApart
  split <;> infer_instance

instance (s : Mobile) (gui : GuiCall) : Decidable (gui.KeepsApart s) := by
  unfold GuiCall.KeepsApart
  split <;> infer_instance

instance (app : App) (reply : Option ℕ) : Decidable (app.LogoutRaises reply) := by
  unfold App.LogoutRaises
  exact instDecidableAnd

instance (s : Mobile) (e : MobileEvent) : Decidable (s.KeepsApart e) := by
  unfold Mobile.KeepsApart
  split <;> infer_instance

/-- The handover of the call 1 to the access point it comes to: the stop script of the tunnel before
it ends before the start script of the next one does. -/
def switchCalls (connName : String) : List MobileEvent :=
  [.report 1, .report 1, .stopEnds connName, .report 1, .report 1, .report 1, .report 1, .report 1,
    .report 1, .report 1, .report 1]

theorem up_eq_active_mallorca_ned :
    ∃ app s, App.init guiConf (startOn ⟨"secured1", "00:01"⟩) = some app ∧
      run Mobile.step (.init app) (orderedRun ++ switchCalls "secured1") = some s ∧
      s.app.activeIpsecConnection = some "mallorca_ned" ∧
      s.up = s.app.activeIpsecConnection.toFinset := by
  have hmap : ((App.init guiConf (startOn ⟨"secured1", "00:01"⟩)).bind fun app =>
      (run Mobile.step (.init app) (orderedRun ++ switchCalls "secured1")).map fun s =>
        (s.app.activeIpsecConnection, decide s.Settled, meetsAll Mobile.step
          (fun s e => s.KeepsApart e) (.init app) (orderedRun ++ switchCalls "secured1")))
      = some (some "mallorca_ned", true, true) := by
    decide +kernel
  obtain ⟨app, s, hinit, hrun, heq⟩ := exists_run hmap
  simp only [Prod.mk.injEq, decide_eq_true_eq] at heq
  obtain ⟨hactive, hsettled, hmeets⟩ := heq
  refine ⟨app, s, hinit, hrun, hactive, ?_⟩
  refine up_eq_active guiConf _ app _ s hinit hrun ?_ hsettled
  exact (runMeets_of_meetsAll hmeets).mono fun pre s e h => of_decide_eq_true h

/-- The user stops mobility in the middle of a handover, and a verdict comes: the slot finds no
tunnel and starts the one from before. -/
def interruptedRun : List MobileEvent :=
  orderedRun ++ [.report 1, .report 1, .report 1, .stopEnds "secured1", .stopMobility,
    .attestation ⟨true, some 0⟩, .gui, .gui, .gui, .gui, .gui, .report 1, .report 1, .report 1,
    .report 1, .report 1, .report 1, .report 1]

/-- The PSC orders a handover to another access point with the same connection, and the stop script
of it ends after the start script. -/
def restartedRun : List MobileEvent :=
  reportingRun ++ [.answer 1 (orderTo "00:02" [reachableAP ⟨"secured1", "00:02"⟩]), .report 1,
    .report 1, .report 1, .report 1, .report 1, .report 1, .report 1, .report 1, .report 1,
    .report 1, .stopEnds "secured1"]

/-- The run ends with the tunnels of `up`, while the active one that is recorded is `connName`. -/
def Misrecords (es : List MobileEvent) (up : Finset String) (connName : String) : Prop :=
  ∃ app s, App.init guiConf (startOn ⟨"secured1", "00:01"⟩) = some app ∧
    run Mobile.step (.init app) es = some s ∧ s.Settled ∧ s.up = up ∧
    s.app.activeIpsecConnection = some connName ∧
    s.up ≠ s.app.activeIpsecConnection.toFinset

lemma misrecords_of_eval {es : List MobileEvent} {up : Finset String} {connName : String}
    (h : ((App.init guiConf (startOn ⟨"secured1", "00:01"⟩)).bind fun app =>
      (run Mobile.step (.init app) es).map fun s =>
        (decide s.Settled, s.up, s.app.activeIpsecConnection))
      = some (true, up, some connName)) (hne : up ≠ {connName}) : Misrecords es up connName := by
  obtain ⟨app, s, hinit, hrun, heq⟩ := exists_run h
  simp only [Prod.mk.injEq, decide_eq_true_eq] at heq
  obtain ⟨hsettled, hup, hactive⟩ := heq
  refine ⟨app, s, hinit, hrun, hsettled, hup, hactive, ?_⟩
  rw [hup, hactive]
  exact hne

/-- Two tunnels are up after the first run, where one is recorded, and none after the second. -/
theorem up_ne_active :
    Misrecords interruptedRun {"secured1", "mallorca_ned"} "mallorca_ned" ∧
      Misrecords restartedRun ∅ "secured1" := by
  refine ⟨misrecords_of_eval ?_ ?_, misrecords_of_eval ?_ ?_⟩
  all_goals decide +kernel

end SecuredApp
