import SecuredApp.Mobility.Atomic
import SecuredApp.Mobility.Tunnels

/-!
# The lock of the reports

`reportAPs` tests the lock and takes it in two statements, so any number of calls may pass the test
together. Here every statement of a call may also raise: from where the lock is taken on the
exception ends in the `finally` that releases it.
-/

namespace SecuredApp

open SecuredApp.Core

variable {s s' : Mobile} {call call' : ReportCall} {i : ℕ}

/-! ### Exceptions -/

/-- The statement that follows where a statement raises: the release of the lock, the `finally` of
the outer `try`, or none if that is what raised. Releasing a lock that is held does not raise. -/
def ReportCall.handler : ReportCall → Option ReportCall
  | .readWifilist | .testStop | .testLock | .acquire => some .testMigrating
  | .testMigrating | .testStopAgain | .arm => some .done
  | .release | .done => none
  | _ => some .release

/-- What the GUI goes on with when the call of `start` goes on with `call'` after an exception: one
that the call does not catch ends `start` too. -/
def GuiCall.raised (i : ℕ) (call' : ReportCall) : GuiCall → GuiCall
  | .report j login =>
    match call' with
    | .done => if j = i then .idle else .report j login
    | _ => .report j login
  | gui => gui

inductive RaisingEvent where
  | step (e : MobileEvent)
  | raise (i : ℕ) (app : App)                   -- the next statement of the call `i` raises

/-- A step of the program, or an exception in a call, before which its statement may have written
anything but the lock. -/
def Mobile.stepOrRaise (s : Mobile) : RaisingEvent → Option Mobile
  | .step e => s.step e
  | .raise i app =>
    if app.mobClient.lock = s.app.mobClient.lock then
      (s.reports[i]?.bind ReportCall.handler).map fun call' => { s with
        app := app
        reports := s.reports.set i call'
        gui := s.gui.raised i call' }
    else none

/-! ### The holder -/

/-- The lock is held by the call that is where it is held, or by none. -/
def Mobile.Held (s : Mobile) : Prop :=
  ∃ holder, HeldBy (fun call : ReportCall => call.locked = true) s.app.mobClient.lock s.reports
    holder

lemma Mobile.ReportStep.held (hstep : s.ReportStep call s' call') (h : s.Held)
    (hcall : s.reports[i]? = some call) :
    Mobile.Held { s' with reports := s.reports.set i call' } := by
  obtain ⟨holder, hheld⟩ := h
  cases hstep with
  | acquire hlock =>
    rw [hlock] at hheld
    exact ⟨some i, hheld.acquire hcall rfl⟩
  | release => exact ⟨none, hheld.release hcall rfl Bool.false_ne_true⟩
  | _ => exact ⟨holder, hheld.set hcall Iff.rfl⟩

lemma Mobile.Held.step {e : MobileEvent} (h : s.Held) (hstep : s.Step e s') : s'.Held := by
  cases hstep with
  | report hcall hreport => exact hreport.held h hcall
  | gui hgui hgstep => cases hgstep <;> exact h
  | fireReport =>
    obtain ⟨holder, hheld⟩ := h
    exact ⟨holder, hheld.concat Bool.false_ne_true⟩
  | @answer i env report hcall =>
    obtain ⟨holder, hheld⟩ := h
    have hlocked : (env.branch s.app report).locked = true := by
      rcases env.branch_cases s.app report with h | h | ⟨bssid, visits, h, -⟩
      all_goals
        rw [h]
        rfl
    exact ⟨holder, hheld.set hcall (iff_of_true hlocked rfl)⟩
  | fireScan | publish | scanned | scanFails | scanTests | scanArms | stopEnds => exact h
  | handled hcalls hidle hhandling =>
    obtain ⟨holder, hheld⟩ := h
    rw [← hhandling.keeps.lock] at hheld
    cases hhandling.handled with
    | start => exact ⟨holder, hheld.concat Bool.false_ne_true⟩
    | slot | test | close => exact ⟨holder, hheld⟩

/-- An exception leaves the lock with the call that holds it, which is to release it next. -/
lemma ReportCall.locked_handler (h : call.handler = some call') : call'.locked = call.locked := by
  cases call with
  | release | done => cases h
  | _ =>
    obtain rfl := Option.some.inj h
    rfl

lemma Mobile.Held.stepOrRaise {e : RaisingEvent} (h : s.Held) (hstep : s.stepOrRaise e = some s') :
    s'.Held := by
  cases e with
  | step e => exact h.step (Mobile.step_sound hstep)
  | raise i app =>
    rw [Mobile.stepOrRaise] at hstep
    split_ifs at hstep with hlock
    obtain ⟨call', hhandler, rfl⟩ := Option.map_eq_some_iff.mp hstep
    obtain ⟨call, hcall, hhandler⟩ := Option.bind_eq_some_iff.mp hhandler
    obtain ⟨holder, hheld⟩ := h
    rw [← hlock] at hheld
    have hlocked := ReportCall.locked_handler hhandler
    exact ⟨holder, hheld.set hcall (by rw [hlocked])⟩

lemma Mobile.held_init {app : App} (hfresh : app.Fresh) : (Mobile.init app).Held := by
  refine ⟨none, ?_⟩
  rw [Mobile.init, hfresh.lock]
  exact .nil

/-! ### What the lock gives -/

/-- The calls are served one by one: at most one is at its report or at a handover, the lock is held
exactly while one is, and a call that waits for it can take it, or its holder goes on to release it,
whatever the PSC answers. -/
structure Mobile.Serialised (s : Mobile) : Prop where
  one : ∀ (i j : ℕ) (call call' : ReportCall), s.reports[i]? = some call → call.locked = true →
    s.reports[j]? = some call' → call'.locked = true → i = j
  lock_iff : s.app.mobClient.lock = true ↔
    ∃ (i : ℕ) (call : ReportCall), s.reports[i]? = some call ∧ call.locked = true
  waits : ∀ i : ℕ, s.reports[i]? = some .acquire → (s.step (.report i)).isSome = true ∨
    ∃ (j : ℕ) (call : ReportCall), s.reports[j]? = some call ∧ call.locked = true ∧
      ∀ env, ∃ es s', (∀ e ∈ es, e.OfCall j env) ∧ run Mobile.step s es = some s' ∧
        s'.reports[j]? = some .done ∧ (s'.step (.report i)).isSome = true

/-- A call takes the lock while no other one holds it. -/
lemma Mobile.step_acquire (hcall : s.reports[i]? = some .acquire)
    (hlock : s.app.mobClient.lock = false) : (s.step (.report i)).isSome = true := by
  simp [Mobile.step, hcall, Mobile.reportStep, hlock]

/-- The holder goes on alone: it releases the lock, and the call that waits can take it. -/
lemma Mobile.Held.waits {j : ℕ} (h : s.Held) (hcall : s.reports[i]? = some .acquire)
    (hholder : s.reports[j]? = some call) (hlocked : call.locked = true) (env : ReportEnv) :
    ∃ es s', (∀ e ∈ es, e.OfCall j env) ∧ run Mobile.step s es = some s' ∧
      s'.reports[j]? = some .done ∧ (s'.step (.report i)).isSome = true := by
  have htake : s.CanTake call := by
    rintro rfl
    cases hlocked
  have hne : j ≠ i := by
    rintro rfl
    rw [hholder, Option.some.injEq] at hcall
    rw [hcall] at hlocked
    cases hlocked
  obtain ⟨es, s', hes, hrun, hdone⟩ := Mobile.exists_run_ofCall env hholder htake
  obtain ⟨call', hreports, -⟩ := Mobile.run_ofCall hes hholder hrun
  have hcall' : s'.reports[i]? = some .acquire := by
    rw [hreports, List.getElem?_set_ne hne]
    exact hcall
  refine ⟨es, s', hes, hrun, hdone, Mobile.step_acquire hcall' ?_⟩
  -- the holder has ended, and no other call held the lock
  obtain ⟨holder, hheld⟩ := h
  obtain ⟨holder', hheld'⟩ : s'.Held := by
    refine run_invariant (P := Mobile.Held) ⟨holder, hheld⟩ ?_ hrun
    intro s₁ e s₂ h₁ hstep
    exact h₁.step (Mobile.step_sound hstep)
  by_contra hlock
  obtain ⟨k, c, hk, hc⟩ := hheld'.lock_iff.mp (Bool.of_not_eq_false hlock)
  by_cases hkj : k = j
  · subst hkj
    rw [hdone, Option.some.injEq] at hk
    rw [← hk] at hc
    cases hc
  · rw [hreports, List.getElem?_set_ne (Ne.symm hkj)] at hk
    exact hkj (hheld.eq hk hc hholder hlocked)

lemma Mobile.Held.serialised (h : s.Held) : s.Serialised := by
  obtain ⟨holder, hheld⟩ := id h
  refine ⟨fun i j call call' hi hc hj hc' => hheld.eq hi hc hj hc', hheld.lock_iff, ?_⟩
  intro i hcall
  cases hlock : s.app.mobClient.lock with
  | false => exact .inl (Mobile.step_acquire hcall hlock)
  | true =>
    obtain ⟨j, call, hj, hlocked⟩ := hheld.lock_iff.mp hlock
    exact .inr ⟨j, call, hj, hlocked, h.waits hcall hj hlocked⟩

/-- In every run, with any number of calls of `reportAPs`, any order of their statements, any answer
of the PSC and any exception, the calls are served one by one. -/
theorem reports_serialised (config : RawConfigParser) (init : InitEnv) (app : App)
    (es : List RaisingEvent) (s : Mobile) (hinit : App.init config init = some app)
    (hrun : run Mobile.stepOrRaise (.init app) es = some s) : s.Serialised := by
  refine Mobile.Held.serialised ?_
  refine run_invariant (P := Mobile.Held) (Mobile.held_init (App.fresh_of_init hinit)) ?_ hrun
  intro s₁ e s₂ h hstep
  exact h.stepOrRaise hstep

/-- Two calls pass the test of the lock together; the first one takes it and the other waits. -/
def contention : List RaisingEvent :=
  ([.login "alice" aloneEnv, .report 0, .report 0, .report 0, .report 0, .gui,
    .publish 0 ⟨"secured1", "00:01"⟩ [⟨"secured1", 70, "00:01"⟩], .scanned 0, .scan 0, .scan 0,
    .gui, .fireReport, .report 1, .report 1, .report 1, .startMobility aloneEnv, .report 2,
    .report 2, .report 2, .report 1] : List MobileEvent).map .step

theorem reports_serialised_contention :
    ∃ app s, App.init guiConf (startOn ⟨"secured1", "00:01"⟩) = some app ∧
      run Mobile.stepOrRaise (.init app) contention = some s ∧
      s.app.mobClient.lock = true ∧ s.Serialised := by
  have hmap : ((App.init guiConf (startOn ⟨"secured1", "00:01"⟩)).bind fun app =>
      (run Mobile.stepOrRaise (.init app) contention).map fun s => s.app.mobClient.lock)
        = some true := by
    decide +kernel
  obtain ⟨app, s, hinit, hrun, hlock⟩ := exists_run hmap
  exact ⟨app, s, hinit, hrun, hlock, reports_serialised guiConf _ app _ s hinit hrun⟩

end SecuredApp
