import SecuredApp.Bus.Controller

/-!
# The job of a command

The job of a command is shared by the thread that waits, the thread that executes it, and whoever
raises an event or logs a message while its listener and its logger are registered. In every
interleaving of these it is freed once, after the last use.
-/

namespace SecuredApp

open SecuredApp.Core

/-! ### The references to the job -/

/-- The references that are held: by the calling thread, and by whoever executes the job. -/
def Control.holders (c : Control) : ℕ :=
  (if c.waiter = .finished then 0 else 1) +
    if c.callback = true ∧ c.waiter ≠ .refGet ∧ c.job ≠ .destroyed then 1 else 0

/-- What holds of a job in every run. -/
structure Control.Ok (c : Control) : Prop where
  refs : c.refcount = c.holders
  freed : c.freed = true ↔ c.refcount = 0
  fault : c.fault = false
  listening : c.listening = true → c.waiter ∈ [.queueJob, .waiting, .removeListener]
  logging : c.logging = true →
    c.waiter ∈ [.addListener, .queueJob, .waiting, .removeListener, .removeLogger]
  idle : c.job = .idle ↔ c.waiter ∈ [.refGet, .addLogger, .addListener, .queueJob]
  alone : c.callback = false →
    c.job ≠ .destroyed ∧ (c.waiter = .executing ∨ c.job = .executed ∧
      c.waiter ∈ [.read, .put, .finished])
  queued : c.callback = true → c.waiter ≠ .executing

lemma Control.ok_create (command : Command) (callback timeout : Bool) :
    (Control.create command callback timeout).Ok := by
  cases callback with
  | true => constructor <;> simp [Control.create, Control.holders]
  | false => constructor <;> simp [Control.create, Control.holders]

/-- The job that is used by the calling thread or by its own is not freed. -/
lemma Control.Ok.not_freed {c : Control} (h : c.Ok)
    (huse : c.waiter ≠ .finished ∨ c.callback = true ∧ c.job ∉ [.idle, .destroyed]) :
    c.freed = false := by
  rw [Bool.eq_false_iff, ne_eq, h.freed, h.refs, Control.holders]
  rcases huse with hwaiter | ⟨hcallback, hjob⟩
  · simp [hwaiter]
  · have hwaiter : c.waiter ≠ .refGet := by
      intro heq
      have hidle := h.idle.mpr (by simp [heq])
      simp [hidle] at hjob
    simp only [List.mem_cons, List.not_mem_nil, or_false, not_or] at hjob
    simp [hcallback, hwaiter, hjob.2]

/-- The invariant is about the threads and their references; a listener may go off the bus. -/
lemma Control.Ok.congr {c c' : Control} (h : c.Ok) (hwaiter : c'.waiter = c.waiter)
    (hjob : c'.job = c.job) (hcallback : c'.callback = c.callback)
    (hrefcount : c'.refcount = c.refcount) (hfreed : c'.freed = c.freed)
    (hfault : c'.fault = false) (hlistening : c'.listening = true → c.listening = true)
    (hlogging : c'.logging = true → c.logging = true) : c'.Ok where
  refs := by rw [hrefcount, h.refs, Control.holders, Control.holders, hwaiter, hjob, hcallback]
  freed := by rw [hfreed, hrefcount, h.freed]
  fault := hfault
  listening hc := hwaiter ▸ h.listening (hlistening hc)
  logging hc := hwaiter ▸ h.logging (hlogging hc)
  idle := by rw [hjob, hwaiter, h.idle]
  alone hc := by
    rw [hjob, hwaiter]
    exact h.alone (hcallback ▸ hc)
  queued hc := hwaiter ▸ h.queued (hcallback ▸ hc)

/-- What the job does before it is executed. -/
lemma Control.Ok.setJob {c c' : Control} (h : c.Ok)
    (hbefore : c.job ∈ [.queued, .running, .posting])
    (hafter : c'.job ∈ [.running, .posting, .executed]) (hwaiter : c'.waiter = c.waiter)
    (hcallback : c'.callback = c.callback) (hrefcount : c'.refcount = c.refcount)
    (hfreed : c'.freed = c.freed) (hfault : c'.fault = false)
    (hlistening : c'.listening = c.listening) (hlogging : c'.logging = c.logging) : c'.Ok := by
  have hidle : c.job ≠ .idle := by
    intro heq
    simp [heq] at hbefore
  have hidle' : c'.job ≠ .idle := by
    intro heq
    simp [heq] at hafter
  have hlive : c.job ≠ .destroyed := by
    intro heq
    simp [heq] at hbefore
  have hlive' : c'.job ≠ .destroyed := by
    intro heq
    simp [heq] at hafter
  refine ⟨?_, ?_, hfault, ?_, ?_, ?_, ?_, ?_⟩
  · rw [hrefcount, h.refs, Control.holders, Control.holders, hwaiter, hcallback]
    simp [hlive, hlive']
  · rw [hfreed, hrefcount, h.freed]
  · rw [hlistening, hwaiter]
    exact h.listening
  · rw [hlogging, hwaiter]
    exact h.logging
  · rw [hwaiter]
    exact ⟨fun heq => absurd heq hidle', fun hmem => absurd (h.idle.mpr hmem) hidle⟩
  · intro hc
    refine ⟨hlive', ?_⟩
    rcases (h.alone (hcallback ▸ hc)).2 with hexec | ⟨hjob, -⟩
    · exact Or.inl (hwaiter.trans hexec)
    · simp [hjob] at hbefore
  · rw [hcallback, hwaiter]
    exact h.queued

/-- Dropping one of the references that are held. -/
lemma Control.Ok.destroyJob_freed {c : Control} (h : c.Ok) (hpos : 0 < c.refcount) :
    c.destroyJob.freed = true ↔ c.destroyJob.refcount = 0 := by
  have hfreed : c.freed = false := by
    rw [Bool.eq_false_iff, ne_eq, h.freed]
    omega
  simp only [Control.destroyJob, hfreed, Bool.false_or, decide_eq_true_eq]
  omega

lemma Control.Ok.step_next {c c' : Control} (h : c.Ok) (hact : c.next = some c') :
    c.freed = false ∧ c'.Ok := by
  have hfinished : c.waiter ≠ .finished := by
    intro heq
    simp [Control.next, heq] at hact
  have hfreed := h.not_freed (Or.inl hfinished)
  refine ⟨hfreed, ?_⟩
  rw [Control.next] at hact
  by_cases hput : c.waiter = .put
  · -- the calling thread drops its reference
    simp only [hput, Option.some.injEq] at hact
    subst hact
    have hrefs := h.refs
    rw [Control.holders, if_neg hfinished] at hrefs
    have hdrop := h.destroyJob_freed (by omega)
    obtain ⟨-, -, hfault, hlistening, hlogging, hidle, halone, hqueued⟩ := h
    refine ⟨?_, hdrop, hfault, ?_, ?_, ?_, ?_, ?_⟩
    · simp only [Control.destroyJob, Control.holders, if_true]
      simp [hput] at hrefs ⊢
      omega
    all_goals simp_all [Control.destroyJob]
  · obtain ⟨hrefs, hfreed', hfault, hlistening, hlogging, hidle, halone, hqueued⟩ := h
    cases hwaiter : c.waiter <;> simp only [hwaiter] at hact
    all_goals try split_ifs at hact
    all_goals try cases hact
    all_goals constructor <;> simp_all [Control.holders]

lemma Control.Ok.stopWaiting {c c' : Control} (h : c.Ok) (hact : c.stopWaiting = some c') :
    c.freed = false ∧ c'.Ok := by
  rw [Control.stopWaiting] at hact
  split_ifs at hact with hwaiter
  cases hact
  refine ⟨h.not_freed (Or.inl (by simp [hwaiter])), ?_⟩
  obtain ⟨hrefs, hfreed', hfault, hlistening, hlogging, hidle, halone, hqueued⟩ := h
  constructor <;> simp_all [Control.holders]

/-- A hook of the listener changes its status and its semaphore, and whether it stays. -/
lemma Control.Ok.heard {c : Control} (h : c.Ok) (hlistening : c.listening = true)
    {c' : Control × Bool} (hc : ∃ status done, c'.1 = { c with status := status, done := done }) :
    c.freed = false ∧ (Control.heard c').Ok := by
  have hmem := h.listening hlistening
  have hfinished : c.waiter ≠ .finished := by
    intro heq
    simp [heq] at hmem
  refine ⟨h.not_freed (Or.inl hfinished), ?_⟩
  obtain ⟨c₁, keep⟩ := c'
  obtain ⟨status, done, rfl⟩ := hc
  exact h.congr rfl rfl rfl rfl rfl h.fault (fun _ => hlistening) id

lemma Control.ikeStateChange_frame (c : Control) (ikeSa : ℕ) (state current : IkeState) :
    ∃ status done, (c.ikeStateChange ikeSa state current).1
      = { c with status := status, done := done } := by
  unfold Control.ikeStateChange
  by_cases hsa : c.ikeSa = some ikeSa
  · rw [if_pos hsa]
    cases state with
    | destroying =>
      by_cases hcurrent : current = .deleting
      · exact ⟨.success, _, by rw [hcurrent]; rfl⟩
      · exact ⟨c.status, _, by simp only [if_neg hcurrent]; rfl⟩
    | _ => exact ⟨_, _, rfl⟩
  · rw [if_neg hsa]
    exact ⟨_, _, rfl⟩

lemma Control.childStateChange_frame (c : Control) (ikeSa : ℕ) (state current : ChildState) :
    ∃ status done, (c.childStateChange ikeSa state current).1
      = { c with status := status, done := done } := by
  unfold Control.childStateChange
  by_cases hsa : c.ikeSa = some ikeSa
  · rw [if_pos hsa]
    cases state with
    | installed => exact ⟨.success, _, rfl⟩
    | destroying =>
      cases current with
      | created =>
        by_cases hstatus : c.status = .needMore
        · exact ⟨.failed, c.done, by simp only [if_pos hstatus]⟩
        · exact ⟨c.status, _, by simp only [if_neg hstatus]; rfl⟩
      | deleting => exact ⟨.success, _, rfl⟩
      | retrying => exact ⟨.needMore, c.done, rfl⟩
      | _ => exact ⟨c.status, _, rfl⟩
    | _ => exact ⟨c.status, c.done, rfl⟩
  · rw [if_neg hsa]
    exact ⟨_, _, rfl⟩

/-- The thread that executes the job has it. -/
lemma Control.Ok.not_freed_of_job {c : Control} (h : c.Ok)
    (hjob : c.job ∈ [.queued, .running, .posting]) : c.freed = false := by
  cases hcallback : c.callback with
  | true =>
    refine h.not_freed (Or.inr ⟨hcallback, fun hmem => ?_⟩)
    simp only [List.mem_cons, List.not_mem_nil, or_false] at hjob hmem
    rcases hmem with heq | heq
    · simp [heq] at hjob
    · simp [heq] at hjob
  | false =>
    refine h.not_freed (Or.inl fun hwaiter => ?_)
    rcases (h.alone hcallback).2 with hexec | ⟨heq, -⟩
    · rw [hwaiter] at hexec
      cases hexec
    · simp [heq] at hjob

/-- The reference of a job that is not executed any more is dropped. -/
lemma Control.Ok.destroyJob {c : Control} (h : c.Ok) (hcallback : c.callback = true)
    (hjob : c.job = .queued ∨ c.job = .executed) :
    c.freed = false ∧ Control.Ok { c.destroyJob with job := .destroyed } := by
  have hlive : c.job ∉ [JobPhase.idle, .destroyed] := by
    rcases hjob with heq | heq
    · simp [heq]
    · simp [heq]
  refine ⟨h.not_freed (Or.inr ⟨hcallback, hlive⟩), ?_⟩
  have hwaiter : c.waiter ≠ .refGet := by
    intro heq
    exact hlive (by simp [h.idle.mpr (by simp [heq])])
  have hidle : c.waiter ∉ [Waiter.refGet, .addLogger, .addListener, .queueJob] := by
    rw [← h.idle]
    intro heq
    exact hlive (by simp [heq])
  have hrefs := h.refs
  simp only [List.mem_cons, List.not_mem_nil, or_false, not_or] at hlive
  have hheld : c.callback = true ∧ c.waiter ≠ .refGet ∧ c.job ≠ .destroyed :=
    ⟨hcallback, hwaiter, hlive.2⟩
  rw [Control.holders, if_pos hheld] at hrefs
  refine ⟨?_, h.destroyJob_freed (by omega), h.fault, h.listening, h.logging, ?_, ?_, h.queued⟩
  · simp [Control.destroyJob, Control.holders, hrefs]
  · exact ⟨fun heq => (by cases heq), fun hmem => absurd hmem hidle⟩
  · intro hc
    have hcallback' : c.callback = false := hc
    rw [hcallback] at hcallback'
    cases hcallback'

lemma Control.Ok.act {c c' : Control} {op : ControlOp} (h : c.Ok) (hact : c.act op = some c') :
    c.freed = false ∧ c'.Ok := by
  cases op with
  | next => exact h.step_next hact
  | wake =>
    simp only [Control.act] at hact
    split_ifs at hact
    have hc : Control.Ok { c with done := c.done.map (· - 1) } :=
      h.congr rfl rfl rfl rfl rfl h.fault id id
    exact hc.stopWaiting hact
  | timeout =>
    simp only [Control.act] at hact
    split_ifs at hact
    have hc : Control.Ok { c with timedOut := true } := h.congr rfl rfl rfl rfl rfl h.fault id id
    exact hc.stopWaiting hact
  | cancel =>
    have hc : Control.Ok { c with cancelled := true } := h.congr rfl rfl rfl rfl rfl h.fault id id
    exact hc.stopWaiting hact
  | checkout ikeSa =>
    simp only [Control.act] at hact
    split_ifs at hact with hjob
    cases hact
    have hbefore : c.job ∈ [JobPhase.queued, .running, .posting] := by simp [hjob]
    refine ⟨h.not_freed_of_job hbefore, ?_⟩
    cases ikeSa with
    | none => exact h.setJob hbefore (by simp [Control.checkout]) rfl rfl rfl rfl h.fault rfl rfl
    | some ikeSa =>
      exact h.setJob hbefore (by simp [Control.checkout]) rfl rfl rfl rfl h.fault rfl rfl
  | routed =>
    simp only [Control.act] at hact
    split_ifs at hact with hjob
    cases hact
    have hbefore : c.job ∈ [JobPhase.queued, .running, .posting] := by simp [hjob.1]
    exact ⟨h.not_freed_of_job hbefore,
      h.setJob hbefore (by simp [Control.routed]) rfl rfl rfl rfl h.fault rfl rfl⟩
  | finish good =>
    simp only [Control.act] at hact
    split_ifs at hact with hjob
    cases hact
    have hbefore : c.job ∈ [JobPhase.queued, .running, .posting] := by simp [hjob]
    exact ⟨h.not_freed_of_job hbefore,
      h.setJob hbefore (by simp [Control.finish]) rfl rfl rfl rfl h.fault rfl rfl⟩
  | post =>
    simp only [Control.act] at hact
    split_ifs at hact with hjob
    cases hact
    have hbefore : c.job ∈ [JobPhase.queued, .running, .posting] := by simp [hjob]
    exact ⟨h.not_freed_of_job hbefore, h.setJob hbefore (by simp) rfl rfl rfl rfl h.fault rfl rfl⟩
  | destroyJob =>
    simp only [Control.act] at hact
    split_ifs at hact with hjob
    cases hact
    exact h.destroyJob hjob.1 hjob.2
  | ikeEvent ikeSa state current =>
    simp only [Control.act] at hact
    split_ifs at hact with hlistening
    cases hact
    exact h.heard hlistening (c.ikeStateChange_frame ikeSa state current)
  | childEvent ikeSa state current =>
    simp only [Control.act] at hact
    split_ifs at hact with hlistening
    cases hact
    exact h.heard hlistening (c.childStateChange_frame ikeSa state current)
  | log ikeSa answer =>
    simp only [Control.act] at hact
    split_ifs at hact with hlogging
    cases hact
    have hmem := h.logging hlogging
    have hfinished : c.waiter ≠ .finished := by
      intro heq
      simp [heq] at hmem
    refine ⟨h.not_freed (Or.inl hfinished), ?_⟩
    rw [Control.listenerLog]
    split_ifs
    · exact h.congr rfl rfl rfl rfl rfl h.fault id id
    · exact h

lemma Control.Ok.step {c c' : Control} {op : ControlOp} (h : c.Ok) (hstep : c.step op = some c') :
    c'.Ok := by
  obtain ⟨c₁, hact, rfl⟩ := Option.map_eq_some_iff.mp hstep
  obtain ⟨hfreed, hc₁⟩ := h.act hact
  exact hc₁.congr rfl rfl rfl rfl rfl (by simp [h.fault, hfreed]) id id

/-- A CHILD_SA is initiated and installed while the calling thread waits for it. -/
def installedOps : List ControlOp :=
  [.next, .next, .next, .next, .checkout (some 1), .childEvent 1 .installed .created,
    .finish true, .wake, .next, .destroyJob, .next, .next, .next, .next]

/-- In every run of a command, whatever threads come in between, its job is used by nobody after it
is freed, it is not freed while its listener or its logger is registered, and it is freed once the
calling thread and the one that executed it are through with it. -/
theorem Control.job_safe {command : Command} {callback timeout : Bool} {ops : List ControlOp}
    {c : Control} (hrun : run Control.step (.create command callback timeout) ops = some c) :
    c.fault = false ∧ (c.listening = true ∨ c.logging = true → c.freed = false) ∧
      (c.freed = true ↔ c.waiter = .finished ∧ (c.callback = true → c.job = .destroyed)) := by
  have h : c.Ok := run_invariant (Control.ok_create command callback timeout)
    (fun _ _ _ hok hstep => hok.step hstep) hrun
  refine ⟨h.fault, ?_, ?_⟩
  · intro hregistered
    refine h.not_freed (Or.inl fun heq => ?_)
    rcases hregistered with hlistening | hlogging
    · simpa [heq] using h.listening hlistening
    · simpa [heq] using h.logging hlogging
  · rw [h.freed, h.refs, Control.holders]
    by_cases hfinished : c.waiter = .finished
    · simp [hfinished]
    · simp [hfinished]

/-- A CHILD_SA that is initiated and installed, by a thread that waits for it. -/
theorem Control.job_safe_installed :
    ∃ c, run Control.step (.create .initiate true false) installedOps = some c ∧
      c.fault = false ∧ (c.listening = true ∨ c.logging = true → c.freed = false) ∧
      (c.freed = true ↔ c.waiter = .finished ∧ (c.callback = true → c.job = .destroyed)) := by
  obtain ⟨c, hrun⟩ := Option.isSome_iff_exists.mp
    (show (run Control.step (.create .initiate true false) installedOps).isSome by decide)
  exact ⟨c, hrun, Control.job_safe hrun⟩

end SecuredApp
