import SecuredApp.Bus.Commands

/-!
# What a command of the controller returns

The thread that waits for a command wakes up once its job or an event of the IKE_SA says so, and
the status it then returns tells what happened, whichever threads come in between.
-/

namespace SecuredApp

open SecuredApp.Core

/-! ### What the result tells -/

/-- The events of the IKE_SA that make a command a success, whichever command it is. -/
def ControlOp.Succeeds (ikeSa : ℕ) (op : ControlOp) : Prop :=
  op = .ikeEvent ikeSa .destroying .deleting ∨
    (∃ current, op = .childEvent ikeSa .installed current) ∨
    op = .childEvent ikeSa .destroying .deleting

/-- What has happened when a command with a callback has the status. -/
def Status.Told (command : Command) (ops : List ControlOp) : Status → Prop
  | .success => ∃ ikeSa op, op.Succeeds ikeSa ∧ [.checkout (some ikeSa), op].Sublist ops
  | .failed => True
  | .outOfRes => .timeout ∈ ops
  | .notFound => .checkout none ∈ ops ∧ command ≠ .initiate ∨
      .routed ∈ ops ∧ command = .terminateChild
  | .needMore => .log none false ∈ ops ∨ ∃ ikeSa,
      [.checkout (some ikeSa), .log (some ikeSa) false].Sublist ops ∨
      [.checkout (some ikeSa), .childEvent ikeSa .destroying .retrying].Sublist ops

lemma Status.Told.concat {command : Command} {ops : List ControlOp} {status : Status}
    (h : status.Told command ops) (op : ControlOp) : status.Told command (ops ++ [op]) := by
  have hsub : ops.Sublist (ops ++ [op]) := List.sublist_append_left ops [op]
  cases status with
  | success =>
    obtain ⟨ikeSa, op', hop', hops⟩ := h
    exact ⟨ikeSa, op', hop', hops.trans hsub⟩
  | failed => trivial
  | outOfRes => exact hsub.subset h
  | notFound => exact h.imp (And.imp_left (hsub.subset ·)) (And.imp_left (hsub.subset ·))
  | needMore =>
    refine h.imp (hsub.subset ·) ?_
    rintro ⟨ikeSa, hops⟩
    exact ⟨ikeSa, hops.imp (·.trans hsub) (·.trans hsub)⟩

/-- What a command has been told in a run. -/
structure Control.Tells (command : Command) (ops : List ControlOp) (c : Control) : Prop where
  command_eq : c.command = command
  callback : c.callback = true
  status : c.status.Told command ops
  result : ∀ status, c.result = some status → status.Told command ops
  ikeSa : ∀ ikeSa, c.ikeSa = some ikeSa → .checkout (some ikeSa) ∈ ops
  timedOut : c.timedOut = true → .timeout ∈ ops

/-- A step that changes no more than the status, and tells why. -/
lemma Control.Tells.concat {command : Command} {ops : List ControlOp} {c c' : Control}
    (h : c.Tells command ops) {op : ControlOp} (hcommand : c'.command = c.command)
    (hcallback : c'.callback = c.callback)
    (hstatus : c'.status = c.status ∨ c'.status.Told command (ops ++ [op]))
    (hresult : c'.result = c.result ∨ c'.result = some c.status)
    (hikeSa : ∀ ikeSa, c'.ikeSa = some ikeSa → c.ikeSa = some ikeSa ∨ op = .checkout (some ikeSa))
    (htimedOut : c'.timedOut = true → c.timedOut = true ∨ op = .timeout) :
    c'.Tells command (ops ++ [op]) where
  command_eq := hcommand.trans h.command_eq
  callback := hcallback.trans h.callback
  status := by
    rcases hstatus with heq | htold
    · rw [heq]
      exact h.status.concat op
    · exact htold
  result status heq := by
    rcases hresult with hresult | hresult
    · exact (h.result status (hresult ▸ heq)).concat op
    · rw [hresult, Option.some.injEq] at heq
      exact heq ▸ h.status.concat op
  ikeSa ikeSa heq := by
    rcases hikeSa ikeSa heq with hold | rfl
    · exact List.mem_append_left _ (h.ikeSa ikeSa hold)
    · exact List.mem_append_right _ (List.mem_singleton_self _)
  timedOut heq := by
    rcases htimedOut heq with hold | rfl
    · exact List.mem_append_left _ (h.timedOut hold)
    · exact List.mem_append_right _ (List.mem_singleton_self _)

lemma Control.Tells.step_next {command : Command} {ops : List ControlOp} {c c' : Control}
    (h : c.Tells command ops) (hact : c.next = some c') : c'.Tells command (ops ++ [.next]) := by
  rw [Control.next] at hact
  cases hwaiter : c.waiter with
  | settle =>
    simp only [hwaiter, Option.some.injEq] at hact
    subst hact
    refine h.concat rfl rfl ?_ (Or.inl rfl) (fun _ => Or.inl) Or.inl
    by_cases htimedOut : c.timedOut = true
    · right
      simp only [htimedOut, if_true]
      exact List.mem_append_left _ (h.timedOut htimedOut)
    · left
      simp only [if_neg htimedOut]
  | read =>
    simp only [hwaiter, Option.some.injEq] at hact
    subst hact
    exact h.concat rfl rfl (Or.inl rfl) (Or.inr rfl) (fun _ => Or.inl) Or.inl
  | executing =>
    simp only [hwaiter] at hact
    split_ifs at hact
    cases hact
    exact h.concat rfl rfl (Or.inl rfl) (Or.inl rfl) (fun _ => Or.inl) Or.inl
  | waiting =>
    simp only [hwaiter] at hact
    cases hact
  | finished =>
    simp only [hwaiter] at hact
    cases hact
  | _ =>
    simp only [hwaiter, Option.some.injEq] at hact
    subst hact
    exact h.concat rfl rfl (Or.inl rfl) (Or.inl rfl) (fun _ => Or.inl) Or.inl

/-- The wait ends with nothing changed but the semaphore, or with the time up. -/
lemma Control.Tells.stopWaiting {command : Command} {ops : List ControlOp} {c c₁ c' : Control}
    (h : c.Tells command ops) {op : ControlOp}
    (hc₁ : ∃ done timedOut cancelled, c₁ =
      { c with done := done, timedOut := timedOut, cancelled := cancelled } ∧
      (timedOut = true → c.timedOut = true ∨ op = .timeout))
    (hact : c₁.stopWaiting = some c') : c'.Tells command (ops ++ [op]) := by
  obtain ⟨done, timedOut, cancelled, rfl, htimedOut⟩ := hc₁
  rw [Control.stopWaiting] at hact
  split_ifs at hact
  cases hact
  exact h.concat rfl rfl (Or.inl rfl) (Or.inl rfl) (fun _ => Or.inl) htimedOut

lemma Control.Tells.ikeEvent {command : Command} {ops : List ControlOp} {c : Control}
    (h : c.Tells command ops) (ikeSa : ℕ) (state current : IkeState) :
    (Control.heard (c.ikeStateChange ikeSa state current)).Tells command
      (ops ++ [.ikeEvent ikeSa state current]) := by
  unfold Control.ikeStateChange
  by_cases hsa : c.ikeSa = some ikeSa
  · rw [if_pos hsa]
    cases state with
    | destroying =>
      by_cases hcurrent : current = .deleting
      · simp only [if_pos hcurrent]
        refine h.concat rfl rfl (Or.inr ?_) (Or.inl rfl) (fun _ => Or.inl) Or.inl
        exact ⟨ikeSa, _, Or.inl (by rw [hcurrent]), sublist_concat_of_mem (h.ikeSa ikeSa hsa) _⟩
      · simp only [if_neg hcurrent]
        exact h.concat rfl rfl (Or.inl rfl) (Or.inl rfl) (fun _ => Or.inl) Or.inl
    | _ => exact h.concat rfl rfl (Or.inl rfl) (Or.inl rfl) (fun _ => Or.inl) Or.inl
  · rw [if_neg hsa]
    exact h.concat rfl rfl (Or.inl rfl) (Or.inl rfl) (fun _ => Or.inl) Or.inl

lemma Control.Tells.childEvent {command : Command} {ops : List ControlOp} {c : Control}
    (h : c.Tells command ops) (ikeSa : ℕ) (state current : ChildState) :
    (Control.heard (c.childStateChange ikeSa state current)).Tells command
      (ops ++ [.childEvent ikeSa state current]) := by
  unfold Control.childStateChange
  by_cases hsa : c.ikeSa = some ikeSa
  · rw [if_pos hsa]
    have hops := sublist_concat_of_mem (h.ikeSa ikeSa hsa) (.childEvent ikeSa state current)
    cases state with
    | installed =>
      refine h.concat rfl rfl (Or.inr ?_) (Or.inl rfl) (fun _ => Or.inl) Or.inl
      exact ⟨ikeSa, _, Or.inr (Or.inl ⟨current, rfl⟩), hops⟩
    | destroying =>
      cases current with
      | deleting =>
        refine h.concat rfl rfl (Or.inr ?_) (Or.inl rfl) (fun _ => Or.inl) Or.inl
        exact ⟨ikeSa, _, Or.inr (Or.inr rfl), hops⟩
      | retrying =>
        exact h.concat rfl rfl (Or.inr (Or.inr ⟨ikeSa, Or.inr hops⟩)) (Or.inl rfl)
          (fun _ => Or.inl) Or.inl
      | created =>
        by_cases hstatus : c.status = .needMore
        · simp only [if_pos hstatus]
          exact h.concat rfl rfl (Or.inr trivial) (Or.inl rfl) (fun _ => Or.inl) Or.inl
        · simp only [if_neg hstatus]
          exact h.concat rfl rfl (Or.inl rfl) (Or.inl rfl) (fun _ => Or.inl) Or.inl
      | _ => exact h.concat rfl rfl (Or.inl rfl) (Or.inl rfl) (fun _ => Or.inl) Or.inl
    | _ => exact h.concat rfl rfl (Or.inl rfl) (Or.inl rfl) (fun _ => Or.inl) Or.inl
  · rw [if_neg hsa]
    exact h.concat rfl rfl (Or.inl rfl) (Or.inl rfl) (fun _ => Or.inl) Or.inl

lemma Control.Tells.log {command : Command} {ops : List ControlOp} {c : Control}
    (h : c.Tells command ops) (ikeSa : Option ℕ) (answer : Bool) :
    (c.listenerLog ikeSa answer).Tells command (ops ++ [.log ikeSa answer]) := by
  rw [Control.listenerLog]
  split_ifs with hlog
  · obtain ⟨hsa, rfl⟩ := hlog
    refine h.concat rfl rfl (Or.inr ?_) (Or.inl rfl) (fun _ => Or.inl) Or.inl
    cases ikeSa with
    | none => exact Or.inl (List.mem_append_right _ (List.mem_singleton_self _))
    | some ikeSa =>
      exact Or.inr ⟨ikeSa, Or.inl (sublist_concat_of_mem (h.ikeSa ikeSa hsa) _)⟩
  · exact h.concat rfl rfl (Or.inl rfl) (Or.inl rfl) (fun _ => Or.inl) Or.inl

lemma Control.Tells.act {command : Command} {ops : List ControlOp} {c c' : Control}
    {op : ControlOp} (h : c.Tells command ops) (hact : c.act op = some c') :
    c'.Tells command (ops ++ [op]) := by
  cases op with
  | next => exact h.step_next hact
  | wake =>
    simp only [Control.act] at hact
    split_ifs at hact
    exact h.stopWaiting ⟨_, _, _, rfl, Or.inl⟩ hact
  | timeout =>
    simp only [Control.act] at hact
    split_ifs at hact
    exact h.stopWaiting ⟨_, _, _, rfl, fun _ => Or.inr rfl⟩ hact
  | cancel => exact h.stopWaiting ⟨_, _, _, rfl, Or.inl⟩ hact
  | checkout ikeSa =>
    simp only [Control.act] at hact
    split_ifs at hact
    cases hact
    cases ikeSa with
    | none =>
      refine h.concat rfl rfl (Or.inr ?_) (Or.inl rfl) (fun _ => Or.inl) Or.inl
      simp only [Control.checkout, h.command_eq]
      split_ifs with hcommand
      · trivial
      · exact Or.inl ⟨List.mem_append_right _ (List.mem_singleton_self _), hcommand⟩
    | some ikeSa =>
      refine h.concat rfl rfl (Or.inl rfl) (Or.inl rfl) (fun ikeSa' heq => Or.inr ?_) Or.inl
      cases heq
      rfl
  | routed =>
    simp only [Control.act] at hact
    split_ifs at hact with hjob
    cases hact
    refine h.concat rfl rfl (Or.inr ?_) (Or.inl rfl) (fun _ => Or.inl) Or.inl
    exact Or.inr ⟨List.mem_append_right _ (List.mem_singleton_self _),
      h.command_eq.symm.trans hjob.2⟩
  | finish good =>
    simp only [Control.act] at hact
    split_ifs at hact
    cases hact
    refine h.concat rfl rfl ?_ (Or.inl rfl) (fun _ => Or.inl) Or.inl
    -- with a callback, a job that went well leaves the status to the listener
    cases good with
    | true => exact Or.inl (by simp [Control.finish, h.callback])
    | false => exact Or.inr trivial
  | post =>
    simp only [Control.act] at hact
    split_ifs at hact
    cases hact
    exact h.concat rfl rfl (Or.inl rfl) (Or.inl rfl) (fun _ => Or.inl) Or.inl
  | destroyJob =>
    simp only [Control.act] at hact
    split_ifs at hact
    cases hact
    exact h.concat rfl rfl (Or.inl rfl) (Or.inl rfl) (fun _ => Or.inl) Or.inl
  | ikeEvent ikeSa state current =>
    simp only [Control.act] at hact
    split_ifs at hact
    cases hact
    exact h.ikeEvent ikeSa state current
  | childEvent ikeSa state current =>
    simp only [Control.act] at hact
    split_ifs at hact
    cases hact
    exact h.childEvent ikeSa state current
  | log ikeSa answer =>
    simp only [Control.act] at hact
    split_ifs at hact
    cases hact
    exact h.log ikeSa answer

lemma Control.tells_create (command : Command) (timeout : Bool) :
    (Control.create command true timeout).Tells command [] where
  command_eq := rfl
  callback := rfl
  status := trivial
  result _ heq := by cases heq
  ikeSa _ heq := by cases heq
  timedOut heq := by cases heq

/-- Whatever comes in between, a command with a callback returns a success only after the IKE_SA
it checked out had a CHILD_SA installed or deleted, or was deleted itself; that nothing was found
only if the look-up failed or the CHILD_SA was routed; that it ran out of time only if it did; and
that more is needed only if a message was refused or a CHILD_SA was to be tried again. -/
theorem Control.run_result {command : Command} {timeout : Bool} {ops : List ControlOp}
    {c : Control} {status : Status}
    (hrun : run Control.step (.create command true timeout) ops = some c)
    (hresult : c.result = some status) : status.Told command ops := by
  have h : c.Tells command ops := by
    refine run_induction (P := fun ops c => c.Tells command ops)
      (Control.tells_create command timeout) ?_ hrun
    intro ops c₁ op c₂ _ htells hstep
    obtain ⟨c₃, hact, rfl⟩ := Option.map_eq_some_iff.mp hstep
    obtain ⟨hcommand, hcallback, hstatus, hres, hikeSa, htimedOut⟩ := htells.act hact
    exact ⟨hcommand, hcallback, hstatus, hres, hikeSa, htimedOut⟩
  exact h.result status hresult

/-- A CHILD_SA that was installed, as its initiator is told. -/
theorem Control.run_result_installed :
    ∃ c, run Control.step (.create .initiate true false) installedOps = some c ∧
      c.result = some .success ∧ Status.Told .initiate installedOps .success := by
  obtain ⟨c, hrun⟩ := Option.isSome_iff_exists.mp
    (show (run Control.step (.create .initiate true false) installedOps).isSome by decide)
  have hresult : ((run Control.step (.create .initiate true false) installedOps).bind
      Control.result) = some .success := by decide
  rw [hrun] at hresult
  exact ⟨c, hrun, hresult, Control.run_result hrun hresult⟩

/-! ### What wakes the calling thread -/

/-- The events and messages of the IKE_SA after which the wait for it is over. -/
def ControlOp.Ends (ikeSa : ℕ) (op : ControlOp) : Prop :=
  (∃ current, op = .ikeEvent ikeSa .destroying current) ∨
    (∃ current, op = .childEvent ikeSa .installed current) ∨
    (∃ current ∉ [ChildState.retrying, .created], op = .childEvent ikeSa .destroying current) ∨
    op = .log (some ikeSa) false

/-- What has happened in a run as far as it concerns the semaphore. -/
structure Control.Wakes (ops : List ControlOp) (c : Control) : Prop where
  sem : c.waiter ∈ [.addLogger, .addListener, .queueJob, .waiting] → c.done ≠ none
  logging : c.waiter ∈ [.addListener, .queueJob, .waiting] → c.logging = true
  listening : c.waiter = .queueJob → c.listening = true
  fresh : c.job ∈ [.idle, .queued] → .post ∉ ops ∧ ∀ ikeSa, .checkout ikeSa ∉ ops
  target : c.job ∈ [.idle, .queued] → c.ikeSa = none
  found : ∀ ikeSa, .checkout (some ikeSa) ∈ ops → c.ikeSa = some ikeSa
  missed : c.ikeSa = none → c.job ∉ [.idle, .queued, .posting] →
    .post ∈ ops ∨ c.job = .destroyed ∧ ∀ ikeSa, .checkout ikeSa ∉ ops
  woken : c.waiter = .waiting → c.done = some 0 →
    c.listening = true ∧ .post ∉ ops ∧
      ∀ ikeSa op, op.Ends ikeSa → ¬ [.checkout (some ikeSa), op].Sublist ops

/-- A step that is not one of the job. -/
lemma Control.Wakes.concat {ops : List ControlOp} {c c' : Control} (h : c.Wakes ops)
    {op : ControlOp} (hpost : op ≠ .post) (hcheckout : ∀ ikeSa, op ≠ .checkout ikeSa)
    (hjob : c'.job = c.job ∨ c'.job = .queued ∧ c.job = .idle) (hikeSa : c'.ikeSa = c.ikeSa)
    (hsem : c'.waiter ∈ [.addLogger, .addListener, .queueJob, .waiting] → c'.done ≠ none)
    (hlogging : c'.waiter ∈ [.addListener, .queueJob, .waiting] → c'.logging = true)
    (hlistening : c'.waiter = .queueJob → c'.listening = true)
    (hwoken : c'.waiter = .waiting → c'.done = some 0 →
      c'.listening = true ∧ .post ∉ ops ∧
        (∀ ikeSa op', op'.Ends ikeSa → ¬ [.checkout (some ikeSa), op'].Sublist ops) ∧
        ∀ ikeSa, .checkout (some ikeSa) ∈ ops → ¬ op.Ends ikeSa) :
    c'.Wakes (ops ++ [op]) := by
  have hmem : ∀ ikeSa, .checkout ikeSa ∈ ops ++ [op] ↔ .checkout ikeSa ∈ ops := by
    intro ikeSa
    simp [(hcheckout ikeSa).symm]
  have hmem' : .post ∈ ops ++ [op] ↔ .post ∈ ops := by
    simp [hpost.symm]
  refine ⟨hsem, hlogging, hlistening, ?_, ?_, ?_, ?_, ?_⟩
  · intro hfresh
    rw [hmem']
    simp only [hmem]
    refine h.fresh ?_
    rcases hjob with heq | ⟨-, heq⟩
    · exact heq ▸ hfresh
    · simp [heq]
  · intro hfresh
    rw [hikeSa]
    refine h.target ?_
    rcases hjob with heq | ⟨-, heq⟩
    · exact heq ▸ hfresh
    · simp [heq]
  · intro ikeSa hops
    rw [hikeSa]
    exact h.found ikeSa ((hmem _).mp hops)
  · rw [hikeSa, hmem']
    simp only [hmem]
    rcases hjob with heq | ⟨heq, -⟩
    · rw [heq]
      exact h.missed
    · simp [heq]
  · intro hwaiter hdone
    obtain ⟨hlisten, hnopost, hnone, hlast⟩ := hwoken hwaiter hdone
    refine ⟨hlisten, fun hops => hnopost (hmem'.mp hops), fun ikeSa op' hends hops => ?_⟩
    rcases pair_sublist_concat_iff.mp hops with hbefore | ⟨hbefore, rfl⟩
    · exact hnone ikeSa op' hends hbefore
    · exact hlast ikeSa hbefore hends

/-- A step of the job: what wakes the calling thread is what it posts. -/
lemma Control.Wakes.concat_job {ops : List ControlOp} {c c' : Control} (h : c.Wakes ops)
    {op : ControlOp} (hends : ∀ ikeSa, ¬ op.Ends ikeSa)
    (hwaiter : c'.waiter = c.waiter) (hlogging : c'.logging = c.logging)
    (hlistening : c'.listening = c.listening) (hjob : c'.job ∉ [.idle, .queued])
    (hsem : c.done ≠ none → c'.done ≠ none)
    (hdone : c'.done = some 0 → c.done = some 0 ∧ op ≠ .post)
    (hfound : ∀ ikeSa, .checkout (some ikeSa) ∈ ops ++ [op] → c'.ikeSa = some ikeSa)
    (hmissed : c'.ikeSa = none → c'.job ≠ .posting →
      .post ∈ ops ++ [op] ∨ c'.job = .destroyed ∧ ∀ ikeSa, .checkout ikeSa ∉ ops ++ [op]) :
    c'.Wakes (ops ++ [op]) := by
  refine ⟨?_, ?_, ?_, fun hfresh => absurd hfresh hjob, fun hfresh => absurd hfresh hjob, hfound,
    ?_, ?_⟩
  · rw [hwaiter]
    exact fun hmem => hsem (h.sem hmem)
  · rw [hwaiter, hlogging]
    exact h.logging
  · rw [hwaiter, hlistening]
    exact h.listening
  · intro hikeSa hphase
    exact hmissed hikeSa fun heq => hphase (by simp [heq])
  · intro hwait hzero
    obtain ⟨hzero, hpost⟩ := hdone hzero
    obtain ⟨hlisten, hnopost, hnone⟩ := h.woken (hwaiter ▸ hwait) hzero
    refine ⟨hlistening ▸ hlisten, by simp [hnopost, hpost.symm], fun ikeSa op' hop' hops => ?_⟩
    rcases pair_sublist_concat_iff.mp hops with hbefore | ⟨-, rfl⟩
    · exact hnone ikeSa op' hop' hbefore
    · exact hends ikeSa hop'

/-- What a hook of the listener does to its semaphore, and whether it stays. -/
def Control.Heard (c : Control) (op : ControlOp) (c' : Control × Bool) : Prop :=
  c'.2 = true ∧ c'.1.done = c.done ∧ (∀ ikeSa, c.ikeSa = some ikeSa → ¬ op.Ends ikeSa) ∨
    c'.2 = false ∧ c'.1.done = c.done.map (· + 1) ∧ c.ikeSa ≠ none

lemma Control.heard_ikeStateChange (c : Control) (ikeSa : ℕ) (state current : IkeState) :
    c.Heard (.ikeEvent ikeSa state current) (c.ikeStateChange ikeSa state current) := by
  unfold Control.ikeStateChange
  by_cases hsa : c.ikeSa = some ikeSa
  · rw [if_pos hsa]
    cases state with
    | destroying =>
      refine Or.inr ?_
      by_cases hcurrent : current = .deleting
      · simp [if_pos hcurrent, Control.listenerDone, hsa]
      · simp [if_neg hcurrent, Control.listenerDone, hsa]
    | _ => exact Or.inl ⟨rfl, rfl, fun _ _ hends => by simp [ControlOp.Ends] at hends⟩
  · rw [if_neg hsa]
    refine Or.inl ⟨rfl, rfl, fun ikeSa' hsa' hends => hsa ?_⟩
    obtain ⟨heq, -⟩ : ikeSa = ikeSa' ∧ state = .destroying := by simpa [ControlOp.Ends] using hends
    exact heq ▸ hsa'

lemma Control.heard_childStateChange (c : Control) (ikeSa : ℕ) (state current : ChildState) :
    c.Heard (.childEvent ikeSa state current) (c.childStateChange ikeSa state current) := by
  unfold Control.childStateChange
  by_cases hsa : c.ikeSa = some ikeSa
  · rw [if_pos hsa]
    cases state with
    | installed => exact Or.inr ⟨rfl, rfl, by simp [hsa]⟩
    | destroying =>
      cases current with
      | retrying => exact Or.inl ⟨rfl, rfl, fun _ _ hends => by simp [ControlOp.Ends] at hends⟩
      | created =>
        by_cases hstatus : c.status = .needMore
        · simp only [if_pos hstatus]
          exact Or.inl ⟨rfl, rfl, fun _ _ hends => by simp [ControlOp.Ends] at hends⟩
        · simp only [if_neg hstatus]
          exact Or.inr ⟨rfl, rfl, by simp [hsa]⟩
      | _ => exact Or.inr ⟨rfl, rfl, by simp [hsa]⟩
    | _ => exact Or.inl ⟨rfl, rfl, fun _ _ hends => by simp [ControlOp.Ends] at hends⟩
  · rw [if_neg hsa]
    refine Or.inl ⟨rfl, rfl, fun ikeSa' hsa' hends => hsa ?_⟩
    have heq : ikeSa = ikeSa' := by
      rcases hends with ⟨_, heq⟩ | ⟨_, heq⟩ | ⟨_, -, heq⟩ | heq
      · cases heq
      · cases heq
        rfl
      · cases heq
        rfl
      · cases heq
    exact heq ▸ hsa'

lemma Control.Wakes.heard {ops : List ControlOp} {c : Control} (h : c.Wakes ops) (hok : c.Ok)
    {op : ControlOp} (hpost : op ≠ .post) (hcheckout : ∀ ikeSa, op ≠ .checkout ikeSa)
    {c' : Control × Bool} (hframe : ∃ status done, c'.1 = { c with status := status, done := done })
    (hheard : c.Heard op c') : (Control.heard c').Wakes (ops ++ [op]) := by
  obtain ⟨c₁, keep⟩ := c'
  obtain ⟨status, done, rfl⟩ := hframe
  have hsem : c.done ≠ none → done ≠ none := by
    rcases hheard with ⟨-, hdone, -⟩ | ⟨-, hdone, -⟩
    · exact fun hsome hnone => hsome (hdone.symm.trans hnone)
    · exact fun hsome hnone => hsome (Option.map_eq_none_iff.mp (hdone.symm.trans hnone))
  refine h.concat hpost hcheckout (Or.inl rfl) rfl (fun hmem => hsem (h.sem hmem)) h.logging ?_ ?_
  · intro hwaiter
    rcases hheard with ⟨hkeep, -, -⟩ | ⟨-, -, htarget⟩
    · exact hkeep
    · -- before the job is queued, the listener has no IKE_SA to listen to
      have hidle : c.job = .idle := hok.idle.mpr (by simp [show c.waiter = .queueJob from hwaiter])
      exact absurd (h.target (by simp [hidle])) htarget
  · intro hwaiter hzero
    rcases hheard with ⟨hkeep, hdone, hlast⟩ | ⟨-, hdone, -⟩
    · obtain ⟨-, hnopost, hnone⟩ := h.woken hwaiter (hdone.symm.trans hzero)
      exact ⟨hkeep, hnopost, hnone, fun ikeSa hops => hlast ikeSa (h.found ikeSa hops)⟩
    · obtain ⟨n, -, hn⟩ := Option.map_eq_some_iff.mp (hdone.symm.trans hzero)
      exact absurd hn (Nat.succ_ne_zero n)

lemma Control.Wakes.step_next {ops : List ControlOp} {c c' : Control} (h : c.Wakes ops)
    (hok : c.Ok) (hact : c.next = some c') : c'.Wakes (ops ++ [.next]) := by
  have hends : ∀ ikeSa, ¬ ControlOp.Ends ikeSa .next := fun ikeSa hends => by
    simp [ControlOp.Ends] at hends
  rw [Control.next] at hact
  cases hwaiter : c.waiter with
  | queueJob =>
    simp only [hwaiter, Option.some.injEq] at hact
    subst hact
    have hidle : c.job = .idle := hok.idle.mpr (by simp [hwaiter])
    obtain ⟨hpost, hnone⟩ := h.fresh (by simp [hidle])
    refine h.concat (by simp) (by simp) (Or.inr ⟨rfl, hidle⟩) rfl
      (fun _ => h.sem (by simp [hwaiter])) (fun _ => h.logging (by simp [hwaiter])) (by simp) ?_
    intro _ _
    refine ⟨h.listening hwaiter, hpost, fun ikeSa op hop hops => ?_, fun ikeSa _ => hends ikeSa⟩
    exact hnone (some ikeSa) (hops.subset (by simp))
  | refGet =>
    simp only [hwaiter, Option.some.injEq] at hact
    subst hact
    exact h.concat (by simp) (by simp) (Or.inl rfl) rfl (by simp) (by simp) (by simp) (by simp)
  | addLogger =>
    simp only [hwaiter, Option.some.injEq] at hact
    subst hact
    exact h.concat (by simp) (by simp) (Or.inl rfl) rfl (fun _ => h.sem (by simp [hwaiter]))
      (by simp) (by simp) (by simp)
  | addListener =>
    simp only [hwaiter, Option.some.injEq] at hact
    subst hact
    exact h.concat (by simp) (by simp) (Or.inl rfl) rfl (fun _ => h.sem (by simp [hwaiter]))
      (fun _ => h.logging (by simp [hwaiter])) (by simp) (by simp)
  | executing =>
    simp only [hwaiter] at hact
    split_ifs at hact
    cases hact
    exact h.concat (by simp) (by simp) (Or.inl rfl) rfl (by simp) (by simp) (by simp) (by simp)
  | removeLogger =>
    simp only [hwaiter, Option.some.injEq] at hact
    subst hact
    cases hcancelled : c.cancelled with
    | true =>
      exact h.concat (by simp) (by simp) (Or.inl rfl) rfl (by simp) (by simp) (by simp) (by simp)
    | false =>
      exact h.concat (by simp) (by simp) (Or.inl rfl) rfl (by simp) (by simp) (by simp) (by simp)
  | waiting =>
    simp only [hwaiter] at hact
    cases hact
  | finished =>
    simp only [hwaiter] at hact
    cases hact
  | _ =>
    simp only [hwaiter, Option.some.injEq] at hact
    subst hact
    exact h.concat (by simp) (by simp) (Or.inl rfl) rfl (by simp) (by simp) (by simp) (by simp)

lemma Control.Wakes.stopWaiting {ops : List ControlOp} {c c₁ c' : Control} (h : c.Wakes ops)
    {op : ControlOp} (hpost : op ≠ .post) (hcheckout : ∀ ikeSa, op ≠ .checkout ikeSa)
    (hc₁ : c₁.job = c.job ∧ c₁.ikeSa = c.ikeSa) (hact : c₁.stopWaiting = some c') :
    c'.Wakes (ops ++ [op]) := by
  rw [Control.stopWaiting] at hact
  split_ifs at hact
  cases hact
  exact h.concat hpost hcheckout (Or.inl hc₁.1) hc₁.2 (by simp) (by simp) (by simp) (by simp)

lemma Control.Wakes.act {ops : List ControlOp} {c c' : Control} {op : ControlOp} (h : c.Wakes ops)
    (hok : c.Ok) (hact : c.act op = some c') : c'.Wakes (ops ++ [op]) := by
  cases op with
  | next => exact h.step_next hok hact
  | wake =>
    simp only [Control.act] at hact
    split_ifs at hact
    exact h.stopWaiting (by simp) (by simp) ⟨by rfl, by rfl⟩ hact
  | timeout =>
    simp only [Control.act] at hact
    split_ifs at hact
    exact h.stopWaiting (by simp) (by simp) ⟨by rfl, by rfl⟩ hact
  | cancel => exact h.stopWaiting (by simp) (by simp) ⟨by rfl, by rfl⟩ hact
  | checkout ikeSa =>
    simp only [Control.act] at hact
    split_ifs at hact with hjob
    cases hact
    obtain ⟨-, hnone⟩ := h.fresh (by simp [hjob])
    have htarget := h.target (by simp [hjob])
    cases ikeSa with
    | none =>
      refine h.concat_job (by simp [ControlOp.Ends]) rfl rfl rfl (by simp [Control.checkout])
        id (fun hzero => ⟨hzero, by simp⟩) ?_ (by simp [Control.checkout])
      intro ikeSa hops
      simp [hnone] at hops
    | some ikeSa =>
      refine h.concat_job (by simp [ControlOp.Ends]) rfl rfl rfl (by simp [Control.checkout])
        id (fun hzero => ⟨hzero, by simp⟩) ?_ (by simp [Control.checkout])
      intro ikeSa' hops
      simp only [List.mem_append, hnone, List.mem_singleton, false_or] at hops
      cases hops
      rfl
  | routed =>
    simp only [Control.act] at hact
    split_ifs at hact with hjob
    cases hact
    exact h.concat_job (by simp [ControlOp.Ends]) rfl rfl rfl (by simp [Control.routed]) id
      (fun hzero => ⟨hzero, by simp⟩) (by simpa [Control.routed] using h.found)
      (by simp [Control.routed])
  | finish good =>
    simp only [Control.act] at hact
    split_ifs at hact with hjob
    cases hact
    refine h.concat_job (by simp [ControlOp.Ends]) rfl rfl rfl (by simp [Control.finish]) id
      (fun hzero => ⟨hzero, by simp⟩) (by simpa [Control.finish] using h.found) ?_
    intro hikeSa _
    have hmissed := h.missed hikeSa (by simp [hjob])
    simpa [hjob, Control.finish] using hmissed
  | post =>
    simp only [Control.act] at hact
    split_ifs at hact with hjob
    cases hact
    refine h.concat_job (by simp [ControlOp.Ends]) rfl rfl rfl (by simp) ?_ ?_
      (by simpa [Control.listenerDone] using h.found) (by simp)
    · intro hsome
      simpa [Control.listenerDone] using hsome
    · intro hzero
      obtain ⟨n, -, hn⟩ := Option.map_eq_some_iff.mp hzero
      exact absurd hn (Nat.succ_ne_zero n)
  | destroyJob =>
    simp only [Control.act] at hact
    split_ifs at hact with hjob
    cases hact
    refine h.concat_job (by simp [ControlOp.Ends]) rfl rfl rfl (by simp) id
      (fun hzero => ⟨hzero, by simp⟩) (by simpa [Control.destroyJob] using h.found) ?_
    intro hikeSa _
    rcases hjob.2 with hqueued | hexecuted
    · exact Or.inr ⟨rfl, by simpa using (h.fresh (by simp [hqueued])).2⟩
    · have hmissed := h.missed hikeSa (by simp [hexecuted])
      exact Or.inl (by simpa [hexecuted] using hmissed)
  | ikeEvent ikeSa state current =>
    simp only [Control.act] at hact
    split_ifs at hact
    cases hact
    exact h.heard hok (by simp) (by simp) (c.ikeStateChange_frame ikeSa state current)
      (c.heard_ikeStateChange ikeSa state current)
  | childEvent ikeSa state current =>
    simp only [Control.act] at hact
    split_ifs at hact
    cases hact
    exact h.heard hok (by simp) (by simp) (c.childStateChange_frame ikeSa state current)
      (c.heard_childStateChange ikeSa state current)
  | log ikeSa answer =>
    simp only [Control.act] at hact
    split_ifs at hact
    cases hact
    rw [Control.listenerLog]
    split_ifs with hlog
    · refine h.concat (by simp) (by simp) (Or.inl rfl) rfl ?_ h.logging h.listening ?_
      · intro hmem
        simpa [Control.listenerDone] using h.sem hmem
      · intro _ hzero
        obtain ⟨n, -, hn⟩ := Option.map_eq_some_iff.mp hzero
        exact absurd hn (Nat.succ_ne_zero n)
    · refine h.concat (by simp) (by simp) (Or.inl rfl) rfl h.sem h.logging h.listening ?_
      intro hwaiter hzero
      obtain ⟨hlisten, hnopost, hnone⟩ := h.woken hwaiter hzero
      refine ⟨hlisten, hnopost, hnone, fun ikeSa' hops hends => hlog ?_⟩
      rcases hends with ⟨_, heq⟩ | ⟨_, heq⟩ | ⟨_, -, heq⟩ | heq
      · cases heq
      · cases heq
      · cases heq
      · cases heq
        exact ⟨h.found _ hops, rfl⟩

lemma Control.wakes_create (command : Command) (timeout : Bool) :
    (Control.create command true timeout).Wakes [] := by
  constructor <;> simp [Control.create]

/-- No wake-up is lost: as long as the calling thread waits and nothing wakes it, its listener and
its logger are registered, the job has posted nothing, and nothing of the IKE_SA that ends the wait
has come since the look-up; and what the job found, or will find, is still to come, unless it was
thrown away before it was executed. -/
theorem Control.run_wakes {command : Command} {timeout : Bool} {ops : List ControlOp} {c : Control}
    (hrun : run Control.step (.create command true timeout) ops = some c)
    (hwaiter : c.waiter = .waiting) (hasleep : c.step .wake = none) :
    (c.listening = true ∧ c.logging = true ∧ .post ∉ ops ∧
      ∀ ikeSa op, op.Ends ikeSa → ¬ [.checkout (some ikeSa), op].Sublist ops) ∧
    (c.job ∈ [.queued, .posting] ∨ c.ikeSa ≠ none ∨
      c.job = .destroyed ∧ ∀ ikeSa, .checkout ikeSa ∉ ops) := by
  have h : c.Ok ∧ c.Wakes ops := by
    refine run_induction (P := fun ops c => c.Ok ∧ c.Wakes ops)
      ⟨Control.ok_create command true timeout, Control.wakes_create command timeout⟩ ?_ hrun
    intro ops c₁ op c₂ _ hinv hstep
    refine ⟨hinv.1.step hstep, ?_⟩
    obtain ⟨c₃, hact, rfl⟩ := Option.map_eq_some_iff.mp hstep
    obtain ⟨hsem, hlogging, hlistening, hfresh, htarget, hfound, hmissed, hwoken⟩ :=
      hinv.2.act hinv.1 hact
    exact ⟨hsem, hlogging, hlistening, hfresh, htarget, hfound, hmissed, hwoken⟩
  have hzero : c.done = some 0 := by
    by_contra hdone
    simp [Control.step, Control.act, Control.stopWaiting, hdone, hwaiter] at hasleep
  obtain ⟨hlistening, hpost, hends⟩ := h.2.woken hwaiter hzero
  refine ⟨⟨hlistening, h.2.logging (by simp [hwaiter]), hpost, hends⟩, ?_⟩
  by_cases hjob : c.job ∈ [.queued, .posting]
  · exact Or.inl hjob
  · refine Or.inr ?_
    by_cases hikeSa : c.ikeSa = none
    · have hidle : c.job ≠ .idle := fun heq => by
        have hmem := h.1.idle.mp heq
        simp [hwaiter] at hmem
      rcases h.2.missed hikeSa (by simpa [hidle] using hjob) with hops | hthrown
      · exact absurd hops hpost
      · exact Or.inr hthrown
    · exact Or.inl hikeSa

/-- The IKE_SA is checked out and its CHILD_SA is not installed yet. -/
theorem Control.run_wakes_initiated :
    ∃ c, run Control.step (.create .initiate true false) (installedOps.take 5) = some c ∧
      (c.listening = true ∧ c.logging = true ∧ .post ∉ installedOps.take 5 ∧
        ∀ ikeSa op, op.Ends ikeSa →
          ¬ [.checkout (some ikeSa), op].Sublist (installedOps.take 5)) ∧
      (c.job ∈ [.queued, .posting] ∨ c.ikeSa ≠ none ∨
        c.job = .destroyed ∧ ∀ ikeSa, .checkout ikeSa ∉ installedOps.take 5) :=
  ⟨_, rfl, Control.run_wakes rfl rfl rfl⟩

end SecuredApp
