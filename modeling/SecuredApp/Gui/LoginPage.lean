import SecuredApp.Core.Run

/-!
# Waiting for the login page

`LoginAvailableTaskThread` asks for the login page once in a run and emits its signal as the last
thing it does; the slot `onNedConnectionAvailable` starts it again until the page has answered. The
signal is queued to the GUI, and starting a thread that has not finished does nothing.
-/

namespace SecuredApp

open SecuredApp.Core

/-- Where the thread is, by the statement it comes to next. -/
inductive LoginPageThread where
  | finished
  | request                                     -- `self.r = requests.get(...)`
  | setStatus (answered : Bool)                 -- `self.status = ...`
  | emit
  | finishing                                   -- the signal is sent, and the thread still runs

/-- Where the slot is. -/
inductive LoginPageSlot where
  | idle
  | testStatus                                  -- `if self.loginPageAvailableTask.status == True`
  | start                                       -- `self.loginPageAvailableTask.start()`

/-- The thread and the slot: `status` is the attribute of the thread, `signals` counts the signals
that wait to be handled, `dialog` says whether the dialog was shown, and `answered` whether the page
has answered. -/
structure LoginPage where
  thread : LoginPageThread
  status : Bool
  signals : ℕ
  slot : LoginPageSlot
  dialog : Bool
  answered : Bool

/-- The constructor of `GUI` has started the thread. -/
def LoginPage.init : LoginPage where
  thread := .request
  status := false
  signals := 0
  slot := .idle
  dialog := false
  answered := false

inductive LoginPageEvent where
  | answer (answered : Bool)                    -- what comes of the request
  | setStatus
  | emit
  | finish
  | takeSignal                                  -- the slot begins, and sleeps
  | testStatus
  | start

def LoginPage.step (s : LoginPage) : LoginPageEvent → Option LoginPage
  | .answer answered =>
    match s.thread with
    | .request =>
      some { s with thread := .setStatus answered, answered := s.answered || answered }
    | _ => none
  | .setStatus =>
    match s.thread with
    | .setStatus answered => some { s with status := answered, thread := .emit }
    | _ => none
  | .emit =>
    match s.thread with
    | .emit => some { s with signals := s.signals + 1, thread := .finishing }
    | _ => none
  | .finish =>
    match s.thread with
    | .finishing => some { s with thread := .finished }
    | _ => none
  | .takeSignal =>
    match s.slot with
    | .idle =>
      if s.signals = 0 then none
      else some { s with signals := s.signals - 1, slot := .testStatus }
    | _ => none
  | .testStatus =>
    match s.slot with
    | .testStatus =>
      if s.status then some { s with slot := .idle, dialog := true }
      else some { s with slot := .start }
    | _ => none
  | .start =>
    match s.slot, s.thread with
    | .start, .finished => some { s with thread := .request, slot := .idle }
    | .start, _ => some { s with slot := .idle }
    | _, _ => none

/-- What a step can do. -/
inductive LoginPage.Step (s : LoginPage) : LoginPageEvent → LoginPage → Prop
  | answer {answered : Bool} (hthread : s.thread = .request) : LoginPage.Step s (.answer answered)
      { s with thread := .setStatus answered, answered := s.answered || answered }
  | setStatus {answered : Bool} (hthread : s.thread = .setStatus answered) :
      LoginPage.Step s .setStatus { s with status := answered, thread := .emit }
  | emit (hthread : s.thread = .emit) :
      LoginPage.Step s .emit { s with signals := s.signals + 1, thread := .finishing }
  | finish (hthread : s.thread = .finishing) :
      LoginPage.Step s .finish { s with thread := .finished }
  | takeSignal (hslot : s.slot = .idle) (hsignals : 0 < s.signals) :
      LoginPage.Step s .takeSignal { s with signals := s.signals - 1, slot := .testStatus }
  | shown (hslot : s.slot = .testStatus) (hstatus : s.status = true) :
      LoginPage.Step s .testStatus { s with slot := .idle, dialog := true }
  | notYet (hslot : s.slot = .testStatus) (hstatus : s.status = false) :
      LoginPage.Step s .testStatus { s with slot := .start }
  | start (hslot : s.slot = .start) (hthread : s.thread = .finished) :
      LoginPage.Step s .start { s with thread := .request, slot := .idle }
  | ignored (hslot : s.slot = .start) (hthread : s.thread ≠ .finished) :
      LoginPage.Step s .start { s with slot := .idle }

variable {s s' : LoginPage} {e : LoginPageEvent}

lemma LoginPage.step_sound (h : s.step e = some s') : s.Step e s' := by
  cases e with
  | answer answered | setStatus | emit | finish =>
    simp only [LoginPage.step] at h
    split at h
    · rename_i hthread
      obtain rfl := Option.some.inj h
      constructor
      exact hthread
    · cases h
  | takeSignal =>
    simp only [LoginPage.step] at h
    split at h
    · rename_i hslot
      split_ifs at h with hsignals
      obtain rfl := Option.some.inj h
      exact .takeSignal hslot (Nat.pos_of_ne_zero hsignals)
    · cases h
  | testStatus =>
    simp only [LoginPage.step] at h
    split at h
    · rename_i hslot
      split_ifs at h with hstatus
      · obtain rfl := Option.some.inj h
        exact .shown hslot hstatus
      · obtain rfl := Option.some.inj h
        exact .notYet hslot (Bool.of_not_eq_true hstatus)
    · cases h
  | start =>
    simp only [LoginPage.step] at h
    split at h
    · rename_i hslot hthread
      obtain rfl := Option.some.inj h
      exact .start hslot hthread
    · rename_i hslot hthread
      obtain rfl := Option.some.inj h
      exact .ignored hslot hthread
    · cases h

/-! ### Polling goes on -/

/-- The thread has yet to ask for the page or to emit its signal. -/
def LoginPageThread.Polls (thread : LoginPageThread) : Prop :=
  thread ≠ .finishing ∧ thread ≠ .finished

/-- Until the page has answered, the thread has yet to emit its signal, or the signal waits or is
being handled. -/
def LoginPage.PollsOn (s : LoginPage) : Prop :=
  s.answered = false → s.thread.Polls ∨ 0 < s.signals ∨ s.slot ≠ .idle

/-- The slot starts a thread that has finished. -/
def LoginPage.Restarts (s : LoginPage) : LoginPageEvent → Prop
  | .start => s.slot = .start → s.thread = .finished
  | _ => True

/-- Where the thread, its signal and the slot are together: there is one of them. While the slot is
to start the thread the page has not answered. -/
structure LoginPage.InTurn (s : LoginPage) : Prop where
  polling : s.thread.Polls → s.signals = 0 ∧ s.slot = .idle
  handling : s.slot ≠ .idle → s.signals = 0
  single : s.signals ≤ 1
  /-- An answer is recorded by the thread before it emits its signal. -/
  recorded : s.answered = true → s.thread = .setStatus true ∨
    s.thread ≠ .request ∧ (∀ answered, s.thread ≠ .setStatus answered) ∧ s.status = true
  truthful : s.status = true ∨ s.thread = .setStatus true → s.answered = true
  unanswered : s.slot = .start → s.answered = false

lemma LoginPage.inTurn_init : LoginPage.init.InTurn := by
  refine ⟨fun _ => ⟨rfl, rfl⟩, fun _ => rfl, Nat.zero_le 1, nofun, fun htrue => ?_, nofun⟩
  rcases htrue with hstatus | hset
  · cases hstatus
  · cases hset

/-- A thread that has emitted its signal has recorded an answer. -/
lemma LoginPage.InTurn.status (h : s.InTurn) (hanswered : s.answered = true)
    (hslot : s.slot ≠ .idle) : s.status = true := by
  rcases h.recorded hanswered with hthread | ⟨-, -, hstatus⟩
  · have hpolls : s.thread.Polls := by
      rw [hthread]
      exact ⟨nofun, nofun⟩
    exact absurd (h.polling hpolls).2 hslot
  · exact hstatus

lemma LoginPage.InTurn.step (h : s.InTurn) (hstep : s.Step e s') : s'.InTurn := by
  obtain ⟨hpolling, hhandling, hsingle, hrecorded, htruthful, hunanswered⟩ := id h
  cases hstep with
  | answer hthread =>
    rename_i answered
    have hnot : s.answered = false := by
      by_contra hanswered
      rcases hrecorded (Bool.of_not_eq_false hanswered) with hset | ⟨hne, -⟩
      · rw [hthread] at hset
        cases hset
      · exact hne hthread
    obtain ⟨hsignals, hslot⟩ := hpolling (by rw [hthread]; exact ⟨nofun, nofun⟩)
    refine ⟨fun _ => ⟨hsignals, hslot⟩, hhandling, hsingle, fun hanswered => ?_, fun htrue => ?_,
      fun hstart => ?_⟩
    · have hanswered' : answered = true := by simpa [hnot] using hanswered
      exact .inl (congrArg _ hanswered')
    · show (s.answered || answered) = true
      rcases htrue with hstatus | hset
      · rw [htruthful (.inl hstatus), Bool.true_or]
      · rw [LoginPageThread.setStatus.inj hset, Bool.or_true]
    · cases hslot.symm.trans hstart
  | setStatus hthread =>
    rename_i answered
    obtain ⟨hsignals, hslot⟩ := hpolling (by rw [hthread]; exact ⟨nofun, nofun⟩)
    refine ⟨fun _ => ⟨hsignals, hslot⟩, hhandling, hsingle, fun hanswered => ?_, fun htrue => ?_,
      hunanswered⟩
    · rcases hrecorded hanswered with hset | ⟨-, hne, -⟩
      · rw [hthread] at hset
        exact .inr ⟨nofun, nofun, LoginPageThread.setStatus.inj hset⟩
      · exact absurd hthread (hne answered)
    · have hanswered : answered = true := htrue.resolve_right nofun
      exact htruthful (.inr (hthread.trans (congrArg _ hanswered)))
  | emit hthread =>
    obtain ⟨hsignals, hslot⟩ := hpolling (by rw [hthread]; exact ⟨nofun, nofun⟩)
    refine ⟨fun hpolls => absurd rfl hpolls.1, fun hne => absurd hslot hne,
      Nat.succ_le_succ (Nat.le_of_eq hsignals), fun hanswered => ?_,
      fun htrue => htruthful (.inl (htrue.resolve_right nofun)), hunanswered⟩
    rcases hrecorded hanswered with hset | ⟨-, -, hstatus⟩
    · rw [hthread] at hset
      cases hset
    · exact .inr ⟨nofun, nofun, hstatus⟩
  | finish hthread =>
    refine ⟨fun hpolls => absurd rfl hpolls.2, hhandling, hsingle, fun hanswered => ?_,
      fun htrue => htruthful (.inl (htrue.resolve_right nofun)), hunanswered⟩
    rcases hrecorded hanswered with hset | ⟨-, -, hstatus⟩
    · rw [hthread] at hset
      cases hset
    · exact .inr ⟨nofun, nofun, hstatus⟩
  | takeSignal hslot hsignals =>
    refine ⟨fun hpolls => ?_, fun _ => ?_, ?_, hrecorded, htruthful, nofun⟩
    · exact absurd (hpolling hpolls).1 (Nat.ne_of_gt hsignals)
    · show s.signals - 1 = 0
      omega
    · show s.signals - 1 ≤ 1
      omega
  | shown hslot hstatus =>
    refine ⟨fun hpolls => ⟨(hpolling hpolls).1, rfl⟩, fun hne => absurd rfl hne, hsingle, hrecorded,
      htruthful, nofun⟩
  | notYet hslot hstatus =>
    have hne : s.slot ≠ .idle := by
      rw [hslot]
      exact nofun
    refine ⟨fun hpolls => absurd (hpolling hpolls).2 hne, fun _ => hhandling hne, hsingle,
      hrecorded, htruthful, fun _ => ?_⟩
    by_contra hanswered
    rw [h.status (Bool.of_not_eq_false hanswered) hne] at hstatus
    cases hstatus
  | start hslot hthread =>
    have hnot := hunanswered hslot
    refine ⟨fun _ => ⟨hhandling (by rw [hslot]; exact nofun), rfl⟩, fun hne => absurd rfl hne,
      hsingle, fun hanswered => ?_, fun htrue => ?_, nofun⟩
    · cases hnot.symm.trans hanswered
    · exact htruthful (.inl (htrue.resolve_right nofun))
  | ignored hslot hthread =>
    refine ⟨fun hpolls => ⟨(hpolling hpolls).1, rfl⟩, fun hne => absurd rfl hne, hsingle, hrecorded,
      htruthful, nofun⟩

/-- A step keeps polling on, unless the slot starts a thread that has not finished. -/
lemma LoginPage.PollsOn.step (h : s.PollsOn) (hturn : s.InTurn) (hrestarts : s.Restarts e)
    (hstep : s.Step e s') : s'.PollsOn := by
  cases hstep with
  | answer | setStatus | start => exact fun _ => .inl ⟨nofun, nofun⟩
  | emit => exact fun _ => .inr (.inl (Nat.succ_pos _))
  | finish hthread =>
    intro hnot
    refine .inr ((h hnot).resolve_left fun hpolls => ?_)
    exact hpolls.1 hthread
  | takeSignal | notYet => exact fun _ => .inr (.inr nofun)
  | shown hslot hstatus =>
    intro hnot
    cases (hturn.truthful (.inl hstatus)).symm.trans hnot
  | ignored hslot hthread => exact absurd (hrestarts hslot) hthread

/-- The signal is handled by the time the slot starts the thread: nothing polls on if the thread has
not finished. -/
lemma LoginPage.restarts_of_pollsOn (hturn : s.InTurn)
    (hpolls : ∀ s', s.step e = some s' → s'.PollsOn) : s.Restarts e := by
  cases e with
  | start =>
    intro hslot
    by_contra hthread
    have hne : s.slot ≠ .idle := by
      rw [hslot]
      exact nofun
    have hstep : s.step .start = some { s with slot := .idle } := by
      rw [LoginPage.step, hslot]
      cases hfinished : s.thread with
      | finished => exact absurd hfinished hthread
      | _ => rfl
    rcases hpolls _ hstep (hturn.unanswered hslot) with hpolling | hsignals | hidle
    · exact hne (hturn.polling hpolling).2
    · exact Nat.ne_of_gt hsignals (hturn.handling hne)
    · exact hidle rfl
  | _ => trivial

/-- In every run, with any answers and any order of the steps of the thread and the GUI, polling
goes on until the page has answered exactly if the slot starts no thread that has not finished. -/
theorem polls_on_iff (es : List LoginPageEvent) :
    RunMeets LoginPage.step (fun _ s e => ∀ s', s.step e = some s' → s'.PollsOn) .init es ↔
    RunMeets LoginPage.step (fun _ s e => s.Restarts e) .init es := by
  refine runMeets_iff_of_invariant (P := fun s => s.InTurn ∧ s.PollsOn) ?_ ?_ ?_
  · exact ⟨LoginPage.inTurn_init, fun _ => .inl ⟨nofun, nofun⟩⟩
  · rintro pre s₁ e s₂ ⟨hturn, hpolls⟩ hrestarts hstep
    have hstep := LoginPage.step_sound hstep
    exact ⟨hturn.step hstep, hpolls.step hturn hrestarts hstep⟩
  · rintro pre s₁ e ⟨hturn, hpolls⟩
    refine ⟨LoginPage.restarts_of_pollsOn hturn, fun hrestarts s₂ hstep => ?_⟩
    exact hpolls.step hturn hrestarts (LoginPage.step_sound hstep)

/-- The slot is faster than the end of the thread: the thread is not started again, and nothing
polls on. -/
theorem polling_stops :
    ∃ s, run LoginPage.step .init
        [.answer false, .setStatus, .emit, .takeSignal, .testStatus, .start, .finish] = some s ∧
      s.answered = false ∧ s.thread = .finished ∧ s.signals = 0 ∧ s.slot = .idle ∧ ¬ s.PollsOn := by
  refine ⟨_, rfl, rfl, rfl, rfl, rfl, fun h => ?_⟩
  rcases h rfl with hpolls | hsignals | hidle
  · exact hpolls.2 rfl
  · exact Nat.lt_irrefl 0 hsignals
  · exact hidle rfl

end SecuredApp
