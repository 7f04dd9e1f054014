import SecuredApp.Gui.Polling
import SecuredApp.Gui.Starts

/-!
# Whose verdict is shown

The slot reads the verdict and the time from attributes that the next polls overwrite. It acts on
the poll that called it as long as these are not written while a signal waits, and in every run
a verdict that is shown is the one of a poll.
-/

namespace SecuredApp

open SecuredApp.Core

/-! ### The poll of the signal -/

/-- A verdict comes with a time that can be shown. -/
def Poll.Showable (poll : Poll) : Prop := poll.trusted ≠ none → ShowableTime poll.validateTime

/-- The slot has yet to read the verdict. -/
def Slot.ReadsTrusted : Slot → Prop
  | .testFalse _ | .testTrue _ => True
  | _ => False

/-- The slot has yet to read the time. -/
def Slot.ReadsTime : Slot → Prop
  | .idle => False
  | _ => True

/-- While a signal waits or the slot has yet to read, the thread writes no other value over the one
that is read; and a verdict is answered with a time that can be shown. -/
def Polling.Undisturbed (s : Polling) : PollingEvent → Prop
  | .reset => s.queue ≠ [] ∨ s.slot.ReadsTrusted → s.app.attestationTask.trusted = some false
  | .answer answer => pollTrusted answer ≠ none → ShowableTime (pollTime answer)
  | .storeTrusted => s.queue ≠ [] ∨ s.slot.ReadsTrusted →
      ∀ poll, s.thread = .storeTrusted poll → s.app.attestationTask.trusted = poll.trusted
  | .storeTime => s.queue ≠ [] ∨ s.slot.ReadsTime →
      ∀ poll, s.thread = .storeTime poll → s.app.attestationTask.validateTime = poll.validateTime
  | _ => True

/-- The last run of the slot that showed a verdict. -/
def lastShown (handled : List Handling) : Option Handling := handled.find? (·.result.isSome)

/-- The slot acted on the verdict and the time of the poll whose signal it handled. -/
def Handling.Faithful (h : Handling) : Prop :=
  h.result = h.poll.trusted ∧ (h.result ≠ none → h.time = h.poll.validateTime)

/-- Every run of the slot acted on its poll, and the labels show the verdict and the time of the
poll that was shown last. -/
structure FaithfullyShown (handled : List Handling) (shown : String × Json) : Prop where
  acts : ∀ h ∈ handled, h.Faithful
  shows : ∀ h result, lastShown handled = some h → h.poll.trusted = some result →
    shown = (verdictText result, h.poll.validateTime)

def Polling.Faithful (s : Polling) : Prop := FaithfullyShown s.handled s.app.shown

/-- The attributes of the thread hold the verdict and the time of the poll. -/
structure Poll.Stored (poll : Poll) (trusted : Option Bool) (time : Json) : Prop where
  trusted_eq : trusted = poll.trusted
  time_eq : time = poll.validateTime
  showable : poll.Showable

/-- What the attributes hold of the poll the thread is in. -/
def AttestationThread.Holds (trusted : Option Bool) (time : Json) : AttestationThread → Prop
  | .storeTrusted poll => poll.Showable
  | .storeTime poll => trusted = poll.trusted ∧ poll.Showable
  | .emit poll => poll.Stored trusted time
  | _ => True

/-- What the attributes hold of the poll the slot handles. -/
def Slot.Holds (trusted : Option Bool) (time : Json) : Slot → Prop
  | .idle => True
  | .testFalse poll => poll.Stored trusted time
  | .testTrue poll => poll.Stored trusted time ∧ poll.trusted ≠ some false
  | .readTime poll result _ =>
    poll.trusted = some result ∧ time = poll.validateTime ∧ poll.Showable

variable {trusted trusted' : Option Bool} {time time' : Json} {queue : List Poll} {slot : Slot}

lemma Slot.Holds.setTrusted (h : slot.Holds trusted time)
    (hsame : slot.ReadsTrusted → trusted = trusted') : slot.Holds trusted' time := by
  cases slot with
  | idle => trivial
  | testFalse poll => exact hsame trivial ▸ h
  | testTrue poll => exact hsame trivial ▸ h
  | readTime poll result source => exact h

lemma Slot.Holds.setTime (h : slot.Holds trusted time)
    (hsame : slot.ReadsTime → time = time') : slot.Holds trusted time' := by
  cases slot with
  | idle => trivial
  | testFalse poll => exact hsame trivial ▸ h
  | testTrue poll => exact hsame trivial ▸ h
  | readTime poll result source => exact hsame trivial ▸ h

/-- The attributes hold what every reader of them expects, and the slot has been faithful. -/
structure Polling.Coherent (s : Polling) : Prop where
  thread : s.thread.Holds s.app.attestationTask.trusted s.app.attestationTask.validateTime
  queue : ∀ poll ∈ s.queue,
    poll.Stored s.app.attestationTask.trusted s.app.attestationTask.validateTime
  slot : s.slot.Holds s.app.attestationTask.trusted s.app.attestationTask.validateTime
  faithful : s.Faithful

lemma eq_none_of_ne {verdict : Option Bool} (htrue : verdict ≠ some true)
    (hfalse : verdict ≠ some false) : verdict = none := by
  match verdict with
  | none => rfl
  | some true => exact absurd rfl htrue
  | some false => exact absurd rfl hfalse

lemma Polling.coherent_init (app : App) : (Polling.init app).Coherent := by
  refine ⟨?_, by simp [Polling.init], trivial, by simp [Polling.init], ?_⟩
  · rw [Polling.init]
    split_ifs <;> trivial
  · intro h result hshown
    cases hshown

lemma Polling.Coherent.step {s s' : Polling} {e : PollingEvent} (h : s.Coherent)
    (hcond : s.Undisturbed e) (hstep : s.step e = some s') : s'.Coherent := by
  obtain ⟨hthreadOk, hqueueOk, hslotOk, hfaithful⟩ := h
  cases Polling.step_sound hstep with
  | start hthread => exact ⟨trivial, hqueueOk, hslotOk, hfaithful⟩
  | startRunning hthread => exact ⟨hthreadOk, hqueueOk, hslotOk, hfaithful⟩
  | stop => exact ⟨trivial, hqueueOk, hslotOk, hfaithful⟩
  | reset hthread =>
    refine ⟨trivial, ?_, ?_, hfaithful⟩
    · intro poll hpoll
      have hsame := hcond (Or.inl (List.ne_nil_of_mem hpoll))
      exact hsame ▸ hqueueOk poll hpoll
    · exact hslotOk.setTrusted fun hreads => hcond (Or.inr hreads)
  | lookUp hthread hrequest => exact ⟨trivial, hqueueOk, hslotOk, hfaithful⟩
  | lookUpRaises hthread hrequest => exact ⟨trivial, hqueueOk, hslotOk, hfaithful⟩
  | answer hthread hraises => exact ⟨hcond, hqueueOk, hslotOk, hfaithful⟩
  | answerRaises hthread hraises => exact ⟨trivial, hqueueOk, hslotOk, hfaithful⟩
  | storeTrusted hthread =>
    rw [hthread] at hthreadOk
    refine ⟨⟨rfl, hthreadOk⟩, ?_, ?_, hfaithful⟩
    · intro poll hpoll
      have hsame := hcond (Or.inl (List.ne_nil_of_mem hpoll)) _ hthread
      exact hsame ▸ hqueueOk poll hpoll
    · exact hslotOk.setTrusted fun hreads => hcond (Or.inr hreads) _ hthread
  | storeTime hthread =>
    rw [hthread] at hthreadOk
    refine ⟨⟨hthreadOk.1, rfl, hthreadOk.2⟩, ?_, ?_, hfaithful⟩
    · intro poll hpoll
      have hsame := hcond (Or.inl (List.ne_nil_of_mem hpoll)) _ hthread
      exact hsame ▸ hqueueOk poll hpoll
    · exact hslotOk.setTime fun hreads => hcond (Or.inr hreads) _ hthread
  | emit hthread =>
    rw [hthread] at hthreadOk
    refine ⟨trivial, ?_, hslotOk, hfaithful⟩
    intro poll hpoll
    rcases List.mem_append.mp hpoll with hpoll | hpoll
    · exact hqueueOk poll hpoll
    · obtain rfl := List.mem_singleton.mp hpoll
      exact hthreadOk
  | wake hthread => exact ⟨trivial, hqueueOk, hslotOk, hfaithful⟩
  | takeSignal hslot hqueue =>
    rw [hqueue] at hqueueOk
    refine ⟨hthreadOk, ?_, ?_, hfaithful⟩
    · intro poll hpoll
      exact hqueueOk poll (List.mem_cons_of_mem _ hpoll)
    · exact hqueueOk _ List.mem_cons_self
  | testFalse hslot htrusted =>
    rw [hslot] at hslotOk
    refine ⟨hthreadOk, hqueueOk, ?_, hfaithful⟩
    exact ⟨hslotOk.trusted_eq.symm.trans htrusted, hslotOk.time_eq, hslotOk.showable⟩
  | testFalseFails hslot htrusted =>
    rw [hslot] at hslotOk
    refine ⟨hthreadOk, hqueueOk, ⟨hslotOk, ?_⟩, hfaithful⟩
    rw [← hslotOk.trusted_eq]
    exact htrusted
  | testTrue hslot htrusted =>
    rw [hslot] at hslotOk
    obtain ⟨hstored, -⟩ := hslotOk
    refine ⟨hthreadOk, hqueueOk, ?_, hfaithful⟩
    exact ⟨hstored.trusted_eq.symm.trans htrusted, hstored.time_eq, hstored.showable⟩
  | testTrueFails hslot htrusted =>
    rw [hslot] at hslotOk
    obtain ⟨hstored, hfalse⟩ := hslotOk
    refine ⟨hthreadOk, hqueueOk, trivial, ?_, hfaithful.shows⟩
    intro h hh
    rcases List.mem_cons.mp hh with rfl | hh
    · -- neither test succeeded, so the poll has no verdict
      rw [hstored.trusted_eq] at htrusted
      exact ⟨(eq_none_of_ne htrusted hfalse).symm, fun hne => absurd rfl hne⟩
    · exact hfaithful.acts h hh
  | readTime hslot =>
    rw [hslot] at hslotOk
    obtain ⟨hverdict, htime, hshowable⟩ := hslotOk
    rename_i poll result source
    have htask : (after (setAttestationStatus result) s.app).attestationTask
        = s.app.attestationTask :=
      frames_setAttestationStatus (v := App.attestationTask) (fun _ _ => rfl) result s.app
    refine ⟨?_, ?_, trivial, ?_, ?_⟩
    · simpa only [htask] using hthreadOk
    · simpa only [htask] using hqueueOk
    · intro h hh
      rcases List.mem_cons.mp hh with rfl | hh
      · exact ⟨hverdict.symm, fun _ => htime⟩
      · exact hfaithful.acts h hh
    · intro h result' hlast hresult
      obtain rfl := Option.some.inj hlast
      obtain rfl := Option.some.inj (hverdict.symm.trans hresult)
      rw [← htime]
      refine shown_setAttestationStatus ?_
      rw [htime]
      exact hshowable (by rw [hverdict]; exact Option.some_ne_none result)
  | setApIp => exact ⟨hthreadOk, hqueueOk, hslotOk, hfaithful⟩
  | setTaskAP hmoving => exact ⟨hthreadOk, hqueueOk, hslotOk, hfaithful⟩

/-- In every run in which the thread overwrites no verdict and no time that the slot is still to
read, the slot acts on the poll that called it, and so do the labels. -/
theorem slot_acts_on_its_poll (app : App) (es : List PollingEvent) (s : Polling)
    (hrun : run Polling.step (.init app) es = some s)
    (hmeets : RunMeets Polling.step (fun _ s e => s.Undisturbed e) (.init app) es) :
    s.Faithful := by
  have hcoherent : s.Coherent := by
    refine hmeets.invariant (Polling.coherent_init app) ?_ hrun
    intro pre s₁ e s₂ h hcond hstep
    exact h.step hcond hstep
  exact hcoherent.faithful

/-- The thread writes while no signal waits and the slot reads nothing. -/
def Polling.writesAlone (s : Polling) : PollingEvent → Bool
  | .reset | .storeTrusted | .storeTime =>
    s.queue.isEmpty && match s.slot with
      | .idle => true
      | _ => false
  | .answer answer => decide (ShowableTime (pollTime answer))
  | _ => true

lemma Polling.undisturbed_of_writesAlone {s : Polling} {e : PollingEvent}
    (h : s.writesAlone e = true) : s.Undisturbed e := by
  have hnone : (s.queue.isEmpty && match s.slot with
      | .idle => true
      | _ => false) = true → s.queue = [] ∧ s.slot = .idle := by
    intro h
    rw [Bool.and_eq_true, List.isEmpty_iff] at h
    refine ⟨h.1, ?_⟩
    cases hslot : s.slot with
    | idle => rfl
    | _ =>
      rw [hslot] at h
      cases h.2
  cases e with
  | reset | storeTrusted | storeTime =>
    obtain ⟨hqueue, hslot⟩ := hnone h
    rintro (hne | hreads)
    · exact absurd hqueue hne
    · rw [hslot] at hreads
      exact absurd hreads id
  | answer answer =>
    intro _
    exact of_decide_eq_true h
  | _ => trivial

/-- A poll from the look-up to the signal. -/
def pollEvents (answer : Json) : List PollingEvent :=
  [.reset, .lookUp, .answer (some (some answer)), .storeTrusted, .storeTime, .emit]

/-- The GUI handles a signal whose verdict is trusted, and one whose verdict is not. -/
def trustedSlot : List PollingEvent := [.takeSignal, .testFalse, .testTrue, .readTime]

def untrustedSlot : List PollingEvent := [.takeSignal, .testFalse, .readTime]

def attestedRun : List PollingEvent :=
  .start :: pollEvents (timedResults "ned" "trusted") ++ trustedSlot ++ [.wake]

theorem slot_acts_on_its_poll_secured1 :
    ∃ s, run Polling.step (.init (constructedOn guiConf true "secured1")) attestedRun = some s ∧
      s.app.ui.attestationStatus = "The NED is trusted" ∧ s.Faithful := by
  have hmap : (run Polling.step (.init (constructedOn guiConf true "secured1")) attestedRun).map
      (·.app.ui.attestationStatus) = some "The NED is trusted" := by
    decide +kernel
  have hmeets : meetsAll Polling.step Polling.writesAlone
      (.init (constructedOn guiConf true "secured1")) attestedRun = true := by
    decide +kernel
  obtain ⟨s, hrun, hstatus⟩ := Option.map_eq_some_iff.mp hmap
  refine ⟨s, hrun, hstatus, slot_acts_on_its_poll _ attestedRun s hrun ?_⟩
  exact (runMeets_of_meetsAll hmeets).mono fun _ _ _ => Polling.undisturbed_of_writesAlone

/-- The text of a time label. -/
def timeText : Json → String
  | .str time => time
  | _ => ""

/-- The next poll begins before the signal of one that ended trusted is handled. -/
def overtakenRun : List PollingEvent :=
  .start :: pollEvents (timedResults "ned" "trusted") ++ [.wake, .reset] ++ untrustedSlot

/-- After an untrusted poll, one is answered as trusted without a time. -/
def untimedRun : List PollingEvent :=
  .start :: pollEvents (timedResults "ned" "untrusted") ++ untrustedSlot ++ [.wake] ++
    pollEvents (resultsJson "ned" "trusted") ++ trustedSlot

/-- A poll that ended trusted is shown as not trusted, and a verdict with the time of the poll
before it. -/
theorem slot_shows_another_poll :
    (∃ s, run Polling.step (.init (constructedOn guiConf true "secured1")) overtakenRun = some s ∧
      ¬ s.Faithful ∧ s.app.ui.attestationStatus = "The NED is not trusted" ∧
      s.handled.map (fun h => (h.poll.trusted, h.result)) = [(some true, some false)]) ∧
    ∃ s, run Polling.step (.init (constructedOn guiConf true "secured1")) untimedRun = some s ∧
      ¬ s.Faithful ∧ s.app.ui.attestationStatus = "The NED is trusted" ∧
      timeText s.app.ui.attestationTime = "Thu Dec 10 09:12:37 2015" ∧
      s.handled.map (fun h => (h.poll.trusted, timeText h.poll.validateTime))
        = [(some true, ""), (some false, "Thu Dec 10 09:12:37 2015")] := by
  constructor
  · have hmap : (run Polling.step (.init (constructedOn guiConf true "secured1"))
        overtakenRun).map (fun s => (s.app.ui.attestationStatus,
          s.handled.map fun h => (h.poll.trusted, h.result)))
          = some ("The NED is not trusted", [(some true, some false)]) := by
      decide +kernel
    obtain ⟨s, hrun, heq⟩ := Option.map_eq_some_iff.mp hmap
    rw [Prod.mk.injEq] at heq
    obtain ⟨hstatus, hhandled⟩ := heq
    refine ⟨s, hrun, fun hfaithful => ?_, hstatus, hhandled⟩
    obtain ⟨h, hh, hpair⟩ :
        ∃ h ∈ s.handled, (h.poll.trusted, h.result) = (some true, some false) := by
      rw [← List.mem_map, hhandled]
      exact List.mem_singleton_self _
    obtain ⟨htrusted, hresult⟩ := Prod.mk.inj hpair
    have hacts := (hfaithful.acts h hh).1
    rw [hresult, htrusted] at hacts
    cases hacts
  · have hmap : (run Polling.step (.init (constructedOn guiConf true "secured1"))
        untimedRun).map (fun s => ((s.app.ui.attestationStatus, timeText s.app.ui.attestationTime),
          s.handled.map fun h => (h.poll.trusted, timeText h.poll.validateTime),
          (lastShown s.handled).map fun h => (h.poll.trusted, timeText h.poll.validateTime)))
          = some (("The NED is trusted", "Thu Dec 10 09:12:37 2015"),
              [(some true, ""), (some false, "Thu Dec 10 09:12:37 2015")],
              some (some true, "")) := by
      decide +kernel
    obtain ⟨s, hrun, heq⟩ := Option.map_eq_some_iff.mp hmap
    simp only [Prod.mk.injEq] at heq
    obtain ⟨⟨hstatus, htime⟩, hhandled, hlast⟩ := heq
    refine ⟨s, hrun, fun hfaithful => ?_, hstatus, htime, hhandled⟩
    obtain ⟨h, hh, hpair⟩ := Option.map_eq_some_iff.mp hlast
    obtain ⟨htrusted, huntimed⟩ := Prod.ext_iff.mp hpair
    have hshown : s.app.ui.attestationTime = h.poll.validateTime :=
      congrArg Prod.snd (hfaithful.shows h true hh htrusted)
    have hcontra := htime.symm.trans ((congrArg timeText hshown).trans huntimed)
    revert hcontra
    decide

/-! ### The poll of the verdict -/

/-- A NED was looked up in the course of the run, for the access point the thread knew then. -/
def LookedUp (currentAP : Option String) (request : PollRequest) (s₀ : Polling)
    (es : List PollingEvent) : Prop :=
  ∃ pre post s, es = pre ++ .lookUp :: post ∧ run Polling.step s₀ pre = some s ∧
    currentAP = s.app.attestationTask.currentAP ∧
    pollRequest s.app.config currentAP = some request

/-- The poll got its answer in the course of the run, after its NED was looked up. -/
def Poll.Answered (poll : Poll) (s₀ : Polling) (es : List PollingEvent) : Prop :=
  ∃ pre post, es = pre ++ .answer poll.answer :: post ∧
    LookedUp poll.currentAP poll.request s₀ pre

/-- A poll of the run that ended trusted. -/
def FromTrustedPoll (s₀ : Polling) (es : List PollingEvent) (source : Option Poll) : Prop :=
  ∃ poll, source = some poll ∧ poll.trusted = some true ∧ poll.Answered s₀ es

/-- The run of the slot wrote its result on the label of the verdict. -/
def Handling.writesStatus (h : Handling) : Bool := h.result.isSome && decide (StrTakes h.time)

/-- The last run of the slot that wrote the label of the verdict. -/
def lastWriter (handled : List Handling) : Option Handling := handled.find? (·.writesStatus)

/-- What the label of the verdict shows after these runs of the slot. -/
def statusAfter (handled : List Handling) : String :=
  match (lastWriter handled).bind (·.result) with
  | some result => verdictText result
  | none => "Waiting..."

/-- The poll the thread is in has looked its NED up, and got its answer if it has one. -/
def AttestationThread.Traced (s₀ : Polling) (es : List PollingEvent) : AttestationThread → Prop
  | .post currentAP request => LookedUp currentAP request s₀ es
  | .storeTrusted poll => poll.Answered s₀ es
  | .storeTime poll => poll.Answered s₀ es
  | .emit poll => poll.Answered s₀ es
  | _ => True

/-- A trusted verdict the slot is about to show is the one of a poll. -/
def Slot.Traced (s₀ : Polling) (es : List PollingEvent) : Slot → Prop
  | .readTime _ result source => result = true → FromTrustedPoll s₀ es source
  | _ => True

/-- Every trusted verdict in the state that the events `es` lead to is the one of a poll, and the
label shows the verdict of the slot that wrote it last. -/
structure Polling.Traced (s s₀ : Polling) (es : List PollingEvent) : Prop where
  config_eq : s.app.config = s₀.app.config
  thread : s.thread.Traced s₀ es
  stored : s.app.attestationTask.trusted = some true → FromTrustedPoll s₀ es s.stored
  slot : s.slot.Traced s₀ es
  handled : ∀ h ∈ s.handled, h.result = some true → FromTrustedPoll s₀ es h.source
  shown : s.app.ui.attestationStatus = statusAfter s.handled

variable {s₀ : Polling} {es : List PollingEvent} {handled : List Handling}

lemma lastWriter_cons_of_writes {h : Handling} (hwrites : h.writesStatus = true) :
    lastWriter (h :: handled) = some h :=
  List.find?_cons_of_pos hwrites

lemma lastWriter_cons_of_not_writes {h : Handling} (hwrites : h.writesStatus = false) :
    lastWriter (h :: handled) = lastWriter handled :=
  List.find?_cons_of_neg (by simp [hwrites])

lemma statusAfter_cons_of_writes {h : Handling} {result : Bool} (hresult : h.result = some result)
    (htime : StrTakes h.time) : statusAfter (h :: handled) = verdictText result := by
  have hwrites : h.writesStatus = true := by simp [Handling.writesStatus, hresult, htime]
  rw [statusAfter, lastWriter_cons_of_writes hwrites, Option.bind_some, hresult]

lemma statusAfter_cons_of_not_writes {h : Handling} (hwrites : h.writesStatus = false) :
    statusAfter (h :: handled) = statusAfter handled := by
  rw [statusAfter, statusAfter, lastWriter_cons_of_not_writes hwrites]

/-- The label reads trusted exactly if the slot that wrote it last showed such a verdict. -/
lemma statusAfter_eq_trusted_iff :
    statusAfter handled = verdictText true ↔
      ∃ h, lastWriter handled = some h ∧ h.result = some true := by
  rw [← Option.bind_eq_some_iff, statusAfter]
  cases (lastWriter handled).bind (·.result) with
  | none => exact iff_of_false (by decide) (Option.some_ne_none true).symm
  | some result =>
    cases result with
    | true => exact iff_of_true rfl rfl
    | false => exact iff_of_false (by decide) (by decide)

lemma LookedUp.concat {currentAP : Option String} {request : PollRequest}
    (h : LookedUp currentAP request s₀ es) (e : PollingEvent) :
    LookedUp currentAP request s₀ (es ++ [e]) := by
  obtain ⟨pre, post, s, rfl, hrest⟩ := h
  exact ⟨pre, post ++ [e], s, by simp, hrest⟩

lemma Poll.Answered.concat {poll : Poll} (h : poll.Answered s₀ es) (e : PollingEvent) :
    poll.Answered s₀ (es ++ [e]) := by
  obtain ⟨pre, post, rfl, hlookedUp⟩ := h
  exact ⟨pre, post ++ [e], by simp, hlookedUp⟩

lemma FromTrustedPoll.concat {source : Option Poll} (h : FromTrustedPoll s₀ es source)
    (e : PollingEvent) : FromTrustedPoll s₀ (es ++ [e]) source := by
  obtain ⟨poll, hsource, htrusted, hanswered⟩ := h
  exact ⟨poll, hsource, htrusted, hanswered.concat e⟩

lemma AttestationThread.Traced.concat {thread : AttestationThread} (h : thread.Traced s₀ es)
    (e : PollingEvent) : thread.Traced s₀ (es ++ [e]) := by
  cases thread with
  | post currentAP request => exact LookedUp.concat h e
  | storeTrusted poll | storeTime poll | emit poll => exact Poll.Answered.concat h e
  | _ => trivial

lemma Slot.Traced.concat {slot : Slot} (h : slot.Traced s₀ es) (e : PollingEvent) :
    slot.Traced s₀ (es ++ [e]) := by
  cases slot with
  | readTime poll result source => exact fun hresult => (h hresult).concat e
  | _ => trivial

/-- What holds of a state holds on when the run goes on. -/
lemma Polling.Traced.concat {s : Polling} (h : s.Traced s₀ es) (e : PollingEvent) :
    s.Traced s₀ (es ++ [e]) where
  config_eq := h.config_eq
  thread := h.thread.concat e
  stored htrusted := (h.stored htrusted).concat e
  slot := h.slot.concat e
  handled h' hh' hresult := (h.handled h' hh' hresult).concat e
  shown := h.shown

lemma Polling.Traced.step {s s' : Polling} {e : PollingEvent}
    (hrun : run Polling.step s₀ es = some s) (hs : s.Traced s₀ es) (hstep : s.step e = some s') :
    s'.Traced s₀ (es ++ [e]) := by
  have hbefore := hs.thread
  obtain ⟨hconfig, hthreadOk, hstored, hslotOk, hhandled, hshown⟩ := hs.concat e
  cases Polling.step_sound hstep with
  | start hthread => exact ⟨hconfig, trivial, hstored, hslotOk, hhandled, hshown⟩
  | startRunning hthread => exact ⟨hconfig, hthreadOk, hstored, hslotOk, hhandled, hshown⟩
  | stop => exact ⟨hconfig, trivial, hstored, hslotOk, hhandled, hshown⟩
  | reset hthread =>
    exact ⟨hconfig, trivial, nofun, hslotOk, hhandled, hshown⟩
  | lookUp hthread hrequest =>
    exact ⟨hconfig, ⟨es, [], s, rfl, hrun, rfl, hrequest⟩, hstored, hslotOk, hhandled, hshown⟩
  | lookUpRaises hthread hrequest =>
    exact ⟨hconfig, trivial, hstored, hslotOk, hhandled, hshown⟩
  | answerRaises hthread hraises =>
    exact ⟨hconfig, trivial, hstored, hslotOk, hhandled, hshown⟩
  | answer hthread hraises =>
    rw [hthread] at hbefore
    exact ⟨hconfig, ⟨es, [], rfl, hbefore⟩, hstored, hslotOk, hhandled, hshown⟩
  | storeTrusted hthread =>
    rw [hthread] at hthreadOk
    refine ⟨hconfig, hthreadOk, fun htrusted => ?_, hslotOk, hhandled, hshown⟩
    exact ⟨_, rfl, htrusted, hthreadOk⟩
  | storeTime hthread =>
    rw [hthread] at hthreadOk
    exact ⟨hconfig, hthreadOk, hstored, hslotOk, hhandled, hshown⟩
  | emit hthread => exact ⟨hconfig, trivial, hstored, hslotOk, hhandled, hshown⟩
  | wake hthread => exact ⟨hconfig, trivial, hstored, hslotOk, hhandled, hshown⟩
  | takeSignal hslot hqueue => exact ⟨hconfig, hthreadOk, hstored, trivial, hhandled, hshown⟩
  | testFalse hslot htrusted =>
    exact ⟨hconfig, hthreadOk, hstored, nofun, hhandled, hshown⟩
  | testFalseFails hslot htrusted =>
    exact ⟨hconfig, hthreadOk, hstored, trivial, hhandled, hshown⟩
  | testTrue hslot htrusted =>
    exact ⟨hconfig, hthreadOk, hstored, fun _ => hstored htrusted, hhandled, hshown⟩
  | testTrueFails hslot htrusted =>
    refine ⟨hconfig, hthreadOk, hstored, trivial, ?_, ?_⟩
    · intro h hh hresult
      rcases List.mem_cons.mp hh with rfl | hh
      · cases hresult
      · exact hhandled h hh hresult
    · -- a run without a result leaves the label
      rw [statusAfter_cons_of_not_writes rfl]
      exact hshown
  | readTime hslot =>
    rename_i poll result source
    rw [hslot] at hslotOk
    have hframe := frames_setAttestationStatus (v := fun app => (app.config, app.attestationTask))
      (fun _ _ => rfl) result s.app
    obtain ⟨hconfig', htask⟩ := Prod.mk.inj hframe
    refine ⟨hconfig'.trans hconfig, hthreadOk, ?_, trivial, ?_, ?_⟩
    · intro htrusted
      exact hstored (htask ▸ htrusted)
    · intro h hh hresult
      rcases List.mem_cons.mp hh with rfl | hh
      · exact hslotOk (Option.some.inj hresult)
      · exact hhandled h hh hresult
    · dsimp only
      rw [status_setAttestationStatus]
      by_cases htime : StrTakes s.app.attestationTask.validateTime
      · rw [if_pos htime, statusAfter_cons_of_writes rfl htime]
      · rw [if_neg htime, statusAfter_cons_of_not_writes (by simp [Handling.writesStatus, htime])]
        exact hshown
  | setApIp => exact ⟨hconfig, hthreadOk, hstored, hslotOk, hhandled, hshown⟩
  | setTaskAP hmoving => exact ⟨hconfig, hthreadOk, hstored, hslotOk, hhandled, hshown⟩

/-- What a poll depends on of the constructed program. -/
def App.pollView (app : App) : RawConfigParser × Option Bool × String :=
  (app.config, app.attestationTask.trusted, app.ui.attestationStatus)

lemma unlinked_pollView : Unlinked App.pollView :=
  ⟨fun _ _ _ _ => rfl, fun _ _ => rfl, fun _ _ _ _ => rfl, fun _ _ => rfl, fun _ _ => rfl,
    fun _ _ => rfl⟩

lemma Polling.traced_init {config : RawConfigParser} {init : InitEnv} {app : App}
    (hinit : App.init config init = some app) :
    app.config = config ∧ (Polling.init app).Traced (.init app) [] := by
  obtain ⟨useMobility, nedId, connName, hview⟩ :=
    unlinked_pollView.view_init (fun _ _ _ => rfl) hinit
  obtain ⟨hconfig, hrest⟩ := Prod.mk.inj hview
  obtain ⟨htrusted, hstatus⟩ := Prod.mk.inj hrest
  refine ⟨hconfig, rfl, ?_, fun htrue => ?_, trivial, by simp [Polling.init], hstatus⟩
  · rw [Polling.init]
    split_ifs <;> trivial
  · exact absurd (htrusted.symm.trans htrue) (by simp [App.constructed])

lemma Polling.traced_of_run {config : RawConfigParser} {init : InitEnv} {app : App} {s : Polling}
    (hinit : App.init config init = some app) (hrun : run Polling.step (.init app) es = some s) :
    s.app.config = config ∧ s.Traced (.init app) es := by
  obtain ⟨hconfig, hinitial⟩ := Polling.traced_init hinit
  have htraced : s.Traced (.init app) es := by
    refine run_induction (P := fun es s => s.Traced (.init app) es) hinitial ?_ hrun
    intro pre s₁ e s₂ hpre h hstep
    exact h.step hpre hstep
  exact ⟨htraced.config_eq.trans hconfig, htraced⟩

/-- The label reads trusted exactly if the run of the slot that wrote it last showed such a verdict,
and every trusted verdict that the slot showed is the one of a poll of the run that ended trusted,
about the NED of the access point the thread knew when the poll looked it up, or else the one of
`NED_ID`. -/
theorem trusted_shown_of_poll (config : RawConfigParser) (init : InitEnv) (app : App)
    (es : List PollingEvent) (s : Polling) (hinit : App.init config init = some app)
    (hrun : run Polling.step (.init app) es = some s) :
    (s.app.ui.attestationStatus = "The NED is trusted" ↔
      ∃ h, lastWriter s.handled = some h ∧ h.result = some true) ∧
    ∀ h ∈ s.handled, h.result = some true → ∃ poll, h.source = some poll ∧
      poll.trusted = some true ∧ poll.Answered (.init app) es ∧
      ∃ nedId nedName digest, config.get "NED" "NED_ID" = some nedId ∧
        NamesNed config nedId poll.currentAP nedName ∧
        AsksAbout poll.request.data nedName digest := by
  obtain ⟨-, htraced⟩ := Polling.traced_of_run hinit hrun
  constructor
  · rw [htraced.shown]
    exact statusAfter_eq_trusted_iff
  · intro h hh hresult
    obtain ⟨poll, hsource, htrusted, hanswered⟩ := htraced.handled h hh hresult
    refine ⟨poll, hsource, htrusted, hanswered, ?_⟩
    obtain ⟨-, -, -, pre, post, s₁, -, hpre, -, hrequest⟩ := hanswered
    rw [(Polling.traced_of_run hinit hpre).1] at hrequest
    obtain ⟨nedId, nedName, digest, hned, hasks, hnames, -⟩ := asksAbout_of_pollRequest hrequest
    exact ⟨nedId, nedName, digest, hned, hnames, hasks⟩

theorem trusted_shown_of_poll_secured1 :
    ∃ app s, App.init guiConf (startOn ⟨"secured1", "00:01"⟩) = some app ∧
      run Polling.step (.init app) attestedRun = some s ∧
      s.app.ui.attestationStatus = "The NED is trusted" ∧
      ∃ h ∈ s.handled, h.result = some true ∧ ∃ poll, h.source = some poll ∧
        poll.trusted = some true ∧ poll.Answered (.init app) attestedRun ∧
        ∃ nedId nedName digest, guiConf.get "NED" "NED_ID" = some nedId ∧
          NamesNed guiConf nedId poll.currentAP nedName ∧
          AsksAbout poll.request.data nedName digest := by
  have hmap : ((App.init guiConf (startOn ⟨"secured1", "00:01"⟩)).bind fun app =>
      (run Polling.step (.init app) attestedRun).map (·.app.ui.attestationStatus))
        = some "The NED is trusted" := by
    decide +kernel
  obtain ⟨app, s, hinit, hrun, hstatus⟩ := exists_run hmap
  obtain ⟨hlabel, hpolls⟩ := trusted_shown_of_poll guiConf _ app _ s hinit hrun
  obtain ⟨h, hlast, hresult⟩ := hlabel.mp hstatus
  have hh : h ∈ s.handled := List.mem_of_find?_eq_some hlast
  exact ⟨app, s, hinit, hrun, hstatus, h, hh, hresult, hpolls h hh hresult⟩

/-- The display shows a trusted verdict about the NED associated with the access point that is
recorded, if it shows one. -/
def Polling.ShowsRecorded (s : Polling) : Prop :=
  s.app.ui.attestationStatus = "The NED is trusted" →
    ∃ h ∈ s.handled, ∃ poll ssid nedName digest, h.source = some poll ∧
      s.app.currentAP = some ssid ∧ s.app.config.get "VERIFIER" ssid = some nedName ∧
      AsksAbout poll.request.data nedName digest

/-- The name of the NED that the data of a request asks about. -/
def hostOf (data : Json) : String :=
  match (data.member? "hosts").bind (·.index? 0) with
  | some (.str nedName) => nedName
  | _ => ""

lemma hostOf_of_asksAbout {data : Json} {nedName digest : String}
    (h : AsksAbout data nedName digest) : hostOf data = nedName := by
  obtain ⟨level, rfl⟩ := h
  rfl

/-- The client moves to the access point of another NED. -/
def movedRun : List PollingEvent :=
  attestedRun ++ [.setApIp "secured2" "10.0.0.8", .setTaskAP "secured2"]

/-- The verdict about the NED of the access point before is still shown after a move. -/
theorem trusted_shown_after_move :
    ∃ app s, App.init partialConf (startOn ⟨"secured1", "00:01"⟩) = some app ∧
      run Polling.step (.init app) movedRun = some s ∧ ¬ s.ShowsRecorded := by
  have hmap : ((App.init partialConf (startOn ⟨"secured1", "00:01"⟩)).bind fun app =>
      (run Polling.step (.init app) movedRun).map fun s =>
        (s.app.ui.attestationStatus,
          (s.app.currentAP, s.app.currentAP.bind (s.app.config.get "VERIFIER")),
          s.handled.all fun h => h.source.all fun poll => hostOf poll.request.data = "ned"))
        = some ("The NED is trusted", (some "secured2", some "ned3"), true) := by
    decide +kernel
  obtain ⟨app, s, hinit, hrun, heq⟩ := exists_run hmap
  simp only [Prod.mk.injEq] at heq
  obtain ⟨hstatus, ⟨hcurrent, hassociated⟩, hhosts⟩ := heq
  refine ⟨app, s, hinit, hrun, fun h => ?_⟩
  obtain ⟨h, hh, poll, ssid, nedName, digest, hsource, hssid, hned, hasks⟩ := h hstatus
  have hhost := List.all_eq_true.mp hhosts h hh
  rw [hsource, Option.all_some, decide_eq_true_eq, hostOf_of_asksAbout hasks] at hhost
  rw [hssid, Option.bind_some, hned, hhost] at hassociated
  revert hassociated
  decide

end SecuredApp
