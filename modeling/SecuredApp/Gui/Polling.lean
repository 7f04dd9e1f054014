import SecuredApp.Core.Run
import SecuredApp.Gui.Lookup
import SecuredApp.Mobility.Frames

/-!
# The attestation thread beside the GUI

The thread of `AttestationRequestThread` polls the verifier while the GUI handles the signals of
its earlier polls. Every statement that reads or writes an attribute the two share is a step of
its own here, and a signal carries the poll it was emitted for, which the slot cannot see.
-/

namespace SecuredApp

open SecuredApp.Core

/-- A poll that got its answer: the access point its NED was looked up for, and its request. -/
structure Poll where
  currentAP : Option String
  request : PollRequest
  answer : Option (Option Json)

def Poll.trusted (poll : Poll) : Option Bool := pollTrusted poll.answer

def Poll.validateTime (poll : Poll) : Json := pollTime poll.answer

/-- Where the attestation thread is, by the statement it comes to next. -/
inductive AttestationThread where
  | stopped
  | reset                                       -- `self.trusted = False`
  | lookUp                                      -- the look-ups of `issuePollAttestation`
  | post (currentAP : Option String) (request : PollRequest)
  | storeTrusted (poll : Poll)
  | storeTime (poll : Poll)
  | emit (poll : Poll)
  | sleep

/-- Where the slot `onAttestation` is, in the part that reads what the thread writes. The part
after the verdict is shown reads none of it: the GUI is idle there. -/
inductive Slot where
  | idle
  | testFalse (poll : Poll)                     -- `if self.attestationTask.trusted == False`
  | testTrue (poll : Poll)                      -- `elif self.attestationTask.trusted == True`
  | readTime (poll : Poll) (result : Bool) (source : Option Poll)  -- `setAttestationStatus(result)`

/-- What a run of the slot did: the poll whose signal it handled, the result it showed and the time
it read for it, and the poll that had stored this result. -/
structure Handling where
  poll : Poll
  result : Option Bool
  source : Option Poll
  time : Json

/-- The program with its attestation thread, its signals that wait for the GUI, and the slot.
`stored` is the poll whose verdict `trusted` holds, `moving` has the access points of which
`setApIp` has told the GUI but not the thread yet, and `handled` is what the slot did, newest
first. -/
structure Polling where
  app : App
  thread : AttestationThread
  stored : Option Poll
  queue : List Poll
  slot : Slot
  moving : List String
  handled : List Handling

/-- The program after its constructor. -/
def Polling.init (app : App) : Polling where
  app := app
  thread := if app.attestationTask.running then .reset else .stopped
  stored := none
  queue := []
  slot := .idle
  moving := []
  handled := []

inductive PollingEvent where
  | start                                       -- `attestationTask.start()`
  | stop                                        -- `attestationTask.stop()` ends it anywhere
  | reset
  | lookUp
  | answer (answer : Option (Option Json))      -- what comes of the request
  | storeTrusted
  | storeTime
  | emit
  | wake                                        -- the end of the sleep
  | takeSignal                                  -- the GUI gets to the oldest signal
  | testFalse
  | testTrue
  | readTime
  | setApIp (currentAP ip : String)             -- `setApIp` writes the attributes of the GUI
  | setTaskAP (currentAP : String)              -- and then the one of the thread

/-! ### Steps -/

/-- A step of the thread. -/
def Polling.threadStep (s : Polling) : PollingEvent → Option Polling
  | .reset =>
    match s.thread with
    | .reset => some { s with
        app.attestationTask.trusted := some false, stored := none, thread := .lookUp }
    | _ => none
  | .lookUp =>
    match s.thread with
    | .lookUp =>
      match pollRequest s.app.config s.app.attestationTask.currentAP with
      -- the exception ends the thread
      | none => some { s with app.attestationTask.running := false, thread := .stopped }
      | some request => some { s with thread := .post s.app.attestationTask.currentAP request }
    | _ => none
  | .answer answer =>
    match s.thread with
    | .post currentAP request =>
      -- and so does the one of the handler
      if handlerRaises answer then
        some { s with app.attestationTask.running := false, thread := .stopped }
      else some { s with thread := .storeTrusted ⟨currentAP, request, answer⟩ }
    | _ => none
  | .storeTrusted =>
    match s.thread with
    | .storeTrusted poll => some { s with
        app.attestationTask.trusted := poll.trusted
        stored := some poll
        thread := .storeTime poll }
    | _ => none
  | .storeTime =>
    match s.thread with
    | .storeTime poll => some { s with
        app.attestationTask.validateTime := poll.validateTime, thread := .emit poll }
    | _ => none
  | .emit =>
    match s.thread with
    | .emit poll => some { s with
        app.signals.requestTaskFinished := s.app.signals.requestTaskFinished + 1
        queue := s.queue ++ [poll]
        thread := .sleep }
    | _ => none
  | .wake =>
    match s.thread with
    | .sleep => some { s with thread := .reset }
    | _ => none
  | _ => none

/-- A step of the slot. -/
def Polling.slotStep (s : Polling) : PollingEvent → Option Polling
  | .takeSignal =>
    match s.slot, s.queue with
    | .idle, poll :: queue => some { s with
        app.signals.requestTaskFinished := s.app.signals.requestTaskFinished - 1
        queue := queue
        slot := .testFalse poll }
    | _, _ => none
  | .testFalse =>
    match s.slot with
    | .testFalse poll =>
      if s.app.attestationTask.trusted = some false then
        some { s with slot := .readTime poll false s.stored }
      else some { s with slot := .testTrue poll }
    | _ => none
  | .testTrue =>
    match s.slot with
    | .testTrue poll =>
      if s.app.attestationTask.trusted = some true then
        some { s with slot := .readTime poll true s.stored }
      else some { s with slot := .idle, handled := ⟨poll, none, none, .null⟩ :: s.handled }
    | _ => none
  | .readTime =>
    match s.slot with
    | .readTime poll result source => some { s with
        app := after (setAttestationStatus result) s.app
        slot := .idle
        handled := ⟨poll, some result, source, s.app.attestationTask.validateTime⟩ :: s.handled }
    | _ => none
  | _ => none

/-- A step of the program: the thread is started and stopped, and the access point changes, at any
time. -/
def Polling.step (s : Polling) : PollingEvent → Option Polling
  | .start =>
    match s.thread with
    | .stopped => some { s with app.attestationTask.running := true, thread := .reset }
    | _ => some s
  | .stop => some { s with app.attestationTask.running := false, thread := .stopped }
  | .setApIp currentAP ip => some { s with
      app.currentAP := some currentAP, app.ip := some ip, moving := currentAP :: s.moving }
  | .setTaskAP currentAP =>
    if currentAP ∈ s.moving then
      some { s with
        app.attestationTask.currentAP := some currentAP, moving := s.moving.erase currentAP }
    else none
  | e => (s.threadStep e).or (s.slotStep e)

/-- What a step can do, by its event. -/
inductive Polling.Step (s : Polling) : PollingEvent → Polling → Prop
  | start (hthread : s.thread = .stopped) :
      Polling.Step s .start { s with app.attestationTask.running := true, thread := .reset }
  | startRunning (hthread : s.thread ≠ .stopped) : Polling.Step s .start s
  | stop : Polling.Step s .stop { s with
      app.attestationTask.running := false, thread := .stopped }
  | reset (hthread : s.thread = .reset) :
      Polling.Step s .reset { s with
        app.attestationTask.trusted := some false, stored := none, thread := .lookUp }
  | lookUp {request : PollRequest} (hthread : s.thread = .lookUp)
      (hrequest : pollRequest s.app.config s.app.attestationTask.currentAP = some request) :
      Polling.Step s .lookUp { s with thread := .post s.app.attestationTask.currentAP request }
  | lookUpRaises (hthread : s.thread = .lookUp)
      (hrequest : pollRequest s.app.config s.app.attestationTask.currentAP = none) :
      Polling.Step s .lookUp { s with app.attestationTask.running := false, thread := .stopped }
  | answer {currentAP : Option String} {request : PollRequest} {answer : Option (Option Json)}
      (hthread : s.thread = .post currentAP request) (hraises : ¬ handlerRaises answer = true) :
      Polling.Step s (.answer answer) { s with
        thread := .storeTrusted ⟨currentAP, request, answer⟩ }
  | answerRaises {currentAP : Option String} {request : PollRequest}
      {answer : Option (Option Json)} (hthread : s.thread = .post currentAP request)
      (hraises : handlerRaises answer = true) :
      Polling.Step s (.answer answer) { s with
        app.attestationTask.running := false, thread := .stopped }
  | storeTrusted {poll : Poll} (hthread : s.thread = .storeTrusted poll) :
      Polling.Step s .storeTrusted { s with
        app.attestationTask.trusted := poll.trusted
        stored := some poll
        thread := .storeTime poll }
  | storeTime {poll : Poll} (hthread : s.thread = .storeTime poll) :
      Polling.Step s .storeTime { s with
        app.attestationTask.validateTime := poll.validateTime, thread := .emit poll }
  | emit {poll : Poll} (hthread : s.thread = .emit poll) :
      Polling.Step s .emit { s with
        app.signals.requestTaskFinished := s.app.signals.requestTaskFinished + 1
        queue := s.queue ++ [poll]
        thread := .sleep }
  | wake (hthread : s.thread = .sleep) : Polling.Step s .wake { s with thread := .reset }
  | takeSignal {poll : Poll} {queue : List Poll} (hslot : s.slot = .idle)
      (hqueue : s.queue = poll :: queue) :
      Polling.Step s .takeSignal { s with
        app.signals.requestTaskFinished := s.app.signals.requestTaskFinished - 1
        queue := queue
        slot := .testFalse poll }
  | testFalse {poll : Poll} (hslot : s.slot = .testFalse poll)
      (htrusted : s.app.attestationTask.trusted = some false) :
      Polling.Step s .testFalse { s with slot := .readTime poll false s.stored }
  | testFalseFails {poll : Poll} (hslot : s.slot = .testFalse poll)
      (htrusted : s.app.attestationTask.trusted ≠ some false) :
      Polling.Step s .testFalse { s with slot := .testTrue poll }
  | testTrue {poll : Poll} (hslot : s.slot = .testTrue poll)
      (htrusted : s.app.attestationTask.trusted = some true) :
      Polling.Step s .testTrue { s with slot := .readTime poll true s.stored }
  | testTrueFails {poll : Poll} (hslot : s.slot = .testTrue poll)
      (htrusted : s.app.attestationTask.trusted ≠ some true) :
      Polling.Step s .testTrue { s with
        slot := .idle, handled := ⟨poll, none, none, .null⟩ :: s.handled }
  | readTime {poll : Poll} {result : Bool} {source : Option Poll}
      (hslot : s.slot = .readTime poll result source) :
      Polling.Step s .readTime { s with
        app := after (setAttestationStatus result) s.app
        slot := .idle
        handled := ⟨poll, some result, source, s.app.attestationTask.validateTime⟩ :: s.handled }
  | setApIp {currentAP ip : String} :
      Polling.Step s (.setApIp currentAP ip) { s with
        app.currentAP := some currentAP, app.ip := some ip, moving := currentAP :: s.moving }
  | setTaskAP {currentAP : String} (hmoving : currentAP ∈ s.moving) :
      Polling.Step s (.setTaskAP currentAP) { s with
        app.attestationTask.currentAP := some currentAP, moving := s.moving.erase currentAP }

lemma Polling.step_sound {s s' : Polling} {e : PollingEvent} (h : s.step e = some s') :
    s.Step e s' := by
  cases e with
  | start =>
    simp only [Polling.step] at h
    split at h
    · rename_i hthread
      obtain rfl := Option.some.inj h
      exact .start hthread
    · rename_i hthread
      obtain rfl := Option.some.inj h
      exact .startRunning hthread
  | stop | setApIp =>
    obtain rfl := Option.some.inj h
    constructor
  | setTaskAP =>
    simp only [Polling.step] at h
    split_ifs at h with hmoving
    obtain rfl := Option.some.inj h
    exact .setTaskAP hmoving
  | reset | storeTrusted | storeTime | emit | wake =>
    simp only [Polling.step, Polling.threadStep, Polling.slotStep, Option.or_none] at h
    split at h
    · rename_i hthread
      obtain rfl := Option.some.inj h
      constructor
      exact hthread
    · cases h
  | lookUp =>
    simp only [Polling.step, Polling.threadStep, Polling.slotStep, Option.or_none] at h
    split at h
    · rename_i hthread
      split at h
      · rename_i hrequest
        obtain rfl := Option.some.inj h
        exact .lookUpRaises hthread hrequest
      · rename_i hrequest
        obtain rfl := Option.some.inj h
        exact .lookUp hthread hrequest
    · cases h
  | answer answer =>
    simp only [Polling.step, Polling.threadStep, Polling.slotStep, Option.or_none] at h
    split at h
    · rename_i hthread
      split_ifs at h with hraises
      · obtain rfl := Option.some.inj h
        exact .answerRaises hthread hraises
      · obtain rfl := Option.some.inj h
        exact .answer hthread hraises
    · cases h
  | takeSignal =>
    simp only [Polling.step, Polling.threadStep, Polling.slotStep, Option.none_or] at h
    split at h
    · rename_i hslot hqueue
      obtain rfl := Option.some.inj h
      exact .takeSignal hslot hqueue
    · cases h
  | testFalse =>
    simp only [Polling.step, Polling.threadStep, Polling.slotStep, Option.none_or] at h
    split at h
    · rename_i hslot
      split_ifs at h with htrusted
      · obtain rfl := Option.some.inj h
        exact .testFalse hslot htrusted
      · obtain rfl := Option.some.inj h
        exact .testFalseFails hslot htrusted
    · cases h
  | testTrue =>
    simp only [Polling.step, Polling.threadStep, Polling.slotStep, Option.none_or] at h
    split at h
    · rename_i hslot
      split_ifs at h with htrusted
      · obtain rfl := Option.some.inj h
        exact .testTrue hslot htrusted
      · obtain rfl := Option.some.inj h
        exact .testTrueFails hslot htrusted
    · cases h
  | readTime =>
    simp only [Polling.step, Polling.threadStep, Polling.slotStep, Option.none_or] at h
    split at h
    · rename_i hslot
      obtain rfl := Option.some.inj h
      exact .readTime hslot
    · cases h

/-! ### One thread at a time -/

/-- A poll that nothing comes between is `issuePollAttestation`. -/
lemma Polling.run_poll {s : Polling} {request : PollRequest} (post : Post)
    (hthread : s.thread = .lookUp)
    (hrequest : pollRequest s.app.config s.app.attestationTask.currentAP = some request)
    (hraises : handlerRaises (post request) = false) :
    ∃ s', run Polling.step s [.lookUp, .answer (post request), .storeTrusted, .storeTime, .emit]
        = some s' ∧
      s'.app = after (issuePollAttestation post) s.app ∧
      s'.queue = s.queue ++ [⟨s.app.attestationTask.currentAP, request, post request⟩] := by
  have hafter := after_of_ok (run_issuePollAttestation hrequest hraises)
  simp only [run_cons, Polling.step, Polling.threadStep, Polling.slotStep, hthread, hrequest,
    hraises, Option.or_none, Option.bind_some, run_nil]
  exact ⟨_, rfl, hafter.symm, rfl⟩

/-- A slot that nothing comes between shows the verdict that is stored. -/
lemma Polling.run_slot {s : Polling} {poll : Poll} {queue : List Poll} {result : Bool}
    (hslot : s.slot = .idle) (hqueue : s.queue = poll :: queue)
    (htrusted : s.app.attestationTask.trusted = some result) :
    ∃ s', run Polling.step s (.takeSignal :: .testFalse ::
        if result then [.testTrue, .readTime] else [.readTime]) = some s' ∧
      s'.app = after (setAttestationStatus result) { s.app with
        signals.requestTaskFinished := s.app.signals.requestTaskFinished - 1 } ∧
      s'.queue = queue ∧ s'.slot = .idle := by
  cases result with
  | true =>
    simp [run_cons, Polling.step, Polling.threadStep, Polling.slotStep, hslot, hqueue, htrusted]
  | false =>
    simp [run_cons, Polling.step, Polling.threadStep, Polling.slotStep, hslot, hqueue, htrusted]

/-! ### What is shown -/

/-- The text of the attestation label. -/
def verdictText (result : Bool) : String :=
  if result then "The NED is trusted" else "The NED is not trusted"

/-- A time that `setAttestationStatus` can write on its label. -/
def ShowableTime : Json → Prop
  | .null => False
  | .str s => (s.toList.all fun c => c.toNat < 128) = true
  | _ => True

instance (time : Json) : Decidable (ShowableTime time) := by
  cases time <;> unfold ShowableTime <;> infer_instance

/-- What the label of the verdict and the one of the time show. -/
def App.shown (app : App) : String × Json := (app.ui.attestationStatus, app.ui.attestationTime)

lemma shown_setAttestationStatus {result : Bool} {app : App}
    (h : ShowableTime app.attestationTask.validateTime) :
    (after (setAttestationStatus result) app).shown
      = (verdictText result, app.attestationTask.validateTime) := by
  rw [setAttestationStatus, after_get_bind, after_modify_bind]
  cases htime : app.attestationTask.validateTime with
  | null =>
    rw [htime] at h
    exact absurd h id
  | str time =>
    rw [htime, ShowableTime] at h
    rw [strOf, if_pos h, pure_bind]
    rfl
  | _ => rfl

/-- A time that `str` takes, which `setAttestationStatus` does before it writes the verdict. -/
def StrTakes : Json → Prop
  | .str s => (s.toList.all fun c => c.toNat < 128) = true
  | _ => True

instance (time : Json) : Decidable (StrTakes time) := by
  cases time <;> unfold StrTakes <;> infer_instance

/-- The label of the verdict is written, or `str` raises before. -/
lemma status_setAttestationStatus (result : Bool) (app : App) :
    (after (setAttestationStatus result) app).ui.attestationStatus
      = if StrTakes app.attestationTask.validateTime then verdictText result
        else app.ui.attestationStatus := by
  rw [setAttestationStatus, after_get_bind, after_modify_bind]
  cases app.attestationTask.validateTime with
  | str time =>
    rw [strOf]
    by_cases hascii : (time.toList.all fun c => c.toNat < 128) = true
    · rw [if_pos hascii, if_pos (show StrTakes (.str time) from hascii), pure_bind]
      rfl
    · rw [if_neg hascii, if_neg (show ¬ StrTakes (.str time) from hascii)]
      rfl
  | _ => exact (if_pos trivial).symm

end SecuredApp
