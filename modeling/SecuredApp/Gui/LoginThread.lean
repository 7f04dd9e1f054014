import SecuredApp.Gui.Session

/-!
# The login thread beside the GUI

`RequestTaskThread` has one user and one password, which every attempt from the dialog overwrites.
The thread posts the ones it read when it started; the slot that handles the reply reads the user
again. Starting a thread that runs does nothing, and its signal is queued to the GUI.
-/

namespace SecuredApp

open SecuredApp.Core

/-- What a request posts. -/
structure Credentials where
  user : String
  pw : String
deriving DecidableEq

/-- A reply, with the credentials that were posted in its request. -/
structure LoginReply where
  statusCode : ℕ
  posted : Credentials
deriving DecidableEq

/-- Where the request thread is, by the statement it comes to next. -/
inductive RequestThread where
  | finished
  | readUser                                    -- `self.login(self.user, self.pw)`
  | readPw (user : String)
  | clear (credentials : Credentials)           -- `self.r = None`
  | post (credentials : Credentials)
  | store (reply : LoginReply)                  -- `self.r = ...`
  | emit
  | finishing                                   -- the signal is sent, and the thread still runs

/-- Where the GUI is: in `login`, or in the part of `handleLoginStatus` that reads what the thread
writes. The dialogs come after that part, and while they are open the GUI handles events. -/
inductive LoginSlot where
  | idle
  | writePw (pw : String)                       -- `self.requestTask.pw = pw`
  | start                                       -- `self.requestTask.start()`
  | testReply                                   -- `if self.requestTask.r == None`
  | printStatus                                 -- the first `self.requestTask.r.status_code`
  | testStatus                                  -- `if self.requestTask.r.status_code == 200`
  | record (reply : LoginReply)                 -- `self.setUserLoggedIn(self.requestTask.user)`

/-- A reply with status 200 that was handled, and the user that was recorded for it. -/
structure Recording where
  reply : LoginReply
  user : String
deriving DecidableEq

/-- The program with its login thread: the attributes of `requestTask`, the signals that wait, and
the slots that wait in a dialog before they record that a login failed. `recorded` has the
replies with status 200 that were handled, newest first. -/
structure Login where
  app : App
  user : Option String
  pw : Option String
  r : Option LoginReply
  thread : RequestThread
  signals : ℕ
  gui : LoginSlot
  failing : ℕ
  recorded : List Recording

def Login.init (app : App) : Login where
  app := app
  user := none
  pw := none
  r := none
  thread := .finished
  signals := 0
  gui := .idle
  failing := 0
  recorded := []

inductive LoginEvent where
  | submit (user pw : String)                   -- the dialog calls `login`, which writes the user
  | writePw
  | start
  | readUser
  | readPw
  | clear
  | answer (statusCode : Option ℕ)              -- what comes of the request
  | store
  | emit
  | finish
  | takeSignal                                  -- the GUI gets to the signal
  | testReply
  | printStatus
  | testStatus
  | record
  | recordFailure                               -- the dialogs of a failed login are closed
  | logout (reply : Option ℕ)

/-- A step of the thread. -/
def Login.threadStep (s : Login) : LoginEvent → Option Login
  | .readUser =>
    match s.thread, s.user with
    | .readUser, some user => some { s with thread := .readPw user }
    | _, _ => none
  | .readPw =>
    match s.thread, s.pw with
    | .readPw user, some pw => some { s with thread := .clear ⟨user, pw⟩ }
    | _, _ => none
  | .clear =>
    match s.thread with
    | .clear credentials => some { s with r := none, thread := .post credentials }
    | _ => none
  | .answer statusCode =>
    match s.thread with
    | .post credentials =>
      match statusCode with
      | none => some { s with thread := .emit }
      | some statusCode => some { s with thread := .store ⟨statusCode, credentials⟩ }
    | _ => none
  | .store =>
    match s.thread with
    | .store reply => some { s with r := some reply, thread := .emit }
    | _ => none
  | .emit =>
    match s.thread with
    | .emit => some { s with signals := s.signals + 1, thread := .finishing }
    | _ => none
  | .finish =>
    match s.thread with
    | .finishing => some { s with thread := .finished }
    | _ => none
  | _ => none

/-- A step of the GUI. -/
def Login.guiStep (s : Login) : LoginEvent → Option Login
  | .submit user pw =>
    match s.gui with
    | .idle => some { s with user := some user, gui := .writePw pw }
    | _ => none
  | .writePw =>
    match s.gui with
    | .writePw pw => some { s with pw := some pw, gui := .start }
    | _ => none
  | .start =>
    match s.gui, s.thread with
    | .start, .finished => some { s with thread := .readUser, gui := .idle }
    | .start, _ => some { s with gui := .idle }
    | _, _ => none
  | .takeSignal =>
    match s.gui with
    | .idle => if s.signals = 0 then none
      else some { s with signals := s.signals - 1, gui := .testReply }
    | _ => none
  | .testReply =>
    match s.gui, s.r with
    | .testReply, none => some { s with gui := .idle }
    | .testReply, some _ => some { s with gui := .printStatus }
    | _, _ => none
  | .printStatus =>
    match s.gui, s.r with
    -- `None` has no `status_code`: the exception ends the slot
    | .printStatus, none => some { s with gui := .idle }
    | .printStatus, some _ => some { s with gui := .testStatus }
    | _, _ => none
  | .testStatus =>
    match s.gui, s.r with
    | .testStatus, none => some { s with gui := .idle }
    | .testStatus, some reply =>
      if reply.statusCode = 200 then some { s with gui := .record reply }
      else some { s with failing := s.failing + 1, gui := .idle }
    | _, _ => none
  | .record =>
    match s.gui, s.user with
    | .record reply, some user => some { s with
        app := after (setUserLoggedIn (some user)) { s.app with attestationWarningShown := false }
        gui := .idle
        recorded := ⟨reply, user⟩ :: s.recorded }
    | _, _ => none
  | .recordFailure =>
    match s.gui with
    | .idle => if s.failing = 0 then none
      else some { s with
        app := { after (setUserLoggedIn none) s.app with status := some false }
        failing := s.failing - 1 }
    | _ => none
  | .logout reply =>
    match s.gui with
    | .idle => some { s with app := after (SecuredApp.logout reply) s.app }
    | _ => none
  | _ => none

def Login.step (s : Login) (e : LoginEvent) : Option Login := (s.threadStep e).or (s.guiStep e)

/-- What a step can do, by its event. -/
inductive Login.Step (s : Login) : LoginEvent → Login → Prop
  | submit {user pw : String} (hgui : s.gui = .idle) :
      Login.Step s (.submit user pw) { s with user := some user, gui := .writePw pw }
  | writePw {pw : String} (hgui : s.gui = .writePw pw) :
      Login.Step s .writePw { s with pw := some pw, gui := .start }
  | start (hgui : s.gui = .start) (hthread : s.thread = .finished) :
      Login.Step s .start { s with thread := .readUser, gui := .idle }
  | startRunning (hgui : s.gui = .start) (hthread : s.thread ≠ .finished) :
      Login.Step s .start { s with gui := .idle }
  | readUser {user : String} (hthread : s.thread = .readUser) (huser : s.user = some user) :
      Login.Step s .readUser { s with thread := .readPw user }
  | readPw {user pw : String} (hthread : s.thread = .readPw user) (hpw : s.pw = some pw) :
      Login.Step s .readPw { s with thread := .clear ⟨user, pw⟩ }
  | clear {credentials : Credentials} (hthread : s.thread = .clear credentials) :
      Login.Step s .clear { s with r := none, thread := .post credentials }
  | noAnswer {credentials : Credentials} (hthread : s.thread = .post credentials) :
      Login.Step s (.answer none) { s with thread := .emit }
  | answer {credentials : Credentials} {statusCode : ℕ} (hthread : s.thread = .post credentials) :
      Login.Step s (.answer (some statusCode)) { s with
        thread := .store ⟨statusCode, credentials⟩ }
  | store {reply : LoginReply} (hthread : s.thread = .store reply) :
      Login.Step s .store { s with r := some reply, thread := .emit }
  | emit (hthread : s.thread = .emit) :
      Login.Step s .emit { s with signals := s.signals + 1, thread := .finishing }
  | finish (hthread : s.thread = .finishing) : Login.Step s .finish { s with thread := .finished }
  | takeSignal (hgui : s.gui = .idle) (hsignals : 0 < s.signals) :
      Login.Step s .takeSignal { s with signals := s.signals - 1, gui := .testReply }
  | endSlot {e : LoginEvent}
      (hgui : s.gui = .testReply ∨ s.gui = .printStatus ∨ s.gui = .testStatus)
      (hr : s.r = none) : Login.Step s e { s with gui := .idle }
  | testReply {reply : LoginReply} (hgui : s.gui = .testReply) (hr : s.r = some reply) :
      Login.Step s .testReply { s with gui := .printStatus }
  | printStatus {reply : LoginReply} (hgui : s.gui = .printStatus) (hr : s.r = some reply) :
      Login.Step s .printStatus { s with gui := .testStatus }
  | testStatus {reply : LoginReply} (hgui : s.gui = .testStatus) (hr : s.r = some reply)
      (hok : reply.statusCode = 200) :
      Login.Step s .testStatus { s with gui := .record reply }
  | testStatusFails {reply : LoginReply} (hgui : s.gui = .testStatus) (hr : s.r = some reply)
      (hok : reply.statusCode ≠ 200) :
      Login.Step s .testStatus { s with failing := s.failing + 1, gui := .idle }
  | record {reply : LoginReply} {user : String} (hgui : s.gui = .record reply)
      (huser : s.user = some user) :
      Login.Step s .record { s with
        app := after (setUserLoggedIn (some user)) { s.app with attestationWarningShown := false }
        gui := .idle
        recorded := ⟨reply, user⟩ :: s.recorded }
  | recordFailure (hgui : s.gui = .idle) (hfailing : 0 < s.failing) :
      Login.Step s .recordFailure { s with
        app := { after (setUserLoggedIn none) s.app with status := some false }
        failing := s.failing - 1 }
  | logout {reply : Option ℕ} (hgui : s.gui = .idle) :
      Login.Step s (.logout reply) { s with app := after (SecuredApp.logout reply) s.app }

lemma Login.step_sound {s s' : Login} {e : LoginEvent} (h : s.step e = some s') : s.Step e s' := by
  cases e with
  | submit | writePw | logout =>
    simp only [Login.step, Login.threadStep, Login.guiStep, Option.none_or] at h
    split at h
    · rename_i hgui
      obtain rfl := Option.some.inj h
      constructor
      exact hgui
    · cases h
  | start =>
    simp only [Login.step, Login.threadStep, Login.guiStep, Option.none_or] at h
    split at h
    · rename_i hgui hthread
      obtain rfl := Option.some.inj h
      exact .start hgui hthread
    · rename_i hgui hthread
      obtain rfl := Option.some.inj h
      exact .startRunning hgui hthread
    · cases h
  | readUser | readPw =>
    simp only [Login.step, Login.threadStep, Login.guiStep, Option.or_none] at h
    split at h
    · rename_i hthread hread
      obtain rfl := Option.some.inj h
      constructor
      · exact hthread
      · exact hread
    · cases h
  | clear | store | emit | finish =>
    simp only [Login.step, Login.threadStep, Login.guiStep, Option.or_none] at h
    split at h
    · rename_i hthread
      obtain rfl := Option.some.inj h
      constructor
      exact hthread
    · cases h
  | answer statusCode =>
    simp only [Login.step, Login.threadStep, Login.guiStep, Option.or_none] at h
    split at h
    · rename_i hthread
      cases statusCode with
      | none =>
        obtain rfl := Option.some.inj h
        exact .noAnswer hthread
      | some statusCode =>
        obtain rfl := Option.some.inj h
        exact .answer hthread
    · cases h
  | takeSignal =>
    simp only [Login.step, Login.threadStep, Login.guiStep, Option.none_or] at h
    split at h
    · rename_i hgui
      split_ifs at h with hsignals
      obtain rfl := Option.some.inj h
      exact .takeSignal hgui (Nat.pos_of_ne_zero hsignals)
    · cases h
  | testReply =>
    simp only [Login.step, Login.threadStep, Login.guiStep, Option.none_or] at h
    split at h
    · rename_i hgui hr
      obtain rfl := Option.some.inj h
      exact .endSlot (Or.inl hgui) hr
    · rename_i hgui hr
      obtain rfl := Option.some.inj h
      exact .testReply hgui hr
    · cases h
  | printStatus =>
    simp only [Login.step, Login.threadStep, Login.guiStep, Option.none_or] at h
    split at h
    · rename_i hgui hr
      obtain rfl := Option.some.inj h
      exact .endSlot (Or.inr (Or.inl hgui)) hr
    · rename_i hgui hr
      obtain rfl := Option.some.inj h
      exact .printStatus hgui hr
    · cases h
  | testStatus =>
    simp only [Login.step, Login.threadStep, Login.guiStep, Option.none_or] at h
    split at h
    · rename_i hgui hr
      obtain rfl := Option.some.inj h
      exact .endSlot (Or.inr (Or.inr hgui)) hr
    · rename_i hgui hr
      split_ifs at h with hok
      · obtain rfl := Option.some.inj h
        exact .testStatus hgui hr hok
      · obtain rfl := Option.some.inj h
        exact .testStatusFails hgui hr hok
    · cases h
  | record =>
    simp only [Login.step, Login.threadStep, Login.guiStep, Option.none_or] at h
    split at h
    · rename_i hgui huser
      obtain rfl := Option.some.inj h
      exact .record hgui huser
    · cases h
  | recordFailure =>
    simp only [Login.step, Login.threadStep, Login.guiStep, Option.none_or] at h
    split at h
    · rename_i hgui
      split_ifs at h with hfailing
      obtain rfl := Option.some.inj h
      exact .recordFailure hgui (Nat.pos_of_ne_zero hfailing)
    · cases h

/-- A slot that nothing comes between records what `handleLoginStatus` records. -/
lemma Login.run_slot {s : Login} {reply : LoginReply} {user : String} (env : MobilityEnv)
    (hgui : s.gui = .idle) (hsignals : 0 < s.signals) (hr : s.r = some reply)
    (huser : s.user = some user) (hok : reply.statusCode = 200) :
    ∃ s', run Login.step s [.takeSignal, .testReply, .printStatus, .testStatus, .record]
        = some s' ∧
      s'.app.user = (after (handleLoginStatus (some reply.statusCode) user env) s.app).user := by
  have hrecord := record_handleLoginStatus (some reply.statusCode) user env s.app
  simp only [hok, if_true] at hrecord
  have hafter : (after (handleLoginStatus (some 200) user env) s.app).user = some user :=
    congrArg Prod.snd hrecord
  have hne : s.signals ≠ 0 := hsignals.ne'
  rw [hok, hafter]
  simp [run_cons, Login.step, Login.threadStep, Login.guiStep, hgui, hne, hr, huser, hok,
    setUserLoggedIn]

/-! ### The user of a reply -/

/-- What the thread posts is what the attribute has, and while it waits for the answer there is no
reply. -/
def RequestThread.Posts (user : Option String) (r : Option LoginReply) : RequestThread → Prop
  | .readPw user' => user = some user'
  | .clear credentials => user = some credentials.user
  | .post credentials => user = some credentials.user ∧ r = none
  | .store reply => user = some reply.posted.user
  | _ => True

/-- The thread is about to send its signal. -/
def RequestThread.Emits : RequestThread → Prop
  | .emit => True
  | _ => False

/-- The thread has read no user, or has sent its signal. -/
def RequestThread.Idle : RequestThread → Prop
  | .finished | .readUser | .finishing => True
  | _ => False

/-- The slot has yet to read the reply. -/
def LoginSlot.Reads : LoginSlot → Prop
  | .testReply | .printStatus | .testStatus => True
  | _ => False

instance (thread : RequestThread) : Decidable thread.Idle := by
  cases thread <;> unfold RequestThread.Idle <;> infer_instance

/-- From the time the thread has read the user to the time its signal is handled, no attempt gives
another user. -/
def Login.KeepsUser (s : Login) : LoginEvent → Prop
  | .submit user _ => s.user = some user ∨ s.thread.Idle ∧ s.signals = 0
  | _ => True

instance (s : Login) (e : LoginEvent) : Decidable (s.KeepsUser e) := by
  cases e <;> unfold Login.KeepsUser <;> infer_instance

/-- Every user that was recorded is the one whose credentials the reply was given to, and a report
names the last one, if it names any. -/
structure Login.Faithful (s : Login) : Prop where
  records : ∀ recording ∈ s.recorded, recording.user = recording.reply.posted.user
  reports : (reportJson s.app).member? "user" = some .null ∨
    ∃ recording, s.recorded.head? = some recording ∧
      (reportJson s.app).member? "user" = some (.str recording.reply.posted.user)

/-- A reply that may still be read has the user of the attribute. -/
structure Login.Coherent (s : Login) : Prop where
  thread : s.thread.Posts s.user s.r
  reply : 0 < s.signals ∨ s.thread.Emits ∨ s.gui.Reads →
    ∀ reply, s.r = some reply → s.user = some reply.posted.user
  slot : ∀ reply, s.gui = .record reply → s.user = some reply.posted.user
  records : ∀ recording ∈ s.recorded, recording.user = recording.reply.posted.user
  reports : s.app.user = none ∨
    ∃ recording, s.recorded.head? = some recording ∧ s.app.user = some recording.user

lemma Login.Coherent.faithful {s : Login} (h : s.Coherent) : s.Faithful := by
  refine ⟨h.records, ?_⟩
  rcases h.reports with hnone | ⟨recording, hhead, huser⟩
  · have hreport : (reportJson s.app).member? "user" = some .null := by
      rw [reportJson, hnone]
      rfl
    rw [hreport]
    exact Or.inl rfl
  · have hreport : (reportJson s.app).member? "user" = some (.str recording.user) := by
      rw [reportJson, huser]
      rfl
    rw [hreport, h.records recording (List.mem_of_head? hhead)]
    exact Or.inr ⟨recording, hhead, rfl⟩

lemma Login.coherent_init {config : RawConfigParser} {init : InitEnv} {app : App}
    (hinit : App.init config init = some app) : (Login.init app).Coherent := by
  refine ⟨trivial, ?_, ?_, by simp [Login.init], Or.inl ?_⟩
  · intro _ reply hr
    cases hr
  · intro reply hgui
    cases hgui
  · exact congrArg Prod.snd (App.record_init hinit)

lemma Login.Coherent.step {s s' : Login} {e : LoginEvent} (h : s.Coherent)
    (hcond : s.KeepsUser e) (hstep : s.step e = some s') : s'.Coherent := by
  obtain ⟨hposts, hreply, hslot, hrecords, hreports⟩ := h
  -- where the slot reads nothing any more, and where the thread does not send yet
  have hleft : 0 < s.signals ∨ s.thread.Emits ∨ False →
      ∀ reply, s.r = some reply → s.user = some reply.posted.user :=
    fun hwaits => hreply (hwaits.imp id (Or.imp id False.elim))
  have hunsent : 0 < s.signals ∨ False ∨ s.gui.Reads →
      ∀ reply, s.r = some reply → s.user = some reply.posted.user :=
    fun hwaits => hreply (hwaits.imp id (Or.imp False.elim id))
  cases Login.step_sound hstep with
  | submit hgui =>
    rcases hcond with hsame | ⟨hidle, hnone⟩
    · rw [hsame] at hposts hleft
      exact ⟨hposts, hleft, nofun, hrecords, hreports⟩
    · refine ⟨?_, ?_, nofun, hrecords, hreports⟩
      · cases hthread : s.thread with
        | finished | readUser | finishing => trivial
        | _ =>
          rw [hthread] at hidle
          exact absurd hidle id
      · rintro (hpos | hemits | hreads)
        · exact absurd hnone hpos.ne'
        · cases hthread : s.thread with
          | emit =>
            rw [hthread] at hidle
            exact absurd hidle id
          | _ =>
            simp only [hthread] at hemits
            exact absurd hemits id
        · exact absurd hreads id
  | writePw hgui =>
    exact ⟨hposts, hleft, nofun, hrecords, hreports⟩
  | start hgui hthread =>
    refine ⟨trivial, fun hwaits => hreply (Or.inl ?_), nofun, hrecords, hreports⟩
    exact hwaits.resolve_right fun h => h.elim id id
  | startRunning hgui hthread =>
    exact ⟨hposts, hleft, nofun, hrecords, hreports⟩
  | readUser hthread huser =>
    exact ⟨huser, hunsent, hslot, hrecords, hreports⟩
  | readPw hthread hpw =>
    rw [hthread] at hposts
    exact ⟨hposts, hunsent, hslot, hrecords, hreports⟩
  | clear hthread =>
    rw [hthread] at hposts
    exact ⟨⟨hposts, rfl⟩, fun _ => nofun, hslot, hrecords, hreports⟩
  | noAnswer hthread =>
    rw [hthread] at hposts
    refine ⟨trivial, fun _ reply hr => ?_, hslot, hrecords, hreports⟩
    cases hposts.2.symm.trans hr
  | answer hthread =>
    rw [hthread] at hposts
    exact ⟨hposts.1, hunsent, hslot, hrecords, hreports⟩
  | store hthread =>
    rw [hthread] at hposts
    refine ⟨trivial, fun _ reply hr => ?_, hslot, hrecords, hreports⟩
    obtain rfl := Option.some.inj hr
    exact hposts
  | emit hthread =>
    refine ⟨trivial, fun _ => hreply (Or.inr (Or.inl ?_)), hslot, hrecords, hreports⟩
    rw [hthread]
    trivial
  | finish hthread =>
    exact ⟨trivial, hunsent, hslot, hrecords, hreports⟩
  | takeSignal hgui hsignals =>
    exact ⟨hposts, fun _ => hreply (Or.inl hsignals), nofun, hrecords, hreports⟩
  | endSlot hgui hr =>
    exact ⟨hposts, hleft, nofun, hrecords, hreports⟩
  | testReply hgui hr | printStatus hgui hr =>
    refine ⟨hposts, fun _ => hreply (Or.inr (Or.inr ?_)), nofun, hrecords, hreports⟩
    rw [hgui]
    trivial
  | testStatus hgui hr hok =>
    refine ⟨hposts, hleft, ?_, hrecords, hreports⟩
    intro reply' hgui'
    obtain rfl := LoginSlot.record.inj hgui'
    refine hreply (Or.inr (Or.inr ?_)) _ hr
    rw [hgui]
    trivial
  | testStatusFails hgui hr hok =>
    exact ⟨hposts, hleft, nofun, hrecords, hreports⟩
  | record hgui huser =>
    refine ⟨hposts, hleft, nofun, ?_, Or.inr ⟨_, rfl, rfl⟩⟩
    intro recording hmem
    rcases List.mem_cons.mp hmem with rfl | hmem
    · exact Option.some.inj (huser.symm.trans (hslot _ hgui))
    · exact hrecords recording hmem
  | recordFailure hgui hfailing => exact ⟨hposts, hreply, hslot, hrecords, Or.inl rfl⟩
  | logout hgui =>
    rename_i reply
    refine ⟨hposts, hreply, hslot, hrecords, ?_⟩
    have hrecord := record_logout reply s.app
    split_ifs at hrecord with hsent
    · exact Or.inl (congrArg Prod.snd hrecord)
    · have huser : (after (SecuredApp.logout reply) s.app).user = s.app.user :=
        congrArg Prod.snd hrecord
      rw [huser]
      exact hreports

/-- In every run in which no other user is submitted while the thread has one to be handled, the
user that is recorded and reported is the one whose credentials were posted. -/
theorem recorded_user_posted (config : RawConfigParser) (init : InitEnv) (app : App)
    (es : List LoginEvent) (s : Login) (hinit : App.init config init = some app)
    (hrun : run Login.step (.init app) es = some s)
    (hmeets : RunMeets Login.step (fun _ s e => s.KeepsUser e) (.init app) es) : s.Faithful := by
  have hcoherent : s.Coherent := by
    refine hmeets.invariant (Login.coherent_init hinit) ?_ hrun
    intro pre s₁ e s₂ h hcond hstep
    exact h.step hcond hstep
  exact hcoherent.faithful

/-- The dialog is confirmed. -/
def submitEvents (user pw : String) : List LoginEvent := [.submit user pw, .writePw, .start]

/-- A request from the start of the thread to its end. -/
def requestEvents (statusCode : ℕ) : List LoginEvent :=
  [.readUser, .readPw, .clear, .answer (some statusCode), .store, .emit, .finish]

/-- The slot handles a reply with status 200. -/
def recordEvents : List LoginEvent := [.takeSignal, .testReply, .printStatus, .testStatus, .record]

theorem recorded_user_posted_alice :
    ∃ app s, App.init guiConf (startOn ⟨"secured1", "00:01"⟩) = some app ∧
      run Login.step (.init app) (submitEvents "alice" "a" ++ requestEvents 200 ++ recordEvents)
        = some s ∧ s.app.user = some "alice" ∧ s.Faithful := by
  have hmap : ((App.init guiConf (startOn ⟨"secured1", "00:01"⟩)).bind fun app =>
      (run Login.step (.init app) (submitEvents "alice" "a" ++ requestEvents 200 ++
        recordEvents)).map fun s => (s.app.user,
          meetsAll Login.step (fun s e => decide (s.KeepsUser e)) (.init app)
            (submitEvents "alice" "a" ++ requestEvents 200 ++ recordEvents)))
        = some (some "alice", true) := by
    decide +kernel
  obtain ⟨app, s, hinit, hrun, heq⟩ := exists_run hmap
  obtain ⟨huser, hmeets⟩ := Prod.mk.inj heq
  refine ⟨app, s, hinit, hrun, huser, recorded_user_posted guiConf _ app _ s hinit hrun ?_⟩
  exact (runMeets_of_meetsAll hmeets).mono fun _ _ _ => of_decide_eq_true

/-- A second attempt is submitted while the first one is in flight. -/
def overwrittenRun : List LoginEvent :=
  submitEvents "alice" "a" ++ [.readUser, .readPw, .clear] ++ submitEvents "bob" "b" ++
    [.answer (some 200), .store, .emit, .finish] ++ recordEvents

/-- The reply to alice is recorded and reported as a login of bob. -/
theorem other_user_recorded :
    ∃ app s, App.init guiConf (startOn ⟨"secured1", "00:01"⟩) = some app ∧
      run Login.step (.init app) overwrittenRun = some s ∧ ¬ s.Faithful ∧
      s.recorded = [⟨⟨200, ⟨"alice", "a"⟩⟩, "bob"⟩] ∧ s.app.user = some "bob" := by
  have hmap : ((App.init guiConf (startOn ⟨"secured1", "00:01"⟩)).bind fun app =>
      (run Login.step (.init app) overwrittenRun).map fun s => (s.recorded, s.app.user))
        = some ([⟨⟨200, ⟨"alice", "a"⟩⟩, "bob"⟩], some "bob") := by
    decide +kernel
  obtain ⟨app, s, hinit, hrun, heq⟩ := exists_run hmap
  obtain ⟨hrecorded, huser⟩ := Prod.mk.inj heq
  refine ⟨app, s, hinit, hrun, fun h => ?_, hrecorded, huser⟩
  have hposted := h.records ⟨⟨200, ⟨"alice", "a"⟩⟩, "bob"⟩ (by rw [hrecorded]; simp)
  revert hposted
  decide

end SecuredApp
