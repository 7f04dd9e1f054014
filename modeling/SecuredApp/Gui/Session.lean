import SecuredApp.Gui.Lookup
import SecuredApp.Gui.Starts
import SecuredApp.Mobility.Frames

/-!
# The session record

The client records the session of the user in `status` and `user`; the NED has the session from a
login it answers with 200 to a `DELETE` it answers with 200. A run of the application is followed
together with the session of the NED.
-/

namespace SecuredApp

open SecuredApp.Core

variable {app app' : App}

/-! ### Statements that leave the record -/

/-- `status` and `user`. -/
def App.record (app : App) : Option Bool × Option String := (app.status, app.user)

lemma unlinked_record : Unlinked App.record :=
  ⟨fun _ _ _ _ => rfl, fun _ _ => rfl, fun _ _ _ _ => rfl, fun _ _ => rfl, fun _ _ => rfl,
    fun _ _ => rfl⟩

lemma frames_pressedStartMobilityButton (env : MobilityEnv) :
    Frames App.record (pressedStartMobilityButton env) := by
  intro app
  rw [after_pressedStartMobilityButton]
  split_ifs
  · rw [unlinked_record.frames_reportAPs, unlinked_record.view_mobilityStarted]
    rfl
  · rfl

lemma frames_updateConnectionInfoView : Frames App.record updateConnectionInfoView := by
  refine .modify fun app => ?_
  split
  · rfl
  · rfl
  · dsimp only
    split <;> rfl

/-! ### Statements that write the record -/

/-- A request that is sent under a condition is answered exactly if it is sent and answered. -/
lemma sent_eq_some_iff {c : Prop} [Decidable c] {reply : Option ℕ} {statusCode : ℕ} :
    (if c then reply else none) = some statusCode ↔ c ∧ reply = some statusCode := by
  split_ifs with hc <;> simp [hc]

/-- A logout writes the record only if the `DELETE` is sent and answered with 200. -/
lemma record_logout (reply : Option ℕ) (app : App) :
    (after (logout reply) app).record
      = if app.status = some true ∧ reply = some 200 then (none, none) else app.record := by
  rw [after, run_logout]
  split_ifs with hends hthread
  · rfl
  · rfl
  · rfl

/-- The session record, and whether the warning was shown. -/
def App.warnedRecord (app : App) : (Option Bool × Option String) × Bool :=
  (app.record, app.attestationWarningShown)

/-- The slot comes to the warning, whose answer is to disconnect. -/
def AttestationEnv.LogsOut (env : AttestationEnv) (app : App) : Prop :=
  app.attestationTask.trusted = some false ∧ app.attestationWarningShown = false ∧
    env.yes = true ∧ returns (setAttestationStatus false) app = true

instance (env : AttestationEnv) (app : App) : Decidable (env.LogsOut app) := by
  unfold AttestationEnv.LogsOut
  exact instDecidableAnd

lemma record_showAttestationResult (env : AttestationEnv) (result : Bool) (app : App)
    (htrusted : app.attestationTask.trusted = some result) :
    (after (showAttestationResult env result) app).record
      = if env.LogsOut app ∧ app.status = some true ∧ env.reply = some 200 then (none, none)
        else app.record := by
  have hshown : (after (setAttestationStatus result) app).warnedRecord = app.warnedRecord :=
    frames_setAttestationStatus (fun _ _ => rfl) result app
  cases hrun : EStateM.run (setAttestationStatus result) app with
  | error e app' =>
    -- the exception ends the slot before the warning
    rw [after, hrun] at hshown
    rw [showAttestationResult, after_bind_of_error hrun, if_neg]
    · exact congrArg Prod.fst hshown
    · rintro ⟨⟨hfalse, -, -, hreturns⟩, -⟩
      obtain rfl := Option.some.inj (htrusted.symm.trans hfalse)
      rw [returns, hrun] at hreturns
      cases hreturns
  | ok _ app' =>
    rw [after_of_ok hrun] at hshown
    obtain ⟨hrecord, hwarned⟩ := Prod.ext_iff.mp hshown
    have hstatus : app'.status = app.status := congrArg Prod.fst hrecord
    have hclose : Frames App.record (do
        closeIPsecConnection env.stop
        modify fun app => { app with quit := true } : Py App Unit) :=
      .bind (unlinked_record.frames_closeIPsecConnection _) fun _ => .modify fun _ => rfl
    have hlogs : env.LogsOut app ↔
        (result = false ∧ app'.attestationWarningShown = false) ∧ env.yes = true := by
      have hshown : app'.attestationWarningShown = app.attestationWarningShown := hwarned
      have hreturns : returns (setAttestationStatus result) app = true := by rw [returns, hrun]
      rw [AttestationEnv.LogsOut, htrusted, hshown, Option.some.injEq]
      constructor
      · rintro ⟨hfalse, hwarn, hyes, -⟩
        exact ⟨⟨hfalse, hwarn⟩, hyes⟩
      · rintro ⟨⟨rfl, hwarn⟩, hyes⟩
        exact ⟨rfl, hwarn, hyes, hreturns⟩
    rw [showAttestationResult, after_bind_of_ok hrun, after_get_bind]
    simp only [hlogs]
    by_cases hwarn : result = false ∧ app'.attestationWarningShown = false
    · rw [if_pos hwarn, after_modify_bind]
      by_cases hyes : env.yes = true
      · rw [if_pos hyes, Frames.after_bind (fun _ => hclose), record_logout]
        simp only [hwarn, hyes, true_and, ← hstatus]
        exact if_congr Iff.rfl rfl hrecord
      · rw [if_neg hyes, if_neg fun h => hyes h.1.2]
        exact hrecord
    · rw [if_neg hwarn, if_neg fun h => hwarn h.1.1]
      exact hrecord

/-- The slot writes the record only where it logs out. -/
lemma record_onAttestation (env : AttestationEnv) (app : App) :
    (after (onAttestation env) app).record
      = if env.LogsOut app ∧ app.status = some true ∧ env.reply = some 200 then (none, none)
        else app.record := by
  have htunnel : Frames App.record (get >>= fun app =>
      if app.useMobility = false ∧ app.activeIpsecConnection = none then
        makeIPsecConnection env.start app.ipsecNedConnectionName
      else pure ⟨⟩ : Py App Unit) :=
    .get_bind fun _ => .ite (unlinked_record.frames_makeIPsecConnection _ _) (.pure _)
  rw [onAttestation, after_get_bind]
  cases htrusted : app.attestationTask.trusted with
  | none =>
    rw [if_neg fun h => by cases htrusted.symm.trans h.1.1]
    exact htunnel app
  | some result =>
    rw [← record_showAttestationResult env result app htrusted]
    exact Frames.after_bind (fun _ => htunnel) app

/-- A login writes the record unless there is no reply. An accepted one that raises has recorded
the user, but not the status. -/
lemma record_handleLoginStatus (reply : Option ℕ) (user : String) (env : MobilityEnv) (app : App) :
    (after (handleLoginStatus reply user env) app).record
      = match reply with
        | none => app.record
        | some statusCode =>
          if statusCode = 200 then
            (if app.useMobility = true ∧ env.chdir = false then app.status else some true,
              some user)
          else (some false, none) := by
  cases reply with
  | none => rfl
  | some statusCode =>
    dsimp only
    by_cases hok : statusCode = 200
    · subst hok
      have hlogged : (app.loggedIn user).record = (app.status, some user) := rfl
      rw [if_pos rfl, after_handleLoginStatus_ok]
      by_cases hmobility : app.useMobility = true
      · rw [if_pos hmobility]
        cases hchdir : env.chdir with
        | true =>
          have hreport := unlinked_record.frames_reportAPs env.report
            ((app.loggedIn user).mobilityStarted env)
          rw [unlinked_record.view_mobilityStarted, hlogged] at hreport
          rw [if_pos rfl, if_neg fun h => by cases h.2]
          exact congrArg (fun record => (some true, record.2)) hreport
        | false => simp only [hmobility, and_self, if_true, Bool.false_eq_true, if_false, hlogged]
      · rw [if_neg hmobility, if_neg fun h => hmobility h.1]
        rfl
    · rw [if_neg hok, handleLoginStatus]
      simp only [hok, if_false]
      rfl

/-! ### The session of the NED -/

/-- The slot of a finished poll takes its signal. -/
def App.signalTaken (app : App) : App :=
  { app with signals.requestTaskFinished := app.signals.requestTaskFinished - 1 }

/-- The answer to the `DELETE` that a step sends, if it sends one and has an answer. -/
def AppEvent.deleteReply? (app : App) : AppEvent → Option ℕ
  | .logout reply => if app.status = some true then reply else none
  | .close reply _ => if app.status = some true then reply else none
  | .attestation env =>
    if env.LogsOut app.signalTaken ∧ app.status = some true then env.reply else none
  | _ => none

/-- The event is a login, whatever comes of it. -/
def AppEvent.IsLogin : AppEvent → Prop
  | .login _ _ _ => True
  | _ => False

/-- The event is a login that the NED answers with 200. -/
def AppEvent.Accepted : AppEvent → Prop
  | .login reply _ _ => reply = some 200
  | _ => False

instance (e : AppEvent) : Decidable e.Accepted := by
  cases e <;> unfold AppEvent.Accepted <;> infer_instance

/-- The application, and whether the NED has a session. -/
structure Session where
  app : App
  live : Bool

/-- The NED opens a session with a login it answers with 200, and ends it with a `DELETE` it
answers with 200. -/
def Session.step (s : Session) (e : AppEvent) : Option Session :=
  (s.app.step e).map fun app' => {
    app := app'
    live := e.Accepted ∨ s.live = true ∧ e.deleteReply? s.app ≠ some 200 }

/-- The record says that there is a session exactly if the NED has one, and then a logout sends the
`DELETE`. -/
structure Session.Agrees (s : Session) : Prop where
  record : s.app.status = some true ∧ s.app.user ≠ none ↔ s.live = true
  delete : s.live = true → ∀ reply, (AppEvent.logout reply).deleteReply? s.app = reply

lemma Session.agrees_iff {s : Session} :
    s.Agrees ↔ (s.app.status = some true ∧ s.app.user ≠ none ↔ s.live = true) := by
  constructor
  · exact Session.Agrees.record
  · intro h
    refine ⟨h, fun hlive reply => ?_⟩
    rw [AppEvent.deleteReply?, if_pos (h.mpr hlive).1]

/-- A login is not refused while the NED has a session, and if it is accepted, with mobility on and
a record without a session, the directory of the scripts can be entered. -/
def Session.Records (s : Session) : AppEvent → Prop
  | .login none _ _ => True
  | .login (some statusCode) _ env =>
    if statusCode = 200 then
      s.app.useMobility = true → env.chdir = false → s.app.status = some true
    else s.live = false
  | _ => True

lemma App.record_poll (app : App) (post : Post) : (app.poll post).record = app.record := by
  rcases app.poll_cases post with ⟨r, hpoll⟩ | hpoll
  · rw [hpoll]
    rfl
  · rw [hpoll]
    rfl

/-- Only logins write the record without a `DELETE`. -/
lemma App.record_step {e : AppEvent} (hstep : app.step e = some app') (hlogin : ¬ e.IsLogin) :
    app'.record
      = if e.deleteReply? app = some 200 then (none, none) else app.record := by
  have hframed : ∀ {x : Py App Unit} {app₁ : App}, Frames App.record x →
      app₁.record = app.record → (after x app₁).record = app.record :=
    fun hx h => (hx _).trans h
  cases App.step_sound hstep with
  | pollBegin | stopMobility | startHandover | stopHandover | scan => rfl
  | connectionInfo => exact hframed frames_updateConnectionInfoView rfl
  | ipsecConnectionInfo => exact hframed (.modify fun _ => rfl) rfl
  | startMobility => exact hframed (frames_pressedStartMobilityButton _) rfl
  | report => exact hframed (unlinked_record.frames_reportAPs _) rfl
  | poll hrunning => exact app.record_poll _
  | attestation =>
    rw [record_onAttestation, AppEvent.deleteReply?]
    simp only [sent_eq_some_iff, and_assoc]
    rfl
  | login => exact absurd trivial hlogin
  | logout =>
    rw [record_logout, AppEvent.deleteReply?]
    simp only [sent_eq_some_iff]
  | close =>
    have hexit : ∀ stop : Bool, Frames App.record (do
        modify fun app => { app with attestationTask.running := false }
        stopMobilityScript
        closeIPsecConnection stop
        modify fun app => { app with quit := true } : Py App Unit) := by
      intro stop
      refine .bind (.modify fun _ => rfl) fun _ => .bind (.modify fun _ => rfl) fun _ => ?_
      exact .bind (unlinked_record.frames_closeIPsecConnection stop) fun _ => .modify fun _ => rfl
    rw [closeEvent, Frames.after_bind (fun _ => hexit _), record_logout, AppEvent.deleteReply?]
    simp only [sent_eq_some_iff]

/-- What a login leaves of the record and of the session. -/
lemma Session.step_login {s s' : Session} {reply : Option ℕ} {user : String} {env : MobilityEnv}
    (hstep : s.step (.login reply user env) = some s') :
    s'.app.record = (after (handleLoginStatus reply user env) s.app).record ∧
      (s'.live = true ↔ reply = some 200 ∨ s.live = true) := by
  obtain ⟨app', happ, rfl⟩ := Option.map_eq_some_iff.mp hstep
  cases App.step_sound happ with
  | login => simp [AppEvent.Accepted, AppEvent.deleteReply?]

/-- What any other step leaves of them. -/
lemma Session.step_not_login {s s' : Session} {e : AppEvent} (hstep : s.step e = some s')
    (hlogin : ¬ e.IsLogin) :
    s'.app.record = (if e.deleteReply? s.app = some 200 then (none, none) else s.app.record) ∧
      (s'.live = true ↔ s.live = true ∧ e.deleteReply? s.app ≠ some 200) := by
  obtain ⟨app', happ, rfl⟩ := Option.map_eq_some_iff.mp hstep
  refine ⟨App.record_step happ hlogin, ?_⟩
  have hnot : ¬ e.Accepted := by
    cases e with
    | login => exact absurd trivial hlogin
    | _ => exact id
  simp [hnot]

/-- The record goes on agreeing with the NED in the steps that record what happened. -/
lemma Session.Agrees.step {s s' : Session} {e : AppEvent} (h : s.Agrees) (hrec : s.Records e)
    (hstep : s.step e = some s') : s'.Agrees := by
  rw [Session.agrees_iff] at h ⊢
  by_cases hlogin : e.IsLogin
  · cases e with
    | login reply user env =>
      obtain ⟨hrecord, hlive⟩ := Session.step_login hstep
      rw [record_handleLoginStatus] at hrecord
      obtain ⟨hstatus, huser⟩ := Prod.ext_iff.mp hrecord
      simp only [App.record] at hstatus huser
      rw [hlive, hstatus, huser]
      cases reply with
      | none => simpa using h
      | some statusCode =>
        rw [Session.Records] at hrec
        by_cases hok : statusCode = 200
        · rw [if_pos hok] at hrec
          simp only [hok, if_true, ne_eq, reduceCtorEq, not_false_eq_true, and_true, true_or,
            iff_true]
          split_ifs with hraise
          · exact hrec hraise.1 hraise.2
          · rfl
        · rw [if_neg hok] at hrec
          simp [hok, hrec]
    | _ => exact absurd hlogin id
  · obtain ⟨hrecord, hlive⟩ := Session.step_not_login hstep hlogin
    obtain ⟨hstatus, huser⟩ := Prod.ext_iff.mp hrecord
    simp only [App.record] at hstatus huser
    rw [hlive, hstatus, huser]
    by_cases hdelete : e.deleteReply? s.app = some 200
    · simp [hdelete]
    · simpa [hdelete] using h

/-- A step after which the record agrees with the NED has recorded what happened. -/
lemma Session.records_of_agrees {s s' : Session} {e : AppEvent} (h : s'.Agrees)
    (hstep : s.step e = some s') : s.Records e := by
  rw [Session.agrees_iff] at h
  cases e with
  | login reply user env =>
    obtain ⟨hrecord, hlive⟩ := Session.step_login hstep
    rw [record_handleLoginStatus] at hrecord
    obtain ⟨hstatus, huser⟩ := Prod.ext_iff.mp hrecord
    simp only [App.record] at hstatus huser
    rw [hlive, hstatus, huser] at h
    cases reply with
    | none => trivial
    | some statusCode =>
      rw [Session.Records]
      split_ifs with hok
      · intro hmobility hchdir
        simpa [hok, hmobility, hchdir] using h
      · simpa [hok] using h
  | _ => trivial

/-! ### Runs -/

lemma App.record_init {config : RawConfigParser} {env : InitEnv}
    (h : App.init config env = some app) : app.record = (some true, none) := by
  obtain ⟨useMobility, nedId, connName, hrecord⟩ :=
    unlinked_record.view_init (fun _ _ _ => rfl) h
  exact hrecord

/-- After every step from the first login on the record agrees with the NED exactly if no login is
refused while the NED has a session, and none that is accepted raises before it records it. -/
theorem session_agrees_iff (config : RawConfigParser) (init : InitEnv) (app : App)
    (es : List AppEvent) (s : Session) (hinit : App.init config init = some app)
    (hrun : run Session.step ⟨app, false⟩ es = some s) :
    RunMeets Session.step (fun pre s e => ∀ s', s.step e = some s' →
      (∃ e' ∈ pre ++ [e], e'.IsLogin) → s'.Agrees) ⟨app, false⟩ es ↔
    RunMeets Session.step (fun _ s e => s.Records e) ⟨app, false⟩ es := by
  constructor
  · intro h pre e post s₁ heq hpre
    cases e with
    | login reply user env =>
      rw [heq, run_append, hpre, Option.bind_some, run_cons] at hrun
      obtain ⟨s₂, hstep, -⟩ := Option.bind_eq_some_iff.mp hrun
      refine Session.records_of_agrees (h pre _ post s₁ heq hpre s₂ hstep ?_) hstep
      exact ⟨_, List.mem_concat_self, trivial⟩
    | _ => trivial
  · have h0 : Session.Agrees ⟨app, false⟩ := by
      obtain ⟨hstatus, huser⟩ := Prod.ext_iff.mp (App.record_init hinit)
      simp only [App.record] at hstatus huser
      simp [Session.agrees_iff, huser]
    refine RunMeets.of_invariant h0 ?_ ?_
    · intro pre s₁ e s₂ hagrees hrec hstep
      exact hagrees.step hrec hstep
    · intro pre s₁ e hagrees hrec s₂ hstep _
      exact hagrees.step hrec hstep

/-- What a login meets where nothing can be reached. -/
def unreachableEnv : MobilityEnv where
  chdir := false
  settings := []
  devices := none
  report := ⟨fun _ => none, none⟩

theorem session_agrees_alice :
    ∃ app s, App.init guiConf (startOn ⟨"secured1", "00:01"⟩) = some app ∧
      run Session.step ⟨app, false⟩
        [.login (some 200) "alice" unreachableEnv, .logout (some 200)] = some s ∧
      (RunMeets Session.step (fun pre s e => ∀ s', s.step e = some s' →
        (∃ e' ∈ pre ++ [e], e'.IsLogin) → s'.Agrees) ⟨app, false⟩
          [.login (some 200) "alice" unreachableEnv, .logout (some 200)] ↔
      RunMeets Session.step (fun _ s e => s.Records e) ⟨app, false⟩
          [.login (some 200) "alice" unreachableEnv, .logout (some 200)]) := by
  have hsome : ((App.init guiConf (startOn ⟨"secured1", "00:01"⟩)).bind fun app =>
      run Session.step ⟨app, false⟩
        [.login (some 200) "alice" unreachableEnv, .logout (some 200)]).isSome = true := by
    decide +kernel
  obtain ⟨s, hs⟩ := Option.isSome_iff_exists.mp hsome
  obtain ⟨app, hinit, hrun⟩ := Option.bind_eq_some_iff.mp hs
  exact ⟨app, s, hinit, hrun, session_agrees_iff guiConf _ app _ s hinit hrun⟩

/-- The run ends in a session that the client has forgotten: a logout sends no `DELETE` then. -/
def Forgets (es : List AppEvent) : Prop :=
  ∃ app s, App.init guiConf (startOn ⟨"secured1", "00:01"⟩) = some app ∧
    run Session.step ⟨app, false⟩ es = some s ∧ ¬ s.Agrees ∧ s.live = true ∧
    ∀ reply, (AppEvent.logout reply).deleteReply? s.app = none

lemma forgets_of_status {es : List AppEvent}
    (h : ((App.init guiConf (startOn ⟨"secured1", "00:01"⟩)).bind fun app =>
      (run Session.step ⟨app, false⟩ es).map fun s =>
        (s.live, decide (s.app.status ≠ some true))) = some (true, true)) : Forgets es := by
  obtain ⟨app, s, hinit, hrun, heq⟩ := exists_run h
  obtain ⟨hlive, hstatus⟩ : s.live = true ∧ s.app.status ≠ some true := by
    simpa [Prod.ext_iff] using heq
  refine ⟨app, s, hinit, hrun, fun h => hstatus (h.record.mpr hlive).1, hlive, fun reply => ?_⟩
  rw [AppEvent.deleteReply?, if_neg hstatus]

/-- A second login that is refused makes the client forget the session, and a login that raises
after a logout is not recorded. -/
theorem session_forgotten :
    Forgets [.login (some 200) "alice" unreachableEnv, .login (some 401) "alice" unreachableEnv] ∧
      Forgets [.login (some 200) "alice" unreachableEnv, .logout (some 200),
        .login (some 200) "alice" unreachableEnv] := by
  refine ⟨forgets_of_status ?_, forgets_of_status ?_⟩
  · decide +kernel
  · decide +kernel

end SecuredApp
