import SecuredApp.Gui.Polling
import SecuredApp.Mobility.Steps

/-!
# The display of an attestation

The end of a poll is shown by the two icons, the label of the verdict and the one of the time. The
verdict and the time are read from the answer by statements of their own, so an answer may give one
without the other; what the slot does after it has shown the verdict may raise too.
-/

namespace SecuredApp

open SecuredApp.Core

variable {app : App}

/-- The icons, the verdict and the time. -/
def App.display (app : App) : Bool × Bool × String × Json :=
  (app.ui.trustedNedIcon, app.ui.noTrustedNedIcon, app.ui.attestationStatus,
    app.ui.attestationTime)

/-- All of the display shows the verdict of the poll, or is as before if it gave none. -/
def App.displayOf (app : App) (r : Option (Option Json)) : Bool × Bool × String × Json :=
  (pollTrusted r).elim app.display fun result =>
    (result, !result, verdictText result, pollTime r)

/-- The first result of the answer has this value under the key. -/
def Answers (r : Option (Option Json)) (key : String) (value : Json) : Prop :=
  ∃ temp, r = some (some temp) ∧ firstResult temp key = some value

/-- The answer is that the NED is not trusted, in one of the three levels that say so. -/
def Rejects (r : Option (Option Json)) : Prop :=
  ∃ level ∈ ["untrusted", "vtime-err", "cert-err"], Answers r "trust_lvl" (.str level)

/-- The answer has a verdict. -/
def GivesVerdict (r : Option (Option Json)) : Prop :=
  Answers r "trust_lvl" (.str "trusted") ∨ Rejects r

/-- The answer has a time that can be shown. -/
def GivesTime (r : Option (Option Json)) : Prop :=
  ∃ time, Answers r "validate_time" time ∧ ShowableTime time

/-- The slot comes to the warning, and the user wants to disconnect. -/
def AttestationEnv.Warned (env : AttestationEnv) (app : App) (r : Option (Option Json)) : Prop :=
  Rejects r ∧ app.attestationWarningShown = false ∧ env.yes = true

/-- Nothing in the slot raises: a verdict comes with a time that can be shown, a logout finds the
thread for the events of the PSAs, and the directory of the start script can be entered when there
is a tunnel to make. -/
structure AttestationEnv.Completes (env : AttestationEnv) (app : App)
    (r : Option (Option Json)) : Prop where
  time : GivesVerdict r → GivesTime r
  logout : env.Warned app r → ¬ app.LogoutRaises env.reply
  chdir : app.useMobility = false →
    (app.activeIpsecConnection = none ∨ env.Warned app r ∧ env.stop = true) →
    env.start.chdir = true

/-! ### What a poll reads of an answer -/

variable {r : Option (Option Json)}

lemma firstResult_getD (temp : Option Json) (key : String) (value : Json) :
    firstResult (temp.getD .null) key = some value ↔ Answers (some temp) key value := by
  cases temp with
  | none => exact ⟨nofun, nofun⟩
  | some temp =>
    constructor
    · intro h
      exact ⟨temp, rfl, h⟩
    · rintro ⟨temp', heq, h⟩
      cases heq
      exact h

lemma trustedOf_eq_some {j : Option Json} {result : Bool} (h : trustedOf j = some result) :
    ∃ level, j = some (.str level) := by
  match j with
  | some (.str level) => exact ⟨level, rfl⟩

lemma pollTrusted_eq_true_iff :
    pollTrusted r = some true ↔ Answers r "trust_lvl" (.str "trusted") := by
  cases r with
  | none => exact ⟨nofun, nofun⟩
  | some temp =>
    rw [pollTrusted, ← firstResult_getD]
    constructor
    · intro h
      obtain ⟨level, hlevel⟩ := trustedOf_eq_some h
      rw [hlevel, trustedOf_eq_true_iff] at h
      rw [hlevel, h]
    · intro h
      rw [h, trustedOf_eq_true_iff]

lemma pollTrusted_eq_false_iff : pollTrusted r = some false ↔ Rejects r := by
  cases r with
  | none => exact ⟨nofun, nofun⟩
  | some temp =>
    simp only [pollTrusted, Rejects, ← firstResult_getD]
    constructor
    · intro h
      obtain ⟨level, hlevel⟩ := trustedOf_eq_some h
      rw [hlevel, trustedOf_eq_false_iff] at h
      exact ⟨level, by simpa using h, hlevel⟩
    · rintro ⟨level, hmem, hlevel⟩
      rw [hlevel, trustedOf_eq_false_iff]
      simpa using hmem

lemma givesVerdict_iff : GivesVerdict r ↔ pollTrusted r ≠ none := by
  rw [GivesVerdict, ← pollTrusted_eq_true_iff, ← pollTrusted_eq_false_iff,
    Option.ne_none_iff_exists', Bool.exists_bool, or_comm]

/-- An answer with a verdict has a time exactly if the poll stores one that can be shown. -/
lemma givesTime_iff (h : pollTrusted r ≠ none) : GivesTime r ↔ ShowableTime (pollTime r) := by
  cases r with
  | none => exact absurd rfl h
  | some temp =>
    simp only [GivesTime, pollTime, ← firstResult_getD]
    constructor
    · rintro ⟨time, htime, hshowable⟩
      rwa [htime]
    · intro hshowable
      cases htime : firstResult (temp.getD .null) "validate_time" with
      | none =>
        rw [htime] at hshowable
        exact absurd hshowable id
      | some time =>
        rw [htime] at hshowable
        exact ⟨time, rfl, hshowable⟩

/-! ### The parts of the slot -/

/-- The application after a verdict was shown. -/
def App.withVerdict (app : App) (result : Bool) : App :=
  { app with
    ui.trustedNedIcon := result
    ui.noTrustedNedIcon := !result
    ui.attestationStatus := verdictText result
    ui.attestationTime := app.attestationTask.validateTime }

lemma run_setAttestationStatus (result : Bool) (h : ShowableTime app.attestationTask.validateTime) :
    EStateM.run (setAttestationStatus result) app = .ok ⟨⟩ (app.withVerdict result) := by
  cases htime : app.attestationTask.validateTime with
  | null =>
    rw [htime] at h
    exact absurd h id
  | str time =>
    rw [htime, ShowableTime] at h
    simp only [setAttestationStatus, EStateM.run_bind, EStateM.run_get, EStateM.run_modify, htime,
      strOf, if_pos h, EStateM.run_pure]
    simp [App.withVerdict, htime, verdictText]
  | bool b | int n | double q | arr elems | obj members =>
    simp [setAttestationStatus, htime, strOf, App.withVerdict, verdictText]

/-- A time that cannot be shown raises, when the icons show the verdict already. -/
lemma run_setAttestationStatus_of_not (result : Bool)
    (h : ¬ ShowableTime app.attestationTask.validateTime) :
    ∃ e app', EStateM.run (setAttestationStatus result) app = .error e app' := by
  cases htime : app.attestationTask.validateTime with
  | null => exact ⟨.unboundLocal, _, by simp [setAttestationStatus, htime, strOf]; rfl⟩
  | str time =>
    rw [htime, ShowableTime] at h
    refine ⟨.unicodeError, { app with
      ui.trustedNedIcon := result, ui.noTrustedNedIcon := !result }, ?_⟩
    simp only [setAttestationStatus, EStateM.run_bind, EStateM.run_get, EStateM.run_modify, htime,
      strOf, if_neg h, EStateM.run_throw]
    simp
  | bool b | int n | double q | arr elems | obj members =>
    rw [htime] at h
    exact absurd trivial h

/-- What the user's answer to the warning does. -/
def disconnect (env : AttestationEnv) : Py App Unit := do
  logout env.reply
  closeIPsecConnection env.stop
  modify fun app => { app with quit := true }

/-- The fields the rest of the slot goes on with. -/
structure App.KeepsDisplay (app app' : App) : Prop where
  display : app'.display = app.display
  useMobility : app'.useMobility = app.useMobility

lemma run_disconnect (env : AttestationEnv) (app : App) (hraises : ¬ app.LogoutRaises env.reply) :
    ∃ app', EStateM.run (disconnect env) app = .ok ⟨⟩ app' ∧ app.KeepsDisplay app' ∧
      app'.activeIpsecConnection
        = if env.stop = true then none else app.activeIpsecConnection := by
  obtain ⟨app₁, hlogout, hkeeps, hactive⟩ : ∃ app₁,
      EStateM.run (logout env.reply) app = .ok ⟨⟩ app₁ ∧ app.KeepsDisplay app₁ ∧
      app₁.activeIpsecConnection = app.activeIpsecConnection := by
    rw [run_logout]
    split_ifs with hends hthread
    · exact absurd ⟨hends.1, hends.2, hthread⟩ hraises
    · exact ⟨_, rfl, ⟨rfl, rfl⟩, rfl⟩
    · exact ⟨_, rfl, ⟨rfl, rfl⟩, rfl⟩
  rw [disconnect, EStateM.run_bind, hlogout]
  cases hstop : env.stop with
  | false => exact ⟨_, rfl, ⟨hkeeps.1, hkeeps.2⟩, hactive⟩
  | true => exact ⟨_, rfl, ⟨hkeeps.1, hkeeps.2⟩, rfl⟩

lemma run_disconnect_of_raises (env : AttestationEnv) (app : App)
    (hraises : app.LogoutRaises env.reply) :
    ∃ e app', EStateM.run (disconnect env) app = .error e app' := by
  obtain ⟨hstatus, hreply, hthread⟩ := hraises
  rw [disconnect, EStateM.run_bind, run_logout, if_pos ⟨hstatus, hreply⟩, if_pos hthread]
  exact ⟨_, _, rfl⟩

/-- The warning is shown for this result, and the user wants to disconnect. -/
def AttestationEnv.Disconnects (env : AttestationEnv) (app : App) (result : Bool) : Prop :=
  (result = false ∧ app.attestationWarningShown = false) ∧ env.yes = true

lemma run_showAttestationResult_eq (env : AttestationEnv) (result : Bool)
    (htime : ShowableTime app.attestationTask.validateTime) :
    EStateM.run (showAttestationResult env result) app
      = EStateM.run (if result = false ∧ app.attestationWarningShown = false then do
          modify fun app => { app with attestationWarningShown := true }
          if env.yes then disconnect env
        else pure ⟨⟩ : Py App Unit) (app.withVerdict result) := by
  rw [showAttestationResult, EStateM.run_bind, run_setAttestationStatus result htime]
  rfl

lemma run_showAttestationResult (env : AttestationEnv) (app : App) (result : Bool)
    (htime : ShowableTime app.attestationTask.validateTime)
    (hraises : env.Disconnects app result → ¬ app.LogoutRaises env.reply) :
    ∃ app', EStateM.run (showAttestationResult env result) app = .ok ⟨⟩ app' ∧
      (app.withVerdict result).KeepsDisplay app' ∧
      (app'.activeIpsecConnection = none ↔ app.activeIpsecConnection = none ∨
        env.Disconnects app result ∧ env.stop = true) := by
  rw [run_showAttestationResult_eq env result htime]
  by_cases hwarn : result = false ∧ app.attestationWarningShown = false
  · rw [if_pos hwarn]
    by_cases hyes : env.yes = true
    · have hdisconnects : env.Disconnects app result := ⟨hwarn, hyes⟩
      obtain ⟨app', hend, hkeeps, hactive⟩ := run_disconnect env
        { app.withVerdict result with attestationWarningShown := true } (hraises hdisconnects)
      rw [if_pos hyes]
      refine ⟨app', hend, ⟨hkeeps.1, hkeeps.2⟩, ?_⟩
      rw [hactive]
      cases env.stop with
      | false => simp [App.withVerdict]
      | true => simp [hdisconnects]
    · rw [if_neg hyes]
      exact ⟨_, rfl, ⟨rfl, rfl⟩, .inl, fun h => h.resolve_right fun h => hyes h.1.2⟩
  · rw [if_neg hwarn]
    exact ⟨_, rfl, ⟨rfl, rfl⟩, .inl, fun h => h.resolve_right fun h => hwarn h.1.1⟩

/-- The verdict is not shown to its end if its time cannot be shown, or a logout raises. -/
lemma run_showAttestationResult_of_not (env : AttestationEnv) (result : Bool)
    (h : ShowableTime app.attestationTask.validateTime →
      env.Disconnects app result ∧ app.LogoutRaises env.reply) :
    ∃ e app', EStateM.run (showAttestationResult env result) app = .error e app' := by
  by_cases htime : ShowableTime app.attestationTask.validateTime
  · obtain ⟨⟨hwarn, hyes⟩, hraises⟩ := h htime
    obtain ⟨e, app', hend⟩ := run_disconnect_of_raises env
      { app.withVerdict result with attestationWarningShown := true } hraises
    refine ⟨e, app', ?_⟩
    rw [run_showAttestationResult_eq env result htime, if_pos hwarn, if_pos hyes]
    exact hend
  · obtain ⟨e, app', hrun⟩ := run_setAttestationStatus_of_not result htime
    exact ⟨e, app', by rw [showAttestationResult, EStateM.run_bind, hrun]⟩

/-- The end of the slot: without mobility and without a tunnel, one is made. -/
def makeTunnel (env : AttestationEnv) : Py App Unit := do
  let app ← get
  if app.useMobility = false ∧ app.activeIpsecConnection = none then
    makeIPsecConnection env.start app.ipsecNedConnectionName

/-- There is a tunnel to make, and the directory of its script cannot be entered. -/
def AttestationEnv.NoDirectory (env : AttestationEnv) (app : App) : Prop :=
  (app.useMobility = false ∧ app.activeIpsecConnection = none) ∧ env.start.chdir = false

lemma run_makeTunnel (env : AttestationEnv) (h : ¬ env.NoDirectory app) :
    ∃ app', EStateM.run (makeTunnel env) app = .ok ⟨⟩ app' ∧ app'.display = app.display := by
  rw [makeTunnel, EStateM.run_bind, EStateM.run_get]
  by_cases htunnel : app.useMobility = false ∧ app.activeIpsecConnection = none
  · obtain ⟨yes, reply, stop, chdir, call⟩ := env
    cases chdir with
    | false => exact absurd ⟨htunnel, rfl⟩ h
    | true =>
      simp only [if_pos htunnel]
      cases call with
      | none => exact ⟨_, rfl, rfl⟩
      | some status => exact ⟨_, rfl, rfl⟩
  · simp only [if_neg htunnel]
    exact ⟨_, rfl, rfl⟩

lemma run_makeTunnel_of_noDirectory (env : AttestationEnv) (app : App) (h : env.NoDirectory app) :
    ∃ e app', EStateM.run (makeTunnel env) app = .error e app' := by
  obtain ⟨htunnel, hchdir⟩ := h
  rw [makeTunnel, EStateM.run_bind, EStateM.run_get]
  simp only [if_pos htunnel]
  exact ⟨_, _, run_makeIPsecConnection_of_not_chdir hchdir _ _⟩

lemma run_onAttestation_of_none (env : AttestationEnv) (h : app.attestationTask.trusted = none) :
    EStateM.run (onAttestation env) app = EStateM.run (makeTunnel env) app := by
  simp only [onAttestation, EStateM.run_bind, EStateM.run_get, h]
  rfl

lemma run_onAttestation_of_some (env : AttestationEnv) {result : Bool}
    (h : app.attestationTask.trusted = some result) :
    EStateM.run (onAttestation env) app
      = EStateM.run (showAttestationResult env result >>= fun _ => makeTunnel env) app := by
  simp only [onAttestation, EStateM.run_bind, EStateM.run_get, h]
  rfl

/-! ### A poll and its slot -/

lemma AttestationEnv.warned_iff (env : AttestationEnv) (app : App) {result : Bool}
    (hverdict : pollTrusted r = some result) :
    env.Warned app r ↔ env.Disconnects (app.polled r) result := by
  rw [AttestationEnv.Warned, ← pollTrusted_eq_false_iff, hverdict, Option.some.injEq,
    AttestationEnv.Disconnects, and_assoc]
  rfl

/-- If nothing raises before, the slot comes to its end with all of the display as it is to be. -/
lemma run_onAttestation_eq (env : AttestationEnv) (app : App)
    (htime : pollTrusted r ≠ none → ShowableTime (pollTime r))
    (hlogout : env.Warned app r → ¬ app.LogoutRaises env.reply) :
    ∃ app₁, EStateM.run (onAttestation env) (app.polled r) = EStateM.run (makeTunnel env) app₁ ∧
      app₁.display = app.displayOf r ∧ app₁.useMobility = app.useMobility ∧
      (app₁.activeIpsecConnection = none ↔
        app.activeIpsecConnection = none ∨ env.Warned app r ∧ env.stop = true) := by
  cases hverdict : pollTrusted r with
  | none =>
    refine ⟨app.polled r, run_onAttestation_of_none env hverdict, ?_, rfl, .inl, fun h => ?_⟩
    · rw [App.displayOf, hverdict]
      rfl
    · refine h.resolve_right fun hstopped => ?_
      cases hverdict.symm.trans (pollTrusted_eq_false_iff.mpr hstopped.1.1)
  | some result =>
    have hne : pollTrusted r ≠ none := by
      rw [hverdict]
      exact Option.some_ne_none result
    have hwarned := env.warned_iff app hverdict
    obtain ⟨app₁, hrun, hkeeps, hactive⟩ :=
      run_showAttestationResult env (app.polled r) result (htime hne)
        fun hdisconnects => hlogout (hwarned.mpr hdisconnects)
    refine ⟨app₁, ?_, ?_, hkeeps.useMobility, ?_⟩
    · rw [run_onAttestation_of_some env hverdict, EStateM.run_bind, hrun]
    · rw [hkeeps.display, App.displayOf, hverdict]
      rfl
    · rw [hactive, hwarned]
      rfl

lemma AttestationEnv.Completes.run_onAttestation {env : AttestationEnv}
    (h : env.Completes app r) :
    ∃ app', EStateM.run (onAttestation env) (app.polled r) = .ok ⟨⟩ app' ∧
      app'.display = app.displayOf r := by
  have htime : pollTrusted r ≠ none → ShowableTime (pollTime r) := by
    intro hne
    exact (givesTime_iff hne).mp (h.time (givesVerdict_iff.mpr hne))
  obtain ⟨app₁, hrun, hdisplay, hmobility, hactive⟩ := run_onAttestation_eq env app htime h.logout
  obtain ⟨app', hend, hsame⟩ : ∃ app', EStateM.run (makeTunnel env) app₁ = .ok ⟨⟩ app' ∧
      app'.display = app₁.display := by
    refine run_makeTunnel env fun hnot => ?_
    obtain ⟨⟨hoff, hnone⟩, hchdir⟩ := hnot
    have henters := h.chdir (hmobility.symm.trans hoff) (hactive.mp hnone)
    cases hchdir.symm.trans henters
  exact ⟨app', hrun.trans hend, hsame.trans hdisplay⟩

/-- The slot raises in what it shows, or in the tunnel it makes. -/
lemma AttestationEnv.completes_of_run {env : AttestationEnv} {app' : App}
    (h : EStateM.run (onAttestation env) (app.polled r) = .ok ⟨⟩ app') :
    env.Completes app r := by
  -- a verdict whose display raises ends the slot
  have hshown : ∀ result, pollTrusted r = some result → ¬ ∃ e app₁,
      EStateM.run (showAttestationResult env result) (app.polled r) = .error e app₁ := by
    rintro result hverdict ⟨e, app₁, hrun⟩
    rw [run_onAttestation_of_some env hverdict, EStateM.run_bind, hrun] at h
    cases h
  have htime : pollTrusted r ≠ none → ShowableTime (pollTime r) := by
    intro hne
    obtain ⟨result, hverdict⟩ := Option.ne_none_iff_exists'.mp hne
    by_contra hnot
    refine hshown result hverdict (run_showAttestationResult_of_not env result fun htime => ?_)
    exact absurd htime hnot
  have hlogout : env.Warned app r → ¬ app.LogoutRaises env.reply := by
    rintro ⟨hrejects, hwarning, hyes⟩ hraises
    have hverdict := pollTrusted_eq_false_iff.mpr hrejects
    refine hshown false hverdict (run_showAttestationResult_of_not env false fun _ => ?_)
    exact ⟨⟨⟨rfl, hwarning⟩, hyes⟩, hraises⟩
  refine ⟨fun hgives => ?_, hlogout, fun hoff hnone => ?_⟩
  · have hne := givesVerdict_iff.mp hgives
    exact (givesTime_iff hne).mpr (htime hne)
  · obtain ⟨app₁, hrun, -, hmobility, hactive⟩ := run_onAttestation_eq env app htime hlogout
    by_contra hchdir
    rw [Bool.not_eq_true] at hchdir
    obtain ⟨e, app₂, hend⟩ := run_makeTunnel_of_noDirectory env app₁
      ⟨⟨hmobility.trans hoff, hactive.mpr hnone⟩, hchdir⟩
    rw [hrun, hend] at h
    cases h

/-- For every outcome of a poll that calls the slot and every state of the display, the slot raises
nothing and all of the display shows the verdict, or is as before without one, exactly if a verdict
comes with a time that can be shown and nothing that follows in the slot raises. -/
theorem displayed_iff (env : AttestationEnv) (post : Post) (app polled : App)
    (request : PollRequest)
    (hrequest : pollRequest app.config app.attestationTask.currentAP = some request)
    (hpoll : EStateM.run (issuePollAttestation post) app = .ok ⟨⟩ polled) :
    (∃ app', EStateM.run (onAttestation env) polled = .ok ⟨⟩ app' ∧
      app'.display = app.displayOf (post request)) ↔ env.Completes app (post request) := by
  obtain rfl := polled_of_run hrequest hpoll
  constructor
  · rintro ⟨app', hrun, -⟩
    exact AttestationEnv.completes_of_run hrun
  · exact AttestationEnv.Completes.run_onAttestation

/-- An answer with a verdict and a time. -/
def timedJson : Json :=
  .obj [("results", .arr [.obj [("host_name", .str "ned"), ("trust_lvl", .str "trusted"),
    ("validate_time", .str "12:00")]])]

/-- Nothing can be run, and the user does not disconnect. -/
def inertEnv : AttestationEnv where
  yes := false
  reply := none
  stop := false
  start := ⟨false, none⟩

theorem displayed_trusted :
    ∃ polled app', EStateM.run (issuePollAttestation (.always timedJson)) constructedApp
        = .ok ⟨⟩ polled ∧
      EStateM.run (onAttestation inertEnv) polled = .ok ⟨⟩ app' ∧
      app'.display = (true, false, "The NED is trusted", .str "12:00") := by
  obtain ⟨request, hrequest⟩ := exists_pollRequest
  have hpoll : EStateM.run (issuePollAttestation (.always timedJson)) constructedApp
      = .ok ⟨⟩ (constructedApp.polled (some (some timedJson))) :=
    run_issuePollAttestation hrequest rfl
  have hcompletes : inertEnv.Completes constructedApp (some (some timedJson)) := by
    refine ⟨fun _ => ⟨.str "12:00", ⟨timedJson, rfl, rfl⟩, ?_⟩, ?_, ?_⟩
    · show ("12:00".toList.all fun c => c.toNat < 128) = true
      decide
    · rintro ⟨-, -, hyes⟩
      cases hyes
    · intro hmobility
      cases hmobility
  obtain ⟨app', hrun, hdisplay⟩ := (displayed_iff inertEnv (.always timedJson) constructedApp _
    request hrequest hpoll).mpr hcompletes
  exact ⟨_, app', hpoll, hrun, hdisplay⟩

/-- The verdict comes without a time: the slot raises, with the new verdict beside the old time. -/
theorem verdict_without_time :
    ∃ polled app', EStateM.run (issuePollAttestation (.always (resultsJson "ned" "trusted")))
        constructedApp = .ok ⟨⟩ polled ∧
      EStateM.run (onAttestation inertEnv) polled = .error .unboundLocal app' ∧
      constructedApp.display = (false, false, "Waiting...", .str "Time") ∧
      app'.display = (true, false, "The NED is trusted", .str "Time") := by
  obtain ⟨request, hrequest⟩ := exists_pollRequest
  refine ⟨_, _, run_issuePollAttestation hrequest rfl, rfl, rfl, rfl⟩

end SecuredApp
