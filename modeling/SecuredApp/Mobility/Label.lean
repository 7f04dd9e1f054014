import SecuredApp.Gui.Session
import SecuredApp.Mobility.Steps

/-!
# The label of the security status

The label is written by a login, by a report that is answered with a migration and by a handover
that ends; the user is recorded by a login and cleared by a refused one and by a logout. A login
without a reply writes neither, and is no event here.
-/

namespace SecuredApp

open SecuredApp.Core

variable {app : App} {s s' : Mobile} {e : MobileEvent}

/-- The label and the user. -/
def App.labels (app : App) : Enforcement × Option String := (app.ui.statusLabel, app.user)

/-- A user is logged in whenever the label reads that the security is enforced or migrating. -/
def App.Labelled (app : App) : Prop := app.ui.statusLabel ≠ .notEnforced → app.user ≠ none

/-- The label reads that the security is not enforced, or a logout with this reply does not end the
session. -/
def App.LogsOutLabelled (app : App) (reply : Option ℕ) : Prop :=
  app.status = some true → reply = some 200 → app.ui.statusLabel = .notEnforced

/-- A report labels a migration or the end of a handover only while a user is logged in, and the
user is cleared only while the label reads that the security is not enforced. -/
def Mobile.LabelsUser (s : Mobile) : MobileEvent → Prop
  | .report i => s.app.user = none → s.reports[i]? ≠ some .setMigrating ∧
    ∀ rest, s.reports[i]? ≠ some (.setEnforced rest)
  | .loginRefused => s.gui = .idle → s.app.ui.statusLabel = .notEnforced
  | .logout reply => s.gui = .idle → s.app.LogsOutLabelled reply
  | .disconnect _ reply _ _ => s.gui = .idle → s.app.LogsOutLabelled reply
  | _ => True

/-! ### What a step writes -/

/-- A logout clears the user if it ends the session. -/
lemma labels_logout (reply : Option ℕ) (app : App) :
    (after (logout reply) app).labels
      = (app.ui.statusLabel,
        if app.status = some true ∧ reply = some 200 then none else app.user) := by
  rw [after, run_logout]
  split_ifs with hends hthread
  · rfl
  · rfl
  · rfl

lemma labels_mobilityStarted (app : App) (env : MobilityEnv) :
    (app.mobilityStarted env).labels = app.labels := by
  obtain ⟨currentAP, ip, taskAP, n, hafter⟩ := after_getCurrentAP_eq env.devices { app with
    mobClient.savedConnections := app.mobClient.savedConnections ++ env.settings
    mobClient.nmc := true }
  rw [App.mobilityStarted, hafter]
  rfl

lemma Mobile.labels_start (s : Mobile) (env : MobilityEnv) (login : Bool) :
    (s.start env login).app.labels = s.app.labels := by
  rw [Mobile.start]
  split_ifs
  · exact labels_mobilityStarted s.app env
  · rfl

lemma labels_updateConnectionInfoView : Frames App.labels updateConnectionInfoView := by
  refine .modify fun app => ?_
  split
  · rfl
  · rfl
  · dsimp only
    split <;> rfl

lemma Mobile.labels_disconnect (s : Mobile) (exits : Bool) (reply : Option ℕ) (stop : Bool)
    (env : StartEnv) :
    (s.disconnect exits reply stop env).app.labels = (after (logout reply) s.app).labels := by
  rw [Mobile.disconnect, after]
  cases EStateM.run (logout reply) s.app with
  | error => rfl
  | ok =>
    cases exits with
    | false => cases stop <;> rfl
    | true => cases stop <;> rfl

lemma Mobile.labels_guiStep {call : GuiCall} (h : s.GuiStep call s') :
    s'.app.labels = s.app.labels := by
  cases h <;> rfl

/-- A report writes the label in two statements. -/
lemma Mobile.labels_reportStep {call call' : ReportCall} (h : s.ReportStep call s' call') :
    s'.app.labels = s.app.labels ∨
      call = .setMigrating ∧ s'.app.labels = (.migrating, s.app.user) ∨
      ∃ rest, call = .setEnforced rest ∧ s'.app.labels = (.enforced, s.app.user) := by
  cases h with
  | setMigrating => exact .inr (.inl ⟨rfl, rfl⟩)
  | setEnforced => exact .inr (.inr ⟨_, rfl, rfl⟩)
  | _ => exact .inl rfl

/-! ### What a step leaves -/

lemma App.labelled_congr {app app' : App} (h : app'.labels = app.labels) :
    app'.Labelled ↔ app.Labelled := by
  obtain ⟨hlabel, huser⟩ := Prod.mk.inj h
  rw [App.Labelled, App.Labelled, hlabel, huser]

/-- After a logout the label says that there is a user if it did before, and it did not read that
the security is enforced or migrating where the session ends. -/
lemma App.labelled_logout_iff {reply : Option ℕ} (h : app.Labelled) :
    (after (logout reply) app).Labelled ↔ app.LogsOutLabelled reply := by
  obtain ⟨hlabel, huser⟩ := Prod.mk.inj (labels_logout reply app)
  rw [App.Labelled, hlabel, huser, App.LogsOutLabelled]
  by_cases hends : app.status = some true ∧ reply = some 200
  · rw [if_pos hends]
    constructor
    · intro hlabelled _ _
      by_contra hne
      exact hlabelled hne rfl
    · intro hnot hne
      exact absurd (hnot hends.1 hends.2) hne
  · rw [if_neg hends]
    refine iff_of_true h fun hstatus hreply => ?_
    exact absurd ⟨hstatus, hreply⟩ hends

lemma Mobile.labelled_handle (h : s.app.Labelled) (huser : s.LabelsUser e) (hidle : s.gui = .idle)
    (hstep : s.handle e = some s') : s'.app.Labelled := by
  have hframed : ∀ app' : App, app'.labels = s.app.labels → app'.Labelled :=
    fun app' hlabels => (App.labelled_congr hlabels).mpr h
  cases e with
  | startMobility env =>
    obtain rfl := Option.some.inj hstep
    refine hframed _ ?_
    rw [Mobile.labels_start]
    rfl
  | stopMobility | startHandover | stopHandover | attestation =>
    obtain rfl := Option.some.inj hstep
    exact hframed _ rfl
  | login user env =>
    rw [Mobile.handle] at hstep
    split_ifs at hstep
    · obtain rfl := Option.some.inj hstep
      have hlogged : (s.app.loggedIn user).Labelled := by
        intro _ hnone
        cases hnone
      exact (App.labelled_congr (Mobile.labels_start _ env true)).mpr hlogged
    · obtain rfl := Option.some.inj hstep
      intro _ hnone
      cases hnone
  | loginRefused =>
    obtain rfl := Option.some.inj hstep
    intro hne
    exact absurd (huser hidle) hne
  | logout reply =>
    obtain rfl := Option.some.inj hstep
    exact (App.labelled_logout_iff h).mpr (huser hidle)
  | disconnect exits reply stop env =>
    obtain rfl := Option.some.inj hstep
    rw [App.labelled_congr (s.labels_disconnect exits reply stop env)]
    exact (App.labelled_logout_iff h).mpr (huser hidle)
  | connectionInfo =>
    rw [Mobile.handle] at hstep
    split_ifs at hstep
    obtain rfl := Option.some.inj hstep
    exact hframed _ (labels_updateConnectionInfoView _)
  | ipsecConnectionInfo =>
    rw [Mobile.handle] at hstep
    split_ifs at hstep
    obtain rfl := Option.some.inj hstep
    exact hframed _ rfl
  | fireReport | fireScan | report | answer | publish | scanned | scanFails | scan | stopEnds
  | gui => cases hstep

lemma Mobile.labelled_step (h : s.app.Labelled) (huser : s.LabelsUser e)
    (hstep : s.step e = some s') : s'.app.Labelled := by
  cases e with
  | report i =>
    cases Mobile.step_sound hstep with
    | report hcall hreport =>
      rcases Mobile.labels_reportStep hreport with hlabels | ⟨rfl, hlabels⟩ | ⟨rest, rfl, hlabels⟩
      · exact (App.labelled_congr hlabels).mpr h
      · intro _ hnone
        have hnone' : s.app.user = none := (Prod.mk.inj hlabels).2.symm.trans hnone
        exact (huser hnone').1 hcall
      · intro _ hnone
        have hnone' : s.app.user = none := (Prod.mk.inj hlabels).2.symm.trans hnone
        exact (huser hnone').2 rest hcall
    | handled hcalls => cases hcalls
  | fireReport | fireScan | answer | publish | scanned | scanFails | scan | stopEnds =>
    cases Mobile.step_sound hstep with
    | handled hcalls => cases hcalls
    | _ => exact h
  | gui => exact (App.labelled_congr (Mobile.labels_guiStep (Mobile.guiStep_sound hstep))).mpr h
  | startMobility | stopMobility | startHandover | stopHandover | login | loginRefused | logout
  | attestation | connectionInfo | ipsecConnectionInfo | disconnect =>
    simp only [Mobile.step] at hstep
    split at hstep
    · rename_i hidle
      exact Mobile.labelled_handle h huser hidle hstep
    · cases hstep

/-- A step after which the label reads enforced or migrating only with a user labels a user. -/
lemma Mobile.labelsUser_of_labelled (h : s.app.Labelled)
    (hlabelled : ∀ s', s.step e = some s' → s'.app.Labelled) : s.LabelsUser e := by
  cases e with
  | report i =>
    intro hnone
    refine ⟨fun hcall => ?_, fun rest hcall => ?_⟩
    · have hstep : s.step (.report i) = some { s with
          app.ui.statusLabel := .migrating
          app.mobClient.migrating := true
          reports := s.reports.set i .release } := by
        simp only [Mobile.step, hcall, Mobile.reportStep, Option.map_some]
      exact hlabelled _ hstep Enforcement.noConfusion hnone
    · have hstep : s.step (.report i) = some { s with
          app.ui.statusLabel := .enforced, reports := s.reports.set i (.visit rest) } := by
        simp only [Mobile.step, hcall, Mobile.reportStep, Option.map_some]
      exact hlabelled _ hstep Enforcement.noConfusion hnone
  | loginRefused =>
    intro hidle
    by_contra hne
    refine hlabelled { s with app.user := none, app.status := some false } ?_ hne rfl
    simp only [Mobile.step, hidle, Mobile.handle]
  | logout reply =>
    intro hidle
    have hstep : s.step (.logout reply) = some { s with app := after (logout reply) s.app } := by
      simp only [Mobile.step, hidle, Mobile.handle]
    exact (App.labelled_logout_iff h).mp (hlabelled _ hstep)
  | disconnect exits reply stop env =>
    intro hidle
    have hstep : s.step (.disconnect exits reply stop env)
        = some (s.disconnect exits reply stop env) := by
      simp only [Mobile.step, hidle, Mobile.handle]
    have hdisconnected := hlabelled _ hstep
    rw [App.labelled_congr (s.labels_disconnect exits reply stop env)] at hdisconnected
    exact (App.labelled_logout_iff h).mp hdisconnected
  | _ => trivial

/-! ### Runs -/

/-- The constructor leaves the label as it is made. -/
lemma App.labelled_of_init {config : RawConfigParser} {env : InitEnv}
    (h : App.init config env = some app) : app.Labelled := by
  suffices hlabel : app.ui.statusLabel = .notEnforced from fun hne => absurd hlabel hne
  refine App.holds_of_init (P := fun app => app.ui.statusLabel = .notEnforced) ?_ ?_ ?_ ?_ h
  · intro useMobility nedId connName
    rfl
  · intro app hlabel
    obtain ⟨currentAP, ip, taskAP, n, hafter⟩ := after_getCurrentAP_eq env.devices app
    rw [hafter]
    exact hlabel
  · intro connName
    refine .ite (fun _ => .throw_bind _ _) fun _ => .ite (fun _ => ?_) fun _ => .pure _
    exact .bind (.modify fun app h => h) fun _ => .modify fun app h => h
  · intro app hlabel
    exact hlabel

/-- In every run, with any order of the steps of the reports and of the GUI, the label reads that
the security is enforced or migrating only while a user is logged in, exactly if no report writes it
without a user, and the user is cleared only while it reads that the security is not enforced. -/
theorem labelled_iff (config : RawConfigParser) (init : InitEnv) (app : App)
    (es : List MobileEvent) (hinit : App.init config init = some app) :
    RunMeets Mobile.step (fun _ s e => ∀ s', s.step e = some s' → s'.app.Labelled)
      (.init app) es ↔
    RunMeets Mobile.step (fun _ s e => s.LabelsUser e) (.init app) es := by
  refine runMeets_iff_of_invariant (P := fun s => s.app.Labelled) (App.labelled_of_init hinit) ?_ ?_
  · intro pre s₁ e s₂ h huser hstep
    exact Mobile.labelled_step h huser hstep
  · intro pre s₁ e h
    refine ⟨Mobile.labelsUser_of_labelled h, fun huser s₂ hstep => ?_⟩
    exact Mobile.labelled_step h huser hstep

theorem labelled_alice :
    ∃ app s, App.init guiConf (startOn ⟨"secured1", "00:01"⟩) = some app ∧
      run Mobile.step (.init app) [.stopMobility, .login "alice" unreachableEnv] = some s ∧
      s.app.labels = (.enforced, some "alice") ∧
      (RunMeets Mobile.step (fun _ s e => ∀ s', s.step e = some s' → s'.app.Labelled) (.init app)
        [.stopMobility, .login "alice" unreachableEnv] ↔
      RunMeets Mobile.step (fun _ s e => s.LabelsUser e) (.init app)
        [.stopMobility, .login "alice" unreachableEnv]) := by
  have hmap : ((App.init guiConf (startOn ⟨"secured1", "00:01"⟩)).bind fun app =>
      (run Mobile.step (.init app) [.stopMobility, .login "alice" unreachableEnv]).map fun s =>
        s.app.labels) = some (.enforced, some "alice") := by
    decide +kernel
  obtain ⟨app, s, hinit, hrun, hlabels⟩ := exists_run hmap
  exact ⟨app, s, hinit, hrun, hlabels, labelled_iff guiConf _ app _ hinit⟩

/-- The user logs in and out: the label goes on reading that the security is enforced. -/
theorem enforced_without_user :
    ∃ app s, App.init guiConf (startOn ⟨"secured1", "00:01"⟩) = some app ∧
      run Mobile.step (.init app)
        [.stopMobility, .login "alice" unreachableEnv, .logout (some 200)] = some s ∧
      s.app.labels = (.enforced, none) ∧ ¬ s.app.Labelled := by
  have hmap : ((App.init guiConf (startOn ⟨"secured1", "00:01"⟩)).bind fun app =>
      (run Mobile.step (.init app)
        [.stopMobility, .login "alice" unreachableEnv, .logout (some 200)]).map fun s =>
          s.app.labels) = some (.enforced, none) := by
    decide +kernel
  obtain ⟨app, s, hinit, hrun, hlabels⟩ := exists_run hmap
  obtain ⟨hlabel, huser⟩ := Prod.mk.inj hlabels
  refine ⟨app, s, hinit, hrun, hlabels, fun h => h ?_ huser⟩
  rw [hlabel]
  exact Enforcement.noConfusion

end SecuredApp
