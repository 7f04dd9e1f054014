import SecuredApp.Core.Run
import SecuredApp.Gui.Basic

/-!
# The record of the active tunnel

`makeIPsecConnection` and `closeIPsecConnection` run a script, record a connection or none and ask
for the picture to be drawn again. What became of the tunnels is told by the exit statuses: a start
or a stop has succeeded if its script ended with 0.
-/

namespace SecuredApp

open SecuredApp.Core

/-! ### Tunnels -/

/-- A script that ended with 0, by the connection it was called with. -/
inductive TunnelChange where
  | started (connName : String)
  | stopped (connName : String)
deriving DecidableEq

/-- The last start that succeeded was for `connName`, and no stop of it has succeeded since. The
changes are listed newest first. -/
def IsUp (changes : List TunnelChange) (connName : String) : Prop :=
  ∃ newer older, changes = newer ++ .started connName :: older ∧
    ∀ change ∈ newer, ∃ other, change = .stopped other ∧ other ≠ connName

lemma not_isUp_nil (connName : String) : ¬ IsUp [] connName := by
  rintro ⟨newer, older, h, -⟩
  simp at h

lemma isUp_started {changes : List TunnelChange} {connName connName' : String} :
    IsUp (.started connName' :: changes) connName ↔ connName = connName' := by
  constructor
  · rintro ⟨newer, older, heq, hnewer⟩
    cases newer with
    | nil =>
      obtain ⟨hstarted, -⟩ := List.cons.inj heq
      exact (TunnelChange.started.inj hstarted).symm
    | cons change newer =>
      obtain ⟨rfl, -⟩ := List.cons.inj heq
      obtain ⟨other, hother, -⟩ := hnewer _ List.mem_cons_self
      cases hother
  · rintro rfl
    exact ⟨[], changes, rfl, nofun⟩

lemma isUp_stopped {changes : List TunnelChange} {connName connName' : String} :
    IsUp (.stopped connName' :: changes) connName ↔
      IsUp changes connName ∧ connName' ≠ connName := by
  constructor
  · rintro ⟨newer, older, heq, hnewer⟩
    cases newer with
    | nil =>
      obtain ⟨hstopped, -⟩ := List.cons.inj heq
      cases hstopped
    | cons change newer =>
      obtain ⟨rfl, hchanges⟩ := List.cons.inj heq
      obtain ⟨other, hother, hne⟩ := hnewer _ List.mem_cons_self
      obtain rfl := TunnelChange.stopped.inj hother
      refine ⟨⟨newer, older, hchanges, fun change hmem => ?_⟩, hne⟩
      exact hnewer change (List.mem_cons_of_mem _ hmem)
  · rintro ⟨⟨newer, older, heq, hnewer⟩, hne⟩
    refine ⟨.stopped connName' :: newer, older, by rw [heq, List.cons_append], ?_⟩
    rw [List.forall_mem_cons]
    exact ⟨⟨connName', rfl, hne⟩, hnewer⟩

/-! ### Calls -/

/-- A call, with what becomes of its script: `stop` is its exit status, if it can be run. -/
inductive ConnectionEvent where
  | make (connName : String) (env : StartEnv)
  | close (stop : Option ℕ)
  | info                                         -- the slot `setIpsecConnectionInfo`

/-- The program and the scripts that have ended with 0, newest first. -/
structure Connections where
  app : App
  changes : List TunnelChange

/-- The start script, if it is run and ends with 0. -/
def startedBy (connName : String) (env : StartEnv) : List TunnelChange :=
  if env.chdir ∧ env.call = some 0 then [.started connName] else []

/-- The stop script, if it is run and ends with 0. -/
def stoppedBy (connName : String) (stop : Option ℕ) : List TunnelChange :=
  if stop = some 0 then [.stopped connName] else []

lemma startedBy_of_ne_zero {status : ℕ} (hstatus : status ≠ 0) (connName : String) (chdir : Bool) :
    startedBy connName ⟨chdir, some status⟩ = [] := by
  simp [startedBy, hstatus]

lemma stoppedBy_of_ne_zero {status : ℕ} (hstatus : status ≠ 0) (connName : String) :
    stoppedBy connName (some status) = [] := by
  simp [stoppedBy, hstatus]

def Connections.step (s : Connections) : ConnectionEvent → Option Connections
  | .make connName env =>
    some {
      app := after (makeIPsecConnection env connName) s.app
      changes := startedBy connName env ++ s.changes }
  | .close stop =>
    some {
      app := after (closeIPsecConnection stop.isSome) s.app
      changes := stoppedBy s.app.ipsecNedConnectionName stop ++ s.changes }
  | .info =>
    if s.app.signals.updatetIpsecConnectionInfo = 0 then none
    else
      some { s with app := after setIpsecConnectionInfo { s.app with
        signals.updatetIpsecConnectionInfo := s.app.signals.updatetIpsecConnectionInfo - 1 } }

/-- The record is the connection that is up, and the picture shows whether there is one as soon as
no signal for it waits. -/
structure Connections.Right (s : Connections) : Prop where
  active : ∀ connName, s.app.activeIpsecConnection = some connName ↔ IsUp s.changes connName
  shown : s.app.signals.updatetIpsecConnectionInfo = 0 →
    (s.app.ui.schemaTunnel = true ↔ ∃ connName, IsUp s.changes connName)

/-- A script that fails leaves the tunnels as they are recorded afterwards, and the picture is not
drawn last for a connection with an empty name. -/
def Connections.Tells (s : Connections) : ConnectionEvent → Prop
  | .make connName env => env.chdir → ∀ status, env.call = some status → status ≠ 0 →
    s.app.activeIpsecConnection = some connName
  | .close stop => ∀ status, stop = some status → status ≠ 0 →
    s.app.activeIpsecConnection = none
  | .info => s.app.signals.updatetIpsecConnectionInfo = 1 →
    s.app.activeIpsecConnection ≠ some ""

/-! ### What a call leaves -/

variable {s s' : Connections} {connName : String}

/-- What the next stop needs: it is called with the name that was recorded last. -/
structure Connections.Kept (s : Connections) : Prop extends s.Right where
  name : ∀ connName, s.app.activeIpsecConnection = some connName →
    s.app.ipsecNedConnectionName = connName

/-- After a script was run, the record is right exactly if it agrees with the changes. -/
lemma Connections.kept_of_signal {app : App} {changes : List TunnelChange}
    (hsignal : app.signals.updatetIpsecConnectionInfo ≠ 0)
    (hactive : ∀ connName, app.activeIpsecConnection = some connName ↔ IsUp changes connName)
    (hname : ∀ connName, app.activeIpsecConnection = some connName →
      app.ipsecNedConnectionName = connName) : Connections.Kept ⟨app, changes⟩ :=
  ⟨⟨hactive, fun h => absurd h hsignal⟩, hname⟩

lemma Connections.Kept.step_make (h : s.Kept) {env : StartEnv}
    (htells : s.Tells (.make connName env)) (hstep : s.step (.make connName env) = some s') :
    s'.Kept := by
  obtain ⟨chdir, call⟩ := env
  obtain rfl := Option.some.inj hstep
  cases chdir with
  | false => exact h
  | true =>
    cases call with
    | none => exact h
    | some status =>
      refine Connections.kept_of_signal (Nat.succ_ne_zero _) ?_ fun other hother => ?_
      · intro other
        by_cases hstatus : status = 0
        · subst hstatus
          show some connName = some other ↔ IsUp (.started connName :: s.changes) other
          rw [isUp_started, Option.some.injEq, eq_comm]
        · have hsame := htells rfl status rfl hstatus
          rw [startedBy_of_ne_zero hstatus, List.nil_append, ← h.active other, hsame]
          exact Iff.rfl
      · exact Option.some.inj hother

lemma Connections.Kept.step_close (h : s.Kept) {stop : Option ℕ} (htells : s.Tells (.close stop))
    (hstep : s.step (.close stop) = some s') : s'.Kept := by
  obtain rfl := Option.some.inj hstep
  cases stop with
  | none => exact h
  | some status =>
    refine Connections.kept_of_signal (Nat.succ_ne_zero _) ?_ nofun
    intro other
    refine iff_of_false nofun fun hup => ?_
    by_cases hstatus : status = 0
    · subst hstatus
      rw [stoppedBy, if_pos rfl, List.singleton_append, isUp_stopped, ← h.active other] at hup
      exact hup.2 (h.name other hup.1)
    · have hnone := htells status rfl hstatus
      rw [stoppedBy_of_ne_zero hstatus, List.nil_append, ← h.active other, hnone] at hup
      cases hup

lemma Connections.Kept.step_info (h : s.Kept) (htells : s.Tells .info)
    (hstep : s.step .info = some s') : s'.Kept := by
  simp only [Connections.step] at hstep
  split_ifs at hstep with hsignal
  obtain rfl := Option.some.inj hstep
  refine ⟨⟨h.active, fun hlast => ?_⟩, h.name⟩
  have hone : s.app.signals.updatetIpsecConnectionInfo = 1 := by
    change s.app.signals.updatetIpsecConnectionInfo - 1 = 0 at hlast
    omega
  have hempty := htells hone
  show decide (s.app.activeIpsecConnection ≠ none ∧ s.app.activeIpsecConnection ≠ some "") = true ↔
    ∃ connName, IsUp s.changes connName
  simp only [decide_eq_true_eq, ← h.active, ← Option.isSome_iff_exists, Option.isSome_iff_ne_none]
  exact and_iff_left hempty

lemma Connections.Kept.step {e : ConnectionEvent} (h : s.Kept) (htells : s.Tells e)
    (hstep : s.step e = some s') : s'.Kept := by
  cases e with
  | make => exact h.step_make htells hstep
  | close => exact h.step_close htells hstep
  | info => exact h.step_info htells hstep

/-- A step after which the record is right has told what became of the script. -/
lemma Connections.Kept.tells {e : ConnectionEvent} (h : s.Kept)
    (hright : ∀ s', s.step e = some s' → s'.Right) : s.Tells e := by
  cases e with
  | make connName env =>
    intro hchdir status hcall hstatus
    obtain ⟨chdir, call⟩ := env
    subst hchdir hcall
    have hactive := (hright _ rfl).active connName
    rw [startedBy_of_ne_zero hstatus, List.nil_append, ← h.active connName] at hactive
    exact hactive.mp rfl
  | close stop =>
    intro status hstop hstatus
    subst hstop
    refine Option.eq_none_iff_forall_ne_some.mpr fun other hother => ?_
    have hactive := (hright _ rfl).active other
    rw [stoppedBy_of_ne_zero hstatus, List.nil_append, ← h.active other] at hactive
    cases hactive.mpr hother
  | info =>
    intro hone hempty
    have hsignal : s.app.signals.updatetIpsecConnectionInfo ≠ 0 := by omega
    have hlast : s.app.signals.updatetIpsecConnectionInfo - 1 = 0 := by omega
    have hshown := ((hright _ (if_neg hsignal)).shown hlast).mpr ⟨"", (h.active "").mp hempty⟩
    have hdrawn := of_decide_eq_true hshown
    exact hdrawn.2 hempty

/-! ### Sequences of calls -/

/-- In every sequence of calls, with every outcome of the scripts and the picture drawn at any
time, the record is right after each step exactly if a script that fails leaves the tunnels as they
are recorded, and the picture is not drawn last for a connection with an empty name. -/
theorem connections_right_iff (config : RawConfigParser) (useMobility : Bool)
    (nedId ipsecNedConnectionName : String) (activeBssid : Option String)
    (es : List ConnectionEvent) :
    RunMeets Connections.step (fun _ s e => ∀ s', s.step e = some s' → s'.Right)
      ⟨.constructed config useMobility nedId ipsecNedConnectionName activeBssid, []⟩ es ↔
    RunMeets Connections.step (fun _ s e => s.Tells e)
      ⟨.constructed config useMobility nedId ipsecNedConnectionName activeBssid, []⟩ es := by
  refine runMeets_iff_of_invariant (P := Connections.Kept) ?_ ?_ ?_
  · have hnone : ¬ ∃ connName, IsUp [] connName := fun ⟨connName, h⟩ => not_isUp_nil connName h
    refine ⟨⟨fun connName => iff_of_false nofun (not_isUp_nil connName), fun _ => ?_⟩, nofun⟩
    exact iff_of_false nofun hnone
  · intro pre s₁ e s₂ hkept htells hstep
    exact hkept.step htells hstep
  · intro pre s₁ e hkept
    refine ⟨hkept.tells, fun htells s₂ hstep => ?_⟩
    exact (hkept.step htells hstep).toRight

/-- The start script runs and fails: the connection is recorded, and the picture shows a tunnel. -/
theorem failed_start_shown :
    ∃ s, run Connections.step ⟨.constructed guiConf true "ned" "ned" none, []⟩
        [.make "ned" ⟨true, some 1⟩, .info] = some s ∧
      s.app.activeIpsecConnection = some "ned" ∧ s.app.ui.schemaTunnel = true ∧
      (∀ connName, ¬ IsUp s.changes connName) ∧ ¬ s.Right :=
  ⟨_, rfl, rfl, rfl, not_isUp_nil, fun h => not_isUp_nil "ned" ((h.active "ned").mp rfl)⟩

end SecuredApp
