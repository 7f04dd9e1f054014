import SecuredApp.Mobility.Client
import SecuredApp.Mobility.ScanRun

/-!
# Scans of the program

A call of `getIWlistSignals` during which no other thread takes a step, as a run of the program that
makes it.
-/

namespace SecuredApp

open SecuredApp.Core

/-- What the program has of where a call is. -/
def ScanAt.call : ScanAt → ScanCall
  | .getDevices | .openList _ | .getAccessPoints _ _ | .getSignal _ _ _ _ => .scanning
  | .testStop => .testStop
  | .returned | .raised => .done

/-- The program when its call `j` has come this far. -/
def Mobile.scan (m : Mobile) (j : ℕ) (r : ScanRun) : Mobile :=
  { m with
    app.mobClient := r.state.client
    scans := m.scans.set j r.pos.call
    scanTimers := m.scanTimers + r.state.timers }

/-- While it goes over access points, the call has recorded the one it is connected to. -/
def ScanRun.Connected (r : ScanRun) : Prop :=
  match r.pos with
  | .getAccessPoints _ _ | .getSignal _ _ _ _ =>
    ∃ current, r.state.client.currentConnection = some current
  | _ => True

/-- Another thread takes no step. -/
def ScanAnswer.own : ScanAnswer → Bool
  | .setStop _ => false
  | _ => true

variable {m : Mobile} {j : ℕ} {r r' : ScanRun} {s s' : ScanState} {p p' : ScanAt}

/-- The program reaches the one state of the call from the other. -/
def Mobile.Reaches (m : Mobile) (j : ℕ) (r r' : ScanRun) : Prop :=
  ∃ es, run Mobile.step (m.scan j r) es = some (m.scan j r')

lemma Mobile.Reaches.trans {r'' : ScanRun} (h : m.Reaches j r r') (h' : m.Reaches j r' r'') :
    m.Reaches j r r'' := by
  obtain ⟨es, hes⟩ := h
  obtain ⟨es', hes'⟩ := h'
  refine ⟨es ++ es', ?_⟩
  rw [run_append, hes, Option.bind_some, hes']

lemma Mobile.call_scan (hj : j < m.scans.length) : (m.scan j r).scans[j]? = some r.pos.call :=
  List.getElem?_set_self hj

/-- Where nothing changes that the program has of the call, it takes no step. -/
lemma Mobile.reaches_of_call_eq (h : p.call = p'.call) : m.Reaches j ⟨s, p⟩ ⟨s, p'⟩ := by
  refine ⟨[], ?_⟩
  rw [run_nil, Mobile.scan, Mobile.scan, h]

/-- The client is given a connection, and a list. -/
lemma Mobile.reaches_publish (hj : j < m.scans.length) (hp : p.call = .scanning)
    {current : AccessPoint} {wifilist : List WifiEntry}
    (hclient : s'.client = { s.client with
      currentConnection := some current, wifilist := wifilist })
    (htimers : s'.timers = s.timers) : m.Reaches j ⟨s, p⟩ ⟨s', p⟩ := by
  have hcall : (m.scan j ⟨s, p⟩).scans[j]? = some .scanning := hp ▸ Mobile.call_scan hj
  refine ⟨[.publish j current wifilist], ?_⟩
  rw [run_cons, Mobile.step, if_pos hcall, Option.bind_some, run_nil, Mobile.scan, Mobile.scan,
    hclient, htimers]

lemma Mobile.reaches_testStop (hj : j < m.scans.length) (hp : p.call = .scanning) :
    m.Reaches j ⟨s, p⟩ ⟨s, .testStop⟩ := by
  have hcall : (m.scan j ⟨s, p⟩).scans[j]? = some .scanning := hp ▸ Mobile.call_scan hj
  refine ⟨[.scanned j], ?_⟩
  rw [run_cons, Mobile.step, if_pos hcall, Option.bind_some, run_nil, Mobile.scan, Mobile.scan]
  simp only [List.set_set]
  rfl

/-- The call returns early, or raises. -/
lemma Mobile.reaches_ended (hj : j < m.scans.length) (hp : p.call = .scanning)
    (hp' : p'.call = .done) : m.Reaches j ⟨s, p⟩ ⟨s, p'⟩ := by
  have hcall : (m.scan j ⟨s, p⟩).scans[j]? = some .scanning := hp ▸ Mobile.call_scan hj
  refine ⟨[.scanFails j], ?_⟩
  rw [run_cons, Mobile.step, if_pos hcall, Option.bind_some, run_nil, Mobile.scan, Mobile.scan]
  simp only [List.set_set, hp']

lemma Mobile.reaches_nextDevice (hj : j < m.scans.length) (hp : p.call = .scanning)
    (ssidsList : String) (devs : List NetDevice) :
    m.Reaches j ⟨s, p⟩ (nextDevice ssidsList devs s) ∧ (nextDevice ssidsList devs s).Connected := by
  induction devs with
  | nil => exact ⟨Mobile.reaches_testStop hj hp, trivial⟩
  | cons dev devs ih =>
    rw [nextDevice]
    split_ifs with hwifi
    · cases dev.activeAccessPoint with
      | none => exact ih
      | some currentAP =>
        have hpublish : m.Reaches j ⟨s, p⟩ ⟨s.connect currentAP, p⟩ :=
          Mobile.reaches_publish hj hp rfl rfl
        exact ⟨hpublish.trans (Mobile.reaches_of_call_eq hp), currentAP, rfl⟩
    · exact ih

lemma Mobile.reaches_nextAp (hj : j < m.scans.length) (hp : p.call = .scanning)
    {current : AccessPoint} (hcurrent : s.client.currentConnection = some current)
    (ssidsList : String) (devs : List NetDevice) (aps : List AccessPoint) :
    m.Reaches j ⟨s, p⟩ (nextAp ssidsList devs aps s) ∧ (nextAp ssidsList devs aps s).Connected := by
  induction aps with
  | nil =>
    have hclient : s.publish.client = { s.client with
        currentConnection := some current, wifilist := s.wl } := by
      rw [← hcurrent]
      rfl
    have hpublish : m.Reaches j ⟨s, p⟩ ⟨s.publish, p⟩ :=
      Mobile.reaches_publish hj hp hclient rfl
    obtain ⟨hnext, hconnected⟩ := Mobile.reaches_nextDevice hj hp ssidsList devs
    exact ⟨hpublish.trans hnext, hconnected⟩
  | cons ap aps ih =>
    rw [nextAp]
    split_ifs
    · exact ⟨Mobile.reaches_of_call_eq hp, current, hcurrent⟩
    · exact ih

/-- What is appended is published if the list is. -/
lemma Mobile.reaches_append (hj : j < m.scans.length) (hp : p.call = .scanning)
    {current : AccessPoint} (hcurrent : s.client.currentConnection = some current)
    (ssidsList : String) (devs : List NetDevice) (rest : List AccessPoint) (w : WifiEntry) :
    m.Reaches j ⟨s, p⟩ (nextAp ssidsList devs rest (s.append w)) ∧
      (nextAp ssidsList devs rest (s.append w)).Connected := by
  have hclient : (s.append w).client = { s.client with
      currentConnection := some current
      wifilist := if s.published then s.wl ++ [w] else s.client.wifilist } := by
    rw [← hcurrent]
    rfl
  have happend : m.Reaches j ⟨s, p⟩ ⟨s.append w, p⟩ := Mobile.reaches_publish hj hp hclient rfl
  have hcurrent' : (s.append w).client.currentConnection = some current := hcurrent
  obtain ⟨hnext, hconnected⟩ := Mobile.reaches_nextAp hj hp hcurrent' ssidsList devs rest
  exact ⟨happend.trans hnext, hconnected⟩

/-- `if not self.stop_mobility`, with what follows if it is. -/
lemma Mobile.step_testStop (hj : j < m.scans.length) :
    Mobile.step (m.scan j ⟨s, .testStop⟩) (.scan j) = some { m.scan j ⟨s, .testStop⟩ with
      scans := m.scans.set j (if s.client.stopMobility then .done else .arm) } := by
  have hcall : (m.scan j ⟨s, .testStop⟩).scans[j]? = some .testStop := Mobile.call_scan hj
  rw [Mobile.step, hcall]
  simp only [Mobile.scan, List.set_set]
  rfl

lemma Mobile.reaches_stopped (hj : j < m.scans.length) (hstop : s.client.stopMobility = true) :
    m.Reaches j ⟨s, .testStop⟩ ⟨s, .returned⟩ := by
  refine ⟨[.scan j], ?_⟩
  rw [run_cons, Mobile.step_testStop hj, if_pos hstop]
  rfl

lemma Mobile.reaches_arms (hj : j < m.scans.length) (hstop : s.client.stopMobility = false) :
    m.Reaches j ⟨s, .testStop⟩ ⟨{ s with timers := s.timers + 1 }, .returned⟩ := by
  have harm : (m.scans.set j ScanCall.arm)[j]? = some .arm := List.getElem?_set_self hj
  refine ⟨[.scan j, .scan j], ?_⟩
  rw [run_cons, Mobile.step_testStop hj, if_neg (by simp [hstop]), Option.bind_some, run_cons,
    Mobile.step]
  simp only [harm, List.set_set]
  rfl

lemma Mobile.reaches_step (hj : j < m.scans.length) (hconnected : r.Connected) {e : ScanAnswer}
    (hown : e.own = true) (hstep : r.Step e r') : m.Reaches j r r' ∧ r'.Connected := by
  cases hstep with
  | noDevices | noList | noAccessPoints => exact ⟨Mobile.reaches_ended hj rfl rfl, trivial⟩
  | devices => exact ⟨Mobile.reaches_of_call_eq rfl, trivial⟩
  | ssidsList => exact Mobile.reaches_nextDevice hj rfl _ _
  | accessPoints =>
    obtain ⟨current, hcurrent⟩ := hconnected
    exact Mobile.reaches_nextAp hj rfl hcurrent _ _ _
  | noSignal =>
    obtain ⟨current, hcurrent⟩ := hconnected
    exact ⟨Mobile.reaches_of_call_eq rfl, current, hcurrent⟩
  | signal =>
    obtain ⟨current, hcurrent⟩ := hconnected
    exact Mobile.reaches_append hj rfl hcurrent _ _ _ _
  | stopped hstop => exact ⟨Mobile.reaches_stopped hj hstop, trivial⟩
  | arms hstop => exact ⟨Mobile.reaches_arms hj hstop, trivial⟩
  | setStop => cases hown

/-- A call during which no other thread takes a step is a run of the program. -/
theorem Mobile.exists_run_scan (hj : m.scans[j]? = some .scanning) {es : List ScanAnswer}
    (hown : ∀ e ∈ es, e.own = true)
    (hrun : run ScanRun.step (.begin m.app.mobClient) es = some r) :
    ∃ es', run Mobile.step m es' = some (m.scan j r) := by
  obtain ⟨hlength, hscanning⟩ := List.getElem?_eq_some_iff.mp hj
  have hbegin : m.Reaches j ⟨.start m.app.mobClient, .getDevices⟩ (.begin m.app.mobClient) ∧
      (ScanRun.begin m.app.mobClient).Connected := by
    rw [ScanRun.begin]
    split_ifs
    · exact ⟨Mobile.reaches_of_call_eq rfl, trivial⟩
    · exact ⟨Mobile.reaches_ended hlength rfl rfl, trivial⟩
  have hreaches : (∀ e ∈ es, e.own = true) →
      m.Reaches j ⟨.start m.app.mobClient, .getDevices⟩ r ∧ r.Connected := by
    refine run_induction (P := fun es r => (∀ e ∈ es, e.own = true) →
      m.Reaches j ⟨.start m.app.mobClient, .getDevices⟩ r ∧ r.Connected) ?_ ?_ hrun
    · exact fun _ => hbegin
    intro es r e r' _ ih hstep hown
    rw [List.forall_mem_append, List.forall_mem_singleton] at hown
    obtain ⟨hreaches, hconnected⟩ := ih hown.1
    obtain ⟨hnext, hconnected'⟩ :=
      Mobile.reaches_step hlength hconnected hown.2 (ScanRun.step_sound hstep)
    exact ⟨hreaches.trans hnext, hconnected'⟩
  have hscans : m.scans.set j .scanning = m.scans := by
    rw [← hscanning, List.set_getElem_self]
  have hm : m.scan j ⟨.start m.app.mobClient, .getDevices⟩ = m := by
    show { m with scans := m.scans.set j .scanning } = m
    rw [hscans]
  obtain ⟨⟨es', hes'⟩, -⟩ := hreaches hown
  rw [hm] at hes'
  exact ⟨es', hes'⟩

end SecuredApp
