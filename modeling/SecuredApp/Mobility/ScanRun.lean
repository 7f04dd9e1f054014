import SecuredApp.Core.Run
import SecuredApp.Mobility.Signals

/-!
# The next scan

`getIWlistSignals` by what it asks for: the devices, the text of `ssids_list`, the access points of
a device before each pass, a signal. Every answer may differ from the ones before it, and may be
that the call for it raised; meanwhile the GUI may stop or start mobility.
-/

namespace SecuredApp

open SecuredApp.Core

/-- What a call asks for next. -/
inductive ScanAt where
  | getDevices
  | openList (devs : List NetDevice)
  | getAccessPoints (ssidsList : String) (devs : List NetDevice)
  | getSignal (ssidsList : String) (ap : AccessPoint) (rest : List AccessPoint)
      (devs : List NetDevice)
  | testStop
  | returned
  | raised

/-- A call of `getIWlistSignals`. -/
structure ScanRun where
  state : ScanState
  pos : ScanAt

/-- What the call is answered, `none` where what it asks for raises. -/
inductive ScanAnswer where
  | devices (devs : Option (List NetDevice))
  | ssidsList (text : Option String)
  | accessPoints (aps : Option (List AccessPoint))
  | signal (q : Option Rat)                     -- `getSignal`, which raises nothing
  | testStop                                    -- `if not self.stop_mobility`
  | setStop (stop : Bool)                       -- another thread assigns the attribute

/-- The call, when it has read the attribute `nmc`. -/
def ScanRun.begin (client : MobilityClient) : ScanRun where
  state := .start client
  pos := if client.nmc then .getDevices else .raised

/-- The next device whose access points are asked for. -/
def nextDevice (ssidsList : String) : List NetDevice → ScanState → ScanRun
  | [], s => ⟨s, .testStop⟩
  | dev :: devs, s =>
    if dev.deviceType = .wifi then
      match dev.activeAccessPoint with
      | none => nextDevice ssidsList devs s
      | some currentAP => ⟨s.connect currentAP, .getAccessPoints ssidsList devs⟩
    else nextDevice ssidsList devs s

/-- The next access point of a pass whose signal is asked for. -/
def nextAp (ssidsList : String) (devs : List NetDevice) : List AccessPoint → ScanState → ScanRun
  | [], s => nextDevice ssidsList devs s.publish
  | ap :: rest, s =>
    if Listed ssidsList ap ∧ lower ap.ssid ∉ s.aps then ⟨s, .getSignal ssidsList ap rest devs⟩
    else nextAp ssidsList devs rest s

def ScanRun.Ended (r : ScanRun) : Prop := r.pos = .returned ∨ r.pos = .raised

/-- A step of the call with its answer, or of another thread. -/
def ScanRun.step (r : ScanRun) : ScanAnswer → Option ScanRun
  | .devices devs =>
    match r.pos, devs with
    | .getDevices, none => some { r with pos := .raised }
    | .getDevices, some devs => some { r with pos := .openList devs }
    | _, _ => none
  | .ssidsList text =>
    match r.pos, text with
    | .openList _, none => some { r with pos := .returned }
    | .openList devs, some ssidsList => some (nextDevice ssidsList devs r.state)
    | _, _ => none
  | .accessPoints aps =>
    match r.pos, aps with
    | .getAccessPoints _ _, none => some { r with pos := .raised }
    | .getAccessPoints ssidsList devs, some aps => some (nextAp ssidsList devs aps r.state)
    | _, _ => none
  | .signal q =>
    match r.pos with
    | .getSignal ssidsList ap rest devs =>
      match truthy q with
      -- what is left of the pass does nothing, and the next one begins
      | none => some { r with pos := .getAccessPoints ssidsList devs }
      | some signal =>
        some (nextAp ssidsList devs rest (r.state.append ⟨ap.ssid, signal, ap.bssid⟩))
    | _ => none
  | .testStop =>
    match r.pos with
    | .testStop =>
      if r.state.client.stopMobility then some { r with pos := .returned }
      else some ⟨{ r.state with timers := r.state.timers + 1 }, .returned⟩
    | _ => none
  | .setStop stop =>
    match r.pos with
    | .returned | .raised => none
    | _ => some { r with state.client.stopMobility := stop }

/-- What a step can be. -/
inductive ScanRun.Step : ScanRun → ScanAnswer → ScanRun → Prop where
  | noDevices {s : ScanState} : ScanRun.Step ⟨s, .getDevices⟩ (.devices none) ⟨s, .raised⟩
  | devices {s : ScanState} {devs : List NetDevice} :
      ScanRun.Step ⟨s, .getDevices⟩ (.devices (some devs)) ⟨s, .openList devs⟩
  | noList {s : ScanState} {devs : List NetDevice} :
      ScanRun.Step ⟨s, .openList devs⟩ (.ssidsList none) ⟨s, .returned⟩
  | ssidsList {s : ScanState} {devs : List NetDevice} {ssidsList : String} :
      ScanRun.Step ⟨s, .openList devs⟩ (.ssidsList (some ssidsList)) (nextDevice ssidsList devs s)
  | noAccessPoints {s : ScanState} {devs : List NetDevice} {ssidsList : String} :
      ScanRun.Step ⟨s, .getAccessPoints ssidsList devs⟩ (.accessPoints none) ⟨s, .raised⟩
  | accessPoints {s : ScanState} {devs : List NetDevice} {ssidsList : String}
      {aps : List AccessPoint} : ScanRun.Step ⟨s, .getAccessPoints ssidsList devs⟩
        (.accessPoints (some aps)) (nextAp ssidsList devs aps s)
  | noSignal {s : ScanState} {devs : List NetDevice} {ssidsList : String} {ap : AccessPoint}
      {rest : List AccessPoint} {q : Option Rat} (hsignal : truthy q = none) :
      ScanRun.Step ⟨s, .getSignal ssidsList ap rest devs⟩ (.signal q)
        ⟨s, .getAccessPoints ssidsList devs⟩
  | signal {s : ScanState} {devs : List NetDevice} {ssidsList : String} {ap : AccessPoint}
      {rest : List AccessPoint} {q : Option Rat} {signal : Rat} (hsignal : truthy q = some signal) :
      ScanRun.Step ⟨s, .getSignal ssidsList ap rest devs⟩ (.signal q)
        (nextAp ssidsList devs rest (s.append ⟨ap.ssid, signal, ap.bssid⟩))
  | stopped {s : ScanState} (hstop : s.client.stopMobility = true) :
      ScanRun.Step ⟨s, .testStop⟩ .testStop ⟨s, .returned⟩
  | arms {s : ScanState} (hstop : s.client.stopMobility = false) :
      ScanRun.Step ⟨s, .testStop⟩ .testStop ⟨{ s with timers := s.timers + 1 }, .returned⟩
  | setStop {r : ScanRun} {stop : Bool} (hgoing : ¬ r.Ended) :
      ScanRun.Step r (.setStop stop) { r with state.client.stopMobility := stop }

lemma ScanRun.step_sound {r r' : ScanRun} {e : ScanAnswer} (h : r.step e = some r') :
    r.Step e r' := by
  obtain ⟨s, p⟩ := r
  cases e with
  | devices devs =>
    cases p with
    | getDevices =>
      cases devs with
      | none => exact Option.some.inj h ▸ .noDevices
      | some devs => exact Option.some.inj h ▸ .devices
    | _ => cases h
  | ssidsList text =>
    cases p with
    | openList devs =>
      cases text with
      | none => exact Option.some.inj h ▸ .noList
      | some ssidsList => exact Option.some.inj h ▸ .ssidsList
    | _ => cases h
  | accessPoints aps =>
    cases p with
    | getAccessPoints ssidsList devs =>
      cases aps with
      | none => exact Option.some.inj h ▸ .noAccessPoints
      | some aps => exact Option.some.inj h ▸ .accessPoints
    | _ => cases h
  | signal q =>
    cases p with
    | getSignal ssidsList ap rest devs =>
      rw [ScanRun.step] at h
      cases hsignal : truthy q with
      | none =>
        simp only [hsignal] at h
        exact Option.some.inj h ▸ .noSignal hsignal
      | some signal =>
        simp only [hsignal] at h
        exact Option.some.inj h ▸ .signal hsignal
    | _ => cases h
  | testStop =>
    cases p with
    | testStop =>
      simp only [ScanRun.step] at h
      split_ifs at h with hstop
      · exact Option.some.inj h ▸ .stopped hstop
      · exact Option.some.inj h ▸ .arms (Bool.eq_false_of_not_eq_true hstop)
    | _ => cases h
  | setStop stop =>
    cases p with
    | returned | raised => cases h
    | _ =>
      refine Option.some.inj h ▸ .setStop ?_
      simp [ScanRun.Ended]

/-- What was asked for raised. -/
def ScanAnswer.Fails : ScanAnswer → Prop
  | .devices none | .ssidsList none | .accessPoints none => True
  | _ => False

/-! ### Whether a call schedules the next one -/

variable {client : MobilityClient} {es : List ScanAnswer} {e : ScanAnswer} {r r' : ScanRun}

/-- The attribute `nmc` was there, and nothing that was asked for raised. -/
def Unfailing (client : MobilityClient) (es : List ScanAnswer) : Prop :=
  client.nmc = true ∧ ∀ e ∈ es, ¬ e.Fails

lemma unfailing_concat : Unfailing client (es ++ [e]) ↔ Unfailing client es ∧ ¬ e.Fails := by
  simp only [Unfailing, List.forall_mem_append, List.forall_mem_singleton]
  tauto

/-- How far a call has come, and how many timers it has started. -/
inductive ScanRun.Stage (client : MobilityClient) (es : List ScanAnswer) (r : ScanRun) : Prop where
  | asking (unfailing : Unfailing client es) (going : ¬ r.Ended) (timers : r.state.timers = 0)
  | done (unfailing : Unfailing client es) (returned : r.pos = .returned)
      (timers : r.state.timers = if r.state.client.stopMobility then 0 else 1)
  | failed (failing : ¬ Unfailing client es) (ended : r.Ended) (timers : r.state.timers = 0)

/-- A call that has ended takes no step. -/
lemma ScanRun.Step.going (h : r.Step e r') : ¬ r.Ended := by
  cases h with
  | setStop hgoing => exact hgoing
  | _ => simp [ScanRun.Ended]

/-- The call goes on to the next device, or to its last statement. -/
lemma nextDevice_asks (ssidsList : String) (devs : List NetDevice) (s : ScanState) :
    ¬ (nextDevice ssidsList devs s).Ended ∧
      (nextDevice ssidsList devs s).state.timers = s.timers := by
  induction devs with
  | nil => simp [nextDevice, ScanRun.Ended]
  | cons dev devs ih =>
    rw [nextDevice]
    split_ifs
    · cases dev.activeAccessPoint with
      | none => exact ih
      | some currentAP => simp [ScanRun.Ended, ScanState.connect]
    · exact ih

lemma nextAp_asks (ssidsList : String) (devs : List NetDevice) (aps : List AccessPoint)
    (s : ScanState) :
    ¬ (nextAp ssidsList devs aps s).Ended ∧
      (nextAp ssidsList devs aps s).state.timers = s.timers := by
  induction aps with
  | nil => exact nextDevice_asks ssidsList devs s.publish
  | cons ap aps ih =>
    rw [nextAp]
    split_ifs
    · simp [ScanRun.Ended]
    · exact ih

lemma ScanRun.stage_begin (client : MobilityClient) : (ScanRun.begin client).Stage client [] := by
  cases hnmc : client.nmc with
  | true =>
    refine .asking ⟨hnmc, by simp⟩ ?_ rfl
    simp [ScanRun.begin, hnmc, ScanRun.Ended]
  | false =>
    refine .failed (fun h => ?_) (.inr ?_) rfl
    · cases hnmc.symm.trans h.1
    · simp [ScanRun.begin, hnmc]

/-- A failure ends the call. -/
lemma ScanRun.Stage.of_fails (hfails : e.Fails) (hended : r'.Ended)
    (htimers : r'.state.timers = 0) : r'.Stage client (es ++ [e]) :=
  .failed (fun h => (unfailing_concat.mp h).2 hfails) hended htimers

lemma ScanRun.Stage.of_asks (hunfailing : Unfailing client es) (hfails : ¬ e.Fails)
    (h : ¬ r'.Ended ∧ r'.state.timers = 0) : r'.Stage client (es ++ [e]) :=
  .asking (unfailing_concat.mpr ⟨hunfailing, hfails⟩) h.1 h.2

lemma ScanRun.Stage.step (h : r.Stage client es) (hstep : r.Step e r') :
    r'.Stage client (es ++ [e]) := by
  obtain ⟨hunfailing, htimers⟩ : Unfailing client es ∧ r.state.timers = 0 := by
    cases h with
    | asking hunfailing _ htimers => exact ⟨hunfailing, htimers⟩
    | done _ hreturned _ => exact absurd (.inl hreturned) hstep.going
    | failed _ hended _ => exact absurd hended hstep.going
  have hgood (h : ¬ e.Fails) : Unfailing client (es ++ [e]) :=
    unfailing_concat.mpr ⟨hunfailing, h⟩
  cases hstep with
  | noDevices | noAccessPoints => exact .of_fails trivial (.inr rfl) htimers
  | noList => exact .of_fails trivial (.inl rfl) htimers
  | devices | noSignal =>
    refine .of_asks hunfailing not_false ⟨?_, htimers⟩
    simp [ScanRun.Ended]
  | ssidsList =>
    obtain ⟨hasks, htimers'⟩ := nextDevice_asks _ _ _
    exact .of_asks hunfailing not_false ⟨hasks, htimers'.trans htimers⟩
  | accessPoints | signal =>
    obtain ⟨hasks, htimers'⟩ := nextAp_asks _ _ _ _
    exact .of_asks hunfailing not_false ⟨hasks, htimers'.trans htimers⟩
  | stopped hstop => exact .done (hgood not_false) rfl (htimers.trans (if_pos hstop).symm)
  | arms hstop =>
    refine .done (hgood not_false) rfl ?_
    rw [htimers, hstop]
    rfl
  | setStop hgoing => exact .of_asks hunfailing not_false ⟨hgoing, htimers⟩

/-- A call that has ended while mobility was not stopped has scheduled exactly one more, exactly if
nothing that it asked for raised. -/
theorem successor_iff {client : MobilityClient} {es : List ScanAnswer} {r : ScanRun}
    (hrun : run ScanRun.step (.begin client) es = some r) (hended : r.Ended) :
    (r.state.client.stopMobility = false → r.state.timers = 1) ↔
      r.state.client.stopMobility = true ∨ client.nmc = true ∧ ∀ e ∈ es, ¬ e.Fails := by
  have hstage : r.Stage client es :=
    run_induction (ScanRun.stage_begin client)
      (fun _ _ _ _ _ h hstep => h.step (ScanRun.step_sound hstep)) hrun
  cases hstage with
  | asking _ hgoing _ => exact absurd hended hgoing
  | done hunfailing _ htimers =>
    refine ⟨fun _ => .inr hunfailing, fun _ hstop => ?_⟩
    rw [htimers, hstop]
    rfl
  | failed hfailing _ htimers =>
    rw [htimers]
    constructor
    · intro h
      refine .inl (by_contra fun hstop => ?_)
      cases h (Bool.eq_false_of_not_eq_true hstop)
    · rintro (hstop | hunfailing) hgoing
      · rw [hstop] at hgoing
        cases hgoing
      · exact absurd hunfailing hfailing

/-- A call that sees no devices, and returns. -/
theorem successor_scheduled :
    ∃ r, run ScanRun.step (.begin scanClient)
        [.devices (some []), .ssidsList (some ""), .testStop] = some r ∧
      (r.state.client.stopMobility = false → r.state.timers = 1) := by
  have hrun : run ScanRun.step (.begin scanClient)
      [.devices (some []), .ssidsList (some ""), .testStop]
      = some ⟨{ ScanState.start scanClient with timers := 1 }, .returned⟩ := rfl
  refine ⟨_, hrun, (successor_iff hrun (.inl rfl)).mpr (.inr ⟨rfl, ?_⟩)⟩
  simp [ScanAnswer.Fails]

/-- The file cannot be read for a moment, and the call returns without a successor. -/
theorem no_successor :
    ∃ r, run ScanRun.step (.begin scanClient) [.devices (some []), .ssidsList none] = some r ∧
      r.Ended ∧ r.state.client.stopMobility = false ∧ r.state.timers = 0 :=
  ⟨_, rfl, .inl rfl, rfl, rfl⟩

/-! ### While nothing changes -/

variable (scan : Scan) (ssidsList : String)

/-- The rest of a pass, answered by one scan. -/
lemma exists_run_nextAp (devs : List NetDevice) (aps : List AccessPoint) (s : ScanState) :
    ∃ es, run ScanRun.step (nextAp ssidsList devs aps s) es
      = some (if (record scan ssidsList aps s.aps).2 then
            nextDevice ssidsList devs (s.appendAll (record scan ssidsList aps s.aps).1).publish
          else ⟨s.appendAll (record scan ssidsList aps s.aps).1,
            .getAccessPoints ssidsList devs⟩) := by
  induction aps generalizing s with
  | nil => exact ⟨[], rfl⟩
  | cons ap aps ih =>
    rw [record, nextAp]
    by_cases hnew : Listed ssidsList ap ∧ lower ap.ssid ∉ s.aps
    · rw [if_pos hnew, if_pos hnew]
      cases hsignal : truthy (getSignal scan ap.ssid) with
      | none =>
        refine ⟨[.signal (getSignal scan ap.ssid)], ?_⟩
        rw [run_cons, ScanRun.step]
        simp [hsignal]
      | some signal =>
        obtain ⟨es, hes⟩ := ih (s.append ⟨ap.ssid, signal, ap.bssid⟩)
        refine ⟨.signal (getSignal scan ap.ssid) :: es, ?_⟩
        rw [run_cons, ScanRun.step]
        simp only [hsignal, Option.bind_some]
        exact hes
    · rw [if_neg hnew, if_neg hnew]
      exact ih s

/-- Where a call is when the loop over the passes has come to `result`. -/
def afterLoop (ssidsList : String) (devs : List NetDevice) : ScanOutcome × ScanState → ScanRun
  | (.finished, s) => nextDevice ssidsList devs s.publish
  | (.raised, s) => ⟨s, .raised⟩
  | (.running, s) => ⟨s, .getAccessPoints ssidsList devs⟩

lemma exists_run_signalsLoop (devs : List NetDevice) (accessPoints : Option (List AccessPoint))
    (fuel : ℕ) (s : ScanState) :
    ∃ es, run ScanRun.step ⟨s, .getAccessPoints ssidsList devs⟩ es
      = some (afterLoop ssidsList devs (signalsLoop scan ssidsList accessPoints fuel s)) := by
  induction fuel generalizing s with
  | zero => exact ⟨[], rfl⟩
  | succ fuel ih =>
    cases accessPoints with
    | none => exact ⟨[.accessPoints none], rfl⟩
    | some aps =>
      obtain ⟨es, hes⟩ := exists_run_nextAp scan ssidsList devs aps s
      rw [signalsLoop]
      simp only [foldl_visitAp]
      split_ifs with hall
      · rw [if_pos hall] at hes
        exact ⟨.accessPoints (some aps) :: es, hes⟩
      · rw [if_neg hall] at hes
        obtain ⟨es', hes'⟩ := ih (s.appendAll (record scan ssidsList aps s.aps).1)
        refine ⟨.accessPoints (some aps) :: (es ++ es'), ?_⟩
        show run ScanRun.step (nextAp ssidsList devs aps s) (es ++ es') = _
        rw [run_append, hes, Option.bind_some, hes']

/-- The loop over the devices. -/
lemma exists_run_scanDevices (fuel : ℕ) (devs : List ScanDevice) (s : ScanState) :
    ∃ es r, run ScanRun.step (nextDevice ssidsList (devs.map ScanDevice.toNetDevice) s) es
        = some r ∧
      r.state = (scanDevices scan ssidsList fuel devs s).2 ∧
      ((scanDevices scan ssidsList fuel devs s).1 = .finished → r.pos = .testStop) ∧
      ((scanDevices scan ssidsList fuel devs s).1 = .raised → r.pos = .raised) := by
  induction devs generalizing s with
  | nil =>
    refine ⟨[], _, rfl, rfl, fun _ => rfl, fun h => ?_⟩
    cases h
  | cons dev devs ih =>
    by_cases hactive : dev.Active
    · obtain ⟨currentAP, hcurrent⟩ := Option.isSome_iff_exists.mp hactive.2
      obtain ⟨es, hes⟩ := exists_run_signalsLoop scan ssidsList
        (devs.map ScanDevice.toNetDevice) dev.accessPoints fuel (s.connect currentAP)
      rw [List.map_cons, nextDevice, if_pos hactive.1, scanDevices, if_pos hactive.1, hcurrent]
      rcases hloop : signalsLoop scan ssidsList dev.accessPoints fuel (s.connect currentAP)
        with ⟨out, s'⟩
      rw [hloop] at hes
      simp only [hloop]
      cases out with
      | finished =>
        obtain ⟨es', r, hrun, hstate, hpos⟩ := ih s'.publish
        refine ⟨es ++ es', r, ?_, hstate, hpos⟩
        rw [run_append, hes]
        exact hrun
      | raised =>
        refine ⟨es, _, hes, rfl, fun h => ?_, fun _ => rfl⟩
        cases h
      | running =>
        refine ⟨es, _, hes, rfl, fun h => ?_, fun h => ?_⟩ <;> cases h
    · have hskip : nextDevice ssidsList ((dev :: devs).map ScanDevice.toNetDevice) s
          = nextDevice ssidsList (devs.map ScanDevice.toNetDevice) s := by
        rw [List.map_cons, nextDevice]
        split_ifs with hwifi
        · cases hcurrent : dev.activeAccessPoint with
          | none => rfl
          | some currentAP => exact absurd ⟨hwifi, by rw [hcurrent]; rfl⟩ hactive
        · rfl
      rw [hskip, scanDevices_of_not_active hactive]
      exact ih s

/-- While nothing changes, the call comes to what `getIWlistSignals` comes to. -/
theorem exists_run_getIWlistSignals (fuel : ℕ) (env : ScanEnv) (client : MobilityClient) :
    ∃ es r, run ScanRun.step (.begin client) es = some r ∧
      r.state = (getIWlistSignals fuel env client).2 ∧
      ((getIWlistSignals fuel env client).1 = .finished → r.pos = .returned) ∧
      ((getIWlistSignals fuel env client).1 = .raised → r.pos = .raised) := by
  rw [getIWlistSignals]
  by_cases hnmc : client.nmc = true
  · have hbegin : ScanRun.begin client = ⟨.start client, .getDevices⟩ := by
      rw [ScanRun.begin, if_pos hnmc]
    rw [if_pos hnmc, hbegin]
    cases env.devices with
    | none =>
      refine ⟨[.devices none], _, rfl, rfl, fun h => ?_, fun _ => rfl⟩
      cases h
    | some devs =>
      cases env.ssidsList with
      | none =>
        refine ⟨[.devices (some []), .ssidsList none], _, rfl, rfl, fun _ => rfl, fun h => ?_⟩
        cases h
      | some ssidsList =>
        obtain ⟨es, r, hrun, hstate, hfinished, hraised⟩ :=
          exists_run_scanDevices env.scan ssidsList fuel devs (.start client)
        obtain ⟨es', hrun'⟩ : ∃ es',
            run ScanRun.step ⟨.start client, .getDevices⟩ es' = some r :=
          ⟨.devices (some (devs.map ScanDevice.toNetDevice)) :: .ssidsList (some ssidsList) :: es,
            hrun⟩
        rcases hdevs : scanDevices env.scan ssidsList fuel devs (.start client) with ⟨out, s⟩
        rw [hdevs] at hstate hfinished hraised
        simp only [hdevs]
        cases out with
        | finished =>
          obtain ⟨state, pos⟩ := r
          obtain rfl : state = s := hstate
          obtain rfl : pos = .testStop := hfinished rfl
          have hlast : ∃ r, run ScanRun.step ⟨state, .testStop⟩ [.testStop] = some r ∧
              r.pos = .returned ∧ r.state = if state.client.stopMobility then state
                else { state with timers := state.timers + 1 } := by
            rw [run_cons, ScanRun.step]
            split_ifs
            · exact ⟨_, rfl, rfl, rfl⟩
            · exact ⟨_, rfl, rfl, rfl⟩
          obtain ⟨r, hr, hpos, hr'⟩ := hlast
          refine ⟨es' ++ [.testStop], r, ?_, hr', fun _ => hpos, fun h => ?_⟩
          · rw [run_append, hrun']
            exact hr
          · cases h
        | raised => exact ⟨es', r, hrun', hstate, fun h => (by cases h), hraised⟩
        | running => exact ⟨es', r, hrun', hstate, fun h => (by cases h), fun h => (by cases h)⟩
  · have hbegin : ScanRun.begin client = ⟨.start client, .raised⟩ := by
      rw [ScanRun.begin, if_neg hnmc]
    rw [if_neg hnmc, hbegin]
    refine ⟨[], _, rfl, rfl, fun h => ?_, fun _ => rfl⟩
    cases h

end SecuredApp
