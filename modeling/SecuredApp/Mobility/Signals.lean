import SecuredApp.Mobility.Basic
import SecuredApp.Mobility.IWList

/-!
# The scan for access points

`getIWlistSignals` while the devices, their access points and what `iwlist` prints stay the same.
Its `while` loop is given a number of passes that it may make; a call that needs more is still
running.
-/

namespace SecuredApp

open SecuredApp.Core

/-- A device as `get_devices` lists it. -/
structure NetDevice where
  deviceType : DeviceType
  activeAccessPoint : Option AccessPoint

/-- A device with the access points it lists, `none` where `get_access_points` raises. -/
structure ScanDevice extends NetDevice where
  accessPoints : Option (List AccessPoint)

/-- What a call meets: the devices, `none` where listing them raises, the text of `ssids_list`,
`none` where it cannot be read, and the scan. -/
structure ScanEnv where
  devices : Option (List ScanDevice)
  ssidsList : Option String
  scan : Scan

/-- The client and the local variables `wl` and `APs`. Once it is `published`, the list `wl` is the
one of the client, so that what is appended to it is seen there. `timers` counts the timers that
will call the function again. -/
structure ScanState where
  client : MobilityClient
  wl : List WifiEntry
  aps : List String
  published : Bool
  timers : ℕ

/-- Where a call has come to. -/
inductive ScanOutcome where
  | running
  | raised
  | finished
deriving DecidableEq

def ScanState.start (client : MobilityClient) : ScanState where
  client := client
  wl := []
  aps := []
  published := false
  timers := 0

/-- `wl.append(wifijson)` and `APs.append(...)`. -/
def ScanState.append (s : ScanState) (w : WifiEntry) : ScanState :=
  let wl := s.wl ++ [w]
  { s with
    wl := wl
    aps := s.aps ++ [lower w.ssid]
    client.wifilist := if s.published then wl else s.client.wifilist }

/-- `self.currentConnection["bssid"] = ...` and the one for the SSID. -/
def ScanState.connect (s : ScanState) (currentAP : AccessPoint) : ScanState :=
  { s with client.currentConnection := some currentAP }

/-- `self.wifilist = wl`. -/
def ScanState.publish (s : ScanState) : ScanState :=
  { s with client.wifilist := s.wl, published := true }

/-- `if (signal)`: a signal that is 0 counts as none. -/
def truthy (signal : Option Rat) : Option Rat := signal.filter fun q => q ≠ 0

/-- The body of the `for` loop over the access points, with `allSignals`. -/
def visitAp (scan : Scan) (ssidsList : String) : Bool × ScanState → AccessPoint → Bool × ScanState
  | (allSignals, s), ap =>
    if allSignals ∧ ap.ssid ≠ "" then
      if ap.ssid.toList <:+: ssidsList.toList ∧ lower ap.ssid ∉ s.aps then
        match truthy (getSignal scan ap.ssid) with
        | none => (false, s)
        | some signal => (allSignals, s.append ⟨ap.ssid, signal, ap.bssid⟩)
      else (allSignals, s)
    else (allSignals, s)

/-- The loop `while not allSignals`, of at most `fuel` passes. -/
def signalsLoop (scan : Scan) (ssidsList : String) (accessPoints : Option (List AccessPoint)) :
    ℕ → ScanState → ScanOutcome × ScanState
  | 0, s => (.running, s)
  | fuel + 1, s =>
    match accessPoints with
    | none => (.raised, s)
    | some aps =>
      let (allSignals, s) := aps.foldl (visitAp scan ssidsList) (true, s)
      if allSignals then (.finished, s) else signalsLoop scan ssidsList accessPoints fuel s

/-- The loop over the devices. -/
def scanDevices (scan : Scan) (ssidsList : String) (fuel : ℕ) :
    List ScanDevice → ScanState → ScanOutcome × ScanState
  | [], s => (.finished, s)
  | dev :: devs, s =>
    if dev.deviceType = .wifi then
      match dev.activeAccessPoint with
      | none => scanDevices scan ssidsList fuel devs s
      | some currentAP =>
        match signalsLoop scan ssidsList dev.accessPoints fuel (s.connect currentAP) with
        | (.finished, s) => scanDevices scan ssidsList fuel devs s.publish
        | result => result
    else scanDevices scan ssidsList fuel devs s

/-- `getIWlistSignals`. -/
def getIWlistSignals (fuel : ℕ) (env : ScanEnv) (client : MobilityClient) :
    ScanOutcome × ScanState :=
  if client.nmc then
    match env.devices with
    | none => (.raised, .start client)
    | some devs =>
      match env.ssidsList with
      | none => (.finished, .start client)       -- `return`
      | some ssidsList =>
        match scanDevices env.scan ssidsList fuel devs (.start client) with
        | (.finished, s) =>
          (.finished, if s.client.stopMobility then s else { s with timers := s.timers + 1 })
        | result => result
  else (.raised, .start client)

/-! ### One pass -/

variable {scan : Scan} {ssidsList : String}

/-- The SSID is not empty and stands somewhere in the text. -/
def Listed (ssidsList : String) (ap : AccessPoint) : Prop :=
  ap.ssid ≠ "" ∧ ap.ssid.toList <:+: ssidsList.toList

instance (ssidsList : String) (ap : AccessPoint) : Decidable (Listed ssidsList ap) :=
  inferInstanceAs (Decidable (_ ∧ _))

/-- What a pass over the access points appends when the texts `seen` were recorded before it, and
whether it comes to their end. -/
def record (scan : Scan) (ssidsList : String) :
    List AccessPoint → List String → List WifiEntry × Bool
  | [], _ => ([], true)
  | ap :: rest, seen =>
    if Listed ssidsList ap ∧ lower ap.ssid ∉ seen then
      match truthy (getSignal scan ap.ssid) with
      | none => ([], false)
      | some signal =>
        let result := record scan ssidsList rest (seen ++ [lower ap.ssid])
        (⟨ap.ssid, signal, ap.bssid⟩ :: result.1, result.2)
    else record scan ssidsList rest seen

/-- The entries are appended in order. -/
def ScanState.appendAll (s : ScanState) (ws : List WifiEntry) : ScanState := ws.foldl .append s

/-- What `APs` has of the entries. -/
def names (ws : List WifiEntry) : List String := ws.map fun w => lower w.ssid

@[simp] lemma ScanState.appendAll_nil (s : ScanState) : s.appendAll [] = s := rfl

@[simp] lemma ScanState.appendAll_cons (s : ScanState) (w : WifiEntry) (ws : List WifiEntry) :
    s.appendAll (w :: ws) = (s.append w).appendAll ws := rfl

lemma ScanState.wl_appendAll (s : ScanState) (ws : List WifiEntry) :
    (s.appendAll ws).wl = s.wl ++ ws := by
  induction ws generalizing s with
  | nil => simp
  | cons w ws ih => rw [appendAll_cons, ih, append, List.append_assoc]; rfl

lemma ScanState.aps_appendAll (s : ScanState) (ws : List WifiEntry) :
    (s.appendAll ws).aps = s.aps ++ names ws := by
  induction ws generalizing s with
  | nil => simp [names]
  | cons w ws ih => rw [appendAll_cons, ih, append, List.append_assoc]; rfl

lemma foldl_visitAp_false (aps : List AccessPoint) (s : ScanState) :
    aps.foldl (visitAp scan ssidsList) (false, s) = (false, s) := by
  induction aps with
  | nil => rfl
  | cons ap aps ih => rw [List.foldl_cons, visitAp, if_neg (by simp), ih]

/-- A pass is what `record` says. -/
lemma foldl_visitAp (aps : List AccessPoint) (s : ScanState) :
    aps.foldl (visitAp scan ssidsList) (true, s)
      = ((record scan ssidsList aps s.aps).2,
          s.appendAll (record scan ssidsList aps s.aps).1) := by
  induction aps generalizing s with
  | nil => rfl
  | cons ap aps ih =>
    rw [List.foldl_cons, record, visitAp]
    by_cases hnew : Listed ssidsList ap ∧ lower ap.ssid ∉ s.aps
    · rw [if_pos hnew, if_pos ⟨rfl, hnew.1.1⟩, if_pos ⟨hnew.1.2, hnew.2⟩]
      cases truthy (getSignal scan ap.ssid) with
      | none => exact foldl_visitAp_false aps s
      | some signal => exact ih _
    · rw [if_neg hnew]
      split_ifs with hssid hin
      · exact absurd ⟨⟨hssid.2, hin.1⟩, hin.2⟩ hnew
      · exact ih s
      · exact ih s

/-- A pass over what an earlier one went over appends nothing, and ends where that one did. -/
lemma record_again (aps : List AccessPoint) {seen seen' : List String}
    (h : ∀ name, name ∈ seen' ↔ name ∈ seen ∨ name ∈ names (record scan ssidsList aps seen).1) :
    record scan ssidsList aps seen' = ([], (record scan ssidsList aps seen).2) := by
  induction aps generalizing seen with
  | nil => rfl
  | cons ap aps ih =>
    rw [record]
    rw [record] at h ⊢
    by_cases hnew : Listed ssidsList ap ∧ lower ap.ssid ∉ seen
    · rw [if_pos hnew] at h ⊢
      cases hsignal : truthy (getSignal scan ap.ssid) with
      | none =>
        have hnot : lower ap.ssid ∉ seen' := by
          intro hmem
          rw [hsignal] at h
          rcases (h _).mp hmem with hseen | hnone
          · exact hnew.2 hseen
          · cases hnone
        rw [if_pos ⟨hnew.1, hnot⟩]
      | some signal =>
        rw [hsignal] at h
        have hmem : lower ap.ssid ∈ seen' := (h _).mpr (.inr List.mem_cons_self)
        rw [if_neg fun hand => hand.2 hmem]
        refine ih fun name => (h name).trans ?_
        simp only [names, List.map_cons, List.mem_cons, List.mem_append, List.not_mem_nil, or_false]
        tauto
    · rw [if_neg hnew] at h ⊢
      have hnot : ¬ (Listed ssidsList ap ∧ lower ap.ssid ∉ seen') := by
        rintro ⟨hlisted, hseen'⟩
        exact hseen' ((h _).mpr (.inl (not_not.mp fun hseen => hnew ⟨hlisted, hseen⟩)))
      rw [if_neg hnot]
      exact ih h

/-- However many passes the loop may make, it appends what the first one does, and ends exactly if
that one came to the end. -/
lemma signalsLoop_succ (aps : List AccessPoint) (fuel : ℕ) (s : ScanState) :
    signalsLoop scan ssidsList (some aps) (fuel + 1) s
      = (if (record scan ssidsList aps s.aps).2 then .finished else .running,
          s.appendAll (record scan ssidsList aps s.aps).1) := by
  induction fuel generalizing s with
  | zero =>
    simp only [signalsLoop, foldl_visitAp]
    split_ifs <;> rfl
  | succ fuel ih =>
    rw [signalsLoop]
    simp only [foldl_visitAp]
    split_ifs with hall
    · rfl
    · rw [ih]
      have hagain : record scan ssidsList aps (s.appendAll (record scan ssidsList aps s.aps).1).aps
          = ([], (record scan ssidsList aps s.aps).2) := by
        refine record_again aps fun name => ?_
        rw [ScanState.aps_appendAll, List.mem_append]
      rw [hagain, if_neg hall, ScanState.appendAll_nil]

/-! ### The access points that are recorded -/

/-- The first of the listed access points whose names differ at most in case, those left out whose
names are among `seen`. -/
def firsts (ssidsList : String) : List AccessPoint → List String → List AccessPoint
  | [], _ => []
  | ap :: rest, seen =>
    if Listed ssidsList ap ∧ lower ap.ssid ∉ seen then
      ap :: firsts ssidsList rest (seen ++ [lower ap.ssid])
    else firsts ssidsList rest seen

/-- The scan has a signal for the access point. -/
def HasSignal (scan : Scan) (ap : AccessPoint) : Prop := truthy (getSignal scan ap.ssid) ≠ none

instance (scan : Scan) (ap : AccessPoint) : Decidable (HasSignal scan ap) :=
  inferInstanceAs (Decidable (_ ≠ _))

/-- The entry that the scan gives for an access point. -/
def entry (scan : Scan) (ap : AccessPoint) : WifiEntry where
  ssid := ap.ssid
  signal := (getSignal scan ap.ssid).getD 0
  bssid := ap.bssid

/-- A pass appends the entries of the first access points up to one without a signal. -/
lemma record_eq (aps : List AccessPoint) (seen : List String) :
    record scan ssidsList aps seen
      = (((firsts ssidsList aps seen).takeWhile (HasSignal scan ·)).map (entry scan),
          (firsts ssidsList aps seen).all (HasSignal scan ·)) := by
  induction aps generalizing seen with
  | nil => rfl
  | cons ap aps ih =>
    rw [record, firsts]
    by_cases hnew : Listed ssidsList ap ∧ lower ap.ssid ∉ seen
    · rw [if_pos hnew, if_pos hnew]
      cases hsignal : truthy (getSignal scan ap.ssid) with
      | none =>
        have hnot : ¬ HasSignal scan ap := not_not.mpr hsignal
        simp [hnot]
      | some signal =>
        have hhas : HasSignal scan ap := by simp [HasSignal, hsignal]
        have hentry : entry scan ap = ⟨ap.ssid, signal, ap.bssid⟩ := by
          rw [truthy, Option.filter_eq_some_iff] at hsignal
          rw [entry, hsignal.1, Option.getD_some]
        simp [hhas, hentry, ih]
    · rw [if_neg hnew, if_neg hnew]
      exact ih seen

/-! ### The devices -/

/-- A pass over two lists in turn. -/
lemma record_append (aps aps' : List AccessPoint) (seen : List String) :
    record scan ssidsList (aps ++ aps') seen
      = if (record scan ssidsList aps seen).2 then
          let result := record scan ssidsList aps'
            (seen ++ names (record scan ssidsList aps seen).1)
          ((record scan ssidsList aps seen).1 ++ result.1, result.2)
        else record scan ssidsList aps seen := by
  induction aps generalizing seen with
  | nil => simp [record, names]
  | cons ap aps ih =>
    rw [List.cons_append, record, record]
    by_cases hnew : Listed ssidsList ap ∧ lower ap.ssid ∉ seen
    · rw [if_pos hnew, if_pos hnew]
      cases truthy (getSignal scan ap.ssid) with
      | none => rfl
      | some signal =>
        simp only [ih, names, List.map_cons, List.append_assoc, List.singleton_append]
        split_ifs <;> rfl
    · rw [if_neg hnew, if_neg hnew]
      exact ih seen

/-- A Wi-Fi device with an active access point, whose access points the loop asks for. -/
def NetDevice.Active (dev : NetDevice) : Prop :=
  dev.deviceType = .wifi ∧ dev.activeAccessPoint.isSome

instance (dev : NetDevice) : Decidable dev.Active := inferInstanceAs (Decidable (_ ∧ _))

/-- The access points the loop over the devices comes to, up to a device that cannot list its
own. -/
def visited : List ScanDevice → List AccessPoint
  | [] => []
  | dev :: devs =>
    if dev.Active then
      match dev.accessPoints with
      | none => []
      | some aps => aps ++ visited devs
    else visited devs

/-- A device whose access points are asked for cannot list them. -/
def ScanDevice.Fails (dev : ScanDevice) : Prop := dev.Active ∧ dev.accessPoints = none

instance (dev : ScanDevice) : Decidable dev.Fails := inferInstanceAs (Decidable (_ ∧ _))

/-- Where the loop over the devices comes to if it may make a pass. -/
def outcome (all : Bool) (devs : List ScanDevice) : ScanOutcome :=
  if all then if ∃ dev ∈ devs, dev.Fails then .raised else .finished else .running

lemma scanDevices_of_not_active {dev : ScanDevice} (h : ¬ dev.Active) (fuel : ℕ)
    (devs : List ScanDevice) (s : ScanState) :
    scanDevices scan ssidsList fuel (dev :: devs) s = scanDevices scan ssidsList fuel devs s := by
  rw [scanDevices]
  split_ifs with hwifi
  · cases hcurrent : dev.activeAccessPoint with
    | none => rfl
    | some currentAP => exact absurd ⟨hwifi, by rw [hcurrent]; rfl⟩ h
  · rfl

/-- What the loop over the devices comes to and what it appends. -/
lemma scanDevices_succ (fuel : ℕ) (devs : List ScanDevice) (s : ScanState) :
    (scanDevices scan ssidsList (fuel + 1) devs s).1
        = outcome (record scan ssidsList (visited devs) s.aps).2 devs ∧
      (scanDevices scan ssidsList (fuel + 1) devs s).2.wl
        = s.wl ++ (record scan ssidsList (visited devs) s.aps).1 := by
  induction devs generalizing s with
  | nil => exact ⟨rfl, (List.append_nil _).symm⟩
  | cons dev devs ih =>
    by_cases hactive : dev.Active
    · obtain ⟨currentAP, hcurrent⟩ := Option.isSome_iff_exists.mp hactive.2
      rw [scanDevices, if_pos hactive.1, hcurrent, visited, if_pos hactive]
      cases haps : dev.accessPoints with
      | none =>
        have hfails : ∃ d ∈ dev :: devs, d.Fails :=
          ⟨dev, List.mem_cons_self, hactive, haps⟩
        have hout : outcome true (dev :: devs) = .raised := by
          rw [outcome, if_pos rfl, if_pos hfails]
        exact ⟨hout.symm, (List.append_nil _).symm⟩
      | some aps =>
        have hfails : (∃ d ∈ dev :: devs, d.Fails) ↔ ∃ d ∈ devs, d.Fails := by
          simp [ScanDevice.Fails, haps]
        have hseen : (s.connect currentAP).aps = s.aps := rfl
        simp only [signalsLoop_succ, record_append, hseen]
        by_cases hall : (record scan ssidsList aps s.aps).2 = true
        · simp only [if_pos hall]
          obtain ⟨hout, hwl⟩ := ih ((s.connect currentAP).appendAll
            (record scan ssidsList aps s.aps).1).publish
          rw [hout, hwl]
          simp only [ScanState.publish, ScanState.aps_appendAll, ScanState.wl_appendAll, hseen,
            List.append_assoc, outcome, hfails]
          exact ⟨trivial, rfl⟩
        · simp only [if_neg hall, ScanState.wl_appendAll, outcome]
          exact ⟨trivial, rfl⟩
    · have hfails : (∃ d ∈ dev :: devs, d.Fails) ↔ ∃ d ∈ devs, d.Fails := by
        simp only [List.exists_mem_cons_iff, or_iff_right_iff_imp]
        exact fun h => absurd h.1 hactive
      rw [scanDevices_of_not_active hactive, visited, if_neg hactive]
      simp only [outcome, hfails]
      exact ih s

/-- Without a pass the loop over the devices ends only where there is none to make. -/
lemma scanDevices_zero (devs : List ScanDevice) (s : ScanState) :
    ((scanDevices scan ssidsList 0 devs s).1 = .running ∨ visited devs = []) ∧
      (scanDevices scan ssidsList 0 devs s).2.published = s.published := by
  induction devs generalizing s with
  | nil => exact ⟨.inr rfl, rfl⟩
  | cons dev devs ih =>
    by_cases hactive : dev.Active
    · obtain ⟨currentAP, hcurrent⟩ := Option.isSome_iff_exists.mp hactive.2
      rw [scanDevices, if_pos hactive.1, hcurrent]
      exact ⟨.inl rfl, rfl⟩
    · rw [scanDevices_of_not_active hactive, visited, if_neg hactive]
      exact ih s

/-! ### Whether a call ends -/

/-- The access points whose signals the call looks for: of the listed ones that the active Wi-Fi
devices see, in order, the first of those whose SSIDs differ at most in case. -/
def ScanEnv.sought (env : ScanEnv) (client : MobilityClient) : List AccessPoint :=
  match client.nmc, env.devices, env.ssidsList with
  | true, some devs, some ssidsList => firsts ssidsList (visited devs) []
  | _, _, _ => []

/-- The call comes to its loop over the devices. -/
structure ScanEnv.Enters (env : ScanEnv) (client : MobilityClient) (devs : List ScanDevice)
    (ssidsList : String) : Prop where
  nmc : client.nmc = true
  devices : env.devices = some devs
  readable : env.ssidsList = some ssidsList

/-- A call that does not come to its loop ends at once, and publishes nothing. -/
lemma enters_or_ends (env : ScanEnv) (client : MobilityClient) :
    (∃ devs ssidsList, env.Enters client devs ssidsList) ∨
      env.sought client = [] ∧ ∀ fuel, (getIWlistSignals fuel env client).1 ≠ .running ∧
        (getIWlistSignals fuel env client).2.published = false := by
  obtain ⟨devices, ssidsList, scan⟩ := env
  cases hnmc : client.nmc with
  | false => exact .inr (by simp [ScanEnv.sought, getIWlistSignals, hnmc, ScanState.start])
  | true =>
    cases devices with
    | none => exact .inr (by simp [ScanEnv.sought, getIWlistSignals, hnmc, ScanState.start])
    | some devs =>
      cases ssidsList with
      | none => exact .inr (by simp [ScanEnv.sought, getIWlistSignals, hnmc, ScanState.start])
      | some ssidsList => exact .inl ⟨devs, ssidsList, hnmc, rfl, rfl⟩

variable {env : ScanEnv} {client : MobilityClient} {devs : List ScanDevice}

lemma ScanEnv.Enters.sought_eq (h : env.Enters client devs ssidsList) :
    env.sought client = firsts ssidsList (visited devs) [] := by
  rw [ScanEnv.sought, h.nmc, h.devices, h.readable]

/-- All but the timer is what the loop over the devices leaves. -/
lemma ScanEnv.Enters.run_eq (h : env.Enters client devs ssidsList) (fuel : ℕ) :
    (getIWlistSignals fuel env client).1
        = (scanDevices env.scan ssidsList fuel devs (.start client)).1 ∧
      ∃ timers, (getIWlistSignals fuel env client).2
        = { (scanDevices env.scan ssidsList fuel devs (.start client)).2 with
          timers := timers } := by
  rw [getIWlistSignals, if_pos h.nmc, h.devices, h.readable]
  rcases hrun : scanDevices env.scan ssidsList fuel devs (.start client) with ⟨out, s⟩
  simp only [hrun]
  cases out with
  | finished =>
    by_cases hstop : s.client.stopMobility = true
    · exact ⟨rfl, s.timers, if_pos hstop⟩
    · exact ⟨rfl, s.timers + 1, if_neg hstop⟩
  | running | raised => exact ⟨rfl, s.timers, rfl⟩

/-- A call ends exactly if the scan has every signal that it looks for. -/
lemma ends_iff_record (h : env.Enters client devs ssidsList) :
    (∃ fuel, (getIWlistSignals fuel env client).1 ≠ .running) ↔
      (record env.scan ssidsList (visited devs) []).2 = true := by
  constructor
  · rintro ⟨fuel, hfuel⟩
    rw [(h.run_eq fuel).1] at hfuel
    cases fuel with
    | zero =>
      rw [((scanDevices_zero devs _).1).resolve_left hfuel]
      rfl
    | succ fuel =>
      rw [(scanDevices_succ fuel devs _).1] at hfuel
      by_contra hall
      exact hfuel (if_neg hall)
  · intro hall
    refine ⟨1, ?_⟩
    have hseen : (ScanState.start client).aps = [] := rfl
    rw [(h.run_eq 1).1, (scanDevices_succ 0 devs _).1, hseen, outcome, if_pos hall]
    split_ifs
    · intro h
      cases h
    · intro h
      cases h

lemma ends_iff_all (env : ScanEnv) (client : MobilityClient) :
    (∃ fuel, (getIWlistSignals fuel env client).1 ≠ .running) ↔
      (env.sought client).all (HasSignal env.scan ·) = true := by
  rcases enters_or_ends env client with ⟨devs, ssidsList, h⟩ | ⟨hsought, hends⟩
  · rw [ends_iff_record h, record_eq, h.sought_eq]
  · rw [hsought]
    exact ⟨fun _ => rfl, fun _ => ⟨0, (hends 0).1⟩⟩

/-- The loop ends exactly if the scan has a signal other than 0 for each of the access points that
the call looks for. -/
theorem scan_ends_iff (env : ScanEnv) (client : MobilityClient) :
    (∃ fuel, (getIWlistSignals fuel env client).1 ≠ .running) ↔
      ∀ ap ∈ env.sought client, HasSignal env.scan ap := by
  rw [ends_iff_all, List.all_eq_true]
  simp only [decide_eq_true_eq]

/-- A client that has listed no access points yet. -/
def scanClient : MobilityClient where
  savedConnections := []
  stopMobility := false
  lock := false
  migrating := false
  currentConnection := none
  wifilist := []
  nmc := true
  timers := 0

/-- What is printed line by line, behind blanks; the cells are gone over from the last one on. -/
def scanOf (lines : List String) : Scan where
  rawdata := some (lines.flatMap fun line => List.replicate 20 ' ' ++ line.toList ++ ['\n'])
  visit := id
  visit_perm _ := .refl _

/-- NetworkManager still lists a network that the scan does not have. -/
def goneEnv : ScanEnv where
  devices := some [⟨⟨.wifi, some ⟨"eduroam", "00:02"⟩⟩, some [⟨"SmartWiFiPdP", "00:01"⟩]⟩]
  ssidsList := some "SmartWiFiPdP\n__MallorcaWiFi.com"
  scan := scanOf ["Cell 01 - Address: 00:02", "Quality=60/100  Signal level=-70 dBm",
    "ESSID:\"eduroam\""]

/-- The loop never ends while a listed network has no signal. -/
theorem scan_never_ends :
    ¬ ∃ fuel, (getIWlistSignals fuel goneEnv scanClient).1 ≠ .running := by
  have h : goneEnv.Enters scanClient
      [⟨⟨.wifi, some ⟨"eduroam", "00:02"⟩⟩, some [⟨"SmartWiFiPdP", "00:01"⟩]⟩]
      "SmartWiFiPdP\n__MallorcaWiFi.com" := ⟨rfl, rfl, rfl⟩
  rw [ends_iff_record h]
  decide +kernel

end SecuredApp
