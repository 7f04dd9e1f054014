import Mathlib.Data.List.Nodup
import SecuredApp.Mobility.Signals

/-!
# The published list

What `wifilist` has for the networks that the client sees: which of them, and with which signals.
-/

namespace SecuredApp

open SecuredApp.Core

variable {scan : Scan} {ssidsList : String} {env : ScanEnv} {client : MobilityClient}

/-! ### The list that is shared -/

/-- Once it is published, the list of the client is the local one. -/
def ScanState.Shared (s : ScanState) : Prop := s.published = true → s.client.wifilist = s.wl

lemma ScanState.Shared.appendAll {s : ScanState} (h : s.Shared) (ws : List WifiEntry) :
    (s.appendAll ws).Shared := by
  induction ws generalizing s with
  | nil => exact h
  | cons w ws ih =>
    refine ih fun hpub => ?_
    show (if s.published then s.wl ++ [w] else s.client.wifilist) = s.wl ++ [w]
    exact if_pos hpub

lemma ScanState.Shared.publish (s : ScanState) : s.publish.Shared := fun _ => rfl

lemma ScanState.Shared.signalsLoop {accessPoints : Option (List AccessPoint)} (fuel : ℕ)
    {s : ScanState} (h : s.Shared) :
    (signalsLoop scan ssidsList accessPoints fuel s).2.Shared := by
  cases fuel with
  | zero => exact h
  | succ fuel =>
    cases accessPoints with
    | none => exact h
    | some aps =>
      rw [signalsLoop_succ]
      exact h.appendAll _

lemma ScanState.Shared.scanDevices (fuel : ℕ) (devs : List ScanDevice) {s : ScanState}
    (h : s.Shared) : (scanDevices scan ssidsList fuel devs s).2.Shared := by
  induction devs generalizing s with
  | nil => exact h
  | cons dev devs ih =>
    by_cases hactive : dev.Active
    · obtain ⟨currentAP, hcurrent⟩ := Option.isSome_iff_exists.mp hactive.2
      have hloop : (SecuredApp.signalsLoop scan ssidsList dev.accessPoints fuel
          (s.connect currentAP)).2.Shared := ScanState.Shared.signalsLoop fuel h
      rw [SecuredApp.scanDevices, if_pos hactive.1, hcurrent]
      rcases hrun : SecuredApp.signalsLoop scan ssidsList dev.accessPoints fuel
        (s.connect currentAP) with ⟨out, s'⟩
      rw [hrun] at hloop
      simp only [hrun]
      cases out with
      | finished => exact ih (ScanState.Shared.publish s')
      | running | raised => exact hloop
    · rw [scanDevices_of_not_active hactive]
      exact ih h

/-- What a call that has published its list shows. -/
lemma wifilist_eq {fuel : ℕ} (hpub : (getIWlistSignals fuel env client).2.published = true) :
    (getIWlistSignals fuel env client).2.client.wifilist
      = ((env.sought client).takeWhile (HasSignal env.scan ·)).map (entry env.scan) := by
  rcases enters_or_ends env client with ⟨devs, ssidsList, h⟩ | ⟨-, hends⟩
  · obtain ⟨timers, hstate⟩ := (h.run_eq fuel).2
    rw [hstate] at hpub ⊢
    have hstart : (ScanState.start client).Shared := by
      intro h
      cases h
    have hshared : (scanDevices env.scan ssidsList fuel devs (.start client)).2.Shared :=
      hstart.scanDevices fuel devs
    cases fuel with
    | zero =>
      have hnot : (scanDevices env.scan ssidsList 0 devs (.start client)).2.published = false :=
        (scanDevices_zero devs _).2
      exact absurd hpub (by simp [hnot])
    | succ fuel =>
      have hwl : (scanDevices env.scan ssidsList (fuel + 1) devs (.start client)).2.wl
          = (record env.scan ssidsList (visited devs) []).1 :=
        (scanDevices_succ fuel devs _).2
      rw [hshared hpub, hwl, h.sought_eq]
      exact congrArg Prod.fst (record_eq _ _)
  · rw [(hends fuel).2] at hpub
    cases hpub

/-! ### Which networks are listed -/

/-- The SSID is not hidden, and a Wi-Fi device lists it. -/
def ScanEnv.Visible (env : ScanEnv) (ssid : String) : Prop :=
  ssid ≠ "" ∧ ∃ devs ∈ env.devices, ∃ dev ∈ devs, dev.deviceType = .wifi ∧
    ∃ aps ∈ dev.accessPoints, ∃ ap ∈ aps, ap.ssid = ssid

/-- The SSID stands on a line of `ssids_list` that is no comment. -/
def ScanEnv.OnLine (env : ScanEnv) (ssid : String) : Prop :=
  ∃ ssidsList ∈ env.ssidsList, ssid.toList ∈ ssidsList.toList.splitOn '\n' ∧
    Text.startsWith ssid.toList ['#'] = false

/-- An active device lists the SSID, it stands somewhere in the text of `ssids_list`, and none that
does so and differs from it only in case was listed before. -/
def ScanEnv.Records (env : ScanEnv) (client : MobilityClient) (ssid : String) : Prop :=
  ∃ devs ssidsList, env.Enters client devs ssidsList ∧
    ∃ pre ap post, visited devs = pre ++ ap :: post ∧ ap.ssid = ssid ∧ Listed ssidsList ap ∧
      ∀ q ∈ pre, Listed ssidsList q → lower q.ssid ≠ lower ap.ssid

/-- The first of the listed access points whose names differ at most in case. -/
lemma mem_firsts_iff {aps : List AccessPoint} {seen : List String} {ap : AccessPoint} :
    ap ∈ firsts ssidsList aps seen ↔
      ∃ pre post, aps = pre ++ ap :: post ∧ Listed ssidsList ap ∧ lower ap.ssid ∉ seen ∧
        ∀ q ∈ pre, Listed ssidsList q → lower q.ssid ≠ lower ap.ssid := by
  induction aps generalizing seen with
  | nil => simp [firsts]
  | cons a aps ih =>
    rw [firsts]
    by_cases hnew : Listed ssidsList a ∧ lower a.ssid ∉ seen
    · rw [if_pos hnew, List.mem_cons, ih]
      constructor
      · rintro (rfl | ⟨pre, post, rfl, hlisted, hseen, hpre⟩)
        · exact ⟨[], aps, rfl, hnew.1, hnew.2, by simp⟩
        · rw [List.mem_append, List.mem_singleton, not_or] at hseen
          refine ⟨a :: pre, post, rfl, hlisted, hseen.1, ?_⟩
          rw [List.forall_mem_cons]
          exact ⟨fun _ heq => hseen.2 heq.symm, hpre⟩
      · rintro ⟨pre, post, heq, hlisted, hseen, hpre⟩
        cases pre with
        | nil => exact .inl (List.cons.inj heq).1.symm
        | cons b pre =>
          obtain ⟨rfl, rfl⟩ := List.cons.inj heq
          rw [List.forall_mem_cons] at hpre
          refine .inr ⟨pre, post, rfl, hlisted, ?_, hpre.2⟩
          rw [List.mem_append, List.mem_singleton, not_or]
          exact ⟨hseen, fun heq => hpre.1 hnew.1 heq.symm⟩
    · rw [if_neg hnew, ih]
      constructor
      · rintro ⟨pre, post, rfl, hlisted, hseen, hpre⟩
        refine ⟨a :: pre, post, rfl, hlisted, hseen, ?_⟩
        rw [List.forall_mem_cons]
        exact ⟨fun ha heq => hnew ⟨ha, heq ▸ hseen⟩, hpre⟩
      · rintro ⟨pre, post, heq, hlisted, hseen, hpre⟩
        cases pre with
        | nil =>
          obtain ⟨rfl, -⟩ := List.cons.inj heq
          exact absurd ⟨hlisted, hseen⟩ hnew
        | cons b pre =>
          obtain ⟨rfl, rfl⟩ := List.cons.inj heq
          exact ⟨pre, post, rfl, hlisted, hseen, (List.forall_mem_cons.mp hpre).2⟩

/-- No two of them have the same SSID. -/
lemma nodup_firsts (aps : List AccessPoint) (seen : List String) :
    ((firsts ssidsList aps seen).map AccessPoint.ssid).Nodup := by
  induction aps generalizing seen with
  | nil => exact List.nodup_nil
  | cons ap aps ih =>
    rw [firsts]
    split_ifs with hnew
    · rw [List.map_cons, List.nodup_cons]
      refine ⟨?_, ih _⟩
      intro hmem
      obtain ⟨q, hq, hssid⟩ := List.mem_map.mp hmem
      obtain ⟨-, -, -, -, hseen, -⟩ := mem_firsts_iff.mp hq
      rw [hssid] at hseen
      exact hseen (List.mem_append_right _ List.mem_cons_self)
    · exact ih seen

lemma records_iff {ssid : String} :
    env.Records client ssid ↔ ssid ∈ (env.sought client).map AccessPoint.ssid := by
  constructor
  · rintro ⟨devs, ssidsList, h, pre, ap, post, heq, rfl, hlisted, hpre⟩
    rw [h.sought_eq]
    refine List.mem_map_of_mem (mem_firsts_iff.mpr ⟨pre, post, heq, hlisted, ?_, hpre⟩)
    exact List.not_mem_nil
  · intro hmem
    obtain ⟨ap, hap, rfl⟩ := List.mem_map.mp hmem
    rcases enters_or_ends env client with ⟨devs, ssidsList, h⟩ | ⟨hsought, -⟩
    · rw [h.sought_eq] at hap
      obtain ⟨pre, post, heq, hlisted, -, hpre⟩ := mem_firsts_iff.mp hap
      exact ⟨devs, ssidsList, h, pre, ap, post, heq, rfl, hlisted, hpre⟩
    · rw [hsought] at hap
      cases hap

lemma exists_of_mem_visited {devs : List ScanDevice} {ap : AccessPoint} (h : ap ∈ visited devs) :
    ∃ dev ∈ devs, dev.Active ∧ ∃ aps ∈ dev.accessPoints, ap ∈ aps := by
  induction devs with
  | nil => cases h
  | cons dev devs ih =>
    rw [visited] at h
    by_cases hactive : dev.Active
    · rw [if_pos hactive] at h
      cases haps : dev.accessPoints with
      | none =>
        rw [haps] at h
        cases h
      | some aps =>
        rw [haps, List.mem_append] at h
        rcases h with h | h
        · exact ⟨dev, List.mem_cons_self, hactive, aps, haps, h⟩
        · obtain ⟨d, hd, hrest⟩ := ih h
          exact ⟨d, List.mem_cons_of_mem _ hd, hrest⟩
    · rw [if_neg hactive] at h
      obtain ⟨d, hd, hrest⟩ := ih h
      exact ⟨d, List.mem_cons_of_mem _ hd, hrest⟩

lemma ScanEnv.Records.visible {ssid : String} (h : env.Records client ssid) : env.Visible ssid := by
  obtain ⟨devs, ssidsList, henters, pre, ap, post, heq, rfl, hlisted, -⟩ := h
  have hmem : ap ∈ visited devs := by simp [heq]
  obtain ⟨dev, hdev, hactive, aps, haps, hap⟩ := exists_of_mem_visited hmem
  exact ⟨hlisted.1, devs, henters.devices, dev, hdev, hactive.1, aps, haps, ap, hap, rfl⟩

/-- A call that has ended and published its list has one entry for each SSID it records. -/
lemma count_wifilist {fuel : ℕ} (hends : (getIWlistSignals fuel env client).1 ≠ .running)
    (hpub : (getIWlistSignals fuel env client).2.published = true) (ssid : String) :
    (env.Records client ssid →
      ((getIWlistSignals fuel env client).2.client.wifilist.map WifiEntry.ssid).count ssid = 1) ∧
    (¬ env.Records client ssid →
      ((getIWlistSignals fuel env client).2.client.wifilist.map WifiEntry.ssid).count ssid
        = 0) := by
  have hall := (ends_iff_all env client).mp ⟨fuel, hends⟩
  rw [wifilist_eq hpub, List.takeWhile_eq_self_iff.mpr (List.all_eq_true.mp hall), List.map_map,
    records_iff]
  have hssids : (env.sought client).map (WifiEntry.ssid ∘ entry env.scan)
      = (env.sought client).map AccessPoint.ssid := rfl
  have hnodup : ((env.sought client).map AccessPoint.ssid).Nodup := by
    rcases enters_or_ends env client with ⟨devs, ssidsList, h⟩ | ⟨hsought, -⟩
    · rw [h.sought_eq]
      exact nodup_firsts _ _
    · rw [hsought]
      exact List.nodup_nil
  rw [hssids]
  exact ⟨List.count_eq_one_of_mem hnodup, List.count_eq_zero_of_not_mem⟩

/-- The list that a call publishes has exactly one entry for each visible SSID on a line of the
file, and none for another one, exactly if the call records the visible SSIDs on lines and no
others. -/
theorem wifilist_exact_iff {env : ScanEnv} {client : MobilityClient} {fuel : ℕ}
    (hends : (getIWlistSignals fuel env client).1 = .finished)
    (hpub : (getIWlistSignals fuel env client).2.published = true) :
    (∀ ssid,
      (env.Visible ssid ∧ env.OnLine ssid →
        ((getIWlistSignals fuel env client).2.client.wifilist.map WifiEntry.ssid).count ssid = 1) ∧
      (¬ (env.Visible ssid ∧ env.OnLine ssid) →
        ((getIWlistSignals fuel env client).2.client.wifilist.map WifiEntry.ssid).count ssid = 0)) ↔
    ∀ ssid, env.Visible ssid → (env.OnLine ssid ↔ env.Records client ssid) := by
  have hnot : (getIWlistSignals fuel env client).1 ≠ .running := by
    rw [hends]
    intro h
    cases h
  constructor
  · intro h ssid hvisible
    obtain ⟨hon, hoff⟩ := h ssid
    obtain ⟨hrecords, hrecords'⟩ := count_wifilist hnot hpub ssid
    constructor
    · intro hline
      by_contra hrec
      have h1 := hon ⟨hvisible, hline⟩
      rw [hrecords' hrec] at h1
      cases h1
    · intro hrec
      by_contra hline
      have h0 := hoff fun hand => hline hand.2
      rw [hrecords hrec] at h0
      cases h0
  · intro h ssid
    obtain ⟨hrecords, hrecords'⟩ := count_wifilist hnot hpub ssid
    constructor
    · rintro ⟨hvisible, hline⟩
      exact hrecords ((h ssid hvisible).mp hline)
    · intro hnotboth
      refine hrecords' fun hrec => hnotboth ⟨hrec.visible, ?_⟩
      exact (h ssid hrec.visible).mpr hrec

/-- Two cells of one network, and one of another. -/
def threeCells : Scan := scanOf [
  "Cell 01 - Address: 00:01", "Quality=30/60  Signal level=-70 dBm", "ESSID:\"SmartWiFiPdP\"",
  "Cell 02 - Address: 00:02", "Quality=45/60  Signal level=-55 dBm", "ESSID:\"SmartWiFiPdP\"",
  "Cell 03 - Address: 00:03", "Quality=15/60  Signal level=-85 dBm", "ESSID:\"PSC\""]

/-- A file with a comment, and a network whose SSID is a word of the comment. -/
def wordEnv : ScanEnv where
  devices := some [⟨⟨.wifi, some ⟨"SmartWiFiPdP", "00:01"⟩⟩,
    some [⟨"SmartWiFiPdP", "00:01"⟩, ⟨"PSC", "00:03"⟩]⟩]
  ssidsList := some "#sent to the PSC\nSmartWiFiPdP"
  scan := threeCells

theorem wifilist_exact_word :
    (getIWlistSignals 1 wordEnv scanClient).1 = .finished ∧
      (getIWlistSignals 1 wordEnv scanClient).2.published = true ∧
      ((∀ ssid,
        (wordEnv.Visible ssid ∧ wordEnv.OnLine ssid →
          ((getIWlistSignals 1 wordEnv scanClient).2.client.wifilist.map WifiEntry.ssid).count ssid
            = 1) ∧
        (¬ (wordEnv.Visible ssid ∧ wordEnv.OnLine ssid) →
          ((getIWlistSignals 1 wordEnv scanClient).2.client.wifilist.map WifiEntry.ssid).count ssid
            = 0)) ↔
      ∀ ssid, wordEnv.Visible ssid → (wordEnv.OnLine ssid ↔ wordEnv.Records scanClient ssid)) := by
  obtain ⟨hends, hpub⟩ : (getIWlistSignals 1 wordEnv scanClient).1 = .finished ∧
      (getIWlistSignals 1 wordEnv scanClient).2.published = true := by decide +kernel
  exact ⟨hends, hpub, wifilist_exact_iff hends hpub⟩

/-- The network is published, although its SSID stands on no line. -/
theorem word_listed :
    (getIWlistSignals 1 wordEnv scanClient).1 = .finished ∧
      (getIWlistSignals 1 wordEnv scanClient).2.published = true ∧ ¬ wordEnv.OnLine "PSC" ∧
      ((getIWlistSignals 1 wordEnv scanClient).2.client.wifilist.map WifiEntry.ssid).count "PSC"
        = 1 := by
  have hline : ¬ wordEnv.OnLine "PSC" := by
    rintro ⟨ssidsList, hlist, hmem, -⟩
    obtain rfl := Option.some.inj hlist
    revert hmem
    decide +kernel
  obtain ⟨hends, hpub, hcount⟩ : (getIWlistSignals 1 wordEnv scanClient).1 = .finished ∧
      (getIWlistSignals 1 wordEnv scanClient).2.published = true ∧
      ((getIWlistSignals 1 wordEnv scanClient).2.client.wifilist.map WifiEntry.ssid).count "PSC"
        = 1 := by
    decide +kernel
  exact ⟨hends, hpub, hline, hcount⟩

/-! ### Which signals are listed -/

/-- The scan has a cell at the address with that quality. -/
def ScanEnv.QualityAt (env : ScanEnv) (bssid : String) (signal : Rat) : Prop :=
  ∃ cells ∈ getData env.scan, ∃ cell ∈ cells, cell.mac = some bssid.toList ∧
    cell.quality.bind percentage = some signal

instance (env : ScanEnv) (bssid : String) (signal : Rat) : Decidable (env.QualityAt bssid signal) :=
  inferInstanceAs (Decidable (∃ cells ∈ getData env.scan, ∃ cell ∈ cells, _ ∧ _))

/-- The first cell visited that carries the SSID of the access point has the same quality as a cell
at its address. -/
def ScanEnv.Agrees (env : ScanEnv) (ap : AccessPoint) : Prop :=
  ∃ cells ∈ getData env.scan, ∃ found ∈ cells.find? (Carries ap.ssid), ∃ cell ∈ cells,
    cell.mac = some ap.bssid.toList ∧
      cell.quality.bind percentage = found.quality.bind percentage

/-- The signal of an entry is the quality of the first cell that carries its SSID. -/
lemma exists_of_hasSignal {scan : Scan} {ap : AccessPoint} (h : HasSignal scan ap) :
    ∃ cells ∈ getData scan, ∃ found ∈ cells.find? (Carries ap.ssid),
      found.quality.bind percentage = some (entry scan ap).signal := by
  obtain ⟨q, hq⟩ := Option.ne_none_iff_exists'.mp h
  rw [truthy, Option.filter_eq_some_iff] at hq
  have hentry : (entry scan ap).signal = q := by rw [entry, hq.1, Option.getD_some]
  obtain ⟨cells, hcells, hsearch⟩ := Option.bind_eq_some_iff.mp (Option.join_eq_some_iff.mp hq.1)
  obtain ⟨found, hfound, hquality⟩ := searchCells_eq_some hsearch
  exact ⟨cells, hcells, found, hfound, hentry ▸ hquality⟩

/-- Every entry of a published list has the quality of a cell at its address, exactly if this is so
of the cell that was found for each of the access points recorded. -/
theorem signals_at_bssid_iff {env : ScanEnv} {client : MobilityClient} {fuel : ℕ}
    (hpub : (getIWlistSignals fuel env client).2.published = true) :
    (∀ w ∈ (getIWlistSignals fuel env client).2.client.wifilist,
      env.QualityAt w.bssid w.signal) ↔
    ∀ ap ∈ (env.sought client).takeWhile (HasSignal env.scan ·), env.Agrees ap := by
  rw [wifilist_eq hpub, List.forall_mem_map]
  refine forall₂_congr fun ap hap => ?_
  have hsignal : HasSignal env.scan ap := by simpa using List.mem_takeWhile_imp hap
  obtain ⟨cells, hcells, found, hfound, hquality⟩ := exists_of_hasSignal hsignal
  constructor
  · rintro ⟨cells', hcells', cell, hcell, hmac, hat⟩
    obtain rfl := Option.some.inj (hcells.symm.trans hcells')
    exact ⟨cells, hcells, found, hfound, cell, hcell, hmac, hat.trans hquality.symm⟩
  · rintro ⟨cells', hcells', found', hfound', cell, hcell, hmac, heq⟩
    obtain rfl := Option.some.inj (hcells.symm.trans hcells')
    obtain rfl := Option.some.inj (hfound.symm.trans hfound')
    exact ⟨cells, hcells, cell, hcell, hmac, heq.trans hquality⟩

/-- Two access points of one network. -/
def twoEnv : ScanEnv where
  devices := some [⟨⟨.wifi, some ⟨"SmartWiFiPdP", "00:01"⟩⟩,
    some [⟨"SmartWiFiPdP", "00:01"⟩, ⟨"SmartWiFiPdP", "00:02"⟩]⟩]
  ssidsList := some "SmartWiFiPdP\n"
  scan := threeCells

theorem signals_at_bssid_two :
    (getIWlistSignals 1 twoEnv scanClient).2.published = true ∧
      ((∀ w ∈ (getIWlistSignals 1 twoEnv scanClient).2.client.wifilist,
        twoEnv.QualityAt w.bssid w.signal) ↔
      ∀ ap ∈ (twoEnv.sought scanClient).takeWhile (HasSignal twoEnv.scan ·), twoEnv.Agrees ap) := by
  have hpub : (getIWlistSignals 1 twoEnv scanClient).2.published = true := by decide +kernel
  exact ⟨hpub, signals_at_bssid_iff hpub⟩

/-- The entry has the address of the one access point and the quality of the other. -/
theorem signal_of_other_cell :
    (getIWlistSignals 1 twoEnv scanClient).1 = .finished ∧
      (getIWlistSignals 1 twoEnv scanClient).2.published = true ∧
      ¬ ∀ w ∈ (getIWlistSignals 1 twoEnv scanClient).2.client.wifilist,
        twoEnv.QualityAt w.bssid w.signal := by
  decide +kernel

end SecuredApp
