import Mathlib.Data.List.Infix
import Mathlib.Data.List.TakeWhile
import SecuredApp.Attest.Daemon

/-!
# The monitors of the accepted peers

Three laws of runs of the daemon: which IKE_SAs have a monitor, when the shortcut over
`known_cert_digest` rests on a trusted verdict, and which IKE_SA a monitor terminates.
-/

namespace SecuredApp

open SecuredApp.Core

variable {J : JsonC} {sha1Hex : List Char → CStr}

/-! ### Which peers are monitored -/

/-- The variables of a monitor's loop follow from its polls, and it has ended only outside the
loop. -/
structure Monitor.Sound (m : Monitor) : Prop where
  attestResult : m.attestResult = m.polls.headD 0
  count : m.count = (m.polls.takeWhile (· = 0)).length
  ended : m.ended = true → m.looping = false

lemma Monitor.queued_sound (data : AttestData) (owner : UInt32) :
    (Monitor.queued data owner).Sound where
  attestResult := rfl
  count := rfl
  ended := by simp [queued]

lemma Monitor.Sound.polled {m : Monitor} (h : m.Sound) (hended : m.ended = false)
    (attestResult : Int) : (m.polled attestResult).Sound where
  attestResult := rfl
  count := by
    by_cases h0 : attestResult = 0
    · simp [Monitor.polled, h0, h.count]
    · simp [Monitor.polled, h0]
  ended := by simp [Monitor.polled, hended]

lemma Monitor.Sound.answered {m : Monitor} (h : m.Sound) (hloop : m.looping = false) :
    Monitor.Sound { m with ended := true } where
  attestResult := h.attestResult
  count := h.count
  ended := fun _ => hloop

/-- The last poll of a monitor was untrusted, or its last three polls were silent. -/
def Monitor.Alarmed (m : Monitor) : Prop :=
  m.polls.head? = some (-1) ∨ [0, 0, 0] <+: m.polls

/-- A monitor leaves its loop only alarmed. -/
lemma Monitor.Sound.alarmed {m : Monitor} (h : m.Sound) (hloop : m.looping = false) :
    m.Alarmed := by
  by_cases hresult : m.attestResult = -1
  · left
    rw [h.attestResult] at hresult
    cases hpolls : m.polls with
    | nil => simp [hpolls] at hresult
    | cons r rest => simpa [hpolls] using hresult
  · right
    have hcount : 3 ≤ m.count := by simpa [Monitor.looping, hresult] using hloop
    rw [h.count] at hcount
    have hzero : m.polls.takeWhile (· = 0)
        = List.replicate (m.polls.takeWhile (· = 0)).length 0 :=
      List.eq_replicate_of_mem fun r hr => by simpa using List.mem_takeWhile_imp hr
    have hprefix : List.replicate 3 0 <+: m.polls.takeWhile (· = 0) := by
      rw [hzero]
      exact ⟨List.replicate ((m.polls.takeWhile (· = 0)).length - 3) 0, by
        rw [List.replicate_append_replicate, Nat.add_sub_cancel' hcount]⟩
    exact hprefix.trans (List.takeWhile_prefix _)

/-- A certificate of the IKE_SA was attested in its authorize call, finished or under way. -/
def Daemon.Attested (d : Daemon) (uniqueId : UInt32) : Prop :=
  (∃ r ∈ d.authorized, r.uniqueId = uniqueId ∧ .attested ∈ r.outcomes) ∨
    ∃ call, d.call = some call ∧ call.uniqueId = uniqueId ∧ .attested ∈ call.outcomes

/-- The monitors are those of the attested IKE_SAs. -/
structure Daemon.Monitored (d : Daemon) : Prop where
  sound : ∀ m ∈ d.plugin.monitors, m.Sound
  owners : ∀ uniqueId, uniqueId ∈ d.plugin.monitors.map (·.owner) ↔ d.Attested uniqueId

lemma map_set_of_eq {α β : Type*} {l : List α} {i : ℕ} {x y : α} {f : α → β}
    (hx : l[i]? = some x) (hf : f y = f x) : (l.set i y).map f = l.map f := by
  obtain ⟨hi, rfl⟩ := List.getElem?_eq_some_iff.mp hx
  rw [List.map_set, hf, ← List.getElem_map f, List.set_getElem_self]
  simpa using hi

/-- Replacing a monitor by a sound one of the same owner. -/
lemma Daemon.Monitored.set {d d' : Daemon} {i : ℕ} {m m' : Monitor} (h : d.Monitored)
    (hm : d.plugin.monitors[i]? = some m) (howner : m'.owner = m.owner) (hsound : m'.Sound)
    (hmonitors : d'.plugin.monitors = d.plugin.monitors.set i m') (hcall : d'.call = d.call)
    (hauthorized : d'.authorized = d.authorized) : d'.Monitored where
  sound := by
    intro x hx
    rw [hmonitors] at hx
    rcases List.mem_or_eq_of_mem_set hx with hx | rfl
    · exact h.sound x hx
    · exact hsound
  owners := by
    intro uniqueId
    rw [hmonitors, map_set_of_eq hm howner, h.owners, Attested, Attested, hcall, hauthorized]

lemma Daemon.init_monitored (settings : Settings) : (Daemon.init settings).Monitored where
  sound := by simp [init, Plugin.fresh]
  owners := by simp [init, Plugin.fresh, Attested]

/-- A round keeps the monitors those of the attested IKE_SAs. -/
lemma Daemon.Monitored.round {d : Daemon} {env : RoundEnv} {call : AuthCall} {cfg : AuthCfg}
    {rest : List AuthCfg} {outcome : RoundOutcome} {st : Plugin} {success : Bool}
    (h : d.Monitored) (hcall : d.call = some call)
    (hdone : RoundDone J sha1Hex call.knownCertDigest call.interval call.uniqueId cfg env d.plugin
      call.success outcome st success) :
    Daemon.Monitored { d with
      plugin := st
      call := some { call with
        rest := rest
        success := success
        outcomes := call.outcomes ++ [outcome] } } := by
  have hold := h.owners
  simp only [Attested, hcall, Option.some.injEq, exists_eq_left'] at hold
  cases hdone with
  | skipped hdigest hne =>
    refine ⟨h.sound, fun uniqueId => ?_⟩
    simp [Attested, hold, hne.symm]
  | known hdigest =>
    refine ⟨h.sound, fun uniqueId => ?_⟩
    simp [Attested, hold]
  | @asked digest hostname a hdigest hne ha =>
    by_cases h1 : a.attestResult = 1
    · refine ⟨fun m hm => ?_, fun uniqueId => ?_⟩
      · simp only [Plugin.asked, if_pos h1, List.mem_append, List.mem_singleton] at hm
        rcases hm with hm | rfl
        · exact h.sound m hm
        · exact Monitor.queued_sound _ _
      · simp only [Plugin.asked, if_pos h1, List.map_append, List.mem_append, hold, Attested,
          Option.some.injEq, exists_eq_left', List.map_singleton, List.mem_singleton,
          Monitor.queued, or_true, and_true]
        constructor
        · rintro ((hr | ⟨hid, -⟩) | hid)
          · exact Or.inl hr
          · exact Or.inr hid
          · exact Or.inr hid.symm
        · rintro (hr | hid)
          · exact Or.inl (Or.inl hr)
          · exact Or.inr hid.symm
    · refine ⟨fun m hm => h.sound m (by simpa [Plugin.asked, h1] using hm), fun uniqueId => ?_⟩
      simp [Plugin.asked, Attested, hold, h1]

lemma Daemon.Monitored.step {d d' : Daemon} {e : Event} (h : d.Monitored)
    (hstep : d.step J sha1Hex e = some d') : d'.Monitored := by
  cases Daemon.step_sound hstep with
  | pass hcall hpeer => exact h
  | enter hcall hpeer =>
    refine ⟨h.sound, fun uniqueId => ?_⟩
    rw [h.owners]
    simp [Attested, hcall]
  | round hcall hrest hdone => exact h.round hcall hdone
  | finish hcall hrest =>
    refine ⟨h.sound, fun uniqueId => ?_⟩
    rw [h.owners]
    simp [Attested, hcall, or_comm]
  | @poll i fetch m a hm hended hloop ha =>
    have hsound := (h.sound m (List.mem_of_getElem? hm)).polled hended a.attestResult
    exact Monitored.set h hm (by rfl) hsound rfl rfl rfl
  | @answer i input m hm hended hloop =>
    have hsound := (h.sound m (List.mem_of_getElem? hm)).answered hloop
    exact Monitored.set h hm (by rfl) hsound rfl rfl rfl

/-- Every IKE_SA with an attested certificate has a monitor, which ends only alarmed, and every
monitor belongs to such an IKE_SA. -/
theorem attested_peers_are_monitored (J : JsonC) (sha1Hex : List Char → CStr) (settings : Settings)
    (es : List Event) (d : Daemon) (h : run (Daemon.step J sha1Hex) (.init settings) es = some d) :
    (∀ r ∈ d.authorized, .attested ∈ r.outcomes →
      ∃ m ∈ d.plugin.monitors, m.owner = r.uniqueId ∧ (m.ended = true → m.Alarmed)) ∧
    ∀ m ∈ d.plugin.monitors, d.Attested m.owner := by
  have hmon : d.Monitored :=
    run_invariant (Daemon.init_monitored settings) (fun _ _ _ h hstep => h.step hstep) h
  constructor
  · intro r hr hattested
    obtain ⟨m, hm, howner⟩ := List.mem_map.mp
      ((hmon.owners r.uniqueId).mpr (Or.inl ⟨r, hr, rfl, hattested⟩))
    have hsound := hmon.sound m hm
    exact ⟨m, hm, howner, fun hended => hsound.alarmed (hsound.ended hended)⟩
  · intro m hm
    exact (hmon.owners m.owner).mp (List.mem_map.mpr ⟨m, hm, rfl⟩)

/-- The steps of an authorize call for the host `ned`, which the verifier trusts. -/
def nedAuthorized (uniqueId : UInt32) : List Event :=
  [.authorize uniqueId [some (nedCertificate "ned certificate")], .round (.always trustedText),
    .finish]

theorem attested_peers_are_monitored_ned :
    ∃ d, run (Daemon.step resultsJsonC sampleSha1Hex) (.init .withServer) (nedAuthorized 1)
        = some d ∧
      d.authorized = [⟨1, true, [.attested]⟩] ∧
      (∀ r ∈ d.authorized, .attested ∈ r.outcomes →
        ∃ m ∈ d.plugin.monitors, m.owner = r.uniqueId ∧ (m.ended = true → m.Alarmed)) ∧
      ∀ m ∈ d.plugin.monitors, d.Attested m.owner := by
  have hmap : (run (Daemon.step resultsJsonC sampleSha1Hex) (.init .withServer)
      (nedAuthorized 1)).map (·.authorized) = some [⟨1, true, [.attested]⟩] := by
    decide +kernel
  obtain ⟨d, hd, hauthorized⟩ := Option.map_eq_some_iff.mp hmap
  exact ⟨d, hd, hauthorized, attested_peers_are_monitored _ _ _ _ d hd⟩

/-- The user keeps the connection of an untrusted `ned`, and a peer without a certificate
connects. -/
def unwatchedPeers : List Event :=
  nedAuthorized 1 ++ [.poll 0 (.always untrustedText), .answer 0 "No\n".toList,
    .authorize 2 [none], .round (.always trustedText), .finish]

/-- Both peers are accepted and not terminated; the monitor of one has ended, the other has
none. -/
theorem accepted_without_live_monitor :
    ∃ d, run (Daemon.step resultsJsonC sampleSha1Hex) (.init .withServer) unwatchedPeers = some d ∧
      d.authorized = [⟨2, true, [.noCertificate]⟩, ⟨1, true, [.attested]⟩] ∧
      d.terminations = [] ∧
      (∀ m ∈ d.plugin.monitors, m.owner = 1 → m.ended = true) ∧
      ∀ m ∈ d.plugin.monitors, m.owner ≠ 2 := by
  have hmap : (run (Daemon.step resultsJsonC sampleSha1Hex) (.init .withServer)
      unwatchedPeers).map (fun d => (d.authorized, d.terminations,
        d.plugin.monitors.map fun m => (m.owner, m.ended)))
      = some ([⟨2, true, [.noCertificate]⟩, ⟨1, true, [.attested]⟩], [], [(1, true)]) := by
    decide +kernel
  obtain ⟨d, hd, heq⟩ := Option.map_eq_some_iff.mp hmap
  obtain ⟨hauthorized, hterminations, hmonitors⟩ := by simpa only [Prod.mk.injEq] using heq
  have hmem : ∀ m ∈ d.plugin.monitors, m.owner = 1 ∧ m.ended = true := by
    intro m hm
    have : (m.owner, m.ended) ∈ d.plugin.monitors.map fun m => (m.owner, m.ended) :=
      List.mem_map.mpr ⟨m, hm, rfl⟩
    rw [hmonitors, List.mem_singleton, Prod.mk.injEq] at this
    exact this
  refine ⟨d, hd, hauthorized, hterminations, fun m hm _ => (hmem m hm).2, fun m hm => ?_⟩
  rw [(hmem m hm).1]
  decide

/-! ### What the shortcut rests on -/

/-- The next round of the call under way, if it takes the shortcut, does so on a digest whose
latest verdict is trusted. -/
def Daemon.ShortcutTrusted (sha1Hex : List Char → CStr) (d : Daemon) (e : Event) : Prop :=
  ∀ env call cfg rest, e = .round env → d.call = some call → call.rest = cfg :: rest →
    certDigest sha1Hex cfg = some call.knownCertDigest →
    d.plugin.verdicts.lookup call.knownCertDigest = some 1

/-- The digests a call may take for known: the one in the settings and the one it has read. -/
def Daemon.Holds (d : Daemon) (digest : CStr) : Prop :=
  d.plugin.settings.getKnownCertDigest = digest ∨
    ∃ call, d.call = some call ∧ call.knownCertDigest = digest

/-- No verdict but a trusted one is received in the step for a digest that is taken for known. -/
def Daemon.SparesKnown (J : JsonC) (sha1Hex : List Char → CStr) (d : Daemon) (e : Event) : Prop :=
  ∀ d' digest verdict, d.step J sha1Hex e = some d' →
    d'.plugin.verdicts = (digest, verdict) :: d.plugin.verdicts → verdict ≠ 1 → ¬ d.Holds digest

/-- A digest that is taken for known is the one configured at first, or its latest verdict is
trusted. -/
def Daemon.KnownTrusted (slot : CStr) (d : Daemon) : Prop :=
  ∀ digest, d.Holds digest → digest = slot ∨ d.plugin.verdicts.lookup digest = some 1

/-- A trusted request makes its digest the known one, the others leave the known one. -/
lemma getKnownCertDigest_of_request {settings : Settings} {fetch : Fetcher}
    {peerHostname peerCertDigest : CStr} {a : Attestation}
    (h : oatAttestRequest J settings fetch peerHostname peerCertDigest = .ok a) :
    a.settings.getKnownCertDigest
      = if a.attestResult = 1 then peerCertDigest else settings.getKnownCertDigest := by
  rw [oatAttestRequest_settings h]
  split_ifs <;> rfl

/-- A verdict on a digest, trusted or on one that is not taken for known, keeps the law. -/
lemma Daemon.KnownTrusted.verdict {slot digest : CStr} {verdict : Int} {d d' : Daemon}
    (h : d.KnownTrusted slot)
    (hverdicts : d'.plugin.verdicts = (digest, verdict) :: d.plugin.verdicts)
    (hheld : ∀ x, d'.Holds x → d.Holds x ∨ verdict = 1 ∧ x = digest)
    (hspare : verdict ≠ 1 → ¬ d.Holds digest) : d'.KnownTrusted slot := by
  intro x hx
  rw [hverdicts]
  by_cases heq : x = digest
  · subst heq
    by_cases h1 : verdict = 1
    · right
      simp [h1]
    · rcases hheld x hx with hx | ⟨h1', -⟩
      · exact absurd hx (hspare h1)
      · exact absurd h1' h1
  · rcases hheld x hx with hx | ⟨-, rfl⟩
    · rw [List.lookup_cons, beq_false_of_ne heq]
      exact h x hx
    · exact absurd rfl heq

lemma Daemon.KnownTrusted.step {slot : CStr} {d d' : Daemon} {e : Event} (h : d.KnownTrusted slot)
    (hspare : d.SparesKnown J sha1Hex e) (hstep : d.step J sha1Hex e = some d') :
    d'.KnownTrusted slot := by
  have hspare := fun digest verdict => hspare d' digest verdict hstep
  cases Daemon.step_sound hstep with
  | pass hcall hpeer => exact h
  | enter hcall hpeer =>
    intro digest hheld
    refine h digest (Or.inl ?_)
    rcases hheld with hslot | ⟨call, hcall', hknown⟩
    · exact hslot
    · cases hcall'
      exact hknown
  | @round env call cfg rest outcome st success hcall hrest hdone =>
    cases hdone with
    | skipped hdigest hne =>
      intro digest hheld
      refine h digest ?_
      simpa [Holds, hcall] using hheld
    | known hdigest =>
      intro digest hheld
      refine h digest ?_
      simpa [Holds, hcall] using hheld
    | @asked digest hostname a hdigest hne ha =>
      refine h.verdict rfl (fun x hx => ?_) (hspare digest a.attestResult rfl)
      simp only [Holds, Plugin.asked, getKnownCertDigest_of_request ha, Option.some.injEq,
        exists_eq_left'] at hx
      simp only [Holds, hcall, Option.some.injEq, exists_eq_left']
      rcases hx with hx | hx
      · split_ifs at hx with h1
        · exact Or.inr ⟨h1, hx.symm⟩
        · exact Or.inl (Or.inl hx)
      · exact Or.inl (Or.inr hx)
  | finish hcall hrest =>
    intro digest hheld
    refine h digest (Or.inl ?_)
    rcases hheld with hslot | ⟨call, hcall', -⟩
    · exact hslot
    · cases hcall'
  | @poll i fetch m a hm hended hloop ha =>
    refine h.verdict rfl (fun x hx => ?_) (hspare m.data.certDigest a.attestResult rfl)
    simp only [Holds, answered, getKnownCertDigest_of_request ha] at hx
    rcases hx with hx | hx
    · split_ifs at hx with h1
      · exact Or.inr ⟨h1, hx.symm⟩
      · exact Or.inl (Or.inl hx)
    · exact Or.inl (Or.inr hx)
  | answer hm hended hloop => exact h

/-- In a run that receives no verdict but trusted ones for the digests taken for known, and is
configured with no certificate's digest, every shortcut rests on a trusted verdict. -/
theorem shortcut_trusted (J : JsonC) (sha1Hex : List Char → CStr) (settings : Settings)
    (es : List Event) (hslot : ∀ encoded, sha1Hex encoded ≠ settings.getKnownCertDigest)
    (h : RunMeets (Daemon.step J sha1Hex) (fun _ d e => d.SparesKnown J sha1Hex e)
      (.init settings) es) :
    RunMeets (Daemon.step J sha1Hex) (fun _ d e => d.ShortcutTrusted sha1Hex e)
      (.init settings) es := by
  have hinit : (Daemon.init settings).KnownTrusted settings.getKnownCertDigest := by
    intro digest hheld
    rcases hheld with hheld | ⟨call, hcall, -⟩
    · exact Or.inl hheld.symm
    · cases hcall
  have hkeep : ∀ (_ : List Event) (d : Daemon) (e : Event) (d' : Daemon),
      d.KnownTrusted settings.getKnownCertDigest → d.SparesKnown J sha1Hex e →
      d.step J sha1Hex e = some d' → d'.KnownTrusted settings.getKnownCertDigest := by
    intro _ d e d' hknown hspare hstep
    exact hknown.step hspare hstep
  refine h.of_invariant hinit hkeep ?_
  intro _ d e hknown _ env call cfg rest _ hcall _ hdigest
  rcases hknown call.knownCertDigest (Or.inr ⟨call, hcall, rfl⟩) with heq | htrusted
  · -- the configured digest is no certificate's, so no round takes the shortcut on it
    obtain ⟨cert, -, hcert⟩ := Option.bind_eq_some_iff.mp hdigest
    obtain ⟨encoded, -, hencoded⟩ := Option.map_eq_some_iff.mp hcert
    exact absurd (hencoded.trans heq) (hslot encoded)
  · exact htrusted

/-- Verdicts are only added to those received. -/
lemma Daemon.verdicts_suffix {d d' : Daemon} {e : Event} (hstep : d.step J sha1Hex e = some d') :
    d.plugin.verdicts <:+ d'.plugin.verdicts := by
  cases Daemon.step_sound hstep with
  | round hcall hrest hdone =>
    cases hdone with
    | skipped | known => exact List.suffix_rfl
    | asked hdigest hne ha => exact List.suffix_cons _ _
  | poll hm hended hloop ha => exact List.suffix_cons _ _
  | _ => exact List.suffix_rfl

lemma verdicts_suffix_of_run {d d' : Daemon} {es : List Event}
    (h : run (Daemon.step J sha1Hex) d es = some d') : d.plugin.verdicts <:+ d'.plugin.verdicts :=
  run_invariant (P := fun d' => d.plugin.verdicts <:+ d'.plugin.verdicts) List.suffix_rfl
    (fun _ _ _ hsuffix hstep => hsuffix.trans (Daemon.verdicts_suffix hstep)) h

/-- A run that receives only trusted verdicts meets the condition on its steps. -/
lemma sparesKnown_of_trusted {d d' : Daemon} {es : List Event}
    (h : run (Daemon.step J sha1Hex) d es = some d')
    (htrusted : ∀ v ∈ d'.plugin.verdicts, v.2 = 1) :
    RunMeets (Daemon.step J sha1Hex) (fun _ d e => d.SparesKnown J sha1Hex e) d es := by
  intro pre e post d₁ heq hpre d₂ digest verdict hstep hverdicts hne
  rw [heq, run_append, hpre, Option.bind_some, run_cons, hstep, Option.bind_some] at h
  have hmem : (digest, verdict) ∈ d'.plugin.verdicts := by
    refine (verdicts_suffix_of_run h).subset ?_
    rw [hverdicts]
    exact List.mem_cons_self
  exact absurd (htrusted _ hmem) hne

/-- The host `ned` connects, and connects again over the shortcut. -/
def nedReconnects : List Event := nedAuthorized 1 ++ nedAuthorized 2

theorem shortcut_trusted_ned :
    (run (Daemon.step resultsJsonC sampleSha1Hex) (.init .withServer) nedReconnects).map
        (·.authorized) = some [⟨2, true, [.known]⟩, ⟨1, true, [.attested]⟩] ∧
      RunMeets (Daemon.step resultsJsonC sampleSha1Hex)
        (fun _ d e => d.ShortcutTrusted sampleSha1Hex e) (.init .withServer) nedReconnects := by
  have hmap : (run (Daemon.step resultsJsonC sampleSha1Hex) (.init .withServer)
      nedReconnects).map (fun d => (d.authorized, d.plugin.verdicts.map (·.2)))
      = some ([⟨2, true, [.known]⟩, ⟨1, true, [.attested]⟩], [1]) := by
    decide +kernel
  obtain ⟨d, hd, heq⟩ := Option.map_eq_some_iff.mp hmap
  obtain ⟨hauthorized, hverdicts⟩ := by simpa only [Prod.mk.injEq] using heq
  refine ⟨by rw [hd, Option.map_some, hauthorized], shortcut_trusted resultsJsonC sampleSha1Hex
    .withServer nedReconnects (fun encoded => ?_) (sparesKnown_of_trusted hd fun v hv => ?_)⟩
  · rw [sampleSha1Hex]
    split_ifs <;> decide
  · have hmem : v.2 ∈ d.plugin.verdicts.map (·.2) := List.mem_map.mpr ⟨v, hv, rfl⟩
    rwa [hverdicts, List.mem_singleton] at hmem

/-- After an untrusted verdict `ned` connects again, and the shortcut accepts it. -/
theorem shortcut_after_untrusted :
    ¬ ∀ (J : JsonC) (sha1Hex : List Char → CStr) (settings : Settings) (es : List Event),
        RunMeets (Daemon.step J sha1Hex) (fun _ d e => d.ShortcutTrusted sha1Hex e)
          (.init settings) es := by
  intro h
  set pre := nedAuthorized 1 ++ [.poll 0 (.always untrustedText),
    .authorize 2 [some (nedCertificate "ned certificate")]] with hpre
  set digest := sampleSha1Hex "ned certificate".toList with hdigest
  have hmap : (run (Daemon.step resultsJsonC sampleSha1Hex) (.init .withServer) pre).map
      (fun d => (d.call.map fun call => (call.knownCertDigest,
        call.rest.map (certDigest sampleSha1Hex)), d.plugin.verdicts.lookup digest))
      = some (some (digest, [some digest]), some (-1)) := by
    decide +kernel
  obtain ⟨d, hd, heq⟩ := Option.map_eq_some_iff.mp hmap
  obtain ⟨hcallmap, hlookup⟩ := by simpa only [Prod.mk.injEq] using heq
  obtain ⟨call, hcall, hcalleq⟩ := Option.map_eq_some_iff.mp hcallmap
  obtain ⟨hknown, hrestmap⟩ := by simpa only [Prod.mk.injEq] using hcalleq
  obtain ⟨cfg, hrest, hcfg⟩ := List.map_eq_singleton_iff.mp hrestmap
  have htrusted := h resultsJsonC sampleSha1Hex .withServer (pre ++ [.round (.always trustedText)])
    pre _ [] d rfl hd (.always trustedText) call cfg [] rfl hcall hrest (by rw [hknown, hcfg])
  rw [hknown, hlookup] at htrusted
  exact absurd htrusted (by decide)

/-! ### Which peer a monitor terminates -/

/-- The certificate of a round has an encoding, whose digest the hook calculates. -/
def hashed (cfg : AuthCfg) : Bool := (cfg.bind (·.encoding)).isSome

lemma isSome_certDigest (sha1Hex : List Char → CStr) (cfg : AuthCfg) :
    (certDigest sha1Hex cfg).isSome = hashed cfg := by
  cases cfg with
  | none => rfl
  | some cert => simp [certDigest, hashed]

/-- What a sequence of events tells about the authorize calls: the one under way with the rounds
left, and the IKE_SA whose certificate was the last to be hashed. -/
structure Hashing where
  call : Option (UInt32 × List AuthCfg)
  last : Option UInt32

def Hashing.next (attestPeer : Bool) (t : Hashing) : Event → Hashing
  | .authorize uniqueId rounds =>
    if attestPeer then { t with call := some (uniqueId, rounds) } else t
  | .round _ =>
    match t.call with
    | some (uniqueId, cfg :: rest) =>
      ⟨some (uniqueId, rest), if hashed cfg then some uniqueId else t.last⟩
    | _ => t
  | .finish => { t with call := none }
  | _ => t

def hashing (attestPeer : Bool) (es : List Event) : Hashing :=
  es.foldl (Hashing.next attestPeer) ⟨none, none⟩

lemma hashing_concat (attestPeer : Bool) (es : List Event) (e : Event) :
    hashing attestPeer (es ++ [e]) = (hashing attestPeer es).next attestPeer e := by
  rw [hashing, List.foldl_append, List.foldl_cons, List.foldl_nil, hashing]

/-- The IKE_SA whose certificate the hook was the last to hash. -/
def lastHashed (attestPeer : Bool) (es : List Event) : Option UInt32 :=
  (hashing attestPeer es).last

/-- The events told the same as the state: the call under way, and `current_id` once there is a
monitor to read it. -/
structure Daemon.Follows (settings : Settings) (t : Hashing) (d : Daemon) : Prop where
  settings : settings.SameBut d.plugin.settings
  call : d.call.map (fun call => (call.uniqueId, call.rest)) = t.call
  currentId : d.plugin.monitors ≠ [] → t.last = some d.plugin.currentId

lemma Daemon.init_follows (settings : Settings) :
    (Daemon.init settings).Follows settings ⟨none, none⟩ where
  settings := .refl settings
  call := rfl
  currentId := by simp [init, Plugin.fresh]

lemma Settings.SameBut.getAttestPeer {settings settings' : Settings}
    (h : settings.SameBut settings') : settings'.getAttestPeer = settings.getAttestPeer := by
  obtain ⟨known, rfl⟩ := h
  rfl

lemma Daemon.Follows.step {settings : Settings} {t : Hashing} {d d' : Daemon} {e : Event}
    (h : d.Follows settings t) (hstep : d.step J sha1Hex e = some d') :
    d'.Follows settings (t.next settings.getAttestPeer e) := by
  have hcalled := h.call
  have hpeer_eq := h.settings.getAttestPeer
  cases Daemon.step_sound hstep with
  | pass hcall hpeer =>
    rw [hpeer_eq] at hpeer
    simpa [Hashing.next, hpeer] using h
  | enter hcall hpeer =>
    rw [hpeer_eq] at hpeer
    simp only [Hashing.next, hpeer, if_true]
    exact ⟨h.settings, rfl, h.currentId⟩
  | @round env call cfg rest outcome st success hcall hrest hdone =>
    simp only [hcall, Option.map_some, hrest] at hcalled
    have hhashed := isSome_certDigest sha1Hex cfg
    simp only [Hashing.next, ← hcalled]
    cases hdone with
    | skipped hdigest hne =>
      rw [hdigest] at hhashed
      refine ⟨h.settings, rfl, fun hne => ?_⟩
      simpa [← hhashed] using h.currentId hne
    | known hdigest =>
      rw [hdigest] at hhashed
      refine ⟨h.settings, rfl, fun _ => ?_⟩
      simp [← hhashed]
    | asked hdigest hne ha =>
      rw [hdigest] at hhashed
      refine ⟨h.settings.trans (oatAttestRequest_sameBut ha), rfl, fun _ => ?_⟩
      simp [← hhashed, Plugin.asked]
  | finish hcall hrest => exact ⟨h.settings, rfl, h.currentId⟩
  | @poll i fetch m a hm hended hloop ha =>
    refine ⟨h.settings.trans (oatAttestRequest_sameBut ha), hcalled, fun _ => ?_⟩
    exact h.currentId (List.ne_nil_of_mem (List.mem_of_getElem? hm))
  | @answer i input m hm hended hloop =>
    refine ⟨h.settings, hcalled, fun _ => ?_⟩
    exact h.currentId (List.ne_nil_of_mem (List.mem_of_getElem? hm))

lemma Daemon.follows_of_run {settings : Settings} {es : List Event} {d : Daemon}
    (h : run (Daemon.step J sha1Hex) (.init settings) es = some d) :
    d.Follows settings (hashing settings.getAttestPeer es) := by
  refine run_induction (P := fun es d => d.Follows settings (hashing settings.getAttestPeer es))
    (Daemon.init_follows settings) ?_ h
  intro es d e d' _ hfollows hstep
  rw [hashing_concat]
  exact hfollows.step hstep

/-- The condition on a step: a user who closes a connection answers the monitor of the IKE_SA
whose certificate was the last to be hashed. -/
def Daemon.AnswersLast (attestPeer : Bool) (es : List Event) (d : Daemon) (e : Event) : Prop :=
  ∀ i input m, e = .answer i input → d.plugin.monitors[i]? = some m → saysYes input = true →
    lastHashed attestPeer es = some m.owner

/-- Every monitor terminates the IKE_SA it was queued for exactly in the runs in which the user
closes only the connection whose certificate was the last to be hashed. -/
theorem terminates_own_iff (J : JsonC) (sha1Hex : List Char → CStr) (settings : Settings)
    (es : List Event) (d : Daemon) (h : run (Daemon.step J sha1Hex) (.init settings) es = some d) :
    (∀ t ∈ d.terminations, t.uniqueId = t.owner) ↔
      RunMeets (Daemon.step J sha1Hex)
        (fun es d e => d.AnswersLast settings.getAttestPeer es e) (.init settings) es := by
  refine run_induction (P := fun es d => (∀ t ∈ d.terminations, t.uniqueId = t.owner) ↔
    RunMeets (Daemon.step J sha1Hex) (fun es d e => d.AnswersLast settings.getAttestPeer es e)
      (.init settings) es) ?_ ?_ h
  · simp [Daemon.init, runMeets_nil]
  · intro es d e d' hes hiff hstep
    rw [runMeets_concat_iff hes, ← hiff]
    cases Daemon.step_sound hstep with
    | @answer i input m hm hended hloop =>
      have hlast : lastHashed settings.getAttestPeer es = some d.plugin.currentId :=
        (Daemon.follows_of_run hes).currentId (List.ne_nil_of_mem (List.mem_of_getElem? hm))
      cases hyes : saysYes input with
      | false =>
        have hans : d.AnswersLast settings.getAttestPeer es (.answer i input) := by
          intro i' input' m' he _ hyes'
          obtain ⟨rfl, rfl⟩ := Event.answer.inj he
          rw [hyes] at hyes'
          cases hyes'
        simp [hans]
      | true =>
        have hcond : d.AnswersLast settings.getAttestPeer es (.answer i input) ↔
            d.plugin.currentId = m.owner := by
          constructor
          · intro hans
            exact Option.some.inj (hlast.symm.trans (hans i input m rfl hm hyes))
          · rintro heq i' input' m' he hm' -
            obtain ⟨rfl, rfl⟩ := Event.answer.inj he
            rw [hm, Option.some.injEq] at hm'
            rw [hlast, heq, hm']
        rw [hcond]
        simp [and_comm]
    | _ => simp [Daemon.AnswersLast, Daemon.answered]

/-- The user closes the connection of an untrusted `ned`. -/
def closedPeer : List Event :=
  nedAuthorized 1 ++ [.poll 0 (.always untrustedText), .answer 0 "yes\n".toList]

theorem terminates_own_iff_ned :
    ∃ d, run (Daemon.step resultsJsonC sampleSha1Hex) (.init .withServer) closedPeer = some d ∧
      d.terminations = [⟨1, 1⟩] ∧
      RunMeets (Daemon.step resultsJsonC sampleSha1Hex)
        (fun es d e => d.AnswersLast true es e) (.init .withServer) closedPeer := by
  have hmap : (run (Daemon.step resultsJsonC sampleSha1Hex) (.init .withServer)
      closedPeer).map (·.terminations) = some [⟨1, 1⟩] := by
    decide +kernel
  obtain ⟨d, hd, hterminations⟩ := Option.map_eq_some_iff.mp hmap
  have hown : ∀ t ∈ d.terminations, t.uniqueId = t.owner := by
    rw [hterminations]
    simp
  exact ⟨d, hd, hterminations,
    (terminates_own_iff resultsJsonC sampleSha1Hex .withServer closedPeer d hd).mp hown⟩

/-- The IKE_SA with a monitor is not the one that was authorized last when its user closes it. -/
def crossedPeers : List Event :=
  nedAuthorized 1 ++ nedAuthorized 2 ++
    [.poll 0 (.always untrustedText), .answer 0 "yes\n".toList]

/-- The monitor of the first IKE_SA terminates the second one. -/
theorem terminates_other_peer :
    ¬ ∀ (J : JsonC) (sha1Hex : List Char → CStr) (settings : Settings) (es : List Event)
        (d : Daemon), run (Daemon.step J sha1Hex) (.init settings) es = some d →
        ∀ t ∈ d.terminations, t.uniqueId = t.owner := by
  intro h
  have hmap : (run (Daemon.step resultsJsonC sampleSha1Hex) (.init .withServer)
      crossedPeers).map (·.terminations) = some [⟨1, 2⟩] := by
    decide +kernel
  obtain ⟨d, hd, hterminations⟩ := Option.map_eq_some_iff.mp hmap
  have hown := h _ _ _ _ d hd ⟨1, 2⟩ (by rw [hterminations]; exact List.mem_singleton_self _)
  exact absurd hown (by decide)

end SecuredApp
