import SecuredApp.Attest.Authorize

namespace SecuredApp

open SecuredApp.Core

variable {J : JsonC} {sha1Hex : List Char → CStr}

/-! ### What one round does to the verdict -/

/-- What becomes of a round. -/
inductive RoundOutcome where
  | noCertificate
  | unencoded    -- a certificate `get_encoding` yields nothing for
  | known        -- its digest is `known_cert_digest`
  | attested     -- `oat_attest_request` returned 1
  | refused      -- `oat_attest_request` returned something else
  | fault
deriving DecidableEq

/-- The rounds that say nothing against the peer. -/
def RoundOutcome.Passes : RoundOutcome → Prop
  | .noCertificate | .known | .attested => True
  | .unencoded | .refused | .fault => False

/-- The outcome of a round, from its certificate, the settings and the answers it gets. -/
def roundOutcome (J : JsonC) (sha1Hex : List Char → CStr) (settings : Settings)
    (round : AuthCfg × RoundEnv) : RoundOutcome :=
  match round.1 with
  | none => .noCertificate
  | some cert =>
    match extractCommonName cert.subject none, cert.encoding with
    | none, _ => .fault
    | some _, none => .unencoded
    | some data, some encoded =>
      if sha1Hex encoded = settings.getKnownCertDigest then .known
      else if ¬ round.2.dataFile then .fault
      else
        match oatAttestRequest J settings round.2.fetch (cstr data) (sha1Hex encoded) with
        | .error _ => .fault
        | .ok a => if a.attestResult = 1 then .attested else .refused

/-- `*success` after a round: only an attested or a refused one writes it. -/
def RoundOutcome.success : RoundOutcome → Bool → Bool
  | .attested, _ => true
  | .refused, _ => false
  | _, success => success

/-- The settings up to `known_cert_digest`, which the requests write. -/
def Settings.SameBut (settings settings' : Settings) : Prop :=
  ∃ known, settings' = { settings with knownCertDigest := known }

lemma Settings.SameBut.refl (settings : Settings) : settings.SameBut settings :=
  ⟨settings.knownCertDigest, rfl⟩

lemma Settings.SameBut.trans {settings₁ settings₂ settings₃ : Settings}
    (h₁ : settings₁.SameBut settings₂) (h₂ : settings₂.SameBut settings₃) :
    settings₁.SameBut settings₃ := by
  obtain ⟨known₁, rfl⟩ := h₁
  obtain ⟨known₂, rfl⟩ := h₂
  exact ⟨known₂, rfl⟩

/-- The value of a request does not depend on `known_cert_digest`. -/
lemma attestResult_withKnown (J : JsonC) (settings : Settings) (fetch : Fetcher)
    (peerHostname peerCertDigest : CStr) (known : Option CStr) :
    (oatAttestRequest J { settings with knownCertDigest := known } fetch peerHostname
        peerCertDigest).map (·.attestResult)
      = (oatAttestRequest J settings fetch peerHostname peerCertDigest).map (·.attestResult) := by
  have hask : ∀ sent server,
      (askVerifier J { settings with knownCertDigest := known } fetch peerHostname peerCertDigest
        sent server).map (·.attestResult)
      = (askVerifier J settings fetch peerHostname peerCertDigest sent server).map
        (·.attestResult) := by
    intro sent server
    cases server with
    | none => rfl
    | some server =>
      simp only [askVerifier, requestBody, Settings.getImaLevel]
      split <;> rfl
  simp only [oatAttestRequest, Settings.getNedip]
  split_ifs
  · split
    · rfl
    · exact hask _ _
  · cases getVerfier J fetch (settings.nedip.getD "130.192.1.1".toList) with
    | error fault => rfl
    | ok oatServer => exact hask _ _

/-- With another `known_cert_digest` a request ends the same way, with the same value. -/
lemma oatAttestRequest_withKnown (J : JsonC) (settings : Settings) (fetch : Fetcher)
    (peerHostname peerCertDigest : CStr) (known : Option CStr) :
    (∃ fault fault', oatAttestRequest J settings fetch peerHostname peerCertDigest = .error fault ∧
      oatAttestRequest J { settings with knownCertDigest := known } fetch peerHostname
        peerCertDigest = .error fault') ∨
    ∃ a a', oatAttestRequest J settings fetch peerHostname peerCertDigest = .ok a ∧
      oatAttestRequest J { settings with knownCertDigest := known } fetch peerHostname
        peerCertDigest = .ok a' ∧ a'.attestResult = a.attestResult := by
  have hmap := attestResult_withKnown J settings fetch peerHostname peerCertDigest known
  cases h : oatAttestRequest J settings fetch peerHostname peerCertDigest with
  | error fault =>
    cases h' : oatAttestRequest J { settings with knownCertDigest := known } fetch peerHostname
        peerCertDigest with
    | error fault' => exact Or.inl ⟨fault, fault', rfl, rfl⟩
    | ok a' =>
      rw [h, h'] at hmap
      cases hmap
  | ok a =>
    rw [h] at hmap
    obtain ⟨a', h', heq⟩ := except_map_eq_ok.mp hmap
    exact Or.inr ⟨a, a', rfl, h', heq⟩

lemma oatAttestRequest_sameBut {settings : Settings} {fetch : Fetcher}
    {peerHostname peerCertDigest : CStr} {a : Attestation}
    (h : oatAttestRequest J settings fetch peerHostname peerCertDigest = .ok a) :
    settings.SameBut a.settings := by
  rw [oatAttestRequest_settings h]
  split_ifs
  · exact ⟨_, rfl⟩
  · exact .refl settings

/-- The body of the loop, by the outcome of the round under the settings read at the start. -/
lemma authorizeRound_eq (J : JsonC) (sha1Hex : List Char → CStr) (interval uniqueId : UInt32)
    (round : AuthCfg × RoundEnv) (success : Bool) {settings : Settings} {st : Plugin}
    (hst : settings.SameBut st.settings) :
    (roundOutcome J sha1Hex settings round = .fault ∧
      ∃ fault, authorizeRound J sha1Hex settings.getKnownCertDigest interval uniqueId round st
        success = .error fault) ∨
    (roundOutcome J sha1Hex settings round ≠ .fault ∧
      ∃ st', authorizeRound J sha1Hex settings.getKnownCertDigest interval uniqueId round st success
        = .ok (st', (roundOutcome J sha1Hex settings round).success success) ∧
        settings.SameBut st'.settings) := by
  obtain ⟨cfg, env⟩ := round
  obtain ⟨known, hst⟩ := hst
  cases cfg with
  | none => exact Or.inr ⟨by simp [roundOutcome], st, rfl, known, hst⟩
  | some cert =>
    simp only [roundOutcome, authorizeRound]
    cases extractCommonName cert.subject none with
    | none => exact Or.inl ⟨rfl, _, rfl⟩
    | some data =>
      cases cert.encoding with
      | none => exact Or.inr ⟨by simp, st, rfl, known, hst⟩
      | some encoded =>
        dsimp only
        by_cases hknown : sha1Hex encoded = settings.getKnownCertDigest
        · simp only [if_pos hknown]
          exact Or.inr ⟨by simp, _, rfl, known, hst⟩
        simp only [if_neg hknown]
        cases hfile : env.dataFile with
        | false => exact Or.inl ⟨by simp, .certInfo, by simp [attestRound, updateCertInfo, hfile]⟩
        | true =>
          simp only [attestRound, updateCertInfo, hfile, if_true, hst, not_true_eq_false, if_false]
          rcases oatAttestRequest_withKnown J settings env.fetch (cstr data) (sha1Hex encoded)
            known with ⟨fault, fault', hreq, hreq'⟩ | ⟨a, a', hreq, hreq', hres⟩
          · rw [hreq, hreq']
            exact Or.inl ⟨rfl, _, rfl⟩
          · have hsame : settings.SameBut a'.settings :=
              .trans ⟨known, rfl⟩ (oatAttestRequest_sameBut hreq')
            rw [hreq, hreq']
            dsimp only
            rw [hres]
            right
            split_ifs with h1
            · exact ⟨by simp, _, rfl, hsame⟩
            · exact ⟨by simp, _, rfl, hsame⟩

/-! ### The verdict of the loop -/

/-- The verdict over a list of outcomes, `none` if the loop does not come to its end. -/
def verdictOf (outcomes : List RoundOutcome) (success : Bool) : Option Bool :=
  if .fault ∈ outcomes then none
  else some (outcomes.foldl (fun success outcome => outcome.success success) success)

lemma authorizeRounds_verdict {settings : Settings} {interval uniqueId : UInt32}
    (rounds : List (AuthCfg × RoundEnv)) {st : Plugin} (success : Bool)
    (hst : settings.SameBut st.settings) :
    ((authorizeRounds J sha1Hex settings.getKnownCertDigest interval uniqueId rounds st
        success).toOption.map (·.2))
      = verdictOf (rounds.map (roundOutcome J sha1Hex settings)) success := by
  induction rounds generalizing st success with
  | nil => simp [authorizeRounds, verdictOf, Except.toOption]
  | cons round rest ih =>
    rw [authorizeRounds, List.map_cons]
    rcases authorizeRound_eq J sha1Hex interval uniqueId round success hst with
      ⟨hfault, fault, heq⟩ | ⟨hne, st', heq, hst'⟩
    · rw [heq, hfault]
      simp [verdictOf, Except.toOption]
    · rw [heq]
      dsimp only
      rw [ih _ hst']
      simp only [verdictOf, List.mem_cons, hne.symm, false_or, List.foldl_cons]

/-- Without an attested round the flag only falls, and it falls at the first refusal. -/
lemma foldl_success_of_not_attested {outcomes : List RoundOutcome} (success : Bool)
    (h : .attested ∉ outcomes) :
    outcomes.foldl (fun success outcome => outcome.success success) success
      = (success && decide (.refused ∉ outcomes)) := by
  induction outcomes generalizing success with
  | nil => simp
  | cons o rest ih =>
    rw [List.mem_cons, not_or] at h
    rw [List.foldl_cons, ih _ h.2]
    cases o <;> simp_all [RoundOutcome.success]

lemma foldl_success_of_not_refused {outcomes : List RoundOutcome} (h : .refused ∉ outcomes) :
    outcomes.foldl (fun success outcome => outcome.success success) true = true := by
  induction outcomes with
  | nil => rfl
  | cons o rest ih =>
    rw [List.mem_cons, not_or] at h
    rw [List.foldl_cons]
    cases o <;> simp_all [RoundOutcome.success]

lemma verdictOf_of_fault {outcomes : List RoundOutcome} (h : .fault ∈ outcomes) (success : Bool) :
    verdictOf outcomes success = none :=
  if_pos h

lemma verdictOf_of_not_refused {outcomes : List RoundOutcome} (hfault : .fault ∉ outcomes)
    (h : .refused ∉ outcomes) : verdictOf outcomes true = some true := by
  rw [verdictOf, if_neg hfault, foldl_success_of_not_refused h]

lemma verdictOf_of_not_attested {outcomes : List RoundOutcome} (hfault : .fault ∉ outcomes)
    (h : .attested ∉ outcomes) (hrefused : .refused ∈ outcomes) (success : Bool) :
    verdictOf outcomes success = some false := by
  rw [verdictOf, if_neg hfault, foldl_success_of_not_attested success h]
  simp [hrefused]

/-- The verdict on a list that ends with a round writing the flag is what that round writes. -/
lemma verdictOf_concat {outcomes : List RoundOutcome} {o : RoundOutcome}
    (hfault : .fault ∉ outcomes) (ho : o ≠ .fault) (success : Bool) :
    verdictOf (outcomes ++ [o]) success
      = some (o.success (outcomes.foldl (fun success outcome => outcome.success success)
          success)) := by
  simp [verdictOf, hfault, ho.symm]

/-- The final hook's verdict on an IKE_SA with these rounds, entered with `*success` true. -/
def authorizeVerdict (J : JsonC) (sha1Hex : List Char → CStr) (uniqueId : UInt32) (st : Plugin)
    (rounds : List (AuthCfg × RoundEnv)) : Option Bool :=
  (authorize J sha1Hex uniqueId rounds true st true).toOption.map (·.2)

lemma authorizeVerdict_eq {uniqueId : UInt32} {st : Plugin} {rounds : List (AuthCfg × RoundEnv)}
    (hpeer : st.settings.getAttestPeer = true) :
    authorizeVerdict J sha1Hex uniqueId st rounds
      = verdictOf (rounds.map (roundOutcome J sha1Hex st.settings)) true := by
  rw [authorizeVerdict, authorize]
  simp only [not_true_eq_false, if_false, hpeer]
  exact authorizeRounds_verdict rounds true (.refl st.settings)

lemma exists_perm_concat {α : Type*} {l : List α} {x : α} (h : x ∈ l) :
    ∃ l', l.Perm (l' ++ [x]) ∧ ∀ y ∈ l', y ∈ l := by
  obtain ⟨l₁, l₂, rfl⟩ := List.append_of_mem h
  refine ⟨l₁ ++ l₂, ?_, fun y hy => ?_⟩
  · exact List.perm_middle.trans (List.perm_append_singleton x (l₁ ++ l₂)).symm
  · rcases List.mem_append.mp hy with hy | hy <;> simp [hy]

/-- The hook accepts only peers whose certificates all pass, whatever the order of the rounds,
exactly when every certificate passes, or one is refused and none attested, or the hook does not
return: an attested round wipes out the refusal of an earlier one. -/
theorem authorize_sound_iff (J : JsonC) (sha1Hex : List Char → CStr) (uniqueId : UInt32)
    (st : Plugin) (rounds : List (AuthCfg × RoundEnv))
    (hpeer : st.settings.getAttestPeer = true) :
    ((authorizeVerdict J sha1Hex uniqueId st rounds = some true →
        ∀ r ∈ rounds, (roundOutcome J sha1Hex st.settings r).Passes) ∧
      ∀ rounds', rounds.Perm rounds' →
        authorizeVerdict J sha1Hex uniqueId st rounds'
          = authorizeVerdict J sha1Hex uniqueId st rounds) ↔
    (∀ r ∈ rounds, (roundOutcome J sha1Hex st.settings r).Passes) ∨
      ((∃ r ∈ rounds, roundOutcome J sha1Hex st.settings r = .refused) ∧
        ∀ r ∈ rounds, roundOutcome J sha1Hex st.settings r ≠ .attested) ∨
      ∃ r ∈ rounds, roundOutcome J sha1Hex st.settings r = .fault := by
  simp only [authorizeVerdict_eq hpeer]
  set f := roundOutcome J sha1Hex st.settings
  have hperm : ∀ {rounds'}, rounds.Perm rounds' → ∀ o, o ∈ rounds'.map f ↔ o ∈ rounds.map f :=
    fun h o => (h.map f).mem_iff.symm
  constructor
  · rintro ⟨hsound, horder⟩
    by_contra hcon
    rw [not_or, not_or] at hcon
    obtain ⟨hpass, hrefused, hfault⟩ := hcon
    have hnf : .fault ∉ rounds.map f := fun hmem => hfault (by simpa using hmem)
    by_cases hr : .refused ∈ rounds.map f
    · -- a refused and an attested round: the verdict is that of the one that comes last
      obtain ⟨r, hrmem, hro⟩ := List.mem_map.mp hr
      have : ∃ a ∈ rounds, f a = .attested := by
        by_contra hna
        exact hrefused ⟨⟨r, hrmem, hro⟩, fun a ha hao => hna ⟨a, ha, hao⟩⟩
      obtain ⟨a, hamem, hao⟩ := this
      obtain ⟨lr, hlr, hlrsub⟩ := exists_perm_concat hrmem
      obtain ⟨la, hla, hlasub⟩ := exists_perm_concat hamem
      have hlrf : .fault ∉ lr.map f := fun hmem => hnf (List.map_subset f hlrsub hmem)
      have hlaf : .fault ∉ la.map f := fun hmem => hnf (List.map_subset f hlasub hmem)
      have h1 := horder _ hlr
      have h2 := horder _ hla
      rw [List.map_append, List.map_singleton, hro, verdictOf_concat hlrf (by simp)] at h1
      rw [List.map_append, List.map_singleton, hao, verdictOf_concat hlaf (by simp)] at h2
      simp only [RoundOutcome.success] at h1 h2
      rw [← h2] at h1
      cases h1
    · -- nothing is refused, so the hook accepts, though some round does not pass
      exact hpass (hsound (verdictOf_of_not_refused hnf hr))
  · rintro (hpass | ⟨hrefused, hna⟩ | hfault)
    · have hall : ∀ o ∈ rounds.map f, o.Passes := by
        intro o ho
        obtain ⟨r, hr, rfl⟩ := List.mem_map.mp ho
        exact hpass r hr
      have hnf : .fault ∉ rounds.map f := fun hmem => hall _ hmem
      have hnr : .refused ∉ rounds.map f := fun hmem => hall _ hmem
      refine ⟨fun _ => hpass, fun rounds' h => ?_⟩
      rw [verdictOf_of_not_refused hnf hnr, verdictOf_of_not_refused
        (fun hmem => hnf ((hperm h _).mp hmem)) fun hmem => hnr ((hperm h _).mp hmem)]
    · have hr : .refused ∈ rounds.map f := List.mem_map.mpr hrefused
      have ha : .attested ∉ rounds.map f := by simpa using hna
      by_cases hf : .fault ∈ rounds.map f
      · refine ⟨fun h => ?_, fun rounds' h => ?_⟩
        · rw [verdictOf_of_fault hf] at h
          cases h
        · rw [verdictOf_of_fault hf, verdictOf_of_fault ((hperm h _).mpr hf)]
      · refine ⟨fun h => ?_, fun rounds' h => ?_⟩
        · rw [verdictOf_of_not_attested hf ha hr] at h
          cases h
        · rw [verdictOf_of_not_attested hf ha hr, verdictOf_of_not_attested
            (fun hmem => hf ((hperm h _).mp hmem)) (fun hmem => ha ((hperm h _).mp hmem))
            ((hperm h _).mpr hr)]
    · have hf : .fault ∈ rounds.map f := List.mem_map.mpr hfault
      refine ⟨fun h => ?_, fun rounds' h => ?_⟩
      · rw [verdictOf_of_fault hf] at h
        cases h
      · rw [verdictOf_of_fault hf, verdictOf_of_fault ((hperm h _).mpr hf)]

/-- The entry of the oat-attest listener in the list of the bus. -/
def oatAttestEntry (J : JsonC) (sha1Hex : List Char → CStr) (uniqueId : UInt32)
    (rounds : List (AuthCfg × RoundEnv)) (final : Bool) : Entry Plugin where
  calling := false
  authorize := some fun st success =>
    (authorize J sha1Hex uniqueId rounds final st success).map fun r => (r.1, true, r.2)

/-- The bus authorizes an IKE_SA only on a verdict `TRUE` of the oat-attest listener. -/
lemma authorizeVerdict_of_busAuthorize {uniqueId : UInt32} {rounds : List (AuthCfg × RoundEnv)}
    {entries kept : List (Entry Plugin)} {st st' : Plugin}
    (hentry : oatAttestEntry J sha1Hex uniqueId rounds true ∈ entries)
    (h : busAuthorize entries st true = .ok (kept, st', true)) :
    ∃ st₁, authorizeVerdict J sha1Hex uniqueId st₁ rounds = some true := by
  obtain ⟨st₁, st₂, keep, hcall⟩ := busAuthorize_true h hentry rfl
  obtain ⟨⟨st₃, success⟩, hauth, heq⟩ := except_map_eq_ok.mp hcall
  obtain ⟨-, -, rfl⟩ := by simpa using heq
  exact ⟨st₁, by rw [authorizeVerdict, hauth]; rfl⟩

/-! ### Rounds of two peers -/

/-- The SHA-1 digests of the two encodings below. -/
def sampleSha1Hex (encoded : List Char) : CStr :=
  if encoded = "ned certificate".toList then "027e5cbb0e2f3d0a36156bc97ac67a0e5523f923".toList
  else if encoded = "mallory certificate".toList then
    "70d2cba2830726df12c2ff7c0dc479f9c957a493".toList
  else []

/-- A certificate of the host `ned` with a given encoding. -/
def nedCertificate (encoding : String) : Certificate where
  subject := [(.other, "strongSwan".toList), (.rdnCN, "ned".toList)]
  encoding := some encoding.toList

/-- A round in which the verifier answers with the given text. -/
def RoundEnv.always (text : String) : RoundEnv := ⟨.always text, true⟩

/-- A plugin that has received no verdict yet. -/
def Plugin.fresh (settings : Settings) : Plugin where
  settings := settings
  currentId := 0
  certInfo := none
  monitors := []
  verdicts := []
  attestations := []

/-- A refused certificate followed by an attested one: the hook leaves `*success` true. -/
theorem authorize_accepts_refused_certificate :
    ¬ ∀ (J : JsonC) (sha1Hex : List Char → CStr) (uniqueId : UInt32) (st : Plugin)
        (rounds : List (AuthCfg × RoundEnv)), st.settings.getAttestPeer = true →
        authorizeVerdict J sha1Hex uniqueId st rounds = some true →
        ∀ r ∈ rounds, (roundOutcome J sha1Hex st.settings r).Passes := by
  intro h
  have hpass := h resultsJsonC sampleSha1Hex 1 (.fresh .withServer)
    [(some (nedCertificate "mallory certificate"), .always untrustedText),
      (some (nedCertificate "ned certificate"), .always trustedText)]
    rfl (by decide +kernel) _ List.mem_cons_self
  have hrefused : roundOutcome resultsJsonC sampleSha1Hex .withServer
      (some (nedCertificate "mallory certificate"), .always untrustedText) = .refused := by
    decide +kernel
  rw [Plugin.fresh, hrefused] at hpass
  exact hpass

/-- The condition holds of a single attested certificate. -/
theorem authorize_sound_ned :
    authorizeVerdict resultsJsonC sampleSha1Hex 1 (.fresh .withServer)
        [(some (nedCertificate "ned certificate"), .always trustedText)] = some true ∧
      ∀ r ∈ [(some (nedCertificate "ned certificate"), RoundEnv.always trustedText)],
        (roundOutcome resultsJsonC sampleSha1Hex Settings.withServer r).Passes := by
  have hattested : roundOutcome resultsJsonC sampleSha1Hex .withServer
      (some (nedCertificate "ned certificate"), .always trustedText) = .attested := by
    decide +kernel
  have hverdict : authorizeVerdict resultsJsonC sampleSha1Hex 1 (.fresh .withServer)
      [(some (nedCertificate "ned certificate"), .always trustedText)] = some true := by
    decide +kernel
  have hpass : ∀ r ∈ [(some (nedCertificate "ned certificate"), RoundEnv.always trustedText)],
      (roundOutcome resultsJsonC sampleSha1Hex (Plugin.fresh .withServer).settings r).Passes := by
    intro r hr
    rw [List.mem_singleton.mp hr, Plugin.fresh, hattested]
    trivial
  exact ⟨hverdict, ((authorize_sound_iff resultsJsonC sampleSha1Hex 1 (.fresh .withServer) _
    rfl).mpr (Or.inl hpass)).1 hverdict⟩

end SecuredApp
