import SecuredApp.Attest.Request

/-!
# Whose results decide

The loop over the results passes over the entries of other hosts and ends at the first one of the
peer. Names and levels are compared as C strings: of a text with a NUL only what stands before it
counts.
-/

namespace SecuredApp

open SecuredApp.Core

variable {J : JsonC} {settings : Settings} {fetch : Fetcher} {peerHostname peerCertDigest : CStr}

/-! ### What the results say -/

/-- The host name and the trust level of the entry are texts. -/
def HasTexts (e : Json) : Prop :=
  ∃ host level, e.objectGetEx "host_name" = .str host ∧ e.objectGetEx "trust_lvl" = .str level

/-- The entry is about the peer. -/
def ofPeer (peerHostname : CStr) (e : Json) : Bool :=
  match e.objectGetEx "host_name" with
  | .str host => cstr host.toList = peerHostname
  | _ => false

/-- The value a trust level stands for. -/
def levelResult (level : CStr) : Int :=
  if level = "trusted".toList then 1 else if level = "untrusted".toList then -1 else 0

/-- The value an entry stands for. -/
def entryResult (e : Json) : Int :=
  match e.objectGetEx "trust_lvl" with
  | .str level => levelResult (cstr level.toList)
  | _ => 0

/-- The value of the first entry about the peer, and 0 if there is none. -/
def peerResult (peerHostname : CStr) (entries : List Json) : Int :=
  (entries.find? (ofPeer peerHostname)).elim 0 entryResult

lemma levelResult_eq_one_iff {level : CStr} :
    levelResult level = 1 ↔ level = "trusted".toList := by
  rw [levelResult]
  split_ifs <;> simp_all

lemma levelResult_eq_neg_one_iff {level : CStr} :
    levelResult level = -1 ↔ level = "untrusted".toList := by
  rw [levelResult]
  split_ifs <;> simp_all

lemma ofPeer_of_str {e : Json} {host : String} (h : e.objectGetEx "host_name" = .str host) :
    ofPeer peerHostname e = decide (cstr host.toList = peerHostname) := by
  rw [ofPeer, h]

lemma entryResult_of_str {e : Json} {level : String} (h : e.objectGetEx "trust_lvl" = .str level) :
    entryResult e = levelResult (cstr level.toList) := by
  rw [entryResult, h]

/-- Only the entries about the peer count. -/
lemma peerResult_congr {entries entries' : List Json}
    (h : entries'.filter (ofPeer peerHostname) = entries.filter (ofPeer peerHostname)) :
    peerResult peerHostname entries' = peerResult peerHostname entries := by
  rw [peerResult, peerResult, ← List.head?_filter, ← List.head?_filter, h]

/-! ### The loop -/

/-- The loop ends at an entry about the peer with the value of its level. -/
lemma resultsLoop_peer {e : Json} {level : String} (entries : List Json)
    (hhost : J.getCStr (e.objectGetEx "host_name") = some peerHostname)
    (hlevel : e.objectGetEx "trust_lvl" = .str level) :
    resultsLoop J peerHostname (e :: entries)
      = .ok (levelResult (cstr level.toList), some (cstr level.toList)) := by
  rw [resultsLoop, hhost, hlevel, JsonC.getCStr_str, levelResult]
  simp only [if_true]
  split_ifs <;> rfl

/-- Over entries with texts the loop finds the value of the first one about the peer. -/
lemma resultsLoop_eq_peerResult {entries : List Json} (h : ∀ e ∈ entries, HasTexts e) :
    ∃ level, resultsLoop J peerHostname entries = .ok (peerResult peerHostname entries, level) := by
  induction entries with
  | nil => exact ⟨none, rfl⟩
  | cons e entries ih =>
    obtain ⟨host, level, hhost, hlevel⟩ := h e List.mem_cons_self
    have hcstr : J.getCStr (e.objectGetEx "host_name") = some (cstr host.toList) := by
      rw [hhost, JsonC.getCStr_str]
    rw [peerResult, List.find?_cons, ofPeer_of_str hhost]
    by_cases hpeer : cstr host.toList = peerHostname
    · refine ⟨some (cstr level.toList), ?_⟩
      rw [resultsLoop_peer entries (hpeer ▸ hcstr) hlevel, decide_eq_true hpeer]
      simp only [Option.elim_some, entryResult_of_str hlevel]
    · -- the entry is about another host
      obtain ⟨level', hloop⟩ := ih fun e' he' => h e' (List.mem_cons_of_mem e he')
      refine ⟨level', ?_⟩
      have hpass : resultsLoop J peerHostname ([e] ++ entries)
          = resultsLoop J peerHostname entries := by
        refine resultsLoop_append [e] entries fun x hx => ?_
        obtain rfl := List.mem_singleton.mp hx
        exact ⟨_, hcstr, hpeer⟩
      rw [List.singleton_append] at hpass
      rw [hpass, hloop, decide_eq_false hpeer, peerResult]

/-! ### The call -/

/-- The verifier a call asks: the configured one, or the one the NED names. -/
def Settings.AsksVerifier (settings : Settings) (J : JsonC) (fetch : Fetcher) (server : CStr) :
    Prop :=
  if settings.useLocalVerifier.getD true then settings.oatServer = some server
  else NamesVerifier J (nedAnswer J fetch settings.getNedip) server

/-- The verifier a call asks answers with these results, which have texts. -/
structure GetsResults (J : JsonC) (settings : Settings) (fetch : Fetcher)
    (peerHostname peerCertDigest : CStr) (entries : List Json) : Prop where
  answered : ∃ server, settings.AsksVerifier J fetch server ∧
    (verifierAnswer settings fetch peerHostname peerCertDigest server).status = .success ∧
    (J.tokenerParse (verifierAnswer settings fetch peerHostname peerCertDigest server).response
      ).objectGetEx "results" = .arr entries
  texts : ∀ e ∈ entries, HasTexts e

lemma readResponse_of_results {result : FetchResult} {entries : List Json}
    (hstatus : result.status = .success)
    (hresults : (J.tokenerParse result.response).objectGetEx "results" = .arr entries) :
    readResponse J peerHostname result = resultsLoop J peerHostname entries := by
  rw [readResponse, if_neg (not_not_intro hstatus), hresults]
  rfl

lemma oatAttestRequest_of_asks {server : CStr} {r : Int × Option CStr}
    (hasks : settings.AsksVerifier J fetch server)
    (hread : readResponse J peerHostname
      (verifierAnswer settings fetch peerHostname peerCertDigest server) = .ok r) :
    ∃ sent, oatAttestRequest J settings fetch peerHostname peerCertDigest
      = .ok (attestOut settings peerHostname peerCertDigest sent r) := by
  have hask : ∀ sent, ∃ sent', askVerifier J settings fetch peerHostname peerCertDigest sent
      (some server) = .ok (attestOut settings peerHostname peerCertDigest sent' r) := by
    intro sent
    rw [verifierAnswer] at hread
    simp only [askVerifier, hread]
    exact ⟨_, rfl⟩
  rw [Settings.AsksVerifier] at hasks
  rw [oatAttestRequest]
  split_ifs at hasks ⊢
  · rw [hasks]
    exact hask []
  · rw [getVerfier_eq_some_iff.mpr hasks]
    exact hask _

/-- For every answer whose results have texts, the call returns the value of the first entry about
the peer, which no entry of another host changes, and the digest becomes the known one exactly
with the value 1. -/
theorem first_entry_decides (J : JsonC) (settings : Settings) (fetch : Fetcher)
    (peerHostname peerCertDigest : CStr) (entries : List Json)
    (h : GetsResults J settings fetch peerHostname peerCertDigest entries) :
    ∃ a, oatAttestRequest J settings fetch peerHostname peerCertDigest = .ok a ∧
      a.attestResult = peerResult peerHostname entries ∧
      (a.settings = if a.attestResult = 1 then
        { settings with knownCertDigest := some peerCertDigest } else settings) ∧
      ∀ settings' fetch' peerCertDigest' entries',
        GetsResults J settings' fetch' peerHostname peerCertDigest' entries' →
        entries'.filter (ofPeer peerHostname) = entries.filter (ofPeer peerHostname) →
        ∃ a', oatAttestRequest J settings' fetch' peerHostname peerCertDigest' = .ok a' ∧
          a'.attestResult = a.attestResult := by
  have hvalue : ∀ {settings fetch peerCertDigest entries},
      GetsResults J settings fetch peerHostname peerCertDigest entries →
      ∃ a, oatAttestRequest J settings fetch peerHostname peerCertDigest = .ok a ∧
        a.attestResult = peerResult peerHostname entries := by
    intro settings fetch peerCertDigest entries h
    obtain ⟨server, hasks, hstatus, hresults⟩ := h.answered
    obtain ⟨level, hloop⟩ := resultsLoop_eq_peerResult (J := J) h.texts
    obtain ⟨sent, hsent⟩ := oatAttestRequest_of_asks hasks
      ((readResponse_of_results hstatus hresults).trans hloop)
    exact ⟨_, hsent, rfl⟩
  obtain ⟨a, ha, hresult⟩ := hvalue h
  refine ⟨a, ha, hresult, oatAttestRequest_settings ha, ?_⟩
  intro settings' fetch' peerCertDigest' entries' h' hsame
  obtain ⟨a', ha', hresult'⟩ := hvalue h'
  refine ⟨a', ha', ?_⟩
  rw [hresult', hresult, peerResult_congr hsame]

theorem first_entry_decides_ned :
    ∃ a, oatAttestRequest resultsJsonC .withServer (.always trustedText) "ned".toList nedDigest
        = .ok a ∧ a.attestResult = 1 ∧ a.settings.knownCertDigest = some nedDigest := by
  have hresults : GetsResults resultsJsonC .withServer (.always trustedText) "ned".toList nedDigest
      [.obj [("host_name", .str "ned"), ("trust_lvl", .str "trusted")]] := by
    refine ⟨⟨"verifier".toList, rfl, rfl, rfl⟩, ?_⟩
    intro e he
    obtain rfl := List.mem_singleton.mp he
    exact ⟨"ned", "trusted", by simp [Json.objectGetEx, List.lookup_cons]⟩
  obtain ⟨a, ha, hresult, hsettings, -⟩ := first_entry_decides _ _ _ _ _ _ hresults
  have hone : a.attestResult = 1 := by
    rw [hresult]
    decide
  rw [hone, if_pos rfl] at hsettings
  exact ⟨a, ha, hone, by rw [hsettings]⟩

/-- An answer about a host whose name begins with the peer's and a NUL. -/
def nulText : String :=
  "\x7b\"results\":[\x7b\"host_name\":\"ned\\u0000x\",\"trust_lvl\":\"trusted\"\x7d]\x7d"

def nulJsonC : JsonC := .ofTable [(nulText.toList, resultsJson "ned\x00x" "trusted")]

/-- The peer `ned` is trusted for the entry of a host of another name. -/
theorem nul_host_trusted :
    (∃ e, (nulJsonC.tokenerParse nulText.toList).objectGetEx "results" = .arr [e] ∧
      e.objectGetEx "host_name" = .str "ned\x00x") ∧
    "ned\x00x" ≠ "ned" ∧
    (oatAttestRequest nulJsonC .withServer (.always nulText) "ned".toList nedDigest).toOption.map
      (·.attestResult) = some 1 := by
  refine ⟨⟨_, rfl, rfl⟩, ?_, ?_⟩
  · decide
  · decide +kernel

end SecuredApp
