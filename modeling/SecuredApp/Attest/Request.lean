import Mathlib.Data.List.Induction
import SecuredApp.Attest.Basic

namespace SecuredApp

open SecuredApp.Core

variable {J : JsonC} {settings : Settings} {fetch : Fetcher} {peerHostname peerCertDigest : CStr}

/-! ### The loop over the results -/

/-- The loop passes over the entries of other hosts. -/
lemma resultsLoop_append (pre entries : List Json)
    (hpre : ∀ e ∈ pre, ∃ h, J.getCStr (e.objectGetEx "host_name") = some h ∧ h ≠ peerHostname) :
    resultsLoop J peerHostname (pre ++ entries) = resultsLoop J peerHostname entries := by
  induction pre with
  | nil => rfl
  | cons e pre ih =>
    obtain ⟨h, hh, hne⟩ := hpre e List.mem_cons_self
    rw [List.cons_append, resultsLoop, hh]
    simp only [if_neg hne]
    exact ih fun e' he' => hpre e' (List.mem_cons_of_mem _ he')

/-- An entry is read without fault: it names its host and, being the peer's, a trust level. -/
def EntryReadable (J : JsonC) (peerHostname : CStr) (e : Json) : Prop :=
  e.objectGetEx "host_name" ≠ .null ∧
    (J.getCStr (e.objectGetEx "host_name") = some peerHostname → e.objectGetEx "trust_lvl" ≠ .null)

/-- Every entry up to and including the first one of the peer is readable. -/
def EntriesReadable (J : JsonC) (peerHostname : CStr) (entries : List Json) : Prop :=
  ∀ pre e post, entries = pre ++ e :: post →
    (∀ x ∈ pre, J.getCStr (x.objectGetEx "host_name") ≠ some peerHostname) →
    EntryReadable J peerHostname e

lemma entriesReadable_nil : EntriesReadable J peerHostname [] := by
  intro pre e post h
  simp at h

lemma entriesReadable_cons {e : Json} {entries : List Json} :
    EntriesReadable J peerHostname (e :: entries) ↔
      EntryReadable J peerHostname e ∧
        (J.getCStr (e.objectGetEx "host_name") ≠ some peerHostname →
          EntriesReadable J peerHostname entries) := by
  constructor
  · intro h
    refine ⟨h [] e entries rfl (by simp), fun hne pre e' post heq hpre => ?_⟩
    refine h (e :: pre) e' post (by rw [heq, List.cons_append]) fun x hx => ?_
    rcases List.mem_cons.mp hx with rfl | hx
    · exact hne
    · exact hpre x hx
  · rintro ⟨he, hrest⟩ pre e' post heq hpre
    cases pre with
    | nil =>
      obtain ⟨rfl, rfl⟩ := List.cons.inj heq
      exact he
    | cons x pre =>
      obtain ⟨rfl, rfl⟩ := List.cons.inj heq
      exact hrest (hpre e List.mem_cons_self) pre e' post rfl
        fun y hy => hpre y (List.mem_cons_of_mem _ hy)

/-- The loop runs without fault exactly over readable entries. -/
lemma resultsLoop_ok_iff {entries : List Json} :
    (∃ r, resultsLoop J peerHostname entries = .ok r) ↔ EntriesReadable J peerHostname entries := by
  induction entries with
  | nil => simp [resultsLoop, entriesReadable_nil]
  | cons e entries ih =>
    rw [entriesReadable_cons, EntryReadable, resultsLoop]
    cases hh : J.getCStr (e.objectGetEx "host_name") with
    | none =>
      have : e.objectGetEx "host_name" = .null := J.getCStr_eq_none_iff.mp hh
      simp [this]
    | some h =>
      have hnn : e.objectGetEx "host_name" ≠ .null := J.exists_getCStr_iff.mp ⟨h, hh⟩
      by_cases heq : h = peerHostname
      · cases ht : J.getCStr (e.objectGetEx "trust_lvl") with
        | none =>
          have : e.objectGetEx "trust_lvl" = .null := J.getCStr_eq_none_iff.mp ht
          simp [heq, this]
        | some t =>
          have htn : e.objectGetEx "trust_lvl" ≠ .null := J.exists_getCStr_iff.mp ⟨t, ht⟩
          simp only [heq, if_true]
          split_ifs <;> simp [hnn, htn]
      · simp [heq, hnn, ih]

/-! ### Answers that are read without fault -/

/-- The NED's answer lists verifiers, each with an address. -/
def VerifiersReadable (answer : Json) : Prop :=
  ∃ entries, answer.objectGetEx "verifiers" = .arr entries ∧
    ∀ e ∈ entries, e.objectGetEx "ip" ≠ .null

/-- The NED's answer lists verifiers, each with an address, and the last address is `server`. -/
def NamesVerifier (J : JsonC) (answer : Json) (server : CStr) : Prop :=
  ∃ entries last, answer.objectGetEx "verifiers" = .arr (entries ++ [last]) ∧
    (∀ e ∈ entries, e.objectGetEx "ip" ≠ .null) ∧ J.getCStr (last.objectGetEx "ip") = some server

/-- The verifier's answer, if there is one, has a `results` array readable for the peer. -/
def ResultReadable (J : JsonC) (peerHostname : CStr) (result : FetchResult) : Prop :=
  result.status = .success →
    ∃ entries, (J.tokenerParse result.response).objectGetEx "results" = .arr entries ∧
      EntriesReadable J peerHostname entries

/-- What the verifier at `server` answers to the request of a call. -/
def verifierAnswer (settings : Settings) (fetch : Fetcher) (peerHostname peerCertDigest : CStr)
    (server : CStr) : FetchResult :=
  fetch (verifierRequest settings.requestId server
    (requestBody settings peerHostname peerCertDigest))

/-- What the NED answers to the question of a call. -/
def nedAnswer (J : JsonC) (fetch : Fetcher) (nedip : CStr) : Json :=
  J.tokenerParse (fetch (verifiersRequest nedip)).response

/-- Every answer a call of `oat_attest_request` parses is readable, and there is a verifier to
ask: the configured one (a call without it ends at once) or the one the NED names. -/
def AnswersReadable (J : JsonC) (settings : Settings) (fetch : Fetcher)
    (peerHostname peerCertDigest : CStr) : Prop :=
  if settings.useLocalVerifier.getD true then
    ∀ server, settings.oatServer = some server →
      ResultReadable J peerHostname
        (verifierAnswer settings fetch peerHostname peerCertDigest server)
  else
    ∃ server, NamesVerifier J (nedAnswer J fetch settings.getNedip) server ∧
      ResultReadable J peerHostname
        (verifierAnswer settings fetch peerHostname peerCertDigest server)

lemma verfierLoop_ok_iff {entries : List Json} {ipAddr : Option CStr} :
    (∃ r, verfierLoop J entries ipAddr = .ok r) ↔ ∀ e ∈ entries, e.objectGetEx "ip" ≠ .null := by
  induction entries generalizing ipAddr with
  | nil => simp [verfierLoop]
  | cons e entries ih =>
    rw [verfierLoop, List.forall_mem_cons]
    cases he : J.getCStr (e.objectGetEx "ip") with
    | none =>
      have : e.objectGetEx "ip" = .null := J.getCStr_eq_none_iff.mp he
      simp [this]
    | some ip =>
      have hnn : e.objectGetEx "ip" ≠ .null := J.exists_getCStr_iff.mp ⟨ip, he⟩
      simp only [ih]
      exact (and_iff_right hnn).symm

/-- The loop leaves the address of the last entry. -/
lemma verfierLoop_concat_iff {entries : List Json} {last : Json} {ipAddr : Option CStr}
    {server : CStr} :
    verfierLoop J (entries ++ [last]) ipAddr = .ok (some server) ↔
      (∀ e ∈ entries, e.objectGetEx "ip" ≠ .null) ∧
        J.getCStr (last.objectGetEx "ip") = some server := by
  induction entries generalizing ipAddr with
  | nil =>
    rw [List.nil_append, verfierLoop]
    cases J.getCStr (last.objectGetEx "ip") <;> simp [verfierLoop]
  | cons e entries ih =>
    rw [List.cons_append, verfierLoop, List.forall_mem_cons]
    cases he : J.getCStr (e.objectGetEx "ip") with
    | none =>
      have : e.objectGetEx "ip" = .null := J.getCStr_eq_none_iff.mp he
      simp [this]
    | some ip =>
      have hnn : e.objectGetEx "ip" ≠ .null := J.exists_getCStr_iff.mp ⟨ip, he⟩
      simp only [ih, hnn, not_false_eq_true, true_and, ne_eq]

lemma getVerfier_ok_iff {nedip : CStr} :
    (∃ r, getVerfier J fetch nedip = .ok r) ↔ VerifiersReadable (nedAnswer J fetch nedip) := by
  rw [getVerfier, VerifiersReadable, nedAnswer]
  cases h : ((J.tokenerParse (fetch (verifiersRequest nedip)).response).objectGetEx
      "verifiers").elems? with
  | none =>
    simp only [reduceCtorEq, exists_false, false_iff]
    rintro ⟨entries, harr, -⟩
    rw [Json.elems?_eq_some_iff.mpr harr] at h
    cases h
  | some entries =>
    rw [Json.elems?_eq_some_iff.mp h]
    simp [verfierLoop_ok_iff]

/-- The verifier a NED names is the one `getVerfier` hands back. -/
lemma getVerfier_eq_some_iff {nedip server : CStr} :
    getVerfier J fetch nedip = .ok (some server) ↔
      NamesVerifier J (nedAnswer J fetch nedip) server := by
  rw [getVerfier, NamesVerifier, nedAnswer]
  cases h : ((J.tokenerParse (fetch (verifiersRequest nedip)).response).objectGetEx
      "verifiers").elems? with
  | none =>
    simp only [reduceCtorEq, false_iff]
    rintro ⟨entries, last, harr, -⟩
    rw [Json.elems?_eq_some_iff.mpr harr] at h
    cases h
  | some entries =>
    rw [Json.elems?_eq_some_iff.mp h]
    simp only [Json.arr.injEq]
    cases entries using List.reverseRecOn with
    | nil => simp [verfierLoop]
    | append_singleton entries last =>
      rw [verfierLoop_concat_iff]
      constructor
      · rintro ⟨hall, hlast⟩
        exact ⟨entries, last, rfl, hall, hlast⟩
      · rintro ⟨entries', last', heq, hall, hlast⟩
        obtain ⟨rfl, hl⟩ := List.append_inj' heq rfl
        obtain ⟨rfl, -⟩ := List.cons.inj hl
        exact ⟨hall, hlast⟩

lemma readResponse_ok_iff {result : FetchResult} :
    (∃ r, readResponse J peerHostname result = .ok r) ↔ ResultReadable J peerHostname result := by
  rw [readResponse, ResultReadable]
  by_cases hs : result.status = .success
  · simp only [hs, ne_eq, not_true_eq_false, if_false, true_imp_iff]
    cases h : ((J.tokenerParse result.response).objectGetEx "results").elems? with
    | none =>
      simp only [reduceCtorEq, exists_false, false_iff]
      rintro ⟨entries, harr, -⟩
      rw [Json.elems?_eq_some_iff.mpr harr] at h
      cases h
    | some entries =>
      rw [Json.elems?_eq_some_iff.mp h]
      simp only [Json.arr.injEq, exists_eq_left']
      exact resultsLoop_ok_iff
  · simp [hs]

lemma askVerifier_none {sent : List FetchRequest} :
    askVerifier J settings fetch peerHostname peerCertDigest sent none = .error .urlFormat := rfl

lemma askVerifier_some_ok_iff {sent : List FetchRequest} {server : CStr} :
    (∃ a, askVerifier J settings fetch peerHostname peerCertDigest sent (some server) = .ok a) ↔
      ResultReadable J peerHostname
        (verifierAnswer settings fetch peerHostname peerCertDigest server) := by
  rw [← readResponse_ok_iff, askVerifier, verifierAnswer]
  cases readResponse J peerHostname (fetch (verifierRequest settings.requestId server
    (requestBody settings peerHostname peerCertDigest))) <;> simp

lemma oatAttestRequest_ok_iff :
    (∃ a, oatAttestRequest J settings fetch peerHostname peerCertDigest = .ok a) ↔
      AnswersReadable J settings fetch peerHostname peerCertDigest := by
  rw [oatAttestRequest, AnswersReadable]
  split_ifs with hlocal
  · cases hserver : settings.oatServer with
    | none => simp
    | some server => simp [askVerifier_some_ok_iff]
  · simp only [← getVerfier_eq_some_iff]
    cases hv : getVerfier J fetch settings.getNedip with
    | error fault => simp
    | ok oatServer =>
      cases oatServer with
      | none => simp [askVerifier_none]
      | some server => simp [askVerifier_some_ok_iff]

/-- `oat_attest_request` and `getVerfier` finish normally exactly on readable answers. -/
theorem attestation_finishes_iff (J : JsonC) (settings : Settings) (fetch : Fetcher)
    (peerHostname peerCertDigest nedip : CStr) :
    ((∃ a, oatAttestRequest J settings fetch peerHostname peerCertDigest = .ok a) ↔
        AnswersReadable J settings fetch peerHostname peerCertDigest) ∧
      ((∃ r, getVerfier J fetch nedip = .ok r) ↔ VerifiersReadable (nedAnswer J fetch nedip)) :=
  ⟨oatAttestRequest_ok_iff, getVerfier_ok_iff⟩

/-- The settings of a plugin that asks the verifier `verifier`, all else left unset. -/
def Settings.withServer : Settings where
  attestPeer := some true
  knownCertDigest := none
  attestInterval := none
  imaLevel := none
  useLocalVerifier := none
  nedip := none
  oatServer := some "verifier".toList
  requestId := none

/-- A fetcher that answers every request with one text. -/
def Fetcher.always (text : String) : Fetcher := fun _ => ⟨.success, text.toList, by simp⟩

/-- The JSON text `{}` has no `results`, and the length of `NULL` is asked for. -/
theorem attestation_faults_on_empty_object :
    ¬ ((∀ J settings fetch peerHostname peerCertDigest,
          ∃ a, oatAttestRequest J settings fetch peerHostname peerCertDigest = .ok a) ∧
        ∀ J fetch nedip, ∃ r, getVerfier J fetch nedip = .ok r) := by
  rintro ⟨h, -⟩
  set J := JsonC.ofTable [("\x7b\x7d".toList, .obj [])] with hJ
  obtain ⟨a, ha⟩ := h J .withServer (.always "\x7b\x7d") [] []
  have hfault : oatAttestRequest J .withServer (.always "\x7b\x7d") [] []
      = .error .arrayLength := rfl
  rw [hfault] at ha
  cases ha

/-! ### What a call leaves -/

/-- What a call that returns has done: it ends at once where no verifier is configured, else
the last request it sent went to a verifier and the value is read from the answer to it. -/
lemma oatAttestRequest_eq_ok {a : Attestation}
    (h : oatAttestRequest J settings fetch peerHostname peerCertDigest = .ok a) :
    a = attestOut settings peerHostname peerCertDigest [] (0, none) ∨
      ∃ sent server r,
        (∀ q ∈ sent, q = verifiersRequest settings.getNedip) ∧
        readResponse J peerHostname
          (verifierAnswer settings fetch peerHostname peerCertDigest server) = .ok r ∧
        a = attestOut settings peerHostname peerCertDigest
          (sent ++ [verifierRequest settings.requestId server
            (requestBody settings peerHostname peerCertDigest)]) r := by
  have hask : ∀ sent server, askVerifier J settings fetch peerHostname peerCertDigest sent
      server = .ok a → ∃ server' r, readResponse J peerHostname
        (verifierAnswer settings fetch peerHostname peerCertDigest server') = .ok r ∧
        a = attestOut settings peerHostname peerCertDigest
          (sent ++ [verifierRequest settings.requestId server'
            (requestBody settings peerHostname peerCertDigest)]) r := by
    intro sent server hs
    cases server with
    | none => cases hs
    | some server =>
      rw [askVerifier] at hs
      cases hr : readResponse J peerHostname (fetch (verifierRequest settings.requestId server
          (requestBody settings peerHostname peerCertDigest))) with
      | error fault => simp [hr] at hs
      | ok r =>
        simp only [hr, Except.ok.injEq] at hs
        exact ⟨server, r, hr, hs.symm⟩
  rw [oatAttestRequest] at h
  split_ifs at h with hlocal
  · cases hserver : settings.oatServer with
    | none =>
      simp only [hserver, Except.ok.injEq] at h
      exact Or.inl h.symm
    | some server =>
      rw [hserver] at h
      obtain ⟨server', r, hr, ha⟩ := hask _ _ h
      exact Or.inr ⟨[], server', r, by simp, hr, ha⟩
  · cases hv : getVerfier J fetch settings.getNedip with
    | error fault =>
      rw [hv] at h
      cases h
    | ok oatServer =>
      rw [hv] at h
      obtain ⟨server', r, hr, ha⟩ := hask _ _ h
      exact Or.inr ⟨_, server', r, by simp, hr, ha⟩

lemma resultsLoop_result {entries : List Json} {r : Int × Option CStr}
    (h : resultsLoop J peerHostname entries = .ok r) : r.1 = 1 ∨ r.1 = -1 ∨ r.1 = 0 := by
  induction entries with
  | nil =>
    cases h
    simp
  | cons e entries ih =>
    rw [resultsLoop] at h
    split at h
    · cases h
    · split_ifs at h with heq
      · split at h
        · cases h
        · split_ifs at h <;> cases h <;> simp
      · exact ih h

lemma readResponse_result {result : FetchResult} {r : Int × Option CStr}
    (h : readResponse J peerHostname result = .ok r) : r.1 = 1 ∨ r.1 = -1 ∨ r.1 = 0 := by
  rw [readResponse] at h
  split_ifs at h
  · cases h
    simp
  · split at h
    · cases h
    · exact resultsLoop_result h

/-- The three values of `oat_attest_request`. -/
lemma oatAttestRequest_result {a : Attestation}
    (h : oatAttestRequest J settings fetch peerHostname peerCertDigest = .ok a) :
    a.attestResult = 1 ∨ a.attestResult = -1 ∨ a.attestResult = 0 := by
  rcases oatAttestRequest_eq_ok h with rfl | ⟨sent, server, r, -, hr, rfl⟩
  · simp [attestOut]
  · exact readResponse_result hr

/-- The digest becomes the known one exactly with the value 1; no other setting changes. -/
lemma oatAttestRequest_settings {a : Attestation}
    (h : oatAttestRequest J settings fetch peerHostname peerCertDigest = .ok a) :
    a.settings = if a.attestResult = 1 then
      { settings with knownCertDigest := some peerCertDigest } else settings := by
  rcases oatAttestRequest_eq_ok h with rfl | ⟨sent, server, r, -, -, rfl⟩ <;> rfl

/-! ### What the request says -/

/-- The body of the request asks about the host. -/
def FetchRequest.NamesHost (request : FetchRequest) (host : CStr) : Prop :=
  ∃ body, request.data = some body ∧
    body.objectGetEx "hosts" = .arr [.str (String.ofList host)]

/-- The analysis the body asks for contains the digest. -/
def FetchRequest.CarriesDigest (request : FetchRequest) (digest : CStr) : Prop :=
  ∃ body text, request.data = some body ∧ body.objectGetEx "analysisType" = .str text ∧
    digest <:+: text.toList

@[simp] lemma jrequest_hosts (userReqs : CStr) :
    (jrequest peerHostname userReqs).objectGetEx "hosts"
      = .arr [.str (String.ofList peerHostname)] := by
  simp [jrequest, Json.objectGetEx]

@[simp] lemma jrequest_analysisType (userReqs : CStr) :
    (jrequest peerHostname userReqs).objectGetEx "analysisType"
      = .str (String.ofList userReqs) := by
  simp [jrequest, Json.objectGetEx, List.lookup_cons]

lemma length_userReqsText (imaLevel : CStr) :
    (userReqsText imaLevel peerCertDigest).length
      = 43 + imaLevel.length + peerCertDigest.length := by
  have h1 : levelPrefix.length = 27 := by decide
  have h2 : digestPrefix.length = 16 := by decide
  simp only [userReqsText, List.length_append, h1, h2]
  omega

/-- An analysis text with a 40-digit digest and a level of at most 172 bytes fits the buffer. -/
lemma snprintf_userReqsText {imaLevel : CStr} (hdigest : peerCertDigest.length = 40)
    (hima : imaLevel.length ≤ 172) :
    snprintf maxBufLen (userReqsText imaLevel peerCertDigest)
      = userReqsText imaLevel peerCertDigest := by
  apply snprintf_eq_self
  rw [length_userReqsText, maxBufLen]
  omega

/-- Without a `request_id` and with a level of at most 172 bytes, a call that returns 1 has sent
the verifier, as its last request, one that names the peer and carries its whole digest. -/
theorem trusted_request_carries_digest (J : JsonC) (settings : Settings) (fetch : Fetcher)
    (peerHostname peerCertDigest : CStr) (a : Attestation)
    (hdigest : peerCertDigest.length = 40) (hid : settings.requestId = none)
    (hima : settings.getImaLevel.length ≤ 172)
    (h : oatAttestRequest J settings fetch peerHostname peerCertDigest = .ok a)
    (htrusted : a.attestResult = 1) :
    ∃ sent request, a.sent = sent ++ [request] ∧
      (∀ q ∈ sent, q = verifiersRequest settings.getNedip) ∧
      request.NamesHost peerHostname ∧ request.CarriesDigest peerCertDigest := by
  rcases oatAttestRequest_eq_ok h with rfl | ⟨sent, server, r, hsent, -, rfl⟩
  · -- a call that found no verifier has the value 0
    cases htrusted
  · have hbody : (verifierRequest settings.requestId server
        (requestBody settings peerHostname peerCertDigest)).data
          = some (jrequest peerHostname (snprintf maxBufLen
              (userReqsText settings.getImaLevel peerCertDigest))) := by
      rw [hid, verifierRequest, requestBody]
    refine ⟨sent, _, rfl, hsent, ⟨_, hbody, jrequest_hosts _⟩,
      ⟨_, _, hbody, jrequest_analysisType _, ?_⟩⟩
    rw [String.toList_ofList, snprintf_userReqsText hdigest hima, userReqsText]
    exact List.infix_append_right

/-- The verifier's answer about one host. -/
def resultsJson (host level : String) : Json :=
  .obj [("results", .arr [.obj [("host_name", .str host), ("trust_lvl", .str level)]])]

def trustedText : String :=
  "\x7b\"results\":[\x7b\"host_name\":\"ned\",\"trust_lvl\":\"trusted\"\x7d]\x7d"

def untrustedText : String :=
  "\x7b\"results\":[\x7b\"host_name\":\"ned\",\"trust_lvl\":\"untrusted\"\x7d]\x7d"

/-- A parser for the two answers above. -/
def resultsJsonC : JsonC :=
  .ofTable [(trustedText.toList, resultsJson "ned" "trusted"),
    (untrustedText.toList, resultsJson "ned" "untrusted")]

/-- The digest `gui.conf` configures for the host `ned`. -/
def nedDigest : CStr := "9ca6b5e5038819d7b55c830e95164e028a5cf686".toList

lemma exists_ok_of_toOption_map {ε α β : Type*} {x : Except ε α} {f : α → β} {b : β}
    (h : x.toOption.map f = some b) : ∃ a, x = .ok a ∧ f a = b := by
  cases x with
  | error e => cases h
  | ok a => exact ⟨a, rfl, Option.some.inj h⟩

theorem trusted_request_carries_digest_ned :
    ∃ a, oatAttestRequest resultsJsonC .withServer (.always trustedText) "ned".toList nedDigest
        = .ok a ∧
      ∃ sent request, a.sent = sent ++ [request] ∧
        (∀ q ∈ sent, q = verifiersRequest Settings.withServer.getNedip) ∧
        request.NamesHost "ned".toList ∧ request.CarriesDigest nedDigest := by
  have heval : ((oatAttestRequest resultsJsonC .withServer (.always trustedText) "ned".toList
      nedDigest).toOption.map (·.attestResult)) = some 1 := by decide +kernel
  obtain ⟨a, ha, htrusted⟩ := exists_ok_of_toOption_map heval
  exact ⟨a, ha, trusted_request_carries_digest _ _ _ _ _ a (by decide +kernel) rfl
    (by decide +kernel) ha htrusted⟩

/-- With a `request_id` the verifier is believed about a request that names no host. -/
theorem trusted_without_request_body :
    ¬ ∀ (J : JsonC) (settings : Settings) (fetch : Fetcher) (peerHostname peerCertDigest : CStr)
        (a : Attestation), peerCertDigest.length = 40 →
        oatAttestRequest J settings fetch peerHostname peerCertDigest = .ok a →
        a.attestResult = 1 →
        ∃ request ∈ a.sent, request.NamesHost peerHostname ∧
          request.CarriesDigest peerCertDigest := by
  intro h
  have heval : ((oatAttestRequest resultsJsonC { Settings.withServer with
      requestId := some "42".toList } (.always trustedText) "ned".toList
      nedDigest).toOption.map fun a => (a.attestResult, a.sent.map (·.data.isSome)))
        = some (1, [false]) := by decide +kernel
  obtain ⟨a, ha, heq⟩ := exists_ok_of_toOption_map heval
  obtain ⟨htrusted, hsent⟩ := Prod.mk.inj heq
  obtain ⟨request, hmem, ⟨body, hdata, -⟩, -⟩ :=
    h _ _ _ _ _ a (by decide +kernel) ha htrusted
  have hnone : request.data.isSome ∈ a.sent.map (·.data.isSome) := List.mem_map_of_mem hmem
  rw [hsent, hdata] at hnone
  simp at hnone

end SecuredApp
