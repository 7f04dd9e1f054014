import SecuredApp.Attest.Daemon

/-!
# The name a peer is attested under

The loop over the parts of a subject stops at the first common name. If there is none, the variable
it leaves holds the last part, and what it holds is copied as a C string.
-/

namespace SecuredApp

open SecuredApp.Core

/-! ### The name in the certificate -/

/-- The value of the first common name of a subject. -/
def firstCommonName (subject : List (IdPart × List Char)) : Option (List Char) :=
  (subject.find? fun part => part.1 = .rdnCN).map (·.2)

lemma firstCommonName_cons (part : IdPart × List Char) (subject : List (IdPart × List Char)) :
    firstCommonName (part :: subject)
      = if part.1 = .rdnCN then some part.2 else firstCommonName subject := by
  rw [firstCommonName, List.find?_cons]
  by_cases hcn : part.1 = .rdnCN
  · rw [if_pos hcn, decide_eq_true hcn]
    rfl
  · rw [if_neg hcn, decide_eq_false hcn]
    rfl

lemma extractCommonName_of_some {subject : List (IdPart × List Char)} {data : Option (List Char)}
    {cn : List Char} (h : firstCommonName subject = some cn) :
    extractCommonName subject data = some cn := by
  induction subject generalizing data with
  | nil => cases h
  | cons part subject ih =>
    rw [firstCommonName_cons] at h
    rw [extractCommonName]
    by_cases hcn : part.1 = .rdnCN
    · rw [if_pos hcn] at h ⊢
      exact h
    · rw [if_neg hcn] at h ⊢
      exact ih h

/-- The loop leaves its variable unset only over a subject without parts. -/
lemma extractCommonName_eq_none_iff {subject : List (IdPart × List Char)}
    {data : Option (List Char)} :
    extractCommonName subject data = none ↔ subject = [] ∧ data = none := by
  induction subject generalizing data with
  | nil => simp [extractCommonName]
  | cons part subject ih =>
    rw [extractCommonName]
    split_ifs with hcn
    · simp
    · rw [ih]
      simp

/-! ### The name in the request -/

/-- The names that a round attests its peer under when `oat_attest_request` left `a`: the host that
it was called for, those in the requests that it sent, the one written to `oat-attest.data` and the
one in the job that was queued. -/
def Attestation.Names (a : Attestation) (st st' : Plugin) (hostname : CStr) : Prop :=
  a.peerHostname = hostname ∨ (∃ request ∈ a.sent, request.NamesHost hostname) ∨
    (∃ info, st'.certInfo = some info ∧ info.cn = hostname) ∨
    ∃ m, st'.monitors = st.monitors ++ [m] ∧ m.data.hostName = hostname

/-- The round calls `oat_attest_request`, and attests the certificate under this name. -/
def RoundAsks (J : JsonC) (sha1Hex : List Char → CStr) (known : CStr) (interval uniqueId : UInt32)
    (cert : Certificate) (env : RoundEnv) (st : Plugin) (success : Bool) (hostname : CStr) : Prop :=
  ∃ a st' success', authorizeRound J sha1Hex known interval uniqueId (some cert, env) st success
      = .ok (st', success') ∧
    st'.attestations = a :: st.attestations ∧ a.Names st st' hostname

/-- One of the rounds of a call of `authorize` asks about the certificate under this name. -/
def AuthorizeAsks (J : JsonC) (sha1Hex : List Char → CStr) (uniqueId : UInt32)
    (rounds : List (AuthCfg × RoundEnv)) (st : Plugin) (success : Bool) (cert : Certificate)
    (hostname : CStr) : Prop :=
  st.settings.getAttestPeer = true ∧ ∃ pre env post st₁ success₁,
    rounds = pre ++ (some cert, env) :: post ∧
    authorizeRounds J sha1Hex st.settings.getKnownCertDigest st.settings.getAttestInterval uniqueId
      pre st success = .ok (st₁, success₁) ∧
    RoundAsks J sha1Hex st.settings.getKnownCertDigest st.settings.getAttestInterval uniqueId cert
      env st₁ success₁ hostname

/-- The certificate is attested under nothing but its first common name in full, in what is asked
and in what is kept of it, and nothing of it is read that was not set. -/
structure NamedInFull (cert : Certificate) : Prop where
  reads : ∀ J sha1Hex known interval uniqueId env st success,
    authorizeRound J sha1Hex known interval uniqueId (some cert, env) st success
      ≠ .error .subject
  names : ∀ J sha1Hex uniqueId rounds st success hostname,
    AuthorizeAsks J sha1Hex uniqueId rounds st success cert hostname →
    firstCommonName cert.subject = some hostname

variable {J : JsonC} {sha1Hex : List Char → CStr} {known : CStr} {interval uniqueId : UInt32}
  {cert : Certificate} {env : RoundEnv} {st st' : Plugin} {success success' : Bool}
  {hostname digest : CStr}

/-- A call names the host that it was called for, to itself and to the verifier. -/
lemma oatAttestRequest_names {settings : Settings} {fetch : Fetcher} {a : Attestation}
    (h : oatAttestRequest J settings fetch hostname digest = .ok a) :
    a.peerHostname = hostname ∧
      ∀ request ∈ a.sent, ∀ name, request.NamesHost name → name = hostname := by
  rcases oatAttestRequest_eq_ok h with rfl | ⟨sent, server, r, hsent, -, rfl⟩
  · exact ⟨rfl, fun request hmem => absurd hmem List.not_mem_nil⟩
  · refine ⟨rfl, ?_⟩
    rintro request hmem name ⟨body, hdata, hhosts⟩
    rcases List.mem_append.mp hmem with hmem | hmem
    · -- the question to the NED names no host
      rw [hsent request hmem] at hdata
      obtain rfl := Option.some.inj hdata
      have hnull : (Json.obj [("question", .str "verifiers")]).objectGetEx "hosts" = .null := rfl
      rw [hnull] at hhosts
      cases hhosts
    · obtain rfl := List.mem_singleton.mp hmem
      cases hid : settings.requestId with
      | some requestId =>
        rw [hid] at hdata
        cases hdata
      | none =>
        rw [hid] at hdata
        obtain rfl := Option.some.inj hdata
        rw [requestBody, jrequest_hosts] at hhosts
        have hname : String.ofList hostname = String.ofList name := by simpa using hhosts
        exact (String.ofList_injective hname).symm

/-- A round that asks does so under what the loop left, as a C string. -/
lemma RoundAsks.eq_cstr
    (h : RoundAsks J sha1Hex known interval uniqueId cert env st success hostname) :
    ∃ data encoded, extractCommonName cert.subject none = some data ∧
      cert.encoding = some encoded ∧ hostname = cstr data := by
  obtain ⟨a, st', success', hround, hattestations, hnames⟩ := h
  -- a round that does not ask leaves the attestations as they are
  have hasked : st'.attestations ≠ st.attestations :=
    hattestations ▸ List.cons_ne_self _ _
  rw [authorizeRound] at hround
  cases hdata : extractCommonName cert.subject none with
  | none => simp [hdata] at hround
  | some data =>
    cases hencoding : cert.encoding with
    | none =>
      simp only [hdata, hencoding, Except.ok.injEq, Prod.mk.injEq] at hround
      exact absurd (congrArg Plugin.attestations hround.1.symm) hasked
    | some encoded =>
      simp only [hdata, hencoding] at hround
      refine ⟨data, encoded, rfl, rfl, ?_⟩
      by_cases hknown : sha1Hex encoded = known
      · rw [if_pos hknown, Except.ok.injEq, Prod.mk.injEq] at hround
        exact absurd (congrArg Plugin.attestations hround.1.symm) hasked
      · rw [if_neg hknown] at hround
        cases hfile : env.dataFile with
        | false => simp [attestRound, updateCertInfo, hfile] at hround
        | true =>
          cases ha : oatAttestRequest J st.settings env.fetch (cstr data) (sha1Hex encoded) with
          | error fault => simp [attestRound, updateCertInfo, hfile, ha] at hround
          | ok a' =>
            rw [attestRound_of_ok hfile ha] at hround
            obtain ⟨rfl, -⟩ := Prod.mk.inj (Except.ok.inj hround)
            obtain ⟨rfl, -⟩ := List.cons.inj hattestations
            obtain ⟨hcalled, hsent⟩ := oatAttestRequest_names ha
            rcases hnames with hname | ⟨request, hmem, hname⟩ | ⟨info, hinfo, hname⟩ |
              ⟨m, hmonitors, hname⟩
            · exact hname.symm.trans hcalled
            · exact hsent request hmem hostname hname
            · obtain rfl := Option.some.inj hinfo
              exact hname.symm
            · have hjob := List.append_cancel_left hmonitors
              split_ifs at hjob
              · obtain ⟨rfl, -⟩ := List.cons.inj hjob
                exact hname.symm

lemma roundAsks_of_ok {data encoded : List Char} {a : Attestation}
    (hdata : extractCommonName cert.subject none = some data)
    (hencoding : cert.encoding = some encoded) (hknown : sha1Hex encoded ≠ known)
    (hfile : env.dataFile = true)
    (ha : oatAttestRequest J st.settings env.fetch (cstr data) (sha1Hex encoded) = .ok a) :
    RoundAsks J sha1Hex known interval uniqueId cert env st success (cstr data) := by
  refine ⟨a, st.asked interval uniqueId (cstr data) (sha1Hex encoded) a,
    decide (a.attestResult = 1), ?_, rfl, .inl (oatAttestRequest_names ha).1⟩
  simp only [authorizeRound, hdata, hencoding, if_neg hknown]
  exact attestRound_of_ok hfile ha

/-! ### Where nothing is read that was not set -/

lemma resultsLoop_ne_subject {peerHostname : CStr} (entries : List Json) :
    resultsLoop J peerHostname entries ≠ .error .subject := by
  induction entries with
  | nil =>
    intro h
    cases h
  | cons e entries ih =>
    rw [resultsLoop]
    cases J.getCStr (e.objectGetEx "host_name") with
    | none =>
      intro h
      cases h
    | some host =>
      cases J.getCStr (e.objectGetEx "trust_lvl") with
      | none =>
        dsimp only
        split_ifs
        · intro h
          cases h
        · exact ih
      | some level =>
        dsimp only
        split_ifs
        · intro h
          cases h
        · intro h
          cases h
        · intro h
          cases h
        · exact ih

lemma verfierLoop_ne_subject {ipAddr : Option CStr} (entries : List Json) :
    verfierLoop J entries ipAddr ≠ .error .subject := by
  induction entries generalizing ipAddr with
  | nil =>
    intro h
    cases h
  | cons e entries ih =>
    rw [verfierLoop]
    cases J.getCStr (e.objectGetEx "ip") with
    | none =>
      intro h
      cases h
    | some ip => exact ih

variable {settings : Settings} {fetch : Fetcher}

lemma askVerifier_ne_subject (sent : List FetchRequest) (server : Option CStr) :
    askVerifier J settings fetch hostname digest sent server ≠ .error .subject := by
  have hread : ∀ result, readResponse J hostname result ≠ .error .subject := by
    intro result
    rw [readResponse]
    split_ifs
    · intro h
      cases h
    · cases ((J.tokenerParse result.response).objectGetEx "results").elems? with
      | none =>
        intro h
        cases h
      | some entries => exact resultsLoop_ne_subject entries
  cases server with
  | none =>
    intro h
    cases h
  | some server =>
    intro h
    rw [askVerifier] at h
    split at h
    · rename_i fault hfault
      cases h
      exact hread _ hfault
    · cases h

/-- A request reads nothing of the subject. -/
lemma oatAttestRequest_ne_subject :
    oatAttestRequest J settings fetch hostname digest ≠ .error .subject := by
  intro h
  rw [oatAttestRequest] at h
  split_ifs at h
  · cases hserver : settings.oatServer with
    | none => simp [hserver] at h
    | some server =>
      rw [hserver] at h
      exact askVerifier_ne_subject _ _ h
  · cases hverfier : getVerfier J fetch settings.getNedip with
    | error fault =>
      rw [hverfier] at h
      cases h
      rw [getVerfier] at hverfier
      split at hverfier
      · cases hverfier
      · exact verfierLoop_ne_subject _ hverfier
    | ok server =>
      rw [hverfier] at h
      exact askVerifier_ne_subject _ _ h

lemma authorizeRound_ne_subject (hsubject : cert.subject ≠ []) :
    authorizeRound J sha1Hex known interval uniqueId (some cert, env) st success
      ≠ .error .subject := by
  intro h
  rw [authorizeRound] at h
  cases hdata : extractCommonName cert.subject none with
  | none => exact hsubject (extractCommonName_eq_none_iff.mp hdata).1
  | some data =>
    cases hencoding : cert.encoding with
    | none => simp [hdata, hencoding] at h
    | some encoded =>
      simp only [hdata, hencoding] at h
      split_ifs at h
      rw [attestRound, updateCertInfo] at h
      cases hfile : env.dataFile with
      | false => simp [hfile] at h
      | true =>
        simp only [hfile, if_true] at h
        split at h
        · rename_i fault hfault
          cases h
          exact oatAttestRequest_ne_subject hfault
        · split_ifs at h

/-! ### When the name is the certificate's -/

/-- A fetcher that gets no answer. -/
def Fetcher.silent : Fetcher := fun _ => ⟨.failed, [], fun _ => rfl⟩

lemma oatAttestRequest_silent (hostname digest : CStr) :
    ∃ a, oatAttestRequest J .withServer .silent hostname digest = .ok a :=
  ⟨_, rfl⟩

lemma authorizeAsks_of_round (env : RoundEnv) (hpeer : st.settings.getAttestPeer = true)
    (h : RoundAsks J sha1Hex st.settings.getKnownCertDigest st.settings.getAttestInterval uniqueId
      cert env st success hostname) :
    AuthorizeAsks J sha1Hex uniqueId [(some cert, env)] st success cert hostname :=
  ⟨hpeer, [], env, [], st, success, rfl, rfl, h⟩

/-- A certificate with an encoding is attested in some call under what the loop left. -/
lemma exists_authorizeAsks {data encoded : List Char}
    (hdata : extractCommonName cert.subject none = some data)
    (hencoding : cert.encoding = some encoded) :
    ∃ J sha1Hex uniqueId rounds st success,
      AuthorizeAsks J sha1Hex uniqueId rounds st success cert (cstr data) := by
  obtain ⟨a, ha⟩ := oatAttestRequest_silent (J := .ofTable []) (cstr data) []
  refine ⟨.ofTable [], fun _ => [], 0, _, .fresh .withServer, true,
    authorizeAsks_of_round ⟨.silent, true⟩ rfl ?_⟩
  refine roundAsks_of_ok hdata hencoding ?_ rfl ha
  intro h
  cases h

/-- For every certificate, what `authorize` attests it under is its first common name in full
exactly if there is one and it has no NUL, or if there is no encoding to attest. -/
theorem namedInFull_iff (cert : Certificate) :
    NamedInFull cert ↔
      (cert.encoding = none ∧ cert.subject ≠ []) ∨
        ∃ cn, firstCommonName cert.subject = some cn ∧ '\x00' ∉ cn := by
  constructor
  · intro h
    cases hdata : extractCommonName cert.subject none with
    | none =>
      refine absurd ?_ (h.reads (.ofTable []) (fun _ => []) [] 0 0 ⟨.silent, true⟩
        (.fresh .withServer) true)
      simp only [authorizeRound, hdata]
    | some data =>
      cases hencoding : cert.encoding with
      | none =>
        refine .inl ⟨rfl, fun hnil => ?_⟩
        rw [extractCommonName_eq_none_iff.mpr ⟨hnil, rfl⟩] at hdata
        cases hdata
      | some encoded =>
        obtain ⟨J, sha1Hex, uniqueId, rounds, st, success, hasks⟩ :=
          exists_authorizeAsks hdata hencoding
        exact .inr ⟨cstr data, h.names _ _ _ _ _ _ _ hasks, nul_not_mem_cstr data⟩
  · intro h
    have hsubject : cert.subject ≠ [] := by
      rcases h with ⟨-, hsubject⟩ | ⟨cn, hcn, -⟩
      · exact hsubject
      · intro hnil
        rw [hnil] at hcn
        cases hcn
    refine ⟨fun _ _ _ _ _ _ _ _ => authorizeRound_ne_subject hsubject, ?_⟩
    rintro J sha1Hex uniqueId rounds st success hostname
      ⟨-, pre, env, post, st₁, success₁, -, -, hround⟩
    obtain ⟨data, encoded, hdata, hencoding, rfl⟩ := hround.eq_cstr
    rcases h with ⟨hnone, -⟩ | ⟨cn, hcn, hnul⟩
    · cases hnone.symm.trans hencoding
    · obtain rfl := Option.some.inj ((extractCommonName_of_some hcn).symm.trans hdata)
      rw [hcn, cstr_eq_self hnul]

/-- A certificate with this subject. -/
def subjectCert (subject : List (IdPart × List Char)) : Certificate := ⟨subject, some []⟩

/-- Whether a call that asks about the peer with this subject accepts it, and the host that the
attestation was requested for. -/
def attestedUnder (subject : List (IdPart × List Char)) : Option (Bool × Option CStr) :=
  (authorize resultsJsonC (fun _ => nedDigest) 7
      [(some (subjectCert subject), ⟨.always trustedText, true⟩)] true (.fresh .withServer) true
    ).toOption.map fun r => (r.2, r.1.attestations.head?.map (·.peerHostname))

/-- A peer whose organisation is called `ned` is attested as `ned` without a common name, and so is
one whose common name goes on after a NUL. -/
theorem attested_as_ned :
    (firstCommonName [(.other, "ned".toList)] = none ∧
      attestedUnder [(.other, "ned".toList)] = some (true, some "ned".toList)) ∧
    firstCommonName [(.rdnCN, "ned\x00.example".toList)] = some "ned\x00.example".toList ∧
      attestedUnder [(.rdnCN, "ned\x00.example".toList)] = some (true, some "ned".toList) := by
  refine ⟨⟨rfl, ?_⟩, rfl, ?_⟩
  · decide +kernel
  · decide +kernel

end SecuredApp
