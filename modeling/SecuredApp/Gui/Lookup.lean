import SecuredApp.Gui.Attestation

/-!
# What is looked up for an access point

The tunnel of an access point is looked up in `[Mobility]` and the name of its NED in
`[VERIFIER]`, two sections that hold the program's own settings too.
-/

namespace SecuredApp

open SecuredApp.Core

/-! ### The request of a poll -/

/-- The NED is the one `[VERIFIER]` has for the access point, or `NED_ID` if it has none. -/
def NamesNed (config : RawConfigParser) (nedId : String) (currentAP : Option String)
    (nedName : String) : Prop :=
  currentAP.bind (config.get "VERIFIER") = some nedName ∨
    currentAP.bind (config.get "VERIFIER") = none ∧ nedName = nedId

/-- The digest is the one `[VERIFIER_DIGESTS]` has for the NED, or empty if it has none. -/
def CarriesDigest (config : RawConfigParser) (nedName digest : String) : Prop :=
  config.get "VERIFIER_DIGESTS" nedName = some digest ∨
    config.get "VERIFIER_DIGESTS" nedName = none ∧ digest = ""

/-- The data asks about the NED with the digest of its certificate. -/
def AsksAbout (data : Json) (nedName digest : String) : Prop :=
  ∃ level, data = .obj [
    ("hosts", .arr [.str nedName]),
    ("analysisType", .str ("load-time+check-cert," ++ level ++ ",cert_digest=" ++ digest))]

lemma namesNed_nedNameVerifier (config : RawConfigParser) (nedId : String)
    (currentAP : Option String) :
    NamesNed config nedId currentAP (nedNameVerifier config nedId currentAP) := by
  rw [NamesNed, nedNameVerifier]
  cases currentAP.bind (config.get "VERIFIER") with
  | none => exact Or.inr ⟨rfl, rfl⟩
  | some nedName => exact Or.inl rfl

lemma carriesDigest_getD (config : RawConfigParser) (nedName : String) :
    CarriesDigest config nedName ((config.get "VERIFIER_DIGESTS" nedName).getD "") := by
  rw [CarriesDigest]
  cases config.get "VERIFIER_DIGESTS" nedName with
  | none => exact Or.inr ⟨rfl, rfl⟩
  | some digest => exact Or.inl rfl

/-- What a request that can be formed asks about. -/
lemma asksAbout_of_pollRequest {config : RawConfigParser} {currentAP : Option String}
    {request : PollRequest} (h : pollRequest config currentAP = some request) :
    ∃ nedId nedName digest, config.get "NED" "NED_ID" = some nedId ∧
      AsksAbout request.data nedName digest ∧ NamesNed config nedId currentAP nedName ∧
      CarriesDigest config nedName digest := by
  simp only [pollRequest, Option.bind_eq_bind, Option.bind_eq_some_iff, Option.some.injEq] at h
  obtain ⟨url, -, nedId, hned, level, -, rfl⟩ := h
  exact ⟨nedId, _, _, hned, ⟨level, rfl⟩, namesNed_nedNameVerifier config nedId currentAP,
    carriesDigest_getD config _⟩

/-- A poll that sets the verdict to trusted asked with the digest configured for the NED it named,
or else an empty one. With mobility this is the NED of the access point, or else the one of
`NED_ID`. -/
theorem request_of_trusted (app : App) (post : Post)
    (hreset : app.attestationTask.trusted ≠ some true)
    (htrusted : (after (issuePollAttestation post) app).attestationTask.trusted = some true) :
    ∃ request nedId nedName digest,
      pollRequest app.config app.attestationTask.currentAP = some request ∧
      pollTrusted (post request) = some true ∧
      app.config.get "NED" "NED_ID" = some nedId ∧ AsksAbout request.data nedName digest ∧
      (app.useMobility = true →
        NamesNed app.config nedId app.attestationTask.currentAP nedName) ∧
      CarriesDigest app.config nedName digest := by
  rcases issuePollAttestation_cases app post with ⟨request, hrequest, hrun⟩ | ⟨e, hrun⟩
  · obtain ⟨nedId, nedName, digest, hned, hasks, hnames, hcarries⟩ :=
      asksAbout_of_pollRequest hrequest
    rw [after, hrun] at htrusted
    exact ⟨request, nedId, nedName, digest, hrequest, htrusted, hned, hasks, fun _ => hnames,
      hcarries⟩
  · rw [after, hrun] at htrusted
    exact absurd htrusted hreset

/-- The GUI as it is constructed, on an access point. -/
def constructedOn (config : RawConfigParser) (useMobility : Bool) (ssid : String) : App :=
  after (setApIp ssid "10.0.0.7") (.constructed config useMobility "ned" "ned" none)

theorem request_of_trusted_secured1 :
    ∃ request nedId nedName digest,
      pollRequest guiConf (some "secured1") = some request ∧
      pollTrusted (Post.always (resultsJson "ned" "trusted") request) = some true ∧
      guiConf.get "NED" "NED_ID" = some nedId ∧ AsksAbout request.data nedName digest ∧
      NamesNed guiConf nedId (some "secured1") nedName ∧ CarriesDigest guiConf nedName digest := by
  obtain ⟨request, nedId, nedName, digest, hrequest, htrusted, hned, hasks, hnames, hcarries⟩ :=
    request_of_trusted (constructedOn guiConf true "secured1")
      (.always (resultsJson "ned" "trusted")) (by decide +kernel) (by decide +kernel)
  exact ⟨request, nedId, nedName, digest, hrequest, htrusted, hned, hasks, hnames rfl, hcarries⟩

/-- The request is about the NED associated with the access point, or about `NED_ID` without
mobility, and carries a digest configured for it that is not empty. -/
def App.AsksAsConfigured (app : App) : Prop :=
  ∃ request nedName digest,
    pollRequest app.config app.attestationTask.currentAP = some request ∧
    AsksAbout request.data nedName digest ∧
    (app.useMobility = true →
      app.attestationTask.currentAP.bind (app.config.get "VERIFIER") = some nedName) ∧
    (app.useMobility = false → app.config.get "NED" "NED_ID" = some nedName) ∧
    app.config.get "VERIFIER_DIGESTS" nedName = some digest ∧ digest ≠ ""

/-- The configuration with a second NED, of which it has no digest. -/
def partialConf : RawConfigParser where
  sections := guiConf.sections ++ [("VERIFIER", [("secured2", "ned3")])]
  defaults := []

lemma nedName_of_asksAbout {config : RawConfigParser} {currentAP : Option String}
    {request : PollRequest} {nedId nedName digest : String}
    (hned : config.get "NED" "NED_ID" = some nedId)
    (hrequest : pollRequest config currentAP = some request)
    (hasks : AsksAbout request.data nedName digest) :
    nedName = nedNameVerifier config nedId currentAP := by
  simp only [pollRequest, hned, Option.bind_eq_bind, Option.bind_eq_some_iff,
    Option.some.injEq] at hrequest
  obtain ⟨url, -, nedId', rfl, level, -, rfl⟩ := hrequest
  obtain ⟨level', hdata⟩ := hasks
  simp only [Json.obj.injEq, List.cons.injEq, Prod.mk.injEq, Json.arr.injEq,
    Json.str.injEq] at hdata
  exact hdata.1.2.1.symm

/-- A poll that is answered with a trusted result ends trusted, though it does not ask about the
NED and the digest that are configured. -/
def App.TrustsByDefault (app : App) : Prop :=
  (after (issuePollAttestation (.always (resultsJson "ned" "trusted")))
    app).attestationTask.trusted = some true ∧ ¬ app.AsksAsConfigured

/-- This happens on an access point without an association, for a NED without a digest, and without
mobility about another NED than `NED_ID`. -/
theorem trusted_by_default :
    (constructedOn guiConf true "cafe").TrustsByDefault ∧
      (constructedOn partialConf true "secured2").TrustsByDefault ∧
      (constructedOn partialConf false "secured2").TrustsByDefault := by
  refine ⟨?_, ?_, ?_⟩
  · refine ⟨by decide +kernel, ?_⟩
    rintro ⟨request, nedName, digest, -, -, hassociated, -⟩
    have hnone : (some "cafe").bind (guiConf.get "VERIFIER") = none := by decide +kernel
    cases hnone.symm.trans (hassociated rfl)
  · refine ⟨by decide +kernel, ?_⟩
    rintro ⟨request, nedName, digest, -, -, hassociated, -, hdigest, -⟩
    have hned : (some "secured2").bind (partialConf.get "VERIFIER") = some "ned3" := by
      decide +kernel
    obtain rfl := Option.some.inj (hned.symm.trans (hassociated rfl))
    have hnone : partialConf.get "VERIFIER_DIGESTS" "ned3" = none := by decide +kernel
    cases hnone.symm.trans hdigest
  · refine ⟨by decide +kernel, ?_⟩
    rintro ⟨request, nedName, digest, hrequest, hasks, -, hdefault, -⟩
    have hned : partialConf.get "NED" "NED_ID" = some "ned" := by decide +kernel
    obtain rfl := Option.some.inj (hned.symm.trans (hdefault rfl))
    have hname := nedName_of_asksAbout hned hrequest hasks
    revert hname
    decide +kernel

/-! ### Associations -/

/-- The settings of the program in `[Mobility]`. -/
def mobilitySettings : List String :=
  ["USE_MOBILITY", "interface_name", "psc_ip", "port", "INTERVAL_BETWEEN_REPORTS",
    "INTERVAL_BETWEEN_REPORTS_WHILE_MIGRATING", "INTERVAL_BETWEEN_IWLIST_REQUESTS"]

/-- The settings of the program in `[VERIFIER]`. -/
def verifierSettings : List String :=
  ["VERIFIER_URL", "VERIFIER_WEB_URL", "INTEGRITY_LVL_NUMBER", "INTEGRITYLEVEL1",
    "INTEGRITYLEVEL2", "INTEGRITYLEVEL4"]

/-- The section has the association of an SSID with a value: an entry written for exactly that
SSID, which is not the name of a setting. -/
def Associates (config : RawConfigParser) (sectionName : String) (settings : List String)
    (ssid value : String) : Prop :=
  (ssid, value) ∈ config.written sectionName ∧ lower ssid ∉ settings.map lower

/-- The options of the section that `get` takes for the SSID: the names differ at most in case. -/
def optionsFor (config : RawConfigParser) (sectionName ssid : String) : List (String × String) :=
  (config.options sectionName).filter fun entry => lower entry.1 = lower ssid

lemma lastEntry_eq_getLast? (entries : List (String × String)) (opt : String) :
    RawConfigParser.lastEntry entries opt
      = ((entries.filter fun entry => lower entry.1 = opt).getLast?).map (·.2) := by
  rw [RawConfigParser.lastEntry, List.getLast?_eq_head?_reverse, ← List.filter_reverse,
    List.head?_filter]

/-- `get` takes the last of the options for an SSID. -/
lemma get_eq_getLast? (config : RawConfigParser) {sectionName : String} (ssid : String)
    (h : sectionName ≠ "DEFAULT") :
    config.get sectionName ssid = ((optionsFor config sectionName ssid).getLast?).map (·.2) := by
  rw [config.get_eq_lastEntry ssid h, lastEntry_eq_getLast?, optionsFor]

lemma run_getIpsecConnectionFromSsid (ssid : String) (app : App) :
    EStateM.run (getIpsecConnectionFromSsid ssid) app
      = .ok (app.config.get "Mobility" ssid) app := rfl

/-- The tunnel of an SSID comes from an association exactly if every option that is taken for the
SSID stands beside an association written for it; the name of its NED does exactly if the last
option that is taken for the SSID has the value of an association written for it. -/
theorem lookups_exact_iff (app : App) (ssid : String) :
    ((∀ connName, EStateM.run (getIpsecConnectionFromSsid ssid) app = .ok (some connName) app →
        ∃ value, Associates app.config "Mobility" mobilitySettings ssid value) ↔
      ∀ entry ∈ optionsFor app.config "Mobility" ssid,
        ∃ value, Associates app.config "Mobility" mobilitySettings ssid value) ∧
    ((∀ nedName, app.config.get "VERIFIER" ssid = some nedName →
        Associates app.config "VERIFIER" verifierSettings ssid nedName) ↔
      ∀ entry, (optionsFor app.config "VERIFIER" ssid).getLast? = some entry →
        Associates app.config "VERIFIER" verifierSettings ssid entry.2) := by
  constructor
  · simp only [run_getIpsecConnectionFromSsid, get_eq_getLast? app.config ssid
      (show "Mobility" ≠ "DEFAULT" by decide), EStateM.Result.ok.injEq, and_true]
    constructor
    · intro h entry hentry
      obtain ⟨last, hlast⟩ := Option.isSome_iff_exists.mp
        (List.getLast?_isSome.mpr (List.ne_nil_of_mem hentry))
      exact h last.2 (by rw [hlast, Option.map_some])
    · intro h connName hconn
      obtain ⟨last, hlast, -⟩ := Option.map_eq_some_iff.mp hconn
      exact h last (List.mem_of_getLast? hlast)
  · rw [get_eq_getLast? app.config ssid (show "VERIFIER" ≠ "DEFAULT" by decide)]
    constructor
    · intro h entry hlast
      exact h entry.2 (by rw [hlast, Option.map_some])
    · intro h nedName hned
      obtain ⟨entry, hlast, rfl⟩ := Option.map_eq_some_iff.mp hned
      exact h entry hlast

/-- The name of a setting, and an associated SSID written in other case, are looked up too. -/
theorem setting_taken_for_association :
    (EStateM.run (getIpsecConnectionFromSsid "interface_name") constructedApp
        = .ok (some "wlan0") constructedApp ∧
      ∀ value, ¬ Associates guiConf "Mobility" mobilitySettings "interface_name" value) ∧
    (EStateM.run (getIpsecConnectionFromSsid "SECURED1") constructedApp
        = .ok (some "secured1") constructedApp ∧
      ∀ value, ¬ Associates guiConf "Mobility" mobilitySettings "SECURED1" value) ∧
    guiConf.get "VERIFIER" "SECURED1" = some "ned" ∧
      ∀ value, ¬ Associates guiConf "VERIFIER" verifierSettings "SECURED1" value := by
  have hwritten : ∀ sectionName ssid value, ssid ∉ (guiConf.written sectionName).map (·.1) →
      (ssid, value) ∉ guiConf.written sectionName := by
    intro sectionName ssid value h hmem
    exact h (List.mem_map_of_mem hmem)
  refine ⟨⟨?_, ?_⟩, ⟨?_, ?_⟩, by decide +kernel, ?_⟩
  · rw [run_getIpsecConnectionFromSsid]
    rfl
  · rintro value ⟨-, hsetting⟩
    revert hsetting
    decide +kernel
  · rw [run_getIpsecConnectionFromSsid]
    rfl
  · rintro value ⟨hmem, -⟩
    exact hwritten "Mobility" "SECURED1" value (by decide +kernel) hmem
  · rintro value ⟨hmem, -⟩
    exact hwritten "VERIFIER" "SECURED1" value (by decide +kernel) hmem

end SecuredApp
