import SecuredApp.Attest.Results
import SecuredApp.Gui.Basic

/-!
# The attestation of the GUI

`AttestationRequestThread` of `client_sec.py`, which polls the verifier, and the slot of `GUI`
that handles the end of a poll.
-/

namespace SecuredApp

open SecuredApp.Core

/-! ### The poll -/

/-- A request posted to the verifier. -/
structure PollRequest where
  url : String
  data : Json

/-- The name of the NED at an access point: the one `[VERIFIER]` associates with it, or else
`NED_ID`. -/
def nedNameVerifier (config : RawConfigParser) (nedId : String) (currentAP : Option String) :
    String :=
  (currentAP.bind (config.get "VERIFIER")).getD nedId

/-- The request of `issuePollAttestation`, `none` where reading the configuration raises. -/
def pollRequest (config : RawConfigParser) (currentAP : Option String) : Option PollRequest := do
  let pollhostUrl ← config.get "VERIFIER" "VERIFIER_URL"
  let nedId ← config.get "NED" "NED_ID"
  let nedName := nedNameVerifier config nedId currentAP
  let digest := (config.get "VERIFIER_DIGESTS" nedName).getD ""
  let level ← config.get "VERIFIER" "INTEGRITYLEVEL4"
  some {
    url := pollhostUrl
    data := .obj [
      ("hosts", .arr [.str nedName]),
      ("analysisType", .str ("load-time+check-cert," ++ level ++ ",cert_digest=" ++ digest))] }

/-- What comes of posting a request: no response, a body that is not JSON, or a value. -/
abbrev Post := PollRequest → Option (Option Json)

/-- `temp['results'][0][key]`, `none` where it raises. -/
def firstResult (temp : Json) (key : String) : Option Json :=
  ((temp.member? "results").bind (·.index? 0)).bind (·.member? key)

/-- The verdict a trust level stands for. -/
def trustedOf : Option Json → Option Bool
  | some (.str level) =>
    if level = "trusted" then some true
    else if level = "untrusted" then some false
    else if level = "vtime-err" then some false
    else if level = "cert-err" then some false
    else none
  | _ => none

/-- The verdict of a poll. -/
def pollTrusted : Option (Option Json) → Option Bool
  | none => trustedOf none
  | some temp => trustedOf (firstResult (temp.getD .null) "trust_lvl")

/-- The `validate_time` of a poll. -/
def pollTime : Option (Option Json) → Json
  | none => .str "-"
  | some temp => (firstResult (temp.getD .null) "validate_time").getD .null

/-- The look-up of the verdict fails on a text, and its handler prints `str(temp)`, which raises for
one that is not ASCII. -/
def handlerRaises : Option (Option Json) → Bool
  | some (some (.str s)) => s.toList.any fun c => 128 ≤ c.toNat
  | _ => false

/-- `issuePollAttestation`. -/
def issuePollAttestation (post : Post) : Py App Unit := do
  let app ← get
  match pollRequest app.config app.attestationTask.currentAP with
  | none => throw .lookupError
  | some request =>
    let r := post request
    if handlerRaises r then throw .unicodeError
    modify fun app => { app with
      attestationTask.trusted := pollTrusted r
      attestationTask.validateTime := pollTime r
      signals.requestTaskFinished := app.signals.requestTaskFinished + 1 }

/-- The application after a poll that was answered by `r`. -/
def App.polled (app : App) (r : Option (Option Json)) : App :=
  { app with
    attestationTask.trusted := pollTrusted r
    attestationTask.validateTime := pollTime r
    signals.requestTaskFinished := app.signals.requestTaskFinished + 1 }

section

variable {app : App} {post : Post} {request : PollRequest}

lemma run_issuePollAttestation
    (hrequest : pollRequest app.config app.attestationTask.currentAP = some request)
    (hraises : handlerRaises (post request) = false) :
    EStateM.run (issuePollAttestation post) app = .ok ⟨⟩ (app.polled (post request)) := by
  simp only [issuePollAttestation, EStateM.run_bind, EStateM.run_get, hrequest, hraises]
  rfl

lemma run_issuePollAttestation_of_raises
    (hrequest : pollRequest app.config app.attestationTask.currentAP = some request)
    (hraises : handlerRaises (post request) = true) :
    EStateM.run (issuePollAttestation post) app = .error .unicodeError app := by
  simp only [issuePollAttestation, EStateM.run_bind, EStateM.run_get, hrequest, hraises]
  rfl

lemma run_issuePollAttestation_of_none
    (hrequest : pollRequest app.config app.attestationTask.currentAP = none) :
    EStateM.run (issuePollAttestation post) app = .error .lookupError app := by
  simp only [issuePollAttestation, EStateM.run_bind, EStateM.run_get, hrequest]
  rfl

lemma polled_of_run {polled : App}
    (hrequest : pollRequest app.config app.attestationTask.currentAP = some request)
    (hpoll : EStateM.run (issuePollAttestation post) app = .ok ⟨⟩ polled) :
    polled = app.polled (post request) := by
  cases hraises : handlerRaises (post request) with
  | false =>
    rw [run_issuePollAttestation hrequest hraises] at hpoll
    cases hpoll
    rfl
  | true =>
    rw [run_issuePollAttestation_of_raises hrequest hraises] at hpoll
    cases hpoll

/-- A poll stores what came of its request, or raises before it stores anything. -/
lemma issuePollAttestation_cases (app : App) (post : Post) :
    (∃ request, pollRequest app.config app.attestationTask.currentAP = some request ∧
      EStateM.run (issuePollAttestation post) app = .ok ⟨⟩ (app.polled (post request))) ∨
    ∃ e, EStateM.run (issuePollAttestation post) app = .error e app := by
  cases hrequest : pollRequest app.config app.attestationTask.currentAP with
  | none => exact .inr ⟨_, run_issuePollAttestation_of_none hrequest⟩
  | some request =>
    cases hraises : handlerRaises (post request) with
    | false => exact .inl ⟨request, rfl, run_issuePollAttestation hrequest hraises⟩
    | true => exact .inr ⟨_, run_issuePollAttestation_of_raises hrequest hraises⟩

end

/-! ### The slot -/

/-- What the slot meets: the answer to the warning, the reply to a logout, whether the stop script
can be run, and the run of the start script. -/
structure AttestationEnv where
  yes : Bool
  reply : Option Nat
  stop : Bool
  start : StartEnv

/-- `str(j)` of a value that came from `json.loads` raises for a text that is not ASCII. -/
def strOf : Json → Py App Unit
  | .str s => if s.toList.all fun c => c.toNat < 128 then pure () else throw .unicodeError
  | _ => pure ()

/-- `setAttestationStatus`. Without a time the local `text_time` is never assigned. -/
def setAttestationStatus (result : Bool) : Py App Unit := do
  let app ← get
  let validateTime := app.attestationTask.validateTime
  modify fun app => { app with ui.trustedNedIcon := result, ui.noTrustedNedIcon := ¬ result }
  strOf validateTime
  let text := if result then "The NED is trusted" else "The NED is not trusted"
  modify fun app => { app with ui.attestationStatus := text }
  match validateTime with
  | .null => throw .unboundLocal
  | textTime => modify fun app => { app with ui.attestationTime := textTime }

/-- Showing a verdict writes widgets only. -/
lemma frames_setAttestationStatus {γ : Type} {v : App → γ}
    (hui : ∀ (app : App) (ui : Widgets), v { app with ui := ui } = v app) (result : Bool) :
    Frames v (setAttestationStatus result) := by
  refine .get_bind fun app => .bind (.modify fun _ => hui _ _) fun _ => .bind ?_ fun _ => ?_
  · cases app.attestationTask.validateTime with
    | str s => exact .ite (.pure _) (.throw _)
    | _ => exact .pure _
  · refine .bind (.modify fun _ => hui _ _) fun _ => ?_
    split
    · exact .throw _
    · exact .modify fun _ => hui _ _

/-- `showAttestationResult`: the warning is shown once after a login. -/
def showAttestationResult (env : AttestationEnv) (result : Bool) : Py App Unit := do
  setAttestationStatus result
  let app ← get
  if result = false ∧ app.attestationWarningShown = false then
    modify fun app => { app with attestationWarningShown := true }
    if env.yes then
      logout env.reply
      closeIPsecConnection env.stop
      modify fun app => { app with quit := true }

/-- The slot `onAttestation`. -/
def onAttestation (env : AttestationEnv) : Py App Unit := do
  let app ← get
  match app.attestationTask.trusted with
  | some result => showAttestationResult env result
  | none => pure ()
  -- without mobility the tunnel is made after the attestation result
  let app ← get
  if app.useMobility = false ∧ app.activeIpsecConnection = none then
    makeIPsecConnection env.start app.ipsecNedConnectionName

/-! ### The two readers of an answer -/

/-- An entry of the results: the host it is about and its trust level. -/
def HasEntry (e : Json) (host level : String) : Prop :=
  e.member? "host_name" = some (.str host) ∧ e.member? "trust_lvl" = some (.str level)

lemma objectGetEx_of_member {j x : Json} {key : String} (h : j.member? key = some x) :
    j.objectGetEx key = x := by
  cases j with
  | obj members =>
    rw [Json.member?] at h
    simp [Json.objectGetEx, h]
  | _ => cases h

/-- The plugin's reading of results that begin with an entry about the peer. -/
lemma resultsLoop_first {J : JsonC} {peerHostname : CStr} {e : Json} {host level : String}
    (rest : List Json) (he : HasEntry e host level) (hhost : cstr host.toList = peerHostname)
    (hlevel : cstr level.toList = level.toList) :
    ∃ r, resultsLoop J peerHostname (e :: rest) = .ok r ∧
      (r.1 = 1 ↔ level = "trusted") ∧ (r.1 = -1 ↔ level = "untrusted") := by
  have hname : J.getCStr (e.objectGetEx "host_name") = some peerHostname := by
    rw [objectGetEx_of_member he.1, JsonC.getCStr_str, hhost]
  refine ⟨_, resultsLoop_peer rest hname (objectGetEx_of_member he.2), ?_, ?_⟩
  · rw [levelResult_eq_one_iff, hlevel, String.toList_inj]
  · rw [levelResult_eq_neg_one_iff, hlevel, String.toList_inj]

/-- The last request of a call was answered with the value `answer`. -/
def Attestation.Answered (J : JsonC) (fetch : Fetcher) (a : Attestation) (answer : Json) : Prop :=
  ∃ request, a.sent.getLast? = some request ∧ (fetch request).status = .success ∧
    J.tokenerParse (fetch request).response = answer

/-- The value of a call is read from the results of the answer it got. -/
lemma resultsLoop_of_answered {J : JsonC} {settings : Settings} {fetch : Fetcher}
    {peerHostname peerCertDigest : CStr} {a : Attestation} {answer : Json} {entries : List Json}
    (h : oatAttestRequest J settings fetch peerHostname peerCertDigest = .ok a)
    (hanswered : a.Answered J fetch answer)
    (hresults : answer.member? "results" = some (.arr entries)) :
    ∃ r, resultsLoop J peerHostname entries = .ok r ∧ a.attestResult = r.1 := by
  obtain ⟨request, hlast, hstatus, hparse⟩ := hanswered
  rcases oatAttestRequest_eq_ok h with rfl | ⟨sent, server, r, -, hread, rfl⟩
  · cases hlast
  · have hrequest : verifierAnswer settings fetch peerHostname peerCertDigest server
        = fetch request := by
      rw [attestOut, List.getLast?_concat, Option.some.injEq] at hlast
      rw [verifierAnswer, hlast]
    rw [← hparse] at hresults
    rw [hrequest, readResponse_of_results hstatus (objectGetEx_of_member hresults)] at hread
    exact ⟨r, hread, rfl⟩

lemma trustedOf_eq_true_iff {level : String} :
    trustedOf (some (.str level)) = some true ↔ level = "trusted" := by
  rw [trustedOf]
  split_ifs <;> simp_all

lemma trustedOf_eq_false_iff {level : String} :
    trustedOf (some (.str level)) = some false ↔
      level = "untrusted" ∨ level = "vtime-err" ∨ level = "cert-err" := by
  rw [trustedOf]
  split_ifs <;> simp_all

/-- A look-up in a text finds nothing, so an answer with results is none that raises. -/
lemma handlerRaises_of_member {answer j : Json} {key : String} (h : answer.member? key = some j) :
    handlerRaises (some (some answer)) = false := by
  cases answer with
  | str s => cases h
  | _ => rfl

/-- What a poll that is answered stores. -/
lemma trusted_issuePollAttestation {app : App} {post : Post} {request : PollRequest}
    {answer : Json}
    (hrequest : pollRequest app.config app.attestationTask.currentAP = some request)
    (hpost : post request = some (some answer))
    (hraises : handlerRaises (some (some answer)) = false) :
    (after (issuePollAttestation post) app).attestationTask.trusted
      = trustedOf (firstResult answer "trust_lvl") := by
  rw [issuePollAttestation, after_get_bind, hrequest]
  simp [hpost, hraises, pollTrusted]

/-- The GUI and the plugin agree on an answer that has no results or begins with an entry about
the peer, but for the two levels that only the GUI holds against it. -/
theorem verdicts_agree (J : JsonC) (settings : Settings) (fetch : Fetcher)
    (peerHostname peerCertDigest : CStr) (a : Attestation) (app : App) (post : Post)
    (request : PollRequest) (answer : Json) (entries : List Json)
    (ha : oatAttestRequest J settings fetch peerHostname peerCertDigest = .ok a)
    (hanswered : a.Answered J fetch answer)
    (hrequest : pollRequest app.config app.attestationTask.currentAP = some request)
    (hpost : post request = some (some answer))
    (hresults : answer.member? "results" = some (.arr entries))
    (hentries : ∀ e ∈ entries, ∃ host level, HasEntry e host level)
    (hfirst : ∀ e host level, entries.head? = some e → HasEntry e host level →
      cstr host.toList = peerHostname ∧ cstr level.toList = level.toList) :
    ((after (issuePollAttestation post) app).attestationTask.trusted = some true ↔
      a.attestResult = 1) ∧
    ((after (issuePollAttestation post) app).attestationTask.trusted = some false ↔
      a.attestResult = -1 ∨ ∃ e host level, entries.head? = some e ∧ HasEntry e host level ∧
        (level = "vtime-err" ∨ level = "cert-err")) := by
  obtain ⟨r, hloop, hvalue⟩ := resultsLoop_of_answered ha hanswered hresults
  rw [trusted_issuePollAttestation hrequest hpost (handlerRaises_of_member hresults), firstResult,
    hresults, hvalue, Option.bind_some]
  cases entries with
  | nil =>
    obtain rfl : (0, none) = r := Except.ok.inj hloop
    simp [Json.index?, trustedOf]
  | cons e rest =>
    obtain ⟨host, level, he⟩ := hentries e List.mem_cons_self
    obtain ⟨hhost, hlevel⟩ := hfirst e host level rfl he
    obtain ⟨r', hloop', htrusted, huntrusted⟩ := resultsLoop_first rest he hhost hlevel
    obtain rfl : r' = r := Except.ok.inj (hloop'.symm.trans hloop)
    have hunique : ∀ host' level', HasEntry e host' level' → level' = level := by
      intro host' level' he'
      have := he'.2.symm.trans he.2
      simpa using this
    have hread : ((Json.arr (e :: rest)).index? 0).bind (·.member? "trust_lvl")
        = some (.str level) := he.2
    rw [htrusted, huntrusted, hread, trustedOf_eq_true_iff, trustedOf_eq_false_iff]
    refine ⟨Iff.rfl, or_congr_right ?_⟩
    constructor
    · intro herr
      exact ⟨e, host, level, rfl, he, herr⟩
    · rintro ⟨e', host', level', heq, he', herr⟩
      obtain rfl : e = e' := Option.some.inj heq
      rwa [hunique host' level' he'] at herr

/-- The GUI as it is constructed, and a post that is answered with one value. -/
def constructedApp : App := .constructed guiConf true "ned" "ned" none

def Post.always (answer : Json) : Post := fun _ => some (some answer)

lemma exists_pollRequest :
    ∃ request, pollRequest constructedApp.config constructedApp.attestationTask.currentAP
      = some request := by
  rw [← Option.isSome_iff_exists]
  decide +kernel

theorem verdicts_agree_ned :
    ∃ a, oatAttestRequest resultsJsonC .withServer (.always trustedText) "ned".toList nedDigest
        = .ok a ∧
      ((after (issuePollAttestation (.always (resultsJson "ned" "trusted")))
          constructedApp).attestationTask.trusted = some true ↔ a.attestResult = 1) := by
  have hmap : (oatAttestRequest resultsJsonC .withServer (.always trustedText) "ned".toList
      nedDigest).toOption.map (fun a => a.sent.length) = some 1 := by
    decide +kernel
  obtain ⟨a, ha, hlength⟩ := exists_ok_of_toOption_map hmap
  obtain ⟨request, hrequest⟩ := exists_pollRequest
  refine ⟨a, ha, (verdicts_agree resultsJsonC .withServer (.always trustedText) "ned".toList
    nedDigest a constructedApp (.always (resultsJson "ned" "trusted")) request
    (resultsJson "ned" "trusted") _ ha ?_ hrequest rfl rfl ?_ ?_).1⟩
  · obtain ⟨last, hlast⟩ := List.length_eq_one_iff.mp hlength
    exact ⟨last, by rw [hlast]; rfl, rfl, rfl⟩
  · intro e he
    obtain rfl := List.mem_singleton.mp he
    exact ⟨"ned", "trusted", by simp [HasEntry, Json.member?, List.lookup_cons]⟩
  · intro e host level he hentry
    obtain rfl := Option.some.inj he
    obtain ⟨rfl, rfl⟩ : "ned" = host ∧ "trusted" = level := by
      simpa [HasEntry, Json.member?, List.lookup_cons] using hentry
    exact ⟨by decide, by decide⟩

/-- An answer that begins with another host, and one with a level of its own for the peer. -/
def mixedJson : Json :=
  .obj [("results", .arr [
    .obj [("host_name", .str "other"), ("trust_lvl", .str "trusted")],
    .obj [("host_name", .str "ned"), ("trust_lvl", .str "untrusted")]])]

def mixedText : String :=
  "\x7b\"results\":[\x7b\"host_name\":\"other\",\"trust_lvl\":\"trusted\"\x7d,"
    ++ "\x7b\"host_name\":\"ned\",\"trust_lvl\":\"untrusted\"\x7d]\x7d"

def vtimeText : String :=
  "\x7b\"results\":[\x7b\"host_name\":\"ned\",\"trust_lvl\":\"vtime-err\"\x7d]\x7d"

def differingJsonC : JsonC :=
  .ofTable [(mixedText.toList, mixedJson), (vtimeText.toList, resultsJson "ned" "vtime-err")]

/-- The two readers differ on both answers. -/
theorem verdicts_differ :
    (∃ a, oatAttestRequest differingJsonC .withServer (.always mixedText) "ned".toList nedDigest
        = .ok a ∧ a.attestResult = -1 ∧
      (after (issuePollAttestation (.always mixedJson)) constructedApp).attestationTask.trusted
        = some true) ∧
    ∃ a, oatAttestRequest differingJsonC .withServer (.always vtimeText) "ned".toList nedDigest
        = .ok a ∧ a.attestResult = 0 ∧
      (after (issuePollAttestation (.always (resultsJson "ned" "vtime-err")))
        constructedApp).attestationTask.trusted = some false := by
  have hmixed : (oatAttestRequest differingJsonC .withServer (.always mixedText) "ned".toList
      nedDigest).toOption.map (·.attestResult) = some (-1) := by
    decide +kernel
  have hvtime : (oatAttestRequest differingJsonC .withServer (.always vtimeText) "ned".toList
      nedDigest).toOption.map (·.attestResult) = some 0 := by
    decide +kernel
  obtain ⟨a, ha, hresult⟩ := exists_ok_of_toOption_map hmixed
  obtain ⟨a', ha', hresult'⟩ := exists_ok_of_toOption_map hvtime
  exact ⟨⟨a, ha, hresult, by decide +kernel⟩, a', ha', hresult', by decide +kernel⟩

end SecuredApp
