import SecuredApp.Core.Json

/-!
# The attestation request of the oat-attest plugin

`oat_attest_request` of `oat_attest_listener.c` and the functions it calls. The fetcher of
libstrongswan answers each request with any status and any bytes; a `Fetcher` is one such
behaviour. A computation that hands `NULL` to a C function that needs a string, or asks the
length of what is not an array, ends in a `Fault`.

Ownership of memory is not modelled.
-/

namespace SecuredApp

open SecuredApp.Core

/-- The settings below `%s.plugins.oat-attest`, `none` where one is not set. -/
structure Settings where
  attestPeer : Option Bool
  knownCertDigest : Option CStr
  attestInterval : Option UInt32
  imaLevel : Option CStr
  useLocalVerifier : Option Bool
  nedip : Option CStr
  oatServer : Option CStr
  requestId : Option CStr

/-- The integrity level asked for, with the default of `oat_attest_request`. -/
def Settings.getImaLevel (settings : Settings) : CStr :=
  settings.imaLevel.getD "l4_ima_all_ok".toList

def Settings.getNedip (settings : Settings) : CStr := settings.nedip.getD "130.192.1.1".toList

/-- Where the code would go on with undefined behaviour, or ends the daemon. -/
inductive Fault where
  | arrayLength    -- `json_object_array_length` of what is not an array
  | strcmp         -- `strcmp` given `NULL`
  | strdup         -- `strdup` given `NULL`
  | urlFormat      -- a `%s` of an URL given `NULL`
  | certInfo       -- `exit(1)` of `update_cert_info`
  | subject        -- the uninitialised `data` of `authorize`
deriving DecidableEq

inductive FetchStatus where
  | success
  | failed
deriving DecidableEq

/-- A request to the fetcher; `data` is the object whose JSON text is sent as the body. -/
structure FetchRequest where
  uri : CStr
  data : Option Json

/-- What the fetcher hands back: a failed fetch leaves `response` the empty chunk. -/
structure FetchResult where
  status : FetchStatus
  response : List Char
  response_nil : status ≠ .success → response = []

abbrev Fetcher := FetchRequest → FetchResult

def maxBufLen : Nat := 256

/-- `POLLHOST_URL`. -/
def pollhostUrl (server : CStr) : CStr :=
  "https://".toList ++ server ++ ":8899/mach/status".toList

/-- `QVERIFIER_URL`. -/
def qverifierUrl (nedip : CStr) : CStr :=
  "https://".toList ++ nedip ++ ":8899/verifiers".toList

/-- `POSTHOST_URL`. -/
def posthostUrl (server requestId : CStr) : CStr :=
  "https://".toList ++ server ++ ":8443/AttestationService/resources/PostHosts?requestId=".toList
    ++ requestId

section

variable (J : JsonC)

/-! ### The verifier the NED names -/

/-- The question `getVerfier` puts to the NED. -/
def verifiersRequest (nedip : CStr) : FetchRequest where
  uri := snprintf maxBufLen (qverifierUrl nedip)
  data := some (.obj [("question", .str "verifiers")])

/-- The loop of `getVerfier`: the last entry's `ip` is the one that stays. -/
def verfierLoop : List Json → Option CStr → Except Fault (Option CStr)
  | [], ipAddr => .ok ipAddr
  | jvalue :: rest, _ =>
    match J.getCStr (jvalue.objectGetEx "ip") with
    | none => .error .strdup
    | some ip => verfierLoop rest (some ip)

/-- `getVerfier`. The status of the fetch is not looked at. -/
def getVerfier (fetch : Fetcher) (nedip : CStr) : Except Fault (Option CStr) :=
  let response := (fetch (verifiersRequest nedip)).response
  let jresponse := J.tokenerParse response
  match (jresponse.objectGetEx "verifiers").elems? with
  | none => .error .arrayLength
  | some responseArray => verfierLoop J responseArray none

/-! ### The request -/

/-- What a call of `oat_attest_request` leaves: the host that it was called for, its value, the
trust level it read, the requests it sent and the settings. -/
structure Attestation where
  peerHostname : CStr
  attestResult : Int
  peerTrustLevel : Option CStr
  sent : List FetchRequest
  settings : Settings

def levelPrefix : CStr := "load-time+check-cert,l_req=".toList

def digestPrefix : CStr := "|>=,cert_digest=".toList

/-- The text printed into `user_reqs`. -/
def userReqsText (imaLevel peerCertDigest : CStr) : CStr :=
  levelPrefix ++ imaLevel ++ digestPrefix ++ peerCertDigest

/-- The object `jrequest`. -/
def jrequest (peerHostname userReqs : CStr) : Json :=
  .obj [("hosts", .arr [.str (String.ofList peerHostname)]),
    ("analysisType", .str (String.ofList userReqs))]

/-- The loop over the entries of `results`. It ends at the first entry of the peer. -/
def resultsLoop (peerHostname : CStr) : List Json → Except Fault (Int × Option CStr)
  | [] => .ok (0, none)
  | jvalue :: rest =>
    match J.getCStr (jvalue.objectGetEx "host_name") with
    | none => .error .strcmp
    | some hostName =>
      if hostName = peerHostname then
        match J.getCStr (jvalue.objectGetEx "trust_lvl") with
        | none => .error .strdup
        | some trustLvl =>
          if trustLvl = "trusted".toList then .ok (1, some trustLvl)
          else if trustLvl = "untrusted".toList then .ok (-1, some trustLvl)
          else .ok (0, some trustLvl)
      else resultsLoop peerHostname rest

/-- Reading the answer of the verifier, skipped when the fetch failed. -/
def readResponse (peerHostname : CStr) (result : FetchResult) :
    Except Fault (Int × Option CStr) :=
  if result.status ≠ .success then .ok (0, none)
  else
    match ((J.tokenerParse result.response).objectGetEx "results").elems? with
    | none => .error .arrayLength
    | some responseArray => resultsLoop J peerHostname responseArray

/-- The code from the label `out` on: a trusted peer becomes the known one. -/
def attestOut (settings : Settings) (peerHostname peerCertDigest : CStr)
    (sent : List FetchRequest) (result : Int × Option CStr) : Attestation where
  peerHostname := peerHostname
  attestResult := result.1
  peerTrustLevel := result.2
  sent := sent
  settings :=
    if result.1 = 1 then { settings with knownCertDigest := some peerCertDigest } else settings

/-- The body of the request: the analysis text goes through the buffer `user_reqs`. -/
def requestBody (settings : Settings) (peerHostname peerCertDigest : CStr) : Json :=
  let userReqs := snprintf maxBufLen (userReqsText settings.getImaLevel peerCertDigest)
  jrequest peerHostname userReqs

/-- The request sent to the verifier: with a `request_id` it has no body. -/
def verifierRequest (requestId : Option CStr) (oatServer : CStr) (body : Json) : FetchRequest :=
  match requestId with
  | some requestId => ⟨snprintf maxBufLen (posthostUrl oatServer requestId), none⟩
  | none => ⟨snprintf maxBufLen (pollhostUrl oatServer), some body⟩

/-- `oat_attest_request` once the verifier is known: send the request, read the answer. -/
def askVerifier (settings : Settings) (fetch : Fetcher) (peerHostname peerCertDigest : CStr)
    (sent : List FetchRequest) (oatServer : Option CStr) : Except Fault Attestation :=
  match oatServer with
  | none => .error .urlFormat
  | some oatServer =>
    let request := verifierRequest settings.requestId oatServer
      (requestBody settings peerHostname peerCertDigest)
    match readResponse J peerHostname (fetch request) with
    | .error fault => .error fault
    | .ok result => .ok (attestOut settings peerHostname peerCertDigest (sent ++ [request]) result)

/-- `oat_attest_request`. -/
def oatAttestRequest (settings : Settings) (fetch : Fetcher)
    (peerHostname peerCertDigest : CStr) : Except Fault Attestation :=
  if settings.useLocalVerifier.getD true then
    match settings.oatServer with
    | none => .ok (attestOut settings peerHostname peerCertDigest [] (0, none))
    | some oatServer =>
      askVerifier J settings fetch peerHostname peerCertDigest [] (some oatServer)
  else
    match getVerfier J fetch settings.getNedip with
    | .error fault => .error fault
    | .ok oatServer =>
      askVerifier J settings fetch peerHostname peerCertDigest [verifiersRequest settings.getNedip]
        oatServer

end

end SecuredApp
