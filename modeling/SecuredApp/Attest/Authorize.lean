import SecuredApp.Attest.Request
import Mathlib.Data.List.Perm.Basic

/-!
# The authorize hook

The hook of the oat-attest listener and the loop of the bus that calls it. The part enumerator
and the hasher belong to libstrongswan: a certificate is given with the parts its subject
enumerates, and the hexadecimal SHA-1 digest is a function `sha1Hex` of the encoding.
-/

namespace SecuredApp

open SecuredApp.Core

/-- The part types of a subject, of which only the common name is told apart. -/
inductive IdPart where
  | rdnCN
  | other
deriving DecidableEq

/-- A peer certificate: the parts of its subject and what `get_encoding` yields for DER. -/
structure Certificate where
  subject : List (IdPart × List Char)
  encoding : Option (List Char)

/-- One remote authentication round, by its subject certificate. -/
abbrev AuthCfg := Option Certificate

/-- What the world does in a round: the answers of the NED and the verifier, and whether
`oat-attest.data` can be opened. -/
structure RoundEnv where
  fetch : Fetcher
  dataFile : Bool

/-- What `update_cert_info` writes to `oat-attest.data`. -/
structure CertInfo where
  cn : CStr
  dgst : CStr
  level : Option CStr
deriving DecidableEq

/-- The data of a monitor job. Its `ike_sa_id` is not a field here: for every job it is the
address of the one static `current_id`. -/
structure AttestData where
  hostName : CStr
  certDigest : CStr
  attestInterval : UInt32
deriving DecidableEq

/-- A monitor job: its data and the variables of the loop of `attest_request`. The fields
`owner`, the IKE_SA that queued it, and `polls`, the results so far, newest first, are not in
the source. -/
structure Monitor where
  data : AttestData
  owner : UInt32
  attestResult : Int
  count : Nat
  polls : List Int
  ended : Bool
deriving DecidableEq

/-- The state the plugin shares between its calls. The lists `verdicts` of all verdicts received
and `attestations` of what the calls of `oat_attest_request` in the hook left, both newest first,
are not in the source. -/
structure Plugin where
  settings : Settings
  currentId : UInt32
  certInfo : Option CertInfo
  monitors : List Monitor
  verdicts : List (CStr × Int)
  attestations : List Attestation

def Settings.getAttestPeer (settings : Settings) : Bool := settings.attestPeer.getD false

def Settings.getKnownCertDigest (settings : Settings) : CStr :=
  settings.knownCertDigest.getD "0000000".toList

def Settings.getAttestInterval (settings : Settings) : UInt32 := settings.attestInterval.getD 30

/-- The `data` the loop over the parts leaves: the first common name, or else the last part. -/
def extractCommonName : List (IdPart × List Char) → Option (List Char) → Option (List Char)
  | [], data => data
  | (part, data) :: rest, _ =>
    if part = .rdnCN then some data else extractCommonName rest (some data)

/-- `update_cert_info`. -/
def updateCertInfo (st : Plugin) (dataFile : Bool) (commonName certDigest : CStr) :
    Except Fault Plugin :=
  if dataFile then
    .ok { st with certInfo := some ⟨commonName, certDigest, st.settings.imaLevel⟩ }
  else .error .certInfo

/-- A job handed to the processor, before its first poll. -/
def Monitor.queued (data : AttestData) (owner : UInt32) : Monitor where
  data := data
  owner := owner
  attestResult := 0
  count := 0
  polls := []
  ended := false

section

variable (J : JsonC) (sha1Hex : List Char → CStr)

/-- The request of a round: its verdict decides `*success`, and a trusted one queues a monitor. -/
def attestRound (interval uniqueId : UInt32) (hostname digestStr : CStr) (env : RoundEnv)
    (st : Plugin) : Except Fault (Plugin × Bool) :=
  match updateCertInfo st env.dataFile hostname digestStr with
  | .error fault => .error fault
  | .ok st =>
    match oatAttestRequest J st.settings env.fetch hostname digestStr with
    | .error fault => .error fault
    | .ok a =>
      let st := { st with
        settings := a.settings
        verdicts := (digestStr, a.attestResult) :: st.verdicts
        attestations := a :: st.attestations }
      if a.attestResult = 1 then
        let job := Monitor.queued ⟨hostname, digestStr, interval⟩ uniqueId
        .ok ({ st with monitors := st.monitors ++ [job] }, true)
      else .ok (st, false)

/-- The body of the loop over the rounds, on the plugin's state and `*success`. -/
def authorizeRound (knownCertDigest : CStr) (interval uniqueId : UInt32)
    (round : AuthCfg × RoundEnv) (st : Plugin) (success : Bool) : Except Fault (Plugin × Bool) :=
  match round.1 with
  | none => .ok (st, success)
  | some cert =>
    match extractCommonName cert.subject none, cert.encoding with
    | none, _ => .error .subject
    | some _, none => .ok (st, success)
    | some data, some encoded =>
      let st := { st with currentId := uniqueId }
      if sha1Hex encoded = knownCertDigest then .ok (st, success)
      else attestRound J interval uniqueId (cstr data) (sha1Hex encoded) round.2 st

/-- The loop over the rounds. -/
def authorizeRounds (knownCertDigest : CStr) (interval uniqueId : UInt32) :
    List (AuthCfg × RoundEnv) → Plugin → Bool → Except Fault (Plugin × Bool)
  | [], st, success => .ok (st, success)
  | round :: rest, st, success =>
    match authorizeRound J sha1Hex knownCertDigest interval uniqueId round st success with
    | .error fault => .error fault
    | .ok (st, success) => authorizeRounds knownCertDigest interval uniqueId rest st success

/-- `authorize` of the oat-attest listener: the plugin's state and `*success` afterwards. It
always returns `TRUE`. The settings are read once, before the loop. -/
def authorize (uniqueId : UInt32) (rounds : List (AuthCfg × RoundEnv)) (final : Bool)
    (st : Plugin) (success : Bool) : Except Fault (Plugin × Bool) :=
  if ¬ final then .ok (st, success)
  else if ¬ st.settings.getAttestPeer then .ok (st, success)
  else
    authorizeRounds J sha1Hex st.settings.getKnownCertDigest st.settings.getAttestInterval uniqueId
      rounds st success

end

/-! ### The bus -/

/-- A registered listener: whether a call of it is under way, and its hook if it has one, from
the state and `*success` to those after it and whether it stays registered. -/
structure Entry (σ : Type*) where
  calling : Bool
  authorize : Option (σ → Bool → Except Fault (σ × Bool × Bool))

/-- The hook the bus calls of an entry; none if a call is under way. -/
def Entry.hook {σ : Type*} (entry : Entry σ) : Option (σ → Bool → Except Fault (σ × Bool × Bool)) :=
  if entry.calling then none else entry.authorize

/-- An entry after its hook ran: it is unregistered unless the hook says to keep it. -/
def Entry.after {σ : Type*} (entry : Entry σ) (keep : Bool) : List (Entry σ) :=
  if keep then [entry] else []

/-- `authorize` of the bus: the listeners left, the state and the verdict. -/
def busAuthorize {σ : Type*} : List (Entry σ) → σ → Bool →
    Except Fault (List (Entry σ) × σ × Bool)
  | [], s, success => .ok ([], s, success)
  | entry :: rest, s, success =>
    match entry.hook with
    | none => (busAuthorize rest s success).map fun r => (entry :: r.1, r.2)
    | some hook =>
      match hook s success with
      | .error fault => .error fault
      | .ok (s₁, keep, true) =>
        (busAuthorize rest s₁ true).map fun r => (entry.after keep ++ r.1, r.2)
      | .ok (s₁, keep, false) => .ok (entry.after keep ++ rest, s₁, false)

lemma except_map_eq_ok {ε α β : Type*} {x : Except ε α} {f : α → β} {b : β} :
    x.map f = .ok b ↔ ∃ a, x = .ok a ∧ f a = b := by
  cases x <;> simp [Except.map]

/-- The bus authorizes only if every hook it calls was entered with `*success` true and left it
true. -/
lemma busAuthorize_true {σ : Type*} {entries kept : List (Entry σ)} {s s' : σ}
    (h : busAuthorize entries s true = .ok (kept, s', true)) {entry : Entry σ}
    (hentry : entry ∈ entries) {hook : σ → Bool → Except Fault (σ × Bool × Bool)}
    (hhook : entry.hook = some hook) : ∃ s₁ s₂ keep, hook s₁ true = .ok (s₂, keep, true) := by
  induction entries generalizing s kept with
  | nil => cases hentry
  | cons first rest ih =>
    rw [busAuthorize] at h
    split at h
    · rename_i hnone
      obtain ⟨⟨kept', s₁, success⟩, hrest, heq⟩ := except_map_eq_ok.mp h
      obtain ⟨-, rfl, rfl⟩ := by simpa using heq
      rcases List.mem_cons.mp hentry with rfl | hentry
      · rw [hhook] at hnone
        cases hnone
      · exact ih hrest hentry
    · rename_i first' hsome
      split at h
      · cases h
      · rename_i s₁ keep hcall
        obtain ⟨⟨kept', s₂, success⟩, hrest, heq⟩ := except_map_eq_ok.mp h
        obtain ⟨-, rfl, rfl⟩ := by simpa using heq
        rcases List.mem_cons.mp hentry with rfl | hentry
        · rw [hhook, Option.some.injEq] at hsome
          exact ⟨s, s₁, keep, by rw [hsome, hcall]⟩
        · exact ih hrest hentry
      · simp at h

end SecuredApp
