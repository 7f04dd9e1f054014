import SecuredApp.Core.Run
import SecuredApp.Attest.Verdict

/-!
# The plugin inside the daemon

The steps of the daemon that touch the plugin: authorize calls, the polls of the monitors they
queue, and the user's answers to the monitors that left their loop. The bus holds its mutex
while it calls the hooks, so at most one authorize call is under way at a time; its rounds
interleave with the steps of the monitors, which run on threads of their own.
-/

namespace SecuredApp

open SecuredApp.Core

/-- An authorize call under way: what it read from the settings, the rounds left and
`*success`. The outcomes of the rounds so far are not in the source. -/
structure AuthCall where
  uniqueId : UInt32
  knownCertDigest : CStr
  interval : UInt32
  rest : List AuthCfg
  success : Bool
  outcomes : List RoundOutcome

/-- A finished authorize call: the value of `*success` and the outcomes of its rounds. -/
structure AuthRecord where
  uniqueId : UInt32
  accepted : Bool
  outcomes : List RoundOutcome
deriving DecidableEq

/-- A call of `terminate_ike` by a monitor: the IKE_SA that queued it and the id it passed. -/
structure Termination where
  owner : UInt32
  uniqueId : UInt32
deriving DecidableEq

/-- The daemon: the plugin's state, the call under way, and the calls of `authorize` (with
`attest_peer` on) and `terminate_ike` so far, newest first. -/
structure Daemon where
  plugin : Plugin
  call : Option AuthCall
  authorized : List AuthRecord
  terminations : List Termination

inductive Event where
  | authorize (uniqueId : UInt32) (rounds : List AuthCfg)  -- the final hook is entered
  | round (env : RoundEnv)                                 -- its next round
  | finish                                                 -- it returns
  | poll (i : Nat) (fetch : Fetcher)                       -- a pass of the loop of monitor `i`
  | answer (i : Nat) (input : List Char)                   -- the user answers monitor `i`

/-- The guard of the loop of `attest_request`. -/
def Monitor.looping (m : Monitor) : Bool := m.attestResult ≠ -1 ∧ m.count < 3

/-- A pass of the loop of `attest_request` that got the value `attestResult`. -/
def Monitor.polled (m : Monitor) (attestResult : Int) : Monitor :=
  { m with
    attestResult := attestResult
    count := if attestResult = 0 then m.count + 1 else 0
    polls := attestResult :: m.polls }

/-- The user's answer closes the connection: it has a `y` or a `Y`. -/
def saysYes (input : List Char) : Bool :=
  let ans := fgets maxBufLen input
  strstr ans "y".toList || strstr ans "Y".toList

section

variable (J : JsonC) (sha1Hex : List Char → CStr)

/-- Entering the final hook. With `attest_peer` off it returns at once. -/
def Daemon.enter (d : Daemon) (uniqueId : UInt32) (rounds : List AuthCfg) : Option Daemon :=
  if d.call.isSome then none
  else if ¬ d.plugin.settings.getAttestPeer then some d
  else
    some { d with
      call := some {
        uniqueId := uniqueId
        knownCertDigest := d.plugin.settings.getKnownCertDigest
        interval := d.plugin.settings.getAttestInterval
        rest := rounds
        success := true
        outcomes := [] } }

/-- The outcome of a round of the call under way: the known digest is the one it read. -/
def Daemon.outcome (d : Daemon) (call : AuthCall) (round : AuthCfg × RoundEnv) : RoundOutcome :=
  roundOutcome J sha1Hex { d.plugin.settings with knownCertDigest := some call.knownCertDigest }
    round

/-- The next round of the call under way; the daemon is gone if it ends in a fault. -/
def Daemon.round (d : Daemon) (env : RoundEnv) : Option Daemon :=
  match d.call with
  | none => none
  | some call =>
    match call.rest with
    | [] => none
    | cfg :: rest =>
      match authorizeRound J sha1Hex call.knownCertDigest call.interval call.uniqueId (cfg, env)
        d.plugin call.success with
      | .error _ => none
      | .ok (plugin, success) =>
        some { d with
          plugin := plugin
          call := some { call with
            rest := rest
            success := success
            outcomes := call.outcomes ++ [d.outcome J sha1Hex call (cfg, env)] } }

/-- The return of the call under way, when no round is left. -/
def Daemon.finish (d : Daemon) : Option Daemon :=
  match d.call with
  | none => none
  | some call =>
    match call.rest with
    | _ :: _ => none
    | [] =>
      some { d with
        call := none
        authorized := ⟨call.uniqueId, call.success, call.outcomes⟩ :: d.authorized }

/-- A pass of the loop of monitor `i`. -/
def Daemon.poll (d : Daemon) (i : Nat) (fetch : Fetcher) : Option Daemon :=
  match d.plugin.monitors[i]? with
  | none => none
  | some m =>
    if m.ended ∨ ¬ m.looping then none
    else
      match oatAttestRequest J d.plugin.settings fetch m.data.hostName m.data.certDigest with
      | .error _ => none
      | .ok a =>
        some { d with
          plugin := { d.plugin with
            settings := a.settings
            monitors := d.plugin.monitors.set i (m.polled a.attestResult)
            verdicts := (m.data.certDigest, a.attestResult) :: d.plugin.verdicts } }

/-- The end of monitor `i`: the IKE_SA it terminates is the one `current_id` holds now. -/
def Daemon.answer (d : Daemon) (i : Nat) (input : List Char) : Option Daemon :=
  match d.plugin.monitors[i]? with
  | none => none
  | some m =>
    if m.ended ∨ m.looping then none
    else
      let plugin := { d.plugin with monitors := d.plugin.monitors.set i { m with ended := true } }
      if saysYes input then
        some { d with
          plugin := plugin
          terminations := ⟨m.owner, d.plugin.currentId⟩ :: d.terminations }
      else some { d with plugin := plugin }

def Daemon.step (d : Daemon) : Event → Option Daemon
  | .authorize uniqueId rounds => d.enter uniqueId rounds
  | .round env => d.round J sha1Hex env
  | .finish => d.finish
  | .poll i fetch => d.poll J i fetch
  | .answer i input => d.answer i input

end

/-- The daemon after start-up, with the settings of its configuration file. -/
def Daemon.init (settings : Settings) : Daemon where
  plugin := .fresh settings
  call := none
  authorized := []
  terminations := []

/-! ### What a step can do -/

variable {J : JsonC} {sha1Hex : List Char → CStr}

/-- The digest a round calculates, if its certificate has an encoding. -/
def certDigest (sha1Hex : List Char → CStr) (cfg : AuthCfg) : Option CStr :=
  cfg.bind fun cert => cert.encoding.map sha1Hex

/-- The state after a round that asked about the host `hostname` and got the answer `a`. -/
def Plugin.asked (st : Plugin) (interval uniqueId : UInt32) (hostname digest : CStr)
    (a : Attestation) : Plugin where
  settings := a.settings
  currentId := uniqueId
  certInfo := some ⟨hostname, digest, st.settings.imaLevel⟩
  monitors := st.monitors ++
    if a.attestResult = 1 then [.queued ⟨hostname, digest, interval⟩ uniqueId] else []
  verdicts := (digest, a.attestResult) :: st.verdicts
  attestations := a :: st.attestations

/-- What a round without fault does: its outcome, the plugin's state and `*success`. -/
inductive RoundDone (J : JsonC) (sha1Hex : List Char → CStr) (known : CStr)
    (interval uniqueId : UInt32) (cfg : AuthCfg) (env : RoundEnv) (st : Plugin) (success : Bool) :
    RoundOutcome → Plugin → Bool → Prop
  | skipped {outcome : RoundOutcome} (hdigest : certDigest sha1Hex cfg = none)
      (hne : outcome ≠ .attested) : RoundDone J sha1Hex known interval uniqueId cfg env st success
        outcome st success
  | known (hdigest : certDigest sha1Hex cfg = some known) :
      RoundDone J sha1Hex known interval uniqueId cfg env st success
        .known { st with currentId := uniqueId } success
  | asked {digest hostname : CStr} {a : Attestation}
      (hdigest : certDigest sha1Hex cfg = some digest) (hne : digest ≠ known)
      (ha : oatAttestRequest J st.settings env.fetch hostname digest = .ok a) :
      RoundDone J sha1Hex known interval uniqueId cfg env st success
        (if a.attestResult = 1 then .attested else .refused)
        (st.asked interval uniqueId hostname digest a) (decide (a.attestResult = 1))

/-- A request that is answered is what the round does. -/
lemma attestRound_of_ok {interval uniqueId : UInt32} {hostname digest : CStr} {env : RoundEnv}
    {st : Plugin} {a : Attestation} (hfile : env.dataFile = true)
    (ha : oatAttestRequest J st.settings env.fetch hostname digest = .ok a) :
    attestRound J interval uniqueId hostname digest env { st with currentId := uniqueId }
      = .ok (st.asked interval uniqueId hostname digest a, decide (a.attestResult = 1)) := by
  simp only [attestRound, updateCertInfo, hfile, if_true, ha]
  by_cases htrusted : a.attestResult = 1
  · simp [htrusted, Plugin.asked]
  · simp [htrusted, Plugin.asked]

lemma authorizeRound_done {known : CStr} {interval uniqueId : UInt32} {cfg : AuthCfg}
    {env : RoundEnv} {st st' : Plugin} {success success' : Bool}
    (h : authorizeRound J sha1Hex known interval uniqueId (cfg, env) st success
      = .ok (st', success')) :
    RoundDone J sha1Hex known interval uniqueId cfg env st success
      (roundOutcome J sha1Hex { st.settings with knownCertDigest := some known } (cfg, env))
      st' success' := by
  cases cfg with
  | none =>
    obtain ⟨rfl, rfl⟩ := Prod.mk.inj (Except.ok.inj h)
    exact .skipped rfl (by simp [roundOutcome])
  | some cert =>
    have hget : ({ st.settings with knownCertDigest := some known } : Settings).getKnownCertDigest
      = known := rfl
    simp only [authorizeRound, roundOutcome] at h ⊢
    cases hcn : extractCommonName cert.subject none with
    | none => simp [hcn] at h
    | some data =>
      cases henc : cert.encoding with
      | none =>
        simp only [hcn, henc, Except.ok.injEq, Prod.mk.injEq] at h ⊢
        obtain ⟨rfl, rfl⟩ := h
        exact .skipped (by simp [certDigest, henc]) (by simp)
      | some encoded =>
        have hdigest : certDigest sha1Hex (some cert) = some (sha1Hex encoded) := by
          simp [certDigest, henc]
        simp only [hcn, henc] at h ⊢
        by_cases hknown : sha1Hex encoded = known
        · rw [if_pos hknown] at h
          rw [if_pos (hknown.trans hget.symm)]
          obtain ⟨rfl, rfl⟩ := Prod.mk.inj (Except.ok.inj h)
          exact .known (hknown ▸ hdigest)
        rw [if_neg hknown] at h
        rw [if_neg (hget.symm ▸ hknown)]
        cases hfile : env.dataFile with
        | false => simp [attestRound, updateCertInfo, hfile] at h
        | true =>
          -- the outcome is read off the settings with the known digest put back
          rcases oatAttestRequest_withKnown J st.settings env.fetch (cstr data) (sha1Hex encoded)
            (some known) with ⟨fault, fault', hreq, -⟩ | ⟨a, a', hreq, hreq', ha'⟩
          · simp [attestRound, updateCertInfo, hfile, hreq] at h
          · rw [attestRound_of_ok hfile hreq] at h
            obtain ⟨rfl, rfl⟩ := Prod.mk.inj (Except.ok.inj h)
            simp only [hreq', ha', not_true_eq_false, if_false]
            exact .asked hdigest hknown hreq

/-- The state after monitor `i`, which was `m`, got the answer `a`. -/
def Daemon.answered (d : Daemon) (i : Nat) (m : Monitor) (a : Attestation) : Daemon :=
  { d with
    plugin := { d.plugin with
      settings := a.settings
      monitors := d.plugin.monitors.set i (m.polled a.attestResult)
      verdicts := (m.data.certDigest, a.attestResult) :: d.plugin.verdicts } }

/-- The steps of the daemon, as a relation. -/
inductive Daemon.Step (J : JsonC) (sha1Hex : List Char → CStr) (d : Daemon) :
    Event → Daemon → Prop
  | pass {uniqueId rounds} (hcall : d.call = none)
      (hpeer : d.plugin.settings.getAttestPeer = false) :
      Step J sha1Hex d (.authorize uniqueId rounds) d
  | enter {uniqueId rounds} (hcall : d.call = none)
      (hpeer : d.plugin.settings.getAttestPeer = true) :
      Step J sha1Hex d (.authorize uniqueId rounds)
        { d with call := some ⟨uniqueId, d.plugin.settings.getKnownCertDigest,
          d.plugin.settings.getAttestInterval, rounds, true, []⟩ }
  | round {env call cfg rest outcome st success} (hcall : d.call = some call)
      (hrest : call.rest = cfg :: rest)
      (hdone : RoundDone J sha1Hex call.knownCertDigest call.interval call.uniqueId cfg env d.plugin
        call.success outcome st success) :
      Step J sha1Hex d (.round env)
        { d with
          plugin := st
          call := some { call with
            rest := rest
            success := success
            outcomes := call.outcomes ++ [outcome] } }
  | finish {call} (hcall : d.call = some call) (hrest : call.rest = []) :
      Step J sha1Hex d .finish
        { d with
          call := none
          authorized := ⟨call.uniqueId, call.success, call.outcomes⟩ :: d.authorized }
  | poll {i fetch m a} (hm : d.plugin.monitors[i]? = some m) (hended : m.ended = false)
      (hloop : m.looping = true)
      (ha : oatAttestRequest J d.plugin.settings fetch m.data.hostName m.data.certDigest = .ok a) :
      Step J sha1Hex d (.poll i fetch) (d.answered i m a)
  | answer {i input m} (hm : d.plugin.monitors[i]? = some m) (hended : m.ended = false)
      (hloop : m.looping = false) :
      Step J sha1Hex d (.answer i input)
        { d with
          plugin := { d.plugin with
            monitors := d.plugin.monitors.set i { m with ended := true } }
          terminations :=
            if saysYes input then ⟨m.owner, d.plugin.currentId⟩ :: d.terminations
            else d.terminations }

/-- A step of the daemon is one of the steps of the relation. -/
lemma Daemon.step_sound {d d' : Daemon} {e : Event} (h : d.step J sha1Hex e = some d') :
    Daemon.Step J sha1Hex d e d' := by
  cases e with
  | authorize uniqueId rounds =>
    simp only [step, enter] at h
    cases hcall : d.call with
    | some call => simp [hcall] at h
    | none =>
      cases hpeer : d.plugin.settings.getAttestPeer with
      | false =>
        simp only [hcall, hpeer, Option.isSome_none, Bool.false_eq_true, not_false_eq_true,
          if_false, if_true, Option.some.injEq] at h
        exact h ▸ .pass hcall hpeer
      | true =>
        simp only [hcall, hpeer, Option.isSome_none, Bool.false_eq_true, not_true_eq_false,
          if_false, Option.some.injEq] at h
        exact h ▸ .enter hcall hpeer
  | round env =>
    simp only [step, round] at h
    cases hcall : d.call with
    | none => simp [hcall] at h
    | some call =>
      cases hrest : call.rest with
      | nil => simp [hcall, hrest] at h
      | cons cfg rest =>
        simp only [hcall, hrest] at h
        split at h
        · cases h
        · rename_i st success hround
          rw [Option.some.injEq] at h
          exact h ▸ .round hcall hrest (authorizeRound_done hround)
  | finish =>
    simp only [step, finish] at h
    cases hcall : d.call with
    | none => simp [hcall] at h
    | some call =>
      cases hrest : call.rest with
      | cons cfg rest => simp [hcall, hrest] at h
      | nil =>
        simp only [hcall, hrest, Option.some.injEq] at h
        exact h ▸ .finish hcall hrest
  | poll i fetch =>
    simp only [step, poll] at h
    cases hm : d.plugin.monitors[i]? with
    | none => simp [hm] at h
    | some m =>
      simp only [hm] at h
      split_ifs at h with hguard
      rw [not_or, not_not] at hguard
      split at h
      · cases h
      · rename_i a ha
        rw [Option.some.injEq] at h
        exact h ▸ .poll hm (by simpa using hguard.1) hguard.2 ha
  | answer i input =>
    simp only [step, answer] at h
    cases hm : d.plugin.monitors[i]? with
    | none => simp [hm] at h
    | some m =>
      simp only [hm] at h
      split_ifs at h with hguard hyes
      all_goals
        rw [not_or] at hguard
        rw [Option.some.injEq] at h
        have hstep : Step J sha1Hex d (.answer i input) _ :=
          .answer hm (by simpa using hguard.1) (by simpa using hguard.2)
        simpa [hyes, h] using hstep

/-! ### A call that is not interrupted -/

/-- The rounds of a call, one step each, are the loop of `authorize`. -/
lemma Daemon.run_rounds {d : Daemon} {call : AuthCall} {rounds : List (AuthCfg × RoundEnv)}
    {st : Plugin} {success : Bool} (hcall : d.call = some call)
    (hrest : call.rest = rounds.map Prod.fst)
    (h : authorizeRounds J sha1Hex call.knownCertDigest call.interval call.uniqueId rounds d.plugin
      call.success = .ok (st, success)) :
    ∃ outcomes, run (Daemon.step J sha1Hex) d (rounds.map fun r => .round r.2)
      = some { d with
          plugin := st
          call := some { call with rest := [], success := success, outcomes := outcomes } } := by
  induction rounds generalizing d call with
  | nil =>
    obtain ⟨rfl, rfl⟩ := Prod.mk.inj (Except.ok.inj h)
    rw [List.map_nil] at hrest
    exact ⟨call.outcomes, by rw [List.map_nil, run_nil, ← hrest, ← hcall]⟩
  | cons round rounds ih =>
    rw [authorizeRounds] at h
    rw [List.map_cons] at hrest
    split at h
    · cases h
    · rename_i st₁ success₁ hround
      set call₁ : AuthCall := { call with
        rest := rounds.map Prod.fst
        success := success₁
        outcomes := call.outcomes ++ [d.outcome J sha1Hex call round] } with hcall₁
      have hstep : d.step J sha1Hex (.round round.2)
          = some { d with plugin := st₁, call := some call₁ } := by
        simp only [step, Daemon.round, hcall, hrest, Prod.eta, hround, hcall₁]
      set d₁ : Daemon := { d with plugin := st₁, call := some call₁ } with hd₁
      have hcall₁ : d₁.call = some call₁ := rfl
      obtain ⟨outcomes, hrun⟩ := ih hcall₁ rfl h
      exact ⟨outcomes, by rw [List.map_cons, run_cons, hstep, Option.bind_some, hrun]⟩

/-- The steps of a whole call do what `authorize` does in one. -/
lemma Daemon.run_authorize {d : Daemon} {uniqueId : UInt32} {rounds : List (AuthCfg × RoundEnv)}
    {st : Plugin} {success : Bool} (hcall : d.call = none)
    (hpeer : d.plugin.settings.getAttestPeer = true)
    (h : authorize J sha1Hex uniqueId rounds true d.plugin true = .ok (st, success)) :
    ∃ outcomes, run (Daemon.step J sha1Hex) d
        (.authorize uniqueId (rounds.map Prod.fst) :: (rounds.map fun r => .round r.2) ++ [.finish])
      = some { d with
          plugin := st, authorized := ⟨uniqueId, success, outcomes⟩ :: d.authorized } := by
  simp only [authorize, hpeer, not_true_eq_false, if_false] at h
  set call : AuthCall := ⟨uniqueId, d.plugin.settings.getKnownCertDigest,
    d.plugin.settings.getAttestInterval, rounds.map Prod.fst, true, []⟩ with hcalldef
  have henter : d.step J sha1Hex (.authorize uniqueId (rounds.map Prod.fst))
      = some { d with call := some call } := by
    simp [step, enter, hcall, hpeer, hcalldef]
  have hentered : Daemon.call { d with call := some call } = some call := rfl
  obtain ⟨outcomes, hrun⟩ := run_rounds hentered rfl h
  refine ⟨outcomes, ?_⟩
  rw [List.cons_append, run_cons, henter, Option.bind_some, run_concat, hrun, Option.bind_some]
  simp only [step, finish, hcalldef, hcall]

end SecuredApp
