import SecuredApp.Core.Run
import SecuredApp.Gui.Starts

/-!
# The list of PSAs

A login starts a thread that asks the PSC for the list of PSAs until it has a value that is not
empty, and emits it once; the slot that handles the signal fills the list and may start the thread
for the events of a PSA. A logout clears the list and stops the thread for the events, but neither
the thread that asks nor its signal.
-/

namespace SecuredApp

open SecuredApp.Core

/-! ### The slot -/

/-- `psanames`. -/
def psaNames : List (String × String) := [
  ("dansguardian", "Content Filter"),
  ("squid", "Application Layer Filter"),
  ("iptables", "Packet Filter"),
  ("iptablespsa", "Packet Filter"),
  ("anonimityvpn", "Anonymity"),
  ("antiphishingpsa", "Anti-Phishing"),
  ("bandwidthcontrol", "Bandwidth Control"),
  ("brologging", "Network Monitor (Bro)"),
  ("bromalware", "Anti-Malware (Bro)"),
  ("reencryptpsa", "Web proxy re-encrypt"),
  ("strongswan", "Privacy (VPN)")]

/-- `len(j)` of a value that came from `json.loads`, `none` where it raises. -/
def jsonLen : Json → Option ℕ
  | .obj members => some members.length
  | .arr elems => some elems.length
  | .str s => some s.length
  | _ => none

/-- The items a `for` loop goes over, `none` where it raises. -/
def iterItems : Json → Option (List Json)
  | .arr elems => some elems
  | .obj members => some (members.map fun member => .str member.1)
  | .str s => some (s.toList.map fun c => .str (String.ofList [c]))
  | _ => none

/-- `enableMonitoring`. -/
def enableMonitoring : Py App Unit := do
  let app ← get
  match app.psaEventThread with
  | none => throw .attributeError
  | some _ => modify fun app => { app with psaEventThread := some true }

/-- The body of the loop of `updatePsaList`. An entry without an id raises in the handler that is
to name it. -/
def showPsa (psa : Json) : Py App Unit := do
  let psaId ← getItem psa "id"
  match psaId with
  | .str data =>
    let name := (psaNames.lookup (lower data)).getD data
    modify fun app => { app with ui.listWidget := app.ui.listWidget ++ ["Type: " ++ name] }
    if data = "BroMalware" then enableMonitoring
  | _ => throw .attributeError

/-- `updatePsaList`; `literalEval` is `ast.literal_eval`, whose value is given as the one of JSON it
is like (a tuple as an array). -/
def updatePsaList (literalEval : Json → Except PyError Json) (r : Json) : Py App Unit := do
  match jsonLen r with
  | none => throw .typeError
  | some 0 => pure ()
  | some _ =>
    modify fun app => { app with ui.listWidget := [] }
    let response ← getItem r "psa_response"
    match literalEval response with
    | .error e => throw e
    | .ok psas =>
      match iterItems psas with
      | none => throw .typeError
      | some items => forM items showPsa

/-! ### Steps -/

/-- Where `PSCCommunicationThread` is. -/
inductive PscThread where
  | finished
  | polling
  | emit (r : Json)                              -- `self.sendResults(json.dumps(r))`
  | finishing                                    -- the signal is sent, and the thread still runs

/-- The program with the thread that asks for the list: the answers that wait to be handled, and
whether the NED has confirmed a logout since the last login it accepted. -/
structure PsaList where
  app : App
  thread : PscThread
  queue : List Json
  signedOut : Bool

def PsaList.init (app : App) : PsaList where
  app := app
  thread := .finished
  queue := []
  signedOut := false

inductive PsaEvent where
  | answer (r : Option Json)                     -- what `json.loads` makes of the response
  | emit
  | finish
  | deliver                                      -- the slot `onPsaList`
  | raise                                        -- an exception ends the thread for the events
  | login (reply : Option ℕ) (user : String) (env : MobilityEnv)
  | logout (reply : Option ℕ)

/-- The value is one that the thread emits. -/
def emitted (r : Json) : Bool := jsonLen r ≠ none ∧ jsonLen r ≠ some 0

/-- A step of the thread, the slot, a login or a logout. A thread that runs is not started again. -/
def PsaList.step (literalEval : Json → Except PyError Json) (s : PsaList) :
    PsaEvent → Option PsaList
  | .answer r =>
    match s.thread, r with
    | .polling, none => some s
    | .polling, some r => if emitted r then some { s with thread := .emit r } else some s
    | _, _ => none
  | .emit =>
    match s.thread with
    | .emit r => some { s with queue := s.queue ++ [r], thread := .finishing }
    | _ => none
  | .finish =>
    match s.thread with
    | .finishing => some { s with thread := .finished }
    | _ => none
  | .deliver =>
    match s.queue with
    | [] => none
    | r :: queue =>
      some { s with app := after (updatePsaList literalEval r) s.app, queue := queue }
  | .raise =>
    match s.app.psaEventThread with
    | some true => some { s with app := { s.app with psaEventThread := some false } }
    | _ => none
  | .login reply user env =>
    let app := after (handleLoginStatus reply user env) s.app
    if reply = some 200 then
      match s.thread with
      | .finished => some { s with app := app, thread := .polling, signedOut := false }
      | _ => some { s with app := app, signedOut := false }
    else some { s with app := app }
  | .logout reply =>
    some { s with
      app := after (SecuredApp.logout reply) s.app
      signedOut := s.signedOut ∨ s.app.status = some true ∧ reply = some 200 }

/-! ### What the slot shows -/

variable {app : App} {literalEval : Json → Except PyError Json} {r : Json}

/-- No PSA is listed, and the thread for the events does not run. -/
def App.Cleared (app : App) : Prop := app.ui.listWidget = [] ∧ app.psaEventThread ≠ some true

/-- The first entry of the answer has an id, so that the slot shows it. -/
def ShowsPsa (literalEval : Json → Except PyError Json) (r : Json) : Prop :=
  ∃ response psas psa items data, r.member? "psa_response" = some response ∧
    literalEval response = .ok psas ∧ iterItems psas = some (psa :: items) ∧
    psa.member? "id" = some (.str data)

/-- An entry that is shown is listed, whatever starting the thread comes to. -/
lemma listed_showPsa {psa : Json} {data : String} (hid : psa.member? "id" = some (.str data))
    (app : App) : (after (showPsa psa) app).ui.listWidget ≠ [] := by
  have henable : Keeps (fun app => app.ui.listWidget ≠ []) enableMonitoring := by
    refine .get_bind fun app _ => ?_
    cases app.psaEventThread with
    | none => exact .throw _
    | some running => exact .modify fun _ h => h
  rw [showPsa, getItem_of_member hid, pure_bind]
  refine Keeps.after_bind_of_after (fun _ => .ite (fun _ => henable) fun _ => .pure _) ?_
  exact List.append_ne_nil_of_right_ne_nil _ (List.cons_ne_nil _ _)

/-- An entry that cannot be shown ends the slot. -/
lemma showPsa_of_not_id {psa : Json} (hid : ∀ data, psa.member? "id" ≠ some (.str data)) :
    ∃ e, showPsa psa = throw e := by
  cases hmember : psa.member? "id" with
  | none =>
    obtain ⟨e, he⟩ := getItem_of_not_member (σ := App) hmember
    exact ⟨e, by rw [showPsa, he]; rfl⟩
  | some psaId =>
    cases psaId with
    | str data => exact absurd hmember (hid data)
    | _ => exact ⟨.attributeError, by rw [showPsa, getItem_of_member hmember]; rfl⟩

/-- What was listed stays listed. -/
lemma keeps_showPsa (psa : Json) : Keeps (fun app => app.ui.listWidget ≠ []) (showPsa psa) := by
  by_cases hid : ∃ data, psa.member? "id" = some (.str data)
  · obtain ⟨data, hdata⟩ := hid
    exact fun app _ => listed_showPsa hdata app
  · obtain ⟨e, he⟩ := showPsa_of_not_id fun data hdata => hid ⟨data, hdata⟩
    rw [he]
    exact .throw e

lemma listed_updatePsaList (h : ShowsPsa literalEval r) (app : App) :
    (after (updatePsaList literalEval r) app).ui.listWidget ≠ [] := by
  obtain ⟨response, psas, psa, items, data, hresponse, heval, hitems, hid⟩ := h
  obtain ⟨n, hlen⟩ : ∃ n, jsonLen r = some (n + 1) := by
    cases r with
    | obj members =>
      cases members with
      | nil => cases hresponse
      | cons member members => exact ⟨members.length, rfl⟩
    | _ => cases hresponse
  simp only [updatePsaList, hlen, after_modify_bind, getItem_of_member hresponse, pure_bind, heval,
    hitems]
  rw [List.forM_cons]
  refine Keeps.after_bind_of_after (fun _ => .forM fun psa _ => keeps_showPsa psa) ?_
  exact listed_showPsa hid _

/-- An answer whose first entry is not shown leaves the list empty. -/
lemma keeps_updatePsaList (h : ¬ ShowsPsa literalEval r) :
    Keeps App.Cleared (updatePsaList literalEval r) := by
  unfold updatePsaList
  split
  · exact .throw _
  · exact .pure _
  · refine .bind (.modify fun app hclear => ⟨rfl, hclear.2⟩) fun _ => ?_
    cases hresponse : r.member? "psa_response" with
    | none =>
      obtain ⟨e, he⟩ := getItem_of_not_member (σ := App) hresponse
      rw [he]
      exact .throw_bind e _
    | some response =>
      rw [getItem_of_member hresponse, pure_bind]
      split
      · exact .throw _
      · rename_i psas heval
        split
        · exact .throw _
        · rename_i items hitems
          cases items with
          | nil => exact .pure _
          | cons psa items =>
            have hid : ∀ data, psa.member? "id" ≠ some (.str data) := fun data hdata =>
              h ⟨response, psas, psa, items, data, hresponse, heval, hitems, hdata⟩
            obtain ⟨e, he⟩ := showPsa_of_not_id hid
            rw [List.forM_cons, he]
            exact .throw_bind e _

/-! ### Logins and logouts -/

/-- A login that is not accepted leaves the list. -/
lemma frames_handleLoginStatus {reply : Option ℕ} (hreply : reply ≠ some 200) (user : String)
    (env : MobilityEnv) :
    Frames (fun app => (app.ui.listWidget, app.psaEventThread))
      (handleLoginStatus reply user env) := by
  cases reply with
  | none => exact .pure _
  | some statusCode =>
    have hnot : statusCode ≠ 200 := fun h => hreply (congrArg some h)
    simp only [handleLoginStatus, if_neg hnot]
    exact .bind (.modify fun _ => rfl) fun _ => .modify fun _ => rfl

/-- A logout that the NED confirms clears the list, and any other one does nothing. -/
lemma App.Cleared.after_logout {reply : Option ℕ} {app : App}
    (h : app.Cleared ∨ app.status = some true ∧ reply = some 200) :
    (after (logout reply) app).Cleared := by
  by_cases hends : app.status = some true ∧ reply = some 200
  · by_cases hthread : app.psaEventThread = none
    · rw [after, run_logout, if_pos hends, if_pos hthread]
      refine ⟨rfl, ?_⟩
      show app.psaEventThread ≠ some true
      rw [hthread]
      intro h
      cases h
    · rw [after, run_logout, if_pos hends, if_neg hthread]
      refine ⟨rfl, ?_⟩
      intro h
      cases h
  · rw [after, run_logout, if_neg hends]
    exact h.resolve_right hends

/-! ### Runs -/

/-- While the user is signed out the list is empty, and no thread runs for the events of a PSA. -/
def PsaList.StaysCleared (s : PsaList) : Prop := s.signedOut = true → s.app.Cleared

/-- An answer that is handled while the user is signed out is none whose first entry is shown. -/
def PsaList.ShowsNone (literalEval : Json → Except PyError Json) (s : PsaList) : PsaEvent → Prop
  | .deliver => s.signedOut = true → ∀ r ∈ s.queue.head?, ¬ ShowsPsa literalEval r
  | _ => True

variable {s s' : PsaList} {e : PsaEvent}

lemma PsaList.StaysCleared.step (h : s.StaysCleared) (hnone : s.ShowsNone literalEval e)
    (hstep : s.step literalEval e = some s') : s'.StaysCleared := by
  cases e with
  | answer r =>
    simp only [PsaList.step] at hstep
    split at hstep
    · exact Option.some.inj hstep ▸ h
    · split_ifs at hstep
      · exact Option.some.inj hstep ▸ h
      · exact Option.some.inj hstep ▸ h
    · cases hstep
  | emit | finish =>
    simp only [PsaList.step] at hstep
    split at hstep
    · exact Option.some.inj hstep ▸ h
    · cases hstep
  | deliver =>
    simp only [PsaList.step] at hstep
    split at hstep
    · cases hstep
    · rename_i r queue hqueue
      obtain rfl := Option.some.inj hstep
      intro hout
      have hshows : ¬ ShowsPsa literalEval r := hnone hout r (by rw [hqueue]; rfl)
      exact keeps_updatePsaList hshows s.app (h hout)
  | raise =>
    simp only [PsaList.step] at hstep
    split at hstep
    · obtain rfl := Option.some.inj hstep
      exact fun hout => ⟨(h hout).1, nofun⟩
    · cases hstep
  | login reply user env =>
    simp only [PsaList.step] at hstep
    split_ifs at hstep with hreply
    · split at hstep
      · obtain rfl := Option.some.inj hstep
        exact nofun
      · obtain rfl := Option.some.inj hstep
        exact nofun
    · obtain rfl := Option.some.inj hstep
      intro hout
      have hview := frames_handleLoginStatus hreply user env s.app
      obtain ⟨hlist, hthread⟩ := Prod.mk.inj hview
      obtain ⟨hempty, hstopped⟩ := h hout
      exact ⟨hlist.trans hempty, fun hrunning => hstopped (hthread.symm.trans hrunning)⟩
  | logout reply =>
    obtain rfl := Option.some.inj hstep
    intro hout
    exact App.Cleared.after_logout ((of_decide_eq_true hout).imp_left h)

/-- A step after which the list is empty has shown nothing. -/
lemma PsaList.showsNone_of_staysCleared
    (h : ∀ s', s.step literalEval e = some s' → s'.StaysCleared) : s.ShowsNone literalEval e := by
  cases e with
  | deliver =>
    intro hout r hr hshows
    cases hqueue : s.queue with
    | nil =>
      rw [hqueue] at hr
      cases hr
    | cons r' queue =>
      rw [hqueue, List.head?_cons, Option.mem_some_iff] at hr
      subst hr
      have hstep : s.step literalEval .deliver
          = some { s with app := after (updatePsaList literalEval r') s.app, queue := queue } := by
        simp only [PsaList.step, hqueue]
      have hcleared := h _ hstep hout
      exact listed_updatePsaList hshows s.app hcleared.1
  | _ => trivial

/-- In every run, with any answers of the PSC and any order of the steps, the list is empty and no
thread runs for the events of a PSA while the user is signed out, exactly if no answer is handled
then whose first entry is shown. -/
theorem stays_cleared_iff (literalEval : Json → Except PyError Json) (app : App)
    (es : List PsaEvent) :
    RunMeets (PsaList.step literalEval)
      (fun _ s e => ∀ s', s.step literalEval e = some s' → s'.StaysCleared) (.init app) es ↔
    RunMeets (PsaList.step literalEval) (fun _ s e => s.ShowsNone literalEval e)
      (.init app) es := by
  refine runMeets_iff_of_invariant (P := PsaList.StaysCleared) ?_ ?_ ?_
  · intro hout
    cases hout
  · intro pre s₁ e s₂ hcleared hnone hstep
    exact hcleared.step hnone hstep
  · intro pre s₁ e hcleared
    refine ⟨PsaList.showsNone_of_staysCleared, fun hnone s₂ hstep => ?_⟩
    exact hcleared.step hnone hstep

/-- The list of one PSA, as the PSC answers it and as `literal_eval` reads it. -/
def broMalware : Json := .obj [("psa_response", .str "[\x7b'id': 'BroMalware'\x7d]")]

def broMalwareLiteral (_ : Json) : Except PyError Json :=
  .ok (.arr [.obj [("id", .str "BroMalware")]])

/-- The PSC answers when the user has logged out: its list is shown, and the thread for the events
of its PSA is started. -/
theorem list_filled_signed_out :
    ∃ app s, App.init guiConf (startOn ⟨"secured1", "00:01"⟩) = some app ∧
      run (PsaList.step broMalwareLiteral) (.init app)
        [.login (some 200) "alice" ⟨true, [], none, ⟨fun _ => none, none⟩⟩, .logout (some 200),
          .answer (some broMalware), .emit, .deliver] = some s ∧
      s.signedOut = true ∧ s.app.ui.listWidget = ["Type: Anti-Malware (Bro)"] ∧
      s.app.psaEventThread = some true ∧ ¬ s.StaysCleared := by
  have hmap : ((App.init guiConf (startOn ⟨"secured1", "00:01"⟩)).bind fun app =>
      (run (PsaList.step broMalwareLiteral) (.init app)
        [.login (some 200) "alice" ⟨true, [], none, ⟨fun _ => none, none⟩⟩, .logout (some 200),
          .answer (some broMalware), .emit, .deliver]).map fun s =>
        (s.signedOut, s.app.ui.listWidget, s.app.psaEventThread))
        = some (true, ["Type: Anti-Malware (Bro)"], some true) := by
    decide +kernel
  obtain ⟨app, s, hinit, hrun, heq⟩ := exists_run hmap
  obtain ⟨hout, hrest⟩ := Prod.mk.inj heq
  obtain ⟨hlist, hthread⟩ := Prod.mk.inj hrest
  exact ⟨app, s, hinit, hrun, hout, hlist, hthread, fun h => (h hout).2 hthread⟩

end SecuredApp
