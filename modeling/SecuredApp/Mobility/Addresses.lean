import SecuredApp.Core.Run
import SecuredApp.Mobility.Basic

/-!
# The address that is shown

`updateConnectionInformation` and the view of the GUI over a sequence of changes of the access
point, where a device has the same addresses throughout a call.
-/

namespace SecuredApp

open SecuredApp.Core

/-! ### The text of a list of addresses -/

/-- The octets `netaddr.IPAddress` prints of a number. -/
def octets (address : UInt32) : List ℕ :=
  [address.toNat / 0x1000000, address.toNat / 0x10000 % 0x100, address.toNat / 0x100 % 0x100,
    address.toNat % 0x100]

/-- `'.'.join(str(netaddr.IPAddress(ip_address)).split('.')[::-1])`. -/
def addr (address : UInt32) : String :=
  ".".intercalate ((octets address).map toString).reverse

/-- What `getIP` reads of a device with these addresses. -/
def joinAddresses (addresses : List UInt32) : String := " ".intercalate (addresses.map addr)

lemma dot_mem_addr (address : UInt32) : '.' ∈ (addr address).toList := by
  simp [addr, octets]

lemma dot_mem_joinAddresses {addresses : List UInt32} (h : addresses ≠ []) :
    '.' ∈ (joinAddresses addresses).toList := by
  cases addresses with
  | nil => exact absurd rfl h
  | cons address addresses =>
    rw [joinAddresses, List.map_cons]
    cases addresses with
    | nil => simpa using dot_mem_addr address
    | cons address' addresses =>
      rw [List.map_cons, String.intercalate_cons_cons, String.toList_append, String.toList_append]
      exact List.mem_append_left _ (List.mem_append_left _ (dot_mem_addr address))

lemma joinAddresses_ne_empty {addresses : List UInt32} (h : addresses ≠ []) :
    joinAddresses addresses ≠ "" := by
  intro heq
  have hdot := dot_mem_joinAddresses h
  rw [heq] at hdot
  cases hdot

/-- The text is never the sign that there is no address. -/
lemma joinAddresses_ne_failure {addresses : List UInt32} (h : addresses ≠ []) :
    joinAddresses addresses ≠ "-1" := by
  intro heq
  have hdot := dot_mem_joinAddresses h
  rw [heq] at hdot
  revert hdot
  decide

/-! ### A change of the access point -/

/-- The attempts all read the same text. -/
lemma tryAddresses_replicate {shown text : String} (htext : text ≠ "-1") (n : ℕ) :
    tryAddresses shown (n + 1) (List.replicate (n + 1) (some text))
      = if shown = text then "-1" else text := by
  split_ifs with hshown
  · have hget : getIP shown (some text) = "-1" := if_pos hshown
    have hall (m : ℕ) : tryAddresses shown m (List.replicate m (some text)) = "-1" := by
      induction m with
      | zero => rfl
      | succ m ih => simp [tryAddresses, List.replicate_succ, hget, ih]
    exact hall (n + 1)
  · have hget : getIP shown (some text) = text := if_neg hshown
    simp [tryAddresses, List.replicate_succ, hget, htext]

inductive AddressEvent where
  | change (apName : String) (addresses : List UInt32)   -- `updateConnectionInformation`
  | view                                                -- `updateConnectionInfoView`

/-- A step of the mobility client, whose device has the addresses throughout the call, or of the
view. -/
def addressStep (app : App) : AddressEvent → Option App
  | .change apName addresses =>
    some (after (updateConnectionInformation
      (List.replicate 10 (some (joinAddresses addresses))) apName) app)
  | .view => some (after updateConnectionInfoView app)

/-- A change to an access point other than the recorded one records it. Its address is recorded,
and once the view has run shown beside its name, if it is not the one already shown; else the
recorded address is empty. -/
def Delivers (app : App) : AddressEvent → Prop
  | .change apName addresses =>
    app.currentAP ≠ some apName → addresses ≠ [] →
    ∀ app', addressStep app (.change apName addresses) = some app' →
      app'.currentAP = some apName ∧
      (app.ui.wifiIP ≠ joinAddresses addresses →
        app'.ip = some (joinAddresses addresses) ∧
          ∀ shown, addressStep app' .view = some shown → apName ≠ "" →
            shown.ui.wifiName = apName ∧ shown.ui.wifiIP = joinAddresses addresses) ∧
      (app.ui.wifiIP = joinAddresses addresses → app'.ip = some "")
  | .view => True

/-- What a change leaves. -/
lemma run_change {app : App} {apName : String} {addresses : List UInt32}
    (hother : app.currentAP ≠ some apName) (haddresses : addresses ≠ []) :
    addressStep app (.change apName addresses) = some { app with
      currentAP := some apName
      ip := some (if app.ui.wifiIP = joinAddresses addresses then "" else joinAddresses addresses)
      attestationTask.currentAP := some apName
      signals.updateConnectionInfo := app.signals.updateConnectionInfo + 1 } := by
  have hfailure := joinAddresses_ne_failure haddresses
  have htry : tryAddresses app.ui.wifiIP 10 (List.replicate 10 (some (joinAddresses addresses)))
      = if app.ui.wifiIP = joinAddresses addresses then "-1" else joinAddresses addresses :=
    tryAddresses_replicate hfailure 9
  have hip : (if tryAddresses app.ui.wifiIP 10
        (List.replicate 10 (some (joinAddresses addresses))) = "-1" then ""
      else tryAddresses app.ui.wifiIP 10 (List.replicate 10 (some (joinAddresses addresses))))
      = if app.ui.wifiIP = joinAddresses addresses then "" else joinAddresses addresses := by
    rw [htry]
    by_cases hshown : app.ui.wifiIP = joinAddresses addresses
    · simp [hshown]
    · simp [hshown, hfailure]
  simp only [addressStep, updateConnectionInformation, after_get_bind, if_pos hother, hip]
  rfl

/-- The view shows a recorded address that is not empty, beside a name that is not. -/
lemma view_shows {app : App} {apName ip : String} (hcurrent : app.currentAP = some apName)
    (hip : app.ip = some ip) (hname : apName ≠ "") (hne : ip ≠ "") :
    addressStep app .view = some { app with ui.wifiName := apName, ui.wifiIP := ip } := by
  simp only [addressStep, updateConnectionInfoView, after_modify]
  split
  · rename_i hnone
    cases hnone.symm.trans hcurrent
  · rename_i hempty
    exact absurd (Option.some.inj (hcurrent.symm.trans hempty)) hname
  · rename_i name _ hsome
    obtain rfl := Option.some.inj (hsome.symm.trans hcurrent)
    simp only [hip]

/-- In every run of changes and of the view, each change to an access point other than the recorded
one delivers its name, and its address if another one is shown. -/
theorem changes_deliver (app : App) (es : List AddressEvent) :
    RunMeets addressStep (fun _ app e => Delivers app e) app es := by
  intro pre e post app _ _
  cases e with
  | view => trivial
  | change apName addresses =>
    intro hother haddresses app' hstep
    rw [run_change hother haddresses] at hstep
    obtain rfl := Option.some.inj hstep
    refine ⟨rfl, fun hshown => ?_, fun hshown => congrArg some (if_pos hshown)⟩
    have hip : some (if app.ui.wifiIP = joinAddresses addresses then ""
        else joinAddresses addresses) = some (joinAddresses addresses) :=
      congrArg some (if_neg hshown)
    refine ⟨hip, fun shown hview hname => ?_⟩
    rw [view_shows rfl hip hname (joinAddresses_ne_empty haddresses)] at hview
    obtain rfl := Option.some.inj hview
    exact ⟨rfl, rfl⟩

/-- The GUI of a client that is not connected yet. -/
def disconnected : App := .constructed guiConf true "ned" "ned" none

/-- From one network to another that hands out the same address, which is the one shown. -/
theorem same_address_lost :
    ∃ app app', run addressStep disconnected [.change "home" [16777343], .view] = some app ∧
      app.currentAP ≠ some "work" ∧
      addressStep app (.change "work" [16777343]) = some app' ∧
      app'.ip = some "" ∧ app'.ip ≠ some (joinAddresses [16777343]) := by
  refine ⟨_, _, rfl, ?_, rfl, ?_⟩
  · decide +kernel
  · decide +kernel

end SecuredApp
