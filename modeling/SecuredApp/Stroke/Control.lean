import SecuredApp.Core.Bytes
import SecuredApp.Bus.Controller
import SecuredApp.Stroke.Specifier

/-!
# Terminating and rekeying

The commands that close or rekey SAs go through the table of the IKE_SAs with nested loops that
stop at the first SA or collect all of them. What the controller does to an SA is a parameter.
-/

namespace SecuredApp

open SecuredApp.Core

/-- A CHILD_SA of the table. -/
structure ChildSa where
  name : CStr
  uniqueId : ℕ
deriving DecidableEq

/-- An IKE_SA of the table, with the addresses of its virtual IPs. -/
structure IkeSa where
  name : CStr
  uniqueId : ℕ
  children : List ChildSa
  vips : List (List UInt8)
deriving DecidableEq

/-- An unsigned integer of 32 bits, printed as a signed one. -/
def printId (id : ℕ) : String :=
  if id < 2 ^ 31 then toString id else "-" ++ toString (2 ^ 32 - id)

/-- `report_terminate_status`. -/
def reportTerminateStatus (timeout : ℕ) (status : Status) (id : ℕ) (child : Bool) : String :=
  let before := if child then "CHILD_SA \x7b" else "IKE_SA ["
  let after := if child then "\x7d" else "]"
  match status with
  | .success => before ++ printId id ++ after ++ " closed successfully\n"
  | .outOfRes =>
    before ++ printId id ++ after ++ " not closed after " ++ toString timeout ++ "ms, detaching\n"
  | _ => "closing " ++ before ++ printId id ++ after ++ " failed\n"

/-- An SA that was given to the controller, and what was reported. -/
structure Closing where
  command : Command
  id : ℕ
  report : String
deriving DecidableEq

section Loops

variable {ω : Type*} (close : Command → ℕ → ω → Status × ω) (timeout : ℕ)

/-- The controller closes one SA after the other. -/
def closeAll (command : Command) (reportChild : Bool) : List ℕ → ω → List Closing × ω
  | [], w => ([], w)
  | id :: ids, w =>
    let (status, w) := close command id w
    let (closings, w) := closeAll command reportChild ids w
    (⟨command, id, reportTerminateStatus timeout status id reportChild⟩ :: closings, w)

/-- `terminate`, the CHILD_SAs of one IKE_SA. -/
def listChildren (name : CStr) (all : Bool) : List ChildSa → List ℕ → List ℕ
  | [], list => list
  | child :: children, list =>
    if name = child.name then
      if all then listChildren name all children (list ++ [child.uniqueId])
      else list ++ [child.uniqueId]
    else listChildren name all children list

/-- `terminate`, the lists of CHILD_SAs and of IKE_SAs. -/
def listSas (name : CStr) (child all : Bool) : List IkeSa → List ℕ × List ℕ → List ℕ × List ℕ
  | [], lists => lists
  | sa :: sas, (childList, ikeList) =>
    if child then
      let childList := listChildren name all sa.children childList
      if childList ≠ [] && !all then (childList, ikeList)
      else listSas name child all sas (childList, ikeList)
    else if name = sa.name then
      if all then listSas name child all sas (childList, ikeList ++ [sa.uniqueId])
      else (childList, ikeList ++ [sa.uniqueId])
    else listSas name child all sas (childList, ikeList)

/-- `terminate`. -/
def terminate (string : CStr) (sas : List IkeSa) (w : ω) : List Closing × ω :=
  match parseSpecifier string with
  | none => ([], w)
  | some spec =>
    if spec.id ≠ 0 then
      closeAll close timeout (if spec.child then .terminateChild else .terminateIke) spec.child
        [spec.id] w
    else
      let (childList, ikeList) := listSas (spec.name.getD []) spec.child spec.all sas ([], [])
      let (children, w) := closeAll close timeout .terminateChild true childList w
      let (ikes, w) := closeAll close timeout .terminateIke false ikeList w
      (children ++ ikes, w)

/-- `purge_ike`: the IKE_SAs are reported as CHILD_SAs. -/
def purgeIke (sas : List IkeSa) (w : ω) : List Closing × ω :=
  closeAll close timeout .terminateIke true
    ((sas.filter (·.children.isEmpty)).map (·.uniqueId)) w

end Loops

/-- The SA that a job rekeys. -/
inductive RekeyJob where
  | ike (sa : IkeSa)
  | child (sa : IkeSa) (child : ChildSa)
deriving DecidableEq

def RekeyJob.id : RekeyJob → ℕ
  | .ike sa => sa.uniqueId
  | .child _ c => c.uniqueId

/-- An SA that `rekey` asks for, by its name or by its number. -/
def Specifier.matches (spec : Specifier) (name : CStr) (uniqueId : ℕ) : Bool :=
  spec.name = some name || (spec.id ≠ 0 && spec.id = uniqueId)

/-- `rekey`, the CHILD_SAs of one IKE_SA, and whether it is finished. -/
def rekeyChildren (spec : Specifier) (sa : IkeSa) : List ChildSa → List RekeyJob × Bool
  | [] => ([], false)
  | child :: children =>
    if spec.matches child.name child.uniqueId then
      if spec.all then
        let (jobs, finished) := rekeyChildren spec sa children
        (.child sa child :: jobs, finished)
      else ([.child sa child], true)
    else rekeyChildren spec sa children

def rekeySas (spec : Specifier) : List IkeSa → List RekeyJob
  | [] => []
  | sa :: sas =>
    if spec.child then
      let (jobs, finished) := rekeyChildren spec sa sa.children
      if finished then jobs else jobs ++ rekeySas spec sas
    else if spec.matches sa.name sa.uniqueId then
      if spec.all then .ike sa :: rekeySas spec sas else [.ike sa]
    else rekeySas spec sas

/-- `rekey`. -/
def rekey (string : CStr) (sas : List IkeSa) : List RekeyJob :=
  match parseSpecifier string with
  | none => []
  | some spec => rekeySas spec sas

/-- `terminate_srcip`, whether a virtual IP is asked for. -/
def vipMatches (start : List UInt8) (stop : Option (List UInt8)) (vip : List UInt8) : Bool :=
  match stop with
  | none => vip = start
  | some stop =>
    vip.length = start.length && vip.length = stop.length &&
      memcmp vip start ≠ .lt && memcmp vip stop ≠ .gt

/-- `terminate_srcip`, the IKE_SAs that are deleted. `parse` is `host_create_from_string`. -/
def terminateSrcip (parse : CStr → Option (List UInt8)) (start stop : Option CStr)
    (sas : List IkeSa) : List IkeSa :=
  match start.bind parse with
  | none => []
  | some startAddr =>
    match stop with
    | none => sas.filter fun sa => sa.vips.any (vipMatches startAddr none)
    | some stop =>
      match parse stop with
      | none => []
      | some stopAddr => sas.filter fun sa => sa.vips.any (vipMatches startAddr (some stopAddr))

end SecuredApp
