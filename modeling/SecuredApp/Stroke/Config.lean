import SecuredApp.Core.CString
import SecuredApp.Core.Run

/-!
# The connections

The connections that are added are kept as child configurations of peer configurations: a
connection whose peer configuration equals one that is there becomes a child of that one. Commands
that start a connection find it again by its name. What is built from a message is given with it,
and what it is compared with by other libraries is a parameter.
-/

namespace SecuredApp

open SecuredApp.Core

/-- What is compared of a peer configuration and of its IKE configuration: the virtual IPs, the
pools, and everything else. -/
structure PeerSettings (χ κ : Type*) where
  vips : List χ
  pools : List CStr
  rest : κ

/-- Two enumerators that are asked once each, while both have something. -/
def firstAgrees {α : Type*} (eq : α → α → Bool) : List α → List α → Bool
  | a :: _, b :: _ => eq a b
  | _, _ => true

/-- What equality of hosts and of the other settings means. -/
structure SettingsMethods (χ κ : Type*) where
  ipEquals : χ → χ → Bool
  restEquals : κ → κ → Bool

variable {χ κ δ : Type*} (ops : SettingsMethods χ κ)

/-- `equals` of two peer configurations and their IKE configurations. -/
def PeerSettings.equals (a b : PeerSettings χ κ) : Bool :=
  a.vips.length = b.vips.length && firstAgrees ops.ipEquals a.vips b.vips &&
    a.pools.length = b.pools.length && firstAgrees (fun p q => p = q) a.pools b.pools &&
    ops.restEquals a.rest b.rest

/-- A child configuration. -/
structure ChildConn (δ : Type*) where
  name : CStr
  cfg : δ

/-- A peer configuration in the list of the backend. -/
structure PeerConn (χ κ δ : Type*) where
  name : CStr
  settings : PeerSettings χ κ
  children : List (ChildConn δ)

/-- What is built from the message that adds a connection: the peer configuration and the child
configuration have its name. -/
structure AddConn (χ κ δ : Type*) where
  name : CStr
  settings : PeerSettings χ κ
  cfg : δ

def AddConn.child (conn : AddConn χ κ δ) : ChildConn δ := ⟨conn.name, conn.cfg⟩

/-- `add`. -/
def addConn (conn : AddConn χ κ δ) : List (PeerConn χ κ δ) → List (PeerConn χ κ δ)
  | [] => [⟨conn.name, conn.settings, [conn.child]⟩]
  | existing :: rest =>
    if existing.settings.equals ops conn.settings then
      { existing with children := existing.children ++ [conn.child] } :: rest
    else existing :: addConn conn rest

/-- What `del` leaves of a peer configuration: nothing if it has no children any more. -/
def PeerConn.without (peer : PeerConn χ κ δ) (name : CStr) : Option (PeerConn χ κ δ) :=
  let children := peer.children.filter (·.name ≠ name)
  if children.isEmpty then none else some { peer with children := children }

/-- `del`. -/
def delConn (name : CStr) (peers : List (PeerConn χ κ δ)) : List (PeerConn χ κ δ) :=
  peers.filterMap (·.without name)

/-- `get_child_from_peer`. -/
def getChildFromPeer (peer : PeerConn χ κ δ) (name : CStr) : Option (ChildConn δ) :=
  peer.children.find? (·.name = name)

/-- `get_peer_cfg_by_name`: the name of a peer is compared first, those of its children after. -/
def getPeerCfgByName (peers : List (PeerConn χ κ δ)) (name : CStr) : Option (PeerConn χ κ δ) :=
  peers.find? fun peer => peer.name = name || peer.children.any (·.name = name)

/-- Why nothing is started or routed. -/
inductive NameError where
  | noChildConfig
  | noConfig
deriving DecidableEq

/-- The part that `initiate` and `route` have in common: the child configurations that a name
stands for. `byName` is the peer that the backends know by the name, `all` are all peers. -/
def configsFor (byName : Option (PeerConn χ κ δ)) (all : List (PeerConn χ κ δ)) (name : CStr) :
    Except NameError (List (PeerConn χ κ δ × ChildConn δ)) :=
  match byName with
  | some peer =>
    match getChildFromPeer peer name with
    | some child => .ok [(peer, child)]
    | none =>
      if peer.children.isEmpty then .error .noChildConfig
      else .ok (peer.children.map fun child => (peer, child))
  | none =>
    match all.findSome? fun peer => (getChildFromPeer peer name).map fun child => (peer, child) with
    | some found => .ok [found]
    | none => .error .noConfig

/-- What `initiate` starts, and `route` routes, where this is the only backend. -/
def configsNamed (peers : List (PeerConn χ κ δ)) (name : CStr) :
    Except NameError (List (PeerConn χ κ δ × ChildConn δ)) :=
  configsFor (getPeerCfgByName peers name) peers name

/-- The messages that change the connections. -/
inductive ConnOp (χ κ δ : Type*) where
  | add (conn : AddConn χ κ δ)
  | del (name : CStr)

def connStep (peers : List (PeerConn χ κ δ)) : ConnOp χ κ δ → Option (List (PeerConn χ κ δ))
  | .add conn => some (addConn ops conn peers)
  | .del name => some (delConn name peers)

end SecuredApp
