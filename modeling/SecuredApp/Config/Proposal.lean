import Mathlib.Data.List.Basic
import Mathlib.Tactic.Common

/-!
# Proposals

A proposal is a list of transforms in order of priority, of the types an SA needs. Whether an
encryption algorithm is an AEAD is decided by the crypto library, and is a parameter here.
-/

namespace SecuredApp

/-- `protocol_id_t`. -/
inductive ProtocolId where
  | none
  | ike
  | ah
  | esp
  | ipcomp
deriving DecidableEq

/-- `transform_type_t`. -/
inductive TransformType where
  | encryptionAlgorithm
  | pseudoRandomFunction
  | integrityAlgorithm
  | diffieHellmanGroup
  | extendedSequenceNumbers
deriving DecidableEq

/-- An algorithm with its key size in bits, or zero if not needed. -/
structure Algorithm where
  alg : ℕ
  keySize : ℕ
deriving DecidableEq

/-- `entry_t`. -/
structure Transform where
  type : TransformType
  algorithm : Algorithm
deriving DecidableEq

/-- `private_proposal_t`. -/
structure Proposal where
  protocol : ProtocolId
  transforms : List Transform
  spi : ℕ
  number : ℕ
deriving DecidableEq

/-- `MODP_NONE`. -/
def modpNone : ℕ := 0

/-- The algorithm identifiers from here on are private use. -/
def privateUse : ℕ := 1024

/-- `proposal_create`. -/
def Proposal.create (protocol : ProtocolId) (number : ℕ) : Proposal := ⟨protocol, [], 0, number⟩

def Proposal.addAlgorithm (this : Proposal) (type : TransformType) (algorithm : Algorithm) :
    Proposal :=
  { this with transforms := this.transforms ++ [⟨type, algorithm⟩] }

/-- `alg_filter`. -/
def algFilter (type : TransformType) (entry : Transform) : Option Algorithm :=
  if entry.type ≠ type then none else some entry.algorithm

/-- What `create_enumerator` enumerates. -/
def Proposal.algs (this : Proposal) (type : TransformType) : List Algorithm :=
  this.transforms.filterMap (algFilter type)

def Proposal.getAlgorithm (this : Proposal) (type : TransformType) : Option Algorithm :=
  (this.algs type).head?

def Proposal.hasDhGroup (this : Proposal) (group : ℕ) : Bool :=
  (this.algs .diffieHellmanGroup).any (·.alg = group) ||
    ((this.algs .diffieHellmanGroup).isEmpty && group = modpNone)

def Proposal.stripDh (this : Proposal) (keep : ℕ) : Proposal :=
  { this with
    transforms := this.transforms.filter fun entry =>
      ¬ (entry.type = .diffieHellmanGroup ∧ entry.algorithm.alg ≠ keep) }

/-- The inner loop of `select_algo`: an algorithm that the other side has too. -/
def acceptable (priv : Bool) (alg₁ : Algorithm) : List Algorithm → Bool
  | [] => false
  | alg₂ :: rest =>
    if alg₁ = alg₂ then
      -- private use algorithms are accepted only if requested
      if !priv && privateUse ≤ alg₁.alg then acceptable priv alg₁ rest else true
    else acceptable priv alg₁ rest

/-- The outer loop of `select_algo`. -/
def firstAcceptable (priv : Bool) (supplied : List Algorithm) : List Algorithm → Option Algorithm
  | [] => none
  | alg₁ :: rest =>
    if acceptable priv alg₁ supplied then some alg₁ else firstAcceptable priv supplied rest

variable (isAead : ℕ → Bool)

/-- `select_algo`: `selected` with what was found, or `none` if nothing was. -/
def Proposal.selectAlgo (this other selected : Proposal) (type : TransformType) (priv : Bool) :
    Option Proposal :=
  let aead := (selected.getAlgorithm .encryptionAlgorithm).any (isAead ·.alg)
  let optional := type = .diffieHellmanGroup ∧ (this.protocol = .esp ∨ this.protocol = .ah)
  if type = .integrityAlgorithm ∧ aead then some selected
  else if this.algs type = [] ∧ (other.algs type = [] ∨
      optional ∧ (other.algs type).any (·.alg = modpNone)) then some selected
  else (firstAcceptable priv (other.algs type) (this.algs type)).map (selected.addAlgorithm type)

/-- `select_proposal`. -/
def Proposal.select (this other : Proposal) (priv : Bool) : Option Proposal :=
  if this.protocol ≠ other.protocol then none
  else do
    let selected := Proposal.create this.protocol other.number
    let selected ← this.selectAlgo isAead other selected .encryptionAlgorithm priv
    let selected ← this.selectAlgo isAead other selected .pseudoRandomFunction priv
    let selected ← this.selectAlgo isAead other selected .integrityAlgorithm priv
    let selected ← this.selectAlgo isAead other selected .diffieHellmanGroup priv
    let selected ← this.selectAlgo isAead other selected .extendedSequenceNumbers priv
    return { selected with spi := other.spi }

/-- `equals`, which does not look at the protocol. -/
def Proposal.equals (this other : Proposal) : Bool :=
  this.algs .encryptionAlgorithm = other.algs .encryptionAlgorithm &&
    this.algs .integrityAlgorithm = other.algs .integrityAlgorithm &&
    this.algs .pseudoRandomFunction = other.algs .pseudoRandomFunction &&
    this.algs .diffieHellmanGroup = other.algs .diffieHellmanGroup &&
    this.algs .extendedSequenceNumbers = other.algs .extendedSequenceNumbers

/-! ### The configurations -/

/-- The proposals of an `ike_cfg_t`. -/
structure IkeCfg where
  proposals : List Proposal

/-- The proposals of a `child_cfg_t`. -/
structure ChildCfg where
  proposals : List Proposal

/-- The inner loop over the supplied proposals. -/
def Proposal.selectFrom (stored : Proposal) (priv : Bool) : List Proposal → Option Proposal
  | [] => none
  | supplied :: rest =>
    match stored.select isAead supplied priv with
    | some selected => some selected
    | none => stored.selectFrom priv rest

/-- The loop over the stored proposals, which are preferred. -/
def selectStored (supplied : List Proposal) (priv : Bool) : List Proposal → Option Proposal
  | [] => none
  | stored :: rest =>
    match stored.selectFrom isAead priv supplied with
    | some selected => some selected
    | none => selectStored supplied priv rest

def IkeCfg.getProposals (this : IkeCfg) : List Proposal := this.proposals

def IkeCfg.selectProposal (this : IkeCfg) (proposals : List Proposal) (priv : Bool) :
    Option Proposal :=
  selectStored isAead proposals priv this.proposals

/-- The loop of `get_dh_group`: the group of the first proposal that has one. -/
def firstDhGroup (proposals : List Proposal) : ℕ :=
  ((proposals.findSome? (·.getAlgorithm .diffieHellmanGroup)).map (·.alg)).getD modpNone

def IkeCfg.getDhGroup (this : IkeCfg) : ℕ := firstDhGroup this.proposals

/-- A clone, without the groups that are not to be used. -/
def Proposal.stripped (this : Proposal) (stripDh : Bool) : Proposal :=
  if stripDh then this.stripDh modpNone else this

def ChildCfg.getProposals (this : ChildCfg) (stripDh : Bool) : List Proposal :=
  this.proposals.foldl (fun proposals stored =>
    let current := stored.stripped stripDh
    if proposals.any (·.equals current) then proposals else proposals ++ [current]) []

/-- The stored proposals are stripped as they are compared. -/
def ChildCfg.selectProposal (this : ChildCfg) (proposals : List Proposal) (stripDh priv : Bool) :
    Option Proposal :=
  selectStored isAead proposals priv (this.proposals.map (·.stripped stripDh))

def ChildCfg.getDhGroup (this : ChildCfg) : ℕ := firstDhGroup this.proposals

end SecuredApp
