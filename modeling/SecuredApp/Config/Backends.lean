import SecuredApp.Core.Ranking

/-!
# The configuration backends

The manager of the configuration backends looks for the IKE configuration that suits the addresses
of a peer best, and for the peer configurations that suit its addresses and identities, best ones
first. Addresses, address ranges and identities come from another library, and are parameters.
-/

namespace SecuredApp

open SecuredApp.Core

/-- `ike_version_t`. -/
inductive IkeVersion where
  | any
  | ikev1
  | ikev2
deriving DecidableEq

/-- What is matched of an `ike_cfg_t`, with the names `ν` of hosts and with ranges `ρ`. -/
structure IkeAddresses (ν ρ : Type*) where
  version : IkeVersion
  myHosts : List ν
  otherHosts : List ν
  myRanges : List ρ
  otherRanges : List ρ

/-- What the manager uses of hosts `χ` and ranges, and of identities `ι`. -/
structure HostMethods (χ ν ρ ι : Type*) where
  createFromDns : ν → χ → Option χ
  ipEquals : χ → χ → Bool
  isAnyaddr : χ → Bool
  includes : ρ → χ → Bool
  toSubnet : ρ → Option ℕ
  idMatches : ι → ι → ℕ

/-- What the manager uses of a `peer_cfg_t`: of the authentication configurations the identities,
where they have one. -/
structure PeerCfg (ν ρ ι : Type*) where
  name : List Char
  ikeCfg : IkeAddresses ν ρ
  myAuth : List (Option ι)
  otherAuth : List (Option ι)

variable {χ ν ρ ι : Type*} (ops : HostMethods χ ν ρ ι)

/-- `match` of the IKE configurations: 129 for a host, one more than the mask for a subnet, 1 for a
range or any host, and 0 for no match. -/
def hostQuality (hosts : List ν) (ranges : List ρ) (cand : χ) : ℕ :=
  let quality := hosts.foldl (fun quality str =>
    match ops.createFromDns str cand with
    | none => quality
    | some host =>
      let quality := if ops.ipEquals host cand then max quality (128 + 1) else quality
      if ops.isAnyaddr host then max quality 1 else quality) 0
  ranges.foldl (fun quality ts =>
    if ops.includes ts cand then
      match ops.toSubnet ts with
      | some mask => max quality (mask + 1)
      | none => max quality 1
    else quality) quality

/-- The values of `ike_cfg_match_t` that are added up. -/
def matchAny : ℕ := 0x01

def matchVersion : ℕ := 0x04

def matchMe : ℕ := 0x08

def matchOther : ℕ := 0x10

def IkeAddresses.matchMe (this : IkeAddresses ν ρ) (host : χ) : ℕ :=
  hostQuality ops this.myHosts this.myRanges host

def IkeAddresses.matchOther (this : IkeAddresses ν ρ) (host : χ) : ℕ :=
  hostQuality ops this.otherHosts this.otherRanges host

/-- One side of `get_ike_match`. -/
def sideMatch (quality : χ → ℕ) (weight : ℕ) : Option χ → ℕ
  | some host => quality host * weight
  | none => matchAny

/-- `get_ike_match`. -/
def getIkeMatch (cand : IkeAddresses ν ρ) (me other : Option χ) (version : IkeVersion) : ℕ :=
  if cand.version ≠ .any ∧ version ≠ cand.version then 0
  else
    let ofMe := sideMatch (cand.matchMe ops) matchMe me
    let ofOther := sideMatch (cand.matchOther ops) matchOther other
    if ofMe = 0 ∨ ofOther = 0 then 0
    else ofMe + ofOther + if cand.version ≠ .any then matchVersion else 0

/-- `get_ike_cfg`, over the configurations of all backends. -/
def getIkeCfg (backends : List (List (IkeAddresses ν ρ))) (me other : Option χ)
    (version : IkeVersion) : Option (IkeAddresses ν ρ) :=
  firstBest (getIkeMatch ops · me other version) none matchAny backends.flatten

/-- `ID_MATCH_ANY`. -/
def idMatchAny : ℕ := 1

/-- `get_peer_match`, of the first authentication configuration. -/
def getPeerMatch (id : Option ι) (auth : List (Option ι)) : ℕ :=
  match id with
  | none => idMatchAny
  | some id =>
    match auth with
    | [] => 0
    | none :: _ => idMatchAny
    | some candidate :: _ =>
      let quality := ops.idMatches id candidate
      -- match vice versa, as the proposed identity might be any
      if quality ≠ 0 then quality else ops.idMatches candidate id

/-- `match_entry_t`. -/
structure MatchEntry (ν ρ ι : Type*) where
  matchPeer : ℕ
  matchIke : ℕ
  cfg : PeerCfg ν ρ ι

/-- The condition in `insert_sorted`. -/
def MatchEntry.beats (entry current : MatchEntry ν ρ ι) : Bool :=
  (entry.matchIke > current.matchIke && entry.matchPeer ≥ current.matchPeer) ||
    (entry.matchIke ≥ current.matchIke && entry.matchPeer > current.matchPeer)

/-- The second loop of `insert_sorted`, from the helper list back to the list. -/
def insertLoop : Option (MatchEntry ν ρ ι) → List (MatchEntry ν ρ ι) → List (MatchEntry ν ρ ι) →
    List (MatchEntry ν ρ ι)
  | none, list, [] => list
  | some entry, list, [] => list ++ [entry]
  | none, list, current :: helper => insertLoop none (list ++ [current]) helper
  | some entry, list, current :: helper =>
    if entry.beats current then insertLoop none (list ++ [entry] ++ [current]) helper
    else insertLoop (some entry) (list ++ [current]) helper

/-- `insert_sorted`. -/
def insertSorted (entry : MatchEntry ν ρ ι) (list : List (MatchEntry ν ρ ι)) :
    List (MatchEntry ν ρ ι) :=
  insertLoop (some entry) [] list

/-- What a peer configuration is worth for the addresses and identities, if it matches. -/
def PeerCfg.candidate (cfg : PeerCfg ν ρ ι) (me other : Option χ) (myId otherId : Option ι)
    (version : IkeVersion) : Option (MatchEntry ν ρ ι) :=
  let matchPeerMe := getPeerMatch ops myId cfg.myAuth
  let matchPeerOther := getPeerMatch ops otherId cfg.otherAuth
  let matchIke := getIkeMatch ops cfg.ikeCfg me other version
  if matchPeerMe ≠ 0 ∧ matchPeerOther ≠ 0 ∧ matchIke ≠ 0 then
    some ⟨matchPeerMe + matchPeerOther, matchIke, cfg⟩
  else none

/-- The loop of `create_peer_cfg_enumerator` over the configurations of all backends. -/
def matchPeers (me other : Option χ) (myId otherId : Option ι) (version : IkeVersion) :
    List (MatchEntry ν ρ ι) → List (PeerCfg ν ρ ι) → List (MatchEntry ν ρ ι)
  | configs, [] => configs
  | configs, cfg :: rest =>
    match cfg.candidate ops me other myId otherId version with
    | some entry => matchPeers me other myId otherId version (insertSorted entry configs) rest
    | none => matchPeers me other myId otherId version configs rest

/-- What `create_peer_cfg_enumerator` enumerates. -/
def createPeerCfgEnumerator (backends : List (List (PeerCfg ν ρ ι))) (me other : Option χ)
    (myId otherId : Option ι) (version : IkeVersion) : List (PeerCfg ν ρ ι) :=
  -- without anything to match, all configurations are listed
  if me.isNone ∧ other.isNone ∧ myId.isNone ∧ otherId.isNone then backends.flatten
  else (matchPeers ops me other myId otherId version [] backends.flatten).map (·.cfg)

/-! ### The order of the peer configurations -/

lemma MatchEntry.beats_iff {entry current : MatchEntry ν ρ ι} :
    entry.beats current = true ↔ current.matchIke ≤ entry.matchIke ∧
      current.matchPeer ≤ entry.matchPeer ∧
        (current.matchIke < entry.matchIke ∨ current.matchPeer < entry.matchPeer) := by
  simp only [MatchEntry.beats, gt_iff_lt, ge_iff_le, Bool.or_eq_true, Bool.and_eq_true,
    decide_eq_true_eq]
  omega

lemma MatchEntry.beats_trans (a b c : MatchEntry ν ρ ι) (hab : a.beats b = true)
    (hbc : b.beats c = true) : a.beats c = true := by
  rw [MatchEntry.beats_iff] at hab hbc ⊢
  omega

lemma MatchEntry.beats_asymm (a b : MatchEntry ν ρ ι) (hab : a.beats b = true) :
    b.beats a = false := by
  rw [Bool.eq_false_iff]
  intro hba
  rw [MatchEntry.beats_iff] at hab hba
  omega

lemma insertLoop_none (list helper : List (MatchEntry ν ρ ι)) :
    insertLoop none list helper = list ++ helper := by
  induction helper generalizing list with
  | nil => rw [insertLoop, List.append_nil]
  | cons current helper ih => rw [insertLoop, ih, List.append_assoc, List.singleton_append]

lemma insertSorted_eq (entry : MatchEntry ν ρ ι) (list : List (MatchEntry ν ρ ι)) :
    insertSorted entry list = insertRanked MatchEntry.beats entry list := by
  have hloop : ∀ before, insertLoop (some entry) before list
      = before ++ insertRanked MatchEntry.beats entry list := by
    induction list with
    | nil => exact fun _ => rfl
    | cons current helper ih =>
      intro before
      rw [insertLoop, insertRanked]
      split_ifs
      · rw [insertLoop_none, List.append_assoc, List.append_assoc]
        rfl
      · rw [ih, List.append_assoc, List.singleton_append]
  exact hloop []

variable {ops}

lemma matchPeers_eq (me other : Option χ) (myId otherId : Option ι) (version : IkeVersion)
    (configs : List (MatchEntry ν ρ ι)) (cfgs : List (PeerCfg ν ρ ι)) :
    matchPeers ops me other myId otherId version configs cfgs
      = (cfgs.filterMap (·.candidate ops me other myId otherId version)).foldl
          (fun ranked entry => insertRanked MatchEntry.beats entry ranked) configs := by
  induction cfgs generalizing configs with
  | nil => rfl
  | cons cfg rest ih =>
    rw [matchPeers, List.filterMap_cons]
    cases cfg.candidate ops me other myId otherId version with
    | none => exact ih configs
    | some entry =>
      refine (ih _).trans ?_
      rw [insertSorted_eq]
      rfl

/-- Whether there is something to match. -/
def Matching (me other : Option χ) (myId otherId : Option ι) : Prop :=
  ¬ (me.isNone ∧ other.isNone ∧ myId.isNone ∧ otherId.isNone)

/-- The peer configurations that are enumerated for a peer are those that match, each as often as
it is stored; no later one is a better match in one respect and as good in the other; and of equally
good ones the one that is stored first comes first. -/
theorem createPeerCfgEnumerator_ranked (backends : List (List (PeerCfg ν ρ ι)))
    {me other : Option χ}
    {myId otherId : Option ι} (hmatching : Matching me other myId otherId) (version : IkeVersion) :
    ∃ entries : List (MatchEntry ν ρ ι),
      createPeerCfgEnumerator ops backends me other myId otherId version = entries.map (·.cfg) ∧
      entries.Perm (backends.flatten.filterMap (·.candidate ops me other myId otherId version)) ∧
      entries.Pairwise (fun entry later => ¬ later.beats entry = true) ∧
      ∀ matchPeer matchIke,
        entries.filter (fun e => e.matchPeer = matchPeer ∧ e.matchIke = matchIke)
        = (backends.flatten.filterMap (·.candidate ops me other myId otherId version)).filter
            (fun e => e.matchPeer = matchPeer ∧ e.matchIke = matchIke) := by
  set candidates := backends.flatten.filterMap (·.candidate ops me other myId otherId version)
    with hcandidates
  refine ⟨rank MatchEntry.beats candidates, ?_, rank_perm candidates, ?_, ?_⟩
  · rw [createPeerCfgEnumerator, if_neg hmatching, matchPeers_eq]
    rfl
  · refine (ranked_rank MatchEntry.beats_trans MatchEntry.beats_asymm candidates).imp ?_
    intro entry later h
    rw [h]
    exact Bool.false_ne_true
  · intro matchPeer matchIke
    refine filter_rank MatchEntry.beats_trans MatchEntry.beats_asymm ?_ candidates
    intro a c ha hc b
    simp only [decide_eq_true_eq] at ha hc
    simp only [MatchEntry.beats, ha.1, ha.2, hc.1, hc.2]

/-- Hosts as numbers, 0 for any host, and identities as numbers, 0 for any identity. -/
def numbered : HostMethods ℕ ℕ (ℕ × ℕ) ℕ where
  createFromDns name _ := some name
  ipEquals host cand := host = cand
  isAnyaddr host := host = 0
  includes range host := range.1 ≤ host && host ≤ range.2
  toSubnet _ := none
  idMatches id candidate := if id = candidate then 20 else if candidate = 0 then 1 else 0

/-- A configuration for the identity 5 at any address, and one for any identity at the address 7. -/
def roadwarriors : List (PeerCfg ℕ (ℕ × ℕ) ℕ) :=
  [⟨['a'], ⟨.any, [0], [0], [], []⟩, [some 1], [none]⟩,
    ⟨['b'], ⟨.ikev2, [0], [0], [], []⟩, [some 1], [some 5]⟩,
    ⟨['c'], ⟨.any, [0], [7], [], []⟩, [some 1], [some 0]⟩]

/-- Of configurations that are better in one respect each, the one that is stored first. -/
theorem createPeerCfgEnumerator_ranked_roadwarriors :
    (createPeerCfgEnumerator numbered [roadwarriors] (some 3) (some 7) none (some 5) .ikev2).map
        (·.name) = [['b'], ['c'], ['a']] ∧
      ∃ entries : List (MatchEntry ℕ (ℕ × ℕ) ℕ),
        createPeerCfgEnumerator numbered [roadwarriors] (some 3) (some 7) none (some 5) .ikev2
          = entries.map (·.cfg) ∧
        entries.Pairwise (fun entry later => ¬ later.beats entry = true) := by
  have hmatching : Matching (some 3) (some 7) (none : Option ℕ) (some 5) := by simp [Matching]
  refine ⟨by decide, Exists.imp (fun entries h => ⟨h.1, h.2.2.1⟩)
    (createPeerCfgEnumerator_ranked [roadwarriors] hmatching .ikev2)⟩

/-- Any match is better than the bound that the search starts with. -/
lemma lt_getIkeMatch_iff {cand : IkeAddresses ν ρ} {me other : Option χ} {version : IkeVersion} :
    matchAny < getIkeMatch ops cand me other version ↔
      getIkeMatch ops cand me other version ≠ 0 := by
  rw [getIkeMatch, matchAny]
  simp only
  split_ifs with hversion hzero
  · simp
  · simp
  · omega
  · omega

/-- An IKE configuration is found exactly if one matches, and it is the first of the best ones. -/
theorem getIkeCfg_best (backends : List (List (IkeAddresses ν ρ))) (me other : Option χ)
    (version : IkeVersion) :
    (getIkeCfg ops backends me other version = none ↔
        ∀ cand ∈ backends.flatten, getIkeMatch ops cand me other version = 0) ∧
      ∀ cand, getIkeCfg ops backends me other version = some cand ↔
        ∃ before after, backends.flatten = before ++ cand :: after ∧
          getIkeMatch ops cand me other version ≠ 0 ∧
          (∀ c ∈ before, getIkeMatch ops c me other version <
            getIkeMatch ops cand me other version) ∧
          ∀ c ∈ after, getIkeMatch ops c me other version ≤
            getIkeMatch ops cand me other version := by
  constructor
  · rw [getIkeCfg, firstBest_eq_none_iff]
    refine forall₂_congr fun cand _ => ?_
    rw [← Nat.not_lt, lt_getIkeMatch_iff, not_not]
  · intro cand
    rw [getIkeCfg, firstBest_eq_some_iff]
    simp only [lt_getIkeMatch_iff]

end SecuredApp
