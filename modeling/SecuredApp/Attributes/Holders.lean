import SecuredApp.Attributes.Leases

/-!
# Addresses in use

What was acquired and not released since tells who uses which address. Nobody gets an address that
somebody else uses, and an address is released exactly by those who use it.
-/

namespace SecuredApp

open SecuredApp.Core

variable {ι π : Type*} [DecidableEq ι]

/-! ### Addresses and offsets -/

/-- The addresses of the pool do not wrap around, and none of them has the offset -1. -/
structure Pool.Fits (pool : Pool ι) : Prop where
  last : pool.base.last + pool.size < 2 ^ 32
  size : pool.size + 2 < 2 ^ 32

lemma Pool.Fits.alike {pool pool' : Pool ι} (h : pool.Fits) (halike : pool.Alike pool') :
    pool'.Fits := by
  constructor
  · rw [halike.base, halike.size]
    exact h.last
  · rw [halike.size]
    exact h.size

lemma Pool.Alike.host2offset {pool pool' : Pool ι} (h : pool.Alike pool') (addr : Host) :
    pool'.host2offset addr = pool.host2offset addr := by
  simp only [Pool.host2offset, h.base, h.size]

/-- An offset of the pool stands for one address, and no other address has it. -/
lemma offset2host_eq {pool : Pool ι} (h : pool.Fits) {offset : ℕ} (hpos : 0 < offset)
    (hle : offset ≤ pool.size + 1) :
    ∃ addr, pool.offset2host offset = some addr ∧
      ∀ addr', pool.host2offset addr' = offset ↔ addr' = addr := by
  have hlast := h.last
  have hsize := h.size
  have hbase := pool.base.last_lt
  have hoffset : (offset + (2 ^ 32 - 1)) % 2 ^ 32 = offset - 1 := by omega
  refine ⟨_, by simp only [Pool.offset2host, hoffset]; rw [if_neg (by omega)], fun addr' => ?_⟩
  have haddr' := addr'.last_lt
  rw [Host.ext_iff]
  simp only [Pool.host2offset]
  by_cases hfamily : addr'.family = pool.base.family
  · rw [if_neg fun h => h hfamily]
    have hnet : (addr'.family = .inet6 && addr'.net ≠ pool.base.net) = true ↔
        addr'.net ≠ pool.base.net := by
      rw [Bool.and_eq_true, decide_eq_true_eq, decide_eq_true_eq]
      refine ⟨fun h => h.2, fun hne => ⟨?_, hne⟩⟩
      cases haf : addr'.family with
      | inet6 => rfl
      | inet => exact absurd ((addr'.net_eq haf).trans (pool.base.net_eq (hfamily ▸ haf)).symm) hne
    by_cases hne : addr'.net = pool.base.net
    · rw [if_neg fun h => hnet.mp h hne]
      split_ifs with hgt
      · refine ⟨fun heq => by omega, fun heq => ?_⟩
        have := heq.2.2
        omega
      · refine ⟨fun heq => ⟨hfamily, hne, ?_⟩, fun heq => ?_⟩
        · omega
        · have := heq.2.2
          omega
    · rw [if_pos (hnet.mpr hne)]
      exact ⟨fun heq => by omega, fun heq => absurd heq.2.1 hne⟩
  · rw [if_pos hfamily]
    exact ⟨fun heq => by omega, fun heq => absurd heq.1 hfamily⟩

/-! ### Runs -/

/-- A call of `acquire_address` or `release_address`, with its result. -/
inductive PoolEvent (ι π : Type*) where
  | acquired (id : ι) (requested : Host) (operation : AcquireOp) (peer : Option π)
      (address : Option Host)
  | released (address : Host) (id : ι) (found : Bool)

/-- The pool after a call with this result. -/
def poolStep (hash : π → ℕ)
    (enum : AList (fun _ : ι => LeaseEntry) → List (Sigma fun _ : ι => LeaseEntry))
    (pool : Pool ι) : PoolEvent ι π → Option (Pool ι)
  | .acquired id requested operation peer address =>
    let (pool, result) := pool.acquireAddress hash enum id requested operation peer
    if result = address then some pool else none
  | .released address id found =>
    let (pool, result) := pool.releaseAddress address id
    if result = found then some pool else none

/-- How many tunnels of each identity use each address. -/
def heldStep (held : ι → Host → ℕ) : PoolEvent ι π → ι → Host → ℕ
  | .acquired id _ _ _ (some address) => fun id' address' =>
    held id' address' + if id' = id ∧ address' = address then 1 else 0
  | .released address id true => fun id' address' =>
    held id' address' - if id' = id ∧ address' = address then 1 else 0
  | _ => held

def held (events : List (PoolEvent ι π)) : ι → Host → ℕ := events.foldl heldStep fun _ _ => 0

/-- Nobody else uses what is acquired, and it is released exactly if it is used. -/
def Sound (held : ι → Host → ℕ) : PoolEvent ι π → Prop
  | .acquired id _ _ _ (some address) => ∀ id', id' ≠ id → held id' address = 0
  | .acquired _ _ _ _ none => True
  | .released address id found => found = true ↔ 0 < held id address

@[simp] lemma held_concat (events : List (PoolEvent ι π)) (event : PoolEvent ι π) :
    held (events ++ [event]) = heldStep (held events) event := by
  rw [held, List.foldl_append]
  rfl

/-- A pool that has not given out anything. -/
structure Pool.New (pool : Pool ι) : Prop where
  size : pool.size ≠ 0
  unused : pool.unused = 0
  leases : pool.leases = ∅

lemma Pool.New.entry {pool : Pool ι} (h : pool.New) (id : ι) : pool.entry id = ⟨[], []⟩ := by
  rw [Pool.entry, h.leases]
  rfl

lemma Pool.New.ok {pool : Pool ι} (h : pool.New) : pool.Ok := by
  refine ⟨?_, ?_, ?_, ?_, ?_, ?_⟩
  · rw [h.unused]
    exact Nat.zero_le _
  · intro id
    rw [h.entry]
    exact List.nodup_nil
  · intro id offset hkept
    rw [Pool.Kept, h.entry] at hkept
    cases hkept
  · intro id id' offset hkept
    rw [Pool.Kept, h.entry] at hkept
    cases hkept
  · intro id id' offset huses
    rw [Pool.uses, h.entry] at huses
    cases huses
  · intro offset
    refine ⟨?_, fun hlt => ?_⟩
    · rintro ⟨id, hkept | huses⟩
      · rw [Pool.Kept, h.entry] at hkept
        cases hkept
      · rw [Pool.uses, h.entry] at huses
        cases huses
    · rw [h.unused] at hlt
      omega

/-- `acquire_address`, of a pool that is not empty. -/
lemma acquireAddress_cases {pool : Pool ι} (h : pool.Ok) (hsize : pool.size ≠ 0) (hash : π → ℕ)
    {enum : AList (fun _ : ι => LeaseEntry) → List (Sigma fun _ : ι => LeaseEntry)}
    (henum : ∀ leases, (enum leases).Perm leases.entries) (id : ι) (requested : Host)
    (operation : AcquireOp) (peer : Option π) :
    (∃ pool', pool.acquireAddress hash enum id requested operation peer = (pool', none) ∧
      pool.Same pool' ∧ (requested.family = pool.base.family →
        pool.Lacks hash id requested peer operation)) ∨
    ∃ pool' offset, pool.acquireAddress hash enum id requested operation peer
        = (pool', pool'.offset2host offset) ∧ pool.Acquires pool' id offset ∧
      requested.family = pool.base.family ∧ pool.Gives hash id requested peer offset operation := by
  by_cases hfamily : requested.family ≠ pool.base.family
  · refine Or.inl ⟨pool, ?_, Pool.Same.refl pool, fun heq => absurd heq hfamily⟩
    cases operation <;> rw [Pool.acquireAddress, if_neg hsize, if_pos hfamily]
  · have hacquired : ∀ {pool' offset}, pool.Acquires pool' id offset → offset ≠ 0 := by
      intro pool' offset hacq
      have huses : 0 < pool'.uses id offset := by
        rw [hacq.uses, if_pos ⟨rfl, rfl⟩]
        omega
      exact (h.acquires hacq).pos (Or.inr huses)
    cases operation with
    | existing =>
      rcases getExisting_cases h hash id requested peer with
        ⟨heq, hlacks⟩ | ⟨pool', offset, heq, hacq, hgives⟩
      · refine Or.inl ⟨pool, ?_, Pool.Same.refl pool, fun _ => hlacks⟩
        rw [Pool.acquireAddress, if_neg hsize, if_neg hfamily]
        simp only [heq]
        rfl
      · refine Or.inr ⟨pool', offset, ?_, hacq, not_not.mp hfamily, hgives⟩
        rw [Pool.acquireAddress, if_neg hsize, if_neg hfamily]
        simp only [heq]
        rw [if_pos (hacquired hacq)]
    | new =>
      rcases getNew_cases h hash id requested peer with
        ⟨heq, hlacks⟩ | ⟨pool', offset, heq, hacq, hgives⟩
      · refine Or.inl ⟨pool, ?_, Pool.Same.refl pool, fun _ => hlacks⟩
        rw [Pool.acquireAddress, if_neg hsize, if_neg hfamily]
        simp only [heq]
        rfl
      · refine Or.inr ⟨pool', offset, ?_, hacq, not_not.mp hfamily, hgives⟩
        rw [Pool.acquireAddress, if_neg hsize, if_neg hfamily]
        simp only [heq]
        rw [if_pos (hacquired hacq)]
    | reassign =>
      rcases getReassigned_cases h hash henum id requested peer with
        ⟨pool', heq, hsame, hlacks⟩ | ⟨pool', offset, heq, hacq, hgives⟩
      · refine Or.inl ⟨pool', ?_, hsame, fun _ => hlacks⟩
        rw [Pool.acquireAddress, if_neg hsize, if_neg hfamily]
        simp only [heq]
        rfl
      · refine Or.inr ⟨pool', offset, ?_, hacq, not_not.mp hfamily, hgives⟩
        rw [Pool.acquireAddress, if_neg hsize, if_neg hfamily]
        simp only [heq]
        rw [if_pos (hacquired hacq)]

/-- The pool knows what is held. -/
structure Pool.Tracks (pool pool' : Pool ι) (held : ι → Host → ℕ) : Prop where
  ok : pool'.Ok
  alike : pool.Alike pool'
  uses : ∀ id addr, held id addr = pool'.uses id (pool.host2offset addr)

lemma Pool.Ok.leased_bounds {pool : Pool ι} (h : pool.Ok) {id : ι} {offset : ℕ}
    (huses : 0 < pool.uses id offset) : 0 < offset ∧ offset ≤ pool.size + 1 := by
  have hbounds := (h.leased offset).mp ⟨id, Or.inr huses⟩
  have hpos := pool.first_pos
  have hle := h.unused_le
  have hfirst : pool.first ≤ 2 := by
    rw [Pool.first]
    split_ifs <;> omega
  omega

lemma Pool.Tracks.step {pool pool₁ pool₂ : Pool ι} {hash : π → ℕ}
    {enum : AList (fun _ : ι => LeaseEntry) → List (Sigma fun _ : ι => LeaseEntry)}
    (henum : ∀ leases, (enum leases).Perm leases.entries) (hsize : pool.size ≠ 0)
    (hfits : pool.Fits) {held : ι → Host → ℕ} {event : PoolEvent ι π}
    (h : pool.Tracks pool₁ held) (hstep : poolStep hash enum pool₁ event = some pool₂) :
    Sound held event ∧ pool.Tracks pool₂ (heldStep held event) := by
  have hsize₁ : pool₁.size ≠ 0 := h.alike.size ▸ hsize
  cases event with
  | acquired id requested operation peer address =>
    rcases acquireAddress_cases h.ok hsize₁ hash henum id requested operation peer with
      ⟨pool', heq, hsame, -⟩ | ⟨pool', offset, heq, hacq, -⟩
    · simp only [poolStep, heq] at hstep
      split_ifs at hstep with haddress
      obtain rfl := Option.some.inj hstep
      subst haddress
      refine ⟨trivial, h.ok.same hsame, ?_, fun id' addr => ?_⟩
      · exact ⟨hsame.alike.base.trans h.alike.base, hsame.alike.netId.trans h.alike.netId,
          hsame.alike.size.trans h.alike.size⟩
      · exact (h.uses id' addr).trans (by rw [Pool.uses, Pool.uses, hsame.entry])
    · have halike : pool.Alike pool' := ⟨hacq.alike.base.trans h.alike.base,
        hacq.alike.netId.trans h.alike.netId, hacq.alike.size.trans h.alike.size⟩
      have hok := h.ok.acquires hacq
      have huses : 0 < pool'.uses id offset := by
        rw [hacq.uses, if_pos ⟨rfl, rfl⟩]
        omega
      obtain ⟨hpos, hle⟩ := hok.leased_bounds huses
      obtain ⟨addr, haddr, hunique⟩ := offset2host_eq (hfits.alike halike) hpos hle
      simp only [poolStep, heq, haddr] at hstep
      split_ifs at hstep with haddress
      obtain rfl := Option.some.inj hstep
      subst haddress
      have hoffset : ∀ addr', pool.host2offset addr' = offset ↔ addr' = addr := by
        intro addr'
        rw [← halike.host2offset]
        exact hunique addr'
      refine ⟨fun id' hne => ?_, hok, halike, fun id' addr' => ?_⟩
      · rw [h.uses, (hoffset addr).mpr rfl]
        by_contra hpos'
        have hpos₂ : 0 < pool'.uses id' offset := by
          rw [hacq.uses]
          omega
        exact hne (hok.uses_unique hpos₂ huses)
      · simp only [heldStep, h.uses, hacq.uses, hoffset]
  | released address id found =>
    rcases releaseAddress_cases h.ok hsize₁ address id with ⟨heq, hnone⟩ | ⟨pool', heq, hrel⟩
    · simp only [poolStep, heq] at hstep
      split_ifs at hstep with hfound
      obtain rfl := Option.some.inj hstep
      subst hfound
      refine ⟨?_, h⟩
      rw [Sound, h.uses, ← h.alike.host2offset, hnone]
      simp
    · simp only [poolStep, heq] at hstep
      split_ifs at hstep with hfound
      obtain rfl := Option.some.inj hstep
      subst hfound
      rw [h.alike.host2offset] at hrel
      have hok := h.ok.releases hrel
      obtain ⟨hpos, hle⟩ := h.ok.leased_bounds hrel.used
      obtain ⟨addr, -, hunique⟩ := offset2host_eq (hfits.alike h.alike) hpos hle
      have haddress : address = addr := (hunique address).mp (h.alike.host2offset address)
      subst haddress
      have hoffset : ∀ addr', pool.host2offset addr' = pool.host2offset address ↔
          addr' = address := by
        intro addr'
        rw [← h.alike.host2offset addr']
        exact hunique addr'
      refine ⟨⟨fun _ => by rw [h.uses]; exact hrel.used, fun _ => rfl⟩, hok, ?_,
        fun id' addr' => ?_⟩
      · exact ⟨hrel.alike.base.trans h.alike.base, hrel.alike.netId.trans h.alike.netId,
          hrel.alike.size.trans h.alike.size⟩
      · simp only [heldStep, h.uses, hrel.uses, hoffset]

section Runs

variable {pool pool' : Pool ι} {hash : π → ℕ}
  {enum : AList (fun _ : ι => LeaseEntry) → List (Sigma fun _ : ι => LeaseEntry)}
  {events : List (PoolEvent ι π)}

lemma run_tracks (henum : ∀ leases, (enum leases).Perm leases.entries) (hnew : pool.New)
    (hfits : pool.Fits) (hrun : run (poolStep hash enum) pool events = some pool') :
    pool.Tracks pool' (held events) := by
  refine run_induction (P := fun events pool' => pool.Tracks pool' (held events))
    ⟨hnew.ok, ⟨rfl, rfl, rfl⟩, fun id addr => ?_⟩ ?_ hrun
  · rw [Pool.uses, hnew.entry]
    rfl
  · intro events pool₁ event pool₂ _ htracks hstep
    rw [held_concat]
    exact (htracks.step henum hnew.size hfits hstep).2

/-- In every run of a pool that starts new with some addresses, and whose range does not wrap
around, no identity gets an address while another one uses it through some tunnel, and an address
can be released exactly as often as it was acquired. -/
theorem pool_exclusive (henum : ∀ leases, (enum leases).Perm leases.entries) (hnew : pool.New)
    (hfits : pool.Fits) (hrun : run (poolStep hash enum) pool events = some pool') :
    RunMeets (poolStep hash enum) (fun before _ event => Sound (held before) event) pool
      events := by
  intro before event after pool₁ heq hbefore
  subst heq
  obtain ⟨pool₁', hrun₁, hrest⟩ := Option.bind_eq_some_iff.mp ((run_append before _) ▸ hrun)
  rw [hbefore, Option.some.injEq] at hrun₁
  subst hrun₁
  have htracks := run_tracks henum hnew hfits hbefore
  cases hstep : poolStep hash enum pool₁ event with
  | none => simp [run, hstep] at hrest
  | some pool₂ => exact (htracks.step henum hnew.size hfits hstep).1

end Runs

/-! ### Pools as they are made -/

lemma create_new {base : Host} {bits : ℤ} (hsize : (Pool.create ι base bits).size ≠ 0) :
    (Pool.create ι base bits).New := by
  refine ⟨hsize, ?_, ?_⟩
  · simp only [Pool.create]
    split_ifs <;> rfl
  · simp only [Pool.create]
    split_ifs <;> rfl

/-- The pool of a subnet with more than two addresses ends before the broadcast address. -/
lemma create_fits {base : Host} {bits : ℤ}
    (hbits : bits < if base.family = .inet then 31 else 127) :
    (Pool.create ι base bits).Fits := by
  have hlast := base.last_lt
  obtain ⟨n, hn, hn₂, hn₃⟩ : ∃ n : ℕ, (min ((if base.family = .inet then (32 : ℤ) else 128) -
      max 0 (min bits (if base.family = .inet then 32 else 128))) 31).toNat = n ∧
        2 ≤ n ∧ n ≤ 31 := by
    refine ⟨_, rfl, ?_, ?_⟩ <;> split_ifs at hbits ⊢ <;> omega
  have hpow : 2 ^ n * 2 ^ (32 - n) = 2 ^ 32 := by rw [← Nat.pow_add]; congr 1; omega
  have hle : (2 : ℕ) ^ 2 ≤ 2 ^ n := Nat.pow_le_pow_right (by decide) hn₂
  have hle' : (2 : ℕ) ^ n ≤ 2 ^ 31 := Nat.pow_le_pow_right (by decide) hn₃
  have hdiv : base.last / 2 ^ n + 1 ≤ 2 ^ (32 - n) :=
    Nat.succ_le_of_lt (Nat.div_lt_of_lt_mul (hpow ▸ hlast))
  have hsubnet : 2 ^ n * (base.last / 2 ^ n) + 2 ^ n ≤ 2 ^ 32 := by
    rw [← hpow]
    exact Nat.mul_le_mul_left (2 ^ n) hdiv
  have hbase := Nat.div_add_mod base.last (2 ^ n)
  have hmod : base.last % 2 ^ n < 2 ^ n := Nat.mod_lt _ (by omega)
  have hdiff : networkIdDiff base n = base.last % 2 ^ n := by
    rw [networkIdDiff, if_neg (by omega)]
  simp only [Pool.create, hn, hdiff]
  rw [if_pos (by omega)]
  split_ifs <;> constructor <;> simp only <;> omega

lemma createRange_fits {fromAddr toAddr : Host} {pool : Pool ι}
    (h : Pool.createRange ι fromAddr toAddr = some pool) (hto : toAddr.last + 3 < 2 ^ 32) :
    pool.New ∧ pool.Fits := by
  rw [Pool.createRange] at h
  split_ifs at h with hrange
  obtain rfl := Option.some.inj h
  have hle : fromAddr.last ≤ toAddr.last := by
    simp only [Bool.or_eq_true, decide_eq_true_eq, not_or, not_lt] at hrange
    omega
  exact ⟨⟨by simp only; omega, rfl, rfl⟩, by simp only; omega, by simp only; omega⟩

/-- An IPv4 address. -/
def inet (last : ℕ) (h : last < 2 ^ 32) : Host := ⟨.inet, [], last, fun _ => rfl, h⟩

/-- The addresses from 10.1.0.1 to 10.1.0.2. -/
def twoAddresses : Pool ℕ := Pool.create ℕ (inet 0x0a010000 (by decide)) 30

/-- Two clients use both addresses, and a third one gets the address of the one that leaves. -/
def threeClients : List (PoolEvent ℕ ℕ) :=
  [.acquired 1 (inet 0 (by decide)) .new (some 7) (some (inet 0x0a010001 (by decide))),
   .acquired 2 (inet 0 (by decide)) .new (some 8) (some (inet 0x0a010002 (by decide))),
   .acquired 3 (inet 0 (by decide)) .reassign (some 9) none,
   .released (inet 0x0a010001 (by decide)) 1 true,
   .acquired 3 (inet 0 (by decide)) .reassign (some 9) (some (inet 0x0a010001 (by decide)))]

/-- The run of the three clients. -/
theorem pool_exclusive_threeClients :
    (run (poolStep id AList.entries) twoAddresses threeClients).isSome ∧
      RunMeets (poolStep id AList.entries) (fun before _ event => Sound (held before) event)
        twoAddresses threeClients := by
  have hsome : (run (poolStep id AList.entries) twoAddresses threeClients).isSome = true := by
    decide +kernel
  obtain ⟨pool, hrun⟩ := Option.isSome_iff_exists.mp hsome
  refine ⟨hsome, pool_exclusive (fun _ => List.Perm.refl _) (create_new (by decide)) ?_ hrun⟩
  exact create_fits (by decide)

/-- The last address of all is never released: the end of the range wraps around. -/
example : ((Pool.createRange ℕ (inet 0xffffffff (by decide)) (inet 0xffffffff (by decide))).bind
    fun pool => run (poolStep (π := ℕ) id AList.entries) pool
      [.acquired 1 (inet 0 (by decide)) .new none (some (inet 0xffffffff (by decide))),
       .released (inet 0xffffffff (by decide)) 1 false]).isSome = true := by
  decide +kernel

end SecuredApp
