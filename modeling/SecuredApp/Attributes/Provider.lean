import SecuredApp.Attributes.Holders
import SecuredApp.Core.CString

/-!
# The provider of virtual IPs

A client is given an address of one of the pools of its connection: its own one if there is one in
any of the pools, else a new one, and only if there is none left one that was given to another
client before.
-/

namespace SecuredApp

open SecuredApp.Core

variable {ι π : Type*} [DecidableEq ι]

/-- The pools by their names, in the order in which they were added. -/
abbrev Pools (ι : Type*) [DecidableEq ι] := List (CStr × Pool ι)

/-- `find_pool`. -/
def findPool (pools : Pools ι) (name : CStr) : Option (Pool ι) :=
  (pools.find? (·.1 = name)).map (·.2)

/-- The pool of a name is changed. -/
def setPool (name : CStr) (pool : Pool ι) : Pools ι → Pools ι
  | [] => []
  | (name', pool') :: pools =>
    if name' = name then (name', pool) :: pools else (name', pool') :: setPool name pool pools

section Calls

variable (hash : π → ℕ)
  (enum : AList (fun _ : ι => LeaseEntry) → List (Sigma fun _ : ι => LeaseEntry))

/-- `find_addr`. -/
def findAddr (id : ι) (requested : Host) (operation : AcquireOp) (peer : Option π) :
    List CStr → Pools ι → Pools ι × Option Host
  | [], pools => (pools, none)
  | name :: names, pools =>
    match findPool pools name with
    | none => findAddr id requested operation peer names pools
    | some pool =>
      let (pool, addr) := pool.acquireAddress hash enum id requested operation peer
      match addr with
      | some addr => (setPool name pool pools, some addr)
      | none => findAddr id requested operation peer names (setPool name pool pools)

/-- `acquire_address` of the provider. -/
def Pools.acquireAddress (names : List CStr) (id : ι) (requested : Host) (peer : Option π)
    (pools : Pools ι) : Pools ι × Option Host :=
  match findAddr hash enum id requested .existing peer names pools with
  | (pools, some addr) => (pools, some addr)
  | (pools, none) =>
    match findAddr hash enum id requested .new peer names pools with
    | (pools, some addr) => (pools, some addr)
    | (pools, none) => findAddr hash enum id requested .reassign peer names pools

/-- `release_address` of the provider. -/
def Pools.releaseAddress (address : Host) (id : ι) : List CStr → Pools ι → Pools ι × Bool
  | [], pools => (pools, false)
  | name :: names, pools =>
    match findPool pools name with
    | none => releaseAddress address id names pools
    | some pool =>
      let (pool, found) := pool.releaseAddress address id
      if found then (setPool name pool pools, true)
      else releaseAddress address id names (setPool name pool pools)

/-- What clients do. -/
inductive ClientOp (ι π : Type*) where
  | acquire (names : List CStr) (id : ι) (requested : Host) (peer : Option π)
  | release (names : List CStr) (address : Host) (id : ι)

def poolsStep (pools : Pools ι) : ClientOp ι π → Option (Pools ι)
  | .acquire names id requested peer =>
    some (Pools.acquireAddress hash enum names id requested peer pools).1
  | .release names address id => some (Pools.releaseAddress address id names pools).1

end Calls

/-! ### Pools stay in order -/

/-- Every pool is in order, and has addresses. -/
def Pools.Ok (pools : Pools ι) : Prop := ∀ p ∈ pools, p.2.Ok ∧ p.2.size ≠ 0

lemma mem_of_findPool {pools : Pools ι} {name : CStr} {pool : Pool ι}
    (h : findPool pools name = some pool) : (name, pool) ∈ pools := by
  obtain ⟨p, hfind, rfl⟩ := Option.map_eq_some_iff.mp h
  obtain rfl : p.1 = name := by simpa using List.find?_some hfind
  exact List.mem_of_find?_eq_some hfind

lemma mem_setPool {pools : Pools ι} {name : CStr} {pool : Pool ι} {p : CStr × Pool ι}
    (h : p ∈ setPool name pool pools) : p ∈ pools ∨ p.2 = pool := by
  induction pools with
  | nil => cases h
  | cons q pools ih =>
    rw [setPool] at h
    split_ifs at h with hname
    · rcases List.mem_cons.mp h with rfl | h
      · exact Or.inr rfl
      · exact Or.inl (List.mem_cons_of_mem _ h)
    · rcases List.mem_cons.mp h with rfl | h
      · exact Or.inl List.mem_cons_self
      · exact (ih h).imp_left (List.mem_cons_of_mem _)

lemma Pools.Ok.set {pools : Pools ι} (h : Pools.Ok pools) (name : CStr) {pool : Pool ι}
    (hpool : pool.Ok ∧ pool.size ≠ 0) : Pools.Ok (setPool name pool pools) := by
  intro p hp
  rcases mem_setPool hp with hp | rfl
  · exact h p hp
  · exact hpool

section Runs

variable (hash : π → ℕ)
  {enum : AList (fun _ : ι => LeaseEntry) → List (Sigma fun _ : ι => LeaseEntry)}

lemma acquireAddress_ok (henum : ∀ leases, (enum leases).Perm leases.entries) {pool : Pool ι}
    (h : pool.Ok ∧ pool.size ≠ 0) (id : ι) (requested : Host) (operation : AcquireOp)
    (peer : Option π) :
    (pool.acquireAddress hash enum id requested operation peer).1.Ok ∧
      (pool.acquireAddress hash enum id requested operation peer).1.size ≠ 0 := by
  rcases acquireAddress_cases h.1 h.2 hash henum id requested operation peer with
    ⟨pool', heq, hsame, -⟩ | ⟨pool', offset, heq, hacq, -⟩
  · rw [heq]
    exact ⟨h.1.same hsame, hsame.alike.size ▸ h.2⟩
  · rw [heq]
    exact ⟨h.1.acquires hacq, hacq.alike.size ▸ h.2⟩

lemma findAddr_ok (henum : ∀ leases, (enum leases).Perm leases.entries) {pools : Pools ι}
    (h : Pools.Ok pools) (id : ι) (requested : Host) (operation : AcquireOp) (peer : Option π)
    (names : List CStr) :
    Pools.Ok (findAddr hash enum id requested operation peer names pools).1 := by
  induction names generalizing pools with
  | nil => exact h
  | cons name names ih =>
    rw [findAddr]
    cases hfind : findPool pools name with
    | none => exact ih h
    | some pool =>
      have hset := h.set name (acquireAddress_ok hash henum (h _ (mem_of_findPool hfind)) id
        requested operation peer)
      simp only
      split
      · exact hset
      · exact ih hset

lemma Pools.Ok.step (henum : ∀ leases, (enum leases).Perm leases.entries) {pools pools' : Pools ι}
    (h : Pools.Ok pools) {op : ClientOp ι π} (hstep : poolsStep hash enum pools op = some pools') :
    Pools.Ok pools' := by
  cases op with
  | acquire names id requested peer =>
    rw [poolsStep, Option.some.injEq] at hstep
    subst hstep
    have hexisting := findAddr_ok hash henum h id requested .existing peer names
    rw [Pools.acquireAddress]
    split
    · rename_i heq
      rwa [heq] at hexisting
    · rename_i heq
      rw [heq] at hexisting
      have hnew := findAddr_ok hash henum hexisting id requested .new peer names
      split
      · rename_i heq
        rwa [heq] at hnew
      · rename_i heq
        rw [heq] at hnew
        exact findAddr_ok hash henum hnew id requested .reassign peer names
  | release names address id =>
    rw [poolsStep, Option.some.injEq] at hstep
    subst hstep
    induction names generalizing pools with
    | nil => exact h
    | cons name names ih =>
      rw [Pools.releaseAddress]
      cases hfind : findPool pools name with
      | none => exact ih h
      | some pool =>
        have hpool := h _ (mem_of_findPool hfind)
        have hset : Pools.Ok (setPool name (pool.releaseAddress address id).1 pools) := by
          refine h.set name ?_
          rcases releaseAddress_cases hpool.1 hpool.2 address id with ⟨heq, -⟩ | ⟨pool', heq, hrel⟩
          · rw [heq]
            exact hpool
          · rw [heq]
            exact ⟨hpool.1.releases hrel, hrel.alike.size ▸ hpool.2⟩
        simp only
        split
        · exact hset
        · exact ih hset

/-! ### Where an address comes from -/

/-- A pool of one of the names that has addresses of the family that is asked for. -/
def Pools.Serves (pools : Pools ι) (names : List CStr) (requested : Host) (pool : Pool ι) : Prop :=
  ∃ name ∈ names, findPool pools name = some pool ∧ requested.family = pool.base.family

/-- An address of a pool that serves the request, with what is known of it there. -/
def Pools.Given (pools : Pools ι) (names : List CStr) (requested : Host) (addr : Option Host)
    (G : Pool ι → ℕ → Prop) : Prop :=
  ∃ pool offset, pools.Serves names requested pool ∧ addr.isSome ∧
    pool.offset2host offset = addr ∧ G pool offset

/-- The pools of each name have the same leases. -/
def Pools.Same (pools pools' : Pools ι) : Prop :=
  ∀ name, (findPool pools name = none ∧ findPool pools' name = none) ∨
    ∃ pool pool', findPool pools name = some pool ∧ findPool pools' name = some pool' ∧
      pool.Same pool'

lemma Pools.Same.refl (pools : Pools ι) : pools.Same pools := by
  intro name
  cases h : findPool pools name with
  | none => exact Or.inl ⟨rfl, rfl⟩
  | some pool => exact Or.inr ⟨pool, pool, rfl, rfl, Pool.Same.refl pool⟩

lemma Pool.Same.trans {pool₁ pool₂ pool₃ : Pool ι} (h : pool₁.Same pool₂) (h' : pool₂.Same pool₃) :
    pool₁.Same pool₃ :=
  ⟨⟨h'.alike.base.trans h.alike.base, h'.alike.netId.trans h.alike.netId,
    h'.alike.size.trans h.alike.size⟩, fun id => (h'.entry id).trans (h.entry id),
    h'.unused.trans h.unused⟩

lemma Pools.Same.trans {pools₁ pools₂ pools₃ : Pools ι} (h : pools₁.Same pools₂)
    (h' : pools₂.Same pools₃) : pools₁.Same pools₃ := by
  intro name
  rcases h name with ⟨h₁, h₂⟩ | ⟨pool₁, pool₂, h₁, h₂, hsame⟩
  · rcases h' name with ⟨-, h₃⟩ | ⟨pool₂', pool₃, h₂', -⟩
    · exact Or.inl ⟨h₁, h₃⟩
    · rw [h₂] at h₂'
      cases h₂'
  · rcases h' name with ⟨h₂', -⟩ | ⟨pool₂', pool₃, h₂', h₃, hsame'⟩
    · rw [h₂] at h₂'
      cases h₂'
    · obtain rfl := Option.some.inj (h₂.symm.trans h₂')
      exact Or.inr ⟨pool₁, pool₃, h₁, h₃, hsame.trans hsame'⟩

lemma Pool.Same.kept {pool pool' : Pool ι} (h : pool.Same pool') (id : ι) (offset : ℕ) :
    pool'.Kept id offset ↔ pool.Kept id offset := by
  rw [Pool.Kept, Pool.Kept, h.entry]

lemma Pool.Same.uses {pool pool' : Pool ι} (h : pool.Same pool') (id : ι) (offset : ℕ) :
    pool'.uses id offset = pool.uses id offset := by
  rw [Pool.uses, Pool.uses, h.entry]

lemma Pool.Same.reuses {pool pool' : Pool ι} (h : pool.Same pool') (id : ι) (requested : Host)
    (peer : Option π) (offset : ℕ) :
    pool'.Reuses hash id requested peer offset ↔ pool.Reuses hash id requested peer offset := by
  rw [Pool.Reuses, Pool.Reuses, h.entry, h.alike.host2offset]

lemma Pool.Same.gives {pool pool' : Pool ι} (h : pool.Same pool') (id : ι) (requested : Host)
    (peer : Option π) (offset : ℕ) (operation : AcquireOp) :
    pool'.Gives hash id requested peer offset operation ↔
      pool.Gives hash id requested peer offset operation := by
  cases operation <;> simp only [Pool.Gives, h.kept, h.uses, h.reuses]

lemma Pool.Alike.offset2host {pool pool' : Pool ι} (h : pool.Alike pool') (offset : ℕ) :
    pool'.offset2host offset = pool.offset2host offset := by
  simp only [Pool.offset2host, h.base, h.size]

lemma Pools.Same.serves {pools pools' : Pools ι} (h : pools.Same pools') {names : List CStr}
    {requested : Host} {pool' : Pool ι} (hserves : pools'.Serves names requested pool') :
    ∃ pool, pools.Serves names requested pool ∧ pool.Same pool' := by
  obtain ⟨name, hname, hfind, hfamily⟩ := hserves
  rcases h name with ⟨-, hnone⟩ | ⟨pool, pool₁, hpool, hpool₁, hsame⟩
  · rw [hfind] at hnone
    cases hnone
  · obtain rfl := Option.some.inj (hfind.symm.trans hpool₁)
    exact ⟨pool, ⟨name, hname, hpool, hsame.alike.base ▸ hfamily⟩, hsame⟩

lemma Pools.Same.given {pools pools' : Pools ι} (h : pools.Same pools') {names : List CStr}
    {requested : Host} {peer : Option π} {addr : Option Host} {id : ι} {operation : AcquireOp}
    (hgiven : pools'.Given names requested addr fun pool offset =>
      pool.Gives hash id requested peer offset operation) :
    pools.Given names requested addr fun pool offset =>
      pool.Gives hash id requested peer offset operation := by
  obtain ⟨pool', offset, hserves, hsome, haddr, hgives⟩ := hgiven
  obtain ⟨pool, hserves, hsame⟩ := h.serves hserves
  exact ⟨pool, offset, hserves, hsome, by rw [← hsame.alike.offset2host, haddr],
    (hsame.gives hash id requested peer offset operation).mp hgives⟩

end Runs

end SecuredApp
