import Mathlib.Algebra.Ring.Nat
import Mathlib.Data.List.AList
import SecuredApp.Core.Run

/-!
# Pools of virtual IPs

A pool gives the addresses of a range to identities: first those that were not given yet, and when
there are none left, those that nobody uses at the time. An identity may use an address through
several tunnels. The order in which the table of the leases is enumerated, and the hashes of the
addresses of the peers, are parameters.
-/

namespace SecuredApp

open SecuredApp.Core

inductive Family where
  | inet
  | inet6
deriving DecidableEq

/-- An address: the bytes before the last four, of which an IPv4 address has none, and the last four
as a number. -/
@[ext]
structure Host where
  family : Family
  net : List UInt8
  last : ℕ
  net_eq : family = .inet → net = []
  last_lt : last < 2 ^ 32
deriving DecidableEq

/-- An online lease, with the hash of the address of the peer. -/
structure Lease where
  offset : ℕ
  hash : ℕ
deriving DecidableEq

/-- The leases of an identity. -/
structure LeaseEntry where
  online : List Lease
  offline : List ℕ
deriving DecidableEq

/-- `mem_pool_t`. -/
structure Pool (ι : Type*) [DecidableEq ι] where
  base : Host
  baseIsNetworkId : Bool
  size : ℕ
  unused : ℕ
  leases : AList fun _ : ι => LeaseEntry

variable {ι π : Type*} [DecidableEq ι]

/-- `offset2host`. -/
def Pool.offset2host (pool : Pool ι) (offset : ℕ) : Option Host :=
  let offset := (offset + (2 ^ 32 - 1)) % 2 ^ 32
  if offset > pool.size then none
  else some { pool.base with
    last := (offset + pool.base.last) % 2 ^ 32
    last_lt := Nat.mod_lt _ (by decide) }

/-- `host2offset`; what is not in the pool has the offset -1. -/
def Pool.host2offset (pool : Pool ι) (addr : Host) : ℕ :=
  if addr.family ≠ pool.base.family then 2 ^ 32 - 1
  else if addr.family = .inet6 && addr.net ≠ pool.base.net then 2 ^ 32 - 1
  else if addr.last > (pool.base.last + pool.size) % 2 ^ 32 then 2 ^ 32 - 1
  else (addr.last + (2 ^ 32 - pool.base.last) + 1) % 2 ^ 32

/-- `hash_addr`. -/
def hashAddr (hash : π → ℕ) : Option π → ℕ
  | none => 0
  | some peer => hash peer

/-- The entry of an identity, or a new one. -/
def entryOf (leases : AList fun _ : ι => LeaseEntry) (id : ι) : LeaseEntry :=
  (leases.lookup id).getD ⟨[], []⟩

def Pool.entry (pool : Pool ι) (id : ι) : LeaseEntry := entryOf pool.leases id

def Pool.setEntry (pool : Pool ι) (id : ι) (entry : LeaseEntry) : Pool ι :=
  { pool with leases := pool.leases.insert id entry }

/-- A tunnel of an identity uses an address. -/
def Pool.addOnline (pool : Pool ι) (id : ι) (lease : Lease) : Pool ι :=
  pool.setEntry id ⟨(pool.entry id).online ++ [lease], (pool.entry id).offline⟩

/-- `get_existing`, the search for an online lease. -/
def Pool.getOnline (hash : π → ℕ) (pool : Pool ι) (id : ι) (requested : Host) (peer : Option π) :
    Pool ι × ℕ :=
  match peer with
  | none => (pool, 0)
  | some peer =>
    let reassigned := (pool.entry id).online.find? fun lease =>
      lease.offset = pool.host2offset requested && lease.hash = hash peer
    match reassigned with
    | none => (pool, 0)
    | some lease => (pool.addOnline id lease, lease.offset)

/-- `get_existing`. -/
def Pool.getExisting (hash : π → ℕ) (pool : Pool ι) (id : ι) (requested : Host) (peer : Option π) :
    Pool ι × ℕ :=
  match pool.leases.lookup id with
  | none => (pool, 0)
  | some entry =>
    match entry.offline with
    | offset :: offline =>
      let pool := pool.setEntry id ⟨entry.online ++ [⟨offset, hashAddr hash peer⟩], offline⟩
      if offset ≠ 0 then (pool, offset) else pool.getOnline hash id requested peer
    | [] => pool.getOnline hash id requested peer

/-- `get_new`. -/
def Pool.getNew (hash : π → ℕ) (pool : Pool ι) (id : ι) (peer : Option π) : Pool ι × ℕ :=
  if pool.unused < pool.size then
    let unused := pool.unused + 1
    let offset := unused + if pool.baseIsNetworkId then 1 else 0
    ({ pool.addOnline id ⟨offset, hashAddr hash peer⟩ with unused := unused }, offset)
  else (pool, 0)

/-- `get_reassigned`, the search for an offline lease. -/
def takeOffline : List (Sigma fun _ : ι => LeaseEntry) → AList (fun _ : ι => LeaseEntry) →
    AList (fun _ : ι => LeaseEntry) × ℕ
  | [], leases => (leases, 0)
  | ⟨id, entry⟩ :: entries, leases =>
    match entry.offline with
    | offset :: offline =>
      let leases := if entry.online.isEmpty && offline.isEmpty then leases.erase id
        else leases.insert id ⟨entry.online, offline⟩
      if offset ≠ 0 then (leases, offset) else takeOffline entries leases
    | [] => takeOffline entries (if entry.online.isEmpty then leases.erase id else leases)

/-- `get_reassigned`. -/
def Pool.getReassigned (hash : π → ℕ)
    (enum : AList (fun _ : ι => LeaseEntry) → List (Sigma fun _ : ι => LeaseEntry))
    (pool : Pool ι) (id : ι) (peer : Option π) : Pool ι × ℕ :=
  let (leases, offset) := takeOffline (enum pool.leases) pool.leases
  let pool := { pool with leases := leases }
  if offset ≠ 0 then (pool.addOnline id ⟨offset, hashAddr hash peer⟩, offset) else (pool, 0)

/-- `mem_pool_op_t`. -/
inductive AcquireOp where
  | existing
  | new
  | reassign
deriving DecidableEq

/-- `acquire_address`. -/
def Pool.acquireAddress (hash : π → ℕ)
    (enum : AList (fun _ : ι => LeaseEntry) → List (Sigma fun _ : ι => LeaseEntry))
    (pool : Pool ι) (id : ι) (requested : Host) (operation : AcquireOp) (peer : Option π) :
    Pool ι × Option Host :=
  if pool.size = 0 then (pool, some requested)
  else if requested.family ≠ pool.base.family then (pool, none)
  else
    let (pool, offset) := match operation with
      | .existing => pool.getExisting hash id requested peer
      | .new => pool.getNew hash id peer
      | .reassign => pool.getReassigned hash enum id peer
    (pool, if offset ≠ 0 then pool.offset2host offset else none)

/-- `release_address`: only the first tunnel is removed, and the lease goes offline with the
last. -/
def Pool.releaseAddress (pool : Pool ι) (address : Host) (id : ι) : Pool ι × Bool :=
  if pool.size = 0 then (pool, false)
  else
    match pool.leases.lookup id with
    | none => (pool, false)
    | some entry =>
      let offset := pool.host2offset address
      let found := entry.online.any (·.offset = offset)
      let online := entry.online.eraseP (·.offset = offset)
      let more := online.any (·.offset = offset)
      let offline := if more then entry.offline else entry.offline ++ [offset]
      if found then (pool.setEntry id ⟨online, offline⟩, true) else (pool, false)

/-! ### New pools -/

/-- `network_id_diff`. -/
def networkIdDiff (host : Host) (hostbits : ℕ) : ℕ :=
  if hostbits = 0 then 0 else host.last % 2 ^ hostbits

/-- `mem_pool_create`, with a base address. -/
def Pool.create (ι : Type*) [DecidableEq ι] (base : Host) (bits : ℤ) : Pool ι :=
  let addrBits : ℤ := if base.family = .inet then 32 else 128
  let bits := (min (addrBits - max 0 (min bits addrBits)) 31).toNat
  let size := 2 ^ bits
  let diff := networkIdDiff base bits
  if size > 2 then
    if diff = 0 then ⟨base, true, size - 1 - 1, 0, ∅⟩
    else ⟨base, false, size - diff - 1, 0, ∅⟩
  else if diff ≠ 0 then ⟨base, false, size - 1, 0, ∅⟩
  else ⟨base, false, size, 0, ∅⟩

/-- `mem_pool_create_range`. -/
def Pool.createRange (ι : Type*) [DecidableEq ι] (fromAddr toAddr : Host) :
    Option (Pool ι) :=
  if fromAddr.family ≠ toAddr.family || fromAddr.net ≠ toAddr.net ||
      fromAddr.last > toAddr.last then none
  else some ⟨fromAddr, false, (toAddr.last - fromAddr.last + 1) % 2 ^ 32, 0, ∅⟩

end SecuredApp
