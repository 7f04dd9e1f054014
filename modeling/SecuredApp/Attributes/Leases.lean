import SecuredApp.Attributes.Pool

/-!
# Who has which address

Whatever is acquired and released, an address of a pool is used by one identity at most, or kept for
one that used it, and every address that was ever given out is either used or kept.
-/

namespace SecuredApp

open SecuredApp.Core

variable {ι π : Type*} [DecidableEq ι]

/-! ### Entries -/

lemma entryOf_insert (leases : AList fun _ : ι => LeaseEntry) (id id' : ι) (entry : LeaseEntry) :
    entryOf (leases.insert id entry) id' = if id' = id then entry else entryOf leases id' := by
  split_ifs with h
  · rw [h, entryOf, AList.lookup_insert]
    rfl
  · rw [entryOf, AList.lookup_insert_ne h]
    rfl

lemma entryOf_erase (leases : AList fun _ : ι => LeaseEntry) (id id' : ι) :
    entryOf (leases.erase id) id' = if id' = id then ⟨[], []⟩ else entryOf leases id' := by
  split_ifs with h
  · rw [h, entryOf, AList.lookup_erase]
    rfl
  · rw [entryOf, AList.lookup_erase_ne h]
    rfl

lemma entryOf_eq_of_lookup {leases : AList fun _ : ι => LeaseEntry} {id : ι} {entry : LeaseEntry}
    (h : leases.lookup id = some entry) : entryOf leases id = entry := by
  rw [entryOf, h]
  rfl

@[simp] lemma Pool.setEntry_entry (pool : Pool ι) (id id' : ι) (entry : LeaseEntry) :
    (pool.setEntry id entry).entry id' = if id' = id then entry else pool.entry id' :=
  entryOf_insert pool.leases id id' entry

/-! ### Uses -/

/-- How many tunnels of an identity use an address. -/
def Pool.uses (pool : Pool ι) (id : ι) (offset : ℕ) : ℕ :=
  (pool.entry id).online.countP (·.offset = offset)

/-- An address is kept for an identity that used it. -/
def Pool.Kept (pool : Pool ι) (id : ι) (offset : ℕ) : Prop := offset ∈ (pool.entry id).offline

/-- The first address that is given out. -/
def Pool.first (pool : Pool ι) : ℕ := if pool.baseIsNetworkId then 2 else 1

lemma Pool.first_pos (pool : Pool ι) : 0 < pool.first := by
  rw [Pool.first]
  split_ifs <;> omega

/-- Two pools of the same addresses. -/
structure Pool.Alike (pool pool' : Pool ι) : Prop where
  base : pool'.base = pool.base
  netId : pool'.baseIsNetworkId = pool.baseIsNetworkId
  size : pool'.size = pool.size

lemma Pool.Alike.first {pool pool' : Pool ι} (h : pool.Alike pool') : pool'.first = pool.first := by
  rw [Pool.first, Pool.first, h.netId]

/-- What holds of a pool at any time. -/
structure Pool.Ok (pool : Pool ι) : Prop where
  unused_le : pool.unused ≤ pool.size
  nodup : ∀ id, (pool.entry id).offline.Nodup
  kept_unused : ∀ {id offset}, pool.Kept id offset → ∀ id', pool.uses id' offset = 0
  kept_unique : ∀ {id id' offset}, pool.Kept id offset → pool.Kept id' offset → id = id'
  uses_unique : ∀ {id id' offset}, 0 < pool.uses id offset → 0 < pool.uses id' offset → id = id'
  leased : ∀ offset, (∃ id, pool.Kept id offset ∨ 0 < pool.uses id offset) ↔
    pool.first ≤ offset ∧ offset < pool.first + pool.unused

lemma Pool.Ok.pos {pool : Pool ι} (h : pool.Ok) {id : ι} {offset : ℕ}
    (hoffset : pool.Kept id offset ∨ 0 < pool.uses id offset) : offset ≠ 0 := by
  have := ((h.leased offset).mp ⟨id, hoffset⟩).1
  have := pool.first_pos
  omega

/-- A tunnel of an identity comes to use an address: a new one, one that was kept for some
identity, or one that it uses already. -/
structure Pool.Acquires (pool pool' : Pool ι) (id : ι) (offset : ℕ) : Prop where
  alike : pool.Alike pool'
  uses : ∀ id' offset', pool'.uses id' offset'
    = pool.uses id' offset' + if id' = id ∧ offset' = offset then 1 else 0
  kept : ∀ id' offset', pool'.Kept id' offset' ↔ pool.Kept id' offset' ∧ offset' ≠ offset
  nodup : ∀ id', (pool'.entry id').offline.Nodup
  source : pool'.unused = pool.unused ∧
      ((∃ id₀, pool.Kept id₀ offset) ∨ 0 < pool.uses id offset) ∨
    pool'.unused = pool.unused + 1 ∧ offset = pool.first + pool.unused ∧ pool.unused < pool.size

/-- A tunnel of an identity stops using an address, which is kept for it if this was the last
one. -/
structure Pool.Releases (pool pool' : Pool ι) (id : ι) (offset : ℕ) : Prop where
  alike : pool.Alike pool'
  used : 0 < pool.uses id offset
  uses : ∀ id' offset', pool'.uses id' offset'
    = pool.uses id' offset' - if id' = id ∧ offset' = offset then 1 else 0
  kept : ∀ id' offset', pool'.Kept id' offset' ↔ pool.Kept id' offset' ∨
    id' = id ∧ offset' = offset ∧ pool.uses id offset = 1
  nodup : ∀ id', (pool'.entry id').offline.Nodup
  unused : pool'.unused = pool.unused

/-- The identity uses the requested address already, through a tunnel whose peer has an address of
the same hash. -/
def Pool.Reuses (pool : Pool ι) (hash : π → ℕ) (id : ι) (requested : Host) (peer : Option π)
    (offset : ℕ) : Prop :=
  offset = pool.host2offset requested ∧
    ∃ lease ∈ (pool.entry id).online, lease.offset = offset ∧ peer.map hash = some lease.hash

/-- Where an operation takes an address from. -/
def Pool.Gives (pool : Pool ι) (hash : π → ℕ) (id : ι) (requested : Host) (peer : Option π)
    (offset : ℕ) : AcquireOp → Prop
  | .existing => pool.Kept id offset ∨ pool.Reuses hash id requested peer offset
  | .new => ∀ id', ¬ pool.Kept id' offset ∧ pool.uses id' offset = 0
  | .reassign => ∃ id', pool.Kept id' offset

/-- Why an operation finds no address. -/
def Pool.Lacks (pool : Pool ι) (hash : π → ℕ) (id : ι) (requested : Host) (peer : Option π) :
    AcquireOp → Prop
  | .existing => ∀ offset, ¬ pool.Kept id offset ∧ ¬ pool.Reuses hash id requested peer offset
  | .new => pool.unused = pool.size
  | .reassign => ∀ id' offset, ¬ pool.Kept id' offset

/-- Who reuses an address uses it. -/
lemma Pool.Reuses.uses_pos {pool : Pool ι} {hash : π → ℕ} {id : ι} {requested : Host}
    {peer : Option π} {offset : ℕ} (h : pool.Reuses hash id requested peer offset) :
    0 < pool.uses id offset := by
  obtain ⟨-, lease, hlease, hoffset, -⟩ := h
  rw [Pool.uses, List.countP_pos_iff]
  exact ⟨lease, hlease, decide_eq_true hoffset⟩

/-- Nothing happens to the leases. -/
structure Pool.Same (pool pool' : Pool ι) : Prop where
  alike : pool.Alike pool'
  entry : ∀ id, pool'.entry id = pool.entry id
  unused : pool'.unused = pool.unused

lemma Pool.Same.refl (pool : Pool ι) : pool.Same pool := ⟨⟨rfl, rfl, rfl⟩, fun _ => rfl, rfl⟩

lemma Pool.Ok.same {pool pool' : Pool ι} (h : pool.Ok) (hsame : pool.Same pool') : pool'.Ok := by
  have huses : ∀ id offset, pool'.uses id offset = pool.uses id offset := by
    intro id offset
    rw [Pool.uses, Pool.uses, hsame.entry]
  have hkept : ∀ id offset, pool'.Kept id offset ↔ pool.Kept id offset := by
    intro id offset
    rw [Pool.Kept, Pool.Kept, hsame.entry]
  refine ⟨?_, ?_, ?_, ?_, ?_, ?_⟩
  · rw [hsame.unused, hsame.alike.size]
    exact h.unused_le
  · intro id
    rw [hsame.entry]
    exact h.nodup id
  · intro id offset hkept' id'
    rw [huses]
    exact h.kept_unused ((hkept _ _).mp hkept') id'
  · intro id id' offset h₁ h₂
    exact h.kept_unique ((hkept _ _).mp h₁) ((hkept _ _).mp h₂)
  · intro id id' offset h₁ h₂
    rw [huses] at h₁ h₂
    exact h.uses_unique h₁ h₂
  · intro offset
    simp only [hkept, huses, hsame.unused, hsame.alike.first]
    exact h.leased offset

lemma Pool.Ok.acquires {pool pool' : Pool ι} (h : pool.Ok) {id : ι} {offset : ℕ}
    (hacq : pool.Acquires pool' id offset) : pool'.Ok := by
  -- nobody else uses the address
  have hother : ∀ id', 0 < pool.uses id' offset → id' = id := by
    intro id' huses
    rcases hacq.source with ⟨-, ⟨id₀, hkept⟩ | hown⟩ | ⟨-, hfresh, -⟩
    · have := h.kept_unused hkept id'
      omega
    · exact h.uses_unique huses hown
    · have := ((h.leased offset).mp ⟨id', Or.inr huses⟩).2
      omega
  refine ⟨?_, hacq.nodup, ?_, ?_, ?_, ?_⟩
  · rw [hacq.alike.size]
    have := h.unused_le
    rcases hacq.source with ⟨hunused, -⟩ | ⟨hunused, -, hlt⟩ <;> omega
  · intro id₁ offset' hkept id₂
    obtain ⟨hkept, hne⟩ := (hacq.kept _ _).mp hkept
    rw [hacq.uses, h.kept_unused hkept id₂, if_neg fun heq => hne heq.2]
  · intro id₁ id₂ offset' h₁ h₂
    exact h.kept_unique ((hacq.kept _ _).mp h₁).1 ((hacq.kept _ _).mp h₂).1
  · intro id₁ id₂ offset' h₁ h₂
    rw [hacq.uses] at h₁ h₂
    by_cases hoffset : offset' = offset
    · subst hoffset
      have hid : ∀ id',
          0 < pool.uses id' offset' + (if id' = id ∧ offset' = offset' then 1 else 0) →
            id' = id := by
        intro id' hpos
        by_contra hne
        rw [if_neg fun heq => hne heq.1] at hpos
        exact hne (hother id' hpos)
      rw [hid id₁ h₁, hid id₂ h₂]
    · rw [if_neg fun heq => hoffset heq.2] at h₁ h₂
      exact h.uses_unique h₁ h₂
  · intro offset'
    rw [hacq.alike.first]
    by_cases hoffset : offset' = offset
    · subst hoffset
      have hlhs : ∃ id', pool'.Kept id' offset' ∨ 0 < pool'.uses id' offset' :=
        ⟨id, Or.inr (by rw [hacq.uses, if_pos ⟨rfl, rfl⟩]; omega)⟩
      refine ⟨fun _ => ?_, fun _ => hlhs⟩
      rcases hacq.source with ⟨hunused, hsource⟩ | ⟨hunused, hfresh, -⟩
      · rw [hunused]
        refine (h.leased offset').mp ?_
        rcases hsource with ⟨id₀, hkept⟩ | hown
        · exact ⟨id₀, Or.inl hkept⟩
        · exact ⟨id, Or.inr hown⟩
      · omega
    · have hsame : (∃ id', pool'.Kept id' offset' ∨ 0 < pool'.uses id' offset') ↔
          ∃ id', pool.Kept id' offset' ∨ 0 < pool.uses id' offset' := by
        refine exists_congr fun id' => ?_
        rw [hacq.kept, hacq.uses, if_neg fun heq => hoffset heq.2]
        simp [hoffset]
      rw [hsame, h.leased]
      rcases hacq.source with ⟨hunused, -⟩ | ⟨hunused, hfresh, -⟩ <;> omega

lemma Pool.Ok.releases {pool pool' : Pool ι} (h : pool.Ok) {id : ι} {offset : ℕ}
    (hrel : pool.Releases pool' id offset) : pool'.Ok := by
  have hle : ∀ id' offset', pool'.uses id' offset' ≤ pool.uses id' offset' := by
    intro id' offset'
    rw [hrel.uses]
    omega
  refine ⟨?_, hrel.nodup, ?_, ?_, ?_, ?_⟩
  · rw [hrel.unused, hrel.alike.size]
    exact h.unused_le
  · intro id₁ offset' hkept id₂
    rcases (hrel.kept _ _).mp hkept with hkept | ⟨-, rfl, hone⟩
    · have := hle id₂ offset'
      rw [h.kept_unused hkept id₂] at this
      omega
    · rw [hrel.uses]
      by_cases hid : id₂ = id
      · rw [if_pos ⟨hid, rfl⟩, hid, hone]
      · by_contra hpos
        rw [if_neg fun heq => hid heq.1] at hpos
        exact hid (h.uses_unique (by omega) hrel.used)
  · intro id₁ id₂ offset' h₁ h₂
    rcases (hrel.kept _ _).mp h₁ with h₁ | ⟨rfl, rfl, -⟩ <;>
      rcases (hrel.kept _ _).mp h₂ with h₂ | ⟨rfl, hoffset, -⟩
    · exact h.kept_unique h₁ h₂
    · have hused := hrel.used
      rw [← hoffset, h.kept_unused h₁] at hused
      omega
    · have hused := hrel.used
      rw [h.kept_unused h₂] at hused
      omega
    · rfl
  · intro id₁ id₂ offset' h₁ h₂
    exact h.uses_unique (Nat.lt_of_lt_of_le h₁ (hle _ _)) (Nat.lt_of_lt_of_le h₂ (hle _ _))
  · intro offset'
    rw [hrel.alike.first, hrel.unused, ← h.leased]
    constructor
    · rintro ⟨id', hkept | huses⟩
      · rcases (hrel.kept _ _).mp hkept with hkept | ⟨rfl, rfl, -⟩
        · exact ⟨id', Or.inl hkept⟩
        · exact ⟨id', Or.inr hrel.used⟩
      · exact ⟨id', Or.inr (Nat.lt_of_lt_of_le huses (hle _ _))⟩
    · rintro ⟨id', hkept | huses⟩
      · exact ⟨id', Or.inl ((hrel.kept _ _).mpr (Or.inl hkept))⟩
      · by_cases hlast : id' = id ∧ offset' = offset
        · obtain ⟨rfl, rfl⟩ := hlast
          by_cases hone : pool.uses id' offset' = 1
          · exact ⟨id', Or.inl ((hrel.kept _ _).mpr (Or.inr ⟨rfl, rfl, hone⟩))⟩
          · refine ⟨id', Or.inr ?_⟩
            rw [hrel.uses, if_pos ⟨rfl, rfl⟩]
            omega
        · refine ⟨id', Or.inr ?_⟩
          rw [hrel.uses, if_neg hlast]
          exact huses

/-! ### What the operations do -/

lemma addOnline_uses (pool : Pool ι) (id id' : ι) (lease : Lease) (offset : ℕ) :
    (pool.addOnline id lease).uses id' offset
      = pool.uses id' offset + if id' = id ∧ offset = lease.offset then 1 else 0 := by
  rw [Pool.uses, Pool.uses, Pool.addOnline, Pool.setEntry_entry]
  by_cases hid : id' = id
  · rw [if_pos hid, hid, List.countP_append, List.countP_singleton]
    simp [eq_comm]
  · rw [if_neg hid, if_neg fun h => hid h.1, Nat.add_zero]

lemma addOnline_offline (pool : Pool ι) (id id' : ι) (lease : Lease) :
    ((pool.addOnline id lease).entry id').offline = (pool.entry id').offline := by
  rw [Pool.addOnline, Pool.setEntry_entry]
  split_ifs with hid
  · rw [hid]
  · rfl

/-- The first address that was kept for an identity is taken from it and given to one. -/
lemma acquires_of_kept {pool taken pool' : Pool ι} (h : pool.Ok) (id₀ id : ι) (lease : Lease)
    {offline : List ℕ} (hoffline : (pool.entry id₀).offline = lease.offset :: offline)
    (halike : pool.Alike taken) (hunused : taken.unused = pool.unused)
    (htaken : ∀ id', taken.entry id'
      = if id' = id₀ then ⟨(pool.entry id₀).online, offline⟩ else pool.entry id')
    (hpool' : pool' = taken.addOnline id lease) : pool.Acquires pool' id lease.offset := by
  subst hpool'
  have hkept₀ : pool.Kept id₀ lease.offset := by
    rw [Pool.Kept, hoffline]
    exact List.mem_cons_self
  have hnodup := h.nodup id₀
  rw [hoffline, List.nodup_cons] at hnodup
  have hofflines : ∀ id', ((taken.addOnline id lease).entry id').offline
      = if id' = id₀ then offline else (pool.entry id').offline := by
    intro id'
    rw [addOnline_offline, htaken]
    split_ifs <;> rfl
  refine ⟨⟨halike.base, halike.netId, halike.size⟩, ?_, ?_, ?_,
    Or.inl ⟨hunused, Or.inl ⟨id₀, hkept₀⟩⟩⟩
  · intro id' offset'
    rw [addOnline_uses, Pool.uses, Pool.uses, htaken]
    split_ifs with hid <;> simp [hid]
  · intro id' offset'
    rw [Pool.Kept, hofflines, Pool.Kept]
    split_ifs with hid
    · rw [hid, hoffline, List.mem_cons]
      refine ⟨fun hmem => ⟨Or.inr hmem, fun heq => hnodup.1 (heq ▸ hmem)⟩, ?_⟩
      rintro ⟨heq | hmem, hne⟩
      · exact absurd heq hne
      · exact hmem
    · refine ⟨fun hmem => ⟨hmem, ?_⟩, fun hmem => hmem.1⟩
      rintro rfl
      exact hid (h.kept_unique hmem hkept₀)
  · intro id'
    rw [hofflines]
    split_ifs
    · exact hnodup.2
    · exact h.nodup id'

/-- A tunnel more of an identity that uses the address already. -/
lemma acquires_of_uses {pool : Pool ι} (h : pool.Ok) {id : ι} {lease : Lease}
    (huses : 0 < pool.uses id lease.offset) :
    pool.Acquires (pool.addOnline id lease) id lease.offset := by
  refine ⟨⟨rfl, rfl, rfl⟩, ?_, ?_, ?_, Or.inl ⟨rfl, Or.inr huses⟩⟩
  · intro id' offset'
    exact addOnline_uses pool id id' lease offset'
  · intro id' offset'
    rw [Pool.Kept, addOnline_offline]
    refine ⟨fun hkept => ⟨hkept, ?_⟩, fun hkept => hkept.1⟩
    rintro rfl
    have hunused := h.kept_unused hkept id
    omega
  · intro id'
    rw [addOnline_offline]
    exact h.nodup id'

/-- The search of `get_existing` for an online lease. -/
lemma getOnline_cases {pool : Pool ι} (h : pool.Ok) (hash : π → ℕ) (id : ι) (requested : Host)
    (peer : Option π) :
    (pool.getOnline hash id requested peer = (pool, 0) ∧
      ∀ offset, ¬ pool.Reuses hash id requested peer offset) ∨
      ∃ pool' offset, pool.getOnline hash id requested peer = (pool', offset) ∧
        pool.Acquires pool' id offset ∧ pool.Reuses hash id requested peer offset := by
  cases peer with
  | none =>
    refine Or.inl ⟨rfl, ?_⟩
    rintro offset ⟨-, lease, -, -, hhash⟩
    cases hhash
  | some peer =>
    rw [Pool.getOnline]
    cases hfind : (pool.entry id).online.find? fun lease =>
        lease.offset = pool.host2offset requested && lease.hash = hash peer with
    | none =>
      refine Or.inl ⟨rfl, ?_⟩
      rintro offset ⟨hoffset, lease, hlease, rfl, hhash⟩
      have hfails := List.find?_eq_none.mp hfind lease hlease
      simp [hoffset, Option.some.inj hhash] at hfails
    | some lease =>
      have hlease := List.mem_of_find?_eq_some hfind
      have hmatches := List.find?_some hfind
      rw [Bool.and_eq_true, decide_eq_true_eq, decide_eq_true_eq] at hmatches
      have hreuses : pool.Reuses hash id requested (some peer) lease.offset :=
        ⟨hmatches.1, lease, hlease, rfl, congrArg some hmatches.2.symm⟩
      exact Or.inr ⟨_, _, rfl, acquires_of_uses h hreuses.uses_pos, hreuses⟩

/-- `get_existing`. -/
lemma getExisting_cases {pool : Pool ι} (h : pool.Ok) (hash : π → ℕ) (id : ι) (requested : Host)
    (peer : Option π) :
    (pool.getExisting hash id requested peer = (pool, 0) ∧
      pool.Lacks hash id requested peer .existing) ∨
      ∃ pool' offset, pool.getExisting hash id requested peer = (pool', offset) ∧
        pool.Acquires pool' id offset ∧ pool.Gives hash id requested peer offset .existing := by
  cases hlookup : pool.leases.lookup id with
  | none =>
    have hentry : pool.entry id = ⟨[], []⟩ := by rw [Pool.entry, entryOf, hlookup]; rfl
    refine Or.inl ⟨by rw [Pool.getExisting, hlookup], fun offset => ⟨?_, ?_⟩⟩
    · rw [Pool.Kept, hentry]
      exact List.not_mem_nil
    · rintro ⟨-, lease, hlease, -⟩
      rw [hentry] at hlease
      cases hlease
  | some entry =>
    have hentry : pool.entry id = entry := entryOf_eq_of_lookup hlookup
    cases hoffline : entry.offline with
    | cons offset offline =>
      have hkept : pool.Kept id offset := by
        rw [Pool.Kept, hentry, hoffline]
        exact List.mem_cons_self
      refine Or.inr ⟨pool.setEntry id ⟨entry.online ++ [⟨offset, hashAddr hash peer⟩], offline⟩,
        offset, ?_, ?_, Or.inl hkept⟩
      · rw [Pool.getExisting, hlookup]
        simp only [hoffline]
        rw [if_pos (h.pos (Or.inl hkept))]
      · have halike : pool.Alike (pool.setEntry id ⟨entry.online, offline⟩) := ⟨rfl, rfl, rfl⟩
        refine acquires_of_kept h id id ⟨offset, hashAddr hash peer⟩
          (by rw [hentry, hoffline]) halike rfl (fun id' => by rw [Pool.setEntry_entry, hentry]) ?_
        simp [Pool.addOnline, Pool.setEntry, AList.insert_insert, Pool.entry, entryOf]
    | nil =>
      have hnone : ∀ offset, ¬ pool.Kept id offset := by
        intro offset
        rw [Pool.Kept, hentry, hoffline]
        exact List.not_mem_nil
      have hexisting : pool.getExisting hash id requested peer
          = pool.getOnline hash id requested peer := by
        rw [Pool.getExisting, hlookup]
        simp only [hoffline]
      rw [hexisting]
      rcases getOnline_cases h hash id requested peer with
        ⟨heq, hlacks⟩ | ⟨pool', offset, heq, hacq, hreuses⟩
      · exact Or.inl ⟨heq, fun offset => ⟨hnone offset, hlacks offset⟩⟩
      · exact Or.inr ⟨pool', offset, heq, hacq, Or.inr hreuses⟩

/-- `get_new`. -/
lemma getNew_cases {pool : Pool ι} (h : pool.Ok) (hash : π → ℕ) (id : ι) (requested : Host)
    (peer : Option π) :
    (pool.getNew hash id peer = (pool, 0) ∧ pool.Lacks hash id requested peer .new) ∨
      ∃ pool' offset, pool.getNew hash id peer = (pool', offset) ∧
        pool.Acquires pool' id offset ∧ pool.Gives hash id requested peer offset .new := by
  by_cases hlt : pool.unused < pool.size
  · right
    have hfresh : pool.unused + 1 + (if pool.baseIsNetworkId = true then 1 else 0)
        = pool.first + pool.unused := by
      rw [Pool.first]
      split_ifs <;> omega
    have hunleased : ∀ id', ¬ pool.Kept id' (pool.first + pool.unused) ∧
        pool.uses id' (pool.first + pool.unused) = 0 := by
      intro id'
      by_contra hleased
      rw [not_and_or, not_not, ← ne_eq, ← Nat.pos_iff_ne_zero] at hleased
      have := ((h.leased _).mp ⟨id', hleased⟩).2
      omega
    refine ⟨_, _, by rw [Pool.getNew, if_pos hlt], ?_, hfresh.symm ▸ hunleased⟩
    refine ⟨⟨rfl, rfl, rfl⟩, ?_, ?_, ?_, Or.inr ⟨rfl, hfresh, hlt⟩⟩
    · intro id' offset'
      exact addOnline_uses pool id id' _ offset'
    · intro id' offset'
      have hoffline := addOnline_offline pool id id'
        ⟨pool.unused + 1 + (if pool.baseIsNetworkId = true then 1 else 0), hashAddr hash peer⟩
      refine Iff.trans (Iff.of_eq (congrArg (offset' ∈ ·) hoffline)) ?_
      refine ⟨fun hkept => ⟨hkept, ?_⟩, fun hkept => hkept.1⟩
      rintro rfl
      exact (hunleased id').1 (hfresh ▸ hkept)
    · intro id'
      exact (addOnline_offline pool id id' _).symm ▸ h.nodup id'
  · left
    refine ⟨by rw [Pool.getNew, if_neg hlt], ?_⟩
    have := h.unused_le
    rw [Pool.Lacks]
    omega

/-- The search for an offline lease, over entries that are those of the table. -/
lemma takeOffline_cases {entries : List (Sigma fun _ : ι => LeaseEntry)}
    {leases : AList fun _ : ι => LeaseEntry} (hkeys : (entries.map (·.1)).Nodup)
    (hentries : ∀ e ∈ entries, entryOf leases e.1 = e.2)
    (hpos : ∀ e ∈ entries, ∀ offset ∈ e.2.offline, offset ≠ 0) :
    (∃ leases', takeOffline entries leases = (leases', 0) ∧ (∀ e ∈ entries, e.2.offline = []) ∧
      ∀ id, entryOf leases' id = entryOf leases id) ∨
    ∃ leases' id₀ offset offline, takeOffline entries leases = (leases', offset) ∧ offset ≠ 0 ∧
      (entryOf leases id₀).offline = offset :: offline ∧ ∀ id, entryOf leases' id
        = if id = id₀ then ⟨(entryOf leases id₀).online, offline⟩ else entryOf leases id := by
  induction entries generalizing leases with
  | nil => exact Or.inl ⟨leases, rfl, by simp, fun _ => rfl⟩
  | cons e entries ih =>
    obtain ⟨id₀, entry⟩ := e
    obtain ⟨hid₀, hkeys⟩ := List.nodup_cons.mp hkeys
    have hentry : entryOf leases id₀ = entry := hentries _ List.mem_cons_self
    cases hoffline : entry.offline with
    | cons offset offline =>
      have hne : offset ≠ 0 :=
        hpos _ List.mem_cons_self offset (by simp only [hoffline]; exact List.mem_cons_self)
      refine Or.inr ⟨_, id₀, offset, offline, by simp only [takeOffline, hoffline]; rw [if_pos hne],
        hne, by rw [hentry, hoffline], fun id => ?_⟩
      rw [hentry]
      by_cases hempty : (entry.online.isEmpty && offline.isEmpty) = true
      · rw [if_pos hempty, entryOf_erase]
        simp only [Bool.and_eq_true, List.isEmpty_iff] at hempty
        rw [hempty.1, hempty.2]
      · rw [if_neg hempty, entryOf_insert]
    | nil =>
      -- an entry without leases is removed on the way
      have hsame : ∀ id,
          entryOf (if entry.online.isEmpty = true then leases.erase id₀ else leases) id =
            entryOf leases id := by
        intro id
        split_ifs with hempty
        · rw [entryOf_erase]
          split_ifs with hid
          · rw [hid, hentry]
            rw [List.isEmpty_iff] at hempty
            cases entry
            simp_all
          · rfl
        · rfl
      have hrest := ih hkeys
        (fun e he => (hsame e.1).trans (hentries e (List.mem_cons_of_mem _ he)))
        (fun e he => hpos e (List.mem_cons_of_mem _ he))
      simp only [hsame] at hrest
      simp only [takeOffline, hoffline]
      rcases hrest with ⟨leases', htake, hnone, hentry'⟩ | hfound
      · refine Or.inl ⟨leases', htake, fun e he => ?_, hentry'⟩
        rcases List.mem_cons.mp he with rfl | he
        · exact hoffline
        · exact hnone e he
      · exact Or.inr hfound

/-- `get_reassigned`. -/
lemma getReassigned_cases {pool : Pool ι} (h : pool.Ok) (hash : π → ℕ)
    {enum : AList (fun _ : ι => LeaseEntry) → List (Sigma fun _ : ι => LeaseEntry)}
    (henum : ∀ leases, (enum leases).Perm leases.entries) (id : ι) (requested : Host)
    (peer : Option π) :
    (∃ pool', pool.getReassigned hash enum id peer = (pool', 0) ∧ pool.Same pool' ∧
      pool.Lacks hash id requested peer .reassign) ∨
    ∃ pool' offset, pool.getReassigned hash enum id peer = (pool', offset) ∧
      pool.Acquires pool' id offset ∧ pool.Gives hash id requested peer offset .reassign := by
  have hmem : ∀ e, e ∈ enum pool.leases ↔ pool.leases.lookup e.1 = some e.2 := by
    intro e
    rw [(henum pool.leases).mem_iff, ← Option.mem_def, AList.mem_lookup_iff]
  have hkeys : ((enum pool.leases).map (·.1)).Nodup :=
    ((henum pool.leases).map _).nodup_iff.mpr pool.leases.keys_nodup
  have hentries : ∀ e ∈ enum pool.leases, entryOf pool.leases e.1 = e.2 :=
    fun e he => entryOf_eq_of_lookup ((hmem e).mp he)
  have hpos : ∀ e ∈ enum pool.leases, ∀ offset ∈ e.2.offline, offset ≠ 0 := by
    intro e he offset hoffset
    have hkept : pool.Kept e.1 offset := by
      rw [Pool.Kept, Pool.entry, hentries e he]
      exact hoffset
    exact h.pos (Or.inl hkept)
  rcases takeOffline_cases hkeys hentries hpos with
    ⟨leases', htake, hnone, hsame⟩ | ⟨leases', id₀, offset, offline, htake, hne, hoffline, hentry⟩
  · left
    refine ⟨{ pool with leases := leases' }, ?_, ⟨⟨rfl, rfl, rfl⟩, hsame, rfl⟩, ?_⟩
    · rw [Pool.getReassigned, htake]
      rfl
    · intro id offset hkept
      cases hlookup : pool.leases.lookup id with
      | none =>
        rw [Pool.Kept, Pool.entry, entryOf, hlookup] at hkept
        cases hkept
      | some entry =>
        rw [Pool.Kept, Pool.entry, entryOf_eq_of_lookup hlookup,
          hnone ⟨id, entry⟩ ((hmem ⟨id, entry⟩).mpr hlookup)] at hkept
        cases hkept
  · right
    refine ⟨({ pool with leases := leases' } : Pool ι).addOnline id ⟨offset, hashAddr hash peer⟩,
      offset, ?_, ?_, id₀, ?_⟩
    · rw [Pool.getReassigned, htake]
      simp only
      rw [if_pos hne]
    · have halike : pool.Alike { pool with leases := leases' } := ⟨rfl, rfl, rfl⟩
      exact acquires_of_kept h id₀ id ⟨offset, hashAddr hash peer⟩ hoffline halike rfl hentry rfl
    · have hkept : offset ∈ (entryOf pool.leases id₀).offline := by
        rw [hoffline]
        exact List.mem_cons_self
      exact hkept

lemma countP_eraseP_pos {α : Type*} {p : α → Bool} {l : List α} (h : l.any p = true) :
    (l.eraseP p).countP p + 1 = l.countP p := by
  induction l with
  | nil => cases h
  | cons a l ih =>
    cases hp : p a with
    | true => rw [List.eraseP_cons_of_pos hp, List.countP_cons_of_pos hp]
    | false =>
      rw [List.any_cons, hp, Bool.false_or] at h
      rw [List.eraseP_cons_of_neg (by simp [hp]), List.countP_cons_of_neg (by simp [hp]),
        List.countP_cons_of_neg (by simp [hp]), ih h]

lemma countP_eraseP_ne {α : Type*} {p q : α → Bool} {l : List α}
    (h : ∀ a, p a = true → q a = false) : (l.eraseP p).countP q = l.countP q := by
  induction l with
  | nil => rfl
  | cons a l ih =>
    cases hp : p a with
    | true => rw [List.eraseP_cons_of_pos hp, List.countP_cons_of_neg (by simp [h a hp])]
    | false =>
      rw [List.eraseP_cons_of_neg (by simp [hp]), List.countP_cons, List.countP_cons, ih]

/-- `release_address`, of a pool that is not empty. -/
lemma releaseAddress_cases {pool : Pool ι} (h : pool.Ok) (hsize : pool.size ≠ 0) (address : Host)
    (id : ι) :
    (pool.releaseAddress address id = (pool, false) ∧
      pool.uses id (pool.host2offset address) = 0) ∨
      ∃ pool', pool.releaseAddress address id = (pool', true) ∧
        pool.Releases pool' id (pool.host2offset address) := by
  set offset := pool.host2offset address with hoffset
  cases hlookup : pool.leases.lookup id with
  | none =>
    left
    refine ⟨by rw [Pool.releaseAddress, if_neg hsize, hlookup], ?_⟩
    rw [Pool.uses, Pool.entry, entryOf, hlookup]
    rfl
  | some entry =>
    have hentry : pool.entry id = entry := entryOf_eq_of_lookup hlookup
    have huses : ∀ offset', pool.uses id offset' = entry.online.countP (·.offset = offset') := by
      intro offset'
      rw [Pool.uses, hentry]
    cases hfound : entry.online.any (·.offset = offset) with
    | false =>
      left
      refine ⟨?_, ?_⟩
      · rw [Pool.releaseAddress, if_neg hsize, hlookup]
        simp only [← hoffset, hfound]
        rfl
      · rw [huses, List.countP_eq_zero]
        simpa using hfound
    | true =>
      right
      have hcount := countP_eraseP_pos hfound
      set online := entry.online.eraseP (·.offset = offset) with honline
      have hmore : online.any (·.offset = offset) = true ↔ pool.uses id offset ≠ 1 := by
        rw [huses, ← hcount, List.any_eq_true, ← List.countP_pos_iff]
        omega
      obtain ⟨offline, hoffline⟩ : ∃ offline, offline =
          if online.any (·.offset = offset) then entry.offline else entry.offline ++ [offset] :=
        ⟨_, rfl⟩
      refine ⟨pool.setEntry id ⟨online, offline⟩, ?_, ⟨rfl, rfl, rfl⟩, ?_, ?_, ?_, ?_, rfl⟩
      · rw [Pool.releaseAddress, if_neg hsize, hlookup]
        simp only [← hoffset, ← honline, hfound, hoffline]
        rfl
      · rw [huses]
        omega
      · intro id' offset'
        rw [Pool.uses, Pool.setEntry_entry]
        by_cases hid : id' = id
        · rw [if_pos hid, hid, huses]
          by_cases heq : offset' = offset
          · rw [if_pos ⟨rfl, heq⟩, heq]
            exact Nat.eq_sub_of_add_eq hcount
          · rw [if_neg fun h => heq h.2, Nat.sub_zero]
            refine countP_eraseP_ne fun lease hlease => ?_
            rw [decide_eq_true_eq] at hlease
            simp [hlease, Ne.symm heq]
        · rw [if_neg hid, if_neg fun h => hid h.1, Nat.sub_zero]
          rfl
      · intro id' offset'
        rw [Pool.Kept, Pool.setEntry_entry, Pool.Kept]
        by_cases hid : id' = id
        · rw [if_pos hid, hid, hentry]
          by_cases hone : pool.uses id offset = 1
          · rw [hoffline, if_neg fun h => hmore.mp h hone, List.mem_append, List.mem_singleton]
            simp [hone]
          · rw [hoffline, if_pos (hmore.mpr hone)]
            simp [hone]
        · rw [if_neg hid]
          simp [hid]
      · intro id'
        rw [Pool.setEntry_entry, hoffline]
        split_ifs with hid hany
        · exact hentry ▸ h.nodup id
        · rw [List.nodup_append]
          refine ⟨hentry ▸ h.nodup id, List.nodup_singleton _, ?_⟩
          rintro offset' hmem _ hnew rfl
          rw [List.mem_singleton] at hnew
          have hunused := h.kept_unused (show pool.Kept id offset' by rwa [Pool.Kept, hentry]) id
          rw [hnew, huses] at hunused
          omega
        · exact h.nodup id'

end SecuredApp
