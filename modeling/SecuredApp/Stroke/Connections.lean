import SecuredApp.Stroke.Config

/-!
# What is started by its name

After any messages the peer configurations group the connections that are there by their settings,
and a name stands for the first connection of that name, unless a peer configuration has outlived
the connection it was named after.
-/

namespace SecuredApp

open SecuredApp.Core

variable {χ κ δ : Type*} {ops : SettingsMethods χ κ}

/-! ### Equal settings -/

structure SettingsMethods.Lawful (ops : SettingsMethods χ κ) : Prop where
  ip : Equivalence fun a b => ops.ipEquals a b = true
  rest : Equivalence fun a b => ops.restEquals a b = true

lemma firstAgrees_equivalence {α : Type*} {eq : α → α → Bool}
    (heq : Equivalence fun a b => eq a b = true) :
    Equivalence fun l l' : List α => l.length = l'.length ∧ firstAgrees eq l l' = true where
  refl l := by
    cases l with
    | nil => exact ⟨rfl, rfl⟩
    | cons a l => exact ⟨rfl, heq.refl a⟩
  symm {l l'} h := by
    cases l with
    | nil => exact ⟨h.1.symm, by cases l' <;> rfl⟩
    | cons a l =>
      cases l' with
      | nil => cases h.1
      | cons b l' => exact ⟨h.1.symm, heq.symm h.2⟩
  trans {l l' l''} h h' := by
    cases l with
    | nil => exact ⟨h.1.trans h'.1, by cases l'' <;> rfl⟩
    | cons a l =>
      cases l' with
      | nil => cases h.1
      | cons b l' =>
        cases l'' with
        | nil => cases h'.1
        | cons c l'' => exact ⟨h.1.trans h'.1, heq.trans h.2 h'.2⟩

lemma PeerSettings.equals_iff {a b : PeerSettings χ κ} :
    a.equals ops b = true ↔
      (a.vips.length = b.vips.length ∧ firstAgrees ops.ipEquals a.vips b.vips = true) ∧
      (a.pools.length = b.pools.length ∧
        firstAgrees (fun p q => decide (p = q)) a.pools b.pools = true) ∧
      ops.restEquals a.rest b.rest = true := by
  simp only [PeerSettings.equals, Bool.and_eq_true, decide_eq_true_eq]
  tauto

lemma PeerSettings.equals_equivalence (hops : ops.Lawful) :
    Equivalence fun a b : PeerSettings χ κ => a.equals ops b = true := by
  have hvips := firstAgrees_equivalence hops.ip
  have hpools : Equivalence fun l l' : List CStr => l.length = l'.length ∧
      firstAgrees (fun p q => decide (p = q)) l l' = true := by
    refine firstAgrees_equivalence ⟨?_, ?_, ?_⟩
    · simp
    · simp only [decide_eq_true_eq]
      exact Eq.symm
    · simp only [decide_eq_true_eq]
      exact Eq.trans
  simp only [PeerSettings.equals_iff]
  refine ⟨fun a => ⟨hvips.refl _, hpools.refl _, hops.rest.refl _⟩, fun h => ?_, fun h h' => ?_⟩
  · exact ⟨hvips.symm h.1, hpools.symm h.2.1, hops.rest.symm h.2.2⟩
  · exact ⟨hvips.trans h.1 h'.1, hpools.trans h.2.1 h'.2.1, hops.rest.trans h.2.2 h'.2.2⟩

/-! ### The connections by their settings -/

/-- The connections that are there: those that were added and not deleted since. -/
def liveStep (live : List (AddConn χ κ δ)) : ConnOp χ κ δ → List (AddConn χ κ δ)
  | .add conn => live ++ [conn]
  | .del name => live.filter (·.name ≠ name)

def liveConns (msgs : List (ConnOp χ κ δ)) : List (AddConn χ κ δ) := msgs.foldl liveStep []

@[simp] lemma liveConns_concat (msgs : List (ConnOp χ κ δ)) (msg : ConnOp χ κ δ) :
    liveConns (msgs ++ [msg]) = liveStep (liveConns msgs) msg := by
  rw [liveConns, List.foldl_append]
  rfl

/-- The peer configurations group the connections by their settings. -/
structure Grouped (ops : SettingsMethods χ κ) (live : List (AddConn χ κ δ))
    (peers : List (PeerConn χ κ δ)) : Prop where
  distinct : (peers.map (·.settings)).Pairwise fun a b => ¬ a.equals ops b = true
  nonempty : ∀ peer ∈ peers, peer.children ≠ []
  children : ∀ peer ∈ peers, peer.children
    = (live.filter fun conn => peer.settings.equals ops conn.settings).map (·.child)
  housed : ∀ conn ∈ live, ∃ peer ∈ peers, peer.settings.equals ops conn.settings = true

lemma grouped_nil : Grouped ops ([] : List (AddConn χ κ δ)) [] := by
  constructor <;> simp

lemma addConn_of_split {conn : AddConn χ κ δ} {before after : List (PeerConn χ κ δ)}
    {peer : PeerConn χ κ δ} (hpeer : peer.settings.equals ops conn.settings = true)
    (hbefore : ∀ p ∈ before, ¬ p.settings.equals ops conn.settings = true) :
    addConn ops conn (before ++ peer :: after)
      = before ++ { peer with children := peer.children ++ [conn.child] } :: after := by
  induction before with
  | nil => rw [List.nil_append, addConn, if_pos hpeer, List.nil_append]
  | cons p before ih =>
    obtain ⟨hp, hbefore⟩ := List.forall_mem_cons.mp hbefore
    rw [List.cons_append, addConn, if_neg hp, ih hbefore, List.cons_append]

lemma addConn_of_none {conn : AddConn χ κ δ} {peers : List (PeerConn χ κ δ)}
    (hpeers : ∀ p ∈ peers, ¬ p.settings.equals ops conn.settings = true) :
    addConn ops conn peers = peers ++ [⟨conn.name, conn.settings, [conn.child]⟩] := by
  induction peers with
  | nil => rfl
  | cons p peers ih =>
    obtain ⟨hp, hpeers⟩ := List.forall_mem_cons.mp hpeers
    rw [addConn, if_neg hp, ih hpeers, List.cons_append]

/-- The connection goes to the peer configuration that equals its own, or gets one. -/
lemma addConn_cases (ops : SettingsMethods χ κ) (conn : AddConn χ κ δ)
    (peers : List (PeerConn χ κ δ)) :
    (∃ before peer after, peers = before ++ peer :: after ∧
      peer.settings.equals ops conn.settings = true ∧
      addConn ops conn peers
        = before ++ { peer with children := peer.children ++ [conn.child] } :: after) ∨
    (∀ p ∈ peers, ¬ p.settings.equals ops conn.settings = true) ∧
      addConn ops conn peers = peers ++ [⟨conn.name, conn.settings, [conn.child]⟩] := by
  by_cases h : ∀ p ∈ peers, ¬ p.settings.equals ops conn.settings = true
  · exact Or.inr ⟨h, addConn_of_none h⟩
  · left
    have hsome : (peers.find? fun p => p.settings.equals ops conn.settings).isSome := by
      rw [List.find?_isSome]
      simpa using h
    obtain ⟨peer, hfind⟩ := Option.isSome_iff_exists.mp hsome
    obtain ⟨hpeer, before, after, rfl, hbefore⟩ := List.find?_eq_some_iff_append.mp hfind
    refine ⟨before, peer, after, rfl, hpeer, addConn_of_split hpeer fun p hp => ?_⟩
    simpa using hbefore p hp

lemma Grouped.add (hops : ops.Lawful) {live : List (AddConn χ κ δ)} {peers : List (PeerConn χ κ δ)}
    (h : Grouped ops live peers) (conn : AddConn χ κ δ) :
    Grouped ops (live ++ [conn]) (addConn ops conn peers) := by
  have hequiv := PeerSettings.equals_equivalence hops
  have hother : ∀ p ∈ peers, ¬ p.settings.equals ops conn.settings = true →
      p.children = ((live ++ [conn]).filter fun c => p.settings.equals ops c.settings).map
        (·.child) := by
    intro p hp hne
    have hnil : [conn].filter (fun c => p.settings.equals ops c.settings) = [] := by simp [hne]
    rw [List.filter_append, hnil, List.append_nil]
    exact h.children p hp
  rcases addConn_cases ops conn peers with ⟨before, peer, after, rfl, hpeer, hadd⟩ | ⟨hnone, hadd⟩
  · rw [hadd]
    have hne : ∀ p ∈ before ++ after, ¬ p.settings.equals ops conn.settings = true := by
      intro p hp heq
      have hdistinct := h.distinct
      rw [List.map_append, List.map_cons, List.pairwise_append, List.pairwise_cons] at hdistinct
      rcases List.mem_append.mp hp with hp | hp
      · exact hdistinct.2.2 _ (List.mem_map_of_mem hp) _ List.mem_cons_self
          (hequiv.trans heq (hequiv.symm hpeer))
      · exact hdistinct.2.1.1 _ (List.mem_map_of_mem hp) (hequiv.trans hpeer (hequiv.symm heq))
    refine ⟨by simpa using h.distinct, ?_, ?_, ?_⟩
    · intro p hp
      rw [List.mem_append, List.mem_cons] at hp
      rcases hp with hp | rfl | hp
      · exact h.nonempty p (by simp [hp])
      · simp
      · exact h.nonempty p (by simp [hp])
    · intro p hp
      rw [List.mem_append, List.mem_cons] at hp
      rcases hp with hp | rfl | hp
      · exact hother p (by simp [hp]) (hne p (by simp [hp]))
      · simp only
        rw [List.filter_append, List.map_append, ← h.children peer (by simp)]
        simp [hpeer]
      · exact hother p (by simp [hp]) (hne p (by simp [hp]))
    · intro c hc
      rcases List.mem_append.mp hc with hc | hc
      · obtain ⟨p, hp, heq⟩ := h.housed c hc
        rw [List.mem_append, List.mem_cons] at hp
        rcases hp with hp | rfl | hp
        · exact ⟨p, by simp [hp], heq⟩
        · exact ⟨_, List.mem_append_right _ List.mem_cons_self, heq⟩
        · exact ⟨p, by simp [hp], heq⟩
      · rw [List.mem_singleton.mp hc]
        exact ⟨_, List.mem_append_right _ List.mem_cons_self, hpeer⟩
  · rw [hadd]
    refine ⟨?_, ?_, ?_, ?_⟩
    · rw [List.map_append, List.pairwise_append]
      refine ⟨h.distinct, by simp, fun a ha b hb => ?_⟩
      obtain ⟨p, hp, rfl⟩ := List.mem_map.mp ha
      rw [List.map_singleton, List.mem_singleton] at hb
      exact hb ▸ hnone p hp
    · intro p hp
      rcases List.mem_append.mp hp with hp | hp
      · exact h.nonempty p hp
      · simp [List.mem_singleton.mp hp]
    · intro p hp
      rcases List.mem_append.mp hp with hp | hp
      · exact hother p hp (hnone p hp)
      · rw [List.mem_singleton.mp hp]
        have hnil : (live.filter fun c => conn.settings.equals ops c.settings) = [] := by
          refine List.filter_eq_nil_iff.mpr fun c hc heq => ?_
          obtain ⟨q, hq, hqc⟩ := h.housed c hc
          exact hnone q hq (hequiv.trans hqc (hequiv.symm heq))
        have hself : [conn].filter (fun c => conn.settings.equals ops c.settings) = [conn] := by
          simp [hequiv.refl conn.settings]
        rw [List.filter_append, hnil, List.nil_append, hself]
        rfl
    · intro c hc
      rcases List.mem_append.mp hc with hc | hc
      · obtain ⟨p, hp, heq⟩ := h.housed c hc
        exact ⟨p, List.mem_append_left _ hp, heq⟩
      · rw [List.mem_singleton.mp hc]
        exact ⟨_, List.mem_append_right _ (List.mem_singleton_self _), hequiv.refl _⟩

lemma without_eq_some_iff {peer left : PeerConn χ κ δ} {name : CStr} :
    peer.without name = some left ↔ peer.children.filter (·.name ≠ name) ≠ [] ∧
      left = { peer with children := peer.children.filter (·.name ≠ name) } := by
  simp only [PeerConn.without, List.isEmpty_iff]
  split_ifs with hempty
  · exact ⟨fun h => (by cases h), fun h => absurd hempty h.1⟩
  · rw [Option.some.injEq]
    exact ⟨fun h => ⟨hempty, h.symm⟩, fun h => h.2.symm⟩

lemma mem_delConn {peers : List (PeerConn χ κ δ)} {left : PeerConn χ κ δ} {name : CStr} :
    left ∈ delConn name peers ↔ ∃ peer ∈ peers, peer.children.filter (·.name ≠ name) ≠ [] ∧
      left = { peer with children := peer.children.filter (·.name ≠ name) } := by
  simp only [delConn, List.mem_filterMap, without_eq_some_iff]

lemma settings_delConn_sublist (name : CStr) (peers : List (PeerConn χ κ δ)) :
    ((delConn name peers).map (·.settings)).Sublist (peers.map (·.settings)) := by
  induction peers with
  | nil => exact List.Sublist.refl _
  | cons peer peers ih =>
    rw [delConn, List.filterMap_cons]
    cases hleft : peer.without name with
    | none => exact ih.cons _
    | some left =>
      obtain ⟨-, rfl⟩ := without_eq_some_iff.mp hleft
      exact ih.cons_cons _

lemma Grouped.del {live : List (AddConn χ κ δ)} {peers : List (PeerConn χ κ δ)}
    (h : Grouped ops live peers) (name : CStr) :
    Grouped ops (live.filter (·.name ≠ name)) (delConn name peers) := by
  have hchildren : ∀ p ∈ peers, p.children.filter (·.name ≠ name) =
      ((live.filter (·.name ≠ name)).filter fun conn => p.settings.equals ops conn.settings).map
        (·.child) := by
    intro p hp
    rw [h.children p hp, List.filter_map, List.filter_filter, List.filter_filter]
    refine congrArg _ (List.filter_congr fun conn _ => ?_)
    rw [Bool.and_comm]
    rfl
  refine ⟨h.distinct.sublist (settings_delConn_sublist name peers), ?_, ?_, ?_⟩
  · intro left hleft
    obtain ⟨p, -, hne, rfl⟩ := mem_delConn.mp hleft
    exact hne
  · intro left hleft
    obtain ⟨p, hp, -, rfl⟩ := mem_delConn.mp hleft
    exact hchildren p hp
  · intro conn hconn
    obtain ⟨hlive, hname⟩ := List.mem_filter.mp hconn
    obtain ⟨p, hp, heq⟩ := h.housed conn hlive
    refine ⟨_, mem_delConn.mpr ⟨p, hp, ?_, rfl⟩, heq⟩
    rw [hchildren p hp]
    refine List.ne_nil_of_mem (a := conn.child) (List.mem_map_of_mem ?_)
    exact List.mem_filter.mpr ⟨hconn, heq⟩

/-- A list is what classes that cover it without overlap have of it. -/
lemma perm_flatMap_filter {α σ : Type*} {r : σ → α → Bool} {classes : List σ} {l : List α}
    (hdisjoint : classes.Pairwise fun s t => ∀ a ∈ l, r s a = true → ¬ r t a = true)
    (hcover : ∀ a ∈ l, ∃ s ∈ classes, r s a = true) :
    (classes.flatMap fun s => l.filter (r s)).Perm l := by
  induction classes generalizing l with
  | nil =>
    cases l with
    | nil => exact List.Perm.refl _
    | cons a l =>
      obtain ⟨s, hs, -⟩ := hcover a List.mem_cons_self
      cases hs
  | cons s classes ih =>
    obtain ⟨hs, hclasses⟩ := List.pairwise_cons.mp hdisjoint
    have hrest : ∀ t ∈ classes, l.filter (r t) = (l.filter fun a => !r s a).filter (r t) := by
      intro t ht
      rw [List.filter_filter]
      refine List.filter_congr fun a ha => ?_
      cases hta : r t a with
      | false => rfl
      | true =>
        cases hsa : r s a with
        | false => rfl
        | true => exact absurd hta (hs t ht a ha hsa)
    have hperm : (classes.flatMap fun t => (l.filter fun a => !r s a).filter (r t)).Perm
        (l.filter fun a => !r s a) := by
      refine ih (hclasses.imp fun h a ha => h a (List.mem_filter.mp ha).1) fun a ha => ?_
      obtain ⟨ha, hsa⟩ := List.mem_filter.mp ha
      obtain ⟨t, ht, hta⟩ := hcover a ha
      rcases List.mem_cons.mp ht with rfl | ht
      · simp [hta] at hsa
      · exact ⟨t, ht, hta⟩
    rw [List.flatMap_cons, List.flatMap_congr hrest]
    exact (hperm.append_left _).trans (List.filter_append_perm (r s) l)

lemma run_grouped (hops : ops.Lawful) {msgs : List (ConnOp χ κ δ)} {peers : List (PeerConn χ κ δ)}
    (hrun : run (connStep ops) [] msgs = some peers) : Grouped ops (liveConns msgs) peers := by
  refine run_induction (P := fun msgs peers => Grouped ops (liveConns msgs) peers) grouped_nil ?_
    hrun
  intro msgs peers₁ msg peers₂ _ hgrouped hstep
  rw [liveConns_concat]
  cases msg with
  | add conn =>
    rw [connStep, Option.some.injEq] at hstep
    exact hstep ▸ hgrouped.add hops conn
  | del name =>
    rw [connStep, Option.some.injEq] at hstep
    exact hstep ▸ hgrouped.del name

/-- After any messages, the peer configurations have different settings, each has the connections
with its settings that were added and not deleted since, in this order, and at least one of them;
and no connection is lost. -/
theorem conns_grouped (hops : ops.Lawful) {msgs : List (ConnOp χ κ δ)}
    {peers : List (PeerConn χ κ δ)} (hrun : run (connStep ops) [] msgs = some peers) :
    (peers.map (·.settings)).Pairwise (fun a b => ¬ a.equals ops b = true) ∧
      (∀ peer ∈ peers, peer.children ≠ [] ∧ peer.children
        = ((liveConns msgs).filter fun conn => peer.settings.equals ops conn.settings).map
            (·.child)) ∧
      (peers.flatMap (·.children)).Perm ((liveConns msgs).map (·.child)) := by
  have h := run_grouped hops hrun
  have hequiv := PeerSettings.equals_equivalence hops
  refine ⟨h.distinct, fun peer hpeer => ⟨h.nonempty peer hpeer, h.children peer hpeer⟩, ?_⟩
  have hdisjoint : peers.Pairwise fun p q => ∀ conn ∈ liveConns msgs,
      p.settings.equals ops conn.settings = true → ¬ q.settings.equals ops conn.settings = true :=
    (List.pairwise_map.mp h.distinct).imp fun hne conn _ hp hq =>
      hne (hequiv.trans hp (hequiv.symm hq))
  have hperm := (perm_flatMap_filter hdisjoint h.housed).map (·.child)
  rw [List.map_flatMap] at hperm
  rwa [List.flatMap_congr fun peer hpeer => h.children peer hpeer]

/-- Hosts and other settings as numbers. -/
def numbers : SettingsMethods ℕ ℕ where
  ipEquals a b := a = b
  restEquals a b := a = b

lemma numbers_lawful : numbers.Lawful := by
  constructor
  · simpa [numbers] using eq_equivalence
  · simpa [numbers] using eq_equivalence

/-- Two connections with a gateway, and one with another. -/
def office : List (ConnOp ℕ ℕ Unit) :=
  [.add ⟨['a'], ⟨[0], [], 1⟩, ()⟩, .add ⟨['b'], ⟨[0], [], 1⟩, ()⟩, .add ⟨['c'], ⟨[0], [], 2⟩, ()⟩]

/-- The first two connections have a peer configuration in common. -/
theorem conns_grouped_office :
    ∃ peers, run (connStep numbers) [] office = some peers ∧
      (peers.map (·.settings)).Pairwise (fun a b => ¬ a.equals numbers b = true) ∧
      peers.map (·.name) = [['a'], ['c']] := by
  obtain ⟨peers, hrun, hpeers⟩ : ∃ peers, run (connStep numbers) [] office = some peers ∧
      peers.map (·.name) = [['a'], ['c']] := ⟨_, rfl, rfl⟩
  exact ⟨peers, hrun, (conns_grouped numbers_lawful hrun).1, hpeers⟩

/-! ### The names -/

/-- Every peer configuration has a child of its name. -/
def Named (peers : List (PeerConn χ κ δ)) : Prop :=
  ∀ peer ∈ peers, ∃ child ∈ peer.children, child.name = peer.name

/-- The message leaves no peer configuration with the name of what it deletes. -/
def LeavesNoName (peers : List (PeerConn χ κ δ)) : ConnOp χ κ δ → Prop
  | .add _ => True
  | .del name => ∀ peer ∈ delConn name peers, peer.name ≠ name

instance (peers : List (PeerConn χ κ δ)) : DecidablePred (LeavesNoName peers)
  | .add _ => isTrue trivial
  | .del name => inferInstanceAs (Decidable (∀ peer ∈ delConn name peers, peer.name ≠ name))

lemma Named.step {peers peers' : List (PeerConn χ κ δ)} {msg : ConnOp χ κ δ} (h : Named peers)
    (hmsg : LeavesNoName peers msg) (hstep : connStep ops peers msg = some peers') :
    Named peers' := by
  cases msg with
  | add conn =>
    rw [connStep, Option.some.injEq] at hstep
    subst hstep
    rcases addConn_cases ops conn peers with ⟨before, peer, after, rfl, -, hadd⟩ | ⟨-, hadd⟩
    · rw [hadd]
      intro p hp
      rw [List.mem_append, List.mem_cons] at hp
      rcases hp with hp | rfl | hp
      · exact h p (by simp [hp])
      · obtain ⟨child, hchild, hname⟩ := h peer (by simp)
        exact ⟨child, List.mem_append_left _ hchild, hname⟩
      · exact h p (by simp [hp])
    · rw [hadd]
      intro p hp
      rcases List.mem_append.mp hp with hp | hp
      · exact h p hp
      · rw [List.mem_singleton.mp hp]
        exact ⟨_, List.mem_singleton_self _, rfl⟩
  | del name =>
    rw [connStep, Option.some.injEq] at hstep
    subst hstep
    intro left hleft
    have hname := hmsg left hleft
    obtain ⟨p, hp, -, rfl⟩ := mem_delConn.mp hleft
    obtain ⟨child, hchild, heq⟩ := h p hp
    exact ⟨child, List.mem_filter.mpr ⟨hchild, by simpa [heq] using hname⟩, heq⟩

/-- What a name stands for where every peer configuration has a child of its name. -/
lemma Named.configsNamed {live : List (AddConn χ κ δ)} {peers : List (PeerConn χ κ δ)}
    (hnamed : Named peers) (h : Grouped ops live peers) (name : CStr) :
    configsNamed peers name = .error .noConfig ∧ (∀ conn ∈ live, conn.name ≠ name) ∨
      ∃ conn ∈ live, conn.name = name ∧ ∃ peer ∈ peers,
        peer.settings.equals ops conn.settings = true ∧
          configsNamed peers name = .ok [(peer, conn.child)] := by
  rw [SecuredApp.configsNamed]
  cases hpeer : getPeerCfgByName peers name with
  | none =>
    left
    have hnone : ∀ p ∈ peers, ∀ child ∈ p.children, child.name ≠ name := by
      intro p hp child hchild hname
      have hp' := List.find?_eq_none.mp hpeer p hp
      simp only [Bool.or_eq_true, decide_eq_true_eq, List.any_eq_true, not_or, not_exists,
        not_and] at hp'
      exact hp'.2 child hchild hname
    have hchildren : ∀ p ∈ peers, getChildFromPeer p name = none := by
      intro p hp
      rw [getChildFromPeer, List.find?_eq_none]
      simpa using hnone p hp
    have hsome : (peers.findSome? fun peer =>
        (getChildFromPeer peer name).map fun child => (peer, child)) = none := by
      rw [List.findSome?_eq_none_iff]
      intro p hp
      rw [hchildren p hp]
      rfl
    refine ⟨by simp only [configsFor, hsome], fun conn hconn hname => ?_⟩
    obtain ⟨p, hp, heq⟩ := h.housed conn hconn
    refine hnone p hp conn.child ?_ hname
    rw [h.children p hp]
    exact List.mem_map_of_mem (List.mem_filter.mpr ⟨hconn, heq⟩)
  | some peer =>
    right
    have hmem := List.mem_of_find?_eq_some hpeer
    have hfound := List.find?_some hpeer
    have hchild : ∃ child ∈ peer.children, child.name = name := by
      simp only [Bool.or_eq_true, decide_eq_true_eq, List.any_eq_true] at hfound
      rcases hfound with hname | hchild
      · exact hname ▸ hnamed peer hmem
      · exact hchild
    have hsome : (getChildFromPeer peer name).isSome := by
      rw [getChildFromPeer, List.find?_isSome]
      simpa using hchild
    obtain ⟨child, hget⟩ := Option.isSome_iff_exists.mp hsome
    have hname : child.name = name := by simpa using List.find?_some hget
    have hin := List.mem_of_find?_eq_some hget
    rw [h.children peer hmem] at hin
    obtain ⟨conn, hconn, rfl⟩ := List.mem_map.mp hin
    obtain ⟨hlive, heq⟩ := List.mem_filter.mp hconn
    exact ⟨conn, hlive, hname, peer, hmem, heq, by simp only [configsFor, hget]⟩

lemma named_nil : Named ([] : List (PeerConn χ κ δ)) :=
  fun _ hpeer => absurd hpeer List.not_mem_nil

lemma run_named {msgs : List (ConnOp χ κ δ)} {peers : List (PeerConn χ κ δ)}
    (hnames : RunMeets (connStep ops) (fun _ peers msg => LeavesNoName peers msg) [] msgs)
    (hrun : run (connStep ops) [] msgs = some peers) : Named peers := by
  refine hnames.invariant named_nil ?_ hrun
  intro _ peers₁ msg peers₂ hnamed hmsg hstep
  exact Named.step hnamed hmsg hstep

/-- Where no deleted connection leaves its name to a peer configuration with other connections, a
name stands for one connection of that name, with the peer configuration it was added to; and if
there is none, nothing is started. -/
theorem conns_by_name (hops : ops.Lawful) {msgs : List (ConnOp χ κ δ)}
    {peers : List (PeerConn χ κ δ)} (hrun : run (connStep ops) [] msgs = some peers)
    (hnames : RunMeets (connStep ops) (fun _ peers msg => LeavesNoName peers msg) [] msgs)
    (name : CStr) :
    configsNamed peers name = .error .noConfig ∧ (∀ conn ∈ liveConns msgs, conn.name ≠ name) ∨
      ∃ conn ∈ liveConns msgs, conn.name = name ∧ ∃ peer ∈ peers,
        peer.settings.equals ops conn.settings = true ∧
          configsNamed peers name = .ok [(peer, conn.child)] :=
  (run_named hnames hrun).configsNamed (run_grouped hops hrun) name

/-- The second connection is found after the third one was deleted. -/
theorem conns_by_name_office :
    ∃ peers, run (connStep numbers) [] (office ++ [.del ['c']]) = some peers ∧
      ∃ conn ∈ liveConns (office ++ [.del ['c']]), conn.name = ['b'] ∧
        ∃ peer ∈ peers, configsNamed peers ['b'] = .ok [(peer, conn.child)] := by
  have hnames : RunMeets (connStep numbers) (fun _ peers msg => LeavesNoName peers msg) []
      (office ++ [.del ['c']]) := by
    have hmeets : meetsAll (connStep numbers) (fun peers msg => decide (LeavesNoName peers msg)) []
        (office ++ [.del ['c']]) = true := by
      decide
    exact (runMeets_of_meetsAll hmeets).mono fun _ _ _ => of_decide_eq_true
  refine ⟨_, rfl, ?_⟩
  rcases conns_by_name numbers_lawful rfl hnames ['b'] with ⟨-, hnone⟩ | hfound
  · exact absurd rfl (hnone ⟨['b'], ⟨[0], [], 1⟩, ()⟩ (by simp [liveConns, liveStep, office]))
  · obtain ⟨conn, hconn, hname, peer, hpeer, -, hconfigs⟩ := hfound
    exact ⟨conn, hconn, hname, peer, hpeer, hconfigs⟩

/-- The name of a deleted connection that was the first of its peer configuration still starts
the other ones, although there is a new connection of that name. -/
example : (run (connStep numbers) [] (office ++ [.del ['a'], .add ⟨['a'], ⟨[0], [], 3⟩, ()⟩])).map
    (fun peers => (configsNamed peers ['a']).toOption.map (·.map (·.2.name)))
      = some (some [['b']]) := by
  decide

end SecuredApp
