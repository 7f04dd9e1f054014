import Mathlib.Data.Set.Lattice
import SecuredApp.Config.Selectors

/-!
# Narrowing traffic selectors

What the selectors of the two sides of a CHILD_SA cover: the responder narrows what the initiator
proposes to its own configuration, and the initiator does so with the answer.
-/

namespace SecuredApp

open SecuredApp.Core

variable {τ η π : Type*} {ops : SelectorMethods τ η} {traffic : τ → Set π}

/-- What the methods of a traffic selector say about the traffic it selects. -/
structure SelectorMethods.Lawful (ops : SelectorMethods τ η) (traffic : τ → Set π) : Prop where
  subset_some : ∀ a b c, ops.getSubset a b = some c → traffic c = traffic a ∩ traffic b
  subset_nonempty : ∀ a b c, ops.getSubset a b = some c → (traffic c).Nonempty
  subset_none : ∀ a b, ops.getSubset a b = none → traffic a ∩ traffic b = ∅
  contained : ∀ a b, ops.isContainedIn a b = true → traffic a ⊆ traffic b
  equals : ∀ a b, ops.equals a b = true → (ops.getSubset a b).isSome

/-- The traffic that is selected by one of the selectors. -/
def covered (traffic : τ → Set π) (l : List τ) : Set π := {x | ∃ ts ∈ l, x ∈ traffic ts}

@[simp] lemma covered_append (l l' : List τ) :
    covered traffic (l ++ l') = covered traffic l ∪ covered traffic l' := by
  ext x
  simp only [covered, List.mem_append, Set.mem_ofPred_eq, Set.mem_union]
  constructor
  · rintro ⟨ts, hts | hts, hx⟩
    · exact Or.inl ⟨ts, hts, hx⟩
    · exact Or.inr ⟨ts, hts, hx⟩
  · rintro (⟨ts, hts, hx⟩ | ⟨ts, hts, hx⟩)
    · exact ⟨ts, Or.inl hts, hx⟩
    · exact ⟨ts, Or.inr hts, hx⟩

@[simp] lemma covered_nil : covered traffic ([] : List τ) = ∅ := by
  ext x
  simp [covered]

@[simp] lemma covered_cons (ts : τ) (l : List τ) :
    covered traffic (ts :: l) = traffic ts ∪ covered traffic l := by
  ext x
  simp [covered]

lemma traffic_subset_covered {ts : τ} {l : List τ} (h : ts ∈ l) :
    traffic ts ⊆ covered traffic l := by
  intro x hx
  exact ⟨ts, h, hx⟩

/-- The selectors that match a derived and a supplied one cover what both sides cover. -/
lemma covered_matchSupplied (hops : ops.Lawful traffic) (supplied configured : List τ) :
    covered traffic (matchSupplied ops supplied configured)
      = covered traffic configured ∩ covered traffic supplied := by
  ext x
  simp only [covered, matchSupplied, List.mem_flatMap, List.mem_filterMap, Set.mem_ofPred_eq,
    Set.mem_inter_iff]
  constructor
  · rintro ⟨c, ⟨a, ha, b, hb, hc⟩, hx⟩
    rw [hops.subset_some a b c hc] at hx
    exact ⟨⟨a, ha, hx.1⟩, b, hb, hx.2⟩
  · rintro ⟨⟨a, ha, hxa⟩, b, hb, hxb⟩
    cases hc : ops.getSubset a b with
    | none =>
      have hempty := hops.subset_none a b hc
      exact absurd (show x ∈ traffic a ∩ traffic b from ⟨hxa, hxb⟩) (by simp [hempty])
    | some c =>
      refine ⟨c, ⟨a, ha, b, hb, hc⟩, ?_⟩
      rw [hops.subset_some a b c hc]
      exact ⟨hxa, hxb⟩

/-! ### The removal of redundant selectors -/

/-- None of the two is contained in the other. -/
def Incomparable (ops : SelectorMethods τ η) (a b : τ) : Prop :=
  ops.isContainedIn a b = false ∧ ops.isContainedIn b a = false

lemma Incomparable.symm {a b : τ} (h : Incomparable ops a b) : Incomparable ops b a := ⟨h.2, h.1⟩

lemma findRedundancy_none {ts₁ : τ} {l : List τ} (h : findRedundancy ops ts₁ l = .none) :
    ∀ ts₂ ∈ l, Incomparable ops ts₁ ts₂ := by
  induction l with
  | nil => simp
  | cons ts₂ rest ih =>
    rw [findRedundancy] at h
    split_ifs at h with hin hout
    cases hrest : findRedundancy ops ts₁ rest with
    | none =>
      intro ts hts
      rcases List.mem_cons.mp hts with rfl | hts
      · exact ⟨by simpa using hout, by simpa using hin⟩
      · exact ih hrest ts hts
    | contains left =>
      rw [hrest] at h
      cases h
    | contained =>
      rw [hrest] at h
      cases h

lemma findRedundancy_contains {ts₁ : τ} {l left : List τ}
    (h : findRedundancy ops ts₁ l = .contains left) :
    ∃ before ts₂ after, l = before ++ ts₂ :: after ∧ left = before ++ after ∧
      ops.isContainedIn ts₂ ts₁ = true := by
  induction l generalizing left with
  | nil => cases h
  | cons ts₂ rest ih =>
    rw [findRedundancy] at h
    split_ifs at h with hin
    · cases h
      exact ⟨[], ts₂, rest, rfl, rfl, hin⟩
    · cases hrest : findRedundancy ops ts₁ rest with
      | contains left' =>
        rw [hrest] at h
        cases h
        obtain ⟨before, ts, after, rfl, rfl, hts⟩ := ih hrest
        exact ⟨ts₂ :: before, ts, after, rfl, rfl, hts⟩
      | none =>
        rw [hrest] at h
        cases h
      | contained =>
        rw [hrest] at h
        cases h

lemma findRedundancy_contained {ts₁ : τ} {l : List τ} (h : findRedundancy ops ts₁ l = .contained) :
    ∃ ts₂ ∈ l, ops.isContainedIn ts₁ ts₂ = true := by
  induction l with
  | nil => cases h
  | cons ts₂ rest ih =>
    rw [findRedundancy] at h
    split_ifs at h with hin hout
    · exact ⟨ts₂, List.mem_cons_self, hout⟩
    · cases hrest : findRedundancy ops ts₁ rest with
      | contained =>
        obtain ⟨ts, hts, hcontained⟩ := ih hrest
        exact ⟨ts, List.mem_cons_of_mem _ hts, hcontained⟩
      | none =>
        rw [hrest] at h
        cases h
      | contains left =>
        rw [hrest] at h
        cases h

/-- What is left is pairwise incomparable, if what the outer loop has passed is. -/
lemma pairwise_removeRedundant (before rest : List τ) (h : before.Pairwise (Incomparable ops)) :
    (removeRedundant ops before rest).Pairwise (Incomparable ops) := by
  induction before, rest using removeRedundant.induct ops with
  | case1 before =>
    rw [removeRedundant]
    exact h
  | case2 before ts₁ after left hbefore ih =>
    rw [removeRedundant, hbefore]
    exact ih List.Pairwise.nil
  | case3 before ts₁ after hbefore ih =>
    rw [removeRedundant, hbefore]
    exact ih h
  | case4 before ts₁ after hbefore left hafter ih =>
    rw [removeRedundant, hbefore, hafter]
    exact ih List.Pairwise.nil
  | case5 before ts₁ after hbefore hafter ih =>
    rw [removeRedundant, hbefore, hafter]
    exact ih h
  | case6 before ts₁ after hbefore hafter ih =>
    rw [removeRedundant, hbefore, hafter]
    refine ih (List.pairwise_append.mpr ⟨h, List.pairwise_singleton _ _, ?_⟩)
    intro a ha b hb
    rw [List.mem_singleton.mp hb]
    exact (findRedundancy_none hbefore a ha).symm

/-- A selector whose traffic others select may go. -/
lemma covered_drop {ts : τ} {l l' : List τ} (h : traffic ts ⊆ covered traffic (l ++ l')) :
    covered traffic (l ++ l') = covered traffic (l ++ ts :: l') := by
  rw [covered_append] at h
  rw [covered_append, covered_append, covered_cons, Set.union_left_comm]
  exact (Set.union_eq_self_of_subset_left h).symm

/-- Nothing that was covered is left out. -/
lemma covered_removeRedundant (hops : ops.Lawful traffic) (before rest : List τ) :
    covered traffic (removeRedundant ops before rest) = covered traffic (before ++ rest) := by
  induction before, rest using removeRedundant.induct ops with
  | case1 before =>
    rw [removeRedundant, List.append_nil]
  | case2 before ts₁ after left hbefore ih =>
    rw [removeRedundant, hbefore]
    obtain ⟨front, ts₂, back, rfl, rfl, hin⟩ := findRedundancy_contains hbefore
    simp only [List.nil_append, List.append_assoc, List.cons_append] at ih ⊢
    rw [ih]
    exact covered_drop ((hops.contained _ _ hin).trans (traffic_subset_covered (by simp)))
  | case3 before ts₁ after hbefore ih =>
    rw [removeRedundant, hbefore]
    obtain ⟨ts₂, hts₂, hout⟩ := findRedundancy_contained hbefore
    rw [ih]
    exact covered_drop ((hops.contained _ _ hout).trans (traffic_subset_covered (by simp [hts₂])))
  | case4 before ts₁ after hbefore left hafter ih =>
    rw [removeRedundant, hbefore, hafter]
    obtain ⟨front, ts₂, back, rfl, rfl, hin⟩ := findRedundancy_contains hafter
    simp only [List.nil_append] at ih ⊢
    rw [ih]
    have hassoc : ∀ l, before ++ ts₁ :: (front ++ l) = (before ++ ts₁ :: front) ++ l := by simp
    rw [hassoc, hassoc]
    exact covered_drop ((hops.contained _ _ hin).trans (traffic_subset_covered (by simp)))
  | case5 before ts₁ after hbefore hafter ih =>
    rw [removeRedundant, hbefore, hafter]
    obtain ⟨ts₂, hts₂, hout⟩ := findRedundancy_contained hafter
    rw [ih]
    exact covered_drop ((hops.contained _ _ hout).trans (traffic_subset_covered (by simp [hts₂])))
  | case6 before ts₁ after hbefore hafter ih =>
    rw [removeRedundant, hbefore, hafter]
    rw [ih, List.append_assoc, List.singleton_append]

/-- What is left stands in the order in which it was found. -/
lemma removeRedundant_sublist (before rest : List τ) :
    (removeRedundant ops before rest).Sublist (before ++ rest) := by
  induction before, rest using removeRedundant.induct ops with
  | case1 before =>
    rw [removeRedundant, List.append_nil]
  | case2 before ts₁ after left hbefore ih =>
    rw [removeRedundant, hbefore]
    obtain ⟨front, ts₂, back, rfl, rfl, -⟩ := findRedundancy_contains hbefore
    exact ih.trans (((List.sublist_cons_self ts₂ back).append_left front).append_right _)
  | case3 before ts₁ after hbefore ih =>
    rw [removeRedundant, hbefore]
    exact ih.trans ((List.sublist_cons_self ts₁ after).append_left before)
  | case4 before ts₁ after hbefore left hafter ih =>
    rw [removeRedundant, hbefore, hafter]
    obtain ⟨front, ts₂, back, rfl, rfl, -⟩ := findRedundancy_contains hafter
    refine ih.trans ?_
    exact (((List.sublist_cons_self ts₂ back).append_left front).cons_cons ts₁).append_left before
  | case5 before ts₁ after hbefore hafter ih =>
    rw [removeRedundant, hbefore, hafter]
    exact ih.trans ((List.sublist_cons_self ts₁ after).append_left before)
  | case6 before ts₁ after hbefore hafter ih =>
    rw [removeRedundant, hbefore, hafter]
    rwa [List.append_assoc, List.singleton_append] at ih

/-! ### The selectors of the two sides -/

/-- The selectors of a side select exactly the traffic that its own configuration and the peer's
selectors have in common, none of them is contained in another, and each is what some derived and
some supplied selector have in common. -/
theorem SelectorCfg.getTrafficSelectors_narrows (hops : ops.Lawful traffic) (cfg : SelectorCfg τ)
    (isLocal : Bool) (supplied : List τ) (hosts : List η) :
    let configured := derived ops hosts (cfg.side isLocal)
    let result := (cfg.getTrafficSelectors ops isLocal (some supplied) hosts).1
    covered traffic result = covered traffic configured ∩ covered traffic supplied ∧
      result.Pairwise (Incomparable ops) ∧
        ∀ ts ∈ result, ∃ ts₁ ∈ configured, ∃ ts₂ ∈ supplied, ops.getSubset ts₁ ts₂ = some ts := by
  refine ⟨?_, pairwise_removeRedundant _ _ List.Pairwise.nil, fun ts hts => ?_⟩
  · rw [SelectorCfg.getTrafficSelectors, covered_removeRedundant hops, List.nil_append]
    exact covered_matchSupplied hops supplied _
  · have hmem := (removeRedundant_sublist _ _).subset hts
    simp only [List.nil_append, matchSupplied, List.mem_flatMap, List.mem_filterMap] at hmem
    exact hmem

/-- Selectors of ranges of addresses, of which the range of zero alone is dynamic. -/
def addressRanges : SelectorMethods (ℕ × ℕ) ℕ where
  isDynamic ts := ts = (0, 0)
  setAddress _ host := (host, host)
  getSubset a b :=
    if max a.1 b.1 ≤ min a.2 b.2 then some (max a.1 b.1, min a.2 b.2) else none
  isContainedIn a b := b.1 ≤ a.1 && a.2 ≤ b.2
  equals a b := a = b && a.1 ≤ a.2

lemma addressRanges_lawful : addressRanges.Lawful fun ts => Set.Icc ts.1 ts.2 where
  subset_some a b c h := by
    simp only [addressRanges] at h
    split_ifs at h
    cases h
    exact Set.Icc_inter_Icc.symm
  subset_nonempty a b c h := by
    simp only [addressRanges] at h
    split_ifs at h with hle
    cases h
    exact Set.nonempty_Icc.mpr hle
  subset_none a b h := by
    simp only [addressRanges] at h
    split_ifs at h with hempty
    rw [Set.Icc_inter_Icc, Set.Icc_eq_empty_iff]
    exact hempty
  contained a b h := by
    simp only [addressRanges, Bool.and_eq_true, decide_eq_true_eq] at h
    exact Set.Icc_subset_Icc h.1 h.2
  equals a b h := by
    simp only [addressRanges, Bool.and_eq_true, decide_eq_true_eq] at h ⊢
    obtain ⟨rfl, hle⟩ := h
    simp [hle]

/-- A host in one of two networks. -/
theorem SelectorCfg.getTrafficSelectors_narrows_host :
    ((SelectorCfg.mk [(10, 19), (0, 0)] []).getTrafficSelectors addressRanges true
        (some [(15, 30), (16, 17)]) [18]).1 = [(15, 19)] ∧
      covered (fun ts => Set.Icc ts.1 ts.2) [(15, 19)] =
        covered (fun ts => Set.Icc ts.1 ts.2) [(10, 19), (18, 18)] ∩
          covered (fun ts : ℕ × ℕ => Set.Icc ts.1 ts.2) [(15, 30), (16, 17)] := by
  have hresult : ((SelectorCfg.mk [(10, 19), (0, 0)] []).getTrafficSelectors addressRanges true
      (some [(15, 30), (16, 17)]) [18]).1 = [(15, 19)] := by
    simp [SelectorCfg.getTrafficSelectors, derived, matchSupplied, removeRedundant, findRedundancy,
      addressRanges, SelectorCfg.side]
  have hcovered := (SelectorCfg.getTrafficSelectors_narrows addressRanges_lawful
    (SelectorCfg.mk [(10, 19), (0, 0)] []) true [(15, 30), (16, 17)] [18]).1
  rw [hresult] at hcovered
  exact ⟨hresult, hcovered⟩

/-- Proposed, narrowed by the responder and checked by the initiator, the selectors of one end of a
CHILD_SA select the same traffic on both sides, namely what both are configured for, as long as the
initiator checks them with the hosts it proposed, or its new ones cover what the responder chose. -/
theorem SelectorCfg.narrowing_agrees (hops : ops.Lawful traffic)
    (initiator responder : SelectorCfg τ)
    (hosts hosts' hostsR : List η) (isLocal : Bool) :
    let proposed := (initiator.getTrafficSelectors ops isLocal none hosts).1
    let narrowed := (responder.getTrafficSelectors ops (!isLocal) (some proposed) hostsR).1
    let checked := (initiator.getTrafficSelectors ops isLocal (some narrowed) hosts').1
    covered traffic narrowed = covered traffic (derived ops hostsR (responder.side !isLocal)) ∩
        covered traffic (derived ops hosts (initiator.side isLocal)) ∧
      (covered traffic checked = covered traffic narrowed ↔
        covered traffic narrowed ⊆ covered traffic (derived ops hosts' (initiator.side isLocal))) ∧
      (hosts' = hosts → covered traffic checked = covered traffic narrowed) := by
  intro proposed narrowed checked
  have hproposed : covered traffic proposed
      = covered traffic (derived ops hosts (initiator.side isLocal)) := by
    simp only [proposed, SelectorCfg.getTrafficSelectors]
    rw [covered_removeRedundant hops, List.nil_append]
  have hnarrowed : covered traffic narrowed =
      covered traffic (derived ops hostsR (responder.side !isLocal)) ∩
        covered traffic proposed := by
    simp only [narrowed, SelectorCfg.getTrafficSelectors]
    rw [covered_removeRedundant hops, List.nil_append]
    exact covered_matchSupplied hops _ _
  have hchecked : covered traffic checked =
      covered traffic (derived ops hosts' (initiator.side isLocal)) ∩ covered traffic narrowed := by
    simp only [checked, SelectorCfg.getTrafficSelectors]
    rw [covered_removeRedundant hops, List.nil_append]
    exact covered_matchSupplied hops _ _
  refine ⟨hnarrowed.trans (by rw [hproposed]), ?_, ?_⟩
  · rw [hchecked]
    exact Set.inter_eq_right
  · rintro rfl
    rw [hchecked, Set.inter_eq_right, hnarrowed, hproposed]
    exact Set.inter_subset_right

/-- A client that gets the address 7 of the network of the responder. -/
theorem SelectorCfg.narrowing_agrees_client :
    let narrowed := ((SelectorCfg.mk [] [(0, 0)]).getTrafficSelectors addressRanges false
      (some ((SelectorCfg.mk [(0, 99)] []).getTrafficSelectors addressRanges true none []).1) [7]).1
    covered (fun ts : ℕ × ℕ => Set.Icc ts.1 ts.2)
        ((SelectorCfg.mk [(0, 99)] []).getTrafficSelectors addressRanges true (some narrowed) []).1
      = covered (fun ts : ℕ × ℕ => Set.Icc ts.1 ts.2) narrowed :=
  (SelectorCfg.narrowing_agrees addressRanges_lawful (SelectorCfg.mk [(0, 99)] [])
    (SelectorCfg.mk [] [(0, 0)]) [] [] [7] true).2.2 rfl

/-! ### The child configuration that is selected -/

lemma exists_subset_iff (hops : ops.Lawful traffic) {a b : τ} :
    (ops.getSubset a b).isSome ↔ (traffic a ∩ traffic b).Nonempty := by
  cases hc : ops.getSubset a b with
  | none => simp [hops.subset_none a b hc]
  | some c => simp [← hops.subset_some a b c hc, hops.subset_nonempty a b c hc]

lemma roundMatch_pos_iff (hops : ops.Lawful traffic) {round : ℕ} (hround : 0 < round) {supTs : τ}
    {l : List τ} :
    0 < roundMatch ops round supTs l ↔ ∃ ts ∈ l, (traffic ts ∩ traffic supTs).Nonempty := by
  induction l with
  | nil => simp [roundMatch]
  | cons ts l ih =>
    rw [roundMatch, Nat.add_pos_iff_pos_or_pos, ih, List.exists_mem_cons_iff]
    refine or_congr_left ?_
    rw [← exists_subset_iff hops]
    split_ifs with hequals hsubset
    · exact ⟨fun _ => hops.equals ts supTs hequals, fun _ => Nat.mul_pos hround (by decide)⟩
    · exact ⟨fun _ => hsubset, fun _ => Nat.mul_pos hround (by decide)⟩
    · exact ⟨fun h => absurd h (lt_irrefl 0), fun h => absurd h hsubset⟩

lemma roundsMatch_pos_iff (hops : ops.Lawful traffic) {cfgList supList : List τ} :
    0 < roundsMatch ops cfgList supList ↔
      (covered traffic cfgList ∩ covered traffic supList).Nonempty := by
  induction supList with
  | nil => simp [roundsMatch]
  | cons supTs rest ih =>
    rw [roundsMatch, Nat.add_pos_iff_pos_or_pos, ih, roundMatch_pos_iff hops (Nat.succ_pos _),
      covered_cons, Set.inter_union_distrib_left, Set.union_nonempty]
    refine or_congr_left ⟨?_, ?_⟩
    · rintro ⟨ts, hts, x, hx, hsup⟩
      exact ⟨x, ⟨ts, hts, hx⟩, hsup⟩
    · rintro ⟨x, ⟨ts, hts, hx⟩, hsup⟩
      exact ⟨ts, hts, x, hx, hsup⟩

/-- A side of a child configuration matches exactly if narrowing leaves a selector of it. -/
lemma tsMatch_ne_zero_iff (hops : ops.Lawful traffic) (cfg : SelectorCfg τ) (isLocal : Bool)
    (supList : List τ) (hosts : List η) :
    tsMatch ops cfg isLocal supList hosts ≠ 0 ↔
      (cfg.getTrafficSelectors ops isLocal (some supList) hosts).1 ≠ [] := by
  have hpos : 0 < tsMatch ops cfg isLocal supList hosts ↔
      (covered traffic (derived ops hosts (cfg.side isLocal)) ∩
        covered traffic supList).Nonempty := by
    rw [tsMatch, roundsMatch_pos_iff hops, SelectorCfg.getTrafficSelectors,
      covered_removeRedundant hops, List.nil_append]
  rw [← Nat.pos_iff_ne_zero, hpos, ← covered_matchSupplied hops]
  set result := matchSupplied ops supList (derived ops hosts (cfg.side isLocal)) with hresult
  have hcovered := covered_removeRedundant hops [] result
  rw [List.nil_append] at hcovered
  rw [← hcovered]
  simp only [SelectorCfg.getTrafficSelectors, ← hresult]
  constructor
  · rintro ⟨x, ts, hts, -⟩ hnil
    rw [hnil] at hts
    cases hts
  · intro hne
    obtain ⟨ts, hts⟩ := List.exists_mem_of_ne_nil _ hne
    have hsublist : (removeRedundant ops [] result).Sublist ([] ++ result) :=
      removeRedundant_sublist [] result
    have hmem := hsublist.subset hts
    simp only [List.nil_append, hresult, matchSupplied, List.mem_flatMap, List.mem_filterMap]
      at hmem
    obtain ⟨a, -, b, -, hc⟩ := hmem
    obtain ⟨x, hx⟩ := hops.subset_nonempty a b ts hc
    exact ⟨x, ts, hts, hx⟩

/-- The two ends of a proposal leave selectors of a child configuration. -/
def ChildEntry.Answers (ops : SelectorMethods τ η) (myTs otherTs : List τ)
    (myHosts otherHosts : List η) (child : ChildEntry τ) : Prop :=
  (child.selectors.getTrafficSelectors ops true (some myTs) myHosts).1 ≠ [] ∧
    (child.selectors.getTrafficSelectors ops false (some otherTs) otherHosts).1 ≠ []

lemma childPrio_pos_iff (hops : ops.Lawful traffic) {myTs otherTs : List τ}
    {myHosts otherHosts : List η} {child : ChildEntry τ} :
    0 < childPrio ops myTs otherTs myHosts otherHosts child ↔
      child.Answers ops myTs otherTs myHosts otherHosts := by
  rw [ChildEntry.Answers, ← tsMatch_ne_zero_iff hops, ← tsMatch_ne_zero_iff hops, childPrio]
  split_ifs with hboth
  · exact ⟨fun _ => hboth, fun h => Nat.add_pos_left (Nat.pos_of_ne_zero h.1) _⟩
  · exact ⟨fun h => absurd h (lt_irrefl 0), fun h => absurd h hboth⟩

/-- A child configuration is selected exactly if there is one of which narrowing leaves selectors
on both ends, and then it is the first one of these with the highest priority. -/
theorem selectChildCfg_answers (hops : ops.Lawful traffic) (children : List (ChildEntry τ))
    (myTs otherTs : List τ) (myHosts otherHosts : List η) :
    (selectChildCfg ops children myTs otherTs myHosts otherHosts = none ↔
        ∀ child ∈ children, ¬ child.Answers ops myTs otherTs myHosts otherHosts) ∧
      ∀ child, selectChildCfg ops children myTs otherTs myHosts otherHosts = some child →
        child.Answers ops myTs otherTs myHosts otherHosts ∧
          ∃ before after, children = before ++ child :: after ∧
            (∀ c ∈ before, childPrio ops myTs otherTs myHosts otherHosts c <
              childPrio ops myTs otherTs myHosts otherHosts child) ∧
            ∀ c ∈ after, childPrio ops myTs otherTs myHosts otherHosts c ≤
              childPrio ops myTs otherTs myHosts otherHosts child := by
  constructor
  · rw [selectChildCfg, firstBest_eq_none_iff]
    refine forall₂_congr fun child _ => ?_
    rw [← childPrio_pos_iff hops, Nat.le_zero, Nat.pos_iff_ne_zero, not_not]
  · intro child hchild
    obtain ⟨before, after, hsplit, hpos, hbefore, hafter⟩ := firstBest_eq_some_iff.mp hchild
    exact ⟨(childPrio_pos_iff hops).mp hpos, before, after, hsplit, hbefore, hafter⟩

/-- The exact match is preferred, and narrowing leaves the whole of it. -/
theorem selectChildCfg_answers_exact :
    ∃ child, selectChildCfg addressRanges
        [⟨['n', 'e', 't'], [(0, 99)], [(0, 9)]⟩, ⟨['h', 'o', 's', 't'], [(7, 7)], [(0, 9)]⟩]
        [(7, 7)] [(0, 9)] [] [] = some child ∧ child.name = ['h', 'o', 's', 't'] ∧
      child.Answers addressRanges [(7, 7)] [(0, 9)] [] [] := by
  have hchild : selectChildCfg addressRanges
      [⟨['n', 'e', 't'], [(0, 99)], [(0, 9)]⟩, ⟨['h', 'o', 's', 't'], [(7, 7)], [(0, 9)]⟩]
      [(7, 7)] [(0, 9)] [] [] = some ⟨['h', 'o', 's', 't'], [(7, 7)], [(0, 9)]⟩ := by
    simp [selectChildCfg, firstBest, childPrio, tsMatch, roundsMatch, roundMatch,
      SelectorCfg.getTrafficSelectors, derived, removeRedundant, findRedundancy, addressRanges,
      SelectorCfg.side]
  exact ⟨_, hchild, rfl, ((selectChildCfg_answers addressRanges_lawful _ _ _ _ _).2 _ hchild).1⟩

end SecuredApp
