import Mathlib.Data.List.Induction
import Mathlib.Data.List.Nodup
import Mathlib.Data.Nat.Basic
import Mathlib.Order.Lattice
import Mathlib.Tactic.Common

/-!
# Walking a list that changes

An enumerator of a linked list is at one of its elements, or before the first, and others may
append and remove elements while it is there. Where the elements carry increasing keys, what the
enumerator has still to come to is what has a key after its own.
-/

namespace SecuredApp.Core

/-- In a list with distinct keys, taking out the first element that is found is taking out those
with its key. -/
lemma eraseP_eq_filter_key {α κ : Type*} [DecidableEq κ] {key : α → κ} {p : α → Bool} {l : List α}
    {found : α} (hkey : (l.map key).Nodup) (hfound : l.find? p = some found) :
    l.eraseP p = l.filter fun a => key a ≠ key found := by
  obtain ⟨hp, pre, post, rfl, hpre⟩ := List.find?_eq_some_iff_append.mp hfound
  have hpre' : ∀ a ∈ pre, ¬ p a = true := by
    intro a ha
    simpa using hpre a ha
  rw [List.map_append, List.map_cons, List.nodup_middle, List.nodup_cons] at hkey
  have hne : ∀ a ∈ pre ++ post, decide (key a ≠ key found) = true := by
    intro a ha
    rw [decide_eq_true_iff]
    intro heq
    exact hkey.1 (by rw [← heq, ← List.map_append]; exact List.mem_map_of_mem ha)
  rw [List.eraseP_append_right _ hpre', List.eraseP_cons_of_pos hp, List.filter_append,
    List.filter_cons_of_neg (by simp), ← List.filter_append, List.filter_eq_self.mpr hne]

variable {α κ : Type*} [LinearOrder κ] (key : α → κ)

/-- The element an enumerator at the key `pos` comes to next. -/
def nextAt (pos : Option κ) (l : List α) : Option α :=
  match pos with
  | none => l.head?
  | some k => (l.dropWhile (key · ≠ k)).tail.head?

/-- Where an enumerator is that removes the element it is at. -/
def prevAt (k : κ) (l : List α) : Option κ :=
  (l.takeWhile (key · ≠ k)).getLast?.map key

/-- The keys increase along the list. -/
def Increasing (l : List α) : Prop :=
  l.Pairwise fun a b => key a < key b

variable {key}

/-- The key comes after the position. -/
def Ahead (pos : Option κ) (k : κ) : Prop := ∀ k' ∈ pos, k' < k

lemma ahead_none (k : κ) : Ahead none k := by
  intro k' h
  cases h

@[simp] lemma ahead_some {k k' : κ} : Ahead (some k) k' ↔ k < k' := by
  simp [Ahead]

/-- An element splits an increasing list into those with smaller and those with larger keys. -/
lemma Increasing.split {l : List α} (h : Increasing key l) {a : α} (ha : a ∈ l) :
    ∃ pre post, l = pre ++ a :: post ∧ (∀ b ∈ pre, key b < key a) ∧ ∀ b ∈ post, key a < key b := by
  obtain ⟨pre, post, rfl⟩ := List.append_of_mem ha
  obtain ⟨-, hpost, hpre⟩ := List.pairwise_append.mp h
  exact ⟨pre, post, rfl, fun b hb => hpre b hb a List.mem_cons_self,
    (List.pairwise_cons.mp hpost).1⟩

/-- An increasing list has one element for a key. -/
lemma Increasing.inj {l : List α} (h : Increasing key l) {a b : α} (ha : a ∈ l) (hb : b ∈ l)
    (heq : key a = key b) : a = b := by
  obtain ⟨pre, post, rfl, hpre, hpost⟩ := h.split ha
  rcases List.mem_append.mp hb with hb | hb
  · exact absurd heq (hpre b hb).ne'
  · rcases List.mem_cons.mp hb with rfl | hb
    · rfl
    · exact absurd heq (hpost b hb).ne

lemma dropWhile_of_split {pre post : List α} {a : α} (hpre : ∀ b ∈ pre, key b < key a) :
    (pre ++ a :: post).dropWhile (key · ≠ key a) = a :: post := by
  rw [List.dropWhile_append_of_pos, List.dropWhile_cons_of_neg (by simp)]
  intro b hb
  simpa using (hpre b hb).ne

lemma takeWhile_of_split {pre post : List α} {a : α} (hpre : ∀ b ∈ pre, key b < key a) :
    (pre ++ a :: post).takeWhile (key · ≠ key a) = pre := by
  rw [List.takeWhile_append_of_pos, List.takeWhile_cons_of_neg (by simp), List.append_nil]
  intro b hb
  simpa using (hpre b hb).ne

/-- In the list of what comes after a position, the first element has the least key. -/
lemma Increasing.head_le {l : List α} (h : Increasing key l) {a b : α} (ha : l.head? = some a)
    (hb : b ∈ l) : key a ≤ key b := by
  cases l with
  | nil => cases hb
  | cons c l =>
    obtain rfl := Option.some.inj ha
    rcases List.mem_cons.mp hb with rfl | hb
    · exact le_rfl
    · exact ((List.pairwise_cons.mp h).1 b hb).le

/-- The next element is the one with the least key after the position. -/
lemma Increasing.nextAt_eq_some {l : List α} (h : Increasing key l) {pos : Option κ}
    (hpos : ∀ k ∈ pos, k ∈ l.map key) {a : α} (ha : nextAt key pos l = some a) :
    a ∈ l ∧ Ahead pos (key a) ∧ ∀ b ∈ l, Ahead pos (key b) → key a ≤ key b := by
  cases pos with
  | none => exact ⟨List.mem_of_mem_head? ha, ahead_none _, fun b hb _ => h.head_le ha hb⟩
  | some k =>
    obtain ⟨c, hc, rfl⟩ := List.mem_map.mp (hpos k rfl)
    obtain ⟨pre, post, rfl, hpre, hpost⟩ := h.split hc
    rw [nextAt, dropWhile_of_split hpre, List.tail_cons] at ha
    have hmem := List.mem_of_mem_head? ha
    refine ⟨by simp [hmem], ahead_some.mpr (hpost a hmem), fun b hb hahead => ?_⟩
    rw [ahead_some] at hahead
    have hb' : b ∈ post := by
      rcases List.mem_append.mp hb with hb | hb
      · exact absurd hahead (hpre b hb).not_gt
      · rcases List.mem_cons.mp hb with rfl | hb
        · exact absurd hahead (lt_irrefl _)
        · exact hb
    have hsorted := (List.pairwise_cons.mp (List.pairwise_append.mp h).2.1).2
    exact Increasing.head_le hsorted ha hb'

/-- An enumerator comes to its end when no element is after its position. -/
lemma Increasing.nextAt_eq_none {l : List α} (h : Increasing key l) {pos : Option κ}
    (hpos : ∀ k ∈ pos, k ∈ l.map key) (hnone : nextAt key pos l = none) {b : α} (hb : b ∈ l) :
    ¬ Ahead pos (key b) := by
  cases pos with
  | none =>
    rw [nextAt, List.head?_eq_none_iff] at hnone
    rw [hnone] at hb
    cases hb
  | some k =>
    obtain ⟨c, hc, rfl⟩ := List.mem_map.mp (hpos k rfl)
    obtain ⟨pre, post, rfl, hpre, hpost⟩ := h.split hc
    rw [nextAt, dropWhile_of_split hpre, List.tail_cons, List.head?_eq_none_iff] at hnone
    subst hnone
    rw [ahead_some, not_lt]
    rcases List.mem_append.mp hb with hb | hb
    · exact (hpre b hb).le
    · rw [List.mem_singleton.mp hb]

/-- An enumerator at the last of some elements comes to the one behind them. -/
lemma Increasing.nextAt_append {pre rest : List α} (h : Increasing key (pre ++ rest)) :
    nextAt key (pre.getLast?.map key) (pre ++ rest) = rest.head? := by
  cases pre using List.reverseRecOn with
  | nil => rfl
  | append_singleton pre a =>
    rw [List.getLast?_append, List.getLast?_singleton, Option.some_or, Option.map_some, nextAt]
    rw [List.append_assoc, List.singleton_append] at h ⊢
    rw [dropWhile_of_split fun b hb => (List.pairwise_append.mp h).2.2 b hb a List.mem_cons_self,
      List.tail_cons]

lemma Increasing.prevAt_append {pre rest : List α} {a : α} (h : Increasing key (pre ++ a :: rest)) :
    prevAt key (key a) (pre ++ a :: rest) = pre.getLast?.map key := by
  rw [prevAt, takeWhile_of_split fun b hb => (List.pairwise_append.mp h).2.2 b hb a
    List.mem_cons_self]

/-- Removing the element an enumerator is at leaves it before the same elements. -/
lemma Increasing.ahead_prevAt {l : List α} (h : Increasing key l) {a b : α} (ha : a ∈ l)
    (hb : b ∈ l) (hne : key b ≠ key a) : Ahead (prevAt key (key a) l) (key b) ↔ key a < key b := by
  obtain ⟨pre, post, rfl, hpre, hpost⟩ := h.split ha
  rw [prevAt, takeWhile_of_split hpre]
  have hlast : ∀ k ∈ pre.getLast?.map key, ∃ c ∈ pre, key c = k ∧ ∀ d ∈ pre, key d ≤ k := by
    intro k hk
    obtain ⟨c, hc, rfl⟩ := Option.map_eq_some_iff.mp hk
    obtain ⟨init, rfl⟩ := List.getLast?_eq_some_iff.mp hc
    refine ⟨c, by simp, rfl, fun d hd => ?_⟩
    rcases List.mem_append.mp hd with hd | hd
    · have hsorted := (List.pairwise_append.mp (List.pairwise_append.mp h).1).2.2
      exact (hsorted d hd c (List.mem_singleton_self c)).le
    · rw [List.mem_singleton.mp hd]
  constructor
  · intro hahead
    rcases List.mem_append.mp hb with hb | hb
    · -- the last of the elements before it is no less than `b`
      have hsome : pre.getLast?.isSome = true := by
        rw [List.getLast?_isSome]
        exact List.ne_nil_of_mem hb
      obtain ⟨c, hc⟩ := Option.isSome_iff_exists.mp hsome
      have hk : key c ∈ pre.getLast?.map key := by rw [hc]; rfl
      obtain ⟨-, -, -, hle⟩ := hlast _ hk
      exact absurd (hahead _ hk) (hle b hb).not_gt
    · rcases List.mem_cons.mp hb with rfl | hb
      · exact absurd rfl hne
      · exact hpost b hb
  · intro hlt k hk
    obtain ⟨c, hc, rfl, -⟩ := hlast k hk
    exact (hpre c hc).trans hlt

lemma Increasing.prevAt_mem {l : List α} (h : Increasing key l) {a : α} (ha : a ∈ l) {k : κ}
    (hk : k ∈ prevAt key (key a) l) : ∃ b ∈ l, key b = k ∧ key b < key a := by
  obtain ⟨pre, post, rfl, hpre, -⟩ := h.split ha
  rw [prevAt, takeWhile_of_split hpre] at hk
  obtain ⟨c, hc, rfl⟩ := Option.map_eq_some_iff.mp hk
  have hmem := List.mem_of_getLast? hc
  exact ⟨c, by simp [hmem], rfl, hpre c hmem⟩

end SecuredApp.Core
