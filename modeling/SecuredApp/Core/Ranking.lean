import Mathlib.Data.List.Induction
import Mathlib.Data.List.Perm.Basic
import Mathlib.Data.Nat.Basic
import Mathlib.Order.Lattice
import Mathlib.Tactic.Common

/-!
# The best elements of a list

A walk over a list that keeps the first element with the highest score so far, and a ranking by a
partial order: elements are inserted one after the other, each before the first one that it beats.
Where beating is a strict partial order, no element of the ranking is beaten by a later one,
although elements need not be comparable; and elements that beat the same ones keep their order.
-/

namespace SecuredApp.Core

variable {α : Type*}

/-! ### The first best element -/

/-- Keep what is found as long as its score is not exceeded. -/
def firstBest (score : α → ℕ) : Option α → ℕ → List α → Option α
  | found, _, [] => found
  | found, best, a :: l =>
    if best < score a then firstBest score (some a) (score a) l else firstBest score found best l

lemma firstBest_of_le {score : α → ℕ} {best : ℕ} {l : List α} (h : ∀ a ∈ l, score a ≤ best)
    (found : Option α) : firstBest score found best l = found := by
  induction l with
  | nil => rfl
  | cons a l ih =>
    obtain ⟨ha, hl⟩ := List.forall_mem_cons.mp h
    rw [firstBest, if_neg (Nat.not_lt.mpr ha), ih hl]

lemma firstBest_of_split {score : α → ℕ} {best : ℕ} {before after : List α} {a : α}
    (hbest : best < score a) (hbefore : ∀ b ∈ before, score b < score a)
    (hafter : ∀ b ∈ after, score b ≤ score a) (found : Option α) :
    firstBest score found best (before ++ a :: after) = some a := by
  induction before generalizing found best with
  | nil => rw [List.nil_append, firstBest, if_pos hbest, firstBest_of_le hafter]
  | cons b before ih =>
    obtain ⟨hb, hbefore⟩ := List.forall_mem_cons.mp hbefore
    rw [List.cons_append, firstBest]
    split_ifs
    · exact ih hb hbefore (some b)
    · exact ih hbest hbefore found

/-- Where a score exceeds the bound, the list splits at the first element with the highest one. -/
lemma exists_split_best (score : α → ℕ) {l : List α} {a : α} (ha : a ∈ l) :
    ∃ before b after, l = before ++ b :: after ∧ score a ≤ score b ∧
      (∀ c ∈ before, score c < score b) ∧ ∀ c ∈ after, score c ≤ score b := by
  induction l generalizing a with
  | nil => cases ha
  | cons d l ih =>
    by_cases hd : ∀ c ∈ l, score c ≤ score d
    · refine ⟨[], d, l, rfl, ?_, by simp, hd⟩
      rcases List.mem_cons.mp ha with rfl | ha
      · exact le_rfl
      · exact hd a ha
    · simp only [not_forall, not_le] at hd
      obtain ⟨c, hc, hlt⟩ := hd
      obtain ⟨before, b, after, rfl, hcb, hbefore, hafter⟩ := ih hc
      refine ⟨d :: before, b, after, rfl, ?_, ?_, hafter⟩
      · rcases List.mem_cons.mp ha with rfl | ha
        · exact (hlt.trans_le hcb).le
        · rcases List.mem_append.mp ha with ha | ha
          · exact (hbefore a ha).le
          · rcases List.mem_cons.mp ha with rfl | ha
            · exact le_rfl
            · exact hafter a ha
      · exact List.forall_mem_cons.mpr ⟨hlt.trans_le hcb, hbefore⟩

lemma firstBest_eq_none_iff {score : α → ℕ} {best : ℕ} {l : List α} :
    firstBest score none best l = none ↔ ∀ a ∈ l, score a ≤ best := by
  refine ⟨fun h a ha => ?_, fun h => firstBest_of_le h none⟩
  obtain ⟨before, b, after, rfl, hab, hbefore, hafter⟩ := exists_split_best score ha
  refine hab.trans (Nat.not_lt.mp fun hbest => ?_)
  rw [firstBest_of_split hbest hbefore hafter] at h
  cases h

/-- What is found has the highest score, and is the first that does. -/
lemma firstBest_eq_some_iff {score : α → ℕ} {best : ℕ} {l : List α} {a : α} :
    firstBest score none best l = some a ↔ ∃ before after, l = before ++ a :: after ∧
      best < score a ∧ (∀ b ∈ before, score b < score a) ∧ ∀ b ∈ after, score b ≤ score a := by
  constructor
  · intro h
    have hexceeds : ¬ ∀ b ∈ l, score b ≤ best := fun hall => by
      rw [firstBest_eq_none_iff.mpr hall] at h
      cases h
    simp only [not_forall, not_le] at hexceeds
    obtain ⟨c, hc, hlt⟩ := hexceeds
    obtain ⟨before, b, after, rfl, hcb, hbefore, hafter⟩ := exists_split_best score hc
    have hbest := hlt.trans_le hcb
    rw [firstBest_of_split hbest hbefore hafter, Option.some.injEq] at h
    exact ⟨before, after, h ▸ rfl, h ▸ hbest, h ▸ hbefore, h ▸ hafter⟩
  · rintro ⟨before, after, rfl, hbest, hbefore, hafter⟩
    exact firstBest_of_split hbest hbefore hafter none

/-! ### Ranking -/

variable (beats : α → α → Bool)

/-- Insert an element before the first one that it beats. -/
def insertRanked (a : α) : List α → List α
  | [] => [a]
  | b :: l => if beats a b then a :: b :: l else b :: insertRanked a l

/-- No element is beaten by a later one. -/
def Ranked (l : List α) : Prop := l.Pairwise fun a b => beats b a = false

def rank (l : List α) : List α := l.foldl (fun ranked a => insertRanked beats a ranked) []

variable {beats}

lemma insertRanked_perm (a : α) (l : List α) : (insertRanked beats a l).Perm (a :: l) := by
  induction l with
  | nil => exact List.Perm.refl _
  | cons b l ih =>
    rw [insertRanked]
    split_ifs
    · exact List.Perm.refl _
    · exact (ih.cons b).trans (List.Perm.swap a b l)

lemma Ranked.insertRanked (htrans : ∀ a b c, beats a b = true → beats b c = true → beats a c = true)
    (hasymm : ∀ a b, beats a b = true → beats b a = false) {l : List α} (h : Ranked beats l)
    (a : α) : Ranked beats (insertRanked beats a l) := by
  induction l with
  | nil => exact List.pairwise_singleton _ _
  | cons b l ih =>
    obtain ⟨hb, hl⟩ := List.pairwise_cons.mp h
    rw [Core.insertRanked]
    split_ifs with hbeats
    · refine List.pairwise_cons.mpr ⟨fun c hc => ?_, h⟩
      rcases List.mem_cons.mp hc with rfl | hc
      · exact hasymm _ _ hbeats
      · -- an element that beats the new one beats what the new one beats
        rw [Bool.eq_false_iff]
        intro hca
        exact Bool.false_ne_true ((hb c hc).symm.trans (htrans c a b hca hbeats))
    · refine List.pairwise_cons.mpr ⟨fun c hc => ?_, ih hl⟩
      rcases List.mem_cons.mp ((insertRanked_perm a l).mem_iff.mp hc) with rfl | hc
      · simpa using hbeats
      · exact hb c hc

/-- A new element comes after all those that beat the same elements. -/
lemma Ranked.filter_insertRanked (hasymm : ∀ a b, beats a b = true → beats b a = false)
    {l : List α} (h : Ranked beats l) {a : α} {p : α → Bool}
    (hp : ∀ c, p c = true → ∀ b, beats c b = beats a b) (ha : p a = true) :
    (Core.insertRanked beats a l).filter p = l.filter p ++ [a] := by
  induction l with
  | nil => simp [Core.insertRanked, ha]
  | cons b l ih =>
    obtain ⟨hb, hl⟩ := List.pairwise_cons.mp h
    rw [Core.insertRanked]
    split_ifs with hbeats
    · have hnil : (b :: l).filter p = [] := by
        refine List.filter_eq_nil_iff.mpr fun c hc hpc => ?_
        have hcb : beats c b = true := (hp c hpc b).trans hbeats
        rcases List.mem_cons.mp hc with rfl | hc
        · exact Bool.false_ne_true ((hasymm _ _ hcb).symm.trans hcb)
        · exact Bool.false_ne_true ((hb c hc).symm.trans hcb)
      rw [List.filter_cons_of_pos ha, hnil, List.nil_append]
    · rw [List.filter_cons, List.filter_cons, ih hl]
      split_ifs
      · rfl
      · rfl

lemma filter_insertRanked_of_neg {a : α} {p : α → Bool} (ha : ¬ p a = true) (l : List α) :
    (insertRanked beats a l).filter p = l.filter p := by
  induction l with
  | nil => simp [insertRanked, ha]
  | cons b l ih =>
    rw [insertRanked]
    split_ifs
    · rw [List.filter_cons_of_neg ha]
    · rw [List.filter_cons, List.filter_cons, ih]

lemma rank_concat (l : List α) (a : α) :
    rank beats (l ++ [a]) = insertRanked beats a (rank beats l) := by
  rw [rank, List.foldl_append]
  rfl

/-- The same elements. -/
lemma rank_perm (l : List α) : (rank beats l).Perm l := by
  induction l using List.reverseRecOn with
  | nil => exact List.Perm.refl _
  | append_singleton l a ih =>
    rw [rank_concat]
    exact (insertRanked_perm a _).trans ((ih.cons a).trans (List.perm_append_singleton a l).symm)

/-- No element is beaten by a later one. -/
lemma ranked_rank (htrans : ∀ a b c, beats a b = true → beats b c = true → beats a c = true)
    (hasymm : ∀ a b, beats a b = true → beats b a = false) (l : List α) :
    Ranked beats (rank beats l) := by
  induction l using List.reverseRecOn with
  | nil => exact List.Pairwise.nil
  | append_singleton l a ih =>
    rw [rank_concat]
    exact ih.insertRanked htrans hasymm a

/-- Elements that beat the same ones keep their order. -/
lemma filter_rank (htrans : ∀ a b c, beats a b = true → beats b c = true → beats a c = true)
    (hasymm : ∀ a b, beats a b = true → beats b a = false) {p : α → Bool}
    (hp : ∀ a c, p a = true → p c = true → ∀ b, beats c b = beats a b) (l : List α) :
    (rank beats l).filter p = l.filter p := by
  induction l using List.reverseRecOn with
  | nil => rfl
  | append_singleton l a ih =>
    rw [rank_concat, List.filter_append]
    by_cases ha : p a = true
    · rw [(ranked_rank htrans hasymm l).filter_insertRanked hasymm (fun c hc => hp a c ha hc) ha,
        ih, List.filter_cons_of_pos ha, List.filter_nil]
    · rw [filter_insertRanked_of_neg ha, ih, List.filter_cons_of_neg ha, List.filter_nil,
        List.append_nil]

end SecuredApp.Core
