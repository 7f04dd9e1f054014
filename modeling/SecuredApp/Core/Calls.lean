import Mathlib.Data.List.Basic
import Mathlib.Tactic.Common

/-!
# Calls in progress

The calls of a function that run beside each other are a list of where each of them is. A call
keeps its number: a step of it replaces its entry, and a new call is added at the end. Any number
of them may contend for one lock.
-/

namespace SecuredApp.Core

variable {κ : Type*} {calls : List κ} {i j : ℕ} {k k' : κ}

/-! ### One call -/

/-- After a step of the call `i`, a call is that one or where it was. -/
lemma getElem?_set_cases (h : (calls.set i k)[j]? = some k') :
    (j = i ∧ k' = k) ∨ (j ≠ i ∧ calls[j]? = some k') := by
  by_cases hij : i = j
  · subst hij
    have hlt : i < calls.length := by
      by_contra hge
      rw [List.getElem?_eq_none (by simpa using hge)] at h
      cases h
    rw [List.getElem?_set_self hlt, Option.some.injEq] at h
    exact .inl ⟨rfl, h.symm⟩
  · rw [List.getElem?_set_ne hij] at h
    exact .inr ⟨fun heq => hij heq.symm, h⟩

lemma getElem?_concat_cases (h : (calls ++ [k])[j]? = some k') :
    (j = calls.length ∧ k' = k) ∨ calls[j]? = some k' := by
  rcases Nat.lt_trichotomy j calls.length with hlt | rfl | hgt
  · rw [List.getElem?_append_left hlt] at h
    exact .inr h
  · rw [List.getElem?_concat_length, Option.some.injEq] at h
    exact .inl ⟨rfl, h.symm⟩
  · rw [List.getElem?_eq_none (by rw [List.length_append]; exact hgt)] at h
    cases h

/-! ### All of them -/

/-- Every call satisfies `P` under its number. -/
def Each (P : ℕ → κ → Prop) (calls : List κ) : Prop := ∀ i k, calls[i]? = some k → P i k

variable {P Q : ℕ → κ → Prop}

lemma Each.nil : Each P [] := nofun

lemma each_iff {p : κ → Prop} : Each (fun _ k => p k) calls ↔ ∀ k ∈ calls, p k := by
  constructor
  · intro h k hk
    obtain ⟨i, hi⟩ := List.mem_iff_getElem?.mp hk
    exact h i k hi
  · intro h i k hk
    exact h k (List.mem_of_getElem? hk)

lemma Each.mono (h : ∀ i k, P i k → Q i k) (hP : Each P calls) : Each Q calls :=
  fun i k hk => h i k (hP i k hk)

lemma Each.set (h : Each P calls) (hk : P i k) : Each P (calls.set i k) := by
  intro j k' hj
  rcases getElem?_set_cases hj with ⟨rfl, rfl⟩ | ⟨-, hj⟩
  · exact hk
  · exact h j k' hj

lemma Each.concat (h : Each P calls) (hk : P calls.length k) : Each P (calls ++ [k]) := by
  intro j k' hj
  rcases getElem?_concat_cases hj with ⟨rfl, rfl⟩ | hj
  · exact hk
  · exact h j k' hj

/-! ### How many of them -/

/-- A step of a call changes the number of calls with a property by what it changes of its own. -/
lemma countP_set_add (p : κ → Bool) (k' : κ) (h : calls[i]? = some k) :
    (calls.set i k').countP p + (if p k then 1 else 0)
      = calls.countP p + (if p k' then 1 else 0) := by
  induction calls generalizing i with
  | nil => cases h
  | cons c calls ih =>
    cases i with
    | zero =>
      rw [List.getElem?_cons_zero, Option.some.injEq] at h
      subst h
      simp only [List.set_cons_zero, List.countP_cons]
      omega
    | succ i =>
      rw [List.getElem?_cons_succ] at h
      have htail := ih h
      simp only [List.set_cons_succ, List.countP_cons]
      omega

/-- A step after which the call has the property as before. -/
lemma countP_set_of_eq (p : κ → Bool) (h : calls[i]? = some k) (hp : p k' = p k) :
    (calls.set i k').countP p = calls.countP p := by
  have hcount := countP_set_add p k' h
  rw [hp] at hcount
  exact Nat.add_right_cancel hcount

/-! ### A lock -/

/-- `holder` is the call that holds the lock, if one does: no other is at a place where the lock is
held. -/
structure HeldBy (locked : κ → Prop) (lock : Bool) (calls : List κ) (holder : Option ℕ) : Prop where
  lock_eq : lock = holder.isSome
  lt : ∀ i, holder = some i → i < calls.length
  locked_iff : ∀ i k, calls[i]? = some k → (locked k ↔ holder = some i)

namespace HeldBy

variable {locked : κ → Prop} {lock : Bool} {holder : Option ℕ}

lemma nil : HeldBy locked false [] none := ⟨rfl, nofun, nofun⟩

lemma set (h : HeldBy locked lock calls holder) (hk : calls[i]? = some k)
    (hlocked : locked k' ↔ locked k) : HeldBy locked lock (calls.set i k') holder := by
  refine ⟨h.lock_eq, fun j hj => ?_, fun j c hj => ?_⟩
  · rw [List.length_set]
    exact h.lt j hj
  · rcases getElem?_set_cases hj with ⟨rfl, rfl⟩ | ⟨-, hj⟩
    · exact hlocked.trans (h.locked_iff j k hk)
    · exact h.locked_iff j c hj

lemma acquire (h : HeldBy locked false calls holder) (hk : calls[i]? = some k)
    (hlocked : locked k') : HeldBy locked true (calls.set i k') (some i) := by
  refine ⟨rfl, fun j hj => ?_, fun j c hj => ?_⟩
  · rw [Option.some.injEq] at hj
    rw [List.length_set, ← hj]
    exact (List.getElem?_eq_some_iff.mp hk).1
  · rcases getElem?_set_cases hj with ⟨rfl, rfl⟩ | ⟨hne, hj⟩
    · exact iff_of_true hlocked rfl
    · have hfree : holder = none := by simpa using h.lock_eq.symm
      refine iff_of_false (fun hc => ?_) (fun hij => hne (Option.some.inj hij).symm)
      rw [h.locked_iff j c hj, hfree] at hc
      cases hc

lemma release (h : HeldBy locked lock calls holder) (hk : calls[i]? = some k) (hlocked : locked k)
    (hfree : ¬ locked k') : HeldBy locked false (calls.set i k') none := by
  refine ⟨rfl, nofun, fun j c hj => ?_⟩
  rcases getElem?_set_cases hj with ⟨rfl, rfl⟩ | ⟨hne, hj⟩
  · exact iff_of_false hfree nofun
  · refine iff_of_false (fun hc => hne ?_) nofun
    rw [h.locked_iff j c hj, (h.locked_iff i k hk).mp hlocked, Option.some.injEq] at hc
    exact hc.symm

lemma concat (h : HeldBy locked lock calls holder) (hfree : ¬ locked k) :
    HeldBy locked lock (calls ++ [k]) holder := by
  refine ⟨h.lock_eq, fun j hj => ?_, fun j c hj => ?_⟩
  · rw [List.length_append]
    exact Nat.lt_add_right _ (h.lt j hj)
  · rcases getElem?_concat_cases hj with ⟨rfl, rfl⟩ | hj
    · exact iff_of_false hfree fun hj => Nat.lt_irrefl _ (h.lt _ hj)
    · exact h.locked_iff j c hj

/-- Two calls that hold the lock are one. -/
lemma eq (h : HeldBy locked lock calls holder) (hi : calls[i]? = some k) (hk : locked k)
    (hj : calls[j]? = some k') (hk' : locked k') : i = j := by
  rw [h.locked_iff i k hi] at hk
  rw [h.locked_iff j k' hj, hk, Option.some.injEq] at hk'
  exact hk'

/-- The lock is held exactly while a call is where it is held. -/
lemma lock_iff (h : HeldBy locked lock calls holder) :
    lock = true ↔ ∃ (i : ℕ) (k : κ), calls[i]? = some k ∧ locked k := by
  rw [h.lock_eq]
  constructor
  · intro hsome
    obtain ⟨i, hi⟩ := Option.isSome_iff_exists.mp hsome
    have hlt := h.lt i hi
    have hk : calls[i]? = some calls[i] := List.getElem?_eq_getElem hlt
    exact ⟨i, _, hk, (h.locked_iff i _ hk).mpr hi⟩
  · rintro ⟨i, k, hk, hlocked⟩
    rw [(h.locked_iff i k hk).mp hlocked, Option.isSome_some]

end HeldBy

end SecuredApp.Core
