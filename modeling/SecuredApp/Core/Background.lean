import Mathlib.Data.Finset.Option
import Mathlib.Tactic.Common

/-!
# Stops in the background

A program starts resources by a command that it waits for, and stops them by commands that go on in
the background: `up` are the resources that are up, `stopping` the stops that have not ended. It
means to have one resource at most.
-/

namespace SecuredApp.Core

variable {α : Type*} {up : Finset α} {stopping : List α} {current : Option α} {a : α}

/-- All that is up is `current`, which is not being stopped, and what is being stopped. -/
structure Tracks (up : Finset α) (stopping : List α) (current : Option α) : Prop where
  up_of_mem : ∀ a ∈ up, current = some a ∨ a ∈ stopping
  current_up : ∀ a, current = some a → a ∈ up ∧ a ∉ stopping

namespace Tracks

lemma init (current : Option α) : Tracks current.toFinset [] current := by
  refine ⟨fun a ha => .inl ?_, fun a ha => ⟨?_, List.not_mem_nil⟩⟩
  · exact Option.mem_toFinset.mp ha
  · exact Option.mem_toFinset.mpr ha

/-- A stop of the current resource, or of any other if there is none. -/
lemma stop (h : Tracks up stopping current) (ha : ∀ b, current = some b → a = b) :
    Tracks up (a :: stopping) none := by
  refine ⟨fun b hb => .inr ?_, nofun⟩
  rcases h.up_of_mem b hb with hcurrent | hmem
  · rw [ha b hcurrent]
    exact List.mem_cons_self
  · exact List.mem_cons_of_mem _ hmem

variable [DecidableEq α]

/-- A start of a resource that is not being stopped. -/
lemma start (h : Tracks up stopping none) (ha : a ∉ stopping) :
    Tracks (insert a up) stopping (some a) := by
  refine ⟨fun b hb => ?_, fun b hb => ?_⟩
  · rcases Finset.mem_insert.mp hb with rfl | hb
    · exact .inl rfl
    · exact .inr ((h.up_of_mem b hb).resolve_left nofun)
  · obtain rfl := Option.some.inj hb
    exact ⟨Finset.mem_insert_self _ _, ha⟩

lemma stopEnds (h : Tracks up stopping current) (ha : a ∈ stopping) :
    Tracks (up.erase a) (stopping.erase a) current := by
  refine ⟨fun b hb => ?_, fun b hb => ?_⟩
  · obtain ⟨hne, hb⟩ := Finset.mem_erase.mp hb
    exact (h.up_of_mem b hb).imp_right fun hmem => (List.mem_erase_of_ne hne).mpr hmem
  · obtain ⟨hup, hstopping⟩ := h.current_up b hb
    have hne : b ≠ a := fun heq => hstopping (heq ▸ ha)
    exact ⟨Finset.mem_erase.mpr ⟨hne, hup⟩, fun hmem => hstopping (List.mem_of_mem_erase hmem)⟩

omit [DecidableEq α] in
/-- Once no stop is left, the current resource is what is up. -/
lemma eq_toFinset (h : Tracks up [] current) : up = current.toFinset := by
  ext a
  rw [Option.mem_toFinset]
  constructor
  · intro ha
    exact (h.up_of_mem a ha).resolve_right List.not_mem_nil
  · intro ha
    exact (h.current_up a ha).1

end Tracks

end SecuredApp.Core
