import Mathlib.Order.Bounds.Defs
import SecuredApp.Attest.Daemon

/-!
# When a monitor raises the alarm

The loop of `attest_request` counts the silent polls in a row, and the poll it counts decides at
once whether it goes on. Against any sequence of verdicts it ends after the first untrusted one or
after the first three silences in a row, whichever comes first.
-/

namespace SecuredApp

open SecuredApp.Core

/-- A pass of the loop of `attest_request`, which its guard lets begin. -/
def Monitor.pass (m : Monitor) (attestResult : Int) : Option Monitor :=
  if m.looping then some (m.polled attestResult) else none

/-- The verdicts of the first `n` polls, of which the first has the number 1. -/
def firstVerdicts (r : ℕ → Int) (n : ℕ) : List Int := (List.range' 1 n).map r

/-- The loop makes `n` polls with these verdicts and is left. -/
def EndsAfter (data : AttestData) (owner : UInt32) (r : ℕ → Int) (n : ℕ) : Prop :=
  ∃ m, run Monitor.pass (.queued data owner) (firstVerdicts r n) = some m ∧ m.looping = false

/-- The loop makes `n` polls with these verdicts and goes on. -/
def RunsOnAfter (data : AttestData) (owner : UInt32) (r : ℕ → Int) (n : ℕ) : Prop :=
  ∃ m, run Monitor.pass (.queued data owner) (firstVerdicts r n) = some m ∧ m.looping = true

/-- The poll `n` is untrusted or the third silent one in a row. -/
def Alarms (r : ℕ → Int) (n : ℕ) : Prop :=
  1 ≤ n ∧ r n = -1 ∨ 3 ≤ n ∧ r (n - 2) = 0 ∧ r (n - 1) = 0 ∧ r n = 0

/-! ### The silences in a row -/

/-- The number of silent polls in a row that end with the poll `n`. -/
def silences (r : ℕ → Int) : ℕ → ℕ
  | 0 => 0
  | n + 1 => if r (n + 1) = 0 then silences r n + 1 else 0

variable {r : ℕ → Int} {n : ℕ}

lemma le_silences_iff {k : ℕ} : k ≤ silences r n ↔ k ≤ n ∧ ∀ i < k, r (n - i) = 0 := by
  induction n generalizing k with
  | zero =>
    cases k with
    | zero => simp
    | succ k => simp [silences]
  | succ n ih =>
    cases k with
    | zero => simp
    | succ k =>
      rw [silences, Nat.forall_lt_succ_left, Nat.sub_zero]
      simp only [Nat.succ_sub_succ, Nat.add_le_add_iff_right]
      by_cases hsilent : r (n + 1) = 0
      · rw [if_pos hsilent, Nat.add_le_add_iff_right, ih]
        simp only [hsilent, true_and]
      · rw [if_neg hsilent]
        constructor
        · intro h
          cases h
        · intro h
          exact absurd h.2.1 hsilent

lemma three_le_silences_iff :
    3 ≤ silences r n ↔ 3 ≤ n ∧ r (n - 2) = 0 ∧ r (n - 1) = 0 ∧ r n = 0 := by
  rw [le_silences_iff]
  refine and_congr_right fun _ => ?_
  constructor
  · intro h
    exact ⟨h 2 (by omega), h 1 (by omega), h 0 (by omega)⟩
  · rintro ⟨htwo, hone, hzero⟩ i hi
    match i with
    | 0 => exact hzero
    | 1 => exact hone
    | 2 => exact htwo

/-! ### The passes of the loop -/

variable {data : AttestData} {owner : UInt32} {m : Monitor}

/-- The variables of the loop after `n` polls. -/
structure Monitor.After (m : Monitor) (r : ℕ → Int) (n : ℕ) : Prop where
  attestResult : m.attestResult = -1 ↔ 1 ≤ n ∧ r n = -1
  count : m.count = silences r n

lemma Monitor.pass_eq_some {m' : Monitor} {attestResult : Int} :
    m.pass attestResult = some m' ↔ m.looping = true ∧ m.polled attestResult = m' := by
  rw [pass]
  split_ifs with hloop
  · rw [Option.some.injEq, and_iff_right hloop]
  · simp [hloop]

lemma Monitor.After.polled (h : m.After r n) : (m.polled (r (n + 1))).After r (n + 1) where
  attestResult := by
    show r (n + 1) = -1 ↔ _
    simp
  count := by
    rw [silences, ← h.count]
    rfl

lemma run_firstVerdicts_succ {m' : Monitor} :
    run Monitor.pass m (firstVerdicts r (n + 1)) = some m' ↔
      ∃ m₁, run Monitor.pass m (firstVerdicts r n) = some m₁ ∧ m₁.looping = true ∧
        m₁.polled (r (n + 1)) = m' := by
  rw [firstVerdicts, List.range'_1_concat, List.map_append, List.map_singleton, Nat.add_comm 1 n,
    run_concat_eq_some]
  simp only [Monitor.pass_eq_some]
  rfl

lemma after_of_run (h : run Monitor.pass (.queued data owner) (firstVerdicts r n) = some m) :
    m.After r n := by
  induction n generalizing m with
  | zero =>
    obtain rfl := Option.some.inj h
    refine ⟨?_, rfl⟩
    simp [Monitor.queued]
  | succ n ih =>
    obtain ⟨m₁, hrun, -, rfl⟩ := run_firstVerdicts_succ.mp h
    exact (ih hrun).polled

/-- The guard fails exactly after a poll that alarms. -/
lemma Monitor.After.looping_iff (h : m.After r n) : m.looping = true ↔ ¬ Alarms r n := by
  rw [Alarms, ← three_le_silences_iff, ← h.attestResult, ← h.count, looping, decide_eq_true_iff,
    not_or, not_le]

/-- The loop comes to the poll after the one numbered `n` exactly if none up to it alarms. -/
lemma runsOnAfter_iff (data : AttestData) (owner : UInt32) :
    RunsOnAfter data owner r n ↔ ∀ k ≤ n, ¬ Alarms r k := by
  induction n with
  | zero =>
    constructor
    · rintro ⟨m, hrun, hloop⟩ k hk
      obtain rfl := Nat.le_zero.mp hk
      exact (after_of_run hrun).looping_iff.mp hloop
    · intro _
      exact ⟨_, rfl, rfl⟩
  | succ n ih =>
    constructor
    · rintro ⟨m, hrun, hloop⟩ k hk
      obtain ⟨m₁, hrun₁, hloop₁, -⟩ := run_firstVerdicts_succ.mp hrun
      rcases Nat.le_succ_iff.mp hk with hk | rfl
      · exact ih.mp ⟨m₁, hrun₁, hloop₁⟩ k hk
      · exact (after_of_run hrun).looping_iff.mp hloop
    · intro h
      obtain ⟨m₁, hrun₁, hloop₁⟩ := ih.mpr fun k hk => h k (Nat.le_succ_of_le hk)
      have hrun := run_firstVerdicts_succ.mpr ⟨m₁, hrun₁, hloop₁, rfl⟩
      exact ⟨_, hrun, (after_of_run hrun).looping_iff.mpr (h (n + 1) le_rfl)⟩

lemma not_alarms_zero : ¬ Alarms r 0 := by
  simp [Alarms]

/-- The loop is left at the first poll that alarms. -/
lemma endsAfter_iff (data : AttestData) (owner : UInt32) :
    EndsAfter data owner r n ↔ (∀ k < n, ¬ Alarms r k) ∧ Alarms r n := by
  cases n with
  | zero =>
    constructor
    · rintro ⟨m, hrun, hleft⟩
      obtain rfl := Option.some.inj hrun
      cases hleft
    · rintro ⟨-, halarm⟩
      exact absurd halarm not_alarms_zero
  | succ n =>
    simp only [Nat.lt_succ_iff]
    rw [← runsOnAfter_iff data owner]
    constructor
    · rintro ⟨m, hrun, hleft⟩
      obtain ⟨m₁, hrun₁, hloop₁, -⟩ := run_firstVerdicts_succ.mp hrun
      refine ⟨⟨m₁, hrun₁, hloop₁⟩, ?_⟩
      by_contra hnot
      rw [← (after_of_run hrun).looping_iff, hleft] at hnot
      cases hnot
    · rintro ⟨⟨m₁, hrun₁, hloop₁⟩, halarm⟩
      have hrun := run_firstVerdicts_succ.mpr ⟨m₁, hrun₁, hloop₁, rfl⟩
      refine ⟨_, hrun, ?_⟩
      rw [← Bool.not_eq_true, (after_of_run hrun).looping_iff, not_not]
      exact halarm

lemma isLeast_alarms_iff :
    IsLeast {k | Alarms r k} n ↔ (∀ k < n, ¬ Alarms r k) ∧ Alarms r n := by
  constructor
  · rintro ⟨halarm, hleast⟩
    refine ⟨fun k hk hk' => ?_, halarm⟩
    exact absurd (hleast hk') (not_le.mpr hk)
  · rintro ⟨hbefore, halarm⟩
    refine ⟨halarm, fun k hk => ?_⟩
    by_contra hlt
    exact hbefore k (not_le.mp hlt) hk

/-- For every sequence of verdicts the loop ends after the poll `n` exactly if this is the first
one that alarms, and runs on as long as none does. -/
theorem loop_ends_iff (data : AttestData) (owner : UInt32) (r : ℕ → Int) (n : ℕ) :
    (EndsAfter data owner r n ↔ IsLeast {k | Alarms r k} n) ∧
      (RunsOnAfter data owner r n ↔ ∀ k ≤ n, ¬ Alarms r k) := by
  rw [endsAfter_iff, isLeast_alarms_iff]
  exact ⟨Iff.rfl, runsOnAfter_iff data owner⟩

/-! ### The monitors of the daemon -/

variable {J : JsonC} {sha1Hex : List Char → CStr} {d d' : Daemon}

/-- The monitor is its loop, run over the verdicts of its polls. -/
def Monitor.Looped (m : Monitor) : Prop :=
  run Monitor.pass (.queued m.data m.owner) m.polls.reverse = some { m with ended := false }

lemma Monitor.queued_looped (data : AttestData) (owner : UInt32) :
    (Monitor.queued data owner).Looped := rfl

lemma Monitor.Looped.polled (h : m.Looped) (hloop : m.looping = true) (attestResult : Int) :
    (m.polled attestResult).Looped := by
  have hpass : Monitor.pass { m with ended := false } attestResult
      = some { m.polled attestResult with ended := false } :=
    Monitor.pass_eq_some.mpr ⟨hloop, rfl⟩
  show run Monitor.pass (.queued m.data m.owner) (attestResult :: m.polls).reverse = _
  rw [List.reverse_cons, run_concat, h, Option.bind_some, hpass]

lemma Daemon.Looped.step (h : ∀ m ∈ d.plugin.monitors, m.Looped) {e : Event}
    (hstep : d.step J sha1Hex e = some d') : ∀ m ∈ d'.plugin.monitors, m.Looped := by
  have hset : ∀ {i : ℕ} {m' : Monitor}, m'.Looped →
      ∀ x ∈ d.plugin.monitors.set i m', x.Looped := by
    intro i m' hm' x hx
    rcases List.mem_or_eq_of_mem_set hx with hx | rfl
    · exact h x hx
    · exact hm'
  cases Daemon.step_sound hstep with
  | pass | enter | finish => exact h
  | round hcall hrest hdone =>
    cases hdone with
    | skipped | known => exact h
    | @asked digest hostname a hdigest hne ha =>
      intro m hm
      simp only [Plugin.asked, List.mem_append] at hm
      rcases hm with hm | hm
      · exact h m hm
      · split_ifs at hm
        · obtain rfl := List.mem_singleton.mp hm
          exact Monitor.queued_looped _ _
        · cases hm
  | poll hm hended hloop ha =>
    exact hset ((h _ (List.mem_of_getElem? hm)).polled hloop _)
  | answer hm hended hloop =>
    have hlooped := h _ (List.mem_of_getElem? hm)
    refine hset ?_
    exact hlooped

/-- In every run of the daemon a monitor has left its loop exactly if its last poll is the first
one of it that alarms. -/
theorem monitor_left_iff (J : JsonC) (sha1Hex : List Char → CStr) (settings : Settings)
    (es : List Event) (d : Daemon)
    (hrun : run (Daemon.step J sha1Hex) (.init settings) es = some d) (m : Monitor)
    (hm : m ∈ d.plugin.monitors) (r : ℕ → Int)
    (hr : firstVerdicts r m.polls.length = m.polls.reverse) :
    m.looping = false ↔ IsLeast {k | Alarms r k} m.polls.length := by
  have hlooped : m.Looped := by
    refine run_invariant (P := fun d => ∀ m ∈ d.plugin.monitors, m.Looped) ?_ ?_ hrun m hm
    · simp [Daemon.init, Plugin.fresh]
    · intro d₁ e d₂ h hstep
      exact Daemon.Looped.step h hstep
  rw [isLeast_alarms_iff, ← endsAfter_iff m.data m.owner]
  rw [Monitor.Looped, ← hr] at hlooped
  constructor
  · intro hleft
    exact ⟨_, hlooped, hleft⟩
  · rintro ⟨m₁, hrun₁, hleft⟩
    obtain rfl := Option.some.inj (hlooped.symm.trans hrun₁)
    exact hleft

end SecuredApp
