import SecuredApp.Bus.Loggers

/-!
# Who receives a log message

What the loggers of the bus asked for, as the last call of `add_logger` or `remove_logger` of each
says, against the messages `vlog` hands out.
-/

namespace SecuredApp

open SecuredApp.Core

variable {dbgMax : ℕ}

/-! ### What was asked for -/

/-- What the loggers ask for after an operation: their levels, by logger. -/
def LogOp.ask (asked : Logger → Option (Fin dbgMax → Level)) :
    LogOp dbgMax → Logger → Option (Fin dbgMax → Level)
  | .add logger levels => Function.update asked logger (some levels)
  | .remove logger => Function.update asked logger none
  | .setSa _ _ => asked

/-- The levels each logger gave when it was last registered, if it was not removed since. -/
def lastAsked (ops : List (LogOp dbgMax)) : Logger → Option (Fin dbgMax → Level) :=
  ops.foldl LogOp.ask fun _ => none

/-- The IKE_SA of a thread after an operation. -/
def LogOp.sa (sa : ℕ → Option ℕ) : LogOp dbgMax → ℕ → Option ℕ
  | .setSa thread ikeSa => Function.update sa thread ikeSa
  | _ => sa

/-- The IKE_SA each thread set last. -/
def lastSa (ops : List (LogOp dbgMax)) : ℕ → Option ℕ :=
  ops.foldl LogOp.sa fun _ => none

/-- The entries of the bus are what the loggers asked for. -/
def LogBus.Holds (bus : LogBus dbgMax) (asked : Logger → Option (Fin dbgMax → Level)) : Prop :=
  ∀ logger levels, asked logger = some levels ↔
    ∃ e ∈ bus.all, e.logger = logger ∧ e.levels = levels

lemma LogBus.Holds.unregisterLogger {bus : LogBus dbgMax}
    {asked : Logger → Option (Fin dbgMax → Level)} (h : bus.Holds asked) (hok : bus.Ok)
    (logger : Logger) :
    (bus.unregisterLogger logger).Holds (Function.update asked logger none) := by
  intro logger' levels
  rw [hok.unregisterLogger_all]
  by_cases heq : logger' = logger
  · subst heq
    rw [Function.update_self]
    constructor
    · intro h
      cases h
    · rintro ⟨e, he, hlogger, -⟩
      exact absurd hlogger (of_decide_eq_true (List.mem_filter.mp he).2)
  · rw [Function.update_of_ne heq, h logger' levels]
    constructor
    · rintro ⟨e, he, rfl, hlevels⟩
      exact ⟨e, List.mem_filter.mpr ⟨he, decide_eq_true heq⟩, rfl, hlevels⟩
    · rintro ⟨e, he, hlogger, hlevels⟩
      exact ⟨e, (List.mem_filter.mp he).1, hlogger, hlevels⟩

lemma LogBus.Holds.step {bus bus' : LogBus dbgMax} {op : LogOp dbgMax}
    {asked : Logger → Option (Fin dbgMax → Level)} (h : bus.Holds asked) (hok : bus.Ok)
    (hstep : bus.step op = some bus') : bus'.Holds (op.ask asked) := by
  cases op with
  | add logger levels =>
    rw [LogBus.step, Option.some.injEq] at hstep
    subst hstep
    have h' := h.unregisterLogger hok logger
    intro logger' levels'
    simp only [LogOp.ask, LogBus.addLogger, List.mem_append, List.mem_singleton]
    by_cases heq : logger' = logger
    · subst heq
      rw [Function.update_self, Option.some.injEq]
      constructor
      · intro hlevels
        exact ⟨_, Or.inr rfl, rfl, hlevels⟩
      · rintro ⟨e, he | rfl, hlogger, hlevels⟩
        · have hnone := (h' logger' levels').mpr ⟨e, he, hlogger, hlevels⟩
          rw [Function.update_self] at hnone
          cases hnone
        · exact hlevels
    · have hiff := h' logger' levels'
      rw [Function.update_of_ne heq] at hiff ⊢
      rw [hiff]
      constructor
      · rintro ⟨e, he, hlogger, hlevels⟩
        exact ⟨e, Or.inl he, hlogger, hlevels⟩
      · rintro ⟨e, he | rfl, hlogger, hlevels⟩
        · exact ⟨e, he, hlogger, hlevels⟩
        · exact absurd hlogger.symm heq
  | remove logger =>
    rw [LogBus.step, Option.some.injEq] at hstep
    exact hstep ▸ h.unregisterLogger hok logger
  | setSa thread ikeSa =>
    rw [LogBus.step, Option.some.injEq] at hstep
    exact hstep ▸ h

lemma LogBus.threadSa_unregisterLogger (bus : LogBus dbgMax) (logger : Logger) :
    (bus.unregisterLogger logger).threadSa = bus.threadSa := by
  rw [LogBus.unregisterLogger]
  split <;> rfl

lemma LogBus.threadSa_step {bus bus' : LogBus dbgMax} {op : LogOp dbgMax}
    (hstep : bus.step op = some bus') : bus'.threadSa = op.sa bus.threadSa := by
  cases op with
  | add logger levels =>
    rw [LogBus.step, Option.some.injEq] at hstep
    rw [← hstep]
    exact bus.threadSa_unregisterLogger logger
  | remove logger =>
    rw [LogBus.step, Option.some.injEq] at hstep
    rw [← hstep]
    exact bus.threadSa_unregisterLogger logger
  | setSa thread ikeSa =>
    rw [LogBus.step, Option.some.injEq] at hstep
    rw [← hstep]
    rfl

/-- The bus after a run: its lists are in order, and hold what was asked for. -/
lemma LogBus.run_holds {bus : LogBus dbgMax} {ops : List (LogOp dbgMax)}
    (h : run LogBus.step LogBus.create ops = some bus) :
    bus.Ok ∧ bus.Holds (lastAsked ops) ∧ bus.threadSa = lastSa ops := by
  refine run_induction (P := fun ops bus =>
    bus.Ok ∧ bus.Holds (lastAsked ops) ∧ bus.threadSa = lastSa ops) ?_ ?_ h
  · refine ⟨LogBus.ok_create, ?_, rfl⟩
    intro logger levels
    simp [lastAsked, LogBus.create]
  · rintro ops bus₁ op bus₂ - ⟨hok, hholds, hsa⟩ hstep
    refine ⟨hok.step hstep, ?_, ?_⟩
    · rw [lastAsked, List.foldl_append]
      exact hholds.step hok hstep
    · rw [lastSa, List.foldl_append, LogBus.threadSa_step hstep, hsa]
      rfl

/-- The entries of a group are those of the bus that ask for it. -/
lemma LogBus.Ok.mem_group {bus : LogBus dbgMax} (h : bus.Ok) {g : Fin dbgMax}
    {e : LogEntry dbgMax} :
    e ∈ (bus.groups g).loggers ↔ e ∈ bus.all ∧ levelSilent < e.levels g := by
  rw [(h.groups g).mem_iff, List.mem_filter, decide_eq_true_iff]

/-! ### The maximum levels -/

/-- The maximum level of each group is no lower than what a logger with the method asks for. -/
def LogBus.Covers (bus : LogBus dbgMax) (m : LogMethod) : Prop :=
  ∀ g, ∀ e ∈ (bus.groups g).loggers, e.logger.implements m = true →
    e.levels g ≤ (bus.groups g).maxLevel m

/-- The first of the loggers implements the method if one of them does. -/
def FirstServes (m : LogMethod) (loggers : List (LogEntry dbgMax)) : Prop :=
  ∀ e ∈ loggers.head?, (∃ e' ∈ loggers, e'.logger.implements m = true) →
    e.logger.implements m = true

/-- Where the operation unregisters a logger, each group it was in is left with a first logger
that implements the method, or with none that does. -/
def LogBus.LeavesFirst (m : LogMethod) (bus : LogBus dbgMax) (op : LogOp dbgMax) : Prop :=
  ∀ logger, (op = .remove logger ∨ ∃ levels, op = .add logger levels) →
    ∀ found ∈ bus.all, found.logger = logger →
      ∀ g, levelSilent < found.levels g → FirstServes m ((bus.groups g).without found)

lemma LogBus.Ok.sorted_without {bus : LogBus dbgMax} (h : bus.Ok) (found : LogEntry dbgMax)
    (g : Fin dbgMax) :
    ((bus.groups g).without found).Pairwise fun a b => b.levels g ≤ a.levels g :=
  (h.sorted g).sublist List.filter_sublist

/-- The level of the first logger is no lower than any other. -/
lemma le_firstLevel {m : LogMethod} {g : Fin dbgMax} {loggers : List (LogEntry dbgMax)}
    (hsorted : loggers.Pairwise fun a b => b.levels g ≤ a.levels g)
    (hfirst : FirstServes m loggers) (level : Level) {e : LogEntry dbgMax} (he : e ∈ loggers)
    (hm : e.logger.implements m = true) : e.levels g ≤ firstLevel m g loggers level := by
  cases loggers with
  | nil => cases he
  | cons first rest =>
    rw [firstLevel, if_pos (hfirst first rfl ⟨e, he, hm⟩)]
    rcases List.mem_cons.mp he with rfl | he
    · exact le_rfl
    · exact (List.pairwise_cons.mp hsorted).1 e he

lemma LogBus.Covers.unregisterLogger {bus : LogBus dbgMax} {m : LogMethod} (h : bus.Covers m)
    (hok : bus.Ok) {logger : Logger}
    (hfirst : ∀ found ∈ bus.all, found.logger = logger →
      ∀ g, levelSilent < found.levels g → FirstServes m ((bus.groups g).without found)) :
    (bus.unregisterLogger logger).Covers m := by
  rw [LogBus.unregisterLogger]
  split
  · exact h
  · rename_i found hfound
    intro g e he hm
    have hmem := List.mem_of_find?_eq_some hfound
    have hlogger : found.logger = logger := by simpa using List.find?_some hfound
    by_cases hg : levelSilent < found.levels g
    · obtain ⟨level, heq⟩ := unregisterGroups_of_mem (fun _ => levelSilent) bus.groups
        (List.nodup_finRange dbgMax) (List.mem_finRange g) hg
      simp only [heq] at he ⊢
      exact le_firstLevel (hok.sorted_without found g) (hfirst found hmem hlogger g hg) (level m)
        he hm
    · simp only [unregisterGroups_of_silent _ _ (Or.inr hg)] at he ⊢
      exact h g e he hm

lemma LogBus.Covers.addLogger {bus : LogBus dbgMax} {m : LogMethod} {logger : Logger}
    (h : (bus.unregisterLogger logger).Covers m) (levels : Fin dbgMax → Level) :
    (bus.addLogger logger levels).Covers m := by
  intro g e he hm
  simp only [LogBus.addLogger] at he ⊢
  split_ifs at he ⊢ with hg
  · simp only [LogGroup.register, List.mem_orderedInsert] at he ⊢
    rcases he with rfl | he
    · rw [if_pos hm]
      exact le_max_right _ _
    · split_ifs
      · exact (h g e he hm).trans (le_max_left _ _)
      · exact h g e he hm
  · exact h g e he hm

/-- A run whose steps leave first loggers that implement the method keeps the maximum levels up. -/
lemma LogBus.run_covers {bus : LogBus dbgMax} {ops : List (LogOp dbgMax)} {m : LogMethod}
    (h : run LogBus.step LogBus.create ops = some bus)
    (hfirst : RunMeets LogBus.step (fun _ bus op => bus.LeavesFirst m op) LogBus.create ops) :
    bus.Covers m := by
  refine (RunMeets.invariant (P := fun bus => bus.Ok ∧ bus.Covers m) ⟨LogBus.ok_create, ?_⟩ ?_
    hfirst h).2
  · intro g e he
    cases he
  · rintro - bus₁ op bus₂ ⟨hok, hcovers⟩ hleaves hstep
    refine ⟨hok.step hstep, ?_⟩
    cases op with
    | add logger levels =>
      rw [LogBus.step, Option.some.injEq] at hstep
      rw [← hstep]
      exact (hcovers.unregisterLogger hok (hleaves logger (Or.inr ⟨levels, rfl⟩))).addLogger levels
    | remove logger =>
      rw [LogBus.step, Option.some.injEq] at hstep
      rw [← hstep]
      exact hcovers.unregisterLogger hok (hleaves logger (Or.inl rfl))
    | setSa thread ikeSa =>
      rw [LogBus.step, Option.some.injEq] at hstep
      exact hstep ▸ hcovers

/-- Where every logger that is registered implements the method, so does the first one left. -/
lemma runMeets_leavesFirst {ops : List (LogOp dbgMax)} {m : LogMethod}
    (h : ∀ logger levels, .add logger levels ∈ ops → logger.implements m = true) :
    RunMeets LogBus.step (fun _ bus op => bus.LeavesFirst m op) LogBus.create ops := by
  have hops : RunMeets LogBus.step (fun _ _ op => ∀ logger levels, op = .add logger levels →
      logger.implements m = true) LogBus.create ops := by
    rintro pre op post bus rfl - logger levels rfl
    exact h logger levels (by simp)
  refine RunMeets.of_invariant (P := fun bus => bus.Ok ∧ ∀ e ∈ bus.all,
    e.logger.implements m = true) ⟨LogBus.ok_create, by simp [LogBus.create]⟩ ?_ ?_ hops
  · rintro - bus op bus' ⟨hok, hall⟩ hop hstep
    refine ⟨hok.step hstep, ?_⟩
    have hleft : ∀ logger, ∀ e ∈ (bus.unregisterLogger logger).all,
        e.logger.implements m = true := by
      intro logger e he
      rw [hok.unregisterLogger_all] at he
      exact hall e (List.mem_filter.mp he).1
    cases op with
    | add logger levels =>
      rw [LogBus.step, Option.some.injEq] at hstep
      subst hstep
      intro e he
      rcases List.mem_append.mp he with he | he
      · exact hleft logger e he
      · rw [List.mem_singleton.mp he]
        exact hop logger levels rfl
    | remove logger =>
      rw [LogBus.step, Option.some.injEq] at hstep
      exact hstep ▸ hleft logger
    | setSa thread ikeSa =>
      rw [LogBus.step, Option.some.injEq] at hstep
      exact hstep ▸ hall
  · rintro - bus op ⟨hok, hall⟩ - logger - found - - g - e he -
    have hmem := List.mem_of_mem_filter (List.mem_of_mem_head? he)
    exact hall e (hok.mem_group.mp hmem).1

/-! ### Who receives a message -/

lemma mem_invokeLoggers {m m' : LogMethod} {data data' : LogData dbgMax} {logger : Logger}
    {loggers : List (LogEntry dbgMax)} :
    ⟨logger, m', data'⟩ ∈ invokeLoggers m data loggers ↔ m' = m ∧ data' = data ∧
      logger.implements m = true ∧
        ∃ e ∈ loggers, e.logger = logger ∧ data.level ≤ e.levels data.group := by
  simp only [invokeLoggers, List.mem_map, List.mem_filter, decide_eq_true_eq, LogCall.mk.injEq]
  constructor
  · rintro ⟨e, ⟨he, hm, hlevel⟩, rfl, rfl, rfl⟩
    exact ⟨rfl, rfl, hm, e, he, rfl, hlevel⟩
  · rintro ⟨rfl, rfl, hm, e, he, rfl, hlevel⟩
    exact ⟨e, ⟨he, hm, hlevel⟩, rfl, rfl, rfl⟩

/-- A call of a method is made if the maximum level lets the message through to it. -/
lemma LogBus.mem_vlog {bus : LogBus dbgMax} {thread : ℕ} {group : Fin dbgMax} {level : Level}
    {message : LogMessage} {logger : Logger} {m : LogMethod} {data : LogData dbgMax} :
    ⟨logger, m, data⟩ ∈ bus.vlog thread group level message ↔
      level ≤ (bus.groups group).maxLevel m ∧ (m = .log → message.text ≠ []) ∧
        ⟨logger, m, data⟩ ∈ invokeLoggers m (bus.logData thread group level message m)
          (bus.groups group).loggers := by
  rw [LogBus.vlog]
  split_ifs with hskip hlog htext hvlog hvlog hvlog <;> cases m <;>
    simp_all [mem_invokeLoggers]

/-- No method of a logger is called twice with one message. -/
lemma LogBus.Ok.nodup_vlog {bus : LogBus dbgMax} (h : bus.Ok) (thread : ℕ) (group : Fin dbgMax)
    (level : Level) (message : LogMessage) : (bus.vlog thread group level message).Nodup := by
  have hnodup : ∀ m, (invokeLoggers m (bus.logData thread group level message m)
      (bus.groups group).loggers).Nodup := by
    intro m
    have hmap : ((bus.groups group).loggers.map (·.logger)).Nodup :=
      ((h.groups group).map _).nodup_iff.mpr (h.logger.sublist (List.filter_sublist.map _))
    refine List.Nodup.map_on ?_ ((List.Nodup.of_map _ hmap).filter _)
    intro e he e' he' heq
    exact List.inj_on_of_nodup_map hmap (List.mem_filter.mp he).1 (List.mem_filter.mp he').1
      (LogCall.mk.inj heq).1
  rw [LogBus.vlog]
  split_ifs
  · exact List.nodup_nil
  · simpa using hnodup .vlog
  · exact List.nodup_nil
  · refine List.nodup_append.mpr ⟨hnodup .log, hnodup .vlog, ?_⟩
    rintro ⟨logger, m, data⟩ hlog ⟨logger', m', data'⟩ hvlog heq
    have hm := (mem_invokeLoggers.mp hlog).1
    have hm' := (mem_invokeLoggers.mp hvlog).1
    rw [(LogCall.mk.inj heq).2.1, hm'] at hm
    cases hm
  · simpa using hnodup .log
  · simpa using hnodup .vlog
  · exact List.nodup_nil

/-- After every run of registrations whose unregistrations leave first loggers that implement the
method, a message is handed by that method, once each, to exactly the loggers that implement it
and asked for its level in its group when they were last registered. -/
theorem LogBus.vlog_exact {ops : List (LogOp dbgMax)} {bus : LogBus dbgMax} {m : LogMethod}
    (hrun : run LogBus.step LogBus.create ops = some bus)
    (hfirst : RunMeets LogBus.step (fun _ bus op => bus.LeavesFirst m op) LogBus.create ops)
    (thread : ℕ) (group : Fin dbgMax) {level : Level} (hlevel : levelSilent < level)
    (message : LogMessage) :
    (bus.vlog thread group level message).Nodup ∧
      ∀ logger data, ⟨logger, m, data⟩ ∈ bus.vlog thread group level message ↔
        logger.implements m = true ∧ (m = .log → message.text ≠ []) ∧
          data = ⟨lastSa ops thread, thread, group, level, message.given m⟩ ∧
            ∃ levels, lastAsked ops logger = some levels ∧ level ≤ levels group := by
  obtain ⟨hok, hholds, hsa⟩ := LogBus.run_holds hrun
  have hcovers := LogBus.run_covers hrun hfirst
  refine ⟨hok.nodup_vlog thread group level message, ?_⟩
  intro logger data
  rw [LogBus.mem_vlog, mem_invokeLoggers, LogBus.logData, hsa]
  constructor
  · rintro ⟨-, htext, -, hdata, hm, e, he, hlogger, hle⟩
    exact ⟨hm, htext, hdata, e.levels,
      (hholds logger e.levels).mpr ⟨e, (hok.mem_group.mp he).1, hlogger, rfl⟩, hle⟩
  · rintro ⟨hm, htext, hdata, levels, hasked, hle⟩
    obtain ⟨e, he, rfl, rfl⟩ := (hholds logger levels).mp hasked
    have hmem := hok.mem_group.mpr ⟨he, hlevel.trans_le hle⟩
    exact ⟨hle.trans (hcovers group e hmem hm), htext, rfl, hdata, hm, e, hmem, rfl, hle⟩

/-- A file logger still gets its messages after the system logger that asked for more is gone. -/
theorem LogBus.vlog_exact_fileLogger :
    ∃ bus : LogBus 2, run LogBus.step LogBus.create
        [.add ⟨1, true, false⟩ fun _ => 1, .add ⟨2, true, false⟩ fun _ => 2, .setSa 7 (some 5),
          .remove ⟨2, true, false⟩] = some bus ∧
      ⟨⟨1, true, false⟩, .log, ⟨some 5, 7, 0, 1, ['h', 'i']⟩⟩ ∈
        bus.vlog 7 0 1 ⟨['%', 's'], ['h', 'i']⟩ := by
  have hfirst : RunMeets LogBus.step (fun _ bus op => bus.LeavesFirst .log op) LogBus.create
      [.add ⟨1, true, false⟩ fun _ : Fin 2 => 1, .add ⟨2, true, false⟩ fun _ => 2,
        .setSa 7 (some 5), .remove ⟨2, true, false⟩] := by
    refine runMeets_leavesFirst fun logger levels h => ?_
    simp only [List.mem_cons, LogOp.add.injEq, reduceCtorEq, List.not_mem_nil, or_false] at h
    rcases h with ⟨rfl, -⟩ | ⟨rfl, -⟩
    · rfl
    · rfl
  refine ⟨_, rfl, ((LogBus.vlog_exact rfl hfirst 7 0 (by decide) ⟨['%', 's'], ['h', 'i']⟩).2
    _ _).mpr ?_⟩
  exact ⟨rfl, by simp, rfl, fun _ => 1, rfl, by decide⟩

/-! ### Loggers of both kinds -/

/-- The variable `level` or `vlevel` of the loop after the groups it came past. -/
def carriedLevel (m : LogMethod) (found : LogEntry dbgMax) (groups : Fin dbgMax → LogGroup dbgMax) :
    List (Fin dbgMax) → Level → Level
  | [], level => level
  | g :: rest, level =>
    carriedLevel m found groups rest
      (if levelSilent < found.levels g then firstLevel m g ((groups g).without found) level
      else level)

lemma carriedLevel_congr {m : LogMethod} {found : LogEntry dbgMax}
    {groups groups' : Fin dbgMax → LogGroup dbgMax} {gs : List (Fin dbgMax)}
    (h : ∀ g ∈ gs, groups g = groups' g) (level : Level) :
    carriedLevel m found groups gs level = carriedLevel m found groups' gs level := by
  induction gs generalizing level with
  | nil => rfl
  | cons g gs ih =>
    rw [carriedLevel, carriedLevel, h g List.mem_cons_self]
    exact ih (fun g' hg' => h g' (List.mem_cons_of_mem _ hg')) _

/-- The maximum that unregistering leaves in a group it comes to. -/
lemma unregisterGroups_maxLevel {found : LogEntry dbgMax} {g : Fin dbgMax}
    {pre post : List (Fin dbgMax)} (hgs : (pre ++ g :: post).Nodup)
    (hg : levelSilent < found.levels g) (level : LogMethod → Level)
    (groups : Fin dbgMax → LogGroup dbgMax) (m : LogMethod) :
    (unregisterGroups found (pre ++ g :: post) level groups g).maxLevel m
      = firstLevel m g ((groups g).without found) (carriedLevel m found groups pre (level m)) := by
  induction pre generalizing level groups with
  | nil =>
    have hnot := (List.nodup_cons.mp hgs).1
    rw [List.nil_append, unregisterGroups, if_pos hg, unregisterGroups_of_silent _ _ (Or.inl hnot),
      Function.update_self]
    rfl
  | cons g' pre ih =>
    obtain ⟨hnot, hgs⟩ := List.nodup_cons.mp hgs
    rw [List.cons_append, unregisterGroups, carriedLevel]
    split_ifs with hg'
    · have hne : g ≠ g' := by
        rintro rfl
        exact hnot (by simp)
      have hpre : ∀ g'' ∈ pre, ∀ group, Function.update groups g' group g'' = groups g'' := by
        intro g'' hmem group
        refine Function.update_of_ne ?_ _ _
        rintro rfl
        exact hnot (List.mem_append_left _ hmem)
      rw [ih hgs, Function.update_of_ne hne, carriedLevel_congr fun g'' hmem => hpre g'' hmem _]
      rfl
    · exact ih hgs _ _

/-- What removing a logger leaves in a group it asked messages of. -/
lemma LogBus.Ok.removeLogger_group {bus : LogBus dbgMax} (h : bus.Ok) {found : LogEntry dbgMax}
    (hfound : found ∈ bus.all) {g : Fin dbgMax} (hg : levelSilent < found.levels g) :
    (bus.removeLogger found.logger).groups g = ⟨(bus.groups g).without found, fun m =>
      firstLevel m g ((bus.groups g).without found)
        (carriedLevel m found bus.groups ((List.finRange dbgMax).take g) levelSilent)⟩ := by
  have hfind : bus.all.find? (·.logger = found.logger) = some found := by
    obtain ⟨e, he⟩ := Option.isSome_iff_exists.mp (List.find?_isSome.mpr
      ⟨found, hfound, by simp⟩ : (bus.all.find? (·.logger = found.logger)).isSome = true)
    have heq : e.logger = found.logger := by simpa using List.find?_some he
    rw [he, List.inj_on_of_nodup_map h.logger (List.mem_of_find?_eq_some he) hfound heq]
  have hsplit : List.finRange dbgMax
      = (List.finRange dbgMax).take g ++ g :: (List.finRange dbgMax).drop (g + 1) := by
    have hlt : (g : ℕ) < (List.finRange dbgMax).length := by simp
    conv_lhs => rw [← List.take_append_drop g (List.finRange dbgMax),
      List.drop_eq_getElem_cons hlt, List.getElem_finRange]
    rfl
  have hnodup := List.nodup_finRange dbgMax
  obtain ⟨level, heq⟩ := unregisterGroups_of_mem (fun _ => levelSilent) bus.groups hnodup
    (List.mem_finRange g) hg
  have hmax : (unregisterGroups found (List.finRange dbgMax) (fun _ => levelSilent) bus.groups
      g).maxLevel = fun m => firstLevel m g ((bus.groups g).without found)
        (carriedLevel m found bus.groups ((List.finRange dbgMax).take g) levelSilent) := by
    funext m
    rw [hsplit] at hnodup
    conv_lhs => rw [hsplit]
    exact unregisterGroups_maxLevel hnodup hg _ _ m
  simp only [LogBus.removeLogger, LogBus.unregisterLogger, hfind]
  rw [heq] at hmax ⊢
  exact congrArg (LogGroup.mk _) hmax

/-- The level of the first logger is no lower than that of any other with the method exactly if
the first one has it, or the level that stays otherwise is no lower. -/
lemma le_firstLevel_iff {m : LogMethod} {g : Fin dbgMax} {loggers : List (LogEntry dbgMax)}
    (hsorted : loggers.Pairwise fun a b => b.levels g ≤ a.levels g) (level : Level) :
    (∀ e ∈ loggers, e.logger.implements m = true → e.levels g ≤ firstLevel m g loggers level) ↔
      FirstServes m loggers ∨
        ∀ e ∈ loggers, e.logger.implements m = true → e.levels g ≤ level := by
  constructor
  · intro h
    cases loggers with
    | nil => exact Or.inr h
    | cons first rest =>
      by_cases hfirst : first.logger.implements m = true
      · refine Or.inl fun e he _ => ?_
        rw [List.head?_cons, Option.mem_some_iff] at he
        exact he ▸ hfirst
      · rw [firstLevel, if_neg hfirst] at h
        exact Or.inr h
  · rintro (hfirst | hlevel) e he hm
    · exact le_firstLevel hsorted hfirst level he hm
    · cases loggers with
      | nil => cases he
      | cons first rest =>
        by_cases hserves : first.logger.implements m = true
        · refine le_firstLevel hsorted (fun e' he' _ => ?_) level he hm
          rw [List.head?_cons, Option.mem_some_iff] at he'
          exact he' ▸ hserves
        · rw [firstLevel, if_neg hserves]
          exact hlevel e he hm

/-- Every logger with the method is called with the messages it asked for in the group. -/
def LogBus.Serves (bus : LogBus dbgMax) (asked : Logger → Option (Fin dbgMax → Level))
    (m : LogMethod) (g : Fin dbgMax) : Prop :=
  ∀ logger levels, asked logger = some levels → logger.implements m = true →
    ∀ thread level message, levelSilent < level → level ≤ levels g →
      (m = .log → message.text ≠ []) →
        ∃ data, ⟨logger, m, data⟩ ∈ bus.vlog thread g level message

/-- In a group that a logger asked messages of, those with the method are all served after it is
removed exactly if the first logger left implements the method, or none of those left that do asks
for more than the loop brings along from the groups before. -/
theorem LogBus.serves_removeLogger_iff {ops : List (LogOp dbgMax)} {bus : LogBus dbgMax}
    (m : LogMethod) (hrun : run LogBus.step LogBus.create ops = some bus) {found : LogEntry dbgMax}
    (hfound : found ∈ bus.all) {g : Fin dbgMax} (hg : levelSilent < found.levels g) :
    (bus.removeLogger found.logger).Serves (lastAsked (ops ++ [.remove found.logger])) m g ↔
      FirstServes m ((bus.groups g).without found) ∨
        ∀ e ∈ (bus.groups g).without found, e.logger.implements m = true →
          e.levels g ≤ carriedLevel m found bus.groups ((List.finRange dbgMax).take g)
            levelSilent := by
  obtain ⟨hok, -, -⟩ := LogBus.run_holds hrun
  have hstep : bus.step (.remove found.logger) = some (bus.removeLogger found.logger) := rfl
  obtain ⟨hok', hholds', -⟩ := LogBus.run_holds (run_concat_eq_some.mpr ⟨bus, hrun, hstep⟩)
  have hgroup := hok.removeLogger_group hfound hg
  rw [← le_firstLevel_iff (hok.sorted_without found g)]
  constructor
  · intro hall e he hm
    have hmem : e ∈ ((bus.removeLogger found.logger).groups g).loggers := by
      rw [hgroup]
      exact he
    obtain ⟨hin, hlevel⟩ := hok'.mem_group.mp hmem
    have hasked := (hholds' e.logger e.levels).mpr ⟨e, hin, rfl, rfl⟩
    obtain ⟨data, hcall⟩ := hall e.logger e.levels hasked hm 0 (e.levels g) ⟨['a'], ['a']⟩ hlevel
      le_rfl (by simp)
    have hle := (LogBus.mem_vlog.mp hcall).1
    rw [hgroup] at hle
    exact hle
  · rintro hcond logger levels hasked hm thread level message hlevel hle htext
    obtain ⟨e, he, rfl, rfl⟩ := (hholds' logger levels).mp hasked
    have hmem := hok'.mem_group.mpr ⟨he, hlevel.trans_le hle⟩
    refine ⟨_, LogBus.mem_vlog.mpr ⟨?_, htext, mem_invokeLoggers.mpr
      ⟨rfl, rfl, hm, e, hmem, rfl, hle⟩⟩⟩
    rw [hgroup] at hmem ⊢
    exact hle.trans (hcond e hmem hm)

/-- A file logger under a logger without `log`: when a third one goes, nothing is logged to the
file any more. -/
theorem LogBus.not_serves_fileLogger :
    ∃ (ops : List (LogOp 1)) (bus : LogBus 1) (found : LogEntry 1),
      run LogBus.step LogBus.create ops = some bus ∧ found ∈ bus.all ∧
        ¬ (bus.removeLogger found.logger).Serves (lastAsked (ops ++ [.remove found.logger]))
          .log 0 := by
  have hbus : ∃ bus : LogBus 1, run LogBus.step LogBus.create [.add ⟨1, true, false⟩ fun _ => 1,
      .add ⟨2, false, true⟩ fun _ => 2, .add ⟨3, true, false⟩ fun _ => 0] = some bus ∧
        ⟨2, ⟨3, true, false⟩, fun _ => 0⟩ ∈ bus.all ∧
          (bus.groups 0).without ⟨2, ⟨3, true, false⟩, fun _ => 0⟩
            = [⟨1, ⟨2, false, true⟩, fun _ => 2⟩, ⟨0, ⟨1, true, false⟩, fun _ => 1⟩] :=
    ⟨_, rfl, List.mem_append_right _ (List.mem_singleton_self _), rfl⟩
  obtain ⟨bus, hrun, hfound, hleft⟩ := hbus
  refine ⟨_, bus, _, hrun, hfound, ?_⟩
  rw [LogBus.serves_removeLogger_iff .log hrun hfound (by decide), hleft]
  rintro (hfirst | hcarried)
  · have hserves := hfirst _ rfl ⟨⟨0, ⟨1, true, false⟩, fun _ => 1⟩, by simp, rfl⟩
    cases hserves
  · have hle : (1 : Level) ≤ levelSilent :=
      hcarried ⟨0, ⟨1, true, false⟩, fun _ => 1⟩ (by simp) rfl
    revert hle
    decide

end SecuredApp
