import SecuredApp.Core.Run
import SecuredApp.Core.Walk
import Mathlib.Data.List.Sort

/-!
# The loggers of the bus

`add_logger`, `remove_logger`, `set_sa` and `vlog` of the bus. A logger is registered in the list
of each log group it wants messages of, highest level first, and the bus keeps the maximum level
of each group to skip what nobody asks for. The lists of libstrongswan are `List`s, the debug
groups are the numbers below `DBG_MAX`, and the operations are atomic, as the write lock makes
them.
-/

namespace SecuredApp

open SecuredApp.Core

abbrev Level := Int

/-- `LEVEL_SILENT`. -/
def levelSilent : Level := -1

/-- The two methods of a logger that take messages, both of them optional. -/
inductive LogMethod where
  | log
  | vlog
deriving DecidableEq

/-- A `logger_t`: where it is, and which of its methods are set. -/
structure Logger where
  addr : ℕ
  log : Bool
  vlog : Bool
deriving DecidableEq

def Logger.implements (logger : Logger) : LogMethod → Bool
  | .log => logger.log
  | .vlog => logger.vlog

/-- A `log_entry_t`, with the address it was allocated at. -/
structure LogEntry (dbgMax : ℕ) where
  addr : ℕ
  logger : Logger
  levels : Fin dbgMax → Level

/-- The loggers of one group and its maximum levels, `max_level` and `max_vlevel`. -/
structure LogGroup (dbgMax : ℕ) where
  loggers : List (LogEntry dbgMax)
  maxLevel : LogMethod → Level

/-- What the bus keeps of its loggers. The list `all` is `loggers[DBG_MAX]`, and `next` is the
address of the next entry. -/
structure LogBus (dbgMax : ℕ) where
  groups : Fin dbgMax → LogGroup dbgMax
  all : List (LogEntry dbgMax)
  threadSa : ℕ → Option ℕ
  next : ℕ

/-- What a logger is told, `log_data_t`. -/
structure LogData (dbgMax : ℕ) where
  ikeSa : Option ℕ
  thread : ℕ
  group : Fin dbgMax
  level : Level
  message : List Char
deriving DecidableEq

/-- A message: the format of it, and what `vsnprintf` makes of the format and its arguments. -/
structure LogMessage where
  format : List Char
  text : List Char

/-- What the method is given of a message. -/
def LogMessage.given (message : LogMessage) : LogMethod → List Char
  | .log => message.text
  | .vlog => message.format

/-- A call of one of the methods of a logger. -/
structure LogCall (dbgMax : ℕ) where
  logger : Logger
  method : LogMethod
  data : LogData dbgMax
deriving DecidableEq

variable {dbgMax : ℕ}

/-- `register_logger` in the group: before the first entry that does not want more. -/
def LogGroup.register (group : LogGroup dbgMax) (g : Fin dbgMax) (entry : LogEntry dbgMax) :
    LogGroup dbgMax where
  loggers := group.loggers.orderedInsert (fun a b => b.levels g ≤ a.levels g) entry
  maxLevel m :=
    if entry.logger.implements m then max (group.maxLevel m) (entry.levels g)
    else group.maxLevel m

/-- The level of the first logger left in a group if it implements the method. -/
def firstLevel (m : LogMethod) (g : Fin dbgMax) : List (LogEntry dbgMax) → Level → Level
  | [], level => level
  | entry :: _, level => if entry.logger.implements m then entry.levels g else level

/-- The loop of `unregister_logger` over the groups. Its variables `level` and `vlevel` are set
once, before the first group. -/
def unregisterGroups (found : LogEntry dbgMax) :
    List (Fin dbgMax) → (LogMethod → Level) → (Fin dbgMax → LogGroup dbgMax) →
      Fin dbgMax → LogGroup dbgMax
  | [], _, groups => groups
  | g :: rest, level, groups =>
    if levelSilent < found.levels g then
      let left := (groups g).loggers.filter (·.addr ≠ found.addr)
      let level := fun m => firstLevel m g left (level m)
      unregisterGroups found rest level (Function.update groups g ⟨left, level⟩)
    else unregisterGroups found rest level groups

/-- `unregister_logger`. -/
def LogBus.unregisterLogger (bus : LogBus dbgMax) (logger : Logger) : LogBus dbgMax :=
  match bus.all.find? (·.logger = logger) with
  | none => bus
  | some found =>
    { bus with
      all := bus.all.eraseP (·.logger = logger)
      groups := unregisterGroups found (List.finRange dbgMax) (fun _ => levelSilent) bus.groups }

/-- `add_logger`, for a logger whose `get_level` answers `levels`. Each pass of the loop over the
groups touches its own group only. -/
def LogBus.addLogger (bus : LogBus dbgMax) (logger : Logger) (levels : Fin dbgMax → Level) :
    LogBus dbgMax :=
  let bus := bus.unregisterLogger logger
  let entry : LogEntry dbgMax := ⟨bus.next, logger, levels⟩
  { bus with
    groups := fun g =>
      if levelSilent < levels g then (bus.groups g).register g entry else bus.groups g
    all := bus.all ++ [entry]
    next := bus.next + 1 }

def LogBus.removeLogger (bus : LogBus dbgMax) (logger : Logger) : LogBus dbgMax :=
  bus.unregisterLogger logger

def LogBus.setSa (bus : LogBus dbgMax) (thread : ℕ) (ikeSa : Option ℕ) : LogBus dbgMax :=
  { bus with threadSa := Function.update bus.threadSa thread ikeSa }

/-- `log_cb` and `vlog_cb` over the loggers of a group. -/
def invokeLoggers (m : LogMethod) (data : LogData dbgMax) (loggers : List (LogEntry dbgMax)) :
    List (LogCall dbgMax) :=
  (loggers.filter fun e => e.logger.implements m ∧ data.level ≤ e.levels data.group).map
    fun e => ⟨e.logger, m, data⟩

def LogBus.logData (bus : LogBus dbgMax) (thread : ℕ) (group : Fin dbgMax) (level : Level)
    (message : LogMessage) (m : LogMethod) : LogData dbgMax :=
  ⟨bus.threadSa thread, thread, group, level, message.given m⟩

/-- `vlog` of the bus: the calls it makes of the methods of its loggers. -/
def LogBus.vlog (bus : LogBus dbgMax) (thread : ℕ) (group : Fin dbgMax) (level : Level)
    (message : LogMessage) : List (LogCall dbgMax) :=
  let g := bus.groups group
  if g.maxLevel .log < level ∧ g.maxLevel .vlog < level then []
  else
    (if level ≤ g.maxLevel .log then
      if message.text = [] then []
      else invokeLoggers .log (bus.logData thread group level message .log) g.loggers
    else []) ++
    if level ≤ g.maxLevel .vlog then
      invokeLoggers .vlog (bus.logData thread group level message .vlog) g.loggers
    else []

/-- `bus_create`. -/
def LogBus.create : LogBus dbgMax where
  groups _ := ⟨[], fun _ => levelSilent⟩
  all := []
  threadSa _ := none
  next := 0

/-- What the bus is asked to do with its loggers. -/
inductive LogOp (dbgMax : ℕ) where
  | add (logger : Logger) (levels : Fin dbgMax → Level)
  | remove (logger : Logger)
  | setSa (thread : ℕ) (ikeSa : Option ℕ)

def LogBus.step (bus : LogBus dbgMax) : LogOp dbgMax → Option (LogBus dbgMax)
  | .add logger levels => some (bus.addLogger logger levels)
  | .remove logger => some (bus.removeLogger logger)
  | .setSa thread ikeSa => some (bus.setSa thread ikeSa)

/-! ### What unregistering does to a group -/

/-- The loggers left in group `g` without the entry `found`. -/
def LogGroup.without (group : LogGroup dbgMax) (found : LogEntry dbgMax) :
    List (LogEntry dbgMax) :=
  group.loggers.filter (·.addr ≠ found.addr)

/-- A group the loop does not come to, or that the entry is silent in, stays as it is. -/
lemma unregisterGroups_of_silent {found : LogEntry dbgMax} {g : Fin dbgMax}
    {gs : List (Fin dbgMax)} (level : LogMethod → Level) (groups : Fin dbgMax → LogGroup dbgMax)
    (h : g ∉ gs ∨ ¬ levelSilent < found.levels g) :
    unregisterGroups found gs level groups g = groups g := by
  induction gs generalizing level groups with
  | nil => rfl
  | cons g' gs ih =>
    have hrest : g ∉ gs ∨ ¬ levelSilent < found.levels g :=
      h.imp_left fun hg hmem => hg (List.mem_cons_of_mem _ hmem)
    rw [unregisterGroups]
    split_ifs with hg'
    · have hne : g ≠ g' := by
        rintro rfl
        rcases h with h | h
        · exact h List.mem_cons_self
        · exact h hg'
      rw [ih _ _ hrest, Function.update_of_ne hne]
    · exact ih _ _ hrest

/-- In a group the loop comes to, the entry goes, and the maximum is the level of the first logger
left or one the loop brings along. -/
lemma unregisterGroups_of_mem {found : LogEntry dbgMax} {g : Fin dbgMax} {gs : List (Fin dbgMax)}
    (level : LogMethod → Level) (groups : Fin dbgMax → LogGroup dbgMax) (hgs : gs.Nodup)
    (hmem : g ∈ gs) (hg : levelSilent < found.levels g) :
    ∃ level' : LogMethod → Level, unregisterGroups found gs level groups g
      = ⟨(groups g).without found,
          fun m => firstLevel m g ((groups g).without found) (level' m)⟩ := by
  induction gs generalizing level groups with
  | nil => cases hmem
  | cons g' gs ih =>
    obtain ⟨hnot, hgs⟩ := List.nodup_cons.mp hgs
    rw [unregisterGroups]
    rcases List.mem_cons.mp hmem with rfl | hin
    · refine ⟨level, ?_⟩
      rw [if_pos hg, unregisterGroups_of_silent _ _ (Or.inl hnot), Function.update_self]
      rfl
    · split_ifs with hg'
      · have hne : g ≠ g' := by
          rintro rfl
          exact hnot hin
        obtain ⟨level', heq⟩ := ih _ (Function.update groups g' _) hgs hin
        rw [Function.update_of_ne hne] at heq
        exact ⟨level', heq⟩
      · exact ih _ _ hgs hin

/-! ### The invariant of the lists -/

/-- What holds of the lists of the bus in every run: one entry for each logger, at its own
address, and in each group the entries that want messages of it, highest level first. -/
structure LogBus.Ok (bus : LogBus dbgMax) : Prop where
  logger : (bus.all.map (·.logger)).Nodup
  addr : (bus.all.map (·.addr)).Nodup
  fresh : ∀ e ∈ bus.all, e.addr < bus.next
  groups : ∀ g, (bus.groups g).loggers.Perm (bus.all.filter fun e => levelSilent < e.levels g)
  sorted : ∀ g, (bus.groups g).loggers.Pairwise fun a b => b.levels g ≤ a.levels g

/-- Unregistering takes the entry of the logger out, if there is one. -/
lemma LogBus.Ok.unregisterLogger_all {bus : LogBus dbgMax} (h : bus.Ok) (logger : Logger) :
    (bus.unregisterLogger logger).all = bus.all.filter fun e => e.logger ≠ logger := by
  rw [LogBus.unregisterLogger]
  split
  · rename_i hnone
    refine (List.filter_eq_self.mpr ?_).symm
    intro e he
    simpa using List.find?_eq_none.mp hnone e he
  · rename_i found hfound
    have hlogger : found.logger = logger := by simpa using List.find?_some hfound
    simpa [hlogger] using eraseP_eq_filter_key h.logger hfound

lemma LogBus.Ok.unregisterLogger {bus : LogBus dbgMax} (h : bus.Ok) (logger : Logger) :
    (bus.unregisterLogger logger).Ok := by
  rw [LogBus.unregisterLogger]
  split
  · exact h
  · rename_i found hfound
    have herase := eraseP_eq_filter_key h.addr hfound
    have hsub : (bus.all.filter (·.addr ≠ found.addr)).Sublist bus.all := List.filter_sublist
    refine ⟨?_, ?_, ?_, ?_, ?_⟩ <;> simp only [herase]
    · exact h.logger.sublist (hsub.map _)
    · exact h.addr.sublist (hsub.map _)
    · exact fun e he => h.fresh e (hsub.subset he)
    · intro g
      by_cases hg : levelSilent < found.levels g
      · obtain ⟨level, heq⟩ := unregisterGroups_of_mem (fun _ => levelSilent) bus.groups
          (List.nodup_finRange dbgMax) (List.mem_finRange g) hg
        rw [heq, LogGroup.without, List.filter_comm]
        exact (h.groups g).filter _
      · rw [unregisterGroups_of_silent _ _ (Or.inr hg), List.filter_comm]
        refine (h.groups g).trans (List.Perm.of_eq (List.filter_eq_self.mpr ?_).symm)
        intro e he
        obtain ⟨hmem, hlevel⟩ := List.mem_filter.mp he
        rw [decide_eq_true_iff] at hlevel ⊢
        intro haddr
        have heq := List.inj_on_of_nodup_map h.addr hmem (List.mem_of_find?_eq_some hfound) haddr
        exact hg (heq ▸ hlevel)
    · intro g
      by_cases hg : levelSilent < found.levels g
      · obtain ⟨level, heq⟩ := unregisterGroups_of_mem (fun _ => levelSilent) bus.groups
          (List.nodup_finRange dbgMax) (List.mem_finRange g) hg
        rw [heq]
        exact (h.sorted g).sublist List.filter_sublist
      · rw [unregisterGroups_of_silent _ _ (Or.inr hg)]
        exact h.sorted g

/-- Registering keeps a group sorted. -/
lemma sorted_orderedInsert {g : Fin dbgMax} {l : List (LogEntry dbgMax)}
    (h : l.Pairwise fun a b => b.levels g ≤ a.levels g) (entry : LogEntry dbgMax) :
    (l.orderedInsert (fun a b => b.levels g ≤ a.levels g) entry).Pairwise
      fun a b => b.levels g ≤ a.levels g := by
  have : Std.Total fun a b : LogEntry dbgMax => b.levels g ≤ a.levels g :=
    ⟨fun a b => le_total (b.levels g) (a.levels g)⟩
  have : IsTrans (LogEntry dbgMax) fun a b => b.levels g ≤ a.levels g :=
    ⟨fun _ _ _ hab hbc => hbc.trans hab⟩
  exact h.orderedInsert entry l

lemma LogBus.Ok.addLogger {bus : LogBus dbgMax} (h : bus.Ok) (logger : Logger)
    (levels : Fin dbgMax → Level) : (bus.addLogger logger levels).Ok := by
  have h' := h.unregisterLogger logger
  have hall := h.unregisterLogger_all logger
  set bus' := bus.unregisterLogger logger
  have hfresh : ∀ e ∈ bus'.all, e.addr ≠ bus'.next := fun e he => (h'.fresh e he).ne
  refine ⟨?_, ?_, ?_, ?_, ?_⟩
  · simp only [LogBus.addLogger, List.map_append, List.map_cons, List.map_nil]
    refine List.nodup_append.mpr ⟨h'.logger, List.nodup_singleton _, ?_⟩
    intro l hl l' hl' heq
    obtain ⟨e, he, rfl⟩ := List.mem_map.mp hl
    have hne : e.logger ≠ logger := by
      rw [hall] at he
      simpa using (List.mem_filter.mp he).2
    exact hne (heq.trans (List.mem_singleton.mp hl'))
  · simp only [LogBus.addLogger, List.map_append, List.map_cons, List.map_nil]
    refine List.nodup_append.mpr ⟨h'.addr, List.nodup_singleton _, ?_⟩
    intro a ha a' ha' heq
    obtain ⟨e, he, rfl⟩ := List.mem_map.mp ha
    exact hfresh e he (heq.trans (List.mem_singleton.mp ha'))
  · intro e he
    rcases List.mem_append.mp he with he | he
    · exact (h'.fresh e he).trans (Nat.lt_succ_self _)
    · rw [List.mem_singleton.mp he]
      exact Nat.lt_succ_self _
  · intro g
    simp only [LogBus.addLogger, List.filter_append]
    split_ifs with hg
    · refine ((List.perm_orderedInsert _ _ _).trans ?_).trans List.perm_append_comm
      rw [List.filter_cons_of_pos (by simpa using hg), List.filter_nil]
      exact (h'.groups g).cons _
    · rw [List.filter_cons_of_neg (by simpa using hg), List.filter_nil, List.append_nil]
      exact h'.groups g
  · intro g
    simp only [LogBus.addLogger]
    split_ifs with hg
    · exact sorted_orderedInsert (h'.sorted g) _
    · exact h'.sorted g

lemma LogBus.ok_create : (LogBus.create : LogBus dbgMax).Ok where
  logger := List.nodup_nil
  addr := List.nodup_nil
  fresh := by simp [LogBus.create]
  groups := by simp [LogBus.create]
  sorted := by simp [LogBus.create]

lemma LogBus.Ok.step {bus bus' : LogBus dbgMax} {op : LogOp dbgMax} (h : bus.Ok)
    (hstep : bus.step op = some bus') : bus'.Ok := by
  cases op with
  | add logger levels =>
    rw [LogBus.step, Option.some.injEq] at hstep
    exact hstep ▸ h.addLogger logger levels
  | remove logger =>
    rw [LogBus.step, Option.some.injEq] at hstep
    exact hstep ▸ h.unregisterLogger logger
  | setSa thread ikeSa =>
    rw [LogBus.step, Option.some.injEq] at hstep
    exact hstep ▸ ⟨h.logger, h.addr, h.fresh, h.groups, h.sorted⟩

end SecuredApp
