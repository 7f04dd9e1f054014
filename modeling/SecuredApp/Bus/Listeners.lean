import SecuredApp.Core.Run
import SecuredApp.Core.Walk

/-!
# The listeners of the bus

`add_listener`, `remove_listener` and the methods of the bus that call a hook of every listener.
The mutex is recursive: a hook runs on the thread that holds it and may call the bus again, so a
walk over the listeners may be under way inside the hook of another one. Each pass of a loop, and
each return of a hook, is a step; what a hook does with the bus are steps in between.
-/

namespace SecuredApp

open SecuredApp.Core

/-- The hooks of a `listener_t`. -/
inductive Hook where
  | alert
  | ikeStateChange
  | childStateChange
  | message
  | ikeKeys
  | childKeys
  | childUpdown
  | childRekey
  | childrenMigrate
  | ikeUpdown
  | ikeRekey
  | ikeUpdate
  | ikeReestablishPre
  | ikeReestablishPost
  | authorize
  | narrow
  | assignVips
  | handleVips
deriving DecidableEq

/-- A `listener_t`: where it is, and which of its hooks are set. -/
structure Listener where
  addr : ℕ
  hooks : List Hook
deriving DecidableEq

/-- An `entry_t`, with the number of its registration in place of its address. -/
structure ListenerEntry where
  id : ℕ
  listener : Listener
  calling : ℕ
deriving DecidableEq

/-- A walk over the listeners that is under way: the hook it calls with its argument, where its
enumerator is, whether it is between `calling++` and `calling--`, and `success`. The fields
`reached`, below which every registration has had its turn, and `called`, whom it called, are not
in the source. -/
structure Raise (α : Type*) where
  hook : Hook
  arg : α
  current : Option ℕ
  inCall : Bool
  success : Bool
  reached : ℕ
  called : List ℕ

/-- The bus: its listeners, the thread that holds the mutex with its walks, innermost first, and
the number of the next registration. It has crashed once it touched an entry that was freed. The
walks that ended, newest first, are not in the source. -/
structure Bus (α : Type*) where
  listeners : List ListenerEntry
  holder : Option ℕ
  raises : List (Raise α)
  next : ℕ
  crashed : Bool
  ended : List (Raise α)

variable {α : Type*}

/-- The thread is outside the code of the bus, and gets the mutex if it asks for it. -/
def Bus.runs (bus : Bus α) (thread : ℕ) : Bool :=
  match bus.holder, bus.raises with
  | none, _ => true
  | some _, [] => false
  | some holder, r :: _ => holder = thread && r.inCall

def Bus.addListener (bus : Bus α) (listener : Listener) : Bus α :=
  { bus with listeners := bus.listeners ++ [⟨bus.next, listener, 0⟩], next := bus.next + 1 }

def Bus.removeListener (bus : Bus α) (listener : Listener) : Bus α :=
  { bus with listeners := bus.listeners.eraseP (·.listener = listener) }

/-- What the methods of the bus that call a hook begin with. -/
def Bus.raise (bus : Bus α) (thread : ℕ) (hook : Hook) (arg : α) : Bus α :=
  { bus with
    holder := some thread
    raises := ⟨hook, arg, none, false, true, 0, []⟩ :: bus.raises }

/-- The end of the innermost walk: the mutex is unlocked. -/
def Bus.endRaise (bus : Bus α) (r : Raise α) (outer : List (Raise α)) : Bus α :=
  { bus with
    holder := if outer.isEmpty then none else bus.holder
    raises := outer
    ended := r :: bus.ended }

/-- Change what the entry says of the calls of it. -/
def setCalling (f : ℕ → ℕ) (id : ℕ) (listeners : List ListenerEntry) : List ListenerEntry :=
  listeners.map fun e => if e.id = id then { e with calling := f e.calling } else e

/-- A pass of the loop of the innermost walk, up to the call of the hook. -/
def Bus.enumerate (bus : Bus α) (r : Raise α) (outer : List (Raise α)) : Bus α :=
  match nextAt (·.id) r.current bus.listeners with
  | none => bus.endRaise r outer
  | some e =>
    let r := { r with current := some e.id, reached := e.id + 1 }
    if e.calling ≠ 0 ∨ r.hook ∉ e.listener.hooks then { bus with raises := r :: outer }
    else
      { bus with
        listeners := setCalling (· + 1) e.id bus.listeners
        raises := { r with inCall := true, called := r.called ++ [e.id] } :: outer }

/-- The return of the hook that the innermost walk calls, with what it returns and, for
`authorize`, leaves in `success`. -/
def Bus.ret (bus : Bus α) (r : Raise α) (outer : List (Raise α)) (keep success : Bool) : Bus α :=
  match bus.listeners.find? (r.current = some ·.id) with
  | none => { bus with crashed := true }
  | some e =>
    let listeners := setCalling (· - 1) e.id bus.listeners
    let success := if r.hook = .authorize then success else r.success
    -- `unregister_listener` moves the enumerator back by one
    let listeners' := if keep then listeners else listeners.filter (·.id ≠ e.id)
    let current := if keep then r.current else prevAt (·.id) e.id listeners
    let r := { r with inCall := false, success := success, current := current }
    let bus := { bus with listeners := listeners' }
    if success then { bus with raises := r :: outer } else bus.endRaise r outer

/-- What a thread does with the bus, or a hook that was called returns. -/
inductive BusOp (α : Type*) where
  | add (thread : ℕ) (listener : Listener)
  | remove (thread : ℕ) (listener : Listener)
  | raise (thread : ℕ) (hook : Hook) (arg : α)
  | enumerate (thread : ℕ)
  | ret (thread : ℕ) (keep success : Bool)

def Bus.step (bus : Bus α) (op : BusOp α) : Option (Bus α) :=
  if bus.crashed then none
  else
    match op with
    | .add thread listener => if bus.runs thread then some (bus.addListener listener) else none
    | .remove thread listener =>
      if bus.runs thread then some (bus.removeListener listener) else none
    | .raise thread hook arg => if bus.runs thread then some (bus.raise thread hook arg) else none
    | .enumerate thread =>
      match bus.raises with
      | [] => none
      | r :: outer =>
        if bus.holder = some thread ∧ r.inCall = false then some (bus.enumerate r outer) else none
    | .ret thread keep success =>
      match bus.raises with
      | [] => none
      | r :: outer =>
        if bus.holder = some thread ∧ r.inCall = true then some (bus.ret r outer keep success)
        else none

/-- `bus_create`. -/
def Bus.create : Bus α where
  listeners := []
  holder := none
  raises := []
  next := 0
  crashed := false
  ended := []

/-! ### What a step can do -/

/-- The walk stands before, at or behind its next listener, that was `e`. -/
def Raise.moved (r : Raise α) (e : ListenerEntry) : Raise α :=
  { r with current := some e.id, reached := e.id + 1 }

/-- The walk is in the call of the hook of `e`. -/
def Raise.entered (r : Raise α) (e : ListenerEntry) : Raise α :=
  { r with current := some e.id, reached := e.id + 1, inCall := true, called := r.called ++ [e.id] }

/-- The walk after the hook it called returned. -/
def Raise.left (r : Raise α) (current : Option ℕ) (success : Bool) : Raise α :=
  { r with inCall := false, success := success, current := current }

/-- The listeners after the hook of `e` returned. -/
def leftListeners (listeners : List ListenerEntry) (e : ListenerEntry) (keep : Bool) :
    List ListenerEntry :=
  if keep then setCalling (· - 1) e.id listeners
  else (setCalling (· - 1) e.id listeners).filter (·.id ≠ e.id)

/-- The steps of the bus, as a relation. -/
inductive Bus.Step (bus : Bus α) : BusOp α → Bus α → Prop
  | add {thread listener} (hruns : bus.runs thread = true) :
      Step bus (.add thread listener) (bus.addListener listener)
  | remove {thread listener} (hruns : bus.runs thread = true) :
      Step bus (.remove thread listener) (bus.removeListener listener)
  | raise {thread hook arg} (hruns : bus.runs thread = true) :
      Step bus (.raise thread hook arg) (bus.raise thread hook arg)
  | done {thread r outer} (hraises : bus.raises = r :: outer) (hcall : r.inCall = false)
      (hnext : nextAt (·.id) r.current bus.listeners = none) :
      Step bus (.enumerate thread) (bus.endRaise r outer)
  | skip {thread r outer e} (hraises : bus.raises = r :: outer) (hcall : r.inCall = false)
      (hnext : nextAt (·.id) r.current bus.listeners = some e)
      (hskip : e.calling ≠ 0 ∨ r.hook ∉ e.listener.hooks) :
      Step bus (.enumerate thread) { bus with raises := r.moved e :: outer }
  | call {thread r outer e} (hraises : bus.raises = r :: outer) (hcall : r.inCall = false)
      (hnext : nextAt (·.id) r.current bus.listeners = some e)
      (hcalling : e.calling = 0) (hhook : r.hook ∈ e.listener.hooks) :
      Step bus (.enumerate thread)
        { bus with
          listeners := setCalling (· + 1) e.id bus.listeners
          raises := r.entered e :: outer }
  | crash {thread keep success r outer} (hraises : bus.raises = r :: outer)
      (hcall : r.inCall = true)
      (hfree : bus.listeners.find? (r.current = some ·.id) = none) :
      Step bus (.ret thread keep success) { bus with crashed := true }
  | stay {thread keep success r outer e current} (hraises : bus.raises = r :: outer)
      (hcall : r.inCall = true) (he : e ∈ bus.listeners) (hcurrent : r.current = some e.id)
      (hpos : current = if keep then some e.id
        else prevAt (·.id) e.id (setCalling (· - 1) e.id bus.listeners)) :
      Step bus (.ret thread keep success)
        { bus with
          listeners := leftListeners bus.listeners e keep
          raises := r.left current true :: outer }
  | leave {thread keep success r outer e current} (hraises : bus.raises = r :: outer)
      (hcall : r.inCall = true) (he : e ∈ bus.listeners) (hcurrent : r.current = some e.id) :
      Step bus (.ret thread keep success)
        ({ bus with listeners := leftListeners bus.listeners e keep }.endRaise
          (r.left current false) outer)

lemma Bus.step_sound {bus bus' : Bus α} {op : BusOp α} (h : bus.step op = some bus') :
    bus.crashed = false ∧ Bus.Step bus op bus' := by
  unfold Bus.step at h
  split_ifs at h with hcrashed
  refine ⟨by simpa using hcrashed, ?_⟩
  cases op with
  | add thread listener =>
    simp only at h
    split_ifs at h with hruns
    exact Option.some.inj h ▸ .add hruns
  | remove thread listener =>
    simp only at h
    split_ifs at h with hruns
    exact Option.some.inj h ▸ .remove hruns
  | raise thread hook arg =>
    simp only at h
    split_ifs at h with hruns
    exact Option.some.inj h ▸ .raise hruns
  | enumerate thread =>
    cases hraises : bus.raises with
    | nil => simp [hraises] at h
    | cons r outer =>
      simp only [hraises] at h
      split_ifs at h with hguard
      rw [Option.some.injEq, Bus.enumerate] at h
      cases hnext : nextAt (·.id) r.current bus.listeners with
      | none =>
        simp only [hnext] at h
        exact h ▸ .done hraises hguard.2 hnext
      | some e =>
        simp only [hnext] at h
        split_ifs at h with hskip
        · exact h ▸ .skip hraises hguard.2 hnext hskip
        · rw [not_or, not_not, not_not] at hskip
          exact h ▸ .call hraises hguard.2 hnext hskip.1 hskip.2
  | ret thread keep success =>
    cases hraises : bus.raises with
    | nil => simp [hraises] at h
    | cons r outer =>
      simp only [hraises] at h
      split_ifs at h with hguard
      rw [Option.some.injEq, Bus.ret] at h
      cases hfind : bus.listeners.find? (r.current = some ·.id) with
      | none =>
        simp only [hfind] at h
        exact h ▸ .crash hraises hguard.2 hfind
      | some e =>
        have he := List.mem_of_find?_eq_some hfind
        have hcurrent : r.current = some e.id := by simpa using List.find?_some hfind
        simp only [hfind] at h
        cases hsuccess : (if r.hook = .authorize then success else r.success) with
        | true =>
          rw [hsuccess, if_pos rfl] at h
          have hstep : Bus.Step bus (.ret thread keep success) _ := .stay hraises hguard.2 he
            hcurrent rfl
          simpa only [← h, leftListeners, Raise.left, ← hcurrent] using hstep
        | false =>
          rw [hsuccess, if_neg Bool.false_ne_true] at h
          exact h ▸ .leave hraises hguard.2 he hcurrent

end SecuredApp
