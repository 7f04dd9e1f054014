import SecuredApp.Attest.Authorize
import SecuredApp.Bus.Walks

/-!
# Hooks that leave the bus alone

A hook that does not call the bus is a function of the state of the program. A walk over such
hooks is a recursion over the listeners; for `authorize` it is the loop the verdict of the
oat-attest plugin goes through.
-/

namespace SecuredApp

open SecuredApp.Core

variable {α σ : Type*}

/-- What the hooks of the listeners do, given their argument and `success`: the state after, whether
the listener stays registered, and `success` after. -/
abbrev HookFun (α σ : Type*) := Listener → Hook → α → σ → Bool → σ × Bool × Bool

variable (hooks : HookFun α σ)

/-- What a thread in a walk does next: its hook returns, or its loop goes on. -/
def Bus.walkStep (thread : ℕ) (w : Bus α × σ) (_ : Unit) : Option (Bus α × σ) :=
  match w.1.raises with
  | [] => none
  | r :: _ =>
    if r.inCall then
      match w.1.listeners.find? (r.current = some ·.id) with
      | none => none
      | some e =>
        let done := hooks e.listener r.hook r.arg w.2 r.success
        (w.1.step (.ret thread done.2.1 done.2.2)).map fun bus => (bus, done.1)
    else (w.1.step (.enumerate thread)).map fun bus => (bus, w.2)

/-- A walk over the listeners: those that stay, the state, and `success`. -/
def walkListeners (hook : Hook) (arg : α) :
    List ListenerEntry → σ → List ListenerEntry × σ × Bool
  | [], s => ([], s, true)
  | e :: rest, s =>
    if e.calling ≠ 0 ∨ hook ∉ e.listener.hooks then
      let walked := walkListeners hook arg rest s
      (e :: walked.1, walked.2)
    else
      let done := hooks e.listener hook arg s true
      let mine := if done.2.1 then [e] else []
      if hook = .authorize ∧ done.2.2 = false then (mine ++ rest, done.1, false)
      else
        let walked := walkListeners hook arg rest done.1
        (mine ++ walked.1, walked.2)

variable {hooks}

lemma Bus.step_enumerate {bus : Bus α} {r : Raise α} {outer : List (Raise α)} {thread : ℕ}
    (hcrashed : bus.crashed = false) (hholder : bus.holder = some thread)
    (hraises : bus.raises = r :: outer) (hcall : r.inCall = false) :
    bus.step (.enumerate thread) = some (bus.enumerate r outer) := by
  simp [Bus.step, hcrashed, hholder, hraises, hcall]

lemma Bus.step_ret {bus : Bus α} {r : Raise α} {outer : List (Raise α)} {thread : ℕ}
    (hcrashed : bus.crashed = false) (hholder : bus.holder = some thread)
    (hraises : bus.raises = r :: outer) (hcall : r.inCall = true) (keep success : Bool) :
    bus.step (.ret thread keep success) = some (bus.ret r outer keep success) := by
  simp [Bus.step, hcrashed, hholder, hraises, hcall]

/-- Counting a call and counting it off again changes nothing. -/
lemma setCalling_pred_succ (id : ℕ) (listeners : List ListenerEntry) :
    setCalling (· - 1) id (setCalling (· + 1) id listeners) = listeners := by
  rw [setCalling, setCalling, List.map_map]
  refine (List.map_congr_left fun e _ => ?_).trans (List.map_id listeners)
  rw [Function.comp_apply]
  split_ifs
  · rfl
  · rfl

/-- The entry a walk is in the call of is found by its number. -/
lemma find?_setCalling {pre rest : List ListenerEntry} {e : ListenerEntry}
    (h : Increasing (·.id) (pre ++ e :: rest)) :
    (setCalling (· + 1) e.id (pre ++ e :: rest)).find? (some e.id = some ·.id)
      = some { e with calling := e.calling + 1 } := by
  have hpre : ∀ e' ∈ pre, e'.id < e.id := fun e' he' =>
    (List.pairwise_append.mp h).2.2 e' he' e List.mem_cons_self
  have hnone : (setCalling (· + 1) e.id pre).find? (fun e' => some e.id = some e'.id) = none := by
    rw [List.find?_eq_none]
    intro e' he'
    obtain ⟨e₀, he₀, hid, -⟩ := mem_setCalling he'
    have hlt := hpre e₀ he₀
    simp only [Option.some.injEq, decide_eq_true_eq]
    omega
  have happend : setCalling (· + 1) e.id (pre ++ e :: rest)
      = setCalling (· + 1) e.id pre
        ++ { e with calling := e.calling + 1 } :: setCalling (· + 1) e.id rest := by
    simp [setCalling]
  rw [happend, List.find?_append, hnone, Option.none_or, List.find?_cons_of_pos (by simp)]

/-- Without the entry itself, the list is what is before and behind it. -/
lemma filter_id_ne {pre rest : List ListenerEntry} {e : ListenerEntry}
    (h : Increasing (·.id) (pre ++ e :: rest)) :
    (pre ++ e :: rest).filter (·.id ≠ e.id) = pre ++ rest := by
  obtain ⟨-, hrest, hpre⟩ := List.pairwise_append.mp h
  rw [List.filter_append, List.filter_cons_of_neg (by simp), ← List.filter_append,
    List.filter_eq_self]
  intro e' he'
  rw [decide_eq_true_iff]
  rcases List.mem_append.mp he' with he' | he'
  · exact (hpre e' he' e List.mem_cons_self).ne
  · exact ((List.pairwise_cons.mp hrest).1 e' he').ne'

/-- The walk after the hook of an entry returned. -/
def Raise.passed (r : Raise α) (pre : List ListenerEntry) (e : ListenerEntry)
    (keep success : Bool) :
    Raise α :=
  { r.entered e with
    inCall := false
    success := success
    current := if keep then some e.id else pre.getLast?.map (·.id) }

/-- The call and the return of a hook that leaves the bus alone. -/
lemma Bus.run_hook {bus : Bus α} {r : Raise α} {outer : List (Raise α)} {thread : ℕ}
    {pre rest : List ListenerEntry} {e : ListenerEntry} {s s' : σ} {keep success : Bool}
    (hcrashed : bus.crashed = false) (hholder : bus.holder = some thread)
    (hraises : bus.raises = r :: outer) (hcall : r.inCall = false) (hsuccess : r.success = true)
    (hlisteners : bus.listeners = pre ++ e :: rest) (hsorted : Increasing (·.id) bus.listeners)
    (hnext : nextAt (·.id) r.current bus.listeners = some e) (hcalling : e.calling = 0)
    (hhook : r.hook ∈ e.listener.hooks)
    (hdone : hooks e.listener r.hook r.arg s true = (s', keep, success)) :
    run (Bus.walkStep hooks thread) (bus, s) [(), ()] =
      let left := pre ++ (if keep then [e] else []) ++ rest
      let bus' : Bus α := { bus with listeners := left }
      if r.hook = .authorize ∧ success = false
      then some (bus'.endRaise (r.passed pre e keep false) outer, s')
      else some ({ bus' with raises := r.passed pre e keep true :: outer }, s') := by
  rw [hlisteners] at hsorted
  set bus₁ : Bus α := { bus with
    listeners := setCalling (· + 1) e.id bus.listeners
    raises := r.entered e :: outer } with hbus₁
  have hfind : bus₁.listeners.find? ((r.entered e).current = some ·.id)
      = some { e with calling := e.calling + 1 } := by
    rw [hbus₁, hlisteners]
    exact find?_setCalling hsorted
  have hstep₁ : Bus.walkStep hooks thread (bus, s) () = some (bus₁, s) := by
    simp [Bus.walkStep, hraises, hcall, Bus.step_enumerate hcrashed hholder hraises hcall,
      Bus.enumerate, hnext, hcalling, hhook, hbus₁, Raise.entered]
  have hret := Bus.step_ret (show bus₁.crashed = false from hcrashed) hholder rfl rfl keep success
  have hstep₂ : Bus.walkStep hooks thread (bus₁, s) ()
      = some (bus₁.ret (r.entered e) outer keep success, s') := by
    have hdone' : hooks e.listener (r.entered e).hook (r.entered e).arg s (r.entered e).success
        = (s', keep, success) := by
      rw [← hdone, ← hsuccess]
      rfl
    simp only [Bus.walkStep, show bus₁.raises = r.entered e :: outer from rfl, hfind, hdone', hret,
      Option.map_some]
    rfl
  rw [run_cons, hstep₁, Option.bind_some, run_cons, hstep₂, Option.bind_some, run_nil, Bus.ret,
    hfind]
  have hback : setCalling (· - 1) e.id bus₁.listeners = pre ++ e :: rest := by
    rw [hbus₁, setCalling_pred_succ, hlisteners]
  have hkept : pre ++ (if keep then [e] else []) ++ rest
      = if keep then pre ++ e :: rest else pre ++ rest := by
    cases keep <;> simp
  have hleft : (if r.hook = .authorize then success else r.success) = false ↔
      r.hook = .authorize ∧ success = false := by
    by_cases hauth : r.hook = .authorize
    · simp [hauth]
    · simp [hauth, hsuccess]
  simp only [hback, hsorted.prevAt_append, filter_id_ne hsorted, hkept]
  cases hok : (if r.hook = .authorize then success else r.success) with
  | false =>
    have hok' : (if (r.entered e).hook = .authorize then success else (r.entered e).success)
        = false := hok
    simp only [hok', if_pos (hleft.mp hok), Bool.false_eq_true, if_false]
    rfl
  | true =>
    have hok' : (if (r.entered e).hook = .authorize then success else (r.entered e).success)
        = true := hok
    have hnot : ¬ (r.hook = .authorize ∧ success = false) := by
      rw [← hleft, hok]
      exact Bool.false_ne_true.symm
    simp only [hok', if_neg hnot, if_true]
    rfl

/-- The steps of a walk from a place in the list to its end, where the hooks leave the bus alone:
what `walkListeners` says of the listeners behind that place. -/
lemma Bus.run_walk {bus : Bus α} {r : Raise α} {outer : List (Raise α)} {thread : ℕ}
    {pre rest kept : List ListenerEntry} {s s' : σ} {success : Bool}
    (hcrashed : bus.crashed = false) (hholder : bus.holder = some thread)
    (hraises : bus.raises = r :: outer) (hcall : r.inCall = false) (hsuccess : r.success = true)
    (hlisteners : bus.listeners = pre ++ rest) (hsorted : Increasing (·.id) bus.listeners)
    (hcurrent : r.current = pre.getLast?.map (·.id))
    (hwalk : walkListeners hooks r.hook r.arg rest s = (kept, s', success)) :
    ∃ n r', run (Bus.walkStep hooks thread) (bus, s) (List.replicate n ())
        = some (Bus.endRaise { bus with listeners := pre ++ kept } r' outer, s') ∧
      r'.hook = r.hook ∧ r'.success = success := by
  induction rest generalizing bus r pre kept s with
  | nil =>
    rw [walkListeners, Prod.mk.injEq, Prod.mk.injEq] at hwalk
    obtain ⟨rfl, rfl, rfl⟩ := hwalk
    have hnext : nextAt (·.id) r.current bus.listeners = none := by
      rw [hcurrent, hlisteners]
      rw [hlisteners] at hsorted
      exact hsorted.nextAt_append
    have hstep : Bus.walkStep hooks thread (bus, s) () = some (bus.endRaise r outer, s) := by
      simp [Bus.walkStep, hraises, hcall, Bus.step_enumerate hcrashed hholder hraises hcall,
        Bus.enumerate, hnext]
    refine ⟨1, r, ?_, rfl, hsuccess⟩
    rw [List.replicate_one, run_cons, hstep, ← hlisteners]
    rfl
  | cons e rest ih =>
    have hnext : nextAt (·.id) r.current bus.listeners = some e := by
      rw [hcurrent, hlisteners]
      rw [hlisteners] at hsorted
      exact hsorted.nextAt_append
    have hassoc : pre ++ e :: rest = (pre ++ [e]) ++ rest := by simp
    rw [walkListeners] at hwalk
    by_cases hskip : e.calling ≠ 0 ∨ r.hook ∉ e.listener.hooks
    · -- the walk passes the entry over
      rw [if_pos hskip] at hwalk
      obtain ⟨rfl, hrest⟩ := Prod.mk.inj hwalk
      have henumerate := Bus.step_enumerate hcrashed hholder hraises hcall
      set bus₁ : Bus α := { bus with raises := r.moved e :: outer } with hbus₁
      have hstep : Bus.walkStep hooks thread (bus, s) () = some (bus₁, s) := by
        simp [Bus.walkStep, hraises, hcall, henumerate, Bus.enumerate, hnext, hskip, hbus₁,
          Raise.moved]
      have hlisteners₁ : bus₁.listeners = (pre ++ [e]) ++ rest := hlisteners.trans hassoc
      have hcrashed₁ : bus₁.crashed = false := hcrashed
      have hraises₁ : bus₁.raises = r.moved e :: outer := rfl
      obtain ⟨n, r', hrun, hhook, hr'⟩ := ih hcrashed₁ hholder hraises₁ hcall hsuccess hlisteners₁
        hsorted
        (by simp [Raise.moved]) (Prod.ext rfl hrest)
      refine ⟨n + 1, r', ?_, hhook, hr'⟩
      rw [List.replicate_succ, run_cons, hstep, Option.bind_some, hrun, List.append_assoc]
      rfl
    · -- the walk calls the hook of the entry, which returns
      rw [if_neg hskip] at hwalk
      rw [not_or, not_not, not_not] at hskip
      obtain ⟨hcalling, hhook⟩ := hskip
      rcases hdone : hooks e.listener r.hook r.arg s true with ⟨s₁, keep, ok⟩
      have hrun₁ := Bus.run_hook hcrashed hholder hraises hcall hsuccess hlisteners hsorted hnext
        hcalling hhook hdone
      simp only [hdone] at hwalk
      by_cases hrefused : r.hook = .authorize ∧ ok = false
      · rw [if_pos hrefused, Prod.mk.injEq, Prod.mk.injEq] at hwalk
        obtain ⟨rfl, rfl, rfl⟩ := hwalk
        simp only [if_pos hrefused] at hrun₁
        refine ⟨2, r.passed pre e keep false, ?_, rfl, rfl⟩
        rw [show List.replicate 2 () = [(), ()] from rfl, hrun₁, List.append_assoc]
      · rw [if_neg hrefused] at hwalk
        obtain ⟨rfl, hrest⟩ := Prod.mk.inj hwalk
        simp only [if_neg hrefused] at hrun₁
        set left := pre ++ (if keep then [e] else []) with hleft
        set bus₂ : Bus α := { bus with
          listeners := left ++ rest
          raises := r.passed pre e keep true :: outer } with hbus₂
        have hsorted₂ : Increasing (·.id) bus₂.listeners := by
          refine hsorted.sublist ?_
          rw [hbus₂, hlisteners, hleft, List.append_assoc]
          refine List.Sublist.append (List.Sublist.refl _) ?_
          cases keep with
          | true => exact List.Sublist.refl _
          | false => exact List.sublist_cons_self _ _
        have hcurrent₂ : (r.passed pre e keep true).current = left.getLast?.map (·.id) := by
          rw [hleft]
          cases keep with
          | true => simp [Raise.passed]
          | false => simp [Raise.passed]
        have hlisteners₂ : bus₂.listeners = left ++ rest := rfl
        have hcrashed₂ : bus₂.crashed = false := hcrashed
        have hraises₂ : bus₂.raises = r.passed pre e keep true :: outer := rfl
        obtain ⟨n, r', hrun, hhook', hr'⟩ := ih hcrashed₂ hholder hraises₂ rfl rfl hlisteners₂
          hsorted₂ hcurrent₂ (Prod.ext rfl hrest)
        refine ⟨n + 2, r', ?_, hhook', hr'⟩
        rw [show List.replicate (n + 2) () = [(), ()] ++ List.replicate n () from rfl, run_append,
          hrun₁, Option.bind_some, hrun, hleft, List.append_assoc]
        rfl

/-! ### Authorizing -/

/-- A registered listener as the loop of `authorize` sees it. -/
def ListenerEntry.toEntry (hooks : HookFun α σ) (arg : α) (e : ListenerEntry) : Entry σ where
  calling := e.calling ≠ 0
  authorize :=
    if .authorize ∈ e.listener.hooks then
      some fun s success => .ok (hooks e.listener .authorize arg s success)
    else none

/-- The loop of `authorize` over the listeners is a walk. -/
lemma busAuthorize_toEntry (arg : α) (listeners : List ListenerEntry) (s : σ) :
    busAuthorize (listeners.map (·.toEntry hooks arg)) s true
      = .ok (((walkListeners hooks .authorize arg listeners s).1.map (·.toEntry hooks arg)),
          (walkListeners hooks .authorize arg listeners s).2) := by
  induction listeners generalizing s with
  | nil => rfl
  | cons e rest ih =>
    rw [List.map_cons, busAuthorize, walkListeners]
    by_cases hskip : e.calling ≠ 0 ∨ Hook.authorize ∉ e.listener.hooks
    · have hnone : (e.toEntry hooks arg).hook = none := by
        rcases hskip with hskip | hskip
        · simp [Entry.hook, ListenerEntry.toEntry, hskip]
        · simp [Entry.hook, ListenerEntry.toEntry, hskip]
      simp only [hnone, ih, if_pos hskip, Except.map, List.map_cons]
    · rw [if_neg hskip]
      rw [not_or, not_not, not_not] at hskip
      have hsome : (e.toEntry hooks arg).hook
          = some fun s success => .ok (hooks e.listener .authorize arg s success) := by
        simp [Entry.hook, ListenerEntry.toEntry, hskip]
      rcases hdone : hooks e.listener .authorize arg s true with ⟨s₁, keep, ok⟩
      have hafter : (e.toEntry hooks arg).after keep
          = (if keep then [e] else []).map (·.toEntry hooks arg) := by
        cases keep <;> rfl
      cases ok with
      | false => simp [hsome, hdone, hafter]
      | true => simp [hsome, hdone, hafter, ih, Except.map]

/-- A thread that asks the bus to authorize an IKE_SA, while nobody holds the mutex and with hooks
that leave the bus alone, ends its walk with the listeners, the state and the verdict of the loop
`busAuthorize`. -/
theorem Bus.authorize_refines {bus : Bus α} {ops : List (BusOp α)}
    (hrun : run Bus.step Bus.create ops = some bus) (hcrashed : bus.crashed = false)
    (hholder : bus.holder = none) (hooks : HookFun α σ) (thread : ℕ) (arg : α) (s : σ) :
    ∃ n bus' r s', run (Bus.walkStep hooks thread) (bus.raise thread .authorize arg, s)
          (List.replicate n ()) = some (bus', s') ∧
        bus'.holder = none ∧ bus'.ended = r :: bus.ended ∧ r.hook = .authorize ∧
          busAuthorize (bus.listeners.map (·.toEntry hooks arg)) s true
            = .ok (bus'.listeners.map (·.toEntry hooks arg), s', r.success) := by
  have hok := Bus.run_ok hrun
  have hidle := hok.holder hholder
  rcases hwalk : walkListeners hooks .authorize arg bus.listeners s with ⟨kept, s', success⟩
  set bus₁ := bus.raise thread .authorize arg with hbus₁
  have hlisteners : bus₁.listeners = [] ++ bus.listeners := rfl
  obtain ⟨n, r, hsteps, hhook, hsuccess⟩ := Bus.run_walk
    (show bus₁.crashed = false from hcrashed) (show bus₁.holder = some thread from rfl) rfl rfl rfl
    hlisteners hok.increasing rfl hwalk
  refine ⟨n, _, r, s', hsteps, ?_, rfl, hhook, ?_⟩
  · simp [Bus.endRaise, hidle]
  · rw [busAuthorize_toEntry, hwalk, hsuccess]
    rfl

/-- A listener that refuses, and then unregisters, before one that is not asked any more. -/
theorem Bus.authorize_refines_refusal :
    ∃ (bus : Bus Unit) (n : ℕ) (bus' : Bus Unit) (r : Raise Unit) (s' : ℕ),
      run Bus.step Bus.create [.add 1 ⟨1, [.authorize]⟩, .add 1 ⟨2, [.authorize]⟩] = some bus ∧
        run (Bus.walkStep (fun _ _ _ s _ => (s + 1, false, false)) 7)
          (bus.raise 7 .authorize (), 0) (List.replicate n ()) = some (bus', s') ∧
        bus'.holder = none ∧ bus'.ended = r :: bus.ended ∧ r.hook = .authorize ∧
          busAuthorize (bus.listeners.map (·.toEntry (fun _ _ _ s _ => (s + 1, false, false)) ()))
            0 true = .ok (bus'.listeners.map
              (·.toEntry (fun _ _ _ s _ => (s + 1, false, false)) ()), s', r.success) := by
  have hrun : ∃ bus : Bus Unit, run Bus.step Bus.create
      [.add 1 ⟨1, [.authorize]⟩, .add 1 ⟨2, [.authorize]⟩] = some bus ∧ bus.crashed = false ∧
        bus.holder = none := ⟨_, rfl, rfl, rfl⟩
  obtain ⟨bus, hrun, hcrashed, hholder⟩ := hrun
  obtain ⟨n, bus', r, s', h⟩ := Bus.authorize_refines hrun hcrashed hholder
    (fun _ _ _ s _ => (s + 1, false, false)) 7 () 0
  exact ⟨bus, n, bus', r, s', hrun, h⟩

end SecuredApp
