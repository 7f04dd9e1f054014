import SecuredApp.Bus.Listeners

/-!
# What the walks over the listeners keep

Whatever threads register, remove and raise, and whatever the hooks do with the bus while they are
called: which entries a walk has called, what the counters of the entries say, and when the bus
touches an entry that was freed.
-/

namespace SecuredApp

open SecuredApp.Core

variable {α : Type*}

/-- The walk is in the call of the hook of the entry. -/
def Raise.calls (r : Raise α) (id : ℕ) : Bool := r.inCall && r.current = some id

/-- The calls of the hooks of an entry that are under way. -/
def callsOf (raises : List (Raise α)) (id : ℕ) : ℕ := raises.countP (·.calls id)

@[simp] lemma callsOf_nil (id : ℕ) : callsOf ([] : List (Raise α)) id = 0 := rfl

lemma callsOf_cons (r : Raise α) (outer : List (Raise α)) (id : ℕ) :
    callsOf (r :: outer) id = callsOf outer id + if r.calls id then 1 else 0 :=
  List.countP_cons

/-- What holds of a walk with the walks `outer` around it. -/
structure Raise.Ok (listeners : List ListenerEntry) (next : ℕ) (outer : List (Raise α))
    (r : Raise α) : Prop where
  ahead : ∀ e ∈ listeners, Ahead r.current e.id ↔ r.reached ≤ e.id
  current : r.inCall = false → ∀ id ∈ r.current, id ∈ listeners.map (·.id)
  entered : r.inCall = true → r.current = some (r.reached - 1) ∧ 0 < r.reached
  reached : r.reached ≤ next
  below : ∀ id ∈ r.called, id < r.reached
  sorted : r.called.Pairwise (· < ·)
  called : ∀ e ∈ listeners, e.id < r.reached →
    (e.id ∈ r.called ↔ r.hook ∈ e.listener.hooks ∧ callsOf outer e.id = 0)

/-- What holds of the walks under way, innermost first: all but the first are in a call. -/
def RaisesOk (listeners : List ListenerEntry) (next : ℕ) : List (Raise α) → Prop
  | [] => True
  | r :: outer =>
    r.Ok listeners next outer ∧ (∀ r' ∈ outer, r'.inCall = true) ∧ RaisesOk listeners next outer

/-- What holds of the bus in every run. -/
structure Bus.Ok (bus : Bus α) : Prop where
  increasing : Increasing (·.id) bus.listeners
  fresh : ∀ e ∈ bus.listeners, e.id < bus.next
  calling : ∀ e ∈ bus.listeners, e.calling = callsOf bus.raises e.id
  once : ∀ id, callsOf bus.raises id ≤ 1
  raises : RaisesOk bus.listeners bus.next bus.raises
  holder : bus.holder = none → bus.raises = []

/-! ### Changing the listeners under a walk -/

lemma mem_setCalling {f : ℕ → ℕ} {id : ℕ} {listeners : List ListenerEntry} {e : ListenerEntry}
    (h : e ∈ setCalling f id listeners) :
    ∃ e' ∈ listeners, e'.id = e.id ∧ e'.listener = e.listener ∧
      e.calling = if e.id = id then f e'.calling else e'.calling := by
  obtain ⟨e', he', rfl⟩ := List.mem_map.mp h
  refine ⟨e', he', ?_⟩
  split_ifs with hid
  · exact ⟨rfl, rfl, rfl⟩
  · exact ⟨rfl, rfl, rfl⟩

lemma map_id_setCalling (f : ℕ → ℕ) (id : ℕ) (listeners : List ListenerEntry) :
    (setCalling f id listeners).map (·.id) = listeners.map (·.id) := by
  rw [setCalling, List.map_map]
  refine List.map_congr_left fun e _ => ?_
  rw [Function.comp_apply]
  split_ifs <;> rfl

/-- The keys of a list increase if they do in one with the same keys. -/
lemma increasing_iff_map {listeners : List ListenerEntry} :
    Increasing (·.id) listeners ↔ (listeners.map (·.id)).Pairwise (· < ·) :=
  List.pairwise_map.symm

lemma increasing_setCalling {f : ℕ → ℕ} {id : ℕ} {listeners : List ListenerEntry} :
    Increasing (·.id) (setCalling f id listeners) ↔ Increasing (·.id) listeners := by
  rw [increasing_iff_map, map_id_setCalling, ← increasing_iff_map]

/-- The entries of the one list are those of the other, but for their counters, or registered
since. -/
def Extends (listeners : List ListenerEntry) (next : ℕ) (listeners' : List ListenerEntry) : Prop :=
  ∀ e' ∈ listeners', next ≤ e'.id ∨ ∃ e ∈ listeners, e.id = e'.id ∧ e.listener = e'.listener

/-- A walk that is in a call is as before when entries are added, removed or counted. -/
lemma Raise.Ok.extend {listeners listeners' : List ListenerEntry} {next next' : ℕ}
    {outer : List (Raise α)} {r : Raise α} (h : r.Ok listeners next outer)
    (hcall : r.inCall = true) (hext : Extends listeners next listeners') (hnext : next ≤ next') :
    r.Ok listeners' next' outer where
  ahead e' he' := by
    rcases hext e' he' with hnew | ⟨e, he, hid, -⟩
    · obtain ⟨hcurrent, hpos⟩ := h.entered hcall
      have hreached := h.reached
      rw [hcurrent, ahead_some]
      omega
    · rw [← hid]
      exact h.ahead e he
  current hcall' := by
    rw [hcall] at hcall'
    cases hcall'
  entered := h.entered
  reached := h.reached.trans hnext
  below := h.below
  sorted := h.sorted
  called e' he' hlt := by
    rcases hext e' he' with hnew | ⟨e, he, hid, hlistener⟩
    · exact absurd hlt (h.reached.trans hnew).not_gt
    · rw [← hid, ← hlistener]
      exact h.called e he (hid.trans_lt hlt)

lemma RaisesOk.extend {listeners listeners' : List ListenerEntry} {next next' : ℕ}
    {raises : List (Raise α)} (h : RaisesOk listeners next raises)
    (hcall : ∀ r ∈ raises, r.inCall = true) (hext : Extends listeners next listeners')
    (hnext : next ≤ next') : RaisesOk listeners' next' raises := by
  induction raises with
  | nil => trivial
  | cons r outer ih =>
    obtain ⟨hr, houter, hrest⟩ := h
    exact ⟨hr.extend (hcall r List.mem_cons_self) hext hnext, houter, ih hrest houter⟩

/-- A thread runs code of its own only while every walk under way is in a call. -/
lemma Bus.Ok.inCall_of_runs {bus : Bus α} (h : bus.Ok) {thread : ℕ}
    (hruns : bus.runs thread = true) :
    ∀ r ∈ bus.raises, r.inCall = true := by
  intro r hr
  unfold Bus.runs at hruns
  cases hholder' : bus.holder with
  | none =>
    rw [h.holder hholder'] at hr
    cases hr
  | some holder =>
    cases hraises : bus.raises with
    | nil =>
      rw [hraises] at hr
      cases hr
    | cons r' outer =>
      have hok := h.raises
      rw [hraises] at hr hok
      simp only [hholder', hraises, Bool.and_eq_true] at hruns
      rcases List.mem_cons.mp hr with rfl | hr
      · exact hruns.2
      · exact hok.2.1 r hr

/-! ### The invariant -/

/-- The entry a walk comes to next, by the registrations that had their turn. -/
lemma Raise.Ok.next {listeners : List ListenerEntry} {next : ℕ} {outer : List (Raise α)}
    {r : Raise α} (h : r.Ok listeners next outer) (hsorted : Increasing (·.id) listeners)
    (hcall : r.inCall = false) {e : ListenerEntry}
    (hnext : nextAt (·.id) r.current listeners = some e) :
    e ∈ listeners ∧ r.reached ≤ e.id ∧ ∀ e' ∈ listeners, r.reached ≤ e'.id → e.id ≤ e'.id := by
  obtain ⟨he, hahead, hleast⟩ := hsorted.nextAt_eq_some (h.current hcall) hnext
  refine ⟨he, (h.ahead e he).mp hahead, fun e' he' hle => ?_⟩
  exact hleast e' he' ((h.ahead e' he').mpr hle)

/-- A walk that passes an entry over, or calls it, as `called` says. -/
lemma Raise.Ok.pass {listeners : List ListenerEntry} {next : ℕ} {outer : List (Raise α)}
    {r : Raise α} (h : r.Ok listeners next outer) (hsorted : Increasing (·.id) listeners)
    (hfresh : ∀ e ∈ listeners, e.id < next) (hcall : r.inCall = false) {e : ListenerEntry}
    (hnext : nextAt (·.id) r.current listeners = some e) {called : List ℕ} {inCall : Bool}
    (hcalled : called = r.called ++
      if r.hook ∈ e.listener.hooks ∧ callsOf outer e.id = 0 then [e.id] else []) :
    Raise.Ok listeners next outer
      { r with current := some e.id, reached := e.id + 1, inCall := inCall, called := called } := by
  obtain ⟨he, hreached, hleast⟩ := h.next hsorted hcall hnext
  have hmem : ∀ id, id ∈ called ↔ id ∈ r.called ∨
      (id = e.id ∧ r.hook ∈ e.listener.hooks ∧ callsOf outer e.id = 0) := by
    intro id
    rw [hcalled, List.mem_append]
    split_ifs with hif
    · simp [hif]
    · simp [hif]
  refine ⟨?_, ?_, ?_, hfresh e he, ?_, ?_, ?_⟩
  · intro e' _
    rw [ahead_some]
    exact Nat.lt_iff_add_one_le
  · intro _ id hid
    obtain rfl := Option.some.inj hid
    exact List.mem_map_of_mem he
  · intro _
    exact ⟨rfl, Nat.succ_pos _⟩
  · intro id hid
    rcases (hmem id).mp hid with hid | ⟨rfl, -⟩
    · exact ((h.below id hid).trans_le hreached).trans (Nat.lt_succ_self _)
    · exact Nat.lt_succ_self _
  · rw [hcalled]
    refine List.pairwise_append.mpr ⟨h.sorted, ?_, ?_⟩
    · split_ifs
      · exact List.pairwise_singleton _ _
      · exact List.Pairwise.nil
    · intro id hid id' hid'
      split_ifs at hid'
      · rw [List.mem_singleton.mp hid']
        exact (h.below id hid).trans_le hreached
      · cases hid'
  · intro e' he' hlt
    rw [hmem e'.id]
    by_cases hid : e'.id = e.id
    · obtain rfl := hsorted.inj he' he hid
      constructor
      · rintro (hin | ⟨-, hhook⟩)
        · exact absurd (h.below _ hin) hreached.not_gt
        · exact hhook
      · intro hhook
        exact Or.inr ⟨rfl, hhook⟩
    · have hbefore : e'.id < r.reached := by
        by_contra hge
        have hle := hleast e' he' (not_lt.mp hge)
        exact hid (le_antisymm (Nat.lt_succ_iff.mp hlt) hle)
      rw [← h.called e' he' hbefore]
      constructor
      · rintro (hin | ⟨heq, -⟩)
        · exact hin
        · exact absurd heq hid
      · exact Or.inl

/-- A walk whose hook returned, with its entry kept. -/
lemma Raise.Ok.left_keep {listeners : List ListenerEntry} {next : ℕ} {outer : List (Raise α)}
    {r : Raise α} (h : r.Ok listeners next outer) {e : ListenerEntry} (he : e ∈ listeners)
    (hcurrent : r.current = some e.id) (success : Bool) :
    Raise.Ok listeners next outer (r.left (some e.id) success) where
  ahead := hcurrent ▸ h.ahead
  current _ id hid := by
    obtain rfl := Option.some.inj hid
    exact List.mem_map_of_mem he
  entered hcall := by cases hcall
  reached := h.reached
  below := h.below
  sorted := h.sorted
  called := h.called

/-- A walk whose hook returned, with its entry unregistered. -/
lemma Raise.Ok.left_drop {listeners : List ListenerEntry} {next : ℕ} {outer : List (Raise α)}
    {r : Raise α} (h : r.Ok listeners next outer) (hsorted : Increasing (·.id) listeners)
    {e : ListenerEntry} (he : e ∈ listeners) (hcurrent : r.current = some e.id) (success : Bool) :
    Raise.Ok (listeners.filter (·.id ≠ e.id)) next outer
      (r.left (prevAt (·.id) e.id listeners) success) where
  ahead e' he' := by
    obtain ⟨hmem, hne⟩ := List.mem_filter.mp he'
    rw [decide_eq_true_iff] at hne
    have hahead := h.ahead e' hmem
    rw [hcurrent, ahead_some] at hahead
    exact (hsorted.ahead_prevAt he hmem hne).trans hahead
  current _ id hid := by
    obtain ⟨e', he', rfl, hlt⟩ := hsorted.prevAt_mem he hid
    exact List.mem_map_of_mem (List.mem_filter.mpr ⟨he', decide_eq_true hlt.ne⟩)
  entered hcall' := by cases hcall'
  reached := h.reached
  below := h.below
  sorted := h.sorted
  called e' he' := h.called e' (List.mem_filter.mp he').1

lemma Bus.ok_create : (Bus.create : Bus α).Ok where
  increasing := List.Pairwise.nil
  fresh e he := by cases he
  calling e he := by cases he
  once id := Nat.zero_le _
  raises := trivial
  holder _ := rfl

/-- A walk that is not in a call calls no entry. -/
lemma callsOf_cons_of_idle {r : Raise α} (hcall : r.inCall = false) (outer : List (Raise α))
    (id : ℕ) : callsOf (r :: outer) id = callsOf outer id := by
  simp [callsOf_cons, Raise.calls, hcall]

lemma callsOf_cons_of_call {r : Raise α} {current : ℕ} (hcall : r.inCall = true)
    (hcurrent : r.current = some current) (outer : List (Raise α)) (id : ℕ) :
    callsOf (r :: outer) id = callsOf outer id + if current = id then 1 else 0 := by
  simp [callsOf_cons, Raise.calls, hcall, hcurrent]

/-- Nobody calls an entry that is not registered yet. -/
lemma RaisesOk.callsOf_fresh {listeners : List ListenerEntry} {next : ℕ} {raises : List (Raise α)}
    (h : RaisesOk listeners next raises) {id : ℕ} (hid : next ≤ id) : callsOf raises id = 0 := by
  induction raises with
  | nil => rfl
  | cons r outer ih =>
    obtain ⟨hr, -, houter⟩ := h
    rw [callsOf_cons, ih houter, Nat.zero_add, if_neg]
    simp only [Raise.calls, Bool.and_eq_true, decide_eq_true_eq, not_and]
    intro hcall hcurrent
    obtain ⟨hreached, hpos⟩ := hr.entered hcall
    have hle := hr.reached
    have heq := Option.some.inj (hcurrent.symm.trans hreached)
    omega

lemma extends_setCalling (f : ℕ → ℕ) (id next : ℕ) (listeners : List ListenerEntry) :
    Extends listeners next (setCalling f id listeners) := by
  intro e' he'
  obtain ⟨e, he, hid, hlistener, -⟩ := mem_setCalling he'
  exact Or.inr ⟨e, he, hid, hlistener⟩

lemma Extends.subset {listeners listeners' listeners'' : List ListenerEntry} {next : ℕ}
    (h : Extends listeners next listeners') (hsub : listeners'' ⊆ listeners') :
    Extends listeners next listeners'' := by
  intro e he
  exact h e (hsub he)

/-- What is left of the listeners when the hook of one of them returned. -/
lemma leftListeners_sublist (listeners : List ListenerEntry) (e : ListenerEntry) (keep : Bool) :
    (leftListeners listeners e keep).Sublist (setCalling (· - 1) e.id listeners) := by
  rw [leftListeners]
  split_ifs
  · exact List.Sublist.refl _
  · exact List.filter_sublist

/-- The end of a walk, for listeners that count the calls around it. -/
lemma Bus.Ok.endRaise {bus : Bus α} {r : Raise α} {outer : List (Raise α)}
    {listeners : List ListenerEntry} (h : bus.Ok) (hraises : bus.raises = r :: outer)
    (hsorted : Increasing (·.id) listeners) (hext : Extends bus.listeners bus.next listeners)
    (hfresh : ∀ e ∈ listeners, e.id < bus.next)
    (hcalling : ∀ e ∈ listeners, e.calling = callsOf outer e.id) (r' : Raise α) :
    (Bus.endRaise { bus with listeners := listeners } r' outer).Ok := by
  have hok := h.raises
  have honce := h.once
  rw [hraises] at hok honce
  refine ⟨hsorted, hfresh, hcalling, ?_, hok.2.2.extend hok.2.1 hext le_rfl, ?_⟩
  · intro id
    refine le_trans ?_ (honce id)
    rw [callsOf_cons]
    exact Nat.le_add_right _ _
  · intro hholder
    cases houter : outer with
    | nil => rfl
    | cons r'' outer' =>
      simp only [Bus.endRaise, houter, List.isEmpty_cons, Bool.false_eq_true, if_false] at hholder
      rw [h.holder hholder] at hraises
      cases hraises

/-- The listeners left when a hook returned count the calls around it. -/
lemma Bus.Ok.leftListeners {bus : Bus α} {r : Raise α} {outer : List (Raise α)}
    {e : ListenerEntry} (h : bus.Ok) (hraises : bus.raises = r :: outer)
    (hcall : r.inCall = true) (hcurrent : r.current = some e.id) (keep : Bool) :
    Increasing (·.id) (leftListeners bus.listeners e keep) ∧
      Extends bus.listeners bus.next (leftListeners bus.listeners e keep) ∧
        (∀ e' ∈ leftListeners bus.listeners e keep, e'.id < bus.next) ∧
          ∀ e' ∈ leftListeners bus.listeners e keep, e'.calling = callsOf outer e'.id := by
  have hsub := leftListeners_sublist bus.listeners e keep
  refine ⟨?_, (extends_setCalling _ _ _ _).subset hsub.subset, ?_, ?_⟩
  · exact (increasing_setCalling.mpr h.increasing).sublist hsub
  · intro e' he'
    obtain ⟨e₀, he₀, hid, -⟩ := mem_setCalling (hsub.subset he')
    exact hid ▸ h.fresh e₀ he₀
  · intro e' he'
    obtain ⟨e₀, he₀, hid, -, hcount⟩ := mem_setCalling (hsub.subset he')
    have hbefore := h.calling e₀ he₀
    rw [hraises, callsOf_cons_of_call hcall hcurrent, hid] at hbefore
    rw [hcount, hbefore]
    by_cases heq : e'.id = e.id
    · simp [heq]
    · simp [heq, Ne.symm heq]

/-- A step keeps the invariant. -/
lemma Bus.Ok.step {bus bus' : Bus α} {op : BusOp α} (h : bus.Ok)
    (hstep : bus.step op = some bus') : bus'.Ok := by
  obtain ⟨-, hstep⟩ := Bus.step_sound hstep
  cases hstep with
  | @add thread listener hruns =>
    have hcalls := h.inCall_of_runs hruns
    refine ⟨?_, ?_, ?_, h.once, ?_, h.holder⟩
    · refine List.pairwise_append.mpr ⟨h.increasing, List.pairwise_singleton _ _, ?_⟩
      intro e he e' he'
      rw [List.mem_singleton.mp he']
      exact h.fresh e he
    · intro e he
      rcases List.mem_append.mp he with he | he
      · exact (h.fresh e he).trans (Nat.lt_succ_self _)
      · rw [List.mem_singleton.mp he]
        exact Nat.lt_succ_self _
    · intro e he
      rcases List.mem_append.mp he with he | he
      · exact h.calling e he
      · rw [List.mem_singleton.mp he]
        exact (h.raises.callsOf_fresh le_rfl).symm
    · refine h.raises.extend hcalls ?_ (Nat.le_succ _)
      intro e he
      rcases List.mem_append.mp he with he | he
      · exact Or.inr ⟨e, he, rfl, rfl⟩
      · rw [List.mem_singleton.mp he]
        exact Or.inl le_rfl
  | @remove thread listener hruns =>
    have hcalls := h.inCall_of_runs hruns
    have hsub : (bus.removeListener listener).listeners.Sublist bus.listeners :=
      List.eraseP_sublist
    refine ⟨h.increasing.sublist hsub, ?_, ?_, h.once, ?_, h.holder⟩
    · exact fun e he => h.fresh e (hsub.subset he)
    · exact fun e he => h.calling e (hsub.subset he)
    · exact h.raises.extend hcalls (fun e he => Or.inr ⟨e, hsub.subset he, rfl, rfl⟩) le_rfl
  | @raise thread hook arg hruns =>
    have hcalls := h.inCall_of_runs hruns
    have hidle : ∀ id, callsOf (bus.raise thread hook arg).raises id = callsOf bus.raises id :=
      callsOf_cons_of_idle rfl bus.raises
    refine ⟨h.increasing, h.fresh, ?_, ?_, ⟨?_, hcalls, h.raises⟩, ?_⟩
    · intro e he
      rw [hidle]
      exact h.calling e he
    · intro id
      rw [hidle]
      exact h.once id
    · refine ⟨?_, ?_, ?_, Nat.zero_le _, ?_, List.Pairwise.nil, ?_⟩
      · intro e _
        exact ⟨fun _ => Nat.zero_le _, fun _ => ahead_none _⟩
      · intro _ id hid
        cases hid
      · intro hcall
        cases hcall
      · intro id hid
        cases hid
      · intro e _ hlt
        cases hlt
    · intro hholder
      cases hholder
  | @done thread r outer hraises hcall hnext =>
    refine h.endRaise hraises h.increasing ?_ h.fresh ?_ r
    · exact fun e he => Or.inr ⟨e, he, rfl, rfl⟩
    · intro e he
      rw [h.calling e he, hraises, callsOf_cons_of_idle hcall]
  | @skip thread r outer e hraises hcall hnext hskip =>
    have hok := h.raises
    rw [hraises] at hok
    have hidle : ∀ id, callsOf (r.moved e :: outer) id = callsOf bus.raises id := by
      intro id
      have hmoved : (r.moved e).inCall = false := hcall
      rw [hraises, callsOf_cons_of_idle hcall, callsOf_cons_of_idle hmoved]
    have he := (hok.1.next h.increasing hcall hnext).1
    refine ⟨h.increasing, h.fresh, ?_, ?_, ⟨?_, hok.2⟩, ?_⟩
    · intro e' he'
      rw [hidle]
      exact h.calling e' he'
    · intro id
      rw [hidle]
      exact h.once id
    · refine hok.1.pass h.increasing h.fresh hcall hnext ?_
      rw [if_neg, List.append_nil]
      rintro ⟨hhook, hcount⟩
      have hcalling := h.calling e he
      rw [hraises, callsOf_cons_of_idle hcall, hcount] at hcalling
      rcases hskip with hskip | hskip
      · exact hskip hcalling
      · exact hskip hhook
    · intro hholder
      rw [h.holder hholder] at hraises
      cases hraises
  | @call thread r outer e hraises hcall hnext hcalling hhook =>
    have hok := h.raises
    rw [hraises] at hok
    have he := (hok.1.next h.increasing hcall hnext).1
    have hcount : callsOf outer e.id = 0 := by
      rw [← hcalling, h.calling e he, hraises, callsOf_cons_of_idle hcall]
    have hcalls : ∀ id, callsOf (r.entered e :: outer) id
        = callsOf bus.raises id + if e.id = id then 1 else 0 := by
      intro id
      rw [hraises, callsOf_cons_of_idle hcall]
      exact callsOf_cons_of_call rfl rfl outer id
    have hext := extends_setCalling (· + 1) e.id bus.next bus.listeners
    refine ⟨increasing_setCalling.mpr h.increasing, ?_, ?_, ?_,
      ⟨?_, hok.2.1, hok.2.2.extend hok.2.1 hext le_rfl⟩, ?_⟩
    · intro e' he'
      obtain ⟨e₀, he₀, hid, -⟩ := mem_setCalling he'
      exact hid ▸ h.fresh e₀ he₀
    · intro e' he'
      obtain ⟨e₀, he₀, hid, -, hcount'⟩ := mem_setCalling he'
      rw [hcalls, hcount', h.calling e₀ he₀, hid]
      by_cases heq : e'.id = e.id
      · simp [heq]
      · simp [heq, Ne.symm heq]
    · intro id
      rw [hcalls]
      split_ifs with heq
      · rw [← heq, hraises, callsOf_cons_of_idle hcall, hcount]
      · exact h.once id
    · have hpass : (r.entered e).Ok bus.listeners bus.next outer :=
        hok.1.pass h.increasing h.fresh hcall hnext (by rw [if_pos ⟨hhook, hcount⟩])
      exact hpass.extend rfl hext le_rfl
    · intro hholder
      rw [h.holder hholder] at hraises
      cases hraises
  | crash => exact ⟨h.increasing, h.fresh, h.calling, h.once, h.raises, h.holder⟩
  | @stay thread keep success r outer e current hraises hcall he hcurrent hpos =>
    have hok := h.raises
    rw [hraises] at hok
    obtain ⟨hsorted, hext, hfresh, hcalling⟩ := h.leftListeners hraises hcall hcurrent keep
    have hidle : ∀ id, callsOf (r.left current true :: outer) id = callsOf outer id :=
      callsOf_cons_of_idle rfl outer
    refine ⟨hsorted, hfresh, ?_, ?_, ⟨?_, hok.2.1, hok.2.2.extend hok.2.1 hext le_rfl⟩, ?_⟩
    · intro e' he'
      rw [hidle]
      exact hcalling e' he'
    · intro id
      rw [hidle]
      refine le_trans ?_ (h.once id)
      rw [hraises, callsOf_cons]
      exact Nat.le_add_right _ _
    · have hext' := extends_setCalling (· - 1) e.id bus.next bus.listeners
      have hr := hok.1.extend hcall hext' le_rfl
      have hmem : e.id ∈ (setCalling (· - 1) e.id bus.listeners).map (·.id) := by
        rw [map_id_setCalling]
        exact List.mem_map_of_mem he
      obtain ⟨e', he', hid⟩ := List.mem_map.mp hmem
      rw [← hid] at hcurrent
      cases keep with
      | true =>
        rw [hpos, if_pos rfl, ← hid]
        exact hr.left_keep he' hcurrent true
      | false =>
        have hdrop := hr.left_drop (increasing_setCalling.mpr h.increasing) he' hcurrent true
        rw [hid] at hdrop
        rw [hpos, if_neg Bool.false_ne_true]
        exact hdrop
    · intro hholder
      rw [h.holder hholder] at hraises
      cases hraises
  | @leave thread keep success r outer e current hraises hcall he hcurrent =>
    obtain ⟨hsorted, hext, hfresh, hcalling⟩ := h.leftListeners hraises hcall hcurrent keep
    exact h.endRaise hraises hsorted hext hfresh hcalling _

lemma Bus.run_ok {bus : Bus α} {ops : List (BusOp α)}
    (h : run Bus.step Bus.create ops = some bus) : bus.Ok :=
  run_invariant Bus.ok_create (fun _ _ _ hok hstep => hok.step hstep) h

/-! ### Freed entries -/

/-- A call of `remove_listener` takes an entry out whose hook is not being called. -/
def Bus.removesIdle (bus : Bus α) : BusOp α → Bool
  | .remove _ listener => (bus.listeners.find? (·.listener = listener)).all (·.calling = 0)
  | _ => true

/-- Whoever is being called is registered. -/
def Bus.Live (bus : Bus α) : Prop :=
  ∀ r ∈ bus.raises, r.inCall = true → ∃ e ∈ bus.listeners, r.current = some e.id

lemma callsOf_pos {raises : List (Raise α)} {r : Raise α} {id : ℕ} (hr : r ∈ raises)
    (hcall : r.inCall = true) (hcurrent : r.current = some id) : 0 < callsOf raises id :=
  List.countP_pos_iff.mpr ⟨r, hr, by simp [Raise.calls, hcall, hcurrent]⟩

/-- What a hook that returned leaves is registered, if it is being called. -/
lemma Bus.Live.leftListeners {bus : Bus α} (h : bus.Live) (hok : bus.Ok) {r : Raise α}
    {outer : List (Raise α)} (hraises : bus.raises = r :: outer) (hcall : r.inCall = true)
    {e : ListenerEntry} (hcurrent : r.current = some e.id) (keep : Bool) :
    ∀ r' ∈ outer, r'.inCall = true →
      ∃ e' ∈ leftListeners bus.listeners e keep, r'.current = some e'.id := by
  intro r' hr' hcall'
  obtain ⟨e₀, he₀, hcurrent'⟩ := h r' (hraises ▸ List.mem_cons_of_mem _ hr') hcall'
  have hne : e₀.id ≠ e.id := by
    intro heq
    have honce := hok.once e.id
    rw [hraises, callsOf_cons_of_call hcall hcurrent, if_pos rfl] at honce
    have hpos := callsOf_pos hr' hcall' (heq ▸ hcurrent')
    omega
  have hmem : e₀.id ∈ (setCalling (· - 1) e.id bus.listeners).map (·.id) := by
    rw [map_id_setCalling]
    exact List.mem_map_of_mem he₀
  obtain ⟨e', he', hid⟩ := List.mem_map.mp hmem
  refine ⟨e', ?_, hid ▸ hcurrent'⟩
  rw [SecuredApp.leftListeners]
  split_ifs
  · exact he'
  · exact List.mem_filter.mpr ⟨he', decide_eq_true (hid ▸ hne)⟩

lemma Bus.Live.step {bus bus' : Bus α} {op : BusOp α} (h : bus.Live) (hok : bus.Ok)
    (hidle : bus.removesIdle op = true) (hstep : bus.step op = some bus') :
    bus'.crashed = false ∧ bus'.Live := by
  obtain ⟨hcrashed, hstep⟩ := Bus.step_sound hstep
  cases hstep with
  | add =>
    refine ⟨hcrashed, fun r hr hcall => ?_⟩
    obtain ⟨e, he, hcurrent⟩ := h r hr hcall
    exact ⟨e, List.mem_append_left _ he, hcurrent⟩
  | @remove thread listener hruns =>
    refine ⟨hcrashed, fun r hr hcall => ?_⟩
    obtain ⟨e, he, hcurrent⟩ := h r hr hcall
    refine ⟨e, ?_, hcurrent⟩
    rw [Bus.removeListener]
    cases hfind : bus.listeners.find? (·.listener = listener) with
    | none =>
      rw [List.eraseP_of_forall_not]
      · exact he
      · simpa using List.find?_eq_none.mp hfind
    | some found =>
      have hkey : (bus.listeners.map (·.id)).Nodup :=
        (increasing_iff_map.mp hok.increasing).imp (fun hlt => hlt.ne)
      rw [eraseP_eq_filter_key hkey hfind]
      refine List.mem_filter.mpr ⟨he, decide_eq_true fun heq => ?_⟩
      rw [Bus.removesIdle, hfind, Option.all_some, decide_eq_true_eq,
        hok.calling found (List.mem_of_find?_eq_some hfind), ← heq] at hidle
      exact absurd hidle (callsOf_pos hr hcall hcurrent).ne'
  | raise =>
    refine ⟨hcrashed, fun r hr hcall => ?_⟩
    rcases List.mem_cons.mp hr with rfl | hr
    · cases hcall
    · exact h r hr hcall
  | @done thread r outer hraises =>
    refine ⟨hcrashed, fun r' hr' hcall' => ?_⟩
    exact h r' (hraises ▸ List.mem_cons_of_mem _ hr') hcall'
  | @skip thread r outer e hraises hcall =>
    refine ⟨hcrashed, fun r' hr' hcall' => ?_⟩
    rcases List.mem_cons.mp hr' with rfl | hr'
    · exact absurd (hcall.symm.trans hcall') Bool.false_ne_true
    · exact h r' (hraises ▸ List.mem_cons_of_mem _ hr') hcall'
  | @call thread r outer e hraises hcall hnext =>
    refine ⟨hcrashed, fun r' hr' hcall' => ?_⟩
    have hsame : ∀ e₀ ∈ bus.listeners,
        ∃ e' ∈ setCalling (· + 1) e.id bus.listeners, e'.id = e₀.id := by
      intro e₀ he₀
      have hmem : e₀.id ∈ (setCalling (· + 1) e.id bus.listeners).map (·.id) := by
        rw [map_id_setCalling]
        exact List.mem_map_of_mem he₀
      exact List.mem_map.mp hmem
    rcases List.mem_cons.mp hr' with rfl | hr'
    · have hrok := hok.raises
      rw [hraises] at hrok
      obtain ⟨e', he', hid⟩ := hsame e (hrok.1.next hok.increasing hcall hnext).1
      exact ⟨e', he', congrArg some hid.symm⟩
    · obtain ⟨e₀, he₀, hcurrent⟩ := h r' (hraises ▸ List.mem_cons_of_mem _ hr') hcall'
      obtain ⟨e', he', hid⟩ := hsame e₀ he₀
      exact ⟨e', he', hid ▸ hcurrent⟩
  | @crash thread keep success r outer hraises hcall hfree =>
    obtain ⟨e, he, hcurrent⟩ := h r (hraises ▸ List.mem_cons_self) hcall
    have hnot := List.find?_eq_none.mp hfree e he
    simp [hcurrent] at hnot
  | @stay thread keep success r outer e current hraises hcall he hcurrent hpos =>
    refine ⟨hcrashed, fun r' hr' hcall' => ?_⟩
    rcases List.mem_cons.mp hr' with rfl | hr'
    · cases hcall'
    · exact h.leftListeners hok hraises hcall hcurrent keep r' hr' hcall'
  | @leave thread keep success r outer e current hraises hcall he hcurrent =>
    exact ⟨hcrashed, h.leftListeners hok hraises hcall hcurrent keep⟩

/-- Where `remove_listener` is only called for listeners whose hooks are not being called, the bus
touches no entry that was freed, whatever threads and hooks do: whoever is being called is
registered and called once, and nobody counts as called while the mutex is free. -/
theorem Bus.walks_safe {bus : Bus α} {ops : List (BusOp α)}
    (hrun : run Bus.step Bus.create ops = some bus)
    (hidle : RunMeets Bus.step (fun _ bus op => bus.removesIdle op = true) Bus.create ops) :
    bus.crashed = false ∧ bus.Live ∧
      (∀ e ∈ bus.listeners, e.calling = callsOf bus.raises e.id ∧ e.calling ≤ 1) ∧
        (bus.holder = none → ∀ e ∈ bus.listeners, e.calling = 0) := by
  have hinv := hidle.invariant (P := fun bus => bus.Ok ∧ bus.crashed = false ∧ bus.Live)
    ⟨Bus.ok_create, rfl, fun r hr => by cases hr⟩
    (fun _ _ _ _ hP hop hstep => ⟨hP.1.step hstep, hP.2.2.step hP.1 hop hstep⟩) hrun
  obtain ⟨hok, hcrashed, hlive⟩ := hinv
  refine ⟨hcrashed, hlive, fun e he => ?_, fun hholder e he => ?_⟩
  · exact ⟨hok.calling e he, hok.calling e he ▸ hok.once e.id⟩
  · rw [hok.calling e he, hok.holder hholder, callsOf_nil]

/-- A listener whose hook raises the same event again, and one that unregisters when it gets it. -/
theorem Bus.walks_safe_nested :
    ∃ bus : Bus Unit, run Bus.step Bus.create
        [.add 1 ⟨1, [.alert]⟩, .add 1 ⟨2, [.alert]⟩, .raise 1 .alert (), .enumerate 1,
          .raise 1 .alert (), .enumerate 1, .enumerate 1, .ret 1 false true] = some bus ∧
      bus.crashed = false ∧ bus.Live ∧
        (∀ e ∈ bus.listeners, e.calling = callsOf bus.raises e.id ∧ e.calling ≤ 1) ∧
          (bus.holder = none → ∀ e ∈ bus.listeners, e.calling = 0) := by
  have hrun : ∃ bus : Bus Unit, run Bus.step Bus.create
      [.add 1 ⟨1, [.alert]⟩, .add 1 ⟨2, [.alert]⟩, .raise 1 .alert (), .enumerate 1,
        .raise 1 .alert (), .enumerate 1, .enumerate 1, .ret 1 false true] = some bus := ⟨_, rfl⟩
  obtain ⟨bus, hrun⟩ := hrun
  exact ⟨bus, hrun, Bus.walks_safe hrun (runMeets_of_meetsAll rfl)⟩

/-! ### Whom a walk calls -/

/-- When a walk has come to its end, it has called, once each and in the order of their
registration, those listeners that are registered and have the hook, but for the ones a walk
around it was calling. -/
theorem Bus.raise_delivers {bus bus' : Bus α} {ops : List (BusOp α)} {r : Raise α}
    {outer : List (Raise α)} {thread : ℕ} (hrun : run Bus.step Bus.create ops = some bus)
    (hraises : bus.raises = r :: outer) (hstep : bus.step (.enumerate thread) = some bus')
    (hend : bus'.raises = outer) :
    r.called.Pairwise (· < ·) ∧ ∀ e ∈ bus.listeners,
      e.id ∈ r.called ↔ r.hook ∈ e.listener.hooks ∧ ∀ r' ∈ outer, r'.current ≠ some e.id := by
  have hok := Bus.run_ok hrun
  have hrok := hok.raises
  rw [hraises] at hrok
  refine ⟨hrok.1.sorted, fun e he => ?_⟩
  have hcount : callsOf outer e.id = 0 ↔ ∀ r' ∈ outer, r'.current ≠ some e.id := by
    rw [callsOf, List.countP_eq_zero]
    refine forall₂_congr fun r' hr' => ?_
    simp [Raise.calls, hrok.2.1 r' hr']
  rw [← hcount]
  refine hrok.1.called e he ?_
  obtain ⟨-, hstep⟩ := Bus.step_sound hstep
  cases hstep with
  | @done _ r' outer' hraises' hcall hnext =>
    rw [hraises, List.cons.injEq] at hraises'
    obtain ⟨rfl, rfl⟩ := hraises'
    have hnot := hok.increasing.nextAt_eq_none (hrok.1.current hcall) hnext he
    rw [hrok.1.ahead e he, not_le] at hnot
    exact hnot
  | @skip _ r' outer' e' hraises' =>
    rw [hraises, List.cons.injEq] at hraises'
    exact absurd (hraises'.2 ▸ hend) (List.cons_ne_self _ _)
  | @call _ r' outer' e' hraises' =>
    rw [hraises, List.cons.injEq] at hraises'
    exact absurd (hraises'.2 ▸ hend) (List.cons_ne_self _ _)

/-- The walk inside the hook of the first listener calls the second one. -/
theorem Bus.raise_delivers_nested :
    ∃ (bus bus' : Bus Unit) (r : Raise Unit) (outer : List (Raise Unit)),
      run Bus.step Bus.create
        [.add 1 ⟨1, [.alert]⟩, .add 1 ⟨2, [.alert]⟩, .raise 1 .alert (), .enumerate 1,
          .raise 1 .alert (), .enumerate 1, .enumerate 1, .ret 1 true true] = some bus ∧
        bus.raises = r :: outer ∧ bus.step (.enumerate 1) = some bus' ∧ r.called = [1] ∧
          ∀ e ∈ bus.listeners,
            e.id ∈ r.called ↔ r.hook ∈ e.listener.hooks ∧
              ∀ r' ∈ outer, r'.current ≠ some e.id := by
  have hrun : ∃ (bus bus' : Bus Unit) (r : Raise Unit) (outer : List (Raise Unit)),
      run Bus.step Bus.create
        [.add 1 ⟨1, [.alert]⟩, .add 1 ⟨2, [.alert]⟩, .raise 1 .alert (), .enumerate 1,
          .raise 1 .alert (), .enumerate 1, .enumerate 1, .ret 1 true true] = some bus ∧
        bus.raises = r :: outer ∧ bus.step (.enumerate 1) = some bus' ∧ bus'.raises = outer ∧
          r.called = [1] := ⟨_, _, _, _, rfl, rfl, rfl, rfl, rfl⟩
  obtain ⟨bus, bus', r, outer, hrun, hraises, hstep, hend, hcalled⟩ := hrun
  exact ⟨bus, bus', r, outer, hrun, hraises, hstep, hcalled,
    (Bus.raise_delivers hrun hraises hstep hend).2⟩

end SecuredApp

