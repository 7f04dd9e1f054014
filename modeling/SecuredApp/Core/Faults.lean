import SecuredApp.Core.Py

/-!
# Statements that may raise

A program is run together with a list that says, for each of the statements it comes to, whether
that statement raises an exception before it does anything. What holds for every such list holds
for every way in which the statements of the program may raise.
-/

namespace SecuredApp.Core

/-- The state, and for the statements to come the exceptions that they raise; once the list has
ended, none does. -/
abbrev Faulty (σ : Type) := σ × List (Option PyError)

variable {σ α β γ : Type}

/-- The statement as it is, in a program whose statements may raise. -/
def lift (x : Py σ α) : Py (Faulty σ) α := fun s =>
  match EStateM.run x s.1 with
  | .ok a s' => .ok a (s', s.2)
  | .error e s' => .error e (s', s.2)

/-- The statement, if it does not raise at once. -/
def stmt (x : Py σ α) : Py (Faulty σ) α := fun s =>
  match s.2 with
  | some e :: faults => .error e (s.1, faults)
  | _ => lift x (s.1, s.2.tail)

/-- A `finally` that only assigns does so whatever it follows. -/
lemma after_tryFinally_modify (x : Py σ α) (f : σ → σ) (s : σ) :
    after (tryFinally x (modify f)) s = f (after x s) := by
  simp only [after, EStateM.run, tryFinally, tryFinally', Functor.map, EStateM.map]
  cases x s <;> rfl

/-! ### What a statement leaves as it is -/

namespace Frames

variable {v : σ → γ}

lemma tryCatch {x : Py σ α} {handler : PyError → Py σ α} (hx : Frames v x)
    (hhandler : ∀ e, Frames v (handler e)) : Frames v (tryCatch x handler) := by
  intro s
  have h := hx s
  simp only [after, EStateM.run, MonadExcept.tryCatch, tryCatchThe, MonadExceptOf.tryCatch,
    EStateM.tryCatch] at h ⊢
  cases hrun : x s with
  | ok a s' =>
    rw [hrun] at h
    exact h
  | error e s' =>
    rw [hrun] at h
    exact (hhandler e s').trans h

lemma withFinally {x : Py σ α} {y : Py σ β} (hx : Frames v x) (hy : Frames v y) :
    Frames v (tryFinally x y) := by
  intro s
  have h := hx s
  simp only [after, EStateM.run, tryFinally, tryFinally', Functor.map, EStateM.map] at h ⊢
  cases hrun : x s with
  | ok a s' =>
    rw [hrun] at h
    have h' := (hy s').trans h
    simp only [after, EStateM.run] at h' ⊢
    cases hend : y s' with
    | ok b s'' | error e s'' =>
      rw [hend] at h'
      exact h'
  | error e s' =>
    rw [hrun] at h
    have h' := (hy s').trans h
    simp only [after, EStateM.run] at h' ⊢
    cases hend : y s' with
    | ok b s'' | error e' s'' =>
      rw [hend] at h'
      exact h'

lemma lift {x : Py σ α} (hx : Frames v x) : Frames (fun s : Faulty σ => v s.1) (lift x) := by
  intro s
  have h := hx s.1
  simp only [after, EStateM.run, Core.lift] at h ⊢
  cases hrun : x s.1 with
  | ok a s' =>
    rw [hrun] at h
    exact h
  | error e s' =>
    rw [hrun] at h
    exact h

lemma stmt {x : Py σ α} (hx : Frames v x) : Frames (fun s : Faulty σ => v s.1) (stmt x) := by
  rintro ⟨s, faults⟩
  cases faults with
  | nil => exact hx.lift (s, [])
  | cons fault faults =>
    cases fault with
    | none => exact hx.lift (s, faults)
    | some e => rfl

end Frames

/-! ### Where no statement raises -/

/-- Where no statement raises, the program `x` is `y`. -/
def Plain (x : Py (Faulty σ) α) (y : Py σ α) : Prop :=
  ∀ s, EStateM.run x (s, []) = EStateM.run (lift y) (s, [])

namespace Plain

lemma lift (x : Py σ α) : Plain (lift x) x := fun _ => rfl

lemma stmt (x : Py σ α) : Plain (stmt x) x := fun _ => rfl

lemma congr {x : Py (Faulty σ) α} {y z : Py σ α} (hx : Plain x y)
    (h : ∀ s, EStateM.run y s = EStateM.run z s) : Plain x z := by
  intro s
  rw [hx s]
  simp only [EStateM.run, Core.lift] at h ⊢
  rw [h]

lemma pure (a : α) : Plain (pure a : Py (Faulty σ) α) (pure a) := fun _ => rfl

lemma bind {x : Py (Faulty σ) α} {y : Py σ α} {f : α → Py (Faulty σ) β} {g : α → Py σ β}
    (hx : Plain x y) (hf : ∀ a, Plain (f a) (g a)) : Plain (x >>= f) (y >>= g) := by
  intro s
  have h := hx s
  simp only [EStateM.run, Core.lift, Bind.bind, EStateM.bind] at h ⊢
  rw [h]
  cases y s with
  | ok a s' => exact hf a s'
  | error e s' => rfl

/-- What only has a value. -/
lemma value_bind {x : Py (Faulty σ) α} {a : α} {f : α → Py (Faulty σ) β} {y : Py σ β}
    (hx : Plain x (Pure.pure a)) (hf : Plain (f a) y) : Plain (x >>= f) y :=
  fun s => by
    have h := hx s
    simp only [EStateM.run, Bind.bind, EStateM.bind] at h ⊢
    rw [h]
    exact hf s

lemma pure_bind {a : α} {f : α → Py (Faulty σ) β} {y : Py σ β} (h : Plain (f a) y) :
    Plain (Core.stmt (Pure.pure a) >>= f) y :=
  value_bind (stmt (Pure.pure a)) h

lemma ite {c : Prop} [Decidable c] {x x' : Py (Faulty σ) α} {y y' : Py σ α} (hx : Plain x y)
    (hx' : Plain x' y') : Plain (if c then x else x') (if c then y else y') := by
  split_ifs
  · exact hx
  · exact hx'

lemma forM {l : List β} {f : β → Py (Faulty σ) PUnit} {g : β → Py σ PUnit}
    (h : ∀ b, Plain (f b) (g b)) : Plain (ForM.forM l f) (ForM.forM l g) := by
  induction l with
  | nil => exact pure _
  | cons b l ih =>
    rw [List.forM_cons, List.forM_cons]
    exact bind (h b) fun _ => ih

lemma tryCatch {x : Py (Faulty σ) α} {y : Py σ α} {handler : PyError → Py (Faulty σ) α}
    {handler' : PyError → Py σ α} (hx : Plain x y)
    (hhandler : ∀ e, Plain (handler e) (handler' e)) :
    Plain (tryCatch x handler) (tryCatch y handler') := by
  intro s
  have h := hx s
  simp only [EStateM.run, Core.lift, MonadExcept.tryCatch, tryCatchThe, MonadExceptOf.tryCatch,
    EStateM.tryCatch] at h ⊢
  rw [h]
  cases y s with
  | ok a s' => rfl
  | error e s' => exact hhandler e s'

lemma withFinally {x : Py (Faulty σ) α} {x' : Py σ α} {y : Py (Faulty σ) β} {y' : Py σ β}
    (hx : Plain x x') (hy : Plain y y') : Plain (tryFinally x y) (tryFinally x' y') := by
  intro s
  have h := hx s
  simp only [EStateM.run, Core.lift, tryFinally, tryFinally', Functor.map, EStateM.map] at h ⊢
  rw [h]
  cases x' s with
  | ok a s' | error e s' =>
    have h' := hy s'
    simp only [EStateM.run, Core.lift] at h' ⊢
    rw [h']
    cases y' s' <;> rfl

end Plain

end SecuredApp.Core
