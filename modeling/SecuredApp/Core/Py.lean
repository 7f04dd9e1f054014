import Mathlib.Tactic.Common
import SecuredApp.Core.Json

/-!
# Python statements

A statement is a function on the program's state that returns a value or raises an exception;
what it assigned before it raised stays assigned. External calls that may fail are given by
their outcomes.
-/

namespace SecuredApp.Core

/-- The exceptions told apart by where they come from. -/
inductive PyError where
  | typeError        -- an operator applied to values it is not defined on
  | lookupError      -- a missing key, index, section or option
  | attributeError   -- an attribute that was never assigned
  | unboundLocal     -- a local variable read before it was assigned
  | unicodeError     -- a text that `str` cannot encode
  | external         -- an operating system, network or D-Bus call that fails
deriving DecidableEq

/-- Statements over the state `σ` with a value in `α`. -/
abbrev Py (σ : Type) := EStateM PyError σ

variable {σ α β : Type}

/-- The state a statement leaves, whether it returns or raises. -/
def after (x : Py σ α) (s : σ) : σ :=
  match EStateM.run x s with
  | .ok _ s' => s'
  | .error _ s' => s'

/-- The statement raises nothing. -/
def returns (x : Py σ α) (s : σ) : Bool :=
  match EStateM.run x s with
  | .ok _ _ => true
  | .error _ _ => false

@[simp] lemma after_pure (a : α) (s : σ) : after (pure a) s = s := rfl

@[simp] lemma after_modify (f : σ → σ) (s : σ) : after (modify f) s = f s := rfl

@[simp] lemma after_throw (e : PyError) (s : σ) : after (throw e : Py σ α) s = s := rfl

@[simp] lemma after_get_bind (f : σ → Py σ α) (s : σ) : after (get >>= f) s = after (f s) s := rfl

@[simp] lemma after_modify_bind (g : σ → σ) (f : PUnit → Py σ α) (s : σ) :
    after (modify g >>= f) s = after (f ⟨⟩) (g s) := rfl

lemma after_of_ok {x : Py σ α} {s s' : σ} {a : α} (h : EStateM.run x s = .ok a s') :
    after x s = s' := by
  rw [after, h]

lemma after_bind_of_ok {x : Py σ α} {f : α → Py σ β} {s s' : σ} {a : α}
    (h : EStateM.run x s = .ok a s') : after (x >>= f) s = after (f a) s' := by
  rw [after, EStateM.run_bind, h, after]

lemma after_bind_of_error {x : Py σ α} {f : α → Py σ β} {s s' : σ} {e : PyError}
    (h : EStateM.run x s = .error e s') : after (x >>= f) s = s' := by
  rw [after, EStateM.run_bind, h]

/-- A handler that does nothing leaves the state of the statement it guards. -/
@[simp] lemma after_tryCatch_pure (x : Py σ PUnit) (s : σ) :
    after (tryCatch x fun _ => pure ⟨⟩) s = after x s := by
  simp only [after, EStateM.run, tryCatch, tryCatchThe, MonadExceptOf.tryCatch, EStateM.tryCatch]
  cases x s <;> rfl

/-- What a guarded statement does: the exception it may raise goes no further. -/
lemma run_tryCatch_pure (x : Py σ PUnit) (s : σ) :
    EStateM.run (tryCatch x fun _ => pure ⟨⟩) s = .ok ⟨⟩ (after x s) := by
  simp only [after, EStateM.run, tryCatch, tryCatchThe, MonadExceptOf.tryCatch, EStateM.tryCatch]
  cases x s <;> rfl

/-! ### What a statement keeps -/

/-- The statement keeps the property `I` of the state, whether it returns or raises. -/
def Keeps (I : σ → Prop) (x : Py σ α) : Prop := ∀ s, I s → I (after x s)

namespace Keeps

variable {I : σ → Prop}

lemma state_after {x : Py σ α} (hx : Keeps I x) {s : σ} (hs : I s) : I (after x s) := hx s hs

lemma pure (a : α) : Keeps I (pure a) := fun _ hs => hs

lemma throw_bind (e : PyError) (f : α → Py σ β) : Keeps I ((throw e : Py σ α) >>= f) :=
  fun _ hs => hs

lemma throw (e : PyError) : Keeps I (throw e : Py σ α) := fun _ hs => hs

lemma modify {f : σ → σ} (h : ∀ s, I s → I (f s)) : Keeps I (modify f) := h

/-- What holds after a statement that keeps `I` and the one that goes on from there, where `I`
gives it at once if the first one raises. -/
lemma after_bind {R : σ → Prop} {x : Py σ α} {f : α → Py σ β} (hx : Keeps I x)
    (hraise : ∀ s, I s → R s) (hf : ∀ a s, I s → R (after (f a) s)) {s : σ} (hs : I s) :
    R (after (x >>= f) s) := by
  have h := hx s hs
  rw [after] at h
  cases hrun : EStateM.run x s with
  | ok a s' =>
    rw [hrun] at h
    rw [after_bind_of_ok hrun]
    exact hf a s' h
  | error e s' =>
    rw [hrun] at h
    rw [after_bind_of_error hrun]
    exact hraise s' h

lemma bind {x : Py σ α} {f : α → Py σ β} (hx : Keeps I x) (hf : ∀ a, Keeps I (f a)) :
    Keeps I (x >>= f) :=
  fun _ hs => hx.after_bind (fun _ h => h) hf hs

lemma and {J : σ → Prop} {x : Py σ α} (hI : Keeps I x) (hJ : Keeps J x) :
    Keeps (fun s => I s ∧ J s) x :=
  fun s hs => ⟨hI s hs.1, hJ s hs.2⟩

/-- What one statement establishes still holds after the ones that keep it. -/
lemma after_bind_of_after {x : Py σ α} {f : α → Py σ β} (hf : ∀ a, Keeps I (f a)) {s : σ}
    (hx : I (after x s)) : I (after (x >>= f) s) := by
  cases hrun : EStateM.run x s with
  | ok a s' =>
    rw [after_of_ok hrun] at hx
    rw [after_bind_of_ok hrun]
    exact hf a s' hx
  | error e s' =>
    rw [after, hrun] at hx
    rw [after_bind_of_error hrun]
    exact hx

/-- A statement that reads the state first may use that the property holds of what it read. -/
lemma get_bind {f : σ → Py σ α} (h : ∀ s, I s → Keeps I (f s)) : Keeps I (get >>= f) :=
  fun s hs => h s hs s hs

lemma ite {c : Prop} [Decidable c] {x y : Py σ α} (hx : c → Keeps I x) (hy : ¬ c → Keeps I y) :
    Keeps I (if c then x else y) := by
  split_ifs with hc
  · exact hx hc
  · exact hy hc

lemma forM {l : List β} {f : β → Py σ PUnit} (h : ∀ b ∈ l, Keeps I (f b)) :
    Keeps I (ForM.forM l f) := by
  induction l with
  | nil => exact pure _
  | cons b l ih =>
    rw [List.forM_cons]
    refine bind (h b List.mem_cons_self) fun _ => ih fun b' hb' => ?_
    exact h b' (List.mem_cons_of_mem _ hb')

end Keeps

/-! ### What a statement leaves as it is -/

/-- The statement writes nothing that the view `v` of the state shows. -/
def Frames {γ : Type} (v : σ → γ) (x : Py σ α) : Prop := ∀ s, v (after x s) = v s

namespace Frames

variable {γ : Type} {v : σ → γ}

lemma of_keeps {x : Py σ α} (h : ∀ c, Keeps (fun s => v s = c) x) : Frames v x :=
  fun s => h (v s) s rfl

lemma keeps {x : Py σ α} (h : Frames v x) (c : γ) : Keeps (fun s => v s = c) x :=
  fun s hs => (h s).trans hs

lemma pure (a : α) : Frames v (pure a : Py σ α) := fun _ => rfl

lemma throw (e : PyError) : Frames v (throw e : Py σ α) := fun _ => rfl

lemma modify {f : σ → σ} (h : ∀ s, v (f s) = v s) : Frames v (modify f) := h

lemma bind {x : Py σ α} {f : α → Py σ β} (hx : Frames v x) (hf : ∀ a, Frames v (f a)) :
    Frames v (x >>= f) :=
  of_keeps fun c => (hx.keeps c).bind fun a => (hf a).keeps c

lemma get_bind {f : σ → Py σ α} (h : ∀ s, Frames v (f s)) : Frames v (get >>= f) :=
  of_keeps fun c => .get_bind fun s _ => (h s).keeps c

lemma ite {c : Prop} [Decidable c] {x y : Py σ α} (hx : Frames v x) (hy : Frames v y) :
    Frames v (if c then x else y) := by
  split_ifs
  · exact hx
  · exact hy

lemma forM {l : List β} {f : β → Py σ PUnit} (h : ∀ b, Frames v (f b)) :
    Frames v (ForM.forM l f) :=
  of_keeps fun c => .forM fun b _ => (h b).keeps c

lemma tryCatch_pure {x : Py σ PUnit} (h : Frames v x) :
    Frames v (tryCatch x fun _ => Pure.pure ⟨⟩) := by
  intro s
  rw [after_tryCatch_pure]
  exact h s

/-- The end of a statement that the view does not show. -/
lemma after_bind {x : Py σ α} {f : α → Py σ β} (hf : ∀ a, Frames v (f a)) (s : σ) :
    v (after (x >>= f) s) = v (after x s) := by
  cases hrun : EStateM.run x s with
  | ok a s' => rw [after_bind_of_ok hrun, after_of_ok hrun, hf a s']
  | error e s' => rw [after_bind_of_error hrun, after, hrun]

end Frames

/-! ### Operators -/

/-- The operand of a `+` with a text: `None` raises `TypeError`. -/
def concatText : Option String → Py σ String
  | none => throw .typeError
  | some s => pure s

/-- `d[key]` of a value that came from `json.loads`. -/
def getItem : Json → String → Py σ Json
  | .obj members, key =>
    match members.lookup key with
    | none => throw .lookupError
    | some j => pure j
  | _, _ => throw .typeError

/-- The value of a key, none for what is not an object. -/
def Json.member? : Json → String → Option Json
  | .obj members, key => members.lookup key
  | _, _ => none

lemma getItem_of_member {j x : Json} {key : String} (h : j.member? key = some x) :
    (getItem j key : Py σ Json) = pure x := by
  cases j with
  | obj members =>
    rw [Json.member?] at h
    simp [getItem, h]
  | _ => cases h

lemma getItem_of_not_member {j : Json} {key : String} (h : j.member? key = none) :
    ∃ e, (getItem j key : Py σ Json) = throw e := by
  cases j with
  | obj members =>
    rw [Json.member?] at h
    exact ⟨.lookupError, by simp [getItem, h]⟩
  | _ => exact ⟨.typeError, rfl⟩

/-- An item of a list; a string has its characters as items. -/
def Json.index? : Json → Nat → Option Json
  | .arr elems, i => elems[i]?
  | .str s, i => s.toList[i]?.map fun c => .str (String.ofList [c])
  | _, _ => none

lemma frames_concatText {γ : Type} {v : σ → γ} (s : Option String) : Frames v (concatText s) := by
  cases s with
  | none => exact .throw _
  | some s => exact .pure _

lemma frames_getItem {γ : Type} {v : σ → γ} (j : Json) (key : String) :
    Frames v (getItem j key) := by
  cases hmember : j.member? key with
  | none =>
    obtain ⟨e, he⟩ := getItem_of_not_member hmember
    rw [he]
    exact .throw e
  | some x =>
    rw [getItem_of_member hmember]
    exact .pure x

/-- `j == n` for an integer: a float may be equal to it, and `True` is 1. -/
def eqInt : Json → Int → Bool
  | .int m, n => m = n
  | .double q, n => q = n
  | .bool b, n => (if b then 1 else 0) = n
  | _, _ => false

/-- The text of a value that came from `json.loads`, as the operand of a `+` with a text. -/
def jsonText : Json → Py σ String
  | .str s => pure s
  | _ => throw .typeError

lemma frames_jsonText {γ : Type} {v : σ → γ} (j : Json) : Frames v (jsonText j) := by
  cases j with
  | str s => exact .pure s
  | _ => exact .throw _

end SecuredApp.Core
