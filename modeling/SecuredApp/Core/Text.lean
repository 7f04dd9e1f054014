import Mathlib.Algebra.Field.Rat
import Mathlib.Data.List.DropRight
import Mathlib.Data.List.Infix
import Mathlib.Tactic.Common

/-!
# Texts and their fields

The methods of Python's `str` that take a text apart, and `float`. A text is the list of its
characters. `str.split` by one character is `List.splitOn`.
-/

namespace SecuredApp.Core

/-- A text of Python. -/
abbrev Text := List Char

namespace Text

/-- The characters `str.strip` takes off. -/
def blank (c : Char) : Bool := c ∈ [' ', '\t', '\n', '\r', '\x0b', '\x0c']

def lstrip (t : Text) : Text := t.dropWhile blank

def strip (t : Text) : Text := (lstrip t).rdropWhile blank

def startsWith (t p : Text) : Bool := p.isPrefixOf t

/-- `str.split` by a text; `skip` counts the characters of a separator that are still to pass. -/
def splitFrom (sep : Text) : ℕ → Text → List Text
  | _, [] => [[]]
  | skip + 1, _ :: t => splitFrom sep skip t
  | 0, c :: t =>
    if sep <+: c :: t then [] :: splitFrom sep (sep.length - 1) t
    else (splitFrom sep 0 t).modifyHead (c :: ·)

/-- `str.split` by a text. -/
def split (sep t : Text) : List Text := splitFrom sep 0 t

/-! ### Numbers -/

/-- The sign of a number, and what is written after it. -/
def signed : Text → ℤ × Text
  | '-' :: t => (-1, t)
  | '+' :: t => (1, t)
  | t => (1, t)

/-- The digits after a decimal point, and what is written after them. -/
def fraction : Text → Text × Text
  | '.' :: t => t.span Char.isDigit
  | t => ([], t)

/-- The exponent a number ends with, if it has one. -/
def exponent : Text → Option ℤ
  | [] => some 0
  | c :: t =>
    let (sign, digits) := signed t
    if (c = 'e' ∨ c = 'E') ∧ digits ≠ [] ∧ digits.all Char.isDigit then
      some (sign * Nat.ofDigitChars 10 digits 0)
    else none

/-- `float` of a decimal number, `none` where it raises. The values are not rounded, and the names
of the infinities and of NaN are left out. -/
def float (t : Text) : Option Rat :=
  let (sign, t) := signed (strip t)
  let (whole, t) := t.span Char.isDigit
  let (fraction, t) := fraction t
  if whole = [] ∧ fraction = [] then none
  else (exponent t).map fun (exponent : ℤ) =>
    sign * Nat.ofDigitChars 10 (whole ++ fraction) 0 * (10 : Rat) ^ (exponent - fraction.length)

/-! ### Blanks -/

variable {p pad t : Text} {c : Char}

/-- The text is not empty, and no blank stands at either of its ends. -/
def Solid (t : Text) : Prop :=
  (∃ c ∈ t.head?, blank c = false) ∧ ∃ c ∈ t.getLast?, blank c = false

instance (t : Text) : Decidable (Solid t) :=
  decidable_of_iff (t.head?.any (!blank ·) = true ∧ t.getLast?.any (!blank ·) = true) <| by
    simp only [Solid, Option.any_eq_true, Bool.not_eq_true', Option.mem_def]

lemma solid_of_forall (hne : t ≠ []) (h : ∀ c ∈ t, blank c = false) : Solid t := by
  refine ⟨⟨t.head hne, List.head_mem_head? hne, h _ (List.head_mem hne)⟩, ?_⟩
  exact ⟨t.getLast hne, List.getLast_mem_getLast? hne, h _ (List.getLast_mem hne)⟩

lemma Solid.append {q : Text} (hp : Solid p) (hq : Solid q) : Solid (p ++ t ++ q) := by
  obtain ⟨⟨c, hc, hhead⟩, -⟩ := hp
  obtain ⟨-, c', hc', hlast⟩ := hq
  refine ⟨⟨c, ?_, hhead⟩, c', ?_, hlast⟩
  · rw [Option.mem_def] at hc ⊢
    rw [List.append_assoc, List.head?_append, hc, Option.some_or]
  · rw [Option.mem_def] at hc' ⊢
    rw [List.getLast?_append, hc', Option.some_or]

lemma lstrip_append (hpad : ∀ c ∈ pad, blank c = true) (hp : ∃ c ∈ p.head?, blank c = false) :
    lstrip (pad ++ p ++ t) = p ++ t := by
  obtain ⟨c, hc, hblank⟩ := hp
  cases p with
  | nil => cases hc
  | cons c' p =>
    obtain rfl := Option.some.inj hc
    rw [lstrip, List.append_assoc, List.dropWhile_append_of_pos hpad, List.cons_append,
      List.dropWhile_cons_of_neg (by simp [hblank])]

/-- Blanks in front of a text go, and so do those at the end of what follows it. -/
lemma strip_append (hpad : ∀ c ∈ pad, blank c = true) (hp : Solid p) :
    strip (pad ++ p ++ t) = p ++ t.rdropWhile blank := by
  obtain ⟨hhead, c, hc, hlast⟩ := hp
  rw [strip, lstrip_append hpad hhead]
  induction t using List.reverseRecOn with
  | nil =>
    rw [List.append_nil, List.rdropWhile_nil, List.append_nil]
    refine List.rdropWhile_eq_self_iff.mpr fun hne => ?_
    rw [List.getLast?_eq_some_getLast hne, Option.mem_some_iff] at hc
    rw [hc, hlast]
    exact Bool.false_ne_true
  | append_singleton t c' ih =>
    rw [← List.append_assoc]
    by_cases hblank : blank c' = true
    · rw [List.rdropWhile_concat_pos _ _ _ hblank, List.rdropWhile_concat_pos _ _ _ hblank, ih]
    · rw [List.rdropWhile_concat_neg _ _ _ hblank, List.rdropWhile_concat_neg _ _ _ hblank,
        List.append_assoc]

lemma strip_pad (hpad : ∀ c ∈ pad, blank c = true) (hp : Solid p) : strip (pad ++ p) = p := by
  have h := strip_append (t := []) hpad hp
  rwa [List.append_nil, List.rdropWhile_nil, List.append_nil] at h

lemma strip_of_solid (hp : Solid p) : strip p = p := by
  have hnil : ∀ c ∈ ([] : Text), blank c = true := by simp
  exact strip_pad hnil hp

lemma strip_ne_nil (hc : c ∈ t) (hblank : blank c = false) : strip t ≠ [] := by
  intro h
  have hall : ∀ c ∈ lstrip t, blank c = true := List.rdropWhile_eq_nil_iff.mp h
  have hnil : lstrip t = [] := by
    by_contra hne
    exact Bool.false_ne_true ((List.head_dropWhile_not blank hne).symm.trans
      (hall _ (List.head_mem hne)))
  have hmem := List.dropWhile_eq_nil_iff.mp hnil c hc
  rw [hblank] at hmem
  cases hmem

/-- What a stripped text begins with it begins with when it is stripped on the left only. -/
lemma startsWith_lstrip (h : startsWith (strip t) p = true) : startsWith (lstrip t) p = true := by
  rw [startsWith, List.isPrefixOf_iff_prefix] at h ⊢
  exact h.trans (List.rdropWhile_prefix _ _)

/-! ### Splitting -/

variable {sep : Text}

lemma splitFrom_append (skip : Text) : splitFrom sep skip.length (skip ++ t) = split sep t := by
  induction skip with
  | nil => rfl
  | cons c skip ih => rw [List.length_cons, List.cons_append, splitFrom, ih]

/-- The first piece is what stands before the first place where the separator is. -/
lemma split_append (hsep : sep ≠ []) (h : ¬ sep <:+: p ++ sep.dropLast) :
    split sep (p ++ sep ++ t) = p :: split sep t := by
  induction p with
  | nil =>
    cases sep with
    | nil => exact absurd rfl hsep
    | cons c sep =>
      have hprefix : c :: sep <+: c :: (sep ++ t) := List.prefix_append (c :: sep) t
      rw [List.nil_append, List.cons_append, split, splitFrom, if_pos hprefix]
      exact congrArg _ (splitFrom_append sep)
  | cons c p ih =>
    have hnot : ¬ sep <+: c :: (p ++ sep ++ t) := by
      intro hprefix
      have hlen : sep.length ≤ (c :: p ++ sep.dropLast).length := by
        simp only [List.cons_append, List.length_cons, List.length_append, List.length_dropLast]
        omega
      have hpre : c :: p ++ sep.dropLast <+: c :: (p ++ sep ++ t) := by
        rw [List.append_assoc, ← List.cons_append]
        refine (List.prefix_append_right_inj _).mpr ?_
        exact (List.dropLast_prefix sep).trans (List.prefix_append _ _)
      exact h (List.prefix_of_prefix_length_le hprefix hpre hlen).isInfix
    rw [List.cons_append, List.cons_append, split, splitFrom, if_neg hnot]
    have hrest : ¬ sep <:+: p ++ sep.dropLast := fun hinfix => h (List.infix_cons hinfix)
    have hsplit := ih hrest
    rw [split] at hsplit
    rw [hsplit, List.modifyHead_cons]

/-- A text without the separator is one piece. -/
lemma split_eq_singleton (h : ¬ sep <:+: t) : split sep t = [t] := by
  induction t with
  | nil => rfl
  | cons c t ih =>
    have hnot : ¬ sep <+: c :: t := fun hprefix => h hprefix.isInfix
    have hsplit := ih fun hinfix => h (List.infix_cons hinfix)
    rw [split] at hsplit
    rw [split, splitFrom, if_neg hnot, hsplit, List.modifyHead_cons]

lemma split_ne_nil (sep t : Text) : split sep t ≠ [] := by
  have h (skip : ℕ) : splitFrom sep skip t ≠ [] := by
    induction t generalizing skip with
    | nil => exact List.cons_ne_nil _ _
    | cons c t ih =>
      cases skip with
      | succ skip => exact ih skip
      | zero =>
        rw [splitFrom]
        split_ifs
        · exact List.cons_ne_nil _ _
        · rw [ne_eq, List.modifyHead_eq_nil_iff]
          exact ih 0
  exact h 0

/-- What stands before a separator and does not have its first character is not split. -/
lemma split_append_left {c : Char} {sep p : Text} (hc : c ∉ p) (t : Text) :
    split (c :: sep) (p ++ t) = (split (c :: sep) t).modifyHead (p ++ ·) := by
  induction p with
  | nil =>
    show split (c :: sep) t = (split (c :: sep) t).modifyHead id
    rw [List.modifyHead_id, id]
  | cons c' p ih =>
    rw [List.mem_cons, not_or] at hc
    have hnot : ¬ c :: sep <+: c' :: (p ++ t) := by
      rw [List.cons_prefix_cons]
      exact fun h => hc.1 h.1
    have hsplit := ih hc.2
    rw [split] at hsplit
    rw [List.cons_append, split, splitFrom, if_neg hnot, hsplit, List.modifyHead_modifyHead]
    rfl

lemma split_append_sep {c : Char} {sep p : Text} (hc : c ∉ p) (t : Text) :
    split (c :: sep) (p ++ (c :: sep ++ t)) = p :: split (c :: sep) t := by
  have hnot : ¬ c :: sep <:+: [] ++ (c :: sep).dropLast := by
    intro h
    have hlen := h.length_le
    rw [List.nil_append, List.length_dropLast, List.length_cons] at hlen
    omega
  have hsplit : split (c :: sep) (c :: sep ++ t) = [] :: split (c :: sep) t :=
    split_append (List.cons_ne_nil c sep) hnot
  rw [split_append_left hc, hsplit, List.modifyHead_cons, List.append_nil]

/-- A text that has the separator has a first place where it is. -/
lemma exists_first_place (hsep : sep ≠ []) (h : sep <:+: t) :
    ∃ p rest, t = p ++ sep ++ rest ∧ ¬ sep <:+: p ++ sep.dropLast := by
  induction t with
  | nil => exact absurd (List.infix_nil.mp h) hsep
  | cons c t ih =>
    by_cases hprefix : sep <+: c :: t
    · obtain ⟨rest, hrest⟩ := hprefix
      refine ⟨[], rest, hrest.symm, fun hinfix => ?_⟩
      have hlen := hinfix.length_le
      have hpos := List.length_pos_of_ne_nil hsep
      rw [List.nil_append, List.length_dropLast] at hlen
      omega
    · obtain ⟨p, rest, rfl, hnot⟩ := ih ((List.infix_cons_iff.mp h).resolve_left hprefix)
      refine ⟨c :: p, rest, rfl, fun hinfix => ?_⟩
      rcases List.infix_cons_iff.mp hinfix with hhead | htail
      · have hrest : p ++ sep.dropLast <+: p ++ sep ++ rest := by
          rw [List.append_assoc, List.prefix_append_right_inj]
          exact (List.dropLast_prefix sep).trans (List.prefix_append sep rest)
        exact hprefix (hhead.trans (List.cons_prefix_cons.mpr ⟨rfl, hrest⟩))
      · exact hnot htail

/-- There is a second piece exactly if the text has the separator. -/
lemma split_getElem?_one (hsep : sep ≠ []) (t : Text) :
    (split sep t)[1]?.isSome ↔ sep <:+: t := by
  constructor
  · intro h
    by_contra hnot
    rw [split_eq_singleton hnot] at h
    cases h
  · intro h
    obtain ⟨p, rest, rfl, hnot⟩ := exists_first_place hsep h
    obtain ⟨piece, pieces, hsplit⟩ := List.exists_cons_of_ne_nil (split_ne_nil sep rest)
    rw [split_append hsep hnot, hsplit]
    rfl

/-- A text has a second field if the character that separates the fields is in it. -/
lemma exists_splitOn_one (hc : c ∈ t) : ∃ piece, (t.splitOn c)[1]? = some piece := by
  obtain ⟨p, rest, rfl, hnot⟩ := List.eq_append_cons_of_mem hc
  obtain ⟨piece, pieces, hsplit⟩ := List.exists_cons_of_ne_nil (List.splitOn_ne_nil c rest)
  refine ⟨piece, ?_⟩
  rw [List.splitOn_append_cons_self_of_not_mem hnot, hsplit]
  rfl

/-- The first field goes up to the first character that separates, or up to the end. -/
lemma splitOn_zero_append (hp : c ∉ p) (ht : t = [] ∨ ∃ rest, t = c :: rest) :
    ((p ++ t).splitOn c)[0]? = some p := by
  rcases ht with rfl | ⟨rest, rfl⟩
  · rw [List.append_nil, List.splitOn_eq_singleton hp]
    rfl
  · rw [List.splitOn_append_cons_self_of_not_mem hp]
    rfl

lemma rdropWhile_cons (p : Char → Bool) (c : Char) (t : Text) :
    (c :: t).rdropWhile p = [] ∨ ∃ rest, (c :: t).rdropWhile p = c :: rest := by
  rcases List.prefix_cons_iff.mp (List.rdropWhile_prefix p (c :: t)) with h | ⟨rest, h, _⟩
  · exact .inl h
  · exact .inr ⟨rest, h⟩

/-! ### Lines -/

lemma splitOn_lines {lines : List Text} (h : ∀ s ∈ lines, '\n' ∉ s) :
    (lines.flatMap (· ++ ['\n'])).splitOn '\n' = lines ++ [[]] := by
  induction lines with
  | nil => rfl
  | cons s lines ih =>
    rw [List.forall_mem_cons] at h
    rw [List.flatMap_cons, List.append_assoc, List.singleton_append,
      List.splitOn_append_cons_self_of_not_mem h.1, ih h.2, List.cons_append]

/-! ### Decimal numbers -/

lemma blank_of_isDigit (h : c.isDigit = true) : blank c = false := by
  rw [blank, decide_eq_false_iff_not]
  intro hmem
  simp only [List.mem_cons, List.not_mem_nil, or_false] at hmem
  rcases hmem with rfl | rfl | rfl | rfl | rfl | rfl <;> cases h

lemma signed_of_isDigit (h : ∀ c ∈ t, c.isDigit = true) : signed t = (1, t) := by
  rw [signed.eq_def]
  split
  · cases h '-' List.mem_cons_self
  · cases h '+' List.mem_cons_self
  · rfl

/-- The digits of a number are read as that number. -/
lemma float_toDigits (n : ℕ) : float (Nat.toDigits 10 n) = some (n : Rat) := by
  have hdigit : ∀ c ∈ Nat.toDigits 10 n, c.isDigit = true := fun c hc =>
    Nat.isDigit_of_mem_toDigits (by decide) (by decide) hc
  have hsolid : Solid (Nat.toDigits 10 n) :=
    solid_of_forall Nat.toDigits_ne_nil fun c hc => blank_of_isDigit (hdigit c hc)
  have hspan : (Nat.toDigits 10 n).span Char.isDigit = (Nat.toDigits 10 n, []) := by
    rw [List.span_eq_takeWhile_dropWhile, List.takeWhile_eq_self_iff.mpr hdigit,
      List.dropWhile_eq_nil_iff.mpr hdigit]
  simp only [float, strip_of_solid hsolid, signed_of_isDigit hdigit, hspan]
  simp [fraction, exponent, Nat.ofDigitChars_ten_toDigits]

end Text

end SecuredApp.Core
