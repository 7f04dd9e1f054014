import Mathlib.Data.List.Infix
import Mathlib.Data.List.TakeWhile
import Mathlib.Tactic.Common

/-!
# C strings

A `Char` of a C string stands for one byte. Buffers are lists of such bytes, and the functions
of the C library read a buffer up to its first NUL.
-/

namespace SecuredApp.Core

/-- The bytes of a string before its terminating NUL. -/
abbrev CStr := List Char

/-- The string a buffer holds: its bytes up to the first NUL. -/
def cstr (buf : List Char) : CStr := buf.takeWhile (· ≠ '\x00')

lemma nul_not_mem_cstr (buf : List Char) : '\x00' ∉ cstr buf := by
  intro h
  simpa using List.mem_takeWhile_imp h

/-- A buffer without a NUL is read in full. -/
lemma cstr_eq_self {buf : List Char} (h : '\x00' ∉ buf) : cstr buf = buf := by
  refine List.takeWhile_eq_self_iff.mpr fun c hc => ?_
  simp only [ne_eq, decide_not, Bool.not_eq_true', decide_eq_false_iff_not]
  rintro rfl
  exact h hc

/-- What `snprintf` leaves in a buffer of `size` bytes, the last of which is for the NUL. -/
def snprintf (size : Nat) (text : CStr) : CStr := text.take (size - 1)

/-- `strstr(text, pat) != NULL`. -/
def strstr (text pat : CStr) : Bool := decide (pat <:+: text)

/-- What `fgets` reads into a buffer of `size` bytes: at most one line of the input. At the end
of file it reads nothing. -/
def fgets (size : Nat) (input : List Char) : CStr :=
  let line := input.takeWhile (· ≠ '\n') ++ (input.dropWhile (· ≠ '\n')).take 1
  cstr (line.take (size - 1))

/-- A text that fits its buffer is printed in full. -/
lemma snprintf_eq_self {size : Nat} {text : CStr} (h : text.length < size) :
    snprintf size text = text :=
  List.take_of_length_le (by omega)

end SecuredApp.Core
