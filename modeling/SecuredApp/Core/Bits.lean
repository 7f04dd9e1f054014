import Mathlib.Data.Nat.Bitwise
import SecuredApp.Core.Bytes

/-!
# Bits

Numbers and bytes as bits, the highest bit first.
-/

namespace SecuredApp.Core

/-- The lowest `width` bits of a number. -/
def bitsOf : ℕ → ℕ → List Bool
  | 0, _ => []
  | width + 1, value => value.testBit width :: bitsOf width value

@[simp] lemma length_bitsOf (width value : ℕ) : (bitsOf width value).length = width := by
  induction width with
  | zero => rfl
  | succ width ih => rw [bitsOf, List.length_cons, ih]

/-- The bits are those of two parts of the number. -/
lemma bitsOf_add (high low value : ℕ) :
    bitsOf (high + low) value = bitsOf high (value / 2 ^ low) ++ bitsOf low value := by
  induction high with
  | zero => rw [Nat.zero_add, bitsOf, List.nil_append]
  | succ high ih =>
    rw [Nat.add_right_comm, bitsOf, bitsOf, ih, List.cons_append, Nat.testBit_div_two_pow]

/-- The bits tell the number apart from others of this width. -/
lemma bitsOf_inj {width a b : ℕ} (ha : a < 2 ^ width) (hb : b < 2 ^ width)
    (h : bitsOf width a = bitsOf width b) : a = b := by
  have hbits : ∀ i < width, a.testBit i = b.testBit i := by
    clear ha hb
    induction width with
    | zero => exact fun i hi => absurd hi (Nat.not_lt_zero i)
    | succ width ih =>
      obtain ⟨hhead, htail⟩ := List.cons.inj h
      intro i hi
      rcases Nat.lt_succ_iff_lt_or_eq.mp hi with hi | rfl
      · exact ih htail i hi
      · exact hhead
  refine Nat.eq_of_testBit_eq fun i => ?_
  by_cases hi : i < width
  · exact hbits i hi
  · have hle : 2 ^ width ≤ 2 ^ i := Nat.pow_le_pow_right (by decide) (Nat.le_of_not_lt hi)
    rw [Nat.testBit_lt_two_pow (ha.trans_le hle), Nat.testBit_lt_two_pow (hb.trans_le hle)]

/-- Only the lowest bits count. -/
lemma bitsOf_congr {width a b : ℕ} (h : ∀ i < width, a.testBit i = b.testBit i) :
    bitsOf width a = bitsOf width b := by
  induction width with
  | zero => rfl
  | succ width ih =>
    rw [bitsOf, bitsOf, h width (Nat.lt_succ_self _), ih fun i hi => h i (Nat.lt_succ_of_lt hi)]

lemma bitsOf_mod (width value : ℕ) : bitsOf width (value % 2 ^ width) = bitsOf width value := by
  refine bitsOf_congr fun i hi => ?_
  rw [Nat.testBit_mod_two_pow, decide_eq_true hi, Bool.true_and]

/-- Without the highest bits, those of a smaller width are left. -/
lemma drop_bitsOf (count width value : ℕ) :
    (bitsOf width value).drop count = bitsOf (width - count) value := by
  induction count generalizing width with
  | zero => rfl
  | succ count ih =>
    cases width with
    | zero => rw [Nat.zero_sub, bitsOf, List.drop_nil]
    | succ width => rw [bitsOf, List.drop_succ_cons, ih, Nat.add_sub_add_right]

/-- The highest bits are those of the upper part of the number. -/
lemma take_bitsOf {count width : ℕ} (h : count ≤ width) (value : ℕ) :
    (bitsOf width value).take count = bitsOf count (value / 2 ^ (width - count)) := by
  have hsplit := bitsOf_add count (width - count) value
  rw [Nat.add_sub_cancel' h] at hsplit
  rw [hsplit, List.take_left' (length_bitsOf _ _)]

/-- The bits of bytes. -/
def bytesBits (bytes : List UInt8) : List Bool := bytes.flatMap fun b => bitsOf 8 b.toNat

@[simp] lemma bytesBits_nil : bytesBits [] = [] := rfl

lemma bytesBits_cons (b : UInt8) (bytes : List UInt8) :
    bytesBits (b :: bytes) = bitsOf 8 b.toNat ++ bytesBits bytes := List.flatMap_cons

lemma bytesBits_append (bytes bytes' : List UInt8) :
    bytesBits (bytes ++ bytes') = bytesBits bytes ++ bytesBits bytes' := List.flatMap_append

@[simp] lemma length_bytesBits (bytes : List UInt8) :
    (bytesBits bytes).length = 8 * bytes.length := by
  induction bytes with
  | nil => rfl
  | cons b bytes ih =>
    rw [bytesBits_cons, List.length_append, length_bitsOf, ih, List.length_cons]
    omega

lemma ofBytes_lt_two_pow (bytes : List UInt8) : ofBytes bytes < 2 ^ (8 * bytes.length) := by
  have h := ofBytes_lt bytes
  rwa [show (256 : ℕ) = 2 ^ 8 from rfl, ← pow_mul] at h

/-- Bytes are the number that they stand for, bit by bit. -/
lemma bytesBits_eq (bytes : List UInt8) :
    bytesBits bytes = bitsOf (8 * bytes.length) (ofBytes bytes) := by
  induction bytes using List.reverseRecOn with
  | nil => rfl
  | append_singleton bytes b ih =>
    have hb : b.toNat < 256 := b.toNat_lt
    have hvalue : ofBytes (bytes ++ [b]) = ofBytes bytes * 256 + b.toNat := by
      rw [ofBytes_append, ofBytes_singleton, List.length_singleton, pow_one]
    rw [bytesBits_append, ih, hvalue, List.length_append, List.length_singleton, Nat.mul_add,
      Nat.mul_one, bitsOf_add]
    congr 1
    · congr 1
      omega
    · rw [bytesBits_cons, bytesBits_nil, List.append_nil, ← bitsOf_mod 8 (ofBytes bytes * 256 + _)]
      congr 1
      omega

lemma bytesBits_inj {bytes bytes' : List UInt8} (h : bytesBits bytes = bytesBits bytes') :
    bytes = bytes' := by
  have hlength : bytes.length = bytes'.length := by
    have := congrArg List.length h
    rw [length_bytesBits, length_bytesBits] at this
    omega
  rw [bytesBits_eq, bytesBits_eq, ← hlength] at h
  have hvalue : ofBytes bytes = ofBytes bytes' := by
    refine bitsOf_inj (ofBytes_lt_two_pow bytes) ?_ h
    rw [hlength]
    exact ofBytes_lt_two_pow bytes'
  rw [← toBytes_ofBytes bytes, ← toBytes_ofBytes bytes', hlength, hvalue]

lemma bytesBits_toBytes (count value : ℕ) :
    bytesBits (toBytes count value) = bitsOf (8 * count) value := by
  have hpow : (256 : ℕ) ^ count = 2 ^ (8 * count) := by
    rw [pow_mul]
    rfl
  rw [bytesBits_eq, length_toBytes, ofBytes_toBytes, hpow, bitsOf_mod]

/-- Bits that start with those of a number of bytes are bytes that start with them. -/
lemma exists_of_bytesBits_append {bytes : List UInt8} {count : ℕ} {bits tail : List Bool}
    (h : bytesBits bytes = bits ++ tail) (hbits : bits.length = 8 * count) :
    ∃ before after, bytes = before ++ after ∧ before.length = count ∧ bytesBits before = bits ∧
      bytesBits after = tail := by
  have hlength : count ≤ bytes.length := by
    have := congrArg List.length h
    rw [length_bytesBits, List.length_append, hbits] at this
    omega
  refine ⟨bytes.take count, bytes.drop count, (List.take_append_drop count bytes).symm,
    List.length_take_of_le hlength, ?_⟩
  rw [← List.take_append_drop count bytes, bytesBits_append] at h
  exact List.append_inj h (by rw [length_bytesBits, List.length_take_of_le hlength, hbits])

end SecuredApp.Core
