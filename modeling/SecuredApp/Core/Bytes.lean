import Mathlib.Data.Nat.Digits.Defs
import Mathlib.Data.List.Induction
import Mathlib.Tactic.Ring

/-!
# Bytes and numbers

Numbers in network order: the highest byte comes first.
-/

namespace SecuredApp.Core

/-- The number that bytes stand for. -/
def ofBytes (bytes : List UInt8) : ℕ := Nat.ofDigits 256 (bytes.reverse.map UInt8.toNat)

/-- The lowest `count` bytes of a number. -/
def toBytes : ℕ → ℕ → List UInt8
  | 0, _ => []
  | count + 1, value => toBytes count (value / 256) ++ [UInt8.ofNat value]

@[simp] lemma length_toBytes (count value : ℕ) : (toBytes count value).length = count := by
  induction count generalizing value with
  | zero => rfl
  | succ count ih => rw [toBytes, List.length_append, ih, List.length_singleton]

@[simp] lemma ofBytes_nil : ofBytes [] = 0 := rfl

lemma ofBytes_append (bytes bytes' : List UInt8) :
    ofBytes (bytes ++ bytes') = ofBytes bytes * 256 ^ bytes'.length + ofBytes bytes' := by
  rw [ofBytes, List.reverse_append, List.map_append, Nat.ofDigits_append, ofBytes, ofBytes]
  rw [List.length_map, List.length_reverse]
  ring

lemma ofBytes_singleton (b : UInt8) : ofBytes [b] = b.toNat := by
  rw [ofBytes, List.reverse_singleton, List.map_singleton, Nat.ofDigits_singleton]

lemma ofBytes_cons (b : UInt8) (bytes : List UInt8) :
    ofBytes (b :: bytes) = b.toNat * 256 ^ bytes.length + ofBytes bytes := by
  rw [← List.singleton_append, ofBytes_append, ofBytes_singleton]

lemma ofBytes_lt (bytes : List UInt8) : ofBytes bytes < 256 ^ bytes.length := by
  have h := Nat.ofDigits_lt_base_pow_length (b := 256) (l := bytes.reverse.map UInt8.toNat)
    (by decide) fun x hx => by
      obtain ⟨b, -, rfl⟩ := List.mem_map.mp hx
      exact b.toNat_lt
  rwa [List.length_map, List.length_reverse] at h

lemma ofBytes_toBytes (count value : ℕ) : ofBytes (toBytes count value) = value % 256 ^ count := by
  induction count generalizing value with
  | zero => rw [toBytes, ofBytes_nil, pow_zero, Nat.mod_one]
  | succ count ih =>
    have hbyte : ofBytes [UInt8.ofNat value] = value % 256 := by
      rw [ofBytes_singleton, UInt8.toNat_ofNat']
    rw [toBytes, ofBytes_append, ih, hbyte, List.length_singleton, pow_one, pow_succ,
      Nat.mul_comm (256 ^ count) 256, Nat.mod_mul, Nat.add_comm, Nat.mul_comm]

lemma toBytes_ofBytes (bytes : List UInt8) : toBytes bytes.length (ofBytes bytes) = bytes := by
  induction bytes using List.reverseRecOn with
  | nil => rfl
  | append_singleton bytes b ih =>
    have hb : b.toNat < 256 := b.toNat_lt
    have hvalue : ofBytes (bytes ++ [b]) = ofBytes bytes * 256 + b.toNat := by
      rw [ofBytes_append, ofBytes_singleton, List.length_singleton, pow_one]
    rw [List.length_append, List.length_singleton, toBytes, hvalue]
    have hdiv : (ofBytes bytes * 256 + b.toNat) / 256 = ofBytes bytes := by omega
    have hmod : UInt8.ofNat (ofBytes bytes * 256 + b.toNat) = b := by
      apply UInt8.toNat_inj.mp
      rw [UInt8.toNat_ofNat']
      omega
    rw [hdiv, ih, hmod]

/-- Which of two byte strings of the same length is the lower one. -/
def memcmp : List UInt8 → List UInt8 → Ordering
  | a :: as, b :: bs => (compare a.toNat b.toNat).then (memcmp as bs)
  | _, _ => .eq

/-- Byte strings are compared like the numbers they stand for. -/
lemma memcmp_eq_compare {bytes bytes' : List UInt8} (h : bytes.length = bytes'.length) :
    memcmp bytes bytes' = compare (ofBytes bytes) (ofBytes bytes') := by
  induction bytes generalizing bytes' with
  | nil =>
    cases bytes' with
    | nil => rfl
    | cons b bs => cases h
  | cons a as ih =>
    cases bytes' with
    | nil => cases h
    | cons b bs =>
      have hlength : as.length = bs.length := by simpa using h
      have has := ofBytes_lt as
      have hbs := ofBytes_lt bs
      rw [memcmp, ih hlength, ofBytes_cons, ofBytes_cons, hlength]
      rw [hlength] at has
      rcases Nat.lt_trichotomy a.toNat b.toNat with hlt | heq | hgt
      · rw [Nat.compare_eq_lt.mpr hlt]
        refine (Nat.compare_eq_lt.mpr ?_).symm
        have := Nat.mul_le_mul_right (256 ^ bs.length) (Nat.succ_le_of_lt hlt)
        rw [Nat.succ_mul] at this
        omega
      · rw [heq, Nat.compare_eq_eq.mpr rfl]
        rcases Nat.lt_trichotomy (ofBytes as) (ofBytes bs) with h | h | h
        · rw [Nat.compare_eq_lt.mpr h, Nat.compare_eq_lt.mpr (by omega)]
          rfl
        · rw [h]
          simp
        · rw [Nat.compare_eq_gt.mpr h, Nat.compare_eq_gt.mpr (by omega)]
          rfl
      · rw [Nat.compare_eq_gt.mpr hgt]
        refine (Nat.compare_eq_gt.mpr ?_).symm
        have := Nat.mul_le_mul_right (256 ^ bs.length) (Nat.succ_le_of_lt hgt)
        rw [Nat.succ_mul] at this
        omega

end SecuredApp.Core
