import SecuredApp.Encoding.Format

/-!
# Fields

What the parser reads of its input and what the generator adds to its output, as bits.
-/

namespace SecuredApp

open SecuredApp.Core

/-! ### Reading -/

namespace Parser

/-- The bits from the current one on. -/
def bits (p : Parser) : List Bool := (bytesBits p.input).drop p.bitPos

/-- The parser is at a place of the layout, in a byte of its input unless it stands before one. -/
def At (s : ℕ) (p : Parser) : Prop := p.bitPos = position s ∧ (p.bitPos = 0 ∨ p.input ≠ [])

lemma at_zero {p : Parser} : p.At 0 ↔ p.bitPos = 0 :=
  ⟨And.left, fun h => ⟨h, .inl h⟩⟩

lemma bits_of_bitPos {p : Parser} (h : p.bitPos = 0) : p.bits = bytesBits p.input := by
  rw [bits, h, List.drop_zero]

/-- In a byte, its lower bits are still to come. -/
lemma bits_cons {b : UInt8} {rest : List UInt8} {k : ℕ} (hk : k ≤ 8) :
    bits ⟨b :: rest, k⟩ = bitsOf (8 - k) b.toNat ++ bytesBits rest := by
  rw [bits, bytesBits_cons, List.drop_append_of_le_length (by rwa [length_bitsOf]), drop_bitsOf]

section Number

variable {p p' : Parser} {count value : ℕ} {tail : List Bool}

lemma parseUint_sound (h : p.parseUint count = some (value, p')) :
    p.bitPos = 0 ∧ value < 2 ^ (8 * count) ∧ p'.bitPos = 0 ∧
      p.bits = bitsOf (8 * count) value ++ p'.bits := by
  rw [parseUint] at h
  split_ifs at h with hlength hpos
  obtain ⟨rfl, rfl⟩ := Prod.mk.inj (Option.some.inj h)
  rw [ne_eq, not_not] at hpos
  have htake : (p.input.take count).length = count :=
    List.length_take_of_le (Nat.le_of_not_lt hlength)
  refine ⟨hpos, ?_, rfl, ?_⟩
  · have hlt := ofBytes_lt_two_pow (p.input.take count)
    rwa [htake] at hlt
  · have hbits := bytesBits_eq (p.input.take count)
    rw [htake] at hbits
    rw [bits_of_bitPos hpos, bits_of_bitPos rfl, ← hbits, ← bytesBits_append,
      List.take_append_drop]

lemma parseUint_complete (hpos : p.bitPos = 0) (hvalue : value < 2 ^ (8 * count))
    (hbits : p.bits = bitsOf (8 * count) value ++ tail) :
    ∃ p', p.parseUint count = some (value, p') ∧ p'.bitPos = 0 ∧ p'.bits = tail := by
  rw [bits_of_bitPos hpos] at hbits
  obtain ⟨before, after, hinput, hlength, hbefore, hafter⟩ :=
    exists_of_bytesBits_append hbits (length_bitsOf _ _)
  have hread : ofBytes before = value := by
    rw [bytesBits_eq, hlength] at hbefore
    refine bitsOf_inj ?_ hvalue hbefore
    rw [← hlength]
    exact ofBytes_lt_two_pow before
  refine ⟨⟨after, 0⟩, ?_, rfl, hafter⟩
  rw [parseUint, if_neg (by rw [hinput, List.length_append]; omega), if_neg (not_not.mpr hpos),
    hinput, List.take_left' hlength, List.drop_left' hlength, hread]

end Number

lemma parseUint4_high (b : UInt8) (rest : List UInt8) :
    parseUint4 ⟨b :: rest, 0⟩ = some (b.toNat / 2 ^ 4, ⟨b :: rest, 4⟩) := by
  rw [← Nat.shiftRight_eq_div_pow]
  rfl

lemma parseUint4_low (b : UInt8) (rest : List UInt8) :
    parseUint4 ⟨b :: rest, 4⟩ = some (b.toNat % 2 ^ 4, ⟨rest, 0⟩) := by
  rw [← Nat.and_two_pow_sub_one_eq_mod]
  rfl

lemma bits_high (b : UInt8) (rest : List UInt8) :
    bits ⟨b :: rest, 0⟩ = bitsOf 4 (b.toNat / 2 ^ 4) ++ bits ⟨b :: rest, 4⟩ := by
  rw [bits_cons (by decide), bits_cons (by decide), ← List.append_assoc, ← bitsOf_add]

lemma bits_low (b : UInt8) (rest : List UInt8) :
    bits ⟨b :: rest, 4⟩ = bitsOf 4 (b.toNat % 2 ^ 4) ++ bytesBits rest := by
  rw [bits_cons (by decide), bitsOf_mod]

/-- A half byte stands at the start or behind another one. -/
lemma next_uint4 {s s' : ℕ} (h : Reading.uint4.next s = some s') :
    (s = 0 ∧ s' = 8) ∨ (s = 8 ∧ s' = 0) := by
  rw [Reading.next] at h
  split_ifs at h with h0 h8
  · exact .inl ⟨h0, (Option.some.inj h).symm⟩
  · exact .inr ⟨h8, (Option.some.inj h).symm⟩

lemma parseUint4_sound {p p' : Parser} {value s s' : ℕ} (h : p.parseUint4 = some (value, p'))
    (hp : p.At s) (hs : Reading.uint4.next s = some s') :
    value < 2 ^ 4 ∧ p'.At s' ∧ p.bits = bitsOf 4 value ++ p'.bits := by
  obtain ⟨input, k⟩ := p
  obtain ⟨rfl, -⟩ := hp
  cases input with
  | nil => cases h
  | cons b rest =>
    have hb : b.toNat < 2 ^ 8 := b.toNat_lt
    obtain ⟨rfl, rfl⟩ | ⟨rfl, rfl⟩ := next_uint4 hs
    · obtain ⟨rfl, rfl⟩ := Prod.mk.inj (Option.some.inj ((parseUint4_high b rest).symm.trans h))
      exact ⟨by omega, ⟨rfl, .inr (List.cons_ne_nil _ _)⟩, bits_high b rest⟩
    · obtain ⟨rfl, rfl⟩ := Prod.mk.inj (Option.some.inj ((parseUint4_low b rest).symm.trans h))
      exact ⟨Nat.mod_lt _ (by decide), at_zero.mpr rfl, bits_low b rest⟩

lemma parseUint4_complete {p : Parser} {value s s' : ℕ} {tail : List Bool} (hp : p.At s)
    (hs : Reading.uint4.next s = some s') (hvalue : value < 2 ^ 4)
    (hbits : p.bits = bitsOf 4 value ++ tail) :
    ∃ p', p.parseUint4 = some (value, p') ∧ p'.At s' ∧ p'.bits = tail := by
  obtain ⟨input, k⟩ := p
  obtain ⟨rfl, -⟩ := hp
  cases input with
  | nil =>
    rw [bits, bytesBits_nil, List.drop_nil] at hbits
    cases (List.append_eq_nil_iff.mp hbits.symm).1
  | cons b rest =>
    have hb : b.toNat < 2 ^ 8 := b.toNat_lt
    obtain ⟨rfl, rfl⟩ | ⟨rfl, rfl⟩ := next_uint4 hs
    · obtain ⟨hread, htail⟩ := List.append_inj ((bits_high b rest).symm.trans hbits)
        (by rw [length_bitsOf, length_bitsOf])
      refine ⟨⟨b :: rest, 4⟩, ?_, ⟨rfl, .inr (List.cons_ne_nil _ _)⟩, htail⟩
      rw [← bitsOf_inj (by omega) hvalue hread]
      exact parseUint4_high b rest
    · obtain ⟨hread, htail⟩ := List.append_inj ((bits_low b rest).symm.trans hbits)
        (by rw [length_bitsOf, length_bitsOf])
      refine ⟨⟨rest, 0⟩, ?_, at_zero.mpr rfl, htail⟩
      rw [← bitsOf_inj (Nat.mod_lt _ (by decide)) hvalue hread]
      exact parseUint4_low b rest

/-- Behind the first bit of two bytes are the 15 lowest bits of their number. -/
lemma bits_uint15 (b b' : UInt8) (rest : List UInt8) :
    bits ⟨b :: b' :: rest, 1⟩ = bitsOf 15 (ofBytes [b, b'] % 2 ^ 15) ++ bytesBits rest := by
  have htwo : bytesBits [b, b'] = bitsOf 16 (ofBytes [b, b']) := bytesBits_eq [b, b']
  have hbytes : bytesBits (b :: b' :: rest) = bitsOf 16 (ofBytes [b, b']) ++ bytesBits rest := by
    rw [← htwo, ← bytesBits_append]
    rfl
  have hone : 1 ≤ (bitsOf 16 (ofBytes [b, b'])).length := by
    rw [length_bitsOf]
    decide
  rw [bits, hbytes, bitsOf_mod]
  exact (List.drop_append_of_le_length hone).trans (by rw [drop_bitsOf])

lemma parseUint15_eq (b b' : UInt8) (rest : List UInt8) :
    parseUint15 ⟨b :: b' :: rest, 1⟩ = some (ofBytes [b, b'] % 2 ^ 15, ⟨rest, 0⟩) := by
  rw [← Nat.and_two_pow_sub_one_eq_mod]
  rfl

/-- The type of an attribute stands behind the first bit of a byte. -/
lemma next_uint15 {s s' : ℕ} (h : Reading.uint15.next s = some s') : s = 1 ∧ s' = 0 := by
  rw [Reading.next] at h
  split_ifs at h with h1
  exact ⟨h1, (Option.some.inj h).symm⟩

lemma parseUint15_sound {p p' : Parser} {value s s' : ℕ} (h : p.parseUint15 = some (value, p'))
    (hp : p.At s) (hs : Reading.uint15.next s = some s') :
    value < 2 ^ 15 ∧ p'.At s' ∧ p.bits = bitsOf 15 value ++ p'.bits := by
  obtain ⟨rfl, rfl⟩ := next_uint15 hs
  obtain ⟨input, k⟩ := p
  obtain ⟨rfl, -⟩ := hp
  rcases input with _ | ⟨b, _ | ⟨b', rest⟩⟩
  · cases h
  · cases h
  · obtain ⟨rfl, rfl⟩ := Prod.mk.inj (Option.some.inj ((parseUint15_eq b b' rest).symm.trans h))
    exact ⟨Nat.mod_lt _ (by decide), at_zero.mpr rfl, bits_uint15 b b' rest⟩

lemma parseUint15_complete {p : Parser} {value s s' : ℕ} {tail : List Bool} (hp : p.At s)
    (hs : Reading.uint15.next s = some s') (hvalue : value < 2 ^ 15)
    (hbits : p.bits = bitsOf 15 value ++ tail) :
    ∃ p', p.parseUint15 = some (value, p') ∧ p'.At s' ∧ p'.bits = tail := by
  obtain ⟨rfl, rfl⟩ := next_uint15 hs
  obtain ⟨input, k⟩ := p
  obtain ⟨rfl, -⟩ := hp
  have hlength := congrArg List.length hbits
  rw [List.length_append, length_bitsOf, bits, List.length_drop, length_bytesBits] at hlength
  rcases input with _ | ⟨b, _ | ⟨b', rest⟩⟩
  · rw [List.length_nil] at hlength
    omega
  · rw [List.length_singleton] at hlength
    omega
  · obtain ⟨hread, htail⟩ := List.append_inj ((bits_uint15 b b' rest).symm.trans hbits)
      (by rw [length_bitsOf, length_bitsOf])
    refine ⟨⟨rest, 0⟩, ?_, at_zero.mpr rfl, htail⟩
    rw [← bitsOf_inj (Nat.mod_lt _ (by decide)) hvalue hread]
    exact parseUint15_eq b b' rest

/-- The parser behind a bit of its current byte. -/
def afterBit (b : UInt8) (rest : List UInt8) (k : ℕ) : Parser :=
  if (k + 1) % 8 = 0 then ⟨rest, 0⟩ else ⟨b :: rest, (k + 1) % 8⟩

lemma bits_afterBit {k : ℕ} (hk : k < 8) (b : UInt8) (rest : List UInt8) :
    bits ⟨b :: rest, k⟩ = b.toNat.testBit (7 - k) :: (afterBit b rest k).bits := by
  rw [bits_cons hk.le, show 8 - k = (7 - k) + 1 by omega, bitsOf, List.cons_append, afterBit]
  split_ifs with hlast
  · rw [bits_of_bitPos rfl, show 7 - k = 0 by omega, bitsOf, List.nil_append]
  · rw [bits_cons (by omega), show 8 - (k + 1) % 8 = 7 - k by omega]

lemma afterBit_at (b : UInt8) (rest : List UInt8) (k : ℕ) :
    (afterBit b rest k).At ((k + 1) % 8) := by
  rw [afterBit]
  have hposition : position ((k + 1) % 8) = (k + 1) % 8 := if_neg (by omega)
  split_ifs with hlast
  · rw [hlast]
    exact at_zero.mpr rfl
  · exact ⟨hposition.symm, .inr (List.cons_ne_nil _ _)⟩

/-- A single bit stands behind single bits. -/
lemma next_bit {s s' : ℕ} (h : Reading.bit.next s = some s') : s < 8 ∧ s' = (s + 1) % 8 := by
  rw [Reading.next] at h
  split_ifs at h with hs
  exact ⟨hs, (Option.some.inj h).symm⟩

lemma position_of_lt {s : ℕ} (h : s < 8) : position s = s := if_neg h.ne

lemma parseBit_sound {p p' : Parser} {value : Bool} {s s' : ℕ} (h : p.parseBit = some (value, p'))
    (hp : p.At s) (hs : Reading.bit.next s = some s') : p'.At s' ∧ p.bits = value :: p'.bits := by
  obtain ⟨hlt, rfl⟩ := next_bit hs
  obtain ⟨input, k⟩ := p
  obtain ⟨hk, -⟩ := hp
  rw [position_of_lt hlt] at hk
  subst hk
  cases input with
  | nil => cases h
  | cons b rest =>
    obtain ⟨rfl, rfl⟩ := Prod.mk.inj (Option.some.inj h)
    exact ⟨afterBit_at b rest _, bits_afterBit hlt b rest⟩

lemma parseBit_complete {p : Parser} {value : Bool} {s s' : ℕ} {tail : List Bool} (hp : p.At s)
    (hs : Reading.bit.next s = some s') (hbits : p.bits = value :: tail) :
    ∃ p', p.parseBit = some (value, p') ∧ p'.At s' ∧ p'.bits = tail := by
  obtain ⟨hlt, rfl⟩ := next_bit hs
  obtain ⟨input, k⟩ := p
  obtain ⟨hk, -⟩ := hp
  rw [position_of_lt hlt] at hk
  subst hk
  cases input with
  | nil =>
    rw [bits, bytesBits_nil, List.drop_nil] at hbits
    cases hbits
  | cons b rest =>
    obtain ⟨hvalue, htail⟩ := List.cons.inj ((bits_afterBit hlt b rest).symm.trans hbits)
    refine ⟨afterBit b rest _, ?_, afterBit_at b rest _, htail⟩
    rw [← hvalue]
    rfl

lemma parseChunk_sound {p p' : Parser} {length : ℕ} {bytes : List UInt8}
    (h : p.parseChunk length = some (bytes, p')) :
    p.bitPos = 0 ∧ bytes.length = length ∧ p'.bitPos = 0 ∧ p.input = bytes ++ p'.input := by
  rw [parseChunk] at h
  split_ifs at h with hlength hpos
  obtain ⟨rfl, rfl⟩ := Prod.mk.inj (Option.some.inj h)
  exact ⟨not_not.mp hpos, List.length_take_of_le (Nat.le_of_not_lt hlength), rfl,
    (List.take_append_drop _ _).symm⟩

lemma parseChunk_complete {bytes rest : List UInt8} {length : ℕ} (h : bytes.length = length) :
    parseChunk length ⟨bytes ++ rest, 0⟩ = some (bytes, ⟨rest, 0⟩) := by
  rw [parseChunk, if_neg (by rw [List.length_append]; omega), if_neg (not_not.mpr rfl),
    List.take_left' h, List.drop_left' h]

end Parser

/-! ### Writing -/

namespace Generator

/-- The bits up to the current one. -/
def bits (g : Generator) : List Bool :=
  bytesBits g.written ++ (bitsOf 8 (g.memory 0).toNat).take g.currentBit

/-- The generator is at a place of the layout. Behind single bits, the rest of the byte is clear. -/
def At (s : ℕ) (g : Generator) : Prop :=
  g.currentBit = position s ∧
    (0 < s → s < 8 → ∀ i < 8 - s, (g.memory 0).toNat.testBit i = false)

lemma at_zero {g : Generator} : g.At 0 ↔ g.currentBit = 0 :=
  ⟨And.left, fun h => ⟨h, fun hlt => absurd hlt (Nat.lt_irrefl 0)⟩⟩

lemma bits_of_currentBit {g : Generator} (h : g.currentBit = 0) : g.bits = bytesBits g.written := by
  rw [bits, h, List.take_zero, List.append_nil]

/-- In a byte, its upper bits are part of the output. -/
lemma bits_eq {g : Generator} (h : g.currentBit ≤ 8) :
    g.bits = bytesBits g.written ++
      bitsOf g.currentBit ((g.memory 0).toNat / 2 ^ (8 - g.currentBit)) := by
  rw [bits, take_bitsOf h]

lemma writeBytes_cons (b : UInt8) (bytes : List UInt8) (g : Generator) :
    g.writeBytes (b :: bytes) = (g.putByte b).nextByte.writeBytes bytes := rfl

@[simp] lemma written_writeBytes (bytes : List UInt8) (g : Generator) :
    (g.writeBytes bytes).written = g.written ++ bytes := by
  induction bytes generalizing g with
  | nil => exact (List.append_nil _).symm
  | cons b bytes ih =>
    rw [writeBytes_cons, ih]
    exact List.append_assoc _ _ _

@[simp] lemma currentBit_writeBytes (bytes : List UInt8) (g : Generator) :
    (g.writeBytes bytes).currentBit = g.currentBit := by
  induction bytes generalizing g with
  | nil => rfl
  | cons b bytes ih => exact (ih _).trans rfl

@[simp] lemma attributeFormat_writeBytes (bytes : List UInt8) (g : Generator) :
    (g.writeBytes bytes).attributeFormat = g.attributeFormat := by
  induction bytes generalizing g with
  | nil => rfl
  | cons b bytes ih => exact (ih _).trans rfl

@[simp] lemma headerLengthOffset_writeBytes (bytes : List UInt8) (g : Generator) :
    (g.writeBytes bytes).headerLengthOffset = g.headerLengthOffset := by
  induction bytes generalizing g with
  | nil => rfl
  | cons b bytes ih => exact (ih _).trans rfl

variable {g : Generator} {s s' : ℕ}

lemma generateFromChunk_bits (hg : g.At 0) (bytes : List UInt8) :
    (g.generateFromChunk bytes).At 0 ∧
      (g.generateFromChunk bytes).bits = g.bits ++ bytesBits bytes := by
  have hpos := at_zero.mp hg
  rw [generateFromChunk, if_neg (not_not.mpr hpos)]
  have hafter : (g.writeBytes bytes).currentBit = 0 := (currentBit_writeBytes _ _).trans hpos
  refine ⟨at_zero.mpr hafter, ?_⟩
  rw [bits_of_currentBit hafter, bits_of_currentBit hpos, written_writeBytes, bytesBits_append]

lemma generateUint_bits (hg : g.At 0) (count value : ℕ) :
    (g.generateUint count value).At 0 ∧
      (g.generateUint count value).bits = g.bits ++ bitsOf (8 * count) value := by
  rw [← bytesBits_toBytes]
  exact generateFromChunk_bits hg (toBytes count value)

/-- A byte put together of two halves. -/
lemma toNat_halves (value : ℕ) (b : UInt8) :
    bitsOf 4 ((UInt8.ofNat (value <<< 4) ||| b &&& 0x0F).toNat / 2 ^ 4) = bitsOf 4 value ∧
      bitsOf 8 (b &&& 0xF0 ||| UInt8.ofNat value &&& 0x0F).toNat =
        bitsOf 4 (b.toNat / 2 ^ 4) ++ bitsOf 4 value := by
  constructor
  · refine bitsOf_congr fun i hi => ?_
    rw [Nat.testBit_div_two_pow, UInt8.toNat_or, UInt8.toNat_and, Nat.testBit_or, Nat.testBit_and,
      UInt8.toNat_ofNat', Nat.testBit_mod_two_pow, Nat.testBit_shiftLeft]
    have hlow : (0x0F : UInt8).toNat.testBit (i + 4) = false :=
      (Nat.testBit_two_pow_sub_one 4 (i + 4)).trans (decide_eq_false (by omega))
    rw [hlow, Bool.and_false, Bool.or_false, decide_eq_true (show i + 4 < 8 by omega),
      decide_eq_true (show i + 4 ≥ 4 by omega), Nat.add_sub_cancel, Bool.true_and, Bool.true_and]
  · rw [show 8 = 4 + 4 from rfl, bitsOf_add]
    congr 1
    · refine bitsOf_congr fun i hi => ?_
      rw [Nat.testBit_div_two_pow, UInt8.toNat_or, UInt8.toNat_and, UInt8.toNat_and, Nat.testBit_or,
        Nat.testBit_and, Nat.testBit_and, Nat.testBit_div_two_pow]
      have hlow : (0x0F : UInt8).toNat.testBit (i + 4) = false :=
        (Nat.testBit_two_pow_sub_one 4 (i + 4)).trans (decide_eq_false (by omega))
      have hhigh : ∀ j < 4, (0xF0 : UInt8).toNat.testBit (j + 4) = true := by decide
      rw [hlow, hhigh i hi, Bool.and_false, Bool.or_false, Bool.and_true]
    · refine bitsOf_congr fun i hi => ?_
      rw [UInt8.toNat_or, UInt8.toNat_and, UInt8.toNat_and, Nat.testBit_or,
        Nat.testBit_and, Nat.testBit_and, UInt8.toNat_ofNat', Nat.testBit_mod_two_pow]
      have hlow : (0x0F : UInt8).toNat.testBit i = true :=
        (Nat.testBit_two_pow_sub_one 4 i).trans (decide_eq_true hi)
      have hhigh : ∀ j < 4, (0xF0 : UInt8).toNat.testBit j = false := by decide
      rw [hlow, hhigh i hi, Bool.and_false, Bool.false_or, Bool.and_true,
        decide_eq_true (show i < 8 by omega), Bool.true_and]

lemma generateUint4_bits (hg : g.At s) (hs : Reading.uint4.next s = some s') (value : ℕ) :
    (g.generateUint4 value).At s' ∧ (g.generateUint4 value).bits = g.bits ++ bitsOf 4 value := by
  obtain ⟨rfl, rfl⟩ | ⟨rfl, rfl⟩ := Parser.next_uint4 hs
  · have hpos := at_zero.mp hg
    rw [generateUint4, if_pos hpos]
    refine ⟨⟨rfl, fun _ h => absurd h (by decide)⟩, ?_⟩
    rw [bits_of_currentBit hpos, bits_eq (show 4 ≤ 8 by decide)]
    exact congrArg (bytesBits g.written ++ ·) (toNat_halves value (g.memory 0)).1
  · have hpos : g.currentBit = 4 := hg.1
    rw [generateUint4, if_neg (by omega), if_pos hpos]
    refine ⟨at_zero.mpr rfl, ?_⟩
    rw [bits_of_currentBit rfl, bits_eq (by omega), hpos, List.append_assoc]
    refine (bytesBits_append _ _).trans (congrArg (bytesBits g.written ++ ·) ?_)
    rw [bytesBits_cons, bytesBits_nil, List.append_nil]
    exact (toNat_halves value (g.memory 0)).2

/-- The number of an attribute's type behind its format bit. -/
lemma bitsOf_attributeType (b : UInt8) (value : ℕ) :
    bitsOf 16 (if b &&& 0x80 ≠ 0 then value &&& 0x7FFF ||| 0x8000 else value &&& 0x7FFF) =
      bitsOf 1 (b.toNat / 2 ^ 7) ++ bitsOf 15 value := by
  have hmask : ∀ i, (0x7FFF : ℕ).testBit i = decide (i < 15) := Nat.testBit_two_pow_sub_one 15
  have htop : ∀ i, (0x8000 : ℕ).testBit i = decide (15 = i) :=
    fun i => Nat.testBit_two_pow (n := 15)
  have hflag : (b &&& 0x80 ≠ 0) ↔ b.toNat.testBit 7 = true := by
    have hbit : ∀ i, (0x80 : UInt8).toNat.testBit i = decide (7 = i) :=
      fun i => Nat.testBit_two_pow (n := 7)
    constructor
    · intro hne
      by_contra h7
      refine hne (UInt8.toNat.inj (Nat.eq_of_testBit_eq fun i => ?_))
      rw [UInt8.toNat_and, Nat.testBit_and, hbit]
      by_cases hi : 7 = i
      · subst hi
        rw [Bool.eq_false_iff.mpr h7, Bool.false_and]
        rfl
      · rw [decide_eq_false hi, Bool.and_false]
        exact (Nat.zero_testBit i).symm
    · intro h7 hzero
      have := congrArg (fun x : UInt8 => x.toNat.testBit 7) hzero
      rw [UInt8.toNat_and, Nat.testBit_and, hbit, h7] at this
      cases this
  rw [show 16 = 1 + 15 from rfl, bitsOf_add]
  congr 1
  · refine bitsOf_congr fun i hi => ?_
    obtain rfl : i = 0 := by omega
    rw [Nat.testBit_div_two_pow, Nat.testBit_div_two_pow]
    split_ifs with h
    · rw [Nat.testBit_or, htop, hflag.mp h]
      exact Bool.or_true _
    · rw [Nat.testBit_and, hmask, Bool.eq_false_iff.mpr (mt hflag.mpr h)]
      exact Bool.and_false _
  · refine bitsOf_congr fun i hi => ?_
    split_ifs with h
    · rw [Nat.testBit_or, htop, Nat.testBit_and, hmask, decide_eq_true hi, Bool.and_true,
        decide_eq_false (by omega), Bool.or_false]
    · rw [Nat.testBit_and, hmask, decide_eq_true hi, Bool.and_true]

lemma generateAttributeType_bits (hg : g.At s) (hs : Reading.uint15.next s = some s') (value : ℕ) :
    (g.generateAttributeType value).At s' ∧
      (g.generateAttributeType value).bits = g.bits ++ bitsOf 15 value := by
  obtain ⟨rfl, rfl⟩ := Parser.next_uint15 hs
  have hpos : g.currentBit = 1 := hg.1
  rw [generateAttributeType, if_neg (not_not.mpr hpos)]
  refine ⟨at_zero.mpr rfl, ?_⟩
  rw [bits_of_currentBit rfl, bits_eq (by omega), hpos, List.append_assoc]
  refine (congrArg bytesBits (written_writeBytes _ g)).trans ?_
  rw [bytesBits_append, bytesBits_toBytes]
  exact congrArg (bytesBits g.written ++ ·) (bitsOf_attributeType (g.memory 0) value)

/-- The current byte with a further bit. -/
lemma testBit_withFlag (b : UInt8) (value : Bool) {k : ℕ} (hk : k < 8) (i : ℕ) :
    (b ||| UInt8.ofNat ((if value then 1 else 0) <<< (7 - k))).toNat.testBit i =
      (b.toNat.testBit i || (decide (i = 7 - k) && value)) := by
  rw [UInt8.toNat_or, Nat.testBit_or, UInt8.toNat_ofNat', Nat.testBit_mod_two_pow,
    Nat.testBit_shiftLeft]
  congr 1
  cases value with
  | false => simp
  | true =>
    rw [if_pos rfl, Bool.and_true]
    by_cases hi : i = 7 - k
    · subst hi
      rw [Nat.sub_self, decide_eq_true (show 7 - k < 8 by omega), decide_eq_true (le_refl _)]
      simp
    · rw [decide_eq_false hi]
      rcases Nat.lt_or_gt_of_ne hi with h | h
      · rw [decide_eq_false (show ¬ i ≥ 7 - k by omega), Bool.false_and, Bool.and_false]
      · have hone : (1 : ℕ).testBit (i - (7 - k)) = false := by
          rw [Bool.eq_false_iff, ne_eq, Nat.testBit_one_eq_true_iff_self_eq_zero]
          omega
        rw [hone, Bool.and_false, Bool.and_false]

/-- The byte that a bit goes to: a cleared one for the first bit. -/
lemma generateFlag_bits (hg : g.At s) (hs : Reading.bit.next s = some s') (value : Bool) :
    (g.generateFlag value).At s' ∧ (g.generateFlag value).bits = g.bits ++ [value] := by
  obtain ⟨hlt, rfl⟩ := Parser.next_bit hs
  have hpos : g.currentBit = s := by
    rw [hg.1, Parser.position_of_lt hlt]
  set start : UInt8 := if s = 0 then 0 else g.memory 0 with hstart
  have hclear : ∀ i < 8 - s, start.toNat.testBit i = false := by
    intro i hi
    rw [hstart]
    split_ifs with h0
    · exact Nat.zero_testBit i
    · exact hg.2 (Nat.pos_of_ne_zero h0) hlt i hi
  have hupper : bitsOf s (start.toNat / 2 ^ (8 - s)) =
      bitsOf s ((g.memory 0).toNat / 2 ^ (8 - s)) := by
    rw [hstart]
    split_ifs with h0
    · rw [h0]
      rfl
    · rfl
  set cur : UInt8 := start ||| UInt8.ofNat ((if value then 1 else 0) <<< (7 - s)) with hcur
  have hcurBits : bitsOf (s + 1) (cur.toNat / 2 ^ (7 - s)) =
      bitsOf s ((g.memory 0).toNat / 2 ^ (8 - s)) ++ [value] := by
    rw [bitsOf_add, ← hupper]
    congr 1
    · refine bitsOf_congr fun i hi => ?_
      rw [pow_one, Nat.testBit_div_two, Nat.testBit_div_two_pow, Nat.testBit_div_two_pow, hcur,
        testBit_withFlag _ _ hlt, decide_eq_false (by omega), Bool.false_and, Bool.or_false]
      congr 1
      omega
    · rw [bitsOf, bitsOf, Nat.testBit_div_two_pow, hcur, testBit_withFlag _ _ hlt, Nat.zero_add,
        hclear _ (by omega), decide_eq_true rfl, Bool.true_and, Bool.false_or]
  obtain ⟨g', hmemory, hwritten, hresult⟩ : ∃ g' : Generator, g'.memory 0 = cur ∧
      g'.written = g.written ∧ g.generateFlag value =
        if 8 ≤ s + 1 then { g'.nextByte with currentBit := (s + 1) % 8 }
        else { g' with currentBit := s + 1 } := by
    rw [generateFlag, hpos]
    by_cases h0 : s = 0
    · rw [if_pos h0] at hstart
      rw [if_pos h0]
      refine ⟨(g.putByte 0).putByte cur, rfl, rfl, ?_⟩
      rw [hcur, hstart, ← hpos]
      rfl
    · rw [if_neg h0] at hstart
      rw [if_neg h0]
      refine ⟨g.putByte cur, rfl, rfl, ?_⟩
      rw [hcur, hstart, ← hpos]
      rfl
  rw [hresult]
  have hbefore : g.bits ++ [value] =
      bytesBits g.written ++ bitsOf (s + 1) (cur.toNat / 2 ^ (7 - s)) := by
    rw [bits_eq (by omega), hpos, List.append_assoc, ← hcurBits]
  rw [hbefore]
  split_ifs with hlast
  · obtain rfl : s = 7 := by omega
    refine ⟨at_zero.mpr rfl, ?_⟩
    rw [bits_of_currentBit rfl]
    refine (bytesBits_append _ _).trans ?_
    rw [hwritten, hmemory, bytesBits_cons, bytesBits_nil, List.append_nil, Nat.sub_self, pow_zero,
      Nat.div_one]
  · have hnext : s + 1 < 8 := Nat.lt_of_not_le hlast
    rw [Nat.mod_eq_of_lt hnext]
    refine ⟨⟨(Parser.position_of_lt hnext).symm, fun _ _ i hi => ?_⟩, ?_⟩
    · change (g'.memory 0).toNat.testBit i = false
      rw [hmemory, hcur, testBit_withFlag _ _ hlt, hclear i (by omega),
        decide_eq_false (by omega), Bool.false_and, Bool.or_false]
    · have hle : s + 1 ≤ 8 := hlt
      refine (bits_eq ?_).trans ?_
      · exact hle
      change bytesBits g'.written ++ bitsOf (s + 1) ((g'.memory 0).toNat / 2 ^ (8 - (s + 1))) = _
      rw [hwritten, hmemory, show 8 - (s + 1) = 7 - s by omega]

end Generator

end SecuredApp
