import SecuredApp.Encoding.Fields

/-!
# Parsing and generating payloads

The parser takes exactly the bits of the payloads that fit, and the generator writes these bits.
-/

namespace SecuredApp

open SecuredApp.Core

variable {S : Type}

/-! ### Readings of rules -/

namespace EncodingType

variable {rule : EncodingType} {kind : PayloadKind} {seen : ParsedFields} {reading : Reading}

/-- A field is read at the places and with the width that its rule has. -/
lemma reading_layout (h : rule.reading kind seen = some reading) (s : ℕ) :
    reading.next s = rule.next s ∧ reading.width = rule.width := by
  cases rule with
  | payloadList _ | chunkData | attributeValue =>
    rw [EncodingType.reading] at h
    split_ifs at h <;> (obtain rfl := Option.some.inj h; exact ⟨rfl, rfl⟩)
  | _ =>
    obtain rfl := Option.some.inj h
    exact ⟨rfl, rfl⟩

/-- Only encrypted data is read to the end of the input. -/
lemma isLast_of_remaining (h : rule.reading kind seen = some .remaining) :
    rule = encryptedData := by
  cases rule with
  | encryptedData => rfl
  | payloadList _ | chunkData | attributeValue =>
    rw [EncodingType.reading] at h
    split_ifs at h <;> cases h
  | _ => cases h

/-- Only a list is read as one. -/
lemma eq_payloadList {type : PayloadType} {length : ℕ}
    (h : rule.reading kind seen = some (.list type length)) : rule = payloadList type := by
  cases rule with
  | payloadList _ =>
    rw [EncodingType.reading] at h
    split_ifs at h
    obtain ⟨rfl, -⟩ := Reading.list.inj (Option.some.inj h)
    rfl
  | chunkData | attributeValue =>
    rw [EncodingType.reading] at h
    split_ifs at h <;> cases h
  | _ => cases h

end EncodingType

/-! ### Substructures -/

/-- A parser takes the bits of the values that are in order, whole bytes of them. -/
structure Coded (parse : Parser → Option (S × Parser)) (Ok : S → Prop) (bits : S → List Bool) :
    Prop where
  sound : ∀ {p s p'}, p.bitPos = 0 → parse p = some (s, p') →
    Ok s ∧ p'.bitPos = 0 ∧ bytesBits p.input = bits s ++ bytesBits p'.input
  complete : ∀ {input s rest}, Ok s → bytesBits input = bits s ++ bytesBits rest →
    parse ⟨input, 0⟩ = some (s, ⟨rest, 0⟩)
  whole : ∀ {s}, Ok s → ∃ n, 0 < n ∧ (bits s).length = 8 * n

namespace Parser

variable {parseSub : Parser → Option (S × Parser)} {Ok : S → Prop} {bits : S → List Bool}

lemma parseListLoop_sound (hsub : Coded parseSub Ok bits) {rounds length : ℕ} {p p' : Parser}
    {substructures : List S} (hp : p.bitPos = 0)
    (h : parseListLoop parseSub rounds length p = some (substructures, p')) :
    (∀ s ∈ substructures, Ok s) ∧ (substructures.flatMap bits).length = 8 * length ∧
      p'.bitPos = 0 ∧ bytesBits p.input = substructures.flatMap bits ++ bytesBits p'.input := by
  induction rounds generalizing length p substructures with
  | zero =>
    cases length with
    | zero =>
      obtain ⟨rfl, rfl⟩ := Prod.mk.inj (Option.some.inj h)
      exact ⟨List.forall_mem_nil _, rfl, hp, rfl⟩
    | succ length => cases h
  | succ rounds ih =>
    cases length with
    | zero =>
      obtain ⟨rfl, rfl⟩ := Prod.mk.inj (Option.some.inj h)
      exact ⟨List.forall_mem_nil _, rfl, hp, rfl⟩
    | succ length =>
      rw [parseListLoop, Option.bind_eq_bind, Option.bind_eq_some_iff] at h
      obtain ⟨⟨s, q⟩, hs, h⟩ := h
      obtain ⟨hok, hq, hbits⟩ := hsub.sound hp hs
      obtain ⟨n, -, hn⟩ := hsub.whole hok
      have hlength := congrArg List.length hbits
      rw [List.length_append, length_bytesBits, length_bytesBits, hn] at hlength
      have htaken : p.input.length - q.input.length = n := by omega
      simp only [htaken] at h
      split_ifs at h with hmany
      rw [Option.bind_eq_bind, Option.bind_eq_some_iff] at h
      obtain ⟨⟨substructures', q'⟩, hloop, h⟩ := h
      obtain ⟨rfl, rfl⟩ := Prod.mk.inj (Option.some.inj h)
      obtain ⟨hoks, hlengths, hq', hbits'⟩ := ih hq hloop
      refine ⟨List.forall_mem_cons.mpr ⟨hok, hoks⟩, ?_, hq', ?_⟩
      · rw [List.flatMap_cons, List.length_append, hn, hlengths]
        omega
      · rw [hbits, hbits', List.flatMap_cons, List.append_assoc]

lemma parseListLoop_complete (hsub : Coded parseSub Ok bits) {rounds length : ℕ}
    {input rest : List UInt8} {substructures : List S} (hok : ∀ s ∈ substructures, Ok s)
    (hlength : (substructures.flatMap bits).length = 8 * length) (hrounds : length ≤ rounds)
    (hbits : bytesBits input = substructures.flatMap bits ++ bytesBits rest) :
    parseListLoop parseSub rounds length ⟨input, 0⟩ = some (substructures, ⟨rest, 0⟩) := by
  induction substructures generalizing rounds length input with
  | nil =>
    obtain rfl : length = 0 := by
      rw [List.flatMap_nil, List.length_nil] at hlength
      omega
    obtain rfl := bytesBits_inj hbits
    cases rounds <;> rfl
  | cons s substructures ih =>
    obtain ⟨hs, hoks⟩ := List.forall_mem_cons.mp hok
    obtain ⟨n, hpos, hn⟩ := hsub.whole hs
    rw [List.flatMap_cons, List.length_append, hn] at hlength
    rw [List.flatMap_cons, List.append_assoc] at hbits
    obtain ⟨before, after, rfl, hbefore, -, hafter⟩ := exists_of_bytesBits_append hbits hn
    obtain ⟨rounds, rfl⟩ := Nat.exists_eq_succ_of_ne_zero (show rounds ≠ 0 by omega)
    obtain ⟨length, rfl⟩ := Nat.exists_eq_succ_of_ne_zero (show length ≠ 0 by omega)
    rw [← hafter] at hbits
    have htaken : (before ++ after).length - after.length = n := by
      rw [List.length_append]
      omega
    have hloop : parseListLoop parseSub rounds (length + 1 - n) ⟨after, 0⟩ =
        some (substructures, ⟨rest, 0⟩) := ih hoks (by omega) (by omega) hafter
    rw [parseListLoop, hsub.complete hs hbits]
    simp only [Option.bind_eq_bind, Option.bind_some, htaken, hloop]
    rw [if_neg (by omega)]

end Parser

/-! ### Parsing -/

section Parsing

variable {parseSub : PayloadType → Parser → Option (S × Parser)} {Ok : PayloadType → S → Prop}
  {subBits : S → List Bool}

/-- What takes whole bytes stands at the start of one. -/
lemma whole_of_next {s s' : ℕ} (h : (if s = 0 then some 0 else none) = some s') :
    s = 0 ∧ s' = 0 := by
  split_ifs at h with hs
  exact ⟨hs, (Option.some.inj h).symm⟩

lemma parseUint_fits {count s s' value : ℕ} {p p' : Parser}
    (hs : (if s = 0 then some 0 else none) = some s') (h : p.parseUint count = some (value, p')) :
    value < 2 ^ (8 * count) ∧ p'.At s' ∧ p.bits = bitsOf (8 * count) value ++ p'.bits := by
  obtain ⟨-, hvalue, hp', hbits⟩ := Parser.parseUint_sound h
  rw [(whole_of_next hs).2]
  exact ⟨hvalue, Parser.at_zero.mpr hp', hbits⟩

lemma parseChunk_fits {length s s' : ℕ} {p p' : Parser} {bytes : List UInt8}
    (hs : (if s = 0 then some 0 else none) = some s')
    (h : p.parseChunk length = some (bytes, p')) :
    bytes.length = length ∧ p'.At s' ∧ p.bits = bytesBits bytes ++ p'.bits := by
  obtain ⟨hp, hlength, hp', hinput⟩ := Parser.parseChunk_sound h
  rw [(whole_of_next hs).2]
  refine ⟨hlength, Parser.at_zero.mpr hp', ?_⟩
  rw [Parser.bits_of_bitPos hp, Parser.bits_of_bitPos hp', hinput, bytesBits_append]

/-- What is read of a field is a value for it, with the bits that were there. -/
lemma Reading.parse_sound {reading : Reading} {p p' : Parser} {s s' : ℕ} {field : Field S}
    (hsub : ∀ type length, reading = .list type length →
      Coded (parseSub type) (Ok type) subBits)
    (hp : p.At s) (hs : reading.next s = some s')
    (h : reading.parse parseSub p = some (field, p')) :
    reading.Fits Ok subBits field ∧ p'.At s' ∧
      p.bits = field.bits subBits reading.width ++ p'.bits := by
  cases reading with
  | absent =>
    obtain ⟨rfl, rfl⟩ := Prod.mk.inj (Option.some.inj h)
    obtain ⟨rfl, rfl⟩ := whole_of_next hs
    exact ⟨rfl, hp, rfl⟩
  | uint4 =>
    obtain ⟨⟨value, q⟩, hread, h⟩ := Option.map_eq_some_iff.mp h
    obtain ⟨rfl, rfl⟩ := Prod.mk.inj h
    exact Parser.parseUint4_sound hread hp hs
  | uint15 =>
    obtain ⟨⟨value, q⟩, hread, h⟩ := Option.map_eq_some_iff.mp h
    obtain ⟨rfl, rfl⟩ := Prod.mk.inj h
    exact Parser.parseUint15_sound hread hp hs
  | uint8 | uint16 | uint32 =>
    obtain ⟨⟨value, q⟩, hread, h⟩ := Option.map_eq_some_iff.mp h
    obtain ⟨rfl, rfl⟩ := Prod.mk.inj h
    exact parseUint_fits hs hread
  | bit =>
    obtain ⟨⟨value, q⟩, hread, h⟩ := Option.map_eq_some_iff.mp h
    obtain ⟨rfl, rfl⟩ := Prod.mk.inj h
    exact ⟨trivial, Parser.parseBit_sound hread hp hs⟩
  | chunk _ =>
    obtain ⟨⟨value, q⟩, hread, h⟩ := Option.map_eq_some_iff.mp h
    obtain ⟨rfl, rfl⟩ := Prod.mk.inj h
    exact parseChunk_fits hs hread
  | remaining =>
    obtain ⟨⟨value, q⟩, hread, h⟩ := Option.map_eq_some_iff.mp h
    obtain ⟨rfl, rfl⟩ := Prod.mk.inj h
    exact ⟨trivial, (parseChunk_fits hs hread).2⟩
  | list type length =>
    obtain ⟨⟨value, q⟩, hread, h⟩ := Option.map_eq_some_iff.mp h
    obtain ⟨rfl, rfl⟩ := Prod.mk.inj h
    rw [Parser.parseList] at hread
    split_ifs at hread with hpos
    rw [ne_eq, not_not] at hpos
    obtain ⟨hok, hlength, hq, hbits⟩ :=
      Parser.parseListLoop_sound (hsub type length rfl) hpos hread
    rw [(whole_of_next hs).2]
    refine ⟨⟨hok, hlength⟩, Parser.at_zero.mpr hq, ?_⟩
    rw [Parser.bits_of_bitPos hpos, Parser.bits_of_bitPos hq]
    exact hbits

lemma parseUint_reads (count : ℕ) {s s' value : ℕ} {p : Parser} {tail : List Bool} (hp : p.At s)
    (hs : (if s = 0 then some 0 else none) = some s') (hvalue : value < 2 ^ (8 * count))
    (hbits : p.bits = bitsOf (8 * count) value ++ tail) :
    ∃ p', p.parseUint count = some (value, p') ∧ p'.At s' ∧ p'.bits = tail := by
  obtain ⟨rfl, rfl⟩ := whole_of_next hs
  obtain ⟨p', hread, hp', htail⟩ :=
    Parser.parseUint_complete (Parser.at_zero.mp hp) hvalue hbits
  exact ⟨p', hread, Parser.at_zero.mpr hp', htail⟩

lemma parseChunk_reads {length s s' : ℕ} {p : Parser} {bytes : List UInt8} {tail : List Bool}
    (hp : p.At s) (hs : (if s = 0 then some 0 else none) = some s')
    (hlength : bytes.length = length)
    (hbits : p.bits = bytesBits bytes ++ tail) :
    ∃ p', p.parseChunk length = some (bytes, p') ∧ p'.At s' ∧ p'.bits = tail := by
  obtain ⟨rfl, rfl⟩ := whole_of_next hs
  obtain ⟨input, k⟩ := p
  obtain rfl : k = 0 := Parser.at_zero.mp hp
  rw [Parser.bits_of_bitPos rfl] at hbits
  obtain ⟨before, after, rfl, -, hbefore, hafter⟩ :=
    exists_of_bytesBits_append hbits (length_bytesBits bytes)
  obtain rfl := bytesBits_inj hbefore
  exact ⟨⟨after, 0⟩, Parser.parseChunk_complete hlength, Parser.at_zero.mpr rfl, hafter⟩

/-- A value for a field is read from its bits. -/
lemma Reading.parse_complete {reading : Reading} {p : Parser} {s s' : ℕ} {field : Field S}
    {tail : List Bool}
    (hsub : ∀ type length, reading = .list type length →
      Coded (parseSub type) (Ok type) subBits)
    (hp : p.At s) (hs : reading.next s = some s') (hfits : reading.Fits Ok subBits field)
    (hlast : reading = .remaining → tail = [])
    (hbits : p.bits = field.bits subBits reading.width ++ tail) :
    ∃ p', reading.parse parseSub p = some (field, p') ∧ p'.At s' ∧ p'.bits = tail := by
  cases reading with
  | absent =>
    cases field with
    | data bytes =>
      obtain rfl : bytes = [] := hfits
      obtain ⟨rfl, rfl⟩ := whole_of_next hs
      exact ⟨p, rfl, hp, hbits⟩
    | num _ | bit _ | list _ => exact hfits.elim
  | uint4 =>
    cases field with
    | num value =>
      obtain ⟨p', hread, hrest⟩ := Parser.parseUint4_complete hp hs hfits hbits
      exact ⟨p', by rw [parse, hread]; rfl, hrest⟩
    | bit _ | data _ | list _ => exact hfits.elim
  | uint15 =>
    cases field with
    | num value =>
      obtain ⟨p', hread, hrest⟩ := Parser.parseUint15_complete hp hs hfits hbits
      exact ⟨p', by rw [parse, hread]; rfl, hrest⟩
    | bit _ | data _ | list _ => exact hfits.elim
  | uint8 =>
    cases field with
    | num value =>
      obtain ⟨p', hread, hrest⟩ := parseUint_reads 1 hp hs hfits hbits
      exact ⟨p', by rw [parse, Parser.parseUint8, hread]; rfl, hrest⟩
    | bit _ | data _ | list _ => exact hfits.elim
  | uint16 =>
    cases field with
    | num value =>
      obtain ⟨p', hread, hrest⟩ := parseUint_reads 2 hp hs hfits hbits
      exact ⟨p', by rw [parse, Parser.parseUint16, hread]; rfl, hrest⟩
    | bit _ | data _ | list _ => exact hfits.elim
  | uint32 =>
    cases field with
    | num value =>
      obtain ⟨p', hread, hrest⟩ := parseUint_reads 4 hp hs hfits hbits
      exact ⟨p', by rw [parse, Parser.parseUint32, hread]; rfl, hrest⟩
    | bit _ | data _ | list _ => exact hfits.elim
  | bit =>
    cases field with
    | bit value =>
      obtain ⟨p', hread, hrest⟩ := Parser.parseBit_complete hp hs hbits
      exact ⟨p', by rw [parse, hread]; rfl, hrest⟩
    | num _ | data _ | list _ => exact hfits.elim
  | chunk length =>
    cases field with
    | data bytes =>
      obtain ⟨p', hread, hrest⟩ := parseChunk_reads hp hs hfits hbits
      exact ⟨p', by rw [parse, hread]; rfl, hrest⟩
    | num _ | bit _ | list _ => exact hfits.elim
  | remaining =>
    cases field with
    | data bytes =>
      have hpos : p.bitPos = 0 := by
        rw [(whole_of_next hs).1] at hp
        exact Parser.at_zero.mp hp
      have hlength : bytes.length = p.input.length := by
        have := congrArg List.length hbits
        rw [Parser.bits_of_bitPos hpos, hlast rfl, Field.bits, List.append_nil, length_bytesBits,
          length_bytesBits] at this
        omega
      obtain ⟨p', hread, hrest⟩ := parseChunk_reads hp hs hlength hbits
      exact ⟨p', by rw [parse, hread]; rfl, hrest⟩
    | num _ | bit _ | list _ => exact hfits.elim
  | list type length =>
    cases field with
    | list substructures =>
      obtain ⟨hok, hlength⟩ := hfits
      obtain ⟨rfl, rfl⟩ := whole_of_next hs
      obtain ⟨input, k⟩ := p
      obtain rfl : k = 0 := Parser.at_zero.mp hp
      rw [Parser.bits_of_bitPos rfl] at hbits
      obtain ⟨before, after, rfl, -, -, hafter⟩ := exists_of_bytesBits_append hbits hlength
      rw [← hafter] at hbits
      have hloop :=
        Parser.parseListLoop_complete (hsub type length rfl) hok hlength (le_refl _) hbits
      refine ⟨⟨after, 0⟩, ?_, Parser.at_zero.mpr rfl, hafter⟩
      rw [parse, Parser.parseList, if_neg (not_not.mpr rfl), hloop]
      rfl
    | num _ | bit _ | data _ => exact hfits.elim

/-- Data up to the end of the input leaves nothing. -/
lemma Reading.input_of_remaining {p p' : Parser} {field : Field S}
    (h : Reading.remaining.parse parseSub p = some (field, p')) : p'.bits = [] := by
  obtain ⟨⟨bytes, q⟩, hread, h⟩ := Option.map_eq_some_iff.mp h
  obtain ⟨rfl, rfl⟩ := Prod.mk.inj h
  obtain ⟨-, hlength, hq, hinput⟩ := Parser.parseChunk_sound hread
  have hrest := congrArg List.length hinput
  rw [List.length_append, hlength] at hrest
  rw [Parser.bits_of_bitPos hq, List.length_eq_zero_iff.mp (show q.input.length = 0 by omega)]
  rfl

variable {kind : PayloadKind} {rules : List EncodingType} {seen : ParsedFields} {s : ℕ}
  {fields : List (Field S)}

lemma parseRules_sound {p p' : Parser}
    (hsub : ∀ type, .payloadList type ∈ rules → Coded (parseSub type) (Ok type) subBits)
    (hlaid : laidOut rules s = true) (hp : p.At s)
    (h : parseRules parseSub kind rules seen p = some (fields, p')) :
    FieldsFit Ok subBits kind rules seen fields ∧ p'.bitPos = 0 ∧
      p.bits = fieldsBits subBits rules fields ++ p'.bits ∧
      (.encryptedData ∈ rules → p'.bits = []) := by
  induction rules generalizing s seen p fields with
  | nil =>
    obtain ⟨rfl, rfl⟩ := Prod.mk.inj (Option.some.inj h)
    rw [laidOut, decide_eq_true_eq] at hlaid
    rw [hlaid] at hp
    exact ⟨trivial, Parser.at_zero.mp hp, rfl, fun hmem => absurd hmem List.not_mem_nil⟩
  | cons rule rules ih =>
    obtain ⟨s', hs', hrules, hlast⟩ := laidOut_cons hlaid
    rw [parseRules, Option.bind_eq_bind, Option.bind_eq_some_iff] at h
    obtain ⟨⟨field, seen', q⟩, hrule, h⟩ := h
    rw [Option.bind_eq_bind, Option.bind_eq_some_iff] at h
    obtain ⟨⟨fields', q'⟩, hloop, h⟩ := h
    obtain ⟨rfl, rfl⟩ := Prod.mk.inj (Option.some.inj h)
    rw [parseRule, Option.bind_eq_bind, Option.bind_eq_some_iff] at hrule
    obtain ⟨reading, hreading, hrule⟩ := hrule
    rw [Option.bind_eq_bind, Option.bind_eq_some_iff] at hrule
    obtain ⟨⟨field', r⟩, hparse, hrule⟩ := hrule
    rw [Option.bind_eq_bind, Option.bind_eq_some_iff] at hrule
    obtain ⟨seen'', hremember, hrule⟩ := hrule
    obtain ⟨rfl, hpair⟩ := Prod.mk.inj (Option.some.inj hrule)
    obtain ⟨rfl, rfl⟩ := Prod.mk.inj hpair
    obtain ⟨hnext, hwidth⟩ := EncodingType.reading_layout hreading s
    have hsubs : ∀ type length, reading = .list type length →
        Coded (parseSub type) (Ok type) subBits := by
      rintro type length rfl
      exact hsub type (EncodingType.eq_payloadList hreading ▸ List.mem_cons_self)
    obtain ⟨hfits, hr, hbits⟩ := Reading.parse_sound hsubs hp (hnext.trans hs') hparse
    obtain ⟨hfields, hq', hbits', hend⟩ :=
      ih (fun type hmem => hsub type (List.mem_cons_of_mem _ hmem)) hrules hr hloop
    refine ⟨⟨reading, seen'', hreading, hfits, hremember, hfields⟩, hq', ?_, fun hmem => ?_⟩
    · rw [hbits, hbits', fieldsBits, List.append_assoc, hwidth]
    · rcases List.mem_cons.mp hmem with rfl | hmem
      · obtain rfl := hlast rfl
        obtain ⟨rfl, rfl⟩ := Prod.mk.inj (Option.some.inj hloop)
        obtain rfl := Option.some.inj hreading
        exact Reading.input_of_remaining hparse
      · exact hend hmem

lemma parseRules_complete {p : Parser} {tail : List Bool}
    (hsub : ∀ type, .payloadList type ∈ rules → Coded (parseSub type) (Ok type) subBits)
    (hlaid : laidOut rules s = true) (hp : p.At s)
    (hfields : FieldsFit Ok subBits kind rules seen fields)
    (hend : .encryptedData ∈ rules → tail = [])
    (hbits : p.bits = fieldsBits subBits rules fields ++ tail) :
    ∃ p', parseRules parseSub kind rules seen p = some (fields, p') ∧ p'.bitPos = 0 ∧
      p'.bits = tail := by
  induction rules generalizing s seen p fields with
  | nil =>
    obtain rfl := hfields.eq_nil
    rw [laidOut, decide_eq_true_eq] at hlaid
    rw [hlaid] at hp
    exact ⟨p, rfl, Parser.at_zero.mp hp, hbits⟩
  | cons rule rules ih =>
    obtain ⟨s', hs', hrules, hlast⟩ := laidOut_cons hlaid
    obtain ⟨field, fields, reading, seen', rfl, hreading, hfits, hremember, hothers⟩ :=
      hfields.exists_cons
    obtain ⟨hnext, hwidth⟩ := EncodingType.reading_layout hreading s
    have hsubs : ∀ type length, reading = .list type length →
        Coded (parseSub type) (Ok type) subBits := by
      rintro type length rfl
      exact hsub type (EncodingType.eq_payloadList hreading ▸ List.mem_cons_self)
    rw [fieldsBits, List.append_assoc, ← hwidth] at hbits
    have hremaining : reading = .remaining → fieldsBits subBits rules fields ++ tail = [] := by
      rintro rfl
      obtain rfl := EncodingType.isLast_of_remaining hreading
      rw [hlast rfl, hend List.mem_cons_self]
      rfl
    obtain ⟨q, hparse, hq, htail⟩ :=
      Reading.parse_complete hsubs hp (hnext.trans hs') hfits hremaining hbits
    obtain ⟨p', hloop, hp', hrest⟩ :=
      ih (fun type hmem => hsub type (List.mem_cons_of_mem _ hmem)) hrules hq hothers
        (fun hmem => hend (List.mem_cons_of_mem _ hmem)) htail
    refine ⟨p', ?_, hp', hrest⟩
    rw [parseRules, parseRule, hreading]
    simp only [Option.bind_eq_bind, Option.bind_some, hparse, hremember, hloop]

end Parsing

/-! ### Whole payloads -/

/-- A list is one of substructures, which every version knows. -/
def EncodingType.listsSubstructures : EncodingType → Bool
  | payloadList type => PayloadType.header ≤ type && payloadCreate type != .encryptedV1 &&
      payloadCreate type != .header
  | _ => true

lemma listsSubstructures_encodings (kind : PayloadKind) :
    kind.encodings.all EncodingType.listsSubstructures = true := by
  cases kind <;> rfl

lemma parsedKind_substructure {kind : PayloadKind} {type : PayloadType}
    (h : EncodingType.payloadList type ∈ kind.encodings) (majorVersion : ℕ) :
    parsedKind majorVersion type = payloadCreate type ∧ payloadCreate type ≠ .encryptedV1 ∧
      payloadCreate type ≠ .header := by
  have hcheck := List.all_eq_true.mp (listsSubstructures_encodings kind) _ h
  rw [EncodingType.listsSubstructures, Bool.and_eq_true, Bool.and_eq_true, decide_eq_true_eq,
    bne_iff_ne, bne_iff_ne] at hcheck
  refine ⟨?_, hcheck.1.2, hcheck.2⟩
  rw [parsedKind, payloadIsKnown, if_pos hcheck.1.1, if_pos rfl]

/-- Only an encrypted IKEv1 message is taken as a whole. -/
lemma eq_encryptedV1 {kind : PayloadKind} (h : .encryptedData ∈ kind.encodings) :
    kind = .encryptedV1 := by
  have hcheck : ∀ kind : PayloadKind, kind.encodings.contains .encryptedData = true →
      kind = .encryptedV1 := by
    intro kind hmem
    cases kind <;> first | rfl | cases hmem
  exact hcheck kind (List.contains_iff_mem.mpr h)

section Whole

variable {Ok : PayloadType → S → Prop} {subBits : S → List Bool}

/-- A value for a reading takes the bits up to the next place. -/
lemma Reading.length_bits {reading : Reading} {field : Field S} {s s' : ℕ}
    (h : reading.Fits Ok subBits field) (hs : reading.next s = some s') :
    (position s + (field.bits subBits reading.width).length) % 8 = position s' % 8 := by
  cases reading with
  | uint4 =>
    cases field with
    | num value =>
      rw [Field.bits, length_bitsOf]
      obtain ⟨rfl, rfl⟩ | ⟨rfl, rfl⟩ := Parser.next_uint4 hs <;> rfl
    | bit _ | data _ | list _ => exact h.elim
  | uint15 =>
    cases field with
    | num value =>
      rw [Field.bits, length_bitsOf]
      obtain ⟨rfl, rfl⟩ := Parser.next_uint15 hs
      rfl
    | bit _ | data _ | list _ => exact h.elim
  | uint8 | uint16 | uint32 =>
    cases field with
    | num value =>
      rw [Field.bits, length_bitsOf]
      obtain ⟨rfl, rfl⟩ := whole_of_next hs
      rfl
    | bit _ | data _ | list _ => exact h.elim
  | bit =>
    cases field with
    | bit value =>
      obtain ⟨hlt, rfl⟩ := Parser.next_bit hs
      rw [Parser.position_of_lt hlt, Parser.position_of_lt (Nat.mod_lt _ (by decide)), Nat.mod_mod]
      rfl
    | num _ | data _ | list _ => exact h.elim
  | chunk _ | remaining | absent =>
    cases field with
    | data bytes =>
      rw [Field.bits, length_bytesBits]
      obtain ⟨rfl, rfl⟩ := whole_of_next hs
      rw [show position 0 = 0 from rfl]
      omega
    | num _ | bit _ | list _ => exact h.elim
  | list type length =>
    cases field with
    | list substructures =>
      rw [Field.bits, h.2]
      obtain ⟨rfl, rfl⟩ := whole_of_next hs
      rw [show position 0 = 0 from rfl]
      omega
    | num _ | bit _ | data _ => exact h.elim

lemma length_fieldsBits {kind : PayloadKind} {rules : List EncodingType} {seen : ParsedFields}
    {fields : List (Field S)} {s : ℕ} (hlaid : laidOut rules s = true)
    (h : FieldsFit Ok subBits kind rules seen fields) :
    (position s + (fieldsBits subBits rules fields).length) % 8 = 0 := by
  induction rules generalizing s seen fields with
  | nil =>
    obtain rfl := h.eq_nil
    rw [laidOut, decide_eq_true_eq] at hlaid
    subst hlaid
    rfl
  | cons rule rules ih =>
    obtain ⟨s', hs', hrules, -⟩ := laidOut_cons hlaid
    obtain ⟨field, fields, reading, seen', rfl, hreading, hfits, -, hothers⟩ := h.exists_cons
    obtain ⟨hnext, hwidth⟩ := EncodingType.reading_layout hreading s
    have hfield := Reading.length_bits hfits (hnext.trans hs')
    have hrest := ih hrules hothers
    rw [fieldsBits, List.length_append, ← hwidth]
    omega

/-- The first field of a payload is a number of 8 bits, a single bit or an SPI. -/
lemma exists_first_reading {kind : PayloadKind} (h : kind ≠ .encryptedV1) :
    ∃ rule rules reading, kind.encodings = rule :: rules ∧ rule.reading kind {} = some reading ∧
      (reading = .uint8 ∨ reading = .bit ∨ reading = .chunk 8) := by
  cases kind with
  | encryptedV1 => exact absurd rfl h
  | header => exact ⟨_, _, _, rfl, rfl, .inr (.inr rfl)⟩
  | transformAttribute | attributeV1 | attributeV2 => exact ⟨_, _, _, rfl, rfl, .inr (.inl rfl)⟩
  | _ => exact ⟨_, _, _, rfl, rfl, .inl rfl⟩

/-- A payload takes whole bytes. -/
lemma PayloadOf.length_bits {majorVersion : ℕ} {type : PayloadType} {p : PayloadOf S}
    (h : p.Fits Ok subBits majorVersion type) (hkind : p.kind ≠ .encryptedV1) :
    ∃ n, 0 < n ∧ (p.bits subBits).length = 8 * n := by
  obtain ⟨-, -, hfields⟩ := h
  have hwhole := length_fieldsBits (laidOut_encodings p.kind) hfields
  rw [show position 0 = 0 from rfl, Nat.zero_add] at hwhole
  have hpos : 0 < (p.bits subBits).length := by
    obtain ⟨rule, rules, reading, hrules, hreading, hfirst⟩ := exists_first_reading hkind
    rw [PayloadOf.bits, hrules]
    rw [hrules] at hfields
    obtain ⟨field, fields, reading', seen', hcons, hreading', hfits, -, -⟩ := hfields.exists_cons
    obtain rfl := Option.some.inj (hreading.symm.trans hreading')
    obtain ⟨-, hwidth⟩ := EncodingType.reading_layout hreading 0
    rw [hcons, fieldsBits, List.length_append, ← hwidth]
    refine Nat.add_pos_left ?_ _
    rcases hfirst with rfl | rfl | rfl
    · cases field with
      | num value => rw [Field.bits, length_bitsOf]; decide
      | bit _ | data _ | list _ => exact hfits.elim
    · cases field with
      | bit value => exact Nat.one_pos
      | num _ | data _ | list _ => exact hfits.elim
    · cases field with
      | data bytes =>
        rw [Field.bits, length_bytesBits, show bytes.length = 8 from hfits]
        decide
      | num _ | bit _ | list _ => exact hfits.elim
  refine ⟨(p.bits subBits).length / 8, ?_, ?_⟩
  · rw [PayloadOf.bits] at hpos ⊢
    omega
  · rw [PayloadOf.bits]
    omega

end Whole

section ParseOf

variable {parseSub : PayloadType → Parser → Option (S × Parser)} {Ok : PayloadType → S → Prop}
  {subBits : S → List Bool} {majorVersion : ℕ} {type : PayloadType}

/-- The substructures of payloads are coded. -/
def SubCoded (majorVersion : ℕ) (parseSub : PayloadType → Parser → Option (S × Parser))
    (Ok : PayloadType → S → Prop) (subBits : S → List Bool) : Prop :=
  ∀ type, parsedKind majorVersion type ≠ .encryptedV1 → Coded (parseSub type) (Ok type) subBits

lemma SubCoded.of_mem (h : SubCoded majorVersion parseSub Ok subBits) {kind : PayloadKind}
    (type : PayloadType) (hmem : .payloadList type ∈ kind.encodings) :
    Coded (parseSub type) (Ok type) subBits := by
  obtain ⟨hparsed, hcreate, -⟩ := parsedKind_substructure hmem majorVersion
  exact h type (hparsed ▸ hcreate)

lemma parseOf_sound (hsub : SubCoded majorVersion parseSub Ok subBits) {p p' : Parser}
    {payload : PayloadOf S} (hp : p.bitPos = 0)
    (h : parseOf parseSub majorVersion type p = some (payload, p')) :
    payload.Fits Ok subBits majorVersion type ∧ p'.bitPos = 0 ∧
      bytesBits p.input = payload.bits subBits ++ bytesBits p'.input ∧
      (payload.kind = .encryptedV1 → p'.input = []) := by
  obtain ⟨⟨fields, q⟩, hrules, h⟩ := Option.map_eq_some_iff.mp h
  obtain ⟨rfl, rfl⟩ := Prod.mk.inj h
  obtain ⟨hfields, hq, hbits, hend⟩ := parseRules_sound (fun type hmem => hsub.of_mem type hmem)
    (laidOut_encodings _) (Parser.at_zero.mpr hp) hrules
  rw [Parser.bits_of_bitPos hp, Parser.bits_of_bitPos hq] at hbits
  refine ⟨⟨rfl, rfl, hfields⟩, hq, hbits, fun hkind => ?_⟩
  have hmem : EncodingType.encryptedData ∈ (parsedKind majorVersion type).encodings := by
    rw [show parsedKind majorVersion type = .encryptedV1 from hkind]
    exact List.mem_cons_self
  have hempty := hend hmem
  rw [Parser.bits_of_bitPos hq] at hempty
  exact bytesBits_inj hempty

lemma parseOf_complete (hsub : SubCoded majorVersion parseSub Ok subBits)
    {input rest : List UInt8} {payload : PayloadOf S}
    (hfits : payload.Fits Ok subBits majorVersion type)
    (hbits : bytesBits input = payload.bits subBits ++ bytesBits rest)
    (hend : payload.kind = .encryptedV1 → rest = []) :
    parseOf parseSub majorVersion type ⟨input, 0⟩ = some (payload, ⟨rest, 0⟩) := by
  obtain ⟨kind, type', fields⟩ := payload
  obtain ⟨hkind, htype, hfields⟩ := hfits
  obtain rfl : type' = type := htype
  obtain rfl : kind = parsedKind majorVersion type' := hkind
  have hlast : .encryptedData ∈ (parsedKind majorVersion type').encodings →
      bytesBits rest = [] := by
    intro hmem
    rw [hend (eq_encryptedV1 hmem)]
    rfl
  have hstart : Parser.At 0 ⟨input, 0⟩ := Parser.at_zero.mpr rfl
  obtain ⟨⟨input', k⟩, hrules, hk, hrest⟩ := parseRules_complete
    (fun type hmem => hsub.of_mem type hmem) (laidOut_encodings _) hstart hfields hlast hbits
  obtain rfl : k = 0 := hk
  rw [Parser.bits_of_bitPos rfl] at hrest
  obtain rfl := bytesBits_inj hrest
  rw [parseOf]
  simp only [hrules]
  rfl

lemma coded_parseOf (hsub : SubCoded majorVersion parseSub Ok subBits)
    (hkind : parsedKind majorVersion type ≠ .encryptedV1) :
    Coded (parseOf parseSub majorVersion type) (PayloadOf.Fits Ok subBits majorVersion type)
      (PayloadOf.bits subBits) where
  sound hp h := by
    obtain ⟨hfits, hp', hbits, -⟩ := parseOf_sound hsub hp h
    exact ⟨hfits, hp', hbits⟩
  complete hfits hbits :=
    parseOf_complete hsub hfits hbits fun h => absurd (hfits.1.symm.trans h) hkind
  whole hfits := PayloadOf.length_bits hfits fun h => hkind (hfits.1.symm.trans h)

end ParseOf

lemma subCoded_none (majorVersion : ℕ) :
    SubCoded (S := Empty) majorVersion (fun _ _ => none) (fun _ _ => False) (fun _ => []) :=
  fun _ _ => ⟨fun _ h => absurd h.symm (Option.some_ne_none _), False.elim, False.elim⟩

/-- The parser of every depth takes the payloads of that depth. -/
lemma subCoded_parsePayload (majorVersion depth : ℕ) :
    SubCoded majorVersion (parsePayload majorVersion depth) (Payload.Fits majorVersion)
      Payload.bits := by
  induction depth with
  | zero => exact fun type hkind => coded_parseOf (subCoded_none majorVersion) hkind
  | succ depth ih => exact fun type hkind => coded_parseOf ih hkind

namespace Payload

/-- The parser takes a payload from exactly the bits of the payloads that fit, whatever follows
them. An encrypted IKEv1 message takes everything. -/
lemma parsePayload_eq_some_iff {majorVersion : ℕ} {depth : ℕ} {type : PayloadType}
    {input : List UInt8} {payload : Payload depth} {p' : Parser} :
    parsePayload majorVersion depth type ⟨input, 0⟩ = some (payload, p') ↔
      payload.Fits majorVersion type ∧ p'.bitPos = 0 ∧
        bytesBits input = payload.bits ++ bytesBits p'.input ∧
        (payload.kind = .encryptedV1 → p'.input = []) := by
  obtain ⟨rest, k⟩ := p'
  cases depth with
  | zero =>
    constructor
    · intro h
      exact parseOf_sound (subCoded_none majorVersion) rfl h
    · rintro ⟨hfits, rfl, hbits, hend⟩
      exact parseOf_complete (subCoded_none majorVersion) hfits hbits hend
  | succ depth =>
    have hsub := subCoded_parsePayload majorVersion depth
    constructor
    · intro h
      exact parseOf_sound hsub rfl h
    · rintro ⟨hfits, rfl, hbits, hend⟩
      exact parseOf_complete hsub hfits hbits hend

end Payload

end SecuredApp
