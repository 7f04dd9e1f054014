import SecuredApp.Encoding.Codec

/-!
# Lengths of payloads

The length that the generic header of a payload states is the payload's own.
-/

namespace SecuredApp

open SecuredApp.Core

/-! ### Fields of a fixed width -/

namespace EncodingType

/-- The width of the fields that always have the same one and that the parser does not remember. -/
def fixedWidth : EncodingType → Option ℕ
  | uint4 => some 4
  | uint8 | reservedByte => some 8
  | uint16 => some 16
  | uint32 => some 32
  | reservedBit | flag => some 1
  | _ => none

/-- The width of several such fields. -/
def fixedWidths : List EncodingType → Option ℕ
  | [] => some 0
  | rule :: rules => do
    let w ← rule.fixedWidth
    let ws ← fixedWidths rules
    some (w + ws)

variable {S : Type} {Ok : PayloadType → S → Prop} {subBits : S → List Bool} {kind : PayloadKind}
  {seen seen' : ParsedFields} {rule : EncodingType} {reading : Reading} {field : Field S} {w : ℕ}

lemma fixedWidth_spec (hw : rule.fixedWidth = some w)
    (hreading : rule.reading kind seen = some reading) (hfits : reading.Fits Ok subBits field)
    (hremember : rule.remember seen field = some seen') :
    seen' = seen ∧ (field.bits subBits rule.width).length = w := by
  cases rule with
  | uint4 | uint8 | reservedByte | uint16 | uint32 =>
    obtain rfl := Option.some.inj hw
    obtain rfl := Option.some.inj hreading
    cases field with
    | num value => exact ⟨(Option.some.inj hremember).symm, length_bitsOf _ _⟩
    | bit _ | data _ | list _ => exact hfits.elim
  | reservedBit | flag =>
    obtain rfl := Option.some.inj hw
    obtain rfl := Option.some.inj hreading
    cases field with
    | bit value => exact ⟨(Option.some.inj hremember).symm, rfl⟩
    | num _ | data _ | list _ => exact hfits.elim
  | _ => cases hw

end EncodingType

section Fields

variable {S : Type} {Ok : PayloadType → S → Prop} {subBits : S → List Bool} {kind : PayloadKind}
  {seen : ParsedFields} {fields : List (Field S)}

/-- The fields of a fixed width stand before the others and change nothing for them. -/
lemma FieldsFit.exists_after {rules rules' : List EncodingType} {w : ℕ}
    (hw : EncodingType.fixedWidths rules = some w)
    (h : FieldsFit Ok subBits kind (rules ++ rules') seen fields) :
    ∃ before fields', before.length = w ∧
      fieldsBits subBits (rules ++ rules') fields = before ++ fieldsBits subBits rules' fields' ∧
      FieldsFit Ok subBits kind rules' seen fields' := by
  induction rules generalizing fields w with
  | nil =>
    obtain rfl := Option.some.inj hw
    exact ⟨[], fields, rfl, rfl, h⟩
  | cons rule rules ih =>
    rw [EncodingType.fixedWidths, Option.bind_eq_bind, Option.bind_eq_some_iff] at hw
    obtain ⟨w₁, hw₁, hw⟩ := hw
    obtain ⟨w₂, hw₂, hw⟩ := Option.bind_eq_some_iff.mp hw
    obtain rfl := Option.some.inj hw
    obtain ⟨field, fields, reading, seen', rfl, hreading, hfits, hremember, hothers⟩ :=
      FieldsFit.exists_cons h
    obtain ⟨rfl, hlength⟩ := EncodingType.fixedWidth_spec hw₁ hreading hfits hremember
    obtain ⟨before, fields', hbefore, hbits, hfields'⟩ := ih hw₂ hothers
    refine ⟨field.bits subBits rule.width ++ before, fields', ?_, ?_, hfields'⟩
    · rw [List.length_append, hlength, hbefore]
    · rw [List.cons_append, fieldsBits, hbits, List.append_assoc]

/-- The ends of payloads: data or a list, and before the data an SPI with its size. -/
inductive PayloadEnd : List EncodingType → (ℕ → ℕ) → Prop
  | chunk : PayloadEnd [.chunkData] fun _ => 0
  | list (type : PayloadType) : PayloadEnd [.payloadList type] fun _ => 0
  | spi : PayloadEnd [.spiSize, .uint16, .spi, .chunkData] fun size => 24 + 8 * size

/-- The last field fills the payload. -/
lemma length_last {rule : EncodingType}
    (hrule : rule = .chunkData ∨ ∃ type, rule = .payloadList type)
    (h : FieldsFit Ok subBits kind [rule] seen fields) :
    kind.headerLength seen.spiSize ≤ seen.payloadLength ∧
      (fieldsBits subBits [rule] fields).length =
        8 * (seen.payloadLength - kind.headerLength seen.spiSize) := by
  obtain ⟨field, fields, reading, seen', rfl, hreading, hfits, -, hothers⟩ := h.exists_cons
  obtain rfl := hothers.eq_nil
  have hbits : fieldsBits subBits [rule] [field] = field.bits subBits rule.width :=
    List.append_nil _
  rw [hbits]
  rcases hrule with rfl | ⟨type, rfl⟩
  · rw [EncodingType.reading] at hreading
    split_ifs at hreading with hlt
    obtain rfl := Option.some.inj hreading
    refine ⟨Nat.le_of_not_lt hlt, ?_⟩
    cases field with
    | data bytes => rw [Field.bits, length_bytesBits, show bytes.length = _ from hfits]
    | num _ | bit _ | list _ => exact hfits.elim
  · rw [EncodingType.reading] at hreading
    split_ifs at hreading with hlt
    obtain rfl := Option.some.inj hreading
    refine ⟨Nat.le_of_not_lt hlt, ?_⟩
    cases field with
    | list substructures => exact hfits.2
    | num _ | bit _ | data _ => exact hfits.elim

lemma PayloadEnd.length {rules : List EncodingType} {extra : ℕ → ℕ}
    (hend : PayloadEnd rules extra) (h : FieldsFit Ok subBits kind rules seen fields) :
    ∃ size, kind.headerLength size ≤ seen.payloadLength ∧
      (fieldsBits subBits rules fields).length =
        extra size + 8 * (seen.payloadLength - kind.headerLength size) := by
  cases hend with
  | chunk =>
    obtain ⟨hle, hlength⟩ := length_last (.inl rfl) h
    exact ⟨seen.spiSize, hle, hlength.trans (Nat.zero_add _).symm⟩
  | list type =>
    obtain ⟨hle, hlength⟩ := length_last (.inr ⟨type, rfl⟩) h
    exact ⟨seen.spiSize, hle, hlength.trans (Nat.zero_add _).symm⟩
  | spi =>
    obtain ⟨field, fields, reading, seen', rfl, hreading, hfits, hremember, hothers⟩ :=
      h.exists_cons
    obtain rfl := Option.some.inj hreading
    cases field with
    | num size =>
      obtain rfl := Option.some.inj hremember
      obtain ⟨before, fields', hbefore, hbits, hothers⟩ :=
        @FieldsFit.exists_after S Ok subBits kind _ _ [.uint16] [.spi, .chunkData] _ rfl hothers
      obtain ⟨spi, fields'', reading, seen', rfl, hreading, hfits, hremember, hothers⟩ :=
        hothers.exists_cons
      obtain rfl := Option.some.inj hreading
      cases spi with
      | data bytes =>
        obtain rfl := Option.some.inj hremember
        obtain ⟨hle, hlength⟩ := length_last (.inl rfl) hothers
        refine ⟨size, hle, ?_⟩
        rw [fieldsBits, List.length_append, show [EncodingType.uint16, .spi, .chunkData] =
          [.uint16] ++ [.spi, .chunkData] from rfl, hbits, List.length_append, hbefore, fieldsBits,
          List.length_append, hlength, Field.bits, Field.bits, length_bitsOf, length_bytesBits,
          show bytes.length = size from hfits]
        show 8 + (16 + (8 * size + 8 * (seen.payloadLength - kind.headerLength size))) =
          24 + 8 * size + 8 * (seen.payloadLength - kind.headerLength size)
        omega
      | num _ | bit _ | list _ => exact hfits.elim
    | bit _ | data _ | list _ => exact hfits.elim

end Fields

/-! ### The generic header -/

/-- The payloads of a message with the generic header: the next type, flags and the length. -/
def PayloadKind.chained : PayloadKind → Bool
  | header | encryptedV1 | encryptedFragment => false
  | proposalV1 | proposalV2 | transformV1 | transformV2 | trafficSelector => false
  | transformAttribute | attributeV1 | attributeV2 => false
  | _ => true

namespace PayloadKind

open EncodingType

/-- Behind the length, the rest of the header comes before the data of a payload. -/
lemma exists_header {kind : PayloadKind} (h : kind.chained = true) :
    ∃ pre mid last w extra, kind.encodings = pre ++ .payloadLength :: (mid ++ last) ∧
      fixedWidths pre = some 16 ∧ fixedWidths mid = some w ∧ PayloadEnd last extra ∧
      ∀ size, 32 + w + extra size = 8 * kind.headerLength size := by
  cases kind with
  | saV1 => exact ⟨reservedHeader.dropLast, [uint32, uint32], _, _, _, rfl, rfl, rfl, .list _,
      fun _ => rfl⟩
  | saV2 => exact ⟨criticalHeader.dropLast, [], _, _, _, rfl, rfl, rfl, .list _, fun _ => rfl⟩
  | keV2 => exact ⟨criticalHeader.dropLast, [uint16, reservedByte, reservedByte], _, _, _, rfl,
      rfl, rfl, .chunk, fun _ => rfl⟩
  | idV1 => exact ⟨byteHeader.dropLast, [uint8, uint8, uint16], _, _, _, rfl, rfl, rfl, .chunk,
      fun _ => rfl⟩
  | idV2 | auth => exact ⟨criticalHeader.dropLast,
      [uint8, reservedByte, reservedByte, reservedByte], _, _, _, rfl, rfl, rfl, .chunk,
      fun _ => rfl⟩
  | cert | certreq => exact ⟨criticalHeader.dropLast, [uint8], _, _, _, rfl, rfl, rfl, .chunk,
      fun _ => rfl⟩
  | keV1 | hash => exact ⟨byteHeader.dropLast, [], _, _, _, rfl, rfl, rfl, .chunk, fun _ => rfl⟩
  | nonce | vendorId | eap | unknown => exact ⟨criticalHeader.dropLast, [], _, _, _, rfl, rfl, rfl,
      .chunk, fun _ => rfl⟩
  | notifyV1 => exact ⟨reservedHeader.dropLast, [uint32, uint8], _, _, _, rfl, rfl, rfl, .spi,
      fun size => by rw [headerLength]; omega⟩
  | notifyV2 => exact ⟨criticalHeader.dropLast, [uint8], _, _, _, rfl, rfl, rfl, .spi,
      fun size => by rw [headerLength]; omega⟩
  | deleteV1 => exact ⟨reservedHeader.dropLast, [uint32, uint8, uint8, uint16], _, _, _, rfl, rfl,
      rfl, .chunk, fun _ => rfl⟩
  | deleteV2 => exact ⟨criticalHeader.dropLast, [uint8, uint8, uint16], _, _, _, rfl, rfl, rfl,
      .chunk, fun _ => rfl⟩
  | ts | cpV2 => exact ⟨criticalHeader.dropLast,
      [uint8, reservedByte, reservedByte, reservedByte], _, _, _, rfl, rfl, rfl, .list _,
      fun _ => rfl⟩
  | cpV1 => exact ⟨criticalHeader.dropLast, [uint8, reservedByte, uint16], _, _, _, rfl, rfl, rfl,
      .list _, fun _ => rfl⟩
  | fragment => exact ⟨byteHeader.dropLast, [uint16, uint8, uint8], _, _, _, rfl, rfl, rfl, .chunk,
      fun _ => rfl⟩
  | encryptedV2 => exact ⟨[uint8, uint8], [], _, _, _, rfl, rfl, rfl, .chunk, fun _ => rfl⟩
  | _ => cases h

end PayloadKind

section Length

variable {S : Type} {Ok : PayloadType → S → Prop} {subBits : S → List Bool}

/-- A payload states its own length, behind its first two bytes. -/
lemma PayloadOf.bits_eq_of_chained {majorVersion : ℕ} {type : PayloadType} {p : PayloadOf S}
    (h : p.Fits Ok subBits majorVersion type) (hkind : p.kind.chained = true) :
    ∃ before length after, p.bits subBits = before ++ (bitsOf 16 length ++ after) ∧
      before.length = 16 ∧ 4 ≤ length ∧ length < 2 ^ 16 ∧ (p.bits subBits).length = 8 * length := by
  obtain ⟨pre, mid, last, w, extra, hrules, hpre, hmid, hlast, hheader⟩ :=
    PayloadKind.exists_header hkind
  obtain ⟨-, -, hfields⟩ := h
  rw [PayloadOf.bits]
  rw [hrules] at hfields ⊢
  obtain ⟨before, fields, hbefore, hbits, hfields⟩ := hfields.exists_after hpre
  rw [hbits]
  obtain ⟨field, fields, reading, seen', rfl, hreading, hfits, hremember, hothers⟩ :=
    hfields.exists_cons
  obtain rfl := Option.some.inj hreading
  cases field with
  | num length =>
    rw [EncodingType.remember] at hremember
    split_ifs at hremember with hfour
    obtain rfl := Option.some.inj hremember
    obtain ⟨between, fields', hbetween, hbits', hfields'⟩ := hothers.exists_after hmid
    obtain ⟨size, hle, hrest⟩ := hlast.length hfields'
    refine ⟨before, length, _, rfl, hbefore, Nat.le_of_not_lt hfour, hfits, ?_⟩
    have hsize := hheader size
    have hle' : p.kind.headerLength size ≤ length := hle
    have hrest' : (fieldsBits subBits last fields').length =
        extra size + 8 * (length - p.kind.headerLength size) := hrest
    rw [fieldsBits, hbits', List.length_append, List.length_append, List.length_append, hbefore,
      hbetween, hrest', Field.bits, length_bitsOf]
    show 16 + (16 + (w + (extra size + 8 * (length - p.kind.headerLength size)))) = 8 * length
    omega
  | bit _ | data _ | list _ => exact hfits.elim

end Length

end SecuredApp
