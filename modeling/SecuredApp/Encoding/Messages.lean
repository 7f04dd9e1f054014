import SecuredApp.Encoding.Chains

/-!
# Messages

A message that is not encrypted: its header and the payloads behind it (`message.c`). The length in
the header is filled in when all of them are written.
-/

namespace SecuredApp

open SecuredApp.Core

/-! ### The last field -/

section Last

variable {S : Type} {Ok : PayloadType → S → Prop} {subBits : S → List Bool} {kind : PayloadKind}
  {rules : List EncodingType} {rule : EncodingType}

/-- The last field stands behind fields that the other rules allow, and may be replaced. -/
lemma FieldsFit.exists_concat {seen : ParsedFields} {fields : List (Field S)}
    (h : FieldsFit Ok subBits kind (rules ++ [rule]) seen fields) :
    ∃ fields' field seen', fields = fields' ++ [field] ∧ fields'.length = rules.length ∧
      FieldsFit Ok subBits kind rules seen fields' ∧
      FieldsFit Ok subBits kind [rule] seen' [field] ∧
      ∀ field', FieldsFit Ok subBits kind [rule] seen' [field'] →
        FieldsFit Ok subBits kind (rules ++ [rule]) seen (fields' ++ [field']) := by
  induction rules generalizing seen fields with
  | nil =>
    obtain ⟨field, fields, reading, seen', rfl, hreading, hfits, hremember, hothers⟩ :=
      FieldsFit.exists_cons h
    obtain rfl := hothers.eq_nil
    exact ⟨[], field, seen, rfl, rfl, trivial, h, fun _ h => h⟩
  | cons first rules ih =>
    obtain ⟨field, fields, reading, seen', rfl, hreading, hfits, hremember, hothers⟩ :=
      FieldsFit.exists_cons h
    obtain ⟨fields', last, seen'', rfl, hlength, hbefore, hlast, hreplace⟩ := ih hothers
    exact ⟨field :: fields', last, seen'', rfl, congrArg (· + 1) hlength,
      ⟨reading, seen', hreading, hfits, hremember, hbefore⟩, hlast,
      fun field' h => ⟨reading, seen', hreading, hfits, hremember, hreplace field' h⟩⟩

lemma fieldsBits_concat {fields : List (Field S)} (h : fields.length = rules.length)
    (field : Field S) :
    fieldsBits subBits (rules ++ [rule]) (fields ++ [field])
      = fieldsBits subBits rules fields ++ field.bits subBits rule.width := by
  induction rules generalizing fields with
  | nil =>
    obtain rfl := List.eq_nil_of_length_eq_zero h
    exact List.append_nil _
  | cons first rules ih =>
    cases fields with
    | nil => cases h
    | cons field' fields =>
      rw [List.cons_append, List.cons_append, fieldsBits, fieldsBits, ih (Nat.succ.inj h),
        List.append_assoc]

lemma Generator.generateRules_concat {generateSub : S → Generator → Generator}
    {fields : List (Field S)} (h : fields.length = rules.length) (field : Field S)
    (g : Generator) :
    generateRules generateSub (rules ++ [rule]) (fields ++ [field]) g
      = generateRule generateSub rule field (generateRules generateSub rules fields g) := by
  induction rules generalizing fields g with
  | nil =>
    obtain rfl := List.eq_nil_of_length_eq_zero h
    rfl
  | cons first rules ih =>
    cases fields with
    | nil => cases h
    | cons field' fields => exact ih (Nat.succ.inj h) _

end Last

/-! ### The header -/

namespace PayloadKind

/-- The fields of the header before the length of the message. -/
def headerFields : List EncodingType := header.encodings.dropLast

lemma encodings_header : header.encodings = headerFields ++ [.headerLength] := rfl

end PayloadKind

/-- The header with a length, which is its last field and has four bytes. -/
def PayloadOf.setLength {S : Type} (length : ℕ) (p : PayloadOf S) : PayloadOf S :=
  { p with fields := p.fields.dropLast ++ [.num (length % 2 ^ 32)] }

section Header

open PayloadKind EncodingType

variable {S : Type} {Ok : PayloadType → S → Prop} {subBits : S → List Bool} {kind : PayloadKind}
  {seen : ParsedFields} {header : PayloadOf S} {majorVersion : ℕ}

/-- The length of the message stands behind 24 bytes. -/
lemma length_headerFields {fields : List (Field S)}
    (h : FieldsFit Ok subBits kind headerFields seen fields) :
    (fieldsBits subBits headerFields fields).length = 8 * 24 := by
  obtain ⟨initiator, fields, reading, seen', rfl, hreading, hinitiator, hremember, h⟩ :=
    FieldsFit.exists_cons h
  obtain ⟨responder, fields, reading', seen'', rfl, hreading', hresponder, hremember', h⟩ :=
    FieldsFit.exists_cons h
  obtain rfl := Option.some.inj hreading
  obtain rfl := Option.some.inj hreading'
  have hspi : ∀ {field : Field S}, (Reading.chunk 8).Fits Ok subBits field →
      (field.bits subBits 0).length = 64 := by
    intro field hfits
    cases field with
    | data bytes =>
      rw [Field.bits, length_bytesBits, show bytes.length = 8 from hfits]
    | num _ | bit _ | list _ => exact hfits.elim
  obtain ⟨before, fields', hbefore, hbits, -⟩ :=
    @FieldsFit.exists_after S Ok subBits kind seen'' fields (headerFields.drop 2) [] 64 rfl
      (by rwa [List.append_nil])
  rw [List.append_nil] at hbits
  rw [show headerFields = .ikeSpi :: .ikeSpi :: headerFields.drop 2 from rfl, fieldsBits,
    fieldsBits, hbits, List.length_append, List.length_append, List.length_append]
  have hinitiator' : (initiator.bits subBits EncodingType.ikeSpi.width).length = 64 :=
    hspi hinitiator
  have hresponder' : (responder.bits subBits EncodingType.ikeSpi.width).length = 64 :=
    hspi hresponder
  have hnil : (fieldsBits subBits [] fields').length = 0 := rfl
  rw [hinitiator', hresponder', hbefore, hnil]

lemma kind_eq_header (h : header.Fits Ok subBits majorVersion .header) :
    header.kind = PayloadKind.header := h.1

lemma exists_headerFields (h : header.Fits Ok subBits majorVersion .header) :
    ∃ fields value, header.fields = fields ++ [.num value] ∧
      fields.length = headerFields.length ∧
      FieldsFit Ok subBits PayloadKind.header headerFields {} fields ∧
      ∀ length, FieldsFit Ok subBits PayloadKind.header PayloadKind.header.encodings {}
        (fields ++ [.num (length % 2 ^ 32)]) := by
  have hfields := h.2.2
  rw [kind_eq_header h, encodings_header] at hfields
  obtain ⟨fields, field, seen', hconcat, hlength, hbefore, hlast, hreplace⟩ :=
    hfields.exists_concat
  obtain ⟨reading, seen'', hreading, hfits, -⟩ := hlast
  obtain rfl := Option.some.inj hreading
  cases field with
  | num value =>
    refine ⟨fields, value, hconcat, hlength, hbefore, fun length => ?_⟩
    exact hreplace _ ⟨.uint32, seen', rfl, Nat.mod_lt _ (Nat.two_pow_pos 32), rfl, trivial⟩
  | bit _ | data _ | list _ => exact hfits.elim

/-- The header with another length differs in its last four bytes. -/
lemma bits_setLength (h : header.Fits Ok subBits majorVersion .header) (length : ℕ) :
    (header.setLength length).Fits Ok subBits majorVersion .header ∧
      ∃ before value, before.length = 8 * 24 ∧ header.bits subBits = before ++ bitsOf 32 value ∧
        (header.setLength length).bits subBits = before ++ bitsOf 32 length := by
  obtain ⟨fields, value, hfields, hlength, hbefore, hreplace⟩ := exists_headerFields h
  have hset : header.setLength length
      = { header with fields := fields ++ [.num (length % 2 ^ 32)] } := by
    rw [PayloadOf.setLength, hfields, List.dropLast_concat]
  have hbits : ∀ value, PayloadOf.bits subBits { header with fields := fields ++ [.num value] }
      = fieldsBits subBits headerFields fields ++ bitsOf 32 value := by
    intro value
    rw [PayloadOf.bits, kind_eq_header h, encodings_header, fieldsBits_concat hlength]
    rfl
  refine ⟨?_, fieldsBits subBits headerFields fields, value, length_headerFields hbefore, ?_, ?_⟩
  · rw [hset]
    refine ⟨h.1, h.2.1, ?_⟩
    rw [kind_eq_header h]
    exact hreplace length
  · rw [← hbits value, ← hfields]
  · rw [hset, hbits, bitsOf_mod]

/-- The header takes every next type. -/
lemma fits_setNextType_header (h : header.Fits Ok subBits majorVersion .header)
    (type : PayloadType) : (header.setNextType type).Fits Ok subBits majorVersion .header := by
  obtain ⟨kind, type', fields⟩ := header
  obtain rfl : kind = PayloadKind.header := kind_eq_header h
  obtain ⟨hkind, htype, hfields⟩ := h
  obtain ⟨initiator, fields, reading, seen₁, rfl, hinitiator⟩ := FieldsFit.exists_cons hfields
  obtain ⟨hreading, hfits, hremember, hfields⟩ := hinitiator
  obtain ⟨responder, fields, reading', seen₂, rfl, hresponder⟩ := FieldsFit.exists_cons hfields
  obtain ⟨hreading', hfits', hremember', hfields⟩ := hresponder
  obtain ⟨next, fields, reading'', seen₃, rfl, hreading'', hfits'', hremember'', hothers⟩ :=
    FieldsFit.exists_cons hfields
  have hseen : seen₃ = seen₂ := by
    obtain rfl := Option.some.inj hreading''
    cases next with
    | num value => exact (Option.some.inj hremember'').symm
    | bit _ | data _ | list _ => exact hfits''.elim
  subst hseen
  refine ⟨hkind, htype, reading, seen₁, hreading, hfits, hremember, reading', seen₃, hreading',
    hfits', hremember', .uint8, seen₃, rfl, ?_, rfl, hothers⟩
  exact Nat.mod_lt type (Nat.two_pow_pos 8)

/-- A new generator notes that the length stands behind 24 bytes. -/
lemma Generator.headerLengthOffset_header (h : header.Fits Ok subBits majorVersion .header)
    (generateSub : S → Generator → Generator) (memory : ℕ → UInt8) :
    (generateOf generateSub header (create memory)).headerLengthOffset = 24 := by
  obtain ⟨fields, value, hfields, hlength, hbefore, -⟩ := exists_headerFields h
  rw [generateOf, kind_eq_header h, encodings_header, hfields, generateRules_concat hlength]
  refine (keeps_generateUint 4 value _).2.trans ?_
  have hnolist : ∀ type, .payloadList type ∉ headerFields := by
    intro type
    simp [headerFields, PayloadKind.encodings]
  obtain ⟨hat, hbits⟩ := generateRules_bits (fun type hmem => absurd hmem (hnolist type))
    (show laidOut headerFields 0 = true from rfl)
    (show formatsSet false headerFields false = true from rfl) hbefore
    (at_zero.mpr rfl : (create memory).At 0) (fun h => by cases h) fun h => by cases h
  rw [bits_of_currentBit (at_zero.mp hat), bits_of_currentBit rfl] at hbits
  have hwritten := congrArg List.length hbits
  rw [length_bytesBits, List.length_append, length_headerFields hbefore] at hwritten
  exact Nat.eq_of_mul_eq_mul_left (by decide : 0 < 8) (hwritten.trans (Nat.zero_add _))

end Header

/-! ### Whole messages -/

namespace Message

open EncryptedPayload

variable {depth majorVersion : ℕ} {header : PayloadOf (Payload depth)}
  {payloads : List (PayloadOf (Payload depth))}

/-- `generate_message` and `finalize_message`, of a message that is not encrypted. -/
def generate (memory : ℕ → UInt8) (header : PayloadOf (Payload depth))
    (payloads : List (PayloadOf (Payload depth))) : List UInt8 :=
  let g := generateLoop header payloads (Generator.create memory)
  g.getChunk g.written.length

/-- The payloads are written behind the header as they are in an encrypted payload. -/
lemma generateLoop_header (hheader : header.Fits (Payload.Fits 0) Payload.bits 0 .header)
    (h : ∀ p ∈ payloads, InChain majorVersion p) (hformat : FormatsLast payloads)
    (memory : ℕ → UInt8) :
    (generateLoop header payloads (Generator.create memory)).headerLengthOffset = 24 ∧
      bytesBits (generateLoop header payloads (Generator.create memory)).written
        = (header.setNextType (nextPayload payloads)).bits Payload.bits ++
          bytesBits (EncryptedPayload.generate memory payloads) := by
  set first := header.setNextType (nextPayload payloads)
  have hfits := fits_setNextType_header hheader (nextPayload payloads)
  have hwrites : Generator.Writes (Generator.generatePayload (depth + 1) first) first.kind
      (first.bits Payload.bits) :=
    @Generator.writes_generatePayload 0 (depth + 1) .header first hfits
  rw [generateLoop_eq, show chain (header :: payloads) = first :: chain payloads from rfl]
  constructor
  · refine (Generator.foldl_offset PayloadOf.kind (writes_chain h) fun q hq hkind => ?_).trans
      (Generator.headerLengthOffset_header hfits _ memory)
    have hchained := (inChain_chain h q hq).chained
    rw [hkind] at hchained
    cases hchained
  · have hkind : first.kind = PayloadKind.header := kind_eq_header hfits
    obtain ⟨hat, hbits⟩ := Generator.foldl_writes PayloadOf.kind
      (List.forall_mem_cons.mpr ⟨hwrites, writes_chain h⟩)
      (List.pairwise_cons.mpr ⟨fun _ _ _ => by rw [hkind]; rfl, hformat.chain⟩)
      (Generator.at_zero.mpr rfl : (Generator.create memory).At 0) fun _ _ _ => rfl
    rw [Generator.bits_of_currentBit (Generator.at_zero.mp hat),
      Generator.bits_of_currentBit rfl] at hbits
    rw [bytesBits_generate h hformat]
    exact hbits

/-- The header of a message comes back with the type of the first payload and with the length of
the message, and the payloads stand behind it. -/
theorem parse_header_generate (hheader : header.Fits (Payload.Fits 0) Payload.bits 0 .header)
    (h : ∀ p ∈ payloads, InChain majorVersion p) (hformat : FormatsLast payloads)
    (memory : ℕ → UInt8) :
    parsePayload 0 (depth + 1) .header ⟨generate memory header payloads, 0⟩ =
      some ((header.setNextType (nextPayload payloads)).setLength
          (generate memory header payloads).length,
        ⟨EncryptedPayload.generate memory payloads, 0⟩) := by
  obtain ⟨hoffset, hbits⟩ := generateLoop_header hheader h hformat memory
  have hnext := fits_setNextType_header hheader (nextPayload payloads)
  obtain ⟨hfits, before, value, hbefore, hheaderBits, hsetBits⟩ :=
    bits_setLength hnext (generate memory header payloads).length
  rw [hheaderBits, List.append_assoc] at hbits
  obtain ⟨first, rest, hwritten, hfirst, hfirstBits, hrest⟩ :=
    exists_of_bytesBits_append hbits hbefore
  obtain ⟨stated, others, rfl, hstated, -, hothers⟩ :=
    exists_of_bytesBits_append hrest (length_bitsOf (8 * 4) value)
  obtain rfl := bytesBits_inj hothers
  -- only the four bytes of the length are replaced
  have hreplaced : ∀ length, Generator.getChunk
      (generateLoop header payloads (Generator.create memory)) length = first ++
        toBytes 4 length ++ EncryptedPayload.generate memory payloads := by
    intro length
    have hbehind : (first ++ stated).length = 24 + 4 := by
      rw [List.length_append, hfirst, hstated]
    rw [Generator.getChunk, hoffset, hwritten, List.take_left' hfirst, ← List.append_assoc,
      List.drop_left' hbehind]
  have hlength : (generate memory header payloads).length
      = (generateLoop header payloads (Generator.create memory)).written.length := by
    rw [generate, hreplaced, hwritten]
    simp only [List.length_append, length_toBytes, hstated, Nat.add_assoc]
  refine parseOf_complete (subCoded_parsePayload 0 depth) hfits ?_ fun hkind => ?_
  · rw [hsetBits, hlength, generate, hreplaced, bytesBits_append, bytesBits_append, hfirstBits,
      bytesBits_toBytes]
  · cases (kind_eq_header hfits).symm.trans hkind

/-- The header of a first request. -/
def initHeader : PayloadOf (Payload 0) :=
  ⟨.header, .header, [.data (List.replicate 8 1), .data (List.replicate 8 0), .num 0, .num 2,
    .num 0, .num 34] ++ List.replicate 8 (.bit false) ++ [.num 0, .num 28]⟩

/-- A header of 28 bytes and a nonce payload of 8 make a message of 36. -/
example : ((generate (fun _ => 0) initHeader [dataPayload .nonce 40 [1, 2, 3, 4]]).drop 24).take 4
    = [0, 0, 0, 36] := by
  decide +kernel

end Message

end SecuredApp
