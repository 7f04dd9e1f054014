import SecuredApp.Encoding.Codec

/-!
# Round trips of payloads

The generator writes the bits of a payload whatever its buffer held before, so that parsing and
generating are inverse to each other.
-/

namespace SecuredApp

open SecuredApp.Core

/-! ### The attribute format -/

/-- The values of IKEv2 configuration attributes are written without that their format is set. -/
def PayloadKind.plainValues : PayloadKind → Bool
  | attributeV2 | cpV2 => true
  | _ => false

/-- Where a class does not set the format of its attributes, it never does, nor do the payloads
in it; otherwise it does so before it writes a value. -/
def formatsSet (plain : Bool) : List EncodingType → Bool → Bool
  | [], _ => true
  | .attributeFormat :: rules, _ => !plain && formatsSet plain rules true
  | .attributeValue :: rules, set => (plain || set) && formatsSet plain rules set
  | .payloadList type :: rules, set =>
    (payloadCreate type).plainValues == plain && formatsSet plain rules set
  | _ :: rules, set => formatsSet plain rules set

lemma formatsSet_encodings (kind : PayloadKind) :
    formatsSet kind.plainValues kind.encodings false = true := by
  cases kind <;> rfl

/-- The payloads that write the format of an attribute, in themselves or in a substructure. -/
def PayloadKind.setsFormat : PayloadKind → Bool
  | saV1 | saV2 | proposalV1 | proposalV2 | transformV1 | transformV2 | transformAttribute => true
  | cpV1 | attributeV1 => true
  | _ => false

lemma PayloadKind.setsFormat_of_plainValues {kind : PayloadKind} (h : kind.plainValues = true) :
    kind.setsFormat = false := by
  cases kind <;> first | rfl | cases h

/-- The fields that leave the format as it is. -/
def EncodingType.keepsFormat : EncodingType → Bool
  | attributeFormat => false
  | payloadList type => !(payloadCreate type).setsFormat
  | _ => true

lemma keepsFormat_encodings {kind : PayloadKind} (h : kind.setsFormat = false) :
    kind.encodings.all EncodingType.keepsFormat = true := by
  cases kind <;> first | rfl | cases h

/-- Only the header has a field for the length of the message. -/
lemma eq_header {kind : PayloadKind} (h : .headerLength ∈ kind.encodings) : kind = .header := by
  have hcheck : ∀ kind : PayloadKind, kind.encodings.contains .headerLength = true →
      kind = .header := by
    intro kind hmem
    cases kind <;> first | rfl | cases hmem
  exact hcheck kind (List.contains_iff_mem.mpr h)

lemma formatsSet_cons {plain set : Bool} {rule : EncodingType} {rules : List EncodingType}
    (h : formatsSet plain (rule :: rules) set = true) :
    (rule ≠ .attributeFormat → formatsSet plain rules set = true) ∧
      (rule = .attributeFormat → plain = false ∧ formatsSet plain rules true = true) ∧
      (rule = .attributeValue → plain = true ∨ set = true) ∧
      ∀ type, rule = .payloadList type → (payloadCreate type).plainValues = plain := by
  cases rule with
  | attributeFormat =>
    rw [formatsSet, Bool.and_eq_true, Bool.not_eq_true'] at h
    refine ⟨absurd rfl, fun _ => h, fun heq => ?_, fun type heq => ?_⟩ <;> cases heq
  | _ => simp_all [formatsSet]

namespace Generator

/-- Only output was added. -/
def Keeps (g g' : Generator) : Prop :=
  g'.attributeFormat = g.attributeFormat ∧ g'.headerLengthOffset = g.headerLengthOffset

lemma keeps_writeBytes (bytes : List UInt8) (g : Generator) : g.Keeps (g.writeBytes bytes) :=
  ⟨attributeFormat_writeBytes bytes g, headerLengthOffset_writeBytes bytes g⟩

lemma keeps_generateUint4 (value : ℕ) (g : Generator) : g.Keeps (g.generateUint4 value) := by
  rw [generateUint4]
  split_ifs <;> exact ⟨rfl, rfl⟩

lemma keeps_generateUint (count value : ℕ) (g : Generator) :
    g.Keeps (g.generateUint count value) := by
  rw [generateUint]
  split_ifs
  · exact ⟨rfl, rfl⟩
  · exact keeps_writeBytes _ g

lemma keeps_generateFromChunk (bytes : List UInt8) (g : Generator) :
    g.Keeps (g.generateFromChunk bytes) := by
  rw [generateFromChunk]
  split_ifs
  · exact ⟨rfl, rfl⟩
  · exact keeps_writeBytes _ g

lemma keeps_generateAttributeType (value : ℕ) (g : Generator) :
    g.Keeps (g.generateAttributeType value) := by
  rw [generateAttributeType]
  split_ifs with h
  · exact ⟨rfl, rfl⟩
  · exact keeps_writeBytes _ g

lemma keeps_generateFlag (value : Bool) (g : Generator) : g.Keeps (g.generateFlag value) := by
  rw [generateFlag]
  split_ifs <;> exact ⟨rfl, rfl⟩

section Rule

variable {S : Type} {generateSub : S → Generator → Generator} {Ok : PayloadType → S → Prop}
  {subBits : S → List Bool} {rule : EncodingType} {kind : PayloadKind} {seen : ParsedFields}
  {field : Field S} {g : Generator}

lemma keeps_generateRule (hformat : rule ≠ .attributeFormat) (hheader : rule ≠ .headerLength)
    (hlist : ∀ type, rule ≠ .payloadList type) :
    g.Keeps (generateRule generateSub rule field g) := by
  cases rule with
  | attributeFormat => exact absurd rfl hformat
  | headerLength => exact absurd rfl hheader
  | payloadList type => exact absurd rfl (hlist type)
  | uint4 =>
    cases field with
    | num value => exact keeps_generateUint4 value g
    | _ => exact ⟨rfl, rfl⟩
  | attributeType =>
    cases field with
    | num value => exact keeps_generateAttributeType value g
    | _ => exact ⟨rfl, rfl⟩
  | reservedBit | flag =>
    cases field with
    | bit value => exact keeps_generateFlag value g
    | _ => exact ⟨rfl, rfl⟩
  | attributeValue =>
    cases field with
    | data bytes =>
      rw [generateRule]
      split_ifs
      · exact ⟨rfl, rfl⟩
      · exact keeps_generateFromChunk bytes g
    | _ => exact ⟨rfl, rfl⟩
  | ikeSpi | spi | address | chunkData | encryptedData =>
    cases field with
    | data bytes => exact keeps_generateFromChunk bytes g
    | _ => exact ⟨rfl, rfl⟩
  | _ =>
    cases field with
    | num value => exact keeps_generateUint _ value g
    | _ => exact ⟨rfl, rfl⟩

lemma attributeFormat_generateRule (generateSub : S → Generator → Generator) (field : Field S)
    (g : Generator) (hformat : rule ≠ .attributeFormat) (hlist : ∀ type, rule ≠ .payloadList type) :
    (generateRule generateSub rule field g).attributeFormat = g.attributeFormat := by
  by_cases hheader : rule = .headerLength
  · subst hheader
    cases field with
    | num value => exact (keeps_generateUint 4 value _).1
    | _ => rfl
  · exact (keeps_generateRule hformat hheader hlist).1

lemma headerLengthOffset_generateRule (hheader : rule ≠ .headerLength)
    (hlist : ∀ type, rule ≠ .payloadList type) :
    (generateRule generateSub rule field g).headerLengthOffset = g.headerLengthOffset := by
  by_cases hformat : rule = .attributeFormat
  · subst hformat
    cases field with
    | bit value => exact (keeps_generateFlag value g).2
    | _ => rfl
  · exact (keeps_generateRule hformat hheader hlist).2

/-- At the format bit the generator takes the format that the parser remembers. -/
lemma attributeFormat_synced {reading : Reading} {seen' : ParsedFields}
    (hreading : EncodingType.attributeFormat.reading kind seen = some reading)
    (hfits : reading.Fits Ok subBits field)
    (hremember : EncodingType.attributeFormat.remember seen field = some seen') :
    (generateRule generateSub .attributeFormat field g).attributeFormat =
      seen'.attributeFormat := by
  obtain rfl := Option.some.inj hreading
  cases field with
  | bit value =>
    obtain rfl := Option.some.inj hremember
    rfl
  | num _ | data _ | list _ => exact hfits.elim

/-- The field of a list rule is a list of substructures. -/
lemma exists_list {type : PayloadType} {reading : Reading}
    (hreading : (EncodingType.payloadList type).reading kind seen = some reading)
    (hfits : reading.Fits Ok subBits field) :
    ∃ substructures, field = .list substructures ∧ ∀ s ∈ substructures, Ok type s := by
  rw [EncodingType.reading] at hreading
  split_ifs at hreading
  obtain rfl := Option.some.inj hreading
  cases field with
  | list substructures => exact ⟨substructures, rfl, hfits.1⟩
  | num _ | bit _ | data _ => exact hfits.elim

/-- Only the format bit changes what the parser remembers of it. -/
lemma attributeFormat_remember {seen' : ParsedFields} (h : rule.remember seen field = some seen')
    (hformat : rule ≠ .attributeFormat) : seen'.attributeFormat = seen.attributeFormat := by
  cases rule with
  | attributeFormat => exact absurd rfl hformat
  | payloadLength =>
    cases field with
    | num value =>
      rw [EncodingType.remember] at h
      split_ifs at h
      obtain rfl := Option.some.inj h
      rfl
    | _ =>
      obtain rfl := Option.some.inj h
      rfl
  | _ =>
    cases field <;>
      (obtain rfl := Option.some.inj h
       rfl)

end Rule

/-- A piece of output is written as it should be by a generator that starts with a byte, when the
format of attributes was not left set for values that need it clear. -/
structure Writes (generate : Generator → Generator) (kind : PayloadKind) (bits : List Bool) :
    Prop where
  bits_eq : ∀ {g : Generator}, g.At 0 →
    (kind.plainValues = true → g.attributeFormat = false) →
    (generate g).At 0 ∧ (generate g).bits = g.bits ++ bits
  format_eq : ∀ {g : Generator}, kind.setsFormat = false →
    (generate g).attributeFormat = g.attributeFormat
  offset_eq : ∀ {g : Generator}, kind ≠ .header →
    (generate g).headerLengthOffset = g.headerLengthOffset

section Rules

variable {S : Type} {generateSub : S → Generator → Generator} {Ok : PayloadType → S → Prop}
  {subBits : S → List Bool} {kind : PayloadKind} {seen : ParsedFields} {g : Generator}

/-- A field is written with its bits. -/
lemma generateRule_bits (generateSub : S → Generator → Generator) {rule : EncodingType}
    {reading : Reading} {field : Field S} {s s' : ℕ}
    (hreading : rule.reading kind seen = some reading) (hfits : reading.Fits Ok subBits field)
    (hg : g.At s) (hs : rule.next s = some s') (hlist : ∀ type, rule ≠ .payloadList type)
    (hformat : rule = .attributeValue → g.attributeFormat = seen.attributeFormat) :
    (generateRule generateSub rule field g).At s' ∧
      (generateRule generateSub rule field g).bits = g.bits ++ field.bits subBits rule.width := by
  obtain ⟨hnext, -⟩ := EncodingType.reading_layout hreading s
  cases rule with
  | payloadList type => exact absurd rfl (hlist type)
  | uint4 =>
    obtain rfl := Option.some.inj hreading
    cases field with
    | num value => exact generateUint4_bits hg hs value
    | bit _ | data _ | list _ => exact hfits.elim
  | attributeType =>
    obtain rfl := Option.some.inj hreading
    cases field with
    | num value => exact generateAttributeType_bits hg hs value
    | bit _ | data _ | list _ => exact hfits.elim
  | uint8 | reservedByte | spiSize | tsType =>
    obtain rfl := Option.some.inj hreading
    obtain ⟨rfl, rfl⟩ := whole_of_next hs
    cases field with
    | num value => exact generateUint_bits hg 1 value
    | bit _ | data _ | list _ => exact hfits.elim
  | uint16 | payloadLength | attributeLength | attributeLengthOrValue =>
    obtain rfl := Option.some.inj hreading
    obtain ⟨rfl, rfl⟩ := whole_of_next hs
    cases field with
    | num value => exact generateUint_bits hg 2 value
    | bit _ | data _ | list _ => exact hfits.elim
  | uint32 =>
    obtain rfl := Option.some.inj hreading
    obtain ⟨rfl, rfl⟩ := whole_of_next hs
    cases field with
    | num value => exact generateUint_bits hg 4 value
    | bit _ | data _ | list _ => exact hfits.elim
  | headerLength =>
    obtain rfl := Option.some.inj hreading
    obtain ⟨rfl, rfl⟩ := whole_of_next hs
    cases field with
    | num value =>
      exact generateUint_bits (g := { g with headerLengthOffset := g.written.length }) hg 4 value
    | bit _ | data _ | list _ => exact hfits.elim
  | reservedBit | flag | attributeFormat =>
    obtain rfl := Option.some.inj hreading
    cases field with
    | bit value => exact generateFlag_bits hg hs value
    | num _ | data _ | list _ => exact hfits.elim
  | ikeSpi | spi | address | encryptedData =>
    obtain rfl := Option.some.inj hreading
    obtain ⟨rfl, rfl⟩ := whole_of_next hs
    cases field with
    | data bytes => exact generateFromChunk_bits hg bytes
    | num _ | bit _ | list _ => exact hfits.elim
  | chunkData =>
    rw [EncodingType.reading] at hreading
    split_ifs at hreading
    obtain rfl := Option.some.inj hreading
    obtain ⟨rfl, rfl⟩ := whole_of_next hs
    cases field with
    | data bytes => exact generateFromChunk_bits hg bytes
    | num _ | bit _ | list _ => exact hfits.elim
  | attributeValue =>
    obtain ⟨rfl, rfl⟩ := whole_of_next hs
    rw [EncodingType.reading, ← hformat rfl] at hreading
    cases field with
    | data bytes =>
      rw [generateRule]
      split_ifs at hreading ⊢ with hset
      · obtain rfl := Option.some.inj hreading
        obtain rfl : bytes = [] := hfits
        exact ⟨hg, (List.append_nil _).symm⟩
      · exact generateFromChunk_bits hg bytes
    | num _ | bit _ | list _ =>
      split_ifs at hreading <;>
        (obtain rfl := Option.some.inj hreading
         exact hfits.elim)

/-- Payloads are written one after the other, if values without a format come before those that
set one. -/
lemma foldl_writes (kindOf : S → PayloadKind) {substructures : List S}
    (hsub : ∀ s ∈ substructures, Writes (generateSub s) (kindOf s) (subBits s))
    (hformat : substructures.Pairwise fun s s' =>
      (kindOf s').plainValues = true → (kindOf s).setsFormat = false) (hg : g.At 0)
    (hplain : ∀ s ∈ substructures, (kindOf s).plainValues = true → g.attributeFormat = false) :
    (substructures.foldl (fun g s => generateSub s g) g).At 0 ∧
      (substructures.foldl (fun g s => generateSub s g) g).bits =
        g.bits ++ substructures.flatMap subBits := by
  induction substructures generalizing g with
  | nil => exact ⟨hg, (List.append_nil _).symm⟩
  | cons s substructures ih =>
    have hs := hsub s List.mem_cons_self
    obtain ⟨hlater, hformat⟩ := List.pairwise_cons.mp hformat
    obtain ⟨hat, hbits⟩ := hs.bits_eq hg (hplain s List.mem_cons_self)
    have hclear : ∀ s' ∈ substructures, (kindOf s').plainValues = true →
        (generateSub s g).attributeFormat = false := by
      intro s' hmem h
      rw [hs.format_eq (hlater s' hmem h)]
      exact hplain s' (List.mem_cons_of_mem _ hmem) h
    obtain ⟨hat', hbits'⟩ :=
      ih (fun s hmem => hsub s (List.mem_cons_of_mem _ hmem)) hformat hat hclear
    refine ⟨hat', hbits'.trans ?_⟩
    rw [hbits, List.flatMap_cons, List.append_assoc]

lemma foldl_format {type : PayloadType} {substructures : List S}
    (hsub : ∀ s ∈ substructures, Writes (generateSub s) (payloadCreate type) (subBits s))
    (hkind : (payloadCreate type).setsFormat = false) :
    (substructures.foldl (fun g s => generateSub s g) g).attributeFormat = g.attributeFormat := by
  induction substructures generalizing g with
  | nil => rfl
  | cons s substructures ih =>
    exact (ih fun s hmem => hsub s (List.mem_cons_of_mem _ hmem)).trans
      ((hsub s List.mem_cons_self).format_eq hkind)

lemma foldl_offset (kindOf : S → PayloadKind) {substructures : List S}
    (hsub : ∀ s ∈ substructures, Writes (generateSub s) (kindOf s) (subBits s))
    (hkind : ∀ s ∈ substructures, kindOf s ≠ .header) :
    (substructures.foldl (fun g s => generateSub s g) g).headerLengthOffset =
      g.headerLengthOffset := by
  induction substructures generalizing g with
  | nil => rfl
  | cons s substructures ih =>
    exact (ih (fun s hmem => hsub s (List.mem_cons_of_mem _ hmem))
      fun s hmem => hkind s (List.mem_cons_of_mem _ hmem)).trans
      ((hsub s List.mem_cons_self).offset_eq (hkind s List.mem_cons_self))

variable {rules : List EncodingType} {fields : List (Field S)}

/-- The fields of a payload are written with their bits. -/
lemma generateRules_bits {s : ℕ} {plain set : Bool}
    (hsub : ∀ type, .payloadList type ∈ rules → ∀ s, Ok type s →
      Writes (generateSub s) (payloadCreate type) (subBits s))
    (hlaid : laidOut rules s = true) (hset : formatsSet plain rules set = true)
    (hfields : FieldsFit Ok subBits kind rules seen fields) (hg : g.At s)
    (hplain : plain = true → g.attributeFormat = false ∧ seen.attributeFormat = false)
    (hsynced : set = true → g.attributeFormat = seen.attributeFormat) :
    (generateRules generateSub rules fields g).At 0 ∧
      (generateRules generateSub rules fields g).bits =
        g.bits ++ fieldsBits subBits rules fields := by
  induction rules generalizing s set seen fields g with
  | nil =>
    obtain rfl := hfields.eq_nil
    rw [laidOut, decide_eq_true_eq] at hlaid
    subst hlaid
    exact ⟨hg, (List.append_nil _).symm⟩
  | cons rule rules ih =>
    obtain ⟨s', hs', hrules, hlast⟩ := laidOut_cons hlaid
    obtain ⟨field, fields, reading, seen', rfl, hreading, hfits, hremember, hothers⟩ :=
      hfields.exists_cons
    obtain ⟨hother, hformat, hvalue, hlist⟩ := formatsSet_cons hset
    by_cases hislist : ∃ type, rule = .payloadList type
    · obtain ⟨type, rfl⟩ := hislist
      -- a list is the last field
      obtain rfl := hlast rfl
      obtain rfl := hothers.eq_nil
      obtain ⟨substructures, rfl, hok⟩ := exists_list hreading hfits
      obtain ⟨rfl, rfl⟩ := whole_of_next hs'
      obtain ⟨hat, hbits⟩ := foldl_writes (fun _ => payloadCreate type)
        (fun s hmem => hsub type List.mem_cons_self s (hok s hmem))
        (List.pairwise_of_forall fun _ _ => PayloadKind.setsFormat_of_plainValues) hg
        fun _ _ h => (hplain ((hlist type rfl).symm.trans h)).1
      refine ⟨hat, hbits.trans ?_⟩
      exact congrArg (g.bits ++ ·) (List.append_nil _).symm
    · have hnotlist : ∀ type, rule ≠ .payloadList type := fun type h => hislist ⟨type, h⟩
      have hread : rule = .attributeValue → g.attributeFormat = seen.attributeFormat := by
        intro h
        rcases hvalue h with hp | hs
        · rw [(hplain hp).1, (hplain hp).2]
        · exact hsynced hs
      obtain ⟨hat, hbits⟩ := generateRule_bits generateSub hreading hfits hg hs' hnotlist hread
      have hstep : ∀ set', formatsSet plain rules set' = true →
          (plain = true → (generateRule generateSub rule field g).attributeFormat = false ∧
            seen'.attributeFormat = false) →
          (set' = true → (generateRule generateSub rule field g).attributeFormat =
            seen'.attributeFormat) →
          (generateRules generateSub (rule :: rules) (field :: fields) g).At 0 ∧
            (generateRules generateSub (rule :: rules) (field :: fields) g).bits =
              g.bits ++ fieldsBits subBits (rule :: rules) (field :: fields) := by
        intro set' hset' hplain' hsynced'
        obtain ⟨hat', hbits'⟩ := ih (fun type hmem => hsub type (List.mem_cons_of_mem _ hmem))
          hrules hset' hothers hat hplain' hsynced'
        refine ⟨hat', hbits'.trans ?_⟩
        rw [hbits, fieldsBits, List.append_assoc]
      by_cases hrule : rule = .attributeFormat
      · obtain ⟨hnot, hset'⟩ := hformat hrule
        refine hstep true hset' (fun h => ?_) fun _ => ?_
        · rw [hnot] at h
          cases h
        · subst hrule
          exact attributeFormat_synced hreading hfits hremember
      · have hkeep := attributeFormat_generateRule generateSub field g hrule hnotlist
        have hkeep' := attributeFormat_remember hremember hrule
        refine hstep set (hother hrule) (fun h => ?_) fun h => ?_
        · rw [hkeep, hkeep']
          exact hplain h
        · rw [hkeep, hkeep']
          exact hsynced h

/-- Payloads without a format leave the one that was set. -/
lemma generateRules_format
    (hsub : ∀ type, .payloadList type ∈ rules → ∀ s, Ok type s →
      Writes (generateSub s) (payloadCreate type) (subBits s))
    (hkeeps : rules.all EncodingType.keepsFormat = true)
    (hfields : FieldsFit Ok subBits kind rules seen fields) :
    (generateRules generateSub rules fields g).attributeFormat = g.attributeFormat := by
  induction rules generalizing seen fields g with
  | nil =>
    obtain rfl := hfields.eq_nil
    rfl
  | cons rule rules ih =>
    obtain ⟨field, fields, reading, seen', rfl, hreading, hfits, -, hothers⟩ := hfields.exists_cons
    rw [List.all_cons, Bool.and_eq_true] at hkeeps
    obtain ⟨hrule, hrules⟩ := hkeeps
    refine (ih (fun type hmem => hsub type (List.mem_cons_of_mem _ hmem)) hrules hothers).trans ?_
    by_cases hislist : ∃ type, rule = .payloadList type
    · obtain ⟨type, rfl⟩ := hislist
      rw [EncodingType.keepsFormat, Bool.not_eq_true'] at hrule
      obtain ⟨substructures, rfl, hok⟩ := exists_list hreading hfits
      exact foldl_format (fun s hmem => hsub type List.mem_cons_self s (hok s hmem)) hrule
    · refine attributeFormat_generateRule generateSub field g (fun h => ?_) fun type h =>
        hislist ⟨type, h⟩
      rw [h] at hrule
      cases hrule

/-- Only the header notes where its length stands. -/
lemma generateRules_offset
    (hsub : ∀ type, .payloadList type ∈ rules → payloadCreate type ≠ .header ∧
      ∀ s, Ok type s → Writes (generateSub s) (payloadCreate type) (subBits s))
    (hheader : .headerLength ∉ rules) (hfields : FieldsFit Ok subBits kind rules seen fields) :
    (generateRules generateSub rules fields g).headerLengthOffset = g.headerLengthOffset := by
  induction rules generalizing seen fields g with
  | nil =>
    obtain rfl := hfields.eq_nil
    rfl
  | cons rule rules ih =>
    obtain ⟨field, fields, reading, seen', rfl, hreading, hfits, -, hothers⟩ := hfields.exists_cons
    refine (ih (fun type hmem => hsub type (List.mem_cons_of_mem _ hmem))
      (fun hmem => hheader (List.mem_cons_of_mem _ hmem)) hothers).trans ?_
    by_cases hislist : ∃ type, rule = .payloadList type
    · obtain ⟨type, rfl⟩ := hislist
      obtain ⟨hkind, hwrites⟩ := hsub type List.mem_cons_self
      obtain ⟨substructures, rfl, hok⟩ := exists_list hreading hfits
      exact foldl_offset (fun _ => payloadCreate type) (fun s hmem => hwrites s (hok s hmem))
        fun _ _ => hkind
    · refine headerLengthOffset_generateRule (fun h => hheader ?_) fun type h => hislist ⟨type, h⟩
      exact h ▸ List.mem_cons_self

end Rules

section Whole

variable {S : Type} {generateSub : S → Generator → Generator} {Ok : PayloadType → S → Prop}
  {subBits : S → List Bool} {majorVersion : ℕ}

/-- A payload that fits is written with its bits. -/
lemma writes_generateOf {type : PayloadType} {payload : PayloadOf S}
    (hsub : ∀ type s, Ok type s →
      Writes (generateSub s) (parsedKind majorVersion type) (subBits s))
    (hfits : payload.Fits Ok subBits majorVersion type) :
    Writes (generateOf generateSub payload) payload.kind (payload.bits subBits) := by
  obtain ⟨-, -, hfields⟩ := hfits
  have hlisted : ∀ type, .payloadList type ∈ payload.kind.encodings →
      payloadCreate type ≠ .header ∧
        ∀ s, Ok type s → Writes (generateSub s) (payloadCreate type) (subBits s) := by
    intro type hmem
    obtain ⟨hparsed, -, hkind⟩ := parsedKind_substructure hmem majorVersion
    exact ⟨hkind, fun s hs => hparsed ▸ hsub type s hs⟩
  refine ⟨fun hg hplain => ?_, fun hkeeps => ?_, fun hkind => ?_⟩
  · exact generateRules_bits (fun type hmem => (hlisted type hmem).2) (laidOut_encodings _)
      (formatsSet_encodings _) hfields hg (fun h => ⟨hplain h, rfl⟩) fun h => by cases h
  · exact generateRules_format (fun type hmem => (hlisted type hmem).2)
      (keepsFormat_encodings hkeeps) hfields
  · exact generateRules_offset hlisted (fun hmem => hkind (eq_header hmem)) hfields

lemma writes_generatePayload {depth : ℕ} {type : PayloadType} {payload : Payload depth}
    (hfits : payload.Fits majorVersion type) :
    Writes (generatePayload depth payload) payload.kind payload.bits := by
  induction depth generalizing type with
  | zero => exact writes_generateOf (fun _ s => s.elim) hfits
  | succ depth ih =>
    refine writes_generateOf (fun type s hs => ?_) hfits
    have hwrites := ih hs
    have hkind : s.kind = parsedKind majorVersion type := by
      cases depth with
      | zero => exact hs.1
      | succ depth => exact hs.1
    rwa [hkind] at hwrites

end Whole

end Generator

open Generator

/-- What a new generator writes of a payload has the payload's bits. -/
lemma bytesBits_generatePayload {majorVersion depth : ℕ} {type : PayloadType}
    {payload : Payload depth} (hfits : payload.Fits majorVersion type) (memory : ℕ → UInt8) :
    bytesBits (generatePayload depth payload (create memory)).written = payload.bits := by
  have hat : (create memory).At 0 := at_zero.mpr rfl
  obtain ⟨hat', hbits⟩ := (writes_generatePayload hfits).bits_eq hat fun _ => rfl
  rw [bits_of_currentBit (at_zero.mp hat')] at hbits
  rw [hbits, bits_of_currentBit (at_zero.mp hat)]
  rfl

/-- The parser accepts exactly what the generator writes of the payloads that fit their type,
whatever was in the generator's buffer before, and leaves what follows. Only an encrypted IKEv1
message takes all of the input. -/
theorem parse_generate_iff {majorVersion depth : ℕ} {type : PayloadType} {input : List UInt8}
    {payload : Payload depth} {p' : Parser} (memory : ℕ → UInt8) :
    parsePayload majorVersion depth type ⟨input, 0⟩ = some (payload, p') ↔
      payload.Fits majorVersion type ∧ p'.bitPos = 0 ∧
        input = (generatePayload depth payload (create memory)).written ++ p'.input ∧
        (payload.kind = .encryptedV1 → p'.input = []) := by
  rw [Payload.parsePayload_eq_some_iff]
  refine and_congr_right fun hfits => and_congr_right fun _ => and_congr_left fun _ => ?_
  rw [← bytesBits_generatePayload hfits memory, ← bytesBits_append]
  exact ⟨bytesBits_inj, congrArg bytesBits⟩

end SecuredApp
