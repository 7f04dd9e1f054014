import SecuredApp.Encoding.Generator

/-!
# The format of a payload

The bits that a payload stands for and what makes it fit the rules of its class. The parser accepts
the bits of payloads that fit, and nothing else.
-/

namespace SecuredApp

open SecuredApp.Core

/-! ### Layouts -/

/-- The bit position of a place in a layout. There are two places at the middle of a byte: `4`
behind four single bits and `8` behind a half byte. -/
def position (s : ℕ) : ℕ := if s = 8 then 4 else s

namespace EncodingType

/-- The bits of a number. -/
def width : EncodingType → ℕ
  | uint4 => 4
  | uint8 | reservedByte | spiSize | tsType => 8
  | attributeType => 15
  | uint16 | payloadLength | attributeLength | attributeLengthOrValue => 16
  | uint32 | headerLength => 32
  | _ => 0

/-- The place behind a field, when a field of this kind may stand at a place. -/
def next (s : ℕ) : EncodingType → Option ℕ
  | uint4 => if s = 0 then some 8 else if s = 8 then some 0 else none
  | reservedBit | flag | attributeFormat => if s < 8 then some ((s + 1) % 8) else none
  | attributeType => if s = 1 then some 0 else none
  | _ => if s = 0 then some 0 else none

/-- The nested call for a list replaces the rules that the parser walks and the object that the
generator reads; encrypted data takes all of the input. -/
def isLast : EncodingType → Bool
  | payloadList _ | encryptedData => true
  | _ => false

end EncodingType

/-- The fields follow each other without a gap up to a whole byte. -/
def laidOut : List EncodingType → ℕ → Bool
  | [], s => s = 0
  | rule :: rules, s =>
    (rule.next s).any (laidOut rules ·) && (!rule.isLast || rules.isEmpty)

lemma laidOut_encodings (kind : PayloadKind) : laidOut kind.encodings 0 = true := by
  cases kind <;> rfl

lemma laidOut_cons {rule : EncodingType} {rules : List EncodingType} {s : ℕ}
    (h : laidOut (rule :: rules) s = true) :
    ∃ s', rule.next s = some s' ∧ laidOut rules s' = true ∧ (rule.isLast = true → rules = []) := by
  rw [laidOut, Bool.and_eq_true, Option.any_eq_true] at h
  obtain ⟨⟨s', hs', hrules⟩, hlast⟩ := h
  refine ⟨s', hs', hrules, fun hl => ?_⟩
  rw [hl, Bool.not_true, Bool.false_or] at hlast
  exact List.isEmpty_iff.mp hlast

/-! ### Fields -/

namespace Field

variable {S : Type} (subBits : S → List Bool)

/-- The bits of a field, a number with so many of them. -/
def bits (width : ℕ) : Field S → List Bool
  | num value => bitsOf width value
  | bit value => [value]
  | data bytes => bytesBits bytes
  | list substructures => substructures.flatMap subBits

end Field

namespace Reading

/-- The bits of a number. -/
def width : Reading → ℕ
  | uint4 => 4
  | uint8 => 8
  | uint15 => 15
  | uint16 => 16
  | uint32 => 32
  | _ => 0

/-- The place behind what is read. -/
def next (s : ℕ) : Reading → Option ℕ
  | uint4 => if s = 0 then some 8 else if s = 8 then some 0 else none
  | bit => if s < 8 then some ((s + 1) % 8) else none
  | uint15 => if s = 1 then some 0 else none
  | _ => if s = 0 then some 0 else none

variable {S : Type} (Ok : PayloadType → S → Prop) (subBits : S → List Bool)

/-- The values that a reading gives. -/
def Fits : Reading → Field S → Prop
  | uint4, .num value => value < 2 ^ 4
  | uint8, .num value => value < 2 ^ 8
  | uint15, .num value => value < 2 ^ 15
  | uint16, .num value => value < 2 ^ 16
  | uint32, .num value => value < 2 ^ 32
  | bit, .bit _ => True
  | chunk length, .data bytes => bytes.length = length
  | remaining, .data _ => True
  | list type length, .list substructures =>
    (∀ s ∈ substructures, Ok type s) ∧ (substructures.flatMap subBits).length = 8 * length
  | absent, .data bytes => bytes = []
  | _, _ => False

end Reading

section Rules

variable {S : Type} (Ok : PayloadType → S → Prop) (subBits : S → List Bool) (kind : PayloadKind)

/-- The fields are what the rules allow, each one after those before it. -/
def FieldsFit : List EncodingType → ParsedFields → List (Field S) → Prop
  | [], _, [] => True
  | rule :: rules, seen, field :: fields =>
    ∃ reading seen', rule.reading kind seen = some reading ∧ reading.Fits Ok subBits field ∧
      rule.remember seen field = some seen' ∧ FieldsFit rules seen' fields
  | _, _, _ => False

/-- The bits of the fields. -/
def fieldsBits : List EncodingType → List (Field S) → List Bool
  | rule :: rules, field :: fields => field.bits subBits rule.width ++ fieldsBits rules fields
  | _, _ => []

end Rules

namespace FieldsFit

variable {S : Type} {Ok : PayloadType → S → Prop} {subBits : S → List Bool} {kind : PayloadKind}
  {seen : ParsedFields} {rule : EncodingType} {rules : List EncodingType}
  {fields : List (Field S)}

lemma eq_nil (h : FieldsFit Ok subBits kind [] seen fields) : fields = [] := by
  cases fields with
  | nil => rfl
  | cons _ _ => exact h.elim

/-- The first rule takes the first field, and the others go on with what is remembered of it. -/
lemma exists_cons (h : FieldsFit Ok subBits kind (rule :: rules) seen fields) :
    ∃ field fields' reading seen', fields = field :: fields' ∧
      rule.reading kind seen = some reading ∧ reading.Fits Ok subBits field ∧
      rule.remember seen field = some seen' ∧ FieldsFit Ok subBits kind rules seen' fields' := by
  cases fields with
  | nil => exact h.elim
  | cons field fields =>
    obtain ⟨reading, seen', h⟩ := h
    exact ⟨field, fields, reading, seen', rfl, h⟩

end FieldsFit

/-! ### Payloads -/

namespace PayloadOf

variable {S : Type} (Ok : PayloadType → S → Prop) (subBits : S → List Bool)

/-- The payload is one that is made for the type, with fields that its rules allow. -/
def Fits (majorVersion : ℕ) (type : PayloadType) (p : PayloadOf S) : Prop :=
  p.kind = parsedKind majorVersion type ∧ p.type = type ∧
    FieldsFit Ok subBits p.kind p.kind.encodings {} p.fields

/-- The bits of a payload. -/
def bits (p : PayloadOf S) : List Bool := fieldsBits subBits p.kind.encodings p.fields

end PayloadOf

namespace Payload

/-- The bits of a payload. -/
def bits : {depth : ℕ} → Payload depth → List Bool
  | 0 => PayloadOf.bits fun _ => []
  | _ + 1 => PayloadOf.bits bits

/-- The payloads of a type that the format has. -/
def Fits (majorVersion : ℕ) : {depth : ℕ} → PayloadType → Payload depth → Prop
  | 0 => PayloadOf.Fits (fun _ _ => False) (fun _ => []) majorVersion
  | _ + 1 => PayloadOf.Fits (Fits majorVersion) bits majorVersion

/-- The class of a payload. -/
def kind : {depth : ℕ} → Payload depth → PayloadKind
  | 0 => PayloadOf.kind
  | _ + 1 => PayloadOf.kind

end Payload

end SecuredApp
