import SecuredApp.Encoding.Rules

/-!
# The parser

The payloads and the parser of IKE messages (`parser.c`).
-/

namespace SecuredApp

open SecuredApp.Core

/-- The value of a field. A list holds substructures, which are payloads of their own. -/
inductive Field (S : Type)
  | num (value : ℕ)
  | bit (value : Bool)
  | data (bytes : List UInt8)
  | list (substructures : List S)

/-- A payload: its class, the type it was made for and its fields in the order of its rules. -/
structure PayloadOf (S : Type) where
  kind : PayloadKind
  type : PayloadType
  fields : List (Field S)

/-- The payloads whose substructures go down by so many levels. The deepest is the IKE SA payload
with its proposals, their transforms and their attributes: three levels. -/
def Payload : ℕ → Type
  | 0 => PayloadOf Empty
  | depth + 1 => PayloadOf (Payload depth)

/-- Where the parser stands: its input from the current byte on and the current bit. -/
structure Parser where
  input : List UInt8
  bitPos : ℕ

namespace Parser

/-- A 4 bit integer, the high or the low half of the current byte. -/
def parseUint4 (p : Parser) : Option (ℕ × Parser) :=
  match p.input with
  | [] => none
  | b :: rest =>
    if p.bitPos = 0 then some (b.toNat >>> 4, ⟨b :: rest, 4⟩)
    else if p.bitPos = 4 then some (b.toNat &&& 0x0F, ⟨rest, 0⟩)
    else none

/-- An integer of whole bytes, in network order. -/
def parseUint (count : ℕ) (p : Parser) : Option (ℕ × Parser) :=
  if p.input.length < count then none
  else if p.bitPos ≠ 0 then none
  else some (ofBytes (p.input.take count), ⟨p.input.drop count, 0⟩)

def parseUint8 : Parser → Option (ℕ × Parser) := parseUint 1

def parseUint16 : Parser → Option (ℕ × Parser) := parseUint 2

def parseUint32 : Parser → Option (ℕ × Parser) := parseUint 4

/-- The 15 bits after the first bit of a byte. -/
def parseUint15 (p : Parser) : Option (ℕ × Parser) :=
  if p.input.length < 2 then none
  else if p.bitPos ≠ 1 then none
  else some (ofBytes (p.input.take 2) &&& 0x7FFF, ⟨p.input.drop 2, 0⟩)

/-- A number of bytes as they are (`parse_bytes`, `parse_chunk`). -/
def parseChunk (length : ℕ) (p : Parser) : Option (List UInt8 × Parser) :=
  if p.input.length < length then none
  else if p.bitPos ≠ 0 then none
  else some (p.input.take length, ⟨p.input.drop length, 0⟩)

/-- A single bit. -/
def parseBit (p : Parser) : Option (Bool × Parser) :=
  match p.input with
  | [] => none
  | b :: rest =>
    some (b.toNat.testBit (7 - p.bitPos),
      if (p.bitPos + 1) % 8 = 0 then ⟨rest, 0⟩ else ⟨b :: rest, (p.bitPos + 1) % 8⟩)

section List

variable {S : Type}

/-- The loop of `parse_list`. Each substructure takes a byte at least, so `length` rounds do. -/
def parseListLoop (parseSub : Parser → Option (S × Parser)) :
    ℕ → ℕ → Parser → Option (List S × Parser)
  | _, 0, p => some ([], p)
  | 0, _ + 1, _ => none
  | rounds + 1, length + 1, p => do
    let (substructure, p') ← parseSub p
    let taken := p.input.length - p'.input.length
    -- the substructures must yield exactly the length
    if length + 1 < taken then none
    else do
      let (substructures, p'') ← parseListLoop parseSub rounds (length + 1 - taken) p'
      some (substructure :: substructures, p'')

/-- Substructures that fill a length. -/
def parseList (parseSub : Parser → Option (S × Parser)) (length : ℕ) (p : Parser) :
    Option (List S × Parser) :=
  if p.bitPos ≠ 0 then none else parseListLoop parseSub length length p

end List

end Parser

/-- What `parse_payload` remembers of the fields that it read. -/
structure ParsedFields where
  payloadLength : ℕ := 0
  spiSize : ℕ := 0
  attributeLength : ℕ := 0
  attributeFormat : Bool := false
  tsType : ℕ := 0

/-- The type of an IPv4 address range. -/
def tsIpv4AddrRange : ℕ := 7

/-- The way a field is read. -/
inductive Reading
  | uint4
  | uint8
  | uint15
  | uint16
  | uint32
  | bit
  | chunk (length : ℕ)
  | remaining
  | list (type : PayloadType) (length : ℕ)
  | absent

namespace EncodingType

/-- The way that the rules' switch has a field read, after the fields before it. -/
def reading (kind : PayloadKind) (seen : ParsedFields) : EncodingType → Option Reading
  | uint4 => some .uint4
  | uint8 | reservedByte | spiSize | tsType => some .uint8
  | uint16 | payloadLength | attributeLength | attributeLengthOrValue => some .uint16
  | uint32 | headerLength => some .uint32
  | attributeType => some .uint15
  | reservedBit | flag | attributeFormat => some .bit
  | ikeSpi => some (.chunk 8)
  | spi => some (.chunk seen.spiSize)
  | payloadList type =>
    if seen.payloadLength < kind.headerLength seen.spiSize then none
    else some (.list type (seen.payloadLength - kind.headerLength seen.spiSize))
  | chunkData =>
    if seen.payloadLength < kind.headerLength seen.spiSize then none
    else some (.chunk (seen.payloadLength - kind.headerLength seen.spiSize))
  | encryptedData => some .remaining
  -- the value of a short attribute is in place of its length
  | attributeValue =>
    if seen.attributeFormat then some .absent else some (.chunk seen.attributeLength)
  | address => some (.chunk (if seen.tsType = tsIpv4AddrRange then 4 else 16))

variable {S : Type}

/-- What is remembered of a field; every payload must have a header of four bytes at least. -/
def remember (seen : ParsedFields) : EncodingType → Field S → Option ParsedFields
  | payloadLength, .num value =>
    if value < 4 then none else some { seen with payloadLength := value }
  | spiSize, .num value => some { seen with spiSize := value }
  | attributeLength, .num value | attributeLengthOrValue, .num value =>
    some { seen with attributeLength := value }
  | attributeFormat, .bit value => some { seen with attributeFormat := value }
  | tsType, .num value => some { seen with tsType := value }
  | _, _ => some seen

end EncodingType

namespace Reading

variable {S : Type} (parseSub : PayloadType → Parser → Option (S × Parser))

/-- Reads a field. -/
def parse : Reading → Parser → Option (Field S × Parser)
  | uint4, p => p.parseUint4.map fun (value, p') => (.num value, p')
  | uint8, p => p.parseUint8.map fun (value, p') => (.num value, p')
  | uint15, p => p.parseUint15.map fun (value, p') => (.num value, p')
  | uint16, p => p.parseUint16.map fun (value, p') => (.num value, p')
  | uint32, p => p.parseUint32.map fun (value, p') => (.num value, p')
  | bit, p => p.parseBit.map fun (value, p') => (.bit value, p')
  | chunk length, p => (p.parseChunk length).map fun (bytes, p') => (.data bytes, p')
  | remaining, p => (p.parseChunk p.input.length).map fun (bytes, p') => (.data bytes, p')
  | list type length, p =>
    (p.parseList (parseSub type) length).map fun (substructures, p') => (.list substructures, p')
  | absent, p => some (.data [], p)

end Reading

section Payload

variable {S : Type} (parseSub : PayloadType → Parser → Option (S × Parser)) (kind : PayloadKind)

/-- One rule. -/
def parseRule (seen : ParsedFields) (rule : EncodingType) (p : Parser) :
    Option (Field S × ParsedFields × Parser) := do
  let reading ← rule.reading kind seen
  let (field, p') ← reading.parse parseSub p
  let seen' ← rule.remember seen field
  some (field, seen', p')

/-- The loop over the rules. -/
def parseRules : List EncodingType → ParsedFields → Parser → Option (List (Field S) × Parser)
  | [], _, p => some ([], p)
  | rule :: rules, seen, p => do
    let (field, seen', p') ← parseRule parseSub kind seen rule p
    let (fields, p'') ← parseRules rules seen' p'
    some (field :: fields, p'')

end Payload

/-- One payload with the rules of its class. -/
def parseOf {S : Type} (parseSub : PayloadType → Parser → Option (S × Parser)) (majorVersion : ℕ)
    (type : PayloadType) (p : Parser) : Option (PayloadOf S × Parser) :=
  let kind := parsedKind majorVersion type
  (parseRules parseSub kind kind.encodings {} p).map fun (fields, p') => (⟨kind, type, fields⟩, p')

/-- `parse_payload`, for substructures of up to `depth` levels. -/
def parsePayload (majorVersion : ℕ) :
    (depth : ℕ) → PayloadType → Parser → Option (Payload depth × Parser)
  | 0 => parseOf (fun _ _ => none) majorVersion
  | depth + 1 => parseOf (parsePayload majorVersion depth) majorVersion

end SecuredApp
