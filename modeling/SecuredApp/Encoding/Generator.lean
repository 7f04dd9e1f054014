import SecuredApp.Encoding.Parser

/-!
# The generator

Payloads written out as bytes (`generator.c`).
-/

namespace SecuredApp

open SecuredApp.Core

/-- The generator: the bytes before the output position, the memory from there on, which holds
anything at first, and the position in the current byte. The attribute format stays from one
payload to the next. -/
structure Generator where
  written : List UInt8
  memory : ℕ → UInt8
  currentBit : ℕ
  attributeFormat : Bool
  headerLengthOffset : ℕ

namespace Generator

/-- A generator over a buffer as it was allocated. -/
def create (memory : ℕ → UInt8) : Generator := ⟨[], memory, 0, false, 0⟩

/-- Replaces the current byte. -/
def putByte (b : UInt8) (g : Generator) : Generator :=
  { g with memory := fun i => if i = 0 then b else g.memory i }

/-- Moves the output position behind the current byte. -/
def nextByte (g : Generator) : Generator :=
  { g with written := g.written ++ [g.memory 0], memory := fun i => g.memory (i + 1) }

/-- `write_bytes_to_buffer`. -/
def writeBytes (bytes : List UInt8) (g : Generator) : Generator :=
  bytes.foldl (fun g b => (g.putByte b).nextByte) g

/-- `U_INT_4`: a half of the current byte, the other one unchanged. -/
def generateUint4 (value : ℕ) (g : Generator) : Generator :=
  if g.currentBit = 0 then
    let high := UInt8.ofNat (value <<< 4)
    let low := g.memory 0 &&& 0x0F
    { g.putByte (high ||| low) with currentBit := 4 }
  else if g.currentBit = 4 then
    let high := g.memory 0 &&& 0xF0
    let low := UInt8.ofNat value &&& 0x0F
    { (g.putByte (high ||| low)).nextByte with currentBit := 0 }
  else g

/-- An integer of whole bytes in network order, which must start with a byte. -/
def generateUint (count value : ℕ) (g : Generator) : Generator :=
  if g.currentBit ≠ 0 then g else g.writeBytes (toBytes count value)

/-- `ATTRIBUTE_TYPE`: 15 bits after the format bit, which stays. -/
def generateAttributeType (value : ℕ) (g : Generator) : Generator :=
  if g.currentBit ≠ 1 then g
  else
    let attributeFormatFlag := g.memory 0 &&& 0x80
    let val := value &&& 0x7FFF
    let val := if attributeFormatFlag ≠ 0 then val ||| 0x8000 else val
    { g.writeBytes (toBytes 2 val) with currentBit := 0 }

/-- A single bit, set in a byte that is cleared with its first bit. -/
def generateFlag (value : Bool) (g : Generator) : Generator :=
  let flag : UInt8 := UInt8.ofNat ((if value then 1 else 0) <<< (7 - g.currentBit))
  let g := if g.currentBit = 0 then g.putByte 0 else g
  let g := g.putByte (g.memory 0 ||| flag)
  if 8 ≤ g.currentBit + 1 then { g.nextByte with currentBit := (g.currentBit + 1) % 8 }
  else { g with currentBit := g.currentBit + 1 }

/-- A chunk, which must start with a byte. -/
def generateFromChunk (bytes : List UInt8) (g : Generator) : Generator :=
  if g.currentBit ≠ 0 then g else g.writeBytes bytes

section Payload

variable {S : Type} (generateSub : S → Generator → Generator)

/-- One rule. A value of another sort than the rule's does not occur in a payload object. -/
def generateRule (rule : EncodingType) (field : Field S) (g : Generator) : Generator :=
  match rule, field with
  | .uint4, .num value => g.generateUint4 value
  | .uint8, .num value | .reservedByte, .num value | .spiSize, .num value | .tsType, .num value =>
    g.generateUint 1 value
  | .uint16, .num value | .payloadLength, .num value | .attributeLength, .num value =>
    g.generateUint 2 value
  | .uint32, .num value => g.generateUint 4 value
  | .attributeType, .num value => g.generateAttributeType value
  | .ikeSpi, .data bytes => g.generateFromChunk bytes
  | .reservedBit, .bit value | .flag, .bit value => g.generateFlag value
  | .headerLength, .num value =>
    { g with headerLengthOffset := g.written.length }.generateUint 4 value
  | .address, .data bytes | .spi, .data bytes | .chunkData, .data bytes
  | .encryptedData, .data bytes =>
    g.generateFromChunk bytes
  | .payloadList _, .list substructures => substructures.foldl (fun g s => generateSub s g) g
  | .attributeFormat, .bit value => { g.generateFlag value with attributeFormat := value }
  | .attributeLengthOrValue, .num value => g.generateUint 2 value
  | .attributeValue, .data bytes => if g.attributeFormat then g else g.generateFromChunk bytes
  | _, _ => g

/-- The loop over the rules. -/
def generateRules : List EncodingType → List (Field S) → Generator → Generator
  | rule :: rules, field :: fields, g =>
    generateRules rules fields (generateRule generateSub rule field g)
  | _, _, g => g

end Payload

/-- One payload with the rules of its class. -/
def generateOf {S : Type} (generateSub : S → Generator → Generator) (p : PayloadOf S) :
    Generator → Generator :=
  generateRules generateSub p.kind.encodings p.fields

/-- `generate_payload`. -/
def generatePayload : (depth : ℕ) → Payload depth → Generator → Generator
  | 0 => generateOf fun _ g => g
  | depth + 1 => generateOf (generatePayload depth)

/-- What was written, with the length of the message filled in where the header has it. -/
def getChunk (g : Generator) (length : ℕ) : List UInt8 :=
  g.written.take g.headerLengthOffset ++ toBytes 4 length ++
    g.written.drop (g.headerLengthOffset + 4)

end Generator

end SecuredApp
