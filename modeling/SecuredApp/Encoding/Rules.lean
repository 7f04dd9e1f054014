import SecuredApp.Core.Bits

/-!
# Encoding rules

The payload types of an IKE message and, for each class of payload, the rules that the parser and
the generator walk (`encodings.h`, `payload.c` and the tables in `payloads/`).
-/

namespace SecuredApp

/-- The number of a type of payload. The types of an IKEv2 payload and the first of IKEv1 are also
what the next payload field holds. -/
abbrev PayloadType := ℕ

namespace PayloadType

@[match_pattern] abbrev noPayload : PayloadType := 0
@[match_pattern] abbrev v1SecurityAssociation : PayloadType := 1
@[match_pattern] abbrev v1KeyExchange : PayloadType := 4
@[match_pattern] abbrev v1Id : PayloadType := 5
@[match_pattern] abbrev v1Certificate : PayloadType := 6
@[match_pattern] abbrev v1Certreq : PayloadType := 7
@[match_pattern] abbrev v1Hash : PayloadType := 8
@[match_pattern] abbrev v1Signature : PayloadType := 9
@[match_pattern] abbrev v1Nonce : PayloadType := 10
@[match_pattern] abbrev v1Notify : PayloadType := 11
@[match_pattern] abbrev v1Delete : PayloadType := 12
@[match_pattern] abbrev v1VendorId : PayloadType := 13
@[match_pattern] abbrev v1Configuration : PayloadType := 14
@[match_pattern] abbrev v1NatD : PayloadType := 20
@[match_pattern] abbrev v1NatOa : PayloadType := 21
@[match_pattern] abbrev v2SecurityAssociation : PayloadType := 33
@[match_pattern] abbrev v2KeyExchange : PayloadType := 34
@[match_pattern] abbrev v2IdInitiator : PayloadType := 35
@[match_pattern] abbrev v2IdResponder : PayloadType := 36
@[match_pattern] abbrev v2Certificate : PayloadType := 37
@[match_pattern] abbrev v2Certreq : PayloadType := 38
@[match_pattern] abbrev v2Auth : PayloadType := 39
@[match_pattern] abbrev v2Nonce : PayloadType := 40
@[match_pattern] abbrev v2Notify : PayloadType := 41
@[match_pattern] abbrev v2Delete : PayloadType := 42
@[match_pattern] abbrev v2VendorId : PayloadType := 43
@[match_pattern] abbrev v2TsInitiator : PayloadType := 44
@[match_pattern] abbrev v2TsResponder : PayloadType := 45
@[match_pattern] abbrev v2Encrypted : PayloadType := 46
@[match_pattern] abbrev v2Configuration : PayloadType := 47
@[match_pattern] abbrev v2Eap : PayloadType := 48
@[match_pattern] abbrev v2Fragment : PayloadType := 53
@[match_pattern] abbrev v1NatDDraft : PayloadType := 130
@[match_pattern] abbrev v1NatOaDraft : PayloadType := 131
@[match_pattern] abbrev v1Fragment : PayloadType := 132
@[match_pattern] abbrev header : PayloadType := 256
@[match_pattern] abbrev unknown : PayloadType := 257
@[match_pattern] abbrev v2ProposalSubstructure : PayloadType := 258
@[match_pattern] abbrev v1ProposalSubstructure : PayloadType := 259
@[match_pattern] abbrev v2TransformSubstructure : PayloadType := 260
@[match_pattern] abbrev v1TransformSubstructure : PayloadType := 261
@[match_pattern] abbrev v2TransformAttribute : PayloadType := 262
@[match_pattern] abbrev v1TransformAttribute : PayloadType := 263
@[match_pattern] abbrev v2TrafficSelectorSubstructure : PayloadType := 264
@[match_pattern] abbrev v2ConfigurationAttribute : PayloadType := 265
@[match_pattern] abbrev v1ConfigurationAttribute : PayloadType := 266
@[match_pattern] abbrev v1Encrypted : PayloadType := 267

end PayloadType

/-- The kind of a field (`encoding_type_t`); a list names the type of its substructures. -/
inductive EncodingType
  | uint4
  | uint8
  | uint16
  | uint32
  | reservedBit
  | reservedByte
  | flag
  | payloadLength
  | headerLength
  | spiSize
  | spi
  | attributeFormat
  | attributeType
  | attributeLengthOrValue
  | attributeLength
  | attributeValue
  | tsType
  | address
  | chunkData
  | ikeSpi
  | encryptedData
  | payloadList (type : PayloadType)
  deriving DecidableEq

/-- The classes of payloads, one for each table of encoding rules. -/
inductive PayloadKind
  | header
  | saV1
  | saV2
  | proposalV1
  | proposalV2
  | transformV1
  | transformV2
  | transformAttribute
  | keV1
  | keV2
  | idV1
  | idV2
  | cert
  | certreq
  | auth
  | hash
  | nonce
  | notifyV1
  | notifyV2
  | deleteV1
  | deleteV2
  | vendorId
  | ts
  | trafficSelector
  | cpV1
  | cpV2
  | attributeV1
  | attributeV2
  | eap
  | fragment
  | encryptedV1
  | encryptedV2
  | encryptedFragment
  | unknown
  deriving DecidableEq

/-- The class of the object that is created for a type of payload. -/
def payloadCreate : PayloadType → PayloadKind
  | .header => .header
  | .v2SecurityAssociation => .saV2
  | .v1SecurityAssociation => .saV1
  | .v2ProposalSubstructure => .proposalV2
  | .v1ProposalSubstructure => .proposalV1
  | .v2TransformSubstructure => .transformV2
  | .v1TransformSubstructure => .transformV1
  | .v2TransformAttribute | .v1TransformAttribute => .transformAttribute
  | .v2Nonce | .v1Nonce => .nonce
  | .v2IdInitiator | .v2IdResponder => .idV2
  | .v1Id | .v1NatOa | .v1NatOaDraft => .idV1
  | .v2Auth => .auth
  | .v2Certificate | .v1Certificate => .cert
  | .v2Certreq | .v1Certreq => .certreq
  | .v2TrafficSelectorSubstructure => .trafficSelector
  | .v2TsInitiator | .v2TsResponder => .ts
  | .v2KeyExchange => .keV2
  | .v1KeyExchange => .keV1
  | .v2Notify => .notifyV2
  | .v1Notify => .notifyV1
  | .v2Delete => .deleteV2
  | .v1Delete => .deleteV1
  | .v2VendorId | .v1VendorId => .vendorId
  | .v1Hash | .v1Signature | .v1NatD | .v1NatDDraft => .hash
  | .v2Configuration => .cpV2
  | .v1Configuration => .cpV1
  | .v2ConfigurationAttribute => .attributeV2
  | .v1ConfigurationAttribute => .attributeV1
  | .v2Eap => .eap
  | .v2Encrypted => .encryptedV2
  | .v1Encrypted => .encryptedV1
  | .v1Fragment => .fragment
  | .v2Fragment => .encryptedFragment
  | _ => .unknown

/-- The IKEv1 types are known to major version 1, the IKEv2 types to version 2, and all of them
before a header was read. -/
def payloadIsKnown (type : PayloadType) (majVer : ℕ) : Bool :=
  if PayloadType.header ≤ type then true
  else
    let v1 := (PayloadType.v1SecurityAssociation ≤ type ∧ type ≤ PayloadType.v1Configuration) ∨
      (PayloadType.v1NatD ≤ type ∧ type ≤ PayloadType.v1NatOa) ∨
      (PayloadType.v1NatDDraft ≤ type ∧ type ≤ PayloadType.v1Fragment)
    let v2 := (PayloadType.v2SecurityAssociation ≤ type ∧ type ≤ PayloadType.v2Eap) ∨
      type = PayloadType.v2Fragment
    match majVer with
    | 0 => v1 ∨ v2
    | 1 => v1
    | 2 => v2
    | _ => false

/-- The class of the object that the parser fills for a type of payload. -/
def parsedKind (majorVersion : ℕ) (type : PayloadType) : PayloadKind :=
  if payloadIsKnown type majorVersion then payloadCreate type else .unknown

namespace PayloadKind

open EncodingType

/-- The generic header of a payload with a critical flag. -/
def criticalHeader : List EncodingType :=
  uint8 :: flag :: List.replicate 7 reservedBit ++ [payloadLength]

/-- The generic header of an IKEv1 payload, its second byte reserved bit by bit. -/
def reservedHeader : List EncodingType :=
  uint8 :: List.replicate 8 reservedBit ++ [payloadLength]

/-- The generic header with a reserved byte. -/
def byteHeader : List EncodingType := [uint8, reservedByte, payloadLength]

/-- The table of a class (`get_encoding_rules`). -/
def encodings : PayloadKind → List EncodingType
  | header => [ikeSpi, ikeSpi, uint8, uint4, uint4, uint8, reservedBit, reservedBit, flag, flag,
      flag, flag, flag, flag, uint32, headerLength]
  | saV1 => reservedHeader ++ [uint32, uint32, payloadList .v1ProposalSubstructure]
  | saV2 => criticalHeader ++ [payloadList .v2ProposalSubstructure]
  | proposalV1 => byteHeader ++
      [uint8, uint8, spiSize, uint8, spi, payloadList .v1TransformSubstructure]
  | proposalV2 => byteHeader ++
      [uint8, uint8, spiSize, uint8, spi, payloadList .v2TransformSubstructure]
  | transformV1 => byteHeader ++
      [uint8, uint8, reservedByte, reservedByte, payloadList .v1TransformAttribute]
  | transformV2 => byteHeader ++
      [uint8, reservedByte, uint16, payloadList .v2TransformAttribute]
  | transformAttribute => [attributeFormat, attributeType, attributeLengthOrValue, attributeValue]
  | keV1 => byteHeader ++ [chunkData]
  | keV2 => criticalHeader ++ [uint16, reservedByte, reservedByte, chunkData]
  | idV1 => byteHeader ++ [uint8, uint8, uint16, chunkData]
  | idV2 => criticalHeader ++ [uint8, reservedByte, reservedByte, reservedByte, chunkData]
  | cert | certreq => criticalHeader ++ [uint8, chunkData]
  | auth => criticalHeader ++ [uint8, reservedByte, reservedByte, reservedByte, chunkData]
  | hash => byteHeader ++ [chunkData]
  | nonce => criticalHeader ++ [chunkData]
  | notifyV1 => reservedHeader ++ [uint32, uint8, spiSize, uint16, spi, chunkData]
  | notifyV2 => criticalHeader ++ [uint8, spiSize, uint16, spi, chunkData]
  -- the size of the SPIs of a delete is no SPI_SIZE: it does not move what follows
  | deleteV1 => reservedHeader ++ [uint32, uint8, uint8, uint16, chunkData]
  | deleteV2 => criticalHeader ++ [uint8, uint8, uint16, chunkData]
  | vendorId => criticalHeader ++ [chunkData]
  | ts => criticalHeader ++
      [uint8, reservedByte, reservedByte, reservedByte, payloadList .v2TrafficSelectorSubstructure]
  | trafficSelector => [tsType, uint8, payloadLength, uint16, uint16, address, address]
  | cpV1 => criticalHeader ++
      [uint8, reservedByte, uint16, payloadList .v1ConfigurationAttribute]
  | cpV2 => criticalHeader ++
      [uint8, reservedByte, reservedByte, reservedByte, payloadList .v2ConfigurationAttribute]
  | attributeV1 => [attributeFormat, attributeType, attributeLengthOrValue, attributeValue]
  -- the first bit of an IKEv2 attribute is reserved, so its value is always there
  | attributeV2 => [reservedBit, attributeType, attributeLength, attributeValue]
  | eap => criticalHeader ++ [chunkData]
  | fragment => byteHeader ++ [uint16, uint8, uint8, chunkData]
  | encryptedV1 => [encryptedData]
  | encryptedV2 => [uint8, uint8, payloadLength, chunkData]
  | encryptedFragment => [uint8, uint8, payloadLength, uint16, uint16, chunkData]
  | unknown => criticalHeader ++ [chunkData]

/-- The bytes of a payload before its variable part (`get_header_length`). -/
def headerLength : PayloadKind → ℕ → ℕ
  | header, _ => 28
  | saV1, _ => 12
  | saV2, _ => 4
  | proposalV1, size | proposalV2, size => 8 + size
  | transformV1, _ | transformV2, _ => 8
  | transformAttribute, _ => 0
  | keV1, _ => 4
  | keV2, _ => 8
  | idV1, _ | idV2, _ => 8
  | cert, _ | certreq, _ => 5
  | auth, _ => 8
  | hash, _ | nonce, _ => 4
  | notifyV1, size => 12 + size
  | notifyV2, size => 8 + size
  | deleteV1, _ => 12
  | deleteV2, _ => 8
  | vendorId, _ => 4
  | ts, _ | trafficSelector, _ => 8
  | cpV1, _ | cpV2, _ => 8
  | attributeV1, _ | attributeV2, _ => 4
  | eap, _ => 4
  | fragment, _ => 8
  | encryptedV1, _ => 0
  | encryptedV2, _ => 4
  | encryptedFragment, _ => 8
  | unknown, _ => 4

end PayloadKind

end SecuredApp
