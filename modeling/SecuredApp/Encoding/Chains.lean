import SecuredApp.Encoding.RoundTrip
import SecuredApp.Encoding.Lengths

/-!
# Chains of payloads

The payloads inside an encrypted payload, each of which names the type of the one behind it
(`encrypted_payload.c`).
-/

namespace SecuredApp

open SecuredApp.Core

/-! ### The next type -/

namespace PayloadOf

variable {S : Type}

/-- `get_next_type`. Attributes and traffic selectors name no type, and the object around an
encrypted IKEv1 message has it outside of its fields. -/
def getNextType (p : PayloadOf S) : PayloadType :=
  match p.kind, p.fields with
  | .transformAttribute, _ | .attributeV1, _ | .attributeV2, _ => .noPayload
  | .trafficSelector, _ | .encryptedV1, _ => .noPayload
  | .header, _ :: _ :: .num type :: _ => type
  | .header, _ => .noPayload
  | _, .num type :: _ => type
  | _, _ => .noPayload

/-- `get_type`. All but the object for an unknown payload tell the type that they were made for. -/
def getType (p : PayloadOf S) : PayloadType :=
  match p.kind with
  | .unknown => .unknown
  | _ => p.type

/-- `set_next_type`. The field takes the low byte of the type. -/
def setNextType (type : PayloadType) (p : PayloadOf S) : PayloadOf S :=
  match p.kind, p.fields with
  -- the substructures do not take it
  | .proposalV1, _ | .proposalV2, _ | .transformV1, _ | .transformV2, _ => p
  | .transformAttribute, _ | .attributeV1, _ | .attributeV2, _ | .trafficSelector, _ => p
  | .encryptedV1, _ => p
  | .header, initiator :: responder :: _ :: fields =>
    { p with fields := initiator :: responder :: .num (type % 2 ^ 8) :: fields }
  | .header, _ => p
  -- the first fragment keeps the one that it has
  | .encryptedFragment, .num 0 :: flags :: length :: .num 1 :: fields =>
    { p with fields := .num (type % 2 ^ 8) :: flags :: length :: .num 1 :: fields }
  | .encryptedFragment, _ => p
  | _, _ :: fields => { p with fields := .num (type % 2 ^ 8) :: fields }
  | _, [] => p

end PayloadOf

/-- The types of the known payloads with a generic header fit in a byte. -/
lemma payloadCreate_bounds {type : PayloadType} (hchained : (payloadCreate type).chained = true)
    (hknown : payloadCreate type ≠ .unknown) : 0 < type ∧ type < 2 ^ 8 := by
  revert hchained hknown
  rw [payloadCreate.eq_def]
  split <;> simp [PayloadKind.chained]

lemma PayloadKind.exists_rules {kind : PayloadKind} (h : kind.chained = true) :
    ∃ rules, kind.encodings = .uint8 :: rules := by
  cases kind <;> first | exact ⟨_, rfl⟩ | cases h

namespace PayloadOf

variable {S : Type}

lemma setNextType_cons {p : PayloadOf S} (h : p.kind.chained = true) {field : Field S}
    {fields : List (Field S)} (hfields : p.fields = field :: fields) (type : PayloadType) :
    p.setNextType type = { p with fields := .num (type % 2 ^ 8) :: fields } := by
  obtain ⟨kind, type', fields'⟩ := p
  obtain rfl : fields' = field :: fields := hfields
  cases kind <;> first | rfl | cases h

@[simp] lemma setNextType_mod (type : PayloadType) (p : PayloadOf S) :
    p.setNextType (type % 2 ^ 8) = p.setNextType type := by
  simp only [setNextType, Nat.mod_mod]

lemma getType_of_known {p : PayloadOf S} (h : p.kind ≠ .unknown) : p.getType = p.type := by
  rw [getType]
  split
  · contradiction
  · rfl

lemma getNextType_num {kind : PayloadKind} (h : kind.chained = true) (type next : PayloadType)
    (fields : List (Field S)) : getNextType ⟨kind, type, .num next :: fields⟩ = next := by
  cases kind <;> first | rfl | cases h

end PayloadOf

/-! ### Generating and parsing the contents -/

/-- The type that names a chain (`next_payload` of the encrypted payload, a byte). -/
def nextPayload {S : Type} : List (PayloadOf S) → PayloadType
  | [] => .noPayload
  | current :: _ => current.getType % 2 ^ 8

namespace EncryptedPayload

variable {depth : ℕ}

/-- The loop of `generate`, with the payload that is still to be written. -/
def generateLoop : PayloadOf (Payload depth) → List (PayloadOf (Payload depth)) → Generator →
    Generator
  | current, [], g => Generator.generatePayload (depth + 1) (current.setNextType .noPayload) g
  | current, next :: payloads, g =>
    generateLoop next payloads
      (Generator.generatePayload (depth + 1) (current.setNextType next.getType) g)

/-- `generate`: the contents before they are encrypted. -/
def generate (memory : ℕ → UInt8) : List (PayloadOf (Payload depth)) → List UInt8
  | [] => []
  | current :: payloads => (generateLoop current payloads (Generator.create memory)).written

/-- The errors of `parse`. -/
inductive Status
  | parseError
  | verifyError
  deriving DecidableEq

/-- The contents are long enough for the length that their first payload states. -/
def lengthValid (plain : List UInt8) : Bool :=
  4 ≤ plain.length && ofBytes ((plain.drop 2).take 2) ≤ plain.length

section Parse

variable (verify : PayloadOf (Payload depth) → Bool) (majorVersion : ℕ) (plain : List UInt8)

/-- The loop of `parse`, with the `verify` of the payloads. Each of them takes a byte at least, so
as many rounds as there are bytes do. -/
def parseLoop : ℕ → PayloadType → Parser → Except Status (List (PayloadOf (Payload depth)))
  | 0, type, _ => if type = .noPayload then .ok [] else .error .parseError
  | rounds + 1, type, p =>
    if type = .noPayload then .ok []
    -- what is looked at is not moved along with the parser
    else if !lengthValid plain then .error .parseError
    else match parsePayload majorVersion (depth + 1) type p with
      | none => .error .parseError
      | some (payload, p') =>
        if verify payload then
          (parseLoop rounds (PayloadOf.getNextType payload) p').map (payload :: ·)
        else .error .verifyError

/-- `parse`: the payloads in the decrypted contents. -/
def parse (type : PayloadType) : Except Status (List (PayloadOf (Payload depth))) :=
  parseLoop verify majorVersion plain plain.length type ⟨plain, 0⟩

end Parse

/-! ### The round trip -/

/-- A payload that may be in a chain: no encrypted fragment, which may keep the next type that it
has, and none of an unknown type, which the payload before it would name otherwise. -/
structure InChain (majorVersion : ℕ) (p : PayloadOf (Payload depth)) : Prop where
  chained : p.kind.chained = true
  known : p.kind ≠ .unknown
  fits : p.Fits (Payload.Fits majorVersion) Payload.bits majorVersion p.type

/-- The payloads as they are written: each with the type of the next one. -/
def chain {S : Type} : List (PayloadOf S) → List (PayloadOf S)
  | [] => []
  | p :: payloads => p.setNextType (nextPayload payloads) :: chain payloads

/-- The generator keeps the format of the last attribute from one payload to the next, and leaves
out the values that come behind it: those without a format must stand first. -/
def FormatsLast {S : Type} (payloads : List (PayloadOf S)) : Prop :=
  (payloads.map PayloadOf.kind).Pairwise fun kind kind' =>
    kind'.plainValues = true → kind.setsFormat = false

section Chain

variable {majorVersion : ℕ} {payloads : List (PayloadOf (Payload depth))}

/-- The types of the payloads of a chain are those that a byte can name. -/
lemma InChain.type_bounds {p : PayloadOf (Payload depth)} (h : InChain majorVersion p) :
    0 < p.type ∧ p.type < 2 ^ 8 := by
  have hkind := h.fits.1
  rw [parsedKind] at hkind
  split_ifs at hkind
  · have hchained := h.chained
    have hknown := h.known
    rw [hkind] at hchained hknown
    exact payloadCreate_bounds hchained hknown
  · exact absurd hkind h.known

lemma InChain.nextPayload_cons {p : PayloadOf (Payload depth)} (h : InChain majorVersion p) :
    nextPayload (p :: payloads) = p.type := by
  rw [nextPayload, PayloadOf.getType_of_known h.known, Nat.mod_eq_of_lt h.type_bounds.2]

lemma nextPayload_lt (payloads : List (PayloadOf (Payload depth))) :
    nextPayload payloads < 2 ^ 8 := by
  cases payloads with
  | nil => exact Nat.two_pow_pos 8
  | cons p payloads => exact Nat.mod_lt _ (Nat.two_pow_pos 8)

/-- A payload stays one of a chain with every next type, which is then the one it names. -/
lemma InChain.setNextType {p : PayloadOf (Payload depth)} (h : InChain majorVersion p)
    {type : PayloadType} (htype : type < 2 ^ 8) :
    InChain majorVersion (p.setNextType type) ∧ (p.setNextType type).getNextType = type := by
  obtain ⟨hkind, -, hfields⟩ := h.fits
  obtain ⟨rules, hrules⟩ := PayloadKind.exists_rules h.chained
  rw [hrules] at hfields
  obtain ⟨field, fields, reading, seen', hcons, hreading, hfits, hremember, hothers⟩ :=
    hfields.exists_cons
  have hseen : seen' = {} := by
    obtain rfl := Option.some.inj hreading
    cases field with
    | num value => exact (Option.some.inj hremember).symm
    | bit _ | data _ | list _ => exact hfits.elim
  subst hseen
  rw [PayloadOf.setNextType_cons h.chained hcons type, Nat.mod_eq_of_lt htype]
  refine ⟨⟨h.chained, h.known, hkind, rfl, ?_⟩,
    PayloadOf.getNextType_num h.chained _ _ _⟩
  rw [hrules]
  exact ⟨.uint8, {}, rfl, htype, rfl, hothers⟩

lemma inChain_chain (h : ∀ p ∈ payloads, InChain majorVersion p) :
    ∀ q ∈ chain payloads, InChain majorVersion q := by
  induction payloads with
  | nil => exact List.forall_mem_nil _
  | cons p payloads ih =>
    obtain ⟨hp, hpayloads⟩ := List.forall_mem_cons.mp h
    exact List.forall_mem_cons.mpr ⟨(hp.setNextType (nextPayload_lt payloads)).1, ih hpayloads⟩

lemma kind_setNextType {S : Type} (type : PayloadType) (p : PayloadOf S) :
    (p.setNextType type).kind = p.kind := by
  rw [PayloadOf.setNextType]
  split <;> rfl

lemma type_setNextType {S : Type} (type : PayloadType) (p : PayloadOf S) :
    (p.setNextType type).type = p.type := by
  rw [PayloadOf.setNextType]
  split <;> rfl

lemma kinds_chain {S : Type} (payloads : List (PayloadOf S)) :
    (chain payloads).map PayloadOf.kind = payloads.map PayloadOf.kind := by
  induction payloads with
  | nil => rfl
  | cons p payloads ih => rw [chain, List.map_cons, List.map_cons, kind_setNextType, ih]

/-- What `generate` sets is the chain. -/
lemma generateLoop_eq (current : PayloadOf (Payload depth)) (g : Generator) :
    generateLoop current payloads g =
      (chain (current :: payloads)).foldl
        (fun g p => Generator.generatePayload (depth + 1) p g) g := by
  induction payloads generalizing current g with
  | nil => rfl
  | cons next payloads ih =>
    have hchain : chain (current :: next :: payloads)
        = current.setNextType next.getType :: chain (next :: payloads) :=
      congrArg (· :: _) (PayloadOf.setNextType_mod next.getType current)
    rw [hchain]
    exact ih next _

/-- The payloads of a chain are written with their bits. -/
lemma writes_chain (h : ∀ p ∈ payloads, InChain majorVersion p) :
    ∀ q ∈ chain payloads,
      Generator.Writes (Generator.generatePayload (depth + 1) q) q.kind (q.bits Payload.bits) :=
  fun q hq => @Generator.writes_generatePayload majorVersion (depth + 1) q.type q
    (inChain_chain h q hq).fits

lemma FormatsLast.chain {S : Type} {payloads : List (PayloadOf S)} (h : FormatsLast payloads) :
    (chain payloads).Pairwise fun q q' =>
      q'.kind.plainValues = true → q.kind.setsFormat = false := by
  rw [FormatsLast, ← kinds_chain, List.pairwise_map] at h
  exact h

lemma bytesBits_generate (h : ∀ p ∈ payloads, InChain majorVersion p)
    (hformat : FormatsLast payloads) (memory : ℕ → UInt8) :
    bytesBits (generate memory payloads) =
      (chain payloads).flatMap (PayloadOf.bits Payload.bits) := by
  cases payloads with
  | nil => rfl
  | cons current payloads =>
    have hstart : (Generator.create memory).At 0 := Generator.at_zero.mpr rfl
    obtain ⟨hat, hbits⟩ :=
      Generator.foldl_writes PayloadOf.kind (writes_chain h) hformat.chain hstart fun _ _ _ => rfl
    rw [Generator.bits_of_currentBit (Generator.at_zero.mp hat),
      Generator.bits_of_currentBit rfl] at hbits
    rw [generate, generateLoop_eq]
    exact hbits

/-- One round takes the first payload of a chain from the input. -/
lemma parseLoop_first {verify : PayloadOf (Payload depth) → Bool} {plain input : List UInt8}
    {p : PayloadOf (Payload depth)} {next : PayloadType} {tail : List Bool}
    (hp : InChain majorVersion p) (hnext : next < 2 ^ 8)
    (hbits : bytesBits input = (p.setNextType next).bits Payload.bits ++ tail) :
    ∃ after, after.length < input.length ∧ bytesBits after = tail ∧ ∀ rounds,
      parseLoop verify majorVersion plain (rounds + 1) p.type ⟨input, 0⟩ =
        if !lengthValid plain then .error .parseError
        else if verify (p.setNextType next) then
          (parseLoop verify majorVersion plain rounds next ⟨after, 0⟩).map
            (p.setNextType next :: ·)
        else .error .verifyError := by
  obtain ⟨hset, hget⟩ := hp.setNextType hnext
  have hplain : (p.setNextType next).kind ≠ .encryptedV1 := by
    intro hkind
    have hchained := hset.chained
    rw [hkind] at hchained
    cases hchained
  have hfits := hset.fits
  rw [type_setNextType] at hfits
  obtain ⟨n, hpos, hn⟩ := PayloadOf.length_bits hfits hplain
  obtain ⟨before, after, rfl, hbefore, -, hafter⟩ := exists_of_bytesBits_append hbits hn
  have hparse : parsePayload majorVersion (depth + 1) p.type ⟨before ++ after, 0⟩ =
      some (p.setNextType next, ⟨after, 0⟩) :=
    parseOf_complete (subCoded_parsePayload majorVersion depth) hfits (by rw [hbits, hafter])
      fun hkind => absurd hkind hplain
  refine ⟨after, ?_, hafter, fun rounds => ?_⟩
  · rw [List.length_append]
    omega
  · rw [parseLoop, if_neg hp.type_bounds.1.ne', hparse]
    simp only [hget]

/-- The loop goes through a chain, as far as the payloads pass their checks. -/
lemma parseLoop_chain {verify : PayloadOf (Payload depth) → Bool} {plain input : List UInt8}
    {rounds : ℕ} {contents : List (PayloadOf (Payload depth))}
    (h : ∀ p ∈ payloads, InChain majorVersion p) (hrounds : input.length ≤ rounds)
    (hbits : bytesBits input = (chain payloads).flatMap (PayloadOf.bits Payload.bits)) :
    parseLoop verify majorVersion plain rounds (nextPayload payloads) ⟨input, 0⟩ = .ok contents ↔
      contents = chain payloads ∧ (∀ p ∈ contents, verify p = true) ∧
        (payloads ≠ [] → lengthValid plain = true) := by
  induction payloads generalizing input rounds contents with
  | nil =>
    have hloop : parseLoop verify majorVersion plain rounds .noPayload ⟨input, 0⟩ =
        .ok [] := by
      cases rounds <;> rfl
    rw [show nextPayload (S := Payload depth) [] = .noPayload from rfl, hloop]
    constructor
    · intro heq
      obtain rfl := Except.ok.inj heq
      exact ⟨rfl, List.forall_mem_nil _, fun hne => absurd rfl hne⟩
    · rintro ⟨rfl, -⟩
      rfl
  | cons p payloads ih =>
    obtain ⟨hp, hpayloads⟩ := List.forall_mem_cons.mp h
    rw [chain, List.flatMap_cons] at hbits
    obtain ⟨after, hshorter, hafter, hround⟩ :=
      parseLoop_first hp (nextPayload_lt payloads) hbits
    obtain ⟨rounds, rfl⟩ := Nat.exists_eq_succ_of_ne_zero (show rounds ≠ 0 by omega)
    have hrest : ∀ others, parseLoop verify majorVersion plain rounds (nextPayload payloads)
        ⟨after, 0⟩ = .ok others ↔ others = chain payloads ∧ (∀ p ∈ others, verify p = true) ∧
          (payloads ≠ [] → lengthValid plain = true) :=
      fun others => ih hpayloads (show after.length ≤ rounds by omega) hafter
    rw [hp.nextPayload_cons, hround, chain]
    split_ifs with hvalid hverify
    · constructor
      · intro hok
        cases hok
      · rintro ⟨-, -, hlength⟩
        rw [hlength (List.cons_ne_nil _ _)] at hvalid
        cases hvalid
    · have hlength : lengthValid plain = true := by simpa using hvalid
      constructor
      · intro hok
        cases hloop : parseLoop verify majorVersion plain rounds (nextPayload payloads)
            ⟨after, 0⟩ with
        | error e =>
          rw [hloop] at hok
          cases hok
        | ok others =>
          rw [hloop] at hok
          obtain rfl := Except.ok.inj hok
          obtain ⟨rfl, hall, -⟩ := (hrest others).mp hloop
          exact ⟨rfl, List.forall_mem_cons.mpr ⟨hverify, hall⟩, fun _ => hlength⟩
      · rintro ⟨rfl, hall, -⟩
        rw [(hrest _).mpr ⟨rfl, (List.forall_mem_cons.mp hall).2, fun _ => hlength⟩]
        rfl
    · constructor
      · intro hok
        cases hok
      · rintro ⟨rfl, hall, -⟩
        exact absurd (List.forall_mem_cons.mp hall).1 hverify

/-- The length that the first payload states is not beyond the contents. -/
lemma lengthValid_generate (h : ∀ p ∈ payloads, InChain majorVersion p)
    (hformat : FormatsLast payloads) (memory : ℕ → UInt8) (hne : payloads ≠ []) :
    lengthValid (generate memory payloads) = true := by
  have hplain := bytesBits_generate h hformat memory
  generalize generate memory payloads = plain at hplain
  cases payloads with
  | nil => exact absurd rfl hne
  | cons p payloads =>
    obtain ⟨hp, hpayloads⟩ := List.forall_mem_cons.mp h
    have hset := (hp.setNextType (nextPayload_lt payloads)).1
    obtain ⟨before, length, after, hbits, hbefore, hfour, hlt, hlength⟩ :=
      PayloadOf.bits_eq_of_chained hset.fits hset.chained
    rw [chain, List.flatMap_cons] at hplain
    have htotal := congrArg List.length hplain
    rw [List.length_append, hlength, length_bytesBits] at htotal
    rw [hbits, List.append_assoc] at hplain
    obtain ⟨first, others, rfl, hfirst, -, hothers⟩ :=
      exists_of_bytesBits_append hplain (show before.length = 8 * 2 from hbefore)
    rw [List.append_assoc] at hothers
    obtain ⟨stated, others, rfl, htwo, hstated, -⟩ :=
      exists_of_bytesBits_append hothers (length_bitsOf (8 * 2) length)
    have hread : ofBytes stated = length := by
      have hbound := ofBytes_lt_two_pow stated
      rw [htwo] at hbound
      rw [bytesBits_eq, htwo] at hstated
      exact bitsOf_inj hbound hlt hstated
    rw [lengthValid, List.drop_left' hfirst, List.take_left' htwo, hread, Bool.and_eq_true,
      decide_eq_true_eq, decide_eq_true_eq]
    omega

/-- Parsing gives back the payloads that were generated, with their next types, if every one of
them passes its checks; otherwise it fails. None of them is of an unknown type or an encrypted
fragment. -/
theorem parse_generate_eq_ok_iff {verify : PayloadOf (Payload depth) → Bool}
    {contents : List (PayloadOf (Payload depth))} (h : ∀ p ∈ payloads, InChain majorVersion p)
    (hformat : FormatsLast payloads) (memory : ℕ → UInt8) :
    parse verify majorVersion (generate memory payloads) (nextPayload payloads) = .ok contents ↔
      contents = chain payloads ∧ ∀ p ∈ contents, verify p = true := by
  refine (parseLoop_chain h le_rfl (bytesBits_generate h hformat memory)).trans ?_
  refine and_congr_right fun _ => and_iff_left_of_imp fun _ => ?_
  exact lengthValid_generate h hformat memory

end Chain

/-- A payload with some data behind its generic header. -/
def dataPayload (kind : PayloadKind) (type : PayloadType) (bytes : List UInt8) :
    PayloadOf (Payload 0) :=
  ⟨kind, type, .num 0 :: List.replicate 8 (.bit false) ++ [.num (4 + bytes.length), .data bytes]⟩

/-- A nonce and a vendor ID come back, the nonce with the type of the vendor ID. -/
theorem parse_generate_eq_ok_iff_nonce :
    parse (fun _ => true) 2 (generate (fun _ => 0)
        [dataPayload .nonce 40 [1, 2, 3, 4], dataPayload .vendorId 43 [7]]) 40 =
      .ok (chain [dataPayload .nonce 40 [1, 2, 3, 4], dataPayload .vendorId 43 [7]]) := by
  have hnonce : parsePayload 2 1 40 ⟨[0, 0, 0, 8, 1, 2, 3, 4], 0⟩ =
      some (dataPayload .nonce 40 [1, 2, 3, 4], ⟨[], 0⟩) := rfl
  have hvendor : parsePayload 2 1 43 ⟨[0, 0, 0, 5, 7], 0⟩ =
      some (dataPayload .vendorId 43 [7], ⟨[], 0⟩) := rfl
  have hchain : ∀ p ∈ [dataPayload .nonce 40 [1, 2, 3, 4], dataPayload .vendorId 43 [7]],
      InChain 2 p := by
    rw [List.forall_mem_cons, List.forall_mem_singleton]
    exact ⟨⟨rfl, by decide, (Payload.parsePayload_eq_some_iff.mp hnonce).1⟩,
      ⟨rfl, by decide, (Payload.parsePayload_eq_some_iff.mp hvendor).1⟩⟩
  have hformat : FormatsLast [dataPayload .nonce 40 [1, 2, 3, 4], dataPayload .vendorId 43 [7]] :=
    show [PayloadKind.nonce, .vendorId].Pairwise _ by decide
  exact (parse_generate_eq_ok_iff hchain hformat _).mpr ⟨rfl, fun _ _ => rfl⟩

/-- A payload of the unknown type 200 is named as one of type 1. -/
example : nextPayload [dataPayload .unknown 200 [7]] = 1 ∧
    (generate (fun _ => 0) [dataPayload .nonce 40 [1, 2, 3, 4],
      dataPayload .unknown 200 [7]]).head? = some 1 := by
  decide +kernel

/-- An SA payload that offers AES with a key of 128 bits. -/
def aesOffer : PayloadOf (Payload 2) :=
  let keyLength : Payload 0 :=
    ⟨.transformAttribute, 262, [.bit true, .num 14, .num 128, .data []]⟩
  let transform : Payload 1 := ⟨.transformV2, 260,
    [.num 0, .num 0, .num 12, .num 1, .num 0, .num 12, .list [keyLength]]⟩
  let proposal : Payload 2 := ⟨.proposalV2, 258,
    [.num 0, .num 0, .num 20, .num 1, .num 3, .num 0, .num 1, .data [], .list [transform]]⟩
  ⟨.saV2, 33, .num 0 :: List.replicate 8 (.bit false) ++ [.num 24, .list [proposal]]⟩

/-- A configuration payload with the address 10.0.0.1. -/
def addressReply : PayloadOf (Payload 2) :=
  let address : Payload 2 :=
    ⟨.attributeV2, 265, [.bit false, .num 1, .num 4, .data [10, 0, 0, 1]]⟩
  ⟨.cpV2, 47, .num 0 :: List.replicate 8 (.bit false) ++
    [.num 16, .num 2, .num 0, .num 0, .num 0, .list [address]]⟩

/-- Behind the offer, the address is not written. -/
example : (generate (fun _ => 0) [addressReply, aesOffer]).length = 16 + 24 ∧
    (generate (fun _ => 0) [aesOffer, addressReply]).length = 24 + 12 := by
  decide +kernel

end EncryptedPayload

end SecuredApp
