import CallingService.Backend.Connection
import CallingService.Foundation.Loop
import CallingService.Foundation.Slices

/-!
# ICE binding requests

Implementation of ICE lite: the parser of binding requests, the verification
of their HMAC and the response that is made of a verified one.
-/

namespace CallingService.Backend.IceLite

open Foundation Rtp

/-- HMAC-SHA1 and the CRC of the fingerprint. -/
structure IceHashes where
  hmac : Bytes → Bytes → Bytes
  checksum : Bytes → UInt32
  hmac_length : ∀ pwd input, (hmac pwd input).length = 20

def headerLen : Nat := 20
def hmacLen : Nat := 20
def fingerprintLen : Nat := 4
def attrHeaderLen : Nat := 4
def bindingRequestId : Bytes := [0x00, 0x01]
def bindingResponseId : Bytes := [0x01, 0x01]
def magicCookie : Bytes := [0x21, 0x12, 0xA4, 0x42]

namespace AttributeId

def username : UInt16 := 0x0006
def messageIntegrity : UInt16 := 0x0008
def fingerprint : UInt16 := 0x8028
/-- Also known as USE-CANDIDATE. -/
def nomination : UInt16 := 0x0025

end AttributeId

def fingerprintXorValue : UInt32 := 0x5354554E

def roundUpToMultipleOf (multiple number : Nat) : Nat :=
  (number + (multiple - 1)) / multiple * multiple

def parseU16 (bytes : Bytes) : UInt16 :=
  (fromBigEndian (bytes.take 2)).toUInt16

structure BindingRequestRanges where
  username : ByteRange
  hmac : ByteRange
  fingerprint : ByteRange
deriving DecidableEq, Repr

structure BindingRequest where
  packet : Bytes
  isNominated : Bool
  ranges : BindingRequestRanges
deriving DecidableEq, Repr

inductive ParseError where
  | incompleteHeader (length : Nat)
  | missingUsernameAttribute
  | missingHMacAttribute
  | missingFingerprintAttribute
  | declaredMessageLengthMismatch (declared actual : Nat)
  | wrongHMacLength (length expected : UInt16)
  | wrongFingerprintLength (length expected : UInt16)
  | fingerprintBeforeHMac
  | expectedFingerprint (id : UInt16)
  | attributeAfterFingerprint (id : UInt16)
  | attributeRangePastPacketEnd (id : UInt16) (excess : Nat)
deriving DecidableEq, Repr

/-- State machine states for parsing, to help ensure mac and fingerprint are
last. -/
inductive ParseState where
  | readingAttributes
  | expectFingerprint
  | done
deriving DecidableEq, Repr

/-- The variables of the loop over the attributes. -/
structure AttributeWalk where
  parseMode : ParseState
  username : Option ByteRange
  hmac : Option ByteRange
  fingerprint : Option ByteRange
  nomination : Option ByteRange
  attrStart : Nat
deriving DecidableEq, Repr

namespace AttributeWalk

def start : AttributeWalk where
  parseMode := .readingAttributes
  username := none
  hmac := none
  fingerprint := none
  nomination := none
  attrStart := headerLen

/-- What an attribute inside the packet does in each state. -/
def see (walk : AttributeWalk) (attrId attrLen : UInt16)
    (attrRange : ByteRange) : Except ParseError AttributeWalk :=
  match walk.parseMode with
  | .readingAttributes =>
      if attrId = AttributeId.username then
        .ok { walk with username := some attrRange }
      else if attrId = AttributeId.nomination then
        .ok { walk with nomination := some attrRange }
      else if attrId = AttributeId.messageIntegrity then
        if attrRange.len ≠ hmacLen then
          .error (.wrongHMacLength attrLen hmacLen.toUInt16)
        else .ok { walk with
          hmac := some attrRange
          parseMode := .expectFingerprint }
      else if attrId = AttributeId.fingerprint then
        .error .fingerprintBeforeHMac
      else .ok walk
  | .expectFingerprint =>
      if attrId ≠ AttributeId.fingerprint then
        .error (.expectedFingerprint attrId)
      else if attrRange.len ≠ fingerprintLen then
        .error (.wrongFingerprintLength attrLen fingerprintLen.toUInt16)
      else .ok { walk with
        fingerprint := some attrRange
        parseMode := .done }
  | .done => .error (.attributeAfterFingerprint attrId)

end AttributeWalk

/-- One round of the loop over the attributes. -/
def attributeRound (packet : Bytes) (walk : AttributeWalk) :
    Round AttributeWalk (Except ParseError AttributeWalk) :=
  if packet.length < walk.attrStart + attrHeaderLen then .leave (.ok walk)
  else
    let attrHeader := (packet.drop walk.attrStart).take attrHeaderLen
    let attrId := parseU16 attrHeader
    let attrLen := parseU16 (attrHeader.drop 2)
    let attrValStart := walk.attrStart + attrHeaderLen
    let attrRange : ByteRange := ⟨attrValStart, attrValStart + attrLen.toNat⟩
    if packet.length < attrRange.finish then
      .leave (.error (.attributeRangePastPacketEnd attrId
        (attrRange.finish - packet.length)))
    else match walk.see attrId attrLen attrRange with
      | .error failure => .leave (.error failure)
      | .ok next => .again { next with
          attrStart := roundUpToMultipleOf 4 attrRange.finish }

theorem le_roundUpToMultipleOf_four (number : Nat) :
    number ≤ roundUpToMultipleOf 4 number := by
  unfold roundUpToMultipleOf
  omega

theorem attributeRound_falls (packet : Bytes) (walk next : AttributeWalk)
    (goesOn : attributeRound packet walk = .again next) :
    packet.length - next.attrStart < packet.length - walk.attrStart := by
  unfold attributeRound at goesOn
  dsimp only at goesOn
  split at goesOn
  · cases goesOn
  · rename_i enough
    split at goesOn
    · cases goesOn
    · split at goesOn
      · cases goesOn
      · cases goesOn
        have further := le_roundUpToMultipleOf_four (walk.attrStart +
          attrHeaderLen + (parseU16 (((packet.drop walk.attrStart).take
            attrHeaderLen).drop 2)).toNat)
        unfold attrHeaderLen at *
        dsimp only
        omega

def attributeLoop (packet : Bytes) :
    EndingLoop AttributeWalk (Except ParseError AttributeWalk) where
  body := attributeRound packet
  measure := fun walk => packet.length - walk.attrStart
  falls := attributeRound_falls packet

namespace BindingRequest

def looksLikeHeader (packet : Bytes) : Bool :=
  8 ≤ packet.length && packet.take 2 = bindingRequestId &&
    (packet.drop 4).take 4 = magicCookie

/-- The checks after the loop over the attributes. -/
def ofWalk (packet : Bytes) (walk : AttributeWalk) :
    Except ParseError BindingRequest := do
  let username ← okOr walk.username .missingUsernameAttribute
  let hmac ← okOr walk.hmac .missingHMacAttribute
  let fingerprint ← okOr walk.fingerprint .missingFingerprintAttribute
  return {
    packet := packet
    isNominated := walk.nomination.isSome
    ranges := { username, hmac, fingerprint } }

def parse (packet : Bytes) : Except ParseError BindingRequest := do
  ensure (headerLen ≤ packet.length) (.incompleteHeader packet.length)
  let declaredMessageLength := (parseU16 (packet.drop 2)).toNat
  let actualMessageLength := packet.length - headerLen
  ensure (declaredMessageLength = actualMessageLength)
    (.declaredMessageLengthMismatch declaredMessageLength actualMessageLength)
  let walk ← (attributeLoop packet).run .start
  ofWalk packet walk

end BindingRequest

/-- Indexing a packet by a range. -/
def indexRange (packet : Bytes) (range : ByteRange) : Except Panic Bytes :=
  if range.finish < range.start ∨ packet.length < range.finish then
    .error .outOfBounds
  else .ok (slice range.start range.finish packet)

/-- The bytes that `calculate_hmac` feeds to the HMAC.  ICE HMACs are
computed without the HMAC attribute, but with a length that includes it. -/
def hmacInput (packet : Bytes) (ranges : BindingRequestRanges) :
    Except Panic Bytes := do
  let messageType ← indexRange packet ⟨0, 2⟩
  let rest ← indexRange packet ⟨4, ranges.hmac.start - attrHeaderLen⟩
  return messageType ++ toBigEndian 2 (ranges.hmac.finish - headerLen) ++ rest

def calculateHmac (hashes : IceHashes) (packet : Bytes)
    (ranges : BindingRequestRanges) (pwd : Bytes) : Except Panic Bytes := do
  let input ← hmacInput packet ranges
  return hashes.hmac pwd input

namespace BindingRequest

def nominated (request : BindingRequest) : Bool := request.isNominated

def hmac (request : BindingRequest) : Except Panic Bytes :=
  indexRange request.packet request.ranges.hmac

def fingerprint (request : BindingRequest) : Except Panic Bytes :=
  indexRange request.packet request.ranges.fingerprint

def username (request : BindingRequest) : Except Panic Bytes :=
  indexRange request.packet request.ranges.username

def verifyHmac (hashes : IceHashes) (request : BindingRequest) (pwd : Bytes) :
    Except Panic Bool := do
  let computed ← calculateHmac hashes request.packet request.ranges pwd
  let hmac ← request.hmac
  return computed = hmac

/-- `recalculate_hmac_and_fingerprint_of_packet`. -/
def recalculateHmacAndFingerprintOfPacket (hashes : IceHashes)
    (packet : Bytes) (ranges : BindingRequestRanges) (pwd : Bytes) :
    Except Panic Bytes := do
  let hmac ← calculateHmac hashes packet ranges pwd
  let authenticated ← copyFromSlice packet ranges.hmac hmac
  let fingerprinted ← indexRange authenticated
    ⟨0, ranges.fingerprint.start - attrHeaderLen⟩
  let fingerprint := fingerprintXorValue ^^^ hashes.checksum fingerprinted
  copyFromSlice authenticated ranges.fingerprint
    (toBigEndian 4 fingerprint.toNat)

/-- The response to a verified request. -/
def toBindingResponse (hashes : IceHashes) (request : BindingRequest)
    (username pwd : Bytes) : Except Panic Bytes := do
  let typed ← copyFromSlice request.packet ⟨0, 2⟩ bindingResponseId
  let named ← copyFromSlice typed request.ranges.username username
  recalculateHmacAndFingerprintOfPacket hashes named request.ranges pwd

end BindingRequest

/-! ## Creating packets -/

abbrev TransactionId := { bytes : Bytes // bytes.length = 16 }

def writeStunAttribute (attributeId : UInt16) (value : Bytes) :
    Except Panic Bytes := do
  let paddedLen := roundUpToMultipleOf 4 value.length
  ensure (value.length < 2 ^ 16)
    (Panic.assertion "STUN attribute is less than u16::MAX in len.")
  return toBigEndian 2 attributeId.toNat ++ toBigEndian 2 value.length ++
    value ++ List.replicate (paddedLen - value.length) 0

def writeLenInHeader (packet : Bytes) (len : Nat) : Except Panic Bytes :=
  copyFromSlice packet ⟨2, 4⟩ (toBigEndian 2 len)

/-- The start of the attribute is relative to the body. -/
def writeValueInAttr (packet : Bytes) (headerLen attrStart : Nat)
    (value : Bytes) : Except Panic Bytes :=
  let valueStart := headerLen + attrStart + attrHeaderLen
  copyFromSlice packet ⟨valueStart, valueStart + value.length⟩ value

/-- The part of `create_packet` after the attributes that the HMAC covers. -/
def finishPacket (hashes : IceHashes) (messageType : Bytes)
    (transactionId : TransactionId) (hmacedAttrs pwd : Bytes) :
    Except Panic Bytes := do
  let hmacedAttrsLen := hmacedAttrs.length
  let dummyHmac ← writeStunAttribute AttributeId.messageIntegrity
    (List.replicate hmacLen 0)
  let fingerprintedAttrs := hmacedAttrs ++ dummyHmac
  let fingerprintedAttrsLen := fingerprintedAttrs.length
  let dummyFingerprint ← writeStunAttribute AttributeId.fingerprint
    (toBigEndian 4 0)
  let attrs := fingerprintedAttrs ++ dummyFingerprint
  let attrsLen := attrs.length
  let header := messageType ++ toBigEndian 2 attrsLen ++ transactionId.val
  let headerLen := header.length
  let dummy ← writeLenInHeader (header ++ attrs) fingerprintedAttrsLen
  let hmaced ← indexRange dummy ⟨0, headerLen + hmacedAttrsLen⟩
  let authenticated ← writeValueInAttr dummy headerLen hmacedAttrsLen
    (hashes.hmac pwd hmaced)
  let measured ← writeLenInHeader authenticated attrsLen
  let fingerprinted ← indexRange measured
    ⟨0, headerLen + fingerprintedAttrsLen⟩
  let fingerprintValue :=
    fingerprintXorValue ^^^ hashes.checksum fingerprinted
  writeValueInAttr measured headerLen fingerprintedAttrsLen
    (toBigEndian 4 fingerprintValue.toNat)

def writeNomination (nominated : Bool) : Except Panic Bytes :=
  if nominated then writeStunAttribute AttributeId.nomination []
  else .ok []

def createPacket (hashes : IceHashes) (messageType : Bytes)
    (transactionId : TransactionId) (username pwd : Bytes)
    (nominated : Bool) : Except Panic Bytes := do
  let username ← writeStunAttribute AttributeId.username username
  let nomination ← writeNomination nominated
  finishPacket hashes messageType transactionId (username ++ nomination) pwd

def createBindingRequestPacket (hashes : IceHashes)
    (transactionId : TransactionId) (username pwd : Bytes)
    (nominated : Bool) : Except Panic Bytes :=
  createPacket hashes bindingRequestId transactionId username pwd nominated

def createBindingResponsePacket (hashes : IceHashes)
    (transactionId : TransactionId) (username pwd : Bytes)
    (nominated : Bool) : Except Panic Bytes :=
  createPacket hashes bindingResponseId transactionId username pwd nominated

end CallingService.Backend.IceLite
