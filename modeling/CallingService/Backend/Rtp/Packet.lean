import CallingService.Backend.Rtp.Header
import CallingService.Common.TwoGenerationCache

/-!
# RTP packets

A packet keeps the parsed values beside the serialized bytes.  The setters
write to both; encryption and decryption replace the payload and the tag in
place.  Writing to an encrypted packet, or outside of its header, panics.
-/

namespace CallingService.Backend.Rtp

open Foundation

def paddingPayloadType : PayloadType := 99
def clientServerDataPayloadType : PayloadType := 101
def opusPayloadType : PayloadType := 102
def vp8PayloadType : PayloadType := 108
def rtxPayloadTypeOffset : PayloadType := 10
def rtxSsrcOffset : Ssrc := 1

/-- Outgoing packets are discarded after this time. -/
def packetLifetime : Duration := fromSecs 3

def toRtxPayloadType (pt : PayloadType) : PayloadType :=
  pt + rtxPayloadTypeOffset

def toRtxSsrc (ssrc : Ssrc) : Ssrc := ssrc + rtxSsrcOffset

def fromRtxPayloadType (rtxPt : PayloadType) : PayloadType :=
  rtxPt - rtxPayloadTypeOffset

def fromRtxSsrc (rtxSsrc : Ssrc) : Ssrc := rtxSsrc - rtxSsrcOffset

@[simp] theorem toRtxSsrc_fromRtxSsrc (ssrc : Ssrc) :
    toRtxSsrc (fromRtxSsrc ssrc) = ssrc := by
  simp [toRtxSsrc, fromRtxSsrc]

@[simp] theorem fromRtxSsrc_toRtxSsrc (ssrc : Ssrc) :
    fromRtxSsrc (toRtxSsrc ssrc) = ssrc := by
  simp [toRtxSsrc, fromRtxSsrc]

def isRtxablePayloadType (pt : PayloadType) : Bool := pt = vp8PayloadType

def isRtxPayloadType (pt : PayloadType) : Bool :=
  isRtxablePayloadType (fromRtxPayloadType pt)

def isMediaPayloadType (pt : PayloadType) : Bool :=
  pt = opusPayloadType ∨ pt = vp8PayloadType

structure Packet where
  marker : Bool
  payloadTypeInHeader : PayloadType
  ssrcInHeader : Ssrc
  seqnumInHeader : FullSequenceNumber
  /-- Set if and only if the packet is a retransmission. -/
  seqnumInPayload : Option FullSequenceNumber
  pendingRetransmission : Bool
  timestamp : TruncatedTimestamp
  videoRotation : Option VideoRotation
  audioLevel : Option UInt8
  dependencyDescriptor : Option (DependencyDescriptor × ByteRange)
  tccSeqnum : Option FullSequenceNumber
  tccSeqnumRange : Option ByteRange
  payloadRangeInHeader : ByteRange
  encrypted : Bool
  deadline : Option Instant
  paddingByteCount : UInt8
  serialized : Bytes
deriving DecidableEq, Repr

/-- Replace the bytes at a range; `copy_from_slice` needs equal lengths. -/
def copyFromSlice (target : Bytes) (range : ByteRange) (source : Bytes) :
    Except Panic Bytes :=
  if range.finish < range.start ∨ target.length < range.finish then
    .error .outOfBounds
  else if range.len ≠ source.length then
    .error (.assertion "source slice length does not match")
  else .ok (target.take range.start ++ source ++ target.drop range.finish)

variable {range : ByteRange}

theorem copyFromSlice_eq_ok {target source written : Bytes}
    (copied : copyFromSlice target range source = .ok written) :
    range.start ≤ range.finish ∧ range.finish ≤ target.length ∧
      written.length = target.length ∧
      (written.take range.finish).drop range.start = source := by
  unfold copyFromSlice at copied
  split at copied
  · cases copied
  · rename_i inside
    split at copied
    · cases copied
    · rename_i sameLength
      cases copied
      unfold ByteRange.len at sameLength
      have startLength : (target.take range.start).length = range.start := by
        rw [List.length_take]
        omega
      have position : range.finish = (target.take range.start).length +
          source.length := by
        omega
      refine ⟨by omega, by omega, ?_, ?_⟩
      · simp only [List.length_append, List.length_take, List.length_drop]
        omega
      · rw [position, ← List.length_append, List.take_left]
        exact List.drop_left' startLength

namespace Packet

def new (header : Header) (seqnumInHeader : FullSequenceNumber)
    (seqnumInPayload : Option FullSequenceNumber)
    (pendingRetransmission : Bool) (tccSeqnum : Option FullSequenceNumber)
    (encrypted : Bool) (deadline : Option Instant) (paddingByteCount : UInt8)
    (serialized : Bytes) : Packet where
  marker := header.marker
  payloadTypeInHeader := header.payloadType
  ssrcInHeader := header.ssrc
  seqnumInHeader := seqnumInHeader
  seqnumInPayload := seqnumInPayload
  pendingRetransmission := pendingRetransmission
  timestamp := header.timestamp
  videoRotation := header.videoRotation
  audioLevel := header.audioLevel
  dependencyDescriptor := header.dependencyDescriptor
  tccSeqnum := tccSeqnum
  tccSeqnumRange := header.tccSeqnumRange
  payloadRangeInHeader := header.payloadRange
  encrypted := encrypted
  deadline := deadline
  paddingByteCount := paddingByteCount
  serialized := serialized

def isRtx (packet : Packet) : Bool := packet.seqnumInPayload.isSome

def payloadType (packet : Packet) : PayloadType :=
  if packet.isRtx then fromRtxPayloadType packet.payloadTypeInHeader
  else packet.payloadTypeInHeader

def ssrc (packet : Packet) : Ssrc :=
  if packet.isRtx then fromRtxSsrc packet.ssrcInHeader
  else packet.ssrcInHeader

def seqnum (packet : Packet) : FullSequenceNumber :=
  packet.seqnumInPayload.getD packet.seqnumInHeader

def payloadRange (packet : Packet) : ByteRange :=
  if packet.isRtx then
    ⟨packet.payloadRangeInHeader.start + 2, packet.payloadRangeInHeader.finish⟩
  else packet.payloadRangeInHeader

def payloadSizeBytes (packet : Packet) : Nat := packet.payloadRange.len

def isAudio (packet : Packet) : Bool := packet.payloadType = opusPayloadType

def isPadding (packet : Packet) : Bool :=
  packet.payloadType = paddingPayloadType

def isVideo (packet : Packet) : Bool := packet.payloadType = vp8PayloadType

def isData (packet : Packet) : Bool :=
  packet.payloadType = clientServerDataPayloadType

def isPastDeadline (packet : Packet) (now : Instant) : Bool :=
  match packet.deadline with
  | none => true
  | some deadline => deadline < now

def entryTime (packet : Packet) : Option Instant :=
  packet.deadline.map (· - packetLifetime)

/-- The size in bits. -/
def size (packet : Packet) : Nat := 8 * packet.serialized.length

/-- The bytes of a range of the serialized packet. -/
def sliceSerialized (packet : Packet) (range : ByteRange) :
    Except Panic Bytes :=
  if range.finish < range.start ∨ packet.serialized.length < range.finish then
    .error .outOfBounds
  else .ok ((packet.serialized.take range.finish).drop range.start)

def header (packet : Packet) : Except Panic Bytes :=
  packet.sliceSerialized ⟨0, packet.payloadRange.start⟩

def payload (packet : Packet) : Except Panic Bytes :=
  packet.sliceSerialized packet.payloadRange

/-! ## Writing to a packet -/

/-- Write inside the first `limit` bytes of an unencrypted packet. -/
def writeBelow (packet : Packet) (limit : Nat) (range : ByteRange)
    (bytes : Bytes) (refusal : String) : Except Panic Packet := do
  ensure (packet.encrypted = false) (Panic.assertion refusal)
  ensure (limit ≤ packet.serialized.length) Panic.outOfBounds
  let written ← copyFromSlice (packet.serialized.take limit) range bytes
  return { packet with
    serialized := written ++ packet.serialized.drop limit }

def writeInHeader (packet : Packet) (range : ByteRange) (bytes : Bytes) :
    Except Panic Packet :=
  packet.writeBelow packet.payloadRange.start range bytes
    "Can't modify the packet header while it's encrypted"

/-- The range is relative to the payload. -/
def writeInPayload (packet : Packet) (range : ByteRange) (bytes : Bytes) :
    Except Panic Packet := do
  ensure (packet.encrypted = false) (Panic.assertion
    "Can't modify the packet payload while it's encrypted")
  ensure (packet.payloadRange.start ≤ packet.payloadRange.finish)
    Panic.outOfBounds
  packet.writeBelow packet.payloadRange.finish
    ⟨packet.payloadRange.start + range.start,
      packet.payloadRange.start + range.finish⟩ bytes
    "Can't modify the packet while it's encrypted"

variable {packet written : Packet}

theorem writeBelow_eq_ok {limit : Nat} {bytes : Bytes} {refusal : String}
    (wrote : packet.writeBelow limit range bytes refusal = .ok written) :
    packet.encrypted = false ∧
      written = { packet with serialized := written.serialized } ∧
      written.sliceSerialized range = .ok bytes := by
  obtain ⟨_, unencrypted, rest⟩ := bind_eq_ok_iff.mp wrote
  obtain ⟨_, longEnough, rest⟩ := bind_eq_ok_iff.mp rest
  obtain ⟨copy, copied, returned⟩ := bind_eq_ok_iff.mp rest
  rw [ensure_eq_ok_iff] at unencrypted longEnough
  cases returned
  refine ⟨unencrypted, rfl, ?_⟩
  obtain ⟨ordered, inside, sameLength, content⟩ := copyFromSlice_eq_ok copied
  rw [List.length_take] at inside sameLength
  unfold sliceSerialized
  rw [if_neg]
  · congr 1
    rw [List.take_append_of_le_length (by omega)]
    exact content
  · rw [List.length_append]
    omega

theorem writeInHeader_eq_ok {bytes : Bytes}
    (wrote : packet.writeInHeader range bytes = .ok written) :
    packet.encrypted = false ∧
      written = { packet with serialized := written.serialized } ∧
      written.sliceSerialized range = .ok bytes :=
  writeBelow_eq_ok wrote

theorem writeInPayload_eq_ok {bytes : Bytes}
    (wrote : packet.writeInPayload range bytes = .ok written) :
    written = { packet with serialized := written.serialized } := by
  obtain ⟨_, _, rest⟩ := bind_eq_ok_iff.mp wrote
  obtain ⟨_, _, rest⟩ := bind_eq_ok_iff.mp rest
  exact (writeBelow_eq_ok rest).2.1

def setPayloadTypeInHeader (packet : Packet) (pt : PayloadType) :
    Except Panic Packet :=
  { packet with payloadTypeInHeader := pt }.writeInHeader ⟨1, 2⟩
    [(if packet.marker then 128 else 0) ||| pt]

def setSsrcInHeader (packet : Packet) (ssrc : Ssrc) : Except Panic Packet :=
  { packet with ssrcInHeader := ssrc }.writeInHeader rtpSsrcRange
    (toBigEndian 4 ssrc.toNat)

def setSeqnumInHeader (packet : Packet) (seqnum : FullSequenceNumber) :
    Except Panic Packet :=
  { packet with seqnumInHeader := seqnum }.writeInHeader rtpSeqnumRange
    (toBigEndian 2 seqnum)

theorem setSeqnumInHeader_eq_ok {seqnum : FullSequenceNumber}
    (wrote : packet.setSeqnumInHeader seqnum = .ok written) :
    packet.encrypted = false ∧ written = { packet with
      seqnumInHeader := seqnum
      serialized := written.serialized } := by
  obtain ⟨unencrypted, others, -⟩ := writeInHeader_eq_ok wrote
  exact ⟨unencrypted, others⟩

def setTimestampInHeader (packet : Packet) (timestamp : TruncatedTimestamp) :
    Except Panic Packet :=
  { packet with timestamp := timestamp }.writeInHeader rtpTimestampRange
    (toBigEndian 4 timestamp.toNat)

/-- The part of `set_tcc_seqnum_in_header_if_present` after the number has
been drawn. -/
def setTccSeqnumInHeader (packet : Packet) (range : ByteRange)
    (tccSeqnum : FullSequenceNumber) : Except Panic Packet :=
  { packet with tccSeqnum := some tccSeqnum }.writeInHeader range
    (toBigEndian 2 tccSeqnum)

theorem setTccSeqnumInHeader_eq_ok {tccSeqnum : FullSequenceNumber}
    (wrote : packet.setTccSeqnumInHeader range tccSeqnum = .ok written) :
    packet.encrypted = false ∧
      written = { packet with
        tccSeqnum := some tccSeqnum
        serialized := written.serialized } ∧
      written.sliceSerialized range = .ok (toBigEndian 2 tccSeqnum) :=
  writeInHeader_eq_ok wrote

def setFrameNumberInHeader (packet : Packet) (frameNumber : FullFrameNumber) :
    Except Panic Packet :=
  match packet.dependencyDescriptor with
  | none => .ok packet
  | some (_, range) =>
      packet.writeInHeader ⟨range.start + 1, range.start + 3⟩
        (toBigEndian 2 frameNumber)

/-- Clearing the number first makes the write go to the whole payload. -/
def setSeqnumInPayload (packet : Packet) (seqnum : FullSequenceNumber) :
    Except Panic Packet := do
  let written ← { packet with seqnumInPayload := none }.writeInPayload ⟨0, 2⟩
    (toBigEndian 2 seqnum)
  return { written with seqnumInPayload := some seqnum }

def rewrite (packet : Packet) (newSsrc : Ssrc)
    (newSeqnum : FullSequenceNumber) (newTimestamp : TruncatedTimestamp) :
    Except Panic Packet :=
  if packet.isRtx then do
    let addressed ← packet.setSsrcInHeader (toRtxSsrc newSsrc)
    let numbered ← addressed.setSeqnumInPayload newSeqnum
    numbered.setTimestampInHeader newTimestamp
  else do
    let addressed ← packet.setSsrcInHeader newSsrc
    let numbered ← addressed.setSeqnumInHeader newSeqnum
    numbered.setTimestampInHeader newTimestamp

/-- A rewritten packet is on the given stream, retransmission or not. -/
theorem rewrite_eq_ok {packet rewritten : Packet} {newSsrc : Ssrc}
    {newSeqnum : FullSequenceNumber} {newTimestamp : TruncatedTimestamp}
    (rewrote : packet.rewrite newSsrc newSeqnum newTimestamp =
      .ok rewritten) :
    rewritten.ssrc = newSsrc ∧ rewritten.seqnum = newSeqnum := by
  unfold rewrite at rewrote
  split at rewrote
  case isTrue =>
    obtain ⟨addressed, setSsrc, rest⟩ := bind_eq_ok_iff.mp rewrote
    obtain ⟨numbered, setSeqnum, setTimestamp⟩ := bind_eq_ok_iff.mp rest
    obtain ⟨written, wrote, returned⟩ := bind_eq_ok_iff.mp setSeqnum
    cases returned
    obtain ⟨-, addressedOthers, -⟩ := writeInHeader_eq_ok setSsrc
    have writtenOthers := writeInPayload_eq_ok wrote
    obtain ⟨-, others, -⟩ := writeInHeader_eq_ok setTimestamp
    rw [others, writtenOthers, addressedOthers]
    exact ⟨fromRtxSsrc_toRtxSsrc newSsrc, rfl⟩
  case isFalse original =>
    obtain ⟨addressed, setSsrc, rest⟩ := bind_eq_ok_iff.mp rewrote
    obtain ⟨numbered, setSeqnum, setTimestamp⟩ := bind_eq_ok_iff.mp rest
    obtain ⟨-, addressedOthers, -⟩ := writeInHeader_eq_ok setSsrc
    obtain ⟨-, numberedOthers⟩ := setSeqnumInHeader_eq_ok setSeqnum
    obtain ⟨-, others, -⟩ := writeInHeader_eq_ok setTimestamp
    rw [others, numberedOthers, addressedOthers]
    unfold isRtx at original
    rw [Option.not_isSome_iff_eq_none] at original
    simp [ssrc, seqnum, isRtx, original]

/-! ## Encryption -/

/-- The pieces `prepare_for_crypto` splits the packet into. -/
structure CryptoParts where
  nonce : Bytes
  header : Bytes
  payload : Bytes
  tag : Bytes

def prepareForCrypto (packet : Packet) (salt : Salt) :
    Except Panic CryptoParts := do
  let headerLen := packet.payloadRangeInHeader.start
  let payloadLen := packet.payloadRangeInHeader.len
  ensure (headerLen + payloadLen ≤ packet.serialized.length)
    Panic.outOfBounds
  return {
    nonce := rtpIv packet.ssrcInHeader packet.seqnumInHeader salt
    header := packet.serialized.take headerLen
    payload := (packet.serialized.drop headerLen).take payloadLen
    tag := packet.serialized.drop (headerLen + payloadLen)
  }

def encryptInPlace (aead : Aead) (packet : Packet) (keys : KeyAndSalt) :
    Except Panic (Option Packet) := do
  ensure (packet.encrypted = false)
    (Panic.assertion "Can't encrypt an already encrypted packet")
  let parts ← packet.prepareForCrypto keys.salt
  match aead.encrypt keys.key parts.nonce parts.header parts.payload with
  | none => return none
  | some (ciphertext, computedTag) =>
      ensure (parts.tag.length = computedTag.length)
        (Panic.assertion "source slice length does not match")
      return some { packet with
        encrypted := true
        serialized := parts.header ++ ciphertext ++ computedTag }

def decryptInPlace (aead : Aead) (packet : Packet) (keys : KeyAndSalt) :
    Except Panic (Option Packet) := do
  ensure (packet.encrypted = true)
    (Panic.assertion "Can't decrypt an unencrypted packet")
  let parts ← packet.prepareForCrypto keys.salt
  ensure (parts.tag.length = srtpAuthTagLen)
    (Panic.assertion "tag length")
  match aead.decrypt keys.key parts.nonce parts.header parts.payload
      parts.tag with
  | none => return none
  | some plaintext =>
      return some { packet with
        encrypted := false
        serialized := parts.header ++ plaintext ++ parts.tag }

/-! ## New packets -/

/-- The one-byte extension block with a transport-cc sequence number. -/
def tccExtensionBlock (tccSeqnum : FullSequenceNumber) : Bytes :=
  toBigEndian 2 rtpOneByteExtensionsProfile ++ toBigEndian 2 1 ++
    [0x11] ++ toBigEndian 2 tccSeqnum ++ [0]

/-- `Packet::with_empty_tag`: a packet without marker, padding or
contributing sources, and with a zeroed tag. -/
def withEmptyTag (pt : PayloadType) (seqnum : FullSequenceNumber)
    (timestamp : TruncatedTimestamp) (ssrc : Ssrc)
    (tccSeqnum : Option FullSequenceNumber) (deadlineStart : Option Instant)
    (payload : Bytes) : Packet :=
  let extensions := tccSeqnum.elim [] tccExtensionBlock
  let header :=
    [if tccSeqnum.isSome then 0x90 else 0x80, pt &&& 0b01111111] ++
      toBigEndian 2 seqnum ++ toBigEndian 4 timestamp.toNat ++
      toBigEndian 4 ssrc.toNat ++ extensions
  { marker := false
    payloadTypeInHeader := pt
    ssrcInHeader := ssrc
    seqnumInHeader := seqnum
    seqnumInPayload := none
    pendingRetransmission := false
    timestamp := timestamp
    videoRotation := none
    audioLevel := none
    dependencyDescriptor := none
    tccSeqnum := tccSeqnum
    tccSeqnumRange := if tccSeqnum.isSome then some ⟨17, 19⟩ else none
    payloadRangeInHeader := ⟨header.length, header.length + payload.length⟩
    encrypted := false
    deadline := deadlineStart.map (· + packetLifetime)
    paddingByteCount := 0
    serialized :=
      header ++ payload ++ List.replicate srtpAuthTagLen 0 }

def toRtx (packet : Packet) (rtxSeqnum : FullSequenceNumber) :
    Except Panic Packet :=
  if packet.isRtx then packet.setSeqnumInHeader rtxSeqnum
  else do
    let header ← packet.header
    let payload ← packet.payload
    let rtx : Packet := { packet with
      payloadTypeInHeader := toRtxPayloadType packet.payloadTypeInHeader
      ssrcInHeader := toRtxSsrc packet.ssrcInHeader
      seqnumInHeader := rtxSeqnum
      seqnumInPayload := some packet.seqnumInHeader
      payloadRangeInHeader := ⟨packet.payloadRangeInHeader.start,
        packet.payloadRangeInHeader.finish + 2⟩
      serialized := header ++ toBigEndian 2 packet.seqnumInHeader ++ payload ++
        List.replicate srtpAuthTagLen 0 }
    let typed ← rtx.setPayloadTypeInHeader rtx.payloadTypeInHeader
    let addressed ← typed.setSsrcInHeader typed.ssrcInHeader
    addressed.setSeqnumInHeader addressed.seqnumInHeader

/-- A retransmission goes to the RTX stream of the original packet, with the
given number. -/
theorem toRtx_eq_ok {packet rtx : Packet} {rtxSeqnum : FullSequenceNumber}
    (made : packet.toRtx rtxSeqnum = .ok rtx) :
    rtx.isRtx = true ∧ rtx.ssrcInHeader = toRtxSsrc packet.ssrc ∧
      rtx.seqnumInHeader = rtxSeqnum ∧ rtx.encrypted = packet.encrypted ∧
      rtx.tccSeqnumRange = packet.tccSeqnumRange := by
  unfold toRtx at made
  split at made
  case isTrue alreadyRtx =>
    obtain ⟨-, others⟩ := setSeqnumInHeader_eq_ok made
    rw [others]
    refine ⟨alreadyRtx, ?_, rfl, rfl, rfl⟩
    simp [ssrc, alreadyRtx]
  case isFalse original =>
    obtain ⟨_, _, rest⟩ := bind_eq_ok_iff.mp made
    obtain ⟨_, _, rest⟩ := bind_eq_ok_iff.mp rest
    obtain ⟨typed, setType, rest⟩ := bind_eq_ok_iff.mp rest
    obtain ⟨addressed, setSsrc, setSeqnum⟩ := bind_eq_ok_iff.mp rest
    obtain ⟨-, typedOthers, -⟩ := writeInHeader_eq_ok setType
    obtain ⟨-, addressedOthers, -⟩ := writeInHeader_eq_ok setSsrc
    obtain ⟨-, others⟩ := setSeqnumInHeader_eq_ok setSeqnum
    rw [others, addressedOthers, typedOthers]
    refine ⟨rfl, ?_, rfl, rfl, rfl⟩
    simp [ssrc, original]

theorem encryptInPlace_eq_some {aead : Aead} {packet encrypted : Packet}
    {keys : KeyAndSalt}
    (sealed : packet.encryptInPlace aead keys = .ok (some encrypted)) :
    packet.encrypted = false ∧ encrypted = { packet with
      encrypted := true
      serialized := encrypted.serialized } := by
  obtain ⟨_, unencrypted, rest⟩ := bind_eq_ok_iff.mp sealed
  obtain ⟨parts, -, rest⟩ := bind_eq_ok_iff.mp rest
  rw [ensure_eq_ok_iff] at unencrypted
  refine ⟨unencrypted, ?_⟩
  split at rest
  · cases rest
  · obtain ⟨_, -, returned⟩ := bind_eq_ok_iff.mp rest
    cases returned
    rfl

theorem decryptInPlace_eq {aead : Aead} {packet : Packet} {keys : KeyAndSalt}
    {parts : CryptoParts} (encrypted : packet.encrypted = true)
    (prepared : packet.prepareForCrypto keys.salt = .ok parts)
    (tagLength : parts.tag.length = srtpAuthTagLen) :
    packet.decryptInPlace aead keys =
      .ok ((aead.decrypt keys.key parts.nonce parts.header parts.payload
        parts.tag).map fun plaintext => { packet with
          encrypted := false
          serialized := parts.header ++ plaintext ++ parts.tag }) := by
  unfold decryptInPlace
  rw [prepared]
  cases opened : aead.decrypt keys.key parts.nonce parts.header parts.payload
      parts.tag with
  | none => simp [ensure, encrypted, tagLength, opened, bind, Except.bind,
      pure, Except.pure]
  | some plaintext => simp [ensure, encrypted, tagLength, opened, bind,
      Except.bind, pure, Except.pure]

end Packet

end CallingService.Backend.Rtp
