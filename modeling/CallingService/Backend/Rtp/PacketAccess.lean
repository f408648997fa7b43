import CallingService.Backend.Rtp.Endpoint
import CallingService.Backend.Rtp.HeaderBounds

/-!
# Accesses to a parsed packet

The setters, the cipher and the rest of `receive_rtp` trust the positions of
the parsed header.  None of their accesses leaves the packet, and what they
write leaves the positions as they are.
-/

namespace CallingService.Backend.Rtp

open Foundation

/-- The bytes with those of a range replaced. -/
def overwrite (target : Bytes) (range : ByteRange) (source : Bytes) : Bytes :=
  target.take range.start ++ source ++ target.drop range.finish

theorem length_overwrite {target source : Bytes} {range : ByteRange}
    (inside : range.finish ≤ target.length)
    (sameLength : range.start + source.length = range.finish) :
    (overwrite target range source).length = target.length := by
  unfold overwrite
  rw [List.length_append, List.length_append, List.length_take,
    List.length_drop]
  omega

namespace Packet

theorem writeBelow_eq {packet : Packet} {limit : Nat} {range : ByteRange}
    {bytes : Bytes} {refusal : String} (unencrypted : packet.encrypted = false)
    (inside : range.finish ≤ limit) (fits : limit ≤ packet.serialized.length)
    (sameLength : range.start + bytes.length = range.finish) :
    packet.writeBelow limit range bytes refusal =
      .ok { packet with
        serialized := overwrite packet.serialized range bytes } := by
  have takenLength : (packet.serialized.take limit).length = limit :=
    List.length_take_of_le fits
  have copied : copyFromSlice (packet.serialized.take limit) range bytes =
      .ok ((packet.serialized.take limit).take range.start ++ bytes ++
        (packet.serialized.take limit).drop range.finish) := by
    unfold copyFromSlice ByteRange.len
    rw [if_neg (by omega), if_neg (by omega)]
  have whole : (packet.serialized.take limit).take range.start ++ bytes ++
      (packet.serialized.take limit).drop range.finish ++
        packet.serialized.drop limit =
      overwrite packet.serialized range bytes := by
    have restSplit : (packet.serialized.take limit).drop range.finish ++
        packet.serialized.drop limit =
          packet.serialized.drop range.finish := by
      rw [← List.drop_append_of_le_length (by omega), List.take_append_drop]
    unfold overwrite
    rw [List.take_take, Nat.min_eq_left (by omega), List.append_assoc,
      restSplit]
  unfold writeBelow ensure
  rw [if_pos unencrypted, ok_bind, if_pos fits, ok_bind, copied, ok_bind, whole]
  rfl

theorem writeInHeader_eq {packet : Packet} {range : ByteRange} {bytes : Bytes}
    (unencrypted : packet.encrypted = false)
    (inside : range.finish ≤ packet.payloadRange.start)
    (fits : packet.payloadRange.start ≤ packet.serialized.length)
    (sameLength : range.start + bytes.length = range.finish) :
    packet.writeInHeader range bytes =
      .ok { packet with
        serialized := overwrite packet.serialized range bytes } :=
  writeBelow_eq unencrypted inside fits sameLength

theorem writeInPayload_eq {packet : Packet} {range : ByteRange}
    {bytes : Bytes} (unencrypted : packet.encrypted = false)
    (ordered : packet.payloadRange.start ≤ packet.payloadRange.finish)
    (inside : packet.payloadRange.start + range.finish ≤
      packet.payloadRange.finish)
    (fits : packet.payloadRange.finish ≤ packet.serialized.length)
    (sameLength : range.start + bytes.length = range.finish) :
    packet.writeInPayload range bytes =
      .ok { packet with
        serialized := overwrite packet.serialized
          ⟨packet.payloadRange.start + range.start,
            packet.payloadRange.start + range.finish⟩ bytes } := by
  unfold writeInPayload
  rw [writeBelow_eq unencrypted inside fits (by dsimp only; omega)]
  unfold ensure
  rw [if_pos unencrypted, if_pos ordered]
  rfl

/-! ## Packets of a header -/

/-- A packet with the positions of a header.  A retransmission has a number
in its payload. -/
structure BuiltFrom (header : Header) (length : Nat) (packet : Packet) :
    Prop where
  length : packet.serialized.length = length
  payload : packet.payloadRangeInHeader = header.payloadRange
  tcc : packet.tccSeqnumRange = header.tccSeqnumRange
  descriptor : packet.dependencyDescriptor = header.dependencyDescriptor
  rtx : packet.isRtx = true →
    header.payloadRange.start + 2 ≤ header.payloadRange.finish

variable {header : Header} {length : Nat} {packet : Packet}

/-- Only the bytes and the parsed values have changed, and no number has been
put into the payload that was not there. -/
theorem BuiltFrom.changed (built : packet.BuiltFrom header length)
    {another : Packet}
    (sameLength : another.serialized.length = packet.serialized.length)
    (payload : another.payloadRangeInHeader = packet.payloadRangeInHeader)
    (tcc : another.tccSeqnumRange = packet.tccSeqnumRange)
    (descriptor : another.dependencyDescriptor = packet.dependencyDescriptor)
    (rtx : another.isRtx = true →
      header.payloadRange.start + 2 ≤ header.payloadRange.finish) :
    another.BuiltFrom header length where
  length := sameLength.trans built.length
  payload := payload.trans built.payload
  tcc := tcc.trans built.tcc
  descriptor := descriptor.trans built.descriptor
  rtx := rtx

theorem BuiltFrom.payloadRange_start (built : packet.BuiltFrom header length) :
    header.payloadRange.start ≤ packet.payloadRange.start := by
  unfold payloadRange
  rw [built.payload]
  split
  · exact Nat.le_add_right _ 2
  · exact Nat.le_refl _

theorem BuiltFrom.payloadRange_finish (built : packet.BuiltFrom header length) :
    packet.payloadRange.finish = header.payloadRange.finish := by
  unfold payloadRange
  rw [built.payload]
  split
  · rfl
  · rfl

theorem BuiltFrom.payloadRange_ordered
    (built : packet.BuiltFrom header length)
    (inBounds : header.InBounds length) :
    packet.payloadRange.start ≤ packet.payloadRange.finish := by
  unfold payloadRange
  split
  · rename_i isRtx
    have numbered := built.rtx isRtx
    rw [built.payload]
    exact numbered
  · rw [built.payload]
    exact inBounds.payload

theorem BuiltFrom.payloadRange_fits (built : packet.BuiltFrom header length)
    (inBounds : header.InBounds length) :
    packet.payloadRange.finish ≤ packet.serialized.length := by
  have tag := inBounds.tag
  rw [built.payloadRange_finish, built.length]
  omega

/-- An access that does not panic and leads to such a packet again. -/
def Keeps (header : Header) (length : Nat)
    (outcome : Except Panic Packet) : Prop :=
  ∃ written, outcome = .ok written ∧ written.encrypted = false ∧
    written.BuiltFrom header length

/-- A write before the payload. -/
theorem BuiltFrom.writeInHeader (built : packet.BuiltFrom header length)
    (inBounds : header.InBounds length)
    (unencrypted : packet.encrypted = false) {range : ByteRange}
    {bytes : Bytes} (inside : range.finish ≤ header.payloadRange.start)
    (sameLength : range.start + bytes.length = range.finish) :
    Keeps header length (packet.writeInHeader range bytes) := by
  have startsBehind := built.payloadRange_start
  have ordered := built.payloadRange_ordered inBounds
  have fits := built.payloadRange_fits inBounds
  refine ⟨_, writeInHeader_eq unencrypted (by omega) (by omega) sameLength,
    unencrypted, ?_⟩
  have lengthKept : (overwrite packet.serialized range bytes).length =
      packet.serialized.length :=
    length_overwrite (by omega) sameLength
  exact built.changed lengthKept rfl rfl rfl built.rtx

theorem Keeps.bind {first : Except Panic Packet}
    {next : Packet → Except Panic Packet} (kept : Keeps header length first)
    (keeps : ∀ written, written.encrypted = false →
      written.BuiltFrom header length → Keeps header length (next written)) :
    Keeps header length (first >>= next) := by
  obtain ⟨written, rfl, unencrypted, built⟩ := kept
  exact keeps written unencrypted built

section Writes

variable (built : packet.BuiltFrom header length)
  (inBounds : header.InBounds length) (unencrypted : packet.encrypted = false)
include built inBounds unencrypted

theorem keeps_setPayloadTypeInHeader (pt : PayloadType) :
    Keeps header length (packet.setPayloadTypeInHeader pt) := by
  have fixed := inBounds.fixed
  have addressed : { packet with payloadTypeInHeader := pt }.BuiltFrom header
      length := built.changed rfl rfl rfl rfl built.rtx
  exact addressed.writeInHeader inBounds unencrypted
    (Nat.le_trans (by decide) fixed) rfl

theorem keeps_setSsrcInHeader (ssrc : Ssrc) :
    Keeps header length (packet.setSsrcInHeader ssrc) := by
  have addressed : { packet with ssrcInHeader := ssrc }.BuiltFrom header
      length := built.changed rfl rfl rfl rfl built.rtx
  exact addressed.writeInHeader inBounds unencrypted inBounds.fixed rfl

theorem keeps_setSeqnumInHeader (seqnum : FullSequenceNumber) :
    Keeps header length (packet.setSeqnumInHeader seqnum) := by
  have fixed := inBounds.fixed
  have numbered : { packet with seqnumInHeader := seqnum }.BuiltFrom header
      length := built.changed rfl rfl rfl rfl built.rtx
  exact numbered.writeInHeader inBounds unencrypted
    (Nat.le_trans (by decide) fixed) rfl

theorem keeps_setTimestampInHeader (timestamp : TruncatedTimestamp) :
    Keeps header length (packet.setTimestampInHeader timestamp) := by
  have fixed := inBounds.fixed
  have stamped : { packet with timestamp := timestamp }.BuiltFrom header
      length := built.changed rfl rfl rfl rfl built.rtx
  exact stamped.writeInHeader inBounds unencrypted
    (Nat.le_trans (by decide) fixed) rfl

theorem keeps_setTccSeqnumInHeader {range : ByteRange}
    (hasRange : packet.tccSeqnumRange = some range)
    (tccSeqnum : FullSequenceNumber) :
    Keeps header length (packet.setTccSeqnumInHeader range tccSeqnum) := by
  rw [built.tcc] at hasRange
  obtain ⟨-, two, inside⟩ := inBounds.tcc range hasRange
  have numbered : { packet with tccSeqnum := some tccSeqnum }.BuiltFrom header
      length := built.changed rfl rfl rfl rfl built.rtx
  exact numbered.writeInHeader inBounds unencrypted inside two.symm

theorem keeps_setFrameNumberInHeader (frameNumber : FullFrameNumber) :
    Keeps header length (packet.setFrameNumberInHeader frameNumber) := by
  unfold setFrameNumberInHeader
  split
  · exact ⟨packet, rfl, unencrypted, built⟩
  · rename_i descriptor range hasDescriptor
    rw [built.descriptor] at hasDescriptor
    obtain ⟨-, longEnough, inside⟩ :=
      inBounds.descriptor descriptor range hasDescriptor
    exact built.writeInHeader inBounds unencrypted
      (Nat.le_trans longEnough inside) rfl

/-- The number goes to the start of the whole payload. -/
theorem setSeqnumInPayload_eq
    (numbered : header.payloadRange.start + 2 ≤ header.payloadRange.finish)
    (seqnum : FullSequenceNumber) :
    packet.setSeqnumInPayload seqnum = .ok { packet with
      seqnumInPayload := some seqnum
      serialized := overwrite packet.serialized
        ⟨header.payloadRange.start, header.payloadRange.start + 2⟩
        (toBigEndian 2 seqnum) } := by
  have wholePayload : { packet with seqnumInPayload := none }.payloadRange =
      header.payloadRange := built.payload
  have fits : header.payloadRange.finish ≤ packet.serialized.length := by
    have tag := inBounds.tag
    rw [built.length]
    omega
  have written := @writeInPayload_eq { packet with seqnumInPayload := none }
    ⟨0, 2⟩ (toBigEndian 2 seqnum) unencrypted
  rw [wholePayload] at written
  unfold setSeqnumInPayload
  rw [written inBounds.payload numbered fits rfl]
  rfl

theorem keeps_setSeqnumInPayload
    (numbered : header.payloadRange.start + 2 ≤ header.payloadRange.finish)
    (seqnum : FullSequenceNumber) :
    Keeps header length (packet.setSeqnumInPayload seqnum) := by
  refine ⟨_, setSeqnumInPayload_eq built inBounds unencrypted numbered seqnum,
    unencrypted, ?_⟩
  refine built.changed ?_ rfl rfl rfl (fun _ => numbered)
  apply length_overwrite
  · have tag := inBounds.tag
    rw [built.length]
    dsimp only
    omega
  · rfl

theorem keeps_rewrite (newSsrc : Ssrc) (newSeqnum : FullSequenceNumber)
    (newTimestamp : TruncatedTimestamp) :
    Keeps header length (packet.rewrite newSsrc newSeqnum newTimestamp) := by
  unfold rewrite
  split
  · rename_i isRtx
    have numbered := built.rtx isRtx
    apply (keeps_setSsrcInHeader built inBounds unencrypted _).bind
    intro addressed addressedPlain addressedBuilt
    apply (keeps_setSeqnumInPayload addressedBuilt inBounds addressedPlain
      numbered newSeqnum).bind
    intro written writtenPlain writtenBuilt
    exact keeps_setTimestampInHeader writtenBuilt inBounds writtenPlain _
  · apply (keeps_setSsrcInHeader built inBounds unencrypted _).bind
    intro addressed addressedPlain addressedBuilt
    apply (keeps_setSeqnumInHeader addressedBuilt inBounds addressedPlain
      newSeqnum).bind
    intro written writtenPlain writtenBuilt
    exact keeps_setTimestampInHeader writtenBuilt inBounds writtenPlain _

end Writes

/-! ## The cipher -/

theorem BuiltFrom.prepareForCrypto (built : packet.BuiltFrom header length)
    (inBounds : header.InBounds length) (salt : Salt) :
    packet.prepareForCrypto salt = .ok {
      nonce := rtpIv packet.ssrcInHeader packet.seqnumInHeader salt
      header := packet.serialized.take header.payloadRange.start
      payload := (packet.serialized.drop header.payloadRange.start).take
        header.payloadRange.len
      tag := packet.serialized.drop header.payloadRange.finish } := by
  have ordered := inBounds.payload
  have tag := inBounds.tag
  have sameLength := built.length
  have isFinish : header.payloadRange.start + header.payloadRange.len =
      header.payloadRange.finish := by
    unfold ByteRange.len
    omega
  unfold Packet.prepareForCrypto ensure
  rw [built.payload]
  dsimp only
  rw [isFinish, if_pos (by omega)]
  rfl

section Cipher

variable (built : packet.BuiltFrom header length)
  (inBounds : header.InBounds length)
include built inBounds

theorem length_tag :
    (packet.serialized.drop header.payloadRange.finish).length =
      srtpAuthTagLen := by
  have tag := inBounds.tag
  rw [List.length_drop, built.length]
  omega

/-- Text of the length of the payload fits into its place. -/
theorem length_sealed {text tag : Bytes}
    (textLength : text.length =
      ((packet.serialized.drop header.payloadRange.start).take
        header.payloadRange.len).length)
    (tagLength : tag.length = srtpAuthTagLen) :
    (packet.serialized.take header.payloadRange.start ++ text ++ tag).length =
      packet.serialized.length := by
  have ordered := inBounds.payload
  have fits := inBounds.tag
  have sameLength := built.length
  rw [List.length_append, List.length_append, textLength, tagLength,
    List.length_take, List.length_take, List.length_drop]
  unfold ByteRange.len
  omega

theorem encryptInPlace_inBounds (unencrypted : packet.encrypted = false)
    (aead : Aead) (keys : KeyAndSalt) :
    ∃ outcome, packet.encryptInPlace aead keys = .ok outcome ∧
      ∀ encrypted, outcome = some encrypted →
        encrypted.BuiltFrom header length := by
  unfold encryptInPlace ensure
  rw [if_pos unencrypted, ok_bind, built.prepareForCrypto inBounds, ok_bind]
  dsimp only
  split
  · refine ⟨none, rfl, ?_⟩
    intro encrypted impossible
    cases impossible
  · rename_i ciphertext computedTag sealed
    obtain ⟨textLength, tagLength⟩ := aead.encrypt_length sealed
    have sameTag := length_tag built inBounds
    rw [if_pos (sameTag.trans tagLength.symm), ok_bind]
    refine ⟨_, rfl, ?_⟩
    intro encrypted isEncrypted
    cases isEncrypted
    exact built.changed (length_sealed built inBounds textLength tagLength)
      rfl rfl rfl built.rtx

theorem decryptInPlace_inBounds (encrypted : packet.encrypted = true)
    (aead : Aead) (keys : KeyAndSalt) :
    ∃ outcome, packet.decryptInPlace aead keys = .ok outcome ∧
      ∀ decrypted, outcome = some decrypted →
        decrypted.encrypted = false ∧ decrypted.isRtx = packet.isRtx ∧
          decrypted.BuiltFrom header length := by
  have prepared := built.prepareForCrypto inBounds keys.salt
  have sameTag := length_tag built inBounds
  rw [decryptInPlace_eq encrypted prepared sameTag]
  refine ⟨_, rfl, ?_⟩
  intro decrypted isDecrypted
  obtain ⟨plaintext, opened, rfl⟩ := Option.map_eq_some_iff.mp isDecrypted
  have textLength := aead.decrypt_length opened
  exact ⟨rfl, rfl, built.changed
    (length_sealed built inBounds textLength sameTag) rfl rfl rfl built.rtx⟩

/-! ## The payload -/

theorem sliceSerialized_inBounds {range : ByteRange}
    (ordered : range.start ≤ range.finish)
    (inside : range.finish ≤ header.payloadRange.finish) :
    packet.sliceSerialized range =
      .ok ((packet.serialized.take range.finish).drop range.start) := by
  have tag := inBounds.tag
  have sameLength := built.length
  unfold sliceSerialized
  rw [if_neg (by omega)]

theorem header_inBounds : ∃ bytes, packet.header = .ok bytes := by
  have ordered := built.payloadRange_ordered inBounds
  have isFinish := built.payloadRange_finish
  exact ⟨_, sliceSerialized_inBounds built inBounds (Nat.zero_le _)
    (by dsimp only; omega)⟩

theorem payload_inBounds : ∃ bytes, packet.payload = .ok bytes ∧
    bytes.length = packet.payloadRange.len := by
  have ordered := built.payloadRange_ordered inBounds
  have isFinish := built.payloadRange_finish
  have fits := built.payloadRange_fits inBounds
  refine ⟨_, sliceSerialized_inBounds built inBounds ordered
    (Nat.le_of_eq isFinish), ?_⟩
  rw [List.length_drop, List.length_take_of_le fits]
  rfl

end Cipher

end Packet

namespace Endpoint

variable {header : Header} {length : Nat} {packet : Packet}

/-! ## Receiving -/

theorem incomingPacket_builtFrom (header : Header) (arrival : Arrival)
    (encrypted : Bytes) (now : Instant) :
    (incomingPacket header arrival encrypted now).BuiltFrom header
      encrypted.length where
  length := rfl
  payload := rfl
  tcc := rfl
  descriptor := rfl
  rtx := by
    intro isRtx
    cases isRtx

/-- The padding count is the last byte of a payload that is not empty. -/
theorem readPaddingByteCount_inBounds (built : packet.BuiltFrom header length)
    (inBounds : header.InBounds length) (notRtx : packet.isRtx = false) :
    ∃ padded, readPaddingByteCount header packet = .ok padded ∧
      padded.encrypted = packet.encrypted ∧ padded.isRtx = false ∧
      padded.BuiltFrom header length := by
  unfold readPaddingByteCount
  split
  · rename_i hasPadding
    have nonempty := inBounds.padding hasPadding
    obtain ⟨payload, isPayload, payloadLength⟩ :=
      Packet.payload_inBounds built inBounds
    have wholePayload : packet.payloadRange = header.payloadRange := by
      unfold Packet.payloadRange
      rw [notRtx]
      exact built.payload
    have hasLast : payload ≠ [] := by
      rintro rfl
      rw [wholePayload] at payloadLength
      unfold ByteRange.len at payloadLength
      rw [List.length_nil] at payloadLength
      omega
    rw [isPayload, ok_bind, List.getLast?_eq_some_getLast hasLast]
    exact ⟨_, rfl, rfl, notRtx, built.changed rfl rfl rfl rfl built.rtx⟩
  · exact ⟨packet, rfl, rfl, notRtx, built⟩

/-- Only a payload with room for the original number becomes that of a
retransmission. -/
theorem unwrapRtx_inBounds (endpoint : Endpoint)
    (built : packet.BuiltFrom header length)
    (inBounds : header.InBounds length) (notRtx : packet.isRtx = false)
    (now : Instant) :
    ∃ unwrapped, endpoint.unwrapRtx header packet now = .ok unwrapped ∧
      ∀ incoming, unwrapped.2 = some incoming →
        incoming.encrypted = packet.encrypted ∧
          incoming.BuiltFrom header length := by
  unfold unwrapRtx
  split
  · obtain ⟨payload, isPayload, payloadLength⟩ :=
      Packet.payload_inBounds built inBounds
    rw [isPayload, ok_bind]
    split
    · refine ⟨_, rfl, ?_⟩
      rintro _ ⟨⟩
      exact ⟨rfl, built⟩
    · split
      · rename_i high low rest
        refine ⟨_, rfl, ?_⟩
        rintro _ ⟨⟩
        refine ⟨rfl, built.changed rfl rfl rfl rfl ?_⟩
        intro _
        unfold Packet.payloadRange ByteRange.len at payloadLength
        rw [notRtx, built.payload, List.length_cons,
          List.length_cons] at payloadLength
        rw [if_neg Bool.false_ne_true] at payloadLength
        omega
      · refine ⟨_, rfl, ?_⟩
        rintro _ ⟨⟩
  · refine ⟨_, rfl, ?_⟩
    rintro _ ⟨⟩
    exact ⟨rfl, built⟩

theorem acceptNew_inBounds (aead : Aead) (recorded : Endpoint)
    (arrival : Arrival) {encrypted : Bytes}
    (inBounds : header.InBounds encrypted.length) (now : Instant) :
    ∃ outcome,
      recorded.acceptNew aead header arrival encrypted now = .ok outcome ∧
      ∀ received, outcome.2 = some received →
        received.encrypted = false ∧
          received.BuiltFrom header encrypted.length := by
  unfold acceptNew
  have incoming := incomingPacket_builtFrom header arrival encrypted now
  obtain ⟨decrypted, isDecrypted, decryptedBuilt⟩ :=
    Packet.decryptInPlace_inBounds incoming inBounds rfl aead
      recorded.decrypt.rtp
  rw [isDecrypted, ok_bind]
  cases decrypted with
  | none =>
      refine ⟨_, rfl, ?_⟩
      rintro _ ⟨⟩
  | some plain =>
      obtain ⟨unencrypted, sameKind, built⟩ := decryptedBuilt plain rfl
      obtain ⟨padded, isPadded, paddedPlain, notRtx, paddedBuilt⟩ :=
        readPaddingByteCount_inBounds built inBounds sameKind
      obtain ⟨unwrapped, isUnwrapped, unwrappedBuilt⟩ :=
        recorded.unwrapRtx_inBounds paddedBuilt inBounds notRtx now
      dsimp only
      unfold acceptDecrypted
      rw [isPadded, ok_bind, isUnwrapped, ok_bind]
      obtain ⟨next, result⟩ := unwrapped
      cases result with
      | none =>
          refine ⟨_, rfl, ?_⟩
          rintro _ ⟨⟩
      | some incoming =>
          refine ⟨_, rfl, ?_⟩
          rintro _ ⟨⟩
          obtain ⟨sameEncrypted, incomingBuilt⟩ := unwrappedBuilt incoming rfl
          rw [sameEncrypted, paddedPlain]
          exact ⟨unencrypted, incomingBuilt⟩

theorem acceptArrival_inBounds (aead : Aead) (recorded : Endpoint × Arrival)
    {encrypted : Bytes} (inBounds : header.InBounds encrypted.length)
    (now : Instant) :
    ∃ outcome,
      acceptArrival aead recorded header encrypted now = .ok outcome ∧
      ∀ received, outcome.2 = some received →
        received.encrypted = false ∧
          received.BuiltFrom header encrypted.length := by
  unfold acceptArrival
  split
  · refine ⟨_, rfl, ?_⟩
    rintro _ ⟨⟩
  · refine ⟨_, rfl, ?_⟩
    rintro _ ⟨⟩
  · exact acceptNew_inBounds aead recorded.1 recorded.2 inBounds now

theorem receiveRtp_inBounds (aead : Aead) (endpoint : Endpoint)
    {encrypted : Bytes} (parsed : Header.parse encrypted = .ok (some header))
    (now : Instant) :
    ∃ outcome, endpoint.receiveRtp aead encrypted now = .ok outcome ∧
      ∀ received, outcome.2 = some received →
        received.encrypted = false ∧
          received.BuiltFrom header encrypted.length := by
  unfold receiveRtp
  rw [parsed, ok_bind]
  exact acceptArrival_inBounds aead _ (Header.inBounds_of_parse parsed) now

end Endpoint

/-! ## All accesses -/

/-- The writes to a packet that is not encrypted. -/
structure Packet.WritesInBounds (header : Header) (length : Nat)
    (packet : Packet) : Prop where
  payloadType : ∀ pt, Keeps header length (packet.setPayloadTypeInHeader pt)
  ssrc : ∀ ssrc, Keeps header length (packet.setSsrcInHeader ssrc)
  seqnum : ∀ seqnum, Keeps header length (packet.setSeqnumInHeader seqnum)
  timestamp : ∀ timestamp,
    Keeps header length (packet.setTimestampInHeader timestamp)
  tccSeqnum : ∀ range, packet.tccSeqnumRange = some range → ∀ tccSeqnum,
    Keeps header length (packet.setTccSeqnumInHeader range tccSeqnum)
  frameNumber : ∀ frameNumber,
    Keeps header length (packet.setFrameNumberInHeader frameNumber)
  rewrite : ∀ newSsrc newSeqnum newTimestamp,
    Keeps header length (packet.rewrite newSsrc newSeqnum newTimestamp)
  encrypt : ∀ aead keys, ∃ outcome,
    packet.encryptInPlace aead keys = .ok outcome ∧
      ∀ encrypted, outcome = some encrypted → encrypted.BuiltFrom header length

/-- The accesses to a packet stay inside its bytes, and so do those that
follow them. -/
structure Packet.AccessesInBounds (header : Header) (length : Nat)
    (packet : Packet) : Prop where
  headerBytes : ∃ bytes, packet.header = .ok bytes
  payloadBytes : ∃ bytes, packet.payload = .ok bytes
  writes : packet.encrypted = false → packet.WritesInBounds header length
  decrypt : packet.encrypted = true → ∀ aead keys, ∃ outcome,
    packet.decryptInPlace aead keys = .ok outcome ∧
      ∀ decrypted, outcome = some decrypted → decrypted.BuiltFrom header length

theorem Packet.BuiltFrom.accessesInBounds {header : Header} {length : Nat}
    {packet : Packet} (built : packet.BuiltFrom header length)
    (inBounds : header.InBounds length) :
    packet.AccessesInBounds header length where
  headerBytes := header_inBounds built inBounds
  payloadBytes := by
    obtain ⟨bytes, isPayload, -⟩ := payload_inBounds built inBounds
    exact ⟨bytes, isPayload⟩
  writes := by
    intro unencrypted
    exact {
      payloadType := keeps_setPayloadTypeInHeader built inBounds unencrypted
      ssrc := keeps_setSsrcInHeader built inBounds unencrypted
      seqnum := keeps_setSeqnumInHeader built inBounds unencrypted
      timestamp := keeps_setTimestampInHeader built inBounds unencrypted
      tccSeqnum := fun _ =>
        keeps_setTccSeqnumInHeader built inBounds unencrypted
      frameNumber := keeps_setFrameNumberInHeader built inBounds unencrypted
      rewrite := keeps_rewrite built inBounds unencrypted
      encrypt := encryptInPlace_inBounds built inBounds unencrypted }
  decrypt := by
    intro encrypted aead keys
    obtain ⟨outcome, isOutcome, decryptedBuilt⟩ :=
      decryptInPlace_inBounds built inBounds encrypted aead keys
    refine ⟨outcome, isOutcome, ?_⟩
    intro decrypted isDecrypted
    exact (decryptedBuilt decrypted isDecrypted).2.2

/-- Every byte string is parsed within its bounds, and what is parsed keeps
all later accesses within them. -/
theorem parsed_accesses_in_bounds (bytes : Bytes) :
    Header.walk bytes = Header.parse bytes ∧
    (∃ outcome, Header.walk bytes = .ok outcome) ∧
    (∀ reader : DependencyDescriptorReader, reader.Ready →
      8 ≤ reader.position → ∀ fuel, 8 * reader.bytes.length ≤ fuel →
        reader.readStructure fuel =
          reader.readStructure (8 * reader.bytes.length)) ∧
    (∀ aead (endpoint : Endpoint) now,
      ∃ outcome, endpoint.receiveRtp aead bytes now = .ok outcome) ∧
    ∀ header, Header.walk bytes = .ok (some header) →
      header.InBounds bytes.length ∧
      (∀ aead (endpoint : Endpoint) now outcome received,
        endpoint.receiveRtp aead bytes now = .ok outcome →
        outcome.2 = some received →
          received.encrypted = false ∧
            received.BuiltFrom header bytes.length) ∧
      ∀ packet : Packet, packet.BuiltFrom header bytes.length →
        packet.AccessesInBounds header bytes.length := by
  refine ⟨Header.walk_eq bytes, ?_, ?_, ?_, ?_⟩
  · rw [Header.walk_eq]
    exact Header.parse_ok bytes
  · intro reader ready started fuel enough
    have someBytes := Nat.pos_of_ne_zero ready.nonempty
    have fewBits : reader.bitsLeft < 8 * reader.bytes.length := by
      unfold DependencyDescriptorReader.bitsLeft
      omega
    exact DependencyDescriptorReader.readStructure_fuel ready
      (Nat.lt_of_lt_of_le fewBits enough) fewBits
  · intro aead endpoint now
    obtain ⟨outcome, parsed⟩ := Header.parse_ok bytes
    cases outcome with
    | none =>
        unfold Endpoint.receiveRtp
        rw [parsed]
        exact ⟨_, rfl⟩
    | some header =>
        obtain ⟨outcome, received, -⟩ :=
          endpoint.receiveRtp_inBounds aead parsed now
        exact ⟨outcome, received⟩
  · intro header walked
    rw [Header.walk_eq] at walked
    have inBounds := Header.inBounds_of_parse walked
    refine ⟨inBounds, ?_, ?_⟩
    · intro aead endpoint now outcome received accepted isReceived
      obtain ⟨another, acceptedToo, builtFrom⟩ :=
        endpoint.receiveRtp_inBounds aead walked now
      rw [accepted] at acceptedToo
      cases acceptedToo
      exact builtFrom received isReceived
    · intro packet built
      exact built.accessesInBounds inBounds

/-- A packet with a transport-cc number, a descriptor of three bytes and a
payload of two. -/
def extendedPacket : Bytes :=
  [0x90, 108, 0, 7, 0, 0, 0, 9, 0, 0, 0, 16] ++
    [0xBE, 0xDE, 0, 2, 0x11, 0, 5, 0x62, 0, 1, 2, 0] ++ [1, 2] ++
    List.replicate 16 0

theorem parsed_accesses_in_bounds_of_extended_packet :
    ∃ header, Header.parse extendedPacket = .ok (some header) ∧
      header.tccSeqnumRange = some ⟨17, 19⟩ ∧
      header.dependencyDescriptor =
        some (⟨false, none, some 258⟩, ⟨20, 23⟩) ∧
      header.InBounds 42 := by
  have parsed : ∃ header, Header.parse extendedPacket = .ok (some header) ∧
      header.tccSeqnumRange = some ⟨17, 19⟩ ∧
      header.dependencyDescriptor =
        some (⟨false, none, some 258⟩, ⟨20, 23⟩) :=
    ⟨_, rfl, rfl, rfl⟩
  obtain ⟨header, isParsed, tcc, descriptor⟩ := parsed
  have walked : Header.walk extendedPacket = .ok (some header) :=
    (parsed_accesses_in_bounds extendedPacket).1.trans isParsed
  exact ⟨header, isParsed, tcc, descriptor,
    ((parsed_accesses_in_bounds extendedPacket).2.2.2.2 header walked).1⟩

end CallingService.Backend.Rtp
