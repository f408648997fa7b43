import CallingService.Backend.Rtp.HeaderRewriting
import CallingService.Backend.Rtp.PacketAccess

/-!
# Rewritten packets

What the setters do to a received packet is a list of writes to its bytes.
Every write goes to a place that the header was read from, so that the bytes
parse again, with what has been written.
-/

namespace CallingService.Backend.Rtp

open Foundation

/-! ## The header of changed bytes -/

namespace Header

variable {header : Header} {packet rewritten : Bytes}

theorem reread_self (parsed : parse packet = .ok (some header)) :
    header.reread packet = header := by
  have again := parse_rewritten parsed (SameOutside.refl _ packet)
  rw [parsed] at again
  exact (Option.some.inj (Except.ok.inj again)).symm

theorem place_fits (parsed : parse packet = .ok (some header))
    {place : ByteRange} (isPlace : place ∈ header.places) :
    place.finish ≤ packet.length := by
  have bounds := inBounds_of_parse parsed
  have fixed := bounds.fixed
  have payload := bounds.payload
  have tag := bounds.tag
  have fixedPlaces : ∀ place ∈
      [rtpSeqnumRange, rtpTimestampRange, rtpSsrcRange],
        place.finish ≤ rtpMinHeaderLen := by decide
  unfold places at isPlace
  rw [List.append_assoc, List.append_assoc, List.mem_append,
    List.mem_append, List.mem_append, Option.mem_toList, Option.mem_toList,
    List.mem_singleton] at isPlace
  rcases isPlace with isFixed | isTcc | isDescriptor | rfl
  · have early := fixedPlaces place isFixed
    omega
  · have inside := bounds.tcc place isTcc
    omega
  · obtain ⟨recorded, isRecorded, rfl⟩ := Option.map_eq_some_iff.mp isDescriptor
    have inside := bounds.descriptor recorded.1 recorded.2 isRecorded
    omega
  · exact Nat.le_of_eq tag

/-- The payload has no say in the header. -/
theorem parse_of_same_start (parsed : parse packet = .ok (some header))
    (changed : SameOutside [⟨header.payloadRange.start, packet.length⟩] packet
      rewritten) :
    parse rewritten = .ok (some header) := by
  have bounds := inBounds_of_parse parsed
  have fixed := bounds.fixed
  have tag := bounds.tag
  have payload := bounds.payload
  have isPlace : (⟨header.payloadRange.start,
      header.payloadRange.finish + srtpAuthTagLen⟩ : ByteRange) ∈
        header.places := List.mem_append_right _ List.mem_cons_self
  have inPlaces : SameOutside header.places packet rewritten := by
    apply changed.mono
    intro place inPayload index covers
    rw [List.mem_singleton.mp inPayload] at covers
    rw [← tag] at covers
    exact ⟨_, isPlace, covers⟩
  have early : ∀ {range : ByteRange},
      range.finish ≤ header.payloadRange.start →
        range.slice rewritten = range.slice packet := by
    intro range before
    apply changed.slice_eq
    intro place inPayload
    rw [List.mem_singleton.mp inPayload]
    exact .inr before
  have numbers : ∀ {range : ByteRange},
      range.finish ≤ header.payloadRange.start →
        range.numberIn rewritten = range.numberIn packet := by
    intro range before
    exact congrArg fromBigEndian (early before)
  have tcc : (header.tccSeqnumRange.map fun range =>
      (range.numberIn rewritten).toUInt16) =
        header.tccSeqnumRange.map fun range =>
          (range.numberIn packet).toUInt16 := by
    apply Option.map_congr
    intro range isRange
    rw [numbers (bounds.tcc range isRange).2.2]
  have descriptor : (header.dependencyDescriptor.map fun recorded =>
      (describedBy (recorded.2.slice rewritten), recorded.2)) =
        header.dependencyDescriptor.map fun recorded =>
          (describedBy (recorded.2.slice packet), recorded.2) := by
    apply Option.map_congr
    intro recorded isRecorded
    rw [early (bounds.descriptor recorded.1 recorded.2 isRecorded).2.2]
  have same : header.reread rewritten = header.reread packet := by
    unfold reread
    rw [tcc, descriptor, @numbers rtpSeqnumRange (Nat.le_trans (by decide) fixed),
      @numbers rtpTimestampRange (Nat.le_trans (by decide) fixed),
      @numbers rtpSsrcRange (Nat.le_trans (by decide) fixed)]
  rw [parse_rewritten parsed inPlaces, same, reread_self parsed]

end Header

/-! ## Received packets -/

/-- A packet as an endpoint hands it out: its bytes parse to the header that
it was built from. -/
structure Packet.Received (header : Header) (packet : Packet) : Prop where
  parsed : Header.parse packet.serialized = .ok (some header)
  built : packet.BuiltFrom header packet.serialized.length
  unencrypted : packet.encrypted = false

namespace Endpoint

variable {header : Header}

theorem readPaddingByteCount_fields {incoming padded : Packet}
    (padding : readPaddingByteCount header incoming = .ok padded) :
    padded = { incoming with
      paddingByteCount := padded.paddingByteCount } := by
  unfold readPaddingByteCount at padding
  split at padding
  · obtain ⟨payload, _, padding⟩ := bind_eq_ok_iff.mp padding
    obtain ⟨count, _, returned⟩ := bind_eq_ok_iff.mp padding
    cases returned
    rfl
  · cases padding
    rfl

variable {now : Instant}

theorem unwrapRtx_fields {endpoint after : Endpoint}
    {incoming unwrapped : Packet}
    (unwraps : endpoint.unwrapRtx header incoming now =
      .ok (after, some unwrapped)) :
    unwrapped = { incoming with
      seqnumInPayload := unwrapped.seqnumInPayload } := by
  unfold unwrapRtx at unwraps
  split at unwraps
  · obtain ⟨payload, _, unwraps⟩ := bind_eq_ok_iff.mp unwraps
    split at unwraps
    · cases unwraps
      rfl
    · split at unwraps
      · cases unwraps
        rfl
      · cases unwraps
  · cases unwraps
    rfl

variable {encrypted : Bytes}

/-- A packet that is accepted has been decrypted; the padding and the number
of a retransmission are read from its payload. -/
theorem acceptArrival_eq_some {aead : Aead} {recorded : Endpoint × Arrival}
    {after : Endpoint} {received : Packet}
    (accepted : acceptArrival aead recorded header encrypted now =
      .ok (after, some received)) :
    ∃ decrypted, (incomingPacket header recorded.2 encrypted
        now).decryptInPlace aead recorded.1.decrypt.rtp =
          .ok (some decrypted) ∧
      received = { decrypted with
        seqnumInPayload := received.seqnumInPayload
        paddingByteCount := received.paddingByteCount } := by
  unfold acceptArrival at accepted
  split at accepted
  · cases accepted
  · cases accepted
  · obtain ⟨decrypted, opened, rest⟩ := bind_eq_ok_iff.mp accepted
    cases decrypted with
    | none => cases rest
    | some plain =>
        obtain ⟨padded, padding, rest⟩ := bind_eq_ok_iff.mp rest
        obtain ⟨unwrapped, unwraps, rest⟩ := bind_eq_ok_iff.mp rest
        obtain ⟨next, result⟩ := unwrapped
        cases result with
        | none => cases rest
        | some incoming =>
            cases rest
            refine ⟨plain, opened, ?_⟩
            rw [unwrapRtx_fields unwraps, readPaddingByteCount_fields padding]

/-- Decryption replaces the payload. -/
theorem decryptInPlace_serialized {arrival : Arrival} {decrypted : Packet}
    (inBounds : header.InBounds encrypted.length) (aead : Aead)
    (keys : KeyAndSalt)
    (opened : (incomingPacket header arrival encrypted now).decryptInPlace
      aead keys = .ok (some decrypted)) :
    SameOutside [⟨header.payloadRange.start, encrypted.length⟩] encrypted
      decrypted.serialized := by
  have built := incomingPacket_builtFrom header arrival encrypted now
  have prepared := built.prepareForCrypto inBounds keys.salt
  have tagLength := Packet.length_tag built inBounds
  rw [Packet.decryptInPlace_eq rfl prepared tagLength] at opened
  obtain ⟨plaintext, isPlain, rfl⟩ :=
    Option.map_eq_some_iff.mp (Except.ok.inj opened)
  have textLength := aead.decrypt_length isPlain
  refine ⟨Packet.length_sealed built inBounds textLength tagLength, ?_⟩
  intro index outside
  have apart := outside _ List.mem_cons_self
  have ordered := inBounds.payload
  have tag := inBounds.tag
  unfold ByteRange.Covers at apart
  have serialized : (incomingPacket header arrival encrypted now).serialized =
      encrypted := rfl
  dsimp only at apart ⊢
  rw [serialized]
  by_cases early : index < header.payloadRange.start
  · have startLength : (encrypted.take header.payloadRange.start).length =
        header.payloadRange.start := List.length_take_of_le (by omega)
    rw [List.append_assoc, List.getElem?_append_left (by omega),
      List.getElem?_take, if_pos early]
  · have sealedLength := Packet.length_sealed built inBounds textLength
      tagLength
    rw [serialized] at sealedLength
    rw [List.getElem?_eq_none (by omega), List.getElem?_eq_none (by omega)]

/-- Receiving a packet changes bytes behind its header only. -/
theorem serialized_acceptArrival (aead : Aead) {recorded : Endpoint × Arrival}
    {after : Endpoint} {received : Packet}
    (inBounds : header.InBounds encrypted.length)
    (accepted : acceptArrival aead recorded header encrypted now =
      .ok (after, some received)) :
    SameOutside [⟨header.payloadRange.start, encrypted.length⟩] encrypted
      received.serialized := by
  obtain ⟨decrypted, opened, same⟩ := acceptArrival_eq_some accepted
  have outside := decryptInPlace_serialized inBounds aead _ opened
  rw [same]
  exact outside

/-- What `receive_rtp` returns is a received packet, with the header that has
been accepted. -/
theorem receiveRtp_received (aead : Aead) {endpoint after : Endpoint}
    {received : Packet} (receives : endpoint.receiveRtp aead encrypted now =
      .ok (after, some received)) :
    ∃ header, received.Received header ∧
      acceptArrival aead (endpoint.recordArrival header now) header encrypted
        now = .ok (after, some received) := by
  obtain ⟨parsed, isParsed, accepted⟩ := bind_eq_ok_iff.mp receives
  cases parsed with
  | none => cases accepted
  | some header =>
      have inBounds := Header.inBounds_of_parse isParsed
      obtain ⟨outcome, isOutcome, keeps⟩ :=
        endpoint.receiveRtp_inBounds aead isParsed now
      rw [receives] at isOutcome
      cases isOutcome
      obtain ⟨unencrypted, built⟩ := keeps received rfl
      have same := serialized_acceptArrival aead inBounds accepted
      refine ⟨header, ⟨Header.parse_of_same_start isParsed same, ?_,
        unencrypted⟩, accepted⟩
      rw [same.length]
      exact built

end Endpoint

/-! ## The setters as writes -/

namespace Packet

theorem overwrite_eq {target source : Bytes} {range : ByteRange}
    (sameLength : range.start + source.length = range.finish) :
    overwrite target range source = Write.apply target ⟨range.start, source⟩ := by
  unfold overwrite Write.apply Write.finish
  rw [sameLength]

/-- The outcome is a packet of the same header, with the writes in its
bytes. -/
def Written (header : Header) (packet : Packet) (writes : List (Write UInt8))
    (outcome : Except Panic Packet) : Prop :=
  ∃ written, outcome = .ok written ∧ written.encrypted = false ∧
    written.BuiltFrom header packet.serialized.length ∧
    written.isRtx = packet.isRtx ∧
    written.serialized = applyWrites packet.serialized writes

variable {header : Header} {packet : Packet}

theorem Written.bind {first : Except Panic Packet}
    {next : Packet → Except Panic Packet} {writes later : List (Write UInt8)}
    (written : Written header packet writes first)
    (continues : ∀ middle, middle.encrypted = false →
      middle.BuiltFrom header middle.serialized.length →
      middle.serialized.length = packet.serialized.length →
      middle.isRtx = packet.isRtx → Written header middle later (next middle)) :
    Written header packet (writes ++ later) (first >>= next) := by
  obtain ⟨middle, rfl, unencrypted, built, sameKind, serialized⟩ := written
  have sameLength := built.length
  rw [← sameLength] at built
  obtain ⟨last, isLast, lastPlain, lastBuilt, lastKind, lastSerialized⟩ :=
    continues middle unencrypted built sameLength sameKind
  rw [sameLength] at lastBuilt
  refine ⟨last, isLast, lastPlain, lastBuilt, lastKind.trans sameKind, ?_⟩
  rw [lastSerialized, serialized, applyWrites_append]

section Setters

variable (built : packet.BuiltFrom header packet.serialized.length)
  (inBounds : header.InBounds packet.serialized.length)
  (unencrypted : packet.encrypted = false)
include built inBounds unencrypted

/-- A write in front of the payload. -/
theorem written_writeInHeader {range : ByteRange} {bytes : Bytes}
    (inside : range.finish ≤ header.payloadRange.start)
    (sameLength : range.start + bytes.length = range.finish) :
    Written header packet [⟨range.start, bytes⟩]
      (packet.writeInHeader range bytes) := by
  have startsBehind := built.payloadRange_start
  have ordered := built.payloadRange_ordered inBounds
  have fits := built.payloadRange_fits inBounds
  have lengthKept : (overwrite packet.serialized range bytes).length =
      packet.serialized.length :=
    length_overwrite (by omega) sameLength
  refine ⟨_, writeInHeader_eq unencrypted (by omega) (by omega) sameLength,
    unencrypted, built.changed lengthKept rfl rfl rfl built.rtx, rfl, ?_⟩
  exact overwrite_eq sameLength

theorem written_setSsrcInHeader (ssrc : Ssrc) :
    Written header packet [⟨rtpSsrcRange.start, toBigEndian 4 ssrc.toNat⟩]
      (packet.setSsrcInHeader ssrc) := by
  have addressed : { packet with ssrcInHeader := ssrc }.BuiltFrom header
      packet.serialized.length := built.changed rfl rfl rfl rfl built.rtx
  exact @written_writeInHeader header { packet with ssrcInHeader := ssrc }
    addressed inBounds unencrypted
    rtpSsrcRange (toBigEndian 4 ssrc.toNat) inBounds.fixed rfl

theorem written_setSeqnumInHeader (seqnum : FullSequenceNumber) :
    Written header packet [⟨rtpSeqnumRange.start, toBigEndian 2 seqnum⟩]
      (packet.setSeqnumInHeader seqnum) := by
  have fixed := inBounds.fixed
  have numbered : { packet with seqnumInHeader := seqnum }.BuiltFrom header
      packet.serialized.length := built.changed rfl rfl rfl rfl built.rtx
  exact @written_writeInHeader header { packet with seqnumInHeader := seqnum }
    numbered inBounds unencrypted
    rtpSeqnumRange (toBigEndian 2 seqnum) (Nat.le_trans (by decide) fixed) rfl

theorem written_setTimestampInHeader (timestamp : TruncatedTimestamp) :
    Written header packet [⟨rtpTimestampRange.start, toBigEndian 4 timestamp.toNat⟩]
      (packet.setTimestampInHeader timestamp) := by
  have fixed := inBounds.fixed
  have stamped : { packet with timestamp := timestamp }.BuiltFrom header
      packet.serialized.length := built.changed rfl rfl rfl rfl built.rtx
  exact @written_writeInHeader header { packet with timestamp := timestamp }
    stamped inBounds unencrypted
    rtpTimestampRange (toBigEndian 4 timestamp.toNat)
    (Nat.le_trans (by decide) fixed) rfl

theorem written_setSeqnumInPayload (isRtx : packet.isRtx = true)
    (seqnum : FullSequenceNumber) :
    Written header packet
      [⟨header.payloadRange.start, toBigEndian 2 seqnum⟩]
      (packet.setSeqnumInPayload seqnum) := by
  have numbered := built.rtx isRtx
  refine ⟨_, setSeqnumInPayload_eq built inBounds unencrypted numbered seqnum,
    unencrypted, ?_, isRtx.symm, overwrite_eq rfl⟩
  refine built.changed ?_ rfl rfl rfl (fun _ => numbered)
  apply length_overwrite
  · have tag := inBounds.tag
    dsimp only
    omega
  · rfl

end Setters

/-- The stream of an RTX packet is the one behind that of the original. -/
def ssrcFor (packet : Packet) (ssrc : Ssrc) : Ssrc :=
  if packet.isRtx then toRtxSsrc ssrc else ssrc

/-- The sequence number of the original is in the payload of an RTX packet. -/
def seqnumStart (packet : Packet) : Nat :=
  if packet.isRtx then packet.payloadRangeInHeader.start
  else rtpSeqnumRange.start

def addressWrites (packet : Packet) (ssrc : Ssrc)
    (seqnum : FullSequenceNumber) (timestamp : TruncatedTimestamp) :
    List (Write UInt8) :=
  [⟨rtpSsrcRange.start, toBigEndian 4 (packet.ssrcFor ssrc).toNat⟩,
    ⟨packet.seqnumStart, toBigEndian 2 seqnum⟩,
    ⟨rtpTimestampRange.start, toBigEndian 4 timestamp.toNat⟩]

theorem written_rewrite
    (built : packet.BuiltFrom header packet.serialized.length)
    (inBounds : header.InBounds packet.serialized.length)
    (unencrypted : packet.encrypted = false) (newSsrc : Ssrc)
    (newSeqnum : FullSequenceNumber) (newTimestamp : TruncatedTimestamp) :
    Written header packet
      (packet.addressWrites newSsrc newSeqnum newTimestamp)
      (packet.rewrite newSsrc newSeqnum newTimestamp) := by
  have boundsAfter : ∀ {middle : Packet},
      middle.serialized.length = packet.serialized.length →
        header.InBounds middle.serialized.length := by
    intro middle sameLength
    rw [sameLength]
    exact inBounds
  unfold rewrite addressWrites ssrcFor seqnumStart
  split
  · rename_i isRtx
    apply (written_setSsrcInHeader built inBounds unencrypted _).bind
    intro addressed addressedPlain addressedBuilt addressedLength sameKind
    have numbers := written_setSeqnumInPayload addressedBuilt
      (boundsAfter addressedLength) addressedPlain (sameKind.trans isRtx)
      newSeqnum
    rw [built.payload]
    apply numbers.bind
    intro numbered numberedPlain numberedBuilt numberedLength _
    exact written_setTimestampInHeader numberedBuilt
      (boundsAfter (numberedLength.trans addressedLength)) numberedPlain _
  · apply (written_setSsrcInHeader built inBounds unencrypted _).bind
    intro addressed addressedPlain addressedBuilt addressedLength _
    apply (written_setSeqnumInHeader addressedBuilt
      (boundsAfter addressedLength) addressedPlain newSeqnum).bind
    intro numbered numberedPlain numberedBuilt numberedLength _
    exact written_setTimestampInHeader numberedBuilt
      (boundsAfter (numberedLength.trans addressedLength)) numberedPlain _

/-! ## What is read afterwards -/

namespace Received

theorem inBounds (received : packet.Received header) :
    header.InBounds packet.serialized.length :=
  Header.inBounds_of_parse received.parsed

theorem parse_written (received : packet.Received header)
    {writes : List (Write UInt8)}
    (inPlaces : ∀ write ∈ writes, ∃ place ∈ header.places,
      place.start ≤ write.start ∧ write.finish ≤ place.finish) :
    Header.parse (applyWrites packet.serialized writes) =
      .ok (some (header.reread (applyWrites packet.serialized writes))) := by
  have inside : ∀ write ∈ writes,
      write.finish ≤ packet.serialized.length := by
    intro write isWrite
    obtain ⟨place, isPlace, _, ends⟩ := inPlaces write isWrite
    exact Nat.le_trans ends (Header.place_fits received.parsed isPlace)
  apply Header.parse_rewritten received.parsed
  refine ⟨length_applyWrites inside, ?_⟩
  intro index outside
  apply getElem?_applyWrites inside
  intro write isWrite covers
  obtain ⟨place, isPlace, starts, ends⟩ := inPlaces write isWrite
  exact outside place isPlace
    ⟨Nat.le_trans starts covers.1, Nat.lt_of_lt_of_le covers.2 ends⟩

end Received

end Packet

end CallingService.Backend.Rtp
