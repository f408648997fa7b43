import CallingService.Backend.Rtp.PacketSetters
import CallingService.Backend.Rtp.SerializedPacket

/-!
# Retransmissions of parsed packets

`to_rtx` moves the sequence number into the payload and the packet to the RTX
stream.  The receiver parses the same header, and unwrapping gives the
original back.
-/

namespace CallingService.Backend.Rtp

open Foundation

/-! ## Headers in front of another payload -/

section SameFront

variable {packet other : Bytes} {first second another : UInt8}
  {values : ExtensionValues} {payloadStart : Nat}

theorem slice_of_same {start finish lower upper : Nat}
    (same : ∀ index, lower ≤ index → index < upper →
      other[index]? = packet[index]?)
    (above : lower ≤ start) (below : finish ≤ upper) :
    slice start finish other = slice start finish packet := by
  apply slice_congr
  intro index atLeast before
  exact same index (Nat.le_trans above atLeast)
    (Nat.lt_of_lt_of_le before below)

/-- Of the bytes behind the first two, the layout depends on those between
the fixed header and the payload. -/
theorem Laid.same_front (laid : Laid packet first second values payloadStart)
    (bytes : ∃ rest, other = first :: another :: rest)
    (long : payloadStart ≤ other.length)
    (same : ∀ index, rtpMinHeaderLen ≤ index → index < payloadStart →
      other[index]? = packet[index]?) :
    Laid other first another values payloadStart := by
  have start := laid.extensionsStart_le
  have fixed : rtpMinHeaderLen ≤ extensionsStartOf first :=
    Nat.le_add_right _ _
  have four : rtpExtensionsHeaderLen = 4 := rfl
  refine ⟨bytes, by omega, by omega, ?_⟩
  rcases laid.extensions with ⟨extended, total, isStart, found⟩ | plain
  · obtain ⟨profile, length, block, rfl⟩ := parseExtensionBlock_iff.mp found
    obtain ⟨isProfile, isLength, inside, parsed⟩ := block
    refine .inl ⟨extended, _, isStart, parseExtensionBlock_iff.mpr
      ⟨profile, length, ⟨?_, ?_, ?_, ?_⟩, rfl⟩⟩
    · rw [← isProfile, take_drop_eq_slice, take_drop_eq_slice]
      rw [slice_of_same same fixed (by omega)]
    · rw [← isLength, List.drop_drop, List.drop_drop, take_drop_eq_slice,
        take_drop_eq_slice]
      rw [slice_of_same same (by omega) (by omega)]
    · rw [List.length_drop]
      omega
    · rw [← parsed, List.drop_drop, List.drop_drop, take_drop_eq_slice,
        take_drop_eq_slice]
      rw [slice_of_same same (by omega) (by omega)]
  · exact .inr plain

end SameFront

namespace Header

variable {packet other : Bytes} {header : Header}

/-- The same header in front of another payload. -/
theorem parse_same_front (parsed : parse packet = .ok (some header))
    (noPadding : header.hasPadding = false)
    (long : header.payloadRange.start + srtpAuthTagLen ≤ other.length)
    (same : ∀ index, index < header.payloadRange.start →
      other[index]? = packet[index]?) :
    parse other = .ok (some { header with
      payloadRange := ⟨header.payloadRange.start,
        other.length - srtpAuthTagLen⟩ }) := by
  obtain ⟨first, second, values, payloadStart, laid, built⟩ :=
    parse_iff.mp parsed
  have start := laid.extensionsStart_le
  have fixed : rtpMinHeaderLen ≤ extensionsStartOf first :=
    Nat.le_add_right _ _
  have twelve : rtpMinHeaderLen = 12 := rfl
  unfold buildHeader at built
  dsimp only at built
  split at built
  · cases built
  · split at built
    · cases built
    · cases built
      dsimp only at noPadding long same
      have sameSlice : ∀ {start finish}, finish ≤ payloadStart →
          slice start finish other = slice start finish packet :=
        fun below => slice_of_same (fun index _ => same index)
          (Nat.zero_le _) below
      have bytes : ∃ rest, other = first :: second :: rest :=
        firstBytes_kept laid.bytes (fun index early => same index (by omega))
      have notPadded : ¬ (first &&& 0b00100000 ≠ 0) := by
        simpa using noPadding
      apply parse_iff.mpr
      refine ⟨first, second, values, payloadStart, laid.same_front bytes
        (by omega) (fun index _ => same index), ?_⟩
      unfold buildHeader
      dsimp only
      rw [if_neg (Nat.not_lt.mpr long), if_neg (fun padded =>
        notPadded padded.1)]
      simp only [take_drop_eq_slice]
      rw [sameSlice (by omega), sameSlice (by omega), sameSlice (by omega)]

/-- The second byte has the marker and the payload type. -/
theorem parse_second_byte (parsed : parse packet = .ok (some header))
    (second : UInt8) :
    parse (overwrite packet ⟨1, 2⟩ [second]) =
      .ok (some { header with
        marker := second &&& 0b10000000 ≠ 0
        payloadType := second &&& 0b01111111 }) := by
  obtain ⟨first, old, values, payloadStart, laid, built⟩ :=
    parse_iff.mp parsed
  obtain ⟨rest, isPacket⟩ := laid.bytes
  have start := laid.extensionsStart_le
  have fixed : rtpMinHeaderLen ≤ extensionsStartOf first :=
    Nat.le_add_right _ _
  have twelve : rtpMinHeaderLen = 12 := rfl
  have isWritten : overwrite packet ⟨1, 2⟩ [second] =
      first :: second :: rest := by
    rw [isPacket]
    rfl
  have sameLength : (first :: second :: rest).length = packet.length := by
    rw [isPacket]
    rfl
  have same : ∀ index, 2 ≤ index → index < payloadStart →
      (first :: second :: rest)[index]? = packet[index]? := by
    intro index behind _
    rw [isPacket]
    match index, behind with
    | index + 2, _ => rfl
  have sameSlice : ∀ {start finish}, 2 ≤ start → finish ≤ payloadStart →
      slice start finish (first :: second :: rest) =
        slice start finish packet :=
    fun behind below => slice_of_same same behind below
  rw [isWritten]
  unfold buildHeader at built
  dsimp only at built
  split at built
  · cases built
  · rename_i tagFits
    split at built
    · cases built
    · rename_i padded
      cases built
      have long : payloadStart ≤ (first :: second :: rest).length := by omega
      have again := laid.same_front ⟨rest, rfl⟩ long
        (fun index behind => same index (by omega))
      apply parse_iff.mpr
      refine ⟨first, second, values, payloadStart, again, ?_⟩
      unfold buildHeader
      dsimp only
      rw [sameLength, if_neg tagFits, if_neg padded]
      simp only [take_drop_eq_slice]
      rw [sameSlice (by omega) (by omega), sameSlice (by omega) (by omega),
        sameSlice (by omega) (by omega)]

end Header

/-! ## Packets with the values of their header -/

/-- A packet that is kept as it has been parsed. -/
structure Packet.ParsedAs (header : Header) (packet : Packet) : Prop where
  received : packet.Received header
  marker : packet.marker = header.marker
  payloadType : packet.payloadTypeInHeader = header.payloadType
  ssrc : packet.ssrcInHeader = header.ssrc
  seqnum : packet.seqnumInHeader.toUInt16 = header.seqnum
  timestamp : packet.timestamp = header.timestamp
  videoRotation : packet.videoRotation = header.videoRotation
  audioLevel : packet.audioLevel = header.audioLevel

namespace Endpoint

theorem toUInt16_expandSeqnum (seqnum : TruncatedSequenceNumber)
    (maxSeqnum : FullSequenceNumber) :
    (expandSeqnum seqnum maxSeqnum).1.toUInt16 = seqnum := by
  have wrapped : (expandSeqnum seqnum maxSeqnum).1.toUInt16.toNat =
      (expandSeqnum seqnum maxSeqnum).1 % 2 ^ 16 := UInt16.toNat_ofNat'
  apply UInt16.toNat_inj.mp
  rw [wrapped]
  unfold expandSeqnum
  rw [expandTruncatedCounter_fst_mod (by decide),
    Nat.mod_eq_of_lt seqnum.toNat_lt]

theorem decryptInPlace_fields {aead : Aead} {keys : KeyAndSalt}
    {encrypted decrypted : Packet}
    (opened : encrypted.decryptInPlace aead keys = .ok (some decrypted)) :
    decrypted = { encrypted with
      encrypted := false
      serialized := decrypted.serialized } := by
  obtain ⟨_, _, opened⟩ := bind_eq_ok_iff.mp opened
  obtain ⟨parts, _, opened⟩ := bind_eq_ok_iff.mp opened
  obtain ⟨_, _, opened⟩ := bind_eq_ok_iff.mp opened
  split at opened
  · cases opened
  · cases opened
    rfl

/-- What is accepted has the values of its header and its expanded number. -/
theorem acceptArrival_fields (aead : Aead) {recorded : Endpoint × Arrival}
    {header : Header} {encrypted : Bytes} {now : Instant} {after : Endpoint}
    {received : Packet}
    (accepted : acceptArrival aead recorded header encrypted now =
      .ok (after, some received)) :
    received = { incomingPacket header recorded.2 encrypted now with
      seqnumInPayload := received.seqnumInPayload
      encrypted := received.encrypted
      paddingByteCount := received.paddingByteCount
      serialized := received.serialized } := by
  obtain ⟨decrypted, opened, same⟩ := acceptArrival_eq_some accepted
  rw [same, decryptInPlace_fields opened]

end Endpoint

/-- What `receive_rtp` returns is kept as it has been parsed. -/
theorem Endpoint.receiveRtp_parsedAs (aead : Aead)
    {endpoint after : Endpoint} {encrypted : Bytes} {now : Instant}
    {received : Packet}
    (receives : endpoint.receiveRtp aead encrypted now =
      .ok (after, some received)) :
    ∃ header, received.ParsedAs header := by
  obtain ⟨header, isReceived, accepted⟩ :=
    Endpoint.receiveRtp_received aead receives
  have fields := acceptArrival_fields aead accepted
  refine ⟨header, isReceived, ?_, ?_, ?_, ?_, ?_, ?_, ?_⟩
  · rw [fields]
    rfl
  · rw [fields]
    rfl
  · rw [fields]
    rfl
  · rw [fields]
    exact toUInt16_expandSeqnum _ _
  · rw [fields]
    rfl
  · rw [fields]
    rfl
  · rw [fields]
    rfl

/-! ## To the RTX stream -/

namespace Packet

variable {header : Header} {packet : Packet}

/-- The header of a retransmission. -/
def rtxHeader (header : Header) (rtxSeqnum : FullSequenceNumber) : Header :=
  { header with
    payloadType := toRtxPayloadType header.payloadType
    seqnum := rtxSeqnum.toUInt16
    ssrc := toRtxSsrc header.ssrc
    payloadRange :=
      ⟨header.payloadRange.start, header.payloadRange.finish + 2⟩ }

section ToRtx

variable (parsedAs : packet.ParsedAs header) (notRtx : packet.isRtx = false)
include parsedAs notRtx

theorem header_eq : packet.header =
    .ok (packet.serialized.take header.payloadRange.start) := by
  have built := parsedAs.received.built
  have inBounds := parsedAs.received.inBounds
  unfold Packet.header payloadRange
  rw [notRtx, if_neg Bool.false_ne_true, built.payload]
  exact sliceSerialized_inBounds built inBounds (Nat.zero_le _)
    inBounds.payload

theorem payload_eq : packet.payload =
    .ok (header.payloadRange.slice packet.serialized) := by
  have built := parsedAs.received.built
  have inBounds := parsedAs.received.inBounds
  unfold Packet.payload payloadRange
  rw [notRtx, if_neg Bool.false_ne_true, built.payload]
  exact sliceSerialized_inBounds built inBounds inBounds.payload
    (Nat.le_refl _)

end ToRtx

/-- The bytes of a retransmission before its header is written. -/
def shiftedBytes (header : Header) (packet : Packet) : Bytes :=
  packet.serialized.take header.payloadRange.start ++
    toBigEndian 2 packet.seqnumInHeader ++
      header.payloadRange.slice packet.serialized ++
        List.replicate srtpAuthTagLen 0

/-- The header of these bytes. -/
def shiftedHeader (header : Header) : Header :=
  { header with
    payloadRange :=
      ⟨header.payloadRange.start, header.payloadRange.finish + 2⟩ }

section Shifted

variable (received : packet.Received header)
include received

theorem length_front :
    (packet.serialized.take header.payloadRange.start).length =
      header.payloadRange.start := by
  have inBounds := received.inBounds
  have ordered := inBounds.payload
  have tag := inBounds.tag
  apply List.length_take_of_le
  omega

theorem length_shiftedBytes :
    (shiftedBytes header packet).length =
      header.payloadRange.finish + 2 + srtpAuthTagLen := by
  have inBounds := received.inBounds
  have ordered := inBounds.payload
  have tag := inBounds.tag
  have payloadLength : (header.payloadRange.slice packet.serialized).length =
      header.payloadRange.finish - header.payloadRange.start :=
    length_slice_of_le (by omega)
  unfold shiftedBytes
  simp only [List.length_append, length_front received, length_toBigEndian,
    payloadLength, List.length_replicate]
  omega

theorem parse_shiftedBytes (noPadding : header.hasPadding = false) :
    Header.parse (shiftedBytes header packet) =
      .ok (some (shiftedHeader header)) := by
  have inBounds := received.inBounds
  have ordered := inBounds.payload
  have length := length_shiftedBytes received
  have front := length_front received
  have again := @Header.parse_same_front packet.serialized
    (shiftedBytes header packet) header received.parsed noPadding
    (by rw [length]; omega) (by
      intro index early
      unfold shiftedBytes
      rw [List.append_assoc, List.append_assoc,
        List.getElem?_append_left (by omega), List.getElem?_take,
        if_pos early])
  rw [length, Nat.add_sub_cancel] at again
  exact again

/-- The number comes first in the payload. -/
theorem payload_shiftedBytes :
    (shiftedHeader header).payloadRange.slice (shiftedBytes header packet) =
      toBigEndian 2 packet.seqnumInHeader ++
        header.payloadRange.slice packet.serialized := by
  have inBounds := received.inBounds
  have ordered := inBounds.payload
  have tag := inBounds.tag
  have payloadLength : (header.payloadRange.slice packet.serialized).length =
      header.payloadRange.finish - header.payloadRange.start :=
    length_slice_of_le (by omega)
  unfold shiftedBytes
  rw [List.append_assoc, List.append_assoc, ← List.append_assoc
    (toBigEndian 2 packet.seqnumInHeader)]
  apply slice_middle (length_front received)
  rw [List.length_append, length_toBigEndian, payloadLength]
  unfold shiftedHeader
  dsimp only
  omega

end Shifted

/-- The packet that `to_rtx` writes the header of. -/
def shifted (header : Header) (packet : Packet)
    (rtxSeqnum : FullSequenceNumber) : Packet :=
  { packet with
    payloadTypeInHeader := toRtxPayloadType packet.payloadTypeInHeader
    ssrcInHeader := toRtxSsrc packet.ssrcInHeader
    seqnumInHeader := rtxSeqnum
    seqnumInPayload := some packet.seqnumInHeader
    payloadRangeInHeader := ⟨packet.payloadRangeInHeader.start,
      packet.payloadRangeInHeader.finish + 2⟩
    serialized := shiftedBytes header packet }

theorem toRtx_eq (parsedAs : packet.ParsedAs header)
    (notRtx : packet.isRtx = false) (rtxSeqnum : FullSequenceNumber) :
    packet.toRtx rtxSeqnum = (do
      let typed ← (shifted header packet rtxSeqnum).setPayloadTypeInHeader
        (toRtxPayloadType packet.payloadTypeInHeader)
      let addressed ← typed.setSsrcInHeader typed.ssrcInHeader
      addressed.setSeqnumInHeader addressed.seqnumInHeader) := by
  unfold toRtx
  rw [notRtx, if_neg Bool.false_ne_true, header_eq parsedAs notRtx, ok_bind,
    payload_eq parsedAs notRtx, ok_bind]
  rfl

/-- The header of the shifted packet with its payload type. -/
def typedHeader (header : Header) : Header :=
  { shiftedHeader header with
    payloadType := toRtxPayloadType header.payloadType }

theorem shifted_builtFrom (parsedAs : packet.ParsedAs header)
    (rtxSeqnum : FullSequenceNumber) :
    (shifted header packet rtxSeqnum).BuiltFrom (shiftedHeader header)
      (shiftedBytes header packet).length where
  length := rfl
  payload := by
    unfold shifted shiftedHeader
    rw [parsedAs.received.built.payload]
  tcc := parsedAs.received.built.tcc
  descriptor := parsedAs.received.built.descriptor
  rtx := fun _ => Nat.add_le_add_right parsedAs.received.inBounds.payload 2

/-- The marker goes into the top bit of a small payload type. -/
theorem typeByte (marker : Bool) {pt : PayloadType} (small : pt < 128) :
    ((((if marker then 128 else 0) ||| pt) &&& 0b10000000 ≠ 0 : Bool)) =
        marker ∧
      ((if marker then 128 else 0) ||| pt) &&& 0b01111111 = pt := by
  have low : pt &&& 0b01111111 = pt := by
    apply UInt8.toNat_inj.mp
    rw [UInt8.toNat_and]
    exact (Nat.and_two_pow_sub_one_eq_mod pt.toNat 7).trans
      (Nat.mod_eq_of_lt small)
  have high : pt &&& 0b10000000 = 0 := by
    rw [← low, UInt8.and_assoc]
    exact UInt8.and_zero
  have distributes : ∀ top mask : UInt8,
      (top ||| pt) &&& mask = (top &&& mask) ||| (pt &&& mask) :=
    fun top mask => UInt8.toBitVec_inj.mp BitVec.and_or_distrib_right
  rw [distributes, distributes, low, high]
  cases marker with
  | true => exact ⟨rfl, UInt8.zero_or⟩
  | false => exact ⟨rfl, UInt8.zero_or⟩

/-- The byte of the marker and the new payload type. -/
def rtxTypeByte (packet : Packet) : UInt8 :=
  (if packet.marker then 128 else 0) |||
    toRtxPayloadType packet.payloadTypeInHeader

/-- The shifted packet with its payload type written. -/
def typed (header : Header) (packet : Packet)
    (rtxSeqnum : FullSequenceNumber) : Packet :=
  { shifted header packet rtxSeqnum with
    serialized := overwrite (shiftedBytes header packet) ⟨1, 2⟩
      [rtxTypeByte packet] }

section Typed

variable (parsedAs : packet.ParsedAs header)
  (noPadding : header.hasPadding = false) (rtxSeqnum : FullSequenceNumber)
include parsedAs noPadding

theorem fits_shiftedBytes : 2 ≤ (shiftedBytes header packet).length := by
  have parsed := parse_shiftedBytes parsedAs.received noPadding
  have long := Header.fixed_fits (Header.inBounds_of_parse parsed)
  exact Nat.le_trans (by decide) long

theorem sameOutside_typed :
    SameOutside [⟨1, 2⟩] (shiftedBytes header packet)
      (typed header packet rtxSeqnum).serialized := by
  have fits := fits_shiftedBytes parsedAs noPadding
  refine ⟨length_overwrite fits rfl, ?_⟩
  intro index apart
  have isWrite : overwrite (shiftedBytes header packet) ⟨1, 2⟩
      [rtxTypeByte packet] =
        Write.apply (shiftedBytes header packet) ⟨1, [rtxTypeByte packet]⟩ :=
    overwrite_eq rfl
  have inside : (⟨1, [rtxTypeByte packet]⟩ : Write UInt8).finish ≤
      (shiftedBytes header packet).length := fits
  unfold typed
  rw [isWrite]
  apply Write.getElem?_apply inside
  intro covers
  exact apart ⟨1, 2⟩ List.mem_cons_self covers

theorem setPayloadTypeInHeader_shifted :
    (shifted header packet rtxSeqnum).setPayloadTypeInHeader
        (toRtxPayloadType packet.payloadTypeInHeader) =
      .ok (typed header packet rtxSeqnum) := by
  have parsed := parse_shiftedBytes parsedAs.received noPadding
  have inBounds := Header.inBounds_of_parse parsed
  have built := shifted_builtFrom parsedAs rtxSeqnum
  have fixed := inBounds.fixed
  have twelve : rtpMinHeaderLen = 12 := rfl
  have start := built.payloadRange_start
  have early : 2 ≤ (shifted header packet rtxSeqnum).payloadRange.start := by
    omega
  have fits := Nat.le_trans (built.payloadRange_ordered inBounds)
    (built.payloadRange_fits inBounds)
  exact @writeInHeader_eq (shifted header packet rtxSeqnum) ⟨1, 2⟩
    [rtxTypeByte packet] parsedAs.received.unencrypted early fits rfl

theorem typed_received
    (small : toRtxPayloadType header.payloadType < 128) :
    (typed header packet rtxSeqnum).Received (typedHeader header) := by
  have parsed := parse_shiftedBytes parsedAs.received noPadding
  have built := shifted_builtFrom parsedAs rtxSeqnum
  have sameLength := (sameOutside_typed parsedAs noPadding rtxSeqnum).length
  have byte := Header.parse_second_byte parsed (rtxTypeByte packet)
  obtain ⟨marker, type⟩ := typeByte header.marker small
  unfold rtxTypeByte at byte
  rw [parsedAs.marker, parsedAs.payloadType, marker, type] at byte
  have bytes : (typed header packet rtxSeqnum).serialized =
      overwrite (shiftedBytes header packet) ⟨1, 2⟩
        [(if header.marker then 128 else 0) |||
          toRtxPayloadType header.payloadType] := by
    unfold typed rtxTypeByte
    rw [parsedAs.marker, parsedAs.payloadType]
  refine ⟨bytes ▸ byte, ?_, parsedAs.received.unencrypted⟩
  rw [sameLength]
  exact ⟨sameLength, built.payload, built.tcc, built.descriptor, built.rtx⟩

/-- The retransmission has the stream and the number that it is given, and
the original number in front of its payload. -/
theorem toRtx_parse (notRtx : packet.isRtx = false)
    (small : toRtxPayloadType header.payloadType < 128) :
    ∃ rtx, packet.toRtx rtxSeqnum = .ok rtx ∧
      Header.parse rtx.serialized = .ok (some (rtxHeader header rtxSeqnum)) ∧
      (rtxHeader header rtxSeqnum).payloadRange.slice rtx.serialized =
        toBigEndian 2 packet.seqnumInHeader ++
          header.payloadRange.slice packet.serialized := by
  have received := typed_received parsedAs noPadding rtxSeqnum small
  have inBounds := received.inBounds
  obtain ⟨rtx, wrote⟩ := @Received.exists_applySetters _ _ received
    [.ssrcInHeader (toRtxSsrc header.ssrc), .seqnumInHeader rtxSeqnum]
    (by simp)
  obtain ⟨again, -, -, same⟩ := received.reparse wrote rfl
  refine ⟨rtx, ?_, again, ?_⟩
  · rw [toRtx_eq parsedAs notRtx,
      setPayloadTypeInHeader_shifted parsedAs noPadding, ok_bind]
    have isSsrc : (typed header packet rtxSeqnum).ssrcInHeader =
        toRtxSsrc header.ssrc := congrArg toRtxSsrc parsedAs.ssrc
    obtain ⟨addressed, setSsrc, rest⟩ := bind_eq_ok_iff.mp wrote
    obtain ⟨numbered, setSeqnum, last⟩ := bind_eq_ok_iff.mp rest
    cases last
    have setsSsrc : (typed header packet rtxSeqnum).setSsrcInHeader
        (toRtxSsrc header.ssrc) = .ok addressed := setSsrc
    obtain ⟨-, others, -⟩ := writeInHeader_eq_ok setsSsrc
    have isSeqnum : addressed.seqnumInHeader = rtxSeqnum := by
      rw [others]
      rfl
    rw [isSsrc, setsSsrc, ok_bind, isSeqnum]
    exact setSeqnum
  · rw [← payload_shiftedBytes parsedAs.received]
    have fixed := inBounds.fixed
    have behind : ∀ place ∈ [rtpSsrcRange, rtpSeqnumRange],
        place.finish ≤ rtpMinHeaderLen := by decide
    have typedSame := sameOutside_typed parsedAs noPadding rtxSeqnum
    have afterSetters := @SameOutside.slice_eq _ _ _ same
      header.payloadRange.start (header.payloadRange.finish + 2) (by
        intro place isPlace
        exact .inl (Nat.le_trans (behind place isPlace) fixed))
    have afterType := @SameOutside.slice_eq _ _ _ typedSame
      header.payloadRange.start (header.payloadRange.finish + 2) (by
        intro place isPlace
        rw [List.mem_singleton.mp isPlace]
        exact .inl (Nat.le_trans (by decide) fixed))
    exact afterSetters.trans afterType

end Typed

end Packet

/-! ## Unwrapping -/

namespace Endpoint

/-- The packet of a header after its decryption. -/
def decryptedPacket (header : Header) (arrival : Arrival) (plain : Bytes)
    (now : Instant) : Packet :=
  { incomingPacket header arrival plain now with encrypted := false }

variable {header : Header} {arrival : Arrival} {plain : Bytes}
  {now : Instant}

theorem payload_decryptedPacket (inBounds : header.InBounds plain.length) :
    (decryptedPacket header arrival plain now).payload =
      .ok (header.payloadRange.slice plain) := by
  have tag := inBounds.tag
  have ordered := inBounds.payload
  unfold Packet.payload Packet.sliceSerialized
  change (if header.payloadRange.finish < header.payloadRange.start ∨
    plain.length < header.payloadRange.finish then _ else _) = _
  rw [if_neg (by omega)]
  rfl

/-- An RTX packet is accepted with the number in its payload. -/
theorem acceptDecrypted_rtx (endpoint : Endpoint)
    (inBounds : header.InBounds plain.length)
    (noPadding : header.hasPadding = false)
    (isRtx : isRtxPayloadType header.payloadType = true)
    {seqnum : FullSequenceNumber} {payload : Bytes}
    (isPayload : header.payloadRange.slice plain =
      toBigEndian 2 seqnum ++ payload) :
    ∃ after number, number.toUInt16 = seqnum.toUInt16 ∧
      endpoint.acceptDecrypted header
        (decryptedPacket header arrival plain now) now =
          .ok (after, some { decryptedPacket header arrival plain now with
            seqnumInPayload := some number }) := by
  have padded : readPaddingByteCount header
      (decryptedPacket header arrival plain now) =
        .ok (decryptedPacket header arrival plain now) := by
    unfold readPaddingByteCount
    rw [noPadding, if_neg Bool.false_ne_true]
  have number := fromBigEndian_toBigEndian 2 seqnum
  obtain ⟨high, low, isNumber⟩ :=
    List.length_eq_two.mp (length_toBigEndian 2 seqnum)
  have whole := @payload_decryptedPacket header arrival plain now inBounds
  rw [isPayload, isNumber] at whole
  rw [isNumber] at number
  have unwraps : endpoint.unwrapRtx header
      (decryptedPacket header arrival plain now) now =
        .ok (endpoint.setIncomingSsrcState (fromRtxSsrc header.ssrc)
          { endpoint.incomingSsrcState (fromRtxSsrc header.ssrc) now with
            maxSeqnum := (expandSeqnum (fromBigEndian [high, low]).toUInt16
              (endpoint.incomingSsrcState (fromRtxSsrc header.ssrc)
                now).maxSeqnum).2 },
          some { decryptedPacket header arrival plain now with
            seqnumInPayload := some (expandSeqnum
              (fromBigEndian [high, low]).toUInt16
              (endpoint.incomingSsrcState (fromRtxSsrc header.ssrc)
                now).maxSeqnum).1 }) := by
    unfold unwrapRtx
    rw [if_pos isRtx, whole, ok_bind]
    rfl
  unfold acceptDecrypted
  rw [padded, ok_bind, unwraps, ok_bind]
  refine ⟨_, _, ?_, rfl⟩
  rw [toUInt16_expandSeqnum, number]
  exact UInt16.ofNat_mod_size

end Endpoint

/-- What the receiver of a retransmission sees of the original. -/
structure Packet.Recovers (original unwrapped : Packet) : Prop where
  ssrc : unwrapped.ssrc = original.ssrc
  payloadType : unwrapped.payloadType = original.payloadType
  seqnum : unwrapped.seqnum.toUInt16 = original.seqnum.toUInt16
  marker : unwrapped.marker = original.marker
  timestamp : unwrapped.timestamp = original.timestamp
  videoRotation : unwrapped.videoRotation = original.videoRotation
  audioLevel : unwrapped.audioLevel = original.audioLevel
  descriptor : unwrapped.dependencyDescriptor = original.dependencyDescriptor
  tcc : unwrapped.tccSeqnumRange = original.tccSeqnumRange
  payload : unwrapped.payload = original.payload

theorem recovers_of_rtx {header : Header} {packet rtx : Packet}
    {rtxSeqnum number : FullSequenceNumber} {arrival : Endpoint.Arrival}
    {now : Instant} (parsedAs : packet.ParsedAs header)
    (notRtx : packet.isRtx = false)
    (isPayload :
      (Packet.rtxHeader header rtxSeqnum).payloadRange.slice rtx.serialized =
        toBigEndian 2 packet.seqnumInHeader ++
          header.payloadRange.slice packet.serialized)
    (inBounds : (Packet.rtxHeader header rtxSeqnum).InBounds
      rtx.serialized.length)
    (same : number.toUInt16 = packet.seqnumInHeader.toUInt16) :
    packet.Recovers { Endpoint.decryptedPacket
      (Packet.rtxHeader header rtxSeqnum) arrival rtx.serialized now with
        seqnumInPayload := some number } := by
  have tag := inBounds.tag
  have ordered := parsedAs.received.inBounds.payload
  have isNone : packet.seqnumInPayload = none :=
    Option.isSome_eq_false_iff.mp notRtx |> Option.isNone_iff_eq_none.mp
  have built := parsedAs.received.built
  refine ⟨?_, ?_, ?_, parsedAs.marker.symm, parsedAs.timestamp.symm,
    parsedAs.videoRotation.symm, parsedAs.audioLevel.symm,
    built.descriptor.symm, built.tcc.symm, ?_⟩
  · unfold Packet.ssrc
    rw [notRtx, if_neg Bool.false_ne_true, parsedAs.ssrc]
    exact fromRtxSsrc_toRtxSsrc header.ssrc
  · unfold Packet.payloadType
    rw [notRtx, if_neg Bool.false_ne_true, parsedAs.payloadType]
    exact UInt8.add_sub_cancel header.payloadType rtxPayloadTypeOffset
  · unfold Packet.seqnum
    rw [isNone]
    exact same
  · rw [Packet.payload_eq parsedAs notRtx]
    have behind := congrArg (List.drop 2) isPayload
    have two := length_toBigEndian 2 packet.seqnumInHeader
    rw [List.drop_left' two] at behind
    unfold ByteRange.slice at behind
    rw [drop_slice] at behind
    unfold Packet.payload Packet.sliceSerialized
    change (if header.payloadRange.finish + 2 <
        header.payloadRange.start + 2 ∨
      rtx.serialized.length < header.payloadRange.finish + 2 then _ else _) = _
    have inside : header.payloadRange.finish + 2 + srtpAuthTagLen =
        rtx.serialized.length := tag
    rw [if_neg (by omega)]
    exact congrArg Except.ok behind

/-- A packet that the server makes up parses to what it was made from, and
unwrapping the retransmission of a received one gives it back. -/
theorem written_packets_parse_back :
    (∀ (pt : PayloadType) (seqnum : FullSequenceNumber)
      (timestamp : TruncatedTimestamp) (ssrc : Ssrc)
      (tccSeqnum : Option FullSequenceNumber)
      (deadlineStart : Option Instant) (payload : Bytes),
      pt < 128 → ∀ packet : Packet,
        packet = Packet.withEmptyTag pt seqnum timestamp ssrc tccSeqnum
          deadlineStart payload →
        (tccExtension tccSeqnum >>= fun extensions =>
          writeSerialized false pt seqnum timestamp ssrc extensions .oneByte
            payload) = .ok (packet.serialized, packet.payloadRangeInHeader) ∧
        packet.payload = .ok payload ∧
        Header.parse packet.serialized = .ok (some {
          marker := false
          hasPadding := false
          payloadType := pt
          seqnum := seqnum.toUInt16
          timestamp
          ssrc
          videoRotation := none
          audioLevel := none
          tccSeqnum := tccSeqnum.map Nat.toUInt16
          tccSeqnumRange := packet.tccSeqnumRange
          payloadRange := packet.payloadRangeInHeader
          dependencyDescriptor := none })) ∧
    ∀ (header : Header) (packet : Packet), packet.ParsedAs header →
      packet.isRtx = false → header.payloadType = vp8PayloadType →
      header.hasPadding = false → ∀ rtxSeqnum, ∃ rtx,
        packet.toRtx rtxSeqnum = .ok rtx ∧
        Header.parse rtx.serialized =
          .ok (some (Packet.rtxHeader header rtxSeqnum)) ∧
        ∀ (endpoint : Endpoint) (arrival : Endpoint.Arrival) (now : Instant),
          ∃ after unwrapped,
            endpoint.acceptDecrypted (Packet.rtxHeader header rtxSeqnum)
              (Endpoint.decryptedPacket (Packet.rtxHeader header rtxSeqnum)
                arrival rtx.serialized now) now =
                  .ok (after, some unwrapped) ∧
            packet.Recovers unwrapped := by
  refine ⟨?_, ?_⟩
  · rintro pt seqnum timestamp ssrc tccSeqnum deadlineStart payload small _
      rfl
    exact ⟨Packet.writeSerialized_withEmptyTag pt seqnum timestamp ssrc
        tccSeqnum deadlineStart payload,
      Packet.payload_withEmptyTag pt seqnum timestamp ssrc tccSeqnum
        deadlineStart payload,
      Packet.parse_withEmptyTag small seqnum timestamp ssrc tccSeqnum
        deadlineStart payload⟩
  · intro header packet parsedAs notRtx isVp8 noPadding rtxSeqnum
    have small : toRtxPayloadType header.payloadType < 128 := by
      rw [isVp8]
      decide
    have isRtx : isRtxPayloadType
        (Packet.rtxHeader header rtxSeqnum).payloadType = true := by
      change isRtxPayloadType (toRtxPayloadType header.payloadType) = true
      rw [isVp8]
      decide
    obtain ⟨rtx, made, parsed, isPayload⟩ := Packet.toRtx_parse parsedAs
      noPadding rtxSeqnum notRtx small
    have inBounds := Header.inBounds_of_parse parsed
    refine ⟨rtx, made, parsed, ?_⟩
    intro endpoint arrival now
    obtain ⟨after, number, same, accepted⟩ :=
      @Endpoint.acceptDecrypted_rtx (Packet.rtxHeader header rtxSeqnum)
        arrival rtx.serialized now endpoint inBounds noPadding isRtx _ _
        isPayload
    exact ⟨after, _, accepted,
      recovers_of_rtx parsedAs notRtx isPayload inBounds same⟩

theorem written_packets_parse_back_of_extended_packet :
    (∃ header, Header.parse (Packet.withEmptyTag 101 65537 3 4 (some 65538)
        none [5, 6]).serialized = .ok (some header) ∧
      header.seqnum = 1 ∧ header.tccSeqnum = some 2) ∧
    ∃ header packet rtx, Header.parse extendedPacket = .ok (some header) ∧
      packet = Packet.new header 7 none false none false none 0
        extendedPacket ∧
      packet.toRtx 9 = .ok rtx ∧
      ∀ endpoint arrival now, ∃ after unwrapped,
        Endpoint.acceptDecrypted endpoint (Packet.rtxHeader header 9)
          (Endpoint.decryptedPacket (Packet.rtxHeader header 9) arrival
            rtx.serialized now) now = .ok (after, some unwrapped) ∧
        packet.Recovers unwrapped := by
  obtain ⟨written, retransmitted⟩ := written_packets_parse_back
  refine ⟨?_, ?_⟩
  · obtain ⟨-, -, parsed⟩ := written 101 65537 3 4 (some 65538) none [5, 6]
      (by decide) _ rfl
    exact ⟨_, parsed, by decide, by decide⟩
  · have parsed : ∃ header, Header.parse extendedPacket = .ok (some header) ∧
        header.payloadType = vp8PayloadType ∧ header.hasPadding = false ∧
        (7 : Nat).toUInt16 = header.seqnum :=
      ⟨_, rfl, rfl, rfl, rfl⟩
    obtain ⟨header, isParsed, isVp8, noPadding, seqnum⟩ := parsed
    have received : (Packet.new header 7 none false none false none 0
        extendedPacket).Received header :=
      ⟨isParsed, ⟨rfl, rfl, rfl, rfl, fun isRtx => nomatch isRtx⟩, rfl⟩
    obtain ⟨rtx, made, -, accepted⟩ := retransmitted header
      (Packet.new header 7 none false none false none 0 extendedPacket)
      ⟨received, rfl, rfl, rfl, seqnum, rfl, rfl, rfl⟩ rfl isVp8 noPadding 9
    exact ⟨header, _, rtx, isParsed, rfl, made, accepted⟩

end CallingService.Backend.Rtp
