import CallingService.Backend.Rtp.ControlPacket
import CallingService.Backend.Rtp.HeaderBounds
import CallingService.Backend.Rtp.Packet
import CallingService.Foundation.Slices

/-!
# Serialized packets

`Packet::with_empty_tag` writes the fixed header, at most one extension, the
payload and room for the tag.  The parser finds all of them where the packet
remembers them.
-/

namespace CallingService.Backend.Rtp

open Foundation

/-! ## Writing -/

/-- `write_extension`. -/
def writeExtension (id : UInt8) (value : Bytes) : Except Panic Bytes := do
  ensure (id &&& 0xF = id) (Panic.assertion "id must fit in 4 bits")
  ensure (0 < value.length)
    (Panic.assertion "one-byte extensions do not support empty values")
  ensure (value.length ≤ 16) (Panic.assertion "length must fit in 4 bits")
  return ((id <<< 4) ||| (value.length.toUInt8 - 1)) :: value

def HeaderExtensionsProfile.toNumber : HeaderExtensionsProfile → Nat
  | .oneByte => rtpOneByteExtensionsProfile
  | .twoByte => rtpTwoByteExtensionsProfile

/-- The part of `write_serialized` for the extensions, padded to words. -/
def writeExtensionBlock (extensions : Bytes)
    (profile : HeaderExtensionsProfile) : Except Panic Bytes :=
  if extensions.length = 0 then .ok []
  else do
    let paddedLen := roundUpToMultipleOfFour extensions.length
    let paddingLen := paddedLen - extensions.length
    ensure (paddedLen / 4 < 2 ^ 16) (Panic.assertion "too many extensions")
    ensure (paddingLen ≤ 3) Panic.outOfBounds
    return toBigEndian 2 profile.toNumber ++
      (toBigEndian 2 (paddedLen / 4) ++
        (extensions ++ List.replicate paddingLen 0))

/-- The first twelve bytes. -/
def fixedHeader (first second : UInt8) (seqnum : FullSequenceNumber)
    (timestamp : TruncatedTimestamp) (ssrc : Ssrc) : Bytes :=
  first :: second :: (toBigEndian 2 seqnum ++
    (toBigEndian 4 timestamp.toNat ++ toBigEndian 4 ssrc.toNat))

/-- `Packet::write_serialized`: the bytes and the range of the payload.  The
vector is filled up to its capacity. -/
def writeSerialized (marker : Bool) (pt : PayloadType)
    (seqnum : FullSequenceNumber) (timestamp : TruncatedTimestamp)
    (ssrc : Ssrc) (extensions : Bytes) (profile : HeaderExtensionsProfile)
    (payload : Bytes) : Except Panic (Bytes × ByteRange) := do
  let hasPadding : UInt8 := 0
  let hasExtensions : UInt8 := if extensions.length ≠ 0 then 1 else 0
  let csrcCount : UInt8 := 0
  let first := (version <<< 6) ||| (hasPadding <<< 5) |||
    (hasExtensions <<< 4) ||| (csrcCount &&& 0b1111)
  let second := ((if marker then 1 else 0 : UInt8) <<< 7) |||
    (pt &&& 0b1111111)
  let block ← writeExtensionBlock extensions profile
  let header := fixedHeader first second seqnum timestamp ssrc ++ block
  let capacity := header.length + payload.length + srtpAuthTagLen
  let written := header ++ payload
  return (written ++ List.replicate (capacity - written.length) 0,
    ⟨header.length, written.length⟩)

/-- The extensions that `with_empty_tag` passes on. -/
def tccExtension : Option FullSequenceNumber → Except Panic Bytes
  | none => .ok []
  | some tccSeqnum =>
      writeExtension rtpExtIdTccSeqnum.toUInt8 (toBigEndian 2 tccSeqnum)

@[simp]
theorem length_fixedHeader (first second : UInt8)
    (seqnum : FullSequenceNumber) (timestamp : TruncatedTimestamp)
    (ssrc : Ssrc) :
    (fixedHeader first second seqnum timestamp ssrc).length =
      rtpMinHeaderLen := by
  simp [fixedHeader, rtpMinHeaderLen]

/-- What is left of the capacity is the tag. -/
theorem length_serialized_tail (header payload : Bytes) :
    header.length + payload.length + srtpAuthTagLen -
      (header ++ payload).length = srtpAuthTagLen := by
  rw [List.length_append, Nat.add_sub_cancel_left]

namespace Packet

theorem writeExtension_tcc (tccSeqnum : FullSequenceNumber) :
    writeExtension rtpExtIdTccSeqnum.toUInt8 (toBigEndian 2 tccSeqnum) =
      .ok (0x11 :: toBigEndian 2 tccSeqnum) := by
  unfold writeExtension
  rw [length_toBigEndian]
  generalize toBigEndian 2 tccSeqnum = value
  rfl

theorem writeExtensionBlock_tcc (tccSeqnum : FullSequenceNumber) :
    writeExtensionBlock (0x11 :: toBigEndian 2 tccSeqnum) .oneByte =
      .ok (tccExtensionBlock tccSeqnum) := by
  have three : (0x11 :: toBigEndian 2 tccSeqnum).length = 3 := by
    rw [List.length_cons, length_toBigEndian]
  unfold writeExtensionBlock tccExtensionBlock
  rw [three]
  generalize toBigEndian 2 tccSeqnum = value
  rfl

/-- The bytes of a packet with an empty tag, part by part. -/
theorem withEmptyTag_serialized (pt : PayloadType)
    (seqnum : FullSequenceNumber) (timestamp : TruncatedTimestamp)
    (ssrc : Ssrc) (tccSeqnum : Option FullSequenceNumber)
    (deadlineStart : Option Instant) (payload : Bytes) :
    (withEmptyTag pt seqnum timestamp ssrc tccSeqnum deadlineStart
        payload).serialized =
      fixedHeader (if tccSeqnum.isSome then 0x90 else 0x80) (pt &&& 127)
          seqnum timestamp ssrc ++
        (tccSeqnum.elim [] tccExtensionBlock ++
          (payload ++ List.replicate srtpAuthTagLen 0)) := by
  simp [withEmptyTag, fixedHeader]

theorem withEmptyTag_payloadRange (pt : PayloadType)
    (seqnum : FullSequenceNumber) (timestamp : TruncatedTimestamp)
    (ssrc : Ssrc) (tccSeqnum : Option FullSequenceNumber)
    (deadlineStart : Option Instant) (payload : Bytes) :
    (withEmptyTag pt seqnum timestamp ssrc tccSeqnum deadlineStart
        payload).payloadRangeInHeader =
      ⟨rtpMinHeaderLen + (tccSeqnum.elim [] tccExtensionBlock).length,
        rtpMinHeaderLen + (tccSeqnum.elim [] tccExtensionBlock).length +
          payload.length⟩ := by
  simp only [withEmptyTag, List.length_append, List.length_cons,
    List.length_nil, length_toBigEndian]
  rfl

/-- It is what `write_serialized` writes. -/
theorem writeSerialized_withEmptyTag (pt : PayloadType)
    (seqnum : FullSequenceNumber) (timestamp : TruncatedTimestamp)
    (ssrc : Ssrc) (tccSeqnum : Option FullSequenceNumber)
    (deadlineStart : Option Instant) (payload : Bytes) :
    (do
      let extensions ← tccExtension tccSeqnum
      writeSerialized false pt seqnum timestamp ssrc extensions .oneByte
        payload) =
      .ok ((withEmptyTag pt seqnum timestamp ssrc tccSeqnum deadlineStart
          payload).serialized,
        (withEmptyTag pt seqnum timestamp ssrc tccSeqnum deadlineStart
          payload).payloadRangeInHeader) := by
  have noMarker : ((if false then 1 else 0 : UInt8) <<< 7) |||
      (pt &&& 0b1111111) = pt &&& 127 := UInt8.zero_or
  rw [withEmptyTag_serialized, withEmptyTag_payloadRange]
  cases tccSeqnum with
  | none =>
      change writeSerialized false pt seqnum timestamp ssrc [] .oneByte
        payload = _
      unfold writeSerialized writeExtensionBlock
      dsimp only
      rw [noMarker, if_pos List.length_nil, ok_bind, length_serialized_tail]
      simp only [List.append_nil, List.append_assoc, List.length_append,
        length_fixedHeader]
      rfl
  | some tccSeqnum =>
      unfold tccExtension
      dsimp only
      rw [writeExtension_tcc, ok_bind]
      unfold writeSerialized
      dsimp only
      rw [noMarker, writeExtensionBlock_tcc, ok_bind, length_serialized_tail]
      have extended : (version <<< 6) ||| ((0 : UInt8) <<< 5) |||
          ((if (0x11 :: toBigEndian 2 tccSeqnum).length ≠ 0 then 1
            else 0 : UInt8) <<< 4) ||| ((0 : UInt8) &&& 0b1111) = 0x90 := by
        rw [List.length_cons, if_pos (Nat.add_one_ne_zero _)]
        rfl
      rw [extended]
      simp only [List.append_assoc, List.length_append, length_fixedHeader,
        Nat.add_assoc]
      rfl

end Packet

/-! ## Reading -/

section FixedHeader

variable {first second : UInt8} {seqnum : FullSequenceNumber}
  {timestamp : TruncatedTimestamp} {ssrc : Ssrc} {rest : Bytes}

theorem seqnum_of_fixedHeader :
    (fromBigEndian (((fixedHeader first second seqnum timestamp ssrc ++
      rest).drop 2).take 2)).toUInt16 = seqnum.toUInt16 := by
  have bytes := @slice_middle UInt8 2 4 [first, second] (toBigEndian 2 seqnum)
    (toBigEndian 4 timestamp.toNat ++ (toBigEndian 4 ssrc.toNat ++ rest))
    rfl (by rw [length_toBigEndian])
  have parts : fixedHeader first second seqnum timestamp ssrc ++ rest =
      [first, second] ++ (toBigEndian 2 seqnum ++
        (toBigEndian 4 timestamp.toNat ++ (toBigEndian 4 ssrc.toNat ++
          rest))) := by
    simp [fixedHeader]
  rw [take_drop_eq_slice, parts, bytes, fromBigEndian_toBigEndian]
  exact UInt16.ofNat_mod_size

theorem toUInt32_of_bigEndian (value : UInt32) :
    (fromBigEndian (toBigEndian 4 value.toNat)).toUInt32 = value := by
  have small : value.toNat < 256 ^ 4 := value.toNat_lt
  rw [fromBigEndian_toBigEndian, Nat.mod_eq_of_lt small]
  exact UInt32.ofNat_toNat

theorem timestamp_of_fixedHeader :
    (fromBigEndian (((fixedHeader first second seqnum timestamp ssrc ++
      rest).drop 4).take 4)).toUInt32 = timestamp := by
  have bytes := @slice_middle UInt8 4 8
    (first :: second :: toBigEndian 2 seqnum) (toBigEndian 4 timestamp.toNat)
    (toBigEndian 4 ssrc.toNat ++ rest)
    (by rw [List.length_cons, List.length_cons, length_toBigEndian])
    (by rw [length_toBigEndian])
  have parts : fixedHeader first second seqnum timestamp ssrc ++ rest =
      (first :: second :: toBigEndian 2 seqnum) ++
        (toBigEndian 4 timestamp.toNat ++ (toBigEndian 4 ssrc.toNat ++
          rest)) := by
    simp [fixedHeader]
  rw [take_drop_eq_slice, parts, bytes, toUInt32_of_bigEndian]

theorem ssrc_of_fixedHeader :
    (fromBigEndian (((fixedHeader first second seqnum timestamp ssrc ++
      rest).drop 8).take 4)).toUInt32 = ssrc := by
  have bytes := @slice_middle UInt8 8 12
    (first :: second :: (toBigEndian 2 seqnum ++
      toBigEndian 4 timestamp.toNat)) (toBigEndian 4 ssrc.toNat) rest
    (by rw [List.length_cons, List.length_cons, List.length_append,
      length_toBigEndian, length_toBigEndian])
    (by rw [length_toBigEndian])
  have parts : fixedHeader first second seqnum timestamp ssrc ++ rest =
      (first :: second :: (toBigEndian 2 seqnum ++
        toBigEndian 4 timestamp.toNat)) ++
          (toBigEndian 4 ssrc.toNat ++ rest) := by
    simp [fixedHeader]
  rw [take_drop_eq_slice, parts, bytes, toUInt32_of_bigEndian]

theorem drop_fixedHeader :
    (fixedHeader first second seqnum timestamp ssrc ++ rest).drop
      rtpMinHeaderLen = rest :=
  List.drop_left' (length_fixedHeader _ _ _ _ _)

/-- A fixed header without padding, and a payload with a tag behind it. -/
theorem buildHeader_fixedHeader {values : ExtensionValues} {start : Nat}
    (noPadding : first &&& 0b00100000 = 0)
    (tag : start + srtpAuthTagLen ≤ rtpMinHeaderLen + rest.length) :
    buildHeader (fixedHeader first second seqnum timestamp ssrc ++ rest)
        first second values start =
      some {
        marker := second &&& 0b10000000 ≠ 0
        hasPadding := false
        payloadType := second &&& 0b01111111
        seqnum := seqnum.toUInt16
        timestamp
        ssrc
        videoRotation := values.videoRotation
        audioLevel := values.audioLevel
        tccSeqnum := values.tccSeqnum
        tccSeqnumRange := values.tccSeqnumRange
        payloadRange :=
          ⟨start, rtpMinHeaderLen + rest.length - srtpAuthTagLen⟩
        dependencyDescriptor := values.dependencyDescriptor } := by
  unfold buildHeader
  dsimp only
  rw [List.length_append, length_fixedHeader, if_neg (Nat.not_lt.mpr tag),
    noPadding]
  rw [if_neg (fun padded => padded.1 rfl), seqnum_of_fixedHeader,
    timestamp_of_fixedHeader, ssrc_of_fixedHeader]
  rfl

end FixedHeader

def tccValues (tccSeqnum : FullSequenceNumber) : ExtensionValues where
  tccSeqnum := some tccSeqnum.toUInt16
  tccSeqnumRange := some ⟨17, 19⟩
  videoRotation := none
  audioLevel := none
  dependencyDescriptor := none

theorem parseExtensions_tcc {value : Bytes} (two : value.length = 2) :
    parseExtensions .oneByte 4 16 (0x11 :: (value ++ [0])) .empty =
      .ok (some { ExtensionValues.empty with
        tccSeqnum := some (fromBigEndian value).toUInt16
        tccSeqnumRange := some ⟨17, 19⟩ }) := by
  obtain ⟨high, low, rfl⟩ := List.length_eq_two.mp two
  rfl

/-- The block is read where `with_empty_tag` says. -/
theorem blockParsed_tcc (tccSeqnum : FullSequenceNumber) (rest : Bytes) :
    BlockParsed rtpMinHeaderLen (Packet.tccExtensionBlock tccSeqnum ++ rest)
      (tccValues tccSeqnum) .oneByte 4 := by
  have number := fromBigEndian_toBigEndian 2 tccSeqnum
  have two := length_toBigEndian 2 tccSeqnum
  have same : (tccSeqnum % 256 ^ 2).toUInt16 = tccSeqnum.toUInt16 :=
    UInt16.ofNat_mod_size
  have found := parseExtensions_tcc two
  rw [number, same] at found
  have profile : toBigEndian 2 rtpOneByteExtensionsProfile = [0xBE, 0xDE] := by
    decide
  have words : toBigEndian 2 1 = [0, 1] := by decide
  have isProfile : HeaderExtensionsProfile.tryFrom
      (fromBigEndian [0xBE, 0xDE]) = some .oneByte := by decide
  unfold Packet.tccExtensionBlock
  obtain ⟨high, low, isValue⟩ := List.length_eq_two.mp two
  rw [isValue] at found ⊢
  rw [profile, words]
  refine ⟨?_, ?_, ?_, ?_⟩
  · exact isProfile
  · rfl
  · simp only [List.length_append, List.length_cons, List.length_nil,
      rtpExtensionsHeaderLen]
    omega
  · exact found

namespace Packet

theorem payload_withEmptyTag (pt : PayloadType)
    (seqnum : FullSequenceNumber) (timestamp : TruncatedTimestamp)
    (ssrc : Ssrc) (tccSeqnum : Option FullSequenceNumber)
    (deadlineStart : Option Instant) (payload : Bytes) :
    (withEmptyTag pt seqnum timestamp ssrc tccSeqnum deadlineStart
      payload).payload = .ok payload := by
  have isRange := withEmptyTag_payloadRange pt seqnum timestamp ssrc tccSeqnum
    deadlineStart payload
  have notRtx : (withEmptyTag pt seqnum timestamp ssrc tccSeqnum deadlineStart
      payload).isRtx = false := rfl
  unfold Packet.payload Packet.payloadRange Packet.sliceSerialized
  rw [notRtx, if_neg Bool.false_ne_true, isRange, withEmptyTag_serialized]
  dsimp only
  rw [if_neg]
  · have bytes := @slice_middle UInt8
      (rtpMinHeaderLen + (tccSeqnum.elim [] tccExtensionBlock).length)
      (rtpMinHeaderLen + (tccSeqnum.elim [] tccExtensionBlock).length +
        payload.length)
      (fixedHeader (if tccSeqnum.isSome then 0x90 else 0x80) (pt &&& 127)
        seqnum timestamp ssrc ++ tccSeqnum.elim [] tccExtensionBlock)
      payload (List.replicate srtpAuthTagLen 0)
      (by rw [List.length_append, length_fixedHeader]) rfl
    rw [List.append_assoc] at bytes
    exact congrArg Except.ok bytes
  · simp only [List.length_append, length_fixedHeader, List.length_replicate]
    omega

theorem laid_withEmptyTag (pt : PayloadType) (seqnum : FullSequenceNumber)
    (timestamp : TruncatedTimestamp) (ssrc : Ssrc)
    (tccSeqnum : Option FullSequenceNumber) (deadlineStart : Option Instant)
    (payload : Bytes) :
    Laid (withEmptyTag pt seqnum timestamp ssrc tccSeqnum deadlineStart
        payload).serialized
      (if tccSeqnum.isSome then 0x90 else 0x80) (pt &&& 127)
      (tccSeqnum.elim .empty tccValues)
      (rtpMinHeaderLen + (tccSeqnum.elim [] tccExtensionBlock).length) := by
  have noSources : ∀ extended : Bool, extensionsStartOf
      (if extended then 0x90 else 0x80) = rtpMinHeaderLen := by decide
  have isStart := noSources tccSeqnum.isSome
  rw [withEmptyTag_serialized]
  have long : rtpMinHeaderLen ≤
      (fixedHeader (if tccSeqnum.isSome then 0x90 else 0x80) (pt &&& 127)
          seqnum timestamp ssrc ++
        (tccSeqnum.elim [] tccExtensionBlock ++
          (payload ++ List.replicate srtpAuthTagLen 0))).length := by
    rw [List.length_append, length_fixedHeader]
    exact Nat.le_add_right _ _
  refine ⟨⟨_, rfl⟩, long, ?_, ?_⟩
  · rw [isStart]
    exact long
  · rw [isStart, drop_fixedHeader]
    cases tccSeqnum with
    | none => exact .inr ⟨rfl, rfl, rfl⟩
    | some tccSeqnum =>
        have eight : (tccExtensionBlock tccSeqnum).length =
            rtpExtensionsHeaderLen + 4 := by
          simp [tccExtensionBlock, rtpExtensionsHeaderLen]
        have extended : (0x90 : UInt8) &&& 0b00010000 ≠ 0 := by decide
        refine .inl ⟨extended, rtpExtensionsHeaderLen + 4, ?_, ?_⟩
        · rw [← eight]
          rfl
        · exact parseExtensionBlock_iff.mpr
            ⟨.oneByte, 4, blockParsed_tcc tccSeqnum _, rfl⟩

theorem parse_withEmptyTag {pt : PayloadType} (small : pt < 128)
    (seqnum : FullSequenceNumber) (timestamp : TruncatedTimestamp)
    (ssrc : Ssrc) (tccSeqnum : Option FullSequenceNumber)
    (deadlineStart : Option Instant) (payload : Bytes) :
    Header.parse (withEmptyTag pt seqnum timestamp ssrc tccSeqnum
        deadlineStart payload).serialized =
      .ok (some {
        marker := false
        hasPadding := false
        payloadType := pt
        seqnum := seqnum.toUInt16
        timestamp
        ssrc
        videoRotation := none
        audioLevel := none
        tccSeqnum := tccSeqnum.map Nat.toUInt16
        tccSeqnumRange := (withEmptyTag pt seqnum timestamp ssrc tccSeqnum
          deadlineStart payload).tccSeqnumRange
        payloadRange := (withEmptyTag pt seqnum timestamp ssrc tccSeqnum
          deadlineStart payload).payloadRangeInHeader
        dependencyDescriptor := none }) := by
  have seven : pt &&& 127 = pt := by
    apply UInt8.toNat_inj.mp
    rw [UInt8.toNat_and]
    exact (Nat.and_two_pow_sub_one_eq_mod pt.toNat 7).trans
      (Nat.mod_eq_of_lt small)
  have noMarker : (pt &&& 127) &&& 0b10000000 = 0 := by
    rw [UInt8.and_assoc]
    exact UInt8.and_zero
  have noPadding : ∀ extended : Bool,
      (if extended then 0x90 else 0x80 : UInt8) &&& 0b00100000 = 0 := by
    decide
  have laid := laid_withEmptyTag pt seqnum timestamp ssrc tccSeqnum
    deadlineStart payload
  rw [withEmptyTag_payloadRange]
  apply Header.parse_iff.mpr
  refine ⟨_, _, _, _, laid, ?_⟩
  rw [withEmptyTag_serialized, buildHeader_fixedHeader]
  · have finish : rtpMinHeaderLen + (tccSeqnum.elim [] tccExtensionBlock ++
        (payload ++ List.replicate srtpAuthTagLen 0)).length -
          srtpAuthTagLen =
        rtpMinHeaderLen + (tccSeqnum.elim [] tccExtensionBlock).length +
          payload.length := by
      simp only [List.length_append, List.length_replicate]
      omega
    rw [noMarker, seven, seven, finish]
    cases tccSeqnum with
    | none => rfl
    | some tccSeqnum => rfl
  · exact noPadding tccSeqnum.isSome
  · simp only [List.length_append, List.length_replicate]
    omega

end Packet

end CallingService.Backend.Rtp
