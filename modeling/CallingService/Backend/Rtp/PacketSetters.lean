import CallingService.Backend.Rtp.PacketRewriting

/-!
# Sequences of setters

The writers use the positions that were remembered when a packet was parsed.
Whatever a sequence of setters has written, the parser finds the same header
again, with the last values of the written fields.
-/

namespace CallingService.Backend.Rtp

open Foundation

/-- `set_tcc_seqnum_in_header_if_present`, with the number that it is
given. -/
def Packet.setTccSeqnumIfPresent (packet : Packet)
    (tccSeqnum : FullSequenceNumber) : Except Panic Packet :=
  match packet.tccSeqnumRange with
  | none => .ok packet
  | some range => packet.setTccSeqnumInHeader range tccSeqnum

/-- A setter with its arguments. -/
inductive PacketSetter where
  | rewrite (newSsrc : Ssrc) (newSeqnum : FullSequenceNumber)
      (newTimestamp : TruncatedTimestamp)
  | ssrcInHeader (ssrc : Ssrc)
  | seqnumInHeader (seqnum : FullSequenceNumber)
  | timestampInHeader (timestamp : TruncatedTimestamp)
  | tccSeqnumInHeader (tccSeqnum : FullSequenceNumber)
  | frameNumberInHeader (frameNumber : FullFrameNumber)
  | seqnumInPayload (seqnum : FullSequenceNumber)
deriving DecidableEq

def PacketSetter.apply (packet : Packet) :
    PacketSetter → Except Panic Packet
  | .rewrite newSsrc newSeqnum newTimestamp =>
      packet.rewrite newSsrc newSeqnum newTimestamp
  | .ssrcInHeader ssrc => packet.setSsrcInHeader ssrc
  | .seqnumInHeader seqnum => packet.setSeqnumInHeader seqnum
  | .timestampInHeader timestamp => packet.setTimestampInHeader timestamp
  | .tccSeqnumInHeader tccSeqnum => packet.setTccSeqnumIfPresent tccSeqnum
  | .frameNumberInHeader frameNumber =>
      packet.setFrameNumberInHeader frameNumber
  | .seqnumInPayload seqnum => packet.setSeqnumInPayload seqnum

def applySetters (packet : Packet) :
    List PacketSetter → Except Panic Packet
  | [] => .ok packet
  | setter :: later => do
      let written ← setter.apply packet
      applySetters written later

/-! ## What a packet says -/

/-- The header that a packet parses to, whether it is a retransmission, and
the number at the start of its payload. -/
structure PacketContents where
  header : Header
  isRtx : Bool
  payloadNumber : UInt16

namespace PacketContents

/-- A retransmission keeps the number of the original in its payload, and is
on the stream behind that of the original. -/
def rewrite (contents : PacketContents) (newSsrc : Ssrc)
    (newSeqnum : FullSequenceNumber) (newTimestamp : TruncatedTimestamp) :
    PacketContents :=
  if contents.isRtx then
    { contents with
      header := { contents.header with
        ssrc := toRtxSsrc newSsrc
        timestamp := newTimestamp }
      payloadNumber := newSeqnum.toUInt16 }
  else
    { contents with
      header := { contents.header with
        ssrc := newSsrc
        seqnum := newSeqnum.toUInt16
        timestamp := newTimestamp } }

def withSsrc (contents : PacketContents) (ssrc : Ssrc) : PacketContents :=
  { contents with header := { contents.header with ssrc } }

def withSeqnum (contents : PacketContents) (seqnum : FullSequenceNumber) :
    PacketContents :=
  { contents with
    header := { contents.header with seqnum := seqnum.toUInt16 } }

def withTimestamp (contents : PacketContents)
    (timestamp : TruncatedTimestamp) : PacketContents :=
  { contents with header := { contents.header with timestamp } }

def withTccSeqnum (contents : PacketContents)
    (tccSeqnum : FullSequenceNumber) : PacketContents :=
  { contents with
    header := { contents.header with
      tccSeqnum := contents.header.tccSeqnumRange.map
        fun _ => tccSeqnum.toUInt16 } }

/-- A descriptor that cannot be read stays so. -/
def withFrameNumber (contents : PacketContents)
    (frameNumber : FullFrameNumber) : PacketContents :=
  { contents with
    header := { contents.header with
      dependencyDescriptor := contents.header.dependencyDescriptor.map
        fun recorded =>
          ({ recorded.1 with
            truncatedFrameNumber := recorded.1.truncatedFrameNumber.map
              fun _ => frameNumber.toUInt16 }, recorded.2) } }

def withPayloadNumber (contents : PacketContents)
    (seqnum : FullSequenceNumber) : PacketContents :=
  { contents with payloadNumber := seqnum.toUInt16 }

/-- The effect of a setter on what the packet contains. -/
def update (contents : PacketContents) : PacketSetter → PacketContents
  | .rewrite newSsrc newSeqnum newTimestamp =>
      contents.rewrite newSsrc newSeqnum newTimestamp
  | .ssrcInHeader ssrc => contents.withSsrc ssrc
  | .seqnumInHeader seqnum => contents.withSeqnum seqnum
  | .timestampInHeader timestamp => contents.withTimestamp timestamp
  | .tccSeqnumInHeader tccSeqnum => contents.withTccSeqnum tccSeqnum
  | .frameNumberInHeader frameNumber => contents.withFrameNumber frameNumber
  | .seqnumInPayload seqnum =>
      { contents.withPayloadNumber seqnum with isRtx := true }

end PacketContents

/-- The two bytes of the payload that hold the number of the original. -/
def Header.numberPlace (header : Header) : ByteRange :=
  ⟨header.payloadRange.start, header.payloadRange.start + 2⟩

/-- Where a descriptor has its frame number. -/
def frameNumberPlace (recorded : DependencyDescriptor × ByteRange) :
    ByteRange :=
  ⟨recorded.2.start + 1, recorded.2.start + 3⟩

def Header.contentsOf (header : Header) (isRtx : Bool) (packet : Bytes) :
    PacketContents where
  header := header.reread packet
  isRtx := isRtx
  payloadNumber := (header.numberPlace.numberIn packet).toUInt16

/-- The places that a setter writes to. -/
def PacketSetter.places (header : Header) (isRtx : Bool) :
    PacketSetter → List ByteRange
  | .rewrite _ _ _ =>
      [rtpSsrcRange, if isRtx then header.numberPlace else rtpSeqnumRange,
        rtpTimestampRange]
  | .ssrcInHeader _ => [rtpSsrcRange]
  | .seqnumInHeader _ => [rtpSeqnumRange]
  | .timestampInHeader _ => [rtpTimestampRange]
  | .tccSeqnumInHeader _ => header.tccSeqnumRange.toList
  | .frameNumberInHeader _ =>
      (header.dependencyDescriptor.map frameNumberPlace).toList
  | .seqnumInPayload _ => [header.numberPlace]

/-- The contents and the written places after a sequence of setters. -/
def PacketContents.updates (contents : PacketContents) :
    List PacketSetter → PacketContents × List ByteRange
  | [] => (contents, [])
  | setter :: later =>
      let updated := (contents.update setter).updates later
      (updated.1,
        setter.places contents.header contents.isRtx ++ updated.2)

/-! ## One write -/

section Write

variable {packet : Bytes} {write : Write UInt8}

theorem slice_write_apart (fits : write.finish ≤ packet.length)
    {start finish : Nat} (apart : finish ≤ write.start ∨ write.finish ≤ start) :
    slice start finish (Write.apply packet write) =
      slice start finish packet := by
  apply slice_congr
  intro index above below
  apply Write.getElem?_apply fits
  intro covers
  have inside := covers
  unfold Write.Covers at inside
  omega

theorem numberIn_write_apart (fits : write.finish ≤ packet.length)
    {range : ByteRange}
    (apart : range.finish ≤ write.start ∨ write.finish ≤ range.start) :
    range.numberIn (Write.apply packet write) = range.numberIn packet :=
  congrArg fromBigEndian (slice_write_apart fits apart)

/-- A number is written to a range. -/
def ByteRange.put (range : ByteRange) (width value : Nat) : Write UInt8 :=
  ⟨range.start, toBigEndian width value⟩

theorem ByteRange.put_finish {range : ByteRange} {width : Nat} (value : Nat)
    (isRange : range.finish = range.start + width) :
    (range.put width value).finish = range.finish := by
  unfold put Write.finish
  rw [length_toBigEndian, isRange]

section Put

variable {range : ByteRange} {width : Nat}
  (isRange : range.finish = range.start + width)
  (fits : range.finish ≤ packet.length) (value : Nat)
include isRange fits

theorem numberIn_put_apart {other : ByteRange}
    (apart : other.finish ≤ range.start ∨ range.finish ≤ other.start) :
    other.numberIn (Write.apply packet (range.put width value)) =
      other.numberIn packet := by
  have isFinish := range.put_finish value isRange
  apply numberIn_write_apart
  · rw [isFinish]
    exact fits
  · rw [isFinish]
    exact apart

theorem numberIn_put :
    range.numberIn (Write.apply packet (range.put width value)) =
      value % 256 ^ width := by
  have isFinish := range.put_finish value isRange
  have written := Write.slice_apply (isFinish ▸ fits)
  rw [isFinish] at written
  exact (congrArg fromBigEndian written).trans
    (fromBigEndian_toBigEndian width value)

end Put

end Write

theorem toUInt16_mod (value : Nat) :
    (value % 256 ^ 2).toUInt16 = value.toUInt16 :=
  UInt16.ofNat_mod_size

/-- The recorded extensions do not overlap. -/
def Header.RecordedApart (header : Header) : Prop :=
  ∀ tcc recorded, header.tccSeqnumRange = some tcc →
    header.dependencyDescriptor = some recorded →
      tcc.finish ≤ recorded.2.start ∨ recorded.2.finish ≤ tcc.start

namespace Header

variable {header : Header} {packet : Bytes} {write : Write UInt8}
  {isRtx : Bool}

theorem tcc_write_apart (fits : write.finish ≤ packet.length)
    (apart : ∀ range, header.tccSeqnumRange = some range →
      range.finish ≤ write.start ∨ write.finish ≤ range.start) :
    (header.reread (Write.apply packet write)).tccSeqnum =
      (header.reread packet).tccSeqnum := by
  apply Option.map_congr
  intro range isRange
  rw [numberIn_write_apart fits (apart range isRange)]

theorem descriptor_write_apart (fits : write.finish ≤ packet.length)
    (apart : ∀ recorded, header.dependencyDescriptor = some recorded →
      recorded.2.finish ≤ write.start ∨ write.finish ≤ recorded.2.start) :
    (header.reread (Write.apply packet write)).dependencyDescriptor =
      (header.reread packet).dependencyDescriptor := by
  apply Option.map_congr
  intro recorded isRecorded
  have unchanged := slice_write_apart fits (apart recorded isRecorded)
  exact congrArg (fun value => (describedBy value, recorded.2)) unchanged

/-- A write behind the fixed header. -/
theorem contentsOf_behind (behind : rtpMinHeaderLen ≤ write.start)
    (fits : write.finish ≤ packet.length) :
    header.contentsOf isRtx (Write.apply packet write) =
      { header.contentsOf isRtx packet with
        header := { header.reread packet with
          tccSeqnum := (header.reread (Write.apply packet write)).tccSeqnum
          dependencyDescriptor :=
            (header.reread (Write.apply packet write)).dependencyDescriptor }
        payloadNumber := (header.numberPlace.numberIn
          (Write.apply packet write)).toUInt16 } := by
  have early : ∀ range ∈ [rtpSeqnumRange, rtpTimestampRange, rtpSsrcRange],
      range.finish ≤ rtpMinHeaderLen := by decide
  have numbers : ∀ range ∈ [rtpSeqnumRange, rtpTimestampRange, rtpSsrcRange],
      range.numberIn (Write.apply packet write) = range.numberIn packet := by
    intro range isFixed
    have ends := early range isFixed
    exact numberIn_write_apart fits (.inl (by omega))
  simp only [List.forall_mem_cons] at numbers
  obtain ⟨seqnum, timestamp, ssrc, -⟩ := numbers
  unfold contentsOf reread
  rw [seqnum, timestamp, ssrc]

section InBounds

variable (inBounds : header.InBounds packet.length)
include inBounds

theorem numberPlace_fits : header.numberPlace.finish ≤ packet.length := by
  have ordered := inBounds.payload
  have tag := inBounds.tag
  have sixteen : srtpAuthTagLen = 16 := rfl
  unfold numberPlace
  dsimp only
  omega

/-- A write to the fixed header. -/
theorem contentsOf_front (front : write.finish ≤ rtpMinHeaderLen) :
    header.contentsOf isRtx (Write.apply packet write) =
      { header.contentsOf isRtx packet with
        header := { header.reread packet with
          seqnum := (rtpSeqnumRange.numberIn
            (Write.apply packet write)).toUInt16
          timestamp := (rtpTimestampRange.numberIn
            (Write.apply packet write)).toUInt32
          ssrc := (rtpSsrcRange.numberIn
            (Write.apply packet write)).toUInt32 } } := by
  have fixed := inBounds.fixed
  have payload := numberPlace_fits inBounds
  have inside : header.numberPlace.start + 2 = header.numberPlace.finish :=
    rfl
  have isStart : header.numberPlace.start = header.payloadRange.start := rfl
  have fits : write.finish ≤ packet.length := by omega
  have tcc := @tcc_write_apart header packet write fits (by
    intro range isRange
    have bounds := inBounds.tcc range isRange
    omega)
  have descriptor := @descriptor_write_apart header packet write fits (by
    intro recorded isRecorded
    have bounds := inBounds.descriptor recorded.1 recorded.2 isRecorded
    omega)
  have number := @numberIn_write_apart packet write fits header.numberPlace
    (by omega)
  unfold contentsOf
  rw [number]
  unfold reread at tcc descriptor ⊢
  dsimp only at tcc descriptor ⊢
  rw [tcc, descriptor]

theorem fixed_fits : rtpMinHeaderLen ≤ packet.length := by
  have fixed := inBounds.fixed
  have payload := numberPlace_fits inBounds
  exact Nat.le_trans fixed (Nat.le_trans (Nat.le_add_right _ 2) payload)

theorem contentsOf_ssrc (ssrc : Ssrc) :
    header.contentsOf isRtx
        (Write.apply packet (rtpSsrcRange.put 4 ssrc.toNat)) =
      (header.contentsOf isRtx packet).withSsrc ssrc := by
  have long := fixed_fits inBounds
  have seqnum := @numberIn_put_apart packet rtpSsrcRange 4 rfl long
    ssrc.toNat rtpSeqnumRange (by decide)
  have timestamp := @numberIn_put_apart packet rtpSsrcRange 4 rfl long
    ssrc.toNat rtpTimestampRange (by decide)
  rw [contentsOf_front inBounds (by rw [ByteRange.put_finish] <;> rfl),
    seqnum, timestamp, numberIn_put rfl long, toUInt32_mod]
  rfl

theorem contentsOf_seqnum (seqnum : FullSequenceNumber) :
    header.contentsOf isRtx
        (Write.apply packet (rtpSeqnumRange.put 2 seqnum)) =
      (header.contentsOf isRtx packet).withSeqnum seqnum := by
  have early : rtpSeqnumRange.finish ≤ rtpMinHeaderLen := by decide
  have long := Nat.le_trans early (fixed_fits inBounds)
  have ssrc := @numberIn_put_apart packet rtpSeqnumRange 2 rfl long
    seqnum rtpSsrcRange (by decide)
  have timestamp := @numberIn_put_apart packet rtpSeqnumRange 2 rfl long
    seqnum rtpTimestampRange (by decide)
  rw [contentsOf_front inBounds (by rwa [ByteRange.put_finish _ rfl]),
    ssrc, timestamp, numberIn_put rfl long, toUInt16_mod]
  rfl

theorem contentsOf_timestamp (timestamp : TruncatedTimestamp) :
    header.contentsOf isRtx
        (Write.apply packet (rtpTimestampRange.put 4 timestamp.toNat)) =
      (header.contentsOf isRtx packet).withTimestamp timestamp := by
  have early : rtpTimestampRange.finish ≤ rtpMinHeaderLen := by decide
  have long := Nat.le_trans early (fixed_fits inBounds)
  have ssrc := @numberIn_put_apart packet rtpTimestampRange 4 rfl long
    timestamp.toNat rtpSsrcRange (by decide)
  have seqnum := @numberIn_put_apart packet rtpTimestampRange 4 rfl long
    timestamp.toNat rtpSeqnumRange (by decide)
  rw [contentsOf_front inBounds (by rwa [ByteRange.put_finish _ rfl]),
    ssrc, seqnum, numberIn_put rfl long, toUInt32_mod]
  rfl

theorem contentsOf_payloadNumber (seqnum : FullSequenceNumber) :
    header.contentsOf isRtx
        (Write.apply packet (header.numberPlace.put 2 seqnum)) =
      (header.contentsOf isRtx packet).withPayloadNumber seqnum := by
  have fits := numberPlace_fits inBounds
  have tcc := @tcc_write_apart header packet
    (header.numberPlace.put 2 seqnum) fits (by
      intro range isRange
      exact .inl (inBounds.tcc range isRange).2.2)
  have descriptor := @descriptor_write_apart header packet
    (header.numberPlace.put 2 seqnum) fits (by
      intro recorded isRecorded
      exact .inl (inBounds.descriptor _ _ isRecorded).2.2)
  have behind := @contentsOf_behind header packet
    (header.numberPlace.put 2 seqnum) isRtx inBounds.fixed fits
  rw [behind, tcc, descriptor, numberIn_put rfl fits, toUInt16_mod]
  rfl

theorem contentsOf_tccSeqnum (recordedApart : header.RecordedApart)
    {range : ByteRange} (isRange : header.tccSeqnumRange = some range)
    (tccSeqnum : FullSequenceNumber) :
    header.contentsOf isRtx (Write.apply packet (range.put 2 tccSeqnum)) =
      (header.contentsOf isRtx packet).withTccSeqnum tccSeqnum := by
  obtain ⟨behind, two, front⟩ := inBounds.tcc range isRange
  have payload := numberPlace_fits inBounds
  have fits : range.finish ≤ packet.length :=
    Nat.le_trans front (Nat.le_trans (Nat.le_add_right _ 2) payload)
  have isFinish := range.put_finish tccSeqnum two
  have descriptor := @descriptor_write_apart header packet
    (range.put 2 tccSeqnum) (isFinish ▸ fits) (by
      intro recorded isRecorded
      rw [isFinish]
      exact (recordedApart range recorded isRange isRecorded).symm)
  have number := @numberIn_put_apart packet range 2 two fits tccSeqnum
    header.numberPlace (.inr front)
  rw [contentsOf_behind behind (isFinish ▸ fits), descriptor, number]
  unfold PacketContents.withTccSeqnum contentsOf reread
  dsimp only
  rw [isRange, Option.map_some, numberIn_put two fits, toUInt16_mod]
  rfl

theorem contentsOf_frameNumber (recordedApart : header.RecordedApart)
    {recorded : DependencyDescriptor × ByteRange}
    (isRecorded : header.dependencyDescriptor = some recorded)
    (frameNumber : FullFrameNumber) :
    header.contentsOf isRtx (Write.apply packet
        ((frameNumberPlace recorded).put 2 frameNumber)) =
      (header.contentsOf isRtx packet).withFrameNumber frameNumber := by
  obtain ⟨behind, three, front⟩ := inBounds.descriptor _ _ isRecorded
  have isThree : rtpDependencyDescriptorMinLen = 3 := rfl
  have payload := numberPlace_fits inBounds
  have inside : header.payloadRange.start + 2 = header.numberPlace.finish :=
    rfl
  have isStart : ((frameNumberPlace recorded).put 2 frameNumber).start =
      recorded.2.start + 1 := rfl
  have isFinish : ((frameNumberPlace recorded).put 2 frameNumber).finish =
      recorded.2.start + 3 := rfl
  have fits : ((frameNumberPlace recorded).put 2 frameNumber).finish ≤
      packet.length := by omega
  have tcc := @tcc_write_apart header packet
    ((frameNumberPlace recorded).put 2 frameNumber) fits (by
      intro range isRange
      have apart := recordedApart range recorded isRange isRecorded
      omega)
  have number := @numberIn_put_apart packet (frameNumberPlace recorded) 2
    rfl fits frameNumber header.numberPlace
    (.inr (Nat.le_trans three front))
  have again : describedBy (recorded.2.slice (Write.apply packet
      ((frameNumberPlace recorded).put 2 frameNumber))) =
        { describedBy (recorded.2.slice packet) with
          truncatedFrameNumber :=
            (describedBy (recorded.2.slice packet)).truncatedFrameNumber.map
              fun _ => frameNumber.toUInt16 } := by
    have sliceLength : (recorded.2.slice packet).length =
        recorded.2.finish - recorded.2.start :=
      length_slice_of_le (by omega)
    have sliceAgain : (recorded.2.slice (Write.apply packet
        ((frameNumberPlace recorded).put 2 frameNumber))).length =
          recorded.2.finish - recorded.2.start := by
      apply length_slice_of_le
      rw [Write.length_apply fits]
      omega
    rw [describedBy_rewritten (by omega) (sliceAgain.trans sliceLength.symm)]
    · have written := @numberIn_put packet (frameNumberPlace recorded) 2
        rfl fits frameNumber
      unfold ByteRange.numberIn ByteRange.slice frameNumberPlace at written
      unfold ByteRange.slice
      rw [drop_slice, take_slice _ (by omega), ← toUInt16_mod frameNumber]
      rw [← written]
      rfl
    · intro index above
      unfold ByteRange.slice
      rw [getElem?_slice, getElem?_slice, Write.getElem?_apply fits]
      intro covers
      have below := covers.2
      omega
  rw [contentsOf_behind (by omega) fits, tcc, number]
  unfold PacketContents.withFrameNumber contentsOf reread
  dsimp only
  rw [isRecorded, Option.map_some, again]
  rfl

end InBounds

end Header

/-! ## One setter -/

theorem sameOutside_put {packet : Bytes} {range : ByteRange} {width : Nat}
    (isRange : range.finish = range.start + width)
    (fits : range.finish ≤ packet.length) (value : Nat) :
    SameOutside [range] packet
      (Write.apply packet (range.put width value)) := by
  have isFinish := range.put_finish value isRange
  have inside := isFinish ▸ fits
  refine ⟨Write.length_apply inside, ?_⟩
  intro index outside
  apply Write.getElem?_apply inside
  intro covers
  apply outside range List.mem_cons_self
  refine ⟨covers.1, ?_⟩
  rw [← isFinish]
  exact covers.2

namespace Packet

/-- The outcome is a packet of the same header with these contents, and its
bytes differ within the places only. -/
def SetTo (header : Header) (packet : Packet) (contents : PacketContents)
    (places : List ByteRange) (outcome : Except Panic Packet) : Prop :=
  ∃ written, outcome = .ok written ∧ written.encrypted = false ∧
    written.BuiltFrom header packet.serialized.length ∧
    header.contentsOf written.isRtx written.serialized = contents ∧
    SameOutside places packet.serialized written.serialized

variable {header : Header} {packet : Packet}

theorem SetTo.bind {first : Except Panic Packet}
    {next : Packet → Except Panic Packet} {contents final : PacketContents}
    {places later : List ByteRange}
    (setTo : SetTo header packet contents places first)
    (continues : ∀ middle, middle.encrypted = false →
      middle.BuiltFrom header middle.serialized.length →
      middle.serialized.length = packet.serialized.length →
      header.contentsOf middle.isRtx middle.serialized = contents →
        SetTo header middle final later (next middle)) :
    SetTo header packet final (places ++ later) (first >>= next) := by
  obtain ⟨middle, rfl, unencrypted, built, contains, same⟩ := setTo
  have sameLength := built.length
  rw [← sameLength] at built
  obtain ⟨last, isLast, lastPlain, lastBuilt, lastContains, lastSame⟩ :=
    continues middle unencrypted built sameLength contains
  rw [sameLength] at lastBuilt
  refine ⟨last, isLast, lastPlain, lastBuilt, lastContains, ?_⟩
  apply SameOutside.trans
  · apply same.mono
    intro place isPlace index covers
    exact ⟨place, List.mem_append_left _ isPlace, covers⟩
  · apply lastSame.mono
    intro place isPlace index covers
    exact ⟨place, List.mem_append_right _ isPlace, covers⟩

/-- A setter that writes one number. -/
theorem Written.setTo {range : ByteRange} {width value : Nat}
    {outcome : Except Panic Packet} {contents : PacketContents}
    (written : Written header packet [range.put width value] outcome)
    (isRange : range.finish = range.start + width)
    (fits : range.finish ≤ packet.serialized.length)
    (contains : header.contentsOf packet.isRtx
      (Write.apply packet.serialized (range.put width value)) = contents) :
    SetTo header packet contents [range] outcome := by
  obtain ⟨after, isAfter, unencrypted, built, sameKind, serialized⟩ := written
  have bytes : after.serialized =
      Write.apply packet.serialized (range.put width value) := serialized
  refine ⟨after, isAfter, unencrypted, built, ?_, ?_⟩
  · rw [sameKind, bytes]
    exact contains
  · rw [bytes]
    exact sameOutside_put isRange fits value

section Setters

variable (built : packet.BuiltFrom header packet.serialized.length)
  (inBounds : header.InBounds packet.serialized.length)
  (unencrypted : packet.encrypted = false)
include built inBounds unencrypted

theorem setTo_setSsrcInHeader (ssrc : Ssrc) :
    SetTo header packet
      ((header.contentsOf packet.isRtx packet.serialized).withSsrc ssrc)
      [rtpSsrcRange] (packet.setSsrcInHeader ssrc) :=
  (written_setSsrcInHeader built inBounds unencrypted ssrc).setTo rfl
    (Header.fixed_fits inBounds) (Header.contentsOf_ssrc inBounds ssrc)

theorem setTo_setSeqnumInHeader (seqnum : FullSequenceNumber) :
    SetTo header packet
      ((header.contentsOf packet.isRtx packet.serialized).withSeqnum seqnum)
      [rtpSeqnumRange] (packet.setSeqnumInHeader seqnum) :=
  (written_setSeqnumInHeader built inBounds unencrypted seqnum).setTo rfl
    (Nat.le_trans (by decide) (Header.fixed_fits inBounds))
    (Header.contentsOf_seqnum inBounds seqnum)

theorem setTo_setTimestampInHeader (timestamp : TruncatedTimestamp) :
    SetTo header packet
      ((header.contentsOf packet.isRtx packet.serialized).withTimestamp
        timestamp)
      [rtpTimestampRange] (packet.setTimestampInHeader timestamp) :=
  (written_setTimestampInHeader built inBounds unencrypted timestamp).setTo
    rfl (Nat.le_trans (by decide) (Header.fixed_fits inBounds))
    (Header.contentsOf_timestamp inBounds timestamp)

theorem setTo_setTccSeqnumIfPresent (recordedApart : header.RecordedApart)
    (tccSeqnum : FullSequenceNumber) :
    SetTo header packet
      ((header.contentsOf packet.isRtx packet.serialized).withTccSeqnum
        tccSeqnum)
      header.tccSeqnumRange.toList
      (packet.setTccSeqnumIfPresent tccSeqnum) := by
  unfold setTccSeqnumIfPresent
  cases isRange : header.tccSeqnumRange with
  | none =>
      rw [built.tcc, isRange]
      refine ⟨packet, rfl, unencrypted, built, ?_, SameOutside.refl _ _⟩
      unfold PacketContents.withTccSeqnum Header.contentsOf Header.reread
      dsimp only
      rw [isRange]
      rfl
  | some range =>
      rw [built.tcc, isRange]
      obtain ⟨-, two, front⟩ := inBounds.tcc range isRange
      have payload := Header.numberPlace_fits inBounds
      have fits : range.finish ≤ packet.serialized.length :=
        Nat.le_trans front (Nat.le_trans (Nat.le_add_right _ 2) payload)
      have numbered : { packet with tccSeqnum := some tccSeqnum }.BuiltFrom
          header packet.serialized.length :=
        built.changed rfl rfl rfl rfl built.rtx
      have written := @written_writeInHeader header
        { packet with tccSeqnum := some tccSeqnum } numbered inBounds
        unencrypted range (toBigEndian 2 tccSeqnum) front two.symm
      exact Written.setTo written two fits
        (Header.contentsOf_tccSeqnum inBounds recordedApart isRange tccSeqnum)

theorem setTo_setFrameNumberInHeader (recordedApart : header.RecordedApart)
    (frameNumber : FullFrameNumber) :
    SetTo header packet
      ((header.contentsOf packet.isRtx packet.serialized).withFrameNumber
        frameNumber)
      (header.dependencyDescriptor.map frameNumberPlace).toList
      (packet.setFrameNumberInHeader frameNumber) := by
  unfold setFrameNumberInHeader
  cases isRecorded : header.dependencyDescriptor with
  | none =>
      rw [built.descriptor, isRecorded]
      refine ⟨packet, rfl, unencrypted, built, ?_, SameOutside.refl _ _⟩
      unfold PacketContents.withFrameNumber Header.contentsOf Header.reread
      dsimp only
      rw [isRecorded]
      rfl
  | some recorded =>
      rw [built.descriptor, isRecorded]
      obtain ⟨-, three, front⟩ := inBounds.descriptor _ _ isRecorded
      have payload := Header.numberPlace_fits inBounds
      have inFront : (frameNumberPlace recorded).finish ≤
          header.payloadRange.start := Nat.le_trans three front
      have fits : (frameNumberPlace recorded).finish ≤
          packet.serialized.length :=
        Nat.le_trans inFront (Nat.le_trans (Nat.le_add_right _ 2) payload)
      have written := @written_writeInHeader header packet built inBounds
        unencrypted (frameNumberPlace recorded) (toBigEndian 2 frameNumber)
        inFront rfl
      exact Written.setTo written rfl fits (Header.contentsOf_frameNumber
        inBounds recordedApart isRecorded frameNumber)

theorem setTo_setSeqnumInPayload
    (room : header.payloadRange.start + 2 ≤ header.payloadRange.finish)
    (seqnum : FullSequenceNumber) :
    SetTo header packet
      { (header.contentsOf packet.isRtx packet.serialized).withPayloadNumber
          seqnum with isRtx := true }
      [header.numberPlace] (packet.setSeqnumInPayload seqnum) := by
  have fits := Header.numberPlace_fits inBounds
  have bytes : overwrite packet.serialized
      ⟨header.payloadRange.start, header.payloadRange.start + 2⟩
      (toBigEndian 2 seqnum) =
        Write.apply packet.serialized (header.numberPlace.put 2 seqnum) :=
    overwrite_eq rfl
  have same := sameOutside_put rfl fits seqnum
  refine ⟨_, setSeqnumInPayload_eq built inBounds unencrypted room seqnum,
    unencrypted, ?_, ?_, ?_⟩
  · refine built.changed ?_ rfl rfl rfl (fun _ => room)
    dsimp only
    rw [bytes]
    exact same.length
  · dsimp only
    rw [bytes]
    exact Header.contentsOf_payloadNumber inBounds seqnum
  · dsimp only
    rw [bytes]
    exact same

theorem setTo_rewrite (newSsrc : Ssrc) (newSeqnum : FullSequenceNumber)
    (newTimestamp : TruncatedTimestamp) :
    SetTo header packet
      ((header.contentsOf packet.isRtx packet.serialized).rewrite newSsrc
        newSeqnum newTimestamp)
      [rtpSsrcRange,
        if packet.isRtx then header.numberPlace else rtpSeqnumRange,
        rtpTimestampRange]
      (packet.rewrite newSsrc newSeqnum newTimestamp) := by
  have boundsAfter : ∀ {middle : Packet},
      middle.serialized.length = packet.serialized.length →
        header.InBounds middle.serialized.length := by
    intro middle sameLength
    rw [sameLength]
    exact inBounds
  unfold Packet.rewrite
  cases isRtx : packet.isRtx with
  | true =>
      have room := built.rtx isRtx
      rw [if_pos rfl, if_pos rfl]
      apply (setTo_setSsrcInHeader built inBounds unencrypted
        (toRtxSsrc newSsrc)).bind
      intro addressed addressedPlain addressedBuilt addressedLength addressedTo
      apply (setTo_setSeqnumInPayload addressedBuilt
        (boundsAfter addressedLength) addressedPlain room newSeqnum).bind
      intro numbered numberedPlain numberedBuilt numberedLength numberedTo
      have stamped := setTo_setTimestampInHeader numberedBuilt
        (boundsAfter (numberedLength.trans addressedLength)) numberedPlain
        newTimestamp
      rw [numberedTo, addressedTo, isRtx] at stamped
      exact stamped
  | false =>
      rw [if_neg Bool.false_ne_true, if_neg Bool.false_ne_true]
      apply (setTo_setSsrcInHeader built inBounds unencrypted newSsrc).bind
      intro addressed addressedPlain addressedBuilt addressedLength addressedTo
      apply (setTo_setSeqnumInHeader addressedBuilt
        (boundsAfter addressedLength) addressedPlain newSeqnum).bind
      intro numbered numberedPlain numberedBuilt numberedLength numberedTo
      have stamped := setTo_setTimestampInHeader numberedBuilt
        (boundsAfter (numberedLength.trans addressedLength)) numberedPlain
        newTimestamp
      rw [numberedTo, addressedTo, isRtx] at stamped
      exact stamped

/-- Every setter has the effect that its update describes.  Only the number
in the payload needs room. -/
theorem setTo_apply (recordedApart : header.RecordedApart)
    {setter : PacketSetter}
    (room : ∀ seqnum, setter = .seqnumInPayload seqnum →
      header.payloadRange.start + 2 ≤ header.payloadRange.finish) :
    SetTo header packet
      ((header.contentsOf packet.isRtx packet.serialized).update setter)
      (setter.places header packet.isRtx) (setter.apply packet) := by
  cases setter with
  | rewrite newSsrc newSeqnum newTimestamp =>
      exact setTo_rewrite built inBounds unencrypted newSsrc newSeqnum
        newTimestamp
  | ssrcInHeader ssrc =>
      exact setTo_setSsrcInHeader built inBounds unencrypted ssrc
  | seqnumInHeader seqnum =>
      exact setTo_setSeqnumInHeader built inBounds unencrypted seqnum
  | timestampInHeader timestamp =>
      exact setTo_setTimestampInHeader built inBounds unencrypted timestamp
  | tccSeqnumInHeader tccSeqnum =>
      exact setTo_setTccSeqnumIfPresent built inBounds unencrypted
        recordedApart tccSeqnum
  | frameNumberInHeader frameNumber =>
      exact setTo_setFrameNumberInHeader built inBounds unencrypted
        recordedApart frameNumber
  | seqnumInPayload seqnum =>
      exact setTo_setSeqnumInPayload built inBounds unencrypted
        (room seqnum rfl) seqnum

omit inBounds unencrypted in
/-- Without room the number in the payload is refused. -/
theorem room_of_setSeqnumInPayload {seqnum : FullSequenceNumber}
    {written : Packet}
    (wrote : packet.setSeqnumInPayload seqnum = .ok written) :
    header.payloadRange.start + 2 ≤ header.payloadRange.finish := by
  have wholePayload : { packet with seqnumInPayload := none }.payloadRange =
      header.payloadRange := built.payload
  obtain ⟨_, inPayload, -⟩ := bind_eq_ok_iff.mp wrote
  unfold writeInPayload at inPayload
  obtain ⟨_, _, inPayload⟩ := bind_eq_ok_iff.mp inPayload
  obtain ⟨_, _, inPayload⟩ := bind_eq_ok_iff.mp inPayload
  unfold writeBelow at inPayload
  obtain ⟨_, _, inPayload⟩ := bind_eq_ok_iff.mp inPayload
  obtain ⟨_, _, inPayload⟩ := bind_eq_ok_iff.mp inPayload
  obtain ⟨_, copied, -⟩ := bind_eq_ok_iff.mp inPayload
  obtain ⟨-, inside, -⟩ := copyFromSlice_eq_ok copied
  rw [wholePayload] at inside
  exact Nat.le_trans inside (List.length_take_le _ _)

end Setters

/-! ## Sequences -/

theorem contentsOf_places (header : Header) (isRtx : Bool) (bytes : Bytes)
    (setter : PacketSetter) :
    setter.places (header.contentsOf isRtx bytes).header
        (header.contentsOf isRtx bytes).isRtx =
      setter.places header isRtx := by
  cases setter with
  | frameNumberInHeader frameNumber =>
      unfold PacketSetter.places Header.contentsOf Header.reread
      dsimp only
      rw [Option.map_map]
      rfl
  | rewrite newSsrc newSeqnum newTimestamp => rfl
  | ssrcInHeader ssrc => rfl
  | seqnumInHeader seqnum => rfl
  | timestampInHeader timestamp => rfl
  | tccSeqnumInHeader tccSeqnum => rfl
  | seqnumInPayload seqnum => rfl

theorem setTo_applySetters (recordedApart : header.RecordedApart)
    {setters : List PacketSetter}
    (built : packet.BuiltFrom header packet.serialized.length)
    (inBounds : header.InBounds packet.serialized.length)
    (unencrypted : packet.encrypted = false)
    (room : ∀ seqnum, .seqnumInPayload seqnum ∈ setters →
      header.payloadRange.start + 2 ≤ header.payloadRange.finish) :
    SetTo header packet
      ((header.contentsOf packet.isRtx packet.serialized).updates setters).1
      ((header.contentsOf packet.isRtx packet.serialized).updates setters).2
      (applySetters packet setters) := by
  induction setters generalizing packet with
  | nil =>
      exact ⟨packet, rfl, unencrypted, built, rfl, SameOutside.refl _ _⟩
  | cons setter later ih =>
      unfold applySetters PacketContents.updates
      dsimp only
      rw [contentsOf_places]
      apply (setTo_apply built inBounds unencrypted recordedApart
        (fun seqnum same => room seqnum (same ▸ List.mem_cons_self))).bind
      intro middle plain middleBuilt sameLength contains
      rw [← contains]
      apply ih middleBuilt (sameLength ▸ inBounds) plain
      intro seqnum isLater
      exact room seqnum (List.mem_cons_of_mem setter isLater)

theorem room_of_applySetters (recordedApart : header.RecordedApart)
    {setters : List PacketSetter} {written : Packet}
    (built : packet.BuiltFrom header packet.serialized.length)
    (inBounds : header.InBounds packet.serialized.length)
    (unencrypted : packet.encrypted = false)
    (wrote : applySetters packet setters = .ok written) :
    ∀ seqnum, .seqnumInPayload seqnum ∈ setters →
      header.payloadRange.start + 2 ≤ header.payloadRange.finish := by
  induction setters generalizing packet with
  | nil =>
      intro seqnum impossible
      cases impossible
  | cons setter later ih =>
      obtain ⟨middle, first, rest⟩ := bind_eq_ok_iff.mp wrote
      have firstRoom : ∀ seqnum, setter = .seqnumInPayload seqnum →
          header.payloadRange.start + 2 ≤ header.payloadRange.finish := by
        rintro seqnum rfl
        exact room_of_setSeqnumInPayload built first
      obtain ⟨_, isMiddle, plain, middleBuilt, -, same⟩ :=
        setTo_apply built inBounds unencrypted recordedApart firstRoom
      rw [first] at isMiddle
      cases isMiddle
      have sameLength := same.length
      intro seqnum isMember
      rcases List.mem_cons.mp isMember with isFirst | isLater
      · exact firstRoom seqnum isFirst.symm
      · exact ih (sameLength ▸ middleBuilt) (sameLength ▸ inBounds) plain rest
          seqnum isLater

end Packet

/-! ## The written places -/

/-- No setter moves what the header has recorded. -/
structure Header.SameRanges (header other : Header) : Prop where
  payload : other.payloadRange = header.payloadRange
  tcc : other.tccSeqnumRange = header.tccSeqnumRange
  descriptor : other.dependencyDescriptor.map (·.2) =
    header.dependencyDescriptor.map (·.2)

theorem Header.SameRanges.refl (header : Header) : header.SameRanges header :=
  ⟨rfl, rfl, rfl⟩

namespace PacketContents

theorem update_sameRanges {header : Header} {contents : PacketContents}
    (same : header.SameRanges contents.header) (setter : PacketSetter) :
    header.SameRanges (contents.update setter).header := by
  obtain ⟨payload, tcc, descriptor⟩ := same
  cases setter with
  | rewrite newSsrc newSeqnum newTimestamp =>
      unfold update rewrite
      dsimp only
      split
      · exact ⟨payload, tcc, descriptor⟩
      · exact ⟨payload, tcc, descriptor⟩
  | frameNumberInHeader frameNumber =>
      refine ⟨payload, tcc, ?_⟩
      rw [← descriptor]
      exact Option.map_map _ _ _
  | ssrcInHeader _ | seqnumInHeader _ | timestampInHeader _
  | tccSeqnumInHeader _ | seqnumInPayload _ => exact ⟨payload, tcc, descriptor⟩

/-- A setter writes where the header was read from, or to the payload. -/
theorem setter_places {header other : Header} {length : Nat} {isRtx : Bool}
    (inBounds : header.InBounds length) (same : header.SameRanges other)
    {setter : PacketSetter} {place : ByteRange}
    (isPlace : place ∈ setter.places other isRtx) :
    ∃ known ∈ header.places,
      known.start ≤ place.start ∧ place.finish ≤ known.finish := by
  have fixed : ∀ {range},
      range ∈ [rtpSeqnumRange, rtpTimestampRange, rtpSsrcRange] →
        ∃ known ∈ header.places,
          known.start ≤ range.start ∧ range.finish ≤ known.finish := by
    intro range isFixed
    refine ⟨range, ?_, Nat.le_refl _, Nat.le_refl _⟩
    unfold Header.places
    rw [List.append_assoc, List.append_assoc]
    exact List.mem_append_left _ isFixed
  have number : ∃ known ∈ header.places,
      known.start ≤ other.numberPlace.start ∧
        other.numberPlace.finish ≤ known.finish := by
    refine ⟨_, List.mem_append_right _ List.mem_cons_self, ?_, ?_⟩
    · exact Nat.le_of_eq (congrArg ByteRange.start same.payload).symm
    · have ordered := inBounds.payload
      have sixteen : srtpAuthTagLen = 16 := rfl
      unfold Header.numberPlace
      rw [same.payload]
      dsimp only
      omega
  have ssrc := @fixed rtpSsrcRange (by decide)
  have seqnum := @fixed rtpSeqnumRange (by decide)
  have timestamp := @fixed rtpTimestampRange (by decide)
  cases setter with
  | rewrite newSsrc newSeqnum newTimestamp =>
      unfold PacketSetter.places at isPlace
      simp only [List.mem_cons, List.not_mem_nil, or_false] at isPlace
      rcases isPlace with rfl | rfl | rfl
      · exact ssrc
      · split
        · exact number
        · exact seqnum
      · exact timestamp
  | ssrcInHeader value =>
      rw [List.mem_singleton.mp isPlace]
      exact ssrc
  | seqnumInHeader value =>
      rw [List.mem_singleton.mp isPlace]
      exact seqnum
  | timestampInHeader value =>
      rw [List.mem_singleton.mp isPlace]
      exact timestamp
  | tccSeqnumInHeader value =>
      have isTcc := Option.mem_toList.mp isPlace
      rw [same.tcc] at isTcc
      refine ⟨place, ?_, Nat.le_refl _, Nat.le_refl _⟩
      apply List.mem_append_left
      apply List.mem_append_left
      exact List.mem_append_right _ (Option.mem_toList.mpr isTcc)
  | frameNumberInHeader value =>
      obtain ⟨recorded, isRecorded, rfl⟩ :=
        Option.map_eq_some_iff.mp (Option.mem_toList.mp isPlace)
      have isRange : header.dependencyDescriptor.map (·.2) =
          some recorded.2 := by
        rw [← same.descriptor, isRecorded]
        rfl
      obtain ⟨first, isFirst, sameRange⟩ := Option.map_eq_some_iff.mp isRange
      have bounds := inBounds.descriptor _ _ isFirst
      have three : rtpDependencyDescriptorMinLen = 3 := rfl
      refine ⟨recorded.2, ?_, Nat.le_succ _, ?_⟩
      · apply List.mem_append_left
        exact List.mem_append_right _ (Option.mem_toList.mpr isRange)
      · rw [← sameRange]
        unfold frameNumberPlace
        rw [← sameRange]
        dsimp only
        omega
  | seqnumInPayload value =>
      rw [List.mem_singleton.mp isPlace]
      exact number

theorem updates_places {header : Header} {length : Nat}
    (inBounds : header.InBounds length) {setters : List PacketSetter}
    {contents : PacketContents} (same : header.SameRanges contents.header)
    {place : ByteRange} (isPlace : place ∈ (contents.updates setters).2) :
    ∃ known ∈ header.places,
      known.start ≤ place.start ∧ place.finish ≤ known.finish := by
  induction setters generalizing contents with
  | nil => cases isPlace
  | cons setter later ih =>
      rcases List.mem_append.mp isPlace with isFirst | isLater
      · exact setter_places inBounds same isFirst
      · exact ih (update_sameRanges same setter) isLater

end PacketContents

/-! ## Parsing again -/

namespace Packet.Received

variable {header : Header} {packet : Packet}
  (received : packet.Received header) {setters : List PacketSetter}
include received

theorem contentsOf_eq : header.contentsOf packet.isRtx packet.serialized =
    ⟨header, packet.isRtx,
      (header.numberPlace.numberIn packet.serialized).toUInt16⟩ := by
  unfold Header.contentsOf
  rw [Header.reread_self received.parsed]

theorem exists_applySetters
    (room : ∀ seqnum, .seqnumInPayload seqnum ∈ setters →
      header.payloadRange.start + 2 ≤ header.payloadRange.finish) :
    ∃ written, applySetters packet setters = .ok written := by
  obtain ⟨written, wrote, -⟩ := setTo_applySetters
    (Header.placesApart received.parsed) received.built received.inBounds
    received.unencrypted room
  exact ⟨written, wrote⟩

theorem reparse {written : Packet}
    (wrote : applySetters packet setters = .ok written)
    {contents : PacketContents} {places : List ByteRange}
    (updated : (PacketContents.mk header packet.isRtx
      (header.numberPlace.numberIn packet.serialized).toUInt16).updates
        setters = (contents, places)) :
    Header.parse written.serialized = .ok (some contents.header) ∧
      written.isRtx = contents.isRtx ∧
      (header.numberPlace.numberIn written.serialized).toUInt16 =
        contents.payloadNumber ∧
      SameOutside places packet.serialized written.serialized := by
  have recordedApart : header.RecordedApart :=
    Header.placesApart received.parsed
  have inBounds := received.inBounds
  have room := room_of_applySetters recordedApart received.built inBounds
    received.unencrypted wrote
  obtain ⟨_, isWritten, -, -, contains, same⟩ := setTo_applySetters
    recordedApart received.built inBounds received.unencrypted room
  rw [wrote] at isWritten
  cases isWritten
  rw [received.contentsOf_eq, updated] at contains same
  dsimp only at contains same
  have inPlaces : SameOutside header.places packet.serialized
      written.serialized := by
    apply same.mono
    intro place isPlace index covers
    have isUpdated : place ∈ ((PacketContents.mk header packet.isRtx
        (header.numberPlace.numberIn packet.serialized).toUInt16).updates
          setters).2 := by
      rw [updated]
      exact isPlace
    obtain ⟨other, isOther, starts, ends⟩ := PacketContents.updates_places
      inBounds (Header.SameRanges.refl header) isUpdated
    exact ⟨other, isOther, Nat.le_trans starts covers.1,
      Nat.lt_of_lt_of_le covers.2 ends⟩
  refine ⟨?_, ?_, ?_, same⟩
  · rw [Header.parse_rewritten received.parsed inPlaces, ← contains]
    rfl
  · rw [← contains]
    rfl
  · rw [← contains]
    rfl

end Packet.Received

/-- Whatever has been written to a parsed packet, its bytes parse again to
what the setters say, and they differ from the received ones at the written
places only.  A setter fails only if it writes a number into a payload without
room for it. -/
theorem applySetters_reparse {header : Header} {packet : Packet}
    (received : packet.Received header) (setters : List PacketSetter) :
    ((∃ written, applySetters packet setters = .ok written) ↔
      ∀ seqnum, .seqnumInPayload seqnum ∈ setters →
        2 ≤ header.payloadRange.len) ∧
    ∀ written, applySetters packet setters = .ok written →
      ∀ contents places,
        (PacketContents.mk header packet.isRtx
          (header.numberPlace.numberIn packet.serialized).toUInt16).updates
            setters = (contents, places) →
        Header.parse written.serialized = .ok (some contents.header) ∧
          written.isRtx = contents.isRtx ∧
          (header.numberPlace.numberIn written.serialized).toUInt16 =
            contents.payloadNumber ∧
          SameOutside places packet.serialized written.serialized := by
  have inBounds := received.inBounds
  have roomy : 2 ≤ header.payloadRange.len ↔
      header.payloadRange.start + 2 ≤ header.payloadRange.finish := by
    have ordered := inBounds.payload
    unfold ByteRange.len
    omega
  simp only [roomy]
  refine ⟨⟨?_, received.exists_applySetters⟩, ?_⟩
  · rintro ⟨written, wrote⟩
    exact Packet.room_of_applySetters (Header.placesApart received.parsed)
      received.built inBounds received.unencrypted wrote
  · intro written wrote contents places updated
    exact received.reparse wrote updated

/-- The second number of the transport-cc extension stays. -/
theorem applySetters_reparse_of_extended_packet :
    ∃ header written,
      Header.parse extendedPacket = .ok (some header) ∧
        applySetters (Packet.new header 7 none false none false none 0
            extendedPacket)
          [.rewrite 32 65546 9, .tccSeqnumInHeader 1, .tccSeqnumInHeader 2] =
            .ok written ∧
        Header.parse written.serialized = .ok (some { header with
          ssrc := 32
          seqnum := 10
          tccSeqnum := some 2 }) := by
  have parsed : ∃ header, Header.parse extendedPacket = .ok (some header) ∧
      header.payloadRange = ⟨24, 26⟩ := ⟨_, rfl, rfl⟩
  obtain ⟨header, isParsed, isPayload⟩ := parsed
  have received : (Packet.new header 7 none false none false none 0
      extendedPacket).Received header :=
    ⟨isParsed, ⟨rfl, rfl, rfl, rfl, fun isRtx => nomatch isRtx⟩, rfl⟩
  have reparse := applySetters_reparse received
    [.rewrite 32 65546 9, .tccSeqnumInHeader 1, .tccSeqnumInHeader 2]
  obtain ⟨written, wrote⟩ := reparse.1.mpr (by simp)
  refine ⟨header, written, isParsed, wrote, ?_⟩
  obtain ⟨again, -⟩ := reparse.2 written wrote _ _ rfl
  rw [again]
  cases isParsed
  rfl

end CallingService.Backend.Rtp
