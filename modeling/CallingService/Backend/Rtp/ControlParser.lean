import CallingService.Backend.Rtp.HeaderWalk
import CallingService.Backend.Rtp.NackReading
import CallingService.Backend.Rtp.ReportWriting
import CallingService.Foundation.Slices

/-!
# Reading control packets

A received datagram is decrypted and then taken apart into the packets that it
is composed of.  Their lengths are those that the sender wrote, so that each
access is checked; every packet takes at least two words, which ends the loop.
-/

namespace CallingService.Backend.Rtp

open Foundation

/-! ## Headers -/

namespace RtcpHeader

def fromBytes (value : Bytes) : Except Panic RtcpHeader := do
  let first ← byteOf value 0
  let payloadType ← byteOf value 1
  let lengthInWords ← numberAt value ⟨2, 4⟩
  return {
    hasPadding := first &&& 0b00100000 ≠ 0
    countOrFormat := first &&& 0b00011111
    payloadType := payloadType
    lengthInWords := lengthInWords.toUInt16 }

/-- The header and the padding included. -/
def packetLengthInBytes (header : RtcpHeader) : Nat :=
  (header.lengthInWords.toNat + 1) * 4

end RtcpHeader

/-! ## Reports -/

/-- The cumulative loss is a 24-bit value. -/
structure ReportBlock where
  ssrc : Ssrc
  fractionLoss : UInt8
  cumulativeLossCount : Nat
  highestSequenceNum : UInt32
  jitter : UInt32
  lastSenderReport : UInt32
  delayLastSenderReport : UInt32

def ReportBlock.fromBytes (value : Bytes) :
    Except Panic (Except String ReportBlock) :=
  if value.length < reportBlockLength then
    .ok (.error "Malformed Report Block: too few bytes")
  else do
    let ssrc ← numberAt value ⟨0, 4⟩
    let fractionLoss ← byteOf value 4
    let cumulativeLossCount ← numberAt value ⟨5, 8⟩
    let highestSequenceNum ← numberAt value ⟨8, 12⟩
    let jitter ← numberAt value ⟨12, 16⟩
    let lastSenderReport ← numberAt value ⟨16, 20⟩
    let delayLastSenderReport ← numberAt value ⟨20, 24⟩
    return .ok {
      ssrc := ssrc.toUInt32
      fractionLoss := fractionLoss
      cumulativeLossCount := cumulativeLossCount
      highestSequenceNum := highestSequenceNum.toUInt32
      jitter := jitter.toUInt32
      lastSenderReport := lastSenderReport.toUInt32
      delayLastSenderReport := delayLastSenderReport.toUInt32 }

/-- The loop over the blocks of a report. -/
def readReportBlocks :
    Nat → Bytes → Except Panic (Except String (List ReportBlock))
  | 0, _ => .ok (.ok [])
  | count + 1, bytesLeft => do
      let first ← ReportBlock.fromBytes bytesLeft
      match first with
      | .error text => return .error text
      | .ok block =>
          let rest ← sliceOf bytesLeft ⟨reportBlockLength, bytesLeft.length⟩
          let others ← readReportBlocks count rest
          return others.map (block :: ·)

def SenderInfo.fromBytes (bytes : Bytes) : Except Panic SenderInfo := do
  let ssrc ← numberAt bytes ⟨0, 4⟩
  let ntpTs ← numberAt bytes ⟨4, 12⟩
  let rtpTs ← numberAt bytes ⟨12, 16⟩
  let packetCount ← numberAt bytes ⟨16, 20⟩
  let octetCount ← numberAt bytes ⟨20, 24⟩
  return {
    ssrc := ssrc.toUInt32
    ntpTs := ntpTs
    rtpTs := rtpTs.toUInt32
    packetCount := packetCount.toUInt32
    octetCount := octetCount.toUInt32 }

/-- What is wrong with a report, by its header and the bytes behind it.  Both
kinds of reports name the type of receiver reports as the expected one. -/
def malformedReport (kind : String) (expected : UInt8) (fixedLength : Nat)
    (value : Bytes) (header : RtcpHeader) : Option String :=
  let found := header.payloadType
  let headerLength := header.lengthInWords.toNat * 4
  let reportCount := header.countOrFormat.toNat
  let actualSize := value.length
  if found ≠ expected then
    some s!"Malformed {kind} Report: expected payload type {rtcpTypeReceiverReport}, found {found}"
  else if headerLength < fixedLength + reportCount * reportBlockLength ∨
      actualSize < headerLength then
    some s!"Malformed {kind} Report: header_size={headerLength}, report_count={reportCount}, actual_size={actualSize}"
  else none

structure SenderReport where
  header : RtcpHeader
  senderInfo : SenderInfo
  reportBlocks : List ReportBlock

namespace SenderReport

def fromBytesAfterHeader (value : Bytes) (header : RtcpHeader) :
    Except Panic (Except String SenderReport) :=
  match malformedReport "Sender" rtcpTypeSenderReport SenderInfo.length value
    header with
  | some text => .ok (.error text)
  | none => do
      let senderInfo ← SenderInfo.fromBytes value
      let bytesLeft ← sliceOf value ⟨SenderInfo.length, value.length⟩
      let reportBlocks ←
        readReportBlocks header.countOrFormat.toNat bytesLeft
      return reportBlocks.map fun blocks => ⟨header, senderInfo, blocks⟩

def ssrc (report : SenderReport) : Ssrc := report.senderInfo.ssrc

end SenderReport

structure ReceiverReport where
  header : RtcpHeader
  senderSsrc : Ssrc
  reportBlocks : List ReportBlock

namespace ReceiverReport

def ssrcLength : Nat := 4

def fromBytesAfterHeader (value : Bytes) (header : RtcpHeader) :
    Except Panic (Except String ReceiverReport) :=
  match malformedReport "Receiver" rtcpTypeReceiverReport ssrcLength value
    header with
  | some text => .ok (.error text)
  | none => do
      let senderSsrc ← numberAt value ⟨0, ssrcLength⟩
      let bytesLeft ← sliceOf value ⟨ssrcLength, value.length⟩
      let reportBlocks ←
        readReportBlocks header.countOrFormat.toNat bytesLeft
      return reportBlocks.map fun blocks =>
        ⟨header, senderSsrc.toUInt32, blocks⟩

def ssrc (report : ReceiverReport) : Ssrc := report.senderSsrc

end ReceiverReport

/-! ## Feedback -/

structure KeyFrameRequest where
  ssrc : Ssrc

/-- The loop over the items of a request, which ends on every payload. -/
def nackItemLoop :
    EndingLoop (Bytes × List TruncatedSequenceNumber)
      (Except ReadError (List TruncatedSequenceNumber)) where
  body := parseNackItem
  measure state := state.1.length
  falls state next goesOn := by
    have shorter := parseNackItem_shorter goesOn
    omega

/-- `parse_nack`, whose loop always ends. -/
def readNack (rtcpPayload : Bytes) : Except ReadError Nack :=
  match readBigEndian 4 rtcpPayload with
  | none => .error .unexpectedEof
  | some (ssrc, reader) =>
      (nackItemLoop.run (reader, [])).map fun seqnums =>
        ⟨ssrc.toUInt32, seqnums⟩

theorem parseNack_eq {rounds : Nat} {payload : Bytes}
    (enough : payload.length < rounds) :
    parseNack rounds payload = some (readNack payload) := by
  obtain ⟨result, ends⟩ := exists_parseNack enough
  rw [ends]
  unfold parseNack at ends
  unfold readNack
  cases isRead : readBigEndian 4 payload with
  | none =>
      rw [isRead] at ends
      exact ends.symm
  | some found =>
      obtain ⟨ssrc, reader⟩ := found
      rw [isRead] at ends
      obtain ⟨ended, loopEnds, rfl⟩ := Option.map_eq_some_iff.mp ends
      have ran : nackItemLoop.run (reader, []) = ended :=
        EndingLoop.run_eq_of_runLoop loopEnds
      rw [← ran]

/-! ## Compound packets -/

structure ControlPacket where
  keyFrameRequests : List KeyFrameRequest
  tccFeedbacks : List Bytes
  nacks : List Nack
  senderReports : List SenderReport
  receiverReports : List ReceiverReport

namespace ControlPacket

def empty : ControlPacket := ⟨[], [], [], [], []⟩

/-- The fields with what one more packet holds; `none` gives the datagram up.
A report or a request that cannot be read is only logged. -/
def add (incoming : ControlPacket) (header : RtcpHeader)
    (payload ignoreSenderSsrcPayload : Bytes) :
    Except Panic (Option ControlPacket) :=
  let kind := (header.payloadType, header.countOrFormat)
  if header.payloadType = rtcpTypeSenderReport then do
    let report ← SenderReport.fromBytesAfterHeader payload header
    return some { incoming with
      senderReports := incoming.senderReports ++ report.toOption.toList }
  else if header.payloadType = rtcpTypeReceiverReport then do
    let report ← ReceiverReport.fromBytesAfterHeader payload header
    return some { incoming with
      receiverReports := incoming.receiverReports ++ report.toOption.toList }
  else if kind = (rtcpTypeGenericFeedback, rtcpFormatNack) then
    .ok (some { incoming with
      nacks := incoming.nacks ++
        (readNack ignoreSenderSsrcPayload).toOption.toList })
  else if kind = (rtcpTypeGenericFeedback, rtcpFormatTransportCc) then
    .ok (some { incoming with
      tccFeedbacks := incoming.tccFeedbacks ++ [ignoreSenderSsrcPayload] })
  else if kind = (rtcpTypeSpecificFeedback, rtcpFormatPli) then
    if ignoreSenderSsrcPayload.length < 4 then .ok none
    else do
      let ssrc ← numberAt ignoreSenderSsrcPayload ⟨0, 4⟩
      return some { incoming with
        keyFrameRequests := incoming.keyFrameRequests ++ [⟨ssrc.toUInt32⟩] }
  -- the other types that the source lists are ignored as any further one is
  else .ok (some incoming)

/-- One round of the loop, while there is a header left. -/
def nextPacket (compoundPackets : Bytes) (incoming : ControlPacket) :
    Except Panic (Option (Bytes × ControlPacket)) := do
  let header ← RtcpHeader.fromBytes compoundPackets
  if header.lengthInWords = 0 then return none
  else match checkedSplitAt compoundPackets header.packetLengthInBytes with
    | none => return none
    | some (packet, afterPacket) =>
        let payload ← sliceOf packet ⟨rtcpHeaderLength, packet.length⟩
        let ignoreSenderSsrcPayload ← sliceOf payload ⟨4, payload.length⟩
        let added ← incoming.add header payload ignoreSenderSsrcPayload
        return added.map fun found => (afterPacket, found)

def compoundPacket (state : Bytes × ControlPacket) :
    Round (Bytes × ControlPacket) (Except Panic (Option ControlPacket)) :=
  if state.1.length < rtcpHeaderLength then .leave (.ok (some state.2))
  else match nextPacket state.1 state.2 with
    | .error cause => .leave (.error cause)
    | .ok none => .leave (.ok none)
    | .ok (some next) => .again next

end ControlPacket

/-! ## Every access is inside -/

theorem numberAt_eq {bytes : Bytes} {range : ByteRange}
    (ordered : range.start ≤ range.finish)
    (inside : range.finish ≤ bytes.length) :
    numberAt bytes range =
      .ok (fromBigEndian (slice range.start range.finish bytes)) := by
  have length : (slice range.start range.finish bytes).length = range.len :=
    length_slice_of_le inside
  have whole : ((slice range.start range.finish bytes).take range.len).drop 0 =
      slice range.start range.finish bytes :=
    List.take_of_length_le (Nat.le_of_eq length)
  unfold numberAt
  rw [sliceOf_of_le ordered inside, ok_bind]
  change (sliceOf (slice range.start range.finish bytes) ⟨0, range.len⟩ >>=
    fun number => .ok (fromBigEndian number)) = _
  rw [sliceOf_of_le (Nat.zero_le _) (Nat.le_of_eq length.symm), ok_bind, whole]

theorem numberAt_ok {bytes : Bytes} {range : ByteRange}
    (ordered : range.start ≤ range.finish)
    (inside : range.finish ≤ bytes.length) :
    ∃ number, numberAt bytes range = .ok number :=
  ⟨_, numberAt_eq ordered inside⟩

theorem sliceFrom_eq {bytes : Bytes} {start : Nat}
    (inside : start ≤ bytes.length) :
    sliceOf bytes ⟨start, bytes.length⟩ = .ok (bytes.drop start) := by
  rw [sliceOf_of_le inside (Nat.le_refl _)]
  dsimp only
  rw [List.take_length]

theorem RtcpHeader.fromBytes_ok {value : Bytes}
    (long : rtcpHeaderLength ≤ value.length) :
    ∃ header, RtcpHeader.fromBytes value = .ok header := by
  have four : rtcpHeaderLength = 4 := rfl
  obtain ⟨lengthInWords, isLength⟩ := @numberAt_ok value ⟨2, 4⟩ (by decide) long
  unfold fromBytes
  rw [byteOf_of_lt (by omega), ok_bind, byteOf_of_lt (by omega), ok_bind,
    isLength]
  exact ⟨_, rfl⟩

theorem ReportBlock.fromBytes_ok (value : Bytes) :
    ∃ outcome, ReportBlock.fromBytes value = .ok outcome ∧
      ∀ block, outcome = .ok block → reportBlockLength ≤ value.length := by
  unfold fromBytes
  by_cases short : value.length < reportBlockLength
  · rw [if_pos short]
    refine ⟨_, rfl, ?_⟩
    intro block isBlock
    cases isBlock
  · have long := Nat.le_of_not_lt short
    have inside : ∀ {start finish}, start ≤ finish →
        finish ≤ reportBlockLength →
        ∃ number, numberAt value ⟨start, finish⟩ = .ok number :=
      fun ordered below => numberAt_ok ordered (Nat.le_trans below long)
    obtain ⟨ssrc, isSsrc⟩ := @inside 0 4 (by decide) (by decide)
    obtain ⟨loss, isLoss⟩ := @inside 5 8 (by decide) (by decide)
    obtain ⟨highest, isHighest⟩ := @inside 8 12 (by decide) (by decide)
    obtain ⟨jitter, isJitter⟩ := @inside 12 16 (by decide) (by decide)
    obtain ⟨last, isLast⟩ := @inside 16 20 (by decide) (by decide)
    obtain ⟨delay, isDelay⟩ := @inside 20 24 (by decide) (by decide)
    have isFraction := @byteOf_of_lt value 4 (Nat.lt_of_lt_of_le (by decide) long)
    rw [if_neg short, isSsrc, ok_bind, isFraction, ok_bind, isLoss, ok_bind,
      isHighest, ok_bind, isJitter, ok_bind, isLast, ok_bind, isDelay]
    exact ⟨_, rfl, fun _ _ => long⟩

theorem readReportBlocks_ok (count : Nat) (bytesLeft : Bytes) :
    ∃ outcome, readReportBlocks count bytesLeft = .ok outcome := by
  induction count generalizing bytesLeft with
  | zero => exact ⟨_, rfl⟩
  | succ count ih =>
      obtain ⟨first, isFirst, long⟩ := ReportBlock.fromBytes_ok bytesLeft
      unfold readReportBlocks
      rw [isFirst, ok_bind]
      cases first with
      | error text => exact ⟨_, rfl⟩
      | ok block =>
          obtain ⟨others, isOthers⟩ := ih (bytesLeft.drop reportBlockLength)
          dsimp only
          rw [sliceFrom_eq (long block rfl), ok_bind, isOthers]
          exact ⟨_, rfl⟩

theorem SenderInfo.fromBytes_ok {bytes : Bytes}
    (long : SenderInfo.length ≤ bytes.length) :
    ∃ info, SenderInfo.fromBytes bytes = .ok info := by
  have inside : ∀ {start finish}, start ≤ finish →
      finish ≤ SenderInfo.length →
      ∃ number, numberAt bytes ⟨start, finish⟩ = .ok number :=
    fun ordered below => numberAt_ok ordered (Nat.le_trans below long)
  obtain ⟨ssrc, isSsrc⟩ := @inside 0 4 (by decide) (by decide)
  obtain ⟨ntpTs, isNtpTs⟩ := @inside 4 12 (by decide) (by decide)
  obtain ⟨rtpTs, isRtpTs⟩ := @inside 12 16 (by decide) (by decide)
  obtain ⟨packets, isPackets⟩ := @inside 16 20 (by decide) (by decide)
  obtain ⟨octets, isOctets⟩ := @inside 20 24 (by decide) (by decide)
  unfold fromBytes
  rw [isSsrc, ok_bind, isNtpTs, ok_bind, isRtpTs, ok_bind, isPackets, ok_bind,
    isOctets]
  exact ⟨_, rfl⟩

/-- A report that is not rejected has its fixed part. -/
theorem fixedLength_le_of_malformedReport {kind : String} {expected : UInt8}
    {fixedLength : Nat} {value : Bytes} {header : RtcpHeader}
    (wellFormed :
      malformedReport kind expected fixedLength value header = none) :
    fixedLength ≤ value.length := by
  unfold malformedReport at wellFormed
  dsimp only at wellFormed
  split at wellFormed
  · cases wellFormed
  · split at wellFormed
    · cases wellFormed
    · omega

theorem SenderReport.fromBytesAfterHeader_ok (value : Bytes)
    (header : RtcpHeader) :
    ∃ outcome, fromBytesAfterHeader value header = .ok outcome := by
  unfold fromBytesAfterHeader
  split
  · exact ⟨_, rfl⟩
  · rename_i wellFormed
    have long := fixedLength_le_of_malformedReport wellFormed
    obtain ⟨info, isInfo⟩ := SenderInfo.fromBytes_ok long
    obtain ⟨blocks, isBlocks⟩ := readReportBlocks_ok
      header.countOrFormat.toNat (value.drop SenderInfo.length)
    rw [isInfo, ok_bind, sliceFrom_eq long, ok_bind, isBlocks]
    exact ⟨_, rfl⟩

theorem ReceiverReport.fromBytesAfterHeader_ok (value : Bytes)
    (header : RtcpHeader) :
    ∃ outcome, fromBytesAfterHeader value header = .ok outcome := by
  unfold fromBytesAfterHeader
  split
  · exact ⟨_, rfl⟩
  · rename_i wellFormed
    have long := fixedLength_le_of_malformedReport wellFormed
    obtain ⟨ssrc, isSsrc⟩ :=
      @numberAt_ok value ⟨0, ssrcLength⟩ (Nat.zero_le _) long
    obtain ⟨blocks, isBlocks⟩ := readReportBlocks_ok
      header.countOrFormat.toNat (value.drop ssrcLength)
    rw [isSsrc, ok_bind, sliceFrom_eq long, ok_bind, isBlocks]
    exact ⟨_, rfl⟩

namespace ControlPacket

/-- The feedback that one more packet adds. -/
structure Adds (incoming next : ControlPacket) (kind : UInt8 × UInt8)
    (feedback : Bytes) : Prop where
  nacks : next.nacks = incoming.nacks ++
    if kind = (rtcpTypeGenericFeedback, rtcpFormatNack) then
      (readNack feedback).toOption.toList
    else []
  keyFrameRequests : next.keyFrameRequests = incoming.keyFrameRequests ++
    if kind = (rtcpTypeSpecificFeedback, rtcpFormatPli) then
      [⟨(fromBigEndian (feedback.take 4)).toUInt32⟩]
    else []
  tccFeedbacks : next.tccFeedbacks = incoming.tccFeedbacks ++
    if kind = (rtcpTypeGenericFeedback, rtcpFormatTransportCc) then [feedback]
    else []

/-- Reports and ignored packets are no feedback. -/
theorem adds_of_other {incoming next : ControlPacket} {kind : UInt8 × UInt8}
    {feedback : Bytes}
    (notNack : kind ≠ (rtcpTypeGenericFeedback, rtcpFormatNack))
    (notTransportCc : kind ≠ (rtcpTypeGenericFeedback, rtcpFormatTransportCc))
    (notPli : kind ≠ (rtcpTypeSpecificFeedback, rtcpFormatPli))
    (nacks : next.nacks = incoming.nacks)
    (keyFrameRequests : next.keyFrameRequests = incoming.keyFrameRequests)
    (tccFeedbacks : next.tccFeedbacks = incoming.tccFeedbacks) :
    incoming.Adds next kind feedback where
  nacks := by
    rw [if_neg notNack, List.append_nil]
    exact nacks
  keyFrameRequests := by
    rw [if_neg notPli, List.append_nil]
    exact keyFrameRequests
  tccFeedbacks := by
    rw [if_neg notTransportCc, List.append_nil]
    exact tccFeedbacks

/-- Every access is inside, and only a request for a key frame can be too
short. -/
theorem add_spec (incoming : ControlPacket) (header : RtcpHeader)
    (payload feedback : Bytes) :
    ∃ outcome, incoming.add header payload feedback = .ok outcome ∧
      (outcome = none ↔ (header.payloadType, header.countOrFormat) =
        (rtcpTypeSpecificFeedback, rtcpFormatPli) ∧ feedback.length < 4) ∧
      ∀ next, outcome = some next → incoming.Adds next
        (header.payloadType, header.countOrFormat) feedback := by
  have otherType : ∀ {pt type format : UInt8}, header.payloadType = pt →
      pt ≠ type → (header.payloadType, header.countOrFormat) ≠ (type, format) :=
    fun isType different same =>
      different (isType.symm.trans (Prod.mk.inj same).1)
  unfold add
  dsimp only
  split
  · rename_i isSender
    obtain ⟨report, isReport⟩ :=
      SenderReport.fromBytesAfterHeader_ok payload header
    rw [isReport]
    refine ⟨_, rfl, iff_of_false (Option.some_ne_none _) fun short =>
      otherType isSender (by decide) short.1, ?_⟩
    rintro next ⟨⟩
    exact adds_of_other (otherType isSender (by decide))
      (otherType isSender (by decide)) (otherType isSender (by decide)) rfl rfl
      rfl
  split
  · rename_i isReceiver
    obtain ⟨report, isReport⟩ :=
      ReceiverReport.fromBytesAfterHeader_ok payload header
    rw [isReport]
    refine ⟨_, rfl, iff_of_false (Option.some_ne_none _) fun short =>
      otherType isReceiver (by decide) short.1, ?_⟩
    rintro next ⟨⟩
    exact adds_of_other (otherType isReceiver (by decide))
      (otherType isReceiver (by decide)) (otherType isReceiver (by decide)) rfl
      rfl rfl
  split
  · rename_i isNack
    rw [isNack]
    refine ⟨_, rfl, iff_of_false (Option.some_ne_none _) fun short =>
      absurd short.1 (by decide), ?_⟩
    rintro next ⟨⟩
    exact ⟨rfl, (List.append_nil _).symm, (List.append_nil _).symm⟩
  rename_i notNack
  split
  · rename_i isTransportCc
    rw [isTransportCc]
    refine ⟨_, rfl, iff_of_false (Option.some_ne_none _) fun short =>
      absurd short.1 (by decide), ?_⟩
    rintro next ⟨⟩
    exact ⟨(List.append_nil _).symm, (List.append_nil _).symm, rfl⟩
  rename_i notTransportCc
  split
  · rename_i isPli
    rw [isPli]
    split
    · rename_i short
      refine ⟨_, rfl, iff_of_true rfl ⟨rfl, short⟩, ?_⟩
      rintro next ⟨⟩
    · rename_i long
      rw [@numberAt_eq feedback ⟨0, 4⟩ (by decide) (Nat.le_of_not_lt long)]
      refine ⟨_, rfl, iff_of_false (Option.some_ne_none _) fun short =>
        long short.2, ?_⟩
      rintro next ⟨⟩
      exact ⟨(List.append_nil _).symm, rfl, (List.append_nil _).symm⟩
  · rename_i notPli
    refine ⟨_, rfl, iff_of_false (Option.some_ne_none _) fun short =>
      notPli short.1, ?_⟩
    rintro next ⟨⟩
    exact adds_of_other notNack notTransportCc notPli rfl rfl rfl

theorem add_ok (incoming : ControlPacket) (header : RtcpHeader)
    (payload feedback : Bytes) :
    ∃ outcome, incoming.add header payload feedback = .ok outcome := by
  obtain ⟨outcome, added, -⟩ := incoming.add_spec header payload feedback
  exact ⟨outcome, added⟩

/-- A round reads inside what is left, and takes two words at least. -/
theorem nextPacket_spec {compoundPackets : Bytes} (incoming : ControlPacket)
    (long : rtcpHeaderLength ≤ compoundPackets.length) :
    ∃ outcome, nextPacket compoundPackets incoming = .ok outcome ∧
      ∀ next, outcome = some next →
        next.1.length + 8 ≤ compoundPackets.length := by
  have four : rtcpHeaderLength = 4 := rfl
  obtain ⟨header, isHeader⟩ := RtcpHeader.fromBytes_ok long
  unfold nextPacket
  rw [isHeader, ok_bind]
  by_cases empty : header.lengthInWords = 0
  · rw [if_pos empty]
    refine ⟨_, rfl, ?_⟩
    intro next isNext
    cases isNext
  · have someWords : header.lengthInWords.toNat ≠ 0 := fun zero =>
      empty (UInt16.toNat_inj.mp zero)
    have twoWords : 8 ≤ header.packetLengthInBytes := by
      unfold RtcpHeader.packetLengthInBytes
      omega
    rw [if_neg empty]
    unfold checkedSplitAt
    by_cases short : compoundPackets.length < header.packetLengthInBytes
    · rw [if_pos short]
      refine ⟨_, rfl, ?_⟩
      intro next isNext
      cases isNext
    · have packetLength : (compoundPackets.take
          header.packetLengthInBytes).length = header.packetLengthInBytes :=
        List.length_take_of_le (Nat.le_of_not_lt short)
      have payloadLength : ((compoundPackets.take
          header.packetLengthInBytes).drop rtcpHeaderLength).length =
          header.packetLengthInBytes - rtcpHeaderLength := by
        rw [List.length_drop, packetLength]
      obtain ⟨added, isAdded⟩ := incoming.add_ok header
        ((compoundPackets.take header.packetLengthInBytes).drop
          rtcpHeaderLength)
        (((compoundPackets.take header.packetLengthInBytes).drop
          rtcpHeaderLength).drop 4)
      rw [if_neg short]
      dsimp only
      rw [sliceFrom_eq (by omega), ok_bind, sliceFrom_eq (by omega), ok_bind,
        isAdded]
      refine ⟨_, rfl, ?_⟩
      intro next isNext
      obtain ⟨found, -, rfl⟩ := Option.map_eq_some_iff.mp isNext
      dsimp only
      rw [List.length_drop]
      omega

theorem compoundPacket_shorter {state next : Bytes × ControlPacket}
    (goesOn : compoundPacket state = .again next) :
    next.1.length + 8 ≤ state.1.length := by
  unfold compoundPacket at goesOn
  split at goesOn
  · cases goesOn
  · rename_i long
    obtain ⟨outcome, isOutcome, shorter⟩ :=
      nextPacket_spec state.2 (Nat.le_of_not_lt long)
    rw [isOutcome] at goesOn
    cases outcome with
    | none => cases goesOn
    | some found =>
        cases goesOn
        exact shorter next rfl

/-- The loop over the packets, with the bytes that are left as its measure. -/
def compoundLoop :
    EndingLoop (Bytes × ControlPacket)
      (Except Panic (Option ControlPacket)) where
  body := compoundPacket
  measure state := state.1.length
  falls state next goesOn := by
    have shorter := compoundPacket_shorter goesOn
    omega

theorem body_compoundLoop (state : Bytes × ControlPacket) :
    compoundLoop.body state = compoundPacket state := rfl

theorem compoundLoop_ok (state : Bytes × ControlPacket) :
    ∃ outcome, compoundLoop.run state = .ok outcome := by
  apply @EndingLoop.induction _ _ compoundLoop
    fun state => ∃ outcome, compoundLoop.run state = .ok outcome
  · intro state result leaves
    rw [EndingLoop.run_leave leaves]
    rw [body_compoundLoop] at leaves
    unfold compoundPacket at leaves
    split at leaves
    · cases leaves
      exact ⟨_, rfl⟩
    · rename_i long
      obtain ⟨outcome, isOutcome, -⟩ :=
        nextPacket_spec state.2 (Nat.le_of_not_lt long)
      rw [isOutcome] at leaves
      cases outcome with
      | none =>
          cases leaves
          exact ⟨_, rfl⟩
      | some found => cases leaves
  · intro state next goesOn later
    rw [EndingLoop.run_again goesOn]
    exact later

/-- The loop takes a round for each eight bytes, and one more. -/
theorem isSome_runLoop_compoundPacket (state : Bytes × ControlPacket) :
    (runLoop compoundPacket (state.1.length / 8 + 1) state).isSome = true := by
  obtain ⟨result, ends⟩ := @exists_runLoop _ _ compoundPacket
    (fun state => state.1.length / 8)
    (fun state next goesOn => by
      have shorter := compoundPacket_shorter goesOn
      omega)
    (state.1.length / 8 + 1) state (Nat.lt_succ_self _)
  rw [ends]
  rfl

/-! ## Datagrams -/

/-- `parse_and_decrypt_in_place`.  Decrypting replaces the bytes between the
header and the tag. -/
def parseAndDecryptInPlace (aead : Aead) (serialized : Bytes)
    (keys : KeyAndSalt) : Except Panic (Option ControlPacket) :=
  let length := serialized.length
  if length < rtcpHeaderLen + srtpAuthTagLen + srtcpFooterLen then .ok none
  else do
    let senderSsrc ← numberAt serialized ⟨4, 8⟩
    let footer ← sliceOf serialized ⟨length - srtcpFooterLen, length⟩
    let flags ← byteOf footer 0
    let number ← numberAt footer ⟨0, 4⟩
    let srtcpIndex := number.toUInt32 &&& 0x7FFFFFFF
    if flags &&& 0b10000000 = 0 then return none
    else
      let lenWithoutTagAndFooter := length - srtpAuthTagLen - srtcpFooterLen
      let header ← sliceOf serialized ⟨0, rtcpHeaderLen⟩
      let ciphertext ←
        sliceOf serialized ⟨rtcpHeaderLen, lenWithoutTagAndFooter⟩
      let tag ←
        sliceOf serialized ⟨lenWithoutTagAndFooter, length - srtcpFooterLen⟩
      let decrypted := do
        let iv ← rtcpIv senderSsrc.toUInt32 srtcpIndex keys.salt
        aead.decrypt keys.key iv (header ++ footer) ciphertext tag
      match decrypted with
      | none => return none
      | some plaintext =>
          let compoundPackets ← sliceOf (header ++ plaintext ++ tag ++ footer)
            ⟨0, lenWithoutTagAndFooter⟩
          compoundLoop.run (compoundPackets, empty)

theorem parseAndDecryptInPlace_ok (aead : Aead) (serialized : Bytes)
    (keys : KeyAndSalt) :
    ∃ outcome, parseAndDecryptInPlace aead serialized keys = .ok outcome := by
  have twentyEight :
      rtcpHeaderLen + srtpAuthTagLen + srtcpFooterLen = 28 := rfl
  have eight : rtcpHeaderLen = 8 := rfl
  have four : srtcpFooterLen = 4 := rfl
  have sixteen : srtpAuthTagLen = 16 := rfl
  unfold parseAndDecryptInPlace
  dsimp only
  by_cases short : serialized.length <
      rtcpHeaderLen + srtpAuthTagLen + srtcpFooterLen
  · rw [if_pos short]
    exact ⟨_, rfl⟩
  · have footerLength : (serialized.drop
        (serialized.length - srtcpFooterLen)).length = 4 := by
      rw [List.length_drop]
      omega
    obtain ⟨ssrc, isSsrc⟩ := @numberAt_ok serialized ⟨4, 8⟩ (by decide)
      (by dsimp only; omega)
    obtain ⟨number, isNumber⟩ := @numberAt_ok
      (serialized.drop (serialized.length - srtcpFooterLen)) ⟨0, 4⟩
      (by decide) (Nat.le_of_eq footerLength.symm)
    rw [if_neg short, isSsrc, ok_bind, sliceFrom_eq (by omega), ok_bind,
      byteOf_of_lt (by omega), ok_bind, isNumber, ok_bind]
    split
    · exact ⟨_, rfl⟩
    · rw [sliceOf_of_le (Nat.zero_le _) (by dsimp only; omega), ok_bind,
        sliceOf_of_le (by dsimp only; omega) (by dsimp only; omega), ok_bind,
        sliceOf_of_le (by dsimp only; omega) (by dsimp only; omega), ok_bind]
      split
      · exact ⟨_, rfl⟩
      · rename_i plaintext decrypted
        obtain ⟨iv, -, opened⟩ := Option.bind_eq_some_iff.mp decrypted
        have plaintextLength := aead.decrypt_length opened
        rw [sliceOf_of_le (Nat.zero_le _) ?inside, ok_bind]
        · exact compoundLoop_ok _
        case inside =>
          simp only [List.length_append, List.length_drop, List.length_take,
            plaintextLength]
          omega

end ControlPacket

end CallingService.Backend.Rtp
