import CallingService.Backend.Rtp.Endpoint

/-!
# Packets that do not authenticate

`receive_rtp` records the numbers of a packet before it decrypts it.  A packet
that does not authenticate therefore uses up its sequence number: the genuine
packet with this number is dropped as a replay when it arrives later.
-/

namespace CallingService.Backend.Rtp

open Foundation

/-- The packet is dropped because its decryption fails. -/
def FailsAuthentication (aead : Aead) (endpoint : Endpoint)
    (encrypted : Bytes) (now : Instant) : Prop :=
  ∃ header, Header.parse encrypted = .ok (some header) ∧
    (endpoint.recordArrival header now).2.reuse = .notUsedBefore ∧
    (Endpoint.incomingPacket header (endpoint.recordArrival header now).2
      encrypted now).decryptInPlace aead endpoint.decrypt.rtp = .ok none

/-- The bytes of a packet that the holder of the keys has encrypted. -/
def Genuine (aead : Aead) (keys : KeyAndSalt) (serialized : Bytes) : Prop :=
  ∃ plain sent : Packet,
    plain.encryptInPlace aead keys = .ok (some sent) ∧
      sent.serialized = serialized

/-- The accepted packets of a run, by their SSRC and expanded number. -/
def acceptedNumbers (aead : Aead) :
    Endpoint → List (Bytes × Instant) →
      Except Panic (List (Option (Ssrc × FullSequenceNumber)))
  | _, [] => .ok []
  | endpoint, (encrypted, now) :: rest => do
      let (next, result) ← endpoint.receiveRtp aead encrypted now
      let others ← acceptedNumbers aead next rest
      return result.map (fun packet => (packet.ssrc, packet.seqnum)) :: others

/-- Whatever genuine packets follow, they are accepted as if the rejected
packet had not been there. -/
def FollowedAlike (aead : Aead) (endpoint : Endpoint) (rejected : Bytes)
    (now : Instant) : Prop :=
  ∀ {after : Endpoint},
    endpoint.receiveRtp aead rejected now = .ok (after, none) →
    ∀ packets : List (Bytes × Instant),
      (∀ packet ∈ packets, Genuine aead endpoint.decrypt.rtp packet.1) →
      acceptedNumbers aead after packets =
        acceptedNumbers aead endpoint packets

/-- The rejected packet has changed neither the numbers of its SSRC nor the
largest transport-cc number. -/
def NumbersKept (aead : Aead) (endpoint : Endpoint) (rejected : Bytes)
    (now : Instant) : Prop :=
  ∀ {after : Endpoint} {header : Header},
    Header.parse rejected = .ok (some header) →
    endpoint.receiveRtp aead rejected now = .ok (after, none) →
    (after.incomingSsrcState header.ssrc now).maxSeqnum =
        (endpoint.incomingSsrcState header.ssrc now).maxSeqnum ∧
      (after.incomingSsrcState header.ssrc now).seqnumReuseDetector =
        (endpoint.incomingSsrcState header.ssrc now).seqnumReuseDetector ∧
      after.maxReceivedTccSeqnum = endpoint.maxReceivedTccSeqnum

namespace Endpoint

variable {aead : Aead} {endpoint : Endpoint} {header other : Header}
variable {now : Instant}

/-! ## Recording a number twice -/

theorem incomingSsrcState_setMaxReceivedTccSeqnum (endpoint : Endpoint)
    (maxSeqnum : FullSequenceNumber) (ssrc : Ssrc) (now : Instant) :
    (endpoint.setMaxReceivedTccSeqnum maxSeqnum).incomingSsrcState ssrc now =
      endpoint.incomingSsrcState ssrc now := rfl

@[simp] theorem incomingSsrcState_expandTccSeqnum (endpoint : Endpoint)
    (header : Header) (ssrc : Ssrc) (now : Instant) :
    (endpoint.expandTccSeqnum header).1.incomingSsrcState ssrc now =
      endpoint.incomingSsrcState ssrc now := by
  unfold expandTccSeqnum
  split
  · rfl
  · exact incomingSsrcState_setMaxReceivedTccSeqnum _ _ _ _

@[simp] theorem incomingSsrcState_setIncomingSsrcState (endpoint : Endpoint)
    (ssrc : Ssrc) (state : IncomingSsrcState) (now : Instant) :
    (endpoint.setIncomingSsrcState ssrc state).incomingSsrcState ssrc now =
      state := by
  simp [incomingSsrcState, setIncomingSsrcState]

/-- The number that a packet gets from the state of its SSRC. -/
def expandedSeqnum (endpoint : Endpoint) (header : Header) (now : Instant) :
    FullSequenceNumber × FullSequenceNumber :=
  expandSeqnum header.seqnum
    (endpoint.incomingSsrcState header.ssrc now).maxSeqnum

/-- The outcome of `recordArrival`, with the numbers as arguments: their
computation stays closed to the proofs below. -/
def recorded (expanded : Endpoint × Option FullSequenceNumber) (ssrc : Ssrc)
    (state : IncomingSsrcState)
    (expansion : FullSequenceNumber × FullSequenceNumber)
    (detection : SequenceNumberReuseDetector × SequenceNumberReuse) :
    Endpoint × Arrival :=
  (expanded.1.setIncomingSsrcState ssrc { state with
      maxSeqnum := expansion.2
      seqnumReuseDetector := detection.1 },
    { tccSeqnum := expanded.2
      seqnumInHeader := expansion.1
      reuse := detection.2 })

section Recorded

variable (expanded : Endpoint × Option FullSequenceNumber) (ssrc : Ssrc)
variable (state : IncomingSsrcState)
variable (expansion : FullSequenceNumber × FullSequenceNumber)
variable (detection : SequenceNumberReuseDetector × SequenceNumberReuse)

theorem recorded_seqnumInHeader :
    (recorded expanded ssrc state expansion detection).2.seqnumInHeader =
      expansion.1 := rfl

theorem recorded_reuse :
    (recorded expanded ssrc state expansion detection).2.reuse =
      detection.2 := rfl

theorem recorded_maxSeqnum (now : Instant) :
    ((recorded expanded ssrc state expansion detection).1.incomingSsrcState
      ssrc now).maxSeqnum = expansion.2 := by
  unfold recorded
  rw [incomingSsrcState_setIncomingSsrcState]

theorem recorded_detector (now : Instant) :
    ((recorded expanded ssrc state expansion detection).1.incomingSsrcState
      ssrc now).seqnumReuseDetector = detection.1 := by
  unfold recorded
  rw [incomingSsrcState_setIncomingSsrcState]

end Recorded

theorem recordArrival_eq (endpoint : Endpoint) (header : Header)
    (now : Instant) :
    endpoint.recordArrival header now =
      recorded (endpoint.expandTccSeqnum header) header.ssrc
        (endpoint.incomingSsrcState header.ssrc now)
        (endpoint.expandedSeqnum header now)
        ((endpoint.incomingSsrcState header.ssrc now).seqnumReuseDetector
          |>.rememberUsed (endpoint.expandedSeqnum header now).1) := by
  unfold expandedSeqnum
  rw [← incomingSsrcState_expandTccSeqnum endpoint header]
  rfl

theorem recordArrival_seqnumInHeader (endpoint : Endpoint) (header : Header)
    (now : Instant) :
    (endpoint.recordArrival header now).2.seqnumInHeader =
      (endpoint.expandedSeqnum header now).1 := by
  rw [recordArrival_eq, recorded_seqnumInHeader]

theorem recordArrival_reuse (endpoint : Endpoint) (header : Header)
    (now : Instant) :
    (endpoint.recordArrival header now).2.reuse =
      ((endpoint.incomingSsrcState header.ssrc now).seqnumReuseDetector
        |>.rememberUsed (endpoint.expandedSeqnum header now).1).2 := by
  rw [recordArrival_eq, recorded_reuse]

theorem maxSeqnum_recordArrival (endpoint : Endpoint) (header : Header)
    (now : Instant) :
    ((endpoint.recordArrival header now).1.incomingSsrcState header.ssrc
      now).maxSeqnum = (endpoint.expandedSeqnum header now).2 := by
  rw [recordArrival_eq, recorded_maxSeqnum]

theorem detector_recordArrival (endpoint : Endpoint) (header : Header)
    (now : Instant) :
    ((endpoint.recordArrival header now).1.incomingSsrcState header.ssrc
        now).seqnumReuseDetector =
      ((endpoint.incomingSsrcState header.ssrc now).seqnumReuseDetector
        |>.rememberUsed (endpoint.expandedSeqnum header now).1).1 := by
  rw [recordArrival_eq, recorded_detector]

theorem expandedSeqnum_lt (endpoint : Endpoint) (header : Header)
    (now : Instant) : (endpoint.expandedSeqnum header now).1 < 2 ^ 64 :=
  expandTruncatedCounter_fst_lt (by decide)

/-- After one packet has been recorded, another one with its SSRC and number
counts as a replay. -/
theorem recordArrival_again
    (sameSsrc : other.ssrc = header.ssrc)
    (sameSeqnum : other.seqnum = header.seqnum)
    (isNew : (endpoint.recordArrival header now).2.reuse = .notUsedBefore) :
    ((endpoint.recordArrival header now).1.recordArrival other now).2.reuse =
      .usedBefore := by
  rw [recordArrival_reuse] at isNew
  have stable : ((endpoint.recordArrival header now).1.expandedSeqnum other
      now).1 = (endpoint.expandedSeqnum header now).1 := by
    rw [expandedSeqnum, sameSsrc, sameSeqnum, maxSeqnum_recordArrival]
    exact congrArg Prod.fst
      (expandTruncatedCounter_again (by decide) header.seqnum.toNat_lt)
  rw [recordArrival_reuse, stable, sameSsrc, detector_recordArrival]
  exact SequenceNumberReuseDetector.rememberUsed_again
    (expandedSeqnum_lt endpoint header now) isNew

/-! ## The branches of `receive_rtp` -/

theorem receiveRtp_of_parsed {encrypted : Bytes}
    (parsed : Header.parse encrypted = .ok (some header)) :
    endpoint.receiveRtp aead encrypted now =
      acceptArrival aead (endpoint.recordArrival header now) header encrypted
        now := by
  rw [receiveRtp, parsed, ok_bind]

theorem receiveRtp_of_new {encrypted : Bytes}
    (parsed : Header.parse encrypted = .ok (some header))
    (isNew : (endpoint.recordArrival header now).2.reuse = .notUsedBefore) :
    endpoint.receiveRtp aead encrypted now =
      (endpoint.recordArrival header now).1.acceptNew aead header
        (endpoint.recordArrival header now).2 encrypted now := by
  have reached := @receiveRtp_of_parsed aead endpoint header now _ parsed
  rw [reached, acceptArrival, isNew]

theorem receiveRtp_of_used {encrypted : Bytes}
    (parsed : Header.parse encrypted = .ok (some header))
    (used : (endpoint.recordArrival header now).2.reuse = .usedBefore) :
    endpoint.receiveRtp aead encrypted now =
      .ok ((endpoint.recordArrival header now).1, none) := by
  have reached := @receiveRtp_of_parsed aead endpoint header now _ parsed
  rw [reached, acceptArrival, used]

theorem decrypt_setMaxReceivedTccSeqnum (endpoint : Endpoint)
    (maxSeqnum : FullSequenceNumber) :
    (endpoint.setMaxReceivedTccSeqnum maxSeqnum).decrypt =
      endpoint.decrypt := rfl

theorem decrypt_setIncomingSsrcState (endpoint : Endpoint) (ssrc : Ssrc)
    (state : IncomingSsrcState) :
    (endpoint.setIncomingSsrcState ssrc state).decrypt =
      endpoint.decrypt := rfl

@[simp] theorem decrypt_recordArrival (endpoint : Endpoint) (header : Header)
    (now : Instant) :
    (endpoint.recordArrival header now).1.decrypt = endpoint.decrypt := by
  have expanded : (endpoint.expandTccSeqnum header).1.decrypt =
      endpoint.decrypt := by
    unfold expandTccSeqnum
    split
    · rfl
    · exact decrypt_setMaxReceivedTccSeqnum _ _
  unfold recordArrival
  dsimp only
  rw [decrypt_setIncomingSsrcState, expanded]

end Endpoint

/-! ## A genuine packet with a given number -/

/-- The header of a data packet without payload. -/
def dataHeader (ssrc : Ssrc) (seqnum : FullSequenceNumber) : Bytes :=
  [0x80, 101] ++ toBigEndian 2 seqnum ++ toBigEndian 4 0 ++
    toBigEndian 4 ssrc.toNat

@[simp] theorem length_dataHeader (ssrc : Ssrc)
    (seqnum : FullSequenceNumber) : (dataHeader ssrc seqnum).length = 12 := by
  simp [dataHeader]

def dataPacket (ssrc : Ssrc) (seqnum : FullSequenceNumber) : Packet :=
  .withEmptyTag clientServerDataPayloadType seqnum 0 ssrc none none []

/-- What the parser reads from the header. -/
def parsedDataHeader (ssrc : Ssrc) (seqnum : FullSequenceNumber) :
    Header where
  marker := false
  hasPadding := false
  payloadType := clientServerDataPayloadType
  seqnum := seqnum.toUInt16
  timestamp := 0
  ssrc := ssrc
  videoRotation := none
  audioLevel := none
  tccSeqnum := none
  tccSeqnumRange := none
  payloadRange := ⟨12, 12⟩
  dependencyDescriptor := none

theorem serialized_dataPacket (ssrc : Ssrc) (seqnum : FullSequenceNumber) :
    (dataPacket ssrc seqnum).serialized =
      dataHeader ssrc seqnum ++ List.replicate srtpAuthTagLen 0 := by
  have masked : clientServerDataPayloadType &&& 0b01111111 = 101 := by decide
  simp [dataPacket, Packet.withEmptyTag, dataHeader, masked]

theorem parse_dataHeader {ssrc : Ssrc} {seqnum : FullSequenceNumber}
    {tag : Bytes} (tagLength : tag.length = srtpAuthTagLen) :
    Header.parse (dataHeader ssrc seqnum ++ tag) =
      .ok (some (parsedDataHeader ssrc seqnum)) := by
  have length : (dataHeader ssrc seqnum ++ tag).length = 28 := by
    rw [List.length_append, length_dataHeader, tagLength]
    rfl
  have built : buildHeader (dataHeader ssrc seqnum ++ tag) 0x80 101 .empty 12 =
      some (parsedDataHeader ssrc seqnum) := by
    have seqnumField : ((dataHeader ssrc seqnum ++ tag).drop 2).take 2 =
        toBigEndian 2 seqnum := rfl
    have timestampField : ((dataHeader ssrc seqnum ++ tag).drop 4).take 4 =
        toBigEndian 4 0 := rfl
    have ssrcField : ((dataHeader ssrc seqnum ++ tag).drop 8).take 4 =
        toBigEndian 4 ssrc.toNat := rfl
    have seqnumValue : (seqnum % 256 ^ 2).toUInt16 = seqnum.toUInt16 := by
      apply UInt16.toNat_inj.mp
      simp
    have ssrcValue : (ssrc.toNat % 256 ^ 4).toUInt32 = ssrc := by
      apply UInt32.toNat_inj.mp
      simp
    unfold buildHeader
    rw [length, seqnumField, timestampField, ssrcField,
      fromBigEndian_toBigEndian, fromBigEndian_toBigEndian,
      fromBigEndian_toBigEndian, seqnumValue, ssrcValue]
    rfl
  have parsed : Header.parse (dataHeader ssrc seqnum ++ tag) =
      if (dataHeader ssrc seqnum ++ tag).length < rtpMinHeaderLen then .ok none
      else if ((dataHeader ssrc seqnum ++ tag).drop 12).length < 0 then .ok none
      else .ok (buildHeader (dataHeader ssrc seqnum ++ tag) 0x80 101 .empty
        12) := rfl
  rw [parsed, length, built, if_neg (by decide), if_neg (Nat.not_lt_zero _)]

theorem prepareForCrypto_data {packet : Packet} {ssrc : Ssrc}
    {seqnum : FullSequenceNumber} {tag : Bytes} (salt : Salt)
    (sameSsrc : packet.ssrcInHeader = ssrc)
    (sameSeqnum : packet.seqnumInHeader = seqnum)
    (range : packet.payloadRangeInHeader = ⟨12, 12⟩)
    (content : packet.serialized = dataHeader ssrc seqnum ++ tag) :
    packet.prepareForCrypto salt =
      .ok ⟨rtpIv ssrc seqnum salt, dataHeader ssrc seqnum, [], tag⟩ := by
  have headerLength := length_dataHeader ssrc seqnum
  unfold Packet.prepareForCrypto
  rw [range, content, sameSsrc, sameSeqnum]
  simp [ByteRange.len, ensure, headerLength, bind, Except.bind, pure,
    Except.pure]

section Acceptance

variable {aead : Aead} {keys : KeyAndSalt} {ssrc : Ssrc}
variable {seqnum : FullSequenceNumber} {tag : Bytes}

theorem genuine_data (tagLength : tag.length = srtpAuthTagLen)
    (sealed : aead.encrypt keys.key (rtpIv ssrc seqnum keys.salt)
      (dataHeader ssrc seqnum) [] = some ([], tag)) :
    Genuine aead keys (dataHeader ssrc seqnum ++ tag) := by
  have parts : (dataPacket ssrc seqnum).prepareForCrypto keys.salt =
      .ok ⟨rtpIv ssrc seqnum keys.salt, dataHeader ssrc seqnum, [],
        List.replicate srtpAuthTagLen 0⟩ :=
    prepareForCrypto_data keys.salt rfl rfl rfl
      (serialized_dataPacket ssrc seqnum)
  refine ⟨dataPacket ssrc seqnum, { dataPacket ssrc seqnum with
    encrypted := true
    serialized := dataHeader ssrc seqnum ++ [] ++ tag }, ?_, ?_⟩
  · have unencrypted : (dataPacket ssrc seqnum).encrypted = false := rfl
    unfold Packet.encryptInPlace
    rw [parts]
    simp [ensure, unencrypted, sealed, tagLength, bind, Except.bind, pure,
      Except.pure]
  · rw [List.append_nil]

/-- Nothing but its number is remembered of a data packet. -/
theorem acceptDecrypted_data (endpoint : Endpoint) {packet : Packet}
    (now : Instant)
    (payloadType : packet.payloadType = clientServerDataPayloadType)
    (noTcc : packet.tccSeqnum = none) :
    endpoint.acceptDecrypted (parsedDataHeader ssrc seqnum) packet now =
      .ok (endpoint, some packet) := by
  have notRtx : isRtxPayloadType clientServerDataPayloadType = false := by
    decide
  have notRtxable : isRtxablePayloadType clientServerDataPayloadType =
      false := by
    decide
  have notMedia : isMediaPayloadType clientServerDataPayloadType = false := by
    decide
  simp [Endpoint.acceptDecrypted, Endpoint.readPaddingByteCount,
    Endpoint.unwrapRtx, Endpoint.rememberReceivedForNacks,
    Endpoint.rememberReceivedForReports, Endpoint.rememberReceivedForTcc,
    parsedDataHeader, notRtx, notRtxable, notMedia, payloadType, noTcc, bind,
    Except.bind, pure, Except.pure]

/-- A genuine data packet whose number is new is accepted. -/
theorem receiveRtp_data {endpoint : Endpoint} {now : Instant}
    (tagLength : tag.length = srtpAuthTagLen)
    (sealed : aead.encrypt endpoint.decrypt.rtp.key
      (rtpIv ssrc seqnum endpoint.decrypt.rtp.salt)
      (dataHeader ssrc seqnum) [] = some ([], tag))
    (isNew : (endpoint.recordArrival (parsedDataHeader ssrc seqnum) now).2.reuse
      = .notUsedBefore)
    (expanded : (endpoint.recordArrival (parsedDataHeader ssrc seqnum)
      now).2.seqnumInHeader = seqnum) :
    ∃ after packet, endpoint.receiveRtp aead (dataHeader ssrc seqnum ++ tag)
        now = .ok (after, some packet) ∧
      packet.ssrc = ssrc ∧ packet.seqnum = seqnum := by
  set recorded := endpoint.recordArrival (parsedDataHeader ssrc seqnum) now
    with recordedEq
  set incoming := Endpoint.incomingPacket (parsedDataHeader ssrc seqnum)
    recorded.2 (dataHeader ssrc seqnum ++ tag) now with incomingEq
  have parts : incoming.prepareForCrypto endpoint.decrypt.rtp.salt =
      .ok ⟨rtpIv ssrc seqnum endpoint.decrypt.rtp.salt,
        dataHeader ssrc seqnum, [], tag⟩ :=
    prepareForCrypto_data _ rfl expanded rfl rfl
  have decrypted := @Packet.decryptInPlace_eq aead _ _ _ rfl parts tagLength
  rw [aead.decrypt_encrypt sealed, Option.map_some] at decrypted
  refine ⟨recorded.1, { incoming with
    encrypted := false
    serialized := dataHeader ssrc seqnum ++ [] ++ tag }, ?_, rfl, expanded⟩
  rw [Endpoint.receiveRtp_of_new (parse_dataHeader tagLength) isNew]
  unfold Endpoint.acceptNew
  rw [Endpoint.decrypt_recordArrival, ← incomingEq, decrypted]
  exact acceptDecrypted_data recorded.1 now rfl rfl

end Acceptance

/-! ## The rejected packet takes the place of the genuine one -/

theorem receiveRtp_of_failsAuthentication {aead : Aead} {endpoint : Endpoint}
    {rejected : Bytes} {now : Instant} {header : Header}
    (parsed : Header.parse rejected = .ok (some header))
    (isNew : (endpoint.recordArrival header now).2.reuse = .notUsedBefore)
    (failed : (Endpoint.incomingPacket header
      (endpoint.recordArrival header now).2 rejected now).decryptInPlace aead
        endpoint.decrypt.rtp = .ok none) :
    endpoint.receiveRtp aead rejected now =
      .ok ((endpoint.recordArrival header now).1, none) := by
  rw [Endpoint.receiveRtp_of_new parsed isNew]
  unfold Endpoint.acceptNew
  rw [Endpoint.decrypt_recordArrival, failed]
  rfl

theorem not_numbersKept {aead : Aead} {endpoint : Endpoint}
    {rejected : Bytes} {now : Instant}
    (fails : FailsAuthentication aead endpoint rejected now) :
    ¬ NumbersKept aead endpoint rejected now := by
  obtain ⟨header, parsed, isNew, failed⟩ := fails
  intro kept
  obtain ⟨-, sameDetector, -⟩ := kept parsed
    (receiveRtp_of_failsAuthentication parsed isNew failed)
  rw [Endpoint.detector_recordArrival] at sameDetector
  rw [Endpoint.recordArrival_reuse] at isNew
  exact SequenceNumberReuseDetector.rememberUsed_ne_self
    (Endpoint.expandedSeqnum_lt endpoint header now) isNew sameDetector

theorem not_followedAlike {aead : Aead} {endpoint : Endpoint}
    {rejected : Bytes} {now : Instant}
    (seals : ∀ key nonce aad, nonce.length = srtpIvLen →
      (aead.encrypt key nonce aad []).isSome)
    (fails : FailsAuthentication aead endpoint rejected now) :
    ¬ FollowedAlike aead endpoint rejected now := by
  obtain ⟨header, parsed, isNew, failed⟩ := fails
  -- the genuine packet has the SSRC and the number of the rejected one
  set seqnum := (endpoint.expandedSeqnum header now).1 with seqnumEq
  obtain ⟨⟨ciphertext, tag⟩, sealed⟩ := Option.isSome_iff_exists.mp
    (seals endpoint.decrypt.rtp.key
      (rtpIv header.ssrc seqnum endpoint.decrypt.rtp.salt)
      (dataHeader header.ssrc seqnum) (length_rtpIv _ _ _))
  obtain ⟨empty, tagLength⟩ := aead.encrypt_length sealed
  cases List.eq_nil_of_length_eq_zero empty
  have sameSeqnum : (parsedDataHeader header.ssrc seqnum).seqnum =
      header.seqnum := by
    apply UInt16.toNat_inj.mp
    have truncated : seqnum % 2 ^ 16 = header.seqnum.toNat % 2 ^ 16 :=
      expandTruncatedCounter_fst_mod (by decide)
    rw [Nat.mod_eq_of_lt header.seqnum.toNat_lt] at truncated
    simpa [parsedDataHeader] using truncated
  have sameArrival : endpoint.expandedSeqnum
      (parsedDataHeader header.ssrc seqnum) now =
        endpoint.expandedSeqnum header now := by
    rw [Endpoint.expandedSeqnum, sameSeqnum]
    rfl
  have acceptedAlone := @receiveRtp_data aead header.ssrc seqnum tag endpoint
    now tagLength sealed
    (by
      rw [Endpoint.recordArrival_reuse] at isNew ⊢
      rw [sameArrival]
      exact isNew)
    (by rw [Endpoint.recordArrival_seqnumInHeader, sameArrival])
  obtain ⟨after, packet, accepted, -⟩ := acceptedAlone
  have again := @Endpoint.recordArrival_again endpoint header
    (parsedDataHeader header.ssrc seqnum) now rfl sameSeqnum isNew
  have dropped := @Endpoint.receiveRtp_of_used aead _ _ now _
    (parse_dataHeader tagLength) again
  intro alike
  have same := alike (receiveRtp_of_failsAuthentication parsed isNew failed)
    [(dataHeader header.ssrc seqnum ++ tag, now)]
    (by
      intro other member
      rw [List.mem_singleton.mp member]
      exact genuine_data tagLength sealed)
  simp only [acceptedNumbers, accepted, dropped, bind, Except.bind, pure,
    Except.pure] at same
  cases same

/-- Every packet that does not authenticate is noticed later, whatever the
state of the endpoint is. -/
theorem rejectedPacket_leaves_trace {aead : Aead} {endpoint : Endpoint}
    {rejected : Bytes} {now : Instant}
    (seals : ∀ key nonce aad, nonce.length = srtpIvLen →
      (aead.encrypt key nonce aad []).isSome)
    (fails : FailsAuthentication aead endpoint rejected now) :
    ¬ FollowedAlike aead endpoint rejected now ∧
      ¬ NumbersKept aead endpoint rejected now :=
  ⟨not_followedAlike seals fails, not_numbersKept fails⟩

/-! ## A forged packet -/

/-- A cipher that only authenticates, as AES-GCM does on an empty text. -/
def authenticating (tag : Key → Bytes → Bytes → Bytes → Bytes)
    (tagLength : ∀ key nonce aad text,
      (tag key nonce aad text).length = srtpAuthTagLen) : Aead where
  encrypt key nonce aad text := some (text, tag key nonce aad text)
  decrypt key nonce aad text given :=
    if given = tag key nonce aad text then some text else none
  encrypt_length := by
    intro key nonce aad text ciphertext computed sealed
    cases sealed
    exact ⟨rfl, tagLength key nonce aad text⟩
  decrypt_length := by
    intro key nonce aad ciphertext given text opened
    split at opened
    · cases opened
      rfl
    · cases opened
  decrypt_encrypt := by
    intro key nonce aad text ciphertext computed sealed
    cases sealed
    exact if_pos rfl

/-- The tag of AES-128-GCM under the zero key for the data packet with the
SSRC 3 and the number 5. -/
def dataTag : Bytes :=
  [42, 198, 212, 174, 146, 145, 168, 93, 21, 91, 121, 7, 110, 111, 249, 76]

def dataAead : Aead :=
  authenticating
    (fun key nonce aad text =>
      if key = zeroKeys.rtp.key ∧ nonce = [0, 0, 0, 0, 0, 3, 0, 0, 0, 0, 0, 5] ∧
          aad = dataHeader 3 5 ∧ text = [] then dataTag
      else List.replicate 16 0)
    (by
      intro key nonce aad text
      split
      · rfl
      · rfl)

def receivingEndpoint : Endpoint := .new zeroKeys zeroKeys 0 1

/-- The data packet with a zero tag. -/
def forgedPacket : Bytes := dataHeader 3 5 ++ List.replicate 16 0

theorem forgedPacket_failsAuthentication :
    FailsAuthentication dataAead receivingEndpoint forgedPacket 7 := by
  have parts : (Endpoint.incomingPacket (parsedDataHeader 3 5)
      (receivingEndpoint.recordArrival (parsedDataHeader 3 5) 7).2 forgedPacket
      7).prepareForCrypto zeroKeys.rtp.salt =
        .ok ⟨rtpIv 3 5 zeroKeys.rtp.salt, dataHeader 3 5, [],
          List.replicate 16 0⟩ :=
    prepareForCrypto_data _ rfl rfl rfl rfl
  have refused : dataAead.decrypt zeroKeys.rtp.key
      (rtpIv 3 5 zeroKeys.rtp.salt) (dataHeader 3 5) []
      (List.replicate 16 0) = none := by
    decide
  refine ⟨parsedDataHeader 3 5, parse_dataHeader rfl, rfl, ?_⟩
  have decrypted := @Packet.decryptInPlace_eq dataAead _ _ _ rfl parts rfl
  rw [refused] at decrypted
  exact decrypted

theorem rejectedPacket_leaves_trace_forged :
    FailsAuthentication dataAead receivingEndpoint forgedPacket 7 ∧
      ¬ FollowedAlike dataAead receivingEndpoint forgedPacket 7 ∧
      ¬ NumbersKept dataAead receivingEndpoint forgedPacket 7 :=
  ⟨forgedPacket_failsAuthentication,
    rejectedPacket_leaves_trace (fun _ _ _ _ => rfl)
      forgedPacket_failsAuthentication⟩

/-- The genuine packet 5 is accepted by the endpoint, and dropped after the
forged one. -/
theorem forgedPacket_drops_genuine :
    FailsAuthentication dataAead receivingEndpoint forgedPacket 7 ∧
    Genuine dataAead receivingEndpoint.decrypt.rtp (dataHeader 3 5 ++ dataTag) ∧
    acceptedNumbers dataAead receivingEndpoint
      [(dataHeader 3 5 ++ dataTag, 8)] = .ok [some (3, 5)] ∧
    acceptedNumbers dataAead receivingEndpoint
      [(forgedPacket, 7), (dataHeader 3 5 ++ dataTag, 8)] =
        .ok [none, none] ∧
    ¬ FollowedAlike dataAead receivingEndpoint forgedPacket 7 := by
  refine ⟨forgedPacket_failsAuthentication, genuine_data rfl rfl, rfl, rfl, ?_⟩
  exact not_followedAlike (fun _ _ _ _ => rfl) forgedPacket_failsAuthentication

end CallingService.Backend.Rtp
