import CallingService.Backend.Rtp.SrtpSession

/-!
# Delivery over a network that reorders a little

The network may drop, repeat and reorder the datagrams of the sender, but no
packet is overtaken by one of its stream that is 128 numbers ahead.  The
receiver then accepts every packet the first time it arrives, with the number
and the content that it was sent with, and no later time.
-/

namespace CallingService.Backend.Rtp

open Foundation

/-- A packet as the endpoints send it: it is kept as it has been parsed, and a
retransmission that is not empty has room for the number of the original. -/
structure Packet.Deliverable (header : Header) (plain : Packet) : Prop where
  parsedAs : plain.ParsedAs header
  small : plain.seqnumInHeader < 2 ^ 64
  room : isRtxPayloadType header.payloadType = true →
    header.payloadRange.len ≠ 1

/-- The number is less than half a cycle away from the largest one. -/
def Endpoint.Near (endpoint : Endpoint) (plain : Packet) : Prop :=
  plain.seqnumInHeader < endpoint.maxSeqnum plain.ssrcInHeader + 2 ^ 15 ∧
    endpoint.maxSeqnum plain.ssrcInHeader < plain.seqnumInHeader + 2 ^ 15

/-! ## A sealed datagram -/

section Sealed

variable {aead : Aead} {keys : KeyAndSalt} {header : Header}
variable {plain sent : Packet}

/-- Sealing replaces the payload and the tag. -/
theorem sealed_parts (received : plain.Received header)
    (sealed : plain.encryptInPlace aead keys = .ok (some sent)) :
    ∃ ciphertext tag,
      aead.encrypt keys.key (plain.iv keys.salt)
          (header.cryptoParts (plain.iv keys.salt) plain.serialized).header
          (header.cryptoParts (plain.iv keys.salt) plain.serialized).payload =
        some (ciphertext, tag) ∧
      sent.serialized =
        (header.cryptoParts (plain.iv keys.salt) plain.serialized).header ++
          ciphertext ++ tag := by
  have inBounds := Header.inBounds_of_parse received.parsed
  obtain ⟨_, -, rest⟩ := bind_eq_ok_iff.mp sealed
  obtain ⟨parts, prepared, rest⟩ := bind_eq_ok_iff.mp rest
  rw [received.built.prepareForCrypto inBounds] at prepared
  cases prepared
  split at rest
  · cases rest
  · rename_i ciphertext tag isSealed
    obtain ⟨_, -, returned⟩ := bind_eq_ok_iff.mp rest
    cases returned
    exact ⟨ciphertext, tag, isSealed, rfl⟩

/-- The header of the datagram is that of the packet. -/
theorem sealed_header (received : plain.Received header)
    (sealed : plain.encryptInPlace aead keys = .ok (some sent)) :
    Header.parse sent.serialized = .ok (some header) ∧
      sent.serialized.length = plain.serialized.length := by
  have inBounds := Header.inBounds_of_parse received.parsed
  obtain ⟨ciphertext, tag, isSealed, serialized⟩ :=
    sealed_parts received sealed
  obtain ⟨textLength, tagLength⟩ := aead.encrypt_length isSealed
  have length := Packet.length_sealed received.built inBounds textLength
    tagLength
  have sameLength : sent.serialized.length = plain.serialized.length := by
    rw [serialized]
    exact length
  refine ⟨Header.parse_of_same_start received.parsed ⟨sameLength, ?_⟩,
    sameLength⟩
  intro index outside
  have apart := outside _ List.mem_cons_self
  have ordered := inBounds.payload
  have fits := inBounds.tag
  unfold ByteRange.Covers at apart
  dsimp only at apart
  by_cases early : index < header.payloadRange.start
  · have startLength : (plain.serialized.take
        header.payloadRange.start).length = header.payloadRange.start :=
      List.length_take_of_le (by omega)
    rw [serialized]
    unfold Header.cryptoParts
    dsimp only
    rw [List.append_assoc, List.getElem?_append_left (by omega),
      List.getElem?_take, if_pos early]
  · rw [List.getElem?_eq_none (by omega), List.getElem?_eq_none (by omega)]

/-- The pieces of the datagram. -/
theorem sealed_cryptoParts (received : plain.Received header)
    (sealed : plain.encryptInPlace aead keys = .ok (some sent)) :
    ∃ ciphertext tag,
      header.cryptoParts (plain.iv keys.salt) sent.serialized =
        { header.cryptoParts (plain.iv keys.salt) plain.serialized with
          payload := ciphertext
          tag } ∧
      aead.decrypt keys.key (plain.iv keys.salt)
          (header.cryptoParts (plain.iv keys.salt) plain.serialized).header
          ciphertext tag =
        some (header.cryptoParts (plain.iv keys.salt)
          plain.serialized).payload ∧
      tag.length = srtpAuthTagLen := by
  have inBounds := Header.inBounds_of_parse received.parsed
  obtain ⟨ciphertext, tag, isSealed, serialized⟩ :=
    sealed_parts received sealed
  obtain ⟨textLength, tagLength⟩ := aead.encrypt_length isSealed
  obtain ⟨headLength, payloadLength⟩ :=
    Endpoint.length_cryptoParts inBounds (plain.iv keys.salt)
  refine ⟨ciphertext, tag, ?_, aead.decrypt_encrypt isSealed, tagLength⟩
  rw [serialized]
  exact Endpoint.cryptoParts_of_append _ inBounds headLength
    (textLength.trans payloadLength)

end Sealed

/-! ## Its reception -/

namespace Endpoint

variable {aead : Aead} {before after : Endpoint} {header : Header}
variable {plain sent : Packet} {now : Instant} {result : Option Packet}

theorem toNat_toUInt16 (seqnum : Nat) :
    seqnum.toUInt16.toNat = seqnum % 2 ^ 16 := UInt16.toNat_ofNat'

theorem fullSeqnum_of_near (deliverable : plain.Deliverable header)
    (near : before.Near plain) :
    before.fullSeqnum header = plain.seqnumInHeader := by
  have truncated : header.seqnum.toNat = plain.seqnumInHeader % 2 ^ 16 := by
    rw [← deliverable.parsedAs.seqnum]
    exact toNat_toUInt16 _
  have expanded := expandTruncatedCounter_of_near (by decide : 0 < 16)
    deliverable.small near.1 near.2
  unfold fullSeqnum expandSeqnum
  rw [truncated, ← deliverable.parsedAs.ssrc, expanded]

/-- A retransmission is dropped for its length only. -/
theorem unwrapRtx_none {incoming : Packet}
    (dropped : before.unwrapRtx header incoming now = .ok (after, none)) :
    isRtxPayloadType header.payloadType = true ∧
      ∃ payload, incoming.payload = .ok payload ∧ payload.length = 1 := by
  unfold unwrapRtx at dropped
  split at dropped
  · rename_i isRtx
    obtain ⟨payload, isPayload, rest⟩ := bind_eq_ok_iff.mp dropped
    split at rest
    · cases rest
    · rename_i long
      split at rest
      · cases rest
      · rename_i short
        refine ⟨isRtx, payload, isPayload, ?_⟩
        cases payload with
        | nil => exact absurd (Nat.zero_le _) long
        | cons high tail =>
            cases tail with
            | nil => rfl
            | cons low rest => exact absurd rfl (short high low rest)
  · cases dropped

/-- What authenticates is accepted, unless it is a retransmission of one
byte. -/
theorem acceptDecrypted_isSome {decrypted : Packet} {length : Nat}
    (built : decrypted.BuiltFrom header length)
    (notRtx : decrypted.isRtx = false) (inBounds : header.InBounds length)
    (room : isRtxPayloadType header.payloadType = true →
      header.payloadRange.len ≠ 1)
    (accepts : before.acceptDecrypted header decrypted now =
      .ok (after, result)) : result.isSome = true := by
  obtain ⟨padded, padding, rest⟩ := bind_eq_ok_iff.mp accepts
  obtain ⟨⟨unwrapped, inner⟩, unwrap, rest⟩ := bind_eq_ok_iff.mp rest
  cases inner with
  | some incoming =>
      cases rest
      rfl
  | none =>
      obtain ⟨isRtx, payload, isPayload, one⟩ := unwrapRtx_none unwrap
      obtain ⟨again, paddedAgain, -, paddedNotRtx, paddedBuilt⟩ :=
        readPaddingByteCount_inBounds built inBounds notRtx
      rw [padding] at paddedAgain
      cases paddedAgain
      obtain ⟨whole, isWhole, wholeLength⟩ :=
        Packet.payload_inBounds paddedBuilt inBounds
      rw [isPayload] at isWhole
      cases isWhole
      have range : padded.payloadRange = header.payloadRange := by
        unfold Packet.payloadRange
        rw [paddedNotRtx]
        exact paddedBuilt.payload
      rw [range, one] at wholeLength
      exact absurd wholeLength.symm (room isRtx)

/-- A sealed packet with a new number is accepted as it was sent. -/
theorem receiveRtp_sealed (deliverable : plain.Deliverable header)
    (sealed : plain.encryptInPlace aead before.decrypt.rtp = .ok (some sent))
    (near : before.Near plain)
    (received : before.receiveRtp aead sent.serialized now =
      .ok (after, result)) :
    (result.isSome = true ↔ ((before.detector plain.ssrcInHeader).rememberUsed
      plain.seqnumInHeader).2 = .notUsedBefore) ∧
    ∀ accepted, result = some accepted →
      accepted.numbersInHeader = plain.numbersInHeader ∧
        plain.Opens accepted before.decrypt.rtp.salt := by
  have isReceived := deliverable.parsedAs.received
  have sameSsrc := deliverable.parsedAs.ssrc
  obtain ⟨parse, sameLength⟩ := sealed_header isReceived sealed
  obtain ⟨ciphertext, tag, parts, opened, tagLength⟩ :=
    sealed_cryptoParts isReceived sealed
  have inBounds := Header.inBounds_of_parse parse
  have full := fullSeqnum_of_near deliverable near
  have isArrival : (before.recordArrival header now).2.seqnumInHeader =
      plain.seqnumInHeader := by
    rw [fullSeqnum_recordArrival, full]
  have reuse : (before.recordArrival header now).2.reuse =
      ((before.detector plain.ssrcInHeader).rememberUsed
        plain.seqnumInHeader).2 := by
    rw [reuse_recordArrival, full, sameSsrc]
  have nonce : rtpIv header.ssrc
      (before.recordArrival header now).2.seqnumInHeader
        before.decrypt.rtp.salt = plain.iv before.decrypt.rtp.salt := by
    rw [isArrival, ← sameSsrc]
    rfl
  have accepts := received
  rw [receiveRtp_of_parsed parse] at accepts
  constructor
  · constructor
    · intro isAccepted
      obtain ⟨accepted, rfl⟩ := Option.isSome_iff_exists.mp isAccepted
      rw [← reuse]
      exact reuse_of_accepted accepts
    · intro isNew
      rw [← reuse] at isNew
      have built := incomingPacket_builtFrom header
        (before.recordArrival header now).2 sent.serialized now
      have prepared := built.prepareForCrypto inBounds before.decrypt.rtp.salt
      change _ = Except.ok (header.cryptoParts (rtpIv header.ssrc
        (before.recordArrival header now).2.seqnumInHeader
          before.decrypt.rtp.salt) sent.serialized) at prepared
      rw [nonce, parts] at prepared
      have decrypts := @Packet.decryptInPlace_eq aead _ _ _ rfl prepared
        tagLength
      dsimp only at decrypts
      have sameNonce : (header.cryptoParts (plain.iv before.decrypt.rtp.salt)
          plain.serialized).nonce = plain.iv before.decrypt.rtp.salt := rfl
      rw [sameNonce, opened, Option.map_some] at decrypts
      unfold acceptArrival at accepts
      rw [isNew] at accepts
      dsimp only at accepts
      unfold acceptNew at accepts
      rw [decrypt_recordArrival, decrypts, ok_bind] at accepts
      refine acceptDecrypted_isSome ?_ rfl inBounds deliverable.room accepts
      refine built.changed ?_ rfl rfl rfl built.rtx
      exact (Packet.length_sealed isReceived.built
        (Header.inBounds_of_parse isReceived.parsed) rfl tagLength).trans
          sameLength.symm
  · rintro accepted rfl
    have fields := acceptArrival_fields aead accepts
    have sameNumbers : accepted.numbersInHeader = plain.numbersInHeader := by
      unfold Packet.numbersInHeader
      rw [fields, sameSsrc]
      exact congrArg _ isArrival
    have isSalt : (before.recordArrival header now).1.decrypt.rtp.salt =
        before.decrypt.rtp.salt := by rw [decrypt_recordArrival]
    obtain ⟨plaintext, openedAgain, accepted⟩ :=
      opened_of_accepted inBounds isSalt nonce parts accepts
    rw [decrypt_recordArrival] at openedAgain
    dsimp only at openedAgain accepted
    rw [opened] at openedAgain
    cases openedAgain
    refine ⟨sameNumbers, (Prod.mk.inj sameNumbers).1, ?_, _, tag,
      isReceived.built.prepareForCrypto
        (Header.inBounds_of_parse isReceived.parsed) _, accepted⟩
    rw [(Prod.mk.inj sameNumbers).2]

end Endpoint

/-! ## Runs -/

inductive DeliveryEvent where
  | delivers (plain : Packet) (result : Option Packet)
  | other

/-- The receiver gets sealed datagrams, between any other operations. -/
inductive DeliveryStep (profile : BuildProfile) (aead : Aead)
    (smooth : Smoothing) :
    ReportingEndpoint → DeliveryEvent → ReportingEndpoint → Prop where
  | delivers {before after : ReportingEndpoint} {header : Header}
      {plain sent : Packet} {result : Option Packet} :
      plain.Deliverable header →
      plain.encryptInPlace aead before.decrypt.rtp = .ok (some sent) →
      before.Near plain →
      ReportingStep profile aead smooth before
        (.receives sent.serialized result) after →
      DeliveryStep profile aead smooth before (.delivers plain result) after
  | other {before after : ReportingEndpoint} {event : ReportingEvent} :
      event.message? = none →
      ReportingStep profile aead smooth before event after →
      DeliveryStep profile aead smooth before .other after

def deliveredNumbers (events : List DeliveryEvent) : List (Ssrc × Nat) :=
  events.filterMap fun event => match event with
    | .delivers plain _ => some plain.numbersInHeader
    | .other => none

/-- No packet of the same stream that is 128 numbers ahead has overtaken this
one. -/
def InWindow (past : List DeliveryEvent) (event : DeliveryEvent) : Prop :=
  ∀ plain result, event = .delivers plain result →
    ∀ number, (plain.ssrcInHeader, number) ∈ deliveredNumbers past →
      number < plain.seqnumInHeader + 128

/-- The packet is accepted if it is the first time that it is delivered. -/
def AcceptedOnce (salt : Salt) (past : List DeliveryEvent)
    (event : DeliveryEvent) : Prop :=
  ∀ plain result, event = .delivers plain result →
    (result.isSome = true ↔
      plain.numbersInHeader ∉ deliveredNumbers past) ∧
    ∀ accepted, result = some accepted →
      accepted.numbersInHeader = plain.numbersInHeader ∧
        plain.Opens accepted salt

/-- The detectors have seen the numbers that have been delivered. -/
structure SeesDelivered (keys : KeysAndSalts) (past : List DeliveryEvent)
    (endpoint : Endpoint) : Prop where
  sameKeys : endpoint.decrypt = keys
  seen : ∀ ssrc, ∃ seen : Finset Nat, (endpoint.detector ssrc).Represents seen ∧
    ∀ number, number ∈ seen ↔ (ssrc, number) ∈ deliveredNumbers past

theorem deliveredNumbers_snoc (past : List DeliveryEvent)
    (event : DeliveryEvent) :
    deliveredNumbers (past ++ [event]) =
      deliveredNumbers past ++ deliveredNumbers [event] :=
  List.filterMap_append

theorem referenceAnswer_inWindow {seen : Finset Nat} {seqnum : Nat}
    (window : ∀ number ∈ seen, number < seqnum + 128) :
    referenceAnswer seen seqnum = .notUsedBefore ↔ seqnum ∉ seen := by
  have below : seen.sup id ≤ seqnum + 127 :=
    Finset.sup_le fun number member =>
      Nat.le_of_lt_succ (window number member)
  have young : ¬ seqnum < windowStart seen := by
    unfold windowStart
    omega
  unfold referenceAnswer
  rw [if_neg young]
  by_cases used : seqnum ∈ seen
  · simp [used]
  · simp [used]

section Runs

variable {profile : BuildProfile} {aead : Aead} {smooth : Smoothing}
variable {keys : KeysAndSalts} {before after start finish : ReportingEndpoint}
variable {past events : List DeliveryEvent}

theorem SeesDelivered.step {event : DeliveryEvent}
    (sees : SeesDelivered keys past before.toEndpoint)
    (step : DeliveryStep profile aead smooth before event after) :
    SeesDelivered keys (past ++ [event]) after.toEndpoint := by
  cases step with
  | other noReception step =>
      have keeps := step.keepsNumbers noReception
      have same : deliveredNumbers (past ++ [.other]) =
          deliveredNumbers past := by
        rw [deliveredNumbers_snoc]
        exact List.append_nil _
      refine ⟨keeps.decrypt.trans sees.sameKeys, ?_⟩
      rw [same, keeps.detector]
      exact sees.seen
  | @delivers _ header plain sent result deliverable sealed near step =>
      have parse := (sealed_header deliverable.parsedAs.received sealed).1
      have sameNumbers :
          (header.ssrc, before.fullSeqnum header) = plain.numbersInHeader :=
        congrArg₂ Prod.mk deliverable.parsedAs.ssrc.symm
          (Endpoint.fullSeqnum_of_near deliverable near)
      choose seen represents exact using sees.seen
      cases step with
      | receiveRtp received =>
          have records := Endpoint.records_of_parsed parse received
          refine ⟨records.decrypt.trans sees.sameKeys, fun ssrc =>
            ⟨_, records.represents represents ssrc, fun number => ?_⟩⟩
          rw [Endpoint.mem_seenWith, exact, sameNumbers, deliveredNumbers_snoc,
            List.mem_append]
          exact or_congr_right List.mem_singleton.symm

theorem seesDelivered_of_run (fresh : start.stateByIncomingSsrc = ∅)
    (run : Run (DeliveryStep profile aead smooth) start events finish) :
    SeesDelivered start.decrypt events finish.toEndpoint := by
  induction run with
  | nil =>
      refine ⟨rfl, fun ssrc => ⟨∅, ?_, fun number => ?_⟩⟩
      · unfold Endpoint.detector
        rw [fresh]
        exact SequenceNumberReuseDetector.represents_default
      · simp [deliveredNumbers]
  | snoc _ step ih => exact ih.step step

/-- Every sealed packet is accepted the first time it is delivered, as it was
sent, and at no other time. -/
theorem delivered_accepted_once
    (fresh : start.stateByIncomingSsrc = ∅)
    (run : Run (DeliveryStep profile aead smooth) start events finish)
    (window : Throughout InWindow events) :
    Throughout (AcceptedOnce start.decrypt.rtp.salt) events := by
  rintro past event later split plain result rfl
  have inWindow := window _ _ _ split plain result rfl
  rw [split] at run
  obtain ⟨middle, first, rest⟩ := run.split
  obtain ⟨next, step, -⟩ := rest.head
  have sees := seesDelivered_of_run fresh first
  obtain ⟨seen, represents, exact⟩ := sees.seen plain.ssrcInHeader
  cases step with
  | delivers deliverable sealed near step =>
      cases step with
      | receiveRtp received =>
          obtain ⟨accepted, content⟩ :=
            Endpoint.receiveRtp_sealed deliverable sealed near received
          rw [sees.sameKeys] at content
          refine ⟨?_, content⟩
          rw [accepted, (represents.rememberUsed deliverable.small).1,
            referenceAnswer_inWindow, exact]
          · rfl
          · exact fun number member =>
              inWindow number ((exact number).mp member)

end Runs

/-- While the numbers are below 128 no packet is too old. -/
theorem throughout_inWindow_of_small {events : List DeliveryEvent}
    (small : ∀ numbers ∈ deliveredNumbers events, numbers.2 < 128) :
    Throughout InWindow events := by
  rintro past event later rfl plain result rfl number member
  have inAll : (plain.ssrcInHeader, number) ∈
      deliveredNumbers (past ++ .delivers plain result :: later) := by
    unfold deliveredNumbers at member ⊢
    rw [List.filterMap_append]
    exact List.mem_append_left _ member
  exact Nat.lt_of_lt_of_le (small _ inAll) (Nat.le_add_left _ _)

/-! ## The second packet arrives twice before the first one -/

/-- The retransmission before it is sealed, and its header. -/
def rtxPlain (seqnum : UInt8) : Packet :=
  rtxSent seqnum ([0, 7] ++ List.replicate 16 0) false

def rtxPlainHeader (seqnum : UInt8) : Header where
  marker := false
  hasPadding := false
  payloadType := 118
  seqnum := seqnum.toNat.toUInt16
  timestamp := 0
  ssrc := 3
  videoRotation := none
  audioLevel := none
  tccSeqnum := none
  tccSeqnumRange := none
  payloadRange := ⟨12, 14⟩
  dependencyDescriptor := none

theorem deliverable_rtxPlain {seqnum : UInt8}
    (parsed : Header.parse (rtxPlain seqnum).serialized =
      .ok (some (rtxPlainHeader seqnum))) :
    (rtxPlain seqnum).Deliverable (rtxPlainHeader seqnum) where
  parsedAs := {
    received := {
      parsed := parsed
      built := ⟨rfl, rfl, rfl, rfl, fun _ => Nat.le_refl 14⟩
      unencrypted := rfl }
    marker := rfl
    payloadType := rfl
    ssrc := rfl
    seqnum := rfl
    timestamp := rfl
    videoRotation := rfl
    audioLevel := rfl }
  small := lt_trans seqnum.toNat_lt (by decide)
  room := fun _ => (by decide : (2 : Nat) ≠ 1)

theorem near_rtxPlain {endpoint : Endpoint} {largest : Nat} (seqnum : UInt8)
    (isLargest : endpoint.maxSeqnum 3 = largest) (small : largest < 2 ^ 15) :
    endpoint.Near (rtxPlain seqnum) := by
  have byte := seqnum.toNat_lt
  change seqnum.toNat < endpoint.maxSeqnum 3 + 2 ^ 15 ∧
    endpoint.maxSeqnum 3 < seqnum.toNat + 2 ^ 15
  rw [isLargest]
  have close : ∀ number limit : Nat, number < 2 ^ 8 → limit < 2 ^ 15 →
      number < limit + 2 ^ 15 ∧ limit < number + 2 ^ 15 := by
    omega
  exact close _ _ byte small

/-- The receiver has read some datagrams. -/
def rtxReader (endpoint : Endpoint) : ReportingEndpoint :=
  { ReportingEndpoint.new zeroKeys zeroKeys 0 5 1 with
    toEndpoint := endpoint }

theorem rtxReader_receives {smooth : Smoothing} {endpoint : Endpoint}
    {seqnum : UInt8} {vector : GcmVector} {now : Instant} {largest : Nat}
    (parsed : Header.parse (rtxPlain seqnum).serialized =
      .ok (some (rtxPlainHeader seqnum)))
    (sealed : (rtxPlain seqnum).encryptInPlace rtxAead endpoint.decrypt.rtp =
      .ok (some (rtxSent seqnum (vector.ciphertext ++ vector.tag) true)))
    (isLargest : endpoint.maxSeqnum 3 = largest) (small : largest < 2 ^ 15)
    (returns : (endpoint.receiveRtp rtxAead (rtxMessage seqnum vector)
      now).isOk = true) :
    DeliveryStep .debug rtxAead smooth (rtxReader endpoint)
      (.delivers (rtxPlain seqnum)
        (afterReceiving endpoint (rtxMessage seqnum vector) now).2)
      (rtxReader
        (afterReceiving endpoint (rtxMessage seqnum vector) now).1) :=
  .delivers (deliverable_rtxPlain parsed) sealed
    (near_rtxPlain seqnum isLargest small)
    (@ReportingStep.receiveRtp _ _ _ (rtxReader endpoint) _ _ now _
      (receiveRtp_afterReceiving returns))

theorem delivered_accepted_once_reordered :
    ∃ events : List DeliveryEvent,
      deliveredNumbers events = [(3, 2), (3, 2), (3, 1)] ∧
      Throughout (AcceptedOnce zeroKeys.rtp.salt) events := by
  have smooth : Smoothing := fun _ _ newEstimate => newEstimate
  have first := @rtxReader_receives smooth rtxStart 2 rtxVectors[1] 7 0 rfl
    rfl rfl (by decide) rfl
  have again := @rtxReader_receives smooth readOnce.1 2 rtxVectors[1] 8 2 rfl
    rfl (by decide +kernel) (by decide) rfl
  have late := @rtxReader_receives smooth readTwice.1 1 rtxVectors[0] 9 2 rfl
    rfl (by decide +kernel) (by decide) rfl
  have run := Run.snoc (.snoc (.snoc .nil first) again) late
  refine ⟨_, rfl, delivered_accepted_once rfl run ?_⟩
  apply throughout_inWindow_of_small
  decide

end CallingService.Backend.Rtp
