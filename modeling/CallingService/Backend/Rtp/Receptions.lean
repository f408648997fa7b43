import CallingService.Backend.Rtp.KeptNumbers
import CallingService.Backend.Rtp.RejectedPacket
import CallingService.Backend.Rtp.RtxRoundTrip

/-!
# Receptions

The operations of an endpoint, of which only `receive_rtp` moves the numbers of
the receiver, and what one reception does to them.
-/

namespace CallingService.Backend.Rtp

open Foundation

/-! ## All operations of an endpoint -/

inductive ReportingEvent where
  | receives (message : Bytes) (result : Option Packet)
  | encrypts (encryption : Encryption)
  | other

namespace ReportingEvent

def message? : ReportingEvent → Option Bytes
  | .receives message _ => some message
  | _ => none

/-- What `receive_rtp` has returned. -/
def reception? : ReportingEvent → Option (Option Packet)
  | .receives _ result => some result
  | _ => none

/-- The packet that the cipher has sealed. -/
def sealed : ReportingEvent → List Packet
  | .encrypts ⟨_, outgoing, some _⟩ => [outgoing]
  | _ => []

end ReportingEvent

/-- The operations of `rtp::Endpoint`. -/
inductive ReportingStep (profile : BuildProfile) (aead : Aead)
    (smooth : Smoothing) :
    ReportingEndpoint → ReportingEvent → ReportingEndpoint → Prop where
  | receiveRtp {before : ReportingEndpoint} {after : Endpoint}
      {message : Bytes} {now : Instant} {result : Option Packet} :
      before.receiveRtp aead message now = .ok (after, result) →
      ReportingStep profile aead smooth before (.receives message result)
        { before with toEndpoint := after }
  | receiveRtcp {before after : ReportingEndpoint} {message : Bytes}
      {now : Instant} {processed : Option ProcessedControlPacket} :
      before.receiveRtcp profile aead smooth message now =
        .ok (after, processed) →
      ReportingStep profile aead smooth before .other after
  | encrypts {before : ReportingEndpoint} {after : Endpoint}
      {encryption : Encryption} :
      EndpointStep aead before.toEndpoint (.encrypts encryption) after →
      ReportingStep profile aead smooth before (.encrypts encryption)
        { before with toEndpoint := after }
  | resendNothing {before : ReportingEndpoint} {made after : Endpoint}
      {ssrc : Ssrc} {seqnum : TruncatedSequenceNumber} {now : Instant}
      {result : Option Packet} :
      before.makeRtx ssrc seqnum now = .ok (made, none) →
      before.resendRtp aead ssrc seqnum now = .ok (after, result) →
      ReportingStep profile aead smooth before .other
        { before with toEndpoint := after }
  | markAsSent {before : ReportingEndpoint} {ssrc : Ssrc}
      {seqnum : TruncatedSequenceNumber} :
      ReportingStep profile aead smooth before .other
        { before with toEndpoint := before.markAsSent ssrc seqnum }
  | rememberSent {before : ReportingEndpoint} {outgoing : Packet}
      {now : Instant} :
      ReportingStep profile aead smooth before .other
        { before with toEndpoint := before.rememberSent outgoing now }
  | rememberSentForReports {before : ReportingEndpoint} {outgoing : Packet}
      {now : Instant} :
      ReportingStep profile aead smooth before .other
        { before with
          toEndpoint := before.rememberSentForReports outgoing now }
  | sendsControl {before : ReportingEndpoint} {after : ControlEndpoint}
      {event : ControlEvent} :
      (∀ inner, event ≠ .other inner) →
      ControlStep profile aead before.toControlEndpoint event after →
      ReportingStep profile aead smooth before .other
        { before with toControlEndpoint := after }

/-- The decision about a packet depends on what only `receive_rtp` writes. -/
theorem ReportingStep.keepsNumbers {profile : BuildProfile} {aead : Aead}
    {smooth : Smoothing} {before after : ReportingEndpoint}
    {event : ReportingEvent}
    (step : ReportingStep profile aead smooth before event after)
    (noReception : event.message? = none) :
    Endpoint.KeepsNumbers before.toEndpoint after.toEndpoint := by
  cases step with
  | receiveRtp received => cases noReception
  | receiveRtcp received =>
      exact (ReportingEndpoint.receivesRtcp_receiveRtcp received).2
  | encrypts step => exact Endpoint.keepsNumbers_encrypts step
  | resendNothing make sent => exact Endpoint.keepsNumbers_resendRtp sent
  | markAsSent => exact .of_states rfl rfl
  | rememberSent => exact Endpoint.keepsNumbers_rememberSent _ _ _
  | rememberSentForReports =>
      exact Endpoint.keepsNumbers_rememberSentForReports _ _ _
  | @sendsControl _ event isSend step =>
      cases event with
      | sendAcks asked packets =>
          exact ControlEndpoint.keepsNumbers_sendAcks step
      | sendNacks visited now rtt packets =>
          exact ControlEndpoint.keepsNumbers_sendNacks step.2
      | sendPli pliSsrc packet =>
          exact ControlEndpoint.keepsNumbers_sendPli step
      | sendRtcpReport order spare now packet =>
          exact ControlEndpoint.keepsNumbers_sendRtcpReport step.2
      | other event => exact absurd rfl (isSend event)

/-! ## What one reception does -/

/-- The number that `receive_rtp` gives to the packet of a header. -/
def Endpoint.fullSeqnum (endpoint : Endpoint) (header : Header) :
    FullSequenceNumber :=
  (expandSeqnum header.seqnum (endpoint.maxSeqnum header.ssrc)).1

/-- An expanded number is not above the new maximum, which grows by half a
cycle at most. -/
theorem expandTruncatedCounter_le {truncated largest : Nat}
    (small : truncated < 2 ^ 16) :
    (expandTruncatedCounter truncated largest 16).1 ≤
        (expandTruncatedCounter truncated largest 16).2 ∧
      (expandTruncatedCounter truncated largest 16).2 ≤
        max (largest + 2 ^ 15) (2 ^ 16 - 1) := by
  have wraps := Nat.mod_le (expandedRoc truncated largest 16 * 2 ^ 16)
    (2 ^ 64)
  have near : expandedRoc truncated largest 16 * 2 ^ 16 + truncated ≤
      max (largest + 2 ^ 15) (2 ^ 16 - 1) := by
    unfold expandedRoc
    dsimp only
    have parts := Nat.div_add_mod largest (2 ^ 16)
    split
    · omega
    · split
      · omega
      · omega
  unfold expandTruncatedCounter
  dsimp only
  rw [Nat.mod_eq_of_lt small]
  split
  · exact ⟨le_refl _, by omega⟩
  · exact ⟨by omega, by omega⟩

theorem expandSeqnum_le (seqnum : TruncatedSequenceNumber)
    (maxSeqnum : FullSequenceNumber) :
    (expandSeqnum seqnum maxSeqnum).1 ≤ (expandSeqnum seqnum maxSeqnum).2 ∧
      (expandSeqnum seqnum maxSeqnum).2 ≤
        max (maxSeqnum + 2 ^ 15) (2 ^ 16 - 1) :=
  expandTruncatedCounter_le seqnum.toNat_lt

/-- The numbers after a datagram with a header has been received. -/
structure Endpoint.Records (before after : Endpoint) (header : Header) :
    Prop where
  decrypt : after.decrypt = before.decrypt
  detector : after.detector = Function.update before.detector header.ssrc
    ((before.detector header.ssrc).rememberUsed
      (before.fullSeqnum header)).1
  largest : (expandSeqnum header.seqnum (before.maxSeqnum header.ssrc)).2 ≤
    after.maxSeqnum header.ssrc
  grows : ∀ ssrc, after.maxSeqnum ssrc ≤
    max (before.maxSeqnum ssrc + 2 ^ 15) (2 ^ 16 - 1)

namespace Endpoint

variable {aead : Aead} {before recorded after : Endpoint} {header : Header}
variable {now : Instant} {message : Bytes} {result : Option Packet}

theorem fromRtxSsrc_ne (ssrc : Ssrc) : fromRtxSsrc ssrc ≠ ssrc := by
  intro same
  have undone := toRtxSsrc_fromRtxSsrc ssrc
  rw [same] at undone
  have zero : rtxSsrcOffset = 0 := by
    simpa [toRtxSsrc] using undone
  exact absurd zero (by decide)

theorem reuse_recordArrival (endpoint : Endpoint) (header : Header)
    (now : Instant) :
    (endpoint.recordArrival header now).2.reuse =
      ((endpoint.detector header.ssrc).rememberUsed
        (endpoint.fullSeqnum header)).2 := by
  rw [recordArrival_reuse, expandedSeqnum, detector_incomingSsrcState,
    maxSeqnum_incomingSsrcState]
  rfl

theorem fullSeqnum_recordArrival (endpoint : Endpoint) (header : Header)
    (now : Instant) :
    (endpoint.recordArrival header now).2.seqnumInHeader =
      endpoint.fullSeqnum header := by
  rw [recordArrival_seqnumInHeader, expandedSeqnum,
    maxSeqnum_incomingSsrcState]
  rfl

theorem stateByIncomingSsrc_expandTccSeqnum (endpoint : Endpoint)
    (header : Header) :
    (endpoint.expandTccSeqnum header).1.stateByIncomingSsrc =
      endpoint.stateByIncomingSsrc := by
  unfold expandTccSeqnum
  split
  · rfl
  · rfl

theorem numbers_recordArrival (endpoint : Endpoint) (header : Header)
    (now : Instant) :
    (endpoint.recordArrival header now).1.maxSeqnum =
        Function.update endpoint.maxSeqnum header.ssrc
          (expandSeqnum header.seqnum (endpoint.maxSeqnum header.ssrc)).2 ∧
      (endpoint.recordArrival header now).1.detector =
        Function.update endpoint.detector header.ssrc
          ((endpoint.detector header.ssrc).rememberUsed
            (endpoint.fullSeqnum header)).1 := by
  have expanded : KeepsNumbers
      { endpoint with decrypt := (endpoint.expandTccSeqnum header).1.decrypt }
      (endpoint.expandTccSeqnum header).1 :=
    .of_states rfl (stateByIncomingSsrc_expandTccSeqnum endpoint header)
  have sameMax : (endpoint.expandTccSeqnum header).1.maxSeqnum =
      endpoint.maxSeqnum := expanded.maxSeqnum
  have sameDetector : (endpoint.expandTccSeqnum header).1.detector =
      endpoint.detector := expanded.detector
  unfold recordArrival
  dsimp only
  rw [maxSeqnum_setIncomingSsrcState, detector_setIncomingSsrcState]
  dsimp only
  rw [maxSeqnum_incomingSsrcState, detector_incomingSsrcState, sameMax,
    sameDetector]
  exact ⟨rfl, rfl⟩

/-- The number in the payload of a retransmission moves the maximum of the
original SSRC only. -/
structure Unwraps (before after : Endpoint) (header : Header) : Prop where
  decrypt : after.decrypt = before.decrypt
  detector : after.detector = before.detector
  others : ∀ ssrc, ssrc ≠ fromRtxSsrc header.ssrc →
    after.maxSeqnum ssrc = before.maxSeqnum ssrc
  grows : after.maxSeqnum (fromRtxSsrc header.ssrc) ≤
    max (before.maxSeqnum (fromRtxSsrc header.ssrc) + 2 ^ 15) (2 ^ 16 - 1)

theorem KeepsNumbers.unwraps (keeps : KeepsNumbers before after)
    (header : Header) : Unwraps before after header where
  decrypt := keeps.decrypt
  detector := keeps.detector
  others := fun ssrc _ => congrFun keeps.maxSeqnum ssrc
  grows := by
    rw [keeps.maxSeqnum]
    exact le_max_of_le_left (Nat.le_add_right _ _)

theorem Unwraps.keepsNumbers {middle : Endpoint}
    (first : Unwraps before middle header)
    (second : KeepsNumbers middle after) : Unwraps before after header where
  decrypt := second.decrypt.trans first.decrypt
  detector := second.detector.trans first.detector
  others := by
    intro ssrc other
    rw [second.maxSeqnum]
    exact first.others ssrc other
  grows := by
    rw [second.maxSeqnum]
    exact first.grows

theorem unwraps_unwrapRtx {incoming : Packet}
    (unwrapped : before.unwrapRtx header incoming now = .ok (after, result)) :
    Unwraps before after header := by
  unfold unwrapRtx at unwrapped
  split at unwrapped
  · obtain ⟨payload, -, rest⟩ := bind_eq_ok_iff.mp unwrapped
    split at rest
    · cases rest
      exact (KeepsNumbers.refl before).unwraps header
    · split at rest
      · rename_i high low _ _
        cases rest
        have bound := (expandSeqnum_le (fromBigEndian [high, low]).toUInt16
          (before.maxSeqnum (fromRtxSsrc header.ssrc))).2
        refine ⟨rfl, ?_, ?_, ?_⟩
        · rw [detector_setIncomingSsrcState, detector_incomingSsrcState,
            Function.update_eq_self]
        · intro ssrc other
          rw [maxSeqnum_setIncomingSsrcState, Function.update_of_ne other]
        · rw [maxSeqnum_setIncomingSsrcState, Function.update_self]
          dsimp only
          rw [maxSeqnum_incomingSsrcState]
          exact bound
      · cases rest
        exact (KeepsNumbers.refl before).unwraps header
  · cases unwrapped
    exact (KeepsNumbers.refl before).unwraps header

theorem unwraps_acceptArrival {arrival : Endpoint × Arrival}
    (accepted : acceptArrival aead arrival header message now =
      .ok (after, result)) : Unwraps arrival.1 after header := by
  have nothing := (KeepsNumbers.refl arrival.1).unwraps header
  unfold acceptArrival at accepted
  split at accepted
  · cases accepted
    exact nothing
  · cases accepted
    exact nothing
  · obtain ⟨decrypted, -, rest⟩ := bind_eq_ok_iff.mp accepted
    cases decrypted with
    | none =>
        cases rest
        exact nothing
    | some packet =>
        obtain ⟨padded, -, rest⟩ := bind_eq_ok_iff.mp rest
        obtain ⟨⟨unwrapped, inner⟩, unwrap, rest⟩ := bind_eq_ok_iff.mp rest
        have first := unwraps_unwrapRtx unwrap
        cases inner with
        | none =>
            cases rest
            exact first
        | some incoming =>
            cases rest
            exact first.keepsNumbers <|
              (keepsNumbers_rememberReceivedForNacks _ incoming now).trans <|
              (keepsNumbers_rememberReceivedForReports _ incoming now).trans <|
              keepsNumbers_rememberReceivedForTcc _ incoming now

theorem records_of_parsed (parse : Header.parse message = .ok (some header))
    (received : before.receiveRtp aead message now = .ok (after, result)) :
    before.Records after header := by
  rw [receiveRtp_of_parsed parse] at received
  have unwraps := unwraps_acceptArrival received
  obtain ⟨maxima, detectors⟩ := numbers_recordArrival before header now
  have other := (fromRtxSsrc_ne header.ssrc).symm
  have atHeader : after.maxSeqnum header.ssrc =
      (expandSeqnum header.seqnum (before.maxSeqnum header.ssrc)).2 := by
    rw [unwraps.others _ other, maxima, Function.update_self]
  refine ⟨?_, ?_, ?_, ?_⟩
  · rw [unwraps.decrypt, decrypt_recordArrival]
  · rw [unwraps.detector, detectors]
  · rw [atHeader]
  · intro ssrc
    by_cases own : ssrc = header.ssrc
    · rw [own, atHeader]
      exact (expandSeqnum_le _ _).2
    · have unrecorded : (before.recordArrival header now).1.maxSeqnum ssrc =
          before.maxSeqnum ssrc := by
        rw [maxima, Function.update_of_ne own]
      by_cases original : ssrc = fromRtxSsrc header.ssrc
      · have grown := unwraps.grows
        rw [← original, unrecorded] at grown
        exact grown
      · rw [unwraps.others ssrc original, unrecorded]
        exact le_max_of_le_left (Nat.le_add_right _ _)

/-- A datagram that does not parse changes nothing. -/
theorem receiveRtp_cases
    (received : before.receiveRtp aead message now = .ok (after, result)) :
    (after = before ∧ result = none) ∨
      ∃ header, Header.parse message = .ok (some header) ∧
        before.Records after header ∧
        acceptArrival aead (before.recordArrival header now) header message
          now = .ok (after, result) := by
  obtain ⟨parsed, parse, rest⟩ := bind_eq_ok_iff.mp received
  cases parsed with
  | none =>
      cases rest
      exact .inl ⟨rfl, rfl⟩
  | some header =>
      exact .inr ⟨header, parse, records_of_parsed parse received, rest⟩

/-! ## The numbers that have been seen -/

/-- One more number has been seen of one stream. -/
def seenWith (seen : Ssrc → Finset Nat) (ssrc : Ssrc) (number : Nat) :
    Ssrc → Finset Nat :=
  Function.update seen ssrc (insert number (seen ssrc))

theorem mem_seenWith {seen : Ssrc → Finset Nat} {own ssrc : Ssrc}
    {new number : Nat} :
    number ∈ seenWith seen own new ssrc ↔
      number ∈ seen ssrc ∨ (ssrc, number) = (own, new) := by
  unfold seenWith
  by_cases same : ssrc = own
  · subst same
    rw [Function.update_self, Finset.mem_insert, Prod.mk.injEq, or_comm]
    exact or_congr_right ⟨fun isNew => ⟨rfl, isNew⟩, And.right⟩
  · rw [Function.update_of_ne same, Prod.mk.injEq]
    exact ⟨.inl, fun known => known.resolve_right fun both => same both.1⟩

theorem Records.represents {seen : Ssrc → Finset Nat}
    (records : before.Records after header)
    (represents : ∀ ssrc, (before.detector ssrc).Represents (seen ssrc))
    (ssrc : Ssrc) :
    (after.detector ssrc).Represents
      (seenWith seen header.ssrc (before.fullSeqnum header) ssrc) := by
  have small : before.fullSeqnum header < 2 ^ 64 :=
    expandTruncatedCounter_fst_lt (by decide)
  unfold seenWith
  rw [records.detector]
  by_cases own : ssrc = header.ssrc
  · subst own
    rw [Function.update_self, Function.update_self]
    exact ((represents _).rememberUsed small).2
  · rw [Function.update_of_ne own, Function.update_of_ne own]
    exact represents ssrc

end Endpoint

end CallingService.Backend.Rtp
