import CallingService.Backend.Rtp.ReportRoundTrip

/-!
# Control packets arrive as they were sent

A payload that is sent alone, and the reports of all SSRCs in one compound
packet.  The request for a key frame is the only payload that the parser may
give up on: it has to name an SSRC.
-/

namespace CallingService.Backend.Rtp

open Foundation

/-! ## One payload -/

namespace ControlPacket

/-- What is found in a datagram of one packet with this payload. -/
structure Holds (incoming : ControlPacket) (pt countOrFormat : UInt8)
    (payload : Bytes) : Prop where
  nacks : incoming.nacks =
    if (pt, countOrFormat) = (rtcpTypeGenericFeedback, rtcpFormatNack) then
      (readNack payload).toOption.toList
    else []
  keyFrameRequests : incoming.keyFrameRequests =
    if (pt, countOrFormat) = (rtcpTypeSpecificFeedback, rtcpFormatPli) then
      [⟨(fromBigEndian (payload.take 4)).toUInt32⟩]
    else []
  tccFeedbacks : incoming.tccFeedbacks =
    if (pt, countOrFormat) =
        (rtcpTypeGenericFeedback, rtcpFormatTransportCc) then [payload]
    else []

theorem holds_of_adds {incoming : ControlPacket} {pt countOrFormat : UInt8}
    {payload : Bytes}
    (adds : empty.Adds incoming (pt, countOrFormat) payload) :
    incoming.Holds pt countOrFormat payload :=
  ⟨adds.nacks, adds.keyFrameRequests, adds.tccFeedbacks⟩

theorem length_zeroPadded_lt {payload : Bytes} :
    (zeroPadded payload).length < 4 ↔ payload = [] := by
  rw [length_zeroPadded, ← List.length_eq_zero_iff]
  unfold roundUpToMultipleOfFour
  omega

theorem readNack_writeNack (ssrc : Ssrc) {seqnums : List FullSequenceNumber}
    (increasing : seqnums.Pairwise (· < ·)) :
    readNack (writeNack ssrc seqnums) =
      .ok ⟨ssrc, seqnums.map (·.toUInt16)⟩ := by
  have enough := Nat.lt_succ_self (writeNack ssrc seqnums).length
  exact Option.some.inj ((parseNack_eq enough).symm.trans
    (parseNack_of_increasing ssrc increasing enough))

theorem zeroPadded_writeNack (ssrc : Ssrc)
    (seqnums : List FullSequenceNumber) :
    zeroPadded (writeNack ssrc seqnums) = writeNack ssrc seqnums := by
  have words : ∀ items : List (TruncatedSequenceNumber × UInt16),
      (itemBytes items).length % 4 = 0 := by
    intro items
    induction items with
    | nil => rfl
    | cons item items ih =>
        unfold itemBytes at ih ⊢
        rw [List.flatMap_cons, List.length_append, List.length_append,
          length_toBigEndian, length_toBigEndian]
        omega
  apply zeroPadded_of_words
  rw [writeNack_eq, List.length_append, length_toBigEndian, Nat.add_mod,
    words]

end ControlPacket

/-! ## The reports of an endpoint -/

/-- Each pending report, and nothing else, is found in the datagram. -/
structure ControlPacket.Recovers (incoming : ControlPacket)
    (endpoint : ControlEndpoint) (order : List Ssrc) (now : Instant) :
    Prop where
  senderReports : incoming.senderReports = order.filterMap fun ssrc =>
    (endpoint.pendingReport now ssrc).bind PendingReport.senderReport
  receiverReports : incoming.receiverReports = order.filterMap fun ssrc =>
    (endpoint.pendingReport now ssrc).bind PendingReport.receiverReport
  counted : ∀ ssrc,
    (incoming.senderReports.map SenderReport.ssrc).count ssrc +
        (incoming.receiverReports.map ReceiverReport.ssrc).count ssrc =
      if (endpoint.pendingReport now ssrc).isSome then 1 else 0
  noFeedback : incoming.nacks = [] ∧ incoming.keyFrameRequests = [] ∧
    incoming.tccFeedbacks = []

namespace ControlEndpoint

variable {endpoint : ControlEndpoint} {now : Instant} {order : List Ssrc}

theorem ssrc_of_pendingReport {pending : PendingReport} {ssrc : Ssrc}
    (isPending : endpoint.pendingReport now ssrc = some pending) :
    pending.ssrc = ssrc := by
  obtain ⟨state, -, found⟩ := Option.bind_eq_some_iff.mp isPending
  unfold RtcpReportSender.pendingReport at found
  split at found
  · cases found
    rfl
  · split at found
    · cases found
      rfl
    · cases found

/-- A report is of one of the two kinds. -/
theorem count_of_kinds (reports : List PendingReport) (ssrc : Ssrc) :
    ((reports.filterMap PendingReport.senderReport).map
          SenderReport.ssrc).count ssrc +
        ((reports.filterMap PendingReport.receiverReport).map
          ReceiverReport.ssrc).count ssrc =
      (reports.map PendingReport.ssrc).count ssrc := by
  induction reports with
  | nil => rfl
  | cons pending reports ih =>
      cases pending with
      | sender _ | receiver _ =>
          simp only [List.filterMap_cons, PendingReport.senderReport,
            PendingReport.receiverReport, PendingReport.ssrc, List.map_cons,
            List.count_cons, ← ih]
          omega

theorem count_pendingReports (distinct : order.Nodup) (ssrc : Ssrc) :
    ((order.filterMap (endpoint.pendingReport now)).map
        PendingReport.ssrc).count ssrc =
      if ssrc ∈ order ∧ (endpoint.pendingReport now ssrc).isSome then 1
      else 0 := by
  have named : (order.filterMap (endpoint.pendingReport now)).map
      PendingReport.ssrc =
        order.filter fun other =>
          (endpoint.pendingReport now other).isSome := by
    clear distinct
    induction order with
    | nil => rfl
    | cons other order ih =>
        cases isPending : endpoint.pendingReport now other with
        | none =>
            rw [List.filterMap_cons_none isPending, List.filter_cons,
              isPending, ih]
            rfl
        | some pending =>
            rw [List.filterMap_cons_some isPending, List.filter_cons,
              isPending, List.map_cons, ih, ssrc_of_pendingReport isPending]
            rfl
  rw [named]
  split
  · rename_i present
    exact List.count_eq_one_of_mem (distinct.filter _)
      (List.mem_filter.mpr present)
  · rename_i absent
    exact List.count_eq_zero.mpr fun member =>
      absent (List.mem_filter.mp member)

/-- A report is only pending for an SSRC that the endpoint has seen. -/
theorem mem_order_of_pendingReport
    (iteration : order.Perm endpoint.stateByIncomingSsrc.keys) {ssrc : Ssrc}
    (isPending : (endpoint.pendingReport now ssrc).isSome) : ssrc ∈ order := by
  obtain ⟨pending, found⟩ := Option.isSome_iff_exists.mp isPending
  obtain ⟨state, isState, -⟩ := Option.bind_eq_some_iff.mp found
  exact iteration.mem_iff.mpr (AList.mem_keys.mpr
    (AList.lookup_isSome.mp (isState ▸ rfl)))

theorem recovers_pendingReports
    (iteration : order.Perm endpoint.stateByIncomingSsrc.keys) :
    (ControlPacket.empty.withReports
      (order.filterMap (endpoint.pendingReport now))).Recovers endpoint order
        now where
  senderReports := by
    unfold ControlPacket.withReports
    exact List.filterMap_filterMap
  receiverReports := by
    unfold ControlPacket.withReports
    exact List.filterMap_filterMap
  counted := by
    intro ssrc
    have distinct : order.Nodup :=
      iteration.nodup_iff.mpr endpoint.stateByIncomingSsrc.keys_nodup
    have counted := count_of_kinds
      (order.filterMap (endpoint.pendingReport now)) ssrc
    rw [count_pendingReports distinct] at counted
    refine counted.trans ?_
    by_cases isPending : (endpoint.pendingReport now ssrc).isSome = true
    · rw [if_pos ⟨mem_order_of_pendingReport iteration isPending, isPending⟩,
        if_pos isPending]
    · rw [if_neg fun both => isPending both.2, if_neg isPending]
  noFeedback := ⟨rfl, rfl, rfl⟩

theorem filterMap_pendingReport_eq_nil
    (iteration : order.Perm endpoint.stateByIncomingSsrc.keys) :
    order.filterMap (endpoint.pendingReport now) = [] ↔
      ∀ ssrc, endpoint.pendingReport now ssrc = none := by
  rw [List.filterMap_eq_nil_iff]
  constructor
  · intro nothing ssrc
    by_contra something
    have isPending := Option.isSome_iff_ne_none.mpr something
    exact something
      (nothing ssrc (mem_order_of_pendingReport iteration isPending))
  · intro nothing ssrc _
    exact nothing ssrc

/-- The packet that is sent, if anything is pending. -/
theorem sendRtcpReport_recovers {profile : BuildProfile} {aead : Aead}
    (total : aead.IsTotal)
    (iteration : order.Perm endpoint.stateByIncomingSsrc.keys)
    (small : endpoint.nextOutgoingSrtcpIndex.toNat < 2 ^ 31)
    (fits : profile = .debug → ∀ ssrc state,
      endpoint.stateByIncomingSsrc.lookup ssrc = some state →
      state.rtcpReportSender.LossFits) :
    ∃ after packet,
      endpoint.sendRtcpReport profile aead order 0 now =
        .ok (after, packet) ∧
      (packet = none ↔ ∀ ssrc, endpoint.pendingReport now ssrc = none) ∧
      ∀ serialized, packet = some serialized → ∃ incoming,
        ControlPacket.parseAndDecryptInPlace aead serialized
          endpoint.encrypt.rtcp = .ok (some incoming) ∧
        incoming.Recovers endpoint order now := by
  have distinct : order.Nodup :=
    iteration.nodup_iff.mpr endpoint.stateByIncomingSsrc.keys_nodup
  by_cases nothing : order.filterMap (endpoint.pendingReport now) = []
  · refine ⟨endpoint, none, sendRtcpReport_of_nothing rfl iteration nothing,
      ?_, ?_⟩
    · exact iff_of_true rfl ((filterMap_pendingReport_eq_nil iteration).mp
        nothing)
    · intro serialized isPacket
      cases isPacket
  · obtain ⟨⟨written, blocks⟩, wrote⟩ := @exists_writeReports profile endpoint
      order now distinct fun isDebug ssrc _ => fits isDebug ssrc
    obtain ⟨after, serialized, sent, parsed⟩ :=
      sendRtcpReport_of_pending rfl iteration total small nothing wrote
    refine ⟨after, some serialized, sent, ?_, ?_⟩
    · exact iff_of_false (Option.some_ne_none _) fun none =>
        nothing ((filterMap_pendingReport_eq_nil iteration).mpr none)
    · intro packet isPacket
      cases isPacket
      exact ⟨_, parsed, recovers_pendingReports iteration⟩

end ControlEndpoint

theorem control_packets_read_back {aead : Aead} (total : aead.IsTotal) :
    (∀ (keys : KeyAndSalt) (pt countOrFormat : UInt8) (isPadded : Bool)
        (senderSsrc : Ssrc) (payload : Bytes) (index : UInt32),
      countOrFormat.toNat < 32 → payload.length ≤ 260000 →
      index.toNat < 2 ^ 31 →
      ∃ serialized outcome,
        ControlPacket.serializeAndEncrypt aead pt countOrFormat isPadded
          senderSsrc payload index keys = .ok (some serialized) ∧
        ControlPacket.parseAndDecryptInPlace aead serialized keys =
          .ok outcome ∧
        (outcome = none ↔ (pt, countOrFormat) =
          (rtcpTypeSpecificFeedback, rtcpFormatPli) ∧ payload = []) ∧
        ∀ incoming, outcome = some incoming →
          incoming.Holds pt countOrFormat
            (ControlPacket.zeroPadded payload)) ∧
    (∀ (ssrc : Ssrc) (seqnums : List FullSequenceNumber),
      seqnums.Pairwise (· < ·) →
      readNack (ControlPacket.zeroPadded (writeNack ssrc seqnums)) =
        .ok ⟨ssrc, seqnums.map (·.toUInt16)⟩) ∧
    (∀ (profile : BuildProfile) (endpoint : ControlEndpoint)
        (order : List Ssrc) (now : Instant),
      order.Perm endpoint.stateByIncomingSsrc.keys →
      endpoint.nextOutgoingSrtcpIndex.toNat < 2 ^ 31 →
      (profile = .debug → ∀ ssrc state,
        endpoint.stateByIncomingSsrc.lookup ssrc = some state →
        state.rtcpReportSender.LossFits) →
      ∃ after packet,
        endpoint.sendRtcpReport profile aead order 0 now =
          .ok (after, packet) ∧
        (packet = none ↔ ∀ ssrc, endpoint.pendingReport now ssrc = none) ∧
        ∀ serialized, packet = some serialized → ∃ incoming,
          ControlPacket.parseAndDecryptInPlace aead serialized
            endpoint.encrypt.rtcp = .ok (some incoming) ∧
          incoming.Recovers endpoint order now) ∧
    (∀ (cipher : Aead) (serialized : Bytes) (keys : KeyAndSalt),
      ∃ outcome, ControlPacket.parseAndDecryptInPlace cipher serialized keys =
        .ok outcome) ∧
    ∀ compoundPackets : Bytes × ControlPacket,
      (runLoop ControlPacket.compoundPacket
        (compoundPackets.1.length / 8 + 1) compoundPackets).isSome := by
  refine ⟨?_, ?_, ?_, ControlPacket.parseAndDecryptInPlace_ok,
    ControlPacket.isSome_runLoop_compoundPacket⟩
  · intro keys pt countOrFormat isPadded senderSsrc payload index fiveBits
      short small
    obtain ⟨serialized, isSerialized, parsed⟩ :=
      @ControlPacket.parse_serializeAndEncrypt aead keys pt countOrFormat
        isPadded senderSsrc payload index total fiveBits short small
    obtain ⟨outcome, isOutcome, gaveUp, adds⟩ :=
      ControlPacket.empty.add_spec
        (ControlPacket.serializedHeader pt countOrFormat isPadded payload)
        (toBigEndian 4 senderSsrc.toNat ++ ControlPacket.zeroPadded payload)
        (ControlPacket.zeroPadded payload)
    rw [ControlPacket.length_zeroPadded_lt] at gaveUp
    exact ⟨serialized, outcome, isSerialized, parsed.trans isOutcome, gaveUp,
      fun incoming isIncoming =>
        ControlPacket.holds_of_adds (adds incoming isIncoming)⟩
  · intro ssrc seqnums increasing
    rw [ControlPacket.zeroPadded_writeNack,
      ControlPacket.readNack_writeNack ssrc increasing]
  · intro profile endpoint order now iteration small fits
    exact ControlEndpoint.sendRtcpReport_recovers total iteration small fits

/-! ## A report and a request for a key frame -/

section Examples

/-- The cipher also encrypts what it has no result for, under a tag that no
result has. -/
def Aead.completed (aead : Aead)
    (tags : ∀ key nonce aad plaintext ciphertext tag,
      aead.encrypt key nonce aad plaintext = some (ciphertext, tag) →
        tag ≠ List.replicate srtpAuthTagLen 0) : Aead where
  encrypt key nonce aad plaintext :=
    some ((aead.encrypt key nonce aad plaintext).getD
      (plaintext, List.replicate srtpAuthTagLen 0))
  decrypt key nonce aad ciphertext tag :=
    if tag = List.replicate srtpAuthTagLen 0 then some ciphertext
    else aead.decrypt key nonce aad ciphertext tag
  encrypt_length := by
    intro key nonce aad plaintext ciphertext tag sealed
    cases found : aead.encrypt key nonce aad plaintext with
    | none =>
        rw [found] at sealed
        cases sealed
        exact ⟨rfl, List.length_replicate⟩
    | some result =>
        rw [found] at sealed
        cases sealed
        exact aead.encrypt_length found
  decrypt_length := by
    intro key nonce aad ciphertext tag plaintext opened
    split at opened
    · cases opened
      rfl
    · exact aead.decrypt_length opened
  decrypt_encrypt := by
    intro key nonce aad plaintext ciphertext tag sealed
    cases found : aead.encrypt key nonce aad plaintext with
    | none =>
        rw [found] at sealed
        cases sealed
        rw [if_pos rfl]
    | some result =>
        rw [found] at sealed
        cases sealed
        rw [if_neg (tags _ _ _ _ _ _ found)]
        exact aead.decrypt_encrypt found

/-- AES-128-GCM under the zero key on the packets below. -/
def reportVectors : List GcmVector :=
  pliVectors ++
    [{ key := zeroKeys.rtcp.key
       nonce := [0, 0, 0, 0, 0, 1, 0, 0, 0, 0, 0, 1]
       aad := [129, 206, 0, 1, 0, 0, 0, 1, 128, 0, 0, 1]
       plaintext := []
       ciphertext := []
       tag := [190, 110, 215, 235, 198, 187, 10, 166,
         20, 47, 82, 51, 228, 70, 17, 189] },
     { key := zeroKeys.rtcp.key
       nonce := [0, 0, 0, 0, 0, 5, 0, 0, 0, 0, 0, 1]
       aad := [128, 200, 0, 6, 0, 0, 0, 5, 128, 0, 0, 1]
       plaintext := [0, 0, 0, 0, 0, 0, 0, 0, 0, 0, 0, 0, 0, 0, 0, 1,
         0, 0, 0, 10]
       ciphertext := [104, 2, 125, 90, 12, 162, 168, 107, 62, 203, 201, 179,
         254, 210, 222, 47, 203, 97, 219, 16]
       tag := [167, 155, 33, 75, 246, 2, 134, 162,
         189, 159, 207, 107, 104, 88, 185, 162] }]

def reportVectorsAead : Aead :=
  .ofVectors reportVectors (by decide) (by decide)

def reportAead : Aead := reportVectorsAead.completed (by
  intro key nonce aad plaintext ciphertext tag sealed
  obtain ⟨vector, found, same⟩ := Option.map_eq_some_iff.mp sealed
  cases same
  have noZeroTag : ∀ vector ∈ reportVectors,
      vector.tag ≠ List.replicate srtpAuthTagLen 0 := by decide
  exact noZeroTag vector (List.mem_of_find?_eq_some found))

theorem isTotal_reportAead : reportAead.IsTotal :=
  fun _ _ _ _ => ⟨_, _, rfl⟩

/-- One packet of ten bytes has been sent to SSRC 5. -/
def reportStart : ControlEndpoint :=
  pliStart.setState 5 { IncomingSsrcState.new 0 with
    rtcpReportSender := { RtcpReportSender.new 0 with
      sentSinceLastReport := true
      packetsSent := 1
      totalPayloadBytesSent := 10 } }

end Examples

theorem control_packets_read_back_request_and_report :
    (∃ serialized incoming,
      ControlPacket.serializeAndEncrypt reportAead rtcpTypeSpecificFeedback
        rtcpFormatPli false 1 [0, 0, 0, 7] 1 zeroKeys.rtcp =
          .ok (some serialized) ∧
      ControlPacket.parseAndDecryptInPlace reportAead serialized
        zeroKeys.rtcp = .ok (some incoming) ∧
      incoming.keyFrameRequests = [⟨7⟩]) ∧
    ∃ after serialized incoming,
      reportStart.sendRtcpReport .debug reportAead [5] 0 0 =
        .ok (after, some serialized) ∧
      ControlPacket.parseAndDecryptInPlace reportAead serialized
        zeroKeys.rtcp = .ok (some incoming) ∧
      (incoming.senderReports.map SenderReport.ssrc) = [5] ∧
      incoming.receiverReports = [] := by
  obtain ⟨single, -, report, -, -⟩ :=
    control_packets_read_back isTotal_reportAead
  constructor
  · obtain ⟨serialized, outcome, isSerialized, parsed, gaveUp, holds⟩ :=
      single zeroKeys.rtcp rtcpTypeSpecificFeedback rtcpFormatPli false 1
        [0, 0, 0, 7] 1 (by decide) (by decide) (by decide)
    cases outcome with
    | none => exact absurd (gaveUp.mp rfl).2 (by decide)
    | some incoming =>
        exact ⟨serialized, incoming, isSerialized, parsed,
          (holds incoming rfl).keyFrameRequests⟩
  · obtain ⟨after, packet, sent, isNone, found⟩ :=
      report .debug reportStart [5] 0 (List.Perm.refl _) (by decide) (by
        intro _ ssrc state isState
        by_cases same : ssrc = 5
        · subst same
          cases (AList.lookup_insert _).symm.trans isState
          exact fun isReceiver => absurd isReceiver (by decide)
        · cases (AList.lookup_insert_ne same).symm.trans isState)
    cases packet with
    | none => cases isNone.mp rfl 5
    | some serialized =>
        obtain ⟨incoming, parsed, recovers⟩ := found serialized rfl
        refine ⟨after, serialized, incoming, sent, parsed, ?_, ?_⟩
        · rw [recovers.senderReports]
          rfl
        · rw [recovers.receiverReports]
          rfl

/-- A request for a key frame without an SSRC is not read at all. -/
theorem empty_request_gives_up :
    ∃ serialized,
      ControlPacket.serializeAndEncrypt reportAead rtcpTypeSpecificFeedback
        rtcpFormatPli false 1 [] 1 zeroKeys.rtcp = .ok (some serialized) ∧
      ControlPacket.parseAndDecryptInPlace reportAead serialized
        zeroKeys.rtcp = .ok none := by
  refine ⟨[129, 206, 0, 1, 0, 0, 0, 1, 190, 110, 215, 235, 198, 187, 10, 166,
    20, 47, 82, 51, 228, 70, 17, 189, 128, 0, 0, 1], rfl, ?_⟩
  rfl

end CallingService.Backend.Rtp
