import CallingService.Backend.Rtp.ReceivedControl
import CallingService.Backend.Rtp.ReplayWindow

/-!
# The numbers of the receiver

Only `receive_rtp` moves the largest sequence numbers and the replay windows of
an endpoint.  All other operations, those that create the state of an SSRC
included, leave them as they are.
-/

namespace CallingService.Backend.Rtp

open Foundation

namespace Endpoint

def maxSeqnum (endpoint : Endpoint) (ssrc : Ssrc) : FullSequenceNumber :=
  ((endpoint.stateByIncomingSsrc.lookup ssrc).map
    IncomingSsrcState.maxSeqnum).getD 0

def detector (endpoint : Endpoint) (ssrc : Ssrc) :
    SequenceNumberReuseDetector :=
  ((endpoint.stateByIncomingSsrc.lookup ssrc).map
    IncomingSsrcState.seqnumReuseDetector).getD .default

variable {endpoint before middle after : Endpoint}

@[simp] theorem maxSeqnum_incomingSsrcState (endpoint : Endpoint)
    (ssrc : Ssrc) (now : Instant) :
    (endpoint.incomingSsrcState ssrc now).maxSeqnum =
      endpoint.maxSeqnum ssrc := by
  unfold incomingSsrcState maxSeqnum
  cases endpoint.stateByIncomingSsrc.lookup ssrc with
  | none => rfl
  | some state => rfl

@[simp] theorem detector_incomingSsrcState (endpoint : Endpoint)
    (ssrc : Ssrc) (now : Instant) :
    (endpoint.incomingSsrcState ssrc now).seqnumReuseDetector =
      endpoint.detector ssrc := by
  unfold incomingSsrcState detector
  cases endpoint.stateByIncomingSsrc.lookup ssrc with
  | none => rfl
  | some state => rfl

theorem maxSeqnum_setIncomingSsrcState (endpoint : Endpoint) (ssrc : Ssrc)
    (state : IncomingSsrcState) :
    (endpoint.setIncomingSsrcState ssrc state).maxSeqnum =
      Function.update endpoint.maxSeqnum ssrc state.maxSeqnum := by
  funext other
  unfold maxSeqnum setIncomingSsrcState
  by_cases same : other = ssrc
  · subst same
    simp
  · rw [AList.lookup_insert_ne same, Function.update_of_ne same]

theorem detector_setIncomingSsrcState (endpoint : Endpoint) (ssrc : Ssrc)
    (state : IncomingSsrcState) :
    (endpoint.setIncomingSsrcState ssrc state).detector =
      Function.update endpoint.detector ssrc state.seqnumReuseDetector := by
  funext other
  unfold detector setIncomingSsrcState
  by_cases same : other = ssrc
  · subst same
    simp
  · rw [AList.lookup_insert_ne same, Function.update_of_ne same]

/-- What decides whether a packet is accepted has not changed. -/
structure KeepsNumbers (before after : Endpoint) : Prop where
  decrypt : after.decrypt = before.decrypt
  maxSeqnum : after.maxSeqnum = before.maxSeqnum
  detector : after.detector = before.detector

namespace KeepsNumbers

theorem refl (endpoint : Endpoint) : KeepsNumbers endpoint endpoint :=
  ⟨rfl, rfl, rfl⟩

theorem trans (first : KeepsNumbers before middle)
    (second : KeepsNumbers middle after) : KeepsNumbers before after where
  decrypt := second.decrypt.trans first.decrypt
  maxSeqnum := second.maxSeqnum.trans first.maxSeqnum
  detector := second.detector.trans first.detector

/-- The states of the SSRCs have not been touched. -/
theorem of_states (decrypt : after.decrypt = before.decrypt)
    (states : after.stateByIncomingSsrc = before.stateByIncomingSsrc) :
    KeepsNumbers before after where
  decrypt := decrypt
  maxSeqnum := by
    unfold Endpoint.maxSeqnum
    rw [states]
  detector := by
    unfold Endpoint.detector
    rw [states]

/-- A state is written that has the numbers of its SSRC. -/
theorem of_set {ssrc : Ssrc} {state : IncomingSsrcState}
    (sameMax : state.maxSeqnum = endpoint.maxSeqnum ssrc)
    (sameDetector : state.seqnumReuseDetector = endpoint.detector ssrc) :
    KeepsNumbers endpoint (endpoint.setIncomingSsrcState ssrc state) where
  decrypt := rfl
  maxSeqnum := by
    rw [maxSeqnum_setIncomingSsrcState, sameMax, Function.update_eq_self]
  detector := by
    rw [detector_setIncomingSsrcState, sameDetector, Function.update_eq_self]

end KeepsNumbers

/-! ## Sending media -/

section Sending

variable {aead : Aead} {now : Instant} {outgoing incoming : Packet}
variable {result : Option Packet}

theorem keepsNumbers_rememberForRtx (endpoint : Endpoint) (outgoing : Packet)
    (now : Instant) :
    KeepsNumbers endpoint (endpoint.rememberForRtx outgoing now) := by
  unfold rememberForRtx
  split
  · exact .of_states rfl rfl
  · exact .refl endpoint

theorem keepsNumbers_encryptAndSendRtp
    (sent : before.encryptAndSendRtp aead outgoing now = .ok (after, result)) :
    KeepsNumbers before after := by
  obtain ⟨encrypted, -, returned⟩ := bind_eq_ok_iff.mp sent
  cases returned
  exact keepsNumbers_rememberForRtx before outgoing now

theorem keepsNumbers_stampRtp
    (stamp : before.stampRtp incoming = .ok (after, outgoing)) :
    KeepsNumbers before after := by
  obtain ⟨numbered, -, rest⟩ := bind_eq_ok_iff.mp stamp
  obtain ⟨stamped, -, returned⟩ := bind_eq_ok_iff.mp rest
  cases returned
  exact .of_states rfl rfl

theorem keepsNumbers_makeRtx {ssrc : Ssrc} {seqnum : TruncatedSequenceNumber}
    (make : before.makeRtx ssrc seqnum now = .ok (after, result)) :
    KeepsNumbers before after := by
  obtain ⟨resent, -, returned⟩ := bind_eq_ok_iff.mp make
  cases returned
  exact .of_states rfl rfl

theorem keepsNumbers_makePadding {rtxSsrc : Ssrc}
    (make : before.makePadding rtxSsrc = .ok (after, outgoing)) :
    KeepsNumbers before after := by
  obtain ⟨drawn, -, rest⟩ := bind_eq_ok_iff.mp make
  obtain ⟨padding, -, returned⟩ := bind_eq_ok_iff.mp rest
  cases returned
  exact .of_states rfl rfl

theorem keepsNumbers_sendRtp
    (sent : before.sendRtp aead incoming now = .ok (after, result)) :
    KeepsNumbers before after := by
  obtain ⟨stamped, stamp, rest⟩ := bind_eq_ok_iff.mp sent
  exact (keepsNumbers_stampRtp stamp).trans
    (keepsNumbers_encryptAndSendRtp rest)

theorem keepsNumbers_resendRtp {ssrc : Ssrc}
    {seqnum : TruncatedSequenceNumber}
    (sent : before.resendRtp aead ssrc seqnum now = .ok (after, result)) :
    KeepsNumbers before after := by
  obtain ⟨⟨made, rtx⟩, make, rest⟩ := bind_eq_ok_iff.mp sent
  have first := keepsNumbers_makeRtx make
  cases rtx with
  | none =>
      cases rest
      exact first
  | some outgoing =>
      exact first.trans (keepsNumbers_encryptAndSendRtp rest)

theorem keepsNumbers_sendPadding {rtxSsrc : Ssrc}
    (sent : before.sendPadding aead rtxSsrc now = .ok (after, result)) :
    KeepsNumbers before after := by
  obtain ⟨made, make, rest⟩ := bind_eq_ok_iff.mp sent
  exact (keepsNumbers_makePadding make).trans
    (keepsNumbers_encryptAndSendRtp rest)

theorem keepsNumbers_rememberSentForReports (endpoint : Endpoint)
    (outgoing : Packet) (now : Instant) :
    KeepsNumbers endpoint (endpoint.rememberSentForReports outgoing now) := by
  unfold rememberSentForReports
  split
  · exact .refl endpoint
  · exact .of_set (maxSeqnum_incomingSsrcState _ _ _)
      (detector_incomingSsrcState _ _ _)

theorem keepsNumbers_rememberSent (endpoint : Endpoint) (outgoing : Packet)
    (now : Instant) :
    KeepsNumbers endpoint (endpoint.rememberSent outgoing now) := by
  have first : KeepsNumbers endpoint
      (endpoint.rememberSentForTcc outgoing now) := by
    unfold rememberSentForTcc
    split
    · exact .refl endpoint
    · exact .of_states rfl rfl
  exact first.trans (keepsNumbers_rememberSentForReports _ outgoing now)

/-- Every operation that hands a packet to the cipher. -/
theorem keepsNumbers_encrypts {encryption : Encryption}
    (step : EndpointStep aead before (.encrypts encryption) after) :
    KeepsNumbers before after := by
  cases step with
  | sendRtp stamp sent => exact keepsNumbers_sendRtp sent
  | resendRtp make sent => exact keepsNumbers_resendRtp sent
  | sendPadding make sent => exact keepsNumbers_sendPadding sent

end Sending

/-! ## Bookkeeping about received packets -/

theorem keepsNumbers_rememberReceivedForNacks (endpoint : Endpoint)
    (incoming : Packet) (now : Instant) :
    KeepsNumbers endpoint
      (endpoint.rememberReceivedForNacks incoming now) := by
  unfold rememberReceivedForNacks
  split
  · exact .of_set (maxSeqnum_incomingSsrcState _ _ _)
      (detector_incomingSsrcState _ _ _)
  · exact .refl endpoint

theorem keepsNumbers_rememberReceivedForReports (endpoint : Endpoint)
    (incoming : Packet) (now : Instant) :
    KeepsNumbers endpoint
      (endpoint.rememberReceivedForReports incoming now) := by
  unfold rememberReceivedForReports
  split
  · exact .of_set (maxSeqnum_incomingSsrcState _ _ _)
      (detector_incomingSsrcState _ _ _)
  · exact .refl endpoint

theorem keepsNumbers_rememberReceivedForTcc (endpoint : Endpoint)
    (incoming : Packet) (now : Instant) :
    KeepsNumbers endpoint
      (endpoint.rememberReceivedForTcc incoming now) := by
  unfold rememberReceivedForTcc
  split
  · exact .refl endpoint
  · exact .of_states rfl rfl

end Endpoint

/-! ## Sending control packets -/

namespace ControlEndpoint

open Endpoint

variable {profile : BuildProfile} {aead : Aead}
variable {before after : ControlEndpoint}

/-- The state that a control send has looked up and writes back. -/
theorem keepsNumbers_setState {endpoint : ControlEndpoint} {ssrc : Ssrc}
    {state written : IncomingSsrcState}
    (found : endpoint.stateByIncomingSsrc.lookup ssrc = some state)
    (sameMax : written.maxSeqnum = state.maxSeqnum)
    (sameDetector :
      written.seqnumReuseDetector = state.seqnumReuseDetector) :
    KeepsNumbers endpoint.toEndpoint
      (endpoint.setState ssrc written).toEndpoint := by
  apply KeepsNumbers.of_set
  · unfold maxSeqnum
    rw [found]
    exact sameMax
  · unfold detector
    rw [found]
    exact sameDetector

theorem keepsNumbers_sendAcks {asked : Nat} {packets : List Bytes}
    (sent : before.sendAcks profile aead asked = .ok (after, packets)) :
    KeepsNumbers before.toEndpoint after.toEndpoint := by
  obtain ⟨emitted, -, returned⟩ := bind_eq_ok_iff.mp sent
  cases returned
  exact .of_states rfl rfl

theorem keepsNumbers_sendNack {ssrc : Ssrc}
    {seqnums : Option (List FullSequenceNumber)} {packet : Option Bytes}
    (sent : before.sendNack profile aead ssrc seqnums = .ok (after, packet)) :
    KeepsNumbers before.toEndpoint after.toEndpoint := by
  cases seqnums with
  | none =>
      cases sent
      exact .refl _
  | some missing =>
      obtain ⟨one, -, returned⟩ := bind_eq_ok_iff.mp sent
      cases returned
      exact .of_states rfl rfl

theorem keepsNumbers_sendNacks {now : Instant} {rtt : Duration}
    {visited : List Ssrc} {packets : List Bytes}
    (sent : sendNacks profile aead now rtt visited before =
      .ok (after, packets)) :
    KeepsNumbers before.toEndpoint after.toEndpoint := by
  induction visited generalizing before packets with
  | nil =>
      cases sent
      exact .refl _
  | cons ssrc visited ih =>
      unfold sendNacks at sent
      split at sent
      · exact ih sent
      · rename_i state found
        obtain ⟨nacked, -, later⟩ := bind_eq_ok_iff.mp sent
        obtain ⟨one, nack, more⟩ := bind_eq_ok_iff.mp later
        obtain ⟨rest, others, returned⟩ := bind_eq_ok_iff.mp more
        cases returned
        have marked : KeepsNumbers before.toEndpoint (before.setState ssrc
            { state with nackSender := nacked.1 }).toEndpoint :=
          keepsNumbers_setState found rfl rfl
        exact (marked.trans (keepsNumbers_sendNack nack)).trans (ih others)

theorem keepsNumbers_sendPli {pliSsrc : Ssrc} {packet : Option Bytes}
    (sent : before.sendPli profile aead pliSsrc = .ok (after, packet)) :
    KeepsNumbers before.toEndpoint after.toEndpoint := by
  obtain ⟨one, -, returned⟩ := bind_eq_ok_iff.mp sent
  cases returned
  exact .of_states rfl rfl

theorem keepsNumbers_writeReports {now : Instant} {order : List Ssrc}
    {blocks : List (Ssrc × Bytes)}
    (wrote : writeReports profile now order before = .ok (after, blocks)) :
    KeepsNumbers before.toEndpoint after.toEndpoint := by
  induction order generalizing before blocks with
  | nil =>
      cases wrote
      exact .refl _
  | cons ssrc order ih =>
      unfold writeReports at wrote
      split at wrote
      · exact ih wrote
      · rename_i state found
        obtain ⟨written, -, later⟩ := bind_eq_ok_iff.mp wrote
        cases written with
        | none => exact ih later
        | some written =>
            obtain ⟨rest, others, returned⟩ := bind_eq_ok_iff.mp later
            cases returned
            have one : KeepsNumbers before.toEndpoint
                (before.setReport ssrc state written).toEndpoint :=
              (@keepsNumbers_setState before ssrc state { state with
                rtcpReportSender := written.report } found rfl rfl).trans
                (.of_states rfl rfl)
            exact one.trans (ih others)

theorem keepsNumbers_sendRtcpReport {order : List Ssrc} {spare : Nat}
    {now : Instant} {packet : Option Bytes}
    (sent : before.sendRtcpReport profile aead order spare now =
      .ok (after, packet)) :
    KeepsNumbers before.toEndpoint after.toEndpoint := by
  unfold sendRtcpReport at sent
  split at sent
  · cases sent
    exact .refl _
  · obtain ⟨⟨written, blocks⟩, wrote, encrypting⟩ := bind_eq_ok_iff.mp sent
    obtain ⟨encrypted, -, later⟩ := bind_eq_ok_iff.mp encrypting
    apply (keepsNumbers_writeReports wrote).trans
    cases encrypted with
    | none =>
        cases later
        exact .refl _
    | some serialized =>
        obtain ⟨incremented, -, returned⟩ := bind_eq_ok_iff.mp later
        cases returned
        exact .of_states rfl rfl

end ControlEndpoint

/-! ## Receiving control packets -/

namespace ReportingEndpoint

open Endpoint

/-- The reports write tables that belong to the control packets, and create
states. -/
structure Reports (before after : ReportingEndpoint) : Prop where
  numbers : KeepsNumbers before.toEndpoint after.toEndpoint
  others : after.toEndpoint = { before.toEndpoint with
    stateByIncomingSsrc := after.stateByIncomingSsrc }

namespace Reports

variable {first second third : ReportingEndpoint}

theorem refl (endpoint : ReportingEndpoint) : Reports endpoint endpoint :=
  ⟨.refl _, rfl⟩

theorem trans (left : Reports first second) (right : Reports second third) :
    Reports first third where
  numbers := left.numbers.trans right.numbers
  others := by
    rw [right.others, left.others]

theorem foldl {Item : Type*}
    {step : ReportingEndpoint → Item → ReportingEndpoint}
    (reports : ∀ endpoint item, Reports endpoint (step endpoint item))
    (items : List Item) (endpoint : ReportingEndpoint) :
    Reports endpoint (items.foldl step endpoint) := by
  induction items generalizing endpoint with
  | nil => exact .refl endpoint
  | cons item rest ih => exact (reports endpoint item).trans (ih _)

end Reports

theorem reports_rememberSenderReport (now : Instant)
    (endpoint : ReportingEndpoint) (senderReport : SenderReport) :
    Reports endpoint (rememberSenderReport now endpoint senderReport) where
  numbers := .of_set (maxSeqnum_incomingSsrcState _ _ _)
    (detector_incomingSsrcState _ _ _)
  others := rfl

theorem reports_rememberBlock (smooth : Smoothing) (now : Instant)
    (endpoint : ReportingEndpoint) (block : ReportBlock) :
    Reports endpoint (rememberBlock smooth now endpoint block) := by
  unfold rememberBlock
  split
  · exact ⟨.of_states rfl rfl, rfl⟩
  · exact .refl endpoint

theorem reports_rememberReceiverReport (smooth : Smoothing) (now : Instant)
    (endpoint : ReportingEndpoint) (report : ReceiverReport) :
    Reports endpoint
      (rememberReceiverReport smooth now endpoint report) := by
  unfold rememberReceiverReport
  split
  · exact .foldl (reports_rememberBlock smooth now) _ endpoint
  · exact .refl endpoint

/-- The cases of `receive_rtcp`: nothing has been read, or the feedback went
to the transport-cc sender and the reports to the statistics. -/
theorem receiveRtcp_cases {profile : BuildProfile} {aead : Aead}
    {smooth : Smoothing} {before after : ReportingEndpoint}
    {encrypted : Bytes} {now : Instant}
    {processed : Option ProcessedControlPacket}
    (received : before.receiveRtcp profile aead smooth encrypted now =
      .ok (after, processed)) :
    (processed = none ∧ after = before) ∨
      ∃ incoming tccSender acks, ControlPacket.parseAndDecryptInPlace aead
          encrypted before.decrypt.rtcp = .ok (some incoming) ∧
        before.tccSender.processFeedbackAndCorrelateAcks profile now
          incoming.tccFeedbacks = .ok (tccSender, acks) ∧
        processed = some ⟨incoming.keyFrameRequests, acks, incoming.nacks⟩ ∧
        after = incoming.receiverReports.foldl
          (rememberReceiverReport smooth now)
            (incoming.senderReports.foldl (rememberSenderReport now)
              { before with tccSender }) := by
  obtain ⟨parsed, parse, rest⟩ := bind_eq_ok_iff.mp received
  cases parsed with
  | none =>
      cases rest
      exact .inl ⟨rfl, rfl⟩
  | some incoming =>
      obtain ⟨⟨tccSender, acks⟩, feedback, returned⟩ :=
        bind_eq_ok_iff.mp rest
      cases returned
      exact .inr ⟨incoming, tccSender, acks, parse, feedback, rfl, rfl⟩

theorem nextSendSeqnum_correlateAcks (feedbackArrival : Instant)
    (arrivals : List (Nat × Tcc.RemoteInstant)) (sender : Tcc.Sender) :
    (sender.correlateAcks feedbackArrival arrivals).1.nextSendSeqnum =
      sender.nextSendSeqnum := by
  induction arrivals generalizing sender with
  | nil => rfl
  | cons entry rest ih =>
      unfold Tcc.Sender.correlateAcks
      dsimp only
      split
      · exact ih _
      · exact ih _

theorem nextSendSeqnum_processFeedback {profile : BuildProfile}
    {now : Instant} {feedback : List Bytes} {before after : Tcc.Sender}
    {acks : List Tcc.Ack}
    (processed : before.processFeedbackAndCorrelateAcks profile now feedback =
      .ok (after, acks)) :
    after.nextSendSeqnum = before.nextSendSeqnum := by
  induction feedback generalizing before acks with
  | nil =>
      cases processed
      rfl
  | cons payload rest ih =>
      obtain ⟨read, -, later⟩ := bind_eq_ok_iff.mp processed
      obtain ⟨others, more, returned⟩ := bind_eq_ok_iff.mp later
      cases returned
      have kept := ih more
      rw [kept]
      split
      · rename_i arrivals found
        exact nextSendSeqnum_correlateAcks _ _ _
      · rfl

/-- What `receive_rtcp` does is what the runs of an endpoint allow it to do,
and it leaves the numbers of the receiver alone. -/
theorem receivesRtcp_receiveRtcp {profile : BuildProfile} {aead : Aead}
    {smooth : Smoothing} {before after : ReportingEndpoint}
    {encrypted : Bytes} {now : Instant}
    {processed : Option ProcessedControlPacket}
    (received : before.receiveRtcp profile aead smooth encrypted now =
      .ok (after, processed)) :
    ReceivesRtcp before.toEndpoint after.toEndpoint ∧
      KeepsNumbers before.toEndpoint after.toEndpoint := by
  obtain ⟨-, rfl⟩ | ⟨incoming, tccSender, acks, -, feedback, -, rfl⟩ :=
    receiveRtcp_cases received
  · exact ⟨⟨rfl, rfl⟩, .refl _⟩
  · have acknowledged : KeepsNumbers before.toEndpoint
        { before with tccSender : ReportingEndpoint }.toEndpoint :=
      .of_states rfl rfl
    have reports := (Reports.foldl (reports_rememberSenderReport now)
      incoming.senderReports { before with tccSender }).trans
        (.foldl (reports_rememberReceiverReport smooth now)
          incoming.receiverReports _)
    refine ⟨⟨?_, ?_⟩, acknowledged.trans reports.numbers⟩
    · rw [reports.others]
    · rw [reports.others]
      exact nextSendSeqnum_processFeedback feedback

end ReportingEndpoint

end CallingService.Backend.Rtp
