import CallingService.Backend.Connection
import Mathlib.Data.List.Flatten

/-!
# Packets handed out by a connection

A connection sends at once, from the queues of its pacer, in answer to NACKs
and as padding.  All of these packets come from the cipher of its endpoint,
each at most once, unless a video packet has entered the queue before an
address was nominated: such a packet is neither numbered nor encrypted, and
leaves as plain text after the nomination.
-/

namespace CallingService.Backend

open Foundation Rtp

inductive ConnectionOp where
  | sendOrEnqueueRtp (outgoing : Packet) (now : Instant)
  | handleIceBindingRequest (senderAddr : SocketLocator)
      (request : BindingRequest) (now : Instant)
  | configureCongestionControl (config : PacerConfig) (now : Instant)
  | handleRtpPacket (encrypted : Bytes) (now : Instant)
  | handleRtcpPacket (nacks : List (Ssrc × List TruncatedSequenceNumber))
      (now : Instant)
  | dequeueOutgoingRtp (now : Instant)

/-- An operation and the RTP packets it hands out for the network. -/
structure ConnectionEvent where
  op : ConnectionOp
  handedOut : List Packet

/-- The operations of one connection.  Before its NACKs are answered an RTCP
packet is processed by the endpoint. -/
inductive ConnectionStep (rates : RateArithmetic) (aead : Aead) :
    Connection → ConnectionEvent → Connection → Prop where
  | sendOrEnqueueRtp {before after : Connection} {outgoing : Packet}
      {now : Instant} {out : Outgoing} :
      before.sendOrEnqueueRtp rates aead outgoing now = .ok (after, out) →
      ConnectionStep rates aead before
        ⟨.sendOrEnqueueRtp outgoing now, out.rtpToSend.map Prod.fst⟩ after
  | handleIceBindingRequest {before after : Connection}
      {senderAddr : SocketLocator} {request : BindingRequest}
      {now : Instant} :
      before.handleIceBindingRequest senderAddr request now = .ok after →
      ConnectionStep rates aead before
        ⟨.handleIceBindingRequest senderAddr request now, []⟩ after
  | rejectIceBindingRequest {before : Connection}
      {senderAddr : SocketLocator} {request : BindingRequest}
      {now : Instant} {error : ConnectionError} :
      before.handleIceBindingRequest senderAddr request now = .error error →
      ConnectionStep rates aead before
        ⟨.handleIceBindingRequest senderAddr request now, []⟩ before
  | configureCongestionControl {before : Connection} {config : PacerConfig}
      {now : Instant} :
      ConnectionStep rates aead before
        ⟨.configureCongestionControl config now, []⟩
        (before.configureCongestionControl rates config now).1
  | handleRtpPacket {before : Connection} {encrypted : Bytes} {now : Instant}
      {endpoint : Endpoint} {result : Option Packet} :
      before.endpoint.receiveRtp aead encrypted now = .ok (endpoint, result) →
      ConnectionStep rates aead before ⟨.handleRtpPacket encrypted now, []⟩
        { before with endpoint := endpoint }
  | handleRtcpPacket {before after : Connection} {received : Endpoint}
      {nacks : List (Ssrc × List TruncatedSequenceNumber)} {now : Instant}
      {out : Outgoing} :
      ReceivesRtcp before.endpoint received →
      { before with endpoint := received }.handleNacks rates aead nacks now =
        .ok (after, out) →
      ConnectionStep rates aead before
        ⟨.handleRtcpPacket nacks now, out.rtpToSend.map Prod.fst⟩ after
  | dequeueOutgoingRtp {before after : Connection} {now : Instant}
      {result : Option (SocketLocator × Option Packet × Option Instant)} :
      before.dequeueOutgoingRtp rates aead now = .ok (after, result) →
      ConnectionStep rates aead before
        ⟨.dequeueOutgoingRtp now, (result.bind fun out => out.2.1).toList⟩ after

/-- All packets that leave during a run. -/
def handedOut (events : List ConnectionEvent) : List Packet :=
  events.flatMap ConnectionEvent.handedOut

/-- The packets that come out of the cipher. -/
def encryptedPackets (events : List EndpointEvent) : List Packet :=
  events.filterMap fun event => event.encryption?.bind Encryption.result

@[simp] theorem encryptedPackets_append (first second : List EndpointEvent) :
    encryptedPackets (first ++ second) =
      encryptedPackets first ++ encryptedPackets second :=
  List.filterMap_append

/-! ## Accounting for packets -/

variable {rates : RateArithmetic} {aead : Aead}

/-- From a pool of packets, and from what the cipher adds to it, packets are
handed out and a smaller pool is left. -/
def Serves (aead : Aead) (endpoint : Endpoint) (pool : List Packet)
    (out : List Packet) (after : Endpoint) (left : List Packet) : Prop :=
  ∃ events, Run (EndpointStep aead) endpoint events after ∧
    (out ++ left).Subperm (encryptedPackets events ++ pool)

namespace Serves

variable {first second third : Endpoint} {pool middle left : List Packet}
variable {out later : List Packet}

theorem of_subperm (endpoint : Endpoint)
    (kept : (out ++ left).Subperm pool) :
    Serves aead endpoint pool out endpoint left :=
  ⟨[], .nil, kept⟩

theorem of_quiet (step : EndpointStep aead first .other second) :
    Serves aead first pool [] second pool :=
  ⟨[.other], .snoc .nil step, .refl _⟩

theorem of_encryption {encryption : Encryption}
    (step : EndpointStep aead first (.encrypts encryption) second) :
    Serves aead first pool [] second (encryption.result.toList ++ pool) := by
  refine ⟨[.encrypts encryption], .snoc .nil step, ?_⟩
  cases result : encryption.result with
  | none =>
      simp only [encryptedPackets, EndpointEvent.encryption?, result,
        List.filterMap_cons, Option.bind_some, List.filterMap_nil]
      exact .refl _
  | some packet =>
      simp only [encryptedPackets, EndpointEvent.encryption?, result,
        List.filterMap_cons, Option.bind_some, List.filterMap_nil]
      exact .refl _

theorem trans (served : Serves aead first pool out second middle)
    (next : Serves aead second middle later third left) :
    Serves aead first pool (out ++ later) third left := by
  obtain ⟨events, run, kept⟩ := served
  obtain ⟨moreEvents, moreRun, moreKept⟩ := next
  refine ⟨events ++ moreEvents, run.append moreRun, ?_⟩
  rw [encryptedPackets_append, List.append_assoc]
  have swapped : (out ++ (encryptedPackets moreEvents ++ middle)).Perm
      (encryptedPackets moreEvents ++ (out ++ middle)) := by
    rw [← List.append_assoc, ← List.append_assoc]
    exact List.perm_append_comm.append_right _
  have regrouped : (encryptedPackets moreEvents ++
      (encryptedPackets events ++ pool)).Perm
        (encryptedPackets events ++ encryptedPackets moreEvents ++ pool) := by
    rw [← List.append_assoc]
    exact List.perm_append_comm.append_right _
  have extended : (out ++ (later ++ left)).Subperm
      (out ++ (encryptedPackets moreEvents ++ middle)) :=
    (List.Subperm.refl out).append moreKept
  have replaced : (encryptedPackets moreEvents ++ (out ++ middle)).Subperm
      (encryptedPackets moreEvents ++ (encryptedPackets events ++ pool)) :=
    (List.Subperm.refl _).append kept
  exact extended.trans (swapped.subperm.trans
    (replaced.trans regrouped.subperm))

end Serves

namespace Connection

/-- The packets of the queues serve an operation of the connection. -/
def ServedBy (aead : Aead) (before : Connection) (out : List Packet)
    (after : Connection) : Prop :=
  Serves aead before.endpoint before.pacer.queued out after.endpoint
    after.pacer.queued

variable {before after : Connection} {now : Instant}

theorem pace_serves (connection : Connection) (outgoing : Packet)
    (now : Instant) :
    Serves aead connection.endpoint (outgoing :: connection.pacer.queued)
      (connection.pace rates outgoing now).2.1.toList
      (connection.pace rates outgoing now).1.endpoint
      (connection.pace rates outgoing now).1.pacer.queued := by
  have enqueued := (connection.pacer.enqueue_perm rates outgoing now).subperm
  unfold pace
  dsimp only
  cases returned : (connection.pacer.enqueue rates outgoing now).2.1 with
  | none =>
      rw [returned] at enqueued
      exact .of_subperm _ enqueued
  | some packet =>
      rw [returned] at enqueued
      exact (Serves.of_subperm _ enqueued).trans (.of_quiet .rememberSent)

theorem sendRtp_serves {outgoingAddr : SocketLocator} {incoming : Packet}
    {out : Outgoing}
    (sent : before.sendRtp rates aead outgoingAddr incoming now =
      .ok (after, out)) :
    ServedBy aead before (out.rtpToSend.map Prod.fst) after := by
  obtain ⟨⟨endpoint, result⟩, send, rest⟩ := bind_eq_ok_iff.mp sent
  obtain ⟨⟨stamped, plain⟩, stamp, -⟩ := bind_eq_ok_iff.mp send
  have encrypted : Serves aead before.endpoint before.pacer.queued [] endpoint
      (result.toList ++ before.pacer.queued) :=
    .of_encryption (.sendRtp stamp send)
  cases result with
  | none =>
      cases rest
      exact encrypted
  | some outgoing =>
      dsimp only at rest
      split at rest
      · cases rest
        have paced := @pace_serves rates aead
          { before with endpoint := endpoint } outgoing now
        have all := encrypted.trans paced
        unfold ServedBy
        rw [List.map_map]
        simpa [Function.comp_def] using all
      · cases rest
        have handed : Serves aead endpoint (outgoing :: before.pacer.queued)
            [outgoing] endpoint before.pacer.queued :=
          .of_subperm endpoint (.refl _)
        exact (encrypted.trans handed).trans
          (.of_quiet .rememberSentForReports)

theorem rememberDequeued_serves (connection : Connection) (outgoing : Packet)
    (now : Instant) :
    ServedBy aead connection [] (connection.rememberDequeued outgoing now) := by
  have remembered : Serves aead connection.endpoint connection.pacer.queued []
      (connection.endpoint.rememberSent outgoing now)
      connection.pacer.queued :=
    .of_quiet .rememberSent
  unfold rememberDequeued
  dsimp only
  split
  · exact remembered.trans (.of_quiet .markAsSent)
  · exact remembered

theorem sendPadding_serves {endpoint next : Endpoint} {ssrc : Ssrc}
    {result : Option Packet} {pool : List Packet}
    (padded : endpoint.sendPadding aead ssrc now = .ok (next, result)) :
    Serves aead endpoint pool [] next (result.toList ++ pool) := by
  obtain ⟨⟨made, padding⟩, make, -⟩ := bind_eq_ok_iff.mp padded
  exact .of_encryption (.sendPadding make padded)

theorem dequeueOutgoingRtp_serves
    {result : Option (SocketLocator × Option Packet × Option Instant)}
    (dequeued : before.dequeueOutgoingRtp rates aead now =
      .ok (after, result)) :
    ServedBy aead before (result.bind fun out => out.2.1).toList after := by
  unfold dequeueOutgoingRtp at dequeued
  split at dequeued
  case h_1 =>
    cases dequeued
    exact .of_subperm _ (.refl _)
  case h_2 outgoingAddr _ =>
    obtain ⟨⟨pacer, endpoint, packet, time⟩, popped, rest⟩ :=
      bind_eq_ok_iff.mp dequeued
    have taken : Serves aead before.endpoint before.pacer.queued packet.toList
        endpoint pacer.queued := by
      rcases Pacer.dequeue_outcome rates popped with
        ⟨rfl, kept⟩ | ⟨⟨ssrc, padded⟩, kept⟩
      · exact .of_subperm _ kept
      · have handed : (packet.toList ++ pacer.queued).Subperm
            (packet.toList ++ before.pacer.queued) :=
          (List.Subperm.refl _).append kept
        exact (sendPadding_serves padded).trans (.of_subperm _ handed)
    cases packet with
    | none =>
        cases rest
        cases time with
        | none => exact taken
        | some time => exact taken
    | some outgoing =>
        cases rest
        exact taken.trans (rememberDequeued_serves
          { before with pacer := pacer, endpoint := endpoint } outgoing now)

theorem resend_serves {ssrc : Ssrc} {seqnum : TruncatedSequenceNumber}
    {packet : Option Packet} {time : Option Instant}
    (resent : before.resend rates aead ssrc seqnum now =
      .ok (after, packet, time)) :
    ServedBy aead before packet.toList after := by
  obtain ⟨⟨endpoint, rtx⟩, send, rest⟩ := bind_eq_ok_iff.mp resent
  obtain ⟨⟨made, plain⟩, make, sent⟩ := bind_eq_ok_iff.mp send
  have encrypted : Serves aead before.endpoint before.pacer.queued [] endpoint
      (rtx.toList ++ before.pacer.queued) := by
    cases plain with
    | none =>
        cases sent
        exact .of_quiet (.resendNothing make send)
    | some plain => exact .of_encryption (.resendRtp make send)
  cases rtx with
  | none =>
      cases rest
      exact encrypted
  | some outgoing =>
      have paced := @pace_serves rates aead
        { before with endpoint := endpoint } outgoing now
      have all := encrypted.trans paced
      dsimp only at rest
      split at rest
      case h_1 sentPacket immediately =>
        cases rest
        rw [immediately] at all
        exact all.trans (.of_quiet .markAsSent)
      case h_2 queued =>
        cases rest
        rw [queued] at all
        exact all

theorem resendAll_serves {outgoingAddr : SocketLocator} :
    ∀ {numbers : List (Ssrc × TruncatedSequenceNumber)}
      {before after : Connection} {out : Outgoing},
      resendAll rates aead outgoingAddr now numbers before =
        .ok (after, out) →
      ServedBy aead before (out.rtpToSend.map Prod.fst) after := by
  intro numbers
  induction numbers with
  | nil =>
      intro before after out finished
      cases finished
      exact .of_subperm _ (.refl _)
  | cons number rest ih =>
      intro before after out finished
      obtain ⟨⟨resent, packet, time⟩, first, others⟩ :=
        bind_eq_ok_iff.mp finished
      obtain ⟨⟨final, later⟩, more, returned⟩ := bind_eq_ok_iff.mp others
      cases returned
      have all := (resend_serves first).trans (ih more)
      unfold ServedBy
      rw [List.map_append, List.map_map]
      simpa [Function.comp_def] using all

theorem handleNacks_serves
    {nacks : List (Ssrc × List TruncatedSequenceNumber)} {out : Outgoing}
    (handled : before.handleNacks rates aead nacks now = .ok (after, out)) :
    ServedBy aead before (out.rtpToSend.map Prod.fst) after := by
  unfold handleNacks at handled
  split at handled
  · cases handled
    exact .of_subperm _ (.refl _)
  · exact resendAll_serves handled

theorem handleIceBindingRequest_serves {senderAddr : SocketLocator}
    {request : BindingRequest}
    (handled : before.handleIceBindingRequest senderAddr request now =
      .ok after) : ServedBy aead before [] after := by
  obtain ⟨_, -, rest⟩ := bind_eq_ok_iff.mp handled
  obtain ⟨_, -, rest⟩ := bind_eq_ok_iff.mp rest
  split at rest
  · cases rest
    exact .of_subperm _ (.refl _)
  · cases rest
    exact .of_subperm _ (.refl _)

end Connection

/-! ## What is handed out over a run -/

/-- A packet whose payload has been replaced by the ciphertext and the tag,
and whose transport-cc number stands in its header. -/
def SealedBy (aead : Aead) (keys : KeyAndSalt) (packet : Packet) : Prop :=
  packet.encrypted = true ∧ ∃ plain : Packet,
    plain.encrypted = false ∧
      plain.encryptInPlace aead keys = .ok (some packet) ∧
      plain.drawnTccSeqnums = packet.drawnTccSeqnums ∧ plain.CarriesTccSeqnum

/-- Every packet handed out has been encrypted by the endpoint, for this
packet alone, with a number that the endpoint has assigned to it. -/
structure HandsOutOnlySealed (aead : Aead) (start : Connection)
    (events : List ConnectionEvent) (finish : Connection) : Prop where
  encrypted : ∀ packet ∈ handedOut events,
    SealedBy aead start.endpoint.encrypt.rtp packet
  once : ∃ endpointEvents,
    Run (EndpointStep aead) start.endpoint endpointEvents finish.endpoint ∧
      (handedOut events).Subperm (encryptedPackets endpointEvents)
  assigned : ∀ {number},
    ((), number) ∈ (handedOut events).flatMap Packet.drawnTccSeqnums →
      start.endpoint.tccSender.nextSendSeqnum ≤ number ∧
        number < finish.endpoint.tccSender.nextSendSeqnum
  distinct : ((handedOut events).flatMap Packet.drawnTccSeqnums).Nodup

/-- No congestion-controlled video packet is sent before an address has been
nominated. -/
def NominatedBeforeVideo (connection : Connection) (event : ConnectionEvent) :
    Prop :=
  match event.op with
  | .sendOrEnqueueRtp outgoing _ =>
      connection.outgoingAddr = none →
        ¬ (outgoing.tccSeqnum.isSome ∧ outgoing.isVideo)
  | _ => True

theorem step_serves {before after : Connection} {event : ConnectionEvent}
    (admitted : NominatedBeforeVideo before event)
    (step : ConnectionStep rates aead before event after) :
    Connection.ServedBy aead before event.handedOut after := by
  cases step with
  | sendOrEnqueueRtp sent =>
      unfold Connection.sendOrEnqueueRtp at sent
      split at sent
      case h_1 => exact Connection.sendRtp_serves sent
      case h_2 noAddr =>
        -- the guard excludes the packets that would be queued as plain text
        split at sent
        · rename_i video
          rw [Bool.and_eq_true] at video
          exact absurd video (admitted noAddr)
        · cases sent
          exact .of_subperm _ (.refl _)
  | handleIceBindingRequest handled =>
      exact Connection.handleIceBindingRequest_serves handled
  | rejectIceBindingRequest => exact .of_subperm _ (.refl _)
  | configureCongestionControl =>
      apply Serves.of_subperm
      simp only [Connection.configureCongestionControl,
        Pacer.queued_setConfig, List.nil_append]
      exact .refl _
  | handleRtpPacket received => exact .of_quiet (.receiveRtp received)
  | handleRtcpPacket received handled =>
      exact (Serves.of_quiet (.receiveRtcp received)).trans
        (Connection.handleNacks_serves handled)
  | dequeueOutgoingRtp dequeued =>
      exact Connection.dequeueOutgoingRtp_serves dequeued

theorem run_serves {start finish : Connection} {events : List ConnectionEvent}
    (run : Run (Guarded NominatedBeforeVideo (ConnectionStep rates aead))
      start events finish) :
    Connection.ServedBy aead start (handedOut events) finish := by
  induction run with
  | nil => exact .of_subperm _ (.refl _)
  | snoc _ last ih =>
      unfold handedOut
      rw [List.flatMap_append, List.flatMap_singleton]
      exact ih.trans (step_serves last.1 last.2)

/-- The encrypted packets of an endpoint's run carry the numbers drawn in it,
in the same order. -/
theorem drawnTccSeqnums_sublist {start finish : Endpoint} :
    ∀ {events : List EndpointEvent}, RunEffect aead start events finish →
      ((encryptedPackets events).flatMap Packet.drawnTccSeqnums).Sublist
        (events.flatMap EndpointEvent.drawnTccNumbers) := by
  intro events effect
  have sealed := @effect.sealed
  clear effect
  induction events with
  | nil => exact .slnil
  | cons event rest ih =>
      have later := ih fun member => sealed (List.mem_cons_of_mem _ member)
      rw [List.flatMap_cons]
      cases event with
      | other => exact later
      | encrypts encryption =>
          have last := (sealed List.mem_cons_self).2
          cases result : encryption.result with
          | none =>
              have skipped : encryptedPackets (.encrypts encryption :: rest) =
                  encryptedPackets rest := by
                simp [encryptedPackets, EndpointEvent.encryption?, result]
              rw [skipped]
              exact later.trans (List.sublist_append_right _ _)
          | some packet =>
              have kept : encryptedPackets (.encrypts encryption :: rest) =
                  packet :: encryptedPackets rest := by
                simp [encryptedPackets, EndpointEvent.encryption?, result]
              rw [result] at last
              have same : packet.drawnTccSeqnums =
                  encryption.outgoing.drawnTccSeqnums := by
                rw [(Packet.encryptInPlace_eq_some last).2]
                rfl
              rw [kept, List.flatMap_cons, same]
              exact (List.Sublist.refl _).append later

theorem sealedBy_of_mem {start finish : Endpoint}
    {events : List EndpointEvent} (effect : RunEffect aead start events finish)
    {packet : Packet} (member : packet ∈ encryptedPackets events) :
    SealedBy aead start.encrypt.rtp packet := by
  obtain ⟨event, occurs, found⟩ := List.mem_filterMap.mp member
  cases event with
  | other => cases found
  | encrypts encryption =>
      obtain ⟨carries, encrypted⟩ := effect.sealed occurs
      have result : encryption.result = some packet := found
      rw [result] at encrypted
      obtain ⟨unencrypted, others⟩ := Packet.encryptInPlace_eq_some encrypted
      refine ⟨by rw [others], encryption.outgoing, unencrypted, encrypted, ?_,
        carries⟩
      rw [others]
      rfl

theorem handsOutOnlySealed_of_guarded_run {ice : Ice}
    {decrypt encrypt : KeysAndSalts} {ackSsrc : Ssrc}
    {initialTargetSendRate : DataRate} {inactivityTimeout : Duration}
    {now : Instant} {events : List ConnectionEvent} {finish : Connection}
    (run : Run (Guarded NominatedBeforeVideo (ConnectionStep rates aead))
      (Connection.new ice decrypt encrypt ackSsrc initialTargetSendRate
        inactivityTimeout now) events finish) :
    HandsOutOnlySealed aead
      (Connection.new ice decrypt encrypt ackSsrc initialTargetSendRate
        inactivityTimeout now) events finish := by
  obtain ⟨endpointEvents, endpointRun, kept⟩ := run_serves run
  have effect := runEffect_of_run (RtxSender.filedBySsrc_new _ _) endpointRun
  have once : (handedOut events).Subperm (encryptedPackets endpointEvents) := by
    have whole : (handedOut events).Subperm
        (handedOut events ++ finish.pacer.queued) :=
      (List.sublist_append_left _ _).subperm
    have received := whole.trans kept
    rw [Connection.new, Pacer.queued_new, List.append_nil] at received
    exact received
  have numbers : ((handedOut events).flatMap Packet.drawnTccSeqnums).Subperm
      (endpointEvents.flatMap EndpointEvent.drawnTccNumbers) := by
    obtain ⟨reordered, permuted, sublist⟩ := once
    have drawn := (sublist.flatMap Packet.drawnTccSeqnums).trans
      (drawnTccSeqnums_sublist effect)
    exact (permuted.symm.flatMap_right _).subperm.trans drawn.subperm
  refine ⟨?_, ⟨endpointEvents, endpointRun, once⟩, ?_, ?_⟩
  · intro packet member
    exact sealedBy_of_mem effect (once.subset member)
  · intro number member
    have issued := numbers.subset member
    exact ⟨effect.tccIssued.ge_of_mem issued,
      effect.tccIssued.lt_of_mem issued⟩
  · obtain ⟨drawn, permuted, sublist⟩ := numbers
    exact permuted.nodup_iff.mp (effect.tccIssued.nodup.sublist sublist)

/-! ## A nominated connection and one that is not -/

/-- Rates and durations in exact arithmetic, rounded to bits and
nanoseconds. -/
def exactRates : RateArithmetic where
  sizeOver rate duration := rate * duration / nanosPerSec
  timeFor size rate := (size * nanosPerSec + rate / 2) / rate

/-- A key frame packet that has arrived with the transport-cc number 77. -/
def videoPacket : Packet :=
  .withEmptyTag vp8PayloadType 9 0 2 (some 77) (some 5) [1, 2, 3]

/-- AES-128-GCM under the zero key, for the packet with the number 1. -/
def videoVector : GcmVector where
  key := zeroKeys.rtp.key
  nonce := [0, 0, 0, 0, 0, 2, 0, 0, 0, 0, 0, 9]
  aad := [144, 108, 0, 9, 0, 0, 0, 0, 0, 0, 0, 2, 190, 222, 0, 1, 17, 0, 1, 0]
  plaintext := [1, 2, 3]
  ciphertext := [0, 250, 251]
  tag := [92, 150, 17, 68, 119, 136, 111, 247,
    44, 198, 137, 102, 78, 58, 190, 96]

def videoAead : Aead := .ofVectors [videoVector] (by decide) (by decide)

def newConnection : Connection :=
  .new ⟨[1], [2], [3], none⟩ zeroKeys zeroKeys 4 100000 (fromSecs 30) 0

def clientAddr : SocketLocator := .udp [192, 0, 2, 1] 10000

def nomination : BindingRequest := ⟨[1], [], true, fun _ => true⟩

def nominatedConnection : Connection :=
  { newConnection with
    ice := { newConnection.ice with bindingRequestReceived := some 6 }
    outgoingAddr := some clientAddr
    outgoingAddrType := some .udpV4 }

theorem nominate : newConnection.handleIceBindingRequest clientAddr nomination
    6 = .ok nominatedConnection := rfl

theorem nominatedConnection_sends : ∃ after out,
    nominatedConnection.sendOrEnqueueRtp exactRates videoAead videoPacket 7 =
      .ok (after, out) ∧
    out.rtpToSend.map (fun sent => (sent.1.serialized, sent.1.tccSeqnum)) =
      [(videoVector.aad ++ videoVector.ciphertext ++ videoVector.tag,
        some 1)] :=
  ⟨_, _, rfl, rfl⟩

/-- After the nomination the packet leaves with the number 1. -/
theorem handsOutOnlySealed_nominated : ∃ events finish,
    HandsOutOnlySealed videoAead newConnection events finish ∧
    (handedOut events).map Packet.serialized =
      [videoVector.aad ++ videoVector.ciphertext ++ videoVector.tag] := by
  obtain ⟨after, out, sent, content⟩ := nominatedConnection_sends
  have run : Run (Guarded NominatedBeforeVideo
      (ConnectionStep exactRates videoAead)) newConnection
        [⟨.handleIceBindingRequest clientAddr nomination 6, []⟩,
          ⟨.sendOrEnqueueRtp videoPacket 7, out.rtpToSend.map Prod.fst⟩]
        after := by
    refine .snoc (.snoc .nil ⟨trivial, .handleIceBindingRequest nominate⟩)
      ⟨?_, .sendOrEnqueueRtp sent⟩
    intro noAddr
    cases noAddr
  refine ⟨_, after, handsOutOnlySealed_of_guarded_run run, ?_⟩
  have serialized := congrArg (List.map Prod.fst) content
  simpa [handedOut, Function.comp_def] using serialized

/-- The packet waits in the queue, before and after the nomination. -/
def waitingConnection : Connection :=
  { newConnection with pacer := newConnection.pacer.forceEnqueue videoPacket }

def lateConnection : Connection :=
  { nominatedConnection with
    pacer := newConnection.pacer.forceEnqueue videoPacket }

/-- Sent before the nomination, the packet leaves as plain text, with the
number of another endpoint. -/
theorem not_handsOutOnlySealed_before_nomination : ∃ events finish,
    Run (ConnectionStep exactRates videoAead) newConnection events finish ∧
    handedOut events = [videoPacket] ∧ videoPacket.encrypted = false ∧
    videoPacket.tccSeqnum = some 77 ∧
    ¬ HandsOutOnlySealed videoAead newConnection events finish := by
  have queued : newConnection.sendOrEnqueueRtp exactRates videoAead videoPacket
      5 = .ok (waitingConnection, ⟨[], []⟩) := rfl
  have nominated : waitingConnection.handleIceBindingRequest clientAddr
      nomination 6 = .ok lateConnection := rfl
  have dequeued : ∃ after time, lateConnection.dequeueOutgoingRtp exactRates
      videoAead 7 = .ok (after, some (clientAddr, some videoPacket, time)) :=
    ⟨_, _, rfl⟩
  obtain ⟨after, time, taken⟩ := dequeued
  refine ⟨_, after, .snoc (.snoc (.snoc .nil (.sendOrEnqueueRtp queued))
    (.handleIceBindingRequest nominated)) (.dequeueOutgoingRtp taken), rfl,
    rfl, rfl, ?_⟩
  intro holds
  have encrypted := (holds.encrypted videoPacket List.mem_cons_self).1
  cases encrypted

end CallingService.Backend
