import CallingService.Foundation.Run
import CallingService.Backend.Rtp.Endpoint

/-!
# Runs of the RTP endpoint

Every operation either leaves the outgoing numbers alone or hands exactly one
packet to the cipher, after it has drawn the numbers of this packet.
-/

namespace CallingService.Backend.Rtp

open Foundation

/-- The operation that hands a packet to the cipher. -/
inductive SendOrigin where
  | sendRtp
  | resendRtp
  | sendPadding
deriving DecidableEq, Repr

/-- A packet as it is handed to the cipher, and what becomes of it. -/
structure Encryption where
  origin : SendOrigin
  outgoing : Packet
  result : Option Packet

inductive EndpointEvent where
  | encrypts (encryption : Encryption)
  | other

def EndpointEvent.encryption? : EndpointEvent → Option Encryption
  | .encrypts encryption => some encryption
  | .other => none

/-- Retransmissions, also forwarded ones, and padding. -/
def Encryption.isRtxOrPadding (encryption : Encryption) : Bool :=
  match encryption.origin with
  | .sendRtp => encryption.outgoing.isRtx
  | .resendRtp => true
  | .sendPadding => true

/-- The effect of `receive_rtcp`: acknowledgements and reports change the
remembered sizes and the statistics only. -/
structure ReceivesRtcp (before after : Endpoint) : Prop where
  others : after = { before with
    stateByIncomingSsrc := after.stateByIncomingSsrc
    tccSender := after.tccSender }
  nextSendSeqnum :
    after.tccSender.nextSendSeqnum = before.tccSender.nextSendSeqnum

/-- The operations of one endpoint.  An operation that panics ends the
process, so that there is no step for it. -/
inductive EndpointStep (aead : Aead) :
    Endpoint → EndpointEvent → Endpoint → Prop where
  | sendRtp {before stamped after : Endpoint} {incoming outgoing : Packet}
      {now : Instant} {result : Option Packet} :
      before.stampRtp incoming = .ok (stamped, outgoing) →
      before.sendRtp aead incoming now = .ok (after, result) →
      EndpointStep aead before (.encrypts ⟨.sendRtp, outgoing, result⟩) after
  | resendRtp {before made after : Endpoint} {ssrc : Ssrc}
      {seqnum : TruncatedSequenceNumber} {now : Instant} {outgoing : Packet}
      {result : Option Packet} :
      before.makeRtx ssrc seqnum now = .ok (made, some outgoing) →
      before.resendRtp aead ssrc seqnum now = .ok (after, result) →
      EndpointStep aead before (.encrypts ⟨.resendRtp, outgoing, result⟩)
        after
  | resendNothing {before made after : Endpoint} {ssrc : Ssrc}
      {seqnum : TruncatedSequenceNumber} {now : Instant}
      {result : Option Packet} :
      before.makeRtx ssrc seqnum now = .ok (made, none) →
      before.resendRtp aead ssrc seqnum now = .ok (after, result) →
      EndpointStep aead before .other after
  | sendPadding {before made after : Endpoint} {rtxSsrc : Ssrc}
      {now : Instant} {padding : Packet} {result : Option Packet} :
      before.makePadding rtxSsrc = .ok (made, padding) →
      before.sendPadding aead rtxSsrc now = .ok (after, result) →
      EndpointStep aead before (.encrypts ⟨.sendPadding, padding, result⟩)
        after
  | markAsSent {before : Endpoint} {ssrc : Ssrc}
      {seqnum : TruncatedSequenceNumber} :
      EndpointStep aead before .other (before.markAsSent ssrc seqnum)
  | rememberSent {before : Endpoint} {outgoing : Packet} {now : Instant} :
      EndpointStep aead before .other (before.rememberSent outgoing now)
  | rememberSentForReports {before : Endpoint} {outgoing : Packet}
      {now : Instant} :
      EndpointStep aead before .other
        (before.rememberSentForReports outgoing now)
  | receiveRtp {before after : Endpoint} {encrypted : Bytes} {now : Instant}
      {result : Option Packet} :
      before.receiveRtp aead encrypted now = .ok (after, result) →
      EndpointStep aead before .other after
  | receiveRtcp {before after : Endpoint} :
      ReceivesRtcp before after →
      EndpointStep aead before .other after

/-! ## Operations that draw no number -/

/-- Nothing that outgoing packets depend on has changed. -/
structure Quiet (before after : Endpoint) : Prop where
  encrypt : after.encrypt = before.encrypt
  rtxNumbers : after.rtxSender.nextSeqnum = before.rtxSender.nextSeqnum
  tccNumbers : after.tccSender.counter = before.tccSender.counter
  filed : before.rtxSender.FiledBySsrc → after.rtxSender.FiledBySsrc

namespace Quiet

variable {first second third : Endpoint}

theorem refl (endpoint : Endpoint) : Quiet endpoint endpoint :=
  ⟨rfl, rfl, rfl, id⟩

theorem trans (left : Quiet first second) (right : Quiet second third) :
    Quiet first third where
  encrypt := right.encrypt.trans left.encrypt
  rtxNumbers := right.rtxNumbers.trans left.rtxNumbers
  tccNumbers := right.tccNumbers.trans left.tccNumbers
  filed := right.filed ∘ left.filed

end Quiet

namespace Endpoint

variable {aead : Aead} {before after : Endpoint} {now : Instant}
variable {result : Option Packet}

theorem quiet_setIncomingSsrcState (endpoint : Endpoint) (ssrc : Ssrc)
    (state : IncomingSsrcState) :
    Quiet endpoint (endpoint.setIncomingSsrcState ssrc state) :=
  ⟨rfl, rfl, rfl, id⟩

theorem quiet_setMaxReceivedTccSeqnum (endpoint : Endpoint)
    (maxSeqnum : FullSequenceNumber) :
    Quiet endpoint (endpoint.setMaxReceivedTccSeqnum maxSeqnum) :=
  ⟨rfl, rfl, rfl, id⟩

theorem quiet_recordArrival (endpoint : Endpoint) (header : Header)
    (now : Instant) : Quiet endpoint (endpoint.recordArrival header now).1 := by
  have expanded : Quiet endpoint (endpoint.expandTccSeqnum header).1 := by
    unfold expandTccSeqnum
    split
    · exact .refl endpoint
    · exact quiet_setMaxReceivedTccSeqnum endpoint _
  exact expanded.trans (quiet_setIncomingSsrcState _ _ _)

theorem quiet_unwrapRtx {header : Header} {incoming : Packet}
    (unwrapped : before.unwrapRtx header incoming now = .ok (after, result)) :
    Quiet before after := by
  unfold unwrapRtx at unwrapped
  split at unwrapped
  · obtain ⟨payload, -, rest⟩ := bind_eq_ok_iff.mp unwrapped
    split at rest
    · cases rest
      exact .refl _
    · split at rest
      · cases rest
        exact quiet_setIncomingSsrcState _ _ _
      · cases rest
        exact .refl _
  · cases unwrapped
    exact .refl _

theorem quiet_rememberReceivedForNacks (endpoint : Endpoint)
    (incoming : Packet) (now : Instant) :
    Quiet endpoint (endpoint.rememberReceivedForNacks incoming now) := by
  unfold rememberReceivedForNacks
  split
  · exact quiet_setIncomingSsrcState _ _ _
  · exact .refl _

theorem quiet_rememberReceivedForReports (endpoint : Endpoint)
    (incoming : Packet) (now : Instant) :
    Quiet endpoint (endpoint.rememberReceivedForReports incoming now) := by
  unfold rememberReceivedForReports
  split
  · exact quiet_setIncomingSsrcState _ _ _
  · exact .refl _

theorem quiet_rememberReceivedForTcc (endpoint : Endpoint)
    (incoming : Packet) (now : Instant) :
    Quiet endpoint (endpoint.rememberReceivedForTcc incoming now) := by
  unfold rememberReceivedForTcc
  split
  · exact .refl _
  · exact ⟨rfl, rfl, rfl, id⟩

theorem quiet_acceptDecrypted {header : Header} {decrypted : Packet}
    (accepted : before.acceptDecrypted header decrypted now =
      .ok (after, result)) : Quiet before after := by
  obtain ⟨padded, -, rest⟩ := bind_eq_ok_iff.mp accepted
  obtain ⟨⟨unwrapped, inner⟩, unwrap, rest⟩ := bind_eq_ok_iff.mp rest
  have first := quiet_unwrapRtx unwrap
  cases inner with
  | none =>
      cases rest
      exact first
  | some incoming =>
      cases rest
      exact first.trans <|
        (quiet_rememberReceivedForNacks unwrapped incoming now).trans <|
        (quiet_rememberReceivedForReports _ incoming now).trans <|
        quiet_rememberReceivedForTcc _ incoming now

theorem quiet_acceptArrival {recorded : Endpoint × Arrival} {header : Header}
    {encrypted : Bytes}
    (accepted : acceptArrival aead recorded header encrypted now =
      .ok (after, result)) : Quiet recorded.1 after := by
  unfold acceptArrival at accepted
  split at accepted
  · cases accepted
    exact .refl _
  · cases accepted
    exact .refl _
  · obtain ⟨decrypted, -, rest⟩ := bind_eq_ok_iff.mp accepted
    cases decrypted with
    | none =>
        cases rest
        exact .refl _
    | some packet => exact quiet_acceptDecrypted rest

theorem quiet_receiveRtp {encrypted : Bytes}
    (received : before.receiveRtp aead encrypted now = .ok (after, result)) :
    Quiet before after := by
  obtain ⟨parsed, -, rest⟩ := bind_eq_ok_iff.mp received
  cases parsed with
  | none =>
      cases rest
      exact .refl _
  | some header =>
      exact (quiet_recordArrival before header now).trans
        (quiet_acceptArrival rest)

theorem quiet_markAsSent (endpoint : Endpoint) (ssrc : Ssrc)
    (seqnum : TruncatedSequenceNumber) :
    Quiet endpoint (endpoint.markAsSent ssrc seqnum) where
  encrypt := rfl
  rtxNumbers := rfl
  tccNumbers := rfl
  filed := fun filed => filed.setPending _ _

theorem quiet_rememberSentForReports (endpoint : Endpoint)
    (outgoing : Packet) (now : Instant) :
    Quiet endpoint (endpoint.rememberSentForReports outgoing now) := by
  unfold rememberSentForReports
  split
  · exact .refl _
  · exact quiet_setIncomingSsrcState _ _ _

theorem quiet_rememberSent (endpoint : Endpoint) (outgoing : Packet)
    (now : Instant) :
    Quiet endpoint (endpoint.rememberSent outgoing now) := by
  have remembered : Quiet endpoint
      (endpoint.rememberSentForTcc outgoing now) := by
    unfold rememberSentForTcc
    split
    · exact .refl _
    · exact ⟨rfl, rfl, rfl, id⟩
  exact remembered.trans (quiet_rememberSentForReports _ outgoing now)

theorem quiet_rememberForRtx (endpoint : Endpoint) (outgoing : Packet)
    (now : Instant) :
    Quiet endpoint (endpoint.rememberForRtx outgoing now) := by
  unfold rememberForRtx
  split
  · exact ⟨rfl, endpoint.rtxSender.nextSeqnum_rememberSent outgoing now, rfl,
      fun filed => filed.rememberSent outgoing now⟩
  · exact .refl _

end Endpoint

theorem ReceivesRtcp.quiet {before after : Endpoint}
    (received : ReceivesRtcp before after) : Quiet before after where
  encrypt := by rw [received.others]
  rtxNumbers := by rw [received.others]
  tccNumbers := by
    funext key
    exact received.nextSendSeqnum
  filed := by
    rw [received.others]
    exact id

/-! ## Operations that draw numbers -/

/-- A packet on its way to the cipher, with the numbers drawn for it. -/
structure Prepares (before prepared : Endpoint) (outgoing : Packet)
    (rtxNumbers : List (Ssrc × Nat)) : Prop where
  encrypt : prepared.encrypt = before.encrypt
  filed : prepared.rtxSender.FiledBySsrc
  rtxIssued : Issued before.rtxSender.nextSeqnum rtxNumbers
    prepared.rtxSender.nextSeqnum
  tccIssued : Issued before.tccSender.counter outgoing.drawnTccSeqnums
    prepared.tccSender.counter
  carries : outgoing.CarriesTccSeqnum

def EndpointEvent.drawnRtxNumbers : EndpointEvent → List (Ssrc × Nat)
  | .encrypts encryption =>
      if encryption.isRtxOrPadding then
        [(encryption.outgoing.ssrcInHeader, encryption.outgoing.seqnumInHeader)]
      else []
  | .other => []

def EndpointEvent.drawnTccNumbers : EndpointEvent → List (Unit × Nat)
  | .encrypts encryption => encryption.outgoing.drawnTccSeqnums
  | .other => []

namespace Endpoint

variable {before prepared : Endpoint} {outgoing : Packet}

theorem numberIfRtx_eq_ok {sender next : RtxSender} {packet numbered : Packet}
    (filed : sender.FiledBySsrc)
    (number : numberIfRtx sender packet = .ok (next, numbered)) :
    next.FiledBySsrc ∧
      Issued sender.nextSeqnum
        (if numbered.isRtx then
          [(numbered.ssrcInHeader, numbered.seqnumInHeader)] else [])
        next.nextSeqnum := by
  unfold numberIfRtx at number
  split at number
  case isTrue isRtx =>
    obtain ⟨⟨incremented, seqnum⟩, drew, rest⟩ := bind_eq_ok_iff.mp number
    obtain ⟨written, wrote, returned⟩ := bind_eq_ok_iff.mp rest
    cases returned
    obtain ⟨-, others⟩ := Packet.setSeqnumInHeader_eq_ok wrote
    obtain ⟨rfl, rfl⟩ := RtxSender.incrementSeqnum_eq_ok drew
    have stillRtx : numbered.isRtx = true := by
      rw [others]
      exact isRtx
    have sameSsrc : numbered.ssrcInHeader = packet.ssrcInHeader := by
      rw [others]
    have newSeqnum : numbered.seqnumInHeader =
        sender.nextSeqnum packet.ssrcInHeader := by
      rw [others]
    refine ⟨filed, ?_⟩
    rw [if_pos stillRtx, sameSsrc, newSeqnum,
      RtxSender.nextSeqnum_setNextSeqnum]
    exact Issued.single _ _
  case isFalse notRtx =>
    cases number
    refine ⟨filed, ?_⟩
    rw [if_neg notRtx]
    exact .nil

theorem stampRtp_prepares {incoming : Packet}
    (filed : before.rtxSender.FiledBySsrc)
    (stamp : before.stampRtp incoming = .ok (prepared, outgoing)) :
    Prepares before prepared outgoing
      (if outgoing.isRtx then
        [(outgoing.ssrcInHeader, outgoing.seqnumInHeader)] else []) := by
  obtain ⟨⟨rtxSender, numbered⟩, number, rest⟩ := bind_eq_ok_iff.mp stamp
  obtain ⟨⟨tccSender, stamped⟩, tccStamp, returned⟩ := bind_eq_ok_iff.mp rest
  cases returned
  obtain ⟨nextFiled, rtxIssued⟩ := numberIfRtx_eq_ok filed number
  obtain ⟨others, carries, tccIssued⟩ :=
    Packet.setTccSeqnumInHeaderIfPresent_eq_ok tccStamp
  have sameNumbers : (if outgoing.isRtx then
      [(outgoing.ssrcInHeader, outgoing.seqnumInHeader)] else []) =
        if numbered.isRtx then
          [(numbered.ssrcInHeader, numbered.seqnumInHeader)] else [] := by
    rw [others]
    rfl
  rw [sameNumbers]
  exact ⟨rfl, nextFiled, rtxIssued, tccIssued, carries⟩

theorem makeRtx_prepares {ssrc : Ssrc} {seqnum : TruncatedSequenceNumber}
    {now : Instant} (filed : before.rtxSender.FiledBySsrc)
    (make : before.makeRtx ssrc seqnum now = .ok (prepared, some outgoing)) :
    Prepares before prepared outgoing
      [(outgoing.ssrcInHeader, outgoing.seqnumInHeader)] := by
  obtain ⟨⟨rtxSender, tccSender, rtx⟩, resent, returned⟩ :=
    bind_eq_ok_iff.mp make
  cases returned
  obtain ⟨nextFiled, ⟨nothing, -⟩ |
    ⟨rtx, something, -, carries, rtxIssued, tccIssued⟩⟩ :=
      RtxSender.resendAsRtx_eq_ok filed resent
  · cases nothing
  · cases something
    exact ⟨rfl, nextFiled, rtxIssued, tccIssued, carries⟩

theorem makeRtx_quiet {ssrc : Ssrc} {seqnum : TruncatedSequenceNumber}
    {now : Instant} (filed : before.rtxSender.FiledBySsrc)
    (make : before.makeRtx ssrc seqnum now = .ok (prepared, none)) :
    Quiet before prepared := by
  obtain ⟨⟨rtxSender, tccSender, rtx⟩, resent, returned⟩ :=
    bind_eq_ok_iff.mp make
  cases returned
  obtain ⟨nextFiled, ⟨-, sameTcc, sameNumbers⟩ | ⟨rtx, something, -⟩⟩ :=
    RtxSender.resendAsRtx_eq_ok filed resent
  · exact ⟨rfl, sameNumbers, congrArg _ sameTcc, fun _ => nextFiled⟩
  · cases something

theorem makePadding_prepares {rtxSsrc : Ssrc}
    (filed : before.rtxSender.FiledBySsrc)
    (make : before.makePadding rtxSsrc = .ok (prepared, outgoing)) :
    Prepares before prepared outgoing
      [(outgoing.ssrcInHeader, outgoing.seqnumInHeader)] := by
  obtain ⟨⟨tccSender, tccSeqnum⟩, drew, rest⟩ := bind_eq_ok_iff.mp make
  obtain ⟨⟨rtxSender, padding⟩, padded, returned⟩ := bind_eq_ok_iff.mp rest
  cases returned
  obtain ⟨carries, drawn, nextFiled, rtxIssued⟩ :=
    RtxSender.sendPadding_eq_ok padded
  refine ⟨rfl, nextFiled filed, rtxIssued, ?_, carries⟩
  rw [drawn]
  exact Tcc.Sender.incrementSeqnum_issued drew

end Endpoint

/-! ## The effect of a step -/

/-- All that a step can do to the keys, the counters and the cache. -/
structure StepEffect (aead : Aead) (before : Endpoint) (event : EndpointEvent)
    (after : Endpoint) : Prop where
  encrypt : after.encrypt = before.encrypt
  filed : after.rtxSender.FiledBySsrc
  rtxIssued : Issued before.rtxSender.nextSeqnum event.drawnRtxNumbers
    after.rtxSender.nextSeqnum
  tccIssued : Issued before.tccSender.counter event.drawnTccNumbers
    after.tccSender.counter
  sealed : ∀ {encryption}, event = .encrypts encryption →
    encryption.outgoing.CarriesTccSeqnum ∧
      encryption.outgoing.encryptInPlace aead before.encrypt.rtp =
        .ok encryption.result

theorem Quiet.effect {aead : Aead} {before after : Endpoint}
    (filed : before.rtxSender.FiledBySsrc) (quiet : Quiet before after) :
    StepEffect aead before .other after where
  encrypt := quiet.encrypt
  filed := quiet.filed filed
  rtxIssued := by
    rw [quiet.rtxNumbers]
    exact .nil
  tccIssued := by
    rw [quiet.tccNumbers]
    exact .nil
  sealed := fun impossible => by cases impossible

theorem Prepares.effect {aead : Aead} {before prepared after : Endpoint}
    {encryption : Encryption} {now : Instant}
    (prepares : Prepares before prepared encryption.outgoing
      (EndpointEvent.encrypts encryption).drawnRtxNumbers)
    (sent : prepared.encryptAndSendRtp aead encryption.outgoing now =
      .ok (after, encryption.result)) :
    StepEffect aead before (.encrypts encryption) after := by
  obtain ⟨result, encrypted, returned⟩ := bind_eq_ok_iff.mp sent
  cases returned
  have quiet := prepared.quiet_rememberForRtx encryption.outgoing now
  refine ⟨quiet.encrypt.trans prepares.encrypt, quiet.filed prepares.filed,
    ?_, ?_, ?_⟩
  · rw [quiet.rtxNumbers]
    exact prepares.rtxIssued
  · rw [quiet.tccNumbers]
    exact prepares.tccIssued
  · intro other same
    cases same
    rw [← prepares.encrypt]
    exact ⟨prepares.carries, encrypted⟩

theorem EndpointStep.effect {aead : Aead} {before after : Endpoint}
    {event : EndpointEvent} (filed : before.rtxSender.FiledBySsrc)
    (step : EndpointStep aead before event after) :
    StepEffect aead before event after := by
  cases step with
  | sendRtp stamp send =>
      obtain ⟨prepared, stamped, sent⟩ := bind_eq_ok_iff.mp send
      cases stamp.symm.trans stamped
      exact Prepares.effect (Endpoint.stampRtp_prepares filed stamp) sent
  | resendRtp make send =>
      obtain ⟨prepared, made, sent⟩ := bind_eq_ok_iff.mp send
      cases make.symm.trans made
      exact Prepares.effect (Endpoint.makeRtx_prepares filed make) sent
  | resendNothing make send =>
      obtain ⟨prepared, made, sent⟩ := bind_eq_ok_iff.mp send
      cases make.symm.trans made
      cases sent
      exact (Endpoint.makeRtx_quiet filed make).effect filed
  | sendPadding make send =>
      obtain ⟨prepared, made, sent⟩ := bind_eq_ok_iff.mp send
      cases make.symm.trans made
      exact Prepares.effect (Endpoint.makePadding_prepares filed make) sent
  | markAsSent => exact (Endpoint.quiet_markAsSent _ _ _).effect filed
  | rememberSent => exact (Endpoint.quiet_rememberSent _ _ _).effect filed
  | rememberSentForReports =>
      exact (Endpoint.quiet_rememberSentForReports _ _ _).effect filed
  | receiveRtp received =>
      exact (Endpoint.quiet_receiveRtp received).effect filed
  | receiveRtcp received => exact received.quiet.effect filed

/-- The same for a whole run. -/
structure RunEffect (aead : Aead) (start : Endpoint)
    (events : List EndpointEvent) (finish : Endpoint) : Prop where
  encrypt : finish.encrypt = start.encrypt
  filed : finish.rtxSender.FiledBySsrc
  rtxIssued : Issued start.rtxSender.nextSeqnum
    (events.flatMap EndpointEvent.drawnRtxNumbers) finish.rtxSender.nextSeqnum
  tccIssued : Issued start.tccSender.counter
    (events.flatMap EndpointEvent.drawnTccNumbers) finish.tccSender.counter
  sealed : ∀ {encryption}, EndpointEvent.encrypts encryption ∈ events →
    encryption.outgoing.CarriesTccSeqnum ∧
      encryption.outgoing.encryptInPlace aead start.encrypt.rtp =
        .ok encryption.result

theorem RunEffect.nil {aead : Aead} {start : Endpoint}
    (filed : start.rtxSender.FiledBySsrc) : RunEffect aead start [] start where
  encrypt := rfl
  filed := filed
  rtxIssued := .nil
  tccIssued := .nil
  sealed := fun member => by cases member

theorem RunEffect.snoc {aead : Aead} {start before after : Endpoint}
    {events : List EndpointEvent} {event : EndpointEvent}
    (past : RunEffect aead start events before)
    (step : EndpointStep aead before event after) :
    RunEffect aead start (events ++ [event]) after := by
  have effect := step.effect past.filed
  refine ⟨effect.encrypt.trans past.encrypt, effect.filed, ?_, ?_, ?_⟩
  · rw [List.flatMap_append, List.flatMap_singleton]
    exact past.rtxIssued.append effect.rtxIssued
  · rw [List.flatMap_append, List.flatMap_singleton]
    exact past.tccIssued.append effect.tccIssued
  · intro encryption member
    rcases List.mem_append.mp member with old | new
    · exact past.sealed old
    · have last := effect.sealed (List.mem_singleton.mp new).symm
      rw [past.encrypt] at last
      exact last

theorem runEffect_of_run {aead : Aead} {start finish : Endpoint}
    {events : List EndpointEvent} (filed : start.rtxSender.FiledBySsrc)
    (run : Run (EndpointStep aead) start events finish) :
    RunEffect aead start events finish :=
  run.history_invariant (.nil filed) .snoc

end CallingService.Backend.Rtp
