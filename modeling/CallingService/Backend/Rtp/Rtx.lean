import CallingService.Backend.TransportCc
import CallingService.Backend.Rtp.Packet

/-!
# Retransmissions

`RtxSender` remembers sent packets for some time and numbers the packets it
sends itself, one counter for each SSRC.
-/

namespace CallingService.Backend.Rtp

open Foundation

def Packet.setTccSeqnumInHeaderIfPresent (packet : Packet)
    (tccSender : Tcc.Sender) : Except Panic (Tcc.Sender × Packet) :=
  match packet.tccSeqnumRange with
  | none => .ok (tccSender, packet)
  | some range => do
      let (incremented, tccSeqnum) ← tccSender.incrementSeqnum
      let stamped ← packet.setTccSeqnumInHeader range tccSeqnum
      return (incremented, stamped)

/-- The number written at the place of the transport-cc extension is the one
the packet is known by. -/
def Packet.CarriesTccSeqnum (packet : Packet) : Prop :=
  ∀ range, packet.tccSeqnumRange = some range →
    ∃ tccSeqnum, packet.tccSeqnum = some tccSeqnum ∧
      packet.sliceSerialized range = .ok (toBigEndian 2 tccSeqnum)

/-- The transport-cc number that a stamped packet has drawn. -/
def Packet.drawnTccSeqnums (packet : Packet) : List (Unit × Nat) :=
  if packet.tccSeqnumRange.isSome then [((), packet.tccSeqnum.getD 0)] else []

theorem Packet.setTccSeqnumInHeaderIfPresent_eq_ok {packet stamped : Packet}
    {before after : Tcc.Sender}
    (stamp : packet.setTccSeqnumInHeaderIfPresent before =
      .ok (after, stamped)) :
    stamped = { packet with
      tccSeqnum := stamped.tccSeqnum
      serialized := stamped.serialized } ∧
    stamped.CarriesTccSeqnum ∧
    Issued before.counter stamped.drawnTccSeqnums after.counter := by
  unfold setTccSeqnumInHeaderIfPresent at stamp
  split at stamp
  case h_1 absent =>
    cases stamp
    refine ⟨rfl, ?_, ?_⟩
    · intro range present
      rw [absent] at present
      cases present
    · rw [drawnTccSeqnums, absent]
      exact .nil
  case h_2 range present =>
    obtain ⟨⟨incremented, tccSeqnum⟩, drew, rest⟩ := bind_eq_ok_iff.mp stamp
    obtain ⟨written, wrote, returned⟩ := bind_eq_ok_iff.mp rest
    cases returned
    obtain ⟨-, others, content⟩ := setTccSeqnumInHeader_eq_ok wrote
    have sameRange : stamped.tccSeqnumRange = some range := by
      rw [others]
      exact present
    have number : stamped.tccSeqnum = some tccSeqnum := by
      rw [others]
    refine ⟨by rw [others], ?_, ?_⟩
    · intro other found
      cases sameRange.symm.trans found
      exact ⟨tccSeqnum, number, content⟩
    · rw [drawnTccSeqnums, sameRange, number]
      exact Tcc.Sender.incrementSeqnum_issued drew

/-- The key of a packet in the cache of sent packets. -/
abbrev SentKey := Ssrc × TruncatedSequenceNumber

structure RtxSender where
  previouslySentBySeqnum : TwoGenerationCache SentKey Packet
  nextOutgoingSeqnumBySsrc : Table Ssrc FullSequenceNumber

namespace RtxSender

def new (limit : Duration) (now : Instant) : RtxSender where
  previouslySentBySeqnum := .new limit now
  nextOutgoingSeqnumBySsrc := ∅

/-- The value behind `get_next_seqnum_mut`. -/
def nextSeqnum (sender : RtxSender) (rtxSsrc : Ssrc) : Nat :=
  (sender.nextOutgoingSeqnumBySsrc.lookup rtxSsrc).getD 1

def setNextSeqnum (sender : RtxSender) (rtxSsrc : Ssrc) (value : Nat) :
    RtxSender :=
  { sender with
    nextOutgoingSeqnumBySsrc :=
      sender.nextOutgoingSeqnumBySsrc.insert rtxSsrc value }

/-- Reading a counter through `get_next_seqnum_mut` creates its entry. -/
def touchNextSeqnum (sender : RtxSender) (rtxSsrc : Ssrc) : RtxSender :=
  sender.setNextSeqnum rtxSsrc (sender.nextSeqnum rtxSsrc)

def incrementSeqnum (sender : RtxSender) (rtxSsrc : Ssrc) :
    Except Panic (RtxSender × FullSequenceNumber) := do
  let seqnum := sender.nextSeqnum rtxSsrc
  let next ← incrementU64 seqnum
  return (sender.setNextSeqnum rtxSsrc next, seqnum)

def rememberSent (sender : RtxSender) (outgoing : Packet)
    (departed : Instant) : RtxSender :=
  if outgoing.isPastDeadline departed then sender
  else
    { sender with
      previouslySentBySeqnum := sender.previouslySentBySeqnum.insert
        (outgoing.ssrc, outgoing.seqnum.toUInt16) outgoing departed }

/-- Change the `pending_retransmission` flag of a remembered packet. -/
def setPending (sender : RtxSender) (key : SentKey) (pending : Bool) :
    RtxSender :=
  { sender with
    previouslySentBySeqnum := sender.previouslySentBySeqnum.modify key
      fun packet => { packet with pendingRetransmission := pending } }

def resendAsRtx (sender : RtxSender) (tccSender : Tcc.Sender) (ssrc : Ssrc)
    (seqnum : TruncatedSequenceNumber) (now : Instant) :
    Except Panic (RtxSender × Tcc.Sender × Option Packet) :=
  let rtxSsrc := toRtxSsrc ssrc
  let rtxSeqnum := sender.nextSeqnum rtxSsrc
  let peeked := sender.touchNextSeqnum rtxSsrc
  match peeked.previouslySentBySeqnum.get (ssrc, seqnum) with
  | none => .ok (peeked, tccSender, none)
  | some previouslySent =>
      -- the number is not wasted on a packet that is skipped
      if previouslySent.pendingRetransmission ||
          previouslySent.isPastDeadline now then
        .ok (peeked, tccSender, none)
      else do
        let pending := { previouslySent with pendingRetransmission := true }
        let rtx ← pending.toRtx rtxSeqnum
        let (incremented, _) ←
          (peeked.setPending (ssrc, seqnum) true).incrementSeqnum rtxSsrc
        let (nextTccSender, stamped) ←
          rtx.setTccSeqnumInHeaderIfPresent tccSender
        return (incremented, nextTccSender, some stamped)

def paddingPayload : Bytes := List.replicate 1136 0

def sendPadding (sender : RtxSender) (rtxSsrc : Ssrc)
    (tccSeqnum : FullSequenceNumber) : Except Panic (RtxSender × Packet) := do
  let (incremented, rtxSeqnum) ← sender.incrementSeqnum rtxSsrc
  return (incremented, Packet.withEmptyTag paddingPayloadType rtxSeqnum 0
    rtxSsrc (some tccSeqnum) none paddingPayload)

def markAsSent (sender : RtxSender) (ssrc : Ssrc)
    (seqnum : TruncatedSequenceNumber) : RtxSender :=
  sender.setPending (ssrc, seqnum) false

/-! ## Counters -/

theorem nextSeqnum_setNextSeqnum (sender : RtxSender) (rtxSsrc : Ssrc)
    (value : Nat) :
    (sender.setNextSeqnum rtxSsrc value).nextSeqnum =
      Function.update sender.nextSeqnum rtxSsrc value := by
  funext ssrc
  by_cases same : ssrc = rtxSsrc
  · subst same
    simp [nextSeqnum, setNextSeqnum]
  · simp [nextSeqnum, setNextSeqnum, AList.lookup_insert_ne same, same]

@[simp] theorem nextSeqnum_touchNextSeqnum (sender : RtxSender)
    (rtxSsrc : Ssrc) :
    (sender.touchNextSeqnum rtxSsrc).nextSeqnum = sender.nextSeqnum := by
  rw [touchNextSeqnum, nextSeqnum_setNextSeqnum, Function.update_eq_self]

@[simp] theorem nextSeqnum_setPending (sender : RtxSender) (key : SentKey)
    (pending : Bool) :
    (sender.setPending key pending).nextSeqnum = sender.nextSeqnum := rfl

@[simp] theorem nextSeqnum_rememberSent (sender : RtxSender)
    (outgoing : Packet) (departed : Instant) :
    (sender.rememberSent outgoing departed).nextSeqnum =
      sender.nextSeqnum := by
  unfold rememberSent
  split
  · rfl
  · rfl

theorem incrementSeqnum_eq_ok {before after : RtxSender} {rtxSsrc : Ssrc}
    {seqnum : FullSequenceNumber}
    (incremented : before.incrementSeqnum rtxSsrc = .ok (after, seqnum)) :
    seqnum = before.nextSeqnum rtxSsrc ∧
      after = before.setNextSeqnum rtxSsrc (seqnum + 1) := by
  obtain ⟨next, advanced, returned⟩ := bind_eq_ok_iff.mp incremented
  cases returned
  rw [incrementU64_eq_ok advanced]
  exact ⟨rfl, rfl⟩

/-! ## The cache -/

/-- Every remembered packet is filed under its own SSRC. -/
def FiledBySsrc (sender : RtxSender) : Prop :=
  sender.previouslySentBySeqnum.All fun key packet => packet.ssrc = key.1

theorem filedBySsrc_new (limit : Duration) (now : Instant) :
    (new limit now).FiledBySsrc :=
  TwoGenerationCache.all_new limit now

theorem FiledBySsrc.rememberSent {sender : RtxSender}
    (filed : sender.FiledBySsrc) (outgoing : Packet) (departed : Instant) :
    (sender.rememberSent outgoing departed).FiledBySsrc := by
  unfold RtxSender.rememberSent
  split
  · exact filed
  · exact TwoGenerationCache.All.insert filed rfl departed

theorem FiledBySsrc.setPending {sender : RtxSender}
    (filed : sender.FiledBySsrc) (key : SentKey) (pending : Bool) :
    (sender.setPending key pending).FiledBySsrc :=
  TwoGenerationCache.All.modify filed fun _ same => same

/-! ## Resending and padding -/

/-- What `resend_as_rtx` can do: nothing but look, or draw one number on the
RTX stream of the requested SSRC. -/
theorem resendAsRtx_eq_ok {before after : RtxSender}
    {tccBefore tccAfter : Tcc.Sender} {ssrc : Ssrc}
    {seqnum : TruncatedSequenceNumber} {now : Instant}
    {result : Option Packet} (filed : before.FiledBySsrc)
    (resent : before.resendAsRtx tccBefore ssrc seqnum now =
      .ok (after, tccAfter, result)) :
    after.FiledBySsrc ∧
      ((result = none ∧ tccAfter = tccBefore ∧
          after.nextSeqnum = before.nextSeqnum) ∨
        ∃ rtx, result = some rtx ∧ rtx.isRtx = true ∧ rtx.CarriesTccSeqnum ∧
          Issued before.nextSeqnum [(rtx.ssrcInHeader, rtx.seqnumInHeader)]
            after.nextSeqnum ∧
          Issued tccBefore.counter rtx.drawnTccSeqnums tccAfter.counter) := by
  unfold resendAsRtx at resent
  dsimp only at resent
  split at resent
  case h_1 =>
    cases resent
    exact ⟨filed, .inl ⟨rfl, rfl, nextSeqnum_touchNextSeqnum before _⟩⟩
  case h_2 previouslySent found =>
    have sameSsrc : previouslySent.ssrc = ssrc :=
      TwoGenerationCache.All.get filed found
    split at resent
    case isTrue =>
      cases resent
      exact ⟨filed, .inl ⟨rfl, rfl, nextSeqnum_touchNextSeqnum before _⟩⟩
    case isFalse =>
      obtain ⟨rtx, made, rest⟩ := bind_eq_ok_iff.mp resent
      obtain ⟨⟨incremented, drawn⟩, drew, rest⟩ := bind_eq_ok_iff.mp rest
      obtain ⟨⟨tccNext, stamped⟩, stamp, returned⟩ := bind_eq_ok_iff.mp rest
      cases returned
      obtain ⟨isRtx, rtxSsrc, rtxSeqnum, -, -⟩ := Packet.toRtx_eq_ok made
      obtain ⟨drawnEq, afterEq⟩ := incrementSeqnum_eq_ok drew
      obtain ⟨others, carries, tccIssued⟩ :=
        Packet.setTccSeqnumInHeaderIfPresent_eq_ok stamp
      have stampedSsrc : stamped.ssrcInHeader = toRtxSsrc ssrc := by
        rw [others, ← sameSsrc]
        exact rtxSsrc
      have stampedSeqnum : stamped.seqnumInHeader =
          before.nextSeqnum (toRtxSsrc ssrc) := by
        rw [others]
        exact rtxSeqnum
      rw [nextSeqnum_setPending, nextSeqnum_touchNextSeqnum] at drawnEq
      refine ⟨?_, .inr ⟨stamped, rfl, ?_, carries, ?_, tccIssued⟩⟩
      · rw [afterEq]
        exact FiledBySsrc.setPending filed _ _
      · rw [others]
        exact isRtx
      · rw [stampedSsrc, stampedSeqnum, afterEq, nextSeqnum_setNextSeqnum,
          drawnEq, nextSeqnum_setPending, nextSeqnum_touchNextSeqnum]
        exact Issued.single _ _

theorem sendPadding_eq_ok {before after : RtxSender} {rtxSsrc : Ssrc}
    {tccSeqnum : FullSequenceNumber} {padding : Packet}
    (sent : before.sendPadding rtxSsrc tccSeqnum = .ok (after, padding)) :
    padding.CarriesTccSeqnum ∧ padding.drawnTccSeqnums = [((), tccSeqnum)] ∧
      (before.FiledBySsrc → after.FiledBySsrc) ∧
      Issued before.nextSeqnum
        [(padding.ssrcInHeader, padding.seqnumInHeader)] after.nextSeqnum := by
  obtain ⟨⟨incremented, seqnum⟩, drew, returned⟩ := bind_eq_ok_iff.mp sent
  cases returned
  obtain ⟨rfl, rfl⟩ := incrementSeqnum_eq_ok drew
  refine ⟨?_, rfl, id, ?_⟩
  · intro range present
    cases present
    refine ⟨tccSeqnum, rfl, ?_⟩
    simp [Packet.sliceSerialized, Packet.withEmptyTag,
      Packet.tccExtensionBlock, toBigEndian]
  · rw [nextSeqnum_setNextSeqnum]
    exact Issued.single _ _

end RtxSender

end CallingService.Backend.Rtp
