import CallingService.Backend.Pacer
import CallingService.Backend.Rtp.EndpointRun

/-!
# Connections

A connection joins ICE nomination, the RTP endpoint and the pacer of one
client.  The rate trackers and the congestion controller do not decide which
packets leave, and are left out.
-/

namespace CallingService.Backend

open Foundation Rtp

inductive SocketLocator where
  | udp (address : Bytes) (port : UInt16)
  | tcp (id : Int) (isIpv6 : Bool) (isTls : Bool)
deriving DecidableEq, Repr

inductive AddressType where
  | udpV4
  | udpV6
  | tcpV4
  | tcpV6
  | tlsV4
  | tlsV6
deriving DecidableEq, Repr

/-- `IpAddr::to_canonical`: a mapped address counts as IPv4. -/
def isIpv6Address (address : Bytes) : Bool :=
  address.length = 16 ∧
    address.take 12 ≠ List.replicate 10 0 ++ [0xff, 0xff]

def SocketLocator.addressType : SocketLocator → AddressType
  | .udp address _ => if isIpv6Address address then .udpV6 else .udpV4
  | .tcp _ false false => .tcpV4
  | .tcp _ false true => .tlsV4
  | .tcp _ true false => .tcpV6
  | .tcp _ true true => .tlsV6

/-- A parsed ICE binding request, with the outcome of its HMAC check under a
password. -/
structure BindingRequest where
  username : Bytes
  hmac : Bytes
  nominated : Bool
  verifyHmac : Bytes → Bool

inductive ConnectionError where
  | receivedIceWithInvalidHmac (hmac : Bytes)
  | receivedIceWithInvalidUsername (username : Bytes)
  | receivedInvalidRtcp
deriving DecidableEq, Repr

structure Ice where
  requestUsername : Bytes
  responseUsername : Bytes
  pwd : Bytes
  bindingRequestReceived : Option Instant

structure Connection where
  created : Instant
  inactivityTimeout : Duration
  ice : Ice
  endpoint : Endpoint
  pacer : Pacer
  outgoingAddr : Option SocketLocator
  outgoingAddrType : Option AddressType

/-- Packets for the network and times for the next dequeue. -/
structure Outgoing where
  rtpToSend : List (Packet × SocketLocator)
  dequeueSchedule : List (Instant × SocketLocator)

namespace Connection

def new (ice : Ice) (decrypt encrypt : KeysAndSalts) (ackSsrc : Ssrc)
    (initialTargetSendRate : DataRate) (inactivityTimeout : Duration)
    (now : Instant) : Connection where
  created := now
  inactivityTimeout := inactivityTimeout
  ice := { ice with bindingRequestReceived := none }
  endpoint := .new decrypt encrypt now ackSsrc
  pacer := .new {
    mediaSendRate := initialTargetSendRate
    paddingSendRate := initialTargetSendRate
    paddingSsrc := none }
  outgoingAddr := none
  outgoingAddrType := none

def inactive (connection : Connection) (now : Instant) : Bool :=
  connection.ice.bindingRequestReceived.getD connection.created +
    connection.inactivityTimeout ≤ now

def handleIceBindingRequest (connection : Connection)
    (senderAddr : SocketLocator) (request : BindingRequest) (now : Instant) :
    Except ConnectionError Connection := do
  ensure (request.verifyHmac connection.ice.pwd)
    (ConnectionError.receivedIceWithInvalidHmac request.hmac)
  ensure (request.username = connection.ice.requestUsername)
    (ConnectionError.receivedIceWithInvalidUsername request.username)
  let received := { connection with
    ice := { connection.ice with bindingRequestReceived := some now } }
  if request.nominated ∧ connection.outgoingAddr ≠ some senderAddr then
    return { received with
      outgoingAddr := some senderAddr
      outgoingAddrType := some senderAddr.addressType }
  else return received

variable (rates : RateArithmetic) (aead : Aead)

/-- Hand an encrypted packet to the pacer, and remember it if it leaves at
once. -/
def pace (connection : Connection) (outgoing : Packet) (now : Instant) :
    Connection × Option Packet × Option Instant :=
  let paced := connection.pacer.enqueue rates outgoing now
  let sent := { connection with pacer := paced.1 }
  match paced.2.1 with
  | some packet =>
      ({ sent with endpoint := sent.endpoint.rememberSent packet now },
        some packet, paced.2.2)
  | none => (sent, none, paced.2.2)

/-- The branch of `send_or_enqueue_rtp` for a nominated address. -/
def sendRtp (connection : Connection) (outgoingAddr : SocketLocator)
    (incoming : Packet) (now : Instant) :
    Except Panic (Connection × Outgoing) := do
  let (endpoint, result) ← connection.endpoint.sendRtp aead incoming now
  let encrypted := { connection with endpoint }
  match result with
  | none => return (encrypted, ⟨[], []⟩)
  | some outgoing =>
      if outgoing.tccSeqnum.isSome then
        let paced := encrypted.pace rates outgoing now
        return (paced.1, ⟨paced.2.1.toList.map (·, outgoingAddr),
          paced.2.2.toList.map (·, outgoingAddr)⟩)
      else
        let remembered := { encrypted with
          endpoint := endpoint.rememberSentForReports outgoing now }
        return (remembered, ⟨[(outgoing, outgoingAddr)], []⟩)

def sendOrEnqueueRtp (connection : Connection) (outgoing : Packet)
    (now : Instant) : Except Panic (Connection × Outgoing) :=
  match connection.outgoingAddr with
  | some outgoingAddr =>
      connection.sendRtp rates aead outgoingAddr outgoing now
  | none =>
      -- the packet goes to the queue as it is
      if outgoing.tccSeqnum.isSome && outgoing.isVideo then
        .ok ({ connection with pacer := connection.pacer.forceEnqueue outgoing },
          ⟨[], []⟩)
      else .ok (connection, ⟨[], []⟩)

/-- Bookkeeping for a dequeued packet. -/
def rememberDequeued (connection : Connection) (outgoing : Packet)
    (now : Instant) : Connection :=
  let remembered := connection.endpoint.rememberSent outgoing now
  if !outgoing.isPadding && outgoing.isRtx then
    { connection with
      endpoint := remembered.markAsSent outgoing.ssrc
        outgoing.seqnum.toUInt16 }
  else { connection with endpoint := remembered }

def dequeueOutgoingRtp (connection : Connection) (now : Instant) :
    Except Panic (Connection ×
      Option (SocketLocator × Option Packet × Option Instant)) :=
  match connection.outgoingAddr with
  | none => .ok (connection, none)
  | some outgoingAddr => do
      let (pacer, endpoint, result, dequeueTime) ← connection.pacer.dequeue rates
        (fun endpoint ssrc => endpoint.sendPadding aead ssrc now)
        connection.endpoint now
      let dequeued := { connection with pacer, endpoint }
      match result with
      | some outgoing =>
          return (dequeued.rememberDequeued outgoing now,
            some (outgoingAddr, some outgoing, dequeueTime))
      | none =>
          return (dequeued, dequeueTime.map fun time =>
            (outgoingAddr, none, some time))

/-- One number of a NACK. -/
def resend (connection : Connection) (ssrc : Ssrc)
    (seqnum : TruncatedSequenceNumber) (now : Instant) :
    Except Panic (Connection × Option Packet × Option Instant) := do
  let (endpoint, rtx) ← connection.endpoint.resendRtp aead ssrc seqnum now
  let resent := { connection with endpoint }
  match rtx with
  | none => return (resent, none, none)
  | some outgoing =>
      let paced := resent.pace rates outgoing now
      match paced.2.1 with
      | some packet =>
          return ({ paced.1 with
            endpoint := paced.1.endpoint.markAsSent ssrc seqnum },
            some packet, paced.2.2)
      | none => return (paced.1, none, paced.2.2)

/-- The loop over the numbers of all NACKs; only the last dequeue time is
kept. -/
def resendAll (outgoingAddr : SocketLocator) (now : Instant) :
    List (Ssrc × TruncatedSequenceNumber) → Connection →
      Except Panic (Connection × Outgoing)
  | [], connection => .ok (connection, ⟨[], []⟩)
  | (ssrc, seqnum) :: rest, connection => do
      let (resent, packet, dequeueTime) ←
        connection.resend rates aead ssrc seqnum now
      let (finished, later) ← resendAll outgoingAddr now rest resent
      return (finished, {
        rtpToSend := packet.toList.map (·, outgoingAddr) ++ later.rtpToSend
        dequeueSchedule :=
          if later.dequeueSchedule.isEmpty then
            dequeueTime.toList.map (·, outgoingAddr)
          else later.dequeueSchedule })

/-- The part of `handle_rtcp_packet` after `receive_rtcp`. -/
def handleNacks (connection : Connection)
    (nacks : List (Ssrc × List TruncatedSequenceNumber)) (now : Instant) :
    Except Panic (Connection × Outgoing) :=
  match connection.outgoingAddr with
  | none => .ok (connection, ⟨[], []⟩)
  | some outgoingAddr =>
      resendAll rates aead outgoingAddr now
        (nacks.flatMap fun nack => nack.2.map (nack.1, ·)) connection

def configureCongestionControl (connection : Connection)
    (config : PacerConfig) (now : Instant) :
    Connection × List (Instant × SocketLocator) :=
  let configured := connection.pacer.setConfig rates config now
  ({ connection with pacer := configured.1 },
    match configured.2, connection.outgoingAddr with
    | some dequeueTime, some outgoingAddr => [(dequeueTime, outgoingAddr)]
    | _, _ => [])

/-! ## ICE is not touched by media -/

section Ice

variable {rates : RateArithmetic} {aead : Aead} {before after : Connection}

theorem ice_pace (connection : Connection) (outgoing : Packet)
    (now : Instant) :
    (connection.pace rates outgoing now).1.ice = connection.ice := by
  unfold pace
  dsimp only
  split
  · rfl
  · rfl

theorem ice_sendOrEnqueueRtp {outgoing : Packet} {now : Instant}
    {out : Outgoing}
    (sent : before.sendOrEnqueueRtp rates aead outgoing now =
      .ok (after, out)) : after.ice = before.ice := by
  unfold sendOrEnqueueRtp at sent
  split at sent
  · obtain ⟨⟨endpoint, result⟩, _, rest⟩ := bind_eq_ok_iff.mp sent
    dsimp only at rest
    split at rest
    · cases rest
      rfl
    · split at rest
      · cases rest
        exact ice_pace _ _ _
      · cases rest
        rfl
  · split at sent
    · cases sent
      rfl
    · cases sent
      rfl

theorem ice_dequeueOutgoingRtp {now : Instant}
    {result : Option (SocketLocator × Option Packet × Option Instant)}
    (dequeued : before.dequeueOutgoingRtp rates aead now =
      .ok (after, result)) : after.ice = before.ice := by
  unfold dequeueOutgoingRtp at dequeued
  split at dequeued
  · cases dequeued
    rfl
  · obtain ⟨⟨pacer, endpoint, packet, dequeueTime⟩, _, rest⟩ :=
      bind_eq_ok_iff.mp dequeued
    dsimp only at rest
    split at rest
    · cases rest
      unfold rememberDequeued
      dsimp only
      split
      · rfl
      · rfl
    · cases rest
      rfl

theorem ice_resend {ssrc : Ssrc} {seqnum : TruncatedSequenceNumber}
    {now : Instant} {out : Option Packet × Option Instant}
    (resent : before.resend rates aead ssrc seqnum now = .ok (after, out)) :
    after.ice = before.ice := by
  obtain ⟨⟨endpoint, rtx⟩, _, rest⟩ := bind_eq_ok_iff.mp resent
  dsimp only at rest
  split at rest
  · cases rest
    rfl
  · split at rest
    · cases rest
      exact ice_pace _ _ _
    · cases rest
      exact ice_pace _ _ _

theorem ice_resendAll {outgoingAddr : SocketLocator} {now : Instant}
    {out : Outgoing} (nacks : List (Ssrc × TruncatedSequenceNumber))
    (resent : resendAll rates aead outgoingAddr now nacks before =
      .ok (after, out)) : after.ice = before.ice := by
  induction nacks generalizing before after out with
  | nil =>
      cases resent
      rfl
  | cons nack rest ih =>
      obtain ⟨⟨middle, first⟩, isFirst, resent⟩ := bind_eq_ok_iff.mp resent
      obtain ⟨⟨finish, later⟩, isLater, returned⟩ := bind_eq_ok_iff.mp resent
      cases returned
      exact (ih isLater).trans (ice_resend isFirst)

theorem ice_handleNacks {nacks : List (Ssrc × List TruncatedSequenceNumber)}
    {now : Instant} {out : Outgoing}
    (handled : before.handleNacks rates aead nacks now = .ok (after, out)) :
    after.ice = before.ice := by
  unfold handleNacks at handled
  split at handled
  · cases handled
    rfl
  · exact ice_resendAll _ handled

/-- A binding request is accepted if it is verified under the password and
names the connection; both stay the same. -/
theorem handleIceBindingRequest_ok {senderAddr : SocketLocator}
    {request : BindingRequest} {now : Instant}
    (accepted : before.handleIceBindingRequest senderAddr request now =
      .ok after) :
    request.username = before.ice.requestUsername ∧
      request.verifyHmac before.ice.pwd = true ∧
      after.ice.requestUsername = before.ice.requestUsername ∧
      after.ice.pwd = before.ice.pwd := by
  obtain ⟨_, verified, rest⟩ := bind_eq_ok_iff.mp accepted
  obtain ⟨_, named, returned⟩ := bind_eq_ok_iff.mp rest
  refine ⟨ensure_eq_ok_iff.mp named, ensure_eq_ok_iff.mp verified, ?_⟩
  dsimp only at returned
  split at returned
  · cases returned
    exact ⟨rfl, rfl⟩
  · cases returned
    exact ⟨rfl, rfl⟩

end Ice

end Connection

end CallingService.Backend
