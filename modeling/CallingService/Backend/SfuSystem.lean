import CallingService.Backend.Call.Operations
import CallingService.Backend.Sfu

/-!
# The SFU and the packets under way

A packet is handled in sections, each under a lock of its own: that of the SFU
while a connection or a call is looked up, that of the connection while the
packet is decrypted, that of the call while it is forwarded.  Joins, removals
and ticks hold the lock of the SFU from their beginning to their end, and take
those of calls and connections on the way.  Between any two sections others
may happen.

Calls and connections are shared objects.  A task may still hold one that is
no longer in the tables, where nobody else can find it.  A connection is named
by its id; calls with the same id are told apart by a serial number.
-/

namespace CallingService.Backend

open Foundation Rtp

/-! ## Tasks -/

/-- A call that a task holds. -/
structure CallRef where
  callId : CallId
  serial : Nat
deriving DecidableEq, Repr

/-- What is demultiplexed by an address. -/
inductive AddressedWork where
  | rtp (encrypted : Bytes)
  | rtcp (encrypted : Bytes)
  | dequeue
deriving DecidableEq, Repr

/-- What a connection passes on to its call. -/
inductive CallWork where
  | rtp (incoming : Packet)
  | rtcp (newTargetSendRate : Option DataRate) (keyFrameRequests : List Ssrc)
      (rtcpNow : Instant)

/-- What a call has for the connection of one of its clients. -/
inductive CallOutput where
  | rtp (outgoing : Packet)
  | keyFrameRequest (ssrc : Ssrc)

inductive CallOutcome where
  | leave
  | failed
  | outputs (toSend : List (DemuxId × CallOutput))

/-- How far the handling of a packet has come. -/
inductive SfuTask where
  | addressed (address : SocketLocator) (id : ConnectionId)
      (work : AddressedWork)
  | received (id : ConnectionId) (work : CallWork)
  | inCall (id : ConnectionId) (call : CallRef) (work : CallWork)
  /-- The client is out of the call; the connection is still there. -/
  | leaving (id : ConnectionId)
  | sending (callId : CallId) (outputs : List (DemuxId × CallOutput))
  | sendingTo (id : ConnectionId) (output : CallOutput)
      (rest : List (DemuxId × CallOutput))
  | ice (address : SocketLocator) (id : ConnectionId)
      (request : BindingRequest)
  | recording (address : SocketLocator) (id : ConnectionId)

/-- How far a tick has come. -/
structure TickProgress where
  now : Instant
  checkForInactivity : Bool
  connectionsLeft : List ConnectionId
  callsLeft : List CallId
  expired : List ConnectionId

/-- Who holds the lock of the SFU between two sections. -/
inductive SfuLock where
  | free
  | joining (join : Join) (connection : Connection)
  | removing (id : ConnectionId)
  | ticking (progress : TickProgress)

structure SfuSystem (externals : CallExternals) where
  sfu : Sfu externals
  connectionIdByAddress : TwoGenerationCache SocketLocator ConnectionId
  activityChecked : Instant
  inactivityCheckInterval : Duration
  /-- The serial numbers of the calls in the table. -/
  callSerials : Table CallId Nat
  nextSerial : Nat
  detachedCalls : Table Nat (Call externals)
  detachedConnections : Table ConnectionId Connection
  lock : SfuLock
  tasks : List SfuTask

variable {externals : CallExternals}

/-! ## Sections of a connection -/

namespace Connection

/-- Padding ends here; the rest of what was decrypted goes to the call. -/
def passOn : Option Packet → Except Panic (Option CallWork)
  | none => .ok none
  | some packet =>
      if packet.isRtx || packet.isAudio then .ok (some (.rtp packet))
      else do
        let payload ← packet.payload
        if payload.length ≤ packet.paddingByteCount.toNat then return none
        else return some (.rtp packet)

/-- What is sent by RTCP changes the endpoint only. -/
def SendsRtcp (before after : Connection) : Prop :=
  ∃ endpoint, after = { before with endpoint := endpoint }

/-- The part of `handle_packet` and of `handle_dequeue` under the lock of the
connection. -/
inductive Handles (rates : RateArithmetic) (aead : Aead) :
    AddressedWork → Connection → Connection → Option CallWork → Prop where
  | rtp {before : Connection} {encrypted : Bytes} {now : Instant}
      {endpoint : Endpoint} {result : Option Packet}
      {next : Option CallWork} :
      before.endpoint.receiveRtp aead encrypted now = .ok (endpoint, result) →
      passOn result = .ok next →
      Handles rates aead (.rtp encrypted) before
        { before with endpoint := endpoint } next
  | rtcp {before after : Connection} {encrypted : Bytes} {now : Instant}
      {received : Endpoint} {nacks : List (Ssrc × List TruncatedSequenceNumber)}
      {out : Outgoing} {newTargetSendRate : Option DataRate}
      {keyFrameRequests : List Ssrc} :
      ReceivesRtcp before.endpoint received →
      { before with endpoint := received }.handleNacks rates aead nacks now =
        .ok (after, out) →
      Handles rates aead (.rtcp encrypted) before after
        (some (.rtcp newTargetSendRate keyFrameRequests now))
  | invalidRtcp {connection : Connection} {encrypted : Bytes} :
      Handles rates aead (.rtcp encrypted) connection connection none
  | dequeue {before after : Connection} {now : Instant}
      {result : Option (SocketLocator × Option Packet × Option Instant)} :
      before.dequeueOutgoingRtp rates aead now = .ok (after, result) →
      Handles rates aead .dequeue before after none

inductive Sends (rates : RateArithmetic) (aead : Aead) :
    CallOutput → Connection → Connection → Prop where
  | rtp {before after : Connection} {outgoing : Packet} {now : Instant}
      {out : Outgoing} :
      before.sendOrEnqueueRtp rates aead outgoing now = .ok (after, out) →
      Sends rates aead (.rtp outgoing) before after
  | keyFrameRequest {before after : Connection} {ssrc : Ssrc} :
      SendsRtcp before after →
      Sends rates aead (.keyFrameRequest ssrc) before after

end Connection

/-! ## Sections of a call -/

namespace Call

def outcomeOf :
    Except (CallError externals) (List RtpToSend) → CallOutcome
  | .ok outgoing =>
      .outputs (outgoing.map fun output => (output.1, .rtp output.2))
  | .error .leave => .leave
  | .error _ => .failed

/-- The part of `handle_packet` under the lock of the call. -/
def handleWork (call : Call externals) (sender : DemuxId) (now : Instant) :
    CallWork → Except Panic (CallOutcome × Call externals)
  | .rtp incoming =>
      (call.handleRtp sender incoming now).map fun handled =>
        (outcomeOf handled.1, handled.2)
  | .rtcp newTargetSendRate keyFrameRequests rtcpNow =>
      let targeted :=
        match newTargetSendRate with
        | some rate => call.setTargetSendRate sender rate rtcpNow
        | none => call
      let handled := targeted.handleKeyFrameRequests sender keyFrameRequests now
      .ok (.outputs (handled.1.map fun request =>
        (request.1, .keyFrameRequest request.2)), handled.2)

/-- `ApprovedUsers::tick`, of which persistence decides the outcome. -/
def tickApprovedUsers (call : Call externals) (modified : Bool) :
    Call externals :=
  { call with
    approvedUsers := { call.approvedUsers with modified := modified } }

/-- The part of `tick` that is left out produces messages; it keeps the
clients, but counts what it sends to them. -/
structure SendsMessages (before after : Call externals) : Prop where
  active : after.clients.map Client.demuxId =
    before.clients.map Client.demuxId
  pending : after.pendingClients.map NonParticipantClient.demuxId =
    before.pendingClients.map NonParticipantClient.demuxId
  removed : after.removedClients.map NonParticipantClient.demuxId =
    before.removedClients.map NonParticipantClient.demuxId

/-- An active call gets the rates of its connections before its own tick. -/
def Ticks (now : Instant) (before after : Call externals) : Prop :=
  ∃ drainRates : List (DemuxId × DataRate),
    SendsMessages ((drainRates.foldl (fun call rate =>
      call.setOutgoingQueueDrainRate rate.1 rate.2) before).tickForwarding now)
      after

theorem sendsMessages_of_continues {start before after : Call externals}
    (one : start.Continues before) (other : start.Continues after) :
    SendsMessages before after := by
  have sameIds : ∀ {first second third : List NonParticipantClient},
      ListCounted first second → ListCounted first third →
      third.map NonParticipantClient.demuxId =
        second.map NonParticipantClient.demuxId := by
    intro first second third left right
    have viewed : ∀ (client : NonParticipantClient) next,
        (client.setNextSeqnum next).demuxId = client.demuxId :=
      fun _ _ => rfl
    exact (Roster.map_counted viewed right).trans
      (Roster.map_counted viewed left).symm
  constructor
  · have same := sameIds one.roster.active other.roster.active
    unfold roster at same
    dsimp only at same
    rw [List.map_map, List.map_map] at same
    exact same
  · exact sameIds one.roster.pending other.roster.pending
  · exact sameIds one.roster.removed other.roster.removed

/-- A tick that sends its messages is one of these. -/
theorem ticks_of_tick {messaging : ServerMessaging externals}
    {drainRates : List (DemuxId × DataRate)} {before after : Call externals}
    {now : Instant} {answer : List RtpToSend × List (DemuxId × Ssrc)}
    (ticked : (drainRates.foldl (fun call rate =>
      call.setOutgoingQueueDrainRate rate.1 rate.2) before).tick messaging
        now = .ok (answer, after)) : Ticks now before after := by
  refine ⟨drainRates, ?_⟩
  apply sendsMessages_of_continues
  · exact continues_tickForwarding _ now
  · exact continues_tick ticked

end Call

/-! ## Tables -/

namespace Sfu

/-- The entries of a connection. -/
def removeConnection (sfu : Sfu externals) (id : ConnectionId) :
    Sfu externals :=
  match sfu.connectionById.lookup id with
  | none => sfu
  | some connection =>
      { sfu with
        connectionById := sfu.connectionById.erase id
        connectionIdByIceRequestUsername :=
          sfu.connectionIdByIceRequestUsername.erase
            connection.ice.requestUsername }

def getConnectionFromIceRequestUsername (sfu : Sfu externals)
    (iceRequestUsername : Bytes) : Option ConnectionId := do
  let id ← sfu.connectionIdByIceRequestUsername.lookup iceRequestUsername
  let _ ← sfu.connectionById.lookup id
  return id

end Sfu

namespace SfuSystem

def new (config : SfuConfig) (inactivityCheckInterval : Duration)
    (region : Region) (now : Instant) : SfuSystem externals where
  sfu := {
    config := config
    callByCallId := ∅
    connectionById := ∅
    connectionIdByIceRequestUsername := ∅
    region := region }
  connectionIdByAddress := .new (fromSecs 30) now
  activityChecked := now
  inactivityCheckInterval := inactivityCheckInterval
  callSerials := ∅
  nextSerial := 0
  detachedCalls := ∅
  detachedConnections := ∅
  lock := .free
  tasks := []

def getConnectionFromAddress (system : SfuSystem externals)
    (address : SocketLocator) : Option ConnectionId := do
  let id ← system.connectionIdByAddress.get address
  let _ ← system.sfu.connectionById.lookup id
  return id

/-! ## Shared objects -/

/-- Whether a task holds the call that is in the table. -/
def IsCurrent (system : SfuSystem externals) (ref : CallRef) : Prop :=
  system.callSerials.lookup ref.callId = some ref.serial

instance (system : SfuSystem externals) (ref : CallRef) :
    Decidable (system.IsCurrent ref) :=
  inferInstanceAs (Decidable (_ = _))

def callAt (system : SfuSystem externals) (ref : CallRef) :
    Option (Call externals) :=
  if system.IsCurrent ref then system.sfu.callByCallId.lookup ref.callId
  else system.detachedCalls.lookup ref.serial

def insertCall (system : SfuSystem externals) (callId : CallId)
    (call : Call externals) : SfuSystem externals :=
  { system with
    sfu := { system.sfu with
      callByCallId := system.sfu.callByCallId.insert callId call } }

def setCallAt (system : SfuSystem externals) (ref : CallRef)
    (call : Call externals) : SfuSystem externals :=
  if system.IsCurrent ref then system.insertCall ref.callId call
  else { system with
    detachedCalls := system.detachedCalls.insert ref.serial call }

def connectionAt (system : SfuSystem externals) (id : ConnectionId) :
    Option Connection :=
  (system.sfu.connectionById.lookup id).or
    (system.detachedConnections.lookup id)

def insertConnection (system : SfuSystem externals) (id : ConnectionId)
    (connection : Connection) : SfuSystem externals :=
  { system with
    sfu := { system.sfu with
      connectionById := system.sfu.connectionById.insert id connection } }

def setConnectionAt (system : SfuSystem externals) (id : ConnectionId)
    (connection : Connection) : SfuSystem externals :=
  if (system.sfu.connectionById.lookup id).isSome then
    system.insertConnection id connection
  else { system with
    detachedConnections := system.detachedConnections.insert id connection }

/-- The connection leaves the tables; tasks may still hold it. -/
def removeConnection (system : SfuSystem externals) (id : ConnectionId) :
    SfuSystem externals :=
  { system with
    sfu := system.sfu.removeConnection id
    detachedConnections :=
      match system.sfu.connectionById.lookup id with
      | none => system.detachedConnections
      | some connection => system.detachedConnections.insert id connection }

/-- The call leaves the table. -/
def removeCall (system : SfuSystem externals) (callId : CallId)
    (call : Call externals) : SfuSystem externals :=
  { system with
    sfu := { system.sfu with
      callByCallId := system.sfu.callByCallId.erase callId }
    callSerials := system.callSerials.erase callId
    detachedCalls :=
      match system.callSerials.lookup callId with
      | some serial => system.detachedCalls.insert serial call
      | none => system.detachedCalls }

def withLock (system : SfuSystem externals) (lock : SfuLock) :
    SfuSystem externals :=
  { system with lock := lock }

def withTasks (system : SfuSystem externals) (tasks : List SfuTask) :
    SfuSystem externals :=
  { system with tasks := tasks }

/-! ## Joins and removals -/

/-- A new call gets the next serial number. -/
def numberCall (system : SfuSystem externals) (callId : CallId) :
    SfuSystem externals :=
  match system.callSerials.lookup callId with
  | some _ => system
  | none =>
      { system with
        callSerials := system.callSerials.insert callId system.nextSerial
        nextSerial := system.nextSerial + 1 }

/-- A join up to the creation of its connection. -/
def addClientToCall (agreement : KeyAgreement)
    (system : SfuSystem externals) (join : Join)
    (surroundings : JoinSurroundings) : SfuSystem externals :=
  let entry := system.sfu.callEntry join surroundings
  if entry.1.hasClient join.demuxId then
    { system with sfu := { system.sfu with callByCallId := entry.2 } }
  else
    let added := entry.1.addClient join.demuxId join.userId join.isAdmin
      (system.sfu.getRegionRelation join.region) surroundings.afterLock
    let joined := { system.numberCall join.callId with
      sfu := { system.sfu with
        callByCallId := entry.2.insert join.callId added.2 } }
    match Sfu.agreeOnKeys agreement join surroundings with
    | .error _ => joined
    | .ok (_, sharedSecret) =>
        joined.withLock (.joining join (joined.sfu.newConnection agreement join
          surroundings sharedSecret))

/-- The insertion of the connection ends the join. -/
def finishJoin (system : SfuSystem externals) : SfuSystem externals :=
  match system.lock with
  | .joining join connection =>
      { system with
        sfu := system.sfu.insertConnection join connection, lock := .free }
  | _ => system

theorem sfu_finishJoin_addClientToCall (agreement : KeyAgreement)
    (system : SfuSystem externals) (join : Join)
    (surroundings : JoinSurroundings) (isFree : system.lock = .free) :
    (system.addClientToCall agreement join surroundings).finishJoin.sfu =
      (system.sfu.getOrCreateCallAndAddClient agreement join
        surroundings).2 := by
  have numbered : (system.numberCall join.callId).lock = .free := by
    unfold numberCall
    split
    · exact isFree
    · exact isFree
  unfold addClientToCall Sfu.getOrCreateCallAndAddClient
  dsimp only
  split
  · simp only [finishJoin, isFree]
  · cases Sfu.agreeOnKeys agreement join surroundings with
    | error failure => simp only [finishJoin, numbered]
    | ok keys => rfl

/-- The part of `remove_client_from_call` under the lock of the call. -/
def dropClient (system : SfuSystem externals) (id : ConnectionId)
    (now : Instant) : SfuSystem externals :=
  match system.sfu.callByCallId.lookup id.callId with
  | none => system
  | some call => system.insertCall id.callId (call.dropClient id.demuxId now)

/-! ## Ticks -/

def startTick (system : SfuSystem externals) (now : Instant) :
    SfuSystem externals :=
  let check : Bool :=
    system.activityChecked + system.inactivityCheckInterval ≤ now
  { system with
    activityChecked := if check then now else system.activityChecked
    lock := .ticking {
      now := now
      checkForInactivity := check
      connectionsLeft := system.sfu.connectionById.keys
      callsLeft := system.sfu.callByCallId.keys
      expired := [] } }

end SfuSystem

namespace TickProgress

def visitConnection (progress : TickProgress) (id : ConnectionId) :
    TickProgress :=
  { progress with
    connectionsLeft := progress.connectionsLeft.filter (· ≠ id) }

def expire (progress : TickProgress) (id : ConnectionId) :
    TickProgress :=
  { progress with expired := progress.expired ++ [id] }

def visitCall (progress : TickProgress) (callId : CallId) :
    TickProgress :=
  { progress with callsLeft := progress.callsLeft.filter (· ≠ callId) }

def expiredOf (progress : TickProgress) (callId : CallId) :
    List DemuxId :=
  (progress.expired.filter (·.callId = callId)).map ConnectionId.demuxId

/-- The expired clients of a call are dropped first. -/
def dropExpired (progress : TickProgress) (callId : CallId)
    (call : Call externals) : Call externals :=
  (progress.expiredOf callId).foldl
    (fun dropped demuxId => dropped.dropClient demuxId progress.now) call

end TickProgress

/-! ## Steps -/

/-- A section, with what it has found. -/
inductive SfuEvent where
  | join (join : Join) (surroundings : JoinSurroundings)
  | insertConnection (id : ConnectionId) (iceRequestUsername icePwd : Bytes)
  | removeClientFromCall (id : ConnectionId) (now : Instant)
  | removeConnection (id : ConnectionId)
  | startTick (now : Instant)
  | tickConnection (id : ConnectionId)
  | tickCall (callId : CallId)
  | tickSend (id : ConnectionId)
  | endTick
  /-- The address is looked up. -/
  | addressed (address : SocketLocator) (id : ConnectionId)
      (work : AddressedWork)
  /-- The connection handles what came for the address. -/
  | handled (address : SocketLocator) (id : ConnectionId)
      (work : AddressedWork)
  /-- The username of a binding request is looked up. -/
  | named (address : SocketLocator) (id : ConnectionId)
      (request : BindingRequest)
  | accepted (address : SocketLocator) (id : ConnectionId)
      (request : BindingRequest)
  | rejected (address : SocketLocator) (id : ConnectionId)
      (request : BindingRequest)
  | recorded (address : SocketLocator) (id : ConnectionId)
  | gotCall (id : ConnectionId)
  | handledInCall (id : ConnectionId)
  | left (id : ConnectionId)
  | gotConnection (callId : CallId)
  | sent (id : ConnectionId)

/-- `task` is replaced by what is left to do. -/
def Continues (tasks : List SfuTask) (task : SfuTask) (next : Option SfuTask)
    (after : List SfuTask) : Prop :=
  ∃ earlier later, tasks = earlier ++ task :: later ∧
    after = earlier ++ next.toList ++ later

def CallOutcome.next (id : ConnectionId) : CallOutcome → Option SfuTask
  | .leave => some (.leaving id)
  | .failed => none
  | .outputs toSend => some (.sending id.callId toSend)

/-- A section that reads or changes the tables needs the lock of the SFU. -/
inductive SfuStep (agreement : KeyAgreement) (rates : RateArithmetic)
    (aead : Aead) :
    SfuSystem externals → SfuEvent → SfuSystem externals → Prop where
  | join {before : SfuSystem externals} {join : Join}
      {surroundings : JoinSurroundings} :
      before.lock = .free →
      SfuStep agreement rates aead before (.join join surroundings)
        (before.addClientToCall agreement join surroundings)
  | insertConnection {before : SfuSystem externals} {join : Join}
      {connection : Connection} :
      before.lock = .joining join connection →
      SfuStep agreement rates aead before
        (.insertConnection ⟨join.callId, join.demuxId⟩
          connection.ice.requestUsername connection.ice.pwd)
        ({ before with
          sfu := before.sfu.insertConnection join connection }.withLock .free)
  | removeClientFromCall {before : SfuSystem externals} {id : ConnectionId}
      {now : Instant} :
      before.lock = .free →
      SfuStep agreement rates aead before (.removeClientFromCall id now)
        ((before.dropClient id now).withLock (.removing id))
  | removeConnection {before : SfuSystem externals} {id : ConnectionId} :
      before.lock = .removing id →
      SfuStep agreement rates aead before (.removeConnection id)
        ((before.removeConnection id).withLock .free)
  | startTick {before : SfuSystem externals} {now : Instant} :
      before.lock = .free →
      SfuStep agreement rates aead before (.startTick now)
        (before.startTick now)
  | expireConnection {before : SfuSystem externals}
      {progress : TickProgress} {id : ConnectionId} {connection : Connection} :
      before.lock = .ticking progress →
      id ∈ progress.connectionsLeft →
      before.sfu.connectionById.lookup id = some connection →
      (progress.checkForInactivity && connection.inactive progress.now) =
        true →
      SfuStep agreement rates aead before (.tickConnection id)
        ((before.removeConnection id).withLock
          (.ticking ((progress.visitConnection id).expire id)))
  | keepConnection {before : SfuSystem externals}
      {progress : TickProgress} {id : ConnectionId}
      {connection ticked : Connection} :
      before.lock = .ticking progress →
      id ∈ progress.connectionsLeft →
      before.sfu.connectionById.lookup id = some connection →
      (progress.checkForInactivity && connection.inactive progress.now) =
        false →
      connection.SendsRtcp ticked →
      SfuStep agreement rates aead before (.tickConnection id)
        ((before.insertConnection id ticked).withLock
          (.ticking (progress.visitConnection id)))
  | removeInactiveCall {before : SfuSystem externals}
      {progress : TickProgress} {callId : CallId} {call : Call externals} :
      before.lock = .ticking progress →
      progress.connectionsLeft = [] →
      callId ∈ progress.callsLeft →
      before.sfu.callByCallId.lookup callId = some call →
      (progress.dropExpired callId call).activity progress.now
        (fromSecs before.sfu.config.inactivityTimeoutSecs) false =
          .inactive →
      SfuStep agreement rates aead before (.tickCall callId)
        ((before.removeCall callId (progress.dropExpired callId call)).withLock
          (.ticking (progress.visitCall callId)))
  | keepWaitingCall {before : SfuSystem externals}
      {progress : TickProgress} {callId : CallId} {call : Call externals}
      {busy modified : Bool} :
      before.lock = .ticking progress →
      progress.connectionsLeft = [] →
      callId ∈ progress.callsLeft →
      before.sfu.callByCallId.lookup callId = some call →
      (progress.dropExpired callId call).activity progress.now
        (fromSecs before.sfu.config.inactivityTimeoutSecs) busy = .waiting →
      SfuStep agreement rates aead before (.tickCall callId)
        ((before.insertCall callId
          ((progress.dropExpired callId call).tickApprovedUsers
            modified)).withLock (.ticking (progress.visitCall callId)))
  | tickCall {before : SfuSystem externals}
      {progress : TickProgress} {callId : CallId}
      {call ticked : Call externals} {busy : Bool} :
      before.lock = .ticking progress →
      progress.connectionsLeft = [] →
      callId ∈ progress.callsLeft →
      before.sfu.callByCallId.lookup callId = some call →
      (progress.dropExpired callId call).activity progress.now
        (fromSecs before.sfu.config.inactivityTimeoutSecs) busy = .active →
      (progress.dropExpired callId call).Ticks progress.now ticked →
      SfuStep agreement rates aead before (.tickCall callId)
        ((before.insertCall callId ticked).withLock
          (.ticking (progress.visitCall callId)))
  | tickConfigure {before : SfuSystem externals} {progress : TickProgress}
      {id : ConnectionId} {connection : Connection} {config : PacerConfig} :
      before.lock = .ticking progress →
      progress.connectionsLeft = [] →
      progress.callsLeft = [] →
      before.sfu.connectionById.lookup id = some connection →
      SfuStep agreement rates aead before (.tickSend id)
        (before.insertConnection id
          (connection.configureCongestionControl rates config
            progress.now).1)
  | tickSend {before : SfuSystem externals} {progress : TickProgress}
      {id : ConnectionId} {connection sent : Connection}
      {output : CallOutput} :
      before.lock = .ticking progress →
      progress.connectionsLeft = [] →
      progress.callsLeft = [] →
      before.sfu.connectionById.lookup id = some connection →
      Connection.Sends rates aead output connection sent →
      SfuStep agreement rates aead before (.tickSend id)
        (before.insertConnection id sent)
  | endTick {before : SfuSystem externals} {progress : TickProgress} :
      before.lock = .ticking progress →
      progress.connectionsLeft = [] →
      progress.callsLeft = [] →
      SfuStep agreement rates aead before .endTick
        ({ before with
          connectionIdByAddress :=
            (before.connectionIdByAddress.removeOld progress.now).1 }.withLock
          .free)
  | addressed {before : SfuSystem externals} {address : SocketLocator}
      {id : ConnectionId} {work : AddressedWork} :
      before.lock = .free →
      before.getConnectionFromAddress address = some id →
      SfuStep agreement rates aead before (.addressed address id work)
        (before.withTasks (before.tasks ++ [.addressed address id work]))
  | handled {before : SfuSystem externals} {address : SocketLocator}
      {id : ConnectionId} {work : AddressedWork}
      {connection handled : Connection} {next : Option CallWork}
      {tasks : List SfuTask} :
      before.connectionAt id = some connection →
      Connection.Handles rates aead work connection handled next →
      Continues before.tasks (.addressed address id work)
        (next.map (.received id)) tasks →
      SfuStep agreement rates aead before (.handled address id work)
        ((before.setConnectionAt id handled).withTasks tasks)
  | named {before : SfuSystem externals} {address : SocketLocator}
      {id : ConnectionId} {request : BindingRequest} :
      before.lock = .free →
      before.sfu.getConnectionFromIceRequestUsername request.username =
        some id →
      SfuStep agreement rates aead before (.named address id request)
        (before.withTasks (before.tasks ++ [.ice address id request]))
  | accepted {before : SfuSystem externals} {address : SocketLocator}
      {id : ConnectionId} {request : BindingRequest}
      {connection accepted : Connection} {now : Instant}
      {tasks : List SfuTask} :
      before.connectionAt id = some connection →
      connection.handleIceBindingRequest address request now =
        .ok accepted →
      Continues before.tasks (.ice address id request)
        (some (.recording address id)) tasks →
      SfuStep agreement rates aead before (.accepted address id request)
        ((before.setConnectionAt id accepted).withTasks tasks)
  | rejected {before : SfuSystem externals} {address : SocketLocator}
      {id : ConnectionId} {request : BindingRequest}
      {connection : Connection} {now : Instant} {error : ConnectionError}
      {tasks : List SfuTask} :
      before.connectionAt id = some connection →
      connection.handleIceBindingRequest address request now =
        .error error →
      Continues before.tasks (.ice address id request) none tasks →
      SfuStep agreement rates aead before (.rejected address id request)
        (before.withTasks tasks)
  | recorded {before : SfuSystem externals} {address : SocketLocator}
      {id : ConnectionId} {tasks : List SfuTask} :
      before.lock = .free →
      Continues before.tasks (.recording address id) none tasks →
      SfuStep agreement rates aead before (.recorded address id)
        ({ before with
          connectionIdByAddress :=
            before.connectionIdByAddress.insertWithoutRemovingOld address
              id }.withTasks tasks)
  | gotCall {before : SfuSystem externals} {id : ConnectionId}
      {work : CallWork} {serial : Nat} {tasks : List SfuTask} :
      before.lock = .free →
      before.callSerials.lookup id.callId = some serial →
      Continues before.tasks (.received id work)
        (some (.inCall id ⟨id.callId, serial⟩ work)) tasks →
      SfuStep agreement rates aead before (.gotCall id)
        (before.withTasks tasks)
  | missedCall {before : SfuSystem externals} {id : ConnectionId}
      {work : CallWork} {tasks : List SfuTask} :
      before.lock = .free →
      before.callSerials.lookup id.callId = none →
      Continues before.tasks (.received id work) none tasks →
      SfuStep agreement rates aead before (.gotCall id)
        (before.withTasks tasks)
  | handledInCall {before : SfuSystem externals} {id : ConnectionId}
      {ref : CallRef} {work : CallWork} {call handled : Call externals}
      {now : Instant} {outcome : CallOutcome} {tasks : List SfuTask} :
      before.callAt ref = some call →
      call.handleWork id.demuxId now work = .ok (outcome, handled) →
      Continues before.tasks (.inCall id ref work) (outcome.next id) tasks →
      SfuStep agreement rates aead before (.handledInCall id)
        ((before.setCallAt ref handled).withTasks tasks)
  | left {before : SfuSystem externals} {id : ConnectionId}
      {tasks : List SfuTask} :
      before.lock = .free →
      Continues before.tasks (.leaving id) none tasks →
      SfuStep agreement rates aead before (.left id)
        ((before.removeConnection id).withTasks tasks)
  | gotConnection {before : SfuSystem externals} {callId : CallId}
      {demuxId : DemuxId} {output : CallOutput}
      {rest : List (DemuxId × CallOutput)} {tasks : List SfuTask} :
      before.lock = .free →
      (before.sfu.connectionById.lookup ⟨callId, demuxId⟩).isSome →
      Continues before.tasks (.sending callId ((demuxId, output) :: rest))
        (some (.sendingTo ⟨callId, demuxId⟩ output rest)) tasks →
      SfuStep agreement rates aead before (.gotConnection callId)
        (before.withTasks tasks)
  | missedConnection {before : SfuSystem externals} {callId : CallId}
      {demuxId : DemuxId} {output : CallOutput}
      {rest : List (DemuxId × CallOutput)} {tasks : List SfuTask} :
      before.lock = .free →
      before.sfu.connectionById.lookup ⟨callId, demuxId⟩ = none →
      Continues before.tasks (.sending callId ((demuxId, output) :: rest))
        (some (.sending callId rest)) tasks →
      SfuStep agreement rates aead before (.gotConnection callId)
        (before.withTasks tasks)
  | sent {before : SfuSystem externals} {id : ConnectionId}
      {output : CallOutput} {rest : List (DemuxId × CallOutput)}
      {connection sent : Connection} {tasks : List SfuTask} :
      before.connectionAt id = some connection →
      Connection.Sends rates aead output connection sent →
      Continues before.tasks (.sendingTo id output rest)
        (some (.sending id.callId rest)) tasks →
      SfuStep agreement rates aead before (.sent id)
        ((before.setConnectionAt id sent).withTasks tasks)

end CallingService.Backend
