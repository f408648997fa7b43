import CallingService.Backend.Call.Evolution

/-!
# Operations of a call

Besides the events of its run, a call is given the rates of its receivers and
their key-frame requests, and it ticks.  None of this moves a client between
the lists; what is sent to a client advances its sequence number.
-/

namespace CallingService.Backend

open Foundation Rtp

variable {externals : CallExternals}

inductive CallOperation (externals : CallExternals) where
  | event (event : CallEvent externals)
  | setTargetSendRate (receiver : DemuxId) (newTargetSendRate : DataRate)
      (now : Instant)
  | setOutgoingQueueDrainRate (receiver : DemuxId)
      (outgoingQueueDrainRate : DataRate)
  | handleKeyFrameRequests (requester : DemuxId)
      (keyFrameRequests : List Ssrc) (now : Instant)
  | tick (now : Instant) (sent : List RtpToSend × List (DemuxId × Ssrc))

def OperationStep (messaging : ServerMessaging externals)
    (before : Call externals) (operation : CallOperation externals)
    (after : Call externals) : Prop :=
  match operation with
  | .event event => CallStep before event after
  | .setTargetSendRate receiver newTargetSendRate now =>
      after = before.setTargetSendRate receiver newTargetSendRate now
  | .setOutgoingQueueDrainRate receiver outgoingQueueDrainRate =>
      after = before.setOutgoingQueueDrainRate receiver outgoingQueueDrainRate
  | .handleKeyFrameRequests requester keyFrameRequests now =>
      after =
        (before.handleKeyFrameRequests requester keyFrameRequests now).2
  | .tick now sent => before.tick messaging now = .ok (sent, after)

/-- Messaging for concrete runs: nothing is ever repeated. -/
def directMessaging : ServerMessaging directExternals where
  encodeToVec := fun _ => []
  trySendAck := fun stream => (stream, none)
  tryResend := fun stream _ _ => (stream, [])

/-- The caller only adds demux ids that are not in use. -/
def OperationAddsUnused (before : Call externals) :
    CallOperation externals → Prop
  | .event event => AddsUnused before event
  | _ => True

/-- The runs of a call that the SFU drives. -/
def DrivenRun (messaging : ServerMessaging externals)
    (start : Call externals) (operations : List (CallOperation externals))
    (finish : Call externals) : Prop :=
  IsNewCall start ∧
    Run (Guarded OperationAddsUnused (OperationStep messaging)) start
      operations finish

/-! ## Sequence numbers -/

/-- Only the next sequence number is another one. -/
def NonParticipantClient.Counted (before after : NonParticipantClient) :
    Prop :=
  ∃ next, before.nextServerToClientDataRtpSeqnum ≤ next ∧
    after = before.setNextSeqnum next

theorem NonParticipantClient.Counted.refl (client : NonParticipantClient) :
    client.Counted client := ⟨_, Nat.le_refl _, rfl⟩

theorem NonParticipantClient.Counted.trans
    {first second third : NonParticipantClient}
    (one : first.Counted second) (two : second.Counted third) :
    first.Counted third := by
  obtain ⟨middle, atLeast, rfl⟩ := one
  obtain ⟨last, later, rfl⟩ := two
  exact ⟨last, Nat.le_trans atLeast later, rfl⟩

/-- The clients of a list stay in their places. -/
def ListCounted (before after : List NonParticipantClient) : Prop :=
  List.Forall₂ NonParticipantClient.Counted before after

theorem ListCounted.refl (clients : List NonParticipantClient) :
    ListCounted clients clients := by
  induction clients with
  | nil => exact .nil
  | cons client rest ih => exact .cons (.refl client) ih

theorem ListCounted.trans {first second third : List NonParticipantClient}
    (one : ListCounted first second) (two : ListCounted second third) :
    ListCounted first third := by
  induction one generalizing third with
  | nil => exact two
  | cons same _ ih =>
      cases two with
      | cons later rest => exact .cons (same.trans later) (ih rest)

structure Roster.Counted (before after : Roster) : Prop where
  active : ListCounted before.active after.active
  pending : ListCounted before.pending after.pending
  removed : ListCounted before.removed after.removed
  rest : after = { before with
    active := after.active
    pending := after.pending
    removed := after.removed }

namespace Roster

theorem Counted.refl (roster : Roster) : roster.Counted roster :=
  ⟨.refl _, .refl _, .refl _, rfl⟩

theorem Counted.of_eq {before after : Roster} (same : after = before) :
    before.Counted after := by
  rw [same]
  exact .refl before

theorem Counted.trans {first second third : Roster}
    (one : first.Counted second) (two : second.Counted third) :
    first.Counted third := by
  refine ⟨one.active.trans two.active, one.pending.trans two.pending,
    one.removed.trans two.removed, ?_⟩
  rw [two.rest, one.rest]

theorem Counted.members {before after : Roster}
    (counted : before.Counted after) :
    ListCounted before.members after.members := by
  unfold Roster.members participants
  exact List.rel_append
    (List.rel_append counted.active counted.pending) counted.removed

theorem map_counted {View : Type} {view : NonParticipantClient → View}
    (kept : ∀ client next, view (client.setNextSeqnum next) = view client)
    {before after : List NonParticipantClient}
    (counted : ListCounted before after) :
    after.map view = before.map view := by
  induction counted with
  | nil => rfl
  | cons same _ ih =>
      obtain ⟨next, _, rfl⟩ := same
      rw [List.map_cons, List.map_cons, ih, kept]

theorem Counted.demuxIds {before after : Roster}
    (counted : before.Counted after) : after.demuxIds = before.demuxIds :=
  map_counted (fun _ _ => rfl) counted.members

end Roster

/-! ## Sending -/

variable {messaging : ServerMessaging externals}

theorem encodeSfuToDevice_eq_ok {update : SfuToDevice}
    {seqnum : FullSequenceNumber} {encoded : FullSequenceNumber × Packet}
    (succeeded : encodeSfuToDevice messaging update seqnum = .ok encoded) :
    encoded.1 = seqnum + 1 := by
  obtain ⟨next, advanced, returned⟩ := bind_eq_ok_iff.mp succeeded
  cases returned
  exact incrementU64_eq_ok advanced

theorem encodeAll_eq_ok {updates : List SfuToDevice}
    {seqnum : FullSequenceNumber} {encoded : FullSequenceNumber × List Packet}
    (succeeded : encodeAll messaging updates seqnum = .ok encoded) :
    encoded.1 = seqnum + updates.length := by
  induction updates generalizing seqnum encoded with
  | nil =>
      cases succeeded
      rfl
  | cons update rest ih =>
      obtain ⟨first, isFirst, later⟩ := bind_eq_ok_iff.mp succeeded
      obtain ⟨others, areOthers, returned⟩ := bind_eq_ok_iff.mp later
      cases returned
      have next := encodeSfuToDevice_eq_ok isFirst
      have last := ih areOthers
      rw [List.length_cons]
      dsimp only
      rw [last, next, Nat.add_assoc, Nat.add_comm 1]

theorem forall₂_sendToEach {Addressee : Type}
    {demuxIdOf : Addressee → DemuxId}
    {send : Addressee → Except Panic (Addressee × List Packet)}
    {related : Addressee → Addressee → Prop}
    (sends : ∀ {addressee sent}, send addressee = .ok sent →
      related addressee sent.1) {addressees : List Addressee}
    {result : List Addressee × List RtpToSend}
    (succeeded : sendToEach demuxIdOf send addressees = .ok result) :
    List.Forall₂ related addressees result.1 := by
  induction addressees generalizing result with
  | nil =>
      cases succeeded
      exact .nil
  | cons addressee rest ih =>
      obtain ⟨first, isFirst, later⟩ := bind_eq_ok_iff.mp succeeded
      obtain ⟨others, areOthers, returned⟩ := bind_eq_ok_iff.mp later
      cases returned
      exact .cons (sends isFirst) (ih areOthers)

theorem NonParticipantClient.counted_send {update : SfuToDevice}
    {client : NonParticipantClient} {sent : NonParticipantClient × List Packet}
    (succeeded : client.send messaging update = .ok sent) :
    client.Counted sent.1 := by
  obtain ⟨encoded, isEncoded, returned⟩ := bind_eq_ok_iff.mp succeeded
  cases returned
  have next := encodeSfuToDevice_eq_ok isEncoded
  refine ⟨encoded.1, ?_, rfl⟩
  rw [next]
  exact Nat.le_succ _

namespace Client

variable {active : DemuxId → Prop}

/-- A client that has been sent something. -/
structure Addressed (active : DemuxId → Prop)
    (before after : Client externals) : Prop where
  evolves : Evolves active before after
  counted : before.toNonParticipant.Counted after.toNonParticipant

theorem addressed_send {update : Client externals → SfuToDevice}
    {client : Client externals} {sent : Client externals × List Packet}
    (succeeded : client.send messaging update = .ok sent) :
    Addressed active client sent.1 := by
  obtain ⟨encoded, isEncoded, returned⟩ := bind_eq_ok_iff.mp succeeded
  cases returned
  have next := encodeSfuToDevice_eq_ok isEncoded
  constructor
  · exact evolves_of_same rfl rfl rfl rfl rfl rfl
  · refine ⟨encoded.1, ?_, rfl⟩
    rw [next]
    exact Nat.le_succ _

theorem addressed_sendMrpUpdates {now : Instant} {client : Client externals}
    {sent : Client externals × List Packet}
    (succeeded : client.sendMrpUpdates messaging now = .ok sent) :
    Addressed active client sent.1 := by
  obtain ⟨encoded, isEncoded, returned⟩ := bind_eq_ok_iff.mp succeeded
  cases returned
  have next := encodeAll_eq_ok isEncoded
  constructor
  · exact evolves_of_same rfl rfl rfl rfl rfl rfl
  · refine ⟨encoded.1, ?_, rfl⟩
    rw [next]
    exact Nat.le_add_right _ _

end Client

namespace Call

/-- Nobody moves, and nothing but media, rates and messages changes.  Key
frames are asked for from active clients. -/
structure Continues (before after : Call externals) : Prop where
  clients : ∀ {active : DemuxId → Prop},
    (∀ client ∈ before.clients, active client.demuxId) →
      ClientsEvolve active before.clients after.clients
  requests : ∀ {active : DemuxId → Prop},
    (∀ client ∈ before.clients,
      active client.demuxId ∧ client.RefersTo active) →
      Table.GrownBy (fun ssrc => active (DemuxId.fromSsrc ssrc))
        before.keyFrameRequestSentBySsrc after.keyFrameRequestSentBySsrc
  roster : before.roster.Counted after.roster
  raisedHands : after.raisedHands = before.raisedHands

/-- Only the clients have changed, one by one. -/
theorem continues_of_clients {before after : Call externals}
    (clients : ∀ {active : DemuxId → Prop},
      (∀ client ∈ before.clients, active client.demuxId) →
        ClientsEvolve active before.clients after.clients)
    (roster : before.roster.Counted after.roster)
    (requests : after.keyFrameRequestSentBySsrc =
      before.keyFrameRequestSentBySsrc)
    (raisedHands : after.raisedHands = before.raisedHands) :
    before.Continues after where
  clients := clients
  requests := by
    intro active _
    rw [requests]
    exact .refl _ _
  roster := roster
  raisedHands := raisedHands

theorem Continues.refl (call : Call externals) : call.Continues call :=
  continues_of_clients (fun _ => .refl _) (.refl _) rfl rfl

theorem Continues.trans {first second third : Call externals}
    (one : first.Continues second) (two : second.Continues third) :
    first.Continues third where
  clients := by
    intro active areActive
    have earlier := one.clients areActive
    exact earlier.trans (two.clients (earlier.stillActive areActive))
  requests := by
    intro active refer
    have areActive : ∀ client ∈ first.clients, active client.demuxId :=
      fun client member => (refer client member).1
    have stillRefer := (one.clients areActive).stillRefer refer
    exact (one.requests refer).trans (two.requests stillRefer)
  roster := one.roster.trans two.roster
  raisedHands := two.raisedHands.trans one.raisedHands

theorem continues_modifyClient {call : Call externals} {demuxId : DemuxId}
    {change : Client externals → Client externals}
    (sameClient : ∀ client,
      (change client).toNonParticipant = client.toNonParticipant)
    (evolves : ∀ {active : DemuxId → Prop} client,
      Client.Evolves active client (change client)) :
    call.Continues (call.modifyClient demuxId change) := by
  apply continues_of_clients
  · intro active _
    apply clientsEvolve_modifyFirst
    exact fun client _ => evolves client
  · apply Roster.Counted.of_eq
    apply roster_modifyClient
    exact fun _ => sameClient _
  · rfl
  · rfl

theorem continues_setTargetSendRate (call : Call externals)
    (receiver : DemuxId) (newTargetSendRate : DataRate) (now : Instant) :
    call.Continues (call.setTargetSendRate receiver newTargetSendRate now) := by
  apply continues_modifyClient
  · exact fun client =>
      client.toNonParticipant_setTargetSendRate newTargetSendRate now
  · intro active client
    unfold Client.setTargetSendRate
    dsimp only
    split
    · exact Client.evolves_of_same rfl rfl rfl rfl rfl rfl
    · split
      · exact Client.evolves_of_same rfl rfl rfl rfl rfl rfl
      · exact Client.evolves_of_same rfl rfl rfl rfl rfl rfl

theorem continues_setOutgoingQueueDrainRate (call : Call externals)
    (receiver : DemuxId) (outgoingQueueDrainRate : DataRate) :
    call.Continues
      (call.setOutgoingQueueDrainRate receiver outgoingQueueDrainRate) := by
  apply continues_modifyClient
  · exact fun _ => rfl
  · exact fun _ => Client.evolves_of_same rfl rfl rfl rfl rfl rfl

theorem continues_allocateVideoLayers (call : Call externals)
    (receiver : DemuxId) (target minTarget : DataRate) (now : Instant) :
    call.Continues (call.allocateVideoLayers receiver target minTarget now) :=
  continues_of_clients
    (clientsEvolve_allocateVideoLayers call receiver target minTarget now)
    (.of_eq (roster_allocateVideoLayers call receiver target minTarget now))
    rfl rfl

theorem continues_allocateForReceivers (receivers : List (Client externals))
    (now : Instant) (call : Call externals) :
    call.Continues (call.allocateForReceivers receivers now) := by
  unfold allocateForReceivers
  induction receivers generalizing call with
  | nil => exact .refl call
  | cons receiver rest ih =>
      rw [List.foldl_cons]
      exact (call.continues_allocateVideoLayers _ _ _ now).trans (ih _)

theorem continues_updateIncomingRates (call : Call externals)
    (now : Instant) : call.Continues (call.updateIncomingRates now) := by
  apply continues_of_clients
  · intro active _
    apply clientsEvolve_map
    exact fun _ => Client.evolves_of_same rfl rfl rfl rfl rfl rfl
  · exact .of_eq (roster_updateIncomingRates call now)
  · rfl
  · rfl

theorem continues_calculateActiveSpeaker (call : Call externals)
    (now : Instant) : call.Continues (call.calculateActiveSpeaker now).2 := by
  rcases call.calculateActiveSpeaker_cases now with
    same | ⟨mostActive, _, _, changed⟩
  · rw [same]
    exact .refl call
  · have marked : call.Continues
        (call.modifyClient mostActive.demuxId fun client =>
          { client with becameActiveSpeaker := some now }) :=
      continues_modifyClient (fun _ => rfl)
        fun _ => Client.evolves_of_same rfl rfl rfl rfl rfl rfl
    rw [changed]
    exact ⟨marked.clients, marked.requests, marked.roster, marked.raisedHands⟩

/-! ### Key frames -/

variable {active : DemuxId → Prop}

theorem evolves_requestKeyFrame (requester : Client externals) (ssrc : Ssrc) :
    Client.Evolves active requester (requester.requestKeyFrame ssrc) := by
  unfold Client.requestKeyFrame
  dsimp only
  split
  · exact .refl requester
  · rename_i forwarder known
    refine ⟨rfl, rfl, .refl _ _, ?_, .refl _ _, .refl _ _, ?_⟩
    · intro sender member
      rw [AList.mem_insert] at member
      rcases member with rfl | old
      · exact .inl (Table.mem_of_lookup known)
      · exact .inl old
    · intro own sender other found
      by_cases same : sender = DemuxId.fromSsrc ssrc
      · subst same
        rw [AList.lookup_insert] at found
        cases found
        exact (own _ _ known).setNeedsKeyFrame
      · rw [AList.lookup_insert_ne same] at found
        exact own sender other found

theorem evolves_requestKeyFrames (ssrcs : List Ssrc)
    (requester : Client externals) :
    Client.Evolves active requester
      (ssrcs.foldl Client.requestKeyFrame requester) := by
  induction ssrcs generalizing requester with
  | nil => exact .refl requester
  | cons ssrc rest ih =>
      exact (evolves_requestKeyFrame requester ssrc).trans (ih _)

theorem active_of_desired {call : Call externals}
    (refer : ∀ client ∈ call.clients,
      active client.demuxId ∧ client.RefersTo active) {ssrc : Ssrc}
    (desired : ssrc ∈ call.desiredIncomingSsrcs) :
    active (DemuxId.fromSsrc ssrc) := by
  obtain ⟨client, isClient, member⟩ :=
    List.mem_flatMap.mp (List.mem_dedup.mp desired)
  obtain ⟨forwarder, isForwarder, needed⟩ := List.mem_filterMap.mp member
  obtain ⟨sender, found⟩ := Table.exists_lookup_of_mem_values isForwarder
  have refers := (refer client isClient).2
  rw [(refers.ownStreams sender forwarder found).needsKeyFrame needed]
  exact (refers.video sender (Table.mem_of_lookup found)).1

theorem grownBy_insertAll {new : Ssrc → Prop} (now : Instant)
    {ssrcs : List Ssrc} (areNew : ∀ ssrc ∈ ssrcs, new ssrc)
    (sent : Table Ssrc Instant) :
    Table.GrownBy new sent
      (ssrcs.foldl (fun sent ssrc => sent.insert ssrc now) sent) := by
  induction ssrcs generalizing sent with
  | nil => exact .refl _ _
  | cons ssrc rest ih =>
      rw [List.foldl_cons]
      have first : Table.GrownBy new sent (sent.insert ssrc now) :=
        Table.grownBy_insert (areNew ssrc List.mem_cons_self) _ _
      apply first.trans
      apply ih
      exact fun other member => areNew other (List.mem_cons_of_mem _ member)

theorem continues_sendKeyFrameRequests (call : Call externals)
    (now : Instant) :
    call.Continues (call.sendKeyFrameRequestsIfItsBeenTooLong now).2 := by
  unfold sendKeyFrameRequestsIfItsBeenTooLong
  split
  · exact .refl call
  · refine ⟨fun _ => .refl _, ?_, .refl _, rfl⟩
    intro active refer
    apply grownBy_insertAll
    intro ssrc isDue
    exact active_of_desired refer (List.mem_of_mem_filter isDue)

theorem continues_handleKeyFrameRequests (call : Call externals)
    (requesterId : DemuxId) (keyFrameRequests : List Ssrc) (now : Instant) :
    call.Continues
      (call.handleKeyFrameRequests requesterId keyFrameRequests now).2 := by
  unfold handleKeyFrameRequests
  split
  · exact .refl call
  · have marked : call.Continues (call.modifyClient requesterId fun requester =>
        keyFrameRequests.foldl Client.requestKeyFrame requester) := by
      apply continues_modifyClient
      · exact Client.toNonParticipant_requestKeyFrames keyFrameRequests
      · exact evolves_requestKeyFrames keyFrameRequests
    exact marked.trans (continues_sendKeyFrameRequests _ now)

/-! ### The tick -/

theorem listCounted_of_addressed {before after : List (Client externals)}
    (addressed : List.Forall₂ (Client.Addressed active) before after) :
    ListCounted (before.map Client.toNonParticipant)
      (after.map Client.toNonParticipant) := by
  induction addressed with
  | nil => exact .nil
  | cons first _ ih => exact .cons first.counted ih

/-- Every client has been sent something. -/
theorem continues_of_addressed {before after : Call externals}
    (addressed : ∀ {active : DemuxId → Prop},
      List.Forall₂ (Client.Addressed active) before.clients after.clients)
    (rest : after.roster =
      { before.roster with active := after.roster.active })
    (requests : after.keyFrameRequestSentBySsrc =
      before.keyFrameRequestSentBySsrc)
    (raisedHands : after.raisedHands = before.raisedHands) :
    before.Continues after := by
  have counted : ListCounted before.roster.active after.roster.active :=
    listCounted_of_addressed (@addressed fun _ => True)
  apply continues_of_clients _ _ requests raisedHands
  · intro active _
    exact addressed.imp fun _ _ sent => sent.evolves
  · rw [rest]
    exact ⟨counted, .refl _, .refl _, rfl⟩

variable {messaging : ServerMessaging externals} {call after : Call externals}
variable {now : Instant} {sent : List RtpToSend}

/-- When the regular messages were sent last. -/
structure MessageTimes where
  activeSpeaker : Instant
  stats : Instant
  removedClients : Instant
  raisedHands : Instant

def messageTimes (call : Call externals) : MessageTimes :=
  ⟨call.activeSpeakerUpdateSent, call.statsUpdateSent,
    call.removedClientsUpdateSent, call.raisedHandsSent⟩

def setMessageTimes (call : Call externals) (times : MessageTimes) :
    Call externals :=
  { call with
    activeSpeakerUpdateSent := times.activeSpeaker
    statsUpdateSent := times.stats
    removedClientsUpdateSent := times.removedClients
    raisedHandsSent := times.raisedHands }

/-- A message goes to the clients of one list, or nobody is sent anything.
It may be about joined or left devices only if the flag is set. -/
inductive SendsUpdate (messaging : ServerMessaging externals)
    (joinedOrLeft : Bool) (before : Call externals) :
    List RtpToSend → Call externals → Prop where
  | nobody (times : MessageTimes) :
      SendsUpdate messaging joinedOrLeft before []
        (before.setMessageTimes times)
  | active {update : Client externals → SfuToDevice}
      {outcome : List (Client externals) × List RtpToSend}
      (times : MessageTimes) :
      sendToEach Client.demuxId (Client.send messaging update) before.clients =
        .ok outcome →
      (∀ client, (update client).deviceJoinedOrLeft = true →
        joinedOrLeft = true) →
      SendsUpdate messaging joinedOrLeft before outcome.2
        { before.setMessageTimes times with clients := outcome.1 }
  | pending {update : SfuToDevice}
      {outcome : List NonParticipantClient × List RtpToSend}
      (times : MessageTimes) :
      sendToEach NonParticipantClient.demuxId
        (NonParticipantClient.send messaging update) before.pendingClients =
          .ok outcome →
      (update.deviceJoinedOrLeft = true → joinedOrLeft = true) →
      SendsUpdate messaging joinedOrLeft before outcome.2
        { before.setMessageTimes times with pendingClients := outcome.1 }
  | removed {update : SfuToDevice}
      {outcome : List NonParticipantClient × List RtpToSend}
      (times : MessageTimes) :
      sendToEach NonParticipantClient.demuxId
        (NonParticipantClient.send messaging update) before.removedClients =
          .ok outcome →
      (update.deviceJoinedOrLeft = true → joinedOrLeft = true) →
      SendsUpdate messaging joinedOrLeft before outcome.2
        { before.setMessageTimes times with removedClients := outcome.1 }

variable {joinedOrLeft : Bool}

theorem sendsUpdate_nothing :
    SendsUpdate messaging joinedOrLeft call [] call :=
  .nobody call.messageTimes

theorem sendsUpdate_participating
    {clientWasAddedOrRemoved activeSpeakerJustChanged : Bool}
    (succeeded : call.sendUpdateProtoToParticipatingClients messaging
      clientWasAddedOrRemoved activeSpeakerJustChanged now =
        .ok (sent, after)) :
    SendsUpdate messaging clientWasAddedOrRemoved call sent after := by
  unfold sendUpdateProtoToParticipatingClients at succeeded
  dsimp only at succeeded
  split at succeeded
  · obtain ⟨outcome, isSent, returned⟩ := bind_eq_ok_iff.mp succeeded
    cases returned
    exact SendsUpdate.active
      { call.messageTimes with
        activeSpeaker :=
          if call.speakerIsDue clientWasAddedOrRemoved activeSpeakerJustChanged
              now then now
          else call.activeSpeakerUpdateSent
        stats :=
          if decide (call.statsUpdateSent + statsMessageInterval ≤ now) then now
          else call.statsUpdateSent }
      isSent fun _ => id
  · cases succeeded
    exact SendsUpdate.nobody
      { call.messageTimes with
        activeSpeaker :=
          if call.speakerIsDue clientWasAddedOrRemoved activeSpeakerJustChanged
              now then now
          else call.activeSpeakerUpdateSent }

theorem sendsUpdate_pending {clientWasAddedOrRemoved : Bool}
    (succeeded : call.sendUpdateProtoToPendingClients messaging
      clientWasAddedOrRemoved = .ok (sent, after)) :
    SendsUpdate messaging clientWasAddedOrRemoved call sent after := by
  unfold sendUpdateProtoToPendingClients at succeeded
  split at succeeded
  · rename_i isDue
    obtain ⟨outcome, isSent, returned⟩ := bind_eq_ok_iff.mp succeeded
    cases returned
    exact .pending call.messageTimes isSent fun _ => isDue
  · cases succeeded
    exact sendsUpdate_nothing

theorem sendsUpdate_removed
    (succeeded : call.sendUpdateProtoToRemovedClients messaging now =
      .ok (sent, after)) :
    SendsUpdate messaging joinedOrLeft call sent after := by
  unfold sendUpdateProtoToRemovedClients at succeeded
  split at succeeded
  · cases succeeded
    exact sendsUpdate_nothing
  · obtain ⟨outcome, isSent, returned⟩ := bind_eq_ok_iff.mp succeeded
    cases returned
    exact .removed { call.messageTimes with removedClients := now } isSent
      fun mentions => absurd mentions Bool.false_ne_true

theorem sendsUpdate_raisedHands
    (succeeded : call.sendRaisedHandsProtoToClients messaging now =
      .ok (sent, after)) :
    SendsUpdate messaging joinedOrLeft call sent after := by
  unfold sendRaisedHandsProtoToClients at succeeded
  split at succeeded
  · split at succeeded
    · cases succeeded
      exact sendsUpdate_nothing
    · obtain ⟨outcome, isSent, returned⟩ := bind_eq_ok_iff.mp succeeded
      cases returned
      exact .active { call.messageTimes with raisedHands := now } isSent
        fun _ mentions => absurd mentions Bool.false_ne_true
  · cases succeeded
    exact sendsUpdate_nothing

/-- What every update does, and what composes, is what `sendUpdates` does. -/
theorem sendUpdates_rule
    {related : Call externals → List RtpToSend → Call externals → Prop}
    {clientWasAddedOrRemoved activeSpeakerJustChanged : Bool}
    (update : ∀ {before sent after},
      SendsUpdate messaging clientWasAddedOrRemoved before sent after →
        related before sent after)
    (append : ∀ {first second third early late}, related first early second →
      related second late third → related first (early ++ late) third)
    (succeeded : call.sendUpdates messaging clientWasAddedOrRemoved
      activeSpeakerJustChanged now = .ok (sent, after)) :
    related call sent after := by
  obtain ⟨participating, one, rest⟩ := bind_eq_ok_iff.mp succeeded
  obtain ⟨pending, two, rest⟩ := bind_eq_ok_iff.mp rest
  obtain ⟨removed, three, rest⟩ := bind_eq_ok_iff.mp rest
  obtain ⟨hands, four, returned⟩ := bind_eq_ok_iff.mp rest
  cases returned
  have first := update (sendsUpdate_participating one)
  have second := update (sendsUpdate_pending two)
  have third := update (sendsUpdate_removed three)
  exact append (append (append first second) third)
    (update (sendsUpdate_raisedHands four))

theorem SendsUpdate.continues
    (sends : SendsUpdate messaging joinedOrLeft call sent after) :
    call.Continues after := by
  cases sends with
  | nobody times =>
      exact continues_of_clients (fun _ => .refl _) (.refl _) rfl rfl
  | active times isSent _ =>
      refine continues_of_addressed ?_ rfl rfl rfl
      intro active
      exact forall₂_sendToEach Client.addressed_send isSent
  | pending times isSent _ =>
      refine continues_of_clients (fun _ => .refl _) ?_ rfl rfl
      exact ⟨.refl _,
        forall₂_sendToEach NonParticipantClient.counted_send isSent, .refl _,
        rfl⟩
  | removed times isSent _ =>
      refine continues_of_clients (fun _ => .refl _) ?_ rfl rfl
      exact ⟨.refl _, .refl _,
        forall₂_sendToEach NonParticipantClient.counted_send isSent, rfl⟩

theorem continues_sendMrpUpdates
    (succeeded : call.sendMrpUpdates messaging now = .ok (sent, after)) :
    call.Continues after := by
  obtain ⟨outcome, isSent, returned⟩ := bind_eq_ok_iff.mp succeeded
  cases returned
  refine continues_of_addressed ?_ rfl rfl rfl
  intro active
  exact forall₂_sendToEach Client.addressed_sendMrpUpdates isSent

theorem continues_sendUpdates
    {clientWasAddedOrRemoved activeSpeakerJustChanged : Bool}
    (succeeded : call.sendUpdates messaging clientWasAddedOrRemoved
      activeSpeakerJustChanged now = .ok (sent, after)) :
    call.Continues after := by
  apply @sendUpdates_rule _ _ _ _ _ _
    (fun before _ after => before.Continues after) _ _ _ _ succeeded
  · exact SendsUpdate.continues
  · exact Continues.trans

theorem continues_prepareTick (call : Call externals) (now : Instant) :
    call.Continues (call.prepareTick now).2.2 := by
  apply @prepareTick_rule _ Continues
  · exact Continues.trans
  · intro call calculated sent
    exact continues_of_clients (fun _ => .refl _) (.refl _) rfl rfl
  · exact continues_updateIncomingRates
  · exact continues_calculateActiveSpeaker
  · exact fun call receivers now =>
      continues_allocateForReceivers receivers now call

theorem continues_tick {answer : List RtpToSend × List (DemuxId × Ssrc)}
    (ticked : call.tick messaging now = .ok (answer, after)) :
    call.Continues after := by
  obtain ⟨updated, one, rest⟩ := bind_eq_ok_iff.mp ticked
  obtain ⟨forSpeaker, _, rest⟩ := bind_eq_ok_iff.mp rest
  obtain ⟨streams, two, returned⟩ := bind_eq_ok_iff.mp rest
  cases returned
  have prepared := call.continues_prepareTick now
  have requested := updated.2.continues_sendKeyFrameRequests now
  exact ((prepared.trans (continues_sendUpdates one)).trans requested).trans
    (continues_sendMrpUpdates two)

theorem continues_tickForwarding (call : Call externals) (now : Instant) :
    call.Continues (call.tickForwarding now) := by
  have measured := continues_updateIncomingRates call now
  unfold tickForwarding
  dsimp only
  split
  · have noted : (call.updateIncomingRates now).Continues
        { call.updateIncomingRates now with activeSpeakerCalculated := now } :=
      continues_of_clients (fun _ => .refl _) (.refl _) rfl rfl
    exact ((measured.trans noted).trans
      (continues_calculateActiveSpeaker _ now)).trans
        (continues_allocateForReceivers _ now _)
  · exact measured.trans (continues_allocateForReceivers _ now _)

/-! ### Messages and media -/

theorem continues_handleVideoRequest (call : Call externals)
    (sender : Client externals) (request : Option VideoRequestMessage)
    (now : Instant) :
    call.Continues (call.handleVideoRequest sender request now) := by
  unfold handleVideoRequest
  split
  · exact .refl call
  · rename_i message
    split
    · exact .refl call
    · have applied : call.Continues (call.modifyClient sender.demuxId
          (applyVideoRequest call.defaultRequestedMaxSendRate message)) :=
        continues_modifyClient (fun _ => rfl)
          fun _ => Client.evolves_of_same rfl rfl rfl rfl rfl rfl
      exact applied.trans (continues_allocateVideoLayers _ _ _ _ now)

theorem continues_setMrpStream (call : Call externals) (sender : DemuxId)
    (stream : externals.MrpStream) :
    call.Continues (call.modifyClient sender (setMrpStream stream)) :=
  continues_modifyClient (fun _ => rfl)
    fun _ => Client.evolves_of_same rfl rfl rfl rfl rfl rfl

theorem continues_handleMediaRtp {sender : DemuxId} {incomingRtp : Packet}
    {result : Except (CallError externals) (List RtpToSend)}
    (handled : call.handleMediaRtp sender incomingRtp now =
      .ok (result, after)) : call.Continues after := by
  have onlyClients := (@clientsEvolve_handleMediaRtp _ (fun _ => True) _ _ _ _
    _ _ handled fun _ _ => trivial).2
  apply continues_of_clients
  · exact fun areActive => (clientsEvolve_handleMediaRtp handled areActive).1
  · exact .of_eq (roster_handleMediaRtp handled)
  · rw [onlyClients]
  · rw [onlyClients]

end Call

/-- The operation is an event of the clients. -/
def CallOperation.IsEvent : CallOperation externals → Prop
  | .event _ => True
  | _ => False

theorem OperationStep.continues {before after : Call externals}
    {operation : CallOperation externals}
    (step : OperationStep messaging before operation after)
    (notEvent : ¬ operation.IsEvent) : before.Continues after := by
  cases operation with
  | event event => exact absurd trivial notEvent
  | setTargetSendRate receiver newTargetSendRate now =>
      rw [show after = _ from step]
      exact before.continues_setTargetSendRate receiver newTargetSendRate now
  | setOutgoingQueueDrainRate receiver outgoingQueueDrainRate =>
      rw [show after = _ from step]
      exact before.continues_setOutgoingQueueDrainRate receiver
        outgoingQueueDrainRate
  | handleKeyFrameRequests requester keyFrameRequests now =>
      rw [show after = _ from step]
      exact before.continues_handleKeyFrameRequests requester keyFrameRequests
        now
  | tick now sent => exact Call.continues_tick step

/-! ## Invariants -/

/-- What each operation has to keep so that it holds in every run. -/
structure OperationInvariant (Inv : Call externals → Prop) : Prop where
  continues : ∀ {before after}, Inv before → before.Continues after → Inv after
  addClient : ∀ {call demuxId}, Inv call → call.hasClient demuxId = false →
    ∀ userId isAdmin regionRelation now,
      Inv (call.addClient demuxId userId isAdmin regionRelation now).2
  dropClient : ∀ {call}, Inv call → ∀ demuxId now,
    Inv (call.dropClient demuxId now)
  approvePendingClient : ∀ {call}, Inv call → ∀ target now,
    Inv (call.approvePendingClient target now)
  denyPendingClient : ∀ {call}, Inv call → ∀ target now,
    Inv (call.denyPendingClient target now)
  forceRemoveClient : ∀ {call}, Inv call → ∀ target now,
    Inv (call.forceRemoveClient target now)
  blockClient : ∀ {call}, Inv call → ∀ target now,
    Inv (call.blockClient target now)
  handleRaiseHand : ∀ {call}, Inv call → ∀ now message sender,
    Inv (call.handleRaiseHand now message sender)

namespace OperationInvariant

variable {Inv : Call externals → Prop} {call before after : Call externals}

theorem messageRelation (kept : OperationInvariant Inv) (now : Instant) :
    MessageRelation now fun before after : Call externals =>
      Inv before → Inv after where
  refl := fun _ => id
  trans := fun one two => two ∘ one
  handleVideoRequest := fun call sender request holds =>
    kept.continues holds (call.continues_handleVideoRequest sender request now)
  setMrpStream := fun call sender stream holds =>
    kept.continues holds (call.continues_setMrpStream sender stream)
  approvePendingClient := fun _ target holds =>
    kept.approvePendingClient holds target now
  denyPendingClient := fun _ target holds =>
    kept.denyPendingClient holds target now
  forceRemoveClient := fun _ target holds =>
    kept.forceRemoveClient holds target now
  blockClient := fun _ target holds => kept.blockClient holds target now
  dropClient := fun _ demuxId holds => kept.dropClient holds demuxId now
  handleRaiseHand := fun _ message sender holds =>
    kept.handleRaiseHand holds now message sender

theorem event (kept : OperationInvariant Inv) (holds : Inv before)
    {event : CallEvent externals} (unused : AddsUnused before event)
    (step : CallStep before event after) : Inv after := by
  cases event with
  | addClient demuxId userId isAdmin regionRelation now =>
      rw [show after = _ from step]
      exact kept.addClient holds unused userId isAdmin regionRelation now
  | dropClient demuxId now =>
      rw [show after = _ from step]
      exact kept.dropClient holds demuxId now
  | handleDeviceToSfu proto sender now =>
      rw [show after = _ from step]
      exact (kept.messageRelation now).handleDeviceToSfu before proto sender
        holds
  | handleMediaRtp sender incomingRtp now result =>
      exact kept.continues holds (Call.continues_handleMediaRtp step)
  | tickForwarding now =>
      rw [show after = _ from step]
      exact kept.continues holds (before.continues_tickForwarding now)

theorem operation (kept : OperationInvariant Inv) (holds : Inv before)
    {operation : CallOperation externals}
    (unused : OperationAddsUnused before operation)
    (step : OperationStep messaging before operation after) : Inv after := by
  cases operation with
  | event event => exact kept.event holds unused step
  | _ => exact kept.continues holds (step.continues id)

/-- It holds in every state that a run reaches. -/
theorem of_run (kept : OperationInvariant Inv)
    (initial : ∀ start : Call externals, IsNewCall start → Inv start)
    {start finish : Call externals}
    {operations : List (CallOperation externals)}
    (driven : DrivenRun messaging start operations finish) : Inv finish := by
  apply driven.2.invariant (initial start driven.1)
  intro before operation after holds step
  exact kept.operation holds step.1 step.2

end OperationInvariant

/-! ## Distinct demux ids -/

theorem operationInvariant_nodup :
    OperationInvariant fun call : Call externals => call.demuxIds.Nodup where
  continues := by
    intro before after distinct continues
    unfold Call.demuxIds
    rw [continues.roster.demuxIds]
    exact distinct
  addClient := by
    intro call demuxId distinct unused userId isAdmin regionRelation now
    have ids := call.demuxIds_addClient demuxId userId isAdmin regionRelation
      now
    rw [ids.nodup_iff, List.nodup_cons, Call.mem_demuxIds, unused]
    exact ⟨Bool.false_ne_true, distinct⟩
  dropClient := by
    intro call distinct demuxId now
    rw [(call.demuxIds_dropClient demuxId now).nodup_iff]
    exact distinct.erase _
  approvePendingClient := fun distinct target now =>
    Call.nodup_of_act (.approve target) distinct
      (Call.roster_approvePendingClient _ target now)
  denyPendingClient := fun distinct target now =>
    Call.nodup_of_act (.deny target) distinct
      (Call.roster_denyPendingClient _ target now)
  forceRemoveClient := fun distinct target now =>
    Call.nodup_of_act (.remove target) distinct
      (Call.roster_forceRemoveClient _ target now)
  blockClient := fun distinct target now =>
    Call.nodup_of_act (.block target) distinct
      (Call.roster_blockClient _ target now)
  handleRaiseHand := by
    intro call distinct now message sender
    unfold Call.demuxIds
    rw [Call.roster_handleRaiseHand]
    exact distinct

theorem nodup_of_isNewCall (start : Call externals) (isNew : IsNewCall start) :
    start.demuxIds.Nodup := by
  obtain ⟨_, _, _, _, _, _, _, _, _, _, rfl⟩ := isNew
  exact List.nodup_nil

/-! ## A concrete run -/

/-- Two admins have joined. -/
def pairedCall : Call directExternals :=
  ((moderatedCall.addClient (DemuxId.fromSsrc 80) "alice" true .unknown
    0).2.addClient (DemuxId.fromSsrc 96) "bob" true .unknown 0).2

theorem drivenRun_pairedCall :
    DrivenRun directMessaging moderatedCall
      [.event (.addClient (DemuxId.fromSsrc 80) "alice" true .unknown 0),
        .event (.addClient (DemuxId.fromSsrc 96) "bob" true .unknown 0)]
      pairedCall := by
  have first : Guarded OperationAddsUnused (OperationStep directMessaging)
      moderatedCall
      (.event (.addClient (DemuxId.fromSsrc 80) "alice" true .unknown 0))
      (moderatedCall.addClient (DemuxId.fromSsrc 80) "alice" true .unknown
        0).2 := ⟨rfl, rfl⟩
  have second : Guarded OperationAddsUnused (OperationStep directMessaging)
      (moderatedCall.addClient (DemuxId.fromSsrc 80) "alice" true .unknown
        0).2
      (.event (.addClient (DemuxId.fromSsrc 96) "bob" true .unknown 0))
      pairedCall := by
    refine ⟨?_, rfl⟩
    change Call.hasClient _ _ = false
    decide +kernel
  exact ⟨isNewCall_moderatedCall, .snoc (.snoc .nil first) second⟩

theorem length_clients_pairedCall : pairedCall.clients.length = 2 := by
  decide +kernel

end CallingService.Backend
