import CallingService.Backend.Call.AllocationBounds
import CallingService.Backend.Call.ForwardedNonces
import CallingService.Backend.Call.ServerMessages
import CallingService.Backend.Call.SimulcastDesired
import Mathlib.Data.List.Forall2

/-!
# What stays with a client

Media, requests and ticks change the clients one by one.  They keep who a
client is and its padding, and its tables get entries for other active clients
only.
-/

namespace CallingService.Backend

open Foundation Rtp

/-! ## Streams of one sender -/

namespace Vp8SimulcastRtpForwarder

/-- What is forwarded or waited for is a stream of the sender. -/
def Owns (sender : DemuxId) (forwarder : Vp8SimulcastRtpForwarder) : Prop :=
  ∀ ssrc, forwarder.forwardingSsrc = some ssrc ∨
    forwarder.switchingSsrc = some ssrc → DemuxId.fromSsrc ssrc = sender

variable {sender : DemuxId} {forwarder : Vp8SimulcastRtpForwarder}

theorem owns_new (sender : DemuxId) (outgoingSsrc : Ssrc) :
    (Vp8SimulcastRtpForwarder.new outgoingSsrc).Owns sender := by
  intro ssrc isStream
  rcases isStream with forwarded | waited
  · cases forwarded
  · cases waited

theorem Owns.setDesiredSsrc (owns : forwarder.Owns sender)
    {desired : Option Ssrc}
    (own : ∀ ssrc, desired = some ssrc → DemuxId.fromSsrc ssrc = sender) :
    (forwarder.setDesiredSsrc desired).Owns sender := by
  unfold Vp8SimulcastRtpForwarder.setDesiredSsrc
  cases desired with
  | none =>
      intro ssrc isStream
      rcases isStream with forwarded | waited
      · cases forwarded
      · cases waited
  | some desired =>
      dsimp only
      split
      · intro ssrc isStream
        rcases isStream with forwarded | waited
        · exact owns ssrc (.inl forwarded)
        · cases waited
          exact own desired rfl
      · exact owns

/-- A step that leaves the desired layer alone turns to no other sender. -/
theorem Owns.undisturbed {after : Vp8SimulcastRtpForwarder}
    {event : ForwarderEvent} (owns : forwarder.Owns sender)
    (step : Undisturbed forwarder event after) : after.Owns sender := by
  intro ssrc isStream
  rcases step.ssrcs with ⟨sameForwarding, sameSwitching⟩ |
    ⟨waited, wasWaiting, isForwarded, nothingElse⟩
  · apply owns ssrc
    unfold switchingSsrc at isStream ⊢
    rw [sameForwarding, sameSwitching] at isStream
    exact isStream
  · unfold switchingSsrc at isStream
    rw [isForwarded, nothingElse] at isStream
    rcases isStream with forwarded | waiting
    · cases forwarded
      exact owns ssrc (.inr wasWaiting)
    · cases waiting

theorem Owns.setNeedsKeyFrame (owns : forwarder.Owns sender) :
    forwarder.setNeedsKeyFrame.Owns sender := by
  have step : Undisturbed forwarder .setNeedsKeyFrame
      forwarder.setNeedsKeyFrame := ⟨rfl, fun _ named => by cases named⟩
  exact owns.undisturbed step

theorem Owns.forwardVp8Rtp (owns : forwarder.Owns sender)
    (incomingRtp : Packet) (incomingVp8 : VideoHeader) :
    (forwarder.forwardVp8Rtp incomingRtp incomingVp8).1.Owns sender := by
  have step : Undisturbed forwarder
      (.forwardVp8Rtp incomingRtp incomingVp8
        (forwarder.forwardVp8Rtp incomingRtp incomingVp8).2)
      (forwarder.forwardVp8Rtp incomingRtp incomingVp8).1 :=
    ⟨rfl, fun _ named => by cases named⟩
  exact owns.undisturbed step

theorem Owns.needsKeyFrame (owns : forwarder.Owns sender) {ssrc : Ssrc}
    (needed : forwarder.needsKeyFrame = some ssrc) :
    DemuxId.fromSsrc ssrc = sender := by
  apply owns ssrc
  unfold Vp8SimulcastRtpForwarder.needsKeyFrame at needed
  unfold forwardingSsrc switchingSsrc
  cases switching : forwarder.switching with
  | switchAtNextKeyFrame other =>
      rw [switching] at needed
      exact .inr needed
  | doNotSwitch =>
      rw [switching] at needed
      cases forwarding : forwarder.forwarding with
      | paused =>
          rw [forwarding] at needed
          cases needed
      | forwarding stream =>
          rw [forwarding] at needed
          dsimp only at needed
          split at needed
          · exact .inl needed
          · cases needed

end Vp8SimulcastRtpForwarder

/-! ## Allocations -/

theorem sender_of_allocateSendRate {minimumAllocation : DataRate → DataRate}
    {target minTarget ideal drain : DataRate} {videos : List AllocatableVideo}
    {sender : DemuxId} {video : AllocatedVideo}
    (found : (inRelease fun profile => allocateSendRate profile
      minimumAllocation target minTarget ideal drain videos).lookup sender =
        some video) : video.senderDemuxId = sender := by
  rw [inRelease_allocateSendRate] at found
  exact (Allocation.fits_takeTurns _ videos found).1

variable {externals : CallExternals}

/-! ## One client -/

namespace Client

def OwnStreams (forwarders : Table DemuxId Vp8SimulcastRtpForwarder) : Prop :=
  ∀ sender forwarder, forwarders.lookup sender = some forwarder →
    forwarder.Owns sender

/-- An active client that the given one can receive from. -/
def Other (active : DemuxId → Prop) (client : Client externals)
    (sender : DemuxId) : Prop :=
  active sender ∧ sender ≠ client.demuxId

/-- What may become of a client as long as nobody leaves. -/
structure Evolves (active : DemuxId → Prop) (before after : Client externals) :
    Prop where
  demuxId : after.demuxId = before.demuxId
  paddingSsrc : after.paddingSsrc = before.paddingSsrc
  audio : Table.GrownBy (before.Other active)
    before.audioForwarderBySenderDemuxId after.audioForwarderBySenderDemuxId
  video : Table.GrownBy (before.Other active)
    before.videoForwarderBySenderDemuxId after.videoForwarderBySenderDemuxId
  data : Table.GrownBy (before.Other active)
    before.dataForwarderBySenderDemuxId after.dataForwarderBySenderDemuxId
  heights : Table.GrownBy (before.Other active)
    before.allocatedHeightBySenderDemuxId after.allocatedHeightBySenderDemuxId
  ownStreams : OwnStreams before.videoForwarderBySenderDemuxId →
    OwnStreams after.videoForwarderBySenderDemuxId

variable {active : DemuxId → Prop} {before after : Client externals}

/-- Nothing of all this changes. -/
theorem evolves_of_same (demuxId : after.demuxId = before.demuxId)
    (paddingSsrc : after.paddingSsrc = before.paddingSsrc)
    (audio : after.audioForwarderBySenderDemuxId =
      before.audioForwarderBySenderDemuxId)
    (video : after.videoForwarderBySenderDemuxId =
      before.videoForwarderBySenderDemuxId)
    (data : after.dataForwarderBySenderDemuxId =
      before.dataForwarderBySenderDemuxId)
    (heights : after.allocatedHeightBySenderDemuxId =
      before.allocatedHeightBySenderDemuxId) :
    Evolves active before after where
  demuxId := demuxId
  paddingSsrc := paddingSsrc
  audio := by
    rw [audio]
    exact .refl _ _
  video := by
    rw [video]
    exact .refl _ _
  data := by
    rw [data]
    exact .refl _ _
  heights := by
    rw [heights]
    exact .refl _ _
  ownStreams := by
    rw [video]
    exact id

theorem Evolves.refl (client : Client externals) :
    Evolves active client client :=
  evolves_of_same rfl rfl rfl rfl rfl rfl

theorem Evolves.other_eq (evolves : Evolves active before after) :
    after.Other active = before.Other active := by
  funext sender
  unfold Other
  rw [evolves.demuxId]

theorem Evolves.trans {first second third : Client externals}
    (one : Evolves active first second) (two : Evolves active second third) :
    Evolves active first third := by
  have sameOther := one.other_eq
  obtain ⟨demuxId, padding, audio, video, data, heights, own⟩ := two
  rw [sameOther] at audio video data heights
  exact ⟨demuxId.trans one.demuxId, padding.trans one.paddingSsrc,
    one.audio.trans audio, one.video.trans video, one.data.trans data,
    one.heights.trans heights, own ∘ one.ownStreams⟩

/-- What a client keeps by sender is about other active clients. -/
structure RefersTo (active : DemuxId → Prop) (client : Client externals) :
    Prop where
  audio : ∀ sender ∈ client.audioForwarderBySenderDemuxId,
    client.Other active sender
  video : ∀ sender ∈ client.videoForwarderBySenderDemuxId,
    client.Other active sender
  data : ∀ sender ∈ client.dataForwarderBySenderDemuxId,
    client.Other active sender
  heights : ∀ sender ∈ client.allocatedHeightBySenderDemuxId,
    client.Other active sender
  ownStreams : OwnStreams client.videoForwarderBySenderDemuxId

theorem Evolves.refersTo (evolves : Evolves active before after)
    (refers : before.RefersTo active) : after.RefersTo active := by
  have sameOther := evolves.other_eq
  refine ⟨?_, ?_, ?_, ?_, evolves.ownStreams refers.ownStreams⟩
  · intro sender member
    rw [sameOther]
    exact (evolves.audio sender member).elim (refers.audio sender) id
  · intro sender member
    rw [sameOther]
    exact (evolves.video sender member).elim (refers.video sender) id
  · intro sender member
    rw [sameOther]
    exact (evolves.data sender member).elim (refers.data sender) id
  · intro sender member
    rw [sameOther]
    exact (evolves.heights sender member).elim (refers.heights sender) id

end Client

/-! ## All clients -/

namespace Call

variable {active : DemuxId → Prop}

/-- The clients stay in their places. -/
def ClientsEvolve (active : DemuxId → Prop)
    (before after : List (Client externals)) : Prop :=
  List.Forall₂ (Client.Evolves active) before after

theorem ClientsEvolve.refl (clients : List (Client externals)) :
    ClientsEvolve active clients clients := by
  induction clients with
  | nil => exact .nil
  | cons client rest ih => exact .cons (.refl client) ih

theorem ClientsEvolve.trans {first second third : List (Client externals)}
    (one : ClientsEvolve active first second)
    (two : ClientsEvolve active second third) :
    ClientsEvolve active first third := by
  induction one generalizing third with
  | nil => exact two
  | cons same _ ih =>
      cases two with
      | cons later rest => exact .cons (same.trans later) (ih rest)

theorem clientsEvolve_map {change : Client externals → Client externals}
    (evolves : ∀ client, Client.Evolves active client (change client))
    (clients : List (Client externals)) :
    ClientsEvolve active clients (clients.map change) := by
  induction clients with
  | nil => exact .nil
  | cons client rest ih => exact .cons (evolves client) ih

theorem clientsEvolve_modifyFirst {test : Client externals → Bool}
    {change : Client externals → Client externals}
    {clients : List (Client externals)}
    (evolves : ∀ client, clients.find? test = some client →
      Client.Evolves active client (change client)) :
    ClientsEvolve active clients (modifyFirst test change clients) := by
  induction clients with
  | nil => exact .nil
  | cons client rest ih =>
      unfold modifyFirst
      split
      · rename_i passes
        exact .cons (evolves client (List.find?_cons_of_pos passes))
          (ClientsEvolve.refl rest)
      · rename_i fails
        rw [List.find?_cons_of_neg fails] at evolves
        exact .cons (.refl client) (ih evolves)

variable {before after : List (Client externals)}

/-- What identifies the clients and their padding is the same. -/
theorem ClientsEvolve.map_eq (evolve : ClientsEvolve active before after) :
    after.map (fun client => (client.demuxId, client.paddingSsrc)) =
      before.map (fun client => (client.demuxId, client.paddingSsrc)) := by
  induction evolve with
  | nil => rfl
  | cons same _ ih =>
      rw [List.map_cons, List.map_cons, ih, same.demuxId, same.paddingSsrc]

theorem ClientsEvolve.demuxIds (evolve : ClientsEvolve active before after) :
    after.map Client.demuxId = before.map Client.demuxId := by
  have same := congrArg (List.map Prod.fst) evolve.map_eq
  simpa only [List.map_map, Function.comp_def] using same

theorem ClientsEvolve.exists_origin (evolve : ClientsEvolve active before after)
    {client : Client externals} (member : client ∈ after) :
    ∃ origin ∈ before, Client.Evolves active origin client := by
  induction evolve with
  | nil => cases member
  | cons same _ ih =>
      rcases List.mem_cons.mp member with rfl | inRest
      · exact ⟨_, List.mem_cons_self, same⟩
      · obtain ⟨origin, known, evolves⟩ := ih inRest
        exact ⟨origin, List.mem_cons_of_mem _ known, evolves⟩

/-! ### Allocation -/

theorem retuneForwarders_grown {new : DemuxId → Prop}
    (allocated : Table DemuxId AllocatedVideo) {senders : List DemuxId}
    (areNew : ∀ sender ∈ senders, new sender)
    (forwarders : Table DemuxId Vp8SimulcastRtpForwarder) :
    Table.GrownBy new forwarders
      (senders.foldl (retuneForwarder allocated) forwarders) := by
  induction senders generalizing forwarders with
  | nil => exact .refl _ _
  | cons sender rest ih =>
      rw [List.foldl_cons]
      have first : Table.GrownBy new forwarders
          (retuneForwarder allocated forwarders sender) :=
        Table.grownBy_insert (areNew sender List.mem_cons_self) _ _
      apply first.trans
      apply ih
      exact fun other member => areNew other (List.mem_cons_of_mem _ member)

theorem recordHeights_grown {new : DemuxId → Prop}
    (allocated : Table DemuxId AllocatedVideo) {senders : List DemuxId}
    (areNew : ∀ sender ∈ senders, new sender)
    (heights : Table DemuxId VideoHeight) :
    Table.GrownBy new heights
      (senders.foldl (recordHeight allocated) heights) := by
  induction senders generalizing heights with
  | nil => exact .refl _ _
  | cons sender rest ih =>
      rw [List.foldl_cons]
      have first : Table.GrownBy new heights
          (recordHeight allocated heights sender) := by
        unfold recordHeight
        split
        · exact Table.grownBy_insert (areNew sender List.mem_cons_self) _ _
        · exact .refl _ _
      apply first.trans
      apply ih
      exact fun other member => areNew other (List.mem_cons_of_mem _ member)

theorem retuneForwarders_own {allocated : Table DemuxId AllocatedVideo}
    (named : ∀ sender video, allocated.lookup sender = some video →
      video.senderDemuxId = sender) (senders : List DemuxId)
    {forwarders : Table DemuxId Vp8SimulcastRtpForwarder}
    (own : Client.OwnStreams forwarders) :
    Client.OwnStreams (senders.foldl (retuneForwarder allocated)
      forwarders) := by
  intro sender forwarder found
  refine retuneForwarders_all
    (fun sender => Vp8SimulcastRtpForwarder.owns_new sender _) ?_ senders
    (fun known => own _ _ known) found
  intro other known owns
  apply owns.setDesiredSsrc
  intro ssrc isDesired
  obtain ⟨video, isAllocated, rfl⟩ := Option.map_eq_some_iff.mp isDesired
  rw [LayerId.demuxId_fromSsrc_toSsrc]
  exact named other video isAllocated

theorem evolves_allocatedReceiver (receiver : Client externals)
    {videos : List AllocatableVideo} (target minTarget : DataRate)
    (now : Instant)
    (areOthers : ∀ video ∈ videos,
      receiver.Other active video.senderDemuxId) :
    Client.Evolves active receiver
      (allocatedReceiver receiver videos target minTarget now) := by
  have sendersOther : ∀ sender ∈ videos.map (·.senderDemuxId),
      receiver.Other active sender := by
    intro sender member
    obtain ⟨video, isVideo, rfl⟩ := List.mem_map.mp member
    exact areOthers video isVideo
  refine ⟨rfl, rfl, .refl _ _, ?_, .refl _ _, ?_, ?_⟩
  · exact retuneForwarders_grown _ sendersOther _
  · intro sender member
    rcases recordHeights_grown _ sendersOther ∅ sender member with old | isOther
    · cases old
    · exact .inr isOther
  · intro own
    apply retuneForwarders_own _ _ own
    intro sender video found
    exact sender_of_allocateSendRate found

theorem clientsEvolve_allocateVideoLayers (call : Call externals)
    (receiver : DemuxId) (target minTarget : DataRate) (now : Instant)
    (areActive : ∀ client ∈ call.clients, active client.demuxId) :
    ClientsEvolve active call.clients
      (call.allocateVideoLayers receiver target minTarget now).clients := by
  apply clientsEvolve_modifyFirst
  intro client _
  apply evolves_allocatedReceiver
  intro video member
  obtain ⟨sender, isOther, rfl⟩ := List.mem_map.mp member
  obtain ⟨isClient, differs⟩ := List.mem_filter.mp isOther
  rw [decide_eq_true_eq] at differs
  exact ⟨areActive sender isClient, differs⟩

theorem ClientsEvolve.stillRefer (evolve : ClientsEvolve active before after)
    (refer : ∀ client ∈ before,
      active client.demuxId ∧ client.RefersTo active) :
    ∀ client ∈ after, active client.demuxId ∧ client.RefersTo active := by
  intro client member
  obtain ⟨origin, known, same⟩ := evolve.exists_origin member
  obtain ⟨isActive, refers⟩ := refer origin known
  refine ⟨?_, same.refersTo refers⟩
  rw [same.demuxId]
  exact isActive

theorem ClientsEvolve.stillActive (evolve : ClientsEvolve active before after)
    (areActive : ∀ client ∈ before, active client.demuxId) :
    ∀ client ∈ after, active client.demuxId := by
  intro client member
  obtain ⟨origin, known, same⟩ := evolve.exists_origin member
  rw [same.demuxId]
  exact areActive origin known

theorem clientsEvolve_allocateForReceivers
    (receivers : List (Client externals)) (now : Instant)
    (call : Call externals)
    (areActive : ∀ client ∈ call.clients, active client.demuxId) :
    ClientsEvolve active call.clients
      (call.allocateForReceivers receivers now).clients := by
  unfold allocateForReceivers
  induction receivers generalizing call with
  | nil => exact .refl _
  | cons receiver rest ih =>
      have first := call.clientsEvolve_allocateVideoLayers receiver.demuxId
        receiver.targetSendRate receiver.minTargetSendRate now areActive
      exact first.trans (ih _ (first.stillActive areActive))

/-! ### Media -/

theorem evolves_updateIncomingVideo (client : Client externals)
    (layer : Fin 3) (incomingRtp : Packet) (incomingVp8 : VideoHeader)
    (now : Instant) :
    Client.Evolves active client
      (client.updateIncomingVideo layer incomingRtp incomingVp8 now) := by
  unfold Client.updateIncomingVideo
  dsimp only
  split
  · exact Client.evolves_of_same rfl rfl rfl rfl rfl rfl
  · exact Client.evolves_of_same rfl rfl rfl rfl rfl rfl

variable {incomingRtp : Packet}

theorem evolves_receiveVideo {sender : Client externals} {now : Instant}
    {result : Option VideoHeader × Client externals}
    (received : receiveVideo sender incomingRtp now = .ok (.ok result)) :
    Client.Evolves active sender result.2 := by
  rcases receiveVideo_eq_ok received with
    ⟨_, rfl⟩ | ⟨layer, incomingVp8, _, rfl⟩
  · exact .refl _
  · exact evolves_updateIncomingVideo sender layer incomingRtp incomingVp8 now

theorem evolves_pushAudioLevel (incomingRtp : Packet)
    (sender : Client externals) :
    Client.Evolves active sender (pushAudioLevel incomingRtp sender) := by
  unfold pushAudioLevel
  split
  · exact Client.evolves_of_same rfl rfl rfl rfl rfl rfl
  · exact .refl _

theorem forwardVideoSsrc_own
    {forwarders : Table DemuxId Vp8SimulcastRtpForwarder}
    {incomingVp8 : VideoHeader}
    {forwarded : Table DemuxId Vp8SimulcastRtpForwarder × Option Packet}
    (succeeded : Client.forwardVideoSsrc forwarders incomingRtp incomingVp8 =
      .ok forwarded) :
    (∀ other, other ≠ DemuxId.fromSsrc incomingRtp.ssrc →
      forwarded.1.lookup other = forwarders.lookup other) ∧
    (Client.OwnStreams forwarders → Client.OwnStreams forwarded.1) := by
  unfold Client.forwardVideoSsrc at succeeded
  cases known : forwarders.lookup (DemuxId.fromSsrc incomingRtp.ssrc) with
  | none =>
      simp only [known] at succeeded
      cases succeeded
      exact ⟨fun _ _ => rfl, id⟩
  | some forwarder =>
      simp only [known] at succeeded
      have inserted : forwarded.1 = forwarders.insert
          (DemuxId.fromSsrc incomingRtp.ssrc)
          (forwarder.forwardVp8Rtp incomingRtp incomingVp8).1 := by
        cases sent : (forwarder.forwardVp8Rtp incomingRtp incomingVp8).2 with
        | none =>
            rw [sent] at succeeded
            cases succeeded
            rfl
        | some outgoing =>
            rw [sent] at succeeded
            obtain ⟨rewritten, _, returned⟩ := bind_eq_ok_iff.mp succeeded
            cases returned
            rfl
      rw [inserted]
      constructor
      · exact fun other differs => AList.lookup_insert_ne differs
      · intro own sender other found
        by_cases same : sender = DemuxId.fromSsrc incomingRtp.ssrc
        · subst same
          rw [AList.lookup_insert] at found
          cases found
          exact (own _ _ known).forwardVp8Rtp incomingRtp incomingVp8
        · rw [AList.lookup_insert_ne same] at found
          exact own sender other found

theorem evolves_forwardVideoRtp {receiver : Client externals}
    {incomingVp8 : Option VideoHeader}
    {forwarded : Client externals × Option Packet}
    (isOther : receiver.Other active (DemuxId.fromSsrc incomingRtp.ssrc))
    (succeeded : receiver.forwardVideoRtp incomingRtp incomingVp8 =
      .ok forwarded) : Client.Evolves active receiver forwarded.1 := by
  cases incomingVp8 with
  | none =>
      cases succeeded
      exact .refl _
  | some header =>
      obtain ⟨outcome, moved, returned⟩ := bind_eq_ok_iff.mp succeeded
      cases returned
      obtain ⟨others, own⟩ := forwardVideoSsrc_own moved
      refine ⟨rfl, rfl, .refl _ _, ?_, .refl _ _, .refl _ _, own⟩
      exact Table.grownBy_of_lookup isOther fun differs => others _ differs

/-- The only new entry of a receiver is that of the sender. -/
theorem evolves_forwardMedia {layer : LayerId}
    {incomingVp8 : Option VideoHeader} {receiver : Client externals}
    {forwarded : Client externals × Option Packet}
    (isOther : receiver.Other active (DemuxId.fromSsrc incomingRtp.ssrc))
    (succeeded : forwardMedia layer incomingRtp incomingVp8 receiver =
      .ok forwarded) : Client.Evolves active receiver forwarded.1 := by
  have singleSsrc : ∀ {forwarders : Table DemuxId SingleSsrcRtpForwarder}
      {outcome}, Client.forwardSingleSsrc forwarders incomingRtp =
        .ok outcome →
      Table.GrownBy (receiver.Other active) forwarders outcome.1 :=
    fun moved => Table.grownBy_of_lookup isOther
      (Client.forwardSingleSsrc_advanced moved).others
  cases layer with
  | audio =>
      unfold forwardMedia at succeeded
      dsimp only at succeeded
      split at succeeded
      · cases succeeded
        exact .refl _
      · obtain ⟨outcome, moved, returned⟩ := bind_eq_ok_iff.mp succeeded
        cases returned
        exact ⟨rfl, rfl, singleSsrc moved, .refl _ _, .refl _ _, .refl _ _, id⟩
  | rtpData =>
      obtain ⟨outcome, moved, returned⟩ := bind_eq_ok_iff.mp succeeded
      cases returned
      exact ⟨rfl, rfl, .refl _ _, .refl _ _, singleSsrc moved, .refl _ _, id⟩
  | video0 | video1 | video2 => exact evolves_forwardVideoRtp isOther succeeded

theorem clientsEvolve_forwardToReceivers {sender : DemuxId}
    {forward : Client externals →
      Except Panic (Client externals × Option Packet)}
    (evolves : ∀ {receiver forwarded}, receiver.demuxId ≠ sender →
      forward receiver = .ok forwarded →
        Client.Evolves active receiver forwarded.1)
    {clients : List (Client externals)}
    {result : List (Client externals) × List RtpToSend}
    (forwarded : forwardToReceivers sender forward clients = .ok result) :
    ClientsEvolve active clients result.1 := by
  induction clients generalizing result with
  | nil =>
      cases forwarded
      exact .nil
  | cons receiver rest ih =>
      unfold forwardToReceivers at forwarded
      split at forwarded
      · obtain ⟨others, fromRest, returned⟩ := bind_eq_ok_iff.mp forwarded
        cases returned
        exact .cons (.refl receiver) (ih fromRest)
      · rename_i differs
        obtain ⟨first, fromFirst, later⟩ := bind_eq_ok_iff.mp forwarded
        obtain ⟨others, fromRest, returned⟩ := bind_eq_ok_iff.mp later
        cases returned
        exact .cons (evolves differs fromFirst) (ih fromRest)

/-- A packet is forwarded to others in the name of an active client. -/
theorem clientsEvolve_handleMediaRtp {call after : Call externals}
    {sender : DemuxId} {now : Instant}
    {result : Except (CallError externals) (List RtpToSend)}
    (handled : call.handleMediaRtp sender incomingRtp now =
      .ok (result, after))
    (areActive : ∀ client ∈ call.clients, active client.demuxId) :
    ClientsEvolve active call.clients after.clients ∧
      after = { call with clients := after.clients } := by
  rcases handleMediaRtp_eq_ok handled with
    ⟨_, _, rfl⟩ | ⟨client, updated, found, authorized, received, rest⟩
  · exact ⟨.refl _, rfl⟩
  · have observed : ClientsEvolve active call.clients
        (call.modifyClient sender fun _ =>
          pushAudioLevel incomingRtp updated.2).clients := by
      apply clientsEvolve_modifyFirst
      intro other isSender
      rw [show call.clients.find? _ = _ from found] at isSender
      cases isSender
      exact (evolves_receiveVideo received).trans
        (evolves_pushAudioLevel incomingRtp _)
    rcases forwardFromSender_eq_ok rest with
      ⟨_, _, rfl⟩ | ⟨layer, forwarded, _, succeeded, _, rfl⟩
    · exact ⟨observed, rfl⟩
    · refine ⟨observed.trans ?_, rfl⟩
      apply clientsEvolve_forwardToReceivers _ succeeded
      intro receiver outcome differs moved
      apply evolves_forwardMedia _ moved
      have named : client.demuxId = sender := by
        simpa using List.find?_some found
      rw [authorized]
      refine ⟨?_, differs.symm⟩
      rw [← named]
      exact areActive client (List.mem_of_find?_eq_some found)

end Call

end CallingService.Backend
