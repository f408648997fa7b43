import CallingService.Backend.Call.Messages

/-!
# The forwarders of the clients

What the operations of a call do to the forwarders of a client that stays:
they are told what to forward, they are created for clients that are active,
and they are dropped for clients that are not active any more.
-/

namespace CallingService.Backend

open Foundation Rtp

/-- Each sender is forwarded as up to three streams. -/
inductive StreamKind where
  | audio
  | data
  | video
deriving DecidableEq, Repr

namespace StreamKind

/-- The layer whose SSRC the stream is sent on. -/
def layer : StreamKind → LayerId
  | audio => .audio
  | data => .rtpData
  | video => .video0

def ofLayer : LayerId → StreamKind
  | .audio => audio
  | .rtpData => data
  | .video0 => video
  | .video1 => video
  | .video2 => video

def outgoingSsrc (kind : StreamKind) (sender : DemuxId) : Ssrc :=
  kind.layer.toSsrc sender

theorem outgoingSsrc_inj {first second : StreamKind} {one other : DemuxId}
    (same : first.outgoingSsrc one = second.outgoingSsrc other) :
    first = second ∧ one = other := by
  obtain ⟨layers, senders⟩ := LayerId.toSsrc_inj same
  refine ⟨?_, senders⟩
  cases first <;> cases second <;> first | rfl | cases layers

end StreamKind

/-- What may happen to the forwarder of a sender, when `active` says whether
the sender is active afterwards. -/
inductive RenumberingKept (active : Prop) :
    Option (Renumbering Ssrc) → Option (Renumbering Ssrc) → Prop where
  | retuned {before after : Renumbering Ssrc} :
      Renumbers before [] after →
      RenumberingKept active (some before) (some after)
  | created {after : Renumbering Ssrc} :
      active → RenumberingKept active none (some after)
  | dropped {before : Renumbering Ssrc} :
      ¬ active → RenumberingKept active (some before) none
  | absent : RenumberingKept active none none

theorem RenumberingKept.refl {active : Prop}
    (renumbering : Option (Renumbering Ssrc)) :
    RenumberingKept active renumbering renumbering := by
  cases renumbering with
  | none => exact .absent
  | some state => exact .retuned .refl

theorem RenumberingKept.trans {active : Prop}
    {first second third : Option (Renumbering Ssrc)}
    (one : RenumberingKept active first second)
    (two : RenumberingKept active second third) :
    RenumberingKept active first third := by
  cases one with
  | retuned before =>
      cases two with
      | retuned after => exact .retuned (before.trans after)
      | dropped gone => exact .dropped gone
  | created isActive =>
      cases two with
      | retuned after => exact .created isActive
      | dropped gone => exact absurd isActive gone
  | dropped gone =>
      cases two with
      | created isActive => exact absurd isActive gone
      | absent => exact .dropped gone
  | absent => exact two

variable {externals : CallExternals}

namespace Client

/-- The forwarder of a stream of a sender, as a renumbering. -/
def renumberingOf (client : Client externals) (kind : StreamKind)
    (sender : DemuxId) : Option (Renumbering Ssrc) :=
  match kind with
  | .audio => (client.audioForwarderBySenderDemuxId.lookup sender).map
      (·.renumbering (LayerId.audio.toSsrc sender))
  | .data => (client.dataForwarderBySenderDemuxId.lookup sender).map
      (·.renumbering (LayerId.rtpData.toSsrc sender))
  | .video => (client.videoForwarderBySenderDemuxId.lookup sender).map
      (·.renumbering)

/-- Video of a sender goes out on the SSRC of its base layer. -/
def VideoOnBaseLayer (client : Client externals) : Prop :=
  ∀ {sender forwarder},
    client.videoForwarderBySenderDemuxId.lookup sender = some forwarder →
      forwarder.outgoingSsrc = LayerId.video0.toSsrc sender

/-- The same client, with forwarders that were kept. -/
structure Kept (active : DemuxId → Prop) (before after : Client externals) :
    Prop where
  demuxId : after.demuxId = before.demuxId
  forwarders : ∀ kind sender, RenumberingKept (active sender)
    (before.renumberingOf kind sender) (after.renumberingOf kind sender)
  video : before.VideoOnBaseLayer → after.VideoOnBaseLayer

variable {active : DemuxId → Prop}

theorem Kept.refl (client : Client externals) : Kept active client client :=
  ⟨rfl, fun _ _ => .refl _, id⟩

theorem Kept.trans {first second third : Client externals}
    (one : Kept active first second) (two : Kept active second third) :
    Kept active first third where
  demuxId := two.demuxId.trans one.demuxId
  forwarders := fun kind sender =>
    (one.forwarders kind sender).trans (two.forwarders kind sender)
  video := two.video ∘ one.video

/-- A change outside of the three tables. -/
theorem kept_of_sameForwarders {before after : Client externals}
    (demuxId : after.demuxId = before.demuxId)
    (audio : after.audioForwarderBySenderDemuxId =
      before.audioForwarderBySenderDemuxId)
    (data : after.dataForwarderBySenderDemuxId =
      before.dataForwarderBySenderDemuxId)
    (video : after.videoForwarderBySenderDemuxId =
      before.videoForwarderBySenderDemuxId) : Kept active before after := by
  refine ⟨demuxId, ?_, ?_⟩
  · intro kind sender
    have same : after.renumberingOf kind sender =
        before.renumberingOf kind sender := by
      cases kind with
      | audio => simp [renumberingOf, audio]
      | data => simp [renumberingOf, data]
      | video => simp [renumberingOf, video]
    rw [same]
    exact .refl _
  · intro onBase sender forwarder found
    rw [video] at found
    exact onBase found

end Client

namespace Call

variable {active : DemuxId → Prop}

/-- Every client afterwards was there before. -/
def ListKept (active : DemuxId → Prop)
    (before after : List (Client externals)) : Prop :=
  ∀ client ∈ after, ∃ origin ∈ before, Client.Kept active origin client

theorem ListKept.trans {first second third : List (Client externals)}
    (one : ListKept active first second)
    (two : ListKept active second third) :
    ListKept active first third := by
  intro client member
  obtain ⟨middle, inMiddle, later⟩ := two client member
  obtain ⟨origin, inFirst, earlier⟩ := one middle inMiddle
  exact ⟨origin, inFirst, earlier.trans later⟩

theorem listKept_of_subset {before after : List (Client externals)}
    (included : after ⊆ before) : ListKept active before after :=
  fun client member => ⟨client, included member, .refl client⟩

theorem listKept_map {change : Client externals → Client externals}
    (kept : ∀ client, Client.Kept active client (change client))
    (clients : List (Client externals)) :
    ListKept active clients (clients.map change) := by
  intro client member
  obtain ⟨origin, inBefore, rfl⟩ := List.mem_map.mp member
  exact ⟨origin, inBefore, kept origin⟩

theorem listKept_modifyFirst {test : Client externals → Bool}
    {change : Client externals → Client externals}
    {clients : List (Client externals)}
    (kept : ∀ {client}, clients.find? test = some client →
      Client.Kept active client (change client)) :
    ListKept active clients (modifyFirst test change clients) := by
  intro client member
  rcases mem_modifyFirst member with old | ⟨origin, found, rfl⟩
  · exact ⟨client, old, .refl client⟩
  · exact ⟨origin, List.mem_of_find?_eq_some found, kept found⟩

/-! ## Allocation -/

/-- The senders that were allocated for have a forwarder, the other ones keep
theirs. -/
theorem retuneForwarders_kept (allocated : Table DemuxId AllocatedVideo)
    {senders : List DemuxId} (areActive : ∀ sender ∈ senders, active sender)
    (forwarders : Table DemuxId Vp8SimulcastRtpForwarder) (sender : DemuxId) :
    RenumberingKept (active sender)
      ((forwarders.lookup sender).map (·.renumbering))
      (((senders.foldl (retuneForwarder allocated) forwarders).lookup
        sender).map (·.renumbering)) := by
  induction senders generalizing forwarders with
  | nil => exact .refl _
  | cons first rest ih =>
      have laterActive : ∀ sender ∈ rest, active sender :=
        fun sender member => areActive sender (List.mem_cons_of_mem _ member)
      rw [List.foldl_cons]
      refine RenumberingKept.trans ?_ (ih laterActive _)
      unfold retuneForwarder
      by_cases same : sender = first
      · subst same
        rw [AList.lookup_insert]
        cases forwarders.lookup sender with
        | none => exact .created (areActive sender List.mem_cons_self)
        | some forwarder => exact .retuned (forwarder.setDesiredSsrc_renumbers _)
      · rw [AList.lookup_insert_ne same]
        exact .refl _

/-- What new forwarders have and a change of the desired stream keeps holds of
all forwarders after an allocation. -/
theorem retuneForwarders_all
    {Inv : DemuxId → Vp8SimulcastRtpForwarder → Prop}
    {allocated : Table DemuxId AllocatedVideo}
    (created : ∀ sender,
      Inv sender (.new (LayerId.video0.toSsrc sender)))
    (retuned : ∀ {sender forwarder}, Inv sender forwarder →
      Inv sender (forwarder.setDesiredSsrc
        (desiredIncomingSsrc allocated sender)))
    (senders : List DemuxId)
    {forwarders : Table DemuxId Vp8SimulcastRtpForwarder}
    (all : ∀ {sender forwarder}, forwarders.lookup sender = some forwarder →
      Inv sender forwarder) {sender : DemuxId}
    {forwarder : Vp8SimulcastRtpForwarder}
    (found : (senders.foldl (retuneForwarder allocated) forwarders).lookup
      sender = some forwarder) : Inv sender forwarder := by
  induction senders generalizing forwarders with
  | nil => exact all found
  | cons first rest ih =>
      rw [List.foldl_cons] at found
      refine ih ?_ found
      intro other tuned isTuned
      unfold retuneForwarder at isTuned
      by_cases same : other = first
      · subst same
        rw [AList.lookup_insert] at isTuned
        cases isTuned
        cases existing : forwarders.lookup other with
        | none => exact retuned (created other)
        | some known => exact retuned (all existing)
      · rw [AList.lookup_insert_ne same] at isTuned
        exact all isTuned

theorem retuneForwarders_onBaseLayer
    (allocated : Table DemuxId AllocatedVideo) (senders : List DemuxId)
    {forwarders : Table DemuxId Vp8SimulcastRtpForwarder}
    (onBase : ∀ {sender forwarder}, forwarders.lookup sender =
      some forwarder → forwarder.outgoingSsrc = LayerId.video0.toSsrc sender)
    {sender : DemuxId} {forwarder : Vp8SimulcastRtpForwarder}
    (found : (senders.foldl (retuneForwarder allocated) forwarders).lookup
      sender = some forwarder) :
    forwarder.outgoingSsrc = LayerId.video0.toSsrc sender := by
  refine @retuneForwarders_all
    (fun sender forwarder =>
      forwarder.outgoingSsrc = LayerId.video0.toSsrc sender)
    allocated (fun _ => rfl) ?_ senders _ onBase _ _ found
  intro other known isOnBase
  rw [Vp8SimulcastRtpForwarder.outgoingSsrc_setDesiredSsrc]
  exact isOnBase

theorem kept_allocatedReceiver (receiver : Client externals)
    {videos : List AllocatableVideo} (target minTarget : DataRate)
    (now : Instant)
    (areActive : ∀ video ∈ videos, active video.senderDemuxId) :
    Client.Kept active receiver
      (allocatedReceiver receiver videos target minTarget now) := by
  have sendersActive : ∀ sender ∈ videos.map (·.senderDemuxId),
      active sender := by
    intro sender member
    obtain ⟨video, inVideos, rfl⟩ := List.mem_map.mp member
    exact areActive video inVideos
  refine ⟨rfl, ?_, ?_⟩
  · intro kind sender
    cases kind with
    | audio => exact .refl _
    | data => exact .refl _
    | video => exact retuneForwarders_kept _ sendersActive _ sender
  · intro onBase sender forwarder found
    exact retuneForwarders_onBaseLayer _ _ onBase found

theorem listKept_allocateVideoLayers (call : Call externals)
    (receiver : DemuxId) (target minTarget : DataRate) (now : Instant)
    (areActive : ∀ client ∈ call.clients, active client.demuxId) :
    ListKept active call.clients
      (call.allocateVideoLayers receiver target minTarget now).clients := by
  apply listKept_modifyFirst
  intro client _
  apply kept_allocatedReceiver
  intro video member
  obtain ⟨sender, isOther, rfl⟩ := List.mem_map.mp member
  exact areActive sender (List.mem_of_mem_filter isOther)

theorem ListKept.stillActive {before after : List (Client externals)}
    (kept : ListKept active before after)
    (areActive : ∀ client ∈ before, active client.demuxId) :
    ∀ client ∈ after, active client.demuxId := by
  intro client member
  obtain ⟨origin, inBefore, sameClient⟩ := kept client member
  rw [sameClient.demuxId]
  exact areActive origin inBefore

theorem listKept_allocateForReceivers (receivers : List (Client externals))
    (now : Instant) (call : Call externals)
    (areActive : ∀ client ∈ call.clients, active client.demuxId) :
    ListKept active call.clients
      (call.allocateForReceivers receivers now).clients := by
  unfold allocateForReceivers
  induction receivers generalizing call with
  | nil => exact listKept_of_subset (fun _ member => member)
  | cons receiver rest ih =>
      have first := call.listKept_allocateVideoLayers receiver.demuxId
        receiver.targetSendRate receiver.minTargetSendRate now areActive
      exact first.trans (ih _ (first.stillActive areActive))

/-! ## Membership -/

theorem kept_setPaddingSsrc (ssrc : Option Ssrc) (client : Client externals) :
    Client.Kept active client (setPaddingSsrc ssrc client) :=
  Client.kept_of_sameForwarders rfl rfl rfl rfl

theorem listKept_updatePaddingSsrcs (call : Call externals) :
    ListKept active call.clients call.updatePaddingSsrcs.clients := by
  unfold updatePaddingSsrcs
  dsimp only
  cases call.clients with
  | nil => exact listKept_of_subset (fun _ member => member)
  | cons first others =>
      cases others with
      | nil => exact listKept_map (kept_setPaddingSsrc none) [first]
      | cons second rest =>
          intro client member
          rcases List.mem_cons.mp member with rfl | member
          · exact ⟨first, List.mem_cons_self, kept_setPaddingSsrc _ _⟩
          · rcases List.mem_cons.mp member with rfl | member
            · exact ⟨second, List.mem_cons_of_mem _ List.mem_cons_self,
                kept_setPaddingSsrc _ _⟩
            · obtain ⟨origin, inRest, rfl⟩ := List.mem_map.mp member
              exact ⟨origin, List.mem_cons_of_mem _
                (List.mem_cons_of_mem _ inRest), kept_setPaddingSsrc _ _⟩

theorem eraseAll_kept {F : Type} {removed : List DemuxId}
    (areGone : ∀ sender ∈ removed, ¬ active sender)
    (forwarders : Table DemuxId F) (view : F → Renumbering Ssrc)
    (sender : DemuxId) :
    RenumberingKept (active sender) ((forwarders.lookup sender).map view)
      (((Table.eraseAll removed forwarders).lookup sender).map view) := by
  rw [Table.lookup_eraseAll]
  split
  · rename_i isRemoved
    cases forwarders.lookup sender with
    | none => exact .absent
    | some forwarder => exact .dropped (areGone sender isRemoved)
  · exact .refl _

theorem kept_forgetSenders {removed : List DemuxId}
    (areGone : ∀ sender ∈ removed, ¬ active sender)
    (client : Client externals) :
    Client.Kept active client (forgetSenders removed client) := by
  refine ⟨rfl, ?_, ?_⟩
  · intro kind sender
    cases kind with
    | audio | data | video => exact eraseAll_kept areGone _ _ sender
  · intro onBase sender forwarder found
    unfold forgetSenders at found
    dsimp only at found
    rw [Table.lookup_eraseAll] at found
    split at found
    · cases found
    · exact onBase found

/-- After a removal the forwarders of the removed clients are dropped. -/
theorem listKept_updateForRemovedClients (call : Call externals)
    (removed : List DemuxId) (now : Instant)
    (areActive : ∀ client ∈ call.clients, active client.demuxId)
    (areGone : ∀ sender ∈ removed, ¬ active sender) :
    ListKept active call.clients
      (call.updateForRemovedClients removed now).clients := by
  unfold updateForRemovedClients
  refine ListKept.trans ?_ (listKept_map (kept_forgetSenders areGone) _)
  refine ListKept.trans ?_ (listKept_updatePaddingSsrcs _)
  exact listKept_allocateForReceivers call.clients now call areActive

end Call

end CallingService.Backend
