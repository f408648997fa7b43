import CallingService.Backend.Call.Operations

/-!
# What a call refers to

Forwarders, allocated heights and the times of key-frame requests are kept by
demux id or by SSRC.  They are about clients that are active, whichever way
the other ones have left.
-/

namespace CallingService.Backend

open Foundation Rtp

variable {externals : CallExternals}

namespace Client

variable {active : DemuxId → Prop} {client : Client externals}

theorem RefersTo.mono {more : DemuxId → Prop} (refers : client.RefersTo active)
    (included : ∀ demuxId, active demuxId → more demuxId) :
    client.RefersTo more := by
  have other : ∀ sender, client.Other active sender →
      client.Other more sender :=
    fun sender isOther => ⟨included sender isOther.1, isOther.2⟩
  exact ⟨fun sender member => other sender (refers.audio sender member),
    fun sender member => other sender (refers.video sender member),
    fun sender member => other sender (refers.data sender member),
    fun sender member => other sender (refers.heights sender member),
    refers.ownStreams⟩

theorem refersTo_new (pending : NonParticipantClient)
    (initialTargetSendRate requestedMaxSendRate : DataRate) (now : Instant) :
    (Client.new pending initialTargetSendRate requestedMaxSendRate now :
      Client externals).RefersTo active where
  audio := fun _ member => by cases member
  video := fun _ member => by cases member
  data := fun _ member => by cases member
  heights := fun _ member => by cases member
  ownStreams := fun _ _ found => by cases found

end Client

namespace Call

/-- Nothing is kept about a client that is not active. -/
structure Referential (call : Call externals) : Prop where
  clients : ∀ client ∈ call.clients, client.RefersTo call.IsActive
  requests : ∀ ssrc ∈ call.keyFrameRequestSentBySsrc,
    call.IsActive (DemuxId.fromSsrc ssrc)

variable {before after : Call externals}

theorem isActive_of_roster (sameRoster : after.roster = before.roster) :
    after.IsActive = before.IsActive := by
  funext demuxId
  apply propext
  rw [isActive_iff, isActive_iff, sameRoster]

theorem isActive_of_evolve {active : DemuxId → Prop}
    (evolve : ClientsEvolve active before.clients after.clients) :
    after.IsActive = before.IsActive := by
  have mem_ids : ∀ (call : Call externals) demuxId, call.IsActive demuxId ↔
      demuxId ∈ call.clients.map Client.demuxId :=
    fun _ _ => List.mem_map.symm
  funext demuxId
  apply propext
  rw [mem_ids, mem_ids, evolve.demuxIds]

variable {call : Call externals}

theorem isActive_client :
    ∀ client ∈ call.clients, call.IsActive client.demuxId :=
  fun client member => ⟨client, member, rfl⟩

theorem Referential.refer (referential : call.Referential) :
    ∀ client ∈ call.clients,
      call.IsActive client.demuxId ∧ client.RefersTo call.IsActive :=
  fun client member =>
    ⟨isActive_client client member, referential.clients client member⟩

theorem Referential.continues (referential : before.Referential)
    (continues : before.Continues after) :
    after.Referential := by
  have evolve := continues.clients isActive_client
  have refer := evolve.stillRefer referential.refer
  have sameActive := isActive_of_evolve evolve
  constructor
  · rw [sameActive]
    exact fun client member => (refer client member).2
  · intro ssrc member
    rw [sameActive]
    exact (continues.requests referential.refer ssrc member).elim
      (referential.requests ssrc) id

/-- Only the active clients and the requests count. -/
theorem Referential.of_same (referential : before.Referential)
    (sameClients : after.clients = before.clients)
    (sameRequests : after.keyFrameRequestSentBySsrc =
      before.keyFrameRequestSentBySsrc) : after.Referential := by
  have sameActive : after.IsActive = before.IsActive := by
    unfold IsActive
    rw [sameClients]
  constructor
  · rw [sameClients, sameActive]
    exact referential.clients
  · rw [sameRequests, sameActive]
    exact referential.requests

variable {client : Client externals}

theorem mem_updatePaddingSsrcs
    (member : client ∈ call.updatePaddingSsrcs.clients) :
    ∃ origin ∈ call.clients, ∃ ssrc, client = setPaddingSsrc ssrc origin := by
  unfold updatePaddingSsrcs at member
  dsimp only at member
  split at member
  · cases member
  · rename_i lonely alone
    rw [List.mem_singleton] at member
    rw [alone]
    exact ⟨lonely, List.mem_cons_self, none, member⟩
  · rename_i first second rest several
    rw [several]
    rcases List.mem_cons.mp member with isFirst | later
    · exact ⟨first, List.mem_cons_self, _, isFirst⟩
    · rcases List.mem_cons.mp later with isSecond | inRest
      · exact ⟨second, List.mem_cons_of_mem _ List.mem_cons_self, _, isSecond⟩
      · obtain ⟨origin, known, rfl⟩ := List.mem_map.mp inRest
        exact ⟨origin, List.mem_cons_of_mem _ (List.mem_cons_of_mem _ known),
          _, rfl⟩

theorem Referential.updatePaddingSsrcs (referential : call.Referential)
    : call.updatePaddingSsrcs.Referential := by
  have sameActive := isActive_of_roster call.roster_updatePaddingSsrcs
  constructor
  · intro client member
    rw [sameActive]
    obtain ⟨origin, known, ssrc, rfl⟩ := mem_updatePaddingSsrcs member
    obtain ⟨audio, video, data, heights, own⟩ := referential.clients origin known
    exact ⟨audio, video, data, heights, own⟩
  · rw [sameActive]
    exact referential.requests

/-! ## Joining -/

theorem Referential.pushClient (referential : call.Referential)
    (pending : NonParticipantClient) (now : Instant)
    : (call.pushClient pending now).Referential := by
  have included : ∀ demuxId, call.IsActive demuxId →
      (call.pushClient pending now).IsActive demuxId := by
    intro demuxId isActive
    obtain ⟨client, member, named⟩ := isActive
    exact ⟨client, List.mem_append_left _ member, named⟩
  constructor
  · intro client member
    rcases List.mem_append.mp member with old | added
    · exact (referential.clients client old).mono included
    · rw [List.mem_singleton] at added
      rw [added]
      exact Client.refersTo_new _ _ _ _
  · intro ssrc member
    exact included _ (referential.requests ssrc member)

theorem Referential.promoteClient (referential : call.Referential)
    (pending : NonParticipantClient) (now : Instant)
    : (call.promoteClient pending now).Referential := by
  have announced : (call.willAddOrRemoveClient now).Referential :=
    referential.of_same rfl rfl
  have pushed := announced.pushClient pending now
  have allocated := pushed.continues (continues_allocateVideoLayers _
    pending.demuxId call.initialTargetSendRate call.initialTargetSendRate now)
  exact allocated.updatePaddingSsrcs

theorem Referential.promoteAll (pending : List NonParticipantClient)
    (now : Instant) (referential : call.Referential) :
    (pending.foldl (fun promoted client => promoted.promoteClient client now)
      call).Referential := by
  induction pending generalizing call with
  | nil => exact referential
  | cons client rest ih => exact ih (referential.promoteClient client now)

theorem Referential.addClient (referential : call.Referential)
    (demuxId : DemuxId) (userId : UserId) (isAdmin : Bool)
    (regionRelation : RegionRelation) (now : Instant) :
    (call.addClient demuxId userId isAdmin regionRelation
      now).2.Referential := by
  unfold Call.addClient
  dsimp only
  split
  · exact referential.of_same rfl rfl
  · split
    · apply Referential.promoteClient
      split
      · exact referential.of_same rfl rfl
      · exact referential
    · exact referential.of_same rfl rfl

/-! ## Leaving -/

theorem unique_of_distinct {clients : List (Client externals)}
    (distinct : (clients.map Client.demuxId).Nodup) (demuxId : DemuxId) :
    clients.Pairwise fun first second =>
      decide (first.demuxId = demuxId) = true →
        decide (second.demuxId = demuxId) = false := by
  unfold List.Nodup at distinct
  rw [List.pairwise_map] at distinct
  apply distinct.imp
  intro first second differ isFirst
  rw [decide_eq_true_eq] at isFirst
  rw [decide_eq_false_iff_not]
  intro isSecond
  exact differ (isFirst.trans isSecond.symm)

theorem recordedHeights_are_active {active : DemuxId → Prop}
    (distinct : (call.clients.map Client.demuxId).Nodup) (receiver : DemuxId)
    (target minTarget : DataRate) (now : Instant)
    (areActive : ∀ client ∈ call.clients, active client.demuxId)
    (member : client ∈
      (call.allocateVideoLayers receiver target minTarget now).clients)
    (isReceiver : client.demuxId = receiver) :
    ∀ sender ∈ client.allocatedHeightBySenderDemuxId, active sender := by
  rcases mem_modifyFirst_of_unique (unique_of_distinct distinct receiver)
    member with ⟨_, another⟩ | ⟨origin, known, _, rfl⟩
  · rw [decide_eq_false_iff_not] at another
    exact absurd isReceiver another
  · intro sender isRecorded
    have senders : ∀ sender ∈ (call.allocatableVideos origin).map
        (·.senderDemuxId), active sender := by
      intro sender isSender
      obtain ⟨video, isVideo, rfl⟩ := List.mem_map.mp isSender
      obtain ⟨other, isOther, rfl⟩ := List.mem_map.mp isVideo
      exact areActive other (List.mem_of_mem_filter isOther)
    rcases recordHeights_grown _ senders ∅ sender isRecorded with old | isNew
    · cases old
    · exact isNew

/-- A reallocation forgets the heights of clients that are gone. -/
theorem heights_allocateForReceivers {active : DemuxId → Prop}
    (receivers : List (Client externals)) (now : Instant)
    (distinct : (call.clients.map Client.demuxId).Nodup)
    (areActive : ∀ client ∈ call.clients, active client.demuxId)
    (member : client ∈ (call.allocateForReceivers receivers now).clients)
    (isReceiver : client.demuxId ∈ receivers.map Client.demuxId) :
    ∀ sender ∈ client.allocatedHeightBySenderDemuxId, active sender := by
  induction receivers generalizing call with
  | nil => cases isReceiver
  | cons first rest ih =>
      have evolve := call.clientsEvolve_allocateVideoLayers first.demuxId
        first.targetSendRate first.minTargetSendRate now areActive
      have stillDistinct : ((call.allocateVideoLayers first.demuxId
          first.targetSendRate first.minTargetSendRate now).clients.map
            Client.demuxId).Nodup := by
        rw [evolve.demuxIds]
        exact distinct
      have stillActive := evolve.stillActive areActive
      by_cases later : client.demuxId ∈ rest.map Client.demuxId
      · exact ih stillDistinct stillActive member later
      · have isFirst : client.demuxId = first.demuxId :=
          (List.mem_cons.mp isReceiver).resolve_right later
        obtain ⟨origin, known, evolves⟩ :=
          (clientsEvolve_allocateForReceivers rest now _
            stillActive).exists_origin member
        intro sender isRecorded
        rcases evolves.heights sender isRecorded with old | isOther
        · exact recordedHeights_are_active distinct first.demuxId _ _ now
            areActive known (evolves.demuxId.symm.trans isFirst) sender old
        · exact isOther.1

/-- Before the sweep there may be entries of the removed clients. -/
theorem referential_updateForRemovedClients {removed : List DemuxId}
    (now : Instant) (distinct : (call.clients.map Client.demuxId).Nodup)
    (refer : ∀ client ∈ call.clients, client.RefersTo fun demuxId =>
      call.IsActive demuxId ∨ demuxId ∈ removed)
    (requests : ∀ ssrc ∈ call.keyFrameRequestSentBySsrc,
      call.IsActive (DemuxId.fromSsrc ssrc) ∨
        DemuxId.fromSsrc ssrc ∈ removed) :
    (call.updateForRemovedClients removed now).Referential := by
  have sameActive := isActive_of_roster
    (call.roster_updateForRemovedClients removed now)
  have reallocated := call.continues_allocateForReceivers call.clients now
  have evolve := reallocated.clients isActive_client
  have referStill := (reallocated.clients
    (fun client member => .inl (isActive_client client member))).stillRefer
      fun client member =>
        ⟨.inl (isActive_client client member), refer client member⟩
  constructor
  · intro client member
    rw [sameActive]
    obtain ⟨padded, isPadded, rfl⟩ := List.mem_map.mp member
    obtain ⟨origin, known, ssrc, rfl⟩ := mem_updatePaddingSsrcs isPadded
    obtain ⟨_, audio, video, data, heightsOther, own⟩ := referStill origin known
    have isReceiver : origin.demuxId ∈ call.clients.map Client.demuxId := by
      rw [← evolve.demuxIds]
      exact List.mem_map_of_mem known
    have heights := heights_allocateForReceivers call.clients now distinct
      isActive_client known isReceiver
    have swept : ∀ {F : Type} {forwarders : Table DemuxId F},
        (∀ sender ∈ forwarders, origin.Other
          (fun demuxId => call.IsActive demuxId ∨ demuxId ∈ removed) sender) →
        ∀ sender ∈ Table.eraseAll removed forwarders,
          origin.Other call.IsActive sender := by
      intro F forwarders others sender isLeft
      obtain ⟨wasThere, notRemoved⟩ := Table.mem_eraseAll.mp isLeft
      obtain ⟨isActive, differs⟩ := others sender wasThere
      exact ⟨isActive.resolve_right notRemoved, differs⟩
    refine ⟨swept audio, swept video, swept data, ?_, ?_⟩
    · intro sender isRecorded
      exact ⟨heights sender isRecorded, (heightsOther sender isRecorded).2⟩
    · intro sender forwarder found
      rw [show (forgetSenders removed (setPaddingSsrc ssrc
        origin)).videoForwarderBySenderDemuxId = Table.eraseAll removed
          origin.videoForwarderBySenderDemuxId from rfl,
        Table.lookup_eraseAll] at found
      split at found
      · cases found
      · exact own sender forwarder found
  · intro ssrc member
    rw [sameActive]
    obtain ⟨wasSent, notRemoved⟩ := Table.mem_retainKeys.mp member
    rw [decide_eq_true_eq] at notRemoved
    have known := reallocated.requests
      (fun client isClient =>
        ⟨.inl (isActive_client client isClient), refer client isClient⟩)
      ssrc wasSent
    rcases known with old | new
    · exact (requests ssrc old).resolve_right notRemoved
    · exact new.resolve_right notRemoved

/-- Who is active and not removed stays active. -/
theorem Referential.remove {removed : List DemuxId}
    (referential : call.Referential) (now : Instant)
    {remaining : List (Client externals)}
    {removedClients : List NonParticipantClient}
    (distinct : (remaining.map Client.demuxId).Nodup)
    (included : remaining ⊆ call.clients) (stays : ∀ client ∈ call.clients,
      client ∈ remaining ∨ client.demuxId ∈ removed) :
    ({ call.willAddOrRemoveClient now with
      clients := remaining
      removedClients := removedClients }.updateForRemovedClients removed
        now).Referential := by
  have split : ∀ demuxId, call.IsActive demuxId →
      (∃ client ∈ remaining, client.demuxId = demuxId) ∨ demuxId ∈ removed := by
    intro demuxId isActive
    obtain ⟨client, member, rfl⟩ := isActive
    exact (stays client member).imp (fun isLeft => ⟨client, isLeft, rfl⟩) id
  apply referential_updateForRemovedClients now distinct
  · intro client member
    exact (referential.clients client (included member)).mono split
  · intro ssrc member
    exact split _ (referential.requests ssrc member)

theorem Referential.removeClient {call remaining : Call externals}
    {demuxId : DemuxId} {now : Instant} (referential : call.Referential)
    (distinct : call.demuxIds.Nodup)
    (removed : call.removeClient demuxId now = some (client, remaining)) :
    remaining.Referential := by
  obtain ⟨index, position, rest⟩ := Option.bind_eq_some_iff.mp removed
  obtain ⟨_, _, returned⟩ := Option.bind_eq_some_iff.mp rest
  cases returned
  obtain ⟨found, _, isNamed, split⟩ := swapRemove_of_findIdx? position
  rw [decide_eq_true_eq] at isNamed
  apply referential.remove now
  · have ids := (split.map Client.demuxId).nodup_iff.mpr (nodup_clients distinct)
    rw [List.map_cons] at ids
    exact (List.nodup_cons.mp ids).2
  · exact fun _ => mem_of_mem_swapRemove
  · intro other member
    rcases List.mem_cons.mp (split.symm.subset member) with rfl | isLeft
    · right
      rw [isNamed]
      exact List.mem_singleton_self demuxId
    · exact .inl isLeft

theorem keyFrameRequests_lowerRaisedHand (call : Call externals)
    (demuxId : DemuxId) (now : Instant) :
    (call.lowerRaisedHand demuxId now).keyFrameRequestSentBySsrc =
      call.keyFrameRequestSentBySsrc := by
  rw [lowerRaisedHand_frame]

theorem keyFrameRequests_handleRaiseHand (call : Call externals)
    (now : Instant) (message : RaiseHand) (sender : DemuxId) :
    (call.handleRaiseHand now message sender).keyFrameRequestSentBySsrc =
      call.keyFrameRequestSentBySsrc := by
  rw [handleRaiseHand_frame]

theorem Referential.lowerRaisedHand (referential : call.Referential)
    (demuxId : DemuxId) (now : Instant) :
    (call.lowerRaisedHand demuxId now).Referential :=
  referential.of_same (clients_lowerRaisedHand call demuxId now)
    (keyFrameRequests_lowerRaisedHand call demuxId now)

theorem Referential.dropNonParticipant (referential : call.Referential)
    (demuxId : DemuxId) (now : Instant) :
    (call.dropNonParticipant demuxId now).Referential := by
  unfold Call.dropNonParticipant
  split
  · exact referential.of_same rfl rfl
  · split
    · exact referential.of_same rfl rfl
    · exact referential

theorem Referential.dropClient (referential : call.Referential)
    (distinct : call.demuxIds.Nodup) (demuxId : DemuxId) (now : Instant) :
    (call.dropClient demuxId now).Referential := by
  unfold Call.dropClient
  cases removed : call.removeClient demuxId now with
  | none =>
      exact (referential.dropNonParticipant demuxId now).lowerRaisedHand _ now
  | some pair =>
      obtain ⟨client, remaining⟩ := pair
      exact (referential.removeClient distinct removed).lowerRaisedHand _ now

theorem Referential.forceRemoveClient (referential : call.Referential)
    (distinct : call.demuxIds.Nodup) (target : DemuxId) (now : Instant) :
    (call.forceRemoveClient target now).Referential := by
  unfold Call.forceRemoveClient
  cases removed : call.removeClient target now with
  | none => exact referential
  | some pair =>
      obtain ⟨client, remaining⟩ := pair
      apply Referential.lowerRaisedHand
      exact (referential.removeClient distinct removed).of_same rfl rfl

theorem Referential.blockClient (referential : call.Referential)
    (distinct : call.demuxIds.Nodup) (target : DemuxId) (now : Instant) :
    (call.blockClient target now).Referential := by
  unfold Call.blockClient
  split
  · exact referential
  · rename_i client _
    have stays : ∀ other ∈ call.clients,
        other ∈ call.clients.filter (·.userId ≠ client.userId) ∨
          other.demuxId ∈ (call.clients.filter
            (·.userId = client.userId)).map Client.demuxId := by
      intro other member
      by_cases same : other.userId = client.userId
      · right
        apply List.mem_map_of_mem
        exact List.mem_filter.mpr ⟨member, by simpa using same⟩
      · exact .inl (List.mem_filter.mpr ⟨member, by simpa using same⟩)
    have updated := @Referential.remove _ call _ referential now
      (call.clients.filter (·.userId ≠ client.userId))
      (call.removedClients ++ (call.clients.filter
        (·.userId = client.userId)).map Client.toNonParticipant)
      ((List.filter_sublist.map Client.demuxId).nodup (nodup_clients distinct))
      (fun _ => List.mem_of_mem_filter) stays
    exact updated.of_same rfl rfl

theorem Referential.approvePendingClient (referential : call.Referential)
    (target : DemuxId) (now : Instant) :
    (call.approvePendingClient target now).Referential := by
  unfold Call.approvePendingClient
  split
  · exact referential
  · rename_i client _
    have drained : ({ call with
        pendingClients := call.pendingClients.filter
          (·.userId ≠ client.userId) } : Call externals).Referential :=
      referential.of_same rfl rfl
    have promoted := drained.promoteAll
      (call.pendingClients.filter (·.userId = client.userId)) now
    exact promoted.of_same rfl rfl

theorem Referential.denyPendingClient (referential : call.Referential)
    (target : DemuxId) (now : Instant) :
    (call.denyPendingClient target now).Referential := by
  unfold Call.denyPendingClient
  split
  · exact referential
  · exact referential.of_same rfl rfl

end Call

theorem operationInvariant_referential :
    OperationInvariant fun call : Call externals =>
      call.demuxIds.Nodup ∧ call.Referential where
  continues := fun holds continues =>
    ⟨operationInvariant_nodup.continues holds.1 continues,
      holds.2.continues continues⟩
  addClient := fun holds unused userId isAdmin regionRelation now =>
    ⟨operationInvariant_nodup.addClient holds.1 unused userId isAdmin
        regionRelation now,
      holds.2.addClient _ userId isAdmin regionRelation now⟩
  dropClient := fun holds demuxId now =>
    ⟨operationInvariant_nodup.dropClient holds.1 demuxId now,
      holds.2.dropClient holds.1 demuxId now⟩
  approvePendingClient := fun holds target now =>
    ⟨operationInvariant_nodup.approvePendingClient holds.1 target now,
      holds.2.approvePendingClient target now⟩
  denyPendingClient := fun holds target now =>
    ⟨operationInvariant_nodup.denyPendingClient holds.1 target now,
      holds.2.denyPendingClient target now⟩
  forceRemoveClient := fun holds target now =>
    ⟨operationInvariant_nodup.forceRemoveClient holds.1 target now,
      holds.2.forceRemoveClient holds.1 target now⟩
  blockClient := fun holds target now =>
    ⟨operationInvariant_nodup.blockClient holds.1 target now,
      holds.2.blockClient holds.1 target now⟩
  handleRaiseHand := fun holds now message sender =>
    ⟨operationInvariant_nodup.handleRaiseHand holds.1 now message sender,
      holds.2.of_same (Call.clients_handleRaiseHand _ now message sender)
        (Call.keyFrameRequests_handleRaiseHand _ now message sender)⟩

theorem referential_of_isNewCall (start : Call externals)
    (isNew : IsNewCall start) : start.Referential := by
  obtain ⟨_, _, _, _, _, _, _, _, _, _, rfl⟩ := isNew
  constructor
  · intro client member
    cases member
  · intro ssrc member
    cases member

/-- Between two operations of a call nothing refers to a client that has left,
has been removed or has been blocked. -/
theorem nothing_refers_to_inactive_clients
    {messaging : ServerMessaging externals} {start finish : Call externals}
    {operations : List (CallOperation externals)}
    (driven : DrivenRun messaging start operations finish) :
    (∀ receiver ∈ finish.clients, ∀ sender,
      sender ∈ receiver.audioForwarderBySenderDemuxId ∨
        sender ∈ receiver.videoForwarderBySenderDemuxId ∨
        sender ∈ receiver.dataForwarderBySenderDemuxId ∨
        sender ∈ receiver.allocatedHeightBySenderDemuxId →
      finish.IsActive sender ∧ sender ≠ receiver.demuxId) ∧
    ∀ ssrc ∈ finish.keyFrameRequestSentBySsrc,
      finish.IsActive (DemuxId.fromSsrc ssrc) := by
  have referential := (operationInvariant_referential.of_run
    (fun start isNew => ⟨nodup_of_isNewCall start isNew,
      referential_of_isNewCall start isNew⟩) driven).2
  constructor
  · intro receiver isReceiver sender isKey
    have refers := referential.clients receiver isReceiver
    rcases isKey with audio | video | data | height
    · exact refers.audio sender audio
    · exact refers.video sender video
    · exact refers.data sender data
    · exact refers.heights sender height
  · exact referential.requests

/-- The one who came second receives the video of the first one. -/
theorem nothing_refers_to_inactive_clients_pair :
    (∃ receiver ∈ pairedCall.clients,
      DemuxId.fromSsrc 80 ∈ receiver.videoForwarderBySenderDemuxId) ∧
    ∀ receiver ∈ pairedCall.clients, ∀ sender,
      sender ∈ receiver.videoForwarderBySenderDemuxId →
        pairedCall.IsActive sender ∧ sender ≠ receiver.demuxId := by
  constructor
  · have forwarded : pairedCall.clients.any (fun receiver =>
        (receiver.videoForwarderBySenderDemuxId.lookup
          (DemuxId.fromSsrc 80)).isSome) = true := by decide +kernel
    obtain ⟨receiver, isReceiver, known⟩ := List.any_eq_true.mp forwarded
    exact ⟨receiver, isReceiver, AList.lookup_isSome.mp known⟩
  · intro receiver isReceiver sender isKey
    exact (nothing_refers_to_inactive_clients drivenRun_pairedCall).1 receiver
      isReceiver sender (.inr (.inl isKey))

end CallingService.Backend
