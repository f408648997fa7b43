import CallingService.Backend.Call.ActiveSpeaker
import CallingService.Backend.Call.DataSeqnums
import CallingService.Backend.Call.MembershipTimes
import CallingService.Backend.Call.References

/-!
# The time between two key-frame requests

Two places of a call ask for key frames.  One of them looks up when it asked
for the stream last, and keeps that time until the sender has left.  The other
one asks for the layers of a new active speaker without looking.
-/

namespace CallingService.Backend

open Foundation Rtp

variable {externals : CallExternals}

/-! ## A new active speaker -/

theorem VideoHeight.lt_max {height first second : VideoHeight} :
    height < max first second ↔ height < first ∨ height < second := by
  change height < (if first ≤ second then second else first) ↔ _
  simp only [UInt16.le_iff_toNat_le, UInt16.lt_iff_toNat_lt]
  split
  · omega
  · omega

theorem VideoHeight.lt_foldl_max {height start : VideoHeight}
    {heights : List VideoHeight} :
    height < heights.foldl max start ↔
      height < start ∨ ∃ other ∈ heights, height < other := by
  induction heights generalizing start with
  | nil => simp
  | cons first rest ih =>
      rw [List.foldl_cons, ih, VideoHeight.lt_max, or_assoc]
      simp

namespace Call

/-- The stream is one of the higher layers of the new active speaker, which
somebody wants. -/
def AsksOfSpeaker (call : Call externals)
    (newActiveSpeaker : Option DemuxId) (ssrc : Ssrc) : Prop :=
  ∃ speakerId speaker height, newActiveSpeaker = some speakerId ∧
    call.findClient speakerId = some speaker ∧
    (speaker.incomingVideo LayerId.baseLayerIndex).height = some height ∧
    (∃ other ∈ call.clients, other.demuxId ≠ speakerId ∧
      height < other.activeSpeakerHeight) ∧
    (ssrc = LayerId.video1.toSsrc speakerId ∨
      ssrc = LayerId.video2.toSsrc speakerId)

/-- At a tick at this time, the request does not look at the table. -/
def AsksWithoutLooking (call : Call externals) (now : Instant)
    (ssrc : Ssrc) : Prop :=
  call.AsksOfSpeaker (call.newActiveSpeaker now) ssrc

theorem mem_activeSpeakerKeyFrameRequests {call : Call externals}
    {newActiveSpeaker : Option DemuxId} {requests : List (DemuxId × Ssrc)}
    {ssrc : Ssrc}
    (requested : call.activeSpeakerKeyFrameRequests newActiveSpeaker =
      .ok requests) :
    ssrc ∈ requests.map Prod.snd ↔
      call.AsksOfSpeaker newActiveSpeaker ssrc := by
  unfold AsksOfSpeaker
  cases newActiveSpeaker with
  | none =>
      cases requested
      simp
  | some speakerId =>
      obtain ⟨speaker, found, rest⟩ := bind_eq_ok_iff.mp requested
      have isSpeaker := okOr_eq_ok_iff.mp found
      have wanted : ∀ height : VideoHeight, height <
          ((call.clients.filter (·.demuxId ≠ speakerId)).map
            (·.activeSpeakerHeight)).foldl max 0 ↔
          ∃ other ∈ call.clients, other.demuxId ≠ speakerId ∧
            height < other.activeSpeakerHeight := by
        intro height
        rw [VideoHeight.lt_foldl_max]
        simp [and_assoc]
      cases base : (speaker.incomingVideo LayerId.baseLayerIndex).height with
      | none =>
          rw [base] at rest
          cases rest
          simp [isSpeaker, base]
      | some height =>
          rw [base] at rest
          dsimp only at rest
          split at rest
          · rename_i lower
            cases rest
            have others := (wanted height).mp lower
            simp [isSpeaker, base, others]
          · rename_i notLower
            cases rest
            have others := mt (wanted height).mpr notLower
            simp [isSpeaker, base, others]

theorem asksOfSpeaker_of_views {call after : Call externals}
    {newActiveSpeaker : Option DemuxId} {ssrc : Ssrc}
    (same : after.speakerViews = call.speakerViews)
    (asks : after.AsksOfSpeaker newActiveSpeaker ssrc) :
    call.AsksOfSpeaker newActiveSpeaker ssrc := by
  obtain ⟨speakerId, speaker, height, isNew, found, base, others, stream⟩ :=
    asks
  have findView : ∀ call : Call externals,
      (call.findClient speakerId).map Client.speakerView =
        call.speakerViews.find? (·.demuxId = speakerId) := by
    intro call
    unfold speakerViews
    rw [List.find?_map]
    rfl
  have sameFound := findView after
  rw [same, ← findView call, found] at sameFound
  obtain ⟨known, isKnown, sameView⟩ := Option.map_eq_some_iff.mp sameFound.symm
  obtain ⟨other, isOther, different, higher⟩ := others
  have inViews : other.speakerView ∈ call.speakerViews :=
    same ▸ List.mem_map_of_mem isOther
  obtain ⟨sameOther, isSameOther, otherView⟩ := List.mem_map.mp inViews
  refine ⟨speakerId, known, height, isNew, isKnown, ?_,
    ⟨sameOther, isSameOther, ?_, ?_⟩, stream⟩
  · exact (congrArg SpeakerView.baseLayerHeight sameView).trans base
  · exact fun named => different
      ((congrArg SpeakerView.demuxId otherView).symm.trans named)
  · have sameHeight : sameOther.activeSpeakerHeight =
        other.activeSpeakerHeight :=
      congrArg SpeakerView.activeSpeakerHeight otherView
    rw [sameHeight]
    exact higher

end Call

namespace Roster

/-- Clients are approved and leave; nobody comes in. -/
structure Fewer (before after : Roster) : Prop where
  active : ∀ client ∈ after.active,
    client ∈ before.active ∨ client ∈ before.pending
  pending : after.pending ⊆ before.pending

theorem Fewer.of_subset {before after : Roster}
    (active : after.active ⊆ before.active)
    (pending : after.pending ⊆ before.pending) : before.Fewer after :=
  ⟨fun _ member => .inl (active member), pending⟩

theorem Fewer.refl (roster : Roster) : roster.Fewer roster :=
  .of_subset (List.Subset.refl _) (List.Subset.refl _)

theorem Left.fewer {before after : Roster} {demuxId : DemuxId}
    (left : before.Left demuxId after) : before.Fewer after := by
  cases left with
  | unknown => exact .refl before
  | fromActive named split =>
      exact .of_subset
        (fun _ member => split.symm.subset (List.mem_cons_of_mem _ member))
        (List.Subset.refl _)
  | fromPending named split =>
      exact .of_subset (List.Subset.refl _)
        fun _ member => split.symm.subset (List.mem_cons_of_mem _ member)
  | fromRemoved named split =>
      exact .of_subset (List.Subset.refl _) (List.Subset.refl _)

theorem Acted.fewer {before after : Roster} {action : AdminAction}
    (acted : before.Acted action after) : before.Fewer after := by
  cases acted with
  | ignored => exact .refl before
  | approved found =>
      refine ⟨?_, fun _ => List.mem_of_mem_filter⟩
      intro client member
      exact (List.mem_append.mp member).imp id List.mem_of_mem_filter
  | denied found =>
      exact .of_subset (List.Subset.refl _) fun _ => List.mem_of_mem_filter
  | removed named split =>
      exact .of_subset
        (fun _ member => split.symm.subset (List.mem_cons_of_mem _ member))
        (List.Subset.refl _)
  | blocked found =>
      exact .of_subset (fun _ => List.mem_of_mem_filter)
        (List.Subset.refl _)

end Roster

namespace Call

def IsPending (call : Call externals) (demuxId : DemuxId) : Prop :=
  ∃ client ∈ call.pendingClients, client.demuxId = demuxId

theorem isActive_of_counted {before after : Call externals}
    (counted : ListCounted before.roster.active after.roster.active) :
    after.IsActive = before.IsActive := by
  have ids := @Roster.map_counted _ NonParticipantClient.demuxId
    (fun _ _ => rfl) _ _ counted
  funext demuxId
  apply propext
  rw [isActive_iff, isActive_iff, ← List.mem_map, ids, List.mem_map]

theorem isPending_of_counted {before after : Call externals}
    (counted : ListCounted before.roster.pending after.roster.pending) :
    after.IsPending = before.IsPending := by
  have ids := @Roster.map_counted _ NonParticipantClient.demuxId
    (fun _ _ => rfl) _ _ counted
  funext demuxId
  apply propext
  change (∃ client ∈ after.roster.pending, client.demuxId = demuxId) ↔
    ∃ client ∈ before.roster.pending, client.demuxId = demuxId
  rw [← List.mem_map, ids, List.mem_map]

theorem not_isPending_of_isActive {call : Call externals} {demuxId : DemuxId}
    (distinct : call.demuxIds.Nodup) (isActive : call.IsActive demuxId) :
    ¬ call.IsPending demuxId := by
  rintro ⟨pending, isPending, isNamed⟩
  obtain ⟨client, isClient, rfl⟩ := isActive_iff.mp isActive
  unfold demuxIds Roster.demuxIds Roster.members Roster.participants
    at distinct
  rw [List.map_append, List.map_append] at distinct
  have disjoint := List.disjoint_of_nodup_append
    (List.Nodup.of_append_left distinct)
  exact disjoint (List.mem_map_of_mem isClient)
    (isNamed ▸ List.mem_map_of_mem isPending)

/-- The sender is active and the time of a request is remembered, or the
sender has left. -/
def RemembersRequest (ssrc : Ssrc) (time : Instant) (call : Call externals) :
    Prop :=
  (call.IsActive (DemuxId.fromSsrc ssrc) ∧ ∃ sent,
    call.keyFrameRequestSentBySsrc.lookup ssrc = some sent ∧ time ≤ sent) ∨
  (¬ call.IsActive (DemuxId.fromSsrc ssrc) ∧
    ¬ call.IsPending (DemuxId.fromSsrc ssrc))

theorem RemembersRequest.of_fewer {before after : Call externals}
    {ssrc : Ssrc} {time : Instant}
    (remembers : before.RemembersRequest ssrc time)
    (distinct : before.demuxIds.Nodup)
    (fewer : before.roster.Fewer after.roster)
    (kept : after.IsActive (DemuxId.fromSsrc ssrc) →
      after.keyFrameRequestSentBySsrc.lookup ssrc =
        before.keyFrameRequestSentBySsrc.lookup ssrc) :
    after.RemembersRequest ssrc time := by
  have stillPending : after.IsPending (DemuxId.fromSsrc ssrc) →
      before.IsPending (DemuxId.fromSsrc ssrc) := by
    rintro ⟨client, isPending, isNamed⟩
    exact ⟨client, fewer.pending isPending, isNamed⟩
  by_cases isActive : after.IsActive (DemuxId.fromSsrc ssrc)
  · rcases remembers with ⟨_, sent, found, atLeast⟩ | ⟨notActive, notPending⟩
    · exact .inl ⟨isActive, sent, (kept isActive).trans found, atLeast⟩
    · obtain ⟨client, member, isNamed⟩ := isActive_iff.mp isActive
      rcases fewer.active client member with wasActive | wasPending
      · exact absurd (isActive_iff.mpr ⟨client, wasActive, isNamed⟩)
          notActive
      · exact absurd ⟨client, wasPending, isNamed⟩ notPending
  · refine .inr ⟨isActive, fun isPending => ?_⟩
    rcases remembers with ⟨wasActive, _⟩ | ⟨_, notPending⟩
    · exact not_isPending_of_isActive distinct wasActive
        (stillPending isPending)
    · exact notPending (stillPending isPending)

/-! ## Requests that look at the table -/

/-- The streams that are asked for at once, and the table before and after. -/
structure KeyFramesAsked (now : Instant) (ssrcs : List Ssrc)
    (before after : Table Ssrc Instant) : Prop where
  distinct : ssrcs.Nodup
  due : ∀ ssrc ∈ ssrcs, ∀ sent, before.lookup ssrc = some sent →
    sent + keyFrameRequestResendInterval ≤ now
  noted : ∀ ssrc ∈ ssrcs, after.lookup ssrc = some now
  others : ∀ ssrc, ssrc ∉ ssrcs → after.lookup ssrc = before.lookup ssrc

theorem keyFramesAsked_nothing (now : Instant) (table : Table Ssrc Instant) :
    KeyFramesAsked now [] table table where
  distinct := List.nodup_nil
  due := by simp
  noted := by simp
  others := fun _ _ => rfl

theorem keyFramesAsked_sendKeyFrameRequests (call : Call externals)
    (now : Instant) :
    KeyFramesAsked now
      ((call.sendKeyFrameRequestsIfItsBeenTooLong now).1.map Prod.snd)
      call.keyFrameRequestSentBySsrc
      (call.sendKeyFrameRequestsIfItsBeenTooLong
        now).2.keyFrameRequestSentBySsrc := by
  unfold sendKeyFrameRequestsIfItsBeenTooLong
  split
  · exact keyFramesAsked_nothing now _
  · dsimp only
    rw [List.map_map]
    have streams : ∀ ssrcs : List Ssrc, ssrcs.map (Prod.snd ∘ fun ssrc =>
        (DemuxId.fromSsrc ssrc, ssrc)) = ssrcs := List.map_id
    rw [streams]
    constructor
    · exact (List.nodup_dedup _).filter _
    · intro ssrc member sent found
      have isDue := (List.mem_filter.mp member).2
      unfold keyFrameRequestIsDue at isDue
      rw [found] at isDue
      dsimp only at isDue
      rw [Bool.and_eq_true, decide_eq_true_iff] at isDue
      exact isDue.1
    · intro ssrc member
      rw [Table.lookup_insertAll, if_pos member]
    · intro ssrc notAsked
      rw [Table.lookup_insertAll, if_neg notAsked]

/-! ## Messages -/

theorem not_isActive_of_removed {call : Call externals}
    {client : NonParticipantClient} (distinct : call.demuxIds.Nodup)
    (removed : client ∈ call.roster.removed) :
    ¬ call.IsActive client.demuxId := by
  intro isActive
  obtain ⟨other, isOther, sameId⟩ := isActive_iff.mp isActive
  unfold demuxIds Roster.demuxIds Roster.members Roster.participants
    at distinct
  rw [List.map_append] at distinct
  apply List.disjoint_of_nodup_append distinct _ (List.mem_map_of_mem removed)
  rw [← sameId]
  exact List.mem_map_of_mem (List.mem_append_left _ isOther)

theorem lookup_forget {ledger : Ledger} {removed : List DemuxId} {ssrc : Ssrc}
    (stays : DemuxId.fromSsrc ssrc ∉ removed) :
    (ledger.forget removed).keyFrameRequestSentBySsrc.lookup ssrc =
      ledger.keyFrameRequestSentBySsrc.lookup ssrc :=
  Table.lookup_retainKeys (decide_eq_true stays)

theorem lookup_removeClient {call remaining : Call externals}
    {demuxId : DemuxId} {now : Instant} {client : Client externals}
    {ssrc : Ssrc} (distinct : call.demuxIds.Nodup)
    (removed : call.removeClient demuxId now = some (client, remaining))
    (isActive : remaining.IsActive (DemuxId.fromSsrc ssrc)) :
    remaining.ledger.keyFrameRequestSentBySsrc.lookup ssrc =
      call.ledger.keyFrameRequestSentBySsrc.lookup ssrc := by
  have taken := call.roster_removeClient demuxId now
  rw [removed] at taken
  obtain ⟨named, split, _⟩ := Roster.takeActive_eq_some taken
  have activeIds :
      (call.roster.active.map NonParticipantClient.demuxId).Nodup := by
    change ((call.clients.map Client.toNonParticipant).map _).Nodup
    rw [List.map_map]
    exact nodup_clients distinct
  rw [ledger_removeClient removed]
  apply lookup_forget
  intro isRemoved
  have ids := (split.map NonParticipantClient.demuxId).nodup_iff.mpr activeIds
  rw [List.map_cons] at ids
  apply (List.nodup_cons.mp ids).1
  obtain ⟨other, isOther, isSender⟩ := isActive_iff.mp isActive
  rw [named, ← List.mem_singleton.mp isRemoved, ← isSender]
  exact List.mem_map_of_mem isOther

/-- Demux ids are distinct, and the request is remembered. -/
structure Spaced (ssrc : Ssrc) (time : Instant) (call : Call externals) :
    Prop where
  distinct : call.demuxIds.Nodup
  remembers : call.RemembersRequest ssrc time

namespace Spaced

variable {ssrc : Ssrc} {time : Instant} {before after : Call externals}

/-- Clients are moved by an admin. -/
theorem of_act (spaced : before.Spaced ssrc time) {action : AdminAction}
    (acted : after.roster = before.roster.act action)
    (kept : after.demuxIds.Nodup → after.IsActive (DemuxId.fromSsrc ssrc) →
      after.ledger.keyFrameRequestSentBySsrc.lookup ssrc =
        before.ledger.keyFrameRequestSentBySsrc.lookup ssrc) :
    after.Spaced ssrc time := by
  have distinct := nodup_of_act action spaced.distinct acted
  refine ⟨distinct, spaced.remembers.of_fewer spaced.distinct ?_
    (kept distinct)⟩
  rw [acted]
  exact (Roster.acted_act _ _).fewer

theorem of_same (spaced : before.Spaced ssrc time)
    (roster : after.roster = before.roster)
    (ledger : after.ledger = before.ledger) : after.Spaced ssrc time := by
  refine ⟨?_, spaced.remembers.of_fewer spaced.distinct ?_ fun _ => ?_⟩
  · unfold demuxIds
    rw [roster]
    exact spaced.distinct
  · rw [roster]
    exact .refl _
  · exact congrArg (fun ledger : Ledger =>
      ledger.keyFrameRequestSentBySsrc.lookup ssrc) ledger

theorem dropClient (spaced : before.Spaced ssrc time) (demuxId : DemuxId)
    (now : Instant) : (before.dropClient demuxId now).Spaced ssrc time := by
  have distinct := operationInvariant_nodup.dropClient spaced.distinct demuxId
    now
  refine ⟨distinct, spaced.remembers.of_fewer spaced.distinct ?_ ?_⟩
  · rw [roster_dropClient]
    exact (Roster.left_drop _ _).fewer
  · change _ → (before.dropClient demuxId
      now).ledger.keyFrameRequestSentBySsrc.lookup ssrc =
        before.ledger.keyFrameRequestSentBySsrc.lookup ssrc
    unfold Call.dropClient
    cases removed : before.removeClient demuxId now with
    | none =>
        intro _
        dsimp only
        rw [ledger_lowerRaisedHand, ledger_dropNonParticipant]
        split
        · rfl
        · rfl
    | some pair =>
        obtain ⟨client, remaining⟩ := pair
        dsimp only
        rw [isActive_of_roster (roster_lowerRaisedHand _ _ _)]
        intro isActive
        rw [ledger_lowerRaisedHand]
        exact lookup_removeClient spaced.distinct removed isActive

theorem forceRemoveClient (spaced : before.Spaced ssrc time)
    (target : DemuxId) (now : Instant) :
    (before.forceRemoveClient target now).Spaced ssrc time := by
  have roster := before.roster_forceRemoveClient target now
  apply @of_act _ _ _ _ _ spaced (.remove target) roster
  intro _
  unfold Call.forceRemoveClient
  cases removed : before.removeClient target now with
  | none => exact fun _ => rfl
  | some pair =>
      obtain ⟨client, remaining⟩ := pair
      dsimp only
      rw [isActive_of_roster (roster_lowerRaisedHand _ _ _)]
      intro isActive
      rw [ledger_lowerRaisedHand]
      have kept := lookup_removeClient spaced.distinct removed isActive
      exact kept

theorem blockClient (spaced : before.Spaced ssrc time) (target : DemuxId)
    (now : Instant) : (before.blockClient target now).Spaced ssrc time := by
  have roster := before.roster_blockClient target now
  apply @of_act _ _ _ _ _ spaced (.block target) roster
  intro distinct isActive
  cases found : before.findClient target with
  | none => simp [Call.blockClient, found]
  | some client =>
      rw [ledger_blockClient found]
      refine lookup_forget fun isRemoved => ?_
      obtain ⟨other, isOther, named⟩ := List.mem_map.mp isRemoved
      have inRoster : other.toNonParticipant ∈
          (before.blockClient target now).roster.removed := by
        rw [roster, Roster.block, findActive_roster, found]
        apply List.mem_append_right
        obtain ⟨member, sameUser⟩ := List.mem_filter.mp isOther
        exact List.mem_filter.mpr ⟨List.mem_map_of_mem member, sameUser⟩
      apply not_isActive_of_removed distinct inRoster
      rw [← named] at isActive
      exact isActive

theorem messageRelation (ssrc : Ssrc) (time now : Instant) :
    MessageRelation now fun before after : Call externals =>
      before.Spaced ssrc time → after.Spaced ssrc time where
  refl := fun _ => id
  trans := fun one two => two ∘ one
  handleVideoRequest := fun call sender request spaced =>
    spaced.of_same (call.roster_handleVideoRequest sender request now)
      (call.ledger_handleVideoRequest sender request now)
  setMrpStream := fun _ _ _ spaced =>
    spaced.of_same (roster_modifyClient fun _ => rfl) rfl
  approvePendingClient := by
    intro call target spaced
    have roster := call.roster_approvePendingClient target now
    apply @of_act _ _ _ _ _ spaced (.approve target) roster
    intro _ _
    rw [ledger_approvePendingClient]
    split
    · rfl
    · rfl
  denyPendingClient := by
    intro call target spaced
    have roster := call.roster_denyPendingClient target now
    apply @of_act _ _ _ _ _ spaced (.deny target) roster
    intro _ _
    rw [ledger_denyPendingClient]
    split
    · rfl
    · rfl
  forceRemoveClient := fun _ target spaced =>
    spaced.forceRemoveClient target now
  blockClient := fun _ target spaced => spaced.blockClient target now
  dropClient := fun _ demuxId spaced => spaced.dropClient demuxId now
  handleRaiseHand := fun call message sender spaced =>
    spaced.of_same (call.roster_handleRaiseHand now message sender)
      (call.ledger_handleRaiseHand now message sender)

/-- A client that stays active keeps its entry when another one joins. -/
theorem addClient (spaced : before.Spaced ssrc time)
    (isActive : before.IsActive (DemuxId.fromSsrc ssrc)) {demuxId : DemuxId}
    (unused : before.hasClient demuxId = false) (userId : UserId)
    (isAdmin : Bool) (regionRelation : RegionRelation) (now : Instant)
    (stillActive : (before.addClient demuxId userId isAdmin regionRelation
      now).2.IsActive (DemuxId.fromSsrc ssrc)) :
    (before.addClient demuxId userId isAdmin regionRelation now).2.Spaced ssrc
      time := by
  refine ⟨operationInvariant_nodup.addClient spaced.distinct unused userId
    isAdmin regionRelation now, .inl ⟨stillActive, ?_⟩⟩
  rcases spaced.remembers with ⟨_, sent, found, atLeast⟩ | ⟨notActive, _⟩
  · refine ⟨sent, ?_, atLeast⟩
    rw [← found]
    change (before.addClient demuxId userId isAdmin regionRelation
      now).2.ledger.keyFrameRequestSentBySsrc.lookup ssrc =
        before.ledger.keyFrameRequestSentBySsrc.lookup ssrc
    rw [ledger_addClient]
    split
    · rfl
    · rfl
  · exact absurd isActive notActive

/-- Nobody moves, and some streams are asked for. -/
theorem of_asked (spaced : before.Spaced ssrc time)
    (counted : before.roster.Counted after.roster) {now : Instant}
    {ssrcs : List Ssrc}
    (asked : KeyFramesAsked now ssrcs before.keyFrameRequestSentBySsrc
      after.keyFrameRequestSentBySsrc) : after.Spaced ssrc time := by
  have sameActive : after.IsActive = before.IsActive :=
    isActive_of_counted counted.active
  have samePending : after.IsPending = before.IsPending :=
    isPending_of_counted counted.pending
  constructor
  · unfold Call.demuxIds
    rw [counted.demuxIds]
    exact spaced.distinct
  · unfold RemembersRequest
    rw [sameActive, samePending]
    refine spaced.remembers.imp ?_ id
    rintro ⟨isActive, sent, found, atLeast⟩
    refine ⟨isActive, ?_⟩
    by_cases isAsked : ssrc ∈ ssrcs
    · have later := asked.due ssrc isAsked sent found
      exact ⟨now, asked.noted ssrc isAsked,
        Nat.le_trans (Nat.le_trans atLeast (Nat.le_add_right _ _)) later⟩
    · exact ⟨sent, (asked.others ssrc isAsked).trans found, atLeast⟩

end Spaced

end Call

/-! ## Operations -/

def CallOperation.requestedKeyFrames (before : Call externals) :
    CallOperation externals → List Ssrc
  | .handleKeyFrameRequests requester keyFrameRequests now =>
      (before.handleKeyFrameRequests requester keyFrameRequests now).1.map
        Prod.snd
  | .tick _ sent => sent.2.map Prod.snd
  | _ => []

/-- A tick does not ask for the stream without looking at the table. -/
def LooksFirst (ssrc : Ssrc) (before : Call externals) :
    CallOperation externals → Prop
  | .tick now _ => ¬ before.AsksWithoutLooking now ssrc
  | _ => True

/-- An operation asks for key frames or moves clients. -/
inductive RequestStep (ssrc : Ssrc) (before : Call externals)
    (operation : CallOperation externals) (after : Call externals) : Prop where
  | asks (now : Instant) (asked : List Ssrc) :
      before.roster.Counted after.roster →
      Call.KeyFramesAsked now asked before.keyFrameRequestSentBySsrc
        after.keyFrameRequestSentBySsrc →
      (operation.requestedKeyFrames before).count ssrc = asked.count ssrc →
      (operation.requestedKeyFrames before ≠ [] →
        operation.time = some now) →
      RequestStep ssrc before operation after
  | moves : operation.requestedKeyFrames before = [] →
      (∀ time, before.Spaced ssrc time →
        before.IsActive (DemuxId.fromSsrc ssrc) →
        after.IsActive (DemuxId.fromSsrc ssrc) → after.Spaced ssrc time) →
      RequestStep ssrc before operation after

variable {messaging : ServerMessaging externals}
variable {before after : Call externals} {ssrc : Ssrc}

theorem RequestStep.of_quiet {operation : CallOperation externals}
    (continues : before.Continues after)
    (ledger : after.ledger.keyFrameRequestSentBySsrc =
      before.ledger.keyFrameRequestSentBySsrc)
    (nothing : operation.requestedKeyFrames before = []) :
    RequestStep ssrc before operation after := by
  have same : after.keyFrameRequestSentBySsrc =
      before.keyFrameRequestSentBySsrc := ledger
  have asked := Call.keyFramesAsked_nothing 0 before.keyFrameRequestSentBySsrc
  refine .asks 0 [] continues.roster (same.symm ▸ asked) ?_ ?_
  · rw [nothing]
  · exact fun some => absurd nothing some

theorem keyFramesAsked_handleKeyFrameRequests (call : Call externals)
    (requester : DemuxId) (keyFrameRequests : List Ssrc) (now : Instant) :
    Call.KeyFramesAsked now
      ((call.handleKeyFrameRequests requester keyFrameRequests now).1.map
        Prod.snd)
      call.keyFrameRequestSentBySsrc
      (call.handleKeyFrameRequests requester keyFrameRequests
        now).2.keyFrameRequestSentBySsrc := by
  unfold Call.handleKeyFrameRequests
  split
  · exact Call.keyFramesAsked_nothing now _
  · exact (call.modifyClient requester _).keyFramesAsked_sendKeyFrameRequests
      now

theorem requests_of_prepareTick (call : Call externals) (now : Instant) :
    (call.prepareTick now).2.2.ledger.keyFrameRequestSentBySsrc =
      call.ledger.keyFrameRequestSentBySsrc := by
  rw [Call.ledger_prepareTick]
  unfold Ledger.noteUpdate Ledger.recalculate
  split
  · split
    · rfl
    · rfl
  · split
    · rfl
    · rfl

theorem speakerViews_sendKeyFrameRequests (call : Call externals)
    (now : Instant) :
    (call.sendKeyFrameRequestsIfItsBeenTooLong now).2.speakerViews =
      call.speakerViews := by
  unfold Call.sendKeyFrameRequestsIfItsBeenTooLong
  split
  · rfl
  · rfl

theorem requestStep_of_stages {requested : List (DemuxId × Ssrc) ×
      Call externals} {asking : Call externals} {now : Instant}
    {packets : List RtpToSend} {forSpeaker : List (DemuxId × Ssrc)}
    (asked : Call.KeyFramesAsked now (requested.1.map Prod.snd)
      asking.keyFrameRequestSentBySsrc requested.2.keyFrameRequestSentBySsrc)
    (counted : before.roster.Counted after.roster)
    (ledgerBefore : asking.ledger.keyFrameRequestSentBySsrc =
      before.ledger.keyFrameRequestSentBySsrc)
    (ledgerAfter : after.ledger = requested.2.ledger)
    (views : requested.2.speakerViews = before.speakerViews)
    (isForSpeaker : requested.2.activeSpeakerKeyFrameRequests
      (before.newActiveSpeaker now) = .ok forSpeaker)
    (looks : ¬ before.AsksWithoutLooking now ssrc) :
    RequestStep ssrc before (.tick now (packets, requested.1 ++ forSpeaker))
      after := by
  have tableBefore : asking.keyFrameRequestSentBySsrc =
      before.keyFrameRequestSentBySsrc := ledgerBefore
  have tableAfter : after.keyFrameRequestSentBySsrc =
      requested.2.keyFrameRequestSentBySsrc :=
    congrArg Ledger.keyFrameRequestSentBySsrc ledgerAfter
  rw [tableBefore, ← tableAfter] at asked
  have notForSpeaker : ssrc ∉ forSpeaker.map Prod.snd := by
    rw [Call.mem_activeSpeakerKeyFrameRequests isForSpeaker]
    exact fun asks => looks (Call.asksOfSpeaker_of_views views asks)
  refine .asks now _ counted asked ?_ fun _ => rfl
  change List.count ssrc (List.map Prod.snd (_ ++ forSpeaker)) = _
  rw [List.map_append, List.count_append,
    List.count_eq_zero.mpr notForSpeaker, Nat.add_zero]

theorem requestStep_of_tick {now : Instant}
    {sent : List RtpToSend × List (DemuxId × Ssrc)}
    (ticked : before.tick messaging now = .ok (sent, after))
    (looks : ¬ before.AsksWithoutLooking now ssrc) :
    RequestStep ssrc before (.tick now sent) after := by
  have continues := Call.continues_tick ticked
  obtain ⟨updated, one, rest⟩ := bind_eq_ok_iff.mp ticked
  obtain ⟨forSpeaker, isForSpeaker, rest⟩ := bind_eq_ok_iff.mp rest
  obtain ⟨streams, two, returned⟩ := bind_eq_ok_iff.mp rest
  cases returned
  rw [before.newActiveSpeaker_prepareTick] at isForSpeaker
  have asked := updated.2.keyFramesAsked_sendKeyFrameRequests now
  have views := speakerViews_sendKeyFrameRequests updated.2 now
  rw [Call.speakerViews_sendUpdates one, before.speakerViews_prepareTick]
    at views
  apply requestStep_of_stages asked continues.roster _
    (Call.ledger_sendMrpUpdates two) views isForSpeaker looks
  rw [Call.ledger_sendUpdates one, requests_of_prepareTick]

theorem requestStep_of_event {event : CallEvent externals}
    (unused : AddsUnused before event) (step : CallStep before event after) :
    RequestStep ssrc before (.event event) after := by
  cases event with
  | addClient demuxId userId isAdmin regionRelation now =>
      rw [show after = _ from step]
      exact .moves rfl fun time spaced isActive stillActive =>
        spaced.addClient isActive unused userId isAdmin regionRelation now
          stillActive
  | dropClient demuxId now =>
      rw [show after = _ from step]
      exact .moves rfl fun time spaced _ _ => spaced.dropClient demuxId now
  | handleDeviceToSfu proto sender now =>
      rw [show after = _ from step]
      exact .moves rfl fun time spaced _ _ =>
        (Call.Spaced.messageRelation ssrc time now).handleDeviceToSfu before
          proto sender spaced
  | handleMediaRtp sender incomingRtp now result =>
      exact .of_quiet (Call.continues_handleMediaRtp step)
        (congrArg Ledger.keyFrameRequestSentBySsrc
          (Call.ledger_handleMediaRtp step)) rfl
  | tickForwarding now =>
      rw [show after = _ from step]
      refine .of_quiet (before.continues_tickForwarding now) ?_ rfl
      rw [before.ledger_tickForwarding]
      unfold Ledger.recalculate
      split
      · rfl
      · rfl

theorem requestStep_of_step {operation : CallOperation externals}
    (unused : OperationAddsUnused before operation)
    (looks : LooksFirst ssrc before operation)
    (step : OperationStep messaging before operation after) :
    RequestStep ssrc before operation after := by
  cases operation with
  | event event => exact requestStep_of_event unused step
  | setTargetSendRate receiver newTargetSendRate now =>
      have continues := step.continues id
      rw [show after = _ from step] at continues ⊢
      exact .of_quiet continues (congrArg Ledger.keyFrameRequestSentBySsrc
        (before.ledger_setTargetSendRate receiver newTargetSendRate now)) rfl
  | setOutgoingQueueDrainRate receiver outgoingQueueDrainRate =>
      have continues := step.continues id
      rw [show after = _ from step] at continues ⊢
      exact .of_quiet continues rfl rfl
  | handleKeyFrameRequests requester keyFrameRequests now =>
      have continues := step.continues id
      rw [show after = _ from step] at continues ⊢
      exact .asks now _ continues.roster
        (keyFramesAsked_handleKeyFrameRequests before requester
          keyFrameRequests now) rfl fun _ => rfl
  | tick now sent => exact requestStep_of_tick step looks

namespace RequestStep

variable {operation : CallOperation externals}

theorem spaced (step : RequestStep ssrc before operation after)
    {time : Instant} (spaced : before.Spaced ssrc time)
    (isActive : before.IsActive (DemuxId.fromSsrc ssrc))
    (stillActive : after.IsActive (DemuxId.fromSsrc ssrc)) :
    after.Spaced ssrc time := by
  cases step with
  | asks now asked counted keyFrames _ _ =>
      exact spaced.of_asked counted keyFrames
  | moves _ keeps => exact keeps time spaced isActive stillActive

/-- The stream is not asked for twice at once. -/
theorem count_le_one (step : RequestStep ssrc before operation after) :
    (operation.requestedKeyFrames before).count ssrc ≤ 1 := by
  cases step with
  | asks now asked _ keyFrames sameCount _ =>
      rw [sameCount]
      exact List.nodup_iff_count_le_one.mp keyFrames.distinct ssrc
  | moves nothing _ =>
      rw [nothing]
      exact Nat.zero_le 1

theorem asked_of_requested (step : RequestStep ssrc before operation after)
    (requested : ssrc ∈ operation.requestedKeyFrames before) :
    ∃ now asked, operation.time = some now ∧ ssrc ∈ asked ∧
      Call.KeyFramesAsked now asked before.keyFrameRequestSentBySsrc
        after.keyFrameRequestSentBySsrc := by
  cases step with
  | asks now asked _ keyFrames sameCount timed =>
      refine ⟨now, asked, timed (List.ne_nil_of_mem requested), ?_, keyFrames⟩
      rw [← List.count_pos_iff, ← sameCount]
      exact List.count_pos_iff.mpr requested
  | moves nothing _ =>
      rw [nothing] at requested
      cases requested

end RequestStep

/-! ## Runs -/

/-- The caller adds unused demux ids, and no tick asks for the stream without
looking at the table. -/
def AsksOnce (ssrc : Ssrc) (before : Call externals)
    (operation : CallOperation externals) : Prop :=
  OperationAddsUnused before operation ∧ LooksFirst ssrc before operation

/-- A step after which the sender is active. -/
def OperationKeeping (messaging : ServerMessaging externals)
    (sender : DemuxId) (before : Call externals)
    (operation : CallOperation externals) (after : Call externals) : Prop :=
  OperationStep messaging before operation after ∧ after.IsActive sender

theorem spaced_of_run {operations : List (CallOperation externals)}
    {first last : Call externals} {time : Instant}
    (run : Run (Guarded (AsksOnce ssrc) (OperationKeeping messaging
      (DemuxId.fromSsrc ssrc))) first operations last)
    (spaced : first.Spaced ssrc time)
    (isActive : first.IsActive (DemuxId.fromSsrc ssrc)) :
    last.Spaced ssrc time ∧ last.IsActive (DemuxId.fromSsrc ssrc) := by
  apply run.invariant ⟨spaced, isActive⟩
  intro before operation after holds step
  obtain ⟨⟨unused, looks⟩, isStep, stillActive⟩ := step
  exact ⟨(requestStep_of_step unused looks isStep).spaced holds.1 holds.2
    stillActive, stillActive⟩

/-- Two requests for the same stream, of a sender that does not leave between
them. -/
theorem key_frame_requests_spaced {start before₁ after₁ before₂ after₂ :
      Call externals} {earlier between : List (CallOperation externals)}
    {first second : CallOperation externals} (isNew : IsNewCall start)
    (reached : Run (Guarded (AsksOnce ssrc) (OperationStep messaging)) start
      earlier before₁)
    (firstStep : Guarded (AsksOnce ssrc) (OperationStep messaging) before₁
      first after₁)
    (continued : Run (Guarded (AsksOnce ssrc) (OperationKeeping messaging
      (DemuxId.fromSsrc ssrc))) after₁ between before₂)
    (secondStep : Guarded (AsksOnce ssrc) (OperationStep messaging) before₂
      second after₂)
    (requested : ssrc ∈ first.requestedKeyFrames before₁)
    (requestedAgain : ssrc ∈ second.requestedKeyFrames before₂) :
    (first.requestedKeyFrames before₁).count ssrc = 1 ∧
    ∃ sent resent, first.time = some sent ∧ second.time = some resent ∧
      sent + keyFrameRequestResendInterval ≤ resent := by
  have keeps : ∀ {before after : Call externals}
      {operation : CallOperation externals},
      before.demuxIds.Nodup ∧ before.Referential →
      Guarded (AsksOnce ssrc) (OperationStep messaging) before operation
        after → after.demuxIds.Nodup ∧ after.Referential :=
    fun holds step =>
      operationInvariant_referential.operation holds step.1.1 step.2
  have holdsBefore := reached.invariant
    ⟨nodup_of_isNewCall start isNew, referential_of_isNewCall start isNew⟩ keeps
  obtain ⟨distinct, referential⟩ := keeps holdsBefore firstStep
  have isFirst := requestStep_of_step firstStep.1.1 firstStep.1.2 firstStep.2
  obtain ⟨sent, asked, timed, isAsked, keyFrames⟩ :=
    isFirst.asked_of_requested requested
  have noted := keyFrames.noted ssrc isAsked
  have isActive := referential.requests ssrc (Table.mem_of_lookup noted)
  have spaced : after₁.Spaced ssrc sent :=
    ⟨distinct, .inl ⟨isActive, sent, noted, Nat.le_refl sent⟩⟩
  obtain ⟨stillSpaced, stillActive⟩ := spaced_of_run continued spaced isActive
  have isSecond := requestStep_of_step secondStep.1.1 secondStep.1.2
    secondStep.2
  obtain ⟨resent, again, timedAgain, isAskedAgain, resends⟩ :=
    isSecond.asked_of_requested requestedAgain
  refine ⟨?_, sent, resent, timed, timedAgain, ?_⟩
  · exact Nat.le_antisymm isFirst.count_le_one (List.count_pos_iff.mpr requested)
  · rcases stillSpaced.remembers with ⟨_, latest, found, atLeast⟩ |
      ⟨notActive, _⟩
    · exact Nat.le_trans (Nat.add_le_add_right atLeast _)
        (resends.due ssrc isAskedAgain latest found)
    · exact absurd stillActive notActive

/-! ## Concrete runs -/

theorem looksFirst_of_nothing {call : Call externals} {now : Instant}
    {sent : List RtpToSend × List (DemuxId × Ssrc)}
    (nothing : call.activeSpeakerKeyFrameRequests
      (call.newActiveSpeaker now) = .ok []) :
    LooksFirst ssrc call (.tick now sent) := by
  change ¬ call.AsksOfSpeaker (call.newActiveSpeaker now) ssrc
  rw [← Call.mem_activeSpeakerKeyFrameRequests nothing]
  exact List.not_mem_nil

/-- The speaker wants 720 lines of the active speaker. -/
def videoWanted : DeviceToSfu :=
  { DeviceToSfu.default with videoRequest := some ⟨[], none, some 720⟩ }

def videoRequested : Call directExternals :=
  (conversation.handleDeviceToSfu videoWanted speaker 3).2

/-- A key frame that the listener sends. -/
def keyFrameOf (layer : LayerId) (height : VideoHeight) : Packet :=
  { Packet.withEmptyTag vp8PayloadType 1 0 (layer.toSsrc listener) none none
      [1, 2, 3] with
    dependencyDescriptor :=
      some (⟨true, some ⟨2 * height, height⟩, some 1⟩, ⟨0, 0⟩) }

def withBaseLayer (call : Call directExternals) (now : Instant) :
    Call directExternals :=
  (afterPacket call listener (keyFrameOf .video0 180) now).2

/-- Two layers of the listener have begun. -/
def withVideo (call : Call directExternals) (now : Instant) :
    Call directExternals :=
  (afterPacket (withBaseLayer call now) listener (keyFrameOf .video1 360)
    now).2

def beforeVideo : List (CallOperation directExternals) :=
  [.event (.addClient listener "alice" true .unknown 1),
    .event (.addClient speaker "bob" true .unknown 2),
    .event (.handleDeviceToSfu videoWanted speaker 3)]

def videoEvents (call : Call directExternals) (now : Instant) :
    List (CallOperation directExternals) :=
  [.event (.handleMediaRtp listener (keyFrameOf .video0 180) now
      (afterPacket call listener (keyFrameOf .video0 180) now).1),
    .event (.handleMediaRtp listener (keyFrameOf .video1 360) now
      (afterPacket (withBaseLayer call now) listener (keyFrameOf .video1 360)
        now).1)]

theorem run_videoRequested :
    Run (Guarded (AsksOnce ssrc) (OperationStep directMessaging))
      moderatedCall beforeVideo videoRequested := by
  have joins : Guarded (AsksOnce ssrc) (OperationStep directMessaging)
      moderatedCall (.event (.addClient listener "alice" true .unknown 1))
      (moderatedCall.addClient listener "alice" true .unknown 1).2 :=
    ⟨⟨rfl, trivial⟩, rfl⟩
  have joinsToo : Guarded (AsksOnce ssrc) (OperationStep directMessaging)
      (moderatedCall.addClient listener "alice" true .unknown 1).2
      (.event (.addClient speaker "bob" true .unknown 2)) conversation := by
    refine ⟨⟨?_, trivial⟩, rfl⟩
    change Call.hasClient _ speaker = false
    decide +kernel
  have requests : Guarded (AsksOnce ssrc) (OperationStep directMessaging)
      conversation (.event (.handleDeviceToSfu videoWanted speaker 3))
      videoRequested := ⟨⟨trivial, trivial⟩, rfl⟩
  exact .snoc (.snoc (.snoc .nil joins) joinsToo) requests

theorem run_withVideo {call : Call directExternals} {now : Instant}
    {operations : List (CallOperation directExternals)}
    (run : Run (Guarded (AsksOnce ssrc) (OperationStep directMessaging))
      moderatedCall operations call)
    (handled : (call.handleMediaRtp listener (keyFrameOf .video0 180)
      now).isOk = true)
    (handledToo : ((withBaseLayer call now).handleMediaRtp listener
      (keyFrameOf .video1 360) now).isOk = true) :
    Run (Guarded (AsksOnce ssrc) (OperationStep directMessaging))
      moderatedCall (operations ++ videoEvents call now)
      (withVideo call now) := by
  have base := callStep_afterPacket handled
  have higher := callStep_afterPacket handledToo
  apply run.append
  exact .snoc (.snoc .nil ⟨⟨trivial, trivial⟩, base⟩)
    ⟨⟨trivial, trivial⟩, higher⟩

/-- The listener is already the active speaker when its video begins. -/
def watchedCall : Call directExternals :=
  withVideo (afterTick videoRequested (fromMillis 400)) (fromMillis 400)

def watchingTick (now : Instant) (call : Call directExternals) :
    CallOperation directExternals :=
  .tick now (sentByTick call now)

theorem run_watchedCall :
    ∃ earlier, Run (Guarded (AsksOnce 20) (OperationStep directMessaging))
      moderatedCall earlier watchedCall := by
  have ticks : Guarded (AsksOnce 20) (OperationStep directMessaging)
      videoRequested (watchingTick (fromMillis 400) videoRequested)
      (afterTick videoRequested (fromMillis 400)) := by
    refine ⟨⟨trivial, looksFirst_of_nothing ?_⟩, tick_eq_ok ?_⟩
    · decide +kernel
    · decide +kernel
  refine ⟨_, run_withVideo (.snoc run_videoRequested ticks) ?_ ?_⟩
  · decide +kernel
  · decide +kernel

/-- Two ticks ask for the higher layer, 200 milliseconds apart. -/
theorem key_frame_requests_spaced_watched :
    ∃ sent resent,
      (watchingTick (fromMillis 1401) watchedCall).time = some sent ∧
      (watchingTick (fromMillis 1601) (afterTick watchedCall
        (fromMillis 1401))).time = some resent ∧
      sent + keyFrameRequestResendInterval ≤ resent := by
  obtain ⟨earlier, reached⟩ := run_watchedCall
  have first : Guarded (AsksOnce 20) (OperationStep directMessaging)
      watchedCall (watchingTick (fromMillis 1401) watchedCall)
      (afterTick watchedCall (fromMillis 1401)) := by
    refine ⟨⟨trivial, looksFirst_of_nothing ?_⟩, tick_eq_ok ?_⟩
    · decide +kernel
    · decide +kernel
  have second : Guarded (AsksOnce 20) (OperationStep directMessaging)
      (afterTick watchedCall (fromMillis 1401))
      (watchingTick (fromMillis 1601) (afterTick watchedCall
        (fromMillis 1401)))
      (afterTick (afterTick watchedCall (fromMillis 1401))
        (fromMillis 1601)) := by
    refine ⟨⟨trivial, looksFirst_of_nothing ?_⟩, tick_eq_ok ?_⟩
    · decide +kernel
    · decide +kernel
  refine (key_frame_requests_spaced isNewCall_moderatedCall reached first .nil
    second ?_ ?_).2
  · decide +kernel
  · decide +kernel

/-- Whatever the ticks ask for. -/
def RequestsSpaced (messaging : ServerMessaging externals) : Prop :=
  ∀ (ssrc : Ssrc) (start before₁ after₁ before₂ after₂ : Call externals)
      (earlier between : List (CallOperation externals))
      (first second : CallOperation externals),
    IsNewCall start →
    Run (Guarded OperationAddsUnused (OperationStep messaging)) start earlier
      before₁ →
    Guarded OperationAddsUnused (OperationStep messaging) before₁ first
      after₁ →
    Run (Guarded OperationAddsUnused (OperationKeeping messaging
      (DemuxId.fromSsrc ssrc))) after₁ between before₂ →
    Guarded OperationAddsUnused (OperationStep messaging) before₂ second
      after₂ →
    ((earlier ++ first :: between ++ [second]).filterMap
      CallOperation.time).Pairwise (· ≤ ·) →
    ssrc ∈ first.requestedKeyFrames before₁ →
    ssrc ∈ second.requestedKeyFrames before₂ →
    ∃ sent resent, first.time = some sent ∧ second.time = some resent ∧
      sent + keyFrameRequestResendInterval ≤ resent

/-- The video of the listener begins before it is the active speaker. -/
def startedCall : Call directExternals := withVideo videoRequested 4

/-- The tick that makes it the active speaker asks for its layers, and so does
another one 101 milliseconds later. -/
theorem key_frame_requested_soon_again : ¬ RequestsSpaced directMessaging := by
  intro spaced
  have reached : Run (Guarded OperationAddsUnused
      (OperationStep directMessaging)) moderatedCall
      (beforeVideo ++ videoEvents videoRequested 4) startedCall := by
    refine (@run_withVideo 20 _ 4 _ run_videoRequested ?_ ?_).mono
      fun step => ⟨step.1.1, step.2⟩
    · decide +kernel
    · decide +kernel
  have first : Guarded OperationAddsUnused (OperationStep directMessaging)
      startedCall (watchingTick (fromMillis 900) startedCall)
      (afterTick startedCall (fromMillis 900)) :=
    ⟨trivial, tick_eq_ok (by decide +kernel)⟩
  have second : Guarded OperationAddsUnused (OperationStep directMessaging)
      (afterTick startedCall (fromMillis 900))
      (watchingTick (fromMillis 1001) (afterTick startedCall
        (fromMillis 900)))
      (afterTick (afterTick startedCall (fromMillis 900))
        (fromMillis 1001)) :=
    ⟨trivial, tick_eq_ok (by decide +kernel)⟩
  have ordered : ((beforeVideo ++ videoEvents videoRequested 4 ++
      watchingTick (fromMillis 900) startedCall :: [] ++
      [watchingTick (fromMillis 1001) (afterTick startedCall
        (fromMillis 900))]).filterMap CallOperation.time).Pairwise
          (· ≤ ·) := by
    change List.Pairwise _ [1, 2, 3, 4, 4, fromMillis 900, fromMillis 1001]
    decide
  obtain ⟨sent, resent, isSent, isResent, apart⟩ := spaced 20 _ _ _ _ _ _ []
    _ _ isNewCall_moderatedCall reached first .nil second ordered
    (by decide +kernel) (by decide +kernel)
  cases isSent
  cases isResent
  revert apart
  decide

end CallingService.Backend
