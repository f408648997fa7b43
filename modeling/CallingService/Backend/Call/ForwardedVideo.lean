import CallingService.Backend.Call.CallRun
import CallingService.Backend.Call.Forwarders
import CallingService.Backend.Call.KeyFrames
import CallingService.Backend.Call.SimulcastSwitching
import CallingService.Backend.Call.VideoWrites

/-!
# Forwarded video

The ids of forwarded video are counted from the key frame at which the stream
was joined.  A packet has the ids of one kind, those of a VP8 header or the
frame number of a dependency descriptor, and they are rewritten if the key
frame had them too.
-/

namespace CallingService.Backend

open Foundation Rtp Vp8

/-! ## Which ids are sent -/

theorem Rebased.isSome_iff {incoming firstIncoming firstOutgoing outgoing :
      Option Nat} (known : firstOutgoing.isSome)
    (rebased : Rebased incoming firstIncoming firstOutgoing outgoing) :
    outgoing.isSome ↔ incoming.isSome ∧ firstIncoming.isSome := by
  obtain ⟨base, rfl⟩ := Option.isSome_iff_exists.mp known
  cases incoming with
  | none =>
      rw [show outgoing = none from rebased]
      simp
  | some number =>
      cases firstIncoming with
      | none =>
          rw [show outgoing = none from rebased]
          simp
      | some first =>
          rw [rebased.2]
          simp

namespace Vp8SimulcastRtpForwarder

/-- An invariant of all video forwarders: every id is known of what has been
sent, and of what has come in as far as the key frame had it. -/
structure KnowsIds (forwarder : Vp8SimulcastRtpForwarder) : Prop where
  sound : forwarder.Sound
  outgoing : ∀ stream, forwarder.forwarding = .forwarding stream →
    ∀ id, (stream.firstOutgoing.get id).isSome
  incoming : ∀ stream, forwarder.forwarding = .forwarding stream →
    ∀ id, (stream.maxIncoming.get id).isSome =
      (stream.firstIncoming.get id).isSome

theorem knowsIds_new (outgoingSsrc : Ssrc) : (new outgoingSsrc).KnowsIds where
  sound := sound_new outgoingSsrc
  outgoing := by
    intro stream current
    cases current
  incoming := by
    intro stream current
    cases current

theorem KnowsIds.continues {before after : Vp8SimulcastRtpForwarder}
    {stream later : Vp8Forwarding} (knows : before.KnowsIds)
    (sound : after.Sound) (current : before.forwarding = .forwarding stream)
    (continues : Continues stream later)
    (isLater : after.forwarding = .forwarding later) : after.KnowsIds where
  sound := sound
  outgoing := by
    intro other isOther
    rw [isLater] at isOther
    cases isOther
    rw [continues.firstOutgoing]
    exact knows.outgoing stream current
  incoming := by
    intro other isOther id
    rw [isLater] at isOther
    cases isOther
    rw [continues.firstIncoming, continues.present]
    exact knows.incoming stream current id

theorem Effect.knowsIds {before after : Vp8SimulcastRtpForwarder}
    {event : ForwarderEvent} (effect : Effect before event after)
    (knows : before.KnowsIds) : after.KnowsIds := by
  have sound := effect.sound knows.sound
  cases effect with
  | idle silent => exact knows
  | want other => exact ⟨sound, knows.outgoing, knows.incoming⟩
  | pause =>
      refine ⟨sound, ?_, ?_⟩
      · intro stream current
        cases current
      · intro stream current
        cases current
  | proceed silent current continues =>
      exact knows.continues sound current continues rfl
  | send current sameSsrc continues renumbered =>
      exact knows.continues sound current continues rfl
  | switch waiting isKeyFrame isNext sameSsrc firstIncoming firstOutgoing
      present =>
      refine ⟨sound, ?_, ?_⟩
      · intro stream current id
        cases current
        obtain ⟨largest, _, isFirst⟩ := get_nextFirst knows.sound isNext id
        rw [firstOutgoing, isFirst]
        rfl
      · intro stream current id
        cases current
        rw [present, firstIncoming]
        rfl

/-- The packet is the key frame at which the stream is joined, or the key
frame at which it was joined had the id. -/
def HasAnchor (forwarder : Vp8SimulcastRtpForwarder) (incomingRtp : Packet)
    (incomingVp8 : VideoHeader) (id : RewrittenId) : Prop :=
  (forwarder.switchingSsrc = some incomingRtp.ssrc ∧
    incomingVp8.isKeyFrame = true) ∨
  ∃ stream, forwarder.forwarding = .forwarding stream ∧
    (stream.firstIncoming.get id).isSome

/-- An id is sent if the packet and the key frame of the stream have it. -/
theorem Effect.isSome_sent {before after : Vp8SimulcastRtpForwarder}
    {incomingRtp : Packet} {incomingVp8 : VideoHeader} {outgoingSsrc : Ssrc}
    {outgoing : Vp8RewrittenIds} (knows : before.KnowsIds)
    (effect : Effect before (.forwardVp8Rtp incomingRtp incomingVp8
      (some (outgoingSsrc, outgoing))) after) (id : RewrittenId) :
    outgoingSsrc = before.outgoingSsrc ∧
    ((outgoing.get id).isSome ↔
      (incomingId incomingRtp incomingVp8 id).isSome ∧
        before.HasAnchor incomingRtp incomingVp8 id) := by
  cases effect with
  | idle silent => cases silent
  | proceed silent current continues => cases silent
  | @send _ _ stream later _ current sameSsrc continues renumbered =>
      refine ⟨rfl, ?_⟩
      have rebased := Vp8Forwarding.outgoing_rebased renumbered id
      rw [Rebased.isSome_iff (knows.outgoing stream current id) rebased,
        Vp8Forwarding.isSome_get_expand, Bool.and_eq_true,
        knows.incoming stream current id]
      constructor
      · rintro ⟨⟨present, _⟩, anchored⟩
        exact ⟨present, .inr ⟨stream, current, anchored⟩⟩
      · rintro ⟨present, ⟨waiting, _⟩ | ⟨other, isOther, anchored⟩⟩
        · have apart := knows.sound.apart _ waiting
          rw [forwardingSsrc_eq current, sameSsrc] at apart
          exact absurd rfl apart
        · rw [current] at isOther
          cases isOther
          exact ⟨⟨present, anchored⟩, anchored⟩
  | @switch _ _ first later waiting isKeyFrame isNext =>
      refine ⟨rfl, ?_⟩
      obtain ⟨largest, _, isFirst⟩ := get_nextFirst knows.sound isNext id
      rw [Vp8RewrittenIds.get_onlyPresent, isFirst]
      change Option.isSome ((incomingId incomingRtp incomingVp8 id).bind _) ↔ _
      constructor
      · intro present
        refine ⟨?_, .inl ⟨waiting, isKeyFrame⟩⟩
        cases known : incomingId incomingRtp incomingVp8 id with
        | none =>
            rw [known] at present
            cases present
        | some number => rfl
      · rintro ⟨present, _⟩
        obtain ⟨number, isNumber⟩ := Option.isSome_iff_exists.mp present
        rw [isNumber]
        rfl

/-- The key frame at which a stream was joined had the ids of the packet. -/
def SameKind (firstIncoming : Vp8RewrittenIds) : VideoHeader → Prop
  | .vp8 _ => firstIncoming.pictureId.isSome ∧ firstIncoming.tl0PicIdx.isSome
  | .dependencyDescriptor descriptor =>
      descriptor.truncatedFrameNumber.isSome ∧
        firstIncoming.frameNumber.isSome

/-- The packet starts a stream, or has the ids that the stream started
with. -/
def KeepsKind (forwarder : Vp8SimulcastRtpForwarder) (incomingRtp : Packet)
    (incomingVp8 : VideoHeader) : Prop :=
  (forwarder.switchingSsrc = some incomingRtp.ssrc ∧
    incomingVp8.isKeyFrame = true) ∨
  ∃ stream, forwarder.forwarding = .forwarding stream ∧
    SameKind stream.firstIncoming incomingVp8

end Vp8SimulcastRtpForwarder

variable {externals : CallExternals}

/-! ## Runs of a receiver -/

/-- What may happen to a receiver of video.  Everything else leaves its video
forwarders alone. -/
inductive ReceiverEvent (externals : CallExternals) where
  | allocateVideo (videos : List AllocatableVideo)
      (newTargetSendRate minTargetSendRate : DataRate) (now : Instant)
  | requestKeyFrame (ssrc : Ssrc)
  | forgetSenders (removed : List DemuxId)
  | forwardVideoRtp (video : ReceivedVideo externals)
      (outgoing : Option Packet)
  | other

namespace Client

def ReceiverStep (before : Client externals) (event : ReceiverEvent externals)
    (after : Client externals) : Prop :=
  match event with
  | .allocateVideo videos newTargetSendRate minTargetSendRate now =>
      after = Call.allocatedReceiver before videos newTargetSendRate
        minTargetSendRate now
  | .requestKeyFrame ssrc => after = before.requestKeyFrame ssrc
  | .forgetSenders removed => after = Call.forgetSenders removed before
  | .forwardVideoRtp video outgoing =>
      before.forwardVideoRtp video.incomingRtp (some video.incomingVp8) =
        .ok (after, outgoing)
  | .other => after.videoForwarderBySenderDemuxId =
      before.videoForwarderBySenderDemuxId

def ForwardersKnowIds (client : Client externals) : Prop :=
  ∀ {sender forwarder},
    client.videoForwarderBySenderDemuxId.lookup sender = some forwarder →
      forwarder.KnowsIds

/-- The forwarder of the sender of a packet and the ids that it gives it. -/
structure Rewrites (client : Client externals) (video : ReceivedVideo externals)
    (forwarder : Vp8SimulcastRtpForwarder) (outgoing : Vp8RewrittenIds) :
    Prop where
  known : client.videoForwarderBySenderDemuxId.lookup
    (DemuxId.fromSsrc video.incomingRtp.ssrc) = some forwarder
  sent : (forwarder.forwardVp8Rtp video.incomingRtp video.incomingVp8).2 =
    some (forwarder.outgoingSsrc, outgoing)

section Steps

variable {before after : Client externals}
  {video : ReceivedVideo externals}

theorem forwardVideoSsrc_known {forwarder : Vp8SimulcastRtpForwarder}
    {forwarded : Table DemuxId Vp8SimulcastRtpForwarder × Option Packet}
    {forwarders : Table DemuxId Vp8SimulcastRtpForwarder}
    {incomingRtp : Packet} {incomingVp8 : VideoHeader}
    (known : forwarders.lookup (DemuxId.fromSsrc incomingRtp.ssrc) =
      some forwarder)
    (succeeded : forwardVideoSsrc forwarders incomingRtp incomingVp8 =
      .ok forwarded) :
    forwarded.1 = forwarders.insert (DemuxId.fromSsrc incomingRtp.ssrc)
      (forwarder.forwardVp8Rtp incomingRtp incomingVp8).1 ∧
    ∀ outgoing, forwarded.2 = some outgoing → ∃ sent,
      (forwarder.forwardVp8Rtp incomingRtp incomingVp8).2 = some sent ∧
        rewriteVideo incomingRtp sent.1 sent.2 = .ok outgoing := by
  unfold forwardVideoSsrc at succeeded
  dsimp only at succeeded
  rw [known] at succeeded
  dsimp only at succeeded
  cases sent : (forwarder.forwardVp8Rtp incomingRtp incomingVp8).2 with
  | none =>
      rw [sent] at succeeded
      cases succeeded
      refine ⟨rfl, ?_⟩
      intro outgoing isOutgoing
      cases isOutgoing
  | some numbered =>
      rw [sent] at succeeded
      obtain ⟨rewritten, rewrote, returned⟩ := bind_eq_ok_iff.mp succeeded
      cases returned
      refine ⟨rfl, ?_⟩
      intro outgoing isOutgoing
      cases isOutgoing
      exact ⟨numbered, rfl, rewrote⟩

theorem effect_of_forwarded (video : ReceivedVideo externals)
    (forwarder : Vp8SimulcastRtpForwarder) :
    Vp8SimulcastRtpForwarder.Effect forwarder
      (.forwardVp8Rtp video.incomingRtp video.incomingVp8
        (forwarder.forwardVp8Rtp video.incomingRtp video.incomingVp8).2)
      (forwarder.forwardVp8Rtp video.incomingRtp video.incomingVp8).1 := by
  have step : Vp8SimulcastRtpForwarder.WellFormedStep forwarder
      (.forwardVp8Rtp video.incomingRtp video.incomingVp8
        (forwarder.forwardVp8Rtp video.incomingRtp video.incomingVp8).2)
      (forwarder.forwardVp8Rtp video.incomingRtp video.incomingVp8).1 :=
    ⟨video.wellFormed, rfl⟩
  exact step.effect

/-- A table with one forwarder replaced by one that knows its ids. -/
theorem knowIds_insert {forwarders : Table DemuxId Vp8SimulcastRtpForwarder}
    (know : ∀ {sender forwarder}, forwarders.lookup sender = some forwarder →
      forwarder.KnowsIds) {changed : DemuxId}
    {later : Vp8SimulcastRtpForwarder} (knows : later.KnowsIds)
    {sender : DemuxId} {forwarder : Vp8SimulcastRtpForwarder}
    (found : (forwarders.insert changed later).lookup sender =
      some forwarder) : forwarder.KnowsIds := by
  by_cases same : sender = changed
  · subst same
    rw [AList.lookup_insert] at found
    cases found
    exact knows
  · rw [AList.lookup_insert_ne same] at found
    exact know found

theorem ReceiverStep.knowIds {event : ReceiverEvent externals}
    (step : ReceiverStep before event after)
    (know : before.ForwardersKnowIds) : after.ForwardersKnowIds := by
  intro sender forwarder found
  cases event with
  | allocateVideo videos newTargetSendRate minTargetSendRate now =>
      rw [show after = _ from step] at found
      refine @Call.retuneForwarders_all (fun _ forwarder => forwarder.KnowsIds)
        _ (fun _ => Vp8SimulcastRtpForwarder.knowsIds_new _) ?_ _ _ know _ _
        found
      intro other known knows
      exact (Vp8SimulcastRtpForwarder.effect_setDesiredSsrc known _).knowsIds
        knows
  | requestKeyFrame ssrc =>
      rw [show after = _ from step] at found
      unfold requestKeyFrame at found
      dsimp only at found
      split at found
      · exact know found
      · rename_i known isKnown
        exact knowIds_insert know
          ((Vp8SimulcastRtpForwarder.effect_setNeedsKeyFrame known).knowsIds
            (know isKnown)) found
  | forgetSenders removed =>
      rw [show after = _ from step] at found
      unfold Call.forgetSenders at found
      dsimp only at found
      rw [Table.lookup_eraseAll] at found
      split at found
      · cases found
      · exact know found
  | forwardVideoRtp video outgoing =>
      obtain ⟨forwarded, moved, returned⟩ := bind_eq_ok_iff.mp step
      cases returned
      cases known : before.videoForwarderBySenderDemuxId.lookup
          (DemuxId.fromSsrc video.incomingRtp.ssrc) with
      | none =>
          unfold forwardVideoSsrc at moved
          dsimp only at moved
          rw [known] at moved
          cases moved
          exact know found
      | some current =>
          have inserted := (forwardVideoSsrc_known known moved).1
          dsimp only at found
          rw [inserted] at found
          exact knowIds_insert know
            ((effect_of_forwarded video current).knowsIds (know known)) found
  | other =>
      rw [show after.videoForwarderBySenderDemuxId = _ from step] at found
      exact know found

theorem knowIds_of_run {pending : NonParticipantClient}
    {initialTargetSendRate requestedMaxSendRate : DataRate} {start : Instant}
    {events : List (ReceiverEvent externals)} {finish : Client externals}
    (run : Run ReceiverStep (Client.new pending initialTargetSendRate
      requestedMaxSendRate start) events finish) :
    finish.ForwardersKnowIds := by
  apply @Run.invariant _ _ _ _ _ _ ForwardersKnowIds run
  · intro sender forwarder found
    cases found
  · intro before event after know step
    exact step.knowIds know

/-- What the forwarder of the sender makes of a packet. -/
theorem isSome_sent (knows : before.ForwardersKnowIds)
    {forwarder : Vp8SimulcastRtpForwarder} {sent : Ssrc × Vp8RewrittenIds}
    (known : before.videoForwarderBySenderDemuxId.lookup
      (DemuxId.fromSsrc video.incomingRtp.ssrc) = some forwarder)
    (isSent : (forwarder.forwardVp8Rtp video.incomingRtp
      video.incomingVp8).2 = some sent) (id : RewrittenId) :
    sent.1 = forwarder.outgoingSsrc ∧
    ((sent.2.get id).isSome ↔
      (incomingId video.incomingRtp video.incomingVp8 id).isSome ∧
        forwarder.HasAnchor video.incomingRtp video.incomingVp8 id) := by
  have effect := effect_of_forwarded video forwarder
  rw [isSent] at effect
  exact effect.isSome_sent (knows known) id

theorem onlyPresent_of_sent (knows : before.ForwardersKnowIds)
    {forwarder : Vp8SimulcastRtpForwarder} {sent : Ssrc × Vp8RewrittenIds}
    (known : before.videoForwarderBySenderDemuxId.lookup
      (DemuxId.fromSsrc video.incomingRtp.ssrc) = some forwarder)
    (isSent : (forwarder.forwardVp8Rtp video.incomingRtp
      video.incomingVp8).2 = some sent) :
    OnlyPresent video.incomingRtp video.incomingVp8 sent.2 := by
  intro id present
  exact ((isSome_sent knows known isSent id).2.mp present).1

/-- Forwarding a received packet does not panic. -/
theorem forwardVideoRtp_ok (knows : before.ForwardersKnowIds)
    (video : ReceivedVideo externals) :
    ∃ after outgoing, before.forwardVideoRtp video.incomingRtp
      (some video.incomingVp8) = .ok (after, outgoing) := by
  unfold forwardVideoRtp forwardVideoSsrc
  dsimp only
  cases known : before.videoForwarderBySenderDemuxId.lookup
      (DemuxId.fromSsrc video.incomingRtp.ssrc) with
  | none => exact ⟨_, _, rfl⟩
  | some forwarder =>
      dsimp only
      cases isSent : (forwarder.forwardVp8Rtp video.incomingRtp
          video.incomingVp8).2 with
      | none => exact ⟨_, _, rfl⟩
      | some sent =>
          obtain ⟨rewritten, rewrote, _⟩ := video.rewriteVideo_written
            (onlyPresent_of_sent knows known isSent) sent.1
          dsimp only
          rw [rewrote]
          exact ⟨_, _, rfl⟩

theorem exists_rewrites (knows : before.ForwardersKnowIds)
    {outgoing : Packet}
    (step : ReceiverStep before (.forwardVideoRtp video (some outgoing))
      after) :
    ∃ forwarder ids, Rewrites before video forwarder ids ∧
      OnlyPresent video.incomingRtp video.incomingVp8 ids ∧
      (∀ id, (ids.get id).isSome ↔
        (incomingId video.incomingRtp video.incomingVp8 id).isSome ∧
          forwarder.HasAnchor video.incomingRtp video.incomingVp8 id) ∧
      outgoing.serialized = video.rewritten forwarder.outgoingSsrc ids := by
  obtain ⟨forwarded, moved, returned⟩ := bind_eq_ok_iff.mp step
  cases known : before.videoForwarderBySenderDemuxId.lookup
      (DemuxId.fromSsrc video.incomingRtp.ssrc) with
  | none =>
      unfold forwardVideoSsrc at moved
      dsimp only at moved
      rw [known] at moved
      cases moved
      cases returned
  | some forwarder =>
      have isOutgoing : forwarded.2 = some outgoing :=
        congrArg Prod.snd (Except.ok.inj returned)
      obtain ⟨sent, isSent, rewrote⟩ :=
        (forwardVideoSsrc_known known moved).2 outgoing isOutgoing
      have onlyPresent := onlyPresent_of_sent knows known isSent
      have sameSsrc := (isSome_sent knows known isSent .seqnum).1
      obtain ⟨rewritten, rewroteAgain, written⟩ :=
        video.rewriteVideo_written onlyPresent sent.1
      rw [rewrote] at rewroteAgain
      cases rewroteAgain
      refine ⟨forwarder, sent.2, ⟨known, ?_⟩, onlyPresent,
        fun id => (isSome_sent knows known isSent id).2, ?_⟩
      · rw [isSent, ← sameSsrc]
      · rw [← sameSsrc]
        exact written

end Steps

end Client

/-! ## What the packets carry -/

namespace ReceivedVideo

variable (video : ReceivedVideo externals)

/-- The forwarded packet parses to the header with the new stream, numbers and
descriptor, and differs from the incoming one in the rewritten places only.
The sequence number of an RTX packet is in its payload. -/
structure SentAs (outgoingSsrc : Ssrc) (ids : Vp8RewrittenIds)
    (outgoing : Packet) : Prop where
  parsed : Header.parse outgoing.serialized =
    .ok (some (video.outgoingHeader outgoingSsrc ids))
  seqnum : video.seqnumPlace.numberIn outgoing.serialized =
    ids.seqnum % 2 ^ 16
  unchanged : SameOutside (video.rewrittenPlaces ids)
    video.incomingRtp.serialized outgoing.serialized

/-- The packet has the rewritten ids of its kind. -/
inductive CarriesIds (ids : Vp8RewrittenIds) (outgoing : Packet) : Prop where
  | frameNumber (number : FullFrameNumber) (header : Header)
      (descriptor : DependencyDescriptor) (place : ByteRange)
      (isNumber : ids.frameNumber = some number)
      (parsed : Header.parse outgoing.serialized = .ok (some header))
      (inHeader : header.dependencyDescriptor = some (descriptor, place))
      (carried : descriptor.truncatedFrameNumber = some number.toUInt16)
  | vp8 (picture : FullPictureId) (base : FullTl0PicIdx)
      (header : ParsedHeader)
      (noDescriptor : video.header.dependencyDescriptor = none)
      (isPicture : ids.pictureId = some picture)
      (isBase : ids.tl0PicIdx = some base)
      (read : ParsedHeader.read (video.incomingRtp.payloadRange.slice
        outgoing.serialized) = .ok header)
      (carriedPicture : header.pictureId =
        some (picture % 2 ^ 15).toUInt16)
      (carriedBase : header.tl0PicIdx = some (base % 2 ^ 8).toUInt8)

/-- The ids of the packet are those that it came with. -/
structure KeepsIncomingIds (outgoing : Packet) : Prop where
  descriptor : ∀ place, video.descriptorPlace = some place →
    place.slice outgoing.serialized =
      place.slice video.incomingRtp.serialized
  payload : video.incomingRtp.payloadRange.slice outgoing.serialized =
    video.incomingRtp.payloadRange.slice video.incomingRtp.serialized

theorem toUInt16_and_fifteen (picture : Nat) :
    picture.toUInt16 &&& 0b0111111111111111 = (picture % 2 ^ 15).toUInt16 := by
  rw [← UInt16.toNat_inj, UInt16.toNat_and]
  change (picture % 2 ^ 16) &&& (2 ^ 15 - 1) = picture % 2 ^ 15 % 2 ^ 16
  rw [Nat.and_two_pow_sub_one_eq_mod]
  omega

section Sent

variable {client : Client externals} {forwarder : Vp8SimulcastRtpForwarder}
  {ids : Vp8RewrittenIds} {outgoing : Packet}
  (onlyPresent : Client.OnlyPresent video.incomingRtp video.incomingVp8 ids)
  (isRewritten : outgoing.serialized =
    video.rewritten forwarder.outgoingSsrc ids)
include onlyPresent isRewritten

theorem sentAs : video.SentAs forwarder.outgoingSsrc ids outgoing where
  parsed := by
    rw [isRewritten]
    exact video.parse_rewritten onlyPresent _
  seqnum := by
    rw [isRewritten]
    exact video.seqnum_rewritten onlyPresent _
  unchanged := by
    rw [isRewritten]
    exact video.sameOutside_rewritten onlyPresent _

theorem carriesIds_of_frameNumber {descriptor : DependencyDescriptor}
    {place : ByteRange}
    (inHeader : video.header.dependencyDescriptor = some (descriptor, place))
    (present : ids.frameNumber.isSome) : video.CarriesIds ids outgoing := by
  obtain ⟨number, isNumber⟩ := Option.isSome_iff_exists.mp present
  have parsed := (video.sentAs onlyPresent isRewritten).parsed
  refine .frameNumber number _ (withFrameNumber descriptor ids.frameNumber)
    place isNumber parsed ?_ ?_
  · unfold outgoingHeader
    rw [inHeader]
    rfl
  · rw [isNumber]
    rfl

theorem carriesIds_of_vp8 {header : ParsedHeader}
    (noDescriptor : video.header.dependencyDescriptor = none)
    (isVp8 : video.incomingVp8 = .vp8 header)
    (hasPicture : ids.pictureId.isSome) (hasBase : ids.tl0PicIdx.isSome) :
    video.CarriesIds ids outgoing := by
  obtain ⟨picture, isPicture⟩ := Option.isSome_iff_exists.mp hasPicture
  obtain ⟨base, isBase⟩ := Option.isSome_iff_exists.mp hasBase
  have read := video.read_rewritten onlyPresent forwarder.outgoingSsrc isVp8
    isPicture isBase
  rw [← isRewritten] at read
  refine .vp8 picture base _ noDescriptor isPicture isBase read ?_ ?_
  · exact congrArg some (toUInt16_and_fifteen picture)
  · exact congrArg some UInt8.ofNat_mod_size.symm

/-- The ids stay as they came when none of them is rewritten. -/
theorem keepsIncomingIds (noFrame : ids.frameNumber = none)
    (noIds : ids.pictureId = none ∨ ids.tl0PicIdx = none) :
    video.KeepsIncomingIds outgoing := by
  have unchanged := (video.sentAs onlyPresent isRewritten).unchanged
  have layout := video.layout
  have fixed := layout.fixed
  have places : video.rewrittenPlaces ids =
      [rtpSsrcRange, video.seqnumPlace, rtpTimestampRange] := by
    unfold rewrittenPlaces
    rw [noFrame]
    rcases noIds with noPicture | noBase
    · rw [noPicture]
      rfl
    · rw [noBase, Option.isSome_none, Bool.and_false]
      rfl
  rw [places] at unchanged
  have twelve : rtpSsrcRange.finish = 12 ∧ rtpTimestampRange.finish = 8 :=
    ⟨rfl, rfl⟩
  have seqnumFinish : video.seqnumPlace.finish =
    video.incomingRtp.seqnumStart + 2 := rfl
  have seqnumStart : video.seqnumPlace.start =
    video.incomingRtp.seqnumStart := rfl
  constructor
  · intro place isPlace
    obtain ⟨recorded, inHeader, rfl⟩ := Option.map_eq_some_iff.mp isPlace
    have bounds := layout.descriptor recorded.1 recorded.2 inHeader
    apply unchanged.slice_eq
    intro other isOther
    simp only [List.mem_cons, List.not_mem_nil, or_false] at isOther
    rcases isOther with rfl | rfl | rfl
    · exact .inl (by omega)
    · rcases layout.kind with ⟨_, start, _⟩ | ⟨_, start, _⟩
      · exact .inr (by omega)
      · exact .inl (by omega)
    · exact .inl (by omega)
  · apply unchanged.slice_eq
    intro other isOther
    simp only [List.mem_cons, List.not_mem_nil, or_false] at isOther
    have behind := video.payloadStart_le
    rcases isOther with rfl | rfl | rfl
    · exact .inl (by omega)
    · rcases layout.kind with ⟨_, start, payload⟩ | ⟨_, start, _⟩
      · exact .inl (by omega)
      · exact .inl (by omega)
    · exact .inl (by omega)

end Sent

open Vp8SimulcastRtpForwarder

/-- A key frame with a descriptor has a frame number. -/
theorem isSome_number {descriptor : DependencyDescriptor} {place : ByteRange}
    (inHeader : video.header.dependencyDescriptor = some (descriptor, place))
    (isKeyFrame : descriptor.isKeyFrame = true) :
    descriptor.truncatedFrameNumber.isSome := by
  rw [← video.describedBy_incoming inHeader] at isKeyFrame ⊢
  exact isSome_number_of_keyFrame (video.le_length_described inHeader)
    isKeyFrame

/-- The ids of the packet's kind are rewritten exactly if the kind is kept. -/
theorem keepsKind_iff {forwarder : Vp8SimulcastRtpForwarder}
    {ids : Vp8RewrittenIds}
    (expected : video.incomingVp8.hasExpectedIds = true)
    (present : ∀ id, (ids.get id).isSome ↔
      (incomingId video.incomingRtp video.incomingVp8 id).isSome ∧
        forwarder.HasAnchor video.incomingRtp video.incomingVp8 id) :
    forwarder.KeepsKind video.incomingRtp video.incomingVp8 ↔
      ids.frameNumber.isSome ∨
        ids.pictureId.isSome ∧ ids.tl0PicIdx.isSome := by
  have frame := present .frameNumber
  have picture := present .pictureId
  have base := present .tl0PicIdx
  change ids.frameNumber.isSome ↔ _ at frame
  change ids.pictureId.isSome ↔ _ at picture
  change ids.tl0PicIdx.isSome ↔ _ at base
  rw [frame, picture, base]
  cases video.kind with
  | described descriptor place inHeader isVp8 =>
      rw [isVp8]
      have number : (incomingId video.incomingRtp
          (.dependencyDescriptor descriptor) .frameNumber).isSome =
            descriptor.truncatedFrameNumber.isSome := Option.isSome_map
      rw [number]
      constructor
      · rintro (⟨waiting, isKeyFrame⟩ | ⟨stream, current, hasNumber, anchored⟩)
        · exact .inl ⟨video.isSome_number inHeader isKeyFrame,
            .inl ⟨waiting, isKeyFrame⟩⟩
        · exact .inl ⟨hasNumber, .inr ⟨stream, current, anchored⟩⟩
      · rintro (⟨hasNumber, starts | ⟨stream, current, anchored⟩⟩ | ⟨⟨no, _⟩, _⟩)
        · exact .inl starts
        · exact .inr ⟨stream, current, hasNumber, anchored⟩
        · cases no
  | vp8 header noDescriptor isVp8 read =>
      rw [isVp8] at expected ⊢
      obtain ⟨hasPicture, hasBase⟩ := Bool.and_eq_true_iff.mp expected
      have pictureKnown : (incomingId video.incomingRtp (.vp8 header)
          .pictureId).isSome := Option.isSome_map.trans hasPicture
      have baseKnown : (incomingId video.incomingRtp (.vp8 header)
          .tl0PicIdx).isSome := Option.isSome_map.trans hasBase
      constructor
      · rintro (starts | ⟨stream, current, pictureFirst, baseFirst⟩)
        · exact .inr ⟨⟨pictureKnown, .inl starts⟩, ⟨baseKnown, .inl starts⟩⟩
        · exact .inr ⟨⟨pictureKnown, .inr ⟨stream, current, pictureFirst⟩⟩,
            ⟨baseKnown, .inr ⟨stream, current, baseFirst⟩⟩⟩
      · rintro (⟨no, _⟩ | ⟨⟨_, starts | ⟨stream, current, pictureFirst⟩⟩,
          ⟨_, anchored⟩⟩)
        · cases no
        · exact .inl starts
        · rcases anchored with starts | ⟨other, isOther, baseFirst⟩
          · exact .inl starts
          · rw [current] at isOther
            cases isOther
            exact .inr ⟨stream, current, pictureFirst, baseFirst⟩

end ReceivedVideo

/-! ## Whole runs -/

namespace Client

open Vp8SimulcastRtpForwarder

theorem Rewrites.hasExpectedIds {client : Client externals}
    {video : ReceivedVideo externals} {forwarder : Vp8SimulcastRtpForwarder}
    {ids : Vp8RewrittenIds} (rewrites : Rewrites client video forwarder ids) :
    video.incomingVp8.hasExpectedIds = true := by
  have sent := rewrites.sent
  unfold forwardVp8Rtp at sent
  split at sent
  · rename_i expected
    exact expected
  · cases sent

/-- One forwarded packet. -/
theorem carriesIds_iff {before after : Client externals}
    (knows : before.ForwardersKnowIds) {video : ReceivedVideo externals}
    {outgoing : Packet}
    (step : ReceiverStep before (.forwardVideoRtp video (some outgoing))
      after) :
    ∃ forwarder ids, Rewrites before video forwarder ids ∧
      video.SentAs forwarder.outgoingSsrc ids outgoing ∧
      (video.CarriesIds ids outgoing ↔
        forwarder.KeepsKind video.incomingRtp video.incomingVp8) ∧
      (¬ forwarder.KeepsKind video.incomingRtp video.incomingVp8 →
        video.KeepsIncomingIds outgoing) := by
  obtain ⟨forwarder, ids, rewrites, onlyPresent, present, isRewritten⟩ :=
    exists_rewrites knows step
  have expected := rewrites.hasExpectedIds
  have kept := video.keepsKind_iff expected present
  refine ⟨forwarder, ids, rewrites, video.sentAs onlyPresent isRewritten,
    ?_, ?_⟩
  · rw [kept]
    constructor
    · intro carries
      cases carries with
      | frameNumber number _ _ _ isNumber _ _ _ =>
          exact .inl (Option.isSome_of_eq_some isNumber)
      | vp8 picture base _ _ isPicture isBase _ _ _ =>
          exact .inr ⟨Option.isSome_of_eq_some isPicture,
            Option.isSome_of_eq_some isBase⟩
    · intro hasIds
      cases video.kind with
      | described descriptor place inHeader isVp8 =>
          have hasNumber : ids.frameNumber.isSome := by
            rcases hasIds with hasNumber | ⟨hasPicture, _⟩
            · exact hasNumber
            · have known := ((present .pictureId).mp hasPicture).1
              rw [isVp8] at known
              cases known
          exact video.carriesIds_of_frameNumber onlyPresent isRewritten
            inHeader hasNumber
      | vp8 header noDescriptor isVp8 read =>
          rcases hasIds with hasNumber | ⟨hasPicture, hasBase⟩
          · have known := ((present .frameNumber).mp hasNumber).1
            rw [isVp8] at known
            cases known
          · exact video.carriesIds_of_vp8 onlyPresent isRewritten noDescriptor
              isVp8 hasPicture hasBase
  · intro notKept
    rw [kept, not_or, Option.not_isSome_iff_eq_none] at notKept
    obtain ⟨noFrame, noIds⟩ := notKept
    apply video.keepsIncomingIds onlyPresent isRewritten noFrame
    by_cases hasPicture : ids.pictureId.isSome
    · right
      exact Option.not_isSome_iff_eq_none.mp
        (fun hasBase => noIds ⟨hasPicture, hasBase⟩)
    · exact .inl (Option.not_isSome_iff_eq_none.mp hasPicture)

/-- A packet that is forwarded keeps the kind of ids of its stream. -/
def KindKept (before : Client externals) : ReceiverEvent externals → Prop
  | .forwardVideoRtp video (some _) => ∀ forwarder,
      before.videoForwarderBySenderDemuxId.lookup
        (DemuxId.fromSsrc video.incomingRtp.ssrc) = some forwarder →
      forwarder.KeepsKind video.incomingRtp video.incomingVp8
  | _ => True

theorem run_of_guarded {start finish : Client externals}
    {events : List (ReceiverEvent externals)}
    (run : Run (Guarded KindKept ReceiverStep) start events finish) :
    Run ReceiverStep start events finish := by
  induction run with
  | nil => exact .nil
  | snoc _ last ih => exact .snoc ih last.2

theorem forwarded_video_carries_ids_iff (pending : NonParticipantClient)
    (initialTargetSendRate requestedMaxSendRate : DataRate) (start : Instant)
    {events : List (ReceiverEvent externals)} {finish : Client externals}
    (run : Run ReceiverStep (Client.new pending initialTargetSendRate
      requestedMaxSendRate start) events finish) :
    (∀ video : ReceivedVideo externals, ∃ after outgoing,
      finish.forwardVideoRtp video.incomingRtp (some video.incomingVp8) =
        .ok (after, outgoing)) ∧
    (∀ video outgoing earlier later,
      events = earlier ++ .forwardVideoRtp video (some outgoing) :: later →
      ∃ before after forwarder ids,
        Run ReceiverStep (Client.new pending initialTargetSendRate
          requestedMaxSendRate start) earlier before ∧
        ReceiverStep before (.forwardVideoRtp video (some outgoing)) after ∧
        Run ReceiverStep after later finish ∧
        Rewrites before video forwarder ids ∧
        video.SentAs forwarder.outgoingSsrc ids outgoing ∧
        (video.CarriesIds ids outgoing ↔
          forwarder.KeepsKind video.incomingRtp video.incomingVp8) ∧
        (¬ forwarder.KeepsKind video.incomingRtp video.incomingVp8 →
          video.KeepsIncomingIds outgoing)) ∧
    (Run (Guarded KindKept ReceiverStep) (Client.new pending
        initialTargetSendRate requestedMaxSendRate start) events finish →
      ∀ video outgoing earlier later,
        events = earlier ++ .forwardVideoRtp video (some outgoing) :: later →
        ∃ before after forwarder ids,
          Run ReceiverStep (Client.new pending initialTargetSendRate
            requestedMaxSendRate start) earlier before ∧
          ReceiverStep before (.forwardVideoRtp video (some outgoing)) after ∧
          Run ReceiverStep after later finish ∧
          Rewrites before video forwarder ids ∧
          video.SentAs forwarder.outgoingSsrc ids outgoing ∧
          video.CarriesIds ids outgoing) := by
  refine ⟨forwardVideoRtp_ok (knowIds_of_run run), ?_, ?_⟩
  · rintro video outgoing earlier later rfl
    obtain ⟨before, first, rest⟩ := run.split
    obtain ⟨after, step, second⟩ := rest.head
    obtain ⟨forwarder, ids, forwarded⟩ :=
      carriesIds_iff (knowIds_of_run first) step
    exact ⟨before, after, forwarder, ids, first, step, second, forwarded⟩
  · rintro guarded video outgoing earlier later rfl
    obtain ⟨before, first, rest⟩ := guarded.split
    obtain ⟨after, step, second⟩ := rest.head
    have firstRun := run_of_guarded first
    obtain ⟨forwarder, ids, rewrites, sentAs, carries, _⟩ :=
      carriesIds_iff (knowIds_of_run firstRun) step.2
    exact ⟨before, after, forwarder, ids, firstRun, step.2,
      run_of_guarded second, rewrites, sentAs,
      carries.mpr (step.1 forwarder rewrites.known)⟩

end Client

/-! ## A stream that changes its kind -/

/-- A packet as it is received, with the sequence number of its header. -/
def receivedWith (header : Header) (serialized : Bytes) : Packet :=
  Packet.new header header.seqnum.toNat none false none false none 0 serialized

theorem received_receivedWith {header : Header} {serialized : Bytes}
    (parsed : Header.parse serialized = .ok (some header)) :
    (receivedWith header serialized).Received header where
  parsed := parsed
  built := {
    length := rfl
    payload := rfl
    tcc := rfl
    descriptor := rfl
    rtx := by
      intro isRtx
      cases isRtx }
  unencrypted := rfl

/-- A key frame with a readable dependency descriptor. -/
def describedKeyFrame : ReceivedVideo directExternals where
  header := ⟨false, false, 108, 1, 0, 18, none, none, none, none, ⟨24, 24⟩,
    some (⟨true, none, some 7⟩, ⟨17, 23⟩)⟩
  incomingRtp := receivedWith _
    ([0x90, 108, 0, 1, 0, 0, 0, 0, 0, 0, 0, 18] ++
      [0xBE, 0xDE, 0, 2, 0x65, 0x80, 0, 7, 0x80, 0, 0xC0, 0] ++
      List.replicate 16 0)
  incomingVp8 := .dependencyDescriptor ⟨true, none, some 7⟩
  received := received_receivedWith rfl
  parsed := rfl

/-- A packet of the same stream with a VP8 header: its picture id is 4711. -/
def vp8DeltaFrame : ReceivedVideo directExternals where
  header := ⟨false, false, 108, 2, 1, 18, none, none, none, none, ⟨12, 17⟩,
    none⟩
  incomingRtp := receivedWith _
    ([0x80, 108, 0, 2, 0, 0, 0, 1, 0, 0, 0, 18] ++
      [0x80, 0xC0, 0x92, 0x67, 0xDC] ++ List.replicate 16 0)
  incomingVp8 := .vp8 ⟨some 4711, some 220, false, none⟩
  received := received_receivedWith rfl
  parsed := rfl

/-- A sender of one video layer. -/
def requestedVideo : AllocatableVideo where
  senderDemuxId := DemuxId.fromSsrc 16
  layers := [AllocatableVideoLayer.ofWord 100000 180, .ofWord 0 0,
    .ofWord 0 0].get
  requestedHeight := 180
  allocatedLayerIndex := none
  interesting := none

namespace Client

def newReceiver : Client directExternals :=
  Client.new ⟨DemuxId.fromSsrc 32, "carol", false, .unknown, 1⟩ 5000000 5000000
    0

def watchingReceiver : Client directExternals :=
  Call.allocatedReceiver newReceiver [requestedVideo] 5000000 1000000 0

/-- The receiver after a packet, and what it is sent. -/
def afterVideo (client : Client externals) (video : ReceivedVideo externals) :
    Client externals × Option Packet :=
  match client.forwardVideoRtp video.incomingRtp (some video.incomingVp8) with
  | .ok result => result
  | .error _ => (client, none)

theorem receiverStep_afterVideo {client : Client externals}
    (knows : client.ForwardersKnowIds) (video : ReceivedVideo externals)
    {outgoing : Option Packet} (sent : (client.afterVideo video).2 = outgoing) :
    ReceiverStep client (.forwardVideoRtp video outgoing)
      (client.afterVideo video).1 := by
  obtain ⟨after, returned, forwarded⟩ := forwardVideoRtp_ok knows video
  unfold afterVideo at sent ⊢
  rw [forwarded] at sent ⊢
  rw [← sent]
  exact forwarded

/-- The receiver after the key frame. -/
def describedReceiver : Client directExternals :=
  (watchingReceiver.afterVideo describedKeyFrame).1

theorem run_watchingReceiver :
    Run ReceiverStep newReceiver
      [.allocateVideo [requestedVideo] 5000000 1000000 0] watchingReceiver :=
  Run.nil.snoc rfl

theorem keyFrame_forwarded :
    ∃ keyFrame, (watchingReceiver.afterVideo describedKeyFrame).2 =
      some keyFrame :=
  Option.isSome_iff_exists.mp (by decide +kernel)

theorem forwarded_video_carries_ids_iff_key_frame :
    ∃ (keyFrame : Packet) (forwarder : Vp8SimulcastRtpForwarder)
        (ids : Vp8RewrittenIds),
      ReceiverStep watchingReceiver
        (.forwardVideoRtp describedKeyFrame (some keyFrame))
        describedReceiver ∧
      describedKeyFrame.SentAs forwarder.outgoingSsrc ids keyFrame ∧
      describedKeyFrame.CarriesIds ids keyFrame := by
  obtain ⟨keyFrame, isSent⟩ := keyFrame_forwarded
  have knows : watchingReceiver.ForwardersKnowIds :=
    knowIds_of_run run_watchingReceiver
  have step := receiverStep_afterVideo knows describedKeyFrame isSent
  have allocated : Run (Guarded KindKept ReceiverStep) newReceiver
      [.allocateVideo [requestedVideo] 5000000 1000000 0]
      watchingReceiver := Run.nil.snoc ⟨trivial, rfl⟩
  have guarded : Run (Guarded KindKept ReceiverStep) newReceiver
      [.allocateVideo [requestedVideo] 5000000 1000000 0,
        .forwardVideoRtp describedKeyFrame (some keyFrame)]
      describedReceiver := by
    apply allocated.snoc
    refine ⟨?_, step⟩
    intro forwarder known
    have awaits : (watchingReceiver.videoForwarderBySenderDemuxId.lookup
        (DemuxId.fromSsrc describedKeyFrame.incomingRtp.ssrc)).map
          (·.switchingSsrc) = some (some 18) := by decide +kernel
    rw [known] at awaits
    exact .inl ⟨Option.some.inj awaits, rfl⟩
  obtain ⟨_, _, forwarder, ids, _, _, _, _, sentAs, carries⟩ :=
    (forwarded_video_carries_ids_iff _ _ _ _ (run_of_guarded guarded)).2.2
      guarded describedKeyFrame keyFrame
      [.allocateVideo [requestedVideo] 5000000 1000000 0] [] rfl
  exact ⟨keyFrame, forwarder, ids, step, sentAs, carries⟩

/-- In a stream that was joined at a key frame with a descriptor, a VP8 header
keeps the picture id that it came with. -/
theorem forwarded_video_keeps_incoming_picture_id :
    ∃ (keyFrame outgoing : Packet) (after : Client directExternals),
      Run ReceiverStep newReceiver
        [.allocateVideo [requestedVideo] 5000000 1000000 0,
          .forwardVideoRtp describedKeyFrame (some keyFrame)]
        describedReceiver ∧
      ReceiverStep describedReceiver
        (.forwardVideoRtp vp8DeltaFrame (some outgoing)) after ∧
      ParsedHeader.read (vp8DeltaFrame.incomingRtp.payloadRange.slice
        outgoing.serialized) = .ok ⟨some 4711, some 220, false, none⟩ ∧
      ∀ forwarder ids, Rewrites describedReceiver vp8DeltaFrame forwarder ids →
        ¬ vp8DeltaFrame.CarriesIds ids outgoing := by
  obtain ⟨keyFrame, isKeyFrame⟩ := keyFrame_forwarded
  have first := receiverStep_afterVideo (knowIds_of_run run_watchingReceiver)
    describedKeyFrame isKeyFrame
  have run := run_watchingReceiver.snoc first
  have reread : (describedReceiver.afterVideo vp8DeltaFrame).2.map
      (fun outgoing => ParsedHeader.read
        (vp8DeltaFrame.incomingRtp.payloadRange.slice outgoing.serialized)) =
      some (.ok ⟨some 4711, some 220, false, none⟩) := by decide +kernel
  obtain ⟨outgoing, isOutgoing, read⟩ := Option.map_eq_some_iff.mp reread
  refine ⟨keyFrame, outgoing, _, run,
    receiverStep_afterVideo (knowIds_of_run run) vp8DeltaFrame isOutgoing,
    read, ?_⟩
  intro forwarder ids rewrites carries
  have sent : (describedReceiver.videoForwarderBySenderDemuxId.lookup
      (DemuxId.fromSsrc vp8DeltaFrame.incomingRtp.ssrc)).map
        (fun forwarder => (forwarder.forwardVp8Rtp vp8DeltaFrame.incomingRtp
          vp8DeltaFrame.incomingVp8).2) =
      some (some (18, ⟨3, 2, none, none, none⟩)) := by decide +kernel
  rw [rewrites.known, Option.map_some, rewrites.sent] at sent
  obtain ⟨_, rfl⟩ := Prod.mk.inj (Option.some.inj (Option.some.inj sent))
  cases carries with
  | frameNumber number _ _ _ isNumber _ _ _ => cases isNumber
  | vp8 picture base _ _ isPicture _ _ _ _ => cases isPicture

end Client

end CallingService.Backend
