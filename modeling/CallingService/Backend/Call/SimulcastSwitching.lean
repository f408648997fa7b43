import CallingService.Backend.Call.SimulcastRun

/-!
# Switching between video layers

Forwarding of a layer starts at a key frame and above everything that has been
sent.  From there on the ids keep their distances from those of the key frame,
until forwarding starts again.
-/

namespace CallingService.Backend

open Foundation Rtp Vp8

/-- A key frame packet at which forwarding started, as it came and as it was
sent. -/
structure SentKeyFrame where
  incomingRtp : Packet
  incomingVp8 : VideoHeader
  outgoing : Vp8RewrittenIds

/-- The number that the event sends, if any. -/
def ForwarderEvent.numbers : ForwarderEvent → List (Renumbered Ssrc)
  | .forwardVp8Rtp incomingRtp _ sent =>
      Vp8SimulcastRtpForwarder.sentNumber incomingRtp sent
  | _ => []

namespace Vp8SimulcastRtpForwarder

/-! ## An invariant of all runs -/

/-- The forwarder never waits for the layer it forwards, and knows the largest
value of each id. -/
structure Sound (forwarder : Vp8SimulcastRtpForwarder) : Prop where
  apart : ∀ ssrc, forwarder.switchingSsrc = some ssrc →
    forwarder.forwardingSsrc ≠ some ssrc
  known : ∀ id, (forwarder.maxOutgoing.get id).isSome

theorem sound_new (outgoingSsrc : Ssrc) : (new outgoingSsrc).Sound where
  apart := by
    intro ssrc waiting
    cases waiting
  known := by
    intro id
    cases id with
    | seqnum => rfl
    | timestamp => rfl
    | pictureId => rfl
    | tl0PicIdx => rfl
    | frameNumber => rfl

theorem isSome_maxOption {left right : Option Nat} (known : left.isSome) :
    (maxOption left right).isSome := by
  cases left with
  | none => cases known
  | some first =>
      cases right with
      | none => rfl
      | some second => rfl

theorem isSome_get_max {left right : Vp8RewrittenIds}
    (known : ∀ id, (left.get id).isSome) (id : RewrittenId) :
    ((left.max right).get id).isSome := by
  cases id with
  | seqnum => rfl
  | timestamp => rfl
  | pictureId => exact isSome_maxOption (known .pictureId)
  | tl0PicIdx => exact isSome_maxOption (known .tl0PicIdx)
  | frameNumber => exact isSome_maxOption (known .frameNumber)

/-- The ids of a key frame: two above the largest sequence number, and one
above the largest of the others. -/
theorem get_nextFirst {forwarder : Vp8SimulcastRtpForwarder}
    {first : Vp8RewrittenIds} (sound : forwarder.Sound)
    (isNext : forwarder.nextFirst = some first) (id : RewrittenId) :
    ∃ largest, forwarder.maxOutgoing.get id = some largest ∧
      first.get id = some (largest + id.gap) := by
  obtain ⟨largest, isLargest⟩ := Option.isSome_iff_exists.mp (sound.known id)
  have added := Vp8RewrittenIds.get_combine isNext id
  have step : (⟨2, 1, some 1, some 1, some 1⟩ : Vp8RewrittenIds).get id =
      some id.gap := by
    cases id with
    | seqnum => rfl
    | timestamp => rfl
    | pictureId => rfl
    | tl0PicIdx => rfl
    | frameNumber => rfl
  rw [isLargest, step] at added
  obtain ⟨sum, checked, isSum⟩ := Option.map_eq_some_iff.mp added
  exact ⟨largest, isLargest,
    by rw [← isSum, checkedAddU64_eq_some checked]⟩

theorem forwardingSsrc_eq {forwarder : Vp8SimulcastRtpForwarder}
    {stream : Vp8Forwarding}
    (current : forwarder.forwarding = .forwarding stream) :
    forwarder.forwardingSsrc = some stream.incomingSsrc := by
  unfold forwardingSsrc
  rw [current]

variable {before after : Vp8SimulcastRtpForwarder} {event : ForwarderEvent}

theorem Effect.sound (effect : Effect before event after) (sound : before.Sound)
    : after.Sound := by
  cases effect with
  | idle silent => exact sound
  | want other =>
      refine ⟨?_, sound.known⟩
      intro ssrc waiting
      cases waiting
      exact other
  | pause =>
      refine ⟨?_, sound.known⟩
      intro ssrc waiting
      cases waiting
  | proceed silent current continues =>
      refine ⟨?_, sound.known⟩
      intro ssrc waiting
      change some _ ≠ some ssrc
      rw [continues.incomingSsrc, ← forwardingSsrc_eq current]
      exact sound.apart ssrc waiting
  | send current sameSsrc continues renumbered =>
      refine ⟨?_, isSome_get_max sound.known⟩
      intro ssrc waiting
      change some _ ≠ some ssrc
      rw [continues.incomingSsrc, ← forwardingSsrc_eq current]
      exact sound.apart ssrc waiting
  | switch waiting isKeyFrame isNext sameSsrc firstIncoming firstOutgoing =>
      refine ⟨?_, isSome_get_max ?_⟩
      · intro ssrc stillWaiting
        cases stillWaiting
      · intro id
        obtain ⟨largest, _, isFirst⟩ := get_nextFirst sound isNext id
        rw [isFirst]
        rfl

theorem sound_of_run {outgoingSsrc : Ssrc} {events : List ForwarderEvent}
    {finish : Vp8SimulcastRtpForwarder}
    (run : Run WellFormedStep (new outgoingSsrc) events finish) :
    finish.Sound := by
  apply run.invariant
  · exact sound_new outgoingSsrc
  · intro before event after sound step
    exact step.effect.sound sound

/-! ## Distinct sequence numbers -/

theorem renumbering_setNeedsKeyFrame (forwarder : Vp8SimulcastRtpForwarder) :
    forwarder.setNeedsKeyFrame.renumbering = forwarder.renumbering := by
  unfold setNeedsKeyFrame
  cases current : forwarder.forwarding with
  | paused => rfl
  | forwarding stream =>
      unfold renumbering
      rw [current]

theorem ForwarderStep.renumbers (step : ForwarderStep before event after) :
    Renumbers before.renumbering event.numbers
      after.renumbering := by
  cases event with
  | setDesiredSsrc desired =>
      rw [show after = _ from step]
      exact before.setDesiredSsrc_renumbers desired
  | setNeedsKeyFrame =>
      rw [show after = _ from step, renumbering_setNeedsKeyFrame]
      exact .refl
  | forwardVp8Rtp incomingRtp incomingVp8 sent =>
      have renumbers := before.forwardVp8Rtp_renumbers incomingRtp incomingVp8
      have forwarded : before.forwardVp8Rtp incomingRtp incomingVp8 =
        (after, sent) := step
      rw [forwarded] at renumbers
      exact renumbers.1

theorem tracks_of_run {outgoingSsrc : Ssrc} {events : List ForwarderEvent}
    {finish : Vp8SimulcastRtpForwarder}
    (run : Run WellFormedStep (new outgoingSsrc) events finish) :
    Tracks finish.renumbering (events.flatMap ForwarderEvent.numbers) := by
  apply run.history_invariant
  · exact Tracks.nil _
  · intro past event before after tracks step
    rw [List.flatMap_append, List.flatMap_singleton]
    exact (ForwarderStep.renumbers step.2).tracks tracks

/-- Two packets with one outgoing sequence number are one packet. -/
def DistinctSequenceNumbers (events : List ForwarderEvent) : Prop :=
  ∀ {firstRtp firstVp8 firstSent secondRtp secondVp8 secondSent},
    .forwardVp8Rtp firstRtp firstVp8 (some firstSent) ∈ events →
    .forwardVp8Rtp secondRtp secondVp8 (some secondSent) ∈ events →
    firstSent.2.seqnum = secondSent.2.seqnum →
      firstRtp.ssrc = secondRtp.ssrc ∧ firstRtp.seqnum = secondRtp.seqnum

theorem distinctSequenceNumbers_of_run {outgoingSsrc : Ssrc}
    {events : List ForwarderEvent} {finish : Vp8SimulcastRtpForwarder}
    (run : Run WellFormedStep (new outgoingSsrc) events finish) :
    DistinctSequenceNumbers events := by
  intro firstRtp firstVp8 firstSent secondRtp secondVp8 secondSent isFirst
    isSecond same
  have logged : ∀ {incomingRtp incomingVp8 sent},
      .forwardVp8Rtp incomingRtp incomingVp8 (some sent) ∈ events →
        (⟨incomingRtp.ssrc, incomingRtp.seqnum, sent.2.seqnum⟩ :
          Renumbered Ssrc) ∈ events.flatMap ForwarderEvent.numbers := by
    intro incomingRtp incomingVp8 sent isEvent
    apply List.mem_flatMap.mpr
    exact ⟨_, isEvent, List.mem_singleton.mpr rfl⟩
  exact (tracks_of_run run).faithful _ (logged isFirst) _ (logged isSecond)
    same

/-! ## The start of a stream -/

/-- The packet is a key frame of the layer that was waited for; its ids are
above everything sent before. -/
structure StartsAt (before : Vp8SimulcastRtpForwarder) (event : ForwarderEvent)
    (after : Vp8SimulcastRtpForwarder) (key : SentKeyFrame) : Prop where
  isEvent : event = .forwardVp8Rtp key.incomingRtp key.incomingVp8
    (some (before.outgoingSsrc, key.outgoing))
  waiting : before.switchingSsrc = some key.incomingRtp.ssrc
  isKeyFrame : key.incomingVp8.isKeyFrame = true
  started : after.forwardingSsrc = some key.incomingRtp.ssrc
  ids : ∀ id, ∃ largest, before.maxOutgoing.get id = some largest ∧
    key.outgoing.get id =
      (incomingId key.incomingRtp key.incomingVp8 id).map
        fun _ => largest + id.gap

/-- The forwarder is paused, or forwards the stream that started with the key
frame. -/
def Anchored (key : SentKeyFrame) (forwarder : Vp8SimulcastRtpForwarder) :
    Prop :=
  ∀ stream, forwarder.forwarding = .forwarding stream →
    stream.incomingSsrc = key.incomingRtp.ssrc ∧
    stream.firstIncoming =
      firstIncomingIds key.incomingRtp key.incomingVp8 ∧
    key.outgoing = stream.firstIncoming.onlyPresent stream.firstOutgoing ∧
    (∀ id, (stream.firstOutgoing.get id).isSome) ∧
    ∀ id, (stream.maxIncoming.get id).isSome =
      (incomingId key.incomingRtp key.incomingVp8 id).isSome

theorem not_starts_of_same (same : after.forwardingSsrc = before.forwardingSsrc) :
    ¬ Starts before after := by
  rintro ⟨ssrc, isAfter, notBefore⟩
  rw [same] at isAfter
  exact notBefore isAfter

theorem Effect.starts (effect : Effect before event after)
    (sound : before.Sound) (starts : Starts before after) :
    ∃ key, StartsAt before event after key ∧ Anchored key after := by
  cases effect with
  | idle silent => exact absurd starts (not_starts_of_same rfl)
  | want other => exact absurd starts (not_starts_of_same rfl)
  | pause =>
      obtain ⟨ssrc, isAfter, _⟩ := starts
      cases isAfter
  | proceed _ current continues | send current _ continues _ =>
      apply absurd starts (not_starts_of_same _)
      rw [forwardingSsrc_eq current, ← continues.incomingSsrc]
      rfl
  | @switch incomingRtp incomingVp8 first later waiting isKeyFrame isNext
      sameSsrc firstIncoming firstOutgoing present =>
      refine ⟨⟨incomingRtp, incomingVp8,
        (firstIncomingIds incomingRtp incomingVp8).onlyPresent first⟩,
        ⟨rfl, waiting, isKeyFrame, congrArg some sameSsrc, ?_⟩, ?_⟩
      · intro id
        obtain ⟨largest, isLargest, isFirst⟩ := get_nextFirst sound isNext id
        refine ⟨largest, isLargest, ?_⟩
        rw [Vp8RewrittenIds.get_onlyPresent, isFirst]
        unfold incomingId
        cases (firstIncomingIds incomingRtp incomingVp8).get id with
        | none => rfl
        | some number => rfl
      · intro stream isStream
        cases isStream
        refine ⟨sameSsrc, firstIncoming, ?_, ?_, present⟩
        · rw [firstIncoming, firstOutgoing]
        · intro id
          obtain ⟨largest, _, isFirst⟩ := get_nextFirst sound isNext id
          rw [firstOutgoing, isFirst]
          rfl

variable {key : SentKeyFrame}

theorem Anchored.continues {stream later : Vp8Forwarding}
    (anchored : Anchored key before)
    (current : before.forwarding = .forwarding stream)
    (continues : Continues stream later)
    (isLater : after.forwarding = .forwarding later) :
    Anchored key after := by
  intro other isOther
  rw [isLater] at isOther
  cases isOther
  obtain ⟨ssrc, incoming, outgoing, known, present⟩ := anchored stream current
  refine ⟨continues.incomingSsrc.trans ssrc,
    continues.firstIncoming.trans incoming, ?_, ?_, ?_⟩
  · rw [continues.firstIncoming, continues.firstOutgoing]
    exact outgoing
  · rw [continues.firstOutgoing]
    exact known
  · intro id
    exact (continues.present id).trans (present id)

theorem Effect.anchored (effect : Effect before event after)
    (sound : before.Sound) (quiet : ¬ Starts before after)
    (anchored : Anchored key before) :
    Anchored key after := by
  cases effect with
  | idle silent => exact anchored
  | want other => exact anchored
  | pause =>
      intro stream isStream
      cases isStream
  | proceed silent current continues =>
      exact anchored.continues current continues rfl
  | send current sameSsrc continues renumbered =>
      exact anchored.continues current continues rfl
  | @switch incomingRtp incomingVp8 first later waiting isKeyFrame isNext
      sameSsrc =>
      -- The layer that is waited for is not the one that is forwarded.
      exact absurd ⟨incomingRtp.ssrc, congrArg some sameSsrc,
        sound.apart incomingRtp.ssrc waiting⟩ quiet

/-! ## After the start -/

/-- The id of a packet in full, as the forwarder expands it. -/
def expandedId (forwarder : Vp8SimulcastRtpForwarder) (incomingRtp : Packet)
    (incomingVp8 : VideoHeader) (id : RewrittenId) : Option Nat :=
  match forwarder.forwarding with
  | .paused => none
  | .forwarding stream => (stream.expand incomingRtp incomingVp8).get id

/-- A packet that is sent after the key frame belongs to its stream, none of
its ids precedes that of the key frame, and each one keeps its distance from
it up to the width of the id. -/
structure FollowsKeyFrame (key : SentKeyFrame)
    (before : Vp8SimulcastRtpForwarder) (incomingRtp : Packet)
    (incomingVp8 : VideoHeader) (outgoing : Vp8RewrittenIds) : Prop where
  sameSsrc : incomingRtp.ssrc = key.incomingRtp.ssrc
  seqnum : key.incomingRtp.seqnum ≤ incomingRtp.seqnum ∧
    outgoing.seqnum + key.incomingRtp.seqnum =
      key.outgoing.seqnum + incomingRtp.seqnum
  notBefore : ∀ id full keyNumber,
    before.expandedId incomingRtp incomingVp8 id = some full →
    incomingId key.incomingRtp key.incomingVp8 id = some keyNumber →
      keyNumber ≤ full
  rewritten : ∀ id number keyNumber,
    incomingId incomingRtp incomingVp8 id = some number →
    incomingId key.incomingRtp key.incomingVp8 id = some keyNumber →
      ∃ sent keySent, outgoing.get id = some sent ∧
        key.outgoing.get id = some keySent ∧ keySent ≤ sent ∧
        (sent + keyNumber) % 2 ^ id.width = (keySent + number) % 2 ^ id.width
  absent : ∀ id, incomingId incomingRtp incomingVp8 id = none ∨
    incomingId key.incomingRtp key.incomingVp8 id = none →
      outgoing.get id = none

theorem Anchored.follows {before : Vp8SimulcastRtpForwarder}
    {stream : Vp8Forwarding} {incomingRtp : Packet} {incomingVp8 : VideoHeader}
    {outgoing : Vp8RewrittenIds} (anchored : Anchored key before)
    (current : before.forwarding = .forwarding stream)
    (sameSsrc : stream.incomingSsrc = incomingRtp.ssrc)
    (renumbered : stream.outgoing (stream.expand incomingRtp incomingVp8) =
      some outgoing) :
    FollowsKeyFrame key before incomingRtp incomingVp8 outgoing := by
  obtain ⟨ssrc, isFirst, keyOutgoing, known, present⟩ :=
    anchored stream current
  have expandedEq : ∀ id, before.expandedId incomingRtp incomingVp8 id =
      (stream.expand incomingRtp incomingVp8).get id := by
    intro id
    unfold expandedId
    rw [current]
  have rebased := Vp8Forwarding.outgoing_rebased renumbered
  have keyIncoming : ∀ id,
      incomingId key.incomingRtp key.incomingVp8 id =
        stream.firstIncoming.get id := by
    intro id
    rw [isFirst]
    rfl
  -- Where the packet and the key frame have the id, it is rebased.
  have both : ∀ {id full keyNumber},
      (stream.expand incomingRtp incomingVp8).get id = some full →
      stream.firstIncoming.get id = some keyNumber →
        ∃ keySent, key.outgoing.get id = some keySent ∧ keyNumber ≤ full ∧
          outgoing.get id = some (keySent + (full - keyNumber)) := by
    intro id full keyNumber isFull isKey
    obtain ⟨keySent, isSent⟩ := Option.isSome_iff_exists.mp (known id)
    have based := rebased id
    rw [isFull, isKey, isSent] at based
    refine ⟨keySent, ?_, based.1, based.2⟩
    rw [keyOutgoing, Vp8RewrittenIds.get_onlyPresent, isKey]
    exact isSent
  refine ⟨sameSsrc.symm.trans ssrc, ?_, ?_, ?_, ?_⟩
  · obtain ⟨keySent, isSent, inside, sent⟩ := @both .seqnum _ _ rfl rfl
    have keySeqnum : stream.firstIncoming.seqnum =
        key.incomingRtp.seqnum := by
      rw [isFirst]
      rfl
    have keyNumber : key.outgoing.seqnum = keySent := Option.some.inj isSent
    have number : outgoing.seqnum = keySent +
        (incomingRtp.seqnum - stream.firstIncoming.seqnum) :=
      Option.some.inj sent
    rw [Vp8Forwarding.expand_seqnum] at inside
    rw [keySeqnum] at inside number
    refine ⟨inside, ?_⟩
    rw [number, keyNumber, Nat.add_assoc, Nat.sub_add_cancel inside]
  · intro id full keyNumber isFull isKey
    rw [expandedEq id] at isFull
    rw [keyIncoming id] at isKey
    obtain ⟨_, _, inside, _⟩ := both isFull isKey
    exact inside
  · intro id number keyNumber isNumber isKey
    have isExpanded := stream.isSome_get_expand incomingRtp incomingVp8 id
    rw [present id, isNumber, isKey] at isExpanded
    obtain ⟨full, isFull⟩ := Option.isSome_iff_exists.mp isExpanded
    obtain ⟨other, isOther, congruent⟩ := Vp8Forwarding.get_expand isFull
    rw [isNumber] at isOther
    cases isOther
    rw [keyIncoming id] at isKey
    obtain ⟨keySent, isSent, inside, sent⟩ := both isFull isKey
    refine ⟨_, keySent, sent, isSent, Nat.le_add_right _ _, ?_⟩
    have total : keySent + (full - keyNumber) + keyNumber = keySent + full := by
      omega
    rw [total, Nat.add_mod, congruent, ← Nat.add_mod]
  · intro id missing
    apply Rebased.eq_none (rebased id)
    rcases missing with noNumber | noKey
    · left
      have isExpanded := stream.isSome_get_expand incomingRtp incomingVp8 id
      rw [noNumber] at isExpanded
      exact Option.not_isSome_iff_eq_none.mp (by simp [isExpanded])
    · right
      rw [← keyIncoming id]
      exact noKey

theorem QuietStep.follows {incomingRtp : Packet} {incomingVp8 : VideoHeader}
    {sent : Ssrc × Vp8RewrittenIds} (step : QuietStep before
      (.forwardVp8Rtp incomingRtp incomingVp8 (some sent)) after)
    (sound : before.Sound) (anchored : Anchored key before) :
    FollowsKeyFrame key before incomingRtp incomingVp8 sent.2 := by
  obtain ⟨step, quiet⟩ := step
  have effect := step.effect
  generalize isEvent : ForwarderEvent.forwardVp8Rtp incomingRtp incomingVp8
    (some sent) = event at effect
  cases effect with
  | idle silent =>
      rw [← isEvent] at silent
      cases silent
  | want other => cases isEvent
  | pause => cases isEvent
  | proceed silent current continues =>
      rw [← isEvent] at silent
      cases silent
  | send current sameSsrc continues renumbered =>
      cases isEvent
      exact anchored.follows current sameSsrc renumbered
  | switch waiting isKeyFrame isNext sameSsrc =>
      cases isEvent
      exact absurd ⟨incomingRtp.ssrc, congrArg some sameSsrc,
        sound.apart incomingRtp.ssrc waiting⟩ quiet

/-- Sequence numbers are never used for two packets; forwarding starts at key
frames of the wanted layer only, above everything sent before; and from there
to the next start what is sent follows the key frame. -/
theorem video_ids_follow_key_frames {outgoingSsrc : Ssrc}
    {events : List ForwarderEvent} {before : Vp8SimulcastRtpForwarder}
    (run : Run WellFormedStep (new outgoingSsrc) events before) :
    DistinctSequenceNumbers events ∧
    ∀ event middle, WellFormedStep before event middle →
      Starts before middle →
        ∃ key, StartsAt before event middle key ∧
          ∀ between later, Run QuietStep middle between later →
            ∀ incomingRtp incomingVp8 sent finish,
              QuietStep later
                (.forwardVp8Rtp incomingRtp incomingVp8 (some sent)) finish →
              FollowsKeyFrame key later incomingRtp incomingVp8 sent.2 := by
  refine ⟨distinctSequenceNumbers_of_run run, ?_⟩
  intro event middle step starts
  have sound := sound_of_run run
  obtain ⟨key, startsAt, anchored⟩ := step.effect.starts sound starts
  refine ⟨key, startsAt, ?_⟩
  intro between later quietRun incomingRtp incomingVp8 sent finish last
  have kept : later.Sound ∧ Anchored key later := by
    apply quietRun.invariant
    · exact ⟨step.effect.sound sound, anchored⟩
    · rintro state _ next ⟨stateSound, stateAnchored⟩ ⟨quietStep, quiet⟩
      exact ⟨quietStep.effect.sound stateSound,
        quietStep.effect.anchored stateSound quiet stateAnchored⟩
  exact last.follows kept.1 kept.2

/-- A layer is joined at its key frame; a packet of the next frame is sent
with ids that follow it. -/
theorem video_ids_follow_key_frames_next_frame :
    ∃ key : SentKeyFrame, key.outgoing = ⟨2, 1, none, none, some 2⟩ ∧
      FollowsKeyFrame key
        (((new 99).setDesiredSsrc (some 2)).forwardVp8Rtp
          (layerPacket 2 10 1000) (layerFrame true 7)).1
        (layerPacket 2 12 4000) (layerFrame false 8)
        ⟨4, 3001, none, none, some 3⟩ := by
  let wanting := (new 99).setDesiredSsrc (some 2)
  let started := (wanting.forwardVp8Rtp (layerPacket 2 10 1000)
    (layerFrame true 7)).1
  let finish := (started.forwardVp8Rtp (layerPacket 2 12 4000)
    (layerFrame false 8)).1
  have run : Run WellFormedStep (new 99) [.setDesiredSsrc (some 2)] wanting :=
    .snoc .nil ⟨trivial, rfl⟩
  have keyStep : WellFormedStep wanting
      (.forwardVp8Rtp (layerPacket 2 10 1000) (layerFrame true 7)
        (some (99, ⟨2, 1, none, none, some 2⟩))) started :=
    ⟨wellFormed_dependencyDescriptor _, step_of_sent (by decide +kernel)⟩
  have nextStep : QuietStep started
      (.forwardVp8Rtp (layerPacket 2 12 4000) (layerFrame false 8)
        (some (99, ⟨4, 3001, none, none, some 3⟩))) finish :=
    ⟨⟨wellFormed_dependencyDescriptor _, step_of_sent (by decide +kernel)⟩,
      not_starts_of_same (by decide +kernel)⟩
  obtain ⟨_, starting⟩ := video_ids_follow_key_frames run
  obtain ⟨key, startsAt, follows⟩ :=
    starting _ started keyStep ⟨2, by decide, by decide⟩
  have sentAs := startsAt.isEvent
  simp only [ForwarderEvent.forwardVp8Rtp.injEq, Option.some.injEq,
    Prod.mk.injEq] at sentAs
  exact ⟨key, sentAs.2.2.2.symm, follows [] started .nil _ _ _ finish nextStep⟩

end Vp8SimulcastRtpForwarder

end CallingService.Backend
