import CallingService.Backend.Call.RewrittenIds
import CallingService.Foundation.Run

/-!
# Runs of the video forwarder

A run mixes changes of the desired layer with packets.  What a step does to
the stream that is forwarded is said once, in the cases of `forwardVp8Rtp`;
the results about whole runs follow from it.
-/

namespace CallingService.Backend

open Foundation Rtp Vp8

inductive ForwarderEvent where
  | setDesiredSsrc (desired : Option Ssrc)
  | setNeedsKeyFrame
  | forwardVp8Rtp (incomingRtp : Packet) (incomingVp8 : VideoHeader)
      (sent : Option (Ssrc × Vp8RewrittenIds))

/-- The headers are those that the parsers make. -/
def ForwarderEvent.WellFormed : ForwarderEvent → Prop
  | .forwardVp8Rtp _ incomingVp8 _ => incomingVp8.WellFormed
  | _ => True

/-- What the event sends, if anything. -/
def ForwarderEvent.sent : ForwarderEvent → Option (Ssrc × Vp8RewrittenIds)
  | .forwardVp8Rtp _ _ sent => sent
  | _ => none

namespace Vp8SimulcastRtpForwarder

def ForwarderStep (before : Vp8SimulcastRtpForwarder) (event : ForwarderEvent)
    (after : Vp8SimulcastRtpForwarder) : Prop :=
  match event with
  | .setDesiredSsrc desired => after = before.setDesiredSsrc desired
  | .setNeedsKeyFrame => after = before.setNeedsKeyFrame
  | .forwardVp8Rtp incomingRtp incomingVp8 sent =>
      before.forwardVp8Rtp incomingRtp incomingVp8 = (after, sent)

variable {incomingRtp : Packet} {incomingVp8 : VideoHeader}

theorem step_of_sent {before : Vp8SimulcastRtpForwarder}
    {sent : Option (Ssrc × Vp8RewrittenIds)}
    (isSent : (before.forwardVp8Rtp incomingRtp incomingVp8).2 = sent) :
    ForwarderStep before (.forwardVp8Rtp incomingRtp incomingVp8 sent)
      (before.forwardVp8Rtp incomingRtp incomingVp8).1 := by
  subst isSent
  rfl

def WellFormedStep :=
  Guarded (fun (_ : Vp8SimulcastRtpForwarder) (event : ForwarderEvent) =>
    event.WellFormed) ForwarderStep

/-- Forwarding of an SSRC starts: the one before was another one, or none. -/
def Starts (before after : Vp8SimulcastRtpForwarder) : Prop :=
  ∃ ssrc, after.forwardingSsrc = some ssrc ∧
    before.forwardingSsrc ≠ some ssrc

/-- A step that does not start the forwarding of an SSRC. -/
def QuietStep (before : Vp8SimulcastRtpForwarder) (event : ForwarderEvent)
    (after : Vp8SimulcastRtpForwarder) : Prop :=
  WellFormedStep before event after ∧ ¬ Starts before after

/-! ## What a packet does -/

/-- The stream goes on: only the largest incoming ids and the wish for a key
frame change. -/
structure Continues (stream later : Vp8Forwarding) : Prop where
  incomingSsrc : later.incomingSsrc = stream.incomingSsrc
  firstIncoming : later.firstIncoming = stream.firstIncoming
  firstOutgoing : later.firstOutgoing = stream.firstOutgoing
  present : ∀ id, (later.maxIncoming.get id).isSome =
    (stream.maxIncoming.get id).isSome

theorem continues_setMaxIncoming (stream : Vp8Forwarding)
    (maxIncoming : Vp8RewrittenIds)
    (present : ∀ id, (maxIncoming.get id).isSome =
      (stream.maxIncoming.get id).isSome) :
    Continues stream (stream.setMaxIncoming maxIncoming) :=
  ⟨rfl, rfl, rfl, present⟩

theorem continues_observe (stream : Vp8Forwarding) (incomingRtp : Packet)
    (incomingVp8 : VideoHeader) :
    Continues stream (stream.observe incomingRtp incomingVp8) := by
  unfold Vp8Forwarding.observe
  apply continues_setMaxIncoming
  exact stream.isSome_get_expandedMax incomingRtp incomingVp8

theorem Continues.withNeedsKeyFrame {stream later : Vp8Forwarding}
    (continues : Continues stream later) (needsKeyFrame : Bool) :
    Continues stream { later with needsKeyFrame := needsKeyFrame } :=
  ⟨continues.incomingSsrc, continues.firstIncoming, continues.firstOutgoing,
    continues.present⟩

variable {forwarder : Vp8SimulcastRtpForwarder}

theorem forwardCurrent_of_sent {stream : Vp8Forwarding}
    {outgoing : Vp8RewrittenIds}
    (current : forwarder.forwarding = .forwarding stream)
    (sameSsrc : stream.incomingSsrc = incomingRtp.ssrc)
    (renumbered : stream.outgoing (stream.expand incomingRtp incomingVp8) =
      some outgoing) :
    ∃ later, Continues stream later ∧
      forwarder.forwardCurrent incomingRtp incomingVp8 =
        ({ forwarder with
          forwarding := .forwarding later
          maxOutgoing := forwarder.maxOutgoing.max outgoing },
          some (forwarder.outgoingSsrc, outgoing)) := by
  unfold forwardCurrent
  rw [current]
  dsimp only
  rw [if_pos sameSsrc, renumbered]
  have continues := continues_observe stream incomingRtp incomingVp8
  generalize stream.observe incomingRtp incomingVp8 = observed at *
  exact ⟨{ observed with
      needsKeyFrame := observed.needsKeyFrame && !incomingVp8.isKeyFrame },
    continues.withNeedsKeyFrame _, rfl⟩

theorem forwardCurrent_of_dropped {stream : Vp8Forwarding}
    (current : forwarder.forwarding = .forwarding stream)
    (sameSsrc : stream.incomingSsrc = incomingRtp.ssrc)
    (dropped : stream.outgoing (stream.expand incomingRtp incomingVp8) =
      none) :
    ∃ later, Continues stream later ∧
      forwarder.forwardCurrent incomingRtp incomingVp8 =
        ({ forwarder with forwarding := .forwarding later }, none) := by
  unfold forwardCurrent
  rw [current]
  dsimp only
  rw [if_pos sameSsrc, dropped]
  have continues := continues_observe stream incomingRtp incomingVp8
  generalize stream.observe incomingRtp incomingVp8 = observed at *
  exact ⟨observed, continues, rfl⟩

theorem forwardCurrent_of_other
    (other : forwarder.forwardingSsrc ≠ some incomingRtp.ssrc) :
    forwarder.forwardCurrent incomingRtp incomingVp8 = (forwarder, none) := by
  unfold forwardingSsrc at other
  unfold forwardCurrent
  cases current : forwarder.forwarding with
  | paused => rfl
  | forwarding stream =>
      rw [current] at other
      dsimp only at other ⊢
      rw [if_neg (fun same => other (congrArg some same))]

/-- A packet outside of the current stream changes nothing, one that predates
the switch is dropped, and any other one is sent. -/
theorem forwardCurrent_cases (forwarder : Vp8SimulcastRtpForwarder)
    (incomingRtp : Packet) (incomingVp8 : VideoHeader) :
    forwarder.forwardCurrent incomingRtp incomingVp8 = (forwarder, none) ∨
    ∃ stream later, forwarder.forwarding = .forwarding stream ∧
      stream.incomingSsrc = incomingRtp.ssrc ∧ Continues stream later ∧
      (forwarder.forwardCurrent incomingRtp incomingVp8 =
          ({ forwarder with forwarding := .forwarding later }, none) ∨
        ∃ outgoing,
          stream.outgoing (stream.expand incomingRtp incomingVp8) =
            some outgoing ∧
          forwarder.forwardCurrent incomingRtp incomingVp8 =
            ({ forwarder with
              forwarding := .forwarding later
              maxOutgoing := forwarder.maxOutgoing.max outgoing },
              some (forwarder.outgoingSsrc, outgoing))) := by
  by_cases isCurrent : forwarder.forwardingSsrc = some incomingRtp.ssrc
  · right
    unfold forwardingSsrc at isCurrent
    cases current : forwarder.forwarding with
    | paused =>
        rw [current] at isCurrent
        cases isCurrent
    | forwarding stream =>
        rw [current] at isCurrent
        have sameSsrc : stream.incomingSsrc = incomingRtp.ssrc :=
          Option.some.inj isCurrent
        cases renumbered :
            stream.outgoing (stream.expand incomingRtp incomingVp8) with
        | none =>
            obtain ⟨later, continues, result⟩ :=
              forwardCurrent_of_dropped current sameSsrc renumbered
            exact ⟨stream, later, rfl, sameSsrc, continues, .inl result⟩
        | some outgoing =>
            obtain ⟨later, continues, result⟩ :=
              forwardCurrent_of_sent current sameSsrc renumbered
            exact ⟨stream, later, rfl, sameSsrc, continues,
              .inr ⟨outgoing, renumbered, result⟩⟩
  · exact .inl (forwardCurrent_of_other isCurrent)

/-- The ids above everything sent before. -/
def nextFirst (forwarder : Vp8SimulcastRtpForwarder) :
    Option Vp8RewrittenIds :=
  forwarder.maxOutgoing.checkedAdd ⟨2, 1, some 1, some 1, some 1⟩

theorem forwardVp8Rtp_cases (forwarder : Vp8SimulcastRtpForwarder)
    (incomingRtp : Packet) (incomingVp8 : VideoHeader) :
    forwarder.forwardVp8Rtp incomingRtp incomingVp8 = (forwarder, none) ∨
    (∃ first, forwarder.switchingSsrc = some incomingRtp.ssrc ∧
      incomingVp8.isKeyFrame = true ∧ forwarder.nextFirst = some first ∧
      forwarder.forwardVp8Rtp incomingRtp incomingVp8 =
        (forwarder.switchTo incomingRtp.ssrc
          (firstIncomingIds incomingRtp incomingVp8) first).forwardCurrent
            incomingRtp incomingVp8) ∨
    forwarder.forwardVp8Rtp incomingRtp incomingVp8 =
      forwarder.forwardCurrent incomingRtp incomingVp8 := by
  unfold forwardVp8Rtp
  split
  · by_cases atKeyFrame : forwarder.switchingSsrc = some incomingRtp.ssrc ∧
        incomingVp8.isKeyFrame = true
    · have switched : forwarder.switchAtKeyFrame incomingRtp incomingVp8 =
          forwarder.nextFirst.bind fun first =>
            some (forwarder.switchTo incomingRtp.ssrc
              (firstIncomingIds incomingRtp incomingVp8) first) := by
        unfold switchAtKeyFrame
        rw [if_pos atKeyFrame]
        rfl
      rw [switched]
      cases forwarder.nextFirst with
      | none => exact .inl rfl
      | some first =>
          exact .inr (.inl ⟨first, atKeyFrame.1, atKeyFrame.2, rfl, rfl⟩)
    · have same : forwarder.switchAtKeyFrame incomingRtp incomingVp8 =
          some forwarder := by
        unfold switchAtKeyFrame
        rw [if_neg atKeyFrame]
      rw [same]
      exact .inr (.inr rfl)
  · exact .inl rfl

theorem zipChecked_add_small {left right result : Option Nat} {sum : Nat}
    (added : zipChecked checkedAddU64 left right = some result)
    (present : result = some sum) : sum < 2 ^ 64 := by
  subst present
  unfold zipChecked at added
  split at added
  · obtain ⟨total, checked, same⟩ := Option.map_eq_some_iff.mp added
    cases same
    unfold checkedAddU64 at checked
    split at checked
    · rename_i small
      cases checked
      exact small
    · cases checked
  · cases added

/-- The key frame at which a switch happens is sent. -/
theorem forwardCurrent_switchTo {first : Vp8RewrittenIds}
    (wellFormed : incomingVp8.WellFormed)
    (isNext : forwarder.nextFirst = some first) :
    ∃ later, later.incomingSsrc = incomingRtp.ssrc ∧
      later.firstIncoming = firstIncomingIds incomingRtp incomingVp8 ∧
      later.firstOutgoing = first ∧
      (∀ id, (later.maxIncoming.get id).isSome =
        (incomingId incomingRtp incomingVp8 id).isSome) ∧
      (forwarder.switchTo incomingRtp.ssrc
          (firstIncomingIds incomingRtp incomingVp8) first).forwardCurrent
            incomingRtp incomingVp8 =
        ({ forwarder with
          forwarding := .forwarding later
          switching := .doNotSwitch
          maxOutgoing := first.max
            ((firstIncomingIds incomingRtp incomingVp8).onlyPresent first) },
          some (forwarder.outgoingSsrc,
            (firstIncomingIds incomingRtp incomingVp8).onlyPresent first)) := by
  unfold incomingId
  generalize isFirst : firstIncomingIds incomingRtp incomingVp8 = ids
  let stream : Vp8Forwarding := {
    incomingSsrc := incomingRtp.ssrc
    needsKeyFrame := false
    firstIncoming := ids
    firstOutgoing := first
    maxIncoming := ids }
  have expanded : stream.expand incomingRtp incomingVp8 = ids := by
    rw [Vp8Forwarding.expand_first wellFormed isFirst.symm]
    exact isFirst
  have renumbered :
      stream.outgoing (stream.expand incomingRtp incomingVp8) =
        some (ids.onlyPresent first) := by
    rw [expanded]
    apply Vp8Forwarding.outgoing_first
    intro id value present
    exact zipChecked_add_small (Vp8RewrittenIds.get_combine isNext id) present
  obtain ⟨later, continues, result⟩ := @forwardCurrent_of_sent
    incomingRtp incomingVp8 (forwarder.switchTo incomingRtp.ssrc ids first)
    stream _ rfl rfl renumbered
  exact ⟨later, continues.incomingSsrc, continues.firstIncoming,
    continues.firstOutgoing, continues.present, result⟩

/-! ## What a step does -/

inductive Effect (before : Vp8SimulcastRtpForwarder) :
    ForwarderEvent → Vp8SimulcastRtpForwarder → Prop
  | idle {event : ForwarderEvent} (silent : event.sent = none) :
      Effect before event before
  | want {desired : Ssrc} (other : before.forwardingSsrc ≠ some desired) :
      Effect before (.setDesiredSsrc (some desired))
        { before with switching := .switchAtNextKeyFrame desired }
  | pause :
      Effect before (.setDesiredSsrc none)
        { before with forwarding := .paused, switching := .doNotSwitch }
  | proceed {event : ForwarderEvent} {stream later : Vp8Forwarding}
      (silent : event.sent = none)
      (current : before.forwarding = .forwarding stream)
      (continues : Continues stream later) :
      Effect before event { before with forwarding := .forwarding later }
  | send {incomingRtp : Packet} {incomingVp8 : VideoHeader}
      {stream later : Vp8Forwarding} {outgoing : Vp8RewrittenIds}
      (current : before.forwarding = .forwarding stream)
      (sameSsrc : stream.incomingSsrc = incomingRtp.ssrc)
      (continues : Continues stream later)
      (renumbered :
        stream.outgoing (stream.expand incomingRtp incomingVp8) =
          some outgoing) :
      Effect before
        (.forwardVp8Rtp incomingRtp incomingVp8
          (some (before.outgoingSsrc, outgoing)))
        { before with
          forwarding := .forwarding later
          maxOutgoing := before.maxOutgoing.max outgoing }
  | switch {incomingRtp : Packet} {incomingVp8 : VideoHeader}
      {first : Vp8RewrittenIds} {later : Vp8Forwarding}
      (waiting : before.switchingSsrc = some incomingRtp.ssrc)
      (isKeyFrame : incomingVp8.isKeyFrame = true)
      (isNext : before.nextFirst = some first)
      (sameSsrc : later.incomingSsrc = incomingRtp.ssrc)
      (firstIncoming :
        later.firstIncoming = firstIncomingIds incomingRtp incomingVp8)
      (firstOutgoing : later.firstOutgoing = first)
      (present : ∀ id, (later.maxIncoming.get id).isSome =
        (incomingId incomingRtp incomingVp8 id).isSome) :
      Effect before
        (.forwardVp8Rtp incomingRtp incomingVp8
          (some (before.outgoingSsrc,
            (firstIncomingIds incomingRtp incomingVp8).onlyPresent first)))
        { before with
          forwarding := .forwarding later
          switching := .doNotSwitch
          maxOutgoing := first.max
            ((firstIncomingIds incomingRtp incomingVp8).onlyPresent first) }

theorem effect_setDesiredSsrc (before : Vp8SimulcastRtpForwarder)
    (desired : Option Ssrc) :
    Effect before (.setDesiredSsrc desired)
      (before.setDesiredSsrc desired) := by
  cases desired with
  | none => exact .pause
  | some ssrc =>
      unfold setDesiredSsrc
      dsimp only
      split
      · rename_i other
        exact .want other.1
      · exact .idle rfl

theorem effect_setNeedsKeyFrame (before : Vp8SimulcastRtpForwarder) :
    Effect before .setNeedsKeyFrame before.setNeedsKeyFrame := by
  unfold setNeedsKeyFrame
  cases current : before.forwarding with
  | paused => exact .idle rfl
  | forwarding stream => exact .proceed rfl current ⟨rfl, rfl, rfl, fun _ => rfl⟩

theorem effect_forwardCurrent (before : Vp8SimulcastRtpForwarder)
    (incomingRtp : Packet) (incomingVp8 : VideoHeader) :
    Effect before
      (.forwardVp8Rtp incomingRtp incomingVp8
        (before.forwardCurrent incomingRtp incomingVp8).2)
      (before.forwardCurrent incomingRtp incomingVp8).1 := by
  rcases before.forwardCurrent_cases incomingRtp incomingVp8 with
    result | ⟨stream, later, current, sameSsrc, continues, result⟩
  · rw [result]
    exact .idle rfl
  · rcases result with result | ⟨outgoing, renumbered, result⟩
    · rw [result]
      exact .proceed rfl current continues
    · rw [result]
      exact .send current sameSsrc continues renumbered

theorem WellFormedStep.effect {before after : Vp8SimulcastRtpForwarder}
    {event : ForwarderEvent} (step : WellFormedStep before event after) :
    Effect before event after := by
  obtain ⟨wellFormed, step⟩ := step
  cases event with
  | setDesiredSsrc desired =>
      rw [show after = _ from step]
      exact effect_setDesiredSsrc before desired
  | setNeedsKeyFrame =>
      rw [show after = _ from step]
      exact effect_setNeedsKeyFrame before
  | forwardVp8Rtp incomingRtp incomingVp8 sent =>
      have forwarded : before.forwardVp8Rtp incomingRtp incomingVp8 =
        (after, sent) := step
      rcases before.forwardVp8Rtp_cases incomingRtp incomingVp8 with
        result | ⟨first, waiting, isKeyFrame, isNext, result⟩ | result
      · rw [result] at forwarded
        cases forwarded
        exact .idle rfl
      · obtain ⟨later, sameSsrc, firstIncoming, firstOutgoing, present,
            switched⟩ :=
          @forwardCurrent_switchTo incomingRtp incomingVp8 before first
            wellFormed isNext
        rw [result, switched] at forwarded
        cases forwarded
        exact .switch waiting isKeyFrame isNext sameSsrc firstIncoming
          firstOutgoing present
      · have effect := before.effect_forwardCurrent incomingRtp incomingVp8
        rw [result] at forwarded
        rw [forwarded] at effect
        exact effect

end Vp8SimulcastRtpForwarder

/-! ## Concrete packets -/

/-- A packet of a video layer, without its bytes. -/
def layerPacket (ssrc : Ssrc) (seqnum : Nat) (timestamp : UInt32) : Packet where
  marker := false
  payloadTypeInHeader := vp8PayloadType
  ssrcInHeader := ssrc
  seqnumInHeader := seqnum
  seqnumInPayload := none
  pendingRetransmission := false
  timestamp := timestamp
  videoRotation := none
  audioLevel := none
  dependencyDescriptor := none
  tccSeqnum := none
  tccSeqnumRange := none
  payloadRangeInHeader := ⟨12, 12⟩
  encrypted := false
  deadline := none
  paddingByteCount := 0
  serialized := []

def layerFrame (isKeyFrame : Bool) (frameNumber : UInt16) : VideoHeader :=
  .dependencyDescriptor ⟨isKeyFrame, none, some frameNumber⟩

end CallingService.Backend
