import CallingService.Backend.Call.Layer
import CallingService.Backend.Vp8
import CallingService.Foundation.Renumbering

/-!
# Forwarders

A forwarder renumbers the packets that one client sends to another.  Audio
and data keep their SSRC; the three layers of a video are forwarded as one
stream, and the forwarder switches between them at key frames.
-/

namespace CallingService.Backend

open Foundation Rtp Vp8

def checkedAddU64 (left right : Nat) : Option Nat :=
  if left + right < 2 ^ 64 then some (left + right) else none

def checkedSubU64 (left right : Nat) : Option Nat :=
  if right ≤ left then some (left - right) else none

theorem checkedAddU64_eq_some {left right sum : Nat}
    (added : checkedAddU64 left right = some sum) : sum = left + right := by
  unfold checkedAddU64 at added
  split at added
  · cases added
    rfl
  · cases added

theorem checkedSubU64_eq_some {left right difference : Nat}
    (subtracted : checkedSubU64 left right = some difference) :
    right ≤ left ∧ difference = left - right := by
  unfold checkedSubU64 at subtracted
  split at subtracted
  · rename_i enough
    cases subtracted
    exact ⟨enough, rfl⟩
  · cases subtracted

/-! ## One SSRC to one SSRC -/

structure SingleSsrcRtpForwarder where
  /-- The first numbers since the latest reset. -/
  firstIncoming : FullSequenceNumber
  firstOutgoing : FullSequenceNumber
  maxOutgoing : FullSequenceNumber
deriving DecidableEq, Repr

namespace SingleSsrcRtpForwarder

def default : SingleSsrcRtpForwarder := ⟨0, 0, 0⟩

def halfCycle : Nat := 32768

/-- The number in the current offset, if there is one. -/
def shifted (forwarder : SingleSsrcRtpForwarder)
    (incoming : FullSequenceNumber) : Option FullSequenceNumber := do
  let distance ← checkedSubU64 incoming forwarder.firstIncoming
  checkedAddU64 forwarder.firstOutgoing distance

/-- The gap is too big: start a new offset, behind a gap of one number. -/
def reset (forwarder : SingleSsrcRtpForwarder)
    (incoming : FullSequenceNumber) :
    SingleSsrcRtpForwarder × Option FullSequenceNumber :=
  match checkedAddU64 forwarder.maxOutgoing 2 with
  | none => (forwarder, none)
  | some outgoing => (⟨incoming, outgoing, outgoing⟩, some outgoing)

/-- The forwarder after the packet, and the outgoing number unless the packet
is dropped. -/
def forwardRtp (forwarder : SingleSsrcRtpForwarder)
    (incoming : FullSequenceNumber) :
    Except Panic (SingleSsrcRtpForwarder × Option FullSequenceNumber) :=
  match forwarder.shifted incoming with
  | none => .ok (forwarder, none)
  | some outgoing =>
      if 2 ^ 64 ≤ forwarder.maxOutgoing + halfCycle then
        .error .overflow
      else if forwarder.maxOutgoing + halfCycle - 1 < outgoing then
        .ok (forwarder.reset incoming)
      else
        .ok ({ forwarder with
          maxOutgoing := max forwarder.maxOutgoing outgoing }, some outgoing)

/-- What one packet does: it is dropped, it starts a new offset above
everything sent before, or it keeps the current offset. -/
theorem forwardRtp_cases {forwarder after : SingleSsrcRtpForwarder}
    {incoming : Nat} {sent : Option Nat}
    (forwarded : forwarder.forwardRtp incoming = .ok (after, sent)) :
    (after = forwarder ∧ sent = none) ∨
    (after = ⟨incoming, forwarder.maxOutgoing + 2, forwarder.maxOutgoing + 2⟩ ∧
      sent = some (forwarder.maxOutgoing + 2)) ∨
    (∃ outgoing, sent = some outgoing ∧
      forwarder.firstIncoming ≤ incoming ∧
      outgoing = forwarder.firstOutgoing +
        (incoming - forwarder.firstIncoming) ∧
      after = { forwarder with
        maxOutgoing := max forwarder.maxOutgoing outgoing }) := by
  unfold forwardRtp at forwarded
  split at forwarded
  · cases forwarded
    exact .inl ⟨rfl, rfl⟩
  · rename_i outgoing isShifted
    split_ifs at forwarded
    · unfold reset at forwarded
      split at forwarded
      · cases forwarded
        exact .inl ⟨rfl, rfl⟩
      · rename_i added
        have sum := checkedAddU64_eq_some added
        subst sum
        cases forwarded
        exact .inr (.inl ⟨rfl, rfl⟩)
    · cases forwarded
      obtain ⟨distance, subtracted, added⟩ :=
        Option.bind_eq_some_iff.mp isShifted
      obtain ⟨enough, distanceEq⟩ := checkedSubU64_eq_some subtracted
      subst distanceEq
      exact .inr (.inr ⟨outgoing, rfl, enough, checkedAddU64_eq_some added,
        rfl⟩)

/-- The forwarder of an SSRC as a renumbering: its window is always open. -/
def renumbering (ssrc : Ssrc) (forwarder : SingleSsrcRtpForwarder) :
    Renumbering Ssrc where
  window := some ⟨ssrc, forwarder.firstIncoming, forwarder.firstOutgoing⟩
  maxOutgoing := forwarder.maxOutgoing

theorem forwardRtp_renumbers {forwarder after : SingleSsrcRtpForwarder}
    {incoming : Nat} {sent : Option Nat} (ssrc : Ssrc)
    (forwarded : forwarder.forwardRtp incoming = .ok (after, sent)) :
    Renumbers (forwarder.renumbering ssrc)
      (sent.toList.map fun outgoing => ⟨ssrc, incoming, outgoing⟩)
      (after.renumbering ssrc) := by
  rcases forwardRtp_cases forwarded with
    ⟨rfl, rfl⟩ | ⟨rfl, rfl⟩ | ⟨outgoing, rfl, inside, rfl, rfl⟩
  · exact .refl
  · -- A reset opens a window and forwards its first number.
    have started : Renumbers (forwarder.renumbering ssrc) []
        ⟨some ⟨ssrc, incoming, forwarder.maxOutgoing + 2⟩,
          forwarder.maxOutgoing + 2⟩ :=
      .start ⟨ssrc, incoming, forwarder.maxOutgoing + 2⟩ .refl
        (Nat.lt_add_of_pos_right Nat.two_pos)
    have sent := Renumbers.forward incoming started rfl (Nat.le_refl _)
    simpa [renumbering] using sent
  · exact @Renumbers.forward _ _ _ _
      ⟨ssrc, forwarder.firstIncoming, forwarder.firstOutgoing⟩ incoming .refl
      rfl inside

end SingleSsrcRtpForwarder

/-! ## Video layers to one SSRC -/

/-- The header of a video packet: that of VP8, or the dependency descriptor
when there is one. -/
inductive VideoHeader where
  | vp8 (header : ParsedHeader)
  | dependencyDescriptor (descriptor : DependencyDescriptor)
deriving DecidableEq, Repr

namespace VideoHeader

def isKeyFrame : VideoHeader → Bool
  | vp8 header => header.isKeyFrame
  | dependencyDescriptor descriptor => descriptor.isKeyFrame

def resolution : VideoHeader → Option PixelSize
  | vp8 header => header.resolution
  | dependencyDescriptor descriptor => descriptor.resolution

def pictureId : VideoHeader → Option TruncatedPictureId
  | vp8 header => header.pictureId
  | dependencyDescriptor _ => none

def tl0PicIdx : VideoHeader → Option TruncatedTl0PicIdx
  | vp8 header => header.tl0PicIdx
  | dependencyDescriptor _ => none

def truncatedFrameNumber : VideoHeader → Option TruncatedFrameNumber
  | vp8 _ => none
  | dependencyDescriptor descriptor => descriptor.truncatedFrameNumber

/-- A VP8 header has both ids; a dependency descriptor has neither. -/
def hasExpectedIds (header : VideoHeader) : Bool :=
  match header with
  | vp8 _ => header.pictureId.isSome && header.tl0PicIdx.isSome
  | dependencyDescriptor _ => header.pictureId.isNone && header.tl0PicIdx.isNone

end VideoHeader

/-- The ids that are rewritten when video is forwarded. -/
structure Vp8RewrittenIds where
  seqnum : FullSequenceNumber
  timestamp : FullTimestamp
  pictureId : Option FullPictureId
  tl0PicIdx : Option FullTl0PicIdx
  frameNumber : Option FullFrameNumber
deriving DecidableEq, Repr

/-- Apply a checked operation to two optional ids; the outer `none` is a
failed check. -/
def zipChecked (operation : Nat → Nat → Option Nat)
    (left right : Option Nat) : Option (Option Nat) :=
  match left, right with
  | some first, some second => (operation first second).map some
  | _, _ => some none

/-- `max` on options, where `None` is the smallest value. -/
def maxOption (left right : Option Nat) : Option Nat :=
  match left, right with
  | some first, some second => some (max first second)
  | some first, none => some first
  | none, other => other

namespace Vp8RewrittenIds

def default : Vp8RewrittenIds := ⟨0, 0, some 0, some 0, some 1⟩

def combine (operation : Nat → Nat → Option Nat)
    (left right : Vp8RewrittenIds) : Option Vp8RewrittenIds := do
  let pictureId ← zipChecked operation left.pictureId right.pictureId
  let tl0PicIdx ← zipChecked operation left.tl0PicIdx right.tl0PicIdx
  let frameNumber ← zipChecked operation left.frameNumber right.frameNumber
  let seqnum ← operation left.seqnum right.seqnum
  let timestamp ← operation left.timestamp right.timestamp
  return ⟨seqnum, timestamp, pictureId, tl0PicIdx, frameNumber⟩

def checkedSub : Vp8RewrittenIds → Vp8RewrittenIds → Option Vp8RewrittenIds :=
  combine checkedSubU64

def checkedAdd : Vp8RewrittenIds → Vp8RewrittenIds → Option Vp8RewrittenIds :=
  combine checkedAddU64

def max (left right : Vp8RewrittenIds) : Vp8RewrittenIds where
  seqnum := Max.max left.seqnum right.seqnum
  timestamp := Max.max left.timestamp right.timestamp
  pictureId := maxOption left.pictureId right.pictureId
  tl0PicIdx := maxOption left.tl0PicIdx right.tl0PicIdx
  frameNumber := maxOption left.frameNumber right.frameNumber

theorem combine_eq_some {operation : Nat → Nat → Option Nat}
    {left right result : Vp8RewrittenIds}
    (combined : combine operation left right = some result) :
    operation left.seqnum right.seqnum = some result.seqnum := by
  obtain ⟨_, _, rest⟩ := Option.bind_eq_some_iff.mp combined
  obtain ⟨_, _, rest⟩ := Option.bind_eq_some_iff.mp rest
  obtain ⟨_, _, rest⟩ := Option.bind_eq_some_iff.mp rest
  obtain ⟨seqnum, found, rest⟩ := Option.bind_eq_some_iff.mp rest
  obtain ⟨_, _, returned⟩ := Option.bind_eq_some_iff.mp rest
  cases returned
  exact found

end Vp8RewrittenIds

inductive Vp8SimulcastRtpSwitchingState where
  | doNotSwitch
  | switchAtNextKeyFrame (ssrc : Ssrc)
deriving DecidableEq, Repr

/-- The stream that is being forwarded. -/
structure Vp8Forwarding where
  incomingSsrc : Ssrc
  needsKeyFrame : Bool
  /-- The first ids since the latest switch. -/
  firstIncoming : Vp8RewrittenIds
  firstOutgoing : Vp8RewrittenIds
  maxIncoming : Vp8RewrittenIds
deriving DecidableEq, Repr

inductive Vp8SimulcastRtpForwardingState where
  | paused
  | forwarding (stream : Vp8Forwarding)
deriving DecidableEq, Repr

structure Vp8SimulcastRtpForwarder where
  outgoingSsrc : Ssrc
  forwarding : Vp8SimulcastRtpForwardingState
  switching : Vp8SimulcastRtpSwitchingState
  maxOutgoing : Vp8RewrittenIds
deriving DecidableEq, Repr

/-- Expand an id around the largest one seen, when both are present. -/
def expandId {α : Type} (expand : α → Nat → Nat × Nat)
    (incoming : Option α) (max : Option Nat) : Option Nat × Option Nat :=
  match incoming, max with
  | some truncated, some largest =>
      (some (expand truncated largest).1, some (expand truncated largest).2)
  | _, _ => (none, max)

def expandTimestamp (timestamp : TruncatedTimestamp) (max : FullTimestamp) :
    FullTimestamp × FullTimestamp :=
  expandTruncatedCounter timestamp.toNat max 32

def expandFrameNumber (frameNumber : TruncatedFrameNumber)
    (max : FullFrameNumber) : FullFrameNumber × FullFrameNumber :=
  expandTruncatedCounter frameNumber.toNat max 16

namespace Vp8Forwarding

/-- The incoming ids in full. -/
def expand (stream : Vp8Forwarding) (incomingRtp : Packet)
    (incomingVp8 : VideoHeader) : Vp8RewrittenIds where
  seqnum := incomingRtp.seqnum
  timestamp :=
    (expandTimestamp incomingRtp.timestamp stream.maxIncoming.timestamp).1
  pictureId := (expandId expandPictureId incomingVp8.pictureId
    stream.maxIncoming.pictureId).1
  tl0PicIdx := (expandId expandTl0PicIdx incomingVp8.tl0PicIdx
    stream.maxIncoming.tl0PicIdx).1
  frameNumber := (expandId expandFrameNumber incomingVp8.truncatedFrameNumber
    stream.maxIncoming.frameNumber).1

/-- The largest incoming ids after the expansion; that of the sequence number
is not tracked. -/
def expandedMax (stream : Vp8Forwarding) (incomingRtp : Packet)
    (incomingVp8 : VideoHeader) : Vp8RewrittenIds where
  seqnum := stream.maxIncoming.seqnum
  timestamp :=
    (expandTimestamp incomingRtp.timestamp stream.maxIncoming.timestamp).2
  pictureId := (expandId expandPictureId incomingVp8.pictureId
    stream.maxIncoming.pictureId).2
  tl0PicIdx := (expandId expandTl0PicIdx incomingVp8.tl0PicIdx
    stream.maxIncoming.tl0PicIdx).2
  frameNumber := (expandId expandFrameNumber incomingVp8.truncatedFrameNumber
    stream.maxIncoming.frameNumber).2

def setMaxIncoming (stream : Vp8Forwarding) (maxIncoming : Vp8RewrittenIds) :
    Vp8Forwarding :=
  { stream with maxIncoming := maxIncoming }

def observe (stream : Vp8Forwarding) (incomingRtp : Packet)
    (incomingVp8 : VideoHeader) : Vp8Forwarding :=
  stream.setMaxIncoming (stream.expandedMax incomingRtp incomingVp8)

@[simp] theorem expand_seqnum (stream : Vp8Forwarding) (incomingRtp : Packet)
    (incomingVp8 : VideoHeader) :
    (stream.expand incomingRtp incomingVp8).seqnum = incomingRtp.seqnum := rfl

theorem setMaxIncoming_window (stream : Vp8Forwarding)
    (maxIncoming : Vp8RewrittenIds) :
    (stream.setMaxIncoming maxIncoming).incomingSsrc = stream.incomingSsrc ∧
      (stream.setMaxIncoming maxIncoming).firstIncoming =
        stream.firstIncoming ∧
      (stream.setMaxIncoming maxIncoming).firstOutgoing =
        stream.firstOutgoing :=
  ⟨rfl, rfl, rfl⟩

def outgoing (stream : Vp8Forwarding) (incoming : Vp8RewrittenIds) :
    Option Vp8RewrittenIds := do
  let distance ← incoming.checkedSub stream.firstIncoming
  stream.firstOutgoing.checkedAdd distance

end Vp8Forwarding

namespace Vp8SimulcastRtpForwarder

def new (outgoingSsrc : Ssrc) : Vp8SimulcastRtpForwarder where
  outgoingSsrc := outgoingSsrc
  forwarding := .paused
  switching := .doNotSwitch
  maxOutgoing := Vp8RewrittenIds.default

def switchingSsrc (forwarder : Vp8SimulcastRtpForwarder) : Option Ssrc :=
  match forwarder.switching with
  | .switchAtNextKeyFrame ssrc => some ssrc
  | .doNotSwitch => none

def forwardingSsrc (forwarder : Vp8SimulcastRtpForwarder) : Option Ssrc :=
  match forwarder.forwarding with
  | .forwarding stream => some stream.incomingSsrc
  | .paused => none

def needsKeyFrame (forwarder : Vp8SimulcastRtpForwarder) : Option Ssrc :=
  match forwarder.switching, forwarder.forwarding with
  | .switchAtNextKeyFrame ssrc, _ => some ssrc
  | .doNotSwitch, .forwarding stream =>
      if stream.needsKeyFrame then some stream.incomingSsrc else none
  | .doNotSwitch, .paused => none

/-- Going back to the forwarded SSRC while waiting for another one changes
nothing. -/
def setDesiredSsrc (forwarder : Vp8SimulcastRtpForwarder)
    (desiredIncomingSsrc : Option Ssrc) : Vp8SimulcastRtpForwarder :=
  match desiredIncomingSsrc with
  | some desired =>
      if forwarder.forwardingSsrc ≠ some desired ∧
          forwarder.switchingSsrc ≠ some desired then
        { forwarder with switching := .switchAtNextKeyFrame desired }
      else forwarder
  | none => { forwarder with forwarding := .paused, switching := .doNotSwitch }

def setNeedsKeyFrame (forwarder : Vp8SimulcastRtpForwarder) :
    Vp8SimulcastRtpForwarder :=
  match forwarder.forwarding with
  | .forwarding stream =>
      { forwarder with
        forwarding := .forwarding { stream with needsKeyFrame := true } }
  | .paused => forwarder

/-- The ids of the key frame at which a switch happens. -/
def firstIncomingIds (incomingRtp : Packet) (incomingVp8 : VideoHeader) :
    Vp8RewrittenIds where
  seqnum := incomingRtp.seqnum
  timestamp := incomingRtp.timestamp.toNat
  pictureId := incomingVp8.pictureId.map (·.toNat)
  tl0PicIdx := incomingVp8.tl0PicIdx.map (·.toNat)
  frameNumber := incomingVp8.truncatedFrameNumber.map (·.toNat)

def switchTo (forwarder : Vp8SimulcastRtpForwarder) (ssrc : Ssrc)
    (firstIncoming firstOutgoing : Vp8RewrittenIds) :
    Vp8SimulcastRtpForwarder :=
  { forwarder with
    forwarding := .forwarding {
      incomingSsrc := ssrc
      needsKeyFrame := false
      firstIncoming := firstIncoming
      firstOutgoing := firstOutgoing
      maxIncoming := firstIncoming }
    switching := .doNotSwitch
    maxOutgoing := firstOutgoing }

/-- Start forwarding the desired SSRC if this is a key frame of it; `none`
when the ids overflow. -/
def switchAtKeyFrame (forwarder : Vp8SimulcastRtpForwarder)
    (incomingRtp : Packet) (incomingVp8 : VideoHeader) :
    Option Vp8SimulcastRtpForwarder :=
  if forwarder.switchingSsrc = some incomingRtp.ssrc ∧
      incomingVp8.isKeyFrame = true then do
    let firstOutgoing ←
      forwarder.maxOutgoing.checkedAdd ⟨2, 1, some 1, some 1, some 1⟩
    return forwarder.switchTo incomingRtp.ssrc
      (firstIncomingIds incomingRtp incomingVp8) firstOutgoing
  else some forwarder

/-- Forward a packet of the current stream.  The largest incoming ids are
updated even when the packet predates the switch. -/
def forwardCurrent (forwarder : Vp8SimulcastRtpForwarder)
    (incomingRtp : Packet) (incomingVp8 : VideoHeader) :
    Vp8SimulcastRtpForwarder × Option (Ssrc × Vp8RewrittenIds) :=
  match forwarder.forwarding with
  | .paused => (forwarder, none)
  | .forwarding stream =>
      if stream.incomingSsrc = incomingRtp.ssrc then
        let observed := stream.observe incomingRtp incomingVp8
        match stream.outgoing (stream.expand incomingRtp incomingVp8) with
        | none => ({ forwarder with forwarding := .forwarding observed }, none)
        | some outgoing =>
            let continued := { observed with
              needsKeyFrame :=
                observed.needsKeyFrame && !incomingVp8.isKeyFrame }
            ({ forwarder with
                forwarding := .forwarding continued
                maxOutgoing := forwarder.maxOutgoing.max outgoing },
              some (forwarder.outgoingSsrc, outgoing))
      else (forwarder, none)

def forwardVp8Rtp (forwarder : Vp8SimulcastRtpForwarder)
    (incomingRtp : Packet) (incomingVp8 : VideoHeader) :
    Vp8SimulcastRtpForwarder × Option (Ssrc × Vp8RewrittenIds) :=
  if incomingVp8.hasExpectedIds then
    match forwarder.switchAtKeyFrame incomingRtp incomingVp8 with
    | none => (forwarder, none)
    | some switched => switched.forwardCurrent incomingRtp incomingVp8
  else (forwarder, none)

/-! ### Video forwarders as renumberings -/

def renumbering (forwarder : Vp8SimulcastRtpForwarder) : Renumbering Ssrc where
  window := match forwarder.forwarding with
    | .paused => none
    | .forwarding stream => some ⟨stream.incomingSsrc,
        stream.firstIncoming.seqnum, stream.firstOutgoing.seqnum⟩
  maxOutgoing := forwarder.maxOutgoing.seqnum

theorem renumbering_eq {forwarder : Vp8SimulcastRtpForwarder}
    {stream : Vp8Forwarding}
    (current : forwarder.forwarding = .forwarding stream) :
    forwarder.renumbering =
      ⟨some ⟨stream.incomingSsrc, stream.firstIncoming.seqnum,
        stream.firstOutgoing.seqnum⟩, forwarder.maxOutgoing.seqnum⟩ := by
  unfold renumbering
  rw [current]

theorem setDesiredSsrc_renumbers (forwarder : Vp8SimulcastRtpForwarder)
    (desired : Option Ssrc) :
    Renumbers forwarder.renumbering []
      (forwarder.setDesiredSsrc desired).renumbering := by
  unfold setDesiredSsrc
  split
  · split
    · exact .refl
    · exact .refl
  · exact .close .refl

@[simp] theorem outgoingSsrc_setDesiredSsrc
    (forwarder : Vp8SimulcastRtpForwarder) (desired : Option Ssrc) :
    (forwarder.setDesiredSsrc desired).outgoingSsrc =
      forwarder.outgoingSsrc := by
  unfold setDesiredSsrc
  split
  · split
    · rfl
    · rfl
  · rfl

theorem switchAtKeyFrame_renumbers {forwarder switched :
      Vp8SimulcastRtpForwarder} {incomingRtp : Packet}
    {incomingVp8 : VideoHeader}
    (succeeded : forwarder.switchAtKeyFrame incomingRtp incomingVp8 =
      some switched) :
    Renumbers forwarder.renumbering [] switched.renumbering ∧
      switched.outgoingSsrc = forwarder.outgoingSsrc := by
  unfold switchAtKeyFrame at succeeded
  split at succeeded
  · obtain ⟨firstOutgoing, added, returned⟩ :=
      Option.bind_eq_some_iff.mp succeeded
    cases returned
    have above := checkedAddU64_eq_some (Vp8RewrittenIds.combine_eq_some added)
    refine ⟨?_, rfl⟩
    apply Renumbers.start ⟨incomingRtp.ssrc, incomingRtp.seqnum,
      firstOutgoing.seqnum⟩ .refl
    change forwarder.maxOutgoing.seqnum < firstOutgoing.seqnum
    rw [above]
    exact Nat.lt_add_of_pos_right Nat.two_pos
  · cases succeeded
    exact ⟨.refl, rfl⟩

theorem outgoing_eq_some {stream : Vp8Forwarding}
    {incoming outgoing : Vp8RewrittenIds}
    (renumbered : stream.outgoing incoming = some outgoing) :
    stream.firstIncoming.seqnum ≤ incoming.seqnum ∧
      outgoing.seqnum = stream.firstOutgoing.seqnum +
        (incoming.seqnum - stream.firstIncoming.seqnum) := by
  obtain ⟨distance, subtracted, added⟩ :=
    Option.bind_eq_some_iff.mp renumbered
  obtain ⟨inside, distanceEq⟩ :=
    checkedSubU64_eq_some (Vp8RewrittenIds.combine_eq_some subtracted)
  have sum := checkedAddU64_eq_some (Vp8RewrittenIds.combine_eq_some added)
  rw [distanceEq] at sum
  exact ⟨inside, sum⟩

/-- The number that a packet is sent with, if it is sent. -/
def sentNumber (incomingRtp : Packet)
    (sent : Option (Ssrc × Vp8RewrittenIds)) : List (Renumbered Ssrc) :=
  sent.toList.map fun outgoing =>
    ⟨incomingRtp.ssrc, incomingRtp.seqnum, outgoing.2.seqnum⟩

theorem forwardCurrent_renumbers (forwarder : Vp8SimulcastRtpForwarder)
    (incomingRtp : Packet) (incomingVp8 : VideoHeader) :
    Renumbers forwarder.renumbering
        (sentNumber incomingRtp
          (forwarder.forwardCurrent incomingRtp incomingVp8).2)
        (forwarder.forwardCurrent incomingRtp incomingVp8).1.renumbering ∧
      (forwarder.forwardCurrent incomingRtp incomingVp8).1.outgoingSsrc =
        forwarder.outgoingSsrc ∧
      ∀ sent, (forwarder.forwardCurrent incomingRtp incomingVp8).2 =
        some sent → sent.1 = forwarder.outgoingSsrc := by
  unfold forwardCurrent
  cases current : forwarder.forwarding with
  | paused => exact ⟨.refl, rfl, fun _ sent => by cases sent⟩
  | forwarding stream =>
      rw [renumbering_eq current]
      dsimp only
      split
      · rename_i sameSsrc
        unfold Vp8Forwarding.observe
        generalize stream.expandedMax incomingRtp incomingVp8 = maxIncoming
        obtain ⟨kept, keptIncoming, keptOutgoing⟩ :=
          stream.setMaxIncoming_window maxIncoming
        generalize stream.setMaxIncoming maxIncoming = observed at *
        cases renumbered :
            stream.outgoing (stream.expand incomingRtp incomingVp8) with
        | none =>
            refine ⟨?_, rfl, fun _ sent => by cases sent⟩
            unfold sentNumber renumbering
            dsimp only
            rw [kept, keptIncoming, keptOutgoing]
            exact .refl
        | some outgoing =>
            obtain ⟨inside, number⟩ := outgoing_eq_some renumbered
            rw [Vp8Forwarding.expand_seqnum] at inside number
            refine ⟨?_, rfl, fun _ sent => by cases sent; rfl⟩
            have sent := @Renumbers.forward _ ⟨some ⟨stream.incomingSsrc,
              stream.firstIncoming.seqnum, stream.firstOutgoing.seqnum⟩,
              forwarder.maxOutgoing.seqnum⟩ _ _ _ incomingRtp.seqnum .refl rfl
              inside
            unfold sentNumber renumbering Vp8RewrittenIds.max
            simp only [Option.toList_some, List.map_cons, List.map_nil]
            rw [kept, keptIncoming, keptOutgoing, number, ← sameSsrc]
            exact sent
      · rw [renumbering_eq current]
        exact ⟨.refl, rfl, fun _ sent => by cases sent⟩

theorem forwardVp8Rtp_renumbers (forwarder : Vp8SimulcastRtpForwarder)
    (incomingRtp : Packet) (incomingVp8 : VideoHeader) :
    Renumbers forwarder.renumbering
        (sentNumber incomingRtp
          (forwarder.forwardVp8Rtp incomingRtp incomingVp8).2)
        (forwarder.forwardVp8Rtp incomingRtp incomingVp8).1.renumbering ∧
      (forwarder.forwardVp8Rtp incomingRtp incomingVp8).1.outgoingSsrc =
        forwarder.outgoingSsrc ∧
      ∀ sent, (forwarder.forwardVp8Rtp incomingRtp incomingVp8).2 =
        some sent → sent.1 = forwarder.outgoingSsrc := by
  unfold forwardVp8Rtp
  split
  · cases succeeded : forwarder.switchAtKeyFrame incomingRtp incomingVp8 with
    | none => exact ⟨.refl, rfl, fun _ sent => by cases sent⟩
    | some switched =>
        obtain ⟨opened, keptSsrc⟩ := switchAtKeyFrame_renumbers succeeded
        obtain ⟨renumbers, stillSsrc, named⟩ :=
          switched.forwardCurrent_renumbers incomingRtp incomingVp8
        rw [keptSsrc] at stillSsrc named
        have both := opened.trans renumbers
        rw [List.nil_append] at both
        exact ⟨both, stillSsrc, named⟩
  · exact ⟨.refl, rfl, fun _ sent => by cases sent⟩

end Vp8SimulcastRtpForwarder

end CallingService.Backend
