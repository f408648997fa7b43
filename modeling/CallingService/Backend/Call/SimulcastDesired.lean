import CallingService.Backend.Call.SimulcastRun

/-!
# The desired layer

Between two calls of `set_desired_ssrc` the forwarder should turn to the
desired layer only.  It does, except when the layer that is forwarded becomes
the desired one again while a switch to another one is waiting: the switch is
not called off.
-/

namespace CallingService.Backend.Vp8SimulcastRtpForwarder

open Foundation Rtp Vp8

/-- A step that leaves the desired layer alone. -/
def Undisturbed (before : Vp8SimulcastRtpForwarder) (event : ForwarderEvent)
    (after : Vp8SimulcastRtpForwarder) : Prop :=
  ForwarderStep before event after ∧
    ∀ desired, event ≠ .setDesiredSsrc desired

/-- Only the desired layer is turned to, and key frames are asked for it or for
the layer that is being forwarded. -/
def TurnsOnlyTo (desired : Ssrc) (forwarder : Vp8SimulcastRtpForwarder) :
    Prop :=
  (∀ ssrc, forwarder.needsKeyFrame = some ssrc →
    ssrc = desired ∨ forwarder.forwardingSsrc = some ssrc) ∧
  ∀ event after, Undisturbed forwarder event after →
    ∀ ssrc, after.forwardingSsrc = some ssrc →
      forwarder.forwardingSsrc ≠ some ssrc → ssrc = desired

def SendsNothing (forwarder : Vp8SimulcastRtpForwarder) : Prop :=
  ∀ event after, Undisturbed forwarder event after → event.sent = none

/-- What the desired layer promises until it is set again. -/
def Obeys (desired : Option Ssrc) (start : Vp8SimulcastRtpForwarder) : Prop :=
  ∀ events finish, Run Undisturbed start events finish →
    match desired with
    | some ssrc => finish.TurnsOnlyTo ssrc
    | none => finish.SendsNothing

/-- The desired layer is the forwarded one, but a switch to another one is
waiting for a key frame. -/
def WaitsElsewhere (forwarder : Vp8SimulcastRtpForwarder) :
    Option Ssrc → Prop
  | some desired => forwarder.forwardingSsrc = some desired ∧
      ∃ other, other ≠ desired ∧ forwarder.switchingSsrc = some other
  | none => False

/-! ## The layers of a step -/

theorem forwardCurrent_ssrcs (forwarder : Vp8SimulcastRtpForwarder)
    (incomingRtp : Packet) (incomingVp8 : VideoHeader) :
    (forwarder.forwardCurrent incomingRtp incomingVp8).1.forwardingSsrc =
        forwarder.forwardingSsrc ∧
      (forwarder.forwardCurrent incomingRtp incomingVp8).1.switching =
        forwarder.switching := by
  rcases forwarder.forwardCurrent_cases incomingRtp incomingVp8 with
    result | ⟨stream, later, current, _, continues, result⟩
  · rw [result]
    exact ⟨rfl, rfl⟩
  · have same : some later.incomingSsrc = forwarder.forwardingSsrc := by
      unfold forwardingSsrc
      rw [current, continues.incomingSsrc]
    rcases result with result | ⟨outgoing, _, result⟩
    · rw [result]
      exact ⟨same, rfl⟩
    · rw [result]
      exact ⟨same, rfl⟩

/-- A step keeps the two layers, or it turns to the one that was waited
for. -/
theorem Undisturbed.ssrcs {before after : Vp8SimulcastRtpForwarder}
    {event : ForwarderEvent} (step : Undisturbed before event after) :
    (after.forwardingSsrc = before.forwardingSsrc ∧
      after.switching = before.switching) ∨
    ∃ ssrc, before.switchingSsrc = some ssrc ∧
      after.forwardingSsrc = some ssrc ∧ after.switching = .doNotSwitch := by
  obtain ⟨step, undisturbed⟩ := step
  cases event with
  | setDesiredSsrc desired => exact absurd rfl (undisturbed desired)
  | setNeedsKeyFrame =>
      rw [show after = _ from step]
      unfold setNeedsKeyFrame
      cases current : before.forwarding with
      | paused => exact .inl ⟨rfl, rfl⟩
      | forwarding stream =>
          left
          unfold forwardingSsrc
          rw [current]
          exact ⟨rfl, rfl⟩
  | forwardVp8Rtp incomingRtp incomingVp8 sent =>
      have forwarded : before.forwardVp8Rtp incomingRtp incomingVp8 =
        (after, sent) := step
      rcases before.forwardVp8Rtp_cases incomingRtp incomingVp8 with
        result | ⟨first, waiting, _, _, result⟩ | result
      · rw [result] at forwarded
        cases forwarded
        exact .inl ⟨rfl, rfl⟩
      · have kept := forwardCurrent_ssrcs (before.switchTo incomingRtp.ssrc
          (firstIncomingIds incomingRtp incomingVp8) first) incomingRtp
          incomingVp8
        rw [← result, forwarded] at kept
        exact .inr ⟨incomingRtp.ssrc, waiting, kept.1, kept.2⟩
      · have kept := before.forwardCurrent_ssrcs incomingRtp incomingVp8
        rw [← result, forwarded] at kept
        exact .inl kept

/-! ## A desired layer -/

/-- Nothing but the desired layer is waited for. -/
def WaitsOnlyFor (desired : Ssrc) (forwarder : Vp8SimulcastRtpForwarder) :
    Prop :=
  ∀ ssrc, forwarder.switchingSsrc = some ssrc → ssrc = desired

theorem waitsOnlyFor_setDesiredSsrc {before : Vp8SimulcastRtpForwarder}
    {desired : Ssrc} (nowhereElse : ¬ before.WaitsElsewhere (some desired)) :
    (before.setDesiredSsrc (some desired)).WaitsOnlyFor desired := by
  intro ssrc waiting
  unfold setDesiredSsrc at waiting
  dsimp only at waiting
  split at waiting
  · cases waiting
    rfl
  · rename_i known
    by_contra other
    apply nowhereElse
    refine ⟨?_, ssrc, other, waiting⟩
    by_contra notForwarded
    apply known
    refine ⟨notForwarded, ?_⟩
    rw [waiting]
    intro same
    cases same
    exact other rfl

theorem WaitsOnlyFor.step {desired : Ssrc}
    {before after : Vp8SimulcastRtpForwarder} {event : ForwarderEvent}
    (waits : before.WaitsOnlyFor desired)
    (step : Undisturbed before event after) :
    after.WaitsOnlyFor desired := by
  intro ssrc waiting
  unfold switchingSsrc at waiting
  rcases step.ssrcs with ⟨_, kept⟩ | ⟨_, _, _, switched⟩
  · rw [kept] at waiting
    exact waits ssrc waiting
  · rw [switched] at waiting
    cases waiting

theorem WaitsOnlyFor.turnsOnlyTo {desired : Ssrc}
    {forwarder : Vp8SimulcastRtpForwarder}
    (waits : forwarder.WaitsOnlyFor desired) :
    forwarder.TurnsOnlyTo desired := by
  constructor
  · intro ssrc asked
    unfold needsKeyFrame at asked
    cases switching : forwarder.switching with
    | switchAtNextKeyFrame waited =>
        rw [switching] at asked
        cases asked
        left
        apply waits
        unfold switchingSsrc
        rw [switching]
    | doNotSwitch =>
        cases current : forwarder.forwarding with
        | paused =>
            rw [switching, current] at asked
            cases asked
        | forwarding stream =>
            rw [switching, current] at asked
            dsimp only at asked
            split at asked
            · cases asked
              right
              unfold forwardingSsrc
              rw [current]
            · cases asked
  · intro event after step ssrc started notBefore
    rcases step.ssrcs with ⟨kept, _⟩ | ⟨other, waiting, switched, _⟩
    · rw [kept] at started
      exact absurd started notBefore
    · rw [switched] at started
      cases started
      exact waits ssrc waiting

/-! ## No desired layer -/

def Idle (forwarder : Vp8SimulcastRtpForwarder) : Prop :=
  forwarder.forwarding = .paused ∧ forwarder.switching = .doNotSwitch

theorem Idle.step {before after : Vp8SimulcastRtpForwarder}
    {event : ForwarderEvent} (idle : before.Idle)
    (step : Undisturbed before event after) :
    after = before ∧ event.sent = none := by
  obtain ⟨paused, noSwitch⟩ := idle
  obtain ⟨step, undisturbed⟩ := step
  have noForwarding : before.forwardingSsrc = none := by
    unfold forwardingSsrc
    rw [paused]
  have noSwitching : before.switchingSsrc = none := by
    unfold switchingSsrc
    rw [noSwitch]
  cases event with
  | setDesiredSsrc desired => exact absurd rfl (undisturbed desired)
  | setNeedsKeyFrame =>
      refine ⟨?_, rfl⟩
      rw [show after = _ from step]
      unfold setNeedsKeyFrame
      rw [paused]
  | forwardVp8Rtp incomingRtp incomingVp8 sent =>
      have forwarded : before.forwardVp8Rtp incomingRtp incomingVp8 =
        (after, sent) := step
      rcases before.forwardVp8Rtp_cases incomingRtp incomingVp8 with
        result | ⟨first, waiting, _⟩ | result
      · rw [result] at forwarded
        cases forwarded
        exact ⟨rfl, rfl⟩
      · rw [noSwitching] at waiting
        cases waiting
      · have other : before.forwardingSsrc ≠ some incomingRtp.ssrc := by
          rw [noForwarding]
          exact Option.some_ne_none _ |>.symm
        rw [result, forwardCurrent_of_other other] at forwarded
        cases forwarded
        exact ⟨rfl, rfl⟩

/-! ## Results -/

theorem obeys_of_nowhereElse {before : Vp8SimulcastRtpForwarder}
    {desired : Option Ssrc} (nowhereElse : ¬ before.WaitsElsewhere desired) :
    Obeys desired (before.setDesiredSsrc desired) := by
  intro events finish run
  cases desired with
  | some ssrc =>
      have waits : finish.WaitsOnlyFor ssrc := by
        apply run.invariant
        · exact waitsOnlyFor_setDesiredSsrc nowhereElse
        · intro state event next waits step
          exact waits.step step
      exact waits.turnsOnlyTo
  | none =>
      have idle : finish.Idle := by
        apply run.invariant
        · exact ⟨rfl, rfl⟩
        · intro state event next idle step
          rw [(idle.step step).1]
          exact idle
      intro event after step
      exact (idle.step step).2

/-- From every state, the desired layer is obeyed until it is set again if and
only if it does not return to the forwarded layer during a switch. -/
theorem obeys_setDesiredSsrc_iff (before : Vp8SimulcastRtpForwarder)
    (desired : Option Ssrc) :
    Obeys desired (before.setDesiredSsrc desired) ↔
      ¬ before.WaitsElsewhere desired := by
  refine ⟨?_, obeys_of_nowhereElse⟩
  intro obeys waitsElsewhere
  cases desired with
  | none => exact waitsElsewhere
  | some ssrc =>
      obtain ⟨forwarded, other, notDesired, waiting⟩ := waitsElsewhere
      have unchanged : before.setDesiredSsrc (some ssrc) = before := by
        unfold setDesiredSsrc
        dsimp only
        rw [if_neg (fun both => both.1 forwarded)]
      rw [unchanged] at obeys
      have asks : before.needsKeyFrame = some other := by
        unfold switchingSsrc at waiting
        unfold needsKeyFrame
        split at waiting
        · rename_i waited isWaiting
          cases waiting
          rw [isWaiting]
        · cases waiting
      rcases (obeys [] before .nil).1 other asks with isDesired | isForwarded
      · exact notDesired isDesired
      · rw [forwarded] at isForwarded
        cases isForwarded
        exact notDesired rfl

/-- Layer 2 is forwarded, layer 4 becomes the desired one and then layer 2
again: a key frame of layer 4 is still asked for, and the next one is
forwarded. -/
theorem switch_not_called_off :
    ∃ (events : List ForwarderEvent) (before : Vp8SimulcastRtpForwarder),
      Run ForwarderStep (new 99) events before ∧
      (before.setDesiredSsrc (some 2)).needsKeyFrame = some 4 ∧
      ((before.setDesiredSsrc (some 2)).forwardVp8Rtp (layerPacket 4 20 2000)
        (layerFrame true 9)).1.forwardingSsrc = some 4 ∧
      ¬ Obeys (some 2) (before.setDesiredSsrc (some 2)) := by
  let wanting := (new 99).setDesiredSsrc (some 2)
  let forwarding := (wanting.forwardVp8Rtp (layerPacket 2 10 1000)
    (layerFrame true 7)).1
  let before := forwarding.setDesiredSsrc (some 4)
  have keyFrame : ForwarderStep wanting
      (.forwardVp8Rtp (layerPacket 2 10 1000) (layerFrame true 7)
        (some (99, ⟨2, 1, none, none, some 2⟩))) forwarding :=
    step_of_sent (by decide +kernel)
  have run : Run ForwarderStep (new 99)
      [.setDesiredSsrc (some 2),
        .forwardVp8Rtp (layerPacket 2 10 1000) (layerFrame true 7)
          (some (99, ⟨2, 1, none, none, some 2⟩)),
        .setDesiredSsrc (some 4)] before :=
    .snoc (.snoc (.snoc .nil rfl) keyFrame) rfl
  refine ⟨_, before, run, by decide +kernel, by decide +kernel, ?_⟩
  intro obeys
  have asked := (obeys [] _ .nil).1 4 (by decide +kernel)
  exact absurd asked (by decide +kernel)

end CallingService.Backend.Vp8SimulcastRtpForwarder
