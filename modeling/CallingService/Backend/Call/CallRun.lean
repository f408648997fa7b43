import CallingService.Backend.Call.Roster
import CallingService.Foundation.Run
import Mathlib.Data.Nat.Sqrt

/-!
# Runs of a call

The events of a call are joins, departures, messages and media of its clients,
and the passing of time.  Each one changes the roster as its abstract
counterpart does.
-/

namespace CallingService.Backend

open Foundation Rtp

inductive CallEvent (externals : CallExternals) where
  | addClient (demuxId : DemuxId) (userId : UserId) (isAdmin : Bool)
      (regionRelation : RegionRelation) (now : Instant)
  | dropClient (demuxId : DemuxId) (now : Instant)
  | handleDeviceToSfu (proto : DeviceToSfu) (sender : DemuxId) (now : Instant)
  | handleMediaRtp (sender : DemuxId) (incomingRtp : Packet) (now : Instant)
      (result : Except (CallError externals) (List RtpToSend))
  | tickForwarding (now : Instant)

variable {externals : CallExternals}

/-- A step ends the run of a call when the source panics. -/
def CallStep (before : Call externals) (event : CallEvent externals)
    (after : Call externals) : Prop :=
  match event with
  | .addClient demuxId userId isAdmin regionRelation now =>
      after = (before.addClient demuxId userId isAdmin regionRelation now).2
  | .dropClient demuxId now => after = before.dropClient demuxId now
  | .handleDeviceToSfu proto sender now =>
      after = (before.handleDeviceToSfu proto sender now).2
  | .handleMediaRtp sender incomingRtp now result =>
      before.handleMediaRtp sender incomingRtp now = .ok (result, after)
  | .tickForwarding now => after = before.tickForwarding now

/-- A call without clients, as `Call::new` makes it. -/
def IsNewCall (call : Call externals) : Prop :=
  ∃ roomId creatorId requireApproval persistApproval messageInterval
      initialRate maxRate now systemNow approvedUsers,
    call = Call.new roomId creatorId requireApproval persistApproval
      messageInterval initialRate maxRate now systemNow approvedUsers

/-- The roster after an event. -/
def rosterAfter (before : Call externals) : CallEvent externals → Roster
  | .addClient demuxId userId isAdmin regionRelation _ =>
      before.roster.add ⟨demuxId, userId, isAdmin, regionRelation, 1⟩
  | .dropClient demuxId _ => before.roster.drop demuxId
  | .handleDeviceToSfu proto sender _ =>
      if proto.leave then before.roster.drop sender
      else before.roster.handleProtos sender (before.readyProtos proto sender)
  | .handleMediaRtp _ _ _ _ => before.roster
  | .tickForwarding _ => before.roster

theorem CallStep.roster_eq {before after : Call externals}
    {event : CallEvent externals} (step : CallStep before event after) :
    after.roster = rosterAfter before event := by
  cases event with
  | addClient demuxId userId isAdmin regionRelation now =>
      rw [show after = _ from step]
      exact before.roster_addClient demuxId userId isAdmin regionRelation now
  | dropClient demuxId now =>
      rw [show after = _ from step]
      exact before.roster_dropClient demuxId now
  | handleDeviceToSfu proto sender now =>
      rw [show after = _ from step]
      exact before.roster_handleDeviceToSfu proto sender now
  | handleMediaRtp sender incomingRtp now result =>
      exact Call.roster_handleMediaRtp step
  | tickForwarding now =>
      rw [show after = _ from step]
      exact before.roster_tickForwarding now

/-! ## Concrete calls -/

/-- Externals for concrete runs: streams that deliver each message at once,
and exact arithmetic. -/
def directExternals : CallExternals where
  MrpStream := Unit
  MrpReceiveError := Empty
  newMrpStream := fun _ => ()
  mrpReceive := fun stream _ proto => (stream, .ok [proto])
  decodeDeviceToSfu := fun _ => none
  arithmetic := {
    rateOver := fun size duration => size * nanosPerSec / duration
    smoothed := fun last rate => (9 * last + rate) / 10
    averageFloor := fun floor since =>
      (Nat.sqrt (floor.toNat * since.toNat)).toUInt8 }
  minimumAllocation := fun rate => 9 * rate / 10

/-- A new call of which an admin has to approve the clients. -/
def moderatedCall : Call directExternals :=
  Call.new none "alice" true false (fromSecs 1) 1000000 5000000 0
    SystemTime.unixEpoch none

theorem isNewCall_moderatedCall : IsNewCall moderatedCall :=
  ⟨_, _, _, _, _, _, _, _, _, _, rfl⟩

end CallingService.Backend
