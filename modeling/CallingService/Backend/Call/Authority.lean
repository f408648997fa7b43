import CallingService.Backend.Call.CallRun
import CallingService.Backend.Call.RosterMoves

/-!
# Who may change the roster

Only an active admin changes the lists of a call and its sets of users.  What
anybody else sends leaves the roster as it was; a `Leave` takes the sender out
and nobody else.
-/

namespace CallingService.Backend

open Foundation

namespace Roster

/-- No active client with the demux id is an admin. -/
def Powerless (roster : Roster) (demuxId : DemuxId) : Prop :=
  ∀ client ∈ roster.active, client.demuxId = demuxId → client.isAdmin = false

/-- The sender is looked up again for each message, but none of them changes
what the lookup finds. -/
theorem handleProtos_of_powerless {roster : Roster} {sender : DemuxId}
    (powerless : roster.Powerless sender) (protos : List DeviceToSfu) :
    roster.handleProtos sender protos = roster := by
  induction protos with
  | nil => rfl
  | cons proto rest ih =>
      unfold handleProtos
      cases found : roster.findActive sender with
      | none => rfl
      | some client =>
          have isActive : client ∈ roster.active := List.mem_of_find?_eq_some found
          have named : client.demuxId = sender := by
            simpa using List.find?_some found
          have notAdmin := powerless client isActive named
          simp only [notAdmin, Bool.false_eq_true, if_false]
          exact ih

end Roster

variable {externals : CallExternals}

/-- The messages that a buffering stream releases count as those of the client
that owns the stream; nothing else about the stream is used. -/
theorem roster_after_powerless_message (call : Call externals)
    (proto : DeviceToSfu) (sender : DemuxId) (now : Instant)
    (powerless : ∀ client ∈ call.clients,
      client.demuxId = sender → client.isAdmin = false) :
    (proto.leave = false →
      (call.handleDeviceToSfu proto sender now).2.roster = call.roster) ∧
    (proto.leave = true →
      call.roster.Left sender
        (call.handleDeviceToSfu proto sender now).2.roster) := by
  have powerlessOnRoster : call.roster.Powerless sender := by
    intro client isActive named
    obtain ⟨participant, isClient, rfl⟩ := List.mem_map.mp isActive
    exact powerless participant isClient named
  rw [Call.roster_handleDeviceToSfu]
  constructor
  · intro stays
    rw [stays]
    exact Roster.handleProtos_of_powerless powerlessOnRoster _
  · intro leaves
    rw [leaves]
    exact Roster.left_drop call.roster sender

/-- A member without rights tries everything at once on a reliable stream, and
then leaves. -/
theorem roster_after_powerless_message_takeover :
    let alice : DemuxId := ⟨16, rfl⟩
    let mallory : DemuxId := ⟨32, rfl⟩
    let takeover : DeviceToSfu :=
      { DeviceToSfu.default with
        approve := [⟨some 48⟩], deny := [⟨some 48⟩], remove := [⟨some 16⟩]
        block := [⟨some 16⟩], raiseHand := some ⟨some true, some 1⟩
        mrpHeader := some ⟨some 1, none⟩ }
    let opened : Call directExternals :=
      { moderatedCall with newClientsRequireApproval := false }
    let hosted := (opened.addClient alice "alice" true .unknown 1).2
    let joined := (hosted.addClient mallory "mallory" false .unknown 2).2
    joined.clients.length = 2 ∧
      (joined.handleDeviceToSfu takeover mallory 3).2.roster = joined.roster ∧
      joined.roster.Left mallory (joined.handleDeviceToSfu
        { takeover with leave := true } mallory 3).2.roster := by
  intro alice mallory takeover opened hosted joined
  have powerless : ∀ client ∈ joined.clients,
      client.demuxId = mallory → client.isAdmin = false := by decide
  have message := roster_after_powerless_message joined takeover mallory 3
    powerless
  have departure := roster_after_powerless_message joined
    { takeover with leave := true } mallory 3 powerless
  exact ⟨by decide, message.1 rfl, departure.2 rfl⟩

end CallingService.Backend
