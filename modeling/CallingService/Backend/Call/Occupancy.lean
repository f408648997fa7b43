import CallingService.Backend.Call.CallRun
import CallingService.Backend.Call.KeyFrames

/-!
# The demux ids of a call

A demux id is in a call as long as one of the lists of clients has it.  Only a
join adds one.  Messages of the clients move them between the lists, and a
client that leaves takes its demux id along.
-/

namespace CallingService.Backend

open Foundation Rtp

/-! ## Rosters -/

namespace Roster

def demuxIds (roster : Roster) : List DemuxId :=
  roster.members.map NonParticipantClient.demuxId

theorem demuxIds_add (roster : Roster) (client : NonParticipantClient) :
    (roster.add client).demuxIds.Perm (client.demuxId :: roster.demuxIds) :=
  (members_add roster client).map _

theorem demuxIds_act (roster : Roster) (action : AdminAction) :
    (roster.act action).demuxIds.Perm roster.demuxIds :=
  (members_act roster action).map _

theorem demuxIds_handleProtos (sender : DemuxId) (protos : List DeviceToSfu)
    (roster : Roster) :
    (roster.handleProtos sender protos).demuxIds.Perm roster.demuxIds :=
  (members_handleProtos sender protos roster).map _

/-- Dropping takes the demux id out once. -/
theorem demuxIds_drop (roster : Roster) (demuxId : DemuxId) :
    (roster.drop demuxId).demuxIds.Perm (roster.demuxIds.erase demuxId) := by
  unfold demuxIds
  rcases members_drop roster demuxId with
    ⟨same, differs⟩ | ⟨client, named, split⟩
  · rw [same, List.erase_of_not_mem]
    intro isIn
    obtain ⟨client, member, named⟩ := List.mem_map.mp isIn
    exact differs client member named
  · have mapped := (split.map NonParticipantClient.demuxId).erase demuxId
    rw [List.map_cons, named, List.erase_cons_head] at mapped
    exact mapped

end Roster

/-! ## Calls -/

namespace Call

variable {externals : CallExternals}

def demuxIds (call : Call externals) : List DemuxId := call.roster.demuxIds

theorem mem_demuxIds {call : Call externals} {demuxId : DemuxId} :
    demuxId ∈ call.demuxIds ↔ call.hasClient demuxId = true := by
  unfold demuxIds Roster.demuxIds Roster.members Roster.participants roster
    hasClient
  simp only [List.map_append, List.mem_append, List.map_map, List.mem_map,
    Bool.or_eq_true, List.any_eq_true, decide_eq_true_eq]
  rfl

theorem demuxIds_addClient (call : Call externals) (demuxId : DemuxId)
    (userId : UserId) (isAdmin : Bool) (regionRelation : RegionRelation)
    (now : Instant) :
    (call.addClient demuxId userId isAdmin regionRelation
      now).2.demuxIds.Perm (demuxId :: call.demuxIds) := by
  unfold demuxIds
  rw [roster_addClient]
  exact Roster.demuxIds_add _ _

theorem demuxIds_dropClient (call : Call externals) (demuxId : DemuxId)
    (now : Instant) :
    (call.dropClient demuxId now).demuxIds.Perm
      (call.demuxIds.erase demuxId) := by
  unfold demuxIds
  rw [roster_dropClient]
  exact Roster.demuxIds_drop _ _

theorem demuxIds_handleDeviceToSfu {call : Call externals}
    {proto : DeviceToSfu} (stays : proto.leave = false) (sender : DemuxId)
    (now : Instant) :
    (call.handleDeviceToSfu proto sender now).2.demuxIds.Perm
      call.demuxIds := by
  unfold demuxIds
  rw [roster_handleDeviceToSfu, stays]
  exact Roster.demuxIds_handleProtos _ _ _

/-! ## Leaving -/

variable {incomingRtp : Packet} {now : Instant}

theorem parseVp8HeaderAndUpdate_ne_leave {sender : Client externals} :
    sender.parseVp8HeaderAndUpdate incomingRtp now ≠
      .ok (.error .leave) := by
  intro parsed
  obtain ⟨header, isHeader, rest⟩ := bind_eq_ok_iff.mp parsed
  cases header with
  | error failure =>
      cases rest
      unfold Client.parseVideoHeader at isHeader
      split at isHeader
      · cases isHeader
      · obtain ⟨payload, _, read⟩ := bind_eq_ok_iff.mp isHeader
        split at read
        · cases read
        · cases read
  | ok incomingVp8 =>
      dsimp only at rest
      split at rest
      · cases rest
      · cases rest

theorem receiveVideo_ne_leave {sender : Client externals} :
    receiveVideo sender incomingRtp now ≠ .ok (.error .leave) := by
  intro received
  unfold receiveVideo at received
  split at received
  · obtain ⟨outcome, parsed, rest⟩ := bind_eq_ok_iff.mp received
    cases outcome with
    | error failure =>
        cases rest
        exact parseVp8HeaderAndUpdate_ne_leave parsed
    | ok header => cases rest
  · cases received

theorem forwardFromSender_ne_leave {call after : Call externals}
    {sender : DemuxId} {incomingVp8 : Option VideoHeader} :
    call.forwardFromSender sender incomingRtp incomingVp8 ≠
      .ok (.error .leave, after) := by
  intro forwarded
  unfold forwardFromSender at forwarded
  split at forwarded
  · cases forwarded
  · obtain ⟨others, _, rest⟩ := bind_eq_ok_iff.mp forwarded
    cases rest

theorem handleMediaRtp_ne_leave {call after : Call externals} {sender : DemuxId} :
    call.handleMediaRtp sender incomingRtp now ≠
      .ok (.error .leave, after) := by
  intro handled
  unfold handleMediaRtp at handled
  split at handled
  · cases handled
  · dsimp only at handled
    split at handled
    · cases handled
    · obtain ⟨outcome, received, rest⟩ := bind_eq_ok_iff.mp handled
      cases outcome with
      | error failure =>
          cases rest
          exact receiveVideo_ne_leave received
      | ok header => exact forwardFromSender_ne_leave rest

theorem handleReadyProtos_ne_leave (sender : DemuxId) (now : Instant)
    (protos : List DeviceToSfu) (call : Call externals) :
    (handleReadyProtos sender now protos call).1 ≠ .error .leave := by
  induction protos generalizing call with
  | nil =>
      intro failed
      cases failed
  | cons proto rest ih =>
      unfold handleReadyProtos
      split
      · intro failed
        cases failed
      · exact ih _

theorem handleDeviceToSfu_ne_leave {call : Call externals}
    {proto : DeviceToSfu} (stays : proto.leave = false) (sender : DemuxId)
    (now : Instant) :
    (call.handleDeviceToSfu proto sender now).1 ≠ .error .leave := by
  unfold handleDeviceToSfu
  rw [stays, if_neg Bool.false_ne_true]
  split
  · intro failed
    cases failed
  · split
    · exact handleReadyProtos_ne_leave _ _ _ _
    · dsimp only
      split
      · intro failed
        cases failed
      · exact handleReadyProtos_ne_leave _ _ _ _

/-- A packet of a client leaves the demux ids as they are, or its sender
leaves. -/
theorem demuxIds_handleRtp {call after : Call externals} {sender : DemuxId}
    {result : Except (CallError externals) (List RtpToSend)}
    (handled : call.handleRtp sender incomingRtp now = .ok (result, after)) :
    result ≠ .error .leave ∧ after.demuxIds.Perm call.demuxIds ∨
      result = .error .leave ∧
        after.demuxIds.Perm (call.demuxIds.erase sender) := by
  unfold handleRtp at handled
  split at handled
  · obtain ⟨payload, _, rest⟩ := bind_eq_ok_iff.mp handled
    split at rest
    · cases rest
      refine .inl ⟨?_, .refl _⟩
      intro failed
      cases failed
    · rename_i proto _
      have isHandled : call.handleDeviceToSfu proto sender now =
          (result, after) := Except.ok.inj rest
      cases leaves : proto.leave with
      | false =>
          left
          have notLeave := @handleDeviceToSfu_ne_leave _ call _ leaves sender
            now
          have sameIds := @demuxIds_handleDeviceToSfu _ call _ leaves sender
            now
          rw [isHandled] at notLeave sameIds
          exact ⟨notLeave, sameIds⟩
      | true =>
          right
          unfold handleDeviceToSfu at isHandled
          rw [leaves, if_pos rfl] at isHandled
          cases isHandled
          exact ⟨rfl, demuxIds_dropClient call sender now⟩
  · left
    constructor
    · rintro rfl
      exact handleMediaRtp_ne_leave handled
    · unfold demuxIds
      rw [roster_handleMediaRtp handled]

end Call

end CallingService.Backend
