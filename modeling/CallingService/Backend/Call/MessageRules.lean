import CallingService.Backend.Call.Messages

/-!
# What a packet of a client does

A message asks for video, moves clients, raises a hand and updates a stream.  A
relation between calls that holds of each of these, and that composes, holds
of every message.  Media updates its sender and is forwarded to the others.
-/

namespace CallingService.Backend

open Foundation Rtp

variable {externals : CallExternals}

structure MessageRelation (now : Instant)
    (related : Call externals → Call externals → Prop) : Prop where
  refl : ∀ call, related call call
  trans : ∀ {first second third}, related first second →
    related second third → related first third
  handleVideoRequest : ∀ call sender request,
    related call (call.handleVideoRequest sender request now)
  setMrpStream : ∀ call sender stream,
    related call (call.modifyClient sender (Call.setMrpStream stream))
  approvePendingClient : ∀ call target,
    related call (call.approvePendingClient target now)
  denyPendingClient : ∀ call target,
    related call (call.denyPendingClient target now)
  forceRemoveClient : ∀ call target,
    related call (call.forceRemoveClient target now)
  blockClient : ∀ call target, related call (call.blockClient target now)
  dropClient : ∀ call demuxId, related call (call.dropClient demuxId now)
  handleRaiseHand : ∀ call message sender,
    related call (call.handleRaiseHand now message sender)

namespace MessageRelation

variable {now : Instant} {related : Call externals → Call externals → Prop}

theorem forTargets (rules : MessageRelation now related)
    {act : Call externals → DemuxId → Instant → Call externals}
    (acts : ∀ call target, related call (act call target now))
    (actions : List GenericAdminAction) (call : Call externals) :
    related call (Call.forTargets act actions call now) := by
  unfold Call.forTargets
  generalize actions.filterMap
    (fun action => action.targetDemuxId.bind DemuxId.tryFrom) = targets
  induction targets generalizing call with
  | nil => exact rules.refl call
  | cons target rest ih => exact rules.trans (acts call target) (ih _)

theorem handleAdminActions (rules : MessageRelation now related)
    (call : Call externals) (proto : DeviceToSfu) :
    related call (call.handleAdminActions proto now) := by
  have approved := rules.forTargets rules.approvePendingClient proto.approve
    call
  have denied := rules.forTargets rules.denyPendingClient proto.deny
    (Call.forTargets Call.approvePendingClient proto.approve call now)
  have removed := rules.forTargets rules.forceRemoveClient proto.remove
    (Call.forTargets Call.denyPendingClient proto.deny
      (Call.forTargets Call.approvePendingClient proto.approve call now) now)
  exact rules.trans (rules.trans (rules.trans approved denied) removed)
    (rules.forTargets rules.blockClient proto.block _)

theorem handleReadyProto (rules : MessageRelation now related)
    (call : Call externals) (sender : Client externals)
    (proto : DeviceToSfu) :
    related call (call.handleReadyProto sender proto now) := by
  have requested := rules.handleVideoRequest call sender proto.videoRequest
  have acted : related call (if sender.isAdmin then
        (call.handleVideoRequest sender proto.videoRequest
          now).handleAdminActions proto now
      else call.handleVideoRequest sender proto.videoRequest now) := by
    split
    · exact rules.trans requested (rules.handleAdminActions _ proto)
    · exact requested
  unfold Call.handleReadyProto
  cases proto.raiseHand with
  | none => exact acted
  | some message =>
      exact rules.trans acted (rules.handleRaiseHand _ message sender.demuxId)

theorem handleReadyProtos (rules : MessageRelation now related)
    (sender : DemuxId) (protos : List DeviceToSfu) (call : Call externals) :
    related call (Call.handleReadyProtos sender now protos call).2 := by
  induction protos generalizing call with
  | nil => exact rules.refl call
  | cons proto rest ih =>
      unfold Call.handleReadyProtos
      cases call.findClient sender with
      | none => exact rules.refl call
      | some client =>
          exact rules.trans (rules.handleReadyProto call client proto) (ih _)

theorem handleDeviceToSfu (rules : MessageRelation now related)
    (call : Call externals) (proto : DeviceToSfu) (sender : DemuxId) :
    related call (call.handleDeviceToSfu proto sender now).2 := by
  unfold Call.handleDeviceToSfu
  split
  · exact rules.dropClient call sender
  · cases call.findClient sender with
    | none => exact rules.refl call
    | some client =>
        cases proto.mrpHeader with
        | none => exact rules.handleReadyProtos sender [proto] call
        | some header =>
            have updated := rules.setMrpStream call sender
              (externals.mrpReceive client.reliableMrpStream header proto).1
            dsimp only
            split
            · exact updated
            · exact rules.trans updated (rules.handleReadyProtos sender _ _)

end MessageRelation

/-! ## Media -/

namespace Call

variable {call after : Call externals} {sender : DemuxId}
  {incomingRtp : Packet} {now : Instant}
  {result : Except (CallError externals) (List RtpToSend)}

/-- Only a video packet changes what is known of its sender. -/
theorem receiveVideo_eq_ok {client : Client externals}
    {received : Option VideoHeader × Client externals}
    (succeeded : receiveVideo client incomingRtp now = .ok (.ok received)) :
    (incomingRtp.isVideo = false ∧ received = (none, client)) ∨
      ∃ layer incomingVp8,
        LayerId.layerIndexFromSsrc incomingRtp.ssrc = some layer ∧
        received = (some incomingVp8,
          client.updateIncomingVideo layer incomingRtp incomingVp8 now) := by
  unfold receiveVideo at succeeded
  split at succeeded
  · obtain ⟨outcome, parsed, rest⟩ := bind_eq_ok_iff.mp succeeded
    cases outcome with
    | error failure => cases rest
    | ok updated =>
        cases rest
        obtain ⟨outcome, _, rest⟩ := bind_eq_ok_iff.mp parsed
        cases outcome with
        | error failure => cases rest
        | ok header =>
            dsimp only at rest
            split at rest
            · cases rest
            · rename_i layer isLayer
              cases rest
              exact .inr ⟨layer, header, isLayer, rfl⟩
  · rename_i notVideo
    cases succeeded
    exact .inl ⟨by simpa using notVideo, rfl⟩

theorem forwardFromSender_eq_ok {incomingVp8 : Option VideoHeader}
    (handled : call.forwardFromSender sender incomingRtp incomingVp8 =
      .ok (result, after)) :
    (LayerId.fromSsrc incomingRtp.ssrc = none ∧
      result = .error .invalidRtpLayerId ∧ after = call) ∨
      ∃ layer forwarded, LayerId.fromSsrc incomingRtp.ssrc = some layer ∧
        forwardToReceivers sender (forwardMedia layer incomingRtp incomingVp8)
          call.clients = .ok forwarded ∧
        result = .ok forwarded.2 ∧
        after = { call with clients := forwarded.1 } := by
  unfold forwardFromSender at handled
  split at handled
  · rename_i noLayer
    cases handled
    exact .inl ⟨noLayer, rfl, rfl⟩
  · rename_i layer isLayer
    obtain ⟨forwarded, succeeded, returned⟩ := bind_eq_ok_iff.mp handled
    cases returned
    exact .inr ⟨layer, forwarded, isLayer, succeeded, rfl, rfl⟩

/-- A packet is refused, or its sender is updated before it is forwarded. -/
theorem handleMediaRtp_eq_ok
    (handled : call.handleMediaRtp sender incomingRtp now =
      .ok (result, after)) :
    (∃ failure, result = .error failure ∧ after = call) ∨
      ∃ client received, call.findClient sender = some client ∧
        DemuxId.fromSsrc incomingRtp.ssrc = sender ∧
        receiveVideo client incomingRtp now = .ok (.ok received) ∧
        (call.modifyClient sender fun _ =>
          pushAudioLevel incomingRtp received.2).forwardFromSender sender
            incomingRtp received.1 = .ok (result, after) := by
  unfold handleMediaRtp at handled
  cases found : call.findClient sender with
  | none =>
      rw [found] at handled
      cases handled
      exact .inl ⟨_, rfl, rfl⟩
  | some client =>
      rw [found] at handled
      dsimp only at handled
      split at handled
      case isTrue =>
        cases handled
        exact .inl ⟨_, rfl, rfl⟩
      case isFalse authorized =>
        rw [not_not] at authorized
        obtain ⟨outcome, succeeded, rest⟩ := bind_eq_ok_iff.mp handled
        cases outcome with
        | error failure =>
            cases rest
            exact .inl ⟨_, rfl, rfl⟩
        | ok received =>
            exact .inr ⟨client, received, rfl, authorized, succeeded, rest⟩

end Call

end CallingService.Backend
