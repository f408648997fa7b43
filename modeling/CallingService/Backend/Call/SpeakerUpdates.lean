import CallingService.Backend.Call.ActiveSpeaker
import CallingService.Backend.Call.DeviceUpdates

/-!
# Updates about the active speaker

The active speaker is chosen among the active clients, but it may leave before
the next choice.  Until then it stays the active speaker, and the others are
told so if a tick has a reason to mention it.
-/

namespace CallingService.Backend

open Foundation Rtp

variable {externals : CallExternals}

theorem DemuxId.eq_of_raw {first second : DemuxId}
    (same : first.raw = second.raw) : first = second := by
  cases first
  cases second
  cases same
  rfl

theorem Ledger.activeSpeakerId_recalculate {ledger : Ledger}
    {newActiveSpeaker : Option DemuxId} {now : Instant}
    (quiet : ¬ ledger.activeSpeakerCalculated +
      activeSpeakerCalculationInterval < now → newActiveSpeaker = none) :
    (ledger.recalculate newActiveSpeaker now).activeSpeakerId =
      newActiveSpeaker.or ledger.activeSpeakerId := by
  unfold recalculate
  split
  · rfl
  · rename_i notDue
    rw [quiet notDue]
    rfl

theorem Ledger.RequestsNoted.activeSpeakerId {before after : Ledger}
    (noted : before.RequestsNoted after) :
    after.activeSpeakerId = before.activeSpeakerId := by
  obtain ⟨_, _, rfl⟩ := noted
  rfl

theorem Ledger.activeSpeakerId_noteUpdate (ledger : Ledger) (now : Instant) :
    (ledger.noteUpdate now).activeSpeakerId = ledger.activeSpeakerId := by
  unfold noteUpdate
  split
  · rfl
  · rfl

namespace Call

/-! ## The chosen client -/

theorem mostActiveSpeaker_mem {call : Call externals}
    {client : Client externals} (chosen : call.mostActiveSpeaker = some client) :
    client ∈ call.clients := by
  unfold mostActiveSpeaker at chosen
  split at chosen
  · cases chosen
  · rename_i first rest clients
    cases chosen
    have start : (call.activeSpeakerId.bind call.findClient).getD first ∈
        first :: rest := by
      cases found : call.activeSpeakerId.bind call.findClient with
      | none => exact List.mem_cons_self
      | some current =>
          obtain ⟨_, _, isFound⟩ := Option.bind_eq_some_iff.mp found
          rw [← clients]
          exact List.mem_of_find?_eq_some isFound
    rw [clients]
    apply List.foldlRecOn (first :: rest) _ start
    intro mostActive isMember contender isContender
    split
    · exact isContender
    · exact isMember

theorem mostActiveSpeaker_isSome {call : Call externals}
    (someone : call.clients ≠ []) :
    ∃ client, call.mostActiveSpeaker = some client := by
  unfold mostActiveSpeaker
  split
  · rename_i nobody
    exact absurd nobody someone
  · exact ⟨_, rfl⟩

/-- The active speaker after a tick has looked for a new one. -/
def speakerAt (call : Call externals) (now : Instant) : Option DemuxId :=
  (call.newActiveSpeaker now).or call.activeSpeakerId

theorem speakerAt_of_due {call : Call externals} {now : Instant}
    (due : call.activeSpeakerCalculated + activeSpeakerCalculationInterval <
      now) (someone : call.clients ≠ []) :
    ∃ client ∈ call.clients, call.speakerAt now = some client.demuxId := by
  obtain ⟨client, chosen⟩ := mostActiveSpeaker_isSome someone
  refine ⟨client, mostActiveSpeaker_mem chosen, ?_⟩
  unfold speakerAt newActiveSpeaker
  rw [if_pos due, chosen, Option.map_some]
  by_cases same : call.activeSpeakerId = some client.demuxId
  · simp [same, Option.filter]
  · simp [same, Option.filter]

theorem speakerAt_of_not_due {call : Call externals} {now : Instant}
    (notDue : ¬ call.activeSpeakerCalculated +
      activeSpeakerCalculationInterval < now) :
    call.newActiveSpeaker now = none ∧
      call.speakerAt now = call.activeSpeakerId := by
  have none : call.newActiveSpeaker now = none := by
    unfold newActiveSpeaker
    rw [if_neg notDue]
  refine ⟨none, ?_⟩
  unfold speakerAt
  rw [none]
  rfl

theorem activeSpeakerId_prepareTick (call : Call externals) (now : Instant) :
    (call.prepareTick now).2.2.ledger.activeSpeakerId = call.speakerAt now := by
  rw [ledger_prepareTick, newActiveSpeaker_prepareTick,
    Ledger.activeSpeakerId_noteUpdate, Ledger.activeSpeakerId_recalculate]
  · rfl
  · exact fun notDue => (speakerAt_of_not_due notDue).1

/-! ## The mentioned client -/

/-- When the speaker was mentioned last, and how often that is due. -/
def speakerTimes (call : Call externals) : Instant × Duration :=
  (call.activeSpeakerUpdateSent, call.activeSpeakerMessageInterval)

theorem speakerTimes_allocateForReceivers (call : Call externals)
    (receivers : List (Client externals)) (now : Instant) :
    (call.allocateForReceivers receivers now).speakerTimes =
      call.speakerTimes := by
  rw [allocateForReceivers_frame]
  rfl

theorem speakerTimes_prepareTick (call : Call externals) (now : Instant) :
    (call.prepareTick now).2.2.speakerTimes = call.speakerTimes := by
  apply @prepareTick_rule _ fun before after =>
    after.speakerTimes = before.speakerTimes
  · exact fun one two => two.trans one
  · exact fun _ _ _ => rfl
  · exact fun _ _ => rfl
  · intro call now
    rcases call.calculateActiveSpeaker_cases now with
      same | ⟨mostActive, _, _, changed⟩
    · rw [same]
    · rw [changed]
      rfl
  · exact speakerTimes_allocateForReceivers

/-- Whether a tick has a reason to mention the speaker. -/
def mentionsSpeaker (call : Call externals) (now : Instant) : Bool :=
  (call.newActiveSpeaker now).isSome || call.clientsUpdateIsDue ||
    call.activeSpeakerUpdateSent + call.activeSpeakerMessageInterval ≤ now

theorem speaker_participantsUpdate {call : Call externals}
    {added changed : Bool} {now : Instant} :
    (call.participantsUpdate added changed now).speaker =
      if changed || added ||
        call.speakerTimes.1 + call.speakerTimes.2 ≤ now
      then call.ledger.activeSpeakerId.map (·.raw) else none := rfl

theorem speaker_prepareTick (call : Call externals) (now : Instant) :
    ((call.prepareTick now).2.2.participantsUpdate (call.prepareTick now).1
      (call.prepareTick now).2.1.isSome now).speaker =
        if call.mentionsSpeaker now then
          (call.speakerAt now).map (·.raw)
        else none := by
  rw [speaker_participantsUpdate, speakerTimes_prepareTick,
    activeSpeakerId_prepareTick, newActiveSpeaker_prepareTick,
    call.prepareTick_due now]
  rfl

end Call

/-! ## What a packet tells -/

variable {messaging : ServerMessaging externals}

/-- The packet of a message about this speaker, or about none. -/
def TellsSpeaker (messaging : ServerMessaging externals) (speaker : Option UInt32)
    (packet : Packet) : Prop :=
  ∃ update seqnum, update.speaker = speaker ∧
    packet = dataPacket messaging update seqnum

/-- The speaker can be told from the bytes of a message, and nothing is sent on
the reliable streams that they could repeat later. -/
structure ServerMessaging.TellsSpeakers
    (messaging : ServerMessaging externals) : Prop where
  decodes : ∀ first second,
    messaging.encodeToVec first = messaging.encodeToVec second →
      first.speaker = second.speaker
  repeats : ∀ stream now due, ∀ update ∈
    (messaging.tryResend stream now due).2, update.speaker = none

theorem tells_unique (decodable : messaging.TellsSpeakers)
    {first second : Option UInt32} {packet : Packet}
    (one : TellsSpeaker messaging first packet)
    (two : TellsSpeaker messaging second packet) : first = second := by
  obtain ⟨update, seqnum, isFirst, isUpdate⟩ := one
  obtain ⟨other, otherSeqnum, isSecond, isOther⟩ := two
  rw [← isFirst, ← isSecond]
  exact decodable.decodes update other
    (encodeToVec_of_dataPacket (isUpdate.symm.trans isOther))

/-- The messages are about none, or about the speaker if there is anybody to
be told. -/
def TellOnlySpeaker (messaging : ServerMessaging externals)
    (speaker : Option UInt32) (call : Call externals)
    (sent : List RtpToSend) : Prop :=
  ∀ entry ∈ sent, TellsSpeaker messaging none entry.2 ∨
    (call.clients ≠ [] ∧ TellsSpeaker messaging speaker entry.2)

theorem TellOnlySpeaker.append {speaker : Option UInt32}
    {call : Call externals} {early late : List RtpToSend}
    (one : TellOnlySpeaker messaging speaker call early)
    (two : TellOnlySpeaker messaging speaker call late) :
    TellOnlySpeaker messaging speaker call (early ++ late) := by
  intro entry member
  exact (List.mem_append.mp member).elim (one entry) (two entry)

namespace Call

variable {call after : Call externals} {now : Instant} {sent : List RtpToSend}

theorem tells_sendToClients {update : Client externals → SfuToDevice}
    {speaker : Option UInt32}
    (about : ∀ client, (update client).speaker = speaker)
    {clients : List (Client externals)}
    {result : List (Client externals) × List RtpToSend}
    (succeeded : sendToEach Client.demuxId (Client.send messaging update)
      clients = .ok result) :
    ∀ entry ∈ result.2, TellsSpeaker messaging speaker entry.2 := by
  intro entry member
  obtain ⟨client, _, own, isSent, isOwn⟩ := of_mem_sendToEach succeeded member
  rw [Client.send_packet isSent, List.mem_singleton] at isOwn
  exact ⟨update client, _, about client, isOwn⟩

theorem tells_sendToNonParticipants {update : SfuToDevice}
    {clients : List NonParticipantClient}
    {result : List NonParticipantClient × List RtpToSend}
    (succeeded : sendToEach NonParticipantClient.demuxId
      (NonParticipantClient.send messaging update) clients = .ok result) :
    ∀ entry ∈ result.2, TellsSpeaker messaging update.speaker entry.2 := by
  intro entry member
  obtain ⟨client, _, own, isSent, isOwn⟩ := of_mem_sendToEach succeeded member
  rw [NonParticipantClient.send_packet isSent, List.mem_singleton] at isOwn
  exact ⟨update, _, rfl, isOwn⟩

theorem tells_participating {added changed : Bool}
    (succeeded : call.sendUpdateProtoToParticipatingClients messaging added
      changed now = .ok (sent, after)) :
    ∀ entry ∈ sent, call.clients ≠ [] ∧ TellsSpeaker messaging
      (call.participantsUpdate added changed now).speaker entry.2 := by
  unfold sendUpdateProtoToParticipatingClients at succeeded
  dsimp only at succeeded
  split at succeeded
  · obtain ⟨outcome, isSent, returned⟩ := bind_eq_ok_iff.mp succeeded
    cases returned
    intro entry member
    obtain ⟨client, isClient, _⟩ := of_mem_sendToEach isSent member
    refine ⟨List.ne_nil_of_mem isClient, tells_sendToClients ?_ isSent entry
      member⟩
    exact fun _ => rfl
  · cases succeeded
    intro entry member
    cases member

/-- A speaker that is mentioned is mentioned to every active client. -/
theorem told_participating {added changed : Bool}
    (succeeded : call.sendUpdateProtoToParticipatingClients messaging added
      changed now = .ok (sent, after))
    (mentioned : (call.participantsUpdate added changed
      now).speaker.isSome = true) :
    ∀ client ∈ call.clients, ∃ packet, (client.demuxId, packet) ∈ sent := by
  unfold sendUpdateProtoToParticipatingClients at succeeded
  dsimp only at succeeded
  rw [if_pos (by simp [mentioned])] at succeeded
  obtain ⟨outcome, isSent, returned⟩ := bind_eq_ok_iff.mp succeeded
  cases returned
  intro client member
  obtain ⟨own, isOwn, told⟩ := mem_sendToEach isSent member
  refine ⟨_, told (dataPacket messaging (participantUpdate
    (call.participantsUpdate added changed now)
    (decide (call.statsUpdateSent + statsMessageInterval ≤ now)) client)
      client.nextServerToClientDataRtpSeqnum) ?_⟩
  rw [Client.send_packet isOwn]
  exact List.mem_singleton_self _

theorem tells_pending {added : Bool}
    (succeeded : call.sendUpdateProtoToPendingClients messaging added =
      .ok (sent, after)) :
    ∀ entry ∈ sent, TellsSpeaker messaging none entry.2 := by
  unfold sendUpdateProtoToPendingClients at succeeded
  split at succeeded
  · obtain ⟨outcome, isSent, returned⟩ := bind_eq_ok_iff.mp succeeded
    cases returned
    exact tells_sendToNonParticipants isSent
  · cases succeeded
    intro entry member
    cases member

theorem tells_removed
    (succeeded : call.sendUpdateProtoToRemovedClients messaging now =
      .ok (sent, after)) :
    ∀ entry ∈ sent, TellsSpeaker messaging none entry.2 := by
  unfold sendUpdateProtoToRemovedClients at succeeded
  split at succeeded
  · cases succeeded
    intro entry member
    cases member
  · obtain ⟨outcome, isSent, returned⟩ := bind_eq_ok_iff.mp succeeded
    cases returned
    exact tells_sendToNonParticipants isSent

theorem tells_raisedHands
    (succeeded : call.sendRaisedHandsProtoToClients messaging now =
      .ok (sent, after)) :
    ∀ entry ∈ sent, TellsSpeaker messaging none entry.2 := by
  have nobody : ∀ entry ∈ ([] : List RtpToSend),
      TellsSpeaker messaging none entry.2 := by simp
  unfold sendRaisedHandsProtoToClients at succeeded
  split at succeeded
  · split at succeeded
    · cases succeeded
      exact nobody
    · obtain ⟨outcome, isSent, returned⟩ := bind_eq_ok_iff.mp succeeded
      cases returned
      refine tells_sendToClients ?_ isSent
      exact fun _ => rfl
  · cases succeeded
    exact nobody

theorem tellsNone_sendMrpUpdates (decodable : messaging.TellsSpeakers)
    (succeeded : call.sendMrpUpdates messaging now = .ok (sent, after)) :
    ∀ entry ∈ sent, TellsSpeaker messaging none entry.2 := by
  obtain ⟨outcome, isSent, returned⟩ := bind_eq_ok_iff.mp succeeded
  cases returned
  intro entry member
  obtain ⟨client, _, own, isOwn, isPacket⟩ := of_mem_sendToEach isSent member
  obtain ⟨encoded, isEncoded, returned⟩ := bind_eq_ok_iff.mp isOwn
  cases returned
  obtain ⟨update, isUpdate, number, packet⟩ :=
    of_mem_encodeAll isEncoded isPacket
  refine ⟨update, number, ?_, packet⟩
  rcases List.mem_append.mp isUpdate with isAck | isRepeated
  · obtain ⟨header, _, rfl⟩ := List.mem_map.mp isAck
    rfl
  · exact decodable.repeats _ _ _ update isRepeated

theorem tellOnly_sendUpdates {added changed : Bool}
    (succeeded : call.sendUpdates messaging added changed now =
      .ok (sent, after)) :
    TellOnlySpeaker messaging (call.participantsUpdate added changed
      now).speaker call sent := by
  obtain ⟨participating, one, rest⟩ := bind_eq_ok_iff.mp succeeded
  obtain ⟨pending, two, rest⟩ := bind_eq_ok_iff.mp rest
  obtain ⟨removed, three, rest⟩ := bind_eq_ok_iff.mp rest
  obtain ⟨hands, four, returned⟩ := bind_eq_ok_iff.mp rest
  cases returned
  refine .append (.append (.append ?_ ?_) ?_) ?_
  · exact fun entry member => .inr (tells_participating one entry member)
  · exact fun entry member => .inl (tells_pending two entry member)
  · exact fun entry member => .inl (tells_removed three entry member)
  · exact fun entry member => .inl (tells_raisedHands four entry member)

/-! ## What a tick announces -/

/-- The speaker that a tick mentions, if it mentions one. -/
def announcedSpeaker (call : Call externals) (now : Instant) :
    Option UInt32 :=
  if call.mentionsSpeaker now then (call.speakerAt now).map (·.raw) else none

theorem clients_prepareTick (call : Call externals) (now : Instant) :
    (call.prepareTick now).2.2.clients = [] ↔ call.clients = [] := by
  have views := call.speakerViews_prepareTick now
  unfold speakerViews at views
  rw [← List.map_eq_nil_iff, views, List.map_eq_nil_iff]

theorem tellOnly_tick (decodable : messaging.TellsSpeakers)
    {answer : List RtpToSend × List (DemuxId × Ssrc)}
    (ticked : call.tick messaging now = .ok (answer, after)) :
    TellOnlySpeaker messaging (call.announcedSpeaker now) call answer.1 := by
  obtain ⟨updated, one, rest⟩ := bind_eq_ok_iff.mp ticked
  obtain ⟨forSpeaker, _, rest⟩ := bind_eq_ok_iff.mp rest
  obtain ⟨streams, two, returned⟩ := bind_eq_ok_iff.mp rest
  cases returned
  have updates := tellOnly_sendUpdates one
  unfold TellOnlySpeaker at updates
  rw [speaker_prepareTick, Ne, clients_prepareTick] at updates
  apply TellOnlySpeaker.append updates
  exact fun entry member => .inl (tellsNone_sendMrpUpdates decodable two entry
    member)

theorem told_tick {answer : List RtpToSend × List (DemuxId × Ssrc)}
    (ticked : call.tick messaging now = .ok (answer, after))
    {speaker : UInt32} (mentioned : call.announcedSpeaker now = some speaker)
    (someone : call.clients ≠ []) :
    ∃ entry ∈ answer.1, TellsSpeaker messaging (some speaker) entry.2 := by
  obtain ⟨updated, one, rest⟩ := bind_eq_ok_iff.mp ticked
  obtain ⟨forSpeaker, _, rest⟩ := bind_eq_ok_iff.mp rest
  obtain ⟨streams, two, returned⟩ := bind_eq_ok_iff.mp rest
  cases returned
  obtain ⟨participating, isParticipating, rest⟩ := bind_eq_ok_iff.mp one
  obtain ⟨pending, _, rest⟩ := bind_eq_ok_iff.mp rest
  obtain ⟨removed, _, rest⟩ := bind_eq_ok_iff.mp rest
  obtain ⟨hands, _, returned⟩ := bind_eq_ok_iff.mp rest
  cases returned
  have isSpeaker : ((call.prepareTick now).2.2.participantsUpdate
      (call.prepareTick now).1 (call.prepareTick now).2.1.isSome
        now).speaker = some speaker :=
    (call.speaker_prepareTick now).trans mentioned
  obtain ⟨client, isClient⟩ := List.exists_mem_of_ne_nil _
    (mt (call.clients_prepareTick now).mp someone)
  obtain ⟨packet, isSent⟩ := told_participating isParticipating
    (by rw [isSpeaker]; rfl) client isClient
  have tells := (tells_participating isParticipating _ isSent).2
  rw [isSpeaker] at tells
  refine ⟨(client.demuxId, packet), ?_, tells⟩
  simp [isSent]

/-- Whoever is mentioned as the speaker is active. -/
def AnnouncesActive (messaging : ServerMessaging externals)
    (call : Call externals) (sent : List RtpToSend) : Prop :=
  ∀ entry ∈ sent, ∀ speaker,
    TellsSpeaker messaging (some speaker) entry.2 →
      ∃ client ∈ call.clients, client.demuxId.raw = speaker

/-- The active speaker has left, it is too early to choose another one, and
there is a reason to mention it to somebody. -/
structure KeepsFormerSpeaker (call : Call externals) (now : Instant) :
    Prop where
  someone : call.clients ≠ []
  tooEarly : ¬ call.activeSpeakerCalculated +
    activeSpeakerCalculationInterval < now
  former : ∃ speaker, call.activeSpeakerId = some speaker ∧
    ¬ call.IsActive speaker
  mentioned : call.clientsUpdateSent < call.clientAddedOrRemoved ∨
    call.activeSpeakerUpdateSent + call.activeSpeakerMessageInterval ≤ now

theorem mentionsSpeaker_of_too_early {call : Call externals} {now : Instant}
    (tooEarly : ¬ call.activeSpeakerCalculated +
      activeSpeakerCalculationInterval < now) :
    call.mentionsSpeaker now = true ↔
      call.clientsUpdateSent < call.clientAddedOrRemoved ∨
      call.activeSpeakerUpdateSent + call.activeSpeakerMessageInterval ≤
        now := by
  unfold mentionsSpeaker clientsUpdateIsDue updateTimes
  rw [(speakerAt_of_not_due tooEarly).1, Option.isSome_none, Bool.false_or,
    Bool.or_eq_true, decide_eq_true_iff, decide_eq_true_iff]

theorem announcesActive_iff (decodable : messaging.TellsSpeakers)
    {answer : List RtpToSend × List (DemuxId × Ssrc)}
    (ticked : call.tick messaging now = .ok (answer, after)) :
    call.AnnouncesActive messaging answer.1 ↔
      ¬ call.KeepsFormerSpeaker now := by
  constructor
  · intro announces keeps
    obtain ⟨speaker, isSpeaker, notActive⟩ := keeps.former
    have mentions := (mentionsSpeaker_of_too_early keeps.tooEarly).mpr
      keeps.mentioned
    have announced : call.announcedSpeaker now = some speaker.raw := by
      unfold announcedSpeaker
      rw [if_pos mentions, (speakerAt_of_not_due keeps.tooEarly).2, isSpeaker]
      rfl
    obtain ⟨entry, isSent, tells⟩ := told_tick ticked announced keeps.someone
    obtain ⟨client, isClient, sameRaw⟩ := announces entry isSent _ tells
    exact notActive ⟨client, isClient, DemuxId.eq_of_raw sameRaw⟩
  · intro keepsNone entry isSent speaker tells
    rcases tellOnly_tick decodable ticked entry isSent with none |
      ⟨someone, announced⟩
    · cases tells_unique decodable none tells
    · have isAnnounced := tells_unique decodable announced tells
      unfold announcedSpeaker at isAnnounced
      split at isAnnounced
      · rename_i mentions
        obtain ⟨speakerId, isSpeaker, rfl⟩ :=
          Option.map_eq_some_iff.mp isAnnounced
        by_cases due : call.activeSpeakerCalculated +
            activeSpeakerCalculationInterval < now
        · obtain ⟨client, isClient, chosen⟩ := speakerAt_of_due due someone
          rw [chosen] at isSpeaker
          cases isSpeaker
          exact ⟨client, isClient, rfl⟩
        · rw [(speakerAt_of_not_due due).2] at isSpeaker
          by_contra nobody
          apply keepsNone
          refine ⟨someone, due, ⟨speakerId, isSpeaker, ?_⟩,
            (mentionsSpeaker_of_too_early due).mp mentions⟩
          rintro ⟨client, isClient, rfl⟩
          exact nobody ⟨client, isClient, rfl⟩
      · cases isAnnounced

end Call

/-! ## Where the speaker comes from -/

/-- A tick, or the part of it that decides what is forwarded. -/
def CallOperation.looksForSpeaker : CallOperation externals → Bool
  | .tick _ _ => true
  | .event (.tickForwarding _) => true
  | _ => false

/-- An operation that does not look for a speaker keeps the one there is. -/
theorem activeSpeakerId_of_step {messaging : ServerMessaging externals}
    {before after : Call externals} {operation : CallOperation externals}
    (step : OperationStep messaging before operation after)
    (looksNot : operation.looksForSpeaker = false) :
    after.ledger.activeSpeakerId = before.ledger.activeSpeakerId := by
  cases operation with
  | event event =>
      cases event with
      | addClient demuxId userId isAdmin regionRelation now =>
          rw [show after = _ from step, Call.ledger_addClient]
          split
          · rfl
          · rfl
      | dropClient demuxId now =>
          rw [show after = _ from step]
          exact (@Call.messageRelation_ledger externals _
            Ledger.activeSpeakerId (fun _ _ _ => rfl) (fun _ _ => rfl)
              now).dropClient before demuxId
      | handleDeviceToSfu proto sender now =>
          rw [show after = _ from step]
          exact (@Call.messageRelation_ledger externals _
            Ledger.activeSpeakerId (fun _ _ _ => rfl) (fun _ _ => rfl)
              now).handleDeviceToSfu before proto sender
      | handleMediaRtp sender incomingRtp now result =>
          rw [Call.ledger_handleMediaRtp step]
      | tickForwarding now => cases looksNot
  | setTargetSendRate receiver newTargetSendRate now =>
      rw [show after = _ from step, Call.ledger_setTargetSendRate]
  | setOutgoingQueueDrainRate receiver outgoingQueueDrainRate =>
      rw [show after = _ from step, Call.ledger_setOutgoingQueueDrainRate]
  | handleKeyFrameRequests requester keyFrameRequests now =>
      rw [show after = _ from step]
      exact (before.requestsNoted_handleKeyFrameRequests requester
        keyFrameRequests now).activeSpeakerId
  | tick now sent => cases looksNot

/-- An operation that looks for a speaker chooses one or keeps the old one. -/
theorem activeSpeakerId_of_looking {messaging : ServerMessaging externals}
    {before after : Call externals} {operation : CallOperation externals}
    (step : OperationStep messaging before operation after)
    (looks : operation.looksForSpeaker = true) :
    ∃ now, operation.time = some now ∧
      after.ledger.activeSpeakerId = before.speakerAt now := by
  cases operation with
  | event event =>
      cases event with
      | tickForwarding now =>
          refine ⟨now, rfl, ?_⟩
          rw [show after = _ from step, Call.ledger_tickForwarding,
            Call.newActiveSpeaker_eq,
            Call.newActiveSpeaker_updateIncomingRates,
            Ledger.activeSpeakerId_recalculate]
          · rfl
          · exact fun notDue => (Call.speakerAt_of_not_due notDue).1
      | _ => cases looks
  | tick now sent =>
      refine ⟨now, rfl, ?_⟩
      rw [(Call.ledger_tick step).activeSpeakerId,
        ← Call.ledger_prepareTick, Call.activeSpeakerId_prepareTick]
  | _ => cases looks

/-- An earlier operation chose the client, which was active then. -/
def ChosenEarlier (messaging : ServerMessaging externals)
    (start : Call externals) (operations : List (CallOperation externals))
    (speaker : DemuxId) : Prop :=
  ∃ past operation later chosen now,
    operations = past ++ operation :: later ∧
    DrivenRun messaging start past chosen ∧
    operation.looksForSpeaker = true ∧ operation.time = some now ∧
    chosen.newActiveSpeaker now = some speaker ∧ chosen.IsActive speaker

theorem ChosenEarlier.snoc {messaging : ServerMessaging externals}
    {start : Call externals} {operations : List (CallOperation externals)}
    {speaker : DemuxId} (chosen : ChosenEarlier messaging start operations
      speaker) (operation : CallOperation externals) :
    ChosenEarlier messaging start (operations ++ [operation]) speaker := by
  obtain ⟨past, choosing, later, call, now, rfl, rest⟩ := chosen
  exact ⟨past, choosing, later ++ [operation], call, now, by simp, rest⟩

theorem Call.isActive_of_newActiveSpeaker {call : Call externals}
    {now : Instant} {speaker : DemuxId}
    (isNew : call.newActiveSpeaker now = some speaker) :
    call.IsActive speaker := by
  unfold newActiveSpeaker at isNew
  split at isNew
  · obtain ⟨chosen, _⟩ := Option.filter_eq_some_iff.mp isNew
    obtain ⟨client, isClient, named⟩ := Option.map_eq_some_iff.mp chosen
    exact ⟨client, mostActiveSpeaker_mem isClient, named⟩
  · cases isNew

theorem chosenEarlier_of_run {messaging : ServerMessaging externals}
    {start finish : Call externals}
    {operations : List (CallOperation externals)}
    (driven : DrivenRun messaging start operations finish) :
    ∀ speaker, finish.ledger.activeSpeakerId = some speaker →
      ChosenEarlier messaging start operations speaker := by
  obtain ⟨isNew, run⟩ := driven
  induction run with
  | nil =>
      intro speaker isSpeaker
      obtain ⟨_, _, _, _, _, _, _, _, _, _, rfl⟩ := isNew
      cases isSpeaker
  | @snoc past operation before after earlier step ih =>
      intro speaker isSpeaker
      cases looks : operation.looksForSpeaker with
      | false =>
          rw [activeSpeakerId_of_step step.2 looks] at isSpeaker
          exact (ih speaker isSpeaker).snoc operation
      | true =>
          obtain ⟨now, timed, speakerAfter⟩ :=
            activeSpeakerId_of_looking step.2 looks
          rw [speakerAfter] at isSpeaker
          rcases Option.or_eq_some_iff.mp isSpeaker with isChosen |
            ⟨_, isKept⟩
          · exact ⟨past, operation, [], before, now, rfl, ⟨isNew, earlier⟩,
              looks, timed, isChosen,
              Call.isActive_of_newActiveSpeaker isChosen⟩
          · exact (ih speaker isKept).snoc operation

/-- A speaker that a tick mentions is active.  Only while it is too early to
choose another one, it may be a client that was active when it was chosen. -/
theorem announced_speaker_active_or_former
    {messaging : ServerMessaging externals}
    (decodable : messaging.TellsSpeakers) {start before after : Call externals}
    {operations : List (CallOperation externals)} {now : Instant}
    {answer : List RtpToSend × List (DemuxId × Ssrc)}
    (driven : DrivenRun messaging start operations before)
    (ticked : before.tick messaging now = .ok (answer, after))
    {entry : RtpToSend} (isSent : entry ∈ answer.1) {speaker : UInt32}
    (tells : TellsSpeaker messaging (some speaker) entry.2) :
    (∃ client ∈ before.clients, client.demuxId.raw = speaker) ∨
    (now ≤ before.activeSpeakerCalculated + activeSpeakerCalculationInterval ∧
      ∃ former, former.raw = speaker ∧
        before.activeSpeakerId = some former ∧
        ChosenEarlier messaging start operations former) := by
  rcases Call.tellOnly_tick decodable ticked entry isSent with none |
    ⟨someone, announced⟩
  · cases tells_unique decodable none tells
  · have isAnnounced := tells_unique decodable announced tells
    unfold Call.announcedSpeaker at isAnnounced
    split at isAnnounced
    · obtain ⟨speakerId, isSpeaker, named⟩ :=
        Option.map_eq_some_iff.mp isAnnounced
      by_cases due : before.activeSpeakerCalculated +
          activeSpeakerCalculationInterval < now
      · left
        obtain ⟨client, isClient, chosen⟩ :=
          Call.speakerAt_of_due due someone
        rw [chosen] at isSpeaker
        cases isSpeaker
        exact ⟨client, isClient, named⟩
      · right
        rw [(Call.speakerAt_of_not_due due).2] at isSpeaker
        exact ⟨Nat.le_of_not_lt due, speakerId, named, isSpeaker,
          chosenEarlier_of_run driven speakerId isSpeaker⟩
    · cases isAnnounced

/-! ## Concrete runs -/

/-- A message is as long as its speaker is large. -/
def speakerMessaging : ServerMessaging directExternals where
  encodeToVec := fun update =>
    List.replicate (update.speaker.elim 0 fun speaker => speaker.toNat + 1) 0
  trySendAck := fun stream => (stream, none)
  tryResend := fun stream _ _ => (stream, [])

theorem tellsSpeakers_speakerMessaging : speakerMessaging.TellsSpeakers where
  decodes := by
    intro first second same
    have lengths := congrArg List.length same
    unfold speakerMessaging at lengths
    simp only [List.length_replicate] at lengths
    cases isFirst : first.speaker with
    | none =>
        cases isSecond : second.speaker with
        | none => rfl
        | some other => simp [isFirst, isSecond] at lengths
    | some speaker =>
        cases isSecond : second.speaker with
        | none => simp [isFirst, isSecond] at lengths
        | some other =>
            rw [isFirst, isSecond] at lengths
            rw [UInt32.toNat_inj.mp (Nat.succ.inj lengths)]
  repeats := by
    intro stream now due update member
    cases member

def tickOutcome (call : Call directExternals) (now : Instant) :
    (List RtpToSend × List (DemuxId × Ssrc)) × Call directExternals :=
  (call.tick speakerMessaging now).toOption.getD (([], []), call)

theorem tick_eq_tickOutcome {call : Call directExternals} {now : Instant}
    (succeeds : (call.tick speakerMessaging now).toOption.isSome = true) :
    call.tick speakerMessaging now =
      .ok ((tickOutcome call now).1, (tickOutcome call now).2) := by
  unfold tickOutcome
  cases ticked : call.tick speakerMessaging now with
  | error panic =>
      rw [ticked] at succeeds
      cases succeeds
  | ok result => rfl

/-- The listener has become the active speaker. -/
def spokenCall : Call directExternals :=
  (tickOutcome conversation (fromSecs 1)).2

def desertedCall : Call directExternals :=
  spokenCall.dropClient listener (fromMillis 1050)

theorem drivenRun_desertedCall :
    ∃ operations,
      DrivenRun speakerMessaging moderatedCall operations desertedCall := by
  have joins : Guarded OperationAddsUnused (OperationStep speakerMessaging)
      moderatedCall (.event (.addClient listener "alice" true .unknown 1))
      (moderatedCall.addClient listener "alice" true .unknown 1).2 :=
    ⟨rfl, rfl⟩
  have joinsToo : Guarded OperationAddsUnused (OperationStep speakerMessaging)
      (moderatedCall.addClient listener "alice" true .unknown 1).2
      (.event (.addClient speaker "bob" true .unknown 2)) conversation := by
    refine ⟨?_, rfl⟩
    change Call.hasClient _ speaker = false
    decide +kernel
  have ticks : Guarded OperationAddsUnused (OperationStep speakerMessaging)
      conversation
      (.tick (fromSecs 1) (tickOutcome conversation (fromSecs 1)).1)
      spokenCall := ⟨trivial, tick_eq_tickOutcome (by decide +kernel)⟩
  have leaves : Guarded OperationAddsUnused (OperationStep speakerMessaging)
      spokenCall (.event (.dropClient listener (fromMillis 1050)))
      desertedCall := ⟨trivial, rfl⟩
  exact ⟨_, isNewCall_moderatedCall,
    .snoc (.snoc (.snoc (.snoc .nil joins) joinsToo) ticks) leaves⟩

theorem keepsFormerSpeaker_desertedCall :
    desertedCall.KeepsFormerSpeaker (fromMillis 1100) := by
  constructor
  · decide +kernel
  · decide +kernel
  · refine ⟨listener, ?_, ?_⟩
    · decide +kernel
    · decide +kernel
  · left
    decide +kernel

/-- The listener is mentioned 50 milliseconds after it left. -/
theorem announced_speaker_active_or_former_deserted :
    (∃ client ∈ desertedCall.clients, client.demuxId.raw = 16) ∨
    (fromMillis 1100 ≤ desertedCall.activeSpeakerCalculated +
        activeSpeakerCalculationInterval ∧
      ∃ former, former.raw = 16 ∧
        desertedCall.activeSpeakerId = some former ∧
        ∃ operations, ChosenEarlier speakerMessaging moderatedCall operations
          former) := by
  obtain ⟨operations, driven⟩ := drivenRun_desertedCall
  have ticked := @tick_eq_tickOutcome desertedCall (fromMillis 1100)
    (by decide +kernel)
  obtain ⟨entry, isSent, tells⟩ := @Call.told_tick _ _ _ _ _ _ ticked 16
    (by decide +kernel) keepsFormerSpeaker_desertedCall.someone
  rcases announced_speaker_active_or_former tellsSpeakers_speakerMessaging
    driven ticked isSent tells with isActive | ⟨early, former, named, isFormer,
      chosen⟩
  · exact .inl isActive
  · exact .inr ⟨early, former, named, isFormer, operations, chosen⟩

/-- It is not active then. -/
theorem departed_speaker_announced :
    ¬ ∀ (start before after : Call directExternals)
        (operations : List (CallOperation directExternals)) now answer,
      DrivenRun speakerMessaging start operations before →
      before.tick speakerMessaging now = .ok (answer, after) →
        before.AnnouncesActive speakerMessaging answer.1 := by
  intro announced
  obtain ⟨operations, driven⟩ := drivenRun_desertedCall
  have ticked := @tick_eq_tickOutcome desertedCall (fromMillis 1100)
    (by decide +kernel)
  exact (Call.announcesActive_iff tellsSpeakers_speakerMessaging ticked).mp
    (announced _ _ _ operations _ _ driven ticked)
    keepsFormerSpeaker_desertedCall

end CallingService.Backend
