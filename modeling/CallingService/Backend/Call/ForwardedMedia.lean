import CallingService.Backend.Call.TrackedReceiver

/-!
# Media that a receiver gets

A packet moves the forwarder of its own stream and no other one, and it goes
out on that stream.  So the log of a receiver still fits the call when the
packet has been added to it.
-/

namespace CallingService.Backend

open Foundation Rtp

/-! ## Rewritten video -/

theorem stream_of_written {packet written : Packet}
    (others : written = { packet with serialized := written.serialized }) :
    written.ssrc = packet.ssrc ∧ written.seqnum = packet.seqnum := by
  rw [others]
  exact ⟨rfl, rfl⟩

namespace Client

theorem rewriteFrameNumber_eq_ok {packet numbered : Packet}
    {frameNumber : Option FullFrameNumber}
    (rewrote : rewriteFrameNumber packet frameNumber = .ok numbered) :
    numbered.ssrc = packet.ssrc ∧ numbered.seqnum = packet.seqnum := by
  unfold rewriteFrameNumber at rewrote
  split at rewrote
  · cases rewrote
    exact ⟨rfl, rfl⟩
  · rename_i number
    have described : (setDescriptorFrameNumber packet number).ssrc =
          packet.ssrc ∧
        (setDescriptorFrameNumber packet number).seqnum = packet.seqnum := by
      unfold setDescriptorFrameNumber
      split
      · exact ⟨rfl, rfl⟩
      · exact ⟨rfl, rfl⟩
    rw [← described.1, ← described.2]
    unfold Packet.setFrameNumberInHeader at rewrote
    split at rewrote
    · cases rewrote
      exact ⟨rfl, rfl⟩
    · exact stream_of_written (Packet.writeInHeader_eq_ok rewrote).2.1

theorem rewriteVp8Ids_eq_ok {packet named : Packet}
    {pictureId : Option Vp8.FullPictureId}
    {tl0PicIdx : Option Vp8.FullTl0PicIdx}
    (rewrote : rewriteVp8Ids packet pictureId tl0PicIdx = .ok named) :
    named.ssrc = packet.ssrc ∧ named.seqnum = packet.seqnum := by
  unfold rewriteVp8Ids at rewrote
  split at rewrote
  · obtain ⟨first, wroteFirst, wroteSecond⟩ := bind_eq_ok_iff.mp rewrote
    have one := stream_of_written (Packet.writeInPayload_eq_ok wroteFirst)
    have two := stream_of_written (Packet.writeInPayload_eq_ok wroteSecond)
    exact ⟨two.1.trans one.1, two.2.trans one.2⟩
  · cases rewrote
    exact ⟨rfl, rfl⟩

theorem rewriteVideo_eq_ok {incomingRtp rewritten : Packet}
    {outgoingSsrc : Ssrc} {outgoing : Vp8RewrittenIds}
    (rewrote : rewriteVideo incomingRtp outgoingSsrc outgoing =
      .ok rewritten) :
    rewritten.ssrc = outgoingSsrc ∧ rewritten.seqnum = outgoing.seqnum := by
  obtain ⟨addressed, isAddressed, rest⟩ := bind_eq_ok_iff.mp rewrote
  obtain ⟨numbered, isNumbered, isNamed⟩ := bind_eq_ok_iff.mp rest
  have one := Packet.rewrite_eq_ok isAddressed
  have two := rewriteFrameNumber_eq_ok isNumbered
  have three := rewriteVp8Ids_eq_ok isNamed
  exact ⟨three.1.trans (two.1.trans one.1), three.2.trans (two.2.trans one.2)⟩

end Client

/-! ## One receiver -/

/-- What may happen to the forwarder of a stream when numbers are sent. -/
inductive RenumberingAdvanced (sent : List (Renumbered Ssrc)) :
    Option (Renumbering Ssrc) → Option (Renumbering Ssrc) → Prop where
  | idle {forwarder : Option (Renumbering Ssrc)} :
      sent = [] → RenumberingAdvanced sent forwarder forwarder
  | moved {before after : Renumbering Ssrc} :
      Renumbers before sent after →
      RenumberingAdvanced sent (some before) (some after)
  | created {start after : Renumbering Ssrc} :
      Renumbers start sent after →
      RenumberingAdvanced sent none (some after)

theorem StreamFits.advanced {present : Prop}
    {log sent : List (Renumbered Ssrc)}
    {before after : Option (Renumbering Ssrc)}
    (fits : StreamFits present log before) (isPresent : present)
    (advanced : RenumberingAdvanced sent before after) :
    StreamFits present (log ++ sent) after := by
  cases advanced with
  | idle empty =>
      rw [empty, List.append_nil]
      exact fits
  | moved renumbers => exact renumbers.tracks fits
  | created renumbers =>
      rw [fits isPresent]
      exact renumbers.tracks (Tracks.nil _)

theorem RenumberingAdvanced.exists_state {sent : List (Renumbered Ssrc)}
    {before after : Option (Renumbering Ssrc)}
    (advanced : RenumberingAdvanced sent before after) (used : sent ≠ []) :
    ∃ state, after = some state := by
  cases advanced with
  | idle empty => exact absurd empty used
  | moved _ => exact ⟨_, rfl⟩
  | created _ => exact ⟨_, rfl⟩

theorem StreamFits.subset {present : Prop}
    {log smaller : List (Renumbered Ssrc)}
    {forwarder : Option (Renumbering Ssrc)}
    (fits : StreamFits present log forwarder) (included : smaller ⊆ log) :
    StreamFits present smaller forwarder := by
  cases forwarder with
  | none =>
      intro isPresent
      rw [fits isPresent] at included
      exact List.subset_nil.mp included
  | some state => exact Tracks.subset fits included

/-- The numbers that a packet is forwarded with. -/
def sentNumbers (incomingRtp : Packet) (sent : Option Packet) :
    List (Renumbered Ssrc) :=
  sent.toList.map fun outgoing =>
    ⟨incomingRtp.ssrc, incomingRtp.seqnum, outgoing.seqnum⟩

/-- What a packet does to a table of forwarders of streams: only the one of
its sender moves, and what is sent goes out on the SSRC. -/
structure TableAdvanced {F : Type} (view : F → Renumbering Ssrc)
    (incomingRtp : Packet) (outgoingSsrc : Ssrc)
    (forwarders : Table DemuxId F)
    (forwarded : Table DemuxId F × Option Packet) : Prop where
  stream : RenumberingAdvanced (sentNumbers incomingRtp forwarded.2)
    ((forwarders.lookup (DemuxId.fromSsrc incomingRtp.ssrc)).map view)
    ((forwarded.1.lookup (DemuxId.fromSsrc incomingRtp.ssrc)).map view)
  others : ∀ {other}, other ≠ DemuxId.fromSsrc incomingRtp.ssrc →
    forwarded.1.lookup other = forwarders.lookup other
  onStream : ∀ {outgoing}, forwarded.2 = some outgoing →
    outgoing.ssrc = outgoingSsrc

variable {incomingRtp : Packet}

theorem tableAdvanced_insert {F : Type} (view : F → Renumbering Ssrc)
    {outgoingSsrc : Ssrc} {forwarders : Table DemuxId F} {after : F}
    (sent : Option Packet)
    (advanced : RenumberingAdvanced (sentNumbers incomingRtp sent)
      ((forwarders.lookup (DemuxId.fromSsrc incomingRtp.ssrc)).map view)
      (some (view after))) (onStream : ∀ {outgoing}, sent = some outgoing →
      outgoing.ssrc = outgoingSsrc) :
    TableAdvanced view incomingRtp outgoingSsrc forwarders
      (forwarders.insert (DemuxId.fromSsrc incomingRtp.ssrc) after,
        sent) where
  stream := by
    rw [AList.lookup_insert]
    exact advanced
  others := fun differs => AList.lookup_insert_ne differs
  onStream := onStream

variable {externals : CallExternals}

namespace Client

theorem forwardSingleSsrc_advanced
    {forwarders : Table DemuxId SingleSsrcRtpForwarder}
    {forwarded : Table DemuxId SingleSsrcRtpForwarder × Option Packet}
    (succeeded : forwardSingleSsrc forwarders incomingRtp = .ok forwarded) :
    TableAdvanced (·.renumbering incomingRtp.ssrc) incomingRtp
      incomingRtp.ssrc forwarders forwarded := by
  obtain ⟨⟨after, sent⟩, moved, rest⟩ := bind_eq_ok_iff.mp succeeded
  have renumbers := SingleSsrcRtpForwarder.forwardRtp_renumbers
    incomingRtp.ssrc moved
  have advanced : RenumberingAdvanced
      (sent.toList.map fun outgoing =>
        ⟨incomingRtp.ssrc, incomingRtp.seqnum, outgoing⟩)
      ((forwarders.lookup (DemuxId.fromSsrc incomingRtp.ssrc)).map
        (·.renumbering incomingRtp.ssrc))
      (some (after.renumbering incomingRtp.ssrc)) := by
    cases known : forwarders.lookup (DemuxId.fromSsrc incomingRtp.ssrc) with
    | none => exact .created renumbers
    | some forwarder =>
        rw [known] at renumbers
        exact .moved renumbers
  cases sent with
  | none =>
      cases rest
      apply tableAdvanced_insert _ none advanced
      intro outgoing sent
      cases sent
  | some outgoingSeqnum =>
      obtain ⟨rewritten, rewrote, returned⟩ := bind_eq_ok_iff.mp rest
      cases returned
      obtain ⟨isSsrc, isSeqnum⟩ := Packet.rewrite_eq_ok rewrote
      rw [← isSeqnum] at advanced
      apply tableAdvanced_insert _ (some rewritten) advanced
      intro outgoing sent
      cases sent
      exact isSsrc

/-- Every forwarder sends on the SSRC of the base layer of its sender. -/
def OnBaseLayer (forwarders : Table DemuxId Vp8SimulcastRtpForwarder) : Prop :=
  ∀ {sender forwarder}, forwarders.lookup sender = some forwarder →
    forwarder.outgoingSsrc = LayerId.video0.toSsrc sender

theorem forwardVideoSsrc_advanced
    {forwarders : Table DemuxId Vp8SimulcastRtpForwarder}
    {incomingVp8 : VideoHeader}
    {forwarded : Table DemuxId Vp8SimulcastRtpForwarder × Option Packet}
    (succeeded : forwardVideoSsrc forwarders incomingRtp incomingVp8 =
      .ok forwarded) (onBase : OnBaseLayer forwarders) :
    TableAdvanced (·.renumbering) incomingRtp
        (LayerId.video0.toSsrc (DemuxId.fromSsrc incomingRtp.ssrc)) forwarders
        forwarded ∧
      OnBaseLayer forwarded.1 := by
  unfold forwardVideoSsrc at succeeded
  cases known : forwarders.lookup (DemuxId.fromSsrc incomingRtp.ssrc) with
  | none =>
      simp only [known] at succeeded
      cases succeeded
      refine ⟨⟨.idle rfl, fun _ => rfl, ?_⟩, onBase⟩
      intro outgoing sent
      cases sent
  | some forwarder =>
      simp only [known] at succeeded
      obtain ⟨renumbers, sameSsrc, named⟩ :=
        forwarder.forwardVp8Rtp_renumbers incomingRtp incomingVp8
      generalize forwarder.forwardVp8Rtp incomingRtp incomingVp8 = outcome at *
      obtain ⟨after, sent⟩ := outcome
      have stillOnBase : OnBaseLayer (forwarders.insert
          (DemuxId.fromSsrc incomingRtp.ssrc) after) := by
        intro sender other found
        by_cases same : sender = DemuxId.fromSsrc incomingRtp.ssrc
        · subst same
          rw [AList.lookup_insert] at found
          cases found
          exact sameSsrc.trans (onBase known)
        · rw [AList.lookup_insert_ne same] at found
          exact onBase found
      have moved : RenumberingAdvanced
          (Vp8SimulcastRtpForwarder.sentNumber incomingRtp sent)
          ((forwarders.lookup (DemuxId.fromSsrc incomingRtp.ssrc)).map
            (·.renumbering)) (some after.renumbering) := by
        rw [known]
        exact .moved renumbers
      cases sent with
      | none =>
          cases succeeded
          refine ⟨tableAdvanced_insert _ none moved ?_, stillOnBase⟩
          intro outgoing sent
          cases sent
      | some sent =>
          obtain ⟨outgoingSsrc, outgoing⟩ := sent
          obtain ⟨rewritten, rewrote, returned⟩ := bind_eq_ok_iff.mp succeeded
          cases returned
          obtain ⟨isSsrc, isSeqnum⟩ := rewriteVideo_eq_ok rewrote
          unfold Vp8SimulcastRtpForwarder.sentNumber at moved
          simp only [Option.toList_some, List.map_cons, List.map_nil] at moved
          rw [← isSeqnum] at moved
          refine ⟨tableAdvanced_insert _ (some rewritten) moved ?_,
            stillOnBase⟩
          intro sent isSent
          cases isSent
          exact isSsrc.trans ((named _ rfl).trans (onBase known))

/-- What a packet does to a client that receives it. -/
structure StreamAdvanced (incomingRtp : Packet) (kind : StreamKind)
    (receiver : Client externals)
    (forwarded : Client externals × Option Packet) : Prop where
  stream : RenumberingAdvanced (sentNumbers incomingRtp forwarded.2)
    (receiver.renumberingOf kind (DemuxId.fromSsrc incomingRtp.ssrc))
    (forwarded.1.renumberingOf kind (DemuxId.fromSsrc incomingRtp.ssrc))
  others : ∀ {otherKind other},
    (otherKind = kind → other ≠ DemuxId.fromSsrc incomingRtp.ssrc) →
      forwarded.1.renumberingOf otherKind other =
        receiver.renumberingOf otherKind other
  onStream : ∀ {outgoing}, forwarded.2 = some outgoing → outgoing.ssrc =
    kind.outgoingSsrc (DemuxId.fromSsrc incomingRtp.ssrc)
  onBase : forwarded.1.VideoOnBaseLayer

variable {receiver : Client externals}

theorem streamAdvanced_idle {kind : StreamKind}
    (onBase : receiver.VideoOnBaseLayer) :
    StreamAdvanced incomingRtp kind receiver (receiver, none) where
  stream := .idle rfl
  others := fun _ => rfl
  onStream := by
    intro outgoing sent
    cases sent
  onBase := onBase

theorem forwardAudioRtp_advanced {forwarded : Client externals × Option Packet}
    (isAudio : LayerId.fromSsrc incomingRtp.ssrc = some .audio)
    (onBase : receiver.VideoOnBaseLayer)
    (succeeded : receiver.forwardAudioRtp incomingRtp = .ok forwarded) :
    StreamAdvanced incomingRtp .audio receiver forwarded := by
  obtain ⟨outcome, moved, returned⟩ := bind_eq_ok_iff.mp succeeded
  cases returned
  have advanced : TableAdvanced
      (·.renumbering (LayerId.audio.toSsrc
        (DemuxId.fromSsrc incomingRtp.ssrc))) incomingRtp
      (LayerId.audio.toSsrc (DemuxId.fromSsrc incomingRtp.ssrc))
      receiver.audioForwarderBySenderDemuxId outcome := by
    rw [← LayerId.eq_toSsrc_of_fromSsrc isAudio]
    exact forwardSingleSsrc_advanced moved
  refine ⟨advanced.stream, ?_, advanced.onStream, onBase⟩
  intro otherKind other differs
  cases otherKind with
  | audio =>
      unfold renumberingOf
      rw [advanced.others (differs rfl)]
  | data => rfl
  | video => rfl

theorem forwardDataRtp_advanced {forwarded : Client externals × Option Packet}
    (isData : LayerId.fromSsrc incomingRtp.ssrc = some .rtpData)
    (onBase : receiver.VideoOnBaseLayer)
    (succeeded : receiver.forwardDataRtp incomingRtp = .ok forwarded) :
    StreamAdvanced incomingRtp .data receiver forwarded := by
  obtain ⟨outcome, moved, returned⟩ := bind_eq_ok_iff.mp succeeded
  cases returned
  have advanced : TableAdvanced
      (·.renumbering (LayerId.rtpData.toSsrc
        (DemuxId.fromSsrc incomingRtp.ssrc))) incomingRtp
      (LayerId.rtpData.toSsrc (DemuxId.fromSsrc incomingRtp.ssrc))
      receiver.dataForwarderBySenderDemuxId outcome := by
    rw [← LayerId.eq_toSsrc_of_fromSsrc isData]
    exact forwardSingleSsrc_advanced moved
  refine ⟨advanced.stream, ?_, advanced.onStream, onBase⟩
  intro otherKind other differs
  cases otherKind with
  | audio => rfl
  | data =>
      unfold renumberingOf
      rw [advanced.others (differs rfl)]
  | video => rfl

theorem forwardVideoRtp_advanced {incomingVp8 : Option VideoHeader}
    {forwarded : Client externals × Option Packet}
    (onBase : receiver.VideoOnBaseLayer)
    (succeeded : receiver.forwardVideoRtp incomingRtp incomingVp8 =
      .ok forwarded) :
    StreamAdvanced incomingRtp .video receiver forwarded := by
  cases incomingVp8 with
  | none =>
      cases succeeded
      exact streamAdvanced_idle onBase
  | some header =>
      obtain ⟨outcome, moved, returned⟩ := bind_eq_ok_iff.mp succeeded
      cases returned
      obtain ⟨advanced, stillOnBase⟩ := forwardVideoSsrc_advanced moved onBase
      refine ⟨advanced.stream, ?_, advanced.onStream, stillOnBase⟩
      intro otherKind other differs
      cases otherKind with
      | audio => rfl
      | data => rfl
      | video =>
          unfold renumberingOf
          rw [advanced.others (differs rfl)]

end Client

namespace Call

theorem forwardMedia_advanced {layer : LayerId}
    {incomingVp8 : Option VideoHeader} {receiver : Client externals}
    {forwarded : Client externals × Option Packet}
    (isLayer : LayerId.fromSsrc incomingRtp.ssrc = some layer)
    (onBase : receiver.VideoOnBaseLayer)
    (succeeded : forwardMedia layer incomingRtp incomingVp8 receiver =
      .ok forwarded) :
    Client.StreamAdvanced incomingRtp (StreamKind.ofLayer layer) receiver
      forwarded := by
  cases layer with
  | audio =>
      unfold forwardMedia at succeeded
      dsimp only at succeeded
      split at succeeded
      · cases succeeded
        exact Client.streamAdvanced_idle onBase
      · exact Client.forwardAudioRtp_advanced isLayer onBase succeeded
  | rtpData => exact Client.forwardDataRtp_advanced isLayer onBase succeeded
  | video0 | video1 | video2 =>
      exact Client.forwardVideoRtp_advanced onBase succeeded

/-! ## All receivers -/

/-- The packets for one client. -/
def sentTo (receiver : DemuxId) (toSend : List RtpToSend) : List Packet :=
  (toSend.filter (·.1 = receiver)).map (·.2)

variable {receiver : DemuxId}

theorem sentTo_eq_nil {toSend : List RtpToSend}
    (others : ∀ sent ∈ toSend, sent.1 ≠ receiver) :
    sentTo receiver toSend = [] := by
  unfold sentTo
  rw [List.map_eq_nil_iff, List.filter_eq_nil_iff]
  intro sent member
  simpa using others sent member

theorem sentTo_append (receiver other : DemuxId) (outgoing : Option Packet)
    (rest : List RtpToSend) :
    sentTo receiver ((outgoing.map (other, ·)).toList ++ rest) =
      (if other = receiver then outgoing.toList else []) ++
        sentTo receiver rest := by
  unfold sentTo
  rw [List.filter_append, List.map_append]
  congr 1
  cases outgoing with
  | none => simp
  | some packet =>
      split
      · rename_i same
        simp [same]
      · rename_i differs
        simp [differs]

/-- What a client becomes, and what it is sent. -/
def ReceiverForwarded (sender : DemuxId)
    (forward : Client externals →
      Except Panic (Client externals × Option Packet))
    (before after : Client externals) (sent : List Packet) : Prop :=
  before.demuxId = sender ∧ after = before ∧ sent = [] ∨
    before.demuxId ≠ sender ∧ ∃ outgoing,
      forward before = .ok (after, outgoing) ∧ sent = outgoing.toList

theorem forwardToReceivers_receiver {sender : DemuxId}
    {forward : Client externals →
      Except Panic (Client externals × Option Packet)}
    {clients : List (Client externals)}
    {result : List (Client externals) × List RtpToSend}
    (distinct : (clients.map Client.demuxId).Nodup)
    (forwarded : forwardToReceivers sender forward clients = .ok result) :
    (∀ sent ∈ result.2, sent.1 ∈ clients.map Client.demuxId) ∧
    ∀ after ∈ result.1, ∃ before ∈ clients,
      ReceiverForwarded sender forward before after
        (sentTo before.demuxId result.2) := by
  induction clients generalizing result with
  | nil =>
      cases forwarded
      constructor
      · intro sent member
        cases member
      · intro after member
        cases member
  | cons receiver rest ih =>
      rw [List.map_cons, List.nodup_cons] at distinct
      obtain ⟨notInRest, distinctRest⟩ := distinct
      unfold forwardToReceivers at forwarded
      split at forwarded
      case isTrue isSender =>
        obtain ⟨others, fromRest, returned⟩ := bind_eq_ok_iff.mp forwarded
        cases returned
        obtain ⟨known, receivers⟩ := ih distinctRest fromRest
        constructor
        · intro sent member
          exact List.mem_cons_of_mem _ (known sent member)
        · intro after member
          rcases List.mem_cons.mp member with rfl | inRest
          · refine ⟨after, List.mem_cons_self, .inl ⟨isSender, rfl, ?_⟩⟩
            apply sentTo_eq_nil
            intro sent isSent same
            rw [← same] at notInRest
            exact notInRest (known sent isSent)
          · obtain ⟨before, isBefore, effect⟩ := receivers after inRest
            exact ⟨before, List.mem_cons_of_mem _ isBefore, effect⟩
      case isFalse notSender =>
        obtain ⟨first, fromFirst, later⟩ := bind_eq_ok_iff.mp forwarded
        obtain ⟨others, fromRest, returned⟩ := bind_eq_ok_iff.mp later
        cases returned
        obtain ⟨known, receivers⟩ := ih distinctRest fromRest
        constructor
        · intro sent member
          rcases List.mem_append.mp member with isFirst | inRest
          · rw [Option.mem_toList, Option.map_eq_some_iff] at isFirst
            obtain ⟨outgoing, _, rfl⟩ := isFirst
            exact List.mem_cons_self
          · exact List.mem_cons_of_mem _ (known sent inRest)
        · intro after member
          rcases List.mem_cons.mp member with rfl | inRest
          · refine ⟨receiver, List.mem_cons_self, .inr ⟨notSender, first.2,
              fromFirst, ?_⟩⟩
            have nothing : sentTo receiver.demuxId others.2 = [] := by
              apply sentTo_eq_nil
              intro sent isSent same
              rw [← same] at notInRest
              exact notInRest (known sent isSent)
            rw [sentTo_append, nothing, if_pos rfl, List.append_nil]
          · obtain ⟨before, isBefore, effect⟩ := receivers after inRest
            refine ⟨before, List.mem_cons_of_mem _ isBefore, ?_⟩
            have differs : receiver.demuxId ≠ before.demuxId := by
              intro same
              rw [same] at notInRest
              exact notInRest (List.mem_map_of_mem isBefore)
            rw [sentTo_append, if_neg differs, List.nil_append]
            exact effect

/-! ## A packet of a call -/

variable {present : DemuxId → Prop}

theorem kept_updateIncomingVideo (client : Client externals) (layer : Fin 3)
    (incomingRtp : Packet) (incomingVp8 : VideoHeader) (now : Instant) :
    Client.Kept present client
      (client.updateIncomingVideo layer incomingRtp incomingVp8 now) := by
  unfold Client.updateIncomingVideo
  dsimp only
  split
  · exact Client.kept_of_sameForwarders rfl rfl rfl rfl
  · exact Client.kept_of_sameForwarders rfl rfl rfl rfl

theorem kept_receiveVideo {sender : Client externals} {now : Instant}
    {result : Option VideoHeader × Client externals}
    (received : receiveVideo sender incomingRtp now = .ok (.ok result)) :
    Client.Kept present sender result.2 := by
  rcases receiveVideo_eq_ok received with
    ⟨_, rfl⟩ | ⟨layer, incomingVp8, _, rfl⟩
  · exact .refl _
  · exact kept_updateIncomingVideo sender layer incomingRtp incomingVp8 now

theorem kept_pushAudioLevel (incomingRtp : Packet)
    (sender : Client externals) :
    Client.Kept present sender (pushAudioLevel incomingRtp sender) := by
  unfold pushAudioLevel
  split
  · exact Client.kept_of_sameForwarders rfl rfl rfl rfl
  · exact .refl _

/-- A packet is refused, or it is forwarded after its sender has been
updated. -/
theorem handleMediaRtp_cases {call after : Call externals} {sender : DemuxId}
    {now : Instant} {result : Except (CallError externals) (List RtpToSend)}
    (handled : call.handleMediaRtp sender incomingRtp now =
      .ok (result, after)) :
    ∃ ready : Call externals, ready.roster = call.roster ∧
      (∀ {receiver log}, Tracked receiver log call →
        Tracked receiver log ready) ∧
      ((∃ failure, result = .error failure ∧ after = ready) ∨
        ∃ layer incomingVp8 forwarded,
          DemuxId.fromSsrc incomingRtp.ssrc = sender ∧
          LayerId.fromSsrc incomingRtp.ssrc = some layer ∧
          ready.roster.Participates sender ∧
          forwardToReceivers sender
            (forwardMedia layer incomingRtp incomingVp8) ready.clients =
              .ok forwarded ∧
          result = .ok forwarded.2 ∧
          after = { ready with clients := forwarded.1 }) := by
  rcases handleMediaRtp_eq_ok handled with
    ⟨failure, isError, rfl⟩ | ⟨client, updated, found, authorized, received,
      rest⟩
  · exact ⟨after, rfl, fun tracked => tracked, .inl ⟨failure, isError, rfl⟩⟩
  · have updates : ∀ {other}, call.findClient sender = some other →
        (pushAudioLevel incomingRtp updated.2).toNonParticipant =
          other.toNonParticipant := by
      intro other isSender
      rw [found] at isSender
      cases isSender
      rw [toNonParticipant_pushAudioLevel,
        toNonParticipant_receiveVideo received]
    have keeps : ∀ {receiver log}, Tracked receiver log call →
        Tracked receiver log (call.modifyClient sender fun _ =>
          pushAudioLevel incomingRtp updated.2) := by
      intro receiver log tracked
      apply tracked.modifyClient updates
      intro present other isSender
      rw [found] at isSender
      cases isSender
      exact (kept_receiveVideo received).trans
        (kept_pushAudioLevel incomingRtp _)
    have sameRoster := roster_modifyClient updates
    have participates : (call.modifyClient sender fun _ =>
        pushAudioLevel incomingRtp updated.2).roster.Participates sender := by
      rw [sameRoster]
      have named := List.find?_some found
      rw [decide_eq_true_eq] at named
      rw [← named]
      exact participates_client client (List.mem_of_find?_eq_some found)
    refine ⟨_, sameRoster, keeps, ?_⟩
    rcases forwardFromSender_eq_ok rest with
      ⟨_, isError, rfl⟩ | ⟨layer, forwarded, isLayer, succeeded, isSent, rfl⟩
    · exact .inl ⟨_, isError, rfl⟩
    · exact .inr ⟨layer, updated.1, forwarded, authorized, isLayer,
        participates, succeeded, isSent, rfl⟩

theorem nodup_clients {call : Call externals}
    (distinct : call.demuxIds.Nodup) :
    (call.clients.map Client.demuxId).Nodup := by
  unfold demuxIds Roster.demuxIds Roster.members Roster.participants roster
    at distinct
  simp only [List.map_append, List.map_map] at distinct
  exact (List.nodup_append.mp (List.nodup_append.mp distinct).1).1

/-- How a packet is logged; retransmissions are not. -/
def logEntries (incomingRtp : Packet) (sent : List Packet) : List Forwarded :=
  if incomingRtp.isRtx then []
  else sent.map fun outgoing =>
    ⟨incomingRtp.ssrc, incomingRtp.seqnum, outgoing.ssrc, outgoing.seqnum⟩

/-- What is forwarded to a receiver when a packet has been handled. -/
def forwardedBy (receiver : DemuxId) (incomingRtp : Packet) :
    Except (CallError externals) (List RtpToSend) → List Forwarded
  | .error _ => []
  | .ok toSend => logEntries incomingRtp (sentTo receiver toSend)

@[simp] theorem logEntries_nil (incomingRtp : Packet) :
    logEntries incomingRtp [] = [] := by
  unfold logEntries
  split
  · rfl
  · rfl

theorem mem_logEntries {sent : List Packet} {entry : Forwarded}
    (member : entry ∈ logEntries incomingRtp sent) :
    incomingRtp.isRtx = false ∧ ∃ outgoing ∈ sent, entry =
      ⟨incomingRtp.ssrc, incomingRtp.seqnum, outgoing.ssrc,
        outgoing.seqnum⟩ := by
  unfold logEntries at member
  split at member
  · cases member
  · rename_i original
    obtain ⟨outgoing, isSent, rfl⟩ := List.mem_map.mp member
    exact ⟨by simpa using original, outgoing, isSent, rfl⟩

theorem mem_forwardedBy {result : Except (CallError externals) (List RtpToSend)}
    {entry : Forwarded}
    (member : entry ∈ forwardedBy receiver incomingRtp result) :
    incomingRtp.isRtx = false ∧ entry.incomingSsrc = incomingRtp.ssrc ∧
      entry.incomingSeqnum = incomingRtp.seqnum := by
  cases result with
  | error failure => cases member
  | ok toSend =>
      obtain ⟨original, outgoing, _, rfl⟩ := mem_logEntries member
      exact ⟨original, rfl, rfl⟩

theorem streamLog_logEntries_subset (kind : StreamKind) (sender : DemuxId)
    (incomingRtp : Packet) (outgoing : Option Packet) :
    streamLog kind sender (logEntries incomingRtp outgoing.toList) ⊆
      sentNumbers incomingRtp outgoing := by
  intro number member
  obtain ⟨entry, isEntry, rfl⟩ := List.mem_map.mp member
  obtain ⟨_, packet, isSent, rfl⟩ :=
    mem_logEntries (List.mem_of_mem_filter isEntry)
  exact List.mem_map_of_mem isSent

/-- A packet that has just been forwarded to a receiver: the log tells it
apart from all others of its stream. -/
structure JustForwarded (incomingRtp : Packet) (sender : DemuxId)
    (log : List Forwarded) (entry : Forwarded) : Prop where
  original : incomingRtp.isRtx = false
  ssrc : entry.incomingSsrc = incomingRtp.ssrc
  seqnum : entry.incomingSeqnum = incomingRtp.seqnum
  isSender : DemuxId.fromSsrc incomingRtp.ssrc = sender
  stream : ∃ (kind : StreamKind) (state : Renumbering Ssrc),
    entry.outgoingSsrc = kind.outgoingSsrc sender ∧
      Tracks state (streamLog kind sender log)

/-- The log of a client that was forwarded a packet. -/
theorem streams_of_advanced {ready : Call externals} {log : List Forwarded}
    {before : Client externals} {forwarded : Client externals × Option Packet}
    {kind : StreamKind} (tracked : Tracked receiver log ready)
    (known : before ∈ ready.clients) (isReceiver : before.demuxId = receiver)
    (participates : ready.roster.Participates
      (DemuxId.fromSsrc incomingRtp.ssrc))
    (advanced : Client.StreamAdvanced incomingRtp kind before forwarded)
    (otherKind : StreamKind) (other : DemuxId) :
    StreamFits (ready.roster.Participates other)
      (streamLog otherKind other
        (log ++ logEntries incomingRtp forwarded.2.toList))
      (forwarded.1.renumberingOf otherKind other) := by
  have fits := tracked.streams before known isReceiver otherKind other
  rw [streamLog_append]
  by_cases same : otherKind = kind ∧ other = DemuxId.fromSsrc incomingRtp.ssrc
  · obtain ⟨rfl, rfl⟩ := same
    have moved := fits.advanced participates advanced.stream
    apply moved.subset
    apply List.append_subset.mpr
    constructor
    · exact List.subset_append_left _ _
    · exact List.Subset.trans
        (streamLog_logEntries_subset _ _ incomingRtp forwarded.2)
        (List.subset_append_right _ _)
  · rw [advanced.others fun sameKind sameSender => same ⟨sameKind, sameSender⟩]
    have nothing : streamLog otherKind other
        (logEntries incomingRtp forwarded.2.toList) = [] := by
      unfold streamLog
      rw [List.map_eq_nil_iff, List.filter_eq_nil_iff]
      intro entry member onStream
      obtain ⟨_, outgoing, isSent, rfl⟩ := mem_logEntries member
      rw [decide_eq_true_eq, advanced.onStream (Option.mem_toList.mp isSent)]
        at onStream
      obtain ⟨sameKind, sameSender⟩ := StreamKind.outgoingSsrc_inj onStream
      exact same ⟨sameKind.symm, sameSender.symm⟩
    rw [nothing, List.append_nil]
    exact fits

/-- What is logged has just been forwarded. -/
theorem justForwarded_of_advanced {ready : Call externals}
    {log : List Forwarded} {before : Client externals}
    {forwarded : Client externals × Option Packet} {kind : StreamKind}
    (tracked : Tracked receiver log ready) (known : before ∈ ready.clients)
    (isReceiver : before.demuxId = receiver)
    (participates : ready.roster.Participates
      (DemuxId.fromSsrc incomingRtp.ssrc))
    (advanced : Client.StreamAdvanced incomingRtp kind before forwarded) :
    logEntries incomingRtp forwarded.2.toList = [] ∨
      ∃ entry, logEntries incomingRtp forwarded.2.toList = [entry] ∧
        JustForwarded incomingRtp (DemuxId.fromSsrc incomingRtp.ssrc)
          (log ++ [entry]) entry := by
  have fits := streams_of_advanced tracked known isReceiver participates
    advanced kind (DemuxId.fromSsrc incomingRtp.ssrc)
  cases original : incomingRtp.isRtx with
  | true => exact .inl (by simp [logEntries, original])
  | false =>
      cases sent : forwarded.2 with
      | none => exact .inl (logEntries_nil incomingRtp)
      | some outgoing =>
          right
          have logged : logEntries incomingRtp (some outgoing).toList =
              [⟨incomingRtp.ssrc, incomingRtp.seqnum, outgoing.ssrc,
                outgoing.seqnum⟩] := by
            simp [logEntries, original]
          refine ⟨_, logged, original, rfl, rfl, rfl, kind, ?_⟩
          have stream := advanced.stream
          rw [sent] at stream fits
          obtain ⟨state, isState⟩ := stream.exists_state (by simp [sentNumbers])
          rw [logged, isState] at fits
          exact ⟨state, advanced.onStream sent, fits⟩

/-- The client is active. -/
def IsActive (call : Call externals) (demuxId : DemuxId) : Prop :=
  ∃ client ∈ call.clients, client.demuxId = demuxId

theorem isActive_iff {call : Call externals} {demuxId : DemuxId} :
    call.IsActive demuxId ↔
      ∃ client ∈ call.roster.active, client.demuxId = demuxId := by
  constructor
  · intro isActive
    obtain ⟨client, member, named⟩ := isActive
    exact ⟨client.toNonParticipant, mem_roster_active member, named⟩
  · intro isActive
    obtain ⟨client, member, named⟩ := isActive
    obtain ⟨origin, isOrigin, same⟩ := exists_client_of_active member
    exact ⟨origin, isOrigin, same.trans named⟩

variable {receiver : DemuxId} {log : List Forwarded} {incomingRtp : Packet}

theorem ReceiverForwarded.demuxId {sender : DemuxId} {layer : LayerId}
    {incomingVp8 : Option VideoHeader} {before after : Client externals}
    {sent : List Packet}
    (effect : ReceiverForwarded sender
      (forwardMedia layer incomingRtp incomingVp8) before after sent) :
    after.demuxId = before.demuxId := by
  rcases effect with ⟨_, rfl, _⟩ | ⟨_, outgoing, moved, _⟩
  · rfl
  · exact congrArg NonParticipantClient.demuxId
      (toNonParticipant_forwardMedia moved)

section Forwarding

variable {ready : Call externals} {layer : LayerId}
variable {incomingVp8 : Option VideoHeader}
variable {forwarded : List (Client externals) × List RtpToSend}

theorem roster_forwardToReceivers
    (succeeded : Call.forwardToReceivers (DemuxId.fromSsrc incomingRtp.ssrc)
      (forwardMedia layer incomingRtp incomingVp8) ready.clients =
        .ok forwarded) :
    ({ ready with clients := forwarded.1 } : Call externals).roster =
      ready.roster := by
  have sameClients := map_forwardToReceivers toNonParticipant_forwardMedia
    succeeded
  unfold roster
  dsimp only
  rw [sameClients]

theorem onBase_forwardToReceivers (tracked : Tracked receiver log ready)
    (isLayer : LayerId.fromSsrc incomingRtp.ssrc = some layer)
    (succeeded : Call.forwardToReceivers (DemuxId.fromSsrc incomingRtp.ssrc)
      (forwardMedia layer incomingRtp incomingVp8) ready.clients =
        .ok forwarded) :
    ∀ client ∈ forwarded.1, client.VideoOnBaseLayer := by
  intro after member
  obtain ⟨before, known, effect⟩ := (forwardToReceivers_receiver
    (nodup_clients tracked.distinct) succeeded).2 after member
  rcases effect with ⟨_, rfl, _⟩ | ⟨_, outgoing, moved, _⟩
  · exact tracked.onBase after known
  · exact (forwardMedia_advanced isLayer (tracked.onBase before known)
      moved).onBase

theorem Tracked.forwardToReceivers (tracked : Tracked receiver log ready)
    (isActive : ready.IsActive receiver)
    (isLayer : LayerId.fromSsrc incomingRtp.ssrc = some layer)
    (participates : ready.roster.Participates
      (DemuxId.fromSsrc incomingRtp.ssrc))
    (succeeded : Call.forwardToReceivers (DemuxId.fromSsrc incomingRtp.ssrc)
      (forwardMedia layer incomingRtp incomingVp8) ready.clients =
        .ok forwarded) :
    Tracked receiver
      (log ++ logEntries incomingRtp (sentTo receiver forwarded.2))
      { ready with clients := forwarded.1 } := by
  have receivers := (forwardToReceivers_receiver
    (nodup_clients tracked.distinct) succeeded).2
  have sameRoster := roster_forwardToReceivers succeeded
  refine ⟨?_, onBase_forwardToReceivers tracked isLayer succeeded, ?_, ?_⟩
  · unfold demuxIds
    rw [sameRoster]
    exact tracked.distinct
  · intro _
    rw [sameRoster]
    obtain ⟨client, member, rfl⟩ := isActive_iff.mp isActive
    exact Roster.not_waits_of_active tracked.distinct member
  · intro after member isReceiver kind sender
    rw [sameRoster]
    obtain ⟨before, known, effect⟩ := receivers after member
    have wasReceiver := effect.demuxId.symm.trans isReceiver
    rw [wasReceiver] at effect
    rcases effect with ⟨_, rfl, nothing⟩ | ⟨_, outgoing, moved, sent⟩
    · rw [nothing, logEntries_nil, List.append_nil]
      exact tracked.streams after known isReceiver kind sender
    · rw [sent]
      exact streams_of_advanced tracked known wasReceiver participates
        (forwardMedia_advanced isLayer (tracked.onBase before known) moved)
        kind sender

theorem justForwarded_forwardToReceivers
    (tracked : Tracked receiver log ready) (isActive : ready.IsActive receiver)
    (isLayer : LayerId.fromSsrc incomingRtp.ssrc = some layer)
    (participates : ready.roster.Participates
      (DemuxId.fromSsrc incomingRtp.ssrc))
    (succeeded : Call.forwardToReceivers (DemuxId.fromSsrc incomingRtp.ssrc)
      (forwardMedia layer incomingRtp incomingVp8) ready.clients =
        .ok forwarded) :
    logEntries incomingRtp (sentTo receiver forwarded.2) = [] ∨
      ∃ entry, logEntries incomingRtp (sentTo receiver forwarded.2) =
          [entry] ∧
        JustForwarded incomingRtp (DemuxId.fromSsrc incomingRtp.ssrc)
          (log ++ [entry]) entry := by
  have stillActive : ({ ready with clients := forwarded.1 } :
      Call externals).IsActive receiver := by
    rw [isActive_iff, roster_forwardToReceivers succeeded, ← isActive_iff]
    exact isActive
  obtain ⟨after, member, isReceiver⟩ := stillActive
  obtain ⟨before, known, effect⟩ := (forwardToReceivers_receiver
    (nodup_clients tracked.distinct) succeeded).2 after member
  have wasReceiver := effect.demuxId.symm.trans isReceiver
  rw [wasReceiver] at effect
  rcases effect with ⟨_, rfl, nothing⟩ | ⟨_, outgoing, moved, sent⟩
  · rw [nothing]
    exact .inl (logEntries_nil incomingRtp)
  · rw [sent]
    exact justForwarded_of_advanced tracked known wasReceiver participates
      (forwardMedia_advanced isLayer (tracked.onBase before known) moved)

end Forwarding

variable {call after : Call externals} {sender : DemuxId} {now : Instant}
variable {result : Except (CallError externals) (List RtpToSend)}

theorem Tracked.handleMediaRtp (tracked : Tracked receiver log call)
    (isActive : call.IsActive receiver)
    (handled : call.handleMediaRtp sender incomingRtp now =
      .ok (result, after)) :
    Tracked receiver (log ++ forwardedBy receiver incomingRtp result) after ∧
      (forwardedBy receiver incomingRtp result = [] ∨
        ∃ entry, forwardedBy receiver incomingRtp result = [entry] ∧
          JustForwarded incomingRtp sender (log ++ [entry]) entry) := by
  obtain ⟨ready, sameRoster, keeps, ⟨failure, rfl, rfl⟩ | ⟨layer, incomingVp8,
    forwarded, rfl, isLayer, participates, succeeded, rfl, rfl⟩⟩ :=
      handleMediaRtp_cases handled
  · refine ⟨?_, .inl rfl⟩
    unfold forwardedBy
    rw [List.append_nil]
    exact keeps tracked
  · have stillActive : ready.IsActive receiver := by
      rw [isActive_iff, sameRoster, ← isActive_iff]
      exact isActive
    exact ⟨(keeps tracked).forwardToReceivers stillActive isLayer participates
        succeeded,
      justForwarded_forwardToReceivers (keeps tracked) stillActive isLayer
        participates succeeded⟩

/-- With an empty log it does not matter whether the receiver is active. -/
theorem Tracked.handleMediaRtp_nil (tracked : Tracked receiver [] call)
    (handled : call.handleMediaRtp sender incomingRtp now =
      .ok (result, after)) : Tracked receiver [] after := by
  have sameRoster := roster_handleMediaRtp handled
  have onBase : ∀ client ∈ after.clients, client.VideoOnBaseLayer := by
    obtain ⟨ready, _, keeps, ⟨failure, rfl, rfl⟩ | ⟨layer, incomingVp8,
      forwarded, rfl, isLayer, _, succeeded, rfl, rfl⟩⟩ :=
        handleMediaRtp_cases handled
    · exact (keeps tracked).onBase
    · exact onBase_forwardToReceivers (keeps tracked) isLayer succeeded
  refine ⟨?_, onBase, fun used => absurd rfl used, ?_⟩
  · unfold demuxIds
    rw [sameRoster]
    exact tracked.distinct
  · intro client _ _ kind other
    exact .nil _ _

end Call

end CallingService.Backend
