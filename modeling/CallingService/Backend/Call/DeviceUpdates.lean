import CallingService.Backend.Call.DataSeqnums
import CallingService.Backend.Call.MembershipTimes

/-!
# Updates about joined and left devices

A tick tells the clients that a device joined or left if the time of the last
change is later than the time at which they were told last.  The two times can
be equal, and such a change is not told.
-/

namespace CallingService.Backend

open Foundation Rtp

variable {externals : CallExternals}

/-! ## What a packet mentions -/

/-- The packet of a message. -/
def dataPacket (messaging : ServerMessaging externals) (update : SfuToDevice)
    (seqnum : FullSequenceNumber) : Packet :=
  Packet.withEmptyTag clientServerDataPayloadType seqnum seqnum.toUInt32
    clientServerDataSsrc none none (messaging.encodeToVec update)

/-- The packet of a message that does, or does not, mention that a device
joined or left. -/
def Mentions (messaging : ServerMessaging externals) (joinedOrLeft : Bool)
    (packet : Packet) : Prop :=
  ∃ update seqnum, update.deviceJoinedOrLeft = joinedOrLeft ∧
    packet = dataPacket messaging update seqnum

/-- A message can be told from its bytes, and nothing is sent on the reliable
streams that they could repeat later. -/
structure ServerMessaging.Distinguishes
    (messaging : ServerMessaging externals) : Prop where
  decodes : ∀ first second,
    messaging.encodeToVec first = messaging.encodeToVec second →
      first.deviceJoinedOrLeft = second.deviceJoinedOrLeft
  repeats : ∀ stream now due, ∀ update ∈
    (messaging.tryResend stream now due).2, update.deviceJoinedOrLeft = false

variable {messaging : ServerMessaging externals}

theorem encodeToVec_of_dataPacket {first second : SfuToDevice}
    {firstSeqnum secondSeqnum : FullSequenceNumber}
    (same : dataPacket messaging first firstSeqnum =
      dataPacket messaging second secondSeqnum) :
    messaging.encodeToVec first = messaging.encodeToVec second := by
  have sameSeqnum : firstSeqnum = secondSeqnum :=
    congrArg Packet.seqnumInHeader same
  subst sameSeqnum
  have bytes := congrArg Packet.serialized same
  unfold dataPacket Packet.withEmptyTag at bytes
  exact List.append_cancel_left (List.append_cancel_right bytes)

theorem mentions_unique (distinguishes : messaging.Distinguishes)
    {packet : Packet} (mentions : Mentions messaging true packet) :
    ¬ Mentions messaging false packet := by
  rintro ⟨other, otherSeqnum, silent, isOther⟩
  obtain ⟨update, seqnum, joinedOrLeft, isUpdate⟩ := mentions
  have same := distinguishes.decodes update other
    (encodeToVec_of_dataPacket (isUpdate.symm.trans isOther))
  rw [joinedOrLeft, silent] at same
  cases same

/-! ## What is sent to an addressee -/

theorem encodeSfuToDevice_dataPacket {update : SfuToDevice}
    {seqnum : FullSequenceNumber} {encoded : FullSequenceNumber × Packet}
    (succeeded : encodeSfuToDevice messaging update seqnum = .ok encoded) :
    encoded.2 = dataPacket messaging update seqnum := by
  obtain ⟨next, _, returned⟩ := bind_eq_ok_iff.mp succeeded
  cases returned
  rfl

theorem of_mem_sendToEach {Addressee : Type}
    {demuxIdOf : Addressee → DemuxId}
    {send : Addressee → Except Panic (Addressee × List Packet)}
    {addressees : List Addressee} {result : List Addressee × List RtpToSend}
    (succeeded : sendToEach demuxIdOf send addressees = .ok result)
    {entry : RtpToSend} (member : entry ∈ result.2) :
    ∃ addressee ∈ addressees, ∃ own, send addressee = .ok own ∧
      entry.2 ∈ own.2 := by
  induction addressees generalizing result with
  | nil =>
      cases succeeded
      cases member
  | cons head rest ih =>
      obtain ⟨first, isFirst, later⟩ := bind_eq_ok_iff.mp succeeded
      obtain ⟨others, areOthers, returned⟩ := bind_eq_ok_iff.mp later
      cases returned
      rcases List.mem_append.mp member with ofHead | ofRest
      · obtain ⟨packet, isOwn, rfl⟩ := List.mem_map.mp ofHead
        exact ⟨head, List.mem_cons_self, first, isFirst, isOwn⟩
      · obtain ⟨addressee, known, own, isSent, isOwn⟩ := ih areOthers ofRest
        exact ⟨addressee, List.mem_cons_of_mem _ known, own, isSent, isOwn⟩

theorem of_mem_encodeAll {updates : List SfuToDevice}
    {seqnum : FullSequenceNumber}
    {encoded : FullSequenceNumber × List Packet}
    (succeeded : encodeAll messaging updates seqnum = .ok encoded)
    {packet : Packet} (member : packet ∈ encoded.2) :
    ∃ update ∈ updates, ∃ number,
      packet = dataPacket messaging update number := by
  induction updates generalizing seqnum encoded with
  | nil =>
      cases succeeded
      cases member
  | cons update rest ih =>
      obtain ⟨first, isFirst, later⟩ := bind_eq_ok_iff.mp succeeded
      obtain ⟨others, areOthers, returned⟩ := bind_eq_ok_iff.mp later
      cases returned
      rcases List.mem_cons.mp member with rfl | inRest
      · exact ⟨update, List.mem_cons_self, seqnum,
          encodeSfuToDevice_dataPacket isFirst⟩
      · obtain ⟨other, isOther, number, isPacket⟩ := ih areOthers inRest
        exact ⟨other, List.mem_cons_of_mem _ isOther, number, isPacket⟩

theorem Client.send_packet {update : Client externals → SfuToDevice}
    {client : Client externals} {sent : Client externals × List Packet}
    (succeeded : client.send messaging update = .ok sent) :
    sent.2 = [dataPacket messaging (update client)
      client.nextServerToClientDataRtpSeqnum] := by
  obtain ⟨encoded, isEncoded, returned⟩ := bind_eq_ok_iff.mp succeeded
  cases returned
  rw [encodeSfuToDevice_dataPacket isEncoded]

theorem NonParticipantClient.send_packet {update : SfuToDevice}
    {client : NonParticipantClient}
    {sent : NonParticipantClient × List Packet}
    (succeeded : client.send messaging update = .ok sent) :
    sent.2 = [dataPacket messaging update
      client.nextServerToClientDataRtpSeqnum] := by
  obtain ⟨encoded, isEncoded, returned⟩ := bind_eq_ok_iff.mp succeeded
  cases returned
  rw [encodeSfuToDevice_dataPacket isEncoded]

/-- All packets agree, and there is one. -/
structure AllMention (messaging : ServerMessaging externals)
    (joinedOrLeft : Bool) (packets : List Packet) : Prop where
  mentions : ∀ packet ∈ packets, Mentions messaging joinedOrLeft packet
  nonempty : packets ≠ []

theorem AllMention.singleton {update : SfuToDevice} {joinedOrLeft : Bool}
    {seqnum : FullSequenceNumber}
    (agree : update.deviceJoinedOrLeft = joinedOrLeft) :
    AllMention messaging joinedOrLeft [dataPacket messaging update seqnum] := by
  refine ⟨?_, List.cons_ne_nil _ _⟩
  intro packet member
  exact ⟨update, seqnum, agree, List.mem_singleton.mp member⟩

theorem NonParticipantClient.send_mentions {update : SfuToDevice}
    {joinedOrLeft : Bool} {client : NonParticipantClient}
    {sent : NonParticipantClient × List Packet}
    (agree : update.deviceJoinedOrLeft = joinedOrLeft)
    (succeeded : client.send messaging update = .ok sent) :
    AllMention messaging joinedOrLeft sent.2 := by
  rw [NonParticipantClient.send_packet succeeded]
  exact .singleton agree

theorem Client.send_mentions {update : Client externals → SfuToDevice}
    {joinedOrLeft : Bool} {client : Client externals}
    {sent : Client externals × List Packet}
    (agree : (update client).deviceJoinedOrLeft = joinedOrLeft)
    (succeeded : client.send messaging update = .ok sent) :
    AllMention messaging joinedOrLeft sent.2 := by
  rw [Client.send_packet succeeded]
  exact .singleton agree

theorem Client.sendMrpUpdates_mentions (distinguishes : messaging.Distinguishes)
    {now : Instant} {client : Client externals}
    {sent : Client externals × List Packet}
    (succeeded : client.sendMrpUpdates messaging now = .ok sent) :
    ∀ packet ∈ sent.2, Mentions messaging false packet := by
  obtain ⟨encoded, isEncoded, returned⟩ := bind_eq_ok_iff.mp succeeded
  cases returned
  intro packet member
  obtain ⟨update, isUpdate, number, isPacket⟩ :=
    of_mem_encodeAll isEncoded member
  refine ⟨update, number, ?_, isPacket⟩
  rcases List.mem_append.mp isUpdate with isAck | isRepeated
  · obtain ⟨header, _, rfl⟩ := List.mem_map.mp isAck
    rfl
  · exact distinguishes.repeats _ _ _ update isRepeated

namespace Call

/-! ## One addressee after the other -/

section SendToEach

variable {Addressee : Type} {demuxIdOf : Addressee → DemuxId}
variable {send : Addressee → Except Panic (Addressee × List Packet)}

theorem mem_sendToEach {addressees : List Addressee}
    {result : List Addressee × List RtpToSend}
    (succeeded : sendToEach demuxIdOf send addressees = .ok result)
    {addressee : Addressee} (member : addressee ∈ addressees) :
    ∃ own, send addressee = .ok own ∧
      ∀ packet ∈ own.2, (demuxIdOf addressee, packet) ∈ result.2 := by
  induction addressees generalizing result with
  | nil => cases member
  | cons head rest ih =>
      obtain ⟨first, isFirst, later⟩ := bind_eq_ok_iff.mp succeeded
      obtain ⟨others, areOthers, returned⟩ := bind_eq_ok_iff.mp later
      cases returned
      rcases List.mem_cons.mp member with rfl | inRest
      · refine ⟨first, isFirst, fun packet isOwn => ?_⟩
        exact List.mem_append_left _ (List.mem_map_of_mem isOwn)
      · obtain ⟨own, isSent, told⟩ := ih areOthers inRest
        refine ⟨own, isSent, fun packet isOwn => ?_⟩
        exact List.mem_append_right _ (told packet isOwn)

end SendToEach

/-! ## Who is told -/

/-- The client is sent a message that a device joined or left. -/
def IsTold (messaging : ServerMessaging externals) (demuxId : DemuxId)
    (sent : List RtpToSend) : Prop :=
  ∃ packet, (demuxId, packet) ∈ sent ∧ Mentions messaging true packet

/-- Every active and every pending client is told. -/
def EveryoneTold (messaging : ServerMessaging externals) (call : Call externals)
    (sent : List RtpToSend) : Prop :=
  ∀ client ∈ call.roster.participants, IsTold messaging client.demuxId sent

/-- Nobody is told. -/
def Silent (messaging : ServerMessaging externals) (sent : List RtpToSend) :
    Prop :=
  ∀ entry ∈ sent, Mentions messaging false entry.2

theorem IsTold.left {demuxId : DemuxId} {early : List RtpToSend}
    (told : IsTold messaging demuxId early) (late : List RtpToSend) :
    IsTold messaging demuxId (early ++ late) := by
  obtain ⟨packet, member, mentions⟩ := told
  exact ⟨packet, List.mem_append_left _ member, mentions⟩

theorem IsTold.right {demuxId : DemuxId} {late : List RtpToSend}
    (told : IsTold messaging demuxId late) (early : List RtpToSend) :
    IsTold messaging demuxId (early ++ late) := by
  obtain ⟨packet, member, mentions⟩ := told
  exact ⟨packet, List.mem_append_right _ member, mentions⟩

theorem Silent.nil : Silent messaging [] := by
  intro entry member
  cases member

theorem Silent.append {early late : List RtpToSend}
    (one : Silent messaging early) (two : Silent messaging late) :
    Silent messaging (early ++ late) := by
  intro entry member
  rcases List.mem_append.mp member with isEarly | isLate
  · exact one entry isEarly
  · exact two entry isLate

theorem Silent.not_isTold (distinguishes : messaging.Distinguishes)
    {sent : List RtpToSend} (silent : Silent messaging sent)
    (demuxId : DemuxId) : ¬ IsTold messaging demuxId sent := by
  rintro ⟨packet, member, mentions⟩
  exact mentions_unique distinguishes mentions (silent _ member)

theorem isTold_of_sendToEach {Addressee : Type}
    {demuxIdOf : Addressee → DemuxId}
    {send : Addressee → Except Panic (Addressee × List Packet)}
    (sends : ∀ {addressee sent}, send addressee = .ok sent →
      AllMention messaging true sent.2)
    {addressees : List Addressee} {result : List Addressee × List RtpToSend}
    (succeeded : sendToEach demuxIdOf send addressees = .ok result)
    {addressee : Addressee} (member : addressee ∈ addressees) :
    IsTold messaging (demuxIdOf addressee) result.2 := by
  obtain ⟨own, isSent, told⟩ := mem_sendToEach succeeded member
  have allMention := sends isSent
  obtain ⟨packet, isOwn⟩ := List.exists_mem_of_ne_nil own.2 allMention.nonempty
  exact ⟨packet, told packet isOwn, allMention.mentions packet isOwn⟩

theorem silent_sendToEach {Addressee : Type}
    {demuxIdOf : Addressee → DemuxId}
    {send : Addressee → Except Panic (Addressee × List Packet)}
    (sends : ∀ {addressee sent}, send addressee = .ok sent →
      ∀ packet ∈ sent.2, Mentions messaging false packet)
    {addressees : List Addressee} {result : List Addressee × List RtpToSend}
    (succeeded : sendToEach demuxIdOf send addressees = .ok result) :
    Silent messaging result.2 := by
  intro entry member
  obtain ⟨addressee, _, own, isSent, isOwn⟩ := of_mem_sendToEach succeeded member
  exact sends isSent entry.2 isOwn

/-! ## The stages of a tick -/

section Stages

variable {call after : Call externals} {now : Instant} {sent : List RtpToSend}

theorem told_sendToParticipating {activeSpeakerJustChanged : Bool}
    (succeeded : call.sendUpdateProtoToParticipatingClients messaging
      true activeSpeakerJustChanged now = .ok (sent, after)) :
    ∀ client ∈ call.clients, IsTold messaging client.demuxId sent := by
  unfold sendUpdateProtoToParticipatingClients at succeeded
  dsimp only at succeeded
  rw [if_pos (by simp [participantsUpdate])] at succeeded
  obtain ⟨outcome, isSent, returned⟩ := bind_eq_ok_iff.mp succeeded
  cases returned
  intro client member
  apply isTold_of_sendToEach _ isSent member
  exact fun sent => Client.send_mentions rfl sent

theorem told_sendToPending
    (succeeded : call.sendUpdateProtoToPendingClients messaging true =
      .ok (sent, after)) :
    ∀ client ∈ call.pendingClients, IsTold messaging client.demuxId sent := by
  obtain ⟨outcome, isSent, returned⟩ := bind_eq_ok_iff.mp succeeded
  cases returned
  intro client member
  apply isTold_of_sendToEach _ isSent member
  exact fun sent => NonParticipantClient.send_mentions rfl sent

theorem silent_sendsUpdate
    (sends : SendsUpdate messaging false call sent after) :
    Silent messaging sent := by
  cases sends with
  | nobody times => exact .nil
  | active times isSent silent =>
      refine silent_sendToEach (fun {client own} sent => ?_) isSent
      have agree := Bool.eq_false_iff.mpr fun mentions =>
        Bool.false_ne_true (silent client mentions)
      exact (Client.send_mentions agree sent).mentions
  | pending _ isSent silent | removed _ isSent silent =>
      refine silent_sendToEach (fun sent => ?_) isSent
      have agree := Bool.eq_false_iff.mpr fun mentions =>
        Bool.false_ne_true (silent mentions)
      exact (NonParticipantClient.send_mentions agree sent).mentions

theorem silent_sendMrpUpdates (distinguishes : messaging.Distinguishes)
    (succeeded : call.sendMrpUpdates messaging now = .ok (sent, after)) :
    Silent messaging sent := by
  obtain ⟨outcome, isSent, returned⟩ := bind_eq_ok_iff.mp succeeded
  cases returned
  exact silent_sendToEach
    (fun sent => Client.sendMrpUpdates_mentions distinguishes sent) isSent

theorem pendingClients_sendToParticipating
    {clientWasAddedOrRemoved activeSpeakerJustChanged : Bool}
    (succeeded : call.sendUpdateProtoToParticipatingClients messaging
      clientWasAddedOrRemoved activeSpeakerJustChanged now =
        .ok (sent, after)) :
    after.pendingClients = call.pendingClients := by
  unfold sendUpdateProtoToParticipatingClients at succeeded
  dsimp only at succeeded
  split at succeeded
  · obtain ⟨outcome, isSent, returned⟩ := bind_eq_ok_iff.mp succeeded
    cases returned
    rfl
  · cases succeeded
    rfl

theorem everyoneTold_sendUpdates {activeSpeakerJustChanged : Bool}
    (succeeded : call.sendUpdates messaging true activeSpeakerJustChanged now =
      .ok (sent, after)) : call.EveryoneTold messaging sent := by
  obtain ⟨participating, one, rest⟩ := bind_eq_ok_iff.mp succeeded
  obtain ⟨pending, two, rest⟩ := bind_eq_ok_iff.mp rest
  obtain ⟨removed, _, rest⟩ := bind_eq_ok_iff.mp rest
  obtain ⟨hands, _, returned⟩ := bind_eq_ok_iff.mp rest
  cases returned
  intro client member
  apply IsTold.left
  apply IsTold.left
  rcases List.mem_append.mp member with isActive | isPending
  · obtain ⟨origin, known, rfl⟩ := List.mem_map.mp isActive
    exact (told_sendToParticipating one origin known).left _
  · apply IsTold.right
    apply told_sendToPending two
    rw [pendingClients_sendToParticipating one]
    exact isPending

theorem silent_sendUpdates {activeSpeakerJustChanged : Bool}
    (succeeded : call.sendUpdates messaging false activeSpeakerJustChanged
      now = .ok (sent, after)) : Silent messaging sent := by
  apply @sendUpdates_rule _ _ _ _ _ _ (fun _ sent _ => Silent messaging sent)
    _ _ _ _ succeeded
  · exact silent_sendsUpdate
  · exact Silent.append

/-! ## The tick -/

/-- Whether the clients are told. -/
def clientsUpdateIsDue (call : Call externals) : Bool :=
  decide (call.updateTimes.2 < call.updateTimes.1)

theorem noteClientsUpdate_due (call : Call externals) (now : Instant) :
    (call.noteClientsUpdate now).1 = call.clientsUpdateIsDue := by
  unfold noteClientsUpdate
  split
  · rename_i later
    have due : call.clientsUpdateIsDue = true := decide_eq_true later
    exact due.symm
  · rename_i notLater
    have notDue : call.clientsUpdateIsDue = false := decide_eq_false notLater
    exact notDue.symm

theorem updateTimes_spoken (call : Call externals) (now : Instant) :
    ((call.updateIncomingRates
      now).calculateActiveSpeakerIfItsBeenTooLong now).2.updateTimes =
        call.updateTimes := by
  rw [← updateTimes_ledger, ledger_calculateActiveSpeakerIfItsBeenTooLong,
    Ledger.updateTimes_recalculate]
  exact updateTimes_of_ledger (call.ledger_updateIncomingRates now)

theorem due_of_spoken {spoken : Option DemuxId × Call externals}
    (times : spoken.2.updateTimes = call.updateTimes) (now : Instant) :
    let noted := spoken.2.noteClientsUpdate now
    let prepared := (noted.1, spoken.1,
      noted.2.reallocateTargetSendRatesIfItsBeenTooLong now)
    prepared.1 = call.clientsUpdateIsDue := by
  have noted := spoken.2.noteClientsUpdate_due now
  unfold clientsUpdateIsDue at noted ⊢
  rw [times] at noted
  exact noted

theorem prepareTick_due (call : Call externals) (now : Instant) :
    (call.prepareTick now).1 = call.clientsUpdateIsDue :=
  due_of_spoken (call.updateTimes_spoken now) now

/-- A tick tells everyone exactly if an update is due. -/
theorem everyoneTold_iff (distinguishes : messaging.Distinguishes)
    {answer : List RtpToSend × List (DemuxId × Ssrc)}
    (ticked : call.tick messaging now = .ok (answer, after)) :
    call.EveryoneTold messaging answer.1 ↔
      call.clientsUpdateIsDue = true ∨ call.roster.participants = [] := by
  obtain ⟨updated, one, rest⟩ := bind_eq_ok_iff.mp ticked
  obtain ⟨forSpeaker, _, rest⟩ := bind_eq_ok_iff.mp rest
  obtain ⟨streams, two, returned⟩ := bind_eq_ok_iff.mp rest
  cases returned
  rw [call.prepareTick_due now] at one
  cases due : call.clientsUpdateIsDue with
  | true =>
      rw [due] at one
      have told := everyoneTold_sendUpdates one
      unfold EveryoneTold at told ⊢
      rw [roster_prepareTick] at told
      constructor
      · exact fun _ => .inl rfl
      · exact fun _ client member => (told client member).left _
  | false =>
      rw [due] at one
      have silent := (silent_sendUpdates one).append
        (silent_sendMrpUpdates distinguishes two)
      constructor
      · intro told
        right
        rw [List.eq_nil_iff_forall_not_mem]
        intro client member
        exact silent.not_isTold distinguishes _ (told client member)
      · rintro (impossible | nobody)
        · cases impossible
        · intro client member
          rw [nobody] at member
          cases member

/-! ### The times after a tick -/

theorem updateTimes_noteUpdate (ledger : Ledger) (now : Instant) :
    (ledger.noteUpdate now).updateTimes = (ledger.updateTimes.1,
      if ledger.updateTimes.2 < ledger.updateTimes.1 then now
      else ledger.updateTimes.2) := by
  unfold Ledger.noteUpdate Ledger.updateTimes
  split
  · rfl
  · rfl

theorem updateTimes_tick {answer : List RtpToSend × List (DemuxId × Ssrc)}
    (ticked : call.tick messaging now = .ok (answer, after)) :
    after.updateTimes = (call.updateTimes.1,
      if call.clientsUpdateIsDue then now else call.updateTimes.2) := by
  have noted := (ledger_tick ticked).updateTimes
  rw [updateTimes_noteUpdate, Ledger.updateTimes_recalculate,
    updateTimes_ledger, updateTimes_ledger] at noted
  unfold clientsUpdateIsDue
  simp only [decide_eq_true_eq]
  exact noted

end Stages

end Call

/-! ## Runs -/

/-- Operations without a tick, and the time of the last one that changed the
active or the pending clients. -/
inductive ChangesSince (messaging : ServerMessaging externals)
    (first : Call externals) : List (CallOperation externals) →
      Call externals → Option Instant → Prop where
  | nothing : ChangesSince messaging first [] first none
  | quiet {operations : List (CallOperation externals)}
      {operation : CallOperation externals} {before after : Call externals}
      {last : Option Instant} :
      ChangesSince messaging first operations before last →
      operation.isTick = false →
      OperationStep messaging before operation after →
      after.roster.joinedIds = before.roster.joinedIds →
      ChangesSince messaging first (operations ++ [operation]) after last
  | change {operations : List (CallOperation externals)}
      {operation : CallOperation externals} {before after : Call externals}
      {last : Option Instant} {now : Instant} :
      ChangesSince messaging first operations before last →
      operation.isTick = false →
      OperationStep messaging before operation after →
      after.roster.joinedIds ≠ before.roster.joinedIds →
      operation.time = some now →
      ChangesSince messaging first (operations ++ [operation]) after (some now)

/-- The operations are given nondecreasing times, from the creation of the
call on: a new call counts as told when it is created. -/
def TimesOrdered (start : Call externals)
    (operations : List (CallOperation externals)) : Prop :=
  (start.clientsUpdateSent ::
    operations.filterMap CallOperation.time).Pairwise (· ≤ ·)

variable {start first before after : Call externals}
variable {earlier operations : List (CallOperation externals)}

theorem mem_times_snoc {operation : CallOperation externals} {now : Instant}
    (timed : operation.time = some now) :
    now ∈ (operations ++ [operation]).filterMap CallOperation.time :=
  List.mem_filterMap.mpr ⟨operation, by simp, timed⟩

theorem times_snoc {operation : CallOperation externals} {now : Instant}
    (member : now ∈ operations.filterMap CallOperation.time) :
    now ∈ (operations ++ [operation]).filterMap CallOperation.time := by
  rw [List.filterMap_append]
  exact List.mem_append_left _ member

/-- The last change is remembered. -/
theorem ChangesSince.updateTimes {last : Option Instant}
    (changes : ChangesSince messaging first operations before last) :
    before.clientsUpdateSent = first.clientsUpdateSent ∧
      ∀ changed, last = some changed →
        before.clientAddedOrRemoved = changed ∧
          changed ∈ operations.filterMap CallOperation.time := by
  induction changes with
  | nothing =>
      refine ⟨rfl, ?_⟩
      intro changed impossible
      cases impossible
  | quiet _ notTick step same ih =>
      obtain ⟨sent, remembered⟩ := ih
      cases clientsChange_of_operation step notTick with
      | kept _ times =>
          refine ⟨(congrArg Prod.snd times).trans sent, ?_⟩
          intro changed isLast
          obtain ⟨atChange, member⟩ := remembered changed isLast
          exact ⟨(congrArg Prod.fst times).trans atChange, times_snoc member⟩
      | changed _ _ different _ => exact absurd same different
  | change _ notTick step different timed ih =>
      cases clientsChange_of_operation step notTick with
      | kept same _ => exact absurd same different
      | changed now isTime _ times =>
          refine ⟨(congrArg Prod.snd times).trans ih.1, ?_⟩
          intro changed isLast
          cases isLast
          rw [timed] at isTime
          cases isTime
          exact ⟨congrArg Prod.fst times, mem_times_snoc timed⟩

/-- The clients were told last when the call was created or at a tick. -/
theorem clientsUpdateSent_mem
    (run : Run (Guarded OperationAddsUnused (OperationStep messaging)) start
      earlier first) :
    first.clientsUpdateSent ∈ start.clientsUpdateSent ::
      earlier.filterMap CallOperation.time := by
  induction run with
  | nil => exact List.mem_cons_self
  | @snoc past operation middle finish _ step ih =>
      have sameOrNow : finish.clientsUpdateSent = middle.clientsUpdateSent ∨
          operation.time = some finish.clientsUpdateSent := by
        cases isTick : operation.isTick with
        | false =>
            cases clientsChange_of_operation step.2 isTick with
            | kept _ times => exact .inl (congrArg Prod.snd times)
            | changed _ _ _ times => exact .inl (congrArg Prod.snd times)
        | true =>
            cases operation with
            | tick now sent =>
                have times := congrArg Prod.snd (Call.updateTimes_tick step.2)
                change finish.clientsUpdateSent =
                  if middle.clientsUpdateIsDue then now
                  else middle.clientsUpdateSent at times
                split at times
                · right
                  rw [times]
                  rfl
                · exact .inl times
            | _ => cases isTick
      rcases sameOrNow with same | isNow
      · rw [same]
        rcases List.mem_cons.mp ih with isStart | isEarlier
        · exact List.mem_cons.mpr (.inl isStart)
        · exact List.mem_cons_of_mem _ (times_snoc isEarlier)
      · exact List.mem_cons_of_mem _ (mem_times_snoc isNow)

theorem told_before_change {changed : Instant}
    (driven : DrivenRun messaging start earlier first)
    (ordered : TimesOrdered start (earlier ++ operations))
    (member : changed ∈ operations.filterMap CallOperation.time) :
    first.clientsUpdateSent ≤ changed := by
  unfold TimesOrdered at ordered
  rw [List.filterMap_append, ← List.cons_append] at ordered
  exact (List.pairwise_append.mp ordered).2.2 _
    (clientsUpdateSent_mem driven.2) _ member

/-- The last change before a tick is told at the tick, unless it has the time
at which the clients were told last or there is nobody to tell. -/
theorem change_announced_iff (distinguishes : messaging.Distinguishes)
    (driven : DrivenRun messaging start earlier first) {changed : Instant}
    (changes : ChangesSince messaging first operations before (some changed))
    (ordered : TimesOrdered start (earlier ++ operations)) {now : Instant}
    {sent : List RtpToSend × List (DemuxId × Ssrc)}
    (ticked : before.tick messaging now = .ok (sent, after)) :
    before.EveryoneTold messaging sent.1 ↔
      changed ≠ first.clientsUpdateSent ∨ before.roster.participants = [] := by
  obtain ⟨sameSent, remembered⟩ := changes.updateTimes
  obtain ⟨atChange, member⟩ := remembered changed rfl
  have notEarlier := told_before_change driven ordered member
  have due : before.clientsUpdateIsDue = true ↔
      changed ≠ first.clientsUpdateSent := by
    unfold Call.clientsUpdateIsDue Call.updateTimes
    rw [decide_eq_true_iff, sameSent, atChange]
    constructor
    · exact Nat.ne_of_gt
    · intro different
      exact Nat.lt_of_le_of_ne notEarlier different.symm
  rw [Call.everyoneTold_iff distinguishes ticked, due]

/-! ## Concrete runs -/

/-- Messages are one byte, which mentions joined and left devices. -/
def flaggingMessaging : ServerMessaging directExternals where
  encodeToVec := fun update => if update.deviceJoinedOrLeft then [1] else [0]
  trySendAck := fun stream => (stream, none)
  tryResend := fun stream _ _ => (stream, [])

theorem distinguishes_flagging : flaggingMessaging.Distinguishes where
  decodes := by
    intro first second same
    unfold flaggingMessaging at same
    cases isFirst : first.deviceJoinedOrLeft with
    | true =>
        cases isSecond : second.deviceJoinedOrLeft with
        | true => rfl
        | false => simp [isFirst, isSecond] at same
    | false =>
        cases isSecond : second.deviceJoinedOrLeft with
        | true => simp [isFirst, isSecond] at same
        | false => rfl
  repeats := by
    intro stream now due update member
    cases member

def aliceJoins (now : Instant) : CallOperation directExternals :=
  .event (.addClient (DemuxId.fromSsrc 80) "alice" true .unknown now)

def joinedCall (now : Instant) : Call directExternals :=
  (moderatedCall.addClient (DemuxId.fromSsrc 80) "alice" true .unknown now).2

theorem changesSince_joinedCall (now : Instant) :
    ChangesSince flaggingMessaging moderatedCall [aliceJoins now]
      (joinedCall now) (some now) := by
  have step : OperationStep flaggingMessaging moderatedCall (aliceJoins now)
      (joinedCall now) := rfl
  apply ChangesSince.change .nothing rfl step _ rfl
  have joined := moderatedCall.roster_addClient (DemuxId.fromSsrc 80) "alice"
    true .unknown now
  have notBlocked : "alice" ∉ moderatedCall.roster.blocked := List.not_mem_nil
  rw [show (joinedCall now).roster = _ from joined]
  exact Roster.joinedIds_add_ne notBlocked

theorem timesOrdered_aliceJoins (now : Instant) :
    TimesOrdered moderatedCall ([] ++ [aliceJoins now]) :=
  List.pairwise_pair.mpr (Nat.zero_le now)

theorem exists_tick_of_isSome {call : Call directExternals} {now : Instant}
    (succeeds : (call.tick flaggingMessaging now).toOption.isSome = true) :
    ∃ sent after, call.tick flaggingMessaging now = .ok (sent, after) := by
  cases ticked : call.tick flaggingMessaging now with
  | error panic =>
      rw [ticked] at succeeds
      cases succeeds
  | ok result => exact ⟨result.1, result.2, rfl⟩

/-- Alice joins a second after the call was created. -/
theorem change_announced_joinedCall :
    ∃ sent after,
      (joinedCall (fromSecs 1)).tick flaggingMessaging (fromSecs 2) =
        .ok (sent, after) ∧
      (joinedCall (fromSecs 1)).EveryoneTold flaggingMessaging sent.1 := by
  obtain ⟨sent, after, ticked⟩ := @exists_tick_of_isSome
    (joinedCall (fromSecs 1)) (fromSecs 2) (by decide +kernel)
  refine ⟨sent, after, ticked, ?_⟩
  have driven : DrivenRun flaggingMessaging moderatedCall [] moderatedCall :=
    ⟨isNewCall_moderatedCall, .nil⟩
  apply (change_announced_iff distinguishes_flagging driven
    (changesSince_joinedCall (fromSecs 1))
    (timesOrdered_aliceJoins (fromSecs 1)) ticked).mpr
  exact .inl (by decide)

/-- No change is lost, whatever the clock reads. -/
def EveryChangeAnnounced (messaging : ServerMessaging externals) : Prop :=
  ∀ start first before after earlier operations changed now sent,
    DrivenRun messaging start earlier first →
    ChangesSince messaging first operations before (some changed) →
    TimesOrdered start (earlier ++ operations) →
    before.tick messaging now = .ok (sent, after) →
      before.EveryoneTold messaging sent.1

/-- Alice joins at the time at which the call was created. -/
theorem not_everyChangeAnnounced :
    ¬ EveryChangeAnnounced flaggingMessaging := by
  intro announced
  obtain ⟨sent, after, ticked⟩ := @exists_tick_of_isSome
    (joinedCall 0) (fromSecs 2) (by decide +kernel)
  have told := announced moderatedCall moderatedCall (joinedCall 0) after []
    [aliceJoins 0] 0 (fromSecs 2) sent ⟨isNewCall_moderatedCall, .nil⟩
    (changesSince_joinedCall 0) (timesOrdered_aliceJoins 0) ticked
  rcases (Call.everyoneTold_iff distinguishes_flagging ticked).mp told with
    due | nobody
  · exact absurd due (by decide +kernel)
  · exact absurd nobody (by decide +kernel)

end CallingService.Backend
