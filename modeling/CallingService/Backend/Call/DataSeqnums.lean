import CallingService.Backend.Call.Standing

/-!
# Sequence numbers of the server's messages

Every message to a client takes the next number of its counter, whichever of
the lists the client is in, and the counter moves along with the client.  So
the numbers of the messages to one client count up from its join to its drop.
-/

namespace CallingService.Backend

open Foundation Rtp

variable {externals : CallExternals}

/-! ## Consecutive packets -/

/-- The packets take the next numbers of the client. -/
structure NonParticipantClient.Numbers (before after : NonParticipantClient)
    (packets : List Packet) : Prop where
  after : after = before.setNextSeqnum
    (before.nextServerToClientDataRtpSeqnum + packets.length)
  seqnums : packets.map Packet.seqnum =
    List.range' before.nextServerToClientDataRtpSeqnum packets.length
  ssrc : ∀ {packet}, packet ∈ packets → packet.ssrc = clientServerDataSsrc

namespace NonParticipantClient

theorem Numbers.nil (client : NonParticipantClient) :
    client.Numbers client [] where
  after := rfl
  seqnums := rfl
  ssrc := by simp

theorem Numbers.append {first second third : NonParticipantClient}
    {early late : List Packet} (one : first.Numbers second early)
    (two : second.Numbers third late) :
    first.Numbers third (early ++ late) where
  after := by
    rw [two.after, one.after]
    simp [setNextSeqnum, Nat.add_assoc]
  seqnums := by
    rw [List.map_append, one.seqnums, two.seqnums, one.after]
    simp [setNextSeqnum]
  ssrc := by
    intro packet member
    rcases List.mem_append.mp member with isEarly | isLate
    · exact one.ssrc isEarly
    · exact two.ssrc isLate

theorem Numbers.demuxId {before after : NonParticipantClient}
    {packets : List Packet} (numbers : before.Numbers after packets) :
    after.demuxId = before.demuxId := by
  rw [numbers.after]
  rfl

end NonParticipantClient

variable {messaging : ServerMessaging externals}

theorem encodeSfuToDevice_packet {update : SfuToDevice}
    {seqnum : FullSequenceNumber} {encoded : FullSequenceNumber × Packet}
    (succeeded : encodeSfuToDevice messaging update seqnum = .ok encoded) :
    encoded.2.seqnum = seqnum ∧ encoded.2.ssrc = clientServerDataSsrc := by
  obtain ⟨next, _, returned⟩ := bind_eq_ok_iff.mp succeeded
  cases returned
  exact ⟨rfl, rfl⟩

theorem encodeAll_packets {updates : List SfuToDevice}
    {seqnum : FullSequenceNumber}
    {encoded : FullSequenceNumber × List Packet}
    (succeeded : encodeAll messaging updates seqnum = .ok encoded) :
    encoded.1 = seqnum + encoded.2.length ∧
      encoded.2.map Packet.seqnum = List.range' seqnum encoded.2.length ∧
      ∀ packet ∈ encoded.2, packet.ssrc = clientServerDataSsrc := by
  induction updates generalizing seqnum encoded with
  | nil =>
      cases succeeded
      simp
  | cons update rest ih =>
      obtain ⟨first, isFirst, later⟩ := bind_eq_ok_iff.mp succeeded
      obtain ⟨others, areOthers, returned⟩ := bind_eq_ok_iff.mp later
      cases returned
      have next := encodeSfuToDevice_eq_ok isFirst
      obtain ⟨number, stream⟩ := encodeSfuToDevice_packet isFirst
      obtain ⟨last, numbers, streams⟩ := ih areOthers
      rw [next] at last numbers
      refine ⟨?_, ?_, ?_⟩
      · dsimp only
        rw [last, List.length_cons, Nat.add_assoc, Nat.add_comm 1]
      · rw [List.map_cons, number, numbers, List.length_cons,
          List.range'_succ]
      · simpa [stream] using streams

theorem NonParticipantClient.numbers_send {update : SfuToDevice}
    {client : NonParticipantClient}
    {sent : NonParticipantClient × List Packet}
    (succeeded : client.send messaging update = .ok sent) :
    client.Numbers sent.1 sent.2 := by
  obtain ⟨encoded, isEncoded, returned⟩ := bind_eq_ok_iff.mp succeeded
  cases returned
  have next := encodeSfuToDevice_eq_ok isEncoded
  obtain ⟨number, stream⟩ := encodeSfuToDevice_packet isEncoded
  constructor
  · rw [next]
    rfl
  · simp [number]
  · simp [stream]

theorem Client.numbers_send {update : Client externals → SfuToDevice}
    {client : Client externals} {sent : Client externals × List Packet}
    (succeeded : client.send messaging update = .ok sent) :
    client.toNonParticipant.Numbers sent.1.toNonParticipant sent.2 := by
  obtain ⟨encoded, isEncoded, returned⟩ := bind_eq_ok_iff.mp succeeded
  cases returned
  have next := encodeSfuToDevice_eq_ok isEncoded
  obtain ⟨number, stream⟩ := encodeSfuToDevice_packet isEncoded
  constructor
  · simp [Client.setNextSeqnum, Client.toNonParticipant,
      NonParticipantClient.setNextSeqnum, next]
  · simp [number, Client.toNonParticipant]
  · simp [stream]

theorem Client.numbers_sendMrpUpdates {now : Instant}
    {client : Client externals} {sent : Client externals × List Packet}
    (succeeded : client.sendMrpUpdates messaging now = .ok sent) :
    client.toNonParticipant.Numbers sent.1.toNonParticipant sent.2 := by
  obtain ⟨encoded, isEncoded, returned⟩ := bind_eq_ok_iff.mp succeeded
  cases returned
  obtain ⟨last, numbers, streams⟩ := encodeAll_packets isEncoded
  constructor
  · simp [Client.toNonParticipant, NonParticipantClient.setNextSeqnum, last]
  · exact numbers
  · exact fun {packet} member => streams packet member

/-! ## One addressee after the other -/

namespace Call

theorem sentTo_append_all (demuxId : DemuxId) (first second : List RtpToSend) :
    sentTo demuxId (first ++ second) =
      sentTo demuxId first ++ sentTo demuxId second := by
  simp [sentTo]

theorem sentTo_map_self (demuxId : DemuxId) (packets : List Packet) :
    sentTo demuxId (packets.map (demuxId, ·)) = packets := by
  induction packets with
  | nil => rfl
  | cons packet rest ih =>
      simpa [sentTo] using ih

theorem sentTo_map_other {demuxId other : DemuxId} (different : other ≠ demuxId)
    (packets : List Packet) :
    sentTo demuxId (packets.map (other, ·)) = [] := by
  apply sentTo_eq_nil
  simp [different]

section SendToEach

variable {Addressee : Type} {demuxIdOf : Addressee → DemuxId}
variable {send : Addressee → Except Panic (Addressee × List Packet)}

theorem sentTo_sendToEach_of_notMem {addressees : List Addressee}
    {result : List Addressee × List RtpToSend}
    (succeeded : sendToEach demuxIdOf send addressees = .ok result)
    {demuxId : DemuxId} (absent : demuxId ∉ addressees.map demuxIdOf) :
    sentTo demuxId result.2 = [] := by
  induction addressees generalizing result with
  | nil =>
      cases succeeded
      rfl
  | cons addressee rest ih =>
      obtain ⟨first, isFirst, later⟩ := bind_eq_ok_iff.mp succeeded
      obtain ⟨others, areOthers, returned⟩ := bind_eq_ok_iff.mp later
      cases returned
      simp only [List.map_cons, List.mem_cons, not_or] at absent
      rw [sentTo_append_all, sentTo_map_other (Ne.symm absent.1),
        ih areOthers absent.2]
      rfl

/-- Each addressee is sent its own packets. -/
theorem numbers_sendToEach {view : Addressee → NonParticipantClient}
    (sends : ∀ {addressee sent}, send addressee = .ok sent →
      (view addressee).Numbers (view sent.1) sent.2)
    {addressees : List Addressee} {result : List Addressee × List RtpToSend}
    (distinct : (addressees.map demuxIdOf).Nodup)
    (succeeded : sendToEach demuxIdOf send addressees = .ok result)
    {addressee : Addressee} (member : addressee ∈ addressees) :
    ∃ later ∈ result.1, (view addressee).Numbers (view later)
      (sentTo (demuxIdOf addressee) result.2) := by
  induction addressees generalizing result with
  | nil => cases member
  | cons head rest ih =>
      obtain ⟨first, isFirst, later⟩ := bind_eq_ok_iff.mp succeeded
      obtain ⟨others, areOthers, returned⟩ := bind_eq_ok_iff.mp later
      cases returned
      rw [List.map_cons, List.nodup_cons] at distinct
      dsimp only
      rw [sentTo_append_all]
      rcases List.mem_cons.mp member with rfl | inRest
      · rw [sentTo_map_self,
          sentTo_sendToEach_of_notMem areOthers distinct.1, List.append_nil]
        exact ⟨first.1, List.mem_cons_self, sends isFirst⟩
      · have different : demuxIdOf head ≠ demuxIdOf addressee := by
          intro same
          apply distinct.1
          rw [same]
          exact List.mem_map_of_mem inRest
        obtain ⟨told, isTold, numbers⟩ := ih distinct.2 areOthers inRest
        rw [sentTo_map_other different, List.nil_append]
        exact ⟨told, List.mem_cons_of_mem _ isTold, numbers⟩

end SendToEach

/-! ## One stage of a tick -/

/-- Everybody in the call is sent consecutive packets. -/
def Tells (before after : Call externals) (sent : List RtpToSend) : Prop :=
  ∀ client ∈ before.roster.members, ∃ later ∈ after.roster.members,
    client.Numbers later (sentTo client.demuxId sent)

theorem Tells.of_roster {before after : Call externals}
    (same : after.roster = before.roster) : before.Tells after [] := by
  intro client member
  rw [same]
  exact ⟨client, member, .nil client⟩

theorem Tells.append {first second third : Call externals}
    {early late : List RtpToSend} (one : first.Tells second early)
    (two : second.Tells third late) : first.Tells third (early ++ late) := by
  intro client member
  obtain ⟨middle, isMiddle, numbers⟩ := one client member
  obtain ⟨last, isLast, more⟩ := two middle isMiddle
  rw [numbers.demuxId] at more
  rw [sentTo_append_all]
  exact ⟨last, isLast, numbers.append more⟩

/-- Only the clients of one list are told something. -/
theorem tells_of_standing {before after : Call externals}
    {sent : List RtpToSend} (distinct : before.roster.demuxIds.Nodup)
    (standing : Standing)
    (others : ∀ other, other ≠ standing →
      after.roster.clientsIn other = before.roster.clientsIn other)
    (told : ∀ client ∈ before.roster.clientsIn standing,
      ∃ later ∈ after.roster.clientsIn standing,
        client.Numbers later (sentTo client.demuxId sent))
    (onlyThem : ∀ {demuxId},
      (∀ client ∈ before.roster.clientsIn standing,
        client.demuxId ≠ demuxId) → sentTo demuxId sent = []) :
    before.Tells after sent := by
  intro client member
  obtain ⟨place, isThere⟩ := Roster.mem_members.mp member
  by_cases same : place = standing
  · subst same
    obtain ⟨later, isLater, numbers⟩ := told client isThere
    exact ⟨later, Roster.mem_members.mpr ⟨place, isLater⟩, numbers⟩
  · have nothing : sentTo client.demuxId sent = [] := by
      apply onlyThem
      intro other isOther sameId
      exact same (Roster.standing_unique distinct isThere isOther
        sameId.symm).1
    rw [nothing]
    refine ⟨client, Roster.mem_members.mpr ⟨place, ?_⟩, .nil client⟩
    rw [others place same]
    exact isThere

/-! ## The stages of a tick -/

section Stages

variable {call after : Call externals} {now : Instant} {sent : List RtpToSend}

/-- Packets for the active clients. -/
theorem tells_active
    {send : Client externals → Except Panic (Client externals × List Packet)}
    (sends : ∀ {client sent}, send client = .ok sent →
      client.toNonParticipant.Numbers sent.1.toNonParticipant sent.2)
    (distinct : call.roster.demuxIds.Nodup)
    {result : List (Client externals) × List RtpToSend}
    (succeeded : sendToEach Client.demuxId send call.clients = .ok result)
    (roster : after.roster = { call.roster with
      active := result.1.map Client.toNonParticipant }) :
    call.Tells after result.2 := by
  have activeIds : (call.clients.map Client.demuxId).Nodup := by
    have ids := distinct
    unfold Roster.demuxIds Roster.members Roster.participants at ids
    rw [List.map_append, List.map_append] at ids
    have active := (List.nodup_append.mp (List.nodup_append.mp ids).1).1
    simpa [Call.roster, Function.comp_def, Client.toNonParticipant]
      using active
  apply tells_of_standing distinct .active
  · intro other notActive
    rw [roster]
    cases other with
    | active => exact absurd rfl notActive
    | pending => rfl
    | removed => rfl
  · intro client member
    obtain ⟨active, isActive, rfl⟩ := List.mem_map.mp member
    obtain ⟨later, isLater, numbers⟩ :=
      numbers_sendToEach sends activeIds succeeded isActive
    refine ⟨later.toNonParticipant, ?_, numbers⟩
    rw [roster]
    exact List.mem_map_of_mem isLater
  · intro demuxId others
    apply sentTo_sendToEach_of_notMem succeeded
    intro member
    obtain ⟨client, isClient, named⟩ := List.mem_map.mp member
    exact others client.toNonParticipant (List.mem_map_of_mem isClient) named

/-- Packets for the clients of one of the other lists. -/
theorem tells_nonParticipants {update : SfuToDevice} (standing : Standing)
    (distinct : call.roster.demuxIds.Nodup)
    {clients : List NonParticipantClient}
    (listed : call.roster.clientsIn standing = clients)
    {result : List NonParticipantClient × List RtpToSend}
    (succeeded : sendToEach NonParticipantClient.demuxId
      (NonParticipantClient.send messaging update) clients = .ok result)
    (told : after.roster.clientsIn standing = result.1)
    (others : ∀ other, other ≠ standing →
      after.roster.clientsIn other = call.roster.clientsIn other) :
    call.Tells after result.2 := by
  have ids : (clients.map NonParticipantClient.demuxId).Nodup := by
    have whole := distinct
    unfold Roster.demuxIds Roster.members Roster.participants at whole
    rw [List.map_append, List.map_append] at whole
    obtain ⟨joined, removed, _⟩ := List.nodup_append.mp whole
    obtain ⟨active, pending, _⟩ := List.nodup_append.mp joined
    rw [← listed]
    cases standing with
    | active => exact active
    | pending => exact pending
    | removed => exact removed
  apply tells_of_standing distinct standing others
  · intro client member
    rw [listed] at member
    obtain ⟨later, isLater, numbers⟩ :=
      @numbers_sendToEach _ _ _ id NonParticipantClient.numbers_send _ _ ids
        succeeded _ member
    refine ⟨later, ?_, numbers⟩
    rw [told]
    exact isLater
  · intro demuxId notThem
    apply sentTo_sendToEach_of_notMem succeeded
    intro member
    obtain ⟨client, isClient, named⟩ := List.mem_map.mp member
    rw [← listed] at isClient
    exact notThem client isClient named

theorem tells_sendsUpdate {joinedOrLeft : Bool}
    (distinct : call.roster.demuxIds.Nodup)
    (sends : SendsUpdate messaging joinedOrLeft call sent after) :
    call.Tells after sent := by
  cases sends with
  | nobody times => exact .of_roster rfl
  | active times isSent _ =>
      exact tells_active Client.numbers_send distinct isSent rfl
  | pending times isSent _ =>
      apply tells_nonParticipants .pending distinct rfl isSent rfl
      intro other notPending
      cases other with
      | active => rfl
      | pending => exact absurd rfl notPending
      | removed => rfl
  | removed times isSent _ =>
      apply tells_nonParticipants .removed distinct rfl isSent rfl
      intro other notRemoved
      cases other with
      | active => rfl
      | pending => rfl
      | removed => exact absurd rfl notRemoved

theorem tells_sendMrpUpdates (distinct : call.roster.demuxIds.Nodup)
    (succeeded : call.sendMrpUpdates messaging now = .ok (sent, after)) :
    call.Tells after sent := by
  obtain ⟨outcome, isSent, returned⟩ := bind_eq_ok_iff.mp succeeded
  cases returned
  exact tells_active Client.numbers_sendMrpUpdates distinct isSent rfl

theorem Continues.nodup_demuxIds (continues : call.Continues after)
    (distinct : call.roster.demuxIds.Nodup) : after.roster.demuxIds.Nodup := by
  rw [continues.roster.demuxIds]
  exact distinct

theorem tells_sendUpdates
    {clientWasAddedOrRemoved activeSpeakerJustChanged : Bool}
    (distinct : call.roster.demuxIds.Nodup)
    (succeeded : call.sendUpdates messaging clientWasAddedOrRemoved
      activeSpeakerJustChanged now = .ok (sent, after)) :
    call.Tells after sent := by
  have told : call.roster.demuxIds.Nodup →
      call.Tells after sent ∧ after.roster.demuxIds.Nodup := by
    apply @sendUpdates_rule _ _ _ _ _ _
      (fun before sent after => before.roster.demuxIds.Nodup →
        before.Tells after sent ∧ after.roster.demuxIds.Nodup)
      _ _ _ _ succeeded
    · intro before sent after sends distinct
      exact ⟨tells_sendsUpdate distinct sends,
        sends.continues.nodup_demuxIds distinct⟩
    · intro first second third early late one two distinct
      obtain ⟨toldEarly, stillDistinct⟩ := one distinct
      obtain ⟨toldLate, atLast⟩ := two stillDistinct
      exact ⟨toldEarly.append toldLate, atLast⟩
  exact (told distinct).1

theorem roster_prepareTick (call : Call externals) (now : Instant) :
    (call.prepareTick now).2.2.roster = call.roster := by
  apply @prepareTick_rule _ fun before after => after.roster = before.roster
  · exact fun one two => two.trans one
  · exact fun _ _ _ => rfl
  · exact roster_updateIncomingRates
  · exact roster_calculateActiveSpeaker
  · exact roster_allocateForReceivers

theorem roster_sendKeyFrameRequests (call : Call externals) (now : Instant) :
    (call.sendKeyFrameRequestsIfItsBeenTooLong now).2.roster =
      call.roster := by
  unfold sendKeyFrameRequestsIfItsBeenTooLong
  split
  · rfl
  · rfl

theorem tells_tick {answer : List RtpToSend × List (DemuxId × Ssrc)}
    (distinct : call.roster.demuxIds.Nodup)
    (ticked : call.tick messaging now = .ok (answer, after)) :
    call.Tells after answer.1 := by
  obtain ⟨updated, one, rest⟩ := bind_eq_ok_iff.mp ticked
  obtain ⟨forSpeaker, _, rest⟩ := bind_eq_ok_iff.mp rest
  obtain ⟨streams, two, returned⟩ := bind_eq_ok_iff.mp rest
  cases returned
  have prepared : call.Tells (call.prepareTick now).2.2 [] :=
    .of_roster (roster_prepareTick call now)
  have distinct :=
    (call.continues_prepareTick now).nodup_demuxIds distinct
  have told := tells_sendUpdates distinct one
  have distinct := (continues_sendUpdates one).nodup_demuxIds distinct
  have requested : updated.2.Tells
      (updated.2.sendKeyFrameRequestsIfItsBeenTooLong now).2 [] :=
    .of_roster (roster_sendKeyFrameRequests updated.2 now)
  have distinct :=
    (updated.2.continues_sendKeyFrameRequests now).nodup_demuxIds distinct
  have streamed := tells_sendMrpUpdates distinct two
  have whole := ((prepared.append told).append requested).append streamed
  rw [List.nil_append, List.append_nil] at whole
  exact whole

end Stages

end Call

/-! ## Runs -/

/-- What the ticks of a history have sent to one client. -/
def dataSentTo (demuxId : DemuxId)
    (operations : List (CallOperation externals)) : List Packet :=
  operations.flatMap fun operation =>
    match operation with
    | .tick _ sent => Call.sentTo demuxId sent.1
    | _ => []

theorem dataSentTo_snoc (demuxId : DemuxId)
    (operations : List (CallOperation externals))
    (operation : CallOperation externals) :
    dataSentTo demuxId (operations ++ [operation]) =
      dataSentTo demuxId operations ++ dataSentTo demuxId [operation] := by
  simp [dataSentTo]

/-- Who has joined and not left is in the call, and has been sent consecutive
packets since it joined. -/
def AllNumbered (past : List (CallOperation externals))
    (call : Call externals) : Prop :=
  ∀ earlier demuxId userId isAdmin regionRelation now later,
    past = earlier ++
      .event (.addClient demuxId userId isAdmin regionRelation now) :: later →
    (∀ operation ∈ later, ¬ operation.Drops demuxId) →
    ∃ client ∈ call.roster.members,
      NonParticipantClient.Numbers
        ⟨demuxId, userId, isAdmin, regionRelation, 1⟩ client
        (dataSentTo demuxId later)

variable {before after : Call externals}

theorem numbers_of_operation {operation : CallOperation externals}
    (distinct : before.roster.demuxIds.Nodup)
    (step : OperationStep messaging before operation after)
    {client : NonParticipantClient} (member : client ∈ before.roster.members)
    (stays : ¬ operation.Drops client.demuxId) :
    ∃ later ∈ after.roster.members,
      client.Numbers later (dataSentTo client.demuxId [operation]) := by
  by_cases ticks : operation.IsTick
  · cases operation with
    | tick now sent =>
        obtain ⟨later, isLater, numbers⟩ :=
          Call.tells_tick distinct step client member
        exact ⟨later, isLater, by simpa [dataSentTo] using numbers⟩
    | _ => exact ticks.elim
  · obtain ⟨same, isThere, _, unchanged⟩ :=
      members_of_operation step member stays
    have nothing : dataSentTo client.demuxId [operation] = [] := by
      cases operation with
      | tick now sent => exact absurd trivial ticks
      | _ => rfl
    rw [nothing]
    rw [unchanged ticks] at isThere
    exact ⟨client, isThere, .nil client⟩

theorem AllNumbered.step {past : List (CallOperation externals)}
    {operation : CallOperation externals} (numbered : AllNumbered past before)
    (distinct : before.roster.demuxIds.Nodup)
    (step : OperationStep messaging before operation after) :
    AllNumbered (past ++ [operation]) after := by
  intro earlier demuxId userId isAdmin regionRelation now later split stays
  rcases List.eq_nil_or_concat' later with rfl | ⟨rest, last, rfl⟩
  · obtain ⟨rfl, same⟩ := List.append_inj' split rfl
    cases same
    have added : CallStep before
        (.addClient demuxId userId isAdmin regionRelation now) after := step
    refine ⟨⟨demuxId, userId, isAdmin, regionRelation, 1⟩, ?_, .nil _⟩
    rw [added.roster_eq]
    exact (before.roster.members_add _).symm.subset List.mem_cons_self
  · rw [← List.cons_append, ← List.append_assoc] at split
    obtain ⟨rfl, same⟩ := List.append_inj' split rfl
    cases same
    obtain ⟨client, member, numbers⟩ := numbered earlier demuxId userId isAdmin
      regionRelation now rest rfl
      fun other isEarlier => stays other (List.mem_append_left _ isEarlier)
    have named : client.demuxId = demuxId := numbers.demuxId
    have staysNow : ¬ operation.Drops client.demuxId := by
      rw [named]
      exact stays operation (by simp)
    obtain ⟨moved, isMoved, more⟩ :=
      numbers_of_operation distinct step member staysNow
    rw [named] at more
    rw [dataSentTo_snoc]
    exact ⟨moved, isMoved, numbers.append more⟩

theorem allNumbered_of_run {start finish : Call externals}
    {operations : List (CallOperation externals)}
    (driven : DrivenRun messaging start operations finish) :
    AllNumbered operations finish := by
  obtain ⟨isNew, run⟩ := driven
  induction run with
  | nil =>
      intro earlier demuxId userId isAdmin regionRelation now later split
      simp at split
  | snoc past step ih =>
      have distinct : Call.demuxIds _ |>.Nodup :=
        operationInvariant_nodup.of_run nodup_of_isNewCall ⟨isNew, past⟩
      exact ih.step distinct step.2

/-- From the join of a client until it is dropped the messages of the server
to it count up on their stream. -/
theorem data_seqnums_increase {start finish : Call externals}
    {operations : List (CallOperation externals)}
    (driven : DrivenRun messaging start operations finish) :
    ∀ earlier demuxId userId isAdmin regionRelation now later rest,
      operations = earlier ++
        .event (.addClient demuxId userId isAdmin regionRelation now) ::
          (later ++ rest) →
      (∀ operation ∈ later, ¬ operation.Drops demuxId) →
      (∀ packet ∈ dataSentTo demuxId later,
        packet.ssrc = clientServerDataSsrc) ∧
      ((dataSentTo demuxId later).map Packet.seqnum).Pairwise (· < ·) := by
  intro earlier demuxId userId isAdmin regionRelation now later rest split
    stays
  obtain ⟨isNew, run⟩ := driven
  rw [split, ← List.cons_append, ← List.append_assoc] at run
  obtain ⟨middle, past, -⟩ := run.split
  obtain ⟨client, _, numbers⟩ := allNumbered_of_run ⟨isNew, past⟩ earlier
    demuxId userId isAdmin regionRelation now later rfl stays
  refine ⟨fun packet member => numbers.ssrc member, ?_⟩
  rw [numbers.seqnums]
  exact List.pairwise_lt_range'

/-! ## A concrete run -/

def sentByTick (call : Call directExternals) (now : Instant) :
    List RtpToSend × List (DemuxId × Ssrc) :=
  ((call.tick directMessaging now).toOption.map (·.1)).getD ([], [])

def afterTick (call : Call directExternals) (now : Instant) :
    Call directExternals :=
  ((call.tick directMessaging now).toOption.map (·.2)).getD call

theorem tick_eq_ok {call : Call directExternals} {now : Instant}
    (succeeds : (call.tick directMessaging now).toOption.isSome = true) :
    call.tick directMessaging now =
      .ok (sentByTick call now, afterTick call now) := by
  unfold sentByTick afterTick
  cases ticked : call.tick directMessaging now with
  | error panic =>
      rw [ticked] at succeeds
      cases succeeds
  | ok result => rfl

/-- After both have joined there are two ticks. -/
def tickedPair : List (CallOperation directExternals) :=
  [.tick (fromSecs 2) (sentByTick pairedCall (fromSecs 2)),
    .tick (fromSecs 4)
      (sentByTick (afterTick pairedCall (fromSecs 2)) (fromSecs 4))]

theorem drivenRun_tickedPair :
    DrivenRun directMessaging moderatedCall
      ([.event (.addClient (DemuxId.fromSsrc 80) "alice" true .unknown 0),
        .event (.addClient (DemuxId.fromSsrc 96) "bob" true .unknown 0)] ++
          tickedPair)
      (afterTick (afterTick pairedCall (fromSecs 2)) (fromSecs 4)) := by
  have first : Guarded OperationAddsUnused (OperationStep directMessaging)
      pairedCall
      (.tick (fromSecs 2) (sentByTick pairedCall (fromSecs 2)))
      (afterTick pairedCall (fromSecs 2)) :=
    ⟨trivial, tick_eq_ok (by decide +kernel)⟩
  have second : Guarded OperationAddsUnused (OperationStep directMessaging)
      (afterTick pairedCall (fromSecs 2))
      (.tick (fromSecs 4)
        (sentByTick (afterTick pairedCall (fromSecs 2)) (fromSecs 4)))
      (afterTick (afterTick pairedCall (fromSecs 2)) (fromSecs 4)) :=
    ⟨trivial, tick_eq_ok (by decide +kernel)⟩
  exact ⟨drivenRun_pairedCall.1,
    .snoc (.snoc drivenRun_pairedCall.2 first) second⟩

/-- Both ticks have a message for Bob. -/
theorem data_seqnums_increase_pair :
    (dataSentTo (DemuxId.fromSsrc 96) tickedPair).length = 2 ∧
      ((dataSentTo (DemuxId.fromSsrc 96) tickedPair).map
        Packet.seqnum).Pairwise (· < ·) := by
  refine ⟨by decide +kernel, ?_⟩
  have increasing := data_seqnums_increase drivenRun_tickedPair
    [.event (.addClient (DemuxId.fromSsrc 80) "alice" true .unknown 0)]
    (DemuxId.fromSsrc 96) "bob" true .unknown 0 tickedPair [] rfl
  apply (increasing _).2
  intro operation member
  rcases List.mem_cons.mp member with rfl | later
  · exact id
  · rw [List.mem_singleton.mp later]
    exact id

end CallingService.Backend
