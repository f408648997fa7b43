import CallingService.Backend.Call.Operations

/-!
# Where a client stands

A client that has joined and not left is in exactly one of the three lists of
a call.  Moving it from one list to another changes nothing about it; only
what is sent to it advances its sequence number.
-/

namespace CallingService.Backend

open Foundation Rtp

variable {externals : CallExternals}

inductive Standing where
  | active
  | pending
  | removed
deriving DecidableEq, Repr

namespace Roster

def clientsIn (roster : Roster) : Standing → List NonParticipantClient
  | .active => roster.active
  | .pending => roster.pending
  | .removed => roster.removed

theorem mem_members {roster : Roster} {client : NonParticipantClient} :
    client ∈ roster.members ↔
      ∃ standing, client ∈ roster.clientsIn standing := by
  unfold members participants
  rw [List.mem_append, List.mem_append]
  constructor
  · intro member
    rcases member with (isActive | isPending) | isRemoved
    · exact ⟨.active, isActive⟩
    · exact ⟨.pending, isPending⟩
    · exact ⟨.removed, isRemoved⟩
  · intro member
    obtain ⟨standing, isIn⟩ := member
    cases standing with
    | active => exact .inl (.inl isIn)
    | pending => exact .inl (.inr isIn)
    | removed => exact .inr isIn

/-- A demux id stands for one client in one list. -/
theorem standing_unique {roster : Roster} (distinct : roster.demuxIds.Nodup)
    {first second : Standing} {one other : NonParticipantClient}
    (isFirst : one ∈ roster.clientsIn first)
    (isSecond : other ∈ roster.clientsIn second)
    (same : one.demuxId = other.demuxId) : first = second ∧ one = other := by
  have sameClient : one = other :=
    List.inj_on_of_nodup_map distinct (mem_members.mpr ⟨first, isFirst⟩)
      (mem_members.mpr ⟨second, isSecond⟩) same
  refine ⟨?_, sameClient⟩
  subst sameClient
  have members : roster.members.Nodup := distinct.of_map _
  unfold Roster.members participants at members
  obtain ⟨joined, _, notRemoved⟩ := List.nodup_append.mp members
  obtain ⟨_, _, notPending⟩ := List.nodup_append.mp joined
  cases first with
  | active =>
      cases second with
      | active => rfl
      | pending => exact absurd rfl (notPending one isFirst one isSecond)
      | removed =>
          exact absurd rfl (notRemoved one
            (List.mem_append_left _ isFirst) one isSecond)
  | pending =>
      cases second with
      | active => exact absurd rfl (notPending one isSecond one isFirst)
      | pending => rfl
      | removed =>
          exact absurd rfl (notRemoved one
            (List.mem_append_right _ isFirst) one isSecond)
  | removed =>
      cases second with
      | active =>
          exact absurd rfl (notRemoved one
            (List.mem_append_left _ isSecond) one isFirst)
      | pending =>
          exact absurd rfl (notRemoved one
            (List.mem_append_right _ isSecond) one isFirst)
      | removed => rfl

end Roster

/-! ## Steps -/

namespace CallOperation

/-- The operation takes the demux id out of the call, if it is there. -/
def Drops (demuxId : DemuxId) : CallOperation externals → Prop
  | .event (.dropClient dropped _) => dropped = demuxId
  | .event (.handleDeviceToSfu proto sender _) =>
      proto.leave = true ∧ sender = demuxId
  | _ => False

def IsTick : CallOperation externals → Prop
  | .tick _ _ => True
  | _ => False

end CallOperation

theorem Roster.mem_members_drop {roster : Roster} {demuxId : DemuxId}
    {client : NonParticipantClient} (member : client ∈ roster.members)
    (stays : demuxId ≠ client.demuxId) :
    client ∈ (roster.drop demuxId).members := by
  rcases roster.members_drop demuxId with ⟨same, _⟩ | ⟨dropped, named, split⟩
  · rw [same]
    exact member
  · rcases List.mem_cons.mp (split.symm.subset member) with rfl | isLeft
    · exact absurd named.symm stays
    · exact isLeft

variable {messaging : ServerMessaging externals}
variable {before after : Call externals}

/-- Nobody gets lost in a step, and nothing about anybody changes. -/
theorem members_of_event {event : CallEvent externals}
    (step : CallStep before event after) {client : NonParticipantClient}
    (member : client ∈ before.roster.members)
    (stays : ¬ (CallOperation.event event).Drops client.demuxId) :
    client ∈ after.roster.members := by
  rw [step.roster_eq]
  cases event with
  | addClient demuxId userId isAdmin regionRelation now =>
      apply (before.roster.members_add _).symm.subset
      exact List.mem_cons_of_mem _ member
  | dropClient demuxId now => exact Roster.mem_members_drop member stays
  | handleDeviceToSfu proto sender now =>
      unfold rosterAfter
      dsimp only
      split
      · rename_i leaves
        exact Roster.mem_members_drop member fun same => stays ⟨leaves, same⟩
      · exact (Roster.members_handleProtos _ _ _).symm.subset member
  | handleMediaRtp sender incomingRtp now result => exact member
  | tickForwarding now => exact member

theorem mem_of_counted {clients later : List NonParticipantClient}
    (counted : ListCounted clients later) {client : NonParticipantClient}
    (member : client ∈ clients) : ∃ same ∈ later, client.Counted same := by
  induction counted with
  | nil => cases member
  | cons first _ ih =>
      rcases List.mem_cons.mp member with rfl | inRest
      · exact ⟨_, List.mem_cons_self, first⟩
      · obtain ⟨same, isIn, later⟩ := ih inRest
        exact ⟨same, List.mem_cons_of_mem _ isIn, later⟩

theorem members_of_operation {operation : CallOperation externals}
    (step : OperationStep messaging before operation after)
    {client : NonParticipantClient} (member : client ∈ before.roster.members)
    (stays : ¬ operation.Drops client.demuxId) :
    ∃ same ∈ after.roster.members, client.Counted same ∧
      (¬ operation.IsTick → same = client) := by
  have unchanged : after.roster = before.roster →
      ∃ same ∈ after.roster.members, client.Counted same ∧
        (¬ operation.IsTick → same = client) := by
    intro sameRoster
    rw [sameRoster]
    exact ⟨client, member, .refl client, fun _ => rfl⟩
  cases operation with
  | event event =>
      exact ⟨client, members_of_event step member stays, .refl client,
        fun _ => rfl⟩
  | setTargetSendRate receiver newTargetSendRate now =>
      apply unchanged
      rw [show after = _ from step, Call.roster_setTargetSendRate]
  | setOutgoingQueueDrainRate receiver outgoingQueueDrainRate =>
      apply unchanged
      rw [show after = _ from step, Call.roster_setOutgoingQueueDrainRate]
  | handleKeyFrameRequests requester keyFrameRequests now =>
      apply unchanged
      rw [show after = _ from step, Call.roster_handleKeyFrameRequests]
  | tick now sent =>
      have counted := (Call.continues_tick step).roster.members
      obtain ⟨same, isIn, isCounted⟩ := mem_of_counted counted member
      exact ⟨same, isIn, isCounted, fun notTick => absurd trivial notTick⟩

/-- The client stands in exactly one list of the call, as it joined. -/
def StandsOnce (call : Call externals) (demuxId : DemuxId) (userId : UserId)
    (isAdmin : Bool) : Prop :=
  ∃ standing client, client ∈ call.roster.clientsIn standing ∧
    client.demuxId = demuxId ∧ client.userId = userId ∧
    client.isAdmin = isAdmin ∧
    ∀ other found, found ∈ call.roster.clientsIn other →
      found.demuxId = demuxId → other = standing ∧ found = client

/-- Every client of the history that has not left is in the call. -/
def AllPresent (past : List (CallOperation externals))
    (call : Call externals) : Prop :=
  ∀ earlier demuxId userId isAdmin regionRelation now later,
    past = earlier ++
      .event (.addClient demuxId userId isAdmin regionRelation now) :: later →
    (∀ operation ∈ later, ¬ operation.Drops demuxId) →
    ∃ client ∈ call.roster.members, client.demuxId = demuxId ∧
      client.userId = userId ∧ client.isAdmin = isAdmin

theorem AllPresent.step {past : List (CallOperation externals)}
    {operation : CallOperation externals} (present : AllPresent past before)
    (step : OperationStep messaging before operation after) :
    AllPresent (past ++ [operation]) after := by
  intro earlier demuxId userId isAdmin regionRelation now later split stays
  rcases List.eq_nil_or_concat' later with rfl | ⟨rest, last, rfl⟩
  · obtain ⟨rfl, same⟩ := List.append_inj' split rfl
    cases same
    have added : CallStep before
        (.addClient demuxId userId isAdmin regionRelation now) after := step
    refine ⟨⟨demuxId, userId, isAdmin, regionRelation, 1⟩, ?_, rfl, rfl, rfl⟩
    rw [added.roster_eq]
    exact (before.roster.members_add _).symm.subset List.mem_cons_self
  · rw [← List.cons_append, ← List.append_assoc] at split
    obtain ⟨rfl, same⟩ := List.append_inj' split rfl
    cases same
    have stayed : ∀ operation ∈ rest, ¬ operation.Drops demuxId :=
      fun other member => stays other (List.mem_append_left _ member)
    obtain ⟨client, member, named, sameUser, sameRole⟩ := present earlier
      demuxId userId isAdmin regionRelation now rest rfl stayed
    have staysNow : ¬ operation.Drops client.demuxId := by
      rw [named]
      exact stays operation
        (List.mem_append_right _ (List.mem_singleton_self operation))
    obtain ⟨moved, isIn, counted, _⟩ :=
      members_of_operation step member staysNow
    obtain ⟨next, _, rfl⟩ := counted
    exact ⟨_, isIn, named, sameUser, sameRole⟩

/-- In every reachable state the demux ids of the three lists are distinct,
whoever has joined and not left is in exactly one of them, and the next
operation takes it along as it is; a tick advances its sequence number. -/
theorem each_client_stands_once {start finish : Call externals}
    {operations : List (CallOperation externals)}
    (driven : DrivenRun messaging start operations finish) :
    (finish.clients.map Client.demuxId ++
      finish.pendingClients.map NonParticipantClient.demuxId ++
      finish.removedClients.map NonParticipantClient.demuxId).Nodup ∧
    (∀ earlier demuxId userId isAdmin regionRelation now later,
      operations = earlier ++
        .event (.addClient demuxId userId isAdmin regionRelation now) ::
          later →
      (∀ operation ∈ later, ¬ operation.Drops demuxId) →
      StandsOnce finish demuxId userId isAdmin) ∧
    ∀ operation after, OperationStep messaging finish operation after →
      ∀ standing client, client ∈ finish.roster.clientsIn standing →
        ¬ operation.Drops client.demuxId →
        ∃ moved same, same ∈ after.roster.clientsIn moved ∧
          client.Counted same ∧ (¬ operation.IsTick → same = client) := by
  have distinct := operationInvariant_nodup.of_run nodup_of_isNewCall driven
  have present : AllPresent operations finish := by
    apply driven.2.history_invariant
    · intro earlier demuxId userId isAdmin regionRelation now later split
      simp at split
    · exact fun present step => present.step step.2
  refine ⟨?_, ?_, ?_⟩
  · unfold Call.demuxIds Roster.demuxIds Roster.members Roster.participants
      Call.roster at distinct
    simp only [List.map_append, List.map_map] at distinct
    exact distinct
  · intro earlier demuxId userId isAdmin regionRelation now later split stays
    obtain ⟨client, member, named, sameUser, sameRole⟩ := present earlier
      demuxId userId isAdmin regionRelation now later split stays
    obtain ⟨standing, isIn⟩ := Roster.mem_members.mp member
    refine ⟨standing, client, isIn, named, sameUser, sameRole, ?_⟩
    intro other found isFound sameId
    exact Roster.standing_unique distinct isFound isIn
      (sameId.trans named.symm)
  · intro operation after step standing client isIn stays
    obtain ⟨same, member, counted, unchanged⟩ := members_of_operation step
      (Roster.mem_members.mpr ⟨standing, isIn⟩) stays
    obtain ⟨moved, isThere⟩ := Roster.mem_members.mp member
    exact ⟨moved, same, isThere, counted, unchanged⟩

/-- Alice is active after both have joined. -/
theorem each_client_stands_once_pair :
    StandsOnce pairedCall (DemuxId.fromSsrc 80) "alice" true := by
  have present := (each_client_stands_once drivenRun_pairedCall).2.1
  apply present [] (DemuxId.fromSsrc 80) "alice" true .unknown 0
    [.event (.addClient (DemuxId.fromSsrc 96) "bob" true .unknown 0)] rfl
  intro operation member
  rw [List.mem_singleton] at member
  rw [member]
  exact id

end CallingService.Backend
