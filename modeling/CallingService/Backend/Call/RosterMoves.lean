import CallingService.Backend.Call.Roster

/-!
# Moves between the lists of a roster

An action of an admin moves clients between the lists and changes none of
them.  A removed client never comes back; only a join brings somebody in.
-/

namespace CallingService.Backend

open Foundation

namespace Roster

/-- The clients that are in the call or want to be. -/
def participants (roster : Roster) : List NonParticipantClient :=
  roster.active ++ roster.pending

def members (roster : Roster) : List NonParticipantClient :=
  roster.participants ++ roster.removed

theorem takeActive_eq_some {roster remaining : Roster} {demuxId : DemuxId}
    {client : NonParticipantClient}
    (taken : roster.takeActive demuxId = some (client, remaining)) :
    client.demuxId = demuxId ∧
      (client :: remaining.active).Perm roster.active ∧
      remaining = { roster with active := remaining.active } := by
  obtain ⟨index, position, rest⟩ := Option.bind_eq_some_iff.mp taken
  obtain ⟨found, isFound, returned⟩ := Option.bind_eq_some_iff.mp rest
  cases returned
  obtain ⟨item, isItem, passes, removed⟩ := swapRemove_of_findIdx? position
  rw [isFound] at isItem
  cases isItem
  exact ⟨by simpa using passes, removed, rfl⟩

/-- A sweep splits a list in two. -/
theorem sweep_perm (clients : List NonParticipantClient) (user : UserId) :
    (clients.filter (·.userId = user) ++
      clients.filter (·.userId ≠ user)).Perm clients := by
  have split := List.filter_append_perm
    (fun client : NonParticipantClient => decide (client.userId = user)) clients
  simpa only [ne_eq, decide_not] using split

/-! ## What an operation does -/

/-- One client with the demux id is gone from one of the lists, if there was
any; the order of the others does not count. -/
inductive Left (demuxId : DemuxId) (before : Roster) : Roster → Prop
  | unknown : Left demuxId before before
  | fromActive {client : NonParticipantClient}
      {others : List NonParticipantClient} (named : client.demuxId = demuxId)
      (split : before.active.Perm (client :: others)) :
      Left demuxId before { before with active := others }
  | fromPending {client : NonParticipantClient}
      {others : List NonParticipantClient} (named : client.demuxId = demuxId)
      (split : before.pending.Perm (client :: others)) :
      Left demuxId before { before with pending := others }
  | fromRemoved {client : NonParticipantClient}
      {others : List NonParticipantClient} (named : client.demuxId = demuxId)
      (split : before.removed.Perm (client :: others)) :
      Left demuxId before { before with removed := others }

theorem left_dropNonParticipant (roster : Roster) (demuxId : DemuxId) :
    roster.Left demuxId (roster.dropNonParticipant demuxId) := by
  unfold dropNonParticipant
  split
  · rename_i index position
    obtain ⟨client, _, named, split⟩ := swapRemove_of_findIdx? position
    exact .fromPending (by simpa using named) split.symm
  · split
    · rename_i index position
      obtain ⟨client, _, named, split⟩ := swapRemove_of_findIdx? position
      exact .fromRemoved (by simpa using named) split.symm
    · exact .unknown

theorem left_drop (roster : Roster) (demuxId : DemuxId) :
    roster.Left demuxId (roster.drop demuxId) := by
  unfold drop
  split
  · rename_i client remaining taken
    obtain ⟨named, split, kept⟩ := takeActive_eq_some taken
    rw [kept]
    exact .fromActive named split.symm
  · exact left_dropNonParticipant roster demuxId

/-- What an action does to its target and to the devices of the same user;
without a target it does nothing. -/
inductive Acted (before : Roster) : AdminAction → Roster → Prop
  | ignored {action : AdminAction} : Acted before action before
  | approved {target : DemuxId} {client : NonParticipantClient}
      (found : before.findPending target = some client) :
      Acted before (.approve target) { before with
        active := before.active ++
          before.pending.filter (·.userId = client.userId)
        pending := before.pending.filter (·.userId ≠ client.userId)
        denied := before.denied.erase client.userId
        approved := insert client.userId before.approved }
  | denied {target : DemuxId} {client : NonParticipantClient}
      (found : before.findPending target = some client) :
      Acted before (.deny target) { before with
        pending := before.pending.filter (·.userId ≠ client.userId)
        removed := before.removed ++
          before.pending.filter (·.userId = client.userId)
        denied := insert client.userId before.denied
        blocked :=
          if client.userId ∈ before.denied then
            insert client.userId before.blocked
          else before.blocked }
  | removed {target : DemuxId} {client : NonParticipantClient}
      {others : List NonParticipantClient} (named : client.demuxId = target)
      (split : before.active.Perm (client :: others)) :
      Acted before (.remove target) { before with
        active := others
        removed := before.removed ++ [client]
        approved :=
          if others.any (·.userId = client.userId) then before.approved
          else before.approved.erase client.userId }
  | blocked {target : DemuxId} {client : NonParticipantClient}
      (found : before.findActive target = some client) :
      Acted before (.block target) { before with
        active := before.active.filter (·.userId ≠ client.userId)
        removed := before.removed ++
          before.active.filter (·.userId = client.userId)
        approved := before.approved.erase client.userId
        blocked := insert client.userId before.blocked }

theorem acted_act (roster : Roster) (action : AdminAction) :
    roster.Acted action (roster.act action) := by
  cases action with
  | approve target =>
      change roster.Acted _ (roster.approve target)
      unfold approve
      split
      · exact .ignored
      · rename_i client found
        exact .approved found
  | deny target =>
      change roster.Acted _ (roster.deny target)
      unfold deny
      split
      · exact .ignored
      · rename_i client found
        exact .denied found
  | remove target =>
      change roster.Acted _ (roster.remove target)
      unfold remove
      split
      · exact .ignored
      · rename_i client remaining taken
        obtain ⟨named, split, kept⟩ := takeActive_eq_some taken
        rw [kept]
        exact .removed named split.symm
  | block target =>
      change roster.Acted _ (roster.block target)
      unfold block
      split
      · exact .ignored
      · rename_i client found
        exact .blocked found

/-! ## Nobody is lost -/

theorem Acted.members {before after : Roster} {action : AdminAction}
    (acted : before.Acted action after) :
    after.members.Perm before.members := by
  rw [List.perm_iff_count]
  intro other
  unfold Roster.members participants
  cases acted with
  | ignored => rfl
  | @approved _ client _ | @denied _ client _ =>
      have swept := (sweep_perm before.pending client.userId).count_eq other
      simp only [List.count_append] at swept ⊢
      omega
  | removed named split =>
      have counted := split.count_eq other
      simp only [List.count_append, List.count_cons, List.count_nil]
        at counted ⊢
      omega
  | @blocked target client found =>
      have swept := (sweep_perm before.active client.userId).count_eq other
      simp only [List.count_append] at swept ⊢
      omega

theorem members_act (roster : Roster) (action : AdminAction) :
    (roster.act action).members.Perm roster.members :=
  (roster.acted_act action).members

theorem members_actions (actions : List AdminAction) (roster : Roster) :
    (actions.foldl act roster).members.Perm roster.members := by
  induction actions generalizing roster with
  | nil => exact .refl _
  | cons action rest ih => exact (ih _).trans (members_act roster action)

theorem members_handleProtos (sender : DemuxId) (protos : List DeviceToSfu)
    (roster : Roster) :
    (roster.handleProtos sender protos).members.Perm roster.members := by
  induction protos generalizing roster with
  | nil => exact .refl _
  | cons proto rest ih =>
      unfold handleProtos
      cases roster.findActive sender with
      | none => exact .refl _
      | some client =>
          apply (ih _).trans
          cases client.isAdmin with
          | false => exact .refl _
          | true => exact members_actions proto.adminActions roster

theorem members_add (roster : Roster) (client : NonParticipantClient) :
    (roster.add client).members.Perm (client :: roster.members) := by
  rw [List.perm_iff_count]
  intro other
  unfold add members participants
  split
  · simp only [List.count_append, List.count_cons, List.count_nil]
    omega
  · split
    · simp only [List.count_append, List.count_cons, List.count_nil]
      omega
    · simp only [List.count_append, List.count_cons, List.count_nil]
      omega

theorem demuxId_ne_of_takeActive_eq_none {roster : Roster} {demuxId : DemuxId}
    (none : roster.takeActive demuxId = none) :
    ∀ client ∈ roster.active, client.demuxId ≠ demuxId := by
  intro client isActive named
  cases position : roster.active.findIdx? (·.demuxId = demuxId) with
  | none =>
      have differs := List.findIdx?_eq_none_iff.mp position client isActive
      simp [named] at differs
  | some index =>
      obtain ⟨found, isFound, _⟩ := swapRemove_of_findIdx? position
      unfold takeActive at none
      rw [position] at none
      simp [isFound] at none

/-- Dropping takes out one client with the demux id, if there is one. -/
theorem members_drop (roster : Roster) (demuxId : DemuxId) :
    (roster.drop demuxId).members = roster.members ∧
        (∀ client ∈ roster.members, client.demuxId ≠ demuxId) ∨
      ∃ client, client.demuxId = demuxId ∧
        (client :: (roster.drop demuxId).members).Perm roster.members := by
  unfold drop
  split
  · rename_i client remaining taken
    obtain ⟨named, taken, kept⟩ := takeActive_eq_some taken
    refine .inr ⟨client, named, ?_⟩
    rw [List.perm_iff_count]
    intro other
    have counted := taken.count_eq other
    rw [kept]
    unfold members participants
    simp only [List.count_append, List.count_cons] at counted ⊢
    omega
  · rename_i notActive
    unfold dropNonParticipant
    split
    · rename_i index position
      obtain ⟨client, _, named, removed⟩ := swapRemove_of_findIdx? position
      refine .inr ⟨client, by simpa using named, ?_⟩
      rw [List.perm_iff_count]
      intro other
      have counted := removed.count_eq other
      unfold members participants
      simp only [List.count_append, List.count_cons] at counted ⊢
      omega
    · rename_i notPending
      split
      · rename_i index position
        obtain ⟨client, _, named, removed⟩ := swapRemove_of_findIdx? position
        refine .inr ⟨client, by simpa using named, ?_⟩
        rw [List.perm_iff_count]
        intro other
        have counted := removed.count_eq other
        unfold members participants
        simp only [List.count_append, List.count_cons] at counted ⊢
        omega
      · rename_i notRemoved
        refine .inl ⟨rfl, ?_⟩
        intro client member
        unfold members participants at member
        rcases List.mem_append.mp member with isParticipant | isRemoved
        · rcases List.mem_append.mp isParticipant with isActive | isPending
          · exact demuxId_ne_of_takeActive_eq_none notActive client isActive
          · simpa using
              List.findIdx?_eq_none_iff.mp notPending client isPending
        · simpa using List.findIdx?_eq_none_iff.mp notRemoved client isRemoved

/-! ## Nobody comes back -/

theorem participants_mono {before after : Roster}
    (active : after.active ⊆ before.active)
    (pending : after.pending ⊆ before.pending) :
    after.participants ⊆ before.participants := by
  apply List.append_subset.mpr
  constructor
  · exact List.Subset.trans active (List.subset_append_left _ _)
  · exact List.Subset.trans pending (List.subset_append_right _ _)

theorem Left.participants {before after : Roster} {demuxId : DemuxId}
    (left : before.Left demuxId after) :
    after.participants ⊆ before.participants := by
  cases left with
  | unknown => exact List.Subset.refl _
  | fromActive named split =>
      exact participants_mono
        (fun _ member => split.symm.subset (List.mem_cons_of_mem _ member))
        (List.Subset.refl _)
  | fromPending named split =>
      exact participants_mono (List.Subset.refl _)
        (fun _ member => split.symm.subset (List.mem_cons_of_mem _ member))
  | fromRemoved named split => exact List.Subset.refl _

theorem Acted.participants {before after : Roster} {action : AdminAction}
    (acted : before.Acted action after) :
    after.participants ⊆ before.participants := by
  cases acted with
  | ignored => exact List.Subset.refl _
  | @approved target client found =>
      have swept := (sweep_perm before.pending client.userId).subset
      intro other member
      unfold Roster.participants at member ⊢
      rw [List.append_assoc] at member
      rcases List.mem_append.mp member with isActive | wasPending
      · exact List.mem_append_left _ isActive
      · exact List.mem_append_right _ (swept wasPending)
  | denied found =>
      exact participants_mono (List.Subset.refl _)
        fun _ => List.mem_of_mem_filter
  | removed named split =>
      exact participants_mono
        (fun _ member => split.symm.subset (List.mem_cons_of_mem _ member))
        (List.Subset.refl _)
  | blocked found =>
      exact participants_mono (fun _ => List.mem_of_mem_filter)
        (List.Subset.refl _)

/-- A join adds its client at most, and only if the user is not blocked. -/
theorem mem_participants_add {roster : Roster}
    {client other : NonParticipantClient}
    (member : other ∈ (roster.add client).participants) :
    other ∈ roster.participants ∨
      other = client ∧ client.userId ∉ roster.blocked := by
  unfold add participants at member
  split at member
  · exact .inl member
  · rename_i free
    split at member
    · have counted : other ∈ roster.active ∨ other = client ∨
          other ∈ roster.pending := by simpa using member
      rcases counted with isActive | isNew | isPending
      · exact .inl (List.mem_append_left _ isActive)
      · exact .inr ⟨isNew, free⟩
      · exact .inl (List.mem_append_right _ isPending)
    · have counted : other ∈ roster.active ∨ other ∈ roster.pending ∨
          other = client := by simpa using member
      rcases counted with isActive | isPending | isNew
      · exact .inl (List.mem_append_left _ isActive)
      · exact .inl (List.mem_append_right _ isPending)
      · exact .inr ⟨isNew, free⟩

end Roster

end CallingService.Backend
