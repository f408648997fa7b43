import CallingService.Backend.Call.ForwardedNonces

/-!
# Users with several devices

A user should not wait for approval with one device while another one is
active.  Approval is revoked with care for this, but a device that joins as an
admin does not wait, whatever the other devices do.
-/

namespace CallingService.Backend

open Foundation

variable {externals : CallExternals}

namespace Roster

/-- What holds as long as no join sets the devices of a user apart. -/
structure Settled (roster : Roster) : Prop where
  apart : ∀ waiting ∈ roster.pending, ∀ present ∈ roster.active,
    waiting.userId ≠ present.userId
  waits : ∀ waiting ∈ roster.pending,
    roster.newClientsRequireApproval = true ∧ waiting.userId ∉ roster.approved
  admitted : ∀ present ∈ roster.active, present.isAdmin = true ∨
    roster.newClientsRequireApproval = false ∨
    present.userId ∈ roster.approved

variable {roster before after : Roster}

/-- Clients leave, and nobody who stays loses its approval. -/
theorem Settled.of_fewer (settled : before.Settled)
    (active : after.active ⊆ before.active)
    (pending : after.pending ⊆ before.pending)
    (sameRule : after.newClientsRequireApproval =
      before.newClientsRequireApproval)
    (approved : after.approved ⊆ before.approved)
    (stillApproved : ∀ present ∈ after.active,
      present.userId ∈ before.approved → present.userId ∈ after.approved) :
    after.Settled where
  apart := fun waiting isWaiting present isPresent =>
    settled.apart waiting (pending isWaiting) present (active isPresent)
  waits := by
    intro waiting isWaiting
    rw [sameRule]
    obtain ⟨required, notApproved⟩ := settled.waits waiting (pending isWaiting)
    exact ⟨required, fun isApproved => notApproved (approved isApproved)⟩
  admitted := by
    intro present isPresent
    rw [sameRule]
    exact (settled.admitted present (active isPresent)).imp_right
      (Or.imp_right (stillApproved present isPresent))

theorem Settled.acted (settled : before.Settled) {action : AdminAction}
    (acted : before.Acted action after) : after.Settled := by
  cases acted with
  | ignored => exact settled
  | @approved target client found =>
      refine ⟨?_, ?_, ?_⟩
      · intro waiting isWaiting present isPresent
        obtain ⟨wasWaiting, another⟩ := List.mem_filter.mp isWaiting
        rcases List.mem_append.mp isPresent with old | promoted
        · exact settled.apart waiting wasWaiting present old
        · have sameUser := (List.mem_filter.mp promoted).2
          rw [decide_eq_true_eq] at another sameUser
          rw [sameUser]
          exact another
      · intro waiting isWaiting
        obtain ⟨wasWaiting, another⟩ := List.mem_filter.mp isWaiting
        obtain ⟨required, notApproved⟩ := settled.waits waiting wasWaiting
        refine ⟨required, ?_⟩
        rw [decide_eq_true_eq] at another
        rw [Finset.mem_insert]
        exact not_or.mpr ⟨another, notApproved⟩
      · intro present isPresent
        rcases List.mem_append.mp isPresent with old | promoted
        · exact (settled.admitted present old).imp_right
            (Or.imp_right Finset.mem_insert_of_mem)
        · have sameUser := (List.mem_filter.mp promoted).2
          rw [decide_eq_true_eq] at sameUser
          rw [sameUser]
          exact .inr (.inr (Finset.mem_insert_self _ _))
  | denied found =>
      apply settled.of_fewer
      · exact List.Subset.refl _
      · exact fun _ => List.mem_of_mem_filter
      · rfl
      · exact fun _ member => member
      · exact fun _ _ isApproved => isApproved
  | removed named split =>
      apply settled.of_fewer
      · exact fun _ member =>
          split.symm.subset (List.mem_cons_of_mem _ member)
      · exact List.Subset.refl _
      · rfl
      · dsimp only
        split
        · exact fun _ member => member
        · exact Finset.erase_subset _ _
      · -- Approval is revoked with the last device only.
        intro present isPresent isApproved
        dsimp only
        split
        · exact isApproved
        · rename_i lastDevice
          rw [Finset.mem_erase]
          refine ⟨?_, isApproved⟩
          intro sameUser
          apply lastDevice
          exact List.any_eq_true.mpr
            ⟨present, isPresent, by simpa using sameUser⟩
  | blocked found =>
      apply settled.of_fewer
      · exact fun _ => List.mem_of_mem_filter
      · exact List.Subset.refl _
      · rfl
      · exact Finset.erase_subset _ _
      · intro present isPresent isApproved
        have another := (List.mem_filter.mp isPresent).2
        rw [decide_eq_true_eq] at another
        exact Finset.mem_erase.mpr ⟨another, isApproved⟩

theorem Settled.actions (actions : List AdminAction) {roster : Roster}
    (settled : roster.Settled) : (actions.foldl Roster.act roster).Settled := by
  induction actions generalizing roster with
  | nil => exact settled
  | cons action rest ih => exact ih (settled.acted (roster.acted_act action))

theorem Settled.handleProtos (sender : DemuxId) (protos : List DeviceToSfu)
    {roster : Roster} (settled : roster.Settled) :
    (roster.handleProtos sender protos).Settled := by
  induction protos generalizing roster with
  | nil => exact settled
  | cons proto rest ih =>
      unfold Roster.handleProtos
      cases roster.findActive sender with
      | none => exact settled
      | some client =>
          dsimp only
          split
          · exact ih (settled.actions proto.adminActions)
          · exact ih settled

theorem Settled.left (settled : before.Settled) {demuxId : DemuxId}
    (left : before.Left demuxId after) : after.Settled := by
  cases left with
  | unknown => exact settled
  | fromActive named split =>
      apply settled.of_fewer
      · exact fun _ member =>
          split.symm.subset (List.mem_cons_of_mem _ member)
      · exact List.Subset.refl _
      · rfl
      · exact fun _ member => member
      · exact fun _ _ isApproved => isApproved
  | fromPending named split =>
      apply settled.of_fewer
      · exact List.Subset.refl _
      · exact fun _ member =>
          split.symm.subset (List.mem_cons_of_mem _ member)
      · rfl
      · exact fun _ member => member
      · exact fun _ _ isApproved => isApproved
  | fromRemoved named split =>
      exact ⟨settled.apart, settled.waits, settled.admitted⟩

/-! ## Joining -/

/-- The join of a client keeps the devices of its user together: an admin does
not come while another device waits, and nobody has to wait while an admin of
the same user is there. -/
def JoinsApart (roster : Roster) (client : NonParticipantClient) : Prop :=
  client.userId ∈ roster.blocked ∨
    if client.isAdmin then
      ∀ waiting ∈ roster.pending, waiting.userId ≠ client.userId
    else
      roster.newClientsRequireApproval = false ∨
        client.userId ∈ roster.approved ∨
        ∀ present ∈ roster.active,
          present.isAdmin = true → present.userId ≠ client.userId

theorem Settled.add (settled : roster.Settled)
    {client : NonParticipantClient} (apart : roster.JoinsApart client) :
    (roster.add client).Settled := by
  unfold Roster.add
  split
  · exact ⟨settled.apart, settled.waits, settled.admitted⟩
  · rename_i free
    have apart := apart.resolve_left free
    split
    · rename_i isDirect
      have alone : ∀ waiting ∈ roster.pending,
          waiting.userId ≠ client.userId := by
        intro waiting isWaiting sameUser
        obtain ⟨required, notApproved⟩ := settled.waits waiting isWaiting
        rcases isDirect with isAdmin | open_ | isApproved
        · rw [if_pos isAdmin] at apart
          exact apart waiting isWaiting sameUser
        · rw [required] at open_
          cases open_
        · rw [sameUser] at notApproved
          exact notApproved isApproved
      refine ⟨?_, ?_, ?_⟩
      · intro waiting isWaiting present isPresent
        rcases List.mem_append.mp isPresent with old | added
        · exact settled.apart waiting isWaiting present old
        · rw [List.mem_singleton] at added
          rw [added]
          exact alone waiting isWaiting
      · intro waiting isWaiting
        obtain ⟨required, notApproved⟩ := settled.waits waiting isWaiting
        refine ⟨required, ?_⟩
        dsimp only
        split
        · rw [Finset.mem_insert]
          exact not_or.mpr ⟨alone waiting isWaiting, notApproved⟩
        · exact notApproved
      · have wider : roster.approved ⊆
            (if roster.persistApprovalForAllUsersWhoJoin then
              insert client.userId roster.approved else roster.approved) := by
          split
          · exact Finset.subset_insert _ _
          · exact fun _ member => member
        intro present isPresent
        rcases List.mem_append.mp isPresent with old | added
        · exact (settled.admitted present old).imp_right
            (Or.imp_right fun isApproved => wider isApproved)
        · rw [List.mem_singleton] at added
          rw [added]
          exact isDirect.imp_right
            (Or.imp_right fun isApproved => wider isApproved)
    · rename_i hasToWait
      obtain ⟨notAdmin, notOpen, notApproved⟩ : client.isAdmin ≠ true ∧
          roster.newClientsRequireApproval ≠ false ∧
          client.userId ∉ roster.approved := by
        simpa only [not_or, ne_eq] using hasToWait
      rw [if_neg notAdmin] at apart
      have noAdmin := (apart.resolve_left notOpen).resolve_left notApproved
      refine ⟨?_, ?_, settled.admitted⟩
      · intro waiting isWaiting present isPresent
        rcases List.mem_append.mp isWaiting with old | added
        · exact settled.apart waiting old present isPresent
        · rw [List.mem_singleton] at added
          rw [added]
          intro sameUser
          rcases settled.admitted present isPresent with
            isAdmin | open_ | isApproved
          · exact noAdmin present isPresent isAdmin sameUser.symm
          · exact notOpen open_
          · rw [← sameUser] at isApproved
            exact notApproved isApproved
      · intro waiting isWaiting
        rcases List.mem_append.mp isWaiting with old | added
        · exact settled.waits waiting old
        · rw [List.mem_singleton] at added
          rw [added]
          exact ⟨by simpa using notOpen, notApproved⟩

/-- The condition is exact. -/
theorem joinsApart_of_apart {client : NonParticipantClient}
    (apart : ∀ waiting ∈ (roster.add client).pending,
      ∀ present ∈ (roster.add client).active,
        waiting.userId ≠ present.userId) :
    roster.JoinsApart client := by
  unfold JoinsApart
  by_cases isBlocked : client.userId ∈ roster.blocked
  · exact .inl isBlocked
  · right
    unfold Roster.add at apart
    rw [if_neg isBlocked] at apart
    split
    · rename_i isAdmin
      rw [if_pos (.inl isAdmin)] at apart
      intro waiting isWaiting
      exact apart waiting isWaiting client
        (List.mem_append_right _ (List.mem_singleton_self client))
    · rename_i notAdmin
      by_cases isOpen : roster.newClientsRequireApproval = false
      · exact .inl isOpen
      · by_cases isApproved : client.userId ∈ roster.approved
        · exact .inr (.inl isApproved)
        · have hasToWait : ¬ (client.isAdmin ∨
              roster.newClientsRequireApproval = false ∨
              client.userId ∈ roster.approved) :=
            not_or.mpr ⟨notAdmin, not_or.mpr ⟨isOpen, isApproved⟩⟩
          rw [if_neg hasToWait] at apart
          right
          right
          intro present isPresent _
          have differ := apart client
            (List.mem_append_right _ (List.mem_singleton_self client))
            present isPresent
          exact differ.symm

end Roster

/-! ## Runs -/

namespace Call

def isAdmin (call : Call externals) (userId : UserId) : Bool :=
  call.clients.any fun client => client.isAdmin && client.userId = userId

/-- No user has both a pending and an active client. -/
def PendingApart (call : Call externals) : Prop :=
  ∀ waiting ∈ call.pendingClients, ∀ client ∈ call.clients,
    waiting.userId ≠ client.userId

theorem pendingApart_iff {call : Call externals} :
    call.PendingApart ↔ ∀ waiting ∈ call.roster.pending,
      ∀ present ∈ call.roster.active, waiting.userId ≠ present.userId := by
  unfold PendingApart roster
  simp [Client.toNonParticipant]

/-- An admin joins while no device of its user waits, and nobody has to wait
while an admin of the same user is active. -/
def JoinKeepsApart (before : Call externals) : CallEvent externals → Prop
  | .addClient _ userId isAdmin _ _ =>
      userId ∈ before.blockedUsers ∨
        if isAdmin then
          ∀ waiting ∈ before.pendingClients, waiting.userId ≠ userId
        else
          before.newClientsRequireApproval = false ∨
            userId ∈ before.approvedUsers.set ∨ before.isAdmin userId = false
  | _ => True

theorem joinKeepsApart_iff {before : Call externals} {demuxId : DemuxId}
    {userId : UserId} {isAdmin : Bool} {regionRelation : RegionRelation}
    {now : Instant} :
    before.JoinKeepsApart
        (.addClient demuxId userId isAdmin regionRelation now) ↔
      before.roster.JoinsApart
        ⟨demuxId, userId, isAdmin, regionRelation, 1⟩ := by
  have noAdmin : before.isAdmin userId = false ↔
      ∀ present ∈ before.roster.active,
        present.isAdmin = true → present.userId ≠ userId := by
    unfold Call.isAdmin roster
    simp [Client.toNonParticipant]
  unfold JoinKeepsApart Roster.JoinsApart
  dsimp only
  rw [noAdmin]
  rfl

end Call

theorem settled_of_isNewCall {start : Call externals}
    (isNew : IsNewCall start) : start.roster.Settled := by
  obtain ⟨_, _, _, _, _, _, _, _, _, _, rfl⟩ := isNew
  refine ⟨?_, ?_, ?_⟩
  · intro waiting isWaiting
    cases isWaiting
  · intro waiting isWaiting
    cases isWaiting
  · intro present isPresent
    cases isPresent

theorem CallStep.settled {before after : Call externals}
    {event : CallEvent externals} (step : CallStep before event after)
    (settled : before.roster.Settled) (apart : before.JoinKeepsApart event) :
    after.roster.Settled := by
  rw [step.roster_eq]
  cases event with
  | addClient demuxId userId isAdmin regionRelation now =>
      exact settled.add (Call.joinKeepsApart_iff.mp apart)
  | dropClient demuxId now => exact settled.left (Roster.left_drop _ demuxId)
  | handleDeviceToSfu proto sender now =>
      unfold rosterAfter
      dsimp only
      split
      · exact settled.left (Roster.left_drop _ sender)
      · exact settled.handleProtos sender _
  | handleMediaRtp sender incomingRtp now result => exact settled
  | tickForwarding now => exact settled

/-- The devices of each user stay together in every state of a run exactly if
every join keeps them together. -/
theorem users_stay_apart_iff {start : Call externals}
    {history : List (CallEvent externals)} (isNew : IsNewCall start) :
    (∀ past state, past <+: history → Run CallStep start past state →
      state.PendingApart) ↔
    ∀ past event state, past ++ [event] <+: history →
      Run CallStep start past state → state.JoinKeepsApart event := by
  constructor
  · intro always past event state before run
    cases event with
    | addClient demuxId userId isAdmin regionRelation now =>
        rw [Call.joinKeepsApart_iff]
        apply Roster.joinsApart_of_apart
        rw [← Call.roster_addClient]
        have step : CallStep state
            (.addClient demuxId userId isAdmin regionRelation now)
            (state.addClient demuxId userId isAdmin regionRelation now).2 :=
          rfl
        exact Call.pendingApart_iff.mp (always _ _ before (.snoc run step))
    | dropClient demuxId now => trivial
    | handleDeviceToSfu proto sender now => trivial
    | handleMediaRtp sender incomingRtp now result => trivial
    | tickForwarding now => trivial
  · intro keeps past state before run
    rw [Call.pendingApart_iff]
    have settled : state.roster.Settled := by
      induction run with
      | nil => exact settled_of_isNewCall isNew
      | snoc earlier last ih =>
          have wasPast := (List.prefix_append _ _).trans before
          exact last.settled (ih wasPast) (keeps _ _ _ before earlier)
    exact settled.apart

/-- Alice joins as an admin, and Bob waits for her. -/
def bobWaits : Call directExternals :=
  ((moderatedCall.addClient (DemuxId.fromSsrc 80) "alice" true .unknown
    0).2.addClient (DemuxId.fromSsrc 96) "bob" false .unknown 0).2

theorem users_stay_apart_iff_two_users :
    bobWaits.PendingApart ∧ bobWaits.clients ≠ [] ∧
      bobWaits.pendingClients ≠ [] := by
  have first : CallStep moderatedCall
      (.addClient (DemuxId.fromSsrc 80) "alice" true .unknown 0)
      (moderatedCall.addClient (DemuxId.fromSsrc 80) "alice" true .unknown
        0).2 := rfl
  have second : CallStep (moderatedCall.addClient (DemuxId.fromSsrc 80)
      "alice" true .unknown 0).2
      (.addClient (DemuxId.fromSsrc 96) "bob" false .unknown 0) bobWaits := rfl
  refine ⟨(users_stay_apart_iff isNewCall_moderatedCall).mpr ?_ _ _
    (List.prefix_refl _) (.snoc (.snoc .nil first) second),
    by decide +kernel, by decide +kernel⟩
  intro past event state isPast run
  obtain ⟨rest, split⟩ := isPast
  cases run with
  | nil =>
      obtain rfl := (List.cons.inj split).1
      right
      intro waiting isWaiting
      cases isWaiting
  | snoc earlier last =>
      cases earlier with
      | nil =>
          obtain ⟨rfl, others⟩ := List.cons.inj split
          obtain rfl := (List.cons.inj others).1
          rw [show state = _ from last]
          exact .inr (.inr (.inr (by decide +kernel)))
      | snoc earliest next =>
          have lengths := congrArg List.length split
          simp at lengths
          omega

/-! ## One user twice -/

/-- Bob waits with one device and comes as an admin with another one. -/
def bobTwice : Call directExternals :=
  ((moderatedCall.addClient (DemuxId.fromSsrc 80) "bob" false .unknown
    0).2.addClient (DemuxId.fromSsrc 96) "bob" true .unknown 0).2

theorem run_bobTwice :
    Run (Guarded AddsUnused CallStep) moderatedCall
      [.addClient (DemuxId.fromSsrc 80) "bob" false .unknown 0,
        .addClient (DemuxId.fromSsrc 96) "bob" true .unknown 0] bobTwice := by
  have first : Guarded AddsUnused CallStep moderatedCall
      (.addClient (DemuxId.fromSsrc 80) "bob" false .unknown 0)
      (moderatedCall.addClient (DemuxId.fromSsrc 80) "bob" false .unknown
        0).2 := ⟨rfl, rfl⟩
  have second : Guarded AddsUnused CallStep
      (moderatedCall.addClient (DemuxId.fromSsrc 80) "bob" false .unknown
        0).2
      (.addClient (DemuxId.fromSsrc 96) "bob" true .unknown 0) bobTwice := by
    refine ⟨?_, rfl⟩
    change Call.hasClient _ _ = false
    decide +kernel
  exact .snoc (.snoc .nil first) second

theorem not_pendingApart_bobTwice : ¬ bobTwice.PendingApart := by
  unfold Call.PendingApart
  decide +kernel

theorem user_waits_while_active :
    ¬ ∀ (start finish : Call directExternals)
      (history : List (CallEvent directExternals)), IsNewCall start →
      Run (Guarded AddsUnused CallStep) start history finish →
      finish.PendingApart := by
  intro always
  exact not_pendingApart_bobTwice
    (always _ _ _ isNewCall_moderatedCall run_bobTwice)

end CallingService.Backend
