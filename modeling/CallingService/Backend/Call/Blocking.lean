import CallingService.Backend.Call.CallRun
import CallingService.Backend.Call.RosterMoves

/-!
# Blocked users

A user is blocked by an admin, or by a second denial.  Blocking sweeps the
active clients of the user, denying sweeps the pending ones.  As long as the
other list holds no client of the user at that moment, a blocked user has no
active and no pending client, and never gets one again.
-/

namespace CallingService.Backend

open Foundation

namespace Roster

/-- The user has a client that is active or waits for approval. -/
def present (roster : Roster) (user : UserId) : Prop :=
  roster.hasActive user ∨ roster.hasPending user

instance (roster : Roster) (user : UserId) : Decidable (roster.present user) :=
  inferInstanceAs (Decidable (_ ∨ _))

def KeepsBlockedOut (roster : Roster) : Prop :=
  ∀ user ∈ roster.blocked, ¬ roster.present user

/-- The list that an action does not sweep holds no client of the user that it
blocks. -/
def Clean (roster : Roster) : AdminAction → Prop
  | .approve _ => True
  | .deny target => ∀ client, roster.findPending target = some client →
      client.userId ∈ roster.denied → ¬ roster.hasActive client.userId
  | .remove _ => True
  | .block target => ∀ client, roster.findActive target = some client →
      ¬ roster.hasPending client.userId

/-- Every action is clean in the state in which it is carried out. -/
def ActionsClean : List AdminAction → Roster → Prop
  | [], _ => True
  | action :: rest, roster =>
      roster.Clean action ∧ ActionsClean rest (roster.act action)

def ProtosClean (senderDemuxId : DemuxId) : List DeviceToSfu → Roster → Prop
  | [], _ => True
  | proto :: rest, roster =>
      match roster.findActive senderDemuxId with
      | none => True
      | some sender =>
          (sender.isAdmin = true → ActionsClean proto.adminActions roster) ∧
            ProtosClean senderDemuxId rest
              (if sender.isAdmin then proto.adminActions.foldl act roster
                else roster)

/-- Blocked users stay blocked and out. -/
structure StillOut (before after : Roster) : Prop where
  blocked : before.blocked ⊆ after.blocked
  keepsOut : before.KeepsBlockedOut → after.KeepsBlockedOut

theorem StillOut.refl (roster : Roster) : StillOut roster roster :=
  ⟨fun _ member => member, id⟩

theorem StillOut.trans {first second third : Roster}
    (one : StillOut first second) (two : StillOut second third) :
    StillOut first third :=
  ⟨one.blocked.trans two.blocked, two.keepsOut ∘ one.keepsOut⟩

theorem present_iff {roster : Roster} {user : UserId} :
    roster.present user ↔
      ∃ client ∈ roster.participants, client.userId = user := by
  unfold present hasActive hasPending participants
  simp only [List.mem_append, or_and_right, exists_or]

/-- Nobody is blocked, and nobody comes in. -/
theorem stillOut_of_subset {before after : Roster}
    (moved : after.participants ⊆ before.participants)
    (blocked : after.blocked = before.blocked) : StillOut before after := by
  constructor
  · rw [blocked]
  · intro keepsOut user isBlocked isPresent
    rw [blocked] at isBlocked
    apply keepsOut user isBlocked
    rw [present_iff] at isPresent ⊢
    obtain ⟨client, member, isUser⟩ := isPresent
    exact ⟨client, moved member, isUser⟩

/-- A client of a user that is not blocked comes in. -/
theorem stillOut_add (roster : Roster) (client : NonParticipantClient) :
    StillOut roster (roster.add client) := by
  have blocked : (roster.add client).blocked = roster.blocked := by
    unfold add
    split
    · rfl
    · split
      · rfl
      · rfl
  constructor
  · rw [blocked]
  · intro keepsOut user isBlocked isPresent
    rw [blocked] at isBlocked
    obtain ⟨other, member, isUser⟩ := present_iff.mp isPresent
    rcases mem_participants_add member with old | ⟨isNew, free⟩
    · exact keepsOut user isBlocked (present_iff.mpr ⟨other, old, isUser⟩)
    · subst isNew
      rw [isUser] at free
      exact free isBlocked

theorem Left.stillOut {before after : Roster} {demuxId : DemuxId}
    (left : before.Left demuxId after) : StillOut before after := by
  apply stillOut_of_subset left.participants
  cases left with
  | unknown => rfl
  | fromActive named split => rfl
  | fromPending named split => rfl
  | fromRemoved named split => rfl

/-- The filter that a sweep keeps has no client of the user. -/
theorem not_mem_swept {clients : List NonParticipantClient} {user : UserId} :
    ¬ ∃ client ∈ clients.filter (·.userId ≠ user), client.userId = user := by
  rintro ⟨client, member, isUser⟩
  have other := (List.mem_filter.mp member).2
  simp [isUser] at other

theorem Acted.stillOut {before after : Roster} {action : AdminAction}
    (acted : before.Acted action after) (clean : before.Clean action) :
    StillOut before after := by
  have moved := acted.participants
  cases acted with
  | ignored => exact .refl before
  | approved found => exact stillOut_of_subset moved rfl
  | removed named split => exact stillOut_of_subset moved rfl
  | @denied target client found =>
      split
      · rename_i deniedBefore
        refine ⟨Finset.subset_insert _ _, ?_⟩
        intro keepsOut user isBlocked
        rcases Finset.mem_insert.mp isBlocked with rfl | blockedBefore
        · rintro (isActive | isPending)
          · exact clean client found deniedBefore isActive
          · exact not_mem_swept isPending
        · intro isPresent
          obtain ⟨other, member, isUser⟩ := present_iff.mp isPresent
          exact keepsOut user blockedBefore
            (present_iff.mpr ⟨other, moved member, isUser⟩)
      · exact stillOut_of_subset moved rfl
  | @blocked target client found =>
      refine ⟨Finset.subset_insert _ _, ?_⟩
      intro keepsOut user isBlocked
      rcases Finset.mem_insert.mp isBlocked with rfl | blockedBefore
      · rintro (isActive | isPending)
        · exact not_mem_swept isActive
        · exact clean client found isPending
      · intro isPresent
        obtain ⟨other, member, isUser⟩ := present_iff.mp isPresent
        exact keepsOut user blockedBefore
          (present_iff.mpr ⟨other, moved member, isUser⟩)

/-- The condition is exact: an action that is not clean lets a blocked user
in. -/
theorem clean_of_keepsBlockedOut {roster : Roster} {action : AdminAction}
    (keepsOut : (roster.act action).KeepsBlockedOut) : roster.Clean action := by
  cases action with
  | approve target => trivial
  | remove target => trivial
  | deny target =>
      intro client found deniedBefore isActive
      change (roster.deny target).KeepsBlockedOut at keepsOut
      unfold deny at keepsOut
      rw [found] at keepsOut
      apply keepsOut client.userId
      · simp [deniedBefore]
      · exact .inl isActive
  | block target =>
      intro client found isPending
      change (roster.block target).KeepsBlockedOut at keepsOut
      unfold block at keepsOut
      rw [found] at keepsOut
      apply keepsOut client.userId
      · simp
      · exact .inr isPending

theorem stillOut_actions {actions : List AdminAction} {roster : Roster}
    (clean : ActionsClean actions roster) :
    StillOut roster (actions.foldl act roster) := by
  induction actions generalizing roster with
  | nil => exact .refl roster
  | cons action rest ih =>
      exact ((roster.acted_act action).stillOut clean.1).trans (ih clean.2)

theorem stillOut_handleProtos {senderDemuxId : DemuxId}
    {protos : List DeviceToSfu} {roster : Roster}
    (clean : ProtosClean senderDemuxId protos roster) :
    StillOut roster (roster.handleProtos senderDemuxId protos) := by
  induction protos generalizing roster with
  | nil => exact .refl roster
  | cons proto rest ih =>
      unfold ProtosClean at clean
      unfold handleProtos
      cases found : roster.findActive senderDemuxId with
      | none => exact .refl roster
      | some sender =>
          rw [found] at clean
          have acted : StillOut roster
              (if sender.isAdmin then proto.adminActions.foldl act roster
                else roster) := by
            split
            · rename_i isAdmin
              exact stillOut_actions (clean.1 isAdmin)
            · exact .refl roster
          exact acted.trans (ih clean.2)

end Roster

variable {externals : CallExternals}

/-- No admin blocks a user that has a pending client, and no admin denies for
the second time a user that has an active client. -/
def CleanBlocks (before : Call externals) : CallEvent externals → Prop
  | .handleDeviceToSfu proto sender _ =>
      proto.leave = false → Roster.ProtosClean sender
        (before.readyProtos proto sender) before.roster
  | _ => True

theorem stillOut_of_step {before after : Call externals}
    {event : CallEvent externals} (clean : CleanBlocks before event)
    (step : CallStep before event after) :
    Roster.StillOut before.roster after.roster := by
  rw [step.roster_eq]
  cases event with
  | addClient demuxId userId isAdmin regionRelation now =>
      exact Roster.stillOut_add _ _
  | dropClient demuxId now => exact (Roster.left_drop _ demuxId).stillOut
  | handleDeviceToSfu proto sender now =>
      unfold rosterAfter
      dsimp only
      split
      · exact (Roster.left_drop _ sender).stillOut
      · rename_i stays
        exact Roster.stillOut_handleProtos (clean (by simpa using stays))
  | handleMediaRtp sender incomingRtp now result => exact .refl _
  | tickForwarding now => exact .refl _

theorem stillOut_of_run {start finish : Call externals}
    {events : List (CallEvent externals)}
    (run : Run (Guarded CleanBlocks CallStep) start events finish) :
    Roster.StillOut start.roster finish.roster := by
  induction run with
  | nil => exact .refl _
  | snoc _ last ih => exact ih.trans (stillOut_of_step last.1 last.2)

/-- The user has no active and no pending client. -/
def Call.isOut (call : Call externals) (user : UserId) : Prop :=
  (∀ client ∈ call.clients, client.userId ≠ user) ∧
    ∀ client ∈ call.pendingClients, client.userId ≠ user

theorem isOut_iff_not_present {call : Call externals} {user : UserId} :
    call.isOut user ↔ ¬ call.roster.present user := by
  unfold Call.isOut Roster.present Roster.hasActive Roster.hasPending
    Call.roster
  simp [Client.toNonParticipant]

/-- A blocked user is out, and stays out in the rest of the run. -/
theorem blockedUsers_stay_out {start middle finish : Call externals}
    {events later : List (CallEvent externals)} (isNew : IsNewCall start)
    (reached : Run (Guarded CleanBlocks CallStep) start events middle)
    (continued : Run (Guarded CleanBlocks CallStep) middle later finish)
    {user : UserId} (blocked : user ∈ middle.blockedUsers) :
    middle.isOut user ∧ user ∈ finish.blockedUsers ∧ finish.isOut user := by
  have initially : start.roster.KeepsBlockedOut := by
    obtain ⟨_, _, _, _, _, _, _, _, _, _, rfl⟩ := isNew
    intro user none
    cases none
  have atMiddle := (stillOut_of_run reached).keepsOut initially
  have onward := stillOut_of_run continued
  have stillBlocked : user ∈ finish.roster.blocked := onward.blocked blocked
  rw [isOut_iff_not_present, isOut_iff_not_present]
  exact ⟨atMiddle user blocked, stillBlocked,
    onward.keepsOut atMiddle user stillBlocked⟩

def blockMessage (target : DemuxId) : DeviceToSfu :=
  { DeviceToSfu.default with block := [⟨some target.raw⟩] }

/-- An admin blocks the only device of a user; its other device joins too
late. -/
theorem blockedUsers_stay_out_late_device :
    ∃ (middle finish : Call directExternals)
        (events later : List (CallEvent directExternals)),
      Run (Guarded CleanBlocks CallStep) moderatedCall events middle ∧
        Run (Guarded CleanBlocks CallStep) middle later finish ∧
        "mallory" ∈ middle.blockedUsers ∧ finish.isOut "mallory" ∧
        finish.removedClients.length = 2 := by
  let alice : DemuxId := ⟨16, rfl⟩
  let mallory : DemuxId := ⟨32, rfl⟩
  let hosted := (moderatedCall.addClient alice "alice" true .unknown 1).2
  let joined := (hosted.addClient mallory "mallory" true .unknown 2).2
  let blocked := (joined.handleDeviceToSfu (blockMessage mallory) alice 3).2
  let rejoined := (blocked.addClient ⟨48, rfl⟩ "mallory" true .unknown 4).2
  have clean : Roster.ProtosClean alice
      (joined.readyProtos (blockMessage mallory) alice) joined.roster := by
    have action : (blockMessage mallory).adminActions = [.block mallory] := by
      decide
    refine ⟨fun _ => ?_, trivial⟩
    rw [action]
    refine And.intro ?_ trivial
    rintro client _ ⟨other, member, _⟩
    cases member
  have reached : Run (Guarded CleanBlocks CallStep) moderatedCall
      [.addClient alice "alice" true .unknown 1,
        .addClient mallory "mallory" true .unknown 2,
        .handleDeviceToSfu (blockMessage mallory) alice 3] blocked :=
    .snoc (.snoc (.snoc .nil ⟨trivial, rfl⟩) ⟨trivial, rfl⟩)
      ⟨fun _ => clean, rfl⟩
  have continued : Run (Guarded CleanBlocks CallStep) blocked
      [.addClient ⟨48, rfl⟩ "mallory" true .unknown 4] rejoined :=
    .snoc .nil ⟨trivial, rfl⟩
  have isBlocked : "mallory" ∈ blocked.blockedUsers := by decide
  have out := blockedUsers_stay_out isNewCall_moderatedCall reached continued
    isBlocked
  exact ⟨blocked, rejoined, _, _, reached, continued, isBlocked, out.2.2,
    by decide⟩

/-- A user has a pending device and one that joined as admin.  When the second
one is blocked, the first one still waits, and can be approved. -/
theorem blocked_user_approved_later :
    ¬ ∀ (start middle finish : Call directExternals)
        (events later : List (CallEvent directExternals)) (user : UserId),
      IsNewCall start → Run CallStep start events middle →
        Run CallStep middle later finish → user ∈ middle.blockedUsers →
        middle.isOut user ∧ finish.isOut user := by
  let alice : DemuxId := ⟨16, rfl⟩
  let waiting : DemuxId := ⟨32, rfl⟩
  let admin : DemuxId := ⟨48, rfl⟩
  let hosted := (moderatedCall.addClient alice "alice" true .unknown 1).2
  let asked := (hosted.addClient waiting "mallory" false .unknown 2).2
  let joined := (asked.addClient admin "mallory" true .unknown 3).2
  let blocked := (joined.handleDeviceToSfu (blockMessage admin) alice 4).2
  let approval : DeviceToSfu :=
    { DeviceToSfu.default with approve := [⟨some waiting.raw⟩] }
  let approved := (blocked.handleDeviceToSfu approval alice 5).2
  have reached : Run CallStep moderatedCall
      [.addClient alice "alice" true .unknown 1,
        .addClient waiting "mallory" false .unknown 2,
        .addClient admin "mallory" true .unknown 3,
        .handleDeviceToSfu (blockMessage admin) alice 4] blocked :=
    .snoc (.snoc (.snoc (.snoc .nil rfl) rfl) rfl) rfl
  have continued : Run CallStep blocked
      [.handleDeviceToSfu approval alice 5] approved := .snoc .nil rfl
  have isBlocked : "mallory" ∈ blocked.blockedUsers := by decide
  have isActive : approved.roster.hasActive "mallory" := by decide
  intro stayOut
  obtain ⟨_, outLater⟩ := stayOut moderatedCall blocked approved _ _ "mallory"
    isNewCall_moderatedCall reached continued isBlocked
  exact isOut_iff_not_present.mp outLater (.inl isActive)

end CallingService.Backend
