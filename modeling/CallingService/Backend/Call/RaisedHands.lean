import CallingService.Backend.Call.Blocking
import CallingService.Backend.Call.References

/-!
# Raised hands

Who leaves a call or is removed from it lowers its hand.  Blocking takes
clients out of the call, too, but leaves their hands as they are, and a message
may raise the hand of a sender whom its own actions have just taken out.
-/

namespace CallingService.Backend

open Foundation Rtp

variable {externals : CallExternals}

namespace Call

def hands (call : Call externals) : List RaisedHand :=
  call.raisedHands.getD []

theorem hands_of_eq_some {call : Call externals} {hands : List RaisedHand}
    (known : call.raisedHands = some hands) : call.hands = hands := by
  unfold Call.hands
  rw [known]
  rfl

def HandIsUp (call : Call externals) (demuxId : DemuxId) : Prop :=
  ∃ hand ∈ call.hands, hand.raise = true ∧ hand.demuxId = demuxId

/-- Every raised hand belongs to an active client. -/
def HandsAreActive (call : Call externals) : Prop :=
  ∀ hand ∈ call.raisedHands.getD [], hand.raise = true →
    call.IsActive hand.demuxId

/-- Nobody has two hands. -/
def OneHandEach (call : Call externals) : Prop :=
  (call.hands.map RaisedHand.demuxId).Nodup

/-- The hands are the same. -/
structure SameHands (before after : Call externals) : Prop where
  hands : after.raisedHands = before.raisedHands
  seqnums : after.raisedHandsSeqnums = before.raisedHandsSeqnums

theorem SameHands.refl (call : Call externals) : call.SameHands call :=
  ⟨rfl, rfl⟩

theorem SameHands.trans {first second third : Call externals}
    (one : first.SameHands second) (two : second.SameHands third) :
    first.SameHands third :=
  ⟨two.hands.trans one.hands, two.seqnums.trans one.seqnums⟩

/-- Hands may have been lowered. -/
structure Lowered (before after : Call externals) : Prop where
  demuxIds : after.hands.map RaisedHand.demuxId =
    before.hands.map RaisedHand.demuxId
  seqnums : after.raisedHandsSeqnums = before.raisedHandsSeqnums
  up : ∀ demuxId, after.HandIsUp demuxId → before.HandIsUp demuxId

theorem SameHands.lowered {before after : Call externals}
    (same : before.SameHands after) : before.Lowered after := by
  have sameHands : after.hands = before.hands :=
    congrArg (·.getD []) same.hands
  refine ⟨?_, same.seqnums, ?_⟩
  · rw [sameHands]
  · intro demuxId isUp
    unfold HandIsUp at isUp
    rw [sameHands] at isUp
    exact isUp

theorem Lowered.refl (call : Call externals) : call.Lowered call :=
  (SameHands.refl call).lowered

theorem Lowered.trans {first second third : Call externals}
    (one : first.Lowered second) (two : second.Lowered third) :
    first.Lowered third :=
  ⟨two.demuxIds.trans one.demuxIds, two.seqnums.trans one.seqnums,
    fun demuxId isUp => one.up demuxId (two.up demuxId isUp)⟩

theorem Lowered.oneHandEach {before after : Call externals}
    (lowered : before.Lowered after) (each : before.OneHandEach) :
    after.OneHandEach := by
  unfold OneHandEach
  rw [lowered.demuxIds]
  exact each

theorem lowered_lowerRaisedHand (call : Call externals) (demuxId : DemuxId)
    (now : Instant) : call.Lowered (call.lowerRaisedHand demuxId now) := by
  unfold lowerRaisedHand
  cases known : call.raisedHands with
  | none => exact .refl call
  | some hands =>
      have before := hands_of_eq_some known
      dsimp only
      split
      · exact .refl call
      · split
        · refine ⟨?_, rfl, ?_⟩
          · rw [before]
            exact map_modifyFirst fun _ => rfl
          · intro other isUp
            obtain ⟨hand, member, isRaised, named⟩ := isUp
            rcases mem_modifyFirst member with old | ⟨origin, _, rfl⟩
            · rw [← before] at old
              exact ⟨hand, old, isRaised, named⟩
            · cases isRaised
        · exact .refl call

theorem not_handIsUp_lowerRaisedHand {call : Call externals}
    (each : call.OneHandEach) (demuxId : DemuxId) (now : Instant) :
    ¬ (call.lowerRaisedHand demuxId now).HandIsUp demuxId := by
  unfold lowerRaisedHand
  cases known : call.raisedHands with
  | none =>
      rintro ⟨hand, member, _⟩
      unfold hands at member
      rw [known] at member
      cases member
  | some hands =>
      have before := hands_of_eq_some known
      unfold OneHandEach at each
      rw [before] at each
      dsimp only
      split
      · rename_i nobody
        rintro ⟨hand, member, _, named⟩
        rw [before] at member
        have another := List.find?_eq_none.mp nobody hand member
        simp [named] at another
      · rename_i hand found
        split
        · rintro ⟨other, member, isRaised, named⟩
          have unique : hands.Pairwise fun first second =>
              decide (first.demuxId = demuxId) = true →
                decide (second.demuxId = demuxId) = false := by
            apply (List.pairwise_map.mp each).imp
            intro first second differ isFirst
            rw [decide_eq_true_eq] at isFirst
            rw [decide_eq_false_iff_not, ← isFirst]
            exact Ne.symm differ
          rcases mem_modifyFirst_of_unique unique member with
            ⟨_, another⟩ | ⟨origin, _, _, rfl⟩
          · simp [named] at another
          · cases isRaised
        · rename_i isDown
          rintro ⟨other, member, isRaised, named⟩
          rw [before] at member
          have isHand : hand.demuxId = demuxId := by
            simpa using List.find?_some found
          have same : other = hand := List.inj_on_of_nodup_map each member
            (List.mem_of_find?_eq_some found) (named.trans isHand.symm)
          rw [same] at isRaised
          exact isDown isRaised

/-! ## Operations that leave the hands alone -/

theorem sameHands_allocateForReceivers (receivers : List (Client externals))
    (now : Instant) (call : Call externals) :
    call.SameHands (call.allocateForReceivers receivers now) := by
  rw [allocateForReceivers_frame]
  exact ⟨rfl, rfl⟩

theorem sameHands_updateForRemovedClients (call : Call externals)
    (removed : List DemuxId) (now : Instant) :
    call.SameHands (call.updateForRemovedClients removed now) := by
  have reallocated := sameHands_allocateForReceivers call.clients now call
  exact ⟨reallocated.hands, reallocated.seqnums⟩

theorem sameHands_removeClient {call : Call externals} {demuxId : DemuxId}
    {now : Instant} {removed : Client externals × Call externals}
    (succeeded : call.removeClient demuxId now = some removed) :
    call.SameHands removed.2 := by
  unfold removeClient at succeeded
  obtain ⟨index, _, found⟩ := Option.bind_eq_some_iff.mp succeeded
  obtain ⟨client, _, returned⟩ := Option.bind_eq_some_iff.mp found
  cases returned
  have updated := sameHands_updateForRemovedClients
    { call.willAddOrRemoveClient now with
      clients := swapRemove call.clients index } [demuxId] now
  exact ⟨updated.hands, updated.seqnums⟩

theorem sameHands_dropNonParticipant (call : Call externals)
    (demuxId : DemuxId) (now : Instant) :
    call.SameHands (call.dropNonParticipant demuxId now) := by
  unfold dropNonParticipant
  split
  · exact ⟨rfl, rfl⟩
  · split
    · exact ⟨rfl, rfl⟩
    · exact .refl call

theorem sameHands_addClient (call : Call externals) (demuxId : DemuxId)
    (userId : UserId) (isAdmin : Bool) (regionRelation : RegionRelation)
    (now : Instant) :
    call.SameHands
      (call.addClient demuxId userId isAdmin regionRelation now).2 := by
  unfold addClient
  dsimp only
  split
  · exact ⟨rfl, rfl⟩
  · split
    · split
      · exact ⟨rfl, rfl⟩
      · exact ⟨rfl, rfl⟩
    · exact ⟨rfl, rfl⟩

theorem sameHands_promoteAll (pending : List NonParticipantClient)
    (now : Instant) (call : Call externals) :
    call.SameHands (pending.foldl
      (fun promoted client => promoted.promoteClient client now) call) := by
  induction pending generalizing call with
  | nil => exact .refl call
  | cons client rest ih =>
      rw [List.foldl_cons]
      have first : call.SameHands (call.promoteClient client now) := ⟨rfl, rfl⟩
      exact first.trans (ih _)

theorem sameHands_approvePendingClient (call : Call externals)
    (demuxId : DemuxId) (now : Instant) :
    call.SameHands (call.approvePendingClient demuxId now) := by
  unfold approvePendingClient
  split
  · exact .refl call
  · rename_i client _
    have promoted := sameHands_promoteAll
      (call.pendingClients.filter (·.userId = client.userId)) now
      { call with
        pendingClients :=
          call.pendingClients.filter (·.userId ≠ client.userId) }
    exact ⟨promoted.hands, promoted.seqnums⟩

theorem sameHands_denyPendingClient (call : Call externals)
    (demuxId : DemuxId) (now : Instant) :
    call.SameHands (call.denyPendingClient demuxId now) := by
  unfold denyPendingClient
  split
  · exact .refl call
  · exact ⟨rfl, rfl⟩

/-- Blocking does not lower a hand. -/
theorem sameHands_blockClient (call : Call externals) (demuxId : DemuxId)
    (now : Instant) : call.SameHands (call.blockClient demuxId now) := by
  unfold blockClient
  split
  · exact .refl call
  · rename_i client _
    have updated := sameHands_updateForRemovedClients
      { call.willAddOrRemoveClient now with
        clients := call.clients.filter (·.userId ≠ client.userId)
        removedClients := call.removedClients ++
          (call.clients.filter (·.userId = client.userId)).map
            Client.toNonParticipant }
      ((call.clients.filter (·.userId = client.userId)).map Client.demuxId) now
    exact ⟨updated.hands, updated.seqnums⟩

theorem sameHands_handleVideoRequest (call : Call externals)
    (sender : Client externals) (request : Option VideoRequestMessage)
    (now : Instant) :
    call.SameHands (call.handleVideoRequest sender request now) := by
  unfold handleVideoRequest
  split
  · exact .refl call
  · split
    · exact .refl call
    · exact ⟨rfl, rfl⟩

end Call

/-! ## Admin actions -/

namespace Roster

/-- The action blocks the user of this active device. -/
def Blocks (roster : Roster) (action : AdminAction) (demuxId : DemuxId) :
    Prop :=
  ∃ target client device, action = .block target ∧
    roster.findActive target = some client ∧ device ∈ roster.active ∧
    device.userId = client.userId ∧ device.demuxId = demuxId

/-- No block takes out a device whose hand is up. -/
def BlocksSpare (isUp : DemuxId → Prop) : List AdminAction → Roster → Prop
  | [], _ => True
  | action :: rest, roster =>
      (∀ demuxId, roster.Blocks action demuxId → ¬ isUp demuxId) ∧
        BlocksSpare isUp rest (roster.act action)

/-- Active devices stay so unless they are removed or blocked. -/
theorem Acted.active {before after : Roster} {action : AdminAction}
    {demuxId : DemuxId} (acted : before.Acted action after)
    (isActive : ∃ client ∈ before.active, client.demuxId = demuxId)
    (notRemoved : action ≠ .remove demuxId)
    (notBlocked : ¬ before.Blocks action demuxId) :
    ∃ client ∈ after.active, client.demuxId = demuxId := by
  obtain ⟨client, member, named⟩ := isActive
  cases acted with
  | ignored => exact ⟨client, member, named⟩
  | approved found => exact ⟨client, List.mem_append_left _ member, named⟩
  | denied found => exact ⟨client, member, named⟩
  | removed isTarget split =>
      rcases List.mem_cons.mp (split.subset member) with rfl | stays
      · rw [← named, isTarget] at notRemoved
        exact absurd rfl notRemoved
      · exact ⟨client, stays, named⟩
  | @blocked target blocked found =>
      refine ⟨client, List.mem_filter.mpr ⟨member, ?_⟩, named⟩
      rw [decide_eq_true_eq]
      intro sameUser
      exact notBlocked
        ⟨target, blocked, client, rfl, found, member, sameUser, named⟩

/-- A drop takes out no active device but the one it names. -/
theorem Left.active {before after : Roster} {dropped demuxId : DemuxId}
    (left : before.Left dropped after) (another : demuxId ≠ dropped)
    (isActive : ∃ client ∈ before.active, client.demuxId = demuxId) :
    ∃ client ∈ after.active, client.demuxId = demuxId := by
  cases left with
  | unknown => exact isActive
  | fromActive isDropped split =>
      obtain ⟨client, member, named⟩ := isActive
      rcases List.mem_cons.mp (split.subset member) with rfl | stays
      · exact absurd (named.symm.trans isDropped) another
      · exact ⟨client, stays, named⟩
  | fromPending isDropped split => exact isActive
  | fromRemoved isDropped split => exact isActive

end Roster

namespace Call

/-- The hands of a call while the admin actions of a message are carried out;
those that matter are up at its start. -/
structure Acting (start : Call externals) (matters : DemuxId → Prop)
    (actions : List AdminAction) (call : Call externals) : Prop where
  each : call.OneHandEach
  lowered : start.Lowered call
  active : ∀ demuxId, matters demuxId → call.HandIsUp demuxId →
    call.IsActive demuxId
  spared : call.roster.BlocksSpare matters actions

section Acting

variable {start call after : Call externals} {matters : DemuxId → Prop}
variable {action : AdminAction} {rest : List AdminAction}

theorem Acting.step (acting : Acting start matters (action :: rest) call)
    (lowered : call.Lowered after)
    (roster : after.roster = call.roster.act action)
    (removed : ∀ target, action = .remove target → call.IsActive target →
      ¬ after.HandIsUp target) :
    Acting start matters rest after := by
  obtain ⟨spared, later⟩ := acting.spared
  refine ⟨lowered.oneHandEach acting.each, acting.lowered.trans lowered, ?_,
    ?_⟩
  · intro demuxId doesMatter isUp
    have wasActive := acting.active demuxId doesMatter
      (lowered.up demuxId isUp)
    rw [isActive_iff, roster]
    apply (Roster.acted_act _ _).active (isActive_iff.mp wasActive)
    · intro isRemoved
      exact removed demuxId isRemoved wasActive isUp
    · intro isBlocked
      exact spared demuxId isBlocked doesMatter
  · rw [roster]
    exact later

theorem Acting.forTargets {actions : List GenericAdminAction}
    (now : Instant)
    (act : Call externals → DemuxId → Instant → Call externals)
    (action : DemuxId → AdminAction)
    (step : ∀ {call target rest},
      Acting start matters (action target :: rest) call →
        Acting start matters rest (act call target now))
    (acting : Acting start matters
      ((wellFormedTargets actions).map action ++ rest) call) :
    Acting start matters rest (forTargets act actions call now) := by
  unfold Call.forTargets
  unfold wellFormedTargets at acting
  generalize actions.filterMap
    (fun action => action.targetDemuxId.bind DemuxId.tryFrom) = targets
    at acting ⊢
  induction targets generalizing call with
  | nil => exact acting
  | cons target others ih =>
      rw [List.map_cons, List.cons_append] at acting
      exact ih (step acting)

theorem Acting.approve {target : DemuxId} {now : Instant}
    (acting : Acting start matters (.approve target :: rest) call) :
    Acting start matters rest (call.approvePendingClient target now) := by
  apply acting.step
  · exact (sameHands_approvePendingClient call target now).lowered
  · exact roster_approvePendingClient call target now
  · intro _ isRemoval
    cases isRemoval

theorem Acting.deny {target : DemuxId} {now : Instant}
    (acting : Acting start matters (.deny target :: rest) call) :
    Acting start matters rest (call.denyPendingClient target now) := by
  apply acting.step
  · exact (sameHands_denyPendingClient call target now).lowered
  · exact roster_denyPendingClient call target now
  · intro _ isRemoval
    cases isRemoval

theorem Acting.block {target : DemuxId} {now : Instant}
    (acting : Acting start matters (.block target :: rest) call) :
    Acting start matters rest (call.blockClient target now) := by
  apply acting.step
  · exact (sameHands_blockClient call target now).lowered
  · exact roster_blockClient call target now
  · intro _ isRemoval
    cases isRemoval

end Acting

theorem lowered_forceRemoveClient (call : Call externals)
    (demuxId : DemuxId) (now : Instant) :
    call.Lowered (call.forceRemoveClient demuxId now) := by
  unfold forceRemoveClient
  split
  · exact .refl call
  · rename_i client remaining removed
    have same := sameHands_removeClient removed
    refine Lowered.trans ?_ (lowered_lowerRaisedHand _ demuxId now)
    exact SameHands.lowered ⟨same.hands, same.seqnums⟩

variable {call : Call externals}

theorem not_handIsUp_forceRemoveClient (each : call.OneHandEach)
    {demuxId : DemuxId} (isActive : call.IsActive demuxId) (now : Instant) :
    ¬ (call.forceRemoveClient demuxId now).HandIsUp demuxId := by
  unfold forceRemoveClient
  split
  · rename_i nobody
    have taken := roster_removeClient call demuxId now
    rw [nobody] at taken
    obtain ⟨client, member, named⟩ := isActive_iff.mp isActive
    exact absurd named
      (Roster.demuxId_ne_of_takeActive_eq_none taken client member)
  · rename_i client remaining removed
    have same := sameHands_removeClient removed
    apply not_handIsUp_lowerRaisedHand
    exact same.lowered.oneHandEach each

theorem Acting.remove {start call : Call externals}
    {matters : DemuxId → Prop} {rest : List AdminAction} {target : DemuxId}
    {now : Instant}
    (acting : Acting start matters (.remove target :: rest) call) :
    Acting start matters rest (call.forceRemoveClient target now) := by
  apply acting.step
  · exact lowered_forceRemoveClient call target now
  · exact roster_forceRemoveClient call target now
  · intro demuxId isRemoval isActive
    cases isRemoval
    exact not_handIsUp_forceRemoveClient acting.each isActive now

variable {proto : DeviceToSfu}

theorem Acting.handleAdminActions {start call : Call externals}
    {matters : DemuxId → Prop} {now : Instant}
    (acting : Acting start matters proto.adminActions call) :
    Acting start matters [] (call.handleAdminActions proto now) := by
  unfold DeviceToSfu.adminActions at acting
  rw [List.append_assoc, List.append_assoc] at acting
  unfold Call.handleAdminActions
  have approved := acting.forTargets now approvePendingClient .approve .approve
  have denied := approved.forTargets now denyPendingClient .deny .deny
  have removed := denied.forTargets now forceRemoveClient .remove .remove
  rw [← List.append_nil (List.map _ (wellFormedTargets proto.block))]
    at removed
  exact removed.forTargets now blockClient .block .block

/-! ## Raising -/

/-- The message is the first one of its sender, or newer than the last. -/
def recordsHand (call : Call externals) (sender : DemuxId)
    (message : RaiseHand) : Bool :=
  match message.raise, message.seqnum with
  | some _, some seqnum =>
      !call.hands.any (·.demuxId = sender) ||
        (call.raisedHandsSeqnums.lookup sender).any (· < seqnum)
  | _, _ => false

variable {before after : Call externals}

theorem Lowered.recordsHand (lowered : before.Lowered after) (sender : DemuxId)
    (message : RaiseHand) :
    after.recordsHand sender message = before.recordsHand sender message := by
  have sameIds : ∀ call : Call externals,
      call.hands.any (fun hand => decide (hand.demuxId = sender)) =
        (call.hands.map RaisedHand.demuxId).any
          fun demuxId => decide (demuxId = sender) := by
    intro call
    rw [List.any_map]
    rfl
  unfold Call.recordsHand
  rw [sameIds, sameIds, lowered.demuxIds, lowered.seqnums]

theorem hands_handleRaiseHand (call : Call externals) (now : Instant)
    (message : RaiseHand) (sender : DemuxId) :
    (call.handleRaiseHand now message sender).hands =
      if call.recordsHand sender message then
        call.hands.eraseP (·.demuxId = sender) ++
          [⟨sender, message.raise.getD false⟩]
      else call.hands := by
  unfold handleRaiseHand recordsHand
  cases message.raise with
  | none => rfl
  | some raise =>
      cases message.seqnum with
      | none => rfl
      | some seqnum =>
          dsimp only
          split
          · rename_i isIn
            change call.hands.any _ = true at isIn
            rw [isIn]
            cases call.raisedHandsSeqnums.lookup sender with
            | none => rfl
            | some current =>
                dsimp only
                by_cases newer : current < seqnum
                · simp [newer, hands, pushRaisedHand, sendRaisedHandsOnNextTick]
                · simp [newer, hands]
          · rename_i isNew
            change ¬ call.hands.any _ = true at isNew
            have nobody : ∀ hand ∈ call.hands,
                ¬ decide (hand.demuxId = sender) = true := by
              simpa using isNew
            rw [Bool.not_eq_true] at isNew
            rw [isNew, List.eraseP_of_forall_not nobody]
            rfl

theorem demuxId_ne_of_mem_eraseP {hands : List RaisedHand}
    (each : (hands.map RaisedHand.demuxId).Nodup) {sender : DemuxId}
    {hand : RaisedHand} (member : hand ∈ hands.eraseP (·.demuxId = sender)) :
    hand.demuxId ≠ sender := by
  induction hands with
  | nil => cases member
  | cons first rest ih =>
      rw [List.map_cons, List.nodup_cons] at each
      by_cases isFirst : first.demuxId = sender
      · rw [List.eraseP_cons_of_pos (by simpa using isFirst)] at member
        intro isSender
        apply each.1
        rw [isFirst, ← isSender]
        exact List.mem_map_of_mem member
      · rw [List.eraseP_cons_of_neg (by simpa using isFirst)] at member
        rcases List.mem_cons.mp member with rfl | later
        · exact isFirst
        · exact ih each.2 later

theorem oneHandEach_handleRaiseHand (each : call.OneHandEach) (now : Instant)
    (message : RaiseHand) (sender : DemuxId) :
    (call.handleRaiseHand now message sender).OneHandEach := by
  unfold OneHandEach at each ⊢
  rw [hands_handleRaiseHand]
  split
  · rw [List.map_append, List.map_singleton, List.nodup_append]
    refine ⟨?_, List.nodup_singleton sender, ?_⟩
    · have fewer : (call.hands.eraseP (·.demuxId = sender)).Sublist
          call.hands := List.eraseP_sublist
      exact (fewer.map RaisedHand.demuxId).nodup each
    · intro demuxId isOld other isSender
      obtain ⟨hand, member, rfl⟩ := List.mem_map.mp isOld
      rw [List.mem_singleton.mp isSender]
      exact demuxId_ne_of_mem_eraseP each member
  · exact each

/-! ## Messages -/

/-- The message replaces the hand of its sender. -/
def overwrites (call : Call externals) (sender : DemuxId)
    (proto : DeviceToSfu) : Bool :=
  proto.raiseHand.any (call.recordsHand sender)

/-- The hand is up, and the message leaves it to the actions. -/
def LeavesUp (call : Call externals) (sender : DemuxId) (proto : DeviceToSfu)
    (demuxId : DemuxId) : Prop :=
  call.HandIsUp demuxId ∧
    (demuxId = sender → call.overwrites sender proto = false)

/-- The message records a raised hand of its sender. -/
def RaisesHand (call : Call externals) (sender : DemuxId)
    (proto : DeviceToSfu) : Prop :=
  ∃ message, proto.raiseHand = some message ∧ message.raise = some true ∧
    call.recordsHand sender message = true

/-- The message of an admin blocks no device whose hand is up, and raises no
hand of a sender whom it has taken out. -/
def ProtoKeepsHands (call : Call externals) (sender : Client externals)
    (proto : DeviceToSfu) : Prop :=
  sender.isAdmin = true →
    call.roster.BlocksSpare (call.LeavesUp sender.demuxId proto)
        proto.adminActions ∧
      (call.RaisesHand sender.demuxId proto →
        ∃ client ∈ (proto.adminActions.foldl Roster.act call.roster).active,
          client.demuxId = sender.demuxId)

/-- What an invariant of the hands has to say. -/
structure HandsInOrder (call : Call externals) : Prop where
  each : call.OneHandEach
  active : ∀ demuxId, call.HandIsUp demuxId → call.IsActive demuxId

theorem HandsInOrder.handsAreActive (inOrder : call.HandsInOrder)
    : call.HandsAreActive :=
  fun hand member isRaised =>
    inOrder.active hand.demuxId ⟨hand, member, isRaised, rfl⟩

/-- Hands are lowered, and those that stay up belong to clients who stay. -/
theorem HandsInOrder.of_lowered (inOrder : before.HandsInOrder)
    (lowered : before.Lowered after)
    (stays : ∀ demuxId, after.HandIsUp demuxId → before.IsActive demuxId →
      after.IsActive demuxId) : after.HandsInOrder where
  each := lowered.oneHandEach inOrder.each
  active := fun demuxId isUp =>
    stays demuxId isUp (inOrder.active demuxId (lowered.up demuxId isUp))

theorem handsInOrder_handleRaiseHand {sender : DemuxId} {message : RaiseHand}
    (each : call.OneHandEach) (active : ∀ demuxId,
      (demuxId = sender → call.recordsHand sender message = false) →
        call.HandIsUp demuxId → call.IsActive demuxId)
    (raises : message.raise = some true →
      call.recordsHand sender message = true → call.IsActive sender)
    (now : Instant) :
    (call.handleRaiseHand now message sender).HandsInOrder := by
  have sameActive : (call.handleRaiseHand now message sender).IsActive =
      call.IsActive :=
    isActive_of_roster (roster_handleRaiseHand call now message sender)
  refine ⟨oneHandEach_handleRaiseHand each now message sender, ?_⟩
  rintro demuxId ⟨hand, member, isRaised, rfl⟩
  rw [sameActive]
  rw [hands_handleRaiseHand] at member
  split at member
  · rename_i records
    rcases List.mem_append.mp member with old | new
    · have another := demuxId_ne_of_mem_eraseP each old
      exact active hand.demuxId (fun isSender => absurd isSender another)
        ⟨hand, List.mem_of_mem_eraseP old, isRaised, rfl⟩
    · rw [List.mem_singleton] at new
      subst new
      refine raises ?_ records
      cases raise : message.raise with
      | none =>
          rw [raise] at isRaised
          cases isRaised
      | some value =>
          rw [raise] at isRaised
          exact congrArg some isRaised
  · rename_i ignored
    exact active hand.demuxId (fun _ => Bool.eq_false_iff.mpr ignored)
      ⟨hand, member, isRaised, rfl⟩

/-- The state in which the raise of a message finds the call. -/
def actedOn (call : Call externals) (sender : Client externals)
    (proto : DeviceToSfu) (now : Instant) : Call externals :=
  if sender.isAdmin then
    (call.handleVideoRequest sender proto.videoRequest
      now).handleAdminActions proto now
  else call.handleVideoRequest sender proto.videoRequest now

theorem HandsInOrder.actedOn (inOrder : call.HandsInOrder)
    {sender : Client externals} (isActive : call.IsActive sender.demuxId)
    (keeps : call.ProtoKeepsHands sender proto) (now : Instant) :
    (∃ actions, Acting call (call.LeavesUp sender.demuxId proto) actions
      (call.actedOn sender proto now)) ∧
    (call.RaisesHand sender.demuxId proto →
      (call.actedOn sender proto now).IsActive sender.demuxId) := by
  have requested := (sameHands_handleVideoRequest call sender
    proto.videoRequest now).lowered
  have sameRoster := roster_handleVideoRequest call sender proto.videoRequest
    now
  have active : ∀ demuxId, call.LeavesUp sender.demuxId proto demuxId →
      (call.handleVideoRequest sender proto.videoRequest now).HandIsUp
        demuxId →
      (call.handleVideoRequest sender proto.videoRequest now).IsActive
        demuxId := by
    intro demuxId isUp _
    rw [isActive_of_roster sameRoster]
    exact inOrder.active demuxId isUp.1
  unfold Call.actedOn
  split
  · rename_i isAdmin
    obtain ⟨spared, raises⟩ := keeps isAdmin
    rw [← sameRoster] at spared
    constructor
    · exact ⟨[], Acting.handleAdminActions
        ⟨requested.oneHandEach inOrder.each, requested, active, spared⟩⟩
    · intro isRaise
      rw [isActive_iff, roster_handleAdminActions, sameRoster]
      exact raises isRaise
  · constructor
    · exact ⟨[], requested.oneHandEach inOrder.each, requested, active,
        trivial⟩
    · intro _
      rw [isActive_of_roster sameRoster]
      exact isActive

theorem HandsInOrder.handleReadyProto (inOrder : call.HandsInOrder)
    {sender : Client externals} (isActive : call.IsActive sender.demuxId)
    (keeps : call.ProtoKeepsHands sender proto) (now : Instant) :
    (call.handleReadyProto sender proto now).HandsInOrder := by
  obtain ⟨⟨_, acting⟩, raises⟩ := inOrder.actedOn isActive keeps now
  cases raiseHand : proto.raiseHand with
  | none =>
      have unraised : call.handleReadyProto sender proto now =
          call.actedOn sender proto now := by
        unfold Call.handleReadyProto
        rw [raiseHand]
        rfl
      rw [unraised]
      refine ⟨acting.each, ?_⟩
      intro demuxId isUp
      refine acting.active demuxId ⟨acting.lowered.up demuxId isUp, ?_⟩ isUp
      intro _
      unfold overwrites
      rw [raiseHand]
      rfl
  | some message =>
      have raised : call.handleReadyProto sender proto now =
          (call.actedOn sender proto now).handleRaiseHand now message
            sender.demuxId := by
        unfold Call.handleReadyProto
        rw [raiseHand]
        rfl
      have same := acting.lowered.recordsHand sender.demuxId message
      rw [raised]
      apply handsInOrder_handleRaiseHand acting.each
      · intro demuxId ignored isUp
        refine acting.active demuxId ⟨acting.lowered.up demuxId isUp, ?_⟩ isUp
        intro isSender
        unfold overwrites
        rw [raiseHand]
        exact same.symm.trans (ignored isSender)
      · intro isRaise records
        rw [same] at records
        exact raises ⟨message, raiseHand, isRaise, records⟩

/-- Every message that is ready meets the condition when its turn comes. -/
def ProtosKeepHands (senderDemuxId : DemuxId) (now : Instant) :
    List DeviceToSfu → Call externals → Prop
  | [], _ => True
  | proto :: rest, call =>
      match call.findClient senderDemuxId with
      | none => True
      | some sender =>
          call.ProtoKeepsHands sender proto ∧
            ProtosKeepHands senderDemuxId now rest
              (call.handleReadyProto sender proto now)

theorem HandsInOrder.handleReadyProtos {senderDemuxId : DemuxId} {now : Instant}
    (protos : List DeviceToSfu) (inOrder : call.HandsInOrder)
    (keep : ProtosKeepHands senderDemuxId now protos call) :
    (Call.handleReadyProtos senderDemuxId now protos
      call).2.HandsInOrder := by
  induction protos generalizing call with
  | nil => exact inOrder
  | cons proto rest ih =>
      unfold Call.handleReadyProtos
      unfold ProtosKeepHands at keep
      cases found : call.findClient senderDemuxId with
      | none => exact inOrder
      | some sender =>
          rw [found] at keep
          have isActive : call.IsActive sender.demuxId :=
            ⟨sender, List.mem_of_find?_eq_some found, rfl⟩
          exact ih (inOrder.handleReadyProto isActive keep.1 now) keep.2

/-- The call after the MRP stream of the sender has taken in the packet. -/
def receivedCall (call : Call externals) (proto : DeviceToSfu)
    (senderDemuxId : DemuxId) : Call externals :=
  match call.findClient senderDemuxId, proto.mrpHeader with
  | some sender, some header =>
      call.modifyClient senderDemuxId (setMrpStream
        (externals.mrpReceive sender.reliableMrpStream header proto).1)
  | _, _ => call

theorem handleDeviceToSfu_of_stay (stays : ¬ proto.leave)
    (senderDemuxId : DemuxId) (now : Instant) :
    (call.handleDeviceToSfu proto senderDemuxId now).2 =
      (handleReadyProtos senderDemuxId now
        (call.readyProtos proto senderDemuxId)
        (call.receivedCall proto senderDemuxId)).2 := by
  unfold handleDeviceToSfu readyProtos receivedCall
  rw [if_neg stays]
  cases call.findClient senderDemuxId with
  | none => rfl
  | some sender =>
      cases proto.mrpHeader with
      | none => rfl
      | some header =>
          dsimp only
          cases (externals.mrpReceive sender.reliableMrpStream header
            proto).2 with
          | error cause => rfl
          | ok ready => rfl

theorem HandsInOrder.receivedCall (inOrder : call.HandsInOrder)
    (proto : DeviceToSfu) (senderDemuxId : DemuxId) :
    (call.receivedCall proto senderDemuxId).HandsInOrder := by
  unfold Call.receivedCall
  split
  · rename_i sender header _ _
    have continues := call.continues_setMrpStream senderDemuxId
      (externals.mrpReceive sender.reliableMrpStream header proto).1
    apply inOrder.of_lowered
    · exact SameHands.lowered ⟨rfl, rfl⟩
    · intro demuxId _ wasActive
      rw [isActive_of_evolve (continues.clients isActive_client)]
      exact wasActive
  · exact inOrder

/-! ## Joining, leaving, and everything else -/

theorem HandsInOrder.continues (inOrder : before.HandsInOrder)
    (continues : before.Continues after) :
    after.HandsInOrder := by
  have sameHands : after.hands = before.hands :=
    congrArg (·.getD []) continues.raisedHands
  have sameActive := isActive_of_evolve (continues.clients isActive_client)
  refine ⟨?_, ?_⟩
  · unfold OneHandEach
    rw [sameHands]
    exact inOrder.each
  · intro demuxId isUp
    unfold HandIsUp at isUp
    rw [sameHands] at isUp
    rw [sameActive]
    exact inOrder.active demuxId isUp

theorem HandsInOrder.addClient (inOrder : call.HandsInOrder) (demuxId : DemuxId)
    (userId : UserId) (isAdmin : Bool) (regionRelation : RegionRelation)
    (now : Instant) :
    (call.addClient demuxId userId isAdmin regionRelation
      now).2.HandsInOrder := by
  apply inOrder.of_lowered
  · exact (sameHands_addClient call demuxId userId isAdmin regionRelation
      now).lowered
  · intro other _ wasActive
    rw [isActive_iff] at wasActive ⊢
    rw [roster_addClient]
    obtain ⟨client, member, named⟩ := wasActive
    unfold Roster.add
    split
    · exact ⟨client, member, named⟩
    · split
      · exact ⟨client, List.mem_append_left _ member, named⟩
      · exact ⟨client, member, named⟩

theorem HandsInOrder.dropClient (inOrder : call.HandsInOrder)
    (demuxId : DemuxId) (now : Instant) :
    (call.dropClient demuxId now).HandsInOrder := by
  have dropped : ∃ remaining, call.SameHands remaining ∧
      call.dropClient demuxId now = remaining.lowerRaisedHand demuxId now := by
    unfold Call.dropClient
    split
    · rename_i client remaining removed
      exact ⟨remaining, sameHands_removeClient removed, rfl⟩
    · exact ⟨_, sameHands_dropNonParticipant call demuxId now, rfl⟩
  obtain ⟨remaining, same, isRemaining⟩ := dropped
  have lowered := same.lowered.trans
    (lowered_lowerRaisedHand remaining demuxId now)
  rw [← isRemaining] at lowered
  apply inOrder.of_lowered lowered
  intro other isUp wasActive
  have another : other ≠ demuxId := by
    rintro rfl
    rw [isRemaining] at isUp
    exact not_handIsUp_lowerRaisedHand (same.lowered.oneHandEach inOrder.each)
      other now isUp
  rw [isActive_iff] at wasActive ⊢
  rw [roster_dropClient]
  exact (call.roster.left_drop demuxId).active another wasActive

/-- The messages of a packet leave no hand up for a client who is not
active. -/
def KeepsHands (before : Call externals) : CallOperation externals → Prop
  | .event (.handleDeviceToSfu proto sender now) =>
      proto.leave ∨ ProtosKeepHands sender now
        (before.readyProtos proto sender) (before.receivedCall proto sender)
  | _ => True

theorem HandsInOrder.event {event : CallEvent externals}
    (inOrder : before.HandsInOrder) (keeps : before.KeepsHands (.event event))
    (step : CallStep before event after) : after.HandsInOrder := by
  cases event with
  | addClient demuxId userId isAdmin regionRelation now =>
      rw [show after = _ from step]
      exact inOrder.addClient demuxId userId isAdmin regionRelation now
  | dropClient demuxId now =>
      rw [show after = _ from step]
      exact inOrder.dropClient demuxId now
  | handleDeviceToSfu proto sender now =>
      rw [show after = _ from step]
      by_cases leaves : proto.leave
      · unfold Call.handleDeviceToSfu
        rw [if_pos leaves]
        exact inOrder.dropClient sender now
      · rw [handleDeviceToSfu_of_stay leaves]
        exact (inOrder.receivedCall proto sender).handleReadyProtos _
          (keeps.resolve_left leaves)
  | handleMediaRtp sender incomingRtp now result =>
      exact inOrder.continues (continues_handleMediaRtp step)
  | tickForwarding now =>
      rw [show after = _ from step]
      exact inOrder.continues (before.continues_tickForwarding now)

end Call

/-- As long as the messages keep hands and clients together, every raised hand
belongs to an active client. -/
theorem raised_hands_are_active {messaging : ServerMessaging externals}
    {start finish : Call externals}
    {operations : List (CallOperation externals)} (isNew : IsNewCall start)
    (run : Run (Guarded Call.KeepsHands (OperationStep messaging)) start
      operations finish) : finish.HandsAreActive := by
  apply Call.HandsInOrder.handsAreActive
  apply run.invariant
  · obtain ⟨_, _, _, _, _, _, _, _, _, _, rfl⟩ := isNew
    refine ⟨List.nodup_nil, ?_⟩
    rintro demuxId ⟨hand, member, _⟩
    cases member
  · rintro before operation after inOrder ⟨keeps, step⟩
    cases operation with
    | event event => exact inOrder.event keeps step
    | _ => exact inOrder.continues (step.continues id)

def raiseMessage : DeviceToSfu :=
  { DeviceToSfu.default with raiseHand := some ⟨some true, some 1⟩ }

/-- Bob has raised his hand. -/
def handRaisedCall : Call directExternals :=
  (pairedCall.handleDeviceToSfu raiseMessage (DemuxId.fromSsrc 96) 0).2

/-- Bob blocks Alice, whose hand is down, while his own is up. -/
def aliceBlockedCall : Call directExternals :=
  (handRaisedCall.handleDeviceToSfu (blockMessage (DemuxId.fromSsrc 80))
    (DemuxId.fromSsrc 96) 0).2

theorem raised_hands_are_active_pair :
    aliceBlockedCall.HandsAreActive ∧
      aliceBlockedCall.HandIsUp (DemuxId.fromSsrc 96) := by
  have first : Guarded Call.KeepsHands (OperationStep directMessaging)
      moderatedCall
      (.event (.addClient (DemuxId.fromSsrc 80) "alice" true .unknown 0))
      (moderatedCall.addClient (DemuxId.fromSsrc 80) "alice" true .unknown
        0).2 := ⟨trivial, rfl⟩
  have second : Guarded Call.KeepsHands (OperationStep directMessaging)
      (moderatedCall.addClient (DemuxId.fromSsrc 80) "alice" true .unknown
        0).2
      (.event (.addClient (DemuxId.fromSsrc 96) "bob" true .unknown 0))
      pairedCall := ⟨trivial, rfl⟩
  have raises : Guarded Call.KeepsHands (OperationStep directMessaging)
      pairedCall
      (.event (.handleDeviceToSfu raiseMessage (DemuxId.fromSsrc 96) 0))
      handRaisedCall := by
    refine ⟨.inr ?_, rfl⟩
    unfold Call.readyProtos Call.receivedCall
    cases found : pairedCall.findClient (DemuxId.fromSsrc 96) with
    | none => trivial
    | some sender =>
        change Call.ProtosKeepHands _ _ [raiseMessage] pairedCall
        unfold Call.ProtosKeepHands
        rw [found]
        have isActive : ∃ client ∈ pairedCall.roster.active,
            client.demuxId = DemuxId.fromSsrc 96 := by decide +kernel
        have named : sender.demuxId = DemuxId.fromSsrc 96 := by
          simpa using List.find?_some found
        exact ⟨fun _ => ⟨trivial, fun _ => named ▸ isActive⟩, trivial⟩
  have blocks : Guarded Call.KeepsHands (OperationStep directMessaging)
      handRaisedCall
      (.event (.handleDeviceToSfu (blockMessage (DemuxId.fromSsrc 80))
        (DemuxId.fromSsrc 96) 0))
      aliceBlockedCall := by
    refine ⟨.inr ?_, rfl⟩
    unfold Call.readyProtos Call.receivedCall
    cases found : handRaisedCall.findClient (DemuxId.fromSsrc 96) with
    | none => trivial
    | some sender =>
        change Call.ProtosKeepHands _ _ [blockMessage _] handRaisedCall
        unfold Call.ProtosKeepHands
        rw [found]
        refine ⟨fun _ => ⟨⟨?_, trivial⟩, ?_⟩, trivial⟩
        · rintro demuxId ⟨target, client, device, ⟨⟩, isTarget, member, user,
            rfl⟩ ⟨⟨hand, isHand, -, named⟩, -⟩
          have onlyBob : ∀ hand ∈ handRaisedCall.hands,
              hand.demuxId = DemuxId.fromSsrc 96 := by decide +kernel
          have another : ∀ client ∈ handRaisedCall.roster.findActive
              (DemuxId.fromSsrc 80), ∀ device ∈ handRaisedCall.roster.active,
              device.demuxId = DemuxId.fromSsrc 96 →
                device.userId ≠ client.userId := by decide +kernel
          exact another client isTarget device member
            (named.symm.trans (onlyBob hand isHand)) user
        · rintro ⟨message, isMessage, _⟩
          cases isMessage
  have isUp : aliceBlockedCall.HandIsUp (DemuxId.fromSsrc 96) := by
    unfold Call.HandIsUp
    decide +kernel
  exact ⟨raised_hands_are_active isNewCall_moderatedCall
    (.snoc (.snoc (.snoc (.snoc .nil first) second) raises) blocks), isUp⟩

/-! ## Hands that stay up -/

/-- Bob raises his hand, and Alice blocks him. -/
def blockedWithHandUp : Call directExternals :=
  (handRaisedCall.handleDeviceToSfu (blockMessage (DemuxId.fromSsrc 96))
    (DemuxId.fromSsrc 80) 0).2

theorem drivenRun_blockedWithHandUp :
    DrivenRun directMessaging moderatedCall
      [.event (.addClient (DemuxId.fromSsrc 80) "alice" true .unknown 0),
        .event (.addClient (DemuxId.fromSsrc 96) "bob" true .unknown 0),
        .event (.handleDeviceToSfu raiseMessage (DemuxId.fromSsrc 96) 0),
        .event (.handleDeviceToSfu (blockMessage (DemuxId.fromSsrc 96))
          (DemuxId.fromSsrc 80) 0)] blockedWithHandUp := by
  have raised : Guarded OperationAddsUnused (OperationStep directMessaging)
      pairedCall
      (.event (.handleDeviceToSfu raiseMessage (DemuxId.fromSsrc 96) 0))
      handRaisedCall := ⟨trivial, rfl⟩
  have blocked : Guarded OperationAddsUnused (OperationStep directMessaging)
      handRaisedCall
      (.event (.handleDeviceToSfu (blockMessage (DemuxId.fromSsrc 96))
        (DemuxId.fromSsrc 80) 0)) blockedWithHandUp := ⟨trivial, rfl⟩
  exact ⟨isNewCall_moderatedCall,
    .snoc (.snoc drivenRun_pairedCall.2 raised) blocked⟩

theorem raised_hand_of_blocked_client :
    ¬ ∀ (start finish : Call directExternals)
      (operations : List (CallOperation directExternals)),
      DrivenRun directMessaging start operations finish →
      finish.HandsAreActive := by
  intro always
  have areActive := always _ _ _ drivenRun_blockedWithHandUp
  have isUp : (⟨DemuxId.fromSsrc 96, true⟩ : RaisedHand) ∈
      blockedWithHandUp.raisedHands.getD [] := by
    decide +kernel
  obtain ⟨client, member, named⟩ := areActive _ isUp rfl
  have gone : ∀ client ∈ blockedWithHandUp.clients,
      client.demuxId ≠ DemuxId.fromSsrc 96 := by
    decide +kernel
  exact gone client member named

end CallingService.Backend
