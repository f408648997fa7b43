import CallingService.Backend.Call.ReceiverStreams

/-!
# Logs of a receiver

A log of what has been forwarded to a receiver fits a call if it fits all
forwarders that the receiver has.  Every operation of a call that forwards
nothing keeps this, as long as no demux id comes back to the call.
-/

namespace CallingService.Backend

open Foundation Rtp

variable {externals : CallExternals}

namespace Call

variable {active new : DemuxId → Prop}

/-- The log of a receiver fits the call. -/
structure Tracked (receiver : DemuxId) (log : List Forwarded)
    (call : Call externals) : Prop where
  distinct : call.demuxIds.Nodup
  onBase : ∀ client ∈ call.clients, client.VideoOnBaseLayer
  notWaiting : log ≠ [] → ¬ call.roster.Waits receiver
  streams : ∀ client ∈ call.clients, client.demuxId = receiver →
    ∀ kind sender, StreamFits (call.roster.Participates sender)
      (streamLog kind sender log) (client.renumberingOf kind sender)

variable {receiver : DemuxId} {log : List Forwarded}
variable {before after : Call externals}

/-- The new clients have not been sent anything, and nothing has been
forwarded from the senders that come in. -/
theorem Tracked.of_grown (tracked : Tracked receiver log before)
    (grown : ListGrown after.roster.Participates new before.clients
      after.clients)
    (distinct : after.demuxIds.Nodup)
    (notWaiting : log ≠ [] → ¬ after.roster.Waits receiver)
    (notNew : log ≠ [] → ¬ new receiver)
    (comesIn : ∀ sender, after.roster.Participates sender →
      before.roster.Participates sender ∨
        ∀ kind, streamLog kind sender log = []) :
    Tracked receiver log after where
  distinct := distinct
  onBase := by
    intro client member
    obtain ⟨origin, known | ⟨fresh, _⟩, kept⟩ := grown client member
    · exact kept.video (tracked.onBase origin known)
    · exact kept.video fresh.video
  notWaiting := notWaiting
  streams := by
    intro client member isReceiver kind sender
    obtain ⟨origin, known | ⟨_, isNew⟩, kept⟩ := grown client member
    · have fits := tracked.streams origin known
        (kept.demuxId.symm.trans isReceiver) kind sender
      apply fits.kept (kept.forwarders kind sender)
      intro present
      exact (comesIn sender present).imp id fun empty => empty kind
    · rw [← kept.demuxId, isReceiver] at isNew
      have empty : log = [] := by
        by_contra used
        exact notNew used isNew
      rw [empty]
      exact .nil _ _

/-- An operation that only changes what belongs to media. -/
theorem Tracked.of_kept (tracked : Tracked receiver log before)
    (sameRoster : after.roster = before.roster)
    (kept : ListKept before.roster.Participates before.clients
      after.clients) : Tracked receiver log after := by
  rw [← sameRoster] at kept
  have grown : ListGrown after.roster.Participates (fun _ => False)
      before.clients after.clients := kept.grown
  apply tracked.of_grown grown
  · unfold demuxIds
    rw [sameRoster]
    exact tracked.distinct
  · rw [sameRoster]
    exact tracked.notWaiting
  · exact fun _ => id
  · intro sender present
    rw [sameRoster] at present
    exact .inl present

variable {call : Call externals}

theorem participates_client :
    ∀ client ∈ call.clients, call.roster.Participates client.demuxId :=
  fun _ member => Roster.participates_of_active (mem_roster_active member)

theorem nodup_of_act (action : AdminAction)
    (distinct : before.demuxIds.Nodup)
    (acted : after.roster = before.roster.act action) :
    after.roster.demuxIds.Nodup := by
  rw [acted, (Roster.demuxIds_act before.roster action).nodup_iff]
  exact distinct

/-- An action of an admin moves clients only. -/
theorem Tracked.of_act {action : AdminAction}
    (tracked : Tracked receiver log before)
    (acted : after.roster = before.roster.act action)
    (grown : ListGrown after.roster.Participates before.roster.Waits
      before.clients after.clients) : Tracked receiver log after := by
  apply tracked.of_grown grown
  · exact nodup_of_act action tracked.distinct acted
  · intro used waits
    apply tracked.notWaiting used
    obtain ⟨client, member, named⟩ := waits
    rw [acted] at member
    exact ⟨client, (Roster.acted_act _ action).pending member, named⟩
  · exact tracked.notWaiting
  · intro sender present
    rw [acted] at present
    exact .inl (present.mono (Roster.acted_act _ action).participants)

/-! ## Actions of admins -/

theorem Tracked.approvePendingClient (tracked : Tracked receiver log call)
    (demuxId : DemuxId) (now : Instant) :
    Tracked receiver log (call.approvePendingClient demuxId now) := by
  have acted := call.roster_approvePendingClient demuxId now
  apply @Tracked.of_act _ _ _ _ _ (.approve demuxId) tracked acted
  have participates : ∀ {client},
      client ∈ (call.roster.approve demuxId).active →
        (call.approvePendingClient demuxId now).roster.Participates
          client.demuxId := by
    intro client isActive
    rw [acted]
    exact Roster.participates_of_active isActive
  unfold Roster.approve at participates
  rw [show call.roster.findPending demuxId = call.findPending demuxId from rfl]
    at participates
  unfold Call.approvePendingClient at participates ⊢
  cases found : call.findPending demuxId with
  | none => exact (listKept_of_subset fun _ member => member).grown
  | some client =>
      rw [found] at participates
      apply listGrown_promoteAll
      · intro other member
        exact participates (List.mem_append_left _ (mem_roster_active member))
      · intro other member
        exact participates (List.mem_append_right _ member)
      · intro other member
        exact ⟨other, List.mem_of_mem_filter member, rfl⟩

theorem Tracked.denyPendingClient (tracked : Tracked receiver log call)
    (demuxId : DemuxId) (now : Instant) :
    Tracked receiver log (call.denyPendingClient demuxId now) := by
  apply @Tracked.of_act _ _ _ _ _ (.deny demuxId) tracked
    (call.roster_denyPendingClient demuxId now)
  have same : (call.denyPendingClient demuxId now).clients = call.clients := by
    unfold Call.denyPendingClient
    split
    · rfl
    · rfl
  rw [same]
  exact (listKept_of_subset fun _ member => member).grown

theorem Tracked.forceRemoveClient (tracked : Tracked receiver log call)
    (demuxId : DemuxId) (now : Instant) :
    Tracked receiver log (call.forceRemoveClient demuxId now) := by
  have acted := call.roster_forceRemoveClient demuxId now
  apply @Tracked.of_act _ _ _ _ _ (.remove demuxId) tracked acted
  apply ListKept.grown
  have distinct := nodup_of_act (.remove demuxId) tracked.distinct acted
  unfold Call.forceRemoveClient at distinct ⊢
  cases removed : call.removeClient demuxId now with
  | none => exact listKept_of_subset fun _ member => member
  | some pair =>
      obtain ⟨client, remaining⟩ := pair
      rw [removed] at distinct
      dsimp only at distinct ⊢
      rw [clients_lowerRaisedHand, roster_lowerRaisedHand] at *
      apply listKept_removeClient removed
      · intro other isActive
        exact Roster.participates_of_active isActive
      · have isRemoved := Roster.not_participates_of_removed distinct
          (List.mem_append_right _ (List.mem_singleton_self _))
        rw [show client.toNonParticipant.demuxId = demuxId from
          demuxId_of_removeClient removed] at isRemoved
        exact isRemoved

theorem Tracked.blockClient (tracked : Tracked receiver log call)
    (demuxId : DemuxId) (now : Instant) :
    Tracked receiver log (call.blockClient demuxId now) := by
  have acted := call.roster_blockClient demuxId now
  apply @Tracked.of_act _ _ _ _ _ (.block demuxId) tracked acted
  apply ListKept.grown
  have distinct := nodup_of_act (.block demuxId) tracked.distinct acted
  rw [acted] at distinct ⊢
  unfold Roster.block at distinct ⊢
  rw [findActive_roster] at distinct ⊢
  unfold Call.blockClient
  cases found : call.findClient demuxId with
  | none => exact listKept_of_subset fun _ member => member
  | some client =>
      rw [found] at distinct
      dsimp only [Option.map_some] at distinct ⊢
      have included : call.clients.filter
          (fun other => decide (other.userId ≠ client.userId)) ⊆
            call.clients := fun _ member => List.mem_of_mem_filter member
      apply (listKept_of_subset included).trans
      apply listKept_updateForRemovedClients
      · intro other member
        obtain ⟨isClient, differs⟩ := List.mem_filter.mp member
        apply Roster.participates_of_client
        exact List.mem_filter.mpr ⟨mem_roster_active isClient, differs⟩
      · intro sender isBlocked
        obtain ⟨other, member, rfl⟩ := List.mem_map.mp isBlocked
        obtain ⟨isClient, same⟩ := List.mem_filter.mp member
        apply @Roster.not_participates_of_removed _ other.toNonParticipant
          distinct
        apply List.mem_append_right
        exact List.mem_filter.mpr ⟨mem_roster_active isClient, same⟩

theorem Tracked.dropClient (tracked : Tracked receiver log call)
    (demuxId : DemuxId) (now : Instant) :
    Tracked receiver log (call.dropClient demuxId now) := by
  have dropped := call.roster_dropClient demuxId now
  have ids := call.demuxIds_dropClient demuxId now
  have distinct : (call.dropClient demuxId now).demuxIds.Nodup := by
    rw [ids.nodup_iff]
    exact tracked.distinct.erase _
  have grown : ListGrown (call.dropClient demuxId now).roster.Participates
      (fun _ => False) call.clients (call.dropClient demuxId now).clients := by
    have isGone : ¬ (call.dropClient demuxId now).roster.Participates
        demuxId := by
      intro participates
      have isIn := ids.subset participates.mem_demuxIds
      exact tracked.distinct.not_mem_erase isIn
    apply ListKept.grown
    unfold Call.dropClient at isGone ⊢
    cases removed : call.removeClient demuxId now with
    | none =>
        dsimp only
        rw [clients_lowerRaisedHand, clients_dropNonParticipant]
        exact listKept_of_subset fun _ member => member
    | some pair =>
        obtain ⟨client, remaining⟩ := pair
        rw [removed] at isGone
        dsimp only at isGone ⊢
        rw [roster_lowerRaisedHand] at isGone ⊢
        rw [clients_lowerRaisedHand]
        apply listKept_removeClient removed _ isGone
        intro other isActive
        exact Roster.participates_of_active isActive
  apply tracked.of_grown grown distinct
  · intro used waits
    apply tracked.notWaiting used
    obtain ⟨client, member, named⟩ := waits
    rw [dropped] at member
    exact ⟨client, (Roster.left_drop _ demuxId).pending member, named⟩
  · exact fun _ => id
  · intro sender present
    rw [dropped] at present
    exact .inl (present.mono (Roster.left_drop _ demuxId).participants)

/-! ## Joining -/

theorem Tracked.addClient (tracked : Tracked receiver log call)
    {demuxId : DemuxId} (unused : call.hasClient demuxId = false)
    (notReceiver : log ≠ [] → demuxId ≠ receiver)
    (notReused : ∀ kind, streamLog kind demuxId log = []) (userId : UserId)
    (isAdmin : Bool) (regionRelation : RegionRelation) (now : Instant) :
    Tracked receiver log
      (call.addClient demuxId userId isAdmin regionRelation now).2 := by
  have added := call.roster_addClient demuxId userId isAdmin regionRelation now
  have grown : ListGrown
      (call.addClient demuxId userId isAdmin regionRelation
        now).2.roster.Participates (fun other => other = demuxId) call.clients
      (call.addClient demuxId userId isAdmin regionRelation now).2.clients := by
    rw [added]
    unfold Roster.add
    rw [show call.roster.blocked = call.blockedUsers from rfl,
      show call.roster.newClientsRequireApproval =
        call.newClientsRequireApproval from rfl,
      show call.roster.approved = call.approvedUsers.set from rfl]
    unfold Call.addClient
    dsimp only
    split
    · exact (listKept_of_subset fun _ member => member).grown
    · split
      · rename_i isActive
        have sameClients : (if call.persistApprovalForAllUsersWhoJoin then
            { call with approvedUsers := call.approvedUsers.insert userId }
          else call).clients = call.clients := by
          split
          · rfl
          · rfl
        nth_rewrite 1 [← sameClients]
        apply listGrown_promoteClient
        · intro client member
          rw [sameClients] at member
          apply Roster.participates_of_client
          exact List.mem_append_left _ (mem_roster_active member)
        · apply @Roster.participates_of_active _
            ⟨demuxId, userId, isAdmin, regionRelation, 1⟩
          exact List.mem_append_right _ (List.mem_singleton_self _)
        · rfl
      · exact (listKept_of_subset fun _ member => member).grown
  apply tracked.of_grown grown
  · have ids := call.demuxIds_addClient demuxId userId isAdmin regionRelation
      now
    rw [ids.nodup_iff, List.nodup_cons, mem_demuxIds, unused]
    exact ⟨Bool.false_ne_true, tracked.distinct⟩
  · intro used waits
    obtain ⟨client, member, named⟩ := waits
    rw [added] at member
    rcases Roster.mem_pending_add member with old | rfl
    · exact tracked.notWaiting used ⟨client, old, named⟩
    · exact notReceiver used named
  · intro used isNew
    exact notReceiver used isNew.symm
  · intro sender present
    obtain ⟨client, member, named⟩ := present
    rw [added] at member
    rcases Roster.mem_participants_add member with old | ⟨rfl, _⟩
    · exact .inl ⟨client, old, named⟩
    · rw [← named]
      exact .inr notReused

/-! ## Messages -/

theorem Tracked.modifyClient (tracked : Tracked receiver log call)
    {demuxId : DemuxId} {change : Client externals → Client externals}
    (sameClient : ∀ {client}, call.findClient demuxId = some client →
      (change client).toNonParticipant = client.toNonParticipant)
    (kept : ∀ {present client}, call.findClient demuxId = some client →
      Client.Kept present client (change client)) :
    Tracked receiver log (call.modifyClient demuxId change) := by
  apply tracked.of_kept
  · exact roster_modifyClient sameClient
  · exact listKept_modifyFirst kept

theorem Tracked.allocateVideoLayers (tracked : Tracked receiver log call)
    (demuxId : DemuxId) (target minTarget : DataRate) (now : Instant) :
    Tracked receiver log
      (call.allocateVideoLayers demuxId target minTarget now) := by
  apply tracked.of_kept
  · exact roster_allocateVideoLayers call demuxId target minTarget now
  · exact listKept_allocateVideoLayers call demuxId target minTarget now
      participates_client

theorem Tracked.handleVideoRequest (tracked : Tracked receiver log call)
    (sender : Client externals) (request : Option VideoRequestMessage)
    (now : Instant) :
    Tracked receiver log (call.handleVideoRequest sender request now) := by
  unfold Call.handleVideoRequest
  split
  · exact tracked
  · split
    · exact tracked
    · apply Tracked.allocateVideoLayers
      apply tracked.modifyClient
      · exact fun _ => rfl
      · exact fun _ => Client.kept_of_sameForwarders rfl rfl rfl rfl

theorem Tracked.handleRaiseHand (tracked : Tracked receiver log call)
    (now : Instant) (message : RaiseHand) (sender : DemuxId) :
    Tracked receiver log (call.handleRaiseHand now message sender) := by
  apply tracked.of_kept
  · exact roster_handleRaiseHand call now message sender
  · rw [clients_handleRaiseHand]
    exact listKept_of_subset fun _ member => member

theorem Tracked.messageRelation (now : Instant) :
    MessageRelation now fun before after : Call externals =>
      Tracked receiver log before → Tracked receiver log after where
  refl := fun _ => id
  trans := fun one two => two ∘ one
  handleVideoRequest := fun _ sender request tracked =>
    tracked.handleVideoRequest sender request now
  setMrpStream := by
    intro call sender stream tracked
    apply tracked.modifyClient
    · exact fun _ => rfl
    · exact fun _ => Client.kept_of_sameForwarders rfl rfl rfl rfl
  approvePendingClient := fun _ target tracked =>
    tracked.approvePendingClient target now
  denyPendingClient := fun _ target tracked =>
    tracked.denyPendingClient target now
  forceRemoveClient := fun _ target tracked =>
    tracked.forceRemoveClient target now
  blockClient := fun _ target tracked => tracked.blockClient target now
  dropClient := fun _ demuxId tracked => tracked.dropClient demuxId now
  handleRaiseHand := fun _ message sender tracked =>
    tracked.handleRaiseHand now message sender

theorem Tracked.handleDeviceToSfu (tracked : Tracked receiver log call)
    (proto : DeviceToSfu) (sender : DemuxId) (now : Instant) :
    Tracked receiver log (call.handleDeviceToSfu proto sender now).2 :=
  (Tracked.messageRelation now).handleDeviceToSfu call proto sender tracked

/-! ## Regular updates -/

theorem Tracked.updateIncomingRates (tracked : Tracked receiver log call)
    (now : Instant) :
    Tracked receiver log (call.updateIncomingRates now) := by
  apply tracked.of_kept
  · exact roster_updateIncomingRates call now
  · apply listKept_map
    exact fun _ => Client.kept_of_sameForwarders rfl rfl rfl rfl

theorem Tracked.calculateActiveSpeaker (tracked : Tracked receiver log call)
    (now : Instant) :
    Tracked receiver log (call.calculateActiveSpeaker now).2 := by
  apply tracked.of_kept
  · exact roster_calculateActiveSpeaker call now
  · rcases call.calculateActiveSpeaker_cases now with
      same | ⟨mostActive, _, _, changed⟩
    · rw [same]
      exact listKept_of_subset fun _ member => member
    · rw [changed]
      apply listKept_modifyFirst
      exact fun _ => Client.kept_of_sameForwarders rfl rfl rfl rfl

theorem Tracked.tickForwarding (tracked : Tracked receiver log call)
    (now : Instant) :
    Tracked receiver log (call.tickForwarding now) := by
  have measured := tracked.updateIncomingRates now
  have calculated : ∀ {call : Call externals}, Tracked receiver log call →
      Tracked receiver log { call with activeSpeakerCalculated := now } :=
    fun tracked => ⟨tracked.distinct, tracked.onBase, tracked.notWaiting,
      tracked.streams⟩
  have spoken : Tracked receiver log
      (if (call.updateIncomingRates now).activeSpeakerCalculated +
          activeSpeakerCalculationInterval < now then
        ({ call.updateIncomingRates now with
          activeSpeakerCalculated := now }.calculateActiveSpeaker now).2
      else call.updateIncomingRates now) := by
    split
    · exact (calculated measured).calculateActiveSpeaker now
    · exact measured
  apply spoken.of_kept
  · exact roster_allocateForReceivers _ _ now
  · exact listKept_allocateForReceivers _ now _ participates_client

end Call

end CallingService.Backend
