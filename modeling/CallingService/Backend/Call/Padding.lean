import CallingService.Backend.Call.Operations

/-!
# Padding

Padding for a client is sent on a stream of another active client, so there is
none as long as it is alone.
-/

namespace CallingService.Backend

open Foundation Rtp

variable {externals : CallExternals}

/-- The padding SSRCs of active clients in their order. -/
def assignPadding : List DemuxId → List (DemuxId × Option Ssrc)
  | [] => []
  | [lonely] => [(lonely, none)]
  | first :: second :: rest =>
      (first, some (LayerId.video0.toRtxSsrc second)) ::
        (second, some (LayerId.video0.toRtxSsrc first)) ::
        rest.map fun demuxId =>
          (demuxId, some (LayerId.video0.toRtxSsrc first))

theorem assignPadding_single {demuxId only : DemuxId} {padding : Option Ssrc}
    (assigned : (demuxId, padding) ∈ assignPadding [only]) :
    padding = none := by
  cases List.mem_singleton.mp assigned
  rfl

/-- Whoever is not alone gets the SSRC of somebody else. -/
theorem assignPadding_other {demuxIds : List DemuxId}
    (several : 2 ≤ demuxIds.length) (distinct : demuxIds.Nodup)
    {demuxId : DemuxId} {padding : Option Ssrc}
    (assigned : (demuxId, padding) ∈ assignPadding demuxIds) :
    ∃ other ∈ demuxIds, other ≠ demuxId ∧
      padding = some (LayerId.video0.toRtxSsrc other) := by
  cases demuxIds with
  | nil => cases several
  | cons first others =>
      cases others with
      | nil => exact absurd several (Nat.not_succ_le_self 1)
      | cons second rest =>
          obtain ⟨firstNew, restDistinct⟩ := List.nodup_cons.mp distinct
          have differ : first ≠ second := by
            intro same
            apply firstNew
            rw [same]
            exact List.mem_cons_self
          rcases List.mem_cons.mp assigned with isFirst | later
          · cases isFirst
            exact ⟨second, List.mem_cons_of_mem _ List.mem_cons_self,
              differ.symm, rfl⟩
          · rcases List.mem_cons.mp later with isSecond | inRest
            · cases isSecond
              exact ⟨first, List.mem_cons_self, differ, rfl⟩
            · obtain ⟨third, isThird, same⟩ := List.mem_map.mp inRest
              cases same
              refine ⟨first, List.mem_cons_self, ?_, rfl⟩
              intro same
              apply firstNew
              rw [same]
              exact List.mem_cons_of_mem _ isThird

namespace Call

def paddings (call : Call externals) : List (DemuxId × Option Ssrc) :=
  call.clients.map fun client => (client.demuxId, client.paddingSsrc)

/-- The padding SSRCs are those of the clients that are active now. -/
def PaddingIsCurrent (call : Call externals) : Prop :=
  call.paddings = assignPadding (call.clients.map Client.demuxId)

theorem paddingIsCurrent_updatePaddingSsrcs (call : Call externals) :
    call.updatePaddingSsrcs.PaddingIsCurrent := by
  unfold PaddingIsCurrent paddings updatePaddingSsrcs
  dsimp only
  cases call.clients with
  | nil => rfl
  | cons first others =>
      cases others with
      | nil => rfl
      | cons second rest =>
          simp [assignPadding, setPaddingSsrc, Function.comp_def]

theorem PaddingIsCurrent.continues {before after : Call externals}
    (current : before.PaddingIsCurrent) (continues : before.Continues after) :
    after.PaddingIsCurrent := by
  have evolve := @Continues.clients _ _ _ continues (fun _ => True)
    fun _ _ => trivial
  unfold PaddingIsCurrent paddings at current ⊢
  rw [evolve.map_eq, evolve.demuxIds]
  exact current

/-- Only who is active, and the padding, counts. -/
theorem PaddingIsCurrent.of_clients {before after : Call externals}
    (current : before.PaddingIsCurrent)
    (sameClients : after.clients = before.clients) :
    after.PaddingIsCurrent := by
  unfold PaddingIsCurrent paddings at current ⊢
  rw [sameClients]
  exact current

theorem paddingIsCurrent_promoteClient (call : Call externals)
    (pending : NonParticipantClient) (now : Instant) :
    (call.promoteClient pending now).PaddingIsCurrent :=
  paddingIsCurrent_updatePaddingSsrcs _

variable {call : Call externals}

theorem PaddingIsCurrent.promoteAll (pending : List NonParticipantClient)
    (now : Instant) (current : call.PaddingIsCurrent) :
    (pending.foldl (fun promoted client => promoted.promoteClient client now)
      call).PaddingIsCurrent := by
  induction pending generalizing call with
  | nil => exact current
  | cons client rest ih =>
      exact ih (call.paddingIsCurrent_promoteClient client now)

theorem paddingIsCurrent_updateForRemovedClients (call : Call externals)
    (removed : List DemuxId) (now : Instant) :
    (call.updateForRemovedClients removed now).PaddingIsCurrent := by
  have current := paddingIsCurrent_updatePaddingSsrcs
    (call.reallocateTargetSendRates now)
  unfold updateForRemovedClients dropForwarders
  unfold PaddingIsCurrent paddings at current ⊢
  simp only [List.map_map, Function.comp_def, forgetSenders]
  exact current

theorem paddingIsCurrent_removeClient {call remaining : Call externals}
    {demuxId : DemuxId} {now : Instant} {client : Client externals}
    (removed : call.removeClient demuxId now = some (client, remaining)) :
    remaining.PaddingIsCurrent := by
  obtain ⟨index, _, rest⟩ := Option.bind_eq_some_iff.mp removed
  obtain ⟨_, _, returned⟩ := Option.bind_eq_some_iff.mp rest
  cases returned
  exact paddingIsCurrent_updateForRemovedClients _ _ now

/-! ## Every operation -/

theorem PaddingIsCurrent.addClient (current : call.PaddingIsCurrent)
    (demuxId : DemuxId) (userId : UserId) (isAdmin : Bool)
    (regionRelation : RegionRelation) (now : Instant) :
    (call.addClient demuxId userId isAdmin regionRelation
      now).2.PaddingIsCurrent := by
  unfold Call.addClient
  dsimp only
  split
  · exact current.of_clients rfl
  · split
    · exact paddingIsCurrent_promoteClient _ _ now
    · exact current.of_clients rfl

theorem PaddingIsCurrent.dropClient (current : call.PaddingIsCurrent)
    (demuxId : DemuxId) (now : Instant) :
    (call.dropClient demuxId now).PaddingIsCurrent := by
  unfold Call.dropClient
  cases removed : call.removeClient demuxId now with
  | none =>
      apply current.of_clients
      rw [clients_lowerRaisedHand, clients_dropNonParticipant]
  | some pair =>
      obtain ⟨client, remaining⟩ := pair
      apply (paddingIsCurrent_removeClient removed).of_clients
      exact clients_lowerRaisedHand remaining demuxId now

theorem PaddingIsCurrent.approvePendingClient (current : call.PaddingIsCurrent)
    (target : DemuxId) (now : Instant) :
    (call.approvePendingClient target now).PaddingIsCurrent := by
  unfold Call.approvePendingClient
  split
  · exact current
  · rename_i client _
    have drained : ({ call with
        pendingClients := call.pendingClients.filter
          (·.userId ≠ client.userId) } : Call externals).PaddingIsCurrent :=
      current.of_clients rfl
    have promoted := drained.promoteAll
      (call.pendingClients.filter (·.userId = client.userId)) now
    exact promoted.of_clients rfl

theorem PaddingIsCurrent.denyPendingClient (current : call.PaddingIsCurrent)
    (target : DemuxId) (now : Instant) :
    (call.denyPendingClient target now).PaddingIsCurrent := by
  unfold Call.denyPendingClient
  split
  · exact current
  · exact current.of_clients rfl

theorem PaddingIsCurrent.forceRemoveClient (current : call.PaddingIsCurrent)
    (target : DemuxId) (now : Instant) :
    (call.forceRemoveClient target now).PaddingIsCurrent := by
  unfold Call.forceRemoveClient
  cases removed : call.removeClient target now with
  | none => exact current
  | some pair =>
      obtain ⟨client, remaining⟩ := pair
      apply (paddingIsCurrent_removeClient removed).of_clients
      exact clients_lowerRaisedHand _ target now

/-- A block may remove several clients at once. -/
theorem PaddingIsCurrent.blockClient (current : call.PaddingIsCurrent)
    (target : DemuxId) (now : Instant) :
    (call.blockClient target now).PaddingIsCurrent := by
  unfold Call.blockClient
  split
  · exact current
  · rename_i client _
    have updated := paddingIsCurrent_updateForRemovedClients
      { call.willAddOrRemoveClient now with
        clients := call.clients.filter (·.userId ≠ client.userId)
        removedClients := call.removedClients ++
          (call.clients.filter (·.userId = client.userId)).map
            Client.toNonParticipant }
      ((call.clients.filter (·.userId = client.userId)).map Client.demuxId) now
    exact updated.of_clients rfl

end Call

theorem operationInvariant_padding :
    OperationInvariant (Call.PaddingIsCurrent : Call externals → Prop) where
  continues := Call.PaddingIsCurrent.continues
  addClient := fun current _ => current.addClient _
  dropClient := Call.PaddingIsCurrent.dropClient
  approvePendingClient := Call.PaddingIsCurrent.approvePendingClient
  denyPendingClient := Call.PaddingIsCurrent.denyPendingClient
  forceRemoveClient := Call.PaddingIsCurrent.forceRemoveClient
  blockClient := Call.PaddingIsCurrent.blockClient
  handleRaiseHand := fun current now message sender =>
    current.of_clients (Call.clients_handleRaiseHand _ now message sender)

/-- Between two operations of a call every client that is not alone has the
padding SSRC of another active client. -/
theorem padding_is_for_another_client {messaging : ServerMessaging externals}
    {start finish : Call externals}
    {operations : List (CallOperation externals)}
    (driven : DrivenRun messaging start operations finish) :
    (2 ≤ finish.clients.length → ∀ client ∈ finish.clients,
      ∃ other ∈ finish.clients, other.demuxId ≠ client.demuxId ∧
        client.paddingSsrc =
          some (LayerId.video0.toRtxSsrc other.demuxId)) ∧
    (finish.clients.length = 1 → ∀ client ∈ finish.clients,
      client.paddingSsrc = none) := by
  have current : finish.PaddingIsCurrent := by
    apply operationInvariant_padding.of_run _ driven
    intro fresh isNew
    obtain ⟨_, _, _, _, _, _, _, _, _, _, rfl⟩ := isNew
    rfl
  have distinct := Call.nodup_clients
    (operationInvariant_nodup.of_run nodup_of_isNewCall driven)
  have assigned : ∀ client ∈ finish.clients,
      (client.demuxId, client.paddingSsrc) ∈
        assignPadding (finish.clients.map Client.demuxId) := by
    intro client member
    rw [← show finish.paddings = _ from current]
    exact List.mem_map_of_mem member
  constructor
  · intro several client member
    rw [← List.length_map] at several
    obtain ⟨demuxId, isActive, differs, isPadding⟩ :=
      assignPadding_other several distinct (assigned client member)
    obtain ⟨other, isOther, rfl⟩ := List.mem_map.mp isActive
    exact ⟨other, isOther, differs, isPadding⟩
  · intro alone client member
    obtain ⟨only, isOnly⟩ := List.length_eq_one_iff.mp alone
    have isAssigned := assigned client member
    rw [isOnly] at isAssigned
    exact assignPadding_single isAssigned

theorem padding_is_for_another_client_pair :
    2 ≤ pairedCall.clients.length ∧
      ∀ client ∈ pairedCall.clients, ∃ other ∈ pairedCall.clients,
        other.demuxId ≠ client.demuxId ∧
          client.paddingSsrc =
            some (LayerId.video0.toRtxSsrc other.demuxId) := by
  have two : 2 ≤ pairedCall.clients.length :=
    Nat.le_of_eq length_clients_pairedCall.symm
  exact ⟨two, (padding_is_for_another_client drivenRun_pairedCall).1 two⟩

end CallingService.Backend
