import CallingService.Backend.Call.Forwarders
import CallingService.Backend.Call.Occupancy

/-!
# The streams of a receiver

What has been sent on a stream fits the forwarder of the stream.  The forwarder
may be missing only if nothing has been sent, or if the sender is not in the
call any more.  Every operation keeps the forwarders of the clients that stay,
and clients that come in have none.
-/

namespace CallingService.Backend

open Foundation Rtp

/-- A packet that was forwarded: what it was and what it became. -/
structure Forwarded where
  incomingSsrc : Ssrc
  incomingSeqnum : FullSequenceNumber
  outgoingSsrc : Ssrc
  outgoingSeqnum : FullSequenceNumber
deriving DecidableEq, Repr

namespace Forwarded

def renumbered (forwarded : Forwarded) : Renumbered Ssrc :=
  ⟨forwarded.incomingSsrc, forwarded.incomingSeqnum, forwarded.outgoingSeqnum⟩

def sender (forwarded : Forwarded) : DemuxId :=
  DemuxId.fromSsrc forwarded.outgoingSsrc

end Forwarded

/-- The part of a log that went out on one stream of a sender. -/
def streamLog (kind : StreamKind) (sender : DemuxId) (log : List Forwarded) :
    List (Renumbered Ssrc) :=
  (log.filter (·.outgoingSsrc = kind.outgoingSsrc sender)).map
    Forwarded.renumbered

@[simp] theorem streamLog_nil (kind : StreamKind) (sender : DemuxId) :
    streamLog kind sender [] = [] := rfl

theorem streamLog_append (kind : StreamKind) (sender : DemuxId)
    (log more : List Forwarded) :
    streamLog kind sender (log ++ more) =
      streamLog kind sender log ++ streamLog kind sender more := by
  simp [streamLog]

theorem mem_streamLog {kind : StreamKind} {sender : DemuxId}
    {log : List Forwarded} {forwarded : Forwarded} (member : forwarded ∈ log)
    (isStream : forwarded.outgoingSsrc = kind.outgoingSsrc sender) :
    forwarded.renumbered ∈ streamLog kind sender log :=
  List.mem_map_of_mem (List.mem_filter.mpr ⟨member, by simpa using isStream⟩)

theorem streamLog_eq_nil {sender : DemuxId} {log : List Forwarded}
    (others : ∀ forwarded ∈ log, forwarded.sender ≠ sender)
    (kind : StreamKind) : streamLog kind sender log = [] := by
  unfold streamLog
  rw [List.map_eq_nil_iff, List.filter_eq_nil_iff]
  intro forwarded member isStream
  apply others forwarded member
  rw [decide_eq_true_eq] at isStream
  unfold Forwarded.sender
  rw [isStream]
  exact LayerId.demuxId_fromSsrc_toSsrc kind.layer sender

/-- What has been sent on a stream fits its forwarder, if there is one. -/
def StreamFits (present : Prop) (log : List (Renumbered Ssrc)) :
    Option (Renumbering Ssrc) → Prop
  | some state => Tracks state log
  | none => present → log = []

theorem StreamFits.nil (present : Prop)
    (forwarder : Option (Renumbering Ssrc)) :
    StreamFits present [] forwarder := by
  cases forwarder with
  | none => exact fun _ => rfl
  | some state => exact Tracks.nil state

theorem StreamFits.kept {presentBefore presentAfter : Prop}
    {log : List (Renumbered Ssrc)} {before after : Option (Renumbering Ssrc)}
    (fits : StreamFits presentBefore log before)
    (kept : RenumberingKept presentAfter before after)
    (comesIn : presentAfter → presentBefore ∨ log = []) :
    StreamFits presentAfter log after := by
  have unused : StreamFits presentBefore log none → presentAfter →
      log = [] := by
    intro fits present
    rcases comesIn present with wasPresent | empty
    · exact fits wasPresent
    · exact empty
  cases kept with
  | retuned renumbers =>
      have tracks := renumbers.tracks fits
      rw [List.append_nil] at tracks
      exact tracks
  | created isActive =>
      rw [unused fits isActive]
      exact Tracks.nil _
  | dropped gone => exact fun present => absurd present gone
  | absent => exact unused fits

variable {externals : CallExternals}

namespace Roster

/-- The demux id is in the call or wants to be. -/
def Participates (roster : Roster) (demuxId : DemuxId) : Prop :=
  ∃ client ∈ roster.participants, client.demuxId = demuxId

/-- The demux id waits for approval. -/
def Waits (roster : Roster) (demuxId : DemuxId) : Prop :=
  ∃ client ∈ roster.pending, client.demuxId = demuxId

theorem Participates.mono {before after : Roster} {demuxId : DemuxId}
    (participates : after.Participates demuxId)
    (included : after.participants ⊆ before.participants) :
    before.Participates demuxId := by
  obtain ⟨client, member, named⟩ := participates
  exact ⟨client, included member, named⟩

variable {roster : Roster}

theorem participates_of_active {client : NonParticipantClient}
    (isActive : client ∈ roster.active) :
    roster.Participates client.demuxId :=
  ⟨client, List.mem_append_left _ isActive, rfl⟩

theorem participates_of_client {client : Client externals}
    (isActive : client.toNonParticipant ∈ roster.active) :
    roster.Participates client.demuxId :=
  participates_of_active isActive

theorem Participates.mem_demuxIds {demuxId : DemuxId}
    (participates : roster.Participates demuxId) :
    demuxId ∈ roster.demuxIds := by
  obtain ⟨client, member, named⟩ := participates
  exact List.mem_map.mpr ⟨client, List.mem_append_left _ member, named⟩

/-- Nobody takes part under the demux id of a removed client. -/
theorem not_participates_of_removed {client : NonParticipantClient}
    (distinct : roster.demuxIds.Nodup) (isRemoved : client ∈ roster.removed) :
    ¬ roster.Participates client.demuxId := by
  rintro ⟨other, member, named⟩
  unfold demuxIds members at distinct
  rw [List.map_append, List.nodup_append] at distinct
  exact distinct.2.2 _ (List.mem_map_of_mem member) _
    (List.mem_map_of_mem isRemoved) named

theorem not_waits_of_active {client : NonParticipantClient}
    (distinct : roster.demuxIds.Nodup) (isActive : client ∈ roster.active) :
    ¬ roster.Waits client.demuxId := by
  rintro ⟨other, member, named⟩
  unfold demuxIds members participants at distinct
  rw [List.map_append, List.map_append] at distinct
  have participants := (List.nodup_append.mp distinct).1
  exact (List.nodup_append.mp participants).2.2 _
    (List.mem_map_of_mem isActive) _ (List.mem_map_of_mem member) named.symm

theorem Acted.pending {before after : Roster} {action : AdminAction}
    (acted : before.Acted action after) : after.pending ⊆ before.pending := by
  cases acted with
  | ignored => exact List.Subset.refl _
  | approved found => exact fun _ => List.mem_of_mem_filter
  | denied found => exact fun _ => List.mem_of_mem_filter
  | removed named split => exact List.Subset.refl _
  | blocked found => exact List.Subset.refl _

theorem Left.pending {before after : Roster} {demuxId : DemuxId}
    (left : before.Left demuxId after) : after.pending ⊆ before.pending := by
  cases left with
  | unknown => exact List.Subset.refl _
  | fromActive named split => exact List.Subset.refl _
  | fromPending named split =>
      exact fun _ member => split.symm.subset (List.mem_cons_of_mem _ member)
  | fromRemoved named split => exact List.Subset.refl _

theorem mem_pending_add {client other : NonParticipantClient}
    (member : other ∈ (roster.add client).pending) :
    other ∈ roster.pending ∨ other = client := by
  unfold add at member
  split at member
  · exact .inl member
  · split at member
    · exact .inl member
    · rcases List.mem_append.mp member with old | new
      · exact .inl old
      · exact .inr (List.mem_singleton.mp new)

end Roster

/-! ## Clients that come in -/

namespace Client

/-- A client that has not been sent anything. -/
structure IsFresh (client : Client externals) : Prop where
  forwarders : ∀ kind sender, client.renumberingOf kind sender = none
  video : client.VideoOnBaseLayer

theorem isFresh_new (pending : NonParticipantClient)
    (initialTargetSendRate requestedMaxSendRate : DataRate) (now : Instant) :
    IsFresh (Client.new pending initialTargetSendRate requestedMaxSendRate now :
      Client externals) := by
  constructor
  · intro kind sender
    cases kind with
    | audio => rfl
    | data => rfl
    | video => rfl
  · intro sender forwarder found
    cases found

end Client

namespace Call

variable {active new : DemuxId → Prop}

/-- Every client afterwards was there before, or is a new one. -/
def ListGrown (active new : DemuxId → Prop)
    (before after : List (Client externals)) : Prop :=
  ∀ client ∈ after, ∃ origin,
    (origin ∈ before ∨ origin.IsFresh ∧ new origin.demuxId) ∧
      Client.Kept active origin client

theorem ListKept.grown {before after : List (Client externals)}
    (kept : ListKept active before after) :
    ListGrown active new before after := by
  intro client member
  obtain ⟨origin, inBefore, same⟩ := kept client member
  exact ⟨origin, .inl inBefore, same⟩

theorem ListGrown.trans {first second third : List (Client externals)}
    (one : ListGrown active new first second)
    (two : ListGrown active new second third) :
    ListGrown active new first third := by
  intro client member
  obtain ⟨middle, known | fresh, later⟩ := two client member
  · obtain ⟨origin, isOrigin, earlier⟩ := one middle known
    exact ⟨origin, isOrigin, earlier.trans later⟩
  · exact ⟨middle, .inr fresh, later⟩

theorem listGrown_promoteClient (call : Call externals)
    (pending : NonParticipantClient) (now : Instant)
    (areActive : ∀ client ∈ call.clients, active client.demuxId)
    (isActive : active pending.demuxId) (isNew : new pending.demuxId) :
    ListGrown active new call.clients
      (call.promoteClient pending now).clients := by
  have pushed : ListGrown active new call.clients
      ((call.willAddOrRemoveClient now).pushClient pending now).clients := by
    intro client member
    rcases List.mem_append.mp member with old | added
    · exact ⟨client, .inl old, .refl client⟩
    · rw [List.mem_singleton] at added
      subst added
      exact ⟨_, .inr ⟨Client.isFresh_new _ _ _ _, isNew⟩, .refl _⟩
  have stillActive : ∀ client ∈
      ((call.willAddOrRemoveClient now).pushClient pending now).clients,
      active client.demuxId := by
    intro client member
    rcases List.mem_append.mp member with old | added
    · exact areActive client old
    · rw [List.mem_singleton] at added
      subst added
      exact isActive
  unfold promoteClient
  apply pushed.trans
  apply ListKept.grown
  exact (listKept_allocateVideoLayers _ _ _ _ now stillActive).trans
    (listKept_updatePaddingSsrcs _)

theorem mem_roster_active {call : Call externals} {client : Client externals}
    (member : client ∈ call.clients) :
    client.toNonParticipant ∈ call.roster.active :=
  List.mem_map_of_mem member

theorem exists_client_of_active {call : Call externals}
    {client : NonParticipantClient} (isActive : client ∈ call.roster.active) :
    ∃ origin ∈ call.clients, origin.demuxId = client.demuxId := by
  obtain ⟨origin, member, rfl⟩ := List.mem_map.mp isActive
  exact ⟨origin, member, rfl⟩

theorem listGrown_promoteAll (pending : List NonParticipantClient)
    (call : Call externals) (now : Instant)
    (areActive : ∀ client ∈ call.clients, active client.demuxId)
    (willBeActive : ∀ client ∈ pending, active client.demuxId)
    (areNew : ∀ client ∈ pending, new client.demuxId) :
    ListGrown active new call.clients
      (pending.foldl (fun promoted client => promoted.promoteClient client now)
        call).clients := by
  induction pending generalizing call with
  | nil => exact (listKept_of_subset (fun _ member => member)).grown
  | cons client rest ih =>
      have first := call.listGrown_promoteClient client now areActive
        (willBeActive client List.mem_cons_self)
        (areNew client List.mem_cons_self)
      have stillActive : ∀ other ∈ (call.promoteClient client now).clients,
          active other.demuxId := by
        intro other member
        have isIn := mem_roster_active member
        rw [roster_promoteClient] at isIn
        rcases List.mem_append.mp isIn with old | added
        · obtain ⟨origin, known, named⟩ := exists_client_of_active old
          rw [show other.demuxId = origin.demuxId from named.symm]
          exact areActive origin known
        · rw [List.mem_singleton] at added
          rw [show other.demuxId = client.demuxId from
            congrArg NonParticipantClient.demuxId added]
          exact willBeActive client List.mem_cons_self
      exact first.trans (ih _ stillActive
        (fun other member => willBeActive other (List.mem_cons_of_mem _ member))
        (fun other member => areNew other (List.mem_cons_of_mem _ member)))

/-! ## Clients that leave -/

@[simp] theorem clients_lowerRaisedHand (call : Call externals)
    (demuxId : DemuxId) (now : Instant) :
    (call.lowerRaisedHand demuxId now).clients = call.clients := by
  rw [lowerRaisedHand_frame]

@[simp] theorem clients_dropNonParticipant (call : Call externals)
    (demuxId : DemuxId) (now : Instant) :
    (call.dropNonParticipant demuxId now).clients = call.clients := by
  unfold dropNonParticipant
  split
  · rfl
  · split
    · rfl
    · rfl

@[simp] theorem clients_handleRaiseHand (call : Call externals) (now : Instant)
    (message : RaiseHand) (sender : DemuxId) :
    (call.handleRaiseHand now message sender).clients = call.clients := by
  rw [handleRaiseHand_frame]

theorem listKept_removeClient {call remaining : Call externals}
    {demuxId : DemuxId} {now : Instant} {client : Client externals}
    (removed : call.removeClient demuxId now = some (client, remaining))
    (areActive : ∀ other ∈ remaining.roster.active, active other.demuxId)
    (isGone : ¬ active demuxId) :
    ListKept active call.clients remaining.clients := by
  obtain ⟨index, _, rest⟩ := Option.bind_eq_some_iff.mp removed
  obtain ⟨_, _, returned⟩ := Option.bind_eq_some_iff.mp rest
  cases returned
  rw [roster_updateForRemovedClients] at areActive
  have included : swapRemove call.clients index ⊆ call.clients :=
    fun _ => mem_of_mem_swapRemove
  apply (listKept_of_subset included).trans
  apply listKept_updateForRemovedClients
  · intro other member
    exact areActive _ (mem_roster_active member)
  · intro sender isRemoved
    rw [List.mem_singleton] at isRemoved
    rw [isRemoved]
    exact isGone

theorem demuxId_of_removeClient {call remaining : Call externals}
    {demuxId : DemuxId} {now : Instant} {client : Client externals}
    (removed : call.removeClient demuxId now = some (client, remaining)) :
    client.demuxId = demuxId := by
  have taken := call.roster_removeClient demuxId now
  rw [removed] at taken
  exact (Roster.takeActive_eq_some taken).1

end Call

end CallingService.Backend
