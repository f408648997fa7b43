import CallingService.Backend.Call.Operations

/-!
# What a call keeps beside its clients

The times and tables of a call that do not belong to one of its clients.  Most
operations leave all of them alone.
-/

namespace CallingService.Backend

open Foundation Rtp

variable {externals : CallExternals}

structure Ledger where
  clientAddedOrRemoved : Instant
  clientsUpdateSent : Instant
  callTime : CallTimeStats
  activeSpeakerId : Option DemuxId
  activeSpeakerCalculated : Instant
  keyFrameRequestsSent : Instant
  keyFrameRequestSentBySsrc : Table Ssrc Instant

/-- Account for the time since the clients changed last. -/
def Ledger.charge (ledger : Ledger) (clientCount : Nat) (now : Instant) :
    Ledger :=
  { ledger with
    callTime := Call.addCallTime ledger.callTime clientCount
      (now - ledger.clientAddedOrRemoved)
    clientAddedOrRemoved := now }

def Ledger.forget (ledger : Ledger) (removed : List DemuxId) : Ledger :=
  { ledger with
    keyFrameRequestSentBySsrc := Table.retainKeys
      (fun ssrc => DemuxId.fromSsrc ssrc ∉ removed)
      ledger.keyFrameRequestSentBySsrc }

/-- Only the times of key-frame requests are others. -/
def Ledger.RequestsNoted (before after : Ledger) : Prop :=
  ∃ requestsSent table, after = { before with
    keyFrameRequestsSent := requestsSent
    keyFrameRequestSentBySsrc := table }

theorem Call.addCallTime_zero (stats : CallTimeStats) (clientCount : Nat) :
    addCallTime stats clientCount 0 = stats := by
  unfold addCallTime
  split
  · rfl
  · rfl
  · rfl
  · rfl

/-- Recalculate the active speaker, unless that was done recently. -/
def Ledger.recalculate (ledger : Ledger) (newActiveSpeaker : Option DemuxId)
    (now : Instant) : Ledger :=
  if ledger.activeSpeakerCalculated + activeSpeakerCalculationInterval <
      now then
    { ledger with
      activeSpeakerId := newActiveSpeaker.or ledger.activeSpeakerId
      activeSpeakerCalculated := now }
  else ledger

/-- The clients are told about those who were added or removed. -/
def Ledger.noteUpdate (ledger : Ledger) (now : Instant) : Ledger :=
  if ledger.clientsUpdateSent < ledger.clientAddedOrRemoved then
    { ledger with clientsUpdateSent := now }
  else ledger

/-- A moment later no time has passed. -/
theorem Ledger.charge_charge (ledger : Ledger) (first second : Nat)
    (now : Instant) :
    (ledger.charge first now).charge second now = ledger.charge first now := by
  unfold charge
  dsimp only
  rw [Nat.sub_self, Call.addCallTime_zero]

namespace Call

def ledger (call : Call externals) : Ledger where
  clientAddedOrRemoved := call.clientAddedOrRemoved
  clientsUpdateSent := call.clientsUpdateSent
  callTime := call.callTime
  activeSpeakerId := call.activeSpeakerId
  activeSpeakerCalculated := call.activeSpeakerCalculated
  keyFrameRequestsSent := call.keyFrameRequestsSent
  keyFrameRequestSentBySsrc := call.keyFrameRequestSentBySsrc

@[simp] theorem ledger_modifyClient (call : Call externals)
    (demuxId : DemuxId) (change : Client externals → Client externals) :
    (call.modifyClient demuxId change).ledger = call.ledger := rfl

@[simp] theorem ledger_allocateForReceivers (call : Call externals)
    (receivers : List (Client externals)) (now : Instant) :
    (call.allocateForReceivers receivers now).ledger = call.ledger := by
  rw [allocateForReceivers_frame]
  rfl

@[simp] theorem ledger_willAddOrRemoveClient (call : Call externals)
    (now : Instant) :
    (call.willAddOrRemoveClient now).ledger =
      call.ledger.charge call.clients.length now := rfl

@[simp] theorem ledger_promoteClient (call : Call externals)
    (pending : NonParticipantClient) (now : Instant) :
    (call.promoteClient pending now).ledger =
      call.ledger.charge call.clients.length now := rfl

@[simp] theorem ledger_updateForRemovedClients (call : Call externals)
    (removed : List DemuxId) (now : Instant) :
    (call.updateForRemovedClients removed now).ledger =
      call.ledger.forget removed :=
  congrArg (fun ledger => ledger.forget removed)
    (call.ledger_allocateForReceivers call.clients now)

@[simp] theorem ledger_lowerRaisedHand (call : Call externals)
    (demuxId : DemuxId) (now : Instant) :
    (call.lowerRaisedHand demuxId now).ledger = call.ledger := by
  rw [lowerRaisedHand_frame]
  rfl

@[simp] theorem ledger_handleRaiseHand (call : Call externals)
    (now : Instant) (message : RaiseHand) (sender : DemuxId) :
    (call.handleRaiseHand now message sender).ledger = call.ledger := by
  rw [handleRaiseHand_frame]
  rfl

@[simp] theorem ledger_handleVideoRequest (call : Call externals)
    (sender : Client externals) (request : Option VideoRequestMessage)
    (now : Instant) :
    (call.handleVideoRequest sender request now).ledger = call.ledger := by
  unfold handleVideoRequest
  split
  · rfl
  · split
    · rfl
    · rfl

variable {now : Instant}

theorem ledger_handleMediaRtp {call after : Call externals} {sender : DemuxId}
    {incomingRtp : Packet}
    {result : Except (CallError externals) (List RtpToSend)}
    (handled : call.handleMediaRtp sender incomingRtp now =
      .ok (result, after)) : after.ledger = call.ledger := by
  have onlyClients := (@clientsEvolve_handleMediaRtp _ (fun _ => True) _ _ _ _
    _ _ handled fun _ _ => trivial).2
  rw [onlyClients]
  rfl

/-! ## Moving clients -/

theorem ledger_promoteAll (pending : List NonParticipantClient)
    (call : Call externals) (now : Instant) (some : pending ≠ []) :
    (pending.foldl (fun promoted client => promoted.promoteClient client now)
      call).ledger = call.ledger.charge call.clients.length now := by
  induction pending generalizing call with
  | nil => exact absurd rfl some
  | cons client rest ih =>
      rw [List.foldl_cons]
      by_cases last : rest = []
      · rw [last]
        rfl
      · rw [ih _ last, ledger_promoteClient, Ledger.charge_charge]

theorem ledger_approvePendingClient {call : Call externals} {target : DemuxId} :
    (call.approvePendingClient target now).ledger =
      if (call.findPending target).isSome then
        call.ledger.charge call.clients.length now
      else call.ledger := by
  unfold approvePendingClient
  cases found : call.findPending target with
  | none => rfl
  | some client =>
      have some : call.pendingClients.filter
          (·.userId = client.userId) ≠ [] :=
        List.ne_nil_of_mem (List.mem_filter.mpr
          ⟨List.mem_of_find?_eq_some found, by simp⟩)
      exact ledger_promoteAll _ _ now some

theorem ledger_denyPendingClient {call : Call externals} {target : DemuxId} :
    (call.denyPendingClient target now).ledger =
      if (call.findPending target).isSome then
        call.ledger.charge call.clients.length now
      else call.ledger := by
  unfold denyPendingClient
  cases call.findPending target with
  | none => rfl
  | some client => rfl

theorem ledger_removeClient {call remaining : Call externals}
    {demuxId : DemuxId} {client : Client externals}
    (removed : call.removeClient demuxId now = some (client, remaining)) :
    remaining.ledger =
      (call.ledger.charge call.clients.length now).forget [demuxId] := by
  obtain ⟨index, _, rest⟩ := Option.bind_eq_some_iff.mp removed
  obtain ⟨_, _, returned⟩ := Option.bind_eq_some_iff.mp rest
  cases returned
  rw [ledger_updateForRemovedClients]
  rfl

theorem ledger_dropNonParticipant {call : Call externals} {demuxId : DemuxId} :
    (call.dropNonParticipant demuxId now).ledger =
      if (call.pendingClients.findIdx? (·.demuxId = demuxId)).isSome then
        call.ledger.charge call.clients.length now
      else call.ledger := by
  unfold dropNonParticipant
  cases call.pendingClients.findIdx? (·.demuxId = demuxId) with
  | some index => rfl
  | none =>
      dsimp only
      split
      · rfl
      · rfl

theorem ledger_blockClient {call : Call externals} {target : DemuxId}
    {client : Client externals} (found : call.findClient target = some client) :
    (call.blockClient target now).ledger =
      (call.ledger.charge call.clients.length now).forget
        ((call.clients.filter (·.userId = client.userId)).map
          Client.demuxId) := by
  unfold blockClient
  rw [found]
  exact ledger_updateForRemovedClients _ _ now

theorem ledger_addClient {call : Call externals} {demuxId : DemuxId}
    {userId : UserId} {isAdmin : Bool} {regionRelation : RegionRelation} :
    (call.addClient demuxId userId isAdmin regionRelation now).2.ledger =
      if userId ∈ call.blockedUsers then call.ledger
      else call.ledger.charge call.clients.length now := by
  unfold addClient
  dsimp only
  split
  · rfl
  · split
    · rw [ledger_promoteClient]
      split
      · rfl
      · rfl
    · rfl

theorem ledger_dropClient (call : Call externals) (demuxId : DemuxId)
    (now : Instant) :
    (call.dropClient demuxId now).ledger =
      match call.removeClient demuxId now with
      | some _ =>
          (call.ledger.charge call.clients.length now).forget [demuxId]
      | none => (call.dropNonParticipant demuxId now).ledger := by
  unfold dropClient
  cases removed : call.removeClient demuxId now with
  | none => exact ledger_lowerRaisedHand _ _ _
  | some pair =>
      dsimp only
      rw [ledger_lowerRaisedHand, ledger_removeClient removed]

theorem ledger_forceRemoveClient (call : Call externals) (demuxId : DemuxId)
    (now : Instant) :
    (call.forceRemoveClient demuxId now).ledger =
      match call.removeClient demuxId now with
      | some _ =>
          (call.ledger.charge call.clients.length now).forget [demuxId]
      | none => call.ledger := by
  unfold forceRemoveClient
  cases removed : call.removeClient demuxId now with
  | none => rfl
  | some pair =>
      have taken := ledger_removeClient removed
      dsimp only
      rw [ledger_lowerRaisedHand]
      exact taken

/-- A message leaves alone what neither charging nor forgetting changes. -/
theorem messageRelation_ledger {View : Type} {view : Ledger → View}
    (charge : ∀ ledger clientCount now,
      view (Ledger.charge ledger clientCount now) = view ledger)
    (forget : ∀ ledger removed,
      view (Ledger.forget ledger removed) = view ledger) (now : Instant) :
    MessageRelation now fun before after : Call externals =>
      view after.ledger = view before.ledger where
  refl := fun _ => rfl
  trans := fun one two => two.trans one
  handleVideoRequest := by
    intro call sender request
    rw [ledger_handleVideoRequest]
  setMrpStream := fun _ _ _ => rfl
  approvePendingClient := by
    intro call target
    rw [ledger_approvePendingClient]
    split
    · exact charge _ _ now
    · rfl
  denyPendingClient := by
    intro call target
    rw [ledger_denyPendingClient]
    split
    · exact charge _ _ now
    · rfl
  forceRemoveClient := by
    intro call target
    rw [ledger_forceRemoveClient]
    split
    · rw [forget, charge]
    · rfl
  blockClient := by
    intro call target
    cases found : call.findClient target with
    | none => simp [blockClient, found]
    | some client => rw [ledger_blockClient found, forget, charge]
  dropClient := by
    intro call demuxId
    rw [ledger_dropClient]
    split
    · rw [forget, charge]
    · rw [ledger_dropNonParticipant]
      split
      · exact charge _ _ now
      · rfl
  handleRaiseHand := by
    intro call message sender
    rw [ledger_handleRaiseHand]

/-! ## Time passing -/

@[simp] theorem ledger_updateIncomingRates (call : Call externals)
    (now : Instant) : (call.updateIncomingRates now).ledger = call.ledger := rfl

theorem ledger_calculateActiveSpeaker (call : Call externals)
    (now : Instant) :
    (call.calculateActiveSpeaker now).2.ledger =
      { call.ledger with
        activeSpeakerId :=
          (call.calculateActiveSpeaker now).1.or call.activeSpeakerId } := by
  rcases call.calculateActiveSpeaker_cases now with
    same | ⟨mostActive, _, _, changed⟩
  · rw [same]
    rfl
  · rw [changed]
    rfl

theorem ledger_calculateActiveSpeakerIfItsBeenTooLong (call : Call externals)
    (now : Instant) :
    (call.calculateActiveSpeakerIfItsBeenTooLong now).2.ledger =
      call.ledger.recalculate
        (call.calculateActiveSpeakerIfItsBeenTooLong now).1 now := by
  by_cases due : call.activeSpeakerCalculated +
      activeSpeakerCalculationInterval < now
  · have dueInLedger : call.ledger.activeSpeakerCalculated +
        activeSpeakerCalculationInterval < now := due
    unfold calculateActiveSpeakerIfItsBeenTooLong Ledger.recalculate
    rw [if_pos due, if_pos dueInLedger, ledger_calculateActiveSpeaker]
    rfl
  · have notDue : ¬ call.ledger.activeSpeakerCalculated +
        activeSpeakerCalculationInterval < now := due
    unfold calculateActiveSpeakerIfItsBeenTooLong Ledger.recalculate
    rw [if_neg due, if_neg notDue]

theorem ledger_noteClientsUpdate (call : Call externals) (now : Instant) :
    (call.noteClientsUpdate now).2.ledger = call.ledger.noteUpdate now := by
  by_cases due : call.clientsUpdateSent < call.clientAddedOrRemoved
  · have dueInLedger : call.ledger.clientsUpdateSent <
        call.ledger.clientAddedOrRemoved := due
    unfold noteClientsUpdate Ledger.noteUpdate
    rw [if_pos due, if_pos dueInLedger]
    rfl
  · have notDue : ¬ call.ledger.clientsUpdateSent <
        call.ledger.clientAddedOrRemoved := due
    unfold noteClientsUpdate Ledger.noteUpdate
    rw [if_neg due, if_neg notDue]

theorem ledger_of_spoken {ledger : Ledger}
    {spoken : Option DemuxId × Call externals}
    (recalculated : spoken.2.ledger = ledger.recalculate spoken.1 now) :
    let noted := spoken.2.noteClientsUpdate now
    let prepared := (noted.1, spoken.1,
      noted.2.reallocateTargetSendRatesIfItsBeenTooLong now)
    prepared.2.2.ledger =
      (ledger.recalculate prepared.2.1 now).noteUpdate now := by
  intro noted prepared
  have kept : prepared.2.2.ledger = noted.2.ledger :=
    ledger_allocateForReceivers _ _ now
  rw [kept, spoken.2.ledger_noteClientsUpdate now, recalculated]

theorem ledger_prepareTick (call : Call externals) (now : Instant) :
    (call.prepareTick now).2.2.ledger =
      (call.ledger.recalculate (call.prepareTick now).2.1 now).noteUpdate
        now :=
  ledger_of_spoken ((call.updateIncomingRates
    now).ledger_calculateActiveSpeakerIfItsBeenTooLong now)

theorem ledger_tickForwarding (call : Call externals) (now : Instant) :
    (call.tickForwarding now).ledger = call.ledger.recalculate
      ((call.updateIncomingRates
        now).calculateActiveSpeakerIfItsBeenTooLong now).1 now := by
  have measured := call.ledger_updateIncomingRates now
  unfold tickForwarding reallocateTargetSendRatesIfItsBeenTooLong
  rw [ledger_allocateForReceivers]
  generalize call.updateIncomingRates now = updated at measured
  rw [← measured, ← ledger_calculateActiveSpeakerIfItsBeenTooLong]
  unfold calculateActiveSpeakerIfItsBeenTooLong
  split
  · rfl
  · rfl

@[simp] theorem ledger_setTargetSendRate (call : Call externals)
    (receiver : DemuxId) (newTargetSendRate : DataRate) (now : Instant) :
    (call.setTargetSendRate receiver newTargetSendRate now).ledger =
      call.ledger :=
  ledger_modifyClient call receiver _

@[simp] theorem ledger_setOutgoingQueueDrainRate (call : Call externals)
    (receiver : DemuxId) (outgoingQueueDrainRate : DataRate) :
    (call.setOutgoingQueueDrainRate receiver outgoingQueueDrainRate).ledger =
      call.ledger :=
  ledger_modifyClient call receiver _

theorem requestsNoted_sendKeyFrameRequests (call : Call externals)
    (now : Instant) :
    call.ledger.RequestsNoted
      (call.sendKeyFrameRequestsIfItsBeenTooLong now).2.ledger := by
  unfold sendKeyFrameRequestsIfItsBeenTooLong
  split
  · exact ⟨_, _, rfl⟩
  · exact ⟨_, _, rfl⟩

theorem requestsNoted_handleKeyFrameRequests (call : Call externals)
    (requester : DemuxId) (keyFrameRequests : List Ssrc) (now : Instant) :
    call.ledger.RequestsNoted
      (call.handleKeyFrameRequests requester keyFrameRequests
        now).2.ledger := by
  unfold handleKeyFrameRequests
  split
  · exact ⟨_, _, rfl⟩
  · exact requestsNoted_sendKeyFrameRequests _ now

section Sending

variable {messaging : ServerMessaging externals} {call after : Call externals}
variable {now : Instant} {sent : List RtpToSend}

theorem ledger_sendUpdates
    {clientWasAddedOrRemoved activeSpeakerJustChanged : Bool}
    (succeeded : call.sendUpdates messaging clientWasAddedOrRemoved
      activeSpeakerJustChanged now = .ok (sent, after)) :
    after.ledger = call.ledger := by
  apply @sendUpdates_rule _ _ _ _ _ _
    (fun before _ after => after.ledger = before.ledger) _ _ _ _ succeeded
  · intro before sent after sends
    cases sends with
    | nobody times => rfl
    | active times _ _ => rfl
    | pending times _ _ => rfl
    | removed times _ _ => rfl
  · intro first second third early late one two
    exact two.trans one

theorem ledger_sendMrpUpdates
    (succeeded : call.sendMrpUpdates messaging now = .ok (sent, after)) :
    after.ledger = call.ledger := by
  obtain ⟨outcome, _, returned⟩ := bind_eq_ok_iff.mp succeeded
  cases returned
  rfl

theorem ledger_tick {answer : List RtpToSend × List (DemuxId × Ssrc)}
    (ticked : call.tick messaging now = .ok (answer, after)) :
    ((call.ledger.recalculate (call.prepareTick now).2.1 now).noteUpdate
      now).RequestsNoted after.ledger := by
  obtain ⟨updated, one, rest⟩ := bind_eq_ok_iff.mp ticked
  obtain ⟨forSpeaker, _, rest⟩ := bind_eq_ok_iff.mp rest
  obtain ⟨streams, two, returned⟩ := bind_eq_ok_iff.mp rest
  cases returned
  rw [← ledger_prepareTick, ← ledger_sendUpdates one,
    ledger_sendMrpUpdates two]
  exact requestsNoted_sendKeyFrameRequests updated.2 now

end Sending

end Call

end CallingService.Backend
