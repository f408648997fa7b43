import CallingService.Backend.Call.Ledger

/-!
# The active speaker

Now and then a tick chooses the active client with the most active audio.
Nothing else that a tick does has an influence on that choice, nor on the
layers that the others want of the chosen one.
-/

namespace CallingService.Backend

open Foundation Rtp

variable {externals : CallExternals}

/-- What the choice reads of a client. -/
structure SpeakerView where
  demuxId : DemuxId
  incomingAudioLevels : LevelsTracker
  baseLayerHeight : Option VideoHeight
  activeSpeakerHeight : UInt16

def Client.speakerView (client : Client externals) : SpeakerView where
  demuxId := client.demuxId
  incomingAudioLevels := client.incomingAudioLevels
  baseLayerHeight := (client.incomingVideo LayerId.baseLayerIndex).height
  activeSpeakerHeight := client.activeSpeakerHeight

namespace Call

def speakerViews (call : Call externals) : List SpeakerView :=
  call.clients.map Client.speakerView

theorem speakerViews_modifyClient {call : Call externals} {demuxId : DemuxId}
    {change : Client externals → Client externals}
    (kept : ∀ client, (change client).speakerView = client.speakerView) :
    (call.modifyClient demuxId change).speakerViews = call.speakerViews :=
  map_modifyFirst fun _ => kept _

theorem speakerViews_allocateForReceivers (call : Call externals)
    (receivers : List (Client externals)) (now : Instant) :
    (call.allocateForReceivers receivers now).speakerViews =
      call.speakerViews := by
  unfold allocateForReceivers
  induction receivers generalizing call with
  | nil => rfl
  | cons receiver rest ih =>
      rw [List.foldl_cons, ih]
      exact speakerViews_modifyClient fun _ => rfl

theorem speakerViews_updateIncomingRates (call : Call externals)
    (now : Instant) :
    (call.updateIncomingRates now).speakerViews = call.speakerViews :=
  List.map_map

theorem speakerViews_calculateActiveSpeaker (call : Call externals)
    (now : Instant) :
    (call.calculateActiveSpeaker now).2.speakerViews = call.speakerViews := by
  rcases call.calculateActiveSpeaker_cases now with
    same | ⟨mostActive, _, _, changed⟩
  · rw [same]
  · rw [changed]
    exact speakerViews_modifyClient fun _ => rfl

theorem speakerViews_prepareTick (call : Call externals) (now : Instant) :
    (call.prepareTick now).2.2.speakerViews = call.speakerViews := by
  apply @prepareTick_rule _ fun before after =>
    after.speakerViews = before.speakerViews
  · exact fun one two => two.trans one
  · exact fun _ _ _ => rfl
  · exact speakerViews_updateIncomingRates
  · exact speakerViews_calculateActiveSpeaker
  · exact speakerViews_allocateForReceivers

section Sending

variable {messaging : ServerMessaging externals} {call after : Call externals}
variable {now : Instant} {sent : List RtpToSend}

theorem speakerViews_sendToEach
    {send : Client externals → Except Panic (Client externals × List Packet)}
    (kept : ∀ {client sent}, send client = .ok sent →
      sent.1.speakerView = client.speakerView)
    {clients : List (Client externals)}
    {result : List (Client externals) × List RtpToSend}
    (succeeded : sendToEach Client.demuxId send clients = .ok result) :
    result.1.map Client.speakerView = clients.map Client.speakerView := by
  have pairwise := @forall₂_sendToEach _ Client.demuxId send
    (fun before after => after.speakerView = before.speakerView) kept _ _
    succeeded
  clear succeeded
  generalize result.1 = sentTo at pairwise
  induction pairwise with
  | nil => rfl
  | cons same _ ih => rw [List.map_cons, List.map_cons, same, ih]

theorem speakerView_send {update : Client externals → SfuToDevice}
    {client : Client externals} {sent : Client externals × List Packet}
    (succeeded : client.send messaging update = .ok sent) :
    sent.1.speakerView = client.speakerView := by
  obtain ⟨encoded, _, returned⟩ := bind_eq_ok_iff.mp succeeded
  cases returned
  rfl

theorem speakerViews_sendUpdates
    {clientWasAddedOrRemoved activeSpeakerJustChanged : Bool}
    (succeeded : call.sendUpdates messaging clientWasAddedOrRemoved
      activeSpeakerJustChanged now = .ok (sent, after)) :
    after.speakerViews = call.speakerViews := by
  apply @sendUpdates_rule _ _ _ _ _ _
    (fun before _ after => after.speakerViews = before.speakerViews)
    _ _ _ _ succeeded
  · intro before sent after sends
    cases sends with
    | nobody times => rfl
    | active times isSent _ =>
        exact speakerViews_sendToEach speakerView_send isSent
    | pending times _ _ => rfl
    | removed times _ _ => rfl
  · intro first second third early late one two
    exact two.trans one

end Sending

/-! ## The choice -/

/-- The client that becomes the active speaker at this time. -/
def newActiveSpeaker (call : Call externals) (now : Instant) :
    Option DemuxId :=
  if call.activeSpeakerCalculated + activeSpeakerCalculationInterval <
      now then
    (call.mostActiveSpeaker.map Client.demuxId).filter fun demuxId =>
      call.activeSpeakerId ≠ some demuxId
  else none

theorem calculateActiveSpeaker_eq (call : Call externals) (now : Instant) :
    (call.calculateActiveSpeaker now).1 =
      (call.mostActiveSpeaker.map Client.demuxId).filter fun demuxId =>
        call.activeSpeakerId ≠ some demuxId := by
  unfold calculateActiveSpeaker
  cases call.mostActiveSpeaker with
  | none => rfl
  | some mostActive =>
      dsimp only
      split
      · rename_i same
        simp [same, Option.filter]
      · rename_i different
        simp [different, Option.filter]

theorem newActiveSpeaker_eq (call : Call externals) (now : Instant) :
    (call.calculateActiveSpeakerIfItsBeenTooLong now).1 =
      call.newActiveSpeaker now := by
  unfold calculateActiveSpeakerIfItsBeenTooLong newActiveSpeaker
  split
  · exact calculateActiveSpeaker_eq _ now
  · rfl

theorem mostActiveSpeaker_map {call after : Call externals}
    {change : Client externals → Client externals}
    (clients : after.clients = call.clients.map change)
    (current : after.activeSpeakerId = call.activeSpeakerId)
    (kept : ∀ client, (change client).speakerView = client.speakerView) :
    after.mostActiveSpeaker = call.mostActiveSpeaker.map change := by
  have sameId : ∀ client, (change client).demuxId = client.demuxId :=
    fun client => congrArg SpeakerView.demuxId (kept client)
  have sameLevels : ∀ client, (change client).incomingAudioLevels =
      client.incomingAudioLevels :=
    fun client => congrArg SpeakerView.incomingAudioLevels (kept client)
  have found : ∀ demuxId, after.findClient demuxId =
      (call.findClient demuxId).map change := by
    intro demuxId
    have sameTest : (fun client : Client externals =>
        decide (client.demuxId = demuxId)) ∘ change =
          fun client => decide (client.demuxId = demuxId) := by
      funext client
      rw [Function.comp_apply, sameId]
    unfold findClient
    rw [clients, List.find?_map, sameTest]
  unfold mostActiveSpeaker
  rw [current, clients]
  cases call.clients with
  | nil => rfl
  | cons first rest =>
      have start : (call.activeSpeakerId.bind after.findClient).getD
          (change first) =
          change ((call.activeSpeakerId.bind call.findClient).getD first) := by
        cases call.activeSpeakerId with
        | none => rfl
        | some demuxId =>
            rw [Option.bind_some, Option.bind_some, found]
            cases call.findClient demuxId with
            | none => rfl
            | some client => rfl
      rw [List.map_cons]
      dsimp only
      rw [start, ← List.map_cons, Option.map_some, Option.some_inj]
      generalize (call.activeSpeakerId.bind call.findClient).getD first =
        mostActive
      induction first :: rest generalizing mostActive with
      | nil => rfl
      | cons contender others ih =>
          rw [List.map_cons, List.foldl_cons, List.foldl_cons, ← ih]
          congr 1
          rw [sameId, sameId, sameLevels, sameLevels]
          split
          · rfl
          · rfl

theorem newActiveSpeaker_congr {call after : Call externals} {now : Instant}
    (calculated : after.activeSpeakerCalculated =
      call.activeSpeakerCalculated)
    (current : after.activeSpeakerId = call.activeSpeakerId)
    (chosen : after.mostActiveSpeaker.map Client.demuxId =
      call.mostActiveSpeaker.map Client.demuxId) :
    after.newActiveSpeaker now = call.newActiveSpeaker now := by
  unfold newActiveSpeaker
  rw [calculated, current, chosen]

theorem newActiveSpeaker_updateIncomingRates (call : Call externals)
    (now : Instant) :
    (call.updateIncomingRates now).newActiveSpeaker now =
      call.newActiveSpeaker now := by
  have same := @mostActiveSpeaker_map _ call (call.updateIncomingRates now)
    _ rfl rfl fun _ => rfl
  apply newActiveSpeaker_congr
  · rfl
  · rfl
  · rw [same, Option.map_map]
    rfl

theorem newActiveSpeaker_of_spoken {newActiveSpeaker : Option DemuxId}
    {spoken : Option DemuxId × Call externals} {now : Instant}
    (chosen : spoken.1 = newActiveSpeaker) :
    let noted := spoken.2.noteClientsUpdate now
    let prepared := (noted.1, spoken.1,
      noted.2.reallocateTargetSendRatesIfItsBeenTooLong now)
    prepared.2.1 = newActiveSpeaker := chosen

theorem newActiveSpeaker_prepareTick (call : Call externals)
    (now : Instant) :
    (call.prepareTick now).2.1 = call.newActiveSpeaker now :=
  newActiveSpeaker_of_spoken
    (((call.updateIncomingRates now).newActiveSpeaker_eq now).trans
      (call.newActiveSpeaker_updateIncomingRates now))

end Call

end CallingService.Backend
