import CallingService.Backend.Call.ForwardedMedia

/-!
# The nonces of what a receiver gets

Packets for a receiver are encrypted with its key and with a nonce made of the
SSRC and the sequence number.  No two packets that are forwarded to a receiver
get the same nonce, unless a demux id comes back to the call from which the
receiver has been sent something: its forwarder was dropped when the former
client left, and the new one starts again.
-/

namespace CallingService.Backend

open Foundation Rtp

variable {externals : CallExternals}

namespace Forwarded

/-- What the nonce is made of. -/
def nonce (forwarded : Forwarded) : Ssrc × FullSequenceNumber :=
  (forwarded.outgoingSsrc, forwarded.outgoingSeqnum)

end Forwarded

/-! ## Histories -/

namespace CallEvent

/-- What an event forwards to a receiver. -/
def forwardedTo (receiver : DemuxId) : CallEvent externals → List Forwarded
  | .addClient _ _ _ _ _ => []
  | .dropClient _ _ => []
  | .handleDeviceToSfu _ _ _ => []
  | .handleMediaRtp _ incomingRtp _ result =>
      Call.forwardedBy receiver incomingRtp result
  | .tickForwarding _ => []

/-- The event gives the demux id to a client. -/
def IsJoinOf (demuxId : DemuxId) : CallEvent externals → Prop
  | .addClient joined _ _ _ _ => joined = demuxId
  | .dropClient _ _ => False
  | .handleDeviceToSfu _ _ _ => False
  | .handleMediaRtp _ _ _ _ => False
  | .tickForwarding _ => False

/-- What the event forwards to the receiver belongs to its sender. -/
def Authorized (receiver : DemuxId) (event : CallEvent externals) : Prop :=
  match event with
  | .handleMediaRtp sender incomingRtp _ _ =>
      event.forwardedTo receiver ≠ [] →
        DemuxId.fromSsrc incomingRtp.ssrc = sender
  | _ => True

end CallEvent

def forwardedTo (receiver : DemuxId) (events : List (CallEvent externals)) :
    List Forwarded :=
  events.flatMap (CallEvent.forwardedTo receiver)

/-- A demux id is given to a client only if nobody in the call has it. -/
def AddsUnused (before : Call externals) : CallEvent externals → Prop
  | .addClient demuxId _ _ _ _ => before.hasClient demuxId = false
  | _ => True

/-- A step after which the receiver is active. -/
def StepKeeping (receiver : DemuxId) (before : Call externals)
    (event : CallEvent externals) (after : Call externals) : Prop :=
  CallStep before event after ∧ after.IsActive receiver

/-- A sender repeats a packet only after its demux id has been given to a new
client; retransmissions aside. -/
def DistinctPerJoin (earlier : List (CallEvent externals)) :
    CallEvent externals → Prop
  | .handleMediaRtp sender incomingRtp _ _ =>
      incomingRtp.isRtx = false →
        ∀ past packet now result between,
          earlier = past ++ .handleMediaRtp sender packet now result ::
            between →
          packet.isRtx = false → packet.ssrc = incomingRtp.ssrc →
          packet.seqnum = incomingRtp.seqnum →
            ∃ event ∈ between, event.IsJoinOf sender
  | _ => True

/-- A demux id is given to a client only if nothing has been forwarded from it
to the receiver. -/
def NotReused (receiver : DemuxId) (earlier : List (CallEvent externals)) :
    CallEvent externals → Prop
  | .addClient demuxId _ _ _ _ =>
      ∀ entry ∈ forwardedTo receiver earlier,
        DemuxId.fromSsrc entry.incomingSsrc ≠ demuxId
  | _ => True

variable {receiver : DemuxId}

theorem forwardedTo_snoc (events : List (CallEvent externals))
    (event : CallEvent externals) :
    forwardedTo receiver (events ++ [event]) =
      forwardedTo receiver events ++ event.forwardedTo receiver := by
  simp [forwardedTo]

variable {sender : DemuxId} {incomingRtp : Packet} {now : Instant}
variable {entry : Forwarded}

/-- A new packet has not been forwarded before. -/
theorem not_forwarded_before {past : List (CallEvent externals)}
    {result : Except (CallError externals) (List RtpToSend)}
    (fresh : DistinctPerJoin past
      (.handleMediaRtp sender incomingRtp now result))
    (original : incomingRtp.isRtx = false)
    (isSender : DemuxId.fromSsrc incomingRtp.ssrc = sender)
    (notReused : Throughout (NotReused receiver) past)
    (authorized : ∀ event ∈ past, event.Authorized receiver)
    (member : entry ∈ forwardedTo receiver past)
    (sameSsrc : entry.incomingSsrc = incomingRtp.ssrc) :
    entry.incomingSeqnum ≠ incomingRtp.seqnum := by
  intro sameSeqnum
  obtain ⟨event, isPast, isEntry⟩ := List.mem_flatMap.mp member
  have honest := authorized event isPast
  obtain ⟨before, between, rfl⟩ := List.append_of_mem isPast
  cases event with
  | handleMediaRtp other packet then_ answer =>
      have sent : CallEvent.forwardedTo receiver
          (.handleMediaRtp other packet then_ answer) ≠ [] :=
        List.ne_nil_of_mem isEntry
      have isOther := honest sent
      obtain ⟨packetOriginal, isSsrc, isSeqnum⟩ := Call.mem_forwardedBy isEntry
      have sameOwner : sender = other := by
        rw [← isOther, ← isSender, ← isSsrc, sameSsrc]
      subst sameOwner
      obtain ⟨join, isBetween, isJoin⟩ := fresh original before packet then_
        answer between rfl packetOriginal (isSsrc.symm.trans sameSsrc)
        (isSeqnum.symm.trans sameSeqnum)
      obtain ⟨early, late, rfl⟩ := List.append_of_mem isBetween
      -- At that join the demux id was reused.
      have reuse := notReused (before ++
        .handleMediaRtp sender packet then_ answer :: early) join late
        (by simp)
      cases join with
      | addClient joined userId isAdmin region joinedAt =>
          cases isJoin
          apply reuse entry
          · apply List.mem_flatMap.mpr
            exact ⟨_, by simp, isEntry⟩
          · rw [isSsrc]
            exact isOther
      | _ => cases isJoin
  | _ => cases isEntry

/-! ## Runs -/

open Call

variable {start middle finish before after : Call externals}
variable {event : CallEvent externals} {log : List Forwarded}

/-- An event forwards media, or the log still fits. -/
theorem Call.Tracked.media_or_kept (tracked : Tracked receiver log before)
    (unused : AddsUnused before event)
    (fresh : ∀ demuxId, event.IsJoinOf demuxId →
      (log ≠ [] → demuxId ≠ receiver) ∧
        ∀ kind, streamLog kind demuxId log = [])
    (step : CallStep before event after) :
    (∃ sender incomingRtp now result,
      event = .handleMediaRtp sender incomingRtp now result) ∨
    event.forwardedTo receiver = [] ∧ event.Authorized receiver ∧
      Tracked receiver log after := by
  cases event with
  | addClient demuxId userId isAdmin regionRelation now =>
      obtain ⟨notReceiver, notReused⟩ := fresh demuxId rfl
      rw [show after = _ from step]
      exact .inr ⟨rfl, trivial, tracked.addClient unused notReceiver notReused
        userId isAdmin regionRelation now⟩
  | dropClient demuxId now =>
      rw [show after = _ from step]
      exact .inr ⟨rfl, trivial, tracked.dropClient demuxId now⟩
  | handleDeviceToSfu proto sender now =>
      rw [show after = _ from step]
      exact .inr ⟨rfl, trivial, tracked.handleDeviceToSfu proto sender now⟩
  | handleMediaRtp sender incomingRtp now result =>
      exact .inl ⟨sender, incomingRtp, now, result, rfl⟩
  | tickForwarding now =>
      rw [show after = _ from step]
      exact .inr ⟨rfl, trivial, tracked.tickForwarding now⟩

/-- Whatever happened before, an empty log fits. -/
theorem tracked_of_run {past : List (CallEvent externals)}
    (isNew : IsNewCall start)
    (reached : Run (Guarded AddsUnused CallStep) start past middle) :
    Tracked receiver [] middle := by
  apply reached.invariant
  · obtain ⟨_, _, _, _, _, _, _, _, _, _, rfl⟩ := isNew
    refine ⟨List.nodup_nil, ?_, fun used => absurd rfl used, ?_⟩
    · intro client member
      cases member
    · intro client member
      cases member
  · intro before event after tracked step
    obtain ⟨unused, taken⟩ := step
    have fresh : ∀ demuxId, event.IsJoinOf demuxId →
        (([] : List Forwarded) ≠ [] → demuxId ≠ receiver) ∧
          ∀ kind, streamLog kind demuxId [] = [] :=
      fun _ _ => ⟨fun used => absurd rfl used, fun _ => rfl⟩
    rcases tracked.media_or_kept unused fresh taken with
      ⟨sender, incomingRtp, now, result, rfl⟩ | ⟨_, _, kept⟩
    · exact tracked.handleMediaRtp_nil taken
    · exact kept

/-- What holds of everything that has been forwarded to an active receiver. -/
structure NonceHistory (receiver : DemuxId) (past : List (CallEvent externals))
    (call : Call externals) : Prop where
  tracked : Tracked receiver (forwardedTo receiver past) call
  isActive : call.IsActive receiver
  authorized : ∀ event ∈ past, event.Authorized receiver
  owners : ∀ entry ∈ forwardedTo receiver past,
    entry.sender = DemuxId.fromSsrc entry.incomingSsrc
  distinct : ((forwardedTo receiver past).map Forwarded.nonce).Nodup

variable {past : List (CallEvent externals)}

/-- A join that takes a demux id that nobody has and that has not been heard
of. -/
theorem NonceHistory.fresh_join (history : NonceHistory receiver past before)
    (unused : AddsUnused before event)
    (notReused : NotReused receiver past event) {demuxId : DemuxId}
    (isJoin : event.IsJoinOf demuxId) :
    demuxId ≠ receiver ∧
      ∀ kind, streamLog kind demuxId (forwardedTo receiver past) = [] := by
  cases event with
  | addClient joined userId isAdmin regionRelation now =>
      cases isJoin
      constructor
      · intro isReceiver
        obtain ⟨client, member, named⟩ := isActive_iff.mp history.isActive
        have isIn := (Roster.participates_of_active member).mem_demuxIds
        rw [named, ← isReceiver] at isIn
        exact absurd (mem_demuxIds.mp isIn) (Bool.eq_false_iff.mp unused)
      · apply streamLog_eq_nil
        intro entry member
        rw [history.owners entry member]
        exact notReused entry member
  | _ => cases isJoin

/-- A packet that has just been forwarded has a nonce of its own. -/
theorem NonceHistory.new_nonce (history : NonceHistory receiver past before)
    {result : Except (CallError externals) (List RtpToSend)}
    (just : JustForwarded incomingRtp sender
      (forwardedTo receiver past ++ [entry]) entry)
    (fresh : DistinctPerJoin past
      (.handleMediaRtp sender incomingRtp now result))
    (notReused : Throughout (NotReused receiver) past) :
    entry.nonce ∉ (forwardedTo receiver past).map Forwarded.nonce := by
  intro repeated
  obtain ⟨old, member, same⟩ := List.mem_map.mp repeated
  obtain ⟨kind, state, onStream, tracks⟩ := just.stream
  have sameSsrc : old.outgoingSsrc = entry.outgoingSsrc :=
    congrArg Prod.fst same
  have sameSeqnum : old.outgoingSeqnum = entry.outgoingSeqnum :=
    congrArg Prod.snd same
  have oldNumber := mem_streamLog
    (List.mem_append_left [entry] member) (sameSsrc.trans onStream)
  have newNumber := mem_streamLog
    (List.mem_append_right (forwardedTo receiver past)
      (List.mem_singleton_self entry)) onStream
  obtain ⟨fromSsrc, fromSeqnum⟩ :=
    tracks.faithful _ oldNumber _ newNumber sameSeqnum
  apply not_forwarded_before fresh just.original just.isSender notReused
    history.authorized member
  · exact fromSsrc.trans just.ssrc
  · exact fromSeqnum.trans just.seqnum

theorem Call.JustForwarded.owner
    (just : JustForwarded incomingRtp sender log entry) :
    entry.sender = DemuxId.fromSsrc entry.incomingSsrc := by
  obtain ⟨kind, _, onStream, _⟩ := just.stream
  unfold Forwarded.sender
  rw [onStream, just.ssrc, just.isSender]
  exact LayerId.demuxId_fromSsrc_toSsrc kind.layer sender

theorem NonceHistory.quiet (history : NonceHistory receiver past before)
    (nothing : event.forwardedTo receiver = [])
    (authorized : event.Authorized receiver)
    (tracked : Tracked receiver (forwardedTo receiver past) after)
    (isActive : after.IsActive receiver) :
    NonceHistory receiver (past ++ [event]) after := by
  have same : forwardedTo receiver (past ++ [event]) =
      forwardedTo receiver past := by
    rw [forwardedTo_snoc, nothing, List.append_nil]
  refine ⟨?_, isActive, ?_, ?_, ?_⟩
  · rw [same]
    exact tracked
  · intro other member
    rcases List.mem_append.mp member with old | new
    · exact history.authorized other old
    · rw [List.mem_singleton] at new
      rw [new]
      exact authorized
  · rw [same]
    exact history.owners
  · rw [same]
    exact history.distinct

theorem NonceHistory.media (history : NonceHistory receiver past before)
    {result : Except (CallError externals) (List RtpToSend)}
    (forwarded : Call.forwardedBy receiver incomingRtp result = [entry])
    (just : JustForwarded incomingRtp sender
      (forwardedTo receiver past ++ [entry]) entry)
    (newNonce : entry.nonce ∉ (forwardedTo receiver past).map Forwarded.nonce)
    (tracked : Tracked receiver (forwardedTo receiver past ++ [entry]) after)
    (isActive : after.IsActive receiver) :
    NonceHistory receiver
      (past ++ [.handleMediaRtp sender incomingRtp now result]) after := by
  have grown : forwardedTo receiver
      (past ++ [.handleMediaRtp sender incomingRtp now result]) =
        forwardedTo receiver past ++ [entry] := by
    rw [forwardedTo_snoc]
    exact congrArg _ forwarded
  refine ⟨?_, isActive, ?_, ?_, ?_⟩
  · rw [grown]
    exact tracked
  · intro other member
    rcases List.mem_append.mp member with old | new
    · exact history.authorized other old
    · rw [List.mem_singleton] at new
      rw [new]
      exact fun _ => just.isSender
  · rw [grown]
    intro other member
    rcases List.mem_append.mp member with old | new
    · exact history.owners other old
    · rw [List.mem_singleton] at new
      rw [new]
      exact just.owner
  · rw [grown, List.map_append, List.nodup_append]
    refine ⟨history.distinct, List.nodup_singleton _, ?_⟩
    intro nonce isOld other isNew same
    rw [List.map_singleton, List.mem_singleton] at isNew
    rw [same, isNew] at isOld
    exact newNonce isOld

theorem nonceHistory_of_run {events : List (CallEvent externals)}
    (isNew : IsNewCall start)
    (reached : Run (Guarded AddsUnused CallStep) start past middle)
    (isActive : middle.IsActive receiver)
    (continued : Run (Guarded AddsUnused (StepKeeping receiver)) middle events
      finish)
    (distinct : Throughout DistinctPerJoin events)
    (notReused : Throughout (NotReused receiver) events) :
    NonceHistory receiver events finish := by
  induction continued with
  | nil =>
      refine ⟨tracked_of_run isNew reached, isActive, ?_, ?_, List.nodup_nil⟩
      · intro event member
        cases member
      · intro entry member
        cases member
  | @snoc earlier event before after _ step ih =>
      obtain ⟨unused, taken, stillActive⟩ := step
      obtain ⟨distinctBefore, distinctLast⟩ := throughout_snoc.mp distinct
      obtain ⟨notReusedBefore, notReusedLast⟩ := throughout_snoc.mp notReused
      have history := ih distinctBefore notReusedBefore
      have fresh : ∀ demuxId, event.IsJoinOf demuxId →
          (forwardedTo receiver earlier ≠ [] → demuxId ≠ receiver) ∧
            ∀ kind, streamLog kind demuxId (forwardedTo receiver earlier) =
              [] := by
        intro demuxId isJoin
        have joins := history.fresh_join unused notReusedLast isJoin
        exact ⟨fun _ => joins.1, joins.2⟩
      rcases history.tracked.media_or_kept unused fresh taken with
        ⟨sender, incomingRtp, now, result, rfl⟩ | ⟨nothing, authorized, kept⟩
      · obtain ⟨tracked, none | ⟨entry, isEntry, just⟩⟩ :=
          history.tracked.handleMediaRtp history.isActive taken
        · rw [none, List.append_nil] at tracked
          exact history.quiet none (fun sent => absurd none sent) tracked
            stillActive
        · rw [isEntry] at tracked
          have newNonce := history.new_nonce just distinctLast notReusedBefore
          exact history.media isEntry just newNonce tracked stillActive
      · exact history.quiet nothing authorized kept stillActive

/-- Everything that is forwarded to a receiver while it stays active gets a
nonce of its own. -/
theorem forwarded_nonces_distinct {events : List (CallEvent externals)}
    (isNew : IsNewCall start)
    (reached : Run (Guarded AddsUnused CallStep) start past middle)
    (isActive : middle.IsActive receiver)
    (continued : Run (Guarded AddsUnused (StepKeeping receiver)) middle events
      finish)
    (distinct : Throughout DistinctPerJoin events)
    (notReused : Throughout (NotReused receiver) events) :
    ((forwardedTo receiver events).map Forwarded.nonce).Nodup :=
  (nonceHistory_of_run isNew reached isActive continued distinct
    notReused).distinct

/-! ## Two runs -/

instance (call : Call externals) (demuxId : DemuxId) :
    Decidable (call.IsActive demuxId) :=
  inferInstanceAs (Decidable (∃ client ∈ call.clients,
    client.demuxId = demuxId))

/-- The outcome of a packet that is handled without a panic. -/
def afterPacket (call : Call directExternals) (sender : DemuxId)
    (incomingRtp : Packet) (now : Instant) :
    Except (CallError directExternals) (List RtpToSend) ×
      Call directExternals :=
  match call.handleMediaRtp sender incomingRtp now with
  | .error _ => (.ok [], call)
  | .ok outcome => outcome

theorem callStep_afterPacket {call : Call directExternals}
    (handled : (call.handleMediaRtp sender incomingRtp now).isOk = true) :
    CallStep call
      (.handleMediaRtp sender incomingRtp now
        (afterPacket call sender incomingRtp now).1)
      (afterPacket call sender incomingRtp now).2 := by
  unfold afterPacket
  change call.handleMediaRtp sender incomingRtp now = _
  cases outcome : call.handleMediaRtp sender incomingRtp now with
  | error panic =>
      rw [outcome] at handled
      cases handled
  | ok pair => rfl

def listener : DemuxId := DemuxId.fromSsrc 16
def speaker : DemuxId := DemuxId.fromSsrc 32
def newcomer : DemuxId := DemuxId.fromSsrc 48

/-- A packet with sound. -/
def soundOf (sender : DemuxId) : Packet :=
  { Packet.withEmptyTag opusPayloadType 5 0 (LayerId.audio.toSsrc sender)
      none none [1] with audioLevel := some 9 }

def conversation : Call directExternals :=
  ((moderatedCall.addClient listener "alice" true .unknown 1).2.addClient
    speaker "bob" true .unknown 2).2

def heard : Call directExternals :=
  (afterPacket conversation speaker (soundOf speaker) 3).2

/-- The speaker leaves, and another client joins under a demux id. -/
def withSuccessor (demuxId : DemuxId) : Call directExternals :=
  ((heard.dropClient speaker 4).addClient demuxId "carol" true .unknown 5).2

def heardAgain (demuxId : DemuxId) : Call directExternals :=
  (afterPacket (withSuccessor demuxId) demuxId (soundOf demuxId) 6).2

def beforeConversation : List (CallEvent directExternals) :=
  [.addClient listener "alice" true .unknown 1,
    .addClient speaker "bob" true .unknown 2]

def soundEvent (call : Call directExternals) (sender : DemuxId)
    (now : Instant) : CallEvent directExternals :=
  .handleMediaRtp sender (soundOf sender) now
    (afterPacket call sender (soundOf sender) now).1

/-- The speaker is heard, and so is its successor. -/
def succession (demuxId : DemuxId) : List (CallEvent directExternals) :=
  [soundEvent conversation speaker 3, .dropClient speaker 4,
    .addClient demuxId "carol" true .unknown 5,
    soundEvent (withSuccessor demuxId) demuxId 6]

theorem run_conversation :
    Run (Guarded AddsUnused CallStep) moderatedCall beforeConversation
      conversation := by
  have joins : Guarded AddsUnused CallStep moderatedCall
      (.addClient listener "alice" true .unknown 1)
      (moderatedCall.addClient listener "alice" true .unknown 1).2 :=
    ⟨rfl, rfl⟩
  have joinsToo : Guarded AddsUnused CallStep
      (moderatedCall.addClient listener "alice" true .unknown 1).2
      (.addClient speaker "bob" true .unknown 2) conversation := by
    refine ⟨?_, rfl⟩
    change Call.hasClient _ speaker = false
    decide +kernel
  exact .snoc (.snoc .nil joins) joinsToo

theorem run_succession {demuxId : DemuxId}
    (unused : (heard.dropClient speaker 4).hasClient demuxId = false)
    (handled : ((withSuccessor demuxId).handleMediaRtp demuxId (soundOf demuxId)
      6).isOk = true)
    (hears : (withSuccessor demuxId).IsActive listener)
    (stays : (heardAgain demuxId).IsActive listener) :
    Run (Guarded AddsUnused (StepKeeping listener)) conversation
      (succession demuxId) (heardAgain demuxId) := by
  have isHeard : Guarded AddsUnused (StepKeeping listener) conversation
      (soundEvent conversation speaker 3) heard := by
    refine ⟨trivial, callStep_afterPacket ?_, ?_⟩
    · decide +kernel
    · decide +kernel
  have leaves : Guarded AddsUnused (StepKeeping listener) heard
      (.dropClient speaker 4) (heard.dropClient speaker 4) := by
    refine ⟨trivial, rfl, ?_⟩
    decide +kernel
  have joins : Guarded AddsUnused (StepKeeping listener)
      (heard.dropClient speaker 4)
      (.addClient demuxId "carol" true .unknown 5) (withSuccessor demuxId) :=
    ⟨unused, rfl, hears⟩
  have isHeardAgain : Guarded AddsUnused (StepKeeping listener)
      (withSuccessor demuxId) (soundEvent (withSuccessor demuxId) demuxId 6)
      (heardAgain demuxId) :=
    ⟨trivial, callStep_afterPacket handled, stays⟩
  exact .snoc (.snoc (.snoc (.snoc .nil isHeard) leaves) joins) isHeardAgain

/-- The packets of the speaker and of its successor belong to two joins. -/
theorem distinct_succession (demuxId : DemuxId) :
    Throughout DistinctPerJoin (succession demuxId) := by
  have first : Throughout DistinctPerJoin
      [soundEvent conversation speaker 3] := by
    refine throughout_snoc.mpr ⟨throughout_nil, ?_⟩
    intro _ past packet now result between split
    simp at split
  have second : Throughout DistinctPerJoin
      [soundEvent conversation speaker 3, .dropClient speaker 4] := by
    refine throughout_snoc.mpr ⟨first, ?_⟩
    trivial
  have third : Throughout DistinctPerJoin
      [soundEvent conversation speaker 3, .dropClient speaker 4,
        .addClient demuxId "carol" true .unknown 5] := by
    refine throughout_snoc.mpr ⟨second, ?_⟩
    trivial
  refine throughout_snoc.mpr ⟨third, ?_⟩
  intro _ past packet now result between split _ _ _
  refine ⟨.addClient demuxId "carol" true .unknown 5, ?_, rfl⟩
  cases past with
  | nil =>
      cases split
      simp
  | cons event rest => simp [List.cons_eq_append_iff] at split

theorem notReused_succession :
    Throughout (NotReused listener) (succession newcomer) := by
  have first : Throughout (NotReused listener)
      [soundEvent conversation speaker 3] := by
    refine throughout_snoc.mpr ⟨throughout_nil, ?_⟩
    trivial
  have second : Throughout (NotReused listener)
      [soundEvent conversation speaker 3, .dropClient speaker 4] := by
    refine throughout_snoc.mpr ⟨first, ?_⟩
    trivial
  have third : Throughout (NotReused listener)
      [soundEvent conversation speaker 3, .dropClient speaker 4,
        .addClient newcomer "carol" true .unknown 5] := by
    refine throughout_snoc.mpr ⟨second, ?_⟩
    change ∀ entry ∈ forwardedTo listener _,
      DemuxId.fromSsrc entry.incomingSsrc ≠ newcomer
    decide +kernel
  refine throughout_snoc.mpr ⟨third, ?_⟩
  trivial

/-- The successor has a demux id of its own. -/
theorem forwarded_nonces_distinct_newcomer :
    ((forwardedTo listener (succession newcomer)).map
      Forwarded.nonce).Nodup ∧
    (forwardedTo listener (succession newcomer)).length = 2 := by
  refine ⟨?_, by decide +kernel⟩
  apply forwarded_nonces_distinct isNewCall_moderatedCall run_conversation _ _
    (distinct_succession newcomer) notReused_succession
  · exact heardAgain newcomer
  · decide +kernel
  · apply run_succession
    · decide +kernel
    · decide +kernel
    · decide +kernel
    · decide +kernel

/-- The successor gets the demux id of the speaker, and its first packet the
nonce of the first packet of the speaker. -/
theorem nonce_repeated_after_rejoin :
    ¬ ∀ (start middle finish : Call directExternals)
        (past events : List (CallEvent directExternals))
        (receiver : DemuxId),
      IsNewCall start →
      Run (Guarded AddsUnused CallStep) start past middle →
      middle.IsActive receiver →
      Run (Guarded AddsUnused (StepKeeping receiver)) middle events finish →
      Throughout DistinctPerJoin events →
        ((forwardedTo receiver events).map Forwarded.nonce).Nodup := by
  intro claimed
  have run : Run (Guarded AddsUnused (StepKeeping listener)) conversation
      (succession speaker) (heardAgain speaker) := by
    apply run_succession
    · decide +kernel
    · decide +kernel
    · decide +kernel
    · decide +kernel
  have isActive : conversation.IsActive listener := by decide +kernel
  have distinct := claimed _ _ _ _ _ listener isNewCall_moderatedCall
    run_conversation isActive run (distinct_succession speaker)
  have repeated : (forwardedTo listener (succession speaker)).map
      Forwarded.nonce = [(32, 5), (32, 5)] := by decide +kernel
  rw [repeated] at distinct
  simp at distinct

end CallingService.Backend
