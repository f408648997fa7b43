import CallingService.Backend.Call.ForwardedNonces

/-!
# Media that is refused

The SSRC of a packet is checked against its sender before anything else, so
that nobody can influence the active speaker in the name of another client.
The layer of an audio or data packet is checked later than its level is taken
over: a packet that is refused for its layer leaves the level behind, unless
the sender has been silent for long and stays silent.
-/

namespace CallingService.Backend

open Foundation Rtp

/-! ## Levels that change nothing -/

/-- A sample of the floor is lost only if it is ignored. -/
theorem LevelFloorTracker.update_eq_self_iff {arithmetic : TrackerArithmetic}
    {tracker : LevelFloorTracker} {sample : Level} :
    tracker.update arithmetic sample = tracker ↔ sample = 0 := by
  unfold update
  constructor
  · intro same
    by_contra notMuted
    rw [if_neg notMuted] at same
    obtain ⟨floor, floorSinceReset, samplesSinceReset⟩ := tracker
    cases floor with
    | none => cases same
    | some floor =>
        dsimp only at same
        split at same
        · rename_i less
          have isFloor : some sample = some floor :=
            congrArg LevelFloorTracker.floor same
          cases isFloor
          exact absurd less (UInt8.lt_irrefl sample)
        · unfold track at same
          cases floorSinceReset with
          | none => cases same
          | some since =>
              dsimp only at same
              split at same
              · have forgotten : none = some since :=
                  congrArg LevelFloorTracker.floorSinceReset same
                cases forgotten
              · have counted : samplesSinceReset + 1 = samplesSinceReset :=
                  congrArg LevelFloorTracker.samplesSinceReset same
                exact absurd counted (Nat.succ_ne_self _)
  · rintro rfl
    rfl

namespace LevelsTracker

/-- The ring buffer is full and holds nothing but silence. -/
def RemembersSilence (tracker : LevelsTracker) : Prop :=
  limit ≤ tracker.levels.length ∧ ∀ level ∈ tracker.levels, level = 0

theorem pushLevel_eq_self_iff {levels : List Level} {sample : Level} :
    pushLevel levels sample = levels ↔
      limit ≤ levels.length ∧ ∀ level ∈ levels, level = sample := by
  have longer : (levels ++ [sample]).length = levels.length + 1 :=
    List.length_append
  unfold pushLevel
  dsimp only
  rw [longer]
  split
  · rename_i full
    cases levels with
    | nil => exact absurd full (by decide)
    | cons oldest rest =>
        rw [List.cons_append, List.drop_one, List.tail_cons,
          concat_eq_cons_iff]
        exact (and_iff_right (Nat.le_of_lt_succ full)).symm
  · rename_i notFull
    constructor
    · intro same
      rw [same] at longer
      exact absurd longer (Nat.succ_ne_self _).symm
    · rintro ⟨full, _⟩
      exact absurd (Nat.lt_succ_of_le full) notFull

theorem push_eq_self_iff {arithmetic : TrackerArithmetic}
    {tracker : LevelsTracker} {sample : Level} :
    tracker.push arithmetic sample = tracker ↔
      sample = 0 ∧ tracker.RemembersSilence := by
  constructor
  · intro same
    have sameFloor : tracker.floor.update arithmetic sample = tracker.floor :=
      congrArg LevelsTracker.floor same
    have muted := LevelFloorTracker.update_eq_self_iff.mp sameFloor
    subst muted
    have sameLevels : pushLevel tracker.levels (if 0 ≤ _ then 0 else 0) =
        tracker.levels := congrArg LevelsTracker.levels same
    rw [ite_self] at sameLevels
    exact ⟨rfl, pushLevel_eq_self_iff.mp sameLevels⟩
  · rintro ⟨rfl, silent⟩
    unfold push
    dsimp only
    rw [ite_self, pushLevel_eq_self_iff.mpr silent]
    rfl

end LevelsTracker

namespace Call

variable {externals : CallExternals}

variable {incomingRtp : Packet}

theorem pushAudioLevel_eq_self_iff {level : Level} {sender : Client externals}
    (isLevel : incomingRtp.audioLevel = some level) :
    pushAudioLevel incomingRtp sender = sender ↔
      level = 0 ∧ sender.incomingAudioLevels.RemembersSilence := by
  rw [← @LevelsTracker.push_eq_self_iff externals.arithmetic]
  unfold pushAudioLevel
  rw [isLevel]
  constructor
  · exact congrArg Client.incomingAudioLevels
  · intro same
    dsimp only
    rw [same]

theorem modifyClient_eq_self_iff {call : Call externals} {demuxId : DemuxId}
    {change : Client externals → Client externals} {client : Client externals}
    (found : call.findClient demuxId = some client) :
    call.modifyClient demuxId change = call ↔ change client = client := by
  rw [← modifyFirst_eq_self_iff found]
  constructor
  · exact congrArg Call.clients
  · intro same
    unfold modifyClient
    rw [same]

/-! ## Refused packets -/

/-- The packet is not for the server. -/
def IsMedia (incomingRtp : Packet) : Prop :=
  ¬ (incomingRtp.ssrc = clientServerDataSsrc ∧
    incomingRtp.payloadType = clientServerDataPayloadType)

/-- The sender, whose SSRC has been checked, sends an audio level that counts
with a packet that is not VP8 and that names no layer. -/
def LeavesLevel (call : Call externals) (senderDemuxId : DemuxId)
    (incomingRtp : Packet) : Prop :=
  IsMedia incomingRtp ∧
  ∃ sender level, call.findClient senderDemuxId = some sender ∧
    DemuxId.fromSsrc incomingRtp.ssrc = senderDemuxId ∧
    incomingRtp.isVideo = false ∧
    incomingRtp.audioLevel = some level ∧
    LayerId.fromSsrc incomingRtp.ssrc = none ∧
    ¬ (level = 0 ∧ sender.incomingAudioLevels.RemembersSilence)

theorem receiveVideo_of_not_isVideo {sender : Client externals} {now : Instant}
    (notVideo : incomingRtp.isVideo = false) :
    receiveVideo sender incomingRtp now = .ok (.ok (none, sender)) := by
  unfold receiveVideo
  rw [if_neg (by rw [notVideo]; exact Bool.false_ne_true)]

/-- The level is pushed and the packet refused. -/
theorem handleMediaRtp_of_leavesLevel {call : Call externals}
    {senderDemuxId : DemuxId} {now : Instant}
    (leaves : call.LeavesLevel senderDemuxId incomingRtp) :
    ∃ after, after ≠ call ∧
      call.handleMediaRtp senderDemuxId incomingRtp now =
        .ok (.error .invalidRtpLayerId, after) := by
  obtain ⟨_, sender, level, found, authorized, notVideo, isLevel, noLayer,
    counts⟩ := leaves
  refine ⟨call.modifyClient senderDemuxId fun _ =>
    pushAudioLevel incomingRtp sender, ?_, ?_⟩
  · rw [Ne, modifyClient_eq_self_iff found, pushAudioLevel_eq_self_iff isLevel]
    exact counts
  · unfold handleMediaRtp
    rw [found]
    dsimp only
    rw [if_neg (not_not.mpr authorized), receiveVideo_of_not_isVideo notVideo,
      ok_bind]
    dsimp only
    unfold forwardFromSender
    rw [noLayer]

/-- A packet without a layer that is not VP8 changes at most the levels. -/
theorem eq_or_leavesLevel {call after : Call externals}
    {senderDemuxId : DemuxId} {now : Instant} {failure : CallError externals}
    (isMedia : IsMedia incomingRtp)
    (refused : call.handleMediaRtp senderDemuxId incomingRtp now =
      .ok (.error failure, after)) :
    after = call ∨ call.LeavesLevel senderDemuxId incomingRtp := by
  rcases handleMediaRtp_eq_ok refused with
    ⟨_, _, same⟩ | ⟨sender, received, found, authorized, parsed, forwarded⟩
  · exact .inl same
  · rcases forwardFromSender_eq_ok forwarded with
      ⟨noLayer, _, rfl⟩ | ⟨_, _, _, _, impossible, _⟩
    · rcases receiveVideo_eq_ok parsed with
        ⟨notVideo, rfl⟩ | ⟨layer, _, isLayer, _⟩
      · cases isLevel : incomingRtp.audioLevel with
        | none =>
            left
            apply (modifyClient_eq_self_iff found).mpr
            unfold pushAudioLevel
            rw [isLevel]
        | some level =>
            by_cases silent : level = 0 ∧
              sender.incomingAudioLevels.RemembersSilence
            · left
              apply (modifyClient_eq_self_iff found).mpr
              exact (pushAudioLevel_eq_self_iff isLevel).mpr silent
            · exact .inr ⟨isMedia, sender, level, found, authorized, notVideo,
                isLevel, noLayer, silent⟩
      · unfold LayerId.layerIndexFromSsrc at isLayer
        rw [noLayer] at isLayer
        cases isLayer
    · cases impossible

theorem handleRtp_of_isMedia {call : Call externals} {senderDemuxId : DemuxId}
    {now : Instant} (isMedia : IsMedia incomingRtp) :
    call.handleRtp senderDemuxId incomingRtp now =
      call.handleMediaRtp senderDemuxId incomingRtp now := if_neg isMedia

end Call

/-- Refused media leaves the call as it is, but for the level of a packet that
names no layer. -/
theorem refused_media_leaves_call_iff {externals : CallExternals}
    (call : Call externals) (senderDemuxId : DemuxId) (incomingRtp : Packet)
    (now : Instant) :
    (Call.IsMedia incomingRtp → ∀ failure after,
      call.handleRtp senderDemuxId incomingRtp now =
        .ok (.error failure, after) → after = call) ↔
      ¬ call.LeavesLevel senderDemuxId incomingRtp := by
  constructor
  · intro unchanged leaves
    obtain ⟨after, different, refused⟩ :=
      @Call.handleMediaRtp_of_leavesLevel _ _ _ _ now leaves
    have isMedia := leaves.1
    rw [← Call.handleRtp_of_isMedia isMedia] at refused
    exact different (unchanged isMedia _ _ refused)
  · intro notLeft isMedia failure after refused
    rw [Call.handleRtp_of_isMedia isMedia] at refused
    exact (Call.eq_or_leavesLevel isMedia refused).resolve_right notLeft

/-- A packet with sound whose SSRC names no layer. -/
def soundWithoutLayer : Packet :=
  { Packet.withEmptyTag opusPayloadType 5 0 33 none none [1] with
    audioLevel := some 9 }

theorem leavesLevel_soundWithoutLayer :
    conversation.LeavesLevel speaker soundWithoutLayer := by
  have isMedia : Call.IsMedia soundWithoutLayer := by
    unfold Call.IsMedia
    decide
  have active : (conversation.findClient speaker).isSome = true := by
    decide +kernel
  obtain ⟨sender, found⟩ := Option.isSome_iff_exists.mp active
  refine ⟨isMedia, sender, 9, found, ?_, rfl, rfl, ?_, ?_⟩
  · decide
  · decide
  · rintro ⟨isMuted, _⟩
    exact absurd isMuted (by decide)

/-- The speaker is refused and has been heard. -/
theorem refused_sound_is_heard :
    ¬ ∀ (call : Call directExternals) (senderDemuxId : DemuxId)
        (incomingRtp : Packet) (now : Instant) failure after,
      Call.IsMedia incomingRtp →
      call.handleRtp senderDemuxId incomingRtp now =
        .ok (.error failure, after) → after = call := by
  intro unchanged
  have leaves := leavesLevel_soundWithoutLayer
  obtain ⟨after, different, refused⟩ :=
    @Call.handleMediaRtp_of_leavesLevel _ _ _ _ 3 leaves
  rw [← Call.handleRtp_of_isMedia leaves.1] at refused
  exact different (unchanged _ _ _ _ _ _ leaves.1 refused)

end CallingService.Backend
