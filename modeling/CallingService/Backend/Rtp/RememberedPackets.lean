import CallingService.Common.TwoGenerationCacheIter
import CallingService.Backend.Rtp.Retransmissions

/-!
# Counting the remembered packets

The statistics walk through the cache of sent packets.  A packet that is
retransmitted is remembered anew, under the key of its original; once the
original has aged by a generation, the two copies are counted as two packets.
-/

namespace CallingService.Backend.Rtp

open Foundation

open ExpiringMap (Event)

namespace RtxSender

/-- The number of the packets in the cache and their size.  They are all in
memory, so that neither sum can overflow. -/
def rememberedPacketStats (sender : RtxSender) : Nat × Nat :=
  sender.previouslySentBySeqnum.iter.foldl
    (fun counted entry =>
      (counted.1 + 1, counted.2 + entry.2.serialized.length)) (0, 0)

theorem rememberedPacketStats_eq (sender : RtxSender) :
    sender.rememberedPacketStats =
      (sender.previouslySentBySeqnum.iter.length,
        (sender.previouslySentBySeqnum.iter.map
          fun entry => entry.2.serialized.length).sum) := by
  have counts : ∀ (entries : List (SentKey × Packet)) (counted : Nat × Nat),
      entries.foldl (fun counted entry =>
        (counted.1 + 1, counted.2 + entry.2.serialized.length)) counted =
      (counted.1 + entries.length,
        counted.2 + (entries.map
          fun entry => entry.2.serialized.length).sum) := by
    intro entries
    induction entries with
    | nil => exact fun counted => rfl
    | cons entry rest ih =>
        intro counted
        rw [List.foldl_cons, ih, List.length_cons, List.map_cons,
          List.sum_cons]
        ext
        · exact Nat.add_right_comm ..
        · exact Nat.add_assoc ..
  have counted := counts sender.previouslySentBySeqnum.iter (0, 0)
  rw [Nat.zero_add, Nat.zero_add] at counted
  exact counted

/-- The statistics are those of the packets that a lookup finds. -/
def CountsOnce (sender : RtxSender) : Prop :=
  ∃ remembered : Finset SentKey,
    (∀ key, key ∈ remembered ↔ (sender.find key).isSome) ∧
    sender.rememberedPacketStats =
      (remembered.card, ∑ key ∈ remembered,
        ((sender.find key).map (·.serialized.length)).getD 0)

theorem countsOnce_iff_separate (sender : RtxSender) :
    sender.CountsOnce ↔ sender.previouslySentBySeqnum.Separate := by
  constructor
  · rintro ⟨remembered, mem_remembered, stats⟩
    have same : remembered = sender.previouslySentBySeqnum.keys := by
      ext key
      rw [mem_remembered, TwoGenerationCache.mem_keys]
      rfl
    rw [rememberedPacketStats_eq, same] at stats
    apply (TwoGenerationCache.length_iter_eq_card_keys_iff _).mp
    exact congrArg Prod.fst stats
  · intro separate
    refine ⟨sender.previouslySentBySeqnum.keys,
      TwoGenerationCache.mem_keys _, ?_⟩
    rw [rememberedPacketStats_eq,
      (TwoGenerationCache.length_iter_eq_card_keys_iff _).mpr separate,
      separate.sum_iter fun packet => packet.serialized.length]
    rfl

/-! ## Calls -/

/-- The calls that an endpoint makes, with their arguments. -/
inductive Call where
  | rememberSent (outgoing : Packet) (departed : Instant)
  | resendAsRtx (tccSender : Tcc.Sender) (ssrc : Ssrc)
      (seqnum : TruncatedSequenceNumber) (now : Instant)
  | incrementSeqnum (rtxSsrc : Ssrc)
  | sendPadding (rtxSsrc : Ssrc) (tccSeqnum : FullSequenceNumber)
  | markAsSent (ssrc : Ssrc) (seqnum : TruncatedSequenceNumber)

def perform (sender : RtxSender) (call : Call) : Except Panic RtxSender :=
  match call with
  | .rememberSent outgoing departed =>
      .ok (sender.rememberSent outgoing departed)
  | .resendAsRtx tccSender ssrc seqnum now => do
      let (after, _) ← sender.resendAsRtx tccSender ssrc seqnum now
      return after
  | .incrementSeqnum rtxSsrc => do
      let (after, _) ← sender.incrementSeqnum rtxSsrc
      return after
  | .sendPadding rtxSsrc tccSeqnum => do
      let (after, _) ← sender.sendPadding rtxSsrc tccSeqnum
      return after
  | .markAsSent ssrc seqnum => .ok (sender.markAsSent ssrc seqnum)

def after (limit : Duration) (created : Instant) (calls : List Call) :
    Except Panic RtxSender :=
  calls.foldlM perform (new limit created)

/-- The call remembers a packet under a key that the older generation holds,
after the swap that the insertion makes. -/
def Shadows (sender : RtxSender) (call : Call) : Prop :=
  match call with
  | .rememberSent outgoing departed =>
      outgoing.isPastDeadline departed = false ∧
        outgoing.sentKey ∈ (sender.previouslySentBySeqnum
          |>.swapGenerationsIfItsBeenTooLong departed).1.generation1
  | _ => False

section Calls

variable {before after : RtxSender}

theorem separate_rememberSent
    (separate : before.previouslySentBySeqnum.Separate) (outgoing : Packet)
    (departed : Instant) :
    (before.rememberSent outgoing departed).previouslySentBySeqnum.Separate ↔
      ¬ before.Shadows (.rememberSent outgoing departed) := by
  unfold rememberSent Shadows
  dsimp only
  split
  · rename_i late
    rw [late]
    exact iff_of_true separate (fun shadows => nomatch shadows.1)
  · rename_i inTime
    rw [Bool.not_eq_true] at inTime
    rw [inTime, eq_self, true_and]
    exact separate.perform_iff ⟨departed, .insert outgoing.sentKey outgoing⟩

theorem separate_setPending
    (separate : before.previouslySentBySeqnum.Separate) (key : SentKey)
    (pending : Bool) :
    (before.setPending key pending).previouslySentBySeqnum.Separate :=
  separate.modify key _

theorem separate_incrementSeqnum {rtxSsrc : Ssrc}
    {seqnum : FullSequenceNumber}
    (separate : before.previouslySentBySeqnum.Separate)
    (incremented : before.incrementSeqnum rtxSsrc = .ok (after, seqnum)) :
    after.previouslySentBySeqnum.Separate := by
  obtain ⟨-, rfl⟩ := incrementSeqnum_eq_ok incremented
  exact separate

theorem separate_resendAsRtx {tccBefore tccAfter : Tcc.Sender} {ssrc : Ssrc}
    {seqnum : TruncatedSequenceNumber} {now : Instant}
    {result : Option Packet}
    (separate : before.previouslySentBySeqnum.Separate)
    (resent : before.resendAsRtx tccBefore ssrc seqnum now =
      .ok (after, tccAfter, result)) :
    after.previouslySentBySeqnum.Separate := by
  unfold resendAsRtx at resent
  dsimp only at resent
  split at resent
  · cases resent
    exact separate
  · split at resent
    · cases resent
      exact separate
    · obtain ⟨made, -, rest⟩ := bind_eq_ok_iff.mp resent
      obtain ⟨⟨incremented, drawn⟩, drew, rest⟩ := bind_eq_ok_iff.mp rest
      obtain ⟨stamped, -, returned⟩ := bind_eq_ok_iff.mp rest
      cases returned
      have touched : (before.touchNextSeqnum
          (toRtxSsrc ssrc)).previouslySentBySeqnum.Separate := separate
      exact separate_incrementSeqnum
        (separate_setPending touched (ssrc, seqnum) true) drew

/-- Only a packet that is remembered can give a key to both generations. -/
theorem countsOnce_perform_iff {call : Call} (countsOnce : before.CountsOnce)
    (performed : before.perform call = .ok after) :
    after.CountsOnce ↔ ¬ before.Shadows call := by
  rw [countsOnce_iff_separate] at countsOnce ⊢
  cases call with
  | rememberSent outgoing departed =>
      cases performed
      exact separate_rememberSent countsOnce outgoing departed
  | resendAsRtx tccSender ssrc seqnum now =>
      obtain ⟨result, resent, returned⟩ := bind_eq_ok_iff.mp performed
      cases returned
      exact iff_of_true (separate_resendAsRtx countsOnce resent) not_false
  | incrementSeqnum rtxSsrc =>
      obtain ⟨result, drew, returned⟩ := bind_eq_ok_iff.mp performed
      cases returned
      exact iff_of_true (separate_incrementSeqnum countsOnce drew) not_false
  | sendPadding rtxSsrc tccSeqnum =>
      obtain ⟨result, padded, returned⟩ := bind_eq_ok_iff.mp performed
      cases returned
      obtain ⟨incremented, drew, returned⟩ := bind_eq_ok_iff.mp padded
      cases returned
      exact iff_of_true (separate_incrementSeqnum countsOnce drew) not_false
  | markAsSent ssrc seqnum =>
      cases performed
      exact iff_of_true (separate_setPending countsOnce (ssrc, seqnum) false)
        not_false

end Calls

/-! ## Runs -/

theorem countsOnce_new (limit : Duration) (created : Instant) :
    (new limit created).CountsOnce :=
  (countsOnce_iff_separate _).mpr
    (TwoGenerationCache.separate_new limit created)

theorem after_append_singleton_eq_ok_iff {limit : Duration}
    {created : Instant} {past : List Call} {call : Call}
    {finish : RtxSender} :
    after limit created (past ++ [call]) = .ok finish ↔
      ∃ sender, after limit created past = .ok sender ∧
        sender.perform call = .ok finish := by
  unfold after
  rw [List.foldlM_append, bind_eq_ok_iff]
  simp only [List.foldlM_cons, List.foldlM_nil, bind_pure]

end RtxSender

/-- What an iteration finds in the cache, and what the sender counts with it,
is right in all states of a run exactly if nothing is stored in the younger
generation that the older one holds. -/
theorem remembered_packets_counted_once_iff {K V : Type} [DecidableEq K]
    (generationLifetime : Duration) (created : Instant)
    (events : List (Event K V)) (calls : List RtxSender.Call) :
    ((∀ past, past <+: events →
        (TwoGenerationCache.after generationLifetime created
          past).YieldsOnce) ↔
      Throughout (fun past event =>
        ¬ (TwoGenerationCache.after generationLifetime created past).Shadows
          event) events) ∧
    ((∀ past, past <+: calls → ∀ sender,
        RtxSender.after generationLifetime created past = .ok sender →
          sender.CountsOnce) ↔
      Throughout (fun past call => ∀ sender,
        RtxSender.after generationLifetime created past = .ok sender →
          ¬ sender.Shadows call) calls) := by
  refine ⟨TwoGenerationCache.yieldsOnce_after_iff _ _ events, ?_⟩
  apply forall_prefix_iff_throughout
  · intro sender begun
    cases begun
    exact RtxSender.countsOnce_new generationLifetime created
  · intro past call countsOnce
    constructor
    · intro always sender reached shadows
      cases call with
      | rememberSent outgoing departed =>
          have next := always _ (RtxSender.after_append_singleton_eq_ok_iff.mpr
            ⟨sender, reached, rfl⟩)
          have performed : sender.perform (.rememberSent outgoing departed) =
              .ok (sender.rememberSent outgoing departed) := rfl
          exact (RtxSender.countsOnce_perform_iff (countsOnce sender reached)
            performed).mp next shadows
      | resendAsRtx tccSender ssrc seqnum now => exact shadows
      | incrementSeqnum rtxSsrc => exact shadows
      | sendPadding rtxSsrc tccSeqnum => exact shadows
      | markAsSent ssrc seqnum => exact shadows
    · intro fresh finish reached
      obtain ⟨sender, before, performed⟩ :=
        RtxSender.after_append_singleton_eq_ok_iff.mp reached
      exact (RtxSender.countsOnce_perform_iff (countsOnce sender before)
        performed).mpr (fresh sender before)

/-- A video frame, received and sent at the same time. -/
def videoFrame (seqnum : FullSequenceNumber) (received : Instant) : Packet :=
  .withEmptyTag vp8PayloadType seqnum 0 2 none (some received) [1, 2, 3]

def resentVideoFrame : Packet :=
  let pending :=
    { videoFrame 11 (fromSecs 2) with pendingRetransmission := true }
  (pending.toRtx 1).toOption.getD pending

def callsBeforeResending : List RtxSender.Call :=
  [.rememberSent (videoFrame 11 (fromSecs 2)) (fromSecs 2),
    .rememberSent (videoFrame 12 (fromSecs 3)) (fromSecs 3)]

def callsOfResending : List RtxSender.Call :=
  [.resendAsRtx (.new 0) 2 11 (fromSecs 4),
    .rememberSent resentVideoFrame (fromSecs 4)]

/-- The second frame makes the first one old, so that its retransmission is
counted beside it. -/
theorem resent_frame_counted_twice :
    ¬ (TwoGenerationCache.after 10 0
        [⟨1, .insert 7 70⟩, ⟨12, .insert 7 71⟩] :
          TwoGenerationCache Nat Nat).YieldsOnce ∧
    (do
      let sender ← RtxSender.after packetLifetime 0 callsBeforeResending
      let resent ← sender.resendAsRtx (.new 0) 2 11 (fromSecs 4)
      return resent.2.2) = .ok (some resentVideoFrame) ∧
    ∃ sender,
      RtxSender.after packetLifetime 0
        (callsBeforeResending ++ callsOfResending) = .ok sender ∧
      sender.rememberedPacketStats = (3, 95) ∧
      sender.previouslySentBySeqnum.keys = {(2, 11), (2, 12)} ∧
      ¬ sender.CountsOnce := by
  refine ⟨?_, by decide +kernel, ?_⟩
  · intro yieldsOnce
    have twice := yieldsOnce.once 7 rfl
    revert twice
    decide
  · have counted : (do
        let sender ← RtxSender.after packetLifetime 0
          (callsBeforeResending ++ callsOfResending)
        return (sender.rememberedPacketStats,
          sender.previouslySentBySeqnum.iter.map Prod.fst)) =
        .ok ((3, 95), [(2, 11), (2, 12), (2, 11)]) := by decide +kernel
    obtain ⟨sender, reached, returned⟩ := bind_eq_ok_iff.mp counted
    obtain ⟨stats, yielded⟩ := Prod.mk.inj (Except.ok.inj returned)
    have keys : sender.previouslySentBySeqnum.keys = {(2, 11), (2, 12)} := by
      rw [TwoGenerationCache.keys, yielded]
      decide
    refine ⟨sender, reached, stats, keys, ?_⟩
    rw [RtxSender.rememberedPacketStats_eq] at stats
    have three : sender.previouslySentBySeqnum.iter.length = 3 :=
      congrArg Prod.fst stats
    rw [RtxSender.countsOnce_iff_separate,
      ← TwoGenerationCache.length_iter_eq_card_keys_iff, three, keys]
    decide

end CallingService.Backend.Rtp
