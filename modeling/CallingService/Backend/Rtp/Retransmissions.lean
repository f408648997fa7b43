import CallingService.Backend.Rtp.RtxNonces

/-!
# Pending retransmissions

A retransmission takes the place of its original in the cache, so that the
pending flag is kept in copies.  Until the packet is marked as sent, every
copy that a lookup can find is pending.
-/

namespace CallingService.Backend.Rtp

open Foundation

def Packet.sentKey (packet : Packet) : SentKey :=
  (packet.ssrc, packet.seqnum.toUInt16)

/-- The operations that the cache of sent packets can notice. -/
inductive RetransmissionEvent where
  | sent (key : SentKey)
  | resent (key : SentKey)
  | refused (key : SentKey)
  | marked (key : SentKey)
  | other
deriving DecidableEq, Repr

/-- The operations of one endpoint, at any times.  What is not listed leaves
the RTX sender alone. -/
inductive RetransmissionStep (aead : Aead) :
    Endpoint → RetransmissionEvent → Endpoint → Prop where
  | sendRtp {before after : Endpoint} {incoming : Packet} {now : Instant}
      {result : Option Packet} :
      before.sendRtp aead incoming now = .ok (after, result) →
      RetransmissionStep aead before (.sent incoming.sentKey) after
  | resendRtp {before after : Endpoint} {key : SentKey} {now : Instant}
      {outgoing : Packet} :
      before.resendRtp aead key.1 key.2 now = .ok (after, some outgoing) →
      RetransmissionStep aead before (.resent key) after
  | resendNothing {before after : Endpoint} {key : SentKey} {now : Instant} :
      before.resendRtp aead key.1 key.2 now = .ok (after, none) →
      RetransmissionStep aead before (.refused key) after
  | markAsSent {before : Endpoint} {key : SentKey} :
      RetransmissionStep aead before (.marked key)
        (before.markAsSent key.1 key.2)
  | sendPadding {before after : Endpoint} {rtxSsrc : Ssrc} {now : Instant}
      {result : Option Packet} :
      before.sendPadding aead rtxSsrc now = .ok (after, result) →
      RetransmissionStep aead before .other after
  | elsewhere {before after : Endpoint} :
      after.rtxSender = before.rtxSender →
      RetransmissionStep aead before .other after

/-! ## The cached copies -/

namespace RtxSender

def find (sender : RtxSender) (key : SentKey) : Option Packet :=
  sender.previouslySentBySeqnum.get key

/-- Whatever a lookup finds is pending. -/
def Pending (sender : RtxSender) (key : SentKey) : Prop :=
  ∀ packet, sender.find key = some packet →
    packet.pendingRetransmission = true

/-- What a lookup finds has not been changed, except that it may be gone. -/
def Forgets (before after : RtxSender) (key : SentKey) : Prop :=
  ∀ packet, after.find key = some packet → before.find key = some packet

variable {before middle after sender : RtxSender} {key other : SentKey}

theorem Forgets.refl : Forgets sender sender key := fun _ found => found

theorem Forgets.trans (first : Forgets before middle key)
    (second : Forgets middle after key) : Forgets before after key :=
  fun packet found => first packet (second packet found)

theorem Pending.forgets (pending : before.Pending key)
    (forgets : Forgets before after key) : after.Pending key :=
  fun packet found => pending packet (forgets packet found)

theorem find_rememberSent {outgoing packet : Packet} {departed : Instant}
    (found : (sender.rememberSent outgoing departed).find key =
      some packet) :
    (key = outgoing.sentKey ∧ packet = outgoing) ∨
      sender.find key = some packet := by
  unfold rememberSent at found
  split at found
  · exact .inr found
  · exact TwoGenerationCache.get_insert found

theorem forgets_rememberSent {outgoing : Packet} (departed : Instant)
    (different : key ≠ outgoing.sentKey) :
    Forgets sender (sender.rememberSent outgoing departed) key := by
  intro packet found
  rcases find_rememberSent found with ⟨same, -⟩ | old
  · exact absurd same different
  · exact old

theorem Pending.rememberSent {outgoing : Packet} {departed : Instant}
    (pending : sender.Pending key)
    (flagged : outgoing.pendingRetransmission = true) :
    (sender.rememberSent outgoing departed).Pending key := by
  intro packet found
  rcases find_rememberSent found with ⟨-, rfl⟩ | old
  · exact flagged
  · exact pending packet old

/-- The flag is written in the copy that lookups find. -/
theorem find_setPending (sender : RtxSender) (key other : SentKey)
    (pending : Bool) :
    (sender.setPending key pending).find other =
      if other = key then (sender.find key).map fun packet =>
        { packet with pendingRetransmission := pending }
      else sender.find other :=
  TwoGenerationCache.get_modify _ _ _ _

theorem forgets_setPending (pending : Bool) (different : other ≠ key) :
    Forgets sender (sender.setPending key pending) other := by
  intro packet found
  rw [find_setPending, if_neg different] at found
  exact found

theorem pending_setPending : (sender.setPending key true).Pending key := by
  intro packet found
  rw [find_setPending, if_pos rfl] at found
  obtain ⟨original, -, rfl⟩ := Option.map_eq_some_iff.mp found
  rfl

theorem Pending.setPending (pending : sender.Pending other) :
    (sender.setPending key true).Pending other := by
  by_cases same : other = key
  · rw [same]
    exact pending_setPending
  · exact pending.forgets (forgets_setPending true same)

@[simp] theorem find_touchNextSeqnum (sender : RtxSender) (rtxSsrc : Ssrc)
    (key : SentKey) :
    (sender.touchNextSeqnum rtxSsrc).find key = sender.find key := rfl

theorem find_incrementSeqnum {rtxSsrc : Ssrc} {seqnum : FullSequenceNumber}
    (incremented : before.incrementSeqnum rtxSsrc = .ok (after, seqnum))
    (key : SentKey) : after.find key = before.find key := by
  obtain ⟨-, rfl⟩ := incrementSeqnum_eq_ok incremented
  rfl

end RtxSender

theorem Packet.pendingRetransmission_toRtx {packet rtx : Packet}
    {rtxSeqnum : FullSequenceNumber}
    (made : packet.toRtx rtxSeqnum = .ok rtx) :
    rtx.pendingRetransmission = packet.pendingRetransmission := by
  unfold toRtx at made
  split at made
  · obtain ⟨-, others⟩ := setSeqnumInHeader_eq_ok made
    rw [others]
  · obtain ⟨_, _, rest⟩ := bind_eq_ok_iff.mp made
    obtain ⟨_, _, rest⟩ := bind_eq_ok_iff.mp rest
    obtain ⟨typed, setType, rest⟩ := bind_eq_ok_iff.mp rest
    obtain ⟨addressed, setSsrc, setSeqnum⟩ := bind_eq_ok_iff.mp rest
    obtain ⟨-, typedOthers, -⟩ := writeInHeader_eq_ok setType
    obtain ⟨-, addressedOthers, -⟩ := writeInHeader_eq_ok setSsrc
    obtain ⟨-, others⟩ := setSeqnumInHeader_eq_ok setSeqnum
    rw [others, addressedOthers, typedOthers]

namespace RtxSender

variable {before after : RtxSender} {key other : SentKey}
  {tccBefore tccAfter : Tcc.Sender} {now : Instant}

/-- The reasons to skip a retransmission. -/
def Skips (sender : RtxSender) (key : SentKey) (now : Instant) : Prop :=
  ∀ packet, sender.find key = some packet →
    packet.pendingRetransmission = true ∨ packet.isPastDeadline now = true

theorem Pending.skips {sender : RtxSender} (pending : sender.Pending key)
    (now : Instant) : sender.Skips key now :=
  fun packet found => .inl (pending packet found)

theorem resendAsRtx_skips {sender : RtxSender}
    (skips : sender.Skips key now) (tccSender : Tcc.Sender) :
    sender.resendAsRtx tccSender key.1 key.2 now =
      .ok (sender.touchNextSeqnum (toRtxSsrc key.1), tccSender, none) := by
  unfold resendAsRtx
  dsimp only
  split
  · rfl
  · rename_i packet found
    rw [if_pos]
    rw [Bool.or_eq_true]
    exact skips packet found

theorem resendAsRtx_none
    (resent : before.resendAsRtx tccBefore key.1 key.2 now =
      .ok (after, tccAfter, none)) (other : SentKey) :
    after.find other = before.find other := by
  unfold resendAsRtx at resent
  dsimp only at resent
  split at resent
  · cases resent
    rfl
  · split at resent
    · cases resent
      rfl
    · obtain ⟨made, -, rest⟩ := bind_eq_ok_iff.mp resent
      obtain ⟨incremented, -, rest⟩ := bind_eq_ok_iff.mp rest
      obtain ⟨stamped, -, returned⟩ := bind_eq_ok_iff.mp rest
      cases returned

theorem resendAsRtx_some {rtx : Packet}
    (resent : before.resendAsRtx tccBefore key.1 key.2 now =
      .ok (after, tccAfter, some rtx)) :
    rtx.pendingRetransmission = true ∧
      ∀ other, after.find other =
        (before.setPending key true).find other := by
  unfold resendAsRtx at resent
  dsimp only at resent
  split at resent
  · cases resent
  · split at resent
    · cases resent
    · obtain ⟨made, toRtx, rest⟩ := bind_eq_ok_iff.mp resent
      obtain ⟨⟨incremented, drawn⟩, drew, rest⟩ := bind_eq_ok_iff.mp rest
      obtain ⟨⟨tccNext, stamped⟩, stamp, returned⟩ := bind_eq_ok_iff.mp rest
      cases returned
      obtain ⟨others, -, -⟩ :=
        Packet.setTccSeqnumInHeaderIfPresent_eq_ok stamp
      constructor
      · rw [others]
        exact Packet.pendingRetransmission_toRtx toRtx
      · intro other
        rw [find_incrementSeqnum drew, find_setPending, find_setPending,
          find_touchNextSeqnum, find_touchNextSeqnum]

end RtxSender

/-! ## One operation -/

namespace Endpoint

variable {aead : Aead} {before after : Endpoint} {key : SentKey}
  {now : Instant} {result : Option Packet}

/-- Encryption comes after the packet has been remembered. -/
theorem encryptAndSendRtp_eq_ok {outgoing : Packet}
    (sent : before.encryptAndSendRtp aead outgoing now =
      .ok (after, result)) :
    after = before.rememberForRtx outgoing now := by
  obtain ⟨encrypted, -, returned⟩ := bind_eq_ok_iff.mp sent
  cases returned
  rfl

theorem rtxSender_rememberForRtx (endpoint : Endpoint) (outgoing : Packet)
    (now : Instant) :
    (endpoint.rememberForRtx outgoing now).rtxSender = endpoint.rtxSender ∨
      (endpoint.rememberForRtx outgoing now).rtxSender =
        endpoint.rtxSender.rememberSent outgoing now := by
  unfold rememberForRtx
  split
  · exact .inr rfl
  · exact .inl rfl

theorem sentKey_stampRtp {incoming outgoing : Packet}
    (stamp : before.stampRtp incoming = .ok (after, outgoing)) :
    outgoing.sentKey = incoming.sentKey ∧
      ∀ key, after.rtxSender.find key = before.rtxSender.find key := by
  obtain ⟨⟨rtxSender, numbered⟩, number, rest⟩ := bind_eq_ok_iff.mp stamp
  obtain ⟨⟨tccSender, stamped⟩, tccStamp, returned⟩ := bind_eq_ok_iff.mp rest
  cases returned
  obtain ⟨others, -, -⟩ := Packet.setTccSeqnumInHeaderIfPresent_eq_ok tccStamp
  have sameKey : outgoing.sentKey = numbered.sentKey := by
    rw [others]
    rfl
  rw [sameKey]
  unfold numberIfRtx at number
  split at number
  case isTrue isRtx =>
    obtain ⟨⟨incremented, seqnum⟩, drew, rest⟩ := bind_eq_ok_iff.mp number
    obtain ⟨written, wrote, returned⟩ := bind_eq_ok_iff.mp rest
    cases returned
    obtain ⟨-, numberedOthers⟩ := Packet.setSeqnumInHeader_eq_ok wrote
    refine ⟨?_, RtxSender.find_incrementSeqnum drew⟩
    obtain ⟨seqnumInPayload, hasSeqnum⟩ := Option.isSome_iff_exists.mp isRtx
    rw [numberedOthers]
    unfold Packet.sentKey Packet.ssrc Packet.seqnum Packet.isRtx
    dsimp only
    rw [hasSeqnum, Option.getD_some, Option.getD_some]
  case isFalse =>
    cases number
    exact ⟨rfl, fun _ => rfl⟩

/-- Only the copies of the packet that is sent are replaced. -/
theorem sendRtp_forgets {incoming : Packet}
    (different : key ≠ incoming.sentKey)
    (sent : before.sendRtp aead incoming now = .ok (after, result)) :
    before.rtxSender.Forgets after.rtxSender key := by
  obtain ⟨⟨stamped, outgoing⟩, stamp, encrypt⟩ := bind_eq_ok_iff.mp sent
  obtain ⟨sameKey, sameCopies⟩ := sentKey_stampRtp stamp
  have stampForgets : before.rtxSender.Forgets stamped.rtxSender key := by
    intro packet found
    rw [← sameCopies]
    exact found
  apply stampForgets.trans
  rw [encryptAndSendRtp_eq_ok encrypt]
  rcases stamped.rtxSender_rememberForRtx outgoing now with kept | remembered
  · rw [kept]
    exact .refl
  · rw [remembered]
    exact RtxSender.forgets_rememberSent now (sameKey ▸ different)

/-- Padding has a payload type that is not remembered. -/
theorem sendPadding_find {rtxSsrc : Ssrc}
    (sent : before.sendPadding aead rtxSsrc now = .ok (after, result))
    (key : SentKey) : after.rtxSender.find key = before.rtxSender.find key := by
  obtain ⟨⟨made, padding⟩, make, encrypt⟩ := bind_eq_ok_iff.mp sent
  obtain ⟨⟨tccSender, tccSeqnum⟩, -, rest⟩ := bind_eq_ok_iff.mp make
  obtain ⟨⟨rtxSender, packet⟩, padded, returned⟩ := bind_eq_ok_iff.mp rest
  cases returned
  obtain ⟨⟨incremented, seqnum⟩, drew, returned⟩ := bind_eq_ok_iff.mp padded
  cases returned
  rw [encryptAndSendRtp_eq_ok encrypt]
  exact RtxSender.find_incrementSeqnum drew key

/-- Nothing is drawn for a packet that is unknown, pending or too old. -/
theorem resendRtp_skips (skips : before.rtxSender.Skips key now) :
    before.resendRtp aead key.1 key.2 now =
      .ok ({ before with rtxSender :=
        before.rtxSender.touchNextSeqnum (toRtxSsrc key.1) }, none) := by
  unfold resendRtp makeRtx
  rw [RtxSender.resendAsRtx_skips skips]
  rfl

/-- A retransmission is pending, and so is the copy that takes its place. -/
theorem resendRtp_cases
    (resent : before.resendRtp aead key.1 key.2 now = .ok (after, result)) :
    (result = none ∧ ∀ other,
        after.rtxSender.find other = before.rtxSender.find other) ∨
      after.rtxSender.Pending key ∧ ∀ other,
        before.rtxSender.Pending other → after.rtxSender.Pending other := by
  obtain ⟨⟨made, rtx⟩, make, rest⟩ := bind_eq_ok_iff.mp resent
  obtain ⟨⟨rtxSender, tccSender, packet⟩, resend, returned⟩ :=
    bind_eq_ok_iff.mp make
  cases returned
  cases rtx with
  | none =>
      cases rest
      exact .inl ⟨rfl, RtxSender.resendAsRtx_none resend⟩
  | some outgoing =>
      obtain ⟨flagged, sameCopies⟩ := RtxSender.resendAsRtx_some resend
      have flaggedCopies : ∀ other,
          (before.rtxSender.setPending key true).Pending other →
            rtxSender.Pending other := by
        intro other pending packet found
        rw [sameCopies] at found
        exact pending packet found
      have remembered : ∀ other, rtxSender.Pending other →
          after.rtxSender.Pending other := by
        intro other pending
        rw [encryptAndSendRtp_eq_ok rest]
        rcases rtxSender_rememberForRtx _ outgoing now with kept | inserted
        · rw [kept]
          exact pending
        · rw [inserted]
          exact pending.rememberSent flagged
      refine .inr ⟨?_, ?_⟩
      · exact remembered key (flaggedCopies key RtxSender.pending_setPending)
      · intro other pending
        exact remembered other (flaggedCopies other pending.setPending)

/-- A packet that is pending is not retransmitted. -/
theorem not_resendRtp_of_pending {outgoing : Packet}
    (pending : before.rtxSender.Pending key) :
    before.resendRtp aead key.1 key.2 now ≠ .ok (after, some outgoing) := by
  intro resent
  rw [resendRtp_skips (pending.skips now)] at resent
  cases resent

end Endpoint

/-! ## Runs -/

section Runs

variable {aead : Aead} {start before after finish : Endpoint}
  {event : RetransmissionEvent} {events : List RetransmissionEvent}
  {key : SentKey}

/-- A packet stays pending until it is marked or sent anew. -/
theorem RetransmissionStep.pending
    (step : RetransmissionStep aead before event after)
    (pending : before.rtxSender.Pending key)
    (notMarked : event ≠ .marked key) (notSent : event ≠ .sent key) :
    after.rtxSender.Pending key := by
  cases step with
  | sendRtp sent =>
      apply pending.forgets
      apply Endpoint.sendRtp_forgets _ sent
      rintro rfl
      exact notSent rfl
  | resendRtp resent =>
      rcases Endpoint.resendRtp_cases resent with ⟨nothing, -⟩ | ⟨-, kept⟩
      · cases nothing
      · exact kept key pending
  | resendNothing resent =>
      rcases Endpoint.resendRtp_cases resent with ⟨-, same⟩ | ⟨-, kept⟩
      · apply pending.forgets
        intro packet found
        rw [← same]
        exact found
      · exact kept key pending
  | markAsSent =>
      apply pending.forgets
      apply RtxSender.forgets_setPending
      rintro rfl
      exact notMarked rfl
  | sendPadding sent =>
      apply pending.forgets
      intro packet found
      rw [← Endpoint.sendPadding_find sent]
      exact found
  | elsewhere same =>
      rw [same]
      exact pending

theorem RetransmissionStep.pending_resent
    (step : RetransmissionStep aead before (.resent key) after) :
    ¬ before.rtxSender.Pending key ∧ after.rtxSender.Pending key := by
  cases step with
  | resendRtp resent =>
      constructor
      · intro pending
        exact Endpoint.not_resendRtp_of_pending pending resent
      · rcases Endpoint.resendRtp_cases resent with ⟨nothing, -⟩ | ⟨flagged, -⟩
        · cases nothing
        · exact flagged

theorem pending_of_run (run : Run (RetransmissionStep aead) start events finish)
    (pending : start.rtxSender.Pending key)
    (notMarked : .marked key ∉ events) (notSent : .sent key ∉ events) :
    finish.rtxSender.Pending key := by
  induction run with
  | nil => exact pending
  | snoc earlier last ih =>
      rw [List.mem_append, List.mem_singleton, not_or] at notMarked notSent
      exact last.pending (ih notMarked.1 notSent.1)
        (Ne.symm notMarked.2) (Ne.symm notSent.2)

/-- The retransmissions that are waiting are counted by those handed out and
those marked as sent. -/
theorem count_resent_of_run
    (run : Run (RetransmissionStep aead) start events finish)
    (notSent : .sent key ∉ events) :
    events.count (.resent key) ≤ events.count (.marked key) + 1 ∧
      (events.count (.resent key) = events.count (.marked key) + 1 →
        finish.rtxSender.Pending key) := by
  induction run with
  | nil => simp
  | @snoc past event middle finish earlier last ih =>
      rw [List.mem_append, List.mem_singleton, not_or] at notSent
      obtain ⟨bound, full⟩ := ih notSent.1
      rw [List.count_append, List.count_append]
      by_cases resent : event = .resent key
      · subst resent
        obtain ⟨notPending, pending⟩ := last.pending_resent
        have room : past.count (.resent key) ≠
            past.count (.marked key) + 1 := fun same => notPending (full same)
        have one : List.count (.resent key)
            [RetransmissionEvent.resent key] = 1 := List.count_singleton_self
        have none : List.count (.marked key)
            [RetransmissionEvent.resent key] = 0 :=
          List.count_eq_zero.mpr (by simp)
        rw [one, none]
        exact ⟨by omega, fun _ => pending⟩
      · have none : List.count (.resent key) [event] = 0 :=
          List.count_eq_zero.mpr (by simpa using Ne.symm resent)
        rw [none]
        by_cases marked : event = .marked key
        · subst marked
          rw [List.count_singleton_self]
          exact ⟨by omega, fun same => by omega⟩
        · have unmarked : List.count (.marked key) [event] = 0 :=
            List.count_eq_zero.mpr (by simpa using Ne.symm marked)
          rw [unmarked]
          refine ⟨by omega, ?_⟩
          intro same
          exact last.pending (full (by omega)) marked (Ne.symm notSent.2)

end Runs

/-- Between two retransmissions of a packet it is marked as sent or sent anew,
so that at most one of them waits, and a refused one draws no number. -/
theorem one_retransmission_at_a_time {aead : Aead} :
    (∀ {start finish : Endpoint} {events : List RetransmissionEvent},
      Run (RetransmissionStep aead) start events finish →
      ∀ key : SentKey,
        (∀ first middle last,
          events = first ++ .resent key :: (middle ++ .resent key :: last) →
          .marked key ∈ middle ∨ .sent key ∈ middle) ∧
        (.sent key ∉ events →
          events.count (.resent key) ≤ events.count (.marked key) + 1)) ∧
    ∀ (endpoint : Endpoint) (key : SentKey) (now : Instant),
      endpoint.rtxSender.Skips key now →
      ∃ after, endpoint.resendRtp aead key.1 key.2 now = .ok (after, none) ∧
        after.rtxSender.nextSeqnum = endpoint.rtxSender.nextSeqnum ∧
        after.tccSender = endpoint.tccSender := by
  refine ⟨?_, ?_⟩
  · intro start finish events run key
    refine ⟨?_, fun notSent => (count_resent_of_run run notSent).1⟩
    rintro first middle last rfl
    by_contra neither
    rw [not_or] at neither
    obtain ⟨beforeFirst, -, run⟩ := run.split
    obtain ⟨afterFirst, resent, run⟩ := run.head
    obtain ⟨beforeSecond, between, run⟩ := run.split
    obtain ⟨afterSecond, resentAgain, -⟩ := run.head
    have pending := pending_of_run between resent.pending_resent.2
      neither.1 neither.2
    exact resentAgain.pending_resent.1 pending
  · intro endpoint key now skips
    exact ⟨_, Endpoint.resendRtp_skips skips,
      RtxSender.nextSeqnum_touchNextSeqnum _ _, rfl⟩

/-! ## A packet that is requested twice -/

/-- Packet 7 of the SSRC 2, remembered for retransmissions. -/
def resendStart : Endpoint :=
  rtxStart.rememberForRtx
    (Packet.withEmptyTag vp8PayloadType 7 0 2 none (some 0) []) 0

/-- The copy of the retransmission with this number, in place of the
original. -/
def resentCopy (rtxSeqnum : UInt8) : Packet :=
  { Packet.withEmptyTag 118 rtxSeqnum.toNat 0 3 none (some 0) [0, 7] with
    seqnumInPayload := some 7
    pendingRetransmission := true }

def resentOnce : Endpoint :=
  { resendStart with
    rtxSender := ((resendStart.rtxSender.setPending (2, 7) true).setNextSeqnum
      3 2).rememberSent (resentCopy 1) 5 }

def markedOnce : Endpoint := resentOnce.markAsSent 2 7

def resentTwice : Endpoint :=
  { markedOnce with
    rtxSender := ((markedOnce.rtxSender.setPending (2, 7) true).setNextSeqnum
      3 3).rememberSent (resentCopy 2) 6 }

theorem resendRun : Run (RetransmissionStep rtxAead) resendStart
    [.resent (2, 7), .marked (2, 7), .resent (2, 7)] resentTwice := by
  have first : RetransmissionStep rtxAead resendStart _ resentOnce :=
    @RetransmissionStep.resendRtp rtxAead _ resentOnce (2, 7) 5 _ rfl
  have marked : RetransmissionStep rtxAead resentOnce _ markedOnce :=
    @RetransmissionStep.markAsSent rtxAead _ (2, 7)
  have second : RetransmissionStep rtxAead markedOnce _ resentTwice :=
    @RetransmissionStep.resendRtp rtxAead _ resentTwice (2, 7) 6 _ rfl
  exact .snoc (.snoc (.snoc .nil first) marked) second

theorem one_retransmission_at_a_time_requested_twice :
    (RetransmissionEvent.marked (2, 7) ∈
        [RetransmissionEvent.marked (2, 7)] ∨
      RetransmissionEvent.sent (2, 7) ∈
        [RetransmissionEvent.marked (2, 7)]) ∧
    ∃ after, rtxStart.resendRtp rtxAead 2 7 5 = .ok (after, none) ∧
      after.rtxSender.nextSeqnum = rtxStart.rtxSender.nextSeqnum ∧
      after.tccSender = rtxStart.tccSender := by
  constructor
  · exact (one_retransmission_at_a_time.1 resendRun (2, 7)).1 []
      [.marked (2, 7)] [] rfl
  · exact one_retransmission_at_a_time.2 rtxStart (2, 7) 5
      (fun packet found => by cases found)

end CallingService.Backend.Rtp
