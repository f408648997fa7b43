import CallingService.Backend.Call.RaisedHands

/-!
# Raised hands in any order

The messages of a client are numbered, and only a larger number replaces the
hand that is recorded.  Whatever the order and however often the messages are
delivered, the hands and the numbers end as those of the latest messages.
-/

namespace CallingService.Backend

open Foundation Rtp

variable {externals : CallExternals}

structure HandMessage where
  sender : DemuxId
  raise : Bool
  seqnum : UInt32
deriving DecidableEq

def HandMessage.hand (message : HandMessage) : RaisedHand :=
  ⟨message.sender, message.raise⟩

/-- No two different messages of one client have the same number. -/
def ConsistentMessages (messages : List HandMessage) : Prop :=
  ∀ {first second}, first ∈ messages → second ∈ messages →
    first.sender = second.sender → first.seqnum = second.seqnum →
      first = second

/-- No message of the same client has a larger number. -/
structure IsLatest (messages : List HandMessage) (message : HandMessage) :
    Prop where
  member : message ∈ messages
  largest : ∀ {other}, other ∈ messages → other.sender = message.sender →
    other.seqnum ≤ message.seqnum

variable {message : HandMessage}

theorem isLatest_of_same {left right : List HandMessage}
    (same : ∀ message, message ∈ left ↔ message ∈ right)
    (isLatest : IsLatest left message) :
    IsLatest right message :=
  ⟨(same message).mp isLatest.member,
    fun member => isLatest.largest ((same _).mpr member)⟩

variable {messages : List HandMessage}

theorem IsLatest.unique {first second : HandMessage}
    (consistent : ConsistentMessages messages)
    (isFirst : IsLatest messages first) (isSecond : IsLatest messages second)
    (sameSender : first.sender = second.sender) : first = second := by
  have le := isSecond.largest isFirst.member sameSender
  have ge := isFirst.largest isSecond.member sameSender.symm
  exact consistent isFirst.member isSecond.member sameSender
    (UInt32.le_antisymm le ge)

/-- A message with the largest number takes the place of its client's. -/
theorem isLatest_append_of_newer
    (newer : ∀ {other}, other ∈ messages → other.sender = message.sender →
      other.seqnum < message.seqnum) {other : HandMessage} :
    IsLatest (messages ++ [message]) other ↔
      (IsLatest messages other ∧ other.sender ≠ message.sender) ∨
        other = message := by
  constructor
  · intro isLatest
    rcases List.mem_append.mp isLatest.member with old | isNew
    · left
      refine ⟨⟨old, fun member sameSender => isLatest.largest
        (List.mem_append_left _ member) sameSender⟩, fun sameSender => ?_⟩
      have le := isLatest.largest
        (List.mem_append_right _ (List.mem_singleton_self message))
        sameSender.symm
      exact UInt32.not_le.mpr (newer old sameSender) le
    · exact .inr (List.mem_singleton.mp isNew)
  · rintro (⟨isLatest, otherSender⟩ | rfl)
    · refine ⟨List.mem_append_left _ isLatest.member, ?_⟩
      intro third member sameSender
      rcases List.mem_append.mp member with old | isNew
      · exact isLatest.largest old sameSender
      · rw [List.mem_singleton.mp isNew] at sameSender
        exact absurd sameSender.symm otherSender
    · refine ⟨List.mem_append_right _ (List.mem_singleton_self _), ?_⟩
      intro third member sameSender
      rcases List.mem_append.mp member with old | isNew
      · exact UInt32.le_of_lt (newer old sameSender)
      · rw [List.mem_singleton.mp isNew]
        exact UInt32.le_refl _

/-- Any other message changes nothing. -/
theorem isLatest_append_of_older {message last : HandMessage}
    (consistent : ConsistentMessages (messages ++ [message]))
    (isLast : IsLatest messages last)
    (sameSender : last.sender = message.sender)
    (older : message.seqnum ≤ last.seqnum) {other : HandMessage} :
    IsLatest (messages ++ [message]) other ↔ IsLatest messages other := by
  have stays : ∀ {third}, IsLatest messages third →
      IsLatest (messages ++ [message]) third := by
    intro third isLatest
    refine ⟨List.mem_append_left _ isLatest.member, ?_⟩
    intro fourth member isSender
    rcases List.mem_append.mp member with old | isNew
    · exact isLatest.largest old isSender
    · rw [List.mem_singleton.mp isNew] at isSender ⊢
      exact UInt32.le_trans older (isLatest.largest isLast.member
        (sameSender.trans isSender))
  constructor
  · intro isLatest
    by_cases isSender : other.sender = message.sender
    · rw [isLatest.unique consistent (stays isLast)
        (isSender.trans sameSender.symm)]
      exact isLast
    · refine ⟨?_, fun member isOther => isLatest.largest
        (List.mem_append_left _ member) isOther⟩
      rcases List.mem_append.mp isLatest.member with old | isNew
      · exact old
      · rw [List.mem_singleton.mp isNew] at isSender
        exact absurd rfl isSender
  · exact stays

namespace Call

def handleHand (call : Call externals) (message : HandMessage)
    (now : Instant) : Call externals :=
  call.handleRaiseHand now ⟨some message.raise, some message.seqnum⟩
    message.sender

def handleHands (call : Call externals)
    (deliveries : List (HandMessage × Instant)) : Call externals :=
  deliveries.foldl (fun call delivery =>
    call.handleHand delivery.1 delivery.2) call

theorem seqnums_handleRaiseHand {call : Call externals} {now : Instant} :
    (call.handleHand message now).raisedHandsSeqnums =
      if call.recordsHand message.sender
          ⟨some message.raise, some message.seqnum⟩ then
        call.raisedHandsSeqnums.insert message.sender message.seqnum
      else call.raisedHandsSeqnums := by
  unfold handleHand handleRaiseHand recordsHand hands
  dsimp only
  by_cases isIn : (call.raisedHands.getD []).any
      (fun hand => decide (hand.demuxId = message.sender)) = true
  · rw [if_pos isIn, isIn]
    cases call.raisedHandsSeqnums.lookup message.sender with
    | none => rfl
    | some current =>
        dsimp only
        by_cases newer : current < message.seqnum
        · simp [newer, pushRaisedHand, sendRaisedHandsOnNextTick]
        · simp [newer]
  · rw [if_neg isIn]
    rw [Bool.not_eq_true] at isIn
    rw [isIn]
    rfl

/-- The hands and the numbers are those of the latest messages. -/
structure HandsOfLatest (messages : List HandMessage)
    (call : Call externals) : Prop where
  each : call.OneHandEach
  latest : ∀ message ∈ messages, ∃ last, IsLatest messages last ∧
    last.sender = message.sender
  hands : ∀ hand, hand ∈ call.hands ↔
    ∃ message, IsLatest messages message ∧ hand = message.hand
  seqnums : ∀ demuxId seqnum,
    call.raisedHandsSeqnums.lookup demuxId = some seqnum ↔
      ∃ message, IsLatest messages message ∧ message.sender = demuxId ∧
        message.seqnum = seqnum

theorem handsOfLatest_nil {call : Call externals}
    (noHands : call.raisedHands = none)
    (noSeqnums : call.raisedHandsSeqnums = ∅) : call.HandsOfLatest [] := by
  have empty : call.hands = [] := by
    unfold Call.hands
    rw [noHands]
    rfl
  constructor
  · unfold OneHandEach
    rw [empty]
    exact List.nodup_nil
  · intro message member
    cases member
  · intro hand
    rw [empty]
    constructor
    · intro member
      cases member
    · rintro ⟨message, isLatest, -⟩
      cases isLatest.member
  · intro demuxId seqnum
    rw [noSeqnums]
    constructor
    · intro found
      cases found
    · rintro ⟨message, isLatest, -, -⟩
      cases isLatest.member

theorem newer_of_recordsHand {call : Call externals}
    (holds : call.HandsOfLatest messages)
    (records : call.recordsHand message.sender
      ⟨some message.raise, some message.seqnum⟩ = true) {other : HandMessage}
    (member : other ∈ messages) (sameSender : other.sender = message.sender) :
    other.seqnum < message.seqnum := by
  obtain ⟨last, isLast, lastSender⟩ := holds.latest other member
  have isHand : last.hand ∈ call.hands :=
    (holds.hands last.hand).mpr ⟨last, isLast, rfl⟩
  have isIn : call.hands.any
      (fun hand => decide (hand.demuxId = message.sender)) = true :=
    List.any_eq_true.mpr ⟨last.hand, isHand,
      decide_eq_true (lastSender.trans sameSender)⟩
  have number : call.raisedHandsSeqnums.lookup message.sender =
      some last.seqnum :=
    (holds.seqnums message.sender last.seqnum).mpr
      ⟨last, isLast, lastSender.trans sameSender, rfl⟩
  unfold recordsHand at records
  dsimp only at records
  rw [isIn, number] at records
  have smaller : last.seqnum < message.seqnum := by simpa using records
  exact UInt32.lt_of_le_of_lt (isLast.largest member lastSender.symm) smaller

theorem older_of_not_recordsHand {call : Call externals}
    (holds : call.HandsOfLatest messages)
    (ignores : call.recordsHand message.sender
      ⟨some message.raise, some message.seqnum⟩ ≠ true) :
    ∃ last, IsLatest messages last ∧ last.sender = message.sender ∧
      message.seqnum ≤ last.seqnum := by
  unfold recordsHand at ignores
  dsimp only at ignores
  rw [ne_eq, Bool.or_eq_true, not_or, Bool.not_eq_true', Bool.not_eq_false]
    at ignores
  obtain ⟨isIn, notNewer⟩ := ignores
  obtain ⟨hand, member, isSender⟩ := List.any_eq_true.mp isIn
  obtain ⟨last, isLast, rfl⟩ := (holds.hands hand).mp member
  have sameSender : last.sender = message.sender := of_decide_eq_true isSender
  have number : call.raisedHandsSeqnums.lookup message.sender =
      some last.seqnum :=
    (holds.seqnums message.sender last.seqnum).mpr
      ⟨last, isLast, sameSender, rfl⟩
  rw [number] at notNewer
  refine ⟨last, isLast, sameSender, UInt32.not_lt.mp ?_⟩
  simpa using notNewer

theorem mem_eraseP_iff {hands : List RaisedHand}
    (each : (hands.map RaisedHand.demuxId).Nodup) {sender : DemuxId}
    {hand : RaisedHand} :
    hand ∈ hands.eraseP (·.demuxId = sender) ↔
      hand ∈ hands ∧ hand.demuxId ≠ sender := by
  constructor
  · intro member
    exact ⟨List.mem_of_mem_eraseP member,
      demuxId_ne_of_mem_eraseP each member⟩
  · rintro ⟨member, isOther⟩
    exact (List.mem_eraseP_of_neg (by simpa using isOther)).mpr member

/-- One message. -/
theorem HandsOfLatest.handleHand {call : Call externals} {now : Instant}
    (holds : call.HandsOfLatest messages)
    (consistent : ConsistentMessages (messages ++ [message])) :
    (call.handleHand message now).HandsOfLatest (messages ++ [message]) := by
  have hands := hands_handleRaiseHand call now
    ⟨some message.raise, some message.seqnum⟩ message.sender
  have numbers := @seqnums_handleRaiseHand _ message call now
  have each := oneHandEach_handleRaiseHand holds.each now
    ⟨some message.raise, some message.seqnum⟩ message.sender
  by_cases records : call.recordsHand message.sender
      ⟨some message.raise, some message.seqnum⟩ = true
  · rw [if_pos records] at hands numbers
    have isLatest := fun other => @isLatest_append_of_newer message messages
      (fun member => newer_of_recordsHand holds records member) other
    refine ⟨each, ?_, ?_, ?_⟩
    · intro other member
      by_cases isSender : other.sender = message.sender
      · exact ⟨message, (isLatest message).mpr (.inr rfl), isSender.symm⟩
      · rcases List.mem_append.mp member with old | isNew
        · obtain ⟨last, isLast, sameSender⟩ := holds.latest other old
          exact ⟨last, (isLatest last).mpr
            (.inl ⟨isLast, sameSender.trans_ne isSender⟩), sameSender⟩
        · rw [List.mem_singleton.mp isNew] at isSender
          exact absurd rfl isSender
    · intro hand
      unfold Call.handleHand
      rw [hands, List.mem_append, mem_eraseP_iff holds.each, holds.hands,
        List.mem_singleton]
      constructor
      · rintro (⟨⟨other, isOther, rfl⟩, isSender⟩ | rfl)
        · exact ⟨other, (isLatest other).mpr (.inl ⟨isOther, isSender⟩), rfl⟩
        · exact ⟨message, (isLatest message).mpr (.inr rfl), rfl⟩
      · rintro ⟨other, isOther, rfl⟩
        rcases (isLatest other).mp isOther with ⟨old, isSender⟩ | rfl
        · exact .inl ⟨⟨other, old, rfl⟩, isSender⟩
        · exact .inr rfl
    · intro demuxId seqnum
      rw [numbers]
      by_cases isSender : demuxId = message.sender
      · subst isSender
        rw [AList.lookup_insert, Option.some.injEq]
        constructor
        · intro same
          exact ⟨message, (isLatest message).mpr (.inr rfl), rfl, same⟩
        · rintro ⟨other, isOther, sameSender, rfl⟩
          rcases (isLatest other).mp isOther with ⟨-, isSender⟩ | rfl
          · exact absurd sameSender isSender
          · rfl
      · rw [AList.lookup_insert_ne isSender, holds.seqnums]
        constructor
        · rintro ⟨other, isOther, rfl, same⟩
          exact ⟨other, (isLatest other).mpr (.inl ⟨isOther, isSender⟩), rfl,
            same⟩
        · rintro ⟨other, isOther, rfl, same⟩
          rcases (isLatest other).mp isOther with ⟨old, -⟩ | rfl
          · exact ⟨other, old, rfl, same⟩
          · exact absurd rfl isSender
  · rw [if_neg records] at hands numbers
    obtain ⟨last, isLast, sameSender, older⟩ :=
      older_of_not_recordsHand holds records
    have isLatest := fun other => @isLatest_append_of_older messages message
      last consistent isLast sameSender older other
    refine ⟨each, ?_, ?_, ?_⟩
    · intro other member
      rcases List.mem_append.mp member with old | isNew
      · obtain ⟨latest, isTop, topSender⟩ := holds.latest other old
        exact ⟨latest, (isLatest latest).mpr isTop, topSender⟩
      · rw [List.mem_singleton.mp isNew]
        exact ⟨last, (isLatest last).mpr isLast, sameSender⟩
    · intro hand
      unfold Call.handleHand
      rw [hands, holds.hands]
      exact exists_congr fun other =>
        and_congr_left fun _ => (isLatest other).symm
    · intro demuxId seqnum
      rw [numbers, holds.seqnums]
      exact exists_congr fun other =>
        and_congr_left fun _ => (isLatest other).symm

theorem handsOfLatest_handleHands {start : Call externals}
    {deliveries : List (HandMessage × Instant)}
    (noHands : start.raisedHands = none)
    (noSeqnums : start.raisedHandsSeqnums = ∅)
    (consistent : ConsistentMessages (deliveries.map Prod.fst)) :
    (start.handleHands deliveries).HandsOfLatest
      (deliveries.map Prod.fst) := by
  unfold handleHands
  induction deliveries using List.reverseRecOn with
  | nil => exact handsOfLatest_nil noHands noSeqnums
  | append_singleton deliveries last ih =>
      rw [List.map_append, List.map_singleton] at consistent ⊢
      have before : ConsistentMessages (deliveries.map Prod.fst) :=
        fun isFirst isSecond => consistent (List.mem_append_left _ isFirst)
          (List.mem_append_left _ isSecond)
      rw [List.foldl_append]
      exact (ih before).handleHand consistent

/-- What is left of the messages, and that nothing else matters. -/
theorem hands_of_latest_messages {start : Call externals}
    {deliveries : List (HandMessage × Instant)}
    (noHands : start.raisedHands = none)
    (noSeqnums : start.raisedHandsSeqnums = ∅)
    (consistent : ConsistentMessages (deliveries.map Prod.fst)) :
    ((start.handleHands deliveries).hands.map RaisedHand.demuxId).Nodup ∧
    (∀ message, IsLatest (deliveries.map Prod.fst) message →
      message.hand ∈ (start.handleHands deliveries).hands ∧
      (start.handleHands deliveries).raisedHandsSeqnums.lookup
        message.sender = some message.seqnum) ∧
    (∀ message ∈ deliveries.map Prod.fst, ∃ last,
      IsLatest (deliveries.map Prod.fst) last ∧
        last.sender = message.sender) ∧
    ∀ others : List (HandMessage × Instant),
      (∀ message, message ∈ deliveries.map Prod.fst ↔
        message ∈ others.map Prod.fst) →
      (∀ hand, hand ∈ (start.handleHands deliveries).hands ↔
        hand ∈ (start.handleHands others).hands) ∧
      ∀ demuxId,
        (start.handleHands deliveries).raisedHandsSeqnums.lookup demuxId =
          (start.handleHands others).raisedHandsSeqnums.lookup demuxId := by
  have holds := handsOfLatest_handleHands noHands noSeqnums consistent
  refine ⟨holds.each, ?_, holds.latest, ?_⟩
  · intro message isLatest
    exact ⟨(holds.hands _).mpr ⟨message, isLatest, rfl⟩,
      (holds.seqnums _ _).mpr ⟨message, isLatest, rfl, rfl⟩⟩
  · intro others same
    have othersConsistent : ConsistentMessages (others.map Prod.fst) :=
      fun isFirst isSecond => consistent ((same _).mpr isFirst)
        ((same _).mpr isSecond)
    have othersHold :=
      handsOfLatest_handleHands noHands noSeqnums othersConsistent
    have isLatest : ∀ message, IsLatest (deliveries.map Prod.fst) message ↔
        IsLatest (others.map Prod.fst) message :=
      fun message => ⟨isLatest_of_same same,
        isLatest_of_same fun other => (same other).symm⟩
    constructor
    · intro hand
      rw [holds.hands, othersHold.hands]
      exact exists_congr fun message =>
        and_congr_left fun _ => isLatest message
    · intro demuxId
      apply Option.ext
      intro seqnum
      rw [holds.seqnums, othersHold.seqnums]
      exact exists_congr fun message =>
        and_congr_left fun _ => isLatest message

/-- The client lowers its hand with a message that overtakes the first. -/
def crossedHands : List (HandMessage × Instant) :=
  [(⟨DemuxId.fromSsrc 80, false, 2⟩, 10),
    (⟨DemuxId.fromSsrc 96, true, 7⟩, 20),
    (⟨DemuxId.fromSsrc 80, true, 1⟩, 30)]

def orderedHands : List (HandMessage × Instant) :=
  [(⟨DemuxId.fromSsrc 80, true, 1⟩, 10),
    (⟨DemuxId.fromSsrc 80, false, 2⟩, 20),
    (⟨DemuxId.fromSsrc 96, true, 7⟩, 30),
    (⟨DemuxId.fromSsrc 80, false, 2⟩, 40)]

theorem hands_of_latest_messages_crossed :
    (∀ hand, hand ∈ (pairedCall.handleHands crossedHands).hands ↔
      hand ∈ (pairedCall.handleHands orderedHands).hands) ∧
    ∀ demuxId,
      (pairedCall.handleHands crossedHands).raisedHandsSeqnums.lookup
          demuxId =
        (pairedCall.handleHands orderedHands).raisedHandsSeqnums.lookup
          demuxId := by
  have consistent : ConsistentMessages (crossedHands.map Prod.fst) := by
    have checked : ∀ first ∈ crossedHands.map Prod.fst,
        ∀ second ∈ crossedHands.map Prod.fst,
          first.sender = second.sender → first.seqnum = second.seqnum →
            first = second := by
      decide
    intro first second isFirst isSecond
    exact checked first isFirst second isSecond
  have same : ∀ message, message ∈ crossedHands.map Prod.fst ↔
      message ∈ orderedHands.map Prod.fst := by
    intro message
    simp only [crossedHands, orderedHands, List.map_cons, List.map_nil,
      List.mem_cons, List.not_mem_nil, or_false]
    tauto
  exact (@hands_of_latest_messages _ pairedCall crossedHands rfl rfl
    consistent).2.2.2 orderedHands same

end Call

end CallingService.Backend
