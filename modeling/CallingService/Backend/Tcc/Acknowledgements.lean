import CallingService.Backend.Tcc.Feedback
import CallingService.Foundation.Run

/-!
# Acknowledged packets

The peer chooses the feedback, so it may repeat, reorder and invent sequence
numbers.  An acknowledgement takes its packet out of the cache of the sender,
and so nothing is acknowledged more often than it was remembered.
-/

namespace CallingService.Backend.Tcc

open Foundation

namespace Sender

/-- `correlateAcks`, with the number that each acknowledgement is for. -/
def attributeAcks (feedbackArrival : Instant) :
    List (Nat × RemoteInstant) → Sender → Sender × List (Nat × Ack)
  | [], sender => (sender, [])
  | (seqnum, arrival) :: rest, sender =>
      let removed := sender.sizeBySeqnum.remove seqnum
      let attributed := attributeAcks feedbackArrival rest
        { sender with sizeBySeqnum := removed.1 }
      match removed.2 with
      | some (size, departure) =>
          (attributed.1, (seqnum, ⟨size, departure, arrival,
            feedbackArrival⟩) :: attributed.2)
      | none => attributed

/-- `processFeedbackAndCorrelateAcks`, with the number that each
acknowledgement is for. -/
def attributeFeedback (profile : BuildProfile) (feedbackArrival : Instant) :
    List Bytes → Sender → Except Panic (Sender × List (Nat × Ack))
  | [], sender => .ok (sender, [])
  | feedback :: rest, sender => do
      let read ← readFeedback profile feedback sender.maxReceivedSeqnum
      let moved := { sender with maxReceivedSeqnum := read.2 }
      let attributed := match read.1 with
        | some (_, arrivals) => moved.attributeAcks feedbackArrival arrivals
        | none => (moved, [])
      let others ← attributeFeedback profile feedbackArrival rest attributed.1
      return (others.1, attributed.2 ++ others.2)

theorem correlateAcks_eq (feedbackArrival : Instant)
    (arrivals : List (Nat × RemoteInstant)) (sender : Sender) :
    sender.correlateAcks feedbackArrival arrivals =
      ((sender.attributeAcks feedbackArrival arrivals).1,
        (sender.attributeAcks feedbackArrival arrivals).2.map Prod.snd) := by
  induction arrivals generalizing sender with
  | nil => rfl
  | cons entry rest ih =>
      obtain ⟨seqnum, arrival⟩ := entry
      unfold correlateAcks attributeAcks
      dsimp only
      rw [ih]
      cases (sender.sizeBySeqnum.remove seqnum).2 with
      | none => rfl
      | some value => rfl

/-- Nothing but the numbers has been added. -/
theorem processFeedback_eq (profile : BuildProfile)
    (feedbackArrival : Instant) (feedback : List Bytes) (sender : Sender) :
    sender.processFeedbackAndCorrelateAcks profile feedbackArrival feedback =
      (sender.attributeFeedback profile feedbackArrival feedback).map
        fun result => (result.1, result.2.map Prod.snd) := by
  induction feedback generalizing sender with
  | nil => rfl
  | cons payload rest ih =>
      unfold processFeedbackAndCorrelateAcks attributeFeedback
      cases readFeedback profile payload sender.maxReceivedSeqnum with
      | error failure => rfl
      | ok read =>
          simp only [ok_bind]
          rw [ih]
          cases read.1 with
          | none =>
              dsimp only
              cases attributeFeedback profile feedbackArrival rest _ with
              | error failure => rfl
              | ok others => rfl
          | some found =>
              dsimp only
              rw [correlateAcks_eq]
              cases attributeFeedback profile feedbackArrival rest _ with
              | error failure => rfl
              | ok others =>
                  simp only [Except.map, ok_bind, pure, Except.pure,
                    List.map_append]

end Sender

/-! ## Runs -/

inductive SenderEvent where
  | incrementSeqnum (seqnum : Nat)
  | rememberSent (seqnum size : Nat) (now : Instant)
  | processFeedback (feedback : List Bytes) (feedbackArrival : Instant)
      (acks : List (Nat × Ack))
deriving DecidableEq

/-- The acknowledgements of an event carry the numbers they are for, which the
source leaves out. -/
def SenderStep (profile : BuildProfile) (before : Sender)
    (event : SenderEvent) (after : Sender) : Prop :=
  match event with
  | .incrementSeqnum seqnum => before.incrementSeqnum = .ok (after, seqnum)
  | .rememberSent seqnum size now => after = before.rememberSent seqnum size now
  | .processFeedback feedback feedbackArrival acks =>
      before.processFeedbackAndCorrelateAcks profile feedbackArrival feedback =
          .ok (after, acks.map Prod.snd) ∧
        before.attributeFeedback profile feedbackArrival feedback =
          .ok (after, acks)

/-- Every call that returns is a step, whatever the payloads are. -/
theorem SenderStep.of_processFeedback {profile : BuildProfile}
    {feedbackArrival : Instant} {feedback : List Bytes}
    {before after : Sender} {returned : List Ack}
    (processed : before.processFeedbackAndCorrelateAcks profile
      feedbackArrival feedback = .ok (after, returned)) :
    ∃ acks : List (Nat × Ack), acks.map Prod.snd = returned ∧
      SenderStep profile before
        (.processFeedback feedback feedbackArrival acks) after := by
  have equation := Sender.processFeedback_eq profile feedbackArrival feedback
    before
  rw [processed] at equation
  cases attributed : before.attributeFeedback profile feedbackArrival
      feedback with
  | error failure =>
      rw [attributed] at equation
      cases equation
  | ok result =>
      rw [attributed] at equation
      cases equation
      exact ⟨result.2, rfl, processed, attributed⟩

namespace SenderEvent

def remembered : SenderEvent → List Nat
  | .rememberSent seqnum _ _ => [seqnum]
  | _ => []

def acked : SenderEvent → List (Nat × Ack)
  | .processFeedback _ _ acks => acks
  | _ => []

end SenderEvent

def timesRemembered (history : List SenderEvent) (seqnum : Nat) : Nat :=
  (history.flatMap SenderEvent.remembered).count seqnum

def timesAcked (history : List SenderEvent) (seqnum : Nat) : Nat :=
  ((history.flatMap SenderEvent.acked).map Prod.fst).count seqnum

namespace Sender

/-- One if the packet can still be acknowledged. -/
def outstanding (sender : Sender) (seqnum : Nat) : Nat :=
  if (sender.sizeBySeqnum.get seqnum).isSome then 1 else 0

theorem outstanding_le_one (sender : Sender) (seqnum : Nat) :
    sender.outstanding seqnum ≤ 1 := by
  unfold outstanding
  split
  · exact Nat.le_refl 1
  · exact Nat.zero_le 1

/-- What a sequence of acknowledgements does to the cache. -/
structure Acknowledges (before : Sender) (acks : List (Nat × Ack))
    (after : Sender) : Prop where
  fewer : ∀ seqnum value, after.sizeBySeqnum.get seqnum = some value →
    before.sizeBySeqnum.get seqnum = some value
  known : ∀ entry ∈ acks, before.sizeBySeqnum.get entry.1 =
    some (entry.2.size, entry.2.departure)
  counted : ∀ seqnum, (acks.map Prod.fst).count seqnum +
    after.outstanding seqnum ≤ before.outstanding seqnum

theorem acknowledges_nothing {before after : Sender}
    (same : after.sizeBySeqnum = before.sizeBySeqnum) :
    Acknowledges before [] after where
  fewer := by
    rw [same]
    exact fun _ _ found => found
  known := fun _ member => absurd member List.not_mem_nil
  counted := by
    intro seqnum
    unfold outstanding
    rw [same, List.map_nil, List.count_nil, Nat.zero_add]

theorem Acknowledges.trans {first second third : Sender}
    {earlier later : List (Nat × Ack)}
    (one : Acknowledges first earlier second)
    (two : Acknowledges second later third) :
    Acknowledges first (earlier ++ later) third where
  fewer := fun seqnum value found =>
    one.fewer seqnum value (two.fewer seqnum value found)
  known := by
    intro entry member
    rcases List.mem_append.mp member with inEarlier | inLater
    · exact one.known entry inEarlier
    · exact one.fewer _ _ (two.known entry inLater)
  counted := by
    intro seqnum
    have countOne := one.counted seqnum
    have countTwo := two.counted seqnum
    rw [List.map_append, List.count_append]
    omega

theorem acknowledges_remove (sender : Sender) (seqnum : Nat)
    (arrival : RemoteInstant) (feedbackArrival : Instant) :
    Acknowledges sender
      (((sender.sizeBySeqnum.remove seqnum).2.map fun value =>
        (seqnum, (⟨value.1, value.2, arrival, feedbackArrival⟩ : Ack))).toList)
      { sender with
        sizeBySeqnum := (sender.sizeBySeqnum.remove seqnum).1 } := by
  rw [TwoGenerationCache.remove_snd]
  refine ⟨?_, ?_, ?_⟩
  · intro other value found
    rw [TwoGenerationCache.get_remove] at found
    split at found
    · cases found
    · exact found
  · intro entry member
    cases stored : sender.sizeBySeqnum.get seqnum with
    | none =>
        rw [stored] at member
        cases member
    | some value =>
        rw [stored] at member
        rw [List.mem_singleton.mp member]
        exact stored
  · intro other
    unfold outstanding
    dsimp only
    rw [TwoGenerationCache.get_remove]
    by_cases same : other = seqnum
    · subst same
      cases sender.sizeBySeqnum.get other with
      | none => simp
      | some value => simp
    · rw [if_neg same]
      cases sender.sizeBySeqnum.get seqnum with
      | none => simp
      | some value => simp [Ne.symm same]

theorem acknowledges_attributeAcks (feedbackArrival : Instant)
    (arrivals : List (Nat × RemoteInstant)) (sender : Sender) :
    Acknowledges sender (sender.attributeAcks feedbackArrival arrivals).2
      (sender.attributeAcks feedbackArrival arrivals).1 := by
  induction arrivals generalizing sender with
  | nil => exact acknowledges_nothing rfl
  | cons entry rest ih =>
      obtain ⟨seqnum, arrival⟩ := entry
      have first := acknowledges_remove sender seqnum arrival feedbackArrival
      unfold attributeAcks
      dsimp only
      cases found : (sender.sizeBySeqnum.remove seqnum).2 with
      | none =>
          rw [found] at first
          exact first.trans (ih _)
      | some value =>
          rw [found] at first
          exact first.trans (ih _)

theorem acknowledges_attributeFeedback {profile : BuildProfile}
    {feedbackArrival : Instant} {feedback : List Bytes}
    {before after : Sender} {acks : List (Nat × Ack)}
    (attributed : before.attributeFeedback profile feedbackArrival feedback =
      .ok (after, acks)) : Acknowledges before acks after := by
  induction feedback generalizing before acks with
  | nil =>
      cases attributed
      exact acknowledges_nothing rfl
  | cons payload rest ih =>
      obtain ⟨read, _, later⟩ := bind_eq_ok_iff.mp attributed
      obtain ⟨others, fromRest, returned⟩ := bind_eq_ok_iff.mp later
      cases returned
      have moved : Acknowledges before []
          { before with maxReceivedSeqnum := read.2 } :=
        acknowledges_nothing rfl
      cases arrivals : read.1 with
      | none =>
          rw [arrivals] at fromRest
          exact moved.trans (ih fromRest)
      | some found =>
          rw [arrivals] at fromRest
          have correlated := acknowledges_attributeAcks feedbackArrival
            found.2 { before with maxReceivedSeqnum := read.2 }
          exact (moved.trans correlated).trans (ih fromRest)

end Sender

/-- What the cache holds has been remembered, and has not been acknowledged
since. -/
structure Accounts (past : List SenderEvent) (sender : Sender) : Prop where
  known : ∀ seqnum value, sender.sizeBySeqnum.get seqnum = some value →
    .rememberSent seqnum value.1 value.2 ∈ past
  counted : ∀ seqnum, timesAcked past seqnum + sender.outstanding seqnum ≤
    timesRemembered past seqnum
  attributed : Throughout (fun earlier event => ∀ entry ∈ event.acked,
    .rememberSent entry.1 entry.2.size entry.2.departure ∈ earlier) past

theorem accounts_new (created : Instant) :
    Accounts [] (Sender.new created) where
  known := by
    intro _ _ found
    cases found
  counted := fun _ => Nat.le_refl 0
  attributed := throughout_nil

section Step

variable {profile : BuildProfile} {past : List SenderEvent}
  {before after : Sender}

theorem timesAcked_snoc (past : List SenderEvent) (event : SenderEvent)
    (seqnum : Nat) : timesAcked (past ++ [event]) seqnum =
      timesAcked past seqnum + (event.acked.map Prod.fst).count seqnum := by
  unfold timesAcked
  simp

theorem timesRemembered_snoc (past : List SenderEvent) (event : SenderEvent)
    (seqnum : Nat) : timesRemembered (past ++ [event]) seqnum =
      timesRemembered past seqnum + event.remembered.count seqnum := by
  unfold timesRemembered
  simp

theorem Accounts.incrementSeqnum {seqnum : Nat}
    (accounts : Accounts past before)
    (incremented : before.incrementSeqnum = .ok (after, seqnum)) :
    Accounts (past ++ [.incrementSeqnum seqnum]) after := by
  obtain ⟨_, rfl⟩ := Sender.incrementSeqnum_eq_ok incremented
  constructor
  · intro other value found
    exact List.mem_append_left _ (accounts.known other value found)
  · intro other
    rw [timesAcked_snoc, timesRemembered_snoc]
    exact accounts.counted other
  · refine throughout_snoc.mpr ⟨accounts.attributed, ?_⟩
    intro entry member
    cases member

theorem Accounts.rememberSent (accounts : Accounts past before)
    (seqnum size : Nat) (now : Instant) :
    Accounts (past ++ [.rememberSent seqnum size now])
      (before.rememberSent seqnum size now) := by
  constructor
  · intro other value found
    rcases TwoGenerationCache.get_insert found with ⟨rfl, rfl⟩ | older
    · exact List.mem_append_right _ (List.mem_singleton.mpr rfl)
    · exact List.mem_append_left _ (accounts.known other value older)
  · intro other
    have counted := accounts.counted other
    rw [timesAcked_snoc, timesRemembered_snoc]
    change timesAcked past other + 0 + _ ≤
      timesRemembered past other + [seqnum].count other
    by_cases same : seqnum = other
    · subst same
      have once := Sender.outstanding_le_one
        (before.rememberSent seqnum size now) seqnum
      rw [List.count_singleton_self]
      omega
    · have fewer : (before.rememberSent seqnum size now).outstanding other ≤
          before.outstanding other := by
        unfold Sender.outstanding
        cases found : (before.rememberSent seqnum size
            now).sizeBySeqnum.get other with
        | none => exact Nat.zero_le _
        | some value =>
            rcases TwoGenerationCache.get_insert found with
              ⟨rfl, _⟩ | older
            · exact absurd rfl same
            · rw [older]
      omega
  · refine throughout_snoc.mpr ⟨accounts.attributed, ?_⟩
    intro entry member
    cases member

theorem Accounts.processFeedback {feedback : List Bytes}
    {feedbackArrival : Instant} {acks : List (Nat × Ack)}
    (accounts : Accounts past before)
    (attributed : before.attributeFeedback profile feedbackArrival feedback =
      .ok (after, acks)) :
    Accounts (past ++ [.processFeedback feedback feedbackArrival acks])
      after := by
  have acknowledges := Sender.acknowledges_attributeFeedback attributed
  constructor
  · intro seqnum value found
    have older := acknowledges.fewer seqnum value found
    exact List.mem_append_left _ (accounts.known seqnum value older)
  · intro seqnum
    have earlier := accounts.counted seqnum
    have here := acknowledges.counted seqnum
    rw [timesAcked_snoc, timesRemembered_snoc]
    change timesAcked past seqnum + (acks.map Prod.fst).count seqnum + _ ≤
      timesRemembered past seqnum + 0
    omega
  · refine throughout_snoc.mpr ⟨accounts.attributed, ?_⟩
    intro entry member
    exact accounts.known entry.1 _ (acknowledges.known entry member)

theorem Accounts.step {event : SenderEvent} (accounts : Accounts past before)
    (step : SenderStep profile before event after) :
    Accounts (past ++ [event]) after := by
  cases event with
  | incrementSeqnum seqnum => exact accounts.incrementSeqnum step
  | rememberSent seqnum size now =>
      cases step
      exact accounts.rememberSent seqnum size now
  | processFeedback feedback feedbackArrival acks =>
      exact accounts.processFeedback step.2

end Step

/-- No number is acknowledged more often than it has been remembered, and an
acknowledgement carries what was remembered for its number before. -/
theorem acks_are_of_remembered {profile : BuildProfile} {created : Instant}
    {finish : Sender} {history : List SenderEvent}
    (run : Run (SenderStep profile) (Sender.new created) history finish) :
    (∀ seqnum, timesAcked history seqnum ≤ timesRemembered history seqnum) ∧
      Throughout (fun earlier event => ∀ entry ∈ event.acked,
        .rememberSent entry.1 entry.2.size entry.2.departure ∈ earlier)
        history := by
  have accounts : Accounts history finish :=
    run.history_invariant (accounts_new created) Accounts.step
  refine ⟨fun seqnum => ?_, accounts.attributed⟩
  have counted := accounts.counted seqnum
  omega

/-- A packet is remembered; its feedback reports it and comes twice. -/
def repeatedFeedback : Bytes :=
  [0, 0, 0, 16, 0, 1, 0, 1, 0, 0, 0, 1, 160, 0, 0]

def repeatedAck : Nat × Ack := (1, ⟨1200, 5, 0, 9⟩)

def repeatedHistory : List SenderEvent :=
  [.rememberSent 1 1200 5,
    .processFeedback [repeatedFeedback, repeatedFeedback] 9 [repeatedAck]]

def repeatedSender : Sender :=
  (Sender.new 0).rememberSent 1 1200 5

theorem attributed_repeated :
    (repeatedSender.attributeFeedback .debug 9
        [repeatedFeedback, repeatedFeedback]).toOption.map Prod.snd =
      some [repeatedAck] := by
  decide +kernel

theorem acks_are_of_remembered_twice :
    timesAcked repeatedHistory 1 ≤ 1 ∧
      Throughout (fun earlier event => ∀ entry ∈ event.acked,
        .rememberSent entry.1 entry.2.size entry.2.departure ∈ earlier)
        repeatedHistory := by
  have remembered : Run (SenderStep .debug) (Sender.new 0)
      [.rememberSent 1 1200 5] repeatedSender :=
    .snoc .nil rfl
  have acknowledged := attributed_repeated
  cases attributed : repeatedSender.attributeFeedback .debug 9
      [repeatedFeedback, repeatedFeedback] with
  | error failure =>
      rw [attributed] at acknowledged
      cases acknowledged
  | ok result =>
      rw [attributed] at acknowledged
      obtain ⟨after, acks⟩ := result
      cases acknowledged
      have processed : SenderStep .debug repeatedSender
          (.processFeedback [repeatedFeedback, repeatedFeedback] 9
            [repeatedAck]) after := by
        refine ⟨?_, attributed⟩
        rw [Sender.processFeedback_eq, attributed]
        rfl
      obtain ⟨counted, ofRemembered⟩ :=
        acks_are_of_remembered (remembered.snoc processed)
      exact ⟨counted 1, ofRemembered⟩

end CallingService.Backend.Tcc
