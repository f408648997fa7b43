import CallingService.Backend.Tcc.Feedback
import CallingService.Common.FloatingPoint
import CallingService.Foundation.Consecutive
import CallingService.Foundation.Pipeline
import Mathlib.Order.Bounds.Basic

/-!
# Groups of packets that were sent together

Acknowledgements of packets that departed in one burst are summed up as a
group.  A group is put out together with the first acknowledgement after it.
Acknowledgements of packets that departed before the first one of their group
are dropped.
-/

namespace CallingService.Backend.Googcc

open Foundation Tcc FloatingPoint

variable (F : Type) [FloatingPoint F]

/-- `time_delta_since`, in seconds. -/
def timeDeltaSince (later earlier : Nat) : F :=
  if earlier < later then asSecsF64 (later - earlier)
  else -asSecsF64 (earlier - later)

structure AckGroupSummary where
  latestDeparture : Instant
  latestArrival : RemoteInstant
  latestFeedbackArrival : Instant
deriving DecidableEq, Repr

namespace AckGroupSummary

def ofAck (ack : Ack) : AckGroupSummary where
  latestDeparture := ack.departure
  latestArrival := ack.arrival
  latestFeedbackArrival := ack.feedbackArrival

def add (group : AckGroupSummary) (ack : Ack) : AckGroupSummary where
  latestDeparture := max group.latestDeparture ack.departure
  latestArrival := max group.latestArrival ack.arrival
  latestFeedbackArrival := max group.latestFeedbackArrival ack.feedbackArrival

/-- Whether the next acknowledgement belongs to the group that began with the
first one. -/
def combines (group : AckGroupSummary) (first next : Ack) : Bool :=
  let ackGroupMinDuration : F := 5.0 / 1000.0
  let ackGroupMaxDuration : F := 100.0 / 1000.0
  let departedAtSameTime := next.departure == group.latestDeparture
  let departureGap : F := timeDeltaSince F next.departure group.latestDeparture
  let arrivalGap : F := timeDeltaSince F next.arrival group.latestArrival
  let departureDurationWouldBeSmall : Bool :=
    timeDeltaSince F next.departure first.departure ≤ ackGroupMinDuration
  let arrivalGapIsSmall : Bool :=
    arrivalGap < departureGap ∧ arrivalGap ≤ ackGroupMinDuration
  let arrivalDurationWouldntBeBig : Bool :=
    timeDeltaSince F next.arrival first.arrival < ackGroupMaxDuration
  departedAtSameTime || departureDurationWouldBeSmall ||
    (arrivalGapIsSmall && arrivalDurationWouldntBeBig)

end AckGroupSummary

/-- What `accumulate_ack_groups` keeps between two acknowledgements. -/
structure OpenGroup where
  first : Ack
  group : AckGroupSummary

namespace OpenGroup

def start (first : Ack) : OpenGroup where
  first := first
  group := .ofAck first

/-- Read the next acknowledgement.  The one that starts a new group has only
been peeked at when the old one is yielded, and is read again as the first of
the new one. -/
def turn : Option OpenGroup → Ack →
    Option (AckGroupSummary × Ack) × Option OpenGroup
  | none, first => (none, some (start first))
  | some current, next =>
      if current.first.departure ≤ next.departure then
        if current.group.combines F current.first next then
          (none, some { current with group := current.group.add next })
        else (some (current.group, next), some (start next))
      else (none, some current)

theorem turn_some (current : OpenGroup) (next : Ack) :
    turn F (some current) next =
      if current.first.departure ≤ next.departure then
        if current.group.combines F current.first next then
          (none, some { current with group := current.group.add next })
        else (some (current.group, next), some (start next))
      else (none, some current) := rfl

end OpenGroup

/-- The step of `accumulate_ack_groups`. -/
def accumulateAckGroupsStep : Option OpenGroup → Ack →
    Option (AckGroupSummary × Ack) × Except Panic (Option OpenGroup) :=
  unfailing (OpenGroup.turn F)

def accumulateAckGroups (acks : List Ack) : List (AckGroupSummary × Ack) :=
  (transduce (accumulateAckGroupsStep F) none acks).1

/-! ## The groups of a stream -/

/-- The acknowledgements of a group, in the order in which they are read. -/
structure AckBurst where
  first : Ack
  others : List Ack

namespace AckBurst

def members (burst : AckBurst) : List Ack := burst.first :: burst.others

def summary (burst : AckBurst) : AckGroupSummary :=
  burst.others.foldl AckGroupSummary.add (.ofAck burst.first)

def push (burst : AckBurst) (ack : Ack) : AckBurst :=
  { burst with others := burst.others ++ [ack] }

@[simp] theorem first_push (burst : AckBurst) (ack : Ack) :
    (burst.push ack).first = burst.first := rfl

@[simp] theorem summary_push (burst : AckBurst) (ack : Ack) :
    (burst.push ack).summary = burst.summary.add ack :=
  List.foldl_concat ..

@[simp] theorem members_push (burst : AckBurst) (ack : Ack) :
    (burst.push ack).members = burst.members ++ [ack] := rfl

/-- A member was not sent before the first one. -/
def FromFirst (burst : AckBurst) : Prop :=
  ∀ ack ∈ burst.members, burst.first.departure ≤ ack.departure

/-- The second burst was sent more than 5 ms after the first one began. -/
def Apart (burst later : AckBurst) : Prop :=
  burst.first.departure + fromMillis 5 < later.first.departure

/-- The first acknowledgement of the next burst did not belong to this one. -/
def EndedBy (burst later : AckBurst) : Prop :=
  burst.first.departure ≤ later.first.departure ∧
    burst.summary.combines F burst.first later.first = false

end AckBurst

/-- Each burst but the last one is yielded with the first acknowledgement of
the next one. -/
def yieldsOf (bursts : List AckBurst) : List (AckGroupSummary × Ack) :=
  consecutive (fun burst next => (burst.summary, next.first)) bursts

/-- How the bursts and the dropped acknowledgements make up a stream. -/
structure Grouping (acks : List Ack) (bursts : List AckBurst)
    (dropped : List Ack) : Prop where
  inOrder : (bursts.flatMap AckBurst.members).Sublist acks
  whole : acks.Perm (bursts.flatMap AckBurst.members ++ dropped)
  fromFirst : ∀ burst ∈ bursts, burst.FromFirst
  ended : bursts.IsChain (AckBurst.EndedBy F)
  reordered : ∀ ack ∈ dropped, ∃ burst ∈ bursts,
    ack.departure < burst.first.departure ∧
      [burst.first, ack].Sublist acks

namespace Grouping

variable {F}
variable {acks : List Ack} {bursts : List AckBurst} {dropped : List Ack}

theorem nil : Grouping F [] [] [] where
  inOrder := List.Sublist.slnil
  whole := List.Perm.nil
  fromFirst := by
    intro burst member
    cases member
  ended := List.isChain_nil
  reordered := by
    intro ack member
    cases member

theorem singleton (first : Ack) : Grouping F [first] [⟨first, []⟩] [] where
  inOrder := List.Sublist.refl _
  whole := List.Perm.refl _
  fromFirst := by
    intro burst member ack inside
    cases List.mem_singleton.mp member
    cases List.mem_singleton.mp inside
    exact Nat.le_refl _
  ended := List.isChain_singleton _
  reordered := by
    intro ack member
    cases member

theorem reordered_append (grouping : Grouping F acks bursts dropped)
    {later : List AckBurst}
    (kept : ∀ burst ∈ bursts, ∃ other ∈ later, other.first = burst.first)
    (next ack : Ack) (member : ack ∈ dropped) :
    ∃ burst ∈ later, ack.departure < burst.first.departure ∧
      [burst.first, ack].Sublist (acks ++ [next]) := by
  obtain ⟨burst, among, earlier, order⟩ := grouping.reordered ack member
  obtain ⟨other, found, same⟩ := kept burst among
  refine ⟨other, found, same ▸ earlier, ?_⟩
  exact same ▸ order.trans (List.sublist_append_left _ _)

/-- The next acknowledgement joins the last burst. -/
theorem join {last : AckBurst} {next : Ack}
    (grouping : Grouping F acks (bursts ++ [last]) dropped)
    (fromFirst : last.first.departure ≤ next.departure) :
    Grouping F (acks ++ [next]) (bursts ++ [last.push next]) dropped where
  inOrder := by
    have inOrder := grouping.inOrder
    rw [List.flatMap_append, List.flatMap_singleton] at inOrder ⊢
    rw [AckBurst.members_push, ← List.append_assoc]
    exact inOrder.append (List.Sublist.refl _)
  whole := by
    have whole := grouping.whole
    rw [List.flatMap_append, List.flatMap_singleton] at whole ⊢
    rw [AckBurst.members_push, ← List.append_assoc, List.append_assoc _ [next]]
    refine (whole.append_right [next]).trans ?_
    rw [List.append_assoc]
    exact List.perm_append_comm.append_left _
  fromFirst := by
    intro burst member
    rcases List.mem_append.mp member with earlier | isLast
    · exact grouping.fromFirst burst (List.mem_append_left _ earlier)
    · cases List.mem_singleton.mp isLast
      intro ack inside
      rcases List.mem_append.mp (AckBurst.members_push last next ▸ inside) with
        before | isNext
      · exact grouping.fromFirst last
          (List.mem_append_right _ (List.mem_singleton_self _)) ack before
      · cases List.mem_singleton.mp isNext
        exact fromFirst
  ended := by
    have chained := List.isChain_append.mp grouping.ended
    refine List.isChain_append.mpr
      ⟨chained.1, List.isChain_singleton _, ?_⟩
    intro earlier isLast burst isHead
    cases isHead
    exact chained.2.2 earlier isLast last rfl
  reordered := by
    intro ack member
    apply grouping.reordered_append ?_ next ack member
    intro burst among
    rcases List.mem_append.mp among with earlier | isLast
    · exact ⟨burst, List.mem_append_left _ earlier, rfl⟩
    · cases List.mem_singleton.mp isLast
      exact ⟨_, List.mem_append_right _ (List.mem_singleton_self _), rfl⟩

/-- The next acknowledgement starts a new burst. -/
theorem startNext {last : AckBurst} {next : Ack}
    (grouping : Grouping F acks (bursts ++ [last]) dropped)
    (ended : last.EndedBy F ⟨next, []⟩) :
    Grouping F (acks ++ [next]) (bursts ++ [last] ++ [⟨next, []⟩])
      dropped where
  inOrder := by
    rw [List.flatMap_append]
    exact grouping.inOrder.append (List.Sublist.refl _)
  whole := by
    rw [List.flatMap_append, List.flatMap_singleton,
      List.append_assoc _ _ dropped]
    refine (grouping.whole.append_right [next]).trans ?_
    rw [List.append_assoc]
    exact List.perm_append_comm.append_left _
  fromFirst := by
    intro burst member
    rcases List.mem_append.mp member with earlier | isNew
    · exact grouping.fromFirst burst earlier
    · cases List.mem_singleton.mp isNew
      intro ack inside
      cases List.mem_singleton.mp inside
      exact Nat.le_refl _
  ended := by
    refine List.isChain_append.mpr
      ⟨grouping.ended, List.isChain_singleton _, ?_⟩
    intro burst isLast new isHead
    rw [List.getLast?_concat] at isLast
    cases isLast
    cases isHead
    exact ended
  reordered := by
    intro ack member
    apply grouping.reordered_append ?_ next ack member
    intro burst among
    exact ⟨burst, List.mem_append_left _ among, rfl⟩

/-- The next acknowledgement is dropped. -/
theorem drop {last : AckBurst} {next : Ack}
    (grouping : Grouping F acks (bursts ++ [last]) dropped)
    (before : next.departure < last.first.departure) :
    Grouping F (acks ++ [next]) (bursts ++ [last]) (dropped ++ [next]) where
  inOrder := grouping.inOrder.trans (List.sublist_append_left _ _)
  whole := by
    rw [← List.append_assoc]
    exact grouping.whole.append_right [next]
  fromFirst := grouping.fromFirst
  ended := grouping.ended
  reordered := by
    intro ack member
    rcases List.mem_append.mp member with earlier | isNext
    · apply grouping.reordered_append ?_ next ack earlier
      intro burst among
      exact ⟨burst, among, rfl⟩
    · cases List.mem_singleton.mp isNext
      have among : last ∈ bursts ++ [last] :=
        List.mem_append_right _ (List.mem_singleton_self _)
      have read : last.first ∈ acks := by
        apply grouping.inOrder.subset
        exact List.mem_flatMap.mpr ⟨last, among, List.mem_cons_self⟩
      refine ⟨last, among, before, ?_⟩
      exact (List.singleton_sublist.mpr read).append (List.Sublist.refl _)

/-- Without a burst nothing has been read. -/
theorem eq_nil (grouping : Grouping F acks [] dropped) :
    acks = [] ∧ dropped = [] := by
  have none : dropped = [] := by
    apply List.eq_nil_iff_forall_not_mem.mpr
    intro ack member
    obtain ⟨_, among, _⟩ := grouping.reordered ack member
    cases among
  have whole := grouping.whole
  rw [none] at whole
  exact ⟨whole.eq_nil, none⟩

end Grouping

/-- The open group is the last burst of the stream. -/
inductive Holds : Option OpenGroup → List AckBurst → Prop where
  | nothing : Holds none []
  | last (bursts : List AckBurst) (last : AckBurst) :
      Holds (some ⟨last.first, last.summary⟩) (bursts ++ [last])

/-- One acknowledgement is read. -/
theorem grouping_turn {acks : List Ack} {bursts : List AckBurst}
    {dropped : List Ack} {state : Option OpenGroup}
    (grouping : Grouping F acks bursts dropped) (holds : Holds state bursts)
    (next : Ack) :
    ∃ bursts' dropped', Grouping F (acks ++ [next]) bursts' dropped' ∧
      Holds (OpenGroup.turn F state next).2 bursts' ∧
      yieldsOf bursts' =
        yieldsOf bursts ++ (OpenGroup.turn F state next).1.toList := by
  cases holds with
  | nothing =>
      obtain ⟨rfl, rfl⟩ := grouping.eq_nil
      exact ⟨[⟨next, []⟩], [], .singleton next, .last [] ⟨next, []⟩, rfl⟩
  | last bursts last =>
      rw [OpenGroup.turn_some]
      split
      · rename_i fromFirst
        split
        · refine ⟨_, dropped, grouping.join fromFirst, ?_, ?_⟩
          · rw [← AckBurst.summary_push]
            exact .last bursts (last.push next)
          · rw [Option.toList_none, List.append_nil]
            exact @consecutive_replace_last _ _ _ (last.push next) last
              (fun _ => rfl) bursts
        · rename_i separate
          have ended : last.EndedBy F ⟨next, []⟩ :=
            ⟨fromFirst, Bool.eq_false_of_not_eq_true separate⟩
          exact ⟨_, dropped, grouping.startNext ended,
            .last (bursts ++ [last]) ⟨next, []⟩, consecutive_snoc _ _ _⟩
      · rename_i before
        refine ⟨_, _, grouping.drop (Nat.not_le.mp before),
          .last bursts last, ?_⟩
        rw [Option.toList_none, List.append_nil]

theorem grouping_of_run {acks : List Ack} {state : Option OpenGroup}
    (run : Run (Proceeds (accumulateAckGroupsStep F)) none acks state) :
    ∃ bursts dropped, Grouping F acks bursts dropped ∧ Holds state bursts ∧
      yieldsOf bursts = (transduce (accumulateAckGroupsStep F) none acks).1 := by
  induction run with
  | nil => exact ⟨[], [], .nil, .nothing, rfl⟩
  | @snoc past next before after run moved ih =>
      obtain ⟨bursts, dropped, grouping, holds, yields⟩ := ih
      obtain ⟨bursts', dropped', grouped, held, yielded⟩ :=
        grouping_turn F grouping holds next
      rw [← proceeds_unfailing.mp moved]
      refine ⟨bursts', dropped', grouped, held, ?_⟩
      rw [yielded, yields, transduce_snoc run]
      rfl

/-! ## Bursts are apart -/

variable {F}

theorem AckBurst.apart_of_endedBy (time : MeasuresTime F)
    {burst later : AckBurst} (ended : burst.EndedBy F later) :
    burst.Apart later := by
  obtain ⟨fromFirst, separate⟩ := ended
  by_contra close
  have within : later.first.departure - burst.first.departure ≤
      fromMillis 5 := Nat.sub_le_of_le_add (Nat.add_comm _ _ ▸
        Nat.not_lt.mp close)
  have small : timeDeltaSince F later.first.departure burst.first.departure ≤
      (5.0 / 1000.0 : F) := by
    unfold timeDeltaSince
    rw [time.fiveMillis]
    split
    · exact time.mono within
    · exact time.negative _ _
  unfold AckGroupSummary.combines at separate
  simp only [decide_eq_true small, Bool.or_true, Bool.true_or] at separate
  cases separate

theorem AckBurst.Apart.trans {burst middle later : AckBurst}
    (first : burst.Apart middle) (second : middle.Apart later) :
    burst.Apart later :=
  Nat.lt_trans (Nat.lt_of_lt_of_le first (Nat.le_add_right _ _)) second

instance : Trans AckBurst.Apart AckBurst.Apart AckBurst.Apart :=
  ⟨AckBurst.Apart.trans⟩

/-! ## Summaries are maxima -/

/-- The summary of a burst has the latest times of its members. -/
structure AckBurst.Summarizes (burst : AckBurst) : Prop where
  departure : IsGreatest {time | ∃ ack ∈ burst.members, ack.departure = time}
    burst.summary.latestDeparture
  arrival : IsGreatest {time | ∃ ack ∈ burst.members, ack.arrival = time}
    burst.summary.latestArrival
  feedbackArrival :
    IsGreatest {time | ∃ ack ∈ burst.members, ack.feedbackArrival = time}
      burst.summary.latestFeedbackArrival

theorem isGreatest_snoc {acks : List Ack} {next : Ack} {latest : Nat}
    {time : Ack → Nat}
    (greatest : IsGreatest {value | ∃ ack ∈ acks, time ack = value} latest) :
    IsGreatest {value | ∃ ack ∈ acks ++ [next], time ack = value}
      (max latest (time next)) := by
  have union : {value | ∃ ack ∈ acks ++ [next], time ack = value} =
      {value | ∃ ack ∈ acks, time ack = value} ∪ {time next} := by
    ext value
    simp [or_and_right, exists_or, eq_comm, or_comm]
  rw [union]
  exact greatest.union isGreatest_singleton

theorem AckBurst.summarizes (burst : AckBurst) : burst.Summarizes := by
  obtain ⟨first, others⟩ := burst
  induction others using List.reverseRecOn with
  | nil =>
      have one : ∀ time : Ack → Nat,
          IsGreatest {value | ∃ ack ∈ [first], time ack = value}
            (time first) := by
        intro time
        refine ⟨⟨first, List.mem_singleton_self _, rfl⟩, ?_⟩
        rintro value ⟨ack, member, rfl⟩
        cases List.mem_singleton.mp member
        exact Nat.le_refl _
      exact ⟨one _, one _, one _⟩
  | append_singleton others next ih =>
      have pushed := AckBurst.summary_push ⟨first, others⟩ next
      change AckBurst.Summarizes (AckBurst.push ⟨first, others⟩ next)
      constructor <;> rw [pushed, AckBurst.members_push]
      · exact isGreatest_snoc ih.departure
      · exact isGreatest_snoc ih.arrival
      · exact isGreatest_snoc ih.feedbackArrival

/-- The groups are the bursts of the stream: each acknowledgement is in one of
them or was reordered and dropped, and a group that is put out has the latest
times of its burst. -/
theorem ack_groups_are_bursts (time : MeasuresTime F) (acks : List Ack) :
    ∃ bursts dropped, Grouping F acks bursts dropped ∧
      accumulateAckGroups F acks = yieldsOf bursts ∧
      bursts.Pairwise AckBurst.Apart ∧
      ∀ burst ∈ bursts, burst.Summarizes := by
  obtain ⟨state, run⟩ := @exists_run_unfailing _ _ _ Panic
    (OpenGroup.turn F) none acks
  obtain ⟨bursts, dropped, grouping, _, yields⟩ := grouping_of_run F run
  refine ⟨bursts, dropped, grouping, yields.symm, ?_, ?_⟩
  · apply List.isChain_iff_pairwise.mp
    exact grouping.ended.imp fun _ _ => AckBurst.apart_of_endedBy time
  · intro burst _
    exact burst.summarizes

/-- Two packets in a burst, one that departed before the second burst, and the
first one of a third burst. -/
def burstAcks : List Ack :=
  [⟨80, fromMillis 0, fromMillis 40, fromMillis 90⟩,
    ⟨80, fromMillis 3, fromMillis 44, fromMillis 90⟩,
    ⟨80, fromMillis 20, fromMillis 61, fromMillis 120⟩,
    ⟨80, fromMillis 10, fromMillis 62, fromMillis 120⟩,
    ⟨80, fromMillis 40, fromMillis 90, fromMillis 150⟩]

theorem ack_groups_are_bursts_three_bursts :
    (@accumulateAckGroups ℚ exactRationals burstAcks).map
        (fun yielded => yielded.1.latestArrival) =
      [fromMillis 44, fromMillis 61] ∧
    ∃ bursts dropped, @Grouping ℚ exactRationals burstAcks bursts dropped ∧
      @accumulateAckGroups ℚ exactRationals burstAcks = yieldsOf bursts ∧
      bursts.Pairwise AckBurst.Apart ∧
      ∀ burst ∈ bursts, burst.Summarizes := by
  constructor
  · decide +kernel
  · exact @ack_groups_are_bursts ℚ exactRationals measuresTime_exactRationals
      burstAcks

end CallingService.Backend.Googcc
