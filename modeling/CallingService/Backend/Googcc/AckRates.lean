import CallingService.Backend.Pacer
import CallingService.Backend.Tcc.Feedback
import CallingService.Foundation.Transducer
import Mathlib.Data.List.Chain

/-!
# Groups of acknowledgements

The congestion controller sums up the sizes of the acknowledged packets over
groups of a fixed duration.  A group ends with the acknowledgement that
completes its duration; the size of that one belongs to the next group, and so
does the time by which it came too late.
-/

namespace CallingService.Backend.Googcc

open Foundation Tcc

def initialAckGroupDuration : Duration := fromMillis 500

def subsequentAckGroupDuration : Duration := fromMillis 150

/-- What `accumulate_acked_sizes` keeps between two acknowledgements. -/
structure AckGroup where
  ack1 : Ack
  accumulatedSize : DataSize
  accumulatedDuration : Duration
  targetAckGroupDuration : Duration
deriving DecidableEq, Repr

namespace AckGroup

def start (ack1 : Ack) : AckGroup where
  ack1 := ack1
  accumulatedSize := ack1.size
  accumulatedDuration := 0
  targetAckGroupDuration := initialAckGroupDuration

/-- The group with the time up to the next acknowledgement, and what is
yielded before its size is added. -/
def close (group : AckGroup) (ack2 : Ack) :
    AckGroup × Option (DataSize × Duration) :=
  if ack2.arrival < group.ack1.arrival then
    ({ group with accumulatedSize := 0, accumulatedDuration := 0 }, none)
  else
    let arrivalDelta := ack2.arrival - group.ack1.arrival
    let accumulatedDuration := group.accumulatedDuration + arrivalDelta
    let target := group.targetAckGroupDuration
    if target < arrivalDelta then
      ({ group with
          accumulatedSize := 0
          accumulatedDuration :=
            fromMicros (asMicros accumulatedDuration % asMicros target) },
        none)
    else if target ≤ accumulatedDuration then
      ({ group with
          accumulatedSize := 0
          accumulatedDuration := accumulatedDuration - target
          targetAckGroupDuration := subsequentAckGroupDuration },
        some (group.accumulatedSize, target))
    else ({ group with accumulatedDuration := accumulatedDuration }, none)

/-- One turn of the loop.  The sum of the sizes may overflow. -/
def turn (profile : BuildProfile) (group : AckGroup) (ack2 : Ack) :
    Option (DataSize × Duration) × Except Panic AckGroup :=
  let (closed, yielded) := group.close ack2
  (yielded, do
    let size ← profile.addU64 closed.accumulatedSize ack2.size
    return { closed with accumulatedSize := size, ack1 := ack2 })

end AckGroup

/-- The sizes and durations that are yielded, and the panic that ended the
stream. -/
def accumulateAckedSizes (profile : BuildProfile) :
    List Ack → List (DataSize × Duration) × Option Panic
  | [] => ([], none)
  | ack1 :: acks => transduce (AckGroup.turn profile) (.start ack1) acks

@[simp]
theorem accumulateAckedSizes_cons (profile : BuildProfile) (ack1 : Ack)
    (acks : List Ack) :
    accumulateAckedSizes profile (ack1 :: acks) =
      transduce (AckGroup.turn profile) (.start ack1) acks := rfl

/-! ## Conservation -/

def totalSize (acks : List Ack) : DataSize := (acks.map Ack.size).sum

/-- The next acknowledgement is in order and follows without a gap. -/
def SoonAfter (ack1 ack2 : Ack) : Prop :=
  ack1.arrival ≤ ack2.arrival ∧ ack2.arrival ≤ ack1.arrival + fromMillis 150

/-- The addition of sizes is exact: a debug build checks it, and in a release
build these sizes do not overflow. -/
def SumsExactly (profile : BuildProfile) (acks : List Ack) : Prop :=
  profile = .debug ∨ totalSize acks < 2 ^ 64

/-- Where the sizes and the time of the acknowledgements so far are. -/
structure Accounts (profile : BuildProfile) (first : Ack) (past : List Ack)
    (yielded : List (DataSize × Duration)) (group : AckGroup) : Prop where
  last : (first :: past).getLast? = some group.ack1
  sizes : SumsExactly profile (first :: past) →
    (yielded.map Prod.fst).sum + group.accumulatedSize =
      totalSize (first :: past)
  durations : first.arrival +
    ((yielded.map Prod.snd).sum + group.accumulatedDuration) =
      group.ack1.arrival
  unfilled : group.accumulatedDuration < group.targetAckGroupDuration
  target : group.targetAckGroupDuration = initialAckGroupDuration ∨
    group.targetAckGroupDuration = subsequentAckGroupDuration

theorem accounts_start (profile : BuildProfile) (first : Ack) :
    Accounts profile first [] [] (.start first) where
  last := rfl
  sizes := by
    intro _
    exact Nat.zero_add _
  durations := rfl
  unfilled := by
    change 0 < initialAckGroupDuration
    decide
  target := .inl rfl

variable {profile : BuildProfile} {group : AckGroup}

theorem Accounts.target_ge {first : Ack} {past : List Ack}
    {yielded : List (DataSize × Duration)}
    (accounts : Accounts profile first past yielded group) :
    fromMillis 150 ≤ group.targetAckGroupDuration := by
  rcases accounts.target with same | same <;> rw [same] <;> decide

theorem close_unfilled {ack2 : Ack} (soon : SoonAfter group.ack1 ack2)
    (room : fromMillis 150 ≤ group.targetAckGroupDuration)
    (unfilled : group.accumulatedDuration +
      (ack2.arrival - group.ack1.arrival) < group.targetAckGroupDuration) :
    group.close ack2 =
      ({ group with
          accumulatedDuration := group.accumulatedDuration +
            (ack2.arrival - group.ack1.arrival) }, none) := by
  have delta := Nat.sub_le_of_le_add (Nat.add_comm _ _ ▸ soon.2)
  unfold AckGroup.close
  dsimp only
  rw [if_neg (Nat.not_lt.mpr soon.1),
    if_neg (Nat.not_lt.mpr (delta.trans room)),
    if_neg (Nat.not_le.mpr unfilled)]

theorem close_filled {ack2 : Ack} (soon : SoonAfter group.ack1 ack2)
    (room : fromMillis 150 ≤ group.targetAckGroupDuration)
    (filled : group.targetAckGroupDuration ≤ group.accumulatedDuration +
      (ack2.arrival - group.ack1.arrival)) :
    group.close ack2 =
      ({ group with
          accumulatedSize := 0
          accumulatedDuration := group.accumulatedDuration +
            (ack2.arrival - group.ack1.arrival) -
              group.targetAckGroupDuration
          targetAckGroupDuration := subsequentAckGroupDuration },
        some (group.accumulatedSize, group.targetAckGroupDuration)) := by
  have delta := Nat.sub_le_of_le_add (Nat.add_comm _ _ ▸ soon.2)
  unfold AckGroup.close
  dsimp only
  rw [if_neg (Nat.not_lt.mpr soon.1),
    if_neg (Nat.not_lt.mpr (delta.trans room)), if_pos filled]

/-- The time by which an acknowledgement comes too late is less than the time
since the one before it. -/
theorem left_over {ack2 : Ack} (soon : SoonAfter group.ack1 ack2)
    (unfilled : group.accumulatedDuration < group.targetAckGroupDuration)
    (filled : group.targetAckGroupDuration ≤ group.accumulatedDuration +
      (ack2.arrival - group.ack1.arrival)) :
    group.accumulatedDuration + (ack2.arrival - group.ack1.arrival) -
      group.targetAckGroupDuration < subsequentAckGroupDuration := by
  have delta : ack2.arrival - group.ack1.arrival ≤
      subsequentAckGroupDuration :=
    Nat.sub_le_of_le_add (Nat.add_comm _ _ ▸ soon.2)
  apply Nat.sub_lt_left_of_lt_add filled
  exact Nat.add_lt_add_of_lt_of_le unfilled delta

theorem of_turn {group next : AckGroup} {ack2 : Ack}
    (turned : Proceeds (AckGroup.turn profile) group ack2 next) :
    ∃ size, profile.addU64 (group.close ack2).1.accumulatedSize ack2.size =
        .ok size ∧
      next = { (group.close ack2).1 with
        accumulatedSize := size, ack1 := ack2 } := by
  obtain ⟨size, added, finished⟩ := bind_eq_ok_iff.mp turned
  cases finished
  exact ⟨size, added, rfl⟩

theorem totalSize_snoc (acks : List Ack) (ack : Ack) :
    totalSize (acks ++ [ack]) = totalSize acks + ack.size := by
  simp [totalSize]

theorem sumsExactly_of_snoc {acks : List Ack} {ack : Ack}
    (exactly : SumsExactly profile (acks ++ [ack])) :
    SumsExactly profile acks := by
  refine exactly.imp_right fun small => ?_
  rw [totalSize_snoc] at small
  exact Nat.lt_of_le_of_lt (Nat.le_add_right _ _) small

/-- The size of an acknowledgement is added to what is left of the sum. -/
theorem addU64_eq_add {acks : List Ack} {ack : Ack} {left sum : DataSize}
    (exactly : SumsExactly profile (acks ++ [ack]))
    (part : left ≤ totalSize acks)
    (added : profile.addU64 left ack.size = .ok sum) :
    sum = left + ack.size := by
  unfold BuildProfile.addU64 at added
  split at added
  · cases added
    rfl
  · rename_i overflow
    rcases exactly with isDebug | small
    · rw [if_pos isDebug] at added
      cases added
    · rw [totalSize_snoc] at small
      have := Nat.lt_of_le_of_lt (Nat.add_le_add_right part _) small
      exact absurd this overflow

theorem elapsed_kept {start yielded accumulated last next : Nat}
    (before : start + (yielded + accumulated) = last) (inOrder : last ≤ next) :
    start + (yielded + (accumulated + (next - last))) = next := by
  omega

theorem elapsed_yielded {start yielded accumulated last next target : Nat}
    (before : start + (yielded + accumulated) = last) (inOrder : last ≤ next)
    (filled : target ≤ accumulated + (next - last)) :
    start + (yielded + target + (accumulated + (next - last) - target)) =
      next := by
  omega

theorem accounts_turn {first ack2 : Ack} {past : List Ack}
    {yielded : List (DataSize × Duration)} {group next : AckGroup}
    (accounts : Accounts profile first past yielded group)
    (soon : SoonAfter group.ack1 ack2)
    (turned : Proceeds (AckGroup.turn profile) group ack2 next) :
    Accounts profile first (past ++ [ack2])
      (yielded ++ (group.turn profile ack2).1.toList) next := by
  obtain ⟨size, added, rfl⟩ := of_turn turned
  have room := accounts.target_ge
  have last : ((first :: past) ++ [ack2]).getLast? = some ack2 :=
    List.getLast?_concat
  change Accounts profile first (past ++ [ack2])
    (yielded ++ (group.close ack2).2.toList) _
  rcases Nat.lt_or_ge (group.accumulatedDuration +
    (ack2.arrival - group.ack1.arrival)) group.targetAckGroupDuration with
    unfilled | filled
  · have closed := close_unfilled soon room unfilled
    rw [closed] at added ⊢
    refine ⟨last, ?_, ?_, unfilled, accounts.target⟩
    · intro exactly
      have before := accounts.sizes
        (@sumsExactly_of_snoc _ (first :: past) _ exactly)
      have part : group.accumulatedSize ≤ totalSize (first :: past) := by
        rw [← before]
        exact Nat.le_add_left _ _
      rw [addU64_eq_add exactly part added]
      change _ = totalSize ((first :: past) ++ [ack2])
      rw [totalSize_snoc, ← before, Option.toList_none, List.append_nil,
        Nat.add_assoc]
    · rw [Option.toList_none, List.append_nil]
      exact elapsed_kept accounts.durations soon.1
  · have closed := close_filled soon room filled
    rw [closed] at added ⊢
    refine ⟨last, ?_, ?_, left_over soon accounts.unfilled filled, .inr rfl⟩
    · intro exactly
      have before := accounts.sizes
        (@sumsExactly_of_snoc _ (first :: past) _ exactly)
      rw [@addU64_eq_add _ (first :: past) _ _ _ exactly (Nat.zero_le _)
        added]
      change _ = totalSize ((first :: past) ++ [ack2])
      rw [totalSize_snoc, ← before, List.map_append, List.sum_append]
      simp
    · rw [List.map_append, List.sum_append]
      exact elapsed_yielded accounts.durations soon.1 filled

theorem accounts_of_run {first : Ack} {past : List Ack}
    (run : Run (Proceeds (AckGroup.turn profile)) (.start first) past group)
    (soon : (first :: past).IsChain SoonAfter) :
    Accounts profile first past
      (transduce (AckGroup.turn profile) (.start first) past).1 group := by
  induction run with
  | nil => exact accounts_start profile first
  | @snoc past ack2 group next run turned ih =>
      have whole : ((first :: past) ++ [ack2]).IsChain SoonAfter := soon
      have chained := List.isChain_append.mp whole
      have accounts := ih chained.1
      have follows : SoonAfter group.ack1 ack2 :=
        chained.2.2 _ accounts.last _ rfl
      rw [transduce_snoc run]
      exact accounts_turn accounts follows turned

/-- A group is yielded only for an acknowledgement that completes it. -/
theorem of_yielded {first ack2 : Ack} {past : List Ack}
    {yielded : List (DataSize × Duration)} {output : DataSize × Duration}
    (accounts : Accounts profile first past yielded group)
    (soon : SoonAfter group.ack1 ack2)
    (puts : (group.turn profile ack2).1 = some output) :
    output = (group.accumulatedSize, group.targetAckGroupDuration) ∧
      group.targetAckGroupDuration ≤ group.accumulatedDuration +
        (ack2.arrival - group.ack1.arrival) := by
  have room := accounts.target_ge
  change (group.close ack2).2 = some output at puts
  rcases Nat.lt_or_ge (group.accumulatedDuration +
    (ack2.arrival - group.ack1.arrival)) group.targetAckGroupDuration with
    unfilled | filled
  · rw [close_unfilled soon room unfilled] at puts
    cases puts
  · rw [close_filled soon room filled] at puts
    cases puts
    exact ⟨rfl, filled⟩

/-- The yield with this number has been triggered by one of the
acknowledgements, and with it the sizes of all those before that one have been
yielded, and all of their time but less than 500 ms. -/
def Conserved (profile : BuildProfile) (acks : List Ack) (number : Nat) :
    Prop :=
  ∃ first before trigger later,
    acks = first :: before ++ trigger :: later ∧
    let yields := (accumulateAckedSizes profile acks).1
    let yielded := yields.take (number + 1)
    let elapsed := trigger.arrival - first.arrival
    (accumulateAckedSizes profile (first :: before)).1 =
      yields.take number ∧
    (accumulateAckedSizes profile (first :: before ++ [trigger])).1 =
      yielded ∧
    (SumsExactly profile (first :: before) →
      (yielded.map Prod.fst).sum = totalSize (first :: before)) ∧
    (yielded.map Prod.snd).sum ≤ elapsed ∧
    elapsed < (yielded.map Prod.snd).sum + fromMillis 500

/-- What is left of the group after a yield is less than a whole one. -/
theorem elapsed_bounds {start yielded accumulated last next target : Nat}
    (before : start + (yielded + accumulated) = last) (inOrder : last ≤ next)
    (unfilled : accumulated < target)
    (filled : target ≤ accumulated + (next - last))
    (soon : next ≤ last + 150000000) :
    yielded + target ≤ next - start ∧
      next - start < yielded + target + 500000000 := by
  omega

theorem conserved_of_isChain {acks : List Ack} (soon : acks.IsChain SoonAfter)
    {number : Nat}
    (inside : number < (accumulateAckedSizes profile acks).1.length) :
    Conserved profile acks number := by
  cases acks with
  | nil => cases inside
  | cons first acks =>
      obtain ⟨before, trigger, later, group, output, rest, rfl, run, puts,
        count, whole⟩ := exists_trigger inside
      have split : ((first :: before) ++ trigger :: later).IsChain SoonAfter :=
        soon
      have chained := List.isChain_append.mp split
      have accounts := accounts_of_run run chained.1
      have follows : SoonAfter group.ack1 trigger :=
        chained.2.2 _ accounts.last _ rfl
      obtain ⟨rfl, filled⟩ := of_yielded accounts follows puts
      have earlier : (accumulateAckedSizes profile (first :: before)).1 =
          (accumulateAckedSizes profile
            (first :: (before ++ trigger :: later))).1.take number := by
        rw [accumulateAckedSizes_cons, accumulateAckedSizes_cons, whole,
          ← count, List.take_left]
      have taken : (accumulateAckedSizes profile
          (first :: (before ++ trigger :: later))).1.take (number + 1) =
          (accumulateAckedSizes profile (first :: before)).1 ++
            [(group.accumulatedSize, group.targetAckGroupDuration)] := by
        rw [accumulateAckedSizes_cons, accumulateAckedSizes_cons, whole,
          ← count, List.take_length_add_append]
        rfl
      have bounds := elapsed_bounds accounts.durations follows.1
        accounts.unfilled filled follows.2
      refine ⟨first, before, trigger, later, rfl, earlier, ?_, ?_, ?_⟩
      · rw [taken, List.cons_append, accumulateAckedSizes_cons,
          transduce_snoc run, puts]
        rfl
      · intro exactly
        rw [taken, List.map_append, List.sum_append]
        exact accounts.sizes exactly
      · rw [taken, List.map_append, List.sum_append]
        exact bounds

/-! ## Shifted arrivals -/

def shiftArrival (constant : Duration) (ack : Ack) : Ack :=
  { ack with arrival := ack.arrival + constant }

def AckGroup.shiftArrival (constant : Duration) (group : AckGroup) :
    AckGroup :=
  { group with ack1 := Googcc.shiftArrival constant group.ack1 }

theorem close_shiftArrival (constant : Duration) (group : AckGroup)
    (ack2 : Ack) :
    (group.shiftArrival constant).close (shiftArrival constant ack2) =
      ((group.close ack2).1.shiftArrival constant, (group.close ack2).2) := by
  have sameOrder : ack2.arrival + constant < group.ack1.arrival + constant ↔
      ack2.arrival < group.ack1.arrival := Nat.add_lt_add_iff_right
  have sameDelta : ack2.arrival + constant - (group.ack1.arrival + constant) =
      ack2.arrival - group.ack1.arrival := Nat.add_sub_add_right ..
  unfold AckGroup.close AckGroup.shiftArrival shiftArrival
  dsimp only
  simp only [sameOrder, sameDelta]
  split
  · rfl
  · split
    · rfl
    · split <;> rfl

theorem turn_shiftArrival (profile : BuildProfile) (constant : Duration)
    (group : AckGroup) (ack2 : Ack) :
    (group.shiftArrival constant).turn profile (shiftArrival constant ack2) =
      ((group.turn profile ack2).1,
        (group.turn profile ack2).2.map (AckGroup.shiftArrival constant)) := by
  unfold AckGroup.turn
  rw [close_shiftArrival]
  dsimp only
  change (_, profile.addU64 (group.close ack2).1.accumulatedSize ack2.size >>=
    _) = _
  cases profile.addU64 (group.close ack2).1.accumulatedSize ack2.size with
  | error panic => rfl
  | ok size => rfl

theorem accumulateAckedSizes_shiftArrival (profile : BuildProfile)
    (acks : List Ack) (constant : Duration) :
    accumulateAckedSizes profile (acks.map (shiftArrival constant)) =
      accumulateAckedSizes profile acks := by
  cases acks with
  | nil => rfl
  | cons first acks =>
      exact transduce_map (turn_shiftArrival profile constant)
        (.start first) acks

/-- The groups account for every acknowledgement, and only the differences of
their arrivals matter. -/
theorem acked_sizes_conserved (profile : BuildProfile) :
    (∀ acks : List Ack, acks.IsChain SoonAfter →
      ∀ number < (accumulateAckedSizes profile acks).1.length,
        Conserved profile acks number) ∧
    ∀ (acks : List Ack) (constant : Duration),
      accumulateAckedSizes profile (acks.map (shiftArrival constant)) =
        accumulateAckedSizes profile acks := by
  constructor
  · intro acks soon number inside
    exact conserved_of_isChain soon inside
  · intro acks constant
    exact accumulateAckedSizes_shiftArrival profile acks constant

theorem acked_sizes_conserved_two_groups :
    let ackAt := fun millis : Nat => (⟨80, 0, fromMillis millis, 0⟩ : Ack)
    let acks := [0, 100, 200, 300, 400, 499, 610, 720].map ackAt
    acks.IsChain SoonAfter ∧
      (accumulateAckedSizes .debug acks).1.length = 2 ∧
      Conserved .debug acks 1 ∧
      accumulateAckedSizes .debug (acks.map (shiftArrival (fromSecs 7))) =
        accumulateAckedSizes .debug acks := by
  intro ackAt acks
  have soon : acks.IsChain SoonAfter := by
    unfold acks SoonAfter
    decide
  have two : (accumulateAckedSizes .debug acks).1.length = 2 := by
    decide +kernel
  refine ⟨soon, two, ?_, ?_⟩
  · apply (acked_sizes_conserved .debug).1 acks soon
    rw [two]
    decide
  · exact (acked_sizes_conserved .debug).2 acks (fromSecs 7)

end CallingService.Backend.Googcc
