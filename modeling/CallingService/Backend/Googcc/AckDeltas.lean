import CallingService.Backend.Googcc.AckGroups

/-!
# Differences between groups

From one group to the next one, how much later did its packets depart, and how
much later did they arrive?  Groups that departed too early are ignored.  After
three groups in a row that arrived too early, or one that arrived much too
late, the comparison starts over with another group.
-/

namespace CallingService.Backend.Googcc

open Foundation Tcc FloatingPoint

variable (F : Type) [FloatingPoint F]

def maxArrivalChange : Duration := fromSecs 3

def maxConsecutiveReorderings : Nat := 3

/-- What `calculate_ack_deltas` keeps between two groups. -/
structure DeltaBase where
  group1 : AckGroupSummary
  consecutiveReorderings : Nat

namespace DeltaBase

/-- The difference is too large for the time since the earlier feedback. -/
def arrivalDeltaIncreasedTooMuch (group1 group2 : AckGroupSummary) : Prop :=
  let arrivalDelta : F :=
    timeDeltaSince F group2.latestArrival group1.latestArrival
  let feedbackDelta :=
    group2.latestFeedbackArrival - group1.latestFeedbackArrival
  asSecsF64 (feedbackDelta + maxArrivalChange) ≤ arrivalDelta

instance (group1 group2 : AckGroupSummary) :
    Decidable (arrivalDeltaIncreasedTooMuch F group1 group2) :=
  decidableLE _ _

def turn : Option DeltaBase → AckGroupSummary × Ack →
    Option (Ack × Duration × F) × Option DeltaBase
  | none, (group1, _) => (none, some ⟨group1, 0⟩)
  | some base, (group2, latestAck) =>
      if base.group1.latestDeparture < group2.latestDeparture then
        let departureDelta :=
          group2.latestDeparture - base.group1.latestDeparture
        let arrivalDelta : F :=
          timeDeltaSince F group2.latestArrival base.group1.latestArrival
        if group2.latestArrival < base.group1.latestArrival then
          let consecutiveReorderings := base.consecutiveReorderings + 1
          -- Start over with the next group, or hope for a better one.
          if maxConsecutiveReorderings ≤ consecutiveReorderings then
            (none, none)
          else
            (none, some { base with
              consecutiveReorderings := consecutiveReorderings })
        else if arrivalDeltaIncreasedTooMuch F base.group1 group2 then
          (none, none)
        else (some (latestAck, departureDelta, arrivalDelta),
          some ⟨group2, 0⟩)
      else (none, some base)

end DeltaBase

/-- The step of `calculate_ack_deltas`. -/
def calculateAckDeltasStep : Option DeltaBase → AckGroupSummary × Ack →
    Option (Ack × Duration × F) × Except Panic (Option DeltaBase) :=
  unfailing (DeltaBase.turn F)

def calculateAckDeltas (groups : List (AckGroupSummary × Ack)) :
    List (Ack × Duration × F) :=
  (transduce (calculateAckDeltasStep F) none groups).1

/-! ## Courses of groups -/

/-- The second group can be compared with the first one. -/
structure Follows (group1 group2 : AckGroupSummary) : Prop where
  departure : group1.latestDeparture < group2.latestDeparture
  arrival : group1.latestArrival ≤ group2.latestArrival
  gradual : ¬DeltaBase.arrivalDeltaIncreasedTooMuch F group1 group2

/-- The difference between two groups, and the acknowledgement that came with
the second one. -/
def deltaBetween (group1 group2 : AckGroupSummary × Ack) :
    Ack × Duration × F :=
  (group2.2, group2.1.latestDeparture - group1.1.latestDeparture,
    timeDeltaSince F group2.1.latestArrival group1.1.latestArrival)

def deltasOf (course : List (AckGroupSummary × Ack)) :
    List (Ack × Duration × F) :=
  consecutive (deltaBetween F) course

/-- The groups that are compared, in courses without a break. -/
structure Courses (groups : List (AckGroupSummary × Ack))
    (courses : List (List (AckGroupSummary × Ack))) : Prop where
  inOrder : courses.flatten.Sublist groups
  follows : ∀ course ∈ courses,
    course.IsChain fun group next => Follows F group.1 next.1

/-- The base is the last group of the last course. -/
inductive AtBase : Option DeltaBase →
    List (List (AckGroupSummary × Ack)) → Prop where
  | nothing (courses : List (List (AckGroupSummary × Ack))) :
      AtBase none courses
  | last (courses : List (List (AckGroupSummary × Ack)))
      (course : List (AckGroupSummary × Ack))
      (last : AckGroupSummary × Ack) (reorderings : Nat) :
      AtBase (some ⟨last.1, reorderings⟩) (courses ++ [course ++ [last]])

variable {F}
variable {groups : List (AckGroupSummary × Ack)}
variable {courses : List (List (AckGroupSummary × Ack))}

theorem Courses.skip (compared : Courses F groups courses)
    (group : AckGroupSummary × Ack) :
    Courses F (groups ++ [group]) courses where
  inOrder := compared.inOrder.trans (List.sublist_append_left _ _)
  follows := compared.follows

theorem Courses.begin (compared : Courses F groups courses)
    (group : AckGroupSummary × Ack) :
    Courses F (groups ++ [group]) (courses ++ [[group]]) where
  inOrder := by
    rw [List.flatten_append]
    exact compared.inOrder.append (List.Sublist.refl _)
  follows := by
    intro course member
    rcases List.mem_append.mp member with earlier | isNew
    · exact compared.follows course earlier
    · rw [List.mem_singleton.mp isNew]
      exact List.isChain_singleton _

theorem Courses.extend {course : List (AckGroupSummary × Ack)}
    {last group : AckGroupSummary × Ack}
    (compared : Courses F groups (courses ++ [course ++ [last]]))
    (follows : Follows F last.1 group.1) :
    Courses F (groups ++ [group])
      (courses ++ [course ++ [last] ++ [group]]) where
  inOrder := by
    have inOrder := compared.inOrder
    rw [List.flatten_append, List.flatten_singleton] at inOrder ⊢
    rw [← List.append_assoc]
    exact inOrder.append (List.Sublist.refl _)
  follows := by
    intro other member
    rcases List.mem_append.mp member with earlier | isLast
    · exact compared.follows other (List.mem_append_left _ earlier)
    · rw [List.mem_singleton.mp isLast]
      have chained := compared.follows (course ++ [last])
        (List.mem_append_right _ (List.mem_singleton_self _))
      refine List.isChain_append.mpr
        ⟨chained, List.isChain_singleton _, ?_⟩
      intro before isBefore next isNext
      rw [List.getLast?_concat] at isBefore
      cases isBefore
      cases isNext
      exact follows

theorem flatMap_deltasOf_extend
    (courses : List (List (AckGroupSummary × Ack)))
    (course : List (AckGroupSummary × Ack)) (last group : AckGroupSummary × Ack) :
    (courses ++ [course ++ [last] ++ [group]]).flatMap (deltasOf F) =
      (courses ++ [course ++ [last]]).flatMap (deltasOf F) ++
        [deltaBetween F last group] := by
  simp only [List.flatMap_append, List.flatMap_singleton, deltasOf]
  rw [consecutive_snoc, List.append_assoc]

/-- One group is read. -/
theorem courses_turn {state : Option DeltaBase}
    (compared : Courses F groups courses) (atBase : AtBase state courses)
    (group : AckGroupSummary × Ack) :
    ∃ courses', Courses F (groups ++ [group]) courses' ∧
      AtBase (DeltaBase.turn F state group).2 courses' ∧
      courses'.flatMap (deltasOf F) = courses.flatMap (deltasOf F) ++
        (DeltaBase.turn F state group).1.toList := by
  cases atBase with
  | nothing =>
      refine ⟨_, compared.begin group, .last courses [] group 0, ?_⟩
      rw [List.flatMap_append]
      rfl
  | last courses course last reorderings =>
      obtain ⟨group2, latestAck⟩ := group
      unfold DeltaBase.turn
      dsimp only
      split
      · rename_i departure
        split
        · split
          · exact ⟨_, compared.skip _, .nothing _, (List.append_nil _).symm⟩
          · exact ⟨_, compared.skip _, .last courses course last _,
              (List.append_nil _).symm⟩
        · rename_i arrival
          split
          · exact ⟨_, compared.skip _, .nothing _, (List.append_nil _).symm⟩
          · rename_i gradual
            have follows : Follows F last.1 group2 :=
              ⟨departure, Nat.not_lt.mp arrival, gradual⟩
            exact ⟨_, @Courses.extend F _ _ _ _ _ (group2, latestAck) compared
              follows, .last courses (course ++ [last]) (group2, latestAck) 0,
              flatMap_deltasOf_extend _ _ _ _⟩
      · exact ⟨_, compared.skip _, .last courses course last _,
          (List.append_nil _).symm⟩

theorem exists_courses (groups : List (AckGroupSummary × Ack)) :
    ∃ courses, Courses F groups courses ∧
      calculateAckDeltas F groups = courses.flatMap (deltasOf F) := by
  obtain ⟨state, run⟩ := @exists_run_unfailing _ _ _ Panic
    (DeltaBase.turn F) none groups
  suffices stronger : ∃ courses, Courses F groups courses ∧
      AtBase state courses ∧
      courses.flatMap (deltasOf F) = calculateAckDeltas F groups by
    obtain ⟨courses, compared, _, same⟩ := stronger
    exact ⟨courses, compared, same.symm⟩
  induction run with
  | nil =>
      refine ⟨[], ⟨List.Sublist.slnil, ?_⟩, .nothing [], rfl⟩
      intro course member
      cases member
  | @snoc past group before after run moved ih =>
      obtain ⟨courses, compared, atBase, same⟩ := ih
      obtain ⟨courses', extended, held, yielded⟩ :=
        courses_turn compared atBase group
      rw [← proceeds_unfailing.mp moved]
      refine ⟨courses', extended, held, ?_⟩
      unfold calculateAckDeltas at same ⊢
      rw [yielded, same]
      exact (transduce_snoc run).symm

/-! ## Delays along a course -/

/-- The second group departed later and arrived no earlier, and the arrivals
differ by less than the times of the feedback do plus 3 s. -/
structure Gradual (group1 group2 : AckGroupSummary) : Prop where
  departure : group1.latestDeparture < group2.latestDeparture
  arrival : group1.latestArrival ≤ group2.latestArrival
  within : group2.latestArrival < group1.latestArrival +
    (group2.latestFeedbackArrival - group1.latestFeedbackArrival +
      maxArrivalChange)

theorem Follows.isGradual (time : MeasuresTime F)
    {group1 group2 : AckGroupSummary} (follows : Follows F group1 group2) :
    Gradual group1 group2 where
  departure := follows.departure
  arrival := follows.arrival
  within := by
    by_contra beyond
    have late := Nat.not_lt.mp beyond
    apply follows.gradual
    unfold DeltaBase.arrivalDeltaIncreasedTooMuch timeDeltaSince
    dsimp only
    have increased : group1.latestArrival < group2.latestArrival := by
      apply Nat.lt_of_lt_of_le _ late
      apply Nat.lt_add_of_pos_right
      exact Nat.lt_of_lt_of_le (by decide) (Nat.le_add_left _ _)
    rw [if_pos increased]
    exact time.mono (Nat.le_sub_of_add_le (Nat.add_comm _ _ ▸ late))

/-- The departures of a course, and the differences between them. -/
theorem departures_of_course {first : AckGroupSummary × Ack}
    {rest : List (AckGroupSummary × Ack)}
    (gradual : (first :: rest).IsChain
      fun group next => Gradual group.1 next.1) :
    first.1.latestDeparture +
      ((deltasOf F (first :: rest)).map fun delta => delta.2.1).sum =
        ((first :: rest).getLast
          (List.cons_ne_nil _ _)).1.latestDeparture := by
  rw [← sum_consecutive_sub
    (fun group : AckGroupSummary × Ack => group.1.latestDeparture)
    (gradual.imp fun _ _ step => Nat.le_of_lt step.departure)]
  congr 2
  unfold deltasOf
  generalize first :: rest = course
  induction course using consecutive.induct with
  | case1 => rfl
  | case2 => rfl
  | case3 group next rest ih => exact congrArg (List.cons _) ih

/-- The differences that are put out are those along courses of groups, each of
which was sent after the one before it and arrived no earlier.  Along a course
they add up. -/
theorem ack_deltas_follow_courses (time : MeasuresTime F) (acks : List Ack) :
    ∃ courses : List (List (AckGroupSummary × Ack)),
      courses.flatten.Sublist (accumulateAckGroups F acks) ∧
      calculateAckDeltas F (accumulateAckGroups F acks) =
        courses.flatMap (deltasOf F) ∧
      (∀ course ∈ courses,
        course.IsChain fun group next => Gradual group.1 next.1) ∧
      ∀ first rest, first :: rest ∈ courses →
        first.1.latestDeparture +
          ((deltasOf F (first :: rest)).map fun delta => delta.2.1).sum =
            ((first :: rest).getLast
              (List.cons_ne_nil _ _)).1.latestDeparture := by
  obtain ⟨courses, compared, deltas⟩ :=
    @exists_courses F _ (accumulateAckGroups F acks)
  have gradual : ∀ course ∈ courses,
      course.IsChain fun group next => Gradual group.1 next.1 := by
    intro course member
    exact (compared.follows course member).imp
      fun _ _ follows => follows.isGradual time
  refine ⟨courses, compared.inOrder, deltas, gradual, ?_⟩
  intro first rest member
  exact departures_of_course (gradual _ member)

theorem ack_deltas_follow_courses_three_bursts :
    (@calculateAckDeltas ℚ exactRationals
        (@accumulateAckGroups ℚ exactRationals burstAcks)).map
          (fun delta => delta.2.1) = [fromMillis 17] ∧
    ∃ courses : List (List (AckGroupSummary × Ack)),
      courses.flatten.Sublist
        (@accumulateAckGroups ℚ exactRationals burstAcks) ∧
      @calculateAckDeltas ℚ exactRationals
          (@accumulateAckGroups ℚ exactRationals burstAcks) =
        courses.flatMap (@deltasOf ℚ exactRationals) ∧
      (∀ course ∈ courses,
        course.IsChain fun group next => Gradual group.1 next.1) ∧
      ∀ first rest, first :: rest ∈ courses →
        first.1.latestDeparture +
          ((@deltasOf ℚ exactRationals (first :: rest)).map
            fun delta => delta.2.1).sum =
          ((first :: rest).getLast
            (List.cons_ne_nil _ _)).1.latestDeparture := by
  constructor
  · decide +kernel
  · exact @ack_deltas_follow_courses ℚ exactRationals
      measuresTime_exactRationals burstAcks

end CallingService.Backend.Googcc
