import CallingService.Backend.Call.AllocationBounds

/-!
# When every video gets its ideal layer

A turn chooses the cheapest live layer from the one of the round up to the
ideal one, so no later round offers a cheaper one and what is allocated is
exactly what the chosen layers cost.  None costs more than the ideal layer of
its video: when there is room for all the ideal layers, the round of an ideal
layer always has room for it.
-/

namespace CallingService.Backend

open Foundation AllocatableVideo

namespace AllocatableVideo

/-- A height is known for the layers that come in, and only for them. -/
def HeightIffRate (video : AllocatableVideo) : Prop :=
  ∀ index, 0 < (video.layers index).incomingHeight ↔
    0 < (video.layers index).incomingRate

def allocated (video : AllocatableVideo) (index : Fin 3) : AllocatedVideo :=
  ⟨video.senderDemuxId, index, (video.layers index).incomingRate,
    (video.layers index).incomingHeight⟩

def idealLayer (video : AllocatableVideo) : Option AllocatedVideo :=
  video.idealVideoLayerIndex.map video.allocated

/-- The rate of the ideal layer. -/
def idealRate (video : AllocatableVideo) : DataRate :=
  (video.idealVideoLayerIndex.map fun index =>
    (video.layers index).incomingRate).getD 0

variable {video : AllocatableVideo} {ideal : Fin 3}

theorem idealRate_of_ideal (hasIdeal : video.idealVideoLayerIndex = some ideal) :
    video.idealRate = (video.layers ideal).incomingRate := by
  unfold idealRate
  rw [hasIdeal]
  rfl

theorem HeightIffRate.height_ne_zero (both : video.HeightIffRate)
    {index : Fin 3} (comesIn : 0 < (video.layers index).incomingRate) :
    (video.layers index).incomingHeight ≠ 0 :=
  UInt16.pos_iff_ne_zero.mp ((both index).mpr comesIn)

theorem HeightIffRate.rate_pos (both : video.HeightIffRate) {index : Fin 3}
    (comesIn : ¬ ((video.layers index).incomingHeight = 0 ∧
      (video.layers index).incomingRate = 0)) :
    0 < (video.layers index).incomingRate := by
  by_contra stopped
  have noRate : (video.layers index).incomingRate = 0 :=
    Nat.eq_zero_of_not_pos stopped
  apply comesIn
  constructor
  · by_contra height
    exact stopped ((both index).mp (UInt16.pos_iff_ne_zero.mpr height))
  · exact noRate

end AllocatableVideo

/-- What the ideal layers of all the videos cost. -/
def idealRates (videos : List AllocatableVideo) : DataRate :=
  (videos.filterMap fun video =>
    video.idealVideoLayerIndex.map fun index =>
      (video.layers index).incomingRate).sum

theorem idealRates_eq (videos : List AllocatableVideo) :
    idealRates videos = (videos.map AllocatableVideo.idealRate).sum := by
  unfold idealRates
  induction videos with
  | nil => rfl
  | cons video rest ih =>
      rw [List.map_cons, List.sum_cons, ← ih]
      unfold AllocatableVideo.idealRate
      cases hasIdeal : video.idealVideoLayerIndex with
      | none => simp [hasIdeal]
      | some ideal => simp [hasIdeal]

namespace Allocation

/-! ## The cheapest candidate -/

theorem le_candidateLayerIndex (video : AllocatableVideo)
    (layerIndex ideal : Fin 3) :
    layerIndex ≤ candidateLayerIndex video layerIndex ideal := by
  unfold candidateLayerIndex
  refine List.foldlRecOn (motive := fun candidate => layerIndex ≤ candidate)
    _ _ (Fin.le_refl layerIndex) ?_
  intro candidate earlier index member
  split
  · have admitted := (List.mem_filter.mp member).2
    rw [Bool.and_eq_true] at admitted
    exact Fin.le_of_lt (of_decide_eq_true admitted.1)
  · exact earlier

/-- The search for a cheaper layer finds the cheapest one. -/
private theorem cheaper_le (video : AllocatableVideo) (indices : List (Fin 3))
    (start : Fin 3) :
    (video.layers (indices.foldl (fun candidate index =>
      if (video.layers index).incomingHeight ≠ 0 ∧
          (video.layers index).incomingRate ≠ 0 ∧
          (video.layers index).incomingRate <
            (video.layers candidate).incomingRate then index
      else candidate) start)).incomingRate ≤
        (video.layers start).incomingRate ∧
    ∀ index ∈ indices, (video.layers index).incomingHeight ≠ 0 →
      (video.layers index).incomingRate ≠ 0 →
      (video.layers (indices.foldl (fun candidate index =>
        if (video.layers index).incomingHeight ≠ 0 ∧
            (video.layers index).incomingRate ≠ 0 ∧
            (video.layers index).incomingRate <
              (video.layers candidate).incomingRate then index
        else candidate) start)).incomingRate ≤
          (video.layers index).incomingRate := by
  induction indices generalizing start with
  | nil =>
      constructor
      · exact Nat.le_refl _
      · intro index member
        cases member
  | cons first rest ih =>
      rw [List.foldl_cons]
      split
      · rename_i better
        obtain ⟨belowFirst, belowRest⟩ := ih first
        constructor
        · exact Nat.le_trans belowFirst (Nat.le_of_lt better.2.2)
        · intro index member height rate
          rcases List.mem_cons.mp member with rfl | later
          · exact belowFirst
          · exact belowRest index later height rate
      · rename_i noBetter
        obtain ⟨belowStart, belowRest⟩ := ih start
        constructor
        · exact belowStart
        · intro index member height rate
          rcases List.mem_cons.mp member with rfl | later
          · have noCheaper : ¬ (video.layers index).incomingRate <
                (video.layers start).incomingRate := by
              intro cheaper
              exact noBetter ⟨height, rate, cheaper⟩
            exact Nat.le_trans belowStart (Nat.le_of_not_lt noCheaper)
          · exact belowRest index later height rate

variable {video : AllocatableVideo}

theorem candidate_cheapest (both : video.HeightIffRate)
    {layerIndex ideal index : Fin 3} (above : layerIndex ≤ index)
    (within : index ≤ ideal) (comesIn : 0 < (video.layers index).incomingRate) :
    (video.layers (candidateLayerIndex video layerIndex ideal)).incomingRate ≤
      (video.layers index).incomingRate := by
  unfold candidateLayerIndex
  obtain ⟨belowStart, belowOthers⟩ := cheaper_le video
    (LayerId.videoLayerIndices.filter fun index =>
      decide (layerIndex < index) && decide (index ≤ ideal)) layerIndex
  rcases lt_or_eq_of_le above with higher | rfl
  · apply belowOthers index ?_ (both.height_ne_zero comesIn)
      (Nat.pos_iff_ne_zero.mp comesIn)
    apply List.mem_filter.mpr
    constructor
    · exact mem_videoLayerIndices index
    · rw [decide_eq_true higher, decide_eq_true within]
      rfl
  · exact belowStart

theorem Chooses.rate_pos_of_both {budget : AllocationBudget}
    {allocation : Allocation} {turn : Turn} {ideal candidate : Fin 3}
    (chooses : Chooses budget allocation turn ideal candidate)
    (both : turn.video.HeightIffRate) :
    0 < (turn.video.layers candidate).incomingRate := by
  rcases candidateLayerIndex_cases turn.video turn.layerIndex ideal with
    same | ⟨-, live⟩
  · rw [chooses.isCandidate, same]
    exact both.rate_pos chooses.comesIn
  · rw [chooses.isCandidate]
    exact Nat.pos_of_ne_zero live

/-- In the round of the ideal layer there is nothing else to choose. -/
theorem candidateLayerIndex_ideal (video : AllocatableVideo) (ideal : Fin 3) :
    candidateLayerIndex video ideal ideal = ideal := by
  rcases candidateLayerIndex_cases video ideal ideal with same | ⟨within, -⟩
  · exact same
  · exact Fin.le_antisymm within (le_candidateLayerIndex video ideal ideal)

/-! ## What is spent -/

/-- The rate that is spent on the video. -/
def rateOf (allocation : Allocation) (video : AllocatableVideo) : DataRate :=
  ((allocation.bySenderDemuxId.lookup video.senderDemuxId).map (·.rate)).getD 0

theorem rateIncrease_eq (allocation : Allocation) (video : AllocatableVideo)
    (candidate : Fin 3) :
    allocation.rateIncrease video candidate =
      (video.layers candidate).incomingRate - allocation.rateOf video := rfl

theorem rateOf_choose (allocation : Allocation) (video : AllocatableVideo)
    (candidate : Fin 3) :
    (allocation.choose video candidate).rateOf video =
      (video.layers candidate).incomingRate := by
  unfold rateOf
  rw [lookup_choose]
  rfl

theorem lookup_choose_ne (allocation : Allocation) (video : AllocatableVideo)
    (candidate : Fin 3) {sender : DemuxId}
    (another : sender ≠ video.senderDemuxId) :
    (allocation.choose video candidate).bySenderDemuxId.lookup sender =
      allocation.bySenderDemuxId.lookup sender :=
  AList.lookup_insert_ne another

/-- Changing what one item counts changes the sum by as much. -/
private theorem sum_map_changed {Item : Type} {items : List Item}
    (distinct : items.Nodup) {item : Item} (member : item ∈ items)
    {before after : Item → Nat}
    (same : ∀ other ∈ items, other ≠ item → after other = before other) :
    (items.map after).sum + before item =
      (items.map before).sum + after item := by
  induction items with
  | nil => cases member
  | cons first rest ih =>
      obtain ⟨isNew, restDistinct⟩ := List.nodup_cons.mp distinct
      rw [List.map_cons, List.map_cons, List.sum_cons, List.sum_cons]
      rcases List.mem_cons.mp member with rfl | later
      · have restSame : rest.map after = rest.map before := by
          apply List.map_congr_left
          intro other inRest
          apply same other (List.mem_cons_of_mem item inRest)
          rintro rfl
          exact isNew inRest
        rw [restSame]
        omega
      · have firstSame : after first = before first := by
          apply same first List.mem_cons_self
          rintro rfl
          exact isNew later
        have restChanged := ih restDistinct later
          (fun other inRest => same other (List.mem_cons_of_mem first inRest))
        omega

variable {videos : List AllocatableVideo}

/-- A sender has one video. -/
theorem video_of_sender
    (distinct : (videos.map (·.senderDemuxId)).Nodup)
    {first second : AllocatableVideo} (firstMember : first ∈ videos)
    (secondMember : second ∈ videos)
    (same : first.senderDemuxId = second.senderDemuxId) : first = second :=
  List.inj_on_of_nodup_map distinct firstMember secondMember same

/-- The sum of the rates follows the layer that is chosen. -/
theorem sum_rateOf_choose (distinct : (videos.map (·.senderDemuxId)).Nodup)
    (allocation : Allocation) (member : video ∈ videos) {candidate : Fin 3}
    (noLess : allocation.rateOf video ≤
      (video.layers candidate).incomingRate) :
    (videos.map (allocation.choose video candidate).rateOf).sum =
      (videos.map allocation.rateOf).sum +
        ((video.layers candidate).incomingRate - allocation.rateOf video) := by
  have othersSame : ∀ other ∈ videos, other ≠ video →
      (allocation.choose video candidate).rateOf other =
        allocation.rateOf other := by
    intro other otherMember different
    unfold rateOf
    rw [lookup_choose_ne]
    intro sameSender
    exact different (video_of_sender distinct otherMember member sameSender)
  have changed := sum_map_changed distinct.of_map member othersSame
  rw [rateOf_choose] at changed
  rw [Nat.eq_sub_of_add_eq changed]
  exact Nat.add_sub_assoc noLess _

/-! ## From turn to turn -/

/-- What is allocated is what the layers cost, and each of them costs no more
than the layers its video can still get. -/
structure Affording (videos : List AllocatableVideo) (round : Fin 3)
    (allocation : Allocation) : Prop where
  spent : allocation.allocatedRate = (videos.map allocation.rateOf).sum
  known : ∀ sender chosen,
    allocation.bySenderDemuxId.lookup sender = some chosen →
      ∃ video ∈ videos, video.senderDemuxId = sender
  cheapest : ∀ video ∈ videos, ∀ chosen,
    allocation.bySenderDemuxId.lookup video.senderDemuxId = some chosen →
      ∃ ideal, video.idealVideoLayerIndex = some ideal ∧
        chosen.rate ≤ (video.layers ideal).incomingRate ∧
        ∀ index, round ≤ index → index ≤ ideal →
          0 < (video.layers index).incomingRate →
          chosen.rate ≤ (video.layers index).incomingRate

theorem affording_empty (videos : List AllocatableVideo) (round : Fin 3) :
    Affording videos round empty where
  spent := by
    have nothing : ∀ rates ∈ videos.map empty.rateOf, rates = 0 := by
      intro rate member
      obtain ⟨video, -, rfl⟩ := List.mem_map.mp member
      rfl
    exact (List.sum_eq_zero nothing).symm
  known := by
    intro sender chosen found
    cases found
  cheapest := by
    intro video _ chosen found
    cases found

namespace Affording

variable {round later : Fin 3} {budget : AllocationBudget}
  {allocation : Allocation}

theorem mono (affording : Affording videos round allocation)
    (noEarlier : round ≤ later) : Affording videos later allocation where
  spent := affording.spent
  known := affording.known
  cheapest := by
    intro video member chosen found
    obtain ⟨ideal, hasIdeal, noMore, below⟩ :=
      affording.cheapest video member chosen found
    refine ⟨ideal, hasIdeal, noMore, ?_⟩
    intro index above within comesIn
    exact below index (Fin.le_trans noEarlier above) within comesIn

theorem rateOf_le (affording : Affording videos round allocation)
    (member : video ∈ videos) {ideal index : Fin 3}
    (hasIdeal : video.idealVideoLayerIndex = some ideal) (above : round ≤ index)
    (within : index ≤ ideal) (comesIn : 0 < (video.layers index).incomingRate) :
    allocation.rateOf video ≤ (video.layers index).incomingRate := by
  unfold rateOf
  cases found : allocation.bySenderDemuxId.lookup video.senderDemuxId with
  | none => exact Nat.zero_le _
  | some chosen =>
      obtain ⟨another, hasAnother, -, below⟩ :=
        affording.cheapest video member chosen found
      rw [hasIdeal] at hasAnother
      cases hasAnother
      exact below index above within comesIn

theorem rateOf_le_idealRate (affording : Affording videos round allocation)
    (member : video ∈ videos) :
    allocation.rateOf video ≤ video.idealRate := by
  unfold rateOf
  cases found : allocation.bySenderDemuxId.lookup video.senderDemuxId with
  | none => exact Nat.zero_le _
  | some chosen =>
      obtain ⟨ideal, hasIdeal, noMore, -⟩ :=
        affording.cheapest video member chosen found
      rw [idealRate_of_ideal hasIdeal]
      exact noMore

/-- Whatever is chosen, there is room for the ideal layer of any video. -/
theorem affordable (distinct : (videos.map (·.senderDemuxId)).Nodup)
    (affording : Affording videos round allocation) (member : video ∈ videos)
    {ideal : Fin 3} (hasIdeal : video.idealVideoLayerIndex = some ideal) :
    allocation.allocatedRate + allocation.rateIncrease video ideal ≤
      idealRates videos := by
  have noLess := affording.rateOf_le_idealRate member
  rw [idealRate_of_ideal hasIdeal] at noLess
  rw [rateIncrease_eq, affording.spent,
    ← sum_rateOf_choose distinct allocation member noLess, idealRates_eq]
  apply List.sum_le_sum
  intro other otherMember
  by_cases same : other.senderDemuxId = video.senderDemuxId
  · have sameVideo := video_of_sender distinct otherMember member same
    subst sameVideo
    rw [rateOf_choose, idealRate_of_ideal hasIdeal]
  · unfold rateOf
    rw [lookup_choose_ne allocation video ideal same]
    exact affording.rateOf_le_idealRate otherMember

theorem sumInWord (distinct : (videos.map (·.senderDemuxId)).Nodup)
    (bothWays : ∀ video ∈ videos, video.HeightIffRate)
    (inWord : idealRates videos < 2 ^ 64)
    (affording : Affording videos round allocation) {turn : Turn}
    (member : turn.video ∈ videos) : SumInWord allocation turn := by
  intro ideal hasIdeal noHigher _
  have noDearer := candidate_cheapest (bothWays turn.video member) noHigher
    (Fin.le_refl ideal) (rate_of_idealVideoLayerIndex hasIdeal)
  have increase : allocation.rateIncrease turn.video
      (candidateLayerIndex turn.video turn.layerIndex ideal) ≤
        allocation.rateIncrease turn.video ideal :=
    Nat.sub_le_sub_right noDearer _
  have room := affording.affordable distinct member hasIdeal
  exact Nat.lt_of_le_of_lt
    (Nat.le_trans (Nat.add_le_add_left increase _) room) inWord

theorem choose (distinct : (videos.map (·.senderDemuxId)).Nodup)
    (bothWays : ∀ video ∈ videos, video.HeightIffRate)
    (inWord : idealRates videos < 2 ^ 64) {turn : Turn}
    (member : turn.video ∈ videos) {ideal candidate : Fin 3}
    (chooses : Chooses budget allocation turn ideal candidate)
    (affording : Affording videos turn.layerIndex allocation) :
    Affording videos turn.layerIndex
      (allocation.choose turn.video candidate) := by
  have both := bothWays turn.video member
  have comesIn := chooses.rate_pos_of_both both
  have above : turn.layerIndex ≤ candidate := by
    rw [chooses.isCandidate]
    exact le_candidateLayerIndex turn.video turn.layerIndex ideal
  have noLess := affording.rateOf_le member chooses.hasIdeal above
    chooses.layerIndex_le comesIn
  have below : ∀ index, turn.layerIndex ≤ index → index ≤ ideal →
      0 < (turn.video.layers index).incomingRate →
      (turn.video.layers candidate).incomingRate ≤
        (turn.video.layers index).incomingRate := by
    intro index higher within live
    rw [chooses.isCandidate]
    exact candidate_cheapest both higher within live
  refine ⟨?_, ?_, ?_⟩
  · rw [sum_rateOf_choose distinct allocation member noLess, ← affording.spent]
    have fits := affording.sumInWord distinct bothWays inWord member
    exact Nat.mod_eq_of_lt (chooses.sumInWord fits)
  · intro sender chosen found
    by_cases same : sender = turn.video.senderDemuxId
    · exact ⟨turn.video, member, same.symm⟩
    · rw [lookup_choose_ne allocation turn.video candidate same] at found
      exact affording.known sender chosen found
  · intro video videoMember chosen found
    by_cases same : video.senderDemuxId = turn.video.senderDemuxId
    · have sameVideo := video_of_sender distinct videoMember member same
      subst sameVideo
      rw [lookup_choose] at found
      cases found
      have idealComesIn := rate_of_idealVideoLayerIndex chooses.hasIdeal
      exact ⟨ideal, chooses.hasIdeal,
        below ideal chooses.round (Fin.le_refl ideal) idealComesIn, below⟩
    · rw [lookup_choose_ne allocation turn.video candidate same] at found
      exact affording.cheapest video videoMember chosen found

theorem takeTurn (distinct : (videos.map (·.senderDemuxId)).Nodup)
    (bothWays : ∀ video ∈ videos, video.HeightIffRate)
    (inWord : idealRates videos < 2 ^ 64) {turn : Turn}
    (member : turn.video ∈ videos) (noEarlier : round ≤ turn.layerIndex)
    (affording : Affording videos round allocation) :
    Affording videos turn.layerIndex (takeTurn budget allocation turn) := by
  have inRound := affording.mono noEarlier
  rcases takeTurn_cases budget allocation turn with
    same | ⟨ideal, candidate, chooses, taken⟩
  · rw [same]
    exact inRound
  · rw [taken]
    exact inRound.choose distinct bothWays inWord member chooses

end Affording

/-! ## All rounds -/

/-- Every video has a turn in every round, in any order. -/
structure InRounds (videos : List AllocatableVideo)
    (considered : List Turn) : Prop where
  ordered : considered.Pairwise fun first second =>
    first.layerIndex ≤ second.layerIndex
  within : ∀ turn ∈ considered, turn.video ∈ videos
  complete : ∀ video ∈ videos, ∀ layerIndex, ⟨layerIndex, video⟩ ∈ considered

theorem inRounds_turns (videos : List AllocatableVideo) :
    InRounds videos (turns videos) where
  ordered := by
    unfold turns
    apply List.pairwise_flatMap.mpr
    constructor
    · intro layerIndex _
      apply List.pairwise_map.mpr
      apply List.pairwise_of_forall
      intro first second
      exact Fin.le_refl layerIndex
    · have increasing : LayerId.videoLayerIndices.Pairwise (· ≤ ·) := by
        decide
      apply increasing.imp
      intro lower higher noHigher first inLower second inHigher
      obtain ⟨firstVideo, -, rfl⟩ := List.mem_map.mp inLower
      obtain ⟨secondVideo, -, rfl⟩ := List.mem_map.mp inHigher
      exact noHigher
  within := fun _ => video_mem_of_turn
  complete := fun _ => turn_mem

variable {budget : AllocationBudget}

theorem affording_takeTurns (distinct : (videos.map (·.senderDemuxId)).Nodup)
    (bothWays : ∀ video ∈ videos, video.HeightIffRate)
    (inWord : idealRates videos < 2 ^ 64) {taken : List Turn}
    {allocation : Allocation} {round last : Fin 3}
    (affording : Affording videos round allocation) (noEarlier : round ≤ last)
    (ordered : taken.Pairwise fun first second =>
      first.layerIndex ≤ second.layerIndex)
    (within : ∀ turn ∈ taken, turn.video ∈ videos ∧
      round ≤ turn.layerIndex ∧ turn.layerIndex ≤ last) :
    Affording videos last (taken.foldl (takeTurn budget) allocation) := by
  induction taken generalizing allocation round with
  | nil => exact affording.mono noEarlier
  | cons turn rest ih =>
      obtain ⟨member, started, noLater⟩ := within turn List.mem_cons_self
      obtain ⟨next, restOrdered⟩ := List.pairwise_cons.mp ordered
      rw [List.foldl_cons]
      apply ih (affording.takeTurn distinct bothWays inWord member started)
        noLater restOrdered
      intro another inRest
      have bounds := within another (List.mem_cons_of_mem turn inRest)
      exact ⟨bounds.1, next another inRest, bounds.2.2⟩

theorem sumsInWord_of_inRounds
    (distinct : (videos.map (·.senderDemuxId)).Nodup)
    (bothWays : ∀ video ∈ videos, video.HeightIffRate)
    (inWord : idealRates videos < 2 ^ 64) {considered : List Turn}
    (inRounds : InRounds videos considered) :
    SumsInWord budget considered := by
  intro earlier turn later split
  have within := inRounds.within
  have ordered := inRounds.ordered
  rw [split] at within ordered
  obtain ⟨earlierOrdered, -, noLater⟩ := List.pairwise_append.mp ordered
  have affording : Affording videos turn.layerIndex
      (takeTurns budget earlier) := by
    apply affording_takeTurns distinct bothWays inWord
      (affording_empty videos LayerId.baseLayerIndex) (Fin.zero_le _)
      earlierOrdered
    intro other inEarlier
    exact ⟨within other (List.mem_append_left _ inEarlier),
      Fin.zero_le other.layerIndex,
      noLater other inEarlier turn List.mem_cons_self⟩
  exact affording.sumInWord distinct bothWays inWord
    (within turn (List.mem_append_right _ List.mem_cons_self))

/-- From the round of the ideal layer on nothing replaces it. -/
theorem settled_takeTurn (distinct : (videos.map (·.senderDemuxId)).Nodup)
    {allocation : Allocation} (member : video ∈ videos) {ideal : Fin 3}
    (hasIdeal : video.idealVideoLayerIndex = some ideal)
    (settled : allocation.bySenderDemuxId.lookup video.senderDemuxId =
      some (video.allocated ideal)) {turn : Turn}
    (turnMember : turn.video ∈ videos) (noEarlier : ideal ≤ turn.layerIndex) :
    (takeTurn budget allocation turn).bySenderDemuxId.lookup
      video.senderDemuxId = some (video.allocated ideal) := by
  rcases takeTurn_cases budget allocation turn with
    same | ⟨another, candidate, chooses, taken⟩
  · rw [same]
    exact settled
  · rw [taken]
    by_cases same : video.senderDemuxId = turn.video.senderDemuxId
    · have sameVideo := video_of_sender distinct member turnMember same
      subst sameVideo
      have sameIdeal := chooses.hasIdeal
      rw [hasIdeal] at sameIdeal
      cases sameIdeal
      have sameRound := Fin.le_antisymm chooses.round noEarlier
      have isIdeal := chooses.isCandidate
      rw [sameRound, candidateLayerIndex_ideal] at isIdeal
      subst isIdeal
      exact lookup_choose ..
    · rw [lookup_choose_ne allocation turn.video candidate same]
      exact settled

/-- There is room for all the ideal layers, whichever are kept. -/
structure HasRoom (budget : AllocationBudget)
    (videos : List AllocatableVideo) : Prop where
  different : idealRates videos ≤ budget.forDifferentLayers
  existing : idealRates videos ≤ budget.forExistingLayers

theorem HasRoom.le_allocatable (room : HasRoom budget videos)
    (video : AllocatableVideo) (candidate : Fin 3) :
    idealRates videos ≤ allocatable budget video candidate := by
  unfold allocatable
  split
  · exact room.existing
  · exact room.different

theorem lookup_of_ideal (distinct : (videos.map (·.senderDemuxId)).Nodup)
    (bothWays : ∀ video ∈ videos, video.HeightIffRate)
    (inWord : idealRates videos < 2 ^ 64) (room : HasRoom budget videos)
    {considered : List Turn} (inRounds : InRounds videos considered)
    (member : video ∈ videos) {ideal : Fin 3}
    (hasIdeal : video.idealVideoLayerIndex = some ideal) :
    (takeTurns budget considered).bySenderDemuxId.lookup video.senderDemuxId =
      some (video.allocated ideal) := by
  obtain ⟨taken, rest, split⟩ :=
    List.append_of_mem (inRounds.complete video member ideal)
  have within := inRounds.within
  have ordered := inRounds.ordered
  rw [split] at within ordered
  obtain ⟨takenOrdered, fromIdeal, upToIdeal⟩ := List.pairwise_append.mp ordered
  -- Up to the round of the ideal layer nothing takes its room.
  have affording : Affording videos ideal (takeTurns budget taken) := by
    apply affording_takeTurns distinct bothWays inWord
      (affording_empty videos LayerId.baseLayerIndex) (Fin.zero_le ideal)
      takenOrdered
    intro turn inTaken
    refine ⟨within turn (List.mem_append_left _ inTaken),
      Fin.zero_le turn.layerIndex, ?_⟩
    exact upToIdeal turn inTaken ⟨ideal, video⟩ List.mem_cons_self
  have comesIn := rate_of_idealVideoLayerIndex hasIdeal
  have chooses : Chooses budget (takeTurns budget taken) ⟨ideal, video⟩ ideal
      ideal := {
    hasIdeal := hasIdeal
    round := Fin.le_refl ideal
    comesIn := fun nothing => Nat.pos_iff_ne_zero.mp comesIn nothing.2
    isCandidate := (candidateLayerIndex_ideal video ideal).symm
    affordable := Nat.le_trans (Nat.mod_le _ _)
      (Nat.le_trans (affording.affordable distinct member hasIdeal)
        (room.le_allocatable video ideal)) }
  -- Afterwards nothing replaces it.
  rw [split]
  unfold takeTurns
  rw [List.foldl_append, List.foldl_cons]
  refine List.foldlRecOn rest (takeTurn budget)
    (motive := fun allocation =>
      allocation.bySenderDemuxId.lookup video.senderDemuxId =
        some (video.allocated ideal)) ?_ ?_
  · change (takeTurn budget (takeTurns budget taken)
      ⟨ideal, video⟩).bySenderDemuxId.lookup video.senderDemuxId = _
    rw [takeTurn_of_chooses chooses]
    exact lookup_choose ..
  · intro allocation settled turn inRest
    have noEarlier := (List.pairwise_cons.mp fromIdeal).1 turn inRest
    have turnMember : turn.video ∈ videos :=
      within turn (List.mem_append_right _ (List.mem_cons_of_mem _ inRest))
    exact settled_takeTurn distinct member hasIdeal settled turnMember noEarlier

/-- Every video has its ideal layer, and nothing else is forwarded. -/
def GivesIdealLayers (videos : List AllocatableVideo)
    (bySenderDemuxId : Table DemuxId AllocatedVideo) : Prop :=
  (∀ video ∈ videos,
    bySenderDemuxId.lookup video.senderDemuxId = video.idealLayer) ∧
  ∀ sender, (∀ video ∈ videos, video.senderDemuxId ≠ sender) →
    bySenderDemuxId.lookup sender = none

theorem givesIdealLayers_takeTurns
    (distinct : (videos.map (·.senderDemuxId)).Nodup)
    (bothWays : ∀ video ∈ videos, video.HeightIffRate)
    (inWord : idealRates videos < 2 ^ 64)
    (room : HasRoom budget videos) {considered : List Turn}
    (inRounds : InRounds videos considered) :
    GivesIdealLayers videos (takeTurns budget considered).bySenderDemuxId := by
  have affording : Affording videos (Fin.last 2)
      (takeTurns budget considered) := by
    apply affording_takeTurns distinct bothWays inWord
      (affording_empty videos LayerId.baseLayerIndex) (Fin.zero_le _)
      inRounds.ordered
    intro turn member
    exact ⟨inRounds.within turn member, Fin.zero_le turn.layerIndex,
      Fin.le_last turn.layerIndex⟩
  constructor
  · intro video member
    unfold idealLayer
    cases hasIdeal : video.idealVideoLayerIndex with
    | some ideal =>
        exact lookup_of_ideal distinct bothWays inWord room inRounds member
          hasIdeal
    | none =>
        rw [Option.map_none]
        by_contra given
        obtain ⟨chosen, found⟩ := Option.ne_none_iff_exists'.mp given
        obtain ⟨ideal, isIdeal, -⟩ :=
          affording.cheapest video member chosen found
        rw [hasIdeal] at isIdeal
        cases isIdeal
  · intro sender noVideo
    by_contra given
    obtain ⟨chosen, found⟩ := Option.ne_none_iff_exists'.mp given
    obtain ⟨video, member, named⟩ := affording.known sender chosen found
    exact noVideo video member named

end Allocation

open Allocation

/-- With a higher rate no less may be allocated. -/
theorem allocatableRate_mono {minimumAllocation : DataRate → DataRate}
    (monotone : Monotone minimumAllocation) {lower higher : DataRate}
    (noMore : lower ≤ higher) (drain ideal : DataRate) :
    allocatableRate minimumAllocation lower drain ideal ≤
      allocatableRate minimumAllocation higher drain ideal := by
  unfold allocatableRate
  apply min_le_min_right
  apply max_le_max
  · exact Nat.sub_le_sub_right noMore drain
  · exact monotone noMore

/-- Where all the ideal layers fit into the budget for different layers, and
that for kept layers is no smaller, every video gets its ideal layer and nothing
else is forwarded, whichever layers were forwarded before and in whichever order
the videos are considered. -/
theorem allocateSendRate_ideal {minimumAllocation : DataRate → DataRate}
    (monotone : Monotone minimumAllocation)
    {target minTarget : DataRate} (ordered : minTarget ≤ target)
    {ideal drain : DataRate} (inWord : ideal < 2 ^ 64)
    {videos : List AllocatableVideo}
    (distinct : (videos.map (·.senderDemuxId)).Nodup)
    (bothWays : ∀ video ∈ videos, ∀ index,
      0 < (video.layers index).incomingHeight ↔
        0 < (video.layers index).incomingRate)
    (enough : allocatableRate minimumAllocation minTarget drain ideal =
      idealRates videos) (profile : BuildProfile) :
    (∃ table, allocateSendRate profile minimumAllocation target minTarget
        ideal drain videos = .ok table ∧ GivesIdealLayers videos table) ∧
    ∀ considered, InRounds videos considered →
      ∃ allocation, allocateTurns profile
          (budgetOf minimumAllocation target minTarget ideal drain)
          considered empty = .ok allocation ∧
        GivesIdealLayers videos allocation.bySenderDemuxId := by
  have ratesInWord : idealRates videos < 2 ^ 64 := by
    rw [← enough]
    exact Nat.lt_of_le_of_lt (Nat.min_le_right _ _) inWord
  have room : HasRoom
      (budgetOf minimumAllocation target minTarget ideal drain) videos := {
    different := Nat.le_of_eq enough.symm
    existing := Nat.le_trans (Nat.le_of_eq enough.symm)
      (allocatableRate_mono monotone ordered drain ideal) }
  have inAnyOrder : ∀ considered, InRounds videos considered →
      ∃ allocation, allocateTurns profile
          (budgetOf minimumAllocation target minTarget ideal drain)
          considered empty = .ok allocation ∧
        GivesIdealLayers videos allocation.bySenderDemuxId := by
    intro considered inRounds
    have fit : SumsInWord
        (budgetOf minimumAllocation target minTarget ideal drain) considered :=
      sumsInWord_of_inRounds distinct bothWays ratesInWord inRounds
    exact ⟨_, allocateTurns_eq_ok_iff.mpr ⟨fun _ => fit, rfl⟩,
      givesIdealLayers_takeTurns distinct bothWays ratesInWord room inRounds⟩
  refine ⟨?_, inAnyOrder⟩
  obtain ⟨allocation, taken, ideals⟩ := inAnyOrder _ (inRounds_turns videos)
  obtain ⟨fit, rfl⟩ := allocateTurns_eq_ok_iff.mp taken
  exact ⟨_, allocateSendRate_eq_ok_iff.mpr ⟨fit, rfl⟩, ideals⟩

/-- A video whose middle layer is the cheapest one and is forwarded. -/
def videoWithCheapLayer : AllocatableVideo where
  senderDemuxId := DemuxId.fromSsrc 16
  layers := [AllocatableVideoLayer.ofWord 300000 180, .ofWord 100000 360,
    .ofWord 1000000 720].get
  requestedHeight := 720
  allocatedLayerIndex := some (Fin.last 1).castSucc
  interesting := none

/-- A video that is not requested. -/
def videoNotRequested : AllocatableVideo where
  senderDemuxId := DemuxId.fromSsrc 32
  layers := [AllocatableVideoLayer.ofWord 200000 180, .ofWord 0 0,
    .ofWord 0 0].get
  requestedHeight := 0
  allocatedLayerIndex := none
  interesting := some 7

theorem monotone_nineTenths : Monotone nineTenths := by
  intro lower higher noMore
  exact Nat.div_le_div_right (Nat.mul_le_mul_right 9 noMore)

theorem allocateSendRate_ideal_of_two_videos :
    ∃ table, allocateSendRate .debug nineTenths 3000000 2000000 1000000 0
        [videoWithCheapLayer, videoNotRequested] = .ok table ∧
      table.lookup (DemuxId.fromSsrc 16) =
        some ⟨DemuxId.fromSsrc 16, 2, 1000000, 720⟩ ∧
      table.lookup (DemuxId.fromSsrc 32) = none := by
  have bothWays : ∀ video ∈ [videoWithCheapLayer, videoNotRequested],
      ∀ index, 0 < (video.layers index).incomingHeight ↔
        0 < (video.layers index).incomingRate := by
    decide +kernel
  obtain ⟨table, allocated, given, -⟩ := (@allocateSendRate_ideal nineTenths
    monotone_nineTenths 3000000 2000000 (by decide) 1000000 0 (by decide)
    [videoWithCheapLayer, videoNotRequested] (by decide +kernel) bothWays
    (by decide +kernel) .debug).1
  refine ⟨table, allocated, ?_, ?_⟩
  · exact (given videoWithCheapLayer List.mem_cons_self).trans
      (by decide +kernel)
  · exact (given videoNotRequested
      (List.mem_cons_of_mem _ List.mem_cons_self)).trans (by decide +kernel)

/-- A video whose highest layer is forwarded. -/
def videoForwardedHigh : AllocatableVideo where
  senderDemuxId := DemuxId.fromSsrc 16
  layers := [AllocatableVideoLayer.ofWord 100000 180, .ofWord 300000 360,
    .ofWord 1000000 720].get
  requestedHeight := 720
  allocatedLayerIndex := some (Fin.last 2)
  interesting := none

/-- With a target below the minimum target there is room for the ideal layer
among the different layers, but it is a kept one and the budget for those is
lower. -/
theorem ideal_layer_not_given_below_minTarget :
    ([videoForwardedHigh].map (·.senderDemuxId)).Nodup ∧
    (∀ video ∈ [videoForwardedHigh], ∀ index,
      0 < (video.layers index).incomingHeight ↔
        0 < (video.layers index).incomingRate) ∧
    allocatableRate nineTenths 2000000 0 1000000 =
      idealRates [videoForwardedHigh] ∧
    ∃ table, allocateSendRate .release nineTenths 500000 2000000 1000000 0
        [videoForwardedHigh] = .ok table ∧
      table.lookup (DemuxId.fromSsrc 16) =
        some ⟨DemuxId.fromSsrc 16, 1, 300000, 360⟩ ∧
      videoForwardedHigh.idealVideoLayerIndex = some 2 := by
  refine ⟨by decide +kernel, by decide +kernel, by decide +kernel,
    _, allocateSendRate_eq_ok_iff.mpr ⟨nofun, rfl⟩, ?_⟩
  decide +kernel

end CallingService.Backend
