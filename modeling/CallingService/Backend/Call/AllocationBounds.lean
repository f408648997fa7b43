import CallingService.Backend.Call.Allocation

/-!
# What the allocation spends

The rounds over the layers are one sequence of turns, each of which may
replace the layer of one video.  The allocated rate never falls as long as its
sum fits in a word, while a replacement may cost less than what it replaces: it
bounds the rates that are really spent, and is itself bounded by the budget.
-/

namespace CallingService.Backend

open Foundation AllocatableVideo

namespace AllocatableVideo

variable {video : AllocatableVideo}

theorem highestLayer_spec {test : AllocatableVideoLayer → Bool}
    {index : Fin 3} (found : video.highestLayer test = some index) :
    test (video.layers index) = true := by
  unfold highestLayer at found
  have passes := List.find?_some found
  exact passes

theorem idealVideoLayerIndex_of_nothing_requested
    (nothing : video.requestedHeight = 0) :
    video.idealVideoLayerIndex = none := by
  unfold idealVideoLayerIndex
  exact if_pos nothing

/-- The ideal layer is one that comes in. -/
theorem rate_of_idealVideoLayerIndex {ideal : Fin 3}
    (found : video.idealVideoLayerIndex = some ideal) :
    0 < (video.layers ideal).incomingRate := by
  unfold idealVideoLayerIndex at found
  split at found
  · cases found
  · split at found
    · have passes := highestLayer_spec found
      rw [Bool.and_eq_true] at passes
      exact of_decide_eq_true passes.2
    · have passes := highestLayer_spec found
      rw [Bool.and_eq_true] at passes
      exact of_decide_eq_true passes.1

end AllocatableVideo

namespace Allocation

/-- One video in one round. -/
structure Turn where
  layerIndex : Fin 3
  video : AllocatableVideo

/-- A turn in a release build. -/
def takeTurn (budget : AllocationBudget) (allocation : Allocation)
    (turn : Turn) : Allocation :=
  inRelease fun profile =>
    allocation.allocateVideo profile budget turn.layerIndex turn.video

/-- The lowest layer of every video in order of precedence, then the next one
of every video, then the highest one. -/
def turns (videos : List AllocatableVideo) : List Turn :=
  LayerId.videoLayerIndices.flatMap fun layerIndex =>
    (videos.insertionSort (precedes · ·)).map fun video =>
      ⟨layerIndex, video⟩

def takeTurns (budget : AllocationBudget) (taken : List Turn) : Allocation :=
  taken.foldl (takeTurn budget) empty

/-- The turns in either build. -/
def allocateTurns (profile : BuildProfile) (budget : AllocationBudget)
    (taken : List Turn) (allocation : Allocation) :
    Except Panic Allocation :=
  taken.foldlM (fun allocation turn =>
    allocation.allocateVideo profile budget turn.layerIndex turn.video)
    allocation

def budgetOf (minimumAllocation : DataRate → DataRate)
    (targetSendRate minTargetSendRate idealRate outgoingQueueDrainRate :
      DataRate) : AllocationBudget where
  forDifferentLayers := allocatableRate minimumAllocation minTargetSendRate
    outgoingQueueDrainRate idealRate
  forExistingLayers := allocatableRate minimumAllocation targetSendRate
    outgoingQueueDrainRate idealRate

theorem video_mem_of_turn {videos : List AllocatableVideo} {turn : Turn}
    (member : turn ∈ turns videos) : turn.video ∈ videos := by
  unfold turns at member
  obtain ⟨layerIndex, -, inRound⟩ := List.mem_flatMap.mp member
  obtain ⟨video, sorted, rfl⟩ := List.mem_map.mp inRound
  exact (List.perm_insertionSort _ videos).mem_iff.mp sorted

theorem mem_videoLayerIndices (layerIndex : Fin 3) :
    layerIndex ∈ LayerId.videoLayerIndices := by
  revert layerIndex
  decide

theorem turn_mem {videos : List AllocatableVideo} {video : AllocatableVideo}
    (member : video ∈ videos) (layerIndex : Fin 3) :
    ⟨layerIndex, video⟩ ∈ turns videos := by
  have sorted := (List.perm_insertionSort (precedes · ·) videos).mem_iff.mpr member
  exact List.mem_flatMap.mpr
    ⟨layerIndex, mem_videoLayerIndices layerIndex,
      List.mem_map.mpr ⟨video, sorted, rfl⟩⟩

end Allocation

open Allocation

/-- The rounds are one sequence of turns. -/
theorem allocateTurns_rounds (profile : BuildProfile)
    (budget : AllocationBudget) (sorted : List AllocatableVideo)
    (rounds : List (Fin 3)) (allocation : Allocation) :
    rounds.foldlM (fun allocation layerIndex =>
      sorted.foldlM (allocateVideo profile budget layerIndex) allocation)
      allocation =
      allocateTurns profile budget (rounds.flatMap fun layerIndex =>
        sorted.map fun video => ⟨layerIndex, video⟩) allocation := by
  unfold allocateTurns
  induction rounds generalizing allocation with
  | nil => rfl
  | cons layerIndex rest ih =>
      rw [List.foldlM_cons, List.flatMap_cons, List.foldlM_append,
        List.foldlM_map]
      congr 1
      funext allocation
      exact ih allocation

namespace Allocation

/-- A candidate is the layer of the round, or a live layer no higher than the
ideal one. -/
theorem candidateLayerIndex_cases (video : AllocatableVideo)
    (layerIndex ideal : Fin 3) :
    candidateLayerIndex video layerIndex ideal = layerIndex ∨
      candidateLayerIndex video layerIndex ideal ≤ ideal ∧
        (video.layers
          (candidateLayerIndex video layerIndex ideal)).incomingRate ≠ 0 := by
  unfold candidateLayerIndex
  refine List.foldlRecOn (motive := fun candidate => candidate = layerIndex ∨
    candidate ≤ ideal ∧ (video.layers candidate).incomingRate ≠ 0) _ _
    (.inl rfl) ?_
  intro candidate earlier index member
  split
  · rename_i better
    have admitted := (List.mem_filter.mp member).2
    rw [Bool.and_eq_true] at admitted
    exact .inr ⟨of_decide_eq_true admitted.2, better.2.1⟩
  · exact earlier

/-- No layer costs less than one without a rate. -/
theorem candidateLayerIndex_of_stopped {video : AllocatableVideo}
    {layerIndex : Fin 3} (stopped : (video.layers layerIndex).incomingRate = 0)
    (ideal : Fin 3) :
    candidateLayerIndex video layerIndex ideal = layerIndex := by
  unfold candidateLayerIndex
  refine List.foldlRecOn (motive := fun candidate => candidate = layerIndex)
    _ _ rfl ?_
  rintro candidate rfl index -
  apply if_neg
  rw [stopped]
  exact fun better => Nat.not_lt_zero _ better.2.2

variable {budget : AllocationBudget} {allocation : Allocation}

/-- The budget for a layer of the video. -/
def allocatable (budget : AllocationBudget) (video : AllocatableVideo)
    (candidate : Fin 3) : DataRate :=
  if some candidate = video.allocatedLayerIndex then budget.forExistingLayers
  else budget.forDifferentLayers

/-- What the layer costs beyond the one it replaces. -/
def rateIncrease (allocation : Allocation) (video : AllocatableVideo)
    (candidate : Fin 3) : DataRate :=
  (video.layers candidate).incomingRate -
    ((allocation.bySenderDemuxId.lookup video.senderDemuxId).map
      (·.rate)).getD 0

/-- What is allocated after the layer has been chosen in a release build. -/
def increasedRate (allocation : Allocation) (video : AllocatableVideo)
    (candidate : Fin 3) : DataRate :=
  (allocation.allocatedRate + allocation.rateIncrease video candidate) % 2 ^ 64

def choose (allocation : Allocation) (video : AllocatableVideo)
    (candidate : Fin 3) : Allocation where
  bySenderDemuxId := allocation.bySenderDemuxId.insert video.senderDemuxId
    ⟨video.senderDemuxId, candidate, (video.layers candidate).incomingRate,
      (video.layers candidate).incomingHeight⟩
  allocatedRate := allocation.increasedRate video candidate

theorem addU64_release (left right : Nat) :
    BuildProfile.release.addU64 left right =
      .ok ((left + right) % 2 ^ 64) := by
  unfold BuildProfile.addU64
  split
  · rename_i small
    rw [Nat.mod_eq_of_lt small]
  · rfl

/-- Both builds agree where the sum fits in a word. -/
theorem allocateLayer_eq {profile : BuildProfile} {video : AllocatableVideo}
    {candidate : Fin 3}
    (fits : profile = .debug → allocation.allocatedRate +
      allocation.rateIncrease video candidate < 2 ^ 64) :
    allocation.allocateLayer profile budget video candidate =
      .ok (if allocatable budget video candidate <
          allocation.increasedRate video candidate then allocation
      else allocation.choose video candidate) := by
  have added : profile.addU64 allocation.allocatedRate
      (allocation.rateIncrease video candidate) =
        .ok (allocation.increasedRate video candidate) := by
    cases profile with
    | debug =>
        rw [BuildProfile.addU64_eq_ok _ (fits rfl)]
        exact congrArg _ (Nat.mod_eq_of_lt (fits rfl)).symm
    | release => exact addU64_release _ _
  change (profile.addU64 allocation.allocatedRate
    (allocation.rateIncrease video candidate) >>= _) = _
  rw [added]
  change (if allocatable budget video candidate <
    allocation.increasedRate video candidate then _ else _) = _
  split
  · rfl
  · rfl

theorem allocateLayer_debug {video : AllocatableVideo} {candidate : Fin 3}
    {next : Allocation}
    (allocated : allocation.allocateLayer .debug budget video candidate =
      .ok next) :
    allocation.allocatedRate + allocation.rateIncrease video candidate <
      2 ^ 64 := by
  obtain ⟨increased, added, -⟩ := bind_eq_ok_iff.mp allocated
  unfold BuildProfile.addU64 at added
  split at added
  · assumption
  · cases added

/-- What a turn may choose: a layer no higher than the ideal one, for which
there is room. -/
structure Chooses (budget : AllocationBudget) (allocation : Allocation)
    (turn : Turn) (ideal candidate : Fin 3) : Prop where
  hasIdeal : turn.video.idealVideoLayerIndex = some ideal
  round : turn.layerIndex ≤ ideal
  comesIn : ¬ ((turn.video.layers turn.layerIndex).incomingHeight = 0 ∧
    (turn.video.layers turn.layerIndex).incomingRate = 0)
  isCandidate : candidate =
    candidateLayerIndex turn.video turn.layerIndex ideal
  affordable : allocation.increasedRate turn.video candidate ≤
    allocatable budget turn.video candidate

/-- The sum that the turn compares with the budget fits in a word. -/
def SumInWord (allocation : Allocation) (turn : Turn) : Prop :=
  ∀ ideal, turn.video.idealVideoLayerIndex = some ideal →
    turn.layerIndex ≤ ideal →
    ¬ ((turn.video.layers turn.layerIndex).incomingHeight = 0 ∧
      (turn.video.layers turn.layerIndex).incomingRate = 0) →
    allocation.allocatedRate + allocation.rateIncrease turn.video
      (candidateLayerIndex turn.video turn.layerIndex ideal) < 2 ^ 64

/-- What one turn does in the builds that do not panic at it. -/
theorem allocateVideo_cases (budget : AllocationBudget)
    (allocation : Allocation) (turn : Turn) :
    ∃ next, (∀ profile : BuildProfile,
        (profile = .debug → SumInWord allocation turn) →
          allocation.allocateVideo profile budget turn.layerIndex turn.video =
            .ok next) ∧
      (next = allocation ∨
        ∃ ideal candidate, Chooses budget allocation turn ideal candidate ∧
          next = allocation.choose turn.video candidate) := by
  unfold allocateVideo
  by_cases comesIn : (turn.video.layers turn.layerIndex).incomingHeight = 0 ∧
      (turn.video.layers turn.layerIndex).incomingRate = 0
  · exact ⟨allocation, fun _ _ => if_pos comesIn, .inl rfl⟩
  simp only [if_neg comesIn]
  cases found : turn.video.idealVideoLayerIndex with
  | none => exact ⟨allocation, fun _ _ => rfl, .inl rfl⟩
  | some ideal =>
      by_cases above : ideal < turn.layerIndex
      · exact ⟨allocation, fun _ _ => if_pos above, .inl rfl⟩
      have round := not_lt.mp above
      simp only [if_neg above]
      refine ⟨_, fun profile fits => allocateLayer_eq fun isDebug =>
        fits isDebug ideal found round comesIn, ?_⟩
      split
      · exact .inl rfl
      · rename_i affordable
        exact .inr ⟨ideal, _, ⟨found, round, comesIn, rfl,
          Nat.le_of_not_lt affordable⟩, rfl⟩

variable {turn : Turn}

theorem allocateVideo_of_sumInWord {profile : BuildProfile}
    (fits : profile = .debug → SumInWord allocation turn) :
    allocation.allocateVideo profile budget turn.layerIndex turn.video =
      .ok (takeTurn budget allocation turn) := by
  obtain ⟨next, taken, -⟩ := allocateVideo_cases budget allocation turn
  rw [taken profile fits]
  exact congrArg _ (inRelease_eq (taken .release nofun)).symm

theorem sumInWord_of_debug {next : Allocation}
    (taken : allocation.allocateVideo .debug budget turn.layerIndex
      turn.video = .ok next) : SumInWord allocation turn := by
  intro ideal hasIdeal round comesIn
  unfold allocateVideo at taken
  rw [if_neg comesIn, hasIdeal] at taken
  dsimp only at taken
  rw [if_neg (not_lt.mpr round)] at taken
  exact allocateLayer_debug taken

theorem takeTurn_cases (budget : AllocationBudget) (allocation : Allocation)
    (turn : Turn) :
    takeTurn budget allocation turn = allocation ∨
      ∃ ideal candidate, Chooses budget allocation turn ideal candidate ∧
        takeTurn budget allocation turn =
          allocation.choose turn.video candidate := by
  obtain ⟨next, taken, cases⟩ := allocateVideo_cases budget allocation turn
  have same : takeTurn budget allocation turn = next :=
    inRelease_eq (taken .release nofun)
  rw [same]
  exact cases

theorem takeTurn_of_chooses {ideal candidate : Fin 3}
    (chooses : Chooses budget allocation turn ideal candidate) :
    takeTurn budget allocation turn =
      allocation.choose turn.video candidate := by
  apply inRelease_eq
  unfold allocateVideo
  rw [if_neg chooses.comesIn, chooses.hasIdeal]
  dsimp only
  rw [if_neg (not_lt.mpr chooses.round), ← chooses.isCandidate,
    allocateLayer_eq (by rintro ⟨⟩),
    if_neg (Nat.not_lt.mpr chooses.affordable)]

theorem Chooses.layerIndex_le {ideal candidate : Fin 3}
    (chooses : Chooses budget allocation turn ideal candidate) :
    candidate ≤ ideal := by
  rcases candidateLayerIndex_cases turn.video turn.layerIndex ideal with
    same | ⟨within, -⟩
  · rw [chooses.isCandidate, same]
    exact chooses.round
  · rw [chooses.isCandidate]
    exact within

/-- An invariant of the turns. -/
theorem takeTurns_invariant (Inv : Allocation → Prop) {taken : List Turn}
    (initial : Inv empty)
    (preserved : ∀ {allocation turn}, turn ∈ taken → Inv allocation →
      Inv (takeTurn budget allocation turn)) :
    Inv (takeTurns budget taken) :=
  List.foldlRecOn taken (takeTurn budget) initial
    fun _ held _ member => preserved member held

theorem takeTurns_snoc (budget : AllocationBudget) (taken : List Turn)
    (turn : Turn) :
    takeTurns budget (taken ++ [turn]) =
      takeTurn budget (takeTurns budget taken) turn := by
  unfold takeTurns
  rw [List.foldl_append]
  rfl

/-- No sum of the turns wraps around. -/
def SumsInWord (budget : AllocationBudget) (taken : List Turn) : Prop :=
  ∀ earlier turn later, taken = earlier ++ turn :: later →
    SumInWord (takeTurns budget earlier) turn

theorem sumsInWord_snoc {taken : List Turn} :
    SumsInWord budget (taken ++ [turn]) ↔
      SumsInWord budget taken ∧ SumInWord (takeTurns budget taken) turn := by
  constructor
  · intro fit
    constructor
    · intro earlier another later split
      exact fit earlier another (later ++ [turn]) (by simp [split])
    · exact fit taken turn [] rfl
  · rintro ⟨fit, last⟩ earlier another later split
    rcases List.eq_nil_or_concat later with rfl | ⟨front, final, rfl⟩
    · obtain ⟨rfl, same⟩ := List.append_inj' split rfl
      cases same
      exact last
    · rw [List.concat_eq_append, ← List.cons_append, ← List.append_assoc]
        at split
      exact fit earlier another front (List.append_inj' split rfl).1

/-- The builds agree unless a sum wraps around, where a debug build panics. -/
theorem allocateTurns_eq_ok_iff {profile : BuildProfile} {taken : List Turn}
    {last : Allocation} :
    allocateTurns profile budget taken empty = .ok last ↔
      (profile = .debug → SumsInWord budget taken) ∧
        last = takeTurns budget taken := by
  induction taken using List.reverseRecOn generalizing last with
  | nil =>
      constructor
      · rintro ⟨⟩
        exact ⟨fun _ _ _ _ split => by simp at split, rfl⟩
      · rintro ⟨-, rfl⟩
        rfl
  | append_singleton taken turn ih =>
      rw [sumsInWord_snoc, takeTurns_snoc]
      unfold allocateTurns at ih ⊢
      rw [List.foldlM_append, bind_eq_ok_iff]
      simp only [List.foldlM_cons, List.foldlM_nil, bind_pure]
      constructor
      · rintro ⟨before, earlier, now⟩
        obtain ⟨fit, rfl⟩ := ih.mp earlier
        have fits : profile = .debug →
            SumInWord (takeTurns budget taken) turn := by
          rintro rfl
          exact sumInWord_of_debug now
        rw [allocateVideo_of_sumInWord fits] at now
        cases now
        exact ⟨fun isDebug => ⟨fit isDebug, fits isDebug⟩, rfl⟩
      · rintro ⟨fit, rfl⟩
        exact ⟨_, ih.mpr ⟨fun isDebug => (fit isDebug).1, rfl⟩,
          allocateVideo_of_sumInWord fun isDebug => (fit isDebug).2⟩

end Allocation

theorem allocateSendRate_eq_ok_iff {profile : BuildProfile}
    {minimumAllocation : DataRate → DataRate}
    {target minTarget ideal drain : DataRate} {videos : List AllocatableVideo}
    {table : Table DemuxId AllocatedVideo} :
    allocateSendRate profile minimumAllocation target minTarget ideal drain
        videos = .ok table ↔
      (profile = .debug → SumsInWord
        (budgetOf minimumAllocation target minTarget ideal drain)
        (turns videos)) ∧
      table = (takeTurns
        (budgetOf minimumAllocation target minTarget ideal drain)
        (turns videos)).bySenderDemuxId := by
  have inTurns : allocateSendRate profile minimumAllocation target minTarget
      ideal drain videos = allocateTurns profile
        (budgetOf minimumAllocation target minTarget ideal drain)
        (turns videos) empty >>= fun allocation =>
          .ok allocation.bySenderDemuxId := by
    unfold turns
    rw [← allocateTurns_rounds]
    rfl
  rw [inTurns, bind_eq_ok_iff]
  simp only [allocateTurns_eq_ok_iff, Except.ok.injEq]
  constructor
  · rintro ⟨allocation, ⟨fit, rfl⟩, rfl⟩
    exact ⟨fit, rfl⟩
  · rintro ⟨fit, rfl⟩
    exact ⟨_, ⟨fit, rfl⟩, rfl⟩

theorem inRelease_allocateSendRate
    (minimumAllocation : DataRate → DataRate)
    (target minTarget ideal drain : DataRate)
    (videos : List AllocatableVideo) :
    (inRelease fun profile => allocateSendRate profile minimumAllocation
      target minTarget ideal drain videos) =
      (takeTurns (budgetOf minimumAllocation target minTarget ideal drain)
        (turns videos)).bySenderDemuxId :=
  inRelease_eq (allocateSendRate_eq_ok_iff.mpr ⟨nofun, rfl⟩)

namespace Allocation

variable {budget : AllocationBudget} {allocation : Allocation}

/-! ## The bound -/

/-- The layer that is forwarded for a sender is one of its video. -/
def Fits (videos : List AllocatableVideo) (sender : DemuxId)
    (allocated : AllocatedVideo) : Prop :=
  allocated.senderDemuxId = sender ∧ ∃ video ∈ videos, video.senderDemuxId = sender ∧
    allocated.rate = (video.layers allocated.layerIndex).incomingRate ∧
    ∃ ideal, video.idealVideoLayerIndex = some ideal ∧
      allocated.layerIndex ≤ ideal

theorem fits_takeTurns (budget : AllocationBudget)
    (videos : List AllocatableVideo) {sender : DemuxId}
    {allocated : AllocatedVideo}
    (found : (takeTurns budget (turns videos)).bySenderDemuxId.lookup sender =
      some allocated) : Fits videos sender allocated := by
  refine takeTurns_invariant (fun allocation => ∀ sender allocated,
    allocation.bySenderDemuxId.lookup sender = some allocated →
      Fits videos sender allocated) ?initial ?preserved sender allocated found
  case initial =>
    intro sender allocated found
    cases found
  case preserved =>
    intro allocation turn member fit
    rcases takeTurn_cases budget allocation turn with
      same | ⟨ideal, candidate, chooses, taken⟩
    · rw [same]
      exact fit
    · rw [taken]
      intro sender allocated found
      change (allocation.bySenderDemuxId.insert turn.video.senderDemuxId
        _).lookup sender = some allocated at found
      by_cases same : sender = turn.video.senderDemuxId
      · subst same
        rw [AList.lookup_insert] at found
        cases found
        exact ⟨rfl, turn.video, video_mem_of_turn member, rfl, rfl, ideal,
          chooses.hasIdeal, chooses.layerIndex_le⟩
      · rw [AList.lookup_insert_ne same] at found
        exact fit sender allocated found

structure Sound (limit : DataRate) (allocation : Allocation) : Prop where
  spent : Table.total (·.rate) allocation.bySenderDemuxId ≤
    allocation.allocatedRate
  limited : allocation.allocatedRate ≤ limit

theorem sound_empty (limit : DataRate) : Sound limit empty where
  spent := Nat.le_refl 0
  limited := Nat.zero_le limit

/-- The sum of the rates grows by no more than the allocated rate does. -/
theorem total_choose_le (allocation : Allocation) (video : AllocatableVideo)
    (candidate : Fin 3)
    (spent : Table.total (·.rate) allocation.bySenderDemuxId ≤
      allocation.allocatedRate) :
    Table.total (·.rate) (allocation.choose video candidate).bySenderDemuxId ≤
      allocation.allocatedRate + allocation.rateIncrease video candidate := by
  unfold choose rateIncrease
  rw [Table.total_insert]
  cases before : allocation.bySenderDemuxId.lookup video.senderDemuxId with
  | none =>
      have missing := AList.lookup_eq_none.mp before
      have unchanged : Table.total (·.rate)
          (allocation.bySenderDemuxId.erase video.senderDemuxId) ≤
            Table.total (·.rate) allocation.bySenderDemuxId := by
        have inserted := Table.total_insert (·.rate) allocation.bySenderDemuxId
          video.senderDemuxId (⟨video.senderDemuxId, candidate, 0, 0⟩)
        rw [Table.total_insert_of_notMem (·.rate) _ missing] at inserted
        exact Nat.le_of_eq (Nat.add_left_cancel inserted).symm
      simp only [Option.map_none, Option.getD_none]
      omega
  | some previous =>
      have split := Table.total_eq_add_erase (·.rate) before
      simp only [Option.map_some, Option.getD_some]
      omega

/-- No budget is above the limit. -/
structure Within (budget : AllocationBudget) (limit : DataRate) : Prop where
  existing : budget.forExistingLayers ≤ limit
  different : budget.forDifferentLayers ≤ limit

theorem Chooses.sumInWord {turn : Turn} {ideal candidate : Fin 3}
    (chooses : Chooses budget allocation turn ideal candidate)
    (fits : SumInWord allocation turn) :
    allocation.allocatedRate + allocation.rateIncrease turn.video candidate <
      2 ^ 64 := by
  rw [chooses.isCandidate]
  exact fits ideal chooses.hasIdeal chooses.round chooses.comesIn

theorem Sound.takeTurn {limit : DataRate} (within : Within budget limit)
    (sound : Sound limit allocation) {turn : Turn}
    (fits : SumInWord allocation turn) :
    Sound limit (takeTurn budget allocation turn) := by
  rcases takeTurn_cases budget allocation turn with
    same | ⟨ideal, candidate, chooses, taken⟩
  · rw [same]
    exact sound
  · rw [taken]
    constructor
    · have noWrap := Nat.mod_eq_of_lt (chooses.sumInWord fits)
      have grown := total_choose_le allocation turn.video candidate sound.spent
      rw [← noWrap] at grown
      exact grown
    · have affordable := chooses.affordable
      unfold allocatable at affordable
      split at affordable
      · exact Nat.le_trans affordable within.existing
      · exact Nat.le_trans affordable within.different

theorem sound_takeTurns {limit : DataRate} (within : Within budget limit)
    {taken : List Turn} (fit : SumsInWord budget taken) :
    Sound limit (takeTurns budget taken) := by
  induction taken using List.reverseRecOn with
  | nil => exact sound_empty limit
  | append_singleton taken turn ih =>
      obtain ⟨before, fits⟩ := sumsInWord_snoc.mp fit
      rw [takeTurns_snoc]
      exact (ih before).takeTurn within fits

/-- Nothing wraps around where the limit leaves room for any layer. -/
theorem sumsInWord_of_room {limit : DataRate} (within : Within budget limit)
    {taken : List Turn} (room : ∀ turn ∈ taken, ∀ index,
      limit + (turn.video.layers index).incomingRate < 2 ^ 64) :
    SumsInWord budget taken := by
  induction taken using List.reverseRecOn with
  | nil =>
      intro _ _ _ split
      simp at split
  | append_singleton taken turn ih =>
      have before := ih fun other member =>
        room other (List.mem_append_left _ member)
      refine sumsInWord_snoc.mpr ⟨before, ?_⟩
      intro ideal _ _ _
      have limited := (sound_takeTurns within before).limited
      have fits := room turn (List.mem_append_right taken List.mem_cons_self)
        (candidateLayerIndex turn.video turn.layerIndex ideal)
      exact Nat.lt_of_le_of_lt
        (Nat.add_le_add limited (Nat.sub_le _ _)) fits

end Allocation

theorem allocatableRate_le {minimumAllocation : DataRate → DataRate}
    (lowers : ∀ rate, minimumAllocation rate ≤ rate)
    (sendRate drain ideal : DataRate) :
    allocatableRate minimumAllocation sendRate drain ideal ≤
      min ideal sendRate := by
  unfold allocatableRate
  have minimum := lowers sendRate
  have drained : sendRate - drain ≤ sendRate := Nat.sub_le _ _
  apply le_min (Nat.min_le_right _ _)
  exact Nat.le_trans (Nat.min_le_left _ _) (Nat.max_le.mpr ⟨drained, minimum⟩)

theorem within_budgetOf {minimumAllocation : DataRate → DataRate}
    (lowers : ∀ rate, minimumAllocation rate ≤ rate)
    {target minTarget : DataRate} (ordered : minTarget ≤ target)
    (ideal drain : DataRate) :
    Within (budgetOf minimumAllocation target minTarget ideal drain)
      (min ideal target) where
  existing := allocatableRate_le lowers target drain ideal
  different := Nat.le_trans (allocatableRate_le lowers minTarget drain ideal)
    (min_le_min_left ideal ordered)

/-- The chosen layers fit into the target and the ideal rate as long as no sum
overflows, none is above the ideal layer, and nothing is chosen where nothing
is requested. -/
theorem allocateSendRate_within_limits
    {minimumAllocation : DataRate → DataRate}
    (lowers : ∀ rate, minimumAllocation rate ≤ rate)
    {target minTarget : DataRate} (ordered : minTarget ≤ target)
    (ideal drain : DataRate) (videos : List AllocatableVideo) :
    (∀ table, allocateSendRate .debug minimumAllocation target minTarget ideal
        drain videos = .ok table →
      allocateSendRate .release minimumAllocation target minTarget ideal drain
        videos = .ok table ∧
      (table.entries.map fun entry => entry.2.rate).sum ≤
        min ideal target) ∧
    ((∀ video ∈ videos, ∀ index,
        min ideal target + (video.layers index).incomingRate < 2 ^ 64) →
      ∃ table, allocateSendRate .debug minimumAllocation target minTarget
        ideal drain videos = .ok table) ∧
    (∃ table, allocateSendRate .release minimumAllocation target minTarget
      ideal drain videos = .ok table) ∧
    ∀ profile table, allocateSendRate profile minimumAllocation target
        minTarget ideal drain videos = .ok table →
      (∀ sender allocated, table.lookup sender = some allocated →
        ∃ video ∈ videos, video.senderDemuxId = sender ∧
          allocated.rate = (video.layers allocated.layerIndex).incomingRate ∧
          ∃ index, video.idealVideoLayerIndex = some index ∧
            allocated.layerIndex ≤ index) ∧
      ∀ sender,
        (∀ video ∈ videos, video.senderDemuxId = sender →
          video.requestedHeight = 0) →
        table.lookup sender = none := by
  have within := within_budgetOf lowers ordered ideal drain
  refine ⟨?_, ?_, ⟨_, allocateSendRate_eq_ok_iff.mpr ⟨nofun, rfl⟩⟩, ?_⟩
  · intro table allocated
    obtain ⟨fit, rfl⟩ := allocateSendRate_eq_ok_iff.mp allocated
    refine ⟨allocateSendRate_eq_ok_iff.mpr ⟨nofun, rfl⟩, ?_⟩
    have sound := sound_takeTurns within (fit rfl)
    exact Nat.le_trans sound.spent sound.limited
  · intro room
    have fit : SumsInWord _ (turns videos) := sumsInWord_of_room within
      fun turn member => room turn.video (video_mem_of_turn member)
    exact ⟨_, allocateSendRate_eq_ok_iff.mpr ⟨fun _ => fit, rfl⟩⟩
  · intro profile table allocated
    obtain ⟨-, rfl⟩ := allocateSendRate_eq_ok_iff.mp allocated
    have fits := fun sender allocated =>
      @fits_takeTurns (budgetOf minimumAllocation target minTarget ideal drain)
        videos sender allocated
    refine ⟨fun sender allocated found => (fits sender allocated found).2, ?_⟩
    intro sender nothing
    by_contra given
    obtain ⟨allocated, found⟩ := Option.ne_none_iff_exists'.mp given
    obtain ⟨-, video, member, named, -, index, hasIdeal, -⟩ :=
      fits sender allocated found
    have none := idealVideoLayerIndex_of_nothing_requested
      (nothing video member named)
    rw [none] at hasIdeal
    cases hasIdeal

/-- A video whose middle layer has stopped, while a height is still known for
it. -/
def videoWithStoppedLayer : AllocatableVideo where
  senderDemuxId := DemuxId.fromSsrc 16
  layers := [AllocatableVideoLayer.ofWord 100000 180, .ofWord 0 360,
    .ofWord 1000000 720].get
  requestedHeight := 720
  allocatedLayerIndex := none
  interesting := none

/-- A video whose base layer comes in at the given rate. -/
def videoWithBaseRate (sender : UInt32) (rate : UInt64) :
    AllocatableVideo where
  senderDemuxId := DemuxId.fromSsrc sender
  layers := [AllocatableVideoLayer.ofWord rate 180, .ofWord 0 0,
    .ofWord 0 0].get
  requestedHeight := 180
  allocatedLayerIndex := none
  interesting := none

/-- Nine tenths of a rate. -/
def nineTenths (rate : DataRate) : DataRate := rate * 9 / 10

theorem nineTenths_le (rate : DataRate) : nineTenths rate ≤ rate := by
  have fewer : rate * 9 ≤ rate * 10 := Nat.mul_le_mul_left rate (by decide)
  exact Nat.div_le_of_le_mul (Nat.mul_comm rate 10 ▸ fewer)

/-- Two videos and three rounds, in which one layer replaces another. -/
theorem allocateSendRate_within_limits_of_two_videos :
    ∃ table, allocateSendRate .debug nineTenths 1500000 1400000 1400000 0
        [videoWithStoppedLayer, videoWithBaseRate 32 200000] =
          .ok table ∧
      (table.entries.map fun entry => entry.2.rate).sum ≤ 1400000 ∧
      table.lookup (DemuxId.fromSsrc 16) =
        some ⟨DemuxId.fromSsrc 16, 2, 1000000, 720⟩ := by
  have limits := @allocateSendRate_within_limits nineTenths nineTenths_le
    1500000 1400000 (by decide) 1400000 0
    [videoWithStoppedLayer, videoWithBaseRate 32 200000]
  obtain ⟨table, allocated⟩ := limits.2.1 (by decide +kernel)
  have found := (allocateSendRate_eq_ok_iff.mp allocated).2
  refine ⟨table, allocated, (limits.1 table allocated).2, ?_⟩
  rw [found]
  decide +kernel

/-- The sum of the two base layers wraps around to 50 bit/s. -/
theorem allocateSendRate_wraps_around :
    ∃ table, allocateSendRate .release nineTenths 1000000 1000000 1000000 0
        [videoWithBaseRate 16 100,
          videoWithBaseRate 32 18446744073709551566] = .ok table ∧
      ¬ (table.entries.map fun entry => entry.2.rate).sum ≤
        min 1000000 1000000 := by
  refine ⟨_, allocateSendRate_eq_ok_iff.mpr ⟨nofun, rfl⟩, ?_⟩
  decide +kernel

/-! ## Stopped layers -/

namespace AllocatableVideo

/-- The layer has a height but no rate, and is below the ideal one. -/
def StoppedAt (video : AllocatableVideo) (index : Fin 3) : Prop :=
  ∃ ideal, video.idealVideoLayerIndex = some ideal ∧ index < ideal ∧
    (video.layers index).incomingHeight ≠ 0 ∧
    (video.layers index).incomingRate = 0

def StoppedBelowIdeal (video : AllocatableVideo) : Prop :=
  ∃ index, video.StoppedAt index

end AllocatableVideo

namespace Allocation

/-- Every chosen layer has a rate. -/
def Live (bySenderDemuxId : Table DemuxId AllocatedVideo) : Prop :=
  ∀ sender allocated, bySenderDemuxId.lookup sender = some allocated →
    0 < allocated.rate

/-- Every choice of every round is a layer with a rate. -/
def LiveThroughout (budget : AllocationBudget)
    (videos : List AllocatableVideo) : Prop :=
  ∀ taken rest, turns videos = taken ++ rest →
    Live (takeTurns budget taken).bySenderDemuxId

variable {budget : AllocationBudget} {allocation : Allocation}

/-- There is room for the stopped layer of the turn, which costs nothing. -/
def OffersStopped (budget : AllocationBudget) (allocation : Allocation)
    (turn : Turn) : Prop :=
  turn.video.StoppedAt turn.layerIndex ∧
    allocation.allocatedRate ≤ allocatable budget turn.video turn.layerIndex

theorem takeTurns_lt (budget : AllocationBudget) (taken : List Turn) :
    (takeTurns budget taken).allocatedRate < 2 ^ 64 := by
  apply takeTurns_invariant fun allocation => allocation.allocatedRate < 2 ^ 64
  · exact Nat.two_pow_pos 64
  · intro allocation turn _ small
    rcases takeTurn_cases budget allocation turn with
      same | ⟨ideal, candidate, -, taken⟩
    · rw [same]
      exact small
    · rw [taken]
      exact Nat.mod_lt _ (Nat.two_pow_pos 64)

theorem increasedRate_of_stopped (small : allocation.allocatedRate < 2 ^ 64)
    {video : AllocatableVideo} {index : Fin 3}
    (stopped : (video.layers index).incomingRate = 0) :
    allocation.increasedRate video index = allocation.allocatedRate := by
  unfold increasedRate rateIncrease
  rw [stopped, Nat.zero_sub, Nat.add_zero, Nat.mod_eq_of_lt small]

variable {turn : Turn}

theorem Chooses.rate_pos (small : allocation.allocatedRate < 2 ^ 64)
    {ideal candidate : Fin 3}
    (chooses : Chooses budget allocation turn ideal candidate)
    (noStopped : ¬ OffersStopped budget allocation turn) :
    0 < (turn.video.layers candidate).incomingRate := by
  have isCandidate := chooses.isCandidate
  rcases candidateLayerIndex_cases turn.video turn.layerIndex ideal with
    same | ⟨-, live⟩
  · rw [← isCandidate] at same
    subst same
    apply Nat.pos_of_ne_zero
    intro noRate
    -- A layer without a rate has a height here, so it is below the ideal one.
    have hasHeight : (turn.video.layers turn.layerIndex).incomingHeight ≠ 0 :=
      fun noHeight => chooses.comesIn ⟨noHeight, noRate⟩
    have notIdeal : turn.layerIndex ≠ ideal := by
      intro equal
      have idealRate := rate_of_idealVideoLayerIndex chooses.hasIdeal
      rw [← equal, noRate] at idealRate
      exact Nat.lt_irrefl 0 idealRate
    have affordable := chooses.affordable
    rw [increasedRate_of_stopped small noRate] at affordable
    exact noStopped ⟨⟨ideal, chooses.hasIdeal,
      lt_of_le_of_ne chooses.round notIdeal, hasHeight, noRate⟩, affordable⟩
  · rw [← isCandidate] at live
    exact Nat.pos_of_ne_zero live

theorem live_takeTurn (small : allocation.allocatedRate < 2 ^ 64)
    (noStopped : ¬ OffersStopped budget allocation turn)
    (live : Live allocation.bySenderDemuxId) :
    Live (takeTurn budget allocation turn).bySenderDemuxId := by
  rcases takeTurn_cases budget allocation turn with
    same | ⟨ideal, candidate, chooses, taken⟩
  · rw [same]
    exact live
  · rw [taken]
    intro sender allocated found
    change (allocation.bySenderDemuxId.insert turn.video.senderDemuxId
      _).lookup sender = some allocated at found
    by_cases same : sender = turn.video.senderDemuxId
    · subst same
      rw [AList.lookup_insert] at found
      cases found
      exact chooses.rate_pos small noStopped
    · rw [AList.lookup_insert_ne same] at found
      exact live sender allocated found

/-- The stopped layer is chosen as long as the rate that is allocated already
is within the budget. -/
theorem takeTurn_of_stopped (small : allocation.allocatedRate < 2 ^ 64)
    (offers : OffersStopped budget allocation turn) :
    takeTurn budget allocation turn =
      allocation.choose turn.video turn.layerIndex := by
  obtain ⟨⟨ideal, hasIdeal, below, hasHeight, stopped⟩, affordable⟩ := offers
  have chooses : Chooses budget allocation turn ideal turn.layerIndex := {
    hasIdeal := hasIdeal
    round := le_of_lt below
    comesIn := fun nothing => hasHeight nothing.1
    isCandidate := (candidateLayerIndex_of_stopped stopped ideal).symm
    affordable := by
      rw [increasedRate_of_stopped small stopped]
      exact affordable }
  exact takeTurn_of_chooses chooses

theorem lookup_choose (allocation : Allocation) (video : AllocatableVideo)
    (candidate : Fin 3) :
    (allocation.choose video candidate).bySenderDemuxId.lookup
        video.senderDemuxId =
      some ⟨video.senderDemuxId, candidate,
        (video.layers candidate).incomingRate,
        (video.layers candidate).incomingHeight⟩ :=
  AList.lookup_insert ..

theorem not_live_takeTurn_of_stopped (small : allocation.allocatedRate < 2 ^ 64)
    (offers : OffersStopped budget allocation turn) :
    ¬ Live (takeTurn budget allocation turn).bySenderDemuxId := by
  intro live
  obtain ⟨ideal, -, -, -, stopped⟩ := offers.1
  rw [takeTurn_of_stopped small offers] at live
  have positive := live _ _ (lookup_choose _ turn.video turn.layerIndex)
  exact Nat.lt_irrefl 0 (stopped ▸ positive)

/-- The choices are live in all rounds exactly if no turn finds room for a
stopped layer. -/
theorem liveThroughout_iff (budget : AllocationBudget)
    (videos : List AllocatableVideo) :
    LiveThroughout budget videos ↔
      ∀ taken turn rest, turns videos = taken ++ turn :: rest →
        ¬ OffersStopped budget (takeTurns budget taken) turn := by
  constructor
  · intro live taken turn rest split offers
    have next := live (taken ++ [turn]) rest
      (split.trans (List.append_cons ..))
    rw [takeTurns_snoc] at next
    exact not_live_takeTurn_of_stopped (takeTurns_lt budget taken) offers next
  · intro noStopped taken
    induction taken using List.reverseRecOn with
    | nil =>
        intro _ _ sender allocated found
        cases found
    | append_singleton earlier turn ih =>
        intro rest split
        have here : turns videos = earlier ++ turn :: rest :=
          split.trans (List.append_cons ..).symm
        rw [takeTurns_snoc]
        exact live_takeTurn (takeTurns_lt budget earlier)
          (noStopped earlier turn rest here) (ih _ here)

theorem liveThroughout_of_not_stopped {videos : List AllocatableVideo}
    (notStopped : ∀ video ∈ videos, ¬ video.StoppedBelowIdeal) :
    LiveThroughout budget videos := by
  rw [liveThroughout_iff]
  intro taken turn rest split offers
  have inTurns : turn ∈ turns videos := by
    rw [split]
    exact List.mem_append_right taken (List.mem_cons_self ..)
  exact notStopped turn.video (video_mem_of_turn inTurns)
    ⟨turn.layerIndex, offers.1⟩

/-- With one budget for all layers, the rate that is allocated is always within
it. -/
theorem allocatedRate_le
    (oneBudget : budget.forExistingLayers = budget.forDifferentLayers)
    (taken : List Turn) (video : AllocatableVideo) (index : Fin 3) :
    (takeTurns budget taken).allocatedRate ≤
      allocatable budget video index := by
  have oneLimit : ∀ (video : AllocatableVideo) (index : Fin 3),
      allocatable budget video index = budget.forDifferentLayers := by
    intro video index
    unfold allocatable
    rw [oneBudget, ite_self]
  rw [oneLimit]
  apply takeTurns_invariant
    (fun allocation => allocation.allocatedRate ≤ budget.forDifferentLayers)
    (Nat.zero_le _)
  intro allocation turn _ within
  rcases takeTurn_cases budget allocation turn with
    same | ⟨ideal, candidate, chooses, taken⟩
  · rw [same]
    exact within
  · rw [taken, ← oneLimit turn.video candidate]
    exact chooses.affordable

theorem not_liveThroughout_of_stopped {videos : List AllocatableVideo}
    (oneBudget : budget.forExistingLayers = budget.forDifferentLayers)
    {video : AllocatableVideo} (member : video ∈ videos)
    (stoppedBelow : video.StoppedBelowIdeal) :
    ¬ LiveThroughout budget videos := by
  obtain ⟨index, stopped⟩ := stoppedBelow
  obtain ⟨taken, rest, split⟩ := List.append_of_mem (turn_mem member index)
  rw [liveThroughout_iff]
  intro noStopped
  exact noStopped taken ⟨index, video⟩ rest split
    ⟨stopped, allocatedRate_le oneBudget taken video index⟩

theorem mem_takeTurn {sender : DemuxId}
    (known : sender ∈ allocation.bySenderDemuxId) :
    sender ∈ (takeTurn budget allocation turn).bySenderDemuxId := by
  rcases takeTurn_cases budget allocation turn with
    same | ⟨ideal, candidate, chooses, taken⟩
  · rw [same]
    exact known
  · rw [taken]
    exact (AList.mem_insert _).mpr (.inr known)

theorem mem_of_stopped {videos : List AllocatableVideo}
    (oneBudget : budget.forExistingLayers = budget.forDifferentLayers)
    {video : AllocatableVideo} (member : video ∈ videos)
    (stoppedBelow : video.StoppedBelowIdeal) :
    video.senderDemuxId ∈
      (takeTurns budget (turns videos)).bySenderDemuxId := by
  obtain ⟨index, stopped⟩ := stoppedBelow
  obtain ⟨taken, rest, split⟩ := List.append_of_mem (turn_mem member index)
  have within := allocatedRate_le oneBudget taken video index
  have next : takeTurn budget (takeTurns budget taken) ⟨index, video⟩ =
      (takeTurns budget taken).choose video index :=
    takeTurn_of_stopped (takeTurns_lt budget taken) ⟨stopped, within⟩
  rw [split]
  unfold takeTurns
  rw [List.foldl_append, List.foldl_cons]
  refine List.foldlRecOn rest (takeTurn budget)
    (motive := fun allocation => video.senderDemuxId ∈
      allocation.bySenderDemuxId) ?_ ?_
  · change video.senderDemuxId ∈ (takeTurn budget (takeTurns budget taken)
      ⟨index, video⟩).bySenderDemuxId
    rw [next]
    exact (AList.mem_insert _).mpr (.inl rfl)
  · intro allocation known turn _
    exact mem_takeTurn known

end Allocation

/-- Without a budget only layers without a rate are chosen. -/
theorem not_live_of_stopped (profile : BuildProfile)
    (minimumAllocation : DataRate → DataRate)
    {videos : List AllocatableVideo} {video : AllocatableVideo}
    (member : video ∈ videos) (stoppedBelow : video.StoppedBelowIdeal) :
    ∃ table, allocateSendRate profile minimumAllocation 0 0 0 0 videos =
      .ok table ∧ ¬ Live table := by
  have noBudget : allocatableRate minimumAllocation 0 0 0 = 0 :=
    Nat.min_zero _
  have within : Within (budgetOf minimumAllocation 0 0 0 0) 0 :=
    ⟨Nat.le_of_eq noBudget, Nat.le_of_eq noBudget⟩
  have fit : SumsInWord (budgetOf minimumAllocation 0 0 0 0)
      (turns videos) := by
    apply sumsInWord_of_room within
    intro turn _ index
    rw [Nat.zero_add]
    exact (turn.video.layers index).inWord
  have sound := sound_takeTurns within fit
  refine ⟨_, allocateSendRate_eq_ok_iff.mpr ⟨fun _ => fit, rfl⟩, ?_⟩
  intro live
  have oneBudget : (budgetOf minimumAllocation 0 0 0 0).forExistingLayers =
      (budgetOf minimumAllocation 0 0 0 0).forDifferentLayers := rfl
  have known := mem_of_stopped oneBudget member stoppedBelow
  obtain ⟨allocated, found⟩ :=
    Option.isSome_iff_exists.mp (AList.lookup_isSome.mpr known)
  have positive := live _ allocated found
  have spent := Table.measure_le_total (·.rate) found
  have total := Nat.le_trans sound.spent sound.limited
  exact Nat.lt_irrefl 0
    (Nat.lt_of_lt_of_le positive (Nat.le_trans spent total))

/-- The chosen layers all come in, whatever the rates are, exactly for videos
without a layer that has stopped below the ideal one. -/
theorem allocateSendRate_live_iff (profile : BuildProfile)
    (minimumAllocation : DataRate → DataRate)
    (videos : List AllocatableVideo) :
    ((∀ target minTarget ideal drain, minTarget ≤ target →
        ∀ table, allocateSendRate profile minimumAllocation target minTarget
          ideal drain videos = .ok table → Live table) ↔
      ∀ video ∈ videos, ¬ video.StoppedBelowIdeal) ∧
    ((∀ video ∈ videos, ¬ video.StoppedBelowIdeal) →
      ∀ target minTarget ideal drain,
        LiveThroughout
          (budgetOf minimumAllocation target minTarget ideal drain) videos) ∧
    (∀ target minTarget ideal drain,
      allocatableRate minimumAllocation target drain ideal =
        allocatableRate minimumAllocation minTarget drain ideal →
      (LiveThroughout
          (budgetOf minimumAllocation target minTarget ideal drain) videos ↔
        ∀ video ∈ videos, ¬ video.StoppedBelowIdeal)) ∧
    (∀ target minTarget ideal drain,
      LiveThroughout
          (budgetOf minimumAllocation target minTarget ideal drain) videos ↔
        ∀ taken turn rest, turns videos = taken ++ turn :: rest →
          ¬ OffersStopped
            (budgetOf minimumAllocation target minTarget ideal drain)
            (takeTurns
              (budgetOf minimumAllocation target minTarget ideal drain) taken)
            turn) := by
  refine ⟨⟨?_, ?_⟩, ?_, ?_, ?_⟩
  · intro live video member stoppedBelow
    obtain ⟨table, allocated, notLive⟩ :=
      not_live_of_stopped profile minimumAllocation member stoppedBelow
    exact notLive (live 0 0 0 0 (Nat.le_refl 0) table allocated)
  · intro notStopped target minTarget ideal drain _ table allocated
    obtain ⟨-, rfl⟩ := allocateSendRate_eq_ok_iff.mp allocated
    exact liveThroughout_of_not_stopped notStopped _ []
      (List.append_nil _).symm
  · intro notStopped target minTarget ideal drain
    exact liveThroughout_of_not_stopped notStopped
  · intro target minTarget ideal drain oneBudget
    constructor
    · intro live video member stoppedBelow
      exact not_liveThroughout_of_stopped oneBudget member stoppedBelow live
    · exact liveThroughout_of_not_stopped
  · intro target minTarget ideal drain
    exact liveThroughout_iff _ videos

/-- The live base layer of the first round is replaced by a layer without a
rate in the second one, and the third one has no room for the highest. -/
theorem live_layer_replaced_by_stopped_layer :
    (takeTurns (budgetOf nineTenths 500000 500000 1000000 0)
        [⟨LayerId.baseLayerIndex, videoWithStoppedLayer⟩]).bySenderDemuxId.lookup
          (DemuxId.fromSsrc 16) =
      some ⟨DemuxId.fromSsrc 16, 0, 100000, 180⟩ ∧
    ∀ profile, ∃ table, allocateSendRate profile nineTenths 500000 500000
        1000000 0 [videoWithStoppedLayer] = .ok table ∧
      table.lookup (DemuxId.fromSsrc 16) =
        some ⟨DemuxId.fromSsrc 16, 1, 0, 360⟩ := by
  constructor
  · decide +kernel
  · intro profile
    have within := within_budgetOf nineTenths_le (Nat.le_refl 500000) 1000000 0
    have room : ∀ video ∈ [videoWithStoppedLayer], ∀ index,
        min 1000000 500000 + (video.layers index).incomingRate < 2 ^ 64 := by
      decide +kernel
    have fit : SumsInWord _ (turns [videoWithStoppedLayer]) :=
      sumsInWord_of_room within fun turn member =>
        room turn.video (video_mem_of_turn member)
    refine ⟨_, allocateSendRate_eq_ok_iff.mpr ⟨fun _ => fit, rfl⟩, ?_⟩
    decide +kernel

end CallingService.Backend
