import CallingService.Backend.Call.CallRun
import CallingService.Backend.Call.KeyFrames

/-!
# The smallest recent target

The smallest target of the last while is kept in two generations.  The older
one is forgotten only when a target arrives after the deadline, so that a
target is remembered for a whole interval after it was set.
-/

namespace CallingService.Backend

open Foundation Rtp

variable {externals : CallExternals}

structure TargetChange where
  rate : DataRate
  time : Instant

/-- Every target is above the current generation, or above the old one and
set before that was closed, or out of date. -/
def Client.Remembers (receiver : Client externals) (now : Instant)
    (target : TargetChange) : Prop :=
  receiver.currentGenerationMinTargetSendRate ≤ target.rate ∨
  (receiver.oldGenerationMinTargetSendRate ≤ target.rate ∧
    target.time + minTargetSendRateGenerationInterval ≤
      receiver.nextMinTargetGenerationUpdateTime) ∨
  target.time + minTargetSendRateGenerationInterval < now

def Client.changeTarget (receiver : Client externals) (target : TargetChange) :
    Client externals :=
  receiver.setTargetSendRate target.rate target.time

variable {receiver : Client externals}

/-- One call, for a target that was set before it. -/
theorem Client.Remembers.changeTarget {now : Instant}
    {earlier target : TargetChange} (remembers : receiver.Remembers now earlier)
    (past : earlier.time ≤ target.time) (ordered : now ≤ target.time) :
    (receiver.changeTarget target).Remembers target.time earlier := by
  unfold Client.changeTarget Client.setTargetSendRate Client.Remembers
  dsimp only
  split
  · rename_i rotates
    rcases remembers with current | ⟨old, closed⟩ | outdated
    · exact .inr (.inl ⟨current, Nat.add_le_add_right past _⟩)
    · exact .inr (.inr (Nat.lt_of_le_of_lt closed rotates))
    · exact .inr (.inr (Nat.lt_of_lt_of_le outdated ordered))
  · split
    · rename_i smaller
      rcases remembers with current | ⟨old, closed⟩ | outdated
      · exact .inl (Nat.le_trans (Nat.le_of_lt smaller) current)
      · exact .inr (.inl ⟨old, closed⟩)
      · exact .inr (.inr (Nat.lt_of_lt_of_le outdated ordered))
    · rcases remembers with current | ⟨old, closed⟩ | outdated
      · exact .inl current
      · exact .inr (.inl ⟨old, closed⟩)
      · exact .inr (.inr (Nat.lt_of_lt_of_le outdated ordered))

variable {target : TargetChange}

/-- The target that has just been set. -/
theorem Client.remembers_changeTarget :
    (receiver.changeTarget target).Remembers target.time target := by
  unfold Client.changeTarget Client.setTargetSendRate Client.Remembers
  left
  dsimp only
  split
  · exact Nat.le_refl _
  · split
    · exact Nat.le_refl _
    · rename_i noSmaller
      exact Nat.le_of_not_lt noSmaller

theorem Client.targetSendRate_changeTarget :
    (receiver.changeTarget target).targetSendRate = target.rate := by
  unfold Client.changeTarget Client.setTargetSendRate
  dsimp only
  split
  · rfl
  · split
    · rfl
    · rfl

theorem Client.Remembers.min_le {now : Instant}
    (remembers : receiver.Remembers now target)
    (recent : now ≤ target.time + minTargetSendRateGenerationInterval) :
    receiver.minTargetSendRate ≤ target.rate := by
  unfold Client.minTargetSendRate
  rcases remembers with current | ⟨old, -⟩ | outdated
  · exact Nat.le_trans (Nat.min_le_left _ _) current
  · exact Nat.le_trans (Nat.min_le_right _ _) old
  · exact absurd recent (Nat.not_le_of_lt outdated)

/-- All targets so far, the initial one included. -/
theorem Client.remembers_foldl {created : TargetChange}
    {changes : List TargetChange}
    (ordered : ((created :: changes).map TargetChange.time).Pairwise (· ≤ ·))
    (initial : receiver.Remembers created.time created) :
    ∀ target ∈ created :: changes,
      (changes.foldl Client.changeTarget receiver).Remembers
        ((created :: changes).getLast (List.cons_ne_nil _ _)).time target := by
  induction changes using List.reverseRecOn with
  | nil =>
      intro target member
      rw [List.mem_singleton.mp member]
      exact initial
  | append_singleton changes last ih =>
      rw [← List.cons_append, List.map_append, List.pairwise_append] at ordered
      obtain ⟨before, -, later⟩ := ordered
      intro target member
      rw [← List.cons_append] at member
      have isLast : (created :: (changes ++ [last])).getLast
          (List.cons_ne_nil _ _) = last := by
        simp
      rw [isLast, List.foldl_append]
      rcases List.mem_append.mp member with earlier | isNew
      · have past := later target.time (List.mem_map_of_mem earlier)
          last.time (List.mem_singleton_self _)
        have latest := later _ (List.mem_map_of_mem
          (List.getLast_mem (List.cons_ne_nil created changes))) last.time
          (List.mem_singleton_self _)
        exact (ih before target earlier).changeTarget past latest
      · rw [List.mem_singleton.mp isNew]
        exact Client.remembers_changeTarget

theorem find?_modifyFirst {α : Type} {test : α → Bool} {change : α → α}
    (keeps : ∀ item, test (change item) = test item) {items : List α} :
    (modifyFirst test change items).find? test =
      (items.find? test).map change := by
  induction items with
  | nil => rfl
  | cons item items ih =>
      unfold modifyFirst
      by_cases found : test item = true
      · rw [if_pos found, List.find?_cons_of_pos (by rw [keeps, found]),
          List.find?_cons_of_pos found]
        rfl
      · rw [if_neg found, List.find?_cons_of_neg found,
          List.find?_cons_of_neg found, ih]

theorem Call.findClient_setTargetSendRate {call : Call externals}
    {demuxId : DemuxId} :
    (call.setTargetSendRate demuxId target.rate target.time).findClient
        demuxId =
      (call.findClient demuxId).map fun receiver =>
        receiver.changeTarget target := by
  refine find?_modifyFirst fun receiver => ?_
  have same := congrArg (·.demuxId)
    (receiver.toNonParticipant_setTargetSendRate target.rate target.time)
  exact congrArg (decide <| · = demuxId) same

/-- All targets of one client, in this order. -/
def Call.setTargetSendRates (call : Call externals) (demuxId : DemuxId)
    (targets : List TargetChange) : Call externals :=
  targets.foldl (fun call target =>
    call.setTargetSendRate demuxId target.rate target.time) call

theorem Call.findClient_setTargetSendRates {call : Call externals}
    {demuxId : DemuxId} {targets : List TargetChange} :
    (call.setTargetSendRates demuxId targets).findClient demuxId =
      (call.findClient demuxId).map fun receiver =>
        targets.foldl Client.changeTarget receiver := by
  unfold setTargetSendRates
  induction targets generalizing call with
  | nil => simp
  | cons target targets ih =>
      rw [List.foldl_cons, ih, findClient_setTargetSendRate, Option.map_map]
      rfl

/-- After the last of any number of calls. -/
theorem Call.min_target_of_recent {call : Call externals} {demuxId : DemuxId}
    {pending : NonParticipantClient} {initial requestedMax : DataRate}
    {joined : Instant} {targets : List TargetChange} {last : TargetChange}
    (isNew : call.findClient demuxId =
      some (Client.new pending initial requestedMax joined))
    (ordered : (joined :: (targets ++ [last]).map TargetChange.time).Pairwise
      (· ≤ ·)) :
    ∃ receiver,
      (call.setTargetSendRates demuxId (targets ++ [last])).findClient
          demuxId = some receiver ∧
      receiver.targetSendRate = last.rate ∧
      receiver.minTargetSendRate ≤ receiver.targetSendRate ∧
      (last.time ≤ joined + minTargetSendRateGenerationInterval →
        receiver.minTargetSendRate ≤ initial) ∧
      ∀ target ∈ targets ++ [last],
        last.time ≤ target.time + minTargetSendRateGenerationInterval →
          receiver.minTargetSendRate ≤ target.rate := by
  have created : (@Client.new externals pending initial requestedMax
      joined).Remembers joined ⟨initial, joined⟩ :=
    .inl (Nat.le_refl _)
  have remembers := @Client.remembers_foldl _ _ ⟨initial, joined⟩
    (targets ++ [last]) ordered created
  have isLast : ((⟨initial, joined⟩ : TargetChange) ::
      (targets ++ [last])).getLast (List.cons_ne_nil _ _) = last := by
    simp
  rw [isLast] at remembers
  refine ⟨(targets ++ [last]).foldl Client.changeTarget
    (Client.new pending initial requestedMax joined), ?_, ?_, ?_, ?_, ?_⟩
  · rw [findClient_setTargetSendRates, isNew]
    rfl
  · rw [List.foldl_append]
    exact Client.targetSendRate_changeTarget
  · rw [List.foldl_append]
    exact Client.minTargetSendRate_le_setTargetSendRate _ _ _
  · intro recent
    exact (remembers _ (.head _)).min_le recent
  · intro target member recent
    exact (remembers target (.tail _ member)).min_le recent

/-- The only client has just joined. -/
def Call.openCall : Call directExternals :=
  ((Call.new none "alice" false false (fromSecs 1) 1000 5000 0
    SystemTime.unixEpoch none).addClient (DemuxId.fromSsrc 80) "alice" true
      .unknown 0).2

/-- The second target comes exactly at the deadline of the first. -/
theorem Call.min_target_of_recent_open_call :
    ∃ receiver,
      (Call.openCall.setTargetSendRates (DemuxId.fromSsrc 80)
        [⟨300, 1⟩, ⟨700, 2500000001⟩]).findClient (DemuxId.fromSsrc 80) =
          some receiver ∧
      receiver.targetSendRate = 700 ∧ receiver.minTargetSendRate ≤ 300 := by
  obtain ⟨receiver, found, target, -, -, recent⟩ :=
    @Call.min_target_of_recent directExternals Call.openCall
      (DemuxId.fromSsrc 80) ⟨DemuxId.fromSsrc 80, "alice", true, .unknown, 1⟩
      1000 5000 0 [⟨300, 1⟩] ⟨700, 2500000001⟩ rfl (by decide)
  exact ⟨receiver, found, target, recent ⟨300, 1⟩ (.head _) (by decide)⟩

end CallingService.Backend
