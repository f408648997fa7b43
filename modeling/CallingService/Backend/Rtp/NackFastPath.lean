import CallingService.Backend.Rtp.NackRun

/-!
# Gaps that are wider than the limit

When more numbers are missing than are remembered, the sender starts from an
empty cache with the last of them.  Entering each missing number into the old
cache would leave the same: all entries are smaller than the missing numbers
and would be pushed out.
-/

namespace CallingService.Backend.Rtp

open Foundation

namespace NackSender

variable {limit : Nat} {sender : NackSender}

/-- The entries fit, and are smaller than the largest received number. -/
structure WithinLimit (limit : Nat) (sender : NackSender) : Prop where
  senderLimit : sender.limit = limit
  cacheLimit : sender.sentBySeqnum.limit = limit
  room : (entries sender.sentBySeqnum).length ≤ limit
  below : ∀ entry ∈ entries sender.sentBySeqnum, sender.Below entry.1

theorem withinLimit_new (limit : Nat) : WithinLimit limit (.new limit) where
  senderLimit := rfl
  cacheLimit := rfl
  room := Nat.zero_le _
  below := by
    intro entry member
    cases member

theorem WithinLimit.received (within : WithinLimit limit sender)
    {seqnum : FullSequenceNumber} {after : NackSender}
    (receives : Receives seqnum sender after) : WithinLimit limit after := by
  cases receives with
  | first nothing =>
      refine { within with below := ?_ }
      intro entry member
      obtain ⟨largest, impossible, _⟩ := within.below entry member
      rw [nothing] at impossible
      cases impossible
  | again _ => exact within
  | late known _ =>
      refine { within with
        room := le_trans (List.length_filter_le _ _) within.room
        below := ?_ }
      intro entry member
      exact within.below entry (List.mem_of_mem_filter member)
  | @ahead largest cache known ahead cacheLimit fits members =>
      refine { senderLimit := within.senderLimit
               cacheLimit := cacheLimit.trans within.senderLimit
               room := le_trans fits (le_of_eq within.senderLimit)
               below := ?_ }
      intro entry member
      refine ⟨seqnum, rfl, ?_⟩
      rcases members entry member with old | ⟨-, -, under⟩
      · obtain ⟨other, same, under⟩ := within.below entry old
        rw [known] at same
        cases same
        exact under.trans ahead
      · exact under

theorem WithinLimit.sent (within : WithinLimit limit sender)
    {after : NackSender} {now : Instant} {rtt : Duration}
    {yielded : Option (List FullSequenceNumber)}
    (sends : sender.sendNacks now rtt = .ok (after, yielded)) :
    WithinLimit limit after := by
  have isMarking : after = sender.marking now rtt := by
    unfold sendNacks at sends
    dsimp only at sends
    split at sends
    · obtain ⟨_, _, returned⟩ := bind_eq_ok_iff.mp sends
      cases returned
      rfl
    · cases sends
      rfl
  rw [isMarking]
  refine { senderLimit := within.senderLimit
           cacheLimit := within.cacheLimit
           room := le_trans (List.length_filterMap_le _ _) within.room
           below := ?_ }
  intro entry member
  obtain ⟨sent, older, _⟩ := mem_marking member
  exact within.below (entry.1, sent) older

theorem withinLimit_of_run {events : List NackEvent}
    (run : Run NackStep (.new limit) events sender) :
    WithinLimit limit sender := by
  apply run.invariant (withinLimit_new limit)
  intro before event after within step
  cases step with
  | received small =>
      exact within.received (receives_rememberReceived
        (within.cacheLimit.trans within.senderLimit.symm)
        (le_trans within.room (le_of_eq within.senderLimit.symm)) small)
  | sent sends => exact within.sent sends

/-! ## The missing numbers -/

theorem seqnumRange_append {start middle finish : FullSequenceNumber}
    (first : start ≤ middle) (second : middle ≤ finish) :
    seqnumRange start middle ++ seqnumRange middle finish =
      seqnumRange start finish := by
  have split : finish - start = (middle - start) + (finish - middle) := by
    rw [Nat.add_comm, Nat.sub_add_sub_cancel second first]
  unfold seqnumRange
  rw [split, List.range_add, List.map_append, List.map_map]
  congr 1
  apply List.map_congr_left
  intro offset _
  rw [Function.comp_apply, ← Nat.add_assoc, Nat.add_sub_cancel' first]

theorem length_seqnumRange (start finish : FullSequenceNumber) :
    (seqnumRange start finish).length = finish - start := by
  unfold seqnumRange
  rw [List.length_map, List.length_range]

theorem pairwise_seqnumRange (start finish : FullSequenceNumber) :
    (seqnumRange start finish).Pairwise (· < ·) := by
  unfold seqnumRange
  rw [List.pairwise_map]
  exact List.pairwise_lt_range.imp (Nat.add_lt_add_left · start)

/-- One missing number after the other. -/
def insertEach (cache : Entries) (missing : List FullSequenceNumber) :
    Entries :=
  missing.foldl (fun cache number => cache.insert number none) cache

/-- Into a cache with smaller numbers go the last of those that are
missing. -/
theorem insertEach_seqnumRange {cache : Entries}
    {start finish : FullSequenceNumber}
    (room : (entries cache).length ≤ cache.limit)
    (below : ∀ entry ∈ entries cache, entry.1 < start) :
    (insertEach cache (seqnumRange start finish)).limit = cache.limit ∧
      entries (insertEach cache (seqnumRange start finish)) =
        (entries cache ++
          (seqnumRange start finish).map (·, none)).rtake cache.limit := by
  apply KeySortedCache.foldl_insert_of_larger none room
    (pairwise_seqnumRange start finish)
  intro entry member number inside
  exact lt_of_lt_of_le (below entry member) (mem_seqnumRange.mp inside).1

/-- Numbers that do not fit can be left out from the start. -/
theorem insertEach_new {cache : Entries} {start finish : FullSequenceNumber}
    (room : (entries cache).length ≤ cache.limit)
    (below : ∀ entry ∈ entries cache, entry.1 < start)
    (tooMany : cache.limit < finish - start) :
    insertEach (.new cache.limit) (seqnumRange (finish - cache.limit) finish) =
      insertEach cache (seqnumRange start finish) := by
  have far : start ≤ finish - cache.limit :=
    Nat.le_sub_of_add_le (Nat.le_of_lt (Nat.add_comm _ _ ▸
      Nat.add_lt_of_lt_sub tooMany))
  have atMost : cache.limit ≤ finish :=
    Nat.le_of_lt (lt_of_lt_of_le tooMany (Nat.sub_le _ _))
  have count : (seqnumRange (finish - cache.limit) finish).length =
      cache.limit := by
    rw [length_seqnumRange, Nat.sub_sub_self atMost]
  have split := seqnumRange_append far (Nat.sub_le finish cache.limit)
  obtain ⟨eachLimit, each⟩ := @insertEach_seqnumRange _ start finish room below
  obtain ⟨freshLimit, fresh⟩ := @insertEach_seqnumRange (.new cache.limit)
    (finish - cache.limit) finish (Nat.zero_le _) (by
      intro entry member
      cases member)
  have fits : ((seqnumRange (finish - cache.limit) finish).map fun number =>
      (number, (none : Option (Instant × Instant × Nat)))).length =
        cache.limit := by
    rw [List.length_map, count]
  apply KeySortedCache.ext_entries (freshLimit.trans eachLimit.symm)
  change entries _ = entries _
  rw [fresh, each, ← split, List.map_append, ← List.append_assoc]
  rw [KeySortedCache.rtake_append_of_le (le_of_eq fits.symm)]
  rfl

/-- Receiving a number leaves the cache as it is after each missing number has
been entered. -/
theorem rememberReceived_inserts_each {events : List NackEvent}
    {largest seqnum : FullSequenceNumber}
    (run : Run NackStep (.new limit) events sender)
    (known : sender.maxReceived = some largest) (ahead : largest < seqnum)
    (small : seqnum < 2 ^ 64) :
    (sender.rememberReceived seqnum).sentBySeqnum =
      insertEach sender.sentBySeqnum (seqnumRange (largest + 1) seqnum) := by
  have within := withinLimit_of_run run
  have sameLimit := within.cacheLimit.trans within.senderLimit.symm
  have room : (entries sender.sentBySeqnum).length ≤
      sender.sentBySeqnum.limit :=
    le_trans within.room (le_of_eq within.cacheLimit.symm)
  have below : ∀ entry ∈ entries sender.sentBySeqnum,
      entry.1 < largest + 1 := by
    intro entry member
    obtain ⟨other, same, under⟩ := within.below entry member
    rw [known] at same
    cases same
    exact Nat.lt_succ_of_lt under
  have next : min (largest + 1) (2 ^ 64 - 1) = largest + 1 :=
    Nat.min_eq_left (Nat.le_sub_one_of_lt
      (lt_of_le_of_lt (Nat.succ_le_of_lt ahead) small))
  unfold rememberReceived
  rw [known]
  dsimp only
  rw [if_neg ahead.ne', if_neg ahead.asymm, next]
  by_cases tooMany : sender.limit < seqnum - (largest + 1)
  · rw [if_pos tooMany, if_pos tooMany, ← sameLimit]
    rw [← sameLimit] at tooMany
    exact insertEach_new room below tooMany
  · rw [if_neg tooMany, if_neg tooMany]
    rfl

/-- The gap between 3 and 20 is wider than the limit, and one of the numbers
that it pushes out has been asked for. -/
theorem rememberReceived_inserts_each_wide_gap :
    ∃ events sender,
      Run NackStep (.new 2) events sender ∧
      sender.maxReceived = some 3 ∧
      entries sender.sentBySeqnum = [(2, some (1000, 1000, 1))] ∧
      (sender.rememberReceived 20).sentBySeqnum =
        insertEach sender.sentBySeqnum (seqnumRange 4 20) ∧
      entries (sender.rememberReceived 20).sentBySeqnum =
        [(18, none), (19, none)] := by
  have first := Run.snoc Run.nil
    (@NackStep.received (.new 2) 1 (by decide))
  have gap := first.snoc (@NackStep.received _ 3 (by decide))
  have asked := gap.snoc (@NackStep.sent _ _ 1000 100 (some [2]) rfl)
  refine ⟨_, _, asked, rfl, rfl, ?_, rfl⟩
  exact rememberReceived_inserts_each asked rfl (by decide) (by decide)

end NackSender

end CallingService.Backend.Rtp
