import CallingService.Frontend.LoadBalancer

/-!
# The urn of the load balancer

The counters of the task are compared with the sums over its table.  The urn
stays consistent along every run in which a host leaves the urn, by becoming
unhealthy or by being delisted, only while the urn still counts its balls.
-/

namespace CallingService.Frontend.LoadBalancerTask

open Foundation

/-! ## Measures of a host -/

def weightOf (health : ServerHealth) : Nat := (health.weight.getD 0).toNat

def weightLeftOf (health : ServerHealth) : Nat := health.weightLeft.toNat

def uncheckedOf (health : ServerHealth) : Nat :=
  if health.weight.isNone then 1 else 0

structure UrnInvariant (task : LoadBalancerTask) : Prop where
  totalWeight :
    task.totalWeight.toNat = Table.total weightOf task.map
  unchecked :
    task.uncheckedServers.toNat = Table.total uncheckedOf task.map
  left : task.totalWeightLeft = 0 ∨
    task.totalWeightLeft.toNat = Table.total weightLeftOf task.map
  bounded : ∀ {host health}, task.map.lookup host = some health →
    weightLeftOf health ≤ weightOf health
  size : task.map.keys.length ≤ maxHosts

theorem weightOf_lt (health : ServerHealth) : weightOf health ≤ 255 := by
  have := (health.weight.getD 0).toNat_lt
  unfold weightOf
  omega

theorem total_weightOf_le {map : Table Ipv4Addr ServerHealth}
    (size : map.keys.length ≤ maxHosts) :
    Table.total weightOf map ≤ 65280 := by
  have perHost : Table.total weightOf map ≤ map.keys.length * 255 :=
    Table.total_le_mul fun {_ health} _ => weightOf_lt health
  unfold maxHosts at size
  omega

theorem total_uncheckedOf_le {map : Table Ipv4Addr ServerHealth}
    (size : map.keys.length ≤ maxHosts) :
    Table.total uncheckedOf map ≤ maxHosts := by
  have perHost : Table.total uncheckedOf map ≤ map.keys.length * 1 := by
    apply Table.total_le_mul
    intro _ health _
    unfold uncheckedOf
    split <;> omega
  omega

theorem default_urnInvariant : UrnInvariant default where
  totalWeight := rfl
  unchecked := rfl
  left := .inl rfl
  bounded := by
    intro host health found
    cases found
  size := by decide

@[simp] theorem maybeSendHostListReply_map (task : LoadBalancerTask) :
    task.maybeSendHostListReply.1.map = task.map := by
  unfold maybeSendHostListReply
  split
  · split <;> rfl
  · rfl

@[simp] theorem maybeSendHostListReply_totalWeight (task : LoadBalancerTask) :
    task.maybeSendHostListReply.1.totalWeight = task.totalWeight := by
  unfold maybeSendHostListReply
  split
  · split <;> rfl
  · rfl

@[simp] theorem maybeSendHostListReply_totalWeightLeft
    (task : LoadBalancerTask) :
    task.maybeSendHostListReply.1.totalWeightLeft = task.totalWeightLeft := by
  unfold maybeSendHostListReply
  split
  · split <;> rfl
  · rfl

@[simp] theorem maybeSendHostListReply_uncheckedServers
    (task : LoadBalancerTask) :
    task.maybeSendHostListReply.1.uncheckedServers =
      task.uncheckedServers := by
  unfold maybeSendHostListReply
  split
  · split <;> rfl
  · rfl

/-! ## A health update -/

/-- The urn counts its balls, or the host that leaves it has none. -/
def CountsBallsOf (task : LoadBalancerTask) (health : ServerHealth) : Prop :=
  health.weightLeft ≠ 0 → task.totalWeightLeft ≠ 0

variable {task : LoadBalancerTask} {health : ServerHealth} {host : Ipv4Addr}

theorem UrnInvariant.weightLeftOf_le (invariant : UrnInvariant task)
    (found : task.map.lookup host = some health)
    (counts : CountsBallsOf task health) :
    weightLeftOf health ≤ task.totalWeightLeft.toNat := by
  by_cases none : health.weightLeft = 0
  · simp [weightLeftOf, none]
  · rcases invariant.left with empty | counted
    · exact absurd empty (counts none)
    · rw [counted]
      exact Table.measure_le_total weightLeftOf found

private theorem updateWeightLeft_eq_ok (profile : BuildProfile)
    (invariant : UrnInvariant task) {weight : UInt8}
    (found : task.map.lookup host = some health)
    (counts : weight = 0 → CountsBallsOf task health) :
    ∃ left, task.updateWeightLeft profile health weight = .ok left ∧
      (left = 0 ∨ left.toNat + weightLeftOf health =
        Table.total weightLeftOf task.map + weight.toNat) := by
  by_cases zero : weight = 0
  · have enough := invariant.weightLeftOf_le found (counts zero)
    obtain ⟨left, subtracted, value⟩ := profile.subU16_eq_ok
      task.totalWeightLeft health.weightLeft.toUInt16
      (by simpa [weightLeftOf] using enough)
    refine ⟨left, by simp [updateWeightLeft, zero, subtracted], ?_⟩
    simp only [UInt8.toNat_toUInt16] at value
    unfold weightLeftOf at enough
    rcases invariant.left with empty | counted
    · left
      rw [empty] at value
      apply UInt16.toNat_inj.mp
      simpa using value
    · right
      rw [← counted, zero]
      simp only [weightLeftOf, UInt8.toNat_zero]
      omega
  · exact ⟨0, by simp [updateWeightLeft, zero], .inl rfl⟩

/-- Replacing the entry of one host by a checked one, with the counters
changed accordingly. -/
private theorem UrnInvariant.replace_entry {task next : LoadBalancerTask}
    (invariant : UrnInvariant task) {weight reported : UInt8}
    (found : task.map.lookup host = some health)
    (mapEq : next.map = task.map.insert host ⟨some weight, weight, reported⟩)
    (left : next.totalWeightLeft = 0 ∨
      next.totalWeightLeft.toNat + weightLeftOf health =
        Table.total weightLeftOf task.map + weight.toNat)
    (totalWeight : next.totalWeight.toNat + weightOf health =
      task.totalWeight.toNat + weight.toNat)
    (unchecked : next.uncheckedServers.toNat + uncheckedOf health =
      task.uncheckedServers.toNat) : UrnInvariant next := by
  have sums := fun measure =>
    Table.total_insert_of_lookup measure ⟨some weight, weight, reported⟩ found
  refine ⟨?_, ?_, ?_, ?_, ?_⟩
  · have weightSum := sums weightOf
    have known := invariant.totalWeight
    rw [← mapEq] at weightSum
    simp only [weightOf, Option.getD_some] at weightSum totalWeight known ⊢
    omega
  · have uncheckedSum := sums uncheckedOf
    have known := invariant.unchecked
    rw [← mapEq] at uncheckedSum
    simp only [uncheckedOf, Option.isNone_some, Bool.false_eq_true,
      if_false] at uncheckedSum unchecked known ⊢
    omega
  · have leftSum := sums weightLeftOf
    rw [← mapEq] at leftSum
    rcases left with empty | counted
    · exact .inl empty
    · right
      simp only [weightLeftOf] at leftSum counted ⊢
      omega
  · intro other otherHealth known
    rw [mapEq] at known
    by_cases same : other = host
    · subst same
      rw [AList.lookup_insert] at known
      cases known
      exact Nat.le_refl _
    · rw [AList.lookup_insert_ne same] at known
      exact invariant.bounded known
  · rw [mapEq, Table.length_keys_insert_of_mem _ (Table.mem_of_lookup found)]
    exact invariant.size

theorem updateWeight_urnInvariant (profile : BuildProfile)
    (invariant : UrnInvariant task) {weight : UInt8}
    (counts : weight = 0 → ∀ health, task.map.lookup host = some health →
      CountsBallsOf task health) :
    ∃ next effects,
      task.updateWeight profile host weight = .ok (next, effects) ∧
        UrnInvariant next := by
  cases found : task.map.lookup host with
  | none => exact ⟨task, [], by simp [updateWeight, found], invariant⟩
  | some health =>
      obtain ⟨left, leftEq, leftValue⟩ := updateWeightLeft_eq_ok profile
        invariant found fun zero => counts zero health found
      have total := invariant.totalWeight
      have totalBound := total_weightOf_le invariant.size
      have weightBound := weight.toNat_lt
      have knownWeight := Table.measure_le_total weightOf found
      cases oldWeight : health.weight with
      | some old =>
          have oldEq : weightOf health = old.toNat := by
            simp [weightOf, oldWeight]
          obtain ⟨remaining, remainingEq, remainingValue⟩ :=
            profile.subU16_eq_ok task.totalWeight old.toUInt16
              (by simp only [UInt8.toNat_toUInt16]; omega)
          simp only [UInt8.toNat_toUInt16] at remainingValue
          obtain ⟨sum, sumEq, sumValue⟩ :=
            profile.addU16_eq_ok remaining weight.toUInt16
              (by simp only [UInt8.toNat_toUInt16]; omega)
          simp only [UInt8.toNat_toUInt16] at sumValue
          refine ⟨{ task with
            map := task.map.insert host
              ⟨some weight, weight, task.reportWeight health weight⟩
            totalWeightLeft := left
            totalWeight := sum }, [], ?_, ?_⟩
          · simp only [updateWeight, found, oldWeight, leftEq, remainingEq,
              sumEq, bind, Except.bind, pure, Except.pure]
          · apply invariant.replace_entry found rfl leftValue
            · dsimp only
              omega
            · simp [uncheckedOf, oldWeight]
      | none =>
          have oldEq : weightOf health = 0 := by
            simp [weightOf, oldWeight]
          have uncheckedHost : uncheckedOf health = 1 := by
            simp [uncheckedOf, oldWeight]
          have unchecked := invariant.unchecked
          have knownUnchecked := Table.measure_le_total uncheckedOf found
          obtain ⟨servers, serversEq, serversValue⟩ :=
            profile.subU16_eq_ok task.uncheckedServers 1
              (by simp only [UInt16.toNat_one]; omega)
          simp only [UInt16.toNat_one] at serversValue
          obtain ⟨sum, sumEq, sumValue⟩ :=
            profile.addU16_eq_ok task.totalWeight weight.toUInt16
              (by simp only [UInt8.toNat_toUInt16]; omega)
          simp only [UInt8.toNat_toUInt16] at sumValue
          set replied := maybeSendHostListReply { task with
            map := task.map.insert host
              ⟨some weight, weight, task.reportWeight health weight⟩
            totalWeightLeft := left
            uncheckedServers := servers } with repliedEq
          refine ⟨{ replied.1 with totalWeight := sum }, replied.2, ?_, ?_⟩
          · simp only [updateWeight, found, oldWeight, leftEq, serversEq,
              sumEq, bind, Except.bind, pure, Except.pure, repliedEq]
          · apply invariant.replace_entry found
            · show replied.1.map = _
              rw [repliedEq, maybeSendHostListReply_map]
            · simpa [repliedEq] using leftValue
            · dsimp only
              omega
            · simp only [repliedEq, maybeSendHostListReply_uncheckedServers]
              omega

/-! ## A new host list -/

/-- `started` hosts of the list were unknown. -/
structure TakesHosts (hosts : List Ipv4Addr) (sorted final : HostSort)
    (started : Nat) : Prop where
  total : ∀ measure,
    Table.total measure final.oldMap + Table.total measure final.newMap =
      Table.total measure sorted.oldMap + Table.total measure sorted.newMap +
        started * measure newHealth
  unchecked :
    final.uncheckedServers.toNat = sorted.uncheckedServers.toNat + started
  oldMap : ∀ {host health}, final.oldMap.lookup host = some health →
    sorted.oldMap.lookup host = some health ∧ host ∉ hosts
  newMap : ∀ {host health}, final.newMap.lookup host = some health →
    sorted.newMap.lookup host = some health ∨
      sorted.oldMap.lookup host = some health ∨ health = newHealth
  size : final.newMap.keys.length =
    sorted.newMap.keys.length + hosts.length

namespace TakesHosts

variable {host : Ipv4Addr} {hosts : List Ipv4Addr} {sorted final : HostSort}
variable {health : ServerHealth} {started : Nat}

/-- A host that is known keeps its health. -/
theorem known (found : sorted.oldMap.lookup host = some health)
    (fresh : host ∉ sorted.newMap)
    (spec : TakesHosts hosts { sorted with
      oldMap := sorted.oldMap.erase host
      newMap := sorted.newMap.insert host health } final started) :
    TakesHosts (host :: hosts) sorted final started where
  total := by
    intro measure
    rw [spec.total measure, Table.total_eq_add_erase measure found,
      Table.total_insert_of_notMem measure health fresh]
    dsimp only
    omega
  unchecked := spec.unchecked
  oldMap := by
    intro other otherHealth kept
    obtain ⟨isKnown, unlisted⟩ := spec.oldMap kept
    have different : other ≠ host := by
      rintro rfl
      simp at isKnown
    rw [AList.lookup_erase_ne different] at isKnown
    exact ⟨isKnown, by simp [different, unlisted]⟩
  newMap := by
    intro other otherHealth inNew
    by_cases same : other = host
    · subst same
      rcases spec.newMap inNew with inserted | erased | new
      · rw [AList.lookup_insert] at inserted
        exact .inr (.inl (found.trans inserted))
      · simp at erased
      · exact .inr (.inr new)
    · rcases spec.newMap inNew with inserted | erased | new
      · rw [AList.lookup_insert_ne same] at inserted
        exact .inl inserted
      · rw [AList.lookup_erase_ne same] at erased
        exact .inr (.inl erased)
      · exact .inr (.inr new)
  size := by
    rw [spec.size, Table.length_keys_insert_of_notMem _ fresh,
      List.length_cons]
    omega

/-- A host that is not known is checked first. -/
theorem unknown {unchecked : UInt16}
    (absent : sorted.oldMap.lookup host = none)
    (fresh : host ∉ sorted.newMap)
    (counted : unchecked.toNat = sorted.uncheckedServers.toNat + 1)
    (spec : TakesHosts hosts { sorted with
      newMap := sorted.newMap.insert host newHealth
      uncheckedServers := unchecked } final started) :
    TakesHosts (host :: hosts) sorted final (started + 1) where
  total := by
    intro measure
    rw [spec.total measure,
      Table.total_insert_of_notMem measure newHealth fresh, Nat.add_mul]
    dsimp only
    omega
  unchecked := by
    rw [spec.unchecked]
    dsimp only
    omega
  oldMap := by
    intro other otherHealth kept
    obtain ⟨isKnown, unlisted⟩ := spec.oldMap kept
    have different : other ≠ host := by
      rintro rfl
      simp [absent] at isKnown
    exact ⟨isKnown, by simp [different, unlisted]⟩
  newMap := by
    intro other otherHealth inNew
    by_cases same : other = host
    · subst same
      rcases spec.newMap inNew with inserted | old | new
      · rw [AList.lookup_insert] at inserted
        exact .inr (.inr (Option.some.inj inserted).symm)
      · exact .inr (.inl old)
      · exact .inr (.inr new)
    · rcases spec.newMap inNew with inserted | old | new
      · rw [AList.lookup_insert_ne same] at inserted
        exact .inl inserted
      · exact .inr (.inl old)
      · exact .inr (.inr new)
  size := by
    rw [spec.size, Table.length_keys_insert_of_notMem _ fresh,
      List.length_cons]
    omega

end TakesHosts

theorem takeHosts_spec (profile : BuildProfile) {hosts : List Ipv4Addr}
    (sorted : HostSort) (distinct : hosts.Nodup)
    (fresh : ∀ host ∈ hosts, host ∉ sorted.newMap)
    (room : sorted.uncheckedServers.toNat + hosts.length < 2 ^ 16) :
    ∃ final effects started,
      takeHosts profile hosts sorted = .ok (final, effects) ∧
        TakesHosts hosts sorted final started := by
  induction hosts generalizing sorted with
  | nil =>
      exact ⟨sorted, [], 0, rfl, by simp, rfl, fun found => ⟨found, by simp⟩,
        fun found => .inl found, rfl⟩
  | cons host hosts ih =>
      obtain ⟨notLater, laterDistinct⟩ := List.nodup_cons.mp distinct
      have freshHost := fresh host List.mem_cons_self
      have laterFresh : ∀ health, ∀ other ∈ hosts,
          other ∉ sorted.newMap.insert host health := by
        intro health other member inserted
        rcases (AList.mem_insert _).mp inserted with same | old
        · exact notLater (same ▸ member)
        · exact fresh other (List.mem_cons_of_mem _ member) old
      rw [List.length_cons] at room
      unfold takeHosts
      cases found : sorted.oldMap.lookup host with
      | some health =>
          obtain ⟨final, effects, started, taken, spec⟩ :=
            ih { sorted with
              oldMap := sorted.oldMap.erase host
              newMap := sorted.newMap.insert host health }
              laterDistinct (laterFresh health) (by dsimp only; omega)
          exact ⟨final, effects, started, taken, spec.known found freshHost⟩
      | none =>
          obtain ⟨unchecked, uncheckedEq, uncheckedValue⟩ :=
            profile.addU16_eq_ok sorted.uncheckedServers 1
              (by simp only [UInt16.toNat_one]; omega)
          rw [UInt16.toNat_one] at uncheckedValue
          obtain ⟨final, effects, started, taken, spec⟩ :=
            ih { sorted with
              newMap := sorted.newMap.insert host newHealth
              uncheckedServers := unchecked }
              laterDistinct (laterFresh newHealth) (by dsimp only; omega)
          refine ⟨final, .startHealthcheck host :: effects, started + 1, ?_,
            spec.unknown found freshHost uncheckedValue⟩
          simp only [uncheckedEq, taken, bind, Except.bind, pure, Except.pure]

theorem dropHosts_spec (profile : BuildProfile) {hosts : List ServerHealth}
    (counters : WeightCounters)
    (inUrn : ∀ health ∈ hosts, weightLeftOf health ≤ weightOf health)
    (weights : (hosts.map weightOf).sum ≤ counters.totalWeight.toNat)
    (left : (hosts.map weightLeftOf).sum ≤ counters.totalWeightLeft.toNat)
    (unchecked :
      (hosts.map uncheckedOf).sum ≤ counters.uncheckedServers.toNat) :
    ∃ final, dropHosts profile hosts counters = .ok final ∧
      final.totalWeight.toNat =
        counters.totalWeight.toNat - (hosts.map weightOf).sum ∧
      final.totalWeightLeft.toNat =
        counters.totalWeightLeft.toNat - (hosts.map weightLeftOf).sum ∧
      final.uncheckedServers.toNat =
        counters.uncheckedServers.toNat - (hosts.map uncheckedOf).sum := by
  induction hosts generalizing counters with
  | nil => exact ⟨counters, rfl, by simp⟩
  | cons health hosts ih =>
      simp only [List.map_cons, List.sum_cons] at weights left unchecked ⊢
      have inUrnHead := inUrn health List.mem_cons_self
      have inUrnTail := fun other member =>
        inUrn other (List.mem_cons_of_mem _ member)
      have leftEq : weightLeftOf health = health.weightLeft.toNat := rfl
      unfold dropHosts
      cases known : health.weight with
      | some weight =>
          have weightEq : weightOf health = weight.toNat := by
            simp [weightOf, known]
          have uncheckedEq : uncheckedOf health = 0 := by
            simp [uncheckedOf, known]
          obtain ⟨total, totalEq, totalValue⟩ :=
            profile.subU16_eq_ok counters.totalWeight weight.toUInt16
              (by rw [UInt8.toNat_toUInt16]; omega)
          rw [UInt8.toNat_toUInt16] at totalValue
          obtain ⟨remaining, remainingEq, remainingValue⟩ :=
            profile.subU16_eq_ok counters.totalWeightLeft
              health.weightLeft.toUInt16
              (by rw [UInt8.toNat_toUInt16]; omega)
          rw [UInt8.toNat_toUInt16] at remainingValue
          obtain ⟨final, dropped, finalWeight, finalLeft, finalUnchecked⟩ :=
            ih { counters with
              totalWeight := total
              totalWeightLeft := remaining }
              inUrnTail (by dsimp only; omega) (by dsimp only; omega)
              (by dsimp only; omega)
          refine ⟨final, ?_, ?_, ?_, ?_⟩
          · simp only [totalEq, remainingEq, dropped, bind, Except.bind]
          · rw [finalWeight]
            dsimp only
            omega
          · rw [finalLeft]
            dsimp only
            omega
          · rw [finalUnchecked]
            dsimp only
            omega
      | none =>
          have weightEq : weightOf health = 0 := by simp [weightOf, known]
          have uncheckedEq : uncheckedOf health = 1 := by
            simp [uncheckedOf, known]
          obtain ⟨servers, serversEq, serversValue⟩ :=
            profile.subU16_eq_ok counters.uncheckedServers 1
              (by rw [UInt16.toNat_one]; omega)
          rw [UInt16.toNat_one] at serversValue
          obtain ⟨final, dropped, finalWeight, finalLeft, finalUnchecked⟩ :=
            ih { counters with uncheckedServers := servers }
              inUrnTail (by dsimp only; omega) (by dsimp only; omega)
              (by dsimp only; omega)
          refine ⟨final, ?_, ?_, ?_, ?_⟩
          · simp only [serversEq, dropped, bind, Except.bind]
          · rw [finalWeight]
            dsimp only
            omega
          · rw [finalLeft]
            dsimp only
            omega
          · rw [finalUnchecked]
            dsimp only
            omega

theorem replaceMap_urnInvariant (profile : BuildProfile)
    (invariant : UrnInvariant task) {hosts : List Ipv4Addr}
    (distinct : hosts.Nodup) (few : hosts.length ≤ maxHosts)
    (counts : ∀ host health, host ∉ hosts →
      task.map.lookup host = some health → CountsBallsOf task health) :
    ∃ next effects,
      task.replaceMap profile hosts = .ok (next, effects) ∧
        UrnInvariant next := by
  have uncheckedBound := total_uncheckedOf_le invariant.size
  have unchecked := invariant.unchecked
  have weights := invariant.totalWeight
  unfold maxHosts at few uncheckedBound
  obtain ⟨sorted, started, count, taken, spec⟩ :=
    takeHosts_spec profile ⟨task.map, ∅, task.uncheckedServers⟩
      distinct (by simp) (by dsimp only; omega)
  have weightSum := spec.total weightOf
  have leftSum := spec.total weightLeftOf
  have uncheckedSum := spec.total uncheckedOf
  have newWeight : weightOf newHealth = 0 := rfl
  have newLeft : weightLeftOf newHealth = 0 := rfl
  have newUnchecked : uncheckedOf newHealth = 1 := rfl
  have uncheckedValue := spec.unchecked
  simp only [Table.total_empty, newWeight, newLeft, newUnchecked,
    Nat.mul_zero, Nat.mul_one, Nat.add_zero] at weightSum leftSum uncheckedSum
  dsimp only at uncheckedValue
  -- The balls of the delisted hosts are still counted by the urn.
  have droppedLeft : Table.total weightLeftOf sorted.oldMap ≤
      task.totalWeightLeft.toNat := by
    rcases invariant.left with empty | counted
    · have none : Table.total weightLeftOf sorted.oldMap ≤
          sorted.oldMap.keys.length * 0 := by
        apply Table.total_le_mul
        intro host health found
        obtain ⟨known, unlisted⟩ := spec.oldMap found
        have bound := invariant.weightLeftOf_le known
          (counts host health unlisted known)
        rw [empty] at bound
        exact bound
      omega
    · omega
  have inUrn : ∀ health ∈ Table.values sorted.oldMap,
      weightLeftOf health ≤ weightOf health := by
    intro health member
    obtain ⟨host, found⟩ := Table.exists_lookup_of_mem_values member
    exact invariant.bounded (spec.oldMap found).1
  obtain ⟨counters, dropped, finalWeight, finalLeft, finalUnchecked⟩ :=
    dropHosts_spec profile
      ⟨task.totalWeight, task.totalWeightLeft, sorted.uncheckedServers⟩ inUrn
      (by rw [Table.sum_values]; dsimp only; omega)
      (by rw [Table.sum_values]; dsimp only; omega)
      (by rw [Table.sum_values]; dsimp only; omega)
  simp only [Table.sum_values] at finalWeight finalLeft finalUnchecked
  set replied := maybeSendHostListReply { task with
    totalWeight := counters.totalWeight
    totalWeightLeft := counters.totalWeightLeft
    uncheckedServers := counters.uncheckedServers } with repliedEq
  refine ⟨{ replied.1 with map := sorted.newMap }, started ++ replied.2, ?_,
    ?_, ?_, ?_, ?_, ?_⟩
  · simp only [replaceMap, taken, dropped, bind, Except.bind, pure,
      Except.pure, repliedEq]
  · simp only [repliedEq, maybeSendHostListReply_totalWeight]
    omega
  · simp only [repliedEq, maybeSendHostListReply_uncheckedServers]
    omega
  · simp only [repliedEq, maybeSendHostListReply_totalWeightLeft]
    rcases invariant.left with empty | counted
    · left
      rw [empty] at finalLeft
      apply UInt16.toNat_inj.mp
      simpa using finalLeft
    · right
      omega
  · intro host health found
    rcases spec.newMap found with absent | old | new
    · cases absent
    · exact invariant.bounded old
    · rw [new]
      exact Nat.le_refl _
  · dsimp only
    rw [spec.size]
    simpa [maxHosts] using few

/-! ## A draw -/

theorem refill_spec (invariant : UrnInvariant task)
    (healthy : 0 < task.totalWeight) :
    UrnInvariant task.refill ∧ 0 < task.refill.totalWeightLeft.toNat ∧
      task.refill.totalWeightLeft.toNat =
        Table.total weightLeftOf task.refill.map ∧
      task.refill.map.keys = task.map.keys ∧
      ∀ {host health}, task.refill.map.lookup host = some health →
        ∃ known, task.map.lookup host = some known ∧
          known.weight = health.weight := by
  unfold refill
  split
  case isTrue empty =>
    have weights : Table.total weightLeftOf (Table.mapValues
        (fun health : ServerHealth =>
          { health with weightLeft := health.weight.getD 0 }) task.map) =
        task.totalWeight.toNat := by
      rw [Table.total_mapValues, invariant.totalWeight]
      rfl
    have positive := UInt16.lt_iff_toNat_lt.mp healthy
    refine ⟨⟨?_, ?_, .inr weights.symm, ?_, ?_⟩, by simpa using positive,
      weights.symm, Table.keys_mapValues _ _, ?_⟩
    · rw [Table.total_mapValues]
      exact invariant.totalWeight
    · rw [Table.total_mapValues]
      exact invariant.unchecked
    · intro host health found
      rw [Table.lookup_mapValues] at found
      obtain ⟨known, -, rfl⟩ := Option.map_eq_some_iff.mp found
      exact Nat.le_refl _
    · simpa using invariant.size
    · intro host health found
      rw [Table.lookup_mapValues] at found
      obtain ⟨known, knownEq, rfl⟩ := Option.map_eq_some_iff.mp found
      exact ⟨known, knownEq, rfl⟩
  case isFalse filled =>
    have counted := invariant.left.resolve_left filled
    have positive : 0 < task.totalWeightLeft.toNat := by
      by_contra zero
      apply filled
      apply UInt16.toNat_inj.mp
      simpa using zero
    exact ⟨invariant, positive, counted, rfl,
      fun found => ⟨_, found, rfl⟩⟩

theorem drawHost_of_lt {map : Table Ipv4Addr ServerHealth}
    {iteration : List Ipv4Addr} {ball : UInt16}
    (inside : ball.toNat < (iteration.map fun host =>
      (map.lookup host).elim 0 weightLeftOf).sum) :
    ∃ host health, drawHost map iteration ball = some (host, health) ∧
      map.lookup host = some health ∧ 0 < weightLeftOf health := by
  induction iteration generalizing ball with
  | nil => simp at inside
  | cons host hosts ih =>
      rw [List.map_cons, List.sum_cons] at inside
      unfold drawHost
      cases found : map.lookup host with
      | none =>
          apply ih
          simpa [found] using inside
      | some health =>
          have balls : weightLeftOf health = health.weightLeft.toNat := rfl
          simp only [found, Option.elim_some] at inside
          by_cases here : ball < health.weightLeft.toUInt16
          · have positive := UInt16.lt_iff_toNat_lt.mp here
            rw [UInt8.toNat_toUInt16] at positive
            exact ⟨host, health, by simp [here], found, by omega⟩
          · have passed : health.weightLeft.toUInt16 ≤ ball :=
              UInt16.not_lt.mp here
            have passedNat := UInt16.le_iff_toNat_le.mp passed
            rw [UInt8.toNat_toUInt16] at passedNat
            simp only [here, if_false]
            apply ih
            rw [UInt16.toNat_sub_of_le _ _ passed, UInt8.toNat_toUInt16]
            omega

/-- A draw takes one ball of the drawn host. -/
private theorem UrnInvariant.take_ball {urn next : LoadBalancerTask}
    (invariant : UrnInvariant urn) (found : urn.map.lookup host = some health)
    (positive : 0 < weightLeftOf health) (counted : urn.totalWeightLeft.toNat =
      Table.total weightLeftOf urn.map) (mapEq : next.map = urn.map.insert host
      { health with weightLeft := health.weightLeft - 1 })
    (leftEq : next.totalWeightLeft.toNat = urn.totalWeightLeft.toNat - 1)
    (weightEq : next.totalWeight = urn.totalWeight)
    (uncheckedEq : next.uncheckedServers = urn.uncheckedServers) :
    UrnInvariant next := by
  have one : (health.weightLeft - 1).toNat = health.weightLeft.toNat - 1 := by
    apply UInt8.toNat_sub_of_le
    rw [UInt8.le_iff_toNat_le]
    exact positive
  have sums := fun measure => Table.total_insert_of_lookup measure
    { health with weightLeft := health.weightLeft - 1 } found
  refine ⟨?_, ?_, .inr ?_, ?_, ?_⟩
  · rw [weightEq, mapEq, invariant.totalWeight]
    have weightSum := sums weightOf
    simp only [weightOf] at weightSum ⊢
    omega
  · rw [uncheckedEq, mapEq, invariant.unchecked]
    have uncheckedSum := sums uncheckedOf
    simp only [uncheckedOf] at uncheckedSum ⊢
    omega
  · rw [leftEq, counted, mapEq]
    have leftSum := sums weightLeftOf
    unfold weightLeftOf at leftSum positive ⊢
    rw [one] at leftSum
    omega
  · intro other otherHealth known
    rw [mapEq] at known
    by_cases same : other = host
    · subst same
      rw [AList.lookup_insert] at known
      cases known
      have within := invariant.bounded found
      simp only [weightLeftOf, weightOf, one] at within ⊢
      omega
    · rw [AList.lookup_insert_ne same] at known
      exact invariant.bounded known
  · rw [mapEq, Table.length_keys_insert_of_mem _ (Table.mem_of_lookup found)]
    exact invariant.size

theorem totalWeight_pos_iff (invariant : UrnInvariant task) :
    0 < task.totalWeight ↔
      ∃ host health, task.map.lookup host = some health ∧
        0 < weightOf health := by
  rw [UInt16.lt_iff_toNat_lt, invariant.totalWeight]
  constructor
  · intro positive
    by_contra unhealthy
    push Not at unhealthy
    have zero : Table.total weightOf task.map ≤ task.map.keys.length * 0 :=
      Table.total_le_mul fun {host health} found => unhealthy host health found
    simp only [UInt16.toNat_zero] at positive
    omega
  · rintro ⟨host, health, found, positive⟩
    have := Table.measure_le_total weightOf found
    simp only [UInt16.toNat_zero]
    omega

theorem choose_urnInvariant (profile : BuildProfile)
    (invariant : UrnInvariant task) (draw : UInt16) {iteration : List Ipv4Addr}
    (order : iteration.Perm task.map.keys) :
    ∃ next reply,
      task.choose profile draw iteration = .ok (next, reply) ∧
      UrnInvariant next ∧
      (0 < task.totalWeight → ∃ host health,
        reply = .ok host ∧ task.map.lookup host = some health ∧
          0 < weightOf health) := by
  unfold choose
  split
  case isTrue noHosts =>
    refine ⟨task, _, rfl, invariant, ?_⟩
    intro healthy
    obtain ⟨host, health, found, -⟩ :=
      (totalWeight_pos_iff invariant).mp healthy
    have member := AList.mem_keys.mp (Table.mem_of_lookup found)
    simp [noHosts] at member
  case isFalse hosts =>
    split
    case isFalse unhealthy =>
      exact ⟨task, _, rfl, invariant, fun healthy => absurd healthy unhealthy⟩
    case isTrue healthy =>
      obtain ⟨refilled, positive, counted, sameKeys, sameWeights⟩ :=
        refill_spec invariant healthy
      have inside : (draw % task.refill.totalWeightLeft).toNat <
          (iteration.map fun host =>
            (task.refill.map.lookup host).elim 0 weightLeftOf).sum := by
        rw [Table.sum_of_perm_keys weightLeftOf (sameKeys ▸ order), ← counted,
          UInt16.toNat_mod]
        exact Nat.mod_lt _ positive
      obtain ⟨host, health, drawn, found, ball⟩ := drawHost_of_lt inside
      obtain ⟨left, leftEq, leftValue⟩ :=
        profile.subU16_eq_ok task.refill.totalWeightLeft 1
          (by simp only [UInt16.toNat_one]; omega)
      obtain ⟨known, knownEq, sameWeight⟩ := sameWeights found
      refine ⟨{ task.refill with
          totalWeightLeft := left
          map := task.refill.map.insert host
            { health with weightLeft := health.weightLeft - 1 } },
        .ok host, ?_, ?_, ?_⟩
      · simp only [drawn, leftEq, bind, Except.bind, pure, Except.pure]
      · exact refilled.take_ball found ball counted rfl leftValue rfl rfl
      · intro _
        refine ⟨host, known, rfl, knownEq, ?_⟩
        have within := refilled.bounded found
        simp only [weightOf, sameWeight] at within ⊢
        omega

/-! ## Runs of the task -/

/-- What the callers of the task guarantee: host lists are short and without
repetition, and a draw iterates over the keys of the table. -/
def Legal (task : LoadBalancerTask) : LoadBalancerMessage → Prop
  | .choose _ iteration => iteration.Perm task.map.keys
  | .hostList _ hosts => hosts.length ≤ maxHosts ∧ hosts.Nodup
  | .hostWeight _ _ => True

def Step (profile : BuildProfile) (task : LoadBalancerTask)
    (message : LoadBalancerMessage) (next : LoadBalancerTask) : Prop :=
  task.Legal message ∧
    ∃ effects, task.recv profile message = .ok (next, effects)

/-- The message takes no host with balls out of an urn that has just been
restarted. -/
def KeepsCount (task : LoadBalancerTask) : LoadBalancerMessage → Prop
  | .choose _ _ => True
  | .hostList _ hosts => ∀ host health, host ∉ hosts →
      task.map.lookup host = some health → CountsBallsOf task health
  | .hostWeight host weight => weight = 0 → ∀ health,
      task.map.lookup host = some health → CountsBallsOf task health

theorem recv_urnInvariant (profile : BuildProfile)
    (invariant : UrnInvariant task) {message : LoadBalancerMessage}
    (legal : task.Legal message) (keeps : task.KeepsCount message) :
    ∃ next effects, task.recv profile message = .ok (next, effects) ∧
      UrnInvariant next := by
  cases message with
  | choose draw iteration =>
      obtain ⟨next, reply, chosen, preserved, -⟩ :=
        choose_urnInvariant profile invariant draw legal
      refine ⟨next, [.chosen reply], ?_, preserved⟩
      simp only [recv, chosen, bind, Except.bind, pure, Except.pure]
  | hostList sender hosts =>
      have waiting :
          UrnInvariant { task with hostListReply := some sender } :=
        ⟨invariant.totalWeight, invariant.unchecked, invariant.left,
          invariant.bounded, invariant.size⟩
      obtain ⟨next, effects, replaced, preserved⟩ :=
        replaceMap_urnInvariant profile waiting legal.2 legal.1 keeps
      refine ⟨next, task.supersededReply ++ effects, ?_, preserved⟩
      simp only [recv, replaced, bind, Except.bind, pure, Except.pure]
  | hostWeight host weight =>
      exact updateWeight_urnInvariant profile invariant keeps

/-- The counter of the urn is void or exact, no counter is decremented below
zero by the next message, and a draw finds a healthy host if there is one. -/
structure UrnSound (task : LoadBalancerTask)
    (next : LoadBalancerMessage → Prop) : Prop where
  left : task.totalWeightLeft = 0 ∨
    task.totalWeightLeft.toNat = Table.total weightLeftOf task.map
  noUnderflow : ∀ message, task.Legal message → next message →
    ∃ result, task.recv .debug message = .ok result
  choice : ∀ profile draw iteration, iteration.Perm task.map.keys →
    (∃ host health, task.map.lookup host = some health ∧
      0 < weightOf health) →
    ∃ result host health,
      task.choose profile draw iteration = .ok (result, .ok host) ∧
        task.map.lookup host = some health ∧ 0 < weightOf health

theorem urnSound_of_guarded_run {profile : BuildProfile}
    {messages : List LoadBalancerMessage} {task : LoadBalancerTask}
    (run : Run (Guarded KeepsCount (Step profile)) default messages task) :
    UrnSound task task.KeepsCount := by
  have invariant : UrnInvariant task := by
    apply run.invariant default_urnInvariant
    rintro before message after known ⟨keeps, legal, effects, received⟩
    obtain ⟨next, _, receivedNext, preserved⟩ :=
      recv_urnInvariant profile known legal keeps
    rw [received] at receivedNext
    cases receivedNext
    exact preserved
  refine ⟨invariant.left, ?_, ?_⟩
  · intro message legal keeps
    obtain ⟨next, effects, received, -⟩ :=
      recv_urnInvariant .debug invariant legal keeps
    exact ⟨_, received⟩
  · intro drawProfile draw iteration order healthy
    obtain ⟨next, reply, chosen, -, served⟩ :=
      choose_urnInvariant drawProfile invariant draw order
    obtain ⟨host, health, rfl, found, positive⟩ :=
      served ((totalWeight_pos_iff invariant).mpr healthy)
    exact ⟨next, host, health, chosen, found, positive⟩

/-! ## A host that leaves a restarted urn -/

/-- The urn is sound after any messages, without a condition on them. -/
def AlwaysSound (profile : BuildProfile) : Prop :=
  ∀ messages task, Run (Step profile) default messages task →
    UrnSound task fun _ => True

def listedHost : LoadBalancerTask where
  map := (∅ : Table Ipv4Addr ServerHealth).insert 1 newHealth
  totalWeight := 0
  totalWeightLeft := 0
  uncheckedServers := 1
  hostListReply := some 0

/-- One host with a positive weight, in a restarted urn. -/
def restartedUrn : LoadBalancerTask where
  map := (∅ : Table Ipv4Addr ServerHealth).insert 1 ⟨some 5, 5, 5⟩
  totalWeight := 5
  totalWeightLeft := 0
  uncheckedServers := 0
  hostListReply := none

/-- The same host after it became unhealthy: the counter has wrapped. -/
def wrappedUrn : LoadBalancerTask where
  map := (∅ : Table Ipv4Addr ServerHealth).insert 1 ⟨some 0, 0, 0⟩
  totalWeight := 0
  totalWeightLeft := 65531
  uncheckedServers := 0
  hostListReply := none

private theorem listing_step (profile : BuildProfile) :
    Step profile default (.hostList 0 [1]) listedHost := by
  refine ⟨⟨by decide, by decide⟩, [.startHealthcheck 1], ?_⟩
  cases profile with
  | debug => rfl
  | release => rfl

private theorem checking_step (profile : BuildProfile) :
    Step profile listedHost (.hostWeight 1 5) restartedUrn := by
  refine ⟨trivial, [.hostListReply 0 (.ok ())], ?_⟩
  cases profile with
  | debug => rfl
  | release => rfl

theorem urnSound_restartedUrn :
    UrnSound restartedUrn restartedUrn.KeepsCount := by
  have listing : Guarded KeepsCount (Step .release) default
      (.hostList 0 [1]) listedHost := by
    refine ⟨?_, listing_step _⟩
    intro host health _ found
    cases found
  have checking : Guarded KeepsCount (Step .release) listedHost
      (.hostWeight 1 5) restartedUrn := by
    refine ⟨?_, checking_step _⟩
    intro zero
    cases zero
  exact urnSound_of_guarded_run (.snoc (.snoc .nil listing) checking)

theorem not_alwaysSound_release : ¬ AlwaysSound .release := by
  intro always
  have failing : Step .release restartedUrn (.hostWeight 1 0) wrappedUrn :=
    ⟨trivial, [], rfl⟩
  have run : Run (Step .release) default
      [.hostList 0 [1], .hostWeight 1 5, .hostWeight 1 0] wrappedUrn :=
    .snoc (.snoc (.snoc .nil (listing_step _)) (checking_step _)) failing
  rcases (always _ _ run).left with zero | counted
  · exact absurd zero (by decide)
  · exact absurd counted (by decide)

end CallingService.Frontend.LoadBalancerTask
