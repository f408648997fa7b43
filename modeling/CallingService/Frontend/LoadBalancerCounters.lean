import CallingService.Frontend.LoadBalancerInvariant

/-!
# The counters of the load balancer

The total weight and the number of unchecked hosts are kept beside the table.
They agree with it in every reachable state, also after the counter of the urn
has wrapped around, and no subtraction from them underflows.
-/

namespace CallingService

variable {profile : BuildProfile}

theorem BuildProfile.toNat_of_subU16 {left right difference : UInt16}
    (subtracted : profile.subU16 left right = .ok difference)
    (enough : right.toNat ≤ left.toNat) :
    difference.toNat = left.toNat - right.toNat := by
  obtain ⟨expected, equation, value⟩ := profile.subU16_eq_ok left right enough
  rw [subtracted] at equation
  cases equation
  exact value

theorem BuildProfile.toNat_of_addU16 {left right sum : UInt16}
    (added : profile.addU16 left right = .ok sum)
    (small : left.toNat + right.toNat < 2 ^ 16) :
    sum.toNat = left.toNat + right.toNat := by
  obtain ⟨expected, equation, value⟩ := profile.addU16_eq_ok left right small
  rw [added] at equation
  cases equation
  exact value

namespace Frontend.LoadBalancerTask

open Foundation

structure CountersFit (task : LoadBalancerTask) : Prop where
  totalWeight : task.totalWeight.toNat = Table.total weightOf task.map
  unchecked : task.uncheckedServers.toNat = Table.total uncheckedOf task.map
  size : task.map.keys.length ≤ maxHosts

theorem countersFit_default : CountersFit default where
  totalWeight := rfl
  unchecked := rfl
  size := by simp [default]

namespace CountersFit

variable {task : LoadBalancerTask}

theorem totalWeight_le (fit : task.CountersFit) :
    task.totalWeight.toNat ≤ 65280 := by
  rw [fit.totalWeight]
  exact total_weightOf_le fit.size

theorem uncheckedServers_le (fit : task.CountersFit) :
    task.uncheckedServers.toNat ≤ maxHosts := by
  rw [fit.unchecked]
  exact total_uncheckedOf_le fit.size

theorem uncheckedServers_eq_zero_iff (fit : task.CountersFit) :
    task.uncheckedServers = 0 ↔
      ∀ {host health}, task.map.lookup host = some health →
        health.weight ≠ none := by
  constructor
  · intro zero host health found unknown
    have counted := Table.measure_le_total uncheckedOf found
    rw [← fit.unchecked, zero] at counted
    simp [uncheckedOf, unknown] at counted
  · intro known
    have none : Table.total uncheckedOf task.map ≤
        task.map.keys.length * 0 := by
      apply Table.total_le_mul
      intro host health found
      have weighed := known found
      simp [uncheckedOf, Option.isNone_iff_eq_none, weighed]
    apply UInt16.toNat_inj.mp
    rw [fit.unchecked]
    simpa using none

end CountersFit

/-! ## Subtractions -/

/-- The counters cover what is subtracted from them when the host leaves. -/
structure Covers (counters : WeightCounters) (health : ServerHealth) :
    Prop where
  weight : ∀ weight, health.weight = some weight →
    weight.toUInt16 ≤ counters.totalWeight
  unchecked : health.weight = none → 1 ≤ counters.uncheckedServers

def counters (task : LoadBalancerTask) : WeightCounters :=
  ⟨task.totalWeight, task.totalWeightLeft, task.uncheckedServers⟩

/-- No subtraction from the two counters underflows while the message is
handled: a health update makes one, and a new host list makes one for each
delisted host, in any order, from what the hosts before it left over. -/
def SubtractionsFit (profile : BuildProfile) (task : LoadBalancerTask) :
    LoadBalancerMessage → Prop
  | .choose _ _ => True
  | .hostWeight host _ => ∀ health,
      task.map.lookup host = some health → Covers task.counters health
  | .hostList _ hosts => ∀ sorted started earlier health later remaining,
      takeHosts profile hosts ⟨task.map, ∅, task.uncheckedServers⟩ =
          .ok (sorted, started) →
        (earlier ++ health :: later).Perm (Table.values sorted.oldMap) →
        dropHosts profile earlier ⟨task.totalWeight, task.totalWeightLeft,
            sorted.uncheckedServers⟩ = .ok remaining →
          Covers remaining health

theorem covers_of_le {counters : WeightCounters} {health : ServerHealth}
    (weight : weightOf health ≤ counters.totalWeight.toNat)
    (unchecked : uncheckedOf health ≤ counters.uncheckedServers.toNat) :
    Covers counters health where
  weight := by
    intro known weighed
    rw [UInt16.le_iff_toNat_le]
    simpa [weightOf, weighed] using weight
  unchecked := by
    intro unknown
    rw [UInt16.le_iff_toNat_le]
    simpa [uncheckedOf, unknown] using unchecked

/-! ## A health update -/

/-- The entry of a host that has reported a weight. -/
def reported (task : LoadBalancerTask) (health : ServerHealth)
    (weight : UInt8) : ServerHealth :=
  ⟨some weight, weight, task.reportWeight health weight⟩

/-- What a health update may do. -/
inductive UpdatesWeight (profile : BuildProfile) (task : LoadBalancerTask)
    (host : Ipv4Addr) (weight : UInt8) (next : LoadBalancerTask) :
    List LoadBalancerEffect → Prop where
  | unlisted : task.map.lookup host = none → next = task →
      UpdatesWeight profile task host weight next []
  | again {health : ServerHealth} {old : UInt8} {remaining : UInt16} :
      task.map.lookup host = some health → health.weight = some old →
      profile.subU16 task.totalWeight old.toUInt16 = .ok remaining →
      profile.addU16 remaining weight.toUInt16 = .ok next.totalWeight →
      next.map = task.map.insert host (task.reported health weight) →
      next.uncheckedServers = task.uncheckedServers →
      next.hostListReply = task.hostListReply →
      UpdatesWeight profile task host weight next []
  | first {health : ServerHealth} {settled : LoadBalancerTask} :
      task.map.lookup host = some health → health.weight = none →
      profile.subU16 task.uncheckedServers 1 = .ok next.uncheckedServers →
      profile.addU16 task.totalWeight weight.toUInt16 =
        .ok next.totalWeight →
      next.map = task.map.insert host (task.reported health weight) →
      settled.uncheckedServers = next.uncheckedServers →
      settled.hostListReply = task.hostListReply →
      next.hostListReply =
        (settled.maybeSendHostListReply).1.hostListReply →
      UpdatesWeight profile task host weight next
        settled.maybeSendHostListReply.2

variable {task next : LoadBalancerTask}
variable {host : Ipv4Addr} {effects : List LoadBalancerEffect}

theorem updatesWeight_of_ok {weight : UInt8}
    (updated : task.updateWeight profile host weight = .ok (next, effects)) :
    UpdatesWeight profile task host weight next effects := by
  unfold updateWeight at updated
  cases found : task.map.lookup host with
  | none =>
      simp only [found, Except.ok.injEq, Prod.mk.injEq] at updated
      obtain ⟨rfl, rfl⟩ := updated
      exact .unlisted found rfl
  | some health =>
      simp only [found, bind_eq_ok_iff] at updated
      obtain ⟨left, -, updated⟩ := updated
      cases weighed : health.weight with
      | some old =>
          simp only [weighed, bind_eq_ok_iff] at updated
          obtain ⟨remaining, subtracted, total, added, returned⟩ := updated
          cases returned
          exact .again found weighed subtracted added rfl rfl rfl
      | none =>
          simp only [weighed, bind_eq_ok_iff] at updated
          obtain ⟨unchecked, subtracted, total, added, returned⟩ := updated
          cases returned
          apply UpdatesWeight.first found weighed
          · rw [subtracted]
            simp
          · exact added
          · simp [reported]
          · simp
          · rfl
          · rfl

theorem CountersFit.updated {weight : UInt8} (fit : task.CountersFit)
    (updates : UpdatesWeight profile task host weight next effects) :
    next.CountersFit := by
  have bound := fit.totalWeight_le
  have byteBound := weight.toNat_lt
  cases updates with
  | unlisted _ same => exact same ▸ fit
  | again found weighed subtracted added map unchecked =>
      rename_i health old remaining _
      have weightSum := Table.total_insert_of_lookup weightOf
        (task.reported health weight) found
      have uncheckedSum := Table.total_insert_of_lookup uncheckedOf
        (task.reported health weight) found
      have counted := Table.measure_le_total weightOf found
      rw [← fit.totalWeight] at counted weightSum
      rw [← fit.unchecked] at uncheckedSum
      simp only [weightOf, uncheckedOf, weighed, reported, Option.getD_some,
        Option.isNone_some, Bool.false_eq_true, if_false]
        at counted weightSum uncheckedSum
      have remainingValue := BuildProfile.toNat_of_subU16 subtracted
        (by simpa using counted)
      have totalValue := BuildProfile.toNat_of_addU16 added
        (by simp only [UInt8.toNat_toUInt16] at remainingValue ⊢; omega)
      simp only [UInt8.toNat_toUInt16] at remainingValue totalValue
      constructor
      · rw [map]
        simp only [reported]
        omega
      · rw [map, unchecked]
        simp only [reported]
        omega
      · rw [map,
          Table.length_keys_insert_of_mem _ (Table.mem_of_lookup found)]
        exact fit.size
  | first found weighed subtracted added map =>
      rename_i health settled _ _ _
      have weightSum := Table.total_insert_of_lookup weightOf
        (task.reported health weight) found
      have uncheckedSum := Table.total_insert_of_lookup uncheckedOf
        (task.reported health weight) found
      have counted := Table.measure_le_total uncheckedOf found
      rw [← fit.totalWeight] at weightSum
      rw [← fit.unchecked] at uncheckedSum counted
      simp only [weightOf, uncheckedOf, weighed, reported, Option.getD_some,
        Option.getD_none, UInt8.toNat_zero, Option.isNone_some,
        Option.isNone_none, Bool.false_eq_true, if_false, if_true]
        at counted weightSum uncheckedSum
      have uncheckedValue := BuildProfile.toNat_of_subU16 subtracted
        (by simpa using counted)
      have totalValue := BuildProfile.toNat_of_addU16 added
        (by simp only [UInt8.toNat_toUInt16]; omega)
      simp only [UInt8.toNat_toUInt16, UInt16.toNat_one]
        at uncheckedValue totalValue
      constructor
      · rw [map]
        simp only [reported]
        omega
      · rw [map]
        simp only [reported]
        omega
      · rw [map,
          Table.length_keys_insert_of_mem _ (Table.mem_of_lookup found)]
        exact fit.size

/-! ## A new host list -/

variable {hosts : List Ipv4Addr}

theorem mem_newMap_of_takeHosts {sorted final : HostSort}
    (taken : takeHosts profile hosts sorted = .ok (final, effects))
    (host : Ipv4Addr) :
    host ∈ final.newMap ↔ host ∈ sorted.newMap ∨ host ∈ hosts := by
  induction hosts generalizing sorted effects with
  | nil =>
      cases taken
      simp
  | cons head hosts ih =>
      unfold takeHosts at taken
      cases found : sorted.oldMap.lookup head with
      | some health =>
          simp only [found] at taken
          have later := ih taken
          simp only [AList.mem_insert] at later
          simp only [later, List.mem_cons]
          tauto
      | none =>
          simp only [found, bind_eq_ok_iff] at taken
          obtain ⟨unchecked, -, ⟨rest, started⟩, restTaken, returned⟩ := taken
          cases returned
          have later := ih restTaken
          simp only [AList.mem_insert] at later
          simp only [later, List.mem_cons]
          tauto

theorem dropHosts_counters {hosts : List ServerHealth}
    {counters final : WeightCounters}
    (dropped : dropHosts profile hosts counters = .ok final)
    (weights : (hosts.map weightOf).sum ≤ counters.totalWeight.toNat)
    (unchecked :
      (hosts.map uncheckedOf).sum ≤ counters.uncheckedServers.toNat) :
    final.totalWeight.toNat =
        counters.totalWeight.toNat - (hosts.map weightOf).sum ∧
      final.uncheckedServers.toNat =
        counters.uncheckedServers.toNat - (hosts.map uncheckedOf).sum := by
  induction hosts generalizing counters with
  | nil =>
      cases dropped
      simp
  | cons health hosts ih =>
      simp only [List.map_cons, List.sum_cons] at weights unchecked ⊢
      unfold dropHosts at dropped
      cases known : health.weight with
      | some weight =>
          simp only [known, bind_eq_ok_iff] at dropped
          obtain ⟨total, subtracted, left, -, rest⟩ := dropped
          have weightEq : weightOf health = weight.toNat := by
            simp [weightOf, known]
          have uncheckedEq : uncheckedOf health = 0 := by
            simp [uncheckedOf, known]
          have totalValue := BuildProfile.toNat_of_subU16 subtracted
            (by rw [UInt8.toNat_toUInt16]; omega)
          rw [UInt8.toNat_toUInt16] at totalValue
          obtain ⟨finalWeight, finalUnchecked⟩ :=
            ih rest (by dsimp only; omega) (by dsimp only; omega)
          constructor
          · rw [finalWeight]
            dsimp only
            omega
          · rw [finalUnchecked]
            dsimp only
            omega
      | none =>
          simp only [known, bind_eq_ok_iff] at dropped
          obtain ⟨servers, subtracted, rest⟩ := dropped
          have weightEq : weightOf health = 0 := by simp [weightOf, known]
          have uncheckedEq : uncheckedOf health = 1 := by
            simp [uncheckedOf, known]
          have serversValue := BuildProfile.toNat_of_subU16 subtracted
            (by rw [UInt16.toNat_one]; omega)
          rw [UInt16.toNat_one] at serversValue
          obtain ⟨finalWeight, finalUnchecked⟩ :=
            ih rest (by dsimp only; omega) (by dsimp only; omega)
          constructor
          · rw [finalWeight]
            dsimp only
            omega
          · rw [finalUnchecked]
            dsimp only
            omega

/-- The table is sorted into the hosts of the list and the delisted ones; what
the counters hold covers the delisted hosts. -/
structure SortsHosts (task : LoadBalancerTask) (hosts : List Ipv4Addr)
    (sorted : HostSort) : Prop where
  weights : Table.total weightOf sorted.oldMap +
    Table.total weightOf sorted.newMap = task.totalWeight.toNat
  unchecked : Table.total uncheckedOf sorted.oldMap +
    Table.total uncheckedOf sorted.newMap = sorted.uncheckedServers.toNat
  listed : ∀ host, host ∈ sorted.newMap ↔ host ∈ hosts
  known : ∀ {host health}, sorted.newMap.lookup host = some health →
    task.map.lookup host = some health ∨ health = newHealth
  size : sorted.newMap.keys.length = hosts.length

theorem CountersFit.sortsHosts {task : LoadBalancerTask}
    (fit : task.CountersFit) (distinct : hosts.Nodup)
    (few : hosts.length ≤ maxHosts) {sorted : HostSort}
    {started : List LoadBalancerEffect}
    (taken : takeHosts profile hosts ⟨task.map, ∅, task.uncheckedServers⟩ =
      .ok (sorted, started)) :
    SortsHosts task hosts sorted := by
  have bound := fit.uncheckedServers_le
  unfold maxHosts at few bound
  obtain ⟨final, effects, count, spelled, spec⟩ :=
    takeHosts_spec profile ⟨task.map, ∅, task.uncheckedServers⟩
      distinct (by simp) (by dsimp only; omega)
  rw [taken] at spelled
  cases spelled
  have weightSum := spec.total weightOf
  have uncheckedSum := spec.total uncheckedOf
  have newWeight : weightOf newHealth = 0 := rfl
  have newUnchecked : uncheckedOf newHealth = 1 := rfl
  have uncheckedValue := spec.unchecked
  simp only [Table.total_empty, newWeight, newUnchecked, Nat.mul_zero,
    Nat.mul_one, Nat.add_zero] at weightSum uncheckedSum
  constructor
  · rw [fit.totalWeight]
    exact weightSum
  · rw [uncheckedValue, uncheckedSum, fit.unchecked]
  · intro host
    simp [mem_newMap_of_takeHosts taken]
  · intro host health found
    rcases spec.newMap found with absent | old | new
    · cases absent
    · exact .inl old
    · exact .inr new
  · simpa using spec.size

/-- What a new host list does. -/
structure ReplacesMap (profile : BuildProfile) (task : LoadBalancerTask)
    (hosts : List Ipv4Addr) (next : LoadBalancerTask)
    (effects : List LoadBalancerEffect) (sorted : HostSort)
    (started : List LoadBalancerEffect) (left : WeightCounters)
    (settled : LoadBalancerTask) : Prop where
  taken : takeHosts profile hosts ⟨task.map, ∅, task.uncheckedServers⟩ =
    .ok (sorted, started)
  dropped : dropHosts profile (Table.values sorted.oldMap)
    ⟨task.totalWeight, task.totalWeightLeft, sorted.uncheckedServers⟩ =
      .ok left
  map : next.map = sorted.newMap
  totalWeight : next.totalWeight = left.totalWeight
  unchecked : next.uncheckedServers = left.uncheckedServers
  settledUnchecked : settled.uncheckedServers = left.uncheckedServers
  settledReply : settled.hostListReply = task.hostListReply
  reply : next.hostListReply = settled.maybeSendHostListReply.1.hostListReply
  effects : effects = started ++ settled.maybeSendHostListReply.2

theorem replacesMap_of_ok
    (replaced : task.replaceMap profile hosts = .ok (next, effects)) :
    ∃ sorted started left settled,
      ReplacesMap profile task hosts next effects sorted started left
        settled := by
  simp only [replaceMap, bind_eq_ok_iff] at replaced
  obtain ⟨⟨sorted, started⟩, taken, left, dropped, returned⟩ := replaced
  cases returned
  refine ⟨sorted, started, left, { task with
    totalWeight := left.totalWeight
    totalWeightLeft := left.totalWeightLeft
    uncheckedServers := left.uncheckedServers }, taken, dropped, rfl, ?_, ?_,
    rfl, rfl, rfl, rfl⟩
  · simp
  · simp

theorem CountersFit.replaced {task next settled : LoadBalancerTask}
    (fit : task.CountersFit) (distinct : hosts.Nodup)
    (few : hosts.length ≤ maxHosts) {effects started : List LoadBalancerEffect}
    {sorted : HostSort} {left : WeightCounters}
    (replaces : ReplacesMap profile task hosts next effects sorted started
      left settled) :
    next.CountersFit := by
  have sorts := fit.sortsHosts distinct few replaces.taken
  have weights := sorts.weights
  have unchecked := sorts.unchecked
  obtain ⟨finalWeight, finalUnchecked⟩ :=
    dropHosts_counters replaces.dropped
      (by rw [Table.sum_values]; dsimp only; omega)
      (by rw [Table.sum_values]; dsimp only; omega)
  rw [Table.sum_values] at finalWeight finalUnchecked
  dsimp only at finalWeight finalUnchecked
  constructor
  · rw [replaces.totalWeight, replaces.map]
    omega
  · rw [replaces.unchecked, replaces.map]
    omega
  · rw [replaces.map, sorts.size]
    exact few

/-! ## A draw -/

/-- A draw moves balls only. -/
structure Draws (task next : LoadBalancerTask) : Prop where
  totalWeight : next.totalWeight = task.totalWeight
  unchecked : next.uncheckedServers = task.uncheckedServers
  reply : next.hostListReply = task.hostListReply
  weights : Table.total weightOf next.map = Table.total weightOf task.map
  uncheckedHosts :
    Table.total uncheckedOf next.map = Table.total uncheckedOf task.map
  lookups : ∀ host, (next.map.lookup host).map ServerHealth.weight =
    (task.map.lookup host).map ServerHealth.weight
  size : next.map.keys.length = task.map.keys.length

theorem Draws.refl (task : LoadBalancerTask) : Draws task task :=
  ⟨rfl, rfl, rfl, rfl, rfl, fun _ => rfl, rfl⟩

theorem draws_refill (task : LoadBalancerTask) : Draws task task.refill := by
  unfold refill
  split
  · refine ⟨rfl, rfl, rfl, ?_, ?_, ?_, ?_⟩
    · rw [Table.total_mapValues]
      rfl
    · rw [Table.total_mapValues]
      rfl
    · intro host
      rw [Table.lookup_mapValues, Option.map_map]
      rfl
    · simp
  · exact .refl task

/-- One ball less of one host. -/
theorem Draws.take_ball {task urn : LoadBalancerTask} (draws : Draws task urn)
    {health : ServerHealth} (found : urn.map.lookup host = some health)
    (left : UInt16) (ball : UInt8) :
    Draws task { urn with
      totalWeightLeft := left
      map := urn.map.insert host { health with weightLeft := ball } } := by
  refine ⟨draws.totalWeight, draws.unchecked, draws.reply, ?_, ?_, ?_, ?_⟩
  · have sum := Table.total_insert_of_lookup weightOf
      { health with weightLeft := ball } found
    simp only [weightOf] at sum
    rw [← draws.weights]
    exact Nat.add_right_cancel sum
  · have sum := Table.total_insert_of_lookup uncheckedOf
      { health with weightLeft := ball } found
    simp only [uncheckedOf] at sum
    rw [← draws.uncheckedHosts]
    exact Nat.add_right_cancel sum
  · intro other
    rw [← draws.lookups other]
    by_cases same : other = host
    · subst same
      simp [found]
    · rw [AList.lookup_insert_ne same]
  · rw [← draws.size]
    exact Table.length_keys_insert_of_mem _ (Table.mem_of_lookup found)

theorem lookup_of_drawHost {map : Table Ipv4Addr ServerHealth}
    {iteration : List Ipv4Addr} {ball : UInt16} {health : ServerHealth}
    (drawn : drawHost map iteration ball = some (host, health)) :
    map.lookup host = some health := by
  induction iteration generalizing ball with
  | nil => cases drawn
  | cons head hosts ih =>
      unfold drawHost at drawn
      cases found : map.lookup head with
      | none =>
          simp only [found] at drawn
          exact ih drawn
      | some known =>
          simp only [found] at drawn
          split at drawn
          · cases drawn
            exact found
          · exact ih drawn

theorem draws_of_choose {draw : UInt16} {iteration : List Ipv4Addr}
    {reply : Except String Ipv4Addr}
    (chosen : task.choose profile draw iteration = .ok (next, reply)) :
    Draws task next := by
  unfold choose at chosen
  split at chosen
  · cases chosen
    exact .refl task
  · split at chosen
    · cases drawn : drawHost task.refill.map iteration
          (draw % task.refill.totalWeightLeft) with
      | none =>
          simp only [drawn] at chosen
          cases chosen
          exact draws_refill task
      | some pair =>
          obtain ⟨host, health⟩ := pair
          simp only [drawn, bind_eq_ok_iff] at chosen
          obtain ⟨left, -, returned⟩ := chosen
          cases returned
          exact (draws_refill task).take_ball (lookup_of_drawHost drawn) left _
    · cases chosen
      exact .refl task

theorem CountersFit.drawn (fit : task.CountersFit) (draws : Draws task next) :
    next.CountersFit where
  totalWeight := by
    rw [draws.totalWeight, draws.weights]
    exact fit.totalWeight
  unchecked := by
    rw [draws.unchecked, draws.uncheckedHosts]
    exact fit.unchecked
  size := by
    rw [draws.size]
    exact fit.size

/-! ## The messages -/

theorem CountersFit.received {message : LoadBalancerMessage}
    (fit : task.CountersFit) (legal : task.Legal message)
    (received : task.recv profile message = .ok (next, effects)) :
    next.CountersFit := by
  cases message with
  | choose draw iteration =>
      simp only [recv, bind_eq_ok_iff] at received
      obtain ⟨⟨drawn, reply⟩, chosen, returned⟩ := received
      cases returned
      exact fit.drawn (draws_of_choose chosen)
  | hostList sender hosts =>
      simp only [recv, bind_eq_ok_iff] at received
      obtain ⟨⟨replaced, rest⟩, replacedEq, returned⟩ := received
      cases returned
      have waiting :
          CountersFit { task with hostListReply := some sender } :=
        ⟨fit.totalWeight, fit.unchecked, fit.size⟩
      obtain ⟨sorted, started, left, settled, replaces⟩ :=
        replacesMap_of_ok replacedEq
      exact waiting.replaced legal.2 legal.1 replaces
  | hostWeight host weight => exact fit.updated (updatesWeight_of_ok received)

theorem CountersFit.subtractionsFit {task : LoadBalancerTask}
    (fit : task.CountersFit) (profile : BuildProfile)
    {message : LoadBalancerMessage} (legal : task.Legal message) :
    SubtractionsFit profile task message := by
  cases message with
  | choose draw iteration => trivial
  | hostWeight host weight =>
      intro health found
      apply covers_of_le
      · have counted := Table.measure_le_total weightOf found
        rw [← fit.totalWeight] at counted
        exact counted
      · have counted := Table.measure_le_total uncheckedOf found
        rw [← fit.unchecked] at counted
        exact counted
  | hostList sender hosts =>
      intro sorted started earlier health later remaining taken order dropped
      have sorts := fit.sortsHosts legal.2 legal.1 taken
      have weights := sorts.weights
      have unchecked := sorts.unchecked
      rw [← Table.sum_values, ← (order.map _).sum_eq] at weights unchecked
      simp only [List.map_append, List.map_cons, List.sum_append,
        List.sum_cons] at weights unchecked
      obtain ⟨remainingWeight, remainingUnchecked⟩ :=
        dropHosts_counters dropped (by dsimp only; omega)
          (by dsimp only; omega)
      dsimp only at remainingWeight remainingUnchecked
      apply covers_of_le
      · omega
      · omega

end Frontend.LoadBalancerTask

end CallingService
