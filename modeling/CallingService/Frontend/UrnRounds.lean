import CallingService.Frontend.LoadBalancerInvariant

/-!
# One round of the urn

An urn that has just run empty is refilled with as many balls of each host as
the host has weight.  Until it is empty again every request takes one ball, so
that the answers of a round are shared out by weight.
-/

namespace CallingService.Frontend.LoadBalancerTask

open Foundation

/-- Requests for a host, one after the other, each with the number that it
draws and the order in which it goes through the hosts. -/
def chooseAll (profile : BuildProfile) (task : LoadBalancerTask) :
    List (UInt16 × List Ipv4Addr) →
      Except Panic (LoadBalancerTask × List (Except String Ipv4Addr))
  | [] => .ok (task, [])
  | (draw, iteration) :: requests => do
      let (next, reply) ← task.choose profile draw iteration
      let (final, replies) ← chooseAll profile next requests
      return (final, reply :: replies)

def ballsOf (task : LoadBalancerTask) (host : Ipv4Addr) : Nat :=
  (task.map.lookup host).elim 0 weightLeftOf

/-- The balls are counted, and some host has a weight. -/
structure UrnCounted (task : LoadBalancerTask) : Prop where
  healthy : 0 < task.totalWeight
  left : task.totalWeightLeft.toNat = Table.total weightLeftOf task.map

/-- A host is answered and loses one ball. -/
structure TakesBall (task next : LoadBalancerTask) (host : Ipv4Addr) :
    Prop where
  counted : next.UrnCounted
  left : next.totalWeightLeft.toNat + 1 = task.totalWeightLeft.toNat
  hosts : next.map.keys.Perm task.map.keys
  balls : ∀ other, [host].count other + next.ballsOf other =
    task.ballsOf other

variable {task : LoadBalancerTask}

theorem refill_of_pos (filled : 0 < task.totalWeightLeft.toNat)
    : task.refill = task := by
  unfold refill
  rw [if_neg]
  intro empty
  rw [empty] at filled
  exact absurd filled (Nat.lt_irrefl 0)

theorem keys_insert_perm {map : Table Ipv4Addr ServerHealth} {host : Ipv4Addr}
    {old health : ServerHealth} (found : map.lookup host = some old) :
    (map.insert host health).keys.Perm map.keys := by
  have member := AList.mem_keys.mp (Table.mem_of_lookup found)
  rw [AList.keys_insert]
  exact (List.perm_cons_erase member).symm

theorem choose_of_counted {profile : BuildProfile} {draw : UInt16}
    {iteration : List Ipv4Addr} (counted : task.UrnCounted)
    (filled : 0 < task.totalWeightLeft.toNat)
    (order : iteration.Perm task.map.keys) :
    ∃ next host, task.choose profile draw iteration = .ok (next, .ok host) ∧
      task.TakesBall next host := by
  have inside : (draw % task.totalWeightLeft).toNat <
      (iteration.map fun host =>
        (task.map.lookup host).elim 0 weightLeftOf).sum := by
    rw [Table.sum_of_perm_keys weightLeftOf order, ← counted.left,
      UInt16.toNat_mod]
    exact Nat.mod_lt _ filled
  obtain ⟨host, health, drawn, found, ball⟩ := drawHost_of_lt inside
  obtain ⟨left, leftEq, leftValue⟩ :=
    profile.subU16_eq_ok task.totalWeightLeft 1
      (by simp only [UInt16.toNat_one]; omega)
  rw [UInt16.toNat_one] at leftValue
  have member := AList.mem_keys.mp (Table.mem_of_lookup found)
  have one : (health.weightLeft - 1).toNat =
      health.weightLeft.toNat - 1 := by
    apply UInt8.toNat_sub_of_le
    rw [UInt8.le_iff_toNat_le]
    exact ball
  have sum := Table.total_insert_of_lookup weightLeftOf
    { health with weightLeft := health.weightLeft - 1 } found
  unfold weightLeftOf at sum ball
  rw [one] at sum
  refine ⟨{ task with
      totalWeightLeft := left
      map := task.map.insert host
        { health with weightLeft := health.weightLeft - 1 } }, host, ?_, ?_⟩
  · unfold choose
    rw [if_neg (List.ne_nil_of_mem member), if_pos counted.healthy,
      refill_of_pos filled]
    dsimp only
    rw [drawn]
    dsimp only
    rw [leftEq]
    rfl
  · refine ⟨⟨counted.healthy, ?_⟩, ?_, keys_insert_perm found, ?_⟩
    · have left := counted.left
      unfold weightLeftOf at left ⊢
      dsimp only
      omega
    · dsimp only
      omega
    · intro other
      unfold ballsOf
      dsimp only
      by_cases same : other = host
      · rw [same, AList.lookup_insert, found]
        simp only [List.count_singleton_self, Option.elim_some, weightLeftOf,
          one]
        omega
      · rw [AList.lookup_insert_ne same, List.count_eq_zero.mpr (by simpa
          using same), Nat.zero_add]

/-- What the hosts have lost is what was answered. -/
theorem chooseAll_of_counted {profile : BuildProfile}
    {requests : List (UInt16 × List Ipv4Addr)} (counted : task.UrnCounted)
    (enough : requests.length ≤ task.totalWeightLeft.toNat)
    (orders : ∀ request ∈ requests, request.2.Perm task.map.keys) :
    ∃ final, ∃ hosts : List Ipv4Addr,
      task.chooseAll profile requests = .ok (final, hosts.map .ok) ∧
      final.UrnCounted ∧
      final.totalWeightLeft.toNat + requests.length =
        task.totalWeightLeft.toNat ∧
      ∀ host, hosts.count host + final.ballsOf host = task.ballsOf host := by
  induction requests generalizing task with
  | nil => exact ⟨task, [], rfl, counted, rfl, fun _ => Nat.zero_add _⟩
  | cons request requests ih =>
      rw [List.length_cons] at enough
      obtain ⟨next, first, chosen, takes⟩ :=
        @choose_of_counted task profile request.1 request.2 counted
          (by omega) (orders request List.mem_cons_self)
      have left := takes.left
      obtain ⟨final, hosts, rest, finalCounted, finalLeft, balls⟩ :=
        ih takes.counted (by omega) fun other member =>
          (orders other (.tail _ member)).trans takes.hosts.symm
      refine ⟨final, first :: hosts, ?_, finalCounted, ?_, ?_⟩
      · rw [chooseAll, chosen]
        dsimp only [bind, Except.bind]
        rw [rest]
        rfl
      · rw [List.length_cons]
        omega
      · intro host
        have before := takes.balls host
        have after := balls host
        have split : (first :: hosts).count host =
            [first].count host + hosts.count host :=
          @List.count_append _ _ host [first] hosts
        omega

theorem ballsOf_le {host : Ipv4Addr} (counted : task.UrnCounted) :
    task.ballsOf host ≤ task.totalWeightLeft.toNat := by
  rw [counted.left]
  unfold ballsOf
  cases found : task.map.lookup host with
  | none => exact Nat.zero_le _
  | some health => exact Table.measure_le_total weightLeftOf found

/-! ## An empty urn -/

theorem refill_of_empty (empty : task.totalWeightLeft = 0) :
    task.refill.totalWeight = task.totalWeight ∧
      task.refill.totalWeightLeft = task.totalWeight ∧
      task.refill.map = Table.mapValues (fun health : ServerHealth =>
        { health with weightLeft := health.weight.getD 0 }) task.map := by
  unfold refill
  rw [if_pos empty]
  exact ⟨rfl, rfl, rfl⟩

/-- The request that finds an empty urn refills it. -/
theorem choose_refill {profile : BuildProfile} {draw : UInt16}
    {iteration : List Ipv4Addr} (empty : task.totalWeightLeft = 0)
    (healthy : 0 < task.totalWeight) (hosts : task.map.keys ≠ []) :
    task.choose profile draw iteration =
      task.refill.choose profile draw iteration := by
  obtain ⟨sameWeight, filled, refilled⟩ := refill_of_empty empty
  have positive : 0 < task.refill.totalWeightLeft.toNat := by
    rw [filled]
    exact UInt16.lt_iff_toNat_lt.mp healthy
  have sameKeys : task.refill.map.keys = task.map.keys := by
    rw [refilled]
    exact Table.keys_mapValues _ _
  unfold choose
  rw [sameKeys, sameWeight, refill_of_pos positive, if_neg hosts, if_neg hosts,
    if_pos healthy, if_pos healthy]

theorem chooseAll_refill {profile : BuildProfile}
    {requests : List (UInt16 × List Ipv4Addr)} (asked : requests ≠ [])
    (empty : task.totalWeightLeft = 0) (healthy : 0 < task.totalWeight)
    (hosts : task.map.keys ≠ []) :
    task.chooseAll profile requests =
      task.refill.chooseAll profile requests := by
  cases requests with
  | nil => contradiction
  | cons request requests =>
      rw [chooseAll, chooseAll, choose_refill empty healthy hosts]

theorem ballsOf_refill {host : Ipv4Addr} (empty : task.totalWeightLeft = 0) :
    task.refill.ballsOf host = (task.map.lookup host).elim 0 weightOf := by
  obtain ⟨-, -, refilled⟩ := refill_of_empty empty
  unfold ballsOf
  rw [refilled, Table.lookup_mapValues]
  cases task.map.lookup host with
  | none => rfl
  | some health => rfl

theorem urnCounted_refill (empty : task.totalWeightLeft = 0)
    (healthy : 0 < task.totalWeight)
    (total : task.totalWeight.toNat = Table.total weightOf task.map) :
    task.refill.UrnCounted := by
  obtain ⟨sameWeight, filled, refilled⟩ := refill_of_empty empty
  refine ⟨?_, ?_⟩
  · rw [sameWeight]
    exact healthy
  · rw [filled, refilled, Table.total_mapValues, total]
    rfl

/-- As many requests as there are balls, from an empty urn to the next. -/
theorem shares_of_round {profile : BuildProfile} {task : LoadBalancerTask}
    {requests : List (UInt16 × List Ipv4Addr)}
    (empty : task.totalWeightLeft = 0)
    (total : task.totalWeight.toNat = Table.total weightOf task.map)
    (healthy : 0 < Table.total weightOf task.map)
    (round : requests.length = Table.total weightOf task.map)
    (orders : ∀ request ∈ requests, request.2.Perm task.map.keys) :
    ∃ final, ∃ hosts : List Ipv4Addr,
      task.chooseAll profile requests = .ok (final, hosts.map .ok) ∧
      final.totalWeightLeft = 0 ∧
      ∀ host, hosts.count host =
        (task.map.lookup host).elim 0 weightOf := by
  have positive : 0 < task.totalWeight := by
    rw [UInt16.lt_iff_toNat_lt, total]
    exact healthy
  have hosts : task.map.keys ≠ [] := by
    intro noHosts
    rw [← Table.sum_of_perm_keys weightOf (List.Perm.refl _), noHosts]
      at healthy
    exact Nat.lt_irrefl 0 healthy
  have asked : requests ≠ [] :=
    List.ne_nil_of_length_pos (round ▸ healthy)
  obtain ⟨-, filled, refilled⟩ := refill_of_empty empty
  have left : requests.length = task.refill.totalWeightLeft.toNat := by
    rw [filled, total, round]
  have sameKeys : task.refill.map.keys = task.map.keys := by
    rw [refilled]
    exact Table.keys_mapValues _ _
  obtain ⟨final, answered, chosen, counted, finalLeft, balls⟩ :=
    @chooseAll_of_counted task.refill profile requests
      (urnCounted_refill empty positive total) left.le
      fun request member => sameKeys ▸ orders request member
  have drained : final.totalWeightLeft.toNat = 0 := by omega
  refine ⟨final, answered, ?_, UInt16.toNat_inj.mp drained, fun host => ?_⟩
  · rw [chooseAll_refill asked empty positive hosts, chosen]
  · have none := @ballsOf_le final host counted
    have shared := balls host
    rw [ballsOf_refill empty] at shared
    omega

/-- A host of weight 1 and one of weight 2. -/
def drainedUrn : LoadBalancerTask where
  map := ((∅ : Table Ipv4Addr ServerHealth).insert 10 ⟨some 1, 0, 1⟩).insert 20
    ⟨some 2, 0, 2⟩
  totalWeight := 3
  totalWeightLeft := 0
  uncheckedServers := 0
  hostListReply := none

theorem shares_of_round_two_hosts :
    ∃ final, ∃ hosts : List Ipv4Addr,
      drainedUrn.chooseAll .debug
          [(7, [10, 20]), (0, [20, 10]), (1, [10, 20])] =
        .ok (final, hosts.map .ok) ∧
      hosts.count 10 = 1 ∧ hosts.count 20 = 2 := by
  obtain ⟨final, hosts, chosen, -, shares⟩ :=
    @shares_of_round .debug drainedUrn
      [(7, [10, 20]), (0, [20, 10]), (1, [10, 20])] rfl (by decide)
      (by decide) (by decide) (by decide)
  exact ⟨final, hosts, chosen, shares 10, shares 20⟩

end CallingService.Frontend.LoadBalancerTask
