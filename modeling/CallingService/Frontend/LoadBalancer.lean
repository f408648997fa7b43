import CallingService.Foundation.Run
import CallingService.Foundation.Table
import CallingService.Common.Basics

/-!
# The load balancer task

The task owns a table of hosts and draws the next host as a ball from an urn:
`totalWeightLeft` counts the balls left and `weightLeft` those of one host.
The messages of the channel are the inputs of the machine; the random draw and
the iteration order of the hash map are part of the input that asks for a
host.
-/

namespace CallingService.Frontend

open Foundation

abbrev Ipv4Addr := UInt32

/-- The reply channel of a host list message. -/
abbrev HostListReplySender := Nat

def maxHosts : Nat := 256

structure ServerHealth where
  weight : Option UInt8
  weightLeft : UInt8
  reportedWeight : UInt8
deriving DecidableEq, Repr

structure LoadBalancerTask where
  map : Table Ipv4Addr ServerHealth
  totalWeight : UInt16
  totalWeightLeft : UInt16
  uncheckedServers : UInt16
  hostListReply : Option HostListReplySender

/-- What the task does besides changing its own state. -/
inductive LoadBalancerEffect where
  | chosen (host : Except String Ipv4Addr)
  | hostListReply (sender : HostListReplySender) (reply : Except String Unit)
  | startHealthcheck (host : Ipv4Addr)

inductive LoadBalancerMessage where
  | choose (draw : UInt16) (iteration : List Ipv4Addr)
  | hostList (sender : HostListReplySender) (hosts : List Ipv4Addr)
  | hostWeight (host : Ipv4Addr) (weight : UInt8)

namespace LoadBalancerTask

def default : LoadBalancerTask where
  map := ∅
  totalWeight := 0
  totalWeightLeft := 0
  uncheckedServers := 0
  hostListReply := none

def maybeSendHostListReply (task : LoadBalancerTask) :
    LoadBalancerTask × List LoadBalancerEffect :=
  if task.uncheckedServers = 0 then
    match task.hostListReply with
    | some sender =>
        ({ task with hostListReply := none }, [.hostListReply sender (.ok ())])
    | none => (task, [])
  else (task, [])

/-- The weight that `update_weight` remembers as logged. -/
def reportWeight (task : LoadBalancerTask) (health : ServerHealth)
    (weight : UInt8) : UInt8 :=
  if 0 < weight ∧ task.totalWeight = 0 then weight
  else if weight = 0 ∧
      task.totalWeight = (health.weight.getD 0).toUInt16 then weight
  else if health.reportedWeight = 0 ∨ weight = 0 then weight
  else health.reportedWeight

/-- An unhealthy host takes its balls out of the urn; any other weight restarts
the selection. -/
def updateWeightLeft (profile : BuildProfile) (task : LoadBalancerTask)
    (health : ServerHealth) (weight : UInt8) : Except Panic UInt16 :=
  if weight = 0 then
    profile.subU16 task.totalWeightLeft health.weightLeft.toUInt16
  else .ok 0

def updateWeight (profile : BuildProfile) (task : LoadBalancerTask)
    (host : Ipv4Addr) (weight : UInt8) :
    Except Panic (LoadBalancerTask × List LoadBalancerEffect) :=
  match task.map.lookup host with
  | none => .ok (task, [])
  | some health => do
      let totalWeightLeft ← task.updateWeightLeft profile health weight
      let map := task.map.insert host {
        weight := some weight
        weightLeft := weight
        reportedWeight := task.reportWeight health weight
      }
      match health.weight with
      | some oldWeight => do
          let remaining ← profile.subU16 task.totalWeight oldWeight.toUInt16
          let totalWeight ← profile.addU16 remaining weight.toUInt16
          return ({ task with map, totalWeightLeft, totalWeight }, [])
      | none => do
          let uncheckedServers ← profile.subU16 task.uncheckedServers 1
          let (replied, effects) := maybeSendHostListReply
            { task with map, totalWeightLeft, uncheckedServers }
          let totalWeight ←
            profile.addU16 task.totalWeight weight.toUInt16
          return ({ replied with totalWeight }, effects)

def newHealth : ServerHealth where
  weight := none
  weightLeft := 0
  reportedWeight := 0

/-- The hosts still to be taken over, those of the new list, and the number
of hosts without a first health check. -/
structure HostSort where
  oldMap : Table Ipv4Addr ServerHealth
  newMap : Table Ipv4Addr ServerHealth
  uncheckedServers : UInt16

/-- The loop of `replace_map` over the new host list. -/
def takeHosts (profile : BuildProfile) :
    List Ipv4Addr → HostSort →
      Except Panic (HostSort × List LoadBalancerEffect)
  | [], sorted => .ok (sorted, [])
  | host :: hosts, sorted =>
      match sorted.oldMap.lookup host with
      | some health =>
          takeHosts profile hosts { sorted with
            oldMap := sorted.oldMap.erase host
            newMap := sorted.newMap.insert host health }
      | none => do
          let uncheckedServers ← profile.addU16 sorted.uncheckedServers 1
          let (final, effects) ← takeHosts profile hosts { sorted with
            newMap := sorted.newMap.insert host newHealth
            uncheckedServers }
          return (final, .startHealthcheck host :: effects)

structure WeightCounters where
  totalWeight : UInt16
  totalWeightLeft : UInt16
  uncheckedServers : UInt16

/-- The loop of `replace_map` over the hosts that are no longer listed. -/
def dropHosts (profile : BuildProfile) :
    List ServerHealth → WeightCounters → Except Panic WeightCounters
  | [], counters => .ok counters
  | health :: rest, counters =>
      match health.weight with
      | some weight => do
          let totalWeight ←
            profile.subU16 counters.totalWeight weight.toUInt16
          let totalWeightLeft ←
            profile.subU16 counters.totalWeightLeft
              health.weightLeft.toUInt16
          dropHosts profile rest { counters with totalWeight, totalWeightLeft }
      | none => do
          let uncheckedServers ← profile.subU16 counters.uncheckedServers 1
          dropHosts profile rest { counters with uncheckedServers }

def replaceMap (profile : BuildProfile) (task : LoadBalancerTask)
    (hosts : List Ipv4Addr) :
    Except Panic (LoadBalancerTask × List LoadBalancerEffect) := do
  let (sorted, started) ← takeHosts profile hosts
    ⟨task.map, ∅, task.uncheckedServers⟩
  let counters ← dropHosts profile (Table.values sorted.oldMap)
    ⟨task.totalWeight, task.totalWeightLeft, sorted.uncheckedServers⟩
  let (replied, effects) := maybeSendHostListReply { task with
    totalWeight := counters.totalWeight
    totalWeightLeft := counters.totalWeightLeft
    uncheckedServers := counters.uncheckedServers }
  return ({ replied with map := sorted.newMap }, started ++ effects)

/-- Refill an empty urn from the weights of all hosts. -/
def refill (task : LoadBalancerTask) : LoadBalancerTask :=
  if task.totalWeightLeft = 0 then
    { task with
      totalWeightLeft := task.totalWeight
      map := Table.mapValues (fun health : ServerHealth =>
        { health with weightLeft := health.weight.getD 0 }) task.map }
  else task

/-- The loop of `choose`: walk the hosts until the drawn ball is reached. -/
def drawHost (map : Table Ipv4Addr ServerHealth) :
    List Ipv4Addr → UInt16 → Option (Ipv4Addr × ServerHealth)
  | [], _ => none
  | host :: hosts, ball =>
      match map.lookup host with
      | none => drawHost map hosts ball
      | some health =>
          if ball < health.weightLeft.toUInt16 then some (host, health)
          else drawHost map hosts (ball - health.weightLeft.toUInt16)

def choose (profile : BuildProfile) (task : LoadBalancerTask)
    (draw : UInt16) (iteration : List Ipv4Addr) :
    Except Panic (LoadBalancerTask × Except String Ipv4Addr) :=
  if task.map.keys = [] then
    .ok (task, .error "no hosts in load balancer")
  else if 0 < task.totalWeight then
    let urn := task.refill
    -- `gen_range` is any number below the balls left
    match drawHost urn.map iteration (draw % urn.totalWeightLeft) with
    | some (host, health) => do
        let totalWeightLeft ← profile.subU16 urn.totalWeightLeft 1
        return ({ urn with
          totalWeightLeft
          map := urn.map.insert host
            { health with weightLeft := health.weightLeft - 1 } }, .ok host)
    | none => .ok (urn, .error "no healthy hosts")
  else .ok (task, .error "no healthy hosts")

/-- A host list that arrives before the previous one was answered. -/
def supersededReply (task : LoadBalancerTask) : List LoadBalancerEffect :=
  match task.hostListReply with
  | some sender => [.hostListReply sender (.error "concurrent updates")]
  | none => []

/-- One message of the channel. -/
def recv (profile : BuildProfile) (task : LoadBalancerTask) :
    LoadBalancerMessage →
      Except Panic (LoadBalancerTask × List LoadBalancerEffect)
  | .choose draw iteration => do
      let (next, host) ← task.choose profile draw iteration
      return (next, [.chosen host])
  | .hostList sender hosts => do
      let (next, effects) ←
        { task with hostListReply := some sender }.replaceMap profile hosts
      return (next, task.supersededReply ++ effects)
  | .hostWeight host weight => task.updateWeight profile host weight

end LoadBalancerTask

end CallingService.Frontend
