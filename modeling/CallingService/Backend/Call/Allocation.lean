import CallingService.Backend.Call.Layer
import CallingService.Backend.Trackers
import Mathlib.Data.List.Sort
import Mathlib.Order.Fin.Basic

/-!
# Allocation of the send rate

The target send rate of a receiver is spent on the videos of the other
clients.  Every video gets its lowest layer before any video gets a higher
one; the larger and the more recently active videos come first.
-/

namespace CallingService.Backend

open Foundation

abbrev VideoHeight := UInt16

structure AllocatableVideoLayer where
  incomingRate : DataRate
  incomingHeight : VideoHeight
  inWord : incomingRate < 2 ^ 64
deriving DecidableEq, Repr

def AllocatableVideoLayer.ofWord (rate : UInt64) (height : VideoHeight) :
    AllocatableVideoLayer :=
  ⟨rate.toNat, height, rate.toNat_lt⟩

structure AllocatableVideo where
  senderDemuxId : DemuxId
  /-- A lower index is a lower resolution. -/
  layers : Fin 3 → AllocatableVideoLayer
  requestedHeight : VideoHeight
  allocatedLayerIndex : Option (Fin 3)
  /-- When the sender became the active speaker. -/
  interesting : Option Instant

structure AllocatedVideo where
  senderDemuxId : DemuxId
  layerIndex : Fin 3
  rate : DataRate
  height : VideoHeight
deriving DecidableEq, Repr

namespace AllocatableVideo

def hasRate (layer : AllocatableVideoLayer) : Bool := 0 < layer.incomingRate

def hasHeight (layer : AllocatableVideoLayer) : Bool :=
  0 < layer.incomingHeight

/-- `position`: the lowest layer that passes the test. -/
def lowestLayer (video : AllocatableVideo)
    (test : AllocatableVideoLayer → Bool) : Option (Fin 3) :=
  LayerId.videoLayerIndices.find? fun index => test (video.layers index)

/-- `rposition`: the highest layer that passes the test. -/
def highestLayer (video : AllocatableVideo)
    (test : AllocatableVideoLayer → Bool) : Option (Fin 3) :=
  LayerId.videoLayerIndices.reverse.find? fun index => test (video.layers index)

def idealVideoLayerIndex (video : AllocatableVideo) : Option (Fin 3) :=
  if video.requestedHeight = 0 then none
  else
    match video.lowestLayer fun layer =>
        video.requestedHeight ≤ layer.incomingHeight && hasRate layer with
    | some firstWithEnough =>
        video.highestLayer fun layer =>
          layer.incomingHeight = (video.layers firstWithEnough).incomingHeight &&
            hasRate layer
    | none => video.highestLayer fun layer => hasRate layer && hasHeight layer

def baseVideoLayerIndex (video : AllocatableVideo) : Option (Fin 3) :=
  if video.requestedHeight = 0 ∨
      (video.layers LayerId.baseLayerIndex).incomingRate = 0 then none
  else some LayerId.baseLayerIndex

/-- Whether the first sender became active no earlier than the second. -/
def noEarlier (first second : Option Instant) : Bool :=
  match second, first with
  | none, _ => true
  | some _, none => false
  | some before, some after => before ≤ after

/-- The order of `sort_by_key`: the larger request first, then the sender that
became active last. -/
def precedes (first second : AllocatableVideo) : Bool :=
  second.requestedHeight < first.requestedHeight ||
    (second.requestedHeight = first.requestedHeight &&
      noEarlier first.interesting second.interesting)

end AllocatableVideo

open AllocatableVideo

/-- The sum of the rates of one layer of each video, capped. -/
def cappedRate (layerIndex : AllocatableVideo → Option (Fin 3))
    (profile : BuildProfile) (videos : List AllocatableVideo)
    (maxRequestedSendRate : DataRate) : Except Panic DataRate := do
  let allocatable ← profile.sumU64 (videos.filterMap fun video =>
    (layerIndex video).map fun index => (video.layers index).incomingRate)
  return min allocatable maxRequestedSendRate

def idealSendRate : BuildProfile → List AllocatableVideo → DataRate →
    Except Panic DataRate :=
  cappedRate idealVideoLayerIndex

def requestedBaseRate : BuildProfile → List AllocatableVideo → DataRate →
    Except Panic DataRate :=
  cappedRate baseVideoLayerIndex

/-- The part of a rate that may be allocated: some is left to let the queue
drain, but never more than the minimum ratio allows. -/
def allocatableRate (minimumAllocation : DataRate → DataRate)
    (sendRate outgoingQueueDrainRate idealRate : DataRate) : DataRate :=
  min (max (sendRate - outgoingQueueDrainRate) (minimumAllocation sendRate))
    idealRate

structure AllocationBudget where
  forDifferentLayers : DataRate
  forExistingLayers : DataRate

structure Allocation where
  bySenderDemuxId : Table DemuxId AllocatedVideo
  allocatedRate : DataRate

namespace Allocation

def empty : Allocation := ⟨∅, 0⟩

/-- A higher layer up to the ideal one that costs less than the candidate. -/
def candidateLayerIndex (video : AllocatableVideo) (layerIndex ideal : Fin 3) :
    Fin 3 :=
  (LayerId.videoLayerIndices.filter fun index =>
      decide (layerIndex < index) && decide (index ≤ ideal)).foldl
    (fun candidate index =>
      if (video.layers index).incomingHeight ≠ 0 ∧
          (video.layers index).incomingRate ≠ 0 ∧
          (video.layers index).incomingRate <
            (video.layers candidate).incomingRate then index
      else candidate) layerIndex

instance : Inhabited Allocation := ⟨empty⟩

def allocateLayer (profile : BuildProfile) (budget : AllocationBudget)
    (allocation : Allocation) (video : AllocatableVideo)
    (candidate : Fin 3) : Except Panic Allocation := do
  let layer := video.layers candidate
  let lowerLayerRate :=
    ((allocation.bySenderDemuxId.lookup video.senderDemuxId).map (·.rate)).getD 0
  let increasedAllocatedRate ← profile.addU64 allocation.allocatedRate
    (layer.incomingRate - lowerLayerRate)
  let allocatable :=
    if some candidate = video.allocatedLayerIndex then budget.forExistingLayers
    else budget.forDifferentLayers
  if allocatable < increasedAllocatedRate then return allocation
  else
    return {
      bySenderDemuxId := allocation.bySenderDemuxId.insert video.senderDemuxId
        ⟨video.senderDemuxId, candidate, layer.incomingRate,
          layer.incomingHeight⟩
      allocatedRate := increasedAllocatedRate }

/-- One video in one round. -/
def allocateVideo (profile : BuildProfile) (budget : AllocationBudget)
    (layerIndex : Fin 3) (allocation : Allocation)
    (video : AllocatableVideo) : Except Panic Allocation :=
  if (video.layers layerIndex).incomingHeight = 0 ∧
      (video.layers layerIndex).incomingRate = 0 then .ok allocation
  else
    match video.idealVideoLayerIndex with
    | none => .ok allocation
    | some ideal =>
        if ideal < layerIndex then .ok allocation
        else allocation.allocateLayer profile budget video
          (candidateLayerIndex video layerIndex ideal)

end Allocation

def allocateSendRate (profile : BuildProfile)
    (minimumAllocation : DataRate → DataRate)
    (targetSendRate minTargetSendRate idealRate outgoingQueueDrainRate :
      DataRate) (videos : List AllocatableVideo) :
    Except Panic (Table DemuxId AllocatedVideo) := do
  let budget : AllocationBudget := {
    forDifferentLayers := allocatableRate minimumAllocation minTargetSendRate
      outgoingQueueDrainRate idealRate
    forExistingLayers := allocatableRate minimumAllocation targetSendRate
      outgoingQueueDrainRate idealRate }
  let sorted := videos.insertionSort (precedes · ·)
  let allocation ← LayerId.videoLayerIndices.foldlM
    (fun allocation layerIndex =>
      sorted.foldlM (Allocation.allocateVideo profile budget layerIndex)
        allocation) Allocation.empty
  return allocation.bySenderDemuxId

end CallingService.Backend
