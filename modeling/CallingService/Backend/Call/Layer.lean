import CallingService.Backend.Rtp.Packet

/-!
# Demux ids and layers

Every client of a call owns sixteen SSRCs.  The demux id is the SSRC with the
four lowest bits clear; the low bits name the layer.
-/

namespace CallingService.Backend

open Rtp

/-- The client within its call: a number whose four lowest bits are clear. -/
structure DemuxId where
  raw : UInt32
  lowBitsClear : raw &&& 0b1111 = 0
deriving DecidableEq, Repr

private theorem and_or_distrib_right (first second mask : UInt32) :
    (first ||| second) &&& mask = (first &&& mask) ||| (second &&& mask) := by
  apply UInt32.toBitVec_inj.mp
  ext index
  simp [Bool.and_or_distrib_right]

private theorem and_or_distrib_left (value first second : UInt32) :
    value &&& (first ||| second) = (value &&& first) ||| (value &&& second) := by
  apply UInt32.toBitVec_inj.mp
  ext index
  simp [Bool.and_or_distrib_left]

namespace DemuxId

def tryFrom (raw : UInt32) : Option DemuxId :=
  if clear : raw &&& 0b1111 = 0 then some ⟨raw, clear⟩ else none

def fromSsrc (ssrc : Ssrc) : DemuxId where
  raw := ssrc &&& 0b11111111111111111111111111110000
  lowBitsClear := by
    rw [UInt32.and_assoc]
    exact UInt32.and_zero

theorem raw_and_high (demuxId : DemuxId) :
    demuxId.raw &&& 0b11111111111111111111111111110000 = demuxId.raw := by
  have split := and_or_distrib_left demuxId.raw
    0b11111111111111111111111111110000 0b1111
  rw [demuxId.lowBitsClear, UInt32.or_zero] at split
  rw [← split]
  exact UInt32.and_neg_one

end DemuxId

inductive LayerId where
  | audio
  | video0
  | video1
  | video2
  | rtpData
deriving DecidableEq, Repr

namespace LayerId

/-- The discriminant of the layer.  The offsets 1, 3, 5 and 7 are for RTX. -/
def offset : LayerId → UInt32
  | audio => 0
  | video0 => 2
  | video1 => 4
  | video2 => 6
  | rtpData => 0xD

def fromSsrc (ssrc : Ssrc) : Option LayerId :=
  let low := ssrc &&& 0b1111
  if low = 0 then some audio
  else if low = 2 then some video0
  else if low = 4 then some video1
  else if low = 6 then some video2
  else if low = 0xD then some rtpData
  else none

def fromVideoLayerIndex : Fin 3 → LayerId
  | 0 => video0
  | 1 => video1
  | 2 => video2

def videoLayerIndices : List (Fin 3) := [0, 1, 2]

def baseLayerIndex : Fin 3 := 0

def layerIndexFromSsrc (ssrc : Ssrc) : Option (Fin 3) :=
  match fromSsrc ssrc with
  | some video0 => some 0
  | some video1 => some 1
  | some video2 => some 2
  | _ => none

def toSsrc (layer : LayerId) (demuxId : DemuxId) : Ssrc :=
  demuxId.raw ||| layer.offset

def toRtxSsrc (layer : LayerId) (demuxId : DemuxId) : Ssrc :=
  Rtp.toRtxSsrc (layer.toSsrc demuxId)

@[simp] theorem demuxId_fromSsrc_toSsrc (layer : LayerId)
    (demuxId : DemuxId) : DemuxId.fromSsrc (layer.toSsrc demuxId) = demuxId := by
  have high : layer.offset &&& 0b11111111111111111111111111110000 = 0 := by
    cases layer <;> rfl
  unfold DemuxId.fromSsrc toSsrc
  congr 1
  rw [and_or_distrib_right, demuxId.raw_and_high, high, UInt32.or_zero]

theorem toSsrc_and_low (layer : LayerId) (demuxId : DemuxId) :
    layer.toSsrc demuxId &&& 0b1111 = layer.offset := by
  unfold toSsrc
  rw [and_or_distrib_right, demuxId.lowBitsClear, UInt32.zero_or]
  cases layer <;> rfl

@[simp] theorem fromSsrc_toSsrc (layer : LayerId) (demuxId : DemuxId) :
    fromSsrc (layer.toSsrc demuxId) = some layer := by
  unfold fromSsrc
  rw [toSsrc_and_low]
  cases layer <;> rfl

theorem toSsrc_inj {first second : LayerId} {one other : DemuxId}
    (same : first.toSsrc one = second.toSsrc other) :
    first = second ∧ one = other := by
  constructor
  · have layers := congrArg fromSsrc same
    simpa using layers
  · have owners := congrArg DemuxId.fromSsrc same
    simpa using owners

theorem low_eq_of_fromSsrc {ssrc : Ssrc} {layer : LayerId}
    (found : fromSsrc ssrc = some layer) : ssrc &&& 0b1111 = layer.offset := by
  unfold fromSsrc at found
  dsimp only at found
  split_ifs at found
  all_goals
    cases found
    assumption

/-- An SSRC is determined by its owner and its layer. -/
theorem eq_toSsrc_of_fromSsrc {ssrc : Ssrc} {layer : LayerId}
    (found : fromSsrc ssrc = some layer) :
    ssrc = layer.toSsrc (DemuxId.fromSsrc ssrc) := by
  have split := and_or_distrib_left ssrc
    0b11111111111111111111111111110000 0b1111
  rw [low_eq_of_fromSsrc found] at split
  unfold toSsrc DemuxId.fromSsrc
  rw [← split]
  exact UInt32.and_neg_one.symm

end LayerId

end CallingService.Backend
