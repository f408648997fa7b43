import CallingService.Common.Basics
import CallingService.Foundation.BigEndian

/-!
# The dependency descriptor extension

A bit reader over the bytes of the extension and the part of the AV1
dependency descriptor that the SFU reads: the frame number, whether the frame
is a key frame, and the resolution.
-/

namespace CallingService.Backend.Rtp

open Foundation

structure PixelSize where
  width : UInt16
  height : UInt16
deriving DecidableEq, Repr

structure DependencyDescriptor where
  isKeyFrame : Bool
  resolution : Option PixelSize
  truncatedFrameNumber : Option UInt16
deriving DecidableEq, Repr

/-- Reading past the end is an error of the reader; anything else is a panic
of the thread. -/
inductive ReadFailure where
  | outOfBounds
  | panic (cause : Panic)
deriving DecidableEq, Repr

structure DependencyDescriptorReader where
  bytes : Bytes
  byteIndex : Nat
  bitOffset : Nat
deriving DecidableEq, Repr

namespace DependencyDescriptorReader

abbrev Read (α : Type) :=
  DependencyDescriptorReader →
    Except ReadFailure (α × DependencyDescriptorReader)

def new (bytes : Bytes) : DependencyDescriptorReader := ⟨bytes, 0, 0⟩

def byteAt (reader : DependencyDescriptorReader) (index : Nat) :
    Except ReadFailure UInt8 :=
  match reader.bytes[index]? with
  | some byte => .ok byte
  | none => .error (.panic .outOfBounds)

/-- `read_u8`: the next `bits` bits, at most eight. -/
def readU8 (bits : Nat) : Read UInt8 := fun reader =>
  if bits = 0 ∨ 8 < bits then
    .error (.panic (.assertion "bits > 0 && bits <= 8"))
  else if reader.bytes.length = 0 then .error (.panic .overflow)
  else
    let lastByte := reader.bytes.length - 1
    if lastByte < reader.byteIndex ∨
        (reader.byteIndex = lastByte ∧ 8 < reader.bitOffset + bits) then
      .error .outOfBounds
    else if 8 ≤ reader.bitOffset + bits then do
      let current ← reader.byteAt reader.byteIndex
      let inCurrent := 8 - reader.bitOffset
      let masked :=
        if inCurrent < 8 then current &&& ((1 <<< inCurrent.toUInt8) - 1)
        else current
      let inNext := bits - inCurrent
      let next : DependencyDescriptorReader := { reader with
        byteIndex := reader.byteIndex + 1
        bitOffset := (reader.bitOffset + bits) % 8 }
      if 0 < inNext then
        let following ← reader.byteAt (reader.byteIndex + 1)
        let mask := ((1 <<< inNext.toUInt8) - 1) <<< (8 - inNext).toUInt8
        return ((masked <<< inNext.toUInt8) |||
          ((following &&& mask) >>> (8 - inNext).toUInt8), next)
      else return (masked <<< inNext.toUInt8, next)
    else do
      let current ← reader.byteAt reader.byteIndex
      let shift := (8 - reader.bitOffset - bits).toUInt8
      let mask := ((1 <<< bits.toUInt8) - 1) <<< shift
      return ((current &&& mask) >>> shift,
        { reader with bitOffset := reader.bitOffset + bits })

/-- `read_u16`: both halves are read even if the first one fails. -/
def readU16 : Read UInt16 := fun reader => do
  let (upper, afterUpper) ← readU8 8 reader
  let (lower, afterLower) ← readU8 8 afterUpper
  return ((upper.toNat * 256 + lower.toNat).toUInt16, afterLower)

/-- Repeat a read a fixed number of times and drop the results. -/
def skipMany (bits : Nat) : Nat → Read Unit
  | 0, reader => .ok ((), reader)
  | count + 1, reader => do
      let (_, next) ← readU8 bits reader
      skipMany bits count next

/-- The loop over the template layers; the fuel bounds the bits left. -/
def countTemplates : Nat → Nat → Read Nat
  | 0, _, _ => .error .outOfBounds
  | fuel + 1, count, reader => do
      let (layer, next) ← readU8 2 reader
      if layer = 3 then return (count, next)
      else countTemplates fuel (count + 1) next

/-- The frame differences of one template. -/
def skipFdiffs : Nat → Read Unit
  | 0, _ => .error .outOfBounds
  | fuel + 1, reader => do
      let (follows, next) ← readU8 1 reader
      if follows = 1 then
        let (_, later) ← readU8 4 next
        skipFdiffs fuel later
      else return ((), next)

def skipTemplateFdiffs (fuel : Nat) : Nat → Read Unit
  | 0, reader => .ok ((), reader)
  | templates + 1, reader => do
      let (_, next) ← skipFdiffs fuel reader
      skipTemplateFdiffs fuel templates next

/-- `skip_non_symmetric`: the width is the number of bits of `n`. -/
def skipNonSymmetric (n : Nat) : Read Unit := fun reader => do
  let width := if n = 0 then 0 else Nat.log2 n + 1
  let threshold := 2 ^ width - n
  let (value, next) ← readU8 (width - 1) reader
  if value.toNat < threshold then return ((), next)
  else
    let (_, later) ← readU8 1 next
    return ((), later)

/-- Everything after the five flags of a key frame. -/
def readStructure (fuel : Nat) : Read (Option PixelSize) := fun reader => do
  let (_, afterOffset) ← readU8 6 reader
  let (targets, afterTargets) ← readU8 5 afterOffset
  let dtCnt := targets.toNat + 1
  let (templateCnt, afterLayers) ← countTemplates fuel 1 afterTargets
  let (_, afterDtis) ← skipMany 2 (templateCnt * dtCnt) afterLayers
  let (_, afterFdiffs) ← skipTemplateFdiffs fuel templateCnt afterDtis
  let (_, afterChains) ← skipNonSymmetric (dtCnt + 1) afterFdiffs
  let (present, afterFlag) ← readU8 1 afterChains
  if present = 1 then
    let (width, afterWidth) ← readU16 afterFlag
    let (height, afterHeight) ← readU16 afterWidth
    return (some {
      width := if width = 65535 then width else width + 1
      height := if height = 65535 then height else height + 1
    }, afterHeight)
  else return (none, afterFlag)

/-- The body of `read` after the frame number. -/
def readAfterNumber (frameNumber : Option UInt16) :
    DependencyDescriptorReader → Except ReadFailure DependencyDescriptor :=
  fun reader =>
    if reader.bytes.length = 3 then .ok ⟨false, none, frameNumber⟩
    else do
      let (present, afterFlag) ← readU8 1 reader
      let (_, afterFlags) ← skipMany 1 4 afterFlag
      if present = 1 then
        let (resolution, _) ←
          readStructure (8 * reader.bytes.length) afterFlags
        return ⟨true, resolution, frameNumber⟩
      else return ⟨false, none, frameNumber⟩

def read (reader : DependencyDescriptorReader) :
    Except ReadFailure DependencyDescriptor :=
  let start := { reader with byteIndex := 1 }
  match readU16 start with
  | .ok (number, next) => readAfterNumber (some number) next
  | .error (.panic cause) => .error (.panic cause)
  | .error .outOfBounds =>
      -- The position after a failed read is that of its first half.
      match readU8 8 start with
      | .ok (_, next) => readAfterNumber none next
      | .error (.panic cause) => .error (.panic cause)
      | .error .outOfBounds => readAfterNumber none start

end DependencyDescriptorReader

end CallingService.Backend.Rtp
