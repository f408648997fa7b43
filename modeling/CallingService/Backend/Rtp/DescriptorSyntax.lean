import CallingService.Backend.Rtp.DependencyDescriptor
import CallingService.Foundation.BitLists
import Mathlib.Data.Nat.Size

/-!
# The syntax of a dependency descriptor

The AV1 dependency descriptor as a grammar over one list of bits, up to the
first resolution and for a stream without chains.  It keeps no position: each
element of the syntax takes its bits off the front of the list.
-/

namespace CallingService.Backend.Rtp

open Foundation

namespace DescriptorSyntax

/-- `ns(n)`: a number below `n`, where the first numbers take one bit less. -/
def nonSymmetric (n : Nat) : BitParser Nat := do
  let width := Nat.size n
  let threshold := 2 ^ width - n
  let value ← readBits (width - 1)
  if value < threshold then return value
  else
    let extraBit ← readBits 1
    return 2 * value - threshold + extraBit

/-- The number of templates: after each of them two bits, both set after the
last one. -/
def templateLayers : List Bool → Option (Nat × List Bool)
  | high :: low :: rest =>
      if high && low then some (1, rest)
      else (templateLayers rest).map fun found => (found.1 + 1, found.2)
  | _ => none

/-- Each difference is announced by a set bit and takes four bits. -/
def fdiffs : List Bool → Option (Unit × List Bool)
  | false :: rest => some ((), rest)
  | true :: _ :: _ :: _ :: _ :: rest => fdiffs rest
  | _ => none

def templateFdiffs : Nat → BitParser Unit
  | 0 => pure ()
  | templates + 1 => do
      let _ ← fdiffs
      templateFdiffs templates

/-- A side in pixels, or the longest one that can be represented. -/
def pixels (minusOne : Nat) : UInt16 := (min (minusOne + 1) 65535).toUInt16

def renderResolution : BitParser (Option PixelSize) := do
  let maxRenderWidthMinus1 ← readBits 16
  let maxRenderHeightMinus1 ← readBits 16
  return some ⟨pixels maxRenderWidthMinus1, pixels maxRenderHeightMinus1⟩

def templateDependencyStructure : BitParser (Option PixelSize) := do
  let _templateIdOffset ← readBits 6
  let dtCntMinusOne ← readBits 5
  let dtCnt := dtCntMinusOne + 1
  let templateCnt ← templateLayers
  let _templateDtis ← readBits (2 * (templateCnt * dtCnt))
  let _templateFdiffs ← templateFdiffs templateCnt
  let _chainCnt ← nonSymmetric (dtCnt + 1)
  let resolutionsPresentFlag ← readBits 1
  if resolutionsPresentFlag = 1 then renderResolution else return none

def mandatoryDescriptorFields : BitParser Nat := do
  let _startOfFrame ← readBits 1
  let _endOfFrame ← readBits 1
  let _frameDependencyTemplateId ← readBits 6
  readBits 16

def extendedDescriptorFields (frameNumber : UInt16) :
    BitParser DependencyDescriptor := do
  let templateDependencyStructurePresentFlag ← readBits 1
  let _activeDecodeTargetsPresentFlag ← readBits 1
  let _customDtisFlag ← readBits 1
  let _customFdiffsFlag ← readBits 1
  let _customChainsFlag ← readBits 1
  if templateDependencyStructurePresentFlag = 1 then
    let resolution ← templateDependencyStructure
    return ⟨true, resolution, some frameNumber⟩
  else return ⟨false, none, some frameNumber⟩

/-- A descriptor of `size` bytes; three bytes hold the mandatory fields. -/
def dependencyDescriptor (size : Nat) : BitParser DependencyDescriptor := do
  let frameNumber ← mandatoryDescriptorFields
  if 3 < size then extendedDescriptorFields frameNumber.toUInt16
  else return ⟨false, none, some frameNumber.toUInt16⟩

def parse (bytes : Bytes) : Option DependencyDescriptor :=
  (dependencyDescriptor bytes.length (bitList bytes)).map Prod.fst

example : parse [0x80, 0, 1] = some ⟨false, none, some 1⟩ := by decide

end DescriptorSyntax

end CallingService.Backend.Rtp
