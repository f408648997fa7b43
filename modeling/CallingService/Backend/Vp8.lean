import CallingService.Backend.Rtp.Packet
import CallingService.Common.Counters

/-!
# VP8 payload headers

The SFU reads the payload descriptor and the start of the payload header, and
rewrites the picture id and the index of the temporal base layer.
-/

namespace CallingService.Backend.Vp8

open Foundation Rtp

abbrev TruncatedPictureId := UInt16
abbrev FullPictureId := Nat
abbrev TruncatedTl0PicIdx := UInt8
abbrev FullTl0PicIdx := Nat

structure ParsedHeader where
  pictureId : Option TruncatedPictureId
  tl0PicIdx : Option TruncatedTl0PicIdx
  isKeyFrame : Bool
  resolution : Option PixelSize
deriving DecidableEq, Repr

inductive Vp8Error where
  | unexpectedEnd
  | sevenBitPictureId
deriving DecidableEq, Repr

/-- Bit `index`, counted from the most significant one. -/
def msBit (byte : UInt8) (index : Nat) : Bool :=
  (byte >>> (8 - index - 1).toUInt8) &&& 1 = 1

def readSlice (count : Nat) (payload : Bytes) :
    Except Vp8Error (Bytes × Bytes) :=
  if payload.length < count then .error .unexpectedEnd
  else .ok (payload.take count, payload.drop count)

def readU8 (payload : Bytes) : Except Vp8Error (UInt8 × Bytes) :=
  match payload with
  | [] => .error .unexpectedEnd
  | byte :: rest => .ok (byte, rest)

/-- A 15-bit picture id; its first byte says that it is not a 7-bit one. -/
def readPictureId (payload : Bytes) :
    Except Vp8Error (TruncatedPictureId × Bytes) := do
  let (peeked, _) ← readU8 payload
  ensure (msBit peeked 0) Vp8Error.sevenBitPictureId
  let (bytes, rest) ← readSlice 2 payload
  return ((fromBigEndian bytes).toUInt16 &&& 0b0111111111111111, rest)

/-- Read a field when its bit of the extension byte is set. -/
def readIf {α : Type} (present : Bool)
    (read : Bytes → Except Vp8Error (α × Bytes)) (payload : Bytes) :
    Except Vp8Error (Option α × Bytes) :=
  if present then do
    let (value, rest) ← read payload
    return (some value, rest)
  else .ok (none, payload)

/-- The fields of the descriptor that follow the extension bit. -/
def readExtensions (hasExtensions : Bool) (payload : Bytes) :
    Except Vp8Error
      ((Option TruncatedPictureId × Option TruncatedTl0PicIdx) × Bytes) :=
  if hasExtensions then do
    let (xByte, rest) ← readU8 payload
    let (pictureId, rest) ← readIf (msBit xByte 0) readPictureId rest
    let (tl0PicIdx, rest) ← readIf (msBit xByte 1) readU8 rest
    let (_, rest) ← readIf (msBit xByte 2 || msBit xByte 3) readU8 rest
    return ((pictureId, tl0PicIdx), rest)
  else .ok ((none, none), payload)

/-- The sizes are little-endian, with two bits of scaling at the top. -/
def sizeFromAdditionalKeyFrameHeader (header : Bytes) :
    Except Vp8Error PixelSize := do
  let (_, rest) ← readSlice 3 header
  let (width, rest) ← readSlice 2 rest
  let (height, _) ← readSlice 2 rest
  return {
    width := (fromBigEndian width.reverse).toUInt16 &&& 0b11111111111111
    height := (fromBigEndian height.reverse).toUInt16 &&& 0b11111111111111
  }

/-- Whether the frame is a key frame, and its resolution if it is. -/
def readPayloadHeader (hasPayloadHeader : Bool) (payload : Bytes) :
    Except Vp8Error (Bool × Option PixelSize) :=
  if hasPayloadHeader then do
    let (commonHeader, rest) ← readSlice 3 payload
    let (first, _) ← readU8 commonHeader
    if msBit first 7 then return (false, none)
    else
      let (additional, _) ← readSlice 7 rest
      let resolution ← sizeFromAdditionalKeyFrameHeader additional
      return (true, some resolution)
  else .ok (false, none)

def ParsedHeader.read (payload : Bytes) : Except Vp8Error ParsedHeader := do
  let (byte0, rest) ← readU8 payload
  let (ids, rest) ← readExtensions (msBit byte0 0) rest
  let frame ← readPayloadHeader (msBit byte0 3 && byte0 &&& 0b111 = 0) rest
  return {
    pictureId := ids.1
    tl0PicIdx := ids.2
    isKeyFrame := frame.1
    resolution := frame.2
  }

/-- `modify_header`, on the payload of a packet.  It assumes that both ids are
present and that the picture id has 15 bits. -/
def modifyHeader (packet : Packet) (pictureId : TruncatedPictureId)
    (tl0PicIdx : TruncatedTl0PicIdx) : Except Panic Packet := do
  let named ← packet.writeInPayload ⟨2, 4⟩
    (toBigEndian 2 (pictureId ||| 0b1000000000000000).toNat)
  named.writeInPayload ⟨4, 5⟩ [tl0PicIdx]

def expandPictureId (truncated : TruncatedPictureId) (max : FullPictureId) :
    FullPictureId × FullPictureId :=
  expandTruncatedCounter truncated.toNat max 15

def expandTl0PicIdx (truncated : TruncatedTl0PicIdx) (max : FullTl0PicIdx) :
    FullTl0PicIdx × FullTl0PicIdx :=
  expandTruncatedCounter truncated.toNat max 8

/-- A key frame of 640 by 360 pixels. -/
example :
    ParsedHeader.read [0x90, 0xc0, 0x92, 0x67, 0xdc, 0x00, 0x00, 0x00, 0x00,
        0x00, 0x00, 0x80, 0x02, 0x68, 0x01] =
      .ok ⟨some 4711, some 220, true, some ⟨640, 360⟩⟩ := by rfl

end CallingService.Backend.Vp8
