import CallingService.Backend.Rtp.DependencyDescriptor
import CallingService.Backend.Rtp.Srtp

/-!
# RTP headers

`Header.parse` reads the fixed header, skips the contributing sources and
walks over the one-byte or two-byte extensions.  Positions are recorded so
that the values can be replaced in the serialized packet later.
-/

namespace CallingService.Backend.Rtp

open Foundation

/-- A half-open range of byte positions. -/
structure ByteRange where
  start : Nat
  finish : Nat
deriving DecidableEq, Repr

def ByteRange.len (range : ByteRange) : Nat := range.finish - range.start

inductive VideoRotation where
  | none
  | clockwise90
  | clockwise180
  | clockwise270
deriving DecidableEq, Repr

def VideoRotation.fromByte (byte : UInt8) : VideoRotation :=
  match (byte &&& 3).toNat with
  | 0 => .none
  | 1 => .clockwise90
  | 2 => .clockwise180
  | _ => .clockwise270

def rtpMinHeaderLen : Nat := 12
def rtpPayloadTypeOffset : Nat := 1
def rtpSeqnumRange : ByteRange := ⟨2, 4⟩
def rtpTimestampRange : ByteRange := ⟨4, 8⟩
def rtpSsrcRange : ByteRange := ⟨8, 12⟩
def rtpExtensionsHeaderLen : Nat := 4
def rtpOneByteExtensionsProfile : Nat := 0xBEDE
def rtpTwoByteExtensionsProfile : Nat := 0x1000
def rtpExtIdTccSeqnum : Nat := 1
def rtpExtIdVideoOrientation : Nat := 4
def rtpExtIdAudioLevel : Nat := 5
def rtpExtIdDependencyDescriptor : Nat := 6
def rtpDependencyDescriptorMinLen : Nat := 3

inductive HeaderExtensionsProfile where
  | oneByte
  | twoByte
deriving DecidableEq, Repr

def HeaderExtensionsProfile.tryFrom (value : Nat) :
    Option HeaderExtensionsProfile :=
  if value = rtpOneByteExtensionsProfile then some .oneByte
  else if value &&& 0xFFF0 = rtpTwoByteExtensionsProfile then some .twoByte
  else none

def HeaderExtensionsProfile.len : HeaderExtensionsProfile → Nat
  | .oneByte => 1
  | .twoByte => 2

structure Header where
  marker : Bool
  hasPadding : Bool
  payloadType : PayloadType
  seqnum : TruncatedSequenceNumber
  timestamp : TruncatedTimestamp
  ssrc : Ssrc
  videoRotation : Option VideoRotation
  audioLevel : Option UInt8
  tccSeqnum : Option TruncatedSequenceNumber
  tccSeqnumRange : Option ByteRange
  payloadRange : ByteRange
  dependencyDescriptor : Option (DependencyDescriptor × ByteRange)
deriving DecidableEq, Repr

/-- The values found among the extensions. -/
structure ExtensionValues where
  tccSeqnum : Option TruncatedSequenceNumber
  tccSeqnumRange : Option ByteRange
  videoRotation : Option VideoRotation
  audioLevel : Option UInt8
  dependencyDescriptor : Option (DependencyDescriptor × ByteRange)
deriving DecidableEq, Repr

def ExtensionValues.empty : ExtensionValues := ⟨none, none, none, none, none⟩

/-- A descriptor that cannot be read counts as an unknown delta frame. -/
def readDescriptor (value : Bytes) : Except Panic DependencyDescriptor :=
  match (DependencyDescriptorReader.new value).read with
  | .ok descriptor => .ok descriptor
  | .error .outOfBounds => .ok ⟨false, none, none⟩
  | .error (.panic cause) => .error cause

/-- The effect of one extension; `none` means that the packet is invalid. -/
def ExtensionValues.add (values : ExtensionValues) (id : Nat) (value : Bytes)
    (range : ByteRange) : Except Panic (Option ExtensionValues) :=
  if id = rtpExtIdTccSeqnum ∧ value.length = 2 then
    .ok (some { values with
      tccSeqnum := some (fromBigEndian value).toUInt16
      tccSeqnumRange := some range })
  else match value with
    | [byte] =>
        if id = rtpExtIdVideoOrientation then
          .ok (some { values with
            videoRotation := some (VideoRotation.fromByte byte) })
        else if id = rtpExtIdAudioLevel then
          .ok (some { values with
            audioLevel := some (120 - (byte &&& 127).toNat).toUInt8 })
        else if id = rtpExtIdDependencyDescriptor then .ok none
        else .ok (some values)
    | _ =>
        if id = rtpExtIdDependencyDescriptor then
          if value.length < rtpDependencyDescriptorMinLen then .ok none
          else do
            let descriptor ← readDescriptor value
            return some { values with
              dependencyDescriptor := some (descriptor, range) }
        else .ok (some values)

/-- The loop over the extensions.  `position` is the place of the remaining
extension bytes in the packet; the fuel bounds their number. -/
def parseExtensions (profile : HeaderExtensionsProfile) :
    Nat → Nat → Bytes → ExtensionValues →
      Except Panic (Option ExtensionValues)
  | 0, _, _, values => .ok (some values)
  | fuel + 1, position, extensions, values =>
      match extensions with
      | [] => .ok (some values)
      | first :: _ =>
          if extensions.length < profile.len then
            if profile = .twoByte ∧ first = 0 then .ok (some values)
            else .ok none
          else
            let id := match profile with
              | .oneByte => (first >>> 4).toNat
              | .twoByte => first.toNat
            if id = 0 then .ok (some values)
            else
              let length := match profile with
                | .oneByte => (first &&& 0x0F).toNat + 1
                | .twoByte => (extensions.getD 1 0).toNat
              let rest := extensions.drop profile.len
              if rest.length < length then .ok none
              else do
                let start := position + profile.len
                let added ← values.add id (rest.take length)
                  ⟨start, start + length⟩
                match added with
                | none => return none
                | some next =>
                    parseExtensions profile fuel (start + length)
                      (rest.drop length) next

/-- The extension block: its values and its length in bytes. -/
def parseExtensionBlock (position : Nat) (block : Bytes) :
    Except Panic (Option (ExtensionValues × Nat)) :=
  if block.length < rtpExtensionsHeaderLen then .ok none
  else
    let profile := fromBigEndian (block.take 2)
    let length := fromBigEndian ((block.drop 2).take 2) * 4
    match HeaderExtensionsProfile.tryFrom profile with
    | none => .ok none
    | some profile =>
        let rest := block.drop rtpExtensionsHeaderLen
        if rest.length < length then .ok none
        else do
          let values ← parseExtensions profile length
            (position + rtpExtensionsHeaderLen) (rest.take length) .empty
          return values.map (·, rtpExtensionsHeaderLen + length)

/-- The fields of the fixed header together with what follows it. -/
def buildHeader (packet : Bytes) (first second : UInt8)
    (values : ExtensionValues) (payloadStart : Nat) : Option Header :=
  let hasPadding := first &&& 0b00100000 ≠ 0
  if packet.length < payloadStart + srtpAuthTagLen then none
  else
    let payloadEnd := packet.length - srtpAuthTagLen
    if hasPadding ∧ payloadEnd ≤ payloadStart then none
    else some {
      marker := second &&& 0b10000000 ≠ 0
      hasPadding
      payloadType := second &&& 0b01111111
      seqnum := (fromBigEndian ((packet.drop 2).take 2)).toUInt16
      timestamp := (fromBigEndian ((packet.drop 4).take 4)).toUInt32
      ssrc := (fromBigEndian ((packet.drop 8).take 4)).toUInt32
      videoRotation := values.videoRotation
      audioLevel := values.audioLevel
      tccSeqnum := values.tccSeqnum
      tccSeqnumRange := values.tccSeqnumRange
      payloadRange := ⟨payloadStart, payloadEnd⟩
      dependencyDescriptor := values.dependencyDescriptor
    }

def Header.parse (packet : Bytes) : Except Panic (Option Header) :=
  match packet with
  | first :: second :: _ =>
      if packet.length < rtpMinHeaderLen then .ok none
      else
        let csrcsLen := 4 * (first &&& 0b00001111).toNat
        let afterMain := packet.drop rtpMinHeaderLen
        if afterMain.length < csrcsLen then .ok none
        else
          let extensionsStart := rtpMinHeaderLen + csrcsLen
          if first &&& 0b00010000 ≠ 0 then do
            let block ← parseExtensionBlock extensionsStart
              (afterMain.drop csrcsLen)
            match block with
            | none => return none
            | some (values, length) =>
                return buildHeader packet first second values
                  (extensionsStart + length)
          else .ok (buildHeader packet first second .empty extensionsStart)
  | _ => .ok none

end CallingService.Backend.Rtp
