import CallingService.Backend.Call.Client
import CallingService.Backend.Call.RewrittenIds
import CallingService.Backend.Rtp.PacketRewriting
import CallingService.Backend.Vp8Rewriting

/-!
# The bytes of forwarded video

Rewriting a video packet is a list of writes that are apart from each other:
the stream, the sequence number and the timestamp, and then the ids that the
forwarder has rewritten.  Parsing the bytes again finds them.
-/

namespace CallingService.Backend

open Foundation Rtp Vp8

/-- A video packet of a sender with its parsed header. -/
structure ReceivedVideo (externals : CallExternals) where
  header : Header
  incomingRtp : Packet
  incomingVp8 : VideoHeader
  received : incomingRtp.Received header
  parsed : @Client.parseVideoHeader externals incomingRtp =
    .ok (.ok incomingVp8)

namespace ReceivedVideo

variable {externals : CallExternals} (video : ReceivedVideo externals)

/-- The place of the dependency descriptor, if there is one. -/
def descriptorPlace : Option ByteRange :=
  video.header.dependencyDescriptor.map (·.2)

/-- The ids come from the descriptor of the header, or from the payload if
there is none. -/
inductive Kind : Prop where
  | described (descriptor : DependencyDescriptor) (place : ByteRange)
      (inHeader : video.header.dependencyDescriptor = some (descriptor, place))
      (isVp8 : video.incomingVp8 = .dependencyDescriptor descriptor)
  | vp8 (header : ParsedHeader)
      (inHeader : video.header.dependencyDescriptor = none)
      (isVp8 : video.incomingVp8 = .vp8 header)
      (read : ParsedHeader.read (video.incomingRtp.payloadRange.slice
        video.incomingRtp.serialized) = .ok header)

theorem kind : video.Kind := by
  have built := video.received.built
  have parsed := video.parsed
  unfold Client.parseVideoHeader at parsed
  rw [built.descriptor] at parsed
  cases isDescriptor : video.header.dependencyDescriptor with
  | some recorded =>
      rw [isDescriptor] at parsed
      exact .described recorded.1 recorded.2 isDescriptor
        (Except.ok.inj (Except.ok.inj parsed)).symm
  | none =>
      rw [isDescriptor] at parsed
      obtain ⟨payload, isPayload, parsed⟩ := bind_eq_ok_iff.mp parsed
      have sliced := Packet.sliceSerialized_inBounds built
        video.received.inBounds
        (built.payloadRange_ordered video.received.inBounds)
        (Nat.le_of_eq built.payloadRange_finish)
      unfold Packet.payload at isPayload
      rw [sliced] at isPayload
      cases isPayload
      split at parsed
      · rename_i header read
        exact .vp8 header isDescriptor
          (Except.ok.inj (Except.ok.inj parsed)).symm read
      · cases parsed

theorem wellFormed : video.incomingVp8.WellFormed := by
  cases video.kind with
  | described descriptor place _ isVp8 =>
      rw [isVp8]
      exact wellFormed_dependencyDescriptor descriptor
  | vp8 header _ isVp8 read =>
      rw [isVp8]
      exact wellFormed_read read

end ReceivedVideo

/-! ## Rewriting as writes -/

namespace Client

def frameNumberWrites (packet : Packet)
    (frameNumber : Option FullFrameNumber) : List (Write UInt8) :=
  match frameNumber, packet.dependencyDescriptor with
  | some number, some recorded =>
      [⟨recorded.2.start + 1, toBigEndian 2 number⟩]
  | _, _ => []

def vp8IdWrites (packet : Packet) (pictureId : Option FullPictureId)
    (tl0PicIdx : Option FullTl0PicIdx) : List (Write UInt8) :=
  match pictureId, tl0PicIdx with
  | some picture, some base =>
      [⟨packet.payloadRange.start + 2,
          toBigEndian 2 (picture.toUInt16 ||| 0b1000000000000000).toNat⟩,
        ⟨packet.payloadRange.start + 4, [base.toUInt8]⟩]
  | _, _ => []

def videoWrites (packet : Packet) (outgoingSsrc : Ssrc)
    (outgoing : Vp8RewrittenIds) : List (Write UInt8) :=
  packet.addressWrites outgoingSsrc outgoing.seqnum
      outgoing.timestamp.toUInt32 ++
    (frameNumberWrites packet outgoing.frameNumber ++
      vp8IdWrites packet outgoing.pictureId outgoing.tl0PicIdx)

/-- An id is rewritten only if the packet has it. -/
def OnlyPresent (incomingRtp : Packet) (incomingVp8 : VideoHeader)
    (outgoing : Vp8RewrittenIds) : Prop :=
  ∀ id, (outgoing.get id).isSome → (incomingId incomingRtp incomingVp8 id).isSome

section Writes

variable {header : Header} {packet : Packet}
  (built : packet.BuiltFrom header packet.serialized.length)
  (inBounds : header.InBounds packet.serialized.length)
  (unencrypted : packet.encrypted = false)
include built inBounds unencrypted

theorem rewriteFrameNumber_written {recorded : DependencyDescriptor × ByteRange}
    (isRecorded : header.dependencyDescriptor = some recorded)
    (number : FullFrameNumber) :
    ∃ numbered, rewriteFrameNumber packet (some number) = .ok numbered ∧
      numbered.serialized = applyWrites packet.serialized
        [⟨recorded.2.start + 1, toBigEndian 2 number⟩] := by
  obtain ⟨_, longEnough, inside⟩ :=
    inBounds.descriptor recorded.1 recorded.2 isRecorded
  have startsBehind := built.payloadRange_start
  have ordered := built.payloadRange_ordered inBounds
  have fits := built.payloadRange_fits inBounds
  have three : rtpDependencyDescriptorMinLen = 3 := rfl
  have isDescriptor := built.descriptor.trans isRecorded
  unfold rewriteFrameNumber setDescriptorFrameNumber
  rw [isDescriptor]
  dsimp only
  unfold Packet.setFrameNumberInHeader
  dsimp only
  refine ⟨_, Packet.writeInHeader_eq unencrypted ?_ ?_ rfl,
    Packet.overwrite_eq rfl⟩
  · change recorded.2.start + 3 ≤ packet.payloadRange.start
    omega
  · change packet.payloadRange.start ≤ packet.serialized.length
    omega

theorem modifyHeader_written
    (longEnough : packet.payloadRange.start + 5 ≤ packet.payloadRange.finish)
    (pictureId : TruncatedPictureId) (tl0PicIdx : TruncatedTl0PicIdx) :
    ∃ named, modifyHeader packet pictureId tl0PicIdx = .ok named ∧
      named.serialized = applyWrites packet.serialized
        [⟨packet.payloadRange.start + 2,
            toBigEndian 2 (pictureId ||| 0b1000000000000000).toNat⟩,
          ⟨packet.payloadRange.start + 4, [tl0PicIdx]⟩] := by
  have ordered := built.payloadRange_ordered inBounds
  have fits := built.payloadRange_fits inBounds
  have first := @Packet.writeInPayload_eq packet ⟨2, 4⟩
    (toBigEndian 2 (pictureId ||| 0b1000000000000000).toNat) unencrypted
    ordered (by dsimp only; omega) fits rfl
  rw [Packet.overwrite_eq rfl] at first
  unfold modifyHeader
  rw [first, ok_bind]
  have sameLength : (Write.apply packet.serialized
      ⟨packet.payloadRange.start + 2,
        toBigEndian 2 (pictureId ||| 0b1000000000000000).toNat⟩).length =
          packet.serialized.length := by
    apply Write.length_apply
    change packet.payloadRange.start + 2 + 2 ≤ _
    omega
  unfold applyWrites
  rw [List.foldl_cons]
  dsimp only
  generalize Write.apply packet.serialized
    ⟨packet.payloadRange.start + 2,
      toBigEndian 2 (pictureId ||| 0b1000000000000000).toNat⟩ = named at *
  have second := @Packet.writeInPayload_eq { packet with serialized := named }
    ⟨4, 5⟩ [tl0PicIdx] unencrypted ordered longEnough
    (by rw [sameLength]; exact fits) rfl
  rw [Packet.overwrite_eq rfl] at second
  exact ⟨_, second, rfl⟩

end Writes

theorem payloadRange_of_builtFrom {header : Header} {length : Nat}
    {packet other : Packet} (built : packet.BuiltFrom header length)
    (alsoBuilt : other.BuiltFrom header length)
    (sameKind : other.isRtx = packet.isRtx) :
    other.payloadRange = packet.payloadRange := by
  unfold Packet.payloadRange
  rw [built.payload, alsoBuilt.payload, sameKind]

end Client

namespace ReceivedVideo

variable {externals : CallExternals} (video : ReceivedVideo externals)

/-! ## Where the writes go -/

/-- The positions of a packet, in the order of the packet. -/
structure Layout : Prop where
  kind : (video.incomingRtp.isRtx = true ∧
      video.incomingRtp.seqnumStart = video.header.payloadRange.start ∧
      video.incomingRtp.payloadRange.start =
        video.header.payloadRange.start + 2) ∨
    (video.incomingRtp.isRtx = false ∧ video.incomingRtp.seqnumStart = 2 ∧
      video.incomingRtp.payloadRange.start = video.header.payloadRange.start)
  fixed : 12 ≤ video.header.payloadRange.start
  payload : video.incomingRtp.payloadRange.start ≤
    video.header.payloadRange.finish
  tag : video.header.payloadRange.finish + srtpAuthTagLen =
    video.incomingRtp.serialized.length
  descriptor : ∀ descriptor place,
    video.header.dependencyDescriptor = some (descriptor, place) →
      12 ≤ place.start ∧ place.start + 3 ≤ place.finish ∧
        place.finish ≤ video.header.payloadRange.start

theorem layout : video.Layout := by
  have built := video.received.built
  have inBounds := video.received.inBounds
  refine ⟨?_, inBounds.fixed, ?_, inBounds.tag, inBounds.descriptor⟩
  · unfold Packet.seqnumStart Packet.payloadRange
    rw [built.payload]
    cases video.incomingRtp.isRtx with
    | true => exact .inl ⟨rfl, rfl, rfl⟩
    | false => exact .inr ⟨rfl, rfl, rfl⟩
  · rw [← built.payloadRange_finish]
    exact built.payloadRange_ordered inBounds

theorem payloadStart_le : video.header.payloadRange.start ≤
    video.incomingRtp.payloadRange.start := by
  rcases video.layout.kind with ⟨_, _, start⟩ | ⟨_, _, start⟩
  · omega
  · omega

def seqnumPlace : ByteRange :=
  ⟨video.incomingRtp.seqnumStart, video.incomingRtp.seqnumStart + 2⟩

/-- The places of the ids that have been rewritten. -/
inductive IdsWritten (outgoing : Vp8RewrittenIds) :
    List (Write UInt8) → Prop where
  | nothing (frameNumber : outgoing.frameNumber = none)
      (ids : outgoing.pictureId = none ∨ outgoing.tl0PicIdx = none) :
      IdsWritten outgoing []
  | frameNumber (descriptor : DependencyDescriptor) (place : ByteRange)
      (number : FullFrameNumber)
      (inHeader : video.header.dependencyDescriptor = some (descriptor, place))
      (isNumber : outgoing.frameNumber = some number)
      (noPicture : outgoing.pictureId = none) :
      IdsWritten outgoing [⟨place.start + 1, toBigEndian 2 number⟩]
  | vp8 (header : ParsedHeader) (picture : FullPictureId)
      (base : FullTl0PicIdx)
      (isVp8 : video.incomingVp8 = .vp8 header)
      (noFrame : outgoing.frameNumber = none)
      (isPicture : outgoing.pictureId = some picture)
      (isBase : outgoing.tl0PicIdx = some base)
      (longEnough : video.incomingRtp.payloadRange.start + 5 ≤
        video.header.payloadRange.finish) :
      IdsWritten outgoing
        [⟨video.incomingRtp.payloadRange.start + 2,
            toBigEndian 2 (picture.toUInt16 ||| 0b1000000000000000).toNat⟩,
          ⟨video.incomingRtp.payloadRange.start + 4, [base.toUInt8]⟩]

variable {outgoing : Vp8RewrittenIds}

theorem idsWritten
    (onlyPresent : Client.OnlyPresent video.incomingRtp video.incomingVp8
      outgoing) :
    video.IdsWritten outgoing
      (Client.frameNumberWrites video.incomingRtp outgoing.frameNumber ++
        Client.vp8IdWrites video.incomingRtp outgoing.pictureId
          outgoing.tl0PicIdx) := by
  have built := video.received.built
  cases video.kind with
  | described descriptor place inHeader isVp8 =>
      have noPicture : outgoing.pictureId = none := by
        have absent := onlyPresent .pictureId
        rw [isVp8] at absent
        exact Option.not_isSome_iff_eq_none.mp
          (fun present => Bool.false_ne_true (absent present))
      unfold Client.frameNumberWrites
      rw [noPicture, built.descriptor.trans inHeader]
      cases isNumber : outgoing.frameNumber with
      | none => exact .nothing isNumber (.inl noPicture)
      | some number =>
          exact .frameNumber descriptor place number inHeader isNumber
            noPicture
  | vp8 header inHeader isVp8 read =>
      have noFrame : outgoing.frameNumber = none := by
        have absent := onlyPresent .frameNumber
        rw [isVp8] at absent
        exact Option.not_isSome_iff_eq_none.mp
          (fun present => Bool.false_ne_true (absent present))
      rw [noFrame]
      cases isPicture : outgoing.pictureId with
      | none => exact .nothing noFrame (.inl isPicture)
      | some picture =>
          cases isBase : outgoing.tl0PicIdx with
          | none => exact .nothing noFrame (.inr isBase)
          | some base =>
              refine .vp8 header picture base isVp8 noFrame isPicture isBase ?_
              have picturePresent := onlyPresent .pictureId
                (Option.isSome_of_eq_some isPicture)
              have basePresent := onlyPresent .tl0PicIdx
                (Option.isSome_of_eq_some isBase)
              rw [isVp8] at picturePresent basePresent
              have inPayload := length_of_ids read
                (Option.isSome_map.symm.trans picturePresent)
                (Option.isSome_map.symm.trans basePresent)
              have isFinish := built.payloadRange_finish
              unfold ByteRange.slice at inPayload
              rw [length_slice] at inPayload
              omega

theorem exists_idsWritten
    (onlyPresent : Client.OnlyPresent video.incomingRtp video.incomingVp8
      outgoing) :
    ∃ writes, Client.frameNumberWrites video.incomingRtp
        outgoing.frameNumber ++ Client.vp8IdWrites video.incomingRtp
          outgoing.pictureId outgoing.tl0PicIdx = writes ∧
      video.IdsWritten outgoing writes :=
  ⟨_, rfl, video.idsWritten onlyPresent⟩

/-- Rewriting a received packet does not panic. -/
theorem rewriteVideo_written
    (onlyPresent : Client.OnlyPresent video.incomingRtp video.incomingVp8
      outgoing) (outgoingSsrc : Ssrc) :
    ∃ rewritten,
      Client.rewriteVideo video.incomingRtp outgoingSsrc outgoing =
        .ok rewritten ∧
      rewritten.serialized = applyWrites video.incomingRtp.serialized
        (Client.videoWrites video.incomingRtp outgoingSsrc outgoing) := by
  have built := video.received.built
  have inBounds := video.received.inBounds
  have idsWritten := video.idsWritten onlyPresent
  obtain ⟨addressed, isAddressed, plain, addressedBuilt, sameKind,
    serialized⟩ := Packet.written_rewrite built inBounds
      video.received.unencrypted outgoingSsrc outgoing.seqnum
      outgoing.timestamp.toUInt32
  have sameLength := addressedBuilt.length
  have isFinish := addressedBuilt.payloadRange_finish
  have samePayload := Client.payloadRange_of_builtFrom built addressedBuilt
    sameKind
  rw [← sameLength] at addressedBuilt inBounds
  unfold Client.rewriteVideo Client.videoWrites
  rw [isAddressed, ok_bind, applyWrites_append, ← serialized]
  generalize Client.frameNumberWrites video.incomingRtp outgoing.frameNumber ++
    Client.vp8IdWrites video.incomingRtp outgoing.pictureId
      outgoing.tl0PicIdx = writes at *
  cases idsWritten with
  | nothing noFrame noIds =>
      rw [noFrame]
      change ∃ rewritten, Client.rewriteVp8Ids addressed outgoing.pictureId
        outgoing.tl0PicIdx = .ok rewritten ∧ _
      refine ⟨addressed, ?_, rfl⟩
      rcases noIds with noPicture | noBase
      · rw [noPicture]
        rfl
      · rw [noBase]
        cases outgoing.pictureId with
        | none => rfl
        | some picture => rfl
  | frameNumber descriptor place number inHeader isNumber noPicture =>
      obtain ⟨numbered, isNumbered, written⟩ :=
        Client.rewriteFrameNumber_written addressedBuilt inBounds plain
          inHeader number
      rw [isNumber, noPicture, isNumbered, ok_bind]
      exact ⟨numbered, rfl, written⟩
  | vp8 header picture base isVp8 noFrame isPicture isBase longEnough =>
      rw [← samePayload, ← isFinish] at longEnough
      obtain ⟨named, isNamed, written⟩ := Client.modifyHeader_written
        addressedBuilt inBounds plain longEnough picture.toUInt16 base.toUInt8
      rw [noFrame, isPicture, isBase]
      rw [samePayload] at written
      exact ⟨named, isNamed, written⟩

/-! ## Reading the writes back -/

/-- A write that stays within two positions. -/
def Between (lower upper : Nat) (write : Write UInt8) : Prop :=
  lower ≤ write.start ∧ write.finish ≤ upper

theorem mem_places_payload :
    (⟨video.header.payloadRange.start,
      video.header.payloadRange.finish + srtpAuthTagLen⟩ : ByteRange) ∈
        video.header.places :=
  List.mem_append_right _ List.mem_cons_self

theorem mem_places_fixed {place : ByteRange}
    (isFixed : place ∈ [rtpSeqnumRange, rtpTimestampRange, rtpSsrcRange]) :
    place ∈ video.header.places := by
  unfold Header.places
  rw [List.append_assoc, List.append_assoc]
  exact List.mem_append_left _ isFixed

theorem mem_places_descriptor {descriptor : DependencyDescriptor}
    {place : ByteRange}
    (inHeader : video.header.dependencyDescriptor = some (descriptor, place)) :
    place ∈ video.header.places := by
  unfold Header.places
  rw [inHeader]
  apply List.mem_append_left
  exact List.mem_append_right _ List.mem_cons_self

theorem addressWrites_inPlaces (outgoingSsrc : Ssrc)
    (seqnum : FullSequenceNumber) (timestamp : TruncatedTimestamp) :
    ∀ write ∈ video.incomingRtp.addressWrites outgoingSsrc seqnum timestamp,
      ∃ place ∈ video.header.places,
        Between place.start place.finish write := by
  have layout := video.layout
  have payload := layout.payload
  have fixedPlaces : ∀ place ∈
      [rtpSeqnumRange, rtpTimestampRange, rtpSsrcRange],
        place ∈ video.header.places :=
    fun place isFixed => video.mem_places_fixed isFixed
  intro write isWrite
  unfold Packet.addressWrites at isWrite
  simp only [List.mem_cons, List.not_mem_nil, or_false] at isWrite
  rcases isWrite with rfl | rfl | rfl
  · exact ⟨rtpSsrcRange, fixedPlaces _ (by decide), Nat.le_refl 8,
      Nat.le_refl 12⟩
  · rcases layout.kind with ⟨_, start, payloadStart⟩ | ⟨_, start, _⟩
    · rw [payloadStart] at payload
      rw [start]
      refine ⟨_, video.mem_places_payload, Nat.le_refl _, ?_⟩
      exact Nat.le_trans payload (Nat.le_add_right _ _)
    · rw [start]
      exact ⟨rtpSeqnumRange, fixedPlaces _ (by decide), Nat.le_refl 2,
        Nat.le_refl 4⟩
  · exact ⟨rtpTimestampRange, fixedPlaces _ (by decide), Nat.le_refl 4,
      Nat.le_refl 8⟩

theorem IdsWritten.inPlaces {writes : List (Write UInt8)}
    (ids : video.IdsWritten outgoing writes) :
    ∀ write ∈ writes, ∃ place ∈ video.header.places,
      Between place.start place.finish write := by
  have layout := video.layout
  intro write isWrite
  cases ids with
  | nothing noFrame noIds => cases isWrite
  | frameNumber descriptor place number inHeader isNumber noPicture =>
      rw [List.mem_singleton.mp isWrite]
      have bounds := layout.descriptor descriptor place inHeader
      exact ⟨place, video.mem_places_descriptor inHeader,
        Nat.le_add_right _ _, bounds.2.1⟩
  | vp8 header picture base isVp8 noFrame isPicture isBase longEnough =>
      have behind := video.payloadStart_le
      simp only [List.mem_cons, List.not_mem_nil, or_false] at isWrite
      refine ⟨_, video.mem_places_payload, ?_⟩
      rcases isWrite with rfl | rfl
      · constructor
        · dsimp only
          omega
        · change video.incomingRtp.payloadRange.start + 2 + 2 ≤
            video.header.payloadRange.finish + srtpAuthTagLen
          omega
      · constructor
        · dsimp only
          omega
        · change video.incomingRtp.payloadRange.start + 4 + 1 ≤
            video.header.payloadRange.finish + srtpAuthTagLen
          omega

/-- The address is in the fixed header, but for the number of an RTX packet. -/
theorem addressWrites_where (outgoingSsrc : Ssrc)
    (seqnum : FullSequenceNumber) (timestamp : TruncatedTimestamp) :
    ∀ write ∈ video.incomingRtp.addressWrites outgoingSsrc seqnum timestamp,
      write.finish ≤ 12 ∨
        (write.start = video.header.payloadRange.start ∧
          write.finish = video.incomingRtp.payloadRange.start) := by
  have layout := video.layout
  intro write isWrite
  unfold Packet.addressWrites at isWrite
  simp only [List.mem_cons, List.not_mem_nil, or_false] at isWrite
  rcases isWrite with rfl | rfl | rfl
  · exact .inl (Nat.le_refl 12)
  · rcases layout.kind with ⟨_, start, payloadStart⟩ | ⟨_, start, _⟩
    · right
      rw [start, payloadStart]
      exact ⟨rfl, rfl⟩
    · left
      rw [start]
      exact Nat.le_add_left 4 8
  · exact .inl (Nat.le_add_left 8 4)

/-- The ids are behind the fixed header, before the payload or in it. -/
theorem IdsWritten.where {writes : List (Write UInt8)}
    (ids : video.IdsWritten outgoing writes) :
    ∀ write ∈ writes, 12 ≤ write.start ∧
      (write.finish ≤ video.header.payloadRange.start ∨
        video.incomingRtp.payloadRange.start ≤ write.start) := by
  have layout := video.layout
  have fixed := layout.fixed
  intro write isWrite
  cases ids with
  | nothing noFrame noIds => cases isWrite
  | frameNumber descriptor place number inHeader isNumber noPicture =>
      rw [List.mem_singleton.mp isWrite]
      have bounds := layout.descriptor descriptor place inHeader
      constructor
      · dsimp only
        omega
      · left
        change place.start + 1 + 2 ≤ _
        omega
  | vp8 header picture base isVp8 noFrame isPicture isBase longEnough =>
      have behind := video.payloadStart_le
      simp only [List.mem_cons, List.not_mem_nil, or_false] at isWrite
      rcases isWrite with rfl | rfl
      · exact ⟨by dsimp only; omega, .inr (Nat.le_add_right _ 2)⟩
      · exact ⟨by dsimp only; omega, .inr (Nat.le_add_right _ 4)⟩

theorem videoWrites_apart {writes : List (Write UInt8)}
    (ids : video.IdsWritten outgoing writes) (outgoingSsrc : Ssrc)
    (seqnum : FullSequenceNumber) (timestamp : TruncatedTimestamp) :
    (video.incomingRtp.addressWrites outgoingSsrc seqnum timestamp ++
      writes).Pairwise Write.Apart := by
  have layout := video.layout
  have fixed := layout.fixed
  rw [List.pairwise_append]
  refine ⟨?_, ?_, ?_⟩
  · unfold Packet.addressWrites
    have apart : (8 + 4 ≤ video.incomingRtp.seqnumStart ∨
        video.incomingRtp.seqnumStart + 2 ≤ 8) ∧
        (video.incomingRtp.seqnumStart + 2 ≤ 4 ∨
          4 + 4 ≤ video.incomingRtp.seqnumStart) := by
      rcases layout.kind with ⟨_, start, _⟩ | ⟨_, start, _⟩
      · omega
      · omega
    refine .cons ?_ (.cons ?_ (.cons ?_ .nil))
    · intro other isOther
      simp only [List.mem_cons, List.not_mem_nil, or_false] at isOther
      rcases isOther with rfl | rfl
      · exact apart.1
      · exact .inr (Nat.le_refl 8)
    · intro other isOther
      rw [List.mem_singleton.mp isOther]
      exact apart.2
    · intro other isOther
      cases isOther
  · cases ids with
    | nothing noFrame noIds => exact .nil
    | frameNumber descriptor place number inHeader isNumber noPicture =>
        exact List.pairwise_singleton _ _
    | vp8 header picture base isVp8 noFrame isPicture isBase longEnough =>
        apply List.pairwise_pair.mpr
        exact .inl (Nat.le_refl _)
  · intro first isFirst second isSecond
    have address := video.addressWrites_where outgoingSsrc seqnum timestamp
      first isFirst
    have id := ids.where video second isSecond
    unfold Write.Apart
    rcases layout.kind with ⟨_, _, start⟩ | ⟨_, _, start⟩
    · omega
    · omega

/-! ## What a receiver of the packet finds -/

/-- The bytes of the packet after it has been rewritten. -/
def rewritten (outgoingSsrc : Ssrc) (outgoing : Vp8RewrittenIds) : Bytes :=
  applyWrites video.incomingRtp.serialized
    (Client.videoWrites video.incomingRtp outgoingSsrc outgoing)

def withFrameNumber (descriptor : DependencyDescriptor)
    (frameNumber : Option FullFrameNumber) : DependencyDescriptor :=
  match frameNumber with
  | none => descriptor
  | some number =>
      { descriptor with truncatedFrameNumber := some number.toUInt16 }

/-- The header of the packet with the new stream, sequence number, timestamp
and frame number. -/
def outgoingHeader (outgoingSsrc : Ssrc) (outgoing : Vp8RewrittenIds) :
    Header :=
  { video.header with
    ssrc := video.incomingRtp.ssrcFor outgoingSsrc
    seqnum := if video.incomingRtp.isRtx then video.header.seqnum
      else outgoing.seqnum.toUInt16
    timestamp := outgoing.timestamp.toUInt32
    dependencyDescriptor := video.header.dependencyDescriptor.map
      fun recorded =>
        (withFrameNumber recorded.1 outgoing.frameNumber, recorded.2) }

/-- The places that differ between a packet and what is forwarded. -/
def rewrittenPlaces (outgoing : Vp8RewrittenIds) : List ByteRange :=
  [rtpSsrcRange, video.seqnumPlace, rtpTimestampRange] ++
    (if outgoing.frameNumber.isSome then
      video.descriptorPlace.toList.map fun place =>
        ⟨place.start + 1, place.start + 3⟩
    else []) ++
    (if outgoing.pictureId.isSome && outgoing.tl0PicIdx.isSome then
      [⟨video.incomingRtp.payloadRange.start + 2,
        video.incomingRtp.payloadRange.start + 5⟩]
    else [])

section Described

variable {descriptor : DependencyDescriptor} {place : ByteRange}
  (inHeader : video.header.dependencyDescriptor = some (descriptor, place))
include inHeader

theorem isVp8_of_described :
    video.incomingVp8 = .dependencyDescriptor descriptor := by
  cases video.kind with
  | described other otherPlace same isVp8 =>
      rw [inHeader] at same
      cases same
      exact isVp8
  | vp8 header noDescriptor _ _ =>
      rw [inHeader] at noDescriptor
      cases noDescriptor

theorem describedBy_incoming :
    describedBy (place.slice video.incomingRtp.serialized) = descriptor := by
  have original := congrArg Header.dependencyDescriptor
    (Header.reread_self video.received.parsed)
  unfold Header.reread at original
  rw [inHeader] at original
  exact congrArg Prod.fst (Option.some.inj original)

theorem le_length_described : rtpDependencyDescriptorMinLen ≤
    (place.slice video.incomingRtp.serialized).length := by
  have bounds := video.layout.descriptor descriptor place inHeader
  have fits := Header.place_fits video.received.parsed
    (video.mem_places_descriptor inHeader)
  unfold ByteRange.slice
  rw [length_slice_of_le fits]
  exact Nat.le_sub_of_add_le (Nat.add_comm 3 _ ▸ bounds.2.1)

end Described

section Found

variable {outgoing : Vp8RewrittenIds}
  (onlyPresent : Client.OnlyPresent video.incomingRtp video.incomingVp8
    outgoing) (outgoingSsrc : Ssrc)
include onlyPresent

theorem videoWrites_inPlaces :
    ∀ write ∈ Client.videoWrites video.incomingRtp outgoingSsrc outgoing,
      ∃ place ∈ video.header.places,
        Between place.start place.finish write := by
  intro write isWrite
  rcases List.mem_append.mp isWrite with isAddress | isId
  · exact video.addressWrites_inPlaces _ _ _ write isAddress
  · exact (video.idsWritten onlyPresent).inPlaces video write isId

theorem videoWrites_inside :
    ∀ write ∈ Client.videoWrites video.incomingRtp outgoingSsrc outgoing,
      write.finish ≤ video.incomingRtp.serialized.length := by
  intro write isWrite
  obtain ⟨place, isPlace, _, ends⟩ :=
    video.videoWrites_inPlaces onlyPresent outgoingSsrc write isWrite
  exact Nat.le_trans ends (Header.place_fits video.received.parsed isPlace)

theorem slice_rewritten {write : Write UInt8}
    (isWrite : write ∈
      Client.videoWrites video.incomingRtp outgoingSsrc outgoing) :
    slice write.start write.finish (video.rewritten outgoingSsrc outgoing) =
      write.items :=
  slice_of_write (video.videoWrites_inside onlyPresent outgoingSsrc)
    (video.videoWrites_apart (video.idsWritten onlyPresent) _ _ _) isWrite

theorem number_rewritten {start width number : Nat}
    (isWrite : ⟨start, toBigEndian width number⟩ ∈
      Client.videoWrites video.incomingRtp outgoingSsrc outgoing) :
    ByteRange.numberIn ⟨start, start + width⟩
      (video.rewritten outgoingSsrc outgoing) = number % 256 ^ width := by
  have written := video.slice_rewritten onlyPresent outgoingSsrc isWrite
  unfold Write.finish at written
  dsimp only at written
  rw [length_toBigEndian] at written
  unfold ByteRange.numberIn ByteRange.slice
  rw [written, fromBigEndian_toBigEndian]

/-- Behind the fixed header only the ids change. -/
theorem getElem?_rewritten {index : Nat} (above : 12 ≤ index)
    (below : index < video.header.payloadRange.start ∨
      video.incomingRtp.payloadRange.start ≤ index)
    (noId : ∀ write ∈
      Client.frameNumberWrites video.incomingRtp outgoing.frameNumber ++
        Client.vp8IdWrites video.incomingRtp outgoing.pictureId
          outgoing.tl0PicIdx, ¬ write.Covers index) :
    (video.rewritten outgoingSsrc outgoing)[index]? =
      video.incomingRtp.serialized[index]? := by
  apply getElem?_applyWrites
    (video.videoWrites_inside onlyPresent outgoingSsrc)
  intro write isWrite covers
  rcases List.mem_append.mp isWrite with isAddress | isId
  · have address := video.addressWrites_where _ _ _ write isAddress
    unfold Write.Covers at covers
    omega
  · exact noId write isId covers

theorem length_slice_rewritten (place : ByteRange) :
    (place.slice (video.rewritten outgoingSsrc outgoing)).length =
      (place.slice video.incomingRtp.serialized).length := by
  unfold ByteRange.slice
  rw [length_slice, length_slice, rewritten, length_applyWrites
    (video.videoWrites_inside onlyPresent outgoingSsrc)]

theorem getElem?_slice_rewritten {place : ByteRange} {index : Nat}
    (above : 12 ≤ place.start)
    (below : place.finish ≤ video.header.payloadRange.start ∨
      video.incomingRtp.payloadRange.start ≤ place.start)
    (noId : place.start + index < place.finish → ∀ write ∈
      Client.frameNumberWrites video.incomingRtp outgoing.frameNumber ++
        Client.vp8IdWrites video.incomingRtp outgoing.pictureId
          outgoing.tl0PicIdx, ¬ write.Covers (place.start + index)) :
    (place.slice (video.rewritten outgoingSsrc outgoing))[index]? =
      (place.slice video.incomingRtp.serialized)[index]? := by
  unfold ByteRange.slice
  rw [getElem?_slice, getElem?_slice]
  split
  · rename_i inside
    apply video.getElem?_rewritten onlyPresent outgoingSsrc
      (Nat.le_trans above (Nat.le_add_right _ _)) _ (noId inside)
    rcases below with inFront | behind
    · exact .inl (Nat.lt_of_lt_of_le inside inFront)
    · exact .inr (Nat.le_trans behind (Nat.le_add_right _ _))
  · rfl

/-- A place of the header stays if it is apart from the ids. -/
theorem slice_header_rewritten {place : ByteRange} (above : 12 ≤ place.start)
    (below : place.finish ≤ video.header.payloadRange.start)
    (noId : ∀ write ∈
      Client.frameNumberWrites video.incomingRtp outgoing.frameNumber ++
        Client.vp8IdWrites video.incomingRtp outgoing.pictureId
          outgoing.tl0PicIdx,
      place.finish ≤ write.start ∨ write.finish ≤ place.start) :
    place.slice (video.rewritten outgoingSsrc outgoing) =
      place.slice video.incomingRtp.serialized := by
  apply List.ext_getElem?
  intro index
  apply video.getElem?_slice_rewritten onlyPresent outgoingSsrc above
    (.inl below)
  intro inside write isWrite covers
  rcases noId write isWrite with behind | inFront
  · exact absurd (Nat.le_trans behind covers.1) (Nat.not_le_of_lt inside)
  · exact absurd (Nat.lt_of_lt_of_le covers.2 inFront)
      (Nat.not_lt_of_le (Nat.le_add_right _ _))

theorem ssrc_rewritten :
    (rtpSsrcRange.numberIn (video.rewritten outgoingSsrc outgoing)).toUInt32 =
      video.incomingRtp.ssrcFor outgoingSsrc := by
  have number := @number_rewritten _ video _ onlyPresent outgoingSsrc 8 4
    (video.incomingRtp.ssrcFor outgoingSsrc).toNat
    (List.mem_append_left _ List.mem_cons_self)
  have small := (video.incomingRtp.ssrcFor outgoingSsrc).toNat_lt
  have isNumber : rtpSsrcRange.numberIn
      (video.rewritten outgoingSsrc outgoing) =
        (video.incomingRtp.ssrcFor outgoingSsrc).toNat :=
    number.trans (Nat.mod_eq_of_lt small)
  rw [isNumber]
  exact UInt32.ofNat_toNat

theorem timestamp_rewritten :
    (rtpTimestampRange.numberIn
      (video.rewritten outgoingSsrc outgoing)).toUInt32 =
        outgoing.timestamp.toUInt32 := by
  have number := @number_rewritten _ video _ onlyPresent outgoingSsrc 4 4
    outgoing.timestamp.toUInt32.toNat
    (List.mem_append_left _
      (List.mem_cons_of_mem _ (List.mem_cons_of_mem _ List.mem_cons_self)))
  have small := outgoing.timestamp.toUInt32.toNat_lt
  have isNumber : rtpTimestampRange.numberIn
      (video.rewritten outgoingSsrc outgoing) =
        outgoing.timestamp.toUInt32.toNat :=
    number.trans (Nat.mod_eq_of_lt small)
  rw [isNumber]
  exact UInt32.ofNat_toNat

theorem seqnum_rewritten :
    video.seqnumPlace.numberIn (video.rewritten outgoingSsrc outgoing) =
      outgoing.seqnum % 2 ^ 16 :=
  @number_rewritten _ video _ onlyPresent outgoingSsrc
    video.incomingRtp.seqnumStart 2 outgoing.seqnum
    (List.mem_append_left _ (List.mem_cons_of_mem _ List.mem_cons_self))

theorem headerSeqnum_rewritten :
    (rtpSeqnumRange.numberIn (video.rewritten outgoingSsrc outgoing)).toUInt16 =
      if video.incomingRtp.isRtx then video.header.seqnum
      else outgoing.seqnum.toUInt16 := by
  have layout := video.layout
  have fixed := layout.fixed
  rcases layout.kind with ⟨isRtx, start, payloadStart⟩ | ⟨notRtx, start, _⟩
  · have unchanged : slice 2 4 (video.rewritten outgoingSsrc outgoing) =
        slice 2 4 video.incomingRtp.serialized := by
      apply slice_applyWrites
        (video.videoWrites_inside onlyPresent outgoingSsrc)
      intro write isWrite
      rcases List.mem_append.mp isWrite with isAddress | isId
      · unfold Packet.addressWrites at isAddress
        simp only [List.mem_cons, List.not_mem_nil, or_false] at isAddress
        rcases isAddress with rfl | rfl | rfl
        · exact .inr (Nat.le_add_left 4 4)
        · right
          dsimp only
          omega
        · exact .inr (Nat.le_refl 4)
      · have id := (video.idsWritten onlyPresent).where video write isId
        omega
    have original := congrArg Header.seqnum
      (Header.reread_self video.received.parsed)
    have number : rtpSeqnumRange.numberIn
        (video.rewritten outgoingSsrc outgoing) =
          rtpSeqnumRange.numberIn video.incomingRtp.serialized :=
      congrArg fromBigEndian unchanged
    rw [if_pos isRtx, number]
    exact original
  · have isPlace : video.seqnumPlace = rtpSeqnumRange := by
      unfold seqnumPlace
      rw [start]
      rfl
    have number := video.seqnum_rewritten onlyPresent outgoingSsrc
    rw [isPlace] at number
    rw [notRtx, number]
    exact UInt16.ofNat_mod_size

theorem tccSeqnum_rewritten :
    (video.header.tccSeqnumRange.map fun range =>
      (range.numberIn (video.rewritten outgoingSsrc outgoing)).toUInt16) =
        video.header.tccSeqnum := by
  have original := congrArg Header.tccSeqnum
    (Header.reread_self video.received.parsed)
  rw [← original]
  apply Option.map_congr
  intro range isRange
  have bounds := video.received.inBounds.tcc range isRange
  have unchanged : range.slice (video.rewritten outgoingSsrc outgoing) =
      range.slice video.incomingRtp.serialized := by
    apply video.slice_header_rewritten onlyPresent outgoingSsrc bounds.1
      bounds.2.2
    obtain ⟨writes, isWrites, ids⟩ := video.exists_idsWritten onlyPresent
    rw [isWrites]
    intro write isWrite
    cases ids with
    | nothing noFrame noIds => cases isWrite
    | frameNumber descriptor place number inHeader isNumber noPicture =>
        have apart := Header.placesApart video.received.parsed range _ isRange
          inHeader
        have inside := video.layout.descriptor descriptor place inHeader
        rw [List.mem_singleton.mp isWrite]
        have ends : (⟨place.start + 1, toBigEndian 2 number⟩ :
          Write UInt8).finish = place.start + 3 := rfl
        dsimp only at apart ⊢
        omega
    | vp8 header picture base isVp8 noFrame isPicture isBase longEnough =>
        left
        have behind := video.payloadStart_le
        have inPayload : video.incomingRtp.payloadRange.start ≤
            write.start := by
          simp only [List.mem_cons, List.not_mem_nil, or_false] at isWrite
          rcases isWrite with rfl | rfl
          · exact Nat.le_add_right _ 2
          · exact Nat.le_add_right _ 4
        omega
  exact congrArg (fun bytes => (fromBigEndian bytes).toUInt16) unchanged

theorem described_rewritten {descriptor : DependencyDescriptor}
    {place : ByteRange}
    (inHeader : video.header.dependencyDescriptor = some (descriptor, place)) :
    describedBy (place.slice (video.rewritten outgoingSsrc outgoing)) =
      withFrameNumber descriptor outgoing.frameNumber := by
  have isDescriptor := video.describedBy_incoming inHeader
  have isKind := video.isVp8_of_described inHeader
  have bounds := video.layout.descriptor descriptor place inHeader
  obtain ⟨writes, isWrites, ids⟩ := video.exists_idsWritten onlyPresent
  cases ids with
  | nothing noFrame noIds =>
      have unchanged : place.slice (video.rewritten outgoingSsrc outgoing) =
          place.slice video.incomingRtp.serialized := by
        apply video.slice_header_rewritten onlyPresent outgoingSsrc bounds.1
          bounds.2.2
        rw [isWrites]
        intro write isWrite
        cases isWrite
      rw [noFrame]
      exact (congrArg describedBy unchanged).trans isDescriptor
  | frameNumber other otherPlace number same isNumber noPicture =>
      rw [inHeader] at same
      cases same
      have hasNumber : descriptor.truncatedFrameNumber.isSome := by
        have present := onlyPresent .frameNumber
          (Option.isSome_of_eq_some isNumber)
        rw [isKind] at present
        exact Option.isSome_map.symm.trans present
      have sameLength :=
        video.length_slice_rewritten onlyPresent outgoingSsrc place
      have ahead : ∀ index, 3 ≤ index →
          (place.slice (video.rewritten outgoingSsrc outgoing))[index]? =
            (place.slice video.incomingRtp.serialized)[index]? := by
        intro index above
        apply video.getElem?_slice_rewritten onlyPresent outgoingSsrc bounds.1
          (.inl bounds.2.2)
        rw [isWrites]
        intro _ write isWrite covers
        rw [List.mem_singleton.mp isWrite] at covers
        have ends : place.start + index < place.start + 3 := covers.2
        omega
      have written := @number_rewritten _ video _ onlyPresent outgoingSsrc
        (place.start + 1) 2 number (List.mem_append_right _
          (by rw [isWrites]; exact List.mem_singleton.mpr rfl))
      have inSlice : fromBigEndian (((place.slice
          (video.rewritten outgoingSsrc outgoing)).drop 1).take 2) =
            number % 256 ^ 2 := by
        unfold ByteRange.slice
        rw [drop_slice, take_slice _ (by omega)]
        exact written
      rw [describedBy_rewritten (video.le_length_described inHeader)
        sameLength ahead, isDescriptor, inSlice, isNumber]
      unfold withFrameNumber
      obtain ⟨old, isOld⟩ := Option.isSome_iff_exists.mp hasNumber
      rw [isOld]
      exact congrArg (fun number => { descriptor with
        truncatedFrameNumber := some number }) UInt16.ofNat_mod_size
  | vp8 header picture base isVp8 =>
      rw [isKind] at isVp8
      cases isVp8

/-- The packet parses again, with the new numbers. -/
theorem parse_rewritten :
    Header.parse (video.rewritten outgoingSsrc outgoing) =
      .ok (some (video.outgoingHeader outgoingSsrc outgoing)) := by
  have again := video.received.parse_written
    (video.videoWrites_inPlaces onlyPresent outgoingSsrc)
  have descriptor : (video.header.dependencyDescriptor.map fun recorded =>
      (describedBy (recorded.2.slice
        (video.rewritten outgoingSsrc outgoing)), recorded.2)) =
      video.header.dependencyDescriptor.map fun recorded =>
        (withFrameNumber recorded.1 outgoing.frameNumber, recorded.2) := by
    apply Option.map_congr
    intro recorded isRecorded
    rw [video.described_rewritten onlyPresent outgoingSsrc isRecorded]
  change Header.parse (video.rewritten outgoingSsrc outgoing) =
    .ok (some (video.header.reread
      (video.rewritten outgoingSsrc outgoing))) at again
  rw [again]
  unfold Header.reread outgoingHeader
  rw [video.headerSeqnum_rewritten onlyPresent,
    video.timestamp_rewritten onlyPresent, video.ssrc_rewritten onlyPresent,
    video.tccSeqnum_rewritten onlyPresent, descriptor]

/-- A payload with both ids reads as before, with the new ones. -/
theorem read_rewritten {header : ParsedHeader}
    (isVp8 : video.incomingVp8 = .vp8 header) {picture : FullPictureId}
    {base : FullTl0PicIdx} (isPicture : outgoing.pictureId = some picture)
    (isBase : outgoing.tl0PicIdx = some base) :
    ParsedHeader.read (video.incomingRtp.payloadRange.slice
        (video.rewritten outgoingSsrc outgoing)) =
      .ok { header with
        pictureId := some (picture.toUInt16 &&& 0b0111111111111111)
        tl0PicIdx := some base.toUInt8 } := by
  obtain ⟨writes, isWrites, ids⟩ := video.exists_idsWritten onlyPresent
  have behind := video.payloadStart_le
  have fixed := video.layout.fixed
  have isFinish := video.received.built.payloadRange_finish
  have fits := video.received.built.payloadRange_fits video.received.inBounds
  cases ids with
  | nothing noFrame noIds =>
      rw [isPicture, isBase] at noIds
      rcases noIds with noPicture | noBase
      · cases noPicture
      · cases noBase
  | frameNumber descriptor place number inHeader isNumber noPicture =>
      rw [isPicture] at noPicture
      cases noPicture
  | vp8 other found foundBase isOther noFrame isFound isFoundBase
      longEnough =>
      rw [isPicture] at isFound
      rw [isBase] at isFoundBase
      cases isFound
      cases isFoundBase
      rw [← isFinish] at longEnough
      have named := video.slice_rewritten onlyPresent outgoingSsrc
        (List.mem_append_right _ (isWrites ▸ List.mem_cons_self))
      have based := video.slice_rewritten onlyPresent outgoingSsrc
        (List.mem_append_right _
          (isWrites ▸ List.mem_cons_of_mem _ List.mem_cons_self))
      cases video.kind with
      | described descriptor place _ isDescriptor =>
          rw [isVp8] at isDescriptor
          cases isDescriptor
      | vp8 parsed _ isParsed read =>
          rw [isVp8] at isParsed
          cases isParsed
          have hasPicture := onlyPresent .pictureId
            (Option.isSome_of_eq_some isPicture)
          have hasBase := onlyPresent .tl0PicIdx
            (Option.isSome_of_eq_some isBase)
          rw [isVp8] at hasPicture hasBase
          apply Vp8.read_rewritten read
            (Option.isSome_map.symm.trans hasPicture)
            (Option.isSome_map.symm.trans hasBase)
          · exact video.length_slice_rewritten onlyPresent outgoingSsrc _
          · unfold ByteRange.slice
            rw [slice_slice _ (by omega)]
            exact named
          · unfold ByteRange.slice
            rw [slice_slice _ (by omega)]
            exact based
          · intro index outside
            apply video.getElem?_slice_rewritten onlyPresent outgoingSsrc
              (by omega) (.inr (Nat.le_refl _))
            rw [isWrites]
            intro _ write isWrite covers
            simp only [List.mem_cons, List.not_mem_nil, or_false] at isWrite
            rcases isWrite with rfl | rfl
            · have starts := covers.1
              have ends : video.incomingRtp.payloadRange.start + index <
                  video.incomingRtp.payloadRange.start + 2 + 2 := covers.2
              dsimp only at starts
              omega
            · have starts := covers.1
              have ends : video.incomingRtp.payloadRange.start + index <
                  video.incomingRtp.payloadRange.start + 4 + 1 := covers.2
              dsimp only at starts
              omega

/-- Nothing else changes. -/
theorem sameOutside_rewritten :
    SameOutside (video.rewrittenPlaces outgoing) video.incomingRtp.serialized
      (video.rewritten outgoingSsrc outgoing) := by
  have inside := video.videoWrites_inside onlyPresent outgoingSsrc
  refine ⟨length_applyWrites inside, ?_⟩
  intro index outside
  apply getElem?_applyWrites inside
  intro write isWrite covers
  suffices covered : ∃ place ∈ video.rewrittenPlaces outgoing,
      Between place.start place.finish write by
    obtain ⟨place, isPlace, starts, ends⟩ := covered
    exact outside place isPlace
      ⟨Nat.le_trans starts covers.1, Nat.lt_of_lt_of_le covers.2 ends⟩
  unfold rewrittenPlaces
  rcases List.mem_append.mp isWrite with isAddress | isId
  · have inFront : ∀ {place},
        place ∈ [rtpSsrcRange, video.seqnumPlace, rtpTimestampRange] →
          place ∈ video.rewrittenPlaces outgoing :=
      fun isPlace => List.mem_append_left _ (List.mem_append_left _ isPlace)
    unfold Packet.addressWrites at isAddress
    simp only [List.mem_cons, List.not_mem_nil, or_false] at isAddress
    rcases isAddress with rfl | rfl | rfl
    · exact ⟨rtpSsrcRange, inFront List.mem_cons_self, Nat.le_refl _,
        Nat.le_refl _⟩
    · exact ⟨video.seqnumPlace,
        inFront (List.mem_cons_of_mem _ List.mem_cons_self), Nat.le_refl _,
        Nat.le_refl _⟩
    · exact ⟨rtpTimestampRange, inFront (List.mem_cons_of_mem _
        (List.mem_cons_of_mem _ List.mem_cons_self)), Nat.le_refl _,
        Nat.le_refl _⟩
  · obtain ⟨writes, isWrites, ids⟩ := video.exists_idsWritten onlyPresent
    rw [isWrites] at isId
    cases ids with
    | nothing noFrame noIds => cases isId
    | frameNumber descriptor place number inHeader isNumber noPicture =>
        rw [List.mem_singleton.mp isId]
        refine ⟨⟨place.start + 1, place.start + 3⟩, ?_, Nat.le_refl _,
          Nat.le_refl _⟩
        apply List.mem_append_left
        apply List.mem_append_right
        unfold descriptorPlace
        rw [isNumber, inHeader]
        exact List.mem_singleton.mpr rfl
    | vp8 header picture base isVp8 noFrame isPicture isBase longEnough =>
        have isPlace : (⟨video.incomingRtp.payloadRange.start + 2,
            video.incomingRtp.payloadRange.start + 5⟩ : ByteRange) ∈
              (if outgoing.pictureId.isSome && outgoing.tl0PicIdx.isSome then
                [(⟨video.incomingRtp.payloadRange.start + 2,
                  video.incomingRtp.payloadRange.start + 5⟩ : ByteRange)]
              else []) := by
          rw [isPicture, isBase]
          exact List.mem_singleton.mpr rfl
        refine ⟨_, List.mem_append_right _ isPlace, ?_⟩
        simp only [List.mem_cons, List.not_mem_nil, or_false] at isId
        rcases isId with rfl | rfl
        · exact ⟨Nat.le_refl _, Nat.le_succ _⟩
        · exact ⟨Nat.le_add_right _ 2, Nat.le_refl _⟩

end Found

end ReceivedVideo

end CallingService.Backend
