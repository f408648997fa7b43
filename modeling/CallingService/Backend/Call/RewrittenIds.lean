import CallingService.Backend.Call.Forwarding

/-!
# The rewritten ids of a video packet

The five ids are rebased by one rule: an id keeps its distance from the id of
the key frame at which the stream was joined.  Some ids are optional; an id is
rewritten when the packet and the key frame both have it.
-/

namespace CallingService.Backend

open Foundation Rtp Vp8

inductive RewrittenId where
  | seqnum
  | timestamp
  | pictureId
  | tl0PicIdx
  | frameNumber
deriving DecidableEq, Repr

/-- The bits of an id that travel in a packet. -/
def RewrittenId.width : RewrittenId → Nat
  | seqnum => 16
  | timestamp => 32
  | pictureId => 15
  | tl0PicIdx => 8
  | frameNumber => 16

/-- How far above everything sent before a key frame starts. -/
def RewrittenId.gap : RewrittenId → Nat
  | seqnum => 2
  | timestamp => 1
  | pictureId => 1
  | tl0PicIdx => 1
  | frameNumber => 1

def Vp8RewrittenIds.get (ids : Vp8RewrittenIds) : RewrittenId → Option Nat
  | .seqnum => some ids.seqnum
  | .timestamp => some ids.timestamp
  | .pictureId => ids.pictureId
  | .tl0PicIdx => ids.tl0PicIdx
  | .frameNumber => ids.frameNumber

/-- The id as it stands in a packet. -/
def incomingId (incomingRtp : Packet) (incomingVp8 : VideoHeader)
    (id : RewrittenId) : Option Nat :=
  (Vp8SimulcastRtpForwarder.firstIncomingIds incomingRtp incomingVp8).get id

/-- A VP8 header holds 15 bits of the picture id. -/
def VideoHeader.WellFormed (header : VideoHeader) : Prop :=
  ∀ pictureId, header.pictureId = some pictureId → pictureId.toNat < 2 ^ 15

theorem toNat_and_fifteen_lt (value : UInt16) :
    (value &&& 0b0111111111111111).toNat < 2 ^ 15 := by
  rw [UInt16.toNat_and]
  exact Nat.and_lt_two_pow _ (by decide)

/-- What the parser returns is well-formed. -/
theorem wellFormed_read {payload : Bytes} {header : ParsedHeader}
    (parsed : ParsedHeader.read payload = .ok header) :
    (VideoHeader.vp8 header).WellFormed := by
  intro pictureId isId
  obtain ⟨byte0, _, rest⟩ := bind_eq_ok_iff.mp parsed
  obtain ⟨ids, extensions, rest⟩ := bind_eq_ok_iff.mp rest
  obtain ⟨frame, _, returned⟩ := bind_eq_ok_iff.mp rest
  cases returned
  have present : ids.1.1 = some pictureId := isId
  unfold readExtensions at extensions
  split at extensions
  · obtain ⟨xByte, _, rest⟩ := bind_eq_ok_iff.mp extensions
    obtain ⟨picture, readPicture, rest⟩ := bind_eq_ok_iff.mp rest
    obtain ⟨tl0, _, rest⟩ := bind_eq_ok_iff.mp rest
    obtain ⟨_, _, returned⟩ := bind_eq_ok_iff.mp rest
    cases returned
    have isPicture : picture.1 = some pictureId := present
    unfold readIf at readPicture
    split at readPicture
    · obtain ⟨value, readValue, returned⟩ := bind_eq_ok_iff.mp readPicture
      cases returned
      cases isPicture
      obtain ⟨_, _, rest⟩ := bind_eq_ok_iff.mp readValue
      obtain ⟨_, _, rest⟩ := bind_eq_ok_iff.mp rest
      obtain ⟨_, _, returned⟩ := bind_eq_ok_iff.mp rest
      cases returned
      exact toNat_and_fifteen_lt _
    · cases readPicture
      cases isPicture
  · cases extensions
    cases present

theorem wellFormed_dependencyDescriptor (descriptor : DependencyDescriptor) :
    (VideoHeader.dependencyDescriptor descriptor).WellFormed := by
  intro pictureId isId
  cases isId

/-! ## Checked operations, id by id -/

namespace Vp8RewrittenIds

theorem get_combine {operation : Nat → Nat → Option Nat}
    {left right result : Vp8RewrittenIds}
    (combined : combine operation left right = some result)
    (id : RewrittenId) :
    zipChecked operation (left.get id) (right.get id) =
      some (result.get id) := by
  obtain ⟨_, picture, rest⟩ := Option.bind_eq_some_iff.mp combined
  obtain ⟨_, tl0, rest⟩ := Option.bind_eq_some_iff.mp rest
  obtain ⟨_, frame, rest⟩ := Option.bind_eq_some_iff.mp rest
  obtain ⟨_, seqnum, rest⟩ := Option.bind_eq_some_iff.mp rest
  obtain ⟨_, timestamp, returned⟩ := Option.bind_eq_some_iff.mp rest
  cases returned
  cases id with
  | seqnum =>
      change (operation left.seqnum right.seqnum).map some = _
      rw [seqnum]
      rfl
  | timestamp =>
      change (operation left.timestamp right.timestamp).map some = _
      rw [timestamp]
      rfl
  | pictureId => exact picture
  | tl0PicIdx => exact tl0
  | frameNumber => exact frame

theorem combine_of_get {operation : Nat → Nat → Option Nat}
    {left right result : Vp8RewrittenIds}
    (each : ∀ id, zipChecked operation (left.get id) (right.get id) =
      some (result.get id)) :
    combine operation left right = some result := by
  have single : ∀ {first second value : Nat},
      zipChecked operation (some first) (some second) = some (some value) →
        operation first second = some value := by
    intro first second value zipped
    obtain ⟨found, isFound, same⟩ := Option.map_eq_some_iff.mp zipped
    cases same
    exact isFound
  have picture : zipChecked operation left.pictureId right.pictureId = _ :=
    each .pictureId
  have tl0 : zipChecked operation left.tl0PicIdx right.tl0PicIdx = _ :=
    each .tl0PicIdx
  have frame : zipChecked operation left.frameNumber right.frameNumber = _ :=
    each .frameNumber
  have seqnum := single (each .seqnum)
  have timestamp := single (each .timestamp)
  unfold combine
  rw [picture, tl0, frame, seqnum, timestamp]
  rfl

end Vp8RewrittenIds

/-- The outgoing id keeps the distance of the incoming one from the first. -/
def Rebased (incoming firstIncoming firstOutgoing outgoing : Option Nat) :
    Prop :=
  match incoming, firstIncoming, firstOutgoing with
  | some number, some base, some newBase =>
      base ≤ number ∧ outgoing = some (newBase + (number - base))
  | _, _, _ => outgoing = none

theorem Rebased.eq_none {incoming firstIncoming firstOutgoing outgoing :
      Option Nat}
    (rebased : Rebased incoming firstIncoming firstOutgoing outgoing)
    (missing : incoming = none ∨ firstIncoming = none) : outgoing = none := by
  rcases missing with rfl | rfl
  · exact rebased
  · cases incoming with
    | none => exact rebased
    | some number => exact rebased

theorem rebased_of_checked
    {incoming firstIncoming firstOutgoing distance outgoing : Option Nat}
    (subtracted : zipChecked checkedSubU64 incoming firstIncoming =
      some distance)
    (added : zipChecked checkedAddU64 firstOutgoing distance =
      some outgoing) :
    Rebased incoming firstIncoming firstOutgoing outgoing := by
  cases incoming with
  | none =>
      cases subtracted
      cases firstOutgoing with
      | none =>
          cases added
          rfl
      | some newBase =>
          cases added
          rfl
  | some number =>
      cases firstIncoming with
      | none =>
          cases subtracted
          cases firstOutgoing with
          | none =>
              cases added
              rfl
          | some newBase =>
              cases added
              rfl
      | some base =>
          obtain ⟨difference, checked, same⟩ :=
            Option.map_eq_some_iff.mp subtracted
          cases same
          obtain ⟨inside, isDifference⟩ := checkedSubU64_eq_some checked
          cases firstOutgoing with
          | none =>
              cases added
              rfl
          | some newBase =>
              obtain ⟨sum, checkedSum, same⟩ := Option.map_eq_some_iff.mp added
              cases same
              have isSum := checkedAddU64_eq_some checkedSum
              exact ⟨inside, by rw [isSum, isDifference]⟩

theorem Vp8Forwarding.outgoing_rebased {stream : Vp8Forwarding}
    {incoming outgoing : Vp8RewrittenIds}
    (renumbered : stream.outgoing incoming = some outgoing)
    (id : RewrittenId) :
    Rebased (incoming.get id) (stream.firstIncoming.get id)
      (stream.firstOutgoing.get id) (outgoing.get id) := by
  obtain ⟨distance, subtracted, added⟩ :=
    Option.bind_eq_some_iff.mp renumbered
  exact rebased_of_checked (Vp8RewrittenIds.get_combine subtracted id)
    (Vp8RewrittenIds.get_combine added id)

/-! ## Expansion, id by id -/

theorem expandTruncatedCounter_self {number width : Nat}
    (positive : 0 < width) (inWidth : number < 2 ^ width)
    (small : number < 2 ^ 64) :
    (expandTruncatedCounter number number width).1 = number := by
  have half : 0 < 2 ^ (width - 1) := Nat.two_pow_pos _
  have near := @expandTruncatedCounter_of_near number number width positive
    small (by omega) (by omega)
  rw [Nat.mod_eq_of_lt inWidth] at near
  rw [near]

theorem expandId_eq_some {α : Type} {expand : α → Nat → Nat × Nat}
    {incoming : Option α} {largest : Option Nat} {full : Nat}
    (expanded : (expandId expand incoming largest).1 = some full) :
    ∃ truncated maximum, incoming = some truncated ∧
      full = (expand truncated maximum).1 := by
  cases incoming with
  | none => cases expanded
  | some truncated =>
      cases largest with
      | none => cases expanded
      | some maximum =>
          cases expanded
          exact ⟨truncated, maximum, rfl, rfl⟩

namespace Vp8Forwarding

/-- The full id agrees with the id in the packet up to its width. -/
theorem get_expand {stream : Vp8Forwarding} {incomingRtp : Packet}
    {incomingVp8 : VideoHeader} {id : RewrittenId} {full : Nat}
    (expanded : (stream.expand incomingRtp incomingVp8).get id = some full) :
    ∃ number, incomingId incomingRtp incomingVp8 id = some number ∧
      full % 2 ^ id.width = number % 2 ^ id.width := by
  cases id with
  | seqnum =>
      cases expanded
      exact ⟨incomingRtp.seqnum, rfl, rfl⟩
  | timestamp =>
      have isFull : (expandTimestamp incomingRtp.timestamp
          stream.maxIncoming.timestamp).1 = full := Option.some.inj expanded
      rw [← isFull]
      exact ⟨incomingRtp.timestamp.toNat, rfl,
        expandTruncatedCounter_fst_mod (by decide)⟩
  | pictureId =>
      obtain ⟨truncated, maximum, present, isFull⟩ := expandId_eq_some expanded
      rw [isFull]
      refine ⟨truncated.toNat, ?_, expandTruncatedCounter_fst_mod (by decide)⟩
      change incomingVp8.pictureId.map (·.toNat) = _
      rw [present]
      rfl
  | tl0PicIdx =>
      obtain ⟨truncated, maximum, present, isFull⟩ := expandId_eq_some expanded
      rw [isFull]
      refine ⟨truncated.toNat, ?_, expandTruncatedCounter_fst_mod (by decide)⟩
      change incomingVp8.tl0PicIdx.map (·.toNat) = _
      rw [present]
      rfl
  | frameNumber =>
      obtain ⟨truncated, maximum, present, isFull⟩ := expandId_eq_some expanded
      rw [isFull]
      refine ⟨truncated.toNat, ?_, expandTruncatedCounter_fst_mod (by decide)⟩
      change incomingVp8.truncatedFrameNumber.map (·.toNat) = _
      rw [present]
      rfl

theorem isSome_expandId {α : Type} (expand : α → Nat → Nat × Nat)
    (incoming : Option α) (largest : Option Nat) :
    (expandId expand incoming largest).1.isSome =
        (incoming.isSome && largest.isSome) ∧
      (expandId expand incoming largest).2.isSome = largest.isSome := by
  cases incoming with
  | none => exact ⟨rfl, rfl⟩
  | some truncated =>
      cases largest with
      | none => exact ⟨rfl, rfl⟩
      | some maximum => exact ⟨rfl, rfl⟩

/-- An id is expanded when the packet has it and it has been seen. -/
theorem isSome_get_expand (stream : Vp8Forwarding) (incomingRtp : Packet)
    (incomingVp8 : VideoHeader) (id : RewrittenId) :
    ((stream.expand incomingRtp incomingVp8).get id).isSome =
      ((incomingId incomingRtp incomingVp8 id).isSome &&
        (stream.maxIncoming.get id).isSome) := by
  cases id with
  | seqnum => rfl
  | timestamp => rfl
  | pictureId =>
      change (expandId expandPictureId incomingVp8.pictureId
        stream.maxIncoming.pictureId).1.isSome =
          ((incomingVp8.pictureId.map (·.toNat)).isSome && _)
      rw [(isSome_expandId _ _ _).1, Option.isSome_map]
      rfl
  | tl0PicIdx =>
      change (expandId expandTl0PicIdx incomingVp8.tl0PicIdx
        stream.maxIncoming.tl0PicIdx).1.isSome =
          ((incomingVp8.tl0PicIdx.map (·.toNat)).isSome && _)
      rw [(isSome_expandId _ _ _).1, Option.isSome_map]
      rfl
  | frameNumber =>
      change (expandId expandFrameNumber incomingVp8.truncatedFrameNumber
        stream.maxIncoming.frameNumber).1.isSome =
          ((incomingVp8.truncatedFrameNumber.map (·.toNat)).isSome && _)
      rw [(isSome_expandId _ _ _).1, Option.isSome_map]
      rfl

theorem isSome_get_expandedMax (stream : Vp8Forwarding)
    (incomingRtp : Packet) (incomingVp8 : VideoHeader) (id : RewrittenId) :
    ((stream.expandedMax incomingRtp incomingVp8).get id).isSome =
      (stream.maxIncoming.get id).isSome := by
  cases id with
  | seqnum => exact (rfl : true = true)
  | timestamp => exact (rfl : true = true)
  | pictureId =>
      exact (isSome_expandId expandPictureId incomingVp8.pictureId
        stream.maxIncoming.pictureId).2
  | tl0PicIdx =>
      exact (isSome_expandId expandTl0PicIdx incomingVp8.tl0PicIdx
        stream.maxIncoming.tl0PicIdx).2
  | frameNumber =>
      exact (isSome_expandId expandFrameNumber
        incomingVp8.truncatedFrameNumber stream.maxIncoming.frameNumber).2

/-- Right after a switch the ids of the key frame expand to themselves. -/
theorem expand_first {stream : Vp8Forwarding} {incomingRtp : Packet}
    {incomingVp8 : VideoHeader} (wellFormed : incomingVp8.WellFormed)
    (first : stream.maxIncoming =
      Vp8SimulcastRtpForwarder.firstIncomingIds incomingRtp incomingVp8) :
    stream.expand incomingRtp incomingVp8 =
      Vp8SimulcastRtpForwarder.firstIncomingIds incomingRtp incomingVp8 := by
  have timestamp : (expandTimestamp incomingRtp.timestamp
      incomingRtp.timestamp.toNat).1 = incomingRtp.timestamp.toNat := by
    have bound := incomingRtp.timestamp.toNat_lt
    exact expandTruncatedCounter_self (by decide) (by omega) (by omega)
  have picture : (expandId expandPictureId incomingVp8.pictureId
      (incomingVp8.pictureId.map (·.toNat))).1 =
        incomingVp8.pictureId.map (·.toNat) := by
    cases present : incomingVp8.pictureId with
    | none => rfl
    | some pictureId =>
        have bound := wellFormed pictureId present
        exact congrArg some (expandTruncatedCounter_self (by decide)
          (by omega) (by omega))
  have tl0 : (expandId expandTl0PicIdx incomingVp8.tl0PicIdx
      (incomingVp8.tl0PicIdx.map (·.toNat))).1 =
        incomingVp8.tl0PicIdx.map (·.toNat) := by
    cases incomingVp8.tl0PicIdx with
    | none => rfl
    | some tl0PicIdx =>
        have bound := tl0PicIdx.toNat_lt
        exact congrArg some (expandTruncatedCounter_self (by decide)
          (by omega) (by omega))
  have frame : (expandId expandFrameNumber incomingVp8.truncatedFrameNumber
      (incomingVp8.truncatedFrameNumber.map (·.toNat))).1 =
        incomingVp8.truncatedFrameNumber.map (·.toNat) := by
    cases incomingVp8.truncatedFrameNumber with
    | none => rfl
    | some frameNumber =>
        have bound := frameNumber.toNat_lt
        exact congrArg some (expandTruncatedCounter_self (by decide)
          (by omega) (by omega))
  unfold expand
  rw [first]
  unfold Vp8SimulcastRtpForwarder.firstIncomingIds
  dsimp only
  rw [timestamp, picture, tl0, frame]

end Vp8Forwarding

/-! ## The key frame itself -/

theorem zipChecked_sub_self (number : Option Nat) :
    zipChecked checkedSubU64 number number =
      some (number.map fun _ => 0) := by
  cases number with
  | none => rfl
  | some value => simp [zipChecked, checkedSubU64]

theorem zipChecked_add_zero {number base : Option Nat}
    (small : ∀ value, base = some value → value < 2 ^ 64) :
    zipChecked checkedAddU64 base (number.map fun _ => 0) =
      some (number.bind fun _ => base) := by
  cases base with
  | none =>
      cases number with
      | none => rfl
      | some other => rfl
  | some value =>
      cases number with
      | none => rfl
      | some other => simpa [zipChecked, checkedAddU64] using small value rfl

/-- The ids that are present in a key frame, with new values. -/
def Vp8RewrittenIds.onlyPresent (first ids : Vp8RewrittenIds) :
    Vp8RewrittenIds where
  seqnum := ids.seqnum
  timestamp := ids.timestamp
  pictureId := first.pictureId.bind fun _ => ids.pictureId
  tl0PicIdx := first.tl0PicIdx.bind fun _ => ids.tl0PicIdx
  frameNumber := first.frameNumber.bind fun _ => ids.frameNumber

theorem Vp8RewrittenIds.get_onlyPresent (first ids : Vp8RewrittenIds)
    (id : RewrittenId) :
    (first.onlyPresent ids).get id =
      (first.get id).bind fun _ => ids.get id := by
  cases id with
  | seqnum => rfl
  | timestamp => rfl
  | pictureId => rfl
  | tl0PicIdx => rfl
  | frameNumber => rfl

theorem Vp8Forwarding.outgoing_first {stream : Vp8Forwarding}
    (small : ∀ id value, stream.firstOutgoing.get id = some value →
      value < 2 ^ 64) :
    stream.outgoing stream.firstIncoming =
      some (stream.firstIncoming.onlyPresent stream.firstOutgoing) := by
  let zeros : Vp8RewrittenIds :=
    ⟨0, 0, stream.firstIncoming.pictureId.map fun _ => 0,
      stream.firstIncoming.tl0PicIdx.map fun _ => 0,
      stream.firstIncoming.frameNumber.map fun _ => 0⟩
  have zeroDistance : ∀ id, zeros.get id =
      (stream.firstIncoming.get id).map fun _ => 0 := by
    intro id
    cases id with
    | seqnum => rfl
    | timestamp => rfl
    | pictureId => rfl
    | tl0PicIdx => rfl
    | frameNumber => rfl
  have subtracted : stream.firstIncoming.checkedSub stream.firstIncoming =
      some zeros := by
    apply Vp8RewrittenIds.combine_of_get
    intro id
    rw [zeroDistance id]
    exact zipChecked_sub_self _
  have added : stream.firstOutgoing.checkedAdd zeros =
      some (stream.firstIncoming.onlyPresent stream.firstOutgoing) := by
    apply Vp8RewrittenIds.combine_of_get
    intro id
    rw [zeroDistance id, Vp8RewrittenIds.get_onlyPresent]
    exact zipChecked_add_zero (small id)
  unfold outgoing
  rw [subtracted]
  exact added

end CallingService.Backend
