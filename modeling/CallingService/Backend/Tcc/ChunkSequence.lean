import CallingService.Backend.Tcc.StatusChunks

/-!
# Sequences of status chunks

Whatever is pushed comes back when the chunks are written as words and read
again.  Only the last chunk may tell of more packets than have been pushed.
-/

namespace CallingService.Backend.Tcc

namespace PacketStatusChunk

/-- A run that its word can count, or a vector without a free place. -/
def Complete : PacketStatusChunk → Prop
  | .runLength len _ => len ≤ 8191
  | .vector1 len _ => len = 14
  | .vector2 len _ => len = 7

theorem Represents.complete {chunk : PacketStatusChunk}
    {statuses : List PacketStatus} (represents : chunk.Represents statuses)
    (exact : chunk.Exact) : chunk.Complete := by
  cases represents with
  | runLength fits => exact fits
  | vector1 packs => exact exact
  | vector2 packs => exact exact

end PacketStatusChunk

/-- The chunks after pushing the statuses into an empty list. -/
def pushStatuses (statuses : List PacketStatus) : List PacketStatusChunk :=
  statuses.foldl pushStatus []

def decodeChunks (encoded : List Nat) : Option (List PacketStatusChunk) :=
  encoded.mapM PacketStatusChunk.fromU16

theorem hold_pushStatuses (statuses : List PacketStatus) :
    Hold (pushStatuses statuses) statuses :=
  Hold.nil.pushAll statuses

namespace Hold

variable {chunk : PacketStatusChunk} {chunks : List PacketStatusChunk}
variable {statuses : List PacketStatus}

theorem ne_nil (hold : Hold (chunk :: chunks) statuses) : statuses ≠ [] := by
  generalize whole : chunk :: chunks = all at hold
  induction hold generalizing chunk chunks with
  | nil => cases whole
  | last some represents => exact some
  | cons exact represents later ih =>
      intro nothing
      exact ih rfl (List.append_eq_nil_iff.mp nothing).2

theorem as16_lt (hold : Hold chunks statuses) :
    ∀ chunk ∈ chunks, chunk.as16 < 2 ^ 16 := by
  induction hold with
  | nil =>
      intro chunk member
      cases member
  | last some represents =>
      intro chunk member
      rw [List.mem_singleton.mp member]
      exact represents.as16_lt
  | cons exact represents later ih =>
      intro chunk member
      rcases List.mem_cons.mp member with rfl | inRest
      · exact represents.as16_lt
      · exact ih chunk inRest

theorem complete (hold : Hold chunks statuses) :
    ∀ chunk ∈ chunks.dropLast, chunk.Complete := by
  induction hold with
  | nil =>
      intro chunk member
      cases member
  | last some represents =>
      intro chunk member
      cases member
  | cons exact represents later ih =>
      intro chunk member
      rw [List.dropLast_cons_cons] at member
      rcases List.mem_cons.mp member with rfl | inRest
      · exact represents.complete exact
      · exact ih chunk inRest

/-- The decoded chunks before the last one stand for the front of the
statuses, and the last one for their back and then for missing packets. -/
theorem decodes (hold : Hold chunks statuses) :
    ∃ decoded front back unused,
      decodeChunks (chunks.map PacketStatusChunk.as16) = some decoded ∧
      decoded.length = chunks.length ∧
      statuses = front ++ back ∧
      decoded.dropLast.flatMap PacketStatusChunk.statuses = front.map some ∧
      decoded.flatMap PacketStatusChunk.statuses = statuses.map some ++
        List.replicate unused (some .notReceived) ∧
      (statuses ≠ [] → back ≠ []) := by
  induction hold with
  | nil => exact ⟨[], [], [], 0, rfl, rfl, rfl, rfl, rfl, id⟩
  | @last chunk statuses some represents =>
      obtain ⟨decoded, unused, decodes, same, _⟩ := represents.fromU16_as16
      refine ⟨[decoded], [], statuses, unused, ?_, rfl, rfl, rfl, ?_, id⟩
      · simp [decodeChunks, decodes]
      · rw [List.flatMap_singleton, same]
  | @cons chunk next rest front back exact represents later ih =>
      obtain ⟨first, unused, decodes, same, _, full⟩ :=
        represents.fromU16_as16
      rw [full exact, List.replicate_zero, List.append_nil] at same
      obtain ⟨decoded, middle, last, unused, others, lengths, split, before,
        all, some⟩ := ih
      have nonempty : decoded ≠ [] := by
        rintro rfl
        have missing := later.ne_nil
        rw [List.flatMap_nil] at all
        have nothing := (List.append_eq_nil_iff.mp all.symm).1
        exact missing (List.map_eq_nil_iff.mp nothing)
      refine ⟨first :: decoded, front ++ middle, last, unused, ?_,
        congrArg (· + 1) lengths, ?_, ?_, ?_, fun _ => some later.ne_nil⟩
      · unfold decodeChunks at others ⊢
        rw [List.map_cons, List.mapM_cons, decodes, others]
        rfl
      · rw [split, List.append_assoc]
      · rw [List.dropLast_cons_of_ne_nil nonempty, List.flatMap_cons, same,
          before, List.map_append]
      · rw [List.flatMap_cons, same, all, List.map_append, List.append_assoc]

end Hold

/-- What has been pushed is decoded again, and the decoded chunks go beyond it
in the last one only. -/
theorem pushed_statuses_are_decoded (statuses : List PacketStatus) :
    (∀ chunk ∈ pushStatuses statuses, chunk.as16 < 2 ^ 16) ∧
      (∀ chunk ∈ (pushStatuses statuses).dropLast, chunk.Complete) ∧
      ∃ decoded, decodeChunks ((pushStatuses statuses).map
          PacketStatusChunk.as16) = some decoded ∧
        decoded.length = (pushStatuses statuses).length ∧
        (decoded.flatMap PacketStatusChunk.statuses).take statuses.length =
          statuses.map some ∧
        (statuses ≠ [] →
          (decoded.dropLast.flatMap PacketStatusChunk.statuses).length <
            statuses.length) := by
  have hold := hold_pushStatuses statuses
  obtain ⟨decoded, front, back, unused, decodes, lengths, split, before, all,
    some⟩ := hold.decodes
  refine ⟨hold.as16_lt, hold.complete, decoded, decodes, lengths, ?_, ?_⟩
  · rw [all]
    exact List.take_left' (List.length_map _)
  · intro pushed
    have positive := List.length_pos_iff.mpr (some pushed)
    rw [before, List.length_map, split, List.length_append]
    omega

end CallingService.Backend.Tcc
