import CallingService.Foundation.BigEndian

/-!
# Length-prefixed frames

A stream of byte strings, each of them after its length.  No frame is the
beginning of another one, so that the bytes determine the contents.
-/

namespace CallingService.Foundation

def frame (width : Nat) (content : Bytes) : Bytes :=
  toBigEndian width content.length ++ content

/-- The frames of several contents, one after the other. -/
def frames (width : Nat) (contents : List Bytes) : Bytes :=
  contents.flatMap (frame width)

/-- The length of the content fits into its prefix. -/
def Framable (width : Nat) (content : Bytes) : Prop :=
  content.length < 256 ^ width

/-- No frame has been completed. -/
def Incomplete (width : Nat) (bytes : Bytes) : Prop :=
  ∀ content rest, Framable width content → bytes ≠ frame width content ++ rest

section Frames

variable {width : Nat} {contents left right : List Bytes}
variable {first second : Bytes}

@[simp] theorem frames_nil (width : Nat) : frames width [] = [] := rfl

@[simp] theorem frames_cons (width : Nat) (content : Bytes)
    (contents : List Bytes) :
    frames width (content :: contents) =
      frame width content ++ frames width contents := List.flatMap_cons

theorem frames_append (width : Nat) (left right : List Bytes) :
    frames width (left ++ right) = frames width left ++ frames width right :=
  List.flatMap_append

theorem frames_concat (width : Nat) (contents : List Bytes)
    (content : Bytes) : frames width (contents ++ [content]) =
      frames width contents ++ frame width content := by
  rw [frames_append, frames_cons, frames_nil, List.append_nil]

theorem length_frame (width : Nat) (content : Bytes) :
    (frame width content).length = width + content.length := by
  unfold frame
  rw [List.length_append, length_toBigEndian]

/-- A length before a frame is the length of its content. -/
theorem length_frame_inj {length : Nat} {content : Bytes}
    (fits : length < 256 ^ width) (contentFits : Framable width content)
    (same : toBigEndian width length ++ first =
      frame width content ++ second) :
    length = content.length ∧ first = content ++ second := by
  unfold frame at same
  rw [List.append_assoc] at same
  exact toBigEndian_append_inj fits contentFits same

theorem frame_append_inj {leftContent rightContent : Bytes}
    (leftFits : Framable width leftContent)
    (rightFits : Framable width rightContent)
    (same : frame width leftContent ++ first =
      frame width rightContent ++ second) :
    leftContent = rightContent ∧ first = second := by
  have prefixed : toBigEndian width leftContent.length ++
      (leftContent ++ first) = frame width rightContent ++ second := by
    rw [← same, frame, List.append_assoc]
  obtain ⟨lengths, bodies⟩ := length_frame_inj leftFits rightFits prefixed
  exact List.append_inj bodies lengths

/-- Of two readings of the same bytes one continues the other. -/
theorem frames_append_eq
    (leftFits : ∀ content ∈ left, Framable width content)
    (rightFits : ∀ content ∈ right, Framable width content)
    (same : frames width left ++ first = frames width right ++ second) :
    (∃ more, right = left ++ more ∧ first = frames width more ++ second) ∨
      (∃ more, left = right ++ more ∧
        second = frames width more ++ first) := by
  induction left generalizing right with
  | nil => exact .inl ⟨right, rfl, same⟩
  | cons content left ih =>
      cases right with
      | nil => exact .inr ⟨content :: left, rfl, same.symm⟩
      | cons other right =>
          rw [frames_cons, frames_cons, List.append_assoc,
            List.append_assoc] at same
          obtain ⟨rfl, rest⟩ := frame_append_inj
            (leftFits content List.mem_cons_self)
            (rightFits other List.mem_cons_self) same
          have later := ih
            (fun entry member => leftFits entry (List.mem_cons_of_mem _ member))
            (fun entry member =>
              rightFits entry (List.mem_cons_of_mem _ member)) rest
          rcases later with ⟨more, rfl, split⟩ | ⟨more, rfl, split⟩
          · exact .inl ⟨more, rfl, split⟩
          · exact .inr ⟨more, rfl, split⟩

theorem not_incomplete_frames_cons {content : Bytes} (contents : List Bytes)
    (rest : Bytes) (fits : Framable width content) :
    ¬ Incomplete width (frames width (content :: contents) ++ rest) := by
  intro incomplete
  apply incomplete content (frames width contents ++ rest) fits
  rw [frames_cons, List.append_assoc]

/-- A reading that has come to an incomplete frame is as long as possible. -/
theorem frames_incomplete
    (leftFits : ∀ content ∈ left, Framable width content)
    (rightFits : ∀ content ∈ right, Framable width content)
    (incomplete : Incomplete width first)
    (same : frames width left ++ (first ++ second) = frames width right) :
    ∃ more, right = left ++ more ∧
      first ++ second = frames width more := by
  rw [← List.append_nil (frames width right)] at same
  rcases frames_append_eq leftFits rightFits same with
    ⟨more, split, rest⟩ | ⟨more, split, rest⟩
  · rw [List.append_nil] at rest
    exact ⟨more, split, rest⟩
  · cases more with
    | nil =>
        rw [frames_nil, List.nil_append] at rest
        rw [List.append_nil] at split
        exact ⟨[], by rw [split, List.append_nil], rest.symm⟩
    | cons content more =>
        obtain ⟨nothing, both⟩ := List.append_eq_nil_iff.mp rest.symm
        obtain ⟨empty, _⟩ := List.append_eq_nil_iff.mp both
        have fits : Framable width content := by
          apply leftFits
          rw [split]
          exact List.mem_append_right _ List.mem_cons_self
        have contradiction := not_incomplete_frames_cons more [] fits
        rw [nothing, List.append_nil, ← empty] at contradiction
        exact absurd incomplete contradiction

/-- Bytes that are too short for their own length. -/
theorem incomplete_of_length_lt {bytes : Bytes} (short : bytes.length < width) :
    Incomplete width bytes := by
  rintro content rest _ rfl
  rw [List.length_append, length_frame] at short
  omega

theorem incomplete_of_short_content {length : Nat} {bytes : Bytes}
    (fits : length < 256 ^ width) (short : bytes.length < length) :
    Incomplete width (toBigEndian width length ++ bytes) := by
  intro content rest contentFits same
  obtain ⟨lengths, bodies⟩ := length_frame_inj fits contentFits same
  rw [bodies, List.length_append] at short
  omega

end Frames

end CallingService.Foundation
