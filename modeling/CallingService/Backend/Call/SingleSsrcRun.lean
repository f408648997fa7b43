import CallingService.Backend.Call.Forwarding
import CallingService.Backend.Rtp.Endpoint
import CallingService.Foundation.Run

/-!
# Runs of the forwarder of one SSRC

The forwarder never jumps ahead by half a cycle of truncated numbers.  So a
receiver that sees the truncated numbers only and expands them in the order in
which they are forwarded keeps in step with the forwarder, unless a packet is
too far behind.
-/

namespace CallingService.Backend.SingleSsrcRtpForwarder

open Foundation Rtp

/-- One call of `forward_rtp` and its answer. -/
structure ForwardCall where
  incoming : FullSequenceNumber
  answer : Option FullSequenceNumber
deriving DecidableEq, Repr

def ForwardStep (before : SingleSsrcRtpForwarder) (call : ForwardCall)
    (after : SingleSsrcRtpForwarder) : Prop :=
  before.forwardRtp call.incoming = .ok (after, call.answer)

def ForwardCall.forwarded (ssrc : Ssrc) (call : ForwardCall) :
    List (Renumbered Ssrc) :=
  call.answer.toList.map fun outgoing => ⟨ssrc, call.incoming, outgoing⟩

/-- The numbers that have been forwarded, in order. -/
def outgoingOf (calls : List ForwardCall) : List FullSequenceNumber :=
  calls.filterMap ForwardCall.answer

/-- The largest of the numbers, and zero if there is none. -/
def highest (numbers : List FullSequenceNumber) : FullSequenceNumber :=
  numbers.foldl max 0

/-- A receiver that has expanded some numbers, and its maximum. -/
def expandNext (received : List FullSequenceNumber × FullSequenceNumber)
    (seqnum : TruncatedSequenceNumber) :
    List FullSequenceNumber × FullSequenceNumber :=
  let expansion := expandSeqnum seqnum received.2
  (received.1 ++ [expansion.1], expansion.2)

/-- What a receiver with the maximum zero makes of truncated numbers. -/
def expandInOrder (seqnums : List TruncatedSequenceNumber) :
    List FullSequenceNumber :=
  (seqnums.foldl expandNext ([], 0)).1

@[simp] theorem highest_snoc (numbers : List Nat) (number : Nat) :
    highest (numbers ++ [number]) = max (highest numbers) number := by
  simp [highest]

theorem outgoingOf_snoc (calls : List ForwardCall) (call : ForwardCall) :
    outgoingOf (calls ++ [call]) = outgoingOf calls ++ call.answer.toList := by
  unfold outgoingOf
  rw [List.filterMap_append]
  cases answer : call.answer with
  | none => simp [answer]
  | some outgoing => simp [answer]

/-! ## One step -/

theorem forwardRtp_near {forwarder after : SingleSsrcRtpForwarder}
    {incoming outgoing : Nat}
    (forwarded : forwarder.forwardRtp incoming = .ok (after, some outgoing)) :
    outgoing < 2 ^ 64 ∧ outgoing ≤ forwarder.maxOutgoing + 32767 := by
  unfold forwardRtp at forwarded
  split at forwarded
  · cases forwarded
  · rename_i shifted isShifted
    obtain ⟨distance, _, added⟩ := Option.bind_eq_some_iff.mp isShifted
    split_ifs at forwarded with overflows jumps
    · -- A reset is two above the maximum.
      unfold reset at forwarded
      split at forwarded
      · cases forwarded
      · rename_i sum checked
        cases forwarded
        have isSum := checkedAddU64_eq_some checked
        have room := Nat.lt_of_not_le overflows
        unfold halfCycle at room
        omega
    · cases forwarded
      have noJump := Nat.le_of_not_lt jumps
      unfold halfCycle at noJump
      unfold checkedAddU64 at added
      split at added
      · cases added
        omega
      · cases added

theorem maxOutgoing_forwardRtp {forwarder after : SingleSsrcRtpForwarder}
    {incoming : Nat} {answer : Option Nat}
    (forwarded : forwarder.forwardRtp incoming = .ok (after, answer)) :
    after.maxOutgoing =
      answer.toList.foldl max forwarder.maxOutgoing := by
  rcases forwardRtp_cases forwarded with
    ⟨rfl, rfl⟩ | ⟨rfl, rfl⟩ | ⟨outgoing, rfl, _, _, rfl⟩
  · rfl
  · simp
  · rfl

/-- Expanding a number that is near the maximum recovers it. -/
theorem expandNext_near {received : List Nat} {largest outgoing : Nat}
    (small : outgoing < 2 ^ 64) (notAhead : outgoing ≤ largest + 32767)
    (notBehind : largest ≤ outgoing + 32767) :
    expandNext (received, largest) (Nat.toUInt16 outgoing) =
      (received ++ [outgoing], max largest outgoing) := by
  have truncated : (Nat.toUInt16 outgoing).toNat = outgoing % 2 ^ 16 := by simp
  have recovered := @expandTruncatedCounter_of_near outgoing largest 16
    (by omega) small (by omega) (by omega)
  unfold expandNext expandSeqnum
  rw [truncated, recovered]

/-! ## Whole runs -/

variable {calls : List ForwardCall} {finish : SingleSsrcRtpForwarder}

theorem maxOutgoing_of_run (run : Run ForwardStep default calls finish) :
    finish.maxOutgoing = highest (outgoingOf calls) := by
  apply run.history_invariant
  · rfl
  · intro past call before after ih step
    rw [maxOutgoing_forwardRtp step, outgoingOf_snoc, ih]
    unfold highest
    rw [List.foldl_append]

theorem outgoing_near_of_run (run : Run ForwardStep default calls finish) :
    Throughout (fun earlier outgoing =>
        outgoing < 2 ^ 64 ∧ outgoing ≤ highest earlier + 32767)
      (outgoingOf calls) := by
  induction run with
  | nil => exact throughout_nil
  | @snoc past call before after earlier step ih =>
      rw [outgoingOf_snoc]
      cases answer : call.answer with
      | none => simpa [answer] using ih
      | some outgoing =>
          have near : before.forwardRtp call.incoming =
              .ok (after, some outgoing) := answer ▸ step
          rw [Option.toList_some, throughout_snoc,
            ← maxOutgoing_of_run earlier]
          exact ⟨ih, forwardRtp_near near⟩

theorem tracks_of_run (ssrc : Ssrc)
    (run : Run ForwardStep default calls finish) :
    Tracks (finish.renumbering ssrc)
      (calls.flatMap (ForwardCall.forwarded ssrc)) := by
  apply run.history_invariant
  · exact Tracks.nil _
  · intro past call before after ih step
    have forwarded := (forwardRtp_renumbers ssrc step).tracks ih
    simpa [ForwardCall.forwarded] using forwarded

/-- The receiver keeps in step while no number is too far behind. -/
theorem expansion_of_near (numbers : List Nat)
    (near : Throughout (fun earlier outgoing =>
      outgoing < 2 ^ 64 ∧ outgoing ≤ highest earlier + 32767) numbers)
    (notBehind : Throughout (fun earlier outgoing =>
      highest earlier ≤ outgoing + 32767) numbers) :
    (numbers.map Nat.toUInt16).foldl expandNext ([], 0) =
      (numbers, highest numbers) := by
  induction numbers using List.reverseRecOn with
  | nil => rfl
  | append_singleton earlier outgoing ih =>
      obtain ⟨nearEarlier, small, notAhead⟩ := throughout_snoc.mp near
      obtain ⟨behindEarlier, behindLast⟩ := throughout_snoc.mp notBehind
      rw [List.map_append, List.foldl_append, ih nearEarlier behindEarlier,
        highest_snoc]
      exact expandNext_near small notAhead behindLast

theorem forwarder_in_step_with_receiver
    (run : Run ForwardStep default calls finish) :
    (∀ first ∈ calls, ∀ second ∈ calls, ∀ outgoing,
      first.answer = some outgoing → second.answer = some outgoing →
        first.incoming = second.incoming) ∧
    Throughout (fun earlier outgoing =>
      outgoing ≤ highest earlier + 32767) (outgoingOf calls) ∧
    (Throughout (fun earlier outgoing =>
        highest earlier ≤ outgoing + 32767) (outgoingOf calls) →
      expandInOrder ((outgoingOf calls).map Nat.toUInt16) =
        outgoingOf calls) := by
  have near := outgoing_near_of_run run
  refine ⟨?_, ?_, ?_⟩
  · intro first isFirst second isSecond outgoing firstSent secondSent
    have logged : ∀ call ∈ calls, call.answer = some outgoing →
        (⟨0, call.incoming, outgoing⟩ : Renumbered Ssrc) ∈
          calls.flatMap (ForwardCall.forwarded 0) := by
      intro call isCall sent
      apply List.mem_flatMap.mpr
      exact ⟨call, isCall, by simp [ForwardCall.forwarded, sent]⟩
    have same := (tracks_of_run 0 run).faithful _
      (logged first isFirst firstSent) _ (logged second isSecond secondSent) rfl
    exact same.2
  · intro earlier outgoing later split
    exact (near earlier outgoing later split).2
  · intro notBehind
    unfold expandInOrder
    rw [expansion_of_near _ near notBehind]

/-- A long silence resets the offset; what was sent before it comes too
late. -/
theorem forwarder_in_step_with_receiver_after_silence :
    expandInOrder ([1, 2, 4, 5].map Nat.toUInt16) = [1, 2, 4, 5] := by
  have run : Run ForwardStep default
      [⟨1, some 1⟩, ⟨2, some 2⟩, ⟨70000, some 4⟩, ⟨3, none⟩, ⟨70001, some 5⟩]
      ⟨70000, 4, 5⟩ := by
    have first : ForwardStep default ⟨1, some 1⟩ ⟨0, 0, 1⟩ := by
      simp [ForwardStep, forwardRtp, shifted, checkedSubU64, checkedAddU64,
        halfCycle, default]
    have second : ForwardStep ⟨0, 0, 1⟩ ⟨2, some 2⟩ ⟨0, 0, 2⟩ := by
      simp [ForwardStep, forwardRtp, shifted, checkedSubU64, checkedAddU64,
        halfCycle]
    have reset : ForwardStep ⟨0, 0, 2⟩ ⟨70000, some 4⟩ ⟨70000, 4, 4⟩ := by
      simp [ForwardStep, forwardRtp, shifted, SingleSsrcRtpForwarder.reset,
        checkedSubU64, checkedAddU64, halfCycle]
    have late : ForwardStep ⟨70000, 4, 4⟩ ⟨3, none⟩ ⟨70000, 4, 4⟩ := by
      simp [ForwardStep, forwardRtp, shifted, checkedSubU64]
    have next : ForwardStep ⟨70000, 4, 4⟩ ⟨70001, some 5⟩ ⟨70000, 4, 5⟩ := by
      simp [ForwardStep, forwardRtp, shifted, checkedSubU64, checkedAddU64,
        halfCycle]
    exact .snoc (.snoc (.snoc (.snoc (.snoc .nil first) second) reset) late)
      next
  have near : Throughout (fun earlier outgoing =>
      highest earlier ≤ outgoing + 32767) [1, 2, 4, 5] := by
    have empty : Throughout (fun earlier outgoing =>
      highest earlier ≤ outgoing + 32767) [] := throughout_nil
    exact throughout_snoc.mpr ⟨throughout_snoc.mpr ⟨throughout_snoc.mpr
      ⟨throughout_snoc.mpr ⟨empty, by decide⟩, by decide⟩, by decide⟩,
      by decide⟩
  exact (forwarder_in_step_with_receiver run).2.2 near

end CallingService.Backend.SingleSsrcRtpForwarder
