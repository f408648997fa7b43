import CallingService.Foundation.Issue
import CallingService.Foundation.SortedMap
import CallingService.Common.TwoGenerationCache

/-!
# Transport-wide congestion control

The numbering of outgoing packets and the arrival times of incoming ones.
-/

namespace CallingService.Backend.Tcc

open Foundation

/-- Sizes are in bits. -/
structure Sender where
  nextSendSeqnum : Nat
  maxReceivedSeqnum : Nat
  sizeBySeqnum : TwoGenerationCache Nat (Nat × Instant)

namespace Sender

def new (now : Instant) : Sender where
  nextSendSeqnum := 1
  maxReceivedSeqnum := 0
  sizeBySeqnum := .new (fromSecs 10) now

def incrementSeqnum (sender : Sender) : Except Panic (Sender × Nat) := do
  let next ← incrementU64 sender.nextSendSeqnum
  return ({ sender with nextSendSeqnum := next }, sender.nextSendSeqnum)

def rememberSent (sender : Sender) (seqnum : Nat) (size : Nat)
    (now : Instant) : Sender :=
  { sender with
    sizeBySeqnum := sender.sizeBySeqnum.insert seqnum (size, now) now }

theorem incrementSeqnum_eq_ok {before after : Sender} {seqnum : Nat}
    (incremented : before.incrementSeqnum = .ok (after, seqnum)) :
    seqnum = before.nextSendSeqnum ∧
      after = { before with nextSendSeqnum := seqnum + 1 } := by
  obtain ⟨next, advanced, returned⟩ := bind_eq_ok_iff.mp incremented
  cases returned
  rw [incrementU64_eq_ok advanced]
  exact ⟨rfl, rfl⟩

/-- The only counter of a sender. -/
def counter (sender : Sender) : Unit → Nat := fun _ => sender.nextSendSeqnum

theorem incrementSeqnum_issued {before after : Sender} {seqnum : Nat}
    (incremented : before.incrementSeqnum = .ok (after, seqnum)) :
    Issued before.counter [((), seqnum)] after.counter := by
  obtain ⟨rfl, rfl⟩ := incrementSeqnum_eq_ok incremented
  have moved : ({ before with
      nextSendSeqnum := before.nextSendSeqnum + 1 } : Sender).counter =
        Function.update before.counter () (before.counter () + 1) := by
    funext key
    cases key
    rw [Function.update_self]
    rfl
  rw [moved]
  exact Issued.single before.counter ()

end Sender

structure Receiver where
  ssrc : UInt32
  epoch : Instant
  nextFeedbackSeqnum : UInt8
  unackedArrivalBySeqnum : SortedMap Nat Instant

namespace Receiver

def new (ssrc : UInt32) (epoch : Instant) : Receiver where
  ssrc := ssrc
  epoch := epoch
  nextFeedbackSeqnum := 1
  unackedArrivalBySeqnum := .empty

/-- A number that arrives again keeps its first time. -/
def rememberReceived (receiver : Receiver) (seqnum : Nat)
    (arrival : Instant) : Receiver :=
  if receiver.unackedArrivalBySeqnum.contains seqnum then receiver
  else { receiver with
    unackedArrivalBySeqnum :=
      receiver.unackedArrivalBySeqnum.insert seqnum arrival }

end Receiver

end CallingService.Backend.Tcc
