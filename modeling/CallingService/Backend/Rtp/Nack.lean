import CallingService.Common.KeySortedCache
import CallingService.Common.TwoGenerationCache
import CallingService.Backend.Rtp.Srtp

/-!
# Negative acknowledgements

`NackSender` keeps the sequence numbers that were skipped by the largest one
received so far.
-/

namespace CallingService.Backend.Rtp

open Foundation

def maxNackRetryCount : Nat := 10

/-- A missing number is kept with the times of its first and last request and
their count, once there has been one. -/
structure NackSender where
  limit : Nat
  sentBySeqnum :
    KeySortedCache FullSequenceNumber (Option (Instant × Instant × Nat))
  maxReceived : Option FullSequenceNumber

namespace NackSender

def new (limit : Nat) : NackSender where
  limit := limit
  sentBySeqnum := .new limit
  maxReceived := none

/-- The numbers from `start` up to but not including `finish`. -/
def seqnumRange (start finish : FullSequenceNumber) :
    List FullSequenceNumber :=
  (List.range (finish - start)).map (start + ·)

def rememberReceived (sender : NackSender) (seqnum : FullSequenceNumber) :
    NackSender :=
  match sender.maxReceived with
  | none => { sender with maxReceived := some seqnum }
  | some maxReceived =>
      if seqnum = maxReceived then sender
      else if seqnum < maxReceived then
        { sender with sentBySeqnum := sender.sentBySeqnum.remove seqnum }
      else
        let start := min (maxReceived + 1) (2 ^ 64 - 1)
        let tooMany := sender.limit < seqnum - start
        -- all older entries would be pushed out by the new ones
        let kept := if tooMany then .new sender.limit else sender.sentBySeqnum
        let missing := if tooMany then seqnumRange (seqnum - sender.limit) seqnum
          else seqnumRange start seqnum
        { sender with
          maxReceived := some seqnum
          sentBySeqnum :=
            missing.foldl (fun cache number => cache.insert number none) kept }

/-- What `send_nacks` makes of one entry, and whether it asks for its number
now.  Expired entries are dropped. -/
def askAgain (now : Instant) (rtt : Duration) :
    Option (Instant × Instant × Nat) →
      Option (Option (Instant × Instant × Nat) × Bool)
  | none => some (some (now, now, 1), true)
  | some (firstSent, lastSent, retryCount) =>
      if fromSecs 3 ≤ now - firstSent ∨ maxNackRetryCount ≤ retryCount then
        none
      else if rtt ≤ now - lastSent then
        some (some (firstSent, now, retryCount + 1), true)
      else some (some (firstSent, lastSent, retryCount), false)

/-- The numbers of the entries that were last sent at this time. -/
def sentAt (now : Instant) :
    List (FullSequenceNumber × Option (Instant × Instant × Nat)) →
      Except Panic (List FullSequenceNumber)
  | [] => .ok []
  | (_, none) :: _ => .error .unwrapNone
  | (seqnum, some (_, lastSent, _)) :: rest => do
      let seqnums ← sentAt now rest
      return if now = lastSent then seqnum :: seqnums else seqnums

def sendNacks (sender : NackSender) (now : Instant) (rtt : Duration) :
    Except Panic (NackSender × Option (List FullSequenceNumber)) := do
  let sendAny := sender.sentBySeqnum.valueByKey.entries.any fun entry =>
    ((askAgain now rtt entry.2).map Prod.snd).getD false
  let kept := sender.sentBySeqnum.retain fun _ sent =>
    (askAgain now rtt sent).map Prod.fst
  let seqnums ← if sendAny then
      (sentAt now kept.valueByKey.entries).map some
    else .ok none
  return ({ sender with sentBySeqnum := kept }, seqnums)

end NackSender

/-! ## The payload -/

/-- The items after the first number of one; a mask covers the sixteen numbers
that follow it. -/
def nackItems (firstSeqnum : FullSequenceNumber) (mask : UInt16) :
    List FullSequenceNumber → List (TruncatedSequenceNumber × UInt16)
  | [] => [(firstSeqnum.toUInt16, mask)]
  | seqnum :: rest =>
      let diff := seqnum - firstSeqnum
      if 1 ≤ diff ∧ diff ≤ 16 then
        nackItems firstSeqnum (mask ||| 1 <<< (diff - 1).toUInt16) rest
      else (firstSeqnum.toUInt16, mask) :: nackItems seqnum 0 rest

def writeNack (ssrc : Ssrc) (seqnums : List FullSequenceNumber) : Bytes :=
  let items := match seqnums with
    | [] => []
    | firstSeqnum :: rest => nackItems firstSeqnum 0 rest
  toBigEndian 4 ssrc.toNat ++ items.flatMap fun item =>
    toBigEndian 2 item.1.toNat ++ toBigEndian 2 item.2.toNat

end CallingService.Backend.Rtp
