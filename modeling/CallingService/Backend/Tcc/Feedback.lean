import CallingService.Backend.Tcc.StatusChunks
import CallingService.Backend.TransportCc
import CallingService.Common.Counters
import CallingService.Foundation.BigEndian

/-!
# Feedback payloads

A receiver of numbered packets tells their sender when they arrived: a range
of sequence numbers, the status of each, and the differences between the
arrival times.
-/

namespace CallingService.Backend.Tcc

open Foundation

/-! ## Ticks -/

def microsPerReferenceTick : Nat := 250 <<< 8

def microsPerDeltaTick : Nat := 250

/-- `as_micros`, cut to 64 bits. -/
def asMicros (duration : Duration) : Nat := duration / 1000 % 2 ^ 64

def fromMicros (micros : Nat) : Duration := micros * 1000

def ticksFromDuration (duration : Duration) (microsPerTick : Nat) : Nat :=
  asMicros duration / microsPerTick

def durationFromTicks (ticks microsPerTick : Nat) : Duration :=
  fromMicros (ticks * microsPerTick)

def ticksFromBeforeAndAfter (before after : Instant) (microsPerTick : Nat) :
    Int :=
  if before < after then ticksFromDuration (after - before) microsPerTick
  else -(ticksFromDuration (before - after) microsPerTick : Int)

/-! ## Writing -/

/-- The status and the bytes of a delta that fits into two bytes. -/
def encodeDelta (deltaTicks : Int) : Option (PacketStatus × Bytes) :=
  if 0 ≤ deltaTicks ∧ deltaTicks ≤ 255 then
    some (.receivedSmallDelta, toBigEndian 1 deltaTicks.toNat)
  else if -32768 ≤ deltaTicks ∧ deltaTicks ≤ 32767 then
    some (.receivedLargeOrNegativeDelta,
      toBigEndian 2 (deltaTicks % 65536).toNat)
  else none

/-- A payload that is being filled. -/
structure FeedbackPacket where
  prevSeqnum : Nat
  prevArrival : Instant
  encodedReceiveDeltas : Bytes
  statusChunks : List PacketStatusChunk

namespace FeedbackPacket

def size (packet : FeedbackPacket) : Nat :=
  packet.encodedReceiveDeltas.length + 2 * packet.statusChunks.length

/-- The numbers before the next arrival have not been received. -/
def skipTo (packet : FeedbackPacket) (seqnum : Nat) : FeedbackPacket :=
  { packet with
    statusChunks :=
      (List.replicate (seqnum - (packet.prevSeqnum + 1))
        PacketStatus.notReceived).foldl pushStatus packet.statusChunks }

def consume (packet : FeedbackPacket) (arrival : Nat × Instant)
    (status : PacketStatus) (delta : Bytes) : FeedbackPacket where
  prevSeqnum := arrival.1
  prevArrival := arrival.2
  encodedReceiveDeltas := packet.encodedReceiveDeltas ++ delta
  statusChunks := pushStatus packet.statusChunks status

/-- Fill the payload until an arrival does not fit; the arrivals from there on
are left. -/
def fill (limit : Nat) : FeedbackPacket → List (Nat × Instant) →
    FeedbackPacket × List (Nat × Instant)
  | packet, [] => (packet, [])
  | packet, arrival :: rest =>
      if limit < arrival.1 then (packet, arrival :: rest)
      else if 1100 < packet.size then (packet, arrival :: rest)
      else
        let skipped := packet.skipTo arrival.1
        match encodeDelta (ticksFromBeforeAndAfter packet.prevArrival
            arrival.2 microsPerDeltaTick) with
        | some (status, delta) =>
            fill limit (skipped.consume arrival status delta) rest
        | none => (skipped, arrival :: rest)

end FeedbackPacket

/-- The state of the iterator that `write_feedback` returns. -/
structure FeedbackWriter where
  ssrc : UInt32
  nextFeedbackSeqnum : UInt8
  epoch : Instant
  arrivals : List (Nat × Instant)

namespace FeedbackWriter

def referenceTimeTicks (writer : FeedbackWriter) (firstArrival : Instant) :
    Nat :=
  ticksFromDuration (firstArrival - writer.epoch) microsPerReferenceTick

/-- The payload before its first arrival. -/
def start (writer : FeedbackWriter) (first : Nat × Instant) :
    FeedbackPacket where
  prevSeqnum := first.1
  prevArrival := writer.epoch +
    durationFromTicks (writer.referenceTimeTicks first.2)
      microsPerReferenceTick
  encodedReceiveDeltas := []
  statusChunks := []

def payload (writer : FeedbackWriter) (first : Nat × Instant)
    (packet : FeedbackPacket) : Bytes :=
  toBigEndian 4 writer.ssrc.toNat ++
    (toBigEndian 2 first.1 ++
      (toBigEndian 2 (packet.prevSeqnum - first.1 + 1) ++
        (toBigEndian 3 (writer.referenceTimeTicks first.2) ++
          (toBigEndian 1 writer.nextFeedbackSeqnum.toNat ++
            (packet.statusChunks.flatMap (fun chunk =>
                toBigEndian 2 chunk.as16) ++
              packet.encodedReceiveDeltas)))))

/-- The next payload, and the iterator after it. -/
def next (profile : BuildProfile) (writer : FeedbackWriter) :
    Except Panic (Option (Bytes × FeedbackWriter)) :=
  match writer.arrivals with
  | [] => .ok none
  | first :: rest => do
      let limit ← profile.addU64 first.1 65535
      let filled := (writer.start first).fill limit (first :: rest)
      return some (writer.payload first filled.1,
        { writer with
          nextFeedbackSeqnum := writer.nextFeedbackSeqnum + 1
          arrivals := filled.2 })

end FeedbackWriter

/-- `write_feedback`. -/
def writeFeedback (ssrc : UInt32) (nextFeedbackSeqnum : UInt8)
    (epoch : Instant) (arrivals : List (Nat × Instant)) : FeedbackWriter :=
  ⟨ssrc, nextFeedbackSeqnum, epoch, arrivals⟩

/-- The writer of the acknowledgements, and the receiver without them. -/
def Receiver.sendAcks (receiver : Receiver) : FeedbackWriter × Receiver :=
  (writeFeedback receiver.ssrc receiver.nextFeedbackSeqnum receiver.epoch
      receiver.unackedArrivalBySeqnum.entries,
    { receiver with unackedArrivalBySeqnum := .empty })

/-! ## Reading -/

/-- A time of the other side, since an epoch of its choice. -/
abbrev RemoteInstant := Duration

def readStatusChunks (statusCount sum : Nat) (payload : Bytes) :
    Option (List PacketStatusChunk × Bytes) :=
  if sum < statusCount then
    match payload with
    | high :: low :: rest => do
        let chunk ← PacketStatusChunk.fromU16 (fromBigEndian [high, low])
        let chunks ← readStatusChunks statusCount (sum + chunk.len) rest
        return (chunk :: chunks.1, chunks.2)
    | _ => none
  else some ([], payload)

/-- The 16-bit word as a signed number. -/
def toI16 (word : Nat) : Int :=
  if word < 32768 then word else (word : Int) - 65536

def readDelta (status : PacketStatus) (payload : Bytes) :
    Option (Option Int × Bytes) :=
  match status with
  | .notReceived => some (none, payload)
  | .receivedSmallDelta =>
      (readBigEndian 1 payload).map fun read => (some read.1, read.2)
  | .receivedLargeOrNegativeDelta =>
      (readBigEndian 2 payload).map fun read => (some (toI16 read.1), read.2)

/-- A negative value wraps around. -/
def arrivalMicros (referenceTimeTicks : Nat) (sumDeltaTicks : Int) : Nat :=
  ((microsPerReferenceTick * referenceTimeTicks +
    microsPerDeltaTick * sumDeltaTicks) % 2 ^ 64 : Int).toNat

def readArrivals (referenceTimeTicks : Nat) : Nat → Int →
    List (Option PacketStatus) → Bytes →
      Option (List (Nat × RemoteInstant))
  | _, _, [], _ => some []
  | seqnum, sum, status :: rest, payload => do
      let read ← readDelta (← status) payload
      match read.1 with
      | none => readArrivals referenceTimeTicks (seqnum + 1) sum rest read.2
      | some deltaTicks =>
          let arrivals ← readArrivals referenceTimeTicks (seqnum + 1)
            (sum + deltaTicks) rest read.2
          return (seqnum, fromMicros (arrivalMicros referenceTimeTicks
            (sum + deltaTicks))) :: arrivals

/-- A payload after its SSRC and its base number; the deltas are unread. -/
structure FeedbackStatuses where
  statusCount : Nat
  referenceTimeTicks : Nat
  feedbackSeqnum : Nat
  statusChunks : List PacketStatusChunk
  deltas : Bytes

def readStatuses (payload : Bytes) : Option FeedbackStatuses := do
  let statusCount ← readBigEndian 2 payload
  let referenceTimeTicks ← readBigEndian 3 statusCount.2
  let feedbackSeqnum ← readBigEndian 1 referenceTimeTicks.2
  let statusChunks ← readStatusChunks statusCount.1 0 feedbackSeqnum.2
  return {
    statusCount := statusCount.1
    referenceTimeTicks := referenceTimeTicks.1
    feedbackSeqnum := feedbackSeqnum.1
    statusChunks := statusChunks.1
    deltas := statusChunks.2
  }

/-- The arrivals from the base number on. -/
def readAllArrivals (profile : BuildProfile) (baseSeqnum : Nat)
    (read : FeedbackStatuses) :
    Except Panic (Option (Nat × List (Nat × RemoteInstant))) := do
  let finish ← profile.addU64 baseSeqnum read.statusCount
  let statuses := (read.statusChunks.flatMap PacketStatusChunk.statuses).take
    (finish - baseSeqnum)
  return (readArrivals read.referenceTimeTicks baseSeqnum 0 statuses
    read.deltas).map fun arrivals => (read.feedbackSeqnum, arrivals)

/-- What was read, and the largest number so far, which moves as soon as the
base number has been read. -/
def readFeedback (profile : BuildProfile) (payload : Bytes)
    (maxSeqnum : Nat) :
    Except Panic (Option (Nat × List (Nat × RemoteInstant)) × Nat) :=
  match readBigEndian 4 payload with
  | none => .ok (none, maxSeqnum)
  | some (_, afterSsrc) =>
      match readBigEndian 2 afterSsrc with
      | none => .ok (none, maxSeqnum)
      | some (baseSeqnum, afterBase) =>
          let expansion := expandTruncatedCounter baseSeqnum maxSeqnum 16
          match readStatuses afterBase with
          | none => .ok (none, expansion.2)
          | some read => do
              let arrivals ← readAllArrivals profile expansion.1 read
              return (arrivals, expansion.2)

/-! ## Acknowledgements -/

structure Ack where
  size : Nat
  departure : Instant
  arrival : RemoteInstant
  feedbackArrival : Instant
deriving DecidableEq, Repr

namespace Sender

/-- Correlate the arrivals of one payload with what has been sent. -/
def correlateAcks (feedbackArrival : Instant) :
    List (Nat × RemoteInstant) → Sender → Sender × List Ack
  | [], sender => (sender, [])
  | (seqnum, arrival) :: rest, sender =>
      let removed := sender.sizeBySeqnum.remove seqnum
      let correlated := correlateAcks feedbackArrival rest
        { sender with sizeBySeqnum := removed.1 }
      match removed.2 with
      | some (size, departure) =>
          (correlated.1,
            ⟨size, departure, arrival, feedbackArrival⟩ :: correlated.2)
      | none => correlated

/-- Payloads that cannot be read are skipped. -/
def processFeedbackAndCorrelateAcks (profile : BuildProfile)
    (feedbackArrival : Instant) :
    List Bytes → Sender → Except Panic (Sender × List Ack)
  | [], sender => .ok (sender, [])
  | feedback :: rest, sender => do
      let read ← readFeedback profile feedback sender.maxReceivedSeqnum
      let moved := { sender with maxReceivedSeqnum := read.2 }
      let correlated := match read.1 with
        | some (_, arrivals) => moved.correlateAcks feedbackArrival arrivals
        | none => (moved, [])
      let others ← processFeedbackAndCorrelateAcks profile feedbackArrival rest
        correlated.1
      return (others.1, correlated.2 ++ others.2)

end Sender

end CallingService.Backend.Tcc
