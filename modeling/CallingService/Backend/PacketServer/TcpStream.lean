import CallingService.Backend.Connection

/-!
# Packets over TCP

A TCP stream carries packets after their lengths.  A write may stop anywhere:
what is left of a packet that has been begun waits in the queue, and a packet
that has not been begun is dropped.  Reads are resumed where they stopped.
-/

namespace CallingService.Backend

open Foundation Rtp

def maxRtpLength : Nat := 1500

inductive IoErrorKind where
  | wouldBlock
  | timedOut
  | interrupted
  | invalidData
  | other
deriving DecidableEq, Repr

/-- What has gone through a stream, in either direction. -/
structure SocketStream where
  received : Bytes
  written : Bytes
deriving DecidableEq

/-- The bytes that are ready when the stream is read, or a failure. -/
inductive ReadOutcome where
  | ready (bytes : Bytes)
  | failed (kind : IoErrorKind)

/-- How many bytes the stream is willing to take, or a failure. -/
inductive WriteOutcome where
  | accepts (count : Nat)
  | failed (kind : IoErrorKind)

namespace SocketStream

/-- A read returns at most the requested number of bytes. -/
def read (stream : SocketStream) (requested : Nat) (outcome : ReadOutcome) :
    SocketStream × Except IoErrorKind Bytes :=
  match outcome with
  | .failed kind => (stream, .error kind)
  | .ready bytes =>
      ({ stream with received := stream.received ++ bytes.take requested },
        .ok (bytes.take requested))

/-- A write takes a prefix of what is offered. -/
def writeVectored (stream : SocketStream) (offered : Bytes)
    (outcome : WriteOutcome) : SocketStream × Except IoErrorKind Nat :=
  match outcome with
  | .failed kind => (stream, .error kind)
  | .accepts count =>
      ({ stream with written := stream.written ++ offered.take count },
        .ok (min count offered.length))

end SocketStream

structure TcpState where
  stream : SocketStream
  size : Nat
  pos : Nat
  buf : Bytes
  outq : Bytes
  id : Int
  isIpv6 : Bool
  isTls : Bool
deriving DecidableEq

namespace TcpState

/-- The state that `Socket::new_tcp` creates. -/
def new (id : Int) (isIpv6 isTls : Bool) : TcpState where
  stream := ⟨[], []⟩
  size := 0
  pos := 0
  buf := List.replicate maxRtpLength 0
  outq := []
  id := id
  isIpv6 := isIpv6
  isTls := isTls

/-! ## Receiving -/

/-- Read into the buffer between the position and the end. -/
def readInto (state : TcpState) (finish : Nat) (outcome : ReadOutcome) :
    Except Panic (TcpState × Except IoErrorKind Unit) := do
  ensure (state.pos ≤ finish ∧ finish ≤ state.buf.length) Panic.outOfBounds
  match state.stream.read (finish - state.pos) outcome with
  | (stream, .error kind) => return ({ state with stream }, .error kind)
  | (stream, .ok read) =>
      if read = [] then return ({ state with stream }, .error .invalidData)
      else
        return ({ state with
          stream
          buf := state.buf.take state.pos ++ read ++
            state.buf.drop (state.pos + read.length)
          pos := state.pos + read.length }, .ok ())

/-- The two bytes of the length. -/
def readLength (state : TcpState) (outcome : ReadOutcome) :
    Except Panic (TcpState × Except IoErrorKind Unit) := do
  let (advanced, result) ← state.readInto 2 outcome
  match result with
  | .error kind => return (advanced, .error kind)
  | .ok () =>
      if advanced.pos < 2 then return (advanced, .ok ())
      else if advanced.pos = 2 then
        return ({ advanced with
          size := fromBigEndian (advanced.buf.take 2)
          pos := 0 }, .ok ())
      else return (advanced, .error .invalidData)

/-- The part of `recv_from` after the length. -/
def readContent (state : TcpState) (outcome : ReadOutcome) :
    Except Panic (TcpState × Except IoErrorKind (Bytes × SocketLocator)) :=
  if maxRtpLength < state.size then .ok (state, .error .invalidData)
  else if state.size = 0 then .ok (state, .error .wouldBlock)
  else do
    let (advanced, result) ← state.readInto state.size outcome
    match result with
    | .error kind => return (advanced, .error kind)
    | .ok () =>
        if advanced.pos = advanced.size then
          return ({ advanced with size := 0, pos := 0 },
            .ok (advanced.buf.take advanced.pos,
              .tcp state.id state.isIpv6 state.isTls))
        else return (advanced, .error .wouldBlock)

/-- The outcomes are those of a read of the length and of a read of the
content, for as far as these are made. -/
def recvFrom (state : TcpState) (length content : ReadOutcome) :
    Except Panic (TcpState × Except IoErrorKind (Bytes × SocketLocator)) :=
  if maxRtpLength < state.size then .ok (state, .error .invalidData)
  else if state.size = 0 then do
    let (advanced, result) ← state.readLength length
    match result with
    | .error kind => return (advanced, .error kind)
    | .ok () => advanced.readContent content
  else state.readContent content

/-! ## Sending -/

/-- The failures that are taken for a write of nothing. -/
def IoErrorKind.isBlocked (kind : IoErrorKind) : Bool :=
  kind = .timedOut || kind = .wouldBlock || kind = .interrupted

/-- Queue what is left of a packet of which `sent` bytes have been written,
the length included; `true` if it has been written completely. -/
def queueRest (state : TcpState) (size buf : Bytes) (sent : Nat) :
    TcpState × Bool :=
  if sent = 0 then (state, false)
  else if sent = 1 then
    ({ state with outq := state.outq ++ size.drop 1 ++ buf }, false)
  else if sent - 2 < buf.length then
    ({ state with outq := state.outq ++ buf.drop (sent - 2) }, false)
  else (state, true)

/-- What has been sent of the queue and of the packet after it. -/
def queueUnsent (state : TcpState) (size buf : Bytes) (sent : Nat) :
    TcpState × Bool :=
  if state.outq = [] then state.queueRest size buf sent
  else if sent = 0 then (state, false)
  else if sent < state.outq.length then
    ({ state with outq := state.outq.drop sent }, false)
  else { state with outq := [] }.queueRest size buf (sent - state.outq.length)

def send (state : TcpState) (buf : Bytes) (outcome : WriteOutcome) :
    TcpState × Except IoErrorKind Unit :=
  if buf = [] ∨ maxRtpLength < buf.length then (state, .error .invalidData)
  else
    let size := toBigEndian 2 buf.length
    let (stream, result) :=
      state.stream.writeVectored (state.outq ++ size ++ buf) outcome
    let written := { state with stream }
    match result with
    | .error kind =>
        -- nothing has been written, and a blocked packet is dropped
        (written, .error (if IoErrorKind.isBlocked kind then .wouldBlock
          else kind))
    | .ok sent =>
        let queued := written.queueUnsent size buf sent
        (queued.1, if queued.2 then .ok () else .error .wouldBlock)

end TcpState

end CallingService.Backend
