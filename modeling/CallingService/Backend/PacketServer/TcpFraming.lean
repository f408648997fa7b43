import CallingService.Backend.PacketServer.TcpStream
import CallingService.Foundation.Framing

/-!
# Whole frames on a TCP stream

Whatever a write takes, the stream and the queue together hold whole frames;
whatever a read returns, the frames that have been received are returned in
order.
-/

namespace CallingService.Backend

open Foundation Rtp

namespace TcpState

/-! ## Sending -/

/-- What is queued after a write of the queue and the next frame: a frame that
has not been begun is dropped. -/
def unsent (queue next : Bytes) (sent : Nat) : Bytes :=
  if sent ≤ queue.length then queue.drop sent
  else (queue ++ next).drop sent

variable {state : TcpState}

theorem queueRest_fst (empty : state.outq = []) {size buf : Bytes}
    (two : size.length = 2) (sent : Nat) :
    (state.queueRest size buf sent).1 =
      { state with outq := unsent [] (size ++ buf) sent } := by
  obtain ⟨stream, stateSize, pos, stateBuf, outq, id, isIpv6, isTls⟩ := state
  subst empty
  obtain ⟨high, low, rfl⟩ := List.length_eq_two.mp two
  by_cases nothing : sent = 0
  · subst nothing
    rfl
  · have begun : unsent [] ([high, low] ++ buf) sent =
        ([high, low] ++ buf).drop sent := by
      have positive : ¬ sent ≤ ([] : Bytes).length := by simpa using nothing
      unfold unsent
      rw [if_neg positive, List.nil_append]
    rw [begun]
    unfold queueRest
    rw [if_neg nothing]
    by_cases one : sent = 1
    · subst one
      rfl
    · rw [if_neg one]
      obtain ⟨more, rfl⟩ : ∃ more, sent = more + 2 := ⟨sent - 2, by omega⟩
      rw [Nat.add_sub_cancel]
      by_cases unfinished : more < buf.length
      · rw [if_pos unfinished]
        rfl
      · rw [if_neg unfinished]
        have finished : ([high, low] ++ buf).drop (more + 2) = [] := by
          apply List.drop_eq_nil_of_le
          simp
          omega
        rw [finished]

theorem queueUnsent_fst (state : TcpState) {size buf : Bytes}
    (two : size.length = 2) (sent : Nat) :
    (state.queueUnsent size buf sent).1 =
      { state with outq := unsent state.outq (size ++ buf) sent } := by
  unfold queueUnsent
  by_cases empty : state.outq = []
  · rw [if_pos empty, queueRest_fst empty two, empty]
  · rw [if_neg empty]
    by_cases nothing : sent = 0
    · subst nothing
      rw [if_pos rfl]
      rfl
    · rw [if_neg nothing]
      by_cases inQueue : sent < state.outq.length
      · rw [if_pos inQueue]
        unfold unsent
        rw [if_pos (Nat.le_of_lt inQueue)]
      · rw [if_neg inQueue, queueRest_fst rfl two]
        have same : unsent [] (size ++ buf) (sent - state.outq.length) =
            unsent state.outq (size ++ buf) sent := by
          by_cases atEnd : sent = state.outq.length
          · unfold unsent
            simp [atEnd]
          · have after : state.outq.length < sent := by omega
            have positive : ¬ sent - state.outq.length ≤ ([] : Bytes).length := by
              simp
              omega
            have skipped : (state.outq ++ (size ++ buf)).drop sent =
                (size ++ buf).drop (sent - state.outq.length) := by
              rw [List.drop_append, List.drop_eq_nil_of_le (Nat.le_of_lt after),
                List.nil_append]
            unfold unsent
            rw [if_neg positive, if_neg (Nat.not_le.mpr after), List.nil_append,
              skipped]
        rw [same]

/-- A send writes a part of the queue and of the next frame, and begins the
frame of a packet of a permitted size only. -/
structure SendEffect (before : TcpState) (packet : Bytes) (after : TcpState) :
    Prop where
  effect : ∃ sent, after = { before with
      stream := { before.stream with
        written := before.stream.written ++
          (before.outq ++ frame 2 packet).take sent }
      outq := unsent before.outq (frame 2 packet) sent } ∧
    (before.outq.length < sent → packet.length ≤ maxRtpLength)

theorem sendEffect_nothing (state : TcpState) (packet : Bytes) :
    SendEffect state packet state where
  effect := by
    refine ⟨0, ?_, fun impossible => absurd impossible (Nat.not_lt_zero _)⟩
    unfold unsent
    rw [if_pos (Nat.zero_le _), List.take_zero, List.append_nil,
      List.drop_zero]

theorem send_effect (state : TcpState) (packet : Bytes)
    (outcome : WriteOutcome) :
    SendEffect state packet (state.send packet outcome).1 := by
  unfold send
  by_cases refused : packet = [] ∨ maxRtpLength < packet.length
  · rw [if_pos refused]
    exact sendEffect_nothing state packet
  · rw [if_neg refused]
    cases outcome with
    | failed kind => exact sendEffect_nothing state packet
    | accepts count =>
        have small : packet.length ≤ maxRtpLength := by
          by_contra large
          exact refused (.inr (Nat.not_le.mp large))
        dsimp only [SocketStream.writeVectored]
        rw [queueUnsent_fst _ (length_toBigEndian 2 _), List.append_assoc,
          List.take_eq_take_min]
        exact ⟨_, rfl, fun _ => small⟩

/-! ### The frames that have been begun -/

/-- What is written and what is queued are the frames of some of the packets. -/
structure SendsFrames (packets : List Bytes) (state : TcpState) : Prop where
  whole : ∃ accepted, accepted.Sublist packets ∧
    state.stream.written ++ state.outq = frames 2 accepted
  short : state.outq.length ≤ maxRtpLength + 1

theorem sendsFrames_new (id : Int) (isIpv6 isTls : Bool) :
    SendsFrames [] (TcpState.new id isIpv6 isTls) where
  whole := ⟨[], .refl _, rfl⟩
  short := Nat.zero_le _

theorem SendsFrames.send {packets : List Bytes} {packet : Bytes}
    {before after : TcpState} (sends : SendsFrames packets before)
    (effect : SendEffect before packet after) :
    SendsFrames (packets ++ [packet]) after := by
  obtain ⟨accepted, sublist, whole⟩ := sends.whole
  obtain ⟨sent, rfl, small⟩ := effect.effect
  by_cases inQueue : sent ≤ before.outq.length
  · constructor
    · refine ⟨accepted, sublist.trans (List.sublist_append_left _ _), ?_⟩
      unfold unsent
      rw [if_pos inQueue, List.take_append_of_le_length inQueue,
        List.append_assoc, List.take_append_drop, whole]
    · unfold unsent
      rw [if_pos inQueue, List.length_drop]
      exact Nat.le_trans (Nat.sub_le _ _) sends.short
  · have begun : before.outq.length < sent := Nat.not_le.mp inQueue
    constructor
    · refine ⟨accepted ++ [packet], sublist.append_right [packet], ?_⟩
      unfold unsent
      rw [if_neg inQueue, List.append_assoc, List.take_append_drop,
        ← List.append_assoc, whole, frames_concat]
    · have limit := small begun
      unfold unsent
      rw [if_neg inQueue, List.length_drop, List.length_append, length_frame]
      omega

/-! ## Receiving -/

/-- What has been read of a frame that is not complete. -/
def pending (state : TcpState) : Bytes :=
  if state.size = 0 then state.buf.take state.pos
  else toBigEndian 2 state.size ++ state.buf.take state.pos

theorem pending_of_eq_zero (zero : state.size = 0) :
    state.pending = state.buf.take state.pos := if_pos zero

theorem pending_of_ne_zero (nonzero : state.size ≠ 0) :
    state.pending = toBigEndian 2 state.size ++ state.buf.take state.pos :=
  if_neg nonzero

/-- Where a read may have stopped. -/
structure Resumable (state : TcpState) : Prop where
  bufLength : state.buf.length = maxRtpLength
  sizeFits : state.size < 256 ^ 2
  inLength : state.size = 0 → state.pos < 2
  inContent : state.size ≠ 0 → state.size ≤ maxRtpLength →
    state.pos < state.size
  tooLong : maxRtpLength < state.size → state.pos = 0

theorem resumable_new (id : Int) (isIpv6 isTls : Bool) :
    Resumable (TcpState.new id isIpv6 isTls) where
  bufLength := List.length_replicate
  sizeFits := Nat.pow_pos (by decide)
  inLength := fun _ => Nat.zero_lt_two
  inContent := fun nonzero => absurd rfl nonzero
  tooLong := fun _ => rfl

/-- What a read does to the buffer. -/
structure ReadEffect (before : TcpState) (got : Bytes) (after : TcpState) :
    Prop where
  others : after = { before with
    stream := { before.stream with received := before.stream.received ++ got }
    buf := after.buf
    pos := before.pos + got.length }
  bufLength : after.buf.length = before.buf.length
  filled : after.buf.take (before.pos + got.length) =
    before.buf.take before.pos ++ got

namespace ReadEffect

variable {before after : TcpState} {got : Bytes}

theorem size_eq (read : ReadEffect before got after) :
    after.size = before.size := by
  rw [read.others]

theorem pos_eq (read : ReadEffect before got after) :
    after.pos = before.pos + got.length := by
  rw [read.others]

theorem received_eq (read : ReadEffect before got after) :
    after.stream.received = before.stream.received ++ got := by
  rw [read.others]

theorem longer (read : ReadEffect before got after) (some : got ≠ []) :
    before.stream.received.length < after.stream.received.length := by
  rw [read.received_eq, List.length_append]
  exact Nat.lt_add_of_pos_right (List.length_pos_iff.mpr some)

end ReadEffect

/-- A read fails, or is at the end of the stream, or gets some bytes. -/
theorem readInto_cases {finish : Nat} (inside : state.pos < finish)
    (fits : finish ≤ state.buf.length) (outcome : ReadOutcome) :
    ((∃ kind, state.readInto finish outcome = .ok (state, .error kind)) ∧
      ∀ bytes, outcome = .ready bytes → bytes = []) ∨
    ∃ after got, got ≠ [] ∧ got.length ≤ finish - state.pos ∧
      state.readInto finish outcome = .ok (after, .ok ()) ∧
      ReadEffect state got after := by
  have inBounds : state.pos ≤ finish ∧ finish ≤ state.buf.length :=
    ⟨Nat.le_of_lt inside, fits⟩
  unfold readInto ensure
  rw [if_pos inBounds, ok_bind]
  cases outcome with
  | failed kind => exact .inl ⟨⟨kind, rfl⟩, fun _ same => by cases same⟩
  | ready bytes =>
      dsimp only [SocketStream.read]
      by_cases atEnd : bytes.take (finish - state.pos) = []
      · refine .inl ⟨⟨.invalidData, ?_⟩, ?_⟩
        · rw [if_pos atEnd, atEnd, List.append_nil]
          rfl
        · rintro other ⟨⟩
          rcases List.take_eq_nil_iff.mp atEnd with none | empty
          · omega
          · exact empty
      · rw [if_neg atEnd]
        have short : (bytes.take (finish - state.pos)).length ≤
            finish - state.pos := List.length_take_le _ _
        refine .inr ⟨_, _, atEnd, short, rfl, rfl, ?_, ?_⟩
        · dsimp only
          rw [List.length_append, List.length_append, List.length_take,
            List.length_drop]
          omega
        · have front : (state.buf.take state.pos).length = state.pos := by
            rw [List.length_take]
            omega
          apply List.take_left'
          rw [List.length_append, front]

/-- What a call does: it reads on, returns the contents of the frames that
have been completed, and skips the empty ones. -/
structure RecvEffect (before : TcpState) (returned : List Bytes)
    (after : TcpState) : Prop where
  resumable : Resumable after
  written : after.stream.written = before.stream.written
  outq : after.outq = before.outq
  reads : ∃ got contents,
    after.stream.received = before.stream.received ++ got ∧
    before.pending ++ got = frames 2 contents ++ after.pending ∧
    (∀ content ∈ contents, content.length ≤ maxRtpLength) ∧
    returned = contents.filter (· ≠ [])

namespace RecvEffect

variable {first second third : TcpState} {returned later : List Bytes}

theorem refl (resumable : Resumable state) :
    RecvEffect state [] state where
  resumable := resumable
  written := rfl
  outq := rfl
  reads := ⟨[], [], by simp, by simp, by simp, rfl⟩

theorem trans (one : RecvEffect first returned second)
    (two : RecvEffect second later third) :
    RecvEffect first (returned ++ later) third where
  resumable := two.resumable
  written := two.written.trans one.written
  outq := two.outq.trans one.outq
  reads := by
    obtain ⟨got, contents, received, split, small, rfl⟩ := one.reads
    obtain ⟨more, others, receivedMore, splitMore, smallMore, rfl⟩ := two.reads
    refine ⟨got ++ more, contents ++ others, ?_, ?_, ?_, ?_⟩
    · rw [receivedMore, received, List.append_assoc]
    · rw [← List.append_assoc, split, List.append_assoc, splitMore,
        frames_append, List.append_assoc]
    · intro content member
      rcases List.mem_append.mp member with inFirst | inSecond
      · exact small content inFirst
      · exact smallMore content inSecond
    · rw [List.filter_append]

end RecvEffect

/-- A read that completes no frame. -/
theorem RecvEffect.of_read {before after : TcpState} {got : Bytes}
    (read : ReadEffect before got after) (resumable : Resumable after) :
    RecvEffect before [] after where
  resumable := resumable
  written := by rw [read.others]
  outq := by rw [read.others]
  reads := by
    refine ⟨got, [], read.received_eq, ?_, by simp, rfl⟩
    unfold pending
    rw [frames_nil, List.nil_append, read.size_eq, read.pos_eq, read.filled]
    split
    · rfl
    · rw [List.append_assoc]

/-- The read that completes the length. -/
theorem RecvEffect.of_length {before after : TcpState} {got : Bytes}
    (read : ReadEffect before got after) (resumable : Resumable before)
    (empty : before.size = 0) (full : after.pos = 2) :
    RecvEffect before [] { after with
      size := fromBigEndian (after.buf.take 2)
      pos := 0 } := by
  have bufLength : after.buf.length = maxRtpLength :=
    read.bufLength.trans resumable.bufLength
  have two : (after.buf.take 2).length = 2 := by
    rw [List.length_take, bufLength]
    rfl
  have bound := fromBigEndian_lt (after.buf.take 2)
  have word := toBigEndian_fromBigEndian (after.buf.take 2)
  rw [two] at bound word
  have split : before.pending ++ got = after.buf.take 2 := by
    rw [pending_of_eq_zero empty, ← read.filled, ← read.pos_eq, full]
  constructor
  · constructor
    · exact bufLength
    · exact bound
    · exact fun _ => Nat.zero_lt_two
    · exact fun nonzero _ => Nat.pos_of_ne_zero nonzero
    · exact fun _ => rfl
  · rw [read.others]
  · rw [read.others]
  · by_cases zero : fromBigEndian (after.buf.take 2) = 0
    · refine ⟨got, [[]], read.received_eq, ?_, by simp, rfl⟩
      rw [split, pending_of_eq_zero zero, List.take_zero, List.append_nil,
        frames_cons, frames_nil, List.append_nil, ← word, zero]
      exact (List.append_nil _).symm
    · refine ⟨got, [], read.received_eq, ?_, by simp, rfl⟩
      rw [split, pending_of_ne_zero zero, List.take_zero, List.append_nil,
        frames_nil, List.nil_append, word]

/-- The read that completes the content. -/
theorem RecvEffect.of_content {before after : TcpState} {got : Bytes}
    (read : ReadEffect before got after) (resumable : Resumable before)
    (nonempty : before.size ≠ 0) (small : before.size ≤ maxRtpLength)
    (full : after.pos = before.size) :
    RecvEffect before [after.buf.take after.pos]
      { after with size := 0, pos := 0 } := by
  have bufLength : after.buf.length = maxRtpLength :=
    read.bufLength.trans resumable.bufLength
  have length : (after.buf.take after.pos).length = before.size := by
    rw [List.length_take, bufLength, full]
    exact Nat.min_eq_left small
  constructor
  · constructor
    · exact bufLength
    · exact Nat.pow_pos (by decide)
    · exact fun _ => Nat.zero_lt_two
    · exact fun nonzero => absurd rfl nonzero
    · exact fun _ => rfl
  · rw [read.others]
  · rw [read.others]
  · refine ⟨got, [after.buf.take after.pos], read.received_eq, ?_, ?_, ?_⟩
    · have content : after.buf.take after.pos =
          before.buf.take before.pos ++ got := by
        rw [read.pos_eq, read.filled]
      rw [frames_cons, frames_nil, List.append_nil]
      have nothing : pending { after with size := 0, pos := 0 } = [] := by
        rw [pending_of_eq_zero rfl, List.take_zero]
      rw [nothing, List.append_nil, pending_of_ne_zero nonempty,
        List.append_assoc, ← content]
      unfold frame
      rw [length]
    · intro content member
      rw [List.mem_singleton.mp member, length]
      exact small
    · have kept : after.buf.take after.pos ≠ [] := by
        intro none
        rw [none] at length
        exact nonempty length.symm
      simp [kept]

/-- The packet that a call returns, if it does. -/
def packets (result : Except IoErrorKind (Bytes × SocketLocator)) :
    List Bytes :=
  match result with
  | .ok (packet, _) => [packet]
  | .error _ => []

theorem readLength_effect (resumable : Resumable state) (empty : state.size = 0)
    (outcome : ReadOutcome) :
    ∃ after result, state.readLength outcome = .ok (after, result) ∧
      RecvEffect state [] after ∧
      (∀ kind, result = .error kind → after = state) ∧
      ∀ bytes, outcome = .ready bytes → bytes ≠ [] →
        result = .ok () ∧
          state.stream.received.length < after.stream.received.length := by
  have inside := resumable.inLength empty
  have fits : 2 ≤ state.buf.length := by
    rw [resumable.bufLength]
    decide
  unfold readLength
  rcases readInto_cases inside fits outcome with
    ⟨⟨kind, failed⟩, ended⟩ | ⟨after, got, some, short, advanced, read⟩
  · rw [failed, ok_bind]
    refine ⟨state, .error kind, rfl, .refl resumable, fun _ _ => rfl, ?_⟩
    intro bytes ready more
    exact absurd (ended bytes ready) more
  · have pos := read.pos_eq
    rw [advanced, ok_bind]
    dsimp only
    by_cases halfway : after.pos < 2
    · have size : after.size = 0 := read.size_eq.trans empty
      have stopped : Resumable after := by
        constructor
        · exact read.bufLength.trans resumable.bufLength
        · rw [size]
          exact Nat.pow_pos (by decide)
        · exact fun _ => halfway
        · exact fun nonzero => absurd size nonzero
        · intro large
          rw [size] at large
          exact absurd large (Nat.not_lt_zero _)
      rw [if_pos halfway]
      exact ⟨after, .ok (), rfl, .of_read read stopped,
        fun _ impossible => (by cases impossible),
        fun _ _ _ => ⟨rfl, read.longer some⟩⟩
    · have full : after.pos = 2 := by omega
      rw [if_neg halfway, if_pos full]
      exact ⟨_, .ok (), rfl, .of_length read resumable empty full,
        fun _ impossible => (by cases impossible),
        fun _ _ _ => ⟨rfl, read.longer some⟩⟩

theorem readContent_effect (resumable : Resumable state) (outcome : ReadOutcome) :
    ∃ after result, state.readContent outcome = .ok (after, result) ∧
      RecvEffect state (packets result) after ∧
      (state.size ≠ 0 → state.size ≤ maxRtpLength →
        ∀ bytes, outcome = .ready bytes → bytes ≠ [] →
          state.stream.received.length < after.stream.received.length) := by
  unfold readContent
  by_cases large : maxRtpLength < state.size
  · rw [if_pos large]
    exact ⟨state, _, rfl, .refl resumable, fun _ small =>
      absurd large (Nat.not_lt.mpr small)⟩
  · rw [if_neg large]
    by_cases empty : state.size = 0
    · rw [if_pos empty]
      exact ⟨state, _, rfl, .refl resumable, fun nonzero =>
        absurd empty nonzero⟩
    · rw [if_neg empty]
      have small := Nat.not_lt.mp large
      have inside := resumable.inContent empty small
      have fits : state.size ≤ state.buf.length := by
        rw [resumable.bufLength]
        exact small
      rcases readInto_cases inside fits outcome with
        ⟨⟨kind, failed⟩, ended⟩ | ⟨after, got, some, short, advanced, read⟩
      · rw [failed, ok_bind]
        refine ⟨state, .error kind, rfl, .refl resumable, ?_⟩
        intro _ _ bytes ready more
        exact absurd (ended bytes ready) more
      · have pos := read.pos_eq
        have size := read.size_eq
        rw [advanced, ok_bind]
        dsimp only
        by_cases full : after.pos = after.size
        · rw [if_pos full]
          rw [size] at full
          exact ⟨_, _, rfl, .of_content read resumable empty small full,
            fun _ _ _ _ _ => read.longer some⟩
        · have stopped : Resumable after := by
            constructor
            · exact read.bufLength.trans resumable.bufLength
            · rw [size]
              exact resumable.sizeFits
            · intro zero
              rw [size] at zero
              exact absurd zero empty
            · intro _ _
              omega
            · intro tooLong
              rw [size] at tooLong
              exact absurd tooLong large
          rw [if_neg full]
          exact ⟨after, _, rfl, .of_read read stopped,
            fun _ _ _ _ _ => read.longer some⟩

theorem recvFrom_effect (resumable : Resumable state)
    (length content : ReadOutcome) :
    ∃ after result, state.recvFrom length content = .ok (after, result) ∧
      RecvEffect state (packets result) after := by
  unfold recvFrom
  by_cases large : maxRtpLength < state.size
  · rw [if_pos large]
    exact ⟨state, _, rfl, .refl resumable⟩
  · rw [if_neg large]
    by_cases empty : state.size = 0
    · rw [if_pos empty]
      obtain ⟨middle, result, read, effect, _, _⟩ :=
        readLength_effect resumable empty length
      rw [read, ok_bind]
      cases result with
      | error kind => exact ⟨middle, _, rfl, effect⟩
      | ok done =>
          obtain ⟨after, last, next, more, _⟩ :=
            readContent_effect effect.resumable content
          exact ⟨after, last, next, effect.trans more⟩
    · rw [if_neg empty]
      obtain ⟨after, result, read, effect, _⟩ :=
        readContent_effect resumable content
      exact ⟨after, result, read, effect⟩

theorem RecvEffect.length_le {before after : TcpState}
    {returned : List Bytes} (effect : RecvEffect before returned after) :
    before.stream.received.length ≤ after.stream.received.length := by
  obtain ⟨got, _, received, _⟩ := effect.reads
  rw [received, List.length_append]
  exact Nat.le_add_right _ _

/-- A call that finds bytes ready takes some of them. -/
theorem recvFrom_progress {state after : TcpState}
    {length content : Bytes}
    {result : Except IoErrorKind (Bytes × SocketLocator)}
    (resumable : Resumable state) (small : state.size ≤ maxRtpLength)
    (lengthReady : length ≠ []) (contentReady : content ≠ [])
    (received : state.recvFrom (.ready length) (.ready content) =
      .ok (after, result)) :
    state.stream.received.length < after.stream.received.length := by
  unfold recvFrom at received
  rw [if_neg (Nat.not_lt.mpr small)] at received
  by_cases empty : state.size = 0
  · rw [if_pos empty] at received
    obtain ⟨middle, first, read, effect, _, more⟩ :=
      readLength_effect resumable empty (.ready length)
    obtain ⟨rfl, longer⟩ := more length rfl lengthReady
    rw [read, ok_bind] at received
    obtain ⟨last, _, next, rest, _⟩ :=
      readContent_effect effect.resumable (.ready content)
    cases next.symm.trans received
    exact Nat.lt_of_lt_of_le longer rest.length_le
  · rw [if_neg empty] at received
    obtain ⟨last, _, read, _, more⟩ :=
      readContent_effect resumable (.ready content)
    cases read.symm.trans received
    exact more empty small content rfl contentReady

/-- After a length that is too large every call fails, and nothing is read. -/
theorem recvFrom_tooLong (large : maxRtpLength < state.size)
    (length content : ReadOutcome) :
    state.recvFrom length content = .ok (state, .error .invalidData) :=
  if_pos large

theorem readContent_tooLong {state after : TcpState} {outcome : ReadOutcome}
    {result : Except IoErrorKind (Bytes × SocketLocator)}
    (resumable : Resumable state)
    (read : state.readContent outcome = .ok (after, result))
    (large : maxRtpLength < after.size) : result = .error .invalidData := by
  unfold readContent at read
  by_cases already : maxRtpLength < state.size
  · rw [if_pos already] at read
    cases read
    rfl
  · rw [if_neg already] at read
    by_cases empty : state.size = 0
    · rw [if_pos empty] at read
      cases read
      exact absurd large already
    · rw [if_neg empty] at read
      have small := Nat.not_lt.mp already
      have fits : state.size ≤ state.buf.length := by
        rw [resumable.bufLength]
        exact small
      rcases readInto_cases (resumable.inContent empty small) fits outcome with
        ⟨⟨kind, failed⟩, _⟩ | ⟨advanced, got, _, _, some, effect⟩
      · rw [failed, ok_bind] at read
        cases read
        exact absurd large already
      · have size := effect.size_eq
        rw [some, ok_bind] at read
        dsimp only at read
        split at read
        · cases read
          exact absurd large (Nat.not_lt_zero _)
        · cases read
          rw [size] at large
          exact absurd large already

/-- The call that reads a length that is too large fails itself. -/
theorem recvFrom_reads_tooLong {state after : TcpState}
    {length content : ReadOutcome}
    {result : Except IoErrorKind (Bytes × SocketLocator)}
    (resumable : Resumable state)
    (received : state.recvFrom length content = .ok (after, result))
    (large : maxRtpLength < after.size) : result = .error .invalidData := by
  unfold recvFrom at received
  by_cases already : maxRtpLength < state.size
  · rw [if_pos already] at received
    cases received
    rfl
  · rw [if_neg already] at received
    by_cases empty : state.size = 0
    · rw [if_pos empty] at received
      obtain ⟨middle, first, read, effect, unchanged, _⟩ :=
        readLength_effect resumable empty length
      rw [read, ok_bind] at received
      cases first with
      | error kind =>
          cases received
          rw [unchanged kind rfl] at large
          exact absurd large already
      | ok done => exact readContent_tooLong effect.resumable received large
    · rw [if_neg empty] at received
      exact readContent_tooLong resumable received large

theorem incomplete_pending (resumable : Resumable state) :
    Incomplete 2 state.pending := by
  by_cases empty : state.size = 0
  · rw [pending_of_eq_zero empty]
    apply incomplete_of_length_lt
    exact Nat.lt_of_le_of_lt (List.length_take_le _ _)
      (resumable.inLength empty)
  · rw [pending_of_ne_zero empty]
    apply incomplete_of_short_content resumable.sizeFits
    apply Nat.lt_of_le_of_lt (List.length_take_le _ _)
    by_cases small : state.size ≤ maxRtpLength
    · exact resumable.inContent empty small
    · rw [resumable.tooLong (Nat.not_le.mp small)]
      exact Nat.pos_of_ne_zero empty

end TcpState

/-! ## Runs -/

inductive TcpEvent where
  | send (packet : Bytes) (outcome : WriteOutcome)
  | recvFrom (length content : ReadOutcome)
      (result : Except IoErrorKind (Bytes × SocketLocator))

def TcpStep (before : TcpState) (event : TcpEvent) (after : TcpState) :
    Prop :=
  match event with
  | .send packet outcome => after = (before.send packet outcome).1
  | .recvFrom length content result =>
      before.recvFrom length content = .ok (after, result)

namespace TcpEvent

def sent : TcpEvent → List Bytes
  | .send packet _ => [packet]
  | .recvFrom _ _ _ => []

def returned : TcpEvent → List Bytes
  | .send _ _ => []
  | .recvFrom _ _ result => TcpState.packets result

/-- One for a call that finds bytes ready whenever it reads. -/
def readyCalls : TcpEvent → Nat
  | .recvFrom (.ready length) (.ready content) _ =>
      if length ≠ [] ∧ content ≠ [] then 1 else 0
  | _ => 0

end TcpEvent

/-- Both directions of a stream after some events. -/
structure CarriesFrames (past : List TcpEvent) (state : TcpState) : Prop where
  sends : state.SendsFrames (past.flatMap TcpEvent.sent)
  resumable : state.Resumable
  reads : ∃ contents, state.stream.received =
      frames 2 contents ++ state.pending ∧
    (∀ content ∈ contents, content.length ≤ maxRtpLength) ∧
    past.flatMap TcpEvent.returned = contents.filter (· ≠ [])
  progress : maxRtpLength < state.size ∨
    (past.map TcpEvent.readyCalls).sum ≤ state.stream.received.length

theorem carriesFrames_new (id : Int) (isIpv6 isTls : Bool) :
    CarriesFrames [] (TcpState.new id isIpv6 isTls) where
  sends := TcpState.sendsFrames_new id isIpv6 isTls
  resumable := TcpState.resumable_new id isIpv6 isTls
  reads := ⟨[], rfl, by simp, rfl⟩
  progress := .inr (Nat.le_refl 0)

theorem CarriesFrames.send {past : List TcpEvent} {before : TcpState}
    (carries : CarriesFrames past before) (packet : Bytes)
    (outcome : WriteOutcome) :
    CarriesFrames (past ++ [.send packet outcome])
      (before.send packet outcome).1 := by
  have effect := TcpState.send_effect before packet outcome
  have sends := carries.sends.send effect
  obtain ⟨sent, same, _⟩ := effect.effect
  constructor
  · rw [List.flatMap_append]
    exact sends
  · rw [same]
    exact ⟨carries.resumable.bufLength, carries.resumable.sizeFits,
      carries.resumable.inLength, carries.resumable.inContent,
      carries.resumable.tooLong⟩
  · obtain ⟨contents, received, small, returned⟩ := carries.reads
    refine ⟨contents, ?_, small, ?_⟩
    · rw [same]
      exact received
    · rw [List.flatMap_append, returned]
      exact List.append_nil _
  · rw [same, List.map_append, List.sum_append]
    exact carries.progress

theorem TcpState.received_readyCalls {before after : TcpState}
    {length content : ReadOutcome}
    {result : Except IoErrorKind (Bytes × SocketLocator)}
    (resumable : before.Resumable) (small : before.size ≤ maxRtpLength)
    (received : before.recvFrom length content = .ok (after, result)) :
    before.stream.received.length +
        (TcpEvent.recvFrom length content result).readyCalls ≤
      after.stream.received.length := by
  obtain ⟨_, _, same, effect⟩ :=
    TcpState.recvFrom_effect resumable length content
  cases same.symm.trans received
  have longer := effect.length_le
  unfold TcpEvent.readyCalls
  split
  · split
    · rename_i ready
      cases ‹TcpEvent.recvFrom length content result = _›
      exact TcpState.recvFrom_progress resumable small ready.1 ready.2 received
    · exact longer
  · exact longer

theorem CarriesFrames.recvFrom {past : List TcpEvent}
    {before after : TcpState} {length content : ReadOutcome}
    {result : Except IoErrorKind (Bytes × SocketLocator)}
    (carries : CarriesFrames past before)
    (received : before.recvFrom length content = .ok (after, result)) :
    CarriesFrames (past ++ [.recvFrom length content result]) after := by
  obtain ⟨_, _, same, effect⟩ :=
    TcpState.recvFrom_effect carries.resumable length content
  cases same.symm.trans received
  constructor
  · obtain ⟨accepted, sublist, whole⟩ := carries.sends.whole
    refine ⟨⟨accepted, ?_, ?_⟩, ?_⟩
    · rw [List.flatMap_append]
      exact sublist.trans (List.sublist_append_left _ _)
    · rw [effect.written, effect.outq]
      exact whole
    · rw [effect.outq]
      exact carries.sends.short
  · exact effect.resumable
  · obtain ⟨contents, receivedBefore, small, returned⟩ := carries.reads
    obtain ⟨got, more, receivedMore, split, smallMore, returnedMore⟩ :=
      effect.reads
    refine ⟨contents ++ more, ?_, ?_, ?_⟩
    · rw [receivedMore, receivedBefore, List.append_assoc, split,
        frames_append, List.append_assoc]
    · intro entry member
      rcases List.mem_append.mp member with inContents | inMore
      · exact small entry inContents
      · exact smallMore entry inMore
    · rw [List.flatMap_append, returned, List.filter_append, ← returnedMore]
      exact congrArg _ (List.flatMap_singleton _ _)
  · by_cases large : maxRtpLength < before.size
    · rw [TcpState.recvFrom_tooLong large] at received
      cases received
      exact .inl large
    · have count := carries.progress.resolve_left large
      have more := TcpState.received_readyCalls carries.resumable
        (Nat.not_lt.mp large) received
      rw [List.map_append, List.sum_append]
      refine .inr (Nat.le_trans ?_ more)
      exact Nat.add_le_add_right count _

theorem CarriesFrames.step {past : List TcpEvent} {event : TcpEvent}
    {before after : TcpState} (carries : CarriesFrames past before)
    (step : TcpStep before event after) :
    CarriesFrames (past ++ [event]) after := by
  cases event with
  | send packet outcome =>
      cases step
      exact carries.send packet outcome
  | recvFrom length content result => exact carries.recvFrom step

section Readings

variable {past : List TcpEvent} {state : TcpState} {contents : List Bytes}
variable {rest : Bytes}

theorem framable_of_le {content : Bytes}
    (small : content.length ≤ maxRtpLength) : Framable 2 content :=
  Nat.lt_of_le_of_lt small (by decide)

/-- What has been returned are the frames that have been received whole. -/
theorem CarriesFrames.reading (carries : CarriesFrames past state)
    (small : ∀ content ∈ contents, content.length ≤ maxRtpLength)
    (stream : state.stream.received ++ rest = frames 2 contents) :
    ∃ done undone, contents = done ++ undone ∧
      state.stream.received = frames 2 done ++ state.pending ∧
      state.pending ++ rest = frames 2 undone ∧
      past.flatMap TcpEvent.returned = done.filter (· ≠ []) := by
  obtain ⟨done, received, smallDone, returned⟩ := carries.reads
  rw [received, List.append_assoc] at stream
  obtain ⟨undone, rfl, split⟩ := frames_incomplete
    (fun content member => framable_of_le (smallDone content member))
    (fun content member => framable_of_le (small content member))
    (TcpState.incomplete_pending carries.resumable) stream
  exact ⟨done, undone, rfl, received, split, returned⟩

theorem CarriesFrames.reading_whole (carries : CarriesFrames past state)
    (small : ∀ content ∈ contents, content.length ≤ maxRtpLength)
    (stream : state.stream.received = frames 2 contents) :
    past.flatMap TcpEvent.returned = contents.filter (· ≠ []) := by
  rw [← List.append_nil state.stream.received] at stream
  obtain ⟨done, undone, rfl, _, split, returned⟩ :=
    carries.reading small stream
  rw [List.append_nil] at split
  cases undone with
  | nil => rw [returned, List.append_nil]
  | cons content undone =>
      have fits : Framable 2 content := framable_of_le
        (small content (List.mem_append_right _ List.mem_cons_self))
      have contradiction := not_incomplete_frames_cons undone [] fits
      rw [List.append_nil, ← split] at contradiction
      exact absurd (TcpState.incomplete_pending carries.resumable)
        contradiction

/-- The length of a frame that is being read is one of the stream's. -/
theorem CarriesFrames.size_le (carries : CarriesFrames past state)
    (small : ∀ content ∈ contents, content.length ≤ maxRtpLength)
    (stream : state.stream.received ++ rest = frames 2 contents) :
    state.size ≤ maxRtpLength := by
  obtain ⟨done, undone, rfl, _, split, _⟩ := carries.reading small stream
  by_contra large
  have nonzero : state.size ≠ 0 := by
    intro zero
    rw [zero] at large
    exact large (Nat.zero_le _)
  rw [TcpState.pending_of_ne_zero nonzero, List.append_assoc] at split
  cases undone with
  | nil =>
      have length := congrArg List.length split
      simp at length
  | cons content undone =>
      have contentSmall := small content
        (List.mem_append_right _ List.mem_cons_self)
      rw [frames_cons] at split
      obtain ⟨lengths, _⟩ := length_frame_inj carries.resumable.sizeFits
        (framable_of_le contentSmall) split
      exact large (lengths ▸ contentSmall)

/-- As many calls that find bytes ready as there are bytes return
everything. -/
theorem CarriesFrames.reading_ready (carries : CarriesFrames past state)
    (small : ∀ content ∈ contents, content.length ≤ maxRtpLength)
    (stream : state.stream.received ++ rest = frames 2 contents)
    (enough : (frames 2 contents).length ≤
      (past.map TcpEvent.readyCalls).sum) :
    past.flatMap TcpEvent.returned = contents.filter (· ≠ []) := by
  have notLarge := Nat.not_lt.mpr (carries.size_le small stream)
  have count := carries.progress.resolve_left notLarge
  have length := congrArg List.length stream
  rw [List.length_append] at length
  have nothing : rest = [] := List.eq_nil_of_length_eq_zero (by omega)
  rw [nothing, List.append_nil] at stream
  exact carries.reading_whole small stream

/-- A length that is too large ends the reading. -/
theorem CarriesFrames.reading_tooLong {length : Nat}
    (carries : CarriesFrames past state)
    (small : ∀ content ∈ contents, content.length ≤ maxRtpLength)
    (large : maxRtpLength < length) (fits : length < 2 ^ 16)
    (stream : state.stream.received =
      frames 2 contents ++ (toBigEndian 2 length ++ rest)) :
    past.flatMap TcpEvent.returned = contents.filter (· ≠ []) ∧
      ∀ next content, state.recvFrom next content =
        .ok (state, .error .invalidData) := by
  have incomplete := TcpState.incomplete_pending carries.resumable
  obtain ⟨done, received, smallDone, returned⟩ := carries.reads
  rw [received] at stream
  have ends : done = contents ∧ state.pending = toBigEndian 2 length ++ rest := by
    rcases frames_append_eq
      (fun content member => framable_of_le (smallDone content member))
      (fun content member => framable_of_le (small content member)) stream with
      ⟨more, rfl, split⟩ | ⟨more, rfl, split⟩
    · cases more with
      | nil => exact ⟨(List.append_nil _).symm, split⟩
      | cons content more =>
          rw [split] at incomplete
          exact absurd incomplete (not_incomplete_frames_cons more _
            (framable_of_le (small content
              (List.mem_append_right _ List.mem_cons_self))))
    · cases more with
      | nil => exact ⟨List.append_nil _, split.symm⟩
      | cons content more =>
          have contentSmall := smallDone content
            (List.mem_append_right _ List.mem_cons_self)
          rw [frames_cons, List.append_assoc] at split
          obtain ⟨lengths, _⟩ := length_frame_inj fits
            (framable_of_le contentSmall) split
          omega
  obtain ⟨rfl, split⟩ := ends
  refine ⟨returned, ?_⟩
  intro next content
  apply TcpState.recvFrom_tooLong
  by_cases empty : state.size = 0
  · have short := carries.resumable.inLength empty
    have lengths := congrArg List.length split
    rw [TcpState.pending_of_eq_zero empty, List.length_take,
      List.length_append, length_toBigEndian] at lengths
    omega
  · rw [TcpState.pending_of_ne_zero empty] at split
    obtain ⟨lengths, _⟩ := toBigEndian_append_inj
      carries.resumable.sizeFits fits split
    rw [lengths]
    exact large

end Readings

/-- Sending keeps the frames whole; receiving finds them again however the
reads are cut, and stops at a length that is too large. -/
theorem tcp_carries_whole_frames {id : Int} {isIpv6 isTls : Bool}
    {events : List TcpEvent} {finish : TcpState}
    (run : Run TcpStep (TcpState.new id isIpv6 isTls) events finish) :
    (∃ accepted, accepted.Sublist (events.flatMap TcpEvent.sent) ∧
      finish.stream.written ++ finish.outq = frames 2 accepted ∧
      finish.outq.length ≤ 1501) ∧
    (∀ contents rest, (∀ content ∈ contents, content.length ≤ 1500) →
      finish.stream.received ++ rest = frames 2 contents →
      (∃ done undone begun, contents = done ++ undone ∧
        finish.stream.received = frames 2 done ++ begun ∧
        Incomplete 2 begun ∧
        events.flatMap TcpEvent.returned = done.filter (· ≠ [])) ∧
      (rest = [] ∨ (frames 2 contents).length ≤
          (events.map TcpEvent.readyCalls).sum →
        events.flatMap TcpEvent.returned = contents.filter (· ≠ []))) ∧
    (∀ contents length rest, (∀ content ∈ contents, content.length ≤ 1500) →
      1500 < length → length < 2 ^ 16 →
      finish.stream.received =
        frames 2 contents ++ (toBigEndian 2 length ++ rest) →
      events.flatMap TcpEvent.returned = contents.filter (· ≠ []) ∧
        ∀ next content, finish.recvFrom next content =
          .ok (finish, .error .invalidData)) ∧
    (∀ next content, ∃ after result,
      finish.recvFrom next content = .ok (after, result) ∧
        (1500 < after.size → result = .error .invalidData)) := by
  have carries : CarriesFrames events finish :=
    run.history_invariant (carriesFrames_new id isIpv6 isTls)
      CarriesFrames.step
  obtain ⟨accepted, sublist, whole⟩ := carries.sends.whole
  refine ⟨⟨accepted, sublist, whole, carries.sends.short⟩, ?_, ?_, ?_⟩
  · intro contents rest small stream
    constructor
    · obtain ⟨done, undone, split, received, _, returned⟩ :=
        carries.reading small stream
      exact ⟨done, undone, _, split, received,
        TcpState.incomplete_pending carries.resumable, returned⟩
    · rintro (nothing | enough)
      · rw [nothing, List.append_nil] at stream
        exact carries.reading_whole small stream
      · exact carries.reading_ready small stream enough
  · intro contents length rest small large fits stream
    exact carries.reading_tooLong small large fits stream
  · intro next content
    obtain ⟨after, result, received, _⟩ :=
      TcpState.recvFrom_effect carries.resumable next content
    exact ⟨after, result, received,
      TcpState.recvFrom_reads_tooLong carries.resumable received⟩

/-- The first write stops inside the length, the second inside the packet. -/
def cutWrites : List TcpEvent :=
  [.send [7, 8] (.accepts 1), .send [9] (.accepts 2)]

def cutState (written outq : Bytes) : TcpState :=
  { TcpState.new 1 false false with
    stream := ⟨[], written⟩
    outq := outq }

theorem tcp_carries_whole_frames_cut :
    ∃ accepted, accepted.Sublist [[7, 8], [9]] ∧
      [0, 2, 7] ++ [8] = frames 2 accepted := by
  have first : TcpStep (TcpState.new 1 false false)
      (.send [7, 8] (.accepts 1)) (cutState [0] [2, 7, 8]) := rfl
  have second : TcpStep (cutState [0] [2, 7, 8]) (.send [9] (.accepts 2))
      (cutState [0, 2, 7] [8]) := rfl
  have run : Run TcpStep (TcpState.new 1 false false) cutWrites
      (cutState [0, 2, 7] [8]) := (Run.nil.snoc first).snoc second
  obtain ⟨accepted, sublist, whole, _⟩ := (tcp_carries_whole_frames run).1
  exact ⟨accepted, sublist, whole⟩

end CallingService.Backend
