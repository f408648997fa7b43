import CallingService.Foundation.Run
import CallingService.Backend.Rtp.Nack

/-!
# Runs of the NACK sender

Marking the numbers to ask for and yielding them are two passes that
communicate through the time of the call.  Over any run the entries of the
sender are what the history of its events says about each missing number.
-/

namespace CallingService.Backend.Rtp

open Foundation

/-! ## The cache under insertions -/

namespace NackSender

abbrev Entries :=
  KeySortedCache FullSequenceNumber (Option (Instant × Instant × Nat))

def entries (cache : Entries) :
    List (FullSequenceNumber × Option (Instant × Instant × Nat)) :=
  cache.valueByKey.entries

variable {number : FullSequenceNumber}
variable {entry : FullSequenceNumber × Option (Instant × Instant × Nat)}

theorem mem_insert {cache : Entries} {sent : Option (Instant × Instant × Nat)}
    (member : entry ∈ entries (cache.insert number sent)) :
    entry = (number, sent) ∨ entry ∈ entries cache := by
  apply mem_insertSorted
  unfold entries KeySortedCache.insert at member
  dsimp only at member
  split at member
  · exact List.mem_of_mem_tail member
  · exact member

theorem length_insert_le {cache : Entries}
    {sent : Option (Instant × Instant × Nat)}
    (room : (entries cache).length ≤ cache.limit) :
    (entries (cache.insert number sent)).length ≤ cache.limit := by
  have longer := length_insertSorted_le number sent cache.valueByKey.entries
  unfold entries at room
  unfold entries KeySortedCache.insert
  dsimp only
  split
  · unfold SortedMap.popFirst SortedMap.insert
    rw [List.length_tail]
    dsimp only
    omega
  · rename_i fits
    exact Nat.not_lt.mp fits

/-- The numbers of a gap are entered one after the other. -/
theorem foldl_insert {missing : List FullSequenceNumber} {cache : Entries}
    (room : (entries cache).length ≤ cache.limit) :
    (missing.foldl (fun cache number => cache.insert number none)
        cache).limit = cache.limit ∧
      (entries (missing.foldl (fun cache number => cache.insert number none)
        cache)).length ≤ cache.limit ∧
      ∀ entry ∈ entries (missing.foldl
          (fun cache number => cache.insert number none) cache),
        entry ∈ entries cache ∨ entry.2 = none ∧ entry.1 ∈ missing := by
  induction missing generalizing cache with
  | nil => exact ⟨rfl, room, fun entry member => .inl member⟩
  | cons number missing ih =>
      obtain ⟨sameLimit, stillRoom, members⟩ :=
        ih (length_insert_le room : (entries (cache.insert number
          none)).length ≤ (cache.insert number none).limit)
      refine ⟨sameLimit, stillRoom, ?_⟩
      intro entry member
      rcases members entry member with inserted | ⟨isNew, later⟩
      · rcases mem_insert inserted with rfl | old
        · exact .inr ⟨rfl, List.mem_cons_self⟩
        · exact .inl old
      · exact .inr ⟨isNew, List.mem_cons_of_mem _ later⟩

theorem mem_seqnumRange {start finish number : FullSequenceNumber} :
    number ∈ seqnumRange start finish ↔ start ≤ number ∧ number < finish := by
  unfold seqnumRange
  rw [List.mem_map]
  constructor
  · rintro ⟨offset, inside, rfl⟩
    have := List.mem_range.mp inside
    exact ⟨Nat.le_add_right _ _, Nat.add_lt_of_lt_sub' this⟩
  · rintro ⟨above, below⟩
    refine ⟨number - start, List.mem_range.mpr ?_, Nat.add_sub_cancel' above⟩
    exact Nat.sub_lt_sub_right above below

/-! ## Receiving -/

/-- What `remember_received` does to the entries. -/
inductive Receives (seqnum : FullSequenceNumber) (before : NackSender) :
    NackSender → Prop where
  | first : before.maxReceived = none →
      Receives seqnum before { before with maxReceived := some seqnum }
  | again : before.maxReceived = some seqnum → Receives seqnum before before
  | late {largest : FullSequenceNumber} :
      before.maxReceived = some largest → seqnum < largest →
      Receives seqnum before
        { before with sentBySeqnum := before.sentBySeqnum.remove seqnum }
  | ahead {largest : FullSequenceNumber} {cache : Entries} :
      before.maxReceived = some largest → largest < seqnum →
      cache.limit = before.limit →
      (entries cache).length ≤ before.limit →
      (∀ entry ∈ entries cache, entry ∈ entries before.sentBySeqnum ∨
        entry.2 = none ∧ largest < entry.1 ∧ entry.1 < seqnum) →
      Receives seqnum before { before with
        maxReceived := some seqnum
        sentBySeqnum := cache }

variable {seqnum : FullSequenceNumber}

theorem receives_rememberReceived {sender : NackSender}
    (sameLimit : sender.sentBySeqnum.limit = sender.limit)
    (room : (entries sender.sentBySeqnum).length ≤ sender.limit)
    (small : seqnum < 2 ^ 64) :
    Receives seqnum sender (sender.rememberReceived seqnum) := by
  unfold rememberReceived
  cases known : sender.maxReceived with
  | none => exact .first known
  | some largest =>
      dsimp only
      split
      · rename_i same
        rw [← same] at known
        exact .again known
      · rename_i different
        split
        · rename_i less
          rw [← known]
          exact .late known less
        · rename_i notLess
          have ahead : largest < seqnum :=
            lt_of_le_of_ne (Nat.le_of_not_lt notLess) (Ne.symm different)
          have next : min (largest + 1) (2 ^ 64 - 1) = largest + 1 := by
            apply Nat.min_eq_left
            exact Nat.le_sub_one_of_lt
              (lt_of_le_of_lt (Nat.succ_le_of_lt ahead) small)
          rw [next]
          by_cases tooMany : sender.limit < seqnum - (largest + 1)
          · rw [if_pos tooMany, if_pos tooMany]
            obtain ⟨cacheLimit, fits, members⟩ := @foldl_insert
              (seqnumRange (seqnum - sender.limit) seqnum)
              (.new sender.limit) (Nat.zero_le _)
            apply Receives.ahead known ahead cacheLimit fits
            intro entry member
            rcases members entry member with impossible | ⟨isNew, inside⟩
            · cases impossible
            · obtain ⟨above, below⟩ := mem_seqnumRange.mp inside
              refine .inr ⟨isNew, ?_, below⟩
              have far : largest + 1 + sender.limit < seqnum := by
                have := Nat.add_lt_of_lt_sub tooMany
                rwa [Nat.add_comm] at this
              have start : largest < seqnum - sender.limit := by
                apply Nat.lt_sub_of_add_lt
                exact lt_of_le_of_lt (by omega) far
              exact lt_of_lt_of_le start above
          · rw [if_neg tooMany, if_neg tooMany]
            obtain ⟨cacheLimit, fits, members⟩ := @foldl_insert
              (seqnumRange (largest + 1) seqnum) sender.sentBySeqnum
              (by rw [sameLimit]; exact room)
            rw [sameLimit] at cacheLimit fits
            apply Receives.ahead known ahead cacheLimit fits
            intro entry member
            rcases members entry member with old | ⟨isNew, inside⟩
            · exact .inl old
            · obtain ⟨above, below⟩ := mem_seqnumRange.mp inside
              exact .inr ⟨isNew, Nat.lt_of_succ_le above, below⟩

/-! ## Sending -/

/-- Whether an entry is asked for at this time. -/
def asks (now : Instant) (rtt : Duration)
    (sent : Option (Instant × Instant × Nat)) : Bool :=
  ((askAgain now rtt sent).map Prod.snd).getD false

/-- The numbers that a call at this time marks, in increasing order. -/
def marked (sender : NackSender) (now : Instant) (rtt : Duration) :
    List FullSequenceNumber :=
  ((entries sender.sentBySeqnum).filter fun entry =>
    asks now rtt entry.2).map Prod.fst

/-- The sender after a call. -/
def marking (sender : NackSender) (now : Instant) (rtt : Duration) :
    NackSender :=
  { sender with
    sentBySeqnum := sender.sentBySeqnum.retain fun _ sent =>
      (askAgain now rtt sent).map Prod.fst }

/-- Every entry was last sent before this time. -/
def SentBefore (now : Instant)
    (entries : List (FullSequenceNumber × Option (Instant × Instant × Nat))) :
    Prop :=
  ∀ number first last count, (number, some (first, last, count)) ∈ entries →
    last < now

/-- The three things that can become of an entry. -/
theorem askAgain_cases (now : Instant) (rtt : Duration)
    (sent : Option (Instant × Instant × Nat)) :
    (sent = none ∧ askAgain now rtt sent = some (some (now, now, 1), true)) ∨
      ∃ first last count, sent = some (first, last, count) ∧
        (askAgain now rtt sent = none ∨
          (now - first < fromSecs 3 ∧ count < maxNackRetryCount ∧
            rtt ≤ now - last ∧
            askAgain now rtt sent =
              some (some (first, now, count + 1), true)) ∨
          askAgain now rtt sent =
            some (some (first, last, count), false)) := by
  cases sent with
  | none => exact .inl ⟨rfl, rfl⟩
  | some record =>
      obtain ⟨first, last, count⟩ := record
      refine .inr ⟨first, last, count, rfl, ?_⟩
      unfold askAgain
      dsimp only
      by_cases expired : fromSecs 3 ≤ now - first ∨ maxNackRetryCount ≤ count
      · exact .inl (if_pos expired)
      · rw [if_neg expired]
        rw [not_or, not_le, not_le] at expired
        by_cases due : rtt ≤ now - last
        · rw [if_pos due]
          exact .inr (.inl ⟨expired.1, expired.2, due, rfl⟩)
        · rw [if_neg due]
          exact .inr (.inr rfl)

variable {now : Instant} {rtt : Duration}

/-- After the marking pass the entries that were last sent now are those that
have been marked. -/
theorem sentAt_retained {entries : List (FullSequenceNumber ×
      Option (Instant × Instant × Nat))} (earlier : SentBefore now entries) :
    sentAt now (entries.filterMap fun entry =>
        ((askAgain now rtt entry.2).map Prod.fst).map fun sent =>
          (entry.1, sent)) =
      .ok ((entries.filter fun entry => asks now rtt entry.2).map
        Prod.fst) := by
  induction entries with
  | nil => rfl
  | cons entry entries ih =>
      have rest := ih (fun number first last count member =>
        earlier number first last count (List.mem_cons_of_mem _ member))
      obtain ⟨number, sent⟩ := entry
      rw [List.filterMap_cons, List.filter_cons]
      unfold asks at rest ⊢
      dsimp only
      rcases askAgain_cases now rtt sent with ⟨-, new⟩ |
        ⟨first, last, count, rfl, dropped | ⟨-, -, -, again⟩ | kept⟩
      · simp only [new, Option.map_some, sentAt, rest]
        simp
      · simp only [dropped, Option.map_none, rest]
        rfl
      · simp only [again, Option.map_some, sentAt, rest]
        simp
      · have before : now ≠ last := by
          have := earlier number first last count List.mem_cons_self
          exact (ne_of_lt this).symm
        simp only [kept, Option.map_some, sentAt, rest, before]
        simp

theorem marked_eq_nil_iff {sender : NackSender} :
    sender.marked now rtt = [] ↔
      (entries sender.sentBySeqnum).any
        (fun entry => asks now rtt entry.2) = false := by
  unfold marked
  rw [List.map_eq_nil_iff, List.filter_eq_nil_iff, List.any_eq_false]

/-- The iterator yields the numbers that were marked, and unwraps no entry
that has not been sent. -/
theorem sendNacks_eq {sender : NackSender}
    (earlier : SentBefore now (entries sender.sentBySeqnum)) :
    sender.sendNacks now rtt = .ok (sender.marking now rtt,
      if sender.marked now rtt = [] then none
      else some (sender.marked now rtt)) := by
  have yielded := @sentAt_retained now rtt _ earlier
  unfold sendNacks
  by_cases nothing : sender.marked now rtt = []
  · have quiet := marked_eq_nil_iff.mp nothing
    unfold asks entries at quiet
    rw [if_pos nothing]
    dsimp only
    rw [quiet]
    rfl
  · have loud : (entries sender.sentBySeqnum).any
        (fun entry => asks now rtt entry.2) = true := by
      rw [← Bool.not_eq_false]
      exact fun quiet => nothing (marked_eq_nil_iff.mpr quiet)
    unfold asks entries at loud
    rw [if_neg nothing]
    dsimp only
    rw [loud]
    unfold entries at yielded
    unfold marked marking entries
    simp only [KeySortedCache.retain, SortedMap.retain, yielded]
    rfl

/-! ## Histories -/

/-- A number is received, or a call asks for some. -/
inductive NackEvent where
  | received (seqnum : FullSequenceNumber)
  | sent (now : Instant) (rtt : Duration)
      (yielded : List FullSequenceNumber)

inductive NackStep : NackSender → NackEvent → NackSender → Prop where
  | received {sender : NackSender} {seqnum : FullSequenceNumber} :
      seqnum < 2 ^ 64 →
      NackStep sender (.received seqnum) (sender.rememberReceived seqnum)
  | sent {sender after : NackSender} {now : Instant} {rtt : Duration}
      {yielded : Option (List FullSequenceNumber)} :
      sender.sendNacks now rtt = .ok (after, yielded) →
      NackStep sender (.sent now rtt (yielded.getD [])) after

def NackEvent.sendTime? : NackEvent → Option Instant
  | .received _ => none
  | .sent now _ _ => some now

/-- The time of a call that yields the number. -/
def NackEvent.yieldTime? (number : FullSequenceNumber) :
    NackEvent → Option Instant
  | .received _ => none
  | .sent now _ yielded => if number ∈ yielded then some now else none

def sendTimes (history : List NackEvent) : List Instant :=
  history.filterMap NackEvent.sendTime?

def yieldTimes (number : FullSequenceNumber) (history : List NackEvent) :
    List Instant :=
  history.filterMap (NackEvent.yieldTime? number)

variable {history : List NackEvent}

@[simp]
theorem sendTimes_received :
    sendTimes (history ++ [.received seqnum]) = sendTimes history := by
  simp [sendTimes, NackEvent.sendTime?]

variable {yielded : List FullSequenceNumber}

@[simp]
theorem sendTimes_sent :
    sendTimes (history ++ [.sent now rtt yielded]) =
      sendTimes history ++ [now] := by
  simp [sendTimes, NackEvent.sendTime?]

@[simp]
theorem yieldTimes_received {seqnum number : FullSequenceNumber} :
    yieldTimes number (history ++ [.received seqnum]) =
      yieldTimes number history := by
  simp [yieldTimes, NackEvent.yieldTime?]

theorem yieldTimes_yielded (member : number ∈ yielded) :
    yieldTimes number (history ++ [.sent now rtt yielded]) =
      yieldTimes number history ++ [now] := by
  simp [yieldTimes, NackEvent.yieldTime?, member]

theorem yieldTimes_passed (absent : number ∉ yielded) :
    yieldTimes number (history ++ [.sent now rtt yielded]) =
      yieldTimes number history := by
  simp [yieldTimes, NackEvent.yieldTime?, absent]

/-- What an entry says about the calls that yielded its number. -/
def Matches (history : List NackEvent) (number : FullSequenceNumber) :
    Option (Instant × Instant × Nat) → Prop
  | none => yieldTimes number history = []
  | some (first, last, count) =>
      (yieldTimes number history).length = count ∧
        count ≤ maxNackRetryCount ∧ first ≤ last ∧
        last ∈ sendTimes history ∧
        ∀ time ∈ yieldTimes number history, first ≤ time ∧ time ≤ last

/-- The largest received number is above this one. -/
def Below (sender : NackSender) (number : FullSequenceNumber) : Prop :=
  ∃ largest, sender.maxReceived = some largest ∧ number < largest

/-- The entries are what the history says about each missing number. -/
structure Tracks (limit : Nat) (history : List NackEvent)
    (sender : NackSender) : Prop where
  senderLimit : sender.limit = limit
  cacheLimit : sender.sentBySeqnum.limit = limit
  room : (entries sender.sentBySeqnum).length ≤ limit
  largest : ∀ number, .received number ∈ history →
    ∃ largest, sender.maxReceived = some largest ∧ number ≤ largest
  known : ∀ largest, sender.maxReceived = some largest →
    .received largest ∈ history
  missing : ∀ entry ∈ entries sender.sentBySeqnum,
    .received entry.1 ∉ history ∧ sender.Below entry.1
  asked : ∀ entry ∈ entries sender.sentBySeqnum,
    Matches history entry.1 entry.2
  yieldedBelow : ∀ number, yieldTimes number history ≠ [] →
    sender.Below number
  atMost : ∀ number,
    (yieldTimes number history).length ≤ maxNackRetryCount

theorem tracks_new (limit : Nat) : Tracks limit [] (.new limit) where
  senderLimit := rfl
  cacheLimit := rfl
  room := Nat.zero_le _
  largest := by
    intro number member
    cases member
  known := by
    intro largest impossible
    cases impossible
  missing := by
    intro entry member
    cases member
  asked := by
    intro entry member
    cases member
  yieldedBelow := by
    intro number yielded
    exact absurd rfl yielded
  atMost := fun _ => Nat.zero_le _

variable {limit : Nat} {sender : NackSender}

/-- The entries say the same about a history that goes on with a received
number. -/
theorem matches_received {seqnum number : FullSequenceNumber}
    {sent : Option (Instant × Instant × Nat)} :
    Matches (history ++ [.received seqnum]) number sent ↔
      Matches history number sent := by
  unfold Matches
  simp only [yieldTimes_received, sendTimes_received]

theorem mem_received_snoc {seqnum number : FullSequenceNumber} :
    NackEvent.received number ∈ history ++ [.received seqnum] ↔
      .received number ∈ history ∨ number = seqnum := by
  rw [List.mem_append, List.mem_singleton, NackEvent.received.injEq]

variable {after : NackSender}

/-- The largest number only grows, to the received one at most. -/
theorem Receives.maxReceived (receives : Receives seqnum sender after) :
    ∃ largest, after.maxReceived = some largest ∧ seqnum ≤ largest ∧
      (largest = seqnum ∨ sender.maxReceived = some largest) ∧
      ∀ known, sender.maxReceived = some known → known ≤ largest := by
  cases receives with
  | first nothing =>
      refine ⟨seqnum, rfl, Nat.le_refl _, .inl rfl, ?_⟩
      intro known isKnown
      rw [nothing] at isKnown
      cases isKnown
  | again same =>
      refine ⟨seqnum, same, Nat.le_refl _, .inl rfl, ?_⟩
      intro known isKnown
      exact Nat.le_of_eq (Option.some.inj (isKnown.symm.trans same))
  | @late largest same less =>
      refine ⟨largest, same, Nat.le_of_lt less, .inr same, ?_⟩
      intro known isKnown
      exact Nat.le_of_eq (Option.some.inj (isKnown.symm.trans same))
  | @ahead largest cache same less =>
      refine ⟨seqnum, rfl, Nat.le_refl _, .inl rfl, ?_⟩
      intro known isKnown
      rw [same] at isKnown
      cases isKnown
      exact Nat.le_of_lt less

/-- An entry is an old one of another number, or a new one of a number that
was above the largest. -/
theorem Receives.entry_cases (receives : Receives seqnum sender after)
    (missing : ∀ entry ∈ entries sender.sentBySeqnum, sender.Below entry.1)
    (member : entry ∈ entries after.sentBySeqnum) :
    entry ∈ entries sender.sentBySeqnum ∧ entry.1 ≠ seqnum ∨
      entry.2 = none ∧ entry.1 < seqnum ∧
        ∃ largest, sender.maxReceived = some largest ∧ largest < entry.1 := by
  cases receives with
  | first nothing =>
      obtain ⟨largest, impossible, -⟩ := missing entry member
      rw [nothing] at impossible
      cases impossible
  | again same =>
      obtain ⟨largest, known, below⟩ := missing entry member
      rw [same] at known
      cases known
      exact .inl ⟨member, Nat.ne_of_lt below⟩
  | late same less =>
      have kept := List.mem_filter.mp member
      exact .inl ⟨kept.1, of_decide_eq_true kept.2⟩
  | @ahead largest cache same less cacheLimit fits members =>
      rcases members entry member with old | ⟨isNew, above, below⟩
      · obtain ⟨known, isKnown, below⟩ := missing entry old
        rw [same] at isKnown
        cases isKnown
        exact .inl ⟨old, Nat.ne_of_lt (lt_trans below less)⟩
      · exact .inr ⟨isNew, below, largest, same, above⟩

theorem Receives.limits (receives : Receives seqnum sender after)
    (cacheLimit : sender.sentBySeqnum.limit = sender.limit)
    (room : (entries sender.sentBySeqnum).length ≤ sender.limit) :
    after.limit = sender.limit ∧ after.sentBySeqnum.limit = sender.limit ∧
      (entries after.sentBySeqnum).length ≤ sender.limit := by
  cases receives with
  | first | again => exact ⟨rfl, cacheLimit, room⟩
  | late =>
      exact ⟨rfl, cacheLimit, le_trans (List.length_filter_le _ _) room⟩
  | ahead same less sameLimit fits members => exact ⟨rfl, sameLimit, fits⟩

theorem Tracks.received (tracks : Tracks limit history sender)
    (receives : Receives seqnum sender after) :
    Tracks limit (history ++ [.received seqnum]) after := by
  obtain ⟨senderLimit, cacheLimit, room⟩ := receives.limits
    (tracks.cacheLimit.trans tracks.senderLimit.symm)
    (tracks.senderLimit ▸ tracks.room)
  rw [tracks.senderLimit] at senderLimit cacheLimit room
  obtain ⟨largest, isLargest, reached, source, grown⟩ := receives.maxReceived
  have below : ∀ {number}, sender.Below number → after.Below number := by
    rintro number ⟨known, isKnown, below⟩
    exact ⟨largest, isLargest, Nat.lt_of_lt_of_le below (grown known isKnown)⟩
  have entryCases := fun entry => @Receives.entry_cases entry _ _ _ receives
    fun old member => (tracks.missing old member).2
  refine { senderLimit, cacheLimit, room
           largest := ?_
           known := ?_
           missing := ?_
           asked := ?_
           yieldedBelow := ?_
           atMost := ?_ }
  · intro number member
    refine ⟨largest, isLargest, ?_⟩
    rcases mem_received_snoc.mp member with earlier | rfl
    · obtain ⟨known, isKnown, atMost⟩ := tracks.largest number earlier
      exact Nat.le_trans atMost (grown known isKnown)
    · exact reached
  · intro known isKnown
    rw [isLargest] at isKnown
    cases isKnown
    exact mem_received_snoc.mpr (source.symm.imp_left (tracks.known _))
  · intro entry member
    rw [mem_received_snoc, not_or]
    rcases entryCases entry member with ⟨old, other⟩ |
      ⟨-, under, known, isKnown, above⟩
    · obtain ⟨notReceived, wasBelow⟩ := tracks.missing entry old
      exact ⟨⟨notReceived, other⟩, below wasBelow⟩
    · refine ⟨⟨?_, Nat.ne_of_lt under⟩, largest, isLargest,
        Nat.lt_of_lt_of_le under reached⟩
      intro received
      obtain ⟨other, isOther, atMost⟩ := tracks.largest _ received
      rw [isKnown] at isOther
      cases isOther
      exact Nat.not_lt.mpr atMost above
  · intro entry member
    rw [matches_received]
    rcases entryCases entry member with ⟨old, -⟩ |
      ⟨isNew, -, known, isKnown, above⟩
    · exact tracks.asked entry old
    · rw [isNew]
      by_contra yielded
      obtain ⟨other, isOther, under⟩ := tracks.yieldedBelow entry.1 yielded
      rw [isKnown] at isOther
      cases isOther
      exact lt_asymm above under
  · intro number yielded
    rw [yieldTimes_received] at yielded
    exact below (tracks.yieldedBelow number yielded)
  · intro number
    rw [yieldTimes_received]
    exact tracks.atMost number

theorem mem_marked :
    number ∈ sender.marked now rtt ↔
      ∃ sent, (number, sent) ∈ entries sender.sentBySeqnum ∧
        asks now rtt sent = true := by
  unfold marked
  simp only [List.mem_map, List.mem_filter, Prod.exists]
  constructor
  · rintro ⟨_, sent, ⟨member, asked⟩, rfl⟩
    exact ⟨sent, member, asked⟩
  · rintro ⟨sent, member, asked⟩
    exact ⟨number, sent, ⟨member, asked⟩, rfl⟩

theorem mem_marking
    (member : entry ∈ entries (sender.marking now rtt).sentBySeqnum) :
    ∃ sent, (entry.1, sent) ∈ entries sender.sentBySeqnum ∧
      (askAgain now rtt sent).map Prod.fst = some entry.2 := by
  obtain ⟨⟨number, sent⟩, older, kept⟩ := List.mem_filterMap.mp member
  obtain ⟨_, changed, rfl⟩ := Option.map_eq_some_iff.mp kept
  exact ⟨sent, older, changed⟩

theorem marked_pairwise :
    (sender.marked now rtt).Pairwise (· < ·) := by
  unfold marked
  rw [List.pairwise_map]
  exact sender.sentBySeqnum.valueByKey.sorted.filter _

/-- An entry that a call leaves alone has not been marked. -/
theorem not_mem_marked {sent : Option (Instant × Instant × Nat)}
    (member : (number, sent) ∈ entries sender.sentBySeqnum)
    (quiet : asks now rtt sent = false) :
    number ∉ sender.marked now rtt := by
  intro isMarked
  obtain ⟨other, another, loud⟩ := mem_marked.mp isMarked
  have same := value_unique sender.sentBySeqnum.valueByKey.sorted
    member another
  rw [same, loud] at quiet
  cases quiet

/-- What is known of a number that a call marks. -/
theorem Tracks.mem_marked (tracks : Tracks limit history sender)
    (member : number ∈ sender.marked now rtt) :
    .received number ∉ history ∧ sender.Below number ∧
      (yieldTimes number history).length < maxNackRetryCount ∧
      ∀ time ∈ yieldTimes number history,
        rtt ≤ now - time ∧ now - time < fromSecs 3 := by
  obtain ⟨sent, isEntry, asked⟩ := NackSender.mem_marked.mp member
  obtain ⟨notReceived, below⟩ := tracks.missing _ isEntry
  refine ⟨notReceived, below, ?_⟩
  have agrees := tracks.asked _ isEntry
  unfold asks at asked
  rcases askAgain_cases now rtt sent with ⟨rfl, -⟩ |
    ⟨first, last, count, rfl, dropped | ⟨young, few, due, -⟩ | kept⟩
  · have never : yieldTimes number history = [] := agrees
    rw [never]
    refine ⟨by decide, ?_⟩
    intro time impossible
    cases impossible
  · rw [dropped] at asked
    cases asked
  · obtain ⟨counted, -, -, -, between⟩ := agrees
    refine ⟨counted ▸ few, ?_⟩
    intro time yielded
    obtain ⟨after, before⟩ := between time yielded
    exact ⟨le_trans due (Nat.sub_le_sub_left before now),
      lt_of_le_of_lt (Nat.sub_le_sub_left after now) young⟩
  · rw [kept] at asked
    cases asked

theorem mem_sent_snoc :
    NackEvent.received number ∈ history ++ [.sent now rtt yielded] ↔
      .received number ∈ history := by
  simp

/-- An entry that is kept says the same about the longer history. -/
theorem Tracks.matches_marking (tracks : Tracks limit history sender)
    (later : ∀ time ∈ sendTimes history, time < now)
    (member : entry ∈ entries (sender.marking now rtt).sentBySeqnum) :
    Matches (history ++ [.sent now rtt (sender.marked now rtt)])
      entry.1 entry.2 := by
  obtain ⟨sent, isEntry, changed⟩ := mem_marking member
  have agrees := tracks.asked _ isEntry
  have isMarked : asks now rtt sent = true →
      entry.1 ∈ sender.marked now rtt :=
    fun asked => NackSender.mem_marked.mpr ⟨sent, isEntry, asked⟩
  have notMarked : asks now rtt sent = false →
      entry.1 ∉ sender.marked now rtt := not_mem_marked isEntry
  unfold asks at isMarked notMarked
  rcases askAgain_cases now rtt sent with ⟨rfl, new⟩ |
    ⟨first, last, count, rfl, dropped | ⟨-, few, -, again⟩ | kept⟩
  · rw [new] at changed isMarked
    have never : yieldTimes entry.1 history = [] := agrees
    rw [← Option.some.inj changed]
    unfold Matches
    dsimp only
    rw [yieldTimes_yielded (isMarked rfl), never, sendTimes_sent]
    refine ⟨rfl, by decide, Nat.le_refl _, by simp, ?_⟩
    intro time only
    rw [List.mem_singleton.mp only]
    exact ⟨Nat.le_refl _, Nat.le_refl _⟩
  · rw [dropped] at changed
    cases changed
  · rw [again] at changed isMarked
    obtain ⟨counted, -, ordered, lastSent, between⟩ := agrees
    have before := later last lastSent
    rw [← Option.some.inj changed]
    unfold Matches
    dsimp only
    rw [yieldTimes_yielded (isMarked rfl), sendTimes_sent,
      List.length_append, counted]
    refine ⟨rfl, few, le_trans ordered (Nat.le_of_lt before), by simp, ?_⟩
    intro time yielded
    rcases List.mem_append.mp yielded with earlier | only
    · obtain ⟨after, until_⟩ := between time earlier
      exact ⟨after, le_trans until_ (Nat.le_of_lt before)⟩
    · rw [List.mem_singleton.mp only]
      exact ⟨le_trans ordered (Nat.le_of_lt before), Nat.le_refl _⟩
  · rw [kept] at changed notMarked
    obtain ⟨counted, few, ordered, lastSent, between⟩ := agrees
    rw [← Option.some.inj changed]
    unfold Matches
    dsimp only
    rw [yieldTimes_passed (notMarked rfl), sendTimes_sent]
    exact ⟨counted, few, ordered, List.mem_append_left _ lastSent, between⟩

theorem Tracks.sent (tracks : Tracks limit history sender)
    (later : ∀ time ∈ sendTimes history, time < now) :
    Tracks limit (history ++ [.sent now rtt (sender.marked now rtt)])
      (sender.marking now rtt) where
  senderLimit := tracks.senderLimit
  cacheLimit := tracks.cacheLimit
  room := le_trans (List.length_filterMap_le _ _) tracks.room
  largest := by
    intro number received
    exact tracks.largest number (mem_sent_snoc.mp received)
  known := by
    intro largest known
    exact mem_sent_snoc.mpr (tracks.known largest known)
  missing := by
    intro entry member
    obtain ⟨sent, isEntry, _⟩ := mem_marking member
    obtain ⟨notReceived, below⟩ := tracks.missing _ isEntry
    exact ⟨fun received => notReceived (mem_sent_snoc.mp received), below⟩
  asked := fun _ member => tracks.matches_marking later member
  yieldedBelow := by
    intro number yielded
    by_cases member : number ∈ sender.marked now rtt
    · exact (tracks.mem_marked member).2.1
    · rw [yieldTimes_passed member] at yielded
      exact tracks.yieldedBelow number yielded
  atMost := by
    intro number
    by_cases member : number ∈ sender.marked now rtt
    · rw [yieldTimes_yielded member, List.length_append]
      exact (tracks.mem_marked member).2.2.1
    · rw [yieldTimes_passed member]
      exact tracks.atMost number

/-! ## Runs -/

/-- The calls are made at strictly increasing times. -/
def InOrder (history : List NackEvent) : Prop :=
  (sendTimes history).Pairwise (· < ·)

theorem InOrder.init {event : NackEvent}
    (inOrder : InOrder (history ++ [event])) : InOrder history := by
  unfold InOrder sendTimes at inOrder ⊢
  rw [List.filterMap_append] at inOrder
  exact (List.pairwise_append.mp inOrder).1

theorem InOrder.later (inOrder : InOrder (history ++ [.sent now rtt yielded])) :
    ∀ time ∈ sendTimes history, time < now := by
  unfold InOrder at inOrder
  rw [sendTimes_sent] at inOrder
  intro time member
  exact (List.pairwise_append.mp inOrder).2.2 time member now
    (List.mem_singleton_self _)

/-- What a call at this point of the history may yield. -/
def YieldsRightly (earlier : List NackEvent) : NackEvent → Prop
  | .received _ => True
  | .sent now rtt yielded =>
      yielded.Pairwise (· < ·) ∧ ∀ number ∈ yielded,
        .received number ∉ earlier ∧
        (∃ largest, .received largest ∈ earlier ∧ number < largest) ∧
        ∀ time ∈ yieldTimes number earlier,
          rtt ≤ now - time ∧ now - time < fromSecs 3

theorem Tracks.sentBefore (tracks : Tracks limit history sender)
    (later : ∀ time ∈ sendTimes history, time < now) :
    SentBefore now (entries sender.sentBySeqnum) := by
  intro number first last count member
  obtain ⟨-, -, -, lastSent, -⟩ := tracks.asked _ member
  exact later last lastSent

theorem Tracks.yieldsRightly (tracks : Tracks limit history sender) :
    YieldsRightly history (.sent now rtt (sender.marked now rtt)) := by
  refine ⟨marked_pairwise, ?_⟩
  intro number member
  obtain ⟨notReceived, ⟨largest, known, below⟩, -, apart⟩ :=
    tracks.mem_marked member
  exact ⟨notReceived, ⟨largest, tracks.known largest known, below⟩, apart⟩

theorem getD_marked :
    (if sender.marked now rtt = [] then none
      else some (sender.marked now rtt)).getD [] =
      sender.marked now rtt := by
  split
  · rename_i nothing
    exact nothing.symm
  · rfl

theorem tracks_of_run {events : List NackEvent}
    (run : Run NackStep (.new limit) events sender)
    (inOrder : InOrder events) :
    Tracks limit events sender ∧ Throughout YieldsRightly events := by
  induction run with
  | nil => exact ⟨tracks_new limit, throughout_nil⟩
  | snoc earlier last ih =>
      obtain ⟨tracks, rightly⟩ := ih inOrder.init
      cases last with
      | received small =>
          have receives := receives_rememberReceived
            (tracks.cacheLimit.trans tracks.senderLimit.symm)
            (le_trans tracks.room (le_of_eq tracks.senderLimit.symm)) small
          exact ⟨tracks.received receives,
            throughout_snoc.mpr ⟨rightly, trivial⟩⟩
      | sent result =>
          have later := inOrder.later
          rw [sendNacks_eq (tracks.sentBefore later)] at result
          cases result
          rw [getD_marked]
          exact ⟨tracks.sent later,
            throughout_snoc.mpr ⟨rightly, tracks.yieldsRightly⟩⟩

/-- A missing number is asked for at most ten times, at least a round-trip
time apart and within three seconds, until it is received; every call yields
what it has marked. -/
theorem nacks_of_run {events : List NackEvent}
    (run : Run NackStep (.new limit) events sender)
    (inOrder : InOrder events) :
    (entries sender.sentBySeqnum).length ≤ limit ∧
      Throughout YieldsRightly events ∧
      (∀ number, (yieldTimes number events).length ≤ 10) ∧
      ∀ now rtt, (∀ time ∈ sendTimes events, time < now) →
        sender.sendNacks now rtt = .ok (sender.marking now rtt,
          if sender.marked now rtt = [] then none
          else some (sender.marked now rtt)) := by
  obtain ⟨tracks, rightly⟩ := tracks_of_run run inOrder
  refine ⟨tracks.room, rightly, tracks.atMost, ?_⟩
  intro now rtt later
  exact sendNacks_eq (tracks.sentBefore later)

/-- The gap between 1 and 5 is wider than the limit; then 3 arrives. -/
theorem nacks_of_run_gap :
    (yieldTimes 4 [.received 1, .received 5, .sent 1000 100 [3, 4],
      .received 3, .sent 1200 100 [4]]).length ≤ 10 := by
  have first := Run.snoc Run.nil
    (@NackStep.received (.new 2) 1 (by decide))
  have gap := first.snoc (@NackStep.received _ 5 (by decide))
  have asked := gap.snoc (@NackStep.sent _ _ 1000 100 (some [3, 4]) rfl)
  have late := asked.snoc (@NackStep.received _ 3 (by decide))
  have again := late.snoc (@NackStep.sent _ _ 1200 100 (some [4]) rfl)
  have inOrder : ([1000, 1200] : List Instant).Pairwise (· < ·) := by decide
  exact (nacks_of_run again inOrder).2.2.1 4

end NackSender

end CallingService.Backend.Rtp
