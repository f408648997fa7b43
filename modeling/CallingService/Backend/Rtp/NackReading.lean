import CallingService.Backend.Rtp.Nack
import CallingService.Foundation.Loop
import Mathlib.Data.List.Sort

/-!
# Reading negative acknowledgements

A payload lists a base number with a mask for the sixteen numbers after it, as
often as needed.  The writer forms the groups from full numbers; the reader
adds the places of the mask to truncated ones.
-/

namespace CallingService.Backend.Rtp

open Foundation

inductive ReadError where
  | unexpectedEof
deriving DecidableEq, Repr

structure Nack where
  ssrc : Ssrc
  seqnums : List TruncatedSequenceNumber
deriving DecidableEq, Repr

def lsBit (mask : UInt16) (index : Nat) : Bool :=
  mask >>> index.toUInt16 &&& 1 = 1

/-- The numbers of one item: the first one and those of its mask. -/
def entrySeqnums (firstSeqnum : TruncatedSequenceNumber) (mask : UInt16) :
    List TruncatedSequenceNumber :=
  firstSeqnum :: (List.range 16).filterMap fun index =>
    if lsBit mask index then some (firstSeqnum + (index + 1).toUInt16)
    else none

/-- One round of the loop over the items, with the numbers found so far. -/
def parseNackItem (state : Bytes × List TruncatedSequenceNumber) :
    Round (Bytes × List TruncatedSequenceNumber)
      (Except ReadError (List TruncatedSequenceNumber)) :=
  let (reader, seqnums) := state
  if reader.isEmpty then .leave (.ok seqnums)
  else match readBigEndian 2 reader with
    | none => .leave (.error .unexpectedEof)
    | some (firstSeqnum, reader) =>
        match readBigEndian 2 reader with
        | none => .leave (.error .unexpectedEof)
        | some (mask, reader) =>
            .again (reader,
              seqnums ++ entrySeqnums firstSeqnum.toUInt16 mask.toUInt16)

/-- The reader, with a bound on the rounds of its loop. -/
def parseNack (rounds : Nat) (rtcpPayload : Bytes) :
    Option (Except ReadError Nack) :=
  match readBigEndian 4 rtcpPayload with
  | none => some (.error .unexpectedEof)
  | some (ssrc, reader) =>
      (runLoop parseNackItem rounds (reader, [])).map fun ended =>
        ended.map fun seqnums => ⟨ssrc.toUInt32, seqnums⟩

/-! ## The mask of an item -/

/-- The places of the bits that are set. -/
def maskPlaces (mask : UInt16) : List Nat :=
  (List.range 16).filter fun index => lsBit mask index

theorem toNat_place_mod {place : Nat} (small : place < 16) :
    place.toUInt16.toNat % 16 = place := by
  rw [show place.toUInt16.toNat = place % 2 ^ 16 from
    UInt16.toNat_ofNat' .., Nat.mod_eq_of_lt (show place < 2 ^ 16 by omega),
    Nat.mod_eq_of_lt small]

theorem lsBit_eq_testBit (mask : UInt16) {index : Nat} (small : index < 16) :
    lsBit mask index = mask.toNat.testBit index := by
  have shift := toNat_place_mod small
  have word : (mask >>> index.toUInt16 &&& 1 = 1) ↔
      mask.toNat >>> index &&& 1 = 1 := by
    rw [← UInt16.toNat_inj, UInt16.toNat_and, UInt16.toNat_shiftRight, shift]
    rfl
  unfold lsBit Nat.testBit
  rw [Nat.and_comm] at word
  rw [decide_eq_decide.mpr word, Bool.eq_iff_iff, decide_eq_true_iff,
    bne_iff_ne]
  have bit := Nat.and_one_is_mod (mask.toNat >>> index)
  rw [Nat.and_comm] at bit
  omega

theorem mem_maskPlaces (mask : UInt16) (index : Nat) :
    index ∈ maskPlaces mask ↔
      index < 16 ∧ mask.toNat.testBit index = true := by
  unfold maskPlaces
  rw [List.mem_filter, List.mem_range]
  apply and_congr_right
  intro small
  rw [lsBit_eq_testBit mask small]

theorem pairwise_maskPlaces (mask : UInt16) :
    (maskPlaces mask).Pairwise (· < ·) :=
  List.Pairwise.filter _ List.pairwise_lt_range

theorem maskPlaces_zero : maskPlaces 0 = [] := by
  apply List.eq_nil_iff_forall_not_mem.mpr
  intro index member
  have bit := ((mem_maskPlaces 0 index).mp member).2
  simp at bit

theorem toNat_setBit (mask : UInt16) {place : Nat} (small : place < 16) :
    (mask ||| 1 <<< place.toUInt16).toNat = mask.toNat ||| 2 ^ place := by
  have shift := toNat_place_mod small
  have fits : 2 ^ place < 2 ^ 16 := Nat.pow_lt_pow_right (by omega) small
  rw [UInt16.toNat_or, UInt16.toNat_shiftLeft, shift,
    show (1 : UInt16).toNat = 1 from rfl, Nat.one_shiftLeft,
    Nat.mod_eq_of_lt fits]

/-- A bit above all others becomes the last place. -/
theorem maskPlaces_setBit (mask : UInt16) {place : Nat} (small : place < 16)
    (above : mask.toNat < 2 ^ place) :
    maskPlaces (mask ||| 1 <<< place.toUInt16) =
      maskPlaces mask ++ [place] := by
  have below : ∀ index ∈ maskPlaces mask, index < place := by
    intro index member
    have bit := ((mem_maskPlaces mask index).mp member).2
    have large := Nat.ge_two_pow_of_testBit bit
    exact (Nat.pow_lt_pow_iff_right (by omega)).mp
      (lt_of_le_of_lt large above)
  apply List.Pairwise.eq_of_mem_iff (pairwise_maskPlaces _)
  · apply List.pairwise_append.mpr
    refine ⟨pairwise_maskPlaces mask, List.pairwise_singleton _ _, ?_⟩
    intro index member last isLast
    rw [List.mem_singleton.mp isLast]
    exact below index member
  · intro index
    rw [mem_maskPlaces, toNat_setBit mask small, Nat.testBit_or,
      Nat.testBit_two_pow, List.mem_append, mem_maskPlaces,
      List.mem_singleton, Bool.or_eq_true, decide_eq_true_iff]
    constructor
    · rintro ⟨inside, set | same⟩
      · exact .inl ⟨inside, set⟩
      · exact .inr same.symm
    · rintro (⟨inside, set⟩ | rfl)
      · exact ⟨inside, .inl set⟩
      · exact ⟨small, .inr rfl⟩

theorem setBit_lt (mask : UInt16) {place : Nat} (small : place < 16)
    (above : mask.toNat < 2 ^ place) :
    (mask ||| 1 <<< place.toUInt16).toNat < 2 ^ (place + 1) := by
  rw [toNat_setBit mask small]
  apply Nat.or_lt_two_pow
  · exact above.trans (Nat.pow_lt_pow_right (by omega) (Nat.lt_succ_self _))
  · exact Nat.pow_lt_pow_right (by omega) (Nat.lt_succ_self _)

theorem entrySeqnums_eq (firstSeqnum : TruncatedSequenceNumber)
    (mask : UInt16) :
    entrySeqnums firstSeqnum mask = firstSeqnum ::
      (maskPlaces mask).map fun index =>
        firstSeqnum + (index + 1).toUInt16 := by
  have general : ∀ indices : List Nat,
      (indices.filterMap fun index => if lsBit mask index then
        some (firstSeqnum + (index + 1).toUInt16) else none) =
      (indices.filter fun index => lsBit mask index).map fun index =>
        firstSeqnum + (index + 1).toUInt16 := by
    intro indices
    induction indices with
    | nil => rfl
    | cons index indices ih =>
        rw [List.filterMap_cons, List.filter_cons]
        cases lsBit mask index with
        | false => exact ih
        | true => exact congrArg (List.cons _) ih
  unfold entrySeqnums maskPlaces
  rw [general]

/-! ## The items of a list of numbers -/

/-- The numbers that the reader finds in a list of items. -/
def itemSeqnums (items : List (TruncatedSequenceNumber × UInt16)) :
    List TruncatedSequenceNumber :=
  items.flatMap fun item => entrySeqnums item.1 item.2

theorem toUInt16_add (left right : Nat) :
    left.toUInt16 + right.toUInt16 = (left + right).toUInt16 :=
  (UInt16.ofNat_add left right).symm

/-- The bits of the mask are those of numbers at most `reached` after the
first one, and the numbers to come are larger. -/
theorem itemSeqnums_nackItems {rest : List Nat} :
    ∀ {firstSeqnum reached : Nat} {mask : UInt16},
      mask.toNat < 2 ^ reached →
      rest.Pairwise (· < ·) →
      (∀ seqnum ∈ rest, firstSeqnum + reached < seqnum) →
      itemSeqnums (nackItems firstSeqnum mask rest) =
        entrySeqnums firstSeqnum.toUInt16 mask ++
          rest.map (·.toUInt16) := by
  induction rest with
  | nil =>
      intro firstSeqnum reached mask _ _ _
      rfl
  | cons seqnum rest ih =>
      intro firstSeqnum reached mask masked increasing larger
      obtain ⟨smallest, increasingRest⟩ := List.pairwise_cons.mp increasing
      have after : firstSeqnum + reached < seqnum :=
        larger seqnum List.mem_cons_self
      unfold nackItems
      by_cases inGroup : 1 ≤ seqnum - firstSeqnum ∧
          seqnum - firstSeqnum ≤ 16
      · obtain ⟨place, far⟩ : ∃ place, seqnum = firstSeqnum + (place + 1) :=
          ⟨seqnum - firstSeqnum - 1, by omega⟩
        have small : place < 16 := by omega
        have above : mask.toNat < 2 ^ place :=
          lt_of_lt_of_le masked (Nat.pow_le_pow_right (by omega) (by omega))
        have placed : seqnum - firstSeqnum - 1 = place := by omega
        have later : ∀ next ∈ rest, firstSeqnum + (place + 1) < next := by
          intro next member
          rw [← far]
          exact smallest next member
        rw [if_pos inGroup, placed,
          ih (setBit_lt mask small above) increasingRest later,
          entrySeqnums_eq, entrySeqnums_eq,
          maskPlaces_setBit mask small above, List.map_append,
          List.map_singleton, toUInt16_add, ← far]
        simp
      · rw [if_neg inGroup]
        have alone : entrySeqnums seqnum.toUInt16 0 = [seqnum.toUInt16] := by
          rw [entrySeqnums_eq, maskPlaces_zero, List.map_nil]
        have group := @ih seqnum 0 0 (by decide) increasingRest smallest
        rw [alone] at group
        unfold itemSeqnums at group ⊢
        rw [List.flatMap_cons, group]
        rfl

/-! ## The loop over the items -/

/-- The bytes of a list of items. -/
def itemBytes (items : List (TruncatedSequenceNumber × UInt16)) : Bytes :=
  items.flatMap fun item =>
    toBigEndian 2 item.1.toNat ++ toBigEndian 2 item.2.toNat

theorem readBigEndian_word (word : UInt16) (rest : Bytes) :
    readBigEndian 2 (toBigEndian 2 word.toNat ++ rest) =
      some (word.toNat, rest) := by
  have small := word.toNat_lt
  rw [readBigEndian_toBigEndian, Nat.mod_eq_of_lt (by omega)]

theorem toUInt16_toNat (word : UInt16) : word.toNat.toUInt16 = word :=
  UInt16.ofNat_toNat

theorem parseNackItem_bytes (item : TruncatedSequenceNumber × UInt16)
    (rest : Bytes) (seqnums : List TruncatedSequenceNumber) :
    parseNackItem (toBigEndian 2 item.1.toNat ++
      (toBigEndian 2 item.2.toNat ++ rest), seqnums) =
      .again (rest, seqnums ++ entrySeqnums item.1 item.2) := by
  have notEmpty : (toBigEndian 2 item.1.toNat ++
      (toBigEndian 2 item.2.toNat ++ rest)).isEmpty = false := by
    rw [List.isEmpty_eq_false_iff, ← List.length_pos_iff,
      List.length_append, length_toBigEndian]
    omega
  unfold parseNackItem
  simp only [notEmpty, Bool.false_eq_true, if_false, readBigEndian_word,
    toUInt16_toNat]

theorem runLoop_itemBytes {items : List (TruncatedSequenceNumber × UInt16)} :
    ∀ {rounds : Nat} {seqnums : List TruncatedSequenceNumber},
      (itemBytes items).length < rounds →
      runLoop parseNackItem rounds (itemBytes items, seqnums) =
        some (.ok (seqnums ++ itemSeqnums items)) := by
  induction items with
  | nil =>
      intro rounds seqnums enough
      obtain ⟨further, rfl⟩ : ∃ further, rounds = further + 1 :=
        ⟨rounds - 1, by omega⟩
      rw [show itemSeqnums [] = [] from rfl, List.append_nil]
      exact runLoop_leave further rfl
  | cons item items ih =>
      intro rounds seqnums enough
      have bytes : itemBytes (item :: items) = toBigEndian 2 item.1.toNat ++
          (toBigEndian 2 item.2.toNat ++ itemBytes items) := by
        rw [itemBytes, List.flatMap_cons, List.append_assoc]
        rfl
      rw [bytes] at enough ⊢
      simp only [List.length_append, length_toBigEndian] at enough
      obtain ⟨further, rfl⟩ : ∃ further, rounds = further + 1 :=
        ⟨rounds - 1, by omega⟩
      rw [runLoop_again further (parseNackItem_bytes item _ seqnums),
        ih (by omega), List.append_assoc]
      rfl

theorem readBigEndian_eq_some {width value : Nat} {bytes rest : Bytes}
    (isRead : readBigEndian width bytes = some (value, rest)) :
    width ≤ bytes.length ∧ rest.length = bytes.length - width := by
  unfold readBigEndian at isRead
  split at isRead
  · cases isRead
  · cases isRead
    exact ⟨by omega, List.length_drop⟩

/-- Every round but the last one takes four bytes. -/
theorem parseNackItem_shorter
    {state next : Bytes × List TruncatedSequenceNumber}
    (goesOn : parseNackItem state = .again next) :
    next.1.length + 4 = state.1.length := by
  unfold parseNackItem at goesOn
  dsimp only at goesOn
  split at goesOn
  · cases goesOn
  · split at goesOn
    · cases goesOn
    · rename_i firstRead
      split at goesOn
      · cases goesOn
      · rename_i maskRead
        cases goesOn
        have first := readBigEndian_eq_some firstRead
        have mask := readBigEndian_eq_some maskRead
        dsimp only
        omega

theorem exists_parseNack {rounds : Nat} {payload : Bytes}
    (enough : payload.length < rounds) :
    ∃ result, parseNack rounds payload = some result := by
  unfold parseNack
  cases isRead : readBigEndian 4 payload with
  | none => exact ⟨_, rfl⟩
  | some found =>
      obtain ⟨ssrc, reader⟩ := found
      have rest := (readBigEndian_eq_some isRead).2
      obtain ⟨ended, ends⟩ := @exists_runLoop _ _ parseNackItem
        (fun state => state.1.length)
        (fun state next goesOn => by
          have := parseNackItem_shorter goesOn
          omega) rounds (reader, []) (by dsimp only; omega)
      refine ⟨ended.map fun seqnums => ⟨ssrc.toUInt32, seqnums⟩, ?_⟩
      simp only [ends, Option.map_some]

theorem writeNack_eq (ssrc : Ssrc) (seqnums : List FullSequenceNumber) :
    writeNack ssrc seqnums = toBigEndian 4 ssrc.toNat ++ itemBytes
      (match seqnums with
        | [] => []
        | firstSeqnum :: rest => nackItems firstSeqnum 0 rest) := rfl

theorem parseNack_items (ssrc : Ssrc)
    (items : List (TruncatedSequenceNumber × UInt16)) {rounds : Nat}
    (enough : (toBigEndian 4 ssrc.toNat ++ itemBytes items).length <
      rounds) :
    parseNack rounds (toBigEndian 4 ssrc.toNat ++ itemBytes items) =
      some (.ok ⟨ssrc, itemSeqnums items⟩) := by
  have small := ssrc.toNat_lt
  rw [List.length_append, length_toBigEndian] at enough
  unfold parseNack
  rw [readBigEndian_toBigEndian]
  dsimp only
  rw [runLoop_itemBytes (by omega), Nat.mod_eq_of_lt (by omega),
    List.nil_append, show ssrc.toNat.toUInt32 = ssrc from UInt32.ofNat_toNat]
  rfl

theorem parseNack_of_increasing (ssrc : Ssrc)
    {seqnums : List FullSequenceNumber}
    (increasing : seqnums.Pairwise (· < ·)) {rounds : Nat}
    (enough : (writeNack ssrc seqnums).length < rounds) :
    parseNack rounds (writeNack ssrc seqnums) =
      some (.ok ⟨ssrc, seqnums.map (·.toUInt16)⟩) := by
  cases seqnums with
  | nil => exact parseNack_items ssrc [] enough
  | cons firstSeqnum rest =>
      obtain ⟨larger, increasingRest⟩ := List.pairwise_cons.mp increasing
      rw [writeNack_eq] at enough ⊢
      rw [parseNack_items ssrc _ enough,
        @itemSeqnums_nackItems rest firstSeqnum 0 0 (by decide)
          increasingRest larger,
        entrySeqnums_eq, maskPlaces_zero]
      rfl

/-- What is written is read back, and the reader ends on every payload. -/
theorem parseNack_writeNack :
    (∀ (ssrc : Ssrc) (seqnums : List FullSequenceNumber),
      seqnums.Pairwise (· < ·) →
      ∀ rounds, (writeNack ssrc seqnums).length < rounds →
        parseNack rounds (writeNack ssrc seqnums) =
          some (.ok ⟨ssrc, seqnums.map (·.toUInt16)⟩)) ∧
    ∀ (payload : Bytes) (rounds : Nat), payload.length < rounds →
      ∃ result, parseNack rounds payload = some result :=
  ⟨fun ssrc _ increasing _ => parseNack_of_increasing ssrc increasing,
    fun _ _ => exists_parseNack⟩

/-- Numbers sixteen and seventeen apart, across a rollover. -/
theorem parseNack_writeNack_rollover :
    parseNack 20 (writeNack 7 [65530, 65546, 65563, 65564]) =
      some (.ok ⟨7, [65530, 10, 27, 28]⟩) :=
  parseNack_writeNack.1 7 [65530, 65546, 65563, 65564] (by decide) 20
    (by decide)

end CallingService.Backend.Rtp
