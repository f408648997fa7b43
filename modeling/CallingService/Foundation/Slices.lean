import Mathlib.Data.List.Basic

/-!
# Parts of a list

The items between two positions, and lists with such a part replaced.  Both
are described item by item, so that lists which agree between two positions
have the same part there.
-/

namespace CallingService.Foundation

variable {Item : Type*}

/-- The items from `start` on and before `finish`. -/
def slice (start finish : Nat) (items : List Item) : List Item :=
  (items.take finish).drop start

theorem length_slice (start finish : Nat) (items : List Item) :
    (slice start finish items).length = min finish items.length - start := by
  unfold slice
  rw [List.length_drop, List.length_take]

variable {items : List Item}

theorem length_slice_of_le {start finish : Nat} (inside : finish ≤ items.length) :
    (slice start finish items).length = finish - start := by
  rw [length_slice, Nat.min_eq_left inside]

theorem getElem?_slice (start finish index : Nat) (items : List Item) :
    (slice start finish items)[index]? =
      if start + index < finish then items[start + index]? else none := by
  unfold slice
  rw [List.getElem?_drop, List.getElem?_take]

theorem drop_slice (start finish count : Nat) (items : List Item) :
    (slice start finish items).drop count =
      slice (start + count) finish items := by
  unfold slice
  rw [List.drop_drop]

theorem take_slice {start finish count : Nat} (items : List Item)
    (inside : start + count ≤ finish) :
    (slice start finish items).take count =
      slice start (start + count) items := by
  unfold slice
  rw [List.take_drop, List.take_take, Nat.min_eq_left inside]

theorem slice_slice {start finish first last : Nat} (items : List Item)
    (inside : start + last ≤ finish) :
    slice first last (slice start finish items) =
      slice (start + first) (start + last) items := by
  rw [← drop_slice, ← take_slice items inside]
  rfl

theorem take_drop_eq_slice (start count : Nat) (items : List Item) :
    (items.drop start).take count = slice start (start + count) items := by
  unfold slice
  rw [List.take_drop]

/-- A part is where the parts before it end. -/
theorem slice_middle {start finish : Nat} {first middle last : List Item}
    (starts : first.length = start)
    (finishes : start + middle.length = finish) :
    slice start finish (first ++ (middle ++ last)) = middle := by
  rw [← finishes, ← starts, ← take_drop_eq_slice, List.drop_left,
    List.take_left]

theorem slice_congr {start finish : Nat} {items others : List Item}
    (same : ∀ index, start ≤ index → index < finish →
      others[index]? = items[index]?) :
    slice start finish others = slice start finish items := by
  apply List.ext_getElem?
  intro index
  rw [getElem?_slice, getElem?_slice]
  split
  · rename_i inside
    exact same _ (Nat.le_add_right _ _) inside
  · rfl

/-! ## Replaced parts -/

section Replaced

variable {start finish : Nat} {items source : List Item}
  (inside : finish ≤ items.length)
  (sameLength : start + source.length = finish)
include inside sameLength

theorem length_replaced :
    (items.take start ++ source ++ items.drop finish).length =
      items.length := by
  rw [List.length_append, List.length_append, List.length_take,
    List.length_drop]
  omega

theorem getElem?_replaced (index : Nat) :
    (items.take start ++ source ++ items.drop finish)[index]? =
      if start ≤ index ∧ index < finish then source[index - start]?
      else items[index]? := by
  have before : (items.take start).length = start := by
    rw [List.length_take]
    omega
  have together : (items.take start ++ source).length = finish := by
    rw [List.length_append, before, sameLength]
  by_cases early : index < finish
  · rw [List.getElem?_append_left (by omega)]
    by_cases first : index < start
    · rw [List.getElem?_append_left (by omega), List.getElem?_take,
        if_pos first, if_neg (by omega)]
    · rw [List.getElem?_append_right (by omega), before,
        if_pos ⟨by omega, early⟩]
  · rw [List.getElem?_append_right (by omega), together, List.getElem?_drop,
      if_neg (by omega)]
    congr 1
    omega

theorem slice_replaced :
    slice start finish (items.take start ++ source ++ items.drop finish) =
      source := by
  apply List.ext_getElem?
  intro index
  rw [getElem?_slice, getElem?_replaced inside sameLength]
  by_cases early : start + index < finish
  · rw [if_pos early, if_pos ⟨by omega, early⟩, Nat.add_sub_cancel_left]
  · rw [if_neg early, List.getElem?_eq_none (by omega)]

end Replaced

/-! ## Writes -/

/-- Items that replace those from a position on. -/
structure Write (Item : Type*) where
  start : Nat
  items : List Item

namespace Write

def finish (write : Write Item) : Nat := write.start + write.items.length

def apply (items : List Item) (write : Write Item) : List Item :=
  items.take write.start ++ write.items ++ items.drop write.finish

def Covers (write : Write Item) (index : Nat) : Prop :=
  write.start ≤ index ∧ index < write.finish

def Apart (first second : Write Item) : Prop :=
  first.finish ≤ second.start ∨ second.finish ≤ first.start

theorem length_apply {write : Write Item} (inside : write.finish ≤ items.length) :
    (apply items write).length = items.length :=
  length_replaced inside rfl

theorem getElem?_apply {write : Write Item} {index : Nat}
    (inside : write.finish ≤ items.length) (outside : ¬ write.Covers index) :
    (apply items write)[index]? = items[index]? := by
  unfold apply
  rw [getElem?_replaced inside rfl]
  exact if_neg outside

theorem slice_apply {write : Write Item} (inside : write.finish ≤ items.length) :
    slice write.start write.finish (apply items write) = write.items :=
  slice_replaced inside rfl

end Write

/-- One write after the other. -/
def applyWrites (items : List Item) (writes : List (Write Item)) :
    List Item :=
  writes.foldl Write.apply items

theorem applyWrites_append (items : List Item)
    (first second : List (Write Item)) :
    applyWrites items (first ++ second) =
      applyWrites (applyWrites items first) second :=
  List.foldl_append

theorem length_applyWrites {writes : List (Write Item)}
    (inside : ∀ write ∈ writes, write.finish ≤ items.length) :
    (applyWrites items writes).length = items.length := by
  induction writes generalizing items with
  | nil => rfl
  | cons write rest ih =>
      have first := Write.length_apply (inside write List.mem_cons_self)
      have later := @ih (Write.apply items write) (by
        intro other member
        rw [first]
        exact inside other (List.mem_cons_of_mem write member))
      exact later.trans first

theorem getElem?_applyWrites {writes : List (Write Item)} {index : Nat}
    (inside : ∀ write ∈ writes, write.finish ≤ items.length)
    (outside : ∀ write ∈ writes, ¬ write.Covers index) :
    (applyWrites items writes)[index]? = items[index]? := by
  induction writes generalizing items with
  | nil => rfl
  | cons write rest ih =>
      have fits := inside write List.mem_cons_self
      have first := Write.getElem?_apply fits (outside write List.mem_cons_self)
      have later := @ih (Write.apply items write)
        (by
          intro other member
          rw [Write.length_apply fits]
          exact inside other (List.mem_cons_of_mem write member))
        (fun other member => outside other (List.mem_cons_of_mem write member))
      exact later.trans first

theorem slice_applyWrites {writes : List (Write Item)} {start finish : Nat}
    (inside : ∀ write ∈ writes, write.finish ≤ items.length)
    (apart : ∀ write ∈ writes, write.finish ≤ start ∨ finish ≤ write.start) :
    slice start finish (applyWrites items writes) =
      slice start finish items := by
  apply slice_congr
  intro index above below
  apply getElem?_applyWrites inside
  intro write member covers
  have away := apart write member
  have within := covers
  unfold Write.Covers at within
  omega

/-- Writes that are apart from each other all stand in the end. -/
theorem slice_of_write {writes : List (Write Item)}
    (inside : ∀ write ∈ writes, write.finish ≤ items.length)
    (apart : writes.Pairwise Write.Apart) {write : Write Item}
    (member : write ∈ writes) :
    slice write.start write.finish (applyWrites items writes) =
      write.items := by
  induction apart generalizing items with
  | nil => cases member
  | @cons first rest away _ ih =>
      have fits := inside first List.mem_cons_self
      have restInside : ∀ other ∈ rest,
          other.finish ≤ (Write.apply items first).length := by
        intro other isOther
        rw [Write.length_apply fits]
        exact inside other (List.mem_cons_of_mem first isOther)
      rcases List.mem_cons.mp member with rfl | later
      · have kept := slice_applyWrites restInside (fun other isOther =>
          (away other isOther).symm)
        exact kept.trans (Write.slice_apply fits)
      · exact ih restInside later

/-! ## Chunks -/

/-- Parts of `size` items, of which the last one may be shorter; `count`
bounds their number. -/
def chunksUpTo (size : Nat) : Nat → List Item → List (List Item)
  | 0, _ => []
  | _ + 1, [] => []
  | count + 1, item :: items =>
      (item :: items).take size ::
        chunksUpTo size count ((item :: items).drop size)

/-- `slice::chunks`. -/
def chunks (size : Nat) (items : List Item) : List (List Item) :=
  chunksUpTo size items.length items

theorem flatten_chunksUpTo {size count : Nat} (positive : 0 < size)
    (enough : items.length ≤ count) :
    (chunksUpTo size count items).flatten = items := by
  induction count generalizing items with
  | zero =>
      rw [List.length_eq_zero_iff.mp (Nat.le_zero.mp enough)]
      rfl
  | succ count ih =>
      cases items with
      | nil => rfl
      | cons item items =>
          have rest : ((item :: items).drop size).length ≤ count := by
            rw [List.length_drop]
            simp only [List.length_cons] at enough ⊢
            omega
          rw [chunksUpTo, List.flatten_cons, ih rest, List.take_append_drop]

theorem flatten_chunks {size : Nat} (positive : 0 < size)
    (items : List Item) : (chunks size items).flatten = items :=
  flatten_chunksUpTo positive (Nat.le_refl _)

end CallingService.Foundation
