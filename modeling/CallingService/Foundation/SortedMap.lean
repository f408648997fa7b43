import Mathlib.Data.List.Basic
import Mathlib.Order.Lattice

/-!
# Maps in key order

The entries of an ordered map, listed from the smallest key to the largest
one.
-/

namespace CallingService.Foundation

variable {K V : Type} [LinearOrder K]

/-- Put an entry at its place, replacing the value of an equal key. -/
def insertSorted (key : K) (value : V) : List (K × V) → List (K × V)
  | [] => [(key, value)]
  | entry :: rest =>
      if key < entry.1 then (key, value) :: entry :: rest
      else if key = entry.1 then (key, value) :: rest
      else entry :: insertSorted key value rest

theorem mem_insertSorted {key : K} {value : V} {entry : K × V} :
    ∀ {entries : List (K × V)}, entry ∈ insertSorted key value entries →
      entry = (key, value) ∨ entry ∈ entries := by
  intro entries
  induction entries with
  | nil =>
      intro found
      exact .inl (List.mem_singleton.mp found)
  | cons head rest ih =>
      intro found
      unfold insertSorted at found
      split at found
      · exact List.mem_cons.mp found
      · split at found
        · rcases List.mem_cons.mp found with new | old
          · exact .inl new
          · exact .inr (List.mem_cons_of_mem _ old)
        · rcases List.mem_cons.mp found with first | later
          · exact .inr (first ▸ List.mem_cons_self)
          · exact (ih later).imp_right (List.mem_cons_of_mem _)

theorem pairwise_insertSorted {key : K} {value : V} :
    ∀ {entries : List (K × V)},
      entries.Pairwise (fun left right => left.1 < right.1) →
      (insertSorted key value entries).Pairwise
        (fun left right => left.1 < right.1) := by
  intro entries
  induction entries with
  | nil =>
      intro _
      exact List.pairwise_singleton _ _
  | cons head rest ih =>
      intro sorted
      obtain ⟨first, tail⟩ := List.pairwise_cons.mp sorted
      unfold insertSorted
      split
      · rename_i smaller
        refine List.pairwise_cons.mpr ⟨?_, sorted⟩
        intro entry member
        rcases List.mem_cons.mp member with rfl | later
        · exact smaller
        · exact smaller.trans (first entry later)
      · split
        · rename_i same
          refine List.pairwise_cons.mpr ⟨?_, tail⟩
          intro entry member
          rw [same]
          exact first entry member
        · rename_i notSmaller different
          refine List.pairwise_cons.mpr ⟨?_, ih tail⟩
          intro entry member
          rcases mem_insertSorted member with rfl | old
          · exact lt_of_le_of_ne (not_lt.mp notSmaller) (Ne.symm different)
          · exact first entry old

theorem length_insertSorted_le (key : K) (value : V)
    (entries : List (K × V)) :
    (insertSorted key value entries).length ≤ entries.length + 1 := by
  induction entries with
  | nil => exact Nat.le_refl _
  | cons entry rest ih =>
      unfold insertSorted
      split
      · exact Nat.le_refl _
      · split
        · simp
        · simpa using ih

/-- The largest key comes last. -/
theorem insertSorted_of_larger {key : K} {value : V} {entries : List (K × V)}
    (larger : ∀ entry ∈ entries, entry.1 < key) :
    insertSorted key value entries = entries ++ [(key, value)] := by
  induction entries with
  | nil => rfl
  | cons entry rest ih =>
      obtain ⟨smaller, others⟩ := List.forall_mem_cons.mp larger
      unfold insertSorted
      rw [if_neg smaller.asymm, if_neg smaller.ne', ih others]
      rfl

/-- A key has one value. -/
theorem value_unique {entries : List (K × V)}
    (sorted : entries.Pairwise (fun left right => left.1 < right.1))
    {key : K} {value other : V}
    (member : (key, value) ∈ entries) (another : (key, other) ∈ entries) :
    value = other := by
  induction entries with
  | nil => cases member
  | cons head rest ih =>
      obtain ⟨first, tail⟩ := List.pairwise_cons.mp sorted
      rcases List.mem_cons.mp member with rfl | later
      · rcases List.mem_cons.mp another with same | afterwards
        · exact (Prod.mk.inj same).2.symm
        · exact absurd (first _ afterwards) (lt_irrefl key)
      · rcases List.mem_cons.mp another with rfl | afterwards
        · exact absurd (first _ later) (lt_irrefl key)
        · exact ih tail later afterwards

structure SortedMap (K V : Type) [LinearOrder K] where
  entries : List (K × V)
  sorted : entries.Pairwise (fun left right => left.1 < right.1)

namespace SortedMap

def empty : SortedMap K V where
  entries := []
  sorted := List.Pairwise.nil

def insert (map : SortedMap K V) (key : K) (value : V) : SortedMap K V where
  entries := insertSorted key value map.entries
  sorted := pairwise_insertSorted map.sorted

def erase (map : SortedMap K V) (key : K) : SortedMap K V where
  entries := map.entries.filter (fun entry => entry.1 ≠ key)
  sorted := map.sorted.filter _

/-- Drop the entry with the smallest key. -/
def popFirst (map : SortedMap K V) : SortedMap K V where
  entries := map.entries.tail
  sorted := map.sorted.tail

/-- Every entry is dropped or gets a new value. -/
def retain (change : K → V → Option V) (map : SortedMap K V) :
    SortedMap K V where
  entries := map.entries.filterMap fun entry =>
    (change entry.1 entry.2).map fun value => (entry.1, value)
  sorted := by
    apply List.Pairwise.filterMap _ _ map.sorted
    intro left right less leftKept leftEq rightKept rightEq
    obtain ⟨_, _, rfl⟩ := Option.map_eq_some_iff.mp leftEq
    obtain ⟨_, _, rfl⟩ := Option.map_eq_some_iff.mp rightEq
    exact less

def contains (map : SortedMap K V) (key : K) : Bool :=
  map.entries.any fun entry => entry.1 = key

end SortedMap

end CallingService.Foundation
