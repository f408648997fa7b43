import CallingService.Foundation.SortedMap
import Mathlib.Data.List.DropRight

/-!
# The key-sorted cache

A map with a bounded number of entries that drops its smallest key when it is
full.
-/

namespace CallingService

open Foundation

structure KeySortedCache (K V : Type) [LinearOrder K] where
  limit : Nat
  valueByKey : SortedMap K V

namespace KeySortedCache

variable {K V : Type} [LinearOrder K]

def new (limit : Nat) : KeySortedCache K V where
  limit := limit
  valueByKey := .empty

def insert (cache : KeySortedCache K V) (key : K) (value : V) :
    KeySortedCache K V :=
  let inserted := cache.valueByKey.insert key value
  { cache with
    valueByKey :=
      if cache.limit < inserted.entries.length then inserted.popFirst
      else inserted }

def remove (cache : KeySortedCache K V) (key : K) : KeySortedCache K V :=
  { cache with valueByKey := cache.valueByKey.erase key }

/-- The values of the entries that are kept may be changed. -/
def retain (change : K → V → Option V) (cache : KeySortedCache K V) :
    KeySortedCache K V :=
  { cache with valueByKey := cache.valueByKey.retain change }

/-! ## Insertion of larger keys -/

theorem ext_entries {cache other : KeySortedCache K V}
    (sameLimit : cache.limit = other.limit)
    (sameEntries : cache.valueByKey.entries = other.valueByKey.entries) :
    cache = other := by
  obtain ⟨limit, ⟨entries, sorted⟩⟩ := cache
  obtain ⟨otherLimit, ⟨otherEntries, otherSorted⟩⟩ := other
  cases sameLimit
  cases sameEntries
  rfl

/-- A key that is larger than those of a cache pushes out the smallest one when
the cache is full. -/
theorem entries_insert_of_larger {cache : KeySortedCache K V} {key : K}
    {value : V} (room : cache.valueByKey.entries.length ≤ cache.limit)
    (larger : ∀ entry ∈ cache.valueByKey.entries, entry.1 < key) :
    (cache.insert key value).valueByKey.entries =
      (cache.valueByKey.entries ++ [(key, value)]).rtake cache.limit := by
  have inserted : (cache.valueByKey.insert key value).entries =
      cache.valueByKey.entries ++ [(key, value)] :=
    insertSorted_of_larger larger
  have longer : (cache.valueByKey.entries ++ [(key, value)]).length =
      cache.valueByKey.entries.length + 1 := List.length_append
  unfold insert List.rtake
  dsimp only
  rw [inserted, longer]
  split
  · rename_i full
    have one : cache.valueByKey.entries.length + 1 - cache.limit = 1 := by
      omega
    rw [one, List.drop_one, ← inserted]
    rfl
  · rename_i fits
    rw [Nat.sub_eq_zero_of_le (Nat.not_lt.mp fits), List.drop_zero, inserted]

theorem rtake_append_of_le {α : Type} {count : Nat} {front back : List α}
    (enough : count ≤ back.length) :
    (front ++ back).rtake count = back.rtake count := by
  unfold List.rtake
  rw [List.length_append, Nat.add_sub_assoc enough, List.drop_append]
  simp

/-- What is dropped first does not come back. -/
theorem rtake_rtake_append {α : Type} (count : Nat) (front back : List α) :
    (front.rtake count ++ back).rtake count =
      (front ++ back).rtake count := by
  have whole : front.take (front.length - count) ++ front.rtake count =
      front := List.take_append_drop ..
  rcases Nat.le_total front.length count with short | long
  · unfold List.rtake
    rw [Nat.sub_eq_zero_of_le short, List.drop_zero]
  · have enough : count ≤ (front.rtake count ++ back).length := by
      unfold List.rtake
      rw [List.length_append, List.length_drop]
      omega
    rw [← @rtake_append_of_le _ _ (front.take (front.length - count)) _
      enough, ← List.append_assoc, whole]

theorem length_rtake_le {α : Type} (count : Nat) (items : List α) :
    (items.rtake count).length ≤ count := by
  unfold List.rtake
  rw [List.length_drop]
  omega

/-- Of some larger keys in increasing order the last ones are kept, and of
the former ones those for which there is room. -/
theorem foldl_insert_of_larger {cache : KeySortedCache K V} {keys : List K}
    (value : V) (room : cache.valueByKey.entries.length ≤ cache.limit)
    (increasing : keys.Pairwise (· < ·))
    (larger : ∀ entry ∈ cache.valueByKey.entries, ∀ key ∈ keys,
      entry.1 < key) :
    (keys.foldl (fun cache key => cache.insert key value) cache).limit =
        cache.limit ∧
      (keys.foldl (fun cache key => cache.insert key value)
        cache).valueByKey.entries =
        (cache.valueByKey.entries ++ keys.map (·, value)).rtake
          cache.limit := by
  induction keys generalizing cache with
  | nil =>
      refine ⟨rfl, ?_⟩
      unfold List.rtake
      rw [List.map_nil, List.append_nil, Nat.sub_eq_zero_of_le room]
      rfl
  | cons key keys ih =>
      obtain ⟨first, rest⟩ := List.pairwise_cons.mp increasing
      have inserted := @entries_insert_of_larger _ _ _ cache key value room
        fun entry member => larger entry member key List.mem_cons_self
      have kept : (cache.insert key value).valueByKey.entries.length ≤
          (cache.insert key value).limit := by
        rw [inserted]
        exact length_rtake_le ..
      have stillLarger : ∀ entry ∈ (cache.insert key value).valueByKey.entries,
          ∀ other ∈ keys, entry.1 < other := by
        intro entry member other isLater
        rw [inserted] at member
        rcases List.mem_append.mp (List.mem_of_mem_drop member) with
          old | new
        · exact larger entry old other (List.mem_cons_of_mem _ isLater)
        · cases List.mem_singleton.mp new
          exact first other isLater
      obtain ⟨sameLimit, entries⟩ := ih kept rest stillLarger
      refine ⟨sameLimit, ?_⟩
      rw [List.foldl_cons, entries, inserted]
      change (List.rtake _ cache.limit ++ _).rtake cache.limit = _
      rw [rtake_rtake_append, List.append_assoc]
      rfl

end KeySortedCache

end CallingService
