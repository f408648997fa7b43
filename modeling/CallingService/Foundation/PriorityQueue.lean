import Mathlib.Data.List.Sort

/-!
# Priority queues

A queue hands out an item with the least key.  Which one of several such items
it is, and how the items are laid out, is left open; a sorted list is one
queue.
-/

namespace CallingService.Foundation

universe u v w

variable {Item : Type u} {Key : Type v} [LinearOrder Key]

/-- The item has the least key of all that are listed. -/
def Least (key : Item → Key) (item : Item) (items : List Item) : Prop :=
  item ∈ items ∧ ∀ other ∈ items, key item ≤ key other

structure PriorityQueue (key : Item → Key) where
  Heap : Type w
  new : Heap
  push : Heap → Item → Heap
  peek : Heap → Option Item
  pop : Heap → Option (Item × Heap)
  /-- The items of the queue, in any order. -/
  items : Heap → List Item
  items_new : items new = []
  items_push : ∀ heap item, (items (push heap item)).Perm (item :: items heap)
  peek_eq_none : ∀ {heap}, peek heap = none → items heap = []
  peek_eq_some : ∀ {heap item}, peek heap = some item →
    Least key item (items heap)
  pop_eq_none : ∀ {heap}, pop heap = none → items heap = []
  pop_eq_some : ∀ {heap item rest}, pop heap = some (item, rest) →
    (items heap).Perm (item :: items rest) ∧ Least key item (items heap)

theorem Least.key_eq {key : Item → Key} {first second : Item}
    {items : List Item} (left : Least key first items)
    (right : Least key second items) : key first = key second :=
  le_antisymm (left.2 second right.1) (right.2 first left.1)

namespace PriorityQueue

variable {key : Item → Key} (queue : PriorityQueue.{u, v, w} key)
variable {heap : queue.Heap} {item : Item}

theorem peek_isSome (present : item ∈ queue.items heap) :
    ∃ first, queue.peek heap = some first ∧
      Least key first (queue.items heap) := by
  cases found : queue.peek heap with
  | none =>
      rw [queue.peek_eq_none found] at present
      cases present
  | some first => exact ⟨first, rfl, queue.peek_eq_some found⟩

end PriorityQueue

/-! ## Sorted lists -/

/-- A list whose first item is the least one, and so on. -/
abbrev SortedList (key : Item → Key) :=
  { items : List Item // items.Pairwise (Order.Preimage key (· ≤ ·)) }

def SortedList.pop {key : Item → Key} :
    SortedList key → Option (Item × SortedList key)
  | ⟨[], _⟩ => none
  | ⟨first :: rest, sorted⟩ => some (first, ⟨rest, sorted.of_cons⟩)

theorem SortedList.least_head {key : Item → Key} {first : Item}
    {rest : List Item} (sorted : (first :: rest).Pairwise (Order.Preimage key (· ≤ ·))) :
    Least key first (first :: rest) := by
  refine ⟨List.mem_cons_self, fun other member => ?_⟩
  rcases List.mem_cons.mp member with rfl | later
  · exact le_refl _
  · exact List.rel_of_pairwise_cons sorted later

/-- The queue that hands out the latest of the items with one key. -/
def PriorityQueue.ofSortedList (key : Item → Key) : PriorityQueue key where
  Heap := SortedList key
  new := ⟨[], .nil⟩
  push heap item :=
    ⟨heap.val.orderedInsert (Order.Preimage key (· ≤ ·)) item,
      heap.property.orderedInsert item heap.val⟩
  peek heap := heap.val.head?
  pop := SortedList.pop
  items heap := heap.val
  items_new := rfl
  items_push heap item := List.perm_orderedInsert _ item heap.val
  peek_eq_none := List.head?_eq_none_iff.mp
  peek_eq_some := by
    rintro ⟨items, sorted⟩ item found
    cases items with
    | nil => cases found
    | cons first rest =>
        cases found
        exact SortedList.least_head sorted
  pop_eq_none := by
    rintro ⟨items, sorted⟩ nothing
    cases items with
    | nil => rfl
    | cons first rest => cases nothing
  pop_eq_some := by
    rintro ⟨items, sorted⟩ item rest taken
    cases items with
    | nil => cases taken
    | cons first others =>
        cases taken
        exact ⟨.refl _, SortedList.least_head sorted⟩

end CallingService.Foundation
