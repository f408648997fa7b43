import Mathlib.Data.List.Perm.Basic
import Mathlib.Data.List.Nodup

/-!
# Vectors

The operations of growable arrays that change a list in place: removal by
swapping with the last element, and the change of the first element that
passes a test.
-/

namespace CallingService.Foundation

variable {α β : Type*}

/-- `Vec::swap_remove`: the last element takes the place of the removed
one. -/
def swapRemove (items : List α) (index : Nat) : List α :=
  match items.getLast? with
  | none => []
  | some last => (items.set index last).dropLast

/-- Change the first element that passes the test. -/
def modifyFirst (test : α → Bool) (change : α → α) : List α → List α
  | [] => []
  | item :: items =>
      if test item then change item :: items
      else item :: modifyFirst test change items

variable {items : List α} {item : α}

theorem swapRemove_perm {index : Nat} (found : items[index]? = some item) :
    (item :: swapRemove items index).Perm items := by
  rcases List.eq_nil_or_concat' items with rfl | ⟨front, last, rfl⟩
  · cases found
  · obtain ⟨inside, itemEq⟩ := List.getElem?_eq_some_iff.mp found
    have isLast : (front ++ [last]).getLast? = some last := by simp
    unfold swapRemove
    rw [isLast]
    dsimp only
    by_cases atEnd : index = front.length
    · subst atEnd
      have last_eq : item = last := by simpa using itemEq.symm
      subst last_eq
      rw [List.set_append_right _ _ (Nat.le_refl _)]
      simpa using List.perm_append_singleton item front |>.symm
    · have inFront : index < front.length := by
        rw [List.length_append, List.length_singleton] at inside
        omega
      have item_eq : front[index] = item := by
        rw [List.getElem_append_left inFront] at itemEq
        exact itemEq
      rw [List.set_append_left _ _ inFront, List.dropLast_concat]
      have swapped : (item :: front.set index last).Perm (last :: front) := by
        rw [← item_eq, List.set_eq_take_append_cons_drop, if_pos inFront]
        have split : front = front.take index ++ front[index] ::
            front.drop (index + 1) := by
          rw [List.getElem_cons_drop, List.take_append_drop]
        have moved : (front[index] ::
            (front.take index ++ last :: front.drop (index + 1))).Perm
              (last :: (front.take index ++ front[index] ::
                front.drop (index + 1))) := by
          have toFront := (List.perm_middle.cons front[index]).trans
            (List.Perm.swap last front[index]
              (front.take index ++ front.drop (index + 1)))
          exact toFront.trans (List.perm_middle.symm.cons last)
        rwa [← split] at moved
      exact swapped.trans (List.perm_append_singleton last front).symm

variable {test : α → Bool}

/-- Removal of the first element that passes a test. -/
theorem swapRemove_of_findIdx? {index : Nat}
    (position : items.findIdx? test = some index) :
    ∃ item, items[index]? = some item ∧ test item = true ∧
      (item :: swapRemove items index).Perm items := by
  obtain ⟨inside, passes, _⟩ := List.findIdx?_eq_some_iff_getElem.mp position
  have found := List.getElem?_eq_getElem inside
  exact ⟨items[index], found, passes, swapRemove_perm found⟩

theorem map_swapRemove (change : α → β) (items : List α) (index : Nat) :
    (swapRemove items index).map change =
      swapRemove (items.map change) index := by
  unfold swapRemove
  rw [List.getLast?_map]
  cases items.getLast? with
  | none => rfl
  | some last => simp [List.map_dropLast, List.map_set]

theorem mem_of_mem_swapRemove {index : Nat}
    (member : item ∈ swapRemove items index) : item ∈ items := by
  unfold swapRemove at member
  split at member
  · cases member
  · rename_i last isLast
    rcases List.mem_or_eq_of_mem_set (List.dropLast_subset _ member) with
      kept | rfl
    · exact kept
    · exact List.mem_of_getLast? isLast

variable {change : α → α}

theorem mem_modifyFirst (member : item ∈ modifyFirst test change items) :
    item ∈ items ∨
      ∃ origin, items.find? test = some origin ∧ item = change origin := by
  induction items with
  | nil => cases member
  | cons first rest ih =>
      unfold modifyFirst at member
      split at member
      · rename_i passes
        rcases List.mem_cons.mp member with isFirst | inRest
        · exact .inr ⟨first, List.find?_cons_of_pos passes, isFirst⟩
        · exact .inl (List.mem_cons_of_mem _ inRest)
      · rename_i fails
        rw [List.find?_cons_of_neg fails]
        rcases List.mem_cons.mp member with rfl | inRest
        · exact .inl List.mem_cons_self
        · rcases ih inRest with old | changed
          · exact .inl (List.mem_cons_of_mem _ old)
          · exact .inr changed

/-- If no two elements pass the test, then all that pass are changed. -/
theorem mem_modifyFirst_of_unique (unique : items.Pairwise fun first second =>
      test first = true → test second = false)
    (member : item ∈ modifyFirst test change items) :
    (item ∈ items ∧ test item = false) ∨
      ∃ origin ∈ items, test origin = true ∧ item = change origin := by
  induction items with
  | nil => cases member
  | cons first rest ih =>
      obtain ⟨fromFirst, inRest⟩ := List.pairwise_cons.mp unique
      unfold modifyFirst at member
      split at member
      · rename_i passes
        rcases List.mem_cons.mp member with isFirst | later
        · exact .inr ⟨first, List.mem_cons_self, passes, isFirst⟩
        · exact .inl ⟨List.mem_cons_of_mem _ later, fromFirst item later passes⟩
      · rename_i fails
        rcases List.mem_cons.mp member with rfl | later
        · exact .inl ⟨List.mem_cons_self, by simpa using fails⟩
        · rcases ih inRest later with ⟨old, other⟩ | ⟨origin, known, changed⟩
          · exact .inl ⟨List.mem_cons_of_mem _ old, other⟩
          · exact .inr ⟨origin, List.mem_cons_of_mem _ known, changed⟩

/-- A change that keeps a view of the found element keeps the view of the
list. -/
theorem map_modifyFirst {view : α → β}
    (kept : ∀ {item}, items.find? test = some item →
      view (change item) = view item) :
    (modifyFirst test change items).map view = items.map view := by
  induction items with
  | nil => rfl
  | cons item items ih =>
      unfold modifyFirst
      split
      · rename_i passes
        simp [kept (List.find?_cons_of_pos passes)]
      · rename_i fails
        rw [List.find?_cons_of_neg fails] at kept
        simp [ih kept]

/-- A list stays as it is if and only if its first item that passes does. -/
theorem modifyFirst_eq_self_iff (found : items.find? test = some item) :
    modifyFirst test change items = items ↔ change item = item := by
  induction items with
  | nil => cases found
  | cons first rest ih =>
      unfold modifyFirst
      cases passes : test first with
      | true =>
          rw [List.find?_cons_of_pos passes] at found
          cases found
          rw [if_pos rfl]
          exact ⟨List.head_eq_of_cons_eq, fun same => by rw [same]⟩
      | false =>
          have fails : ¬ test first = true := by
            rw [passes]
            exact Bool.false_ne_true
          rw [List.find?_cons_of_neg fails] at found
          rw [if_neg Bool.false_ne_true, List.cons.injEq]
          exact (and_iff_right rfl).trans (ih found)

/-- A list of one value is what remains when another such value is pushed and
the oldest one is dropped. -/
theorem concat_eq_cons_iff {first last : α} {rest : List α} :
    rest ++ [last] = first :: rest ↔ ∀ item ∈ first :: rest, item = last := by
  induction rest generalizing first with
  | nil =>
      rw [List.nil_append, List.forall_mem_singleton, List.cons.injEq]
      exact (and_iff_left rfl).trans eq_comm
  | cons second rest ih =>
      rw [List.cons_append, List.cons.injEq, ih]
      constructor
      · rintro ⟨rfl, all⟩
        exact List.forall_mem_cons.mpr ⟨all _ List.mem_cons_self, all⟩
      · intro all
        obtain ⟨isLast, others⟩ := List.forall_mem_cons.mp all
        exact ⟨(others _ List.mem_cons_self).trans isLast.symm, others⟩

end CallingService.Foundation
