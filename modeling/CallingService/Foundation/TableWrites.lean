import CallingService.Foundation.Table

/-!
# Tables written entry by entry

Pairs that are collected into a hash map: a later pair replaces an earlier one
with the same key.
-/

namespace CallingService.Foundation

universe u v

namespace Table

variable {K : Type u} {V : Type v} [DecidableEq K]

def writeAll (pairs : List (K × V)) (table : Table K V) : Table K V :=
  pairs.foldl (fun written pair => written.insert pair.1 pair.2) table

variable {table : Table K V}

theorem writeAll_append {first second : List (K × V)} :
    writeAll (first ++ second) table = writeAll second (writeAll first table) :=
  List.foldl_append

variable {pairs : List (K × V)} {key : K}

theorem mem_writeAll :
    key ∈ writeAll pairs table ↔ key ∈ table ∨ key ∈ pairs.map Prod.fst := by
  induction pairs generalizing table with
  | nil => simp [writeAll]
  | cons pair rest ih =>
      unfold writeAll at ih ⊢
      rw [List.foldl_cons, ih, AList.mem_insert, List.map_cons, List.mem_cons]
      tauto

theorem lookup_writeAll_of_notMem (absent : key ∉ pairs.map Prod.fst) :
    (writeAll pairs table).lookup key = table.lookup key := by
  induction pairs generalizing table with
  | nil => rfl
  | cons pair rest ih =>
      rw [List.map_cons, List.mem_cons, not_or] at absent
      unfold writeAll at ih ⊢
      rw [List.foldl_cons, ih absent.2, AList.lookup_insert_ne absent.1]

/-- All pairs of the key agree on its value. -/
theorem lookup_writeAll_of_mem {value : V} (member : (key, value) ∈ pairs)
    (agree : ∀ {other}, (key, other) ∈ pairs → other = value) :
    (writeAll pairs table).lookup key = some value := by
  induction pairs generalizing table with
  | nil => cases member
  | cons pair rest ih =>
      by_cases again : key ∈ rest.map Prod.fst
      · obtain ⟨⟨_, other⟩, isPair, rfl⟩ := List.mem_map.mp again
        have same := agree (List.mem_cons_of_mem _ isPair)
        rw [same] at isPair
        unfold writeAll at ih ⊢
        rw [List.foldl_cons]
        exact ih isPair fun isOther => agree (List.mem_cons_of_mem _ isOther)
      · rcases List.mem_cons.mp member with rfl | later
        · have kept := @lookup_writeAll_of_notMem _ _ _
            (table.insert key value) rest key again
          unfold writeAll at kept ⊢
          rw [List.foldl_cons, kept, AList.lookup_insert]
        · exact absurd (List.mem_map_of_mem later) again

omit [DecidableEq K] in
theorem eq_of_mem_of_nodup {value other : V}
    (distinct : (pairs.map Prod.fst).Nodup) (member : (key, value) ∈ pairs)
    (isOther : (key, other) ∈ pairs) : other = value := by
  have same := List.inj_on_of_nodup_map distinct isOther member rfl
  exact congrArg Prod.snd same

end Table

end CallingService.Foundation
