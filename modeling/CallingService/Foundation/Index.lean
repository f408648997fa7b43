import CallingService.Foundation.Table

/-!
# Secondary indices

An index finds the key of an entry by a name that its value carries.  It is
kept in step with the table by every insertion and removal.
-/

namespace CallingService.Foundation

universe u v w

variable {K : Type u} {V : Type v} {N : Type w}
variable [DecidableEq K] [DecidableEq N]

/-- The index has exactly the names of the values in the table. -/
def IsIndex (name : V → N) (table : Table K V) (index : Table N K) : Prop :=
  ∀ named key, index.lookup named = some key ↔
    ∃ value, table.lookup key = some value ∧ name value = named

namespace IsIndex

variable {name : V → N} {table : Table K V} {index : Table N K}

theorem empty : IsIndex name (∅ : Table K V) (∅ : Table N K) := by
  intro named key
  constructor
  · intro found
    cases found
  · rintro ⟨value, found, _⟩
    cases found

/-- A new key with a new name. -/
theorem insert (indexed : IsIndex name table index) {key : K} {value : V}
    (newKey : table.lookup key = none)
    (newName : index.lookup (name value) = none) :
    IsIndex name (table.insert key value) (index.insert (name value) key) := by
  intro named other
  by_cases sameName : named = name value
  · subst sameName
    rw [AList.lookup_insert, Option.some_inj]
    constructor
    · rintro rfl
      exact ⟨value, AList.lookup_insert _, rfl⟩
    · rintro ⟨present, found, isNamed⟩
      by_contra different
      rw [AList.lookup_insert_ne (Ne.symm different)] at found
      have stored := (indexed (name value) other).mpr ⟨present, found, isNamed⟩
      rw [newName] at stored
      cases stored
  · rw [AList.lookup_insert_ne sameName, indexed]
    constructor
    · rintro ⟨present, found, isNamed⟩
      have different : other ≠ key := by
        rintro rfl
        rw [newKey] at found
        cases found
      exact ⟨present, by rw [AList.lookup_insert_ne different, found], isNamed⟩
    · rintro ⟨present, found, isNamed⟩
      by_cases sameKey : other = key
      · subst sameKey
        rw [AList.lookup_insert, Option.some_inj] at found
        subst found
        exact absurd isNamed.symm sameName
      · rw [AList.lookup_insert_ne sameKey] at found
        exact ⟨present, found, isNamed⟩

/-- The name of a value is erased together with it. -/
theorem erase (indexed : IsIndex name table index) {key : K} {value : V}
    (stored : table.lookup key = some value) :
    IsIndex name (table.erase key) (index.erase (name value)) := by
  have isIndexed := (indexed (name value) key).mpr ⟨value, stored, rfl⟩
  intro named other
  by_cases sameName : named = name value
  · subst sameName
    rw [AList.lookup_erase]
    constructor
    · intro found
      cases found
    · rintro ⟨present, found, isNamed⟩
      have different : other ≠ key := by
        rintro rfl
        rw [AList.lookup_erase] at found
        cases found
      rw [AList.lookup_erase_ne different] at found
      have alsoIndexed :=
        (indexed (name value) other).mpr ⟨present, found, isNamed⟩
      rw [isIndexed] at alsoIndexed
      exact absurd (Option.some.inj alsoIndexed).symm different
  · rw [AList.lookup_erase_ne sameName, indexed]
    constructor
    · rintro ⟨present, found, isNamed⟩
      have different : other ≠ key := by
        rintro rfl
        rw [stored, Option.some_inj] at found
        subst found
        exact sameName isNamed.symm
      exact ⟨present, by rw [AList.lookup_erase_ne different, found], isNamed⟩
    · rintro ⟨present, found, isNamed⟩
      by_cases sameKey : other = key
      · subst sameKey
        rw [AList.lookup_erase] at found
        cases found
      · rw [AList.lookup_erase_ne sameKey] at found
        exact ⟨present, found, isNamed⟩

/-- Values may change as long as their names stay. -/
theorem congr (indexed : IsIndex name table index) {next : Table K V}
    (sameNames : ∀ key, (next.lookup key).map name =
      (table.lookup key).map name) : IsIndex name next index := by
  intro named key
  rw [indexed]
  have same := sameNames key
  constructor
  · rintro ⟨value, found, isNamed⟩
    rw [found, Option.map_some, isNamed] at same
    exact Option.map_eq_some_iff.mp same
  · rintro ⟨value, found, isNamed⟩
    rw [found, Option.map_some, isNamed] at same
    exact Option.map_eq_some_iff.mp same.symm

end IsIndex

end CallingService.Foundation
