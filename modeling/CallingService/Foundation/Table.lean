import Mathlib.Data.List.AList
import Mathlib.Algebra.Order.BigOperators.Group.List
import Mathlib.Algebra.Order.Ring.Nat

/-!
# Finite tables

Hash maps are association lists without duplicate keys.  A table is summed by
a measure of its values; the lemmas say how the sum changes when one entry is
added, replaced or removed, so that a counter kept beside a table can be
compared with it.
-/

namespace CallingService.Foundation

universe u v w

abbrev Table (K : Type u) (V : Type v) := AList (fun _ : K => V)

namespace Table

variable {K : Type u} {V : Type v} {W : Type w}

def values (table : Table K V) : List V :=
  table.entries.map (·.2)

def total (measure : V → Nat) (table : Table K V) : Nat :=
  (table.entries.map fun entry => measure entry.2).sum

def mapValues (change : V → W) (table : Table K V) : Table K W where
  entries := table.entries.map fun entry => ⟨entry.1, change entry.2⟩
  nodupKeys := by
    have distinct := table.nodupKeys
    unfold List.NodupKeys List.keys at distinct ⊢
    simpa [List.map_map, Function.comp_def] using distinct

/-- `HashMap::retain`, for a test of the keys. -/
def retainKeys (test : K → Bool) (table : Table K V) : Table K V where
  entries := table.entries.filter fun entry => test entry.1
  nodupKeys := table.nodupKeys.sublist List.filter_sublist

@[simp] theorem keys_mapValues (change : V → W) (table : Table K V) :
    (mapValues change table).keys = table.keys := by
  simp [mapValues, AList.keys, List.keys, Function.comp_def]

@[simp] theorem total_empty (measure : V → Nat) :
    total measure (∅ : Table K V) = 0 := rfl

theorem total_mapValues (measure : W → Nat) (change : V → W)
    (table : Table K V) :
    total measure (mapValues change table) =
      total (fun value => measure (change value)) table := by
  simp [total, mapValues, Function.comp_def]

variable [DecidableEq K]

theorem lookup_mapValues (change : V → W) (table : Table K V) (key : K) :
    (mapValues change table).lookup key = (table.lookup key).map change := by
  obtain ⟨entries, distinct⟩ := table
  unfold AList.lookup mapValues
  dsimp only
  clear distinct
  induction entries with
  | nil => rfl
  | cons entry rest ih =>
      obtain ⟨other, value⟩ := entry
      by_cases same : key = other
      · subst same
        simp
      · rw [List.map_cons, List.dlookup_cons_ne _ _ same,
          List.dlookup_cons_ne _ _ same, ih]

variable {table : Table K V} {key : K}

theorem lookup_retainKeys {test : K → Bool} (kept : test key = true) :
    (retainKeys test table).lookup key = table.lookup key := by
  apply Option.ext
  intro value
  rw [← Option.mem_def, ← Option.mem_def, AList.mem_lookup_iff,
    AList.mem_lookup_iff]
  simp [retainKeys, kept]

theorem lookup_insertAll (keys : List K) (value : V) (table : Table K V)
    (key : K) :
    (keys.foldl (fun grown key => grown.insert key value) table).lookup key =
      if key ∈ keys then some value else table.lookup key := by
  induction keys generalizing table with
  | nil => rfl
  | cons first rest ih =>
      rw [List.foldl_cons, ih]
      by_cases later : key ∈ rest
      · rw [if_pos later, if_pos (List.mem_cons_of_mem _ later)]
      · rw [if_neg later]
        by_cases same : key = first
        · subst same
          simp
        · rw [AList.lookup_insert_ne same, if_neg (by simp [same, later])]

/-- Remove a list of keys, one after the other. -/
def eraseAll (keys : List K) (table : Table K V) : Table K V :=
  keys.foldl (fun remaining key => remaining.erase key) table

theorem lookup_eraseAll (keys : List K) (table : Table K V) (key : K) :
    (eraseAll keys table).lookup key =
      if key ∈ keys then none else table.lookup key := by
  unfold eraseAll
  induction keys generalizing table with
  | nil => simp
  | cons first rest ih =>
      rw [List.foldl_cons, ih]
      by_cases same : key = first
      · subst same
        simp
      · simp [same, AList.lookup_erase_ne same]

variable {value : V}

private theorem sum_kerase (measure : V → Nat)
    {entries : List (Sigma fun _ : K => V)}
    (found : List.dlookup key entries = some value) :
    (entries.map fun entry => measure entry.2).sum =
      measure value +
        ((List.kerase key entries).map fun entry => measure entry.2).sum := by
  induction entries with
  | nil => cases found
  | cons entry rest ih =>
      obtain ⟨other, otherValue⟩ := entry
      by_cases same : key = other
      · subst same
        rw [List.dlookup_cons_eq] at found
        cases found
        simp
      · rw [List.dlookup_cons_ne _ _ same] at found
        rw [List.kerase_cons_ne same]
        simp only [List.map_cons, List.sum_cons, ih found]
        omega

theorem total_eq_add_erase (measure : V → Nat)
    (found : table.lookup key = some value) :
    total measure table = measure value + total measure (table.erase key) :=
  sum_kerase measure found

theorem total_insert (measure : V → Nat) (table : Table K V) (key : K)
    (value : V) :
    total measure (table.insert key value) =
      measure value + total measure (table.erase key) := by
  rw [total, AList.entries_insert]
  rfl

/-- Replacing the value of a key. -/
theorem total_insert_of_lookup (measure : V → Nat) (changed : V)
    (found : table.lookup key = some value) :
    total measure (table.insert key changed) + measure value =
      total measure table + measure changed := by
  rw [total_insert, total_eq_add_erase measure found]
  omega

theorem total_insert_of_notMem (measure : V → Nat) (value : V)
    (fresh : key ∉ table) :
    total measure (table.insert key value) =
      measure value + total measure table := by
  rw [total, AList.entries_insert_of_notMem fresh]
  simp [total]

theorem length_keys_insert_of_notMem (value : V) (fresh : key ∉ table) :
    (table.insert key value).keys.length = table.keys.length + 1 := by
  rw [AList.keys_insert, List.erase_of_not_mem (by rwa [← AList.mem_keys])]
  rfl

theorem length_keys_insert_of_mem (value : V) (known : key ∈ table) :
    (table.insert key value).keys.length = table.keys.length := by
  rw [AList.mem_keys] at known
  rw [AList.keys_insert, List.length_cons, List.length_erase_of_mem known]
  have := List.length_pos_of_mem known
  omega

theorem mem_of_lookup (found : table.lookup key = some value)
    : key ∈ table := by
  rw [← AList.lookup_isSome, found]
  rfl

omit [DecidableEq K] in
theorem sum_values (measure : V → Nat) (table : Table K V) :
    ((values table).map measure).sum = total measure table := by
  simp [values, total, Function.comp_def]

theorem exists_lookup_of_mem_values (member : value ∈ values table) :
    ∃ key, table.lookup key = some value := by
  obtain ⟨⟨key, found⟩, inEntries, rfl⟩ := List.mem_map.mp member
  exact ⟨key, AList.mem_lookup_iff.mpr inEntries⟩

theorem measure_le_total (measure : V → Nat)
    (found : table.lookup key = some value) :
    measure value ≤ total measure table := by
  rw [total_eq_add_erase measure found]
  exact Nat.le_add_right _ _

theorem lookup_of_mem (member : ⟨key, value⟩ ∈ table.entries) :
    table.lookup key = some value :=
  AList.mem_lookup_iff.mpr member

theorem total_le_mul {measure : V → Nat} {bound : Nat}
    (bounded : ∀ {key value}, table.lookup key = some value →
      measure value ≤ bound) :
    total measure table ≤ table.keys.length * bound := by
  have pointwise : ∀ amount ∈ table.entries.map fun entry => measure entry.2,
      amount ≤ bound := by
    intro amount member
    obtain ⟨⟨key, value⟩, inEntries, rfl⟩ := List.mem_map.mp member
    exact bounded (lookup_of_mem inEntries)
  have summed := List.sum_le_card_nsmul _ _ pointwise
  simpa [total, AList.keys, List.keys] using summed

private theorem sum_over_keys (measure : V → Nat) (table : Table K V) :
    (table.keys.map fun key => (table.lookup key).elim 0 measure).sum =
      total measure table := by
  unfold AList.keys List.keys total
  rw [List.map_map]
  congr 1
  apply List.map_congr_left
  rintro ⟨key, value⟩ member
  simp [lookup_of_mem member]

/-- A sum over the keys in any order of iteration. -/
theorem sum_of_perm_keys (measure : V → Nat) {order : List K}
    (iteration : order.Perm table.keys) :
    (order.map fun key => (table.lookup key).elim 0 measure).sum =
      total measure table := by
  rw [← sum_over_keys measure table]
  exact (iteration.map _).sum_eq

/-! ## Tables that grow -/

omit [DecidableEq K] in
/-- The keys afterwards were there before, or are new ones. -/
def GrownBy (new : K → Prop) (before after : Table K V) : Prop :=
  ∀ key, key ∈ after → key ∈ before ∨ new key

omit [DecidableEq K] in
theorem GrownBy.refl (new : K → Prop) (table : Table K V) :
    GrownBy new table table := fun _ member => .inl member

omit [DecidableEq K] in
theorem GrownBy.trans {new : K → Prop} {first second third : Table K V}
    (one : GrownBy new first second) (two : GrownBy new second third) :
    GrownBy new first third := by
  intro key member
  rcases two key member with old | isNew
  · exact one key old
  · exact .inr isNew

/-- Nothing but one key has changed. -/
theorem grownBy_of_lookup {new : K → Prop} {before after : Table K V}
    (isNew : new key) (others : ∀ {other}, other ≠ key →
      after.lookup other = before.lookup other) :
    GrownBy new before after := by
  intro other member
  by_cases same : other = key
  · rw [same]
    exact .inr isNew
  · rw [← AList.lookup_isSome, others same, AList.lookup_isSome] at member
    exact .inl member

theorem grownBy_insert {new : K → Prop} (isNew : new key) (table : Table K V)
    (value : V) :
    GrownBy new table (table.insert key value) :=
  grownBy_of_lookup isNew AList.lookup_insert_ne

theorem mem_eraseAll {keys : List K} :
    key ∈ eraseAll keys table ↔ key ∈ table ∧ key ∉ keys := by
  rw [← AList.lookup_isSome, lookup_eraseAll]
  split
  · rename_i erased
    simp [erased]
  · rename_i kept
    simp [kept, AList.lookup_isSome]

omit [DecidableEq K] in
theorem mem_retainKeys {test : K → Bool} :
    key ∈ retainKeys test table ↔ key ∈ table ∧ test key = true := by
  rw [AList.mem_keys, AList.mem_keys]
  unfold AList.keys List.keys retainKeys
  simp only [List.mem_map, List.mem_filter]
  constructor
  · intro member
    obtain ⟨entry, ⟨isEntry, passes⟩, rfl⟩ := member
    exact ⟨⟨entry, isEntry, rfl⟩, passes⟩
  · intro member
    obtain ⟨⟨entry, isEntry, rfl⟩, passes⟩ := member
    exact ⟨entry, ⟨isEntry, passes⟩, rfl⟩

end Table

end CallingService.Foundation
