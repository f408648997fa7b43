import CallingService.Foundation.Table
import CallingService.Common.Basics

/-!
# The two-generation cache

Entries live in the younger generation until the older one expires; an
insertion then drops the older generation and the younger one takes its
place.
-/

namespace CallingService

open Foundation

/-- A monotonic clock, in nanoseconds, which starts more than a second before
the first call: no interval is subtracted from an earlier time. -/
abbrev Instant := Nat

structure TwoGenerationCache (K V : Type) where
  generationLifetime : Duration
  generation0 : Table K V
  generation1 : Table K V
  generation1Expires : Instant

namespace TwoGenerationCache

variable {K V : Type}

def new (generationLifetime : Duration) (now : Instant) :
    TwoGenerationCache K V where
  generationLifetime := generationLifetime
  generation0 := ∅
  generation1 := ∅
  generation1Expires := now + generationLifetime

def swapGenerationsIfItsBeenTooLong (cache : TwoGenerationCache K V)
    (now : Instant) : TwoGenerationCache K V × Option (Table K V) :=
  if cache.generation1Expires ≤ now then
    ({ cache with
        generation0 := ∅
        generation1 := cache.generation0
        generation1Expires := now + cache.generationLifetime },
      some cache.generation1)
  else (cache, none)

variable [DecidableEq K]

def insertWithoutRemovingOld (cache : TwoGenerationCache K V) (key : K)
    (value : V) : TwoGenerationCache K V :=
  { cache with generation0 := cache.generation0.insert key value }

def removeOld (cache : TwoGenerationCache K V) (now : Instant) :
    TwoGenerationCache K V × List K :=
  match cache.swapGenerationsIfItsBeenTooLong now with
  | (next, some removed) =>
      (next, removed.keys.filter (· ∉ next.generation1.keys))
  | (next, none) => (next, [])

def insert (cache : TwoGenerationCache K V) (key : K) (value : V)
    (now : Instant) : TwoGenerationCache K V :=
  (cache.swapGenerationsIfItsBeenTooLong now).1.insertWithoutRemovingOld key
    value

def get (cache : TwoGenerationCache K V) (key : K) : Option V :=
  (cache.generation0.lookup key).or (cache.generation1.lookup key)

/-- A write through `get_mut`, in the generation that `get` reads. -/
def modify (cache : TwoGenerationCache K V) (key : K) (change : V → V) :
    TwoGenerationCache K V :=
  match cache.generation0.lookup key with
  | some value =>
      { cache with
        generation0 := cache.generation0.insert key (change value) }
  | none =>
      match cache.generation1.lookup key with
      | some value =>
          { cache with
            generation1 := cache.generation1.insert key (change value) }
      | none => cache

def remove (cache : TwoGenerationCache K V) (key : K) :
    TwoGenerationCache K V × Option V :=
  ({ cache with
      generation0 := cache.generation0.erase key
      generation1 := cache.generation1.erase key },
    (cache.generation0.lookup key).or (cache.generation1.lookup key))

theorem get_new (generationLifetime : Duration) (now : Instant) (key : K) :
    (new generationLifetime now : TwoGenerationCache K V).get key = none := rfl

/-- The latest insertion is found, in whichever generation older ones are. -/
theorem get_insertWithoutRemovingOld (cache : TwoGenerationCache K V)
    (key other : K) (value : V) :
    (cache.insertWithoutRemovingOld key value).get other =
      if other = key then some value else cache.get other := by
  unfold get insertWithoutRemovingOld
  dsimp only
  split
  · rename_i same
    rw [same, AList.lookup_insert, Option.some_or]
  · rename_i different
    rw [AList.lookup_insert_ne different]

/-- Entries age, but an older one does not come back. -/
theorem get_removeOld {cache : TwoGenerationCache K V} {now : Instant}
    {key : K} {value : V}
    (found : (cache.removeOld now).1.get key = some value) :
    cache.get key = some value := by
  unfold removeOld swapGenerationsIfItsBeenTooLong at found
  unfold get at found ⊢
  by_cases expires : cache.generation1Expires ≤ now
  · rw [if_pos expires] at found
    rcases Option.or_eq_some_iff.mp found with young | ⟨_, old⟩
    · cases young
    · rw [show cache.generation0.lookup key = some value from old,
        Option.some_or]
  · rw [if_neg expires] at found
    exact found

theorem get_swapGenerationsIfItsBeenTooLong {cache : TwoGenerationCache K V}
    {now : Instant} {key : K} {value : V}
    (found : (cache.swapGenerationsIfItsBeenTooLong now).1.get key =
      some value) : cache.get key = some value := by
  unfold swapGenerationsIfItsBeenTooLong at found
  split at found
  · rcases Option.or_eq_some_iff.mp found with young | ⟨_, old⟩
    · cases young
    · unfold get
      rw [show cache.generation0.lookup key = some value from old,
        Option.some_or]
  · exact found

theorem get_insert {cache : TwoGenerationCache K V} {key other : K}
    {value found : V} {now : Instant}
    (stored : (cache.insert key value now).get other = some found) :
    (other = key ∧ found = value) ∨ cache.get other = some found := by
  unfold insert at stored
  rw [get_insertWithoutRemovingOld] at stored
  split at stored
  · rename_i same
    exact .inl ⟨same, (Option.some.inj stored).symm⟩
  · exact .inr (get_swapGenerationsIfItsBeenTooLong stored)

/-- A removed entry is gone from both generations. -/
theorem get_remove (cache : TwoGenerationCache K V) (key other : K) :
    (cache.remove key).1.get other =
      if other = key then none else cache.get other := by
  unfold get remove
  dsimp only
  split
  · rename_i same
    rw [same, AList.lookup_erase, AList.lookup_erase]
    rfl
  · rename_i different
    rw [AList.lookup_erase_ne different, AList.lookup_erase_ne different]

theorem remove_snd (cache : TwoGenerationCache K V) (key : K) :
    (cache.remove key).2 = cache.get key := rfl

/-- A write changes what a lookup finds. -/
theorem get_modify (cache : TwoGenerationCache K V) (key other : K)
    (change : V → V) :
    (cache.modify key change).get other =
      if other = key then (cache.get key).map change
      else cache.get other := by
  unfold get modify
  by_cases same : other = key
  · subst same
    rw [if_pos rfl]
    cases young : cache.generation0.lookup other with
    | some value => simp
    | none =>
        cases old : cache.generation1.lookup other with
        | some value => simp [young]
        | none => simp [young, old]
  · rw [if_neg same]
    cases cache.generation0.lookup key with
    | some value => simp [AList.lookup_insert_ne same]
    | none =>
        cases cache.generation1.lookup key with
        | some value => simp [AList.lookup_insert_ne same]
        | none => rfl

/-- What holds of every entry. -/
def All (holds : K → V → Prop) (cache : TwoGenerationCache K V) : Prop :=
  (∀ key value, cache.generation0.lookup key = some value →
    holds key value) ∧
  (∀ key value, cache.generation1.lookup key = some value → holds key value)

section Entries

variable {holds : K → V → Prop} {cache : TwoGenerationCache K V} {key : K}

theorem all_new (generationLifetime : Duration) (now : Instant) :
    All holds (new generationLifetime now : TwoGenerationCache K V) := by
  constructor
  · intro key value found
    cases found
  · intro key value found
    cases found

theorem All.get (all : All holds cache) {value : V}
    (found : cache.get key = some value) : holds key value := by
  rcases Option.or_eq_some_iff.mp found with young | ⟨-, old⟩
  · exact all.1 key value young
  · exact all.2 key value old

private theorem lookup_insert_cases {table : Table K V} {value : V}
    {other : K} {found : V}
    (stored : (table.insert key value).lookup other = some found) :
    (other = key ∧ found = value) ∨ table.lookup other = some found := by
  by_cases same : other = key
  · subst same
    rw [AList.lookup_insert] at stored
    exact .inl ⟨rfl, (Option.some.inj stored).symm⟩
  · rw [AList.lookup_insert_ne same] at stored
    exact .inr stored

theorem All.swap (all : All holds cache) (now : Instant) :
    All holds (cache.swapGenerationsIfItsBeenTooLong now).1 := by
  unfold swapGenerationsIfItsBeenTooLong
  split
  · refine ⟨?_, all.1⟩
    intro key value found
    cases found
  · exact all

theorem All.insert (all : All holds cache) {value : V} (new : holds key value)
    (now : Instant) : All holds (cache.insert key value now) := by
  have swapped := all.swap now
  refine ⟨?_, swapped.2⟩
  intro other found stored
  rcases lookup_insert_cases stored with ⟨rfl, rfl⟩ | old
  · exact new
  · exact swapped.1 other found old

theorem All.modify (all : All holds cache) {change : V → V}
    (changed : ∀ value, holds key value → holds key (change value)) :
    All holds (cache.modify key change) := by
  unfold TwoGenerationCache.modify
  split
  case h_1 value young =>
    refine ⟨?_, all.2⟩
    intro other found stored
    rcases lookup_insert_cases stored with ⟨rfl, rfl⟩ | old
    · exact changed value (all.1 _ value young)
    · exact all.1 other found old
  case h_2 =>
    split
    case h_1 value old =>
      refine ⟨all.1, ?_⟩
      intro other found stored
      rcases lookup_insert_cases stored with ⟨rfl, rfl⟩ | kept
      · exact changed value (all.2 _ value old)
      · exact all.2 other found kept
    case h_2 => exact all

end Entries

end TwoGenerationCache

end CallingService
