import Mathlib.Algebra.BigOperators.Group.Finset.Basic
import CallingService.Foundation.Run
import CallingService.Common.TwoGenerationCacheRun

/-!
# Iterating over both generations

`iter` walks through the younger generation and then through the older one.
A key that both of them hold comes twice, the second time with the value that
lookups no longer find.
-/

namespace CallingService

open Foundation

namespace TwoGenerationCache

open ExpiringMap (Event Operation)

variable {K V : Type}

def iter (cache : TwoGenerationCache K V) : List (K × V) :=
  (cache.generation0.entries ++ cache.generation1.entries).map
    fun entry => (entry.1, entry.2)

theorem map_fst_iter (cache : TwoGenerationCache K V) :
    cache.iter.map Prod.fst =
      cache.generation0.keys ++ cache.generation1.keys := by
  simp [iter, AList.keys, List.keys, Function.comp_def]

variable [DecidableEq K]

theorem mem_iter (cache : TwoGenerationCache K V) (key : K) (value : V) :
    (key, value) ∈ cache.iter ↔
      cache.generation0.lookup key = some value ∨
        cache.generation1.lookup key = some value := by
  rw [← Option.mem_def, ← Option.mem_def, AList.mem_lookup_iff,
    AList.mem_lookup_iff]
  simp [iter]

theorem isSome_get_iff (cache : TwoGenerationCache K V) (key : K) :
    (cache.get key).isSome ↔
      key ∈ cache.generation0 ∨ key ∈ cache.generation1 := by
  unfold get
  rw [Option.isSome_or, Bool.or_eq_true, AList.lookup_isSome,
    AList.lookup_isSome]

/-- Every key that a lookup finds comes exactly once, with the value that is
found. -/
structure YieldsOnce (cache : TwoGenerationCache K V) : Prop where
  once : ∀ key, (cache.get key).isSome →
    (cache.iter.map Prod.fst).count key = 1
  value : ∀ key value, (key, value) ∈ cache.iter →
    cache.get key = some value

omit [DecidableEq K] in
/-- No entry of the older generation is shadowed. -/
def Separate (cache : TwoGenerationCache K V) : Prop :=
  ∀ key ∈ cache.generation0, key ∉ cache.generation1

theorem count_map_fst_iter (cache : TwoGenerationCache K V) (key : K) :
    (cache.iter.map Prod.fst).count key =
      (if key ∈ cache.generation0 then 1 else 0) +
        if key ∈ cache.generation1 then 1 else 0 := by
  rw [map_fst_iter, List.count_append, cache.generation0.keys_nodup.count,
    cache.generation1.keys_nodup.count]
  simp only [AList.mem_keys]

theorem yieldsOnce_iff_separate (cache : TwoGenerationCache K V) :
    cache.YieldsOnce ↔ cache.Separate := by
  constructor
  · intro yieldsOnce key young old
    have found := (cache.isSome_get_iff key).mpr (.inl young)
    have once := yieldsOnce.once key found
    rw [count_map_fst_iter, if_pos young, if_pos old] at once
    cases once
  · intro separate
    refine ⟨?_, ?_⟩
    · intro key found
      rw [count_map_fst_iter]
      rcases (cache.isSome_get_iff key).mp found with young | old
      · rw [if_pos young, if_neg (separate key young)]
      · have notYoung : key ∉ cache.generation0 := fun young =>
          separate key young old
        rw [if_neg notYoung, if_pos old]
    · intro key value yielded
      unfold get
      rcases (cache.mem_iter key value).mp yielded with young | old
      · rw [young, Option.some_or]
      · have notYoung : key ∉ cache.generation0 := by
          intro young
          apply separate key young
          rw [← AList.lookup_isSome, old]
          rfl
        rw [AList.lookup_eq_none.mpr notYoung, Option.none_or]
        exact old

/-! ## One operation -/

/-- The operation stores a key in the younger generation that the older one
holds, after the swap that an insertion makes. -/
def Shadows (cache : TwoGenerationCache K V) (event : Event K V) : Prop :=
  match event.operation with
  | .insert key _ =>
      key ∈ (cache.swapGenerationsIfItsBeenTooLong event.time).1.generation1
  | .store key _ => key ∈ cache.generation1
  | _ => False

omit [DecidableEq K] in
theorem separate_new (generationLifetime : Duration) (now : Instant) :
    (new generationLifetime now : TwoGenerationCache K V).Separate := by
  intro key young
  cases young

theorem separate_insertWithoutRemovingOld {cache : TwoGenerationCache K V}
    (separate : cache.Separate) (key : K) (value : V) :
    (cache.insertWithoutRemovingOld key value).Separate ↔
      key ∉ cache.generation1 := by
  constructor
  · intro separateAfter
    exact separateAfter key (AList.mem_insert _ |>.mpr (.inl rfl))
  · intro fresh other young
    rcases (AList.mem_insert _).mp young with rfl | held
    · exact fresh
    · exact separate other held

namespace Separate

variable {cache : TwoGenerationCache K V}

omit [DecidableEq K] in
theorem swap (separate : cache.Separate) (now : Instant) :
    (cache.swapGenerationsIfItsBeenTooLong now).1.Separate := by
  unfold swapGenerationsIfItsBeenTooLong
  split
  · intro key young
    cases young
  · exact separate

/-- A write leaves every key where it is. -/
theorem modify (separate : cache.Separate) (key : K) (change : V → V) :
    (cache.modify key change).Separate := by
  unfold TwoGenerationCache.modify
  split
  · rename_i value young
    intro other held
    rcases (AList.mem_insert _).mp held with rfl | before
    · apply separate
      rw [← AList.lookup_isSome, young]
      rfl
    · exact separate other before
  · rename_i notYoung
    split
    · rename_i value old
      intro other held written
      rcases (AList.mem_insert _).mp written with rfl | before
      · exact AList.lookup_eq_none.mp notYoung held
      · exact separate other held before
    · exact separate

theorem remove (separate : cache.Separate) (key : K) :
    (cache.remove key).1.Separate := by
  intro other young old
  exact separate other (AList.mem_erase.mp young).2 (AList.mem_erase.mp old).2

theorem removeOld (separate : cache.Separate) (now : Instant) :
    (cache.removeOld now).1.Separate := by
  have swapped := separate.swap now
  unfold TwoGenerationCache.removeOld
  split
  · rename_i next removed result
    rw [result] at swapped
    exact swapped
  · rename_i next result
    rw [result] at swapped
    exact swapped

/-- Only an insertion can give a key to both generations. -/
theorem perform_iff (separate : cache.Separate) (event : Event K V) :
    (cache.perform event).Separate ↔ ¬ cache.Shadows event := by
  obtain ⟨time, operation⟩ := event
  cases operation with
  | insert key value =>
      exact separate_insertWithoutRemovingOld (separate.swap time) key value
  | store key value =>
      exact separate_insertWithoutRemovingOld separate key value
  | get key => exact iff_of_true separate not_false
  | modify key change =>
      exact iff_of_true (separate.modify key change) not_false
  | remove key => exact iff_of_true (separate.remove key) not_false
  | expire => exact iff_of_true (separate.removeOld time) not_false

end Separate

/-! ## Runs -/

theorem after_append_singleton (generationLifetime : Duration)
    (created : Instant) (past : List (Event K V)) (event : Event K V) :
    after generationLifetime created (past ++ [event]) =
      (after generationLifetime created past).perform event := by
  simp [after, performAll]

/-- Every state of a run can be iterated over exactly if no operation of the
run shadows an entry. -/
theorem yieldsOnce_after_iff (generationLifetime : Duration)
    (created : Instant) (events : List (Event K V)) :
    (∀ past, past <+: events →
      (after generationLifetime created past).YieldsOnce) ↔
    Throughout (fun past event =>
      ¬ (after generationLifetime created past).Shadows event) events := by
  apply forall_prefix_iff_throughout
  · exact (yieldsOnce_iff_separate _).mpr (separate_new _ _)
  · intro past event yieldsOnce
    rw [yieldsOnce_iff_separate, after_append_singleton]
    exact ((yieldsOnce_iff_separate _).mp yieldsOnce).perform_iff event

/-! ## Counting -/

/-- The keys that a lookup finds. -/
def keys (cache : TwoGenerationCache K V) : Finset K :=
  (cache.iter.map Prod.fst).toFinset

theorem mem_keys (cache : TwoGenerationCache K V) (key : K) :
    key ∈ cache.keys ↔ (cache.get key).isSome := by
  rw [isSome_get_iff, keys, List.mem_toFinset, map_fst_iter, List.mem_append]
  rfl

omit [DecidableEq K] in
theorem nodup_map_fst_iter_iff (cache : TwoGenerationCache K V) :
    (cache.iter.map Prod.fst).Nodup ↔ cache.Separate := by
  rw [map_fst_iter, List.nodup_append']
  constructor
  · rintro ⟨-, -, disjoint⟩ key young old
    exact disjoint young old
  · intro separate
    refine ⟨cache.generation0.keys_nodup, cache.generation1.keys_nodup, ?_⟩
    intro key young old
    exact separate key young old

/-- Iterating takes a step for each key only if no key comes twice. -/
theorem length_iter_eq_card_keys_iff (cache : TwoGenerationCache K V) :
    cache.iter.length = cache.keys.card ↔ cache.Separate := by
  rw [← nodup_map_fst_iter_iff, keys, List.card_toFinset,
    ← List.length_map Prod.fst]
  constructor
  · intro same
    exact List.dedup_eq_self.mp
      ((List.dedup_sublist _).eq_of_length same.symm)
  · intro distinct
    rw [distinct.dedup]

theorem Separate.sum_iter {cache : TwoGenerationCache K V}
    (separate : cache.Separate) (measure : V → Nat) :
    (cache.iter.map fun entry => measure entry.2).sum =
      ∑ key ∈ cache.keys, ((cache.get key).map measure).getD 0 := by
  have distinct := cache.nodup_map_fst_iter_iff.mpr separate
  rw [keys, List.sum_toFinset _ distinct, List.map_map]
  congr 1
  apply List.map_congr_left
  rintro ⟨key, value⟩ yielded
  have found :=
    ((yieldsOnce_iff_separate cache).mpr separate).value key value yielded
  rw [Function.comp_apply, found]
  rfl

end TwoGenerationCache

end CallingService
