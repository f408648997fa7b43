import CallingService.Common.TwoGenerationCache
import CallingService.Foundation.ExpiringMap

/-!
# The two-generation cache as a map with expiry

The younger table holds the entries of the current generation; the older one
holds those of the generation before it, and copies that younger entries
shadow.  Read in this way, the two tables are one map whose entries expire.
-/

namespace CallingService

open Foundation

namespace TwoGenerationCache

open ExpiringMap (Event Operation)

variable {K V : Type} [DecidableEq K]

/-- What `get_mut` gives access to. -/
def getMut (cache : TwoGenerationCache K V) (key : K) : Option V :=
  (cache.generation0.lookup key).or (cache.generation1.lookup key)

def perform (cache : TwoGenerationCache K V) (event : Event K V) :
    TwoGenerationCache K V :=
  match event.operation with
  | .insert key value => cache.insert key value event.time
  | .store key value => cache.insertWithoutRemovingOld key value
  | .get _ => cache
  | .modify key change => cache.modify key change
  | .remove key => (cache.remove key).1
  | .expire => (cache.removeOld event.time).1

def performAll (cache : TwoGenerationCache K V) (events : List (Event K V)) :
    TwoGenerationCache K V :=
  events.foldl perform cache

omit [DecidableEq K] in
/-- Whether the generations are swapped. -/
def Swaps (cache : TwoGenerationCache K V) (event : Event K V) : Prop :=
  event.operation.MayAge ∧
    (cache.swapGenerationsIfItsBeenTooLong event.time).2.isSome

instance (cache : TwoGenerationCache K V) (event : Event K V) :
    Decidable (cache.Swaps event) := by
  unfold Swaps
  infer_instance

def swapCount (cache : TwoGenerationCache K V) : List (Event K V) → Nat
  | [] => 0
  | event :: rest =>
      (if cache.Swaps event then 1 else 0) +
        swapCount (cache.perform event) rest

structure Represents (cache : TwoGenerationCache K V)
    (map : ExpiringMap K V) : Prop where
  lifetime : map.lifetime = cache.generationLifetime
  ages : map.ages = cache.generation1Expires
  past : map.Past
  young : ∀ key value, cache.generation0.lookup key = some value ↔
    map.stored key = some (value, map.generation)
  old : ∀ key value, cache.generation0.lookup key = none →
    (cache.generation1.lookup key = some value ↔
      ∃ born, map.stored key = some (value, born) ∧
        born + 1 = map.generation)

namespace Represents

variable {cache : TwoGenerationCache K V} {map : ExpiringMap K V}

theorem new (generationLifetime : Duration) (now : Instant) :
    Represents (TwoGenerationCache.new generationLifetime now)
      (ExpiringMap.empty generationLifetime now : ExpiringMap K V) where
  lifetime := rfl
  ages := rfl
  past := ExpiringMap.past_empty generationLifetime now
  young := by
    intro key value
    constructor <;> intro found <;> cases found
  old := by
    intro key value missing
    constructor
    · intro found
      cases found
    · rintro ⟨born, found, -⟩
      cases found

theorem get (represents : Represents cache map) (key : K) :
    cache.get key = map.get key := by
  apply Option.ext
  intro value
  rw [ExpiringMap.get_eq_some_iff]
  unfold TwoGenerationCache.get
  rw [Option.or_eq_some_iff]
  constructor
  · rintro (young | ⟨missing, old⟩)
    · have isStored := (represents.young key value).mp young
      exact ⟨map.generation, isStored, Nat.le_succ _⟩
    · obtain ⟨born, isStored, before⟩ :=
        (represents.old key value missing).mp old
      exact ⟨born, isStored, Nat.le_of_eq before.symm⟩
  · rintro ⟨born, isStored, alive⟩
    have noFuture := represents.past key value born isStored
    by_cases current : born = map.generation
    · subst current
      exact .inl ((represents.young key value).mpr isStored)
    · have missing : cache.generation0.lookup key = none := by
        cases young : cache.generation0.lookup key with
        | none => rfl
        | some other =>
            have same := (represents.young key other).mp young
            rw [isStored] at same
            cases same
            exact absurd rfl current
      refine .inr ⟨missing, (represents.old key value missing).mpr ?_⟩
      exact ⟨born, isStored, by omega⟩

theorem swap (represents : Represents cache map) (now : Instant) :
    Represents (cache.swapGenerationsIfItsBeenTooLong now).1 (map.age now) := by
  have past := represents.past.age now
  unfold swapGenerationsIfItsBeenTooLong
  unfold ExpiringMap.age at past ⊢
  rw [represents.ages] at past ⊢
  split
  · rename_i expired
    rw [if_pos expired] at past
    refine ⟨represents.lifetime, ?_, past, ?_, ?_⟩
    · rw [represents.lifetime]
    · intro key value
      constructor
      · intro found
        cases found
      · intro isStored
        have early := represents.past key value _ isStored
        exact absurd early (Nat.not_succ_le_self _)
    · intro key value missing
      rw [represents.young key value]
      constructor
      · intro isStored
        exact ⟨map.generation, isStored, rfl⟩
      · rintro ⟨born, isStored, before⟩
        have same : born = map.generation := Nat.succ.inj before
        exact same ▸ isStored
  · exact represents

theorem insertWithoutRemovingOld (represents : Represents cache map) (key : K)
    (value : V) :
    Represents (cache.insertWithoutRemovingOld key value)
      (map.insert key value) := by
  refine ⟨represents.lifetime, represents.ages,
    represents.past.insert key value, ?_, ?_⟩
  · intro other held
    by_cases same : other = key
    · subst same
      simp [TwoGenerationCache.insertWithoutRemovingOld, ExpiringMap.insert]
    · simp only [TwoGenerationCache.insertWithoutRemovingOld,
        ExpiringMap.insert, AList.lookup_insert_ne same,
        Function.update_of_ne same]
      exact represents.young other held
  · intro other held missing
    by_cases same : other = key
    · subst same
      simp [TwoGenerationCache.insertWithoutRemovingOld] at missing
    · simp only [TwoGenerationCache.insertWithoutRemovingOld,
        ExpiringMap.insert, AList.lookup_insert_ne same,
        Function.update_of_ne same] at missing ⊢
      exact represents.old other held missing

theorem insert (represents : Represents cache map) (key : K) (value : V)
    (now : Instant) :
    Represents (cache.insert key value now)
      ((map.age now).insert key value) :=
  (represents.swap now).insertWithoutRemovingOld key value

theorem remove (represents : Represents cache map) (key : K) :
    Represents (cache.remove key).1 (map.remove key) := by
  refine ⟨represents.lifetime, represents.ages, represents.past.remove key,
    ?_, ?_⟩
  · intro other held
    by_cases same : other = key
    · subst same
      simp [TwoGenerationCache.remove, ExpiringMap.remove]
    · simp only [TwoGenerationCache.remove, ExpiringMap.remove,
        AList.lookup_erase_ne same, Function.update_of_ne same]
      exact represents.young other held
  · intro other held missing
    by_cases same : other = key
    · subst same
      simp [TwoGenerationCache.remove, ExpiringMap.remove]
    · simp only [TwoGenerationCache.remove, ExpiringMap.remove,
        AList.lookup_erase_ne same, Function.update_of_ne same] at missing ⊢
      exact represents.old other held missing

theorem removeOld (represents : Represents cache map) (now : Instant) :
    Represents (cache.removeOld now).1 (map.age now) := by
  have swapped := represents.swap now
  unfold TwoGenerationCache.removeOld
  split
  · rename_i next removed result
    rw [result] at swapped
    exact swapped
  · rename_i next result
    rw [result] at swapped
    exact swapped

/-- The value that is read is the value that is written. -/
theorem modify (represents : Represents cache map) (key : K)
    (change : V → V) :
    Represents (cache.modify key change) (map.modify key change) := by
  have past := represents.past.modify key change
  unfold TwoGenerationCache.modify
  split
  case h_1 value young =>
    have isStored := (represents.young key value).mp young
    rw [ExpiringMap.modify_of_alive change isStored (Nat.le_succ _)] at past ⊢
    refine ⟨represents.lifetime, represents.ages, past, ?_, ?_⟩
    · intro other held
      by_cases same : other = key
      · subst same
        simp
      · simp only [AList.lookup_insert_ne same, Function.update_of_ne same]
        exact represents.young other held
    · intro other held missing
      by_cases same : other = key
      · subst same
        simp at missing
      · simp only [AList.lookup_insert_ne same, Function.update_of_ne same]
          at missing ⊢
        exact represents.old other held missing
  case h_2 missing =>
    split
    case h_1 value old =>
      obtain ⟨born, isStored, before⟩ :=
        (represents.old key value missing).mp old
      rw [ExpiringMap.modify_of_alive change isStored
        (Nat.le_of_eq before.symm)] at past ⊢
      refine ⟨represents.lifetime, represents.ages, past, ?_, ?_⟩
      · intro other held
        by_cases same : other = key
        · subst same
          have notCurrent : born ≠ map.generation := by omega
          simp [missing, notCurrent]
        · simp only [Function.update_of_ne same]
          exact represents.young other held
      · intro other held noYoung
        by_cases same : other = key
        · subst same
          simp [before]
        · simp only [AList.lookup_insert_ne same, Function.update_of_ne same]
          exact represents.old other held noYoung
    case h_2 noOld =>
      have notFound : map.get key = none := by
        rw [← represents.get, TwoGenerationCache.get, missing, noOld]
        rfl
      rw [ExpiringMap.modify_of_get_eq_none change notFound]
      exact represents

theorem perform (represents : Represents cache map) (event : Event K V) :
    Represents (cache.perform event) (map.perform event) := by
  obtain ⟨time, operation⟩ := event
  cases operation with
  | insert key value => exact represents.insert key value time
  | store key value => exact represents.insertWithoutRemovingOld key value
  | get key => exact represents
  | modify key change => exact represents.modify key change
  | remove key => exact represents.remove key
  | expire => exact represents.removeOld time

theorem performAll (represents : Represents cache map)
    (events : List (Event K V)) :
    Represents (cache.performAll events) (map.performAll events) := by
  induction events generalizing cache map with
  | nil => exact represents
  | cons event rest ih => exact ih (represents.perform event)

/-- A swap is an aging of the map. -/
theorem generation_age (represents : Represents cache map) (now : Instant) :
    (map.age now).generation = map.generation +
      if (cache.swapGenerationsIfItsBeenTooLong now).2.isSome then 1 else 0 := by
  unfold swapGenerationsIfItsBeenTooLong ExpiringMap.age
  rw [represents.ages]
  split <;> rfl

theorem generation_perform (represents : Represents cache map)
    (event : Event K V) :
    (map.perform event).generation =
      map.generation + if cache.Swaps event then 1 else 0 := by
  obtain ⟨time, operation⟩ := event
  have aged := represents.generation_age time
  cases operation with
  | insert key value =>
      change (map.age time).generation = _
      simpa [Swaps, Operation.MayAge] using aged
  | store key value => rfl
  | get key => rfl
  | modify key change => exact ExpiringMap.generation_modify map key change
  | remove key => rfl
  | expire =>
      change (map.age time).generation = _
      simpa [Swaps, Operation.MayAge] using aged

theorem generation_performAll (represents : Represents cache map)
    (events : List (Event K V)) :
    (map.performAll events).generation =
      map.generation + cache.swapCount events := by
  induction events generalizing cache map with
  | nil => rfl
  | cons event rest ih =>
      have first := represents.generation_perform event
      have later := ih (represents.perform event)
      unfold swapCount
      calc
        ((map.perform event).performAll rest).generation =
            (map.perform event).generation +
              (cache.perform event).swapCount rest := later
        _ = map.generation + ((if cache.Swaps event then 1 else 0) +
              (cache.perform event).swapCount rest) := by
            rw [first, Nat.add_assoc]

end Represents

section Run

variable {generationLifetime : Duration} {created : Instant}

/-- The times are those of a clock that has not been turned back since the
cache was created. -/
def Chronological (created : Instant) (events : List (Event K V)) : Prop :=
  (created :: events.map (·.time)).Pairwise (· ≤ ·)

instance (created : Instant) (events : List (Event K V)) :
    Decidable (Chronological created events) := by
  unfold Chronological
  infer_instance

def after (generationLifetime : Duration) (created : Instant)
    (events : List (Event K V)) : TwoGenerationCache K V :=
  (new generationLifetime created).performAll events

theorem represents_after (generationLifetime : Duration) (created : Instant)
    (events : List (Event K V)) :
    Represents (after generationLifetime created events)
      ((ExpiringMap.empty generationLifetime created).performAll events) :=
  (Represents.new generationLifetime created).performAll events

theorem latest_of_get_after {events : List (Event K V)} {key : K} {value : V}
    (found : (after generationLifetime created events).get key = some value) :
    ExpiringMap.latest events key = some value := by
  rw [(represents_after generationLifetime created events).get] at found
  exact ExpiringMap.latest_of_get found

theorem isSome_get_of_recent {earlier later : List (Event K V)}
    {inserted : Event K V} {key : K}
    (ordered : Chronological created (earlier ++ inserted :: later))
    (inserts : inserted.operation.Inserts key)
    (stays : ∀ event ∈ later, ¬ event.operation.Removes key)
    (within : ∀ event ∈ later,
      event.time < inserted.time + generationLifetime) :
    ((after generationLifetime created
      (earlier ++ inserted :: later)).get key).isSome := by
  have sorted : (inserted :: later).Pairwise (·.time ≤ ·.time) := by
    have times := (List.pairwise_cons.mp ordered).2
    rw [List.pairwise_map] at times
    exact (List.pairwise_append.mp times).2.1
  have noEarlier := (List.pairwise_cons.mp sorted).1
  rw [(represents_after generationLifetime created _).get]
  unfold ExpiringMap.performAll
  rw [List.foldl_append]
  apply ExpiringMap.isSome_get_of_recent inserts ?_ stays
  intro event member
  refine ⟨noEarlier event member, ?_⟩
  have lifetime := (ExpiringMap.empty generationLifetime created :
    ExpiringMap K V).lifetime_performAll earlier
  exact lifetime ▸ within event member

theorem get_eq_none_of_swaps {earlier later : List (Event K V)} {key : K}
    (noInsertion : ∀ event ∈ later, ¬ event.operation.Inserts key)
    (swaps :
      2 ≤ (after generationLifetime created earlier).swapCount later) :
    (after generationLifetime created (earlier ++ later)).get key = none := by
  have represents := represents_after generationLifetime created earlier
  have bornBy := (ExpiringMap.Past.bornBy represents.past key).performAll
    noInsertion
  have generation := represents.generation_performAll later
  have split : after generationLifetime created (earlier ++ later) =
      (after generationLifetime created earlier).performAll later :=
    List.foldl_append ..
  rw [split, (represents.performAll later).get]
  apply bornBy.get_eq_none
  rw [generation]
  exact Nat.add_le_add_left swaps _

/-- The keys that `remove_old` reports were found before it and are not found
after it. -/
theorem mem_removeOld_iff (cache : TwoGenerationCache K V) (now : Instant)
    (key : K) :
    key ∈ (cache.removeOld now).2 ↔
      (cache.get key).isSome ∧ (cache.removeOld now).1.get key = none := by
  unfold removeOld swapGenerationsIfItsBeenTooLong
  by_cases expired : cache.generation1Expires ≤ now
  · rw [if_pos expired]
    simp only [List.mem_filter, decide_eq_true_eq, ← AList.mem_keys]
    unfold get
    rw [Option.isSome_or, Bool.or_eq_true, AList.lookup_isSome,
      AList.lookup_isSome, AList.lookup_empty, Option.none_or,
      AList.lookup_eq_none]
    tauto
  · rw [if_neg expired]
    constructor
    · intro member
      cases member
    · rintro ⟨found, missing⟩
      rw [missing] at found
      cases found

theorem nodup_removeOld (cache : TwoGenerationCache K V) (now : Instant) :
    (cache.removeOld now).2.Nodup := by
  unfold removeOld
  split
  · exact (AList.keys_nodup _).filter _
  · exact List.nodup_nil

/-- The cache is a map with expiry: it answers with the latest value or not at
all, keeps what is younger than the lifetime, forgets what two swaps have
passed over, and reports what it forgets. -/
theorem refines_map_with_expiry {events : List (Event K V)}
    (ordered : Chronological created events) :
    (∀ key,
      (after generationLifetime created events).get key =
        ((ExpiringMap.empty generationLifetime created).performAll events).get
          key) ∧
    (∀ key,
      (after generationLifetime created events).get key = none ∨
        (after generationLifetime created events).get key =
          ExpiringMap.latest events key) ∧
    (∀ key,
      (after generationLifetime created events).getMut key = none ∨
        (after generationLifetime created events).getMut key =
          ExpiringMap.latest events key) ∧
    (∀ earlier inserted later key,
      events = earlier ++ inserted :: later →
      inserted.operation.Inserts key →
      (∀ event ∈ later, ¬ event.operation.Removes key) →
      (∀ event ∈ later, event.time < inserted.time + generationLifetime) →
      ((after generationLifetime created events).get key).isSome) ∧
    (∀ earlier later key,
      events = earlier ++ later →
      (∀ event ∈ later, ¬ event.operation.Inserts key) →
      2 ≤ (after generationLifetime created earlier).swapCount later →
      (after generationLifetime created events).get key = none) ∧
    (∀ key,
      ((after generationLifetime created events).remove
        key).1.generation0.lookup key = none ∧
      ((after generationLifetime created events).remove
        key).1.generation1.lookup key = none) ∧
    (∀ now,
      ((after generationLifetime created events).removeOld now).2.Nodup ∧
      ∀ key,
        key ∈ ((after generationLifetime created events).removeOld now).2 ↔
          ((after generationLifetime created events).get key).isSome ∧
            ((after generationLifetime created events).removeOld now).1.get
              key = none) := by
  have latest : ∀ key,
      (after generationLifetime created events).get key = none ∨
        (after generationLifetime created events).get key =
          ExpiringMap.latest events key := by
    intro key
    cases found : (after generationLifetime created events).get key with
    | none => exact .inl rfl
    | some value => exact .inr (latest_of_get_after found).symm
  refine ⟨?_, latest, latest, ?_, ?_, ?_, ?_⟩
  · exact (represents_after generationLifetime created events).get
  · rintro earlier inserted later key rfl inserts stays within
    exact isSome_get_of_recent ordered inserts stays within
  · rintro earlier later key rfl noInsertion swaps
    exact get_eq_none_of_swaps noInsertion swaps
  · intro key
    exact ⟨AList.lookup_erase .., AList.lookup_erase ..⟩
  · intro now
    refine ⟨nodup_removeOld _ now, ?_⟩
    intro key
    exact mem_removeOld_iff _ now key

/-- A cache of lifetime 10 in which a key is inserted twice, removed and
forgotten. -/
theorem refines_map_with_expiry_in_short_run :
    Chronological 0
      [⟨1, .insert 7 70⟩, ⟨12, .insert 7 71⟩, ⟨13, .remove 8⟩,
        ⟨25, .expire⟩] ∧
    ((after 10 0 [⟨1, .insert 7 70⟩, ⟨12, .insert 7 71⟩, ⟨13, .remove 8⟩,
        ⟨25, .expire⟩] : TwoGenerationCache Nat Nat).get 7 = none ∨
      (after 10 0 [⟨1, .insert 7 70⟩, ⟨12, .insert 7 71⟩, ⟨13, .remove 8⟩,
        ⟨25, .expire⟩] : TwoGenerationCache Nat Nat).get 7 =
        ExpiringMap.latest [⟨1, .insert 7 70⟩, ⟨12, .insert 7 71⟩,
          ⟨13, .remove 8⟩, ⟨25, .expire⟩] 7) := by
  have ordered : Chronological 0
      [⟨1, .insert 7 70⟩, ⟨12, .insert 7 71⟩, ⟨13, .remove 8⟩,
        (⟨25, .expire⟩ : Event Nat Nat)] := by decide
  exact ⟨ordered, (refines_map_with_expiry ordered).2.1 7⟩

end Run

end TwoGenerationCache

end CallingService
