import Mathlib.Logic.Function.Basic
import Mathlib.Data.Option.Basic
import Mathlib.Data.List.Chain

/-!
# Maps whose entries expire

Every entry carries the generation it was stored in.  The map ages when its
current generation has lasted for its lifetime; an entry is found in its own
generation and in the next one.
-/

namespace CallingService.Foundation

universe u v

structure ExpiringMap (K : Type u) (V : Type v) where
  lifetime : Nat
  stored : K → Option (V × Nat)
  generation : Nat
  ages : Nat

namespace ExpiringMap

variable {K : Type u} {V : Type v}

def empty (lifetime now : Nat) : ExpiringMap K V where
  lifetime := lifetime
  stored := fun _ => none
  generation := 0
  ages := now + lifetime

/-- The value of an entry of this generation or of the one before. -/
def valueOf (map : ExpiringMap K V) (entry : V × Nat) : Option V :=
  if map.generation ≤ entry.2 + 1 then some entry.1 else none

def get (map : ExpiringMap K V) (key : K) : Option V :=
  (map.stored key).bind map.valueOf

def age (map : ExpiringMap K V) (now : Nat) : ExpiringMap K V :=
  if map.ages ≤ now then
    { map with
      generation := map.generation + 1
      ages := now + map.lifetime }
  else map

/-- No entry is from the future. -/
def Past (map : ExpiringMap K V) : Prop :=
  ∀ key value born, map.stored key = some (value, born) →
    born ≤ map.generation

variable {map : ExpiringMap K V} {key : K} {value : V}

theorem get_eq_some_iff :
    map.get key = some value ↔
      ∃ born, map.stored key = some (value, born) ∧
        map.generation ≤ born + 1 := by
  unfold get valueOf
  rw [Option.bind_eq_some_iff]
  constructor
  · rintro ⟨⟨held, born⟩, isStored, found⟩
    split at found
    · rename_i alive
      cases found
      exact ⟨born, isStored, alive⟩
    · cases found
  · rintro ⟨born, isStored, alive⟩
    exact ⟨(value, born), isStored, if_pos alive⟩

@[simp] theorem stored_age (map : ExpiringMap K V) (now : Nat) :
    (map.age now).stored = map.stored := by
  unfold age
  split <;> rfl

theorem generation_le_age (map : ExpiringMap K V) (now : Nat) :
    map.generation ≤ (map.age now).generation := by
  unfold age
  split
  · exact Nat.le_succ _
  · exact Nat.le_refl _

/-- Aging never brings a value back and never changes one. -/
theorem get_of_get_age {now : Nat} (found : (map.age now).get key = some value)
    : map.get key = some value := by
  obtain ⟨born, isStored, alive⟩ := get_eq_some_iff.mp found
  rw [stored_age] at isStored
  have earlier := map.generation_le_age now
  exact get_eq_some_iff.mpr ⟨born, isStored, Nat.le_trans earlier alive⟩

theorem past_empty (lifetime now : Nat) :
    (empty lifetime now : ExpiringMap K V).Past := by
  intro key value born isStored
  cases isStored

theorem Past.age (past : map.Past) (now : Nat) :
    (map.age now).Past := by
  intro key value born isStored
  rw [stored_age] at isStored
  exact Nat.le_trans (past key value born isStored) (map.generation_le_age now)

section Updates

variable [DecidableEq K]

def insert (map : ExpiringMap K V) (key : K) (value : V) : ExpiringMap K V :=
  { map with
    stored := Function.update map.stored key (some (value, map.generation)) }

def remove (map : ExpiringMap K V) (key : K) : ExpiringMap K V :=
  { map with stored := Function.update map.stored key none }

/-- Change the value of an entry that is found. -/
def modify (map : ExpiringMap K V) (key : K) (change : V → V) :
    ExpiringMap K V :=
  if (map.get key).isSome then
    { map with
      stored := Function.update map.stored key
        ((map.stored key).map fun entry => (change entry.1, entry.2)) }
  else map

theorem get_insert (map : ExpiringMap K V) (key other : K) (value : V) :
    (map.insert key value).get other =
      if other = key then some value else map.get other := by
  unfold get insert
  dsimp only
  split
  · rename_i same
    subst same
    rw [Function.update_self]
    exact if_pos (Nat.le_succ _)
  · rename_i different
    rw [Function.update_of_ne different]
    rfl

theorem get_remove (map : ExpiringMap K V) (key other : K) :
    (map.remove key).get other =
      if other = key then none else map.get other := by
  unfold get remove
  dsimp only
  split
  · rename_i same
    subst same
    rw [Function.update_self]
    rfl
  · rename_i different
    rw [Function.update_of_ne different]
    rfl

theorem stored_modify_of_ne {key other : K} (change : V → V)
    (different : other ≠ key) :
    (map.modify key change).stored other = map.stored other := by
  unfold modify
  split
  · exact Function.update_of_ne different _ _
  · rfl

@[simp] theorem generation_modify (map : ExpiringMap K V) (key : K)
    (change : V → V) :
    (map.modify key change).generation = map.generation := by
  unfold modify
  split <;> rfl

/-- Where an entry is after a write, one was before, of the same age. -/
theorem stored_of_stored_modify {key other : K} {change : V → V} {born : Nat}
    (isStored : (map.modify key change).stored other = some (value, born)) :
    ∃ previous, map.stored other = some (previous, born) := by
  by_cases same : other = key
  · subst same
    unfold modify at isStored
    split at isStored
    · dsimp only at isStored
      rw [Function.update_self, Option.map_eq_some_iff] at isStored
      obtain ⟨⟨previous, birth⟩, before, equal⟩ := isStored
      cases equal
      exact ⟨previous, before⟩
    · exact ⟨value, isStored⟩
  · rw [stored_modify_of_ne change same] at isStored
    exact ⟨value, isStored⟩

theorem modify_of_get_eq_none (change : V → V) (missing : map.get key = none) :
    map.modify key change = map := by
  unfold modify
  rw [missing]
  exact if_neg nofun

theorem modify_of_alive {born : Nat} (change : V → V)
    (isStored : map.stored key = some (value, born))
    (alive : map.generation ≤ born + 1) :
    map.modify key change =
      { map with
        stored :=
          Function.update map.stored key (some (change value, born)) } := by
  have found : map.get key = some value :=
    get_eq_some_iff.mpr ⟨born, isStored, alive⟩
  unfold modify
  rw [found, isStored]
  exact if_pos rfl

theorem get_modify (map : ExpiringMap K V) (key other : K) (change : V → V) :
    (map.modify key change).get other =
      if other = key then (map.get other).map change else map.get other := by
  split
  · rename_i same
    subst same
    cases before : map.get other with
    | none =>
        rw [modify_of_get_eq_none change before, before]
        rfl
    | some value =>
        obtain ⟨born, isStored, alive⟩ := get_eq_some_iff.mp before
        rw [modify_of_alive change isStored alive]
        exact get_eq_some_iff.mpr ⟨born, Function.update_self .., alive⟩
  · rename_i different
    unfold get valueOf
    rw [stored_modify_of_ne change different, generation_modify]

namespace Past

variable {map : ExpiringMap K V}

theorem insert (past : map.Past) (key : K) (value : V) :
    (map.insert key value).Past := by
  intro other held born isStored
  by_cases same : other = key
  · subst same
    simp only [ExpiringMap.insert, Function.update_self, Option.some.injEq,
      Prod.mk.injEq] at isStored
    exact Nat.le_of_eq isStored.2.symm
  · simp only [ExpiringMap.insert, Function.update_of_ne same] at isStored
    exact past other held born isStored

theorem remove (past : map.Past) (key : K) : (map.remove key).Past := by
  intro other held born isStored
  by_cases same : other = key
  · subst same
    simp [ExpiringMap.remove] at isStored
  · simp only [ExpiringMap.remove, Function.update_of_ne same] at isStored
    exact past other held born isStored

theorem modify (past : map.Past) (key : K) (change : V → V) :
    (map.modify key change).Past := by
  intro other held born isStored
  obtain ⟨previous, before⟩ := stored_of_stored_modify isStored
  rw [generation_modify]
  exact past other previous born before

end Past

end Updates

/-! ## Runs -/

/-- What may be done to the map.  Only `insert` and `expire` let it age. -/
inductive Operation (K : Type u) (V : Type v) where
  | insert (key : K) (value : V)
  | store (key : K) (value : V)
  | get (key : K)
  | modify (key : K) (change : V → V)
  | remove (key : K)
  | expire

structure Event (K : Type u) (V : Type v) where
  time : Nat
  operation : Operation K V

namespace Operation

def MayAge : Operation K V → Prop
  | .insert _ _ => True
  | .expire => True
  | _ => False

instance (operation : Operation K V) : Decidable operation.MayAge := by
  cases operation <;> unfold MayAge <;> infer_instance

def Inserts (key : K) : Operation K V → Prop
  | .insert other _ => other = key
  | .store other _ => other = key
  | _ => False

def Removes (key : K) : Operation K V → Prop
  | .remove other => other = key
  | _ => False

/-- What a map without expiry holds afterwards. -/
def latest [DecidableEq K] (values : K → Option V) :
    Operation K V → K → Option V
  | .insert key value => Function.update values key (some value)
  | .store key value => Function.update values key (some value)
  | .modify key change => Function.update values key ((values key).map change)
  | .remove key => Function.update values key none
  | _ => values

end Operation

@[simp] theorem lifetime_age (map : ExpiringMap K V) (now : Nat) :
    (map.age now).lifetime = map.lifetime := by
  unfold age
  split <;> rfl

section Runs

variable [DecidableEq K]

/-- The latest insertion of each key that no removal has followed, with the
writes to it. -/
def latest (events : List (Event K V)) : K → Option V :=
  events.foldl (fun values event => event.operation.latest values)
    fun _ => none

def perform (map : ExpiringMap K V) (event : Event K V) : ExpiringMap K V :=
  match event.operation with
  | .insert key value => (map.age event.time).insert key value
  | .store key value => map.insert key value
  | .get _ => map
  | .modify key change => map.modify key change
  | .remove key => map.remove key
  | .expire => map.age event.time

def performAll (map : ExpiringMap K V) (events : List (Event K V)) :
    ExpiringMap K V :=
  events.foldl perform map

theorem lifetime_perform (map : ExpiringMap K V) (event : Event K V) :
    (map.perform event).lifetime = map.lifetime := by
  obtain ⟨time, operation⟩ := event
  cases operation with
  | insert key value => exact lifetime_age map time
  | store key value => rfl
  | get key => rfl
  | modify key change =>
      unfold perform modify
      dsimp only
      split <;> rfl
  | remove key => rfl
  | expire => exact lifetime_age map time

theorem lifetime_performAll (map : ExpiringMap K V)
    (events : List (Event K V)) :
    (map.performAll events).lifetime = map.lifetime := by
  induction events generalizing map with
  | nil => rfl
  | cons event rest ih => exact (ih _).trans (map.lifetime_perform event)

private theorem update_eq_of_ite {values : K → Option V} {key other : K}
    {new old : Option V}
    (found : (if key = other then new else old) = some value)
    (held : old = some value → values key = some value) :
    Function.update values other new key = some value := by
  rw [Function.update_apply]
  split at found
  · rename_i same
    rw [if_pos same]
    exact found
  · rename_i different
    rw [if_neg different]
    exact held found

/-- One operation: what is found is what a map without expiry would hold. -/
private theorem latest_of_get_perform {values : K → Option V}
    (held : ∀ key value, map.get key = some value → values key = some value)
    (event : Event K V) (found : (map.perform event).get key = some value) :
    event.operation.latest values key = some value := by
  obtain ⟨time, operation⟩ := event
  cases operation with
  | insert other inserted =>
      have inserts := get_insert (map.age time) other key inserted
      exact update_eq_of_ite (inserts.symm.trans found) fun old =>
        held key value (get_of_get_age old)
  | store other inserted =>
      have inserts := get_insert map other key inserted
      exact update_eq_of_ite (inserts.symm.trans found) (held key value)
  | get other => exact held key value found
  | modify other change =>
      have written := (get_modify map other key change).symm.trans found
      have wasFound : map.get other = none ∨
          (map.get other).map change = (values other).map change := by
        cases before : map.get other with
        | none => exact .inl rfl
        | some previous =>
            rw [held other previous before]
            exact .inr rfl
      refine update_eq_of_ite ?_ (held key value)
      split at written
      · rename_i same
        subst same
        rw [if_pos rfl]
        rcases wasFound with missing | equal
        · rw [missing] at written
          cases written
        · exact equal ▸ written
      · rename_i different
        rw [if_neg different]
        exact written
  | remove other =>
      have removes := get_remove map other key
      exact update_eq_of_ite (removes.symm.trans found) (held key value)
  | expire => exact held key value (get_of_get_age found)

/-- The map never answers with anything but the latest value. -/
theorem latest_of_get {lifetime now : Nat} {events : List (Event K V)}
    (found : ((empty lifetime now).performAll events).get key = some value) :
    latest events key = some value := by
  induction events using List.reverseRecOn generalizing key value with
  | nil => cases found
  | append_singleton earlier event ih =>
      unfold performAll at found
      rw [List.foldl_append] at found
      unfold latest
      rw [List.foldl_append]
      exact latest_of_get_perform (fun _ _ => ih) event found

/-- The entry is of the current generation, or of the one before and the next
aging is not before the deadline. -/
def KeptUntil (deadline : Nat) (key : K) (map : ExpiringMap K V) : Prop :=
  ∃ value born, map.stored key = some (value, born) ∧
    (map.generation ≤ born ∨
      map.generation = born + 1 ∧ deadline ≤ map.ages)

omit [DecidableEq K] in
theorem KeptUntil.get {deadline : Nat} (kept : map.KeptUntil deadline key)
    : (map.get key).isSome := by
  obtain ⟨value, born, isStored, young | ⟨old, -⟩⟩ := kept
  · have found : map.get key = some value :=
      get_eq_some_iff.mpr ⟨born, isStored, Nat.le_succ_of_le young⟩
    rw [found]
    rfl
  · have found : map.get key = some value :=
      get_eq_some_iff.mpr ⟨born, isStored, Nat.le_of_eq old⟩
    rw [found]
    rfl

theorem keptUntil_insert (deadline : Nat) (map : ExpiringMap K V) (key : K)
    (value : V) : (map.insert key value).KeptUntil deadline key :=
  ⟨value, map.generation, Function.update_self .., .inl (Nat.le_refl _)⟩

/-- An insertion keeps its entry until any deadline. -/
theorem keptUntil_perform (deadline : Nat) (map : ExpiringMap K V)
    {event : Event K V} (inserts : event.operation.Inserts key) :
    (map.perform event).KeptUntil deadline key := by
  obtain ⟨time, operation⟩ := event
  cases operation with
  | insert other value =>
      have same : other = key := inserts
      exact same ▸ keptUntil_insert deadline (map.age time) other value
  | store other value =>
      have same : other = key := inserts
      exact same ▸ keptUntil_insert deadline map other value
  | get other => cases inserts
  | modify other change => cases inserts
  | remove other => cases inserts
  | expire => cases inserts

namespace KeptUntil

variable {deadline : Nat} {key : K} {map : ExpiringMap K V}

omit [DecidableEq K] in
/-- The aging of a young entry puts the next one after the deadline. -/
theorem age (kept : map.KeptUntil deadline key) {now : Nat}
    (beforeDeadline : now < deadline)
    (lasts : deadline ≤ now + map.lifetime) :
    (map.age now).KeptUntil deadline key := by
  obtain ⟨value, born, isStored, young | ⟨old, later⟩⟩ := kept
  · unfold ExpiringMap.age
    split
    · by_cases current : map.generation = born
      · exact ⟨value, born, isStored, .inr ⟨congrArg (· + 1) current, lasts⟩⟩
      · refine ⟨value, born, isStored, .inl ?_⟩
        exact Nat.lt_of_le_of_ne young current
    · exact ⟨value, born, isStored, .inl young⟩
  · have notYet : ¬ map.ages ≤ now := by omega
    unfold ExpiringMap.age
    rw [if_neg notYet]
    exact ⟨value, born, isStored, .inr ⟨old, later⟩⟩

theorem insert (kept : map.KeptUntil deadline key) (other : K) (value : V) :
    (map.insert other value).KeptUntil deadline key := by
  by_cases same : key = other
  · subst same
    exact keptUntil_insert deadline map key value
  · obtain ⟨held, born, isStored, kept⟩ := kept
    refine ⟨held, born, ?_, kept⟩
    exact (Function.update_of_ne same _ _).trans isStored

theorem remove (kept : map.KeptUntil deadline key) {other : K}
    (different : key ≠ other) :
    (map.remove other).KeptUntil deadline key := by
  obtain ⟨held, born, isStored, kept⟩ := kept
  refine ⟨held, born, ?_, kept⟩
  exact (Function.update_of_ne different _ _).trans isStored

theorem modify (kept : map.KeptUntil deadline key) (other : K)
    (change : V → V) : (map.modify other change).KeptUntil deadline key := by
  obtain ⟨held, born, isStored, kept⟩ := kept
  unfold ExpiringMap.modify
  split
  · by_cases same : key = other
    · subst same
      refine ⟨change held, born, ?_, kept⟩
      dsimp only
      rw [Function.update_self, isStored]
      rfl
    · refine ⟨held, born, ?_, kept⟩
      exact (Function.update_of_ne same _ _).trans isStored
  · exact ⟨held, born, isStored, kept⟩

theorem perform (kept : map.KeptUntil deadline key) {event : Event K V}
    (beforeDeadline : event.time < deadline)
    (lasts : deadline ≤ event.time + map.lifetime)
    (stays : ¬ event.operation.Removes key) :
    (map.perform event).KeptUntil deadline key := by
  obtain ⟨time, operation⟩ := event
  cases operation with
  | insert other value =>
      exact (kept.age beforeDeadline lasts).insert other value
  | store other value => exact kept.insert other value
  | get other => exact kept
  | modify other change => exact kept.modify other change
  | remove other => exact kept.remove fun same => stays same.symm
  | expire => exact kept.age beforeDeadline lasts

/-- All operations between the insertion and the deadline keep the entry. -/
theorem performAll {inserted : Nat} {events : List (Event K V)}
    (kept : map.KeptUntil (inserted + map.lifetime) key)
    (within : ∀ event ∈ events, inserted ≤ event.time ∧
      event.time < inserted + map.lifetime)
    (stays : ∀ event ∈ events, ¬ event.operation.Removes key) :
    (map.performAll events).KeptUntil (inserted + map.lifetime) key := by
  induction events generalizing map with
  | nil => exact kept
  | cons event rest ih =>
      obtain ⟨after, before⟩ := within event (List.mem_cons_self ..)
      have lasts : inserted + map.lifetime ≤ event.time + map.lifetime :=
        Nat.add_le_add_right after _
      have first := kept.perform before lasts (stays event (List.mem_cons_self ..))
      have lifetime := map.lifetime_perform event
      rw [← lifetime] at first within ⊢
      exact ih first
        (fun other member => within other (List.mem_cons_of_mem _ member))
        (fun other member => stays other (List.mem_cons_of_mem _ member))

end KeptUntil

/-- The entry is found after all operations before its deadline. -/
theorem isSome_get_of_recent {inserted : Event K V} {later : List (Event K V)}
    (inserts : inserted.operation.Inserts key)
    (within : ∀ event ∈ later, inserted.time ≤ event.time ∧
      event.time < inserted.time + map.lifetime)
    (stays : ∀ event ∈ later, ¬ event.operation.Removes key) :
    ((map.performAll (inserted :: later)).get key).isSome := by
  have lifetime := map.lifetime_perform inserted
  have kept := map.keptUntil_perform (inserted.time + map.lifetime) inserts
  rw [← lifetime] at kept within
  exact (kept.performAll within stays).get

/-- Whatever is stored for the key was stored no later than in the generation
given. -/
def BornBy (generation : Nat) (key : K) (map : ExpiringMap K V) : Prop :=
  ∀ value born, map.stored key = some (value, born) → born ≤ generation

omit [DecidableEq K] in
theorem Past.bornBy (past : map.Past) (key : K) :
    map.BornBy map.generation key :=
  past key

namespace BornBy

variable {generation : Nat} {key : K} {map : ExpiringMap K V}

omit [DecidableEq K] in
theorem get_eq_none (bornBy : map.BornBy generation key)
    (aged : generation + 2 ≤ map.generation) : map.get key = none := by
  cases found : map.get key with
  | none => rfl
  | some value =>
      obtain ⟨born, isStored, alive⟩ := get_eq_some_iff.mp found
      have early := bornBy value born isStored
      omega

omit [DecidableEq K] in
theorem age (bornBy : map.BornBy generation key) (now : Nat) :
    (map.age now).BornBy generation key := by
  intro value born isStored
  rw [stored_age] at isStored
  exact bornBy value born isStored

theorem insert (bornBy : map.BornBy generation key) {other : K}
    (different : key ≠ other) (value : V) :
    (map.insert other value).BornBy generation key := by
  intro held born isStored
  apply bornBy held born
  exact (Function.update_of_ne different _ _).symm.trans isStored

theorem remove (bornBy : map.BornBy generation key) (other : K) :
    (map.remove other).BornBy generation key := by
  intro held born isStored
  by_cases same : key = other
  · subst same
    simp [ExpiringMap.remove] at isStored
  · apply bornBy held born
    exact (Function.update_of_ne same _ _).symm.trans isStored

theorem modify (bornBy : map.BornBy generation key) (other : K)
    (change : V → V) : (map.modify other change).BornBy generation key := by
  intro held born isStored
  obtain ⟨previous, before⟩ := stored_of_stored_modify isStored
  exact bornBy previous born before

theorem perform (bornBy : map.BornBy generation key) {event : Event K V}
    (noInsertion : ¬ event.operation.Inserts key) :
    (map.perform event).BornBy generation key := by
  obtain ⟨time, operation⟩ := event
  cases operation with
  | insert other value =>
      exact (bornBy.age time).insert (fun same => noInsertion same.symm) value
  | store other value =>
      exact bornBy.insert (fun same => noInsertion same.symm) value
  | get other => exact bornBy
  | modify other change => exact bornBy.modify other change
  | remove other => exact bornBy.remove other
  | expire => exact bornBy.age time

theorem performAll {events : List (Event K V)}
    (bornBy : map.BornBy generation key)
    (noInsertion : ∀ event ∈ events, ¬ event.operation.Inserts key) :
    (map.performAll events).BornBy generation key := by
  induction events generalizing map with
  | nil => exact bornBy
  | cons event rest ih =>
      exact ih (bornBy.perform (noInsertion event (List.mem_cons_self ..)))
        fun other member => noInsertion other (List.mem_cons_of_mem _ member)

end BornBy

end Runs

end ExpiringMap

end CallingService.Foundation
