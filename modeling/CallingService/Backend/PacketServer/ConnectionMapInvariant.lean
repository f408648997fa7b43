import CallingService.Backend.PacketServer.ConnectionMap

/-!
# Consistency of the connection map

Three tables with two kinds of keys agree after every operation, so that a
descriptor found under an address always has its socket.
-/

namespace CallingService.Backend

open Foundation Rtp

/-- The socket of a connection that has one. -/
def ConnectionState.open? {T : Type} : ConnectionState T → Option T
  | .new socket => some socket
  | .connected socket => some socket
  | .notYetConnected => none
  | .closed _ => none

namespace ConnectionMap

variable {T : Type}

/-- The descriptor stored under an address. -/
def openFd (byPeerAddr : Table SocketLocator (ConnectionState RawFd))
    (peerAddr : SocketLocator) : Option RawFd :=
  (byPeerAddr.lookup peerAddr).bind ConnectionState.open?

section OpenFd

variable {byPeerAddr : Table SocketLocator (ConnectionState RawFd)}
variable {peerAddr other : SocketLocator}

theorem openFd_eq_some {fd : RawFd} : openFd byPeerAddr peerAddr = some fd ↔
    byPeerAddr.lookup peerAddr = some (.new fd) ∨
      byPeerAddr.lookup peerAddr = some (.connected fd) := by
  unfold openFd
  cases byPeerAddr.lookup peerAddr with
  | none => simp
  | some state =>
      cases state with
      | notYetConnected => simp [ConnectionState.open?]
      | new socket => simp [ConnectionState.open?]
      | connected socket => simp [ConnectionState.open?]
      | closed timestamp => simp [ConnectionState.open?]

theorem openFd_insert (state : ConnectionState RawFd) :
    openFd (byPeerAddr.insert peerAddr state) other =
      if other = peerAddr then state.open? else openFd byPeerAddr other := by
  unfold openFd
  split
  · rename_i same
    rw [same, AList.lookup_insert]
    rfl
  · rename_i different
    rw [AList.lookup_insert_ne different]

end OpenFd

structure Consistent (map : ConnectionMap T) : Prop where
  opened : ∀ fd, fd ∈ map.byFd ↔
    ∃ peerAddr, openFd map.byPeerAddr peerAddr = some fd
  unique : ∀ left right fd, openFd map.byPeerAddr left = some fd →
    openFd map.byPeerAddr right = some fd → left = right
  inactive : ∀ peerAddr, peerAddr ∈ map.inactiveTtls ↔
    peerAddr.isUdp = false ∧
      ∃ fd, map.byPeerAddr.lookup peerAddr = some (.new fd)
  present : ∀ peerAddr,
    map.byPeerAddr.lookup peerAddr ≠ some .notYetConnected

theorem consistent_new : Consistent (ConnectionMap.new : ConnectionMap T) where
  opened := by
    intro fd
    constructor
    · intro member
      exact absurd member (AList.notMem_empty fd)
    · rintro ⟨_, found⟩
      cases found
  unique := by
    intro _ _ _ found
    cases found
  inactive := by
    intro peerAddr
    constructor
    · intro member
      exact absurd member (AList.notMem_empty peerAddr)
    · rintro ⟨_, _, found⟩
      cases found
  present := by
    intro _ found
    cases found

section Operations

variable {map : ConnectionMap T} {peerAddr : SocketLocator} {fd : RawFd}

theorem Consistent.stored_mem (consistent : Consistent map)
    (stored : openFd map.byPeerAddr peerAddr = some fd) : fd ∈ map.byFd :=
  (consistent.opened fd).mpr ⟨peerAddr, stored⟩

/-- An address that gets a socket of its own. -/
theorem Consistent.opening (consistent : Consistent map) {socket : T}
    {state : ConnectionState RawFd} {ttls : Table SocketLocator Nat}
    (free : openFd map.byPeerAddr peerAddr = none) (fresh : fd ∉ map.byFd)
    (opens : state.open? = some fd)
    (tracked : ∀ other, other ∈ ttls ↔ other ∈ map.inactiveTtls ∨
      (other = peerAddr ∧ peerAddr.isUdp = false ∧ state = .new fd)) :
    Consistent {
      byFd := map.byFd.insert fd socket
      byPeerAddr := map.byPeerAddr.insert peerAddr state
      inactiveTtls := ttls } where
  opened := by
    intro other
    rw [AList.mem_insert]
    constructor
    · rintro (rfl | member)
      · refine ⟨peerAddr, ?_⟩
        rw [openFd_insert, if_pos rfl, opens]
      · obtain ⟨address, stored⟩ := (consistent.opened other).mp member
        refine ⟨address, ?_⟩
        have different : address ≠ peerAddr := by
          rintro rfl
          rw [free] at stored
          cases stored
        rw [openFd_insert, if_neg different, stored]
    · rintro ⟨address, stored⟩
      rw [openFd_insert] at stored
      split at stored
      · rw [opens] at stored
        cases stored
        exact Or.inl rfl
      · exact Or.inr (consistent.stored_mem stored)
  unique := by
    intro left right other leftStored rightStored
    rw [openFd_insert] at leftStored rightStored
    split at leftStored
    · rename_i leftSame
      split at rightStored
      · rename_i rightSame
        rw [leftSame, rightSame]
      · rw [opens] at leftStored
        cases leftStored
        exact absurd (consistent.stored_mem rightStored) fresh
    · split at rightStored
      · rw [opens] at rightStored
        cases rightStored
        exact absurd (consistent.stored_mem leftStored) fresh
      · exact consistent.unique left right other leftStored rightStored
  inactive := by
    intro other
    rw [tracked]
    by_cases same : other = peerAddr
    · subst same
      rw [AList.lookup_insert]
      constructor
      · rintro (member | ⟨_, overTcp, rfl⟩)
        · obtain ⟨_, stored, found⟩ := (consistent.inactive other).mp member
          rw [openFd_eq_some.mpr (Or.inl found)] at free
          cases free
        · exact ⟨overTcp, fd, rfl⟩
      · rintro ⟨overTcp, stored, isNew⟩
        cases isNew
        cases opens
        exact Or.inr ⟨rfl, overTcp, rfl⟩
    · rw [AList.lookup_insert_ne same, ← consistent.inactive other]
      constructor
      · rintro (member | ⟨equal, _⟩)
        · exact member
        · exact absurd equal same
      · exact Or.inl
  present := by
    intro other
    by_cases same : other = peerAddr
    · subst same
      rw [AList.lookup_insert]
      rintro isAbsent
      cases isAbsent
      cases opens
    · rw [AList.lookup_insert_ne same]
      exact consistent.present other

/-- An address that loses its socket. -/
theorem Consistent.closing (consistent : Consistent map) {now : Instant}
    {ttls : Table SocketLocator Nat}
    (stored : openFd map.byPeerAddr peerAddr = some fd)
    (tracked : ∀ other, other ∈ ttls ↔
      other ∈ map.inactiveTtls ∧ other ≠ peerAddr) :
    Consistent {
      byFd := map.byFd.erase fd
      byPeerAddr := map.byPeerAddr.insert peerAddr (.closed now)
      inactiveTtls := ttls } where
  opened := by
    intro other
    rw [AList.mem_erase]
    constructor
    · rintro ⟨different, member⟩
      obtain ⟨address, otherStored⟩ := (consistent.opened other).mp member
      refine ⟨address, ?_⟩
      have elsewhere : address ≠ peerAddr := by
        rintro rfl
        rw [stored] at otherStored
        cases otherStored
        exact different rfl
      rw [openFd_insert, if_neg elsewhere, otherStored]
    · rintro ⟨address, otherStored⟩
      rw [openFd_insert] at otherStored
      split at otherStored
      · cases otherStored
      · rename_i elsewhere
        refine ⟨?_, consistent.stored_mem otherStored⟩
        rintro rfl
        exact elsewhere
          (consistent.unique address peerAddr other otherStored stored)
  unique := by
    intro left right other leftStored rightStored
    rw [openFd_insert] at leftStored rightStored
    split at leftStored
    · cases leftStored
    · split at rightStored
      · cases rightStored
      · exact consistent.unique left right other leftStored rightStored
  inactive := by
    intro other
    rw [tracked]
    by_cases same : other = peerAddr
    · subst same
      rw [AList.lookup_insert]
      constructor
      · rintro ⟨_, different⟩
        exact absurd rfl different
      · rintro ⟨_, _, isNew⟩
        cases isNew
    · rw [AList.lookup_insert_ne same, ← consistent.inactive other]
      exact and_iff_left same
  present := by
    intro other
    by_cases same : other = peerAddr
    · subst same
      rw [AList.lookup_insert]
      rintro isAbsent
      cases isAbsent
    · rw [AList.lookup_insert_ne same]
      exact consistent.present other

/-- The connections of every address stay what they are. -/
theorem Consistent.relabel (consistent : Consistent map)
    {byPeerAddr : Table SocketLocator (ConnectionState RawFd)}
    {ttls : Table SocketLocator Nat}
    (kept : ∀ other, openFd byPeerAddr other = openFd map.byPeerAddr other)
    (inactive : ∀ other, other ∈ ttls ↔ other.isUdp = false ∧
      ∃ fd, byPeerAddr.lookup other = some (.new fd))
    (present : ∀ other, byPeerAddr.lookup other ≠ some .notYetConnected) :
    Consistent { map with
      byPeerAddr := byPeerAddr
      inactiveTtls := ttls } where
  opened := by
    intro fd
    simp only [kept]
    exact consistent.opened fd
  unique := by
    intro left right fd
    simp only [kept]
    exact consistent.unique left right fd
  inactive := inactive
  present := present

theorem Consistent.lookup_of_free (consistent : Consistent map)
    (free : openFd map.byPeerAddr peerAddr = none) :
    map.byPeerAddr.lookup peerAddr = none ∨ ∃ timestamp,
      map.byPeerAddr.lookup peerAddr = some (.closed timestamp) := by
  have isPresent := consistent.present peerAddr
  unfold openFd at free
  cases found : map.byPeerAddr.lookup peerAddr with
  | none => exact Or.inl rfl
  | some state =>
      rw [found] at free
      cases state with
      | notYetConnected => exact absurd found isPresent
      | new fd => cases free
      | connected fd => cases free
      | closed timestamp => exact Or.inr ⟨timestamp, rfl⟩

theorem Consistent.indexed (consistent : Consistent map)
    (stored : openFd map.byPeerAddr peerAddr = some fd) :
    ∃ socket, map.indexByFd fd = .ok socket := by
  have member := consistent.stored_mem stored
  obtain ⟨socket, found⟩ :=
    Option.isSome_iff_exists.mp (AList.lookup_isSome.mpr member)
  refine ⟨socket, ?_⟩
  unfold indexByFd
  rw [okOr_eq_ok_iff]
  exact found

/-! ## The operations -/

variable {profile : BuildProfile} {currentTick : Option Nat}

theorem trackInactive_eq_ok {after : ConnectionMap T}
    (timed : peerAddr.isUdp = false → currentTick.isSome)
    (tracked : map.trackInactive profile peerAddr currentTick = .ok after) :
    after.byFd = map.byFd ∧ after.byPeerAddr = map.byPeerAddr ∧
      ∀ other, other ∈ after.inactiveTtls ↔
        other ∈ map.inactiveTtls ∨
          (other = peerAddr ∧ peerAddr.isUdp = false) := by
  unfold trackInactive at tracked
  split at tracked
  · rename_i overUdp
    cases tracked
    simp [overUdp]
  · rename_i overTcp
    rw [Bool.not_eq_true] at overTcp
    split at tracked
    · rename_i member
      cases tracked
      refine ⟨rfl, rfl, fun other => ?_⟩
      constructor
      · exact Or.inl
      · rintro (other_mem | ⟨rfl, _⟩)
        · exact other_mem
        · exact member
    · cases currentTick with
      | none => cases timed overTcp
      | some tick =>
          obtain ⟨expiry, _, returned⟩ := bind_eq_ok_iff.mp tracked
          cases returned
          refine ⟨rfl, rfl, fun other => ?_⟩
          rw [AList.mem_insert]
          simp only [overTcp, and_true]
          exact or_comm

theorem trackInactive_error {panic : Panic}
    (failed : map.trackInactive profile peerAddr currentTick = .error panic) :
    ∃ tick, currentTick = some tick ∧
      profile.addU64 tcpInactiveConnectionTtlTicks tick = .error panic := by
  unfold trackInactive at failed
  split at failed
  · cases failed
  · split at failed
    · cases failed
    · cases currentTick with
      | none => cases failed
      | some tick =>
          exact ⟨tick, rfl, bind_return_eq_error_iff.mp failed⟩

/-- What an insertion puts under its address. -/
def openedState (peerAddr : SocketLocator) (fd : RawFd) :
    ConnectionState RawFd :=
  if peerAddr.isUdp then .connected fd else .new fd

theorem openedState_open : (openedState peerAddr fd).open? = some fd := by
  unfold openedState
  split
  · rfl
  · rfl

theorem openedState_eq_new :
    openedState peerAddr fd = .new fd ↔ peerAddr.isUdp = false := by
  unfold openedState
  cases peerAddr.isUdp with
  | false => simp
  | true => simp

theorem insertConnected_spec {socket : T} {result : ConnectionMap T × T}
    (consistent : Consistent map) (free : openFd map.byPeerAddr peerAddr = none)
    (timed : peerAddr.isUdp = false → currentTick.isSome)
    (inserted : map.insertConnected profile fd socket peerAddr currentTick =
      .ok result) :
    Consistent result.1 ∧ result.1.byPeerAddr =
      map.byPeerAddr.insert peerAddr (openedState peerAddr fd) := by
  obtain ⟨_, checked, rest⟩ := bind_eq_ok_iff.mp inserted
  have fresh := ensure_eq_ok_iff.mp checked
  obtain ⟨tracked, tracking, returned⟩ := bind_eq_ok_iff.mp rest
  cases returned
  obtain ⟨sameFds, sameAddrs, ttls⟩ := trackInactive_eq_ok timed tracking
  obtain ⟨byFd, byPeerAddr, inactiveTtls⟩ := tracked
  dsimp only at sameFds sameAddrs ttls
  subst sameFds sameAddrs
  refine ⟨?_, rfl⟩
  apply consistent.opening free fresh openedState_open
  intro other
  rw [ttls other, openedState_eq_new, and_self]

theorem insertConnected_error {socket : T} {panic : Panic}
    (fresh : fd ∉ map.byFd)
    (failed : map.insertConnected profile fd socket peerAddr currentTick =
      .error panic) :
    ∃ tick, currentTick = some tick ∧
      profile.addU64 tcpInactiveConnectionTtlTicks tick = .error panic := by
  rcases bind_eq_error_iff.mp failed with reused | ⟨_, _, rest⟩
  · unfold ensure at reused
    rw [if_pos fresh] at reused
    cases reused
  · exact trackInactive_error (bind_return_eq_error_iff.mp rest)

theorem getOrInsertConnected_of_stored {asRawFd : T → RawFd} {socket : T}
    (consistent : Consistent map)
    (stored : openFd map.byPeerAddr peerAddr = some fd) :
    ∃ found, map.getOrInsertConnected profile asRawFd socket peerAddr
      currentTick = .ok (map, found) := by
  obtain ⟨found, indexed⟩ := consistent.indexed stored
  refine ⟨found, ?_⟩
  unfold getOrInsertConnected
  rcases openFd_eq_some.mp stored with isNew | isConnected
  · rw [isNew]
    dsimp only
    rw [indexed]
    rfl
  · rw [isConnected]
    dsimp only
    rw [indexed]
    rfl

theorem getOrInsertConnected_of_free {asRawFd : T → RawFd} {socket : T}
    (consistent : Consistent map) (free : openFd map.byPeerAddr peerAddr = none) :
    map.getOrInsertConnected profile asRawFd socket peerAddr currentTick =
      map.insertConnected profile (asRawFd socket) socket peerAddr
        currentTick := by
  unfold getOrInsertConnected
  rcases consistent.lookup_of_free free with isAbsent | ⟨_, isClosed⟩
  · rw [isAbsent]
  · rw [isClosed]

theorem markClosed_of_stored (consistent : Consistent map) {now : Instant}
    (stored : openFd map.byPeerAddr peerAddr = some fd) :
    ∃ after, map.markClosed peerAddr now = .ok (after, map.byFd.lookup fd) ∧
      Consistent after ∧
      after.byPeerAddr = map.byPeerAddr.insert peerAddr (.closed now) := by
  unfold markClosed
  rcases openFd_eq_some.mp stored with isNew | isConnected
  · rw [isNew]
    refine ⟨_, rfl, consistent.closing stored ?_, rfl⟩
    intro other
    rw [AList.mem_erase]
    exact and_comm
  · rw [isConnected]
    refine ⟨_, rfl, consistent.closing stored ?_, rfl⟩
    intro other
    constructor
    · intro member
      refine ⟨member, ?_⟩
      rintro rfl
      obtain ⟨_, _, isNew⟩ := (consistent.inactive other).mp member
      rw [isConnected] at isNew
      cases isNew
    · exact And.left

theorem markClosed_of_free (consistent : Consistent map) {now : Instant}
    (free : openFd map.byPeerAddr peerAddr = none) :
    map.markClosed peerAddr now = .ok (map, none) := by
  unfold markClosed
  rcases consistent.lookup_of_free free with isAbsent | ⟨_, isClosed⟩
  · rw [isAbsent]
  · rw [isClosed]

theorem lookup_erase_insert {byPeerAddr : Table SocketLocator
      (ConnectionState RawFd)} {state : ConnectionState RawFd}
    (found : byPeerAddr.lookup peerAddr = some state)
    (other : SocketLocator) :
    ((byPeerAddr.erase peerAddr).insert peerAddr state).lookup other =
      byPeerAddr.lookup other := by
  by_cases same : other = peerAddr
  · rw [same, AList.lookup_insert, found]
  · rw [AList.lookup_insert_ne same, AList.lookup_erase_ne same]

/-- Only an address without a socket is removed. -/
theorem Consistent.removeClosed_spec (consistent : Consistent map) :
    ∃ byPeerAddr,
      map.removeClosed peerAddr = .ok { map with byPeerAddr := byPeerAddr } ∧
      ∀ other, byPeerAddr.lookup other =
        if other = peerAddr ∧ openFd map.byPeerAddr peerAddr = none then none
        else map.byPeerAddr.lookup other := by
  unfold removeClosed
  cases stored : openFd map.byPeerAddr peerAddr with
  | some fd =>
      have putBack : ∀ state, map.byPeerAddr.lookup peerAddr = some state →
          ∀ other, ((map.byPeerAddr.erase peerAddr).insert peerAddr
            state).lookup other =
              if other = peerAddr ∧ some fd = none then none
              else map.byPeerAddr.lookup other := by
        intro state found other
        rw [if_neg (by simp), lookup_erase_insert found]
      rcases openFd_eq_some.mp stored with isNew | isConnected
      · rw [isNew]
        exact ⟨_, rfl, putBack _ isNew⟩
      · rw [isConnected]
        exact ⟨_, rfl, putBack _ isConnected⟩
  | none =>
      have erased : ∀ other, (map.byPeerAddr.erase peerAddr).lookup other =
          if other = peerAddr ∧ (none : Option RawFd) = none then none
          else map.byPeerAddr.lookup other := by
        intro other
        by_cases same : other = peerAddr
        · rw [if_pos ⟨same, rfl⟩, same, AList.lookup_erase]
        · rw [if_neg (fun both => same both.1), AList.lookup_erase_ne same]
      rcases consistent.lookup_of_free stored with isAbsent | ⟨_, isClosed⟩
      · rw [isAbsent]
        exact ⟨_, rfl, erased⟩
      · rw [isClosed]
        exact ⟨_, rfl, erased⟩

theorem removeClosed_consistent {after : ConnectionMap T}
    (consistent : Consistent map)
    (removed : map.removeClosed peerAddr = .ok after) : Consistent after := by
  obtain ⟨byPeerAddr, removal, lookup_eq⟩ := consistent.removeClosed_spec
  rw [removal] at removed
  cases removed
  apply consistent.relabel
  · intro other
    unfold openFd
    rw [lookup_eq other]
    split
    · rename_i gone
      exact (gone.1 ▸ gone.2).symm
    · rfl
  · intro other
    rw [consistent.inactive other, lookup_eq other]
    split
    · rename_i gone
      simp only [reduceCtorEq, exists_false, and_false, iff_false]
      rintro ⟨_, fd, isNew⟩
      have stored := openFd_eq_some.mpr (Or.inl isNew)
      rw [gone.1, gone.2] at stored
      cases stored
    · rfl
  · intro other
    rw [lookup_eq other]
    split
    · simp
    · exact consistent.present other

theorem markAsActive_of_new
    (isNew : map.byPeerAddr.lookup peerAddr = some (.new fd)) :
    map.markAsActive peerAddr = { map with
      byPeerAddr := map.byPeerAddr.insert peerAddr (.connected fd)
      inactiveTtls := map.inactiveTtls.erase peerAddr } := by
  unfold markAsActive
  rw [isNew]

theorem markAsActive_of_other
    (notNew : ∀ fd, map.byPeerAddr.lookup peerAddr ≠ some (.new fd)) :
    map.markAsActive peerAddr = { map with
      inactiveTtls := map.inactiveTtls.erase peerAddr } := by
  unfold markAsActive
  dsimp only
  split
  · rename_i fd isNew
    exact absurd isNew (notNew fd)
  · rfl

theorem markAsActive_consistent (consistent : Consistent map) :
    Consistent (map.markAsActive peerAddr) := by
  by_cases isNew : ∃ fd, map.byPeerAddr.lookup peerAddr = some (.new fd)
  · obtain ⟨fd, isNew⟩ := isNew
    rw [markAsActive_of_new isNew]
    apply consistent.relabel
    · intro other
      rw [openFd_insert]
      split
      · rename_i same
        rw [same]
        exact (openFd_eq_some.mpr (Or.inl isNew)).symm
      · rfl
    · intro other
      rw [AList.mem_erase]
      by_cases same : other = peerAddr
      · subst same
        simp
      · rw [AList.lookup_insert_ne same, ← consistent.inactive other]
        exact and_iff_right same
    · intro other
      by_cases same : other = peerAddr
      · subst same
        simp
      · rw [AList.lookup_insert_ne same]
        exact consistent.present other
  · rw [not_exists] at isNew
    rw [markAsActive_of_other isNew]
    apply consistent.relabel
    · intro other
      rfl
    · intro other
      rw [AList.mem_erase, ← consistent.inactive other]
      apply and_iff_right_of_imp
      rintro member rfl
      obtain ⟨_, fd, found⟩ := (consistent.inactive other).mp member
      exact isNew fd found
    · exact consistent.present

theorem markAsActive_closed {other : SocketLocator} {timestamp : Instant}
    (isClosed : map.byPeerAddr.lookup other = some (.closed timestamp)) :
    (map.markAsActive peerAddr).byPeerAddr.lookup other =
      some (.closed timestamp) := by
  by_cases isNew : ∃ fd, map.byPeerAddr.lookup peerAddr = some (.new fd)
  · obtain ⟨fd, isNew⟩ := isNew
    have different : other ≠ peerAddr := by
      rintro rfl
      rw [isClosed] at isNew
      cases isNew
    rw [markAsActive_of_new isNew]
    dsimp only
    rw [AList.lookup_insert_ne different, isClosed]
  · rw [not_exists] at isNew
    rw [markAsActive_of_other isNew]
    exact isClosed

/-! ## The lookups -/

theorem getByAddr_ok (consistent : Consistent map) :
    ∃ state, map.getByAddr peerAddr = .ok state := by
  unfold getByAddr
  cases stored : openFd map.byPeerAddr peerAddr with
  | some fd =>
      obtain ⟨socket, indexed⟩ := consistent.indexed stored
      rcases openFd_eq_some.mp stored with isNew | isConnected
      · rw [isNew]
        refine ⟨.new socket, ?_⟩
        dsimp only [Option.getD]
        rw [indexed]
        rfl
      · rw [isConnected]
        refine ⟨.connected socket, ?_⟩
        dsimp only [Option.getD]
        rw [indexed]
        rfl
  | none =>
      rcases consistent.lookup_of_free stored with isAbsent | ⟨_, isClosed⟩
      · rw [isAbsent]
        exact ⟨_, rfl⟩
      · rw [isClosed]
        exact ⟨_, rfl⟩

theorem closedConnections_ok
    {entries : List (SocketLocator × ConnectionState RawFd)}
    (present : ∀ entry ∈ entries, entry.2 ≠ .notYetConnected) :
    ∃ closed, closedConnections entries = .ok closed := by
  induction entries with
  | nil => exact ⟨[], rfl⟩
  | cons entry rest ih =>
      obtain ⟨closed, succeeded⟩ := ih (fun other member =>
        present other (List.mem_cons_of_mem entry member))
      have entryPresent := present entry List.mem_cons_self
      obtain ⟨peerAddr, state⟩ := entry
      cases state with
      | notYetConnected => exact absurd rfl entryPresent
      | new fd => exact ⟨closed, succeeded⟩
      | connected fd => exact ⟨closed, succeeded⟩
      | closed timestamp =>
          refine ⟨(peerAddr, timestamp) :: closed, ?_⟩
          unfold closedConnections
          rw [succeeded]
          rfl

theorem closedConnectionIter_ok (consistent : Consistent map) :
    ∃ closed, map.closedConnectionIter = .ok closed := by
  apply closedConnections_ok
  intro entry member isAbsent
  obtain ⟨stored, stored_mem, rfl⟩ := List.mem_map.mp member
  have found : stored.2 ∈ map.byPeerAddr.lookup stored.1 :=
    AList.mem_lookup_iff.mpr stored_mem
  dsimp only at isAbsent
  rw [isAbsent] at found
  exact consistent.present stored.1 found

end Operations

end ConnectionMap

end CallingService.Backend
