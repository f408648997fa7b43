import CallingService.Backend.PacketServer.ConnectionMapInvariant

/-!
# Runs of the connection map

Every sequence of operations keeps the tables consistent, as long as a new
socket has a descriptor of its own and a TCP address comes with a tick.
-/

namespace CallingService.Backend

open Foundation Rtp

inductive ConnectionMapOp (T : Type) where
  | getOrInsertConnected (socket : T) (peerAddr : SocketLocator)
      (currentTick : Option Nat)
  | markClosed (peerAddr : SocketLocator) (now : Instant)
  | markAsActive (peerAddr : SocketLocator)
  | removeClosed (peerAddr : SocketLocator)
  | getByAddr (peerAddr : SocketLocator)
  | getByFd (fd : RawFd)
  | closedConnectionIter
  | forEachInactiveSender (currentTick : Nat)

namespace ConnectionMap

variable {T : Type}

def applyOp (profile : BuildProfile) (asRawFd : T → RawFd)
    (map : ConnectionMap T) :
    ConnectionMapOp T → Except Panic (ConnectionMap T)
  | .getOrInsertConnected socket peerAddr currentTick => do
      let result ←
        map.getOrInsertConnected profile asRawFd socket peerAddr currentTick
      return result.1
  | .markClosed peerAddr now => do
      let result ← map.markClosed peerAddr now
      return result.1
  | .markAsActive peerAddr => .ok (map.markAsActive peerAddr)
  | .removeClosed peerAddr => map.removeClosed peerAddr
  | .getByAddr peerAddr => do
      let _ ← map.getByAddr peerAddr
      return map
  | .getByFd _ => .ok map
  | .closedConnectionIter => do
      let _ ← map.closedConnectionIter
      return map
  | .forEachInactiveSender _ => .ok map

/-- A descriptor is not reused while its socket is in the map, and an address
of a TCP peer is inserted with a tick. -/
def Allowed (asRawFd : T → RawFd) (map : ConnectionMap T) :
    ConnectionMapOp T → Prop
  | .getOrInsertConnected socket peerAddr currentTick =>
      asRawFd socket ∉ map.byFd ∧
        (peerAddr.isUdp = false → currentTick.isSome)
  | _ => True

def MapStep (profile : BuildProfile) (asRawFd : T → RawFd)
    (before : ConnectionMap T) (op : ConnectionMapOp T)
    (after : ConnectionMap T) : Prop :=
  before.applyOp profile asRawFd op = .ok after

section Steps

variable {profile : BuildProfile} {asRawFd : T → RawFd}
variable {map after : ConnectionMap T}

theorem getOrInsertConnected_consistent {socket : T}
    {peerAddr : SocketLocator} {currentTick : Option Nat}
    {result : ConnectionMap T × T} (consistent : Consistent map)
    (timed : peerAddr.isUdp = false → currentTick.isSome)
    (inserted : map.getOrInsertConnected profile asRawFd socket peerAddr
      currentTick = .ok result) :
    Consistent result.1 ∧ ∀ other, other ≠ peerAddr →
      result.1.byPeerAddr.lookup other = map.byPeerAddr.lookup other := by
  cases stored : openFd map.byPeerAddr peerAddr with
  | some fd =>
      obtain ⟨found, unchanged⟩ := getOrInsertConnected_of_stored consistent
        stored
      rw [unchanged] at inserted
      cases inserted
      exact ⟨consistent, fun _ _ => rfl⟩
  | none =>
      rw [getOrInsertConnected_of_free consistent stored] at inserted
      obtain ⟨kept, sameAddrs⟩ := insertConnected_spec consistent stored timed
        inserted
      refine ⟨kept, fun other different => ?_⟩
      rw [sameAddrs, AList.lookup_insert_ne different]

theorem markClosed_consistent {peerAddr : SocketLocator} {now : Instant}
    (consistent : Consistent map) :
    ∃ result, map.markClosed peerAddr now = .ok result ∧
      Consistent result.1 ∧ ∀ other timestamp,
        map.byPeerAddr.lookup other = some (.closed timestamp) →
          result.1.byPeerAddr.lookup other = some (.closed timestamp) := by
  cases stored : openFd map.byPeerAddr peerAddr with
  | some fd =>
      obtain ⟨after, closes, kept, sameAddrs⟩ := markClosed_of_stored
        consistent stored
      refine ⟨_, closes, kept, fun other timestamp isClosed => ?_⟩
      have different : other ≠ peerAddr := by
        rintro rfl
        unfold openFd at stored
        rw [isClosed] at stored
        cases stored
      dsimp only
      rw [sameAddrs, AList.lookup_insert_ne different, isClosed]
  | none =>
      exact ⟨_, markClosed_of_free consistent stored, consistent,
        fun _ _ isClosed => isClosed⟩

theorem applyOp_consistent {op : ConnectionMapOp T}
    (consistent : Consistent map) (allowed : Allowed asRawFd map op)
    (applied : map.applyOp profile asRawFd op = .ok after) :
    Consistent after := by
  cases op with
  | getOrInsertConnected socket peerAddr currentTick =>
      obtain ⟨result, inserted, returned⟩ := bind_eq_ok_iff.mp applied
      cases returned
      exact (getOrInsertConnected_consistent consistent allowed.2 inserted).1
  | markClosed peerAddr now =>
      obtain ⟨result, closes, returned⟩ := bind_eq_ok_iff.mp applied
      cases returned
      obtain ⟨other, alsoCloses, kept, _⟩ := markClosed_consistent consistent
      rw [closes] at alsoCloses
      cases alsoCloses
      exact kept
  | markAsActive peerAddr =>
      cases applied
      exact markAsActive_consistent consistent
  | removeClosed peerAddr =>
      exact removeClosed_consistent consistent applied
  | getByAddr _ | closedConnectionIter =>
      obtain ⟨_, _, returned⟩ := bind_eq_ok_iff.mp applied
      cases returned
      exact consistent
  | getByFd fd =>
      cases applied
      exact consistent
  | forEachInactiveSender currentTick =>
      cases applied
      exact consistent

theorem applyOp_error {op : ConnectionMapOp T} {panic : Panic}
    (consistent : Consistent map) (allowed : Allowed asRawFd map op)
    (failed : map.applyOp profile asRawFd op = .error panic) :
    ∃ socket peerAddr tick,
      op = .getOrInsertConnected socket peerAddr (some tick) ∧
      profile.addU64 tcpInactiveConnectionTtlTicks tick = .error panic := by
  cases op with
  | getOrInsertConnected socket peerAddr currentTick =>
      have panics := bind_return_eq_error_iff.mp failed
      cases stored : openFd map.byPeerAddr peerAddr with
      | some fd =>
          obtain ⟨found, unchanged⟩ := getOrInsertConnected_of_stored
            consistent stored
          rw [unchanged] at panics
          cases panics
      | none =>
          rw [getOrInsertConnected_of_free consistent stored] at panics
          obtain ⟨tick, rfl, overflows⟩ := insertConnected_error allowed.1
            panics
          exact ⟨socket, peerAddr, tick, rfl, overflows⟩
  | markClosed peerAddr now =>
      obtain ⟨result, closes, _, _⟩ := markClosed_consistent consistent
      have panics := bind_return_eq_error_iff.mp failed
      rw [closes] at panics
      cases panics
  | markAsActive peerAddr => cases failed
  | removeClosed peerAddr =>
      obtain ⟨_, removal, _⟩ := consistent.removeClosed_spec
      have panics : map.removeClosed peerAddr = .error panic := failed
      rw [removal] at panics
      cases panics
  | getByAddr peerAddr =>
      obtain ⟨state, found⟩ := getByAddr_ok consistent
      have panics := bind_return_eq_error_iff.mp failed
      rw [found] at panics
      cases panics
  | getByFd fd => cases failed
  | closedConnectionIter =>
      obtain ⟨closed, listed⟩ := closedConnectionIter_ok consistent
      have panics := bind_return_eq_error_iff.mp failed
      rw [listed] at panics
      cases panics
  | forEachInactiveSender currentTick => cases failed

/-- A closed address is reopened by an insertion and forgotten by
`remove_closed`, and nothing else happens to it. -/
theorem applyOp_closed {op : ConnectionMapOp T} {peerAddr : SocketLocator}
    {timestamp : Instant} (consistent : Consistent map)
    (allowed : Allowed asRawFd map op)
    (applied : map.applyOp profile asRawFd op = .ok after)
    (isClosed : map.byPeerAddr.lookup peerAddr = some (.closed timestamp)) :
    after.byPeerAddr.lookup peerAddr = some (.closed timestamp) ∨
      op = .removeClosed peerAddr ∨ ∃ socket currentTick,
        op = .getOrInsertConnected socket peerAddr currentTick := by
  cases op with
  | getOrInsertConnected socket other currentTick =>
      obtain ⟨result, inserted, returned⟩ := bind_eq_ok_iff.mp applied
      cases returned
      by_cases same : peerAddr = other
      · subst same
        exact Or.inr (Or.inr ⟨socket, currentTick, rfl⟩)
      · left
        rw [(getOrInsertConnected_consistent consistent allowed.2
          inserted).2 peerAddr same, isClosed]
  | markClosed other now =>
      obtain ⟨result, closes, returned⟩ := bind_eq_ok_iff.mp applied
      cases returned
      obtain ⟨_, alsoCloses, _, kept⟩ := markClosed_consistent consistent
      rw [closes] at alsoCloses
      cases alsoCloses
      exact Or.inl (kept peerAddr timestamp isClosed)
  | markAsActive other =>
      cases applied
      exact Or.inl (markAsActive_closed isClosed)
  | removeClosed other =>
      by_cases same : peerAddr = other
      · subst same
        exact Or.inr (Or.inl rfl)
      · left
        obtain ⟨byPeerAddr, removal, lookup_eq⟩ :=
          consistent.removeClosed_spec
        have removed : map.removeClosed other = .ok after := applied
        rw [removal] at removed
        cases removed
        dsimp only
        rw [lookup_eq peerAddr, if_neg (fun both => same both.1), isClosed]
  | getByAddr _ | closedConnectionIter =>
      obtain ⟨_, _, returned⟩ := bind_eq_ok_iff.mp applied
      cases returned
      exact Or.inl isClosed
  | getByFd fd =>
      cases applied
      exact Or.inl isClosed
  | forEachInactiveSender currentTick =>
      cases applied
      exact Or.inl isClosed

/-- An address with a socket keeps it. -/
theorem removeClosed_keeps {peerAddr other : SocketLocator} {fd : RawFd}
    (consistent : Consistent map)
    (removed : map.removeClosed peerAddr = .ok after)
    (stored : openFd map.byPeerAddr other = some fd) :
    after.byFd = map.byFd ∧
      after.byPeerAddr.lookup other = map.byPeerAddr.lookup other := by
  obtain ⟨byPeerAddr, removal, lookup_eq⟩ := consistent.removeClosed_spec
  rw [removal] at removed
  cases removed
  refine ⟨rfl, ?_⟩
  dsimp only
  rw [lookup_eq other, if_neg]
  rintro ⟨rfl, free⟩
  rw [stored] at free
  cases free

end Steps

/-! ## Runs -/

section Runs

variable {profile : BuildProfile} {asRawFd : T → RawFd}
variable {ops : List (ConnectionMapOp T)} {map : ConnectionMap T}

theorem run_consistent
    (run : Run (Guarded (Allowed asRawFd) (MapStep profile asRawFd))
      (new : ConnectionMap T) ops map) : Consistent map := by
  apply run.invariant consistent_new
  intro before op after consistent step
  exact applyOp_consistent consistent step.1 step.2

theorem connection_map_agrees
    (run : Run (Guarded (Allowed asRawFd) (MapStep profile asRawFd))
      (new : ConnectionMap T) ops map) :
    (∀ fd, fd ∈ map.byFd ↔
      ∃ peerAddr, openFd map.byPeerAddr peerAddr = some fd) ∧
    (∀ left right fd, openFd map.byPeerAddr left = some fd →
      openFd map.byPeerAddr right = some fd → left = right) ∧
    (∀ peerAddr, peerAddr ∈ map.inactiveTtls ↔ peerAddr.isUdp = false ∧
      ∃ fd, map.byPeerAddr.lookup peerAddr = some (.new fd)) ∧
    (∀ op panic, Allowed asRawFd map op →
      map.applyOp profile asRawFd op = .error panic →
      ∃ socket peerAddr tick,
        op = .getOrInsertConnected socket peerAddr (some tick) ∧
        profile.addU64 tcpInactiveConnectionTtlTicks tick = .error panic) ∧
    (∀ op after peerAddr timestamp, Allowed asRawFd map op →
      MapStep profile asRawFd map op after →
      map.byPeerAddr.lookup peerAddr = some (.closed timestamp) →
      after.byPeerAddr.lookup peerAddr = some (.closed timestamp) ∨
        op = .removeClosed peerAddr ∨ ∃ socket currentTick,
          op = .getOrInsertConnected socket peerAddr currentTick) ∧
    (∀ peerAddr after other fd, map.removeClosed peerAddr = .ok after →
      openFd map.byPeerAddr other = some fd →
      after.byFd = map.byFd ∧
        after.byPeerAddr.lookup other = map.byPeerAddr.lookup other) := by
  have consistent := run_consistent run
  refine ⟨consistent.opened, consistent.unique, consistent.inactive,
    ?_, ?_, ?_⟩
  · intro op panic allowed failed
    exact applyOp_error consistent allowed failed
  · intro op after peerAddr timestamp allowed applied isClosed
    exact applyOp_closed consistent allowed applied isClosed
  · intro peerAddr after other fd removed stored
    exact removeClosed_keeps consistent removed stored

end Runs

/-! ## An address that is opened twice -/

def tcpPeer : SocketLocator := .tcp 1 false false

def openedMap (fd : RawFd) : ConnectionMap RawFd where
  byFd := AList.insert fd fd ∅
  byPeerAddr := AList.insert tcpPeer (.new fd) ∅
  inactiveTtls := AList.insert tcpPeer 100 ∅

def closedMap : ConnectionMap RawFd where
  byFd := ∅
  byPeerAddr := AList.insert tcpPeer (.closed 7) ∅
  inactiveTtls := ∅

theorem connection_map_agrees_reopened :
    openFd (openedMap 6).byPeerAddr tcpPeer = some 6 ∧
      (6 : RawFd) ∈ (openedMap 6).byFd ∧ (5 : RawFd) ∉ (openedMap 6).byFd ∧
      tcpPeer ∈ (openedMap 6).inactiveTtls := by
  have opens : Guarded (Allowed id) (MapStep .debug id) new
      (.getOrInsertConnected 5 tcpPeer (some 0)) (openedMap 5) :=
    ⟨⟨by decide, fun _ => rfl⟩, rfl⟩
  have closes : Guarded (Allowed id) (MapStep .debug id) (openedMap 5)
      (.markClosed tcpPeer 7) closedMap := ⟨trivial, rfl⟩
  have reopens : Guarded (Allowed id) (MapStep .debug id) closedMap
      (.getOrInsertConnected 6 tcpPeer (some 0)) (openedMap 6) :=
    ⟨⟨by decide, fun _ => rfl⟩, rfl⟩
  have run := ((Run.nil.snoc opens).snoc closes).snoc reopens
  obtain ⟨opened, unique, inactive, _⟩ := connection_map_agrees run
  have stored : openFd (openedMap 6).byPeerAddr tcpPeer = some 6 := rfl
  refine ⟨stored, (opened 6).mpr ⟨tcpPeer, stored⟩, ?_,
    (inactive tcpPeer).mpr ⟨rfl, 6, rfl⟩⟩
  intro member
  obtain ⟨peerAddr, leaked⟩ := (opened 5).mp member
  by_cases same : peerAddr = tcpPeer
  · rw [same, stored] at leaked
    cases leaked
  · unfold openFd openedMap at leaked
    dsimp only at leaked
    rw [AList.lookup_insert_ne same] at leaked
    cases leaked

end ConnectionMap

end CallingService.Backend
