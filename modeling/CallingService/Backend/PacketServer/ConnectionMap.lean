import CallingService.Backend.Connection

/-!
# The connection map

Sockets by descriptor, addresses with the descriptors of their sockets, and
the TCP addresses that have not been acknowledged.  A closed address stays for
a while without a socket.
-/

namespace CallingService.Backend

open Foundation Rtp

abbrev RawFd := Int

def tcpInactiveConnectionTtlTicks : Nat := 100

inductive ConnectionState (T : Type) where
  | notYetConnected
  | new (socket : T)
  | connected (socket : T)
  | closed (timestamp : Instant)
deriving DecidableEq, Repr

def SocketLocator.isUdp : SocketLocator → Bool
  | .udp _ _ => true
  | .tcp _ _ _ => false

structure ConnectionMap (T : Type) where
  byFd : Table RawFd T
  byPeerAddr : Table SocketLocator (ConnectionState RawFd)
  inactiveTtls : Table SocketLocator Nat

namespace ConnectionMap

variable {T : Type}

def new : ConnectionMap T where
  byFd := ∅
  byPeerAddr := ∅
  inactiveTtls := ∅

def shouldNotBeInTable : Panic := .assertion "should not be in the table at all"

/-- `self.by_fd[fd]`. -/
def indexByFd (map : ConnectionMap T) (fd : RawFd) : Except Panic T :=
  okOr (map.byFd.lookup fd) (.assertion "no entry found for key")

/-- New TCP addresses count as inactive; a missing tick is only logged. -/
def trackInactive (profile : BuildProfile) (map : ConnectionMap T)
    (peerAddr : SocketLocator) (currentTick : Option Nat) :
    Except Panic (ConnectionMap T) :=
  if peerAddr.isUdp then .ok map
  else if peerAddr ∈ map.inactiveTtls then .ok map
  else match currentTick with
    | none => .ok map
    | some tick => do
        let expiry ← profile.addU64 tcpInactiveConnectionTtlTicks tick
        return { map with
          inactiveTtls := map.inactiveTtls.insert peerAddr expiry }

/-- The part of `get_or_insert_connected` for an address without a socket. -/
def insertConnected (profile : BuildProfile) (map : ConnectionMap T)
    (fd : RawFd) (socket : T) (peerAddr : SocketLocator)
    (currentTick : Option Nat) : Except Panic (ConnectionMap T × T) := do
  ensure (fd ∉ map.byFd)
    (Panic.assertion "file descriptor reused before socket closed")
  let inserted : ConnectionMap T := { map with
    byFd := map.byFd.insert fd socket
    byPeerAddr := map.byPeerAddr.insert peerAddr
      (if peerAddr.isUdp then .connected fd else .new fd) }
  let tracked ← inserted.trackInactive profile peerAddr currentTick
  return (tracked, socket)

def getOrInsertConnected (profile : BuildProfile) (asRawFd : T → RawFd)
    (map : ConnectionMap T) (socket : T) (peerAddr : SocketLocator)
    (currentTick : Option Nat) : Except Panic (ConnectionMap T × T) :=
  match map.byPeerAddr.lookup peerAddr with
  | some .notYetConnected => .error shouldNotBeInTable
  | some (.new existing) => (map.indexByFd existing).map fun found => (map, found)
  | some (.connected existing) =>
      (map.indexByFd existing).map fun found => (map, found)
  | some (.closed _) | none =>
      map.insertConnected profile (asRawFd socket) socket peerAddr currentTick

def getByAddr (map : ConnectionMap T) (peerAddr : SocketLocator) :
    Except Panic (ConnectionState T) :=
  match (map.byPeerAddr.lookup peerAddr).getD .notYetConnected with
  | .notYetConnected => .ok .notYetConnected
  | .connected fd => (map.indexByFd fd).map .connected
  | .new fd => (map.indexByFd fd).map .new
  | .closed timestamp => .ok (.closed timestamp)

def getByFd (map : ConnectionMap T) (fd : RawFd) : Option T :=
  map.byFd.lookup fd

/-- Take the socket of an address out of the map. -/
def close (map : ConnectionMap T) (peerAddr : SocketLocator) (fd : RawFd)
    (now : Instant) : ConnectionMap T × Option T :=
  ({ map with
      byFd := map.byFd.erase fd
      byPeerAddr := map.byPeerAddr.insert peerAddr (.closed now) },
    map.byFd.lookup fd)

def markClosed (map : ConnectionMap T) (peerAddr : SocketLocator)
    (now : Instant) : Except Panic (ConnectionMap T × Option T) :=
  match map.byPeerAddr.lookup peerAddr with
  | none => .ok (map, none)
  | some .notYetConnected => .error shouldNotBeInTable
  | some (.connected fd) => .ok (map.close peerAddr fd now)
  | some (.new fd) =>
      .ok ({ map with
        inactiveTtls := map.inactiveTtls.erase peerAddr }.close peerAddr fd now)
  | some (.closed _) => .ok (map, none)

/-- The closed addresses among some entries, with their times. -/
def closedConnections :
    List (SocketLocator × ConnectionState RawFd) →
      Except Panic (List (SocketLocator × Instant))
  | [] => .ok []
  | (_, .notYetConnected) :: _ => .error shouldNotBeInTable
  | (_, .connected _) :: rest => closedConnections rest
  | (_, .new _) :: rest => closedConnections rest
  | (peerAddr, .closed timestamp) :: rest =>
      (closedConnections rest).map ((peerAddr, timestamp) :: ·)

def closedConnectionIter (map : ConnectionMap T) :
    Except Panic (List (SocketLocator × Instant)) :=
  closedConnections (map.byPeerAddr.entries.map fun entry =>
    (entry.1, entry.2))

/-- An address with a socket is put back. -/
def removeClosed (map : ConnectionMap T) (peerAddr : SocketLocator) :
    Except Panic (ConnectionMap T) :=
  let removed := map.byPeerAddr.erase peerAddr
  match map.byPeerAddr.lookup peerAddr with
  | none => .ok { map with byPeerAddr := removed }
  | some .notYetConnected => .error shouldNotBeInTable
  | some (.connected fd) =>
      .ok { map with byPeerAddr := removed.insert peerAddr (.connected fd) }
  | some (.new fd) =>
      .ok { map with byPeerAddr := removed.insert peerAddr (.new fd) }
  | some (.closed _) => .ok { map with byPeerAddr := removed }

def markAsActive (map : ConnectionMap T) (peerAddr : SocketLocator) :
    ConnectionMap T :=
  let active := { map with inactiveTtls := map.inactiveTtls.erase peerAddr }
  match map.byPeerAddr.lookup peerAddr with
  | some (.new fd) =>
      { active with
        byPeerAddr := map.byPeerAddr.insert peerAddr (.connected fd) }
  | _ => active

end ConnectionMap

end CallingService.Backend
