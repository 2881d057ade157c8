import Switchboard.Network.Address

/-!
# Hosts

What a program can do on a network depends on the host that it runs on: which
interface addresses can be bound, whether the low ports are free for all, and
whether anybody can be reached.
-/

namespace Switchboard.Network

/-- What a host allows. -/
structure Host where
  /-- The interface addresses that can be bound. -/
  holds : Address → Bool
  /-- Ports below the limit cannot be bound, but for zero, which stands for any
  free port. -/
  portLimit : UInt16 := 0
  /-- Whether anybody can be reached. -/
  isConnected : Bool

namespace Host

/-- A host without any network. -/
def offline : Host where
  holds _ := false
  isConnected := false

/-- A host on whose network no interface has been set up. Nobody can be
reached. As the host has no list of its octet addresses it lets all of them
be bound, and of the group addresses the unspecified one. Low ports are
reserved. -/
def isolated : Host where
  holds
    | .octets .. => true
    | .groups eight => Address.areMapped eight.toList || Address.areZero eight.toList
  portLimit := 1024
  isConnected := false

/-- Whether a socket address can be bound. -/
def canBind (host : Host) (socket : SocketAddress) : Bool :=
  host.holds socket.address && (socket.port = 0 || host.portLimit ≤ socket.port)

end Host

end Switchboard.Network
