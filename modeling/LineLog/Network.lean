import LineLog.SocketAddress.Basic
import LineLog.Os.Error

/-!
# Listening on an address

Whether the system lets the process listen on an address depends on the port,
on the kind of the address and on who listens there already.  Any IPv4 address
can be used.  Of the IPv6 addresses only the wildcard and the embedded IPv4
addresses belong to the host.
-/

namespace LineLog

structure Network where
  /-- The addresses on which somebody listens already. -/
  taken : List SocketAddress
  /-- Whether there is a way to any address. -/
  reachable : Bool
  deriving DecidableEq, Repr

namespace IPv6

def isMulticast (address : IPv6) : Bool :=
  address.groups[0] >>> 8 = 0xff

def isLinkLocal (address : IPv6) : Bool :=
  address.groups[0] &&& 0xffc0 = 0xfe80

def isUnspecified (address : IPv6) : Bool :=
  address.groups.toList.all (· = 0)

end IPv6

namespace Network

/-- A network that leads nowhere and where nobody listens. -/
def isolated : Network where
  taken := []
  reachable := false

/-- The first port that needs no privilege; port zero asks for any free port. -/
def firstFreePort : Nat := 1024

def needsPrivilege (address : SocketAddress) : Bool :=
  0 < address.port.toNat && address.port.toNat < firstFreePort

/-- Why the address itself cannot be listened on, if it cannot. -/
def refusal? : SocketAddress → Option Os.Error
  | .v4 _ _ => none
  | .v6 address _ scope =>
      if address.isUnspecified || address.mapped?.isSome then none
      else if address.isLinkLocal then
        some (if scope = 0 then Os.Error.invalidArgument else Os.Error.noSuchDevice)
      else some Os.Error.addressNotAvailable

def isMulticastV6 : SocketAddress → Bool
  | .v4 _ _ => false
  | .v6 address _ _ => address.isMulticast

def listen (network : Network) (address : SocketAddress) : Except Os.Error Unit :=
  if isMulticastV6 address then .error Os.Error.invalidArgument
  else if needsPrivilege address then .error Os.Error.permissionDenied
  else
    match refusal? address with
    | some error => .error error
    | none =>
        if address ∈ network.taken then .error Os.Error.addressInUse else .ok ()

/-- A port that the system gives to whoever asks for any. -/
def anyPort : UInt16 := 32768

/-- The address on which a socket listens that asked for `address`. -/
def assigned : SocketAddress → SocketAddress
  | .v4 address port => .v4 address (if port = 0 then anyPort else port)
  | .v6 address port scope => .v6 address (if port = 0 then anyPort else port) scope

def connect (network : Network) : Except Os.Error Unit :=
  if network.reachable then .ok () else .error Os.Error.networkUnreachable

end Network

end LineLog
