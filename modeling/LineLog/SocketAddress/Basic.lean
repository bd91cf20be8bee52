/-!
# Socket addresses and their text

An IPv6 address is written in lower-case hexadecimal groups without leading
zeros.  The first of its longest runs of at least two zero groups becomes `::`,
and an address that embeds an IPv4 address keeps the dotted form at its end.
-/

namespace LineLog

structure IPv4 where
  octets : Vector UInt8 4
  deriving DecidableEq, Repr

structure IPv6 where
  groups : Vector UInt16 8
  deriving DecidableEq, Repr

inductive SocketAddress where
  | v4 (address : IPv4) (port : UInt16)
  | v6 (address : IPv6) (port : UInt16) (scope : UInt32)
  deriving DecidableEq, Repr

namespace IPv4

def unspecified : IPv4 := ⟨#v[0, 0, 0, 0]⟩

def text (address : IPv4) : String :=
  ".".intercalate (address.octets.toList.map fun octet => toString octet.toNat)

end IPv4

namespace IPv6

/-- The group as hexadecimal digits. -/
def hex (group : UInt16) : String :=
  String.ofList (Nat.toDigits 16 group.toNat)

/-- The IPv4 address in the last two groups of `::ffff:0:0/96`. -/
def mapped? (address : IPv6) : Option IPv4 :=
  match address.groups.toList with
  | [0, 0, 0, 0, 0, 0xffff, high, low] =>
      some ⟨#v[(high >>> 8).toUInt8, high.toUInt8, (low >>> 8).toUInt8, low.toUInt8]⟩
  | _ => none

/-- The start and length of the first longest run of zero groups, the groups
being numbered from `index`. -/
def longestZeros (index : Nat) : List UInt16 → Nat × Nat
  | [] => (index, 0)
  | group :: rest =>
      let (start, length) := longestZeros (index + 1) rest
      let zeros := ((group :: rest).takeWhile (· = 0)).length
      if length ≤ zeros then (index, zeros) else (start, length)

def groupsText (groups : List UInt16) : String :=
  ":".intercalate (groups.map hex)

def text (address : IPv6) : String :=
  match address.mapped? with
  | some inner => "::ffff:" ++ inner.text
  | none =>
      let groups := address.groups.toList
      let (start, length) := longestZeros 0 groups
      if 1 < length then
        groupsText (groups.take start) ++ "::" ++ groupsText (groups.drop (start + length))
      else groupsText groups

end IPv6

namespace SocketAddress

def port : SocketAddress → UInt16
  | v4 _ port | v6 _ port _ => port

def isIPv6 : SocketAddress → Bool
  | v4 _ _ => false
  | v6 _ _ _ => true

/-- The address without its port, as a log shows the peer. -/
def host : SocketAddress → String
  | v4 address _ => address.text
  | v6 address _ _ => address.text

def text : SocketAddress → String
  | v4 address port => s!"{address.text}:{port.toNat}"
  | v6 address port 0 => s!"[{address.text}]:{port.toNat}"
  | v6 address port scope => s!"[{address.text}%{scope.toNat}]:{port.toNat}"

end SocketAddress

end LineLog
