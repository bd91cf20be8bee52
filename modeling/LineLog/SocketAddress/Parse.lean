import LineLog.SocketAddress.Basic

/-!
# Reading socket addresses

An IPv4 octet has at most three digits and no leading zero.  An IPv6 group has
at most four hexadecimal digits.  The last two groups may be written as an IPv4
address, and one `::` stands for at least one zero group; an IPv4 part is not
allowed in front of it.  Ports and scopes are decimal numbers of any length
that fit.  A socket address is read only as a whole.
-/

namespace LineLog.SocketAddress

/-- A reader takes what it needs from the front of the text. -/
abbrev Reader (α : Type) := List Char → Option (α × List Char)

/-- The value of a digit in a base up to sixteen. -/
def digit? (base : Nat) (char : Char) : Option Nat :=
  let value? :=
    if '0' ≤ char && char ≤ '9' then some (char.toNat - '0'.toNat)
    else if 'a' ≤ char && char ≤ 'f' then some (char.toNat - 'a'.toNat + 10)
    else if 'A' ≤ char && char ≤ 'F' then some (char.toNat - 'A'.toNat + 10)
    else none
  value?.filter (· < base)

/-- The digits at the front, as values. -/
def digits (base : Nat) : List Char → List Nat × List Char
  | [] => ([], [])
  | char :: rest =>
      match digit? base char with
      | none => ([], char :: rest)
      | some value =>
          let (values, rest) := digits base rest
          (value :: values, rest)

/-- How a number may be written. -/
structure NumberForm where
  base : Nat
  maxDigits : Option Nat
  leadingZero : Bool
  /-- The first value that is too large. -/
  bound : Nat

def number (form : NumberForm) : Reader Nat := fun text =>
  let (values, rest) := digits form.base text
  let value := values.foldl (fun value digit => value * form.base + digit) 0
  if values = [] then none
  else if form.maxDigits.any (· < values.length) then none
  else if !form.leadingZero && values.head? = some 0 && 1 < values.length then none
  else if form.bound ≤ value then none
  else some (value, rest)

def octetForm : NumberForm := ⟨10, some 3, false, Nat.pow 2 8⟩

def groupForm : NumberForm := ⟨16, some 4, true, Nat.pow 2 16⟩

def portForm : NumberForm := ⟨10, none, true, Nat.pow 2 16⟩

def scopeForm : NumberForm := ⟨10, none, true, Nat.pow 2 32⟩

def given (char : Char) : Reader Unit
  | [] => none
  | first :: rest => if first = char then some ((), rest) else none

def octet (text : List Char) : Option (UInt8 × List Char) := do
  let (value, rest) ← number octetForm text
  some (value.toUInt8, rest)

def ipv4 : Reader IPv4 := fun text => do
  let (a, text) ← octet text
  let ((), text) ← given '.' text
  let (b, text) ← octet text
  let ((), text) ← given '.' text
  let (c, text) ← octet text
  let ((), text) ← given '.' text
  let (d, text) ← octet text
  some (⟨#v[a, b, c, d]⟩, text)

/-- The two groups that an IPv4 address fills. -/
def embed (address : IPv4) : List UInt16 :=
  match address.octets.toList.map UInt8.toUInt16 with
  | [a, b, c, d] => [a * 256 + b, c * 256 + d]
  | _ => []

/-- The colon in front of every group but the first. -/
def separator (first : Bool) (text : List Char) : Option (List Char) :=
  if first then some text else (given ':' text).map (·.2)

/-- Reads up to `limit` groups and says whether they end in an IPv4 part, which
needs room for two.  What does not read as a group is left alone. -/
def groups (first : Bool) : Nat → List Char → (List UInt16 × Bool) × List Char
  | 0, text => (([], false), text)
  | limit + 1, text =>
      match if 1 ≤ limit then separator first text >>= ipv4 else none with
      | some (address, rest) => ((embed address, true), rest)
      | none =>
          match separator first text >>= number groupForm with
          | none => (([], false), text)
          | some (group, rest) =>
              let ((others, dotted), rest) := groups false limit rest
              ((group.toUInt16 :: others, dotted), rest)

def ofGroups? (groups : List UInt16) : Option IPv6 :=
  if h : groups.length = 8 then some ⟨⟨groups.toArray, by simpa using h⟩⟩ else none

def ipv6 : Reader IPv6 := fun text => do
  let ((head, dotted), rest) := groups true 8 text
  if head.length = 8 then
    let address ← ofGroups? head
    some (address, rest)
  else if dotted then none
  else
    let ((), rest) ← given ':' rest
    let ((), rest) ← given ':' rest
    let ((tail, _), rest) := groups true (7 - head.length) rest
    let address ← ofGroups?
      (head ++ List.replicate (8 - head.length - tail.length) 0 ++ tail)
    some (address, rest)

/-- The scope after a percent sign, and zero if there is none that reads. -/
def scope (text : List Char) : Nat × List Char :=
  match given '%' text >>= fun (_, rest) => number scopeForm rest with
  | some result => result
  | none => (0, text)

def readV4 : Reader SocketAddress := fun text => do
  let (address, text) ← ipv4 text
  let ((), text) ← given ':' text
  let (port, text) ← number portForm text
  some (.v4 address port.toUInt16, text)

def readV6 : Reader SocketAddress := fun text => do
  let ((), text) ← given '[' text
  let (address, text) ← ipv6 text
  let (scope, text) := scope text
  let ((), text) ← given ']' text
  let ((), text) ← given ':' text
  let (port, text) ← number portForm text
  some (.v6 address port.toUInt16 scope.toUInt32, text)

def parse? (text : String) : Option SocketAddress :=
  match (readV4 text.toList).orElse fun _ => readV6 text.toList with
  | some (address, []) => some address
  | _ => none

/-- What is said of a text that is no socket address. -/
def syntaxMessage : String := "invalid socket address syntax"

end LineLog.SocketAddress
