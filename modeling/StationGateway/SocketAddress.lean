import StationGateway.Text.Digit

/-!
# Socket addresses

An internet address with a port: `192.0.2.1:80`, or `[2001:db8::1]:80` with a scope after a percent
sign if there is one.

**What is read.** The numbers of a version 4 address have no leading zeros. A version 6 address has
eight groups of at most four hexadecimal digits; one run of zero groups may be left out as `::`, and the
last two groups may be a version 4 address. Ports and scopes may have leading zeros.

**What is written.** Of a version 6 address, the longest run of at least two zero groups, the first of
the longest, is left out. An address that stands for one of version 4 ends in that.
-/

namespace StationGateway

/-- An internet address of version 4: four numbers. -/
structure IPv4 where
  a : UInt8
  b : UInt8
  c : UInt8
  d : UInt8
deriving DecidableEq, Repr

/-- An internet address of version 6: eight groups. -/
structure IPv6 where
  groups : Vector UInt16 8
deriving DecidableEq, Repr

/-- An internet address with a port. -/
inductive SocketAddress where
  | v4 (address : IPv4) (port : UInt16)
  | v6 (address : IPv6) (scope : UInt32) (port : UInt16)
deriving DecidableEq, Repr

/-! ## Reading -/

namespace SocketAddress

/-- A reading of the front of a text: what was read, and the rest. -/
abbrev Reader (α : Type) := List Char → Option (α × List Char)

/-- A number below a limit. -/
def number (radix limit : Nat) : Reader Nat := fun cs =>
  let (ds, rest) := Text.digits radix cs
  let value := Text.ofDigits radix ds
  if ds ≠ [] ∧ value < limit then some (value, rest) else none

/-- One given character. -/
def sign (c : Char) : Reader Unit
  | [] => none
  | d :: rest => if d = c then some ((), rest) else none

/-- One number of a version 4 address. -/
def octet : Reader UInt8 := fun cs => do
  let (n, rest) ← number 10 256 cs
  if (cs.head? = some '0' ∧ (Text.digits 10 cs).1.length ≠ 1) ∨ 3 < (Text.digits 10 cs).1.length then none
  else return (.ofNat n, rest)

/-- A version 4 address. -/
def ipv4 : Reader IPv4 := fun cs => do
  let (a, cs) ← octet cs
  let ((), cs) ← sign '.' cs
  let (b, cs) ← octet cs
  let ((), cs) ← sign '.' cs
  let (c, cs) ← octet cs
  let ((), cs) ← sign '.' cs
  let (d, cs) ← octet cs
  return (⟨a, b, c, d⟩, cs)

/-- The two groups that a version 4 address stands for. -/
def groupsOfIPv4 (v : IPv4) : List UInt16 :=
  [.ofNat (v.a.toNat * 256 + v.b.toNat), .ofNat (v.c.toNat * 256 + v.d.toNat)]

/-- One group of a version 6 address. -/
def group : Reader UInt16 := fun cs => do
  let (n, rest) ← number 16 UInt16.size cs
  if 4 < (Text.digits 16 cs).1.length then none else return (.ofNat n, rest)

/-- Up to `left` groups with colons between them, the last two perhaps as a version 4 address; tells
whether they were. -/
def groups : (left : Nat) → (first : Bool) → List Char → (List UInt16 × Bool) × List Char
  | 0, _, cs => (([], false), cs)
  | left + 1, first, cs =>
    let separated := if first then some ((), cs) else sign ':' cs
    let ending := if left = 0 then none else separated.bind fun ((), cs) => ipv4 cs
    match ending, separated.bind fun ((), cs) => group cs with
    | some (v, rest), _ => ((groupsOfIPv4 v, true), rest)
    | none, some (g, rest) =>
      let ((gs, mixed), rest) := groups left false rest
      ((g :: gs, mixed), rest)
    | none, none => (([], false), cs)

/-- The address of eight groups. -/
def ipv6OfList? (gs : List UInt16) : Option IPv6 :=
  if h : gs.length = 8 then some ⟨⟨gs.toArray, by simpa using h⟩⟩ else none

/-- A version 6 address. -/
def ipv6 : Reader IPv6 := fun cs => do
  let ((front, mixed), rest) := groups 8 true cs
  if front.length = 8 then
    return (← ipv6OfList? front, rest)
  else if mixed then none
  else do
    let ((), rest) ← sign ':' rest
    let ((), rest) ← sign ':' rest
    let ((back, _), rest) := groups (7 - front.length) true rest
    let between := List.replicate (8 - front.length - back.length) 0
    return (← ipv6OfList? (front ++ between ++ back), rest)

/-- A colon and a port. -/
def port : Reader UInt16 := fun cs => do
  let ((), cs) ← sign ':' cs
  let (n, rest) ← number 10 UInt16.size cs
  return (.ofNat n, rest)

/-- A percent sign and a scope; nothing stands for scope 0. -/
def scope (cs : List Char) : UInt32 × List Char :=
  match sign '%' cs with
  | some ((), more) =>
    match number 10 UInt32.size more with
    | some (n, rest) => (.ofNat n, rest)
    | none => (0, cs)
  | none => (0, cs)

/-- A version 4 address and a port. -/
def socketV4 : Reader SocketAddress := fun cs => do
  let (address, cs) ← ipv4 cs
  let (port, rest) ← port cs
  return (.v4 address port, rest)

/-- A version 6 address in brackets, and a port. -/
def socketV6 : Reader SocketAddress := fun cs => do
  let ((), cs) ← sign '[' cs
  let (address, cs) ← ipv6 cs
  let (scope, cs) := scope cs
  let ((), cs) ← sign ']' cs
  let (port, rest) ← port cs
  return (.v6 address scope port, rest)

/-- Reads a socket address. -/
def parse? (s : String) : Option SocketAddress :=
  match (socketV4 s.toList).orElse fun _ => socketV6 s.toList with
  | some (address, []) => some address
  | _ => none

end SocketAddress

/-! ## Writing -/

/-- The text of a version 4 address. -/
def IPv4.render (v : IPv4) : String :=
  s!"{v.a.toNat}.{v.b.toNat}.{v.c.toNat}.{v.d.toNat}"

namespace IPv6

/-- The first of the longest runs of zeros in a list: where it starts, and its length. -/
def longestZeros : (position : Nat) → List UInt16 → Nat × Nat
  | _, [] => (0, 0)
  | position, g :: gs =>
    let here := ((g :: gs).takeWhile (· == 0)).length
    let later := longestZeros (position + 1) gs
    if later.2 ≤ here then (position, here) else later

/-- Groups with colons between them. -/
def groupsText (gs : List UInt16) : String :=
  ":".intercalate (gs.map fun g => String.ofList (Nat.toDigits 16 g.toNat))

/-- The version 4 address that an address stands for. -/
def mapped? (v : IPv6) : Option IPv4 :=
  match v.groups.toList with
  | [0, 0, 0, 0, 0, 0xffff, g, h] =>
    some ⟨(g >>> 8).toUInt8, g.toUInt8, (h >>> 8).toUInt8, h.toUInt8⟩
  | _ => none

/-- The text of a version 6 address. -/
def render (v : IPv6) : String :=
  match v.mapped? with
  | some w => s!"::ffff:{w.render}"
  | none =>
    let gs := v.groups.toList
    let (start, length) := longestZeros 0 gs
    if 1 < length then groupsText (gs.take start) ++ "::" ++ groupsText (gs.drop (start + length))
    else groupsText gs

end IPv6

namespace SocketAddress

/-- The text of a socket address. -/
def render : SocketAddress → String
  | .v4 address port => s!"{address.render}:{port.toNat}"
  | .v6 address scope port =>
    let zone := if scope = 0 then "" else s!"%{scope.toNat}"
    s!"[{address.render}{zone}]:{port.toNat}"

end SocketAddress

end StationGateway
