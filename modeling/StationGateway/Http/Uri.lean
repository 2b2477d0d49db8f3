import StationGateway.Text.Blank

/-!
# Request targets

The path and the query of the target of a request. A target is a path with a query perhaps, or a URI
with a scheme and an authority before them, or an authority alone, or an asterisk. What follows a `#`
is dropped unread.

Nothing is decoded: path and query are as they were sent.
-/

namespace StationGateway

/-- The path of a request target, and its query if it has one. -/
structure Uri where
  path : String
  query : Option String
deriving DecidableEq, Repr

namespace Uri

/-- The longest target that is read, in bytes. -/
def maxLength : Nat :=
  65534

/-- The longest scheme that is read. -/
def maxSchemeLength : Nat :=
  64

/-! ## Path and query -/

/-- Characters that may stand in a path. Those beyond ASCII may. -/
def isPathChar (c : Char) : Bool :=
  let n := c.toNat
  n == 0x21 || n == 0x22 || (0x24 ≤ n && n ≤ 0x3B) || n == 0x3D || (0x40 ≤ n && n ≤ 0x5F) ||
  (0x61 ≤ n && n ≤ 0x7E) || 0x80 ≤ n

/-- Characters that may stand in a query. Those beyond ASCII may. -/
def isQueryChar (c : Char) : Bool :=
  let n := c.toNat
  n == 0x21 || (0x24 ≤ n && n ≤ 0x3B) || n == 0x3D || (0x3F ≤ n && n ≤ 0x7E) || 0x80 ≤ n

/-- Reads a path and a query. The path may be empty. -/
def pathAndQuery (cs : List Char) : Option (List Char × Option (List Char)) :=
  let path := cs.takeWhile fun c => c ≠ '?' && c ≠ '#'
  if !path.all isPathChar then none
  else
    match cs.drop path.length with
    | '?' :: more =>
      let query := more.takeWhile (· ≠ '#')
      if query.all isQueryChar then some (path, some query) else none
    | _ => some (path, none)

/-! ## Scheme and authority -/

/-- Characters that may stand in a scheme. -/
def isSchemeChar (c : Char) : Bool :=
  c.isAlphanum || c == '+' || c == '-' || c == '.' || c == '~'

/-- Whether a target begins with a scheme. -/
inductive SchemeReading where
  | none
  | tooLong
  | scheme (rest : List Char)

/-- Reads a scheme and the `://` after it. -/
def scheme (cs : List Char) : SchemeReading :=
  let name := cs.takeWhile isSchemeChar
  match cs.drop name.length with
  | ':' :: '/' :: '/' :: rest => if maxSchemeLength < name.length then .tooLong else .scheme rest
  | _ => .none

/-- Characters that may stand in an authority, percent signs apart. -/
def isAuthorityChar (c : Char) : Bool :=
  c.isAlphanum || "!$&'()*+,-.:;=@[]_~".toList.contains c

/-- What has been seen of an authority. -/
structure AuthorityScan where
  /-- The colons since the user and since the brackets of an address. -/
  colons : Nat := 0
  opened : Bool := false
  closed : Bool := false
  /-- A percent sign that belongs neither to the user nor to an address in brackets. -/
  percent : Bool := false
  /-- The last character was an at sign. -/
  atEnd : Bool := false

namespace AuthorityScan

/-- Takes in a character. -/
def step (s : AuthorityScan) (c : Char) : Option AuthorityScan :=
  let s := { s with atEnd := c == '@' }
  if c = ':' then if 8 ≤ s.colons then none else some { s with colons := s.colons + 1 }
  else if c = '[' then if s.percent || s.opened then none else some { s with opened := true }
  else if c = ']' then
    if !s.opened || s.closed then none else some { s with closed := true, colons := 0, percent := false }
  else if c = '@' then some { s with colons := 0, percent := false }
  else if c = '%' then some { s with percent := true }
  else if isAuthorityChar c then some s
  else none

/-- Whether an authority may end here. -/
def mayEnd (s : AuthorityScan) : Bool :=
  s.opened == s.closed && s.colons ≤ 1 && !s.atEnd && !s.percent

end AuthorityScan

/-- Reads an authority, which may be empty, up to a path, a query or a fragment; gives the rest. -/
def authority (cs : List Char) : Option (List Char) := do
  let host := cs.takeWhile fun c => c ≠ '/' && c ≠ '?' && c ≠ '#'
  let s ← host.foldlM AuthorityScan.step {}
  if s.mayEnd then return cs.drop host.length else none

/-! ## Targets -/

/-- The target with a path and a query. An absolute target has a path, be it the root. -/
def ofParts (path : List Char) (query : Option (List Char)) : Uri :=
  ⟨if path = [] then "/" else String.ofList path, query.map String.ofList⟩

/-- Reads a target. -/
def parse? (s : String) : Option Uri :=
  if maxLength < s.utf8ByteSize then none
  else
    match s.toList with
    | [] => none
    | ['*'] => some ⟨"*", none⟩
    | '/' :: cs => do
      let (path, query) ← pathAndQuery ('/' :: cs)
      return ofParts path query
    | cs =>
      match scheme cs with
      | .tooLong => none
      | .none => do
        let rest ← authority cs
        if rest = [] then return ⟨"", none⟩ else none
      | .scheme target => do
        let rest ← authority target
        if rest.length = target.length then none
        let (path, query) ← pathAndQuery rest
        return ofParts path query

end Uri

end StationGateway
