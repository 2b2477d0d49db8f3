import StationGateway.Number.Shortest

/-!
# JSON documents

The tree of a JSON document. An object keeps its members as they were written: their order and
repeated keys are part of the tree. `Json.sorted` forgets both: it orders the members of every object
by key and keeps the last member of each key.

A number is an integer that fits 64 bits, with or without a sign, or else a number of the format
binary64.
-/

namespace StationGateway

/-- A JSON number. -/
inductive Json.Number where
  | integer (value : Int) (fits : -9223372036854775808 ≤ value ∧ value < 18446744073709551616)
  | float (value : Binary64)
deriving DecidableEq, Repr

/-- A JSON document, with the members of an object as they were written. -/
inductive Json where
  | null
  | boolean (value : Bool)
  | number (value : Json.Number)
  | string (value : String)
  | array (items : List Json)
  | object (members : List (String × Json))
deriving Repr

namespace Json

instance : Inhabited Json := ⟨null⟩

mutual
/-- Equality of documents is decided member by member. -/
def decEq : (a b : Json) → Decidable (a = b)
  | .null, .null => isTrue rfl
  | .boolean a, .boolean b => if h : a = b then isTrue (h ▸ rfl) else isFalse fun e => h (by injection e)
  | .number a, .number b => if h : a = b then isTrue (h ▸ rfl) else isFalse fun e => h (by injection e)
  | .string a, .string b => if h : a = b then isTrue (h ▸ rfl) else isFalse fun e => h (by injection e)
  | .array a, .array b =>
    match decEqItems a b with
    | isTrue h => isTrue (h ▸ rfl)
    | isFalse h => isFalse fun e => h (by injection e)
  | .object a, .object b =>
    match decEqMembers a b with
    | isTrue h => isTrue (h ▸ rfl)
    | isFalse h => isFalse fun e => h (by injection e)
  | .null, .boolean _ | .null, .number _ | .null, .string _ | .null, .array _ | .null, .object _
  | .boolean _, .null | .boolean _, .number _ | .boolean _, .string _ | .boolean _, .array _
  | .boolean _, .object _ | .number _, .null | .number _, .boolean _ | .number _, .string _
  | .number _, .array _ | .number _, .object _ | .string _, .null | .string _, .boolean _
  | .string _, .number _ | .string _, .array _ | .string _, .object _ | .array _, .null
  | .array _, .boolean _ | .array _, .number _ | .array _, .string _ | .array _, .object _
  | .object _, .null | .object _, .boolean _ | .object _, .number _ | .object _, .string _
  | .object _, .array _ => isFalse fun e => by injection e
/-- Equality of lists of documents. -/
def decEqItems : (a b : List Json) → Decidable (a = b)
  | [], [] => isTrue rfl
  | [], _ :: _ | _ :: _, [] => isFalse fun e => by injection e
  | a :: as, b :: bs =>
    match decEq a b, decEqItems as bs with
    | isTrue h, isTrue hs => isTrue (h ▸ hs ▸ rfl)
    | isFalse h, _ => isFalse fun e => h (by injection e)
    | _, isFalse hs => isFalse fun e => hs (by injection e)
/-- Equality of lists of members. -/
def decEqMembers : (a b : List (String × Json)) → Decidable (a = b)
  | [], [] => isTrue rfl
  | [], _ :: _ | _ :: _, [] => isFalse fun e => by injection e
  | (k, a) :: as, (l, b) :: bs =>
    if hk : k = l then
      match decEq a b, decEqMembers as bs with
      | isTrue h, isTrue hs => isTrue (hk ▸ h ▸ hs ▸ rfl)
      | isFalse h, _ => isFalse fun e => h (by injection e with e _; injection e)
      | _, isFalse hs => isFalse fun e => hs (by injection e)
    else isFalse fun e => hk (by injection e with e _; injection e)
end

instance : DecidableEq Json := decEq

/-- A natural number that fits 64 bits, as a document. -/
def ofUInt64 (n : UInt64) : Json :=
  .number (.integer n.toNat (by have := n.toNat_lt; omega))

/-- A natural number that fits 32 bits, as a document. -/
def ofUInt32 (n : UInt32) : Json :=
  .number (.integer n.toNat (by have := n.toNat_lt; omega))

/-- A natural number that fits 16 bits, as a document. -/
def ofUInt16 (n : UInt16) : Json :=
  .number (.integer n.toNat (by have := n.toNat_lt; omega))

/-! ## Nesting -/

mutual
/-- How many arrays and objects stand within one another, this one included. -/
def depth : Json → Nat
  | .array items => depthItems items + 1
  | .object members => depthMembers members + 1
  | _ => 0
/-- The deepest nesting of a list of documents. -/
def depthItems : List Json → Nat
  | [] => 0
  | j :: js => max j.depth (depthItems js)
/-- The deepest nesting of the values of a list of members. -/
def depthMembers : List (String × Json) → Nat
  | [] => 0
  | (_, j) :: ms => max j.depth (depthMembers ms)
end

/-! ## Members in order -/

/-- Puts a member where its key belongs among sorted members, unless the key is there already. -/
def insertNew (key : String) (value : Json) : List (String × Json) → List (String × Json)
  | [] => [(key, value)]
  | (k, v) :: rest =>
    if key < k then (key, value) :: (k, v) :: rest
    else if key = k then (k, v) :: rest
    else (k, v) :: insertNew key value rest

mutual
/-- The document with the members of every object ordered by key, the last of each key winning. -/
def sorted : Json → Json
  | .array items => .array (sortedItems items)
  | .object members => .object (sortedMembers members)
  | .null => .null
  | .boolean b => .boolean b
  | .number n => .number n
  | .string s => .string s
/-- Every document of a list sorted. -/
def sortedItems : List Json → List Json
  | [] => []
  | j :: js => j.sorted :: sortedItems js
/-- Members ordered by key: a member goes in unless a later one has its key. -/
def sortedMembers : List (String × Json) → List (String × Json)
  | [] => []
  | (k, j) :: ms => insertNew k j.sorted (sortedMembers ms)
end

mutual
/-- The members of every object are ordered by key and no key is repeated. -/
def IsSorted : Json → Prop
  | .array items => IsSortedItems items
  | .object members => members.Pairwise (fun a b => a.1 < b.1) ∧ IsSortedMembers members
  | _ => True
/-- Every document of a list is sorted. -/
def IsSortedItems : List Json → Prop
  | [] => True
  | j :: js => j.IsSorted ∧ IsSortedItems js
/-- Every value of a list of members is sorted. -/
def IsSortedMembers : List (String × Json) → Prop
  | [] => True
  | (_, j) :: ms => j.IsSorted ∧ IsSortedMembers ms
end

end Json

end StationGateway
