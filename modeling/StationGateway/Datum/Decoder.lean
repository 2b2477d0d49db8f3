import StationGateway.Datum.Basic

/-!
# Decoders

A decoder takes a datum to a value of a type, or to the mismatch that stops it. Decoders of single
values stand here; those of records stand in `StationGateway.Datum.Record`.

**Strictness.** Formats differ in two liberties: whether a sequence may be longer than the record it is
read as, and whether an empty mapping may stand for a value that carries nothing.
-/

namespace StationGateway

/-- The liberties of a format. -/
structure Strictness where
  /-- The mismatch of a sequence that is longer than the record read from it, if it is one. -/
  excess : (length wanted : Nat) → Option Mismatch
  /-- Whether an empty mapping may stand for a value that carries nothing. -/
  emptyMappingIsUnit : Bool

namespace Strictness

/-- A document refuses longer sequences. -/
def document : Strictness :=
  ⟨fun length _ => some (.wrongLength length "fewer elements in array"), false⟩

/-- Data held back until their type is known: longer sequences are refused by the count that was
wanted, and an empty mapping carries nothing. -/
def held : Strictness :=
  ⟨fun length wanted =>
    let elements := if wanted = 1 then "element" else "elements"
    some (.wrongLength length s!"{wanted} {elements} in sequence"), true⟩

/-- A settings file passes over what a sequence has too many. -/
def settings : Strictness :=
  ⟨fun _ _ => none, false⟩

end Strictness

/-- A reading of data as values of a type. -/
abbrev Decoder (α : Type) := Strictness → Datum → Except Mismatch α

namespace Decoder

/-- A text. -/
def text : Decoder String
  | _, .text s => .ok s
  | _, d => .error (.wrongType d.kind "a string")

/-- A truth value. -/
def boolean : Decoder Bool
  | _, .boolean b => .ok b
  | _, d => .error (.wrongType d.kind "a boolean")

/-- A natural number below a limit. -/
def natural (limit : Nat) (expected : String) : Decoder Nat
  | _, .integer n =>
    if 0 ≤ n ∧ n < limit then .ok n.toNat else .error (.wrongValue (.integer n) expected)
  | _, d => .error (.wrongType d.kind expected)

/-- A natural number of 16 bits. -/
def uint16 : Decoder UInt16 :=
  fun m d => (natural UInt16.size "u16" m d).map UInt16.ofNat

/-- A natural number of 32 bits. -/
def uint32 : Decoder UInt32 :=
  fun m d => (natural UInt32.size "u32" m d).map UInt32.ofNat

/-- A natural number of 64 bits. -/
def uint64 : Decoder UInt64 :=
  fun m d => (natural UInt64.size "u64" m d).map UInt64.ofNat

/-- A point in time, written as a text. -/
def time : Decoder Timestamp
  | _, .text s =>
    match Timestamp.parse s with
    | .ok t => .ok t
    | .error e => .error (.badTime e)
  | _, d => .error (.wrongType d.kind "an RFC 3339 formatted date and time string")

/-- A value, or null for none. -/
def optional {α : Type} (decode : Decoder α) : Decoder (Option α)
  | _, .null => .ok none
  | m, d => (decode m d).map some

/-- What a variant without data carries: nothing. -/
def unit : Decoder Unit
  | _, .null => .ok ()
  | m, .mapping [] => if m.emptyMappingIsUnit then .ok () else .error (.wrongType .mapping "unit")
  | _, d => .error (.wrongType d.kind "unit")

/-- One of several names, alone or as the key of a mapping that carries nothing. -/
def choice {α : Type} (cases : List (String × α)) : Decoder α :=
  let named (name : String) : Except Mismatch α :=
    match cases.lookup name with
    | some a => .ok a
    | none => .error (.unknownVariant name (cases.map (·.1)))
  fun
  | _, .text name => named name
  | m, .mapping [(name, d)] => do
    let a ← named name
    unit m d
    return a
  | _, .mapping _ => .error (.wrongValue .mapping "map with a single key")
  | _, d => .error (.wrongType d.kind "string or map")

end Decoder

/-- Reads a value of a document as a value of a type. -/
def Json.Value.decode {α : Type} (v : Json.Value) (decoder : Decoder α) : Except Mismatch α :=
  decoder .document v.datum

end StationGateway
