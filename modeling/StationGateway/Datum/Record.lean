import StationGateway.Datum.Decoder

/-!
# Records

A record type is described once, field by field in the order of its declaration, and the description
gives its decoder. A record is read from a mapping by the names of its fields, or from a sequence by
their order.

**Which mismatch is reported.** From a mapping, the first entry, in the mapping's order, whose key
names a field and whose datum does not fit it; if all fit, the first field, in the order of
declaration, that is missing. Entries whose key names no field are passed over. From a sequence, the
first field that does not fit or is missing.
-/

namespace StationGateway

/-- A field's name, and what its datum must be. -/
structure Field where
  name : String
  check : Strictness → Datum → Except Mismatch Unit

/-- Where the fields of a record stand: in the entries of a mapping, or in the items of a sequence. The
record of a sequence has a title and a width, which a mismatch names. -/
inductive Layout where
  | byName (entries : List (String × Datum))
  | byOrder (title : String) (width : Nat) (items : List Datum)

namespace Layout

/-- The datum of the field with a position and a name. -/
def find? : Layout → Nat → String → Option Datum
  | .byName entries, _, name => entries.lookup name
  | .byOrder _ _ items, position, _ => items[position]?

/-- The mismatch of a field that is missing. -/
def missing : Layout → Nat → String → Mismatch
  | .byName _, _, name => .missingField name
  | .byOrder title width _, position, _ =>
    let elements := if width = 1 then "element" else "elements"
    .wrongLength position s!"struct {title} with {width} {elements}"

end Layout

/-- The description of a record type: its fields, and how their data make a value. -/
structure Record (α : Type) where
  fields : List Field
  build : Strictness → Layout → (position : Nat) → Except Mismatch α

namespace Record

/-- A record of no fields. -/
protected def pure {α : Type} (a : α) : Record α :=
  ⟨[], fun _ _ _ => .ok a⟩

/-- The fields of one description, then those of another. -/
protected def seq {α β : Type} (f : Record (α → β)) (a : Record α) : Record β :=
  ⟨f.fields ++ a.fields, fun m layout position => do
    let g ← f.build m layout position
    let x ← a.build m layout (position + f.fields.length)
    return g x⟩

instance : Applicative Record where
  pure := Record.pure
  seq f a := Record.seq f (a ())

/-- A field whose absence is answered by `absent`. -/
def field {α : Type} (name : String) (decode : Decoder α)
    (absent : Layout → Nat → Except Mismatch α) : Record α :=
  ⟨[⟨name, fun m d => (decode m d).map fun _ => ()⟩], fun m layout position =>
    match layout.find? position name with
    | some d => decode m d
    | none => absent layout position⟩

/-- A field that must be present. -/
def required {α : Type} (name : String) (decode : Decoder α) : Record α :=
  field name decode fun layout position => .error (layout.missing position name)

/-- A field that takes a value of its own when absent. -/
def withDefault {α : Type} (name : String) (decode : Decoder α) (default : α) : Record α :=
  field name decode fun _ _ => .ok default

/-- A field that a mapping may leave out, but a sequence may not. -/
def nullable {α : Type} (name : String) (decode : Decoder α) : Record (Option α) :=
  field name (.optional decode) fun layout position =>
    match layout with
    | .byName _ => .ok none
    | .byOrder .. => .error (layout.missing position name)

/-- A field that may be left out. -/
def optional {α : Type} (name : String) (decode : Decoder α) : Record (Option α) :=
  withDefault name (.optional decode) none

/-- Checks the entries of a mapping, in their order, against the fields they name. -/
def scan {α : Type} (r : Record α) (m : Strictness) : List (String × Datum) → Except Mismatch Unit
  | [] => .ok ()
  | (key, d) :: entries => do
    match r.fields.find? (·.name == key) with
    | some f => f.check m d
    | none => pure ()
    r.scan m entries

/-- The decoder that a description gives. -/
def decode {α : Type} (title : String) (r : Record α) : Decoder α
  | m, .mapping entries => do
    r.scan m entries
    r.build m (.byName entries) 0
  | m, .sequence items => do
    let a ← r.build m (.byOrder title r.fields.length items) 0
    if r.fields.length < items.length then
      match m.excess items.length r.fields.length with
      | some e => throw e
      | none => return a
    else return a
  | _, d => .error (.wrongType d.kind s!"struct {title}")

end Record

end StationGateway
