import StationGateway.Datum.Basic

/-!
# The tables of a settings file

A settings file states values one by one, each under a path of keys, and the paths are taken from
tables that headers open. `Table.ofSections?` puts the values together.

**What may be stated once.** A value has its key to itself. A table is stated by its own header at most
once; a header may add to a table that so far only the headers of tables within it, or dotted keys
further up, have implied. A dotted key adds to tables that dotted keys alone have made, and it passes
through tables that headers have implied, but does not state anything directly in one.

**Order.** Keys stand in the order in which they first occur, except that a table which was implied
before its header is moved to where its header puts it.
-/

namespace StationGateway.Toml

/-- How a table came about. -/
inductive Origin where
  /-- By a header of its own, or as the whole file, or as one of an array of tables. -/
  | stated
  /-- By the header of a table within it. -/
  | implied
  /-- By a dotted key. -/
  | dotted
deriving DecidableEq, Repr

/-- What stands under a key. -/
inductive Node where
  | value (d : Datum)
  | table (origin : Origin) (entries : List (String × Node))
  | tables (items : List (List (String × Node)))
deriving Repr

/-- A table: nodes under keys, in order. -/
abbrev Table :=
  List (String × Node)

mutual
/-- What a node says. -/
def Node.datum : Node → Datum
  | .value d => d
  | .table _ entries => .mapping (dataOfEntries entries)
  | .tables items => .sequence (dataOfTables items)
/-- What the entries of a table say. -/
def dataOfEntries : List (String × Node) → List (String × Datum)
  | [] => []
  | (key, node) :: entries => (key, node.datum) :: dataOfEntries entries
/-- What the tables of an array say. -/
def dataOfTables : List (List (String × Node)) → List Datum
  | [] => []
  | entries :: items => .mapping (dataOfEntries entries) :: dataOfTables items
end

namespace Table

/-- What a table says. -/
def datum (t : Table) : Datum :=
  .mapping (dataOfEntries t)

/-- Puts a node in place of the one under a key. -/
def replace (t : Table) (key : String) (node : Node) : Table :=
  t.map fun entry => if entry.1 = key then (key, node) else entry

/-- Changes the table at a path of keys below a table, making the tables that are missing. Of an array
of tables, the last is changed. -/
def modifyAt (made : Origin) (change : Origin → Table → Option Table) :
    List String → Origin → Table → Option Table
  | [], origin, t => change origin t
  | key :: path, _, t =>
    match t.lookup key with
    | none => do
      let below ← modifyAt made change path made []
      return t ++ [(key, .table made below)]
    | some (.table origin entries) =>
      if made = .dotted ∧ origin = .stated then none
      else do
        let below ← modifyAt made change path origin entries
        return t.replace key (.table origin below)
    | some (.tables items) => do
      let below ← modifyAt made change path .stated (← items.getLast?)
      return t.replace key (.tables (items.dropLast ++ [below]))
    | some (.value _) => none

/-- A value under a dotted key: the keys before the last, and the last. -/
structure Assignment where
  path : List String
  key : String
  value : Datum

/-- States a value in a table. -/
def assign (t : Table) (a : Assignment) : Option Table :=
  modifyAt .dotted (fun origin below =>
    if (origin = .dotted ↔ a.path = []) ∨ (below.lookup a.key).isSome then none
    else some (below ++ [(a.key, .value a.value)])) a.path .stated t

/-- States values in a table, one after another. -/
def assignAll (t : Table) (as : List Assignment) : Option Table :=
  as.foldlM assign t

/-- The header of a table: the keys before the last, and the last. -/
structure Header where
  path : List String
  key : String
  /-- Whether the table is one of an array. -/
  isItem : Bool

/-- Adds a table under a header, with the values stated in it. -/
def addSection (t : Table) (h : Header) (as : List Assignment) : Option Table :=
  modifyAt .implied (fun _ parent =>
    match h.isItem, parent.lookup h.key with
    | false, none => do
      return parent ++ [(h.key, .table .stated (← assignAll [] as))]
    | false, some (.table .implied entries) => do
      let rest := parent.filter (·.1 ≠ h.key)
      return rest ++ [(h.key, .table .stated (← assignAll entries as))]
    | true, none => do
      return parent ++ [(h.key, .tables [← assignAll [] as])]
    | true, some (.tables items) => do
      return parent.replace h.key (.tables (items ++ [← assignAll [] as]))
    | _, some _ => none) h.path .stated t

/-- The table of a file: the values before its first header, and its sections. -/
def ofSections? (top : List Assignment) (sections : List (Header × List Assignment)) : Option Table := do
  sections.foldlM (fun t (h, as) => addSection t h as) (← assignAll [] top)

end Table

end StationGateway.Toml
