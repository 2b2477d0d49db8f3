import StationGateway.Json.Basic

/-!
# Values

A JSON document read for its meaning: no object repeats a key, and members stand in the order of
their keys. `Json.value` reads any document so; the last member of a repeated key wins.

The order of keys is that of their code points, which is the order of their UTF-8 bytes.
-/

namespace StationGateway.Json

/-- A document whose objects have their members in key order, no key twice. -/
structure Value where
  tree : Json
  isSorted : tree.IsSorted
deriving DecidableEq

namespace Value

instance : Repr Value := ⟨fun v => reprPrec v.tree⟩

end Value

/-- Of two different keys, one comes before the other. -/
theorem key_lt_of_not_lt {a b : String} (h : ¬ a < b) (hne : a ≠ b) : b < a :=
  Decidable.byContradiction fun h' => hne (String.le_antisymm (String.not_lt.mp h') (String.not_lt.mp h))

/-- Inserting adds no member but the one inserted. -/
theorem eq_or_mem_of_mem_insertNew {key : String} {value : Json} {m : String × Json}
    {ms : List (String × Json)} (h : m ∈ insertNew key value ms) : m = (key, value) ∨ m ∈ ms := by
  induction ms with
  | nil => simpa [insertNew] using h
  | cons head rest ih =>
    obtain ⟨k, v⟩ := head
    unfold insertNew at h
    split at h
    · rcases List.mem_cons.mp h with h | h
      · exact .inl h
      · exact .inr h
    · split at h
      · exact .inr h
      · rcases List.mem_cons.mp h with h | h
        · exact .inr (h ▸ List.mem_cons_self)
        · exact (ih h).imp_right (List.mem_cons_of_mem _)

/-- Inserting keeps members in key order. -/
theorem pairwise_insertNew {key : String} {value : Json} {ms : List (String × Json)}
    (h : ms.Pairwise (fun a b => a.1 < b.1)) :
    (insertNew key value ms).Pairwise (fun a b => a.1 < b.1) := by
  induction ms with
  | nil => exact List.pairwise_singleton _ _
  | cons head rest ih =>
    obtain ⟨k, v⟩ := head
    obtain ⟨hk, hr⟩ := List.pairwise_cons.mp h
    unfold insertNew
    split
    case isTrue hlt =>
      refine List.pairwise_cons.mpr ⟨fun m hm => ?_, h⟩
      rcases List.mem_cons.mp hm with rfl | hm
      · exact hlt
      · exact String.lt_trans hlt (hk m hm)
    case isFalse hlt =>
      split
      · exact h
      case isFalse hne =>
        refine List.pairwise_cons.mpr ⟨fun m hm => ?_, ih hr⟩
        rcases eq_or_mem_of_mem_insertNew hm with rfl | hm
        · exact key_lt_of_not_lt hlt hne
        · exact hk m hm

/-- Inserting a sorted value keeps all values sorted. -/
theorem isSortedMembers_insertNew {key : String} {value : Json} {ms : List (String × Json)}
    (hv : value.IsSorted) (h : IsSortedMembers ms) : IsSortedMembers (insertNew key value ms) := by
  induction ms with
  | nil => exact ⟨hv, trivial⟩
  | cons head rest ih =>
    obtain ⟨k, v⟩ := head
    unfold insertNew
    split
    · exact ⟨hv, h⟩
    · split
      · exact h
      · exact ⟨h.1, ih h.2⟩

mutual
/-- Sorting a document gives a sorted document. -/
theorem isSorted_sorted : ∀ j : Json, j.sorted.IsSorted
  | .null | .boolean _ | .number _ | .string _ => trivial
  | .array items => isSortedItems_sortedItems items
  | .object members => isSorted_sortedMembers members
/-- Sorting a list of documents gives sorted documents. -/
theorem isSortedItems_sortedItems : ∀ js : List Json, IsSortedItems (sortedItems js)
  | [] => trivial
  | j :: js => ⟨isSorted_sorted j, isSortedItems_sortedItems js⟩
/-- Sorting members gives keys in order and sorted values. -/
theorem isSorted_sortedMembers : ∀ ms : List (String × Json),
    (sortedMembers ms).Pairwise (fun a b => a.1 < b.1) ∧ IsSortedMembers (sortedMembers ms)
  | [] => ⟨.nil, trivial⟩
  | (_, j) :: ms =>
    ⟨pairwise_insertNew (isSorted_sortedMembers ms).1,
      isSortedMembers_insertNew (isSorted_sorted j) (isSorted_sortedMembers ms).2⟩
end

/-- The value of a document. -/
def value (j : Json) : Value :=
  ⟨j.sorted, isSorted_sorted j⟩

namespace Value

/-- The object without members. -/
def empty : Value :=
  ⟨.object [], ⟨.nil, trivial⟩⟩

instance : Inhabited Value := ⟨empty⟩

/-- The items of an array's value are values. -/
theorem items_isSorted {items : List Json} (h : IsSortedItems items) : ∀ j ∈ items, j.IsSorted := by
  induction items with
  | nil => simp
  | cons j js ih => exact fun i hi => (List.mem_cons.mp hi).elim (· ▸ h.1) (ih h.2 i)

/-- The items of a value that is an array. -/
def items? : Value → Option (List Value)
  | ⟨.array items, h⟩ => some (items.attach.map fun j => ⟨j.1, items_isSorted h j.1 j.2⟩)
  | _ => none

/-- The text of a value that is a string. -/
def string? (v : Value) : Option String :=
  match v.tree with
  | .string s => some s
  | _ => none

/-- The integer of a value that is a number without a sign, within 64 bits. -/
def natural? (v : Value) : Option Nat :=
  match v.tree with
  | .number (.integer (.ofNat n) _) => some n
  | _ => none

end Value

end StationGateway.Json
