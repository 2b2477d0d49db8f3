import StationGateway.Proofs.Json.RoundTrip

/-!
# How deeply documents are nested

Whatever is read is nested no deeper than the reader allows (`Json.depth_le_of_parseValue`). Reading a
document for its value sorts its members and drops those whose key is repeated, neither of which nests
anything deeper, and a document that is sorted already keeps its members (`Json.value_tree`).
-/

namespace StationGateway.Json

/-! ## Sorting -/

/-- Putting a member among others nests no deeper than the deepest of them. -/
theorem depthMembers_insertNew_le (key : String) (value : Json) (ms : List (String × Json)) :
    depthMembers (insertNew key value ms) ≤ max value.depth (depthMembers ms) := by
  induction ms with
  | nil => simp [insertNew, depthMembers]
  | cons m rest ih =>
    obtain ⟨k, v⟩ := m
    unfold insertNew
    split
    · simp [depthMembers]
    · split
      · simp only [depthMembers]
        omega
      · simp only [depthMembers]
        omega

mutual
/-- Sorting a document nests nothing deeper. -/
theorem depth_sorted_le : ∀ j : Json, j.sorted.depth ≤ j.depth
  | .null | .boolean _ | .number _ | .string _ => Nat.le_refl 0
  | .array items => Nat.succ_le_succ (depthItems_sortedItems_le items)
  | .object members => Nat.succ_le_succ (depthMembers_sortedMembers_le members)
/-- Sorting the documents of a list nests nothing deeper. -/
theorem depthItems_sortedItems_le : ∀ js : List Json, depthItems (sortedItems js) ≤ depthItems js
  | [] => Nat.le_refl 0
  | j :: js => by
    have hj := depth_sorted_le j
    have hjs := depthItems_sortedItems_le js
    simp only [sortedItems, depthItems]
    omega
/-- Sorting members nests nothing deeper. -/
theorem depthMembers_sortedMembers_le : ∀ ms : List (String × Json),
    depthMembers (sortedMembers ms) ≤ depthMembers ms
  | [] => Nat.le_refl 0
  | (k, j) :: ms => by
    have hj := depth_sorted_le j
    have hms := depthMembers_sortedMembers_le ms
    have hinsert := depthMembers_insertNew_le k j.sorted (sortedMembers ms)
    simp only [sortedMembers, depthMembers]
    omega
end

mutual
/-- A document whose members are in order already stays as it is. -/
theorem sorted_eq_self : ∀ j : Json, j.IsSorted → j.sorted = j
  | .null, _ | .boolean _, _ | .number _, _ | .string _, _ => rfl
  | .array items, h => congrArg Json.array (sortedItems_eq_self items h)
  | .object members, h => congrArg Json.object (sortedMembers_eq_self members h.1 h.2)
theorem sortedItems_eq_self : ∀ js : List Json, IsSortedItems js → sortedItems js = js
  | [], _ => rfl
  | j :: js, h => by rw [sortedItems, sorted_eq_self j h.1, sortedItems_eq_self js h.2]
theorem sortedMembers_eq_self : ∀ ms : List (String × Json),
    ms.Pairwise (fun a b => a.1 < b.1) → IsSortedMembers ms → sortedMembers ms = ms
  | [], _, _ => rfl
  | (k, j) :: ms, hkeys, h => by
    obtain ⟨hk, hms⟩ := List.pairwise_cons.mp hkeys
    rw [sortedMembers, sorted_eq_self j h.1, sortedMembers_eq_self ms hms h.2]
    cases ms with
    | nil => rfl
    | cons m rest => rw [insertNew, if_pos (hk m List.mem_cons_self)]
end

/-- The tree of a value has that value. -/
theorem value_tree (v : Value) : value v.tree = v := by
  obtain ⟨tree, hsorted⟩ := v
  simp only [value, sorted_eq_self tree hsorted]

/-! ## What a reading that succeeds has read -/

/-- Two steps succeed when the first does and the second does with what the first gave. -/
theorem bind_eq_ok {ε α β : Type} {read : Except ε α} {next : α → Except ε β} {b : β} :
    (read >>= next) = .ok b ↔ ∃ a, read = .ok a ∧ next a = .ok b := by
  cases read with
  | error e =>
    refine ⟨fun h => ?_, fun ⟨_, h, _⟩ => ?_⟩ <;> cases h
  | ok a =>
    refine ⟨fun h => ⟨a, rfl, h⟩, fun ⟨_, h, hnext⟩ => ?_⟩
    cases h
    exact hnext

/-- A list was read: its first item, and then the others. -/
theorem readCons_eq_ok {α : Type} {first : Except Failure (α × List Char)}
    {more : List Char → Except Failure (List α × List Char)} {as : List α} {rest : List Char}
    (h : readCons first more = .ok (as, rest)) :
    ∃ a s tail, first = .ok (a, s) ∧ more s = .ok (tail, rest) ∧ as = a :: tail := by
  obtain ⟨⟨a, s⟩, ha, hmore⟩ := bind_eq_ok.mp h
  obtain ⟨⟨tail, t⟩, htail, heq⟩ := bind_eq_ok.mp hmore
  cases heq
  exact ⟨a, s, tail, ha, htail, rfl⟩

section Readers

variable {item : List Char → Except Failure (Json × List Char)}

/-- The items that were read are none, or an item and others. -/
theorem readItems_eq_ok {fuel : Nat} {first : Bool} {s : List Char} {js : List Json}
    {rest : List Char} (h : readItems item (fuel + 1) first s = .ok (js, rest)) :
    js = [] ∨ ∃ t, readCons (item t) (readItems item fuel false) = .ok (js, rest) := by
  rw [readItems] at h
  split at h
  · cases h
  · cases h
    exact .inl rfl
  · split at h
    · exact .inr ⟨_, h⟩
    · split at h
      · split at h
        · cases h
        · cases h
        · exact .inr ⟨_, h⟩
      · cases h

/-- The members that were read are none, or a member and others. -/
theorem readMembers_eq_ok {fuel : Nat} {first : Bool} {s : List Char} {ms : List (String × Json)}
    {rest : List Char} (h : readMembers item (fuel + 1) first s = .ok (ms, rest)) :
    ms = [] ∨ ∃ t, readCons (readMember item t) (readMembers item fuel false) = .ok (ms, rest) := by
  rw [readMembers] at h
  split at h
  · cases h
  · cases h
    exact .inl rfl
  · split at h
    · exact .inr ⟨_, h⟩
    · split at h
      · split at h
        · cases h
        · cases h
        · exact .inr ⟨_, h⟩
      · cases h

/-- The value of a member that was read was read by itself. -/
theorem readMember_eq_ok {s : List Char} {m : String × Json} {rest : List Char}
    (h : readMember item s = .ok (m, rest)) : ∃ t, item t = .ok (m.2, rest) := by
  unfold readMember at h
  split at h
  · obtain ⟨⟨key, t⟩, -, h⟩ := bind_eq_ok.mp h
    dsimp only at h
    split at h
    · cases h
    · obtain ⟨⟨j, u⟩, hj, heq⟩ := bind_eq_ok.mp h
      cases heq
      exact ⟨_, hj⟩
    · cases h
  · cases h

variable {depth : Nat}

/-- Items that nest within a bound make a list that does. -/
theorem depthItems_of_readItems (hitem : ∀ s j rest, item s = .ok (j, rest) → j.depth ≤ depth)
    (fuel : Nat) (first : Bool) (s : List Char) {js : List Json} {rest : List Char}
    (h : readItems item fuel first s = .ok (js, rest)) : depthItems js ≤ depth := by
  induction fuel generalizing first s js rest with
  | zero => cases h
  | succ fuel ih =>
    rcases readItems_eq_ok h with rfl | ⟨t, hcons⟩
    · exact Nat.zero_le _
    · obtain ⟨j, u, ks, hj, hks, rfl⟩ := readCons_eq_ok hcons
      exact Nat.max_le.mpr ⟨hitem t j u hj, ih false u hks⟩

/-- Members whose values nest within a bound make a list that does. -/
theorem depthMembers_of_readMembers (hitem : ∀ s j rest, item s = .ok (j, rest) → j.depth ≤ depth)
    (fuel : Nat) (first : Bool) (s : List Char) {ms : List (String × Json)} {rest : List Char}
    (h : readMembers item fuel first s = .ok (ms, rest)) : depthMembers ms ≤ depth := by
  induction fuel generalizing first s ms rest with
  | zero => cases h
  | succ fuel ih =>
    rcases readMembers_eq_ok h with rfl | ⟨t, hcons⟩
    · exact Nat.zero_le _
    · obtain ⟨m, u, ks, hm, hks, rfl⟩ := readCons_eq_ok hcons
      obtain ⟨v, hv⟩ := readMember_eq_ok hm
      exact Nat.max_le.mpr ⟨hitem v m.2 u hv, ih false u hks⟩

end Readers

/-- What was read is no array and no object, or its parts were read with one level less. -/
theorem readTree_cases {depth : Nat} {s : List Char} {j : Json} {rest : List Char}
    (h : readTree depth s = .ok (j, rest)) :
    j.depth = 0 ∨ ∃ inner, depth = inner + 1 ∧
      ((∃ t items, j = .array items ∧
          readItems (readTree inner) (t.length + 1) true t = .ok (items, rest)) ∨
        ∃ t members, j = .object members ∧
          readMembers (readTree inner) (t.length + 1) true t = .ok (members, rest)) := by
  unfold readTree at h
  split at h
  · cases h
  -- a word, a number after its sign, or a string
  iterate 5
    obtain ⟨_, -, heq⟩ := bind_eq_ok.mp h
    cases heq
    exact .inl rfl
  · next t _ =>
    cases depth with
    | zero => cases h
    | succ inner =>
      obtain ⟨_, hitems, heq⟩ := bind_eq_ok.mp h
      cases heq
      exact .inr ⟨inner, rfl, .inl ⟨t, _, rfl, hitems⟩⟩
  · next t _ =>
    cases depth with
    | zero => cases h
    | succ inner =>
      obtain ⟨_, hmembers, heq⟩ := bind_eq_ok.mp h
      cases heq
      exact .inr ⟨inner, rfl, .inr ⟨t, _, rfl, hmembers⟩⟩
  · split at h
    · obtain ⟨_, -, heq⟩ := bind_eq_ok.mp h
      cases heq
      exact .inl rfl
    · cases h

/-- A document that was read is nested no deeper than the reader allows. -/
theorem depth_le_of_readTree (depth : Nat) (s : List Char) (j : Json) (rest : List Char)
    (h : readTree depth s = .ok (j, rest)) : j.depth ≤ depth := by
  induction depth generalizing s j rest with
  | zero =>
    rcases readTree_cases h with hleaf | ⟨inner, hinner, -⟩
    · omega
    · cases hinner
  | succ depth ih =>
    rcases readTree_cases h with
      hleaf | ⟨inner, hinner, ⟨t, items, rfl, hitems⟩ | ⟨t, members, rfl, hmembers⟩⟩
    · omega
    · cases hinner
      exact Nat.succ_le_succ (depthItems_of_readItems ih _ _ _ hitems)
    · cases hinner
      exact Nat.succ_le_succ (depthMembers_of_readMembers ih _ _ _ hmembers)

/-- **The value of a text that was read is nested no deeper than the reader allows.** -/
theorem depth_le_of_parseValue {s : String} {v : Value} (h : parseValue s = .ok v) :
    v.tree.depth ≤ maxDepth := by
  unfold parseValue parse at h
  split at h
  · next j hall =>
    cases h
    obtain ⟨⟨k, rest⟩, hread, hrest⟩ := bind_eq_ok.mp hall
    dsimp only at hrest
    split at hrest
    · cases hrest
      exact Nat.le_trans (depth_sorted_le j) (depth_le_of_readTree _ _ _ _ hread)
    · cases hrest
  · cases h

end StationGateway.Json
