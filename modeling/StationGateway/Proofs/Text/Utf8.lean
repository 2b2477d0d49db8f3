import StationGateway.Text.Utf8

/-!
# Reading UTF-8

`Text.ofUtf8Lossy_utf8`: the bytes of a text are read as the text. Reading is lenient, so this is the whole
contract of well-formed bytes: no character that was written is replaced.

There is a law for each length that the bytes of a character have. All of them hold whatever bytes follow,
which is what carries the induction over the characters of a text.
-/

namespace StationGateway.Text

theorem toNat_byte {n : Nat} (h : n < 0x100) : (byte n).toNat = n := by
  rw [byte, UInt8.toNat_ofNat', Nat.mod_eq_of_lt h]

/-- A byte after the first adds the six bits that it was made of. -/
theorem continuation?_byte {low : Nat} (h : low < 0x40) : continuation? (byte (0x80 + low)) = some low := by
  have hbyte : (byte (0x80 + low)).toNat = 0x80 + low := toNat_byte (by omega)
  rw [continuation?, hbyte, if_pos ⟨by omega, by omega⟩, Nat.add_sub_cancel_left]

/-- The second byte is refused only where the first could have been shorter, or where no character is. -/
theorem admitsSecond_byte {first middle : Nat} (h : middle < 0x40) (hE0 : first = 0xE0 → 0x20 ≤ middle)
    (hF0 : first = 0xF0 → 0x10 ≤ middle) (hED : first = 0xED → middle < 0x20)
    (hF4 : first = 0xF4 → middle < 0x10) : admitsSecond first (byte (0x80 + middle)) = true := by
  have hbyte : (byte (0x80 + middle)).toNat = 0x80 + middle := toNat_byte (by omega)
  simp only [admitsSecond, hbyte, Bool.and_eq_true, decide_eq_true_eq]
  constructor
  · split
    · omega
    · split <;> omega
  · split
    · omega
    · split <;> omega

section Lengths

variable {n high middle low : Nat} (rest : List UInt8)

theorem charAt_one (hn : n < 0x80) : charAt (byte n) rest = (Char.ofNat n, 0) := by
  simp only [charAt, toNat_byte (show n < 0x100 by omega), if_pos hn]

theorem charAt_two (hhigh : 2 ≤ high ∧ high < 0x20) (hlow : low < 0x40) :
    charAt (byte (0xC0 + high)) (byte (0x80 + low) :: rest) = (Char.ofNat (high * 0x40 + low), 1) := by
  simp only [charAt, toNat_byte (show 0xC0 + high < 0x100 by omega), List.head?_cons, Option.bind_some,
    continuation?_byte hlow, Nat.add_sub_cancel_left]
  rw [if_neg (by omega), if_pos (by omega)]

theorem charAt_three (hhigh : high < 0x10) (hmiddle : middle < 0x40) (hlow : low < 0x40)
    (hshort : high = 0 → 0x20 ≤ middle) (hsurrogate : high = 0xD → middle < 0x20) :
    charAt (byte (0xE0 + high)) (byte (0x80 + middle) :: byte (0x80 + low) :: rest) =
      (Char.ofNat (high * 0x1000 + middle * 0x40 + low), 2) := by
  have hadmits : admitsSecond (0xE0 + high) (byte (0x80 + middle)) = true :=
    admitsSecond_byte hmiddle (by omega) (by omega) (by omega) (by omega)
  simp only [charAt, toNat_byte (show 0xE0 + high < 0x100 by omega)]
  rw [if_neg (by omega), if_neg (by omega), if_pos (by omega)]
  simp only [threeBytes, hadmits, if_true, List.head?_cons, Option.bind_some, continuation?_byte hlow,
    toNat_byte (show 0x80 + middle < 0x100 by omega), Nat.add_sub_cancel_left]

theorem charAt_four {second : Nat} (hhigh : high < 5) (hsecond : second < 0x40) (hmiddle : middle < 0x40)
    (hlow : low < 0x40) (hshort : high = 0 → 0x10 ≤ second) (hbeyond : high = 4 → second < 0x10) :
    charAt (byte (0xF0 + high))
        (byte (0x80 + second) :: byte (0x80 + middle) :: byte (0x80 + low) :: rest) =
      (Char.ofNat (high * 0x40000 + second * 0x1000 + middle * 0x40 + low), 3) := by
  have hadmits : admitsSecond (0xF0 + high) (byte (0x80 + second)) = true :=
    admitsSecond_byte hsecond (by omega) (by omega) (by omega) (by omega)
  simp only [charAt, toNat_byte (show 0xF0 + high < 0x100 by omega)]
  rw [if_neg (by omega), if_neg (by omega), if_neg (by omega), if_pos (by omega)]
  simp only [fourBytes, hadmits, if_true, List.head?_cons, Option.bind_some, continuation?_byte hmiddle,
    continuation?_byte hlow, toNat_byte (show 0x80 + second < 0x100 by omega), Nat.add_sub_cancel_left]

end Lengths

/-- The bytes of a character are read as it, whatever follows them. -/
theorem charAt_utf8OfChar (c : Char) (rest : List UInt8) :
    ∃ first more, utf8OfChar c = first :: more ∧ charAt first (more ++ rest) = (c, more.length) := by
  have hvalid : c.toNat < 0xD800 ∨ 0xDFFF < c.toNat ∧ c.toNat < 0x110000 := c.valid
  unfold utf8OfChar
  dsimp only
  split
  · next hn =>
    refine ⟨_, _, rfl, ?_⟩
    rw [List.nil_append, charAt_one rest hn, Char.ofNat_toNat]
    rfl
  · split
    · refine ⟨_, _, rfl, (charAt_two rest (by omega) (by omega)).trans ?_⟩
      rw [show c.toNat / 0x40 * 0x40 + c.toNat % 0x40 = c.toNat by omega, Char.ofNat_toNat]
      rfl
    · split
      · refine ⟨_, _, rfl, (charAt_three rest (by omega) (by omega) (by omega) (by omega)
          (by omega)).trans ?_⟩
        rw [show c.toNat / 0x1000 * 0x1000 + c.toNat / 0x40 % 0x40 * 0x40 + c.toNat % 0x40 = c.toNat
          by omega, Char.ofNat_toNat]
        rfl
      · refine ⟨_, _, rfl, (charAt_four rest (by omega) (by omega) (by omega) (by omega) (by omega)
          (by omega)).trans ?_⟩
        rw [show c.toNat / 0x40000 * 0x40000 + c.toNat / 0x1000 % 0x40 * 0x1000 +
          c.toNat / 0x40 % 0x40 * 0x40 + c.toNat % 0x40 = c.toNat by omega, Char.ofNat_toNat]
        rfl

theorem ofUtf8Lossy_utf8OfChar_append (c : Char) (rest : List UInt8) :
    ofUtf8Lossy (utf8OfChar c ++ rest) = c :: ofUtf8Lossy rest := by
  obtain ⟨first, more, hc, hread⟩ := charAt_utf8OfChar c rest
  rw [hc, List.cons_append, ofUtf8Lossy, hread, List.drop_left]

/-- **The bytes of a text are read as the text.** -/
theorem ofUtf8Lossy_utf8 (cs : List Char) : ofUtf8Lossy (utf8 cs) = cs := by
  induction cs with
  | nil => rw [utf8, List.flatMap_nil, ofUtf8Lossy]
  | cons c cs ih => rw [utf8, List.flatMap_cons, ofUtf8Lossy_utf8OfChar_append, ← utf8, ih]

/-! ## How much is read

However bytes are read, each of them gives at most one character more than there are without it. The bytes
that a character takes up after its first are such as no character begins with. -/

/-- A byte that may stand in a character after the first. -/
def IsContinuation (b : UInt8) : Prop :=
  0x80 ≤ b.toNat ∧ b.toNat ≤ 0xBF

theorem isContinuation_of_continuation? {b : UInt8} {low : Nat} (h : continuation? b = some low) :
    IsContinuation b := by
  unfold continuation? at h
  split at h
  · assumption
  · cases h

theorem isContinuation_of_admitsSecond {first : Nat} {b : UInt8} (h : admitsSecond first b = true) :
    IsContinuation b := by
  simp only [admitsSecond, Bool.and_eq_true, decide_eq_true_eq] at h
  obtain ⟨hlow, hhigh⟩ := h
  constructor
  · refine Nat.le_trans ?_ hlow
    split
    · decide
    · split <;> decide
  · refine Nat.le_trans hhigh ?_
    split
    · decide
    · split <;> decide

/-- The byte that was found at the front is the one that is taken up. -/
theorem isContinuation_of_head? {low : Nat} {more : List UInt8}
    (h : more.head?.bind continuation? = some low) :
    ∀ b ∈ more.take 1, IsContinuation b := by
  obtain ⟨c, hc, hlow⟩ := Option.bind_eq_some_iff.mp h
  obtain ⟨rest, rfl⟩ := List.head?_eq_some_iff.mp hc
  intro b hb
  rw [List.take_succ_cons, List.take_zero, List.mem_singleton] at hb
  exact hb ▸ isContinuation_of_continuation? hlow

theorem isContinuation_of_threeBytes (first : Nat) (more : List UInt8) :
    ∀ b ∈ more.take (threeBytes first more).2, IsContinuation b := by
  fun_cases threeBytes first more with
  | case1 b more hsecond low hlow =>
    exact List.forall_mem_cons.mpr ⟨isContinuation_of_admitsSecond hsecond, isContinuation_of_head? hlow⟩
  | case2 b more hsecond =>
    exact List.forall_mem_cons.mpr ⟨isContinuation_of_admitsSecond hsecond, fun _ hb => nomatch hb⟩
  | case3 | case4 => exact fun _ hb => nomatch hb

theorem isContinuation_of_fourBytes (first : Nat) (more : List UInt8) :
    ∀ b ∈ more.take (fourBytes first more).2, IsContinuation b := by
  fun_cases fourBytes first more with
  | case1 b hsecond c more middle hmiddle low hlow =>
    exact List.forall_mem_cons.mpr ⟨isContinuation_of_admitsSecond hsecond,
      List.forall_mem_cons.mpr ⟨isContinuation_of_continuation? hmiddle, isContinuation_of_head? hlow⟩⟩
  | case2 b hsecond c more middle hmiddle =>
    exact List.forall_mem_cons.mpr ⟨isContinuation_of_admitsSecond hsecond,
      List.forall_mem_cons.mpr ⟨isContinuation_of_continuation? hmiddle, fun _ hb => nomatch hb⟩⟩
  | case3 b hsecond | case4 b hsecond =>
    exact List.forall_mem_cons.mpr ⟨isContinuation_of_admitsSecond hsecond, fun _ hb => nomatch hb⟩
  | case5 | case6 => exact fun _ hb => nomatch hb

theorem isContinuation_of_charAt (first : UInt8) (more : List UInt8) :
    ∀ b ∈ more.take (charAt first more).2, IsContinuation b := by
  fun_cases charAt first more with
  | case2 _ _ _ low hlow => exact isContinuation_of_head? hlow
  | case4 => exact isContinuation_of_threeBytes _ _
  | case5 => exact isContinuation_of_fourBytes _ _
  | case1 | case3 | case6 => exact fun _ hb => nomatch hb

/-- A character does not begin with a byte that stands in others. -/
theorem ofUtf8Lossy_of_isContinuation {b : UInt8} (h : IsContinuation b) (more : List UInt8) :
    ofUtf8Lossy (b :: more) = replacement :: ofUtf8Lossy more := by
  obtain ⟨hlow, hhigh⟩ := h
  have hread : charAt b more = (replacement, 0) := by
    simp only [charAt]
    rw [if_neg (by omega), if_neg (by omega), if_neg (by omega), if_neg (by omega)]
  rw [ofUtf8Lossy, hread, List.drop_zero]

theorem length_ofUtf8Lossy_drop_le {n : Nat} {bytes : List UInt8}
    (h : ∀ b ∈ bytes.take n, IsContinuation b) :
    (ofUtf8Lossy (bytes.drop n)).length ≤ (ofUtf8Lossy bytes).length := by
  induction n generalizing bytes with
  | zero => exact Nat.le_refl _
  | succ n ih =>
    cases bytes with
    | nil => exact Nat.le_refl _
    | cons b bytes =>
      obtain ⟨hb, hrest⟩ := List.forall_mem_cons.mp h
      rw [List.drop_succ_cons, ofUtf8Lossy_of_isContinuation hb]
      exact Nat.le_succ_of_le (ih hrest)

/-- A byte more is a character more at most. -/
theorem length_ofUtf8Lossy_cons_le (b : UInt8) (bytes : List UInt8) :
    (ofUtf8Lossy (b :: bytes)).length ≤ (ofUtf8Lossy bytes).length + 1 := by
  rw [ofUtf8Lossy, List.length_cons]
  exact Nat.succ_le_succ (length_ofUtf8Lossy_drop_le (isContinuation_of_charAt b bytes))

end StationGateway.Text
