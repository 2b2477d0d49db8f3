import StationGateway.Proofs.Text.Utf8

/-!
# The order of texts

Texts are compared character by character, and bytes byte by byte. `Text.utf8_lt_utf8_iff`: for the bytes of
texts the two are one, so that a list that is in the order of texts is in the order of bytes, too.

The bytes of two characters may differ in how many there are. They differ at some place all the same, and not
because one of them ends (`Precedes`), which is why whatever follows the characters does not matter.
-/

namespace StationGateway.Text

/-- Whether two lists of bytes differ, and the first is less at the first place where they do. -/
inductive Precedes : List UInt8 → List UInt8 → Prop
  | here {a b xs ys} (h : a < b) : Precedes (a :: xs) (b :: ys)
  | there {a xs ys} (h : Precedes xs ys) : Precedes (a :: xs) (a :: ys)

section Precedes

variable {xs ys : List UInt8}

/-- What follows is not looked at. -/
theorem Precedes.append_lt (h : Precedes xs ys) (rest more : List UInt8) : xs ++ rest < ys ++ more := by
  induction h with
  | here h => exact List.Lex.rel h
  | there _ ih => exact List.Lex.cons ih

/-- The first bytes decide, unless they are the same. -/
theorem precedes_byte {a b : Nat} (hb : b < 0x100) (hle : a ≤ b) (hrest : a = b → Precedes xs ys) :
    Precedes (byte a :: xs) (byte b :: ys) := by
  rcases Nat.lt_or_eq_of_le hle with hlt | rfl
  · apply Precedes.here
    rw [UInt8.lt_iff_toNat_lt, toNat_byte hb, toNat_byte (Nat.lt_trans hlt hb)]
    exact hlt
  · exact .there (hrest rfl)

end Precedes

/-- Characters of more bytes begin with greater ones, and characters of as many bytes are compared by their
digits, the highest first. -/
theorem precedes_utf8OfChar {c d : Char} (h : c < d) : Precedes (utf8OfChar c) (utf8OfChar d) := by
  have hlt : c.toNat < d.toNat := UInt32.lt_iff_toNat_lt.mp (Char.lt_def.mp h)
  have hd : d.toNat < 0xD800 ∨ 0xDFFF < d.toNat ∧ d.toNat < 0x110000 := d.valid
  unfold utf8OfChar
  dsimp only
  -- by the number of bytes of the first character, and then of the second, which has no fewer
  split
  · split
    · exact precedes_byte (by omega) (by omega) (by omega)
    · split
      · exact precedes_byte (by omega) (by omega) (by omega)
      · split
        · exact precedes_byte (by omega) (by omega) (by omega)
        · exact precedes_byte (by omega) (by omega) (by omega)
  · rw [if_neg (by omega : ¬ d.toNat < 0x80)]
    split
    · split
      -- the low digits decide only where the high ones are the same
      · refine precedes_byte (by omega) (by omega) fun hhigh => ?_
        exact precedes_byte (by omega) (by omega) (by omega)
      · split
        · exact precedes_byte (by omega) (by omega) (by omega)
        · exact precedes_byte (by omega) (by omega) (by omega)
    · rw [if_neg (by omega : ¬ d.toNat < 0x800)]
      split
      · split
        · refine precedes_byte (by omega) (by omega) fun hhigh => ?_
          refine precedes_byte (by omega) (by omega) fun hmiddle => ?_
          exact precedes_byte (by omega) (by omega) (by omega)
        · exact precedes_byte (by omega) (by omega) (by omega)
      · rw [if_neg (by omega : ¬ d.toNat < 0x10000)]
        refine precedes_byte (by omega) (by omega) fun hhigh => ?_
        refine precedes_byte (by omega) (by omega) fun hsecond => ?_
        refine precedes_byte (by omega) (by omega) fun hmiddle => ?_
        exact precedes_byte (by omega) (by omega) (by omega)

theorem utf8_cons (c : Char) (cs : List Char) : utf8 (c :: cs) = utf8OfChar c ++ utf8 cs :=
  List.flatMap_cons

theorem nil_lt_utf8_cons (c : Char) (cs : List Char) : [] < utf8 (c :: cs) := by
  obtain ⟨first, more, hc, -⟩ := charAt_utf8OfChar c []
  rw [utf8_cons, hc]
  exact List.Lex.nil

/-- What comes first in the order of characters comes first in the order of bytes. -/
theorem utf8_lt_utf8 {cs ds : List Char} (h : cs < ds) : utf8 cs < utf8 ds := by
  induction h with
  | nil => exact nil_lt_utf8_cons _ _
  | cons _ ih =>
    rw [utf8_cons, utf8_cons]
    exact List.append_left_lt ih
  | rel hlt =>
    rw [utf8_cons, utf8_cons]
    exact (precedes_utf8OfChar hlt).append_lt _ _

/-- **Texts and their bytes are in the same order.** -/
theorem utf8_lt_utf8_iff {a b : String} : utf8 a.toList < utf8 b.toList ↔ a < b := by
  constructor
  · intro h
    rcases Std.lt_trichotomy a b with hlt | rfl | hgt
    · exact hlt
    · exact absurd h (List.lt_irrefl _)
    · exact absurd (utf8_lt_utf8 (String.lt_iff.mp hgt)) (List.lt_asymm h)
  · intro h
    exact utf8_lt_utf8 (String.lt_iff.mp h)

end StationGateway.Text
