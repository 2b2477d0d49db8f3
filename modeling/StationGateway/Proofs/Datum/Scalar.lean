import StationGateway.Datum.Decoder

/-!
# Reading single values

Each decoder of a single value has one law: which data it reads, and as what. `GivesIf` is the shape of these laws,
and of those of records that are made of such values: an attempt succeeds under one condition, with one value.
-/

namespace StationGateway

/-- An attempt succeeds exactly under a condition, and then with one value. -/
def GivesIf {ε α : Type} (x : Except ε α) (p : Prop) (a : α) : Prop :=
  p ∧ x = .ok a ∨ ¬ p ∧ ∃ e, x = .error e

namespace GivesIf

variable {ε α β : Type} {x : Except ε α} {p q : Prop} {a b : α}

theorem eq_ok_iff (h : GivesIf x p a) : x = .ok b ↔ p ∧ b = a := by
  rcases h with ⟨hp, rfl⟩ | ⟨hp, e, rfl⟩
  · exact ⟨fun heq => ⟨hp, (Except.ok.inj heq).symm⟩, fun ⟨_, heq⟩ => heq ▸ rfl⟩
  · exact iff_of_false (fun heq => nomatch heq) fun ⟨hp', _⟩ => hp hp'

theorem isOk_iff (h : GivesIf x p a) : (∃ b, x = .ok b) ↔ p := by
  simp only [h.eq_ok_iff, exists_and_left, exists_eq, and_true]

theorem map (f : α → β) (h : GivesIf x p a) : GivesIf (x.map f) p (f a) := by
  rcases h with ⟨hp, rfl⟩ | ⟨hp, e, rfl⟩
  · exact .inl ⟨hp, rfl⟩
  · exact .inr ⟨hp, e, rfl⟩

theorem congr (h : GivesIf x p a) (hpq : p ↔ q) : GivesIf x q a := by
  rwa [propext hpq] at h

end GivesIf

/-! ## Single values -/

namespace Datum

/-- A text. -/
def IsText (d : Datum) : Prop :=
  ∃ s, d = .text s

/-- A truth value. -/
def IsBoolean (d : Datum) : Prop :=
  ∃ b, d = .boolean b

/-- A natural number below a limit. -/
def IsNatural (limit : Nat) (d : Datum) : Prop :=
  ∃ n : Nat, n < limit ∧ d = .integer n

/-- The text that a datum is. -/
def textValue : Datum → String
  | .text s => s
  | _ => ""

/-- The truth value that a datum is. -/
def booleanValue : Datum → Bool
  | .boolean b => b
  | _ => false

/-- The natural number that a datum is. -/
def naturalValue : Datum → Nat
  | .integer n => n.toNat
  | _ => 0

end Datum

section Scalars

open Datum

variable (m : Strictness) (d : Datum)

theorem givesIf_text : GivesIf (Decoder.text m d) d.IsText d.textValue := by
  cases d with
  | text s => exact .inl ⟨⟨s, rfl⟩, rfl⟩
  | _ => exact .inr ⟨fun ⟨_, h⟩ => (nomatch h), _, rfl⟩

theorem givesIf_boolean : GivesIf (Decoder.boolean m d) d.IsBoolean d.booleanValue := by
  cases d with
  | boolean b => exact .inl ⟨⟨b, rfl⟩, rfl⟩
  | _ => exact .inr ⟨fun ⟨_, h⟩ => (nomatch h), _, rfl⟩

theorem givesIf_natural (limit : Nat) (expected : String) :
    GivesIf (Decoder.natural limit expected m d) (d.IsNatural limit) d.naturalValue := by
  cases d with
  | integer n =>
    by_cases hn : 0 ≤ n ∧ n < limit
    · refine .inl ⟨⟨n.toNat, by omega, ?_⟩, if_pos hn⟩
      rw [Int.toNat_of_nonneg hn.1]
    · refine .inr ⟨?_, _, if_neg hn⟩
      rintro ⟨k, hk, heq⟩
      obtain rfl : n = k := Datum.integer.inj heq
      omega
  | _ => exact .inr ⟨fun ⟨_, _, h⟩ => (nomatch h), _, rfl⟩

theorem givesIf_uint16 :
    GivesIf (Decoder.uint16 m d) (d.IsNatural UInt16.size) (UInt16.ofNat d.naturalValue) :=
  (givesIf_natural m d _ _).map _

theorem givesIf_uint32 :
    GivesIf (Decoder.uint32 m d) (d.IsNatural UInt32.size) (UInt32.ofNat d.naturalValue) :=
  (givesIf_natural m d _ _).map _

theorem givesIf_uint64 :
    GivesIf (Decoder.uint64 m d) (d.IsNatural UInt64.size) (UInt64.ofNat d.naturalValue) :=
  (givesIf_natural m d _ _).map _

end Scalars

end StationGateway
