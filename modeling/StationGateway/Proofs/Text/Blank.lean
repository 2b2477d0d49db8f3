import Mathlib.Data.List.TakeWhile
import StationGateway.Text.Blank

/-!
# Blanks around texts

Trimming takes the blanks off both ends of a text and nothing else: `exists_blanks_trim` says that what is taken
off is blank, and `trim_append` that all of it is taken off where the rest neither begins nor ends with a
blank.
-/

namespace StationGateway.Text

variable {left word right : List Char}

theorem exists_blanks_trimStart (s : List Char) :
    ∃ left, s = left ++ trimStart s ∧ ∀ c ∈ left, isBlank c = true :=
  ⟨s.takeWhile isBlank, List.takeWhile_append_dropWhile.symm, fun _ => List.mem_takeWhile_imp⟩

theorem exists_blanks_trimEnd (s : List Char) :
    ∃ right, s = trimEnd s ++ right ∧ ∀ c ∈ right, isBlank c = true := by
  obtain ⟨left, hs, hleft⟩ := exists_blanks_trimStart s.reverse
  refine ⟨left.reverse, ?_, fun c hc => hleft c (List.mem_reverse.mp hc)⟩
  have hreverse := congrArg List.reverse hs
  rwa [List.reverse_reverse, List.reverse_append] at hreverse

/-- What trimming takes off a text are blanks at its ends. -/
theorem exists_blanks_trim (s : List Char) : ∃ left right, s = left ++ trim s ++ right ∧
    (∀ c ∈ left, isBlank c = true) ∧ ∀ c ∈ right, isBlank c = true := by
  obtain ⟨left, hs, hleft⟩ := exists_blanks_trimStart s
  obtain ⟨right, htrim, hright⟩ := exists_blanks_trimEnd (trimStart s)
  refine ⟨left, right, ?_, hleft, hright⟩
  rw [List.append_assoc, trim, ← htrim]
  exact hs

theorem trimStart_append (hleft : ∀ c ∈ left, isBlank c = true)
    (hword : ∀ c ∈ word.head?, isBlank c = false) : trimStart (left ++ word) = word := by
  rw [trimStart, List.dropWhile_append_of_pos hleft]
  cases word with
  | nil => rfl
  | cons c word => rw [List.dropWhile_cons_of_neg (by rw [hword c rfl]; exact Bool.false_ne_true)]

theorem trimEnd_append (hright : ∀ c ∈ right, isBlank c = true)
    (hword : ∀ c ∈ word.getLast?, isBlank c = false) : trimEnd (word ++ right) = word := by
  have hreverse : trimStart (right.reverse ++ word.reverse) = word.reverse := by
    refine trimStart_append (fun c hc => hright c (List.mem_reverse.mp hc)) fun c hc => hword c ?_
    rwa [List.head?_reverse] at hc
  rw [trimEnd, List.reverse_append]
  exact (congrArg List.reverse hreverse).trans (List.reverse_reverse word)

/-- Blanks around a word that has none at its ends are what trimming takes off. -/
theorem trim_append (hleft : ∀ c ∈ left, isBlank c = true) (hright : ∀ c ∈ right, isBlank c = true)
    (hfirst : ∀ c ∈ word.head?, isBlank c = false) (hlast : ∀ c ∈ word.getLast?, isBlank c = false)
    (hne : word ≠ []) : trim (left ++ word ++ right) = word := by
  have hhead : ∀ c ∈ (word ++ right).head?, isBlank c = false := by
    intro c hc
    rw [List.head?_append, Option.or_of_isSome (List.isSome_head?.mpr hne)] at hc
    exact hfirst c hc
  rw [trim, List.append_assoc, trimStart_append hleft hhead, trimEnd_append hright hlast]

end StationGateway.Text
