import StationGateway.Text.Split

/-!
# Parts of texts

A text is split at every place where a separator stands. Either there is none in it, or there is a first part,
a separator and the rest: `split_cases` is that distinction as an induction, and every law here goes by it.

- `intercalate_split` and `split_eq_of_intercalate`: the parts are the one list of texts without the separator
  that gives the text when joined by it.
- `mem_split_append`: what is put behind the last separator of a text goes to its last part alone.
-/

namespace StationGateway.Text

variable {separator : Char} {s rest part : List Char}

theorem split_append (h : separator ∉ s) :
    split separator (s ++ separator :: rest) = s :: split separator rest := by
  induction s with
  | nil => rw [List.nil_append, split, if_pos rfl]
  | cons c s ih =>
    obtain ⟨hc, hs⟩ := not_or.mp (mt List.mem_cons.mpr h)
    rw [List.cons_append, split, if_neg (Ne.symm hc), ih hs]

theorem split_of_not_mem (h : separator ∉ s) : split separator s = [s] := by
  induction s with
  | nil => rfl
  | cons c s ih =>
    obtain ⟨hc, hs⟩ := not_or.mp (mt List.mem_cons.mpr h)
    rw [split, if_neg (Ne.symm hc), ih hs]

/-- A text has no separator, or a first part before one. -/
@[elab_as_elim]
theorem split_cases {motive : List Char → Prop} (separator : Char)
    (single : ∀ s, separator ∉ s → motive s)
    (more : ∀ s rest, separator ∉ s → motive rest → motive (s ++ separator :: rest)) (s : List Char) :
    motive s := by
  by_cases h : separator ∈ s
  · obtain ⟨first, rest, heq, hfirst⟩ := List.eq_append_cons_of_mem h
    have hshorter : rest.length < s.length := by
      rw [heq, List.length_append, List.length_cons]
      omega
    rw [heq]
    exact more first rest hfirst (split_cases separator single more rest)
  · exact single s h
termination_by s.length

theorem intercalate_cons_of_ne_nil (s : List Char) {parts : List (List Char)} (h : parts ≠ []) :
    [separator].intercalate (s :: parts) = s ++ separator :: [separator].intercalate parts := by
  cases parts with
  | nil => exact absurd rfl h
  | cons t parts => rw [List.intercalate_cons_cons, List.append_assoc, List.singleton_append]

theorem split_ne_nil (separator : Char) (s : List Char) : split separator s ≠ [] := by
  induction s using split_cases separator with
  | single s hs =>
    rw [split_of_not_mem hs]
    exact List.cons_ne_nil _ _
  | more s rest hs =>
    rw [split_append hs]
    exact List.cons_ne_nil _ _

theorem not_mem_of_mem_split (h : part ∈ split separator s) : separator ∉ part := by
  induction s using split_cases separator with
  | single s hs =>
    rw [split_of_not_mem hs, List.mem_singleton] at h
    exact h ▸ hs
  | more s rest hs ih =>
    rw [split_append hs] at h
    rcases List.mem_cons.mp h with rfl | h
    · exact hs
    · exact ih h

/-- A part has no characters but those of the text. -/
theorem mem_of_mem_split (h : part ∈ split separator s) {c : Char} (hc : c ∈ part) : c ∈ s := by
  induction s using split_cases separator with
  | single s hs => exact List.mem_singleton.mp (split_of_not_mem hs ▸ h) ▸ hc
  | more s rest hs ih =>
    rw [split_append hs] at h
    rcases List.mem_cons.mp h with rfl | h
    · exact List.mem_append_left _ hc
    · exact List.mem_append_right _ (List.mem_cons_of_mem _ (ih h))

/-- The parts of a text give it back when they are joined. -/
theorem intercalate_split (separator : Char) (s : List Char) :
    [separator].intercalate (split separator s) = s := by
  induction s using split_cases separator with
  | single s hs => rw [split_of_not_mem hs, List.intercalate_singleton]
  | more s rest hs ih =>
    rw [split_append hs, intercalate_cons_of_ne_nil s (split_ne_nil separator rest), ih]

/-- Parts that are joined are split again. -/
theorem split_eq_of_intercalate {parts : List (List Char)} (hne : parts ≠ [])
    (hparts : ∀ part ∈ parts, separator ∉ part) :
    split separator ([separator].intercalate parts) = parts := by
  induction parts with
  | nil => exact absurd rfl hne
  | cons s parts ih =>
    obtain ⟨hs, hrest⟩ := List.forall_mem_cons.mp hparts
    by_cases hlast : parts = []
    · rw [hlast, List.intercalate_singleton, split_of_not_mem hs]
    · rw [intercalate_cons_of_ne_nil s hlast, split_append hs, ih hlast hrest]

/-- Parts that are joined are split again. Behind the last of them in which the separator does not stand,
there may be more parts than were joined. -/
theorem split_intercalate {before : List (List Char)} (after : List (List Char))
    (hbefore : ∀ t ∈ before, separator ∉ t) (hs : separator ∉ s) :
    ∃ more, split separator ([separator].intercalate (before ++ s :: after)) = before ++ s :: more := by
  induction before with
  | nil =>
    rw [List.nil_append]
    by_cases hlast : after = []
    · exact ⟨[], by rw [hlast, List.intercalate_singleton, split_of_not_mem hs, List.nil_append]⟩
    · exact ⟨_, by rw [intercalate_cons_of_ne_nil s hlast, split_append hs, List.nil_append]⟩
  | cons t before ih =>
    obtain ⟨ht, hbefore⟩ := List.forall_mem_cons.mp hbefore
    obtain ⟨more, hmore⟩ := ih hbefore
    refine ⟨more, ?_⟩
    rw [List.cons_append, intercalate_cons_of_ne_nil t (by simp), split_append ht, hmore, List.cons_append]

/-- A part is no longer than the text, and as long only if it is the whole text. -/
theorem eq_of_mem_split_of_length_le (h : part ∈ split separator s) (hlength : s.length ≤ part.length) :
    part = s := by
  induction s using split_cases separator with
  | single s hs => exact List.mem_singleton.mp (split_of_not_mem hs ▸ h)
  | more s rest hs ih =>
    rw [List.length_append, List.length_cons] at hlength
    rw [split_append hs] at h
    rcases List.mem_cons.mp h with rfl | h
    · omega
    · have hrest := congrArg List.length (ih h (by omega))
      omega

/-- What has no separator and is put behind a text goes to its last part. -/
theorem mem_split_append {more : List Char} (hmore : separator ∉ more)
    (h : part ∈ split separator (s ++ more)) :
    ∃ front ∈ split separator s, part = front ∨ part = front ++ more := by
  induction s using split_cases separator with
  | single s hs =>
    have hboth : separator ∉ s ++ more := by simp [hs, hmore]
    rw [split_of_not_mem hboth, List.mem_singleton] at h
    exact ⟨s, by rw [split_of_not_mem hs, List.mem_singleton], .inr h⟩
  | more s rest hs ih =>
    rw [List.append_assoc, List.cons_append, split_append hs] at h
    rw [split_append hs]
    rcases List.mem_cons.mp h with rfl | h
    · exact ⟨part, List.mem_cons_self, .inl rfl⟩
    · obtain ⟨front, hfront, heq⟩ := ih h
      exact ⟨front, List.mem_cons_of_mem _ hfront, heq⟩

theorem splitFirst_append (h : separator ∉ s) :
    splitFirst separator (s ++ separator :: rest) = (s, some rest) := by
  have hall : ∀ c ∈ s, decide (c ≠ separator) = true := by
    intro c hc
    refine decide_eq_true ?_
    rintro rfl
    exact h hc
  rw [splitFirst, List.takeWhile_append_of_pos hall, List.dropWhile_append_of_pos hall]
  simp

end StationGateway.Text
