import StationGateway.Proofs.Json.Depth
import StationGateway.Time.Printer
import StationGateway.Time.Reader

/-!
# Points in time read back from their text

`Timestamp.parse_render`: the text of any point in time is read as that very point, whatever its year,
its fraction and its second, the sixty-first of a minute included. The reader takes more than the
printer writes; each of its readers is shown here to take what the printer writes for its part, and to
leave what follows.
-/

namespace StationGateway.Timestamp

open Json (bind_eq_ok NoDigit noDigit_cons isDigit_toDigits isDigit_replicate_zero)
open Text (trimStart isBlank)

/-! ## Padded numbers -/

theorem isDigit_paddedText (width n : Nat) : ∀ c ∈ paddedText width n, c.isDigit = true := by
  intro c hc
  rcases List.mem_append.mp hc with hc | hc
  · exact isDigit_replicate_zero _ c hc
  · exact isDigit_toDigits n c hc

theorem paddedText_ne_nil (width n : Nat) : paddedText width n ≠ [] := by
  simp [paddedText]

/-- Zeros before a number do not change it. -/
theorem ofDigitChars_paddedText (width n : Nat) : Nat.ofDigitChars 10 (paddedText width n) 0 = n := by
  rw [paddedText, Nat.ofDigitChars_append, Nat.ofDigitChars_replicate_zero, Nat.mul_zero,
    Nat.ofDigitChars_ten_toDigits]

/-- A number with no more digits than the width fills the width. -/
theorem length_paddedText {width n : Nat} (h : (Nat.toDigits 10 n).length ≤ width) :
    (paddedText width n).length = width := by
  rw [paddedText, List.length_append, List.length_replicate]
  omega

/-! ## Numbers -/

/-- The number that digits make is read, as far as the limit goes or up to what is no digit. -/
theorem readNumber_append {limit : Option Nat} {ds rest : List Char}
    (hds : ∀ c ∈ ds, c.isDigit = true) (hne : ds ≠ [])
    (hvalue : Nat.ofDigitChars 10 ds 0 < 9223372036854775808)
    (hend : ∀ n, limit = some n → ds.length ≤ n ∧ NoDigit (rest.take (n - ds.length)))
    (hopen : limit = none → NoDigit rest) :
    readNumber limit (ds ++ rest) = .ok (Nat.ofDigitChars 10 ds 0, rest) := by
  have hspan {more : List Char} (hmore : NoDigit more) : (ds ++ more).takeWhile Char.isDigit = ds :=
    congrArg Prod.fst (Json.spanDigits_append hds hmore)
  have hsome : (ds ++ rest).isEmpty = false := by simp [hne]
  have hlimit : ¬ Nat.pow 2 63 ≤ Nat.ofDigitChars 10 ds 0 := Nat.not_le.mpr hvalue
  cases limit with
  | none =>
    have hdigits := hspan (hopen rfl)
    simp only [readNumber, hdigits, hsome, List.isEmpty_eq_false_iff.mpr hne, hlimit, List.drop_left,
      Bool.false_eq_true, if_false]
  | some n =>
    obtain ⟨hle, hmore⟩ := hend n rfl
    have hdigits : ((ds ++ rest).take n).takeWhile Char.isDigit = ds := by
      rw [List.take_append, List.take_of_length_le hle]
      exact hspan hmore
    simp only [readNumber, hdigits, hsome, List.isEmpty_eq_false_iff.mpr hne, hlimit, List.drop_left,
      Bool.false_eq_true, if_false]

/-- A number of a fixed width is read where more digits could follow. -/
theorem readNumber_paddedText {width n : Nat} (h : (Nat.toDigits 10 n).length ≤ width)
    (hn : n < 9223372036854775808) (rest : List Char) :
    readNumber (some width) (paddedText width n ++ rest) = .ok (n, rest) := by
  have hread : readNumber (some width) (paddedText width n ++ rest) =
      .ok (Nat.ofDigitChars 10 (paddedText width n) 0, rest) := by
    apply readNumber_append (isDigit_paddedText width n) (paddedText_ne_nil width n)
    · rwa [ofDigitChars_paddedText]
    · rintro _ ⟨⟩
      rw [length_paddedText h, Nat.sub_self]
      exact ⟨Nat.le_refl _, fun c hc => by cases hc⟩
    · rintro ⟨⟩
  rwa [ofDigitChars_paddedText] at hread

/-- A number before what is no digit is read whole. -/
theorem readNumber_paddedText_end {limit : Option Nat} {width n : Nat}
    (h : ∀ most, limit = some most → (paddedText width n).length ≤ most)
    (hn : n < 9223372036854775808) {c : Char} (hc : c.isDigit = false) (rest : List Char) :
    readNumber limit (paddedText width n ++ c :: rest) = .ok (n, c :: rest) := by
  have hread : readNumber limit (paddedText width n ++ c :: rest) =
      .ok (Nat.ofDigitChars 10 (paddedText width n) 0, c :: rest) := by
    apply readNumber_append (isDigit_paddedText width n) (paddedText_ne_nil width n)
    · rwa [ofDigitChars_paddedText]
    · intro most hmost
      refine ⟨h most hmost, ?_⟩
      cases most - (paddedText width n).length with
      | zero => exact fun d hd => by cases hd
      | succ k => exact noDigit_cons hc _
    · intro _
      exact noDigit_cons hc rest
  rwa [ofDigitChars_paddedText] at hread

/-! ## Parts -/

theorem isBlank_of_isDigit {c : Char} (hc : c.isDigit = true) : isBlank c = false := by
  have hrange : 48 ≤ c.toNat ∧ c.toNat ≤ 57 := Char.isDigit_iff_toNat.mp hc
  simp only [isBlank, Bool.or_eq_false_iff, Bool.and_eq_false_iff, decide_eq_false_iff_not,
    beq_eq_false_iff_ne]
  omega

/-- A number has no blanks before it. -/
theorem trimStart_paddedText (width n : Nat) (rest : List Char) :
    trimStart (paddedText width n ++ rest) = paddedText width n ++ rest := by
  obtain ⟨c, cs, hcs⟩ := List.exists_cons_of_ne_nil (paddedText_ne_nil width n)
  have hc : c.isDigit = true := isDigit_paddedText width n c (hcs ▸ List.mem_cons_self)
  rw [hcs, List.cons_append, trimStart, List.dropWhile_cons, isBlank_of_isDigit hc]
  rfl

theorem readField_paddedText {least most n : Nat} (hleast : least ≤ n) (hmost : n ≤ most)
    (h : n < 100) (rest : List Char) :
    readField least most (paddedText 2 n ++ rest) = .ok (n, rest) := by
  have hlength : (Nat.toDigits 10 n).length ≤ 2 :=
    (Nat.length_toDigits_le_iff (by decide) (by decide)).mpr h
  unfold readField
  rw [trimStart_paddedText, readNumber_paddedText hlength (by omega)]
  show (if least ≤ n ∧ n ≤ most then Except.ok (n, rest) else _) = _
  rw [if_pos ⟨hleast, hmost⟩]

theorem readMark_cons {mark : Char} (h : isBlank mark = false) (rest : List Char) :
    readMark mark (mark :: rest) = .ok rest := by
  unfold readMark
  rw [trimStart, List.dropWhile_cons, h]
  exact if_pos rfl

/-- A year is read with its sign, or in its four digits. -/
theorem readYear_yearText {year : Int} (h : -262143 ≤ year ∧ year ≤ 262142) (rest : List Char) :
    readYear (yearText year ++ '-' :: rest) = .ok (year, '-' :: rest) := by
  have hword : Int32.minValue.toInt ≤ year ∧ year ≤ Int32.maxValue.toInt := by
    have hmin : Int32.minValue.toInt = -2147483648 := rfl
    have hmax : Int32.maxValue.toInt = 2147483647 := rfl
    omega
  unfold yearText
  split
  · next hfour =>
    have hlength : (Nat.toDigits 10 year.natAbs).length ≤ 4 := by
      refine (Nat.length_toDigits_le_iff (by decide) (by decide)).mpr ?_
      show year.natAbs < 10000
      omega
    obtain ⟨c, cs, hcs⟩ := List.exists_cons_of_ne_nil (paddedText_ne_nil 4 year.natAbs)
    have hc : c.isDigit = true := isDigit_paddedText 4 year.natAbs c (hcs ▸ List.mem_cons_self)
    have hread := readNumber_paddedText hlength (by omega) ('-' :: rest)
    have htrim := trimStart_paddedText 4 year.natAbs ('-' :: rest)
    rw [hcs, List.cons_append] at hread htrim ⊢
    unfold readYear
    rw [htrim]
    split
    · next heq =>
      cases heq
      cases hc
    · next heq =>
      cases heq
      cases hc
    · rw [hread]
      show (if _ ∧ _ then Except.ok ((year.natAbs : Int), _) else _) = _
      rw [show (year.natAbs : Int) = year by omega, if_pos hword]
  · next hfour =>
    have hread : readNumber none (paddedText 4 year.natAbs ++ '-' :: rest) =
        .ok (year.natAbs, '-' :: rest) :=
      readNumber_paddedText_end (by rintro most ⟨⟩) (by omega) rfl rest
    split
    · next hneg =>
      show (readNumber none (paddedText 4 year.natAbs ++ '-' :: rest) >>= fun read =>
        if _ ∧ _ then Except.ok (-(read.1 : Int), read.2) else _) = _
      rw [hread]
      show (if _ ∧ _ then Except.ok (-(year.natAbs : Int), _) else _) = _
      rw [show -(year.natAbs : Int) = year by omega, if_pos hword]
    · next hneg =>
      show (readNumber none (paddedText 4 year.natAbs ++ '-' :: rest) >>= fun read =>
        if _ ∧ _ then Except.ok ((read.1 : Int), read.2) else _) = _
      rw [hread]
      show (if _ ∧ _ then Except.ok ((year.natAbs : Int), _) else _) = _
      rw [show (year.natAbs : Int) = year by omega, if_pos hword]

/-- A fraction of as many digits as are written counts for its nanoseconds. -/
theorem readNanosecond_fraction {width n : Nat} (hwidth : width ≤ 9)
    (h : (Nat.toDigits 10 n).length ≤ width) (hn : n < 1000000000) :
    readNanosecond ('.' :: paddedText width n ++ ['Z']) =
      .ok (n * Nat.pow 10 (9 - width), ['Z']) := by
  have hlength := length_paddedText h
  have hread : readNumber (some 9) (paddedText width n ++ ['Z']) = .ok (n, ['Z']) := by
    apply readNumber_paddedText_end _ (by omega) rfl
    rintro most ⟨⟩
    omega
  rw [List.cons_append]
  show (readNumber (some 9) (paddedText width n ++ ['Z']) >>= fun read =>
    pure (read.1 * Nat.pow 10 (9 - ((paddedText width n ++ ['Z']).length - read.2.length)),
      read.2.dropWhile Char.isDigit)) = _
  rw [hread]
  show Except.ok (n * Nat.pow 10 (9 - ((paddedText width n ++ ['Z']).length - 1)), ['Z']) = _
  rw [List.length_append, hlength]
  rfl

theorem readNanosecond_fractionText {n : Nat} (h : n < 1000000000) :
    readNanosecond (fractionText n ++ ['Z']) = .ok (n, ['Z']) := by
  unfold fractionText
  split
  · next hzero =>
    subst hzero
    rfl
  · split
    · next hmilli =>
      have hlength : (Nat.toDigits 10 (n / 1000000)).length ≤ 3 := by
        refine (Nat.length_toDigits_le_iff (by decide) (by decide)).mpr ?_
        show n / 1000000 < 1000
        omega
      rw [readNanosecond_fraction (by decide) hlength (by omega)]
      have hvalue : n / 1000000 * Nat.pow 10 (9 - 3) = n := by
        show n / 1000000 * 1000000 = n
        omega
      rw [hvalue]
    · split
      · next hmicro =>
        have hlength : (Nat.toDigits 10 (n / 1000)).length ≤ 6 := by
          refine (Nat.length_toDigits_le_iff (by decide) (by decide)).mpr ?_
          show n / 1000 < 1000000
          omega
        rw [readNanosecond_fraction (by decide) hlength (by omega)]
        have hvalue : n / 1000 * Nat.pow 10 (9 - 6) = n := by
          show n / 1000 * 1000 = n
          omega
        rw [hvalue]
      · have hlength : (Nat.toDigits 10 n).length ≤ 9 :=
          (Nat.length_toDigits_le_iff (by decide) (by decide)).mpr h
        rw [readNanosecond_fraction (by decide) hlength h]
        show Except.ok (n * 1, ['Z']) = _
        rw [Nat.mul_one]

/-! ## The whole -/

/-- At Greenwich a clock shows the point in time itself. -/
theorem fromOffset?_zero (t : Timestamp) : t.fromOffset? 0 = some t := by
  obtain ⟨date, hour, minute, second, nanosecond, hday⟩ := t
  have hshown : (((hour * 60 + minute - 0 : Int)) % 1440).toNat = hour * 60 + minute := by omega
  have hnext : ¬ ((hour * 60 + minute - 0 : Int) < 0) := by omega
  have hprevious : ¬ (1440 ≤ (hour * 60 + minute - 0 : Int)) := by omega
  have hhour : (hour * 60 + minute) / 60 = hour := by omega
  have hminute : (hour * 60 + minute) % 60 = minute := by omega
  simp only [fromOffset?, hnext, hprevious, if_false, Option.map_some, hshown, hhour, hminute]

theorem assemble_zero (t : Timestamp) :
    assemble t.date.year t.date.month t.date.day t.hour t.minute t.second t.nanosecond 0 = .ok t := by
  obtain ⟨⟨year, month, day, hyear, hmonth, hd⟩, hour, minute, second, nanosecond, hday⟩ := t
  have hdate : Date.of? year month day = some ⟨year, month, day, hyear, hmonth, hd⟩ :=
    dif_pos ⟨hyear, hmonth, hd⟩
  unfold assemble
  simp only [hdate]
  rw [dif_pos hday, if_pos (by decide), fromOffset?_zero]

/-- **A point in time is read back from its text.** -/
theorem parse_render (t : Timestamp) : parse t.render = .ok t := by
  have hmonth := t.date.monthInRange
  have hday : t.date.day ≤ 31 := by
    have hrange := t.date.dayInRange
    have hmost : daysInMonth t.date.year t.date.month ≤ 31 := by
      unfold daysInMonth
      split
      · split <;> decide
      · split <;> decide
    omega
  have htime := t.inDay
  have hdash : isBlank '-' = false := by decide
  have hcolon : isBlank ':' = false := by decide
  have hzone : readZone (trimStart ['Z']) = .ok (0, []) := rfl
  unfold parse render text Date.text
  simp only [String.toList_ofList, List.append_assoc, List.cons_append]
  refine bind_eq_ok.mpr ⟨_, readYear_yearText t.date.yearInRange _, ?_⟩
  refine bind_eq_ok.mpr ⟨_, readMark_cons hdash _, ?_⟩
  refine bind_eq_ok.mpr ⟨_, readField_paddedText hmonth.1 hmonth.2 (by omega) _, ?_⟩
  refine bind_eq_ok.mpr ⟨_, readMark_cons hdash _, ?_⟩
  refine bind_eq_ok.mpr ⟨_, readField_paddedText t.date.dayInRange.1 hday (by omega) _, ?_⟩
  refine bind_eq_ok.mpr ⟨_, rfl, ?_⟩
  refine bind_eq_ok.mpr ⟨_, readField_paddedText (Nat.zero_le _) (by omega) (by omega) _, ?_⟩
  refine bind_eq_ok.mpr ⟨_, readMark_cons hcolon _, ?_⟩
  refine bind_eq_ok.mpr ⟨_, readField_paddedText (Nat.zero_le _) (by omega) (by omega) _, ?_⟩
  refine bind_eq_ok.mpr ⟨_, readMark_cons hcolon _, ?_⟩
  refine bind_eq_ok.mpr ⟨_, readField_paddedText (Nat.zero_le _) htime.2.2.1 (by omega) _, ?_⟩
  refine bind_eq_ok.mpr ⟨_, readNanosecond_fractionText htime.2.2.2, ?_⟩
  refine bind_eq_ok.mpr ⟨_, hzone, ?_⟩
  exact assemble_zero t

end StationGateway.Timestamp
