/-
# ProjectCache.Proofs.Instant — points in time are read back from their text.

Each field is written in as many digits as its bound has, and the mark after it is no digit; so a
field is read up to that mark (`Instant.readNumber_padded`). The fraction is written in 0, 3, 6 or 9
digits, and is read by how many there are (`Instant.readFraction_fractionChars`).
-/
import ProjectCache.Instant

namespace ProjectCache.Instant

/-- The instant is a date of the calendar in the years that are written without a sign, and a time
of day outside a leap second. -/
structure Plain (t : Instant) : Prop where
  /-- The year is written without a sign. -/
  year : 0 ≤ t.year ∧ t.year ≤ 9999
  /-- The month is one of the twelve. -/
  month : 1 ≤ t.month ∧ t.month ≤ 12
  /-- The month has the day. -/
  day : 1 ≤ t.day ∧ t.day ≤ daysIn t.year t.month
  /-- The day has the hour. -/
  hour : t.hour ≤ 23
  /-- The hour has the minute. -/
  minute : t.minute ≤ 59
  /-- The minute has the second, without a leap second. -/
  second : t.second ≤ 59
  /-- The second has the nanosecond. -/
  nano : t.nano < 1000000000

theorem daysIn_le (year : Int) (month : Nat) : daysIn year month ≤ 31 := by
  unfold daysIn
  split
  · split <;> decide
  · split <;> decide

/-! ## Padded numbers -/

theorem isDigit_of_mem_padded {width n : Nat} {c : Char} (h : c ∈ padded width n) :
    c.isDigit = true := by
  rcases List.mem_append.1 h with h | h
  · rw [List.eq_of_mem_replicate h]
    rfl
  · exact Nat.isDigit_of_mem_toDigits (by decide) (by decide) h

theorem length_padded {width n : Nat} (hwidth : 0 < width) (hn : n < Nat.pow 10 width) :
    (padded width n).length = width := by
  have hlength := (Nat.length_toDigits_le_iff (by decide : 1 < 10) hwidth).2 hn
  rw [padded, List.length_append, List.length_replicate]
  omega

/-- The leading zeros do not count. -/
theorem foldl_padded (width n : Nat) :
    (padded width n).foldl (fun m c => m * 10 + digitValue c) 0 = n := by
  have hfold : (fun m c => m * 10 + digitValue c)
      = fun (m : Nat) (c : Char) => 10 * m + (c.toNat - '0'.toNat) := by
    funext m c
    rw [digitValue, Nat.mul_comm]
  rw [hfold, ← Nat.ofDigitChars_eq_foldl, padded, Nat.ofDigitChars_append,
    Nat.ofDigitChars_replicate_zero, Nat.mul_zero, Nat.ofDigitChars_ten_toDigits]

theorem takeWhile_take_append {ds : List Char} (hds : ∀ d ∈ ds, d.isDigit = true) {c : Char}
    (hc : c.isDigit = false) {limit : Nat} (hlimit : ds.length ≤ limit) (cs : List Char) :
    ((ds ++ c :: cs).take limit).takeWhile Char.isDigit = ds := by
  rw [List.take_append, List.take_of_length_le hlimit, List.takeWhile_append_of_pos hds]
  cases limit - ds.length with
  | zero => exact List.append_nil ds
  | succ n =>
    rw [List.take_succ_cons, List.takeWhile_cons, hc]
    exact List.append_nil ds

theorem padded_eq_cons (width n : Nat) :
    ∃ d ds, padded width n = d :: ds ∧ d.isDigit = true := by
  cases htext : padded width n with
  | nil => exact absurd (List.append_eq_nil_iff.1 htext).2 Nat.toDigits_ne_nil
  | cons d ds => exact ⟨d, ds, rfl, isDigit_of_mem_padded (htext ▸ List.mem_cons_self)⟩

theorem isBlank_of_isDigit {c : Char} (h : c.isDigit = true) : Text.isBlank c = false := by
  have hbounds : 48 ≤ c.toNat ∧ c.toNat ≤ 57 := Char.isDigit_iff_toNat.1 h
  simp only [Text.isBlank, Bool.or_eq_false_iff, Bool.and_eq_false_iff, decide_eq_false_iff_not]
  omega

theorem trimStart_padded (width n : Nat) (cs : List Char) :
    Text.trimStart (padded width n ++ cs) = padded width n ++ cs := by
  obtain ⟨d, ds, htext, hd⟩ := padded_eq_cons width n
  rw [htext, List.cons_append, Text.trimStart, List.dropWhile_cons, isBlank_of_isDigit hd]
  rfl

/-- A padded number is read up to the mark that follows it. -/
theorem readNumber_padded {width n limit : Nat} (hwidth : 0 < width) (hn : n < Nat.pow 10 width)
    (hlimit : width ≤ limit) (hnine : limit ≤ 9) {c : Char} (hc : c.isDigit = false)
    (cs : List Char) :
    readNumber (some limit) (padded width n ++ c :: cs) = .ok (n, c :: cs) := by
  have hlength := length_padded hwidth hn
  have hdigits := takeWhile_take_append (fun d => isDigit_of_mem_padded) hc
    (hlength.symm ▸ hlimit : (padded width n).length ≤ limit) cs
  have hsome : (padded width n).isEmpty = false := by
    obtain ⟨d, ds, htext, -⟩ := padded_eq_cons width n
    rw [htext]
    rfl
  have hfits : n < Word.count 63 :=
    calc n < Nat.pow 10 width := hn
      _ ≤ Nat.pow 10 9 := Nat.pow_le_pow_right (by decide) (Nat.le_trans hlimit hnine)
      _ < Word.count 63 := by decide
  simp only [readNumber, hdigits, hsome, foldl_padded]
  rw [if_neg Bool.false_ne_true, if_neg (Nat.not_le.2 hfits), List.drop_left]

/-! ## Fields -/

theorem readField_padded {low high n : Nat} (hlow : low ≤ n) (hhigh : n ≤ high) (hn : n < 100)
    {c : Char} (hc : c.isDigit = false) (cs : List Char) :
    readField low high (padded 2 n ++ c :: cs) = .ok (n, c :: cs) := by
  have hread := readNumber_padded (by decide : 0 < 2) hn (Nat.le_refl 2) (by decide) hc cs
  have hbounds : ¬ (n < low ∨ high < n) := by omega
  rw [readField, trimStart_padded, hread]
  exact if_neg hbounds

theorem readYear_yearChars {year : Int} (h : 0 ≤ year ∧ year ≤ 9999) (cs : List Char) :
    readYear (yearChars year ++ '-' :: cs) = .ok (year, '-' :: cs) := by
  have hread := readNumber_padded (by decide : 0 < 4) (show year.toNat < 10000 by omega)
    (Nat.le_refl 4) (by decide) (by decide : '-'.isDigit = false) cs
  obtain ⟨d, ds, htext, hd⟩ := padded_eq_cons 4 year.toNat
  have hyear : (year.toNat : Int) = year := Int.toNat_of_nonneg h.1
  rw [yearChars, if_pos h, readYear, trimStart_padded]
  rw [htext, List.cons_append] at hread ⊢
  split
  · rename_i heq
    cases heq
    cases hd
  · rename_i heq
    cases heq
    cases hd
  · rw [hread]
    show Except.ok ((year.toNat : Int), '-' :: cs) = _
    rw [hyear]

/-- The digits of a fraction are read for what they stand for. -/
theorem readFraction_padded {width n nano : Nat} (hwidth : 0 < width) (hnine : width ≤ 9)
    (hn : n < Nat.pow 10 width) (hvalue : n * Nat.pow 10 (9 - width) = nano) :
    readFraction ('.' :: (padded width n ++ ['Z'])) = .ok (nano, ['Z']) := by
  have hread := readNumber_padded hwidth hn hnine (Nat.le_refl 9) (by decide : 'Z'.isDigit = false)
    []
  have hplaces : (padded width n ++ ['Z']).length - ['Z'].length = width := by
    rw [List.length_append, length_padded hwidth hn]
    exact Nat.add_sub_cancel _ _
  rw [readFraction, hread]
  show Except.ok (n * Nat.pow 10 (9 - ((padded width n ++ ['Z']).length - ['Z'].length)), ['Z']) = _
  rw [hplaces, hvalue]

/-- The fraction of a second is read back, in whichever number of digits it was written. -/
theorem readFraction_fractionChars {nano : Nat} (h : nano < 1000000000) :
    readFraction (fractionChars nano ++ ['Z']) = .ok (nano, ['Z']) := by
  unfold fractionChars
  split
  · subst_vars
    rfl
  split
  · exact readFraction_padded (by decide) (by decide) (show nano / 1000000 < 1000 by omega)
      (show nano / 1000000 * 1000000 = nano by omega)
  split
  · exact readFraction_padded (by decide) (by decide) (show nano / 1000 < 1000000 by omega)
      (show nano / 1000 * 1000 = nano by omega)
  · exact readFraction_padded (by decide) (by decide) h (Nat.mul_one nano)

theorem readMark_cons {mark : Char} (h : Text.isBlank mark = false) (cs : List Char) :
    readMark mark (mark :: cs) = .ok cs := by
  rw [readMark, Text.trimStart, List.dropWhile_cons, h]
  exact if_pos rfl

theorem fractionChars_eq_cons (nano : Nat) :
    ∃ c more, fractionChars nano ++ ['Z'] = c :: more ∧ c.isDigit = false := by
  unfold fractionChars
  split
  · exact ⟨'Z', [], rfl, by decide⟩
  split
  · exact ⟨'.', _, rfl, by decide⟩
  split
  · exact ⟨'.', _, rfl, by decide⟩
  · exact ⟨'.', _, rfl, by decide⟩

/-! ## Instants -/

theorem bind_of_eq_ok {α β : Type} {x : Except Fault α} {a : α} {f : α → Except Fault β}
    (h : x = .ok a) : (x >>= f) = f a :=
  h ▸ rfl

/-- The text of an instant is read as the instant. -/
theorem ofText_text {t : Instant} (h : t.Plain) : ofText t.text = .ok t := by
  obtain ⟨hyear, hmonth, hday, hhour, hminute, hsecond, hnano⟩ := h
  have hdays := daysIn_le t.year t.month
  have hrange : ¬ (t.year < minYear ∨ maxYear < t.year) := by
    rw [minYear, maxYear]
    omega
  have hcalendar : ¬ (t.year < minYear ∨ maxYear < t.year ∨ daysIn t.year t.month < t.day) := by
    rw [minYear, maxYear]
    omega
  obtain ⟨c, more, hfraction, hc⟩ := fractionChars_eq_cons t.nano
  have hnanos := readFraction_fractionChars hnano
  rw [hfraction] at hnanos
  rw [ofText, text, String.toList_ofList, chars, ofChars, hfraction]
  refine (bind_of_eq_ok (readYear_yearChars hyear _)).trans ?_
  refine (bind_of_eq_ok (readMark_cons (by decide) _)).trans ?_
  refine (bind_of_eq_ok (readField_padded hmonth.1 hmonth.2 (by omega) (by decide) _)).trans ?_
  refine (bind_of_eq_ok (readMark_cons (by decide) _)).trans ?_
  refine (bind_of_eq_ok (readField_padded hday.1 (by omega) (by omega) (by decide) _)).trans ?_
  refine (bind_of_eq_ok (rfl : readSeparator ('T' :: _) = .ok _)).trans ?_
  refine (bind_of_eq_ok (readField_padded (Nat.zero_le _) hhour (by omega) (by decide) _)).trans ?_
  refine (bind_of_eq_ok (readMark_cons (by decide) _)).trans ?_
  refine (bind_of_eq_ok
    (readField_padded (Nat.zero_le _) hminute (by omega) (by decide) _)).trans ?_
  refine (bind_of_eq_ok (readMark_cons (by decide) _)).trans ?_
  refine (bind_of_eq_ok (readField_padded (Nat.zero_le _) (by omega) (by omega) hc _)).trans ?_
  refine (bind_of_eq_ok hnanos).trans ?_
  refine (bind_of_eq_ok (rfl : readOffset (Text.trimStart ['Z']) = .ok (0, []))).trans ?_
  -- with no offset the time is told in UTC as it stands
  refine (if_neg Bool.false_ne_true).trans ?_
  refine (if_neg (by decide)).trans ?_
  refine (if_neg hcalendar).trans ?_
  exact if_neg hrange

end ProjectCache.Instant
