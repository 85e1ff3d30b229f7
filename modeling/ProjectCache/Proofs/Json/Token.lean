/-
# ProjectCache.Proofs.Json.Token — strings and integers are read back as they were written.

A string is read up to the quote that closes it: a quote inside is escaped, and each character is
read from its escaped form alone (`Json.readChars_escapeChar`). A number has no end of its own, so
it is read back when what follows does not go on with it (`Json.Ends`).
-/
import ProjectCache.Json.Reader
import ProjectCache.Json.Writer

namespace ProjectCache.Json

/-! ## Strings -/

/-- The last two digits of a code below 256. -/
theorem readHex4_of_lt {n : Nat} (h : n < 256) (cs : List Char) :
    readHex4 ('0' :: '0' :: Hex.digit (Hex.lastDigit (n / 16)) :: Hex.digit (Hex.lastDigit n) :: cs)
      = some (n, cs) := by
  have hzero : Hex.value? '0' = some 0 := by decide
  simp only [readHex4, Hex.value?_digit, hzero, Option.bind_eq_bind, Option.bind_some]
  have hn : ((0 * 16 + 0) * 16 + n / 16 % 16) * 16 + n % 16 = n := by omega
  exact congrArg (fun m => some (m, cs)) hn

theorem readUnicode_of_lt {c : Char} (h : c.toNat < 0x20) (cs : List Char) :
    readUnicode ('0' :: '0' :: Hex.digit (Hex.lastDigit (c.toNat / 16))
      :: Hex.digit (Hex.lastDigit c.toNat) :: cs) = some (c, cs) := by
  rw [readUnicode, readHex4_of_lt (by omega)]
  simp only [Option.bind_eq_bind, Option.bind_some]
  rw [if_neg (by omega), if_neg (by omega), Char.ofNat_toNat]

/-- A character is read back from its escaped form. -/
theorem readChars_escapeChar (fuel : Nat) (c : Char) (cs : List Char) :
    readChars (fuel + 1) (escapeChar c ++ cs)
      = (readChars fuel cs).map fun (ds, rest) => (c :: ds, rest) := by
  unfold escapeChar
  split
  · subst_vars
    rfl
  split
  · subst_vars
    rfl
  split
  · subst_vars
    rfl
  split
  · subst_vars
    rfl
  split
  · subst_vars
    rfl
  split
  · subst_vars
    rfl
  split
  · subst_vars
    rfl
  split
  · rename_i hcontrol
    rw [readChars.eq_def]
    simp only [List.cons_append, List.nil_append, Char.reduceEq, if_false, if_true,
      readUnicode_of_lt hcontrol]
  · rename_i hquote hbackslash _ _ _ _ _ hplain
    rw [List.singleton_append, readChars.eq_def]
    simp only [if_neg hquote, if_neg hbackslash, if_neg hplain]

theorem readChars_flatMap (ds cs : List Char) {fuel : Nat} (h : ds.length < fuel) :
    readChars fuel (ds.flatMap escapeChar ++ '"' :: cs) = some (ds, cs) := by
  induction ds generalizing fuel with
  | nil =>
    cases fuel with
    | zero => cases h
    | succ fuel => rfl
  | cons d ds ih =>
    cases fuel with
    | zero => cases h
    | succ fuel =>
      rw [List.flatMap_cons, List.append_assoc, readChars_escapeChar,
        ih (Nat.lt_of_succ_lt_succ h)]
      rfl

theorem length_le_flatMap_escapeChar (ds : List Char) :
    ds.length ≤ (ds.flatMap escapeChar).length := by
  induction ds with
  | nil => exact Nat.le_refl 0
  | cons d ds ih =>
    have hpos : 0 < (escapeChar d).length := by
      unfold escapeChar
      iterate 8 split; exact Nat.zero_lt_succ _
      exact Nat.zero_lt_succ _
    rw [List.flatMap_cons, List.length_append, List.length_cons]
    omega

/-- A string is read back up to its closing quote. -/
theorem readString_quote (s : String) (cs : List Char) :
    readString (s.toList.flatMap escapeChar ++ '"' :: cs) = some (s, cs) := by
  have hlength := length_le_flatMap_escapeChar s.toList
  rw [readString, readChars_flatMap _ _ (by rw [List.length_append]; omega)]
  exact congrArg (fun text => some (text, cs)) String.ofList_toList

/-! ## Integers -/

/-- What follows does not go on with a number. -/
def Ends (cs : List Char) : Prop :=
  ∀ c ∈ cs.head?, c.isDigit = false ∧ c ≠ '.' ∧ c ≠ 'e' ∧ c ≠ 'E'

theorem ofDigitChars_le (ds : List Char) (n : Nat) : n ≤ Nat.ofDigitChars 10 ds n := by
  induction ds generalizing n with
  | nil => exact Nat.le_refl n
  | cons d ds ih =>
    rw [Nat.ofDigitChars_cons]
    exact Nat.le_trans (by omega) (ih _)

/-- The digits of a number that fits are read as the number. -/
theorem wholeDigits_append {ds cs : List Char} (hdigits : ∀ d ∈ ds, d.isDigit) (hcs : Ends cs)
    {n : Nat} (hn : Nat.ofDigitChars 10 ds n < significandBound) :
    wholeDigits n 0 (ds ++ cs) = (Nat.ofDigitChars 10 ds n, 0, cs) := by
  induction ds generalizing n with
  | nil =>
    cases cs with
    | nil => rfl
    | cons c cs =>
      have hc : c.isDigit = false := (hcs c rfl).1
      simp [wholeDigits, hc]
  | cons d ds ih =>
    have hd : d.isDigit = true := hdigits d List.mem_cons_self
    have hlonger : n * 10 + digitValue d = 10 * n + (d.toNat - '0'.toNat) := by
      rw [Nat.mul_comm, digitValue]
    rw [Nat.ofDigitChars_cons, ← hlonger] at hn ⊢
    have hfits : n * 10 + digitValue d < significandBound :=
      Nat.lt_of_le_of_lt (ofDigitChars_le ds _) hn
    rw [List.cons_append, wholeDigits, if_pos hd, if_pos ⟨rfl, hfits⟩]
    exact ih (fun e he => hdigits e (List.mem_cons_of_mem d he)) hn

/-- The first digit of a number is a zero only if the number is. -/
theorem toDigits_eq_cons {n : Nat} (h : 0 < n) :
    ∃ d ds, Nat.toDigits 10 n = d :: ds ∧ d ≠ '0' := by
  induction n using Nat.strongRecOn with
  | _ n ih =>
    by_cases hn : n < 10
    · refine ⟨n.digitChar, [], Nat.toDigits_of_lt_base hn, ?_⟩
      have hdigits : ∀ m < 10, 0 < m → m.digitChar ≠ '0' := by decide
      exact hdigits n hn h
    · obtain ⟨d, ds, hdigits, hd⟩ := ih (n / 10) (by omega) (by omega)
      refine ⟨d, ds ++ [(n % 10).digitChar], ?_, hd⟩
      rw [Nat.toDigits_of_base_le (by decide) (by omega), hdigits]
      rfl

theorem isDigit_of_mem_toDigits {n : Nat} {d : Char} (h : d ∈ Nat.toDigits 10 n) : d.isDigit :=
  Nat.isDigit_of_mem_toDigits (by decide) (by decide) h

/-- The significand and what follows it, once all the digits have been read. -/
theorem significand_toDigits {n : Nat} {cs : List Char} (hcs : Ends cs)
    (hn : n < significandBound) :
    ∃ first more, Nat.toDigits 10 n ++ cs = first :: more ∧ first.isDigit = true ∧
      (if first = '0' then (0, 0, more) else wholeDigits 0 0 (first :: more)) = (n, 0, cs) := by
  rcases Nat.eq_zero_or_pos n with rfl | hpos
  · exact ⟨'0', cs, rfl, rfl, rfl⟩
  · obtain ⟨d, ds, hdigits, hd⟩ := toDigits_eq_cons hpos
    have hvalue : Nat.ofDigitChars 10 (Nat.toDigits 10 n) 0 = n := Nat.ofDigitChars_ten_toDigits
    have hwhole := wholeDigits_append (fun d hd => isDigit_of_mem_toDigits hd) hcs
      (hvalue.symm ▸ hn : Nat.ofDigitChars 10 (Nat.toDigits 10 n) 0 < significandBound)
    rw [hvalue, hdigits] at hwhole
    refine ⟨d, ds ++ cs, by rw [hdigits]; rfl, ?_, ?_⟩
    · exact isDigit_of_mem_toDigits (hdigits ▸ List.mem_cons_self)
    · rw [if_neg hd]
      exact hwhole

/-- A number whose sign has been read. -/
theorem readUnsigned_toDigits (negative : Bool) {n : Nat} {cs : List Char} (hcs : Ends cs)
    (hn : n < significandBound) :
    readUnsigned negative (Nat.toDigits 10 n ++ cs) = some (integerNumeral negative n, cs) := by
  obtain ⟨first, more, htext, hfirst, hread⟩ := significand_toDigits hcs hn
  rw [htext]
  simp only [readUnsigned, hfirst, hread, Bool.not_true, if_neg Bool.false_ne_true]
  cases cs with
  | nil => rfl
  | cons c after =>
    obtain ⟨hc, hpoint, he, hE⟩ := hcs c rfl
    split
    · rename_i heq
      cases heq
      exact absurd rfl hpoint
    · rename_i heq
      cases heq
      simp [hc, he, hE]
    · rename_i heq
      cases heq

theorem readNumber_of_isDigit {c : Char} (h : c.isDigit = true) (cs : List Char) :
    readNumber (c :: cs) = readUnsigned false (c :: cs) := by
  unfold readNumber
  split
  · rename_i heq
    cases heq
    cases h
  · rfl

/-- An integer that is kept as itself is read back. -/
theorem readNumber_intChars {n : Int} {cs : List Char} (hcs : Ends cs)
    (hn : -(Word.count 63 : Int) ≤ n ∧ n < (Word.count 64 : Int)) :
    readNumber (intChars n ++ cs) = some (.int n, cs) := by
  have hcount : Word.count 63 < Word.count 64 := by decide
  have hbound : n.natAbs < significandBound := by
    rw [significandBound]
    omega
  rw [intChars]
  split
  · rename_i hneg
    rw [List.cons_append, readNumber, readUnsigned_toDigits true hcs hbound, integerNumeral,
      if_pos rfl, if_pos (by omega)]
    have hvalue : -(n.natAbs : Int) = n := by omega
    rw [hvalue]
  · rename_i hnonneg
    obtain ⟨first, more, htext, hfirst, -⟩ := significand_toDigits hcs hbound
    have hread := readUnsigned_toDigits false hcs hbound
    rw [htext] at hread ⊢
    rw [readNumber_of_isDigit hfirst, hread, integerNumeral, if_neg Bool.false_ne_true]
    have hvalue : (n.natAbs : Int) = n := by omega
    rw [hvalue]

end ProjectCache.Json
