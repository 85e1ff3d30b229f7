/-
# ProjectCache.Proofs.Uuid — identifiers are read back from their text.

The groups are read in the sizes in which they were written (`Uuid.readGroups_writeGroups`). The
text begins with a digit and is longer than the digits alone, so none of the other three forms is
taken for it (`Uuid.ofText_text`).
-/
import ProjectCache.Uuid

namespace ProjectCache.Uuid

theorem readDigits_map (ds : List (Fin 16)) (cs : List Char) :
    readDigits ds.length (ds.map Hex.digit ++ cs) = some (ds, cs) := by
  induction ds with
  | nil => rfl
  | cons d ds ih =>
    rw [List.length_cons, List.map_cons, List.cons_append, readDigits, Hex.value?_digit, ih]
    rfl

theorem readDigits_take {n : Nat} {ds : List (Fin 16)} (h : n ≤ ds.length) (cs : List Char) :
    readDigits n ((ds.take n).map Hex.digit ++ cs) = some (ds.take n, cs) := by
  have hread := readDigits_map (ds.take n) cs
  rwa [List.length_take, Nat.min_eq_left h] at hread

/-- Groups are read in the sizes in which they were written. -/
theorem readGroups_writeGroups {ns : List Nat} {ds : List (Fin 16)}
    (h : ds.length = ns.foldr (· + ·) 0) : readGroups ns (writeGroups ns ds) = some (ds, []) := by
  induction ns generalizing ds with
  | nil =>
    rw [List.length_eq_zero_iff.1 h]
    rfl
  | cons n ns ih =>
    rw [List.foldr_cons] at h
    have hread := readDigits_take (show n ≤ ds.length by omega)
    cases ns with
    | nil =>
      have hall : ds.take n = ds := List.take_of_length_le (Nat.le_of_eq h)
      have hlast := hread []
      rw [List.append_nil] at hlast
      rw [writeGroups, readGroups, hlast, hall]
    | cons m ns =>
      have hlength : (ds.drop n).length = (m :: ns).foldr (· + ·) 0 := by
        rw [List.length_drop]
        omega
      have hrest := ih hlength
      simp only [writeGroups, readGroups, hread, hrest, Option.map_some, List.take_append_drop]

/-- No digit begins one of the other forms. -/
theorem digit_ne_mark : ∀ d : Fin 16, Hex.digit d ≠ '\x7b' ∧ (Hex.digit d).toLower ≠ 'u' := by
  decide

/-- The text of an identifier is read as the identifier. -/
theorem ofText_text (uuid : Uuid) : ofText uuid.text = .ok uuid := by
  obtain ⟨ds, hsize⟩ := uuid
  have hlength : (writeGroups groups ds).length = 36 := by
    simp [writeGroups, groups, hsize]
  have hread : ofDigits? (readGroups groups (writeGroups groups ds)) = some ⟨ds, hsize⟩ := by
    rw [readGroups_writeGroups hsize]
    exact dif_pos hsize
  cases ds with
  | nil => cases hsize
  | cons d ds =>
    obtain ⟨hbrace, hname⟩ := digit_ne_mark d
    obtain ⟨more, htext⟩ : ∃ more, writeGroups groups (d :: ds) = Hex.digit d :: more := ⟨_, rfl⟩
    have hbraces : insideBraces? (writeGroups groups (d :: ds)) = none := by
      rw [htext, insideBraces?]
      exact fun rest heq => hbrace (List.cons.inj heq).1
    have hurn : afterUrn? (writeGroups groups (d :: ds)) = none := by
      rw [htext, afterUrn?, if_neg]
      exact fun heq => hname (List.cons.inj heq).1
    have hform : ¬ (writeGroups groups (d :: ds)).length = 32 := by
      rw [hlength]
      decide
    rw [ofText, text, String.toList_ofList, ofChars?, if_neg hform, hbraces, hurn, hread]

end ProjectCache.Uuid
