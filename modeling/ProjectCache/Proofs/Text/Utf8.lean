/-
# ProjectCache.Proofs.Text.Utf8 — text is read back from its bytes.

The first byte of a character tells how many follow, and the ranges of first bytes do not overlap;
so the bytes of a character are read as that character whatever follows them
(`Utf8.readChar_encodeChar`). Text that is encoded therefore has no byte that belongs to no
character, and the filler does not matter (`Utf8.decode_encode`).
-/
import ProjectCache.Text.Utf8

namespace ProjectCache.Utf8

/-- The bytes of a character. -/
def encodeChar (c : Char) : List Nat := (String.utf8EncodeChar c).map UInt8.toNat

/-- The bytes of text. -/
def encode (text : String) : List Nat := text.toUTF8.data.toList.map UInt8.toNat

theorem encode_eq (text : String) : encode text = text.toList.flatMap encodeChar := by
  show text.toByteArray.data.toList.map UInt8.toNat = _
  rw [← String.utf8Encode_toList, List.utf8Encode, List.toList_data_toByteArray, List.map_flatMap]
  rfl

/-- A continuation byte is read as the six bits that it carries. -/
theorem continuation?_of_lt {n : Nat} (h : n < 64) : continuation? (n + 128) = some n := by
  rw [continuation?, if_pos (by omega)]
  simp

theorem toNat_ofNat_of_lt {n : Nat} (h : n < 256) : (UInt8.ofNat n).toNat = n :=
  Nat.mod_eq_of_lt h

/-- The bytes of a character, told by its code. -/
theorem encodeChar_eq (c : Char) : encodeChar c =
    if c.toNat < 0x80 then [c.toNat]
    else if c.toNat < 0x800 then [c.toNat / 64 + 0xc0, c.toNat % 64 + 128]
    else if c.toNat < 0x10000 then
      [c.toNat / 4096 + 0xe0, c.toNat / 64 % 64 + 128, c.toNat % 64 + 128]
    else [c.toNat / 262144 + 0xf0, c.toNat / 4096 % 64 + 128, c.toNat / 64 % 64 + 128,
      c.toNat % 64 + 128] := by
  have hvalid : c.toNat < 0xd800 ∨ 0xdfff < c.toNat ∧ c.toNat < 0x110000 := c.valid
  have hval : c.val.toNat = c.toNat := rfl
  rw [encodeChar, String.utf8EncodeChar, hval]
  generalize c.toNat = n at hvalid
  by_cases h1 : n < 0x80
  · rw [if_pos (by omega), if_pos h1]
    simp [toNat_ofNat_of_lt (show n < 256 by omega)]
  by_cases h2 : n < 0x800
  · rw [if_neg (by omega), if_pos (by omega), if_neg h1, if_pos h2]
    have hfirst : n / 64 % 32 = n / 64 := Nat.mod_eq_of_lt (by omega)
    simp only [List.map_cons, List.map_nil, hfirst]
    rw [toNat_ofNat_of_lt (by omega), toNat_ofNat_of_lt (by omega)]
  by_cases h3 : n < 0x10000
  · rw [if_neg (by omega), if_neg (by omega), if_pos (by omega), if_neg h1, if_neg h2, if_pos h3]
    have hfirst : n / 4096 % 16 = n / 4096 := Nat.mod_eq_of_lt (by omega)
    simp only [List.map_cons, List.map_nil, hfirst]
    rw [toNat_ofNat_of_lt (by omega), toNat_ofNat_of_lt (by omega), toNat_ofNat_of_lt (by omega)]
  · rw [if_neg (by omega), if_neg (by omega), if_neg (by omega), if_neg h1, if_neg h2, if_neg h3]
    have hfirst : n / 262144 % 8 = n / 262144 := Nat.mod_eq_of_lt (by omega)
    simp only [List.map_cons, List.map_nil, hfirst]
    rw [toNat_ofNat_of_lt (by omega), toNat_ofNat_of_lt (by omega), toNat_ofNat_of_lt (by omega),
      toNat_ofNat_of_lt (by omega)]

/-- The bytes of a character are read as the character. -/
theorem readChar_encodeChar (c : Char) (rest : List Nat) :
    readChar (encodeChar c ++ rest) = some (c, (encodeChar c).length) := by
  have hvalid : c.toNat < 0xd800 ∨ 0xdfff < c.toNat ∧ c.toNat < 0x110000 := c.valid
  have hc : Char.ofNat c.toNat = c := Char.ofNat_toNat c
  have hrest : ∀ m, m % 64 < 64 := fun m => Nat.mod_lt m (by decide)
  rw [encodeChar_eq]
  generalize c.toNat = n at hvalid hc
  -- the first byte decides how many follow, so each length is a case of its own
  by_cases h1 : n < 0x80
  · rw [if_pos h1]
    simp only [List.cons_append, List.nil_append, readChar]
    rw [if_pos h1, hc]
    rfl
  by_cases h2 : n < 0x800
  · rw [if_neg h1, if_pos h2]
    simp only [List.cons_append, List.nil_append, readChar, continuation?_of_lt (hrest _)]
    rw [if_neg (by omega), if_pos (by omega)]
    have hcode : n / 64 * 64 + n % 64 = n := by omega
    simp only [Nat.add_sub_cancel, Option.bind_eq_bind, Option.bind_some, hcode, hc]
    rfl
  by_cases h3 : n < 0x10000
  · rw [if_neg h1, if_neg h2, if_pos h3]
    simp only [List.cons_append, List.nil_append, readChar, continuation?_of_lt (hrest _)]
    rw [if_neg (by omega), if_neg (by omega), if_pos (by omega)]
    have hcode : (n / 4096 * 64 + n / 64 % 64) * 64 + n % 64 = n := by omega
    have hplain : ¬ (n < 0x800 ∨ 0xd800 ≤ n ∧ n < 0xe000) := by omega
    simp only [Nat.add_sub_cancel, Option.bind_eq_bind, Option.bind_some, hcode, hc, if_neg hplain]
    rfl
  · rw [if_neg h1, if_neg h2, if_neg h3]
    simp only [List.cons_append, List.nil_append, readChar, continuation?_of_lt (hrest _)]
    rw [if_neg (by omega), if_neg (by omega), if_neg (by omega), if_pos (by omega)]
    have hcode : ((n / 262144 * 64 + n / 4096 % 64) * 64 + n / 64 % 64) * 64 + n % 64 = n := by
      omega
    have hplain : ¬ (n < 0x10000 ∨ 0x110000 ≤ n) := by omega
    simp only [Nat.add_sub_cancel, Option.bind_eq_bind, Option.bind_some, hcode, hc, if_neg hplain]
    rfl

theorem decodeFrom_flatMap (filler : Char) (cs : List Char) {fuel : Nat}
    (h : cs.length ≤ fuel) : decodeFrom filler fuel (cs.flatMap encodeChar) = cs := by
  induction cs generalizing fuel with
  | nil => cases fuel <;> rfl
  | cons c cs ih =>
    cases fuel with
    | zero => cases h
    | succ fuel =>
      have hread := readChar_encodeChar c (cs.flatMap encodeChar)
      rw [List.flatMap_cons]
      cases hbytes : encodeChar c ++ cs.flatMap encodeChar with
      | nil => simp [hbytes, readChar] at hread
      | cons a rest =>
        rw [hbytes] at hread
        simp only [decodeFrom, hread]
        rw [← hbytes, List.drop_left, ih (Nat.le_of_succ_le_succ h)]

theorem length_le_flatMap (cs : List Char) : cs.length ≤ (cs.flatMap encodeChar).length := by
  induction cs with
  | nil => exact Nat.le_refl 0
  | cons c cs ih =>
    have hpos : 0 < (encodeChar c).length := by
      rw [encodeChar, List.length_map, String.length_utf8EncodeChar]
      exact Char.utf8Size_pos c
    rw [List.flatMap_cons, List.length_append, List.length_cons]
    omega

/-- Text is read back from its bytes, whatever the filler. -/
theorem decode_encode (filler : Char) (text : String) :
    decode filler (encode text) = text.toList := by
  rw [decode, encode_eq]
  exact decodeFrom_flatMap filler text.toList (length_le_flatMap text.toList)

end ProjectCache.Utf8
