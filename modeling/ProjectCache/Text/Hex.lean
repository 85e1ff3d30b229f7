/-
# ProjectCache.Text.Hex — hexadecimal digits.

Digits are read in either case and written in lower case; reading a written digit gives it back
(`Hex.value?_digit`).
-/
namespace ProjectCache.Hex

/-- The value of the last digit of a number. -/
def lastDigit (n : Nat) : Fin 16 := ⟨n % 16, Nat.mod_lt n (by decide)⟩

/-- The value of a hexadecimal digit of either case. -/
def value? (c : Char) : Option (Fin 16) :=
  if '0' ≤ c ∧ c ≤ '9' then some (lastDigit (c.toNat - '0'.toNat))
  else if 'a' ≤ c ∧ c ≤ 'f' then some (lastDigit (c.toNat - 'a'.toNat + 10))
  else if 'A' ≤ c ∧ c ≤ 'F' then some (lastDigit (c.toNat - 'A'.toNat + 10))
  else none

/-- The digit of a value, in lower case. -/
def digit (n : Fin 16) : Char := Nat.digitChar n.val

theorem value?_digit : ∀ n : Fin 16, value? (digit n) = some n := by
  decide

end ProjectCache.Hex
