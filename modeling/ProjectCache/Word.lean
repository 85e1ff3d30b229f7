/-
# ProjectCache.Word — how many numbers fit into machine words.

Counts, sizes and the seconds of a clock are words of 31, 32, 63 or 64 bits. They are kept as
natural numbers or integers, and what does not fit is refused or rounded where it is read.
-/
namespace ProjectCache

/-- How many values a word of so many bits has. -/
def Word.count (bits : Nat) : Nat := Nat.pow 2 bits

end ProjectCache
