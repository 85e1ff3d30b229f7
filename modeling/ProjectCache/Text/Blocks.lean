/-
# ProjectCache.Text.Blocks — classes of characters by their codes.

A class of characters is a list of blocks of codes, each with its first and last code. The blocks
are in ascending order and apart from each other, so a search can stop early (`inBlocks`).
-/
namespace ProjectCache.Text

/-- Blocks of codes, each with its first and last code. -/
abbrev Blocks := List (Nat × Nat)

/-- Is a code in one of the blocks? -/
def inBlocks (code : Nat) : Blocks → Bool
  | [] => false
  | (low, high) :: rest => low ≤ code && (code ≤ high || inBlocks code rest)

end ProjectCache.Text
