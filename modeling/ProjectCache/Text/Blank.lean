/-
# ProjectCache.Text.Blank — white space.

The characters with the property White_Space, which may surround the parts of a date.
-/
namespace ProjectCache.Text

/-- Is a character white space? -/
def isBlank (c : Char) : Bool :=
  let n := c.toNat
  (0x9 ≤ n && n ≤ 0xd) || n = 0x20 || n = 0x85 || n = 0xa0 || n = 0x1680
    || (0x2000 ≤ n && n ≤ 0x200a) || n = 0x2028 || n = 0x2029 || n = 0x202f || n = 0x205f
    || n = 0x3000

/-- Drops white space from the front. -/
def trimStart (cs : List Char) : List Char := cs.dropWhile isBlank

end ProjectCache.Text
