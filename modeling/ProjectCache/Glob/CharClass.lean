/-
# ProjectCache.Glob.CharClass — the bracket classes of glob patterns.

Between the brackets stand single characters and ranges `a-z`. Hyphens at the front, and one at the
end, stand for themselves. `&&`, `--` and `~~` form the intersection, the difference and the
symmetric difference of what stands to their left and right, from left to right. A leading `^` or
`!` takes the complement of the whole. Operators nest to the left, and a class whose operators nest
too deeply is refused.
-/
namespace ProjectCache.Glob

/-- How two sets of characters are combined. -/
inductive SetOp where
  | inter
  | diff
  | symmDiff
  deriving DecidableEq, Repr

/-- A set of characters: ranges, or a combination of sets. -/
inductive CharSet where
  | ranges (bounds : List (Char × Char))
  | combine (op : SetOp) (left right : CharSet)
  deriving DecidableEq, Repr

namespace CharSet

/-- Is a character in the set? -/
def contains : CharSet → Char → Bool
  | .ranges bounds, c => bounds.any fun (low, high) => low ≤ c && c ≤ high
  | .combine .inter l r, c => l.contains c && r.contains c
  | .combine .diff l r, c => l.contains c && ! r.contains c
  | .combine .symmDiff l r, c => l.contains c != r.contains c

/-- How deep a set nests: a single range not at all, and each list of ranges and each combination
by one level more than what is in it. -/
def depth : CharSet → Nat
  | .ranges bounds => if bounds.length ≤ 1 then 0 else 1
  | .combine _ left right => max left.depth right.depth + 1

/-- How deep a set may nest. -/
def maxDepth : Nat := 248

end CharSet

/-- A bracket class. -/
structure CharClass where
  /-- Does the class hold the characters that are not listed? -/
  negated : Bool
  /-- The characters that are listed. -/
  listed : CharSet
  deriving DecidableEq, Repr

namespace CharClass

/-- Is a character in the class? -/
def contains (cls : CharClass) (c : Char) : Bool :=
  cls.listed.contains c != cls.negated

/-- The characters at the end of what has been read whose part is not decided yet. -/
inductive Pending where
  | nothing
  | char (c : Char)
  | charAndHyphen (c : Char)

/-- What has been read of a class: the set to the left of the last operator, if there was one, the
ranges since, the latest first, and what is pending. -/
structure Partial where
  /-- The left side and the operator. -/
  left : Option (CharSet × SetOp)
  /-- The ranges of the right side. -/
  ranges : List (Char × Char)
  /-- The end of what has been read. -/
  pending : Pending

namespace Partial

/-- Adds a range, and leaves something pending. -/
def add (p : Partial) (low high : Char) (pending : Pending) : Partial :=
  { p with ranges := (low, high) :: p.ranges, pending }

/-- The set that has been read, what is pending apart. -/
def decided (p : Partial) : CharSet :=
  let right := CharSet.ranges p.ranges.reverse
  match p.left with
  | some (left, op) => .combine op left right
  | none => right

/-- Starts the right side of an operator. -/
def operator (p : Partial) (op : SetOp) : Partial := ⟨some (p.decided, op), [], .nothing⟩

/-- Reads one character. A range whose ends are out of order is refused. -/
def step (p : Partial) (next : Char) : Option Partial :=
  match p.pending with
  | .nothing => some { p with pending := .char next }
  | .char c =>
    if next = '-' ∧ c ≠ '-' then some { p with pending := .charAndHyphen c }
    else if c = '&' ∧ next = '&' then some (p.operator .inter)
    else if c = '-' ∧ next = '-' then some (p.operator .diff)
    else if c = '~' ∧ next = '~' then some (p.operator .symmDiff)
    else some (p.add c c (.char next))
  | .charAndHyphen c =>
    if next = '-' then some ((p.add c c .nothing).operator .diff)
    else if c ≤ next then some (p.add c next .nothing)
    else none

/-- The set at the end of the class. -/
def finish (p : Partial) : CharSet :=
  match p.pending with
  | .nothing => p.decided
  | .char c => (p.add c c .nothing).decided
  | .charAndHyphen c => ((p.add c c .nothing).add '-' '-' .nothing).decided

end Partial

/-- Reads the characters between the brackets, after the sign of the complement. A class lists at
least one character, and its operators may not nest too deeply. -/
def readListed (content : List Char) : Option CharSet :=
  if content.isEmpty then none
  else
    let hyphens := content.takeWhile (· = '-')
    let start : Partial := ⟨none, hyphens.map fun c => (c, c), .nothing⟩
    let listed := ((content.dropWhile (· = '-')).foldlM Partial.step start).map Partial.finish
    listed.filter fun set => set.depth ≤ CharSet.maxDepth

/-- Reads the characters between the brackets. -/
def ofContent? : List Char → Option CharClass
  | [] => none
  | c :: rest =>
    if c = '^' ∨ c = '!' then (readListed rest).map (⟨true, ·⟩)
    else (readListed (c :: rest)).map (⟨false, ·⟩)

end CharClass

end ProjectCache.Glob
