/-
# ProjectCache.Glob.Expression — glob patterns written as regular expressions.

A pattern can be written as a regular expression that is anchored at both ends (`Expression.write`): a
star becomes `.*`, a question mark `.`, a class is copied with its sign as `^`, and a character that
stands for itself is escaped where an expression would take it for something else.

Such a text is read by the rules of regular expressions (`Expression.read`), as far as it needs them:
anchors, the dot and its repetition, escaped characters, and classes, which end at the bracket that
balances the first one. In a class a closing bracket right at the front is listed. What needs more of
these rules is reported as foreign, and not as malformed. An expression finds a text that holds, anywhere,
what the expression leads through (`Expression.Finds`).
-/
import ProjectCache.Glob.Pattern

namespace ProjectCache.Glob.Expression

/-! ## Writing -/

/-- The characters that are escaped to stand for themselves. -/
def metas : List Char :=
  ['\\', '.', '+', '*', '?', '(', ')', '|', '[', ']', '{', '}', '^', '$', '#', '&', '-', '~']

/-- The expression of a character that stands for itself. -/
def escape (c : Char) : List Char := if c ∈ metas then ['\\', c] else [c]

/-- Where the writer stands in a pattern: between parts, after a backslash, right after the bracket that
opens a class, or further on in the class. -/
inductive Place where
  | between
  | escaped
  | opened
  | inClass
  deriving DecidableEq, Repr

/-- Copies a character of a class, and tells where that leads. -/
def copy (c : Char) : Place × List Char :=
  if c = ']' then (.between, [c])
  else if c = '\\' ∨ c = '[' then (.inClass, ['\\', c])
  else (.inClass, [c])

/-- What is written for a character of the pattern, and where that leads. -/
def Place.write : Place → Char → Place × List Char
  | .between, c =>
    if c = '*' then (.between, ['.', '*'])
    else if c = '?' then (.between, ['.'])
    else if c = '[' then (.opened, ['['])
    else if c = '\\' then (.escaped, [])
    else (.between, escape c)
  | .escaped, c => (.between, escape c)
  | .opened, c => if c = '^' ∨ c = '!' then (.inClass, ['^']) else copy c
  | .inClass, c => copy c

/-- What is written for the rest of a pattern. None when a class has no closing bracket. -/
def writeFrom : Place → List Char → Option (List Char)
  | .between, [] | .escaped, [] => some []
  | .opened, [] | .inClass, [] => none
  | place, c :: cs => (writeFrom (place.write c).1 cs).map ((place.write c).2 ++ ·)

/-- The expression of a pattern. -/
def write (pattern : String) : Option (List Char) :=
  (writeFrom .between pattern.toList).map fun body => '^' :: (body ++ ['$'])

/-! ## Reading -/

/-- A part of an expression. -/
inductive Item where
  | textStart
  | textEnd
  | token (t : Token)
  deriving DecidableEq, Repr

/-- Why a pattern gives no expression: a class of the pattern does not end, the text that is written for
it is no expression, or that text needs rules that are not given here. -/
inductive Refusal where
  | unterminated
  | malformed
  | foreign
  deriving DecidableEq, Repr

/-- What has been read last of a class: the opening bracket, the sign of the complement, or more. -/
inductive Front where
  | opened
  | signed
  | filled
  deriving DecidableEq, Repr

/-- What has been read of a class. -/
structure Bracket where
  /-- Does the class hold the characters that are not listed? -/
  negated : Bool
  /-- The characters that are listed, the latest first. None when there has been more than single
  characters in the class. -/
  listed : Option (List Char)
  /-- How many classes stand open in this one. -/
  depth : Nat
  /-- What has been read last, of the innermost of them. -/
  front : Front

namespace Bracket

/-- A class that has just been opened. -/
def empty : Bracket := ⟨false, some [], 0, .opened⟩

/-- Lists a character. -/
def list (b : Bracket) (c : Char) : Bracket :=
  { b with listed := b.listed.map (c :: ·), front := .filled }

/-- Lists an escaped character. Only backslashes and opening brackets are escaped here. -/
def listEscaped (b : Bracket) (c : Char) : Bracket :=
  if c = '\\' ∨ c = '[' then b.list c else { b with listed := none, front := .filled }

/-- Reads a character that is neither a backslash nor closes anything. -/
def step (b : Bracket) (c : Char) : Bracket :=
  if c = '[' then { b with listed := none, depth := b.depth + 1, front := .opened }
  else if c = '^' ∧ b.front = .opened then
    { b with negated := b.negated || b.depth = 0, front := .signed }
  else b.list c

/-- The class at its closing bracket. -/
def close (b : Bracket) : Except Refusal Item :=
  match b.listed with
  | none => .error .foreign
  | some listed =>
    match CharClass.readListed listed.reverse with
    | none => .error .malformed
    | some set => .ok (.token (.oneOf ⟨b.negated, set⟩))

end Bracket

/-- Where the reader stands in an expression: between parts, after a dot, which a star may follow, after
a backslash, in a class, or after a backslash in a class. -/
inductive Stand where
  | between
  | dot
  | escaped
  | inClass (b : Bracket)
  | inClassEscaped (b : Bracket)

/-- Reads a character outside of classes. -/
def readPlain (c : Char) : Except Refusal (Stand × List Item) :=
  if c = '^' then .ok (.between, [.textStart])
  else if c = '$' then .ok (.between, [.textEnd])
  else if c = '.' then .ok (.dot, [])
  else if c = '[' then .ok (.inClass .empty, [])
  else if c = '\\' then .ok (.escaped, [])
  else if c ∈ metas then .error .foreign
  else .ok (.between, [.token (.literal c)])

/-- Reads a character, and tells where that leads and which parts have ended there. -/
def Stand.read : Stand → Char → Except Refusal (Stand × List Item)
  | .between, c => readPlain c
  | .dot, c =>
    if c = '*' then .ok (.between, [.token .anyRun])
    else (readPlain c).map fun (stand, items) => (stand, .token .anyOne :: items)
  | .escaped, c => if c ∈ metas then .ok (.between, [.token (.literal c)]) else .error .foreign
  | .inClass b, c =>
    if c = '\\' then .ok (.inClassEscaped b, [])
    else if c = ']' ∧ b.front = .filled then
      match b.depth with
      | 0 => b.close.map fun item => (.between, [item])
      | depth + 1 => .ok (.inClass { b with depth }, [])
    else .ok (.inClass (b.step c), [])
  | .inClassEscaped b, c => .ok (.inClass (b.listEscaped c), [])

/-- The part that is open at the end of an expression. -/
def Stand.finish : Stand → Except Refusal (List Item)
  | .between => .ok []
  | .dot => .ok [.token .anyOne]
  | .escaped | .inClass _ | .inClassEscaped _ => .error .malformed

/-- Reads the rest of an expression. -/
def readFrom : Stand → List Char → Except Refusal (List Item)
  | stand, [] => stand.finish
  | stand, c :: cs =>
    (stand.read c).bind fun (stand', items) => (readFrom stand' cs).map (items ++ ·)

/-- Reads an expression. -/
def read (text : List Char) : Except Refusal (List Item) := readFrom .between text

/-- The expression that a pattern gives. -/
def compile (pattern : String) : Except Refusal (List Item) :=
  match write pattern with
  | none => .error .unterminated
  | some text => read text

/-! ## Searching -/

/-- Can a part lead through these characters, with what stands before and after them? -/
def Item.LeadsThrough : Item → List Char → List Char → List Char → Prop
  | .textStart, before, taken, _ => before = [] ∧ taken = []
  | .textEnd, _, taken, after => taken = [] ∧ after = []
  | .token .anyRun, _, taken, _ => ∀ c ∈ taken, Token.anyRun.takes c
  | .token t, _, taken, _ => ∃ c, taken = [c] ∧ t.takes c

/-- Can the parts, one after the other, lead through these characters? -/
def LeadThrough : List Item → List Char → List Char → List Char → Prop
  | [], _, taken, _ => taken = []
  | item :: items, before, taken, after =>
    ∃ first rest, taken = first ++ rest ∧ item.LeadsThrough before first (rest ++ after) ∧
      LeadThrough items (before ++ first) rest after

/-- Is there a place in a text that the parts lead through? -/
def Finds (items : List Item) (text : List Char) : Prop :=
  ∃ before taken after, text = before ++ taken ++ after ∧ LeadThrough items before taken after

end ProjectCache.Glob.Expression
