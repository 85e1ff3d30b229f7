/-
# ProjectCache.Toml.Text — blanks, comments, strings and keys of TOML.

The smallest parts of a TOML text. A reader takes characters and gives what it has read with the
characters that are left; none means that the text is malformed.

A string stands between single or double quotes, one or three at each end. Only double quotes know
escapes. Three quotes admit line ends, which all become line feeds, and up to two more quotes just
before the end. The readers that recurse on fuel are given the number of characters that are left.
-/
import ProjectCache.Text.Hex

namespace ProjectCache.Toml

/-! ## Blanks and comments -/

/-- Is the character a blank within a line? -/
def isBlank (c : Char) : Bool := c = ' ' || c = '\t'

/-- Drops blanks. -/
def skipBlanks (cs : List Char) : List Char := cs.dropWhile isBlank

/-- May the character stand in comments and strings as it is? Of the control characters only the tab
may. -/
def isPlain (c : Char) : Bool := c = '\t' || (0x20 ≤ c.toNat && c.toNat ≠ 0x7f)

/-- Reads a line end. -/
def readLineEnd : List Char → Option (List Char)
  | '\n' :: cs => some cs
  | '\r' :: '\n' :: cs => some cs
  | _ => none

/-- Drops a comment, if there is one. -/
def skipComment : List Char → List Char
  | '#' :: cs => cs.dropWhile isPlain
  | cs => cs

/-- Reads what may follow a statement on its line: blanks, a comment, and the end of the line or of
the text. -/
def readRestOfLine (cs : List Char) : Option (List Char) :=
  match skipComment (skipBlanks cs) with
  | [] => some []
  | rest => readLineEnd rest

/-- Drops blanks, line ends and comments. None when a comment holds a control character. -/
def skipFiller : Nat → List Char → Option (List Char)
  | 0, _ => none
  | fuel + 1, cs =>
    match skipBlanks cs with
    | '#' :: rest =>
      match rest.dropWhile isPlain with
      | [] => some []
      | rest => (readLineEnd rest).bind (skipFiller fuel)
    | rest =>
      match readLineEnd rest with
      | some rest => skipFiller fuel rest
      | none => some rest

/-! ## Strings -/

/-- The value of hexadecimal digits. -/
def hexValue? (cs : List Char) : Option Nat :=
  cs.foldlM (fun n c => (Hex.value? c).map fun d => n * 16 + d.val) 0

/-- The character of a code. -/
def charOf? (code : Nat) : Option Char :=
  if code < 0xD800 ∨ (0xDFFF < code ∧ code < 0x110000) then some (Char.ofNat code) else none

/-- Reads a code of a fixed number of digits. -/
def readCode (width : Nat) (cs : List Char) : Option (Char × List Char) :=
  if cs.length < width then none
  else ((hexValue? (cs.take width)).bind charOf?).map (·, cs.drop width)

/-- Reads what follows a backslash. -/
def readEscape : List Char → Option (Char × List Char)
  | 'b' :: cs => some ('\x08', cs)
  | 't' :: cs => some ('\t', cs)
  | 'n' :: cs => some ('\n', cs)
  | 'f' :: cs => some ('\x0c', cs)
  | 'r' :: cs => some ('\r', cs)
  | '"' :: cs => some ('"', cs)
  | '\\' :: cs => some ('\\', cs)
  | 'u' :: cs => readCode 4 cs
  | 'U' :: cs => readCode 8 cs
  | _ => none

/-- Reads a string in double quotes up to its end. -/
def readBasic : Nat → List Char → Option (List Char × List Char)
  | 0, _ => none
  | _ + 1, [] => none
  | fuel + 1, c :: cs =>
    if c = '"' then some ([], cs)
    else if c = '\\' then
      match readEscape cs with
      | some (d, cs) => (readBasic fuel cs).map fun (ds, r) => (d :: ds, r)
      | none => none
    else if isPlain c then (readBasic fuel cs).map fun (ds, r) => (c :: ds, r)
    else none

/-- Reads a string in single quotes up to its end. -/
def readLiteral : List Char → Option (List Char × List Char)
  | [] => none
  | c :: cs =>
    if c = '\'' then some ([], cs)
    else if isPlain c then (readLiteral cs).map fun (ds, r) => (c :: ds, r)
    else none

/-- Drops blanks and line ends. -/
def skipLines : Nat → List Char → List Char
  | 0, cs => cs
  | fuel + 1, cs =>
    match readLineEnd (skipBlanks cs) with
    | some rest => skipLines fuel rest
    | none => skipBlanks cs

/-- Reads a line end with which a line of a string is continued, and the blanks and line ends behind
it. -/
def readContinuation (cs : List Char) : Option (List Char) :=
  (readLineEnd (skipBlanks cs)).map fun rest => skipLines (rest.length + 1) rest

/-- Reads a string in three quotes up to its end. Of a run of quotes the last three end the string,
and at most two before them belong to it. -/
def readLong (quote : Char) (escapes : Bool) : Nat → List Char → Option (List Char × List Char)
  | 0, _ => none
  | _ + 1, [] => none
  | fuel + 1, c :: cs =>
    if c = quote then
      let run := (cs.takeWhile (· = quote)).length + 1
      if 3 ≤ run then
        let kept := min (run - 3) 2
        some (List.replicate kept quote, cs.drop (kept + 2))
      else
        (readLong quote escapes fuel (cs.drop (run - 1))).map fun (ds, r) =>
          (List.replicate run quote ++ ds, r)
    else if escapes && c = '\\' then
      match readContinuation cs with
      | some rest => readLong quote escapes fuel rest
      | none =>
        match readEscape cs with
        | some (d, rest) => (readLong quote escapes fuel rest).map fun (ds, r) => (d :: ds, r)
        | none => none
    else
      match readLineEnd (c :: cs) with
      | some rest => (readLong quote escapes fuel rest).map fun (ds, r) => ('\n' :: ds, r)
      | none =>
        if isPlain c then (readLong quote escapes fuel cs).map fun (ds, r) => (c :: ds, r)
        else none

/-- Reads a string in three quotes whose opening quotes have been read. A line end at once is
dropped. -/
def readLongBody (quote : Char) (escapes : Bool) (cs : List Char) :
    Option (List Char × List Char) :=
  let body := (readLineEnd cs).getD cs
  readLong quote escapes (body.length + 1) body

/-- Reads a string. None when there is no quote. -/
def readString (cs : List Char) : Option (String × List Char) :=
  let result := match cs with
    | '"' :: '"' :: '"' :: rest => readLongBody '"' true rest
    | '"' :: rest => readBasic (rest.length + 1) rest
    | '\'' :: '\'' :: '\'' :: rest => readLongBody '\'' false rest
    | '\'' :: rest => readLiteral rest
    | _ => none
  result.map fun (ds, rest) => (String.ofList ds, rest)

/-! ## Keys -/

/-- May the character stand in a key without quotes? -/
def isKeyChar (c : Char) : Bool := c.isAlphanum || c = '_' || c = '-'

/-- Reads one name of a key. -/
def readName : List Char → Option (String × List Char)
  | '"' :: rest =>
    (readBasic (rest.length + 1) rest).map fun (ds, rest) => (String.ofList ds, rest)
  | '\'' :: rest => (readLiteral rest).map fun (ds, rest) => (String.ofList ds, rest)
  | cs =>
    let name := cs.takeWhile isKeyChar
    if name.isEmpty then none else some (String.ofList name, cs.dropWhile isKeyChar)

/-- How many names a key may have, and how deep arrays and inline tables may nest. -/
def maxDepth : Nat := 79

/-- Reads the names of a key, as many as there may be, with points between them and blanks around
them. -/
def readNames : Nat → List Char → Option (List String × List Char)
  | 0, _ => none
  | more + 1, cs =>
    match readName (skipBlanks cs) with
    | none => none
    | some (name, rest) =>
      match skipBlanks rest with
      | '.' :: rest => (readNames more rest).map fun (names, r) => (name :: names, r)
      | rest => some ([name], rest)

/-- A key: the names of the tables it goes through, and the last name. -/
structure Key where
  /-- The names of the tables, from the outermost. -/
  path : List String
  /-- The last name. -/
  name : String
  deriving DecidableEq, Repr

/-- The key of some names. -/
def Key.ofNames? (names : List String) : Option Key :=
  names.getLast?.map fun name => ⟨names.dropLast, name⟩

/-- Reads a key. -/
def readKey (cs : List Char) : Option (Key × List Char) :=
  match readNames maxDepth cs with
  | some (names, rest) => (Key.ofNames? names).map (·, rest)
  | none => none

end ProjectCache.Toml
