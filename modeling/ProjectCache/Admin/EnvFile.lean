/-
# ProjectCache.Admin.EnvFile — variables of the environment from a file.

Each line of the file gives a variable its value. Blank lines and comments say nothing, and `export`
may stand before the name. A value may be quoted, in parts or as a whole: single quotes keep all
that is between them, double quotes know escapes. A dollar sign stands for the value of the variable
behind it, whose name may stand in braces. Behind a value there may be blanks and a comment.

Variables that have a value keep it. The first line that is malformed ends the reading, and those
before it count. No variable can hold the character zero, and a line that gives it to one breaks the
reading off.
-/
import ProjectCache.Keyed
import ProjectCache.Text.Alphanumeric
import ProjectCache.Text.Blank
import ProjectCache.Text.Lines

namespace ProjectCache.EnvFile

/-! ## Values -/

/-- The name of a variable that is being read, the last letter first. -/
inductive Reference where
  | none
  | bare (name : List Char)
  | braced (name : List Char)
  deriving DecidableEq

/-- How far a value has been read. -/
structure Scan where
  /-- The value so far, the last character first. -/
  output : List Char := []
  /-- Is a single quote open? -/
  single : Bool := false
  /-- Is a double quote open? -/
  double : Bool := false
  /-- Was the last character a backslash? -/
  escaped : Bool := false
  /-- Has the value ended? -/
  ended : Bool := false
  /-- The reference to a variable that is open. -/
  reference : Reference := .none

namespace Scan

/-- Adds a character to the value. -/
def push (scan : Scan) (c : Char) : Scan := { scan with output := c :: scan.output }

/-- Puts the value of the variable in place of its reference. -/
def resolve (lookup : String → String) (scan : Scan) (name : List Char) : Scan :=
  { scan with
    output := (lookup (String.ofList name.reverse)).toList.reverse ++ scan.output
    reference := .none }

/-- Reads a character behind a backslash. -/
def escape (scan : Scan) (c : Char) : Option Scan :=
  let scan := { scan with escaped := false }
  if c = 'n' then some (scan.push '\n')
  else if ['\\', '\'', '"', '$', ' '].contains c then some (scan.push c)
  else none

/-- Reads a character that ends the bare name of a variable. -/
def endBare (lookup : String → String) (scan : Scan) (name : List Char) (c : Char) : Scan :=
  if c = '\x7b' ∧ name.isEmpty then { scan with reference := .braced [] }
  else
    let scan := scan.resolve lookup name
    if c = '$' then { scan with reference := .bare [] } else scan.push c

/-- Reads a character of a value that has not ended. None when it may not stand there. -/
def step (lookup : String → String) (scan : Scan) (c : Char) : Option Scan :=
  if scan.escaped then scan.escape c
  else if scan.single then some (if c = '\'' then { scan with single := false } else scan.push c)
  else
    match scan.reference with
    | .bare name =>
      some (if Text.isAlphanumeric c then { scan with reference := .bare (c :: name) }
        else scan.endBare lookup name c)
    | .braced name =>
      some (if c = '\x7d' then scan.resolve lookup name
        else { scan with reference := .braced (c :: name) })
    | .none =>
      if c = '$' then some { scan with reference := .bare [] }
      else if c = '\\' then some { scan with escaped := true }
      else if scan.double then some (if c = '"' then { scan with double := false } else scan.push c)
      else if c = '\'' then some { scan with single := true }
      else if c = '"' then some { scan with double := true }
      else if c = ' ' ∨ c = '\t' then some { scan with ended := true }
      else some (scan.push c)

/-- Reads characters up to the end of the value. -/
def run (lookup : String → String) (scan : Scan) : List Char → Option Scan
  | [] => some scan
  | c :: cs =>
    if scan.ended then
      if c = ' ' ∨ c = '\t' then run lookup scan cs
      else if c = '#' then some scan
      else none
    else
      match scan.step lookup c with
      | some scan => run lookup scan cs
      | none => none

/-- The value that has been read. None when something is still open. -/
def value? (lookup : String → String) (scan : Scan) : Option String :=
  if scan.single || scan.double then none
  else
    match scan.reference with
    | .braced _ => none
    | .bare name => some (String.ofList (scan.resolve lookup name).output.reverse)
    | .none => some (String.ofList scan.output.reverse)

end Scan

/-- Reads a value. A comment in its place is an empty value. -/
def readValue (lookup : String → String) (cs : List Char) : Option String :=
  match cs with
  | '#' :: _ => some ""
  | cs => (Scan.run lookup {} cs).bind (Scan.value? lookup)

/-! ## Lines -/

/-- May the character start a name? -/
def startsName (c : Char) : Bool := c.isAlpha || c = '_'

/-- May the character stand in a name? -/
def isNameChar (c : Char) : Bool := c.isAlphanum || c = '_' || c = '.'

/-- Reads a name and the blanks behind it. -/
def readName (cs : List Char) : Option (String × List Char) :=
  match cs with
  | c :: _ =>
    if startsName c then
      some (String.ofList (cs.takeWhile isNameChar), Text.trimStart (cs.dropWhile isNameChar))
    else none
  | [] => none

/-- Reads an equals sign. -/
def readEquals : List Char → Option (List Char)
  | '=' :: cs => some cs
  | _ => none

/-- Reads the name that a line gives a value to, and the equals sign. -/
def readTarget (cs : List Char) : Option (String × List Char) := do
  let (name, rest) ← readName cs
  match readEquals rest with
  | some rest => some (name, rest)
  | none =>
    if name = "export" then
      let (name, rest) ← readName rest
      (readEquals rest).map (name, ·)
    else none

/-- What a line says. -/
inductive Line where
  | nothing
  | assignment (name value : String)
  | malformed
  deriving DecidableEq

/-- Reads a line. -/
def Line.read (lookup : String → String) (cs : List Char) : Line :=
  match Text.trimStart (cs.reverse.dropWhile Text.isBlank).reverse with
  | [] | '#' :: _ => .nothing
  | cs =>
    match readTarget cs with
    | none => .malformed
    | some (name, rest) =>
      match readValue lookup (Text.trimStart rest) with
      | some value => .assignment name value
      | none => .malformed

/-- Can a variable hold the value? -/
def canHold (value : String) : Bool := ! value.toList.contains '\x00'

/-- Gives a variable a value, unless it has one. None when no variable can hold it. -/
def define (environment : Keyed String) (name value : String) : Option (Keyed String) :=
  if environment.contains name then some environment
  else if canHold value then some (environment.insert name value)
  else none

/-- Reads lines into the environment. None when that breaks off. -/
def loadLines (environment : Keyed String) : List (List Char) → Option (Keyed String)
  | [] => some environment
  | cs :: rest =>
    match Line.read (fun name => (environment.find? name).getD "") cs with
    | .nothing => loadLines environment rest
    | .malformed => some environment
    | .assignment name value =>
      match define environment name value with
      | some environment => loadLines environment rest
      | none => none

/-- Reads a file into the environment. None when that breaks off. -/
def load (environment : Keyed String) (text : String) : Option (Keyed String) :=
  loadLines environment (Text.cutAt '\n' text.toList)

end ProjectCache.EnvFile
