/-
# ProjectCache.Toml.Document — TOML texts.

A text is a sequence of statements, each on a line of its own: headers, which open a table, and keys
with their values, which belong to the table of the last header (`readStatements`). The statements
are carried out one after the other on the tables built so far (`Statement.run`).
-/
import ProjectCache.Toml.Reader

namespace ProjectCache.Toml

/-- What a line says. -/
inductive Statement where
  | pair (key : Key) (value : Value)
  | header (key : Key)
  | arrayHeader (key : Key)

/-! ## Reading -/

/-- Reads one statement up to its last character. -/
def readStatement : List Char → Option (Statement × List Char)
  | '[' :: '[' :: cs =>
    match readKey cs with
    | some (key, ']' :: ']' :: rest) => some (.arrayHeader key, rest)
    | _ => none
  | '[' :: cs =>
    match readKey cs with
    | some (key, ']' :: rest) => some (.header key, rest)
    | _ => none
  | cs =>
    match readKey cs with
    | some (key, '=' :: rest) =>
      (readValue (skipBlanks rest)).map fun (value, rest) => (.pair key value, rest)
    | _ => none

/-- Reads the statements of a text. Every line has at least one character, so the number of
characters is fuel enough. -/
def readStatements : Nat → List Char → Option (List Statement)
  | 0, _ => none
  | fuel + 1, cs =>
    match skipFiller (cs.length + 1) cs with
    | none => none
    | some [] => some []
    | some rest =>
      match readStatement rest with
      | none => none
      | some (statement, rest) =>
        match readRestOfLine rest with
        | none => none
        | some rest => (readStatements fuel rest).map (statement :: ·)

/-! ## Carrying out -/

/-- The tables built so far, and the path of the last header. -/
structure Progress where
  /-- The tables. -/
  tables : Tables := []
  /-- The path of the last header, empty before the first. -/
  header : List String := []

/-- Carries out a statement. -/
def Statement.run (progress : Progress) : Statement → Option Progress
  | .pair key value =>
    (Tables.assignIn progress.header key value progress.tables).map
      fun tables => { progress with tables }
  | .header key =>
    (Tables.openTable key progress.tables).map fun tables => ⟨tables, key.path ++ [key.name]⟩
  | .arrayHeader key =>
    (Tables.addTable key progress.tables).map fun tables => ⟨tables, key.path ++ [key.name]⟩

/-- The table that some statements build. -/
def build? (statements : List Statement) : Option Value :=
  (statements.foldlM Statement.run {}).map fun progress => .table (finishMembers progress.tables)

/-- What a text means, which must be a table. A mark of the byte order at its start does not
count. -/
def ofText? (text : String) : Option (Keyed Json) := do
  let cs := match text.toList with
    | '\ufeff' :: cs => cs
    | cs => cs
  let table ← build? (← readStatements (cs.length + 1) cs)
  (← table.json?).members?

end ProjectCache.Toml
