/-
# ProjectCache.Admin.Arguments — words on a command line.

A command knows some options and takes some words that are no options. An option is written with two
hyphens and its name, or with one hyphen and its letter, and letters may share a hyphen. Its value
follows as the next word, which must not look like an option, or behind an equals sign. Behind two
hyphens alone there are no more options. No option is given twice.

A value that stands as a word of its own counts when the next word has been understood, not before:
an error in it shows after one in what follows, and a subcommand is read first (`Given.settle`).
-/
namespace ProjectCache.Admin

/-- What an option does. -/
inductive Role where
  | flag
  | value (accepts : String → Bool)
  | help
  | version

/-- An option. -/
structure Opt where
  /-- The name. -/
  name : String
  /-- The letter. -/
  letter : Option Char := none
  /-- What the option does. -/
  role : Role

namespace Opt

/-- Does the option accept a value? -/
def accepts (option : Opt) (value : String) : Bool :=
  match option.role with
  | .value accepts => accepts value
  | _ => true

/-- The option that shows how a command is used. -/
def help : Opt := { name := "help", letter := some 'h', role := .help }

end Opt

/-- What a command understands. -/
structure Usage where
  /-- The options. -/
  options : List Opt
  /-- How many words there may be. -/
  words : Nat := 0
  /-- The names of subcommands, of which the first ends the words of the command itself. -/
  subcommands : List String := []

/-- Why reading stops early. -/
inductive Interruption where
  | misuse
  | help
  | version
  deriving DecidableEq, Repr

/-- What has been given so far. -/
structure Given where
  /-- The options with their values. -/
  options : List (String × String) := []
  /-- The words, in order. -/
  words : List String := []
  /-- An option with a value that has not been counted yet. -/
  pending : Option (Opt × String) := none

namespace Given

/-- The value of an option. -/
def value? (given : Given) (name : String) : Option String :=
  (given.options.find? fun option => option.1 == name).map (·.2)

/-- Has an option been given? -/
def has (given : Given) (name : String) : Bool := (given.value? name).isSome

/-- Counts an option. -/
def take (given : Given) (option : Opt) (value : String) : Except Interruption Given :=
  if given.has option.name || ! option.accepts value then .error .misuse
  else .ok { given with options := given.options ++ [(option.name, value)] }

/-- Counts the option that waits. -/
def settle (given : Given) : Except Interruption Given :=
  match given.pending with
  | none => .ok given
  | some (option, value) => take { given with pending := none } option value

/-- Carries out an option without a value. -/
def apply (given : Given) (option : Opt) : Except Interruption Given := do
  let given ← given.settle
  match option.role with
  | .help => throw .help
  | .version => throw .version
  | .flag => given.take option ""
  | .value _ => throw .misuse

/-- Carries out the options of some letters. -/
def applyLetters (usage : Usage) (given : Given) : List Char → Except Interruption Given
  | [] => .ok given
  | c :: cs =>
    match usage.options.find? fun option => option.letter = some c with
    | none => .error .misuse
    | some option => do applyLetters usage (← given.apply option) cs

/-- Counts a word. -/
def addWord (usage : Usage) (given : Given) (word : String) : Except Interruption Given := do
  let given ← given.settle
  if given.words.length < usage.words then return { given with words := given.words ++ [word] }
  else throw .misuse

end Given

/-- What kind of argument some text is. -/
inductive Shape where
  | rest
  | long (name : String) (value : Option String)
  | letters (letters : List Char)
  | word

/-- The kind of an argument. A hyphen alone is a word. -/
def Shape.of (argument : String) : Shape :=
  match argument.toList with
  | ['-', '-'] => .rest
  | '-' :: '-' :: cs =>
    let name := String.ofList (cs.takeWhile (· ≠ '='))
    match cs.dropWhile (· ≠ '=') with
    | '=' :: value => .long name (some (String.ofList value))
    | _ => .long name none
  | '-' :: c :: cs => .letters (c :: cs)
  | _ => .word

namespace Usage

variable (usage : Usage)

/-- Reads arguments behind two hyphens. -/
def readWords (given : Given) : List String → Except Interruption Given
  | [] => .ok given
  | argument :: rest => do readWords (← given.addWord usage argument) rest

/-- Reads arguments up to a subcommand, and gives what is left from there. -/
def read (given : Given) : List String → Except Interruption (Given × List String)
  | [] => .ok (given, [])
  | argument :: rest =>
    if usage.subcommands.contains argument then .ok (given, argument :: rest)
    else
      match Shape.of argument with
      | .rest => do return (← usage.readWords given rest, [])
      | .letters letters => do read (← given.applyLetters usage letters) rest
      | .word => do read (← given.addWord usage argument) rest
      | .long name value =>
        match usage.options.find? fun option => option.name = name with
        | none => .error .misuse
        | some option =>
          match option.role, value with
          | .value _, some value => do
            let given ← given.settle
            read (← given.take option value) rest
          | .value _, none => do
            let given ← given.settle
            match rest with
            | [] => throw .misuse
            | value :: rest =>
              match Shape.of value with
              | .word => read { given with pending := some (option, value) } rest
              | _ => throw .misuse
          | _, some _ => .error .misuse
          | _, none => do read (← given.apply option) rest

end Usage

end ProjectCache.Admin
