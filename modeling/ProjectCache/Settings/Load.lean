/-
# ProjectCache.Settings.Load — settings from a file and the environment.

The file is optional: a path that leads to no file, or to one in no known format, changes nothing. A
path without its file may lack the extension. Variables of the environment are laid over the file.
Whatever cannot be read or converted makes loading fail as a whole, and so does a time to live that
is too long. A name with an index that no array has breaks it off.

Files in TOML and JSON are read here. The readers of the other formats are parameters (`Library`), and
so is the order in which the formats are tried where a path lacks its extension, which is not fixed.
-/
import ProjectCache.Json.Reader
import ProjectCache.Settings.Layer
import ProjectCache.Settings.Lenient
import ProjectCache.Text.Lines
import ProjectCache.Toml.Document

namespace ProjectCache.Settings

/-! ## Files -/

/-- The formats of files. -/
inductive Format where
  | toml
  | json
  | yaml
  | ini
  | ron
  | json5
  deriving DecidableEq, Repr

namespace Format

/-- The formats. -/
def all : List Format := [.toml, .json, .yaml, .ini, .ron, .json5]

/-- The extensions of the files in a format. -/
def extensions : Format → List String
  | .toml => ["toml"]
  | .json => ["json"]
  | .yaml => ["yaml", "yml"]
  | .ini => ["ini"]
  | .ron => ["ron"]
  | .json5 => ["json5"]

end Format

/-- The files of a directory by their paths. -/
abbrev Files := Keyed String

/-- What loading leaves to others. -/
structure Library where
  /-- The formats in the order in which they are tried. -/
  order : List Format
  /-- Each is tried once. -/
  order_perm : order.Perm Format.all
  /-- The table that a text in YAML holds. -/
  yaml? : String → Option (Keyed Json)
  /-- The table that a text in INI holds. -/
  ini? : String → Option (Keyed Json)
  /-- The table that a text in RON holds. -/
  ron? : String → Option (Keyed Json)
  /-- The table that a text in JSON5 holds. -/
  json5? : String → Option (Keyed Json)
  /-- What is said of the files, the environment and the path when settings cannot be read from them or
  do not convert. -/
  complaint : Files → Keyed String → Option String → String

/-- A library without readers of its own, which takes the formats in the order of their declaration. -/
def Library.bare (complaint : Files → Keyed String → Option String → String) : Library where
  order := Format.all
  order_perm := .refl _
  yaml? _ := none
  ini? _ := none
  ron? _ := none
  json5? _ := none
  complaint := complaint

/-- The table that a text in a format holds. -/
def Library.table? (library : Library) (text : String) : Format → Option (Keyed Json)
  | .toml => Toml.ofText? text
  | .json => (Json.ofText? text).bind Json.members?
  | .yaml => library.yaml? text
  | .ini => library.ini? text
  | .ron => library.ron? text
  | .json5 => library.json5? text

/-- Does a part of a path stay where it is? -/
def staysPut (part : List Char) : Bool := part.isEmpty || part == ['.']

/-- Joins the parts of a path. -/
def joinParts (parts : List (List Char)) : String :=
  String.intercalate "/" (parts.map String.ofList)

/-- The extension of a path: what follows the last point of its last part, unless that is the first
character. -/
def extensionOf (path : String) : Option String :=
  let backward := (path.toList.reverse.takeWhile (· ≠ '/'))
  let extension := backward.takeWhile (· ≠ '.')
  match backward.drop extension.length with
  | '.' :: _ :: _ => some (String.ofList extension.reverse)
  | _ => none

/-- The paths of the files that a path may mean: the path itself comes first, unless its end says
that it is a directory, then the path with an extension. Parts of a path that stay where they are do
not count. -/
def fileNames (library : Library) (path : String) : List String :=
  let parts := Text.cutAt '/' path.toList
  let steps := parts.filter fun part => ! staysPut part
  let start := if path.toList.head? = some '/' then "/" else ""
  match steps.getLast? with
  | none | some ['.', '.'] => []
  | some _ =>
    let name := start ++ joinParts steps
    let itself := if (parts.getLast?).all staysPut then [] else [name]
    itself ++ (library.order.flatMap Format.extensions).map fun extension => name ++ "." ++ extension

/-- The format of a file, if its extension is known. -/
def formatOf (name : String) : Option Format :=
  Format.all.find? fun format => (extensionOf name).any format.extensions.contains

/-- The file of a path, and its format if that is known. -/
def fileOf (library : Library) (files : Files) (path : String) : Option (Option Format × String) :=
  (fileNames library path).findSome? fun name => (files.find? name).map (formatOf name, ·)

/-- The source that a path leads to. None when the file is malformed. -/
def fileSource? (library : Library) (files : Files) (path : Option String) :
    Option (List (String × Json)) :=
  match path.bind (fileOf library files) with
  | some (some format, text) => (library.table? text format).map (·.entries)
  | _ => some []

/-! ## The environment -/

/-- The start of the names of variables, in lower case. -/
def variableStart : List Char := "router_cache__".toList

/-- A name with points in place of double underscores. -/
def dotted : List Char → List Char
  | '_' :: '_' :: cs => '.' :: dotted cs
  | c :: cs => c :: dotted cs
  | [] => []

/-- The name of the setting that a variable gives, if it gives one. -/
def settingOf? (variableName : String) : Option String :=
  let cs := (Layer.lower variableName).toList
  if variableStart.isPrefixOf cs then
    some (String.ofList (dotted (cs.drop variableStart.length)))
  else none

/-- The source that the environment is. -/
def environmentSource (environment : Keyed String) : List (String × Json) :=
  environment.entries.filterMap fun (name, text) => (settingOf? name).map (·, .string text)

/-- The sections with the names of their settings. -/
def sections : List (String × List String) :=
  [("store", Lenient.form.store.names), ("cache", Lenient.form.cache.names),
   ("events", Lenient.form.events.names), ("pre_generation", Lenient.form.turn.names)]

/-- The variables that give settings, in upper case. -/
def variableNames : List String :=
  "ROUTER_CACHE__LOG_LEVEL" :: sections.flatMap fun (title, names) =>
    names.map fun name => "ROUTER_CACHE__" ++ title.toUpper ++ "__" ++ name.toUpper

/-! ## Loading -/

/-- Why there are no settings. -/
inductive LoadFault where
  /-- Something is wrong with them. -/
  | refused (error : Error)
  /-- A name has an index that no array has, and loading has broken off. -/
  | brokenOff
  deriving DecidableEq, Repr

/-- Converts a tree to settings. None when a setting does not convert. -/
def ofTree? (tree : Keyed Json) : Option Settings := (Lenient.form.settings.readMembers tree).toOption

/-- The tree of settings of two sources. None when laying them over each other breaks off. -/
def treeOf? (file environment : List (String × Json)) : Option (Keyed Json) := do
  Layer.overlay (← Layer.overlay ∅ file) environment

/-- Refuses settings that are not in order. -/
def checked (settings : Settings) : Except LoadFault Settings :=
  match settings.cache.validate with
  | .ok () => .ok settings
  | .error e => .error (.refused e)

/-- Loads settings. -/
def load (library : Library) (files : Files) (environment : Keyed String) (path : Option String) :
    Except LoadFault Settings :=
  let unreadable := LoadFault.refused (.settings (library.complaint files environment path))
  match fileSource? library files path with
  | none => .error unreadable
  | some file =>
    match treeOf? file (environmentSource environment) with
    | none => .error .brokenOff
    | some tree =>
      match ofTree? tree with
      | none => .error unreadable
      | some settings => checked settings

end ProjectCache.Settings
