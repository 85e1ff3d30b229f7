/-
# ProjectCache.Key — the names under which documents are stored.

```text
project:{uuid}:{kind}            a document of a project
project:{uuid}:team:{backend}    a roster, one for each backend
project:{uuid}:all               the bundle of a project
workflow:{id}:{type}             the state of a workflow
```

In a bucket of a message broker a colon becomes a point, and only some characters may stand in a
name (`Key.bucketName`).
-/
import ProjectCache.Error

namespace ProjectCache.Key

/-- The name of the bundle in the place of a kind. -/
def bundleName : String := "all"

/-- The key of a document, for kinds that need no backend. -/
def plain (project : String) (kind : Kind) : String :=
  "project:" ++ project ++ ":" ++ kind.name

/-- The key of a roster. -/
def team (project backend : String) : String :=
  plain project .team ++ ":" ++ backend

/-- The key of a document. A roster has none without a backend; the other kinds ignore it. -/
def entry (project : String) (kind : Kind) (backend : Option String) : Except Error String :=
  if kind.isPerBackend then
    match backend with
    | some backend => .ok (plain project kind ++ ":" ++ backend)
    | none => .error (.configuration (.backendNeeded kind))
  else .ok (plain project kind)

/-- The key of a project's bundle. -/
def bundle (project : String) : String :=
  "project:" ++ project ++ ":" ++ bundleName

/-- The pattern of all rosters of a project. -/
def teamPattern (project : String) : String :=
  plain project .team ++ ":*"

/-- The pattern of all documents of a project. -/
def projectPattern (project : String) : String :=
  "project:" ++ project ++ ":*"

/-- The key of a workflow's state of some type. -/
def workflow (id dataType : String) : String :=
  "workflow:" ++ id ++ ":" ++ dataType

/-- The pattern of all that is kept for a workflow. -/
def workflowPattern (id : String) : String :=
  "workflow:" ++ id ++ ":*"

/-! ## Names in a bucket -/

/-- May a character stand in a bucket's name? -/
def storable (c : Char) : Bool :=
  c.isAlphanum || c = '-' || c = '/' || c = '_' || c = '=' || c = '.'

/-- A point for each colon. -/
def pointed (key : List Char) : List Char :=
  key.map fun c => if c = ':' then '.' else c

/-- The name of a key in a bucket: not empty, of storable characters, without a point at either
end. -/
def bucketName (key : String) : Except Error String :=
  let name := pointed key.toList
  if name.all storable && ! name.isEmpty && name.head? != some '.' && name.getLast? != some '.' then
    .ok (String.ofList name)
  else .error (.configuration (.keyNotStorable key))

end ProjectCache.Key
