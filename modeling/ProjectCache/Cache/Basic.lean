/-
# ProjectCache.Cache.Basic — reading, refreshing and invalidating the documents of a project.

A read looks the key up and returns what is there; when nothing is there, or something that does not
decode, the document is fetched and stored for the time to live of its kind (`Cache.get`). A refresh
stores a document that is given (`Cache.refresh`), or deletes the old one and fetches a new one
(`Cache.refreshWith`). An invalidation deletes (`Cache.invalidate`).

After a refresh or an invalidation the bundle is repaired: it is built anew when all the documents
that it needs are there for the backend in question, and dropped otherwise (`Cache.repairBundle`).
-/
import ProjectCache.Document.Bundle
import ProjectCache.Key
import ProjectCache.Source
import ProjectCache.Cache.Ttls

namespace ProjectCache

/-- How a document of a kind is fetched. -/
abbrev Fetch (kind : Kind) := Request → CacheM kind.Value

/-- The backend that a document itself names. -/
def Kind.namedBackend : (kind : Kind) → kind.Value → Option String
  | .data, project => Project.agentsBackend project
  | _, _ => none

namespace Cache

variable {α : Type}

/-! ## Reading and writing keys -/

/-- Reads a key. A document that does not decode is dropped. -/
def read (decode : Decoder α) (key : String) : CacheM (Option α) := do
  match ← CacheM.get key with
  | none => return none
  | some raw =>
    match decode raw with
    | .ok value => return some value
    | .error _ =>
      CacheM.log .warn "Dropping cache entry that no longer decodes"
      let _ ← CacheM.delete key
      return none

/-- Reads the document of a kind under a key, and fetches and stores it when there is none. -/
def getOrCreate (ttls : Ttls) (kind : Kind) (key : String) (request : Request)
    (fetch : Fetch kind) : CacheM kind.Value := do
  match ← read kind.decode key with
  | some value =>
    CacheM.count fun c => { c with hits := c.hits + 1 }
    return value
  | none =>
    CacheM.count fun c => { c with misses := c.misses + 1 }
    CacheM.note (.asked request)
    let value ← fetch request
    CacheM.set key (kind.encode value) (ttls.ofKind kind)
    return value

/-- What the fetch function of a kind is asked for. -/
def requestFor (kind : Kind) (project : String) (backend : Option String) : Request :=
  ⟨project, if kind.isPerBackend then backend else none⟩

/-- A document of a project, from the cache or fetched. -/
def get (ttls : Ttls) (kind : Kind) (project : String) (backend : Option String)
    (fetch : Fetch kind) : CacheM kind.Value := do
  let key ← CacheM.ofExcept (Key.entry project kind backend)
  getOrCreate ttls kind key (requestFor kind project backend) fetch

/-! ## Bundles -/

/-- Stores a bundle. -/
def writeBundle (ttls : Ttls) (project : String) (bundle : Bundle) : CacheM Unit :=
  CacheM.set (Key.bundle project) bundle.encode ttls.bundle

/-- Builds the bundle of a project for a backend out of stored documents, and stores it. Tells
whether all of them were there. -/
def rebuildBundle (ttls : Ttls) (project backend : String) : CacheM Bool := do
  let some data ← read Project.decode (Key.plain project .data) | return false
  let some contentBase ← read ContentBase.decode (Key.plain project .contentBase) | return false
  let some team ← read (Kind.decode .team) (Key.team project backend) | return false
  let some guardrails ← read Guardrails.decode (Key.plain project .guardrails) | return false
  let inlineAgent ← read (Kind.decode .inlineAgent) (Key.plain project .inlineAgent)
  writeBundle ttls project
    ((Bundle.ofParts data contentBase team guardrails (inlineAgent.getD none)).withBackend backend)
  CacheM.count fun c => { c with rebuilds := c.rebuilds + 1 }
  return true

/-- Removes the bundle of a project. -/
def dropBundle (project : String) : CacheM Unit := do
  let _ ← CacheM.delete (Key.bundle project)
  CacheM.count fun c => { c with drops := c.drops + 1 }

/-- The backend that the stored settings of a project name. -/
def storedBackend (project : String) : CacheM (Option String) := do
  return (← read Project.decode (Key.plain project .data)).bind (·.agentsBackend)

/-- Builds the bundle of a project anew for the given backend, or else for the one that the stored
settings name, and drops it when that cannot be done. Tells whether there is a bundle. -/
def repairBundle (ttls : Ttls) (project : String) (backend : Option String) : CacheM Bool := do
  let known ← match backend with
    | some backend => pure (some backend)
    | none => storedBackend project
  match known with
  | some backend =>
    if ← rebuildBundle ttls project backend then return true
  | none => pure ()
  dropBundle project
  return false

/-- Fetches the documents of a project for a backend, after its settings, up to the first
failure. -/
def fetchBundle (source : Source) (project : String) (data : Project) (backend : String) :
    CacheM Bundle := do
  let contentBase ← source.fetch .contentBase ⟨project, none⟩
  let team ← source.fetch .team ⟨project, some backend⟩
  let guardrails ← source.fetch .guardrails ⟨project, none⟩
  let inlineAgent ← source.fetch .inlineAgent ⟨project, none⟩
  return (Bundle.ofParts data contentBase team guardrails inlineAgent).withBackend backend

/-- Stores a bundle and each of the documents in it. -/
def writeParts (ttls : Ttls) (project backend : String) (bundle : Bundle) : CacheM Unit := do
  writeBundle ttls project bundle
  CacheM.set (Key.plain project .data) bundle.data.encode (ttls.ofKind .data)
  CacheM.set (Key.plain project .contentBase) bundle.contentBase.encode (ttls.ofKind .contentBase)
  CacheM.set (Key.team project backend) (Kind.encode .team bundle.team) (ttls.ofKind .team)
  CacheM.set (Key.plain project .guardrails) bundle.guardrails.encode (ttls.ofKind .guardrails)
  match bundle.inlineAgent with
  | some inlineAgent =>
    CacheM.set (Key.plain project .inlineAgent) inlineAgent.encode (ttls.ofKind .inlineAgent)
  | none => pure ()

/-- The bundle of a project for the given backend or for any, from the cache or fetched. Nothing is
stored before everything has been fetched. -/
def getBundle (ttls : Ttls) (source : Source) (project : String) (backend : Option String) :
    CacheM Bundle := do
  match ← read Bundle.decode (Key.bundle project) with
  | some bundle =>
    if bundle.serves backend then
      CacheM.count fun c => { c with hits := c.hits + 1 }
      return bundle
  | none => pure ()
  CacheM.count fun c => { c with misses := c.misses + 1 }
  let data ← source.fetch .data ⟨project, none⟩
  match backend <|> Project.agentsBackend data with
  | none => throw (.configuration (.noBackendForBundle project))
  | some backend =>
    let bundle ← fetchBundle source project data backend
    writeParts ttls project backend bundle
    return bundle

/-! ## Invalidating and refreshing -/

/-- Deletes a document and repairs the bundle. Without a backend all rosters of the project go, and
the bundle with them. -/
def invalidate (ttls : Ttls) (kind : Kind) (project : String) (backend : Option String) :
    CacheM Unit := do
  CacheM.count fun c => { c with invalidations := c.invalidations + 1 }
  if kind.isPerBackend && backend.isNone then
    let _ ← CacheM.deletePattern (Key.teamPattern project)
    dropBundle project
  else
    let key ← CacheM.ofExcept (Key.entry project kind backend)
    let _ ← CacheM.delete key
    let _ ← repairBundle ttls project backend

/-- Deletes all that is stored for a project, and counts it. -/
def invalidateProject (project : String) : CacheM Nat := do
  CacheM.count fun c => { c with invalidations := c.invalidations + 1 }
  CacheM.deletePattern (Key.projectPattern project)

/-- Stores a document and repairs the bundle. -/
def refresh (ttls : Ttls) (project : String) (document : Document) (backend : Option String) :
    CacheM Unit := do
  let key ← CacheM.ofExcept (Key.entry project document.kind backend)
  CacheM.set key document.encode (ttls.ofKind document.kind)
  CacheM.count fun c => { c with refreshes := c.refreshes + 1 }
  let _ ← repairBundle ttls project backend

/-- Deletes a document, fetches and stores it anew, and repairs the bundle. Fetched settings may
themselves name the backend of the bundle. -/
def refreshWith (ttls : Ttls) (kind : Kind) (project : String) (backend : Option String)
    (fetch : Fetch kind) : CacheM kind.Value := do
  let key ← CacheM.ofExcept (Key.entry project kind backend)
  let _ ← CacheM.delete key
  CacheM.count fun c => { c with refreshes := c.refreshes + 1 }
  let value ← getOrCreate ttls kind key (requestFor kind project backend) fetch
  let _ ← repairBundle ttls project (backend <|> kind.namedBackend value)
  return value

end Cache

end ProjectCache
