/-
# ProjectCache.Cache.Ttls — how long documents and bundles live.
-/
import ProjectCache.Document.Kind

namespace ProjectCache

/-- The times to live of the kinds of documents, and of bundles. -/
structure Ttls where
  /-- The time to live of a kind. -/
  ofKind : Kind → Span
  /-- The time to live of a bundle. -/
  bundle : Span

namespace Ttls

/-- The default times. -/
def default : Ttls := ⟨Kind.defaultTtl, Kind.defaultTtl .data⟩

instance : Inhabited Ttls := ⟨default⟩

/-- The longest of the times. -/
def longest (ttls : Ttls) : Span :=
  (Kind.all.map ttls.ofKind).foldl Span.longer ttls.bundle

/-- Changes the time of one kind. -/
def setKind (ttls : Ttls) (kind : Kind) (ttl : Span) : Ttls :=
  { ttls with ofKind := fun k => if k = kind then ttl else ttls.ofKind k }

end Ttls

end ProjectCache
