import ProjectCache.Main
import ProjectCache.Service
import ProjectCache.Proofs.Decode.Fields
import ProjectCache.Proofs.Bus
import ProjectCache.Proofs.Bus.Delivery
import ProjectCache.Proofs.Cache.Histories
import ProjectCache.Proofs.Cache.Refetch
import ProjectCache.Proofs.Cache.WriteThrough
import ProjectCache.Proofs.Cache.SelfHealing
import ProjectCache.Proofs.Cache.Provenance
import ProjectCache.Proofs.Cache.Staleness
import ProjectCache.Proofs.Cache.ReadPaths
import ProjectCache.Proofs.Cache.Separation
import ProjectCache.Proofs.Cache.Sweep
import ProjectCache.Proofs.Cache.Writes
import ProjectCache.Proofs.Glob.Splice
import ProjectCache.Proofs.Store.Expiry
import ProjectCache.Proofs.Activity.Freshness
import ProjectCache.Proofs.Activity.Confinement
import ProjectCache.Proofs.Document.NormalForm
import ProjectCache.Proofs.Event.Wire
import ProjectCache.Proofs.Cache.Accounting
import ProjectCache.Proofs.Cache.AllOrNothing
import ProjectCache.Proofs.Cache.Stability
import ProjectCache.Proofs.Cache.Agreement
import ProjectCache.Proofs.Key.Subject
import ProjectCache.Proofs.Cache.Lifetimes
import ProjectCache.Proofs.Settings.Retention
import ProjectCache.Glob.Expression
import ProjectCache.Proofs.Glob.Expression
import ProjectCache.Proofs.Glob.Language
