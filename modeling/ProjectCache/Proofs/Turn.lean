/-
# ProjectCache.Proofs.Turn — what reading for a turn comes down to.

A turn looks parts up at the source and then reads documents one after the other through the cache.
The noting of failures and durations around it is no change that a cache can see, so that a turn
ensures what the reading ensures (`Turn.ensures_prepare`).
-/
import ProjectCache.Turn
import ProjectCache.Proofs.Source

namespace ProjectCache.Turn

variable {now : Nat} {store : Store}

/-- The parts that a source looks up together are its answers. -/
theorem resolve_fetches (source : Source) (project : String) :
    (source.resolve project).Fetches fun result => ∀ resolved, result = .ok resolved →
      source.answer .data ⟨project, none⟩ = .ok resolved.project ∧
      source.answer .contentBase ⟨project, none⟩ = .ok resolved.contentBase ∧
      source.answer .inlineAgent ⟨project, none⟩ = .ok resolved.inlineAgent := by
  unfold Source.resolve
  refine source.fetches_bind .data fun data hdata => ?_
  refine source.fetches_bind .contentBase fun contentBase hcontentBase => ?_
  refine source.fetches_bind .inlineAgent fun inlineAgent hinlineAgent => ?_
  apply CacheM.fetches_pure
  exact ⟨hdata, hcontentBase, hinlineAgent⟩

/-- A plain source fetches plain documents. -/
theorem fetches_source {source : Source} (hplain : source.Plain) (kind : Kind)
    (request : Request) :
    (source.fetch kind request).Fetches
      fun result => ∀ value, result = .ok value → kind.Plain value := by
  intro now store
  refine (source.fetch_fetches kind request now store).mono ?_
  rintro _ _ ⟨rfl, hreached⟩
  exact ⟨fun value hvalue => hplain kind request value hvalue, hreached⟩

theorem calm_noteDuration {world : World} (h : world.Calm now store) (slow : Span) :
    (noteDuration slow world).Calm now store := by
  unfold noteDuration
  split
  · exact h.record _
  · exact h

/-- What reading the documents of a turn ensures, the turn does. -/
theorem ensures_prepare {ttls : Ttls} {source : Source} {project : String}
    {goal : Except Error Turn → Store → Prop}
    (h : CacheM.Ensures now store (load ttls source project) goal) (slow : Span) :
    CacheM.Ensures now store (prepare ttls slow source project) goal := by
  intro world hworld
  obtain ⟨result, reached, world', hrun, hcalm, hreached⟩ := h world hworld
  rw [prepare, hrun]
  cases result with
  | ok turn => exact ⟨.ok turn, reached, _, rfl, calm_noteDuration hcalm slow, hreached⟩
  | error e => exact ⟨.error e, reached, _, rfl, calm_noteDuration (hcalm.record _) slow, hreached⟩

end ProjectCache.Turn
