/-
# ProjectCache.Proofs.Cache.Isolation — operations leave other projects alone.

The keys of a project are in its scope, and for identifiers that are plain text for keys and patterns
the scopes of two projects are apart and a project's patterns match nothing outside of its own
(`Key.Regular`). So whatever an operation on such a project comes to, outside the scope of the project
the store has the same live entries as before (`Store.AgreesOutside`).
-/
import ProjectCache.Proofs.Cache.Outcomes
import ProjectCache.Proofs.Glob.Literal

namespace ProjectCache

variable {now : Nat} {project key : String} {ttls : Ttls} {kind : Kind} {store reached : Store}

/-! ## Identifiers -/

namespace Key

/-- The identifier has no colon, and no character with a meaning in patterns. -/
def Regular (project : String) : Prop := ∀ c ∈ project.toList, c ≠ ':' ∧ Glob.isOrdinary c

theorem Regular.colon_not_mem (h : Regular project) : ':' ∉ project.toList :=
  fun hcolon => (h ':' hcolon).1 rfl

theorem Regular.isOrdinary_scope (h : Regular project) :
    ∀ c ∈ (scope project).toList, Glob.isOrdinary c := by
  intro c hc
  rw [scope, String.toList_append, String.toList_append, List.mem_append, List.mem_append] at hc
  rcases hc with (hc | hc) | hc
  · exact List.all_eq_true.1 (by decide) c hc
  · exact (h c hc).2
  · exact List.all_eq_true.1 (by decide) c hc

/-- The pattern of a regular project's documents matches what is in its scope and has no newline
behind it. -/
theorem Regular.accepts_projectPattern (h : Regular project) {tokens : List Glob.Token}
    (htokens : Glob.ofText (projectPattern project) = .ok tokens) :
    Glob.acceptsText tokens key = true ↔
      ∃ rest, key = scope project ++ rest ∧ ∀ c ∈ rest.toList, c ≠ '\n' := by
  have hpattern : projectPattern project = scope project ++ "*" := by
    rw [projectPattern, scope, String.append_assoc, String.append_assoc, String.append_assoc]
    rfl
  -- the text before the star is all ordinary, since the identifier is
  rw [hpattern, Glob.ofText_star h.isOrdinary_scope] at htokens
  obtain rfl := Except.ok.inj htokens
  exact Glob.acceptsText_star

/-- The pattern of a regular project's rosters matches only what is in its scope. -/
theorem Regular.inScope_of_teamPattern (h : Regular project) {tokens : List Glob.Token}
    (htokens : Glob.ofText (teamPattern project) = .ok tokens)
    (hkey : Glob.acceptsText tokens key = true) : InScope project key := by
  have hpattern : teamPattern project = scope project ++ "team:" ++ "*" := by
    show plain project .team ++ ":*" = _
    rw [plain_eq, String.append_assoc, String.append_assoc]
    rfl
  have hordinary : ∀ c ∈ (scope project ++ "team:").toList, Glob.isOrdinary c := by
    intro c hc
    rw [String.toList_append, List.mem_append] at hc
    rcases hc with hc | hc
    · exact h.isOrdinary_scope c hc
    · exact List.all_eq_true.1 (by decide) c hc
  rw [hpattern, Glob.ofText_star hordinary] at htokens
  obtain rfl := Except.ok.inj htokens
  obtain ⟨rest, rfl, -⟩ := Glob.acceptsText_star.1 hkey
  exact ⟨"team:" ++ rest, String.append_assoc⟩

end Key

/-! ## Other projects -/

/-- Outside the scope of the project both stores have the same live entries. -/
def Store.AgreesOutside (store : Store) (now : Nat) (project : String) (reached : Store) : Prop :=
  ∀ key, ¬ Key.InScope project key → reached.live? now key = store.live? now key

namespace Store.AgreesOutside

variable {last : Store}

theorem refl (store : Store) (now : Nat) (project : String) :
    store.AgreesOutside now project store :=
  fun _ _ => rfl

theorem trans (h : store.AgreesOutside now project reached)
    (h' : reached.AgreesOutside now project last) : store.AgreesOutside now project last :=
  fun key hkey => (h' key hkey).trans (h key hkey)

theorem put (hkey : Key.InScope project key) (store : Store) (entry : Entry) :
    store.AgreesOutside now project (store.put key entry) := by
  intro other hother
  rw [live?_put, if_neg]
  rintro rfl
  exact hother hkey

theorem drop (hkey : Key.InScope project key) (store : Store) :
    store.AgreesOutside now project (store.drop key) := by
  intro other hother
  rw [live?_drop, if_neg]
  rintro rfl
  exact hother hkey

theorem without {tokens : List Glob.Token}
    (h : ∀ key, Glob.acceptsText tokens key = true → Key.InScope project key) (store : Store) :
    store.AgreesOutside now project (store.without tokens) := by
  intro key hkey
  rw [live?_without, if_neg fun haccepts => hkey (h key haccepts)]

theorem of_sifted (h : store.Sifted now project reached) :
    store.AgreesOutside now project reached :=
  fun _ hkey => h.live?_of_ne fun _ _ hentry => hkey (Key.entry_inScope hentry)

end Store.AgreesOutside

namespace Cache

theorem Created.agreesOutside {backend : Option String} {outcome : Except Error kind.Value → Prop}
    {result : Except Error kind.Value} (h : Created ttls now kind key outcome store result reached)
    (hkey : Key.entry project kind backend = .ok key) :
    store.AgreesOutside now project reached := by
  have hscope := Key.entry_inScope hkey
  cases h with
  | present => exact .refl store now project
  | failed => exact .drop hscope store
  | created => exact .put hscope store _

theorem Repaired.agreesOutside {requested : Option String} {built : Except Error Bool}
    (h : Repaired ttls now project requested store built reached) :
    store.AgreesOutside now project reached := by
  have hscope := Key.bundle_inScope project
  cases h with
  | rebuilt => exact .trans (.of_sifted (store.sifted_siftInlineAgent now project)) (.put hscope _ _)
  | dropped hsifted => exact .trans (.of_sifted hsifted) (.drop hscope _)
  | refused => exact .of_sifted (store.sifted_siftInlineAgent now project)

theorem Rebuilt.agreesOutside {backend : String} {built : Except Error Bool}
    (h : Rebuilt ttls now project backend store built reached) :
    store.AgreesOutside now project reached := by
  have hsifted := store.sifted_siftInlineAgent now project
  cases h with
  | stored => exact .trans (.of_sifted hsifted) (.put (Key.bundle_inScope project) _ _)
  | refused => exact .of_sifted hsifted
  | missing hsifted => exact .of_sifted hsifted

theorem Bundled.agreesOutside {source : Source} {requested : Option String}
    {result : Except Error Bundle}
    (h : Bundled ttls now source project requested store result reached) :
    store.AgreesOutside now project reached := by
  have hsift : store.AgreesOutside now project
      (store.sift Bundle.decode now (Key.bundle project)) := by
    intro key hkey
    apply Store.live?_sift_of_ne
    rintro rfl
    exact hkey (Key.bundle_inScope project)
  cases h with
  | present => exact .refl store now project
  | failed => exact hsift
  | fetched =>
    refine hsift.trans fun key hkey => ?_
    unfold Store.live?
    rw [Store.find?_withParts_of_not_inScope _ _ _ hkey]

end Cache

end ProjectCache
