/-
# ProjectCache.Proofs.Glob.Splice — an identifier that is spliced into a pattern.

A pattern that is put together from literal text, an identifier, more literal text and a final star
takes the identifier for a pattern of its own (`Glob.ofText_splice`): it matches the keys that have in
the place of the identifier whatever the identifier matches, and no newline behind
(`Glob.acceptsText_splice`). An identifier of ordinary characters matches itself alone
(`Glob.ofText_ordinary`, `Glob.acceptsText_literals`); one with a bracket or a star in it matches
others, or not even itself, and one with an open bracket makes no pattern at all.
-/
import ProjectCache.Proofs.Glob.Literal

namespace ProjectCache.Glob

/-! ## Matching parts in a row -/

/-- A part that takes one character matches the front of a key, and the later parts its rest. -/
theorem accepts_one_iff {t : Token} (h : t ≠ .anyRun) {ts : List Token} {key : List Char} :
    accepts (t :: ts) key = true ↔
      ∃ c rest, key = c :: rest ∧ t.takes c = true ∧ accepts ts rest = true := by
  cases key with
  | nil =>
    rw [accepts_one_nil h]
    simp
  | cons c cs =>
    rw [accepts_one_cons h, Bool.and_eq_true]
    constructor
    · exact fun ⟨hc, hcs⟩ => ⟨c, cs, rfl, hc, hcs⟩
    · rintro ⟨_, _, ⟨⟩, hc, hcs⟩
      exact ⟨hc, hcs⟩

/-- Parts in a row match a key that can be cut into what the first and what the others match. -/
theorem accepts_append {ts us : List Token} {key : List Char} :
    accepts (ts ++ us) key = true ↔
      ∃ front back, key = front ++ back ∧ accepts ts front = true ∧ accepts us back = true := by
  -- by induction on the parts in front, each of which takes its share of the key
  induction ts generalizing key with
  | nil =>
    constructor
    · exact fun hkey => ⟨[], key, rfl, rfl, hkey⟩
    · rintro ⟨front, back, rfl, hfront, hback⟩
      obtain rfl := accepts_nil.1 hfront
      exact hback
  | cons t ts ih =>
    by_cases ht : t = .anyRun
    · subst ht
      rw [List.cons_append, accepts_anyRun_iff]
      constructor
      · rintro ⟨run, rest, rfl, hrun, hrest⟩
        obtain ⟨front, back, rfl, hfront, hback⟩ := ih.1 hrest
        exact ⟨run ++ front, back, (List.append_assoc ..).symm,
          accepts_anyRun_iff.2 ⟨run, front, rfl, hrun, hfront⟩, hback⟩
      · rintro ⟨front, back, rfl, hfront, hback⟩
        obtain ⟨run, rest, rfl, hrun, hrest⟩ := accepts_anyRun_iff.1 hfront
        exact ⟨run, rest ++ back, List.append_assoc .., hrun, ih.2 ⟨rest, back, rfl, hrest, hback⟩⟩
    · rw [List.cons_append, accepts_one_iff ht]
      constructor
      · rintro ⟨c, rest, rfl, hc, hrest⟩
        obtain ⟨front, back, rfl, hfront, hback⟩ := ih.1 hrest
        exact ⟨c :: front, back, rfl, (accepts_one_iff ht).2 ⟨c, front, rfl, hc, hfront⟩, hback⟩
      · rintro ⟨front, back, rfl, hfront, hback⟩
        obtain ⟨c, rest, rfl, hc, hrest⟩ := (accepts_one_iff ht).1 hfront
        exact ⟨c, rest ++ back, rfl, hc, ih.2 ⟨rest, back, rfl, hrest, hback⟩⟩

/-! ## Reading parts in a row -/

/-- Nothing closes a class but a closing bracket. -/
theorem pieces?_inClass {rest : List Char} (h : ']' ∉ rest) (seen : List Char) :
    pieces? (.inClass seen) rest = none := by
  induction rest generalizing seen with
  | nil => rfl
  | cons c rest ih =>
    rw [List.mem_cons, not_or] at h
    rw [pieces?, if_neg (Ne.symm h.1)]
    exact ih h.2 _

/-- What follows a text does not change how the text is cut, when it closes no class and its first
character stands for itself with a backslash in front as well. -/
theorem pieces?_append {rest : List Char} (hescaped : pieces? .escaped rest = pieces? .between rest)
    (hclass : ∀ seen, pieces? (.inClass seen) rest = none) (place : Place) (text : List Char) :
    pieces? place (text ++ rest)
      = (pieces? place text).bind fun ps => (pieces? .between rest).map (ps ++ ·) := by
  induction text generalizing place with
  | nil =>
    cases place with
    | between => simp [pieces?]
    | escaped => simp [pieces?, hescaped]
    | inClass seen => simp [pieces?, hclass]
  | cons d text ih =>
    -- a part that ends here is put in front of those that come from the later characters
    have hcons : ∀ p : Piece, (pieces? .between (text ++ rest)).map (p :: ·)
        = ((pieces? .between text).map (p :: ·)).bind fun ps =>
          (pieces? .between rest).map (ps ++ ·) := by
      intro p
      rw [ih]
      cases pieces? .between text <;> cases pieces? .between rest <;> rfl
    cases place with
    | between =>
      rw [List.cons_append, pieces?, pieces?]
      split
      · exact ih _
      · split
        · exact ih _
        · exact hcons _
    | escaped =>
      rw [List.cons_append, pieces?, pieces?]
      exact hcons _
    | inClass seen =>
      rw [List.cons_append, pieces?, pieces?]
      split
      · exact hcons _
      · exact ih _

theorem readClasses_append (ps qs : List Piece) :
    readClasses (ps ++ qs) = (readClasses ps).bind fun ts => (readClasses qs).map (ts ++ ·) := by
  induction ps with
  | nil => simp [readClasses]
  | cons p ps ih =>
    cases p with
    | token t =>
      rw [List.cons_append, readClasses, readClasses, ih]
      cases readClasses ps <;> cases readClasses qs <;> rfl
    | classContent content =>
      rw [List.cons_append, readClasses, readClasses]
      cases CharClass.ofContent? content with
      | none => rfl
      | some cls =>
        simp only [ih]
        cases readClasses ps <;> cases readClasses qs <;> rfl

/-! ## Patterns around an identifier -/

/-- The parts of literal text. -/
def literals (text : String) : List Token := text.toList.map .literal

/-- The parts of a pattern with a spliced identifier. -/
def splice (front tail : String) (tokens : List Token) : List Token :=
  literals front ++ (tokens ++ (literals tail ++ [.anyRun]))

/-- Literal text is cut into literal parts. -/
theorem pieces?_literals {text : String} (h : ∀ c ∈ text.toList, isOrdinary c) (rest : List Char) :
    pieces? .between (text.toList ++ rest)
      = (pieces? .between rest).map ((literals text).map Piece.token ++ ·) := by
  rw [pieces?_ordinary h, literals, List.map_map]
  rfl

/-- An identifier between literal texts is read as a pattern of its own. -/
theorem ofText_splice {front tail : String} (hfront : ∀ c ∈ front.toList, isOrdinary c)
    (htail : ∀ c ∈ tail.toList, isOrdinary c ∧ c ≠ ']') (hne : tail.toList ≠ []) (id : String) :
    ofText (front ++ id ++ tail ++ "*") = (ofText id).map (splice front tail) := by
  have hordinary : ∀ c ∈ tail.toList, isOrdinary c := fun c hc => (htail c hc).1
  have hescaped : pieces? .escaped (tail.toList ++ ['*'])
      = pieces? .between (tail.toList ++ ['*']) := by
    cases htext : tail.toList with
    | nil => exact absurd htext hne
    | cons c cs =>
      rw [htext] at hordinary
      have hc : ∀ d ∈ [c], isOrdinary d :=
        fun d hd => hordinary d (List.mem_singleton.1 hd ▸ List.mem_cons_self)
      rw [List.cons_append, pieces?]
      exact (pieces?_ordinary hc (cs ++ ['*'])).symm
  have hclass : ∀ seen, pieces? (.inClass seen) (tail.toList ++ ['*']) = none := by
    refine pieces?_inClass ?_
    rw [List.mem_append, not_or]
    exact ⟨fun hc => (htail _ hc).2 rfl, by decide⟩
  have hpieces : pieces? .between (front ++ id ++ tail ++ "*").toList
      = (pieces? .between id.toList).map fun ps => (literals front).map Piece.token ++
        (ps ++ (literals tail ++ [Token.anyRun]).map Piece.token) := by
    have hstar : pieces? .between ['*'] = some [Piece.token .anyRun] := rfl
    rw [String.toList_append, String.toList_append, String.toList_append, List.append_assoc,
      List.append_assoc, pieces?_literals hfront]
    show Option.map _ (pieces? .between (id.toList ++ (tail.toList ++ ['*']))) = _
    rw [pieces?_append hescaped hclass, pieces?_literals hordinary, hstar]
    cases pieces? .between id.toList <;> simp
  have hclasses : ∀ ps, readClasses ((literals front).map Piece.token ++
      (ps ++ (literals tail ++ [Token.anyRun]).map Piece.token))
        = (readClasses ps).map (splice front tail) := by
    intro ps
    rw [readClasses_append, readClasses_append, readClasses_tokens, readClasses_tokens]
    cases readClasses ps <;> rfl
  rw [ofText, ofText, ofChars, ofChars, hpieces]
  cases pieces? .between id.toList with
  | none => rfl
  | some ps =>
    simp only [Option.map_some, hclasses]
    cases readClasses ps <;> rfl

/-- It matches what has in the place of the identifier what the identifier matches. -/
theorem acceptsText_splice {front tail key : String} {tokens : List Token} :
    acceptsText (splice front tail tokens) key = true ↔
      ∃ middle rest, key = front ++ middle ++ tail ++ rest ∧
        acceptsText tokens middle = true ∧ '\n' ∉ rest.toList := by
  rw [acceptsText, splice, literals, accepts_literals]
  constructor
  · rintro ⟨back, hkey, hback⟩
    obtain ⟨middle, last, rfl, hmiddle, hlast⟩ := accepts_append.1 hback
    obtain ⟨rest, rfl, hrest⟩ := accepts_literals.1 hlast
    refine ⟨String.ofList middle, String.ofList rest, ?_, ?_, ?_⟩
    · rw [← String.toList_inj, hkey]
      simp
    · rw [acceptsText, String.toList_ofList]
      exact hmiddle
    · rw [String.toList_ofList]
      exact accepts_star.1 hrest
  · rintro ⟨middle, rest, rfl, hmiddle, hrest⟩
    refine ⟨middle.toList ++ (tail.toList ++ rest.toList), by simp, ?_⟩
    exact accepts_append.2 ⟨_, _, rfl, hmiddle, accepts_literals.2 ⟨_, rfl, accepts_star.2 hrest⟩⟩

/-- An identifier of ordinary characters is a pattern that matches the identifier alone. -/
theorem ofText_ordinary {id : String} (h : ∀ c ∈ id.toList, isOrdinary c) :
    ofText id = .ok (literals id) := by
  apply ofText_of_pieces
  have hcut := pieces?_literals h []
  simpa [pieces?] using hcut

theorem acceptsText_literals {id text : String} :
    acceptsText (literals id) text = true ↔ text = id := by
  rw [acceptsText, literals, ← List.append_nil (id.toList.map _), accepts_literals]
  constructor
  · rintro ⟨rest, htext, hrest⟩
    obtain rfl := accepts_nil.1 hrest
    rw [List.append_nil] at htext
    exact String.toList_inj.1 htext
  · rintro rfl
    exact ⟨[], (List.append_nil _).symm, rfl⟩

end ProjectCache.Glob
