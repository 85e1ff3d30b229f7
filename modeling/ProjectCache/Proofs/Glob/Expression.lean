/-
# ProjectCache.Proofs.Glob.Expression — patterns and the expressions that are written for them.

Reading the expression that is written for a pattern gives the parts of the pattern between two anchors
(`Expression.compile_eq`), for every pattern: what is escaped is read back, a class ends where the pattern
ends it, and nothing in the expression goes beyond the rules of `Glob.Expression`. A class that lists
nothing is refused for another reason than in the pattern. Its closing bracket is listed, and as the later
classes are closed in it, it never ends (`Expression.Lost`).

An expression with an anchor at each end finds the texts that its parts match as a whole
(`Expression.finds_anchored`).
-/
import ProjectCache.Glob.Expression
import ProjectCache.Proofs.Glob.Splice

namespace ProjectCache.Glob.Expression

variable {c : Char} {cs rest : List Char} {b : Bracket} {stand stand' : Stand}

/-! ## Reading what has been written -/

theorem ne_of_notMem_metas (h : c ∉ metas) : ∀ d ∈ metas, c ≠ d := by
  rintro d hd rfl
  exact h hd

theorem readFrom_cons {items : List Item} (h : stand.read c = .ok (stand', items))
    (rest : List Char) : readFrom stand (c :: rest) = (readFrom stand' rest).map (items ++ ·) := by
  rw [readFrom, h]
  rfl

/-- No part ends at the character. -/
theorem readFrom_cons_nil (h : stand.read c = .ok (stand', [])) (rest : List Char) :
    readFrom stand (c :: rest) = readFrom stand' rest := by
  rw [readFrom_cons h]
  cases readFrom stand' rest <;> rfl

/-- A character that stands for itself is read as such, escaped or not. -/
theorem readFrom_escape (c : Char) (rest : List Char) :
    readFrom .between (escape c ++ rest)
      = (readFrom .between rest).map (.token (.literal c) :: ·) := by
  unfold escape
  split
  · rename_i hmeta
    have hread : Stand.escaped.read c = .ok (.between, [.token (.literal c)]) := if_pos hmeta
    have hbackslash : Stand.between.read '\\' = .ok (.escaped, []) := rfl
    show readFrom .between ('\\' :: c :: rest) = _
    rw [readFrom_cons_nil hbackslash, readFrom_cons hread]
    rfl
  · rename_i hplain
    have hread : Stand.between.read c = .ok (.between, [.token (.literal c)]) := by
      have hne := ne_of_notMem_metas hplain
      show readPlain c = _
      rw [readPlain, if_neg (hne '^' (by decide)), if_neg (hne '$' (by decide)),
        if_neg (hne '.' (by decide)), if_neg (hne '[' (by decide)), if_neg (hne '\\' (by decide)),
        if_neg hplain]
    exact readFrom_cons hread rest

/-- A dot stands alone when no star follows it. -/
theorem readFrom_dot (hc : c ≠ '*') (rest : List Char) :
    readFrom .dot (c :: rest) = (readFrom .between (c :: rest)).map (.token .anyOne :: ·) := by
  have hdot : Stand.dot.read c
      = (readPlain c).map fun next => (next.1, .token .anyOne :: next.2) := if_neg hc
  have hbetween : Stand.between.read c = readPlain c := rfl
  rw [readFrom, readFrom, hdot, hbetween]
  cases readPlain c with
  | error => rfl
  | ok next =>
    show (readFrom next.1 rest).map _ = ((readFrom next.1 rest).map _).map _
    cases readFrom next.1 rest <;> rfl

/-! ## What is written -/

theorem writeFrom_cons (place : Place) (c : Char) (cs : List Char) :
    writeFrom place (c :: cs)
      = (writeFrom (place.write c).1 cs).map ((place.write c).2 ++ ·) := by
  cases place <;> rfl

@[simp] theorem write_star : Place.between.write '*' = (.between, ['.', '*']) := rfl

@[simp] theorem write_question : Place.between.write '?' = (.between, ['.']) := rfl

@[simp] theorem write_bracket : Place.between.write '[' = (.opened, ['[']) := rfl

@[simp] theorem write_backslash : Place.between.write '\\' = (.escaped, []) := rfl

@[simp] theorem write_escaped (c : Char) : Place.escaped.write c = (.between, escape c) := rfl

theorem write_ordinary (h : isOrdinary c) : Place.between.write c = (.between, escape c) := by
  obtain ⟨hstar, hquestion, hbracket, hbackslash⟩ := isOrdinary_iff.1 h
  rw [Place.write, if_neg hstar, if_neg hquestion, if_neg hbracket, if_neg hbackslash]

theorem write_sign (h : c = '^' ∨ c = '!') : Place.opened.write c = (.inClass, ['^']) := if_pos h

theorem write_opened (h : ¬ (c = '^' ∨ c = '!')) : Place.opened.write c = copy c := if_neg h

@[simp] theorem write_inClass (c : Char) : Place.inClass.write c = copy c := rfl

theorem head?_escape_ne (c : Char) (rest : List Char) : (escape c ++ rest).head? ≠ some '*' := by
  unfold escape
  split
  · simp
  · rename_i hplain
    simpa using ne_of_notMem_metas hplain '*' (by decide)

/-- What is written between parts does not begin with a star. -/
theorem head?_write_ne {text : List Char} (h : writeFrom .between cs = some text) :
    (text ++ ['$']).head? ≠ some '*' := by
  cases cs with
  | nil =>
    obtain rfl := Option.some.inj h
    simp
  | cons c cs =>
    obtain ⟨text, htext, rfl⟩ := Option.map_eq_some_iff.1 h
    obtain rfl | rfl | rfl | rfl | hc := special_or_isOrdinary c
    · simp
    · simp
    · simp
    · -- for a backslash something is written with the next character
      cases cs with
      | nil =>
        obtain rfl := Option.some.inj htext
        simp
      | cons d ds =>
        obtain ⟨text, -, rfl⟩ := Option.map_eq_some_iff.1 htext
        simpa using head?_escape_ne d (text ++ ['$'])
    · rw [write_ordinary hc, List.append_assoc]
      exact head?_escape_ne c _

theorem readFrom_star (rest : List Char) :
    readFrom .between ('.' :: '*' :: rest)
      = (readFrom .between rest).map (.token .anyRun :: ·) := by
  have hdot : Stand.between.read '.' = .ok (.dot, []) := rfl
  have hstar : Stand.dot.read '*' = .ok (.between, [.token .anyRun]) := rfl
  rw [readFrom_cons_nil hdot, readFrom_cons hstar]
  rfl

/-- A dot that is written for a question mark stands alone. -/
theorem readFrom_question {text : List Char} (h : writeFrom .between cs = some text) :
    readFrom .between ('.' :: (text ++ ['$']))
      = (readFrom .between (text ++ ['$'])).map (.token .anyOne :: ·) := by
  have hdot : Stand.between.read '.' = .ok (.dot, []) := rfl
  have hhead := head?_write_ne h
  rw [readFrom_cons_nil hdot]
  cases hbody : text ++ ['$'] with
  | nil => simp at hbody
  | cons c rest =>
    rw [hbody] at hhead
    exact readFrom_dot (fun hc => hhead (congrArg some hc)) rest

/-! ## Classes -/

namespace Bracket

@[simp] theorem depth_list : (b.list c).depth = b.depth := rfl

@[simp] theorem front_list : (b.list c).front = .filled := rfl

@[simp] theorem depth_listEscaped : (b.listEscaped c).depth = b.depth := by
  unfold listEscaped
  split <;> rfl

@[simp] theorem front_listEscaped : (b.listEscaped c).front = .filled := by
  unfold listEscaped
  split <;> rfl

theorem depth_step (hbracket : c ≠ '[') : (b.step c).depth = b.depth := by
  rw [step, if_neg hbracket]
  split <;> rfl

theorem front_step_ne (hbracket : c ≠ '[') : (b.step c).front ≠ .opened := by
  rw [step, if_neg hbracket]
  split <;> nofun

/-- A character that is no bracket, and no sign, is listed. -/
theorem step_eq_list (hbracket : c ≠ '[') (hsign : c ≠ '^' ∨ b.front ≠ .opened) :
    b.step c = b.list c := by
  rw [step, if_neg hbracket, if_neg]
  rintro ⟨rfl, hfront⟩
  exact hsign.elim (· rfl) (· hfront)

end Bracket

theorem readFrom_inClass (hbackslash : c ≠ '\\') (hclose : c ≠ ']' ∨ b.front ≠ .filled)
    (rest : List Char) : readFrom (.inClass b) (c :: rest) = readFrom (.inClass (b.step c)) rest := by
  refine readFrom_cons_nil ?_ rest
  rw [Stand.read, if_neg hbackslash, if_neg]
  rintro ⟨rfl, hfront⟩
  exact hclose.elim (· rfl) (· hfront)

/-- A character that is nothing else is listed. -/
theorem readFrom_listed (hbackslash : c ≠ '\\') (hbracket : c ≠ '[')
    (hclose : c ≠ ']' ∨ b.front ≠ .filled) (hsign : c ≠ '^' ∨ b.front ≠ .opened) (rest : List Char) :
    readFrom (.inClass b) (c :: rest) = readFrom (.inClass (b.list c)) rest := by
  rw [readFrom_inClass hbackslash hclose, Bracket.step_eq_list hbracket hsign]

theorem readFrom_inClass_escaped (c : Char) (rest : List Char) :
    readFrom (.inClass b) ('\\' :: c :: rest) = readFrom (.inClass (b.listEscaped c)) rest := by
  have hbackslash : (Stand.inClass b).read '\\' = .ok (.inClassEscaped b, []) := rfl
  have hescaped : (Stand.inClassEscaped b).read c = .ok (.inClass (b.listEscaped c), []) := rfl
  rw [readFrom_cons_nil hbackslash, readFrom_cons_nil hescaped]

/-- A sign is read as such where a class has been opened. -/
theorem readFrom_sign (rest : List Char) :
    readFrom (.inClass .empty) ('^' :: rest)
      = readFrom (.inClass ⟨true, some [], 0, .signed⟩) rest :=
  readFrom_inClass (by decide) (.inl (by decide)) rest

theorem readFrom_close (hdepth : b.depth = 0) (hfront : b.front = .filled) (rest : List Char) :
    readFrom (.inClass b) (']' :: rest)
      = b.close.bind fun item => (readFrom .between rest).map (item :: ·) := by
  rw [readFrom, Stand.read, if_neg (by decide), if_pos ⟨rfl, hfront⟩, hdepth]
  cases b.close <;> rfl

/-- A character that is copied is read back as listed. -/
theorem readFrom_copy (hc : c ≠ ']') (hsign : c ≠ '^' ∨ b.front ≠ .opened) (rest : List Char) :
    readFrom (.inClass b) ((copy c).2 ++ rest) = readFrom (.inClass (b.list c)) rest := by
  unfold copy
  rw [if_neg hc]
  split
  · rename_i hescaped
    have hlist : b.listEscaped c = b.list c := if_pos hescaped
    exact (readFrom_inClass_escaped c rest).trans (by rw [hlist])
  · rename_i hplain
    rw [not_or] at hplain
    exact readFrom_listed hplain.1 hplain.2 (.inl hc) hsign rest

theorem copy_fst (hc : c ≠ ']') : (copy c).1 = .inClass := by
  rw [copy, if_neg hc]
  split <;> rfl

/-! ## A class that lists nothing -/

/-- The reader is in a class that takes all that is still written for a pattern. It goes through the later
classes as classes in that class, and is never back at its end. -/
def Lost : Place → Bracket → Prop
  | .between, b | .escaped, b => b.front = .filled
  | .opened, b => 0 < b.depth
  | .inClass, b => 0 < b.depth ∧ b.front ≠ .opened

theorem readFrom_escape_lost (b : Bracket) (c : Char) :
    ∃ b' : Bracket, b'.front = .filled ∧
      ∀ rest, readFrom (.inClass b) (escape c ++ rest) = readFrom (.inClass b') rest := by
  unfold escape
  split
  · exact ⟨b.listEscaped c, Bracket.front_listEscaped, readFrom_inClass_escaped c⟩
  · rename_i hplain
    have hne := ne_of_notMem_metas hplain
    exact ⟨b.list c, Bracket.front_list, readFrom_listed (hne '\\' (by decide)) (hne '[' (by decide))
      (.inl (hne ']' (by decide))) (.inl (hne '^' (by decide)))⟩

theorem readFrom_copy_lost (hdepth : 0 < b.depth) (hsign : c ≠ '^' ∨ b.front ≠ .opened) :
    ∃ b', Lost (copy c).1 b' ∧
      ∀ rest, readFrom (.inClass b) ((copy c).2 ++ rest) = readFrom (.inClass b') rest := by
  by_cases hc : c = ']'
  · subst hc
    show ∃ b' : Bracket, b'.front = .filled ∧
      ∀ rest, readFrom (.inClass b) (']' :: rest) = readFrom (.inClass b') rest
    by_cases hfront : b.front = .filled
    · -- this closes the innermost class, which is not the one that takes all
      obtain ⟨depth, hdepth⟩ : ∃ depth, b.depth = depth + 1 := ⟨b.depth - 1, by omega⟩
      refine ⟨{ b with depth }, hfront, readFrom_cons_nil ?_⟩
      rw [Stand.read, if_neg (by decide), if_pos ⟨rfl, hfront⟩, hdepth]
    · exact ⟨b.list ']', Bracket.front_list,
        readFrom_listed (by decide) (by decide) (.inr hfront) (.inl (by decide))⟩
  · rw [copy_fst hc]
    exact ⟨b.list c, ⟨hdepth, by simp⟩, readFrom_copy hc hsign⟩

/-- What is written for one character leaves the reader lost. -/
theorem Lost.step {place : Place} (h : Lost place b) (c : Char) :
    ∃ b', Lost (place.write c).1 b' ∧
      ∀ rest, readFrom (.inClass b) ((place.write c).2 ++ rest) = readFrom (.inClass b') rest := by
  cases place with
  | between =>
    have hdot : ∀ {b : Bracket} rest, readFrom (.inClass b) ('.' :: rest)
        = readFrom (.inClass (b.list '.')) rest :=
      readFrom_listed (by decide) (by decide) (.inl (by decide)) (.inl (by decide))
    have hstar : ∀ {b : Bracket} rest, readFrom (.inClass b) ('*' :: rest)
        = readFrom (.inClass (b.list '*')) rest :=
      readFrom_listed (by decide) (by decide) (.inl (by decide)) (.inl (by decide))
    obtain rfl | rfl | rfl | rfl | hc := special_or_isOrdinary c
    · refine ⟨(b.list '.').list '*', Bracket.front_list, fun rest => ?_⟩
      show readFrom _ ('.' :: '*' :: rest) = _
      rw [hdot, hstar]
    · exact ⟨b.list '.', Bracket.front_list, hdot⟩
    · exact ⟨b.step '[', Nat.succ_pos b.depth, readFrom_inClass (by decide) (.inl (by decide))⟩
    · exact ⟨b, h, fun _ => rfl⟩
    · rw [write_ordinary hc]
      exact readFrom_escape_lost b c
  | escaped => exact readFrom_escape_lost b c
  | opened =>
    by_cases hsign : c = '^' ∨ c = '!'
    · have hbracket : '^' ≠ '[' := by decide
      rw [write_sign hsign]
      refine ⟨b.step '^', ⟨?_, Bracket.front_step_ne hbracket⟩,
        readFrom_inClass (by decide) (.inl (by decide))⟩
      rw [Bracket.depth_step hbracket]
      exact h
    · rw [write_opened hsign]
      exact readFrom_copy_lost h (.inl fun hc => hsign (.inl hc))
  | inClass => exact readFrom_copy_lost h.1 (.inr h.2)

/-- A reader that is lost reaches the end of the text in the class. -/
theorem Lost.readFrom_eq {place : Place} (h : Lost place b) {text : List Char}
    (htext : writeFrom place cs = some text) :
    readFrom (.inClass b) (text ++ ['$']) = .error .malformed := by
  -- by induction on the pattern, of which each character leaves the reader lost
  induction cs generalizing place b text with
  | nil =>
    have hend : readFrom (.inClass b) ['$'] = .error .malformed := by
      rw [readFrom_inClass (by decide) (.inl (by decide))]
      rfl
    cases place with
    | between | escaped =>
      obtain rfl := Option.some.inj htext
      exact hend
    | opened | inClass => cases htext
  | cons c cs ih =>
    rw [writeFrom_cons] at htext
    obtain ⟨later, hlater, rfl⟩ := Option.map_eq_some_iff.1 htext
    obtain ⟨b', hlost, hread⟩ := h.step c
    rw [List.append_assoc, hread]
    exact ih hlost hlater

/-! ## Reading the expression of a pattern -/

/-- What comes of the parts of a pattern. -/
def outcome (pieces : List Piece) : Except Refusal (List Item) :=
  match readClasses pieces with
  | none => .error .malformed
  | some tokens => .ok (tokens.map .token ++ [.textEnd])

theorem outcome_token (t : Token) (pieces : List Piece) :
    outcome (.token t :: pieces) = (outcome pieces).map (.token t :: ·) := by
  rw [outcome, outcome, readClasses]
  cases readClasses pieces <;> rfl

theorem outcome_class (content : List Char) (pieces : List Piece) :
    outcome (.classContent content :: pieces)
      = match CharClass.ofContent? content with
        | none => .error .malformed
        | some cls => (outcome pieces).map (.token (.oneOf cls) :: ·) := by
  rw [outcome, outcome, readClasses]
  cases CharClass.ofContent? content with
  | none => rfl
  | some cls => cases readClasses pieces <;> rfl

/-- The characters that the reader of an expression has listed, and what the reader of the pattern has
seen of the same class, come to the same, whatever more is listed. -/
def Lists (negated : Bool) (listed seen : List Char) : Prop :=
  ∀ more, CharClass.ofContent? (seen.reverse ++ more)
    = (CharClass.readListed (listed.reverse ++ more)).map (⟨negated, ·⟩)

theorem Lists.cons {negated : Bool} {listed seen : List Char} (h : Lists negated listed seen)
    (c : Char) : Lists negated (c :: listed) (c :: seen) := by
  intro more
  rw [List.reverse_cons, List.reverse_cons, List.append_assoc, List.append_assoc]
  exact h (c :: more)

/-- Where the reader of an expression, and the reader of the pattern, stand when the writer stands
somewhere. -/
inductive Follows : Place → Stand → Glob.Place → Prop where
  | between : Follows .between .between .between
  | escaped : Follows .escaped .between .escaped
  | opened : Follows .opened (.inClass .empty) (.inClass [])
  | signed {sign : Char} (h : sign = '^' ∨ sign = '!') :
    Follows .inClass (.inClass ⟨true, some [], 0, .signed⟩) (.inClass [sign])
  | filled {negated : Bool} {listed seen : List Char} (h : Lists negated listed seen) :
    Follows .inClass (.inClass ⟨negated, some listed, 0, .filled⟩) (.inClass seen)

/-- The expression of a pattern is read as the pattern is. -/
def Agrees (place : Place) (stand : Stand) (place' : Glob.Place) (cs : List Char) : Prop :=
  (writeFrom place cs).map (fun text => readFrom stand (text ++ ['$']))
    = (pieces? place' cs).map outcome

/-- Either neither is complete, or both are, and come to the same. -/
theorem Agrees.cases {place : Place} {place' : Glob.Place} (h : Agrees place stand place' cs) :
    (writeFrom place cs = none ∧ pieces? place' cs = none) ∨
    ∃ text pieces, writeFrom place cs = some text ∧ pieces? place' cs = some pieces ∧
      readFrom stand (text ++ ['$']) = outcome pieces := by
  unfold Agrees at h
  cases htext : writeFrom place cs with
  | none =>
    rw [htext] at h
    exact .inl ⟨rfl, Option.map_eq_none_iff.1 h.symm⟩
  | some text =>
    rw [htext] at h
    obtain ⟨pieces, hpieces, heq⟩ := Option.map_eq_some_iff.1 h.symm
    exact .inr ⟨text, pieces, rfl, hpieces, heq.symm⟩

/-- One character more makes the same difference to both readings. -/
theorem Agrees.cons {place₀ place : Place} {place₀' place' : Glob.Place}
    (next : Except Refusal (List Item) → Except Refusal (List Item))
    (h : Agrees place stand' place' cs) {out : List Char} (hwrite : place₀.write c = (place, out))
    (hread : ∀ text, writeFrom place cs = some text →
      readFrom stand (out ++ (text ++ ['$'])) = next (readFrom stand' (text ++ ['$'])))
    {f : List Piece → List Piece} (hpieces : pieces? place₀' (c :: cs) = (pieces? place' cs).map f)
    (houtcome : ∀ pieces, outcome (f pieces) = next (outcome pieces)) :
    Agrees place₀ stand place₀' (c :: cs) := by
  unfold Agrees
  rw [writeFrom_cons, hwrite, hpieces]
  obtain ⟨htext, hlater⟩ | ⟨text, pieces, htext, hlater, heq⟩ := h.cases
  · rw [htext, hlater]
    rfl
  · simp only [htext, hlater, Option.map_some, List.append_assoc]
    rw [hread text htext, heq, houtcome]

theorem agrees_nil {place : Place} {place' : Glob.Place} (h : Follows place stand place') :
    Agrees place stand place' [] := by
  cases h with
  | between | escaped => rfl
  | opened | signed | filled => rfl

/-- A character of a class that does not close it. -/
theorem Agrees.copied {place : Place} {seen : List Char} {b : Bracket}
    (h : Agrees .inClass (.inClass (b.list c)) (.inClass (c :: seen)) cs) (hc : c ≠ ']')
    (hwrite : place.write c = copy c) (hsign : c ≠ '^' ∨ b.front ≠ .opened) :
    Agrees place (.inClass b) (.inClass seen) (c :: cs) := by
  refine h.cons id (f := id) (hwrite.trans (Prod.ext (copy_fst hc) rfl)) ?_ ?_ fun _ => rfl
  · exact fun text _ => readFrom_copy hc hsign _
  · rw [pieces?, if_neg hc, Option.map_id]
    rfl

/-- The end of a class that lists nothing. -/
theorem Agrees.lost {place : Place} {seen : List Char}
    (h : Agrees .between .between .between cs) (hwrite : place.write ']' = copy ']')
    (hb : b.front ≠ .filled) (hseen : CharClass.ofContent? seen.reverse = none) :
    Agrees place (.inClass b) (.inClass seen) (']' :: cs) := by
  refine h.cons (fun _ => .error .malformed) (f := (.classContent seen.reverse :: ·)) hwrite ?_ ?_ ?_
  · intro text htext
    have hlost : Lost .between (b.list ']') := Bracket.front_list
    show readFrom _ (']' :: (text ++ ['$'])) = _
    rw [readFrom_listed (by decide) (by decide) (.inr hb) (.inl (by decide))]
    exact hlost.readFrom_eq htext
  · rw [pieces?, if_pos rfl]
  · intro pieces
    rw [outcome_class, hseen]

/-- The end of a class that lists something. -/
theorem Agrees.closed {negated : Bool} {listed seen : List Char} (hlists : Lists negated listed seen)
    (h : Agrees .between .between .between cs) :
    Agrees .inClass (.inClass ⟨negated, some listed, 0, .filled⟩) (.inClass seen) (']' :: cs) := by
  have hcontent : CharClass.ofContent? seen.reverse
      = (CharClass.readListed listed.reverse).map (⟨negated, ·⟩) := by
    simpa using hlists []
  refine h.cons
    (fun later => (Bracket.close ⟨negated, some listed, 0, .filled⟩).bind fun item =>
      later.map (item :: ·))
    (f := (.classContent seen.reverse :: ·)) rfl (fun _ _ => readFrom_close rfl rfl _) ?_ ?_
  · rw [pieces?, if_pos rfl]
  · intro pieces
    rw [outcome_class, hcontent]
    simp only [Bracket.close]
    cases CharClass.readListed listed.reverse <;> rfl

/-- The readings agree wherever the writer stands. -/
theorem agrees_of_follows {place : Place} {place' : Glob.Place} (h : Follows place stand place')
    (cs : List Char) : Agrees place stand place' cs := by
  -- by induction on the pattern; what a character is written as is read in one go
  induction cs generalizing place stand place' with
  | nil => exact agrees_nil h
  | cons c cs ih =>
    cases h with
    | between =>
      obtain rfl | rfl | rfl | rfl | hc := special_or_isOrdinary c
      · exact (ih .between).cons (Except.map (.token .anyRun :: ·)) (f := (.token .anyRun :: ·)) rfl
          (fun _ _ => readFrom_star _) rfl (outcome_token .anyRun)
      · exact (ih .between).cons (Except.map (.token .anyOne :: ·)) (f := (.token .anyOne :: ·)) rfl
          (fun _ htext => readFrom_question htext) rfl (outcome_token .anyOne)
      · refine (ih .opened).cons id (f := id) rfl (fun _ _ => ?_) ?_ fun _ => rfl
        · have hbracket : Stand.between.read '[' = .ok (.inClass .empty, []) := rfl
          exact readFrom_cons_nil hbracket _
        · rw [Option.map_id]
          rfl
      · refine (ih .escaped).cons id (f := id) rfl (fun _ _ => rfl) ?_ fun _ => rfl
        rw [Option.map_id]
        rfl
      · refine (ih .between).cons (Except.map (.token (.literal c) :: ·))
          (f := (.token (.literal c) :: ·)) (write_ordinary hc) (fun _ _ => readFrom_escape c _) ?_
          (outcome_token (.literal c))
        have hpieces := pieces?_ordinary (fun d hd => List.mem_singleton.1 hd ▸ hc) cs
        exact hpieces
    | escaped =>
      exact (ih .between).cons (Except.map (.token (.literal c) :: ·))
        (f := (.token (.literal c) :: ·)) rfl (fun _ _ => readFrom_escape c _) rfl
        (outcome_token (.literal c))
    | opened =>
      by_cases hsign : c = '^' ∨ c = '!'
      · refine (ih (.signed hsign)).cons id (f := id) (write_sign hsign)
          (fun _ _ => readFrom_sign _) ?_ fun _ => rfl
        rw [pieces?, if_neg (by rintro rfl; exact absurd hsign (by decide)), Option.map_id]
        rfl
      · by_cases hc : c = ']'
        · subst hc
          exact (ih .between).lost rfl (by simp [Bracket.empty]) rfl
        · have hlists : Lists false [c] [c] := fun more => if_neg hsign
          have hnext : Agrees .inClass (.inClass (Bracket.empty.list c)) (.inClass [c]) cs :=
            ih (.filled hlists)
          exact hnext.copied hc (write_opened hsign) (.inl fun hcaret => hsign (.inl hcaret))
    | @signed sign hsign =>
      by_cases hc : c = ']'
      · subst hc
        have hempty : CharClass.ofContent? [sign] = none := by
          rw [CharClass.ofContent?, if_pos hsign]
          rfl
        exact (ih .between).lost rfl (by simp) hempty
      · have hlists : Lists true [c] [c, sign] := fun more => if_pos hsign
        have hnext : Agrees .inClass (.inClass (Bracket.list ⟨true, some [], 0, .signed⟩ c))
            (.inClass [c, sign]) cs := ih (.filled hlists)
        exact hnext.copied hc rfl (.inr (by simp))
    | @filled negated listed seen hlists =>
      by_cases hc : c = ']'
      · subst hc
        exact (ih .between).closed hlists
      · have hnext : Agrees .inClass (.inClass (Bracket.list ⟨negated, some listed, 0, .filled⟩ c))
            (.inClass (c :: seen)) cs := ih (.filled (hlists.cons c))
        exact hnext.copied hc rfl (.inr (by simp))

/-- The parts of a pattern between two anchors. -/
def anchored (tokens : List Token) : List Item :=
  .textStart :: (tokens.map .token ++ [.textEnd])

/-- What is said of the expression of a pattern that cannot be read. -/
def Refusal.ofFault : Fault → Refusal
  | .unterminatedClass => .unterminated
  | .invalid => .malformed

/-- A pattern and its expression have the same parts, and are refused together. -/
theorem compile_eq (pattern : String) :
    compile pattern = ((ofText pattern).mapError Refusal.ofFault).map anchored := by
  rw [compile, write, ofText, ofChars]
  obtain ⟨htext, hpieces⟩ | ⟨body, pieces, htext, hpieces, hbody⟩ :=
    (agrees_of_follows .between pattern.toList).cases
  · rw [htext, hpieces]
    rfl
  · have hstart : Stand.between.read '^' = .ok (.between, [.textStart]) := rfl
    rw [htext, hpieces]
    show readFrom .between ('^' :: (body ++ ['$'])) = _
    rw [readFrom_cons hstart, hbody, outcome]
    simp only
    cases readClasses pieces <;> rfl

/-! ## Searching with the parts of a pattern -/

theorem leadsThrough_anyRun {before taken after : List Char} :
    (Item.token .anyRun).LeadsThrough before taken after ↔ '\n' ∉ taken := by
  show (∀ c ∈ taken, decide (c ≠ '\n') = true) ↔ _
  constructor
  · intro h hnewline
    exact absurd (h _ hnewline) (by decide)
  · intro h c hc
    exact decide_eq_true (ne_of_mem_of_not_mem hc h)

theorem leadsThrough_one {t : Token} (h : t ≠ .anyRun) {before taken after : List Char} :
    (Item.token t).LeadsThrough before taken after ↔ ∃ c, taken = [c] ∧ t.takes c = true := by
  cases t with
  | anyRun => exact absurd rfl h
  | anyOne | oneOf | literal => exact Iff.rfl

/-- The parts and the end of the text are led through as the parts match. -/
theorem leadThrough_tokens {tokens : List Token} {before taken after : List Char} :
    LeadThrough (tokens.map .token ++ [.textEnd]) before taken after ↔
      after = [] ∧ accepts tokens taken = true := by
  -- by induction on the parts, each of which takes its share of the text
  induction tokens generalizing before taken with
  | nil =>
    rw [accepts_nil]
    constructor
    · rintro ⟨_, _, rfl, ⟨rfl, hafter⟩, rfl⟩
      exact ⟨hafter, rfl⟩
    · rintro ⟨rfl, rfl⟩
      exact ⟨[], [], rfl, ⟨rfl, rfl⟩, rfl⟩
  | cons t tokens ih =>
    show (∃ first rest, taken = first ++ rest ∧ _ ∧
      LeadThrough (tokens.map .token ++ [.textEnd]) (before ++ first) rest after) ↔ _
    simp only [ih]
    by_cases ht : t = .anyRun
    · subst ht
      simp only [leadsThrough_anyRun, accepts_anyRun_iff]
      constructor
      · rintro ⟨run, rest, htaken, hrun, hafter, hrest⟩
        exact ⟨hafter, run, rest, htaken, hrun, hrest⟩
      · rintro ⟨hafter, run, rest, htaken, hrun, hrest⟩
        exact ⟨run, rest, htaken, hrun, hafter, hrest⟩
    · simp only [leadsThrough_one ht, accepts_one_iff ht]
      constructor
      · rintro ⟨_, rest, rfl, ⟨c, rfl, hc⟩, hafter, hrest⟩
        exact ⟨hafter, c, rest, rfl, hc, hrest⟩
      · rintro ⟨hafter, c, rest, rfl, hc, hrest⟩
        exact ⟨[c], rest, rfl, ⟨c, rfl, hc⟩, hafter, hrest⟩

/-- Between two anchors the parts of a pattern find what they match as a whole. -/
theorem finds_anchored {tokens : List Token} {key : List Char} :
    Finds (anchored tokens) key ↔ accepts tokens key = true := by
  constructor
  · rintro ⟨_, _, after, rfl, _, rest, rfl, ⟨rfl, rfl⟩, hrest⟩
    obtain ⟨rfl, hrest⟩ := leadThrough_tokens.1 hrest
    rwa [List.nil_append, List.nil_append, List.append_nil]
  · intro hkey
    have hlead : LeadThrough (tokens.map .token ++ [.textEnd]) [] key [] :=
      leadThrough_tokens.2 ⟨rfl, hkey⟩
    exact ⟨[], key, [], (List.append_nil key).symm, [], key, rfl, ⟨rfl, rfl⟩, hlead⟩

end ProjectCache.Glob.Expression
