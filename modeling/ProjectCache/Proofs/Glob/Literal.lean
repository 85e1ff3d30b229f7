/-
# ProjectCache.Proofs.Glob.Literal — patterns that are a literal text and a final star.

A text of ordinary characters with a star behind it is a pattern (`Glob.ofText_star`). It matches
what begins with the text and goes on without a newline (`Glob.acceptsText_star`). The patterns by
which the documents of a project are removed are of this form when the identifier of the project is.
-/
import ProjectCache.Glob.Pattern

namespace ProjectCache.Glob

/-- Does a character outside of classes stand for itself? -/
def isOrdinary (c : Char) : Bool := c ≠ '*' && c ≠ '?' && c ≠ '[' && c ≠ '\\'

theorem isOrdinary_iff {c : Char} :
    isOrdinary c ↔ c ≠ '*' ∧ c ≠ '?' ∧ c ≠ '[' ∧ c ≠ '\\' := by
  simp [isOrdinary, and_assoc]

theorem special_or_isOrdinary (c : Char) :
    c = '*' ∨ c = '?' ∨ c = '[' ∨ c = '\\' ∨ isOrdinary c := by
  rw [isOrdinary_iff]
  grind

/-! ## Matching one part -/

theorem rows_nil (tokens : List Token) : ∃ b, rows tokens [] = [b] := by
  induction tokens with
  | nil => exact ⟨true, rfl⟩
  | cons t ts ih =>
    obtain ⟨b, hb⟩ := ih
    refine ⟨t = .anyRun && b, ?_⟩
    show t.row [] (rows ts []) = _
    rw [hb, Token.row]

/-- What the parts match of a key is told in front of what they match of its rest. -/
theorem rows_cons (tokens : List Token) (c : Char) (cs : List Char) :
    rows tokens (c :: cs) = accepts tokens (c :: cs) :: rows tokens cs := by
  -- one more character puts one more answer in front, whatever it is
  suffices h : ∃ b, rows tokens (c :: cs) = b :: rows tokens cs by
    obtain ⟨b, hb⟩ := h
    rw [accepts, hb, List.headD_cons]
  induction tokens with
  | nil => exact ⟨false, rfl⟩
  | cons t ts ih =>
    obtain ⟨b, hb⟩ := ih
    show ∃ b', t.row (c :: cs) (rows ts (c :: cs)) = b' :: t.row cs (rows ts cs)
    rw [hb, Token.row]
    exact ⟨_, rfl⟩

theorem rows_cons_token (t : Token) (ts : List Token) (key : List Char) :
    rows (t :: ts) key = t.row key (rows ts key) := rfl

/-- Parts other than stars take one character. -/
theorem accepts_one_nil {t : Token} (h : t ≠ .anyRun) (ts : List Token) :
    accepts (t :: ts) [] = false := by
  obtain ⟨b, hb⟩ := rows_nil ts
  rw [accepts, rows_cons_token, hb, Token.row]
  simp [h]

theorem accepts_one_cons {t : Token} (h : t ≠ .anyRun) (ts : List Token) (c : Char)
    (cs : List Char) : accepts (t :: ts) (c :: cs) = (t.takes c && accepts ts cs) := by
  rw [accepts, rows_cons_token, rows_cons, Token.row]
  simp [h, accepts]

@[simp] theorem accepts_literal_nil (d : Char) (ts : List Token) :
    accepts (.literal d :: ts) [] = false :=
  accepts_one_nil (t := .literal d) nofun ts

@[simp] theorem accepts_literal_cons (d c : Char) (ts : List Token) (cs : List Char) :
    accepts (.literal d :: ts) (c :: cs) = (decide (c = d) && accepts ts cs) :=
  accepts_one_cons (t := .literal d) nofun ts c cs

/-- A star takes nothing, or one character that is no newline and then more of the same. -/
theorem accepts_anyRun_nil (ts : List Token) : accepts (.anyRun :: ts) [] = accepts ts [] := by
  obtain ⟨b, hb⟩ := rows_nil ts
  rw [accepts, accepts, rows_cons_token, hb, Token.row]
  simp

theorem accepts_anyRun_cons (ts : List Token) (c : Char) (cs : List Char) :
    accepts (.anyRun :: ts) (c :: cs)
      = (accepts ts (c :: cs) || decide (c ≠ '\n') && accepts (.anyRun :: ts) cs) := by
  rw [accepts, rows_cons_token, rows_cons, Token.row, ← rows_cons_token, if_pos rfl, if_pos rfl]
  rfl

theorem accepts_nil {key : List Char} : accepts [] key = true ↔ key = [] := by
  cases key <;> simp [accepts, rows, List.replicate_succ]

/-- A star takes a run of characters that are no newlines. -/
theorem accepts_anyRun_iff {ts : List Token} {key : List Char} :
    accepts (.anyRun :: ts) key = true ↔
      ∃ run rest, key = run ++ rest ∧ '\n' ∉ run ∧ accepts ts rest = true := by
  induction key with
  | nil =>
    rw [accepts_anyRun_nil]
    constructor
    · exact fun hnow => ⟨[], [], rfl, List.not_mem_nil, hnow⟩
    · rintro ⟨run, rest, hkey, -, hrest⟩
      obtain ⟨rfl, rfl⟩ := List.append_eq_nil_iff.1 hkey.symm
      exact hrest
  | cons c cs ih =>
    rw [accepts_anyRun_cons, Bool.or_eq_true, Bool.and_eq_true, decide_eq_true_eq, ih]
    constructor
    · rintro (hnow | ⟨hc, run, rest, rfl, hrun, hrest⟩)
      · exact ⟨[], c :: cs, rfl, List.not_mem_nil, hnow⟩
      · refine ⟨c :: run, rest, rfl, ?_, hrest⟩
        rw [List.mem_cons, not_or]
        exact ⟨hc.symm, hrun⟩
    · rintro ⟨run, rest, hkey, hrun, hrest⟩
      cases run with
      | nil => exact .inl (hkey ▸ hrest)
      | cons d run =>
        obtain ⟨rfl, rfl⟩ := List.cons.inj hkey
        rw [List.mem_cons, not_or] at hrun
        exact .inr ⟨Ne.symm hrun.1, run, rest, rfl, hrun.2, hrest⟩

/-- A star at the end takes what has no newline. -/
theorem accepts_star {key : List Char} : accepts [.anyRun] key = true ↔ '\n' ∉ key := by
  rw [accepts_anyRun_iff]
  constructor
  · rintro ⟨run, rest, rfl, hrun, hrest⟩
    obtain rfl := accepts_nil.1 hrest
    rwa [List.append_nil]
  · exact fun hkey => ⟨key, [], (List.append_nil key).symm, hkey, rfl⟩

/-- Literal parts match the text they stand for, and leave the rest to the later parts. -/
theorem accepts_literals {text key : List Char} {ts : List Token} :
    accepts (text.map .literal ++ ts) key = true ↔
      ∃ rest, key = text ++ rest ∧ accepts ts rest = true := by
  -- a literal part takes one character of the key, so both get shorter together
  induction text generalizing key with
  | nil => simp
  | cons d text ih =>
    cases key with
    | nil => simp
    | cons c key =>
      simp only [List.map_cons, List.cons_append, accepts_literal_cons, Bool.and_eq_true,
        decide_eq_true_eq, ih, List.cons.injEq]
      constructor
      · rintro ⟨rfl, rest, rfl, hrest⟩
        exact ⟨rest, ⟨rfl, rfl⟩, hrest⟩
      · rintro ⟨rest, ⟨rfl, rfl⟩, hrest⟩
        exact ⟨rfl, rest, rfl, hrest⟩

/-! ## Reading a pattern -/

theorem pieces?_ordinary {text : List Char} (h : ∀ c ∈ text, isOrdinary c) (rest : List Char) :
    pieces? .between (text ++ rest)
      = (pieces? .between rest).map (text.map (fun c => Piece.token (.literal c)) ++ ·) := by
  induction text with
  | nil => simp
  | cons c text ih =>
    have hc := isOrdinary_iff.1 (h c List.mem_cons_self)
    rw [List.cons_append, pieces?, if_neg hc.2.2.1, if_neg hc.2.2.2,
      ih fun d hd => h d (List.mem_cons_of_mem _ hd)]
    simp [plainToken, hc.1, hc.2.1, Function.comp_def]

theorem readClasses_tokens (ts : List Token) : readClasses (ts.map Piece.token) = some ts := by
  induction ts with
  | nil => rfl
  | cons t ts ih => rw [List.map_cons, readClasses, ih]; rfl

/-- A text without classes is the pattern of its parts. -/
theorem ofText_of_pieces {text : String} {ts : List Token}
    (h : pieces? .between text.toList = some (ts.map Piece.token)) : ofText text = .ok ts := by
  rw [ofText, ofChars, h]
  simp only [readClasses_tokens]

/-- Ordinary characters and a star are a pattern. -/
theorem ofText_star {text : String} (h : ∀ c ∈ text.toList, isOrdinary c) :
    ofText (text ++ "*") = .ok (text.toList.map .literal ++ [.anyRun]) := by
  apply ofText_of_pieces
  rw [String.toList_append, pieces?_ordinary h]
  simp [pieces?, plainToken, Function.comp_def]

/-- They match what begins with the characters and goes on without a newline. -/
theorem acceptsText_star {text key : String} :
    acceptsText (text.toList.map .literal ++ [.anyRun]) key = true ↔
      ∃ rest, key = text ++ rest ∧ ∀ c ∈ rest.toList, c ≠ '\n' := by
  rw [acceptsText, accepts_literals]
  constructor
  · rintro ⟨rest, hkey, hrest⟩
    refine ⟨String.ofList rest, ?_, ?_⟩
    · rw [← String.toList_inj, String.toList_append, String.toList_ofList, hkey]
    · rw [String.toList_ofList]
      rintro c hc rfl
      exact accepts_star.1 hrest hc
  · rintro ⟨rest, rfl, hrest⟩
    exact ⟨rest.toList, String.toList_append, accepts_star.2 fun hc => hrest _ hc rfl⟩

end ProjectCache.Glob
