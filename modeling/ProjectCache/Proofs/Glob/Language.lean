/-
# ProjectCache.Proofs.Glob.Language — the language of a pattern.

The text of a pattern is a row of parts: stars, question marks, classes, escaped and plain characters, and
at its end maybe a lone backslash or a class that is never closed (`Glob.Cut`). Each part takes some runs
of characters (`Part.Takes`), and the language of the pattern has the keys that can be split into such
runs, in order (`Glob.Matches`).

A pattern whose classes use none of the operators is accepted when every class is closed and lists
something, and then it matches its language, whether it is matched directly or as the regular expression
that is written for it (`Glob.matches_exactly`).
-/
import Mathlib.Data.List.Forall2
import ProjectCache.Proofs.Glob.Expression

namespace ProjectCache.Glob

/-! ## The parts of a text -/

/-- A part of the text of a pattern. -/
inductive Part where
  | star
  | question
  | bracket (sign : Option Char) (listed : List Char)
  | escape (c : Char)
  | plain (c : Char)

namespace Part

/-- How a part is written. -/
def text : Part → List Char
  | star => ['*']
  | question => ['?']
  | bracket sign listed => '[' :: (sign.toList ++ listed ++ [']'])
  | escape c => ['\\', c]
  | plain c => [c]

/-- Is this what the part is read as? A class goes to the first closing bracket, and its first character
is a sign if it can be one. A plain character is nothing else. -/
def IsProper : Part → Prop
  | bracket (some sign) listed => (sign = '^' ∨ sign = '!') ∧ ']' ∉ listed
  | bracket none listed => ']' ∉ listed ∧ ∀ c ∈ listed.head?, c ≠ '^' ∧ c ≠ '!'
  | plain c => isOrdinary c
  | _ => True

/-- A class whose characters are listed one by one. -/
def IsSimple : Part → Prop
  | bracket _ listed => ∀ c ∈ listed, c ≠ '-' ∧ c ≠ '&' ∧ c ≠ '~'
  | _ => True

/-- A class that lists nothing. -/
def ListsNothing : Part → Prop
  | bracket _ listed => listed = []
  | _ => False

/-- The runs of characters that a part takes. -/
def Takes : Part → List Char → Prop
  | star, run => '\n' ∉ run
  | question, run => ∃ c, run = [c] ∧ c ≠ '\n'
  | bracket none listed, run => ∃ c, run = [c] ∧ c ∈ listed
  | bracket (some _) listed, run => ∃ c, run = [c] ∧ c ∉ listed
  | escape c, run | plain c, run => run = [c]

end Part

/-- What stands at the end of a text behind its parts. -/
inductive Ending where
  | complete
  | backslash
  | openClass (content : List Char)

namespace Ending

/-- How it is written. -/
def text : Ending → List Char
  | complete => []
  | backslash => ['\\']
  | openClass content => '[' :: content

/-- Nothing closes the last class. -/
def IsProper : Ending → Prop
  | openClass content => ']' ∉ content
  | _ => True

/-- Does the text end in a class? -/
def IsOpen : Ending → Prop
  | openClass _ => True
  | _ => False

end Ending

/-- The parts of a text, and its end. -/
structure Cut (text : List Char) (parts : List Part) (ending : Ending) : Prop where
  text_eq : text = parts.flatMap Part.text ++ ending.text
  proper : ∀ part ∈ parts, part.IsProper
  proper_ending : ending.IsProper

/-- The language of parts in a row. -/
def Matches (parts : List Part) (key : List Char) : Prop :=
  ∃ runs, List.Forall₂ Part.Takes parts runs ∧ key = runs.flatten

/-! ## Cutting a text -/

theorem Cut.cons {text : List Char} {parts : List Part} {ending : Ending} (h : Cut text parts ending)
    {part : Part} (hpart : part.IsProper) : Cut (part.text ++ text) (part :: parts) ending where
  text_eq := by rw [h.text_eq, List.flatMap_cons, List.append_assoc]
  proper := by
    intro other hother
    rcases List.mem_cons.1 hother with rfl | hother
    · exact hpart
    · exact h.proper other hother
  proper_ending := h.proper_ending

/-- The content of a class is a sign, if it can begin with one, and what is listed. -/
theorem exists_bracket {content : List Char} (h : ']' ∉ content) :
    ∃ sign listed, (Part.bracket sign listed).IsProper ∧ content = sign.toList ++ listed := by
  cases content with
  | nil => exact ⟨none, [], ⟨h, nofun⟩, rfl⟩
  | cons c listed =>
    by_cases hc : c = '^' ∨ c = '!'
    · exact ⟨some c, listed, ⟨hc, fun hmem => h (List.mem_cons_of_mem c hmem)⟩, rfl⟩
    · rw [not_or] at hc
      refine ⟨none, c :: listed, ⟨h, ?_⟩, rfl⟩
      rintro d ⟨⟩
      exact hc

/-- Every text can be cut. -/
theorem exists_cut (text : List Char) : ∃ parts ending, Cut text parts ending := by
  -- a part is taken off the front, and the rest is shorter
  induction hlength : text.length using Nat.strongRecOn generalizing text with
  | ind length ih =>
    have hrest : ∀ (part : Part) (rest : List Char), part.IsProper → text = part.text ++ rest →
        rest.length < length → ∃ parts ending, Cut text parts ending := by
      intro part rest hpart htext hlt
      obtain ⟨parts, ending, hcut⟩ := ih _ hlt rest rfl
      exact ⟨part :: parts, ending, htext ▸ hcut.cons hpart⟩
    cases text with
    | nil => exact ⟨[], .complete, rfl, nofun, trivial⟩
    | cons c cs =>
      have hlt : cs.length < length := by
        rw [← hlength]
        exact Nat.lt_succ_self _
      obtain rfl | rfl | rfl | rfl | hc := special_or_isOrdinary c
      · exact hrest .star cs trivial rfl hlt
      · exact hrest .question cs trivial rfl hlt
      · by_cases hclose : ']' ∈ cs
        · obtain ⟨content, rest, rfl, hcontent⟩ := List.eq_append_cons_of_mem hclose
          obtain ⟨sign, listed, hproper, rfl⟩ := exists_bracket hcontent
          refine hrest (.bracket sign listed) rest hproper (by simp [Part.text]) ?_
          simp at hlt
          omega
        · exact ⟨[], .openClass cs, rfl, nofun, hclose⟩
      · cases cs with
        | nil => exact ⟨[], .backslash, rfl, nofun, trivial⟩
        | cons d ds =>
          refine hrest (.escape d) ds trivial rfl ?_
          simp at hlt
          omega
      · exact hrest (.plain c) cs hc rfl hlt

/-! ## Reading the parts -/

namespace Part

/-- A part before its class is read. -/
def piece : Part → Piece
  | star => .token .anyRun
  | question => .token .anyOne
  | bracket sign listed => .classContent (sign.toList ++ listed)
  | escape c | plain c => .token (.literal c)

/-- A part whose class lists its characters one by one. -/
def token : Part → Token
  | star => .anyRun
  | question => .anyOne
  | bracket sign listed => .oneOf ⟨sign.isSome, .ranges (listed.map fun c => (c, c))⟩
  | escape c | plain c => .literal c

end Part

theorem pieces?_inClass_closed {content : List Char} (h : ']' ∉ content) (seen rest : List Char) :
    pieces? (.inClass seen) (content ++ ']' :: rest)
      = (pieces? .between rest).map (.classContent (seen.reverse ++ content) :: ·) := by
  induction content generalizing seen with
  | nil =>
    rw [List.nil_append, pieces?, if_pos rfl, List.append_nil]
  | cons c content ih =>
    rw [List.mem_cons, not_or] at h
    rw [List.cons_append, pieces?, if_neg (Ne.symm h.1), ih h.2, List.reverse_cons, List.append_assoc]
    rfl

theorem pieces?_part {part : Part} (h : part.IsProper) (rest : List Char) :
    pieces? .between (part.text ++ rest) = (pieces? .between rest).map (part.piece :: ·) := by
  cases part with
  | star | question | escape => rfl
  | plain c => exact pieces?_ordinary (fun d hd => List.mem_singleton.1 hd ▸ h) rest
  | bracket sign listed =>
    have hclose : ']' ∉ sign.toList ++ listed := by
      cases sign with
      | none => exact h.1
      | some sign =>
        obtain ⟨hsign, hlisted⟩ := h
        rintro (_ | ⟨_, hmem⟩)
        · exact absurd hsign (by decide)
        · exact hlisted hmem
    have hclosed := pieces?_inClass_closed hclose [] rest
    simpa [Part.text, Part.piece, pieces?] using hclosed

/-- A text is cut by the reader as it is here, and not at all if it ends in a class. -/
theorem pieces?_parts {parts : List Part} (h : ∀ part ∈ parts, part.IsProper) (rest : List Char) :
    pieces? .between (parts.flatMap Part.text ++ rest)
      = (pieces? .between rest).map (parts.map Part.piece ++ ·) := by
  induction parts with
  | nil => simp
  | cons part parts ih =>
    rw [List.forall_mem_cons] at h
    rw [List.flatMap_cons, List.append_assoc, pieces?_part h.1, ih h.2, Option.map_map]
    rfl

theorem Cut.pieces?_of_open {text : List Char} {parts : List Part} {ending : Ending}
    (h : Cut text parts ending) (hopen : ending.IsOpen) : pieces? .between text = none := by
  cases ending with
  | complete | backslash => exact hopen.elim
  | openClass content =>
    have hclass : pieces? .between ('[' :: content) = none := pieces?_inClass h.proper_ending []
    rw [h.text_eq, pieces?_parts h.proper, Ending.text, hclass]
    rfl

theorem Cut.pieces?_of_not_open {text : List Char} {parts : List Part} {ending : Ending}
    (h : Cut text parts ending) (hopen : ¬ ending.IsOpen) :
    pieces? .between text = some (parts.map Part.piece) := by
  have hend : pieces? .between ending.text = some [] := by
    cases ending with
    | complete | backslash => rfl
    | openClass => exact absurd trivial hopen
  rw [h.text_eq, pieces?_parts h.proper, hend, Option.map_some, List.append_nil]

/-! ## Reading simple classes -/

namespace CharClass

/-- Characters that are no operators are listed one by one. -/
theorem foldlM_step_simple {rest : List Char} (h : ∀ c ∈ rest, c ≠ '-' ∧ c ≠ '&' ∧ c ≠ '~') (c : Char)
    (ranges : List (Char × Char)) :
    (rest.foldlM Partial.step ⟨none, ranges, .char c⟩).map Partial.finish
      = some (.ranges (ranges.reverse ++ (c :: rest).map fun c => (c, c))) := by
  -- by induction on the later characters, of which each decides the one before
  induction rest generalizing c ranges with
  | nil => simp [Partial.finish, Partial.decided, Partial.add]
  | cons d rest ih =>
    rw [List.forall_mem_cons] at h
    obtain ⟨⟨hminus, hand, htilde⟩, hrest⟩ := h
    have hstep : Partial.step ⟨none, ranges, .char c⟩ d = some ⟨none, (c, c) :: ranges, .char d⟩ := by
      simp [Partial.step, Partial.add, hminus, hand, htilde]
    rw [List.foldlM_cons, hstep, Option.bind_eq_bind, Option.bind_some, ih hrest]
    simp

theorem readListed_simple {listed : List Char} (h : ∀ c ∈ listed, c ≠ '-' ∧ c ≠ '&' ∧ c ≠ '~')
    (hne : listed ≠ []) :
    readListed listed = some (.ranges (listed.map fun c => (c, c))) := by
  cases listed with
  | nil => exact absurd rfl hne
  | cons c rest =>
    rw [List.forall_mem_cons] at h
    obtain ⟨⟨hminus, -, -⟩, hrest⟩ := h
    have hdepth : (CharSet.ranges ((c :: rest).map fun c => (c, c))).depth ≤ CharSet.maxDepth := by
      rw [CharSet.depth]
      split <;> decide
    have hfold : ((c :: rest).foldlM Partial.step ⟨none, [], .nothing⟩).map Partial.finish
        = some (.ranges ((c :: rest).map fun c => (c, c))) := foldlM_step_simple hrest c []
    have htake : (c :: rest).takeWhile (· = '-') = [] := by simp [hminus]
    have hdrop : (c :: rest).dropWhile (· = '-') = c :: rest := by simp [hminus]
    rw [readListed, if_neg (by simp), htake, hdrop]
    show (Option.map Partial.finish (List.foldlM _ ⟨none, [], .nothing⟩ _)).filter _ = _
    rw [hfold, Option.filter_some, if_pos (decide_eq_true hdepth)]

theorem contains_simple (negated : Bool) (listed : List Char) (c : Char) :
    (CharClass.mk negated (.ranges (listed.map fun c => (c, c)))).contains c
      = (decide (c ∈ listed) != negated) := by
  have hlisted : (CharSet.ranges (listed.map fun c => (c, c))).contains c = decide (c ∈ listed) := by
    have hiff : (CharSet.ranges (listed.map fun c => (c, c))).contains c = true ↔ c ∈ listed := by
      simp only [CharSet.contains, List.any_map, List.any_eq_true, Function.comp_apply,
        Bool.and_eq_true, decide_eq_true_eq]
      constructor
      · rintro ⟨d, hd, hle, hge⟩
        exact Char.le_antisymm hle hge ▸ hd
      · exact fun hc => ⟨c, hc, Char.le_refl c, Char.le_refl c⟩
    rw [Bool.eq_iff_iff, hiff, decide_eq_true_eq]
  rw [contains, hlisted]

/-- The content of a simple class is read as its sign and its characters. -/
theorem ofContent?_simple {sign : Option Char} {listed : List Char}
    (hproper : (Part.bracket sign listed).IsProper) (hsimple : (Part.bracket sign listed).IsSimple)
    (hne : listed ≠ []) :
    ofContent? (sign.toList ++ listed)
      = some ⟨sign.isSome, .ranges (listed.map fun c => (c, c))⟩ := by
  cases sign with
  | some sign =>
    show ofContent? (sign :: listed) = _
    rw [ofContent?, if_pos hproper.1, readListed_simple hsimple hne]
    rfl
  | none =>
    cases listed with
    | nil => exact absurd rfl hne
    | cons c rest =>
      obtain ⟨hcaret, hbang⟩ := hproper.2 c rfl
      show ofContent? (c :: rest) = _
      rw [ofContent?, if_neg (not_or.2 ⟨hcaret, hbang⟩), readListed_simple hsimple hne]
      rfl

/-- A class that lists nothing is none. -/
theorem ofContent?_empty {sign : Option Char} (hproper : (Part.bracket sign []).IsProper) :
    ofContent? (sign.toList ++ []) = none := by
  cases sign with
  | none => rfl
  | some sign =>
    show ofContent? [sign] = none
    rw [ofContent?, if_pos hproper.1]
    rfl

end CharClass

theorem readClasses_part {part : Part} (hproper : part.IsProper) (hsimple : part.IsSimple)
    (hlists : ¬ part.ListsNothing) (pieces : List Piece) :
    readClasses (part.piece :: pieces) = (readClasses pieces).map (part.token :: ·) := by
  cases part with
  | star | question | escape | plain => rfl
  | bracket sign listed =>
    rw [Part.piece, readClasses, CharClass.ofContent?_simple hproper hsimple hlists]
    rfl

/-- The parts are refused when one of them lists nothing. -/
theorem readClasses_of_empty {parts : List Part} (hproper : ∀ part ∈ parts, part.IsProper)
    (hsimple : ∀ part ∈ parts, part.IsSimple) (hempty : ∃ part ∈ parts, part.ListsNothing) :
    readClasses (parts.map Part.piece) = none := by
  induction parts with
  | nil =>
    obtain ⟨_, hmem, -⟩ := hempty
    cases hmem
  | cons part parts ih =>
    rw [List.forall_mem_cons] at hproper hsimple
    rw [List.map_cons]
    by_cases hpart : part.ListsNothing
    · cases part with
      | star | question | escape | plain => exact hpart.elim
      | bracket sign listed =>
        obtain rfl : listed = [] := hpart
        rw [Part.piece, readClasses, CharClass.ofContent?_empty hproper.1]
    · obtain ⟨other, hmem, hother⟩ := hempty
      have hlater : ∃ part ∈ parts, part.ListsNothing := by
        rcases List.mem_cons.1 hmem with rfl | hmem
        · exact absurd hother hpart
        · exact ⟨other, hmem, hother⟩
      rw [readClasses_part hproper.1 hsimple.1 hpart, ih hproper.2 hsimple.2 hlater]
      rfl

theorem readClasses_parts {parts : List Part} (hproper : ∀ part ∈ parts, part.IsProper)
    (hsimple : ∀ part ∈ parts, part.IsSimple) (hlists : ¬ ∃ part ∈ parts, part.ListsNothing) :
    readClasses (parts.map Part.piece) = some (parts.map Part.token) := by
  induction parts with
  | nil => rfl
  | cons part parts ih =>
    rw [List.forall_mem_cons] at hproper hsimple
    simp only [List.mem_cons, exists_eq_or_imp, not_or] at hlists
    rw [List.map_cons, readClasses_part hproper.1 hsimple.1 hlists.1, ih hproper.2 hsimple.2 hlists.2]
    rfl

/-! ## Matching the parts -/

/-- A part other than a star takes one character. -/
theorem takes_iff {part : Part} (h : part.token ≠ .anyRun) {run : List Char} :
    part.Takes run ↔ ∃ c, run = [c] ∧ part.token.takes c = true := by
  cases part with
  | star => exact absurd rfl h
  | question => simp [Part.Takes, Part.token, Token.takes]
  | bracket sign listed =>
    have htakes : ∀ c, (Part.bracket sign listed).token.takes c
        = (decide (c ∈ listed) != sign.isSome) := CharClass.contains_simple sign.isSome listed
    simp only [htakes]
    cases sign <;> simp [Part.Takes]
  | escape c | plain c => simp [Part.Takes, Part.token, Token.takes]

theorem accepts_part (part : Part) {ts : List Token} {key : List Char} :
    accepts (part.token :: ts) key = true ↔
      ∃ run rest, key = run ++ rest ∧ part.Takes run ∧ accepts ts rest = true := by
  by_cases hstar : part.token = .anyRun
  · cases part with
    | star => exact accepts_anyRun_iff
    | question | bracket | escape | plain => cases hstar
  · rw [accepts_one_iff hstar]
    simp only [takes_iff hstar]
    constructor
    · rintro ⟨c, rest, rfl, hc, hrest⟩
      exact ⟨[c], rest, rfl, ⟨c, rfl, hc⟩, hrest⟩
    · rintro ⟨_, rest, rfl, ⟨c, rfl, hc⟩, hrest⟩
      exact ⟨c, rest, rfl, hc, hrest⟩

/-- Parts in a row match their language. -/
theorem accepts_parts {parts : List Part} {key : List Char} :
    accepts (parts.map Part.token) key = true ↔ Matches parts key := by
  induction parts generalizing key with
  | nil =>
    rw [List.map_nil, accepts_nil]
    constructor
    · rintro rfl
      exact ⟨[], .nil, rfl⟩
    · rintro ⟨runs, hruns, rfl⟩
      cases hruns
      rfl
  | cons part parts ih =>
    simp only [List.map_cons, accepts_part, ih]
    constructor
    · rintro ⟨run, _, rfl, hrun, runs, hruns, rfl⟩
      exact ⟨run :: runs, .cons hrun hruns, rfl⟩
    · rintro ⟨_, hall, rfl⟩
      obtain ⟨run, runs, hrun, hruns, rfl⟩ := List.forall₂_cons_left_iff.1 hall
      exact ⟨run, runs.flatten, rfl, hrun, runs, hruns, rfl⟩

/-! ## The language of a pattern -/

/-- A class of the pattern is not closed, or lists nothing. -/
def Unreadable (parts : List Part) (ending : Ending) : Prop :=
  ending.IsOpen ∨ ∃ part ∈ parts, part.ListsNothing

variable {parts : List Part} {ending : Ending} {pattern : String}

/-- A pattern that is readable is read as its parts. -/
theorem Cut.ofText_eq (h : Cut pattern.toList parts ending) (hsimple : ∀ part ∈ parts, part.IsSimple)
    (hreadable : ¬ Unreadable parts ending) : ofText pattern = .ok (parts.map Part.token) := by
  rw [Unreadable, not_or] at hreadable
  rw [ofText, ofChars, h.pieces?_of_not_open hreadable.1]
  simp only [readClasses_parts h.proper hsimple hreadable.2]

theorem Cut.ofText_error (h : Cut pattern.toList parts ending)
    (hsimple : ∀ part ∈ parts, part.IsSimple) (hunreadable : Unreadable parts ending) :
    ∃ fault, ofText pattern = .error fault := by
  rw [ofText, ofChars]
  by_cases hopen : ending.IsOpen
  · exact ⟨.unterminatedClass, by rw [h.pieces?_of_open hopen]⟩
  · refine ⟨.invalid, ?_⟩
    have hempty := hunreadable.resolve_left hopen
    rw [h.pieces?_of_not_open hopen]
    simp only [readClasses_of_empty h.proper hsimple hempty]

/-- Every text is cut into parts, and whenever the classes among them list single characters, without any
of `-`, `&` and `~`: the text is refused as a pattern if and only if a class is not closed or lists
nothing, and a pattern matches a key if and only if the key can be split, in order, into runs that the
parts take. The same holds of the regular expression that is written for it, and of the keys it finds. -/
theorem matches_exactly (pattern : String) :
    (∃ parts ending, Cut pattern.toList parts ending) ∧
    ∀ parts ending, Cut pattern.toList parts ending → (∀ part ∈ parts, part.IsSimple) →
      ((∃ fault, ofText pattern = .error fault) ↔ Unreadable parts ending) ∧
      (∀ tokens, ofText pattern = .ok tokens → ∀ key,
        acceptsText tokens key = true ↔ Matches parts key.toList) ∧
      ((∃ refusal, Expression.compile pattern = .error refusal) ↔ Unreadable parts ending) ∧
      Expression.compile pattern ≠ .error .foreign ∧
      (∀ items, Expression.compile pattern = .ok items → ∀ key : String,
        Expression.Finds items key.toList ↔ Matches parts key.toList) := by
  refine ⟨exists_cut pattern.toList, fun parts ending hcut hsimple => ?_⟩
  rw [Expression.compile_eq]
  by_cases hunreadable : Unreadable parts ending
  · obtain ⟨fault, hfault⟩ := hcut.ofText_error hsimple hunreadable
    rw [hfault]
    refine ⟨⟨fun _ => hunreadable, fun _ => ⟨fault, rfl⟩⟩, nofun,
      ⟨fun _ => hunreadable, fun _ => ⟨_, rfl⟩⟩, ?_, nofun⟩
    cases fault <;> nofun
  · rw [hcut.ofText_eq hsimple hunreadable]
    refine ⟨⟨nofun, fun h => absurd h hunreadable⟩, ?_, ⟨nofun, fun h => absurd h hunreadable⟩,
      nofun, ?_⟩
    · rintro _ ⟨⟩ key
      exact accepts_parts
    · rintro _ ⟨⟩ key
      exact Expression.finds_anchored.trans accepts_parts

/-- A class with a sign takes what it does not list, and a star may take nothing. -/
theorem matches_exactly_of_class :
    Matches [.plain 'k', .bracket (some '!') ['a', '['], .star] "kb".toList ∧
    ¬ Matches [.plain 'k', .bracket (some '!') ['a', '['], .star] "ka:b".toList := by
  have hcut : Cut "k[!a[]*".toList [.plain 'k', .bracket (some '!') ['a', '['], .star] .complete :=
    { text_eq := by decide
      proper := by simp [Part.IsProper, isOrdinary]
      proper_ending := trivial }
  have hsimple : ∀ part ∈ [Part.plain 'k', .bracket (some '!') ['a', '['], .star], part.IsSimple := by
    simp [Part.IsSimple]
  obtain ⟨-, hall⟩ := matches_exactly "k[!a[]*"
  obtain ⟨-, hmatches, -⟩ := hall _ _ hcut hsimple
  constructor
  · rw [← hmatches _ rfl]
    decide
  · rw [← hmatches _ rfl]
    decide

end ProjectCache.Glob
