/-
# ProjectCache.Proofs.Json.RoundTrip — values are read back from their compact text.

A value is portable to a depth when it nests no deeper, its numbers are integers that are kept as
themselves, and its objects have their members in key order (`Json.Portable`). The reader goes one
level down just where the writer does, and each value ends where the next mark stands; so the text
of a portable value is read back as the value, and no more of the text is used up
(`Json.readValue_compactChars`). A reader that knows the names of all members finds what the reader
of whole objects finds (`Json.readKnown_of_readFields`).
-/
import ProjectCache.Json.Skim
import ProjectCache.Proofs.Json.Token
import ProjectCache.Proofs.Keyed

namespace ProjectCache.Json

/-- The value nests at most so deep, has only integers that are kept as themselves, and has the
members of each object in key order. -/
inductive Portable : Nat → Json → Prop where
  | null {depth : Nat} : Portable depth .null
  | bool {depth : Nat} (b : Bool) : Portable depth (.bool b)
  | int {depth : Nat} {n : Int} (h : -(Word.count 63 : Int) ≤ n ∧ n < (Word.count 64 : Int)) :
      Portable depth (.number (.int n))
  | string {depth : Nat} (s : String) : Portable depth (.string s)
  | array {depth : Nat} {items : List Json} (h : ∀ item ∈ items, Portable depth item) :
      Portable (depth + 1) (.array items)
  | object {depth : Nat} {fields : List (String × Json)} (hsorted : Entries.Sorted fields)
      (h : ∀ field ∈ fields, Portable depth field.2) : Portable (depth + 1) (.object fields)

/-! ## Marks between the parts -/

theorem skipBlanks_cons {c : Char} (h : isBlank c = false) (cs : List Char) :
    skipBlanks (c :: cs) = c :: cs := by
  rw [skipBlanks, List.dropWhile_cons, h]
  rfl

theorem quote_append (s : String) (cs : List Char) :
    quote s ++ cs = '"' :: (s.toList.flatMap escapeChar ++ '"' :: cs) := by
  simp [quote]

theorem ends_cons {c : Char} (h : c ∈ [',', ']', '}']) (cs : List Char) : Ends (c :: cs) := by
  rintro d ⟨⟩
  simp only [List.mem_cons, List.not_mem_nil, or_false] at h
  rcases h with rfl | rfl | rfl <;> decide

theorem intChars_eq_cons (n : Int) :
    ∃ c more, intChars n = c :: more ∧ (c = '-' ∨ c.isDigit = true) := by
  rw [intChars]
  split
  · exact ⟨'-', _, rfl, .inl rfl⟩
  · cases hdigits : Nat.toDigits 10 n.natAbs with
    | nil => exact absurd hdigits Nat.toDigits_ne_nil
    | cons d ds =>
      exact ⟨d, ds, rfl, .inr (isDigit_of_mem_toDigits (hdigits ▸ List.mem_cons_self))⟩

theorem isBlank_of_isDigit {c : Char} (h : c = '-' ∨ c.isDigit = true) : isBlank c = false := by
  rcases h with rfl | h
  · decide
  · have hne : ∀ d : Char, d.isDigit = false → c ≠ d := by
      rintro d hd rfl
      exact Bool.false_ne_true (hd.symm.trans h)
    simp [isBlank, hne ' ' (by decide), hne '\n' (by decide), hne '\t' (by decide),
      hne '\r' (by decide)]

/-- A value begins with a character that is no blank and closes nothing. -/
theorem compactChars_eq_cons {depth : Nat} {json : Json} (h : Portable depth json) :
    ∃ c more, compactChars json = c :: more ∧ isBlank c = false ∧ c ≠ ']' := by
  cases h with
  | null => exact ⟨'n', _, rfl, rfl, by decide⟩
  | bool b => cases b <;> exact ⟨_, _, rfl, rfl, by decide⟩
  | @int _ n _ =>
    obtain ⟨c, more, htext, hc⟩ := intChars_eq_cons n
    refine ⟨c, more, htext, isBlank_of_isDigit hc, ?_⟩
    rintro rfl
    rcases hc with hc | hc <;> cases hc
  | string s => exact ⟨'"', _, rfl, rfl, by decide⟩
  | @array _ items _ => cases items <;> exact ⟨'[', _, rfl, rfl, by decide⟩
  | @object _ fields _ _ => cases fields <;> exact ⟨'{', _, rfl, rfl, by decide⟩

/-! ## Reading -/

/-- The text of the value is read as the value, whatever mark follows it. -/
def ReadsBack (depth : Nat) (json : Json) : Prop :=
  ∀ fuel cs, Ends cs → (compactChars json).length ≤ fuel →
    readValue fuel depth (compactChars json ++ cs) = some (json, cs)

theorem readValue_of_isDigit {c : Char} (h : c = '-' ∨ c.isDigit = true) (fuel depth : Nat)
    (cs : List Char) : readValue (fuel + 1) depth (c :: cs)
      = (readNumber (c :: cs)).map fun (n, rest) => (.number n, rest) := by
  rw [readValue.eq_def]
  simp only [skipBlanks_cons (isBlank_of_isDigit h)]
  split
  all_goals first
    | rename_i heq; cases heq; rcases h with h | h <;> cases h
    | rfl

theorem length_compactItems_pos (items : List Json) : 0 < (compactItems items).length := by
  cases items <;> exact Nat.zero_lt_succ _

theorem length_compactFields_pos (fields : List (String × Json)) :
    0 < (compactFields fields).length := by
  cases fields <;> exact Nat.zero_lt_succ _

/-- The items of an array are read up to its closing bracket. -/
theorem readItems_compactItems {depth : Nat} {first : Json} {items : List Json}
    (h : ∀ item ∈ first :: items, ReadsBack depth item) {fuel : Nat} (cs : List Char)
    (hfuel : (compactChars first).length + (compactItems items).length ≤ fuel) :
    readItems fuel depth (compactChars first ++ (compactItems items ++ cs))
      = some (first :: items, cs) := by
  induction items generalizing first fuel with
  | nil =>
    cases fuel with
    | zero => cases Nat.le_zero.1 hfuel
    | succ fuel =>
      have hread := h first List.mem_cons_self fuel (']' :: cs) (ends_cons (by decide) cs)
        (Nat.le_of_succ_le_succ hfuel)
      rw [readItems]
      simp (disch := decide) only [compactItems, List.cons_append, List.nil_append, hread,
        skipBlanks_cons]
  | cons second items ih =>
    have hpos := length_compactItems_pos items
    rw [compactItems, List.length_cons, List.length_append] at hfuel
    cases fuel with
    | zero => omega
    | succ fuel =>
      have hread := h first List.mem_cons_self fuel
        (',' :: (compactChars second ++ (compactItems items ++ cs)))
        (ends_cons (by decide) _) (by omega)
      have hrest := ih (fun item hitem => h item (List.mem_cons_of_mem _ hitem))
        (by omega : _ ≤ fuel)
      rw [readItems]
      simp (disch := decide) only [compactItems, List.cons_append, List.append_assoc, hread,
        skipBlanks_cons, hrest, Option.map_some]

/-- The members of an object are read up to its closing brace. -/
theorem readFields_compactFields {depth : Nat} {key : String} {first : Json}
    {fields : List (String × Json)}
    (h : ∀ field ∈ (key, first) :: fields, ReadsBack depth field.2) {fuel : Nat} (cs : List Char)
    (hfuel : (compactChars first).length + (compactFields fields).length ≤ fuel) :
    readFields fuel depth
        (quote key ++ ':' :: (compactChars first ++ (compactFields fields ++ cs)))
      = some ((key, first) :: fields, cs) := by
  induction fields generalizing key first fuel with
  | nil =>
    cases fuel with
    | zero => cases Nat.le_zero.1 hfuel
    | succ fuel =>
      have hread := h (key, first) List.mem_cons_self fuel ('}' :: cs) (ends_cons (by decide) cs)
        (Nat.le_of_succ_le_succ hfuel)
      rw [readFields.eq_def, quote_append]
      simp (disch := decide) only [compactFields, List.cons_append, List.nil_append,
        skipBlanks_cons, readString_quote, hread]
  | cons second fields ih =>
    obtain ⟨key', second⟩ := second
    have hpos := length_compactFields_pos fields
    rw [compactFields, List.length_cons, List.length_append, List.length_cons,
      List.length_append] at hfuel
    cases fuel with
    | zero => omega
    | succ fuel =>
      have hread := h (key, first) List.mem_cons_self fuel
        (',' :: (quote key' ++ ':' :: (compactChars second ++ (compactFields fields ++ cs))))
        (ends_cons (by decide) _) (show (compactChars first).length ≤ fuel by omega)
      have hrest := ih (fun field hfield => h field (List.mem_cons_of_mem _ hfield))
        (by omega : _ ≤ fuel)
      rw [readFields.eq_def, quote_append]
      simp (disch := decide) only [compactFields, List.cons_append, List.append_assoc,
        skipBlanks_cons, readString_quote, hread, hrest, Option.map_some]

/-- The members of an object that is written in key order are all kept. -/
theorem ofFields_of_sorted {fields : List (String × Json)} (h : Entries.Sorted fields) :
    ofFields fields = .object fields :=
  congrArg (fun map : Keyed Json => Json.object map.entries) (Keyed.ofList_entries ⟨fields, h⟩)

/-- Every value has a first character, for which there is fuel. -/
theorem readsBack_of_succ {depth : Nat} {json : Json} (hsome : compactChars json ≠ [])
    (h : ∀ fuel cs, Ends cs → (compactChars json).length ≤ fuel + 1 →
      readValue (fuel + 1) depth (compactChars json ++ cs) = some (json, cs)) :
    ReadsBack depth json := by
  intro fuel cs hcs hfuel
  cases fuel with
  | zero => exact absurd (List.length_eq_zero_iff.1 (Nat.le_zero.1 hfuel)) hsome
  | succ fuel => exact h fuel cs hcs hfuel

theorem readsBack_int {depth : Nat} {n : Int}
    (h : -(Word.count 63 : Int) ≤ n ∧ n < (Word.count 64 : Int)) :
    ReadsBack depth (.number (.int n)) := by
  obtain ⟨c, more, htext, hc⟩ := intChars_eq_cons n
  have hchars : compactChars (.number (.int n)) = c :: more := htext
  refine readsBack_of_succ (hchars ▸ List.cons_ne_nil c more) fun fuel cs hcs _ => ?_
  have hread := readNumber_intChars hcs h
  rw [htext] at hread
  rw [hchars]
  rw [List.cons_append] at hread ⊢
  rw [readValue_of_isDigit hc, hread]
  rfl

theorem readsBack_string {depth : Nat} (s : String) : ReadsBack depth (.string s) := by
  refine readsBack_of_succ (List.cons_ne_nil _ _) fun fuel cs _ _ => ?_
  rw [readValue.eq_def, compactChars, quote_append]
  simp (disch := decide) only [skipBlanks_cons, readString_quote, Option.map_some]

theorem readsBack_array {depth : Nat} {items : List Json}
    (hportable : ∀ item ∈ items, Portable depth item) (h : ∀ item ∈ items, ReadsBack depth item) :
    ReadsBack (depth + 1) (.array items) := by
  cases items with
  | nil => exact readsBack_of_succ (List.cons_ne_nil _ _) fun _ _ _ _ => rfl
  | cons first items =>
    refine readsBack_of_succ (List.cons_ne_nil _ _) fun fuel cs _ hfuel => ?_
    rw [compactChars, List.length_cons, List.length_append] at hfuel
    have hread := readItems_compactItems h cs (Nat.le_of_succ_le_succ hfuel)
    -- the first item does not begin with the bracket that would close an empty array
    obtain ⟨c, more, htext, hc, hclose⟩ := compactChars_eq_cons (hportable first List.mem_cons_self)
    rw [readValue.eq_def]
    simp (disch := decide) only [compactChars, List.cons_append, List.append_assoc, skipBlanks_cons]
    rw [htext, List.cons_append] at hread ⊢
    rw [skipBlanks_cons hc]
    split
    · rename_i heq
      cases heq
      exact absurd rfl hclose
    · rw [hread]
      rfl

theorem readsBack_object {depth : Nat} {fields : List (String × Json)}
    (hsorted : Entries.Sorted fields) (h : ∀ field ∈ fields, ReadsBack depth field.2) :
    ReadsBack (depth + 1) (.object fields) := by
  cases fields with
  | nil => exact readsBack_of_succ (List.cons_ne_nil _ _) fun _ _ _ _ => rfl
  | cons field fields =>
    obtain ⟨key, first⟩ := field
    refine readsBack_of_succ (List.cons_ne_nil _ _) fun fuel cs _ hfuel => ?_
    rw [compactChars, List.length_cons, List.length_append, List.length_cons,
      List.length_append] at hfuel
    have hread := readFields_compactFields h cs (by omega : _ ≤ fuel)
    rw [readValue.eq_def]
    simp (disch := decide) only [compactChars, List.cons_append, List.append_assoc,
      skipBlanks_cons, quote_append] at hread ⊢
    split
    · rename_i heq
      cases heq
    · rw [hread, Option.map_some, ofFields_of_sorted hsorted]

/-- A portable value is read back from its text. -/
theorem readValue_compactChars {depth : Nat} {json : Json} (h : Portable depth json) :
    ReadsBack depth json := by
  induction h with
  | null => exact readsBack_of_succ (List.cons_ne_nil _ _) fun _ _ _ _ => rfl
  | bool b =>
    cases b with
    | false => exact readsBack_of_succ (List.cons_ne_nil _ _) fun _ _ _ _ => rfl
    | true => exact readsBack_of_succ (List.cons_ne_nil _ _) fun _ _ _ _ => rfl
  | int h => exact readsBack_int h
  | string s => exact readsBack_string s
  | array h ih => exact readsBack_array h ih
  | object hsorted h ih => exact readsBack_object hsorted ih

/-! ## Members with known names -/

/-- Members that are read begin with a name and its value, and further members or the end follow. -/
theorem exists_member_of_readFields {depth fuel : Nat} {cs rest : List Char}
    {fields : List (String × Json)} (h : readFields (fuel + 1) depth cs = some (fields, rest)) :
    ∃ name key afterKey text value afterValue, skipBlanks cs = '"' :: name ∧
      readString name = some (key, afterKey) ∧ skipBlanks afterKey = ':' :: text ∧
      readValue fuel depth text = some (value, afterValue) ∧
      ((∃ next more, skipBlanks afterValue = ',' :: next ∧
          readFields fuel depth next = some (more, rest) ∧ fields = (key, value) :: more) ∨
        skipBlanks afterValue = '}' :: rest ∧ fields = [(key, value)]) := by
  rw [readFields.eq_def] at h
  simp only at h
  split at h
  · rename_i name hname
    cases hkey : readString name with
    | none => simp [hkey] at h
    | some read =>
      obtain ⟨key, afterKey⟩ := read
      simp only [hkey] at h
      split at h
      · rename_i text hcolon
        cases hvalue : readValue fuel depth text with
        | none => simp [hvalue] at h
        | some read =>
          obtain ⟨value, afterValue⟩ := read
          simp only [hvalue] at h
          refine ⟨name, key, afterKey, text, value, afterValue, hname, hkey, hcolon, hvalue, ?_⟩
          split at h
          · rename_i next hcomma
            cases hmore : readFields fuel depth next with
            | none => simp [hmore] at h
            | some read =>
              obtain ⟨more, left⟩ := read
              simp only [hmore, Option.map_some, Option.some.injEq, Prod.mk.injEq] at h
              obtain ⟨rfl, rfl⟩ := h
              exact .inl ⟨next, more, hcomma, hmore, rfl⟩
          · rename_i left hclose
            simp only [Option.some.injEq, Prod.mk.injEq] at h
            obtain ⟨rfl, rfl⟩ := h
            exact .inr ⟨hclose, rfl⟩
          · cases h
      · cases h
  · cases h

/-- Where all names are known, members are read as those of an object are. -/
theorem readKnown_of_readFields {names : List String} {depth fuel : Nat} {cs rest : List Char}
    {fields : List (String × Json)} (h : readFields fuel depth cs = some (fields, rest))
    (hknown : ∀ field ∈ fields, field.1 ∈ names) :
    readKnown names depth fuel cs
      = some (fields.map fun (key, json) => (key, some json), rest) := by
  induction fuel generalizing cs fields with
  | zero =>
    rw [readFields] at h
    cases h
  | succ fuel ih =>
    obtain ⟨name, key, afterKey, text, value, afterValue, hname, hkey, hcolon, hvalue, hend⟩ :=
      exists_member_of_readFields h
    have hread : key ∈ names → readOrSkip fuel depth (names.contains key) text
        = some (some value, afterValue) := by
      intro hmem
      rw [readOrSkip, if_pos (List.contains_iff_mem.2 hmem), hvalue]
      rfl
    rw [readKnown.eq_def]
    rcases hend with ⟨next, more, hcomma, hmore, rfl⟩ | ⟨hclose, rfl⟩
    · have hothers := ih hmore fun field hfield => hknown field (List.mem_cons_of_mem _ hfield)
      simp only [hname, hkey, hcolon, hread (hknown _ List.mem_cons_self), hcomma, hothers,
        Option.map_some, List.map_cons]
    · simp only [hname, hkey, hcolon, hread (hknown _ List.mem_cons_self), hclose, List.map_cons,
        List.map_nil]

/-- The members of an object are all found in its text when their names are known. -/
theorem knownMembers?_compactChars {names : List String} {fields : List (String × Json)}
    (h : ∀ field ∈ fields, Portable (maxDepth - 1) field.2)
    (hknown : ∀ field ∈ fields, field.1 ∈ names) :
    knownMembers? names (compactChars (.object fields))
      = some (fields.map fun (key, json) => (key, some json)) := by
  cases fields with
  | nil => rfl
  | cons field fields =>
    obtain ⟨key, first⟩ := field
    have hfuel : (compactChars first).length + (compactFields fields).length
        ≤ fuelFor (compactChars (.object ((key, first) :: fields))) := by
      rw [fuelFor, compactChars, List.length_cons, List.length_append, List.length_cons,
        List.length_append]
      omega
    have hread := readFields_compactFields
      (fun field hfield => readValue_compactChars (h field hfield)) [] hfuel
    have hfound := readKnown_of_readFields hread hknown
    rw [knownMembers?]
    generalize fuelFor (compactChars (.object ((key, first) :: fields))) = fuel at hfound ⊢
    rw [List.append_nil, quote_append] at hfound
    rw [compactChars, quote_append]
    simp (disch := decide) only [skipBlanks_cons]
    simp only [hfound, List.cons.injEq, Char.reduceEq, false_and, imp_false, not_false_eq_true,
      implies_true]
    rfl

end ProjectCache.Json
