/-
# ProjectCache.Proofs.Settings.Overlay — settings that are laid over a tree.

A setting stands in the tree by itself or in a section (`Slot`). Laying one setting over a tree changes
what is found in its slot and in no other (`Slot.put_setting`, `Slot.find?_put`), whatever the tree has
there, and laying a section over a tree changes the settings that the section has
(`Settings.put_declared`). For this the names of settings and sections are simple ones: letters in lower
case with single underscores between them (`Settings.IsName`), which make paths of one or two steps and
come back from the names of variables (`Slot.settingOf?_variableName`).
-/
import ProjectCache.Settings.Load
import ProjectCache.Proofs.Keyed

namespace ProjectCache

namespace Settings

/-! ## Names -/

/-- The characters of names. -/
def nameChars : List Char :=
  ['a', 'b', 'c', 'd', 'e', 'f', 'g', 'h', 'i', 'j', 'k', 'l', 'm', 'n', 'o', 'p', 'q', 'r', 's', 't',
    'u', 'v', 'w', 'x', 'y', 'z', '_']

/-- Underscores stand alone, and not at the end. -/
def underscoresAlone : List Char → Bool
  | [] => true
  | [c] => c ≠ '_'
  | c :: d :: cs => (c ≠ '_' || d ≠ '_') && underscoresAlone (d :: cs)

/-- The name of a setting or a section. -/
structure IsName (name : String) : Prop where
  ne_nil : name.toList ≠ []
  chars : ∀ c ∈ name.toList, c ∈ nameChars
  underscores : underscoresAlone name.toList

instance (name : String) : Decidable (IsName name) :=
  -- the characters are gone through one by one, not all that there are
  have : Decidable (∀ c ∈ name.toList, c ∈ nameChars) := List.decidableBAll _ _
  decidable_of_iff
    (name.toList ≠ [] ∧ (∀ c ∈ name.toList, c ∈ nameChars) ∧ underscoresAlone name.toList)
    ⟨fun h => ⟨h.1, h.2.1, h.2.2⟩, fun h => ⟨h.ne_nil, h.chars, h.underscores⟩⟩

/-- What is found of the characters of names one by one. -/
theorem forall_nameChars {P : Char → Prop} [DecidablePred P] (h : nameChars.all fun c => P c) :
    ∀ c ∈ nameChars, P c :=
  fun c hc => of_decide_eq_true (List.all_eq_true.1 h c hc)

theorem lowerChar_toUpper : ∀ c ∈ nameChars, Layer.lowerChar c.toUpper = c :=
  forall_nameChars (by decide)

theorem lowerChar_of_mem : ∀ c ∈ nameChars, Layer.lowerChar c = c := forall_nameChars (by decide)

theorem isNameChar_of_mem : ∀ c ∈ nameChars, Layer.isNameChar c := forall_nameChars (by decide)

theorem dotted_cons {c : Char} {cs : List Char} (h : c ≠ '_' ∨ cs.head? ≠ some '_') :
    dotted (c :: cs) = c :: dotted cs := by
  rw [dotted.eq_def]
  split
  · simp_all
  · rename_i heq
    obtain ⟨rfl, rfl⟩ := List.cons.inj heq
    rfl
  · contradiction

theorem underscoresAlone_cons_cons {c d : Char} {cs : List Char} :
    underscoresAlone (c :: d :: cs) ↔ (c ≠ '_' ∨ d ≠ '_') ∧ underscoresAlone (d :: cs) := by
  rw [underscoresAlone, Bool.and_eq_true, Bool.or_eq_true, decide_eq_true_eq, decide_eq_true_eq]

/-- Double underscores are points, and a name has none. -/
theorem dotted_append {cs : List Char} (h : underscoresAlone cs) (rest : List Char) :
    dotted (cs ++ '_' :: '_' :: rest) = cs ++ '.' :: dotted rest := by
  induction cs with
  | nil => rfl
  | cons c cs ih =>
    cases cs with
    | nil =>
      have hc : c ≠ '_' := by simpa [underscoresAlone] using h
      exact dotted_cons (.inl hc)
    | cons d cs =>
      rw [underscoresAlone_cons_cons] at h
      have hne : c ≠ '_' ∨ (d :: cs ++ '_' :: '_' :: rest).head? ≠ some '_' := by simpa using h.1
      rw [List.cons_append, dotted_cons hne, ih h.2]
      rfl

theorem dotted_of_alone {cs : List Char} (h : underscoresAlone cs) : dotted cs = cs := by
  induction cs with
  | nil => rfl
  | cons c cs ih =>
    cases cs with
    | nil =>
      have hc : c ≠ '_' := by simpa [underscoresAlone] using h
      exact dotted_cons (.inl hc)
    | cons d cs =>
      rw [underscoresAlone_cons_cons] at h
      have hne : c ≠ '_' ∨ (d :: cs).head? ≠ some '_' := by simpa using h.1
      rw [dotted_cons hne, ih h.2]

namespace IsName

variable {name title : String}

/-- What leaves the characters of names as they are leaves a name as it is. -/
theorem map_eq (h : IsName name) {f : Char → Char} (hf : ∀ c ∈ nameChars, f c = c) :
    name.toList.map f = name.toList := by
  calc name.toList.map f
    _ = name.toList.map id := List.map_congr_left fun c hc => hf c (h.chars c hc)
    _ = name.toList := List.map_id _

/-- In lower case a name is as it was before it was put in upper case. -/
theorem lower_toUpper (h : IsName name) :
    name.toUpper.toList.map Layer.lowerChar = name.toList := by
  rw [String.toUpper, String.toList_map, List.map_map]
  exact h.map_eq lowerChar_toUpper

theorem lower_toList (h : IsName name) : name.toList.map Layer.lowerChar = name.toList :=
  h.map_eq lowerChar_of_mem

theorem lower_eq (h : IsName name) : Layer.lower name = name := by
  rw [Layer.lower, h.lower_toList, String.ofList_toList]

/-- A name is read off the front of a path. -/
theorem readName_eq (h : IsName name) {rest : List Char}
    (hrest : ∀ c ∈ rest.head?, Layer.isNameChar c = false) :
    Layer.readName (name.toList ++ rest) = some (name, rest) := by
  have hall : ∀ c ∈ name.toList, Layer.isNameChar c :=
    fun c hc => isNameChar_of_mem c (h.chars c hc)
  have hstop : rest.takeWhile Layer.isNameChar = [] ∧ rest.dropWhile Layer.isNameChar = rest := by
    cases rest with
    | nil => exact ⟨rfl, rfl⟩
    | cons c cs =>
      have hc := hrest c rfl
      simp [hc]
  have hne : name.toList.isEmpty = false := by simpa using h.ne_nil
  rw [Layer.readName, List.takeWhile_append_of_pos hall, List.dropWhile_append_of_pos hall, hstop.1,
    hstop.2, List.append_nil]
  simp only [hne, String.ofList_toList]
  rfl

/-- A name is a path of one step. -/
theorem ofName_eq (h : IsName name) : Layer.Path.ofName name = ⟨name, []⟩ := by
  have hread : Layer.readName (name.toList ++ []) = some (name, []) := h.readName_eq nofun
  rw [List.append_nil] at hread
  rw [Layer.Path.ofName, hread]
  rfl

/-- Two names with a point between them are a path of two steps. -/
theorem ofName_member (htitle : IsName title) (hname : IsName name) :
    Layer.Path.ofName (title ++ "." ++ name) = ⟨title, [.member name]⟩ := by
  have htop : Layer.readName (title ++ "." ++ name).toList = some (title, '.' :: name.toList) := by
    rw [String.toList_append, String.toList_append, List.append_assoc]
    refine htitle.readName_eq ?_
    rintro c ⟨⟩
    rfl
  have hpart : Layer.readName (name.toList ++ []) = some (name, []) := hname.readName_eq nofun
  rw [List.append_nil] at hpart
  rw [Layer.Path.ofName, htop]
  simp only [List.length_cons, Layer.readParts, hpart, Option.map_some]

end IsName

/-! ## Slots -/

/-- Where a setting stands in the tree: by itself, or in a section. -/
inductive Slot where
  | single (name : String)
  | member (title name : String)
  deriving DecidableEq, Repr

/-- The slots of all settings. -/
def slots : List Slot :=
  .single "log_level" :: sections.flatMap fun (title, names) => names.map (.member title)

namespace Slot

/-- The name of the setting in a source. -/
def setting : Slot → String
  | single name => name
  | member title name => title ++ "." ++ name

/-- The same in upper case, with underscores for the point. -/
def upper : Slot → String
  | single name => name.toUpper
  | member title name => title.toUpper ++ "__" ++ name.toUpper

/-- The variable that gives the setting. -/
def variableName (slot : Slot) : String := "ROUTER_CACHE__" ++ slot.upper

/-- The way to the setting. -/
def path : Slot → Layer.Path
  | single name => ⟨name, []⟩
  | member title name => ⟨title, [.member name]⟩

/-- The name at the top of the tree. -/
def top : Slot → String
  | single name => name
  | member title _ => title

/-- What stands in the slot when a value stands at the top. -/
def inside : Slot → Json → Option Json
  | single _, value => some value
  | member _ name, value => (Layer.tableOf value).find? name

/-- What a tree has in the slot. -/
def find? (tree : Keyed Json) (slot : Slot) : Option Json := (tree.find? slot.top).bind slot.inside

/-- Are the names in the slot simple ones? -/
def IsNamed : Slot → Prop
  | single name => IsName name
  | member title name => IsName title ∧ IsName name

end Slot

theorem isName_sections : ∀ entry ∈ sections, IsName entry.1 ∧ ∀ name ∈ entry.2, IsName name := by
  decide +kernel

/-- The slots of the sections, beside the one of the level that is logged. -/
theorem mem_slots {slot : Slot} :
    slot ∈ slots ↔ slot = .single "log_level" ∨
      ∃ title names name, (title, names) ∈ sections ∧ name ∈ names ∧ slot = .member title name := by
  simp only [slots, List.mem_cons, List.mem_flatMap, List.mem_map]
  constructor
  · rintro (hsingle | ⟨⟨title, names⟩, hsection, name, hname, rfl⟩)
    · exact .inl hsingle
    · exact .inr ⟨title, names, name, hsection, hname, rfl⟩
  · rintro (hsingle | ⟨title, names, name, hsection, hname, rfl⟩)
    · exact .inl hsingle
    · exact .inr ⟨(title, names), hsection, name, hname, rfl⟩

namespace Slot

variable {slot other : Slot}

theorem isNamed_of_mem (h : slot ∈ slots) : slot.IsNamed := by
  obtain rfl | ⟨title, names, name, hsection, hname, rfl⟩ := mem_slots.1 h
  · show IsName "log_level"
    decide
  · obtain ⟨htitle, hnames⟩ := isName_sections _ hsection
    exact ⟨htitle, hnames name hname⟩

/-- The name of a source leads to the slot. -/
theorem ofName_setting (h : slot.IsNamed) :
    Layer.Path.ofName (Layer.lower slot.setting) = slot.path := by
  cases slot with
  | single name =>
    show Layer.Path.ofName (Layer.lower name) = _
    rw [IsName.lower_eq h, IsName.ofName_eq h]
    rfl
  | member title name =>
    obtain ⟨htitle, hname⟩ := h
    have hlower : Layer.lower (title ++ "." ++ name) = title ++ "." ++ name := by
      have hpoint : ".".toList.map Layer.lowerChar = ".".toList := by decide
      rw [Layer.lower, String.toList_append, String.toList_append, List.map_append, List.map_append,
        htitle.lower_toList, hname.lower_toList, hpoint, ← String.toList_append,
        ← String.toList_append, String.ofList_toList]
    show Layer.Path.ofName (Layer.lower (title ++ "." ++ name)) = _
    rw [hlower, htitle.ofName_member hname]
    rfl

theorem path_injective (h : slot.path = other.path) : slot = other := by
  cases slot with
  | single => cases other with
    | single => simpa [path] using h
    | member => simp [path] at h
  | member => cases other with
    | single => simp [path] at h
    | member => simpa [path] using h

end Slot

/-- A variable gives the setting whose name stands behind the start of its own. -/
theorem settingOf?_append (tail : String) :
    settingOf? ("ROUTER_CACHE__" ++ tail)
      = some (String.ofList (dotted (tail.toList.map Layer.lowerChar))) := by
  have hstart : "ROUTER_CACHE__".toList.map Layer.lowerChar = variableStart := by decide
  have hlower : (Layer.lower ("ROUTER_CACHE__" ++ tail)).toList
      = variableStart ++ tail.toList.map Layer.lowerChar := by
    rw [Layer.lower, String.toList_ofList, String.toList_append, List.map_append, hstart]
  rw [settingOf?, hlower, if_pos (by simp), List.drop_left]

namespace Slot

variable {slot other : Slot}

/-- In lower case, and with points, the name of the setting is as it was. -/
theorem dotted_upper (h : slot.IsNamed) :
    String.ofList (dotted (slot.upper.toList.map Layer.lowerChar)) = slot.setting := by
  cases slot with
  | single name =>
    show String.ofList (dotted (name.toUpper.toList.map Layer.lowerChar)) = name
    rw [IsName.lower_toUpper h, dotted_of_alone (IsName.underscores h), String.ofList_toList]
  | member title name =>
    obtain ⟨htitle, hname⟩ := h
    have hunderscores : "__".toList.map Layer.lowerChar = ['_', '_'] := by decide
    have hpoint : (title ++ "." ++ name).toList = title.toList ++ '.' :: name.toList := by
      rw [String.toList_append, String.toList_append, List.append_assoc]
      rfl
    show String.ofList (dotted ((title.toUpper ++ "__" ++ name.toUpper).toList.map Layer.lowerChar))
      = title ++ "." ++ name
    rw [String.toList_append, String.toList_append, List.map_append, List.map_append,
      htitle.lower_toUpper, hname.lower_toUpper, hunderscores, List.append_assoc]
    show String.ofList (dotted (title.toList ++ '_' :: '_' :: name.toList)) = _
    rw [dotted_append htitle.underscores, dotted_of_alone hname.underscores, ← hpoint,
      String.ofList_toList]

theorem settingOf?_variableName (h : slot.IsNamed) :
    settingOf? slot.variableName = some slot.setting := by
  rw [variableName, settingOf?_append, dotted_upper h]

/-- No variable gives two settings. -/
theorem eq_of_variableName_eq (h : slot.IsNamed) (hother : other.IsNamed)
    (heq : slot.variableName = other.variableName) : slot = other := by
  have hsetting : slot.setting = other.setting := by
    have hsome := settingOf?_variableName h
    rw [heq, settingOf?_variableName hother] at hsome
    exact (Option.some.inj hsome).symm
  exact path_injective (by rw [← ofName_setting h, hsetting, ofName_setting hother])

end Slot

theorem variableNames_eq : variableNames = slots.map Slot.variableName := by
  have hlevel : (Slot.single "log_level").variableName = "ROUTER_CACHE__LOG_LEVEL" := by
    have hupper : (Slot.single "log_level").upper = "LOG_LEVEL" := by
      rw [← String.toList_inj]
      show ("log_level".map Char.toUpper).toList = _
      rw [String.toList_map]
      decide
    rw [Slot.variableName, hupper]
    decide
  have hmember : ∀ title name, (Slot.member title name).variableName
      = "ROUTER_CACHE__" ++ title.toUpper ++ "__" ++ name.toUpper := by
    intro title name
    show "ROUTER_CACHE__" ++ (title.toUpper ++ "__" ++ name.toUpper) = _
    simp only [String.append_assoc]
  rw [slots, List.map_cons, hlevel, List.map_flatMap, variableNames]
  simp only [List.map_map, Function.comp_def, hmember]

end Settings

namespace Layer

theorem overlay_cons (settings : Keyed Json) (name : String) (value : Json)
    (rest : List (String × Json)) :
    overlay settings ((name, value) :: rest)
      = (put settings name value).bind fun merged => overlay merged rest := by
  rw [overlay, List.foldlM_cons]
  rfl

/-- A value that has no settings in it. -/
def IsLeaf (value : Json) : Prop := value.members? = none

theorem graft_of_isLeaf {value : Json} (h : IsLeaf value) (tree : Json) : graft tree value = value := by
  cases value with
  | object => cases h
  | _ => rfl

@[simp] theorem tableOf_ofMap (table : Keyed Json) : tableOf (.ofMap table) = table := by
  rw [tableOf, Json.ofMap, Json.members?, Keyed.ofList_entries]
  rfl

/-- Laying members over a tree keeps the other members of the tree. -/
theorem find?_graftFields {fields : List (String × Json)}
    (h : ∀ e ∈ fields, lower e.1 = e.1 ∧ IsLeaf e.2) (tree : Json) (name : String) :
    (tableOf (graftFields tree fields)).find? name
      = ((Keyed.ofList fields).find? name).or ((tableOf tree).find? name) := by
  -- by induction on the members, each of which changes what is found under its name
  induction fields generalizing tree with
  | nil => rfl
  | cons entry rest ih =>
    obtain ⟨key, value⟩ := entry
    rw [List.forall_mem_cons] at h
    obtain ⟨⟨hlower, hleaf⟩, hrest⟩ := h
    rw [graftFields, hlower, graft_of_isLeaf hleaf, ih hrest, tableOf_ofMap, Keyed.find?_insert,
      Keyed.find?_ofList_cons, Option.or_assoc]
    congr 1
    split <;> rfl

/-- A table with members laid over it is a table. -/
theorem exists_graftFields_eq (fields base : List (String × Json)) :
    ∃ members, graftFields (.object base) fields = .object members := by
  induction fields generalizing base with
  | nil => exact ⟨base, by rw [graftFields]⟩
  | cons entry rest ih =>
    obtain ⟨key, value⟩ := entry
    rw [graftFields]
    exact ih _

end Layer

namespace Settings

open Layer (IsLeaf)

variable {slot other : Slot} {tree : Keyed Json} {value : Json}

/-! ## Laying one setting over a tree -/

/-- The sections of a tree are tables. -/
def Sectioned (tree : Keyed Json) : Prop :=
  ∀ title ∈ sections.map Prod.fst, ∀ value, tree.find? title = some value →
    ∃ members, value = .object members

theorem Sectioned.insert (h : Sectioned tree) {name : String}
    (hvalue : name ∈ sections.map Prod.fst → ∃ members, value = .object members) :
    Sectioned (tree.insert name value) := by
  intro title htitle found hfound
  rw [Keyed.find?_insert] at hfound
  split at hfound
  · rename_i heq
    obtain rfl := Option.some.inj hfound
    exact hvalue (heq ▸ htitle)
  · exact h title htitle found hfound

namespace Slot

/-- Puts a value into the slot. -/
def put (value : Json) (tree : Keyed Json) : Slot → Keyed Json
  | single name => tree.insert name value
  | member title name =>
    tree.insert title
      (.ofMap ((Layer.tableOf ((tree.find? title).getD .null)).insert name value))

/-- Laying a setting over a tree puts its value into the slot. -/
theorem put_setting (h : slot.IsNamed) (hvalue : IsLeaf value) (tree : Keyed Json) :
    Layer.put tree slot.setting value = some (slot.put value tree) := by
  rw [Layer.put, ofName_setting h]
  cases slot with
  | single name =>
    simp only [path, Layer.putAt, Layer.graft_of_isLeaf hvalue, Option.bind_eq_bind, Option.bind_some]
    rfl
  | member title name =>
    simp only [path, Layer.putAt, Layer.graft_of_isLeaf hvalue, Option.bind_eq_bind, Option.bind_some]
    rfl

/-- A setting that stands by itself has not the name of a section. -/
theorem single_notMem_sections {name : String} (h : single name ∈ slots) :
    name ∉ sections.map Prod.fst := by
  obtain heq | ⟨title, names, _, -, -, heq⟩ := mem_slots.1 h
  · obtain rfl : name = "log_level" := by simpa using heq
    decide
  · cases heq

theorem title_mem_sections {title name : String} (h : member title name ∈ slots) :
    title ∈ sections.map Prod.fst := by
  obtain heq | ⟨title, names, name, hsection, -, heq⟩ := mem_slots.1 h
  · cases heq
  · obtain ⟨rfl, rfl⟩ := Slot.member.inj heq
    exact List.mem_map_of_mem hsection

theorem find?_insert_top (tree : Keyed Json) (value : Json) :
    slot.find? (tree.insert slot.top value) = slot.inside value := by
  rw [find?, Keyed.find?_insert, if_pos rfl, Option.bind_some]

theorem find?_insert_of_ne {key : String} (h : key ≠ slot.top) (tree : Keyed Json) (value : Json) :
    slot.find? (tree.insert key value) = slot.find? tree := by
  rw [find?, find?, Keyed.find?_insert, if_neg h]

theorem find?_single (tree : Keyed Json) (name : String) :
    (single name).find? tree = tree.find? name := by
  rw [find?, top]
  cases tree.find? name <;> rfl

theorem find?_member (tree : Keyed Json) (title name : String) :
    (member title name).find? tree
      = (Layer.tableOf ((tree.find? title).getD .null)).find? name := by
  rw [find?, top]
  cases tree.find? title <;> rfl

/-- The value is found in the slot, and nothing changes in another one. -/
theorem find?_put (hslot : slot ∈ slots) (hother : other ∈ slots) :
    other.find? (slot.put value tree) = if slot = other then some value else other.find? tree := by
  cases slot with
  | single name =>
    cases other with
    | single name' =>
      by_cases heq : name = name'
      · subst heq
        rw [if_pos rfl]
        exact find?_insert_top tree value
      · rw [if_neg (by simpa using heq)]
        exact find?_insert_of_ne heq tree value
    | member title' name' =>
      have hne : name ≠ title' :=
        (ne_of_mem_of_not_mem (title_mem_sections hother) (single_notMem_sections hslot)).symm
      rw [if_neg nofun]
      exact find?_insert_of_ne hne tree value
  | member title name =>
    cases other with
    | single name' =>
      have hne : title ≠ name' :=
        ne_of_mem_of_not_mem (title_mem_sections hslot) (single_notMem_sections hother)
      rw [if_neg nofun]
      exact find?_insert_of_ne hne tree _
    | member title' name' =>
      by_cases htitle : title = title'
      · subst htitle
        have hinside : (member title name').find? (put value tree (member title name))
            = if name = name' then some value
              else (Layer.tableOf ((tree.find? title).getD .null)).find? name' := by
          rw [put, find?, top, Keyed.find?_insert, if_pos rfl, Option.bind_some, inside,
            Layer.tableOf_ofMap, Keyed.find?_insert]
        rw [hinside]
        by_cases hname : name = name'
        · subst hname
          rw [if_pos rfl, if_pos rfl]
        · rw [if_neg hname, if_neg (by simpa using hname), find?_member]
      · rw [if_neg (by simp [htitle])]
        exact find?_insert_of_ne htitle tree _

/-- The sections are tables as before. -/
theorem sectioned_put (h : Sectioned tree) (hslot : slot ∈ slots) : Sectioned (slot.put value tree) := by
  cases slot with
  | single name =>
    exact h.insert fun hname => absurd hname (single_notMem_sections hslot)
  | member title name => exact h.insert fun _ => ⟨_, rfl⟩

end Slot

/-! ## Laying a file over a tree -/

/-- The members of a file are settings and sections of settings. -/
def IsDeclared (entry : String × Json) : Prop :=
  (Slot.single entry.1 ∈ slots ∧ IsLeaf entry.2) ∨
  ∃ names fields, (entry.1, names) ∈ sections ∧ entry.2 = .object fields ∧
    ∀ field ∈ fields, field.1 ∈ names ∧ IsLeaf field.2

theorem isDeclared_singleton {title name : String} {names : List String} {value : Json}
    (hsection : (title, names) ∈ sections) (hname : name ∈ names) (hleaf : IsLeaf value) :
    IsDeclared (title, .object [(name, value)]) :=
  .inr ⟨names, [(name, value)], hsection, rfl, List.forall_mem_singleton.2 ⟨hname, hleaf⟩⟩

/-- Laying a member over a tree. -/
theorem put_declared {entry : String × Json} (h : IsDeclared entry) (hsectioned : Sectioned tree) :
    ∃ merged, Layer.put tree entry.1 entry.2 = some (tree.insert entry.1 merged) ∧
      Sectioned (tree.insert entry.1 merged) ∧
      ∀ slot ∈ slots, slot.top = entry.1 →
        slot.inside merged = (slot.inside entry.2).or (slot.find? tree) := by
  obtain ⟨key, value⟩ := entry
  have hput : IsName key → Layer.put tree key value
      = some (tree.insert key (Layer.graft ((tree.find? key).getD (.object [])) value)) := by
    intro hkey
    rw [Layer.put, hkey.lower_eq, hkey.ofName_eq]
    rfl
  rcases h with ⟨hsingle, hleaf⟩ | ⟨names, fields, hsection, rfl, hfields⟩
  · refine ⟨value, ?_, hsectioned.insert fun hkey =>
      absurd hkey (Slot.single_notMem_sections hsingle), ?_⟩
    · rw [hput (Slot.isNamed_of_mem hsingle), Layer.graft_of_isLeaf hleaf]
    · intro slot hslot htop
      cases slot with
      | single => rfl
      | member =>
        have htitle := Slot.title_mem_sections hslot
        exact absurd (htop ▸ htitle) (Slot.single_notMem_sections hsingle)
  · obtain ⟨hkey, hnames⟩ := isName_sections _ hsection
    refine ⟨_, hput hkey, hsectioned.insert fun _ => ?_, ?_⟩
    · cases hfind : tree.find? key with
      | none => exact Layer.exists_graftFields_eq fields []
      | some old =>
        obtain ⟨members, rfl⟩ := hsectioned key (List.mem_map_of_mem hsection) old hfind
        exact Layer.exists_graftFields_eq fields members
    · intro slot hslot htop
      cases slot with
      | single name =>
        obtain rfl : name = key := htop
        exact absurd (List.mem_map_of_mem hsection) (Slot.single_notMem_sections hslot)
      | member title name =>
        obtain rfl : title = key := htop
        have hlower : ∀ field ∈ fields, Layer.lower field.1 = field.1 ∧ IsLeaf field.2 := by
          intro field hmem
          obtain ⟨hname, hleaf⟩ := hfields field hmem
          exact ⟨(hnames _ hname).lower_eq, hleaf⟩
        show (Layer.tableOf (Layer.graftFields _ fields)).find? name = _
        rw [Layer.find?_graftFields hlower, Slot.find?_member]
        cases tree.find? title <;> rfl

/-- Laying a file over a tree changes what the file has settings for. -/
theorem overlay_declared {source : List (String × Json)} (hsorted : Entries.Sorted source)
    (h : ∀ entry ∈ source, IsDeclared entry) (hsectioned : Sectioned tree) :
    ∃ merged, Layer.overlay tree source = some merged ∧ Sectioned merged ∧
      ∀ slot ∈ slots, slot.find? merged
        = (slot.find? (Keyed.ofList source)).or (slot.find? tree) := by
  -- by induction on the members, of which no two have the same name
  induction source generalizing tree with
  | nil => exact ⟨tree, rfl, hsectioned, fun _ _ => rfl⟩
  | cons entry rest ih =>
    obtain ⟨key, value⟩ := entry
    rw [List.forall_mem_cons] at h
    obtain ⟨inner, hput, hinner, hinside⟩ := put_declared h.1 hsectioned
    obtain ⟨merged, hmerged, hsections, hfind⟩ := ih hsorted.of_cons h.2 hinner
    refine ⟨merged, ?_, hsections, ?_⟩
    · rw [Layer.overlay_cons, hput]
      exact hmerged
    · intro slot hslot
      rw [hfind slot hslot]
      by_cases htop : slot.top = key
      · subst htop
        have hlater : (Keyed.ofList rest).find? slot.top = none := by
          rw [Keyed.find?_ofList_of_sorted _ hsorted.of_cons]
          exact Entries.find?_eq_none_of_lt fun e he => List.rel_of_pairwise_cons hsorted he
        have hnone : slot.find? (Keyed.ofList rest) = none := by rw [Slot.find?, hlater]; rfl
        have hnow : slot.find? (Keyed.ofList ((slot.top, value) :: rest)) = slot.inside value := by
          rw [Slot.find?, Keyed.find?_ofList_cons, hlater, if_pos rfl]
          rfl
        rw [hnone, hnow, Option.none_or, Slot.find?_insert_top, hinside slot hslot rfl]
      · have hlater : slot.find? (Keyed.ofList ((key, value) :: rest))
            = slot.find? (Keyed.ofList rest) := by
          rw [Slot.find?, Slot.find?, Keyed.find?_ofList_cons, if_neg (Ne.symm htop), Option.or_none]
        rw [hlater, Slot.find?_insert_of_ne (Ne.symm htop)]

/-! ## Laying the environment over a tree -/

/-- The variables that give settings have the names of these. -/
def NamesSettings (environment : List (String × String)) : Prop :=
  ∀ entry ∈ environment, settingOf? entry.1 ≠ none → entry.1 ∈ variableNames

/-- Laying variables over a tree changes what they give. -/
theorem overlay_environment {environment : List (String × String)}
    (hsorted : Entries.Sorted environment) (h : NamesSettings environment)
    (hsectioned : Sectioned tree) :
    ∃ merged, Layer.overlay tree (environment.filterMap fun (name, text) =>
        (settingOf? name).map (·, Json.string text)) = some merged ∧ Sectioned merged ∧
      ∀ slot ∈ slots, slot.find? merged
        = ((Entries.find? slot.variableName environment).map .string).or (slot.find? tree) := by
  induction environment generalizing tree with
  | nil => exact ⟨tree, rfl, hsectioned, fun _ _ => rfl⟩
  | cons entry rest ih =>
    obtain ⟨name, text⟩ := entry
    obtain ⟨hname, hrest⟩ := List.forall_mem_cons.1 h
    cases hsetting : settingOf? name with
    | none =>
      -- the variable is none of those that give settings
      obtain ⟨merged, hmerged, hsections, hfind⟩ := ih hsorted.of_cons hrest hsectioned
      refine ⟨merged, ?_, hsections, ?_⟩
      · simp only [List.filterMap_cons, hsetting, Option.map_none]
        exact hmerged
      · intro slot hslot
        have hne : name ≠ slot.variableName := by
          rintro rfl
          rw [Slot.settingOf?_variableName (Slot.isNamed_of_mem hslot)] at hsetting
          cases hsetting
        rw [hfind slot hslot, Entries.find?, if_neg hne]
    | some setting =>
      have hmem : name ∈ variableNames := hname (by simp [hsetting])
      rw [variableNames_eq] at hmem
      obtain ⟨given, hgiven, rfl⟩ := List.mem_map.1 hmem
      have hnamed := Slot.isNamed_of_mem hgiven
      rw [Slot.settingOf?_variableName hnamed] at hsetting
      obtain rfl := Option.some.inj hsetting
      have hput : Sectioned (given.put (.string text) tree) := Slot.sectioned_put hsectioned hgiven
      obtain ⟨merged, hmerged, hsections, hfind⟩ := ih hsorted.of_cons hrest hput
      refine ⟨merged, ?_, hsections, ?_⟩
      · simp only [List.filterMap_cons, Slot.settingOf?_variableName hnamed, Option.map_some]
        have hleaf : IsLeaf (.string text) := rfl
        rw [Layer.overlay_cons, Slot.put_setting hnamed hleaf]
        exact hmerged
      · intro slot hslot
        rw [hfind slot hslot, Slot.find?_put hgiven hslot, Entries.find?]
        by_cases heq : given = slot
        · subst heq
          have hlater : Entries.find? given.variableName rest = none :=
            Entries.find?_eq_none_of_lt fun e he => List.rel_of_pairwise_cons hsorted he
          rw [if_pos rfl, if_pos rfl, hlater]
          rfl
        · have hne : given.variableName ≠ slot.variableName := fun hname =>
            heq (Slot.eq_of_variableName_eq hnamed (Slot.isNamed_of_mem hslot) hname)
          rw [if_neg heq, if_neg hne]

end Settings

end ProjectCache
