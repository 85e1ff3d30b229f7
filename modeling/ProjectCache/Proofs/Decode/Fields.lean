/-
# ProjectCache.Proofs.Decode.Fields — what the readers of records accept.

Two directions. A record whose members are looked up as they were written is read back
(`Fields.keepingExtra_ofMap`, `Fields.record_ofFields`), given that the members that are kept apart
have none of the declared names (`Keyed.Avoids`). Conversely, whatever a reader that keeps other
members returns has this property (`Fields.avoids_of_keepingExtra`), because the kept members are
those that are left when the declared ones are taken out.
-/
import ProjectCache.Decode.Basic
import ProjectCache.Proofs.Keyed

namespace ProjectCache

/-- No key of the map is one of the names. -/
def Keyed.Avoids {α : Type} (map : Keyed α) (names : List String) : Prop :=
  ∀ name ∈ names, map.find? name = none

/-! ## Plain values -/

namespace Decoder

variable {α : Type}

@[simp] theorem text_string (s : String) : text (.string s) = .ok s := rfl

@[simp] theorem flag_bool (b : Bool) : flag (.bool b) = .ok b := rfl

theorem natural_nat {bits n : Nat} (name : String) (h : n < Word.count bits) :
    natural bits name (.nat n) = .ok n := by
  have hn : (0 : Int) ≤ n ∧ (n : Int) < (Word.count bits : Nat) := by omega
  show (integer 0 (Word.count bits) name (.number (.int n))).map Int.toNat = _
  rw [integer, if_pos hn]
  rfl

/-- An optional value is read back when its form is not the one that stands for none. -/
theorem optional_ofOption {value : Decoder α} {o : Option α} (encode : α → Json)
    (hread : ∀ a ∈ o, value (encode a) = .ok a) (hnull : ∀ a ∈ o, encode a ≠ .null) :
    optional value (.ofOption encode o) = .ok o := by
  cases o with
  | none => rfl
  | some a =>
    show optional value (encode a) = _
    rw [optional, hread a rfl]
    · rfl
    · exact hnull a rfl

@[simp] theorem optional_ofOption_string (o : Option String) :
    optional text (.ofOption .string o) = .ok o := by
  cases o <;> rfl

/-- What an optional reader returns was read by the reader. -/
theorem of_optional {value : Decoder α} {json : Json} {o : Option α}
    (h : optional value json = .ok o) : ∀ a ∈ o, value json = .ok a := by
  intro a ha
  cases ha
  cases json with
  | null => cases h
  | _ =>
    revert h
    simp only [optional]
    cases value _ with
    | error e => intro h; cases h
    | ok b => intro h; cases h; rfl

theorem items_map {item : Decoder α} {encode : α → Json} {as : List α}
    (h : ∀ a ∈ as, item (encode a) = .ok a) : items item (as.map encode) = .ok as := by
  induction as with
  | nil => rfl
  | cons a rest ih =>
    have hrest := ih fun b hb => h b (List.mem_cons_of_mem _ hb)
    simp only [List.map_cons, items, h a List.mem_cons_self, hrest, Except.map]

/-- A list is read back when each of its items is. -/
theorem list_map {item : Decoder α} {encode : α → Json} {as : List α}
    (h : ∀ a ∈ as, item (encode a) = .ok a) : list item (.array (as.map encode)) = .ok as :=
  items_map h

theorem exists_of_mem_items {item : Decoder α} {js : List Json} {as : List α}
    (h : items item js = .ok as) : ∀ a ∈ as, ∃ json, item json = .ok a := by
  induction js generalizing as with
  | nil => cases h; simp
  | cons json rest ih =>
    rw [items] at h
    cases hitem : item json with
    | error e => simp [hitem] at h
    | ok b =>
      cases hrest : items item rest with
      | error e => simp [hitem, hrest, Except.map] at h
      | ok bs =>
        simp only [hitem, hrest, Except.map, Except.ok.injEq] at h
        subst h
        intro a ha
        rcases List.mem_cons.1 ha with rfl | ha
        · exact ⟨json, hitem⟩
        · exact ih hrest a ha

/-- Each item of a list that was read was read by the reader of items. -/
theorem exists_of_mem_list {item : Decoder α} {json : Json} {as : List α}
    (h : list item json = .ok as) : ∀ a ∈ as, ∃ json, item json = .ok a := by
  cases json with
  | array js => exact exists_of_mem_items h
  | _ => cases h

end Decoder

/-! ## Records -/

namespace Fields

variable {α β : Type}

@[simp] theorem ofMembers_map (f : α → β) (as : Fields α) (ms : Keyed Json) :
    (f <$> as).ofMembers ms = (as.ofMembers ms).map f := rfl

@[simp] theorem ofMembers_seq (fs : Fields (α → β)) (as : Fields α) (ms : Keyed Json) :
    (fs <*> as).ofMembers ms =
      match fs.ofMembers ms, as.ofMembers ms with
      | .ok f, .ok a => .ok (f a)
      | .ok _, .error e => .error e
      | .error e, .ok _ => .error e
      | .error e, .error e' => .error (e.first e') := rfl

theorem ofItems_map (f : α → β) (as : Fields α) (expected : String) (i : Nat) (js : List Json) :
    (f <$> as).ofItems expected i js
      = (as.ofItems expected i js).map fun (a, rest) => (f a, rest) := rfl

theorem ofItems_seq (fs : Fields (α → β)) (as : Fields α) (expected : String) (i : Nat)
    (js : List Json) : (fs <*> as).ofItems expected i js =
      match fs.ofItems expected i js with
      | .error e => .error e
      | .ok (f, left) =>
        (as.ofItems expected (i + fs.names.length) left).map fun (a, rest) => (f a, rest) := rfl

/-- An optional field is read back when it is looked up as what it was written from. -/
theorem ofMembers_optional {name : String} {value : Decoder α} {ms : Keyed Json} {o : Option α}
    (encode : α → Json) (hfind : ms.find? name = o.map encode)
    (hread : ∀ a ∈ o, value (encode a) = .ok a) (hnull : ∀ a ∈ o, encode a ≠ .null) :
    (optional name value).ofMembers ms = .ok o := by
  have h := Decoder.optional_ofOption encode hread hnull
  cases o with
  | none => simp [optional, field, hfind]
  | some a =>
    replace h : Decoder.optional value (encode a) = .ok (some a) := h
    simp [optional, field, hfind, h]

theorem ofMembers_optional_text {name : String} {ms : Keyed Json} {o : Option String}
    (h : ms.find? name = o.map Json.string) : (optional name Decoder.text).ofMembers ms = .ok o :=
  ofMembers_optional Json.string h (fun _ _ => rfl) (by simp)

/-- Every value that these fields give satisfies the property. -/
def Always (fields : Fields α) (property : α → Prop) : Prop :=
  ∀ ms a, fields.ofMembers ms = .ok a → property a

theorem Always.map {f : α → β} {as : Fields α} {property : β → Prop} (h : ∀ a, property (f a)) :
    (f <$> as).Always property := by
  intro ms b hb
  rw [ofMembers_map] at hb
  cases has : as.ofMembers ms with
  | error e => simp [has, Except.map] at hb
  | ok a =>
    simp only [has, Except.map, Except.ok.injEq] at hb
    subst hb
    exact h a

theorem Always.seq {fs : Fields (α → β)} {as : Fields α} {property : β → Prop}
    (h : fs.Always fun f => ∀ a, property (f a)) : (fs <*> as).Always property := by
  intro ms b hb
  rw [ofMembers_seq] at hb
  cases hfs : fs.ofMembers ms with
  | error e => cases has : as.ofMembers ms <;> simp [hfs, has] at hb
  | ok f =>
    cases has : as.ofMembers ms with
    | error e => simp [hfs, has] at hb
    | ok a =>
      simp only [hfs, has, Except.ok.injEq] at hb
      subst hb
      exact h ms f hfs a

/-- The members that are kept are those that were put beside the declared ones. -/
theorem extraOf_union {fields : Fields α} {declared : List (String × Json)} {extra : Keyed Json}
    (hdeclared : ∀ e ∈ declared, e.1 ∈ fields.names) (hextra : extra.Avoids fields.names) :
    fields.extraOf ((Keyed.ofList declared).union extra) = extra := by
  apply Keyed.ext_find?
  intro key
  rw [extraOf, Keyed.find?_filter, Keyed.find?_union]
  -- a declared name is filtered out, and under another name only the others can be
  by_cases hkey : key ∈ fields.names
  · rw [hextra key hkey]
    simp [hkey]
  · have hnone : (Keyed.ofList declared).find? key = none :=
      Keyed.find?_ofList_eq_none fun e he heq => hkey (heq ▸ hdeclared e he)
    rw [hnone, Option.or_none]
    cases extra.find? key <;> simp [hkey]

/-- A record that keeps other members is read back from the declared members and the others. -/
theorem keepingExtra_ofMap {title : String} {fields : Fields (Keyed Json → α)}
    {declared : List (String × Json)} {extra : Keyed Json} (make : Keyed Json → α)
    (hread : fields.ofMembers ((Keyed.ofList declared).union extra) = .ok make)
    (hdeclared : ∀ e ∈ declared, e.1 ∈ fields.names) (hextra : extra.Avoids fields.names) :
    keepingExtra title fields (.ofMap ((Keyed.ofList declared).union extra)) = .ok (make extra) := by
  simp only [keepingExtra, Json.ofMap, Keyed.ofList_entries, readMembers, hread,
    extraOf_union hdeclared hextra, Except.map]

/-- What a record keeps beside its declared members has none of their names. -/
theorem avoids_of_keepingExtra {title : String} {fields : Fields (Keyed Json → α)} {json : Json}
    {a : α} (extra : α → Keyed Json) (hkeeps : fields.Always fun make => ∀ e, extra (make e) = e)
    (h : keepingExtra title fields json = .ok a) : (extra a).Avoids fields.names := by
  cases json with
  | object ms =>
    simp only [keepingExtra, readMembers] at h
    cases hread : fields.ofMembers (Keyed.ofList ms) with
    | error fault => simp [hread, Except.map] at h
    | ok make =>
      simp only [hread, Except.map, Except.ok.injEq] at h
      subst h
      intro name hname
      rw [hkeeps _ _ hread, extraOf, Keyed.find?_filter]
      cases (Keyed.ofList ms).find? name <;> simp [hname]
  | _ => cases h

/-- A record is read back from the object of its members. -/
theorem record_ofFields {title : String} {fields : Fields α} {members : List (String × Json)}
    {a : α} (hread : fields.ofMembers (Keyed.ofList members) = .ok a) :
    record title fields (.ofFields members) = .ok a := by
  simp only [record, Json.ofFields, Json.ofMap, Keyed.ofList_entries, readMembers, hread]

/-- Every value that these fields give, from an object or from an array, satisfies the property. -/
structure Gives (fields : Fields α) (property : α → Prop) : Prop where
  ofMembers : fields.Always property
  ofItems : ∀ expected i js a rest, fields.ofItems expected i js = .ok (a, rest) → property a

theorem Gives.map {f : α → β} {as : Fields α} {q : α → Prop} {property : β → Prop}
    (has : as.Gives q) (h : ∀ a, q a → property (f a)) : (f <$> as).Gives property := by
  constructor
  · intro ms b hb
    rw [ofMembers_map] at hb
    cases hread : as.ofMembers ms with
    | error e => simp [hread, Except.map] at hb
    | ok a =>
      simp only [hread, Except.map, Except.ok.injEq] at hb
      exact hb ▸ h a (has.ofMembers ms a hread)
  · intro expected i js b rest hb
    rw [ofItems_map] at hb
    cases hread : as.ofItems expected i js with
    | error e => simp [hread, Except.map] at hb
    | ok read =>
      obtain ⟨a, left⟩ := read
      simp only [hread, Except.map, Except.ok.injEq, Prod.mk.injEq] at hb
      exact hb.1 ▸ h a (has.ofItems expected i js a left hread)

theorem Gives.seq {fs : Fields (α → β)} {as : Fields α} {q : α → Prop} {property : β → Prop}
    (hfs : fs.Gives fun f => ∀ a, q a → property (f a)) (has : as.Gives q) :
    (fs <*> as).Gives property := by
  constructor
  · intro ms b hb
    rw [ofMembers_seq] at hb
    cases hf : fs.ofMembers ms with
    | error e => cases ha : as.ofMembers ms <;> simp [hf, ha] at hb
    | ok f =>
      cases ha : as.ofMembers ms with
      | error e => simp [hf, ha] at hb
      | ok a =>
        simp only [hf, ha, Except.ok.injEq] at hb
        exact hb ▸ hfs.ofMembers ms f hf a (has.ofMembers ms a ha)
  · intro expected i js b rest hb
    rw [ofItems_seq] at hb
    cases hf : fs.ofItems expected i js with
    | error e => simp [hf] at hb
    | ok read =>
      obtain ⟨f, left⟩ := read
      simp only [hf] at hb
      cases ha : as.ofItems expected (i + fs.names.length) left with
      | error e => simp [ha, Except.map] at hb
      | ok last =>
        obtain ⟨a, left'⟩ := last
        simp only [ha, Except.map, Except.ok.injEq, Prod.mk.injEq] at hb
        exact hb.1 ▸ hfs.ofItems _ _ _ f left hf a (has.ofItems _ _ _ a left' ha)

/-- A field gives what its reader reads, or its default. -/
theorem Gives.field {name : String} {value : Decoder α} {default : Option α} {property : α → Prop}
    (hvalue : ∀ json a, value json = .ok a → property a) (hdefault : ∀ a ∈ default, property a) :
    (field name value default).Gives property := by
  constructor
  · intro ms a h
    simp only [Fields.field] at h
    cases hfind : ms.find? name with
    | some json =>
      cases hread : value json with
      | error e => simp [hfind, hread] at h
      | ok b =>
        simp only [hfind, hread, Except.ok.injEq] at h
        exact h ▸ hvalue json b hread
    | none =>
      cases default with
      | none => simp [hfind] at h
      | some b =>
        simp only [hfind, Except.ok.injEq] at h
        exact h ▸ hdefault b rfl
  · intro expected i js a rest h
    cases js with
    | cons json left =>
      simp only [Fields.field] at h
      cases hread : value json with
      | error e => simp [hread, Except.map] at h
      | ok b =>
        simp only [hread, Except.map, Except.ok.injEq, Prod.mk.injEq] at h
        exact h.1 ▸ hvalue json b hread
    | nil =>
      cases default with
      | none => cases h
      | some b =>
        simp only [Fields.field, Except.ok.injEq, Prod.mk.injEq] at h
        exact h.1 ▸ hdefault b rfl

/-- A record that was read satisfies what its fields give. -/
theorem Gives.of_record {title : String} {fields : Fields α} {property : α → Prop} {json : Json}
    {a : α} (hfields : fields.Gives property) (h : record title fields json = .ok a) :
    property a := by
  cases json with
  | object ms =>
    simp only [record, readMembers] at h
    cases hread : fields.ofMembers (Keyed.ofList ms) with
    | error fault => simp [hread] at h
    | ok b =>
      simp only [hread, Except.ok.injEq] at h
      exact h ▸ hfields.ofMembers _ b hread
  | array js =>
    simp only [record, readArray] at h
    split at h
    · cases h
    · rename_i b hread
      simp only [Except.ok.injEq] at h
      exact h ▸ hfields.ofItems _ _ _ _ _ hread
    · cases h
  | _ => cases h

end Fields

end ProjectCache
