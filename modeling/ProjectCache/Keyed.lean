/-
# ProjectCache.Keyed — finite maps from text, kept in key order.

A `Keyed α` is a list of key and value pairs whose keys strictly increase. The order is that of
the characters' code points, which is also the byte order of the keys' UTF-8 form, so listing a
map needs no sorting and two maps with the same answers are equal (`Keyed.ext_find?`). The cache
store, JSON objects with unknown members and the data source's records are all maps of this kind.
-/
namespace ProjectCache

/-! ## Key-ordered lists -/

namespace Entries

variable {α : Type}

/-- Puts a value under a key, in key order, replacing the value that was there. -/
def insert (key : String) (value : α) : List (String × α) → List (String × α)
  | [] => [(key, value)]
  | (k, v) :: rest =>
    if key < k then (key, value) :: (k, v) :: rest
    else if key = k then (key, value) :: rest
    else (k, v) :: insert key value rest

/-- The value under a key. -/
def find? (key : String) : List (String × α) → Option α
  | [] => none
  | (k, v) :: rest => if k = key then some v else find? key rest

/-- Keys strictly increase. -/
abbrev Sorted (entries : List (String × α)) : Prop :=
  entries.Pairwise (fun a b => a.1 < b.1)

theorem mem_insert {key : String} {value : α} {entry : String × α} {entries : List (String × α)}
    (h : entry ∈ insert key value entries) : entry = (key, value) ∨ entry ∈ entries := by
  induction entries with
  | nil => simpa [insert] using h
  | cons head rest ih =>
    obtain ⟨k, v⟩ := head
    rw [insert] at h
    split at h
    · simpa using h
    · split at h
      · rcases List.mem_cons.1 h with h | h
        · exact .inl h
        · exact .inr (List.mem_cons_of_mem _ h)
      · rcases List.mem_cons.1 h with h | h
        · exact .inr (h ▸ List.mem_cons_self)
        · exact (ih h).imp_right (List.mem_cons_of_mem _)

theorem Sorted.insert {key : String} {value : α} {entries : List (String × α)}
    (h : Sorted entries) : Sorted (Entries.insert key value entries) := by
  induction entries with
  | nil => simp [Entries.insert]
  | cons head rest ih =>
    obtain ⟨k, v⟩ := head
    have hhead : ∀ e ∈ rest, k < e.1 := fun e he => List.rel_of_pairwise_cons h he
    rw [Entries.insert]
    split
    · rename_i hlt
      refine h.cons fun e he => ?_
      rcases List.mem_cons.1 he with rfl | he
      · exact hlt
      · exact String.lt_trans hlt (hhead e he)
    · rename_i hnot
      split
      · rename_i heq
        subst heq
        exact h.of_cons.cons hhead
      · rename_i hne
        refine (ih h.of_cons).cons fun e he => ?_
        rcases mem_insert he with rfl | he
        · have hle : k ≤ key := String.not_lt.1 hnot
          by_cases hback : key ≤ k
          · exact absurd (String.le_antisymm hback hle) hne
          · exact String.not_le.1 hback
        · exact hhead e he

theorem find?_insert (key other : String) (value : α) (entries : List (String × α)) :
    find? other (insert key value entries)
      = if key = other then some value else find? other entries := by
  induction entries with
  | nil => simp [insert, find?]
  | cons head rest ih =>
    obtain ⟨k, v⟩ := head
    rw [insert]
    split
    · simp [find?]
    · split
      · rename_i heq
        subst heq
        by_cases h : key = other <;> simp [find?, h]
      · rename_i hne
        by_cases hk : k = other
        · have : key ≠ other := fun h => hne (h.trans hk.symm)
          simp [find?, hk, this]
        · simp [find?, hk, ih]

theorem find?_eq_none_of_lt {key : String} {entries : List (String × α)}
    (h : ∀ e ∈ entries, key < e.1) : find? key entries = none := by
  induction entries with
  | nil => rfl
  | cons head rest ih =>
    obtain ⟨k, v⟩ := head
    have hk : key < k := h (k, v) List.mem_cons_self
    have hne : k ≠ key := fun heq => String.lt_irrefl key (heq ▸ hk)
    simp [find?, hne, ih fun e he => h e (List.mem_cons_of_mem _ he)]

theorem find?_filter (keep : String → Bool) (key : String) (entries : List (String × α)) :
    find? key (entries.filter fun e => keep e.1)
      = if keep key then find? key entries else none := by
  induction entries with
  | nil => simp [find?]
  | cons head rest ih =>
    obtain ⟨k, v⟩ := head
    by_cases hk : keep k <;> by_cases heq : k = key
    · subst heq; simp [find?, hk]
    · simp [find?, hk, heq, ih]
    · subst heq; simp [hk, ih]
    · simp [find?, hk, heq, ih]

theorem mem_of_find? {key : String} {value : α} {entries : List (String × α)}
    (h : find? key entries = some value) : (key, value) ∈ entries := by
  induction entries with
  | nil => simp [find?] at h
  | cons head rest ih =>
    obtain ⟨k, v⟩ := head
    by_cases hk : k = key
    · subst hk
      simp only [find?, if_true, Option.some.injEq] at h
      exact h ▸ List.mem_cons_self
    · simp only [find?, hk, if_false] at h
      exact List.mem_cons_of_mem _ (ih h)

theorem find?_of_mem {key : String} {value : α} {entries : List (String × α)}
    (hs : Sorted entries) (h : (key, value) ∈ entries) : find? key entries = some value := by
  induction entries with
  | nil => simp at h
  | cons head rest ih =>
    obtain ⟨k, v⟩ := head
    rcases List.mem_cons.1 h with h | h
    · cases h; simp [find?]
    · have hlt : k < key := List.rel_of_pairwise_cons hs h
      have hne : k ≠ key := fun heq => String.lt_irrefl key (heq ▸ hlt)
      simp [find?, hne, ih hs.of_cons h]

/-- Two sorted lists that answer every key alike are the same list. -/
theorem eq_of_find?_eq {a b : List (String × α)} (ha : Sorted a) (hb : Sorted b)
    (h : ∀ key, find? key a = find? key b) : a = b := by
  induction a generalizing b with
  | nil =>
    cases b with
    | nil => rfl
    | cons head rest => have := h head.1; simp [find?] at this
  | cons x xs ih =>
    cases b with
    | nil => have := h x.1; simp [find?] at this
    | cons y ys =>
      obtain ⟨kx, vx⟩ := x
      obtain ⟨ky, vy⟩ := y
      have hx : ∀ e ∈ xs, kx < e.1 := fun e he => List.rel_of_pairwise_cons ha he
      have hy : ∀ e ∈ ys, ky < e.1 := fun e he => List.rel_of_pairwise_cons hb he
      have hkeys : kx = ky := by
        have h1 : (kx, vx) ∈ (ky, vy) :: ys :=
          mem_of_find? (by rw [← h kx]; simp [find?])
        have h2 : (ky, vy) ∈ (kx, vx) :: xs :=
          mem_of_find? (by rw [h ky]; simp [find?])
        rcases List.mem_cons.1 h1 with h1 | h1
        · exact congrArg Prod.fst h1
        · rcases List.mem_cons.1 h2 with h2 | h2
          · exact (congrArg Prod.fst h2).symm
          · exact absurd (String.lt_trans (hy _ h1) (hx _ h2)) (String.lt_irrefl ky)
      subst hkeys
      have hvalues : vx = vy := by simpa [find?] using h kx
      subst hvalues
      congr 1
      refine ih ha.of_cons hb.of_cons fun key => ?_
      by_cases hk : kx = key
      · subst hk
        rw [find?_eq_none_of_lt hx, find?_eq_none_of_lt hy]
      · simpa [find?, hk] using h key

end Entries

/-! ## Maps -/

/-- A finite map from text to values, with its keys in increasing order. -/
structure Keyed (α : Type) where
  /-- The pairs, in key order. -/
  entries : List (String × α)
  /-- No key occurs twice, and they increase. -/
  sorted : Entries.Sorted entries

namespace Keyed

variable {α β : Type}

/-- The map without entries. -/
def empty : Keyed α := ⟨[], List.Pairwise.nil⟩

instance : EmptyCollection (Keyed α) := ⟨empty⟩

instance : Inhabited (Keyed α) := ⟨empty⟩

/-- The value under a key. -/
def find? (map : Keyed α) (key : String) : Option α :=
  Entries.find? key map.entries

/-- Is there a value under the key? -/
def contains (map : Keyed α) (key : String) : Bool :=
  (map.find? key).isSome

/-- Sets the value under a key. -/
def insert (map : Keyed α) (key : String) (value : α) : Keyed α :=
  ⟨Entries.insert key value map.entries, map.sorted.insert⟩

/-- Keeps the entries that satisfy a test on key and value. -/
def filter (map : Keyed α) (keep : String → α → Bool) : Keyed α :=
  ⟨map.entries.filter fun e => keep e.1 e.2, map.sorted.filter _⟩

/-- Removes a key. -/
def erase (map : Keyed α) (key : String) : Keyed α :=
  map.filter fun k _ => k != key

/-- The map of a list of pairs, of which the last with a key counts. -/
def ofList (pairs : List (String × α)) : Keyed α :=
  pairs.foldr (fun e map => if map.contains e.1 then map else map.insert e.1 e.2) empty

/-- Adds all entries of the second map to the first, replacing what is there. -/
def union (map other : Keyed α) : Keyed α :=
  other.entries.foldl (fun acc e => acc.insert e.1 e.2) map

/-- The keys, in order. -/
def keys (map : Keyed α) : List String :=
  map.entries.map (·.1)

/-- How many entries there are. -/
def size (map : Keyed α) : Nat :=
  map.entries.length

/-- Replaces every value by its image. -/
def map (f : α → β) (m : Keyed α) : Keyed β :=
  ⟨m.entries.map fun e => (e.1, f e.2), List.pairwise_map.2 m.sorted⟩

@[simp] theorem find?_empty (key : String) : (empty : Keyed α).find? key = none := rfl

@[simp] theorem find?_insert (map : Keyed α) (key other : String) (value : α) :
    (map.insert key value).find? other
      = if key = other then some value else map.find? other :=
  Entries.find?_insert key other value map.entries

@[simp] theorem find?_erase (map : Keyed α) (key other : String) :
    (map.erase key).find? other = if other = key then none else map.find? other := by
  have h := Entries.find?_filter (fun k => k != key) other map.entries
  show Entries.find? other (map.entries.filter fun e => e.1 != key) = _
  rw [h]
  by_cases heq : other = key <;> simp [heq, find?]

/-- Maps that answer every key alike are equal. -/
theorem ext_find? {a b : Keyed α} (h : ∀ key, a.find? key = b.find? key) : a = b := by
  obtain ⟨ea, ha⟩ := a
  obtain ⟨eb, hb⟩ := b
  have : ea = eb := Entries.eq_of_find?_eq ha hb h
  subst this
  rfl

instance [DecidableEq α] : DecidableEq (Keyed α) := fun a b =>
  if h : a.entries = b.entries then
    isTrue (by cases a; cases b; simp only at h; subst h; rfl)
  else isFalse fun heq => h (heq ▸ rfl)

end Keyed

end ProjectCache
