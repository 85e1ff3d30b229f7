/-
# ProjectCache.Proofs.Keyed — what the operations on maps do to the lookups.

A map is known by its lookups (`Keyed.ext_find?`), so each operation is described by the lookups of
its result: `Keyed.find?_ofList_cons`, `Keyed.find?_union` and `Keyed.find?_filter`, beside the two that
stand with the definitions. The list of a map's own entries is that map again
(`Keyed.ofList_entries`), which is why an object that was written is read back as it was.
-/
import ProjectCache.Keyed

namespace ProjectCache.Keyed

variable {α : Type}

/-! ## Lists of pairs -/

@[simp] theorem find?_ofList_nil (key : String) : (ofList ([] : List (String × α))).find? key = none :=
  rfl

@[simp] theorem find?_ofList_cons (key k : String) (v : α) (rest : List (String × α)) :
    (ofList ((k, v) :: rest)).find? key
      = ((ofList rest).find? key).or (if k = key then some v else none) := by
  show (if (ofList rest).contains k then ofList rest else (ofList rest).insert k v).find? key = _
  by_cases hk : k = key
  · subst hk
    cases h : (ofList rest).find? k <;> simp [contains, h]
  · split <;> simp [hk]

/-- A key that is in none of the pairs is not there. -/
theorem find?_ofList_eq_none {key : String} {pairs : List (String × α)}
    (h : ∀ e ∈ pairs, e.1 ≠ key) : (ofList pairs).find? key = none := by
  induction pairs with
  | nil => rfl
  | cons head rest ih =>
    obtain ⟨k, v⟩ := head
    rw [find?_ofList_cons, ih fun e he => h e (List.mem_cons_of_mem _ he),
      if_neg (h (k, v) List.mem_cons_self)]
    rfl

theorem mem_of_find?_ofList {key : String} {value : α} {pairs : List (String × α)}
    (h : (ofList pairs).find? key = some value) : (key, value) ∈ pairs := by
  induction pairs with
  | nil => cases h
  | cons head rest ih =>
    obtain ⟨k, v⟩ := head
    rw [find?_ofList_cons] at h
    rcases Option.or_eq_some_iff.1 h with h | ⟨-, h⟩
    · exact List.mem_cons_of_mem _ (ih h)
    · split at h
      · rename_i heq
        obtain rfl := Option.some.inj h
        exact heq ▸ List.mem_cons_self
      · cases h

/-- Of two lists the second comes first. -/
@[simp] theorem find?_ofList_append (key : String) (front back : List (String × α)) :
    (ofList (front ++ back)).find? key = ((ofList back).find? key).or ((ofList front).find? key) := by
  induction front with
  | nil => simp
  | cons head rest ih =>
    obtain ⟨k, v⟩ := head
    rw [List.cons_append, find?_ofList_cons, find?_ofList_cons, ih, Option.or_assoc]

/-- A pair that is there when a value is. -/
@[simp] theorem find?_ofList_toList {β : Type} (key name : String) (f : β → α) (o : Option β) :
    (ofList (o.map fun b => (name, f b)).toList).find? key
      = if name = key then o.map f else none := by
  cases o with
  | none => simp
  | some b => rw [Option.map_some, Option.toList_some, find?_ofList_cons]; simp

/-- A map looks up what the list of its entries holds. -/
theorem find?_eq_some_iff {map : Keyed α} {key : String} {value : α} :
    map.find? key = some value ↔ (key, value) ∈ map.entries := by
  constructor
  · exact Entries.mem_of_find?
  · exact Entries.find?_of_mem map.sorted

/-- In a list with increasing keys no later pair hides an earlier one. -/
theorem find?_ofList_of_sorted (key : String) {entries : List (String × α)}
    (h : Entries.Sorted entries) : (ofList entries).find? key = Entries.find? key entries := by
  induction entries with
  | nil => rfl
  | cons head rest ih =>
    obtain ⟨k, v⟩ := head
    have hk : Entries.find? k rest = none :=
      Entries.find?_eq_none_of_lt fun e he => List.rel_of_pairwise_cons h he
    rw [find?_ofList_cons, ih h.of_cons]
    by_cases heq : k = key
    · subst heq
      simp [Entries.find?, hk]
    · simp [Entries.find?, heq]

/-- The map of a map's entries is the map. -/
@[simp] theorem ofList_entries (map : Keyed α) : ofList map.entries = map :=
  ext_find? fun key => find?_ofList_of_sorted key map.sorted

/-! ## Unions and parts -/

theorem find?_foldl_insert (key : String) (pairs : List (String × α)) (map : Keyed α) :
    (pairs.foldl (fun acc e => acc.insert e.1 e.2) map).find? key
      = ((ofList pairs).find? key).or (map.find? key) := by
  -- every pair is inserted into what the earlier ones made of the map
  induction pairs generalizing map with
  | nil => rfl
  | cons head rest ih =>
    obtain ⟨k, v⟩ := head
    rw [List.foldl_cons, ih, find?_insert, find?_ofList_cons]
    cases (ofList rest).find? key with
    | some w => rfl
    | none => by_cases hk : k = key <;> simp [hk]

/-- The second map of a union comes first. -/
@[simp] theorem find?_union (map other : Keyed α) (key : String) :
    (map.union other).find? key = (other.find? key).or (map.find? key) := by
  have h := find?_foldl_insert key other.entries map
  rw [ofList_entries] at h
  exact h

@[simp] theorem find?_filter (map : Keyed α) (keep : String → α → Bool) (key : String) :
    (map.filter keep).find? key = (map.find? key).filter (keep key) := by
  apply Option.ext
  intro value
  rw [Option.filter_eq_some_iff, find?_eq_some_iff, find?_eq_some_iff]
  simp [filter]

/-- Removing a key that is not there changes nothing. -/
theorem erase_of_find?_eq_none {map : Keyed α} {key : String} (h : map.find? key = none) :
    map.erase key = map := by
  apply ext_find?
  intro other
  rw [find?_erase]
  split
  · rename_i heq
    rw [heq, h]
  · rfl

end ProjectCache.Keyed
