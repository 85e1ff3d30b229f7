/-
# ProjectCache.Proofs.Store — what callers see of a store.

Callers see the live entries (`Store.live?`), and of those the documents that decode
(`Store.document?`). The operations of a store come down to putting and dropping entries, and reading
a document to dropping one that is of no use (`Store.sift`).
-/
import ProjectCache.Store
import ProjectCache.Decode.Basic
import ProjectCache.Proofs.Keyed

namespace ProjectCache.Store

variable {α β : Type} {now later : Nat}

/-! ## Putting and dropping entries -/

/-- Puts an entry under a key. -/
def put (store : Store) (key : String) (entry : Entry) : Store := ⟨store.entries.insert key entry⟩

/-- Drops the entry of a key. -/
def drop (store : Store) (key : String) : Store := ⟨store.entries.erase key⟩

@[simp] theorem find?_put (store : Store) (key other : String) (entry : Entry) :
    (store.put key entry).entries.find? other
      = if key = other then some entry else store.entries.find? other :=
  Keyed.find?_insert store.entries key other entry

@[simp] theorem find?_drop (store : Store) (key other : String) :
    (store.drop key).entries.find? other
      = if other = key then none else store.entries.find? other :=
  Keyed.find?_erase store.entries key other

@[simp] theorem live?_put (store : Store) (now : Nat) (key other : String) (entry : Entry) :
    (store.put key entry).live? now other
      = if key = other then (some entry).filter (·.isLive now) else store.live? now other := by
  rw [live?, find?_put]
  split <;> rfl

/-- A new entry that is live is found. -/
theorem live?_put_self {entry : Entry} (h : entry.isLive now) (store : Store) (key : String) :
    (store.put key entry).live? now key = some entry := by
  rw [live?_put, if_pos rfl, Option.filter_some, if_pos h]

/-- What is live under the key of a new entry is the new entry. -/
theorem eq_of_live?_put {store : Store} {key : String} {entry other : Entry}
    (h : (store.put key entry).live? now key = some other) : other = entry := by
  rw [live?_put, if_pos rfl] at h
  exact (Option.some.inj (Option.filter_eq_some_iff.1 h).1).symm

@[simp] theorem live?_drop (store : Store) (now : Nat) (key other : String) :
    (store.drop key).live? now other = if other = key then none else store.live? now other := by
  rw [live?, find?_drop]
  split <;> rfl

/-- Dropping what is not there changes nothing. -/
theorem drop_of_find?_eq_none {store : Store} {key : String}
    (h : store.entries.find? key = none) : store.drop key = store := by
  show Store.mk (store.entries.erase key) = store
  rw [Keyed.erase_of_find?_eq_none h]

@[simp] theorem put_drop (store : Store) (key : String) (entry : Entry) :
    (store.drop key).put key entry = store.put key entry := by
  show Store.mk ((store.entries.erase key).insert key entry)
    = Store.mk (store.entries.insert key entry)
  congr 1
  -- maps are compared by their lookups, as entries are kept in order and not as they came
  apply Keyed.ext_find?
  intro other
  rw [Keyed.find?_insert, Keyed.find?_insert, Keyed.find?_erase]
  split
  · rfl
  · rename_i h
    rw [if_neg fun heq => h heq.symm]

theorem get_fst (store : Store) (now : Nat) (key : String) :
    (store.get now key).1 = (store.live? now key).map Entry.value := by
  unfold get live?
  cases store.entries.find? key with
  | none => rfl
  | some entry => by_cases h : entry.isLive now = true <;> simp [Option.filter_some, h]

/-- Reading drops an entry that is not live. -/
theorem get_snd (store : Store) (now : Nat) (key : String) :
    (store.get now key).2 = if (store.live? now key).isSome then store else store.drop key := by
  unfold get live?
  cases h : store.entries.find? key with
  | none => exact (drop_of_find?_eq_none h).symm
  | some entry => by_cases hlive : entry.isLive now = true <;> simp [Option.filter_some, hlive, drop]

/-- A document is stored while its deadline is within the time that the clock can count. -/
theorem set_eq (store : Store) (now : Nat) (key : String) (value : Json) (ttl : Span) :
    store.set now key value ttl
      = if now + ttl.nanos < clockEnd then .ok (store.put key ⟨value, now + ttl.nanos⟩)
        else .error (.ttlOutOfRange ttl key) := rfl

@[simp] theorem drop_drop (store : Store) (key : String) :
    (store.drop key).drop key = store.drop key := by
  apply drop_of_find?_eq_none
  rw [find?_drop, if_pos rfl]

/-- The parts of a pattern, or why it is refused. -/
def readPattern (pattern : String) : Except Misconfiguration (List Glob.Token) :=
  match Glob.ofText pattern with
  | .error .unterminatedClass => .error (.unterminatedClass pattern)
  | .error .invalid => .error (.invalidPattern pattern)
  | .ok tokens => .ok tokens

/-- The entries whose keys a pattern does not match. -/
def without (store : Store) (tokens : List Glob.Token) : Store :=
  ⟨store.entries.filter fun key _ => ! Glob.acceptsText tokens key⟩

@[simp] theorem find?_without (store : Store) (tokens : List Glob.Token) (key : String) :
    (store.without tokens).entries.find? key
      = if Glob.acceptsText tokens key then none else store.entries.find? key := by
  rw [without, Keyed.find?_filter]
  cases store.entries.find? key with
  | none => simp
  | some entry => cases Glob.acceptsText tokens key <;> simp [Option.filter_some]

theorem live?_without (store : Store) (tokens : List Glob.Token) (now : Nat) (key : String) :
    (store.without tokens).live? now key
      = if Glob.acceptsText tokens key then none else store.live? now key := by
  rw [live?, find?_without]
  split <;> rfl

theorem find?_liveEntries (store : Store) (now : Nat) (key : String) :
    (store.liveEntries now).find? key = store.live? now key :=
  Keyed.find?_filter _ _ key

/-- How many live keys a pattern matches. -/
def matchCount (store : Store) (now : Nat) (tokens : List Glob.Token) : Nat :=
  ((store.liveEntries now).filter fun key _ => Glob.acceptsText tokens key).size

/-- A pattern that can be read removes what it matches, and any other removes nothing. -/
theorem deletePattern_eq (store : Store) (now : Nat) (pattern : String) :
    store.deletePattern now pattern
      = (readPattern pattern).map fun tokens => (store.matchCount now tokens, store.without tokens) := by
  unfold deletePattern readPattern
  match Glob.ofText pattern with
  | .error .unterminatedClass => rfl
  | .error .invalid => rfl
  | .ok tokens =>
    have hmatched : (store.entries.filter fun key entry =>
        Glob.acceptsText tokens key && entry.isLive now).size = store.matchCount now tokens := by
      congr 1
      apply Keyed.ext_find?
      intro key
      rw [liveEntries, Keyed.find?_filter, Keyed.find?_filter, Keyed.find?_filter,
        Option.filter_filter]
      simp only [Bool.and_comm]
    simp only [hmatched]
    rfl

/-! ## Documents -/

/-- The document that a key holds, when it is live and decodes. -/
def document? (store : Store) (decode : Decoder α) (now : Nat) (key : String) : Option α :=
  (store.live? now key).bind fun entry => (decode entry.value).toOption

theorem document?_eq_some {store : Store} {decode : Decoder α} {key : String} {value : α} :
    store.document? decode now key = some value ↔
      ∃ entry, store.live? now key = some entry ∧ decode entry.value = .ok value := by
  rw [document?, Option.bind_eq_some_iff]
  constructor
  · rintro ⟨entry, hlive, hvalue⟩
    refine ⟨entry, hlive, ?_⟩
    cases h : decode entry.value with
    | ok v => simpa [h, Except.toOption] using hvalue
    | error e => simp [h, Except.toOption] at hvalue
  · rintro ⟨entry, hlive, hvalue⟩
    exact ⟨entry, hlive, by rw [hvalue]; rfl⟩

theorem document?_of_live {store : Store} {decode : Decoder α} {key : String} {entry : Entry}
    {value : α} (hlive : store.live? now key = some entry) (hvalue : decode entry.value = .ok value) :
    store.document? decode now key = some value :=
  document?_eq_some.2 ⟨entry, hlive, hvalue⟩

theorem isSome_live?_of_document? {store : Store} {decode : Decoder α} {key : String}
    (h : (store.document? decode now key).isSome) : (store.live? now key).isSome := by
  obtain ⟨value, hvalue⟩ := Option.isSome_iff_exists.1 h
  obtain ⟨entry, hlive, -⟩ := document?_eq_some.1 hvalue
  exact Option.isSome_of_eq_some hlive

/-- Stores that hold the same live entry under a key hold the same document there. -/
theorem document?_congr {store other : Store} {key : String}
    (h : store.live? now key = other.live? later key) (decode : Decoder α) :
    store.document? decode now key = other.document? decode later key := by
  rw [document?, document?, h]

/-- The document under the key of a new entry is the one that the entry holds. -/
theorem eq_of_document?_put {store : Store} {decode : Decoder α} {key : String} {entry : Entry}
    {value other : α} (hvalue : decode entry.value = .ok value)
    (h : (store.put key entry).document? decode now key = some other) : other = value := by
  obtain ⟨found, hlive, hdecode⟩ := document?_eq_some.1 h
  obtain rfl := eq_of_live?_put hlive
  exact Except.ok.inj (hdecode.symm.trans hvalue)

@[simp] theorem document?_drop_self (store : Store) (decode : Decoder α) (now : Nat)
    (key : String) : (store.drop key).document? decode now key = none := by
  simp [document?]

/-- Drops an entry that holds no document. -/
def sift (store : Store) (decode : Decoder α) (now : Nat) (key : String) : Store :=
  if (store.document? decode now key).isSome then store else store.drop key

theorem sift_of_document? {store : Store} {decode : Decoder α} {key : String} {value : α}
    (h : store.document? decode now key = some value) : store.sift decode now key = store := by
  rw [sift, h]
  rfl

theorem sift_of_document?_eq_none {store : Store} {decode : Decoder α} {key : String}
    (h : store.document? decode now key = none) :
    store.sift decode now key = store.drop key := by
  rw [sift, h]
  rfl

/-- Other keys are not touched. -/
theorem live?_sift_of_ne {store : Store} {decode : Decoder α} {key other : String}
    (h : other ≠ key) : (store.sift decode now key).live? now other = store.live? now other := by
  rw [sift]
  split
  · rfl
  · rw [live?_drop, if_neg h]

/-! ## What remains -/

/-- Every live entry of the second store is one of the first. -/
def Remainder (store : Store) (now : Nat) (remaining : Store) (later : Nat) : Prop :=
  ∀ key entry, remaining.live? later key = some entry → store.live? now key = some entry

namespace Remainder

theorem refl (store : Store) (now : Nat) : store.Remainder now store now :=
  fun _ _ hlive => hlive

theorem drop (store : Store) (now : Nat) (key : String) :
    store.Remainder now (store.drop key) now := by
  intro other entry hlive
  rw [live?_drop] at hlive
  split at hlive
  · cases hlive
  · exact hlive

theorem without (store : Store) (now : Nat) (tokens : List Glob.Token) :
    store.Remainder now (store.without tokens) now := by
  intro key entry hlive
  rw [live?_without] at hlive
  split at hlive
  · cases hlive
  · exact hlive

theorem sift (store : Store) (decode : Decoder α) (now : Nat) (key : String) :
    store.Remainder now (store.sift decode now key) now := by
  rw [Store.sift]
  split
  · exact refl store now
  · exact drop store now key

end Remainder

/-! ## Time -/

/-- No entry is past its deadline. -/
def Unexpired (store : Store) (now : Nat) : Prop :=
  ∀ key entry, store.entries.find? key = some entry → entry.isLive now

instance (store : Store) (now : Nat) : Decidable (store.Unexpired now) :=
  decidable_of_iff (∀ e ∈ store.entries.entries, e.2.isLive now) <| by
    constructor
    · intro h key entry hfind
      exact h (key, entry) (Keyed.find?_eq_some_iff.1 hfind)
    · rintro h ⟨key, entry⟩ hmem
      exact h key entry (Keyed.find?_eq_some_iff.2 hmem)

/-- What is live now is live later. -/
structure Lasts (store : Store) (now later : Nat) : Prop where
  le : now ≤ later
  live : ∀ key entry, store.live? now key = some entry → entry.isLive later

theorem Lasts.refl (store : Store) (now : Nat) : store.Lasts now now where
  le := Nat.le_refl now
  live := fun _ _ hlive => (Option.filter_eq_some_iff.1 hlive).2

/-- While no entry is past its deadline, what was live has lasted. -/
theorem Unexpired.lasts {store : Store} (h : store.Unexpired later) (hle : now ≤ later) :
    store.Lasts now later where
  le := hle
  live := fun key entry hlive => h key entry (Option.filter_eq_some_iff.1 hlive).1

theorem live?_of_unexpired {store : Store} (h : store.Unexpired now) (key : String) :
    store.live? now key = store.entries.find? key := by
  unfold live?
  cases hfind : store.entries.find? key with
  | none => rfl
  | some entry => rw [Option.filter_some, if_pos (h key entry hfind)]

theorem isLive_of_le {entry : Entry} (h : now ≤ later) (hlive : entry.isLive later) :
    entry.isLive now := by
  rw [Entry.isLive, decide_eq_true_iff] at *
  omega

/-- The deadline of a live entry is still to come. -/
theorem lt_deadline_of_live? {store : Store} {key : String} {entry : Entry}
    (h : store.live? now key = some entry) : now < entry.deadline :=
  of_decide_eq_true (Option.filter_eq_some_iff.1 h).2

/-- A live entry is found until its deadline. -/
theorem live?_of_lt_deadline {store : Store} {key : String} {entry : Entry}
    (h : store.live? now key = some entry) (hlater : later < entry.deadline) :
    store.live? later key = some entry :=
  Option.filter_eq_some_iff.2 ⟨(Option.filter_eq_some_iff.1 h).1, decide_eq_true hlater⟩

/-- As time passes entries only die. -/
theorem Remainder.of_le (store : Store) (h : now ≤ later) : store.Remainder now store later := by
  intro key entry hlive
  rw [live?, Option.filter_eq_some_iff] at hlive ⊢
  exact ⟨hlive.1, isLive_of_le h hlive.2⟩

theorem Lasts.live?_eq {store : Store} (h : store.Lasts now later) (key : String) :
    store.live? later key = store.live? now key := by
  have hlive := h.live key
  unfold live? at hlive ⊢
  cases hfind : store.entries.find? key with
  | none => rfl
  | some entry =>
    rw [hfind] at hlive
    -- an entry that is dead now was not promised to last, but it stays dead
    by_cases hnow : entry.isLive now = true
    · have hlater := hlive entry (by rw [Option.filter_some, if_pos hnow])
      rw [Option.filter_some, Option.filter_some, if_pos hnow, if_pos hlater]
    · have hlater : ¬ entry.isLive later = true := fun hl => hnow (isLive_of_le h.le hl)
      rw [Option.filter_some, Option.filter_some, if_neg hnow, if_neg hlater]

/-- While nothing expires the same documents are stored. -/
theorem Lasts.document?_eq {store : Store} (h : store.Lasts now later) (decode : Decoder α)
    (key : String) : store.document? decode later key = store.document? decode now key :=
  document?_congr (h.live?_eq key) decode

end ProjectCache.Store
