/-
# ProjectCache.Proofs.Store.Expiry — nobody sees a dead entry.

An entry past its deadline stays in a store until an operation happens to drop it. A prompt store
(`PromptStore`) is what callers may imagine instead: there an entry is gone from the instant on at
which the clock reaches its deadline, and no operation looks at deadlines any more. Whatever is asked
of a store, in whatever order, it answers like the prompt store of its live entries
(`Store.serveAll_empty`).
-/
import ProjectCache.Proofs.Store

namespace ProjectCache

/-! ## Calls and answers -/

/-- What a store can be asked. -/
inductive Store.Call where
  | set (key : String) (value : Json) (ttl : Span)
  | get (key : String)
  | delete (key : String)
  | deletePattern (pattern : String)
  | ttl (key : String)
  | keys
  | size
  | isEmpty

/-- What it answers. -/
inductive Store.Answer where
  | done
  | found (value : Option Json)
  | flag (b : Bool)
  | count (n : Nat)
  | left (span : Option Span)
  | listed (keys : List String)
  | failed (error : Error)
  deriving DecidableEq

/-- Answers a call at a reading of the clock. After a failure the store is the one before. -/
def Store.serve (store : Store) (now : Nat) : Call → Answer × Store
  | .set key value ttl =>
    match store.set now key value ttl with
    | .ok reached => (.done, reached)
    | .error cause => (.failed (.configuration cause), store)
  | .get key => ((.found (store.get now key).1), (store.get now key).2)
  | .delete key => ((.flag (store.delete now key).1), (store.delete now key).2)
  | .deletePattern pattern =>
    match store.deletePattern now pattern with
    | .ok (n, reached) => (.count n, reached)
    | .error cause => (.failed (.configuration cause), store)
  | .ttl key => (.left (store.ttl now key), store)
  | .keys => (.listed (store.keys now), store)
  | .size => (.count (store.size now), store)
  | .isEmpty => (.flag (store.isEmpty now), store)

/-- The answers to a sequence of calls, each with its reading of the clock. -/
def Store.serveAll (store : Store) : List (Nat × Call) → List Answer
  | [] => []
  | (now, call) :: calls => (store.serve now call).1 :: (store.serve now call).2.serveAll calls

/-! ## Prompt stores -/

/-- A store in which entries end by themselves. -/
structure PromptStore where
  /-- The reading of the clock. -/
  now : Nat
  /-- The entries. -/
  entries : Keyed Entry
  /-- The deadline of each is still to come. -/
  ahead : ∀ key entry, entries.find? key = some entry → now < entry.deadline

namespace PromptStore

open Store (Call Answer)

/-- The entries that are left at a reading of the clock. -/
def of (now : Nat) (entries : Keyed Entry) : PromptStore where
  now := now
  entries := entries.filter fun _ entry => now < entry.deadline
  ahead key entry h := by
    rw [Keyed.find?_filter, Option.filter_eq_some_iff, decide_eq_true_iff] at h
    exact h.2

/-- The prompt store without entries. -/
def empty : PromptStore := ⟨0, ∅, nofun⟩

/-- The clock moves on, and entries whose deadline it reaches are gone. -/
def advance (store : PromptStore) (later : Nat) : PromptStore := of later store.entries

/-- Changes the entries. One that ends at once is gone at once. -/
def change (store : PromptStore) (f : Keyed Entry → Keyed Entry) : PromptStore :=
  of store.now (f store.entries)

/-- Answers a call. -/
def serve (store : PromptStore) : Call → Answer × PromptStore
  | .set key value ttl =>
    if store.now + ttl.nanos < Store.clockEnd then
      (.done, store.change (·.insert key ⟨value, store.now + ttl.nanos⟩))
    else (.failed (.configuration (.ttlOutOfRange ttl key)), store)
  | .get key => (.found ((store.entries.find? key).map Entry.value), store)
  | .delete key => (.flag (store.entries.find? key).isSome, store.change (·.erase key))
  | .deletePattern pattern =>
    match Store.readPattern pattern with
    | .ok tokens =>
      (.count (store.entries.filter fun key _ => Glob.acceptsText tokens key).size,
        store.change (·.filter fun key _ => ! Glob.acceptsText tokens key))
    | .error cause => (.failed (.configuration cause), store)
  | .ttl key => (.left ((store.entries.find? key).map fun e => ⟨e.deadline - store.now⟩), store)
  | .keys => (.listed store.entries.keys, store)
  | .size => (.count store.entries.size, store)
  | .isEmpty => (.flag (store.entries.size == 0), store)

/-- The answers to a sequence of calls, each with its reading of the clock. -/
def serveAll (store : PromptStore) : List (Nat × Call) → List Answer
  | [] => []
  | (now, call) :: calls =>
    ((store.advance now).serve call).1 :: ((store.advance now).serve call).2.serveAll calls

/-- Prompt stores with the same reading and the same entries are the same. -/
theorem ext_find? {a b : PromptStore} (hnow : a.now = b.now)
    (h : ∀ key, a.entries.find? key = b.entries.find? key) : a = b := by
  obtain ⟨now, entries, _⟩ := a
  obtain ⟨now', entries', _⟩ := b
  obtain rfl : now = now' := hnow
  obtain rfl : entries = entries' := Keyed.ext_find? h
  rfl

end PromptStore

/-! ## One answer -/

namespace Store

variable {store reached : Store} {now later : Nat}

/-- The prompt store of the live entries. -/
def prompt (store : Store) (now : Nat) : PromptStore := .of now store.entries

@[simp] theorem now_prompt (store : Store) (now : Nat) : (store.prompt now).now = now := rfl

@[simp] theorem entries_prompt (store : Store) (now : Nat) :
    (store.prompt now).entries = store.liveEntries now := rfl

theorem prompt_empty : empty.prompt 0 = PromptStore.empty := rfl

/-- Dead entries do not show. -/
theorem prompt_congr (h : ∀ key, store.live? now key = reached.live? now key) :
    store.prompt now = reached.prompt now := by
  refine PromptStore.ext_find? ?_ fun key => ?_
  · rfl
  · rw [entries_prompt, entries_prompt, find?_liveEntries, find?_liveEntries, h]

/-- When the clock moves on, the live entries are those of before that are live then. -/
theorem advance_prompt (store : Store) (h : now ≤ later) :
    (store.prompt now).advance later = store.prompt later := by
  refine PromptStore.ext_find? ?_ fun key => ?_
  · rfl
  · show ((store.liveEntries now).filter fun _ entry => entry.isLive later).find? key
      = (store.liveEntries later).find? key
    rw [Keyed.find?_filter, find?_liveEntries, find?_liveEntries, live?, live?,
      Option.filter_filter]
    congr 1
    funext entry
    rw [Bool.and_eq_right_iff_imp]
    exact isLive_of_le h

/-- A change of the entries that are left makes the live entries of the changed store, when both
hold the same under each key that is live. -/
theorem change_prompt {f : Keyed Entry → Keyed Entry}
    (h : ∀ key, ((f (store.liveEntries now)).find? key).filter (·.isLive now)
      = reached.live? now key) :
    (store.prompt now).change f = reached.prompt now := by
  refine PromptStore.ext_find? ?_ fun key => ?_
  · rfl
  · rw [entries_prompt, find?_liveEntries, ← h]
    exact Keyed.find?_filter _ _ key

/-- A live entry is live. -/
theorem filter_live? (store : Store) (now : Nat) (key : String) :
    (store.live? now key).filter (·.isLive now) = store.live? now key := by
  rw [live?, Option.filter_filter]
  simp only [Bool.and_self]

/-- A store answers a call like the prompt store of its live entries, and what it leaves is live
exactly if the prompt store keeps it. -/
theorem serve_prompt (store : Store) (now : Nat) (call : Call) :
    (store.prompt now).serve call
      = ((store.serve now call).1, (store.serve now call).2.prompt now) := by
  cases call with
  | set key value ttl =>
    rw [serve, PromptStore.serve, set_eq, now_prompt]
    by_cases hrange : now + ttl.nanos < clockEnd
    · rw [if_pos hrange, if_pos hrange]
      refine congrArg (Prod.mk _) (change_prompt fun other => ?_)
      rw [Keyed.find?_insert, find?_liveEntries, live?_put]
      split
      · rfl
      · exact filter_live? store now other
    · rw [if_neg hrange, if_neg hrange]
  | get key =>
    rw [serve, PromptStore.serve, entries_prompt, find?_liveEntries, get_fst, get_snd]
    refine congrArg (Prod.mk _) (prompt_congr fun other => ?_)
    -- the entry that a read drops was dead already
    cases hlive : store.live? now key with
    | some entry => rfl
    | none =>
      rw [Option.isSome_none, if_neg Bool.false_ne_true, live?_drop]
      split
      · rename_i heq
        rw [heq, hlive]
      · rfl
  | delete key =>
    rw [serve, PromptStore.serve, entries_prompt, find?_liveEntries]
    refine congrArg (Prod.mk _) (change_prompt fun other => ?_)
    show _ = (store.drop key).live? now other
    rw [Keyed.find?_erase, find?_liveEntries, live?_drop]
    split
    · rfl
    · exact filter_live? store now other
  | deletePattern pattern =>
    rw [serve, PromptStore.serve, deletePattern_eq]
    cases readPattern pattern with
    | error cause => rfl
    | ok tokens =>
      refine congrArg (Prod.mk _) (change_prompt fun key => ?_)
      show _ = (store.without tokens).live? now key
      rw [Keyed.find?_filter, find?_liveEntries, live?_without]
      cases hlive : store.live? now key with
      | none => simp
      | some entry =>
        have hself := filter_live? store now key
        rw [hlive] at hself
        cases Glob.acceptsText tokens key <;> simp [hself]
  | ttl key =>
    rw [serve, PromptStore.serve, entries_prompt, find?_liveEntries]
    rfl
  | keys => rfl
  | size =>
    rw [serve, PromptStore.serve, entries_prompt, size, keys, Keyed.keys, List.length_map]
    rfl
  | isEmpty =>
    rw [serve, PromptStore.serve, entries_prompt, isEmpty, size, keys, Keyed.keys, List.length_map]
    rfl

/-! ## All answers -/

theorem serveAll_prompt (store : Store) {calls : List (Nat × Call)}
    (hclock : calls.Pairwise fun a b => a.1 ≤ b.1) (hstart : ∀ call ∈ calls, now ≤ call.1) :
    (store.prompt now).serveAll calls = store.serveAll calls := by
  -- by induction on the calls; the prompt store is that of the live entries at every reading
  induction calls generalizing store now with
  | nil => rfl
  | cons first calls ih =>
    obtain ⟨later, call⟩ := first
    rw [PromptStore.serveAll, Store.serveAll,
      advance_prompt store (hstart _ List.mem_cons_self), serve_prompt]
    refine congrArg (List.cons _) (ih _ hclock.of_cons ?_)
    exact fun next hnext => List.rel_of_pairwise_cons hclock hnext

/-- As long as the clock does not go back, a store answers every sequence of calls like the prompt
store. A document whose deadline the clock cannot reach, and a pattern that cannot be read, are
refused and leave the store as it is. -/
theorem serveAll_empty {calls : List (Nat × Call)} (hclock : calls.Pairwise fun a b => a.1 ≤ b.1) :
    empty.serveAll calls = PromptStore.empty.serveAll calls ∧
    ∀ (store : Store) (now : Nat),
      (∀ key value ttl, ¬ now + ttl.nanos < clockEnd →
        store.serve now (.set key value ttl)
          = (.failed (.configuration (.ttlOutOfRange ttl key)), store)) ∧
      ∀ pattern cause, readPattern pattern = .error cause →
        store.serve now (.deletePattern pattern) = (.failed (.configuration cause), store) := by
  refine ⟨?_, fun store now => ⟨fun key value ttl hrange => ?_, fun pattern cause hpattern => ?_⟩⟩
  · rw [← prompt_empty]
    exact (serveAll_prompt empty hclock fun _ _ => Nat.zero_le _).symm
  · rw [serve, set_eq, if_neg hrange]
  · rw [serve, deletePattern_eq, hpattern]
    rfl

/-- Two entries that end at the reading 5, and what is asked about them around it. -/
def callsAtDeadline : List (Nat × Call) :=
  [(0, .set "k" .null ⟨5⟩), (0, .set "l" .null ⟨5⟩), (4, .get "k"), (5, .keys), (5, .get "k"),
    (5, .delete "l"), (5, .deletePattern "*")]

theorem serveAll_empty_of_deadline :
    callsAtDeadline.Pairwise (fun a b => a.1 ≤ b.1) ∧
    empty.serveAll callsAtDeadline = PromptStore.empty.serveAll callsAtDeadline ∧
    PromptStore.empty.serveAll callsAtDeadline
      = [.done, .done, .found (some .null), .listed [], .found none, .flag false, .count 0] := by
  have hclock : callsAtDeadline.Pairwise fun a b => a.1 ≤ b.1 := by decide
  exact ⟨hclock, (serveAll_empty hclock).1, by decide⟩

end Store

end ProjectCache
