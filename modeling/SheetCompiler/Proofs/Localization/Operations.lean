import SheetCompiler.Proofs.Localization.Table
import SheetCompiler.Proofs.NameSet

/-!
# Runs of operations on localization tables

However a table is built up from the empty one, its entries have keys of their own, all these
keys are taken, and later operations only add entries behind the present ones. The search for a
free key goes from suffix to suffix. It passes no more keys than are taken, since suffixes make
different keys, and so it ends at the least suffix that is free.
-/

set_option autoImplicit false

namespace SheetCompiler

/-- An entry that holds the text of another one, under whatever key. -/
structure LocalizationEntry.IsCopyOf (copy entry : LocalizationEntry) : Prop where
  text : copy.text = entry.text
  table : copy.table = entry.table
  field : copy.field = entry.field

namespace LocalizationTable

variable {table : LocalizationTable} {base key : String}

/-! ## The search for a free key -/

/-- The search for a free key goes on from a suffix as long as the keys are taken. It passes
some keys and ends at the next one. -/
inductive Searches (table : LocalizationTable) (base : String) :
    (start passed : Nat) → (key : String) → Prop where
  | free {start : Nat} :
      table.contains (suffixed base start) = false →
      Searches table base start 0 (suffixed base start)
  | taken {start passed : Nat} {key : String} :
      table.contains (suffixed base start) = true →
      Searches table base (start + 1) passed key →
      Searches table base start (passed + 1) key

theorem searches_of_least {start passed : Nat}
    (free : table.contains (suffixed base (start + passed)) = false)
    (taken : ∀ n < passed, table.contains (suffixed base (start + n)) = true) :
    Searches table base start passed (suffixed base (start + passed)) := by
  induction passed generalizing start with
  | zero => exact .free free
  | succ passed ih =>
      have next (n : Nat) : start + (n + 1) = start + 1 + n := by omega
      rw [next] at free ⊢
      refine .taken (taken 0 passed.succ_pos) (ih free fun n below => ?_)
      rw [← next]
      exact taken (n + 1) (Nat.succ_lt_succ below)

/-- The key that is issued has the least suffix that is free, and one of the suffixes up to the
number of taken keys is. -/
theorem exists_least_suffix (table : LocalizationTable) (base : String) :
    ∃ n ≤ table.keys.size, table.freeKey base = suffixed base n ∧
      table.contains (suffixed base n) = false ∧
      ∀ m < n, table.contains (suffixed base m) = true := by
  obtain ⟨last, within, free⟩ := exists_free_suffix table base
  cases found : (List.range (table.keys.size + 1)).find? fun n =>
      !table.contains (suffixed base n) with
  | none =>
      have taken := List.find?_eq_none.mp found last within
      simp [free] at taken
  | some n =>
      have issued : table.freeKey base = suffixed base n := by
        unfold freeKey
        dsimp only
        rw [found]
        rfl
      obtain ⟨unused, inside, below⟩ := List.find?_range_eq_some.mp found
      rw [List.mem_range] at inside
      refine ⟨n, Nat.le_of_lt_succ inside, issued, by simpa using unused, fun m less => ?_⟩
      simpa using below m less

/-- What an insertion does to a table. -/
structure Inserts (table : LocalizationTable) (base text source field : String)
    (later : LocalizationTable) (key : String) : Prop where
  /-- The search for the key ends. -/
  search : ∃ passed ≤ table.keys.size, Searches table base 0 passed key
  /-- A base that is free is the key. -/
  kept : table.contains base = false → key = base
  /-- A base that is taken gets the least number that makes a free key. -/
  numbered : table.contains base = true →
    ∃ n, 1 ≤ n ∧ key = s!"{base}_{n}" ∧ table.contains key = false ∧
      ∀ m, 1 ≤ m → m < n → table.contains s!"{base}_{m}" = true
  entries : later.entries = table.entries ++ [⟨key, text, source, field⟩]
  get? : later.get? key = some text

theorem suffixed_of_pos {n : Nat} (positive : 1 ≤ n) : suffixed base n = s!"{base}_{n}" := by
  obtain ⟨n, rfl⟩ := Nat.exists_eq_add_of_le' positive
  rfl

theorem IsSound.inserts (sound : table.IsSound) (base text source field : String) :
    Inserts table base text source field (table.insert base text source field).1
      (table.insert base text source field).2 := by
  have issues := issues_insert table base text source field
  obtain ⟨n, bound, issued, free, below⟩ := exists_least_suffix table base
  have key : (table.insert base text source field).2 = suffixed base n := issued
  refine ⟨⟨n, bound, ?_⟩, fun unused => freeKey_eq_self unused, fun used => ?_, issues.entries, ?_⟩
  · have searches : Searches table base 0 n (suffixed base (0 + n)) :=
      searches_of_least (by rwa [Nat.zero_add]) fun m less => by
        rw [Nat.zero_add]
        exact below m less
    rwa [Nat.zero_add, ← key] at searches
  · have positive : 1 ≤ n := by
      refine Nat.one_le_iff_ne_zero.mpr fun zero => ?_
      rw [zero, suffixed, used] at free
      cases free
    refine ⟨n, positive, key.trans (suffixed_of_pos positive), key ▸ free, fun m one less => ?_⟩
    rw [← suffixed_of_pos one]
    exact below m less
  · have member : ⟨(table.insert base text source field).2, text, source, field⟩ ∈
        (table.insert base text source field).1.entries := by
      rw [issues.entries]
      exact List.mem_append_right _ List.mem_cons_self
    exact (sound.issues issues).get?_key member

/-! ## Operations -/

inductive Operation where
  | insert (base text source field : String)
  | reserve (keys : List String)
  | extend (other : LocalizationTable)

def perform (table : LocalizationTable) : Operation → LocalizationTable
  | .insert base text source field => (table.insert base text source field).1
  | .reserve keys => table.reserve keys
  | .extend other => table.extend other

/-- The table that a sequence of operations makes of the empty one. -/
def run (operations : List Operation) : LocalizationTable := operations.foldl perform empty

theorem Reachable.perform (reachable : table.Reachable) (operation : Operation) :
    (table.perform operation).Reachable := by
  cases operation with
  | insert base text source field => exact reachable.insert base text source field
  | reserve keys => exact reachable.reserve keys
  | extend other => exact reachable.extend other

theorem Reachable.foldl_perform (reachable : table.Reachable) (operations : List Operation) :
    (operations.foldl LocalizationTable.perform table).Reachable := by
  induction operations generalizing table with
  | nil => exact reachable
  | cons operation operations ih => exact ih (reachable.perform operation)

theorem sorted_keys_foldl_insert (entries : List LocalizationEntry)
    (sorted : table.keys.toList.Pairwise (· < ·)) :
    (entries.foldl (fun table entry =>
      (table.insert entry.key entry.text entry.table entry.field).1) table).keys.toList.Pairwise
        (· < ·) := by
  induction entries generalizing table with
  | nil => exact sorted
  | cons entry entries ih => exact ih (NameSet.sorted_insertSorted _ sorted)

/-- Taken keys are kept in order, and so each of them counts once. -/
theorem Reachable.nodup_keys (reachable : table.Reachable) : table.keys.toList.Nodup := by
  have sorted : table.keys.toList.Pairwise (· < ·) := by
    induction reachable with
    | empty => exact .nil
    | insert base text source field _ ih => exact NameSet.sorted_insertSorted _ ih
    | reserve keys _ ih => exact NameSet.sorted_insertAll keys ih
    | extend other _ ih => exact sorted_keys_foldl_insert other.entries ih
  exact sorted.imp ne_of_lt

/-- Merging copies the entries of the other table one by one. -/
theorem exists_copies_extend (table other : LocalizationTable) :
    ∃ added, (table.extend other).entries = table.entries ++ added ∧
      List.Forall₂ LocalizationEntry.IsCopyOf added other.entries := by
  unfold extend
  induction other.entries generalizing table with
  | nil => exact ⟨[], (List.append_nil _).symm, .nil⟩
  | cons entry entries ih =>
      obtain ⟨added, rest, copies⟩ :=
        ih (table.insert entry.key entry.text entry.table entry.field).1
      refine ⟨⟨table.freeKey entry.key, entry.text, entry.table, entry.field⟩ :: added, ?_,
        .cons ⟨rfl, rfl, rfl⟩ copies⟩
      rw [List.foldl_cons, rest, (issues_insert ..).entries, List.append_assoc,
        List.singleton_append]

theorem prefix_perform (table : LocalizationTable) (operation : Operation) :
    table.entries <+: (table.perform operation).entries := by
  cases operation with
  | insert base text source field =>
      exact ⟨_, (issues_insert table base text source field).entries.symm⟩
  | reserve keys => exact List.prefix_refl _
  | extend other =>
      obtain ⟨added, entries, -⟩ := exists_copies_extend table other
      exact ⟨added, entries.symm⟩

theorem prefix_foldl_perform (table : LocalizationTable) (operations : List Operation) :
    table.entries <+: (operations.foldl perform table).entries := by
  induction operations generalizing table with
  | nil => exact List.prefix_refl _
  | cons operation operations ih =>
      exact (prefix_perform table operation).trans (ih (table.perform operation))

/-- A table after any operations: its entries have keys of their own, which are taken; whatever
comes later stands behind them; an insertion finds its key in a search that ends, and the key
leads back to the text; merging adds a copy of each entry of the other table, in their order. -/
theorem invariant_run (operations : List Operation) :
    let table := run operations
    table.IsSound ∧ table.keys.toList.Nodup ∧
      (∀ later, table.entries <+: (run (operations ++ later)).entries) ∧
      (∀ base text source field,
        Inserts table base text source field (table.insert base text source field).1
          (table.insert base text source field).2) ∧
      ∀ other, ∃ added, (table.extend other).entries = table.entries ++ added ∧
        List.Forall₂ LocalizationEntry.IsCopyOf added other.entries := by
  have reachable : (run operations).Reachable := Reachable.empty.foldl_perform operations
  refine ⟨reachable.isSound, reachable.nodup_keys, fun later => ?_, reachable.isSound.inserts,
    exists_copies_extend _⟩
  rw [run, run, List.foldl_append]
  exact prefix_foldl_perform _ later

end LocalizationTable

end SheetCompiler
