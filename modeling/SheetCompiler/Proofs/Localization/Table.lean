import Mathlib.Data.List.Nodup
import Mathlib.Data.List.Perm.Subperm
import SheetCompiler.Localization.Table

/-!
# Keys of localization tables

A table never issues a key that is taken, so its entries have distinct keys and each key
leads back to its text. Merging tables whose keys differ changes no key.
-/

set_option autoImplicit false

namespace SheetCompiler

namespace LocalizationTable

variable {table former middle later other : LocalizationTable}
  {added more : List LocalizationEntry} {keys : List String} {key base : String}

theorem contains_iff : table.contains key = true ↔ key ∈ table.keys.toList := by
  simp [contains, NameSet.contains]

theorem contains_reserve :
    (table.reserve keys).contains key = true ↔ table.contains key = true ∨ key ∈ keys := by
  rw [contains_iff, contains_iff, reserve, NameSet.mem_insertAll, or_comm]

/-! ## Free keys -/

theorem toList_suffixed_succ (base : String) (n : Nat) :
    (suffixed base (n + 1)).toList = base.toList ++ '_' :: Nat.toDigits 10 (n + 1) := by
  simp [suffixed, toString, String.toList_append, Nat.repr_eq_ofList_toDigits]

theorem suffixed_succ_ne (base : String) (n : Nat) : suffixed base (n + 1) ≠ base := by
  intro same
  have texts := congrArg String.toList same
  rw [toList_suffixed_succ] at texts
  simp at texts

theorem suffixed_injective (base : String) : Function.Injective (suffixed base) := by
  intro first second same
  cases first with
  | zero =>
      cases second with
      | zero => rfl
      | succ m => exact absurd same.symm (suffixed_succ_ne base m)
  | succ n =>
      cases second with
      | zero => exact absurd same (suffixed_succ_ne base n)
      | succ m =>
          have texts := congrArg String.toList same
          rw [toList_suffixed_succ, toList_suffixed_succ, List.append_cancel_left_eq] at texts
          have numbers := congrArg (Nat.ofDigitChars 10 · 0) (List.cons.inj texts).2
          simpa [Nat.ofDigitChars_toDigits] using numbers

/-- One of the first suffixes is free, since there are more of them than taken keys. -/
theorem exists_free_suffix (table : LocalizationTable) (base : String) :
    ∃ n ∈ List.range (table.keys.size + 1), table.contains (suffixed base n) = false := by
  by_contra none
  have taken : (List.range (table.keys.size + 1)).map (suffixed base) ⊆ table.keys.toList := by
    intro key listed
    obtain ⟨n, within, rfl⟩ := List.mem_map.mp listed
    cases taken : table.contains (suffixed base n) with
    | true => exact contains_iff.mp taken
    | false => exact absurd ⟨n, within, taken⟩ none
  have distinct : ((List.range (table.keys.size + 1)).map (suffixed base)).Nodup :=
    List.nodup_range.map (suffixed_injective base)
  have bound := (List.subperm_of_subset distinct taken).length_le
  rw [List.length_map, List.length_range, NameSet.size] at bound
  omega

theorem contains_freeKey (table : LocalizationTable) (base : String) :
    table.contains (table.freeKey base) = false := by
  obtain ⟨n, within, free⟩ := exists_free_suffix table base
  unfold freeKey
  dsimp only
  cases found : (List.range (table.keys.size + 1)).find? fun n =>
      !table.contains (suffixed base n) with
  | none =>
      have taken := List.find?_eq_none.mp found n within
      simp [free] at taken
  | some m => simpa using List.find?_some found

/-- A key that is free is issued as it is. -/
theorem freeKey_eq_self (free : table.contains base = false) : table.freeKey base = base := by
  have first : (List.range (table.keys.size + 1)).find?
      (fun n => !table.contains (suffixed base n)) = some 0 := by
    rw [List.range_succ_eq_map, List.find?_cons_of_pos]
    simpa [suffixed] using free
  unfold freeKey
  dsimp only
  rw [first]
  rfl

/-! ## Issued entries -/

/-- The later table has further entries under keys that were free and differ. -/
structure Issues (former : LocalizationTable) (added : List LocalizationEntry)
    (later : LocalizationTable) : Prop where
  entries : later.entries = former.entries ++ added
  taken : ∀ key, later.contains key = true ↔
    former.contains key = true ∨ key ∈ added.map (·.key)
  fresh : ∀ entry ∈ added, former.contains entry.key = false
  distinct : (added.map (·.key)).Nodup

namespace Issues

theorem refl (table : LocalizationTable) : Issues table [] table where
  entries := (List.append_nil _).symm
  taken key := by simp
  fresh := nofun
  distinct := List.nodup_nil

theorem trans (first : Issues former added middle) (second : Issues middle more later) :
    Issues former (added ++ more) later where
  entries := by rw [second.entries, first.entries, List.append_assoc]
  taken key := by rw [second.taken, first.taken, List.map_append, List.mem_append, or_assoc]
  fresh entry member := by
    rcases List.mem_append.mp member with early | late
    · exact first.fresh entry early
    · have free := second.fresh entry late
      rw [Bool.eq_false_iff, ne_eq, first.taken] at free
      exact Bool.eq_false_iff.mpr fun taken => free (.inl taken)
  distinct := by
    rw [List.map_append, List.nodup_append]
    refine ⟨first.distinct, second.distinct, ?_⟩
    rintro _ early _ late rfl
    obtain ⟨entry, member, rfl⟩ := List.mem_map.mp late
    have free := second.fresh entry member
    rw [Bool.eq_false_iff, ne_eq, first.taken] at free
    exact free (.inr early)

end Issues

theorem issues_insert (table : LocalizationTable) (base text source field : String) :
    Issues table [⟨table.freeKey base, text, source, field⟩]
      (table.insert base text source field).1 where
  entries := rfl
  taken key := by
    rw [contains_iff, contains_iff, insert, NameSet.mem_insert, List.map_singleton,
      List.mem_singleton, or_comm]
  fresh entry member := by
    rw [List.mem_singleton.mp member]
    exact contains_freeKey table base
  distinct := List.nodup_singleton _

/-- Entries under free keys that differ are added as they are. -/
theorem issues_foldl_insert (entries : List LocalizationEntry) (table : LocalizationTable)
    (fresh : ∀ entry ∈ entries, table.contains entry.key = false)
    (distinct : (entries.map (·.key)).Nodup) :
    Issues table entries
      (entries.foldl (fun table entry =>
        (table.insert entry.key entry.text entry.table entry.field).1) table) := by
  induction entries generalizing table with
  | nil => exact .refl table
  | cons entry entries ih =>
      obtain ⟨unlike, distinct⟩ := List.nodup_cons.mp distinct
      have first := issues_insert table entry.key entry.text entry.table entry.field
      rw [freeKey_eq_self (fresh entry List.mem_cons_self)] at first
      refine first.trans (ih _ (fun other member => ?_) distinct)
      rw [Bool.eq_false_iff, ne_eq, first.taken, not_or]
      refine ⟨Bool.eq_false_iff.mp (fresh other (List.mem_cons_of_mem _ member)), ?_⟩
      intro same
      rw [List.map_singleton, List.mem_singleton] at same
      exact unlike (List.mem_map.mpr ⟨other, member, same⟩)

theorem exists_issues_foldl_insert (entries : List LocalizationEntry)
    (table : LocalizationTable) :
    ∃ added, Issues table added
      (entries.foldl (fun table entry =>
        (table.insert entry.key entry.text entry.table entry.field).1) table) := by
  induction entries generalizing table with
  | nil => exact ⟨[], .refl table⟩
  | cons entry entries ih =>
      obtain ⟨added, rest⟩ := ih (table.insert entry.key entry.text entry.table entry.field).1
      exact ⟨_, (issues_insert table entry.key entry.text entry.table entry.field).trans rest⟩

/-! ## Sound tables -/

/-- Every entry has a key of its own, and that key is taken. -/
structure IsSound (table : LocalizationTable) : Prop where
  taken : ∀ entry ∈ table.entries, table.contains entry.key = true
  distinct : (table.entries.map (·.key)).Nodup

theorem isSound_empty : empty.IsSound := ⟨nofun, List.nodup_nil⟩

theorem IsSound.reserve (sound : table.IsSound) (keys : List String) :
    (table.reserve keys).IsSound where
  taken entry member := contains_reserve.mpr (.inl (sound.taken entry member))
  distinct := sound.distinct

theorem IsSound.issues (sound : former.IsSound) (issues : Issues former added later) :
    later.IsSound where
  taken entry member := by
    rw [issues.entries, List.mem_append] at member
    rw [issues.taken]
    exact member.imp (sound.taken entry) (List.mem_map_of_mem (f := LocalizationEntry.key))
  distinct := by
    rw [issues.entries, List.map_append, List.nodup_append]
    refine ⟨sound.distinct, issues.distinct, ?_⟩
    rintro _ early _ late rfl
    obtain ⟨entry, member, rfl⟩ := List.mem_map.mp early
    obtain ⟨other, listed, same⟩ := List.mem_map.mp late
    have free := issues.fresh other listed
    rw [same, sound.taken entry member] at free
    cases free

/-- A key of an entry leads to its text. -/
theorem IsSound.get?_key (sound : table.IsSound) {entry : LocalizationEntry}
    (member : entry ∈ table.entries) : table.get? entry.key = some entry.text := by
  unfold get?
  cases found : table.entries.find? fun other => other.key == entry.key with
  | none =>
      have absent := List.find?_eq_none.mp found entry member
      simp at absent
  | some other =>
      have same : other.key = entry.key := by simpa using List.find?_some found
      have present := List.mem_of_find?_eq_some found
      obtain rfl := List.inj_on_of_nodup_map sound.distinct present member same
      rfl

/-- The tables that can be built up from the empty one. -/
inductive Reachable : LocalizationTable → Prop where
  | empty : Reachable empty
  | insert {table : LocalizationTable} (base text source field : String) :
      Reachable table → Reachable (table.insert base text source field).1
  | reserve {table : LocalizationTable} (keys : List String) :
      Reachable table → Reachable (table.reserve keys)
  | extend {table : LocalizationTable} (other : LocalizationTable) :
      Reachable table → Reachable (table.extend other)

theorem Reachable.isSound (reachable : table.Reachable) : table.IsSound := by
  induction reachable with
  | empty => exact isSound_empty
  | insert base text source field _ ih => exact ih.issues (issues_insert _ base text source field)
  | reserve keys _ ih => exact ih.reserve keys
  | extend other _ ih =>
      obtain ⟨added, issues⟩ := exists_issues_foldl_insert other.entries _
      exact ih.issues issues

end LocalizationTable

end SheetCompiler
