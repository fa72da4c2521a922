import Mathlib.Tactic.Common
import SheetCompiler.Encoding

/-!
# Characters of tables

The tables of the encodings hold no ASCII character.
-/

set_option autoImplicit false

namespace SheetCompiler.Encoding

/-- No number stands for an ASCII character. -/
def Index.IsForeign (index : Index) : Prop := ∀ n c, index.get? n = some c → 0x80 ≤ c.toNat

/-- A character of a table, a gap or layout. -/
def isEntry (c : Char) : Bool := Nat.ble 0x80 c.toNat || c == '.' || c == '\n' || c == ' '

def holdsEntries (text : String) : Bool := text.toList.all isEntry

/-- A table is checked on its characters, however the text that holds them is stored. -/
theorem holdsEntries_ofList (cs : List Char) : holdsEntries (String.ofList cs) = cs.all isEntry := by
  rw [holdsEntries, String.toList_ofList]

theorem Index.isForeign_ofRuns {runs : List (Nat × String)}
    (checked : ∀ run ∈ runs, holdsEntries run.2 = true) : (ofRuns runs).IsForeign := by
  have foreign : ∀ c ∈ (ofRuns runs).chars, c ≠ '.' → 0x80 ≤ c.toNat := by
    refine List.foldlRecOn runs _ (motive := fun chars : Array Char =>
      ∀ c ∈ chars, c ≠ '.' → 0x80 ≤ c.toNat) (by simp) ?_
    intro chars foreign run member c inside gap
    simp only [Array.mem_append, Array.mem_replicate, List.mem_toArray, charsOfLines,
      List.mem_filter, Bool.and_eq_true, bne_iff_ne] at inside
    obtain ((old | ⟨-, rfl⟩) | ⟨listed, line, blank⟩) := inside
    · exact foreign c old gap
    · contradiction
    · have entry := List.all_eq_true.mp (checked run member) c listed
      simpa [isEntry, gap, line, blank] using entry
  intro n c found
  simp only [get?, Option.filter_eq_some_iff, bne_iff_ne] at found
  exact foreign c (Array.mem_of_getElem? found.1) found.2

namespace Table

set_option maxRecDepth 100000 in
theorem isForeign_gb18030 : gb18030.IsForeign := by
  apply Index.isForeign_ofRuns
  rw [List.forall_mem_singleton, holdsEntries_ofList]
  decide +kernel

set_option maxRecDepth 100000 in
theorem isForeign_big5 : big5.IsForeign := by
  apply Index.isForeign_ofRuns
  simp only [List.forall_mem_cons, List.not_mem_nil, false_imp_iff, forall_const, and_true]
  and_intros <;> (rw [holdsEntries_ofList]; decide +kernel)

set_option maxRecDepth 100000 in
theorem isForeign_jis0208 : jis0208.IsForeign := by
  apply Index.isForeign_ofRuns
  simp only [List.forall_mem_cons, List.not_mem_nil, false_imp_iff, forall_const, and_true]
  and_intros <;> (rw [holdsEntries_ofList]; decide +kernel)

set_option maxRecDepth 100000 in
theorem isForeign_jis0212 : jis0212.IsForeign := by
  apply Index.isForeign_ofRuns
  simp only [List.forall_mem_cons, List.not_mem_nil, false_imp_iff, forall_const, and_true]
  and_intros <;> (rw [holdsEntries_ofList]; decide +kernel)

set_option maxRecDepth 100000 in
theorem isForeign_ksc5601 : ksc5601.IsForeign := by
  apply Index.isForeign_ofRuns
  simp only [List.forall_mem_cons, List.not_mem_nil, false_imp_iff, forall_const, and_true]
  and_intros <;> (rw [holdsEntries_ofList]; decide +kernel)

/-- The tables of the code pages. -/
def pages : List String :=
  [ibm866, iso8859_2, iso8859_3, iso8859_4, iso8859_5, iso8859_6, iso8859_7, iso8859_8, iso8859_10,
    iso8859_13, iso8859_14, iso8859_15, iso8859_16, koi8R, koi8U, macRoman, windows874,
    windows1250, windows1251, windows1252, windows1253, windows1254, windows1255, windows1256,
    windows1257, windows1258, macCyrillic]

theorem holdsEntries_of_mem_pages : ∀ text ∈ pages, holdsEntries text = true := by
  simp only [pages, ibm866, iso8859_2, iso8859_3, iso8859_4, iso8859_5, iso8859_6, iso8859_7,
    iso8859_8, iso8859_10, iso8859_13, iso8859_14, iso8859_15, iso8859_16, koi8R, koi8U, macRoman,
    windows874, windows1250, windows1251, windows1252, windows1253, windows1254, windows1255,
    windows1256, windows1257, windows1258, macCyrillic, List.forall_mem_cons, List.not_mem_nil,
    false_imp_iff, forall_const, and_true]
  and_intros <;> (rw [holdsEntries_ofList]; decide +kernel)

/-- A code page, whatever byte it begins at. -/
theorem isForeign_page (gap : Nat) {text : String} (listed : text ∈ pages) :
    (Index.ofRuns [(gap, text)]).IsForeign := by
  apply Index.isForeign_ofRuns
  rw [List.forall_mem_singleton]
  exact holdsEntries_of_mem_pages text listed

theorem le_of_mem_gb18030Ranges : ∀ range ∈ gb18030Ranges, 0x80 ≤ range.2 := by
  decide +kernel

end Table

end SheetCompiler.Encoding
