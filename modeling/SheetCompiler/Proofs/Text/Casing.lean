import SheetCompiler.Proofs.Text.Pieces
import SheetCompiler.Text.Casing

/-!
# Characters of identifiers

Cutting a text into words keeps letters and digits only, and none of them has a slash in
its lower case form. So an identifier in snake case is never more than one name in a path.
-/

set_option autoImplicit false

namespace SheetCompiler.Text

/-! ## Letters -/

/-- A table is read from its characters, however the text that holds them is stored. -/
theorem CodeShift.ofText_ofList (cs : List Char) :
    CodeShift.ofText (String.ofList cs) = (trimmedPieces isBlank cs).map CodeShift.ofChars := by
  rw [ofText, String.toList_ofList]

namespace Letter

variable {letter : Char}

theorem isUpper_iff : letter.isUpper = true ↔ 65 ≤ letter.toNat ∧ letter.toNat ≤ 90 :=
  decide_eq_true_iff.trans (and_congr UInt32.le_iff_toNat_le UInt32.le_iff_toNat_le)

theorem isLower_iff : letter.isLower = true ↔ 97 ≤ letter.toNat ∧ letter.toNat ≤ 122 := by
  refine Bool.and_eq_true_iff.trans (and_congr ?_ ?_) <;>
    exact decide_eq_true_iff.trans UInt32.le_iff_toNat_le

theorem isDigit_iff : letter.isDigit = true ↔ 48 ≤ letter.toNat ∧ letter.toNat ≤ 57 := by
  refine Bool.and_eq_true_iff.trans (and_congr ?_ ?_) <;>
    exact decide_eq_true_iff.trans UInt32.le_iff_toNat_le

theorem isAscii_of_isAlphanum (kept : letter.isAlphanum = true) :
    isAscii letter = true := by
  refine decide_eq_true (?_ : letter.toNat < 128)
  rcases Bool.or_eq_true_iff.mp kept with alpha | digit
  · rcases Bool.or_eq_true_iff.mp alpha with upper | lower
    · have bounds := isUpper_iff.mp upper
      omega
    · have bounds := isLower_iff.mp lower
      omega
  · have bounds := isDigit_iff.mp digit
    omega

theorem ofNat_ne_slash {code : Nat} (apart : code ≠ 47) : Char.ofNat code ≠ '/' := by
  intro same
  by_cases valid : code.isValidChar
  · rw [Char.ofNat, dif_pos valid] at same
    exact apart (congrArg Char.toNat same)
  · rw [Char.ofNat, dif_neg valid] at same
    cases same

theorem slash_not_mem_lowerSpecial : ∀ entry ∈ Table.lowerSpecial, 47 ∉ entry.2 := by
  decide +kernel

set_option maxRecDepth 20000 in
theorem slash_lt_lower :
    ∀ shift ∈ Table.lower, 47 < (shift.range.first : Int) + shift.displacement := by
  rw [Table.lower, CodeShift.ofText_ofList]
  decide +kernel

/-- Tables that do not list a slash map nothing but itself to it. -/
theorem slash_not_mem_mapped {special : List (Nat × List Nat)} {shifts : List CodeShift}
    (images : ∀ entry ∈ special, 47 ∉ entry.2)
    (above : ∀ shift ∈ shifts, 47 < (shift.range.first : Int) + shift.displacement)
    (apart : letter ≠ '/') : '/' ∉ mapped special shifts letter := by
  unfold mapped
  split
  · rename_i found
    intro listed
    obtain ⟨image, member, same⟩ := List.mem_map.mp listed
    have free := images _ (List.mem_of_find?_eq_some found)
    exact ofNat_ne_slash (fun slash => free (slash ▸ member)) same
  · split
    · rename_i image found
      obtain ⟨shift, holds, rfl⟩ := Option.map_eq_some_iff.mp found
      have beyond := above shift (List.mem_of_find?_eq_some holds)
      have inside := List.find?_some holds
      simp only [CodeRange.contains, Bool.and_eq_true, decide_eq_true_eq] at inside
      have code : ((letter.toNat : Int) + shift.displacement).toNat ≠ 47 := by omega
      simpa using (ofNat_ne_slash code).symm
    · simpa using apart.symm

theorem toLower_ne_slash (apart : letter ≠ '/') : letter.toLower ≠ '/' := by
  unfold Char.toLower
  split
  · rename_i upper
    intro same
    have first : 65 ≤ letter.val.toNat := UInt32.le_iff_toNat_le.mp upper.1
    have last : letter.val.toNat ≤ 90 := UInt32.le_iff_toNat_le.mp upper.2
    have code : (letter.val.toNat + 32) % 2 ^ 32 = 47 :=
      congrArg (fun image : Char => image.val.toNat) same
    omega
  · exact apart

theorem slash_not_mem_toLower (kept : isAlphanumeric letter = true) : '/' ∉ toLower letter := by
  have apart : letter ≠ '/' := by
    rintro rfl
    cases kept
  unfold toLower
  split
  · intro listed
    exact toLower_ne_slash apart (List.mem_singleton.mp listed).symm
  · exact slash_not_mem_mapped slash_not_mem_lowerSpecial slash_lt_lower apart

end Letter

namespace Casing

variable {c : Char}

/-! ## Words -/

/-- A word ends in the run that it is cut from. -/
theorem mem_cutRun {mode : Mode} {word cs cut : List Char} (listed : cut ∈ cutRun mode word cs)
    (member : c ∈ cut) : c ∈ word ∨ c ∈ cs := by
  induction cs generalizing mode word with
  | nil =>
      rw [cutRun] at listed
      split at listed
      · cases listed
      · obtain rfl := List.mem_singleton.mp listed
        exact .inl (List.mem_reverse.mp member)
  | cons d cs ih =>
      cases cs with
      | nil =>
          obtain rfl := List.mem_singleton.mp listed
          rcases List.mem_cons.mp (List.mem_reverse.mp member) with rfl | former
          · exact .inr List.mem_cons_self
          · exact .inl former
      | cons next rest =>
          -- wherever the cut is made, the letter `d` goes into one of the words
          have behind (after : c ∈ next :: rest) : c ∈ word ∨ c ∈ d :: next :: rest :=
            .inr (List.mem_cons_of_mem d after)
          have extended (inside : c ∈ d :: word) : c ∈ word ∨ c ∈ d :: next :: rest := by
            rcases List.mem_cons.mp inside with rfl | former
            · exact .inr List.mem_cons_self
            · exact .inl former
          rw [cutRun] at listed
          split at listed
          · rcases List.mem_cons.mp listed with rfl | later
            · exact extended (List.mem_reverse.mp member)
            · rcases ih later with none | after
              · cases none
              · exact behind after
          · split at listed
            · rcases List.mem_cons.mp listed with rfl | later
              · exact .inl (List.mem_reverse.mp member)
              · rcases ih later with same | after
                · obtain rfl := List.mem_singleton.mp same
                  exact .inr List.mem_cons_self
                · exact behind after
            · exact (ih listed).elim extended behind

theorem isAlphanumeric_of_mem_words {cs word : List Char} (listed : word ∈ words cs)
    (member : c ∈ word) : Letter.isAlphanumeric c = true := by
  obtain ⟨run, cut, inside⟩ := List.mem_flatMap.mp listed
  rcases mem_cutRun inside member with none | found
  · cases none
  · have kept := (mem_pieces cut c found).1
    simpa using kept

theorem slash_not_mem_lowerWord {word : List Char}
    (kept : ∀ letter ∈ word, Letter.isAlphanumeric letter = true) : '/' ∉ lowerWord word := by
  induction word with
  | nil => exact List.not_mem_nil
  | cons first rest ih =>
      have here := Letter.slash_not_mem_toLower (kept first List.mem_cons_self)
      cases rest with
      | nil =>
          rw [lowerWord]
          split
          · decide
          · exact here
      | cons next rest =>
          have later := ih fun letter member => kept letter (List.mem_cons_of_mem first member)
          rw [lowerWord]
          · intro listed
            exact (List.mem_append.mp listed).elim here later
          · nofun

/-- An identifier in snake case has no slash. -/
theorem slash_not_mem_snake (text : String) : '/' ∉ (snake text).toList := by
  intro listed
  rw [snake, joined, String.toList_intercalate] at listed
  rcases mem_intercalate listed with separator | ⟨part, member, inside⟩
  · cases separator
  · rw [List.map_map] at member
    obtain ⟨word, cut, rfl⟩ := List.mem_map.mp member
    rw [Function.comp_apply, String.toList_ofList] at inside
    exact slash_not_mem_lowerWord (fun letter found => isAlphanumeric_of_mem_words cut found) inside

end Casing

end SheetCompiler.Text
