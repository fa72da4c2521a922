import Mathlib.Data.List.Basic
import SheetCompiler.Proofs.Text.Casing

/-!
# Words of identifiers

Cutting a text into words loses all but its letters and digits, and keeps those in their
order. Words of ASCII characters can be told from their snake case, up to the case of letters.
-/

set_option autoImplicit false

namespace SheetCompiler.Text

theorem flatten_pieces (p : Char → Bool) (cs : List Char) :
    (pieces p cs).flatten = cs.filter fun c => !p c := by
  induction cs with
  | nil => rfl
  | cons c cs ih =>
      rw [pieces]
      split
      · simp_all
      · cases cut : pieces p cs with
        | nil => exact absurd cut pieces_ne_nil
        | cons piece rest => simp_all

/-! ## Upper case -/

namespace Letter

theorem CodeShift.specialOfText_ofList (cs : List Char) :
    CodeShift.specialOfText (String.ofList cs) = (trimmedPieces isBlank cs).map fun entry =>
      match cut? (· == '>') entry with
      | some (source, images) => (hexNumber source, (pieces (· == '+') images).map hexNumber)
      | none => (hexNumber entry, []) := by
  unfold CodeShift.specialOfText
  exact congrArg (fun letters => (trimmedPieces isBlank letters).map _) String.toList_ofList

set_option maxRecDepth 20000 in
theorem upperSpecial_beyond : ∀ entry ∈ Table.upperSpecial,
    entry.2 ≠ [] ∧ ∀ image ∈ entry.2, image < 97 ∨ 122 < image := by
  rw [Table.upperSpecial, CodeShift.specialOfText_ofList]
  decide +kernel

set_option maxRecDepth 20000 in
theorem upper_beyond : ∀ shift ∈ Table.upper,
    (shift.range.last : Int) + shift.displacement < 97 ∨
      122 < (shift.range.first : Int) + shift.displacement := by
  rw [Table.upper, CodeShift.ofText_ofList]
  decide +kernel

theorem forall_ascii {P : Char → Prop} (all : ∀ n < 128, P (Char.ofNat n))
    {c : Char} (ascii : isAscii c = true) : P c := by
  have holds := all c.toNat (by simpa [isAscii] using ascii)
  rwa [Char.ofNat_toNat] at holds

theorem isLower_ofNat {code : Nat} (beyond : code < 97 ∨ 122 < code) :
    (Char.ofNat code).isLower = false := by
  rw [Bool.eq_false_iff, ne_eq, isLower_iff]
  by_cases valid : code.isValidChar
  · rw [Char.ofNat, dif_pos valid]
    change ¬ (97 ≤ code ∧ code ≤ 122)
    omega
  · rw [Char.ofNat, dif_neg valid]
    decide

variable {c d : Char} {special : List (Nat × List Nat)} {shifts : List CodeShift}

theorem mapped_ne_nil (images : ∀ entry ∈ special, entry.2 ≠ []) :
    mapped special shifts c ≠ [] := by
  unfold mapped
  split
  · rename_i found
    simpa using images _ (List.mem_of_find?_eq_some found)
  · split <;> exact List.cons_ne_nil _ _

/-- Tables that list no lower case letter of ASCII map nothing but such letters to one. -/
theorem isLower_of_mem_mapped
    (images : ∀ entry ∈ special, ∀ image ∈ entry.2, image < 97 ∨ 122 < image)
    (beyond : ∀ shift ∈ shifts, (shift.range.last : Int) + shift.displacement < 97 ∨
      122 < (shift.range.first : Int) + shift.displacement)
    (foreign : c.isLower = false) (member : d ∈ mapped special shifts c) : d.isLower = false := by
  unfold mapped at member
  split at member
  · rename_i found
    obtain ⟨image, listed, rfl⟩ := List.mem_map.mp member
    exact isLower_ofNat (images _ (List.mem_of_find?_eq_some found) image listed)
  · split at member
    · rename_i image found
      obtain rfl := List.mem_singleton.mp member
      obtain ⟨shift, holds, rfl⟩ := Option.map_eq_some_iff.mp found
      have outside := beyond shift (List.mem_of_find?_eq_some holds)
      have inside := List.find?_some holds
      simp only [CodeRange.contains, Bool.and_eq_true, decide_eq_true_eq] at inside
      exact isLower_ofNat (by omega)
    · obtain rfl := List.mem_singleton.mp member
      exact foreign

theorem toUpper_ne_nil (c : Char) : toUpper c ≠ [] := by
  unfold toUpper
  split
  · exact List.cons_ne_nil _ _
  · exact mapped_ne_nil fun entry listed => (upperSpecial_beyond entry listed).1

/-- No upper case form has a lower case letter of ASCII in it. -/
theorem isLower_of_mem_toUpper (member : d ∈ toUpper c) : d.isLower = false := by
  unfold toUpper at member
  split at member
  · rename_i ascii
    obtain rfl := List.mem_singleton.mp member
    exact forall_ascii (P := fun c => c.toUpper.isLower = false) (by decide +kernel) ascii
  · rename_i foreign
    refine isLower_of_mem_mapped (fun entry listed => (upperSpecial_beyond entry listed).2)
      upper_beyond ?_ member
    rw [Bool.eq_false_iff, ne_eq, isLower_iff]
    have code : ¬ c.toNat < 128 := by simpa [isAscii] using foreign
    omega

end Letter

namespace Casing

variable {mode : Mode} {word cs : List Char} {c : Char}

/-! ## Words -/

theorem flatten_cutRun (mode : Mode) (word cs : List Char) :
    (cutRun mode word cs).flatten = word.reverse ++ cs := by
  fun_induction cutRun mode word cs with
  | case1 mode word empty => simp_all
  | case2 mode word full => simp
  | case3 mode word c => simp
  | case4 mode word c next rest mode' cuts ih => simp [ih]
  | case5 mode word c next rest mode' stays cuts ih => simp [ih]
  | case6 mode word c next rest mode' stays others ih => simp [ih]

/-- The words of a text are its letters and digits. -/
theorem flatten_words (cs : List Char) :
    (words cs).flatten = cs.filter Letter.isAlphanumeric := by
  have kept := flatten_pieces (fun c => !Letter.isAlphanumeric c) cs
  simp only [Bool.not_not] at kept
  rw [words, ← kept]
  generalize pieces _ cs = runs
  induction runs with
  | nil => rfl
  | cons run runs ih => simp [ih, flatten_cutRun]

theorem ne_nil_of_mem_cutRun {cut : List Char} (started : mode = .uppercase → word ≠ [])
    (listed : cut ∈ cutRun mode word cs) : cut ≠ [] := by
  fun_induction cutRun mode word cs with
  | case1 mode word empty => cases listed
  | case2 mode word full => simp_all
  | case3 mode word c => simp_all
  | case4 mode word c next rest mode' cuts ih =>
      rcases List.mem_cons.mp listed with rfl | later
      · simp
      · exact ih nofun later
  | case5 mode word c next rest mode' stays cuts ih =>
      rcases List.mem_cons.mp listed with rfl | later
      · simpa using started cuts.1
      · exact ih nofun later
  | case6 mode word c next rest mode' stays others ih =>
      exact ih (fun _ => List.cons_ne_nil _ _) listed

theorem ne_nil_of_mem_words (listed : word ∈ words cs) : word ≠ [] := by
  obtain ⟨run, -, inside⟩ := List.mem_flatMap.mp listed
  have started : Mode.boundary = .uppercase → ([] : List Char) ≠ [] := nofun
  exact ne_nil_of_mem_cutRun started inside

/-- The first word starts with the first letter or digit. -/
theorem words_eq_cons (kept : cs.filter Letter.isAlphanumeric = c :: word) :
    ∃ rest later, words cs = (c :: rest) :: later := by
  rw [← flatten_words] at kept
  cases cut : words cs with
  | nil => simp [cut] at kept
  | cons first later =>
      have full : first ≠ [] := ne_nil_of_mem_words (cut ▸ List.mem_cons_self)
      cases first with
      | nil => exact absurd rfl full
      | cons d rest =>
          rw [cut, List.flatten_cons, List.cons_append] at kept
          obtain ⟨rfl, -⟩ := List.cons.inj kept
          exact ⟨rest, later, rfl⟩

theorem words_eq_nil_iff : words cs = [] ↔ cs.filter Letter.isAlphanumeric = [] := by
  constructor
  · intro none
    rw [← flatten_words, none, List.flatten_nil]
  · intro none
    refine List.eq_nil_iff_forall_not_mem.mpr fun word listed => ?_
    have empty : word ⊆ [] := by
      rw [← none, ← flatten_words]
      exact (List.sublist_flatten_of_mem listed).subset
    exact ne_nil_of_mem_words listed (List.subset_nil.mp empty)

/-! ## Snake case -/

/-- What the lower case form of a letter or digit of ASCII is like. -/
theorem toLower_ascii (kept : c.isAlphanum = true) :
    Letter.toLower c = [c.toLower] ∧ c ≠ 'Σ' ∧ c.toLower.isAlphanum = true ∧
      c.toLower.isDigit = c.isDigit := by
  have facts : ∀ c, Letter.isAscii c = true → c.isAlphanum = true →
      Letter.toLower c = [c.toLower] ∧ c ≠ 'Σ' ∧ c.toLower.isAlphanum = true ∧
        c.toLower.isDigit = c.isDigit :=
    fun c => Letter.forall_ascii (P := fun c => c.isAlphanum = true →
      Letter.toLower c = [c.toLower] ∧ c ≠ 'Σ' ∧ c.toLower.isAlphanum = true ∧
        c.toLower.isDigit = c.isDigit) (by decide +kernel)
  exact facts c (Letter.isAscii_of_isAlphanum kept) kept

theorem lowerWord_ascii (kept : ∀ c ∈ word, c.isAlphanum = true) :
    lowerWord word = word.map Char.toLower := by
  induction word with
  | nil => rfl
  | cons c rest ih =>
      rw [List.forall_mem_cons] at kept
      obtain ⟨lower, plain, -⟩ := toLower_ascii kept.1
      cases rest with
      | nil => rw [lowerWord, if_neg (by simpa using plain), lower]; rfl
      | cons d rest =>
          rw [lowerWord, lower, ih kept.2]
          · rfl
          · intro last
            cases last

theorem toList_snake (text : String) :
    (snake text).toList = List.intercalate ['_'] ((words text.toList).map lowerWord) := by
  rw [snake, joined, String.toList_intercalate, List.map_map]
  congr 1
  exact List.map_congr_left fun word _ => String.toList_ofList

/-! ## Camel case -/

/-- What an identifier in camel case starts with: the upper case form of the first letter or
digit. -/
theorem head?_camel (text : String) :
    (camel text).toList.head? =
      (text.toList.find? Letter.isAlphanumeric).bind fun c => (Letter.toUpper c).head? := by
  rw [← List.head?_filter, camel, String.toList_ofList]
  cases kept : text.toList.filter Letter.isAlphanumeric with
  | nil => rw [words_eq_nil_iff.mpr kept]; rfl
  | cons c later =>
      obtain ⟨rest, others, cut⟩ := words_eq_cons kept
      rw [cut, List.flatMap_cons, capitalWord, List.append_assoc,
        List.head?_append_of_ne_nil _ (Letter.toUpper_ne_nil c)]
      rfl

end Casing

end SheetCompiler.Text
