import SheetCompiler.Proofs.Localization.KeyShape
import SheetCompiler.Proofs.Sheet.Exclusion

/-!
# Headers

What the tags of a header add up to: it is excluded by an exclusion tag and by nothing else, a
reference has a target that is not empty, and a name that is there is safe for an identifier.
-/

set_option autoImplicit false

namespace SheetCompiler

open Text

/-! ## Names -/

/-- Letters, digits and underscores of ASCII that do not start with a digit. -/
structure IsSafeName (name : String) : Prop where
  nonEmpty : name ≠ ""
  chars : ∀ c ∈ name.toList, c.isAlphanum = true ∨ c = '_'
  front : ∀ c, name.toList.head? = some c → c.isDigit = false

theorem nameChar_safe (c : Char) : (nameChar c).isAlphanum = true ∨ nameChar c = '_' := by
  unfold nameChar
  split
  · rename_i safe
    rw [Bool.or_eq_true, beq_iff_eq] at safe
    exact safe
  · exact .inr rfl

theorem isSafeName_cleanName {cs : List Char} (named : cleanName cs ≠ "") :
    IsSafeName (cleanName cs) := by
  have kept : ∀ c ∈ (trim cs).map nameChar, c.isAlphanum = true ∨ c = '_' :=
    List.forall_mem_map.mpr fun c _ => nameChar_safe c
  unfold cleanName at named ⊢
  dsimp only at named ⊢
  generalize (trim cs).map nameChar = cleaned at named kept ⊢
  cases cleaned with
  | nil => exact absurd rfl named
  | cons first rest =>
      dsimp only at named ⊢
      by_cases digit : first.isDigit = true
      · rw [if_pos digit] at named ⊢
        have all : ("Field_".toList.all fun c => c.isAlphanum || c == '_') = true := by decide
        have front : ∀ c ∈ "Field_".toList, c.isAlphanum = true ∨ c = '_' := fun c member => by
          simpa using List.all_eq_true.mp all c member
        refine ⟨named, ?_, ?_⟩
        · rw [String.toList_append]
          refine List.forall_mem_append.mpr ⟨front, ?_⟩
          rwa [String.toList_ofList]
        · intro c heads
          rw [String.toList_append, List.head?_append_of_ne_nil _ (by decide)] at heads
          obtain rfl := Option.some.inj heads
          rfl
      · rw [if_neg digit] at named ⊢
        refine ⟨named, ?_, ?_⟩
        · rwa [String.toList_ofList]
        · intro c heads
          rw [String.toList_ofList] at heads
          obtain rfl := Option.some.inj heads
          exact Bool.eq_false_iff.mpr digit

/-! ## Targets -/

/-- A target that is not empty where there is one. -/
def IsNamed (target : Option String) : Prop := ∀ name, target = some name → name ≠ ""

theorem isNamed_none : IsNamed none := nofun

theorem IsNamed.or {first second : Option String} (named : IsNamed first)
    (other : IsNamed second) : IsNamed (first.or second) := by
  cases first with
  | none => exact other
  | some name => exact named

theorem nonEmpty?_eq_some_iff {cs : List Char} {text : String} :
    nonEmpty? cs = some text ↔ text ≠ "" ∧ text = String.ofList cs := by
  unfold nonEmpty?
  cases cs with
  | nil =>
      refine iff_of_false nofun ?_
      rintro ⟨full, rfl⟩
      exact full rfl
  | cons c cs =>
      simp only [List.isEmpty_cons, Bool.false_eq_true, if_false, Option.some.injEq]
      constructor
      · rintro rfl
        exact ⟨by simp, rfl⟩
      · rintro ⟨-, rfl⟩
        rfl

theorem isNamed_nonEmpty? (cs : List Char) : IsNamed (nonEmpty? cs) :=
  fun _ found => (nonEmpty?_eq_some_iff.mp found).1

theorem isNamed_targetOfName? (name : String) : IsNamed (targetOfName? name) := by
  unfold targetOfName?
  cases idSuffixes.findSome? fun suffix => stripBack? suffix.toList name.toList with
  | none => exact isNamed_none
  | some stem => exact isNamed_nonEmpty? (dropEndWhile (· == '_') stem)

namespace Tag

theorem isNamed_of_reference {tag : List Char} {target : Option String}
    (refers : ofChars tag = .reference target) : IsNamed target := by
  unfold ofChars at refers
  dsimp only at refers
  repeat' split at refers
  all_goals cases refers
  · exact isNamed_none
  · exact isNamed_nonEmpty? _
  · exact isNamed_nonEmpty? _

theorem ne_excluded_of_scope {tag : List Char} {scope : Scope}
    (chooses : ofChars tag = .scope scope) : scope ≠ .excluded := by
  unfold ofChars at chooses
  dsimp only at chooses
  repeat' split at chooses
  all_goals
    cases chooses
    try exact nofun

end Tag

namespace Header

/-! ## Readings -/

namespace Reading

theorem isNamed_target_ofTags (raw : String) (tags : List (List Char)) :
    IsNamed ((ofTags raw tags).reference.bind (·.target)) := by
  rw [target_ofTags]
  intro name found
  obtain ⟨tag, -, names⟩ := List.mem_filterMap.mp (List.mem_of_getLast? found)
  cases meaning : Tag.ofChars tag with
  | exclude | scope _ | localized | unknown => simp [meaning] at names
  | reference target =>
      rw [meaning] at names
      exact Tag.isNamed_of_reference meaning name names

theorem chosenScope_ofTags (raw : String) (tags : List (List Char)) :
    (ofTags raw tags).chosenScope ≠ .excluded := by
  unfold chosenScope
  cases last : (ofTags raw tags).scopes.getLast? with
  | none => exact nofun
  | some scope =>
      obtain ⟨tag, -, chooses⟩ := List.mem_filterMap.mp (List.mem_of_getLast? last)
      cases meaning : Tag.ofChars tag with
      | exclude | localized | reference _ | unknown => simp [meaning] at chooses
      | scope chosen =>
          rw [meaning] at chooses
          obtain rfl := Option.some.inj chooses
          exact Tag.ne_excluded_of_scope meaning

end Reading

/-- Only an exclusion tag excludes a column. -/
theorem scope_ofText_eq_excluded_iff (cell : String) :
    (ofText cell).scope = .excluded ↔
      ∃ tag ∈ (parts (trim cell.toList)).2, Tag.ofChars tag = .exclude := by
  rw [← Reading.excluded_ofTags_iff (String.ofList (trim cell.toList))]
  unfold ofText
  dsimp only
  rw [Reading.foldl_addTag]
  split
  · rename_i excluded
    exact iff_of_true rfl excluded
  · rename_i shown
    exact iff_of_false (Reading.chosenScope_ofTags _ _) shown

theorem isNamed_referenceTarget_ofText (cell : String) :
    IsNamed (ofText cell).referenceTarget := by
  have explicit := Reading.isNamed_target_ofTags (String.ofList (trim cell.toList))
    (parts (trim cell.toList)).2
  unfold ofText referenceTarget
  dsimp only
  rw [Reading.foldl_addTag]
  cases mark : (Reading.ofTags (String.ofList (trim cell.toList))
      (parts (trim cell.toList)).2).reference with
  | none => exact isNamed_none
  | some reference =>
      rw [mark] at explicit
      refine explicit.or (IsNamed.or ?_ (isNamed_targetOfName? _))
      split
      · exact isNamed_nonEmpty? _
      · exact isNamed_none

theorem isSafeName_ofText {cell : String} (named : (ofText cell).isEmpty = false) :
    IsSafeName (ofText cell).name := by
  obtain ⟨cs, same⟩ := exists_name_ofText cell
  unfold isEmpty at named
  rw [same] at named ⊢
  exact isSafeName_cleanName fun none => by simp [none] at named

end Header

/-- A column is kept unless it has no name or an exclusion tag. -/
theorem Sheet.isKept_iff (sheet : Sheet) (column : Nat) :
    (Column.ofSheet sheet column).isKept = true ↔ ¬ sheet.IsSkipped column := by
  unfold IsSkipped Column.isKept Column.isExcluded Column.isUnnamed Scope.isExcluded
  rw [header_ofSheet, ← Header.scope_ofText_eq_excluded_iff, not_or]
  cases (Header.ofText (sheet.cell 0 column)).isEmpty <;> simp

/-- There is no name outside of the header. -/
theorem Sheet.isSkipped_of_le {sheet : Sheet} {column : Nat}
    (outside : sheet.columnCount ≤ column) : sheet.IsSkipped column := by
  have none : sheet.cell 0 column = "" := by
    unfold columnCount at outside
    unfold cell
    rw [← List.head?_eq_getElem?]
    cases first : sheet.rows.head? with
    | none => rfl
    | some cells =>
        rw [first] at outside
        exact congrArg (Option.getD · "") (List.getElem?_eq_none outside)
  refine .inl ?_
  rw [none]
  exact Header.isEmpty_ofText_of_isBlank (by decide)

end SheetCompiler
