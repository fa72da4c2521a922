import SheetCompiler.Proofs.Schema.Header

/-!
# Targets by name

A reference without a tag that names its target finds it in the name: in the parenthetical of
the name part, or in what stands before an id suffix.
-/

set_option autoImplicit false

namespace SheetCompiler

open Text

/-- A name part that ends in a parenthetical, which names a target. -/
def IsParenthetical (name target : String) : Prop :=
  target ≠ "" ∧ ∃ head inner, '(' ∉ head ∧ trim name.toList = head ++ '(' :: (inner ++ [')']) ∧
    target = String.ofList (trim inner)

/-- A name without its id suffix and the underscores before it. -/
def IsStem (name target : String) : Prop :=
  target ≠ "" ∧ target.toList.getLast? ≠ some '_' ∧ ∃ underscores, ∃ suffix ∈ idSuffixes,
    (∀ c ∈ underscores, c = '_') ∧ name.toList = target.toList ++ underscores ++ suffix.toList

theorem splitParenthetical?_eq_some_iff {cs head inner : List Char} :
    splitParenthetical? cs = some (head, inner) ↔
      ∃ front middle, '(' ∉ front ∧ trim cs = front ++ '(' :: (middle ++ [')']) ∧
        head = trim front ∧ inner = trim middle := by
  unfold splitParenthetical?
  constructor
  · intro split
    obtain ⟨⟨front, rest⟩, cut, found⟩ := Option.bind_eq_some_iff.mp split
    obtain ⟨middle, strip, same⟩ := Option.bind_eq_some_iff.mp found
    obtain ⟨rfl, rfl⟩ := Prod.mk.inj (Option.some.inj same)
    obtain ⟨plain, c, separator, whole⟩ := cut?_eq_some cut
    obtain rfl := eq_of_beq separator
    rw [stripBack?_eq_some_iff.mp strip] at whole
    refine ⟨front, middle, fun member => ?_, whole, rfl, rfl⟩
    simpa using plain '(' member
  · rintro ⟨front, middle, plain, whole, rfl, rfl⟩
    have cut : cut? (· == '(') (trim cs) = some (front, middle ++ [')']) := by
      rw [whole]
      refine cut?_append_cons (fun c member => ?_) rfl
      simp only [beq_eq_false_iff_ne]
      rintro rfl
      exact plain member
    have strip : stripBack? [')'] (middle ++ [')']) = some middle :=
      stripBack?_eq_some_iff.mpr rfl
    simp [cut, strip]

/-- The target that a name part names in its parenthetical. -/
def parenthetical? (name : List Char) : Option String :=
  (splitParenthetical? name).bind fun parts => nonEmpty? parts.2

theorem parenthetical?_eq_some_iff {name target : String} :
    parenthetical? (trim name.toList) = some target ↔ IsParenthetical name target := by
  unfold parenthetical? IsParenthetical
  constructor
  · intro found
    obtain ⟨⟨head, inner⟩, split, named⟩ := Option.bind_eq_some_iff.mp found
    obtain ⟨front, middle, plain, whole, -, rfl⟩ := splitParenthetical?_eq_some_iff.mp split
    obtain ⟨full, same⟩ := nonEmpty?_eq_some_iff.mp named
    rw [trim_trim] at whole
    exact ⟨full, front, middle, plain, whole, same⟩
  · rintro ⟨full, front, middle, plain, whole, same⟩
    rw [← trim_trim] at whole
    exact Option.bind_eq_some_iff.mpr ⟨_,
      splitParenthetical?_eq_some_iff.mpr ⟨front, middle, plain, whole, rfl, rfl⟩,
      nonEmpty?_eq_some_iff.mpr ⟨full, same⟩⟩

/-- Each id suffix is two letters after underscores at most. -/
theorem dropLast_of_idSuffix {suffix : String} (listed : suffix ∈ idSuffixes) (stem : List Char) :
    dropEndWhile (· == '_') (stem ++ suffix.toList).dropLast.dropLast =
      dropEndWhile (· == '_') stem := by
  have letters : ∃ underscores, (∀ c ∈ underscores, (c == '_') = true) ∧
      ∃ c d, suffix.toList = underscores ++ [c, d] := by
    simp only [idSuffixes, List.mem_cons, List.not_mem_nil, or_false] at listed
    rcases listed with rfl | rfl | rfl | rfl
    · exact ⟨['_'], by simp, 'i', 'd', rfl⟩
    · exact ⟨['_'], by simp, 'I', 'D', rfl⟩
    · exact ⟨[], nofun, 'I', 'd', rfl⟩
    · exact ⟨[], nofun, 'I', 'D', rfl⟩
  obtain ⟨underscores, dropped, c, d, same⟩ := letters
  have shortened : (stem ++ suffix.toList).dropLast.dropLast = stem ++ underscores := by
    rw [same, ← List.append_assoc]
    simp [List.dropLast_append_of_ne_nil]
  rw [shortened, dropEndWhile_append dropped]

theorem targetOfName?_eq_some_iff {name target : String} :
    targetOfName? name = some target ↔ IsStem name target := by
  unfold targetOfName? IsStem
  constructor
  · intro found
    obtain ⟨stem, first, named⟩ := Option.bind_eq_some_iff.mp found
    obtain ⟨suffix, listed, strip⟩ := List.exists_of_findSome?_eq_some first
    obtain ⟨full, rfl⟩ := nonEmpty?_eq_some_iff.mp named
    obtain ⟨underscores, dropped, whole⟩ := exists_dropEndWhile (· == '_') stem
    refine ⟨full, fun ends => ?_, underscores, suffix, listed,
      fun c member => eq_of_beq (dropped c member), ?_⟩
    · rw [String.toList_ofList] at ends
      have kept := getLast?_dropEndWhile ends
      simp at kept
    · rw [String.toList_ofList, ← whole]
      exact stripBack?_eq_some_iff.mp strip
  · rintro ⟨full, ends, underscores, suffix, listed, dropped, whole⟩
    have strip := stripBack?_eq_some_iff.mpr whole
    obtain ⟨stem, first⟩ : ∃ stem, (idSuffixes.findSome? fun suffix =>
        stripBack? suffix.toList name.toList) = some stem :=
      Option.isSome_iff_exists.mp
        (List.findSome?_isSome_iff.mpr ⟨suffix, listed, Option.isSome_of_eq_some strip⟩)
    obtain ⟨other, also, found⟩ := List.exists_of_findSome?_eq_some first
    have stems : dropEndWhile (· == '_') stem = target.toList := by
      rw [← dropLast_of_idSuffix also, ← stripBack?_eq_some_iff.mp found, whole,
        dropLast_of_idSuffix listed,
        dropEndWhile_append fun c member => beq_iff_eq.mpr (dropped c member)]
      refine dropEndWhile_eq_self fun c final => beq_eq_false_iff_ne.mpr ?_
      rintro rfl
      exact ends final
    rw [first, Option.bind_eq_bind, Option.bind_some, stems]
    exact nonEmpty?_eq_some_iff.mpr ⟨full, String.ofList_toList.symm⟩

end SheetCompiler
