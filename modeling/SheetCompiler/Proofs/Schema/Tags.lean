import Mathlib.Data.List.Induction
import SheetCompiler.Header

/-!
# Tags

What the tags of a header add up to: an exclusion as soon as one of them excludes, the scopes
that they choose, a reference with the last target that one of them names, and a diagnostic for
each unknown one.
-/

set_option autoImplicit false

namespace SheetCompiler

open Text

namespace Tag

/-- The scope that a tag chooses. -/
@[simp] def scope? : Tag → Option Scope
  | .scope chosen => some chosen
  | .exclude | .localized | .reference _ | .unknown => none

/-- The target that a tag names. -/
@[simp] def target? : Tag → Option String
  | reference target => target
  | exclude | scope _ | localized | unknown => none

@[simp] def isReference : Tag → Bool
  | reference _ => true
  | exclude | scope _ | localized | unknown => false

theorem ofChars_eq_exclude_iff {tag : List Char} :
    ofChars tag = .exclude ↔ String.ofList (lower tag) = "pm" := by
  unfold ofChars
  dsimp only
  split
  · rename_i same
    exact iff_of_true rfl (eq_of_beq same)
  · rename_i other
    refine iff_of_false ?_ fun same => other (beq_iff_eq.mpr same)
    repeat' split
    all_goals exact nofun

end Tag

namespace Header.Reading

/-- What some tags add up to. -/
def ofTags (raw : String) (tags : List (List Char)) : Reading where
  excluded := tags.any fun tag => Tag.ofChars tag == .exclude
  scopes := tags.filterMap fun tag => (Tag.ofChars tag).scope?
  localized := tags.any fun tag => Tag.ofChars tag == .localized
  reference :=
    if tags.any fun tag => (Tag.ofChars tag).isReference then
      some ⟨(tags.filterMap fun tag => (Tag.ofChars tag).target?).getLast?⟩
    else none
  diagnostics := (tags.filter fun tag => Tag.ofChars tag == .unknown).map fun tag =>
    Diagnostic.ofCause (.unknownTag (String.ofList tag) raw)

theorem excluded_ofTags_iff (raw : String) (tags : List (List Char)) :
    (ofTags raw tags).excluded = true ↔ ∃ tag ∈ tags, Tag.ofChars tag = .exclude := by
  simp [ofTags]

/-- Only reference tags name a target. -/
theorem target_ofTags (raw : String) (tags : List (List Char)) :
    (ofTags raw tags).reference.bind (·.target) =
      (tags.filterMap fun tag => (Tag.ofChars tag).target?).getLast? := by
  unfold ofTags
  dsimp only
  split
  · rfl
  · rename_i none
    rw [Bool.not_eq_true, List.any_eq_false] at none
    have targets : (tags.filterMap fun tag => (Tag.ofChars tag).target?) = [] := by
      refine List.filterMap_eq_nil_iff.mpr fun tag member => ?_
      have plain := none tag member
      revert plain
      cases Tag.ofChars tag <;> simp
    rw [targets]
    rfl

theorem addTag_ofTags (raw : String) (tags : List (List Char)) (tag : List Char) :
    (ofTags raw tags).addTag raw tag = ofTags raw (tags ++ [tag]) := by
  unfold addTag
  cases meaning : Tag.ofChars tag with
  | exclude | scope _ | localized | unknown => simp [ofTags, meaning]
  | reference explicit =>
      dsimp only
      rw [target_ofTags]
      cases explicit <;> simp [ofTags, meaning]

theorem foldl_addTag (raw : String) (tags : List (List Char)) :
    tags.foldl (addTag raw) .empty = ofTags raw tags := by
  induction tags using List.reverseRecOn with
  | nil => rfl
  | append_singleton tags tag ih =>
      rw [List.foldl_append, ih, List.foldl_cons, List.foldl_nil, addTag_ofTags]

end Header.Reading

end SheetCompiler
