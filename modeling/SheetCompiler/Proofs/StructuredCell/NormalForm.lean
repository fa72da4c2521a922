import SheetCompiler.Proofs.StructuredCell.Agreement

/-!
# Normal forms of cells

What normalized texts look like: pieces without blanks at their ends, joined by the one
separator of their level. Normalization writes nothing else and leaves these texts alone.
-/

set_option autoImplicit false

namespace SheetCompiler

open Text

def isKeySeparator (c : Char) : Bool := c == ':' || c == '='

/-- An entry with a key, which `:` ends, or one that has no key. -/
inductive IsNormalEntry : List Char → Prop where
  | keyed {key value : List Char} :
      Tight key → Tight value → (∀ c ∈ key, isKeySeparator c = false) →
      IsNormalEntry (key ++ ':' :: value)
  | bare {entry : List Char} : (∀ c ∈ entry, isKeySeparator c = false) → IsNormalEntry entry

structure IsNormalMap (entries : List (List Char)) : Prop where
  isPiece : ∀ entry ∈ entries, IsPiece CellReport.isDelimiter entry
  normal : ∀ entry ∈ entries, IsNormalEntry entry

inductive IsNormal : FieldType → List Char → Prop where
  | scalar {base : BaseType} {cs : List Char} : Tight cs → IsNormal (.scalar base) cs
  | array {base : BaseType} {elements : List (List Char)} :
      (∀ element ∈ elements, IsPiece (· == ',') element) →
      IsNormal (.array base) (List.intercalate [','] elements)
  | matrix {base : BaseType} {rows : List (List (List Char))} :
      (∀ row ∈ rows, CellReport.IsRow row) →
      IsNormal (.matrix base) (List.intercalate [';'] (rows.map (List.intercalate [','])))
  | map {key value : BaseType} {entries : List (List Char)} :
      IsNormalMap entries → IsNormal (.map key value) (List.intercalate [','] entries)
  | pairs {key value : BaseType} {entries : List (List Char)} :
      IsNormalMap entries → IsNormal (.pairs key value) (List.intercalate [','] entries)

theorem IsNormal.tight {type : FieldType} {cs : List Char} (normal : IsNormal type cs) :
    Tight cs := by
  cases normal with
  | scalar tight => exact tight
  | array isPiece => exact tight_intercalate rfl fun part listed => (isPiece part listed).tight
  | matrix isRow =>
      refine tight_intercalate rfl fun part listed => ?_
      obtain ⟨row, member, rfl⟩ := List.mem_map.mp listed
      exact (isRow row member).isPiece_intercalate.tight
  | map normal | pairs normal =>
      exact tight_intercalate rfl fun part listed => (normal.isPiece part listed).tight

namespace CellReport

theorem isNormalEntry_entryText (entry : List Char) : IsNormalEntry (entryText entry) := by
  unfold entryText
  cases pair : splitPair? entry with
  | none => exact .bare (cut?_eq_none (Option.map_eq_none_iff.mp pair))
  | some parts =>
      obtain ⟨⟨before, after⟩, cut, rfl⟩ := Option.map_eq_some_iff.mp pair
      have plain := (cut?_eq_some cut).1
      exact .keyed (tight_trim before) (tight_trim after)
        fun c member => plain c (mem_of_mem_trim member)

theorem entryText_of_isNormalEntry {entry : List Char} (normal : IsNormalEntry entry) :
    entryText entry = entry := by
  unfold entryText splitPair?
  cases normal with
  | @keyed key value keyTight valueTight plain =>
      have cut : cut? (fun c => c == ':' || c == '=') (key ++ ':' :: value) = some (key, value) :=
        cut?_append_cons plain rfl
      simp [cut, keyTight.trim_eq, valueTight.trim_eq]
  | bare plain =>
      cases cut : cut? (fun c => c == ':' || c == '=') entry with
      | none => rfl
      | some parts =>
          obtain ⟨-, c, separator, whole⟩ := cut?_eq_some cut
          have absent := plain c (by simp [whole])
          rw [isKeySeparator, separator] at absent
          cases absent

theorem isNormalMap_entries (cs : List Char) : IsNormalMap ((splitEntries cs).map entryText) where
  isPiece text listed := by
    obtain ⟨entry, member, rfl⟩ := List.mem_map.mp listed
    exact isPiece_entryText member
  normal text listed := by
    obtain ⟨entry, -, rfl⟩ := List.mem_map.mp listed
    exact isNormalEntry_entryText entry

theorem isNormal_normalized (type : FieldType) (text : String) :
    IsNormal type (ofCell type text).normalized.toList := by
  cases type with
  | scalar base =>
      rw [ofCell, toList_normalized_ofScalar]
      exact .scalar (tight_trim _)
  | array base =>
      rw [ofCell, toList_normalized_ofArray]
      exact .array fun _ => isPiece_of_mem_splitElements
  | matrix base =>
      rw [ofCell, toList_normalized_ofMatrix]
      exact .matrix fun _ => isRow_of_mem_matrixRows
  | map key value =>
      rw [ofCell, toList_normalized_ofEntries]
      exact .map (isNormalMap_entries _)
  | pairs key value =>
      rw [ofCell, toList_normalized_ofEntries]
      exact .pairs (isNormalMap_entries _)

theorem normalized_ofEntries_of_isNormalMap {unique : Bool} {key value : BaseType}
    {entries : List (List Char)} (normal : IsNormalMap entries) :
    (ofEntries unique key value (List.intercalate [','] entries)).normalized.toList =
      List.intercalate [','] entries := by
  rw [toList_normalized_ofEntries, splitEntries_intercalate normal.isPiece]
  refine congrArg _ ((List.map_congr_left fun entry listed => ?_).trans (List.map_id _))
  exact entryText_of_isNormalEntry (normal.normal entry listed)

/-- A text in normal form is its own normalized text. -/
theorem normalized_of_isNormal {type : FieldType} {text : String}
    (normal : IsNormal type text.toList) : (ofCell type text).normalized = text := by
  rw [← String.toList_inj]
  unfold ofCell
  generalize text.toList = cs at normal
  cases normal with
  | scalar tight =>
      dsimp only
      rw [toList_normalized_ofScalar, tight.trim_eq]
  | array isPiece =>
      dsimp only
      rw [toList_normalized_ofArray, splitElements_intercalate isPiece]
  | matrix isRow =>
      dsimp only
      rw [toList_normalized_ofMatrix, matrixRows_intercalate isRow]
  | map normal => exact normalized_ofEntries_of_isNormalMap normal
  | pairs normal => exact normalized_ofEntries_of_isNormalMap normal

theorem normalized_eq_self_iff {type : FieldType} {text : String} :
    (ofCell type text).normalized = text ↔ IsNormal type text.toList := by
  constructor
  · intro same
    have normal := isNormal_normalized type text
    rwa [same] at normal
  · exact normalized_of_isNormal

end CellReport

end SheetCompiler
