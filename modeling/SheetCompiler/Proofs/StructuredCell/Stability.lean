import SheetCompiler.Normalization
import SheetCompiler.Proofs.StructuredCell.NormalForm

/-!
# Normalized cells

The normalized text of a cell gets the same report as the cell, so it is not changed again.
Only a default can: it fills a cell of which normalization has left nothing.
-/

set_option autoImplicit false

namespace SheetCompiler

open Text

namespace CellReport

/-! ## Reports on normalized texts -/

theorem ofArray_joined (base : BaseType) (cs : List Char) :
    ofArray base (List.intercalate [','] (splitElements cs)) = ofArray base cs := by
  rw [ofArray, splitElements_intercalate fun _ => isPiece_of_mem_splitElements, ofArray]

theorem ofMatrix_joined (base : BaseType) (cs : List Char) :
    ofMatrix base (List.intercalate [';'] ((matrixRows cs).map (List.intercalate [',']))) =
      ofMatrix base cs := by
  have rows (cs : List Char) : ofMatrix base cs =
      ⟨joined ";" ((matrixRows cs).map (joinedChars ",")), (matrixRows cs).map List.length,
        (matrixRows cs).flatMap fun row => row.flatMap (checkElement base)⟩ := rfl
  rw [rows, matrixRows_intercalate fun _ => isRow_of_mem_matrixRows, ← rows]

theorem entries_entryText (unique : Bool) (key value : BaseType)
    (seen items : List (List Char)) :
    entries unique key value seen (items.map entryText) = entries unique key value seen items := by
  induction items generalizing seen with
  | nil => rfl
  | cons entry items ih =>
      rw [List.map_cons]
      unfold entries
      cases pair : splitPair? entry with
      | none =>
          have same : entryText entry = entry := by rw [entryText, pair]
          rw [same, pair]
          dsimp only
          rw [ih]
      | some parts =>
          have written : entryText entry = parts.1 ++ ':' :: parts.2 := by rw [entryText, pair]
          rw [written, splitPair?_entryText pair]
          dsimp only
          rw [ih]

theorem ofEntries_joined (unique : Bool) (key value : BaseType) (cs : List Char) :
    ofEntries unique key value (List.intercalate [','] ((splitEntries cs).map entryText)) =
      ofEntries unique key value cs := by
  unfold ofEntries
  rw [splitEntries_joined, entries_entryText]

/-- The report on a cell is the report on its normalized text. -/
theorem ofCell_normalized (type : FieldType) (text : String) :
    ofCell type (ofCell type text).normalized = ofCell type text := by
  cases type with
  | scalar base =>
      dsimp only [ofCell]
      rw [toList_normalized_ofScalar, ofScalar, trim_trim, ofScalar]
  | array base =>
      dsimp only [ofCell]
      rw [toList_normalized_ofArray, ofArray_joined]
  | matrix base =>
      dsimp only [ofCell]
      rw [toList_normalized_ofMatrix, ofMatrix_joined]
  | map key value =>
      dsimp only [ofCell]
      rw [toList_normalized_ofEntries, ofEntries_joined]
  | pairs key value =>
      dsimp only [ofCell]
      rw [toList_normalized_ofEntries, ofEntries_joined]

/-- A normalized cell gets the same report: the same text, the same counts and the same faults,
whether it has faults or not. The texts that normalization leaves alone are those in normal
form. -/
theorem normalization_settles (type : FieldType) (text : String) :
    ofCell type (ofCell type text).normalized = ofCell type text ∧
      ((ofCell type text).normalized = text ↔ IsNormal type text.toList) :=
  ⟨ofCell_normalized type text, normalized_eq_self_iff⟩

/-! ## Blanks -/

theorem trimmed_normalized (type : FieldType) (text : String) :
    trimmed (ofCell type text).normalized = (ofCell type text).normalized := by
  rw [trimmed, (isNormal_normalized type text).tight.trim_eq, String.ofList_toList]

/-- What is blank after normalization is empty, and gets the report on an empty cell. -/
theorem ofCell_eq_of_blank {type : FieldType} {text : String}
    (blank : isBlankText (ofCell type text).normalized = true) :
    ofCell type text = ofCell type "" := by
  have empty : trimmed (ofCell type text).normalized = "" := by
    rw [trimmed, trim_eq_nil_iff.mpr blank, String.ofList_nil]
  rw [trimmed_normalized] at empty
  rw [← ofCell_normalized, empty]

end CellReport

namespace Field

variable {field : Field} {text : String}

theorem sourceText_of_visible (visible : isBlankText text = false) :
    field.sourceText text = text := by
  unfold sourceText
  split
  · rw [visible, if_neg Bool.false_ne_true]
  · rfl

/-- A blank cell that the default of the field leaves blank. -/
def Settles (field : Field) (text : String) : Prop :=
  isBlankText text = true → isBlankText (field.reportOn text).normalized = true

/-- A normalized cell that no default fills gets the same report again. -/
theorem reportOn_normalized (settles : field.Settles (field.reportOn text).normalized) :
    field.reportOn (field.reportOn text).normalized = field.reportOn text := by
  cases blank : isBlankText (field.reportOn text).normalized with
  | true =>
      have still := settles blank
      unfold reportOn at blank still ⊢
      rw [CellReport.ofCell_eq_of_blank still, CellReport.ofCell_eq_of_blank blank]
  | false =>
      rw [reportOn, sourceText_of_visible blank]
      exact CellReport.ofCell_normalized field.type (field.sourceText text)

theorem trimmed_reportOn (field : Field) (text : String) :
    trimmed (field.reportOn text).normalized = (field.reportOn text).normalized :=
  CellReport.trimmed_normalized field.type (field.sourceText text)

end Field

end SheetCompiler
