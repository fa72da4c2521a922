import SheetCompiler.Proofs.Text.Pieces
import SheetCompiler.Proofs.Value.Reading
import SheetCompiler.StructuredCell

/-!
# Checked cells and read cells

The report on a cell and the value of its normalized text agree: the text has a value
exactly when the report has no fault but repeated keys.
-/

set_option autoImplicit false

namespace SheetCompiler

open Text

section Results

variable {ε α β : Type}

theorem isOk_map (change : α → β) (result : Except ε α) :
    (result.map change).isOk = result.isOk := by
  cases result <;> rfl

theorem exists_of_map_eq_ok {change : α → β} {result : Except ε α} {value : β}
    (changed : result.map change = .ok value) :
    ∃ inner, result = .ok inner ∧ change inner = value := by
  cases result with
  | error fault => cases changed
  | ok inner => exact ⟨inner, rfl, Except.ok.inj changed⟩

theorem isOk_mapM (read : α → Except ε β) (items : List α) :
    (items.mapM read).isOk = items.all fun item => (read item).isOk := by
  induction items with
  | nil => rfl
  | cons item items ih =>
      rw [List.mapM_cons, List.all_cons, ← ih]
      cases read item with
      | error fault => rfl
      | ok value =>
          change (Except.bind (items.mapM read) fun values => .ok (value :: values)).isOk = _
          cases items.mapM read <;> rfl

end Results

/-- Repeated keys are the only faults that a value may have. -/
def CellFault.isRepetition : CellFault → Bool
  | .duplicateKey _ => true
  | .invalidElement .. | .missingKey _ => false

namespace CellReport

theorem all_checkElement (base : BaseType) (element : List Char) :
    (checkElement base element).all CellFault.isRepetition =
      (Value.ofElement base element).isOk := by
  unfold checkElement
  cases Value.ofElement base element <;> rfl

theorem toList_joinedChars (separator : Char) (parts : List (List Char)) :
    (joinedChars (String.singleton separator) parts).toList =
      List.intercalate [separator] parts := by
  rw [joinedChars, joined, String.toList_intercalate, List.map_map]
  simp

/-! ## Arrays and matrices -/

def isDelimiter (c : Char) : Bool := c == ',' || c == ';'

theorem splitElements_intercalate {elements : List (List Char)}
    (isPiece : ∀ element ∈ elements, IsPiece (· == ',') element) :
    splitElements (List.intercalate [','] elements) = elements :=
  trimmedPieces_intercalate rfl isPiece

theorem isPiece_of_mem_splitElements {cs element : List Char}
    (listed : element ∈ splitElements cs) : IsPiece (· == ',') element :=
  (mem_trimmedPieces listed).1

theorem isOk_ofArray_intercalate (base : BaseType) {elements : List (List Char)}
    (isPiece : ∀ element ∈ elements, IsPiece (· == ',') element) :
    (Value.ofArray base (List.intercalate [','] elements)).isOk =
      (elements.flatMap (checkElement base)).all CellFault.isRepetition := by
  rw [Value.ofArray, splitElements_intercalate isPiece, isOk_map, isOk_mapM, List.all_flatMap]
  simp only [all_checkElement]

/-- The elements of the rows of a matrix cell; rows without elements vanish. -/
def matrixRows (cs : List Char) : List (List (List Char)) :=
  ((splitRows cs).map splitElements).filter fun row => !row.isEmpty

/-- A row of a matrix cell as it is kept. -/
structure IsRow (row : List (List Char)) : Prop where
  filled : row ≠ []
  isPiece : ∀ element ∈ row, IsPiece isDelimiter element

theorem IsRow.isPiece_elements {row : List (List Char)} (isRow : IsRow row) :
    ∀ element ∈ row, IsPiece (· == ',') element :=
  fun element listed => (isRow.isPiece element listed).imp fun d plain => by
    simp [isDelimiter] at plain ⊢
    exact plain.1

theorem IsRow.isPiece_intercalate {row : List (List Char)} (isRow : IsRow row) :
    IsPiece (· == ';') (List.intercalate [','] row) :=
  Text.isPiece_intercalate rfl rfl isRow.filled fun element listed =>
    (isRow.isPiece element listed).imp fun d plain => by
      simp [isDelimiter] at plain ⊢
      exact plain.2

theorem isRow_of_mem_matrixRows {cs : List Char} {row : List (List Char)}
    (listed : row ∈ matrixRows cs) : IsRow row := by
  obtain ⟨member, kept⟩ := List.mem_filter.mp listed
  obtain ⟨piece, cut, rfl⟩ := List.mem_map.mp member
  refine ⟨fun none => ?_, fun element inside => ?_⟩
  · rw [none] at kept
    cases kept
  · obtain ⟨isPiece, origin⟩ := mem_trimmedPieces inside
    refine ⟨isPiece.full, isPiece.tight, fun d within => ?_⟩
    have row := (mem_trimmedPieces cut).1.plain d (origin d within)
    exact Bool.or_eq_false_iff.mpr ⟨isPiece.plain d within, row⟩

theorem splitRows_intercalate {rows : List (List (List Char))} (isRow : ∀ row ∈ rows, IsRow row) :
    splitRows (List.intercalate [';'] (rows.map (List.intercalate [',']))) =
      rows.map (List.intercalate [',']) := by
  refine trimmedPieces_intercalate rfl fun text listed => ?_
  obtain ⟨row, member, rfl⟩ := List.mem_map.mp listed
  exact (isRow row member).isPiece_intercalate

/-- The rows of a matrix are cut into the elements they were joined from. -/
theorem map_splitElements_splitRows {rows : List (List (List Char))}
    (isRow : ∀ row ∈ rows, IsRow row) :
    (splitRows (List.intercalate [';'] (rows.map (List.intercalate [','])))).map splitElements =
      rows := by
  rw [splitRows_intercalate isRow, List.map_map]
  refine (List.map_congr_left fun row listed => ?_).trans (List.map_id _)
  exact splitElements_intercalate (isRow row listed).isPiece_elements

theorem matrixRows_intercalate {rows : List (List (List Char))}
    (isRow : ∀ row ∈ rows, IsRow row) :
    matrixRows (List.intercalate [';'] (rows.map (List.intercalate [',']))) = rows := by
  rw [matrixRows, map_splitElements_splitRows isRow]
  refine List.filter_eq_self.mpr fun row listed => ?_
  simpa using (isRow row listed).filled

theorem isOk_matrix_joined (base : BaseType) (cs : List Char) :
    ((splitRows (List.intercalate [';'] ((matrixRows cs).map (List.intercalate [','])))).mapM
        (Value.ofArray base)).isOk =
      ((matrixRows cs).flatMap fun row => row.flatMap (checkElement base)).all
        CellFault.isRepetition := by
  have isRow (row : List (List Char)) (listed : row ∈ matrixRows cs) : IsRow row :=
    isRow_of_mem_matrixRows listed
  rw [splitRows_intercalate isRow, isOk_mapM, List.all_map, List.all_flatMap, Bool.eq_iff_iff,
    List.all_eq_true, List.all_eq_true]
  refine forall₂_congr fun row listed => ?_
  rw [Function.comp_apply, isOk_ofArray_intercalate base (isRow row listed).isPiece_elements]

/-! ## Entries -/

def entryText (entry : List Char) : List Char :=
  match splitPair? entry with
  | none => entry
  | some (key, value) => key ++ ':' :: value

theorem splitPair?_entryText {entry key value : List Char}
    (pair : splitPair? entry = some (key, value)) :
    splitPair? (key ++ ':' :: value) = some (key, value) := by
  obtain ⟨⟨before, after⟩, cut, same⟩ := Option.map_eq_some_iff.mp pair
  obtain ⟨rfl, rfl⟩ := Prod.mk.inj same
  have plain := (cut?_eq_some cut).1
  rw [splitPair?, cut?_append_cons (fun d member => plain d (mem_of_mem_trim member)) rfl]
  simp

theorem splitPair?_entryText_eq (entry : List Char) :
    splitPair? (entryText entry) = splitPair? entry := by
  cases pair : splitPair? entry with
  | none => rw [entryText, pair, pair]
  | some parts =>
      rw [entryText, pair]
      exact splitPair?_entryText pair

/-- What an entry is read as does not depend on how it is written. -/
theorem ofEntry_entryText (key value : BaseType) (entry : List Char) :
    (Value.ofEntry key value (entryText entry)).isOk =
      match splitPair? entry with
      | none => false
      | some (keyText, valueText) =>
          (Value.ofElement key keyText).isOk && (Value.ofElement value valueText).isOk := by
  unfold entryText
  cases pair : splitPair? entry with
  | none =>
      dsimp only
      rw [Value.ofEntry, pair]
      rfl
  | some parts =>
      obtain ⟨keyText, valueText⟩ := parts
      dsimp only
      rw [Value.ofEntry, splitPair?_entryText pair]
      dsimp only
      cases Value.ofElement key keyText with
      | error fault => rfl
      | ok first => cases Value.ofElement value valueText <;> rfl

theorem isPiece_entryText {cs entry : List Char} (listed : entry ∈ splitEntries cs) :
    IsPiece isDelimiter (entryText entry) := by
  have isPiece : IsPiece isDelimiter entry := (mem_trimmedPieces listed).1
  unfold entryText
  cases pair : splitPair? entry with
  | none => exact isPiece
  | some parts =>
      obtain ⟨⟨before, after⟩, cut, rfl⟩ := Option.map_eq_some_iff.mp pair
      obtain ⟨-, separator, -, whole⟩ := cut?_eq_some cut
      refine ⟨by simp, (tight_trim before).append_cons (tight_trim after) rfl, ?_⟩
      intro c member
      rcases List.mem_append.mp member with inKey | later
      · exact isPiece.plain c (by simp [whole, mem_of_mem_trim inKey])
      · rcases List.mem_cons.mp later with rfl | inValue
        · rfl
        · exact isPiece.plain c (by simp [whole, mem_of_mem_trim inValue])

theorem splitEntries_intercalate {entries : List (List Char)}
    (isPiece : ∀ entry ∈ entries, IsPiece isDelimiter entry) :
    splitEntries (List.intercalate [','] entries) = entries :=
  trimmedPieces_intercalate rfl isPiece

theorem splitEntries_joined (cs : List Char) :
    splitEntries (List.intercalate [','] ((splitEntries cs).map entryText)) =
      (splitEntries cs).map entryText := by
  refine splitEntries_intercalate fun text listed => ?_
  obtain ⟨entry, member, rfl⟩ := List.mem_map.mp listed
  exact isPiece_entryText member

theorem entries_texts (unique : Bool) (key value : BaseType) (seen items : List (List Char)) :
    (entries unique key value seen items).map (·.1) =
      items.map fun entry => String.ofList (entryText entry) := by
  induction items generalizing seen with
  | nil => rfl
  | cons entry items ih =>
      rw [List.map_cons]
      unfold entries
      cases pair : splitPair? entry with
      | none =>
          dsimp only
          rw [List.map_cons, ih, entryText, pair]
      | some parts =>
          dsimp only
          rw [List.map_cons, ih, entryText, pair]

theorem entries_faults (unique : Bool) (key value : BaseType) (seen items : List (List Char)) :
    ((entries unique key value seen items).flatMap (·.2)).all CellFault.isRepetition =
      items.all fun entry => (Value.ofEntry key value (entryText entry)).isOk := by
  induction items generalizing seen with
  | nil => rfl
  | cons entry items ih =>
      rw [List.all_cons, ofEntry_entryText]
      unfold entries
      cases splitPair? entry with
      | none => rfl
      | some parts =>
          dsimp only
          have repetition : (if (unique && seen.contains parts.1) = true then
              [CellFault.duplicateKey (String.ofList parts.1)] else []).all
                CellFault.isRepetition = true := by
            split <;> rfl
          rw [List.flatMap_cons, List.all_append, ih, List.all_append, List.all_append,
            all_checkElement, all_checkElement, repetition, Bool.and_true]

theorem isOk_ofEntries_joined (unique : Bool) (key value : BaseType) (cs : List Char) :
    (Value.ofEntries key value
        (List.intercalate [','] ((splitEntries cs).map entryText))).isOk =
      (ofEntries unique key value cs).faults.all CellFault.isRepetition := by
  rw [ofEntries, Value.ofEntries, splitEntries_joined, isOk_map, isOk_mapM, List.all_map]
  exact (entries_faults unique key value [] (splitEntries cs)).symm

/-! ## Cells -/

theorem toList_normalized_ofScalar (base : BaseType) (cs : List Char) :
    (ofScalar base cs).normalized.toList = trim cs := by
  rw [ofScalar, String.toList_ofList]

theorem toList_normalized_ofArray (base : BaseType) (cs : List Char) :
    (ofArray base cs).normalized.toList = List.intercalate [','] (splitElements cs) :=
  toList_joinedChars ',' (splitElements cs)

theorem toList_normalized_ofMatrix (base : BaseType) (cs : List Char) :
    (ofMatrix base cs).normalized.toList =
      List.intercalate [';'] ((matrixRows cs).map (List.intercalate [','])) := by
  unfold ofMatrix joined
  rw [String.toList_intercalate, List.map_map]
  exact congrArg _ (List.map_congr_left fun row _ => toList_joinedChars ',' row)

theorem toList_normalized_ofEntries (unique : Bool) (key value : BaseType) (cs : List Char) :
    (ofEntries unique key value cs).normalized.toList =
      List.intercalate [','] ((splitEntries cs).map entryText) := by
  unfold ofEntries joined
  dsimp only
  rw [String.toList_intercalate, entries_texts, List.map_map]
  exact congrArg _ (List.map_congr_left fun entry _ => String.toList_ofList)

/-- The normalized text of a cell can be read exactly when the report has no fault but
repeated keys. -/
theorem isOk_ofCell_normalized (type : FieldType) (text : String)
    (visible : isBlankText (ofCell type text).normalized = false) :
    (Value.ofCell type (ofCell type text).normalized).isOk =
      (ofCell type text).faults.all CellFault.isRepetition := by
  unfold Value.ofCell
  dsimp only
  rw [isBlankText] at visible
  rw [visible, if_neg Bool.false_ne_true]
  cases type with
  | scalar base =>
      have full : (trim text.toList).isEmpty = false := by
        cases left : trim text.toList with
        | nil =>
            rw [ofCell, toList_normalized_ofScalar, left] at visible
            cases visible
        | cons c rest => rfl
      dsimp only [ofCell]
      rw [toList_normalized_ofScalar, ofScalar, full]
      dsimp only
      rw [if_neg Bool.false_ne_true, all_checkElement]
  | array base =>
      dsimp only [ofCell]
      rw [toList_normalized_ofArray]
      exact isOk_ofArray_intercalate base fun _ => isPiece_of_mem_splitElements
  | matrix base =>
      dsimp only [ofCell]
      rw [toList_normalized_ofMatrix, isOk_map]
      exact isOk_matrix_joined base text.toList
  | map key value =>
      dsimp only [ofCell]
      rw [toList_normalized_ofEntries]
      exact isOk_ofEntries_joined true key value text.toList
  | pairs key value =>
      dsimp only [ofCell]
      rw [toList_normalized_ofEntries]
      exact isOk_ofEntries_joined false key value text.toList

/-- A text without structure never has a fault. -/
theorem faults_text (text : String) : (ofCell FieldType.text text).faults = [] := by
  dsimp only [ofCell, FieldType.text, ofScalar]
  split
  · rfl
  · unfold checkElement Value.ofElement
    dsimp only
    split <;> rename_i read <;> split at read <;> first | rfl | cases read

end CellReport

namespace Value

theorem isOk_ofCell_text (text : String) : (ofCell FieldType.text text).isOk = true := by
  unfold ofCell FieldType.text
  dsimp only
  split
  · rfl
  · unfold ofElement
    dsimp only
    split <;> rfl

variable {text : String} {value : Value}

theorem ne_null_of_ofElement {base : BaseType} {cs : List Char} (full : trim cs ≠ [])
    (read : ofElement base cs = .ok value) : value ≠ .null := by
  have isElement := isElement_of_ofElement read
  rintro rfl
  generalize trim cs = element at isElement full
  cases isElement
  exact full rfl

/-- Only a blank cell is read as null. -/
theorem ne_null_of_ofCell {type : FieldType} (visible : isBlankText text = false)
    (read : ofCell type text = .ok value) : value ≠ .null := by
  unfold ofCell at read
  dsimp only at read
  rw [isBlankText] at visible
  rw [visible] at read
  cases type with
  | scalar base =>
      refine ne_null_of_ofElement (fun none => ?_) read
      rw [trim_eq_nil_iff, visible] at none
      cases none
  | array base =>
      obtain ⟨items, -, rfl⟩ := exists_of_map_eq_ok read
      intro same
      cases same
  | matrix base =>
      obtain ⟨items, -, rfl⟩ := exists_of_map_eq_ok read
      intro same
      cases same
  | map key entry =>
      obtain ⟨items, -, rfl⟩ := exists_of_map_eq_ok read
      intro same
      cases same
  | pairs key entry =>
      obtain ⟨items, -, rfl⟩ := exists_of_map_eq_ok read
      intro same
      cases same

end Value

end SheetCompiler
