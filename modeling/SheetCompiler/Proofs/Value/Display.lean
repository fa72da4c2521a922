import SheetCompiler.Proofs.Number.Integer
import SheetCompiler.Proofs.Value.Typing

/-!
# Displayed values

A displayed value is read as the same value, as long as it has no floating point numbers. A
piece of a cell has no separators of its own level, and its value is displayed without them: as
the piece itself, or in letters, digits and the minus sign.
-/

set_option autoImplicit false

namespace SheetCompiler

open Text

/-- The base types of the parts of a type. -/
def FieldType.bases : FieldType → List BaseType
  | .scalar base | .array base | .matrix base => [base]
  | .map key value | .pairs key value => [key, value]

namespace Value

variable {base key entryValue : BaseType} {cs : List Char} {value : Value} {c : Char}
  {pieces : List (List Char)} {items : List Value} {rows : List (List Value)}

/-- The characters of displayed truth values and integers. -/
def wordChars : List Char := "truefals-0123456789".toList

theorem mem_wordChars_of_isDigit (digit : c.isDigit = true) : c ∈ wordChars := by
  have digits : ∀ n < 10, Nat.digitChar n ∈ wordChars := by decide
  rw [← Integer.digitChar_of_isDigit digit]
  exact digits _ (Integer.digit_lt_ten digit)

theorem mem_wordChars_of_mem_toDigits {n : Nat} (listed : c ∈ Nat.toDigits 10 n) :
    c ∈ wordChars :=
  mem_wordChars_of_isDigit (Integer.isDigit_of_mem_toDigits listed)

theorem mem_wordChars_of_mem_displayInt {n : Int} (listed : c ∈ (displayInt n).toList) :
    c ∈ wordChars := by
  cases n with
  | ofNat n =>
      rw [Integer.toList_displayInt_ofNat] at listed
      exact mem_wordChars_of_mem_toDigits listed
  | negSucc n =>
      rw [Integer.toList_displayInt_negSucc] at listed
      rcases List.mem_cons.mp listed with rfl | digits
      · decide
      · exact mem_wordChars_of_mem_toDigits digits

theorem eq_false_of_mem_wordChars {p : Char → Bool} (words : wordChars.any p = false)
    (word : c ∈ wordChars) : p c = false :=
  Bool.eq_false_iff.mpr (List.any_eq_false.mp words c word)

theorem tight_of_wordChars (word : cs ⊆ wordChars) : Tight cs := by
  have visible : wordChars.any isBlank = false := by decide
  constructor
  · intro c starts
    exact eq_false_of_mem_wordChars visible (word (List.mem_of_head? starts))
  · intro c ends
    exact eq_false_of_mem_wordChars visible (word (List.mem_of_getLast? ends))

/-! ## Elements -/

/-- The display of a value stands for the value, and it has no characters but those of the
text it was read from and those of words. -/
structure Rereads (base : BaseType) (cs : List Char) (value : Value) : Prop where
  isElement : IsElement base value.display.toList value
  tight : Tight value.display.toList
  chars : ∀ c ∈ value.display.toList, c ∈ cs ∨ c ∈ wordChars

theorem rereads_word (isElement : IsElement base value.display.toList value)
    (word : value.display.toList ⊆ wordChars) : Rereads base cs value :=
  ⟨isElement, tight_of_wordChars word, fun _ listed => .inr (word listed)⟩

theorem isElement_displayBool (truth : Bool) :
    IsElement .bool (displayBool truth).toList (.bool truth) := by
  cases truth <;> exact .bool (by decide)

theorem isDigits_displayInt (n : Int) :
    Integer.IsDigits (Decimal.sign (displayInt n).toList).2 := by
  cases n with
  | ofNat n =>
      rw [Integer.toList_displayInt_ofNat, Integer.sign_toDigits]
      exact Integer.isDigits_toDigits n
  | negSucc n =>
      rw [Integer.toList_displayInt_negSucc]
      exact Integer.isDigits_toDigits (n + 1)

theorem signed_displayInt {n : Int} (read : Integer.signed cs = .ok n) :
    Integer.signed (displayInt n).toList = .ok n := by
  obtain ⟨_, _, range⟩ := Integer.signed_eq_ok_iff.mp read
  exact Integer.signed_eq_ok_iff.mpr ⟨isDigits_displayInt n, Integer.numeral_displayInt n, range⟩

theorem unsigned_displayNat {n : Nat} (read : Integer.unsigned cs = .ok n) :
    Integer.unsigned (displayNat n).toList = .ok n := by
  obtain ⟨_, _, _, range⟩ := Integer.unsigned_eq_ok_iff.mp read
  have plain : (Decimal.sign (displayNat n).toList).1 = false := by
    rw [displayNat, String.toList_ofList, Integer.sign_toDigits]
  exact Integer.unsigned_eq_ok_iff.mpr
    ⟨plain, isDigits_displayInt n, Integer.numeral_displayInt n, range⟩

theorem rereads_of_ofElement (exact : base.isFloating = false)
    (read : ofElement base cs = .ok value) : Rereads base cs value := by
  have isElement := isElement_of_ofElement read
  have origin : ∀ c ∈ trim cs, c ∈ cs := fun c => mem_of_mem_trim
  have tight := tight_trim cs
  generalize trim cs = element at isElement origin tight
  cases isElement with
  | blank => exact rereads_word .blank (List.nil_subset _)
  | text full =>
      have same : (text (String.ofList element)).display.toList = element := String.toList_ofList
      constructor
      · rw [same]
        exact .text full
      · rw [same]
        exact tight
      · rw [same]
        exact fun c listed => .inl (origin c listed)
  | @bool _ truth known =>
      refine rereads_word (isElement_displayBool truth) ?_
      cases truth <;> decide
  | float floating _ _ =>
      rw [exact] at floating
      cases floating
  | @int _ _ n signed number low high =>
      have same : (int (Int64.ofInt n)).display = displayInt n :=
        congrArg displayInt (toInt_ofInt_of_range low high)
      refine rereads_word ?_ ?_
      · rw [same]
        exact .int signed (signed_displayInt number) low high
      · rw [same]
        exact fun _ => mem_wordChars_of_mem_displayInt
  | @uint _ _ n unsigned number high =>
      have same : (uint (UInt64.ofNat n)).display = displayNat n :=
        congrArg displayNat (toNat_ofNat_of_range high)
      refine rereads_word ?_ ?_
      · rw [same]
        exact .uint unsigned (unsigned_displayNat number) high
      · rw [same]
        exact fun _ => mem_wordChars_of_mem_displayInt (n := n)

theorem Rereads.read (rereads : Rereads base cs value) :
    ofElement base value.display.toList = .ok value := by
  refine ofElement_of_isElement ?_
  rw [rereads.tight.trim_eq]
  exact rereads.isElement

/-- What is displayed for a piece is a piece. -/
theorem isPiece_display {p : Char → Bool} (words : wordChars.any p = false)
    (exact : base.isFloating = false) (isPiece : IsPiece p cs)
    (read : ofElement base cs = .ok value) : IsPiece p value.display.toList := by
  have rereads := rereads_of_ofElement exact read
  refine ⟨fun empty => ?_, rereads.tight, fun c listed => ?_⟩
  · have again := rereads.read
    rw [empty, ofElement_blank rfl] at again
    refine ne_null_of_ofElement ?_ read (Except.ok.inj again).symm
    rw [isPiece.tight.trim_eq]
    exact isPiece.full
  · rcases rereads.chars c listed with own | word
    · exact isPiece.plain c own
    · exact eq_false_of_mem_wordChars words word

/-! ## Lists -/

/-- The texts of the elements of a list. -/
def displayedChars (items : List Value) : List (List Char) :=
  items.map fun item => item.display.toList

theorem displayItems_eq_map (items : List Value) : displayItems items = items.map display := by
  induction items with
  | nil => rfl
  | cons item items ih => rw [displayItems, ih, List.map_cons]

theorem isList_of_ofElement (read : ofElement base cs = .ok value) : value.isList = false := by
  have isElement := isElement_of_ofElement read
  generalize trim cs = element at isElement
  cases isElement <;> rfl

theorem any_isList_of_elements (read : AreElements base pieces items) :
    items.any isList = false := by
  rw [List.any_eq_false]
  intro item listed
  obtain ⟨_, _, element⟩ := exists_of_mem_forall₂ read listed
  rw [isList_of_ofElement element]
  exact Bool.false_ne_true

theorem toList_display_list (plain : items.any isList = false) :
    (list items).display.toList = List.intercalate [','] (displayedChars items) := by
  rw [display, plain, displayItems_eq_map, String.toList_intercalate, List.map_map]
  rfl

theorem isPiece_displayedChars {p : Char → Bool} (words : wordChars.any p = false)
    (exact : base.isFloating = false) (isPiece : ∀ piece ∈ pieces, IsPiece p piece)
    (read : AreElements base pieces items) : ∀ text ∈ displayedChars items, IsPiece p text := by
  intro text shown
  obtain ⟨item, listed, rfl⟩ := List.mem_map.mp shown
  obtain ⟨piece, inside, element⟩ := exists_of_mem_forall₂ read listed
  exact isPiece_display words exact (isPiece piece inside) element

theorem areElements_displayedChars (exact : base.isFloating = false)
    (read : AreElements base pieces items) : AreElements base (displayedChars items) items := by
  refine List.forall₂_map_left_iff.mpr (List.forall₂_same.mpr fun item listed => ?_)
  obtain ⟨_, _, element⟩ := exists_of_mem_forall₂ read listed
  exact (rereads_of_ofElement exact element).read

theorem isReadFrom_array_display (exact : base.isFloating = false)
    (read : AreElements base (splitElements cs) items) :
    IsReadFrom (.array base) (list items).display.toList [items.length] (list items) := by
  have isPiece := isPiece_displayedChars (by decide) exact
    (fun _ => CellReport.isPiece_of_mem_splitElements) read
  rw [toList_display_list (any_isList_of_elements read)]
  refine .array ?_
  rw [CellReport.splitElements_intercalate isPiece]
  exact areElements_displayedChars exact read

/-! ## Matrices -/

theorem toList_display_rows (plain : ∀ row ∈ rows, row.any isList = false) :
    (list (rows.map list)).display.toList =
      List.intercalate [';'] ((rows.map displayedChars).map (List.intercalate [','])) := by
  cases rows with
  | nil => rfl
  | cons row rows =>
      have nested : ((row :: rows).map list).any isList = true := rfl
      rw [display, nested, if_pos rfl, displayItems_eq_map, String.toList_intercalate, List.map_map,
        List.map_map, List.map_map]
      exact congrArg _ (List.map_congr_left fun row listed => toList_display_list (plain row listed))

theorem isRow_displayedChars {row : List (List Char)} (exact : base.isFloating = false)
    (isRow : CellReport.IsRow row) (read : AreElements base row items) :
    CellReport.IsRow (displayedChars items) where
  filled empty := by
    have lengths := read.length_eq
    rw [List.map_eq_nil_iff.mp empty] at lengths
    exact isRow.filled (List.length_eq_zero_iff.mp lengths)
  isPiece := isPiece_displayedChars (by decide) exact isRow.isPiece read

/-- Rows that are not empty are read again off their display. -/
theorem isReadFrom_matrix_display {texts : List (List (List Char))}
    (exact : base.isFloating = false) (isRow : ∀ row ∈ texts, CellReport.IsRow row)
    (read : List.Forall₂ (AreElements base) texts rows) :
    IsReadFrom (.matrix base) (list (rows.map list)).display.toList (rows.map List.length)
      (list (rows.map list)) := by
  have plain : ∀ row ∈ rows, row.any isList = false := by
    intro row listed
    obtain ⟨_, _, elements⟩ := exists_of_mem_forall₂ read listed
    exact any_isList_of_elements elements
  have displayed : ∀ row ∈ rows.map displayedChars, CellReport.IsRow row := by
    intro text shown
    obtain ⟨row, listed, rfl⟩ := List.mem_map.mp shown
    obtain ⟨text, inside, elements⟩ := exists_of_mem_forall₂ read listed
    exact isRow_displayedChars exact (isRow text inside) elements
  have again : List.Forall₂ (AreElements base) (rows.map displayedChars) rows := by
    refine List.forall₂_map_left_iff.mpr (List.forall₂_same.mpr fun row listed => ?_)
    obtain ⟨_, _, elements⟩ := exists_of_mem_forall₂ read listed
    exact areElements_displayedChars exact elements
  rw [← CellReport.map_splitElements_splitRows displayed] at again
  rw [toList_display_rows plain]
  exact .matrix (List.forall₂_map_left_iff.mp again)

/-! ## Entries -/

theorem displayEntries_eq_map (entries : List (Value × Value)) :
    displayEntries entries =
      entries.map fun entry => entry.1.display ++ ":" ++ entry.2.display := by
  induction entries with
  | nil => rfl
  | cons entry entries ih => rw [displayEntries, ih, List.map_cons]

/-- The text of an entry. -/
def entryChars (entry : Value × Value) : List Char :=
  entry.1.display.toList ++ ':' :: entry.2.display.toList

theorem toList_display_pairs (entries : List (Value × Value)) :
    (pairs entries).display.toList = List.intercalate [','] (entries.map entryChars) := by
  rw [display, displayEntries_eq_map, String.toList_intercalate, List.map_map]
  refine congrArg _ (List.map_congr_left fun entry _ => ?_)
  simp [entryChars, String.toList_append]

theorem splitPair?_parts {piece keyText valueText : List Char}
    (pair : splitPair? piece = some (keyText, valueText)) :
    (∀ c ∈ keyText, isKeySeparator c = false ∧ c ∈ piece) ∧ ∀ c ∈ valueText, c ∈ piece := by
  obtain ⟨⟨before, after⟩, cut, same⟩ := Option.map_eq_some_iff.mp pair
  obtain ⟨rfl, rfl⟩ := Prod.mk.inj same
  obtain ⟨plain, c, _, rfl⟩ := cut?_eq_some cut
  refine ⟨fun d listed => ⟨plain d (mem_of_mem_trim listed), ?_⟩, fun d listed => ?_⟩
  · exact List.mem_append_left _ (mem_of_mem_trim listed)
  · exact List.mem_append_right _ (List.mem_cons_of_mem _ (mem_of_mem_trim listed))

section Entry

variable {piece : List Char} {entry : Value × Value}
  (keyExact : key.isFloating = false) (valueExact : entryValue.isFloating = false)
  (read : IsEntry key entryValue piece entry)

include keyExact valueExact read

theorem isEntry_entryChars : IsEntry key entryValue (entryChars entry) entry := by
  obtain ⟨keyText, valueText, pair, keyRead, valueRead⟩ := read
  have keyAgain := rereads_of_ofElement keyExact keyRead
  have valueAgain := rereads_of_ofElement valueExact valueRead
  have words : wordChars.any isKeySeparator = false := by decide
  have plain : ∀ c ∈ entry.1.display.toList, isKeySeparator c = false := by
    intro c listed
    rcases keyAgain.chars c listed with own | word
    · exact ((splitPair?_parts pair).1 c own).1
    · exact eq_false_of_mem_wordChars words word
  have cut : cut? (fun c => c == ':' || c == '=') (entryChars entry) =
      some (entry.1.display.toList, entry.2.display.toList) := cut?_append_cons plain rfl
  refine ⟨_, _, ?_, keyAgain.read, valueAgain.read⟩
  simp [splitPair?, cut, keyAgain.tight.trim_eq, valueAgain.tight.trim_eq]

theorem isPiece_entryChars (isPiece : IsPiece CellReport.isDelimiter piece) :
    IsPiece CellReport.isDelimiter (entryChars entry) := by
  obtain ⟨keyText, valueText, pair, keyRead, valueRead⟩ := read
  have keyAgain := rereads_of_ofElement keyExact keyRead
  have valueAgain := rereads_of_ofElement valueExact valueRead
  have words : wordChars.any CellReport.isDelimiter = false := by decide
  have origin := splitPair?_parts pair
  refine ⟨by simp [entryChars], keyAgain.tight.append_cons valueAgain.tight rfl, ?_⟩
  intro c listed
  rcases List.mem_append.mp listed with inKey | later
  · rcases keyAgain.chars c inKey with own | word
    · exact isPiece.plain c (origin.1 c own).2
    · exact eq_false_of_mem_wordChars words word
  · rcases List.mem_cons.mp later with rfl | inValue
    · rfl
    · rcases valueAgain.chars c inValue with own | word
      · exact isPiece.plain c (origin.2 c own)
      · exact eq_false_of_mem_wordChars words word

end Entry

theorem entries_display {entries : List (Value × Value)} (keyExact : key.isFloating = false)
    (valueExact : entryValue.isFloating = false)
    (read : List.Forall₂ (IsEntry key entryValue) (splitEntries cs) entries) :
    List.Forall₂ (IsEntry key entryValue) (splitEntries (pairs entries).display.toList)
      entries := by
  have displayed : ∀ text ∈ entries.map entryChars, IsPiece CellReport.isDelimiter text := by
    intro text shown
    obtain ⟨entry, listed, rfl⟩ := List.mem_map.mp shown
    obtain ⟨piece, inside, isEntry⟩ := exists_of_mem_forall₂ read listed
    exact isPiece_entryChars keyExact valueExact isEntry (mem_trimmedPieces inside).1
  rw [toList_display_pairs, CellReport.splitEntries_intercalate displayed]
  refine List.forall₂_map_left_iff.mpr (List.forall₂_same.mpr fun entry listed => ?_)
  obtain ⟨_, _, isEntry⟩ := exists_of_mem_forall₂ read listed
  exact isEntry_entryChars keyExact valueExact isEntry

/-! ## Cells -/

/-- A normalized matrix cell is read off rows that are not empty. -/
theorem rows_of_normalized {text : String}
    (read : List.Forall₂ (fun row items => AreElements base (splitElements row) items)
      (splitRows (CellReport.ofCell (.matrix base) text).normalized.toList) rows) :
    List.Forall₂ (AreElements base) (CellReport.matrixRows text.toList) rows := by
  have written : (CellReport.ofCell (.matrix base) text).normalized.toList = _ :=
    CellReport.toList_normalized_ofMatrix base text.toList
  rw [written] at read
  rw [← CellReport.map_splitElements_splitRows fun _ => CellReport.isRow_of_mem_matrixRows]
  exact List.forall₂_map_left_iff.mpr read

/-- A value that is read off a normalized cell is read again off its own display, unless it has
floating point parts. -/
theorem ofCell_display {type : FieldType} {text : String}
    (exact : ∀ base ∈ type.bases, base.isFloating = false)
    (read : ofCell type (CellReport.ofCell type text).normalized = .ok value) :
    ofCell type value.display = .ok value := by
  rw [ofCell_eq_ok_iff]
  obtain ⟨widths, pieces⟩ := ofCell_eq_ok_iff.mp read
  cases pieces with
  | scalar element =>
      exact ⟨_, .scalar (rereads_of_ofElement (exact _ List.mem_cons_self) element).read⟩
  | array elements =>
      exact ⟨_, isReadFrom_array_display (exact _ List.mem_cons_self) elements⟩
  | matrix elements =>
      exact ⟨_, isReadFrom_matrix_display (exact _ List.mem_cons_self)
        (fun _ => CellReport.isRow_of_mem_matrixRows) (rows_of_normalized elements)⟩
  | map entries =>
      have value := exact _ (List.mem_cons_of_mem _ List.mem_cons_self)
      exact ⟨_, .map (entries_display (exact _ List.mem_cons_self) value entries)⟩
  | pairs entries =>
      have value := exact _ (List.mem_cons_of_mem _ List.mem_cons_self)
      exact ⟨_, .pairs (entries_display (exact _ List.mem_cons_self) value entries)⟩

/-- An entry without a key, one without a value and two spellings of integers. -/
theorem ofCell_display_gaps :
    let type : FieldType := .map .string .int8
    let value : Value := .pairs [(.text "a", .int 7), (.null, .int 5), (.text "b", .null)]
    (∀ base ∈ type.bases, base.isFloating = false) ∧
      ofCell type (CellReport.ofCell type "a = 07; =+5, b:").normalized = .ok value ∧
      ofCell type value.display = .ok value := by
  have read : ofCell (.map .string .int8)
      (CellReport.ofCell (.map .string .int8) "a = 07; =+5, b:").normalized =
        .ok (.pairs [(.text "a", .int 7), (.null, .int 5), (.text "b", .null)]) := by rfl
  exact ⟨by decide, read, ofCell_display (by decide) read⟩

end Value

end SheetCompiler
