import Mathlib.Algebra.Group.Int.Defs
import Mathlib.Algebra.Group.Nat.Defs
import SheetCompiler.Proofs.StructuredCell.Values

/-!
# Types of values

A cell is read piece by piece, and the value belongs to the declared type: numbers lie in the
range of their width, texts are trimmed and not empty, and only keys and values of entries, or
a whole cell, can be null.
-/

set_option autoImplicit false

namespace SheetCompiler

open Text

theorem exists_of_mem_forall₂ {α β : Type} {related : α → β → Prop} {items : List α}
    {values : List β} (all : List.Forall₂ related items values) {value : β}
    (listed : value ∈ values) : ∃ item ∈ items, related item value := by
  induction all with
  | nil => cases listed
  | cons first _ ih =>
      rcases List.mem_cons.mp listed with rfl | later
      · exact ⟨_, List.mem_cons_self, first⟩
      · obtain ⟨item, inside, same⟩ := ih later
        exact ⟨item, List.mem_cons_of_mem _ inside, same⟩

namespace BaseType

def signedBits? : BaseType → Option Nat
  | .int8 => some 8
  | .int16 => some 16
  | .int32 => some 32
  | .int64 => some 64
  | _ => none

def unsignedBits? : BaseType → Option Nat
  | .uint8 => some 8
  | .uint16 => some 16
  | .uint32 => some 32
  | .uint64 => some 64
  | _ => none

end BaseType

namespace Value

/-- A value of a base type; null is none. -/
inductive IsScalar : BaseType → Value → Prop where
  | text {text : String} : text ≠ "" → trimmed text = text → IsScalar .string (.text text)
  | bool {value : Bool} : IsScalar .bool (.bool value)
  | float {base : BaseType} {x : Binary64} :
      base.isFloating = true → fitsPrecision base x = true → IsScalar base (.float x)
  | int {base : BaseType} {bits : Nat} {n : Int64} :
      base.signedBits? = some bits → -(2 ^ (bits - 1)) ≤ n.toInt → n.toInt < 2 ^ (bits - 1) →
      IsScalar base (.int n)
  | uint {base : BaseType} {bits : Nat} {n : UInt64} :
      base.unsignedBits? = some bits → n.toNat < 2 ^ bits → IsScalar base (.uint n)

/-- A key or a value of an entry, which may be missing. -/
def IsScalarOrNull (base : BaseType) (value : Value) : Prop :=
  value = .null ∨ IsScalar base value

inductive HasType : FieldType → Value → Prop where
  | scalar {base : BaseType} {value : Value} : IsScalar base value → HasType (.scalar base) value
  | array {base : BaseType} {items : List Value} :
      (∀ item ∈ items, IsScalar base item) → HasType (.array base) (.list items)
  | matrix {base : BaseType} {rows : List (List Value)} :
      (∀ row ∈ rows, ∀ item ∈ row, IsScalar base item) →
      HasType (.matrix base) (.list (rows.map .list))
  | map {key value : BaseType} {entries : List (Value × Value)} :
      (∀ entry ∈ entries, IsScalarOrNull key entry.1 ∧ IsScalarOrNull value entry.2) →
      HasType (.map key value) (.pairs entries)
  | pairs {key value : BaseType} {entries : List (Value × Value)} :
      (∀ entry ∈ entries, IsScalarOrNull key entry.1 ∧ IsScalarOrNull value entry.2) →
      HasType (.pairs key value) (.pairs entries)

variable {base key entryValue : BaseType} {type : FieldType} {cs : List Char} {widths : List Nat}
  {value : Value}

/-! ## Elements -/

theorem exists_signedBits (signed : base.isSigned = true) :
    ∃ bits, base.signedBits? = some bits ∧ (signedRange base).1 = -(2 ^ (bits - 1)) ∧
      (signedRange base).2 + 1 = 2 ^ (bits - 1) := by
  cases base <;> first | exact ⟨_, rfl, rfl, by decide⟩ | cases signed

theorem exists_unsignedBits (unsigned : base.isUnsigned = true) :
    ∃ bits, base.unsignedBits? = some bits ∧ unsignedMax base + 1 = 2 ^ bits := by
  cases base <;> first | exact ⟨_, rfl, by decide⟩ | cases unsigned

theorem IsElement.isScalar (isElement : IsElement base cs value) (full : cs ≠ [])
    (tight : trim cs = cs) : IsScalar base value := by
  cases isElement with
  | blank => exact absurd rfl full
  | text _ =>
      refine .text (fun empty => full ?_) ?_
      · simpa using congrArg String.toList empty
      · rw [trimmed, String.toList_ofList, tight]
  | bool _ => exact .bool
  | float floating _ fits => exact .float floating fits
  | int signed _ low high =>
      obtain ⟨bits, declared, least, greatest⟩ := exists_signedBits signed
      have value := toInt_ofInt_of_range low high
      exact .int declared (by omega) (by omega)
  | uint unsigned _ high =>
      obtain ⟨bits, declared, greatest⟩ := exists_unsignedBits unsigned
      have value := toNat_ofNat_of_range high
      exact .uint declared (by omega)

theorem isScalar_of_ofElement (full : trim cs ≠ []) (read : ofElement base cs = .ok value) :
    IsScalar base value :=
  (isElement_of_ofElement read).isScalar full (trim_trim cs)

theorem isScalarOrNull_of_ofElement (read : ofElement base cs = .ok value) :
    IsScalarOrNull base value := by
  by_cases full : trim cs = []
  · rw [ofElement_blank full] at read
    exact .inl (Except.ok.inj read).symm
  · exact .inr (isScalar_of_ofElement full read)

/-! ## Cells -/

/-- Values that pieces are read as, one by one. -/
abbrev AreElements (base : BaseType) : List (List Char) → List Value → Prop :=
  List.Forall₂ fun piece item => ofElement base piece = .ok item

theorem map_eq_ok_iff {ε α β : Type} {change : α → β} {result : Except ε α} {value : β} :
    result.map change = .ok value ↔ ∃ inner, result = .ok inner ∧ change inner = value := by
  constructor
  · exact exists_of_map_eq_ok
  · rintro ⟨inner, rfl, rfl⟩
    rfl

theorem ofArray_eq_ok_iff :
    ofArray base cs = .ok value ↔
      ∃ items, AreElements base (splitElements cs) items ∧ .list items = value := by
  simp only [ofArray, map_eq_ok_iff, mapM_eq_ok_iff]

theorem ofEntry_eq_ok_iff {piece : List Char} {entry : Value × Value} :
    ofEntry key entryValue piece = .ok entry ↔ IsEntry key entryValue piece entry := by
  constructor
  · exact isEntry_of_ofEntry
  · rintro ⟨keyText, valueText, pair, keyRead, valueRead⟩
    simp [ofEntry, pair, keyRead, valueRead, bind, Except.bind, pure, Except.pure]

theorem ofEntries_eq_ok_iff :
    ofEntries key entryValue cs = .ok value ↔
      ∃ entries, List.Forall₂ (IsEntry key entryValue) (splitEntries cs) entries ∧
        .pairs entries = value := by
  simp only [ofEntries, map_eq_ok_iff, mapM_eq_ok_iff, ofEntry_eq_ok_iff]

theorem ofMatrix_eq_ok_iff :
    ((splitRows cs).mapM (ofArray base)).map list = .ok value ↔
      ∃ rows : List (List Value),
        List.Forall₂ (fun row items => AreElements base (splitElements row) items) (splitRows cs)
          rows ∧
        .list (rows.map .list) = value := by
  rw [map_eq_ok_iff]
  constructor
  · rintro ⟨values, read, rfl⟩
    obtain ⟨rows, rfl, pieces⟩ := exists_rows_of_forall₂ (mapM_eq_ok_iff.mp read)
    exact ⟨rows, pieces, rfl⟩
  · rintro ⟨rows, pieces, rfl⟩
    refine ⟨_, mapM_eq_ok_iff.mpr (List.forall₂_map_right_iff.mpr ?_), rfl⟩
    exact pieces.imp fun row items read => ofArray_eq_ok_iff.mpr ⟨items, read, rfl⟩

/-- A blank text has no pieces. -/
theorem trimmedPieces_blank {p : Char → Bool} (blank : cs.all isBlank = true) :
    trimmedPieces p cs = [] := by
  refine List.eq_nil_iff_forall_not_mem.mpr fun piece listed => ?_
  obtain ⟨isPiece, inside⟩ := mem_trimmedPieces listed
  have blanks : piece.all isBlank = true :=
    List.all_eq_true.mpr fun c member => List.all_eq_true.mp blank c (inside c member)
  exact isPiece.full (isPiece.tight.trim_eq.symm.trans (trim_eq_nil_iff.mpr blanks))

theorem ofBlank_eq_iff (blank : cs.all isBlank = true) :
    ofBlank type = value ↔ ∃ widths, IsReadFrom type cs widths value := by
  have elements : splitElements cs = [] := trimmedPieces_blank blank
  have rows : splitRows cs = [] := trimmedPieces_blank blank
  have entries : splitEntries cs = [] := trimmedPieces_blank blank
  constructor
  · rintro rfl
    cases type with
    | scalar base => exact ⟨_, .scalar (ofElement_blank (trim_eq_nil_iff.mpr blank))⟩
    | array base => exact ⟨_, @IsReadFrom.array base cs [] (elements ▸ .nil)⟩
    | matrix base => exact ⟨_, @IsReadFrom.matrix base cs [] (rows ▸ .nil)⟩
    | map key entryValue => exact ⟨_, @IsReadFrom.map key entryValue cs [] (entries ▸ .nil)⟩
    | pairs key entryValue => exact ⟨_, @IsReadFrom.pairs key entryValue cs [] (entries ▸ .nil)⟩
  · rintro ⟨widths, read⟩
    cases read with
    | scalar read =>
        rw [ofElement_blank (trim_eq_nil_iff.mpr blank)] at read
        exact Except.ok.inj read
    | array pieces =>
        rw [elements] at pieces
        cases pieces
        rfl
    | matrix pieces =>
        rw [rows] at pieces
        cases pieces
        rfl
    | map pieces | pairs pieces =>
        rw [entries] at pieces
        cases pieces
        rfl

/-- The rules of `IsReadFrom` are what reading a cell does. -/
theorem ofCell_eq_ok_iff {text : String} :
    ofCell type text = .ok value ↔ ∃ widths, IsReadFrom type text.toList widths value := by
  unfold ofCell
  dsimp only
  split
  · rename_i blank
    rw [Except.ok.injEq, ofBlank_eq_iff blank]
  · constructor
    · intro read
      cases type with
      | scalar base => exact ⟨_, .scalar read⟩
      | array base =>
          obtain ⟨items, pieces, rfl⟩ := ofArray_eq_ok_iff.mp read
          exact ⟨_, .array pieces⟩
      | matrix base =>
          obtain ⟨rows, pieces, rfl⟩ := ofMatrix_eq_ok_iff.mp read
          exact ⟨_, .matrix pieces⟩
      | map key entryValue =>
          obtain ⟨entries, pieces, rfl⟩ := ofEntries_eq_ok_iff.mp read
          exact ⟨_, .map pieces⟩
      | pairs key entryValue =>
          obtain ⟨entries, pieces, rfl⟩ := ofEntries_eq_ok_iff.mp read
          exact ⟨_, .pairs pieces⟩
    · rintro ⟨_, read⟩
      cases read with
      | scalar read => exact read
      | array pieces => exact ofArray_eq_ok_iff.mpr ⟨_, pieces, rfl⟩
      | matrix pieces => exact ofMatrix_eq_ok_iff.mpr ⟨_, pieces, rfl⟩
      | map pieces | pairs pieces => exact ofEntries_eq_ok_iff.mpr ⟨_, pieces, rfl⟩

/-! ## Typed cells -/

theorem isScalar_of_elements {items : List Value}
    (read : AreElements base (splitElements cs) items) : ∀ item ∈ items, IsScalar base item := by
  intro item listed
  obtain ⟨piece, inside, element⟩ := exists_of_mem_forall₂ read listed
  have isPiece := CellReport.isPiece_of_mem_splitElements inside
  refine isScalar_of_ofElement ?_ element
  rw [isPiece.tight.trim_eq]
  exact isPiece.full

theorem isScalarOrNull_of_entries {texts : List (List Char)} {entries : List (Value × Value)}
    (read : List.Forall₂ (IsEntry key entryValue) texts entries) :
    ∀ entry ∈ entries, IsScalarOrNull key entry.1 ∧ IsScalarOrNull entryValue entry.2 := by
  intro entry listed
  obtain ⟨_, _, _, _, _, keyRead, valueRead⟩ := exists_of_mem_forall₂ read listed
  exact ⟨isScalarOrNull_of_ofElement keyRead, isScalarOrNull_of_ofElement valueRead⟩

theorem IsReadFrom.null_or_hasType (read : IsReadFrom type cs widths value) :
    value = .null ∨ HasType type value := by
  cases read with
  | scalar read => exact (isScalarOrNull_of_ofElement read).imp id .scalar
  | array pieces => exact .inr (.array (isScalar_of_elements pieces))
  | matrix pieces =>
      refine .inr (.matrix fun row listed => ?_)
      obtain ⟨text, _, elements⟩ := exists_of_mem_forall₂ pieces listed
      exact isScalar_of_elements elements
  | map pieces => exact .inr (.map (isScalarOrNull_of_entries pieces))
  | pairs pieces => exact .inr (.pairs (isScalarOrNull_of_entries pieces))

theorem null_or_hasType_of_ofCell {text : String} (read : ofCell type text = .ok value) :
    value = .null ∨ HasType type value := by
  obtain ⟨_, pieces⟩ := ofCell_eq_ok_iff.mp read
  exact pieces.null_or_hasType

end Value

end SheetCompiler
