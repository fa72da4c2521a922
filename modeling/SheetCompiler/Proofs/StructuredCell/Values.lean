import Mathlib.Data.List.Forall2
import SheetCompiler.Proofs.StructuredCell.Stability

/-!
# Values of normalized cells

The report on a cell speaks about the value that its normalized text is read as: it has no
fault but repeated keys exactly when there is one, its counts are those of the value, and
the elements of the value are read off the pieces of the text, one by one.
-/

set_option autoImplicit false

namespace SheetCompiler

open Text

theorem mapM_eq_ok_iff {ε α β : Type} {read : α → Except ε β} {items : List α}
    {values : List β} :
    items.mapM read = .ok values ↔
      List.Forall₂ (fun item value => read item = .ok value) items values := by
  induction items generalizing values with
  | nil => cases values <;> simp [pure, Except.pure]
  | cons item items ih =>
      rw [List.mapM_cons]
      cases first : read item with
      | error fault => cases values <;> simp [bind, Except.bind, first]
      | ok value =>
          cases rest : items.mapM read with
          | error fault => cases values <;> simp [bind, Except.bind, first, rest, ← ih]
          | ok others =>
              cases values <;> simp [bind, Except.bind, pure, Except.pure, first, rest, ← ih]

/-- Faults can be told apart by the first letter of their messages. -/
theorem CellFault.head?_message (fault : CellFault) :
    fault.message.toList.head? = some
      (match fault with
        | .invalidElement .. => 'I'
        | .duplicateKey _ => 'D'
        | .missingKey _ => 'E') := by
  have invalid : (toString "Invalid element '").toList.head? = some 'I' := by decide
  have repeated : (toString "Duplicate map key '").toList.head? = some 'D' := by decide
  have missing : (toString "Entry '").toList.head? = some 'E' := by decide
  unfold message
  cases fault with
  | invalidElement element error =>
      dsimp only
      simp [invalid]
  | duplicateKey key =>
      dsimp only
      simp [repeated]
  | missingKey entry =>
      dsimp only
      simp [missing]

theorem CellFault.isRepetition_iff (fault : CellFault) :
    fault.isRepetition = true ↔ ∃ key, fault.message = (CellFault.duplicateKey key).message := by
  cases fault with
  | duplicateKey key => exact ⟨fun _ => ⟨key, rfl⟩, fun _ => rfl⟩
  | invalidElement element error =>
      refine ⟨nofun, ?_⟩
      rintro ⟨key, same⟩
      have initials := congrArg (fun text : String => text.toList.head?) same
      simp [head?_message] at initials
  | missingKey entry =>
      refine ⟨nofun, ?_⟩
      rintro ⟨key, same⟩
      have initials := congrArg (fun text : String => text.toList.head?) same
      simp [head?_message] at initials

namespace Value

/-- The value of an entry by its key and its value. -/
def IsEntry (key value : BaseType) (piece : List Char) (entry : Value × Value) : Prop :=
  ∃ keyText valueText, splitPair? piece = some (keyText, valueText) ∧
    ofElement key keyText = .ok entry.1 ∧ ofElement value valueText = .ok entry.2

/-- The value of a text that is read piece by piece, with its counts of elements. -/
inductive IsReadFrom : FieldType → List Char → List Nat → Value → Prop where
  | scalar {base : BaseType} {cs : List Char} {value : Value} :
      ofElement base cs = .ok value → IsReadFrom (.scalar base) cs [] value
  | array {base : BaseType} {cs : List Char} {items : List Value} :
      List.Forall₂ (fun piece item => ofElement base piece = .ok item) (splitElements cs) items →
      IsReadFrom (.array base) cs [items.length] (.list items)
  | matrix {base : BaseType} {cs : List Char} {rows : List (List Value)} :
      List.Forall₂
        (fun row items => List.Forall₂ (fun piece item => ofElement base piece = .ok item)
          (splitElements row) items)
        (splitRows cs) rows →
      IsReadFrom (.matrix base) cs (rows.map List.length) (.list (rows.map .list))
  | map {key value : BaseType} {cs : List Char} {entries : List (Value × Value)} :
      List.Forall₂ (IsEntry key value) (splitEntries cs) entries →
      IsReadFrom (.map key value) cs [entries.length] (.pairs entries)
  | pairs {key value : BaseType} {cs : List Char} {entries : List (Value × Value)} :
      List.Forall₂ (IsEntry key value) (splitEntries cs) entries →
      IsReadFrom (.pairs key value) cs [entries.length] (.pairs entries)

/-! ## Reading piece by piece -/

variable {base key entryValue : BaseType} {cs : List Char} {value : Value}

theorem exists_items_of_ofArray (read : ofArray base cs = .ok value) :
    ∃ items, value = .list items ∧
      List.Forall₂ (fun piece item => ofElement base piece = .ok item) (splitElements cs) items := by
  obtain ⟨items, all, rfl⟩ := exists_of_map_eq_ok read
  exact ⟨items, rfl, mapM_eq_ok_iff.mp all⟩

theorem exists_rows_of_forall₂ {pieces : List (List Char)} {values : List Value}
    (read : List.Forall₂ (fun piece value => ofArray base piece = .ok value) pieces values) :
    ∃ rows : List (List Value), values = rows.map .list ∧
      List.Forall₂
        (fun row items => List.Forall₂ (fun piece item => ofElement base piece = .ok item)
          (splitElements row) items) pieces rows := by
  induction read with
  | nil => exact ⟨[], rfl, .nil⟩
  | cons first _ ih =>
      obtain ⟨items, rfl, elements⟩ := exists_items_of_ofArray first
      obtain ⟨rows, rfl, others⟩ := ih
      exact ⟨items :: rows, rfl, .cons elements others⟩

theorem isEntry_of_ofEntry {piece : List Char} {entry : Value × Value}
    (read : ofEntry key entryValue piece = .ok entry) : IsEntry key entryValue piece entry := by
  unfold ofEntry at read
  cases pair : splitPair? piece with
  | none =>
      rw [pair] at read
      cases read
  | some parts =>
      rw [pair] at read
      cases first : ofElement key parts.1 with
      | error fault => simp [first, bind, Except.bind] at read
      | ok keyRead =>
          cases second : ofElement entryValue parts.2 with
          | error fault => simp [first, second, bind, Except.bind] at read
          | ok valueRead =>
              simp [first, second, bind, Except.bind, pure, Except.pure] at read
              subst read
              exact ⟨parts.1, parts.2, pair, first, second⟩

theorem exists_entries_of_ofEntries (read : ofEntries key entryValue cs = .ok value) :
    ∃ entries, value = .pairs entries ∧
      List.Forall₂ (IsEntry key entryValue) (splitEntries cs) entries := by
  obtain ⟨entries, all, rfl⟩ := exists_of_map_eq_ok read
  exact ⟨entries, rfl, (mapM_eq_ok_iff.mp all).imp fun _ _ => isEntry_of_ofEntry⟩

end Value

namespace CellReport

theorem length_entries (unique : Bool) (key value : BaseType) (seen items : List (List Char)) :
    (entries unique key value seen items).length = items.length := by
  have texts := congrArg List.length (entries_texts unique key value seen items)
  simpa using texts

theorem exists_entries_of_ofEntries (unique : Bool) {key entryValue : BaseType}
    {cs : List Char} {value : Value} (read : Value.ofEntries key entryValue cs = .ok value) :
    ∃ entries, value = .pairs entries ∧
      List.Forall₂ (Value.IsEntry key entryValue) (splitEntries cs) entries ∧
      (ofEntries unique key entryValue cs).widths = [entries.length] := by
  obtain ⟨entries, rfl, pieces⟩ := Value.exists_entries_of_ofEntries read
  refine ⟨entries, rfl, pieces, ?_⟩
  simp [ofEntries, length_entries, pieces.length_eq]

theorem length_of_forall₂_rows {base : BaseType} {pieces : List (List Char)}
    {rows : List (List Value)}
    (read : List.Forall₂
      (fun row items => List.Forall₂ (fun piece item => Value.ofElement base piece = .ok item)
        (splitElements row) items) pieces rows) :
    (pieces.map splitElements).map List.length = rows.map List.length := by
  induction read with
  | nil => rfl
  | cons first _ ih => simp_all [first.length_eq]

/-- The report on a text in normal form counts what the text is read as. -/
theorem isReadFrom_of_isNormal {type : FieldType} {text : String} {value : Value}
    (normal : IsNormal type text.toList) (visible : isBlankText text = false)
    (read : Value.ofCell type text = .ok value) :
    Value.IsReadFrom type text.toList (ofCell type text).widths value := by
  unfold Value.ofCell at read
  dsimp only at read
  rw [isBlankText] at visible
  rw [visible, if_neg Bool.false_ne_true] at read
  unfold ofCell
  generalize text.toList = cs at normal read ⊢
  cases normal with
  | scalar _ => exact .scalar read
  | @array base elements _ =>
      obtain ⟨items, rfl, pieces⟩ := Value.exists_items_of_ofArray read
      have counts : (ofArray base (List.intercalate [','] elements)).widths = [items.length] := by
        simp [ofArray, pieces.length_eq]
      simp only [counts]
      exact .array pieces
  | @matrix base rows isRow =>
      obtain ⟨values, all, rfl⟩ := exists_of_map_eq_ok read
      obtain ⟨items, rfl, pieces⟩ := Value.exists_rows_of_forall₂ (mapM_eq_ok_iff.mp all)
      have lengths := length_of_forall₂_rows pieces
      rw [map_splitElements_splitRows isRow] at lengths
      have counts : (ofMatrix base
          (List.intercalate [';'] (rows.map (List.intercalate [','])))).widths =
            items.map List.length :=
        (congrArg (List.map List.length) (matrixRows_intercalate isRow)).trans lengths
      simp only [counts]
      exact .matrix pieces
  | map normal =>
      obtain ⟨entries, rfl, pieces, counts⟩ := exists_entries_of_ofEntries true read
      simp only [counts]
      exact .map pieces
  | pairs normal =>
      obtain ⟨entries, rfl, pieces, counts⟩ := exists_entries_of_ofEntries false read
      simp only [counts]
      exact .pairs pieces

/-! ## Blank cells -/

theorem normalized_blank (type : FieldType) : (ofCell type "").normalized = "" := by
  cases type <;> rfl

theorem faults_blank (type : FieldType) : (ofCell type "").faults = [] := by
  cases type <;> rfl

theorem isReadFrom_blank (type : FieldType) :
    Value.IsReadFrom type [] (ofCell type "").widths (Value.ofBlank type) := by
  cases type with
  | scalar base => exact .scalar rfl
  | array base => exact @Value.IsReadFrom.array base [] [] .nil
  | matrix base => exact @Value.IsReadFrom.matrix base [] [] .nil
  | map key value => exact @Value.IsReadFrom.map key value [] [] .nil
  | pairs key value => exact @Value.IsReadFrom.pairs key value [] [] .nil

/-! ## Normalized cells -/

theorem isOk_normalized (type : FieldType) (text : String) :
    (Value.ofCell type (ofCell type text).normalized).isOk =
      (ofCell type text).faults.all CellFault.isRepetition := by
  cases blank : isBlankText (ofCell type text).normalized with
  | false => exact isOk_ofCell_normalized type text blank
  | true =>
      rw [ofCell_eq_of_blank blank, normalized_blank, faults_blank]
      rfl

theorem isReadFrom_normalized {type : FieldType} {text : String} {value : Value}
    (read : Value.ofCell type (ofCell type text).normalized = .ok value) :
    Value.IsReadFrom type (ofCell type text).normalized.toList (ofCell type text).widths value := by
  cases blank : isBlankText (ofCell type text).normalized with
  | false =>
      have result := isReadFrom_of_isNormal (isNormal_normalized type text) blank read
      rwa [congrArg CellReport.widths (ofCell_normalized type text)] at result
  | true =>
      rw [ofCell_eq_of_blank blank, normalized_blank] at read ⊢
      cases read
      exact isReadFrom_blank type

/-- The normalized text of a cell can be read exactly when the report on the cell tells of
nothing but repeated keys. The value then has as many elements as the report counts, each read
off its own piece of the text. -/
theorem values_normalized (type : FieldType) (text : String) :
    let report := ofCell type text
    let result := Value.ofCell type report.normalized
    ((∃ value, result = .ok value) ↔
        ∀ fault ∈ report.faults, ∃ key, fault.message = (CellFault.duplicateKey key).message) ∧
      ∀ value, result = .ok value →
        Value.IsReadFrom type report.normalized.toList report.widths value := by
  refine ⟨?_, fun value => isReadFrom_normalized⟩
  have verdict := isOk_normalized type text
  constructor
  · rintro ⟨value, read⟩ fault listed
    rw [read] at verdict
    have all := List.all_eq_true.mp verdict.symm
    exact fault.isRepetition_iff.mp (all fault listed)
  · intro repeated
    have all : (ofCell type text).faults.all CellFault.isRepetition = true :=
      List.all_eq_true.mpr fun fault listed => fault.isRepetition_iff.mpr (repeated fault listed)
    rw [all] at verdict
    cases read : Value.ofCell type (ofCell type text).normalized with
    | ok value => exact ⟨value, rfl⟩
    | error fault =>
        rw [read] at verdict
        cases verdict

theorem values_normalized_ragged :
    let report := ofCell (.matrix .int32) "1, 2 ; , ; 3"
    ∃ value, Value.ofCell (.matrix .int32) report.normalized = .ok value ∧
      Value.IsReadFrom (.matrix .int32) report.normalized.toList [2, 1] value := by
  obtain ⟨verdict, shape⟩ := values_normalized (.matrix .int32) "1, 2 ; , ; 3"
  have sound : (ofCell (.matrix .int32) "1, 2 ; , ; 3").faults = [] := by decide
  have counts : (ofCell (.matrix .int32) "1, 2 ; , ; 3").widths = [2, 1] := by decide
  obtain ⟨value, read⟩ := verdict.mpr (by simp [sound])
  rw [counts] at shape
  exact ⟨value, read, shape value read⟩

end CellReport

end SheetCompiler
