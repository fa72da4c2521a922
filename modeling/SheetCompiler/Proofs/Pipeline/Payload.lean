import Mathlib.Data.List.Forall2
import Mathlib.Data.List.Nodup
import SheetCompiler.Proofs.Pipeline.Success
import SheetCompiler.Proofs.Record.RoundTrip
import SheetCompiler.Proofs.Schema.Resolved
import SheetCompiler.Proofs.Sheet.Normalization
import SheetCompiler.Proofs.StructuredCell.Agreement

/-!
# What the payload holds

The faults of the cells are found before localization and the values are read after
it. They still agree: a visible cell is stored as null exactly when it was reported
with a fault that is not a repeated key.
-/

set_option autoImplicit false

namespace SheetCompiler

namespace Standard

variable {settings : StandardSettings} {nameSpace : String} {sheet source : Sheet}
  {schema resolved : Schema} {diagnostics : List Diagnostic} {moved : LocalizedTable}
  {field : Field} {row column : Nat}

/-! ## Reported cells -/

/-- A cell is reported with a fault that keeps it from having a value. -/
def IsUnreadable (errors : List CellError) (row column : Nat) : Prop :=
  ∃ error ∈ errors, error.row = row ∧ error.column = column ∧
    error.fault.isRepetition = false

theorem mem_cellErrors_iff (distinct : (schema.fields.map (·.column)).Nodup)
    {error : CellError} :
    error ∈ cellErrors schema source ↔
      ∃ field ∈ schema.fields, ∃ row, Sheet.headerRows ≤ row ∧ row < source.rowCount ∧
        error ∈ field.cellErrors row (source.cell row field.column) := by
  rw [cellErrors, Sheet.errors_normalizeFields source distinct, List.mem_flatMap]
  constructor
  · rintro ⟨field, member, listed⟩
    obtain ⟨⟨row, text⟩, present, inside⟩ := List.mem_flatMap.mp listed
    obtain ⟨data, bound, rfl⟩ := Sheet.mem_columnTexts.mp present
    exact ⟨field, member, row, data, bound, inside⟩
  · rintro ⟨field, member, row, data, bound, inside⟩
    exact ⟨field, member, List.mem_flatMap.mpr
      ⟨(row, source.cell row field.column), Sheet.mem_columnTexts.mpr ⟨data, bound, rfl⟩, inside⟩⟩

theorem isUnreadable_cellErrors_iff (distinct : (schema.fields.map (·.column)).Nodup)
    (member : field ∈ schema.fields) (data : Sheet.headerRows ≤ row)
    (bound : row < source.rowCount) :
    IsUnreadable (cellErrors schema source) row field.column ↔
      (field.reportOn (source.cell row field.column)).faults.all CellFault.isRepetition =
        false := by
  constructor
  · rintro ⟨error, listed, rfl, column, serious⟩
    obtain ⟨other, present, row, -, -, inside⟩ := (mem_cellErrors_iff distinct).mp listed
    obtain ⟨fault, found, rfl⟩ := List.mem_map.mp inside
    obtain rfl := List.inj_on_of_nodup_map distinct present member column
    exact List.all_eq_false.mpr ⟨fault, found, by rw [serious]; exact Bool.false_ne_true⟩
  · intro serious
    obtain ⟨fault, found, fails⟩ := List.all_eq_false.mp serious
    have listed : (⟨field.name, row, field.column,
        field.sourceText (source.cell row field.column), fault⟩ : CellError) ∈
          cellErrors schema source :=
      (mem_cellErrors_iff distinct).mpr
        ⟨field, member, row, data, bound, List.mem_map.mpr ⟨fault, found, rfl⟩⟩
    exact ⟨_, listed, rfl, rfl, Bool.eq_false_iff.mpr fails⟩

/-! ## Moved texts -/

theorem localizesText_countCells (text : field.LocalizesText) (texts : List String) :
    (field.countCells texts).LocalizesText := by
  intro localized
  refine text ?_
  change field.kind.updateStats _ = .localized at localized
  cases kind : field.kind with
  | localized => rfl
  | plain | reference _ | array _ | matrix _ | map _ _ =>
      rw [kind] at localized
      cases localized

theorem localizesText_markReference (known : KnownTypes) (text : field.LocalizesText) :
    (markReference known field).LocalizesText := by
  unfold markReference
  split
  · nofun
  · exact text

theorem localizesText_normalized {known : KnownTypes}
    (texts : ∀ field ∈ schema.fields, field.LocalizesText) :
    ∀ field ∈ (normalized known schema source).1.fields, field.LocalizesText := by
  intro field member
  obtain ⟨counted, present, rfl⟩ := List.mem_map.mp member
  obtain ⟨index, bound, rfl⟩ := List.getElem_of_mem present
  have paired := Sheet.fields_normalizeFields source schema.fields
  have within : index < schema.fields.length := by
    rw [paired.length_eq]
    exact bound
  obtain ⟨_, same⟩ := paired.get within bound
  rw [List.get_eq_getElem, List.get_eq_getElem] at same
  rw [same]
  exact localizesText_markReference known
    (localizesText_countCells (texts _ (List.getElem_mem within)) _)

theorem type_of_detects {rules : LocalizationRules} (text : field.LocalizesText)
    (detected : rules.detects sheet field = true) : field.type = FieldType.text := by
  unfold LocalizationRules.detects at detected
  split at detected
  · rename_i localized
    exact text localized
  · rw [Bool.and_eq_true, Bool.and_eq_true] at detected
    exact eq_of_beq detected.1.2
  · cases detected

/-- Only columns of plain texts are moved, as long as the names of the fields differ. -/
theorem IsMoved.type_eq (moves : IsMoved settings schema sheet column)
    (names : schema.fieldNames.Nodup) (texts : ∀ field ∈ schema.fields, field.LocalizesText) :
    ∃ field ∈ schema.fields, field.column = column ∧ field.type = FieldType.text := by
  obtain ⟨-, rules, -, name, detected, located⟩ := moves
  obtain ⟨field, kept, rfl⟩ := List.mem_map.mp detected
  obtain ⟨member, detects⟩ := List.mem_filter.mp kept
  obtain ⟨other, found, rfl⟩ := Option.map_eq_some_iff.mp located
  have same : other.name = field.name := by
    have matching := List.find?_some found
    exact eq_of_beq matching
  obtain rfl := List.inj_on_of_nodup_map names (List.mem_of_find?_eq_some found) member same
  exact ⟨other, member, rfl, type_of_detects (texts other member) detects⟩

/-! ## Stored cells -/

/-- The normalized text of a field that is not moved. -/
theorem textIn_of_not_moved
    (resolves : Schema.ofSheet source nameSpace = .ok (resolved, diagnostics))
    (completes : processed settings resolved source = .ok moved)
    (member : field ∈ resolved.fields)
    (stays : ¬ IsMoved settings (normalized settings.known resolved source).1
      (normalized settings.known resolved source).2 field.column)
    (data : Sheet.headerRows ≤ row) :
    moved.sheet.cell? row field.column =
      (source.cell? row field.column).map fun text => (field.reportOn text).normalized := by
  have distinct := Schema.columns_nodup resolves
  have frame := (localized_frame completes).sheet.cell? row field.column stays
  exact frame.trans (Sheet.cell?_normalizeFields source distinct member data)

theorem rowCount_processed (completes : processed settings resolved source = .ok moved) :
    moved.sheet.rowCount = source.rowCount :=
  (localized_frame completes).sheet.rowCount.trans
    (Sheet.agreeOff_normalizeFields source resolved.fields).rowCount

theorem type_of_moved (resolves : Schema.ofSheet source nameSpace = .ok (resolved, diagnostics))
    (names : resolved.fieldNames.Nodup) (member : field ∈ resolved.fields)
    (moves : IsMoved settings (normalized settings.known resolved source).1
      (normalized settings.known resolved source).2 field.column) :
    field.type = FieldType.text := by
  have outline := outline_normalized settings.known resolved source
  rw [← Schema.fieldNames_eq_of_outline outline] at names
  obtain ⟨marked, present, located, plain⟩ :=
    moves.type_eq names (localizesText_normalized (Schema.localizesText resolves))
  obtain ⟨origin, original, same⟩ := Field.exists_outline outline present
  have column := (Field.column_eq_of_outline same).trans located
  obtain rfl := List.inj_on_of_nodup_map (Schema.columns_nodup resolves) original member column
  rw [Field.type_eq_of_outline same, plain]

/-- A visible cell of a processed table can be read unless it was reported with a fault that
is not a repeated key. -/
theorem valueIn_fails_iff
    (resolves : Schema.ofSheet source nameSpace = .ok (resolved, diagnostics))
    (completes : processed settings resolved source = .ok moved)
    (names : resolved.fieldNames.Nodup) (member : field ∈ moved.schema.fields)
    {cells : List String} (present : (row, cells) ∈ moved.sheet.dataRows)
    (visible : Text.isBlankText (field.textIn cells) = false) :
    (field.valueIn cells).isOk = false ↔
      IsUnreadable (cellErrors resolved source) row field.column := by
  obtain ⟨data, located⟩ := Sheet.mem_dataRows.mp present
  have bound : row < source.rowCount := by
    rw [← rowCount_processed completes]
    exact (List.getElem?_eq_some_iff.mp located).1
  have outline := outline_processed completes
  have distinct := Schema.columns_nodup resolves
  obtain ⟨origin, original, same⟩ := Field.exists_outline outline member
  have column := Field.column_eq_of_outline same
  have type := Field.type_eq_of_outline same
  have text : field.textIn cells = moved.sheet.cell row field.column :=
    (Sheet.cell_eq located).symm
  rw [← column, isUnreadable_cellErrors_iff distinct original data bound, Field.valueIn, text,
    ← column, ← type]
  rw [text, ← column] at visible
  -- a moved cell is a plain text, which can be read before and after it is moved; any other
  -- cell keeps the text that its report was made for
  by_cases moves : IsMoved settings (normalized settings.known resolved source).1
    (normalized settings.known resolved source).2 origin.column
  · have plain := type_of_moved resolves names original moves
    rw [plain, Value.isOk_ofCell_text, Field.reportOn, plain, CellReport.faults_text]
    rfl
  · have read := textIn_of_not_moved resolves completes original moves data
    cases inside : source.cell? row origin.column with
    | none =>
        rw [inside] at read
        rw [show moved.sheet.cell row origin.column = "" from congrArg (Option.getD · "") read]
          at visible
        cases visible
    | some before =>
        rw [inside] at read
        have after : moved.sheet.cell row origin.column = (origin.reportOn before).normalized :=
          congrArg (Option.getD · "") read
        rw [show source.cell row origin.column = before from congrArg (Option.getD · "") inside,
          after]
        rw [after] at visible
        have agrees := CellReport.isOk_ofCell_normalized origin.type (origin.sourceText before)
          visible
        exact iff_of_eq (congrArg (· = false) agrees)

/-- A visible cell is stored as null when it was reported with a fault that keeps it from
having a value, and as the value of its text otherwise. -/
def IsFaithful (errors : List CellError) (row : Nat) (cells : List String) (field : Field)
    (value : Value) : Prop :=
  Text.isBlankText (field.textIn cells) = false →
    (value = .null ↔ IsUnreadable errors row field.column) ∧
    (value ≠ .null → Value.ofCell field.type (field.textIn cells) = .ok value)

theorem storedIn_faithful
    (resolves : Schema.ofSheet source nameSpace = .ok (resolved, diagnostics))
    (completes : processed settings resolved source = .ok moved)
    (names : resolved.fieldNames.Nodup) (member : field ∈ moved.schema.fields)
    {cells : List String} (present : (row, cells) ∈ moved.sheet.dataRows) :
    IsFaithful (cellErrors resolved source) row cells field (field.storedIn cells) := by
  intro visible
  rw [← valueIn_fails_iff resolves completes names member present visible, Field.storedIn]
  cases read : field.valueIn cells with
  | ok value =>
      have full := Value.ne_null_of_ofCell visible read
      exact ⟨⟨fun none => absurd none full, nofun⟩, fun _ => read⟩
  | error fault => exact ⟨⟨fun _ => rfl, fun _ => rfl⟩, fun full => absurd rfl full⟩

/-- The payload of a successful run is decoded to the records of the final sheet, and none
of its visible cells is lost without a report. A payload is held in memory, so its length
is a number of 64 bits. -/
theorem payload_faithful (settings : StandardSettings) (options : RunOptions) (clock : Clock)
    (cancelled : Bool) (sheet : Sheet)
    (succeeds : ((Pipeline.standard options settings).run clock cancelled sheet).success = true)
    (short : ((Pipeline.standard options settings).run clock cancelled sheet).state.payload.length <
      2 ^ 64) :
    let state := ((Pipeline.standard options settings).run clock cancelled sheet).state
    ∃ schema records,
      state.schema = some schema ∧
      Wire.decode? state.payload = some records ∧
      records.table = schema.name ∧
      records.nameSpace = schema.nameSpace ∧
      records.fields = schema.fields.map Field.toRecordField ∧
      List.Forall₂
        (fun row values =>
          List.Forall₂ (IsFaithful state.cellErrors row.1 row.2) schema.fields values)
        state.sheet.dataRows records.rows := by
  intro state
  obtain ⟨resolved, diagnostics, moved, resolves, completes, clean, leaves⟩ :=
    exists_leaves_of_success succeeds
  have names := ((failures_eq_nil_iff completes).mp clean).1
  have payload := leaves.payload clean
  rw [payload] at short
  refine ⟨moved.schema, RecordSet.ofSheet moved.schema moved.sheet, leaves.schema,
    (congrArg Wire.decode? payload).trans (Wire.decode_encode short), rfl, rfl, rfl, ?_⟩
  change List.Forall₂ _ ((Pipeline.standard options settings).run clock cancelled
    sheet).state.sheet.dataRows _
  rw [leaves.sheet]
  refine List.forall₂_map_right_iff.mpr (List.forall₂_same.mpr ?_)
  rintro ⟨row, cells⟩ present
  refine List.forall₂_map_right_iff.mpr (List.forall₂_same.mpr fun field member => ?_)
  change IsFaithful ((Pipeline.standard options settings).run clock cancelled
    sheet).state.cellErrors row cells field (field.storedIn cells)
  rw [leaves.cellErrors]
  exact storedIn_faithful resolves completes names member present

/-- A faulty number and a repeated key beside a text that is moved. -/
theorem payload_faithful_repeatedKey :
    let sheet : Sheet := ⟨"Item",
      [["Id", "Stats", "Label@Lan"], ["int", "map<string,int>", "string"], ["", "", ""],
        ["", "", ""], ["x", "a:1,a:2", "Sword"], ["7", "b:1", ""]]⟩
    let state := ((Pipeline.standard .standard .standard).run .least false sheet).state
    ∃ schema records,
      state.schema = some schema ∧
      Wire.decode? state.payload = some records ∧
      records.table = schema.name ∧
      records.nameSpace = schema.nameSpace ∧
      records.fields = schema.fields.map Field.toRecordField ∧
      List.Forall₂
        (fun row values =>
          List.Forall₂ (IsFaithful state.cellErrors row.1 row.2) schema.fields values)
        state.sheet.dataRows records.rows :=
  payload_faithful .standard .standard .least false _ (by decide +kernel) (by decide +kernel)

end Standard

end SheetCompiler
