import SheetCompiler.Proofs.Localization.Frame
import SheetCompiler.Proofs.Pipeline.Standard
import SheetCompiler.Proofs.Schema.Resolved

/-!
# Tables in the standard pipeline

What becomes of a table from its sheet to the validators: which sheets have a schema,
when the processors of data complete, and what they leave alone.
-/

set_option autoImplicit false

namespace SheetCompiler

namespace Standard

variable {settings : StandardSettings} {sheet source : Sheet} {schema : Schema}
  {moved : LocalizedTable}

/-! ## Resolving -/

theorem hasHeader_cleaned : (cleaned sheet).hasHeader = sheet.hasHeader := by
  have kept := List.length_filter_le (fun row => !Sheet.isBlankRow row)
    (sheet.trimCells.rows.drop Sheet.headerRows)
  have rows : sheet.trimCells.rows.length = sheet.rows.length := List.length_map _
  rw [List.length_drop, rows] at kept
  unfold Sheet.hasHeader Sheet.rowCount cleaned Sheet.dropBlankRows
  rw [List.length_append, List.length_take, rows, decide_eq_decide]
  omega

theorem exists_resolved (nameSpace : String) (header : sheet.hasHeader = true) :
    ∃ schema diagnostics,
      Schema.ofSheet (cleaned sheet) nameSpace = .ok (schema, diagnostics) :=
  Schema.exists_ofSheet nameSpace (hasHeader_cleaned.trans header)

theorem exists_shortage (nameSpace : String) (header : sheet.hasHeader = false) :
    ∃ shortage, Schema.ofSheet (cleaned sheet) nameSpace = .error shortage := by
  unfold Schema.ofSheet HeaderBlock.ofSheet
  rw [hasHeader_cleaned, header]
  exact ⟨_, rfl⟩

/-! ## Processing -/

theorem exists_processed_iff (settings : StandardSettings) (schema : Schema) (source : Sheet) :
    (∃ moved, processed settings schema source = .ok moved) ↔
      (settings.localization.enabled = true →
        ∃ pattern, Pattern.ofText settings.localization.keyPattern = .ok pattern) := by
  unfold processed localized LocalizationRules.ofSettings
  cases settings.localization.enabled with
  | false => simp
  | true =>
      cases Pattern.ofText settings.localization.keyPattern with
      | ok pattern => simp [Except.map]
      | error fault => simp [Except.map]

theorem outline_markReference (known : KnownTypes) (field : Field) :
    (markReference known field).outline = field.outline := by
  obtain ⟨name, column, type, declared, scope, kind, defaultText, description, header⟩ := field
  cases kind <;> rfl

/-- Marking references and counting cells leave the outline of a schema. -/
theorem outline_normalized (known : KnownTypes) (schema : Schema) (source : Sheet) :
    (normalized known schema source).1.fields.map Field.outline =
      schema.fields.map Field.outline := by
  unfold normalized linked
  rw [← Sheet.outline_normalizeFields source schema.fields, List.map_map]
  exact List.map_congr_left fun field _ => outline_markReference known field

/-- The columns whose texts are moved into the localization table. -/
def IsMoved (settings : StandardSettings) (schema : Schema) (sheet : Sheet) (column : Nat) : Prop :=
  settings.localization.enabled = true ∧
    ∃ rules, LocalizationRules.ofSettings settings.localization = .ok rules ∧
      ∃ name ∈ rules.detectedFields schema sheet, schema.columnOf? name = some column

theorem localized_frame (completes : localized settings schema sheet = .ok moved) :
    LocalizedTable.Frame (IsMoved settings schema sheet) ⟨schema, sheet, .empty, 0⟩ moved := by
  unfold localized at completes
  cases enabled : settings.localization.enabled with
  | false =>
      rw [enabled] at completes
      obtain rfl := Except.ok.inj completes
      exact .refl _ _
  | true =>
      rw [enabled] at completes
      cases read : LocalizationRules.ofSettings settings.localization with
      | error fault =>
          rw [read] at completes
          cases completes
      | ok rules =>
          rw [read] at completes
          obtain rfl := Except.ok.inj completes
          have frame := rules.extract_frame schema sheet
            (LocalizationTable.empty.reserve settings.reserved)
          exact ⟨frame.name, frame.nameSpace, frame.outline,
            frame.sheet.mono fun column moves => ⟨enabled, rules, read, moves⟩⟩

/-- The processors of data leave the outline of a schema. -/
theorem outline_processed (completes : processed settings schema source = .ok moved) :
    moved.schema.fields.map Field.outline = schema.fields.map Field.outline :=
  (localized_frame completes).outline.trans (outline_normalized settings.known schema source)

end Standard

end SheetCompiler
