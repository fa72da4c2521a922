import SheetCompiler.Proofs.Localization.Listing
import SheetCompiler.Proofs.Pipeline.Reserved

/-!
# Schemas at the end of a run

A run that succeeds leaves a well-formed schema: its fields are the columns that the header
names and does not exclude, their kinds go with their types, references are resolved, shapes
are counted over all data rows, and the localized fields are listed.
-/

set_option autoImplicit false

namespace SheetCompiler

/-- The schema of a sheet after it has been processed with some data rows left. -/
structure Schema.IsWellFormed (sheet : Sheet) (rows : Nat) (schema : Schema) : Prop where
  columns : ∀ column, column ∈ schema.fields.map (·.column) ↔ ¬ sheet.IsSkipped column
  ascending : (schema.fields.map (·.column)).Pairwise (· < ·)
  header : ∀ field ∈ schema.fields,
    field.name = (Header.ofText (sheet.cell 0 field.column)).name ∧
      field.scope = (Header.ofText (sheet.cell 0 field.column)).scope
  safe : ∀ field ∈ schema.fields, IsSafeName field.name
  names : schema.fieldNames.Nodup
  scopes : ∀ field ∈ schema.fields, field.scope ≠ .excluded
  kinds : ∀ field ∈ schema.fields, field.Agrees
  resolved : ∀ field ∈ schema.fields, ∀ target,
    field.reference? = some target → target.resolved = true
  counts : ∀ field ∈ schema.fields, ∀ stats, field.stats? = some stats → stats.Covers rows
  listed : schema.ListsLocalized

/-! ## Columns -/

namespace Schema

variable {sheet : Sheet} {nameSpace : String} {schema : Schema} {diagnostics : List Diagnostic}

theorem exists_column_of_mem
    (resolves : Schema.ofSheet (Standard.cleaned sheet) nameSpace = .ok (schema, diagnostics))
    {field : Field} (member : field ∈ schema.fields) :
    field = (Column.ofSheet sheet field.column).toField.1 ∧ ¬ sheet.IsSkipped field.column := by
  rw [fields_ofSheet resolves] at member
  obtain ⟨column, kept, rfl⟩ := List.mem_map.mp member
  obtain ⟨listed, keeps⟩ := List.mem_filter.mp kept
  obtain ⟨index, -, rfl⟩ := List.mem_map.mp listed
  have same : Column.ofSheet (Standard.cleaned sheet) index = Column.ofSheet sheet index :=
    Sheet.ofSheet_cleaned sheet index
  rw [same] at keeps ⊢
  rw [Column.column_toField, Sheet.index_ofSheet]
  exact ⟨rfl, (sheet.isKept_iff index).mp keeps⟩

/-- Every column is a field unless the header skips it. -/
theorem mem_columns_iff
    (resolves : Schema.ofSheet (Standard.cleaned sheet) nameSpace = .ok (schema, diagnostics))
    (column : Nat) : column ∈ schema.fields.map (·.column) ↔ ¬ sheet.IsSkipped column := by
  constructor
  · intro listed
    obtain ⟨field, member, rfl⟩ := List.mem_map.mp listed
    exact (exists_column_of_mem resolves member).2
  · intro shown
    have same : Column.ofSheet (Standard.cleaned sheet) column = Column.ofSheet sheet column :=
      Sheet.ofSheet_cleaned sheet column
    have kept : (Column.ofSheet (Standard.cleaned sheet) column).isKept = true := by
      rw [same]
      exact (sheet.isKept_iff column).mpr shown
    have inside : column < (Standard.cleaned sheet).columnCount := by
      by_contra outside
      exact ((Standard.cleaned sheet).isKept_iff column).mp kept
        (Sheet.isSkipped_of_le (by omega))
    rw [fields_ofSheet resolves]
    have listed : Column.ofSheet (Standard.cleaned sheet) column ∈
        (List.range (Standard.cleaned sheet).columnCount).map
          (Column.ofSheet (Standard.cleaned sheet)) :=
      List.mem_map_of_mem (List.mem_range.mpr inside)
    exact List.mem_map.mpr ⟨_, List.mem_map_of_mem (List.mem_filter.mpr ⟨listed, kept⟩),
      Column.column_toField _⟩

theorem agrees_ofSheet
    (resolves : Schema.ofSheet (Standard.cleaned sheet) nameSpace = .ok (schema, diagnostics)) :
    ∀ field ∈ schema.fields, field.Agrees := by
  intro field member
  rw [(exists_column_of_mem resolves member).1]
  exact Column.agrees_toField (Header.isNamed_referenceTarget_ofText _)

theorem listsLocalized_ofSheet
    (resolves : Schema.ofSheet sheet nameSpace = .ok (schema, diagnostics))
    (names : schema.fieldNames.Nodup) : schema.ListsLocalized := by
  have listed : schema.metadata.localizedFields =
      (schema.fields.filter Field.isLocalized).map (·.name) := by
    unfold Schema.ofSheet HeaderBlock.ofSheet at resolves
    split at resolves
    · obtain ⟨rfl, -⟩ := Prod.mk.inj (Except.ok.inj resolves)
      rfl
    · cases resolves
  constructor
  · rw [listed]
    exact (List.filter_sublist.map _).nodup names
  · intro name
    simp [listed, Field.isLocalized, and_assoc]

end Schema

/-! ## Processed fields -/

namespace Standard

variable {settings : StandardSettings} {nameSpace : String} {sheet source : Sheet}
  {schema resolved : Schema} {diagnostics : List Diagnostic} {moved : LocalizedTable}

theorem fields_normalized (known : KnownTypes) (source : Sheet)
    (distinct : (resolved.fields.map (·.column)).Nodup) :
    (normalized known resolved source).1.fields = resolved.fields.map fun field =>
      markReference known (field.countCells ((source.columnTexts field.column).map (·.2))) := by
  have counted : (normalized known resolved source).1.fields = _ :=
    congrArg (List.map (markReference known)) (Sheet.counts_normalizeFields source distinct)
  rw [counted, List.map_map]
  rfl

theorem kind_linked_eq_localized_iff (known : KnownTypes) (field : Field) (texts : List String) :
    (markReference known (field.countCells texts)).kind = .localized ↔ field.kind = .localized := by
  obtain ⟨name, column, type, declared, scope, kind, defaultText, description, header⟩ := field
  cases kind <;> simp [markReference, Field.countCells, FieldKind.updateStats]

theorem name_linked (known : KnownTypes) (field : Field) (texts : List String) :
    (markReference known (field.countCells texts)).name = field.name := by
  obtain ⟨name, column, type, declared, scope, kind, defaultText, description, header⟩ := field
  cases kind <;> rfl

/-- The tables between the processors are consistent. -/
theorem isConsistent_normalized (known : KnownTypes) (source : Sheet)
    (distinct : (resolved.fields.map (·.column)).Nodup) (names : resolved.fieldNames.Nodup)
    (agrees : ∀ field ∈ resolved.fields, field.Agrees) (listed : resolved.ListsLocalized) :
    LocalizedTable.IsConsistent
      ⟨(normalized known resolved source).1, (normalized known resolved source).2, .empty, 0⟩ := by
  have fields := fields_normalized known source distinct
  refine ⟨?_, ?_, listed.once, fun name => ?_⟩
  · have same := Schema.fieldNames_eq_of_outline (outline_normalized known resolved source)
    exact same ▸ names
  · rw [fields, List.forall_mem_map]
    exact fun field member => ((agrees field member).countCells _).markReference known
  · refine (listed.mem_iff name).trans ?_
    rw [fields]
    simp [kind_linked_eq_localized_iff, name_linked]

theorem isConsistent_processed
    (distinct : (resolved.fields.map (·.column)).Nodup) (names : resolved.fieldNames.Nodup)
    (agrees : ∀ field ∈ resolved.fields, field.Agrees) (listed : resolved.ListsLocalized)
    (completes : processed settings resolved source = .ok moved) : moved.IsConsistent := by
  have normal := isConsistent_normalized settings.known source distinct names agrees listed
  rcases localized_cases completes with ⟨-, rfl⟩ | ⟨-, rules, -, rfl⟩
  · exact normal
  · exact rules.isConsistent_extract _ _ normal.names normal.agrees normal.listed

theorem stats?_unmarked (field : Field) : field.unmarked.stats? = field.stats? := by
  obtain ⟨name, column, type, declared, scope, kind, defaultText, description, header⟩ := field
  cases kind <;> rfl

theorem stats?_markReference (known : KnownTypes) (field : Field) :
    (markReference known field).stats? = field.stats? := by
  obtain ⟨name, column, type, declared, scope, kind, defaultText, description, header⟩ := field
  cases kind <;> rfl

/-- Localization moves no count. -/
theorem exists_stats?_normalized (completes : processed settings resolved source = .ok moved)
    {field : Field} (member : field ∈ moved.schema.fields) :
    ∃ former ∈ (normalized settings.known resolved source).1.fields,
      former.stats? = field.stats? := by
  rcases localized_cases completes with ⟨-, rfl⟩ | ⟨-, rules, -, rfl⟩
  · exact ⟨field, member, rfl⟩
  · have marked : (rules.extract (normalized settings.known resolved source).1
        (normalized settings.known resolved source).2
        (LocalizationTable.empty.reserve settings.reserved)).schema.fields.map Field.unmarked = _ :=
      LocalizedTable.unmarked_extract rules _ _ _
    obtain ⟨former, within, same⟩ :=
      List.mem_map.mp (marked ▸ List.mem_map_of_mem (f := Field.unmarked) member)
    refine ⟨former, within, ?_⟩
    rw [← stats?_unmarked, same, stats?_unmarked]

theorem covers_processed
    (resolves : Schema.ofSheet (cleaned sheet) nameSpace = .ok (resolved, diagnostics))
    (completes : processed settings resolved (cleaned sheet) = .ok moved) :
    ∀ field ∈ moved.schema.fields, ∀ stats,
      field.stats? = some stats → stats.Covers moved.sheet.dataRowCount := by
  intro field member stats counted
  have rows : moved.sheet.dataRowCount = (cleaned sheet).dataRowCount := by
    rw [Sheet.dataRowCount, rowCount_processed completes, Sheet.dataRowCount]
  obtain ⟨former, listed, same⟩ := exists_stats?_normalized completes member
  rw [fields_normalized _ _ (Schema.columns_nodup resolves)] at listed
  obtain ⟨origin, original, rfl⟩ := List.mem_map.mp listed
  rw [stats?_markReference] at same
  rw [← same] at counted
  have covers := (Field.counts_countCells
    (fun _ starts => Schema.stats?_ofSheet resolves original starts) counted).covers
  have length : ((cleaned sheet).columnTexts origin.column).length =
      (cleaned sheet).dataRowCount := by
    rw [Sheet.columnTexts_eq_range, List.length_map, List.length_range]
  rwa [List.length_map, List.length_map, length, ← rows] at covers

/-- What the header says of a field is still the same when it has been processed. -/
theorem header_processed
    (resolves : Schema.ofSheet (cleaned sheet) nameSpace = .ok (resolved, diagnostics))
    (completes : processed settings resolved (cleaned sheet) = .ok moved) {field : Field}
    (member : field ∈ moved.schema.fields) :
    field.name = (Header.ofText (sheet.cell 0 field.column)).name ∧
      field.scope = (Header.ofText (sheet.cell 0 field.column)).scope ∧
      ¬ sheet.IsSkipped field.column := by
  obtain ⟨origin, original, same⟩ := Field.exists_outline (outline_processed completes) member
  obtain ⟨column, shown⟩ := Schema.exists_column_of_mem resolves original
  rw [Field.column_eq_of_outline same] at column shown
  refine ⟨?_, ?_, shown⟩
  · rw [← Field.name_eq_of_outline same, column, Column.name_toField, Sheet.header_ofSheet]
  · rw [← Field.scope_eq_of_outline same, column, Column.scope_toField, Sheet.header_ofSheet]

theorem isSafeName_processed
    (resolves : Schema.ofSheet (cleaned sheet) nameSpace = .ok (resolved, diagnostics))
    (completes : processed settings resolved (cleaned sheet) = .ok moved) {field : Field}
    (member : field ∈ moved.schema.fields) : IsSafeName field.name := by
  obtain ⟨name, -, shown⟩ := header_processed resolves completes member
  rw [name]
  exact Header.isSafeName_ofText (Bool.eq_false_iff.mpr fun none => shown (.inl none))

/-! ## Whole runs -/

/-- A run that succeeds leaves a well-formed schema. -/
theorem isWellFormed_run (options : RunOptions) (settings : StandardSettings) (clock : Clock)
    (cancelled : Bool) (sheet : Sheet)
    (succeeds : ((Pipeline.standard options settings).run clock cancelled sheet).success = true) :
    ∃ schema,
      ((Pipeline.standard options settings).run clock cancelled sheet).state.schema =
        some schema ∧
      schema.IsWellFormed sheet
        ((Pipeline.standard options settings).run clock cancelled sheet).state.sheet.dataRowCount := by
  obtain ⟨resolved, diagnostics, moved, resolves, completes, clean, leaves⟩ :=
    exists_leaves_of_success succeeds
  obtain ⟨names, targets, -⟩ := (failures_eq_nil_iff completes).mp clean
  have outline := outline_processed completes
  have columns : moved.schema.fields.map (·.column) = resolved.fields.map (·.column) :=
    Field.map_eq_of_outline (fun _ => rfl) outline
  have consistent := isConsistent_processed (Schema.columns_nodup resolves) names
    (Schema.agrees_ofSheet resolves) (Schema.listsLocalized_ofSheet resolves names) completes
  rw [leaves.schema, leaves.sheet]
  refine ⟨moved.schema, rfl, ?_, ?_, ?_, ?_, consistent.names, ?_, consistent.agrees, ?_,
    covers_processed resolves completes, consistent.listed⟩
  · rw [columns]
    exact Schema.mem_columns_iff resolves
  · rw [columns]
    exact List.pairwise_lt_range.sublist (Schema.columns_sublist resolves)
  · intro field member
    obtain ⟨name, scope, -⟩ := header_processed resolves completes member
    exact ⟨name, scope⟩
  · exact fun field member => isSafeName_processed resolves completes member
  · intro field member excluded
    obtain ⟨-, scope, shown⟩ := header_processed resolves completes member
    rw [scope, Header.scope_ofText_eq_excluded_iff] at excluded
    exact shown (.inr excluded)
  · intro field member target refers
    rw [resolvedBy_processed completes field member target refers]
    refine targets target.typeName ?_
    rw [← Schema.targetNames_eq_of_outline outline]
    exact List.mem_filterMap.mpr ⟨field, member, by rw [Field.targetName?, refers]; rfl⟩

/-- A table with all kinds of columns: skipped ones, a text that is found by its name, and one
that is marked. -/
theorem isWellFormed_run_mixture :
    let settings : StandardSettings :=
      ⟨.ofList ["Buff"], { LocalizationSettings.standard with autoDetect := true }, .empty, []⟩
    let sheet : Sheet := ⟨"Item",
      [["Id", "Name", "", "Note@PM", "Gives@Ref_Buff", "Drops", "Label@Lan@Client"],
        ["int", "string", "", "string", "[int]", "map<string,int>", "string"],
        ["", "", "", "", "", "", ""], ["", "", "", "", "", "", ""],
        ["1", "Sword", "x", "y", "1,2", "gold:3", "Sharp"]]⟩
    let report := (Pipeline.standard ⟨"Game", false, none⟩ settings).run .least false sheet
    report.success = true ∧
      ∃ schema, report.state.schema = some schema ∧ schema.IsWellFormed sheet 1 ∧
        schema.fields.map (·.column) = [0, 1, 4, 5, 6] ∧
        schema.metadata.localizedFields = ["Label", "Name"] := by
  intro settings sheet
  dsimp only
  have succeeds : ((Pipeline.standard ⟨"Game", false, none⟩ settings).run .least false
      sheet).success = true := by decide +kernel
  obtain ⟨schema, final, formed⟩ :=
    isWellFormed_run ⟨"Game", false, none⟩ settings .least false sheet succeeds
  have rows : ((Pipeline.standard ⟨"Game", false, none⟩ settings).run .least false
      sheet).state.sheet.dataRowCount = 1 := by decide +kernel
  have shown : ((Pipeline.standard ⟨"Game", false, none⟩ settings).run .least false
      sheet).state.schema.map (fun schema =>
        (schema.fields.map (·.column), schema.metadata.localizedFields)) =
          some ([0, 1, 4, 5, 6], ["Label", "Name"]) := by decide +kernel
  rw [final] at shown
  obtain ⟨columns, listed⟩ := Prod.mk.inj (Option.some.inj shown)
  exact ⟨succeeds, schema, final, rows ▸ formed, columns, listed⟩

end Standard

end SheetCompiler
