import SheetCompiler.Schema.Resolution

/-!
# Resolved schemas

What holds of every schema that is read off a header: no two fields share a column,
and only plain texts are localized.
-/

set_option autoImplicit false

namespace SheetCompiler

/-- Only plain texts are marked as localized. -/
def Field.LocalizesText (field : Field) : Prop :=
  field.kind = .localized → field.type = FieldType.text

namespace Column

theorem column_toField (column : Column) : column.toField.1.column = column.index := rfl

theorem kind_eq_localized {column : Column} (localized : column.kind.1 = .localized) :
    column.resolution.type = FieldType.text := by
  unfold kind at localized
  dsimp only at localized
  split at localized
  · cases localized
  · split at localized
    · cases localized
    · cases localized
    · cases localized
    · cases localized
    · rename_i base scalar
      split at localized
      · cases localized
      · split at localized
        · rename_i text
          rw [scalar, text]
          rfl
        · cases localized

theorem localizesText_toField (column : Column) : column.toField.1.LocalizesText := by
  intro localized
  have kind : column.kind.1 = .localized := localized
  have text := kind_eq_localized kind
  unfold toField
  dsimp only
  rw [kind]
  exact text

end Column

namespace Schema

variable {sheet : Sheet} {nameSpace : String} {schema : Schema} {diagnostics : List Diagnostic}

theorem exists_ofSheet (nameSpace : String) (header : sheet.hasHeader = true) :
    ∃ schema diagnostics, Schema.ofSheet sheet nameSpace = .ok (schema, diagnostics) := by
  unfold Schema.ofSheet HeaderBlock.ofSheet
  rw [if_pos header]
  exact ⟨_, _, rfl⟩

theorem name_ofSheet (resolves : Schema.ofSheet sheet nameSpace = .ok (schema, diagnostics)) :
    schema.name = sheet.name := by
  unfold Schema.ofSheet at resolves
  dsimp only [bind, Except.bind] at resolves
  split at resolves
  · cases resolves
  · obtain ⟨rfl, -⟩ := Prod.mk.inj (Except.ok.inj resolves)
    rfl

/-- A resolved schema has the fields of the columns that are kept, in their order. -/
theorem fields_ofSheet (resolves : Schema.ofSheet sheet nameSpace = .ok (schema, diagnostics)) :
    schema.fields =
      (((List.range sheet.columnCount).map (Column.ofSheet sheet)).filter Column.isKept).map
        fun column => column.toField.1 := by
  unfold Schema.ofSheet HeaderBlock.ofSheet at resolves
  split at resolves
  · obtain ⟨rfl, -⟩ := Prod.mk.inj (Except.ok.inj resolves)
    exact List.map_map
  · cases resolves

theorem columns_sublist (resolves : Schema.ofSheet sheet nameSpace = .ok (schema, diagnostics)) :
    (schema.fields.map (·.column)).Sublist (List.range sheet.columnCount) := by
  rw [fields_ofSheet resolves, List.map_map]
  have indices : ((List.range sheet.columnCount).map (Column.ofSheet sheet)).map
      (fun column => column.toField.1.column) = List.range sheet.columnCount := by
    have index (column : Nat) : (Column.ofSheet sheet column).toField.1.column = column :=
      Column.column_toField (Column.ofSheet sheet column)
    rw [List.map_map]
    exact (List.map_congr_left fun column _ => index column).trans (List.map_id _)
  have kept := (List.filter_sublist (p := Column.isKept)
    (l := (List.range sheet.columnCount).map (Column.ofSheet sheet))).map
      fun column : Column => column.toField.1.column
  rwa [indices] at kept

theorem columns_nodup (resolves : Schema.ofSheet sheet nameSpace = .ok (schema, diagnostics)) :
    (schema.fields.map (·.column)).Nodup :=
  (columns_sublist resolves).nodup List.nodup_range

theorem column_lt_of_mem (resolves : Schema.ofSheet sheet nameSpace = .ok (schema, diagnostics))
    {field : Field} (member : field ∈ schema.fields) : field.column < sheet.columnCount :=
  List.mem_range.mp ((columns_sublist resolves).subset (List.mem_map_of_mem member))

theorem localizesText (resolves : Schema.ofSheet sheet nameSpace = .ok (schema, diagnostics)) :
    ∀ field ∈ schema.fields, field.LocalizesText := by
  rw [fields_ofSheet resolves]
  exact List.forall_mem_map.mpr fun column _ => column.localizesText_toField

end Schema

end SheetCompiler
