import SheetCompiler.Normalization

/-!
# Outlines of schemas

What stays of a field while the processors of data work on it: everything but the
counts of its shape, the mark of a resolved reference and that of a localized text.
-/

set_option autoImplicit false

namespace SheetCompiler

/-- A kind as it is before the processors of data write into it. -/
def FieldKind.outline : FieldKind → FieldKind
  | plain | localized => .plain
  | reference target => .reference ⟨target.typeName, false, none⟩
  | array _ => .array .empty
  | matrix _ => .matrix .empty
  | map entry _ => .map entry .empty

theorem FieldKind.outline_updateStats (update : ShapeStats → ShapeStats) (kind : FieldKind) :
    (kind.updateStats update).outline = kind.outline := by
  cases kind <;> rfl

namespace Field

def outline (field : Field) : Field := { field with kind := field.kind.outline }

def targetName? (field : Field) : Option String := field.reference?.map (·.typeName)

theorem outline_countCells (field : Field) (texts : List String) :
    (field.countCells texts).outline = field.outline := by
  simp only [countCells, outline, FieldKind.outline_updateStats]

theorem targetName?_outline (field : Field) : field.outline.targetName? = field.targetName? := by
  obtain ⟨name, column, type, declared, scope, kind, defaultText, description, header⟩ := field
  cases kind <;> rfl

variable {field other : Field} {fields others : List Field}

theorem name_eq_of_outline (same : field.outline = other.outline) : field.name = other.name := by
  injection same

theorem scope_eq_of_outline (same : field.outline = other.outline) :
    field.scope = other.scope := by
  injection same

theorem column_eq_of_outline (same : field.outline = other.outline) :
    field.column = other.column := by
  injection same

theorem type_eq_of_outline (same : field.outline = other.outline) : field.type = other.type := by
  injection same

theorem exists_outline (same : fields.map outline = others.map outline) (member : field ∈ fields) :
    ∃ other ∈ others, other.outline = field.outline := by
  have listed : field.outline ∈ others.map outline := by
    rw [← same]
    exact List.mem_map_of_mem member
  exact List.mem_map.mp listed

/-- Fields of the same outlines agree in all that an outline keeps. -/
theorem map_eq_of_outline {α : Type} {read : Field → α}
    (reads : ∀ field : Field, read field.outline = read field)
    (same : fields.map outline = others.map outline) : fields.map read = others.map read := by
  have composed : read ∘ outline = read := funext reads
  rw [← composed, ← List.map_map, same, List.map_map]

end Field

namespace Sheet

theorem outline_normalizeFields (sheet : Sheet) (fields : List Field) :
    (sheet.normalizeFields fields).1.map Field.outline = fields.map Field.outline := by
  induction fields generalizing sheet with
  | nil => rfl
  | cons field fields ih =>
      have rest := ih (sheet.normalizeColumn field)
      rw [List.map_cons, ← rest, ← field.outline_countCells]
      rfl

end Sheet

namespace Schema

variable {schema : Schema}

theorem map_modifyField {α : Type} {name : String}
    {change : Field → Field} {read : Field → α}
    (keeps : ∀ field ∈ schema.fields, field.name = name → read (change field) = read field) :
    (schema.modifyField name change).fields.map read = schema.fields.map read := by
  unfold modifyField
  split
  · rename_i index found
    obtain ⟨bound, named, -⟩ := List.findIdx?_eq_some_iff_getElem.mp found
    apply List.ext_getElem?
    intro place
    simp only [List.getElem?_map, List.getElem?_modify]
    split
    · rename_i here
      subst here
      rw [List.getElem?_eq_getElem bound]
      exact congrArg some (keeps _ (List.getElem_mem bound) (eq_of_beq named))
    · simp
  · rfl

theorem outline_modifyField {change : Field → Field} (name : String)
    (keeps : ∀ field, (change field).outline = field.outline) :
    (schema.modifyField name change).fields.map Field.outline =
      schema.fields.map Field.outline :=
  map_modifyField fun field _ _ => keeps field

def targetNames (schema : Schema) : List String := schema.fields.filterMap Field.targetName?

def columnOf? (schema : Schema) (name : String) : Option Nat :=
  (schema.field? name).map (·.column)

theorem fieldNames_eq_of_outline {other : Schema}
    (same : other.fields.map Field.outline = schema.fields.map Field.outline) :
    other.fieldNames = schema.fieldNames :=
  Field.map_eq_of_outline (fun _ => rfl) same

theorem targetNames_eq_of_outline {other : Schema}
    (same : other.fields.map Field.outline = schema.fields.map Field.outline) :
    other.targetNames = schema.targetNames := by
  have targets := Field.map_eq_of_outline Field.targetName?_outline same
  have listed (schema : Schema) :
      schema.targetNames = (schema.fields.map Field.targetName?).filterMap id := by
    rw [List.filterMap_map]
    rfl
  rw [listed, listed, targets]

theorem columnOf?_eq_of_outline {other : Schema} (name : String)
    (same : other.fields.map Field.outline = schema.fields.map Field.outline) :
    other.columnOf? name = schema.columnOf? name := by
  have outlined (schema : Schema) : schema.columnOf? name =
      ((schema.fields.map Field.outline).find? fun field => field.name == name).map
        (·.column) := by
    rw [List.find?_map, Option.map_map]
    rfl
  rw [outlined, outlined, same]

/-! ## Repeated names -/

theorem mem_duplicateNames_go {seen duplicates names : List String} {name : String}
    (listed : name ∈ duplicates) : name ∈ duplicateNames.go seen duplicates names := by
  induction names generalizing seen duplicates with
  | nil => exact List.mem_reverse.mpr listed
  | cons other names ih =>
      unfold duplicateNames.go
      split
      · exact ih (List.mem_cons_of_mem _ listed)
      · exact ih listed

theorem duplicateNames_go_eq_nil_iff {seen names : List String} :
    duplicateNames.go seen [] names = [] ↔ names.Nodup ∧ ∀ name ∈ names, name ∉ seen := by
  induction names generalizing seen with
  | nil => simp [duplicateNames.go]
  | cons name names ih =>
      unfold duplicateNames.go
      by_cases repeated : name ∈ seen
      · rw [if_pos (by simpa using repeated)]
        constructor
        · intro none
          have listed : name ∈ duplicateNames.go seen [name] names :=
            mem_duplicateNames_go List.mem_cons_self
          rw [none] at listed
          cases listed
        · rintro ⟨-, fresh⟩
          exact absurd repeated (fresh name List.mem_cons_self)
      · rw [if_neg (by simpa using repeated), ih, List.nodup_cons]
        constructor
        · rintro ⟨distinct, fresh⟩
          refine ⟨⟨fun again => fresh name again List.mem_cons_self, distinct⟩, ?_⟩
          intro other member
          rcases List.mem_cons.mp member with rfl | later
          · exact repeated
          · exact fun present => fresh other later (List.mem_cons_of_mem _ present)
        · rintro ⟨⟨first, distinct⟩, fresh⟩
          refine ⟨distinct, fun other later present => ?_⟩
          rcases List.mem_cons.mp present with rfl | earlier
          · exact first later
          · exact fresh other (List.mem_cons_of_mem _ later) earlier

theorem duplicateNames_eq_nil_iff : schema.duplicateNames = [] ↔ schema.fieldNames.Nodup := by
  rw [duplicateNames, duplicateNames_go_eq_nil_iff]
  simp

end Schema

end SheetCompiler
