import SheetCompiler.KnownTypes
import SheetCompiler.Localization.Extraction
import SheetCompiler.Pipeline
import SheetCompiler.Validation.Declaration

/-!
# The standard pipeline

The processors that every table goes through: trimming, generated code,
normalization, references, localization, the checks of schema, references, cells
and rules, and the payload.
-/

set_option autoImplicit false

namespace SheetCompiler

/-- What the standard processors need to know. The reserved keys are not free for
the texts of the table. -/
structure StandardSettings where
  known : KnownTypes
  localization : LocalizationSettings
  rules : RuleSet
  reserved : List String

namespace StandardSettings

def standard : StandardSettings := ⟨.empty, .standard, .empty, []⟩

end StandardSettings

namespace Standard

/-! ## Raw sheets -/

/-- Trims every cell and drops blank data rows. -/
def trimCells : PreProcessor :=
  { name := "trim-cells"
    priority := 0
    call := fun _ raw =>
      let trimmed := raw.sheet.untrimmedCount
      let sheet := raw.sheet.trimCells
      let kept := sheet.dropBlankRows
      let dropped := sheet.rowCount - kept.rowCount
      let counts :=
        s!"Trimmed {Value.displayNat trimmed} cell(s) and " ++
          s!"dropped {Value.displayNat dropped} blank row(s) in '{sheet.name}'"
      let log := if 0 < trimmed ∨ 0 < dropped then raw.log.note counts else raw.log
      .complete ⟨kept, log⟩ () }

/-! ## Generated code -/

def codeGenerator : CodeGenerator :=
  { name := "rust-codegen"
    priority := 0
    call := fun schema log =>
      let files := CodeFile.ofSchema schema
      let log :=
        if files.isEmpty then log.warn s!"Table '{schema.name}' has no generated fields" else log
      .complete log files }

/-! ## Data -/

/-- The line about the counts of a field. -/
def statsLine? (field : Field) : Option String :=
  field.stats?.map fun stats =>
    let least := Value.displayNat (stats.minColumns.getD 0)
    let greatest := Value.displayNat (stats.maxColumns.getD 0)
    s!"{field.name} ({field.type.display}): " ++
      s!"{Value.displayNat stats.validRows}/{Value.displayNat stats.totalRows} valid row(s), " ++
      s!"columns {least}..{greatest}"

/-- Normalizes the cells of every field. -/
def structuredValues : DataProcessor :=
  { name := "structured-values"
    priority := 0
    call := fun _ data =>
      let (fields, sheet, errors) := data.sheet.normalizeFields data.schema.fields
      .complete
        { data with
          schema := { data.schema with fields }
          sheet
          cellErrors := data.cellErrors ++ errors
          log := { data.log with notes := data.log.notes ++ fields.filterMap statsLine? } } () }

/-- A reference field with its target marked as resolved or not. -/
def markReference (known : KnownTypes) (field : Field) : Field :=
  match field.kind with
  | .reference target =>
      { field with
        kind := .reference { target with resolved := known.contains target.typeName } }
  | _ => field

/-- Names without their later repetitions. -/
def distinct (names : List String) : List String :=
  names.foldl (fun kept name => if kept.contains name then kept else kept ++ [name]) []

/-- Marks the references to known types and records the relations of the table. -/
def references (known : KnownTypes) : DataProcessor :=
  { name := "references"
    priority := 10
    call := fun _ data =>
      let schema := { data.schema with fields := data.schema.fields.map (markReference known) }
      let relations := schema.relations
      let targets := Text.joined ", " (distinct (relations.map (·.target)))
      let log :=
        if relations.isEmpty then data.log
        else data.log.note s!"'{schema.name}' references {targets}"
      .complete { data with schema, relations := data.relations ++ relations, log } () }

/-- Moves the texts of localized fields into the localization table. -/
def localization (settings : LocalizationSettings) (reserved : List String) : DataProcessor :=
  { name := "localization"
    priority := 20
    call := fun _ data =>
      if !settings.enabled then .complete data ()
      else
        match LocalizationRules.ofSettings settings with
        | .error fault => ⟨data, false, .failed (.failed "localization" fault.fullMessage)⟩
        | .ok rules =>
            let moved := rules.extract data.schema data.sheet (data.localization.reserve reserved)
            let count := Value.displayNat moved.replaced
            let log :=
              if 0 < moved.replaced then
                data.log.note s!"Extracted {count} localized value(s) from '{moved.schema.name}'"
              else data.log
            .complete
              { data with
                schema := moved.schema
                sheet := moved.sheet
                localization := moved.table
                log } () }

/-! ## Validation -/

/-- A validator that always completes. -/
def validator (name : String) (priority : Int) (findings : ValidationInput → List Finding) :
    Validator :=
  { name
    priority
    call := fun input _ => .complete () (.ofFindings (findings input)) }

/-- The findings on the fields of a schema. -/
def schemaFindings (schema : Schema) : List Finding :=
  let empty : List Finding :=
    if schema.fields.isEmpty then
      [⟨none, none, s!"Table '{schema.name}' declares no fields", "EmptySchema", .warning⟩]
    else []
  let duplicates := schema.duplicateNames.map fun name =>
    let message := s!"Field name '{name}' is declared more than once"
    (⟨some name, none, message, "DuplicateField", .error⟩ : Finding)
  empty ++ duplicates

/-- The findings on references to unknown types. -/
def referenceFindings (known : KnownTypes) (schema : Schema) : List Finding :=
  (schema.unknownReferences known).map fun unknown =>
    ⟨some unknown.field, none, unknown.message, "UnknownReferenceType", .error⟩

/-- The finding on a faulty cell; it is only a warning. -/
def cellFinding (error : CellError) : Finding :=
  ⟨some error.field, some error.row, s!"{error.message} (cell '{error.value}')",
    "InvalidCellValue", .warning⟩

/-- The findings of the rules of the table. -/
def ruleFindings (rules : RuleSet) (input : ValidationInput) : List Finding :=
  let unknown := (rules.unknownFields input.schema).map fun name =>
    let message := s!"Rule targets field '{name}' which '{input.schema.name}' does not declare"
    (⟨some name, none, message, "UnknownRuleField", .warning⟩ : Finding)
  unknown ++ (rules.validate input.schema input.sheet).findings

/-! ## Payload -/

/-- Encodes the records of the table. -/
def payload : PostProcessor :=
  { name := "payload"
    priority := 0
    call := fun input post =>
      let records := RecordSet.ofSheet input.schema input.sheet
      let bytes := Wire.encode records
      let message :=
        s!"Encoded {Value.displayNat records.rows.length} record(s) of '{input.schema.name}' " ++
          s!"into {Value.displayNat bytes.length} byte(s)"
      .complete ⟨bytes, post.log.note message⟩ () }

end Standard

namespace Pipeline

/-- The pipeline of the standard processors. -/
def standard (options : RunOptions) (settings : StandardSettings) : Pipeline :=
  { options
    pre := [Standard.trimCells]
    generators := [Standard.codeGenerator]
    data :=
      [Standard.structuredValues, Standard.references settings.known,
        Standard.localization settings.localization settings.reserved]
    validators :=
      [Standard.validator "schema" 0 fun input => Standard.schemaFindings input.schema,
        Standard.validator "reference-types" 10 fun input =>
          Standard.referenceFindings settings.known input.schema,
        Standard.validator "cell-values" 20 fun input => input.cellErrors.map Standard.cellFinding,
        Standard.validator "rules" 30 (Standard.ruleFindings settings.rules)]
    post := [Standard.payload] }

end Pipeline

end SheetCompiler
