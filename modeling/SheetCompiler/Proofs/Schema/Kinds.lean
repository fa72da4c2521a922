import Mathlib.Data.List.Induction
import SheetCompiler.Pipeline.Standard
import SheetCompiler.Proofs.Schema.Header
import SheetCompiler.Proofs.Sheet.Settled

/-!
# Kinds of fields

The kind of a field agrees with its type from the header on, through counting, linking and
marking. Counts cover each data cell of the field once.
-/

set_option autoImplicit false

namespace SheetCompiler

/-! ## Counts -/

namespace ShapeStats

variable {stats : ShapeStats} {reports : List CellReport}

/-- Counts of some cells. -/
structure Covers (stats : ShapeStats) (cells : Nat) : Prop where
  total : stats.totalRows = cells
  valid : stats.validRows ≤ stats.totalRows

/-- What the reports on some cells come to. -/
structure Counts (stats : ShapeStats) (reports : List CellReport) : Prop where
  total : stats.totalRows = reports.length
  valid : stats.validRows = reports.countP (·.isValid)
  least : stats.minColumns = (reports.flatMap (·.widths)).min?
  greatest : stats.maxColumns = (reports.flatMap (·.widths)).max?

theorem Counts.covers (counts : stats.Counts reports) : stats.Covers reports.length where
  total := counts.total
  valid := by
    rw [counts.total, counts.valid]
    exact List.countP_le_length

theorem counts_empty : empty.Counts [] := ⟨rfl, rfl, rfl, rfl⟩

theorem least_addWidth {seen : List Nat} (least : stats.minColumns = seen.min?) (width : Nat) :
    (stats.addWidth width).minColumns = (seen ++ [width]).min? := by
  rw [addWidth, least]
  cases seen with
  | nil => rfl
  | cons first seen =>
      rw [List.cons_append, List.min?_cons', List.min?_cons', List.foldl_append]
      rfl

theorem greatest_addWidth {seen : List Nat} (greatest : stats.maxColumns = seen.max?)
    (width : Nat) : (stats.addWidth width).maxColumns = (seen ++ [width]).max? := by
  rw [addWidth, greatest]
  cases seen with
  | nil => rfl
  | cons first seen =>
      rw [List.cons_append, List.max?_cons', List.max?_cons', List.foldl_append]
      rfl

/-- The bounds run over the widths of all cells; the other counts do not see them. -/
theorem foldl_addWidth (stats : ShapeStats) {seen : List Nat} (least : stats.minColumns = seen.min?)
    (greatest : stats.maxColumns = seen.max?) (widths : List Nat) :
    widths.foldl addWidth stats =
      ⟨stats.totalRows, stats.validRows, (seen ++ widths).min?, (seen ++ widths).max?⟩ := by
  induction widths generalizing stats seen with
  | nil =>
      rw [List.append_nil, ← least, ← greatest]
      rfl
  | cons width widths ih =>
      have next := ih (stats.addWidth width) (least_addWidth least width)
        (greatest_addWidth greatest width)
      rwa [List.append_assoc, List.singleton_append] at next

theorem Counts.record (counts : stats.Counts reports) (report : CellReport) :
    (stats.record report.isValid report.widths).Counts (reports ++ [report]) := by
  have widths : (reports ++ [report]).flatMap (·.widths) =
      reports.flatMap (·.widths) ++ report.widths := by simp
  let counted : ShapeStats :=
    { stats with
      totalRows := stats.totalRows + 1
      validRows := stats.validRows + if report.isValid then 1 else 0 }
  have run := counted.foldl_addWidth counts.least counts.greatest report.widths
  rw [ShapeStats.record]
  rw [run, ← widths]
  refine ⟨?_, ?_, rfl, rfl⟩
  · rw [List.length_append, ← counts.total]
    rfl
  · rw [List.countP_append, ← counts.valid, List.countP_singleton]

theorem counts_foldl_record (reports : List CellReport) :
    (reports.foldl (fun stats report => stats.record report.isValid report.widths) empty).Counts
      reports := by
  induction reports using List.reverseRecOn with
  | nil => exact counts_empty
  | append_singleton reports report ih =>
      rw [List.foldl_append]
      exact ih.record report

/-- Two bounds that differ are two widths that differ. -/
theorem Counts.isRagged_iff (counts : stats.Counts reports) :
    stats.isRagged = true ↔ ∃ width ∈ reports.flatMap (·.widths),
      ∃ other ∈ reports.flatMap (·.widths), width ≠ other := by
  unfold isRagged
  rw [counts.least, counts.greatest, bne_iff_ne]
  generalize reports.flatMap (·.widths) = widths
  constructor
  · intro differ
    cases least : widths.min? with
    | none =>
        obtain rfl := List.min?_eq_none_iff.mp least
        exact absurd rfl differ
    | some width =>
        cases greatest : widths.max? with
        | none =>
            obtain rfl := List.max?_eq_none_iff.mp greatest
            exact absurd rfl differ
        | some other =>
            refine ⟨width, (List.min?_eq_some_iff.mp least).1, other,
              (List.max?_eq_some_iff.mp greatest).1, ?_⟩
            rintro rfl
            exact differ (least.trans greatest.symm)
  · rintro ⟨width, member, other, also, differ⟩ same
    cases least : widths.min? with
    | none =>
        obtain rfl := List.min?_eq_none_iff.mp least
        cases member
    | some bound =>
        have below := (List.min?_eq_some_iff.mp least).2
        have above := (List.max?_eq_some_iff.mp (same ▸ least)).2
        have left := Nat.le_antisymm (below width member) (above width member)
        have right := Nat.le_antisymm (below other also) (above other also)
        exact differ (left.symm.trans right)

end ShapeStats

namespace Field

variable {field : Field} {texts : List String} {stats : ShapeStats}

theorem stats?_countCells (field : Field) (texts : List String) :
    (field.countCells texts).stats? = field.stats?.map fun stats =>
      (texts.map field.reportOn).foldl
        (fun stats report => stats.record report.isValid report.widths) stats := by
  simp only [List.foldl_map]
  obtain ⟨name, column, type, declared, scope, kind, defaultText, description, header⟩ := field
  cases kind <;> rfl

theorem counts_countCells (starts : ∀ start, field.stats? = some start → start = .empty)
    (counted : (field.countCells texts).stats? = some stats) :
    stats.Counts (texts.map field.reportOn) := by
  rw [stats?_countCells] at counted
  obtain ⟨start, found, rfl⟩ := Option.map_eq_some_iff.mp counted
  obtain rfl := starts start found
  exact ShapeStats.counts_foldl_record (texts.map field.reportOn)

end Field

/-! ## Agreement -/

/-- A kind that goes with a type: localized ones with texts, plain ones with scalars, shaped
ones with their shape, and references with ids of any shape. -/
inductive FieldKind.Agrees : FieldKind → FieldType → Prop where
  | plain (base : BaseType) : Agrees .plain (.scalar base)
  | localized : Agrees .localized (.scalar .string)
  | array (base : BaseType) (stats : ShapeStats) : Agrees (.array stats) (.array base)
  | pairs (key value : BaseType) (stats : ShapeStats) : Agrees (.array stats) (.pairs key value)
  | matrix (base : BaseType) (stats : ShapeStats) : Agrees (.matrix stats) (.matrix base)
  | map (key value : BaseType) (stats : ShapeStats) :
      Agrees (.map FieldKind.mapEntry stats) (.map key value)
  | reference {target : ReferenceTarget} {type : FieldType} (ids : type.element = .int32)
      (named : target.typeName ≠ "") (shaped : target.stats.isSome = !type.isScalar) :
      Agrees (.reference target) type

/-- The kind of a field goes with its type. -/
def Field.Agrees (field : Field) : Prop := field.kind.Agrees field.type

theorem FieldKind.Agrees.updateStats {kind : FieldKind} {type : FieldType}
    (agrees : kind.Agrees type) (update : ShapeStats → ShapeStats) :
    (kind.updateStats update).Agrees type := by
  cases agrees with
  | plain base => exact .plain base
  | localized => exact .localized
  | array base stats => exact .array base (update stats)
  | pairs key value stats => exact .pairs key value (update stats)
  | matrix base stats => exact .matrix base (update stats)
  | map key value stats => exact .map key value (update stats)
  | reference ids named shaped =>
      exact .reference ids named (by rwa [Option.isSome_map])

namespace Field

variable {field : Field}

theorem Agrees.countCells (agrees : field.Agrees) (texts : List String) :
    (field.countCells texts).Agrees := agrees.updateStats _

theorem Agrees.markReference (agrees : field.Agrees) (known : KnownTypes) :
    (Standard.markReference known field).Agrees := by
  obtain ⟨name, column, type, declared, scope, kind, defaultText, description, header⟩ := field
  cases agrees with
  | plain base => exact .plain base
  | localized => exact .localized
  | array base stats => exact .array base stats
  | pairs key value stats => exact .pairs key value stats
  | matrix base stats => exact .matrix base stats
  | map key value stats => exact .map key value stats
  | reference ids named shaped => exact .reference ids named shaped

theorem Agrees.type_eq (agrees : field.Agrees) (localized : field.kind = .localized) :
    field.type = FieldType.text := by
  obtain ⟨name, column, type, declared, scope, kind, defaultText, description, header⟩ := field
  cases agrees with
  | localized => rfl
  | plain _ | array _ _ | pairs _ _ _ | matrix _ _ | map _ _ _ | reference _ _ _ =>
      cases localized

theorem Agrees.markLocalized (agrees : field.Agrees) (text : field.type = FieldType.text) :
    (LocalizedTable.markLocalized field).Agrees := by
  unfold LocalizedTable.markLocalized
  split
  · change FieldKind.Agrees .localized field.type
    rw [text]
    exact .localized
  · exact agrees

end Field

namespace Column

theorem scope_toField (column : Column) : column.toField.1.scope = column.header.scope := rfl

theorem element_withElement (base : BaseType) (type : FieldType) :
    (type.withElement base).element = base := by
  cases type <;> rfl

theorem isScalar_withElement (base : BaseType) (type : FieldType) :
    (type.withElement base).isScalar = type.isScalar := by
  cases type <;> rfl

/-- The header and the declared type choose a kind that agrees with the type. -/
theorem agrees_toField {column : Column} (named : IsNamed column.header.referenceTarget) :
    column.toField.1.Agrees := by
  unfold Field.Agrees toField kind
  dsimp only
  cases refers : column.header.referenceTarget with
  | some target =>
      refine .reference (element_withElement _ _) (named target refers) ?_
      rw [isScalar_withElement]
      cases column.resolution.type.isScalar <;> rfl
  | none =>
      dsimp only
      cases column.resolution.type with
      | array base => exact .array base .empty
      | pairs key value => exact .pairs key value .empty
      | matrix base => exact .matrix base .empty
      | map key value => exact .map key value .empty
      | scalar base =>
          dsimp only
          split
          · exact .plain base
          · split
            · rename_i text
              rw [text]
              exact .localized
            · exact .plain base

/-- Nothing is counted before the data is read. -/
theorem stats?_toField {column : Column} {stats : ShapeStats}
    (counted : column.toField.1.stats? = some stats) : stats = .empty := by
  unfold Field.stats? toField kind at counted
  dsimp only at counted
  cases refers : column.header.referenceTarget with
  | some target =>
      rw [refers] at counted
      change (if column.resolution.type.isScalar then none else some ShapeStats.empty) = _
        at counted
      split at counted
      · cases counted
      · exact (Option.some.inj counted).symm
  | none =>
      rw [refers] at counted
      dsimp only at counted
      cases type : column.resolution.type with
      | array base => rw [type] at counted; exact (Option.some.inj counted).symm
      | pairs key value => rw [type] at counted; exact (Option.some.inj counted).symm
      | matrix base => rw [type] at counted; exact (Option.some.inj counted).symm
      | map key value => rw [type] at counted; exact (Option.some.inj counted).symm
      | scalar base =>
          rw [type] at counted
          dsimp only at counted
          repeat' split at counted
          all_goals cases counted

end Column

/-- No field of a schema that is read off a header has counted anything. -/
theorem Schema.stats?_ofSheet {sheet : Sheet} {nameSpace : String} {schema : Schema}
    {diagnostics : List Diagnostic}
    (resolves : Schema.ofSheet sheet nameSpace = .ok (schema, diagnostics)) {field : Field}
    (member : field ∈ schema.fields) {start : ShapeStats} (starts : field.stats? = some start) :
    start = .empty := by
  rw [fields_ofSheet resolves] at member
  obtain ⟨column, -, rfl⟩ := List.mem_map.mp member
  exact Column.stats?_toField starts

end SheetCompiler
