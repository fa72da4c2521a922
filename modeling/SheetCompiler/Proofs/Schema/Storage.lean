import Mathlib.Algebra.Group.Nat.Defs
import Mathlib.Data.List.Nodup
import SheetCompiler.Proofs.Document.RoundTrip
import SheetCompiler.Schema.Storage

/-!
# The round trip of stored schemas

A stored schema is read back as the schema it was. The numbers in it are
positions and counts, which are natural numbers of 64 bits.
-/

set_option autoImplicit false

namespace SheetCompiler

/-! ## Sizes -/

structure ShapeStats.IsSized (stats : ShapeStats) : Prop where
  totalRows : stats.totalRows < 2 ^ 64
  validRows : stats.validRows < 2 ^ 64
  minColumns : ∀ width ∈ stats.minColumns, width < 2 ^ 64
  maxColumns : ∀ width ∈ stats.maxColumns, width < 2 ^ 64

structure Field.IsSized (field : Field) : Prop where
  column : field.column < 2 ^ 64
  stats : ∀ stats ∈ field.stats?, stats.IsSized

/-- Positions and counts fit 64 bits. -/
def Schema.IsSized (schema : Schema) : Prop := ∀ field ∈ schema.fields, field.IsSized

instance (stats : ShapeStats) : Decidable stats.IsSized :=
  decidable_of_iff
    (stats.totalRows < 2 ^ 64 ∧ stats.validRows < 2 ^ 64 ∧
      (∀ width ∈ stats.minColumns, width < 2 ^ 64) ∧ ∀ width ∈ stats.maxColumns, width < 2 ^ 64)
    ⟨fun ⟨total, valid, least, greatest⟩ => ⟨total, valid, least, greatest⟩,
      fun sized => ⟨sized.totalRows, sized.validRows, sized.minColumns, sized.maxColumns⟩⟩

instance (field : Field) : Decidable field.IsSized :=
  decidable_of_iff (field.column < 2 ^ 64 ∧ ∀ stats ∈ field.stats?, stats.IsSized)
    ⟨fun ⟨column, stats⟩ => ⟨column, stats⟩, fun sized => ⟨sized.column, sized.stats⟩⟩

instance (schema : Schema) : Decidable schema.IsSized :=
  inferInstanceAs (Decidable (∀ field ∈ schema.fields, field.IsSized))

/-! ## Parts of documents -/

namespace Document

theorem natural?_natDocument (n : Nat) : (natDocument n).natural? = some n := by
  simp [natDocument, natural?]

theorem IsStored.natDocument {n : Nat} (sized : n < 2 ^ 64) : (natDocument n).IsStored :=
  .integer (by omega) (by omega)

section Optional

variable {α : Type} {encode : α → Document} {decode : Document → Option α}

theorem optional?_optionalDocument (shown : ∀ value, (encode value).isNull = false)
    (back : ∀ value, decode (encode value) = some value) (held : Option α) :
    (optionalDocument encode held).optional? decode = some held := by
  cases held with
  | none => rfl
  | some value => simp [optionalDocument, optional?, shown, back]

theorem IsStored.optionalDocument {held : Option α}
    (stored : ∀ value ∈ held, (encode value).IsStored) :
    (optionalDocument encode held).IsStored := by
  cases held with
  | none => exact .null
  | some value => exact stored value rfl

theorem list?_map {items : List α} (back : ∀ item ∈ items, decode (encode item) = some item) :
    list? decode (.array (items.map encode)) = some items := by
  rw [list?]
  induction items with
  | nil => rfl
  | cons item items ih =>
      rw [List.map_cons, List.mapM_cons, back item List.mem_cons_self,
        ih fun other listed => back other (.tail _ listed)]
      rfl

end Optional

theorem IsStored.array_map {α : Type} {encode : α → Document} {items : List α}
    (stored : ∀ item ∈ items, (encode item).IsStored) :
    (Document.array (items.map encode)).IsStored := by
  refine .array fun document listed => ?_
  obtain ⟨item, inside, rfl⟩ := List.mem_map.mp listed
  exact stored item inside

/-- A record with different member names has its members as its parts. -/
theorem Parts.ofDocument?_object {style : Notation} {names : List String}
    {members : List (String × Document)} (distinct : (members.map (·.1)).Nodup) :
    Parts.ofDocument? style names (.object members) = some (.named members) := by
  have once : isUnambiguous names members = true := by
    simp only [isUnambiguous, List.all_eq_true, decide_eq_true_eq]
    intro name _
    have counted := List.nodup_iff_count_le_one.mp distinct name
    rwa [List.count, List.countP_map] at counted
  rw [Parts.ofDocument?, if_pos once]

end Document

/-! ## Types -/

theorem BaseType.ofDocument?_toDocument (base : BaseType) :
    ofDocument? base.toDocument = some base := by
  cases base <;> decide

theorem Scope.ofDocument?_schemaName (scope : Scope) :
    ofDocument? (.string scope.schemaName) = some scope := by
  cases scope <;> decide

namespace FieldType

theorem pairOfDocument?_pairDocument (key value : BaseType) :
    pairOfDocument? (pairDocument key value) = some (key, value) := by
  rw [pairOfDocument?, pairDocument, Document.Parts.ofDocument?_object (by simp)]
  simp [Document.Parts.required?, Document.Parts.find?, BaseType.ofDocument?_toDocument]

theorem ofDocument?_toDocument (type : FieldType) : ofDocument? type.toDocument = some type := by
  cases type <;>
    simp [ofDocument?, toDocument, Document.alternative?, BaseType.ofDocument?_toDocument,
      pairOfDocument?_pairDocument]

end FieldType

/-! ## Kinds -/

theorem ShapeStats.ofDocument?_toDocument (stats : ShapeStats) :
    ofDocument? stats.toDocument = some stats := by
  rw [ofDocument?, toDocument, Document.Parts.ofDocument?_object (by simp)]
  simp [Document.Parts.required?, Document.Parts.nullable?, Document.Parts.find?,
    Document.natural?_natDocument,
    Document.optional?_optionalDocument (fun _ => rfl) Document.natural?_natDocument]

/-- Counts that were left out are absent again. -/
theorem ReferenceTarget.ofDocument?_toDocument (target : ReferenceTarget) :
    ofDocument? target.toDocument = some target := by
  obtain ⟨typeName, resolved, stats⟩ := target
  cases stats with
  | none =>
      rw [ofDocument?, toDocument, Document.Parts.ofDocument?_object (by simp)]
      simp [Document.Parts.required?, Document.Parts.defaulted?, Document.Parts.find?,
        Document.text?, Document.bool?]
  | some stats =>
      have counted : Document.optional? ShapeStats.ofDocument? stats.toDocument =
          some (some stats) :=
        Document.optional?_optionalDocument (fun _ => rfl) ShapeStats.ofDocument?_toDocument
          (some stats)
      rw [ofDocument?, toDocument, Document.Parts.ofDocument?_object (by simp)]
      simp [Document.Parts.required?, Document.Parts.defaulted?, Document.Parts.find?,
        Document.text?, Document.bool?, counted]

theorem FieldKind.ofDocument?_toDocument (kind : FieldKind) :
    ofDocument? kind.toDocument = some kind := by
  cases kind with
  | plain | localized => rfl
  | reference target =>
      simp [ofDocument?, toDocument, Document.alternative?, ReferenceTarget.ofDocument?_toDocument]
  | array stats | matrix stats =>
      simp [ofDocument?, toDocument, Document.alternative?, ShapeStats.ofDocument?_toDocument]
  | map entry stats =>
      simp only [ofDocument?, toDocument, Document.alternative?, Option.bind_eq_bind,
        Option.bind_some, mapOfDocument?]
      rw [Document.Parts.ofDocument?_object (by simp)]
      simp [Document.Parts.required?, Document.Parts.find?, Document.text?,
        ShapeStats.ofDocument?_toDocument]

/-! ## Fields and schemas -/

theorem Field.ofDocument?_toDocument (field : Field) :
    ofDocument? field.toDocument = some field := by
  have defaultText : Document.optional? Document.text?
      (optionalDocument Document.string field.defaultText) = some field.defaultText := by
    cases field.defaultText <;> rfl
  rw [ofDocument?, toDocument, Document.Parts.ofDocument?_object (by simp)]
  simp [Document.Parts.required?, Document.Parts.nullable?, Document.Parts.find?,
    Document.text?, Document.natural?_natDocument, FieldType.ofDocument?_toDocument,
    Scope.ofDocument?_schemaName, FieldKind.ofDocument?_toDocument, defaultText]

theorem SchemaMetadata.ofDocument?_toDocument (metadata : SchemaMetadata) :
    ofDocument? metadata.toDocument = some metadata := by
  have texts (items : List String) :
      Document.list? Document.text? (.array (items.map .string)) = some items :=
    Document.list?_map fun _ _ => rfl
  rw [ofDocument?, toDocument, Document.Parts.ofDocument?_object (by simp)]
  simp [Document.Parts.required?, Document.Parts.find?, texts]

theorem Schema.ofDocument?_toDocument (schema : Schema) :
    ofDocument? schema.toDocument = some schema := by
  have fields : Document.list? Field.ofDocument? (.array (schema.fields.map Field.toDocument)) =
      some schema.fields := Document.list?_map fun field _ => field.ofDocument?_toDocument
  rw [ofDocument?, toDocument, Document.Parts.ofDocument?_object (by simp)]
  simp [Document.Parts.required?, Document.Parts.defaulted?, Document.Parts.find?,
    Document.text?, fields, SchemaMetadata.ofDocument?_toDocument]

/-! ## Leaves -/

theorem FieldType.isStored_toDocument (type : FieldType) : type.toDocument.IsStored := by
  have pair (key value : BaseType) : (pairDocument key value).IsStored :=
    .object (by simp [BaseType.toDocument, Document.IsStored.string])
  cases type <;>
    exact .object (by simp [BaseType.toDocument, Document.IsStored.string, pair])

theorem ShapeStats.isStored_toDocument {stats : ShapeStats} (sized : stats.IsSized) :
    stats.toDocument.IsStored := by
  have totalRows : (natDocument stats.totalRows).IsStored := .natDocument sized.totalRows
  have validRows : (natDocument stats.validRows).IsStored := .natDocument sized.validRows
  have minColumns : (optionalDocument natDocument stats.minColumns).IsStored :=
    .optionalDocument fun width held => .natDocument (sized.minColumns width held)
  have maxColumns : (optionalDocument natDocument stats.maxColumns).IsStored :=
    .optionalDocument fun width held => .natDocument (sized.maxColumns width held)
  exact .object (by simp [totalRows, validRows, minColumns, maxColumns])

theorem FieldKind.isStored_toDocument {kind : FieldKind}
    (sized : ∀ stats ∈ kind.stats?, stats.IsSized) : kind.toDocument.IsStored := by
  cases kind with
  | plain | localized => exact .string
  | reference target =>
      obtain ⟨typeName, resolved, stats⟩ := target
      have content : (ReferenceTarget.toDocument ⟨typeName, resolved, stats⟩).IsStored := by
        cases stats with
        | none => exact .object (by simp [Document.IsStored.string, Document.IsStored.bool])
        | some stats =>
            have counted := ShapeStats.isStored_toDocument (sized stats rfl)
            exact .object (by simp [Document.IsStored.string, Document.IsStored.bool, counted])
      exact .object (by simp [content])
  | array stats | matrix stats =>
      have counted := ShapeStats.isStored_toDocument (sized stats rfl)
      exact .object (by simp [counted])
  | map entry stats =>
      have counted := ShapeStats.isStored_toDocument (sized stats rfl)
      have content : (Document.object [("entry", .string entry),
          ("stats", stats.toDocument)]).IsStored :=
        .object (by simp [Document.IsStored.string, counted])
      exact .object (by simp [content])

theorem Field.isStored_toDocument {field : Field} (sized : field.IsSized) :
    field.toDocument.IsStored := by
  have column : (natDocument field.column).IsStored := .natDocument sized.column
  have kind : field.kind.toDocument.IsStored := FieldKind.isStored_toDocument sized.stats
  have defaultText : (optionalDocument .string field.defaultText).IsStored :=
    .optionalDocument fun _ _ => .string
  exact .object (by
    simp [Document.IsStored.string, FieldType.isStored_toDocument, column, kind, defaultText])

theorem Schema.isStored_toDocument {schema : Schema} (sized : schema.IsSized) :
    schema.toDocument.IsStored := by
  have texts (items : List String) : (Document.array (items.map .string)).IsStored :=
    .array_map fun _ _ => .string
  have metadata : schema.metadata.toDocument.IsStored := .object (by simp [texts])
  have fields : (Document.array (schema.fields.map Field.toDocument)).IsStored :=
    .array_map fun field listed => Field.isStored_toDocument (sized field listed)
  exact .object (by simp [Document.IsStored.string, fields, metadata])

/-- A stored schema is read back as the schema it was. -/
theorem Schema.ofJson?_toJson {schema : Schema} (sized : schema.IsSized) :
    ofJson? schema.toJson = some schema := by
  rw [ofJson?, toJson, Json.read?_render (isStored_toDocument sized), Option.bind_some,
    ofDocument?_toDocument]

/-- A schema with a field of each kind and texts that are written with escapes. -/
def Schema.everyKind : Schema where
  name := "Item \"A\\B\""
  nameSpace := "game.\n\t\x01\x7fé漢😀"
  fields :=
    [field 0 (.scalar .int32) .plain none,
      field 1 (.scalar .string) .localized (some ""),
      field 2 (.scalar .uint64) (.reference ⟨"Hero", true, none⟩) (some "\\u0000"),
      field 3 (.array .int16) (.reference ⟨"", false, some ⟨2 ^ 64 - 1, 0, none, some 3⟩⟩) none,
      field 4 (.pairs .string .bool) (.array ⟨2, 1, some 0, some 7⟩) none,
      field 5 (.matrix .double) (.matrix .empty) none,
      field (2 ^ 64 - 1) (.map .int8 .float) (.map FieldKind.mapEntry .empty) none]
  metadata := ⟨["Name", "Name"], ["ITEM_1_NAME"]⟩
where
  field (column : Nat) (type : FieldType) (kind : FieldKind) (defaultText : Option String) :
      Field :=
    { name := "Name", column, type, declared := type.display, scope := .clientOnly, kind,
      defaultText, description := "\r\n", header := "Name:C" }

theorem Schema.ofJson?_toJson_everyKind :
    everyKind.IsSized ∧ ofJson? everyKind.toJson = some everyKind :=
  ⟨by decide, ofJson?_toJson (by decide)⟩

end SheetCompiler
