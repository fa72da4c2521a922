import SheetCompiler.Proofs.Localization.Independence
import SheetCompiler.Proofs.Schema.Kinds

/-!
# Listed fields

The schema lists its localized fields: once each, and no others. Extraction marks a field and
lists it in one go, so the list stays right, as long as no two fields share a name.
-/

set_option autoImplicit false

namespace SheetCompiler

namespace Schema

/-- The localized fields are those that the schema lists. -/
structure ListsLocalized (schema : Schema) : Prop where
  once : schema.metadata.localizedFields.Nodup
  mem_iff : ∀ name, name ∈ schema.metadata.localizedFields ↔
    ∃ field ∈ schema.fields, field.kind = .localized ∧ field.name = name

/-- The fields of a name are texts that can be localized. -/
def IsTextual (schema : Schema) (name : String) : Prop :=
  ∀ outline ∈ schema.fields.map Field.outline, outline.name = name →
    outline.kind = .plain ∧ outline.type = FieldType.text

theorem fields_modifyField {schema : Schema} (names : schema.fieldNames.Nodup) (name : String)
    (change : Field → Field) :
    (schema.modifyField name change).fields =
      schema.fields.map fun field => if field.name = name then change field else field := by
  unfold modifyField
  split
  · rename_i index found
    obtain ⟨bound, named, -⟩ := List.findIdx?_eq_some_iff_getElem.mp found
    apply List.ext_getElem?
    intro place
    rw [List.getElem?_map, List.getElem?_modify]
    cases here : schema.fields[place]? with
    | none => rfl
    | some field =>
        obtain ⟨inside, rfl⟩ := List.getElem?_eq_some_iff.mp here
        by_cases same : index = place
        · subst same
          simp [eq_of_beq named]
        · have apart : schema.fields[place].name ≠ name := by
            intro again
            have first : index < schema.fieldNames.length := by simpa [fieldNames] using bound
            have second : place < schema.fieldNames.length := by simpa [fieldNames] using inside
            have both : schema.fieldNames[index] = schema.fieldNames[place] := by
              simp [fieldNames, again, eq_of_beq named]
            exact same ((List.Nodup.getElem_inj_iff names).mp both)
          simp [same, apart]
  · rename_i absent
    rw [List.findIdx?_eq_none_iff] at absent
    symm
    refine (List.map_congr_left fun field member => ?_).trans (List.map_id _)
    have apart := absent field member
    simp_all

end Schema

namespace LocalizedTable

variable {rules : LocalizationRules} {state : LocalizedTable} {name : String}

theorem localizedFields_foldl_moveCell (column : Nat) (cells : List (Nat × String))
    (state : LocalizedTable) :
    (cells.foldl (moveCell rules name column) state).schema.metadata.localizedFields =
      state.schema.metadata.localizedFields := by
  induction cells generalizing state with
  | nil => rfl
  | cons cell cells ih =>
      rw [List.foldl_cons, ih]
      unfold moveCell
      dsimp only
      split <;> rfl

theorem localizedFields_moveField {field : Field} (found : state.schema.field? name = some field) :
    (moveField rules state name).schema.metadata.localizedFields =
      if state.schema.metadata.localizedFields.contains name then
        state.schema.metadata.localizedFields
      else state.schema.metadata.localizedFields ++ [name] := by
  have marked : (state.schema.modifyField name markLocalized).metadata = state.schema.metadata := by
    unfold Schema.modifyField
    split <;> rfl
  unfold moveField listField
  rw [found]
  dsimp only
  rw [localizedFields_foldl_moveCell, marked]
  split
  · exact (localizedFields_foldl_moveCell _ _ _).trans (congrArg (·.localizedFields) marked)
  · rfl

/-- Moving the texts of a field adds its name to the list, unless it is there. -/
theorem mem_localizedFields_moveField {field : Field}
    (found : state.schema.field? name = some field) (other : String) :
    other ∈ (moveField rules state name).schema.metadata.localizedFields ↔
      other ∈ state.schema.metadata.localizedFields ∨ other = name := by
  rw [localizedFields_moveField found]
  split
  · rename_i present
    rw [List.contains_iff_mem] at present
    constructor
    · exact .inl
    · rintro (former | rfl)
      · exact former
      · exact present
  · simp

theorem nodup_localizedFields_moveField
    (once : state.schema.metadata.localizedFields.Nodup) {field : Field}
    (found : state.schema.field? name = some field) :
    (moveField rules state name).schema.metadata.localizedFields.Nodup := by
  rw [localizedFields_moveField found]
  split
  · exact once
  · rename_i fresh
    rw [List.contains_iff_mem] at fresh
    rw [List.nodup_append]
    refine ⟨once, List.nodup_singleton name, ?_⟩
    intro other former last listed same
    rw [List.mem_singleton] at listed
    exact fresh (listed ▸ same ▸ former)

theorem kind_markLocalized {field : Field} (plain : field.outline.kind = .plain) :
    (markLocalized field).kind = .localized := by
  obtain ⟨name, column, type, declared, scope, kind, defaultText, description, header⟩ := field
  cases kind with
  | plain | localized => rfl
  | reference _ | array _ | matrix _ | map _ _ => cases plain

theorem name_markLocalized (field : Field) : (markLocalized field).name = field.name := by
  unfold markLocalized
  split <;> rfl

theorem listsLocalized_moveField (names : state.schema.fieldNames.Nodup)
    (listed : state.schema.ListsLocalized) (textual : state.schema.IsTextual name) {field : Field}
    (found : state.schema.field? name = some field) :
    (moveField rules state name).schema.ListsLocalized := by
  refine ⟨nodup_localizedFields_moveField listed.once found, fun other => ?_⟩
  have fields := fields_moveField rules state name
  rw [Schema.fields_modifyField names] at fields
  rw [mem_localizedFields_moveField found, listed.mem_iff, fields]
  constructor
  · rintro (⟨former, inside, kind, rfl⟩ | rfl)
    · refine ⟨_, List.mem_map_of_mem inside, ?_⟩
      split
      · rename_i same
        exact ⟨kind_markLocalized (textual _ (List.mem_map_of_mem inside) same).1,
          name_markLocalized former⟩
      · exact ⟨kind, rfl⟩
    · have member := List.mem_of_find?_eq_some found
      have named : field.name = other := by simpa using List.find?_some found
      refine ⟨_, List.mem_map_of_mem member, ?_⟩
      rw [if_pos named]
      exact ⟨kind_markLocalized (textual _ (List.mem_map_of_mem member) named).1,
        (name_markLocalized field).trans named⟩
  · rintro ⟨_, changed, kind, rfl⟩
    obtain ⟨former, inside, rfl⟩ := List.mem_map.mp changed
    by_cases same : former.name = name
    · right
      rw [if_pos same, name_markLocalized]
      exact same
    · left
      rw [if_neg same] at kind ⊢
      exact ⟨former, inside, kind, rfl⟩

/-- A schema whose fields have names of their own and kinds that agree with their types, and
which lists the localized ones. -/
structure IsConsistent (state : LocalizedTable) : Prop where
  names : state.schema.fieldNames.Nodup
  agrees : ∀ field ∈ state.schema.fields, field.Agrees
  listed : state.schema.ListsLocalized

theorem IsConsistent.moveField (consistent : state.IsConsistent)
    (textual : state.schema.IsTextual name) : (moveField rules state name).IsConsistent := by
  cases found : state.schema.field? name with
  | none =>
      have idle : LocalizedTable.moveField rules state name = state := by
        unfold LocalizedTable.moveField
        rw [found]
      rwa [idle]
  | some marked =>
      have outline := (moveField_frame rules state name).outline
      refine ⟨Schema.fieldNames_eq_of_outline outline ▸ consistent.names, ?_,
        listsLocalized_moveField consistent.names consistent.listed textual found⟩
      rw [fields_moveField, Schema.fields_modifyField consistent.names, List.forall_mem_map]
      intro field inside
      have agrees := consistent.agrees field inside
      split
      · rename_i same
        exact agrees.markLocalized (textual _ (List.mem_map_of_mem inside) same).2
      · exact agrees

theorem IsConsistent.foldl_moveField (consistent : state.IsConsistent) (names : List String)
    (textual : ∀ name ∈ names, state.schema.IsTextual name) :
    (names.foldl (LocalizedTable.moveField rules) state).IsConsistent := by
  induction names generalizing state with
  | nil => exact consistent
  | cons name names ih =>
      rw [List.forall_mem_cons] at textual
      refine ih (consistent.moveField textual.1) fun other later => ?_
      unfold Schema.IsTextual
      rw [(moveField_frame rules state name).outline]
      exact textual.2 other later

end LocalizedTable

/-- Only texts are detected, so extraction keeps kinds in agreement and the list complete. -/
theorem LocalizationRules.isConsistent_extract (rules : LocalizationRules) {schema : Schema}
    (sheet : Sheet) (table : LocalizationTable) (names : schema.fieldNames.Nodup)
    (agrees : ∀ field ∈ schema.fields, field.Agrees) (listed : schema.ListsLocalized) :
    (rules.extract schema sheet table).IsConsistent := by
  have start : LocalizedTable.IsConsistent ⟨schema, sheet, table, 0⟩ := ⟨names, agrees, listed⟩
  refine start.foldl_moveField _ fun name detected => ?_
  obtain ⟨field, kept, rfl⟩ := List.mem_map.mp detected
  obtain ⟨member, detects⟩ := List.mem_filter.mp kept
  intro outline outlined same
  obtain ⟨other, inside, rfl⟩ := List.mem_map.mp outlined
  obtain rfl := List.inj_on_of_nodup_map names inside member same
  have agreement := agrees other inside
  unfold LocalizationRules.detects at detects
  change FieldKind.outline other.kind = .plain ∧ other.type = FieldType.text
  cases kind : other.kind with
  | localized =>
      exact ⟨rfl, agreement.type_eq kind⟩
  | plain =>
      rw [kind] at detects
      simp only [Bool.and_eq_true, beq_iff_eq] at detects
      exact ⟨rfl, detects.1.2⟩
  | reference _ | array _ | matrix _ | map _ _ =>
      rw [kind] at detects
      cases detects

end SheetCompiler
