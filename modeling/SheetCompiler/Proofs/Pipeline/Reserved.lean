import SheetCompiler.Proofs.Localization.Independence
import SheetCompiler.Proofs.Pipeline.Repetition
import SheetCompiler.Proofs.Pipeline.Success
import SheetCompiler.Proofs.Validation.Marks
import SheetCompiler.Proofs.Validation.Suffixes

/-!
# Runs with reserved keys

Reserved keys decide which suffixes the keys of a run have, and nothing else in its cells. A
run succeeds or fails whichever keys are reserved, as long as no rule notices suffixes. What a
run produces apart from its keys does not depend on them at all.
-/

set_option autoImplicit false

namespace SheetCompiler

namespace LocalizedTable

variable {rules : LocalizationRules} {schema : Schema} {sheet : Sheet}
  {table other : LocalizationTable} {issued more : List IssuedText} {former later : LocalizedTable}

/-- A text that has been moved leaves a key of its own base behind. -/
theorem Extracts.exists_marked (extracts : Extracts rules schema sheet table issued former)
    (bases : ∀ entry ∈ former.table.entries, entry.HasBase rules.settings.summaryWords)
    {text : MovedText} (moves : text ∈ rules.moves schema sheet) :
    ∃ n, former.sheet.cell text.row text.column =
      Localization.keyMark ++ LocalizationTable.suffixed
        (Localization.keyBase text.field text.text rules.settings.summaryWords) n := by
  rw [← extracts.texts] at moves
  obtain ⟨text, listed, rfl⟩ := List.mem_map.mp moves
  obtain ⟨n, key⟩ := bases _ (extracts.entry_mem listed)
  refine ⟨n, ?_⟩
  rw [Sheet.cell, ← Sheet.cell?, extracts.marked text listed]
  exact congrArg (Localization.keyMark ++ ·) key

/-- Two extractions from one sheet differ in the suffixes of keys alone. -/
theorem Extracts.cellsAlike (first : Extracts rules schema sheet table issued former)
    (second : Extracts rules schema sheet other more later)
    (proper : Standard.IsProper schema)
    (bases : ∀ entry ∈ former.table.entries, entry.HasBase rules.settings.summaryWords)
    (others : ∀ entry ∈ later.table.entries, entry.HasBase rules.settings.summaryWords)
    {field : Field} (member : field ∈ schema.fields) (row : Nat) :
    CellsAlike ((rules.moves schema sheet).map (·.field))
      (field, former.sheet.cell row field.column) (field, later.sheet.cell row field.column) := by
  refine ⟨rfl, ?_⟩
  have places {issued : List IssuedText} (texts : issued.map (·.toMovedText) =
      rules.moves schema sheet) :
      issued.map (·.place) = (rules.moves schema sheet).map MovedText.place := by
    rw [← texts, List.map_map]
    rfl
  by_cases inside : (row, field.column) ∈ (rules.moves schema sheet).map MovedText.place
  · obtain ⟨text, moves, here⟩ := List.mem_map.mp inside
    obtain ⟨rfl, column⟩ := Prod.mk.inj here
    obtain ⟨origin, listed, detected, within⟩ := LocalizationRules.mem_moves.mp moves
    obtain ⟨named, located, -⟩ := LocalizationRules.mem_movesIn.mp within
    obtain rfl := List.inj_on_of_nodup_map proper.columns listed member (located.symm.trans column)
    obtain ⟨n, left⟩ := first.exists_marked bases moves
    obtain ⟨m, right⟩ := second.exists_marked others moves
    rw [column, named] at left right
    have plain := proper.plain _ (List.mem_map_of_mem listed)
    exact .inr ⟨named ▸ List.mem_map_of_mem moves,
      Standard.type_of_detects (proper.texts _ listed) detected,
      _, n, m, Localization.isKey_keyBase plain _ _, left, right⟩
  · refine .inl (congrArg (Option.getD · "") ?_)
    have left := first.kept row field.column (places first.texts ▸ inside)
    have right := second.kept row field.column (places second.texts ▸ inside)
    exact right.trans left.symm

end LocalizedTable

namespace Standard

variable {settings : StandardSettings} {nameSpace : String} {sheet source : Sheet}
  {schema resolved : Schema} {diagnostics : List Diagnostic} {moved other : LocalizedTable}

/-! ## Fields that lose texts -/

/-- The fields of a table out of which a run moves texts. -/
def movedFields (known : KnownTypes) (localization : LocalizationSettings) (nameSpace : String)
    (sheet : Sheet) : List String :=
  match Schema.ofSheet (cleaned sheet) nameSpace, LocalizationRules.ofSettings localization with
  | .ok (schema, _), .ok rules =>
      let (schema, sheet) := normalized known schema (cleaned sheet)
      if localization.enabled then (rules.moves schema sheet).map (·.field) else []
  | _, _ => []

theorem movedFields_eq {known : KnownTypes} {localization : LocalizationSettings}
    {rules : LocalizationRules} (enabled : localization.enabled = true)
    (read : LocalizationRules.ofSettings localization = .ok rules)
    (resolves : Schema.ofSheet (cleaned sheet) nameSpace = .ok (resolved, diagnostics)) :
    movedFields known localization nameSpace sheet =
      (rules.moves (normalized known resolved (cleaned sheet)).1
        (normalized known resolved (cleaned sheet)).2).map (·.field) := by
  unfold movedFields
  rw [resolves, read]
  dsimp only
  rw [enabled, if_pos rfl]

theorem detects_markReference (rules : LocalizationRules) (sheet : Sheet) (known : KnownTypes)
    (field : Field) :
    rules.detects sheet (markReference known field) = rules.detects sheet field := by
  obtain ⟨name, column, type, declared, scope, kind, defaultText, description, header⟩ := field
  cases kind <;> rfl

/-- Which references are known has no say in what is moved. -/
theorem moves_normalized (rules : LocalizationRules) (known others : KnownTypes) (schema : Schema)
    (sheet : Sheet) :
    rules.moves (normalized known schema sheet).1 (normalized known schema sheet).2 =
      rules.moves (normalized others schema sheet).1 (normalized others schema sheet).2 := by
  have marked (known : KnownTypes) :
      rules.moves (normalized known schema sheet).1 (normalized known schema sheet).2 =
        ((sheet.normalizeFields schema.fields).1.filter
          (rules.detects (sheet.normalizeFields schema.fields).2.1)).flatMap fun field =>
            rules.movesIn (sheet.normalizeFields schema.fields).2.1 field.name field.column := by
    unfold normalized linked LocalizationRules.moves
    dsimp only
    rw [List.filter_map, List.flatMap_map]
    have same : rules.detects (sheet.normalizeFields schema.fields).2.1 ∘ markReference known =
        rules.detects (sheet.normalizeFields schema.fields).2.1 :=
      funext fun field => detects_markReference rules _ known field
    rw [same]
    refine List.flatMap_congr fun field _ => ?_
    obtain ⟨name, column, type, declared, scope, kind, defaultText, description, header⟩ := field
    cases kind <;> rfl
  rw [marked, marked]

theorem movedFields_known (known others : KnownTypes) (localization : LocalizationSettings)
    (nameSpace : String) (sheet : Sheet) :
    movedFields known localization nameSpace sheet =
      movedFields others localization nameSpace sheet := by
  unfold movedFields
  split
  · rename_i schema _ rules _ _
    dsimp only
    rw [moves_normalized rules known others schema (cleaned sheet)]
  · rfl

/-! ## Other reserved keys -/

/-- Two runs that differ in their reserved keys find failures in the same tables. -/
theorem clean_reserved {keys : List String} (proper : IsProper resolved)
    (resolves : Schema.ofSheet (cleaned sheet) nameSpace = .ok (resolved, diagnostics))
    (marks : settings.rules.IgnoresMarks)
    (ignores : settings.rules.IgnoresSuffixes
      (movedFields settings.known settings.localization nameSpace sheet))
    (completes : processed settings resolved (cleaned sheet) = .ok moved)
    (finishes : processed { settings with reserved := keys } resolved (cleaned sheet) = .ok other) :
    (∀ finding ∈ (settings.rules.validate other.schema other.sheet).findings,
        finding.severity.isFailure = false) ↔
      ∀ finding ∈ (settings.rules.validate moved.schema moved.sheet).findings,
        finding.severity.isFailure = false := by
  have normal := isProper_normalized settings.known (cleaned sheet) proper
  rcases localized_cases completes with ⟨disabled, rfl⟩ | ⟨enabled, rules, read, rfl⟩
  · rcases localized_cases finishes with ⟨-, rfl⟩ | ⟨enabled, -⟩
    · rfl
    · rw [disabled] at enabled
      cases enabled
  · rcases localized_cases finishes with ⟨disabled, -⟩ | ⟨-, again, reads, rfl⟩
    · rw [enabled] at disabled
      cases disabled
    · rw [read] at reads
      obtain rfl := Except.ok.inj reads
      obtain ⟨issued, first⟩ := LocalizedTable.exists_extracts rules
        (normalized settings.known resolved (cleaned sheet)).2
        (LocalizationTable.isSound_empty.reserve settings.reserved) normal.names normal.columns
      obtain ⟨more, second⟩ := LocalizedTable.exists_extracts rules
        (normalized settings.known resolved (cleaned sheet)).2
        (LocalizationTable.isSound_empty.reserve keys) normal.names normal.columns
      rw [movedFields_eq enabled read resolves] at ignores
      -- declared rules see neither marks nor suffixes
      rw [marks.validate_eq (LocalizedTable.unmarked_extract _ _ _ _),
        marks.validate_eq (LocalizedTable.unmarked_extract _ _ _ _)]
      refine ignores.clean_iff (Sheet.rowsOf_alike ?_ fun field member row => ?_)
      · exact second.rowCount.trans first.rowCount.symm
      · exact first.cellsAlike second normal (LocalizedTable.hasBase_extract _ _ _ _ nofun)
          (LocalizedTable.hasBase_extract _ _ _ _ nofun) member row

theorem acceptable_of_reserved (settings : StandardSettings) (keys : List String)
    (marks : settings.rules.IgnoresMarks)
    (ignores : settings.rules.IgnoresSuffixes
      (movedFields settings.known settings.localization nameSpace sheet))
    (acceptable : Acceptable settings nameSpace sheet) :
    Acceptable { settings with reserved := keys } nameSpace sheet where
  header := acceptable.header
  keyPattern := acceptable.keyPattern
  names := acceptable.names
  targets := acceptable.targets
  rules schema diagnostics other resolves finishes := by
    obtain ⟨moved, completes⟩ :=
      (exists_processed_iff settings schema (cleaned sheet)).mpr acceptable.keyPattern
    have proper := isProper_resolved resolves (acceptable.names schema diagnostics resolves)
    exact (clean_reserved proper resolves marks ignores completes finishes).mpr
      (acceptable.rules schema diagnostics moved resolves completes)

/-- A table is acceptable whichever keys are reserved. -/
theorem acceptable_reserved_iff (keys : List String) (marks : settings.rules.IgnoresMarks)
    (ignores : settings.rules.IgnoresSuffixes
      (movedFields settings.known settings.localization nameSpace sheet)) :
    Acceptable { settings with reserved := keys } nameSpace sheet ↔
      Acceptable settings nameSpace sheet := by
  constructor
  · intro acceptable
    exact acceptable_of_reserved { settings with reserved := keys } settings.reserved marks ignores
      acceptable
  · exact acceptable_of_reserved settings keys marks ignores

end Standard

/-! ## Runs that differ in their keys -/

/-- The columns out of which a run has moved texts. -/
def RunReport.LosesTexts (report : RunReport) (column : Nat) : Prop :=
  ∃ schema, report.state.schema = some schema ∧
    ∃ entry ∈ report.state.localization.entries, schema.columnOf? entry.field = some column

/-- Two runs that produce the same up to the keys of texts. -/
structure RunReport.AlikeButKeys (report other : RunReport) : Prop where
  diagnostics : other.state.diagnostics = report.state.diagnostics
  files : other.state.files = report.state.files
  relations : other.state.relations = report.state.relations
  fields : other.state.schema.map (·.fields) = report.state.schema.map (·.fields)
  cellErrors : other.state.cellErrors = report.state.cellErrors
  losesTexts : ∀ column, other.LosesTexts column ↔ report.LosesTexts column
  sheet : Sheet.AgreeOff report.LosesTexts report.state.sheet other.state.sheet

theorem RunReport.AlikeButKeys.of_state_eq {report other : RunReport}
    (diagnostics : other.state.diagnostics = report.state.diagnostics)
    (files : other.state.files = report.state.files)
    (relations : other.state.relations = report.state.relations)
    (schema : other.state.schema = report.state.schema)
    (cellErrors : other.state.cellErrors = report.state.cellErrors)
    (localization : other.state.localization = report.state.localization)
    (sheet : other.state.sheet = report.state.sheet) : report.AlikeButKeys other where
  diagnostics := diagnostics
  files := files
  relations := relations
  fields := congrArg _ schema
  cellErrors := cellErrors
  losesTexts column := by rw [LosesTexts, LosesTexts, schema, localization]
  sheet := sheet ▸ .refl _ _

namespace Standard

variable {settings : StandardSettings} {schema : Schema} {source : Sheet}
  {moved other : LocalizedTable}

/-- Whichever keys are reserved, localization moves the same texts. -/
theorem processed_alikeButKeys (keys : List String)
    (completes : processed settings schema source = .ok moved) :
    ∃ other, processed { settings with reserved := keys } schema source = .ok other ∧
      LocalizedTable.AlikeButKeys moved other := by
  rcases localized_cases completes with ⟨disabled, rfl⟩ | ⟨enabled, rules, read, rfl⟩
  · refine ⟨_, if_neg (by simpa using disabled), rfl, fun _ => .rfl, .refl _ _⟩
  · have finishes : processed { settings with reserved := keys } schema source = .ok
        (rules.extract (normalized settings.known schema source).1
          (normalized settings.known schema source).2 (LocalizationTable.empty.reserve keys)) := by
      refine (if_pos enabled).trans ?_
      rw [read]
      rfl
    exact ⟨_, finishes, rules.extract_alikeButKeys _ _ rfl rfl⟩

theorem exists_error_of_reserved (keys : List String) {fault : InvalidKeyPattern}
    (fails : processed settings schema source = .error fault) :
    ∃ other, processed { settings with reserved := keys } schema source = .error other := by
  cases finishes : processed { settings with reserved := keys } schema source with
  | error other => exact ⟨other, rfl⟩
  | ok other =>
      obtain ⟨moved, completes, -⟩ := processed_alikeButKeys settings.reserved finishes
      rw [fails] at completes
      cases completes

theorem alikeButKeys_of_leaves {stops : Bool} {diagnostics : List Diagnostic}
    {former later : RunReport} {keys : List String}
    (alike : LocalizedTable.AlikeButKeys moved other)
    (leaves : Leaves settings stops schema source diagnostics moved former)
    (others : Leaves { settings with reserved := keys } stops schema source diagnostics other
      later) : former.AlikeButKeys later := by
  have loses {settings : StandardSettings} {moved : LocalizedTable} {report : RunReport}
      (leaves : Leaves settings stops schema source diagnostics moved report) (column : Nat) :
      report.LosesTexts column ↔ moved.LosesTexts column := by
    unfold RunReport.LosesTexts LocalizedTable.LosesTexts
    rw [leaves.schema, leaves.localization]
    simp
  refine ⟨others.diagnostics.trans leaves.diagnostics.symm, others.files.trans leaves.files.symm,
    others.relations.trans leaves.relations.symm, ?_,
    others.cellErrors.trans leaves.cellErrors.symm, fun column => ?_, ?_⟩
  · rw [others.schema, leaves.schema]
    exact congrArg some alike.fields
  · rw [loses others, loses leaves, alike.losesTexts]
  · rw [others.sheet, leaves.sheet]
    exact alike.sheet.mono fun column => (loses leaves column).mpr

/-- Runs without a budget produce the same but for their keys, wherever they stop. -/
theorem run_alikeButKeys (settings : StandardSettings) (keys : List String) (nameSpace : String)
    (stops : Bool) (clock watch : Clock) (cancelled : Bool) (sheet : Sheet) :
    ((Pipeline.standard ⟨nameSpace, stops, none⟩ settings).run clock cancelled
      sheet).AlikeButKeys
      ((Pipeline.standard ⟨nameSpace, stops, none⟩ { settings with reserved := keys }).run watch
        cancelled sheet) := by
  cases cancelled with
  | true => exact .of_state_eq rfl rfl rfl rfl rfl rfl rfl
  | false =>
      cases resolves : Schema.ofSheet (cleaned sheet) nameSpace with
      | error shortage =>
          obtain ⟨_, _, _, ran, -⟩ := run_shortage_leaves settings nameSpace stops clock resolves
          obtain ⟨_, _, _, ends, -⟩ := run_shortage_leaves { settings with reserved := keys }
            nameSpace stops watch resolves
          rw [ran, ends]
          exact .of_state_eq rfl rfl rfl rfl rfl rfl rfl
      | ok resolved =>
          obtain ⟨schema, diagnostics⟩ := resolved
          cases completes : processed settings schema (cleaned sheet) with
          | ok moved =>
              obtain ⟨other, finishes, alike⟩ := processed_alikeButKeys keys completes
              exact alikeButKeys_of_leaves alike
                (run_leaves settings nameSpace stops clock resolves completes)
                (run_leaves { settings with reserved := keys } nameSpace stops watch resolves
                  finishes)
          | error fault =>
              obtain ⟨other, fails⟩ := exists_error_of_reserved keys completes
              obtain ⟨_, _, _, ran, -⟩ :=
                run_invalidPattern_leaves settings nameSpace stops clock resolves completes
              obtain ⟨_, _, _, ends, -⟩ := run_invalidPattern_leaves
                { settings with reserved := keys } nameSpace stops watch resolves fails
              rw [ran, ends]
              exact .of_state_eq rfl rfl rfl rfl rfl rfl rfl

/-! ## Resolved references -/

/-- A reference is resolved exactly when its type is known. -/
def ResolvedBy (known : KnownTypes) (field : Field) : Prop :=
  ∀ target, field.reference? = some target → target.resolved = known.contains target.typeName

theorem resolvedBy_markReference (known : KnownTypes) (field : Field) :
    ResolvedBy known (markReference known field) := by
  intro target refers
  obtain ⟨name, column, type, declared, scope, kind, defaultText, description, header⟩ := field
  cases kind with
  | reference former =>
      obtain rfl := Option.some.inj refers
      rfl
  | plain | localized | array | matrix | map => cases refers

theorem resolvedBy_normalized (known : KnownTypes) (schema : Schema) (source : Sheet) :
    ∀ field ∈ (normalized known schema source).1.fields, ResolvedBy known field :=
  List.forall_mem_map.mpr fun field _ => resolvedBy_markReference known field

theorem reference?_unmarked (field : Field) : field.unmarked.reference? = field.reference? := by
  obtain ⟨name, column, type, declared, scope, kind, defaultText, description, header⟩ := field
  cases kind <;> rfl

/-- Localization leaves references as they are. -/
theorem resolvedBy_processed (completes : processed settings schema source = .ok moved) :
    ∀ field ∈ moved.schema.fields, ResolvedBy settings.known field := by
  have former := resolvedBy_normalized settings.known schema source
  rcases localized_cases completes with ⟨-, rfl⟩ | ⟨-, rules, -, rfl⟩
  · exact former
  · intro field member
    have marked : (rules.extract (normalized settings.known schema source).1
        (normalized settings.known schema source).2
        (LocalizationTable.empty.reserve settings.reserved)).schema.fields.map Field.unmarked = _ :=
      LocalizedTable.unmarked_extract rules _ _ _
    obtain ⟨origin, within, same⟩ :=
      List.mem_map.mp (marked ▸ List.mem_map_of_mem (f := Field.unmarked) member)
    intro target refers
    refine former origin within target ?_
    rw [← reference?_unmarked, same, reference?_unmarked]
    exact refers

/-- Where a run has a schema, its references are resolved by what it knows. -/
theorem resolvedBy_run (settings : StandardSettings) (nameSpace : String) (stops : Bool)
    (clock : Clock) (cancelled : Bool) (sheet : Sheet)
    (resolved : ((Pipeline.standard ⟨nameSpace, stops, none⟩ settings).run clock cancelled
      sheet).state.schema = some schema) :
    ∀ field ∈ schema.fields, ResolvedBy settings.known field := by
  cases cancelled with
  | true => cases resolved
  | false =>
      cases resolves : Schema.ofSheet (cleaned sheet) nameSpace with
      | error shortage =>
          obtain ⟨_, _, _, ran, -⟩ := run_shortage_leaves settings nameSpace stops clock resolves
          rw [ran] at resolved
          cases resolved
      | ok found =>
          obtain ⟨former, diagnostics⟩ := found
          cases completes : processed settings former (cleaned sheet) with
          | ok moved =>
              have leaves := run_leaves settings nameSpace stops clock resolves completes
              obtain rfl := Option.some.inj (leaves.schema.symm.trans resolved)
              exact resolvedBy_processed completes
          | error fault =>
              obtain ⟨_, _, _, ran, -⟩ :=
                run_invalidPattern_leaves settings nameSpace stops clock resolves completes
              rw [ran] at resolved
              obtain rfl := Option.some.inj resolved
              exact resolvedBy_normalized settings.known former (cleaned sheet)

end Standard

end SheetCompiler
