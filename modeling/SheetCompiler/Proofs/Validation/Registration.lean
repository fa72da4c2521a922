import Mathlib.Data.List.Induction
import SheetCompiler.Proofs.NameSet
import SheetCompiler.Proofs.Validation.Report
import SheetCompiler.Proofs.Validation.Walk

/-!
# Registered rules

Rules are registered one after the other, each into the place of its kind. Within its kind, and
within its field, a rule stands where it was registered; the order of registration has no say
beyond that.
-/

set_option autoImplicit false

namespace SheetCompiler

/-- A rule with the place that it is registered for. Rule sets are only made by registering
such rules. -/
inductive RuleEntry where
  | global (rule : RowRule)
  | field (name : String) (rule : FieldRule)
  | conditional (rule : ConditionalRule)
  | custom (rule : RowRule)

namespace RuleEntry

@[simp] def global? : RuleEntry → Option RowRule
  | global rule => some rule
  | field .. | conditional _ | custom _ => none

@[simp] def fieldName? : RuleEntry → Option String
  | field name _ => some name
  | global _ | conditional _ | custom _ => none

@[simp] def forField? (name : String) : RuleEntry → Option FieldRule
  | field other rule => if other = name then some rule else none
  | global _ | conditional _ | custom _ => none

@[simp] def conditional? : RuleEntry → Option ConditionalRule
  | conditional rule => some rule
  | global _ | field .. | custom _ => none

@[simp] def custom? : RuleEntry → Option RowRule
  | custom rule => some rule
  | global _ | field .. | conditional _ => none

end RuleEntry

namespace RuleSet

/-! ## Rule sets out of registrations -/

def register (rules : RuleSet) : RuleEntry → RuleSet
  | .global rule => rules.addGlobal rule
  | .field name rule => rules.addToField name rule
  | .conditional rule => rules.addConditional rule
  | .custom rule => rules.addCustom rule

/-- The rule set of some registrations, one after the other. -/
def ofRegistrations (stops : Bool) (registrations : List RuleEntry) : RuleSet :=
  registrations.foldl register { empty with stopsAtFirst := stops }

/-- The rules of each field in the order of registration, and the fields in the order of their
names. -/
def groupedByField (registrations : List RuleEntry) : List (String × List FieldRule) :=
  (NameSet.ofList (registrations.filterMap RuleEntry.fieldName?)).toList.map fun name =>
    (name, registrations.filterMap (RuleEntry.forField? name))

/-- Each kind of rule in the order of registration. -/
def listing (stops : Bool) (registrations : List RuleEntry) : RuleSet where
  global := registrations.filterMap RuleEntry.global?
  byField := groupedByField registrations
  conditional := registrations.filterMap RuleEntry.conditional?
  custom := registrations.filterMap RuleEntry.custom?
  stopsAtFirst := stops

/-- A rule goes behind the other rules of its field. -/
theorem insertRule_map {names : List String} (listed : String → List FieldRule) (field : String)
    (rule : FieldRule) (sorted : names.Pairwise (· < ·))
    (absent : field ∉ names → listed field = []) :
    insertRule field rule (names.map fun name => (name, listed name)) =
      (NameSet.insertSorted field names).map fun name =>
        (name, if name = field then listed name ++ [rule] else listed name) := by
  -- names other than the field keep their rules
  have kept {rest : List String} (apart : ∀ name ∈ rest, name ≠ field) :
      (rest.map fun name => (name, if name = field then listed name ++ [rule] else listed name)) =
        rest.map fun name => (name, listed name) :=
    List.map_congr_left fun name member => by rw [if_neg (apart name member)]
  induction names with
  | nil => simp [insertRule, NameSet.insertSorted, absent]
  | cons first rest ih =>
      obtain ⟨least, sorted⟩ := List.pairwise_cons.mp sorted
      rw [List.map_cons, insertRule, NameSet.insertSorted]
      split
      case isTrue same =>
        subst same
        rw [List.map_cons, if_pos rfl, kept fun name member => (least name member).ne']
      case isFalse different =>
        split
        case isTrue below =>
          have apart : ∀ name ∈ first :: rest, name ≠ field := by
            rw [List.forall_mem_cons]
            exact ⟨below.ne', fun name member => (below.trans (least name member)).ne'⟩
          have unlisted : listed field = [] := absent fun member => apart field member rfl
          rw [List.map_cons, if_pos rfl, unlisted, kept apart, List.map_cons]
          rfl
        case isFalse =>
          have absent : field ∉ rest → listed field = [] := fun missing =>
            absent (List.not_mem_cons_of_ne_of_not_mem different missing)
          rw [List.map_cons, if_neg (Ne.symm different), ih sorted absent]

theorem forField?_eq_nil {registrations : List RuleEntry} {name : String}
    (absent : name ∉ registrations.filterMap RuleEntry.fieldName?) :
    registrations.filterMap (RuleEntry.forField? name) = [] := by
  refine List.filterMap_eq_nil_iff.mpr fun registration member => ?_
  cases registration with
  | global _ | conditional _ | custom _ => rfl
  | field other rule =>
      refine if_neg fun same => absent ?_
      exact List.mem_filterMap.mpr ⟨_, member, congrArg some same⟩

theorem groupedByField_concat (registrations : List RuleEntry) (field : String)
    (rule : FieldRule) :
    groupedByField (registrations ++ [.field field rule]) =
      insertRule field rule (groupedByField registrations) := by
  have sorted : (NameSet.ofList (registrations.filterMap RuleEntry.fieldName?)).toList.Pairwise
      (· < ·) := NameSet.sorted_ofList _
  have names : (registrations ++ [RuleEntry.field field rule]).filterMap RuleEntry.fieldName? =
      registrations.filterMap RuleEntry.fieldName? ++ [field] := by
    simp
  have behind (name : String) :
      (registrations ++ [RuleEntry.field field rule]).filterMap (RuleEntry.forField? name) =
        if name = field then registrations.filterMap (RuleEntry.forField? name) ++ [rule]
        else registrations.filterMap (RuleEntry.forField? name) := by
    by_cases same : name = field
    · simp [same]
    · simp [same, Ne.symm same]
  have inserted := insertRule_map
    (fun name => registrations.filterMap (RuleEntry.forField? name)) field rule sorted
    fun missing => forField?_eq_nil fun member => missing (NameSet.mem_ofList.mpr member)
  unfold groupedByField
  rw [inserted, names, NameSet.ofList_concat]
  exact List.map_congr_left fun name _ => congrArg (Prod.mk name) (behind name)

theorem register_listing (stops : Bool) (registrations : List RuleEntry)
    (registration : RuleEntry) :
    (listing stops registrations).register registration =
      listing stops (registrations ++ [registration]) := by
  cases registration with
  | global rule => simp [register, addGlobal, listing, groupedByField, List.filterMap_cons]
  | field name rule =>
      simp [register, addToField, listing, groupedByField_concat, List.filterMap_cons]
  | conditional rule =>
      simp [register, addConditional, listing, groupedByField, List.filterMap_cons]
  | custom rule => simp [register, addCustom, listing, groupedByField, List.filterMap_cons]

theorem ofRegistrations_eq_listing (stops : Bool) (registrations : List RuleEntry) :
    ofRegistrations stops registrations = listing stops registrations := by
  unfold ofRegistrations
  induction registrations using List.reverseRecOn with
  | nil => rfl
  | append_singleton registrations registration ih =>
      rw [List.foldl_append, ih, List.foldl_cons, List.foldl_nil, register_listing]

theorem stopsAtFirst_ofRegistrations (stops : Bool) (registrations : List RuleEntry) :
    (ofRegistrations stops registrations).stopsAtFirst = stops := by
  rw [ofRegistrations_eq_listing]
  rfl

theorem rulesFor_listing (stops : Bool) (registrations : List RuleEntry) (name : String) :
    (listing stops registrations).rulesFor name =
      registrations.filterMap (RuleEntry.forField? name) := by
  unfold rulesFor listing groupedByField
  rw [List.find?_map, Option.map_map]
  change ((List.find? (fun other => other == name) _).map
    fun name => registrations.filterMap (RuleEntry.forField? name)).getD [] = _
  cases found : List.find? (fun other => other == name)
      (NameSet.ofList (registrations.filterMap RuleEntry.fieldName?)).toList with
  | some other =>
      obtain rfl : other = name := by simpa using List.find?_some found
      rfl
  | none =>
      refine (forField?_eq_nil fun member => ?_).symm
      simpa using List.find?_eq_none.mp found name (NameSet.mem_ofList.mpr member)

/-! ## Findings -/

/-- What registered rules find in a data row: the global rules first, then the rules of each
field in the order of the schema, then those rules whose condition accepts the row, and the
custom rules at last. -/
def registeredFindings (registrations : List RuleEntry) (schema : Schema) :
    Nat × List String → List Finding
  | (index, cells) =>
      let row := DataRow.ofCells schema index cells
      (registrations.filterMap RuleEntry.global?).filterMap (fun rule => rule.finding? row) ++
        (schema.fields.flatMap fun field =>
          (registrations.filterMap (RuleEntry.forField? field.name)).filterMap fun rule =>
            rule.finding? field.name index ((cells[field.column]?).getD "")) ++
        ((registrations.filterMap RuleEntry.conditional?).filter fun conditional =>
          conditional.applies row).filterMap (fun conditional =>
            conditional.rule.finding? conditional.field index
              ((row.text? conditional.field).getD "")) ++
        (registrations.filterMap RuleEntry.custom?).filterMap fun rule => rule.finding? row

theorem findingsIn_ofRegistrations (stops : Bool) (registrations : List RuleEntry)
    (schema : Schema) (index : Nat) (cells : List String) :
    (ofRegistrations stops registrations).findingsIn (DataRow.ofCells schema index cells) =
      registeredFindings registrations schema (index, cells) := by
  rw [ofRegistrations_eq_listing, findingsIn]
  refine congrArg₂ _ (congrArg₂ _ (congrArg₂ _ rfl ?fields) ?conditional) rfl
  case fields => simp only [rulesFor_listing, DataRow.ofCells, List.flatMap_map]
  case conditional => exact (List.filterMap_filter ..).symm

theorem findings_validate (rules : RuleSet) (schema : Schema) (sheet : Sheet) :
    (rules.validate schema sheet).findings =
      (rules.collected ((sheet.rowsOf schema).flatMap rules.findingsIn)).1 := by
  rw [validate, ValidationReport.findings_ofFindings, walk_eq_collected]

/-- Without a stop the findings come row by row in the order of the rules. With one there is
nothing but the first of them, whatever its severity, and the walk over a row stops exactly
when it has found something. -/
theorem validate_stopped (registrations : List RuleEntry) (schema : Schema) (sheet : Sheet) :
    let full := ofRegistrations false registrations
    let stopped := ofRegistrations true registrations
    (full.validate schema sheet).findings =
        sheet.dataRows.flatMap (registeredFindings registrations schema) ∧
      (stopped.validate schema sheet).findings =
        (full.validate schema sheet).findings.take 1 ∧
      ∀ row, (stopped.walkRow row).2 = true ↔ (stopped.walkRow row).1 ≠ [] := by
  intro full stopped
  have found (flag : Bool) :
      (sheet.rowsOf schema).flatMap (ofRegistrations flag registrations).findingsIn =
        sheet.dataRows.flatMap (registeredFindings registrations schema) := by
    rw [Sheet.rowsOf, List.flatMap_map]
    exact List.flatMap_congr fun (index, cells) _ =>
      findingsIn_ofRegistrations flag registrations schema index cells
  have complete : (full.validate schema sheet).findings =
      sheet.dataRows.flatMap (registeredFindings registrations schema) := by
    rw [findings_validate, found, collected, if_neg]
    exact Bool.eq_false_iff.mp (stopsAtFirst_ofRegistrations false registrations)
  have stops : stopped.stopsAtFirst = true := stopsAtFirst_ofRegistrations true registrations
  refine ⟨complete, ?_, fun row => walkRow_stops_iff stops row⟩
  rw [complete, findings_validate, found, collected, if_pos stops]

end RuleSet

end SheetCompiler
