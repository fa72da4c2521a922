import Mathlib.Data.List.Forall2
import SheetCompiler.Proofs.Validation.Keys
import SheetCompiler.Proofs.Validation.Report
import SheetCompiler.Proofs.Validation.Walk

/-!
# Rule sets and the suffixes of keys

A rule set whose rules do not notice suffixes finds failures in a sheet or none, whichever
suffixes the keys in it have. Only rules that can decide that count: the failing ones, and
all of them where the walk stops at its first finding.
-/

set_option autoImplicit false

namespace SheetCompiler

/-- Whether a finding can decide that a table fails, or hide one that does. -/
def Severity.decides (stops : Bool) (severity : Severity) : Bool := stops || severity.isFailure

/-! ## Declared rules -/

/-- A check that looks at the characters of a value. -/
def DeclaredCheck.readsText : DeclaredCheck → Bool
  | minLength _ | maxLength _ | pattern _ => true
  | required | range .. => false

namespace DeclaredRule

variable {moved : List String} {rule : DeclaredRule}

/-- A rule that answers alike on rows that differ in the suffixes of keys. Only checks that
read the text of such a field could do otherwise, and conditions that name one. -/
structure IgnoresSuffixes (moved : List String) (rule : DeclaredRule) : Prop where
  check : rule.check.readsText = true → rule.field ∈ moved →
    ∀ check, rule.check.build = .ok check → Localization.IgnoresSuffixes check.failure?
  condition : ∀ condition, rule.condition = some condition →
    (∃ name ∈ Condition.namesOf condition, name ∈ moved) →
      ∀ row other, DataRow.Alike moved row other →
        other.satisfies condition = row.satisfies condition

theorem IgnoresSuffixes.of_check (ignores : rule.IgnoresSuffixes moved)
    (moves : rule.field ∈ moved) {check : Check} (builds : rule.check.build = .ok check) :
    Localization.IgnoresSuffixes check.failure? := by
  cases reads : rule.check.readsText with
  | true => exact ignores.check reads moves check builds
  | false =>
      cases kind : rule.check with
      | required =>
          rw [kind] at builds
          obtain rfl := Except.ok.inj builds
          exact Check.ignoresSuffixes_required
      | range least greatest inclusive =>
          rw [kind] at builds
          obtain rfl := Except.ok.inj builds
          exact Check.ignoresSuffixes_range least greatest inclusive
      | minLength _ | maxLength _ | pattern _ =>
          rw [kind] at reads
          cases reads

theorem IgnoresSuffixes.satisfies_eq (ignores : rule.IgnoresSuffixes moved) {condition : String}
    (guards : rule.condition = some condition) {row other : DataRow}
    (alike : DataRow.Alike moved row other) :
    other.satisfies condition = row.satisfies condition := by
  by_cases named : ∃ name ∈ Condition.namesOf condition, name ∈ moved
  · exact ignores.condition condition guards named row other alike
  · exact alike.satisfies_eq fun name listed moves => named ⟨name, listed, moves⟩

theorem exists_check_of_build {built : FieldRule} (builds : rule.build = .ok built) :
    ∃ check, rule.check.build = .ok check ∧ built.failure? = check.failure? ∧
      built.severity = rule.severity.getD .error := by
  unfold build at builds
  cases checks : rule.check.build with
  | error fault =>
      rw [checks] at builds
      cases builds
  | ok check =>
      rw [checks] at builds
      cases builds
      refine ⟨check, rfl, ?_, ?_⟩ <;> simp only [Check.toRule]

end DeclaredRule

/-! ## Rule sets -/

namespace RuleSet

variable {moved : List String} {rules : RuleSet} {row other : DataRow}

/-- Only rules for fields, and none that notices suffixes where that can decide. -/
structure IgnoresSuffixes (moved : List String) (rules : RuleSet) : Prop where
  global : rules.global = []
  custom : rules.custom = []
  field : ∀ entry ∈ rules.byField, entry.1 ∈ moved → ∀ rule ∈ entry.2,
    rule.severity.decides rules.stopsAtFirst = true → Localization.IgnoresSuffixes rule.failure?
  conditional : ∀ guarded ∈ rules.conditional,
    guarded.rule.severity.decides rules.stopsAtFirst = true →
      (guarded.field ∈ moved → Localization.IgnoresSuffixes guarded.rule.failure?) ∧
      ∀ row other, DataRow.Alike moved row other → guarded.applies other = guarded.applies row

namespace IgnoresSuffixes

theorem mem_insertRule {field : String} {rule added : FieldRule}
    {entries : List (String × List FieldRule)} {entry : String × List FieldRule}
    (listed : entry ∈ insertRule field added entries) (member : rule ∈ entry.2) :
    (entry.1 = field ∧ rule = added) ∨
      ∃ former ∈ entries, former.1 = entry.1 ∧ rule ∈ former.2 := by
  induction entries with
  | nil =>
      obtain rfl := List.mem_singleton.mp listed
      exact .inl ⟨rfl, List.mem_singleton.mp member⟩
  | cons first entries ih =>
      obtain ⟨name, rules⟩ := first
      unfold insertRule at listed
      split at listed
      · rename_i same
        rcases List.mem_cons.mp listed with rfl | later
        · rcases List.mem_append.mp member with kept | new
          · exact .inr ⟨_, List.mem_cons_self, rfl, kept⟩
          · exact .inl ⟨same.symm, List.mem_singleton.mp new⟩
        · exact .inr ⟨entry, List.mem_cons_of_mem _ later, rfl, member⟩
      · split at listed
        · rcases List.mem_cons.mp listed with rfl | later
          · exact .inl ⟨rfl, List.mem_singleton.mp member⟩
          · exact .inr ⟨entry, later, rfl, member⟩
        · rcases List.mem_cons.mp listed with rfl | later
          · exact .inr ⟨_, List.mem_cons_self, rfl, member⟩
          · rcases ih later with new | ⟨former, kept, same, inside⟩
            · exact .inl new
            · exact .inr ⟨former, List.mem_cons_of_mem _ kept, same, inside⟩

theorem addDeclared {declared : DeclaredRule} {extended : RuleSet}
    (ignores : rules.IgnoresSuffixes moved)
    (blind : (declared.severity.getD .error).decides rules.stopsAtFirst = true →
      declared.IgnoresSuffixes moved)
    (adds : rules.addDeclared declared = .ok extended) :
    extended.IgnoresSuffixes moved ∧ extended.stopsAtFirst = rules.stopsAtFirst := by
  unfold RuleSet.addDeclared at adds
  cases builds : declared.build with
  | error fault =>
      rw [builds] at adds
      cases adds
  | ok rule =>
      obtain ⟨check, checks, failure, severity⟩ := DeclaredRule.exists_check_of_build builds
      rw [builds] at adds
      rw [← severity] at blind
      cases named : declared.condition with
      | some condition =>
          rw [named] at adds
          obtain rfl := Except.ok.inj adds
          refine ⟨⟨ignores.global, ignores.custom, ignores.field, ?_⟩, rfl⟩
          refine List.forall_mem_append.mpr ⟨ignores.conditional, ?_⟩
          refine List.forall_mem_singleton.mpr fun decides => ?_
          have answers := blind decides
          refine ⟨fun moves => ?_, fun row other alike => answers.satisfies_eq named alike⟩
          exact failure ▸ answers.of_check moves checks
      | none =>
          rw [named] at adds
          obtain rfl := Except.ok.inj adds
          refine ⟨⟨ignores.global, ignores.custom, ?_, ignores.conditional⟩, rfl⟩
          intro entry listed moves other member decides
          rcases mem_insertRule listed member with ⟨same, rfl⟩ | ⟨former, kept, same, inside⟩
          · rw [same] at moves
            exact failure ▸ (blind decides).of_check moves checks
          · rw [← same] at moves
            exact ignores.field former kept moves other inside decides

/-- A declaration makes a rule set that does not notice suffixes out of such rules. -/
theorem ofDeclaration {declaration : TableRules}
    (blind : ∀ declared ∈ declaration.rules,
      (declared.severity.getD .error).decides declaration.stopsAtFirst = true →
        declared.IgnoresSuffixes moved)
    (builds : RuleSet.ofDeclaration declaration = .ok rules) : rules.IgnoresSuffixes moved := by
  have added (declared : List DeclaredRule) (start : RuleSet)
      (ignores : start.IgnoresSuffixes moved)
      (blind : ∀ rule ∈ declared, (rule.severity.getD .error).decides start.stopsAtFirst = true →
        rule.IgnoresSuffixes moved)
      (builds : declared.foldlM RuleSet.addDeclared start = .ok rules) :
      rules.IgnoresSuffixes moved := by
    induction declared generalizing start with
    | nil =>
        obtain rfl := Except.ok.inj builds
        exact ignores
    | cons first declared ih =>
        rw [List.forall_mem_cons] at blind
        rw [List.foldlM_cons] at builds
        cases adds : start.addDeclared first with
        | error fault =>
            rw [adds] at builds
            cases builds
        | ok extended =>
            rw [adds] at builds
            obtain ⟨extends_, same⟩ := ignores.addDeclared blind.1 adds
            exact ih extended extends_ (same ▸ blind.2) builds
  exact added declaration.rules { RuleSet.empty with stopsAtFirst := declaration.stopsAtFirst }
    ⟨rfl, rfl, nofun, nofun⟩ blind builds

end IgnoresSuffixes

/-! ## Findings -/

/-- The severities of those findings that can decide. -/
def weights (stops : Bool) (findings : List Finding) : List Severity :=
  (findings.map (·.severity)).filter (Severity.decides stops)

theorem weights_append (stops : Bool) (former later : List Finding) :
    weights stops (former ++ later) = weights stops former ++ weights stops later := by
  rw [weights, List.map_append, List.filter_append]
  rfl

theorem weights_filterMap {α : Type} {stops : Bool} {items : List α} {f g : α → Option Finding}
    (same : ∀ item ∈ items, weights stops (f item).toList = weights stops (g item).toList) :
    weights stops (items.filterMap f) = weights stops (items.filterMap g) := by
  induction items with
  | nil => rfl
  | cons item items ih =>
      have step (h : α → Option Finding) :
          (item :: items).filterMap h = (h item).toList ++ items.filterMap h := by
        rw [List.filterMap_cons]
        cases h item <;> rfl
      rw [List.forall_mem_cons] at same
      rw [step f, step g, weights_append, weights_append, same.1, ih same.2]

theorem clean_iff_weights (stops : Bool) {findings : List Finding} :
    (∀ finding ∈ findings, finding.severity.isFailure = false) ↔
      ∀ severity ∈ weights stops findings, severity.isFailure = false := by
  unfold weights
  constructor
  · intro clean severity listed
    obtain ⟨finding, member, rfl⟩ := List.mem_map.mp (List.mem_filter.mp listed).1
    exact clean finding member
  · intro clean finding member
    cases failure : finding.severity.isFailure with
    | false => rfl
    | true =>
        have decides : finding.severity.decides stops = true := by
          rw [Severity.decides, failure, Bool.or_true]
        have fails := clean _ (List.mem_filter.mpr ⟨List.mem_map_of_mem member, decides⟩)
        rw [failure] at fails
        cases fails

theorem weights_finding?_of_not_decides {stops : Bool} {rule : FieldRule}
    (idle : rule.severity.decides stops = false) (field : String) (index : Nat) (text : String) :
    weights stops (rule.finding? field index text).toList = [] := by
  unfold FieldRule.finding?
  cases rule.failure? text with
  | none => rfl
  | some message => exact List.filter_singleton.trans (by rw [idle]; rfl)

/-- A rule for a field weighs the same on texts that are alike. -/
theorem weights_finding? {stops : Bool} {rule : FieldRule} {field text more : String} (index : Nat)
    (alike : TextsAlike moved field text more)
    (blind : rule.severity.decides stops = true → field ∈ moved →
      Localization.IgnoresSuffixes rule.failure?) :
    weights stops (rule.finding? field index more).toList =
      weights stops (rule.finding? field index text).toList := by
  cases decides : rule.severity.decides stops with
  | false =>
      rw [weights_finding?_of_not_decides decides, weights_finding?_of_not_decides decides]
  | true =>
      rcases alike with rfl | ⟨moves, same⟩
      · rfl
      · have answers := blind decides moves text more same
        unfold FieldRule.finding?
        revert answers
        cases rule.failure? text <;> cases rule.failure? more <;> intro answers <;>
          first | rfl | cases answers

/-- Where the walk stops every finding counts, so what it weighs is cut short as well. -/
theorem weights_collected (rules : RuleSet) (findings : List Finding) :
    weights rules.stopsAtFirst (rules.collected findings).1 =
      if rules.stopsAtFirst then (weights rules.stopsAtFirst findings).take 1
      else weights rules.stopsAtFirst findings := by
  cases stops : rules.stopsAtFirst with
  | false => simp [collected, stops]
  | true =>
      have all (findings : List Finding) : weights true findings = findings.map (·.severity) :=
        List.filter_eq_self.mpr fun _ _ => rfl
      simp [collected, stops, all]

theorem exists_of_mem_rulesFor {name : String} {rule : FieldRule}
    (member : rule ∈ rules.rulesFor name) :
    ∃ entry ∈ rules.byField, entry.1 = name ∧ rule ∈ entry.2 := by
  unfold rulesFor at member
  cases found : rules.byField.find? fun entry => entry.1 == name with
  | none =>
      rw [found] at member
      cases member
  | some entry =>
      rw [found] at member
      have named := List.find?_some found
      exact ⟨entry, List.mem_of_find?_eq_some found, eq_of_beq named, member⟩

namespace IgnoresSuffixes

theorem weights_fields (ignores : rules.IgnoresSuffixes moved) (index : Nat)
    {cells others : List (Field × String)} (alike : List.Forall₂ (CellsAlike moved) cells others) :
    weights rules.stopsAtFirst (others.flatMap fun (field, value) =>
        (rules.rulesFor field.name).filterMap fun rule =>
          rule.finding? field.name index value) =
      weights rules.stopsAtFirst (cells.flatMap fun (field, value) =>
        (rules.rulesFor field.name).filterMap fun rule =>
          rule.finding? field.name index value) := by
  induction alike with
  | nil => rfl
  | @cons cell other cells others same rest ih =>
      obtain ⟨field, text⟩ := cell
      obtain ⟨_, more⟩ := other
      obtain rfl := same.field
      rw [List.flatMap_cons, List.flatMap_cons, weights_append, weights_append, ih]
      refine congrArg (· ++ _) (weights_filterMap fun rule member => ?_)
      obtain ⟨entry, listed, named, inside⟩ := exists_of_mem_rulesFor member
      refine weights_finding? index same.texts fun decides moves => ?_
      exact ignores.field entry listed (named ▸ moves) rule inside decides

theorem weights_conditional (ignores : rules.IgnoresSuffixes moved)
    (alike : DataRow.Alike moved row other) :
    weights rules.stopsAtFirst (rules.conditional.filterMap fun guarded => guarded.finding? other) =
      weights rules.stopsAtFirst
        (rules.conditional.filterMap fun guarded => guarded.finding? row) := by
  refine weights_filterMap fun guarded listed => ?_
  have blind := ignores.conditional guarded listed
  cases decides : guarded.rule.severity.decides rules.stopsAtFirst with
  | false =>
      have idle (row : DataRow) :
          weights rules.stopsAtFirst (guarded.finding? row).toList = [] := by
        unfold ConditionalRule.finding?
        split
        · exact weights_finding?_of_not_decides decides _ _ _
        · rfl
      rw [idle, idle]
  | true =>
      unfold ConditionalRule.finding?
      rw [(blind decides).2 row other alike, alike.index]
      split
      · exact weights_finding? row.index (alike.text?_alike guarded.field)
          fun _ => (blind decides).1
      · rfl

/-- What one row weighs does not depend on suffixes. -/
theorem weights_findingsIn (ignores : rules.IgnoresSuffixes moved)
    (alike : DataRow.Alike moved row other) :
    weights rules.stopsAtFirst (rules.findingsIn other) =
      weights rules.stopsAtFirst (rules.findingsIn row) := by
  unfold findingsIn
  rw [ignores.global, ignores.custom, alike.index]
  simp only [List.filterMap_nil, List.nil_append, List.append_nil, weights_append]
  rw [ignores.weights_fields row.index alike.cells, ignores.weights_conditional alike]

/-- Nor does what the walk over all rows weighs. -/
theorem weights_walk (ignores : rules.IgnoresSuffixes moved) {rows others : List DataRow}
    (alike : List.Forall₂ (DataRow.Alike moved) rows others) :
    weights rules.stopsAtFirst (rules.walk others) =
      weights rules.stopsAtFirst (rules.walk rows) := by
  have found : weights rules.stopsAtFirst (others.flatMap rules.findingsIn) =
      weights rules.stopsAtFirst (rows.flatMap rules.findingsIn) := by
    induction alike with
    | nil => rfl
    | cons same _ ih =>
        rw [List.flatMap_cons, List.flatMap_cons, weights_append, weights_append, ih,
          ignores.weights_findingsIn same]
  rw [walk_eq_collected, walk_eq_collected, weights_collected, weights_collected, found]

/-- Whether a sheet fails its rules does not depend on suffixes. -/
theorem clean_iff (ignores : rules.IgnoresSuffixes moved) {schema : Schema} {sheet later : Sheet}
    (alike : List.Forall₂ (DataRow.Alike moved) (sheet.rowsOf schema) (later.rowsOf schema)) :
    (∀ finding ∈ (rules.validate schema later).findings, finding.severity.isFailure = false) ↔
      ∀ finding ∈ (rules.validate schema sheet).findings, finding.severity.isFailure = false := by
  unfold validate
  rw [ValidationReport.findings_ofFindings, ValidationReport.findings_ofFindings,
    clean_iff_weights rules.stopsAtFirst, ignores.weights_walk alike, ← clean_iff_weights]

end IgnoresSuffixes

end RuleSet

/-! ## Sheets -/

namespace Sheet

/-- Sheets whose cells are alike have rows that are. -/
theorem rowsOf_alike {moved : List String} {schema : Schema} {sheet later : Sheet}
    (rowCount : later.rowCount = sheet.rowCount)
    (alike : ∀ field ∈ schema.fields, ∀ row, CellsAlike moved
      (field, sheet.cell row field.column) (field, later.cell row field.column)) :
    List.Forall₂ (DataRow.Alike moved) (sheet.rowsOf schema) (later.rowsOf schema) := by
  have counts : later.dataRowCount = sheet.dataRowCount := by
    rw [dataRowCount, rowCount, dataRowCount]
  rw [rowsOf_eq_range, rowsOf_eq_range, counts, List.forall₂_map_left_iff,
    List.forall₂_map_right_iff, List.forall₂_same]
  intro index _
  refine ⟨rfl, ?_⟩
  unfold dataCells
  rw [List.forall₂_map_left_iff, List.forall₂_map_right_iff, List.forall₂_same]
  exact fun field member => alike field member _

end Sheet

end SheetCompiler
