import SheetCompiler.Proofs.Validation.Registration
import SheetCompiler.Validation.Declaration

/-!
# Reordered declarations

A declaration may list its rules in another order. As long as the unconditional rules of each
field and the conditional rules keep their order among themselves, the rule set is the same.
-/

set_option autoImplicit false

namespace SheetCompiler

namespace DeclaredRule

variable {declared : DeclaredRule} {former later : List DeclaredRule}

def isConditional (declared : DeclaredRule) : Bool := declared.condition.isSome

/-- A rule for all rows of a field. -/
def isPlainFor (field : String) (declared : DeclaredRule) : Bool :=
  !declared.isConditional && declared.field == field

/-- Lists of the same rules in which the unconditional rules of each field and the conditional
rules keep their order. -/
structure Reordered (former later : List DeclaredRule) : Prop where
  perm : former.Perm later
  plain : ∀ field, former.filter (isPlainFor field) = later.filter (isPlainFor field)
  conditional : former.filter isConditional = later.filter isConditional

theorem Reordered.symm (reordered : Reordered former later) : Reordered later former :=
  ⟨reordered.perm.symm, fun field => (reordered.plain field).symm, reordered.conditional.symm⟩

/-- The place of the rule that a declared rule is built into. -/
def place (declared : DeclaredRule) (rule : FieldRule) : RuleEntry :=
  match declared.condition with
  | some condition => .conditional ⟨declared.field, fun row => row.satisfies condition, rule⟩
  | none => .field declared.field rule

/-- What a declared rule registers, if it can be built. -/
def registration? (declared : DeclaredRule) : Option RuleEntry :=
  declared.build.toOption.map declared.place

theorem registration?_of_ok {rule : FieldRule} (builds : declared.build = .ok rule) :
    declared.registration? = some (declared.place rule) := by
  rw [registration?, builds]
  rfl

theorem registration?_of_error {fault : InvalidPattern} (fails : declared.build = .error fault) :
    declared.registration? = none := by
  rw [registration?, fails]
  rfl

/-- Rules that are left out register nothing that is looked for. -/
theorem filterMap_registration_filter {β : Type} {read? : RuleEntry → Option β}
    (keeps : DeclaredRule → Bool)
    (idle : ∀ declared rule, keeps declared = false → read? (declared.place rule) = none)
    (listed : List DeclaredRule) :
    ((listed.filter keeps).filterMap registration?).filterMap read? =
      (listed.filterMap registration?).filterMap read? := by
  rw [List.filterMap_filterMap, List.filterMap_filterMap, List.filterMap_filter]
  refine List.filterMap_congr fun declared _ => ?_
  cases kept : keeps declared with
  | true => rfl
  | false =>
      cases builds : declared.build with
      | error fault => rw [registration?_of_error builds]; rfl
      | ok rule => rw [registration?_of_ok builds]; exact (idle declared rule kept).symm

/-- A declared rule registers one rule for a field. -/
theorem global?_place (declared : DeclaredRule) (rule : FieldRule) :
    (declared.place rule).global? = none := by
  unfold place
  split <;> rfl

theorem custom?_place (declared : DeclaredRule) (rule : FieldRule) :
    (declared.place rule).custom? = none := by
  unfold place
  split <;> rfl

theorem conditional?_place (declared : DeclaredRule) (rule : FieldRule)
    (plain : declared.isConditional = false) :
    (declared.place rule).conditional? = none := by
  have unconditional : declared.condition = none := Option.not_isSome_iff_eq_none.mp (by
    rw [← isConditional, plain]
    exact Bool.false_ne_true)
  simp [place, unconditional]

theorem forField?_place (field : String) (declared : DeclaredRule) (rule : FieldRule)
    (other : declared.isPlainFor field = false) :
    (declared.place rule).forField? field = none := by
  unfold isPlainFor isConditional at other
  cases named : declared.condition with
  | some condition => simp [place, named]
  | none =>
      rw [named] at other
      simpa [place, named] using other

end DeclaredRule

namespace RuleSet

variable {rules : RuleSet}

theorem addDeclared_eq (rules : RuleSet) (declared : DeclaredRule) :
    rules.addDeclared declared =
      match declared.build with
      | .error fault => .error ⟨declared.field, fault⟩
      | .ok rule => .ok (rules.register (declared.place rule)) := by
  unfold addDeclared DeclaredRule.place
  cases declared.build with
  | error fault => rfl
  | ok rule => cases declared.condition <;> rfl

/-- A declaration makes a rule set if each of its rules can be built, out of their
registrations. -/
theorem ofDeclaration_eq_ok_iff {declaration : TableRules} :
    ofDeclaration declaration = .ok rules ↔
      (∀ declared ∈ declaration.rules, ∃ rule, declared.build = .ok rule) ∧
        rules = ofRegistrations declaration.stopsAtFirst
          (declaration.rules.filterMap DeclaredRule.registration?) := by
  have run (listed : List DeclaredRule) (start : RuleSet) :
      listed.foldlM addDeclared start = .ok rules ↔
        (∀ declared ∈ listed, ∃ rule, declared.build = .ok rule) ∧
          rules = (listed.filterMap DeclaredRule.registration?).foldl register start := by
    induction listed generalizing start with
    | nil => simp [pure, Except.pure, eq_comm]
    | cons declared listed ih =>
        rw [List.foldlM_cons, addDeclared_eq]
        cases builds : declared.build with
        | error fault => simp [bind, Except.bind, builds]
        | ok rule =>
            have placed := DeclaredRule.registration?_of_ok builds
            simpa [bind, Except.bind, builds, placed] using ih (start.register _)
  exact run declaration.rules _

/-- Where the order of registration does not matter it leaves no trace. -/
theorem ofRegistrations_congr (stops : Bool) {former later : List RuleEntry}
    (perm : former.Perm later)
    (global : former.filterMap RuleEntry.global? = later.filterMap RuleEntry.global?)
    (field : ∀ name, former.filterMap (RuleEntry.forField? name) =
      later.filterMap (RuleEntry.forField? name))
    (conditional :
      former.filterMap RuleEntry.conditional? = later.filterMap RuleEntry.conditional?)
    (custom : former.filterMap RuleEntry.custom? = later.filterMap RuleEntry.custom?) :
    ofRegistrations stops former = ofRegistrations stops later := by
  have names := NameSet.empty.insertAll_perm (perm.filterMap RuleEntry.fieldName?)
  have grouped : groupedByField former = groupedByField later := by
    unfold groupedByField NameSet.ofList
    rw [names]
    exact List.map_congr_left fun name _ => congrArg (Prod.mk name) (field name)
  rw [ofRegistrations_eq_listing, ofRegistrations_eq_listing, listing, global, conditional, custom,
    grouped, listing]

/-- Reordered declarations make one rule set. -/
theorem ofDeclaration_reordered {former later : TableRules}
    (stops : former.stopsAtFirst = later.stopsAtFirst)
    (reordered : DeclaredRule.Reordered former.rules later.rules)
    (builds : ofDeclaration former = .ok rules) : ofDeclaration later = .ok rules := by
  obtain ⟨each, rfl⟩ := ofDeclaration_eq_ok_iff.mp builds
  refine ofDeclaration_eq_ok_iff.mpr
    ⟨fun declared member => each declared (reordered.perm.mem_iff.mpr member), ?_⟩
  have none (read? : RuleEntry → Option RowRule)
      (idle : ∀ declared rule, read? (DeclaredRule.place declared rule) = none)
      (listed : List DeclaredRule) :
      (listed.filterMap DeclaredRule.registration?).filterMap read? = [] := by
    rw [← DeclaredRule.filterMap_registration_filter (fun _ => false)
      fun declared rule _ => idle declared rule, List.filter_false]
    rfl
  rw [stops]
  refine ofRegistrations_congr _ (reordered.perm.filterMap _) ?global (fun name => ?field)
    ?conditional ?custom
  case global => rw [none _ DeclaredRule.global?_place, none _ DeclaredRule.global?_place]
  case custom => rw [none _ DeclaredRule.custom?_place, none _ DeclaredRule.custom?_place]
  case field =>
    have other := DeclaredRule.forField?_place name
    rw [← DeclaredRule.filterMap_registration_filter _ other, reordered.plain name,
      DeclaredRule.filterMap_registration_filter _ other]
  case conditional =>
    rw [← DeclaredRule.filterMap_registration_filter _ DeclaredRule.conditional?_place,
      reordered.conditional,
      DeclaredRule.filterMap_registration_filter _ DeclaredRule.conditional?_place]

/-- The order of declared rules only matters among the unconditional rules of a field and among
the conditional rules: a reordered declaration is accepted as well, and its rules find the same
and miss the same fields. -/
theorem validate_reordered (former later : TableRules)
    (stops : former.stopsAtFirst = later.stopsAtFirst)
    (reordered : DeclaredRule.Reordered former.rules later.rules) :
    ((∃ rules, ofDeclaration former = .ok rules) ↔ ∃ rules, ofDeclaration later = .ok rules) ∧
      ∀ rules others, ofDeclaration former = .ok rules → ofDeclaration later = .ok others →
        ∀ schema, others.unknownFields schema = rules.unknownFields schema ∧
          ∀ sheet, others.validate schema sheet = rules.validate schema sheet := by
  have forth {rules : RuleSet} (builds : ofDeclaration former = .ok rules) :=
    ofDeclaration_reordered stops reordered builds
  have back {rules : RuleSet} (builds : ofDeclaration later = .ok rules) :=
    ofDeclaration_reordered stops.symm reordered.symm builds
  refine ⟨⟨fun ⟨rules, builds⟩ => ⟨rules, forth builds⟩,
    fun ⟨rules, builds⟩ => ⟨rules, back builds⟩⟩, ?_⟩
  intro rules others builds rebuilds schema
  obtain rfl : rules = others := Except.ok.inj ((forth builds).symm.trans rebuilds)
  exact ⟨rfl, fun sheet => rfl⟩

/-- Two fields and a condition: neither the fields nor the conditional rule keep their places. -/
theorem validate_reordered_mixture :
    let required : DeclaredRule := ⟨"Name", .required, some .warning, none⟩
    let length : DeclaredRule := ⟨"Name", .minLength 4, none, none⟩
    let range : DeclaredRule := ⟨"Level", .maxLength 2, some .critical, none⟩
    let guarded : DeclaredRule := ⟨"Title", .required, none, some "Level > 1"⟩
    let former : TableRules := ⟨true, [required, range, guarded, length]⟩
    let later : TableRules := ⟨true, [guarded, range, required, length]⟩
    DeclaredRule.Reordered former.rules later.rules ∧ former ≠ later ∧
      ∃ rules others, ofDeclaration former = .ok rules ∧ ofDeclaration later = .ok others ∧
        ∀ schema, others.unknownFields schema = rules.unknownFields schema ∧
          ∀ sheet, others.validate schema sheet = rules.validate schema sheet := by
  intro required length range guarded former later
  have reordered : DeclaredRule.Reordered former.rules later.rules := by
    refine ⟨by decide, fun field => ?_, by decide⟩
    by_cases name : field = "Name"
    · subst name
      decide
    · by_cases level : field = "Level"
      · subst level
        decide
      · simp [former, later, required, length, range, guarded, Ne.symm name, Ne.symm level,
          DeclaredRule.isPlainFor, DeclaredRule.isConditional]
  have claim := validate_reordered former later rfl reordered
  obtain ⟨rules, builds⟩ : ∃ rules, ofDeclaration former = .ok rules := ⟨_, rfl⟩
  obtain ⟨others, rebuilds⟩ := claim.1.mp ⟨rules, builds⟩
  exact ⟨reordered, by decide, rules, others, builds, rebuilds,
    claim.2 rules others builds rebuilds⟩

end RuleSet

end SheetCompiler
