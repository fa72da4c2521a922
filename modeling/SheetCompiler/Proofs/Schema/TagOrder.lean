import Mathlib.Data.List.Perm.Basic
import SheetCompiler.Proofs.Schema.Targets
import SheetCompiler.Proofs.Text.Blanks

/-!
# The order of tags

A header cell is a name part and tags between separators. The order of the tags counts for the
scope and the target alone, and for these only where the tags name more than one.
-/

set_option autoImplicit false

namespace SheetCompiler

open Text

/-! ## Choices -/

section Choice

variable {α : Type} {items others : List α}

/-- No two different elements. -/
def AtMostOne (items : List α) : Prop :=
  ∀ first ∈ items, ∀ second ∈ items, first = second

instance [DecidableEq α] (items : List α) : Decidable (AtMostOne items) :=
  inferInstanceAs (Decidable (∀ first ∈ items, ∀ second ∈ items, first = second))

theorem AtMostOne.getLast?_eq (one : AtMostOne items)
    (perm : items.Perm others) : others.getLast? = items.getLast? := by
  cases last : items.getLast? with
  | none =>
      obtain rfl := List.getLast?_eq_none_iff.mp last
      rw [List.nil_perm.mp perm, List.getLast?_nil]
  | some item =>
      cases other : others.getLast? with
      | none =>
          obtain rfl := List.getLast?_eq_none_iff.mp other
          rw [List.perm_nil.mp perm] at last
          cases last
      | some found =>
          exact congrArg some (one found (perm.mem_iff.mpr (List.mem_of_getLast? other)) item
            (List.mem_of_getLast? last))

theorem atMostOne_perm (perm : items.Perm others) :
    AtMostOne items ↔ AtMostOne others := by
  unfold AtMostOne
  simp only [perm.mem_iff]

end Choice

/-! ## Cells in parts -/

namespace Tag

/-- The meaning of a tag with the blanks around it. -/
def ofText (tag : String) : Tag := ofChars (trim tag.toList)

theorem ofText_eq_exclude_iff {tag : String} :
    ofText tag = .exclude ↔ lowered (trimmed tag) = "pm" := by
  rw [lowered, trimmed, String.toList_ofList]
  exact ofChars_eq_exclude_iff

end Tag

namespace Header

/-- The scopes that tags choose, from left to right. -/
def scopesOf (tags : List String) : List Scope := tags.filterMap fun tag => (Tag.ofText tag).scope?

/-- The targets that tags name, from left to right. -/
def targetsOf (tags : List String) : List String :=
  tags.filterMap fun tag => (Tag.ofText tag).target?

/-- The tags that count, without the blanks around them. -/
def visibleTags (tags : List String) : List (List Char) :=
  (tags.map fun tag => trim tag.toList).filter fun tag => !tag.isEmpty

theorem visibleTags_perm {tags others : List String} (perm : tags.Perm others) :
    (visibleTags tags).Perm (visibleTags others) := (perm.map _).filter _

theorem filterMap_visibleTags {α : Type} (read : Tag → Option α) (none : read .unknown = none)
    (tags : List String) :
    ((visibleTags tags).filterMap fun tag => read (Tag.ofChars tag)) =
      tags.filterMap fun tag => read (Tag.ofText tag) := by
  unfold visibleTags
  rw [List.filterMap_filter, List.filterMap_map]
  refine List.filterMap_congr fun tag _ => ?_
  unfold Tag.ofText
  rw [Function.comp_apply]
  split
  · rfl
  · rename_i blank
    rw [Bool.not_eq_true, Bool.not_eq_false', List.isEmpty_iff] at blank
    rw [blank]
    exact none.symm

theorem exists_visibleTags {p : Tag → Prop} (none : ¬ p .unknown) (tags : List String) :
    (∃ tag ∈ visibleTags tags, p (Tag.ofChars tag)) ↔ ∃ tag ∈ tags, p (Tag.ofText tag) := by
  unfold visibleTags
  constructor
  · rintro ⟨tag, member, holds⟩
    obtain ⟨text, listed, rfl⟩ := List.mem_map.mp (List.mem_filter.mp member).1
    exact ⟨text, listed, holds⟩
  · rintro ⟨text, listed, holds⟩
    refine ⟨trim text.toList, List.mem_filter.mpr ⟨List.mem_map_of_mem listed, ?_⟩, holds⟩
    cases same : trim text.toList with
    | nil =>
        unfold Tag.ofText at holds
        rw [same] at holds
        exact absurd holds none
    | cons c rest => rfl

/-- A cell cut at its separators, into a name part and tags. -/
structure IsCut (cell name : String) (tags : List String) : Prop where
  whole : cell = joined "@" (name :: tags)
  plain : ∀ part ∈ name :: tags, '@' ∉ part.toList

theorem toList_joined (texts : List String) :
    (joined "@" texts).toList = List.intercalate ['@'] (texts.map String.toList) := by
  rw [joined, String.toList_intercalate]
  rfl

theorem exists_isCut (cell : String) : ∃ name tags, IsCut cell name tags := by
  cases cut : pieces (· == '@') cell.toList with
  | nil => exact absurd cut pieces_ne_nil
  | cons front rest =>
      have same : (front :: rest).map (String.toList ∘ String.ofList) = front :: rest := by simp
      refine ⟨String.ofList front, rest.map String.ofList, ?_, ?_⟩
      · rw [← String.toList_inj, toList_joined, ← List.map_cons (f := String.ofList), List.map_map,
          same, ← cut, intercalate_pieces fun c => eq_of_beq]
      · rw [← List.map_cons (f := String.ofList), List.forall_mem_map]
        intro piece listed member
        rw [String.toList_ofList] at member
        have plain := (mem_pieces (cut ▸ listed) '@' member).1
        cases plain

theorem IsCut.parts {cell name : String} {tags : List String} (cut : IsCut cell name tags) :
    parts (trim cell.toList) = (trim name.toList, visibleTags tags) := by
  have found : pieces (· == '@') cell.toList = (name :: tags).map String.toList := by
    rw [cut.whole, toList_joined]
    refine pieces_intercalate rfl (by simp) (List.forall_mem_map.mpr fun part listed c member => ?_)
    rw [beq_eq_false_iff_ne]
    rintro rfl
    exact cut.plain part listed member
  have trimmed := map_trim_pieces_trim (p := (· == '@')) (fun c same => by
    rw [eq_of_beq same]; decide) cell.toList
  rw [found, List.map_map] at trimmed
  unfold Header.parts
  cases split : pieces (· == '@') (trim cell.toList) with
  | nil => exact absurd split pieces_ne_nil
  | cons front rest =>
      rw [split, List.map_cons] at trimmed
      obtain ⟨first, later⟩ := List.cons.inj trimmed
      dsimp only
      rw [first, later]
      rfl

/-! ## What the parts come to -/

/-- Scopes in a row that are the same are one scope. -/
theorem Reading.hasConflict_eq_false_iff (reading : Reading) :
    reading.hasConflict = false ↔ AtMostOne reading.scopes := by
  unfold hasConflict
  induction reading.scopes with
  | nil => exact iff_of_true rfl nofun
  | cons scope scopes ih =>
      cases scopes with
      | nil => simp [AtMostOne]
      | cons next scopes =>
          rw [List.tail_cons, List.zip_cons_cons, List.any_cons, Bool.or_eq_false_iff]
          rw [List.tail_cons] at ih
          rw [ih]
          constructor
          · rintro ⟨same, rest⟩
            obtain rfl : scope = next := by simpa using same
            simpa [AtMostOne] using rest
          · intro one
            refine ⟨by simp [one scope (by simp) next (by simp)], ?_⟩
            exact fun first member second also =>
              one first (List.mem_cons_of_mem _ member) second (List.mem_cons_of_mem _ also)

/-- The part of a name that stands for the column: without a parenthetical on a reference. -/
def namePart (name : List Char) (refers : Bool) : List Char :=
  match splitParenthetical? name, refers with
  | some (head, _), true => head
  | _, _ => name

/-- Whether one of the tags marks a reference. -/
def hasReference (tags : List String) : Bool := tags.any fun tag => (Tag.ofText tag).isReference

/-- The target of a reference: the last one of the tags, else that of the name part, else that of
the name of the column. -/
def targetOf (name : String) (tags : List String) (column : String) : Option String :=
  (targetsOf tags).getLast?.or ((parenthetical? (trim name.toList)).or (targetOfName? column))

/-- The diagnostic on a reference without a target. -/
def missingTarget (raw : String) : Option ReferenceMark → List Diagnostic
  | some ⟨none⟩ => [Diagnostic.ofCause (.missingReferenceTarget raw)]
  | _ => []

def codes (header : Header) : List DiagnosticCode := header.diagnostics.map (·.code)

section OfCut

variable {cell name : String} {tags : List String}

theorem reference_ofTags (raw : String) (tags : List String) :
    (Reading.ofTags raw (visibleTags tags)).reference =
      if hasReference tags then some ⟨(targetsOf tags).getLast?⟩ else none := by
  have marked : ((visibleTags tags).any fun tag => (Tag.ofChars tag).isReference) =
      hasReference tags := by
    rw [Bool.eq_iff_iff, List.any_eq_true, hasReference, List.any_eq_true]
    exact exists_visibleTags (p := fun tag => tag.isReference = true) (by simp) tags
  unfold Reading.ofTags
  dsimp only
  rw [marked, filterMap_visibleTags Tag.target? rfl]
  rfl

theorem scopes_ofTags (raw : String) (tags : List String) :
    (Reading.ofTags raw (visibleTags tags)).scopes = scopesOf tags :=
  filterMap_visibleTags Tag.scope? rfl tags

/-- A header out of the parts of its cell. -/
theorem ofText_eq (cut : IsCut cell name tags) :
    let reading := Reading.ofTags (trimmed cell) (visibleTags tags)
    let column := cleanName (namePart (trim name.toList) (hasReference tags))
    let target := targetOf name tags column
    ofText cell =
      { raw := trimmed cell
        name := column
        scope := if reading.excluded then .excluded else reading.chosenScope
        localized := reading.localized
        reference := if hasReference tags then some ⟨target⟩ else none
        diagnostics := reading.diagnostics ++
          (if reading.hasConflict then
            [Diagnostic.ofCause (.conflictingScopes (trimmed cell) reading.chosenScope)]
          else []) ++
          missingTarget (trimmed cell) (if hasReference tags then some ⟨target⟩ else none) } := by
  unfold ofText
  dsimp only
  rw [cut.parts, Reading.foldl_addTag, reference_ofTags]
  unfold trimmed targetOf namePart parenthetical?
  cases hasReference tags with
  | false => cases splitParenthetical? (trim name.toList) <;> rfl
  | true => cases splitParenthetical? (trim name.toList) <;> rfl

theorem name_ofText (cut : IsCut cell name tags) :
    (ofText cell).name = cleanName (namePart (trim name.toList) (hasReference tags)) := by
  rw [ofText_eq cut]

theorem localized_ofText (cut : IsCut cell name tags) :
    (ofText cell).localized =
      (visibleTags tags).any fun tag => Tag.ofChars tag == .localized := by
  rw [ofText_eq cut]
  rfl

theorem reference_ofText (cut : IsCut cell name tags) :
    (ofText cell).reference =
      if hasReference tags then some ⟨targetOf name tags (ofText cell).name⟩ else none := by
  rw [ofText_eq cut]

theorem isSome_reference (cut : IsCut cell name tags) :
    (ofText cell).reference.isSome = hasReference tags := by
  rw [reference_ofText cut]
  cases hasReference tags <;> rfl

theorem scope_ofText (cut : IsCut cell name tags) :
    (ofText cell).scope =
      if ∃ tag ∈ tags, Tag.ofText tag = .exclude then .excluded
      else (scopesOf tags).getLast?.getD .all := by
  have excluded := Reading.excluded_ofTags_iff (trimmed cell) (visibleTags tags)
  rw [exists_visibleTags (p := (· = .exclude)) nofun] at excluded
  rw [ofText_eq cut]
  dsimp only
  rw [Reading.chosenScope, scopes_ofTags]
  exact if_congr excluded rfl rfl

theorem codes_ofText (cut : IsCut cell name tags) :
    codes (ofText cell) =
      List.replicate ((visibleTags tags).countP fun tag => Tag.ofChars tag == .unknown)
        DiagnosticCode.unknownTag ++
      (if AtMostOne (scopesOf tags) then [] else [.conflictingScopeTags]) ++
      (if hasReference tags && (targetOf name tags (ofText cell).name).isNone then
        [.missingReferenceTarget] else []) := by
  have conflict := Reading.hasConflict_eq_false_iff
    (Reading.ofTags (trimmed cell) (visibleTags tags))
  rw [scopes_ofTags] at conflict
  rw [name_ofText cut, codes, ofText_eq cut, List.map_append, List.map_append]
  refine congrArg₂ _ (congrArg₂ _ ?_ ?_) ?_
  · rw [Reading.ofTags, List.map_map, List.countP_eq_length_filter, ← List.map_const']
    rfl
  · by_cases one : AtMostOne (scopesOf tags)
    · rw [if_pos one, conflict.mpr one]
      rfl
    · rw [if_neg one, eq_true_of_ne_false (mt conflict.mp one)]
      rfl
  · cases hasReference tags with
    | false => rfl
    | true => cases targetOf name tags _ <;> rfl

/-! ## Targets of references -/

/-- How a reference gets its target: from the last tag that names one, else from the
parenthetical of the name part, else from the name of the column. -/
inductive NamesTarget (name : String) (tags : List String) (column : String) :
    Option String → Prop where
  | explicit {target : String} : (targetsOf tags).getLast? = some target →
      NamesTarget name tags column (some target)
  | parenthetical {target : String} : targetsOf tags = [] → IsParenthetical name target →
      NamesTarget name tags column (some target)
  | stem {target : String} : targetsOf tags = [] → (∀ other, ¬ IsParenthetical name other) →
      IsStem column target → NamesTarget name tags column (some target)
  | missing : targetsOf tags = [] → (∀ other, ¬ IsParenthetical name other) →
      (∀ other, ¬ IsStem column other) → NamesTarget name tags column none

theorem namesTarget_targetOf (name : String) (tags : List String) (column : String) :
    NamesTarget name tags column (targetOf name tags column) := by
  unfold targetOf
  cases last : (targetsOf tags).getLast? with
  | some target => exact .explicit last
  | none =>
      have unnamed := List.getLast?_eq_none_iff.mp last
      rw [Option.none_or]
      cases inner : parenthetical? (trim name.toList) with
      | some target => exact .parenthetical unnamed (parenthetical?_eq_some_iff.mp inner)
      | none =>
          have bare (other : String) : ¬ IsParenthetical name other := fun holds => by
            rw [parenthetical?_eq_some_iff.mpr holds] at inner
            cases inner
          rw [Option.none_or]
          cases ending : targetOfName? column with
          | some target => exact .stem unnamed bare (targetOfName?_eq_some_iff.mp ending)
          | none =>
              refine .missing unnamed bare fun other holds => ?_
              rw [targetOfName?_eq_some_iff.mpr holds] at ending
              cases ending

/-- There is no target exactly when none of the three is there. -/
theorem NamesTarget.eq_none_iff {column : String} {target : Option String}
    (names : NamesTarget name tags column target) :
    target = none ↔ targetsOf tags = [] ∧ (∀ other, ¬ IsParenthetical name other) ∧
      ∀ other, ¬ IsStem column other := by
  cases names with
  | explicit last =>
      refine iff_of_false nofun fun absent => ?_
      rw [absent.1] at last
      cases last
  | parenthetical _ holds => exact iff_of_false nofun fun absent => absent.2.1 _ holds
  | stem _ _ holds => exact iff_of_false nofun fun absent => absent.2.2 _ holds
  | missing unnamed bare endless => exact iff_of_true rfl ⟨unnamed, bare, endless⟩

theorem referenceTarget_eq (cut : IsCut cell name tags) (marked : hasReference tags = true) :
    (ofText cell).referenceTarget = targetOf name tags (ofText cell).name := by
  rw [referenceTarget, reference_ofText cut, if_pos marked, Option.bind_some]

theorem missing_mem_codes_iff (cut : IsCut cell name tags) (marked : hasReference tags = true) :
    .missingReferenceTarget ∈ codes (ofText cell) ↔
      targetOf name tags (ofText cell).name = none := by
  rw [codes_ofText cut, marked]
  by_cases one : AtMostOne (scopesOf tags) <;> simp [one]

end OfCut

/-! ## Permutations -/

section Perm

variable {cell name : String} {tags others : List String}

theorem scopesOf_perm (perm : tags.Perm others) : (scopesOf tags).Perm (scopesOf others) :=
  perm.filterMap _

theorem targetsOf_perm (perm : tags.Perm others) : (targetsOf tags).Perm (targetsOf others) :=
  perm.filterMap _

theorem hasReference_perm (perm : tags.Perm others) : hasReference others = hasReference tags :=
  perm.symm.any_eq

theorem scope_ofText_eq_excluded_iff_pm (cut : IsCut cell name tags) :
    (ofText cell).scope = .excluded ↔ ∃ tag ∈ tags, lowered (trimmed tag) = "pm" := by
  rw [scope_ofText_eq_excluded_iff, cut.parts, exists_visibleTags (p := (· = .exclude)) nofun]
  simp only [Tag.ofText_eq_exclude_iff]

/-- Two readings of the same tags in different orders. -/
structure SameUpToOrder (tags : List String) (left right : Header) : Prop where
  name : right.name = left.name
  localized : right.localized = left.localized
  codes : codes right = codes left
  reference : right.reference.isSome = left.reference.isSome
  excluded : left.scope = .excluded ↔ ∃ tag ∈ tags, lowered (trimmed tag) = "pm"
  alsoExcluded : right.scope = .excluded ↔ left.scope = .excluded
  scope : AtMostOne (scopesOf tags) → right.scope = left.scope
  unscoped : scopesOf tags = [] → left.scope ≠ .excluded → left.scope = .all
  target : AtMostOne (targetsOf tags) → right.referenceTarget = left.referenceTarget

theorem targetOf_perm (perm : tags.Perm others) (column : String)
    (one : AtMostOne (targetsOf tags)) :
    targetOf name others column = targetOf name tags column := by
  rw [targetOf, targetOf, one.getLast?_eq (targetsOf_perm perm)]

theorem isNone_targetOf_perm (perm : tags.Perm others) (column : String) :
    (targetOf name others column).isNone = (targetOf name tags column).isNone := by
  have unnamed : targetsOf others = [] ↔ targetsOf tags = [] := by
    rw [← List.length_eq_zero_iff, ← List.length_eq_zero_iff, (targetsOf_perm perm).length_eq]
  rw [Bool.eq_iff_iff, Option.isNone_iff_eq_none, Option.isNone_iff_eq_none,
    (namesTarget_targetOf name others column).eq_none_iff,
    (namesTarget_targetOf name tags column).eq_none_iff, unnamed]

theorem sameUpToOrder_of_perm {other : String} (cut : IsCut cell name tags)
    (also : IsCut other name others) (perm : tags.Perm others) :
    SameUpToOrder tags (ofText cell) (ofText other) := by
  have same : (ofText other).name = (ofText cell).name := by
    rw [name_ofText cut, name_ofText also, hasReference_perm perm]
  have excluded := scope_ofText_eq_excluded_iff_pm cut
  refine ⟨same, ?_, ?_, ?_, excluded, ?_, ?_, ?_, ?_⟩
  · rw [localized_ofText cut, localized_ofText also, (visibleTags_perm perm).any_eq]
  · have conflict := atMostOne_perm (scopesOf_perm perm)
    rw [codes_ofText cut, codes_ofText also, (visibleTags_perm perm).countP_eq,
      hasReference_perm perm, same, isNone_targetOf_perm perm]
    exact congrArg₂ _ (congrArg₂ _ rfl (if_congr conflict.symm rfl rfl)) rfl
  · rw [isSome_reference cut, isSome_reference also, hasReference_perm perm]
  · rw [excluded, scope_ofText_eq_excluded_iff_pm also]
    simp only [perm.mem_iff]
  · intro one
    have outside : (∃ tag ∈ others, Tag.ofText tag = .exclude) ↔
        ∃ tag ∈ tags, Tag.ofText tag = .exclude := by simp only [perm.mem_iff]
    rw [scope_ofText cut, scope_ofText also, one.getLast?_eq (scopesOf_perm perm)]
    exact if_congr outside rfl rfl
  · intro none shown
    rw [scope_ofText cut] at shown ⊢
    split
    · rename_i outside
      exact absurd (if_pos outside) shown
    · rw [none]
      rfl
  · intro one
    rw [referenceTarget, referenceTarget, reference_ofText cut, reference_ofText also, same,
      hasReference_perm perm, targetOf_perm perm _ one]

theorem IsCut.permuted (cut : IsCut cell name tags) (perm : tags.Perm others) :
    IsCut (joined "@" (name :: others)) name others where
  whole := rfl
  plain part member := cut.plain part ((perm.cons name).mem_iff.mpr member)

end Perm

/-- Every cell is a name part and tags. Its reading depends on the order of the tags only in the
scope, where they choose more than one, and in the target, where they name more than one; a
reference takes the last of them, or what the name part or the name says. -/
theorem ofText_tags_unordered :
    (∀ cell, ∃ name tags, IsCut cell name tags) ∧
    ∀ cell name tags, IsCut cell name tags →
      (∀ others, tags.Perm others →
        SameUpToOrder tags (ofText cell) (ofText (joined "@" (name :: others)))) ∧
      (ofText cell).reference.isSome = hasReference tags ∧
      (hasReference tags = true →
        NamesTarget name tags (ofText cell).name (ofText cell).referenceTarget ∧
        (ofText cell).referenceTarget ≠ some "" ∧
        (.missingReferenceTarget ∈ codes (ofText cell) ↔
          targetsOf tags = [] ∧ (∀ target, ¬ IsParenthetical name target) ∧
            ∀ target, ¬ IsStem (ofText cell).name target)) := by
  refine ⟨exists_isCut, fun cell name tags cut => ⟨fun others perm =>
    sameUpToOrder_of_perm cut (cut.permuted perm) perm, ?_, fun marked => ?_⟩⟩
  · exact isSome_reference cut
  · have names := namesTarget_targetOf name tags (ofText cell).name
    rw [missing_mem_codes_iff cut marked, referenceTarget_eq cut marked]
    refine ⟨names, fun empty => ?_, names.eq_none_iff⟩
    exact isNamed_referenceTarget_ofText cell _ ((referenceTarget_eq cut marked).trans empty) rfl

/-- Tags of all kinds around a name part with a parenthetical, and the same tags in another
order. -/
theorem ofText_tags_unordered_mixture :
    let name := "Owner (Player)"
    let tags := ["ref_Guild", "Client", " PM ", "", "Shiny", "lan", "client", "Ref"]
    let others := ["client", "Ref", "lan", "Shiny", "Client", "ref_Guild", "", " PM "]
    IsCut (joined "@" (name :: tags)) name tags ∧ tags.Perm others ∧
      hasReference tags = true ∧ AtMostOne (scopesOf tags) ∧ AtMostOne (targetsOf tags) ∧
      SameUpToOrder tags (ofText (joined "@" (name :: tags)))
        (ofText (joined "@" (name :: others))) ∧
      (ofText (joined "@" (name :: tags))).referenceTarget ≠ some "" := by
  intro name tags others
  have cut : IsCut (joined "@" (name :: tags)) name tags := ⟨rfl, by decide⟩
  have perm : tags.Perm others := by decide
  have marked : hasReference tags = true := by decide
  have reading := ofText_tags_unordered.2 _ name tags cut
  exact ⟨cut, perm, marked, by decide, by decide, reading.1 others perm, (reading.2.2 marked).2.1⟩

end Header

end SheetCompiler
