import SheetCompiler.Proofs.FieldType.Wrapping

/-!
# The grammar of type declarations

The declarations that `resolve` takes without complaint, as a relation between a text and
its type. Main statement: `resolve` accepts exactly these, and says for every other text
which of the two things is wrong with it. An unknown name keeps its wrappers, unless it is
taken for a keyword in front of empty brackets.
-/

set_option autoImplicit false

namespace SheetCompiler.FieldType

open Text

/-! ## Names -/

/-- A word that could name a base type, and names none. -/
structure UnknownName (cs : List Char) : Prop where
  full : trim cs ≠ []
  plain : ∀ c ∈ trim cs, isStructural c = false
  unknown : BaseType.ofName? cs = none

/-- The form of a map or of key and value pairs, after its keyword. -/
def Paired (keyword : String) (cs : List Char) (key value : BaseType) : Prop :=
  ∃ opening keyName separator valueName,
    cs = opening ++ ((keyName ++ separator :: valueName) ++ ['>']) ∧
      lower opening = keyword.toList ∧ (separator = ',' ∨ separator = ';') ∧
      BaseType.ofName? keyName = some key ∧ BaseType.ofName? valueName = some value

/-- The texts that declare a type. -/
inductive Declares : List Char → FieldType → Prop where
  | nested {cs : List Char} {base : BaseType} {depth : Nat} :
      Nested (fun name => BaseType.ofName? name = some base) cs depth → depth ≤ maxDepth →
      Declares cs (ofDepth base depth)
  | map {cs : List Char} {key value : BaseType} :
      Paired "map<" cs key value → Declares cs (.map key value)
  | pairs {cs : List Char} {key value : BaseType} :
      Paired "kvp<" cs key value → Declares cs (.pairs key value)

section Names

variable {cs : List Char} {base : BaseType} {c : Char}

theorem ofName?_trim (cs : List Char) : BaseType.ofName? (trim cs) = BaseType.ofName? cs := by
  unfold BaseType.ofName?
  rw [trim_trim]

theorem isAlphanum_spellings :
    ∀ base ∈ BaseType.all, ∀ spelling ∈ base.spellings, ∀ c ∈ spelling.toList,
      c.isAlphanum = true := by
  have all : (BaseType.all.all fun base => base.spellings.all fun spelling =>
      spelling.toList.all Char.isAlphanum) = true := by decide
  simpa only [List.all_eq_true] using all

theorem isAlphanum_of_ofName? (named : BaseType.ofName? cs = some base) :
    ∀ c ∈ trim cs, c.toLower.isAlphanum = true := by
  unfold BaseType.ofName? at named
  have listed := List.find?_some named
  have spelled := isAlphanum_spellings base (List.mem_of_find?_eq_some named) _
    (List.contains_iff_mem.mp listed)
  intro c member
  refine spelled _ ?_
  rw [String.toList_ofList]
  exact toLower_mem_lower member

/-- None of the marks of a declaration is in a name. -/
theorem not_mem_of_ofName? (named : BaseType.ofName? cs = some base) (visible : isBlank c = false)
    (mark : c.toLower.isAlphanum = false) : c ∉ cs := by
  intro member
  rcases isBlank_or_mem_trim member with blank | inside
  · rw [visible] at blank
    cases blank
  · rw [isAlphanum_of_ofName? named c inside] at mark
    cases mark

theorem plain_of_ofName? (named : BaseType.ofName? cs = some base) :
    ∀ c ∈ trim cs, isStructural c = false := by
  intro c member
  have spelled := isAlphanum_of_ofName? named c member
  rw [Bool.eq_false_iff]
  intro structural
  simp only [isStructural, Bool.or_eq_true, beq_iff_eq] at structural
  rcases structural with (((rfl | rfl) | rfl) | rfl) | rfl <;> cases spelled

theorem full_of_ofName? (named : BaseType.ofName? cs = some base) : trim cs ≠ [] := by
  intro empty
  rw [← ofName?_trim, empty] at named
  cases named

theorem naming_known (base : BaseType) :
    Naming fun name => BaseType.ofName? name = some base :=
  naming_of_plain (fun named => (ofName?_trim _).trans named) full_of_ofName? plain_of_ofName?

theorem unmistaken_known (base : BaseType) (cs : List Char) :
    Unmistaken (fun name => BaseType.ofName? name = some base) cs := by
  refine .inl fun name named word => ?_
  dsimp only [BaseType.ofName?] at named
  rw [word] at named
  cases named

theorem UnknownName.trimmed (unknown : UnknownName cs) : UnknownName (trim cs) where
  full := by
    rw [trim_trim]
    exact unknown.full
  plain := by
    rw [trim_trim]
    exact unknown.plain
  unknown := by
    rw [ofName?_trim]
    exact unknown.unknown

theorem naming_unknown : Naming UnknownName :=
  naming_of_plain UnknownName.trimmed UnknownName.full UnknownName.plain

end Names

/-! ## Maps and pairs -/

section Pairs

variable {keyword declared : String} {cs inner rest : List Char} {key value : BaseType}
  {build : BaseType → BaseType → FieldType}

theorem pairOfInner_of_named {keyName valueName : List Char} {separator : Char}
    (apart : separator = ',' ∨ separator = ';') (keyed : BaseType.ofName? keyName = some key)
    (valued : BaseType.ofName? valueName = some value) :
    pairOfInner (keyName ++ separator :: valueName) declared = .ok (key, value) := by
  have unmarked : ∀ c ∈ keyName, (c == ',' || c == ';') = false := by
    intro c member
    rw [Bool.eq_false_iff]
    intro mark
    simp only [Bool.or_eq_true, beq_iff_eq] at mark
    rcases mark with rfl | rfl <;> exact not_mem_of_ofName? keyed rfl rfl member
  have marked : (separator == ',' || separator == ';') = true := by
    rcases apart with rfl | rfl <;> rfl
  have keyFull := full_of_ofName? keyed
  have valueFull := full_of_ofName? valued
  rw [pairOfInner, cut?_append_cons unmarked marked]
  simp [keyFull, valueFull, ofName?_trim, keyed, valued]

theorem named_of_pairOfInner (read : pairOfInner inner declared = .ok (key, value)) :
    ∃ keyName separator valueName, inner = keyName ++ separator :: valueName ∧
      (separator = ',' ∨ separator = ';') ∧ BaseType.ofName? keyName = some key ∧
      BaseType.ofName? valueName = some value := by
  unfold pairOfInner at read
  cases cut : cut? (fun c => c == ',' || c == ';') inner with
  | none =>
      rw [cut] at read
      simp at read
  | some parts =>
      obtain ⟨keyName, valueName⟩ := parts
      obtain ⟨-, separator, mark, same⟩ := cut?_eq_some cut
      rw [cut] at read
      simp only [ofName?_trim, Bool.or_eq_true, List.isEmpty_iff] at read
      split at read
      · cases read
      · cases keyed : BaseType.ofName? keyName with
        | none =>
            rw [keyed] at read
            cases read
        | some key =>
            cases valued : BaseType.ofName? valueName with
            | none =>
                rw [keyed, valued] at read
                cases read
            | some value =>
                rw [keyed, valued] at read
                obtain ⟨rfl, rfl⟩ := Prod.mk.inj (Except.ok.inj read)
                refine ⟨keyName, separator, valueName, same, ?_, keyed, valued⟩
                simpa using mark

theorem Paired.resolvePair (paired : Paired keyword cs key value)
    (plain : lower keyword.toList = keyword.toList) :
    ∃ rest, stripFrontAnyCase? keyword.toList cs = some rest ∧
      resolvePair build rest declared = .resolved (build key value) := by
  obtain ⟨opening, keyName, separator, valueName, rfl, spelled, apart, keyed, valued⟩ := paired
  refine ⟨_, stripFrontAnyCase?_eq_some_iff.mpr ⟨opening, spelled.trans plain.symm, rfl⟩, ?_⟩
  rw [FieldType.resolvePair, stripBack?_eq_some_iff.mpr rfl]
  dsimp only
  rw [pairOfInner_of_named apart keyed valued]

theorem resolvePair_cases (build : BaseType → BaseType → FieldType) (declared : String)
    (opened : stripFrontAnyCase? keyword.toList cs = some rest)
    (plain : lower keyword.toList = keyword.toList) :
    (∃ key value, Paired keyword cs key value ∧
        resolvePair build rest declared = .resolved (build key value)) ∨
      ∃ fault, resolvePair build rest declared = .degraded fault := by
  unfold resolvePair
  cases closed : stripBack? ['>'] rest with
  | none => exact .inr ⟨_, rfl⟩
  | some inner =>
      cases read : pairOfInner inner declared with
      | error fault =>
          dsimp only
          rw [read]
          exact .inr ⟨fault, rfl⟩
      | ok named =>
          obtain ⟨key, value⟩ := named
          obtain rfl := stripBack?_eq_some_iff.mp closed
          obtain ⟨opening, spelled, rfl⟩ := stripFrontAnyCase?_eq_some_iff.mp opened
          obtain ⟨keyName, separator, valueName, rfl, apart, keyed, valued⟩ :=
            named_of_pairOfInner read
          refine .inl ⟨key, value, ⟨opening, keyName, separator, valueName, rfl,
            spelled.trans plain, apart, keyed, valued⟩, ?_⟩
          dsimp only
          rw [read]

end Pairs

/-! ## Declarations -/

section Declarations

variable {isName : List Char → Prop} {cs : List Char} {base : BaseType} {depth : Nat}
  {text : String} {type : FieldType}

theorem Nested.not_mem_angle (free : ∀ cs, isName cs → '<' ∉ trim cs)
    (nested : Nested isName cs depth) : '<' ∉ cs := by
  intro member
  induction nested with
  | name known =>
      rcases isBlank_or_mem_trim member with blank | inside
      · cases blank
      · exact free _ known inside
  | repeated spelled blank _ ih =>
      rcases List.mem_append.mp member with keyword | rest
      · have foreign := toLower_mem_lower keyword
        rw [spelled] at foreign
        exact absurd foreign (by decide)
      · rcases List.mem_append.mp rest with before | inner
        · cases blank '<' before
        · exact ih inner
  | listed _ blank ih =>
      rcases List.mem_append.mp member with inner | rest
      · exact ih inner
      · rcases List.mem_append.mp rest with after | brackets
        · cases blank '<' after
        · exact absurd brackets (by decide)
  | enclosed front _ back ih =>
      rcases List.mem_append.mp member with bracket | rest
      · exact absurd bracket (by decide)
      · rcases List.mem_append.mp rest with enclosed | bracket
        · rcases List.mem_append.mp enclosed with before | rest
          · cases front '<' before
          · rcases List.mem_append.mp rest with inner | after
            · exact ih inner
            · cases back '<' after
        · exact absurd bracket (by decide)

theorem stripFrontAnyCase?_eq_none {front : List Char} (mark : '<' ∈ lower front)
    (unmarked : '<' ∉ cs) : stripFrontAnyCase? front cs = none := by
  cases opened : stripFrontAnyCase? front cs with
  | none => rfl
  | some rest =>
      obtain ⟨head, spelled, rfl⟩ := stripFrontAnyCase?_eq_some_iff.mp opened
      rw [← spelled] at mark
      obtain ⟨c, member, lowered⟩ := List.mem_map.mp mark
      obtain rfl := eq_of_toLower_eq lowered (.inl (by decide))
      exact absurd (List.mem_append_left rest member) unmarked

theorem angle_not_mem_of_plain (plain : ∀ c ∈ cs, isStructural c = false) : '<' ∉ cs := by
  intro member
  cases plain '<' member

theorem resolve_eq_resolveNested (full : trim text.toList ≠ []) (unmarked : '<' ∉ trim text.toList) :
    resolve text = resolveNested (trim text.toList) := by
  rw [resolve, stripFrontAnyCase?_eq_none (by decide) unmarked,
    stripFrontAnyCase?_eq_none (by decide) unmarked]
  simp [full]

/-- What a plain name in wrappers is read as. -/
theorem Nested.exists_resolve_eq (naming : Naming isName)
    (plain : ∀ cs, isName cs → ∀ c ∈ trim cs, isStructural c = false)
    (nested : Nested isName (trim text.toList) depth)
    (unmistaken : Unmistaken isName (trim text.toList)) :
    ∃ name, isName name ∧ peel (trim text.toList) = (trim name, depth) ∧
      resolve text = resolveNested (trim text.toList) := by
  have unmarked := nested.not_mem_angle fun cs known => angle_not_mem_of_plain (plain cs known)
  have full := nested.full naming
  obtain ⟨name, known, peeled⟩ := nested.peel_trim naming unmistaken
  rw [trim_trim] at full peeled
  rw [peel_of_plain (plain name known), Nat.zero_add] at peeled
  exact ⟨name, known, peeled, resolve_eq_resolveNested full unmarked⟩

theorem resolve_of_known
    (nested : Nested (fun name => BaseType.ofName? name = some base) (trim text.toList) depth)
    (shallow : depth ≤ maxDepth) : resolve text = .resolved (ofDepth base depth) := by
  obtain ⟨name, named, peeled, nests⟩ := nested.exists_resolve_eq (naming_known base)
    (fun _ => plain_of_ofName?) (unmistaken_known base _)
  have plain : (trim name).any isStructural = false := by
    rw [List.any_eq_false]
    exact fun c member => Bool.eq_false_iff.mp (plain_of_ofName? named c member)
  rw [nests, resolveNested, peeled]
  simp [Nat.not_lt.mpr shallow, full_of_ofName? named, plain, ofName?_trim, named]

theorem exists_resolve_of_unknown (nested : Nested UnknownName (trim text.toList) depth)
    (shallow : depth ≤ maxDepth) (full : ¬ IsHollow (trim text.toList)) :
    ∃ name declared, resolve text =
      ⟨ofDepth .string depth, [Diagnostic.ofCause (.unknownBaseType name declared)]⟩ := by
  obtain ⟨name, unknown, peeled, nests⟩ := nested.exists_resolve_eq naming_unknown
    (fun _ => UnknownName.plain) (.inr (by rwa [trim_trim]))
  have plain : (trim name).any isStructural = false := by
    rw [List.any_eq_false]
    exact fun c member => Bool.eq_false_iff.mp (unknown.plain c member)
  refine ⟨String.ofList (trim name), String.ofList (trim text.toList), ?_⟩
  rw [nests, resolveNested, peeled]
  simp [Nat.not_lt.mpr shallow, unknown.full, plain, ofName?_trim, unknown.unknown]

/-- Only the keyword can be taken for a keyword. -/
theorem not_isHollow_of_unknown
    (nested : Nested (fun name => UnknownName name ∧ lower (trim name) ≠ "repeated".toList)
      (trim text.toList) depth) : ¬ IsHollow (trim text.toList) := by
  intro hollow
  have naming : Naming fun name => UnknownName name ∧ lower (trim name) ≠ "repeated".toList :=
    naming_of_plain (fun ⟨unknown, other⟩ => ⟨unknown.trimmed, by rwa [trim_trim]⟩)
      (fun unknown => unknown.1.full) (fun unknown => unknown.1.plain)
  obtain ⟨name, ⟨unknown, -⟩, peeled, -⟩ := nested.exists_resolve_eq naming
    (fun _ unknown => unknown.1.plain) (.inl fun _ unknown => unknown.2)
  have nothing := hollow.peel_trim
  rw [trim_trim, peeled] at nothing
  exact unknown.full nothing

theorem exists_resolve_of_isHollow (hollow : IsHollow (trim text.toList)) :
    ∃ fault, resolve text = .degraded fault := by
  have nothing := hollow.peel_trim
  obtain ⟨depth, nested⟩ := hollow
  have unmarked : '<' ∉ trim text.toList := by
    refine nested.not_mem_angle ?_
    rintro cs ⟨between, blank, same⟩ member
    rw [same] at member
    rcases List.mem_append.mp member with bracket | rest
    · exact absurd bracket (by decide)
    · rcases List.mem_append.mp rest with inside | bracket
      · cases blank '<' inside
      · exact absurd bracket (by decide)
  have full := nested.full naming_emptyBrackets
  rw [trim_trim] at full nothing
  rw [resolve_eq_resolveNested full unmarked]
  unfold resolveNested
  by_cases deep : maxDepth < (peel (trim text.toList)).2
  · exact ⟨_, if_pos deep⟩
  · exact ⟨_, (if_neg deep).trans (if_pos (by rw [nothing]; rfl))⟩

theorem resolveNested_cases (tight : Tight cs) :
    (∃ base depth, depth ≤ maxDepth ∧
        Nested (fun name => BaseType.ofName? name = some base) cs depth ∧
        resolveNested cs = .resolved (ofDepth base depth)) ∨
      (∃ fault, resolveNested cs = .degraded fault) ∨
      ∃ depth name declared, depth ≤ maxDepth ∧ Nested UnknownName cs depth ∧
        resolveNested cs =
          ⟨ofDepth .string depth, [Diagnostic.ofCause (.unknownBaseType name declared)]⟩ := by
  have inside := tight_peel tight
  unfold resolveNested
  by_cases deep : maxDepth < (peel cs).2
  · exact .inr (.inl ⟨_, if_pos deep⟩)
  · have shallow := Nat.not_lt.mp deep
    simp only [if_neg deep]
    by_cases foreign : ((peel cs).1.isEmpty || (peel cs).1.any isStructural) = true
    · exact .inr (.inl ⟨_, if_pos foreign⟩)
    · simp only [if_neg foreign]
      cases named : BaseType.ofName? (peel cs).1 with
      | some base => exact .inl ⟨base, _, shallow, nested_peel cs named, rfl⟩
      | none =>
          refine .inr (.inr ⟨_, _, _, shallow, nested_peel cs ?_, rfl⟩)
          simp only [Bool.or_eq_true, not_or, List.isEmpty_iff, List.any_eq_true, not_exists,
            not_and, Bool.not_eq_true] at foreign
          refine ⟨?_, ?_, named⟩
          · rw [inside.trim_eq]
            exact foreign.1
          · rw [inside.trim_eq]
            exact foreign.2

theorem resolve_cases (text : String) :
    (∃ type, Declares (trim text.toList) type ∧ resolve text = .resolved type) ∨
      (∃ fault, resolve text = .degraded fault) ∨
      ∃ depth name declared, depth ≤ maxDepth ∧ Nested UnknownName (trim text.toList) depth ∧
        resolve text =
          ⟨ofDepth .string depth, [Diagnostic.ofCause (.unknownBaseType name declared)]⟩ := by
  unfold resolve
  by_cases empty : (trim text.toList).isEmpty = true
  · exact .inr (.inl ⟨_, if_pos empty⟩)
  · simp only [if_neg empty]
    cases mapped : stripFrontAnyCase? "map<".toList (trim text.toList) with
    | some rest =>
        rcases resolvePair_cases .map (String.ofList (trim text.toList)) mapped rfl with
          ⟨key, value, paired, resolved⟩ | ⟨fault, degraded⟩
        · exact .inl ⟨_, .map paired, resolved⟩
        · exact .inr (.inl ⟨fault, degraded⟩)
    | none =>
        cases listed : stripFrontAnyCase? "kvp<".toList (trim text.toList) with
        | some rest =>
            rcases resolvePair_cases .pairs (String.ofList (trim text.toList)) listed rfl with
              ⟨key, value, paired, resolved⟩ | ⟨fault, degraded⟩
            · exact .inl ⟨_, .pairs paired, resolved⟩
            · exact .inr (.inl ⟨fault, degraded⟩)
        | none =>
            rcases resolveNested_cases (tight_trim text.toList) with
              ⟨base, depth, shallow, nested, resolved⟩ | rest
            · exact .inl ⟨_, .nested nested shallow, resolved⟩
            · exact .inr rest

theorem Declares.resolve (declares : Declares (trim text.toList) type) :
    resolve text = .resolved type := by
  generalize chars : trim text.toList = cs at declares
  cases declares with
  | nested nested shallow => exact resolve_of_known (chars ▸ nested) shallow
  | map paired =>
      obtain ⟨rest, opened, resolved⟩ := paired.resolvePair rfl
      have full : cs.isEmpty = false := by
        cases cs with
        | nil => cases opened
        | cons c cs => rfl
      simp only [FieldType.resolve, chars, full, Bool.false_eq_true, if_false, opened]
      exact resolved
  | pairs paired =>
      obtain ⟨rest, opened, resolved⟩ := paired.resolvePair rfl
      have full : cs.isEmpty = false := by
        cases cs with
        | nil => cases opened
        | cons c cs => rfl
      have unmapped : stripFrontAnyCase? "map<".toList cs = none := by
        unfold stripFrontAnyCase? at opened ⊢
        split at opened
        · rename_i spelled
          have keyword : lower (cs.take 4) = "kvp<".toList := eq_of_beq spelled
          rw [if_neg]
          intro other
          rw [show "map<".toList.length = 4 from rfl, keyword] at other
          cases other
        · cases opened
      simp only [FieldType.resolve, chars, full, Bool.false_eq_true, if_false, unmapped, opened]
      exact resolved

/-! ## Canonical spellings -/

theorem ofName?_name (base : BaseType) : BaseType.ofName? base.name.toList = some base := by
  cases base <;> decide

theorem tight_name (base : BaseType) : Tight base.name.toList := by
  constructor
  · intro c starts
    cases base <;> obtain rfl := Option.some.inj starts <;> rfl
  · intro c ends
    cases base <;> obtain rfl := Option.some.inj ends <;> rfl

theorem declares_display (type : FieldType) : Declares type.display.toList type := by
  have enclosed (base : BaseType) :
      Nested (fun name => BaseType.ofName? name = some base) (['['] ++ (base.name.toList ++ [']']))
        1 := by
    have named : Nested (fun name => BaseType.ofName? name = some base) base.name.toList 0 :=
      .name (ofName?_name base)
    have nested := Nested.enclosed blanks_nil named blanks_nil
    rwa [List.nil_append, List.append_nil] at nested
  cases type with
  | scalar base =>
      have named : Nested (fun name => BaseType.ofName? name = some base) base.name.toList 0 :=
        .name (ofName?_name base)
      exact .nested named (Nat.zero_le _)
  | array base =>
      have spelled : (array base).display.toList = ['['] ++ (base.name.toList ++ [']']) := by
        simp [display, toString]
      rw [spelled]
      exact .nested (enclosed base) (by decide)
  | matrix base =>
      have spelled : (matrix base).display.toList =
          ['['] ++ (([] ++ ((['['] ++ (base.name.toList ++ [']'])) ++ [])) ++ [']']) := by
        simp [display, toString]
      rw [spelled]
      exact .nested (.enclosed blanks_nil (enclosed base) blanks_nil) (Nat.le_refl _)
  | map key value =>
      refine .map ⟨"map<".toList, key.name.toList, ',', value.name.toList, ?_, rfl, .inl rfl,
        ofName?_name key, ofName?_name value⟩
      simp [display, toString]
  | pairs key value =>
      refine .pairs ⟨"kvp<".toList, key.name.toList, ',', value.name.toList, ?_, rfl, .inl rfl,
        ofName?_name key, ofName?_name value⟩
      simp [display, toString]

theorem trim_display (type : FieldType) : trim type.display.toList = type.display.toList := by
  have between (c d : Char) (front : isBlank c = false) (back : isBlank d = false)
      (inner : List Char) : trim (c :: inner ++ [d]) = c :: inner ++ [d] :=
    (Tight.of_cons_concat front back inner).trim_eq
  cases type with
  | scalar base => exact (tight_name base).trim_eq
  | array base => simpa [display, toString] using between '[' ']' rfl rfl base.name.toList
  | matrix base =>
      simpa [display, toString] using between '[' ']' rfl rfl ('[' :: base.name.toList ++ [']'])
  | map key value =>
      simpa [display, toString] using between 'm' '>' rfl rfl
        ("ap<".toList ++ key.name.toList ++ ',' :: value.name.toList)
  | pairs key value =>
      simpa [display, toString] using between 'k' '>' rfl rfl
        ("vp<".toList ++ key.name.toList ++ ',' :: value.name.toList)

/-- The canonical spelling of a type declares it. -/
theorem resolve_display (type : FieldType) : resolve type.display = .resolved type := by
  apply Declares.resolve
  rw [trim_display]
  exact declares_display type

/-- What `resolve` makes of a text: the type it declares; else the shape of the text around
`string` if only the name in it is unknown; else `string`. An unknown name loses its shape only
where it spells the keyword and what is behind it reads as empty brackets. A type that was read
is read again from its canonical spelling. -/
theorem resolve_grammar (text : String) :
    (∀ type, Declares (trim text.toList) type ↔ resolve text = ⟨type, []⟩) ∧
      ((resolve text).diagnostics = [] ↔ ∃ type, Declares (trim text.toList) type) ∧
      ((¬ ∃ type, Declares (trim text.toList) type) →
        ∃ diagnostic, (resolve text).diagnostics = [diagnostic] ∧
          (diagnostic.code = .malformedType ∧ (resolve text).type = .scalar .string ∨
            diagnostic.code = .unknownBaseType ∧
              ∃ depth, depth ≤ maxDepth ∧ Nested UnknownName (trim text.toList) depth ∧
                (resolve text).type = ofDepth .string depth)) ∧
      (∀ depth, depth ≤ maxDepth → Nested UnknownName (trim text.toList) depth →
        ¬ IsHollow (trim text.toList) →
          (resolve text).diagnostics.map Diagnostic.code = [.unknownBaseType] ∧
            (resolve text).type = ofDepth .string depth) ∧
      (IsHollow (trim text.toList) →
        (resolve text).diagnostics.map Diagnostic.code = [.malformedType] ∧
          (resolve text).type = .scalar .string) ∧
      (∀ depth,
        Nested (fun name => UnknownName name ∧ lower (trim name) ≠ "repeated".toList)
            (trim text.toList) depth →
          ¬ IsHollow (trim text.toList)) ∧
      resolve (resolve text).type.display = ⟨(resolve text).type, []⟩ := by
  have accepted : (resolve text).diagnostics = [] ↔ ∃ type, Declares (trim text.toList) type := by
    constructor
    · intro silent
      rcases resolve_cases text with ⟨type, declares, -⟩ | ⟨fault, degraded⟩ |
        ⟨depth, name, declared, -, -, unknown⟩
      · exact ⟨type, declares⟩
      · rw [degraded] at silent
        cases silent
      · rw [unknown] at silent
        cases silent
    · rintro ⟨type, declares⟩
      rw [declares.resolve]
      rfl
  refine ⟨fun type => ⟨Declares.resolve, fun resolved => ?_⟩, accepted, fun undeclared => ?_,
    fun depth shallow nested full => ?_, fun hollow => ?_,
    fun depth nested => not_isHollow_of_unknown nested, resolve_display _⟩
  · obtain ⟨other, declares⟩ := accepted.mp (by rw [resolved])
    have same := declares.resolve.symm.trans resolved
    obtain rfl := congrArg Resolution.type same
    exact declares
  · rcases resolve_cases text with ⟨type, declares, -⟩ | ⟨fault, degraded⟩ |
      ⟨depth, name, declared, shallow, nested, unknown⟩
    · exact absurd ⟨type, declares⟩ undeclared
    · rw [degraded]
      exact ⟨_, rfl, .inl ⟨rfl, rfl⟩⟩
    · rw [unknown]
      exact ⟨_, rfl, .inr ⟨rfl, depth, shallow, nested, rfl⟩⟩
  · obtain ⟨name, declared, unknown⟩ := exists_resolve_of_unknown nested shallow full
    rw [unknown]
    exact ⟨rfl, rfl⟩
  · obtain ⟨fault, degraded⟩ := exists_resolve_of_isHollow hollow
    rw [degraded]
    exact ⟨rfl, rfl⟩

theorem unknownName_of_plain (full : trim cs ≠ []) (unknown : BaseType.ofName? cs = none)
    (plain : (trim cs).any isStructural = false) : UnknownName cs :=
  ⟨full, fun c member => Bool.eq_false_iff.mpr (List.any_eq_false.mp plain c member), unknown⟩

/-- A keyword in front and brackets behind are two wrappers around one unknown name. The
keyword is a name itself, with brackets around it or right behind it. -/
theorem resolve_grammar_mixture :
    ((resolve " repeated Widget [] ").diagnostics.map Diagnostic.code = [.unknownBaseType] ∧
      (resolve " repeated Widget [] ").type = .matrix .string) ∧
    ((resolve "repeated[]").diagnostics.map Diagnostic.code = [.unknownBaseType] ∧
      (resolve "repeated[]").type = .array .string) ∧
    ((resolve "[repeated]").diagnostics.map Diagnostic.code = [.unknownBaseType] ∧
      (resolve "[repeated]").type = .array .string) := by
  have word : UnknownName "repeated".toList :=
    unknownName_of_plain (by decide) (by decide) (by decide)
  have keyword : lower "repeated ".toList = "repeated ".toList := rfl
  have full (text : String)
      (unknown : (resolve text).diagnostics.map Diagnostic.code = [.unknownBaseType]) :
      ¬ IsHollow (trim text.toList) := by
    intro hollow
    have malformed := ((resolve_grammar text).2.2.2.2.1 hollow).1
    rw [unknown] at malformed
    cases malformed
  refine ⟨?_, ?_, ?_⟩
  · have named : Nested (fun name => UnknownName name ∧ lower (trim name) ≠ "repeated".toList)
        "Widget".toList 0 :=
      .name ⟨unknownName_of_plain (by decide) (by decide) (by decide), by decide⟩
    have gap : Blanks [' '] := fun c member => List.mem_singleton.mp member ▸ rfl
    have nested := Nested.repeated keyword blanks_nil (named.listed gap)
    have apart := (resolve_grammar " repeated Widget [] ").2.2.2.2.2.1 2 nested
    have named : Nested UnknownName "Widget".toList 0 :=
      .name (unknownName_of_plain (by decide) (by decide) (by decide))
    exact (resolve_grammar " repeated Widget [] ").2.2.2.1 2 (Nat.le_refl _)
      (.repeated keyword blanks_nil (named.listed gap)) apart
  · exact (resolve_grammar "repeated[]").2.2.2.1 1 (by decide)
      (.listed (.name word) blanks_nil) (full _ (by decide +kernel))
  · exact (resolve_grammar "[repeated]").2.2.2.1 1 (by decide)
      (.enclosed blanks_nil (.name word) blanks_nil) (full _ (by decide +kernel))

/-- With a blank behind it the same word is a keyword, and its brackets are empty. -/
theorem resolve_grammar_keyword :
    Nested UnknownName (trim "repeated []".toList) 1 ∧
      resolve "repeated []" = .degraded (.malformed "repeated []") ∧
      (resolve "repeated []").type ≠ ofDepth .string 1 := by
  have word : UnknownName "repeated".toList :=
    unknownName_of_plain (by decide) (by decide) (by decide)
  have gap : Blanks [' '] := fun c member => List.mem_singleton.mp member ▸ rfl
  exact ⟨.listed (.name word) gap, by decide +kernel, by decide +kernel⟩

end Declarations

end SheetCompiler.FieldType
