import SheetCompiler.Proofs.Number.Integer
import SheetCompiler.Proofs.StructuredCell.Values

/-!
# Keys of maps

A cell whose report has no fault has no two entries with the same key text. Its keys are
different as values too, unless two of the texts are spellings of one value: words for one
truth value, numerals for one integer, decimals for one number.
-/

set_option autoImplicit false

namespace SheetCompiler

open Text

/-! ## Spellings of one key -/

/-- Two values that a map holds under one key: equal ones, and numbers that compare equal,
which the two zeros do. -/
def Value.IsSameKey (first second : Value) : Prop :=
  first = second ∨ ∃ x y, first = .float x ∧ second = .float y ∧ x.eq y = true

/-- The words for a truth value. -/
def Value.truthWords : Bool → List String
  | true => ["true", "t", "yes", "y", "1"]
  | false => ["false", "f", "no", "n", "0"]

/-- Two texts for one value of a base type, neither of them blank. -/
inductive Respelled : BaseType → List Char → List Char → Prop where
  | bool {first second : List Char} (value : Bool) :
      String.ofList (lower first) ∈ Value.truthWords value →
      String.ofList (lower second) ∈ Value.truthWords value → Respelled .bool first second
  | integer {base : BaseType} {first second : List Char} :
      base.isSigned = true ∨ base.isUnsigned = true → first ≠ [] → second ≠ [] →
      Integer.reduced first = Integer.reduced second → Respelled base first second
  | decimal {base : BaseType} {first second : List Char} {x y : Binary64} :
      base.isFloating = true → Decimal.read? first = some x → Decimal.read? second = some y →
      x = y ∨ x.eq y = true → Respelled base first second

variable {base : BaseType} {first second : List Char} {value other : Value}

theorem Respelled.visible (respelled : Respelled base first second) :
    first ≠ [] ∧ second ≠ [] := by
  cases respelled with
  | bool truth one two =>
      have blank : ∀ truth, String.ofList (lower []) ∉ Value.truthWords truth := by decide
      constructor <;> rintro rfl
      · exact blank truth one
      · exact blank truth two
  | integer _ one two _ => exact ⟨one, two⟩
  | decimal _ one two _ => constructor <;> rintro rfl <;> contradiction

theorem not_respelled_string : ¬ Respelled .string first second := by
  rintro (_ | ⟨integer, -, -, -⟩ | ⟨floating, -, -, -⟩)
  · simp [BaseType.isSigned, BaseType.isUnsigned] at integer
  · cases floating

theorem respelled_bool_iff :
    Respelled .bool first second ↔
      ∃ truth, String.ofList (lower first) ∈ Value.truthWords truth ∧
        String.ofList (lower second) ∈ Value.truthWords truth := by
  constructor
  · rintro (⟨truth, one, two⟩ | ⟨integer, -, -, -⟩ | ⟨floating, -, -, -⟩)
    · exact ⟨truth, one, two⟩
    · simp [BaseType.isSigned, BaseType.isUnsigned] at integer
    · cases floating
  · rintro ⟨truth, one, two⟩
    exact .bool truth one two

theorem respelled_integer_iff (integer : base.isSigned = true ∨ base.isUnsigned = true)
    (full : first ≠ []) (fullOther : second ≠ []) :
    Respelled base first second ↔ Integer.reduced first = Integer.reduced second := by
  refine ⟨fun respelled => ?_, .integer integer full fullOther⟩
  cases respelled with
  | bool truth one two => simp [BaseType.isSigned, BaseType.isUnsigned] at integer
  | integer _ _ _ same => exact same
  | decimal floating _ _ _ =>
      rw [BaseType.not_isFloating integer] at floating
      cases floating

theorem respelled_decimal_iff {x y : Binary64} (floating : base.isFloating = true)
    (read : Decimal.read? first = some x) (readOther : Decimal.read? second = some y) :
    Respelled base first second ↔ x = y ∨ x.eq y = true := by
  refine ⟨fun respelled => ?_, .decimal floating read readOther⟩
  cases respelled with
  | bool truth one two => cases floating
  | integer integer _ _ _ =>
      rw [BaseType.not_isFloating integer] at floating
      cases floating
  | decimal _ one two same =>
      cases read.symm.trans one
      cases readOther.symm.trans two
      exact same

namespace Value

theorem truthWords_unique {word : String} {truth opposite : Bool}
    (listed : word ∈ truthWords truth) (listedOther : word ∈ truthWords opposite) :
    truth = opposite := by
  have apart : ∀ word ∈ truthWords false, word ∉ truthWords true := by decide
  cases truth <;> cases opposite <;> first | rfl | exact absurd ‹_› (apart word ‹_›)

theorem boolOfText?_eq_some_iff {cs : List Char} {truth : Bool} :
    boolOfText? cs = some truth ↔ String.ofList (lower (trim cs)) ∈ truthWords truth := by
  unfold boolOfText?
  dsimp only
  generalize String.ofList (lower (trim cs)) = word
  change (if (truthWords true).contains word then some true
    else if (truthWords false).contains word then some false else none) = some truth ↔ _
  simp only [List.contains_iff_mem]
  split
  · rename_i affirmed
    cases truth with
    | true => simp [affirmed]
    | false =>
        refine iff_of_false (by simp) fun denied => ?_
        cases truthWords_unique denied affirmed
  · rename_i silent
    split
    · rename_i denied
      cases truth with
      | true => simp [silent]
      | false => simp [denied]
    · rename_i unknown
      cases truth <;> simp [silent, unknown]

/-! ## Keys by the texts they are read from -/

theorem isSameKey_string_iff (full : trim first ≠ []) (fullOther : trim second ≠ [])
    (read : ofElement .string first = .ok value) (readOther : ofElement .string second = .ok other) :
    value.IsSameKey other ↔ trim first = trim second := by
  rw [ofElement_string full] at read
  rw [ofElement_string fullOther] at readOther
  cases read
  cases readOther
  simp [IsSameKey, String.ofList_inj]

theorem exists_truth_of_ofElement {cs : List Char} (full : trim cs ≠ [])
    (read : ofElement .bool cs = .ok value) :
    ∃ truth, String.ofList (lower (trim cs)) ∈ truthWords truth ∧ value = .bool truth := by
  have isElement := isElement_of_ofElement read
  generalize piece : trim cs = element at isElement
  cases isElement with
  | blank => exact absurd piece full
  | bool known =>
      rw [boolOfText?_eq_some_iff, ← piece, trim_trim] at known
      exact ⟨_, piece ▸ known, rfl⟩
  | float floating _ _ => cases floating
  | int signed _ _ _ => cases signed
  | uint unsigned _ _ => cases unsigned

theorem isSameKey_bool_iff (full : trim first ≠ []) (fullOther : trim second ≠ [])
    (read : ofElement .bool first = .ok value) (readOther : ofElement .bool second = .ok other) :
    value.IsSameKey other ↔ Respelled .bool (trim first) (trim second) := by
  obtain ⟨word, known, rfl⟩ := exists_truth_of_ofElement full read
  obtain ⟨wordOther, knownOther, rfl⟩ := exists_truth_of_ofElement fullOther readOther
  have same : IsSameKey (.bool word) (.bool wordOther) ↔ word = wordOther := by simp [IsSameKey]
  rw [same, respelled_bool_iff]
  constructor
  · rintro rfl
    exact ⟨word, known, knownOther⟩
  · rintro ⟨truth, one, two⟩
    rw [truthWords_unique known one, truthWords_unique knownOther two]

theorem isSameKey_floating_iff (floating : base.isFloating = true) (full : trim first ≠ [])
    (fullOther : trim second ≠ []) (read : ofElement base first = .ok value)
    (readOther : ofElement base second = .ok other) :
    value.IsSameKey other ↔ Respelled base (trim first) (trim second) := by
  rw [ofElement_floating full floating, ofDecimal_eq_ok_iff] at read
  rw [ofElement_floating fullOther floating, ofDecimal_eq_ok_iff] at readOther
  obtain ⟨x, number, -, rfl⟩ := read
  obtain ⟨y, numberOther, -, rfl⟩ := readOther
  rw [respelled_decimal_iff floating number numberOther]
  simp [IsSameKey]

theorem isSameKey_signed_iff (signed : base.isSigned = true) (full : trim first ≠ [])
    (fullOther : trim second ≠ []) (read : ofElement base first = .ok value)
    (readOther : ofElement base second = .ok other) :
    value.IsSameKey other ↔ Respelled base (trim first) (trim second) := by
  rw [ofElement_signed full signed, ofInteger_eq_ok_iff] at read
  rw [ofElement_signed fullOther signed, ofInteger_eq_ok_iff] at readOther
  obtain ⟨n, number, low, high, rfl⟩ := read
  obtain ⟨m, numberOther, lowOther, highOther, rfl⟩ := readOther
  rw [respelled_integer_iff (.inl signed) full fullOther,
    ← Integer.signed_eq_iff number numberOther]
  have values : Int64.ofInt n = Int64.ofInt m ↔ n = m := by
    refine ⟨fun same => ?_, congrArg Int64.ofInt⟩
    rw [← toInt_ofInt_of_range low high, same, toInt_ofInt_of_range lowOther highOther]
  simp [IsSameKey, values]

theorem isSameKey_unsigned_iff (unsigned : base.isUnsigned = true) (full : trim first ≠ [])
    (fullOther : trim second ≠ []) (read : ofElement base first = .ok value)
    (readOther : ofElement base second = .ok other) :
    value.IsSameKey other ↔ Respelled base (trim first) (trim second) := by
  rw [ofElement_unsigned full unsigned, ofNatural_eq_ok_iff] at read
  rw [ofElement_unsigned fullOther unsigned, ofNatural_eq_ok_iff] at readOther
  obtain ⟨n, number, high, rfl⟩ := read
  obtain ⟨m, numberOther, highOther, rfl⟩ := readOther
  rw [respelled_integer_iff (.inr unsigned) full fullOther,
    ← Integer.unsigned_eq_iff number numberOther]
  have values : UInt64.ofNat n = UInt64.ofNat m ↔ n = m := by
    refine ⟨fun same => ?_, congrArg UInt64.ofNat⟩
    rw [← toNat_ofNat_of_range high, same, toNat_ofNat_of_range highOther]
  simp [IsSameKey, values]

theorem eq_of_trim_eq (same : trim first = trim second) (read : ofElement base first = .ok value)
    (readOther : ofElement base second = .ok other) : value = other := by
  rw [ofElement_eq_ok_iff, ← same, ← ofElement_eq_ok_iff] at readOther
  exact Except.ok.inj (read.symm.trans readOther)

theorem IsSameKey.null_iff (same : value.IsSameKey other) : value = .null ↔ other = .null := by
  rcases same with rfl | ⟨x, y, rfl, rfl, -⟩
  · exact Iff.rfl
  · exact iff_of_false nofun nofun

theorem eq_null_iff (read : ofElement base first = .ok value) :
    value = .null ↔ trim first = [] := by
  refine ⟨fun null => ?_, fun blank => ?_⟩
  · by_contra full
    exact ne_null_of_ofElement full read null
  · rw [ofElement_blank blank] at read
    exact (Except.ok.inj read).symm

/-- The values of two texts are one key exactly when the texts are alike or spellings of one
value. -/
theorem isSameKey_iff (read : ofElement base first = .ok value)
    (readOther : ofElement base second = .ok other) :
    value.IsSameKey other ↔
      trim first = trim second ∨ Respelled base (trim first) (trim second) := by
  have alike (same : trim first = trim second) : value.IsSameKey other :=
    .inl (eq_of_trim_eq same read readOther)
  -- The rules for the base types are about texts that are not blank.
  by_cases full : trim first = []
  · refine ⟨fun same => .inl ?_, fun texts => ?_⟩
    · have null := same.null_iff.mp ((eq_null_iff read).mpr full)
      rw [full, (eq_null_iff readOther).mp null]
    · exact texts.elim alike fun respelled => absurd full respelled.visible.1
  by_cases fullOther : trim second = []
  · refine ⟨fun same => .inl ?_, fun texts => ?_⟩
    · have null := same.null_iff.mpr ((eq_null_iff readOther).mpr fullOther)
      rw [fullOther, (eq_null_iff read).mp null]
    · exact texts.elim alike fun respelled => absurd fullOther respelled.visible.2
  have respelled (spelled : value.IsSameKey other ↔ Respelled base (trim first) (trim second)) :
      value.IsSameKey other ↔
        trim first = trim second ∨ Respelled base (trim first) (trim second) :=
    ⟨fun same => .inr (spelled.mp same), fun texts => texts.elim alike spelled.mpr⟩
  rcases base.kind_cases with rfl | rfl | floating | signed | unsigned
  · simp [isSameKey_string_iff full fullOther read readOther, not_respelled_string]
  · exact respelled (isSameKey_bool_iff full fullOther read readOther)
  · exact respelled (isSameKey_floating_iff floating full fullOther read readOther)
  · exact respelled (isSameKey_signed_iff signed full fullOther read readOther)
  · exact respelled (isSameKey_unsigned_iff unsigned full fullOther read readOther)

end Value

/-! ## Keys of a cell -/

theorem pairwise_iff_of_forall₂ {α β : Type} {agrees : α → β → Prop} {before : α → α → Prop}
    {after : β → β → Prop} {items : List α} {values : List β}
    (all : List.Forall₂ agrees items values)
    (same : ∀ item value item' value', agrees item value → agrees item' value' →
      (before item item' ↔ after value value')) :
    items.Pairwise before ↔ values.Pairwise after := by
  have length := all.length_eq
  rw [List.pairwise_iff_getElem, List.pairwise_iff_getElem]
  constructor
  · intro apart i j low high order
    have first := all.get (by omega) low
    have second := all.get (by omega) high
    exact (same _ _ _ _ first second).mp (apart i j _ _ order)
  · intro apart i j low high order
    have first := all.get low (by omega)
    have second := all.get high (by omega)
    exact (same _ _ _ _ first second).mpr (apart i j _ _ order)

namespace CellReport

/-- The texts of the keys, of the entries that have one. -/
def keyTexts (items : List (List Char)) : List (List Char) :=
  items.filterMap fun entry => (splitPair? entry).map Prod.fst

theorem nodup_keyTexts {key entryValue : BaseType} {seen items : List (List Char)}
    (sound : (entries true key entryValue seen items).flatMap (·.2) = []) :
    (keyTexts items).Nodup ∧ ∀ keyText ∈ keyTexts items, keyText ∉ seen := by
  induction items generalizing seen with
  | nil => exact ⟨.nil, nofun⟩
  | cons entry items ih =>
      unfold entries at sound
      cases pair : splitPair? entry with
      | none =>
          rw [pair] at sound
          cases sound
      | some parts =>
          rw [pair] at sound
          obtain ⟨own, others⟩ := List.append_eq_nil_iff.mp sound
          obtain ⟨distinct, unseen⟩ := ih others
          have fresh : parts.1 ∉ seen := by
            intro listed
            simp [listed] at own
          have texts : keyTexts (entry :: items) = parts.1 :: keyTexts items := by
            simp [keyTexts, pair]
          rw [texts, List.nodup_cons, List.forall_mem_cons]
          refine ⟨⟨fun listed => unseen _ listed List.mem_cons_self, distinct⟩, fresh, ?_⟩
          exact fun keyText listed inside => unseen keyText listed (List.mem_cons_of_mem _ inside)

theorem forall₂_keyTexts {key entryValue : BaseType} {items : List (List Char)}
    {values : List (Value × Value)}
    (read : List.Forall₂ (Value.IsEntry key entryValue) items values) :
    List.Forall₂ (fun keyText entry => trim keyText = keyText ∧
      Value.ofElement key keyText = .ok entry.1) (keyTexts items) values := by
  induction read with
  | nil => exact .nil
  | @cons entry item items values first rest ih =>
      obtain ⟨keyText, valueText, pair, keyRead, -⟩ := first
      have texts : keyTexts (entry :: items) = keyText :: keyTexts items := by
        simp [keyTexts, pair]
      have tight : trim keyText = keyText := by
        obtain ⟨⟨before, after⟩, -, same⟩ := Option.map_eq_some_iff.mp pair
        obtain ⟨rfl, -⟩ := Prod.mk.inj same
        exact trim_trim before
      rw [texts]
      exact .cons ⟨tight, keyRead⟩ ih

theorem exists_entries_of_isReadFrom {key entryValue : BaseType} {cs : List Char}
    {widths : List Nat} (read : Value.IsReadFrom (.map key entryValue) cs widths value) :
    ∃ values, value = .pairs values ∧
      List.Forall₂ (Value.IsEntry key entryValue) (splitEntries cs) values := by
  cases read with
  | map pieces => exact ⟨_, rfl, pieces⟩

/-- The normalized text of a cell without faults is read entry by entry, as the cell was
written. -/
theorem exists_entries_of_sound {key entryValue : BaseType} {text : String}
    (sound : (ofCell (.map key entryValue) text).faults = []) :
    ∃ values, Value.ofCell (.map key entryValue) (ofCell (.map key entryValue) text).normalized =
        .ok (.pairs values) ∧
      List.Forall₂ (Value.IsEntry key entryValue) (splitEntries text.toList) values := by
  have verdict := isOk_normalized (.map key entryValue) text
  rw [sound] at verdict
  cases read : Value.ofCell (.map key entryValue) (ofCell (.map key entryValue) text).normalized with
  | error fault =>
      rw [read] at verdict
      cases verdict
  | ok value =>
      obtain ⟨values, rfl, pieces⟩ := exists_entries_of_isReadFrom (isReadFrom_normalized read)
      refine ⟨values, rfl, ?_⟩
      have written : (ofCell (.map key entryValue) text).normalized.toList =
          List.intercalate [','] ((splitEntries text.toList).map entryText) :=
        toList_normalized_ofEntries true key entryValue text.toList
      rw [written, splitEntries_joined, List.forall₂_map_left_iff] at pieces
      refine pieces.imp fun entry item isEntry => ?_
      rwa [Value.IsEntry, splitPair?_entryText_eq] at isEntry

/-- A map cell without faults is stored with all of its entries. Its key texts are all
different, and its keys are different values exactly when no two of the texts are spellings
of one value; texts as keys always are. -/
theorem keys_distinct_iff {key entryValue : BaseType} {text : String}
    (sound : (ofCell (.map key entryValue) text).faults = []) :
    let keyTexts := keyTexts (splitEntries text.toList)
    ∃ values, Value.ofCell (.map key entryValue) (ofCell (.map key entryValue) text).normalized =
        .ok (.pairs values) ∧
      List.Forall₂ (fun keyText entry => Value.ofElement key keyText = .ok entry.1)
        keyTexts values ∧
      keyTexts.Nodup ∧
      (values.Pairwise (fun first second => ¬ first.1.IsSameKey second.1) ↔
        keyTexts.Pairwise fun first second => ¬ Respelled key first second) ∧
      (key = .string → values.Pairwise fun first second => ¬ first.1.IsSameKey second.1) := by
  obtain ⟨values, read, pieces⟩ := exists_entries_of_sound sound
  have keys := forall₂_keyTexts pieces
  have distinct := (nodup_keyTexts sound).1
  have spelled : (keyTexts (splitEntries text.toList)).Pairwise
        (fun first second => ¬ (first = second ∨ Respelled key first second)) ↔
      values.Pairwise fun first second => ¬ first.1.IsSameKey second.1 := by
    refine pairwise_iff_of_forall₂ keys ?_
    rintro first entry second entry' ⟨tight, keyRead⟩ ⟨tight', keyRead'⟩
    rw [Value.isSameKey_iff keyRead keyRead', tight, tight']
  have agree : values.Pairwise (fun first second => ¬ first.1.IsSameKey second.1) ↔
      (keyTexts (splitEntries text.toList)).Pairwise fun first second =>
        ¬ Respelled key first second := by
    simp only [← spelled, not_or, List.pairwise_and_iff]
    exact and_iff_right distinct
  refine ⟨values, read, keys.imp fun _ _ => And.right, distinct, agree, ?_⟩
  rintro rfl
  exact agree.mpr (List.Pairwise.imp (fun _ => not_respelled_string) distinct)

theorem keys_distinct_iff_signs :
    (ofCell (.map .int32 .string) "1=a; -1=b").faults = [] ∧
      ∃ values, Value.ofCell (.map .int32 .string)
          (ofCell (.map .int32 .string) "1=a; -1=b").normalized = .ok (.pairs values) ∧
        values.Pairwise fun first second => ¬ first.1.IsSameKey second.1 := by
  have sound : (ofCell (.map .int32 .string) "1=a; -1=b").faults = [] := by decide
  obtain ⟨values, read, -, -, agree, -⟩ := keys_distinct_iff sound
  refine ⟨sound, values, read, agree.mpr ?_⟩
  have texts : keyTexts (splitEntries "1=a; -1=b".toList) = [['1'], ['-', '1']] := by decide
  have apart : ¬ Respelled .int32 ['1'] ['-', '1'] := fun respelled =>
    absurd ((respelled_integer_iff (.inl rfl) (by simp) (by simp)).mp respelled) (by decide)
  rw [texts]
  exact List.pairwise_pair.mpr apart

/-- A zero in front makes another text of the same key. -/
theorem keys_not_distinct_padded :
    ¬ ∀ (key entryValue : BaseType) (text : String),
      (ofCell (.map key entryValue) text).faults = [] →
      ∃ values, Value.ofCell (.map key entryValue) (ofCell (.map key entryValue) text).normalized =
          .ok (.pairs values) ∧
        values.Pairwise fun first second => ¬ first.1.IsSameKey second.1 := by
  intro distinct
  obtain ⟨values, read, apart⟩ := distinct .int32 .string "1:a,01:b" (by decide)
  have stored : Value.ofCell (.map .int32 .string)
      (ofCell (.map .int32 .string) "1:a,01:b").normalized =
        .ok (.pairs [(.int 1, .text "a"), (.int 1, .text "b")]) := by rfl
  cases read.symm.trans stored
  exact List.rel_of_pairwise_cons apart List.mem_cons_self (.inl rfl)

end CellReport

end SheetCompiler
