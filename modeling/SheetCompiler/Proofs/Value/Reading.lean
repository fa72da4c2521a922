import SheetCompiler.Value.Reading

/-!
# What elements are read as

Reading an element as a judgment with one rule for each kind of value, and the ranges that
its rules for integers rely on.
-/

set_option autoImplicit false

namespace SheetCompiler

namespace BaseType

theorem kind_cases (base : BaseType) :
    base = .string ∨ base = .bool ∨ base.isFloating = true ∨ base.isSigned = true ∨
      base.isUnsigned = true := by
  cases base <;> decide

theorem not_isFloating {base : BaseType}
    (integer : base.isSigned = true ∨ base.isUnsigned = true) : base.isFloating = false := by
  cases base <;> simp [isSigned, isUnsigned, isFloating] at integer ⊢

end BaseType

namespace Value

open Text

/-- The value of a text without blanks at its ends. -/
inductive IsElement : BaseType → List Char → Value → Prop where
  | blank {base : BaseType} : IsElement base [] .null
  | text {cs : List Char} : cs ≠ [] → IsElement .string cs (.text (String.ofList cs))
  | bool {cs : List Char} {value : Bool} :
      boolOfText? cs = some value → IsElement .bool cs (.bool value)
  | float {base : BaseType} {cs : List Char} {x : Binary64} :
      base.isFloating = true → Decimal.read? cs = some x → fitsPrecision base x = true →
      IsElement base cs (.float x)
  | int {base : BaseType} {cs : List Char} {n : Int} :
      base.isSigned = true → Integer.signed cs = .ok n →
      (signedRange base).1 ≤ n → n ≤ (signedRange base).2 →
      IsElement base cs (.int (Int64.ofInt n))
  | uint {base : BaseType} {cs : List Char} {n : Nat} :
      base.isUnsigned = true → Integer.unsigned cs = .ok n → n ≤ unsignedMax base →
      IsElement base cs (.uint (UInt64.ofNat n))

variable {base : BaseType} {cs : List Char} {value : Value}

theorem ofInteger_eq_ok_iff :
    ofInteger base cs = .ok value ↔
      ∃ n, Integer.signed cs = .ok n ∧ (signedRange base).1 ≤ n ∧ n ≤ (signedRange base).2 ∧
        .int (Int64.ofInt n) = value := by
  unfold ofInteger
  cases Integer.signed cs with
  | error fault => simp
  | ok n =>
      dsimp only
      split
      · rename_i range
        simp [range]
      · rename_i outside
        simp only [Except.ok.injEq, exists_eq_left']
        exact iff_of_false nofun fun read => outside ⟨read.1, read.2.1⟩

theorem ofNatural_eq_ok_iff :
    ofNatural base cs = .ok value ↔
      ∃ n, Integer.unsigned cs = .ok n ∧ n ≤ unsignedMax base ∧ .uint (UInt64.ofNat n) = value := by
  unfold ofNatural
  cases Integer.unsigned cs with
  | error fault => simp
  | ok n =>
      dsimp only
      split
      · rename_i range
        simp [range]
      · rename_i outside
        simp only [Except.ok.injEq, exists_eq_left']
        exact iff_of_false nofun fun read => outside read.1

theorem ofDecimal_eq_ok_iff :
    ofDecimal base cs = .ok value ↔
      ∃ x, Decimal.read? cs = some x ∧ fitsPrecision base x = true ∧ .float x = value := by
  unfold ofDecimal
  cases Decimal.read? cs with
  | none => simp
  | some x =>
      dsimp only
      split
      · rename_i fits
        simp [fits]
      · rename_i outside
        simp [outside]

/-! ## Elements by their base type -/

theorem ofElement_blank (blank : trim cs = []) : ofElement base cs = .ok .null := by
  unfold ofElement
  rw [blank]
  rfl

section Full

variable (full : trim cs ≠ [])

include full

theorem ofElement_floating (floating : base.isFloating = true) :
    ofElement base cs = ofDecimal base (trim cs) := by
  unfold ofElement
  dsimp only
  rw [if_neg (by simpa using full)]
  cases base <;> first | rfl | cases floating

theorem ofElement_signed (signed : base.isSigned = true) :
    ofElement base cs = ofInteger base (trim cs) := by
  unfold ofElement
  dsimp only
  rw [if_neg (by simpa using full)]
  cases base <;> first | rfl | cases signed

theorem ofElement_unsigned (unsigned : base.isUnsigned = true) :
    ofElement base cs = ofNatural base (trim cs) := by
  unfold ofElement
  dsimp only
  rw [if_neg (by simpa using full)]
  cases base <;> first | rfl | cases unsigned

theorem ofElement_string : ofElement .string cs = .ok (.text (String.ofList (trim cs))) := by
  unfold ofElement
  dsimp only
  rw [if_neg (by simpa using full)]

theorem ofElement_bool :
    ofElement .bool cs =
      (boolOfText? (trim cs)).elim (.error (.notBool (String.ofList (trim cs))))
        fun value => .ok (.bool value) := by
  unfold ofElement
  dsimp only
  rw [if_neg (by simpa using full)]
  cases boolOfText? (trim cs) <;> rfl

end Full

theorem isElement_of_ofElement (read : ofElement base cs = .ok value) :
    IsElement base (trim cs) value := by
  by_cases full : trim cs = []
  · rw [ofElement_blank full] at read
    cases read
    rw [full]
    exact .blank
  rcases base.kind_cases with rfl | rfl | floating | signed | unsigned
  · rw [ofElement_string full] at read
    cases read
    exact .text full
  · rw [ofElement_bool full] at read
    cases known : boolOfText? (trim cs) with
    | none =>
        rw [known] at read
        cases read
    | some word =>
        rw [known] at read
        cases read
        exact .bool known
  · rw [ofElement_floating full floating, ofDecimal_eq_ok_iff] at read
    obtain ⟨x, number, fits, rfl⟩ := read
    exact .float floating number fits
  · rw [ofElement_signed full signed, ofInteger_eq_ok_iff] at read
    obtain ⟨n, number, low, high, rfl⟩ := read
    exact .int signed number low high
  · rw [ofElement_unsigned full unsigned, ofNatural_eq_ok_iff] at read
    obtain ⟨n, number, high, rfl⟩ := read
    exact .uint unsigned number high

theorem ofElement_of_isElement (isElement : IsElement base (trim cs) value) :
    ofElement base cs = .ok value := by
  generalize piece : trim cs = element at isElement
  have full (visible : element ≠ []) : trim cs ≠ [] := piece ▸ visible
  cases isElement with
  | blank => exact ofElement_blank piece
  | text visible => rw [ofElement_string (full visible), piece]
  | bool known =>
      have visible : element ≠ [] := by
        rintro rfl
        cases known
      rw [ofElement_bool (full visible), piece, known, Option.elim_some]
  | float floating number fits =>
      have visible : element ≠ [] := by
        rintro rfl
        cases number
      rw [ofElement_floating (full visible) floating, piece]
      exact ofDecimal_eq_ok_iff.mpr ⟨_, number, fits, rfl⟩
  | int signed number low high =>
      have visible : element ≠ [] := by
        rintro rfl
        cases number
      rw [ofElement_signed (full visible) signed, piece]
      exact ofInteger_eq_ok_iff.mpr ⟨_, number, low, high, rfl⟩
  | uint unsigned number high =>
      have visible : element ≠ [] := by
        rintro rfl
        cases number
      rw [ofElement_unsigned (full visible) unsigned, piece]
      exact ofNatural_eq_ok_iff.mpr ⟨_, number, high, rfl⟩

/-- The rules of `IsElement` are what reading an element does. -/
theorem ofElement_eq_ok_iff :
    ofElement base cs = .ok value ↔ IsElement base (trim cs) value :=
  ⟨isElement_of_ofElement, ofElement_of_isElement⟩

/-! ## Ranges -/

theorem signedRange_fits (base : BaseType) :
    -0x8000000000000000 ≤ (signedRange base).1 ∧
      (signedRange base).2 < 0x8000000000000000 := by
  cases base <;> decide

theorem unsignedMax_fits (base : BaseType) : unsignedMax base < UInt64.size := by
  cases base <;> decide

theorem toInt_ofInt_of_range {n : Int} (low : (signedRange base).1 ≤ n)
    (high : n ≤ (signedRange base).2) : (Int64.ofInt n).toInt = n := by
  have fits := signedRange_fits base
  exact Int64.toInt_ofInt_of_le (by omega) (by omega)

theorem toNat_ofNat_of_range {n : Nat} (high : n ≤ unsignedMax base) :
    (UInt64.ofNat n).toNat = n :=
  UInt64.toNat_ofNat_of_lt' (Nat.lt_of_le_of_lt high (unsignedMax_fits base))

end Value

end SheetCompiler
