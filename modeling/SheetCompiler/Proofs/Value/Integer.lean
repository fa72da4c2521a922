import Mathlib.Data.Nat.Digits.Defs
import SheetCompiler.Proofs.Number.Integer
import SheetCompiler.Proofs.Value.Typing

/-!
# Integers as elements

An element of an integer type is read in two steps: its digits into 64 bits, then the result
against the declared width. The two together read exactly the numerals of the integers that the
type includes.
-/

set_option autoImplicit false

namespace SheetCompiler

open Text

namespace BaseType

/-- The integers of a base type, in two's complement for a signed one. -/
inductive Includes (base : BaseType) (n : Int) : Prop where
  | signed {bits : Nat} :
      base.signedBits? = some bits → -(2 ^ (bits - 1)) ≤ n → n < 2 ^ (bits - 1) → base.Includes n
  | unsigned {bits : Nat} :
      base.unsignedBits? = some bits → 0 ≤ n → n < 2 ^ bits → base.Includes n

theorem isSigned_eq_false {base : BaseType} (unsigned : base.isUnsigned = true) :
    base.isSigned = false := by
  cases base <;> simp [isUnsigned, isSigned] at unsigned ⊢

theorem isSigned_of_signedBits {base : BaseType} {bits : Nat}
    (declared : base.signedBits? = some bits) : base.isSigned = true := by
  cases base <;> simp [signedBits?, isSigned] at declared ⊢

theorem isUnsigned_of_unsignedBits {base : BaseType} {bits : Nat}
    (declared : base.unsignedBits? = some bits) : base.isUnsigned = true := by
  cases base <;> simp [unsignedBits?, isUnsigned] at declared ⊢

end BaseType

variable {base : BaseType} {cs : List Char}

/-! ## Numerals -/

namespace Integer

open Decimal

/-- The number of a run of digits by their places, the ones last. -/
def placeValue (cs : List Char) : Nat :=
  Nat.ofDigits 10 (cs.reverse.map fun c => c.toNat - '0'.toNat)

/-- The ways to write an integer as an element. Zeros in front are digits like others. -/
inductive IsNumeral (base : BaseType) : List Char → Int → Prop where
  | bare {cs : List Char} : IsDigits cs → IsNumeral base cs (placeValue cs)
  | plus {cs : List Char} : IsDigits cs → IsNumeral base ('+' :: cs) (placeValue cs)
  | minus {cs : List Char} :
      base.isSigned = true → IsDigits cs → IsNumeral base ('-' :: cs) (-placeValue cs)

theorem placeValue_cons (c : Char) (cs : List Char) :
    placeValue (c :: cs) = 10 ^ cs.length * (c.toNat - '0'.toNat) + placeValue cs := by
  rw [placeValue, List.map_reverse, List.map_cons, Nat.ofDigits_reverse_cons, List.length_map,
    ← List.map_reverse, Nat.add_comm]
  rfl

/-- Reading from the left adds up the places. -/
theorem digitsValue_eq_placeValue (cs : List Char) : digitsValue cs = placeValue cs := by
  induction cs with
  | nil => rfl
  | cons c cs ih =>
      calc digitsValue (c :: cs)
          = Nat.ofDigitChars 10 cs (10 * 0 + (c.toNat - '0'.toNat)) := Nat.ofDigitChars_cons ..
        _ = 10 ^ cs.length * (10 * 0 + (c.toNat - '0'.toNat)) + digitsValue cs :=
            Nat.ofDigitChars_eq_ofDigitChars_zero ..
        _ = placeValue (c :: cs) := by rw [placeValue_cons, ih, Nat.mul_zero, Nat.zero_add]

theorem sign_cases (cs : List Char) :
    (∃ rest, cs = '-' :: rest) ∨ (∃ rest, cs = '+' :: rest) ∨ sign cs = (false, cs) := by
  unfold sign
  split
  · exact .inl ⟨_, rfl⟩
  · exact .inr (.inl ⟨_, rfl⟩)
  · exact .inr (.inr rfl)

theorem numeral_eq_placeValue (cs : List Char) :
    numeral cs =
      if (sign cs).1 then -(placeValue (sign cs).2 : Int) else placeValue (sign cs).2 := by
  rw [numeral, digitsValue_eq_placeValue]

theorem isNumeral_iff {n : Int} :
    IsNumeral base cs n ↔
      IsDigits (sign cs).2 ∧ numeral cs = n ∧ ((sign cs).1 = true → base.isSigned = true) := by
  rw [numeral_eq_placeValue]
  constructor
  · intro written
    cases written with
    | bare isDigits =>
        rw [isDigits.sign_eq]
        exact ⟨isDigits, rfl, fun minus => absurd minus Bool.false_ne_true⟩
    | plus isDigits => exact ⟨isDigits, rfl, fun minus => absurd minus Bool.false_ne_true⟩
    | minus signed isDigits => exact ⟨isDigits, rfl, fun _ => signed⟩
  · rintro ⟨isDigits, rfl, minus⟩
    rcases sign_cases cs with ⟨rest, rfl⟩ | ⟨rest, rfl⟩ | plain
    · exact .minus (minus rfl) isDigits
    · exact .plus isDigits
    · rw [plain] at isDigits ⊢
      exact .bare isDigits

end Integer

/-! ## Widths -/

namespace Value

open Integer BaseType

theorem includes_iff_of_signed (signed : base.isSigned = true) {n : Int} :
    base.Includes n ↔ (signedRange base).1 ≤ n ∧ n ≤ (signedRange base).2 := by
  obtain ⟨bits, declared, least, greatest⟩ := exists_signedBits signed
  constructor
  · intro included
    cases included with
    | signed same low high =>
        cases declared.symm.trans same
        omega
    | unsigned other _ _ =>
        have unsigned := isUnsigned_of_unsignedBits other
        cases (isSigned_eq_false unsigned).symm.trans signed
  · rintro ⟨low, high⟩
    exact .signed declared (by omega) (by omega)

theorem includes_iff_of_unsigned (unsigned : base.isUnsigned = true) {n : Int} :
    base.Includes n ↔ 0 ≤ n ∧ n ≤ unsignedMax base := by
  obtain ⟨bits, declared, greatest⟩ := exists_unsignedBits unsigned
  have bound : (unsignedMax base : Int) + 1 = 2 ^ bits := by exact_mod_cast greatest
  constructor
  · intro included
    cases included with
    | signed other _ _ =>
        have signed := isSigned_of_signedBits other
        cases (isSigned_eq_false unsigned).symm.trans signed
    | unsigned same low high =>
        cases declared.symm.trans same
        omega
  · rintro ⟨low, high⟩
    exact .unsigned declared low (by omega)

/-! ## Elements -/

/-- The bound of 64 bits refuses no integer of a signed type. -/
theorem signed_in_range_iff (signed : base.isSigned = true) {n : Int} :
    (Integer.signed cs = .ok n ∧ (signedRange base).1 ≤ n ∧ n ≤ (signedRange base).2) ↔
      IsNumeral base cs n ∧ base.Includes n := by
  have fits := signedRange_fits base
  rw [signed_eq_ok_iff, isNumeral_iff, includes_iff_of_signed signed, maxSigned]
  constructor
  · rintro ⟨⟨isDigits, value, -⟩, range⟩
    exact ⟨⟨isDigits, value, fun _ => signed⟩, range⟩
  · rintro ⟨⟨isDigits, value, -⟩, range⟩
    exact ⟨⟨isDigits, value, by omega⟩, range⟩

/-- The bound of 64 bits refuses no integer of an unsigned type. -/
theorem unsigned_in_range_iff (unsigned : base.isUnsigned = true) {n : Nat} :
    (Integer.unsigned cs = .ok n ∧ n ≤ unsignedMax base) ↔
      IsNumeral base cs n ∧ base.Includes n := by
  have fits : unsignedMax base < maxUnsigned + 1 := unsignedMax_fits base
  -- A minus sign is refused before its digits are read, also in front of zero.
  have refused : ((Decimal.sign cs).1 = true → base.isSigned = true) ↔
      (Decimal.sign cs).1 = false := by
    rw [isSigned_eq_false unsigned, Bool.eq_false_iff]
    exact imp_congr_right fun _ => iff_of_false nofun id
  rw [unsigned_eq_ok_iff, isNumeral_iff, includes_iff_of_unsigned unsigned, refused]
  constructor
  · rintro ⟨⟨plain, isDigits, value, -⟩, range⟩
    exact ⟨⟨isDigits, value, plain⟩, by omega, by omega⟩
  · rintro ⟨⟨isDigits, value, plain⟩, -, range⟩
    exact ⟨⟨plain, isDigits, value, by omega⟩, by omega⟩

theorem isElement_int_iff {n : Int64} :
    IsElement base cs (.int n) ↔
      base.isSigned = true ∧ IsNumeral base cs n.toInt ∧ base.Includes n.toInt := by
  constructor
  · intro isElement
    cases isElement with
    | int signed number low high =>
        rw [toInt_ofInt_of_range low high]
        exact ⟨signed, (signed_in_range_iff signed).mp ⟨number, low, high⟩⟩
  · rintro ⟨signed, numeral⟩
    obtain ⟨number, low, high⟩ := (signed_in_range_iff signed).mpr numeral
    have isElement := IsElement.int signed number low high
    rwa [Int64.ofInt_toInt] at isElement

theorem isElement_uint_iff {n : UInt64} :
    IsElement base cs (.uint n) ↔
      base.isUnsigned = true ∧ IsNumeral base cs n.toNat ∧ base.Includes n.toNat := by
  constructor
  · intro isElement
    cases isElement with
    | uint unsigned number high =>
        rw [toNat_ofNat_of_range high]
        exact ⟨unsigned, (unsigned_in_range_iff unsigned).mp ⟨number, high⟩⟩
  · rintro ⟨unsigned, numeral⟩
    obtain ⟨number, high⟩ := (unsigned_in_range_iff unsigned).mpr numeral
    have isElement := IsElement.uint unsigned number high
    rwa [UInt64.ofNat_toNat] at isElement

theorem isElement_null_iff : IsElement base cs .null ↔ cs = [] := by
  constructor
  · intro isElement
    cases isElement
    rfl
  · rintro rfl
    exact .blank

/-- Every numeral of an included integer has a value. -/
theorem exists_isElement_iff (integer : base.isSigned = true ∨ base.isUnsigned = true) :
    (∃ value, IsElement base cs value) ↔
      cs = [] ∨ ∃ n, IsNumeral base cs n ∧ base.Includes n := by
  constructor
  · rintro ⟨value, isElement⟩
    cases isElement with
    | blank => exact .inl rfl
    | text _ | bool _ => simp [isSigned, isUnsigned] at integer
    | float floating _ _ => cases (not_isFloating integer).symm.trans floating
    | int signed number low high =>
        exact .inr ⟨_, (signed_in_range_iff signed).mp ⟨number, low, high⟩⟩
    | uint unsigned number high =>
        exact .inr ⟨_, (unsigned_in_range_iff unsigned).mp ⟨number, high⟩⟩
  · rintro (rfl | ⟨n, written, included⟩)
    · exact ⟨_, .blank⟩
    · rcases integer with signed | unsigned
      · obtain ⟨number, low, high⟩ := (signed_in_range_iff signed).mpr ⟨written, included⟩
        exact ⟨_, .int signed number low high⟩
      · have positive := ((includes_iff_of_unsigned unsigned).mp included).1
        obtain ⟨m, rfl⟩ := Int.eq_ofNat_of_zero_le positive
        obtain ⟨number, high⟩ := (unsigned_in_range_iff unsigned).mpr ⟨written, included⟩
        exact ⟨_, .uint unsigned number high⟩

/-- The value of an element of an integer type is the integer its text is a numeral for, with
nothing wrapped or cut off: blank text is null, and any other text is refused. -/
theorem ofElement_integer_iff (integer : base.isSigned = true ∨ base.isUnsigned = true) :
    (∀ n : Int64, ofElement base cs = .ok (.int n) ↔
      base.isSigned = true ∧ IsNumeral base (trim cs) n.toInt ∧ base.Includes n.toInt) ∧
    (∀ n : UInt64, ofElement base cs = .ok (.uint n) ↔
      base.isUnsigned = true ∧ IsNumeral base (trim cs) n.toNat ∧ base.Includes n.toNat) ∧
    (ofElement base cs = .ok .null ↔ cs.all isBlank = true) ∧
    ((∃ error, ofElement base cs = .error error) ↔
      cs.all isBlank = false ∧ ∀ n, IsNumeral base (trim cs) n → ¬ base.Includes n) := by
  refine ⟨fun n => ?_, fun n => ?_, ?_, ?_⟩
  · rw [ofElement_eq_ok_iff, isElement_int_iff]
  · rw [ofElement_eq_ok_iff, isElement_uint_iff]
  · rw [ofElement_eq_ok_iff, isElement_null_iff, trim_eq_nil_iff]
  · have refused : (∃ error, ofElement base cs = .error error) ↔
        ¬ ∃ value, IsElement base (trim cs) value := by
      simp only [← ofElement_eq_ok_iff]
      cases ofElement base cs <;> simp
    rw [refused, exists_isElement_iff integer, trim_eq_nil_iff, not_or, Bool.not_eq_true]
    simp only [not_exists, not_and]

/-- The least integer of 64 bits behind zeros, and one more than the greatest. -/
theorem ofElement_integer_iff_extremes :
    (BaseType.int64.isSigned = true ∨ BaseType.int64.isUnsigned = true) ∧
      ofElement .int64 " -0000000000009223372036854775808".toList = .ok (.int Int64.minValue) ∧
      ∃ error, ofElement .int64 "+9223372036854775808 ".toList = .error error := by
  have integer : BaseType.int64.isSigned = true ∨ BaseType.int64.isUnsigned = true := .inl rfl
  refine ⟨integer, ?_, ?_⟩
  · have isDigits : IsDigits "0000000000009223372036854775808".toList :=
      ⟨by decide, List.all_eq_true.mp rfl⟩
    exact ((ofElement_integer_iff integer).1 Int64.minValue).mpr
      ⟨rfl, .minus rfl isDigits, .signed rfl (by decide) (by decide)⟩
  · refine (ofElement_integer_iff integer).2.2.2.mpr ⟨by decide, fun n written included => ?_⟩
    obtain ⟨-, rfl, -⟩ := isNumeral_iff.mp written
    exact absurd ((includes_iff_of_signed rfl).mp included) (by decide)

end Value

end SheetCompiler
