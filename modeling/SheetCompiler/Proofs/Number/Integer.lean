import SheetCompiler.Number.Decimal
import SheetCompiler.Value

/-!
# Integer numerals

Which texts are numerals and which integers they stand for. A numeral without a plus sign,
without zeros in front and without the sign of zero is the text its integer is displayed as,
so two numerals stand for one integer exactly when they are alike up to these.
-/

set_option autoImplicit false

namespace SheetCompiler.Integer

open Decimal

/-! ## Runs of digits -/

structure IsDigits (cs : List Char) : Prop where
  filled : cs ≠ []
  digit : ∀ c ∈ cs, c.isDigit = true

variable {bound acc n : Nat} {overflow : Fault} {cs ds : List Char} {c : Char}

theorem isDigit_of_mem_toDigits (listed : c ∈ Nat.toDigits 10 n) : c.isDigit = true :=
  Nat.isDigit_of_mem_toDigits (by decide) (by decide) listed

theorem digitsValue_toDigits (n : Nat) : digitsValue (Nat.toDigits 10 n) = n :=
  Nat.ofDigitChars_ten_toDigits

/-- Further digits do not make a number smaller. -/
theorem le_ofDigitChars (acc : Nat) (cs : List Char) : acc ≤ Nat.ofDigitChars 10 cs acc := by
  rw [Nat.ofDigitChars_eq_ofDigitChars_zero]
  have power : 0 < 10 ^ cs.length := Nat.pow_pos (by decide)
  exact Nat.le_add_right_of_le (Nat.le_mul_of_pos_left acc power)

theorem magnitude_eq_ok_iff (small : acc ≤ bound) :
    magnitude bound overflow acc cs = .ok n ↔
      (∀ c ∈ cs, c.isDigit = true) ∧ Nat.ofDigitChars 10 cs acc = n ∧ n ≤ bound := by
  induction cs generalizing acc with
  | nil =>
      simp only [magnitude, Nat.ofDigitChars_nil, Except.ok.injEq]
      constructor
      · rintro rfl
        exact ⟨nofun, rfl, small⟩
      · exact fun read => read.2.1
  | cons c cs ih =>
      rw [magnitude, Nat.ofDigitChars_cons, List.forall_mem_cons]
      by_cases digit : c.isDigit = true
      · simp only [digit?, digit, if_true]
        split
        · rename_i exceeds
          have grown := le_ofDigitChars (10 * acc + (c.toNat - '0'.toNat)) cs
          refine iff_of_false nofun fun read => ?_
          omega
        · rw [ih (by omega)]
          simp
      · simp [digit?, digit]

theorem digits_eq_ok_iff :
    digits bound overflow cs = .ok n ↔ IsDigits cs ∧ digitsValue cs = n ∧ n ≤ bound := by
  cases cs with
  | nil => exact iff_of_false (by simp [digits]) fun read => read.1.filled rfl
  | cons c cs =>
      rw [digits, magnitude_eq_ok_iff (Nat.zero_le bound)]
      exact and_congr_left' ⟨fun digit => ⟨List.cons_ne_nil c cs, digit⟩, IsDigits.digit⟩

/-! ## Displayed digits -/

theorem digit_lt_ten (digit : c.isDigit = true) : c.toNat - '0'.toNat < 10 := by
  have range : 48 ≤ c.toNat ∧ c.toNat ≤ 57 := Char.isDigit_iff_toNat.mp digit
  change c.toNat - 48 < 10
  omega

theorem digitChar_of_isDigit (digit : c.isDigit = true) :
    (c.toNat - '0'.toNat).digitChar = c := by
  have range : 48 ≤ c.toNat ∧ c.toNat ≤ 57 := Char.isDigit_iff_toNat.mp digit
  refine Char.toNat_inj.mp ?_
  rw [Nat.toNat_digitChar_of_lt_ten (digit_lt_ten digit)]
  change 48 + (c.toNat - 48) = c.toNat
  omega

theorem toDigits_ofDigitChars (positive : 0 < acc) (digit : ∀ c ∈ cs, c.isDigit = true) :
    Nat.toDigits 10 (Nat.ofDigitChars 10 cs acc) = Nat.toDigits 10 acc ++ cs := by
  induction cs generalizing acc with
  | nil => simp
  | cons c cs ih =>
      obtain ⟨first, others⟩ := List.forall_mem_cons.mp digit
      have small := digit_lt_ten first
      rw [Nat.ofDigitChars_cons, ih (by omega) others,
        ← Nat.toDigits_append_toDigits (by decide) positive small,
        Nat.toDigits_of_lt_base small, digitChar_of_isDigit first, List.append_assoc,
        List.singleton_append]

/-- A run of digits without zeros in front; a run of zeros is left with one. -/
def unpadded (cs : List Char) : List Char :=
  match cs.dropWhile (· == '0') with
  | [] => ['0']
  | c :: cs => c :: cs

theorem toDigits_digitsValue (digit : ∀ c ∈ cs, c.isDigit = true) :
    Nat.toDigits 10 (digitsValue cs) = unpadded cs := by
  induction cs with
  | nil => rfl
  | cons c cs ih =>
      obtain ⟨first, others⟩ := List.forall_mem_cons.mp digit
      by_cases zero : c = '0'
      · subst zero
        exact ih others
      · have positive : 0 < c.toNat - '0'.toNat := by
          refine Nat.pos_of_ne_zero fun none => zero ?_
          rw [← digitChar_of_isDigit first, none]
          rfl
        have value : digitsValue (c :: cs) = Nat.ofDigitChars 10 cs (c.toNat - '0'.toNat) := by
          rw [digitsValue, List.foldl_cons, Nat.mul_zero, Nat.zero_add]
          rfl
        rw [value, toDigits_ofDigitChars positive others,
          Nat.toDigits_of_lt_base (digit_lt_ten first), digitChar_of_isDigit first]
        simp [unpadded, zero]

/-! ## Signs -/

/-- The integer of a numeral: the one of its digits, with its sign. -/
def numeral (cs : List Char) : Int :=
  if (sign cs).1 then -(digitsValue (sign cs).2 : Int) else digitsValue (sign cs).2

theorem map_digits_eq_ok_iff {change : Nat → Int} {n : Int} :
    (digits bound overflow cs).map change = .ok n ↔
      IsDigits cs ∧ change (digitsValue cs) = n ∧ digitsValue cs ≤ bound := by
  constructor
  · intro read
    cases result : digits bound overflow cs with
    | error fault =>
        rw [result] at read
        cases read
    | ok m =>
        rw [result] at read
        obtain ⟨isDigits, rfl, small⟩ := digits_eq_ok_iff.mp result
        exact ⟨isDigits, Except.ok.inj read, small⟩
  · rintro ⟨isDigits, rfl, small⟩
    rw [digits_eq_ok_iff.mpr ⟨isDigits, rfl, small⟩]
    rfl

theorem signed_minus (cs : List Char) :
    signed ('-' :: cs) =
      (digits (maxSigned + 1) .tooSmall cs).map fun magnitude : Nat => -(magnitude : Int) := by
  rw [signed]
  cases digits (maxSigned + 1) .tooSmall cs <;> rfl

theorem sign_of_plain (plain : ∀ rest, cs ≠ '-' :: rest ∧ cs ≠ '+' :: rest) :
    sign cs = (false, cs) := by
  unfold sign
  split
  · exact absurd rfl (plain _).1
  · exact absurd rfl (plain _).2
  · rfl

/-- Digits have no sign in front. -/
theorem IsDigits.sign_eq (isDigits : IsDigits cs) : sign cs = (false, cs) := by
  refine sign_of_plain fun rest => ⟨?_, ?_⟩
  · rintro rfl
    exact absurd (isDigits.digit '-' List.mem_cons_self) (by decide)
  · rintro rfl
    exact absurd (isDigits.digit '+' List.mem_cons_self) (by decide)

theorem signed_eq_ok_iff {n : Int} :
    signed cs = .ok n ↔
      IsDigits (sign cs).2 ∧ numeral cs = n ∧ -(maxSigned + 1 : Int) ≤ n ∧ n ≤ maxSigned := by
  unfold signed
  split
  · exact iff_of_false nofun fun read => read.1.filled rfl
  · rename_i cs
    rw [← signed, signed_minus, map_digits_eq_ok_iff]
    refine and_congr_right' (and_congr_right fun same => ?_)
    omega
  · rename_i cs
    rw [map_digits_eq_ok_iff]
    refine and_congr_right' (and_congr_right fun same => ?_)
    have value : (digitsValue cs : Int) = n := same
    omega
  · rename_i filled minus plus
    rw [map_digits_eq_ok_iff, numeral, sign_of_plain fun rest => ⟨minus rest, plus rest⟩]
    refine and_congr_right' (and_congr_right fun same => ?_)
    have value : (digitsValue cs : Int) = n := same
    omega

theorem unsigned_eq_ok_iff :
    unsigned cs = .ok n ↔
      (sign cs).1 = false ∧ IsDigits (sign cs).2 ∧ numeral cs = n ∧ n ≤ maxUnsigned := by
  unfold unsigned
  split
  · exact iff_of_false nofun fun read => read.2.1.filled rfl
  · rename_i cs
    rw [digits_eq_ok_iff, ← Int.natCast_inj]
    exact (and_iff_right rfl).symm
  · rename_i filled plus
    rw [digits_eq_ok_iff, ← Int.natCast_inj]
    by_cases minus : ∃ rest, cs = '-' :: rest
    · obtain ⟨rest, rfl⟩ := minus
      refine iff_of_false (fun read => ?_) nofun
      exact absurd (read.1.digit '-' List.mem_cons_self) (by decide)
    · rw [numeral, sign_of_plain fun rest => ⟨fun same => minus ⟨rest, same⟩, plus rest⟩]
      exact (and_iff_right rfl).symm

/-! ## Numerals as they are displayed -/

/-- A numeral without a plus sign, without zeros in front and without the sign of zero. -/
def reduced (cs : List Char) : List Char :=
  let digits := unpadded (sign cs).2
  if (sign cs).1 && digits != ['0'] then '-' :: digits else digits

theorem toList_displayInt_ofNat (n : Nat) :
    (Value.displayInt (.ofNat n)).toList = Nat.toDigits 10 n := String.toList_ofList

theorem toList_displayInt_negSucc (n : Nat) :
    (Value.displayInt (.negSucc n)).toList = '-' :: Nat.toDigits 10 (n + 1) := by
  simp [Value.displayInt, String.toList_append]

theorem isDigits_toDigits (n : Nat) : IsDigits (Nat.toDigits 10 n) where
  filled := Nat.toDigits_ne_nil
  digit _ := isDigit_of_mem_toDigits

theorem sign_toDigits (n : Nat) : sign (Nat.toDigits 10 n) = (false, Nat.toDigits 10 n) :=
  (isDigits_toDigits n).sign_eq

theorem numeral_displayInt (n : Int) : numeral (Value.displayInt n).toList = n := by
  cases n with
  | ofNat n =>
      rw [toList_displayInt_ofNat, numeral, sign_toDigits]
      exact congrArg Int.ofNat (digitsValue_toDigits n)
  | negSucc n =>
      rw [toList_displayInt_negSucc]
      exact congrArg (fun magnitude : Nat => -(magnitude : Int)) (digitsValue_toDigits (n + 1))

theorem toDigits_eq_zero_iff : Nat.toDigits 10 n = ['0'] ↔ n = 0 := by
  constructor
  · intro same
    rw [← digitsValue_toDigits n, same]
    rfl
  · rintro rfl
    rfl

theorem toList_displayInt_numeral (isDigits : IsDigits (sign cs).2) :
    (Value.displayInt (numeral cs)).toList = reduced cs := by
  rw [numeral, reduced, ← toDigits_digitsValue isDigits.digit]
  generalize digitsValue (sign cs).2 = n
  cases (sign cs).1 with
  | false => exact toList_displayInt_ofNat n
  | true =>
      cases n with
      | zero => rfl
      | succ n =>
          have apart : Nat.toDigits 10 (n + 1) ≠ ['0'] := by simp [toDigits_eq_zero_iff]
          exact (toList_displayInt_negSucc n).trans (by simp [apart])

/-- Two numerals stand for one integer when they are alike once reduced. -/
theorem numeral_eq_iff (first : IsDigits (sign cs).2) (second : IsDigits (sign ds).2) :
    numeral cs = numeral ds ↔ reduced cs = reduced ds := by
  rw [← toList_displayInt_numeral first, ← toList_displayInt_numeral second]
  refine ⟨fun same => by rw [same], fun same => ?_⟩
  rw [← numeral_displayInt (numeral cs), same, numeral_displayInt]

theorem signed_eq_iff {n m : Int} (read : signed cs = .ok n) (readOther : signed ds = .ok m) :
    n = m ↔ reduced cs = reduced ds := by
  obtain ⟨isDigits, rfl, -⟩ := signed_eq_ok_iff.mp read
  obtain ⟨isDigitsOther, rfl, -⟩ := signed_eq_ok_iff.mp readOther
  exact numeral_eq_iff isDigits isDigitsOther

theorem unsigned_eq_iff {n m : Nat} (read : unsigned cs = .ok n)
    (readOther : unsigned ds = .ok m) : n = m ↔ reduced cs = reduced ds := by
  obtain ⟨-, isDigits, value, -⟩ := unsigned_eq_ok_iff.mp read
  obtain ⟨-, isDigitsOther, valueOther, -⟩ := unsigned_eq_ok_iff.mp readOther
  rw [← numeral_eq_iff isDigits isDigitsOther, value, valueOther, Int.natCast_inj]

end SheetCompiler.Integer
