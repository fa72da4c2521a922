import Mathlib.Data.Nat.Digits.Defs
import SheetCompiler.Record.Wire

/-!
# Readers and writers

A reader reads some bytes as a value when it takes exactly these bytes from the
front and leaves what follows. This is shown for numbers, texts and lists of
values, each of them below the greatest length that can be written.
-/

set_option autoImplicit false

namespace SheetCompiler.Wire

/-- A reader takes exactly these bytes for a value, whatever follows them. -/
def Reads {α : Type} (read : Reader α) (bytes : List UInt8) (value : α) : Prop :=
  ∀ rest, read (bytes ++ rest) = some (value, rest)

/-! ## Numbers -/

theorem length_littleEndian (width n : Nat) : (littleEndian width n).length = width := by
  induction width generalizing n with
  | zero => rfl
  | succ width ih => rw [littleEndian, List.length_cons, ih]

theorem toNat_ofNat_add (n : Nat) : (UInt8.ofNat n).toNat + 256 * (n / 256) = n := by
  rw [UInt8.toNat_ofNat']
  exact Nat.mod_add_div n 256

theorem div_lt_of_lt_pow_succ {width n : Nat} (fits : n < 256 ^ (width + 1)) :
    n / 256 < 256 ^ width := by
  rw [Nat.div_lt_iff_lt_mul (by decide), ← Nat.pow_succ]
  exact fits

theorem ofDigits_littleEndian (width : Nat) {n : Nat} (fits : n < 256 ^ width) :
    Nat.ofDigits 256 ((littleEndian width n).map UInt8.toNat) = n := by
  induction width generalizing n with
  | zero =>
      have zero : n = 0 := by simpa using fits
      rw [zero]
      rfl
  | succ width ih =>
      rw [littleEndian, List.map_cons, Nat.ofDigits_cons, ih (div_lt_of_lt_pow_succ fits)]
      exact toNat_ofNat_add n

theorem reads_littleEndian (width : Nat) {n : Nat} (fits : n < 256 ^ width) :
    Reads (readLittleEndian width) (littleEndian width n) n := by
  intro rest
  induction width generalizing n with
  | zero =>
      have zero : n = 0 := by simpa using fits
      rw [zero]
      rfl
  | succ width ih =>
      rw [littleEndian, List.cons_append, readLittleEndian, ih (div_lt_of_lt_pow_succ fits),
        Option.map_some]
      exact congrArg (fun read => some (read, rest)) (toNat_ofNat_add n)

/-- A number below 251 is one byte, for readers of every width. -/
theorem reads_small {width n : Nat} (small : n < 251) : Reads (readNat width) (writeNat n) n := by
  intro rest
  have byte : (UInt8.ofNat n).toNat = n := by
    rw [UInt8.toNat_ofNat']
    exact Nat.mod_eq_of_lt (by omega)
  have below : UInt8.ofNat n < 251 := by
    rw [UInt8.lt_iff_toNat_lt, byte]
    exact small
  rw [writeNat, if_pos small, List.singleton_append, readNat, if_pos below, byte]

theorem reads_writeNat {n : Nat} (fits : n < 2 ^ 64) : Reads (readNat 8) (writeNat n) n := by
  by_cases small : n < 251
  · exact reads_small small
  · intro rest
    rw [writeNat, if_neg small]
    by_cases two : n < 0x10000
    · rw [if_pos two]
      exact reads_littleEndian 2 two rest
    · rw [if_neg two]
      by_cases four : n < 0x100000000
      · rw [if_pos four]
        exact reads_littleEndian 4 four rest
      · rw [if_neg four]
        exact reads_littleEndian 8 (by omega) rest

theorem writeNat_ne_nil (n : Nat) : writeNat n ≠ [] := by
  unfold writeNat
  split_ifs <;> exact List.cons_ne_nil _ _

/-- The form of a number: itself below 251, else a marker for the least of two, four
or eight bytes that hold it, and then these bytes. -/
inductive NatForm (n : Nat) : List UInt8 → Prop where
  | one {byte : UInt8} : n < 251 → byte.toNat = n → NatForm n [byte]
  | two {digits : List UInt8} : 251 ≤ n → n < 2 ^ 16 → digits.length = 2 →
      Nat.ofDigits 256 (digits.map UInt8.toNat) = n → NatForm n (251 :: digits)
  | four {digits : List UInt8} : 2 ^ 16 ≤ n → n < 2 ^ 32 → digits.length = 4 →
      Nat.ofDigits 256 (digits.map UInt8.toNat) = n → NatForm n (252 :: digits)
  | eight {digits : List UInt8} : 2 ^ 32 ≤ n → digits.length = 8 →
      Nat.ofDigits 256 (digits.map UInt8.toNat) = n → NatForm n (253 :: digits)

theorem natForm_writeNat {n : Nat} (fits : n < 2 ^ 64) : NatForm n (writeNat n) := by
  unfold writeNat
  split_ifs with small two four
  · have byte : (UInt8.ofNat n).toNat = n := by
      rw [UInt8.toNat_ofNat']
      exact Nat.mod_eq_of_lt (by omega)
    exact .one small byte
  · exact .two (by omega) two (length_littleEndian 2 n) (ofDigits_littleEndian 2 two)
  · exact .four (by omega) four (length_littleEndian 4 n) (ofDigits_littleEndian 4 four)
  · exact .eight (by omega) (length_littleEndian 8 n) (ofDigits_littleEndian 8 (by omega))

theorem unZigZag_zigZag (n : Int) : unZigZag (zigZag n) = n := by
  cases n with
  | ofNat n =>
      have even : 2 * n % 2 = 0 := by omega
      have half : 2 * n / 2 = n := by omega
      rw [zigZag, unZigZag, if_pos even, half]
  | negSucc n =>
      have odd : ¬ (2 * n + 1) % 2 = 0 := by omega
      have half : (2 * n + 1) / 2 = n := by omega
      rw [zigZag, unZigZag, if_neg odd, half]

/-- Integers alternate: 0, -1, 1, -2, 2 and so on. -/
theorem zigZag_eq (n : Int) : (zigZag n : Int) = if 0 ≤ n then 2 * n else -2 * n - 1 := by
  cases n with
  | ofNat n => simp [zigZag]
  | negSucc n =>
      have negative : ¬ 0 ≤ Int.negSucc n := by omega
      rw [if_neg negative, zigZag]
      omega

theorem zigZag_toInt_lt (value : Int64) : zigZag value.toInt < 2 ^ 64 := by
  have form := zigZag_eq value.toInt
  have least := value.le_toInt
  have greatest := value.toInt_lt
  split_ifs at form <;> omega

/-! ## Texts and lists -/

def TextFits (text : String) : Prop := (Text.utf8 text).length < 2 ^ 64

theorem reads_writeText {text : String} (fits : TextFits text) :
    Reads readText (writeText text) text := by
  intro rest
  have enough : ¬ (Text.utf8 text ++ rest).length < (Text.utf8 text).length := by
    rw [List.length_append]
    omega
  rw [readText, writeText, List.append_assoc, reads_writeNat fits]
  simp only [Option.bind_eq_bind, Option.bind_some, if_neg enough, List.take_left, List.drop_left,
    Text.ofUtf8?_utf8]
  rfl

theorem reads_readMany {α : Type} {read : Reader α} {write : α → List UInt8} {items : List α}
    (each : ∀ item ∈ items, Reads read (write item) item) :
    Reads (readMany read items.length) (items.flatMap write) items := by
  intro rest
  induction items with
  | nil => rfl
  | cons item items ih =>
      have first := each item List.mem_cons_self
      have others := ih fun other member => each other (List.mem_cons_of_mem _ member)
      rw [List.flatMap_cons, List.append_assoc, List.length_cons, readMany, first]
      simp only [Option.bind_eq_bind, Option.bind_some, others]
      rfl

theorem reads_writeList {α : Type} {read : Reader α} {write : α → List UInt8} {items : List α}
    (fits : items.length < 2 ^ 64) (each : ∀ item ∈ items, Reads read (write item) item) :
    Reads (readList read) (writeList write items) items := by
  intro rest
  rw [readList, writeList, List.append_assoc, reads_writeNat fits]
  exact reads_readMany each rest

/-! ## Lengths -/

theorem length_le_flatMap {α : Type} (write : α → List UInt8) {items : List α} {item : α}
    (member : item ∈ items) : (write item).length ≤ (items.flatMap write).length :=
  (List.infix_of_mem_flatten (List.mem_map_of_mem member)).length_le

/-- A list has no more elements than bytes when each element takes a byte. -/
theorem length_le_length_flatMap {α : Type} {write : α → List UInt8} {items : List α}
    (nonEmpty : ∀ item ∈ items, write item ≠ []) : items.length ≤ (items.flatMap write).length := by
  induction items with
  | nil => exact Nat.le_refl 0
  | cons item items ih =>
      have first := List.length_pos_iff.mpr (nonEmpty item List.mem_cons_self)
      have others := ih fun other member => nonEmpty other (List.mem_cons_of_mem _ member)
      rw [List.flatMap_cons, List.length_append, List.length_cons]
      omega

theorem writeText_ne_nil (text : String) : writeText text ≠ [] :=
  List.append_ne_nil_of_left_ne_nil (writeNat_ne_nil _) _

theorem writeList_ne_nil {α : Type} (write : α → List UInt8) (items : List α) :
    writeList write items ≠ [] :=
  List.append_ne_nil_of_left_ne_nil (writeNat_ne_nil _) _

theorem textFits_of_length {text : String} (short : (writeText text).length < 2 ^ 64) :
    TextFits text := by
  rw [writeText, List.length_append] at short
  unfold TextFits
  omega

end SheetCompiler.Wire
