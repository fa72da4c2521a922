import Mathlib.Tactic.Common
import SheetCompiler.Text.Bytes

/-!
# UTF-8

The UTF-8 bytes of a text are those of its characters, one after the other. An ASCII
character is its own byte, and no other character has an ASCII byte among its own. So a
byte order mark in front of the bytes is one in front of the characters.
-/

set_option autoImplicit false

namespace SheetCompiler.Text

def utf8OfChars (cs : List Char) : List UInt8 := cs.flatMap String.utf8EncodeChar

@[simp] theorem utf8OfChars_nil : utf8OfChars [] = [] := rfl

@[simp] theorem utf8OfChars_cons (c : Char) (cs : List Char) :
    utf8OfChars (c :: cs) = String.utf8EncodeChar c ++ utf8OfChars cs := rfl

@[simp] theorem utf8OfChars_append (front back : List Char) :
    utf8OfChars (front ++ back) = utf8OfChars front ++ utf8OfChars back :=
  List.flatMap_append

theorem utf8OfChars_ne_nil {cs : List Char} (some : cs ≠ []) : utf8OfChars cs ≠ [] := by
  cases cs with
  | nil => contradiction
  | cons c cs => simp [String.utf8EncodeChar_ne_nil]

theorem utf8_ofList (cs : List Char) : utf8 (String.ofList cs) = utf8OfChars cs := by
  simp [utf8, String.toUTF8_eq_toByteArray, List.utf8Encode, utf8OfChars]

theorem utf8_eq (text : String) : utf8 text = utf8OfChars text.toList := by
  rw [← utf8_ofList, String.ofList_toList]

theorem utf8_of_ofUtf8? {bytes : List UInt8} {text : String}
    (valid : ofUtf8? bytes = some text) : utf8 text = bytes := by
  unfold ofUtf8? String.fromUTF8? at valid
  split at valid
  · simp only [Option.some.injEq] at valid
    simp [← valid, utf8, String.toUTF8_eq_toByteArray, String.fromUTF8]
  · cases valid

/-! ## Bytes of one character -/

variable {c : Char}

theorem utf8EncodeChar_of_lt (ascii : c.toNat < 0x80) :
    String.utf8EncodeChar c = [UInt8.ofNat c.toNat] := by
  simp only [String.utf8EncodeChar, Char.toNat_val, if_pos (Nat.le_of_lt_succ ascii)]

theorem le_of_mem_utf8EncodeChar (beyond : 0x80 ≤ c.toNat) {byte : UInt8}
    (member : byte ∈ String.utf8EncodeChar c) : 0x80 ≤ byte := by
  simp only [String.utf8EncodeChar, Char.toNat_val, if_neg (Nat.not_le.mpr beyond)] at member
  rw [UInt8.le_iff_toNat_le]
  split_ifs at member <;>
    simp only [List.mem_cons, List.not_mem_nil, or_false] at member <;>
    rcases member with rfl | rfl | rfl | rfl <;> simp <;> omega

theorem lt_of_mem_utf8EncodeChar {byte : UInt8} (member : byte ∈ String.utf8EncodeChar c) :
    byte < 0xFE := by
  simp only [String.utf8EncodeChar, Char.toNat_val] at member
  rw [UInt8.lt_iff_toNat_lt]
  split_ifs at member <;>
    simp only [List.mem_cons, List.not_mem_nil, or_false] at member <;>
    rcases member with rfl | rfl | rfl | rfl <;> simp <;> omega

theorem lt_of_mem_utf8OfChars (cs : List Char) {byte : UInt8} (member : byte ∈ utf8OfChars cs) :
    byte < 0xFE := by
  obtain ⟨c, -, inside⟩ := List.mem_flatMap.mp member
  exact lt_of_mem_utf8EncodeChar inside

/-- No character begins with the bytes of another one. -/
theorem utf8EncodeChar_append_inj {other : Char} {bytes rest : List UInt8}
    (same : String.utf8EncodeChar c ++ bytes = String.utf8EncodeChar other ++ rest) :
    c = other ∧ bytes = rest := by
  have decoded (c : Char) (bytes : List UInt8) :
      (String.utf8EncodeChar c ++ bytes).toByteArray.utf8DecodeChar? 0 = some c := by
    have first := @List.utf8DecodeChar?_utf8Encode_singleton_append bytes.toByteArray c
    rwa [List.utf8Encode, List.flatMap_singleton, ← List.toByteArray_append] at first
  have chars : some c = some other := by rw [← decoded c bytes, same, decoded other rest]
  obtain rfl := Option.some.inj chars
  exact ⟨rfl, List.append_cancel_left same⟩

/-! ## Byte order marks -/

theorem utf8OfChars_eq_mark {cs : List Char} {bytes : List UInt8}
    (marked : utf8OfChars cs = 0xEF :: 0xBB :: 0xBF :: bytes) :
    ∃ more, cs = '\uFEFF' :: more ∧ utf8OfChars more = bytes := by
  cases cs with
  | nil => cases marked
  | cons c more =>
      have same : String.utf8EncodeChar c ++ utf8OfChars more
          = String.utf8EncodeChar '\uFEFF' ++ bytes := marked
      obtain ⟨rfl, rest⟩ := utf8EncodeChar_append_inj same
      exact ⟨more, rfl, rest⟩

end SheetCompiler.Text
