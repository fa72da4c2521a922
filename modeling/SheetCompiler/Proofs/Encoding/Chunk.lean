import SheetCompiler.Encoding
import SheetCompiler.Proofs.Delimited.Reader
import SheetCompiler.Proofs.Text.Utf8

/-!
# Chunks of encoded text

In most encodings a text is a sequence of chunks that are decoded one by one: ASCII
characters, and characters of other sets whose bytes hold no separator. Such a text has
the same records and fields as its UTF-8 bytes.
-/

set_option autoImplicit false

namespace SheetCompiler.Encoding

open Delimited (isSeparator)
open Text (utf8OfChars)

theorem isSeparator_of_le {byte : UInt8} (beyond : 0x2D ≤ byte) : isSeparator byte = false := by
  have apart (small : UInt8) (below : small < 0x2D) : (byte == small) = false := by
    rw [beq_eq_false_iff_ne]
    rintro rfl
    exact absurd below (UInt8.not_lt.mpr beyond)
  simp only [isSeparator, Delimited.isLineBreak, Delimited.quoteByte]
  simp [apart]

theorem toNat_asciiChar (byte : UInt8) : (asciiChar byte).toNat = byte.toNat := by
  have small := byte.toNat_lt
  have valid : byte.toNat.isValidChar := Or.inl (by omega)
  rw [asciiChar, Char.ofNat, dif_pos valid]
  rfl

variable {decode? : List UInt8 → Option (List Char)}

/-- Bytes that stand for the same characters in front of any text. -/
def StandsFor (decode? : List UInt8 → Option (List Char)) (bytes : List UInt8)
    (cs : List Char) : Prop :=
  ∀ rest more, decode? rest = some more → decode? (bytes ++ rest) = some (cs ++ more)

inductive Chunk (decode? : List UInt8 → Option (List Char)) : List UInt8 → List Char → Prop where
  | ascii (byte : UInt8) : isAscii byte = true → StandsFor decode? [byte] [asciiChar byte] →
      Chunk decode? [byte] [asciiChar byte]
  | foreign {bytes : List UInt8} {cs : List Char} :
      bytes ≠ [] → (∀ byte ∈ bytes, isSeparator byte = false) →
      cs ≠ [] → (∀ c ∈ cs, 0x80 ≤ c.toNat) → StandsFor decode? bytes cs → Chunk decode? bytes cs

theorem Chunk.ne_nil {bytes : List UInt8} {cs : List Char} (chunk : Chunk decode? bytes cs) :
    bytes ≠ [] := by
  cases chunk with
  | ascii => simp
  | foreign some => exact some

theorem Chunk.standsFor {bytes : List UInt8} {cs : List Char} (chunk : Chunk decode? bytes cs) :
    StandsFor decode? bytes cs := by
  cases chunk with
  | ascii _ _ stands => exact stands
  | foreign _ _ _ _ stands => exact stands

/-- Bytes that spell characters chunk by chunk. -/
inductive Spells (decode? : List UInt8 → Option (List Char)) : List UInt8 → List Char → Prop where
  | nil : Spells decode? [] []
  | cons {bytes rest : List UInt8} {cs more : List Char} : Chunk decode? bytes cs →
      Spells decode? rest more → Spells decode? (bytes ++ rest) (cs ++ more)

namespace Spells

variable {bytes rest : List UInt8} {cs more : List Char}

theorem append (front : Spells decode? bytes cs) (back : Spells decode? rest more) :
    Spells decode? (bytes ++ rest) (cs ++ more) := by
  induction front with
  | nil => exact back
  | cons chunk _ ih => simpa only [List.append_assoc] using cons chunk ih

theorem ofChunk (chunk : Chunk decode? bytes cs) : Spells decode? bytes cs := by
  simpa only [List.append_nil] using cons chunk nil

theorem decode?_eq (empty : decode? [] = some []) (spelled : Spells decode? bytes cs) :
    decode? bytes = some cs := by
  induction spelled with
  | nil => exact empty
  | cons chunk _ ih => exact chunk.standsFor _ _ ih

end Spells

/-! ## Records -/

/-- A field and the UTF-8 bytes of the characters that it spells. -/
def IsWritten (decode? : List UInt8 → Option (List Char)) (field bytes : List UInt8) : Prop :=
  ∃ cs, Spells decode? field cs ∧ bytes = utf8OfChars cs

theorem IsWritten.append {front back bytes : List UInt8} {cs : List Char}
    (written : IsWritten decode? front back) (spelled : Spells decode? bytes cs) :
    IsWritten decode? (front ++ bytes) (back ++ utf8OfChars cs) := by
  obtain ⟨before, spelledBefore, rfl⟩ := written
  exact ⟨before ++ cs, spelledBefore.append spelled, (Text.utf8OfChars_append before cs).symm⟩

theorem isSeparator_of_mem_utf8OfChars {cs : List Char} (foreign : ∀ c ∈ cs, 0x80 ≤ c.toNat) :
    ∀ byte ∈ utf8OfChars cs, isSeparator byte = false := by
  intro byte member
  obtain ⟨c, listed, inside⟩ := List.mem_flatMap.mp member
  have beyond := Text.le_of_mem_utf8EncodeChar (foreign c listed) inside
  exact isSeparator_of_le (UInt8.le_trans (by decide) beyond)

theorem utf8OfChars_asciiChar {byte : UInt8} (ascii : isAscii byte = true) :
    utf8OfChars [asciiChar byte] = [byte] := by
  have small : (asciiChar byte).toNat < 0x80 := by
    rw [toNat_asciiChar]
    exact UInt8.lt_iff_toNat_lt.mp (of_decide_eq_true ascii)
  simp [Text.utf8EncodeChar_of_lt small, toNat_asciiChar]

section

open Delimited Delimited.Cursor

variable {delimiter : UInt8} {cursor other : Cursor} {bytes : List UInt8} {cs : List Char}

theorem alike_of_chunk (separates : isSeparator delimiter = true)
    (chunk : Chunk decode? bytes cs) (sides : Alike (IsWritten decode?) cursor other) :
    Alike (IsWritten decode?) (bytes.foldl (Cursor.read delimiter) cursor)
      ((utf8OfChars cs).foldl (Cursor.read delimiter) other) := by
  have grows (front back : List UInt8) (written : IsWritten decode? front back) :
      IsWritten decode? (front ++ bytes) (back ++ utf8OfChars cs) :=
    written.append (.ofChunk chunk)
  cases chunk with
  | ascii byte ascii =>
      rw [utf8OfChars_asciiChar ascii] at grows ⊢
      exact sides.read ⟨[], .nil, rfl⟩ grows
  | foreign some text someChars foreign =>
      exact sides.foldl_read separates some text (Text.utf8OfChars_ne_nil someChars)
        (isSeparator_of_mem_utf8OfChars foreign) grows

theorem Spells.alike (separates : isSeparator delimiter = true)
    (spelled : Spells decode? bytes cs) (sides : Alike (IsWritten decode?) cursor other) :
    Alike (IsWritten decode?) (bytes.foldl (Cursor.read delimiter) cursor)
      ((utf8OfChars cs).foldl (Cursor.read delimiter) other) := by
  induction spelled generalizing cursor other with
  | nil => exact sides
  | cons chunk _ ih =>
      rw [Text.utf8OfChars_append, List.foldl_append, List.foldl_append]
      exact ih (alike_of_chunk separates chunk sides)

/-- The fields of an encoded text are those of its UTF-8 bytes. -/
theorem Spells.forall₂_finish (separates : isSeparator delimiter = true)
    (spelled : Spells decode? bytes cs) :
    List.Forall₂ (List.Forall₂ (IsWritten decode?))
      (bytes.foldl (Cursor.read delimiter) .start).finish
      ((utf8OfChars cs).foldl (Cursor.read delimiter) .start).finish := by
  have empty : IsWritten decode? [] [] := ⟨[], .nil, rfl⟩
  have started : Alike (IsWritten decode?) .start .start := ⟨rfl, empty, .nil, .nil⟩
  exact (spelled.alike separates started).finish empty

end

end SheetCompiler.Encoding
