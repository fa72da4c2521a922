import SheetCompiler.Delimited.Writer
import SheetCompiler.Proofs.Encoding.Chunk

/-!
# Lines of delimited text

A grid as a text with one line for each row. Cells are quoted where they hold a delimiter,
a quote or a line break, and only there. The reader gives all rows back but those of a
single empty cell: their lines are blank.
-/

set_option autoImplicit false

namespace SheetCompiler.Delimited

open Encoding (asciiChar)
open Text (utf8OfChars)

/-- What may stand between fields: an ASCII character that is no quote and no line break. -/
structure IsDelimiter (byte : UInt8) : Prop where
  ascii : byte < 0x80
  notQuote : byte ≠ quoteByte
  notBreak : isLineBreak byte = false

/-- Characters that only a quoted field can hold. -/
def isSpecial (delimiter : UInt8) (c : Char) : Bool :=
  c == asciiChar delimiter || c == '"' || c == '\n' || c == '\r'

def cellText (delimiter : UInt8) (cs : List Char) : List Char :=
  if cs.any (isSpecial delimiter) then '"' :: (doubled cs ++ ['"']) else cs

/-- Cells with delimiters between them. -/
def cellTexts (delimiter : UInt8) : List (List Char) → List Char
  | [] => []
  | [cell] => cellText delimiter cell
  | cell :: cells => cellText delimiter cell ++ asciiChar delimiter :: cellTexts delimiter cells

def lineText (delimiter : UInt8) (cells : List (List Char)) : List Char :=
  cellTexts delimiter cells ++ ['\n']

/-- The text of a grid. -/
def gridText (delimiter : UInt8) (rows : List (List String)) : String :=
  String.ofList (rows.flatMap fun row => lineText delimiter (row.map String.toList))

/-! ## Written records -/

theorem writeFields_eq_cellTexts (fields : List (List Char)) :
    writeFields fields = cellTexts 0x2C fields := by
  induction fields with
  | nil => rfl
  | cons field fields ih =>
      have first : writeField field = cellText 0x2C field := rfl
      cases fields with
      | nil => exact first
      | cons next fields =>
          rw [writeFields, ih, first]
          · rfl
          · simp

/-- The writer only departs from the text of a grid where a record is a single empty field. -/
theorem write_eq_gridText {records : List (List String)} (some : [""] ∉ records) :
    write records = gridText 0x2C records := by
  refine congrArg String.ofList (List.flatMap_congr fun record member => ?_)
  have within : record.map String.toList ≠ [[]] := by
    intro blank
    have alone : record = [""] := by simpa using blank
    exact some (alone ▸ member)
  rw [writeRecord, if_neg within, writeFields_eq_cellTexts]
  rfl

/-! ## Bytes of cells -/

/-- A byte that stands for itself wherever it is read. -/
def isPlainByte (delimiter byte : UInt8) : Bool :=
  byte != delimiter && byte != quoteByte && !isLineBreak byte

theorem asciiChar_mem {byte : UInt8} (ascii : byte < 0x80) {cs : List Char}
    (member : byte ∈ utf8OfChars cs) : asciiChar byte ∈ cs := by
  obtain ⟨c, listed, inside⟩ := List.mem_flatMap.mp member
  by_cases small : c.toNat < 0x80
  · rw [Text.utf8EncodeChar_of_lt small, List.mem_singleton] at inside
    have same : asciiChar byte = c := by
      rw [← Char.toNat_inj, Encoding.toNat_asciiChar, inside]
      simp only [UInt8.toNat_ofNat']
      omega
    rwa [same]
  · have beyond := Text.le_of_mem_utf8EncodeChar (Nat.not_lt.mp small) inside
    exact absurd ascii (UInt8.not_lt.mpr beyond)

theorem isPlainByte_of_mem {delimiter : UInt8} (separates : IsDelimiter delimiter)
    {cs : List Char} (plain : cs.any (isSpecial delimiter) = false) :
    ∀ byte ∈ utf8OfChars cs, isPlainByte delimiter byte = true := by
  intro byte member
  have apart (special : UInt8) (ascii : special < 0x80)
      (quotes : isSpecial delimiter (asciiChar special) = true) : byte ≠ special := by
    rintro rfl
    exact absurd (List.any_eq_false.mp plain _ (asciiChar_mem ascii member)) (not_not.mpr quotes)
  simp only [isPlainByte, isLineBreak, Bool.and_eq_true, Bool.not_eq_true', bne_iff_ne,
    Bool.or_eq_false_iff, beq_eq_false_iff_ne]
  refine ⟨⟨apart delimiter separates.ascii ?_, apart quoteByte (by decide) ?_⟩,
    apart 0x0A (by decide) ?_, apart 0x0D (by decide) ?_⟩
  · simp [isSpecial]
  all_goals simp [isSpecial, show asciiChar quoteByte = '"' from rfl,
    show asciiChar 0x0A = '\n' from rfl, show asciiChar 0x0D = '\r' from rfl]

/-! ## Reading cells -/

namespace Cursor

variable {delimiter byte : UInt8} {cursor : Cursor}

def readText (delimiter : UInt8) (cursor : Cursor) (cs : List Char) : Cursor :=
  (utf8OfChars cs).foldl (read delimiter) cursor

@[simp] theorem readText_nil : cursor.readText delimiter [] = cursor := rfl

@[simp] theorem readText_append (front back : List Char) :
    cursor.readText delimiter (front ++ back)
      = (cursor.readText delimiter front).readText delimiter back := by
  simp only [readText, Text.utf8OfChars_append, List.foldl_append]

theorem readText_ascii (ascii : byte < 0x80) (cs : List Char) :
    cursor.readText delimiter (asciiChar byte :: cs)
      = (cursor.read delimiter byte).readText delimiter cs := by
  have alone : utf8OfChars [asciiChar byte] = [byte] :=
    Encoding.utf8OfChars_asciiChar (decide_eq_true ascii)
  rw [← List.singleton_append, readText_append]
  simp only [readText, alone, List.foldl_cons, List.foldl_nil]

theorem readText_quote (cs : List Char) :
    cursor.readText delimiter ('"' :: cs)
      = (cursor.read delimiter quoteByte).readText delimiter cs :=
  readText_ascii (show quoteByte < 0x80 by decide) cs

theorem readText_lineBreak (cs : List Char) :
    cursor.readText delimiter ('\n' :: cs)
      = (cursor.read delimiter 0x0A).readText delimiter cs :=
  readText_ascii (show (0x0A : UInt8) < 0x80 by decide) cs

/-! ### Text without quotes -/

theorem read_plain (open_ : cursor.progress ≠ .quoted ∧ cursor.progress ≠ .closing)
    (plain : isPlainByte delimiter byte = true) :
    cursor.read delimiter byte = cursor.push .plain byte := by
  simp only [isPlainByte, Bool.and_eq_true, Bool.not_eq_true', bne_iff_ne] at plain
  obtain ⟨⟨ends, quote⟩, breaks⟩ := plain
  cases here : cursor.progress <;>
    simp_all [read, readFirst, readPlain]

theorem foldl_read_plain {bytes : List UInt8}
    (open_ : cursor.progress ≠ .quoted ∧ cursor.progress ≠ .closing)
    (plain : ∀ byte ∈ bytes, isPlainByte delimiter byte = true) :
    bytes.foldl (read delimiter) cursor
      = { cursor with
          progress := if bytes = [] then cursor.progress else .plain
          bytes := bytes.reverse ++ cursor.bytes } := by
  induction bytes generalizing cursor with
  | nil => rfl
  | cons byte bytes ih =>
      rw [List.forall_mem_cons] at plain
      rw [List.foldl_cons, read_plain open_ plain.1, ih (by simp [push]) plain.2]
      simp [push]

/-! ### Quoted text -/

theorem read_quoted (inside : cursor.progress = .quoted) (text : byte ≠ quoteByte) :
    cursor.read delimiter byte = cursor.push .quoted byte := by
  simp [read, inside, text]

theorem foldl_read_quoted {bytes : List UInt8} (inside : cursor.progress = .quoted)
    (text : ∀ byte ∈ bytes, byte ≠ quoteByte) :
    bytes.foldl (read delimiter) cursor
      = { cursor with bytes := bytes.reverse ++ cursor.bytes } := by
  induction bytes generalizing cursor with
  | nil => rfl
  | cons byte bytes ih =>
      rw [List.forall_mem_cons] at text
      rw [List.foldl_cons, read_quoted inside text.1, ih rfl text.2]
      simp [push, inside]

/-- Two quotes in quoted text are one. -/
theorem read_read_quote (inside : cursor.progress = .quoted) :
    (cursor.read delimiter quoteByte).read delimiter quoteByte
      = cursor.push .quoted quoteByte := by
  simp [read, inside, push]

theorem readText_doubled (cs : List Char) (inside : cursor.progress = .quoted) :
    cursor.readText delimiter (doubled cs)
      = { cursor with bytes := (utf8OfChars cs).reverse ++ cursor.bytes } := by
  induction cs generalizing cursor with
  | nil => rfl
  | cons c cs ih =>
      by_cases quote : c = '"'
      · subst quote
        have byte : String.utf8EncodeChar '"' = [quoteByte] := rfl
        rw [doubled, if_pos rfl, readText_quote, readText_quote, read_read_quote inside,
          ih rfl]
        simp [push, inside, byte]
      · have text : ∀ byte ∈ utf8OfChars [c], byte ≠ quoteByte := by
          rintro byte member rfl
          have mem := asciiChar_mem (by decide) member
          exact quote (List.mem_singleton.mp mem).symm
        have first : cursor.readText delimiter [c]
            = { cursor with bytes := (utf8OfChars [c]).reverse ++ cursor.bytes } :=
          foldl_read_quoted inside text
        have later := @ih { cursor with bytes := (utf8OfChars [c]).reverse ++ cursor.bytes } inside
        rw [doubled, if_neg quote, ← List.singleton_append, readText_append, first, later]
        simp

/-! ### Cells -/

/-- What reading a cell in front of a field does. Its bytes become those of the current field,
which the next delimiter or line break ends. Only an empty cell at the beginning of a record
leaves no trace. -/
structure HasRead (cursor : Cursor) (cs : List Char) (behind : Cursor) : Prop where
  notQuoted : behind.progress ≠ .quoted
  traceless : behind.progress = .record ↔ cursor.progress = .record ∧ cs = []
  bytes : behind.bytes = (utf8OfChars cs).reverse
  fields : behind.fields = cursor.fields
  records : behind.records = cursor.records

/-- A place in front of a field. -/
structure AtField (cursor : Cursor) : Prop where
  progress : cursor.progress = .record ∨ cursor.progress = .field
  bytes : cursor.bytes = []

theorem AtField.read_quote (here : cursor.AtField) :
    cursor.read delimiter quoteByte = { cursor with progress := .quoted } := by
  have text : isLineBreak quoteByte = false := rfl
  rcases here.progress with inside | inside <;> simp [read, inside, readFirst, text]

theorem AtField.hasRead_cellText (here : cursor.AtField) (separates : IsDelimiter delimiter)
    (cs : List Char) : cursor.HasRead cs (cursor.readText delimiter (cellText delimiter cs)) := by
  unfold cellText
  split
  · rename_i special
    have some : cs ≠ [] := by
      rintro rfl
      cases special
    rw [readText_quote, here.read_quote, readText_append, readText_doubled cs rfl, readText_quote]
    have closes (bytes : List UInt8) :
        (⟨.quoted, bytes, cursor.fields, cursor.records⟩ : Cursor).read delimiter quoteByte
          = ⟨.closing, bytes, cursor.fields, cursor.records⟩ := rfl
    rw [closes, readText_nil]
    constructor <;> simp [some, here.bytes]
  · rename_i plain
    have bytes := isPlainByte_of_mem separates (Bool.eq_false_iff.mpr plain)
    have outside : cursor.progress ≠ .quoted ∧ cursor.progress ≠ .closing := by
      rcases here.progress with inside | inside <;> simp [inside]
    rw [readText, foldl_read_plain outside bytes]
    constructor
    case notQuoted =>
      dsimp only
      split
      · exact outside.1
      · simp
    case traceless =>
      have empty : utf8OfChars cs = [] ↔ cs = [] :=
        ⟨fun none => not_not.mp fun some => Text.utf8OfChars_ne_nil some none, by rintro rfl; rfl⟩
      by_cases none : cs = [] <;> simp [empty, none]
    case bytes => simp [here.bytes]
    case fields => rfl
    case records => rfl

namespace HasRead

variable {cs : List Char} {behind : Cursor}

theorem read_delimiter (cell : cursor.HasRead cs behind) (separates : IsDelimiter delimiter) :
    behind.read delimiter delimiter
      = ⟨.field, [], utf8OfChars cs :: cursor.fields, cursor.records⟩ := by
  have ended : behind.endField = ⟨.field, [], utf8OfChars cs :: cursor.fields, cursor.records⟩ := by
    simp [endField, cell.bytes, cell.fields, cell.records]
  have inside := cell.notQuoted
  rw [← ended]
  cases here : behind.progress <;>
    simp_all [read, readFirst, readPlain, separates.notQuote, separates.notBreak]

theorem read_lineBreak (cell : cursor.HasRead cs behind) (separates : IsDelimiter delimiter)
    (trace : ¬ (cursor.progress = .record ∧ cs = [])) :
    behind.read delimiter 0x0A
      = ⟨.record, [], [], (utf8OfChars cs :: cursor.fields).reverse :: cursor.records⟩ := by
  have ended : behind.endRecord
      = ⟨.record, [], [], (utf8OfChars cs :: cursor.fields).reverse :: cursor.records⟩ := by
    simp [endRecord, endField, cell.bytes, cell.fields, cell.records]
  have inside := cell.notQuoted
  have within : behind.progress ≠ .record := fun here => trace (cell.traceless.mp here)
  have breaks : isLineBreak 0x0A = true := rfl
  have apart : (0x0A : UInt8) ≠ delimiter := by
    rintro rfl
    exact absurd separates.notBreak (by decide)
  have quote : (0x0A : UInt8) ≠ quoteByte := by decide
  rw [← ended]
  cases here : behind.progress <;>
    simp_all [read, readFirst, readPlain]

end HasRead

/-! ### Lines -/

theorem AtField.readText_lineText (here : cursor.AtField) (separates : IsDelimiter delimiter)
    {cells : List (List Char)} (some : cells ≠ [])
    (trace : ¬ (cursor.progress = .record ∧ cells = [[]])) :
    cursor.readText delimiter (lineText delimiter cells)
      = ⟨.record, [], [],
          (cursor.fields.reverse ++ cells.map utf8OfChars) :: cursor.records⟩ := by
  unfold lineText
  induction cells generalizing cursor with
  | nil => contradiction
  | cons cs cells ih =>
      have cell := here.hasRead_cellText separates cs
      cases cells with
      | nil =>
          have within : ¬ (cursor.progress = .record ∧ cs = []) := by simpa using trace
          rw [cellTexts, readText_append, readText_lineBreak,
            cell.read_lineBreak separates within]
          simp
      | cons next cells =>
          rw [cellTexts, List.append_assoc, readText_append, List.cons_append,
            readText_ascii separates.ascii, cell.read_delimiter separates,
            ih ⟨.inr rfl, rfl⟩ (by simp) (by simp)]
          · simp
          · simp

/-- Between two lines. -/
def between (records : List (List (List UInt8))) : Cursor := ⟨.record, [], [], records⟩

theorem readText_lines (separates : IsDelimiter delimiter) (records : List (List (List UInt8)))
    {rows : List (List (List Char))} (some : ∀ row ∈ rows, row ≠ []) :
    (between records).readText delimiter (rows.flatMap (lineText delimiter))
      = between (((rows.filter (· ≠ [[]])).map (List.map utf8OfChars)).reverse ++ records) := by
  induction rows generalizing records with
  | nil => rfl
  | cons row rows ih =>
      rw [List.forall_mem_cons] at some
      rw [List.flatMap_cons, readText_append]
      by_cases blank : row = [[]]
      · subst blank
        have skipped : (between records).readText delimiter (lineText delimiter [[]])
            = between records := rfl
        rw [skipped, ih records some.2]
        simp
      · have line : (between records).readText delimiter (lineText delimiter row)
            = between (row.map utf8OfChars :: records) :=
          AtField.readText_lineText ⟨.inl rfl, rfl⟩ separates some.1 fun both => blank both.2
        rw [line, ih _ some.2]
        simp [blank]

end Cursor

end SheetCompiler.Delimited
