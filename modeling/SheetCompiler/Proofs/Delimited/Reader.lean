import Mathlib.Data.List.Forall2
import Mathlib.Tactic.Common
import SheetCompiler.Delimited.Reader

/-!
# Reading two texts side by side

What a byte does to a cursor depends on the progress of the cursor only, not on what has
been read. So two texts whose separators are the same have the same records, as far as
the bytes between the separators are alike. A mark in front of a text is part of its
first field.
-/

set_option autoImplicit false

namespace SheetCompiler.Delimited

/-- The quote, the delimiters of table files and the bytes of line breaks. -/
def isSeparator (byte : UInt8) : Bool :=
  byte == quoteByte || byte == 0x2C || byte == 0x09 || isLineBreak byte

namespace Cursor

variable {delimiter byte : UInt8} {progress : Progress} {cursor other : Cursor}
  {move : Cursor → Cursor}

/-! ## Steps -/

/-- What a byte can do to a cursor. -/
inductive Moves (byte : UInt8) (progress : Progress) : (Cursor → Cursor) → Prop where
  | skip : progress = .record → Moves byte progress id
  | turn (next : Progress) : next ≠ .record →
      Moves byte progress fun cursor => { cursor with progress := next }
  | push (next : Progress) : next ≠ .record →
      Moves byte progress fun cursor => cursor.push next byte
  | endField : Moves byte progress endField
  | endRecord : progress ≠ .record → Moves byte progress endRecord

theorem exists_moves_readPlain (delimiter : UInt8) (progress : Progress)
    (inside : isLineBreak byte = true → progress ≠ .record) :
    ∃ move, Moves byte progress move ∧
      ∀ cursor : Cursor, cursor.readPlain delimiter byte = move cursor := by
  by_cases ends : byte = delimiter
  · exact ⟨_, .endField, fun cursor => by rw [readPlain, if_pos ends]⟩
  · by_cases breaks : isLineBreak byte = true
    · exact ⟨_, .endRecord (inside breaks), fun cursor => by
        rw [readPlain, if_neg ends, if_pos breaks]⟩
    · exact ⟨_, .push .plain (by simp), fun cursor => by
        rw [readPlain, if_neg ends, if_neg breaks]⟩

theorem exists_moves_readFirst (delimiter : UInt8) (progress : Progress)
    (inside : isLineBreak byte = true → progress ≠ .record) :
    ∃ move, Moves byte progress move ∧
      ∀ cursor : Cursor, cursor.readFirst delimiter byte = move cursor := by
  by_cases quote : byte = quoteByte
  · exact ⟨_, .turn .quoted (by simp), fun cursor => by rw [readFirst, if_pos quote]⟩
  · simpa only [readFirst, if_neg quote] using exists_moves_readPlain delimiter progress inside

/-- Cursors of one progress move alike. -/
theorem exists_moves (delimiter byte : UInt8) (progress : Progress) :
    ∃ move, Moves byte progress move ∧
      ∀ cursor : Cursor, cursor.progress = progress → cursor.read delimiter byte = move cursor := by
  cases progress with
  | record =>
      by_cases breaks : isLineBreak byte = true
      · exact ⟨id, .skip rfl, fun cursor here => by simp only [read, here, if_pos breaks, id]⟩
      · obtain ⟨move, moves, same⟩ :=
          exists_moves_readFirst delimiter .record fun line => absurd line breaks
        exact ⟨move, moves, fun cursor here => by simp only [read, here, if_neg breaks, same]⟩
  | field =>
      obtain ⟨move, moves, same⟩ := exists_moves_readFirst delimiter .field (by simp)
      exact ⟨move, moves, fun cursor here => by simp only [read, here, same]⟩
  | plain =>
      obtain ⟨move, moves, same⟩ := exists_moves_readPlain delimiter .plain (by simp)
      exact ⟨move, moves, fun cursor here => by simp only [read, here, same]⟩
  | quoted =>
      by_cases quote : byte = quoteByte
      · exact ⟨_, .turn .closing (by simp), fun cursor here => by
          simp only [read, here, if_pos quote]⟩
      · exact ⟨_, .push .quoted (by simp), fun cursor here => by
          simp only [read, here, if_neg quote]⟩
  | closing =>
      by_cases quote : byte = quoteByte
      · exact ⟨_, .push .quoted (by simp), fun cursor here => by
          simp only [read, here, if_pos quote]⟩
      · obtain ⟨move, moves, same⟩ := exists_moves_readPlain delimiter .closing (by simp)
        exact ⟨move, moves, fun cursor here => by simp only [read, here, if_neg quote, same]⟩

end Cursor

/-- Where a field goes on behind text that is no separator. -/
def Progress.inText : Progress → Progress
  | quoted => quoted
  | _ => plain

namespace Cursor

variable {delimiter byte : UInt8} {cursor other : Cursor}

theorem read_of_not_isSeparator (separates : isSeparator delimiter = true)
    (text : isSeparator byte = false) :
    cursor.read delimiter byte = cursor.push cursor.progress.inText byte := by
  have ends : byte ≠ delimiter := by
    rintro rfl
    simp [separates] at text
  simp only [isSeparator, Bool.or_eq_false_iff, beq_eq_false_iff_ne] at text
  obtain ⟨⟨⟨quote, -⟩, -⟩, breaks⟩ := text
  cases here : cursor.progress <;>
    simp [read, here, readFirst, readPlain, quote, ends, breaks, Progress.inText]

theorem foldl_read_of_not_isSeparator (separates : isSeparator delimiter = true)
    {bytes : List UInt8} (some : bytes ≠ []) (text : ∀ byte ∈ bytes, isSeparator byte = false) :
    bytes.foldl (read delimiter) cursor
      = { cursor with
          progress := cursor.progress.inText
          bytes := bytes.reverse ++ cursor.bytes } := by
  induction bytes generalizing cursor with
  | nil => contradiction
  | cons byte bytes ih =>
      rw [List.forall_mem_cons] at text
      rw [List.foldl_cons, read_of_not_isSeparator separates text.1]
      rcases bytes.eq_nil_or_concat with rfl | ⟨_, _, rfl⟩
      · rfl
      · rw [ih (by simp) text.2]
        cases here : cursor.progress <;> simp [push, Progress.inText]

/-! ## Alike fields -/

/-- Two cursors that differ in the bytes of their fields only, and in them as a relation
says. -/
structure Alike (alike : List UInt8 → List UInt8 → Prop) (cursor other : Cursor) : Prop where
  progress : cursor.progress = other.progress
  bytes : alike cursor.bytes.reverse other.bytes.reverse
  fields : List.Forall₂ alike cursor.fields other.fields
  records : List.Forall₂ (List.Forall₂ alike) cursor.records other.records

namespace Alike

variable {alike : List UInt8 → List UInt8 → Prop}

theorem endField (empty : alike [] []) (sides : Alike alike cursor other) :
    Alike alike cursor.endField other.endField :=
  ⟨rfl, empty, .cons sides.bytes sides.fields, sides.records⟩

theorem endRecord (empty : alike [] []) (sides : Alike alike cursor other) :
    Alike alike cursor.endRecord other.endRecord :=
  ⟨rfl, empty, .nil,
    .cons (List.rel_reverse (.cons sides.bytes sides.fields)) sides.records⟩

theorem read (empty : alike [] [])
    (grows : ∀ front back, alike front back → alike (front ++ [byte]) (back ++ [byte]))
    (sides : Alike alike cursor other) :
    Alike alike (cursor.read delimiter byte) (other.read delimiter byte) := by
  obtain ⟨move, moves, same⟩ := exists_moves delimiter byte cursor.progress
  rw [same cursor rfl, same other sides.progress.symm]
  cases moves with
  | skip => exact sides
  | turn next => exact ⟨rfl, sides.bytes, sides.fields, sides.records⟩
  | push next =>
      refine ⟨rfl, ?_, sides.fields, sides.records⟩
      simpa only [push, List.reverse_cons] using grows _ _ sides.bytes
  | endField => exact sides.endField empty
  | endRecord => exact sides.endRecord empty

/-- Text that is no separator grows the current fields. -/
theorem foldl_read (separates : isSeparator delimiter = true) {bytes rest : List UInt8}
    (some : bytes ≠ []) (text : ∀ byte ∈ bytes, isSeparator byte = false)
    (someRest : rest ≠ []) (textRest : ∀ byte ∈ rest, isSeparator byte = false)
    (grows : ∀ front back, alike front back → alike (front ++ bytes) (back ++ rest))
    (sides : Alike alike cursor other) :
    Alike alike (bytes.foldl (Cursor.read delimiter) cursor)
      (rest.foldl (Cursor.read delimiter) other) := by
  rw [foldl_read_of_not_isSeparator separates some text,
    foldl_read_of_not_isSeparator separates someRest textRest]
  refine ⟨congrArg Progress.inText sides.progress, ?_, sides.fields, sides.records⟩
  simpa only [List.reverse_append, List.reverse_reverse] using grows _ _ sides.bytes

theorem finish (empty : alike [] []) (sides : Alike alike cursor other) :
    List.Forall₂ (List.Forall₂ alike) cursor.finish other.finish := by
  unfold Cursor.finish
  rw [sides.progress]
  split
  · exact List.rel_reverse sides.records
  · exact List.rel_reverse (sides.endRecord empty).records

end Alike

/-! ## A mark in front -/

/-- Two cursors, of which the first one has a mark in front of its first field. -/
inductive Behind (mark : List UInt8) : Cursor → Cursor → Prop where
  | bytes (progress : Progress) (bytes : List UInt8) : progress ≠ .record →
      Behind mark ⟨progress, bytes ++ mark.reverse, [], []⟩ ⟨progress, bytes, [], []⟩
  | fields (progress : Progress) (bytes : List UInt8) (fields : List (List UInt8))
      (first : List UInt8) : progress ≠ .record →
      Behind mark ⟨progress, bytes, fields ++ [mark ++ first], []⟩
        ⟨progress, bytes, fields ++ [first], []⟩
  | records (progress : Progress) (bytes : List UInt8) (fields : List (List UInt8))
      (records : List (List (List UInt8))) (first : List UInt8) (record : List (List UInt8)) :
      Behind mark ⟨progress, bytes, fields, records ++ [(mark ++ first) :: record]⟩
        ⟨progress, bytes, fields, records ++ [first :: record]⟩

namespace Behind

variable {mark : List UInt8}

theorem turn {next : Progress} (inside : next ≠ .record) (sides : Behind mark cursor other) :
    Behind mark { cursor with progress := next } { other with progress := next } := by
  cases sides with
  | bytes _ bytes => exact .bytes next bytes inside
  | fields _ bytes fields first => exact .fields next bytes fields first inside
  | records _ bytes fields records first record =>
      exact .records next bytes fields records first record

theorem push {next : Progress} (inside : next ≠ .record) (sides : Behind mark cursor other) :
    Behind mark (cursor.push next byte) (other.push next byte) := by
  cases sides with
  | bytes _ bytes => exact .bytes next (byte :: bytes) inside
  | fields _ bytes fields first => exact .fields next (byte :: bytes) fields first inside
  | records _ bytes fields records first record =>
      exact .records next (byte :: bytes) fields records first record

theorem endField (sides : Behind mark cursor other) :
    Behind mark cursor.endField other.endField := by
  cases sides with
  | bytes _ bytes =>
      have ended := @Behind.fields mark .field [] [] bytes.reverse (by simp)
      simpa [Cursor.endField] using ended
  | fields _ bytes fields first => exact .fields .field [] (bytes.reverse :: fields) first (by simp)
  | records _ bytes fields records first record =>
      exact .records .field [] (bytes.reverse :: fields) records first record

theorem endRecord (sides : Behind mark cursor other) :
    Behind mark cursor.endRecord other.endRecord := by
  cases sides with
  | bytes _ bytes =>
      have ended := @Behind.records mark .record [] [] [] bytes.reverse []
      simpa [Cursor.endRecord, Cursor.endField] using ended
  | fields _ bytes fields first =>
      have ended := @Behind.records mark .record [] [] [] first (fields.reverse ++ [bytes.reverse])
      simpa [Cursor.endRecord, Cursor.endField] using ended
  | records _ bytes fields records first record =>
      exact .records .record [] [] ((bytes.reverse :: fields).reverse :: records) first record

theorem read (sides : Behind mark cursor other) :
    Behind mark (cursor.read delimiter byte) (other.read delimiter byte) := by
  have progress : other.progress = cursor.progress := by cases sides <;> rfl
  obtain ⟨move, moves, same⟩ := exists_moves delimiter byte cursor.progress
  rw [same cursor rfl, same other progress]
  cases moves with
  | skip => exact sides
  | turn next inside => exact sides.turn inside
  | push next inside => exact sides.push inside
  | endField => exact sides.endField
  | endRecord => exact sides.endRecord

theorem foldl_read (bytes : List UInt8) (sides : Behind mark cursor other) :
    Behind mark (bytes.foldl (Cursor.read delimiter) cursor)
      (bytes.foldl (Cursor.read delimiter) other) := by
  induction bytes generalizing cursor other with
  | nil => exact sides
  | cons byte bytes ih => exact ih sides.read

theorem finish (sides : Behind mark cursor other) :
    ∃ first record records, cursor.finish = ((mark ++ first) :: record) :: records ∧
      other.finish = (first :: record) :: records := by
  have settled {cursor other : Cursor} (here : cursor.progress = .record)
      (sides : Behind mark cursor other) :
      ∃ first record records, cursor.records.reverse = ((mark ++ first) :: record) :: records ∧
        other.records.reverse = (first :: record) :: records := by
    cases sides with
    | bytes _ _ inside | fields _ _ _ _ inside => exact absurd here inside
    | records _ bytes fields records first record => exact ⟨first, record, records.reverse, by simp⟩
  have progress : other.progress = cursor.progress := by cases sides <;> rfl
  unfold Cursor.finish
  rw [progress]
  split
  · rename_i here
    exact settled here sides
  · exact settled rfl sides.endRecord

end Behind

/-- Behind a mark the first byte is read as in front of a text, but for quotes and line
breaks. -/
theorem behind_read_mark (separates : isSeparator delimiter = true) {mark : List UInt8}
    (some : mark ≠ []) (text : ∀ byte ∈ mark, isSeparator byte = false)
    (quote : byte ≠ quoteByte) (breaks : isLineBreak byte = false) :
    Behind mark ((mark.foldl (read delimiter) start).read delimiter byte)
      (start.read delimiter byte) := by
  have inside : start.read delimiter byte
      = ({ start with progress := .plain } : Cursor).read delimiter byte := by
    simp only [read, start, breaks, Bool.false_eq_true, if_false, readFirst, if_neg quote,
      readPlain]
    split_ifs <;> rfl
  have marked : mark.foldl (read delimiter) start = ⟨.plain, [] ++ mark.reverse, [], []⟩ := by
    rw [foldl_read_of_not_isSeparator separates some text]
    simp [start, Progress.inText]
  rw [marked, inside]
  exact (Behind.bytes .plain [] (by simp)).read

end Cursor

/-- A mark in front of a text is in front of its first field, unless a quote, a line break
or nothing is behind it. -/
theorem exists_first_of_mark {delimiter byte : UInt8} (separates : isSeparator delimiter = true)
    (mark bytes : List UInt8) (some : mark ≠ []) (text : ∀ byte ∈ mark, isSeparator byte = false)
    (quote : byte ≠ quoteByte) (breaks : isLineBreak byte = false) :
    ∃ first record records,
      ((mark ++ byte :: bytes).foldl (Cursor.read delimiter) .start).finish
        = ((mark ++ first) :: record) :: records ∧
      ((byte :: bytes).foldl (Cursor.read delimiter) .start).finish
        = (first :: record) :: records := by
  rw [List.foldl_append, List.foldl_cons, List.foldl_cons]
  exact (Cursor.behind_read_mark separates some text quote breaks).foldl_read bytes |>.finish

end SheetCompiler.Delimited
