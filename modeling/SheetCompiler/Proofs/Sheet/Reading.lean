import SheetCompiler.Proofs.Encoding.Decoder
import SheetCompiler.TableFile

/-!
# Reading encoded tables

The bytes of a table are cut into fields first, and every field is decoded on its own.
The sheet is that of the whole text, decoded at once and written in UTF-8, as long as the
encoding decodes chunk by chunk and no byte order mark is mistaken.
-/

set_option autoImplicit false

namespace SheetCompiler.Sheet

open Delimited (isSeparator)
open Encoding (IsWritten Spells decodeUtf8?)
open Text (utf8OfChars)

variable {α β : Type}

/-- The cells but for the first one of the first row. -/
def laterCells : List (List α) → List α
  | (_ :: cells) :: rows => cells ++ rows.flatten
  | rows => rows.flatten

/-- Characters without a byte order mark in front. -/
def unmarked : List Char → List Char
  | c :: cs => if c = byteOrderMark then cs else c :: cs
  | [] => []

@[simp] theorem unmarked_mark (cs : List Char) : unmarked (byteOrderMark :: cs) = cs := by
  simp [unmarked]

theorem unmarked_eq_self {cs : List Char} (plain : ∀ rest, cs ≠ byteOrderMark :: rest) :
    unmarked cs = cs := by
  cases cs with
  | nil => rfl
  | cons c cs => exact if_neg fun mark => plain cs (by rw [mark])

variable {encoding : Encoding} {delimiter : UInt8} {bytes : List UInt8} {cs : List Char}

/-! ## Cells -/

theorem withoutMarks_unmarked (cs : List Char) :
    withoutMarks (String.ofList (unmarked cs)) = withoutMarks (String.ofList cs) := by
  by_cases marked : ∃ rest, cs = byteOrderMark :: rest
  · obtain ⟨rest, rfl⟩ := marked
    simp [withoutMarks]
  · rw [unmarked_eq_self (not_exists.mp marked)]

/-- A cell in UTF-8 loses one byte order mark. -/
theorem decode_utf8OfChars (cs : List Char) :
    Encoding.utf8.decode (utf8OfChars cs) = .ok (String.ofList (unmarked cs)) := by
  have decoded (cs : List Char) : Encoding.utf8.decode? (utf8OfChars cs) = some cs :=
    Encoding.decodeUtf8?_eq_some_iff.mpr rfl
  by_cases marked : ∃ more, cs = byteOrderMark :: more
  · obtain ⟨more, rfl⟩ := marked
    have mark : Encoding.byteOrderMark? (utf8OfChars (byteOrderMark :: more))
      = some (.utf8, utf8OfChars more) := rfl
    simp only [Encoding.decode, mark, decoded, unmarked_mark]
  · have plain : Encoding.byteOrderMark? (utf8OfChars cs) = none := by
      apply Encoding.byteOrderMark?_eq_none <;> intro rest same
      · have small : (0xFE : UInt8) < 0xFE := Text.lt_of_mem_utf8OfChars cs (by simp [same])
        exact absurd small (by decide)
      · have small : (0xFF : UInt8) < 0xFE := Text.lt_of_mem_utf8OfChars cs (by simp [same])
        exact absurd small (by decide)
      · obtain ⟨more, rfl, -⟩ := Text.utf8OfChars_eq_mark same
        exact marked ⟨more, rfl⟩
    simp [Encoding.decode, plain, decoded, unmarked_eq_self (not_exists.mp marked)]

theorem decodeRows_eq_ok {table : String} {number : Nat} {rows : List (List (List UInt8))}
    {texts : List (List String)}
    (decoded : List.Forall₂ (List.Forall₂ fun field text => encoding.decode field = .ok text)
      rows texts) : decodeRows table encoding number rows = .ok texts := by
  induction decoded generalizing number with
  | nil => rfl
  | @cons row cells rows texts first _ ih =>
      have decodedRow : row.mapM encoding.decode = .ok cells := by
        induction first with
        | nil => rfl
        | cons cell _ ih =>
            simp only [List.mapM_cons, cell, ih]
            rfl
      simp [decodeRows, decodedRow, ih, Except.map]

/-! ## Grids -/

theorem forall₂_laterCells {alike : α → β → Prop} {rows : List (List α)} {others : List (List β)}
    (sides : List.Forall₂ (List.Forall₂ alike) rows others) :
    List.Forall₂ alike (laterCells rows) (laterCells others) := by
  cases sides with
  | nil => exact .nil
  | cons first later =>
      cases first with
      | nil => exact List.rel_flatten (.cons .nil later)
      | cons _ cells => exact List.rel_append cells (List.rel_flatten later)

/-- Characters of cells whose UTF-8 bytes are given. -/
theorem exists_chars {decode? : List UInt8 → Option (List Char)} {fields : List (List UInt8)}
    {written : List (List UInt8)} (sides : List.Forall₂ (IsWritten decode?) fields written) :
    ∃ cells, List.Forall₂ (Spells decode?) fields cells ∧ written = cells.map utf8OfChars := by
  induction sides with
  | nil => exact ⟨[], .nil, rfl⟩
  | cons cell _ ih =>
      obtain ⟨cs, spelled, rfl⟩ := cell
      obtain ⟨cells, later, rfl⟩ := ih
      exact ⟨cs :: cells, .cons spelled later, rfl⟩

theorem exists_grid {decode? : List UInt8 → Option (List Char)} {rows : List (List (List UInt8))}
    {written : List (List (List UInt8))}
    (sides : List.Forall₂ (List.Forall₂ (IsWritten decode?)) rows written) :
    ∃ grid, List.Forall₂ (List.Forall₂ (Spells decode?)) rows grid ∧
      written = grid.map (List.map utf8OfChars) := by
  induction sides with
  | nil => exact ⟨[], .nil, rfl⟩
  | cons row _ ih =>
      obtain ⟨cells, first, rfl⟩ := exists_chars row
      obtain ⟨grid, later, rfl⟩ := ih
      exact ⟨cells :: grid, .cons first later, rfl⟩

/-- The texts of a grid. Every cell has lost a byte order mark, and the first one all. -/
def textsOf (grid : List (List (List Char))) : List (List String) :=
  withoutLeadingMarks (grid.map (List.map fun cs => String.ofList (unmarked cs)))

theorem textsOf_mark (cs : List Char) (cells : List (List Char)) (grid : List (List (List Char))) :
    textsOf (((byteOrderMark :: cs) :: cells) :: grid) = textsOf ((cs :: cells) :: grid) := by
  simp [textsOf, withoutLeadingMarks, withoutMarks_unmarked]

/-- Texts of which only the first one can have a mark in front. -/
theorem withoutLeadingMarks_map {grid : List (List (List Char))}
    (later : ∀ cs ∈ laterCells grid, unmarked cs = cs) :
    withoutLeadingMarks (grid.map (List.map String.ofList)) = textsOf grid := by
  have kept (cells : List (List Char)) (same : ∀ cs ∈ cells, unmarked cs = cs) :
      cells.map String.ofList = cells.map fun cs => String.ofList (unmarked cs) :=
    List.map_congr_left fun cs member => by rw [same cs member]
  have keptRows (rows : List (List (List Char))) (same : ∀ cs ∈ rows.flatten, unmarked cs = cs) :
      rows.map (List.map String.ofList)
        = rows.map (List.map fun cs => String.ofList (unmarked cs)) :=
    List.map_congr_left fun row member =>
      kept row fun cs inside => same cs (List.mem_flatten_of_mem member inside)
  match grid with
  | [] => rfl
  | [] :: rows => simpa [textsOf, withoutLeadingMarks] using keptRows rows later
  | (first :: cells) :: rows =>
      simp only [laterCells, List.forall_mem_append] at later
      simp [textsOf, withoutLeadingMarks, withoutMarks_unmarked, kept cells later.1,
        keptRows rows later.2]

theorem ofBytes_of_forall₂ {name : String} {texts : List (List String)}
    (decoded : List.Forall₂ (List.Forall₂ fun field text => encoding.decode field = .ok text)
      (Delimited.read delimiter bytes) texts) :
    ofBytes name delimiter encoding bytes = .ok (padded name (withoutLeadingMarks texts)) := by
  rw [ofBytes, decodeRows_eq_ok decoded]
  rfl

theorem ofBytes_utf8OfChars {name : String} {grid : List (List (List Char))}
    (split : Delimited.read delimiter bytes = grid.map (List.map utf8OfChars)) :
    ofBytes name delimiter .utf8 bytes = .ok (padded name (textsOf grid)) := by
  apply ofBytes_of_forall₂
  rw [split, List.forall₂_map_left_iff, List.forall₂_map_right_iff]
  refine List.forall₂_same.mpr fun row _ => ?_
  rw [List.forall₂_map_left_iff, List.forall₂_map_right_iff]
  exact List.forall₂_same.mpr fun cs _ => decode_utf8OfChars cs

/-! ## Tables in UTF-8 -/

theorem withoutMark_utf8OfChars (cs : List Char) :
    Delimited.withoutMark (utf8OfChars cs) = utf8OfChars (unmarked cs) := by
  by_cases marked : ∃ rest, cs = byteOrderMark :: rest
  · obtain ⟨rest, rfl⟩ := marked
    rw [unmarked_mark]
    rfl
  · rw [unmarked_eq_self (not_exists.mp marked)]
    unfold Delimited.withoutMark
    split
    · rename_i same
      obtain ⟨rest, rfl, -⟩ := Text.utf8OfChars_eq_mark same
      exact absurd ⟨rest, rfl⟩ marked
    · rfl

theorem exists_first_byte {c : Char} (plain : c ∉ ['"', '\n', '\r']) (more : List Char) :
    ∃ byte bytes, utf8OfChars (c :: more) = byte :: bytes ∧ byte ≠ Delimited.quoteByte ∧
      Delimited.isLineBreak byte = false := by
  by_cases ascii : c.toNat < 0x80
  · obtain ⟨byte, small, rfl⟩ := Encoding.exists_byte_of_ascii ascii
    refine ⟨byte, utf8OfChars more, ?_, ?_, ?_⟩
    · rw [← List.singleton_append, Text.utf8OfChars_append, Encoding.utf8OfChars_asciiChar small,
        List.singleton_append]
    · rintro rfl
      exact plain (by decide)
    · rw [Delimited.isLineBreak, Bool.or_eq_false_iff, beq_eq_false_iff_ne, beq_eq_false_iff_ne]
      constructor
      · rintro rfl
        exact plain (by decide)
      · rintro rfl
        exact plain (by decide)
  · have some : String.utf8EncodeChar c ≠ [] := String.utf8EncodeChar_ne_nil
    obtain ⟨byte, bytes, begins⟩ := List.exists_cons_of_ne_nil some
    have beyond : 0x80 ≤ byte :=
      Text.le_of_mem_utf8EncodeChar (Nat.not_lt.mp ascii) (by simp [begins])
    have text := Encoding.isSeparator_of_le (UInt8.le_trans (by decide) beyond)
    simp only [isSeparator, Bool.or_eq_false_iff, beq_eq_false_iff_ne] at text
    exact ⟨byte, bytes ++ utf8OfChars more, by simp [begins], text.1.1.1, text.2⟩

/-- The grid of a text in UTF-8 is that of the text without a mark in front. -/
theorem exists_grid_utf8 (separates : isSeparator delimiter = true) {text : List Char}
    (opening : ∀ rest, text = byteOrderMark :: rest →
      ∃ c more, rest = c :: more ∧ c ∉ ['"', '\n', '\r'])
    {grid : List (List (List Char))}
    (split : ((utf8OfChars text).foldl (Delimited.Cursor.read delimiter) .start).finish
      = grid.map (List.map utf8OfChars)) :
    ∃ other, Delimited.read delimiter (utf8OfChars text) = other.map (List.map utf8OfChars) ∧
      textsOf other = textsOf grid := by
  rw [Delimited.read, withoutMark_utf8OfChars]
  by_cases marked : ∃ rest, text = byteOrderMark :: rest
  · obtain ⟨rest, rfl⟩ := marked
    obtain ⟨c, more, rfl, plain⟩ := opening rest rfl
    obtain ⟨byte, bytes, begins, quote, breaks⟩ := exists_first_byte plain more
    have mark : utf8OfChars (byteOrderMark :: c :: more) = [0xEF, 0xBB, 0xBF] ++ byte :: bytes := by
      rw [← begins]
      rfl
    obtain ⟨first, record, records, behind, front⟩ :=
      Delimited.exists_first_of_mark separates [0xEF, 0xBB, 0xBF] bytes (by simp)
        (by decide +kernel) quote breaks
    rw [mark, behind] at split
    obtain ⟨row, rows, rfl, firstRow, rfl⟩ := List.map_eq_cons_iff.mp split.symm
    obtain ⟨cell, cells, rfl, firstCell, rfl⟩ := List.map_eq_cons_iff.mp firstRow
    obtain ⟨rest, rfl, rfl⟩ := Text.utf8OfChars_eq_mark firstCell
    refine ⟨(rest :: cells) :: rows, ?_, (textsOf_mark rest cells rows).symm⟩
    rw [unmarked_mark, begins, front]
    rfl
  · exact ⟨grid, by rw [unmarked_eq_self (not_exists.mp marked), split], rfl⟩

/-! ## Tables in other encodings -/

/-- Bytes and their text for which it does not matter whether the fields are decoded or the
whole table: the encoding goes chunk by chunk, a mark in front of the bytes is one of UTF-8,
and no other field begins with a mark. -/
structure IsSplittable (encoding : Encoding) (delimiter : UInt8) (bytes : List UInt8)
    (text : String) : Prop where
  notUtf16 : encoding ≠ .utf16Be ∧ encoding ≠ .utf16Le
  unescaped : encoding = .iso2022Jp → 0x1B ∉ bytes
  opening : ∀ rest, text.toList = byteOrderMark :: rest →
    ∃ c more, rest = c :: more ∧ c ∉ ['"', '\n', '\r']
  front : ∀ marked rest, Encoding.byteOrderMark? bytes = some (marked, rest) →
    marked = .utf8 ∧ encoding = .utf8
  unmarked : encoding ≠ .utf8 → ∀ record ∈ Delimited.read delimiter bytes, ∀ field ∈ record,
    Encoding.byteOrderMark? field = none
  later : encoding ≠ .utf8 → ∀ field ∈ laterCells (Delimited.read delimiter bytes),
    ∀ rest, encoding.decode? field ≠ some (byteOrderMark :: rest)

theorem spells_of_isSplittable {text : String} (listed : encoding ∈ Encoding.all)
    (splittable : IsSplittable encoding delimiter bytes text)
    (decoded : encoding.decode bytes = .ok text) :
    Spells encoding.decode? (Delimited.withoutMark bytes) text.toList := by
  have known := Encoding.decode?_of_decode decoded
  cases mark : Encoding.byteOrderMark? bytes with
  | none =>
      rw [mark] at known
      rw [Encoding.withoutMark_of_byteOrderMark?_eq_none mark]
      exact Encoding.spells_of_decode? listed splittable.notUtf16 splittable.unescaped known
  | some found =>
      obtain ⟨marked, rest⟩ := found
      rw [mark] at known
      obtain ⟨rfl, rfl⟩ := splittable.front marked rest mark
      rw [Encoding.withoutMark_of_byteOrderMark?_utf8 mark]
      exact Encoding.isChunked_decodeUtf8?.spells rest text.toList known

theorem isSeparator_delimiter (path : Path) : isSeparator (TableFile.delimiter path) = true := by
  unfold TableFile.delimiter
  split <;> rfl

theorem eq_utf8OfChars_of_spells {row : List (List UInt8)} {cells : List (List Char)}
    (spelled : List.Forall₂ (Spells decodeUtf8?) row cells) : row = cells.map utf8OfChars := by
  rw [← List.forall₂_eq_eq_eq, List.forall₂_map_right_iff]
  refine spelled.imp fun field cs cell => Encoding.decodeUtf8?_eq_some_iff.mp ?_
  exact cell.decode?_eq Encoding.isChunked_decodeUtf8?.empty

theorem unmarked_of_spells {decode? : List UInt8 → Option (List Char)}
    (empty : decode? [] = some []) {fields : List (List UInt8)} {cells : List (List Char)}
    (spelled : List.Forall₂ (Spells decode?) fields cells)
    (plain : ∀ field ∈ fields, ∀ rest, decode? field ≠ some (byteOrderMark :: rest)) :
    ∀ cs ∈ cells, unmarked cs = cs := by
  induction spelled with
  | nil => nofun
  | cons cell _ ih =>
      rw [List.forall_mem_cons] at plain ⊢
      refine ⟨unmarked_eq_self fun rest same => plain.1 rest ?_, ih plain.2⟩
      rw [cell.decode?_eq empty, same]

theorem ofBytes_of_spells_utf8 {name : String} {grid : List (List (List Char))}
    (cells : List.Forall₂ (List.Forall₂ (Spells decodeUtf8?))
      (Delimited.read delimiter bytes) grid) :
    ofBytes name delimiter .utf8 bytes = .ok (padded name (textsOf grid)) := by
  apply ofBytes_utf8OfChars
  rw [← List.forall₂_eq_eq_eq, List.forall₂_map_right_iff]
  exact cells.imp fun row cells spelled => eq_utf8OfChars_of_spells spelled

theorem ofBytes_of_spells {name : String} (empty : encoding.decode? [] = some [])
    {grid : List (List (List Char))}
    (cells : List.Forall₂ (List.Forall₂ (Spells encoding.decode?))
      (Delimited.read delimiter bytes) grid)
    (fields : ∀ record ∈ Delimited.read delimiter bytes, ∀ field ∈ record,
      Encoding.byteOrderMark? field = none)
    (later : ∀ field ∈ laterCells (Delimited.read delimiter bytes),
      ∀ rest, encoding.decode? field ≠ some (byteOrderMark :: rest)) :
    ofBytes name delimiter encoding bytes = .ok (padded name (textsOf grid)) := by
  rw [← withoutLeadingMarks_map (unmarked_of_spells empty (forall₂_laterCells cells) later)]
  apply ofBytes_of_forall₂
  rw [List.forall₂_map_right_iff]
  refine ((List.forall₂_and_left _ _).mpr ⟨fields, cells⟩).imp fun record row ⟨plain, spelled⟩ => ?_
  rw [List.forall₂_map_right_iff]
  refine ((List.forall₂_and_left _ _).mpr ⟨plain, spelled⟩).imp fun field cs ⟨plain, cell⟩ => ?_
  simp [Encoding.decode, plain, cell.decode?_eq empty]

/-- The sheet of a table is that of its text in UTF-8. -/
theorem ofBytes_utf8 {name text : String} {label : Option String} {path : Path}
    (asked : Encoding.ofOptionalLabel label = .ok encoding)
    (decoded : encoding.decode bytes = .ok text)
    (splittable : IsSplittable encoding (TableFile.delimiter path) bytes text) :
    ∃ sheet, ofBytes name (TableFile.delimiter path) encoding bytes = .ok sheet ∧
      ofBytes name (TableFile.delimiter path) .utf8 (Text.utf8 text) = .ok sheet := by
  have listed := Encoding.mem_all_of_ofOptionalLabel asked
  have separates := isSeparator_delimiter path
  have spelled := spells_of_isSplittable listed splittable decoded
  obtain ⟨grid, cells, written⟩ := exists_grid (spelled.forall₂_finish separates)
  obtain ⟨other, split, same⟩ := exists_grid_utf8 separates splittable.opening written
  refine ⟨padded name (textsOf grid), ?_, ?_⟩
  · by_cases plain : encoding = .utf8
    · subst plain
      exact ofBytes_of_spells_utf8 cells
    · exact ofBytes_of_spells (Encoding.decode?_nil listed) cells (splittable.unmarked plain)
        (splittable.later plain)
  · rw [Text.utf8_eq, ofBytes_utf8OfChars split, same]

/-- A table with a mark in front, a character of four bytes and quoted separators. -/
theorem ofBytes_utf8_gb18030 :
    let bytes : List UInt8 := [0x84, 0x31, 0x95, 0x33, 0x41, 0x2C, 0x22, 0x81, 0x36, 0xB3, 0x32,
      0x2C, 0x22, 0x22, 0x22, 0x0A]
    let text := "\uFEFFA,\"₭,\"\"\"\n"
    let path : Path := ⟨"rates.csv"⟩
    Encoding.ofOptionalLabel (some "GB18030") = .ok .gb18030 ∧
      Encoding.gb18030.decode bytes = .ok text ∧
      IsSplittable .gb18030 (TableFile.delimiter path) bytes text ∧
      ∃ sheet, ofBytes "rates" (TableFile.delimiter path) .gb18030 bytes = .ok sheet ∧
        ofBytes "rates" (TableFile.delimiter path) .utf8 (Text.utf8 text) = .ok sheet := by
  intro bytes text path
  have asked : Encoding.ofOptionalLabel (some "GB18030") = .ok .gb18030 := by rfl
  have decoded : Encoding.gb18030.decode bytes = .ok text := by decide +kernel
  have apart (other : Encoding) (names : Encoding.gb18030.name ≠ other.name) :
      Encoding.gb18030 ≠ other := fun same => names (congrArg Encoding.name same)
  have plain : ∀ field ∈ laterCells (Delimited.read (TableFile.delimiter path) bytes),
      (Encoding.gb18030.decode? field).bind List.head? ≠ some byteOrderMark := by decide +kernel
  have splittable : IsSplittable .gb18030 (TableFile.delimiter path) bytes text := by
    constructor
    case notUtf16 => exact ⟨apart _ (by decide), apart _ (by decide)⟩
    case unescaped => exact fun same => absurd same (apart _ (by decide))
    case opening =>
      intro rest opens
      have first : text.toList = byteOrderMark :: 'A' :: text.toList.drop 2 := by decide +kernel
      rw [first] at opens
      exact ⟨'A', _, (List.cons.inj opens).2.symm, by decide⟩
    case front => exact fun marked rest found => nomatch found
    case unmarked => exact fun _ => by decide +kernel
    case later => exact fun _ field member rest same => plain field member (by rw [same]; rfl)
  exact ⟨asked, decoded, splittable, ofBytes_utf8 asked decoded splittable⟩

/-- UTF-16, escapes and byte order marks inside of a table: the fields are not those of the
whole text. -/
theorem ofBytes_utf8_not_all :
    let differ (encoding : Encoding) (bytes : List UInt8) (text : String) : Prop :=
      encoding.decode bytes = .ok text ∧
        ¬ ∃ sheet, ofBytes "T" 0x2C encoding bytes = .ok sheet ∧
          ofBytes "T" 0x2C .utf8 (Text.utf8 text) = .ok sheet
    Encoding.ofOptionalLabel (some "utf-16le") = .ok .utf16Le ∧
      differ .utf16Le [0x41, 0x00, 0x2C, 0x00, 0x42, 0x00] "A,B" ∧
      differ .utf16Be [0x00, 0x41, 0x00, 0x2C, 0x00, 0x42] "A,B" ∧
      differ .iso2022Jp [0x1B, 0x28, 0x49, 0x31, 0x2C, 0x32, 0x1B, 0x28, 0x42] "ｱｬｲ" ∧
      differ .xUserDefined [0x41, 0x2C, 0xFF, 0xFE, 0x42, 0x00] "A,\uF7FF\uF7FEB\u0000" ∧
      differ .gb18030 [0x41, 0x2C, 0x84, 0x31, 0x95, 0x33, 0x42] "A,\uFEFFB" ∧
      differ .utf8 [0xEF, 0xBB, 0xBF, 0xEF, 0xBB, 0xBF, 0x22, 0x41, 0x22] "\uFEFF\"A\"" ∧
      differ .xUserDefined [0xEF, 0xBB, 0xBF, 0xC3, 0xA9] "é" ∧
      differ .utf8 [0xFF, 0xFE, 0x41, 0x00, 0x2C, 0x00, 0x42, 0x00] "A,B" := by
  intro differ
  have apart {encoding : Encoding} {bytes : List UInt8} {text : String}
      (decoded : encoding.decode bytes = .ok text)
      (other : ofBytes "T" 0x2C encoding bytes ≠ ofBytes "T" 0x2C .utf8 (Text.utf8 text)) :
      differ encoding bytes text :=
    ⟨decoded, fun ⟨sheet, here, there⟩ => other (here.trans there.symm)⟩
  refine ⟨by rfl, apart ?_ ?_, apart ?_ ?_, apart ?_ ?_, apart ?_ ?_, apart ?_ ?_, apart ?_ ?_,
    apart ?_ ?_, apart ?_ ?_⟩ <;> decide +kernel

end SheetCompiler.Sheet
