import SheetCompiler.Localization.Table
import SheetCompiler.Proofs.Delimited.Lines
import SheetCompiler.Proofs.Sheet.Reading

/-!
# Sheets from lines

A grid that is written line by line reads back as it was, as long as no row is a single
empty cell. The line of such a row is blank, and the rows below it move up. A written
localization table has four columns and so always reads back.
-/

set_option autoImplicit false

namespace SheetCompiler.Sheet

open Delimited (IsDelimiter gridText lineText cellTexts cellText)
open Encoding (asciiChar)
open Text (utf8OfChars)

variable {delimiter : UInt8} {name : String} {rows : List (List String)} {width : Nat}

/-! ## Rectangles -/

theorem foldl_max_eq {counts : List Nat} {least : Nat} (same : ∀ count ∈ counts, count = width)
    (below : least ≤ width) (some : counts ≠ []) : counts.foldl max least = width := by
  induction counts generalizing least with
  | nil => contradiction
  | cons count counts ih =>
      rw [List.forall_mem_cons] at same
      obtain ⟨rfl, later⟩ := same
      rw [List.foldl_cons, Nat.max_eq_right below]
      cases counts with
      | nil => rfl
      | cons => exact ih later (Nat.le_refl _) (by simp)

/-- There is nothing to fill in a rectangle. -/
theorem padded_eq_self (rectangular : ∀ row ∈ rows, row.length = width) :
    padded name rows = ⟨name, rows⟩ := by
  refine congrArg (Sheet.mk name) ((List.map_congr_left fun row member => ?_).trans rows.map_id)
  have widest : (rows.map List.length).foldl max 0 = width :=
    foldl_max_eq (List.forall_mem_map.mpr rectangular) (Nat.zero_le _)
      (List.map_eq_nil_iff.not.mpr (List.ne_nil_of_mem member))
  simp [padRow, widest, rectangular row member]

/-! ## Byte order marks -/

/-- No byte order mark stands in front of a cell. -/
def IsUnmarked (cs : List Char) : Prop := cs.head? ≠ some byteOrderMark

instance (cs : List Char) : Decidable (IsUnmarked cs) :=
  inferInstanceAs (Decidable (cs.head? ≠ some byteOrderMark))

theorem IsUnmarked.unmarked_eq {cs : List Char} (plain : IsUnmarked cs) : unmarked cs = cs :=
  unmarked_eq_self fun rest marked => plain (by rw [marked]; rfl)

theorem IsUnmarked.withoutMarks_eq {cs : List Char} (plain : IsUnmarked cs) :
    withoutMarks (String.ofList cs) = String.ofList cs := by
  unfold withoutMarks
  rw [String.toList_ofList]
  cases cs with
  | nil => rfl
  | cons c cs =>
      have apart : c ≠ byteOrderMark := fun mark => plain (by rw [mark]; rfl)
      rw [List.dropWhile_cons_of_neg (by simpa using apart)]

theorem textsOf_eq_map {grid : List (List (List Char))}
    (plain : ∀ row ∈ grid, ∀ cs ∈ row, IsUnmarked cs) :
    textsOf grid = grid.map (List.map String.ofList) := by
  have kept : (grid.map (List.map fun cs => String.ofList (unmarked cs)))
      = grid.map (List.map String.ofList) :=
    List.map_congr_left fun row member => List.map_congr_left fun cs inside => by
      rw [(plain row member cs inside).unmarked_eq]
  rw [textsOf, kept]
  rcases grid with _ | ⟨_ | ⟨cs, cells⟩, rows⟩
  · rfl
  · rfl
  · have first : IsUnmarked cs := plain _ List.mem_cons_self cs List.mem_cons_self
    simp [withoutLeadingMarks, first.withoutMarks_eq]

theorem isUnmarked_cellText (delimiter : UInt8) {cs : List Char} (plain : IsUnmarked cs)
    {c : Char} (next : c ≠ byteOrderMark) (rest : List Char) :
    IsUnmarked (cellText delimiter cs ++ c :: rest) := by
  unfold cellText
  split
  · exact fun marked => absurd (Option.some.inj marked) (by decide)
  · cases cs with
    | nil => exact fun marked => next (Option.some.inj marked)
    | cons first cs => exact plain

/-- The text of a grid begins with a mark only where its first cell does. -/
theorem isUnmarked_lines (separates : IsDelimiter delimiter) {grid : List (List (List Char))}
    (some : ∀ row ∈ grid, row ≠ []) (plain : ∀ row ∈ grid, ∀ cs ∈ row, IsUnmarked cs) :
    IsUnmarked (grid.flatMap (lineText delimiter)) := by
  have apart : asciiChar delimiter ≠ byteOrderMark := by
    intro same
    have code := congrArg Char.toNat same
    have small := UInt8.lt_iff_toNat_lt.mp separates.ascii
    have mark : byteOrderMark.toNat = 0xFEFF := rfl
    have bound : (0x80 : UInt8).toNat = 0x80 := rfl
    rw [Encoding.toNat_asciiChar] at code
    omega
  match grid, some, plain with
  | [], _, _ => exact nofun
  | [] :: _, some, _ => exact absurd rfl (some _ List.mem_cons_self)
  | [cs] :: rows, _, plain =>
      have first : IsUnmarked cs := plain _ List.mem_cons_self cs List.mem_cons_self
      have opens := isUnmarked_cellText delimiter first (show '\n' ≠ byteOrderMark by decide)
        (rows.flatMap (lineText delimiter))
      simpa [lineText, cellTexts] using opens
  | (cs :: next :: cells) :: rows, _, plain =>
      have first : IsUnmarked cs := plain _ List.mem_cons_self cs List.mem_cons_self
      have opens := isUnmarked_cellText delimiter first apart
        (cellTexts delimiter (next :: cells) ++ '\n' :: rows.flatMap (lineText delimiter))
      simpa [lineText, cellTexts] using opens

/-! ## Grids -/

theorem read_lines (separates : IsDelimiter delimiter) {grid : List (List (List Char))}
    (some : ∀ row ∈ grid, row ≠ []) (plain : ∀ row ∈ grid, ∀ cs ∈ row, IsUnmarked cs) :
    Delimited.read delimiter (utf8OfChars (grid.flatMap (lineText delimiter)))
      = (grid.filter (· ≠ [[]])).map (List.map utf8OfChars) := by
  have opening := (isUnmarked_lines separates some plain).unmarked_eq
  have lines := Delimited.Cursor.readText_lines separates [] some
  rw [Delimited.read, withoutMark_utf8OfChars, opening]
  change (((Delimited.Cursor.between []).readText delimiter _).finish) = _
  rw [lines]
  simp [Delimited.Cursor.finish, Delimited.Cursor.between]

theorem map_filter_toList (rows : List (List String)) :
    (((rows.map (List.map String.toList)).filter (· ≠ [[]])).map (List.map String.ofList))
      = rows.filter (· ≠ [""]) := by
  rw [List.filter_map, List.map_map]
  have same : rows.filter ((fun row : List (List Char) => decide (row ≠ [[]])) ∘
      List.map String.toList) = rows.filter (· ≠ [""]) :=
    List.filter_congr fun row _ => by simp
  rw [same]
  exact (List.map_congr_left fun row _ => by simp).trans (List.map_id _)

/-- A grid that is written line by line loses its rows of a single empty cell, and nothing
else. -/
theorem ofBytes_lines (separates : IsDelimiter delimiter) (wide : 0 < width)
    (rectangular : ∀ row ∈ rows, row.length = width)
    (plain : ∀ row ∈ rows, ∀ cell ∈ row, IsUnmarked cell.toList) :
    ofBytes name delimiter .utf8 (Text.utf8 (gridText delimiter rows))
      = .ok ⟨name, rows.filter (· ≠ [""])⟩ := by
  let grid := rows.map (List.map String.toList)
  have unmarked : ∀ row ∈ grid, ∀ cs ∈ row, IsUnmarked cs :=
    List.forall_mem_map.mpr fun row member => List.forall_mem_map.mpr (plain row member)
  have some : ∀ row ∈ grid, row ≠ [] := by
    refine List.forall_mem_map.mpr fun row member empty => ?_
    rw [← rectangular row member, List.map_eq_nil_iff.mp empty] at wide
    cases wide
  have text : gridText delimiter rows = String.ofList (grid.flatMap (lineText delimiter)) :=
    congrArg String.ofList (List.flatMap_map ..).symm
  have kept : ∀ row ∈ grid.filter (· ≠ [[]]), ∀ cs ∈ row, IsUnmarked cs :=
    fun row member => unmarked row (List.mem_filter.mp member).1
  have within : ∀ row ∈ rows.filter (· ≠ [""]), row.length = width :=
    fun row member => rectangular row (List.mem_filter.mp member).1
  rw [text, Text.utf8_ofList, ofBytes_utf8OfChars (read_lines separates some unmarked),
    textsOf_eq_map kept, map_filter_toList, padded_eq_self within]

/-- A grid that is written line by line is read back, but for rows of a single empty cell.
Only a table of one column has such rows. -/
theorem ofBytes_gridText (name : String) (delimiter : UInt8) (separates : IsDelimiter delimiter)
    (rows : List (List String)) (width : Nat) (wide : 0 < width)
    (rectangular : ∀ row ∈ rows, row.length = width)
    (plain : ∀ row ∈ rows, ∀ cell ∈ row, IsUnmarked cell.toList) :
    ofBytes name delimiter .utf8 (Text.utf8 (gridText delimiter rows))
        = .ok ⟨name, rows.filter (· ≠ [""])⟩ ∧
      (ofBytes name delimiter .utf8 (Text.utf8 (gridText delimiter rows)) = .ok ⟨name, rows⟩ ↔
        (width = 1 → [""] ∉ rows)) := by
  have read : ofBytes name delimiter .utf8 (Text.utf8 (gridText delimiter rows)) = _ :=
    ofBytes_lines separates wide rectangular plain
  refine ⟨read, ?_⟩
  rw [read]
  constructor
  · intro same single blank
    have rows_eq := congrArg Sheet.rows (Except.ok.inj same)
    exact of_decide_eq_true (List.filter_eq_self.mp rows_eq _ blank) rfl
  · intro columns
    have kept : ∀ row ∈ rows, row ≠ [""] := by
      rintro row member rfl
      exact columns (rectangular _ member).symm member
    rw [List.filter_eq_self.mpr fun row member => decide_eq_true (kept row member)]

/-- Delimiters, quotes and line breaks in cells, empty cells, a blank row and a mark that is not
in front. -/
theorem ofBytes_gridText_tabs :
    let rows : List (List String) :=
      [["Id", "No\tte@\"PM\""], ["int", ""], ["", ""], ["", " \r\n"], ["\"", "a\uFEFF,\t"]]
    IsDelimiter 0x09 ∧ (∀ row ∈ rows, row.length = 2) ∧
      (∀ row ∈ rows, ∀ cell ∈ row, IsUnmarked cell.toList) ∧
      ofBytes "Item" 0x09 .utf8 (Text.utf8 (gridText 0x09 rows)) = .ok ⟨"Item", rows⟩ := by
  intro rows
  have separates : IsDelimiter 0x09 := ⟨by decide, by decide, by decide⟩
  have rectangular : ∀ row ∈ rows, row.length = 2 := by decide
  have plain : ∀ row ∈ rows, ∀ cell ∈ row, IsUnmarked cell.toList := by decide +kernel
  have read := ofBytes_gridText "Item" 0x09 separates rows 2 (by decide) rectangular plain
  exact ⟨separates, rectangular, plain, read.2.mpr fun single => nomatch single⟩

/-- The blank header rows of a table of one column are lost, and its first record stands in the
place of the descriptions. -/
theorem ofBytes_gridText_not_all :
    let rows : List (List String) := [["Id"], ["int"], [""], [""], ["1"], ["2"]]
    (∀ row ∈ rows, row.length = 1) ∧ (∀ row ∈ rows, ∀ cell ∈ row, IsUnmarked cell.toList) ∧
      ofBytes "Item" 0x2C .utf8 (Text.utf8 (gridText 0x2C rows)) ≠ .ok ⟨"Item", rows⟩ ∧
      ofBytes "Item" 0x2C .utf8 (Text.utf8 (gridText 0x2C rows))
        = .ok ⟨"Item", [["Id"], ["int"], ["1"], ["2"]]⟩ := by
  decide +kernel

end SheetCompiler.Sheet

namespace SheetCompiler

def LocalizationEntry.texts (entry : LocalizationEntry) : List String :=
  [entry.key, entry.text, entry.table, entry.field]

namespace LocalizationTable

open Sheet (IsUnmarked)

def headings : List String := ["key", "text", "table", "field"]

/-- A localization table with its headings, row by row. -/
def rows (table : LocalizationTable) : List (List String) :=
  headings :: table.entries.map LocalizationEntry.texts

theorem length_of_mem_rows (table : LocalizationTable) : ∀ row ∈ table.rows, row.length = 4 :=
  List.forall_mem_cons.mpr ⟨rfl, List.forall_mem_map.mpr fun _ _ => rfl⟩

theorem toDelimited_eq_gridText (table : LocalizationTable) :
    table.toDelimited = Delimited.gridText 0x2C table.rows :=
  Delimited.write_eq_gridText fun blank => nomatch table.length_of_mem_rows _ blank

/-- A written localization table reads back to its headings and its entries in their order. -/
theorem ofBytes_toDelimited (name : String) (table : LocalizationTable)
    (plain : ∀ entry ∈ table.entries, ∀ text ∈ entry.texts, IsUnmarked text.toList) :
    ∃ sheet, Sheet.ofBytes name 0x2C .utf8 (Text.utf8 table.toDelimited) = .ok sheet ∧
      sheet.columnCount = 4 ∧ (∀ row ∈ sheet.rows, row.length = 4) ∧
      sheet.rows = ["key", "text", "table", "field"] ::
        table.entries.map fun entry => [entry.key, entry.text, entry.table, entry.field] := by
  have separates : Delimited.IsDelimiter 0x2C := ⟨by decide, by decide, by decide⟩
  have unmarked : ∀ row ∈ table.rows, ∀ cell ∈ row, IsUnmarked cell.toList := by
    refine List.forall_mem_cons.mpr ⟨by decide +kernel, ?_⟩
    exact List.forall_mem_map.mpr plain
  have kept : ∀ row ∈ table.rows, row ≠ [""] := by
    rintro row member rfl
    exact absurd (table.length_of_mem_rows _ member) (by decide)
  have read : Sheet.ofBytes name 0x2C .utf8 (Text.utf8 (Delimited.gridText 0x2C table.rows)) = _ :=
    Sheet.ofBytes_lines separates (by decide) table.length_of_mem_rows unmarked
  rw [List.filter_eq_self.mpr fun row member => decide_eq_true (kept row member)] at read
  rw [toDelimited_eq_gridText]
  exact ⟨_, read, rfl, table.length_of_mem_rows, rfl⟩

/-- Entries with commas, quotes, line breaks and blank texts, one of them all empty. -/
theorem ofBytes_toDelimited_separators :
    let table : LocalizationTable :=
      ⟨[⟨"NAME_A", "a, \"b\"\r\nc", "Item", "Name"⟩, ⟨"", "", "", ""⟩,
        ⟨"名_1", " \n", "It,em", "\""⟩], .empty⟩
    (∀ entry ∈ table.entries, ∀ text ∈ entry.texts, IsUnmarked text.toList) ∧
      ∃ sheet, Sheet.ofBytes "localization" 0x2C .utf8 (Text.utf8 table.toDelimited) = .ok sheet ∧
        sheet.columnCount = 4 ∧ (∀ row ∈ sheet.rows, row.length = 4) ∧
        sheet.rows = ["key", "text", "table", "field"] ::
          [["NAME_A", "a, \"b\"\r\nc", "Item", "Name"], ["", "", "", ""],
            ["名_1", " \n", "It,em", "\""]] := by
  intro table
  have plain : ∀ entry ∈ table.entries, ∀ text ∈ entry.texts, IsUnmarked text.toList := by
    decide +kernel
  exact ⟨plain, ofBytes_toDelimited "localization" table plain⟩

end LocalizationTable

end SheetCompiler
