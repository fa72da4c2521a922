import SheetCompiler.Proofs.Condition.Binding
import SheetCompiler.Proofs.Condition.Names
import SheetCompiler.Proofs.Localization.KeyShape
import SheetCompiler.Proofs.Sheet.Grid
import SheetCompiler.Validation.Declaration

/-!
# Rules and the suffixes of keys

Which suffix a key gets depends on the keys that are taken already. Rules see keys where
texts have been moved, and most of them do not notice: a key is present, it is no number
whatever its suffix, and a condition that does not name the field cannot tell.
-/

set_option autoImplicit false

namespace SheetCompiler

open Text

/-! ## Keys in cells -/

namespace Localization

/-- What a cell reads whose text has been moved. -/
def IsMark (text : String) : Prop := ∃ key, IsKey key ∧ text = keyMark ++ key

/-- Two such cells for the same text, whose keys differ in their suffixes alone. -/
def SameBase (text other : String) : Prop :=
  ∃ base n m, IsKey base ∧ text = keyMark ++ LocalizationTable.suffixed base n ∧
    other = keyMark ++ LocalizationTable.suffixed base m

variable {text other : String}

/-- A check that fails all keys of a text or none of them. -/
def IgnoresSuffixes (failure? : String → Option String) : Prop :=
  ∀ text other, SameBase text other → (failure? other).isSome = (failure? text).isSome

theorem SameBase.isMark (same : SameBase text other) : IsMark text ∧ IsMark other := by
  obtain ⟨base, n, m, shape, left, right⟩ := same
  exact ⟨⟨_, shape.suffixed n, left⟩, ⟨_, shape.suffixed m, right⟩⟩

namespace IsMark

theorem trimmed_eq (mark : IsMark text) : trimmed text = text := by
  obtain ⟨key, shape, rfl⟩ := mark
  exact shape.trimmed_mark

theorem trim_toList (mark : IsMark text) : trim text.toList = text.toList := by
  have trims := congrArg String.toList mark.trimmed_eq
  rwa [trimmed, String.toList_ofList] at trims

theorem isKeyed (mark : IsMark text) : IsKeyed text.toList := by
  obtain ⟨key, shape, rfl⟩ := mark
  exact shape.keyed_mark

theorem visible (mark : IsMark text) : isBlankText text = false := by
  obtain ⟨key, -, rfl⟩ := mark
  exact visible_mark key

theorem toList_eq (mark : IsMark text) : ∃ rest, text.toList = 'L' :: rest := by
  obtain ⟨key, -, rfl⟩ := mark
  exact ⟨_, String.toList_append⟩

theorem isEmpty_eq (mark : IsMark text) : text.isEmpty = false := by
  have visible := mark.visible
  rw [isBlankText] at visible
  cases blank : text.isEmpty with
  | false => rfl
  | true =>
      rw [String.isEmpty_iff.mp blank] at visible
      cases visible

end IsMark

end Localization

/-! ## Checks -/

namespace Check

variable {check : Check} {text other : String}

theorem failure?_mark (check : Check) (mark : Localization.IsMark text) :
    check.failure? text = check.presentFailure? text := by
  unfold failure?
  dsimp only
  rw [mark.trimmed_eq, mark.isEmpty_eq]
  rfl

theorem ignoresSuffixes_required : Localization.IgnoresSuffixes required.failure? := by
  intro text other same
  rw [failure?_mark _ same.isMark.1, failure?_mark _ same.isMark.2]
  rfl

/-- A text that starts like a key is no number. -/
theorem read?_of_mark {rest : List Char} : Decimal.read? ('L' :: rest) = none := by
  have lower : lower ('L' :: rest) = 'l' :: lower rest := rfl
  have signless : Decimal.sign ('L' :: rest) = (false, 'L' :: rest) := rfl
  have parts : Decimal.parts? ('L' :: rest) = none := rfl
  have word (other : String) (starts : other.toList.head? ≠ some 'l') :
      (String.ofList ('l' :: Text.lower rest) == other) = false := by
    rw [beq_eq_false_iff_ne]
    rintro rfl
    rw [String.toList_ofList] at starts
    exact starts rfl
  unfold Decimal.read?
  rw [signless]
  dsimp only
  rw [lower, parts, word "inf" (by decide), word "infinity" (by decide), word "nan" (by decide)]
  rfl

theorem trimmedPieces_mark (mark : Localization.IsMark text) :
    trimmedPieces (fun c => c == ',' || c == ';') text.toList = [text.toList] := by
  have plain (c : Char) (member : c ∈ text.toList) : (c == ',' || c == ';') = false := by
    have inside := mark.isKeyed c member
    rw [Bool.or_eq_false_iff, beq_eq_false_iff_ne, beq_eq_false_iff_ne]
    constructor <;> rintro rfl <;> exact absurd inside (by decide)
  obtain ⟨rest, starts⟩ := mark.toList_eq
  rw [trimmedPieces, pieces_eq_singleton plain, List.map_singleton, mark.trim_toList,
    starts]
  rfl

/-- No key is a number, so it fails every range. -/
theorem ignoresSuffixes_range (least greatest : Binary64) (inclusive : Bool) :
    Localization.IgnoresSuffixes (range least greatest inclusive).failure? := by
  have fails (text : String) (mark : Localization.IsMark text) :
      ((range least greatest inclusive).failure? text).isSome = true := by
    obtain ⟨rest, starts⟩ := mark.toList_eq
    rw [failure?_mark _ mark, presentFailure?, trimmedPieces_mark mark, List.findSome?_singleton,
      elementFailure?, starts, read?_of_mark]
    rfl
  intro text other same
  rw [fails text same.isMark.1, fails other same.isMark.2]

end Check

/-! ## Rows -/

/-- Two texts of a field that are equal, or keys of one text in a field whose texts move. -/
def TextsAlike (moved : List String) (name text other : String) : Prop :=
  other = text ∨ name ∈ moved ∧ Localization.SameBase text other

/-- Two cells of a field with such texts. Only texts move. -/
structure CellsAlike (moved : List String) (cell other : Field × String) : Prop where
  field : other.1 = cell.1
  text : other.2 = cell.2 ∨
    cell.1.name ∈ moved ∧ cell.1.type = .scalar .string ∧ Localization.SameBase cell.2 other.2

theorem CellsAlike.texts {moved : List String} {cell other : Field × String}
    (alike : CellsAlike moved cell other) : TextsAlike moved cell.1.name cell.2 other.2 :=
  alike.text.imp id fun ⟨moves, _, same⟩ => ⟨moves, same⟩

/-- Rows that differ in the suffixes of keys, in fields whose texts move. -/
structure DataRow.Alike (moved : List String) (row other : DataRow) : Prop where
  index : other.index = row.index
  cells : List.Forall₂ (CellsAlike moved) row.cells other.cells

namespace Condition.Bindings

variable {bindings others : Bindings} {moved : List String}

/-- Bindings of the same types, and of the same values but for some names. -/
structure AgreeOff (moved : List String) (bindings others : Bindings) : Prop where
  types : ∀ name, (others.get? name).map Operand.type = (bindings.get? name).map Operand.type
  values : ∀ name, name ∉ moved → others.get? name = bindings.get? name

theorem AgreeOff.refl (moved : List String) (bindings : Bindings) :
    AgreeOff moved bindings bindings := ⟨fun _ => rfl, fun _ _ => rfl⟩

/-- Values of one type are bound alike. -/
theorem AgreeOff.bind? (agree : AgreeOff moved bindings others) (name : String) {x y : Operand}
    (type : y.type = x.type) (value : name ∉ moved → y = x) :
    (bindings.bind? name x = none ∧ others.bind? name y = none) ∨
      ∃ former later, bindings.bind? name x = some former ∧ others.bind? name y = some later ∧
        AgreeOff moved former later := by
  rw [bind?_eq, bind?_eq, agree.types name, type]
  split
  · refine .inr ⟨_, _, rfl, rfl, fun other => ?_, fun other kept => ?_⟩
    · rw [get?_cons, get?_cons]
      split
      · exact congrArg some type
      · exact agree.types other
    · rw [get?_cons, get?_cons]
      split
      · rename_i same
        exact congrArg some (value (same ▸ kept))
      · exact agree.values other kept
  · exact .inl ⟨rfl, rfl⟩

end Condition.Bindings

namespace DataRow

open Condition (Bindings Operand)

variable {moved : List String} {row other : DataRow} {cells others : List (Field × String)}

/-- In a condition a key stands for itself. -/
theorem operandOf_mark {text : String} (mark : Localization.IsMark text) :
    operandOf (.scalar .string) text = .text text := by
  have visible : text.toList.all isBlank = false := mark.visible
  obtain ⟨rest, starts⟩ := mark.toList_eq
  have read : Value.ofCell (.scalar .string) text = .ok (.text text) := by
    unfold Value.ofCell
    dsimp only
    rw [visible, if_neg Bool.false_ne_true, Value.ofElement, mark.trim_toList, String.ofList_toList,
      starts]
    rfl
  rw [operandOf, read]
  rfl

theorem operandOf_alike {cell other : Field × String} (alike : CellsAlike moved cell other) :
    (operandOf other.1.type other.2).type = (operandOf cell.1.type cell.2).type ∧
      (cell.1.name ∉ moved → operandOf other.1.type other.2 = operandOf cell.1.type cell.2) := by
  rw [alike.field]
  rcases alike.text with same | ⟨moves, type, same⟩
  · rw [same]
    exact ⟨rfl, fun _ => rfl⟩
  · rw [type, operandOf_mark same.isMark.1, operandOf_mark same.isMark.2]
    exact ⟨rfl, fun kept => absurd moves kept⟩

theorem bindCells_alike {bindings bound : Bindings}
    (alike : List.Forall₂ (CellsAlike moved) cells others) (agree : bindings.AgreeOff moved bound) :
    (∃ clash, bindCells bindings cells = .error clash ∧ bindCells bound others = .error clash) ∨
      ∃ former later, bindCells bindings cells = .ok former ∧ bindCells bound others = .ok later ∧
        former.AgreeOff moved later := by
  induction alike generalizing bindings bound with
  | nil => exact .inr ⟨bindings, bound, rfl, rfl, agree⟩
  | @cons cell other cells others same rest ih =>
      obtain ⟨type, value⟩ := operandOf_alike same
      rw [bindCells, bindCells, same.field] at *
      rcases agree.bind? cell.1.name type value with ⟨left, right⟩ | ⟨_, _, left, right, agree⟩
      · rw [left, right]
        exact .inl ⟨_, rfl, rfl⟩
      · rw [left, right]
        exact ih agree

theorem Alike.bindings_agree (alike : row.Alike moved other) :
    (∃ clash, row.bindings = .error clash ∧ other.bindings = .error clash) ∨
      ∃ former later, row.bindings = .ok former ∧ other.bindings = .ok later ∧
        former.AgreeOff moved later := by
  have number : other.number = row.number := by rw [number, alike.index, number]
  unfold bindings
  rw [number]
  rcases bindCells_alike alike.cells (.refl moved .empty) with
    ⟨clash, left, right⟩ | ⟨former, later, left, right, agree⟩
  · rw [left, right]
    exact .inl ⟨clash, rfl, rfl⟩
  · rw [left, right]
    simp only [bind, Except.bind]
    rcases agree.bind? "row_number" rfl fun _ => rfl with
      ⟨left, right⟩ | ⟨_, _, left, right, agree⟩
    · rw [left, right]
      exact .inl ⟨_, rfl, rfl⟩
    · rw [left, right]
      exact .inr ⟨_, _, rfl, rfl, agree⟩

/-- A condition that names no field whose texts move does not see keys. -/
theorem Alike.satisfies_eq (alike : row.Alike moved other) {condition : String}
    (unread : ∀ name ∈ Condition.namesOf condition, name ∉ moved) :
    other.satisfies condition = row.satisfies condition := by
  unfold satisfies
  rcases alike.bindings_agree with ⟨clash, left, right⟩ | ⟨former, later, left, right, agree⟩
  · rw [left, right]
  · rw [left, right]
    exact congrArg (Option.getD · false)
      (Condition.holds?_congr fun name named => agree.values name (unread name named))

theorem textsAlike_find? (name : String) (alike : List.Forall₂ (CellsAlike moved) cells others) :
    TextsAlike moved name
      (((cells.find? fun cell => cell.1.name == name).map (·.2)).getD "")
      (((others.find? fun cell => cell.1.name == name).map (·.2)).getD "") := by
  induction alike with
  | nil => exact .inl rfl
  | @cons cell other cells others same rest ih =>
      rw [List.find?_cons, List.find?_cons, same.field]
      split
      · rename_i found
        rw [← eq_of_beq found]
        exact same.texts
      · exact ih

theorem Alike.text?_alike (alike : row.Alike moved other) (name : String) :
    TextsAlike moved name ((row.text? name).getD "") ((other.text? name).getD "") :=
  textsAlike_find? name alike.cells

end DataRow

end SheetCompiler
