import Mathlib.Data.List.Basic
import SheetCompiler.Proofs.Text.Pieces

/-!
# Blanks around a text

A text is its trimmed form between two runs of blanks, and no such runs change the form.
-/

set_option autoImplicit false

namespace SheetCompiler.Text

/-- A text of blanks alone. -/
def Blanks (cs : List Char) : Prop := ∀ c ∈ cs, isBlank c = true

variable {cs before after : List Char}

theorem blanks_nil : Blanks [] := nofun

theorem Blanks.append (former : Blanks before) (later : Blanks after) :
    Blanks (before ++ after) := by
  intro c member
  rcases List.mem_append.mp member with here | there
  · exact former c here
  · exact later c there

/-- What stands before the only blank of a text is found from where that blank is. -/
theorem eq_of_append_blank {front head tail : List Char} {c d : Char}
    (plain : ∀ e ∈ front, isBlank e = false) (blank : isBlank c = true)
    (same : head ++ c :: tail = front ++ [d]) : head = front := by
  rcases List.append_eq_append_iff.mp same with ⟨middle, start, rest⟩ | ⟨middle, start, rest⟩
  · cases middle with
    | nil => exact (start.trans (List.append_nil head)).symm
    | cons e middle =>
        obtain rfl := (List.cons.inj rest).1
        have visible := plain c (start ▸ List.mem_append_right _ List.mem_cons_self)
        rw [blank] at visible
        cases visible
  · cases middle with
    | nil => exact start.trans (List.append_nil front)
    | cons e middle =>
        have lengths := congrArg List.length rest
        simp at lengths

theorem exists_blanks_trimStart (cs : List Char) :
    ∃ before, Blanks before ∧ cs = before ++ trimStart cs :=
  ⟨cs.takeWhile isBlank, fun _ member => List.mem_takeWhile_imp member,
    List.takeWhile_append_dropWhile.symm⟩

theorem exists_blanks_trimEnd (cs : List Char) :
    ∃ after, Blanks after ∧ cs = trimEnd cs ++ after :=
  exists_dropEndWhile isBlank cs

theorem exists_blanks_trim (cs : List Char) :
    ∃ before after, Blanks before ∧ Blanks after ∧ cs = before ++ (trim cs ++ after) := by
  obtain ⟨before, front, start⟩ := exists_blanks_trimStart cs
  obtain ⟨after, back, stop⟩ := exists_blanks_trimEnd (trimStart cs)
  exact ⟨before, after, front, back, start.trans (congrArg (before ++ ·) stop)⟩

theorem isBlank_or_mem_trim {c : Char} (member : c ∈ cs) : isBlank c = true ∨ c ∈ trim cs := by
  obtain ⟨before, after, front, back, same⟩ := exists_blanks_trim cs
  rw [same] at member
  rcases List.mem_append.mp member with leading | rest
  · exact .inl (front c leading)
  · rcases List.mem_append.mp rest with inside | trailing
    · exact .inr inside
    · exact .inl (back c trailing)

theorem trimStart_append (front : Blanks before) : trimStart (before ++ cs) = trimStart cs :=
  List.dropWhile_append_of_pos front

theorem trimEnd_append (back : Blanks after) : trimEnd (cs ++ after) = trimEnd cs :=
  dropEndWhile_append back

theorem Tight.trimStart_eq (tight : Tight cs) : trimStart cs = cs := by
  cases cs with
  | nil => rfl
  | cons c cs => exact List.dropWhile_cons_of_neg (by simp [tight.first c rfl])

theorem Tight.trimEnd_eq (tight : Tight cs) : trimEnd cs = cs := by
  have whole := tight.trim_eq
  rwa [trim, tight.trimStart_eq] at whole

/-- A text without blanks at its ends is all that trimming leaves of it and the blanks
around it. -/
theorem Tight.trim_between (tight : Tight cs) (full : cs ≠ []) (front : Blanks before)
    (back : Blanks after) : trim (before ++ (cs ++ after)) = cs := by
  cases cs with
  | nil => exact absurd rfl full
  | cons c cs =>
      have start : trimStart (c :: cs ++ after) = c :: cs ++ after :=
        List.dropWhile_cons_of_neg (by simp [tight.first c rfl])
      rw [trim, trimStart_append front, start, trimEnd_append back, tight.trimEnd_eq]

theorem trim_append (full : trim cs ≠ []) (front : Blanks before) (back : Blanks after) :
    trim (before ++ (cs ++ after)) = trim cs := by
  obtain ⟨leading, trailing, first, last, same⟩ := exists_blanks_trim cs
  have trimmed := (tight_trim cs).trim_between full (front.append first) (last.append back)
  rw [← trimmed]
  nth_rewrite 1 [same]
  simp only [List.append_assoc]

theorem trim_append_front (front : Blanks before) : trim (before ++ cs) = trim cs := by
  rw [trim, trimStart_append front, trim]

theorem trim_append_back (back : Blanks after) : trim (cs ++ after) = trim cs := by
  unfold trim
  cases start : trimStart cs with
  | nil =>
      have blank : Blanks cs := List.dropWhile_eq_nil_iff.mp start
      rw [trimStart_append blank, trimStart, List.dropWhile_eq_nil_iff.mpr back]
  | cons c rest =>
      have kept : trimStart (cs ++ after) = c :: rest ++ after := by
        rw [trimStart, List.dropWhile_append, show cs.dropWhile isBlank = c :: rest from start]
        rfl
      rw [kept, trimEnd_append back]

section Pieces

variable {p : Char → Bool}

theorem Blanks.plain (visible : ∀ c, p c = true → isBlank c = false) (blank : Blanks cs) :
    ∀ c ∈ cs, p c = false := by
  intro c member
  rw [← Bool.not_eq_true]
  intro separator
  have shown := visible c separator
  rw [blank c member] at shown
  cases shown

/-- A text without separators only adds to the last piece of what stands before it. -/
theorem exists_pieces_append (cs : List Char) (plain : ∀ c ∈ after, p c = false) :
    ∃ front last, pieces p cs = front ++ [last] ∧
      pieces p (cs ++ after) = front ++ [last ++ after] := by
  induction cs with
  | nil => exact ⟨[], [], rfl, pieces_eq_singleton plain⟩
  | cons c cs ih =>
      obtain ⟨front, last, former, later⟩ := ih
      rw [List.cons_append, pieces, pieces, former, later]
      split
      · exact ⟨[] :: front, last, rfl, rfl⟩
      · cases front with
        | nil => exact ⟨[], c :: last, rfl, rfl⟩
        | cons piece front => exact ⟨(c :: piece) :: front, last, rfl, rfl⟩

theorem map_trim_pieces_front (visible : ∀ c, p c = true → isBlank c = false)
    (front : Blanks before) : (pieces p (before ++ cs)).map trim = (pieces p cs).map trim := by
  have plain := front.plain visible
  cases cut : cut? p cs with
  | none =>
      have alone := cut?_eq_none cut
      rw [pieces_eq_singleton alone,
        pieces_eq_singleton (List.forall_mem_append.mpr ⟨plain, alone⟩), List.map_singleton,
        List.map_singleton, trim_append_front front]
  | some found =>
      obtain ⟨first, c, separator, rfl⟩ := cut?_eq_some cut
      rw [← List.append_assoc, pieces_append_cons first separator,
        pieces_append_cons (List.forall_mem_append.mpr ⟨plain, first⟩) separator, List.map_cons,
        List.map_cons, trim_append_front front]

theorem map_trim_pieces_back (visible : ∀ c, p c = true → isBlank c = false)
    (back : Blanks after) : (pieces p (cs ++ after)).map trim = (pieces p cs).map trim := by
  obtain ⟨front, last, former, later⟩ := exists_pieces_append cs (back.plain visible)
  rw [former, later, List.map_append, List.map_append, List.map_singleton, List.map_singleton,
    trim_append_back back]

/-- The trimmed pieces of a text are those of its trimmed form when no blank separates. -/
theorem map_trim_pieces_trim (visible : ∀ c, p c = true → isBlank c = false) (cs : List Char) :
    (pieces p (trim cs)).map trim = (pieces p cs).map trim := by
  obtain ⟨before, after, front, back, same⟩ := exists_blanks_trim cs
  conv_rhs => rw [same]
  rw [map_trim_pieces_front visible front, map_trim_pieces_back visible back]

end Pieces

theorem getLast?_trim {c : Char} (ends : cs.getLast? = some c) (visible : isBlank c = false) :
    (trim cs).getLast? = some c := by
  obtain ⟨leading, trailing, first, last, same⟩ := exists_blanks_trim cs
  have unblank {blanks : List Char} (blank : Blanks blanks) : blanks.getLast? ≠ some c := by
    intro inside
    rw [blank c (List.mem_of_getLast? inside)] at visible
    cases visible
  rw [same, List.getLast?_append, List.getLast?_append] at ends
  cases none : trailing.getLast? with
  | some d =>
      rw [none, Option.some_or, Option.some_or] at ends
      exact absurd (none.trans ends) (unblank last)
  | none =>
      rw [none, Option.none_or] at ends
      cases found : (trim cs).getLast? with
      | some d =>
          rw [found, Option.some_or] at ends
          exact ends
      | none =>
          rw [found, Option.none_or] at ends
          exact absurd ends (unblank first)

theorem Tight.singleton {c : Char} (visible : isBlank c = false) : Tight [c] where
  first d starts := by
    obtain rfl := Option.some.inj starts
    exact visible
  last d ends := by
    obtain rfl := Option.some.inj ends
    exact visible

theorem Tight.between {front back : List Char} (former : Tight front) (opened : front ≠ [])
    (later : Tight back) (closed : back ≠ []) (middle : List Char) :
    Tight (front ++ (middle ++ back)) where
  first c starts := by
    rw [List.head?_append_of_ne_nil _ opened] at starts
    exact former.first c starts
  last c ends := by
    rw [← List.append_assoc, List.getLast?_append_of_ne_nil _ closed] at ends
    exact later.last c ends

theorem Tight.of_cons_concat {c d : Char} (front : isBlank c = false) (back : isBlank d = false)
    (inner : List Char) : Tight (c :: inner ++ [d]) where
  first e starts := by
    obtain rfl := Option.some.inj starts
    exact front
  last e ends := by
    rw [List.getLast?_concat] at ends
    obtain rfl := Option.some.inj ends
    exact back

end SheetCompiler.Text
