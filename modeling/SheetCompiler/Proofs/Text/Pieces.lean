import Mathlib.Data.List.TakeWhile
import SheetCompiler.Text.Basic

/-!
# Pieces of text

Cutting a text at separators and trimming the pieces. Pieces that are trimmed and free
of separators come back from the text that joins them.
-/

set_option autoImplicit false

namespace SheetCompiler.Text

/-- A text without blanks at its ends. -/
structure Tight (cs : List Char) : Prop where
  first : ∀ c, cs.head? = some c → isBlank c = false
  last : ∀ c, cs.getLast? = some c → isBlank c = false

theorem dropEndWhile_isPrefixOf {α : Type} (p : α → Bool) (items : List α) :
    dropEndWhile p items <+: items := by
  have tail := List.dropWhile_suffix (l := items.reverse) p
  rw [← List.reverse_prefix, List.reverse_reverse] at tail
  exact tail

theorem dropEndWhile_append {α : Type} {p : α → Bool} {items dropped : List α}
    (drops : ∀ item ∈ dropped, p item = true) :
    dropEndWhile p (items ++ dropped) = dropEndWhile p items := by
  unfold dropEndWhile
  rw [List.reverse_append, List.dropWhile_append_of_pos]
  exact fun item member => drops item (List.mem_reverse.mp member)

theorem exists_dropEndWhile {α : Type} (p : α → Bool) (items : List α) :
    ∃ dropped, (∀ item ∈ dropped, p item = true) ∧ items = dropEndWhile p items ++ dropped := by
  refine ⟨(items.reverse.takeWhile p).reverse, fun item member => ?_, ?_⟩
  · exact List.mem_takeWhile_imp (List.mem_reverse.mp member)
  · rw [dropEndWhile, ← List.reverse_append, List.takeWhile_append_dropWhile, List.reverse_reverse]

theorem getLast?_dropEndWhile {α : Type} {p : α → Bool} {items : List α} {item : α}
    (ends : (dropEndWhile p items).getLast? = some item) : p item = false := by
  have kept := List.head?_dropWhile_not p items.reverse
  rw [dropEndWhile, List.getLast?_reverse] at ends
  rw [ends] at kept
  exact kept

theorem dropEndWhile_eq_self {α : Type} {p : α → Bool} {items : List α}
    (ends : ∀ item, items.getLast? = some item → p item = false) :
    dropEndWhile p items = items := by
  have kept : items.reverse.dropWhile p = items.reverse := by
    cases reversed : items.reverse with
    | nil => rfl
    | cons item rest =>
        have final : items.getLast? = some item := by rw [← List.head?_reverse, reversed]; rfl
        exact List.dropWhile_cons_of_neg (by simp [ends item final])
  rw [dropEndWhile, kept, List.reverse_reverse]

theorem trimEnd_isPrefixOf (cs : List Char) : trimEnd cs <+: cs :=
  dropEndWhile_isPrefixOf isBlank cs

theorem Tight.trim_eq {cs : List Char} (tight : Tight cs) : trim cs = cs := by
  have front : trimStart cs = cs := by
    cases cs with
    | nil => rfl
    | cons c cs => exact List.dropWhile_cons_of_neg (by simp [tight.first c rfl])
  rw [trim, front, trimEnd, dropEndWhile_eq_self tight.last]

theorem tight_trim (cs : List Char) : Tight (trim cs) where
  first c starts := by
    obtain ⟨rest, whole⟩ := trimEnd_isPrefixOf (trimStart cs)
    have front : (trimStart cs).head? = some c := by
      rw [← whole, List.head?_append]
      change (trimEnd (trimStart cs)).head? = some c at starts
      rw [starts]
      rfl
    have visible := List.head?_dropWhile_not isBlank cs
    rw [show (cs.dropWhile isBlank).head? = some c from front] at visible
    exact visible
  last _ ends := getLast?_dropEndWhile ends

@[simp] theorem trim_trim (cs : List Char) : trim (trim cs) = trim cs := (tight_trim cs).trim_eq

theorem trimmed_trimmed (text : String) : trimmed (trimmed text) = trimmed text := by
  rw [trimmed, trimmed, String.toList_ofList, trim_trim]

/-- Texts without blanks at their ends can be joined by a visible character. -/
theorem Tight.append_cons {before after : List Char} {c : Char} (former : Tight before)
    (later : Tight after) (visible : isBlank c = false) : Tight (before ++ c :: after) where
  first d starts := by
    cases before with
    | nil =>
        obtain rfl := Option.some.inj starts
        exact visible
    | cons b before => exact former.first d starts
  last d ends := by
    rw [List.getLast?_append, List.getLast?_cons, Option.some_or] at ends
    cases final : after.getLast? with
    | none =>
        rw [final] at ends
        obtain rfl := Option.some.inj ends
        exact visible
    | some e =>
        rw [final] at ends
        obtain rfl := Option.some.inj ends
        exact later.last e final

theorem mem_of_mem_trim {cs : List Char} {c : Char} (member : c ∈ trim cs) : c ∈ cs :=
  (List.dropWhile_sublist isBlank).mem ((trimEnd_isPrefixOf (trimStart cs)).sublist.mem member)

theorem trim_eq_nil_iff {cs : List Char} : trim cs = [] ↔ cs.all isBlank = true := by
  have front : trimStart cs = [] ↔ cs.all isBlank = true := by
    rw [trimStart, List.dropWhile_eq_nil_iff, List.all_eq_true]
  rw [← front]
  constructor
  · intro none
    have all : ∀ c ∈ trimStart cs, isBlank c = true := by
      rw [trim, trimEnd, dropEndWhile, List.reverse_eq_nil_iff, List.dropWhile_eq_nil_iff] at none
      exact fun c member => none c (List.mem_reverse.mpr member)
    have visible := List.head?_dropWhile_not isBlank cs
    cases start : trimStart cs with
    | nil => rfl
    | cons c rest =>
        rw [show cs.dropWhile isBlank = c :: rest from start] at visible
        have blank := all c (by rw [start]; exact List.mem_cons_self)
        exact absurd blank (by rw [show isBlank c = false from visible]; exact Bool.false_ne_true)
  · intro none
    rw [trim, none]
    rfl

theorem isBlankText_trimmed (text : String) : isBlankText (trimmed text) = isBlankText text := by
  rw [Bool.eq_iff_iff, isBlankText, isBlankText, trimmed, String.toList_ofList,
    ← trim_eq_nil_iff, ← trim_eq_nil_iff, trim_trim]

section Pieces

variable {p : Char → Bool} {cs before after : List Char} {c : Char}

theorem pieces_eq_singleton (plain : ∀ d ∈ cs, p d = false) : pieces p cs = [cs] := by
  induction cs with
  | nil => rfl
  | cons d cs ih =>
      rw [pieces, if_neg (by simp [plain d List.mem_cons_self]),
        ih fun e member => plain e (List.mem_cons_of_mem _ member)]

theorem pieces_append_cons (plain : ∀ d ∈ before, p d = false) (separator : p c = true) :
    pieces p (before ++ c :: after) = before :: pieces p after := by
  induction before with
  | nil => rw [List.nil_append, pieces, if_pos separator]
  | cons d before ih =>
      rw [List.cons_append, pieces, if_neg (by simp [plain d List.mem_cons_self]),
        ih fun e member => plain e (List.mem_cons_of_mem _ member)]

theorem pieces_ne_nil : pieces p cs ≠ [] := by
  cases cs with
  | nil => exact List.cons_ne_nil _ _
  | cons d cs =>
      rw [pieces]
      split
      · exact List.cons_ne_nil _ _
      · split <;> exact List.cons_ne_nil _ _

/-- A separator keeps apart the pieces on its two sides. -/
theorem pieces_append_separator (separator : p c = true) :
    pieces p (before ++ c :: after) = pieces p before ++ pieces p after := by
  induction before with
  | nil =>
      rw [List.nil_append, show pieces p [] = [[]] from rfl, pieces, if_pos separator]
      rfl
  | cons d before ih =>
      rw [List.cons_append, pieces, pieces, ih]
      split
      · rfl
      · cases cut : pieces p before with
        | nil => exact absurd cut pieces_ne_nil
        | cons piece rest => rfl

/-- A text with a single kind of separator is the text that joins its pieces. -/
theorem intercalate_pieces (only : ∀ d, p d = true → d = c) :
    List.intercalate [c] (pieces p cs) = cs := by
  induction cs with
  | nil => rfl
  | cons d cs ih =>
      rw [pieces]
      cases cut : pieces p cs with
      | nil => exact absurd cut pieces_ne_nil
      | cons piece rest =>
          rw [cut] at ih
          split
          · rename_i separator
            rw [List.intercalate_cons_cons, ih, only d separator]
            rfl
          · cases rest with
            | nil =>
                rw [List.intercalate_singleton] at ih ⊢
                rw [ih]
            | cons other rest =>
                rw [List.intercalate_cons_cons] at ih ⊢
                rw [← ih]
                rfl

/-- Pieces without separators can be joined and cut again. -/
theorem pieces_intercalate {parts : List (List Char)} (separator : p c = true)
    (filled : parts ≠ []) (plain : ∀ part ∈ parts, ∀ d ∈ part, p d = false) :
    pieces p (List.intercalate [c] parts) = parts := by
  induction parts with
  | nil => exact absurd rfl filled
  | cons part parts ih =>
      rw [List.forall_mem_cons] at plain
      cases parts with
      | nil =>
          rw [List.intercalate_singleton]
          exact pieces_eq_singleton plain.1
      | cons other parts =>
          rw [List.intercalate_cons_cons, List.append_assoc, List.singleton_append,
            pieces_append_cons plain.1 separator, ih (List.cons_ne_nil _ _) plain.2]

theorem mem_pieces {piece : List Char} (listed : piece ∈ pieces p cs) :
    ∀ d ∈ piece, p d = false ∧ d ∈ cs := by
  induction cs generalizing piece with
  | nil =>
      obtain rfl := List.mem_singleton.mp listed
      exact nofun
  | cons e cs ih =>
      rw [pieces] at listed
      split at listed
      · rcases List.mem_cons.mp listed with rfl | later
        · exact nofun
        · intro d member
          have found := ih later d member
          exact ⟨found.1, List.mem_cons_of_mem _ found.2⟩
      · rename_i plain
        split at listed
        · obtain rfl := List.mem_singleton.mp listed
          intro d member
          obtain rfl := List.mem_singleton.mp member
          exact ⟨Bool.eq_false_iff.mpr plain, List.mem_cons_self⟩
        · rename_i piece rest cut
          rcases List.mem_cons.mp listed with rfl | later
          · intro d member
            rcases List.mem_cons.mp member with rfl | inside
            · exact ⟨Bool.eq_false_iff.mpr plain, List.mem_cons_self⟩
            · have found := ih (by rw [cut]; exact List.mem_cons_self) d inside
              exact ⟨found.1, List.mem_cons_of_mem _ found.2⟩
          · intro d member
            have found := ih (by rw [cut]; exact List.mem_cons_of_mem _ later) d member
            exact ⟨found.1, List.mem_cons_of_mem _ found.2⟩

/-- What stands between separators: a visible text without blanks at its ends. -/
structure IsPiece (p : Char → Bool) (cs : List Char) : Prop where
  full : cs ≠ []
  tight : Tight cs
  plain : ∀ c ∈ cs, p c = false

theorem IsPiece.imp {q : Char → Bool} (isPiece : IsPiece p cs)
    (fewer : ∀ d, p d = false → q d = false) : IsPiece q cs :=
  ⟨isPiece.full, isPiece.tight, fun d member => fewer d (isPiece.plain d member)⟩

theorem mem_trimmedPieces {piece : List Char} (listed : piece ∈ trimmedPieces p cs) :
    IsPiece p piece ∧ ∀ d ∈ piece, d ∈ cs := by
  obtain ⟨member, kept⟩ := List.mem_filter.mp listed
  obtain ⟨raw, cut, rfl⟩ := List.mem_map.mp member
  have origin := fun d inside => mem_pieces cut d (mem_of_mem_trim inside)
  refine ⟨⟨?_, tight_trim raw, fun d inside => (origin d inside).1⟩,
    fun d inside => (origin d inside).2⟩
  intro empty
  rw [empty] at kept
  cases kept

/-- The pieces that are joined are the pieces that are found again. -/
theorem trimmedPieces_intercalate {parts : List (List Char)} (separator : p c = true)
    (isPiece : ∀ part ∈ parts, IsPiece p part) :
    trimmedPieces p (List.intercalate [c] parts) = parts := by
  have kept (part : List Char) (member : part ∈ parts) : (!part.isEmpty) = true := by
    cases part with
    | nil => exact absurd rfl (isPiece [] member).full
    | cons d rest => rfl
  cases parts with
  | nil => rfl
  | cons part parts =>
      have cut := pieces_intercalate separator (List.cons_ne_nil part parts)
        fun other member => (isPiece other member).plain
      have trimmed : (part :: parts).map trim = (part :: parts).map id :=
        List.map_congr_left fun other member => (isPiece other member).tight.trim_eq
      rw [trimmedPieces, cut, trimmed, List.map_id]
      exact List.filter_eq_self.mpr kept

theorem tight_intercalate {parts : List (List Char)} (visible : isBlank c = false)
    (tight : ∀ part ∈ parts, Tight part) : Tight (List.intercalate [c] parts) := by
  induction parts with
  | nil => exact ⟨nofun, nofun⟩
  | cons part parts ih =>
      have first := tight part List.mem_cons_self
      cases parts with
      | nil =>
          rw [List.intercalate_singleton]
          exact first
      | cons other parts =>
          rw [List.intercalate_cons_cons, List.append_assoc, List.singleton_append]
          exact first.append_cons
            (ih fun later member => tight later (List.mem_cons_of_mem _ member)) visible

theorem intercalate_ne_nil {parts : List (List Char)} (filled : parts ≠ [])
    (full : ∀ part ∈ parts, part ≠ []) : List.intercalate [c] parts ≠ [] := by
  cases parts with
  | nil => exact absurd rfl filled
  | cons part parts =>
      have first := full part List.mem_cons_self
      cases parts with
      | nil =>
          rw [List.intercalate_singleton]
          exact first
      | cons other parts =>
          rw [List.intercalate_cons_cons, List.append_assoc]
          exact List.append_ne_nil_of_left_ne_nil first _

theorem mem_intercalate {parts : List (List Char)} {d : Char}
    (member : d ∈ List.intercalate [c] parts) : d = c ∨ ∃ part ∈ parts, d ∈ part := by
  induction parts with
  | nil => cases member
  | cons part parts ih =>
      cases parts with
      | nil =>
          rw [List.intercalate_singleton] at member
          exact .inr ⟨part, List.mem_cons_self, member⟩
      | cons other parts =>
          rw [List.intercalate_cons_cons, List.append_assoc, List.singleton_append] at member
          rcases List.mem_append.mp member with here | later
          · exact .inr ⟨part, List.mem_cons_self, here⟩
          · rcases List.mem_cons.mp later with rfl | rest
            · exact .inl rfl
            · rcases ih rest with same | ⟨found, listed, inside⟩
              · exact .inl same
              · exact .inr ⟨found, List.mem_cons_of_mem _ listed, inside⟩

/-- Pieces that are joined by a visible character of another kind are one piece. -/
theorem isPiece_intercalate {parts : List (List Char)} (visible : isBlank c = false)
    (apart : p c = false) (filled : parts ≠ []) (isPiece : ∀ part ∈ parts, IsPiece p part) :
    IsPiece p (List.intercalate [c] parts) where
  full := intercalate_ne_nil filled fun part listed => (isPiece part listed).full
  tight := tight_intercalate visible fun part listed => (isPiece part listed).tight
  plain d member := by
    rcases mem_intercalate member with rfl | ⟨part, listed, inside⟩
    · exact apart
    · exact (isPiece part listed).plain d inside

/-! ## The first separator -/

theorem cut?_append_cons (plain : ∀ d ∈ before, p d = false) (separator : p c = true) :
    cut? p (before ++ c :: after) = some (before, after) := by
  induction before with
  | nil => rw [List.nil_append, cut?, if_pos separator]
  | cons d before ih =>
      rw [List.cons_append, cut?, if_neg (by simp [plain d List.mem_cons_self]),
        ih fun e member => plain e (List.mem_cons_of_mem _ member)]
      rfl

theorem cut?_eq_none (cut : cut? p cs = none) : ∀ d ∈ cs, p d = false := by
  induction cs with
  | nil => exact nofun
  | cons d cs ih =>
      unfold cut? at cut
      split_ifs at cut with separator
      intro e member
      cases member with
      | head => exact Bool.eq_false_iff.mpr separator
      | tail _ later => exact ih (Option.map_eq_none_iff.mp cut) e later

theorem cut?_eq_some (cut : cut? p cs = some (before, after)) :
    (∀ d ∈ before, p d = false) ∧ ∃ c, p c = true ∧ cs = before ++ c :: after := by
  induction cs generalizing before with
  | nil => cases cut
  | cons d cs ih =>
      rw [cut?] at cut
      split at cut
      · rename_i separator
        obtain ⟨rfl, rfl⟩ := Prod.mk.inj (Option.some.inj cut)
        exact ⟨nofun, d, separator, rfl⟩
      · rename_i plain
        obtain ⟨⟨front, back⟩, rest, same⟩ := Option.map_eq_some_iff.mp cut
        obtain ⟨rfl, rfl⟩ := Prod.mk.inj same
        obtain ⟨free, c, separator, rfl⟩ := ih rest
        refine ⟨fun e member => ?_, c, separator, rfl⟩
        rcases List.mem_cons.mp member with rfl | later
        · exact Bool.eq_false_iff.mpr plain
        · exact free e later

end Pieces

end SheetCompiler.Text
