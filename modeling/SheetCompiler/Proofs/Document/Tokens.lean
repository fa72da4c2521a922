import Mathlib.Tactic.Common
import SheetCompiler.Document.Json.Token
import SheetCompiler.Document.Json.Writer

/-!
# Tokens of written documents

A written document is cut into the tokens of its parts. Most pieces of the text
end their last token themselves and are cut the same way whatever follows them.
A word has no such end: it is cut off by the first character that belongs to no
word.
-/

set_option autoImplicit false

namespace SheetCompiler.Json

/-! ## Pieces of text and their tokens -/

/-- A text is cut into these tokens, whatever follows it. -/
def Lexes (cs : List Char) (tokens : List Token) : Prop :=
  ∀ rest, tokens? .between (cs ++ rest) = (tokens? .between rest).map (tokens ++ ·)

/-- No word goes on with the first character of a text. -/
def EndsWord (rest : List Char) : Prop := ∀ c ∈ rest.head?, isWordChar c = false

/-- A text is cut into these tokens where no word goes on after it. -/
def LexesBefore (cs : List Char) (tokens : List Token) : Prop :=
  ∀ rest, EndsWord rest →
    tokens? .between (cs ++ rest) = (tokens? .between rest).map (tokens ++ ·)

theorem tokens?_cons {mode next : Mode} {c : Char} {complete : List Token}
    (stepped : step? mode c = some (complete, next)) (cs : List Char) :
    tokens? mode (c :: cs) = (tokens? next cs).map (complete ++ ·) := by
  cases followed : tokens? next cs <;> simp [tokens?, stepped, followed]

theorem endsWord_cons {c : Char} (separates : isWordChar c = false) (rest : List Char) :
    EndsWord (c :: rest) := by
  intro first same
  obtain rfl : c = first := by simpa using same
  exact separates

namespace Lexes

variable {cs more : List Char} {tokens others : List Token}

theorem before (cut : Lexes cs tokens) : LexesBefore cs tokens := fun rest _ => cut rest

theorem nil : Lexes [] [] := by
  intro rest
  simp

theorem append (first : Lexes cs tokens) (second : Lexes more others) :
    Lexes (cs ++ more) (tokens ++ others) := by
  intro rest
  rw [List.append_assoc, first, second, Option.map_map]
  simp [Function.comp_def]

theorem append_before (first : Lexes cs tokens) (second : LexesBefore more others) :
    LexesBefore (cs ++ more) (tokens ++ others) := by
  intro rest ended
  rw [List.append_assoc, first, second rest ended, Option.map_map]
  simp [Function.comp_def]

/-- A character that ends what stands before it and starts nothing. -/
theorem single {c : Char} (stepped : step? .between c = some (tokens, .between)) :
    Lexes [c] tokens := fun rest => tokens?_cons stepped rest

theorem space {c : Char} (blank : isSpace c = true) : Lexes [c] [] :=
  single (by simp [step?, stepBetween?, blank])

theorem spaces (n : Nat) : Lexes (List.replicate n ' ') [] := by
  induction n with
  | zero => exact nil
  | succ n ih =>
      rw [List.replicate_succ]
      exact (space (c := ' ') rfl).append ih

theorem indent (level : Nat) : Lexes (indent level).toList [] := by
  rw [Json.indent, String.toList_ofList]
  exact spaces (2 * level)

end Lexes

/-- A word at the end of a piece ends where the next piece begins. -/
theorem LexesBefore.append {cs more : List Char} {tokens others : List Token} {c : Char}
    (first : LexesBefore cs tokens) (separates : isWordChar c = false)
    (second : Lexes (c :: more) others) : Lexes (cs ++ c :: more) (tokens ++ others) := by
  intro rest
  have ended : EndsWord (c :: more ++ rest) := endsWord_cons separates (more ++ rest)
  rw [List.append_assoc, first _ ended, second, Option.map_map]
  simp [Function.comp_def]

/-! ## Strings -/

theorem hexDigit?_digitChar {n : Nat} (small : n < 16) : hexDigit? (Nat.digitChar n) = some n := by
  have every : ∀ n < 16, hexDigit? (Nat.digitChar n) = some n := by decide
  exact every n small

/-- The four digits of a control character stand for that character. -/
theorem tokens?_controlDigits {c : Char} (control : c.toNat < 0x20) (read rest : List Char) :
    tokens? (.unit read none 0 4) (controlDigits c.toNat ++ rest) =
      tokens? (.string (c :: read)) rest := by
  have zero (value missing : Nat) (more : missing ≠ 1) :
      step? (.unit read none value missing) '0' =
        some ([], .unit read none (16 * value) (missing - 1)) := by
    simp [step?, show hexDigit? '0' = some 0 from rfl, more]
  have high : step? (.unit read none 0 2) (Nat.digitChar (c.toNat / 16)) =
      some ([], .unit read none (c.toNat / 16) 1) := by
    simp [step?, hexDigit?_digitChar (show c.toNat / 16 < 16 by omega)]
  have low : step? (.unit read none (c.toNat / 16) 1) (Nat.digitChar (c.toNat % 16)) =
      some ([], .string (c :: read)) := by
    simp only [step?, hexDigit?_digitChar (show c.toNat % 16 < 16 by omega), if_true,
      Nat.div_add_mod, afterUnit?]
    rw [if_neg (by omega), if_neg (by omega)]
    simp
  simp [controlDigits, tokens?_cons (zero 0 4 (by decide)), tokens?_cons (zero 0 3 (by decide)),
    tokens?_cons high, tokens?_cons low]

theorem tokens?_escaped {letter c : Char} (other : letter ≠ 'u')
    (stands : escapeChar? letter = some c) (read rest : List Char) :
    tokens? (.string read) ('\\' :: letter :: rest) = tokens? (.string (c :: read)) rest := by
  have slash : step? (.string read) '\\' = some ([], .escape read) := by simp [step?]
  have char : step? (.escape read) letter = some ([], .string (c :: read)) := by
    simp [step?, other, stands]
  simp [tokens?_cons slash, tokens?_cons char]

/-- Inside a string the escaped form of a character is read as the character. -/
theorem tokens?_escapeChar (c : Char) (read rest : List Char) :
    tokens? (.string read) (escapeChar c ++ rest) = tokens? (.string (c :: read)) rest := by
  by_cases lettered : c ∈ ['"', '\\', '\x08', '\x0c', '\n', '\r', '\t']
  · simp only [List.mem_cons, List.not_mem_nil, or_false] at lettered
    rcases lettered with rfl | rfl | rfl | rfl | rfl | rfl | rfl <;>
      exact tokens?_escaped (by decide) rfl read rest
  · simp only [List.mem_cons, List.not_mem_nil, or_false, not_or] at lettered
    obtain ⟨quote, slash, back, feed, line, home, tab⟩ := lettered
    by_cases control : c.toNat < 0x20
    · have opened : step? (.string read) '\\' = some ([], .escape read) := by simp [step?]
      have unit : step? (.escape read) 'u' = some ([], .unit read none 0 4) := by simp [step?]
      simp [escapeChar, quote, slash, back, feed, line, home, tab, control, tokens?_cons opened,
        tokens?_cons unit, tokens?_controlDigits control]
    · have kept : step? (.string read) c = some ([], .string (c :: read)) := by
        simp [step?, quote, slash, control]
      simp [escapeChar, quote, slash, back, feed, line, home, tab, control, tokens?_cons kept]

theorem tokens?_flatMap_escapeChar (cs read rest : List Char) :
    tokens? (.string read) (cs.flatMap escapeChar ++ rest) =
      tokens? (.string (cs.reverse ++ read)) rest := by
  induction cs generalizing read with
  | nil => rfl
  | cons c cs ih =>
      rw [List.flatMap_cons, List.append_assoc, tokens?_escapeChar, ih, List.reverse_cons,
        List.append_assoc, List.singleton_append]

theorem lexes_quote (text : String) : Lexes (quote text).toList [.string text] := by
  intro rest
  have opened : step? .between '"' = some ([], .string []) := rfl
  have closed : step? (.string text.toList.reverse) '"' = some ([.string text], .between) := by
    simp [step?]
  rw [quote, String.toList_ofList, List.cons_append, List.cons_append, List.append_assoc,
    tokens?_cons opened, tokens?_flatMap_escapeChar, List.append_nil, List.singleton_append,
    tokens?_cons closed, Option.map_map]
  rfl

/-! ## Words -/

theorem not_isSpace_of_isWordChar {c : Char} (word : isWordChar c = true) : isSpace c = false := by
  cases blank : isSpace c with
  | false => rfl
  | true =>
      simp only [isSpace, Bool.or_eq_true, beq_iff_eq, or_assoc] at blank
      rcases blank with rfl | rfl | rfl | rfl <;> exact absurd word (by decide)

theorem ne_quote_of_isWordChar {c : Char} (word : isWordChar c = true) : c ≠ '"' := by
  rintro rfl
  exact absurd word (by decide)

/-- Tokens that wait for a character stand in front of those it completes. -/
theorem stepBetween?_pending (pending : List Token) (c : Char) :
    stepBetween? pending c =
      (stepBetween? [] c).map fun stepped => (pending ++ stepped.1, stepped.2) := by
  unfold stepBetween?
  split_ifs with blank quote word
  · simp
  · simp
  · simp
  · simp [Option.map_map, Function.comp_def]

theorem tokens?_word {cs : List Char} (word : ∀ c ∈ cs, isWordChar c = true) (read : List Char)
    {rest : List Char} (ended : EndsWord rest) :
    tokens? (.word read) (cs ++ rest) =
      (tokens? .between rest).map ([.word (read.reverse ++ cs)] ++ ·) := by
  induction cs generalizing read with
  | nil =>
      cases rest with
      | nil => simp [tokens?, finish?]
      | cons c rest =>
          have other : isWordChar c = false := ended c rfl
          rw [List.nil_append, tokens?, tokens?, step?, step?, other, if_neg Bool.false_ne_true,
            stepBetween?_pending]
          cases stepBetween? [] c with
          | none => rfl
          | some stepped =>
              obtain ⟨complete, next⟩ := stepped
              cases followed : tokens? next rest <;> simp [followed]
  | cons c cs ih =>
      have goes : step? (.word read) c = some ([], .word (c :: read)) := by
        simp [step?, word c List.mem_cons_self]
      rw [List.cons_append, tokens?_cons goes, ih fun c listed => word c (.tail _ listed)]
      simp [Option.map_map, Function.comp_def]

theorem lexesBefore_word {cs : List Char} (filled : cs ≠ [])
    (word : ∀ c ∈ cs, isWordChar c = true) : LexesBefore cs [.word cs] := by
  intro rest ended
  obtain ⟨c, cs, rfl⟩ := List.exists_cons_of_ne_nil filled
  have first := word c List.mem_cons_self
  have starts : step? .between c = some ([], .word [c]) := by
    simp [step?, stepBetween?, not_isSpace_of_isWordChar first, ne_quote_of_isWordChar first, first]
  rw [List.cons_append, tokens?_cons starts,
    tokens?_word (fun c listed => word c (.tail _ listed)) [c] ended]
  simp [Option.map_map, Function.comp_def]

/-! ## Arrays and objects -/

section Rows

variable {α : Type} {items : List α} {text : α → String} {tokens : α → List Token}

/-- Rows that are cut into their tokens are so one after the other, each on its
own line. -/
theorem lexesBefore_rows (level : Nat) (filled : items ≠ [])
    (cut : ∀ item ∈ items, LexesBefore (text item).toList (tokens item)) :
    LexesBefore
      ([',', '\n'].intercalate (items.map fun item => (indent level).toList ++ (text item).toList))
      ([Token.comma].intercalate (items.map tokens)) := by
  induction items with
  | nil => exact absurd rfl filled
  | cons item items ih =>
      have row : LexesBefore ((indent level).toList ++ (text item).toList) (tokens item) :=
        (Lexes.indent level).append_before (cut item List.mem_cons_self)
      cases items with
      | nil => simpa using row
      | cons next items =>
          have comma : Lexes [',', '\n'] [.comma] :=
            (Lexes.single (c := ',') rfl).append (Lexes.space (c := '\n') rfl)
          have rows := ih (by simp) fun other listed => cut other (.tail _ listed)
          simpa [List.intercalate_cons_cons] using
            (row.append (c := ',') (by decide) comma).append_before rows

theorem lexes_bracketed (level : Nat) {opening closing : Char} {opened closed : Token}
    (opens : Lexes [opening] [opened]) (closes : Lexes [closing] [closed])
    (cut : ∀ item ∈ items, LexesBefore (text item).toList (tokens item)) :
    Lexes (bracketed level opening closing (items.map text)).toList
      (opened :: [Token.comma].intercalate (items.map tokens) ++ [closed]) := by
  by_cases empty : items = []
  · subst empty
    simpa [bracketed] using opens.append closes
  · have start : Lexes [opening, '\n'] [opened] := opens.append (Lexes.space (c := '\n') rfl)
    have rows := start.append_before (lexesBefore_rows (level + 1) empty cut)
    have stop : Lexes ('\n' :: (indent level).toList ++ [closing]) [closed] :=
      ((Lexes.space (c := '\n') rfl).append (Lexes.indent level)).append closes
    have whole := rows.append (by decide) stop
    simpa [bracketed, empty, String.toList_append, String.toList_intercalate, Function.comp_def]
      using whole

end Rows

end SheetCompiler.Json
