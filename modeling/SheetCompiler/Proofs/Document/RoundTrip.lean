import Mathlib.Data.List.Basic
import Mathlib.Data.List.TakeWhile
import SheetCompiler.Document.Json.Reader
import SheetCompiler.Proofs.Document.Tokens
import SheetCompiler.Proofs.Number.Integer

/-!
# The round trip of documents

A written document is read back as the document it was, if its numbers are
integers of 64 bits and each of its leaves has a type of its own.
-/

set_option autoImplicit false

namespace SheetCompiler

/-- Every leaf of a document has the type that its text shows. -/
inductive Document.IsStored : Document → Prop where
  | null : IsStored .null
  | bool {value : Bool} : IsStored (.bool value)
  | integer {value : Int} :
      -0x8000000000000000 ≤ value → value ≤ 0xFFFFFFFFFFFFFFFF → IsStored (.integer value)
  | string {value : String} : IsStored (.string value)
  | array {items : List Document} :
      (∀ item ∈ items, IsStored item) → IsStored (.array items)
  | object {members : List (String × Document)} :
      (∀ member ∈ members, IsStored member.2) → IsStored (.object members)

namespace Json

open Integer (digitsValue_toDigits isDigit_of_mem_toDigits toList_displayInt_ofNat
  toList_displayInt_negSucc)

/-! ## Integers -/

theorem head?_toDigits_ne_zero {n : Nat} (positive : 0 < n) :
    (Nat.toDigits 10 n).head? ≠ some '0' := by
  induction n using Nat.strongRecOn with
  | ind n ih =>
      by_cases single : n < 10
      · have nonzero : ∀ n < 10, 0 < n → Nat.digitChar n ≠ '0' := by decide
        rw [Nat.toDigits_of_lt_base single]
        simpa using nonzero n single positive
      · have front := ih (n / 10) (by omega) (by omega)
        rwa [Nat.toDigits_of_base_le (by decide) (by omega),
          List.head?_append_of_ne_nil _ Nat.toDigits_ne_nil]

/-- Only the number zero is written with a leading zero. -/
theorem no_leading_zero (n : Nat) :
    (decide (1 < (Nat.toDigits 10 n).length) && (Nat.toDigits 10 n).head? == some '0') = false := by
  by_cases zero : n = 0
  · subst zero
    decide
  · simp [head?_toDigits_ne_zero (Nat.pos_of_ne_zero zero)]

theorem spanDigits_toDigits (n : Nat) :
    Decimal.spanDigits (Nat.toDigits 10 n) = (Nat.toDigits 10 n, []) := by
  rw [Decimal.spanDigits, List.takeWhile_eq_self_iff.mpr fun c => isDigit_of_mem_toDigits,
    List.dropWhile_eq_nil_iff.mpr fun c => isDigit_of_mem_toDigits]

theorem Literal.ofChars?_toDigits (n : Nat) :
    Literal.ofChars? (Nat.toDigits 10 n) = some ⟨false, Nat.toDigits 10 n, none, none⟩ := by
  -- `unsigned` settles the match on the sign.
  have unsigned : ∀ rest, Nat.toDigits 10 n ≠ '-' :: rest := by
    intro rest same
    exact absurd (isDigit_of_mem_toDigits (n := n) (same ▸ List.mem_cons_self)) (by decide)
  simp [Literal.ofChars?, spanDigits_toDigits, no_leading_zero, Nat.toDigits_ne_nil,
    exponentPart?]

theorem Literal.ofChars?_minus_toDigits (n : Nat) :
    Literal.ofChars? ('-' :: Nat.toDigits 10 n) =
      some ⟨true, Nat.toDigits 10 n, none, none⟩ := by
  simp [Literal.ofChars?, spanDigits_toDigits, no_leading_zero, Nat.toDigits_ne_nil, exponentPart?]

/-- A word with a character of a number in it is none of the three names. -/
theorem documentOfWord?_numeric {cs : List Char} {c : Char} (listed : c ∈ cs)
    (numeric : c.isDigit = true ∨ c = '-') :
    documentOfWord? cs = (Literal.ofChars? cs).map Literal.toDocument := by
  have unnamed {name : List Char} (plain : ∀ c ∈ name, c.isDigit = false ∧ c ≠ '-') :
      cs ≠ name := by
    rintro rfl
    obtain ⟨digit, minus⟩ := plain c listed
    rcases numeric with isDigit | isMinus
    · exact absurd isDigit (by simp [digit])
    · exact minus isMinus
  rw [documentOfWord?, if_neg (unnamed (by simp)), if_neg (unnamed (by simp)),
    if_neg (unnamed (by simp))]

theorem documentOfWord?_displayInt {value : Int} (low : -0x8000000000000000 ≤ value)
    (high : value ≤ 0xFFFFFFFFFFFFFFFF) :
    documentOfWord? (Value.displayInt value).toList = some (.integer value) := by
  cases value with
  | ofNat n =>
      obtain ⟨c, listed⟩ := List.exists_mem_of_ne_nil _ (Nat.toDigits_ne_nil (n := n) (b := 10))
      have fits : n ≤ maxSignificand := Int.ofNat_le.mp high
      have digit := isDigit_of_mem_toDigits listed
      rw [toList_displayInt_ofNat, documentOfWord?_numeric listed (.inl digit),
        Literal.ofChars?_toDigits]
      simp [Literal.toDocument, digitsValue_toDigits, fits]
  | negSucc n =>
      have fits : n + 1 ≤ 0x8000000000000000 := by omega
      rw [toList_displayInt_negSucc, documentOfWord?_numeric List.mem_cons_self (.inr rfl),
        Literal.ofChars?_minus_toDigits]
      simp [Literal.toDocument, digitsValue_toDigits, fits, Int.negSucc_eq]

theorem isWordChar_of_mem_displayInt {value : Int} {c : Char}
    (listed : c ∈ (Value.displayInt value).toList) : isWordChar c = true := by
  have digit {n : Nat} (inside : c ∈ Nat.toDigits 10 n) : isWordChar c = true := by
    simp [isWordChar, Char.isAlphanum, isDigit_of_mem_toDigits inside]
  cases value with
  | ofNat n => exact digit (toList_displayInt_ofNat n ▸ listed)
  | negSucc n =>
      rw [toList_displayInt_negSucc] at listed
      rcases List.mem_cons.mp listed with rfl | inside
      · rfl
      · exact digit inside

/-! ## The tokens of a document -/

/-- The tokens that a document is written as. -/
def tokensOf : Document → List Token
  | .null => [.word "null".toList]
  | .bool value => [.word (Value.displayBool value).toList]
  | .integer value => [.word (Value.displayInt value).toList]
  | .number value => [.word (Shortest.display value).toList]
  | .string value => [.string value]
  | .plain text => [.string text]
  | .array items => .openArray :: [Token.comma].intercalate (items.map tokensOf) ++ [.closeArray]
  | .object members =>
      .openObject ::
        [Token.comma].intercalate
          (members.map fun member => .string member.1 :: .colon :: tokensOf member.2) ++
        [.closeObject]
termination_by document => sizeOf document
decreasing_by
  · simp_wf
    have inside := List.sizeOf_lt_of_mem ‹_›
    omega
  · simp_wf
    have inside := List.sizeOf_lt_of_mem ‹_›
    have value : sizeOf member.2 < sizeOf member := by
      cases member
      simp only [Prod.mk.sizeOf_spec]
      omega
    omega

theorem writeItems_eq_map (level : Nat) (items : List Document) :
    writeItems level items = items.map (write level) := by
  induction items with
  | nil => rfl
  | cons item items ih => rw [writeItems, ih, List.map_cons]

theorem writeMembers_eq_map (level : Nat) (members : List (String × Document)) :
    writeMembers level members =
      members.map fun member => quote member.1 ++ ": " ++ write level member.2 := by
  induction members with
  | nil => rfl
  | cons member members ih => rw [writeMembers, ih, List.map_cons]

/-- A stored document is written as its tokens. -/
theorem lexesBefore_write {document : Document} (stored : document.IsStored) (level : Nat) :
    LexesBefore (write level document).toList (tokensOf document) := by
  induction stored generalizing level with
  | null =>
      rw [tokensOf, write]
      exact lexesBefore_word (by simp) (by simp [isWordChar])
  | @bool value =>
      rw [tokensOf, write]
      cases value <;> rw [Value.displayBool] <;>
        exact lexesBefore_word (by simp) (by simp [isWordChar])
  | @integer value low high =>
      rw [tokensOf, write]
      refine lexesBefore_word ?_ fun c => isWordChar_of_mem_displayInt
      cases value with
      | ofNat n => exact toList_displayInt_ofNat n ▸ Nat.toDigits_ne_nil
      | negSucc n => simp [toList_displayInt_negSucc]
  | @string value =>
      rw [tokensOf, write]
      exact (lexes_quote value).before
  | @array items _ ih =>
      rw [tokensOf, write, writeItems_eq_map]
      have cut (item : Document) (listed : item ∈ items) := ih item listed (level + 1)
      exact (lexes_bracketed level (.single rfl) (.single rfl) cut).before
  | @object members _ ih =>
      rw [tokensOf, write, writeMembers_eq_map]
      have colon : Lexes [':', ' '] [.colon] :=
        (Lexes.single (c := ':') rfl).append (Lexes.space (c := ' ') rfl)
      have cut (member : String × Document) (listed : member ∈ members) :
          LexesBefore (quote member.1 ++ ": " ++ write (level + 1) member.2).toList
            (.string member.1 :: .colon :: tokensOf member.2) := by
        have row := ((lexes_quote member.1).append colon).append_before
          (ih member listed (level + 1))
        simpa [String.toList_append] using row
      exact (lexes_bracketed level (.single rfl) (.single rfl) cut).before

/-! ## Reading the tokens -/

/-- Wherever a value may stand the tokens are read as this document. -/
def Reads (tokens : List Token) (document : Document) : Prop :=
  ∀ stack rest, run? stack .value (tokens ++ rest) =
    run? (place document stack).1 (place document stack).2 rest

theorem run?_cons {stack next : List Frame} {state after : State} {token : Token}
    (advanced : advance? stack state token = some (next, after)) (tokens : List Token) :
    run? stack state (token :: tokens) = run? next after tokens := by
  simp [run?, advanced]

/-- The first item of an array is read as any other. -/
theorem run?_firstItem (stack : List Frame) (document : Document) (rest : List Token) :
    run? stack .firstItem (tokensOf document ++ rest) =
      run? (.items [] :: stack) .value (tokensOf document ++ rest) := by
  have same {token : Token} (other : token ≠ .closeArray) (tokens : List Token) :
      run? stack .firstItem (token :: tokens) =
        run? (.items [] :: stack) .value (token :: tokens) := by
    cases token <;> first | rfl | exact absurd rfl other
  cases document <;> rw [tokensOf] <;> exact same (by simp) _

theorem run?_items {items : List Document} (reads : ∀ item ∈ items, Reads (tokensOf item) item)
    (stack : List Frame) (read : List Document) (rest : List Token) :
    run? stack (.afterItem read)
        (items.flatMap (fun item => [Token.comma] ++ tokensOf item) ++ .closeArray :: rest) =
      run? (place (.array (read.reverse ++ items)) stack).1
        (place (.array (read.reverse ++ items)) stack).2 rest := by
  induction items generalizing read with
  | nil => rw [List.append_nil]; exact run?_cons rfl rest
  | cons item items ih =>
      have more := ih (fun other listed => reads other (.tail _ listed)) (item :: read)
      rw [List.flatMap_cons, List.append_assoc, List.append_assoc, List.singleton_append,
        run?_cons rfl, reads item List.mem_cons_self, place]
      simpa using more

theorem run?_members {members : List (String × Document)}
    (reads : ∀ member ∈ members, Reads (tokensOf member.2) member.2) (stack : List Frame)
    (read : List (String × Document)) (rest : List Token) :
    run? stack (.afterMember read)
        (members.flatMap (fun member =>
          [Token.comma] ++ (.string member.1 :: .colon :: tokensOf member.2)) ++
          .closeObject :: rest) =
      run? (place (.object (read.reverse ++ members)) stack).1
        (place (.object (read.reverse ++ members)) stack).2 rest := by
  induction members generalizing read with
  | nil => rw [List.append_nil]; exact run?_cons rfl rest
  | cons member members ih =>
      have more := ih (fun other listed => reads other (.tail _ listed)) (member :: read)
      rw [List.flatMap_cons, List.append_assoc, List.append_assoc, List.singleton_append,
        run?_cons rfl, List.cons_append, run?_cons rfl, List.cons_append, run?_cons rfl,
        reads member List.mem_cons_self, place]
      simpa using more

theorem intercalate_map_cons {α β : Type} (separator : List β) (text : α → List β) (first : α)
    (items : List α) :
    separator.intercalate ((first :: items).map text) =
      text first ++ items.flatMap fun item => separator ++ text item := by
  induction items generalizing first with
  | nil => simp
  | cons item items ih =>
      rw [List.map_cons, List.map_cons, List.intercalate_cons_cons, ← List.map_cons, ih,
        List.flatMap_cons, List.append_assoc, List.append_assoc]

/-- The machine reads the tokens of a stored document as that document. -/
theorem reads_tokensOf {document : Document} (stored : document.IsStored) :
    Reads (tokensOf document) document := by
  induction stored with
  | null | string =>
      intro stack rest
      rw [tokensOf]
      exact run?_cons rfl rest
  | @bool value =>
      intro stack rest
      rw [tokensOf]
      cases value <;> exact run?_cons rfl rest
  | @integer value low high =>
      intro stack rest
      rw [tokensOf]
      exact run?_cons (by simp [advance?, openValue?, documentOfWord?_displayInt low high]) rest
  | @array items _ ih =>
      intro stack rest
      rw [tokensOf, List.cons_append, List.cons_append, run?_cons rfl]
      cases items with
      | nil => exact run?_cons rfl rest
      | cons item items =>
          have others :=
            run?_items (fun other listed => ih other (.tail _ listed)) stack [item] rest
          rw [intercalate_map_cons, List.append_assoc, List.append_assoc, run?_firstItem,
            ih item List.mem_cons_self, place]
          simpa using others
  | @object members _ ih =>
      intro stack rest
      rw [tokensOf, List.cons_append, List.cons_append, run?_cons rfl]
      cases members with
      | nil => exact run?_cons rfl rest
      | cons member members =>
          have others :=
            run?_members (fun other listed => ih other (.tail _ listed)) stack [member] rest
          rw [intercalate_map_cons, List.append_assoc, List.append_assoc, List.cons_append,
            run?_cons rfl, List.cons_append, run?_cons rfl, ih member List.mem_cons_self, place]
          simpa using others

/-- A stored document is read back from its text. -/
theorem read?_render {document : Document} (stored : document.IsStored) :
    read? (render document) = some document := by
  have cut := lexesBefore_write stored 0 [] (by simp [EndsWord])
  have read := reads_tokensOf stored [] []
  rw [List.append_nil] at cut read
  rw [read?, render, cut]
  simpa [tokens?, finish?, place, run?] using read

end Json

end SheetCompiler
