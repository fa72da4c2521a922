import SheetCompiler.CodeFile
import SheetCompiler.Proofs.Schema.Header
import SheetCompiler.Proofs.Text.Words

/-!
# Identifiers of generated code

Which identifiers the generated language takes, and which of those that are made of names it
does. Names are safe and differ before they are put into snake case, but that loses underscores
and the case of letters, and only some of the keywords are written raw.
-/

set_option autoImplicit false

namespace SheetCompiler

open Text

/-- The keywords of the generated language, together with those that it keeps for later. -/
def keywords : List String :=
  ["Self", "abstract", "as", "async", "await", "become", "box", "break", "const", "continue",
    "crate", "do", "dyn", "else", "enum", "extern", "false", "final", "fn", "for", "gen", "if",
    "impl", "in", "let", "loop", "macro", "match", "mod", "move", "mut", "override", "priv",
    "pub", "ref", "return", "self", "static", "struct", "super", "trait", "true", "try", "type",
    "typeof", "unsafe", "unsized", "use", "virtual", "where", "while", "yield"]

/-- The keywords of paths, which cannot be written raw. -/
def pathKeywords : List String := ["Self", "crate", "self", "super"]

def isDecimal (c : Char) : Bool :=
  if Letter.isAscii c then c.isDigit else Category.decimalNumber.contains c

/-- There is a first character, and it is no digit. -/
def startsName : List Char → Bool
  | [] => false
  | c :: _ => !isDecimal c

/-- An identifier: no keyword, or a raw one of a word that can be written raw. -/
def isIdentifier (text : String) : Bool :=
  match stripFront? "r#".toList text.toList with
  | some name => startsName name && !pathKeywords.contains (String.ofList name)
  | none => startsName text.toList && !keywords.contains text

/-- The keywords that are not written raw, or are though they cannot be. -/
def unguardedWords : List String :=
  keywords.filter fun word => !reservedWords.contains word || pathKeywords.contains word

example : unguardedWords =
    ["Self", "abstract", "become", "box", "crate", "do", "final", "gen", "macro", "override",
      "priv", "self", "super", "try", "typeof", "unsized", "virtual"] := by decide

/-! ## Fields -/

/-- A name whose first letter or digit is a letter, and which is no unguarded keyword. -/
structure HasIdentifier (name : String) : Prop where
  starts : ∃ c, name.toList.find? Char.isAlphanum = some c ∧ c.isDigit = false
  guarded : Casing.snake name ∉ unguardedWords

/-- The words of a name without the case of their letters. -/
def caselessWords (name : String) : List (List Char) := (Casing.words name.toList).map lower

namespace IsSafeName

variable {name other : String}

theorem isAlphanumeric_eq (safe : IsSafeName name) {c : Char} (member : c ∈ name.toList) :
    Letter.isAlphanumeric c = c.isAlphanum := by
  rcases safe.chars c member with kept | rfl
  · have ascii := Letter.isAscii_of_isAlphanum kept
    simp [Letter.isAlphanumeric, Letter.isAlphabetic, Letter.isNumeric, ascii, Char.isAlphanum]
  · rfl

theorem filter_eq (safe : IsSafeName name) :
    name.toList.filter Letter.isAlphanumeric = name.toList.filter Char.isAlphanum :=
  List.filter_congr fun _ member => safe.isAlphanumeric_eq member

theorem isAlphanum_of_mem_words (safe : IsSafeName name) {word : List Char}
    (listed : word ∈ Casing.words name.toList) : ∀ c ∈ word, c.isAlphanum = true := by
  intro c member
  have found : c ∈ name.toList.filter Letter.isAlphanumeric := by
    rw [← Casing.flatten_words]
    exact List.mem_flatten.mpr ⟨word, listed, member⟩
  rw [safe.filter_eq] at found
  exact (List.mem_filter.mp found).2

theorem toList_snake (safe : IsSafeName name) :
    (Casing.snake name).toList = List.intercalate ['_'] (caselessWords name) := by
  rw [Casing.toList_snake, caselessWords]
  congr 1
  exact List.map_congr_left fun word listed =>
    Casing.lowerWord_ascii (safe.isAlphanum_of_mem_words listed)

theorem isAlphanum_of_mem_caselessWords (safe : IsSafeName name) {word : List Char}
    (listed : word ∈ caselessWords name) : word ≠ [] ∧ ∀ c ∈ word, c.isAlphanum = true := by
  obtain ⟨raw, cut, rfl⟩ := List.mem_map.mp listed
  constructor
  · simpa [lower] using Casing.ne_nil_of_mem_words cut
  · intro c member
    obtain ⟨d, inside, rfl⟩ := List.mem_map.mp member
    exact (Casing.toLower_ascii (safe.isAlphanum_of_mem_words cut d inside)).2.2.1

theorem mem_snake (safe : IsSafeName name) {c : Char} (member : c ∈ (Casing.snake name).toList) :
    c.isAlphanum = true ∨ c = '_' := by
  rw [safe.toList_snake] at member
  rcases mem_intercalate member with rfl | ⟨word, listed, inside⟩
  · exact .inr rfl
  · exact .inl ((safe.isAlphanum_of_mem_caselessWords listed).2 c inside)

theorem stripFront?_snake (safe : IsSafeName name) :
    stripFront? "r#".toList (Casing.snake name).toList = none := by
  rw [Option.eq_none_iff_forall_ne_some]
  intro rest found
  have whole := stripFront?_eq_some_iff.mp found
  have marked : '#' ∈ (Casing.snake name).toList := by
    rw [whole]
    exact List.mem_append_left _ (by decide)
  rcases safe.mem_snake marked with kept | same
  · exact absurd kept (by decide)
  · exact absurd same (by decide)

theorem startsName_snake (safe : IsSafeName name) :
    startsName (Casing.snake name).toList = true ↔
      ∃ c, name.toList.find? Char.isAlphanum = some c ∧ c.isDigit = false := by
  have first : name.toList.find? Char.isAlphanum = (name.toList.filter Char.isAlphanum).head? :=
    (List.head?_filter ..).symm
  rw [first, ← safe.filter_eq]
  cases kept : name.toList.filter Letter.isAlphanumeric with
  | nil =>
      have none : Casing.words name.toList = [] := Casing.words_eq_nil_iff.mpr kept
      rw [Casing.toList_snake, none]
      simp [startsName]
  | cons c later =>
      obtain ⟨rest, others, cut⟩ := Casing.words_eq_cons kept
      have letter : c.isAlphanum = true :=
        safe.isAlphanum_of_mem_words (cut ▸ List.mem_cons_self) c List.mem_cons_self
      obtain ⟨-, -, lowered, digit⟩ := Casing.toLower_ascii letter
      have ascii := Letter.isAscii_of_isAlphanum lowered
      have starts : ∃ tail, (Casing.snake name).toList = c.toLower :: tail := by
        rw [safe.toList_snake, caselessWords, cut]
        cases others with
        | nil => exact ⟨_, List.intercalate_singleton⟩
        | cons other others => exact ⟨_, List.intercalate_cons_cons⟩
      obtain ⟨tail, whole⟩ := starts
      simp [whole, startsName, isDecimal, ascii, digit]

/-- The identifier of a field is one unless its name has no letter in front of its digits, or
is a keyword that is not guarded. -/
theorem isIdentifier_iff (safe : IsSafeName name) :
    isIdentifier (fieldIdentifier name) = true ↔ HasIdentifier name := by
  have condition : HasIdentifier name ↔
      startsName (Casing.snake name).toList = true ∧ Casing.snake name ∉ unguardedWords := by
    rw [safe.startsName_snake]
    exact ⟨fun has => ⟨has.starts, has.guarded⟩, fun ⟨starts, guarded⟩ => ⟨starts, guarded⟩⟩
  have covered : ∀ word ∈ reservedWords, word ∈ keywords := by decide
  rw [condition, fieldIdentifier]
  split
  · rename_i reserved
    rw [List.contains_iff_mem] at reserved
    have raw : stripFront? "r#".toList ("r#" ++ Casing.snake name).toList =
        some (Casing.snake name).toList := by
      rw [stripFront?_eq_some_iff, String.toList_append]
    rw [isIdentifier, raw]
    simp [unguardedWords, reserved, covered _ reserved]
  · rename_i free
    rw [isIdentifier, safe.stripFront?_snake]
    simp_all [unguardedWords]

theorem caselessWords_of_snake (safe : IsSafeName name) :
    caselessWords name = if (Casing.snake name).toList = [] then []
      else pieces (· == '_') (Casing.snake name).toList := by
  have plain : ∀ word ∈ caselessWords name, ∀ c ∈ word, (c == '_') = false := by
    intro word listed c member
    have kept := (safe.isAlphanum_of_mem_caselessWords listed).2 c member
    rw [beq_eq_false_iff_ne]
    rintro rfl
    cases kept
  have full : ∀ word ∈ caselessWords name, word ≠ [] := fun word listed =>
    (safe.isAlphanum_of_mem_caselessWords listed).1
  rw [safe.toList_snake]
  by_cases filled : caselessWords name = []
  · simp [filled]
  · rw [if_neg (intercalate_ne_nil filled full), pieces_intercalate rfl filled plain]

/-- Two fields share an identifier exactly when their names have the same words, whatever the
case of their letters and the underscores between them. -/
theorem fieldIdentifier_eq_iff (safe : IsSafeName name) (sound : IsSafeName other) :
    fieldIdentifier name = fieldIdentifier other ↔ caselessWords name = caselessWords other := by
  have unraw {name other : String} (sound : IsSafeName other) (raw : "r#" ++ Casing.snake name =
      Casing.snake other) : False := by
    have stripped := sound.stripFront?_snake
    rw [← raw, String.toList_append, stripFront?_eq_some_iff.mpr rfl] at stripped
    cases stripped
  constructor
  · intro same
    have snakes : Casing.snake name = Casing.snake other := by
      unfold fieldIdentifier at same
      dsimp only at same
      split at same
      · split at same
        · rw [← String.toList_inj] at same ⊢
          simpa using same
        · exact (unraw sound same).elim
      · split at same
        · exact (unraw safe same.symm).elim
        · exact same
    rw [safe.caselessWords_of_snake, sound.caselessWords_of_snake, snakes]
  · intro same
    have snakes : Casing.snake name = Casing.snake other := by
      rw [← String.toList_inj, safe.toList_snake, sound.toList_snake, same]
    rw [fieldIdentifier, fieldIdentifier, snakes]

end IsSafeName

/-! ## Records -/

/-- A table name whose first letter or digit has an upper case form that does not start with a
digit, and which is not the one keyword in camel case. -/
structure HasRecordName (name : String) : Prop where
  starts : ∃ c first, name.toList.find? Letter.isAlphanumeric = some c ∧
    (Letter.toUpper c).head? = some first ∧ isDecimal first = false
  guarded : Casing.camel name ≠ "Self"

theorem isLower_of_camel {name : String} {c : Char} {rest : List Char}
    (whole : (Casing.camel name).toList = c :: rest) : c.isLower = false := by
  have first := Casing.head?_camel name
  rw [whole, List.head?_cons] at first
  obtain ⟨d, -, upper⟩ := Option.bind_eq_some_iff.mp first.symm
  exact Letter.isLower_of_mem_toUpper (List.mem_of_head? upper)

theorem startsName_camel_iff (name : String) : startsName (Casing.camel name).toList = true ↔
    ∃ c first, name.toList.find? Letter.isAlphanumeric = some c ∧
      (Letter.toUpper c).head? = some first ∧ isDecimal first = false := by
  have first := Casing.head?_camel name
  cases whole : (Casing.camel name).toList with
  | nil =>
      rw [whole, List.head?_nil, eq_comm, Option.bind_eq_none_iff] at first
      constructor
      · intro none
        cases none
      · rintro ⟨c, d, found, upper, -⟩
        rw [first c found] at upper
        cases upper
  | cons d rest =>
      rw [whole, List.head?_cons] at first
      obtain ⟨c, found, upper⟩ := Option.bind_eq_some_iff.mp first.symm
      simp [startsName, found, upper]

/-- The other keywords start with a lower case letter. -/
theorem camel_mem_keywords_iff (name : String) :
    Casing.camel name ∈ keywords ↔ Casing.camel name = "Self" := by
  constructor
  · intro listed
    have lowered : ∀ word ∈ keywords, word ≠ "Self" →
        word.toList.head?.map Char.isLower = some true := by decide
    by_contra different
    have letter := lowered _ listed different
    obtain ⟨c, front, lower⟩ := Option.map_eq_some_iff.mp letter
    obtain ⟨rest, whole⟩ := List.head?_eq_some_iff.mp front
    rw [isLower_of_camel whole] at lower
    cases lower
  · intro same
    rw [same]
    decide

/-- The record of a table has an identifier for a name unless there is no letter in front of
the digits of the table name, or it is `Self`. -/
theorem isIdentifier_camel_iff (name : String) :
    isIdentifier (Casing.camel name) = true ↔ HasRecordName name := by
  have plain : stripFront? "r#".toList (Casing.camel name).toList = none := by
    rw [Option.eq_none_iff_forall_ne_some]
    intro rest found
    have letter := isLower_of_camel (stripFront?_eq_some_iff.mp found)
    cases letter
  rw [isIdentifier, plain, Bool.and_eq_true, startsName_camel_iff, Bool.not_eq_true',
    Bool.eq_false_iff, ne_eq, List.contains_iff_mem, camel_mem_keywords_iff]
  constructor
  · rintro ⟨starts, guarded⟩
    exact ⟨starts, guarded⟩
  · intro has
    exact ⟨has.starts, has.guarded⟩

end SheetCompiler
