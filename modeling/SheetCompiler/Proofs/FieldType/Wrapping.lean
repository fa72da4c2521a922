import SheetCompiler.FieldType.Declaration
import SheetCompiler.Proofs.Text.Blanks

/-!
# Array wrappers

The texts that put array wrappers around a name. A text can be unwrapped in several orders;
removing the outermost wrapper always leaves a text with one wrapper less, so the order
in which `peel` takes them does not matter. One name is in the way: the word `repeated` with a
blank and brackets behind it reads as a wrapper around empty brackets.
-/

set_option autoImplicit false

namespace SheetCompiler.FieldType

open Text

/-! ## Letter case -/

section LetterCase

variable {c d : Char} {cs front rest : List Char}

/-- Only the capital letters have another form in lower case. -/
theorem toLower_eq_self_or (c : Char) :
    c.toLower = c ∨ 65 ≤ c.toNat ∧ c.toNat ≤ 90 ∧ c.toLower.toNat = c.toNat + 32 := by
  unfold Char.toLower
  split
  · rename_i upper
    have first : 65 ≤ c.toNat := UInt32.le_iff_toNat_le.mp upper.1
    have last : c.toNat ≤ 90 := UInt32.le_iff_toNat_le.mp upper.2
    refine .inr ⟨first, last, ?_⟩
    change (c.toNat + 32) % 2 ^ 32 = c.toNat + 32
    omega
  · exact .inl rfl

theorem eq_of_toLower_eq (lowered : c.toLower = d) (plain : d.toNat < 97 ∨ 122 < d.toNat) :
    c = d := by
  rcases toLower_eq_self_or c with same | ⟨first, last, shifted⟩
  · exact same.symm.trans lowered
  · rw [lowered] at shifted
    omega

theorem isBlank_toLower (c : Char) : isBlank c.toLower = isBlank c := by
  rcases toLower_eq_self_or c with same | ⟨first, last, shifted⟩
  · rw [same]
  · unfold isBlank
    rw [shifted]
    grind

theorem stripFrontAnyCase?_eq_some_iff :
    stripFrontAnyCase? front cs = some rest ↔
      ∃ head, lower head = lower front ∧ cs = head ++ rest := by
  unfold stripFrontAnyCase?
  constructor
  · intro stripped
    split at stripped
    · rename_i matched
      obtain rfl := Option.some.inj stripped
      exact ⟨cs.take front.length, eq_of_beq matched, (List.take_append_drop _ cs).symm⟩
    · cases stripped
  · rintro ⟨head, spelled, rfl⟩
    have long : head.length = front.length := by
      have lengths := congrArg List.length spelled
      rwa [lower, lower, List.length_map, List.length_map] at lengths
    rw [← long, List.take_left, List.drop_left, if_pos (beq_iff_eq.mpr spelled)]

theorem toLower_mem_lower (member : c ∈ cs) : c.toLower ∈ lower cs := List.mem_map_of_mem member

end LetterCase

/-! ## Wrapped names -/

/-- The texts that put array wrappers around a name, in any mixture and order, with the
number of wrappers. -/
inductive Nested (isName : List Char → Prop) : List Char → Nat → Prop where
  | name {cs : List Char} : isName cs → Nested isName cs 0
  | repeated {keyword before inner : List Char} {depth : Nat} :
      lower keyword = "repeated ".toList → Blanks before → Nested isName inner depth →
      Nested isName (keyword ++ (before ++ inner)) (depth + 1)
  | listed {inner after : List Char} {depth : Nat} :
      Nested isName inner depth → Blanks after →
      Nested isName (inner ++ (after ++ "[]".toList)) (depth + 1)
  | enclosed {before inner after : List Char} {depth : Nat} :
      Blanks before → Nested isName inner depth → Blanks after →
      Nested isName (['['] ++ ((before ++ (inner ++ after)) ++ [']'])) (depth + 1)

/-- What makes the wrappers around a name recognizable: it neither begins with a wrapper nor
ends in half of one. -/
structure Naming (isName : List Char → Prop) : Prop where
  trimmed : ∀ {cs}, isName cs → isName (trim cs)
  full : ∀ {cs}, isName cs → trim cs ≠ []
  unopened : ∀ {cs keyword rest}, isName cs → lower keyword = "repeated ".toList →
    trim cs ≠ keyword ++ rest
  closed : ∀ {cs}, isName cs → (trim cs).getLast? ≠ some '['

/-- Brackets with nothing in them. -/
def IsEmptyBrackets (cs : List Char) : Prop :=
  ∃ between, Blanks between ∧ trim cs = ['['] ++ (between ++ [']'])

/-- Array wrappers that leave no name. -/
def IsHollow (cs : List Char) : Prop := ∃ depth, Nested IsEmptyBrackets cs depth

/-- No name is taken for a keyword: the names have other spellings, or it would be a keyword
with nothing but empty brackets behind it. -/
def Unmistaken (isName : List Char → Prop) (cs : List Char) : Prop :=
  (∀ name, isName name → lower (trim name) ≠ "repeated".toList) ∨ ¬ IsHollow (trim cs)

section Unwrapping

variable {isName : List Char → Prop} {cs rest keyword before inner after : List Char} {depth : Nat}

/-! ### Removing a wrapper leaves what it was put around -/

theorem Nested.of_unwrap? (unwrapped : unwrap? cs = some rest) (nested : Nested isName rest depth) :
    Nested isName cs (depth + 1) := by
  unfold unwrap? at unwrapped
  split at unwrapped
  · rename_i stripped opened
    obtain rfl := Option.some.inj unwrapped
    obtain ⟨keyword, spelled, rfl⟩ := stripFrontAnyCase?_eq_some_iff.mp opened
    obtain ⟨before, blank, same⟩ := exists_blanks_trimStart stripped
    rw [same]
    exact .repeated spelled blank nested
  · split at unwrapped
    · rename_i stripped closed
      obtain rfl := Option.some.inj unwrapped
      obtain rfl := stripBack?_eq_some_iff.mp closed
      obtain ⟨after, blank, same⟩ := exists_blanks_trimEnd stripped
      rw [same, List.append_assoc]
      exact .listed nested blank
    · obtain ⟨opened, front, close⟩ := Option.bind_eq_some_iff.mp unwrapped
      obtain ⟨enclosed, back, rfl⟩ := Option.map_eq_some_iff.mp close
      obtain rfl := stripFront?_eq_some_iff.mp front
      obtain rfl := stripBack?_eq_some_iff.mp back
      obtain ⟨before, after, leading, trailing, same⟩ := exists_blanks_trim enclosed
      rw [same]
      exact .enclosed leading nested trailing

theorem nested_peel (cs : List Char) (known : isName (peel cs).1) :
    Nested isName cs (peel cs).2 := by
  fun_induction peel cs with
  | case1 cs plain => exact .name known
  | case2 cs rest unwrapped inner depth peeled ih =>
      rw [peeled] at ih
      exact .of_unwrap? unwrapped (ih known)

theorem blank_mem_keyword (spelled : lower keyword = "repeated ".toList) : ' ' ∈ keyword := by
  have inside : ' ' ∈ lower keyword := by
    rw [spelled]
    decide
  obtain ⟨c, member, lowered⟩ := List.mem_map.mp inside
  exact eq_of_toLower_eq lowered (.inl (by decide)) ▸ member

theorem Nested.exists_structural (nested : Nested isName cs (depth + 1)) :
    ∃ c ∈ cs, isStructural c = true := by
  cases nested with
  | repeated spelled =>
      exact ⟨' ', List.mem_append_left _ (blank_mem_keyword spelled), rfl⟩
  | listed =>
      exact ⟨'[', List.mem_append_right _ (List.mem_append_right _ List.mem_cons_self), rfl⟩
  | enclosed => exact ⟨'[', List.mem_cons_self, rfl⟩

/-! ### The wrappers without the blanks around them -/

theorem trim_repeated (spelled : lower keyword = "repeated ".toList) (blank : Blanks before)
    (full : trim inner ≠ []) :
    ∃ between, Blanks between ∧
      trim (keyword ++ (before ++ inner)) = keyword ++ (between ++ trim inner) := by
  obtain ⟨leading, trailing, front, back, same⟩ := exists_blanks_trim inner
  cases keyword with
  | nil => cases spelled
  | cons c keyword =>
      have initial : c.toLower = 'r' := (List.cons.inj spelled).1
      have visible : isBlank c = false := by
        rw [← isBlank_toLower, initial]
        rfl
      have tight : Tight ([c] ++ ((keyword ++ (before ++ leading)) ++ trim inner)) :=
        (Tight.singleton visible).between (List.cons_ne_nil _ _) (tight_trim inner) full _
      refine ⟨before ++ leading, blank.append front, ?_⟩
      have trimmed := tight.trim_between (List.cons_ne_nil _ _) blanks_nil back
      rw [List.nil_append] at trimmed
      calc trim (c :: keyword ++ (before ++ inner))
          = trim ([c] ++ ((keyword ++ (before ++ leading)) ++ trim inner) ++ trailing) := by
            conv_lhs => rw [same]
            simp only [List.append_assoc, List.cons_append, List.nil_append]
        _ = c :: keyword ++ ((before ++ leading) ++ trim inner) := by
            rw [trimmed]
            simp only [List.append_assoc, List.cons_append, List.nil_append]

theorem trim_listed (blank : Blanks after) (full : trim inner ≠ []) :
    ∃ between, Blanks between ∧
      trim (inner ++ (after ++ "[]".toList)) = trim inner ++ (between ++ "[]".toList) := by
  obtain ⟨leading, trailing, front, back, same⟩ := exists_blanks_trim inner
  have tight : Tight (trim inner ++ ((trailing ++ after) ++ "[]".toList)) :=
    (tight_trim inner).between full (.of_cons_concat rfl rfl []) (by decide) _
  refine ⟨trailing ++ after, back.append blank, ?_⟩
  have trimmed := tight.trim_between (List.append_ne_nil_of_left_ne_nil full _) front blanks_nil
  rw [← trimmed]
  conv_lhs => rw [same]
  simp only [List.append_assoc, List.append_nil]

theorem trim_enclosed (cs : List Char) : trim (['['] ++ (cs ++ [']'])) = ['['] ++ (cs ++ [']']) :=
  (Tight.of_cons_concat rfl rfl cs).trim_eq

/-! ### One wrapper at a time -/

theorem unwrap?_repeated (spelled : lower keyword = "repeated ".toList) :
    unwrap? (keyword ++ rest) = some (trimStart rest) := by
  have opened : stripFrontAnyCase? "repeated ".toList (keyword ++ rest) = some rest :=
    stripFrontAnyCase?_eq_some_iff.mpr ⟨keyword, spelled.trans (by decide), rfl⟩
  rw [unwrap?, opened]

theorem unwrap?_listed
    (unopened : stripFrontAnyCase? "repeated ".toList (cs ++ "[]".toList) = none) :
    unwrap? (cs ++ "[]".toList) = some (trimEnd cs) := by
  have closed : stripBack? "[]".toList (cs ++ "[]".toList) = some cs :=
    stripBack?_eq_some_iff.mpr rfl
  rw [unwrap?, unopened]
  dsimp only
  rw [closed]

theorem unwrap?_enclosed (full : cs ≠ []) (ends : cs.getLast? ≠ some '[') :
    unwrap? (['['] ++ (cs ++ [']'])) = some (trim cs) := by
  have unopened : stripFrontAnyCase? "repeated ".toList (['['] ++ (cs ++ [']'])) = none := by
    cases stripped : stripFrontAnyCase? "repeated ".toList (['['] ++ (cs ++ [']'])) with
    | none => rfl
    | some rest =>
        obtain ⟨head, spelled, same⟩ := stripFrontAnyCase?_eq_some_iff.mp stripped
        cases head with
        | nil => cases spelled
        | cons c head =>
            obtain rfl := (List.cons.inj same).1
            cases (List.cons.inj spelled).1
  have unlisted : stripBack? "[]".toList (['['] ++ (cs ++ [']'])) = none := by
    cases stripped : stripBack? "[]".toList (['['] ++ (cs ++ [']'])) with
    | none => rfl
    | some rest =>
        have same := stripBack?_eq_some_iff.mp stripped
        rw [show "[]".toList = ['['] ++ [']'] from rfl, ← List.append_assoc, ← List.append_assoc]
          at same
        have last := congrArg List.getLast? (List.append_inj_left' same rfl)
        rw [List.getLast?_append_of_ne_nil _ full, List.getLast?_concat] at last
        exact absurd last ends
  have closed : stripBack? [']'] (cs ++ [']']) = some cs := stripBack?_eq_some_iff.mpr rfl
  rw [unwrap?, unopened]
  dsimp only
  rw [unlisted]
  exact congrArg (Option.map trim) closed

theorem tight_unwrap? (tight : Tight cs) (unwrapped : unwrap? cs = some rest) : Tight rest := by
  unfold unwrap? at unwrapped
  split at unwrapped
  · rename_i stripped opened
    obtain rfl := Option.some.inj unwrapped
    obtain ⟨keyword, -, rfl⟩ := stripFrontAnyCase?_eq_some_iff.mp opened
    obtain ⟨before, -, same⟩ := exists_blanks_trimStart stripped
    refine ⟨fun c starts => ?_, fun c ends => tight.last c ?_⟩
    · have visible := List.head?_dropWhile_not isBlank stripped
      rw [show stripped.dropWhile isBlank = trimStart stripped from rfl, starts] at visible
      exact visible
    · rw [same, List.getLast?_append, List.getLast?_append, ends]
      rfl
  · split at unwrapped
    · rename_i stripped closed
      obtain rfl := Option.some.inj unwrapped
      obtain rfl := stripBack?_eq_some_iff.mp closed
      have front : trimStart stripped = stripped := by
        cases stripped with
        | nil => rfl
        | cons c stripped => exact List.dropWhile_cons_of_neg (by simp [tight.first c rfl])
      have whole := tight_trim stripped
      rwa [trim, front] at whole
    · obtain ⟨opened, -, close⟩ := Option.bind_eq_some_iff.mp unwrapped
      obtain ⟨enclosed, -, rfl⟩ := Option.map_eq_some_iff.mp close
      exact tight_trim enclosed

theorem tight_peel (tight : Tight cs) : Tight (peel cs).1 := by
  fun_induction peel cs with
  | case1 => exact tight
  | case2 cs rest unwrapped inner depth peeled ih =>
      rw [peeled] at ih
      exact ih (tight_unwrap? tight unwrapped)

variable (naming : Naming isName)
include naming

theorem Nested.full (nested : Nested isName cs depth) : trim cs ≠ [] := by
  induction nested with
  | name known => exact naming.full known
  | repeated spelled blank _ ih =>
      obtain ⟨between, -, trimmed⟩ := trim_repeated spelled blank ih
      rw [trimmed]
      exact List.append_ne_nil_of_right_ne_nil _ (List.append_ne_nil_of_right_ne_nil _ ih)
  | listed _ blank ih =>
      obtain ⟨between, -, trimmed⟩ := trim_listed blank ih
      rw [trimmed]
      exact List.append_ne_nil_of_left_ne_nil ih _
  | enclosed =>
      rw [trim_enclosed]
      exact List.cons_ne_nil _ _

theorem Nested.trimmed (nested : Nested isName cs depth) : Nested isName (trim cs) depth := by
  induction nested with
  | name known => exact .name (naming.trimmed known)
  | repeated spelled blank nested ih =>
      obtain ⟨between, blanks, trimmed⟩ := trim_repeated spelled blank (nested.full naming)
      rw [trimmed]
      exact .repeated spelled blanks ih
  | listed nested blank ih =>
      obtain ⟨between, blanks, trimmed⟩ := trim_listed blank (nested.full naming)
      rw [trimmed]
      exact .listed ih blanks
  | enclosed before nested after =>
      rw [trim_enclosed]
      exact .enclosed before nested after

/-- A wrapped name ends in the last character of a name or in a bracket that closes. -/
theorem Nested.getLast?_ne (nested : Nested isName cs depth) :
    (trim cs).getLast? ≠ some '[' := by
  induction nested with
  | name known => exact naming.closed known
  | repeated spelled blank nested ih =>
      obtain ⟨between, -, trimmed⟩ := trim_repeated spelled blank (nested.full naming)
      rw [trimmed, List.getLast?_append_of_ne_nil, List.getLast?_append_of_ne_nil]
      · exact ih
      · exact nested.full naming
      · exact List.append_ne_nil_of_right_ne_nil _ (nested.full naming)
  | listed nested blank =>
      obtain ⟨between, -, trimmed⟩ := trim_listed blank (nested.full naming)
      rw [trimmed, List.getLast?_append_of_ne_nil, List.getLast?_append_of_ne_nil]
      · decide
      · decide
      · exact List.append_ne_nil_of_right_ne_nil _ (by decide)
  | enclosed =>
      rw [trim_enclosed, ← List.append_assoc, List.getLast?_concat]
      decide

/-- A wrapped text is too long for the keyword or has brackets. -/
theorem Nested.isName_of_keyword (nested : Nested isName cs depth)
    (same : lower (trim cs) = "repeated".toList) : isName cs := by
  have foreign (c : Char) (member : c ∈ trim cs) (apart : c.toLower ∉ "repeated".toList) : False :=
    apart (same ▸ toLower_mem_lower member)
  cases nested with
  | name known => exact known
  | repeated spelled blank nested =>
      obtain ⟨between, -, trimmed⟩ := trim_repeated spelled blank (nested.full naming)
      have lengths := congrArg List.length same
      have keyword := congrArg List.length spelled
      rw [trimmed] at lengths
      simp only [lower, List.length_map, List.length_append] at lengths keyword
      have eight : "repeated".toList.length = 8 := by decide
      have nine : "repeated ".toList.length = 9 := by decide
      omega
  | listed nested blank =>
      obtain ⟨between, -, trimmed⟩ := trim_listed blank (nested.full naming)
      refine (foreign '[' ?_ (by decide)).elim
      rw [trimmed]
      exact List.mem_append_right _ (List.mem_append_right _ List.mem_cons_self)
  | enclosed =>
      refine (foreign '[' ?_ (by decide)).elim
      rw [trim_enclosed]
      exact List.mem_cons_self

omit naming

/-! ### Wrappers come off from the outside -/

/-- The keyword in front of a listed text is in front of the text already, unless the text is
the keyword without its blank. -/
theorem keyword_before_list (apart : lower (trim inner) ≠ "repeated".toList) (blank : Blanks after)
    (spelled : lower keyword = "repeated ".toList)
    (same : trim inner ++ (after ++ "[]".toList) = keyword ++ rest) :
    ∃ middle, trim inner = keyword ++ middle ∧ rest = middle ++ (after ++ "[]".toList) := by
  rcases List.append_eq_append_iff.mp same with ⟨tail, front, back⟩ | ⟨middle, front, back⟩
  · exfalso
    cases tail with
    | nil =>
        rw [List.append_nil] at front
        have ends := congrArg List.getLast? spelled
        rw [front, lower, List.getLast?_map] at ends
        obtain ⟨c, last, lowered⟩ := Option.map_eq_some_iff.mp ends
        have visible := (tight_trim inner).last c last
        rw [← isBlank_toLower, lowered] at visible
        cases visible
    | cons c tail =>
        rw [front, lower, List.map_append, List.map_cons] at spelled
        have listed : c.toLower ∈ "repeated ".toList :=
          spelled ▸ List.mem_append_right _ List.mem_cons_self
        have gap : isBlank c.toLower = true := by
          rw [isBlank_toLower]
          cases after with
          | nil =>
              obtain rfl := (List.cons.inj back).1
              exact absurd listed (by decide)
          | cons d after =>
              obtain rfl := (List.cons.inj back).1
              exact blank d List.mem_cons_self
        have plain : "repeated".toList.any isBlank = false := by decide
        exact apart (eq_of_append_blank
          (fun e member => Bool.eq_false_iff.mpr (List.any_eq_false.mp plain e member)) gap spelled)
  · exact ⟨middle, front, back⟩

theorem isEmptyBrackets_list : IsEmptyBrackets "[]".toList := ⟨[], blanks_nil, by decide⟩

/-- The word with a blank and brackets behind it is a keyword in front of empty brackets. -/
theorem nested_keyword_list (word : lower (trim inner) = "repeated".toList) (blank : Blanks after)
    (spelled : lower keyword = "repeated ".toList)
    (same : trim inner ++ (after ++ "[]".toList) = keyword ++ rest) :
    Nested IsEmptyBrackets (trim inner ++ (after ++ "[]".toList)) 1 := by
  have eight : (trim inner).length = 8 := by
    have lengths := congrArg List.length word
    rwa [lower, List.length_map] at lengths
  have nine : keyword.length = 9 := by
    have lengths := congrArg List.length spelled
    rwa [lower, List.length_map] at lengths
  rcases List.append_eq_append_iff.mp same with ⟨tail, front, back⟩ | ⟨middle, front, -⟩
  · have lengths := congrArg List.length front
    rw [List.length_append] at lengths
    obtain ⟨c, rfl⟩ := List.length_eq_one_iff.mp (show tail.length = 1 by omega)
    cases after with
    | nil =>
        obtain rfl := (List.cons.inj back).1
        rw [front, lower, List.map_append, ← lower, word] at spelled
        exact absurd spelled (by decide)
    | cons d after =>
        obtain rfl := (List.cons.inj back).1
        rw [List.cons_append, List.append_cons, ← front]
        exact .repeated spelled (fun e member => blank e (List.mem_cons_of_mem d member))
          (.name isEmptyBrackets_list)
  · have lengths := congrArg List.length front
    rw [List.length_append] at lengths
    omega

theorem Unmistaken.of_unwrap? (unmistaken : Unmistaken isName cs)
    (unwrapped : unwrap? (trim cs) = some (trim rest)) : Unmistaken isName rest :=
  unmistaken.imp_right fun free ⟨depth, hollow⟩ =>
    free ⟨depth + 1, .of_unwrap? unwrapped hollow⟩

section Recognizable

variable (naming : Naming isName)
include naming

/-- The outermost wrapper comes off, whichever of several readings it belongs to. -/
theorem Nested.exists_unwrap? (nested : Nested isName cs depth) (unmistaken : Unmistaken isName cs)
    (wrappers : Nat) (wrapped : depth = wrappers + 1) :
    ∃ rest, unwrap? (trim cs) = some (trim rest) ∧ Nested isName rest wrappers := by
  induction nested generalizing wrappers with
  | name => cases wrapped
  | @repeated keyword before inner depth spelled blank nested =>
      obtain rfl := Nat.succ.inj wrapped
      obtain ⟨between, gap, trimmed⟩ := trim_repeated spelled blank (nested.full naming)
      refine ⟨inner, ?_, nested⟩
      rw [trimmed, unwrap?_repeated spelled, trimStart_append gap,
        (tight_trim inner).trimStart_eq]
  | @listed inner after depth nested blank ih =>
      obtain rfl := Nat.succ.inj wrapped
      obtain ⟨between, gap, trimmed⟩ := trim_listed blank (nested.full naming)
      rw [trimmed]
      cases opened : stripFrontAnyCase? "repeated ".toList
          (trim inner ++ (between ++ "[]".toList)) with
      | none =>
          refine ⟨inner, ?_, nested⟩
          rw [← List.append_assoc] at opened ⊢
          rw [unwrap?_listed opened, trimEnd_append gap, (tight_trim inner).trimEnd_eq]
      | some stripped =>
          -- The keyword belongs to the inner text, so the list brackets stay with what is left.
          obtain ⟨keyword, spelled, same⟩ := stripFrontAnyCase?_eq_some_iff.mp opened
          have apart : lower (trim inner) ≠ "repeated".toList := by
            intro word
            rcases unmistaken with others | free
            · exact others inner (nested.isName_of_keyword naming word) word
            · exact free ⟨1, trimmed ▸ nested_keyword_list word gap spelled same⟩
          obtain ⟨middle, front, rfl⟩ := keyword_before_list apart gap spelled same
          cases depth with
          | zero =>
              cases nested with
              | name known => exact absurd front (naming.unopened known spelled)
          | succ depth =>
              have inside : Unmistaken isName inner := unmistaken.imp_right
                fun free ⟨depth, hollow⟩ => free ⟨depth + 1, trimmed ▸ hollow.listed gap⟩
              obtain ⟨rest, inside, deeper⟩ := ih inside depth rfl
              rw [front, unwrap?_repeated spelled] at inside
              have core : trimStart middle = trim rest := Option.some.inj inside
              have full := deeper.full naming
              have tight : Tight (trim rest ++ (between ++ "[]".toList)) :=
                (tight_trim rest).between full (.of_cons_concat rfl rfl []) (by decide) _
              obtain ⟨leading, first, split⟩ := exists_blanks_trimStart middle
              refine ⟨trim rest ++ (between ++ "[]".toList), ?_,
                .listed (deeper.trimmed naming) gap⟩
              rw [same, unwrap?_repeated spelled, split, core, List.append_assoc,
                trimStart_append first, tight.trimStart_eq, tight.trim_eq]
  | @enclosed before inner after depth front nested back =>
      obtain rfl := Nat.succ.inj wrapped
      have full := nested.full naming
      have inside : trim (before ++ (inner ++ after)) = trim inner := trim_append full front back
      refine ⟨inner, ?_, nested⟩
      rw [trim_enclosed, unwrap?_enclosed, inside]
      · intro empty
        rw [empty] at inside
        exact full inside.symm
      · intro ends
        have last := getLast?_trim ends rfl
        rw [inside] at last
        exact nested.getLast?_ne naming last

/-! ### Peeling -/

omit naming in
theorem peel_of_unwrap?_eq_none (whole : unwrap? cs = none) : peel cs = (cs, 0) := by
  rw [peel]
  split
  · rfl
  · rename_i rest unwrapped
    rw [whole] at unwrapped
    cases unwrapped

omit naming in
theorem peel_of_unwrap?_eq_some (unwrapped : unwrap? cs = some rest) :
    peel cs = ((peel rest).1, (peel rest).2 + 1) := by
  rw [peel]
  split
  · rename_i whole
    rw [unwrapped] at whole
    cases whole
  · rename_i inner found
    obtain rfl := Option.some.inj (unwrapped.symm.trans found)
    rfl

/-- `peel` takes off every wrapper and goes on with the name. -/
theorem Nested.peel_trim (nested : Nested isName cs depth) (unmistaken : Unmistaken isName cs) :
    ∃ name, isName name ∧
      peel (trim cs) = ((peel (trim name)).1, (peel (trim name)).2 + depth) := by
  induction depth generalizing cs with
  | zero =>
      cases nested with
      | name known => exact ⟨cs, known, rfl⟩
  | succ depth ih =>
      obtain ⟨rest, unwrapped, deeper⟩ := nested.exists_unwrap? naming unmistaken depth rfl
      obtain ⟨name, known, peeled⟩ := ih deeper (unmistaken.of_unwrap? unwrapped)
      exact ⟨name, known, by rw [peel_of_unwrap?_eq_some unwrapped, peeled]; rfl⟩

end Recognizable

/-! ### Plain names and empty brackets -/

/-- Names without structure are recognizable. -/
theorem naming_of_plain (trimmed : ∀ {cs}, isName cs → isName (trim cs))
    (full : ∀ {cs}, isName cs → trim cs ≠ [])
    (plain : ∀ {cs}, isName cs → ∀ c ∈ trim cs, isStructural c = false) : Naming isName where
  trimmed := trimmed
  full := full
  unopened known spelled same := by
    have structural := plain known ' ' (same ▸ List.mem_append_left _ (blank_mem_keyword spelled))
    cases structural
  closed known ends := by
    have structural := plain known '[' (List.mem_of_getLast? ends)
    cases structural

theorem peel_of_plain (plain : ∀ c ∈ cs, isStructural c = false) : peel cs = (cs, 0) := by
  apply peel_of_unwrap?_eq_none
  cases unwrapped : unwrap? cs with
  | none => rfl
  | some rest =>
      have wrapped : Nested (· = rest) cs 1 := .of_unwrap? unwrapped (.name rfl)
      obtain ⟨c, member, structural⟩ := wrapped.exists_structural
      rw [plain c member] at structural
      cases structural

theorem naming_emptyBrackets : Naming IsEmptyBrackets where
  trimmed := by
    rintro cs ⟨between, blank, same⟩
    exact ⟨between, blank, (trim_trim cs).trans same⟩
  full := by
    rintro cs ⟨between, -, same⟩ empty
    rw [same] at empty
    cases empty
  unopened := by
    rintro cs keyword rest ⟨between, -, same⟩ spelled front
    rw [same] at front
    cases keyword with
    | nil => cases spelled
    | cons c keyword =>
        obtain rfl := (List.cons.inj front).1
        cases (List.cons.inj spelled).1
  closed := by
    rintro cs ⟨between, -, same⟩
    rw [same, ← List.append_assoc, List.getLast?_concat]
    decide

theorem unmistaken_emptyBrackets (cs : List Char) : Unmistaken IsEmptyBrackets cs := by
  refine .inl ?_
  rintro name ⟨between, -, same⟩ word
  rw [same] at word
  cases (List.cons.inj word).1

theorem peel_emptyBrackets (empty : IsEmptyBrackets cs) : (peel (trim cs)).1 = [] := by
  obtain ⟨between, blank, same⟩ := empty
  have nothing : peel [] = ([], 0) := peel_of_plain nofun
  rw [same]
  cases between with
  | nil =>
      have unwrapped : unwrap? "[]".toList = some [] := by decide
      rw [show ['['] ++ ([] ++ [']']) = "[]".toList from rfl, peel_of_unwrap?_eq_some unwrapped,
        nothing]
  | cons c between =>
      have ends : (c :: between).getLast? ≠ some '[' := by
        intro last
        cases blank '[' (List.mem_of_getLast? last)
      have hollow : trim (c :: between) = [] :=
        trim_eq_nil_iff.mpr (List.all_eq_true.mpr blank)
      rw [peel_of_unwrap?_eq_some (unwrap?_enclosed (List.cons_ne_nil c between) ends), hollow,
        nothing]

theorem IsHollow.peel_trim (hollow : IsHollow cs) : (peel (trim cs)).1 = [] := by
  obtain ⟨depth, nested⟩ := hollow
  obtain ⟨name, empty, peeled⟩ :=
    nested.peel_trim naming_emptyBrackets (unmistaken_emptyBrackets cs)
  rw [peeled]
  exact peel_emptyBrackets empty

end Unwrapping

end SheetCompiler.FieldType
