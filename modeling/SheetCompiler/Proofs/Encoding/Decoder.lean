import SheetCompiler.Proofs.Encoding.Chunk
import SheetCompiler.Proofs.Encoding.Table

/-!
# Decoders that go chunk by chunk

All encodings but UTF-16, and ISO-2022-JP as long as nothing is escaped, decode a text
chunk by chunk. The second bytes of pairs are no separators, and no table has an ASCII
character.
-/

set_option autoImplicit false

namespace SheetCompiler.Encoding

open Delimited (isSeparator)

/-- What is decoded is decoded chunk by chunk. -/
structure IsChunked (decode? : List UInt8 → Option (List Char)) : Prop where
  empty : decode? [] = some []
  spells : ∀ bytes cs, decode? bytes = some cs → Spells decode? bytes cs

variable {decode? : List UInt8 → Option (List Char)} {byte : UInt8} {c : Char}
  {bytes rest : List UInt8} {cs : List Char}

/-- Bytes with a chunk in front. -/
def IsCut (decode? : List UInt8 → Option (List Char)) (bytes : List UInt8) : Prop :=
  ∃ front cs rest, bytes = front ++ rest ∧ Chunk decode? front cs ∧
    decode? bytes = (decode? rest).map (cs ++ ·)

theorem isChunked_of_isCut (empty : decode? [] = some [])
    (cut : ∀ byte bytes, decode? (byte :: bytes) = none ∨ IsCut decode? (byte :: bytes)) :
    IsChunked decode? := by
  refine ⟨empty, fun bytes => ?_⟩
  induction size : bytes.length using Nat.strongRecOn generalizing bytes with
  | ind length ih =>
    intro cs decoded
    cases bytes with
    | nil =>
        rw [empty] at decoded
        cases decoded
        exact .nil
    | cons byte bytes =>
        rcases cut byte bytes with failed | ⟨front, chars, rest, split, chunk, same⟩
        · rw [failed] at decoded
          cases decoded
        · rw [same] at decoded
          obtain ⟨more, spelled, rfl⟩ := Option.map_eq_some_iff.mp decoded
          have shorter : rest.length < length := by
            have some := List.length_pos_of_ne_nil chunk.ne_nil
            rw [← size, split, List.length_append]
            omega
          rw [split]
          exact .cons chunk (ih _ shorter rest rfl more spelled)

/-! ## Single bytes -/

/-- ASCII bytes stand for themselves, and no other byte for an ASCII character. -/
def IsCompatible (single? : UInt8 → Option Char) : Prop :=
  ∀ byte c, single? byte = some c → if isAscii byte then c = asciiChar byte else 0x80 ≤ c.toNat

theorem le_of_isAscii_eq_false (beyond : isAscii byte = false) : 0x80 ≤ byte :=
  UInt8.not_lt.mp (of_decide_eq_false beyond)

theorem chunk_of_single {single? : UInt8 → Option Char} (compatible : IsCompatible single?)
    (single : single? byte = some c)
    (steps : ∀ rest, decode? (byte :: rest) = (decode? rest).map (c :: ·)) :
    Chunk decode? [byte] [c] := by
  have stands : StandsFor decode? [byte] [c] := fun rest more decoded => by
    simp [steps, decoded]
  have known := compatible byte c single
  cases ascii : isAscii byte with
  | true =>
      rw [if_pos ascii] at known
      subst known
      exact .ascii byte ascii stands
  | false =>
      rw [ascii] at known
      have beyond := le_of_isAscii_eq_false ascii
      refine .foreign (by simp) ?_ (by simp) ?_ stands
      · simpa using isSeparator_of_le (UInt8.le_trans (by decide) beyond)
      · simpa using known

theorem isCut_of_single {single? : UInt8 → Option Char} (compatible : IsCompatible single?)
    (single : single? byte = some c)
    (steps : ∀ rest, decode? (byte :: rest) = (decode? rest).map (c :: ·)) :
    IsCut decode? (byte :: rest) :=
  ⟨[byte], [c], rest, rfl, chunk_of_single compatible single steps, steps rest⟩

theorem isCut_of_foreign (front : List UInt8) (cs : List Char) (some : front ≠ [])
    (text : ∀ byte ∈ front, 0x2D ≤ byte) (someChars : cs ≠ []) (foreign : ∀ c ∈ cs, 0x80 ≤ c.toNat)
    (steps : ∀ rest, decode? (front ++ rest) = (decode? rest).map (cs ++ ·)) :
    IsCut decode? (front ++ rest) := by
  have apart : ∀ byte ∈ front, isSeparator byte = false := fun byte member =>
    isSeparator_of_le (text byte member)
  refine ⟨front, cs, rest, rfl, .foreign some apart someChars foreign ?_, steps rest⟩
  intro rest more decoded
  simp [steps, decoded]

theorem isCut_of_char (front : List UInt8) (some : front ≠ []) (text : ∀ byte ∈ front, 0x2D ≤ byte)
    (foreign : 0x80 ≤ c.toNat)
    (steps : ∀ rest, decode? (front ++ rest) = (decode? rest).map (c :: ·)) :
    IsCut decode? (front ++ rest) :=
  isCut_of_foreign front [c] some text (by simp) (by simpa) steps

theorem isChunked_mapM {single? : UInt8 → Option Char} (compatible : IsCompatible single?) :
    IsChunked fun bytes => bytes.mapM single? := by
  refine isChunked_of_isCut rfl fun byte bytes => ?_
  cases single : single? byte with
  | none => exact .inl (by simp [single])
  | some c =>
      refine .inr (isCut_of_single compatible single fun rest => ?_)
      cases decoded : rest.mapM single? <;> simp [single, decoded]

theorem isCompatible_pageChar? {page : Index} (foreign : page.IsForeign) :
    IsCompatible (pageChar? page) := by
  intro byte c single
  unfold pageChar? at single
  split at single
  · rename_i ascii
    rw [if_pos ascii]
    exact (Option.some.inj single).symm
  · rename_i beyond
    rw [if_neg beyond]
    split at single
    · rename_i found
      cases single
      exact foreign _ _ found
    · split_ifs at single with control
      cases single
      rw [toNat_asciiChar]
      exact UInt8.le_iff_toNat_le.mp (le_of_isAscii_eq_false (by simpa using beyond))

theorem toNat_of_charOfCode? {code : Nat} (valid : charOfCode? code = some c) : c.toNat = code := by
  unfold charOfCode? at valid
  split_ifs at valid with isValid
  cases valid
  rw [Char.ofNat, dif_pos isValid]
  rfl

theorem isCompatible_userDefined : IsCompatible fun byte =>
    if isAscii byte then some (asciiChar byte) else charOfCode? (0xF780 + (byte.toNat - 0x80)) := by
  intro byte c single
  dsimp only at single
  split_ifs at single ⊢ with ascii
  · exact (Option.some.inj single).symm
  · rw [toNat_of_charOfCode? single]
    omega

/-! ## Pairs -/

/-- The bytes of a pair are no separators, and what they stand for is not ASCII. -/
def IsForeignPair (pair? : UInt8 → UInt8 → Option (List Char)) : Prop :=
  ∀ lead trail cs, pair? lead trail = some cs →
    0x80 ≤ lead ∧ 0x2D ≤ trail ∧ cs ≠ [] ∧ ∀ c ∈ cs, 0x80 ≤ c.toNat

theorem isChunked_decodePairs? {single? : UInt8 → Option Char}
    {pair? : UInt8 → UInt8 → Option (List Char)} (compatible : IsCompatible single?)
    (foreign : IsForeignPair pair?) : IsChunked (decodePairs? single? pair?) := by
  refine isChunked_of_isCut rfl fun byte bytes => ?_
  cases single : single? byte with
  | some c =>
      refine .inr (isCut_of_single compatible single fun rest => ?_)
      cases rest <;> simp [decodePairs?, single]
  | none =>
      cases bytes with
      | nil => exact .inl (by simp [decodePairs?, single])
      | cons next bytes =>
          cases pair : pair? byte next with
          | none => exact .inl (by simp [decodePairs?, single, pair])
          | some cs =>
              obtain ⟨lead, trail, some, apart⟩ := foreign _ _ _ pair
              refine .inr (isCut_of_foreign [byte, next] cs (by simp) ?_ some apart ?_)
              · have beyond : (0x2D : UInt8) ≤ byte := UInt8.le_trans (by decide) lead
                simp [beyond, trail]
              · intro rest
                cases decoded : decodePairs? single? pair? rest <;>
                  simp [decodePairs?, single, pair, decoded]

theorem le_of_isBetween {low high : UInt8} (between : isBetween low high byte = true) :
    low ≤ byte := by
  simp only [isBetween, Bool.and_eq_true, decide_eq_true_eq] at between
  exact between.1

theorem isCompatible_asciiChar? : IsCompatible asciiChar? := by
  intro byte c single
  unfold asciiChar? at single
  split_ifs at single ⊢ with ascii
  cases single
  rfl

theorem le_of_halfWidth? (single : halfWidth? byte = some c) : 0x80 ≤ byte ∧ 0x80 ≤ c.toNat := by
  unfold halfWidth? at single
  split_ifs at single with between
  rw [toNat_of_charOfCode? single]
  exact ⟨UInt8.le_trans (by decide) (le_of_isBetween between), by omega⟩

theorem isCompatible_shiftJisSingle? : IsCompatible shiftJisSingle? := by
  intro byte c single
  unfold shiftJisSingle? at single
  cases ascii : isAscii byte with
  | true =>
      have below : byte ≤ 0x80 := UInt8.le_of_lt (of_decide_eq_true ascii)
      rw [if_pos below] at single
      exact (Option.some.inj single).symm
  | false =>
      have beyond := le_of_isAscii_eq_false ascii
      split_ifs at single with below
      · cases single
        rw [toNat_asciiChar]
        exact UInt8.le_iff_toNat_le.mp beyond
      · exact (le_of_halfWidth? single).2

/-- A character of a table on its own. -/
theorem foreign_of_map {found : Option Char} (foreign : ∀ c, found = some c → 0x80 ≤ c.toNat)
    (mapped : (found.map fun c => [c]) = some cs) : cs ≠ [] ∧ ∀ c ∈ cs, 0x80 ≤ c.toNat := by
  obtain ⟨c, rfl, rfl⟩ := Option.map_eq_some_iff.mp mapped
  simpa using foreign c rfl

theorem le_of_isBetween_or {low high other last : UInt8} {bound : UInt8}
    (between : ¬ (!(isBetween low high byte || isBetween other last byte)) = true)
    (first : bound ≤ low) (second : bound ≤ other) : bound ≤ byte := by
  simp only [Bool.not_eq_true', Bool.not_eq_false, Bool.or_eq_true] at between
  rcases between with inside | inside
  · exact UInt8.le_trans first (le_of_isBetween inside)
  · exact UInt8.le_trans second (le_of_isBetween inside)

theorem foreign_of_shiftJis (n : Nat)
    (found : (if 8836 ≤ n ∧ n ≤ 10715 then (charOfCode? (0xE000 + (n - 8836))).map fun c => [c]
      else (Table.jis0208.get? n).map fun c => [c]) = some cs) :
    cs ≠ [] ∧ ∀ c ∈ cs, 0x80 ≤ c.toNat := by
  split_ifs at found
  · refine foreign_of_map (fun c valid => ?_) found
    rw [toNat_of_charOfCode? valid]
    omega
  · exact foreign_of_map (Table.isForeign_jis0208 n) found

theorem isForeignPair_shiftJisPair? : IsForeignPair shiftJisPair? := by
  intro lead trail cs pair
  rw [shiftJisPair?, Option.ite_none_left_eq_some, Option.ite_none_left_eq_some] at pair
  obtain ⟨leads, trails, found⟩ := pair
  exact ⟨le_of_isBetween_or leads (by decide) (by decide),
    le_of_isBetween_or trails (by decide) (by decide), foreign_of_shiftJis _ found⟩

theorem isForeignPair_eucKrPair? : IsForeignPair eucKrPair? := by
  intro lead trail cs pair
  unfold eucKrPair? at pair
  split_ifs at pair with inside
  rw [Bool.and_eq_true] at inside
  exact ⟨UInt8.le_trans (by decide) (le_of_isBetween inside.1),
    UInt8.le_trans (by decide) (le_of_isBetween inside.2),
    foreign_of_map (Table.isForeign_ksc5601 _) pair⟩

theorem foreign_of_big5 (n : Nat)
    (found : (if n = 1133 then some ['Ê', '\u0304']
      else if n = 1135 then some ['Ê', '\u030C']
      else if n = 1164 then some ['ê', '\u0304']
      else if n = 1166 then some ['ê', '\u030C']
      else (Table.big5.get? n).map fun c => [c]) = some cs) :
    cs ≠ [] ∧ ∀ c ∈ cs, 0x80 ≤ c.toNat := by
  split_ifs at found
  iterate 4
    · cases found
      simp only [List.forall_mem_cons, List.not_mem_nil, false_imp_iff, implies_true, and_true]
      decide
  · exact foreign_of_map (Table.isForeign_big5 n) found

theorem isForeignPair_big5Pair? : IsForeignPair big5Pair? := by
  intro lead trail cs pair
  rw [big5Pair?, Option.ite_none_left_eq_some, Option.ite_none_left_eq_some] at pair
  obtain ⟨leads, trails, found⟩ := pair
  have lead : 0x81 ≤ lead := le_of_isBetween (by simpa using leads)
  exact ⟨UInt8.le_trans (by decide) lead, le_of_isBetween_or trails (by decide) (by decide),
    foreign_of_big5 _ found⟩

/-! ## Up to four bytes -/

theorem le_of_gb18030Ranged? {n : Nat} (found : gb18030Ranged? n = some c) : 0x80 ≤ c.toNat := by
  unfold gb18030Ranged? at found
  split_ifs at found
  · rw [toNat_of_charOfCode? found]
    omega
  · rw [toNat_of_charOfCode? found]
    omega
  · obtain ⟨range, last, valid⟩ := Option.bind_eq_some_iff.mp found
    have listed := List.mem_of_mem_filter (List.mem_of_getLast? last)
    have beyond := Table.le_of_mem_gb18030Ranges range listed
    rw [toNat_of_charOfCode? valid]
    omega

theorem le_of_gb18030Pair? {lead trail : UInt8} (found : gb18030Pair? lead trail = some c) :
    0x2D ≤ trail ∧ 0x80 ≤ c.toNat := by
  rw [gb18030Pair?, Option.ite_none_right_eq_some, Bool.or_eq_true] at found
  obtain ⟨inside | inside, found⟩ := found
  · exact ⟨UInt8.le_trans (by decide) (le_of_isBetween inside),
      Table.isForeign_gb18030 _ _ found⟩
  · exact ⟨UInt8.le_trans (by decide) (le_of_isBetween inside),
      Table.isForeign_gb18030 _ _ found⟩

theorem le_of_gb18030Four? {first second third fourth : UInt8}
    (found : gb18030Four? first second third fourth = some c) :
    0x2D ≤ third ∧ 0x2D ≤ fourth ∧ 0x80 ≤ c.toNat := by
  rw [gb18030Four?, Option.ite_none_right_eq_some, Bool.and_eq_true] at found
  obtain ⟨⟨leads, digits⟩, found⟩ := found
  exact ⟨UInt8.le_trans (by decide) (le_of_isBetween leads),
    UInt8.le_trans (by decide) (le_of_isBetween digits), le_of_gb18030Ranged? found⟩

theorem isCut_of_isAscii (ascii : isAscii byte = true)
    (steps : ∀ rest, decode? (byte :: rest) = (decode? rest).map (asciiChar byte :: ·)) :
    IsCut decode? (byte :: rest) :=
  isCut_of_single isCompatible_asciiChar? (by rw [asciiChar?, if_pos ascii]) steps

section

variable {second : UInt8}

theorem isAscii_of_isLead (lead : isLead byte = true) : isAscii byte = false := by
  have beyond : (0x81 : UInt8) ≤ byte := le_of_isBetween lead
  simpa [isAscii] using UInt8.le_trans (by decide : (0x80 : UInt8) ≤ 0x81) beyond

theorem isCut_gb18030Pair? (lead : isLead byte = true) (euro : byte ≠ 0x80)
    (digit : isBetween 0x30 0x39 second = false) :
    decodeGb18030? (byte :: second :: bytes) = none ∨
      IsCut decodeGb18030? (byte :: second :: bytes) := by
  have ascii := isAscii_of_isLead lead
  have text : (0x2D : UInt8) ≤ byte := UInt8.le_trans (by decide) (le_of_isBetween lead)
  cases pair : gb18030Pair? byte second with
  | none => exact .inl (by simp [decodeGb18030?.eq_def (byte :: _), ascii, euro, digit, pair])
  | some c =>
      obtain ⟨trail, foreign⟩ := le_of_gb18030Pair? pair
      refine .inr (isCut_of_char [byte, second] (by simp) (by simp [text, trail]) foreign ?_)
      intro rest
      cases decoded : decodeGb18030? rest <;>
        simp [decodeGb18030?.eq_def (byte :: _), ascii, euro, lead, digit, pair, decoded]

theorem isCut_gb18030Four? (lead : isLead byte = true) (euro : byte ≠ 0x80)
    (digit : isBetween 0x30 0x39 second = true) :
    decodeGb18030? (byte :: second :: bytes) = none ∨
      IsCut decodeGb18030? (byte :: second :: bytes) := by
  have ascii := isAscii_of_isLead lead
  have text : (0x2D : UInt8) ≤ byte := UInt8.le_trans (by decide) (le_of_isBetween lead)
  have digits : (0x2D : UInt8) ≤ second := UInt8.le_trans (by decide) (le_of_isBetween digit)
  match bytes with
  | [] | [_] => exact .inl (by simp [decodeGb18030?.eq_def (byte :: _), ascii, euro, digit])
  | third :: fourth :: bytes =>
      cases four : gb18030Four? byte second third fourth with
      | none => exact .inl (by simp [decodeGb18030?.eq_def (byte :: _), ascii, euro, digit, four])
      | some c =>
          obtain ⟨leads, last, foreign⟩ := le_of_gb18030Four? four
          refine .inr (isCut_of_char [byte, second, third, fourth] (by simp)
            (by simp [text, digits, leads, last]) foreign ?_)
          intro rest
          cases decoded : decodeGb18030? rest <;>
            simp [decodeGb18030?.eq_def (byte :: _), ascii, euro, lead, digit, four, decoded]

end

/-- A digit behind a lead byte begins four bytes, and anything else is a pair. -/
theorem isChunked_decodeGb18030? : IsChunked decodeGb18030? := by
  refine isChunked_of_isCut rfl fun byte bytes => ?_
  cases ascii : isAscii byte with
  | true =>
      refine .inr (isCut_of_isAscii ascii fun rest => ?_)
      simp [decodeGb18030?.eq_def (byte :: _), ascii]
  | false =>
      by_cases euro : byte = 0x80
      · subst euro
        refine .inr (isCut_of_char [0x80] (by simp) (by simp) (by decide : 0x80 ≤ '€'.toNat)
          fun rest => ?_)
        simp [decodeGb18030?.eq_def (0x80 :: _), ascii]
      · match bytes with
        | [] => exact .inl (by simp [decodeGb18030?.eq_def [byte], ascii, euro])
        | second :: bytes =>
            cases lead : isLead byte with
            | false => exact .inl (by simp [decodeGb18030?.eq_def (byte :: _), ascii, euro, lead])
            | true =>
                cases digit : isBetween 0x30 0x39 second with
                | true => exact isCut_gb18030Four? lead euro digit
                | false => exact isCut_gb18030Pair? lead euro digit

theorem le_of_rowColumn? {lead trail : UInt8} {table : Index} (foreign : table.IsForeign)
    (found : (rowColumn? lead trail).bind table.get? = some c) :
    0x2D ≤ lead ∧ 0x2D ≤ trail ∧ 0x80 ≤ c.toNat := by
  obtain ⟨n, inside, entry⟩ := Option.bind_eq_some_iff.mp found
  rw [rowColumn?, Option.ite_none_right_eq_some, Bool.and_eq_true] at inside
  exact ⟨UInt8.le_trans (by decide) (le_of_isBetween inside.1.1),
    UInt8.le_trans (by decide) (le_of_isBetween inside.1.2), foreign n c entry⟩

section

variable {second : UInt8}

theorem isCut_eucJpHalf : decodeEucJp? (0x8E :: second :: bytes) = none ∨
    IsCut decodeEucJp? (0x8E :: second :: bytes) := by
  have ascii : isAscii 0x8E = false := by decide
  cases single : halfWidth? second with
  | none => exact .inl (by simp [decodeEucJp?.eq_def (_ :: _), ascii, single])
  | some c =>
      obtain ⟨beyond, foreign⟩ := le_of_halfWidth? single
      have text : (0x2D : UInt8) ≤ second := UInt8.le_trans (by decide) beyond
      refine .inr (isCut_of_char [0x8E, second] (by simp) (by simp [text]) foreign fun rest => ?_)
      cases decoded : decodeEucJp? rest <;>
        simp [decodeEucJp?.eq_def (_ :: _ :: _), ascii, single, decoded]

theorem isCut_eucJpThree : decodeEucJp? (0x8F :: second :: bytes) = none ∨
    IsCut decodeEucJp? (0x8F :: second :: bytes) := by
  have ascii : isAscii 0x8F = false := by decide
  match bytes with
  | [] => exact .inl (by simp [decodeEucJp?.eq_def (_ :: _), ascii])
  | third :: bytes =>
      cases found : (rowColumn? second third).bind Table.jis0212.get? with
      | none => exact .inl (by simp [decodeEucJp?.eq_def (_ :: _), ascii, found])
      | some c =>
          obtain ⟨lead, trail, foreign⟩ := le_of_rowColumn? Table.isForeign_jis0212 found
          refine .inr (isCut_of_char [0x8F, second, third] (by simp) (by simp [lead, trail])
            foreign fun rest => ?_)
          cases decoded : decodeEucJp? rest <;>
            simp [decodeEucJp?.eq_def (_ :: _ :: _), ascii, found, decoded]

theorem isCut_eucJpPair (ascii : isAscii byte = false) (half : byte ≠ 0x8E) (three : byte ≠ 0x8F) :
    decodeEucJp? (byte :: second :: bytes) = none ∨
      IsCut decodeEucJp? (byte :: second :: bytes) := by
  cases found : (rowColumn? byte second).bind Table.jis0208.get? with
  | none => exact .inl (by simp [decodeEucJp?.eq_def (_ :: _), ascii, half, three, found])
  | some c =>
      obtain ⟨lead, trail, foreign⟩ := le_of_rowColumn? Table.isForeign_jis0208 found
      refine .inr (isCut_of_char [byte, second] (by simp) (by simp [lead, trail]) foreign ?_)
      intro rest
      cases decoded : decodeEucJp? rest <;>
        simp [decodeEucJp?.eq_def (_ :: _), ascii, half, three, found, decoded]

end

theorem isChunked_decodeEucJp? : IsChunked decodeEucJp? := by
  refine isChunked_of_isCut rfl fun byte bytes => ?_
  cases ascii : isAscii byte with
  | true =>
      refine .inr (isCut_of_isAscii ascii fun rest => ?_)
      simp [decodeEucJp?.eq_def (byte :: _), ascii]
  | false =>
      match bytes with
      | [] => exact .inl (by simp [decodeEucJp?.eq_def [byte], ascii])
      | second :: bytes =>
          by_cases half : byte = 0x8E
          · subst half
            exact isCut_eucJpHalf
          · by_cases three : byte = 0x8F
            · subst three
              exact isCut_eucJpThree
            · exact isCut_eucJpPair ascii half three

/-! ## UTF-8 -/

theorem decodeUtf8?_eq_some_iff : decodeUtf8? bytes = some cs ↔ bytes = Text.utf8OfChars cs := by
  rw [decodeUtf8?, Option.map_eq_some_iff]
  constructor
  · rintro ⟨text, valid, rfl⟩
    rw [← Text.utf8_eq, Text.utf8_of_ofUtf8? valid]
  · rintro rfl
    refine ⟨String.ofList cs, ?_, String.toList_ofList⟩
    rw [← Text.utf8_ofList, Text.ofUtf8?_utf8]

theorem exists_byte_of_ascii (ascii : c.toNat < 0x80) :
    ∃ byte, isAscii byte = true ∧ asciiChar byte = c := by
  have code : (UInt8.ofNat c.toNat).toNat = c.toNat :=
    UInt8.toNat_ofNat_of_lt' (Nat.lt_trans ascii (by decide))
  refine ⟨UInt8.ofNat c.toNat, decide_eq_true (UInt8.lt_iff_toNat_lt.mpr ?_), ?_⟩
  · rw [code]
    exact ascii
  · rw [asciiChar, code, Char.ofNat_toNat]

theorem chunk_utf8OfChars (c : Char) : Chunk decodeUtf8? (Text.utf8OfChars [c]) [c] := by
  have stands : StandsFor decodeUtf8? (Text.utf8OfChars [c]) [c] := by
    intro rest more decoded
    rw [decodeUtf8?_eq_some_iff] at decoded ⊢
    rw [decoded, Text.utf8OfChars_append]
  by_cases ascii : c.toNat < 0x80
  · obtain ⟨byte, small, rfl⟩ := exists_byte_of_ascii ascii
    rw [utf8OfChars_asciiChar small] at stands ⊢
    exact .ascii byte small stands
  · have beyond : ∀ other ∈ [c], 0x80 ≤ other.toNat := by simpa using ascii
    exact .foreign (Text.utf8OfChars_ne_nil (by simp)) (isSeparator_of_mem_utf8OfChars beyond)
      (by simp) beyond stands

theorem isChunked_decodeUtf8? : IsChunked decodeUtf8? := by
  refine ⟨decodeUtf8?_eq_some_iff.mpr rfl, fun bytes cs decoded => ?_⟩
  obtain rfl := decodeUtf8?_eq_some_iff.mp decoded
  clear decoded
  induction cs with
  | nil => exact .nil
  | cons c cs ih =>
      rw [← List.singleton_append, Text.utf8OfChars_append]
      exact .cons (chunk_utf8OfChars c) ih

/-! ## Every encoding -/

theorem isChunked_decodeNothing? : IsChunked decodeNothing? := by
  refine ⟨rfl, fun bytes cs decoded => ?_⟩
  cases bytes with
  | nil =>
      cases decoded
      exact .nil
  | cons => cases decoded

theorem isCompatible_ascii : IsCompatible (Selected.single? .ascii) := by
  intro byte c single
  rw [Selected.single?, Option.ite_none_left_eq_some] at single
  exact isCompatible_asciiChar? byte c single.2

/-- Without escapes there are ASCII characters only. -/
theorem spells_decodeIso2022Jp? (plain : 0x1B ∉ bytes)
    (decoded : decodeIso2022Jp? .ascii false bytes = some cs) :
    Spells (decodeIso2022Jp? .ascii false) bytes cs := by
  induction bytes generalizing cs with
  | nil =>
      cases decoded
      exact .nil
  | cons byte bytes ih =>
      rw [List.mem_cons, not_or] at plain
      have steps (rest : List UInt8) : decodeIso2022Jp? .ascii false (byte :: rest)
          = ((Selected.single? .ascii byte).bind fun c =>
            (decodeIso2022Jp? .ascii false rest).map (c :: ·)) := by
        cases single : Selected.single? .ascii byte <;>
          cases decoded : decodeIso2022Jp? .ascii false rest <;>
            simp [decodeIso2022Jp?.eq_def _ _ (byte :: _), Ne.symm plain.1, single, decoded]
      rw [steps] at decoded
      obtain ⟨c, single, mapped⟩ := Option.bind_eq_some_iff.mp decoded
      obtain ⟨more, rest, rfl⟩ := Option.map_eq_some_iff.mp mapped
      refine .cons (chunk_of_single isCompatible_ascii single fun rest => ?_) (ih plain.2 rest)
      rw [steps, single, Option.bind_some]

theorem isChunked_big5 : IsChunked decodeBig5? :=
  isChunked_decodePairs? isCompatible_asciiChar? isForeignPair_big5Pair?

theorem isChunked_shiftJis : IsChunked decodeShiftJis? :=
  isChunked_decodePairs? isCompatible_shiftJisSingle? isForeignPair_shiftJisPair?

theorem isChunked_eucKr : IsChunked decodeEucKr? :=
  isChunked_decodePairs? isCompatible_asciiChar? isForeignPair_eucKrPair?

theorem isChunked_page {gap : Nat} {text : String} (listed : text ∈ Table.pages) :
    IsChunked (decodePage? (.ofRuns [(gap, text)])) :=
  isChunked_mapM (isCompatible_pageChar? (Table.isForeign_page gap listed))

theorem isChunked_of_mem : ∀ encoding ∈ all,
    encoding = iso2022Jp ∨ encoding = utf16Be ∨ encoding = utf16Le ∨
      IsChunked encoding.decode? := by
  simp only [all, List.forall_mem_cons, List.not_mem_nil, false_imp_iff, implies_true, and_true]
  and_intros
  · exact .inr (.inr (.inr isChunked_decodeUtf8?))
  iterate 28
    · exact .inr (.inr (.inr (isChunked_page (by simp [Table.pages]))))
  · exact .inr (.inr (.inr isChunked_decodeGb18030?))
  · exact .inr (.inr (.inr isChunked_decodeGb18030?))
  · exact .inr (.inr (.inr isChunked_big5))
  · exact .inr (.inr (.inr isChunked_decodeEucJp?))
  · exact .inl trivial
  · exact .inr (.inr (.inr isChunked_shiftJis))
  · exact .inr (.inr (.inr isChunked_eucKr))
  · exact .inr (.inr (.inr isChunked_decodeNothing?))
  · exact .inr (.inl trivial)
  · exact .inr (.inr (.inl trivial))
  · exact .inr (.inr (.inr (isChunked_mapM isCompatible_userDefined)))

/-! ## Byte order marks and labels -/

variable {encoding : Encoding}

theorem byteOrderMark?_eq_none (big : ∀ rest, bytes ≠ 0xFE :: 0xFF :: rest)
    (little : ∀ rest, bytes ≠ 0xFF :: 0xFE :: rest)
    (mark : ∀ rest, bytes ≠ 0xEF :: 0xBB :: 0xBF :: rest) :
    byteOrderMark? bytes = none := by
  unfold byteOrderMark?
  split
  · exact absurd rfl (mark _)
  · exact absurd rfl (little _)
  · exact absurd rfl (big _)
  · rfl

theorem withoutMark_of_byteOrderMark?_utf8 {rest : List UInt8}
    (marked : byteOrderMark? bytes = some (.utf8, rest)) :
    Delimited.withoutMark bytes = rest := by
  unfold byteOrderMark? at marked
  split at marked
  · simp_all [Delimited.withoutMark]
  · have names : utf16Le.name = utf8.name :=
      congrArg Encoding.name (congrArg Prod.fst (Option.some.inj marked))
    exact absurd names (by decide)
  · have names : utf16Be.name = utf8.name :=
      congrArg Encoding.name (congrArg Prod.fst (Option.some.inj marked))
    exact absurd names (by decide)
  · cases marked

theorem withoutMark_of_byteOrderMark?_eq_none
    (unmarked : byteOrderMark? bytes = none) : Delimited.withoutMark bytes = bytes := by
  unfold Delimited.withoutMark
  split
  · cases unmarked
  · rfl

/-- The encoding of a text is that of the mark in front of it, if there is one. -/
theorem decode?_of_decode {text : String} (decoded : encoding.decode bytes = .ok text) :
    ((byteOrderMark? bytes).getD (encoding, bytes)).1.decode?
      ((byteOrderMark? bytes).getD (encoding, bytes)).2 = some text.toList := by
  unfold decode at decoded
  extract_lets chars? at decoded
  have chosen : ((byteOrderMark? bytes).getD (encoding, bytes)).1.decode?
      ((byteOrderMark? bytes).getD (encoding, bytes)).2 = chars? := by
    unfold chars?
    cases byteOrderMark? bytes <;> rfl
  rw [chosen]
  cases known : chars? with
  | none =>
      rw [known] at decoded
      cases decoded
  | some cs =>
      rw [known] at decoded
      rw [← Except.ok.inj decoded, String.toList_ofList]

theorem spells_of_decode? {text : List Char} (listed : encoding ∈ all)
    (splittable : encoding ≠ .utf16Be ∧ encoding ≠ .utf16Le)
    (plain : encoding = .iso2022Jp → 0x1B ∉ bytes)
    (decoded : encoding.decode? bytes = some text) : Spells encoding.decode? bytes text := by
  rcases isChunked_of_mem encoding listed with rfl | big | little | chunked
  · exact spells_decodeIso2022Jp? (plain rfl) decoded
  · exact absurd big splittable.1
  · exact absurd little splittable.2
  · exact chunked.spells bytes text decoded

theorem mem_all_of_ofOptionalLabel {label : Option String}
    (asked : ofOptionalLabel label = .ok encoding) : encoding ∈ all := by
  cases label with
  | none =>
      cases asked
      exact List.mem_cons_self
  | some label =>
      change ofLabel label = .ok encoding at asked
      unfold ofLabel at asked
      extract_lets wanted at asked
      cases sought : all.find? fun encoding => encoding.labels.contains wanted with
      | none =>
          rw [sought] at asked
          cases asked
      | some other =>
          rw [sought] at asked
          obtain rfl := Except.ok.inj asked
          exact List.mem_of_find?_eq_some sought

theorem decode?_nil (listed : encoding ∈ all) : encoding.decode? [] = some [] := by
  rcases isChunked_of_mem encoding listed with rfl | rfl | rfl | chunked
  · rfl
  · rfl
  · rfl
  · exact chunked.empty

end SheetCompiler.Encoding
