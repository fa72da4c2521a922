import SheetCompiler.Encoding.ChineseTable
import SheetCompiler.Encoding.JapaneseTable
import SheetCompiler.Encoding.KoreanTable

/-!
# Decoders

From bytes to characters. Malformed bytes have no characters.
-/

set_option autoImplicit false

namespace SheetCompiler.Encoding

/-- The character of a code point outside the surrogates. -/
def charOfCode? (n : Nat) : Option Char := if n.isValidChar then some (Char.ofNat n) else none

def isAscii (byte : UInt8) : Bool := byte < 0x80

def asciiChar (byte : UInt8) : Char := Char.ofNat byte.toNat

def isBetween (low high byte : UInt8) : Bool := low ≤ byte && byte ≤ high

/-! ## Single bytes -/

/-- The character of a byte in a code page. Bytes from 80 to 9F without a character
of their own are controls. -/
def pageChar? (page : Index) (byte : UInt8) : Option Char :=
  if isAscii byte then some (asciiChar byte)
  else
    match page.get? (byte.toNat - 0x80) with
    | some c => some c
    | none => if byte < 0xA0 then some (asciiChar byte) else none

/-- The upper half of an ISO code page, whose table begins at A0. -/
def isoPage (text : String) : Index := .ofRuns [(32, text)]

def decodePage? (page : Index) (bytes : List UInt8) : Option (List Char) :=
  bytes.mapM (pageChar? page)

/-- Bytes from 80 on stand for characters of private use. -/
def decodeUserDefined? (bytes : List UInt8) : Option (List Char) :=
  bytes.mapM fun byte =>
    if isAscii byte then some (asciiChar byte) else charOfCode? (0xF780 + (byte.toNat - 0x80))

/-! ## UTF-16 -/

/-- The units of pairs of bytes. -/
def units? (bigEndian : Bool) : List UInt8 → Option (List Nat)
  | [] => some []
  | [_] => none
  | first :: second :: bytes =>
      let unit :=
        if bigEndian then first.toNat * 256 + second.toNat else second.toNat * 256 + first.toNat
      (units? bigEndian bytes).map (unit :: ·)

def isHighSurrogate (unit : Nat) : Bool := 0xD800 ≤ unit && unit < 0xDC00

def isLowSurrogate (unit : Nat) : Bool := 0xDC00 ≤ unit && unit < 0xE000

/-- The characters of units; surrogates only count in pairs. -/
def charsOfUnits? : List Nat → Option (List Char)
  | [] => some []
  | [unit] => (charOfCode? unit).map fun c => [c]
  | unit :: next :: units =>
      if isHighSurrogate unit then
        if isLowSurrogate next then
          (charsOfUnits? units).map
            (Char.ofNat (0x10000 + (unit - 0xD800) * 0x400 + (next - 0xDC00)) :: ·)
        else none
      else
        match charOfCode? unit, charsOfUnits? (next :: units) with
        | some c, some cs => some (c :: cs)
        | _, _ => none

def decodeUtf16? (bigEndian : Bool) (bytes : List UInt8) : Option (List Char) :=
  (units? bigEndian bytes).bind charsOfUnits?

/-! ## Two bytes -/

/-- The characters of bytes where a byte that is not a character of its own begins a
pair. -/
def decodePairs? (single? : UInt8 → Option Char) (pair? : UInt8 → UInt8 → Option (List Char)) :
    List UInt8 → Option (List Char)
  | [] => some []
  | [byte] => (single? byte).map fun c => [c]
  | byte :: next :: bytes =>
      match single? byte with
      | some c => (decodePairs? single? pair? (next :: bytes)).map (c :: ·)
      | none =>
          match pair? byte next, decodePairs? single? pair? bytes with
          | some front, some cs => some (front ++ cs)
          | _, _ => none

/-- An ASCII character. -/
def asciiChar? (byte : UInt8) : Option Char := if isAscii byte then some (asciiChar byte) else none

/-- A Japanese syllable of half width. -/
def halfWidth? (byte : UInt8) : Option Char :=
  if isBetween 0xA1 0xDF byte then charOfCode? (0xFF61 + (byte.toNat - 0xA1)) else none

def shiftJisSingle? (byte : UInt8) : Option Char :=
  if byte ≤ 0x80 then some (asciiChar byte) else halfWidth? byte

def shiftJisPair? (lead trail : UInt8) : Option (List Char) :=
  if !(isBetween 0x81 0x9F lead || isBetween 0xE0 0xFC lead) then none
  else if !(isBetween 0x40 0x7E trail || isBetween 0x80 0xFC trail) then none
  else
    let row := lead.toNat - if lead < 0xA0 then 0x81 else 0xC1
    let n := row * 188 + (trail.toNat - if trail < 0x7F then 0x40 else 0x41)
    if 8836 ≤ n ∧ n ≤ 10715 then (charOfCode? (0xE000 + (n - 8836))).map fun c => [c]
    else (Table.jis0208.get? n).map fun c => [c]

def decodeShiftJis? : List UInt8 → Option (List Char) := decodePairs? shiftJisSingle? shiftJisPair?

def eucKrPair? (lead trail : UInt8) : Option (List Char) :=
  if isBetween 0x81 0xFE lead && isBetween 0x41 0xFE trail then
    (Table.ksc5601.get? ((lead.toNat - 0x81) * 190 + (trail.toNat - 0x41))).map fun c => [c]
  else none

def decodeEucKr? : List UInt8 → Option (List Char) := decodePairs? asciiChar? eucKrPair?

/-- Four pairs stand for a letter with a mark on its own. -/
def big5Pair? (lead trail : UInt8) : Option (List Char) :=
  if !isBetween 0x81 0xFE lead then none
  else if !(isBetween 0x40 0x7E trail || isBetween 0xA1 0xFE trail) then none
  else
    let n := (lead.toNat - 0x81) * 157 + (trail.toNat - if trail < 0x7F then 0x40 else 0x62)
    if n = 1133 then some ['Ê', '\u0304']
    else if n = 1135 then some ['Ê', '\u030C']
    else if n = 1164 then some ['ê', '\u0304']
    else if n = 1166 then some ['ê', '\u030C']
    else (Table.big5.get? n).map fun c => [c]

def decodeBig5? : List UInt8 → Option (List Char) := decodePairs? asciiChar? big5Pair?

/-! ## Up to four bytes -/

/-- The character of the number of four bytes. -/
def gb18030Ranged? (n : Nat) : Option Char :=
  if 189000 ≤ n then charOfCode? (n - 189000 + 0x10000)
  else if 39419 < n then none
  else if n = 7457 then charOfCode? 0xE7C7
  else
    ((Table.gb18030Ranges.filter fun range => range.1 ≤ n).getLast?).bind fun (start, code) =>
      charOfCode? (n - start + code)

def gb18030Pair? (lead trail : UInt8) : Option Char :=
  if isBetween 0x40 0x7E trail || isBetween 0x80 0xFE trail then
    Table.gb18030.get?
      ((lead.toNat - 0x81) * 190 + (trail.toNat - if trail < 0x7F then 0x40 else 0x41))
  else none

def isLead (byte : UInt8) : Bool := isBetween 0x81 0xFE byte

def gb18030Four? (first second third fourth : UInt8) : Option Char :=
  if isLead third && isBetween 0x30 0x39 fourth then
    gb18030Ranged?
      ((((first.toNat - 0x81) * 10 + (second.toNat - 0x30)) * 126 + (third.toNat - 0x81)) * 10 +
        (fourth.toNat - 0x30))
  else none

/-- Characters of one, two or four bytes. -/
def decodeGb18030? : List UInt8 → Option (List Char)
  | [] => some []
  | byte :: rest =>
      if isAscii byte then (decodeGb18030? rest).map (asciiChar byte :: ·)
      else if byte = 0x80 then (decodeGb18030? rest).map ('€' :: ·)
      else if !isLead byte then none
      else
        match rest with
        | [] => none
        | second :: rest =>
            if isBetween 0x30 0x39 second then
              match rest with
              | third :: fourth :: rest =>
                  match gb18030Four? byte second third fourth, decodeGb18030? rest with
                  | some c, some cs => some (c :: cs)
                  | _, _ => none
              | _ => none
            else
              match gb18030Pair? byte second, decodeGb18030? rest with
              | some c, some cs => some (c :: cs)
              | _, _ => none

/-- The number of a pair in a set of 94 rows and columns. -/
def rowColumn? (lead trail : UInt8) : Option Nat :=
  if isBetween 0xA1 0xFE lead && isBetween 0xA1 0xFE trail then
    some ((lead.toNat - 0xA1) * 94 + (trail.toNat - 0xA1))
  else none

/-- Characters of one or two bytes, and of three behind 8F. -/
def decodeEucJp? : List UInt8 → Option (List Char)
  | [] => some []
  | byte :: rest =>
      if isAscii byte then (decodeEucJp? rest).map (asciiChar byte :: ·)
      else
        match rest with
        | [] => none
        | second :: rest =>
            if byte = 0x8E then
              match halfWidth? second, decodeEucJp? rest with
              | some c, some cs => some (c :: cs)
              | _, _ => none
            else if byte = 0x8F then
              match rest with
              | [] => none
              | third :: rest =>
                  match (rowColumn? second third).bind Table.jis0212.get?, decodeEucJp? rest with
                  | some c, some cs => some (c :: cs)
                  | _, _ => none
            else
              match (rowColumn? byte second).bind Table.jis0208.get?, decodeEucJp? rest with
              | some c, some cs => some (c :: cs)
              | _, _ => none

/-! ## Escape sequences -/

/-- The character set that an escape sequence selects. -/
inductive Selected where
  | ascii
  | roman
  | halfWidth
  | jis0208
  deriving DecidableEq, Repr

/-- A byte of a set of single bytes. -/
def Selected.single? (selected : Selected) (byte : UInt8) : Option Char :=
  if byte = 0x0E ∨ byte = 0x0F ∨ byte = 0x1B then none
  else
    match selected with
    | .ascii => asciiChar? byte
    | .roman =>
        if byte = 0x5C then some '¥' else if byte = 0x7E then some '‾' else asciiChar? byte
    | .halfWidth =>
        if isBetween 0x21 0x5F byte then charOfCode? (0xFF61 + (byte.toNat - 0x21)) else none
    | .jis0208 => none

/-- The set that the bytes behind an escape select. -/
def Selected.ofEscape? (second third : UInt8) : Option Selected :=
  if second = 0x28 then
    if third = 0x42 then some .ascii
    else if third = 0x4A then some .roman
    else if third = 0x49 then some .halfWidth
    else none
  else if second = 0x24 ∧ (third = 0x40 ∨ third = 0x42) then some .jis0208
  else none

def jis0208Pair? (lead trail : UInt8) : Option Char :=
  if isBetween 0x21 0x7E lead && isBetween 0x21 0x7E trail then
    Table.jis0208.get? ((lead.toNat - 0x21) * 94 + (trail.toNat - 0x21))
  else none

/-- Reads text with escape sequences. An escape sequence right behind another one is
malformed. -/
def decodeIso2022Jp? (selected : Selected) (escaped : Bool) : List UInt8 → Option (List Char)
  | [] => some []
  | byte :: rest =>
      if byte = 0x1B then
        match rest with
        | second :: third :: rest =>
            match Selected.ofEscape? second third with
            | some next => if escaped then none else decodeIso2022Jp? next true rest
            | none => none
        | _ => none
      else if selected = .jis0208 then
        match rest with
        | [] => none
        | second :: rest =>
            match jis0208Pair? byte second, decodeIso2022Jp? selected false rest with
            | some c, some cs => some (c :: cs)
            | _, _ => none
      else
        match selected.single? byte, decodeIso2022Jp? selected false rest with
        | some c, some cs => some (c :: cs)
        | _, _ => none

end SheetCompiler.Encoding
