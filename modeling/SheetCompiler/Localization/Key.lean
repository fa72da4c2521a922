import SheetCompiler.Sha256
import SheetCompiler.Text.Bytes
import SheetCompiler.Text.Casing

/-!
# Localization keys

The key of a text is made of the name of its field and a summary of its first
words. A text without ASCII letters and digits is summed up by its digest.
-/

set_option autoImplicit false

namespace SheetCompiler.Localization

/-- What stands in front of a key in a cell. -/
def keyMark : String := "LOC_"

/-- The words between blanks, each reduced to its ASCII letters and digits,
without those of which nothing is left. -/
def plainWords (text : String) : List String :=
  (((Text.pieces Text.isBlank text.toList).map fun word => word.filter Char.isAlphanum).filter
    fun word => !word.isEmpty).map String.ofList

/-- The first eight digits of the digest of a text. -/
def shortDigest (text : String) : String :=
  String.ofList (((Text.hex (Sha256.digest (Text.utf8 text))).toList.take 8).map Char.toUpper)

/-- The first words of a text in upper snake case; at least one word is taken. -/
def summary (text : String) (words : Nat) : String :=
  let kept := (plainWords text).take (max words 1)
  if kept.isEmpty then shortDigest text else Text.Casing.upperSnake (Text.joined " " kept)

def keyBase (field text : String) (words : Nat) : String :=
  s!"{Text.Casing.upperSnake field}_{summary text words}"

/-- The letters of ASCII and of the accented Latin blocks. -/
def isLatin (c : Char) : Bool :=
  let n := c.toNat
  n < 0x80 || (0xC0 ≤ n && n ≤ 0x24F) || (0x1E00 ≤ n && n ≤ 0x1EFF)

/-- Whether a text has a letter of another script. -/
def hasForeignLetter (text : String) : Bool :=
  text.toList.any fun c => Text.Letter.isAlphabetic c && !isLatin c

end SheetCompiler.Localization
