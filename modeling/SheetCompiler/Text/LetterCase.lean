import SheetCompiler.Text.Letter

/-!
# Letter case of texts

Whole texts in upper and in lower case. Letters are mapped one by one, except
that a capital sigma at the end of a word takes its final form.
-/

set_option autoImplicit false

namespace SheetCompiler.Text.Letter

def isCased (c : Char) : Bool :=
  isUppercase c || isLowercase c || Category.titlecaseLetter.contains c

/-- Quotes, points and colons that stand inside words. -/
def innerMarks : List Char :=
  "'.:\u00b7\u0387\u055f\u05f4\u2018\u2019\u2024\u2027\ufe13\ufe52\ufe55\uff07\uff0e\uff1a".toList

/-- Characters between letters that do not end a word. -/
def isCaseIgnorable (c : Char) : Bool :=
  Category.anyContains
      [.nonspacingMark, .enclosingMark, .format, .modifierLetter, .modifierSymbol] c ||
    innerMarks.contains c

/-- Whether the first character that counts is a letter with case. -/
def startsCased (cs : List Char) : Bool :=
  ((cs.find? fun c => !isCaseIgnorable c).map isCased).getD false

/-- The text in lower case after the characters `before`, latest first. -/
def lowerAfter (before : List Char) : List Char → List Char
  | [] => []
  | c :: cs =>
      let image :=
        if c = 'Σ' then
          if startsCased before && !startsCased cs then ['ς'] else ['σ']
        else toLower c
      image ++ lowerAfter (c :: before) cs

def lowerText (text : String) : String := String.ofList (lowerAfter [] text.toList)

def upperText (text : String) : String := String.ofList (text.toList.flatMap toUpper)

end SheetCompiler.Text.Letter
