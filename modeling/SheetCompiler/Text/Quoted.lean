import SheetCompiler.Text.Category

/-!
# Quoted text

Texts in double quotes for messages. Quotes and backslashes are escaped, and so
is every character that would not be seen on its own: controls, formats, blanks
other than the space, unassigned characters, and marks that extend the character
before them.
-/

set_option autoImplicit false

namespace SheetCompiler.Text.Quoted

/-- The characters beside the marks that extend the character before them. -/
def otherExtending : List CodeRange := CodeRange.ofText "
  9be 9d7 b3e b57 bbe bd7 cc0 cc2 cc7-cc8 cca-ccb cd5-cd6 d3e d57 dcf ddf 1715 1734 1b35 1b3b
  1b3d 1b43-1b44 1baa 1bf2-1bf3 200c 302e-302f a953 a9c0 ff9e-ff9f 111c0 11235 1133e 1134d
  11357 113b8 113c2 113c5 113c7-113c9 113cf 114b0 114bd 115af 116b6 11930 1193d 11f41
  16ff0-16ff1 1d165-1d166 1d16d-1d172 e0020-e007f"

def isExtending (c : Char) : Bool :=
  Category.anyContains [.nonspacingMark, .enclosingMark] c ||
    CodeRange.containsChar otherExtending c

/-- The categories of characters that are not seen. -/
def hidden : List Category :=
  [.control, .format, .privateUse, .spaceSeparator, .lineSeparator, .paragraphSeparator]

/-- The categories of characters that are seen. -/
def visible : List Category :=
  Category.all.filter fun category => !hidden.contains category

def isVisible (c : Char) : Bool :=
  if c.toNat < 128 then 32 ≤ c.toNat && c.toNat < 127
  else Category.anyContains visible c && !isExtending c

/-- A character as it is written between quotes. -/
def escape (c : Char) : List Char :=
  match c with
  | '"' => ['\\', '"']
  | '\\' => ['\\', '\\']
  | '\n' => ['\\', 'n']
  | '\r' => ['\\', 'r']
  | '\t' => ['\\', 't']
  | '\x00' => ['\\', '0']
  | c => if isVisible c then [c] else ['\\', 'u', '\x7b'] ++ Nat.toDigits 16 c.toNat ++ ['\x7d']

/-- A text in quotes. -/
def write (text : String) : String :=
  String.ofList ('"' :: (text.toList.flatMap escape ++ ['"']))

/-- A character where single quotes are escaped too. -/
def escapeAll (c : Char) : List Char := if c = '\'' then ['\\', '\''] else escape c

/-- A text in quotes, with its single quotes escaped too. -/
def writeStrict (text : String) : String :=
  String.ofList ('"' :: (text.toList.flatMap escapeAll ++ ['"']))

end SheetCompiler.Text.Quoted
