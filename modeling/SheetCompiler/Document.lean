import SheetCompiler.Number.Binary64

/-!
# Documents

The tree that a stored schema or a settings file is read into before its parts
get their types. Members keep the order of the text, repeated keys included.

A `plain` leaf is a scalar without quotes in a notation that leaves its type to
the reader: it counts as a string where a string is wanted and as a number or a
truth value where one of those is.
-/

set_option autoImplicit false

namespace SheetCompiler

inductive Document where
  | null
  | bool (value : Bool)
  | integer (value : Int)
  | number (value : Binary64)
  | string (value : String)
  | plain (text : String)
  | array (items : List Document)
  | object (members : List (String × Document))
  deriving BEq, Repr, Inhabited

namespace Document

/-- The value of the first member with a key. -/
def member? (key : String) : Document → Option Document
  | object members => (members.find? fun member => member.1 == key).map (·.2)
  | _ => none

end Document

end SheetCompiler
