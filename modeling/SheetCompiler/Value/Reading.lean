import SheetCompiler.FieldType
import SheetCompiler.Number.Decimal
import SheetCompiler.Text.Basic
import SheetCompiler.Value

/-!
# Reading values

The typed value of the text of a cell. Elements are separated by `,`, matrix
rows by `;`, entries of a map by either, and a key from its value by `:` or `=`.
Blank pieces do not count.
-/

set_option autoImplicit false

namespace SheetCompiler

open Text

/-- Why a text has no value of its declared type. -/
inductive ReadError where
  | notBool (text : String)
  | notInteger (text : String) (base : BaseType) (fault : Integer.Fault)
  | notDecimal (text : String) (base : BaseType)
  | outOfRange (text : String) (base : BaseType)
  | missingKey (entry : String)
  deriving DecidableEq, Repr

namespace ReadError

/-- The error without its innermost cause. -/
def message : ReadError → String
  | .notBool text => s!"Failed to parse '{text}' as bool"
  | .notInteger text base _ | .notDecimal text base =>
      s!"Failed to parse '{text}' as {base.name}"
  | .outOfRange text base => s!"Value '{text}' is out of range for {base.name}"
  | .missingKey entry => s!"Entry '{entry}' is missing a key separator"

/-- The error with its innermost cause. -/
def fullMessage (error : ReadError) : String :=
  match error with
  | .notInteger _ _ fault => s!"{error.message}: {fault.message}"
  | .notDecimal _ _ => error.message ++ ": invalid float literal"
  | _ => error.message

end ReadError

namespace Value

/-- The truth value of a word, blanks and letter case aside. -/
def boolOfText? (cs : List Char) : Option Bool :=
  let word := String.ofList (lower (trim cs))
  if ["true", "t", "yes", "y", "1"].contains word then some true
  else if ["false", "f", "no", "n", "0"].contains word then some false
  else none

/-- The least and the greatest value of a signed base type. -/
def signedRange : BaseType → Int × Int
  | .int8 => (-128, 127)
  | .int16 => (-32768, 32767)
  | .int32 => (-2147483648, 2147483647)
  | _ => (-9223372036854775808, 9223372036854775807)

/-- The greatest value of an unsigned base type. -/
def unsignedMax : BaseType → Nat
  | .uint8 => 255
  | .uint16 => 65535
  | .uint32 => 4294967295
  | _ => 18446744073709551615

/-- The greatest finite number of single precision. -/
def maxSingle : Binary64 := ⟨0x47EFFFFFE0000000⟩

/-- Whether a number fits the declared precision. Infinities and NaN always do. -/
def fitsPrecision (base : BaseType) (x : Binary64) : Bool :=
  !(base == .float && x.isFinite && maxSingle.lt x.abs)

def ofInteger (base : BaseType) (cs : List Char) : Except ReadError Value :=
  let text := String.ofList cs
  match Integer.signed cs with
  | .error fault => .error (.notInteger text base fault)
  | .ok n =>
      let (low, high) := signedRange base
      if low ≤ n ∧ n ≤ high then .ok (.int (Int64.ofInt n)) else .error (.outOfRange text base)

def ofNatural (base : BaseType) (cs : List Char) : Except ReadError Value :=
  let text := String.ofList cs
  match Integer.unsigned cs with
  | .error fault => .error (.notInteger text base fault)
  | .ok n =>
      if n ≤ unsignedMax base then .ok (.uint (UInt64.ofNat n))
      else .error (.outOfRange text base)

def ofDecimal (base : BaseType) (cs : List Char) : Except ReadError Value :=
  let text := String.ofList cs
  match Decimal.read? cs with
  | none => .error (.notDecimal text base)
  | some x => if fitsPrecision base x then .ok (.float x) else .error (.outOfRange text base)

/-- The value of one element. A blank element is null. -/
def ofElement (base : BaseType) (cs : List Char) : Except ReadError Value :=
  let cs := trim cs
  if cs.isEmpty then .ok .null
  else
    match base with
    | .string => .ok (.text (String.ofList cs))
    | .bool =>
        match boolOfText? cs with
        | some value => .ok (.bool value)
        | none => .error (.notBool (String.ofList cs))
    | .float | .double => ofDecimal base cs
    | .int8 | .int16 | .int32 | .int64 => ofInteger base cs
    | .uint8 | .uint16 | .uint32 | .uint64 => ofNatural base cs

end Value

/-- The elements of an array cell or of a matrix row. -/
def splitElements (cs : List Char) : List (List Char) := trimmedPieces (· == ',') cs

/-- The rows of a matrix cell. -/
def splitRows (cs : List Char) : List (List Char) := trimmedPieces (· == ';') cs

/-- The entries of a map cell. -/
def splitEntries (cs : List Char) : List (List Char) :=
  trimmedPieces (fun c => c == ',' || c == ';') cs

/-- The key and the value of an entry, both trimmed. -/
def splitPair? (cs : List Char) : Option (List Char × List Char) :=
  (cut? (fun c => c == ':' || c == '=') cs).map fun (key, value) => (trim key, trim value)

namespace Value

def ofArray (base : BaseType) (cs : List Char) : Except ReadError Value :=
  ((splitElements cs).mapM (ofElement base)).map .list

def ofEntry (key value : BaseType) (entry : List Char) : Except ReadError (Value × Value) :=
  match splitPair? entry with
  | none => .error (.missingKey (String.ofList entry))
  | some (keyText, valueText) => do
      let key ← ofElement key keyText
      let value ← ofElement value valueText
      return (key, value)

def ofEntries (key value : BaseType) (cs : List Char) : Except ReadError Value :=
  ((splitEntries cs).mapM (ofEntry key value)).map .pairs

/-- The value of a blank cell. -/
def ofBlank : FieldType → Value
  | .scalar _ => .null
  | .array _ | .matrix _ => .list []
  | .map .. | .pairs .. => .pairs []

/-- The value of a cell of the given type. The first error counts. -/
def ofCell (type : FieldType) (text : String) : Except ReadError Value :=
  let cs := text.toList
  if cs.all isBlank then .ok (ofBlank type)
  else
    match type with
    | .scalar base => ofElement base cs
    | .array base => ofArray base cs
    | .matrix base => ((splitRows cs).mapM (ofArray base)).map .list
    | .map key value | .pairs key value => ofEntries key value cs

end Value

end SheetCompiler
