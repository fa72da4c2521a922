import SheetCompiler.Record
import SheetCompiler.Sha256
import SheetCompiler.Text.Bytes

/-!
# Record wire format

Record sets as bytes. Natural numbers take one byte below 251; larger ones take a
marker byte and two, four or eight bytes, least significant first. Integers are
folded into the naturals first, so that small magnitudes stay small. Texts and
lists are preceded by their length, alternatives by their number; records and
pairs have nothing around their parts. Reading takes what it needs from the front
of the bytes and leaves the rest.
-/

set_option autoImplicit false

namespace SheetCompiler.Wire

/-- Reads a value from the front of some bytes. -/
abbrev Reader (α : Type) := List UInt8 → Option (α × List UInt8)

/-! ## Numbers -/

/-- The little-endian bytes of a number. -/
def littleEndian : (width n : Nat) → List UInt8
  | 0, _ => []
  | width + 1, n => UInt8.ofNat n :: littleEndian width (n / 256)

/-- Reads a little-endian number. -/
def readLittleEndian : (width : Nat) → Reader Nat
  | 0, bytes => some (0, bytes)
  | _ + 1, [] => none
  | width + 1, byte :: bytes =>
      (readLittleEndian width bytes).map fun (high, rest) => (byte.toNat + 256 * high, rest)

def writeNat (n : Nat) : List UInt8 :=
  if n < 251 then [UInt8.ofNat n]
  else if n < 0x10000 then 251 :: littleEndian 2 n
  else if n < 0x100000000 then 252 :: littleEndian 4 n
  else 253 :: littleEndian 8 n

/-- Reads a natural number of up to `width` bytes. Numbers may be written longer
than they need. -/
def readNat (width : Nat) : Reader Nat
  | [] => none
  | byte :: bytes =>
      if byte < 251 then some (byte.toNat, bytes)
      else if byte = 251 then readLittleEndian 2 bytes
      else if byte = 252 ∧ 4 ≤ width then readLittleEndian 4 bytes
      else if byte = 253 ∧ 8 ≤ width then readLittleEndian 8 bytes
      else none

/-- The natural number that stands for an integer: even for the naturals, odd for
the negative integers. -/
def zigZag : Int → Nat
  | .ofNat n => 2 * n
  | .negSucc n => 2 * n + 1

def unZigZag (n : Nat) : Int := if n % 2 = 0 then .ofNat (n / 2) else .negSucc (n / 2)

/-! ## Texts and lists -/

def writeText (text : String) : List UInt8 :=
  let bytes := Text.utf8 text
  writeNat bytes.length ++ bytes

def readText : Reader String := fun bytes => do
  let (length, bytes) ← readNat 8 bytes
  if bytes.length < length then none
  else
    let text ← Text.ofUtf8? (bytes.take length)
    return (text, bytes.drop length)

/-- Reads a number of values. -/
def readMany {α : Type} (read : Reader α) : Nat → Reader (List α)
  | 0, bytes => some ([], bytes)
  | n + 1, bytes => do
      let (item, bytes) ← read bytes
      let (items, bytes) ← readMany read n bytes
      return (item :: items, bytes)

def writeList {α : Type} (write : α → List UInt8) (items : List α) : List UInt8 :=
  writeNat items.length ++ items.flatMap write

def readList {α : Type} (read : Reader α) : Reader (List α) := fun bytes => do
  let (length, bytes) ← readNat 8 bytes
  readMany read length bytes

/-! ## Types -/

def writeBase (base : BaseType) : List UInt8 := writeNat (BaseType.all.idxOf base)

def readBase : Reader BaseType := fun bytes => do
  let (index, bytes) ← readNat 4 bytes
  let base ← BaseType.all[index]?
  return (base, bytes)

def writeType : FieldType → List UInt8
  | .scalar base => writeNat 0 ++ writeBase base
  | .array base => writeNat 1 ++ writeBase base
  | .matrix base => writeNat 2 ++ writeBase base
  | .map key value => writeNat 3 ++ writeBase key ++ writeBase value
  | .pairs key value => writeNat 4 ++ writeBase key ++ writeBase value

def readBasePair (build : BaseType → BaseType → FieldType) : Reader FieldType := fun bytes => do
  let (key, bytes) ← readBase bytes
  let (value, bytes) ← readBase bytes
  return (build key value, bytes)

def readBaseOnly (build : BaseType → FieldType) : Reader FieldType := fun bytes =>
  (readBase bytes).map fun (base, bytes) => (build base, bytes)

def readType : Reader FieldType := fun bytes => do
  let (index, bytes) ← readNat 4 bytes
  match index with
  | 0 => readBaseOnly .scalar bytes
  | 1 => readBaseOnly .array bytes
  | 2 => readBaseOnly .matrix bytes
  | 3 => readBasePair .map bytes
  | 4 => readBasePair .pairs bytes
  | _ => none

/-! ## Values -/

mutual

def writeValue : Value → List UInt8
  | .null => writeNat 0
  | .bool value => writeNat 1 ++ [if value then 1 else 0]
  | .int value => writeNat 2 ++ writeNat (zigZag value.toInt)
  | .uint value => writeNat 3 ++ writeNat value.toNat
  | .float value => writeNat 4 ++ littleEndian 8 value.bits.toNat
  | .text value => writeNat 5 ++ writeText value
  | .list items => writeNat 6 ++ writeNat items.length ++ writeValues items
  | .pairs entries => writeNat 7 ++ writeNat entries.length ++ writeEntries entries

def writeValues : List Value → List UInt8
  | [] => []
  | item :: items => writeValue item ++ writeValues items

def writeEntries : List (Value × Value) → List UInt8
  | [] => []
  | (key, value) :: entries => writeValue key ++ writeValue value ++ writeEntries entries

end

def readBool : Reader Bool
  | 0 :: bytes => some (false, bytes)
  | 1 :: bytes => some (true, bytes)
  | _ => none

/-- Reads a key with its value. -/
def readEntry (read : Reader Value) : Reader (Value × Value) := fun bytes => do
  let (key, bytes) ← read bytes
  let (value, bytes) ← read bytes
  return ((key, value), bytes)

/-- Reads a value that nests less deep than `fuel`. -/
def readValueWithin : (fuel : Nat) → Reader Value
  | 0, _ => none
  | fuel + 1, bytes => do
      let (index, bytes) ← readNat 4 bytes
      match index with
      | 0 => return (.null, bytes)
      | 1 => (readBool bytes).map fun (value, bytes) => (.bool value, bytes)
      | 2 => (readNat 8 bytes).map fun (n, bytes) => (.int (Int64.ofInt (unZigZag n)), bytes)
      | 3 => (readNat 8 bytes).map fun (n, bytes) => (.uint (UInt64.ofNat n), bytes)
      | 4 => (readLittleEndian 8 bytes).map fun (n, bytes) => (.float ⟨UInt64.ofNat n⟩, bytes)
      | 5 => (readText bytes).map fun (text, bytes) => (.text text, bytes)
      | 6 =>
          (readList (readValueWithin fuel) bytes).map fun (items, bytes) => (.list items, bytes)
      | 7 =>
          (readList (readEntry (readValueWithin fuel)) bytes).map
            fun (entries, bytes) => (.pairs entries, bytes)
      | _ => none

/-- Reads a value. Each level of nesting takes a byte, so the number of bytes
bounds the depth. -/
def readValue : Reader Value := fun bytes => readValueWithin bytes.length bytes

/-! ## Record sets -/

def writeField (field : RecordField) : List UInt8 := writeText field.name ++ writeType field.type

def readField : Reader RecordField := fun bytes => do
  let (name, bytes) ← readText bytes
  let (type, bytes) ← readType bytes
  return (⟨name, type⟩, bytes)

/-- The bytes of a record set. -/
def encode (records : RecordSet) : List UInt8 :=
  writeText records.table ++ writeText records.nameSpace ++
    writeList writeField records.fields ++ writeList (writeList writeValue) records.rows

/-- Reads a record set and leaves the bytes after it. -/
def readRecords : Reader RecordSet := fun bytes => do
  let (table, bytes) ← readText bytes
  let (nameSpace, bytes) ← readText bytes
  let (fields, bytes) ← readList readField bytes
  let (rows, bytes) ← readList (readList readValue) bytes
  return ({ table, nameSpace, fields, rows }, bytes)

/-- The record set at the front of some bytes. -/
def decode? (bytes : List UInt8) : Option RecordSet := (readRecords bytes).map (·.1)

/-- The digest of some bytes in hexadecimal. -/
def digestText (bytes : List UInt8) : String := Text.hex (Sha256.digest bytes)

end SheetCompiler.Wire
