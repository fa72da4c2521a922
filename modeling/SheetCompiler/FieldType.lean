/-!
# Field types

The twelve base types of a cell and the five shapes a column builds from them.
-/

set_option autoImplicit false

namespace SheetCompiler

inductive BaseType where
  | int8 | int16 | int32 | int64
  | uint8 | uint16 | uint32 | uint64
  | float | double
  | bool
  | string
  deriving DecidableEq, Repr

namespace BaseType

def all : List BaseType :=
  [.int8, .int16, .int32, .int64, .uint8, .uint16, .uint32, .uint64,
    .float, .double, .bool, .string]

def name : BaseType → String
  | .int8 => "int8"
  | .int16 => "int16"
  | .int32 => "int32"
  | .int64 => "int64"
  | .uint8 => "uint8"
  | .uint16 => "uint16"
  | .uint32 => "uint32"
  | .uint64 => "uint64"
  | .float => "float"
  | .double => "double"
  | .bool => "bool"
  | .string => "string"

/-- The type of a field in generated code. -/
def codeName : BaseType → String
  | .int8 => "i8"
  | .int16 => "i16"
  | .int32 => "i32"
  | .int64 => "i64"
  | .uint8 => "u8"
  | .uint16 => "u16"
  | .uint32 => "u32"
  | .uint64 => "u64"
  | .float => "f32"
  | .double => "f64"
  | .bool => "bool"
  | .string => "String"

/-- The name of a base type in a stored schema. -/
def schemaName : BaseType → String
  | .int8 => "Int8"
  | .int16 => "Int16"
  | .int32 => "Int32"
  | .int64 => "Int64"
  | .uint8 => "UInt8"
  | .uint16 => "UInt16"
  | .uint32 => "UInt32"
  | .uint64 => "UInt64"
  | .float => "Float"
  | .double => "Double"
  | .bool => "Bool"
  | .string => "String"

/-- The spellings a declaration may use, in lower case. -/
def spellings : BaseType → List String
  | .int8 => ["sbyte", "int8"]
  | .int16 => ["short", "int16"]
  | .int32 => ["int", "int32"]
  | .int64 => ["long", "int64"]
  | .uint8 => ["byte", "uint8"]
  | .uint16 => ["ushort", "uint16"]
  | .uint32 => ["uint", "uint32"]
  | .uint64 => ["ulong", "uint64"]
  | .float => ["float"]
  | .double => ["double"]
  | .bool => ["bool", "boolean"]
  | .string => ["string"]

def isSigned : BaseType → Bool
  | .int8 | .int16 | .int32 | .int64 => true
  | _ => false

def isUnsigned : BaseType → Bool
  | .uint8 | .uint16 | .uint32 | .uint64 => true
  | _ => false

def isFloating : BaseType → Bool
  | .float | .double => true
  | _ => false

def isNumeric (base : BaseType) : Bool :=
  base.isSigned || base.isUnsigned || base.isFloating

end BaseType

/-- The shape of a column with the base types of its parts. -/
inductive FieldType where
  | scalar (base : BaseType)
  | array (base : BaseType)
  | matrix (base : BaseType)
  | map (key value : BaseType)
  | pairs (key value : BaseType)
  deriving DecidableEq, Repr

namespace FieldType

/-- The type that stands in for a declaration that cannot be read. -/
def text : FieldType := .scalar .string

/-- The base type of the elements, or of the values of a map. -/
def element : FieldType → BaseType
  | .scalar base | .array base | .matrix base => base
  | .map _ value | .pairs _ value => value

def isScalar : FieldType → Bool
  | .scalar _ => true
  | _ => false

/-- The same shape over another element type; keys stay. -/
def withElement (base : BaseType) : FieldType → FieldType
  | .scalar _ => .scalar base
  | .array _ => .array base
  | .matrix _ => .matrix base
  | .map key _ => .map key base
  | .pairs key _ => .pairs key base

/-- The canonical spelling of a type. -/
def display : FieldType → String
  | .scalar base => base.name
  | .array base => s!"[{base.name}]"
  | .matrix base => s!"[[{base.name}]]"
  | .map key value => s!"map<{key.name},{value.name}>"
  | .pairs key value => s!"kvp<{key.name},{value.name}>"

/-- The type of a field in generated code. -/
def codeName : FieldType → String
  | .scalar base => base.codeName
  | .array base => s!"Vec<{base.codeName}>"
  | .matrix base => s!"Vec<Vec<{base.codeName}>>"
  | .map key value => s!"BTreeMap<{key.codeName}, {value.codeName}>"
  | .pairs key value => s!"Vec<({key.codeName}, {value.codeName})>"

end FieldType

end SheetCompiler
