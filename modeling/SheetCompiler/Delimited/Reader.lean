/-!
# Reading delimited text

Bytes as records of fields. A delimiter ends a field, a line break ends a record,
and blank lines are no records.

A quote in front of a field opens a quoted field, in which delimiters and line
breaks are text and a quote is written twice. What follows the closing quote is
text again, and a quote that is never closed runs to the end.
-/

set_option autoImplicit false

namespace SheetCompiler.Delimited

def quoteByte : UInt8 := 0x22

def isLineBreak (byte : UInt8) : Bool := byte == 0x0A || byte == 0x0D

/-- What has been read of the current record. -/
inductive Progress where
  /-- Nothing. -/
  | record
  /-- A delimiter, and nothing of the field behind it. -/
  | field
  /-- Text that is not quoted. -/
  | plain
  /-- Quoted text. -/
  | quoted
  /-- A quote in quoted text, which closes it or is the first of two. -/
  | closing
  deriving DecidableEq, Repr

/-- A place in the text. The bytes of the current field, the fields of the current
record and the records before it stand in reverse. -/
structure Cursor where
  progress : Progress
  bytes : List UInt8
  fields : List (List UInt8)
  records : List (List (List UInt8))
  deriving DecidableEq, Repr

namespace Cursor

def start : Cursor := ⟨.record, [], [], []⟩

def push (cursor : Cursor) (progress : Progress) (byte : UInt8) : Cursor :=
  { cursor with progress, bytes := byte :: cursor.bytes }

def endField (cursor : Cursor) : Cursor :=
  { cursor with progress := .field, bytes := [], fields := cursor.bytes.reverse :: cursor.fields }

def endRecord (cursor : Cursor) : Cursor :=
  let ended := cursor.endField
  ⟨.record, [], [], ended.fields.reverse :: ended.records⟩

/-- A byte outside quotes. -/
def readPlain (delimiter : UInt8) (cursor : Cursor) (byte : UInt8) : Cursor :=
  if byte = delimiter then cursor.endField
  else if isLineBreak byte then cursor.endRecord
  else cursor.push .plain byte

/-- The first byte of a field. -/
def readFirst (delimiter : UInt8) (cursor : Cursor) (byte : UInt8) : Cursor :=
  if byte = quoteByte then { cursor with progress := .quoted }
  else cursor.readPlain delimiter byte

def read (delimiter : UInt8) (cursor : Cursor) (byte : UInt8) : Cursor :=
  match cursor.progress with
  | .record => if isLineBreak byte then cursor else cursor.readFirst delimiter byte
  | .field => cursor.readFirst delimiter byte
  | .plain => cursor.readPlain delimiter byte
  | .quoted =>
      if byte = quoteByte then { cursor with progress := .closing } else cursor.push .quoted byte
  | .closing =>
      if byte = quoteByte then cursor.push .quoted byte else cursor.readPlain delimiter byte

/-- The records at the end of the text. -/
def finish (cursor : Cursor) : List (List (List UInt8)) :=
  if cursor.progress = .record then cursor.records.reverse else cursor.endRecord.records.reverse

end Cursor

/-- Bytes without a byte order mark of UTF-8 in front. -/
def withoutMark : List UInt8 → List UInt8
  | 0xEF :: 0xBB :: 0xBF :: bytes => bytes
  | bytes => bytes

/-- The records of a text. -/
def read (delimiter : UInt8) (bytes : List UInt8) : List (List (List UInt8)) :=
  ((withoutMark bytes).foldl (Cursor.read delimiter) .start).finish

end SheetCompiler.Delimited
