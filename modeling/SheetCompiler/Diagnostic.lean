import SheetCompiler.FieldType
import SheetCompiler.Scope
import SheetCompiler.Severity

/-!
# Diagnostics

Soft findings about the header rows of a sheet. Reading a header never fails:
what cannot be understood is replaced by a default and reported here.
-/

set_option autoImplicit false

namespace SheetCompiler

/-- What makes a type declaration unreadable. Each fault carries the trimmed
declaration. -/
inductive TypeFault where
  | empty
  | unterminated (declared : String)
  | incompletePair (declared : String)
  | unknownKey (key declared : String)
  | unknownValue (value declared : String)
  | tooDeep (declared : String)
  | malformed (declared : String)
  deriving DecidableEq, Repr

/-- What a diagnostic reports. -/
inductive DiagnosticCause where
  | unknownTag (tag header : String)
  | conflictingScopes (header : String) (chosen : Scope)
  | missingReferenceTarget (header : String)
  | unknownBaseType (name declared : String)
  | malformedType (fault : TypeFault)
  | localizedScalar (field : String) (type : FieldType)
  | localizedStructure (field : String) (type : FieldType)
  deriving DecidableEq, Repr

/-- The kinds of diagnostic that a reader can filter by. -/
inductive DiagnosticCode where
  | unknownTag
  | conflictingScopeTags
  | missingReferenceTarget
  | unknownBaseType
  | malformedType
  | incompatibleTag
  deriving DecidableEq, Repr

def DiagnosticCode.name : DiagnosticCode → String
  | .unknownTag => "UnknownTag"
  | .conflictingScopeTags => "ConflictingScopeTags"
  | .missingReferenceTarget => "MissingReferenceTarget"
  | .unknownBaseType => "UnknownBaseType"
  | .malformedType => "MalformedType"
  | .incompatibleTag => "IncompatibleTag"

def TypeFault.message : TypeFault → String
  | .empty => "Empty type declaration"
  | .unterminated declared => s!"Unterminated type '{declared}'"
  | .incompletePair declared => s!"Type '{declared}' must name both a key and a value type"
  | .unknownKey key declared => s!"Unknown key type '{key}' in '{declared}'"
  | .unknownValue value declared => s!"Unknown value type '{value}' in '{declared}'"
  | .tooDeep declared => s!"Type '{declared}' nests arrays deeper than two levels"
  | .malformed declared => s!"Malformed type '{declared}'"

namespace DiagnosticCause

def code : DiagnosticCause → DiagnosticCode
  | .unknownTag .. => .unknownTag
  | .conflictingScopes .. => .conflictingScopeTags
  | .missingReferenceTarget _ => .missingReferenceTarget
  | .unknownBaseType .. => .unknownBaseType
  | .malformedType _ => .malformedType
  | .localizedScalar .. | .localizedStructure .. => .incompatibleTag

def message : DiagnosticCause → String
  | .unknownTag tag header => s!"Unknown tag '@{tag}' on header '{header}' ignored"
  | .conflictingScopes header chosen =>
      s!"Header '{header}' combines conflicting scope tags; using the last one ({chosen.name})"
  | .missingReferenceTarget header =>
      s!"Reference header '{header}' does not name a target type; treating it as a plain field"
  | .unknownBaseType name declared =>
      s!"Unknown base type '{name}' in '{declared}'; defaulting to string"
  | .malformedType fault => s!"{fault.message}; defaulting to string"
  | .localizedScalar field type =>
      s!"@Lan on non-string column '{field}' ({type.display}) ignored"
  | .localizedStructure field type =>
      s!"@Lan on structured column '{field}' ({type.display}) ignored"

end DiagnosticCause

/-- A finding about one header, with its column once that is known. -/
structure Diagnostic where
  cause : DiagnosticCause
  column : Option Nat
  deriving DecidableEq, Repr

namespace Diagnostic

def ofCause (cause : DiagnosticCause) : Diagnostic := ⟨cause, none⟩

def atColumn (column : Nat) (diagnostic : Diagnostic) : Diagnostic :=
  { diagnostic with column := some column }

/-- Every diagnostic is a warning: none of them stops a run. -/
def severity (_ : Diagnostic) : Severity := .warning

def code (diagnostic : Diagnostic) : DiagnosticCode := diagnostic.cause.code

def message (diagnostic : Diagnostic) : String := diagnostic.cause.message

def display (diagnostic : Diagnostic) : String :=
  match diagnostic.column with
  | some column => s!"[{diagnostic.severity.name}] column {column}: {diagnostic.message}"
  | none => s!"[{diagnostic.severity.name}] {diagnostic.message}"

end Diagnostic

end SheetCompiler
